import AttrBinder.Datum
import AttrBinder.Source.Span
import AttrBinder.Text.Word

/-!
Compiler configurations: the names that generated code uses, where the list stands in its template,
and which names are declared to hold cells of which kind. A configuration is only made through
`Config.ofOptions`, which checks its names.
-/

namespace AttrBinder

inductive ConfigFault where
  | notKind (value : Datum)
  | notTable (why : Datum.TableFault)
  | notText (label : String)
  | notIdentifier (label name : String)
  | notDistinct (element aliasName function : String)
  | reserved (label name stem : String)
  | unknownOption (name : String)
deriving Inhabited

def ConfigFault.message : ConfigFault → String
  | notKind v => "not a bindable value kind: " ++ v.text
  | notTable why => why.message
  | notText label => label ++ " is no text"
  | notIdentifier label name =>
    label ++ " must be a Python identifier, got " ++ Text.quoted name
  | notDistinct e a f =>
    "element_name, runtime_alias and function_name must be distinct, got "
      ++ Datum.tupleText [Text.quoted e, Text.quoted a, Text.quoted f]
  | reserved label name stem =>
    label ++ " " ++ Text.quoted name ++ " clashes with generated names starting with "
      ++ Text.quoted stem
  | unknownOption name => "unknown option " ++ name

structure Config where
  elementName : String := "_el"
  aliasName : String := "_wb"
  functionName : String := "bind_attributes"
  origin : Origin := {}
  cellKinds : List (Datum × ValueKind) := []
deriving Inhabited

/-- Options as they are given, before any check. -/
structure ConfigOptions where
  elementName : Datum := .str "_el"
  aliasName : Datum := .str "_wb"
  functionName : Datum := .str "bind_attributes"
  origin : Origin := {}
  cellKinds : Datum := .dict []
deriving Inhabited

namespace Config

def kindOf (d : Datum) : Except ConfigFault ValueKind :=
  match d with
  | .kind k => .ok k
  | .type "bool" => .ok .boolean
  | .type "str" => .ok .string
  | .str s =>
    match ValueKind.ofWord? s with
    | some k => .ok k
    | none => .error (.notKind d)
  | _ => .error (.notKind d)

def kindsOf : List (Datum × Datum) → Except ConfigFault (List (Datum × ValueKind))
  | [] => .ok []
  | (name, d) :: rest => do
    let k ← kindOf d
    return (name, k) :: (← kindsOf rest)

def identifier (label : String) (d : Datum) : Except ConfigFault String :=
  match d with
  | .str s => if Text.isIdentifier s then .ok s else .error (.notIdentifier label s)
  | _ => .error (.notText label)

def stem (aliasName : String) : String :=
  aliasName ++ "_"

def unreserved (aliasName label name : String) : Except ConfigFault Unit :=
  if (stem aliasName).toList.isPrefixOf name.toList then .error (.reserved label name (stem aliasName))
  else .ok ()

/-- Checks options: the declared kinds first, then each name, then the names together. -/
def ofOptions (o : ConfigOptions) : Except ConfigFault Config := do
  let table ← o.cellKinds.table.mapError ConfigFault.notTable
  let kinds ← kindsOf table
  let element ← identifier "element_name" o.elementName
  let aliasName ← identifier "runtime_alias" o.aliasName
  let function ← identifier "function_name" o.functionName
  if element == aliasName || element == function || aliasName == function then
    throw (.notDistinct element aliasName function)
  unreserved aliasName "element_name" element
  unreserved aliasName "function_name" function
  return { elementName := element, aliasName := aliasName, functionName := function
           origin := o.origin, cellKinds := kinds }

def kindOf? (c : Config) (name : String) : Option ValueKind :=
  (c.cellKinds.find? fun (k, _) => match k with
    | .str s => s == name
    | _ => false).map Prod.snd

def moved (c : Config) (origin : Origin) : Config :=
  { c with origin := origin }

/-- The declarations in order of their names; `none` if the names have no common order. -/
def sortedKinds? (c : Config) : Option (List (Datum × ValueKind)) :=
  let comparable := c.cellKinds.all fun (a, _) =>
    c.cellKinds.all fun (b, _) => (Datum.order? a b).isSome
  if comparable || c.cellKinds.length < 2 then
    some (c.cellKinds.mergeSort fun a b => Datum.order? a.1 b.1 != some .gt)
  else none

def key? (c : Config) : Option Datum :=
  c.sortedKinds?.map fun kinds =>
    .tuple [.str c.elementName, .str c.aliasName, .str c.functionName, .str c.origin.file,
      .int c.origin.line, .int c.origin.column,
      .tuple (kinds.map fun (k, v) => .tuple [k, .str v.typeName])]

end Config

end AttrBinder
