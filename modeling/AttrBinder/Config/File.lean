import AttrBinder.Config.Basic
import AttrBinder.Table

/-!
Configuration files: code that assigns data to names in capitals. Where a file is looked for, and
which of its names are options.
-/

namespace AttrBinder

/-- What a configuration file does: assignments in order, and then perhaps a fault. -/
structure ConfigFile where
  assignments : List (String × Datum)
  fault : Option (String × String) := none
deriving Inhabited

inductive LoadFault where
  | raised (kind message : String)
  | notTable (why : Datum.TableFault)
deriving Inhabited

def LoadFault.message : LoadFault → String
  | raised _ m => m
  | notTable why => why.message

namespace ConfigFile

def defaultName : String := "wirebind.config.py"

def optionNames : List (String × String) :=
  [("ELEMENT_NAME", "element_name"), ("RUNTIME_ALIAS", "runtime_alias"),
   ("FUNCTION_NAME", "function_name"), ("CELL_KINDS", "cell_kinds")]

def optionValue (option : String) (d : Datum) : Except LoadFault Datum :=
  if option == "cell_kinds" then
    match d.table with
    | .ok entries => .ok (.dict entries)
    | .error why => .error (.notTable why)
  else .ok d

def pick (names : Table Datum) : List (String × String) → Except LoadFault (Table Datum)
  | [] => .ok []
  | (name, option) :: rest =>
    match names.get? name with
    | none => pick names rest
    | some d => do
      let v ← optionValue option d
      let others ← pick names rest
      return (option, v) :: others

def options (f : ConfigFile) : Except LoadFault (Table Datum) :=
  match f.fault with
  | some (kind, message) => .error (.raised kind message)
  | none => pick (Table.setAll [] f.assignments) optionNames

def normalize (path : String) : String :=
  let parts := (path.splitOn "/").filter fun p => p != "" && p != "."
  (if path.startsWith "/" then "/" else "") ++ "/".intercalate parts

def isCode (path : String) : Bool :=
  path.endsWith ".py"

/-- Loads the options of a named file, or of the default one. A file that is not there, or holds
no code, gives none. -/
def load (files : Table ConfigFile) (path : Option String) : Except LoadFault (Table Datum) :=
  let name := normalize (path.getD defaultName)
  match files.get? name with
  | some f => if isCode name then f.options else .ok []
  | none => .ok []

end ConfigFile

def ConfigOptions.ofTable (t : Table Datum) (origin : Origin) : ConfigOptions :=
  let d : ConfigOptions := {}
  { elementName := (t.get? "element_name").getD d.elementName
    aliasName := (t.get? "runtime_alias").getD d.aliasName
    functionName := (t.get? "function_name").getD d.functionName
    cellKinds := (t.get? "cell_kinds").getD d.cellKinds
    origin := origin }

end AttrBinder
