import AttrBinder.Config.File
import AttrBinder.Module.Reader

/-!
Reading configuration files. A file is code, of which only assignments of written data, and
imports, are understood.
-/

namespace AttrBinder

namespace Datum

def ofConstant? : Constant → Option Datum
  | .none => some none
  | .bool b => some (bool b)
  | .int n => some (int n)
  | .float x => some (float x)
  | .str s _ => s.toString?.map str
  | _ => Option.none

def typeNames : List String :=
  ["bool", "str", "int", "float", "list"]

mutual

def ofExpr? : Expr → Option Datum
  | .constant c => ofConstant? c
  | .unary .minus (.constant (.int n)) => some (int (-n))
  | .name x => if typeNames.contains x then some (type x) else Option.none
  | .member (.name "ValueKind") "STRING" => some (kind .string)
  | .member (.name "ValueKind") "BOOLEAN" => some (kind .boolean)
  | .list xs => (ofExprs? xs).map list
  | .tuple xs => (ofExprs? xs).map tuple
  | .dict items => (ofItems? items).map dict
  | _ => Option.none

def ofExprs? : List Expr → Option (List Datum)
  | [] => some []
  | e :: rest => do
    let d ← ofExpr? e
    let ds ← ofExprs? rest
    return d :: ds

def ofItems? : List DictItem → Option (List (Datum × Datum))
  | [] => some []
  | .mk (some k) v :: rest => do
    let key ← ofExpr? k
    let d ← ofExpr? v
    let ds ← ofItems? rest
    return (key, d) :: ds
  | .mk Option.none _ :: _ => Option.none

end

end Datum

namespace ConfigFile

def assignments? : List Stmt → Option (List (String × Datum))
  | [] => some []
  | .assign name e :: rest => do
    let d ← Datum.ofExpr? e
    let more ← assignments? rest
    return (name, d) :: more
  | .importAs _ _ _ :: rest => assignments? rest
  | .pass :: rest => assignments? rest
  | _ :: _ => none

def ofText (text : String) : ConfigFile :=
  match (Module.read? text).bind assignments? with
  | some as => { assignments := as }
  | none => { assignments := [], fault := some ("SyntaxError", "invalid syntax") }

end ConfigFile

end AttrBinder
