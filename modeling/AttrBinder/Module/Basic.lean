import AttrBinder.Expr.Printer

/-!
Generated code: the few statements that binders are made of, and their text.
-/

namespace AttrBinder

inductive Stmt where
  | importAs (package name aliasName : String)
  | define (name : String) (params : Params) (body : List Stmt)
  | assign (target : String) (value : Expr)
  | evaluate (value : Expr)
  | pass

abbrev Module := List Stmt

instance : Inhabited Stmt := ⟨.pass⟩

namespace Stmt

def indentation (depth : Nat) : String :=
  String.ofList (List.replicate (4 * depth) ' ')

mutual

/-- The lines of a statement at a depth of indentation. A definition has an empty line before it. -/
def lines (depth : Nat) : Stmt → List String
  | importAs package name aliasName =>
    [indentation depth ++ "from " ++ package ++ " import " ++ name ++ " as " ++ aliasName]
  | define name params body =>
    "" :: (indentation depth ++ "def " ++ name ++ "(" ++ Expr.writeParams false params ++ "):")
      :: blockLines (depth + 1) body
  | assign target value => [indentation depth ++ target ++ " = " ++ value.print]
  | evaluate value => [indentation depth ++ value.write false Prec.yield]
  | pass => [indentation depth ++ "pass"]

def blockLines (depth : Nat) : List Stmt → List String
  | [] => []
  | s :: rest => lines depth s ++ blockLines depth rest

end

mutual

def isWritable : Stmt → Bool
  | importAs _ _ _ => true
  | define _ params body => Expr.areWritableParams params && areWritable body
  | assign _ value => value.isWritable
  | evaluate value => value.isWritable
  | pass => true

def areWritable : List Stmt → Bool
  | [] => true
  | s :: rest => isWritable s && areWritable rest

end

def joinLines (ls : List String) : String :=
  "\n".intercalate (match ls with
    | "" :: rest => rest
    | _ => ls)

def print (s : Stmt) : String :=
  joinLines (s.lines 0)

end Stmt

def Module.print (m : Module) : String :=
  Stmt.joinLines (Stmt.blockLines 0 m)

end AttrBinder
