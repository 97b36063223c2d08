import AttrBinder.Numeric.Binary64
import AttrBinder.Text.Wide

/-!
The syntax of value expressions. A `slice` stands only between the brackets of a subscript and a
`starred` only in a display, an argument list, a subscript or an assignment target.
-/

namespace AttrBinder

inductive Constant where
  | none
  | bool (value : Bool)
  | int (value : Nat)
  | float (value : Numeric.Binary64)
  | imaginary (value : Numeric.Binary64)
  | str (value : Text.Wide) (marked : Bool)
  | bytes (value : List UInt8)
  | ellipsis
deriving DecidableEq, Repr, Inhabited

inductive UnaryOp where
  | not
  | invert
  | plus
  | minus
deriving DecidableEq, Repr, Inhabited

inductive BinaryOp where
  | add
  | sub
  | mul
  | matMul
  | div
  | mod
  | floorDiv
  | pow
  | shiftLeft
  | shiftRight
  | bitOr
  | bitXor
  | bitAnd
deriving DecidableEq, Repr, Inhabited

inductive BoolOp where
  | and
  | or
deriving DecidableEq, Repr, Inhabited

inductive CompareOp where
  | eq
  | notEq
  | less
  | lessEq
  | greater
  | greaterEq
  | is
  | isNot
  | within
  | notWithin
deriving DecidableEq, Repr, Inhabited

/-- How a template field turns its value into text before formatting it. -/
inductive Conversion where
  | str
  | repr
  | ascii
deriving DecidableEq, Repr, Inhabited

mutual

inductive Expr where
  | name (id : String)
  | constant (value : Constant)
  | member (object : Expr) (name : String)
  | subscript (value index : Expr)
  | slice (lower upper step : Option Expr)
  | starred (value : Expr)
  | call (function : Expr) (args : List Expr) (keywords : List Keyword)
  | unary (op : UnaryOp) (operand : Expr)
  | binary (op : BinaryOp) (left right : Expr)
  | bool (op : BoolOp) (operands : List Expr)
  | compare (first : Expr) (rest : List Comparison)
  | conditional (test body orElse : Expr)
  | lambda (params : Params) (body : Expr)
  | named (target : String) (value : Expr)
  | tuple (items : List Expr)
  | list (items : List Expr)
  | set (items : List Expr)
  | dict (items : List DictItem)
  | listComp (element : Expr) (clauses : List Clause)
  | setComp (element : Expr) (clauses : List Clause)
  | dictComp (key value : Expr) (clauses : List Clause)
  | generator (element : Expr) (clauses : List Clause)
  | template (parts : List Part)
  | yield (value : Option Expr)
  | yieldFrom (value : Expr)
  | await (value : Expr)

/-- A keyword argument, or an unpacked mapping if it has no name. -/
inductive Keyword where
  | mk (name : Option String) (value : Expr)

inductive Comparison where
  | mk (op : CompareOp) (operand : Expr)

/-- An entry of a dictionary display, or an unpacked mapping if it has no key. -/
inductive DictItem where
  | mk (key : Option Expr) (value : Expr)

/-- A `for` clause of a comprehension with its conditions. -/
inductive Clause where
  | mk (isAsync : Bool) (target iter : Expr) (conditions : List Expr)

inductive Param where
  | mk (name : String) (default : Option Expr)

/-- The parameters of a function: positional only, ordinary, the one that collects positional
arguments, keyword only, and the one that collects keyword arguments. -/
inductive Params where
  | mk (positional ordinary : List Param) (rest : Option String) (keyword : List Param)
    (others : Option String)

/-- A part of a template string: text, or a field with conversion and format. -/
inductive Part where
  | text (value : Text.Wide)
  | field (value : Expr) (conversion : Option Conversion) (format : Option (List Part))

end

instance : Inhabited Expr := ⟨.name ""⟩
instance : Inhabited Params := ⟨.mk [] [] .none [] .none⟩

namespace Params

def ordinaryOnly (ps : List Param) : Params := .mk [] ps .none [] .none

end Params

namespace Expr

def text (s : String) : Expr :=
  .constant (.str s false)

def apply (function : Expr) (args : List Expr) : Expr :=
  .call function args []

def method (object : Expr) (name : String) (args : List Expr) : Expr :=
  (Expr.member object name).apply args

/-- Expressions that never give a reactive cell: constants, displays, comprehensions other than
generators, comparisons and functions. -/
def isLiteral : Expr → Bool
  | constant _ => true
  | template _ => true
  | list _ => true
  | tuple _ => true
  | dict _ => true
  | set _ => true
  | listComp _ _ => true
  | setComp _ _ => true
  | dictComp _ _ _ => true
  | compare _ _ => true
  | lambda _ _ => true
  | _ => false

mutual

/-- Expressions that may be assigned to: names, attributes, subscripts, and tuples and lists of
such, of which any may be starred. -/
def isTarget : Expr → Bool
  | name _ => true
  | member _ _ => true
  | subscript _ _ => true
  | tuple items => areTargets items
  | list items => areTargets items
  | _ => false

def areTargets : List Expr → Bool
  | [] => true
  | .starred e :: rest => isTarget e && areTargets rest
  | e :: rest => isTarget e && areTargets rest

end

end Expr

end AttrBinder
