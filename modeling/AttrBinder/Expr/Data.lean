import AttrBinder.Expr.Basic

/-!
Expressions that write plain data: constants, signed numbers, complex numbers as sums, and displays
of such. Keys and members of sets have to be data that cannot change.
-/

namespace AttrBinder.Expr

def isNumber : Expr → Bool
  | constant (.int _) => true
  | constant (.float _) => true
  | constant (.imaginary _) => true
  | _ => false

def isSigned : Expr → Bool
  | unary .plus e => isNumber e
  | unary .minus e => isNumber e
  | e => isNumber e

def isReal : Expr → Bool
  | unary _ (constant (.imaginary _)) => false
  | constant (.imaginary _) => false
  | e => isSigned e

def isImaginary : Expr → Bool
  | constant (.imaginary _) => true
  | _ => false

mutual

/-- Whether an expression writes data; with `fixed`, data that cannot change. -/
def isData (fixed : Bool) : Expr → Bool
  | constant _ => true
  | tuple es => areData fixed es
  | list es => !fixed && areData false es
  | set es => !fixed && areData true es
  | dict items => !fixed && areDataItems items
  | call (name "set") [] [] => !fixed
  | binary .add a b => isReal a && isImaginary b
  | binary .sub a b => isReal a && isImaginary b
  | unary .plus e => isNumber e
  | unary .minus e => isNumber e
  | _ => false

def areData (fixed : Bool) : List Expr → Bool
  | [] => true
  | e :: rest => isData fixed e && areData fixed rest

def areDataItems : List DictItem → Bool
  | [] => true
  | .mk (some k) v :: rest => isData true k && isData false v && areDataItems rest
  | .mk none _ :: _ => false

end

end AttrBinder.Expr
