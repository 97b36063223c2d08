/-!
The limit on the decimal text of whole numbers, which holds for reading and for writing. Texts in
bases that are powers of two have no limit.
-/

namespace AttrBinder.Numeric

def maxDigits : Nat := 4300

def hasDecimal (n : Int) : Bool :=
  n.natAbs < Nat.pow 10 maxDigits

def decimal? (n : Int) : Option String :=
  if hasDecimal n then some (toString n) else none

end AttrBinder.Numeric
