/-!
Double-precision numbers as their sixty-four bits, with exact conversions to and from ratios of
natural numbers. Sums and products are the processor's.
-/

namespace AttrBinder.Numeric

structure Binary64 where
  bits : UInt64
deriving DecidableEq, Repr, Inhabited

namespace Binary64

def ofFloat (x : Float) : Binary64 :=
  ⟨x.toBits⟩

def toFloat (x : Binary64) : Float :=
  Float.ofBits x.bits

def isNegative (x : Binary64) : Bool :=
  x.bits.toNat / Nat.pow 2 63 == 1

def biased (x : Binary64) : Nat :=
  x.bits.toNat / Nat.pow 2 52 % Nat.pow 2 11

def fraction (x : Binary64) : Nat :=
  x.bits.toNat % Nat.pow 2 52

def isNaN (x : Binary64) : Bool :=
  x.biased == 2047 && x.fraction != 0

def isInfinite (x : Binary64) : Bool :=
  x.biased == 2047 && x.fraction == 0

def isFinite (x : Binary64) : Bool :=
  x.biased != 2047

def isZero (x : Binary64) : Bool :=
  x.biased == 0 && x.fraction == 0

def significand (x : Binary64) : Nat :=
  if x.biased == 0 then x.fraction else Nat.pow 2 52 + x.fraction

def exponent (x : Binary64) : Int :=
  if x.biased == 0 then -1074 else (x.biased : Int) - 1075

def assemble (negative : Bool) (magnitude : Nat) : Binary64 :=
  ⟨UInt64.ofNat (magnitude + if negative then Nat.pow 2 63 else 0)⟩

def zero : Binary64 := assemble false 0

def infinity (negative : Bool) : Binary64 :=
  assemble negative (2047 * Nat.pow 2 52)

def nan : Binary64 :=
  assemble false (2047 * Nat.pow 2 52 + Nat.pow 2 51)

/-- `num / den * 2 ^ (-q)`, rounded to the nearest natural number, a half to the even one. -/
def roundScaled (num den : Nat) (q : Int) : Nat :=
  let n := if q < 0 then num * Nat.pow 2 (-q).toNat else num
  let d := if q < 0 then den else den * Nat.pow 2 q.toNat
  let whole := n / d
  let rest := n % d
  if 2 * rest > d || (2 * rest == d && whole % 2 == 1) then whole + 1 else whole

/-- The number nearest to a ratio, a tie going to the even significand; too large a ratio gives an
infinity. -/
def ofRatio (negative : Bool) (num den : Nat) : Binary64 :=
  if num == 0 then assemble negative 0
  else
    let size : Int := (num.log2 : Int) - (den.log2 : Int)
    let low : Int := max (size - 53) (-1074)
    let fits := roundScaled num den low < Nat.pow 2 53
    let q := if fits then low else low + 1
    let m := roundScaled num den q
    let magnitude := (q + 1074).toNat * Nat.pow 2 52 + m
    if magnitude < 2047 * Nat.pow 2 52 then assemble negative magnitude else infinity negative

def ofInt (n : Int) : Binary64 :=
  ofRatio (n < 0) n.natAbs 1

/-- The decimal `digits * 10 ^ exponent`, rounded. Exponents far outside the range are settled
without building their powers. -/
def ofDecimal (digits : Nat) (exponent : Int) : Binary64 :=
  if digits == 0 then zero
  else if exponent > 400 then infinity false
  else if exponent + (digits.log2 : Int) < -1500 then zero
  else if exponent < 0 then ofRatio false digits (Nat.pow 10 (-exponent).toNat)
  else ofRatio false (digits * Nat.pow 10 exponent.toNat) 1

/-- A finite number as a ratio `(numerator, denominator)` with its sign in the numerator. -/
def toRatio (x : Binary64) : Int × Nat :=
  let m : Int := x.significand
  let signed := if x.isNegative then -m else m
  if x.exponent < 0 then (signed, Nat.pow 2 (-x.exponent).toNat)
  else (signed * Nat.pow 2 x.exponent.toNat, 1)

def truncate (x : Binary64) : Int :=
  let (n, d) := x.toRatio
  n.tdiv d

def isWhole (x : Binary64) : Bool :=
  x.isFinite && x.toRatio.1 % (x.toRatio.2 : Int) == 0

end Binary64

end AttrBinder.Numeric
