import AttrBinder.Numeric.Shortest

/-!
Complex numbers with doubles as parts.
-/

namespace AttrBinder.Numeric

namespace Binary64

def neg (x : Binary64) : Binary64 :=
  .assemble (!x.isNegative) (x.bits.toNat % Nat.pow 2 63)

def abs (x : Binary64) : Binary64 :=
  .assemble false (x.bits.toNat % Nat.pow 2 63)

end Binary64

structure Complex where
  re : Binary64
  im : Binary64
deriving DecidableEq, Repr, Inhabited

namespace Complex

def ofReal (x : Binary64) : Complex := ⟨x, .zero⟩

def ofFloats (re im : Float) : Complex := ⟨.ofFloat re, .ofFloat im⟩

def one : Complex := ofFloats 1 0

def isZero (z : Complex) : Bool := z.re.isZero && z.im.isZero

def isInfinite (z : Complex) : Bool := z.re.isInfinite || z.im.isInfinite

def neg (z : Complex) : Complex := ⟨z.re.neg, z.im.neg⟩

def add (z w : Complex) : Complex :=
  ofFloats (z.re.toFloat + w.re.toFloat) (z.im.toFloat + w.im.toFloat)

def sub (z w : Complex) : Complex :=
  ofFloats (z.re.toFloat - w.re.toFloat) (z.im.toFloat - w.im.toFloat)

def mul (z w : Complex) : Complex :=
  let (a, b) := (z.re.toFloat, z.im.toFloat)
  let (c, d) := (w.re.toFloat, w.im.toFloat)
  ofFloats (a * c - b * d) (a * d + b * c)

/-- A quotient by a number that is not zero. The larger part of the divisor divides the other. -/
def div (z w : Complex) : Complex :=
  let (a, b) := (z.re.toFloat, z.im.toFloat)
  let (c, d) := (w.re.toFloat, w.im.toFloat)
  if c.abs ≥ d.abs then
    let ratio := d / c
    let denominator := c + d * ratio
    ofFloats ((a + b * ratio) / denominator) ((b - a * ratio) / denominator)
  else if d.abs ≥ c.abs then
    let ratio := c / d
    let denominator := c * ratio + d
    ofFloats ((a * ratio + b) / denominator) ((b * ratio - a) / denominator)
  else ⟨.nan, .nan⟩

def timesPow (r p : Complex) (n : Nat) : Complex :=
  if n = 0 then r
  else timesPow (if n % 2 = 1 then r.mul p else r) (p.mul p) (n / 2)
termination_by n
decreasing_by omega

def modulus (z : Complex) : Float :=
  if z.im.isZero then z.re.abs.toFloat
  else if z.re.isZero then z.im.abs.toFloat
  else (z.re.toFloat * z.re.toFloat + z.im.toFloat * z.im.toFloat).sqrt

def polarPow (z w : Complex) : Complex :=
  let (c, d) := (w.re.toFloat, w.im.toFloat)
  let size := z.modulus
  let angle := Float.atan2 z.im.toFloat z.re.toFloat
  let length := Float.pow size c
  let phase := angle * c
  if w.im.isZero then ofFloats (length * phase.cos) (length * phase.sin)
  else
    let length := length / (angle * d).exp
    let phase := phase + d * size.log
    ofFloats (length * phase.cos) (length * phase.sin)

def smallWhole? (w : Complex) : Option Int :=
  if w.im.isZero && w.re.isFinite && w.re.isWhole && w.re.truncate.natAbs ≤ 100 then
    some w.re.truncate
  else none

def pow? (z w : Complex) : Option Complex :=
  match smallWhole? w with
  | some (.ofNat n) => some (timesPow one z n)
  | some n =>
    let p := timesPow one z n.natAbs
    if p.isZero then none else some (one.div p)
  | none =>
    if z.isZero then
      if !w.im.isZero || (w.re.isNegative && !w.re.isNaN) then none else some (ofReal .zero)
    else some (polarPow z w)

def signedText (x : Binary64) : String :=
  (if x.isNegative && !x.isNaN then "-" else "+") ++ x.magnitudeText false

/-- The text of a complex number. One without a real part is written without parentheses. -/
def text (z : Complex) : String :=
  let minus (x : Binary64) : String := if x.isNegative && !x.isNaN then "-" else ""
  if z.re.isZero && !z.re.isNegative then minus z.im ++ z.im.magnitudeText false ++ "j"
  else "(" ++ minus z.re ++ z.re.magnitudeText false ++ signedText z.im ++ "j)"

end Complex

end AttrBinder.Numeric
