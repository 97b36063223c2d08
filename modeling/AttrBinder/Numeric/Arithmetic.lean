import AttrBinder.Numeric.Complex

/-!
Arithmetic on whole numbers, doubles and complex numbers. Division of whole numbers goes to the
nearest double, floor division and remainder go toward the divisor's sign, and a whole number too
large for a double is a fault rather than an infinity.
-/

namespace AttrBinder.Numeric

inductive Number where
  | int (value : Int)
  | float (value : Binary64)
  | complex (value : Complex)
deriving DecidableEq, Repr, Inhabited

inductive ArithmeticFault where
  | zeroDivision
  | overflow
  | complex
deriving DecidableEq, Repr, Inhabited

namespace Number

def toBinary64 : Number → Except ArithmeticFault Binary64
  | float x => .ok x
  | int n =>
    let x := Binary64.ofInt n
    if x.isInfinite then .error .overflow else .ok x
  | complex _ => .error .complex

def toComplex : Number → Except ArithmeticFault Complex
  | complex z => .ok z
  | a => do
    let x ← a.toBinary64
    return .ofReal x

def isZero : Number → Bool
  | int n => n == 0
  | float x => x.isZero
  | complex z => z.isZero

def isComplex : Number → Bool
  | complex _ => true
  | _ => false

/-- Combines two numbers as whole numbers if both are, as complex numbers if one is, and else as
doubles. -/
def combine (ints : Int → Int → Int) (floats : Float → Float → Float)
    (complexes : Complex → Complex → Complex) (a b : Number) : Except ArithmeticFault Number := do
  match a, b with
  | int m, int n => return .int (ints m n)
  | a, b =>
    if a.isComplex || b.isComplex then
      let z ← a.toComplex
      let w ← b.toComplex
      return .complex (complexes z w)
    else
      let x ← a.toBinary64
      let y ← b.toBinary64
      return .float (.ofFloat (floats x.toFloat y.toFloat))

def add : Number → Number → Except ArithmeticFault Number := combine (· + ·) (· + ·) Complex.add
def sub : Number → Number → Except ArithmeticFault Number := combine (· - ·) (· - ·) Complex.sub
def mul : Number → Number → Except ArithmeticFault Number := combine (· * ·) (· * ·) Complex.mul

def neg : Number → Number
  | int n => int (-n)
  | float x => float x.neg
  | complex z => complex z.neg

def div (a b : Number) : Except ArithmeticFault Number := do
  if b.isZero then throw .zeroDivision
  match a, b with
  | int m, int n =>
    let x := Binary64.ofRatio (decide (m < 0) != decide (n < 0)) m.natAbs n.natAbs
    if x.isInfinite then throw .overflow else return .float x
  | a, b =>
    if a.isComplex || b.isComplex then
      let z ← a.toComplex
      let w ← b.toComplex
      return .complex (z.div w)
    else
      let x ← a.toBinary64
      let y ← b.toBinary64
      return .float (.ofFloat (x.toFloat / y.toFloat))

def truncatedMod (x y : Binary64) : Binary64 :=
  if x.isNaN || y.isNaN || x.isInfinite || y.isZero then .nan
  else if y.isInfinite then x
  else
    let (a, b) := x.toRatio
    let (c, d) := y.toRatio
    .ofRatio x.isNegative (a.natAbs * d % (c.natAbs * b)) (b * d)

def signedZero (negative : Bool) : Float :=
  (Binary64.assemble negative 0).toFloat

/-- The floor of a quotient of doubles and the remainder that belongs to it. -/
def floorDivMod (x y : Binary64) : Float × Float :=
  let m := (truncatedMod x y).toFloat
  let q := (x.toFloat - m) / y.toFloat
  let (q, m) :=
    if m == 0 then (q, signedZero y.isNegative)
    else if y.isNegative != decide (m < 0) then (q - 1, m + y.toFloat)
    else (q, m)
  let q :=
    if q == 0 then signedZero (x.isNegative != y.isNegative)
    else if q - q.floor > 0.5 then q.floor + 1
    else q.floor
  (q, m)

def floorDiv (a b : Number) : Except ArithmeticFault Number := do
  if a.isComplex || b.isComplex then throw .complex
  if b.isZero then throw .zeroDivision
  match a, b with
  | int m, int n => return .int (m.fdiv n)
  | a, b =>
    let x ← a.toBinary64
    let y ← b.toBinary64
    return .float (.ofFloat (floorDivMod x y).1)

def mod (a b : Number) : Except ArithmeticFault Number := do
  if a.isComplex || b.isComplex then throw .complex
  if b.isZero then throw .zeroDivision
  match a, b with
  | int m, int n => return .int (m.fmod n)
  | a, b =>
    let x ← a.toBinary64
    let y ← b.toBinary64
    return .float (.ofFloat (floorDivMod x y).2)

def complexPow (z w : Complex) : Except ArithmeticFault Number :=
  match z.pow? w with
  | none => .error .zeroDivision
  | some r => if r.isInfinite then .error .overflow else .ok (.complex r)

def floatPow (x y : Binary64) : Except ArithmeticFault Number := do
  if x.isZero && y.isNegative && y.isFinite && !y.isZero then throw .zeroDivision
  if x.isNegative && x.isFinite && y.isFinite && !x.isZero && !y.isWhole then
    complexPow (.ofReal x) (.ofReal y)
  else
    let r := Binary64.ofFloat (Float.pow x.toFloat y.toFloat)
    if r.isInfinite && x.isFinite && y.isFinite then throw .overflow
    return .float r

def pow (a b : Number) : Except ArithmeticFault Number := do
  match a, b with
  | int m, int (.ofNat n) => return .int (Int.pow m n)
  | a, b =>
    if a.isComplex || b.isComplex then
      let z ← a.toComplex
      let w ← b.toComplex
      complexPow z w
    else
      let x ← a.toBinary64
      let y ← b.toBinary64
      floatPow x y

end Number

end AttrBinder.Numeric
