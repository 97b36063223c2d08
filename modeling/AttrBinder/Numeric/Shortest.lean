import AttrBinder.Numeric.Binary64

/-!
The shortest decimal that reads back as a given double, and the text made from it.
-/

namespace AttrBinder.Numeric

structure Decimal where
  digits : Nat
  exponent : Int
deriving DecidableEq, Repr, Inhabited

namespace Binary64

def ratioLe (a b c : Nat) (e : Int) : Bool :=
  if e < 0 then a * Nat.pow 10 (-e).toNat ≤ c * b else a ≤ c * Nat.pow 10 e.toNat * b

def leRatio (c : Nat) (e : Int) (a b : Nat) : Bool :=
  if e < 0 then c * b ≤ a * Nat.pow 10 (-e).toNat else c * Nat.pow 10 e.toNat * b ≤ a

/-- The reals that round to a number, as three numerators over one denominator: the two ends and
the number itself. -/
structure Cell where
  low : Nat
  mid : Nat
  high : Nat
  den : Nat
  closed : Bool

/-- The cell of a positive finite number. Its lower end is nearer when the significand is the
smallest of its exponent. -/
def cell (x : Binary64) : Cell :=
  let m := x.significand
  let below := if x.fraction == 0 && x.biased > 1 then 1 else 2
  let up := if x.exponent < 0 then 1 else Nat.pow 2 x.exponent.toNat
  let den := if x.exponent < 0 then Nat.pow 2 (-x.exponent).toNat else 1
  { low := (4 * m - below) * up, mid := 4 * m * up, high := (4 * m + 2) * up
    den := 4 * den, closed := m % 2 == 0 }

def Cell.holds (k : Cell) (c : Nat) (e : Int) : Bool :=
  if k.closed then ratioLe k.low k.den c e && leRatio c e k.high k.den
  else !leRatio c e k.low k.den && !ratioLe k.high k.den c e

/-- The number of decimal digits before the point: the least `k` with value below `10 ^ k`. -/
def Cell.magnitude (k : Cell) : Int :=
  let size : Int := (k.mid.log2 : Int) - (k.den.log2 : Int)
  let guess := (size * 30103).fdiv 100000
  let above (e : Int) : Bool := !leRatio 1 e k.mid k.den
  if above (guess - 1) then guess - 1
  else if above guess then guess
  else if above (guess + 1) then guess + 1
  else guess + 2

def Cell.floorAt (k : Cell) (e : Int) : Nat :=
  if e < 0 then k.mid * Nat.pow 10 (-e).toNat / k.den else k.mid / (k.den * Nat.pow 10 e.toNat)

/-- Whether the value is nearer to `c * 10 ^ e` than to `(c + 1) * 10 ^ e`, a tie going to the
even digit. -/
def Cell.nearerBelow (k : Cell) (c : Nat) (e : Int) : Bool :=
  let twice := 2 * c + 1
  let half : Nat × Int := (twice * 5, e - 1)
  let tie := ratioLe k.mid k.den half.1 half.2 && leRatio half.1 half.2 k.mid k.den
  if tie then c % 2 == 0 else ratioLe k.mid k.den half.1 half.2

def Cell.decimalOf (k : Cell) (count : Nat) : Option Decimal :=
  let e := k.magnitude - count
  let c := k.floorAt e
  match k.holds c e, k.holds (c + 1) e with
  | true, true => some (if k.nearerBelow c e then ⟨c, e⟩ else ⟨c + 1, e⟩)
  | true, false => some ⟨c, e⟩
  | false, true => some ⟨c + 1, e⟩
  | false, false => none

/-- The shortest decimal that reads back as a positive finite number, nearest of those. -/
def shortest (x : Binary64) : Decimal :=
  let k := x.cell
  ((List.range 17).findSome? fun i => k.decimalOf (i + 1)).getD
    ⟨k.floorAt (k.magnitude - 17), k.magnitude - 17⟩

end Binary64

def stripZeros (ds : List Char) : List Char :=
  match (ds.reverse.dropWhile (· == '0')).reverse with
  | [] => ['0']
  | kept => kept

def exponentText (e : Int) : List Char :=
  let digits := (toString e.natAbs).toList
  (if e < 0 then '-' else '+') :: (if digits.length < 2 then '0' :: digits else digits)

/-- A number written with significant digits `ds` and the point after the first `point` of them:
positional from 0.0001 up to sixteen digits before the point, scientific elsewhere. A positional
whole number ends in `.0` when `dot` is set. -/
def layout (dot : Bool) (ds : List Char) (point : Int) : List Char :=
  if point ≤ -4 || point > 16 then
    let tail := match ds with
      | d :: [] => [d]
      | d :: rest => d :: '.' :: rest
      | [] => ['0']
    tail ++ 'e' :: exponentText (point - 1)
  else if point ≤ 0 then
    '0' :: '.' :: List.replicate (-point).toNat '0' ++ ds
  else
    let k := point.toNat
    if ds.length ≤ k then
      ds ++ List.replicate (k - ds.length) '0' ++ (if dot then ['.', '0'] else [])
    else ds.take k ++ '.' :: ds.drop k

namespace Binary64

def magnitudeText (dot : Bool) (x : Binary64) : String :=
  if x.isNaN then "nan"
  else if x.isInfinite then "inf"
  else if x.isZero then (if dot then "0.0" else "0")
  else
    let d := x.shortest
    let all := (toString d.digits).toList
    String.ofList (layout dot (stripZeros all) (all.length + d.exponent))

def text (x : Binary64) : String :=
  if x.isNegative && !x.isNaN then "-" ++ x.magnitudeText true else x.magnitudeText true

end Binary64

end AttrBinder.Numeric
