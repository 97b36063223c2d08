import AttrBinder.Numeric.Shortest

/-!
Numbers with a given number of digits: after the point, in scientific notation, or in all. A half
goes to the even neighbour.
-/

namespace AttrBinder.Numeric.Binary64

def roundRatio (num den : Nat) : Nat :=
  let q := num / den
  let r := num % den
  if 2 * r < den then q
  else if 2 * r > den then q + 1
  else if q % 2 == 0 then q else q + 1

def withPoint (places : Nat) (n : Nat) : List Char :=
  let ds := Nat.toDigits 10 n
  let ds := List.replicate (places + 1 - ds.length) '0' ++ ds
  if places == 0 then ds
  else ds.take (ds.length - places) ++ '.' :: ds.drop (ds.length - places)

def fixedText (places : Nat) (x : Binary64) : List Char :=
  let (a, b) := x.toRatio
  withPoint places (roundRatio (a.natAbs * Nat.pow 10 places) b)

def roundAt (e : Int) (x : Binary64) : Nat :=
  let (a, b) := x.toRatio
  if e ≥ 0 then roundRatio a.natAbs (b * Nat.pow 10 e.toNat)
  else roundRatio (a.natAbs * Nat.pow 10 (-e).toNat) b

/-- A finite number rounded to `count` significant digits: the digits as a number, and the
exponent of the first. -/
def significant (count : Nat) (x : Binary64) : Nat × Int :=
  if x.isZero then (0, 0)
  else
    let e := x.cell.magnitude - 1
    let n := x.roundAt (e - (count - 1))
    if n ≥ Nat.pow 10 count then (n / 10, e + 1) else (n, e)

/-- The magnitude of a finite number in scientific notation with a fixed number of places. -/
def scientificText (places : Nat) (x : Binary64) : List Char :=
  let (n, e) := x.significant (places + 1)
  withPoint places n ++ 'e' :: exponentText e

/-- The magnitude of a finite number with at most `count` significant digits, without trailing
zeros, in scientific notation if the exponent is small or as large as `count`. -/
def generalText (count : Nat) (x : Binary64) : List Char :=
  let count := max count 1
  let (n, e) := x.significant count
  let trim (ds : List Char) : List Char :=
    if ds.contains '.' then
      let body := (ds.reverse.dropWhile (· == '0')).reverse
      if body.getLast? == some '.' then body.dropLast else body
    else ds
  if e < -4 || e ≥ count then
    trim (withPoint (count - 1) n) ++ 'e' :: exponentText e
  else
    trim (withPoint (count - 1 - e).toNat n)

end AttrBinder.Numeric.Binary64
