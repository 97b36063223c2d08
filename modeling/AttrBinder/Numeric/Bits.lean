/-!
The bits of whole numbers. A negative number has ones without end to the left, so that the bits of
`-n - 1` are those of `n`, each turned over.
-/

namespace AttrBinder.Numeric.Bits

def magnitude : Int → Nat
  | .ofNat n => n
  | .negSucc n => n

def combine (f : Bool → Bool → Bool) (m n : Int) : Int :=
  let (p, q) := (decide (m < 0), decide (n < 0))
  let r := Nat.bitwise (fun a b => f p q != f (p != a) (q != b)) (magnitude m) (magnitude n)
  if f p q then .negSucc r else .ofNat r

end AttrBinder.Numeric.Bits
