import AttrBinder.Text.Packed

/-!
Sets of code points, stored as the points at which membership changes.
-/

namespace AttrBinder.Text

/-- A set of numbers given by gaps between ascending boundaries: the set starts at the first, stops at
the second, starts again at the third, and so on. -/
structure Intervals where
  gaps : List Nat

namespace Intervals

def containsFrom (n bound : Nat) : List Nat → Bool
  | start :: stop :: gaps =>
    if n < bound + start then false
    else if n < bound + start + stop then true
    else containsFrom n (bound + start + stop) gaps
  | [start] => bound + start ≤ n
  | [] => false

def contains (s : Intervals) (n : Nat) : Bool :=
  containsFrom n 0 s.gaps

def ofGaps (lines : List String) : Intervals :=
  ⟨Packed.numbers lines⟩

end Intervals

end AttrBinder.Text
