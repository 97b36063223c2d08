import AttrBinder.Text.Printable

/-!
Texts of code points. A `String` holds characters only. An escape in a literal can also write one
of the code points that are set aside for pairs, so the texts of values may hold such halves.
-/

namespace AttrBinder.Text

/-- A code point: a character, or one of the 2048 halves of pairs. -/
inductive Point where
  | char (value : Char)
  | half (index : Fin 2048)
deriving DecidableEq, Repr, Inhabited

namespace Point

def toNat : Point → Nat
  | char c => c.toNat
  | half i => 0xd800 + i.val

def ofNat? (n : Nat) : Option Point :=
  if n > 0x10ffff then none
  else if h : 0xd800 ≤ n ∧ n < 0xe000 then some (half ⟨n - 0xd800, by omega⟩)
  else some (char (Char.ofNat n))

def char? : Point → Option Char
  | char c => some c
  | half _ => none

end Point

/-- The text of a source is a `String`, in which the last code points stand for the halves. -/
def isHalf (c : Char) : Bool := 0x10f800 ≤ c.toNat

abbrev Wide := List Point

namespace Wide

def ofString (s : String) : Wide :=
  s.toList.map .char

instance : Coe String Wide := ⟨ofString⟩

def toString? (w : Wide) : Option String :=
  (w.mapM Point.char?).map String.ofList

def replaced (w : Wide) : String :=
  String.ofList (w.map fun p => p.char?.getD '�')

def order : Wide → Wide → Ordering
  | [], [] => .eq
  | [], _ :: _ => .lt
  | _ :: _, [] => .gt
  | p :: ps, q :: qs =>
    match compare p.toNat q.toNat with
    | .eq => order ps qs
    | o => o

end Wide

end AttrBinder.Text
