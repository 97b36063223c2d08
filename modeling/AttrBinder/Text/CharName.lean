import AttrBinder.Text.CharName.Table
import AttrBinder.Text.Packed

/-!
Names of characters. Most names stand in a table and are told apart without regard to letter case.
The names of unified ideographs and of Hangul syllables are made by rule, of which the first gives
the code point and the second the sounds, and count in capitals only.
-/

namespace AttrBinder.Text.CharName

/-! Names in the table. -/

def signs : String := "abcdefghijlz -0123456789ABCDEFGHIJKLMNOPQRSTUVWXYZ"

/-- Names that are read from the table, with their code points, the last one first. -/
structure Reading where
  names : List (String × Nat)
  words : List String
  code : Nat

/-- Reads a field of the table. After a `z` stands the code point of the next name. Any other field is
a name: its small letter says how many words it begins with are those of the name before it. -/
def Reading.field (r : Reading) : List Char → Reading
  | 'z' :: digits => { r with code := (hexNumber? digits).getD 0 }
  | mark :: own =>
    let words := r.words.take (mark.toNat - 97) ++ (String.ofList own).splitOn " "
    ⟨(" ".intercalate words, r.code) :: r.names, words, r.code + 1⟩
  | [] => r

def names : Thunk (List (String × Nat)) :=
  Thunk.mk fun _ =>
    let table := Packed.text signs 14 356141 packed
    ((table.splitBy fun _ c => !c.isLower).foldl Reading.field ⟨[], [], 0⟩).names

def ofCode? (code : Nat) : Option String :=
  (names.get.find? (·.2 == code)).map (·.1)

def numbered : List (String × Nat × Nat) :=
  [("CJK COMPATIBILITY IDEOGRAPH-", 0xf900, 0xfa6d),
   ("CJK COMPATIBILITY IDEOGRAPH-", 0xfa70, 0xfad9),
   ("KHITAN SMALL SCRIPT CHARACTER-", 0x18b00, 0x18cd5),
   ("NUSHU CHARACTER-", 0x1b170, 0x1b2fb),
   ("CJK COMPATIBILITY IDEOGRAPH-", 0x2f800, 0x2fa1d)]

/-- The code point that completes a stem: as many digits as it needs, but four at least. -/
def codeAfter? (stem name : String) : Option Nat :=
  if name.startsWith stem then
    let ds := name.toList.drop stem.length
    (hexNumber? ds).filter fun n => ds.length == if n < 0x10000 then 4 else 5
  else none

def numbered? (name : String) : Option Nat :=
  numbered.findSome? fun (stem, first, last) =>
    (codeAfter? stem name).filter fun n => first ≤ n && n ≤ last

/-! Names made by rule. -/

def ideographs : List (Nat × Nat) :=
  [(0x3400, 0x4dbf), (0x4e00, 0x9fff), (0x20000, 0x2a6df), (0x2a700, 0x2b738), (0x2b740, 0x2b81d),
   (0x2b820, 0x2cea1), (0x2ceb0, 0x2ebe0), (0x30000, 0x3134a)]

def ideographStem : String := "CJK UNIFIED IDEOGRAPH-"

def ideograph? (name : String) : Option Nat := do
  let ds := name.toList.drop ideographStem.length
  let n ← hexNumber? ds
  if (ds.length == 4 || ds.length == 5) && ideographs.any (fun (a, b) => a ≤ n && n ≤ b) then
    some n
  else none

def initials : List String :=
  ["G", "GG", "N", "D", "DD", "R", "M", "B", "BB", "S", "SS", "", "J", "JJ", "C", "K", "T", "P",
   "H"]

def medials : List String :=
  ["A", "AE", "YA", "YAE", "EO", "E", "YEO", "YE", "O", "WA", "WAE", "OE", "YO", "U", "WEO", "WE",
   "WI", "YU", "EU", "YI", "I"]

def finals : List String :=
  ["", "G", "GG", "GS", "N", "NJ", "NH", "D", "L", "LG", "LM", "LB", "LS", "LT", "LP", "LH", "M",
   "B", "BS", "S", "SS", "NG", "J", "C", "K", "T", "P", "H"]

def takeSound? (sounds : List String) (cs : List Char) : Option (Nat × List Char) :=
  let fits := sounds.zipIdx.filter fun (s, _) => s.toList.isPrefixOf cs
  let longest := fits.foldl (fun best (s, i) =>
    match best with
    | some (l, _) => if s.length > l then some (s.length, i) else best
    | none => some (s.length, i)) none
  longest.map fun (l, i) => (i, cs.drop l)

def syllableStem : String := "HANGUL SYLLABLE "

def syllable? (name : String) : Option Nat := do
  let (l, cs) ← takeSound? initials (name.toList.drop syllableStem.length)
  let (v, cs) ← takeSound? medials cs
  let (t, cs) ← takeSound? finals cs
  if cs.isEmpty then some (0xac00 + (l * medials.length + v) * finals.length + t) else none

def find? (name : String) : Option Char :=
  let code :=
    if name.startsWith syllableStem then syllable? name
    else if name.startsWith ideographStem then ideograph? name
    else if name.isEmpty then none
    else
      let upper := String.ofList (name.toList.map Char.toUpper)
      (names.get.lookup upper).or (numbered? upper)
  code.map Char.ofNat

end AttrBinder.Text.CharName
