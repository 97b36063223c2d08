/-!
Packed texts, for long tables. A text is written in digits of base 87, as one number between zero and
one. Its signs are read off it bit by bit: each bit splits the range that is left in two parts, as
large as a one and a zero are likely. How likely they are is learnt from the bits before. After the
same signs and after the same words the last few bits are remembered; such a history tilts to a one or
to a zero, and the tilts are weighed. Short tables are lists of numbers.
-/

namespace AttrBinder.Text

def hexDigit? (c : Char) : Option Nat :=
  if c.isDigit then some (c.toNat - 48)
  else if 'A' ≤ c && c ≤ 'F' then some (c.toNat - 55)
  else none

def hexNumber? (ds : List Char) : Option Nat :=
  ds.foldlM (fun n c => (hexDigit? c).map (16 * n + ·)) 0

namespace Packed

/-- The value of a digit in base 87: the characters from `#` to `z`, but for the backslash. -/
def digit (byte : UInt8) : Nat :=
  if byte.toNat < 92 then byte.toNat - 35 else byte.toNat - 36

def bytes (text : String) : List UInt8 :=
  text.toByteArray.data.toList

/-- The numbers that digits write. The last digit of each is below 60, the others are not. -/
def numbersAfter (high : Nat) : List UInt8 → List Nat
  | [] => []
  | d :: ds =>
    if digit d < 60 then (60 * high + digit d) :: numbersAfter 0 ds
    else numbersAfter (27 * high + (digit d - 60)) ds

def numbers (lines : List String) : List Nat :=
  numbersAfter 0 (lines.flatMap bytes)

def slots : Nat := 33554347

/-- The slot for a sign, or for the first bits of one, after what another slot stands for. -/
def after (slot sign : Nat) : Nat :=
  (slot * 5000011 + sign + 1) % slots

def contexts (slot : Nat) : List Nat → List Nat
  | [] => [slot]
  | sign :: signs => slot :: contexts (after slot sign) signs

/-- How many of 4096 bits are ones if they tilt to it by `0, 1, 2, …`: with each step the odds of a
zero fall by one part in 256. -/
def chances : Array Nat :=
  ((List.range 2048).foldl (fun (ps, odds) _ =>
    (ps.push (Nat.pow 2 44 / (Nat.pow 2 32 + odds)), odds * 255 / 256)) (#[], Nat.pow 2 32)).1

def chance (tilt : Int) : Int :=
  let p := chances.getD (min tilt.natAbs 2047) 0
  if tilt < 0 then 4096 - p else p

/-- A history with one more bit. It has a one before its bits, which are seven at most. -/
def longer (history bit : Nat) : Nat :=
  let h := 2 * history + bit
  if h < 256 then h else 128 + h % 128

/-- What has been learnt: the history in each slot, how far it tilts to a one by the
rank of the slot, and what that weighs. -/
structure Model where
  histories : ByteArray
  tilts : Array Int
  weights : Array Int

def Model.tiltsAt (m : Model) : Nat → List Nat → List Int
  | _, [] => []
  | rank, slot :: more =>
    m.tilts.getD (256 * rank + (m.histories.get! slot).toNat) 0 / 16 :: m.tiltsAt (rank + 1) more

def weigh (weights : Array Int) : Nat → List Int → Int
  | _, [] => 0
  | i, x :: xs => weights.getD i 0 * x + weigh weights (i + 1) xs

def reweigh (wrong : Int) (weights : Array Int) : Nat → List Int → Array Int
  | _, [] => weights
  | i, x :: xs => reweigh wrong (weights.modify i (· + x * wrong / 1024)) (i + 1) xs

def learn (bit : Nat) (histories : ByteArray) (tilts : Array Int) :
    Nat → List Nat → List Int → ByteArray × Array Int
  | rank, slot :: slots, x :: xs =>
    let h := (histories.get! slot).toNat
    learn bit (histories.set! slot (longer h bit).toUInt8)
      (tilts.modify (256 * rank + h) (· + (4096 * bit - chance x) / 8)) (rank + 1) slots xs
  | _, _, _ => (histories, tilts)

/-- What is known of a text: what has been learnt, the digits to come, and the place that the digits
before them have in the range that is left. -/
structure Reader where
  model : Model
  digits : List UInt8
  place : Nat
  range : Nat

namespace Reader

def refill (model : Model) (place range : Nat) : List UInt8 → Reader
  | [] => ⟨model, [], place, range⟩
  | d :: ds =>
    if range < 87 ^ 4 then refill model (87 * place + digit d) (87 * range) ds
    else ⟨model, d :: ds, place, range⟩

def start (ds : List UInt8) : Reader :=
  let blank := Nat.repeat (fun b : ByteArray => b ++ b) 25 ⟨#[1]⟩
  refill ⟨blank, .replicate 2048 0, .replicate 1024 16384⟩ 0 1 ds

/-- Reads a bit that has a history in some slots. Two sums are taken: with weights for the first bits
of the sign and with weights for the sign before it. -/
def bit (slots : List Nat) (first last : Nat) : Reader → Nat × Reader
  | ⟨model, digits, place, range⟩ =>
    let xs := model.tiltsAt 0 slots
    let ⟨histories, tilts, weights⟩ := model
    let here := 8 * first
    let there := 512 + 8 * last
    let x := weigh weights here xs / 65536
    let y := weigh weights there xs / 65536
    let split := range * (chance ((x + y) / 2)).toNat / 4096
    let bit : Nat := if place < split then 1 else 0
    let weights := reweigh (4096 * bit - chance x) weights here xs
    let weights := reweigh (4096 * bit - chance y) weights there xs
    let (histories, tilts) := learn bit histories tilts 0 slots xs
    let model := ⟨histories, tilts, weights⟩
    if place < split then (1, refill model place split digits)
    else (0, refill model (place - split) (range - split) digits)

def bits (slots : List Nat) (last : Nat) : Nat → Nat → Reader → Nat × Reader
  | 0, first, r => (first, r)
  | k + 1, first, r =>
    let (b, r) := r.bit (slots.map (· + first)) first last
    bits slots last k (2 * first + b) r

/-- Reads signs, of six bits each. The signs before them stand in reverse, and so do the words before
the one that is being read; the signs below `breaks` end a word. -/
def signs (breaks : Nat) : Nat → List Nat → Nat → List Nat → Reader → List Nat
  | 0, before, _, _, _ => before.reverse
  | n + 1, before, word, words, r =>
    let slots := contexts 0 (before.take 4) ++ contexts word (words.take 2)
    let (sign, r) := r.bits (slots.map (after · 0)) (before.headD 0) 6 1
    let sign := sign - 64
    if sign < breaks then signs breaks n (sign :: before) 1 (word :: words.take 1) r
    else signs breaks n (sign :: before) (after word sign) words r

end Reader

/-- The signs that the digits of a text write, of which the first few end a word. Blanks and line ends
between the digits do not count. -/
def signs (breaks length : Nat) (packed : String) : List Nat :=
  (Reader.signs breaks length (.replicate 4 0) 1 [0, 0]
    (Reader.start ((bytes packed).filter (32 < ·)))).drop 4

/-- The text that the digits of another write in the signs of an alphabet. -/
def text (alphabet : String) (breaks length : Nat) (packed : String) : List Char :=
  let letters := alphabet.toList.toArray
  (signs breaks length packed).map (letters.getD · ' ')

end AttrBinder.Text.Packed
