import AttrBinder.Expr.Lexeme
import AttrBinder.Text.CharName
import AttrBinder.Text.Wide

/-!
What the escapes of string literals stand for. An unknown escape keeps its backslash; a numeric
escape with too few digits or beyond the last code point makes the literal invalid, and so does a
character name that names no character.
-/

namespace AttrBinder.Escape

open Lexer
open Text (Point Wide)

def simple? (c : Char) : Option Char :=
  match c with
  | '\\' => some '\\'
  | '\'' => some '\''
  | '"' => some '"'
  | 'a' => some '\x07'
  | 'b' => some '\x08'
  | 'f' => some '\x0c'
  | 'n' => some '\n'
  | 'r' => some '\r'
  | 't' => some '\t'
  | 'v' => some '\x0b'
  | _ => none

def hexValue? (n : Nat) (cs : List Char) : Option Nat :=
  let ds := cs.take n
  if ds.length == n && ds.all isHex then some (Lexeme.digitsValue 16 ds) else none

def width? (c : Char) : Option Nat :=
  match c with
  | 'x' => some 2
  | 'u' => some 4
  | 'U' => some 8
  | _ => none

def nameLength? : List Char → Option Nat
  | '\x7b' :: rest =>
    let n := runLength (· != '\x7d') rest
    if (rest.drop n).isEmpty then none else some n
  | _ => none

/-- The text that a literal's body stands for. A backslash at the very end, as it can stand in front
of a template's field, is kept. -/
def text? (cs : List Char) : Option Wide :=
  match cs with
  | [] => some []
  | '\\' :: [] => some [.char '\\']
  | '\\' :: c :: rest =>
    if c == '\n' then text? rest
    else if isOctal c then do
      let n := runLength isOctal ((c :: rest).take 3)
      let d ← Point.ofNat? (Lexeme.digitsValue 8 ((c :: rest).take n))
      let more ← text? (rest.drop (n - 1))
      return d :: more
    else
      match width? c with
      | some n => do
        let d ← (hexValue? n rest).bind Point.ofNat?
        let more ← text? (rest.drop n)
        return d :: more
      | none =>
        if c == 'N' then do
          let n ← nameLength? rest
          let d ← Text.CharName.find? (String.ofList ((rest.drop 1).take n))
          let more ← text? (rest.drop (n + 2))
          return .char d :: more
        else
          match simple? c with
          | some d => (text? rest).map (.char d :: ·)
          | none => (text? rest).map fun more => .char '\\' :: .char c :: more
  | c :: rest => (text? rest).map (.char c :: ·)
termination_by cs.length
decreasing_by all_goals simp only [List.length_drop, List.length_cons]; omega

def bytes? (cs : List Char) : Option (List UInt8) :=
  match cs with
  | [] => some []
  | '\\' :: [] => none
  | '\\' :: c :: rest =>
    if c == '\n' then bytes? rest
    else if isOctal c then do
      let n := runLength isOctal ((c :: rest).take 3)
      let more ← bytes? (rest.drop (n - 1))
      return UInt8.ofNat (Lexeme.digitsValue 8 ((c :: rest).take n)) :: more
    else if c == 'x' then do
      let n ← hexValue? 2 rest
      let more ← bytes? (rest.drop 2)
      return UInt8.ofNat n :: more
    else
      match simple? c with
      | some d => (bytes? rest).map (UInt8.ofNat d.toNat :: ·)
      | none => (bytes? rest).map fun more => 92 :: UInt8.ofNat c.toNat :: more
  | c :: rest => (bytes? rest).map (UInt8.ofNat c.toNat :: ·)
termination_by cs.length
decreasing_by all_goals simp only [List.length_drop, List.length_cons]; omega

def ofBytesLiteral? (s : StringLexeme) : Option (List UInt8) :=
  if s.body.any fun c => c.toNat ≥ 128 then none
  else if s.isRaw then some (s.body.map fun c => UInt8.ofNat c.toNat)
  else bytes? s.body

def ofTextLiteral? (s : StringLexeme) : Option Wide :=
  if s.isRaw then some (s.body.map .char) else text? s.body

end AttrBinder.Escape
