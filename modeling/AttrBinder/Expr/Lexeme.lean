import AttrBinder.Expr.Basic
import AttrBinder.Numeric.Digits
import AttrBinder.Source.Lexer
import AttrBinder.Text.Normal

/-!
The lexemes of value expressions. Unlike the tokens of an attribute list, which pass stray text on,
a text with an unknown character, an unfinished string or a malformed number has no lexemes.
-/

namespace AttrBinder

structure StringLexeme where
  mark : List Char
  body : List Char
deriving DecidableEq, Repr, Inhabited

namespace StringLexeme

def hasMark (s : StringLexeme) (c : Char) : Bool :=
  s.mark.any fun m => m.toLower == c

def isRaw (s : StringLexeme) : Bool := s.hasMark 'r'
def isBytes (s : StringLexeme) : Bool := s.hasMark 'b'
def isTemplate (s : StringLexeme) : Bool := s.hasMark 'f'

end StringLexeme

inductive Lexeme where
  | name (id : String)
  | word (text : String)
  | number (value : Constant)
  | string (literal : StringLexeme)
  | symbol (text : String)
  /-- A line break outside all brackets, with the indentation of the line behind it. -/
  | lineBreak (indent : Nat)
deriving DecidableEq, Repr, Inhabited

namespace Lexeme

open Lexer

def reservedWords : List String :=
  ["False", "None", "True", "and", "as", "assert", "async", "await", "break", "class", "continue",
   "def", "del", "elif", "else", "except", "finally", "for", "from", "global", "if", "import", "in",
   "is", "lambda", "nonlocal", "not", "or", "pass", "raise", "return", "try", "while", "with",
   "yield"]

def indentFrom (width : Nat) : List Char → Nat
  | ' ' :: rest => indentFrom (width + 1) rest
  | '\t' :: rest => indentFrom ((width / 8 + 1) * 8) rest
  | '\x0c' :: rest => indentFrom 0 rest
  | _ => width

def isLineBreak : Lexeme → Bool
  | lineBreak _ => true
  | _ => false

def isReserved (s : String) : Bool :=
  reservedWords.contains s

def unifyBreaks : List Char → List Char
  | '\r' :: '\n' :: rest => '\n' :: unifyBreaks rest
  | '\r' :: rest => '\n' :: unifyBreaks rest
  | c :: rest => c :: unifyBreaks rest
  | [] => []

def mayIdentify (c : Char) : Bool :=
  Text.isAsciiWord c || c.toNat ≥ 128

/-- Whether a number may end in front of these characters: no identifier follows, or one of the
words that may follow a number does. An `o` behind a single zero is the mark of a base. -/
def mayFollow (number cs : List Char) : Bool :=
  let follows (w : String) : Bool := w.toList.isPrefixOf cs
  if number == ['0'] && follows "o" then false
  else
    ["and", "else", "for", "if", "in", "is", "or", "not"].any follows || !cs.head?.any mayIdentify

def digitValue (c : Char) : Nat :=
  if c.isDigit then c.toNat - 48 else c.toLower.toNat - 87

def digitsValue (base : Nat) (ds : List Char) : Nat :=
  ds.foldl (fun n d => base * n + digitValue d) 0

def signedValue : List Char → Int
  | '-' :: ds => -(digitsValue 10 ds : Int)
  | '+' :: ds => digitsValue 10 ds
  | ds => digitsValue 10 ds

def floatValue (cs : List Char) : Numeric.Binary64 :=
  let isExponent (c : Char) : Bool := c == 'e' || c == 'E'
  let mantissa := cs.takeWhile fun c => !isExponent c
  let whole := mantissa.takeWhile (· != '.')
  let fraction := (mantissa.dropWhile (· != '.')).drop 1
  let exponent := signedValue ((cs.dropWhile fun c => !isExponent c).drop 1)
  .ofDecimal (digitsValue 10 (whole ++ fraction)) (exponent - fraction.length)

def decimalValue? (ds : List Char) : Option Constant :=
  if ds.length > Numeric.maxDigits then none else some (.int (digitsValue 10 ds))

def numberValue? (text : List Char) : Option Constant :=
  let cs := text.filter (· != '_')
  let isImaginary := cs.getLast?.any fun c => c == 'j' || c == 'J'
  match cs with
  | '0' :: mark :: ds =>
    if mark == 'x' || mark == 'X' then some (.int (digitsValue 16 ds))
    else if mark == 'o' || mark == 'O' then some (.int (digitsValue 8 ds))
    else if mark == 'b' || mark == 'B' then some (.int (digitsValue 2 ds))
    else if isImaginary then some (.imaginary (floatValue cs.dropLast))
    else if cs.all Char.isDigit then decimalValue? cs
    else some (.float (floatValue cs))
  | _ =>
    if isImaginary then some (.imaginary (floatValue cs.dropLast))
    else if cs.all Char.isDigit then decimalValue? cs
    else some (.float (floatValue cs))

/-- The length up to and with the closing quote of a string on one line; a backslash keeps the
next character, a line break included. -/
def quotedLength? (q : Char) : List Char → Option Nat
  | [] => none
  | '\\' :: _ :: rest => (quotedLength? q rest).map (· + 2)
  | c :: rest =>
    if c == q then some 1
    else if c == '\n' then none
    else (quotedLength? q rest).map (· + 1)

def string? (m : Nat) (cs : List Char) : Option (StringLexeme × Nat) :=
  let q := cs.getD m '\''
  if isTriple q (cs.drop m) then
    (tripleLength? q (cs.drop (m + 3))).map fun n =>
      (⟨cs.take m, (cs.drop (m + 3)).take (n - 3)⟩, m + 3 + n)
  else
    (quotedLength? q (cs.drop (m + 1))).map fun n =>
      (⟨cs.take m, (cs.drop (m + 1)).take (n - 1)⟩, m + 1 + n)

/-- How many brackets may be open at once. -/
def maxNesting : Nat := 200

/-- The brackets that are open, given by the closers they ask for, after one more symbol. -/
def brackets (closers : List String) (text : String) : Option (List String) :=
  match closerOf? text with
  | some closer => if closers.length < maxNesting then some (closer :: closers) else none
  | none =>
    if isCloser text then
      match closers with
      | c :: outer => if c == text then some outer else none
      | [] => none
    else some closers

/-- The lexemes of a text whose line breaks are line feeds, inside given open brackets. -/
def scan (closers : List String) (cs : List Char) : Option (List Lexeme) :=
  match cs with
  | [] => some []
  | c :: rest =>
    if isGap c then scan closers rest
    else if c == '#' then scan closers (rest.drop (runLength (· != '\n') rest))
    else if c == '\n' then
      if closers.isEmpty then (scan closers rest).map (.lineBreak (indentFrom 0 rest) :: ·)
      else scan closers rest
    else if c == '\\' then
      match rest with
      | '\n' :: more => if more.isEmpty then none else scan closers more
      | _ => none
    else
      match stringMark? (c :: rest) with
      | some m => do
        let (s, n) ← string? m (c :: rest)
        let more ← scan closers (rest.drop (n - 1))
        return .string s :: more
      | none =>
        let digits := numberLength (c :: rest)
        if digits != 0 then
          if mayFollow ((c :: rest).take digits) ((c :: rest).drop digits) then do
            let v ← numberValue? ((c :: rest).take digits)
            let more ← scan closers (rest.drop (digits - 1))
            return .number v :: more
          else none
        else if mayIdentify c then do
          let n := runLength mayIdentify (c :: rest)
          let text := String.ofList ((c :: rest).take n)
          let more ← scan closers (rest.drop (n - 1))
          if Text.isIdentifier text then
            return (if isReserved text then .word text else .name (Text.normal text)) :: more
          else none
        else
          match operators.find? (fun op => op.toList.isPrefixOf (c :: rest)) with
          | some op => do
            let closers ← brackets closers op
            let more ← scan closers (rest.drop (op.length - 1))
            return .symbol op :: more
          | none => none
termination_by cs.length
decreasing_by all_goals simp only [List.length_drop, List.length_cons]; omega

def ofText? (cs : List Char) : Option (List Lexeme) :=
  scan [] (unifyBreaks cs)

end Lexeme

end AttrBinder
