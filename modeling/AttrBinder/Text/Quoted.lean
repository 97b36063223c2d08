import AttrBinder.Text.Wide

/-!
Quoted texts: a text is written between single quotes, or between double quotes when it holds a
single quote and no double quote; what cannot be shown is written as an escape.
-/

namespace AttrBinder.Text

def hexDigit (n : Nat) : Char :=
  if n < 10 then Char.ofNat (48 + n) else Char.ofNat (87 + n)

def hex (width n : Nat) : List Char :=
  match width with
  | 0 => []
  | w + 1 => hex w (n / 16) ++ [hexDigit (n % 16)]

def codeEscape (n : Nat) : List Char :=
  if n < 0x100 then '\\' :: 'x' :: hex 2 n
  else if n < 0x10000 then '\\' :: 'u' :: hex 4 n
  else '\\' :: 'U' :: hex 8 n

def escapeChar (c : Char) : List Char :=
  if c == '\\' then ['\\', '\\']
  else if c == '\n' then ['\\', 'n']
  else if c == '\r' then ['\\', 'r']
  else if c == '\t' then ['\\', 't']
  else if isPrintable c then [c]
  else codeEscape c.toNat

def escapePoint : Point → List Char
  | .char c => escapeChar c
  | .half i => codeEscape (Point.half i).toNat

def quoteFor (w : Wide) : Char :=
  if w.contains (.char '\'') && !w.contains (.char '"') then '"' else '\''

def quotedBody (q : Char) (w : Wide) : List Char :=
  w.flatMap fun p => if p == .char q then ['\\', q] else escapePoint p

def quoted (w : Wide) : String :=
  let q := quoteFor w
  String.ofList (q :: quotedBody q w ++ [q])

def escapeByte (b : UInt8) : List Char :=
  if b.toNat < 127 then
    if b.toNat < 32 && b != 9 && b != 10 && b != 13 then codeEscape b.toNat
    else escapeChar (Char.ofNat b.toNat)
  else codeEscape b.toNat

def quotedBytes (bs : List UInt8) : String :=
  let q := quoteFor (bs.map fun b => .char (Char.ofNat b.toNat))
  let body := bs.flatMap fun b =>
    if Char.ofNat b.toNat == q then ['\\', q] else escapeByte b
  String.ofList ('b' :: q :: body ++ [q])

end AttrBinder.Text
