import AttrBinder.Numeric.Digits
import AttrBinder.Text.Wide

/-!
Format specifications such as `03d` or `>6`: fill and alignment, sign, width, grouping, precision
and a letter for the presentation.
-/

namespace AttrBinder.Text

structure FormatSpec where
  fill : Option Point := none
  align : Option Char := none
  sign : Option Char := none
  alternate : Bool := false
  zero : Bool := false
  width : Nat := 0
  grouping : Option Char := none
  precision : Option Nat := none
  letter : Option Char := none
deriving DecidableEq, Repr, Inhabited

namespace FormatSpec

def align? (p : Point) : Option Char :=
  p.char?.filter fun c => c == '<' || c == '>' || c == '=' || c == '^'

def takeAlign : Wide → Option Point × Option Char × Wide
  | f :: a :: rest =>
    match align? a with
    | some c => (some f, some c, rest)
    | none =>
      match align? f with
      | some c => (none, some c, a :: rest)
      | none => (none, none, f :: a :: rest)
  | [a] =>
    match align? a with
    | some c => (none, some c, [])
    | none => (none, none, [a])
  | [] => (none, none, [])

def takeIf (p : Char → Bool) : List Char → Option Char × List Char
  | c :: rest => if p c then (some c, rest) else (none, c :: rest)
  | [] => (none, [])

def takeNat (cs : List Char) : Option Nat × List Char :=
  let ds := cs.takeWhile Char.isDigit
  (if ds.isEmpty then none else some (ds.foldl (fun n d => 10 * n + (d.toNat - 48)) 0),
    cs.dropWhile Char.isDigit)

/-- Reads a specification; `none` if it is none. Only the fill can be any code point. -/
def parse? (w : Wide) : Option FormatSpec := do
  let (fill, align, rest) := takeAlign w
  let cs ← rest.mapM Point.char?
  let (sign, cs) := takeIf (fun c => c == '+' || c == '-' || c == ' ') cs
  let (alternate, cs) := takeIf (· == '#') cs
  let (zero, cs) := if fill.isNone then takeIf (· == '0') cs else (none, cs)
  let (width, cs) := takeNat cs
  let (grouping, cs) := takeIf (fun c => c == ',' || c == '_') cs
  let (precision, cs) ←
    match cs with
    | '.' :: rest =>
      match takeNat rest with
      | (some n, rest) => some (some n, rest)
      | (none, _) => none
    | cs => some (none, cs)
  let letter ←
    match cs with
    | [] => some none
    | [c] => some (some c)
    | _ => none
  return { fill := fill, align := align, sign := sign, alternate := alternate.isSome,
           zero := zero.isSome, width := width.getD 0, grouping := grouping,
           precision := precision, letter := letter }

def pad (f : FormatSpec) (default : Char) (lead body : Wide) : Wide :=
  let fill := f.fill.getD (.char (if f.zero then '0' else ' '))
  let align := f.align.getD (if f.zero && default == '>' then '=' else default)
  let missing := f.width - (lead.length + body.length)
  let blanks (n : Nat) : Wide := List.replicate n fill
  if align == '<' then lead ++ body ++ blanks missing
  else if align == '^' then blanks (missing / 2) ++ lead ++ body ++ blanks (missing - missing / 2)
  else if align == '=' then lead ++ blanks missing ++ body
  else blanks missing ++ lead ++ body

def formatText? (f : FormatSpec) (w : Wide) : Option Wide :=
  if (f.letter.all (· == 's')) && f.sign.isNone && !f.alternate && f.align != some '='
      && f.grouping.isNone then
    let body := match f.precision with
      | some n => w.take n
      | none => w
    some (f.pad '<' [] body)
  else none

def signText (f : FormatSpec) (negative : Bool) : List Char :=
  if negative then ['-']
  else match f.sign with
    | some '+' => ['+']
    | some ' ' => [' ']
    | _ => []

def group (separator : Char) (size : Nat) (ds : List Char) : List Char :=
  let places := ds.length
  (ds.zipIdx.map fun (d, i) =>
    if i > 0 && (places - i) % size == 0 then [separator, d] else [d]).flatten

def grouped (f : FormatSpec) (size : Nat) (ds : List Char) : List Char :=
  match f.grouping with
  | some c => group c size ds
  | none => ds

/-- The presentations of whole numbers: base, mark in front and letter case. -/
def basis? (letter : Option Char) : Option (Nat × List Char × Bool) :=
  match letter with
  | none => some (10, [], false)
  | some 'd' => some (10, [], false)
  | some 'n' => some (10, [], false)
  | some 'b' => some (2, ['0', 'b'], false)
  | some 'o' => some (8, ['0', 'o'], false)
  | some 'x' => some (16, ['0', 'x'], false)
  | some 'X' => some (16, ['0', 'X'], true)
  | _ => none

/-- A whole number in a format, if the format is one for whole numbers. A decimal text may need too
many digits. -/
def formatInt? (f : FormatSpec) (n : Int) : Option Wide := do
  let (base, mark, upper) ← basis? f.letter
  if f.precision.isSome || (f.grouping == some ',' && base != 10) then none
  else if base == 10 && !Numeric.hasDecimal n then none
  else
    let ds := Nat.toDigits base n.natAbs
    let ds := if upper then ds.map Char.toUpper else ds
    let lead := f.signText (decide (n < 0)) ++ if f.alternate then mark else []
    let body := f.grouped (if base == 10 then 3 else 4) ds
    return f.pad '>' (lead.map .char) (body.map .char)

end FormatSpec

end AttrBinder.Text
