import AttrBinder.Numeric.Fixed
import AttrBinder.Text.FormatSpec
import AttrBinder.Value.Arithmetic

/-!
Values in a format. The empty format gives a value's text; any other is for texts and numbers only.
-/

namespace AttrBinder

namespace Text.FormatSpec

open Numeric (Binary64)

def floatDigits? (f : FormatSpec) (x : Binary64) : Option (List Char) :=
  let upper (cs : List Char) : List Char := cs.map Char.toUpper
  match f.letter with
  | none =>
    match f.precision with
    | none => some (x.magnitudeText true).toList
    | some p => some (x.generalText p)
  | some 'f' => some (x.fixedText (f.precision.getD 6))
  | some 'F' => some (x.fixedText (f.precision.getD 6))
  | some 'e' => some (x.scientificText (f.precision.getD 6))
  | some 'E' => some (upper (x.scientificText (f.precision.getD 6)))
  | some 'g' => some (x.generalText (f.precision.getD 6))
  | some 'n' => some (x.generalText (f.precision.getD 6))
  | some 'G' => some (upper (x.generalText (f.precision.getD 6)))
  | some '%' =>
    some ((Binary64.ofFloat (x.toFloat * 100)).fixedText (f.precision.getD 6) ++ ['%'])
  | _ => none

def formatFloat? (f : FormatSpec) (x : Binary64) : Option Wide := do
  let digits ← f.floatDigits? x
  let digits := if x.isFinite then digits else (x.magnitudeText true).toList
  let whole := digits.takeWhile Char.isDigit
  let body := f.grouped 3 whole ++ digits.dropWhile Char.isDigit
  let sign := f.signText (x.isNegative && !x.isNaN)
  return f.pad '>' (sign.map .char) (body.map .char)

def isForFloats (f : FormatSpec) : Bool :=
  match f.letter with
  | some c => ['e', 'E', 'f', 'F', 'g', 'G', '%'].contains c
  | none => false

end Text.FormatSpec

namespace Act

def formatted : Option Text.Wide → Act Text.Wide
  | some s => return s
  | none => misuse .value

def formatInt (f : Text.FormatSpec) (n : Int) : Act Text.Wide :=
  if f.isForFloats then
    match (Numeric.Number.int n).toBinary64 with
    | .ok x => formatted (f.formatFloat? x)
    | .error _ => misuse .overflow
  else formatted (f.formatInt? n)

/-- A value in a format. A cell gives the value it holds, which is thereby read. -/
def format (v : Value) (spec : Text.Wide) : Act Text.Wide := do
  let v ← contentOf maxNesting v
  if spec.isEmpty then plainText v
  else
    match v, Text.FormatSpec.parse? spec with
    | .str s, some f => formatted (f.formatText? s)
    | .kind k, some f => formatted (f.formatText? ("ValueKind." ++ k.name))
    | .bool b, some f => formatInt f (if b then 1 else 0)
    | .int n, some f => formatInt f n
    | .float x, some f => formatted (f.formatFloat? x)
    | .nan _, some f => formatted (f.formatFloat? .nan)
    | .complex _, _ => misuse .unsupported
    | .str _, none => misuse .value
    | .kind _, none => misuse .value
    | .bool _, none => misuse .value
    | .int _, none => misuse .value
    | .float _, none => misuse .value
    | .nan _, none => misuse .value
    | _, _ => misuse .type

end Act

end AttrBinder
