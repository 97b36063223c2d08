import AttrBinder.Console.Emoji.Table
import AttrBinder.Text.Blank
import AttrBinder.Text.CharName
import AttrBinder.Text.LetterCase
import AttrBinder.Text.Packed

/-!
Emoji codes. A name between colons stands for an emoji; with `-emoji` or `-text` behind the name it
is shown in colour or as plain text. A code with an unknown name stays as it is.
-/

namespace AttrBinder.Console.Emoji

def tones : List (String × Char) :=
  [("dark", '🏿'), ("light", '🏻'), ("medium-dark", '🏾'),
   ("medium-light", '🏼'), ("medium", '🏽')]

/-- An emoji in a tone of skin: the tone stands behind the first sign, in place of a selector. -/
def toned (tone : Char) : List Char → List Char
  | c :: '\ufe0f' :: rest => c :: tone :: rest
  | c :: rest => c :: tone :: rest
  | [] => []

/-- What a name of the table stands for: an emoji, and one more for each tone if the name is marked by
`~`. A name that is left out is that of the first character. -/
def named (first : Nat) (emoji name : String) : List (String × String) :=
  let bare := (name.splitOn "~").headD ""
  let whole := if bare.isEmpty then (Text.CharName.ofCode? first).getD "" else bare
  let plain := whole.map fun c => if c == ' ' then '_' else c.toLower
  (plain, emoji) ::
    if name.endsWith "~" then tones.map fun (tone, sign) =>
      (plain ++ "_" ++ tone ++ "_skin_tone", String.ofList (toned sign emoji.toList))
    else []

def signs : String := ",= -!#&()*+.~ãåçéíô’0123456789ABCDEFGHIJKLMNOPQRSTUVWXYZ"

/-- Names that are read from the table, with their emoji. -/
structure Reading where
  entries : List (String × String)
  /-- The character behind the last one that is an emoji by itself, or the first of the last
  sequence. -/
  next : Nat

/-- Reads a field of the table: how far the first code point of an emoji lies behind the next one, the
code points after it, and its names. -/
def Reading.field (r : Reading) (field : String) : Reading :=
  let parts := field.splitOn "="
  let codes := ((parts.headD "").splitOn " ").filterMap fun code => Text.hexNumber? code.toList
  let first := r.next + codes.headD 0
  let emoji := String.ofList ((first :: codes.tail).map Char.ofNat)
  ⟨parts.tail.flatMap (named first emoji) ++ r.entries,
    if codes.tail.isEmpty then first + 1 else first⟩

def entries : Thunk (List (String × String)) :=
  Thunk.mk fun _ =>
    let table := String.ofList (Text.Packed.text signs 4 29804 packed)
    ((table.splitOn ",").foldl Reading.field ⟨[], 0⟩).entries

def find? (name : String) : Option String :=
  entries.get.lookup name

def withoutEnding? (ending cs : List Char) : Option (List Char) :=
  if ending.reverse.isPrefixOf cs.reverse then some (cs.take (cs.length - ending.length)) else none

def selector (code : List Char) : List Char × List Char :=
  match withoutEnding? "-emoji".toList code with
  | some name => (name, ['\ufe0f'])
  | none =>
    match withoutEnding? "-text".toList code with
    | some name => (name, ['\ufe0e'])
    | none => (code, [])

def shown (code : List Char) : List Char :=
  let (name, mark) := selector code
  match find? (Text.lower (name.map .char)).replaced with
  | some emoji => emoji.toList ++ mark
  | none => ':' :: code ++ [':']

def replace (cs : List Char) : List Char :=
  match cs with
  | [] => []
  | c :: rest =>
    if c == ':' then
      let code := rest.takeWhile fun d => d != ':' && !Text.isBlank d
      match rest.drop code.length with
      | ':' :: _ => shown code ++ replace (rest.drop (code.length + 1))
      | _ => c :: replace rest
    else c :: replace rest
termination_by cs.length
decreasing_by all_goals simp only [List.length_drop, List.length_cons]; omega

end AttrBinder.Console.Emoji
