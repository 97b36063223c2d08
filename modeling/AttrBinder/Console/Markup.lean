import AttrBinder.Console.Emoji
import AttrBinder.Console.Style
import AttrBinder.Expr.Data
import AttrBinder.Expr.Parser
import AttrBinder.Text.Blank
import AttrBinder.Text.Word

/-!
Console markup: a tag such as `[bold]` opens a style and is not shown, `[/]` or `[/bold]` closes
one. A tag starts with a small letter, `#`, `/` or `@`, and ends at the next bracket. Backslashes in
front of a tag escape it. Between tags, emoji codes are replaced.
-/

namespace AttrBinder.Console.Markup

def startsTag (c : Char) : Bool :=
  ('a' ≤ c && c ≤ 'z') || c == '#' || c == '/' || c == '@'

def tagLength? (cs : List Char) : Option Nat :=
  match cs with
  | '[' :: c :: rest =>
    if startsTag c then
      let inner := rest.takeWhile fun d => d != '[' && d != ']'
      match rest.drop inner.length with
      | ']' :: _ => some (inner.length + 3)
      | _ => none
    else none
  | _ => none

/-- A piece of markup: text as it stands, or a tag between brackets. -/
inductive Piece where
  | text (cs : List Char)
  | tag (cs : List Char)
deriving DecidableEq, Repr, Inhabited

def addChar (c : Char) : List Piece → List Piece
  | .text cs :: rest => .text (c :: cs) :: rest
  | ps => .text [c] :: ps

/-- The pieces of a text. Of the backslashes in front of a tag every second shows, and an odd one
makes the tag a text. -/
def pieces (cs : List Char) : List Piece :=
  match cs with
  | [] => []
  | c :: rest =>
    let slashes := (c :: rest).takeWhile (· == '\\')
    match tagLength? ((c :: rest).drop slashes.length) with
    | some n =>
      let tag := ((c :: rest).drop slashes.length).take n
      let more := pieces (rest.drop (slashes.length + n - 1))
      let shown := List.replicate (slashes.length / 2) '\\'
      if slashes.length % 2 == 1 then .text shown :: .text tag :: more
      else .text shown :: .tag tag :: more
    | none => addChar c (pieces rest)
termination_by cs.length
decreasing_by all_goals simp only [List.length_drop, List.length_cons]; omega

def unslash : List Char → List Char
  | '\\' :: '[' :: rest => '[' :: unslash rest
  | c :: rest => c :: unslash rest
  | [] => []

def isControl (c : Char) : Bool :=
  c == '\x07' || c == '\x08' || c == '\x0b' || c == '\x0c' || c == '\r'

inductive Fault where
  /-- A closing tag has nothing to close, or closes an action with an argument that is no data. -/
  | tag
  | colour
deriving DecidableEq, Repr, Inhabited

structure Tag where
  name : List Char
  argument : Option (List Char)
deriving DecidableEq, Repr, Inhabited

def Tag.ofChars (cs : List Char) : Tag :=
  let inner := (cs.drop 1).dropLast
  let name := inner.takeWhile (· != '=')
  match inner.drop name.length with
  | _ :: rest => ⟨name, some rest⟩
  | [] => ⟨name, none⟩

/-- A tag that is open: the form of its name by which it is closed, and its argument. -/
structure OpenTag where
  name : String
  argument : Option (List Char)
deriving DecidableEq, Repr, Inhabited

/-- The arguments that an action is called with: those in parentheses behind a name, none if there
is a name only, and else all that is written. -/
def actionArguments (cs : List Char) : List Char :=
  let name := cs.takeWhile fun c => Text.isWord c || c == '.'
  match cs.drop name.length with
  | [] => ['(', ')']
  | '(' :: rest =>
    if rest.getLast? == some ')' && !rest.contains '\n' then '(' :: rest else cs
  | _ => cs

def OpenTag.isClosable (t : OpenTag) : Bool :=
  match t.argument with
  | some (c :: cs) =>
    if t.name.startsWith "@" then
      match Expr.parse (actionArguments (Text.trim (c :: cs))) with
      | .ok e => e.isData false
      | .error _ => false
    else true
  | _ => true

def compared (name : List Char) : Except Fault String :=
  (Style.normalize name).mapError fun _ => .colour

def close (t : OpenTag) (others : List OpenTag) : Except Fault (List OpenTag) :=
  if t.isClosable then .ok others else .error .tag

def opened (tags : List OpenTag) (t : Tag) : Except Fault (List OpenTag) :=
  match t.name with
  | '/' :: name => do
    if (Text.trim name).isEmpty then
      match tags with
      | t :: outer => close t outer
      | [] => throw .tag
    else
      let wanted ← compared (Text.trim name)
      match tags.find? fun t => t.name == wanted with
      | some t => close t (tags.eraseP fun t => t.name == wanted)
      | none => throw .tag
  | name => do
    let n ← compared name
    return ⟨n, t.argument⟩ :: tags

def showPieces (tags : List OpenTag) : List Piece → Except Fault (List Char)
  | [] => .ok []
  | .text cs :: rest => do
    let more ← showPieces tags rest
    return Emoji.replace (unslash cs) ++ more
  | .tag t :: rest => do
    let tags ← opened tags (.ofChars t)
    showPieces tags rest

def render (s : String) : Except Fault String := do
  let cs := s.toList
  let shown ← if cs.contains '[' then showPieces [] (pieces cs) else .ok (Emoji.replace cs)
  return String.ofList (shown.filter fun c => !isControl c)

def escapeTags (cs : List Char) : List Char :=
  match cs with
  | [] => []
  | c :: rest =>
    let slashes := (c :: rest).takeWhile (· == '\\')
    match tagLength? ((c :: rest).drop slashes.length) with
    | some n =>
      let tag := ((c :: rest).drop slashes.length).take n
      slashes ++ slashes ++ '\\' :: tag ++ escapeTags (rest.drop (slashes.length + n - 1))
    | none => c :: escapeTags rest
termination_by cs.length
decreasing_by all_goals simp only [List.length_drop, List.length_cons]; omega

def escape (s : String) : String :=
  let cs := escapeTags s.toList
  let trailing := cs.reverse.takeWhile (· == '\\')
  String.ofList (if trailing.length == 1 then cs ++ ['\\'] else cs)

end AttrBinder.Console.Markup
