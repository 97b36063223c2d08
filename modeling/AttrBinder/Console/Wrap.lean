import AttrBinder.Text.Blank
import AttrBinder.Text.CellWidth
import AttrBinder.Text.Lines

/-!
Lines brought to a width. A line is broken between words; a word that is wider than the line is
either folded or cut off, and then ends in an ellipsis.
-/

namespace AttrBinder.Console.Wrap

open Text (Cluster cells isBlank)

def partsAt (isSeparator : Char → Bool) : List Char → List (List Char)
  | [] => [[]]
  | c :: rest =>
    match partsAt isSeparator rest with
    | p :: ps => if isSeparator c then [] :: p :: ps else (c :: p) :: ps
    | [] => [[c]]

def toStop (size place : Nat) : Nat :=
  (size - place % size) % size

/-- The parts of a line between tabs, put together again: a tab is a blank, and more of them up to
the next stop. -/
def joinTabs (size place : Nat) : List (List Char) → List Char
  | [] => []
  | [part] => part
  | part :: rest =>
    let here := place + cells (part ++ [' '])
    let gap := toStop size here
    part ++ ' ' :: List.replicate gap ' ' ++ joinTabs size (here + gap) rest

def tabSize : Nat := 8

def expandTabs (line : List Char) : List Char :=
  joinTabs tabSize 0 (partsAt (· == '\t') line)

/-- Stretches of a line, each of them a word with the blanks behind it, but for the first one if the
line starts with blanks. -/
def stretches : List Char → List (List Char)
  | [] => []
  | c :: rest =>
    match stretches rest with
    | (d :: w) :: ws =>
      if isBlank c && !isBlank d then [c] :: (d :: w) :: ws else (c :: d :: w) :: ws
    | _ => [[c]]

def words (line : List Char) : List (List Char) :=
  match stretches line with
  | w :: x :: ws => if w.all isBlank then (w ++ x) :: ws else w :: x :: ws
  | [w] => if w.all isBlank then [] else [w]
  | [] => []

def chop (width : Nat) (piece : List Char) (taken : Nat) : List Cluster → List (List Char)
  | [] => if taken == 0 then [] else [piece]
  | k :: rest =>
    if taken + k.cells > width then piece :: chop width k.chars k.cells rest
    else chop width (piece ++ k.chars) (taken + k.cells) rest

/-- A line in the making: the lines before it, last first, what it holds, and the cells that this
takes. -/
structure Draft where
  done : List (List Char) := []
  line : List Char := []
  offset : Nat := 0
deriving Inhabited

namespace Draft

def breakWith (d : Draft) (text : List Char) : Draft :=
  if d.done.isEmpty && d.line.isEmpty then { d with line := text, offset := cells text }
  else { done := d.line :: d.done, line := text, offset := cells text }

/-- Adds a word. A word that is wider than the whole line is folded or, if that is not wanted,
gets a line of its own. -/
def add (width : Nat) (fold : Bool) (d : Draft) (word : List Char) : Draft :=
  let size := cells (Text.trimEnd word)
  if d.offset + size ≤ width then
    { d with line := d.line ++ word, offset := d.offset + cells word }
  else if size > width then
    if fold then (chop width [] 0 (Cluster.ofChars word)).foldl breakWith d else d.breakWith word
  else d.breakWith word

def lines (d : Draft) : List (List Char) :=
  (d.line :: d.done).reverse

end Draft

def divide (width : Nat) (fold : Bool) (line : List Char) : List (List Char) :=
  match words line with
  | [] => [line]
  | ws => (ws.foldl (Draft.add width fold) {}).lines

def trimExcess (width : Nat) (line : List Char) : List Char :=
  let blanks := (line.reverse.takeWhile isBlank).length
  line.take (line.length - min blanks (line.length - width))

def crop (width : Nat) : List Cluster → List Char
  | [] => []
  | k :: rest =>
    if width = 0 then []
    else if k.cells > width then [' ']
    else k.chars ++ crop (width - k.cells) rest

def truncate (width : Nat) (ellipsis : Bool) (line : List Char) : List Char :=
  if cells line ≤ width then line
  else if ellipsis then crop (width - 1) (Cluster.ofChars line) ++ ['…']
  else crop width (Cluster.ofChars line)

def wrapLine (width : Nat) (fold : Bool) (line : List Char) : List (List Char) :=
  (divide width fold line).map fun l => truncate width (!fold) (trimExcess width l)

def wrap (width : Nat) (text : List Char) : List (List Char) :=
  (partsAt (· == '\n') text).flatMap fun l => wrapLine width false (expandTabs l)

def soft (text : List Char) : List Char :=
  List.intercalate ['\n'] ((partsAt (· == '\n') text).map expandTabs)

def expandIndents (place : Nat) : List Char → List Char
  | [] => []
  | c :: rest =>
    if c == '\t' then
      let gap := 4 - place % 4
      List.replicate gap ' ' ++ expandIndents (place + gap) rest
    else c :: expandIndents (place + 1) rest

def wrapCode (width : Nat) (text : List Char) : List (List Char) :=
  (partsAt (· == '\n') text).flatMap fun l => wrapLine width true (expandIndents 0 l)

def natural (text : List Char) : Nat :=
  (partsAt Text.isLineEnd text).foldl (fun w l => max w (cells l)) 0

end AttrBinder.Console.Wrap
