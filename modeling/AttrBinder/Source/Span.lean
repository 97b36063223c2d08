/-!
Places in a template: spans of lines and columns, and the origin of a snippet inside its template.
-/

namespace AttrBinder

/-- A stretch of source. Lines count from one and columns from zero, in characters. -/
structure Span where
  line : Int
  column : Int
  endLine : Int
  endColumn : Int
  file : String := ""
deriving DecidableEq, Repr, Inhabited

namespace Span

def through (a b : Span) : Span :=
  { line := a.line, column := a.column, endLine := b.endLine, endColumn := b.endColumn
    file := a.file }

def text (s : Span) : String :=
  let place := toString s.line ++ ":" ++ toString s.column
  if s.file.isEmpty then place else s.file ++ ":" ++ place

end Span

/-- Where a snippet of source begins inside its template. -/
structure Origin where
  line : Int := 1
  column : Int := 0
  file : String := ""
deriving DecidableEq, Repr, Inhabited

namespace Origin

/-- The origin of what follows a skipped text: after a line break the column starts anew. -/
def past (o : Origin) (skipped : List Char) : Origin :=
  let breaks := skipped.count '\n'
  if breaks == 0 then { o with column := o.column + skipped.length }
  else
    { o with
      line := o.line + breaks
      column := (skipped.reverse.takeWhile (· != '\n')).length }

end Origin

/-- A position inside a snippet: the row counts from one, column and offset from zero. -/
structure Mark where
  row : Nat := 1
  column : Nat := 0
  offset : Nat := 0
deriving DecidableEq, Repr, Inhabited

namespace Mark

def step (m : Mark) (c : Char) : Mark :=
  if c == '\n' then ⟨m.row + 1, 0, m.offset + 1⟩ else ⟨m.row, m.column + 1, m.offset + 1⟩

def past (m : Mark) (cs : List Char) : Mark :=
  cs.foldl step m

end Mark

namespace Origin

def lineOf (o : Origin) (m : Mark) : Int :=
  m.row + o.line - 1

def columnOf (o : Origin) (m : Mark) : Int :=
  if m.row == 1 then m.column + o.column else m.column

def span (o : Origin) (start stop : Mark) : Span :=
  { line := o.lineOf start, column := o.columnOf start
    endLine := o.lineOf stop, endColumn := o.columnOf stop, file := o.file }

end Origin

end AttrBinder
