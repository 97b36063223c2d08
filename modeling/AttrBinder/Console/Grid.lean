import AttrBinder.Console.Wrap

/-!
Tables in box characters: a centred title, a header between heavy lines, and rows. A column is as
wide as its widest cell; if all columns together are wider than the console, the widest ones
shrink, and the text of their cells is broken.
-/

namespace AttrBinder.Console.Grid

open Text (cells)

def padding : Nat := 2

def roundDiv (n d : Nat) : Nat :=
  let q := n / d
  let twice := 2 * (n % d)
  if twice > d || (twice == d && q % 2 == 1) then q + 1 else q

/-- Takes a total off the columns that are marked, each as much as the others but no more than a
limit. -/
def reduce (total : Nat) (marked : Nat) : List (Nat × Nat × Bool) → List Nat
  | [] => []
  | (width, limit, true) :: rest =>
    let part := min limit (roundDiv total marked)
    (width - part) :: reduce (total - part) (marked - 1) rest
  | (width, _, false) :: rest => width :: reduce total marked rest

def sum (ws : List Nat) : Nat :=
  ws.foldl (· + ·) 0

/-- Shrinks the widest columns to the width of the next ones, again and again, as far as needed. -/
def shrinkWidest (room : Nat) : Nat → List Nat → List Nat
  | 0, ws => ws
  | fuel + 1, ws =>
    let excess := sum ws - room
    if excess == 0 then ws
    else
      let widest := ws.foldl max 0
      let next := (ws.filter (· != widest)).foldl max 0
      let limit := min excess (widest - next)
      if limit == 0 then ws
      else
        let marked := (ws.filter (· == widest)).length
        shrinkWidest room fuel
          (reduce excess marked (ws.map fun w => (w, limit, w == widest)))

def shrink (room : Nat) (ws : List Nat) : List Nat :=
  let shrunk := shrinkWidest room (ws.length + 1) ws
  let excess := sum shrunk - room
  if excess == 0 then shrunk
  else
    let marked := (shrunk.filter (· != 0)).length
    reduce excess marked (shrunk.map fun w => (w, w, w != 0))

def columnWidth (limit : Nat) (column : List String) : Nat :=
  min limit (column.foldl (fun w c => max w (Wrap.natural c.toList)) 0 + padding)

def widths (console : Nat) (columns : List (List String)) : List Nat :=
  let room := console - (columns.length + 1)
  let ws := columns.map (columnWidth room)
  if sum ws > room then ((shrink room ws).zip columns).map fun (w, c) => columnWidth w c else ws

def blanks (n : Nat) : String :=
  String.ofList (List.replicate n ' ')

def rule (left stroke cross right : String) (ws : List Nat) : String :=
  left ++ cross.intercalate (ws.map fun w => "".intercalate (List.replicate w stroke)) ++ right

def fit (width : Nat) (cs : List Char) : String :=
  String.ofList cs ++ blanks (width - cells cs)

def rowLines (bar : String) (ws : List Nat) (row : List String) : List String :=
  let texts := (row.zip ws).map fun (c, w) => (w - padding, Wrap.wrap (w - padding) c.toList)
  let height := texts.foldl (fun n (_, ls) => max n ls.length) 1
  (List.range height).map fun k =>
    let parts := texts.map fun (w, ls) => " " ++ fit w (ls.getD k []) ++ " "
    bar ++ bar.intercalate parts ++ bar

def lines (console : Nat) (title : String) (header : List String) (rows : List (List String)) :
    List String :=
  let columns := header.zipIdx.map fun (h, i) => h :: rows.map fun row => row.getD i ""
  let ws := widths console columns
  let total := sum ws + ws.length + 1
  [blanks ((total - cells title.toList) / 2) ++ title,
   rule "┏" "━" "┳" "┓" ws]
  ++ rowLines "┃" ws header
  ++ [rule "┡" "━" "╇" "┩" ws]
  ++ rows.flatMap (rowLines "│" ws)
  ++ [rule "└" "─" "┴" "┘" ws]

end AttrBinder.Console.Grid
