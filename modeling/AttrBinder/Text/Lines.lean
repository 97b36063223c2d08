/-!
Lines of a text. Besides the line feed and the carriage return, alone or together, the vertical
tab, the form feed, three information separators, the next-line character and the two Unicode
separators end a line.
-/

namespace AttrBinder.Text

def isLineEnd (c : Char) : Bool :=
  let n := c.toNat
  (0x0A ≤ n && n ≤ 0x0D) || (0x1C ≤ n && n ≤ 0x1E) || n == 0x85 || n == 0x2028 || n == 0x2029

def countLines (isOpen : Bool) : List Char → Nat
  | [] => if isOpen then 1 else 0
  | '\r' :: '\n' :: rest => countLines false rest + 1
  | c :: rest => if isLineEnd c then countLines false rest + 1 else countLines true rest

def lineCount (s : String) : Nat :=
  countLines false s.toList

end AttrBinder.Text
