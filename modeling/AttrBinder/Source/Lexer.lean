import AttrBinder.Source.Token
import AttrBinder.Text.Blank
import AttrBinder.Text.Word

/-!
The lexical grammar of attribute lists: names, numbers, strings and operators, with line breaks,
comments and indentation passed over. Each rule gives the length of what it accepts at the head of
the remaining characters; a character that no rule accepts becomes a stray token of its own.
-/

namespace AttrBinder

namespace Lexer

open Text

def isGap (c : Char) : Bool :=
  c == ' ' || c == '\t' || c == '\x0c'

def runLength (p : Char → Bool) (cs : List Char) : Nat :=
  (cs.takeWhile p).length

def groupedTail (p : Char → Bool) : List Char → Nat
  | [] => 0
  | c :: rest =>
    if p c then 1 + groupedTail p rest
    else if c == '_' then
      match rest with
      | d :: more => if p d then 2 + groupedTail p more else 0
      | [] => 0
    else 0

def grouped (p : Char → Bool) (cs : List Char) : Nat :=
  if cs.head?.any p then groupedTail p cs else 0

def isDecimal (c : Char) : Bool := c.isDigit
def isHex (c : Char) : Bool := c.isDigit || ('a' ≤ c && c ≤ 'f') || ('A' ≤ c && c ≤ 'F')
def isOctal (c : Char) : Bool := '0' ≤ c && c ≤ '7'
def isBinary (c : Char) : Bool := c == '0' || c == '1'

def isAt (p : Char → Bool) (cs : List Char) (i : Nat) : Bool :=
  cs[i]?.any p

def exponentLength (cs : List Char) : Nat :=
  match cs with
  | e :: rest =>
    if e == 'e' || e == 'E' then
      let sign := if isAt (fun c => c == '+' || c == '-') rest 0 then 1 else 0
      let digits := grouped isDecimal (rest.drop sign)
      if digits == 0 then 0 else 1 + sign + digits
    else 0
  | [] => 0

/-- The length of a number with a point or an exponent, zero if there is none. -/
def floatLength (cs : List Char) : Nat :=
  let whole := grouped isDecimal cs
  if isAt (· == '.') cs whole then
    let fraction := grouped isDecimal (cs.drop (whole + 1))
    if whole == 0 && fraction == 0 then 0
    else
      let n := whole + 1 + fraction
      n + exponentLength (cs.drop n)
  else if whole == 0 then 0
  else
    let e := exponentLength (cs.drop whole)
    if e == 0 then 0 else whole + e

/-- The length of a number with a base mark such as `0x`, zero if there is none. -/
def basedLength (cs : List Char) : Nat :=
  match cs with
  | '0' :: mark :: rest =>
    let digits :=
      if mark == 'x' || mark == 'X' then groupedTail isHex rest
      else if mark == 'b' || mark == 'B' then groupedTail isBinary rest
      else if mark == 'o' || mark == 'O' then groupedTail isOctal rest
      else 0
    if digits == 0 then 0 else 2 + digits
  | _ => 0

def wholeLength (cs : List Char) : Nat :=
  match cs with
  | [] => 0
  | c :: _ =>
    if c == '0' then grouped (· == '0') cs
    else grouped isDecimal cs

def numberLength (cs : List Char) : Nat :=
  let isImaginary (c : Char) : Bool := c == 'j' || c == 'J'
  let digits := grouped isDecimal cs
  let float := floatLength cs
  if digits != 0 && isAt isImaginary cs digits then digits + 1
  else if float != 0 then (if isAt isImaginary cs float then float + 1 else float)
  else
    let based := basedLength cs
    if based != 0 then based else wholeLength cs

def isStringMark (cs : List Char) : Bool :=
  match cs.map Char.toLower with
  | [] => true
  | [a] => a == 'b' || a == 'r' || a == 'u' || a == 'f'
  | [a, b] =>
    (a == 'b' && b == 'r') || (a == 'r' && b == 'b') || (a == 'f' && b == 'r')
      || (a == 'r' && b == 'f')
  | _ => false

def isQuote (c : Char) : Bool :=
  c == '\'' || c == '"'

def stringMark? (cs : List Char) : Option Nat :=
  let n := runLength (fun c => !isQuote c) (cs.take 3)
  if isAt isQuote cs n && isStringMark (cs.take n) then some n else none

def isTriple (q : Char) (cs : List Char) : Bool :=
  cs.take 3 == [q, q, q]

def tripleLength? (q : Char) : List Char → Option Nat
  | [] => none
  | '\\' :: _ :: rest => (tripleLength? q rest).map (· + 2)
  | c :: rest =>
    if isTriple q (c :: rest) then some 3 else (tripleLength? q rest).map (· + 1)

inductive LineEnding where
  | closed (length : Nat)
  /-- At a backslash before a line break, with the length up to and with the break. -/
  | broken (length : Nat)
deriving DecidableEq, Repr

def LineEnding.shift (k : Nat) : LineEnding → LineEnding
  | closed n => closed (n + k)
  | broken n => broken (n + k)

def lineEnding? (q : Char) : List Char → Option LineEnding
  | [] => none
  | '\\' :: '\n' :: _ => some (.broken 2)
  | '\\' :: '\r' :: '\n' :: _ => some (.broken 3)
  | '\\' :: _ :: rest => (lineEnding? q rest).map (.shift 2)
  | c :: rest =>
    if c == q then some (.closed 1)
    else if c == '\n' || c == '\\' then none
    else (lineEnding? q rest).map (.shift 1)

def closeOnLine? (q : Char) (triple : Bool) : List Char → Option Nat
  | [] => none
  | '\\' :: c :: rest => if c == '\n' then none else (closeOnLine? q triple rest).map (· + 2)
  | c :: rest =>
    if c == '\n' then none
    else if triple && isTriple q (c :: rest) then some 3
    else if !triple && c == q then some 1
    else (closeOnLine? q triple rest).map (· + 1)

def lineLength (cs : List Char) : Nat :=
  let n := runLength (· != '\n') cs
  if n < cs.length then n + 1 else n

def isContinued (line : List Char) : Bool :=
  match line.reverse with
  | '\n' :: '\\' :: _ => true
  | '\n' :: '\r' :: '\\' :: _ => true
  | _ => false

inductive Ending where
  | closed (length : Nat)
  | abandoned (length : Nat)
  | missing
deriving DecidableEq, Repr

def Ending.shift (k : Nat) : Ending → Ending
  | closed n => closed (n + k)
  | abandoned n => abandoned (n + k)
  | missing => missing

/-- The end of a string on the lines after its first. In `strict` mode a line that does not close
the string has to end in a backslash. -/
def ending (q : Char) (triple strict : Bool) (cs : List Char) : Ending :=
  match cs with
  | [] => .missing
  | c :: rest =>
    match closeOnLine? q triple (c :: rest) with
    | some n => .closed n
    | none =>
      let n := lineLength (c :: rest)
      if !strict || isContinued ((c :: rest).take n) then
        (ending q triple strict (rest.drop (n - 1))).shift n
      else .abandoned n
termination_by cs.length
decreasing_by simp only [List.length_drop, List.length_cons]; omega

def operators : List String :=
  ["**=", "//=", "<<=", ">>=", "...",
   "|=", "^=", "@=", ">>", ">=", "==", "<=", "<<", ":=", "/=", "//", "->", "-=", "+=", "*=", "**",
   "&=", "%=", "!=",
   "~", "\x7d", "|", "\x7b", "^", "]", "[", "@", ">", "=", "<", ";", ":", "/", ".", "-", ",", "+",
   "*", ")", "(", "&", "%"]

def operatorLength (cs : List Char) : Nat :=
  match operators.find? (fun op => op.toList.isPrefixOf cs) with
  | some op => op.length
  | none => 0

def breakLength (cs : List Char) : Nat :=
  match cs with
  | '\n' :: _ => 1
  | '\r' :: '\n' :: _ => 2
  | _ => 0

/-- What a rule accepts at the head of the remaining characters. -/
inductive Piece where
  | joint (length : Nat)
  | comment (length : Nat)
  | lineBreak (length : Nat)
  | token (kind : TokenKind) (length : Nat)
  | longString (length : Nat)
  /-- A string that neither closes nor goes on, up to the end of its last line. -/
  | abandoned (length : Nat)
  | unfinished
  | nothing
deriving DecidableEq, Repr

def Ending.piece : Ending → Piece
  | closed n => .longString n
  | abandoned n => .abandoned n
  | missing => .unfinished

def stringPiece (m : Nat) (cs : List Char) : Piece :=
  let q := cs.getD m '\''
  let body := cs.drop (m + 1)
  match lineEnding? q body with
  | some (.closed n) => .token .string (m + 1 + n)
  | some (.broken n) => ((ending q false true (body.drop n)).shift (m + 1 + n)).piece
  | none => .nothing

def triplePiece (strict : Bool) (m : Nat) (cs : List Char) : Piece :=
  let q := cs.getD m '\''
  let body := cs.drop (m + 3)
  match closeOnLine? q true body with
  | some n => .token .string (m + 3 + n)
  | none =>
    let n := lineLength body
    ((ending q true strict (body.drop n)).shift (m + 3 + n)).piece

/-- The kind of a run of word characters: one that cannot start a name counts as an operator. -/
def wordPiece (cs : List Char) : Piece :=
  match runLength isWord cs with
  | 0 => .nothing
  | n + 1 => .token (if cs.head?.any isIdentifierStart then .name else .operator) (n + 1)

/-- The first rule that accepts something, in the order of the lexical grammar. -/
def piece (strict : Bool) (cs : List Char) : Piece :=
  match cs with
  | '\\' :: '\n' :: _ => .joint 2
  | '\\' :: '\r' :: '\n' :: _ => .joint 3
  | '#' :: rest => .comment (1 + runLength (fun c => c != '\r' && c != '\n') rest)
  | _ =>
    match stringMark? cs with
    | some m =>
      let q := cs.getD m '\''
      if isTriple q (cs.drop m) then triplePiece strict m cs
      else
        match stringPiece m cs with
        | .nothing => wordPiece cs
        | p => p
    | none =>
      match numberLength cs, breakLength cs, operatorLength cs with
      | 0, 0, 0 => wordPiece cs
      | 0, 0, n => .token .operator n
      | 0, n, _ => .lineBreak n
      | n, _, _ => .token .number n

inductive Failure where
  | openString (row column : Nat)
  | openStatement (row : Nat)
  | indentation (row : Nat)
deriving DecidableEq, Repr

def Failure.message : Failure → String
  | openString r c => s!"('EOF in multi-line string', ({r}, {c}))"
  | openStatement r => s!"('EOF in multi-line statement', ({r}, 0))"
  | indentation r =>
    s!"unindent does not match any outer indentation level (<tokenize>, line {r})"

structure Located where
  kind : TokenKind
  text : String
  start : Mark
  stop : Mark
deriving DecidableEq, Repr

/-- What the lexer remembers: open minus closed brackets, the indentation depths above zero,
innermost first, whether a line starts here, and whether a string of several lines was abandoned
and none has closed since. After that a string of three quotes is held to the strict rule, too. -/
structure State where
  level : Int := 0
  depths : List Nat := []
  lineStart : Bool := true
  strict : Bool := false

/-- The depth of an indentation: a tab goes on to the next multiple of eight, a form feed starts
over. -/
def indentDepth : List Char → Nat :=
  List.foldl (fun n c => if c == '\t' then (n / 8 + 1) * 8 else if c == '\x0c' then 0 else n + 1) 0

/-- The depths after a line of a given depth; `none` if it falls between those around it. -/
def settle (depths : List Nat) (depth : Nat) : Option (List Nat) :=
  match depths with
  | [] => some (if depth == 0 then [] else [depth])
  | d :: outer =>
    if depth > d then some (depth :: d :: outer)
    else if depth == d then some (d :: outer)
    else if outer.contains depth || depth == 0 then settle outer depth
    else none

def levelChange (text : List Char) : Int :=
  match text.head? with
  | some c =>
    if c == '(' || c == '[' || c == '\x7b' then 1
    else if c == ')' || c == ']' || c == '\x7d' then -1
    else 0
  | none => 0

def scan (st : State) (m : Mark) (cs : List Char) : Except Failure (List Located) :=
  match cs with
  | [] => if st.level == 0 then .ok [] else .error (.openStatement (m.row + 1))
  | c :: rest =>
    let all := c :: rest
    let gap := runLength isGap all
    let body := all.drop gap
    let fresh := st.lineStart && st.level == 0
    if fresh && body.head?.any (fun c => c == '#' || c == '\r' || c == '\n') then
      let n := lineLength all
      scan st (m.past (all.take n)) (rest.drop (n - 1))
    else
      match (if fresh then settle st.depths (indentDepth (all.take gap)) else some st.depths) with
      | none => .error (.indentation m.row)
      | some depths =>
        let st := { st with depths := depths, lineStart := false }
        let start := m.past (all.take gap)
        match piece st.strict body with
        | .joint n => scan st (start.past (body.take n)) (rest.drop (gap + n - 1))
        | .comment n => scan st (start.past (body.take n)) (rest.drop (gap + n - 1))
        | .lineBreak n =>
          scan { st with lineStart := true } (start.past (body.take n)) (rest.drop (gap + n - 1))
        | .token kind n => do
          let text := body.take n
          let stop := start.past text
          let level := st.level + if kind == .operator then levelChange text else 0
          let more ← scan { st with level := level } stop (rest.drop (gap + n - 1))
          return ⟨kind, String.ofList text, start, stop⟩ :: more
        | .longString n => do
          let text := body.take n
          let stop := start.past text
          let more ← scan { st with strict := false } stop (rest.drop (gap + n - 1))
          return ⟨.string, String.ofList text, start, stop⟩ :: more
        | .abandoned n => do
          let text := body.take n
          let last := start.past (text.dropLast)
          let after := start.past text
          let stop : Mark := ⟨last.row, last.column + 1, after.offset⟩
          let broken := after.row != last.row
          let more ← scan { st with lineStart := broken, strict := true } after
            (rest.drop (gap + n - 1))
          return ⟨.stray, String.ofList text, start, stop⟩ :: more
        | .unfinished => .error (.openString start.row start.column)
        | .nothing => do
          let lead := if fresh then gap else 0
          let text := (all.drop lead).take 1
          let start := m.past (all.take lead)
          let stop := start.past text
          let more ← scan st stop (rest.drop lead)
          return ⟨.stray, String.ofList text, start, stop⟩ :: more
termination_by cs.length
decreasing_by all_goals simp only [List.length_drop, List.length_cons]; omega

def finishRow (cs : List Char) : Nat :=
  if cs.isEmpty then 1 else cs.count '\n' + 2

def lastLineStart (cs : List Char) : Nat :=
  cs.length - (cs.reverse.takeWhile (· != '\n')).length

end Lexer

/-- A template's attribute list cut into tokens: the trimmed source, the tokens before the end, and
the token that stands for the end. -/
structure TokenList where
  source : List Char
  tokens : List Token
  finish : Token

namespace TokenList

/-- Cuts a source into tokens. Failures are located at the first character of the trimmed
source. -/
def ofSource (source : String) (origin : Origin) : Except (Lexer.Failure × Span) TokenList :=
  let chars := source.toList
  let body := Text.trim chars
  let origin := origin.past (chars.takeWhile Text.isBlank)
  match Lexer.scan {} {} body with
  | .error e => .error (e, origin.span {} {})
  | .ok lexemes =>
    let place (x : Lexer.Located) : Token :=
      ⟨x.kind, x.text, origin.span x.start x.stop, x.start.offset, x.stop.offset⟩
    let last : Mark := ⟨Lexer.finishRow body, 0, Lexer.lastLineStart body⟩
    .ok { source := body, tokens := lexemes.map place
          finish := ⟨.finish, "", origin.span last last, last.offset, last.offset⟩ }

def toList (t : TokenList) : List Token :=
  t.tokens ++ [t.finish]

end TokenList

end AttrBinder
