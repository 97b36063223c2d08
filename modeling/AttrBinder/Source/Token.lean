import AttrBinder.Source.Span

/-!
The tokens of an attribute list, and brackets.
-/

namespace AttrBinder

/-- What a token is. A `stray` token is text that no rule of the lexical grammar accepts, and
`finish` stands behind the last character. -/
inductive TokenKind where
  | name
  | operator
  | number
  | string
  | stray
  | finish
deriving DecidableEq, Repr, Inhabited

/-- A token with its template span and its offsets into the trimmed source. -/
structure Token where
  kind : TokenKind
  text : String
  span : Span
  start : Nat
  stop : Nat
deriving DecidableEq, Repr, Inhabited

namespace Token

def isOperator (t : Token) (text : String) : Bool :=
  t.kind == .operator && t.text == text

def isName (t : Token) : Bool :=
  t.kind == .name

def isFinish (t : Token) : Bool :=
  t.kind == .finish

def describe (t : Token) : String :=
  if t.isFinish then "end of input" else "`" ++ t.text ++ "`"

end Token

def closerOf? (text : String) : Option String :=
  if text == "(" then some ")"
  else if text == "[" then some "]"
  else if text == "\x7b" then some "\x7d"
  else none

def isCloser (text : String) : Bool :=
  text == ")" || text == "]" || text == "\x7d"

end AttrBinder
