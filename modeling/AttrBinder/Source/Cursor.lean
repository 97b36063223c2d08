import AttrBinder.Source.Lexer

/-!
A place in a list of tokens, and the search for the end of an expression.
-/

namespace AttrBinder

/-- The tokens that are still ahead. The end stays ahead for ever. -/
structure Cursor where
  source : List Char
  ahead : List Token
  finish : Token
deriving Inhabited

namespace Cursor

def ofTokens (t : TokenList) : Cursor :=
  ⟨t.source, t.tokens, t.finish⟩

def peekAt (c : Cursor) (k : Nat) : Token :=
  c.ahead.getD k c.finish

def peek (c : Cursor) : Token :=
  c.peekAt 0

def advance (c : Cursor) : Cursor :=
  { c with ahead := c.ahead.drop 1 }

def atEnd (c : Cursor) : Bool :=
  c.peek.isFinish

def atOperator (c : Cursor) (text : String) : Bool :=
  c.peek.isOperator text

def textBetween (c : Cursor) (first last : Token) : List Char :=
  (c.source.take last.stop).drop first.start

/-- The tokens from the next separator on: a comma, the closer or any closing bracket, outside all
brackets that open on the way. Inside brackets a closer of another kind is passed over. -/
def fromSeparator (closer : Option String) (depth : List String) : List Token → List Token
  | [] => []
  | t :: rest =>
    if t.kind == .operator then
      if depth.isEmpty && (t.text == "," || some t.text == closer) then t :: rest
      else
        match closerOf? t.text with
        | some c => fromSeparator closer (c :: depth) rest
        | none =>
          if isCloser t.text then
            match depth with
            | [] => t :: rest
            | d :: outer =>
              if d == t.text then fromSeparator closer outer rest
              else fromSeparator closer depth rest
          else fromSeparator closer depth rest
    else fromSeparator closer depth rest

def skipToSeparator (c : Cursor) (closer : Option String) : Cursor :=
  { c with ahead := fromSeparator closer [] c.ahead }

/-- What an expression's tokens are: those that belong to it, the brackets that they leave open, and
the tokens behind them. -/
structure Extent where
  tokens : List Token
  depth : List String
  rest : List Token

/-- The tokens of an expression: up to a comma or a closing parenthesis outside its brackets, or to
a closing bracket that it does not ask for. -/
def extent (depth : List String) : List Token → Extent
  | [] => ⟨[], depth, []⟩
  | t :: rest =>
    let take (depth : List String) : Extent :=
      let e := extent depth rest
      { e with tokens := t :: e.tokens }
    if t.kind == .operator then
      if depth.isEmpty && (t.text == "," || t.text == ")") then ⟨[], depth, t :: rest⟩
      else
        match closerOf? t.text with
        | some c => take (c :: depth)
        | none =>
          if isCloser t.text then
            match depth with
            | [] => ⟨[], depth, t :: rest⟩
            | d :: outer => if d == t.text then take outer else ⟨[], depth, t :: rest⟩
          else take depth
    else take depth

end Cursor

end AttrBinder
