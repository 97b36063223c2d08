import AttrBinder.Attribute.Basic
import AttrBinder.Expr.Parser
import AttrBinder.Source.Cursor

/-!
The grammar of attribute lists:

    list      := '(' attribute (',' attribute)* ','? ')'
    attribute := directive '=' expression
    directive := 'ref' | identifier ':' identifier | identifier ('-' identifier)*

A fault inside one attribute is recorded and reading resumes at the next separator; a fault of the
list itself ends the reading.
-/

namespace AttrBinder

inductive Halt where
  | complaint (d : Diagnostic)
  | unreadable (cause : Unreadable)
deriving Inhabited

abbrev AttributeReader := ExceptT Halt (StateM Cursor)

namespace AttributeReader

def complain {α : Type} (c : Complaint) (span : Span) : AttributeReader α :=
  throw (.complaint ⟨c, span⟩)

def peek : AttributeReader Token :=
  return (← get).peek

def advance : AttributeReader Unit :=
  modify Cursor.advance

/-- The segments behind hyphens, given the name so far in reverse; the last token belongs to the
name. The budget is the number of tokens ahead. -/
def moreSegments : Nat → List String → Token → AttributeReader (List String × Token)
  | 0, soFar, last => return (soFar, last)
  | n + 1, soFar, last => do
    let hyphen ← peek
    if hyphen.isOperator "-" then
      advance
      let ident ← peek
      if ident.isName then
        advance
        moreSegments n (ident.text :: soFar) ident
      else
        complain (.expectedSegment soFar.reverse ident.describe) (hyphen.span.through ident.span)
    else return (soFar, last)

def name : AttributeReader AttributeName := do
  let tag ← peek
  if tag.isName then
    advance
    let (segments, last) ← moreSegments (← get).ahead.length [tag.text] tag
    return { tag := tag.text, more := segments.reverse.drop 1
             span := tag.span.through last.span, tagSpan := tag.span }
  else complain (.expectedName tag.describe) tag.span

def directive : AttributeReader Directive := do
  let n ← name
  if n.text == "ref" then return .ref n.span
  if (← get).atOperator ":" then
    advance
    match Qualified.ofWord? n.text with
    | none => complain (.unknownDirective n.text) n.tagSpan
    | some q =>
      let qualifier ← peek
      if qualifier.isName then
        advance
        match q with
        | .event => return .event qualifier.text qualifier.span
        | .binding => return .binding qualifier.text qualifier.span
      else complain (.expectedQualifier q qualifier.describe) qualifier.span
  else return .plain n

structure Parsed where
  expr : Expr
  source : String
  span : Span

def expression : AttributeReader Parsed := do
  let c ← get
  let extent := Cursor.extent [] c.ahead
  set { c with ahead := extent.rest }
  match extent.tokens with
  | [] =>
    let t ← peek
    complain (.expectedExpression t.describe) t.span
  | first :: more =>
    let last := (first :: more).getLast (by simp)
    let span := first.span.through last.span
    if extent.depth.isEmpty then
      let text := c.textBetween first last
      match Expr.parse text with
      | .ok e => return ⟨e, String.ofList text, span⟩
      | .error .invalid => complain (.invalidExpression (String.ofList text)) span
      | .error (.unreadable u) => throw (.unreadable u)
    else complain .unbalancedBrackets span

def entry : AttributeReader Attribute := do
  let first ← peek
  let d ← directive
  let equals ← peek
  if equals.isOperator "=" then
    advance
    let e ← expression
    return { directive := d, expr := e.expr, source := e.source
             span := first.span.through e.span, exprSpan := e.span }
  else complain (.expectedEquals d.spelling equals.describe) equals.span

end AttributeReader

inductive Slot where
  | accepted (a : Attribute)
  | rejected (d : Diagnostic)
deriving Inhabited

namespace Slot

def attribute? : Slot → Option Attribute
  | .accepted a => some a
  | .rejected _ => none

def rejected? : Slot → Option Diagnostic
  | .accepted _ => none
  | .rejected d => some d

end Slot

/-- What reading a list gave: the slots up to the end or to the fault that ended it, and the
cursor after it. -/
structure ListReading where
  slots : List Slot
  outcome : Except Halt Unit
  cursor : Cursor

namespace AttributeList

def failed (slots : List Slot) (c : Complaint) (span : Span) (cursor : Cursor) : ListReading :=
  ⟨slots, .error (.complaint ⟨c, span⟩), cursor⟩

def close (slots : List Slot) (cursor : Cursor) : ListReading :=
  let cursor := cursor.advance
  if cursor.atEnd then ⟨slots, .ok (), cursor⟩
  else failed slots (.trailingInput cursor.peek.describe) cursor.peek.span cursor

/-- What follows a slot: a comma, after which the list goes on with the cursor given, or its end. -/
inductive Separation where
  | more (cursor : Cursor)
  | closing
  | fault (c : Complaint) (span : Span)

def separation (cursor : Cursor) : Separation :=
  if cursor.atOperator "," then .more cursor.advance
  else if cursor.atOperator ")" then .closing
  else if cursor.atEnd then .fault .unclosedList cursor.peek.span
  else .fault (.expectedSeparator cursor.peek.describe) cursor.peek.span

/-- Reads slots up to the end of the list. Every slot but the last ends with a comma, so a budget
of one more than the tokens ahead lasts. -/
def slots : Nat → List Slot → Cursor → ListReading
  | 0, soFar, cursor => failed soFar.reverse .unclosedList cursor.peek.span cursor
  | n + 1, soFar, cursor =>
    if cursor.atOperator ")" then close soFar.reverse cursor
    else if cursor.atEnd then failed soFar.reverse .unclosedList cursor.peek.span cursor
    else
      let next (slot : Slot) (cursor : Cursor) : ListReading :=
        let soFar := slot :: soFar
        match separation cursor with
        | .more cursor => slots n soFar cursor
        | .closing => close soFar.reverse cursor
        | .fault c span => failed soFar.reverse c span cursor
      match AttributeReader.entry.run cursor with
      | (.ok a, cursor) => next (.accepted a) cursor
      | (.error (.complaint d), cursor) => next (.rejected d) (cursor.skipToSeparator (some ")"))
      | (.error (.unreadable u), cursor) => ⟨soFar.reverse, .error (.unreadable u), cursor⟩

def read (cursor : Cursor) : ListReading :=
  let opener := cursor.peek
  let cursor := cursor.advance
  if opener.isOperator "(" then slots (cursor.ahead.length + 1) [] cursor
  else failed [] (.expectedOpening opener.describe) opener.span cursor

def parse (source : String) (origin : Origin) : ListReading :=
  match TokenList.ofSource source origin with
  | .error (e, span) => failed [] (.untokenizable e) span ⟨[], [], default⟩
  | .ok tokens => read (.ofTokens tokens)

end AttributeList

end AttrBinder
