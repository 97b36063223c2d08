import AttrBinder.Source.Lexer
import AttrBinder.Property

/-!
Diagnostics: what is wrong with an attribute list, and where. Every complaint that the compiler can
make is a constructor; its wording stands in one place.
-/

namespace AttrBinder

inductive DiagnosticKind where
  | general
  | name
  | unknownDirective (directive : String)
  | unsupportedProperty (property : String)
  | typeMismatch
  | expression
  | list
deriving DecidableEq, Repr, Inhabited

def DiagnosticKind.label : DiagnosticKind → String
  | general => "DirectiveSyntaxError"
  | name => "NameParseError"
  | unknownDirective _ => "UnknownDirectiveError"
  | unsupportedProperty _ => "UnsupportedPropertyError"
  | typeMismatch => "TypeMismatchError"
  | expression => "ExpressionSyntaxError"
  | list => "AttributeListSyntaxError"

inductive Qualified where
  | event
  | binding
deriving DecidableEq, Repr, Inhabited

namespace Qualified

def word : Qualified → String
  | event => "on"
  | binding => "bind"

def noun : Qualified → String
  | event => "event"
  | binding => "property"

def ofWord? (s : String) : Option Qualified :=
  if s == "on" then some event else if s == "bind" then some binding else none

end Qualified

/-- What can be wrong with an attribute list. `found` is the token met instead, as
`Token.describe` gives it. -/
inductive Complaint where
  | untokenizable (why : Lexer.Failure)
  | expectedOpening (found : String)
  | unclosedList
  | expectedSeparator (found : String)
  | trailingInput (found : String)
  | expectedEquals (directive found : String)
  | expectedName (found : String)
  | expectedSegment (segments : List String) (found : String)
  | unknownDirective (directive : String)
  | expectedQualifier (directive : Qualified) (found : String)
  | expectedExpression (found : String)
  | unbalancedBrackets
  | invalidExpression (source : String)
  | unsupportedProperty (property : String)
  | literalCell (property : String) (kind : ValueKind) (source : String)
  | cellOfOtherKind (property : String) (expected : ValueKind) (cell : String) (held : ValueKind)
  | stated (kind : DiagnosticKind) (message : String)
deriving DecidableEq, Repr, Inhabited

namespace Complaint

def kind : Complaint → DiagnosticKind
  | untokenizable _ => .list
  | expectedOpening _ => .list
  | unclosedList => .list
  | expectedSeparator _ => .list
  | trailingInput _ => .list
  | expectedEquals _ _ => .list
  | expectedName _ => .name
  | expectedSegment _ _ => .name
  | unknownDirective d => .unknownDirective d
  | expectedQualifier _ _ => .name
  | expectedExpression _ => .expression
  | unbalancedBrackets => .expression
  | invalidExpression _ => .expression
  | unsupportedProperty p => .unsupportedProperty p
  | literalCell _ _ _ => .typeMismatch
  | cellOfOtherKind _ _ _ _ => .typeMismatch
  | stated k _ => k

def message : Complaint → String
  | untokenizable why => "cannot tokenize attribute list: " ++ why.message
  | expectedOpening found => "expected `(` to open the attribute list, found " ++ found
  | unclosedList => "unclosed attribute list, expected `)`"
  | expectedSeparator found => "expected `,` or `)`, found " ++ found
  | trailingInput found => "unexpected " ++ found ++ " after attribute list"
  | expectedEquals directive found => "expected `=` after `" ++ directive ++ "`, found " ++ found
  | expectedName found => "expected attribute name, found " ++ found
  | expectedSegment segments found =>
    "expected identifier after `-` in `" ++ "-".intercalate segments ++ "-`, found " ++ found
  | unknownDirective d => "unknown directive `" ++ d ++ "`"
  | expectedQualifier d found =>
    "expected " ++ d.noun ++ " name after `" ++ d.word ++ ":`, found " ++ found
  | expectedExpression found => "expected expression after `=`, found " ++ found
  | unbalancedBrackets => "unbalanced brackets in expression"
  | invalidExpression source => "invalid expression `" ++ source ++ "`: invalid syntax"
  | unsupportedProperty p => "property `" ++ p ++ "` is not supported with bind:"
  | literalCell p k source =>
    "bind:" ++ p ++ " expects a reactive cell of " ++ k.typeName ++ ", found `" ++ source ++ "`"
  | cellOfOtherKind p k cell held =>
    "bind:" ++ p ++ " expects a cell of " ++ k.typeName ++ ", but `" ++ cell ++ "` holds "
      ++ held.typeName
  | stated _ m => m

end Complaint

/-- A complaint with its place. Line zero stands for no place. -/
structure Diagnostic where
  complaint : Complaint
  span : Span
deriving DecidableEq, Repr, Inhabited

namespace Diagnostic

def kind (d : Diagnostic) : DiagnosticKind :=
  d.complaint.kind

def message (d : Diagnostic) : String :=
  d.complaint.message

def text (d : Diagnostic) : String :=
  if d.span.line == 0 then d.message else d.span.text ++ ": " ++ d.message

def before (a b : Diagnostic) : Bool :=
  a.span.line < b.span.line || (a.span.line == b.span.line && a.span.column ≤ b.span.column)

def nowhere : Span :=
  { line := 0, column := 0, endLine := 0, endColumn := 0 }

def summary (ds : List Diagnostic) : String :=
  let noun := if ds.length == 1 then "error" else "errors"
  toString ds.length ++ " attribute " ++ noun ++ ":\n"
    ++ "\n".intercalate (ds.map fun d => "  " ++ d.text)

end Diagnostic

end AttrBinder
