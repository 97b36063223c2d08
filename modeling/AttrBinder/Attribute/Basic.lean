import AttrBinder.Diagnostic
import AttrBinder.Expr.Basic

/-!
Attributes: a directive, which says what is attached to an element, and the expression that it is
attached to.
-/

namespace AttrBinder

/-- A hyphenated name such as `data-foo-bar`: its first segment, and the segments behind it. -/
structure AttributeName where
  tag : String
  more : List String
  span : Span
  tagSpan : Span
deriving DecidableEq, Repr, Inhabited

namespace AttributeName

def segments (n : AttributeName) : List String :=
  n.tag :: n.more

def text (n : AttributeName) : String :=
  "-".intercalate n.segments

end AttributeName

inductive Directive where
  | plain (name : AttributeName)
  | event (event : String) (span : Span)
  | binding (property : String) (span : Span)
  | ref (span : Span)
deriving DecidableEq, Repr, Inhabited

namespace Directive

def text : Directive → String
  | plain n => "DomAttribute(name=" ++ n.text ++ ")"
  | event e _ => "EventDirective(event=" ++ e ++ ")"
  | binding p _ => "BindDirective(prop=" ++ p ++ ")"
  | ref _ => "RefDirective()"

def spelling : Directive → String
  | plain n => n.text
  | event e _ => "on:" ++ e
  | binding p _ => "bind:" ++ p
  | ref _ => "ref"

def same : Directive → Directive → Bool
  | plain a, plain b => a.segments == b.segments
  | event a _, event b _ => a == b
  | binding a _, binding b _ => a == b
  | ref _, ref _ => true
  | _, _ => false

end Directive

/-- A directive with its expression, the expression's text, and the spans of both. -/
structure Attribute where
  directive : Directive
  expr : Expr
  source : String
  span : Span
  exprSpan : Span
deriving Inhabited

def Attribute.text (a : Attribute) : String :=
  a.directive.text ++ " = " ++ a.source

end AttrBinder
