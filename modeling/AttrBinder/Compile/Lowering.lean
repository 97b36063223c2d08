import AttrBinder.Attribute.Basic
import AttrBinder.Config.Basic
import AttrBinder.Module.Basic

/-!
Lowering: the statements that attach one attribute to an element. Every name that is made for them
starts with the alias and an underscore, which no configured name does.
-/

namespace AttrBinder

inductive DirectiveForm where
  | plain
  | event
  | binding
  | ref
deriving DecidableEq, Repr, Inhabited

namespace DirectiveForm

def label : DirectiveForm → String
  | plain => "attribute"
  | event => "event"
  | binding => "bind"
  | ref => "ref"

def directiveName : DirectiveForm → String
  | plain => "DomAttribute"
  | event => "EventDirective"
  | binding => "BindDirective"
  | ref => "RefDirective"

end DirectiveForm

def Directive.form : Directive → DirectiveForm
  | .plain _ => .plain
  | .event _ _ => .event
  | .binding _ _ => .binding
  | .ref _ => .ref

namespace Lowering

/-- The package that generated code imports its helpers from, and the module inside it. -/
def helperPackage : String := "wirebind.runtime"
def helperModule : String := "helpers"

def localName (c : Config) (role : String) (index : Int) : String :=
  c.aliasName ++ "_" ++ role ++ "_" ++ toString index

def paramName (c : Config) (role : String) : String :=
  c.aliasName ++ "_" ++ role

def element (c : Config) : Expr :=
  .name c.elementName

def helper (c : Config) (name : String) (args : List Expr) : Expr :=
  (Expr.name c.aliasName).method name args

/-- `name(params…, capture=value…)`: a captured value is held by a default, so that the function
keeps its own reference. -/
def closure (name : String) (params : List String) (captures : List (String × Expr))
    (body : Expr) : Stmt :=
  .define name
    (.ordinaryOnly (params.map (fun p => .mk p none) ++ captures.map fun (c, v) => .mk c (some v)))
    [.evaluate body]

def plain (c : Config) (index : Int) (name : String) (e : Expr) : List Stmt :=
  let function := localName c "attr" index
  [closure function [] [(c.elementName, element c)]
      ((element c).method "set_attribute" [.text name, helper c "display" [e]]),
   .evaluate (helper c "create_effect" [.name function])]

def event (c : Config) (name : String) (e : Expr) : List Stmt :=
  [.evaluate ((element c).method "register_event" [.text name, e])]

/-- An effect from the cell to the property, and a listener from the property to the cell. -/
def binding (c : Config) (index : Int) (property : String) (d : PropertyDescriptor) (e : Expr) :
    List Stmt :=
  let cell := localName c "cell" index
  let effect := localName c "bind" index
  let listener := localName c "listen" index
  let cellParam := paramName c "cell"
  let eventParam := paramName c "event"
  [.assign cell (helper c "require_cell" [e]),
   closure effect [] [(c.elementName, element c), (cellParam, .name cell)]
      ((element c).method "set_property"
        [.text property, helper c d.kind.toNative [(Expr.name cellParam).method "get" []]]),
   .evaluate (helper c "create_effect" [.name effect]),
   closure listener [eventParam] [(cellParam, .name cell)]
      ((Expr.name cellParam).method "set"
        [helper c d.kind.fromNative
          [helper c "event_target_property" [.name eventParam, .text property]]]),
   .evaluate ((element c).method "register_event" [.text d.event, .name listener])]

def ref (c : Config) (e : Expr) : List Stmt :=
  [.evaluate (e.method "assign" [element c])]

end Lowering

inductive LoweringFault where
  | complaint (d : Diagnostic)
  | unregistered (form : DirectiveForm)
  | unresolved (property : String)
deriving Inhabited

def LoweringFault.message : LoweringFault → String
  | complaint d => d.message
  | unregistered f => "no code generator registered for " ++ f.directiveName
  | unresolved p => "bind:" ++ p ++ " lowered without a resolved descriptor"

/-- A code generator: a configuration, and the forms for which it has a generator. -/
structure Generator where
  config : Config
  handles : DirectiveForm → Bool := fun _ => true

structure Lowered where
  attr : Attribute
  form : DirectiveForm
  statements : List Stmt
  descriptor : Option PropertyDescriptor
deriving Inhabited

namespace Generator

/-- The statements of an attribute whose property, if it binds one, has been resolved. -/
def generate (g : Generator) (index : Int) (d : Option PropertyDescriptor) (a : Attribute) :
    Except LoweringFault (List Stmt) :=
  match a.directive with
  | .plain n => .ok (Lowering.plain g.config index n.text a.expr)
  | .event e _ => .ok (Lowering.event g.config e a.expr)
  | .binding p _ =>
    match d with
    | some d => .ok (Lowering.binding g.config index p d a.expr)
    | none => .error (.unresolved p)
  | .ref _ => .ok (Lowering.ref g.config a.expr)

/-- A bound expression must be able to give a cell, and a declared cell must be of the property's
kind. -/
def checkCell (g : Generator) (property : String) (d : PropertyDescriptor) (a : Attribute) :
    Except Diagnostic Unit :=
  if a.expr.isLiteral then .error ⟨.literalCell property d.kind a.source, a.exprSpan⟩
  else
    match a.expr with
    | .name id =>
      match g.config.kindOf? id with
      | some held =>
        if held == d.kind then .ok ()
        else .error ⟨.cellOfOtherKind property d.kind id held, a.exprSpan⟩
      | none => .ok ()
    | _ => .ok ()

def resolveProperty (property : String) (span : Span) : Except Diagnostic PropertyDescriptor :=
  match PropertyDescriptor.ofProperty? property with
  | some d => .ok d
  | none => .error ⟨.unsupportedProperty property, span⟩

def resolve (g : Generator) (a : Attribute) : Except Diagnostic (Option PropertyDescriptor) :=
  match a.directive with
  | .binding p span => do
    let d ← resolveProperty p span
    g.checkCell p d a
    return some d
  | _ => .ok none

def lower (g : Generator) (index : Int) (a : Attribute) : Except LoweringFault Lowered :=
  if g.handles a.directive.form then do
    let d ← (g.resolve a).mapError LoweringFault.complaint
    let statements ← g.generate index d a
    return ⟨a, a.directive.form, statements, d⟩
  else .error (.unregistered a.directive.form)

def module (g : Generator) (lowered : List Lowered) : Module :=
  let statements := lowered.flatMap Lowered.statements
  [.importAs Lowering.helperPackage Lowering.helperModule g.config.aliasName,
   .define g.config.functionName (.ordinaryOnly [.mk g.config.elementName none])
     (if statements.isEmpty then [.pass] else statements)]

end Generator

end AttrBinder
