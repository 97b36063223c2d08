import AttrBinder.Attribute.Parser
import AttrBinder.Note

/-!
Compiling an attribute list: every attribute is lowered on its own, so that a faulty one costs
nothing but itself, and all diagnostics are reported in the order of their places.
-/

namespace AttrBinder

/-- Lowered attributes, diagnostics and, unless nothing could be generated, the module. -/
structure CompileResult where
  lowered : List Lowered
  errors : List Diagnostic
  module : Option Module
deriving Inhabited

namespace CompileResult

def isOk (r : CompileResult) : Bool :=
  r.errors.isEmpty

def source (r : CompileResult) : String :=
  (r.module.map Module.print).getD ""

def isWritable (r : CompileResult) : Bool :=
  (r.module.map Stmt.areWritable).getD true

end CompileResult

inductive Lowering.Outcome where
  | lowered (l : Lowered)
  | rejected (d : Diagnostic)
deriving Inhabited

namespace Lowering.Outcome

def lowered? : Outcome → Option Lowered
  | lowered l => some l
  | rejected _ => none

def rejected? : Outcome → Option Diagnostic
  | lowered _ => none
  | rejected d => some d

def notes : Outcome → List Note
  | lowered l =>
    (match l.attr.directive, l.descriptor with
      | .binding p _, some d => [.resolved p d]
      | _, _ => [])
    ++ [.lowered l.attr l.statements.length]
  | rejected d => [.misfit d]

end Lowering.Outcome

namespace Compile

/-- Lowers an attribute with the generators of a configuration, which handle every form. -/
def lowerOne (c : Config) (index : Nat) (a : Attribute) : Lowering.Outcome :=
  match (Generator.mk c fun _ => true).resolve a with
  | .error d => .rejected d
  | .ok d =>
    match (Generator.mk c fun _ => true).generate index d a with
    | .ok statements => .lowered ⟨a, a.directive.form, statements, d⟩
    | .error _ => .lowered ⟨a, a.directive.form, [], d⟩

/-- Lowers attributes; an attribute's index is its place among those that could be read. -/
def lowerAll (c : Config) (attributes : List Attribute) : List Lowering.Outcome :=
  attributes.zipIdx.map fun (a, i) => lowerOne c i a

def readingNotes (slots : List Slot) : List Note :=
  slots.map fun s => match s with
    | .accepted a => .parsed a
    | .rejected d => .misread d

def result (c : Config) (slots : List Slot) : CompileResult :=
  let outcomes := lowerAll c (slots.filterMap Slot.attribute?)
  let lowered := outcomes.filterMap Lowering.Outcome.lowered?
  let errors := slots.filterMap Slot.rejected?
    ++ outcomes.filterMap Lowering.Outcome.rejected?
  { lowered := lowered
    errors := errors.mergeSort Diagnostic.before
    module := some ((Generator.mk c fun _ => true).module lowered) }

/-- What compiling gives: a result, or the fault that ended the reading; and the notes of either. -/
structure Outcome where
  result : Except Halt CompileResult
  notes : List Note

def run (c : Config) (source : String) : Outcome :=
  let reading := AttributeList.parse source c.origin
  let notes := readingNotes reading.slots
  match reading.outcome with
  | .error halt => ⟨.error halt, notes⟩
  | .ok () =>
    let r := result c reading.slots
    let outcomes := lowerAll c (reading.slots.filterMap Slot.attribute?)
    ⟨.ok r, notes ++ outcomes.flatMap Lowering.Outcome.notes
      ++ [.compiled r.lowered.length r.errors.length]⟩

end Compile

end AttrBinder
