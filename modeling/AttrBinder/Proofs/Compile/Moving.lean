import AttrBinder.Proofs.Compile.Slots
import AttrBinder.Proofs.Source.Places

/-!
A list that stands elsewhere in its template is compiled alike: all places move together, and nothing
else changes. Every function on the way from the text to the result commutes with moving.
-/

namespace AttrBinder

/-- A span of a list at the start of a template, for the list at another place. Only the first line
is shifted sideways. -/
def Span.moved (o : Origin) (s : Span) : Span :=
  { line := s.line + o.line - 1
    column := if s.line = 1 then s.column + o.column else s.column
    endLine := s.endLine + o.line - 1
    endColumn := if s.endLine = 1 then s.endColumn + o.column else s.endColumn
    file := o.file }

def Token.moved (o : Origin) (t : Token) : Token :=
  { t with span := t.span.moved o }

def Diagnostic.moved (o : Origin) (d : Diagnostic) : Diagnostic :=
  { d with span := d.span.moved o }

def Halt.moved (o : Origin) : Halt → Halt
  | .complaint d => .complaint (d.moved o)
  | .unreadable u => .unreadable u

def AttributeName.moved (o : Origin) (n : AttributeName) : AttributeName :=
  { n with span := n.span.moved o, tagSpan := n.tagSpan.moved o }

def Directive.moved (o : Origin) : Directive → Directive
  | .plain n => .plain (n.moved o)
  | .event e span => .event e (span.moved o)
  | .binding p span => .binding p (span.moved o)
  | .ref span => .ref (span.moved o)

def Attribute.moved (o : Origin) (a : Attribute) : Attribute :=
  { a with directive := a.directive.moved o, span := a.span.moved o, exprSpan := a.exprSpan.moved o }

def Slot.moved (o : Origin) : Slot → Slot
  | .accepted a => .accepted (a.moved o)
  | .rejected d => .rejected (d.moved o)

def Lowered.moved (o : Origin) (l : Lowered) : Lowered :=
  { l with attr := l.attr.moved o }

def Lowering.Outcome.moved (o : Origin) : Lowering.Outcome → Lowering.Outcome
  | .lowered l => .lowered (l.moved o)
  | .rejected d => .rejected (d.moved o)

def CompileResult.moved (o : Origin) (r : CompileResult) : CompileResult :=
  ⟨r.lowered.map (Lowered.moved o), r.errors.map (Diagnostic.moved o), r.module⟩

def Cursor.moved (o : Origin) (c : Cursor) : Cursor :=
  ⟨c.source, c.ahead.map (Token.moved o), c.finish.moved o⟩

def Cursor.Extent.moved (o : Origin) (e : Cursor.Extent) : Cursor.Extent :=
  ⟨e.tokens.map (Token.moved o), e.depth, e.rest.map (Token.moved o)⟩

section Moving

variable (o : Origin)

@[simp] theorem Span.through_moved (a b : Span) :
    (a.moved o).through (b.moved o) = (a.through b).moved o := rfl

@[simp] theorem Token.isOperator_moved (t : Token) (s : String) :
    (t.moved o).isOperator s = t.isOperator s := rfl

@[simp] theorem Token.isName_moved (t : Token) : (t.moved o).isName = t.isName := rfl

theorem Diagnostic.before_moved (a b : Diagnostic) :
    (a.moved o).before (b.moved o) = a.before b := by
  unfold Diagnostic.before
  rw [Bool.eq_iff_iff]
  simp only [Bool.or_eq_true, Bool.and_eq_true, decide_eq_true_eq, beq_iff_eq]
  simp only [Diagnostic.moved, Span.moved]
  split <;> split <;> omega

theorem Origin.span_moved (skipped : List Char) {start stop : Mark} (first : 1 ≤ start.row)
    (last : 1 ≤ stop.row) :
    (o.past skipped).span start stop = (((({} : Origin).past skipped).span start stop).moved o) := by
  simp only [Origin.past, beq_iff_eq]
  split
  all_goals simp only [Origin.span, Span.moved, Origin.lineOf, Origin.columnOf, beq_iff_eq,
    Span.mk.injEq, and_true]
  · refine ⟨by omega, ?_, by omega, ?_⟩ <;> split <;> split <;> omega
  · refine ⟨by omega, ?_, by omega, ?_⟩ <;> split <;> split <;> omega

namespace TokenList

def moved (t : TokenList) : TokenList :=
  ⟨t.source, t.tokens.map (Token.moved o), t.finish.moved o⟩

theorem ofSource_moved (source : String) :
    ofSource source o = match ofSource source {} with
      | .error (e, span) => .error (e, span.moved o)
      | .ok tokens => .ok (tokens.moved o) := by
  unfold ofSource
  dsimp only
  cases scanned : Lexer.scan {} {} (Text.trim source.toList) with
  | error e =>
    dsimp only
    rw [o.span_moved _ (Nat.le_refl _) (Nat.le_refl _)]
  | ok lexemes =>
    have placed := Lexer.scan_placed (Text.tight_trim _) scanned
    have row : 1 ≤ Lexer.finishRow (Text.trim source.toList) := by
      unfold Lexer.finishRow
      split <;> omega
    simp only [moved, Except.ok.injEq, TokenList.mk.injEq, List.map_map, true_and]
    refine ⟨List.map_congr_left fun x mem => ?_, ?_⟩
    · rw [o.span_moved _ (placed.rows x mem).1 (placed.rows x mem).2]
      rfl
    · rw [o.span_moved _ row row]
      rfl

end TokenList

namespace Cursor

variable (c : Cursor)

@[simp] theorem peek_moved : (c.moved o).peek = c.peek.moved o := by
  obtain ⟨source, _ | ⟨t, ts⟩, finish⟩ := c <;> rfl

@[simp] theorem advance_moved : (c.moved o).advance = c.advance.moved o := by
  simp [advance, moved]

@[simp] theorem atEnd_moved : (c.moved o).atEnd = c.atEnd := by
  simp [atEnd, Token.isFinish, Token.moved]

@[simp] theorem atOperator_moved (s : String) : (c.moved o).atOperator s = c.atOperator s := by
  simp [atOperator]

theorem extent_moved (depth : List String) (ts : List Token) :
    extent depth (ts.map (Token.moved o)) = (extent depth ts).moved o := by
  induction ts generalizing depth with
  | nil => rfl
  | cons t ts ih =>
    rw [List.map_cons, extent.eq_def, extent.eq_def]
    simp only [Token.moved, ih]
    repeat' split
    all_goals rfl

theorem fromSeparator_moved (closer : Option String) (depth : List String) (ts : List Token) :
    fromSeparator closer depth (ts.map (Token.moved o)) =
      (fromSeparator closer depth ts).map (Token.moved o) := by
  induction ts generalizing depth with
  | nil => rfl
  | cons t ts ih =>
    rw [List.map_cons, fromSeparator.eq_def, fromSeparator.eq_def]
    simp only [Token.moved, ih]
    repeat' split
    all_goals rfl

@[simp] theorem skipToSeparator_moved (closer : Option String) :
    (c.moved o).skipToSeparator closer = (c.skipToSeparator closer).moved o := by
  simp [skipToSeparator, moved, fromSeparator_moved]

end Cursor

namespace AttributeReader

def movedReply {α : Type} (f : α → α) : Except Halt α × Cursor → Except Halt α × Cursor
  | (.ok a, c) => (.ok (f a), c.moved o)
  | (.error h, c) => (.error (h.moved o), c.moved o)

def Parsed.moved (p : Parsed) : Parsed :=
  { p with span := p.span.moved o }

theorem moreSegments_moved (n : Nat) (soFar : List String) (last : Token) (c : Cursor) :
    (moreSegments n soFar (last.moved o)).run (c.moved o) =
      movedReply o (Prod.map id (Token.moved o)) ((moreSegments n soFar last).run c) := by
  induction n generalizing soFar last c with
  | zero => rfl
  | succ n ih =>
    rw [run_moreSegments_succ, run_moreSegments_succ]
    simp only [Cursor.peek_moved, Cursor.advance_moved, Token.isOperator_moved,
      Token.isName_moved]
    split
    · split
      · exact ih _ _ _
      · rfl
    · rfl

theorem name_moved (c : Cursor) :
    name.run (c.moved o) = movedReply o (AttributeName.moved o) (name.run c) := by
  rw [run_name, run_name]
  simp only [Cursor.peek_moved, Cursor.advance_moved, Token.isName_moved]
  split
  · have later := moreSegments_moved o c.advance.ahead.length [c.peek.text] c.peek c.advance
    have length : (c.advance.moved o).ahead.length = c.advance.ahead.length := List.length_map _
    rw [length, show (c.peek.moved o).text = c.peek.text from rfl, later]
    rcases (moreSegments c.advance.ahead.length [c.peek.text] c.peek).run c.advance with
      ⟨_ | ⟨segments, last⟩, c'⟩ <;> rfl
  · rfl

theorem directive_moved (c : Cursor) :
    directive.run (c.moved o) = movedReply o (Directive.moved o) (directive.run c) := by
  rw [run_directive, run_directive, name_moved]
  rcases name.run c with ⟨_ | n, c'⟩
  · rfl
  · simp only [movedReply, Cursor.peek_moved, Cursor.advance_moved, Token.isOperator_moved,
      Token.isName_moved, show (n.moved o).text = n.text from rfl]
    split
    · rfl
    · split
      · cases Qualified.ofWord? n.text with
        | none => rfl
        | some q =>
          dsimp only
          split
          · cases q <;> rfl
          · rfl
      · rfl

theorem expression_moved (c : Cursor) :
    expression.run (c.moved o) = movedReply o (Parsed.moved o) (expression.run c) := by
  have ahead : (c.moved o).ahead = c.ahead.map (Token.moved o) := rfl
  have after : ({ c.moved o with ahead := (Cursor.extent [] c.ahead).rest.map (Token.moved o) } :
      Cursor) = ({ c with ahead := (Cursor.extent [] c.ahead).rest } : Cursor).moved o := rfl
  rw [run_expression, run_expression]
  simp only [ahead, Cursor.extent_moved, Cursor.Extent.moved, after, Cursor.peek_moved]
  rcases (Cursor.extent [] c.ahead).tokens with _ | ⟨first, more⟩
  · rfl
  · have last : (first.moved o :: more.map (Token.moved o)).getLast (by simp) =
        ((first :: more).getLast (by simp)).moved o := List.getLast_map (l := first :: more) _
    simp only [List.map_cons, last]
    rw [show (c.moved o).textBetween (first.moved o) (((first :: more).getLast (by simp)).moved o) =
      c.textBetween first ((first :: more).getLast (by simp)) from rfl]
    split
    · rcases Expr.parse (c.textBetween first ((first :: more).getLast (by simp))) with
        (_ | _) | x <;> rfl
    · rfl

theorem entry_moved (c : Cursor) :
    entry.run (c.moved o) = movedReply o (Attribute.moved o) (entry.run c) := by
  rw [run_entry, run_entry, directive_moved]
  rcases directive.run c with ⟨_ | d, c'⟩
  · rfl
  · simp only [movedReply, Cursor.peek_moved, Cursor.advance_moved, Token.isOperator_moved,
      expression_moved]
    split
    · rcases expression.run c'.advance with ⟨_ | e, c''⟩ <;> rfl
    · have spelling : (d.moved o).spelling = d.spelling := by cases d <;> rfl
      simp only [spelling]
      rfl

end AttributeReader

/-- A reading with the same slots and the same end, at another place. -/
structure ListReading.MovedTo (r r' : ListReading) : Prop where
  slots : r'.slots = r.slots.map (Slot.moved o)
  outcome : r'.outcome = r.outcome.mapError (Halt.moved o)

namespace AttributeList

theorem close_moved (soFar : List Slot) (c : Cursor) :
    (close soFar c).MovedTo o (close (soFar.map (Slot.moved o)) (c.moved o)) := by
  simp only [close, Cursor.advance_moved, Cursor.atEnd_moved]
  split
  · exact ⟨rfl, rfl⟩
  · simp only [Cursor.peek_moved]
    exact ⟨rfl, rfl⟩

theorem separation_moved (c : Cursor) :
    separation (c.moved o) = match separation c with
      | .more c' => .more (c'.moved o)
      | .closing => .closing
      | .fault x span => .fault x (span.moved o) := by
  simp only [separation, Cursor.atOperator_moved, Cursor.atEnd_moved, Cursor.advance_moved,
    Cursor.peek_moved]
  cases c.atOperator "," <;> cases c.atOperator ")" <;> cases c.atEnd <;> rfl

theorem slots_moved (n : Nat) (soFar : List Slot) (c : Cursor) :
    (slots n soFar c).MovedTo o (slots n (soFar.map (Slot.moved o)) (c.moved o)) := by
  induction n generalizing soFar c with
  | zero =>
    simp only [slots, Cursor.peek_moved, ← List.map_reverse]
    exact ⟨rfl, rfl⟩
  | succ n ih =>
    have next (slot : Slot) (c : Cursor) : (goOn n (slot :: soFar) c).MovedTo o
        (goOn n ((slot :: soFar).map (Slot.moved o)) (c.moved o)) := by
      simp only [goOn, separation_moved, ← List.map_reverse]
      cases separation c with
      | more c' => exact ih _ _
      | closing => exact close_moved o _ _
      | fault x span => exact ⟨rfl, rfl⟩
    rw [slots_succ, slots_succ, AttributeReader.entry_moved]
    simp only [Cursor.peek_moved, Token.isOperator_moved, Cursor.atEnd_moved, ← List.map_reverse]
    split
    · exact close_moved o _ _
    · split
      · exact ⟨rfl, rfl⟩
      · rcases AttributeReader.entry.run c with ⟨(d | _) | a, c'⟩
        · have skipped := next (.rejected d) (c'.skipToSeparator (some ")"))
          rwa [← Cursor.skipToSeparator_moved] at skipped
        · exact ⟨rfl, rfl⟩
        · exact next (.accepted a) c'

theorem parse_moved (source : String) : (parse source {}).MovedTo o (parse source o) := by
  unfold parse
  rw [TokenList.ofSource_moved o]
  rcases TokenList.ofSource source {} with ⟨e, span⟩ | tokens
  · exact ⟨rfl, rfl⟩
  · have start : Cursor.ofTokens (tokens.moved o) = (Cursor.ofTokens tokens).moved o := rfl
    have length : ((Cursor.ofTokens tokens).advance.moved o).ahead.length =
        (Cursor.ofTokens tokens).advance.ahead.length := List.length_map _
    simp only [start, read, Cursor.peek_moved, Cursor.advance_moved, Token.isOperator_moved, length]
    split
    · exact slots_moved o _ [] _
    · exact ⟨rfl, rfl⟩

end AttributeList

namespace Compile

theorem generator_eq (c : Config) : (Generator.mk c fun _ => true) = generator c := rfl

theorem form_moved (a : Attribute) : (a.moved o).directive.form = a.directive.form := by
  obtain ⟨directive, expr, source, span, exprSpan⟩ := a
  cases directive <;> rfl

theorem checkCell_moved (c : Config) (p : String) (d : PropertyDescriptor) (a : Attribute) :
    (generator (c.moved o)).checkCell p d (a.moved o) =
      ((generator (c.moved {})).checkCell p d a).mapError (Diagnostic.moved o) := by
  simp only [Generator.checkCell, Attribute.moved, generator, Config.kindOf?, Config.moved]
  repeat' split
  all_goals rfl

theorem resolve_moved (c : Config) (a : Attribute) :
    (generator (c.moved o)).resolve (a.moved o) =
      ((generator (c.moved {})).resolve a).mapError (Diagnostic.moved o) := by
  by_cases form : a.directive.form = .binding
  · obtain ⟨p, span, directed⟩ := exists_of_form form
    have directed' : (a.moved o).directive = .binding p (span.moved o) := by
      simp only [Attribute.moved, directed, Directive.moved]
    simp only [Generator.resolve, directed, directed', Generator.resolveProperty]
    cases PropertyDescriptor.ofProperty? p with
    | none => rfl
    | some d =>
      simp only [bind, Except.bind, checkCell_moved]
      cases (generator (c.moved {})).checkCell p d a <;> rfl
  · rw [resolve_of_form form, resolve_of_form (by rwa [form_moved])]
    rfl

theorem generate_moved (c : Config) (index : Int) (d : Option PropertyDescriptor) (a : Attribute) :
    (generator (c.moved o)).generate index d (a.moved o) =
      (generator (c.moved {})).generate index d a := by
  obtain ⟨directive, expr, source, span, exprSpan⟩ := a
  cases directive <;> cases d <;> rfl

theorem lowerOne_moved (c : Config) (index : Nat) (a : Attribute) :
    lowerOne (c.moved o) index (a.moved o) = (lowerOne (c.moved {}) index a).moved o := by
  simp only [lowerOne, generator_eq, resolve_moved]
  cases (generator (c.moved {})).resolve a with
  | error d => rfl
  | ok d =>
    simp only [Except.mapError, generate_moved, form_moved]
    cases (generator (c.moved {})).generate index d a <;> rfl

theorem result_moved (c : Config) (slots : List Slot) :
    result (c.moved o) (slots.map (Slot.moved o)) = (result (c.moved {}) slots).moved o := by
  have attributes : (slots.map (Slot.moved o)).filterMap Slot.attribute? =
      (slots.filterMap Slot.attribute?).map (Attribute.moved o) := by
    rw [List.filterMap_map, List.map_filterMap]
    exact congrArg (slots.filterMap ·) (funext fun s => by cases s <;> rfl)
  have rejected : (slots.map (Slot.moved o)).filterMap Slot.rejected? =
      (slots.filterMap Slot.rejected?).map (Diagnostic.moved o) := by
    rw [List.filterMap_map, List.map_filterMap]
    exact congrArg (slots.filterMap ·) (funext fun s => by cases s <;> rfl)
  have outcomes (as : List Attribute) : lowerAll (c.moved o) (as.map (Attribute.moved o)) =
      (lowerAll (c.moved {}) as).map (Lowering.Outcome.moved o) := by
    simp [lowerAll, List.zipIdx_map, lowerOne_moved]
  have split (os : List Lowering.Outcome) :
      (os.map (Lowering.Outcome.moved o)).filterMap Lowering.Outcome.lowered? =
        (os.filterMap Lowering.Outcome.lowered?).map (Lowered.moved o) ∧
      (os.map (Lowering.Outcome.moved o)).filterMap Lowering.Outcome.rejected? =
        (os.filterMap Lowering.Outcome.rejected?).map (Diagnostic.moved o) := by
    simp only [List.filterMap_map, List.map_filterMap]
    constructor <;> exact congrArg (os.filterMap ·) (funext fun s => by cases s <;> rfl)
  have sorted (ds : List Diagnostic) : (ds.map (Diagnostic.moved o)).mergeSort Diagnostic.before =
      (ds.mergeSort Diagnostic.before).map (Diagnostic.moved o) :=
    (List.map_mergeSort fun a _ b _ => (Diagnostic.before_moved o a b).symm).symm
  simp only [result, attributes, rejected, outcomes, (split _).1, (split _).2, ← List.map_append,
    sorted]
  simp only [CompileResult.moved, CompileResult.mk.injEq, true_and]
  rw [Generator.module, Generator.module, List.flatMap_map]
  rfl

end Compile

end Moving

def Attribute.spans (a : Attribute) : List Span :=
  [a.span, a.exprSpan] ++ match a.directive with
    | .plain n => [n.span, n.tagSpan]
    | .event _ span | .binding _ span | .ref span => [span]

/-- What two compilations of one list have in common if the list stands at the start of a template for
the first and elsewhere for the second. -/
structure CompileResult.MovedTo (o : Origin) (r r' : CompileResult) : Prop where
  source : r'.source = r.source
  module : r'.module = r.module
  forms : r'.lowered.map Lowered.form = r.lowered.map Lowered.form
  spans : r'.lowered.map (·.attr.spans) = r.lowered.map (·.attr.spans.map (Span.moved o))
  complaints : r'.errors.map (fun d => (d.kind, d.message)) =
    r.errors.map fun d => (d.kind, d.message)
  places : r'.errors.map Diagnostic.span = r.errors.map (·.span.moved o)

theorem CompileResult.movedTo (o : Origin) (r : CompileResult) : r.MovedTo o (r.moved o) where
  source := rfl
  module := rfl
  forms := by simp [CompileResult.moved, Lowered.moved]
  spans := by
    simp only [CompileResult.moved, List.map_map]
    refine List.map_congr_left fun l _ => ?_
    obtain ⟨⟨directive, expr, source, span, exprSpan⟩, form, statements, descriptor⟩ := l
    cases directive <;> rfl
  complaints := by
    simp only [CompileResult.moved, List.map_map]
    rfl
  places := by
    simp only [CompileResult.moved, List.map_map]
    rfl

/-- Compiling does not depend on where a list stands. At any place of a template it fails with the
same complaint, or it gives the same result, with all places moved: the line by the lines before the
list, and the column on the list's first line only. -/
theorem Compile.run_moved (c : Config) (source : String) (o : Origin) :
    (∃ halt, (Compile.run (c.moved {}) source).result = .error halt ∧
        (Compile.run (c.moved o) source).result = .error (halt.moved o)) ∨
    ∃ r r', (Compile.run (c.moved {}) source).result = .ok r ∧
      (Compile.run (c.moved o) source).result = .ok r' ∧ r.MovedTo o r' := by
  have moved := AttributeList.parse_moved o source
  simp only [Compile.run, Config.moved]
  cases read : (AttributeList.parse source {}).outcome with
  | error halt =>
    refine .inl ⟨halt, rfl, ?_⟩
    rw [moved.outcome, read]
    rfl
  | ok _ =>
    refine .inr ⟨_, _, rfl, ?_, CompileResult.movedTo o _⟩
    rw [moved.outcome, read, moved.slots]
    exact congrArg Except.ok (Compile.result_moved o c _)

end AttrBinder
