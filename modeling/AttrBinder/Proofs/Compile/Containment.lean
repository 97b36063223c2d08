import AttrBinder.Proofs.Attribute.Slots
import AttrBinder.Proofs.Compile.Order

/-!
How far a fault reaches. A fault inside one attribute is reported as the error of that attribute;
only faults of the list itself end a compilation. The one exception is an expression that cannot be
read at all: a null character or half of a pair ends the compilation with a fault of another kind.
-/

namespace AttrBinder

/-- Whether a complaint is about the list itself: its tokens, its brackets or its separators. -/
def Complaint.isOfList : Complaint → Bool
  | .untokenizable _ | .expectedOpening _ | .unclosedList | .expectedSeparator _
  | .trailingInput _ => true
  | _ => false

theorem Complaint.kind_of_isOfList {x : Complaint} (whole : x.isOfList = true) :
    x.kind = .list := by
  cases x <;> first | rfl | cases whole

namespace AttributeReader

/-- What reading a part of an attribute gives, if faults stay inside: the part, a complaint that is
not about the list, or a halt at what cannot be read and is held by the source. -/
inductive Contained (source : List Char) {α : Type} : Except Halt α × Cursor → Prop
  | read (a : α) {c : Cursor} (same : c.source = source) : Contained source (.ok a, c)
  | fault {d : Diagnostic} {c : Cursor} (own : d.complaint.isOfList = false)
      (same : c.source = source) : Contained source (.error (.complaint d), c)
  | unreadable {u : Unreadable} {c : Cursor} (held : ∃ ch ∈ source, u.marks ch = true) :
      Contained source (.error (.unreadable u), c)

theorem moreSegments_contained (n : Nat) (soFar : List String) (last : Token) (c : Cursor) :
    Contained c.source ((moreSegments n soFar last).run c) := by
  induction n generalizing soFar last c with
  | zero => exact .read _ rfl
  | succ n ih =>
    rw [run_moreSegments_succ]
    repeat' split
    · exact ih _ _ c.advance.advance
    · exact .fault rfl rfl
    · exact .read _ rfl

theorem name_contained (c : Cursor) : Contained c.source (name.run c) := by
  rw [run_name]
  split
  case isFalse => exact .fault rfl rfl
  case isTrue =>
    have more := moreSegments_contained c.advance.ahead.length [c.peek.text] c.peek c.advance
    generalize (moreSegments c.advance.ahead.length [c.peek.text] c.peek).run c.advance = r at more
    cases more with
    | read _ same => exact .read _ same
    | fault own same => exact .fault own same
    | unreadable held => exact .unreadable held

theorem directive_contained (c : Cursor) : Contained c.source (directive.run c) := by
  rw [run_directive]
  have named := name_contained c
  generalize name.run c = r at named
  cases named with
  | fault own same => exact .fault own same
  | unreadable held => exact .unreadable held
  | read n same =>
    dsimp only
    repeat' split
    all_goals first
      | exact .read _ same
      | exact .fault rfl same

theorem expression_contained (c : Cursor) : Contained c.source (expression.run c) := by
  rw [run_expression]
  dsimp only
  split
  case h_1 => exact .fault rfl rfl
  case h_2 =>
    split
    case isFalse => exact .fault rfl rfl
    case isTrue =>
      split
      case h_1 => exact .read _ rfl
      case h_2 => exact .fault rfl rfl
      case h_3 failed =>
        obtain ⟨ch, mem, marked⟩ := exists_of_unreadable failed
        exact .unreadable ⟨ch, mem_of_mem_upTo mem, marked⟩

theorem entry_contained (c : Cursor) : Contained c.source (entry.run c) := by
  rw [run_entry]
  have directed := directive_contained c
  generalize directive.run c = r at directed
  cases directed with
  | fault own same => exact .fault own same
  | unreadable held => exact .unreadable held
  | @read d c' same =>
    dsimp only
    split
    case isFalse => exact .fault rfl same
    case isTrue =>
      have valued := expression_contained c'.advance
      rw [show c'.advance.source = c.source from same] at valued
      generalize expression.run c'.advance = r at valued
      cases valued with
      | read _ same => exact .read _ same
      | fault own same => exact .fault own same
      | unreadable held => exact .unreadable held

end AttributeReader

namespace AttributeList

open AttributeReader

/-- Faults stay inside slots: no slot complains of the list, and what ends the reading is about the
list, or what cannot be read. -/
structure Contained (source : List Char) (r : ListReading) : Prop where
  slots : ∀ d, .rejected d ∈ r.slots → d.complaint.isOfList = false
  halts : ∀ halt, r.outcome = .error halt →
    (∃ d, halt = .complaint d ∧ d.complaint.isOfList = true) ∨
      ∃ u, halt = .unreadable u ∧ ∃ ch ∈ source, u.marks ch = true

variable {source : List Char} {soFar : List Slot}

theorem failed_contained (own : ∀ d, .rejected d ∈ soFar → d.complaint.isOfList = false)
    {x : Complaint} (whole : x.isOfList = true) (span : Span) (c : Cursor) :
    Contained source (failed soFar.reverse x span c) :=
  ⟨by simpa [failed] using own, fun _ eq => .inl ⟨⟨x, span⟩, (Except.error.inj eq).symm, whole⟩⟩

theorem close_contained (own : ∀ d, .rejected d ∈ soFar → d.complaint.isOfList = false)
    (c : Cursor) : Contained source (close soFar.reverse c) := by
  unfold close
  dsimp only
  split
  · exact ⟨by simpa using own, fun _ eq => by cases eq⟩
  · exact failed_contained own rfl _ _

theorem slots_contained (n : Nat)
    (own : ∀ d, .rejected d ∈ soFar → d.complaint.isOfList = false) (c : Cursor) :
    Contained c.source (slots n soFar c) := by
  induction n generalizing soFar c with
  | zero => exact failed_contained own rfl _ _
  | succ n ih =>
    -- Behind a slot the reading goes on, or ends with a fault of the list.
    have goes {slot : Slot} {c' : Cursor} (same : c'.source = c.source)
        (own : ∀ d, .rejected d ∈ slot :: soFar → d.complaint.isOfList = false) :
        Contained c.source (goOn n (slot :: soFar) c') := by
      rw [← same, goOn]
      rcases separation_cases c' with ⟨-, comma⟩ | ⟨-, closing⟩ | ⟨x, span, fault, cause⟩
      · rw [comma]
        exact ih own c'.advance
      · rw [closing]
        exact close_contained own c'
      · have whole : x.isOfList = true := by rcases cause with rfl | rfl <;> rfl
        rw [fault]
        exact failed_contained own whole span c'
    rw [slots_succ]
    split
    case isTrue => exact close_contained own c
    case isFalse =>
      split
      case isTrue => exact failed_contained own rfl _ _
      case isFalse =>
        have entered := entry_contained c
        generalize entry.run c = r at entered
        cases entered with
        | read a same => exact goes same (by simpa using own)
        | fault inner same =>
          refine goes same fun d mem => ?_
          rcases List.mem_cons.mp mem with eq | mem
          · cases eq
            exact inner
          · exact own d mem
        | unreadable held =>
          exact ⟨by simpa using own, fun _ eq => .inr ⟨_, (Except.error.inj eq).symm, held⟩⟩

theorem parse_contained (source : String) (origin : Origin) :
    Contained source.toList (parse source origin) := by
  have none : ∀ d, Slot.rejected d ∈ [] → d.complaint.isOfList = false := by simp
  unfold parse
  split
  case h_1 => exact failed_contained none rfl _ _
  case h_2 tokens cut =>
    unfold read
    dsimp only
    split
    case isFalse => exact failed_contained none rfl _ _
    case isTrue =>
      obtain ⟨slots, halts⟩ := slots_contained ((Cursor.ofTokens tokens).advance.ahead.length + 1)
        none (Cursor.ofTokens tokens).advance
      refine ⟨slots, fun halt eq => (halts halt eq).imp_right ?_⟩
      rintro ⟨u, eq, ch, held, marked⟩
      have held : ch ∈ tokens.source := held
      rw [TokenList.source_eq cut] at held
      exact ⟨u, eq, ch, Text.mem_of_mem_trim held, marked⟩

end AttributeList

namespace Compile

variable {c : Config} {slot : Slot} {slots : List Slot}

theorem isOfList_of_complaint (own : ∀ d, slot = .rejected d → d.complaint.isOfList = false)
    (wrong : slot.complaint? c = some d) : d.complaint.isOfList = false := by
  cases slot with
  | rejected d' =>
    cases wrong
    exact own d rfl
  | accepted a =>
    simp only [Slot.complaint?] at wrong
    split at wrong
    case h_2 => cases wrong
    case h_1 failed =>
      cases wrong
      obtain ⟨p, span, -, rfl | ⟨descriptor, checked⟩⟩ := resolve_error failed
      · rfl
      · unfold Generator.checkCell at checked
        repeat' split at checked
        all_goals cases checked
        all_goals rfl

theorem mem_errors : d ∈ (result c slots).errors ↔ ∃ slot ∈ slots, slot.complaint? c = some d := by
  have perm := (slots_split c 0 slots).2.2
  rw [← List.mem_filterMap, ← perm.mem_iff, result]
  simp only [List.mem_mergeSort, lowerAll, List.filterMap_map]
  rfl

theorem exists_lowered (mem : slot ∈ slots) (fine : slot.complaint? c = none) :
    ∃ l ∈ (result c slots).lowered, slot = .accepted l.attr := by
  cases slot with
  | rejected d => cases fine
  | accepted a =>
    have read : a ∈ slots.filterMap Slot.attribute? := List.mem_filterMap.mpr ⟨_, mem, rfl⟩
    obtain ⟨i, there⟩ := List.mem_iff_getElem?.mp read
    rcases lowerOne_cases c i a with ⟨l, lowered, attr, -⟩ | ⟨d, -, wrong⟩
    · refine ⟨l, ?_, by rw [attr]⟩
      rw [result_lowered, loweredFrom, List.mem_filterMap]
      exact ⟨(a, i), List.mem_zipIdx_iff_getElem?.mpr there,
        by simp [lowered, Lowering.Outcome.lowered?]⟩
    · rw [fine] at wrong
      cases wrong

/-- Error containment. Compiling gives a result, in which every slot is lowered or has its error,
and no error is about anything but a slot; or it ends with a fault of the list itself; or it ends at
a null character or half of a pair that an expression holds. -/
theorem run_contained (c : Config) (source : String) :
    (∃ r, (run c source).result = .ok r ∧
      (∀ slot ∈ (AttributeList.parse source c.origin).slots,
        (slot.complaint? c = none ∧ ∃ l ∈ r.lowered, slot = .accepted l.attr) ∨
          ∃ d ∈ r.errors, slot.complaint? c = some d) ∧
      ∀ d ∈ r.errors, d.complaint.isOfList = false ∧
        ∃ slot ∈ (AttributeList.parse source c.origin).slots, slot.complaint? c = some d) ∨
    (∃ d, (run c source).result = .error (.complaint d) ∧ d.complaint.isOfList = true ∧
      d.kind = .list) ∨
    ∃ u : Unreadable, (run c source).result = .error (.unreadable u) ∧
      ∃ ch ∈ source.toList, u.marks ch = true := by
  have contained := AttributeList.parse_contained source c.origin
  cases outcome : (AttributeList.parse source c.origin).outcome with
  | error halt =>
    have halts : (run c source).result = .error halt := by simp only [run, outcome]
    rcases contained.halts halt outcome with ⟨d, rfl, whole⟩ | ⟨u, rfl, held⟩
    · exact .inr (.inl ⟨d, halts, whole, Complaint.kind_of_isOfList whole⟩)
    · exact .inr (.inr ⟨u, halts, held⟩)
  | ok _ =>
    refine .inl ⟨result c (AttributeList.parse source c.origin).slots,
      by simp only [run, outcome], fun slot mem => ?_, fun d mem => ?_⟩
    · cases wrong : slot.complaint? c with
      | none => exact .inl ⟨rfl, exists_lowered mem wrong⟩
      | some d => exact .inr ⟨d, mem_errors.mpr ⟨slot, mem, wrong⟩, rfl⟩
    · obtain ⟨slot, mem, wrong⟩ := mem_errors.mp mem
      exact ⟨isOfList_of_complaint (fun d eq => contained.slots d (eq ▸ mem)) wrong, slot, mem,
        wrong⟩

/-- A null character in one expression leaves nothing of the list, where another fault in its place
costs no more than its own attribute. -/
theorem null_not_contained :
    ((run {} "(a=\x00, b=1)").result matches .error (.unreadable .nullCharacter)) = true ∧
    (run {} "(a=$, b=1)").result.toOption.map (fun r => r.lowered.length) = some 1 := by
  decide +kernel

end Compile

end AttrBinder
