import Mathlib.Data.List.Pairwise
import AttrBinder.Proofs.Attribute.Sites
import AttrBinder.Proofs.Compile.Slots

/-!
Errors are reported in the order of the slots that caused them, one for each slot that was not
lowered, whether reading or lowering found it.
-/

namespace AttrBinder

/-- What is wrong with a slot: what reading complained of, or else what lowering does. -/
def Slot.complaint? (c : Config) : Slot → Option Diagnostic
  | .rejected d => some d
  | .accepted a =>
    match (Compile.generator c).resolve a with
    | .error d => some d
    | .ok _ => none

theorem Diagnostic.mergeSort_eq {ds sorted : List Diagnostic} (perm : ds.Perm sorted)
    (strict : sorted.Pairwise fun a b => a.span.Before b.span) :
    ds.mergeSort Diagnostic.before = sorted := by
  have before_iff (a b : Diagnostic) : a.before b = true ↔ ¬b.span.Before a.span := by
    unfold Diagnostic.before Span.Before
    simp only [Bool.or_eq_true, Bool.and_eq_true, decide_eq_true_eq, beq_iff_eq]
    omega
  have trans (a b c : Diagnostic) (first : a.before b = true) (second : b.before c = true) :
      a.before c = true := by
    rw [before_iff] at *
    unfold Span.Before at *
    omega
  have total (a b : Diagnostic) : (a.before b || b.before a) = true := by
    rw [Bool.or_eq_true, before_iff, before_iff]
    unfold Span.Before
    omega
  have sorts := List.mergeSort_perm ds Diagnostic.before
  have ordered := List.pairwise_mergeSort trans total ds
  refine List.Perm.eq_of_pairwise ?_ ordered
    (strict.imp fun {a b} before => (before_iff a b).mpr before.asymm) (sorts.trans perm)
  intro a b memA memB first second
  by_contra ne
  -- Of two different members one starts before the other.
  let Apart (a b : Diagnostic) : Prop := a.span.Before b.span ∨ b.span.Before a.span
  have : Std.Symm Apart := ⟨fun _ _ => Or.symm⟩
  have apart : sorted.Pairwise Apart := strict.imp .inl
  rcases apart.forall ((sorts.trans perm).mem_iff.mp memA) memB ne with h | h
  · exact (before_iff b a).mp second h
  · exact (before_iff a b).mp first h

theorem AttributeList.Sited.pairwise (sited : Sited opener ts ss) {α : Type} (f : Slot → Option α)
    (place : α → Span)
    (names : ∀ slot x, f slot = some x → slot.Names (place x)) :
    (ss.filterMap fun s => f s.slot).Pairwise fun x y => (place x).Before (place y) := by
  rw [List.pairwise_filterMap]
  refine sited.apart.imp_of_mem fun {s s'} mem mem' apart x is y is' => ?_
  have first := (sited.between s mem _ (names _ _ is)).2
  have second := (sited.between s' mem' _ (names _ _ is')).1
  unfold Span.Before at *
  omega

namespace Compile

variable {c : Config}

theorem checkCell_span {g : Generator} (failed : g.checkCell p descriptor a = .error d) :
    d.span = a.exprSpan := by
  unfold Generator.checkCell at failed
  repeat' split at failed
  all_goals cases failed
  all_goals rfl

theorem resolve_error {g : Generator} (failed : g.resolve a = .error d) :
    ∃ p span, a.directive = .binding p span ∧ (d = ⟨.unsupportedProperty p, span⟩ ∨
      ∃ descriptor, g.checkCell p descriptor a = .error d) := by
  unfold Generator.resolve at failed
  split at failed
  case h_2 => cases failed
  case h_1 p span directed =>
    refine ⟨p, span, directed, ?_⟩
    unfold Generator.resolveProperty at failed
    cases known : PropertyDescriptor.ofProperty? p with
    | none =>
      rw [known] at failed
      cases failed
      exact .inl rfl
    | some descriptor =>
      rw [known] at failed
      cases checked : g.checkCell p descriptor a with
      | ok _ => simp [checked, bind, Except.bind, pure, Except.pure] at failed
      | error d' =>
        have eq : d' = d := by simpa [checked, bind, Except.bind] using failed
        exact .inr ⟨descriptor, eq ▸ checked⟩

theorem names_of_complaint {slot : Slot} (wrong : slot.complaint? c = some d) :
    slot.Names d.span := by
  cases slot with
  | rejected d' =>
    cases wrong
    exact .fault d
  | accepted a =>
    simp only [Slot.complaint?] at wrong
    split at wrong
    case h_2 => cases wrong
    case h_1 failed =>
      cases wrong
      obtain ⟨p, span, directed, rfl | ⟨descriptor, checked⟩⟩ := resolve_error failed
      · exact .property directed
      · rw [checkCell_span checked]
        exact .value a

theorem lowerOne_cases (c : Config) (index : Nat) (a : Attribute) :
    (∃ l, lowerOne c index a = .lowered l ∧ l.attr = a ∧ (Slot.accepted a).complaint? c = none) ∨
      ∃ d, lowerOne c index a = .rejected d ∧ (Slot.accepted a).complaint? c = some d := by
  simp only [lowerOne, Slot.complaint?, show (Generator.mk c fun _ => true) = generator c from rfl]
  cases resolved : (generator c).resolve a with
  | error d => exact .inr ⟨d, rfl, rfl⟩
  | ok d =>
    obtain ⟨statements, made⟩ := exists_generate resolved index
    exact .inl ⟨⟨a, a.directive.form, statements, d⟩, by simp only [made], rfl, rfl⟩

/-- What lowering complains of in slots whose first attribute has a given index. -/
def rejectedFrom (c : Config) (index : Nat) (slots : List Slot) : List Diagnostic :=
  ((slots.filterMap Slot.attribute?).zipIdx index).filterMap fun (a, i) => (lowerOne c i a).rejected?

theorem slots_split (c : Config) (index : Nat) (slots : List Slot) :
    (loweredFrom c index slots).length + (slots.filterMap (Slot.complaint? c)).length =
      slots.length ∧
    ((loweredFrom c index slots).map Lowered.attr).Sublist (slots.filterMap Slot.attribute?) ∧
    (slots.filterMap Slot.rejected? ++ rejectedFrom c index slots).Perm
      (slots.filterMap (Slot.complaint? c)) := by
  induction slots generalizing index with
  | nil => exact ⟨rfl, .slnil, .nil⟩
  | cons slot slots ih =>
    cases slot with
    | rejected d =>
      obtain ⟨count, attributes, perm⟩ := ih index
      refine ⟨?_, attributes, perm.cons d⟩
      simp only [loweredFrom_rejected, List.filterMap_cons, Slot.complaint?, List.length_cons]
      omega
    | accepted a =>
      obtain ⟨count, attributes, perm⟩ := ih (index + 1)
      have rejected : rejectedFrom c index (.accepted a :: slots) =
          (lowerOne c index a).rejected?.toList ++ rejectedFrom c (index + 1) slots := by
        simp only [rejectedFrom, List.filterMap_cons, Slot.attribute?, List.zipIdx_cons]
        cases (lowerOne c index a).rejected? <;> rfl
      simp only [rejected, loweredFrom_accepted, List.filterMap_cons, Slot.rejected?,
        Slot.attribute?]
      rcases lowerOne_cases c index a with ⟨l, lowered, attr, none⟩ | ⟨d, lowered, wrong⟩
      · simp only [lowered, none, Lowering.Outcome.lowered?, Lowering.Outcome.rejected?,
          Option.toList_some, Option.toList_none, List.nil_append, List.singleton_append,
          List.length_cons, List.map_cons, attr]
        exact ⟨by omega, attributes.cons_cons a, perm⟩
      · simp only [lowered, wrong, Lowering.Outcome.lowered?, Lowering.Outcome.rejected?,
          Option.toList_some, Option.toList_none, List.nil_append, List.singleton_append,
          List.length_cons]
        exact ⟨by omega, attributes.cons a, List.perm_middle.trans (perm.cons d)⟩

end Compile

open AttributeList in
/-- Errors in source order. A list that compiles, perhaps with errors, has one error or one lowered
attribute for each slot that reading met; lowered attributes are in the order of their places; the
errors are those of the slots, in the order of the slots, with strictly increasing places; and each
starts behind the separator in front of its slot and not behind the one that ends it. -/
theorem Compile.errors_in_order {c : Config} {source : String} {r : CompileResult}
    (compiled : (Compile.run c source).result = .ok r) :
    (parse source c.origin).slots = (sitesOf source c.origin).map Site.slot ∧
    r.lowered.length + r.errors.length = (sitesOf source c.origin).length ∧
    (r.lowered.Pairwise fun l l' => l.attr.span.Before l'.attr.span) ∧
    (r.errors.Pairwise fun d d' => d.span.Before d'.span) ∧
    r.errors = (sitesOf source c.origin).filterMap (fun s => s.slot.complaint? c) ∧
    ∀ s ∈ sitesOf source c.origin,
      (s.opener.isOperator "(" = true ∨ s.opener.isOperator "," = true) ∧
      (s.closer.isOperator "," = true ∨ s.closer.isOperator ")" = true) ∧
      ∀ d, s.slot.complaint? c = some d →
        s.opener.span.Before d.span ∧ ¬s.closer.span.Before d.span := by
  unfold Compile.run at compiled
  dsimp only at compiled
  split at compiled
  case h_1 => cases compiled
  case h_2 ok =>
    cases compiled
    obtain ⟨slots, -, opener, ts, -, -, opens, sited⟩ := parse_sites ok
    obtain ⟨count, attributes, perm⟩ := slots_split c 0 (parse source c.origin).slots
    have wrong : (parse source c.origin).slots.filterMap (Slot.complaint? c) =
        (sitesOf source c.origin).filterMap fun s => s.slot.complaint? c := by
      rw [slots, List.filterMap_map]
      rfl
    have read : (parse source c.origin).slots.filterMap Slot.attribute? =
        (sitesOf source c.origin).filterMap fun s => s.slot.attribute? := by
      rw [slots, List.filterMap_map]
      rfl
    have strict := sited.pairwise (Slot.complaint? c) Diagnostic.span fun _ _ => names_of_complaint
    have places := sited.pairwise Slot.attribute? Attribute.span fun slot a is => by
      cases slot with
      | accepted b => cases is; exact .whole a
      | rejected d => cases is
    have errors : (result c (parse source c.origin).slots).errors =
        (sitesOf source c.origin).filterMap fun s => s.slot.complaint? c := by
      refine Diagnostic.mergeSort_eq ?_ strict
      rw [← wrong]
      simp only [lowerAll, List.filterMap_map]
      exact perm
    refine ⟨slots, ?_, ?_, errors ▸ strict, errors, fun s mem => ⟨?_, sited.closers s mem, ?_⟩⟩
    · rw [errors, result_lowered, ← wrong, count, slots, List.length_map]
    · rw [result_lowered, ← List.pairwise_map (f := Lowered.attr)
        (R := fun a b : Attribute => a.span.Before b.span)]
      exact (read ▸ places).sublist attributes
    · exact (sited.openers s mem).imp (fun (eq : s.opener = opener) => eq ▸ opens) And.left
    · exact fun d is => sited.between s mem _ (names_of_complaint is)

namespace Compile

/-- A list in which lowering finds the first and the last fault and reading the second. -/
def mixedText : String := "(bind:size=s, a-1=1, b=2,\n bind:value=[])"

theorem errors_in_order_mixed :
    ∃ r, (Compile.run {} mixedText).result = .ok r ∧ r.lowered.length = 1 ∧ r.errors.length = 3 ∧
      (r.errors.Pairwise fun d d' => d.span.Before d'.span) := by
  have checks : (AttributeList.sitesOf mixedText {}).length = 4 ∧
      (Compile.run {} mixedText).result.toOption.map (·.lowered.length) = some 1 := by
    decide +kernel
  obtain ⟨r, compiled, one⟩ := Option.map_eq_some_iff.mp checks.2
  have ok : (Compile.run {} mixedText).result = .ok r := by
    cases h : (Compile.run {} mixedText).result with
    | error e => rw [h] at compiled; cases compiled
    | ok r' => rw [h] at compiled; cases compiled; rfl
  obtain ⟨-, count, -, strict, -⟩ := errors_in_order ok
  exact ⟨r, ok, one, by rw [one] at count; exact Nat.add_left_cancel (count.trans checks.1), strict⟩

end Compile

end AttrBinder
