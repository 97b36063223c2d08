import Mathlib.Data.List.Forall2
import AttrBinder.Compile.Result
import AttrBinder.Proofs.Attribute.Slots

/-!
Compiling a list lowers the slots that would be lowered alone. A slot's statements are those that it
has alone, but for the index in the names that are made for it.
-/

namespace AttrBinder

namespace Compile

def generator (c : Config) : Generator :=
  Generator.mk c fun _ => true

def parenthesized (ts : List Token) : List Token :=
  ⟨.operator, "(", Diagnostic.nowhere, 0, 0⟩ :: (ts ++ [⟨.operator, ")", Diagnostic.nowhere, 0, 0⟩])

def loweredAlone (c : Config) (source : List Char) (ts : List Token) : List Lowered :=
  (result c (AttributeList.read
    ⟨source, parenthesized ts, AttributeReader.endToken⟩).slots).lowered

/-- A lowered attribute that has another index than a given one, and perhaps other places. -/
structure Renumbered (c : Config) (given l : Lowered) : Prop where
  content : l.attr.content = given.attr.content
  form : l.form = given.form
  descriptor : l.descriptor = given.descriptor
  statements : ∃ index : Nat,
    (generator c).generate index given.descriptor given.attr = .ok l.statements

section Lowering

variable {c : Config} {a b : Attribute}

theorem generate_eq_of_content (same : a.content = b.content) (g : Generator) (index : Int)
    (d : Option PropertyDescriptor) : g.generate index d a = g.generate index d b := by
  obtain ⟨directive, expr, source, span, exprSpan⟩ := a
  obtain ⟨directive', expr', source', span', exprSpan'⟩ := b
  simp only [Attribute.content, Content.attribute.injEq] at same
  obtain ⟨same, rfl, rfl⟩ := same
  cases directive <;> cases directive' <;>
    simp_all [Directive.unplaced, Generator.generate, AttributeName.text, AttributeName.segments]

theorem form_eq_of_content (same : a.content = b.content) :
    a.directive.form = b.directive.form := by
  simp only [Attribute.content, Content.attribute.injEq] at same
  have unplaced (d : Directive) : d.unplaced.form = d.form := by cases d <;> rfl
  rw [← unplaced, same.1, unplaced]

theorem resolve_of_form {g : Generator} (form : a.directive.form ≠ .binding) :
    g.resolve a = .ok none := by
  unfold Generator.resolve
  split
  · next directed => exact absurd (by rw [directed]; rfl) form
  · rfl

theorem exists_of_form (form : a.directive.form = .binding) :
    ∃ p span, a.directive = .binding p span := by
  cases directed : a.directive with
  | binding p span => exact ⟨p, span, rfl⟩
  | plain _ | event _ _ | ref _ => rw [directed] at form; cases form

theorem resolve_binding {g : Generator} (directed : a.directive = .binding p span) :
    (g.resolve a).toOption = (PropertyDescriptor.ofProperty? p).bind fun d =>
      (g.checkCell p d a).toOption.map fun _ => some d := by
  unfold Generator.resolve Generator.resolveProperty
  rw [directed]
  dsimp only
  cases PropertyDescriptor.ofProperty? p with
  | none => rfl
  | some d =>
    have step : (do
        let d ← (.ok d : Except Diagnostic PropertyDescriptor)
        g.checkCell p d a
        return some d : Except Diagnostic (Option PropertyDescriptor)) =
        (g.checkCell p d a).bind fun _ => .ok (some d) := rfl
    rw [step, Option.bind_some]
    cases g.checkCell p d a <;> rfl

theorem checkCell_eq_of_expr {g : Generator} (same : a.expr = b.expr) :
    (g.checkCell p d a).toOption = (g.checkCell p d b).toOption := by
  unfold Generator.checkCell
  rw [same]
  repeat' split
  all_goals rfl

theorem resolve_eq_of_content (same : a.content = b.content) (g : Generator) :
    (g.resolve a).toOption = (g.resolve b).toOption := by
  have forms := form_eq_of_content same
  by_cases form : a.directive.form = .binding
  · obtain ⟨p, span, directed⟩ := exists_of_form form
    obtain ⟨p', span', directed'⟩ := exists_of_form (forms ▸ form)
    simp only [Attribute.content, Content.attribute.injEq] at same
    obtain ⟨unplaced, _, expr⟩ := same
    rw [directed, directed'] at unplaced
    cases unplaced
    rw [resolve_binding directed, resolve_binding directed']
    simp only [checkCell_eq_of_expr expr]
  · rw [resolve_of_form form, resolve_of_form (forms ▸ form)]

theorem exists_generate {g : Generator} (resolved : g.resolve a = .ok d) (index : Int) :
    ∃ statements, g.generate index d a = .ok statements := by
  unfold Generator.generate
  cases directed : a.directive with
  | plain n => exact ⟨_, rfl⟩
  | event e span => exact ⟨_, rfl⟩
  | ref span => exact ⟨_, rfl⟩
  | binding p span =>
    have found := resolve_binding (g := g) directed
    rw [resolved] at found
    obtain ⟨descriptor, _, checked⟩ := Option.bind_eq_some_iff.mp found.symm
    obtain ⟨_, _, rfl⟩ := Option.map_eq_some_iff.mp checked
    exact ⟨_, rfl⟩

theorem lowered_renumbered (same : a.content = b.content) (index : Nat) :
    List.Forall₂ (Renumbered c) (lowerOne c 0 b).lowered?.toList
      (lowerOne c index a).lowered?.toList := by
  have resolved := resolve_eq_of_content same (generator c)
  unfold lowerOne
  rw [show (Generator.mk c fun _ => true) = generator c from rfl]
  cases first : (generator c).resolve a with
  | error d =>
    cases second : (generator c).resolve b with
    | error d' => exact .nil
    | ok d' => rw [first, second] at resolved; cases resolved
  | ok d =>
    cases second : (generator c).resolve b with
    | error d' => rw [first, second] at resolved; cases resolved
    | ok d' =>
      rw [first, second] at resolved
      cases resolved
      obtain ⟨statements, made⟩ := exists_generate first index
      obtain ⟨given, alone⟩ := exists_generate second (0 : Nat)
      simp only [made, alone]
      refine .cons ⟨same, form_eq_of_content same, rfl, index, ?_⟩ .nil
      rw [← made]
      exact (generate_eq_of_content same _ _ _).symm

end Lowering

open AttributeList

def loweredFrom (c : Config) (index : Nat) (slots : List Slot) : List Lowered :=
  ((slots.filterMap Slot.attribute?).zipIdx index).filterMap fun (a, i) => (lowerOne c i a).lowered?

theorem result_lowered (c : Config) (slots : List Slot) :
    (result c slots).lowered = loweredFrom c 0 slots := by
  simp only [result, lowerAll, loweredFrom, List.filterMap_map]
  rfl

theorem loweredFrom_accepted (c : Config) (index : Nat) (a : Attribute) (slots : List Slot) :
    loweredFrom c index (.accepted a :: slots) =
      (lowerOne c index a).lowered?.toList ++ loweredFrom c (index + 1) slots := by
  simp only [loweredFrom, List.filterMap_cons, Slot.attribute?, List.zipIdx_cons]
  cases (lowerOne c index a).lowered? <;> rfl

theorem loweredFrom_rejected (c : Config) (index : Nat) (d : Diagnostic) (slots : List Slot) :
    loweredFrom c index (.rejected d :: slots) = loweredFrom c index slots := rfl

section Slots

variable {c : Config} {source : List Char}

theorem loweredAlone_eq (clean : Unreadable.find? source = none) (run : Balanced false ts)
    (bound : ∀ t ∈ ts, t.isFinish = false) (some_ : ts ≠ []) :
    ∃ slot : Slot, some slot.content = Slot.alone source ts ∧
      loweredAlone c source ts = loweredFrom c 0 [slot] := by
  have listed : Listed [ts] (ts ++ [⟨.operator, ")", Diagnostic.nowhere, 0, 0⟩]) :=
    .last run (by decide)
  have inside : ∀ t ∈ ts ++ [⟨.operator, ")", Diagnostic.nowhere, 0, 0⟩], t.isFinish = false := by
    intro t mem
    rcases List.mem_append.mp mem with mem | mem
    · exact bound t mem
    · cases List.mem_singleton.mp mem
      rfl
  have counts : kept [ts] = [ts] := by simp [kept, some_]
  obtain ⟨found, ran, contents⟩ := @read_listed source AttributeReader.endToken
    ⟨.operator, "(", Diagnostic.nowhere, 0, 0⟩ rfl clean rfl _ _ listed inside
  rw [counts] at contents
  obtain ⟨slot, rest, rfl, same, none⟩ := List.map_eq_cons_iff.mp contents
  cases List.map_eq_nil_iff.mp none
  refine ⟨slot, same, ?_⟩
  unfold loweredAlone parenthesized
  rw [ran, result_lowered]

theorem loweredFrom_cons {ts : List Token} {slot : Slot} (clean : Unreadable.find? source = none)
    (run : Balanced false ts) (bound : ∀ t ∈ ts, t.isFinish = false)
    (same : some slot.content = Slot.alone source ts) (index : Nat) (slots : List Slot) :
    ∃ here next, loweredFrom c index (slot :: slots) = here ++ loweredFrom c next slots ∧
      List.Forall₂ (Renumbered c) (loweredAlone c source ts) here := by
  cases ts with
  | nil =>
    cases slot with
    | accepted a => cases same
    | rejected d => exact ⟨[], index, rfl, .nil⟩
  | cons t ts =>
    obtain ⟨alone, same', lowered⟩ := loweredAlone_eq (c := c) clean run bound (by simp)
    rw [← same'] at same
    rw [lowered]
    cases slot with
    | rejected d =>
      cases alone with
      | accepted b => cases same
      | rejected d' => exact ⟨[], index, rfl, .nil⟩
    | accepted a =>
      cases alone with
      | rejected d' => cases same
      | accepted b =>
        refine ⟨_, index + 1, loweredFrom_accepted c index a slots, ?_⟩
        rw [loweredFrom_accepted, show loweredFrom c 1 [] = [] from rfl, List.append_nil]
        exact lowered_renumbered (Option.some.inj same) index

theorem loweredFrom_renumbered (clean : Unreadable.find? source = none) {ls : List (List Token)}
    {found : List Slot} (runs : ∀ ts ∈ ls, Balanced false ts)
    (bound : ∀ ts ∈ ls, ∀ t ∈ ts, t.isFinish = false)
    (contents : found.map (fun slot => some slot.content) = ls.map (Slot.alone source))
    (index : Nat) :
    List.Forall₂ (Renumbered c) (ls.flatMap (loweredAlone c source))
      (loweredFrom c index found) := by
  induction ls generalizing found index with
  | nil =>
    cases List.map_eq_nil_iff.mp contents
    exact .nil
  | cons ts ls ih =>
    obtain ⟨slot, found, rfl, same, others⟩ := List.map_eq_cons_iff.mp contents
    obtain ⟨here, next, eq, renumbered⟩ := loweredFrom_cons (c := c) clean (runs ts (by simp))
      (bound ts (by simp)) same index found
    rw [eq, List.flatMap_cons]
    exact List.rel_append renumbered (ih (fun us mem => runs us (by simp [mem]))
      (fun us mem => bound us (by simp [mem])) others next)

end Slots

end Compile

open AttributeList in
/-- Slots do not depend on each other. A list of slots in which brackets match is read to its end;
each slot that counts gives one attribute or one diagnostic, which is what it holds alone; what it
holds alone is a matter of its words and the text between them; and compiling lowers the slots that
are lowered alone, with statements that differ by the index in the names made for them. -/
theorem Compile.slots_independent {c : Config} {text : String} {tokens : TokenList}
    {opener : Token} {ts : List Token} {slots : List (List Token)}
    (cut : TokenList.ofSource text c.origin = .ok tokens) (clean : Unreadable.find? text.toList = none)
    (starts : tokens.tokens = opener :: ts) (opens : opener.isOperator "(" = true)
    (listed : Listed slots ts) :
    (parse text c.origin).outcome = .ok () ∧
    (parse text c.origin).slots.map (fun slot => some slot.content) =
      (kept slots).map (Slot.alone tokens.source) ∧
    (∀ source, Slot.alone source [] = some (.fault .name)) ∧
    (∀ slot ∈ slots, ∀ source' slot', Slot.SameText tokens.source slot source' slot' →
      Slot.alone source' slot' = Slot.alone tokens.source slot) ∧
    ∃ r, (Compile.run c text).result = .ok r ∧
      List.Forall₂ (Renumbered c) ((kept slots).flatMap (loweredAlone c tokens.source))
        r.lowered := by
  have cleanSource : Unreadable.find? tokens.source = none := by
    rw [TokenList.source_eq cut]
    exact AttributeReader.find?_unreadable_eq_none.mpr fun u ch mem =>
      AttributeReader.find?_unreadable_eq_none.mp clean u ch (Text.mem_of_mem_trim mem)
  have bound : ∀ t ∈ ts, t.isFinish = false := fun t mem =>
    TokenList.isFinish_of_mem cut t (starts ▸ List.mem_cons_of_mem _ mem)
  obtain ⟨found, ran, contents⟩ :=
    read_listed (TokenList.isFinish_finish cut) cleanSource opens listed bound
  have parsed : parse text c.origin = ⟨found, .ok (), ⟨tokens.source, [], tokens.finish⟩⟩ := by
    simp only [parse, cut, Cursor.ofTokens, starts, ran]
  have compiled : (Compile.run c text).result = .ok (result c found) := by
    simp only [Compile.run, parsed]
  refine ⟨by rw [parsed], by rw [parsed]; exact contents, fun _ => rfl, ?_, _, compiled, ?_⟩
  · intro slot mem source' slot' same
    exact Slot.alone_eq_of_sameText (listed.slot slot mem).1 same
  · rw [result_lowered]
    exact loweredFrom_renumbered cleanSource
      (fun slot mem => (listed.slot slot (mem_of_mem_kept mem)).1)
      (fun slot mem t held => bound t ((listed.slot slot (mem_of_mem_kept mem)).2 held)) contents 0

namespace Compile

def tokensOf (text : String) : TokenList :=
  (TokenList.ofSource text {}).toOption.getD ⟨[], [], default⟩

theorem tokensOf_cut {text : String} (ok : (TokenList.ofSource text {}).isOk = true) :
    TokenList.ofSource text {} = .ok (tokensOf text) := by
  unfold tokensOf
  cases cut : TokenList.ofSource text {} with
  | error e => rw [cut] at ok; cases ok
  | ok tokens => rfl

def faultyText : String := "(a-1=1, bind:value=v, , c=[2, 3])"

def faultyTokens : TokenList := tokensOf faultyText

def faultySlot (start count : Nat) : List Token :=
  (faultyTokens.tokens.drop start).take count

def faultySlots : List (List Token) :=
  [faultySlot 1 5, faultySlot 7 5, faultySlot 13 0, faultySlot 14 7]

theorem faultyTokens_listed :
    AttributeList.Listed faultySlots (faultyTokens.tokens.drop 1) := by
  let t (i : Nat) : Token := faultyTokens.tokens.getD i default
  have facts : faultyTokens.tokens.drop 1 =
        faultySlot 1 5 ++ t 6 :: (faultySlot 7 5 ++ t 12 :: (faultySlot 13 0 ++ t 13 ::
          (faultySlot 14 7 ++ [t 21]))) ∧
      (∀ i ∈ [6, 12, 13], (t i).isOperator "," = true) ∧ (t 21).isOperator ")" = true ∧
      ∀ slot ∈ faultySlots, (Cursor.extent [] slot).depth = [] ∧
        (Cursor.extent [] slot).tokens = slot := by decide +kernel
  obtain ⟨parts, commas, closes, whole⟩ := facts
  have run : ∀ slot ∈ faultySlots, Balanced false slot := fun slot mem =>
    Cursor.balanced_of_extent (whole slot mem).1 (whole slot mem).2
  rw [parts]
  exact .more (run _ (by simp [faultySlots])) (commas 6 (by simp))
    (.more (run _ (by simp [faultySlots])) (commas 12 (by simp))
      (.more (run _ (by simp [faultySlots])) (commas 13 (by simp))
        (.last (run _ (by simp [faultySlots])) closes)))

theorem slots_independent_faulty :
    AttributeList.Listed faultySlots (faultyTokens.tokens.drop 1) ∧
    (AttributeList.parse faultyText {}).outcome = .ok () ∧
    ∃ r, (Compile.run {} faultyText).result = .ok r ∧ r.lowered.length = 2 ∧
      List.Forall₂ (Renumbered {}) ((AttributeList.kept faultySlots).flatMap
        (loweredAlone {} faultyTokens.source)) r.lowered := by
  have checks : faultyTokens.tokens =
        faultyTokens.tokens.getD 0 default :: faultyTokens.tokens.drop 1 ∧
      (faultyTokens.tokens.getD 0 default).isOperator "(" = true ∧
      Unreadable.find? faultyText.toList = none ∧ (TokenList.ofSource faultyText {}).isOk = true ∧
      (Compile.run {} faultyText).result.toOption.map (·.lowered.length) = some 2 := by
    decide +kernel
  obtain ⟨starts, opens, clean, cut, count⟩ := checks
  obtain ⟨ok, _, _, _, r, compiled, lowered⟩ :=
    slots_independent (c := {}) (tokensOf_cut cut) clean starts opens faultyTokens_listed
  rw [compiled] at count
  exact ⟨faultyTokens_listed, ok, r, compiled, Option.some.inj count, lowered⟩

/-- A text literal that holds half of a pair. -/
def halfText : String := "(a='" ++ String.singleton (Char.ofNat 0x10f800) ++ "', b=1)"

/-- Half of a pair in one slot, without a null character anywhere, leaves nothing of the list. -/
theorem half_stops_siblings :
    ∃ opener ts slots, (tokensOf halfText).tokens = opener :: ts ∧
      TokenList.ofSource halfText {} = .ok (tokensOf halfText) ∧ '\x00' ∉ halfText.toList ∧
      opener.isOperator "(" = true ∧ AttributeList.Listed slots ts ∧
      ((AttributeList.parse halfText {}).outcome matches .error (.unreadable .half)) = true ∧
      (AttributeList.parse halfText {}).slots = [] := by
  let t (i : Nat) : Token := (tokensOf halfText).tokens.getD i default
  have facts : (tokensOf halfText).tokens =
        t 0 :: ([t 1, t 2, t 3] ++ t 4 :: ([t 5, t 6, t 7] ++ [t 8])) ∧
      (TokenList.ofSource halfText {}).isOk = true ∧ '\x00' ∉ halfText.toList ∧
      (t 0).isOperator "(" = true ∧ (t 4).isOperator "," = true ∧ (t 8).isOperator ")" = true ∧
      (∀ slot ∈ [[t 1, t 2, t 3], [t 5, t 6, t 7]], (Cursor.extent [] slot).depth = [] ∧
        (Cursor.extent [] slot).tokens = slot) ∧
      ((AttributeList.parse halfText {}).outcome matches .error (.unreadable .half)) = true ∧
      (AttributeList.parse halfText {}).slots = [] := by decide +kernel
  obtain ⟨parts, cut, clean, opens, comma, closes, whole, halts, none⟩ := facts
  have run : ∀ slot ∈ [[t 1, t 2, t 3], [t 5, t 6, t 7]], Balanced false slot := fun slot mem =>
    Cursor.balanced_of_extent (whole slot mem).1 (whole slot mem).2
  exact ⟨_, _, _, parts, tokensOf_cut cut, clean, opens,
    .more (run _ (by simp)) comma (.last (run _ (by simp)) closes), halts, none⟩

end Compile

end AttrBinder
