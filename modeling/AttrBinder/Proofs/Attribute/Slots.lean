import AttrBinder.Proofs.Attribute.Grammar

/-!
Slots do not depend on each other: what a slot of a list gives is what its own tokens give, and
reading goes on at the separator behind it, whatever was wrong with it.
-/

namespace AttrBinder

def Directive.unplaced : Directive → Directive
  | .plain n => .plain ⟨n.tag, n.more, Diagnostic.nowhere, Diagnostic.nowhere⟩
  | .event e _ => .event e Diagnostic.nowhere
  | .binding p _ => .binding p Diagnostic.nowhere
  | .ref _ => .ref Diagnostic.nowhere

/-- What a slot holds, wherever it stands: a directive with its expression, or a fault. -/
inductive Content where
  | attribute (directive : Directive) (source : String) (expr : Expr)
  | fault (kind : DiagnosticKind)

def Attribute.content (a : Attribute) : Content :=
  .attribute a.directive.unplaced a.source a.expr

def Slot.content : Slot → Content
  | .accepted a => a.content
  | .rejected d => .fault d.kind

theorem Balanced.words (run : Balanced commas ts)
    {ps : List (Token × Token)} (first : ps.map Prod.fst = ts)
    (same : ∀ p ∈ ps, p.1.kind = p.2.kind ∧ p.1.text = p.2.text) :
    Balanced commas (ps.map Prod.snd) := by
  induction run generalizing ps with
  | nil =>
    cases List.map_eq_nil_iff.mp first
    exact .nil
  | plain bare comma _ ih =>
    obtain ⟨p, ps, rfl, rfl, rfl⟩ := List.map_eq_cons_iff.mp first
    obtain ⟨kind, text⟩ := same p (by simp)
    refine .plain ?_ (fun is => comma ?_) (ih rfl fun q mem => same q (by simp [mem]))
    · rw [← bare]
      simp only [Token.isBracket, kind, text]
    · rw [← is]
      simp only [Token.isOperator, kind, text]
  | nested opens closes fits _ _ ihInner ih =>
    obtain ⟨front, back, rfl, opening, closing⟩ := List.map_eq_append_iff.mp first
    obtain ⟨p, inner, rfl, rfl, rfl⟩ := List.map_eq_cons_iff.mp opening
    obtain ⟨q, later, rfl, rfl, rfl⟩ := List.map_eq_cons_iff.mp closing
    obtain ⟨kind, text⟩ := same p (by simp)
    obtain ⟨kind', text'⟩ := same q (by simp)
    rw [kind] at opens
    rw [kind'] at closes
    rw [text, text'] at fits
    have whole := Balanced.nested opens closes fits
      (ihInner rfl fun u mem => same u (by simp [mem]))
      (ih rfl fun u mem => same u (by simp [mem]))
    simpa using whole

namespace AttributeReader

/-- What a slot is cut from, and what stands behind it. -/
structure Surroundings where
  source : List Char
  rest : List Token
  finish : Token
  stops : Stops rest
  ends : finish.isFinish = true

theorem Stops.fromSeparator {rest : List Token} (stops : Stops rest) :
    Cursor.fromSeparator (some ")") [] rest = rest := by
  cases stops with
  | finish => rfl
  | separator sign => exact Cursor.fromSeparator_separator sign

namespace Surroundings

def cursor (x : Surroundings) (ts : List Token) : Cursor :=
  ⟨x.source, ts ++ x.rest, x.finish⟩

theorem isOperator_nil (x : Surroundings) {s : String} (comma : s ≠ ",") (closer : s ≠ ")") :
    (x.cursor []).peek.isOperator s = false :=
  x.stops.isOperator x.ends comma closer

theorem isName_nil (x : Surroundings) : (x.cursor []).peek.isName = false := by
  obtain ⟨source, rest, finish, stops, ends⟩ := x
  cases stops with
  | finish => exact isName_of_isFinish ends
  | separator sign =>
    refine Bool.eq_false_iff.mpr fun word => ?_
    rcases sign with sign | sign <;> exact absurd (Token.isOperator_of_isName word _ ▸ sign) (by simp)

end Surroundings

/-- Tokens in pairs that read alike: with the same words, and with the same text between any two
tokens. -/
structure Alike (source source' : List Char) (ps : List (Token × Token)) : Prop where
  words : ∀ p ∈ ps, p.1.kind = p.2.kind ∧ p.1.text = p.2.text
  single : ∀ p ∈ ps, p.1.upTo p.1 source = p.2.upTo p.2 source'
  between : ps.Pairwise fun p q => p.1.upTo q.1 source = p.2.upTo q.2 source'

namespace Alike

variable {source source' : List Char} {p : Token × Token} {ps : List (Token × Token)}

theorem tail (alike : Alike source source' (p :: ps)) : Alike source source' ps :=
  ⟨fun q mem => alike.words q (List.mem_cons_of_mem _ mem),
    fun q mem => alike.single q (List.mem_cons_of_mem _ mem), (List.pairwise_cons.mp alike.between).2⟩

theorem isOperator (alike : Alike source source' (p :: ps)) (s : String) :
    p.1.isOperator s = p.2.isOperator s := by
  simp [Token.isOperator, alike.words p]

theorem isName (alike : Alike source source' (p :: ps)) : p.1.isName = p.2.isName := by
  simp [Token.isName, alike.words p]

theorem upTo_last (alike : Alike source source' (p :: ps)) :
    p.1.upTo ((ps.map Prod.fst).getLastD p.1) source =
      p.2.upTo ((ps.map Prod.snd).getLastD p.2) source' := by
  cases ps with
  | nil => exact alike.single p (by simp)
  | cons q ps =>
    obtain ⟨last, mem, first, second⟩ : ∃ last ∈ q :: ps,
        ((q :: ps).map Prod.fst).getLastD p.1 = last.1 ∧
        ((q :: ps).map Prod.snd).getLastD p.2 = last.2 := by
      refine ⟨(q :: ps).getLast (by simp), List.getLast_mem _, ?_, ?_⟩ <;>
        simp only [List.getLastD_eq_getLast?, List.getLast?_map,
          List.getLast?_eq_some_getLast (List.cons_ne_nil q ps)] <;> rfl
    rw [first, second]
    exact (List.pairwise_cons.mp alike.between).1 last mem

theorem diagonal (source : List Char) (ts : List Token) :
    Alike source source (ts.map fun t => (t, t)) := by
  refine ⟨?_, ?_, ?_⟩
  · simp
  · simp
  · exact List.pairwise_map.mpr (List.pairwise_of_forall fun _ _ => rfl)

end Alike

theorem Alike.nil : Alike source source' [] :=
  ⟨by simp, by simp, .nil⟩

/-- Cursors in front of what is left of two slots that read alike. -/
inductive Twin (x y : Surroundings) : Cursor → Cursor → Prop
  | mk {ps : List (Token × Token)} (run : Balanced false (ps.map Prod.fst))
      (alike : Alike x.source y.source ps) :
      Twin x y (x.cursor (ps.map Prod.fst)) (y.cursor (ps.map Prod.snd))

theorem Twin.nil (x y : Surroundings) : Twin x y (x.cursor []) (y.cursor []) := by
  have twin : Twin x y (x.cursor (([] : List (Token × Token)).map Prod.fst))
      (y.cursor (([] : List (Token × Token)).map Prod.snd)) := .mk .nil .nil
  exact twin

section Twins

variable {x y : Surroundings} {c c' : Cursor}

theorem Twin.isOperator (twin : Twin x y c c') {s : String} (comma : s ≠ ",") (closer : s ≠ ")") :
    c'.peek.isOperator s = c.peek.isOperator s := by
  cases twin with
  | @mk ps _ alike =>
    cases ps with
    | nil => exact (y.isOperator_nil comma closer).trans (x.isOperator_nil comma closer).symm
    | cons p ps => exact (alike.isOperator s).symm

theorem Twin.isName (twin : Twin x y c c') : c'.peek.isName = c.peek.isName := by
  cases twin with
  | @mk ps _ alike =>
    cases ps with
    | nil => exact y.isName_nil.trans x.isName_nil.symm
    | cons p ps => exact alike.isName.symm

theorem Twin.text (twin : Twin x y c c') (word : c.peek.isName = true) :
    c'.peek.text = c.peek.text := by
  cases twin with
  | @mk ps _ alike =>
    cases ps with
    | nil => exact absurd (x.isName_nil ▸ word) (by simp)
    | cons p ps => exact (alike.words p (by simp)).2.symm

theorem Twin.advance_name (twin : Twin x y c c') (word : c.peek.isName = true) :
    Twin x y c.advance c'.advance := by
  cases twin with
  | @mk ps run alike =>
    cases ps with
    | nil => exact absurd (x.isName_nil ▸ word) (by simp)
    | cons p ps =>
      have bare : p.1.isBracket = false := by
        have kind : p.1.kind = .name := beq_iff_eq.mp word
        simp [Token.isBracket, kind]
      exact .mk (run.tail bare) alike.tail

theorem Twin.advance_sign (twin : Twin x y c c') (sign : c.peek.isOperator s = true)
    (comma : s ≠ ",") (opens : closerOf? s = none) (closes : isCloser s = false) :
    Twin x y c.advance c'.advance := by
  have closer : s ≠ ")" := by
    rintro rfl
    cases closes
  cases twin with
  | @mk ps run alike =>
    cases ps with
    | nil => exact absurd (x.isOperator_nil comma closer ▸ sign) (by simp)
    | cons p ps =>
      have bare : p.1.isBracket = false := by
        have text : p.1.text = s := (Token.isOperator_iff.mp sign).2
        simp [Token.isBracket, text, opens, closes]
      exact .mk (run.tail bare) alike.tail

theorem Twin.skipToSeparator (twin : Twin x y c c') :
    c.skipToSeparator (some ")") = x.cursor [] := by
  cases twin with
  | @mk ps run _ =>
    simp only [Cursor.skipToSeparator, Surroundings.cursor,
      Cursor.fromSeparator_balanced run [] (by simp), x.stops.fromSeparator, List.nil_append]

/-- Two readings that tell the same: results that are related, or faults of one kind somewhere in
the slot. What cannot be read has to be in the source to be met. -/
inductive Agrees (x y : Surroundings) {α : Type} (same : α × Cursor → α × Cursor → Prop) :
    Except Halt α × Cursor → Except Halt α × Cursor → Prop
  | ok {a b : α} {c c' : Cursor} (results : same (a, c) (b, c')) :
      Agrees x y same (.ok a, c) (.ok b, c')
  | fault {d d' : Diagnostic} {c c' : Cursor} (kind : d.kind = d'.kind) (twin : Twin x y c c') :
      Agrees x y same (.error (.complaint d), c) (.error (.complaint d'), c')
  | unreadable {u : Unreadable} {c c' : Cursor} (held : ∃ ch ∈ x.source, u.marks ch = true) :
      Agrees x y same (.error (.unreadable u), c) (.error (.unreadable u), c')

theorem moreSegments_budget {finish : Token} (ends : finish.isFinish = true)
    {ts : List Token} (enough : ts.length ≤ n) (k : Nat) (soFar : List String)
    (last : Token) : (moreSegments (n + k) soFar last).run ⟨source, ts, finish⟩ =
      (moreSegments n soFar last).run ⟨source, ts, finish⟩ := by
  induction n generalizing ts soFar last with
  | zero =>
    cases List.length_eq_zero_iff.mp (Nat.le_zero.mp enough)
    cases k with
    | zero => rfl
    | succ k =>
      rw [Nat.zero_add, run_moreSegments_succ]
      simp only [Cursor.peek_nil, isOperator_of_isFinish ends, Bool.false_eq_true, if_false]
      rfl
  | succ n ih =>
    rw [Nat.succ_add, run_moreSegments_succ, run_moreSegments_succ]
    have fewer : ((ts.drop 1).drop 1).length ≤ n := by
      simp only [List.length_drop]
      omega
    have later := ih fewer ((⟨source, ts, finish⟩ : Cursor).advance.peek.text :: soFar)
      (⟨source, ts, finish⟩ : Cursor).advance.peek
    split
    · split
      · exact later
      · rfl
    · rfl

theorem moreSegments_agrees (n : Nat) (twin : Twin x y c c') (soFar : List String)
    (last last' : Token) :
    Agrees x y (fun p q => p.1.1 = q.1.1 ∧ Twin x y p.2 q.2)
      ((moreSegments n soFar last).run c) ((moreSegments n soFar last').run c') := by
  induction n generalizing c c' soFar last last' with
  | zero => exact .ok ⟨rfl, twin⟩
  | succ n ih =>
    rw [run_moreSegments_succ, run_moreSegments_succ, twin.isOperator (by decide) (by decide)]
    cases sign : c.peek.isOperator "-" with
    | false => exact .ok ⟨rfl, twin⟩
    | true =>
      have next := twin.advance_sign sign (by decide) (by decide) (by decide)
      rw [if_pos rfl, if_pos rfl, next.isName]
      cases word : c.advance.peek.isName with
      | false => exact .fault rfl next
      | true =>
        rw [if_pos rfl, if_pos rfl, next.text word]
        exact ih (next.advance_name word) _ _ _

theorem Twin.ends (twin : Twin x y c c') :
    c.finish.isFinish = true ∧ c'.finish.isFinish = true := by
  cases twin
  exact ⟨x.ends, y.ends⟩

theorem name_agrees (twin : Twin x y c c') :
    Agrees x y (fun p q => p.1.tag = q.1.tag ∧ p.1.more = q.1.more ∧ Twin x y p.2 q.2)
      (name.run c) (name.run c') := by
  rw [run_name, run_name, twin.isName]
  cases word : c.peek.isName with
  | false => exact .fault rfl twin
  | true =>
    have next := twin.advance_name word
    rw [if_pos rfl, if_pos rfl, twin.text word,
      ← moreSegments_budget next.ends.1 (Nat.le_refl _) c'.advance.ahead.length,
      ← moreSegments_budget next.ends.2 (Nat.le_refl _) c.advance.ahead.length,
      Nat.add_comm c'.advance.ahead.length]
    have later := moreSegments_agrees (c.advance.ahead.length + c'.advance.ahead.length) next
      [c.peek.text] c.peek c'.peek
    generalize (moreSegments (c.advance.ahead.length + c'.advance.ahead.length) [c.peek.text]
      c.peek).run c.advance = r at later ⊢
    generalize (moreSegments (c.advance.ahead.length + c'.advance.ahead.length) [c.peek.text]
      c'.peek).run c'.advance = r' at later ⊢
    cases later with
    | ok results => exact .ok ⟨rfl, by rw [results.1], results.2⟩
    | fault kind twin => exact .fault kind twin
    | unreadable held => exact .unreadable held

theorem directive_agrees (twin : Twin x y c c') :
    Agrees x y (fun p q => p.1.unplaced = q.1.unplaced ∧ Twin x y p.2 q.2)
      (directive.run c) (directive.run c') := by
  rw [run_directive, run_directive]
  have named := name_agrees twin
  generalize name.run c = r at named ⊢
  generalize name.run c' = r' at named ⊢
  cases named with
  | fault kind twin => exact .fault kind twin
  | unreadable held => exact .unreadable held
  | @ok n n' c c' results =>
    obtain ⟨tag, more, twin⟩ := results
    dsimp only at tag more twin
    have text : n'.text = n.text := by
      unfold AttributeName.text AttributeName.segments
      rw [tag, more]
    dsimp only
    rw [text, twin.isOperator (by decide) (by decide)]
    cases n.text == "ref" with
    | true => exact .ok ⟨rfl, twin⟩
    | false =>
      cases sign : c.peek.isOperator ":" with
      | false =>
        refine .ok ⟨?_, twin⟩
        simp only [Directive.unplaced, tag, more]
      | true =>
        have next := twin.advance_sign sign (by decide) (by decide) (by decide)
        simp only [Bool.false_eq_true, if_false, if_true]
        cases Qualified.ofWord? n.text with
        | none => exact .fault rfl next
        | some q =>
          dsimp only
          rw [next.isName]
          cases word : c.advance.peek.isName with
          | false => exact .fault rfl next
          | true =>
            refine .ok ⟨?_, next.advance_name word⟩
            cases q <;> simp [qualified, Directive.unplaced, next.text word]

theorem find?_unreadable_eq_none :
    Unreadable.find? cs = none ↔ ∀ u : Unreadable, ∀ ch ∈ cs, u.marks ch = false := by
  simp only [Unreadable.find?, List.find?_eq_none, List.mem_cons, List.not_mem_nil, or_false,
    List.any_eq_true, not_exists, not_and, Bool.not_eq_true]
  exact ⟨fun free u => free u (by cases u <;> simp), fun free u _ => free u⟩

theorem exists_of_unreadable (failed : Expr.parse cs = .error (.unreadable u)) :
    ∃ ch ∈ cs, u.marks ch = true := by
  unfold Expr.parse at failed
  split at failed
  case h_1 found =>
    cases failed
    simpa using List.find?_some found
  case h_2 =>
    dsimp only at failed
    split at failed
    · cases failed
    · split at failed <;> cases failed

theorem mem_of_mem_upTo {first last : Token} (mem : ch ∈ first.upTo last cs) : ch ∈ cs :=
  List.mem_of_mem_take (List.mem_of_mem_drop mem)

theorem expression_agrees (twin : Twin x y c c') :
    Agrees x y (fun p q => p.1.expr = q.1.expr ∧ p.1.source = q.1.source ∧
        p.2 = x.cursor [] ∧ q.2 = y.cursor []) (expression.run c) (expression.run c') := by
  cases twin with
  | @mk ps run alike =>
    cases ps with
    | nil =>
      have none (z : Surroundings) : ∃ d : Diagnostic, d.kind = .expression ∧
          expression.run (z.cursor []) = (.error (.complaint d), z.cursor []) := by
        refine ⟨⟨.expectedExpression (z.cursor []).peek.describe, (z.cursor []).peek.span⟩,
          rfl, ?_⟩
        rw [run_expression]
        simp only [Surroundings.cursor, List.nil_append, z.stops.extent]
      obtain ⟨d, kind, ran⟩ := none x
      obtain ⟨d', kind', ran'⟩ := none y
      rw [List.map_nil, List.map_nil, ran, ran']
      exact .fault (kind.trans kind'.symm) (Twin.nil x y)
    | cons p ps =>
      have ran := @expression_balanced x.source x.finish p.1 (ps.map Prod.fst) x.rest run x.stops
      have ran' := @expression_balanced y.source y.finish p.2 (ps.map Prod.snd) y.rest
        (run.words rfl alike.words) y.stops
      rw [← alike.upTo_last] at ran'
      simp only [List.map_cons, Surroundings.cursor, ran, ran']
      cases parsed : Expr.parse (p.1.upTo ((ps.map Prod.fst).getLastD p.1) x.source) with
      | ok e => exact .ok ⟨rfl, rfl, rfl, rfl⟩
      | error why =>
        cases why with
        | invalid => exact .fault rfl (Twin.nil x y)
        | unreadable u =>
          obtain ⟨ch, mem, marked⟩ := exists_of_unreadable parsed
          exact .unreadable ⟨ch, mem_of_mem_upTo mem, marked⟩

/-- Slots that read alike hold the same. If one of them holds an attribute, its reading ends behind
the slot. -/
theorem entry_agrees (twin : Twin x y c c') :
    Agrees x y (fun p q => p.1.content = q.1.content ∧ p.2 = x.cursor [] ∧ q.2 = y.cursor [])
      (entry.run c) (entry.run c') := by
  rw [run_entry, run_entry]
  generalize c.peek.span = start
  generalize c'.peek.span = start'
  have directed := directive_agrees twin
  generalize directive.run c = r at directed ⊢
  generalize directive.run c' = r' at directed ⊢
  cases directed with
  | fault kind twin => exact .fault kind twin
  | unreadable held => exact .unreadable held
  | @ok d d' c c' results =>
    obtain ⟨same, twin⟩ := results
    dsimp only at same twin ⊢
    rw [twin.isOperator (by decide) (by decide)]
    cases sign : c.peek.isOperator "=" with
    | false => exact .fault rfl twin
    | true =>
      simp only [if_true]
      have valued := expression_agrees
        (twin.advance_sign sign (by decide) (by decide) (by decide))
      generalize expression.run c.advance = r at valued ⊢
      generalize expression.run c'.advance = r' at valued ⊢
      cases valued with
      | fault kind twin => exact .fault kind twin
      | unreadable held => exact .unreadable held
      | ok results =>
        obtain ⟨expr, text, here, there⟩ := results
        refine .ok ⟨?_, here, there⟩
        dsimp only at expr text
        simp only [Attribute.content, same, expr, text]

end Twins

def told : Except Halt Attribute → Option Content
  | .ok a => some a.content
  | .error (.complaint d) => some (.fault d.kind)
  | .error (.unreadable _) => none

theorem Agrees.told_eq (agrees : Agrees x y (fun p q => p.1.content = q.1.content ∧ p.2 = x.cursor [] ∧
      q.2 = y.cursor []) r r') : told r.1 = told r'.1 := by
  cases agrees with
  | ok results => exact congrArg some results.1
  | fault kind _ => exact congrArg (fun k => some (Content.fault k)) kind
  | unreadable _ => rfl

def endToken : Token :=
  ⟨.finish, "", Diagnostic.nowhere, 0, 0⟩

def lone (source : List Char) : Surroundings :=
  ⟨source, [], endToken, .finish, rfl⟩

end AttributeReader

def Slot.alone (source : List Char) (ts : List Token) : Option Content :=
  AttributeReader.told (AttributeReader.entry.run ⟨source, ts, AttributeReader.endToken⟩).1

/-- Slots of two texts with the same words and the same text between any two of their tokens. -/
def Slot.SameText (source : List Char) (ts : List Token) (source' : List Char) (ts' : List Token) :
    Prop :=
  ∃ ps : List (Token × Token), ps.map Prod.fst = ts ∧ ps.map Prod.snd = ts' ∧
    AttributeReader.Alike source source' ps

open AttributeReader in
theorem Slot.alone_eq_of_sameText (run : Balanced false ts)
    (same : Slot.SameText source ts source' ts') :
    Slot.alone source' ts' = Slot.alone source ts := by
  obtain ⟨ps, rfl, rfl, alike⟩ := same
  have agrees := entry_agrees (x := lone source) (y := lone source') (.mk run alike)
  simp only [Surroundings.cursor, lone, List.append_nil] at agrees
  exact agrees.told_eq.symm

namespace AttributeReader

theorem entry_slot (x : Surroundings) {ts : List Token} (run : Balanced false ts)
    (clean : Unreadable.find? x.source = none) :
    (∃ a, entry.run (x.cursor ts) = (.ok a, x.cursor []) ∧
        some a.content = Slot.alone x.source ts) ∨
      ∃ d c, entry.run (x.cursor ts) = (.error (.complaint d), c) ∧
        c.skipToSeparator (some ")") = x.cursor [] ∧
        some (.fault d.kind) = Slot.alone x.source ts := by
  have twin : Twin x (lone x.source) (x.cursor ts) ((lone x.source).cursor ts) := by
    have diagonal := Alike.diagonal x.source ts
    have first : (ts.map fun t => (t, t)).map Prod.fst = ts := by simp [Function.comp_def]
    have second : (ts.map fun t => (t, t)).map Prod.snd = ts := by simp [Function.comp_def]
    have twin : Twin x (lone x.source) _ _ := .mk (by rwa [first]) diagonal
    rwa [first, second] at twin
  have agrees := entry_agrees twin
  have whole : (lone x.source).cursor ts = ⟨x.source, ts, endToken⟩ := by
    simp [Surroundings.cursor, lone]
  rw [whole] at agrees
  unfold Slot.alone
  generalize entry.run (x.cursor ts) = r at agrees ⊢
  generalize entry.run ⟨x.source, ts, endToken⟩ = r' at agrees ⊢
  cases agrees with
  | @ok a b c c' results =>
    obtain ⟨same, here, _⟩ := results
    exact .inl ⟨a, by rw [← here], congrArg some same⟩
  | @fault d d' c c' kind twin =>
    exact .inr ⟨d, c, rfl, twin.skipToSeparator, congrArg (fun k => some (Content.fault k)) kind⟩
  | unreadable held =>
    obtain ⟨ch, mem, marked⟩ := held
    simp [find?_unreadable_eq_none.mp clean _ ch mem] at marked

end AttributeReader

namespace AttributeList

open AttributeReader (Stops Surroundings)

/-- Slots in which brackets match, with commas between them and a closing parenthesis at the end. -/
inductive Listed : List (List Token) → List Token → Prop
  | last {slot : List Token} {closer : Token} (run : Balanced false slot)
      (sign : closer.isOperator ")" = true) : Listed [slot] (slot ++ [closer])
  | more {slot : List Token} {slots : List (List Token)} {comma : Token} {ts : List Token}
      (run : Balanced false slot) (sign : comma.isOperator "," = true) (others : Listed slots ts) :
      Listed (slot :: slots) (slot ++ comma :: ts)

def kept : List (List Token) → List (List Token)
  | [] => []
  | [slot] => if slot.isEmpty then [] else [slot]
  | slot :: next :: slots => slot :: kept (next :: slots)

theorem kept_cons {slot : List Token} {slots : List (List Token)} {ts : List Token}
    (others : Listed slots ts) : kept (slot :: slots) = slot :: kept slots := by
  cases others <;> rfl

theorem head_isOperator {t : Token} {ts : List Token} (run : Balanced false (t :: ts)) :
    t.isOperator ")" = false := by
  refine Bool.eq_false_iff.mpr fun is => ?_
  obtain ⟨kind, text⟩ := Token.isOperator_iff.mp is
  cases run with
  | plain bare _ _ =>
    have closes : isCloser ")" = true := rfl
    simp [Token.isBracket, kind, text, closes] at bare
  | nested _ _ fits _ _ => exact (ne_comma_of_closerOf? fits).2 text

theorem slots_slot (x : Surroundings) {ts : List Token} (run : Balanced false ts)
    (clean : Unreadable.find? x.source = none) (open_ : (x.cursor ts).peek.isOperator ")" = false)
    (inside : (x.cursor ts).peek.isFinish = false) (n : Nat) (soFar : List Slot) :
    ∃ slot : Slot, some slot.content = Slot.alone x.source ts ∧
      slots (n + 1) soFar (x.cursor ts) = goOn n (slot :: soFar) (x.cursor []) := by
  rw [slots_succ]
  simp only [open_, Cursor.atEnd, inside, Bool.false_eq_true, if_false]
  rcases AttributeReader.entry_slot x run clean with ⟨a, ran, same⟩ | ⟨d, c, ran, skips, same⟩
  · exact ⟨.accepted a, same, by rw [ran]⟩
  · refine ⟨.rejected d, same, ?_⟩
    rw [ran]
    dsimp only
    rw [skips]

theorem slots_listed {finish : Token} (ends : finish.isFinish = true)
    (clean : Unreadable.find? source = none) (listed : Listed ls ts)
    (bound : ∀ t ∈ ts, t.isFinish = false) (enough : ls.length ≤ n) (soFar : List Slot) :
    ∃ found : List Slot, slots n soFar ⟨source, ts, finish⟩ =
        ⟨soFar.reverse ++ found, .ok (), ⟨source, [], finish⟩⟩ ∧
      found.map (fun slot => some slot.content) = (kept ls).map (Slot.alone source) := by
  induction listed generalizing n soFar with
  | @last slot closer run sign =>
    obtain ⟨n, rfl⟩ := Nat.exists_eq_succ_of_ne_zero (Nat.ne_of_gt enough)
    cases slot with
    | nil =>
      refine ⟨[], ?_, rfl⟩
      rw [slots_succ]
      simp [sign, close_last ends]
    | cons t slot =>
      have here := slots_slot ⟨source, [closer], finish, .separator (.inr sign), ends⟩ run clean
        (head_isOperator run) (bound t (by simp)) n soFar
      obtain ⟨s, same, ran⟩ := here
      refine ⟨[s], ?_, by simpa [kept] using same⟩
      simp only [Surroundings.cursor] at ran
      rw [ran, List.nil_append, goOn_closer sign, close_last ends]
      simp
  | @more slot slots comma ts run sign others ih =>
    obtain ⟨n, rfl⟩ := Nat.exists_eq_succ_of_ne_zero (Nat.ne_of_gt (Nat.zero_lt_of_lt enough))
    let x : Surroundings := ⟨source, comma :: ts, finish, .separator (.inl sign), ends⟩
    have open_ : (x.cursor slot).peek.isOperator ")" = false := by
      cases slot with
      | nil => exact Token.isOperator_ne sign (by decide)
      | cons t slot => exact head_isOperator run
    have inside : (x.cursor slot).peek.isFinish = false := by
      cases slot with
      | nil => exact bound comma (by simp)
      | cons t slot => exact bound t (by simp)
    obtain ⟨s, same, ran⟩ := slots_slot x run clean open_ inside n soFar
    obtain ⟨found, later, contents⟩ := ih (fun t mem => bound t (by simp [mem]))
      (Nat.le_of_succ_le_succ enough) (s :: soFar)
    refine ⟨s :: found, ?_, ?_⟩
    · simp only [x, Surroundings.cursor] at ran
      rw [ran, List.nil_append, goOn_comma sign, later]
      simp
    · rw [kept_cons others, List.map_cons, List.map_cons, contents, same]

theorem Listed.length_le (listed : Listed ls ts) : ls.length ≤ ts.length := by
  induction listed with
  | last _ _ => simp
  | more _ _ _ ih =>
    simp only [List.length_cons, List.length_append]
    omega

theorem read_listed {source : List Char} {finish opener : Token} (ends : finish.isFinish = true)
    (clean : Unreadable.find? source = none) (opens : opener.isOperator "(" = true) {ls : List (List Token)}
    {ts : List Token} (listed : Listed ls ts) (bound : ∀ t ∈ ts, t.isFinish = false) :
    ∃ found : List Slot,
      read ⟨source, opener :: ts, finish⟩ = ⟨found, .ok (), ⟨source, [], finish⟩⟩ ∧
      found.map (fun slot => some slot.content) = (kept ls).map (Slot.alone source) := by
  rw [read_opener opens]
  exact slots_listed ends clean listed bound (Nat.le_succ_of_le listed.length_le) []

theorem Listed.slot {ls : List (List Token)} {ts : List Token} (listed : Listed ls ts) :
    ∀ slot ∈ ls, Balanced false slot ∧ slot ⊆ ts := by
  induction listed with
  | last run _ =>
    intro slot mem
    cases List.mem_singleton.mp mem
    exact ⟨run, List.subset_append_left _ _⟩
  | more run _ _ ih =>
    intro slot mem
    rcases List.mem_cons.mp mem with rfl | mem
    · exact ⟨run, List.subset_append_left _ _⟩
    · obtain ⟨balanced, inside⟩ := ih slot mem
      exact ⟨balanced, fun t held => List.mem_append_right _ (List.mem_cons_of_mem _ (inside held))⟩

theorem mem_of_mem_kept (mem : slot ∈ kept ls) : slot ∈ ls := by
  fun_induction kept ls with
  | case1 => exact mem
  | case2 => cases mem
  | case3 => exact mem
  | case4 first next slots ih =>
    rcases List.mem_cons.mp mem with rfl | mem
    · simp
    · exact List.mem_cons_of_mem _ (ih mem)

end AttributeList

end AttrBinder
