import AttrBinder.Proofs.Attribute.Sites

/-!
The search for the end of an expression and the search for the place to resume at, after a fault,
track brackets each in its own way. They agree wherever the expression's brackets match, and where
they do not the second search stays where the first one stopped. So every round of reading a list
ends the reading or takes a token, and the budget of the reading never runs out.
-/

namespace AttrBinder

namespace Cursor

/-- Where the search for the end of an expression stops, with the brackets that are open there: at
the end of the tokens, at a separator outside all brackets, or at a closer of none of the brackets
or of another kind than the innermost. -/
inductive Halts : List String → List Token → Prop
  | finish {depth : List String} : Halts depth []
  | separator {t : Token} {rest : List Token}
      (sign : t.isOperator "," = true ∨ t.isOperator ")" = true) : Halts [] (t :: rest)
  | mismatch {depth : List String} {t : Token} {rest : List Token} (kind : t.kind = .operator)
      (closes : isCloser t.text = true) (other : depth.head? ≠ some t.text) :
      Halts depth (t :: rest)

theorem extent_halts (depth : List String) (ts : List Token) :
    Halts (extent depth ts).depth (extent depth ts).rest := by
  induction ts generalizing depth with
  | nil => exact .finish
  | cons t ts ih =>
    rw [extent.eq_def]
    dsimp only
    split
    next kind =>
      have kind : t.kind = .operator := by simpa using kind
      split
      next stop =>
        obtain ⟨outside, sign⟩ : depth = [] ∧ (t.text = "," ∨ t.text = ")") := by simpa using stop
        subst outside
        exact .separator (by simpa [Token.isOperator, kind] using sign)
      next =>
        split
        · exact ih _
        · split
          next closes =>
            split
            · exact .mismatch kind closes (by simp)
            · split
              · exact ih _
              · next other => exact .mismatch kind closes (by simpa using other)
          · exact ih _
    · exact ih _

/-- The search for a separator does not move from where an expression stops. -/
theorem Halts.fromSeparator_eq (halts : Halts depth ts) :
    fromSeparator (some ")") [] ts = ts := by
  cases halts with
  | finish => rfl
  | separator sign => exact fromSeparator_separator sign
  | mismatch kind closes _ =>
    rw [fromSeparator.eq_def]
    simp [kind, closes, closerOf?_of_isCloser closes]

theorem fromSeparator_eq_rest {ts : List Token} (closed : (extent [] ts).depth = []) :
    fromSeparator (some ")") [] ts = (extent [] ts).rest := by
  have run : Balanced false (extent [] ts).tokens := extent_closing [] ts closed
  calc fromSeparator (some ")") [] ts
      = fromSeparator (some ")") [] ((extent [] ts).tokens ++ (extent [] ts).rest) := by
        rw [extent_append]
    _ = fromSeparator (some ")") [] (extent [] ts).rest :=
        fromSeparator_balanced run [] (by simp) _
    _ = (extent [] ts).rest := (extent_halts [] ts).fromSeparator_eq

end Cursor

theorem AttributeReader.expression_cursor (c : Cursor) :
    (expression.run c).2 = { c with ahead := (Cursor.extent [] c.ahead).rest } := by
  rw [run_expression]
  dsimp only
  split
  · rfl
  · split
    · split <;> rfl
    · rfl

namespace AttributeList

open AttributeReader

/-- What a round of reading a list comes to: a fault ends the reading, or the list is about to be
closed, or a slot and its comma have been read. The slots read so far are in reverse. -/
inductive Round where
  | raised (soFar : List Slot) (halt : Halt) (cursor : Cursor)
  | closing (soFar : List Slot) (cursor : Cursor)
  | again (soFar : List Slot) (cursor : Cursor)

def round (soFar : List Slot) (c : Cursor) : Round :=
  if c.atOperator ")" then .closing soFar c
  else if c.atEnd then .raised soFar (.complaint ⟨.unclosedList, c.peek.span⟩) c
  else
    match slotAt c with
    | .error u => .raised soFar (.unreadable u) (entry.run c).2
    | .ok (slot, c') =>
      match separation c' with
      | .more c'' => .again (slot :: soFar) c''
      | .closing => .closing (slot :: soFar) c'
      | .fault x span => .raised (slot :: soFar) (.complaint ⟨x, span⟩) c'

/-- Reading goes on from a round with the budget that is left. -/
def Round.reading (n : Nat) : Round → ListReading
  | .raised soFar halt c => ⟨soFar.reverse, .error halt, c⟩
  | .closing soFar c => close soFar.reverse c
  | .again soFar c => slots n soFar c

theorem slots_eq_round (n : Nat) (soFar : List Slot) (c : Cursor) :
    slots (n + 1) soFar c = (round soFar c).reading n := by
  unfold round
  split
  next closer =>
    rw [slots_succ]
    exact if_pos closer
  next open_ =>
    split
    next ended =>
      rw [slots_succ]
      exact (if_neg open_).trans (if_pos ended)
    next inside =>
      rw [slots_site (Bool.eq_false_iff.mpr open_) (Bool.eq_false_iff.mpr inside)]
      rcases slotAt c with _ | ⟨slot, c'⟩
      · rfl
      · dsimp only [goOn]
        rcases separation c' with _ | _ | _ <;> rfl

/-- A round raises a fault, or stands at the end of the list, or has taken a slot's tokens and its
comma. -/
theorem round_cases (soFar : List Slot) {c : Cursor} (ends : c.finish.isFinish = true) :
    (∃ later halt c', round soFar c = .raised later halt c') ∨
      (∃ later c', round soFar c = .closing later c' ∧ c'.atOperator ")" = true) ∨
      ∃ later taken rest, taken ≠ [] ∧ c.ahead = taken ++ rest ∧
        round soFar c = .again later { c with ahead := rest } := by
  unfold round
  split
  next closer => exact .inr (.inl ⟨_, _, rfl, closer⟩)
  split
  · exact .inl ⟨_, _, _, rfl⟩
  cases found : slotAt c with
  | error => exact .inl ⟨_, _, _, rfl⟩
  | ok read =>
    obtain ⟨slot, c'⟩ := read
    obtain ⟨source, ts, finish⟩ := c
    obtain ⟨taken, rest, rfl, rfl, -⟩ := slotAt_names ends found
    dsimp only
    obtain ⟨comma, parted⟩ | ⟨closer, parted⟩ | ⟨x, span, parted, -⟩ :=
      separation_cases ⟨source, rest, finish⟩
    · rw [parted]
      cases rest with
      | nil => exact absurd comma (by simp [Cursor.atOperator, isOperator_of_isFinish ends])
      | cons t rest => exact .inr (.inr ⟨_, taken ++ [t], rest, by simp, by simp, rfl⟩)
    · rw [parted]
      exact .inr (.inl ⟨_, _, rfl, closer⟩)
    · rw [parted]
      exact .inl ⟨_, _, _, rfl⟩

/-- A budget of more than the tokens ahead lasts: a greater one gives the same reading. -/
theorem slots_budget {c : Cursor} (ends : c.finish.isFinish = true) (enough : c.ahead.length < n)
    (k : Nat) (soFar : List Slot) : slots (n + k) soFar c = slots n soFar c := by
  induction n generalizing c soFar with
  | zero => exact absurd enough (Nat.not_lt_zero _)
  | succ n ih =>
    rw [Nat.succ_add, slots_eq_round, slots_eq_round]
    obtain ⟨_, _, _, came⟩ | ⟨_, _, came, -⟩ | ⟨later, taken, rest, some, whole, came⟩ :=
      round_cases soFar ends
    · simp only [came, Round.reading]
    · simp only [came, Round.reading]
    · have fewer : rest.length < n := by
        have := List.length_pos_iff.mpr some
        rw [whole, List.length_append] at enough
        omega
      rw [came]
      exact ih (c := { c with ahead := rest }) ends fewer later

/-- An expression that leaves no bracket open ends where resuming would. One that does stopped at
the end or at a closer of another kind, and resuming stays there. Every round of reading raises a
fault, closes the list or takes a token, so that reading comes to its end. -/
theorem resuming_agrees (c : Cursor) :
    let e := Cursor.extent [] c.ahead
    let stopped : Cursor := { c with ahead := e.rest }
    (expression.run c).2 = stopped ∧
      (e.depth = [] → c.skipToSeparator (some ")") = stopped) ∧
      (e.depth ≠ [] → (e.rest = [] ∨ ∃ t rest, e.rest = t :: rest ∧ t.kind = .operator ∧
          isCloser t.text = true ∧ e.depth.head? ≠ some t.text) ∧
        stopped.skipToSeparator (some ")") = stopped) ∧
      (c.finish.isFinish = true → ∀ soFar,
        ((∃ later halt c', round soFar c = .raised later halt c') ∨
          (∃ later c', round soFar c = .closing later c' ∧ c'.atOperator ")" = true) ∨
          ∃ later taken rest, taken ≠ [] ∧ c.ahead = taken ++ rest ∧
            round soFar c = .again later { c with ahead := rest }) ∧
        (∀ n, slots (n + 1) soFar c = (round soFar c).reading n) ∧
        ∀ n k, c.ahead.length < n → slots (n + k) soFar c = slots n soFar c) := by
  have halts := Cursor.extent_halts [] c.ahead
  refine ⟨expression_cursor c, fun closed => ?_, fun opened => ⟨?_, ?_⟩, fun ends soFar =>
    ⟨round_cases soFar ends, (slots_eq_round · soFar c), fun n k enough =>
      slots_budget ends enough k soFar⟩⟩
  · rw [Cursor.skipToSeparator, Cursor.fromSeparator_eq_rest closed]
  · generalize Cursor.extent [] c.ahead = e at halts opened
    obtain ⟨tokens, depth, rest⟩ := e
    cases halts with
    | finish => exact .inl rfl
    | separator => exact absurd rfl opened
    | mismatch kind closes other => exact .inr ⟨_, _, rfl, kind, closes, other⟩
  · rw [Cursor.skipToSeparator, halts.fromSeparator_eq]

/-- The list `(a=f(b, [c]), d=[e), g=h]`, behind some of its tokens. -/
def crossed (k : Nat) : Cursor :=
  let tokens := (TokenList.ofSource "(a=f(b, [c]), d=[e), g=h]" {}).toOption.getD ⟨[], [], default⟩
  ⟨tokens.source, tokens.tokens.drop k, tokens.finish⟩

theorem resuming_agrees_crossed :
    (crossed 3).skipToSeparator (some ")") = crossed 11 ∧
      (crossed 16).skipToSeparator (some ")") = crossed 16 ∧
      (crossed 14).skipToSeparator (some ")") ≠ crossed 16 ∧
      slots 40 [] (crossed 1) = slots 22 [] (crossed 1) := by
  have ran : ((Cursor.extent [] (crossed 3).ahead).depth = [] ∧
      (Cursor.extent [] (crossed 3).ahead).rest = (crossed 11).ahead) ∧
      ((Cursor.extent [] (crossed 14).ahead).depth = ["]"] ∧
        (Cursor.extent [] (crossed 14).ahead).rest = (crossed 16).ahead) ∧
      ((crossed 14).skipToSeparator (some ")")).ahead ≠ (crossed 16).ahead ∧
      (crossed 1).finish.isFinish = true ∧ (crossed 1).ahead.length ≤ 21 := by decide +kernel
  obtain ⟨matched, left, apart, ends, short⟩ := ran
  have stays := ((resuming_agrees (crossed 14)).2.2.1 (by simp [left.1])).2
  rw [left.2] at stays
  have stops := (resuming_agrees (crossed 3)).2.1 matched.1
  rw [matched.2] at stops
  exact ⟨stops, stays, fun same => apart (congrArg Cursor.ahead same),
    ((resuming_agrees (crossed 1)).2.2.2 ends []).2.2 22 18 (by omega)⟩

end AttributeList

end AttrBinder
