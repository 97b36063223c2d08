import AttrBinder.Proofs.Reactive.Run

/-!
Comparing runs under two settings, which differ in what they keep of their host or in their fuel. A
relation that the steps of runs keep, and that holds of the tasks nested in two runs, holds of the
runs.
-/

namespace AttrBinder.Reactive.Run

variable {V C H H' E : Type}

/-- A relation between runs under two settings that their steps keep. A run without fuel is compared
to any run, or if the relation is strict only to itself. -/
structure Likeness (Γ : Setting V C H E) (Γ' : Setting V C H' E) where
  like {α : Type} : Run V C H E α → Run V C H' E α → Prop
  strict : Prop
  fault : Γ.fault = Γ'.fault
  caught : Γ.caught = Γ'.caught
  arrange : Γ.arrange = Γ'.arrange
  pure {α : Type} (a : α) : like (Pure.pure a) (Pure.pure a)
  raise {α : Type} (e : E) : like (α := α) (Run.raise e) (Run.raise e)
  exhausted {α : Type} {m' : Run V C H' E α} (same : strict → m' = Run.exhausted) :
    like Run.exhausted m'
  graph : like Run.graph Run.graph
  modify (f : Graph V C → Graph V C) : like (Run.modify f) (Run.modify f)
  notice (m : Moment V E) : like (Run.notice Γ m) (Run.notice Γ' m)
  bind {α β : Type} {m : Run V C H E α} {m' : Run V C H' E α} {f : α → Run V C H E β}
    {f' : α → Run V C H' E β} (first : like m m') (more : ∀ a, like (f a) (f' a)) :
    like (m >>= f) (m' >>= f')
  attempt {α : Type} {m : Run V C H E α} {m' : Run V C H' E α} (first : like m m') :
    like (Run.attempt m) (Run.attempt m')

namespace Likeness

variable {Γ : Setting V C H E} {Γ' : Setting V C H' E} (L : Likeness Γ Γ')

theorem ensure {α : Type} {m : Run V C H E α} {m' : Run V C H' E α} (first : L.like m m')
    (more : ∀ failure, L.like (close failure) (close' failure)) :
    L.like (Run.ensure m close) (Run.ensure m' close') := by
  refine L.bind (L.attempt first) fun r => ?_
  cases r with
  | ok a => exact L.bind (more none) fun _ => L.pure a
  | error e => exact L.bind (more (some e)) fun _ => L.raise e

theorem refuse {α : Type} (x : Fault) : L.like (α := α) (Run.refuse Γ x) (Run.refuse Γ' x) := by
  unfold Run.refuse
  rw [L.fault]
  exact L.raise _

/-- The relation holds of nested tasks. -/
structure Nested (again : Task V C H E → Run V C H E (Option V))
    (again' : Task V C H' E → Run V C H' E (Option V)) : Prop where
  body : ∀ c, L.like (again (.script (Γ.body c))) (again' (.script (Γ'.body c)))
  same : ∀ a b, L.like (again (.script (Γ.same a b))) (again' (.script (Γ'.same a b)))
  execute : ∀ t, L.like (again (.execute t)) (again' (.execute t))
  value : ∀ i, L.like (again (.value i)) (again' (.value i))
  left : L.like (again .leave) (again' .leave)

namespace Nested

variable [Inhabited V] [Inhabited C] {L}
variable {again : Task V C H E → Run V C H E (Option V)}
variable {again' : Task V C H' E → Run V C H' E (Option V)} (h : L.Nested again again')

include h

omit [Inhabited C] in
theorem readSource (s : Source) : L.like (readSource Γ again s) (readSource Γ' again' s) := by
  cases s with
  | wire i =>
    refine L.bind L.graph fun g => ?_
    by_cases present : i < g.wires.size
    · simp only [present, if_true]
      exact L.bind (L.modify _) fun _ => L.bind (L.notice _) fun _ => L.pure _
    · simp only [present, if_false]
      exact L.pure _
  | derived i => exact L.bind (h.value i) fun _ => L.pure _

theorem runTracked (t : Tracker) : L.like (runTracked Γ again t) (runTracked Γ' again' t) :=
  L.bind (L.modify _) fun _ => L.bind (L.modify _) fun _ => L.bind (L.notice _) fun _ =>
    L.bind L.graph fun g => L.ensure (h.body (g.body t)) fun failure =>
      L.bind (L.modify _) fun _ => L.notice (.ended t failure)

omit [Inhabited V] [Inhabited C] in
theorem executeAll (ts : List Tracker) :
    L.like (executeAll again ts) (executeAll again' ts) := by
  induction ts with
  | nil => exact L.pure _
  | cons t ts ih => exact L.bind (h.execute t) fun _ => ih

theorem tell (s : Source) : L.like (tell Γ again s) (tell Γ' again' s) := by
  refine L.bind L.graph fun g => L.bind (L.modify _) fun _ => ?_
  rw [L.arrange]
  exact h.executeAll _

omit [Inhabited V] [Inhabited C] in
theorem leave : L.like (leave again) (leave again') :=
  L.bind h.left fun _ => L.pure _

theorem replaceValue (i : Nat) (old v : V) :
    L.like (replaceValue Γ again i old v) (replaceValue Γ' again' i old v) := by
  refine L.bind (L.modify _) fun _ => L.bind (L.notice _) fun _ => L.bind L.graph fun g => ?_
  have told : L.like (Run.modify Graph.enter >>= fun _ => Run.ensure (Run.tell Γ again (.wire i))
      fun _ => Run.leave again) (Run.modify Graph.enter >>= fun _ =>
        Run.ensure (Run.tell Γ' again' (.wire i)) fun _ => Run.leave again') :=
    L.bind (L.modify _) fun _ => L.ensure (h.tell _) fun _ => h.leave
  cases hs : g.stack with
  | nil => exact told
  | cons t rest =>
    cases t with
    | derived d => exact L.refuse _
    | effect e => exact told

theorem writeWire (i : Nat) (v : V) :
    L.like (writeWire Γ again i v) (writeWire Γ' again' i v) := by
  refine L.bind L.graph fun g => ?_
  cases (g.wire i).frozen with
  | true => exact L.refuse _
  | false =>
    refine L.bind (h.same (g.wire i).value v) fun r => ?_
    cases r with
    | none => exact h.replaceValue i _ v
    | some r => exact L.pure _

theorem compute (i : Nat) : L.like (compute Γ again i) (compute Γ' again' i) :=
  L.bind (L.modify _) fun _ => L.bind (L.ensure (h.runTracked _) fun _ => L.modify _) fun _ =>
    L.modify _

theorem derivedValue (i : Nat) :
    L.like (derivedValue Γ again i) (derivedValue Γ' again' i) := by
  have read : L.like (Run.modify (·.track (.derived i)) >>= fun _ => Run.graph >>= fun g =>
      Run.notice Γ (.read (.derived i) (g.derived i).cache) >>= fun _ =>
        Pure.pure (g.derived i).cache)
      (Run.modify (·.track (.derived i)) >>= fun _ => Run.graph >>= fun g =>
        Run.notice Γ' (.read (.derived i) (g.derived i).cache) >>= fun _ =>
          Pure.pure (g.derived i).cache) :=
    L.bind (L.modify _) fun _ => L.bind L.graph fun g => L.bind (L.notice _) fun _ => L.pure _
  refine L.bind L.graph fun g => ?_
  by_cases absent : g.deriveds.size ≤ i
  · simp only [absent, if_true]
    exact L.pure _
  · simp only [absent, if_false]
    cases (g.derived i).computing with
    | true => exact L.refuse _
    | false =>
      cases (g.derived i).dirty with
      | false => exact read
      | true => exact L.bind (h.compute i) fun _ => read

theorem settle (i n : Nat) : L.like (settle Γ again i n) (settle Γ' again' i n) := by
  induction n with
  | zero => exact L.bind (L.notice _) fun _ => L.bind L.graph fun g => L.refuse _
  | succ n ih =>
    refine L.bind (L.modify _) fun _ => L.bind (h.runTracked _) fun _ =>
      L.bind L.graph fun g => ?_
    cases (g.effect i).rerun && !(g.effect i).disposed with
    | true => exact ih
    | false => exact L.pure _

theorem executeEffect (i : Nat) :
    L.like (executeEffect Γ again i) (executeEffect Γ' again' i) := by
  refine L.bind L.graph fun g => ?_
  cases (g.effect i).disposed with
  | true => exact L.pure _
  | false =>
    cases (g.effect i).running with
    | true => exact L.modify (·.requestRun i)
    | false =>
      by_cases deep : g.depth > 0
      · simp only [deep, if_true]
        exact L.bind (L.modify _) fun _ => L.notice _
      · simp only [deep, if_false]
        exact L.bind (L.modify _) fun _ => L.ensure (h.settle i _) fun _ => L.modify _

theorem executeDerived (i : Nat) :
    L.like (executeDerived Γ again i) (executeDerived Γ' again' i) := by
  refine L.bind L.graph fun g => ?_
  cases (g.derived i).dirty with
  | true => exact L.pure _
  | false => exact L.bind (L.modify _) fun _ => h.tell _

omit [Inhabited V] [Inhabited C] in
theorem drain (le : n ≤ n') (same : L.strict → n' = n) (failure : Option E) :
    L.like (drain Γ again n failure) (drain Γ' again' n' failure) := by
  induction n generalizing n' failure with
  | zero => exact L.exhausted fun strict => by rw [same strict]; rfl
  | succ n ih =>
    obtain ⟨n', rfl⟩ : ∃ l, n' = l + 1 := ⟨n' - 1, by omega⟩
    have rest := ih (Nat.le_of_succ_le_succ le) fun strict => Nat.succ.inj (same strict)
    refine L.bind L.graph fun g => ?_
    cases g.queue with
    | nil =>
      cases failure with
      | none => exact L.pure _
      | some e => exact L.raise _
    | cons i more =>
      refine L.bind (L.modify _) fun _ => L.bind (L.notice _) fun _ =>
        L.bind (L.attempt (h.execute (.effect i))) fun r => ?_
      cases r with
      | ok r => exact rest failure
      | error e =>
        simp only [L.caught]
        split
        · exact rest _
        · exact L.raise _

theorem performWith_execute (n n' : Nat) (t : Tracker) :
    L.like (performWith Γ again n (.execute t)) (performWith Γ' again' n' (.execute t)) := by
  cases t with
  | derived i => exact L.bind (h.executeDerived i) fun _ => L.pure _
  | effect i => exact L.bind (h.executeEffect i) fun _ => L.pure _

theorem performWith_value (n n' i : Nat) :
    L.like (performWith Γ again n (.value i)) (performWith Γ' again' n' (.value i)) :=
  L.bind (h.derivedValue i) fun _ => L.pure _

theorem performWith_leave (le : n ≤ n') (same : L.strict → n' = n) :
    L.like (performWith Γ again n .leave) (performWith Γ' again' n' .leave) := by
  refine L.bind (L.bind (L.modify _) fun _ => L.bind L.graph fun g => ?_) fun _ => L.pure _
  by_cases flat : g.depth = 0
  · simp only [flat, if_true]
    exact h.drain le same none
  · simp only [flat, if_false]
    exact L.pure _

end Nested

end Likeness

end AttrBinder.Reactive.Run
