import AttrBinder.Proofs.Reactive.Activity

/-!
Runs that end. A run is given here for every amount of fuel; it halts if from some amount on it
ends, always in the same way. The rules follow the ways in which runs are put together.
-/

namespace AttrBinder.Reactive

variable {V C H E α β : Type}

namespace Run

/-- From some amount of fuel on the run ends in one way, so that `P` holds of the fault that it
raises, if any, and of the world. -/
def Halts (P : Option E → World V C H → Prop) (m : Nat → Run V C H E α) (w : World V C H) : Prop :=
  ∃ o w', o.ended? = some w' ∧ P o.fault? w' ∧ ∃ N, ∀ n, N ≤ n → m n w = o

section Rules

variable {P Q : Option E → World V C H → Prop} {m : Nat → Run V C H E α} {w w' : World V C H}

theorem halts_of_ok {a : α} (ran : ∀ n, m n w = .ok a w') (holds : P none w') : Halts P m w :=
  ⟨.ok a w', w', rfl, holds, 0, fun n _ => ran n⟩

theorem halts_of_raised {e : E} (ran : ∀ n, m n w = .raised e w') (holds : P (some e) w') :
    Halts P m w :=
  ⟨.raised e w', w', rfl, holds, 0, fun n _ => ran n⟩

theorem Halts.mono (halts : Halts P m w) (implies : ∀ failure w', P failure w' → Q failure w') :
    Halts Q m w := by
  obtain ⟨o, w', ended, holds, N, ran⟩ := halts
  exact ⟨o, w', ended, implies _ w' holds, N, ran⟩

theorem Halts.of_eq {m' : Nat → Run V C H E α} (halts : Halts P m' w') (k : Nat)
    (same : ∀ n, k ≤ n → m n w = m' n w') : Halts P m w := by
  obtain ⟨o, w'', ended, holds, N, ran⟩ := halts
  refine ⟨o, w'', ended, holds, max k N, fun n enough => ?_⟩
  rw [same n (Nat.le_trans (Nat.le_max_left k N) enough)]
  exact ran n (Nat.le_trans (Nat.le_max_right k N) enough)

theorem Halts.shift (halts : Halts P m' w) (same : ∀ n, m (n + 1) w = m' n w) : Halts P m w := by
  obtain ⟨o, w'', ended, holds, N, ran⟩ := halts
  refine ⟨o, w'', ended, holds, N + 1, fun n enough => ?_⟩
  obtain ⟨n, rfl⟩ := Nat.exists_eq_add_of_le' (Nat.le_trans (Nat.le_add_left 1 N) enough)
  rw [same n]
  exact ran n (by omega)

theorem Halts.bind {f : Nat → α → Run V C H E β} (halts : Halts P m w)
    (raised : ∀ e w', P (some e) w' → Q (some e) w')
    (next : ∀ a w', P none w' → Halts Q (fun n => f n a) w') :
    Halts Q (fun n => m n >>= f n) w := by
  obtain ⟨o, w', ended, holds, N, ran⟩ := halts
  cases o with
  | exhausted w' => cases ended
  | raised e w'' =>
    cases ended
    exact ⟨.raised e w', w', rfl, raised e w' holds, N, fun n enough =>
      bind_of_raised (ran n enough)⟩
  | ok a w'' =>
    cases ended
    exact (next a w' holds).of_eq N fun n enough => bind_of_ok (ran n enough)

theorem Halts.attempt_bind {f : Nat → Except E α → Run V C H E β} (halts : Halts P m w)
    (returned : ∀ a w', P none w' → Halts Q (fun n => f n (.ok a)) w')
    (raised : ∀ e w', P (some e) w' → Halts Q (fun n => f n (.error e)) w') :
    Halts Q (fun n => attempt (m n) >>= f n) w := by
  obtain ⟨o, w', ended, holds, N, ran⟩ := halts
  cases o with
  | exhausted w' => cases ended
  | raised e w'' =>
    cases ended
    refine (raised e w' holds).of_eq N fun n enough => ?_
    simp only [bind_apply, attempt, ran n enough]
  | ok a w'' =>
    cases ended
    refine (returned a w' holds).of_eq N fun n enough => ?_
    simp only [bind_apply, attempt, ran n enough]

theorem Halts.ensure (halts : Halts P m w) (close : Nat → Option E → Run V C H E Unit)
    (closes : ∀ former w', P former w' →
      Halts (fun failure => Q (failure.or former)) (fun n => close n former) w') :
    Halts Q (fun n => ensure (m n) (close n)) w := by
  obtain ⟨o, w', ended, holds, N, ran⟩ := halts
  cases o with
  | exhausted w' => cases ended
  | raised e w'' =>
    cases ended
    have closed : Halts Q (fun n => close n (some e) >>= fun _ => (raise e : Run V C H E α)) w' :=
      (closes (some e) w' holds).bind (fun _ _ h => h) fun _ w' h =>
        halts_of_raised (fun _ => rfl) h
    exact closed.of_eq N fun n enough => ensure_of_raised (ran n enough)
  | ok a w'' =>
    cases ended
    have closed : Halts Q (fun n => close n none >>= fun _ => (Pure.pure a : Run V C H E α)) w' :=
      (closes none w' holds).bind (fun _ _ h => h) fun _ w' h => halts_of_ok (fun _ => rfl) h
    exact closed.of_eq N fun n enough => ensure_of_ok (ran n enough)

theorem halts_pure (a : α) (holds : P none w) :
    Halts P (fun _ => (Pure.pure a : Run V C H E α)) w :=
  halts_of_ok (fun _ => rfl) holds

end Rules

theorem halts_perform [Inhabited V] [Inhabited C] {Γ : Setting V C H E}
    {P : Option E → World V C H → Prop} {t : Task V C H E} {w : World V C H}
    (halts : Halts P (fun n => performWith Γ (perform Γ n) (n * n) t) w) :
    Halts P (fun n => perform Γ n t) w :=
  halts.shift fun _ => rfl

end Run

section

variable [Inhabited V] [Inhabited C]

/-- The same trackers with the same code in both graphs. -/
structure Graph.SameCode (g g' : Graph V C) : Prop where
  effects : g'.effects.size = g.effects.size
  effect : ∀ i, (g'.effect i).body = (g.effect i).body
  deriveds : g'.deriveds.size = g.deriveds.size
  derived : ∀ i, (g'.derived i).body = (g.derived i).body

namespace Graph

theorem SameCode.refl (g : Graph V C) : SameCode g g :=
  ⟨rfl, fun _ => rfl, rfl, fun _ => rfl⟩

theorem SameCode.trans {f g h : Graph V C} (a : SameCode f g) (b : SameCode g h) : SameCode f h :=
  ⟨b.effects.trans a.effects, fun i => (b.effect i).trans (a.effect i),
    b.deriveds.trans a.deriveds, fun i => (b.derived i).trans (a.derived i)⟩

theorem sameCode_modifyDerived (g : Graph V C) (i : Nat) (hf : ∀ d, (f d).body = d.body) :
    SameCode g (g.modifyDerived i f) :=
  ⟨rfl, fun _ => rfl, Array.size_modify, derived_modifyDerived_of Derived.body hf g i⟩

theorem sameCode_modifyEffect (g : Graph V C) (i : Nat) (hf : ∀ e, (f e).body = e.body) :
    SameCode g (g.modifyEffect i f) :=
  ⟨Array.size_modify, effect_modifyEffect_of Effect.body hf g i, rfl, fun _ => rfl⟩

theorem Relinks.sameCode {g g' : Graph V C} (h : Relinks g g') : SameCode g g' :=
  ⟨h.effects, h.effect_of Effect.body fun _ _ => rfl, h.deriveds,
    h.derived_of Derived.body fun _ _ _ => rfl⟩

theorem SameCode.body {g g' : Graph V C} (h : SameCode g g') (t : Tracker) :
    g'.body t = g.body t := by
  cases t with
  | derived i => exact h.derived i
  | effect i => exact h.effect i

end Graph

/-- What a part of a run leaves as it was: the trackers, their code and what is going on, the number
of open batches, and outside of batches the queue, unless it has been emptied or the part raises a
fault that no flush catches. -/
structure Calm (Γ : Setting V C H E) (Ok : H → Prop) (w : World V C H) (failure : Option E)
    (w' : World V C H) : Prop where
  host : Ok w'.host
  activity : w.graph.SameActivity w'.graph
  code : w.graph.SameCode w'.graph
  depth : w'.graph.depth = w.graph.depth
  queue : w.graph.depth = 0 → failure.all Γ.caught = true →
    w'.graph.queue = w.graph.queue ∨ w'.graph.queue = []

namespace Calm

variable {Γ : Setting V C H E} {Ok : H → Prop} {failure : Option E} {u v w : World V C H}

theorem refl (host : Ok w.host) : Calm Γ Ok w failure w :=
  ⟨host, .refl _, .refl _, rfl, fun _ _ => .inl rfl⟩

theorem trans (a : Calm Γ Ok u none v) (b : Calm Γ Ok v failure w) : Calm Γ Ok u failure w := by
  refine ⟨b.host, a.activity.trans b.activity, a.code.trans b.code, b.depth.trans a.depth, ?_⟩
  intro outside caught
  rcases b.queue (a.depth.trans outside) caught with same | empty
  · rw [same]
    exact a.queue outside rfl
  · exact .inr empty

/-- A fault that is caught leaves what a return leaves. -/
theorem of_caught (h : Calm Γ Ok w former v) (caught : former.all Γ.caught = true) :
    Calm Γ Ok w failure v :=
  ⟨h.host, h.activity, h.code, h.depth, fun outside _ => h.queue outside caught⟩

theorem or (h : Calm Γ Ok w failure v) (former : Option E) : Calm Γ Ok w (failure.or former) v := by
  cases failure with
  | none => exact h.of_caught rfl
  | some e => exact h

theorem of_relinks (host : Ok w.host) (h : Graph.Relinks v.graph w.graph) :
    Calm Γ Ok v failure w :=
  ⟨host, h.sameActivity, h.sameCode, h.depth, fun _ _ => .inl h.queue⟩

theorem of_graph_eq (host : Ok w.host) (same : w.graph = v.graph) : Calm Γ Ok v failure w :=
  of_relinks host (same ▸ .refl _)

theorem modifyWire (host : Ok w.host) (i : Nat) (f : Wire V → Wire V) :
    Calm Γ Ok w failure (w.update (·.modifyWire i f)) :=
  ⟨host, Graph.sameActivity_modifyWire _ _ _, ⟨rfl, fun _ => rfl, rfl, fun _ => rfl⟩, rfl,
    fun _ _ => .inl rfl⟩

theorem modifyDerived (host : Ok w.host) (i : Nat) (f : Derived V C → Derived V C)
    (computing : ∀ d, (f d).computing = d.computing) (body : ∀ d, (f d).body = d.body) :
    Calm Γ Ok w failure (w.update (·.modifyDerived i f)) :=
  ⟨host, Graph.sameActivity_modifyDerived _ _ computing, Graph.sameCode_modifyDerived _ _ body, rfl,
    fun _ _ => .inl rfl⟩

theorem modifyEffect (host : Ok w.host) (i : Nat) (f : Effect C → Effect C)
    (running : ∀ e, (f e).running = e.running) (body : ∀ e, (f e).body = e.body) :
    Calm Γ Ok w failure (w.update (·.modifyEffect i f)) :=
  ⟨host, Graph.sameActivity_modifyEffect _ _ running, Graph.sameCode_modifyEffect _ _ body, rfl,
    fun _ _ => .inl rfl⟩

end Calm

end

end AttrBinder.Reactive
