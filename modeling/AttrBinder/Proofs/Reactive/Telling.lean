import AttrBinder.Proofs.Reactive.Run

/-!
Telling trackers of a change while a batch is open. No code runs then, so nothing is raised, and
wherever the telling stops it has taken few kinds of steps. A relation that these steps keep holds
between the world before and the world after (`Telling.perform`).
-/

namespace AttrBinder.Reactive

variable {V C H E α β : Type}

namespace Run

/-- A run that raises nothing and, wherever it stops, has done what `K` says. -/
def Stays (K : World V C H → World V C H → Prop) (m : Run V C H E α) (w : World V C H) : Prop :=
  match m w with
  | .ok _ w' => K w w'
  | .raised _ _ => False
  | .exhausted w' => K w w'

variable {K : World V C H → World V C H → Prop} {m : Run V C H E α} {w w' : World V C H}

theorem stays_of_ok {a : α} (hm : m w = .ok a w') (h : K w w') : Stays K m w := by
  rw [Stays, hm]
  exact h

theorem Stays.after (trans : ∀ {u v w}, K u v → K v w → K u w)
    (same : m w = m' w') (first : K w w') (later : Stays K m' w') : Stays K m w := by
  unfold Stays at later ⊢
  rw [same]
  cases hw : m' w' with
  | ok a w1 =>
    rw [hw] at later
    exact trans first later
  | raised e w1 =>
    rw [hw] at later
    exact later
  | exhausted w1 =>
    rw [hw] at later
    exact trans first later

theorem Stays.bind {f : α → Run V C H E β} (trans : ∀ {u v w}, K u v → K v w → K u w)
    (hm : Stays K m w) (hf : ∀ a w', K w w' → Stays K (f a) w') : Stays K (m >>= f) w := by
  unfold Stays at hm
  cases hw : m w with
  | ok a w1 =>
    rw [hw] at hm
    exact (hf a w1 hm).after trans (bind_of_ok hw) hm
  | raised e w1 =>
    rw [hw] at hm
    exact hm.elim
  | exhausted w1 =>
    rw [hw] at hm
    rw [Stays, bind_of_exhausted hw]
    exact hm

theorem Stays.yields (hm : Stays K m w) : Yields m w fun _ => K w := by
  unfold Stays at hm
  unfold Yields
  cases hw : m w with
  | ok a w1 =>
    rw [hw] at hm
    exact hm
  | raised e w1 =>
    rw [hw] at hm
    exact hm
  | exhausted w1 => trivial

end Run

variable [Inhabited V] [Inhabited C]

/-- A set of trackers that has, with a derived value, all that is to be told of it. -/
def Delivers (who : Tracker → Prop) (g : Graph V C) : Prop :=
  ∀ d, who (.derived d) → ∀ t ∈ g.subscribers (.derived d), who t

/-- A relation that is kept where trackers of a set are told of a change, in a batch: derived values
are marked, effects that run are asked for another run, and others are queued. -/
structure Telling (Γ : Setting V C H E) (who : Tracker → Prop)
    (K : World V C H → World V C H → Prop) : Prop where
  arrange : ∀ n ts, (∀ t ∈ ts, who t) → ∀ t ∈ Γ.arrange n ts, who t
  refl : ∀ w, K w w
  trans : ∀ {u v w}, K u v → K v w → K u w
  depth : ∀ {w w'}, K w w' → w'.graph.depth = w.graph.depth
  delivers : ∀ {w w'}, K w w' → Delivers who w.graph → Delivers who w'.graph
  tick : ∀ w, K w (w.update Graph.tick)
  invalidate : ∀ {w d}, who (.derived d) → (w.graph.derived d).dirty = false →
    K w (w.update (·.invalidate d))
  requestRun : ∀ {w i}, who (.effect i) → (w.graph.effect i).running = true →
    K w (w.update (·.requestRun i))
  enqueue : ∀ {w i}, who (.effect i) → (w.graph.effect i).running = false →
    K w (w.enqueue Γ i)

namespace Telling

variable {Γ : Setting V C H E} {who : Tracker → Prop} {K : World V C H → World V C H → Prop}
variable (h : Telling Γ who K) {w : World V C H}

include h

theorem executeAll {again : Task V C H E → Run V C H E (Option V)}
    (told : ∀ {t}, who t → ∀ {w}, 0 < w.graph.depth → Delivers who w.graph →
      Run.Stays K (again (.execute t)) w) (ts : List Tracker) (all : ∀ t ∈ ts, who t)
    (deep : 0 < w.graph.depth) (delivers : Delivers who w.graph) :
    Run.Stays K (Run.executeAll again ts) w := by
  induction ts generalizing w with
  | nil => exact Run.stays_of_ok rfl (h.refl w)
  | cons t ts ih =>
    rw [List.forall_mem_cons] at all
    refine (told all.1 deep delivers).bind h.trans fun _ w1 first => ?_
    exact ih all.2 (h.depth first ▸ deep) (h.delivers first delivers)

theorem tell {again : Task V C H E → Run V C H E (Option V)}
    (told : ∀ {t}, who t → ∀ {w}, 0 < w.graph.depth → Delivers who w.graph →
      Run.Stays K (again (.execute t)) w) {s : Source} (all : ∀ t ∈ w.graph.subscribers s, who t)
    (deep : 0 < w.graph.depth) (delivers : Delivers who w.graph) :
    Run.Stays K (Run.tell Γ again s) w := by
  refine Run.Stays.after h.trans (Run.tell_apply s w) (h.tick w) ?_
  exact h.executeAll told _ (h.arrange _ _ all) deep (h.delivers (h.tick w) delivers)

theorem perform (n : Nat) (ht : who t) (deep : 0 < w.graph.depth)
    (delivers : Delivers who w.graph) : Run.Stays K (Run.perform Γ n (.execute t)) w := by
  induction n generalizing t w with
  | zero => exact h.refl w
  | succ n ih =>
    have done (a : Unit) (w : World V C H) :
        Run.Stays K (Pure.pure none : Run V C H E (Option V)) w := Run.stays_of_ok rfl (h.refl w)
    cases t with
    | derived d =>
      refine Run.Stays.bind (m := Run.executeDerived Γ _ d) h.trans ?_ fun a w' _ => done a w'
      cases dirty : (w.graph.derived d).dirty with
      | true => exact Run.stays_of_ok (Run.executeDerived_dirty dirty) (h.refl w)
      | false =>
        have first := h.invalidate ht dirty
        refine Run.Stays.after h.trans (Run.executeDerived_clean dirty) first ?_
        have later := h.delivers first delivers
        exact h.tell (fun ht _ => ih ht) (later d ht) deep later
    | effect i =>
      refine Run.Stays.bind (m := Run.executeEffect Γ _ i) h.trans ?_ fun a w' _ => done a w'
      cases gone : (w.graph.effect i).disposed with
      | true => exact Run.stays_of_ok (Run.executeEffect_disposed gone) (h.refl w)
      | false =>
        cases running : (w.graph.effect i).running with
        | true => exact Run.stays_of_ok (Run.executeEffect_running gone running) (h.requestRun ht running)
        | false =>
          exact Run.stays_of_ok (Run.executeEffect_waiting gone running deep) (h.enqueue ht running)

theorem tell_perform (n : Nat) (all : ∀ t ∈ w.graph.subscribers s, who t)
    (deep : 0 < w.graph.depth) (delivers : Delivers who w.graph) :
    Run.Stays K (Run.tell Γ (Run.perform Γ n) s) w :=
  h.tell (fun ht _ => h.perform n ht) all deep delivers

end Telling

end AttrBinder.Reactive
