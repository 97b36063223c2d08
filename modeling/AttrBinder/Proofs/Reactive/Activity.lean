import AttrBinder.Proofs.Reactive.Graph
import AttrBinder.Proofs.Reactive.Run

/-!
What is going on in a graph: which trackers run, and which are marked as running. Every task that
ends, by returning or by raising, leaves this as it found it, whatever scripts do
(`perform_restores`).
-/

namespace AttrBinder.Reactive

variable {V C H E : Type} [Inhabited V] [Inhabited C]

/-- The same trackers run in both graphs. -/
structure Graph.SameActivity (g g' : Graph V C) : Prop where
  stack : g'.stack = g.stack
  running : ∀ i, (g'.effect i).running = (g.effect i).running
  computing : ∀ i, (g'.derived i).computing = (g.derived i).computing

namespace Graph

theorem SameActivity.refl (g : Graph V C) : SameActivity g g :=
  ⟨rfl, fun _ => rfl, fun _ => rfl⟩

theorem SameActivity.trans {f g h : Graph V C} (a : SameActivity f g) (b : SameActivity g h) :
    SameActivity f h :=
  ⟨b.stack.trans a.stack, fun i => (b.running i).trans (a.running i),
    fun i => (b.computing i).trans (a.computing i)⟩

theorem sameActivity_modifyWire (g : Graph V C) (i : Nat) (f : Wire V → Wire V) :
    SameActivity g (g.modifyWire i f) :=
  ⟨rfl, fun _ => rfl, fun _ => rfl⟩

theorem sameActivity_modifyDerived (g : Graph V C) (i : Nat) {f : Derived V C → Derived V C}
    (hf : ∀ d, (f d).computing = d.computing) : SameActivity g (g.modifyDerived i f) :=
  ⟨rfl, fun _ => rfl, derived_modifyDerived_of Derived.computing hf g i⟩

theorem sameActivity_modifyEffect (g : Graph V C) (i : Nat) {f : Effect C → Effect C}
    (hf : ∀ e, (f e).running = e.running) : SameActivity g (g.modifyEffect i f) :=
  ⟨rfl, effect_modifyEffect_of Effect.running hf g i, fun _ => rfl⟩

theorem Relinks.sameActivity {g g' : Graph V C} (h : Relinks g g') : SameActivity g g' :=
  ⟨h.stack, h.effect_of Effect.running fun _ _ => rfl,
    h.derived_of Derived.computing fun _ _ _ => rfl⟩

theorem sameActivity_track (g : Graph V C) (s : Source) : SameActivity g (g.track s) :=
  (relinks_track g s).sameActivity

theorem sameActivity_forget (g : Graph V C) (t : Tracker) : SameActivity g (g.forget t) :=
  (relinks_forget g t).sameActivity

theorem sameActivity_dispose (g : Graph V C) (i : Nat) : SameActivity g (g.dispose i) := by
  have marked : SameActivity g (g.modifyEffect i fun e => { e with disposed := true }) :=
    sameActivity_modifyEffect g i fun _ => rfl
  exact marked.trans (relinks_dispose g i).sameActivity

theorem sameActivity_addWire (g : Graph V C) (v : V) : SameActivity g (g.addWire v) :=
  ⟨rfl, fun _ => rfl, fun _ => rfl⟩

theorem sameActivity_addDerived (g : Graph V C) (l : Label) (c : C) :
    SameActivity g (g.addDerived l c) := by
  refine ⟨rfl, fun _ => rfl, ?_⟩
  intro i
  rw [derived_addDerived]
  split
  · rename_i h
    rw [derived_of_size_le (Nat.le_of_eq h.symm)]
    rfl
  · rfl

theorem sameActivity_addEffect (g : Graph V C) (l : Label) (c : C) :
    SameActivity g (g.addEffect l c) := by
  refine ⟨rfl, ?_, fun _ => rfl⟩
  intro i
  rw [effect_addEffect]
  split
  · rename_i h
    rw [effect_of_size_le (Nat.le_of_eq h.symm)]
    rfl
  · rfl

theorem sameActivity_enter (g : Graph V C) : SameActivity g g.enter :=
  ⟨rfl, fun _ => rfl, fun _ => rfl⟩

theorem sameActivity_depart (g : Graph V C) : SameActivity g g.depart :=
  ⟨rfl, fun _ => rfl, fun _ => rfl⟩

theorem sameActivity_tick (g : Graph V C) : SameActivity g g.tick :=
  ⟨rfl, fun _ => rfl, fun _ => rfl⟩

theorem sameActivity_unqueue (g : Graph V C) : SameActivity g g.unqueue :=
  ⟨rfl, fun _ => rfl, fun _ => rfl⟩

theorem sameActivity_enqueue (g : Graph V C) (i : Nat) : SameActivity g (g.enqueue i) :=
  ⟨rfl, fun _ => rfl, fun _ => rfl⟩

theorem SameActivity.pop {g g' : Graph V C} {t : Tracker} (h : SameActivity (g.push t) g') :
    SameActivity g g'.pop := by
  refine ⟨?_, h.running, h.computing⟩
  change g'.stack.tail = g.stack
  rw [h.stack]
  rfl

theorem SameActivity.endComputing {g g' : Graph V C} {i : Nat}
    (hc : (g.derived i).computing = false) (h : SameActivity (g.setComputing i true) g') :
    SameActivity g (g'.setComputing i false) := by
  refine ⟨h.stack, h.running, ?_⟩
  intro j
  have before := h.computing j
  simp only [setComputing, derived_modifyDerived] at before ⊢
  by_cases same : i = j
  · subst j
    rw [hc]
    by_cases present : i < g'.deriveds.size
    · simp only [present, and_self, if_true]
    · simp only [present, and_false, if_false]
      rw [derived_of_size_le (Nat.le_of_not_lt present)]
      rfl
  · simpa only [same, false_and, if_false] using before

theorem SameActivity.endRunning {g g' : Graph V C} (hr : (g.effect i).running = false)
    (h : SameActivity (g.setRunning i true) g') :
    SameActivity g (g'.setRunning i false) := by
  refine ⟨h.stack, ?_, h.computing⟩
  intro j
  have before := h.running j
  simp only [setRunning, effect_modifyEffect] at before ⊢
  by_cases same : i = j
  · subst j
    rw [hr]
    by_cases present : i < g'.effects.size
    · simp only [present, and_self, if_true]
    · simp only [present, and_false, if_false]
      rw [effect_of_size_le (Nat.le_of_not_lt present)]
      rfl
  · simpa only [same, false_and, if_false] using before

end Graph

namespace Run

open Reactive.Graph (SameActivity)

/-- A run that leaves the activity of the graph as it found it. -/
abbrev Restores {α : Type} (m : Run V C H E α) (w : World V C H) : Prop :=
  Ends (fun w w' => SameActivity w.graph w'.graph) m w

theorem restores_pure {α : Type} (a : α) (w : World V C H) :
    Restores (Pure.pure a : Run V C H E α) w :=
  ends_pure (fun w => .refl w.graph) a w

theorem restores_raise {α : Type} (e : E) (w : World V C H) :
    Restores (raise e : Run V C H E α) w :=
  ends_raise (fun w => .refl w.graph) e w

theorem restores_graph (w : World V C H) : Restores (graph : Run V C H E (Graph V C)) w :=
  ends_graph (fun w => .refl w.graph) w

theorem restores_modify {f : Graph V C → Graph V C} (hf : ∀ g, SameActivity g (f g))
    (w : World V C H) : Restores (modify f : Run V C H E Unit) w :=
  ends_modify (hf w.graph)

theorem Restores.bind {α β : Type} {m : Run V C H E α} {f : α → Run V C H E β} {w : World V C H}
    (hm : Restores m w) (hf : ∀ a w', m w = .ok a w' → Restores (f a) w') :
    Restores (m >>= f) w :=
  Ends.bind (K := fun w w' => SameActivity w.graph w'.graph) (fun _ _ _ a b => a.trans b) hm hf

section Parts

variable (Γ : Setting V C H E) {again : Task V C H E → Run V C H E (Option V)}
variable (hagain : ∀ t w, Restores (again t) w)

include hagain

theorem restores_readSource (s : Source) (w : World V C H) :
    Restores (readSource Γ again s) w := by
  cases s with
  | wire i =>
    by_cases present : i < w.graph.wires.size
    · intro w' h
      rw [readSource_wire present] at h
      cases h
      exact Graph.sameActivity_track w.graph _
    · intro w' h
      rw [readSource_absent present] at h
      cases h
      exact .refl _
  | derived i =>
    rw [readSource_derived]
    exact (hagain _ w).bind fun _ w1 _ => restores_pure _ w1

theorem restores_runTracked (t : Tracker) (w : World V C H) :
    Restores (runTracked Γ again t) w := by
  have begun : SameActivity w.graph (w.graph.forget t) := Graph.sameActivity_forget w.graph t
  have inner : Ends (fun _ w' => SameActivity w.graph w'.graph)
      (ensure (again (.script (Γ.body ((w.begin Γ t).graph.body t))))
        fun failure => modify Graph.pop >>= fun _ => notice Γ (.ended t failure))
      (w.begin Γ t) := by
    refine ends_ensure (hagain _ _) ?_
    intro failure w1 h1 w2 h2
    cases h2
    exact begun.trans (SameActivity.pop h1)
  exact inner

theorem restores_executeAll (ts : List Tracker) (w : World V C H) :
    Restores (executeAll again ts) w := by
  induction ts generalizing w with
  | nil => exact restores_pure _ w
  | cons t ts ih => exact (hagain _ w).bind fun _ w1 _ => ih w1

theorem restores_tell (s : Source) (w : World V C H) : Restores (tell Γ again s) w :=
  (restores_graph w).bind fun _ w1 _ =>
    (restores_modify Graph.sameActivity_tick w1).bind fun _ w2 _ =>
      restores_executeAll hagain _ w2

theorem restores_leave (w : World V C H) : Restores (leave again) w :=
  (hagain _ w).bind fun _ w1 _ => restores_pure _ w1

theorem restores_ensure_leave {α : Type} {m : Run V C H E α} (hm : ∀ w, Restores m w)
    (w : World V C H) : Restores (ensure m fun _ => leave again) w :=
  ends_ensure (hm w) fun _ w1 h1 w2 h2 => SameActivity.trans h1 (restores_leave hagain w1 w2 h2)

theorem restores_replaceValue (i : Nat) (old v : V) (w : World V C H) :
    Restores (replaceValue Γ again i old v) w := by
  have stored : SameActivity w.graph (w.assign Γ i old v).graph :=
    Graph.sameActivity_modifyWire w.graph i _
  by_cases inside : ∃ d rest, w.graph.stack = .derived d :: rest
  · obtain ⟨d, rest, hs⟩ := inside
    intro w' h
    rw [replaceValue_inside hs] at h
    cases h
    exact stored
  · intro w' h
    rw [replaceValue_outside fun d rest hs => inside ⟨d, rest, hs⟩] at h
    have told := restores_ensure_leave hagain (restores_tell Γ hagain (.wire i))
      ((w.assign Γ i old v).update Graph.enter) w' h
    exact (stored.trans (Graph.sameActivity_enter _)).trans told

theorem restores_writeWire (i : Nat) (v : V) (w : World V C H) :
    Restores (writeWire Γ again i v) w := by
  by_cases frozen : (w.graph.wire i).frozen = true
  · intro w' h
    rw [writeWire_frozen frozen] at h
    cases h
    exact .refl _
  · intro w' h
    rw [writeWire_apply (Bool.eq_false_iff.mpr frozen)] at h
    refine Restores.bind (hagain _ w) (fun r w1 _ => ?_) w' h
    cases r with
    | none => exact restores_replaceValue Γ hagain i _ v w1
    | some r => exact restores_pure _ w1

theorem restores_compute (i : Nat) {w : World V C H} (hc : (w.graph.derived i).computing = false) :
    Restores (compute Γ again i) w := by
  have inner : Ends (fun _ w' => SameActivity w.graph w'.graph)
      (ensure (runTracked Γ again (.derived i)) fun _ => modify (·.setComputing i false))
      (w.update (·.setComputing i true)) := by
    refine ends_ensure (restores_runTracked Γ hagain _ _) ?_
    intro failure w1 h1 w2 h2
    cases h2
    exact SameActivity.endComputing hc h1
  intro w' h
  rw [compute_apply] at h
  refine Ends.bind (K := fun _ w' => SameActivity w.graph w'.graph) (fun _ _ _ _ h => h) inner
    (fun r w1 h1 => ?_) w' h
  intro w2 h2
  cases h2
  have closed := inner w1 (by rw [h1]; rfl)
  exact closed.trans (Graph.sameActivity_modifyDerived w1.graph i fun _ => rfl)

theorem restores_derivedValue (i : Nat) (w : World V C H) :
    Restores (derivedValue Γ again i) w := by
  intro w' h
  by_cases absent : w.graph.deriveds.size ≤ i
  · rw [derivedValue_absent absent] at h
    cases h
    exact .refl _
  have present : i < w.graph.deriveds.size := Nat.lt_of_not_le absent
  cases hc : (w.graph.derived i).computing with
  | true =>
    rw [derivedValue_circular present hc] at h
    cases h
    exact .refl _
  | false =>
    cases hd : (w.graph.derived i).dirty with
    | false =>
      rw [derivedValue_clean present hc hd] at h
      cases h
      exact Graph.sameActivity_track w.graph _
    | true =>
      rw [derivedValue_dirty present hc hd] at h
      refine Restores.bind (restores_compute Γ hagain i hc) (fun _ w1 _ => ?_) w' h
      intro w2 h2
      cases h2
      exact Graph.sameActivity_track w1.graph _

theorem restores_settle (i n : Nat) (w : World V C H) :
    Restores (settle Γ again i n) w := by
  induction n generalizing w with
  | zero =>
    intro w' h
    rw [settle_zero] at h
    cases h
    exact .refl _
  | succ n ih =>
    have counted : SameActivity w.graph (w.update (·.countRun i)).graph :=
      Graph.sameActivity_modifyEffect w.graph i fun _ => rfl
    intro w' h
    rw [settle_succ] at h
    refine counted.trans ?_
    refine Restores.bind (restores_runTracked Γ hagain _ _) (fun _ w1 _ => ?_) w' h
    refine (restores_graph w1).bind fun g w2 _ => ?_
    split
    · exact ih w2
    · exact restores_pure _ w2

theorem restores_executeEffect (i : Nat) (w : World V C H) :
    Restores (executeEffect Γ again i) w := by
  intro w' h
  cases hd : (w.graph.effect i).disposed with
  | true =>
    rw [executeEffect_disposed hd] at h
    cases h
    exact .refl _
  | false =>
    cases hr : (w.graph.effect i).running with
    | true =>
      rw [executeEffect_running hd hr] at h
      cases h
      exact Graph.sameActivity_modifyEffect w.graph i fun _ => rfl
    | false =>
      by_cases deep : 0 < w.graph.depth
      · rw [executeEffect_waiting hd hr deep] at h
        cases h
        exact Graph.sameActivity_enqueue w.graph i
      · rw [executeEffect_now hd hr deep, runEffect_apply] at h
        refine ends_ensure (K := fun _ w' => SameActivity w.graph w'.graph)
          (restores_settle Γ hagain i _ _) ?_ w' h
        intro failure w1 h1 w2 h2
        cases h2
        exact SameActivity.endRunning hr h1

theorem restores_executeDerived (i : Nat) (w : World V C H) :
    Restores (executeDerived Γ again i) w := by
  intro w' h
  cases hd : (w.graph.derived i).dirty with
  | true =>
    rw [executeDerived_dirty hd] at h
    cases h
    exact .refl _
  | false =>
    rw [executeDerived_clean hd] at h
    have marked : SameActivity w.graph (w.update (·.invalidate i)).graph :=
      Graph.sameActivity_modifyDerived w.graph i fun _ => rfl
    exact marked.trans (restores_tell Γ hagain _ _ w' h)

theorem restores_drain (n : Nat) (failure : Option E) (w : World V C H) :
    Restores (drain Γ again n failure) w := by
  induction n generalizing failure w with
  | zero => exact ends_exhausted w
  | succ n ih =>
    intro w' h
    cases hq : w.graph.queue with
    | nil =>
      rw [drain_nil n failure hq] at h
      cases failure <;> (cases h; exact .refl _)
    | cons i rest =>
      rw [drain_cons n failure hq] at h
      refine (Graph.sameActivity_unqueue w.graph).trans ?_
      refine Restores.bind (hagain _ _).attempt (fun r w1 _ => ?_) w' h
      cases r with
      | ok r => exact ih failure w1
      | error e =>
        change Restores (if Γ.caught e then _ else raise e) w1
        split
        · exact ih _ w1
        · exact restores_raise e w1

theorem restores_leaveBatch (fuel : Nat) (w : World V C H) :
    Restores (leaveBatch Γ again fuel) w := by
  refine (restores_modify Graph.sameActivity_depart w).bind fun _ w1 _ => ?_
  refine (restores_graph w1).bind fun g w2 _ => ?_
  split
  · exact restores_drain Γ hagain fuel none w2
  · exact restores_pure _ w2

theorem restores_exec (s : Script V C H E) (w : World V C H) :
    Restores (exec Γ again s) w := by
  induction s generalizing w with
  | done r => exact restores_pure r w
  | raise e => exact restores_raise e w
  | look next ih => exact ih w.graph w.host w
  | replace h next ih => exact ih { w with host := h }
  | read s next ih =>
    exact (restores_readSource Γ hagain s w).bind fun v w1 _ => ih v w1
  | newWire v next ih =>
    intro w' h
    exact (Graph.sameActivity_addWire w.graph v).trans
      (ih w.graph.wires.size (w.update (·.addWire v)) w' h)
  | write i v next ih => exact (restores_writeWire Γ hagain i v w).bind fun _ w1 _ => ih w1
  | freeze i next ih =>
    intro w' h
    exact (Graph.sameActivity_modifyWire w.graph i _).trans (ih (w.update (·.freeze i)) w' h)
  | newDerived l c next ih =>
    intro w' h
    exact (Graph.sameActivity_addDerived w.graph l c).trans
      (ih w.graph.deriveds.size (w.update (·.addDerived l c)) w' h)
  | newEffect l c next ih =>
    intro w' h
    refine (Graph.sameActivity_addEffect w.graph l c).trans ?_
    exact Restores.bind (hagain _ _) (fun _ w1 _ => ih w.graph.effects.size w1) w' h
  | execute t next ih => exact (hagain _ w).bind fun _ w1 _ => ih w1
  | dispose i next ih =>
    intro w' h
    exact (Graph.sameActivity_dispose w.graph i).trans (ih (w.dispose Γ i) w' h)
  | startBatch next ih =>
    intro w' h
    exact (Graph.sameActivity_enter w.graph).trans (ih (w.update Graph.enter) w' h)
  | endBatch next ih => exact (restores_leave hagain w).bind fun _ w1 _ => ih w1
  | batch body next ihBody ihNext =>
    intro w' h
    refine (Graph.sameActivity_enter w.graph).trans ?_
    exact Restores.bind (restores_ensure_leave hagain ihBody _)
      (fun r w1 _ => ihNext r w1) w' h
  | attempt body next ihBody ihNext =>
    exact Restores.bind (ihBody w).attempt fun r w1 _ => ihNext r w1
  | call c next ih => exact (hagain _ w).bind fun r w1 _ => ih r w1

theorem restores_performWith (fuel : Nat) (t : Task V C H E) (w : World V C H) :
    Restores (performWith Γ again fuel t) w := by
  cases t with
  | script s => exact restores_exec Γ hagain s w
  | execute t =>
    cases t with
    | derived i =>
      exact (restores_executeDerived Γ hagain i w).bind fun _ w1 _ => restores_pure _ w1
    | effect i =>
      exact (restores_executeEffect Γ hagain i w).bind fun _ w1 _ => restores_pure _ w1
  | value i =>
    exact (restores_derivedValue Γ hagain i w).bind fun _ w1 _ => restores_pure _ w1
  | leave =>
    exact (restores_leaveBatch Γ hagain fuel w).bind fun _ w1 _ => restores_pure _ w1

end Parts

theorem perform_restores (Γ : Setting V C H E) (n : Nat) (t : Task V C H E)
    (w : World V C H) : Restores (perform Γ n t) w := by
  induction n generalizing t w with
  | zero => exact ends_exhausted w
  | succ n ih => exact restores_performWith Γ ih (n * n) t w

end Run

end AttrBinder.Reactive
