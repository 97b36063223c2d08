import AttrBinder.Proofs.Reactive.Reading

/-!
Telling subscribers of a change, in a batch. Nothing runs then: effects are queued or asked for
another run, and derived values are marked as out of date. Marking stops at a derived value that is
out of date already; what it marks anew it has passed on to all subscribers (`Spreads.closed`).
-/

namespace AttrBinder.Reactive

variable {V C H E : Type} [Inhabited V] [Inhabited C]

namespace Graph

def Pending (g : Graph V C) (i : Nat) : Prop :=
  i ∈ g.queue ∨ (g.effect i).running = true ∧ (g.effect i).rerun = true

def Marked (g : Graph V C) : Tracker → Prop
  | .derived d => (g.derived d).dirty = true
  | .effect i => (g.effect i).disposed = true ∨ g.Pending i

end Graph

variable [Preorder H]

/-- Subscribers have been told of a change, in a batch. -/
structure Spreads (w w' : World V C (Recorded V C H E)) : Prop where
  wires : w'.graph.wires = w.graph.wires
  deriveds : w'.graph.deriveds.size = w.graph.deriveds.size
  derived : ∀ d, ∃ b, w'.graph.derived d = { w.graph.derived d with dirty := b } ∧
    ((w.graph.derived d).dirty = true → b = true)
  effects : w'.graph.effects.size = w.graph.effects.size
  effect : ∀ i, ∃ b, w'.graph.effect i = { w.graph.effect i with rerun := b } ∧
    ((w.graph.effect i).rerun = true → b = true)
  queue : ∀ i ∈ w.graph.queue, i ∈ w'.graph.queue
  depth : w'.graph.depth = w.graph.depth
  closed : ∀ d, (w.graph.derived d).dirty = false → (w'.graph.derived d).dirty = true →
    ∀ t ∈ w.graph.subscribers (.derived d), w'.graph.Marked t
  openRuns : frames w'.host.past = frames w.host.past
  lastRuns : ∀ t, lastRun t w'.host.past = lastRun t w.host.past
  host : w.host.host ≤ w'.host.host
  overran : Overran w.host.past → Overran w'.host.past
  calm : Overran w'.host.past → Overran w.host.past

namespace Spreads

variable {w w' w'' : World V C (Recorded V C H E)}

theorem marked (h : Spreads w w') (ht : w.graph.Marked t) : w'.graph.Marked t := by
  cases t with
  | derived d =>
    obtain ⟨b, hd, hb⟩ := h.derived d
    rw [Graph.Marked, hd]
    exact hb ht
  | effect i =>
    obtain ⟨b, he, hb⟩ := h.effect i
    rcases ht with gone | queued | ⟨running, rerun⟩
    · exact .inl (by rw [he]; exact gone)
    · exact .inr (.inl (h.queue i queued))
    · exact .inr (.inr (by rw [he]; exact ⟨running, hb rerun⟩))

theorem subscribers (h : Spreads w w') (s : Source) :
    w'.graph.subscribers s = w.graph.subscribers s := by
  cases s with
  | wire i => simp only [Graph.subscribers, Graph.wire, h.wires]
  | derived d =>
    obtain ⟨b, hd, _⟩ := h.derived d
    rw [Graph.subscribers, hd]
    rfl

theorem dependencies (h : Spreads w w') (t : Tracker) :
    w'.graph.dependencies t = w.graph.dependencies t := by
  cases t with
  | derived d =>
    obtain ⟨b, hd, _⟩ := h.derived d
    rw [Graph.dependencies, hd]
    rfl
  | effect i =>
    obtain ⟨b, he, _⟩ := h.effect i
    rw [Graph.dependencies, he]
    rfl

theorem of_still (wires : w'.graph.wires = w.graph.wires)
    (deriveds : w'.graph.deriveds = w.graph.deriveds)
    (effects : w'.graph.effects.size = w.graph.effects.size)
    (effect : ∀ i, ∃ b, w'.graph.effect i = { w.graph.effect i with rerun := b } ∧
      ((w.graph.effect i).rerun = true → b = true))
    (queue : ∀ i ∈ w.graph.queue, i ∈ w'.graph.queue) (depth : w'.graph.depth = w.graph.depth)
    (openRuns : frames w'.host.past = frames w.host.past)
    (lastRuns : ∀ t, lastRun t w'.host.past = lastRun t w.host.past)
    (host : w.host.host ≤ w'.host.host)
    (overran : Overran w.host.past → Overran w'.host.past)
    (calm : Overran w'.host.past → Overran w.host.past) : Spreads w w' := by
  have same (d : Nat) : w'.graph.derived d = w.graph.derived d := by
    simp only [Graph.derived, deriveds]
  refine ⟨wires, by rw [deriveds], ?_, effects, effect, queue, depth, ?_, openRuns, lastRuns, host,
    overran, calm⟩
  · exact fun d => ⟨_, same d, fun h => h⟩
  · intro d clean dirty
    rw [same, clean] at dirty
    cases dirty

theorem refl (w : World V C (Recorded V C H E)) : Spreads w w :=
  of_still rfl rfl rfl (fun _ => ⟨_, rfl, fun h => h⟩) (fun _ h => h) rfl rfl (fun _ => rfl)
    (le_refl _) (fun h => h) fun h => h

theorem tick (w : World V C (Recorded V C H E)) : Spreads w (w.update Graph.tick) :=
  of_still rfl rfl rfl (fun _ => ⟨_, rfl, fun h => h⟩) (fun _ h => h) rfl rfl (fun _ => rfl)
    (le_refl _) (fun h => h) fun h => h

theorem enqueue {Γ : Setting V C H E} (adds : Γ.Adds) (i : Nat)
    (w : World V C (Recorded V C H E)) : Spreads w (w.enqueue Γ.recorded i) := by
  refine of_still rfl rfl rfl (fun _ => ⟨_, rfl, fun h => h⟩) ?_ rfl rfl (fun _ => rfl)
    (adds _ _ _) (fun beyond => beyond.later _) ?_
  · exact fun j hj => Graph.mem_adjoin.mpr (.inr hj)
  · exact fun beyond => (overran_cons.mp beyond).resolve_left fun ⟨_, other⟩ => nomatch other

theorem requestRun (i : Nat) (w : World V C (Recorded V C H E)) :
    Spreads w (w.update (·.requestRun i)) := by
  refine of_still rfl rfl Array.size_modify ?_ (fun _ h => h) rfl rfl (fun _ => rfl)
    (le_refl _) (fun h => h) fun h => h
  intro j
  simp only [World.update, Graph.requestRun, Graph.effect_modifyEffect]
  split
  · exact ⟨true, rfl, fun _ => rfl⟩
  · exact ⟨_, rfl, fun h => h⟩

theorem trans (a : Spreads w w') (b : Spreads w' w'') : Spreads w w'' where
  wires := b.wires.trans a.wires
  deriveds := b.deriveds.trans a.deriveds
  derived d := by
    obtain ⟨x, hx, mx⟩ := a.derived d
    obtain ⟨y, hy, my⟩ := b.derived d
    rw [hx] at hy my
    exact ⟨y, hy, fun h => my (mx h)⟩
  effects := b.effects.trans a.effects
  effect i := by
    obtain ⟨x, hx, mx⟩ := a.effect i
    obtain ⟨y, hy, my⟩ := b.effect i
    rw [hx] at hy my
    exact ⟨y, hy, fun h => my (mx h)⟩
  queue i hi := b.queue i (a.queue i hi)
  depth := b.depth.trans a.depth
  closed d clean dirty t ht := by
    cases between : (w'.graph.derived d).dirty with
    | true => exact b.marked (a.closed d clean between t ht)
    | false => exact b.closed d between dirty t ((a.subscribers (.derived d)).symm ▸ ht)
  openRuns := b.openRuns.trans a.openRuns
  lastRuns t := (b.lastRuns t).trans (a.lastRuns t)
  host := le_trans a.host b.host
  overran h := b.overran (a.overran h)
  calm h := a.calm (b.calm h)

theorem invalidated (clean : (w.graph.derived d).dirty = false)
    (h : Spreads (w.update (·.invalidate d)) w')
    (told : ∀ t ∈ w.graph.subscribers (.derived d), w'.graph.Marked t) : Spreads w w' where
  wires := h.wires
  deriveds := h.deriveds.trans Array.size_modify
  derived j := by
    obtain ⟨b, hj, hb⟩ := h.derived j
    simp only [World.update, Graph.invalidate, Graph.derived_modifyDerived] at hj hb
    split at hj
    · rename_i here
      obtain ⟨rfl, _⟩ := here
      exact ⟨b, hj, fun dirty => by rw [clean] at dirty; cases dirty⟩
    · rename_i elsewhere
      rw [if_neg elsewhere] at hb
      exact ⟨b, hj, hb⟩
  effects := h.effects
  effect := h.effect
  queue := h.queue
  depth := h.depth
  closed j cleanj dirtyj t ht := by
    by_cases same : d = j
    · subst same
      exact told t ht
    · refine h.closed j ?_ dirtyj t ?_
      · simpa [World.update, Graph.invalidate, Graph.derived_modifyDerived, same] using cleanj
      · exact ((Graph.sameLinks_invalidate w.graph d).subscribers (.derived j)).symm ▸ ht
  openRuns := h.openRuns
  lastRuns := h.lastRuns
  host := h.host
  overran := h.overran
  calm := h.calm

end Spreads

namespace Run

section Parts

variable {Γ : Setting V C H E} (adds : Γ.Adds)
variable (told : ∀ n ts t, t ∈ ts → t ∈ Γ.arrange n ts)
variable {again : Task V C (Recorded V C H E) E → Run V C (Recorded V C H E) E (Option V)}
variable (hagain : ∀ (t : Tracker) {w : World V C (Recorded V C H E)}, 0 < w.graph.depth →
  Yields (again (.execute t)) w fun _ w' => Spreads w w' ∧ w'.graph.Marked t)
variable {w : World V C (Recorded V C H E)}

include hagain

theorem marks_executeAll (ts : List Tracker) (deep : 0 < w.graph.depth) :
    Yields (executeAll again ts) w fun _ w' => Spreads w w' ∧ ∀ t ∈ ts, w'.graph.Marked t := by
  induction ts generalizing w with
  | nil => exact yields_of_ok rfl ⟨.refl w, fun _ ht => nomatch ht⟩
  | cons t ts ih =>
    refine (hagain t deep).bind ?_
    rintro _ w1 ⟨first, marked⟩
    refine (ih (first.depth.symm ▸ deep)).mono ?_
    rintro _ w2 ⟨rest, all⟩
    refine ⟨first.trans rest, ?_⟩
    intro t' ht'
    rcases List.mem_cons.mp ht' with rfl | later
    · exact rest.marked marked
    · exact all t' later

include told

theorem marks_tell (s : Source) (deep : 0 < w.graph.depth) :
    Yields (tell Γ.recorded again s) w fun _ w' =>
      Spreads w w' ∧ ∀ t ∈ w.graph.subscribers s, w'.graph.Marked t := by
  rw [Yields, tell_apply]
  have all := marks_executeAll hagain (w := w.update Graph.tick)
    (Γ.arrange w.graph.ticks (w.graph.subscribers s)) deep
  refine all.mono ?_
  rintro _ w' ⟨spread, marked⟩
  exact ⟨(Spreads.tick w).trans spread, fun t ht => marked t (told _ _ t ht)⟩

theorem marks_executeDerived (d : Nat) (deep : 0 < w.graph.depth) :
    Yields (executeDerived Γ.recorded again d) w fun _ w' =>
      Spreads w w' ∧ w'.graph.Marked (.derived d) := by
  cases hd : (w.graph.derived d).dirty with
  | true => exact yields_of_ok (executeDerived_dirty hd) ⟨.refl w, hd⟩
  | false =>
    have present := Graph.derived_lt_of_clean hd
    have dirty : ((w.update (·.invalidate d)).graph.derived d).dirty = true := by
      simp [World.update, Graph.invalidate, Graph.derived_modifyDerived, present]
    rw [Yields, executeDerived_clean hd]
    have all := marks_tell told hagain (w := w.update (·.invalidate d)) (.derived d) deep
    refine all.mono ?_
    rintro _ w' ⟨spread, marked⟩
    have subscribers := (Graph.sameLinks_invalidate w.graph d).subscribers (.derived d)
    exact ⟨spread.invalidated hd fun t ht => marked t (subscribers.symm ▸ ht),
      spread.marked dirty⟩

omit told hagain in
include adds in
theorem marks_executeEffect (i : Nat) (deep : 0 < w.graph.depth) :
    Yields (executeEffect Γ.recorded again i) w fun _ w' =>
      Spreads w w' ∧ w'.graph.Marked (.effect i) := by
  cases hd : (w.graph.effect i).disposed with
  | true => exact yields_of_ok (executeEffect_disposed hd) ⟨.refl w, .inl hd⟩
  | false =>
    have present := Graph.effect_lt_of_not_disposed hd
    cases hr : (w.graph.effect i).running with
    | true =>
      refine yields_of_ok (executeEffect_running hd hr) ⟨.requestRun i w, .inr (.inr ?_)⟩
      simp [World.update, Graph.requestRun, Graph.effect_modifyEffect, present, hr]
    | false =>
      exact yields_of_ok (executeEffect_waiting hd hr deep)
        ⟨.enqueue adds i w, .inr (.inl (Graph.mem_adjoin.mpr (.inl rfl)))⟩

end Parts

theorem perform_marks {Γ : Setting V C H E} (adds : Γ.Adds)
    (told : ∀ n ts t, t ∈ ts → t ∈ Γ.arrange n ts) (n : Nat) (t : Tracker)
    {w : World V C (Recorded V C H E)} (deep : 0 < w.graph.depth) :
    Yields (perform Γ.recorded n (.execute t)) w fun _ w' =>
      Spreads w w' ∧ w'.graph.Marked t := by
  induction n generalizing t w with
  | zero => trivial
  | succ n ih =>
    cases t with
    | derived d =>
      exact (marks_executeDerived told ih d deep).bind fun _ _ h => yields_of_ok rfl h
    | effect i =>
      exact (marks_executeEffect adds i deep).bind fun _ _ h => yields_of_ok rfl h

end Run

end AttrBinder.Reactive
