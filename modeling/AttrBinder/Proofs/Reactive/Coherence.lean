import AttrBinder.Proofs.Reactive.Marking

/-!
The invariant of consistency. In a coherent world every derived value that is up to date is settled,
and every effect either waits to run or has seen, in its last run, what is settled now. An effect
that has just been taken to run is exempt until its run begins. Each step of a run, writes with all
that they mark included, keeps this.
-/

namespace AttrBinder.Reactive

variable {V C H E : Type}

def seen (past : List (Sight V C E)) (i : Nat) : Option (List (Source × V)) :=
  match (frames past).find? fun fr => fr.tracker = .effect i with
  | some fr => some fr.reads
  | none => lastRun (.effect i) past

theorem seen_of_open {past : List (Sight V C E)} {fr : Frame V} {outer : List (Frame V)} {i : Nat}
    (h : frames past = fr :: outer) (ht : fr.tracker = .effect i) :
    seen past i = some fr.reads := by
  simp [seen, h, ht]

theorem seen_of_closed (h : ∀ fr ∈ frames past, fr.tracker ≠ .effect i) :
    seen past i = lastRun (.effect i) past := by
  have none_open : (frames past).find? (fun fr => fr.tracker = .effect i) = none :=
    List.find?_eq_none.mpr fun fr hfr => by simpa using h fr hfr
  simp only [seen, none_open]

variable [Inhabited V] [Inhabited C] [Preorder H] (S : Sheet V C H) (Γ : Setting V C H E)

/-- An effect has seen, for every source that it has read, what is settled now. -/
def Current (w : World V C (Recorded V C H E)) (i : Nat) : Prop :=
  ∃ L, seen w.host.past i = some L ∧ ∀ s v, (s, v) ∈ L →
    s ∈ w.graph.dependencies (.effect i) ∧ S.Settled Γ w.graph s v

/-- Derived values are settled and effects wait or are current, but for one effect at most. Once an
effect has asked for too many runs nothing is said of effects. -/
structure Coherent (exempt : Option Nat) (w : World V C (Recorded V C H E)) : Prop where
  sober : Sober S Γ w
  idle : ∀ d, (w.graph.derived d).computing = false
  depth : 0 ≤ w.graph.depth
  effects : ¬ Overran w.host.past → ∀ i, some i ≠ exempt → (w.graph.effect i).disposed = false →
    w.graph.Pending i ∨ Current S Γ w i

omit [Inhabited V] [Inhabited C] in
theorem seen_began {t : Tracker} {i : Nat} (h : t ≠ .effect i) (g : Graph V C)
    (past : List (Sight V C E)) : seen (⟨some (.began t), g⟩ :: past) i = seen past i := by
  simp [seen, frames, Moment.reframe, lastRun, h]

omit [Inhabited V] [Inhabited C] in
theorem seen_ended (h : frames past = fr :: outer) (ht : fr.tracker = .effect i)
    (closed : ∀ fr' ∈ outer, fr'.tracker ≠ .effect i) (failure : Option E) (g : Graph V C)
    (j : Nat) : seen (⟨some (.ended (.effect i) failure), g⟩ :: past) j = seen past j := by
  by_cases same : j = i
  · subst same
    rw [seen_of_open h ht, seen_of_closed (by simpa [frames, Moment.reframe, h] using closed)]
    simp [lastRun, h]
  · have other : Tracker.effect i ≠ .effect j := fun e => same (Tracker.effect.inj e).symm
    simp [seen, frames, Moment.reframe, lastRun, h, ht, other]

omit [Inhabited V] [Inhabited C] in
theorem seen_disposed (i j : Nat) (g : Graph V C) (past : List (Sight V C E)) :
    seen (⟨some (.disposed i), g⟩ :: past) j = seen past j := by
  have same : (fun fr : Frame V => decide (fr.tracker = .effect j)) ∘ Frame.disposeIf i =
      fun fr => decide (fr.tracker = .effect j) := by
    funext fr
    simp only [Function.comp_apply, Frame.tracker_disposeIf]
  simp only [seen, frames, Moment.reframe, List.find?_map, same, lastRun]
  cases (frames past).find? fun fr => decide (fr.tracker = .effect j) with
  | none => rfl
  | some fr => exact congrArg some (Frame.reads_disposeIf i fr)

/-- Two graphs that differ in effects, links to subscribers and progress at most. -/
structure Graph.Aside (g g' : Graph V C) : Prop where
  wires : g'.wires.size = g.wires.size
  wire : ∀ i, ∃ ts, g'.wire i = { g.wire i with subscribers := ts }
  deriveds : g'.deriveds.size = g.deriveds.size
  derived : ∀ d, ∃ ts, g'.derived d = { g.derived d with subscribers := ts }

namespace Graph

theorem aside_of_eq {g g' : Graph V C} (wires : g'.wires = g.wires)
    (deriveds : g'.deriveds = g.deriveds) : Aside g g' := by
  refine ⟨by rw [wires], fun i => ⟨(g.wire i).subscribers, ?_⟩, by rw [deriveds],
    fun d => ⟨(g.derived d).subscribers, ?_⟩⟩
  · simp only [wire, wires]
  · simp only [derived, deriveds]

theorem aside_forget (g : Graph V C) (i : Nat) : Aside g (g.forget (.effect i)) := by
  have links := relinks_forget g (.effect i)
  refine ⟨links.wires, links.wire, links.deriveds, fun d => ?_⟩
  obtain ⟨ss, ts, hd⟩ := links.derived d
  have same : (g.forget (.effect i)).dependencies (.derived d) = g.dependencies (.derived d) := by
    rw [dependencies_forget, if_neg (by simp)]
  refine ⟨ts, ?_⟩
  simp only [dependencies, hd] at same
  rw [hd, same]

theorem aside_push (g : Graph V C) (t : Tracker) : Aside g (g.push t) :=
  aside_of_eq rfl rfl

omit [Inhabited V] in
@[simp] theorem pending_push (g : Graph V C) (t : Tracker) (i : Nat) :
    (g.push t).Pending i ↔ g.Pending i := Iff.rfl

theorem Relinks.pending {g g' : Graph V C} (h : Relinks g g') (i : Nat) :
    g'.Pending i ↔ g.Pending i := by
  rw [Pending, Pending, h.queue, h.effect_of Effect.running fun _ _ => rfl,
    h.effect_of Effect.rerun fun _ _ => rfl]

omit [Inhabited V] in
theorem pending_modifyEffect_of_ne {g : Graph V C} (h : i ≠ j) :
    (g.modifyEffect i f).Pending j ↔ g.Pending j := by
  simp only [Pending, effect_modifyEffect, h, false_and, if_false]
  rfl

theorem Aside.trans {f g h : Graph V C} (a : Aside f g) (b : Aside g h) : Aside f h where
  wires := b.wires.trans a.wires
  wire i := by
    obtain ⟨ts, ha⟩ := a.wire i
    obtain ⟨ts', hb⟩ := b.wire i
    exact ⟨ts', by rw [hb, ha]⟩
  deriveds := b.deriveds.trans a.deriveds
  derived d := by
    obtain ⟨ts, ha⟩ := a.derived d
    obtain ⟨ts', hb⟩ := b.derived d
    exact ⟨ts', by rw [hb, ha]⟩

theorem Aside.values {g g' : Graph V C} (h : Aside g g') : g'.values = g.values := by
  funext i
  obtain ⟨ts, hw⟩ := h.wire i
  simp only [Graph.values, hw]

theorem Aside.derived_of {α : Type} {g g' : Graph V C} (h : Aside g g') (π : Derived V C → α)
    (hπ : ∀ x ts, π { x with subscribers := ts } = π x) (d : Nat) :
    π (g'.derived d) = π (g.derived d) := by
  obtain ⟨ts, hd⟩ := h.derived d
  rw [hd]
  exact hπ _ ts

theorem Aside.firm {g g' : Graph V C} (h : Aside g g') : Firm g g' := by
  refine ⟨h.values, fun d clean => ?_⟩
  obtain ⟨ts, hd⟩ := h.derived d
  rw [hd]
  exact ⟨clean, rfl, fun _ hs => hs⟩

end Graph

variable {S Γ} {w w' : World V C (Recorded V C H E)}

theorem Sober.aside (h : Sober S Γ w) (tracked : Tracked w')
    (host : w.host.host ≤ w'.host.host) (a : w.graph.Aside w'.graph)
    (action : ∀ i, i < w'.graph.effects.size → S.action (w'.graph.effect i).body) :
    Sober S Γ w' where
  tracked := tracked
  host := le_trans h.host host
  fits :=
    { wires := a.wires.trans h.fits.wires
      deriveds := a.deriveds.trans h.fits.deriveds
      formula := fun d hd =>
        (a.derived_of Derived.body (fun _ _ => rfl) d).trans (h.fits.formula d hd)
      holds := a.values ▸ h.fits.holds
      thawed := fun i => by
        obtain ⟨ts, hw⟩ := a.wire i
        rw [hw]
        exact h.fits.thawed i
      action := action }
  settled d hd clean := by
    rw [a.derived_of Derived.dirty (fun _ _ => rfl)] at clean
    rw [a.derived_of Derived.cache (fun _ _ => rfl)]
    exact (h.settled d hd clean).firm a.firm
  computing d hc := by
    rw [a.derived_of Derived.computing (fun _ _ => rfl)] at hc
    rw [a.derived_of Derived.dirty (fun _ _ => rfl)]
    exact h.computing d hc

theorem Current.aside {i : Nat} (h : Current S Γ w i) (f : w.graph.Firm w'.graph)
    (same : seen w'.host.past i = seen w.host.past i)
    (linked : ∀ s ∈ w.graph.dependencies (.effect i), s ∈ w'.graph.dependencies (.effect i)) :
    Current S Γ w' i := by
  obtain ⟨L, hL, rests⟩ := h
  refine ⟨L, same.trans hL, fun s v hv => ?_⟩
  exact ⟨linked s (rests s v hv).1, (rests s v hv).2.firm f⟩

theorem seen_reads {L K : List (Source × V)} {i : Nat} (r : Reads S Γ L w w')
    (hK : seen w.host.past i = some K) : seen w'.host.past i = some K ∨
      ∃ rest, w.graph.stack = .effect i :: rest ∧ seen w'.host.past i = some (L.reverse ++ K) := by
  have stack : w.graph.stack = (frames w.host.past).map Frame.tracker := by
    have after := r.sober.tracked.stack
    rw [r.activity.stack, r.openRuns] at after
    rw [after]
    cases frames w.host.past <;> rfl
  have opened := r.openRuns
  cases hf : frames w.host.past with
  | nil =>
    rw [hf] at opened
    left
    rw [← hK]
    simp only [seen, opened, hf, List.modifyHead_nil, r.lastRuns]
  | cons fr outer =>
    rw [hf] at opened
    by_cases top : fr.tracker = .effect i
    · right
      rw [seen_of_open hf top] at hK
      refine ⟨outer.map Frame.tracker, by rw [stack, hf, List.map_cons, top], ?_⟩
      have reads := Option.some.inj hK
      rw [seen_of_open opened top, ← reads]
      rfl
    · left
      rw [← hK]
      have top' : (Frame.addAll L fr).tracker ≠ .effect i := top
      simp only [seen, opened, hf, List.modifyHead_cons, List.find?_cons, top, top', decide_false,
        r.lastRuns]

namespace Coherent

variable {exempt exempt' : Option Nat} {i : Nat}

theorem weaken (h : Coherent S Γ none w) : Coherent S Γ exempt w :=
  ⟨h.sober, h.idle, h.depth, fun calm i _ live => h.effects calm i (by simp) live⟩

theorem disposed (h : Coherent S Γ (some i) w) (gone : (w.graph.effect i).disposed = true) :
    Coherent S Γ none w := by
  refine ⟨h.sober, h.idle, h.depth, fun calm j _ live => h.effects calm j ?_ live⟩
  rintro ⟨⟩
  rw [gone] at live
  cases live

/-- A step that touches effects, links to subscribers and progress only. What each effect has to
show is that it waits, or is current, or was spoken of before and has not been touched. -/
theorem aside (h : Coherent S Γ exempt w) (tracked : Tracked w')
    (host : w.host.host ≤ w'.host.host) (a : w.graph.Aside w'.graph)
    (action : ∀ i, i < w'.graph.effects.size → S.action (w'.graph.effect i).body)
    (depth : 0 ≤ w'.graph.depth)
    (effects : ¬ Overran w'.host.past → ¬ Overran w.host.past ∧ ∀ i, some i ≠ exempt' →
      (w'.graph.effect i).disposed = false → w'.graph.Pending i ∨ Current S Γ w' i ∨
        some i ≠ exempt ∧ (w.graph.effect i).disposed = false ∧
        (w.graph.Pending i → w'.graph.Pending i) ∧
        seen w'.host.past i = seen w.host.past i ∧
        ∀ s ∈ w.graph.dependencies (.effect i), s ∈ w'.graph.dependencies (.effect i)) :
    Coherent S Γ exempt' w' where
  sober := h.sober.aside tracked host a action
  idle d := (a.derived_of Derived.computing (fun _ _ => rfl) d).trans (h.idle d)
  depth := depth
  effects calm i spoken live := by
    obtain ⟨calm', each⟩ := effects calm
    obtain pending | current | ⟨spoken', live', pending, same, linked⟩ := each i spoken live
    · exact .inl pending
    · exact .inr current
    · obtain waits | current := h.effects calm' i spoken' live'
      · exact .inl (pending waits)
      · exact .inr (current.aside a.firm same linked)

theorem modifyEffect (h : Coherent S Γ exempt w) {i : Nat} {f : Effect C → Effect C}
    (tracked : Tracked (w.update (·.modifyEffect i f))) (body : ∀ e, (f e).body = e.body)
    (disposed : ∀ e, (f e).disposed = e.disposed)
    (linked : ∀ e, (f e).dependencies = e.dependencies)
    (effects : ¬ Overran w.host.past → ∀ j, some j ≠ exempt' → (w.graph.effect j).disposed = false →
      (w.graph.modifyEffect i f).Pending j ∨
        some j ≠ exempt ∧ (w.graph.Pending j → (w.graph.modifyEffect i f).Pending j)) :
    Coherent S Γ exempt' (w.update (·.modifyEffect i f)) := by
  refine h.aside tracked (le_refl _) (Graph.aside_of_eq rfl rfl) ?_ h.depth fun calm => ⟨calm, ?_⟩
  · intro j hj
    have there : j < w.graph.effects.size := by
      simpa [World.update, Graph.modifyEffect] using hj
    change S.action ((w.graph.modifyEffect i f).effect j).body
    rw [Graph.effect_modifyEffect_of Effect.body body]
    exact h.sober.fits.action j there
  · intro j spoken live
    have live' : (w.graph.effect j).disposed = false :=
      (Graph.effect_modifyEffect_of Effect.disposed disposed w.graph i j).symm.trans live
    obtain pending | ⟨spoken', pending⟩ := effects calm j spoken live'
    · exact .inl pending
    · refine .inr (.inr ⟨spoken', live', pending, rfl, fun s hs => ?_⟩)
      change s ∈ ((w.graph.modifyEffect i f).effect j).dependencies
      rw [Graph.effect_modifyEffect_of Effect.dependencies linked]
      exact hs

theorem requestRun (h : Coherent S Γ (some i) w)
    (running : (w.graph.effect i).running = true) :
    Coherent S Γ none (w.update (·.requestRun i)) := by
  have present : i < w.graph.effects.size := Graph.Active.hasTracker (t := .effect i) running
  refine h.modifyEffect (h.sober.tracked.requestRun i) (fun _ => rfl) (fun _ => rfl)
    (fun _ => rfl) fun _ j _ _ => ?_
  by_cases same : i = j
  · subst same
    refine .inl (.inr ?_)
    simp [Graph.effect_modifyEffect, present, running]
  · refine .inr ⟨fun hj => same (Option.some.inj hj).symm, ?_⟩
    exact (Graph.pending_modifyEffect_of_ne same).mpr

theorem setRunning (h : Coherent S Γ exempt w) (idle : Tracker.effect i ∉ w.graph.stack) :
    Coherent S Γ exempt (w.update (·.setRunning i true)) := by
  refine h.modifyEffect (h.sober.tracked.setRunning i true idle) (fun _ => rfl) (fun _ => rfl)
    (fun _ => rfl) fun _ j spoken _ => .inr ⟨spoken, ?_⟩
  rintro (queued | ⟨running, rerun⟩)
  · exact .inl queued
  · refine .inr ?_
    rw [Graph.effect_modifyEffect]
    split
    · exact ⟨rfl, rerun⟩
    · exact ⟨running, rerun⟩

theorem unsetRunning (h : Coherent S Γ none w) (idle : Tracker.effect i ∉ w.graph.stack)
    (settled : (w.graph.effect i).rerun = false ∨ (w.graph.effect i).disposed = true ∨
      Overran w.host.past) : Coherent S Γ none (w.update (·.setRunning i false)) := by
  refine h.modifyEffect (h.sober.tracked.setRunning i false idle) (fun _ => rfl) (fun _ => rfl)
    (fun _ => rfl) fun calm j _ live => .inr ⟨by simp, ?_⟩
  by_cases same : i = j
  · subst same
    have still : (w.graph.effect i).rerun = false := by
      rcases settled with still | gone | beyond
      · exact still
      · rw [live] at gone
        cases gone
      · exact absurd beyond calm
    rintro (queued | ⟨_, rerun⟩)
    · exact .inl queued
    · rw [still] at rerun
      cases rerun
  · exact (Graph.pending_modifyEffect_of_ne same).mpr

theorem countRun (h : Coherent S Γ (some i) w) :
    Coherent S Γ (some i) (w.update (·.countRun i)) := by
  refine h.modifyEffect (h.sober.tracked.countRun i) (fun _ => rfl) (fun _ => rfl)
    (fun _ => rfl) fun _ j spoken _ => .inr ⟨spoken, ?_⟩
  have other : i ≠ j := by
    rintro rfl
    exact spoken rfl
  exact (Graph.pending_modifyEffect_of_ne other).mpr

theorem redepth (h : Coherent S Γ exempt w) (wires : (f w.graph).wires = w.graph.wires)
    (deriveds : (f w.graph).deriveds = w.graph.deriveds)
    (effects : (f w.graph).effects = w.graph.effects) (stack : (f w.graph).stack = w.graph.stack)
    (queue : (f w.graph).queue = w.graph.queue) (depth : 0 ≤ (f w.graph).depth) :
    Coherent S Γ exempt (w.update f) := by
  have same : (f w.graph).effect = w.graph.effect := by
    funext i
    simp only [Graph.effect, effects]
  refine h.aside (h.sober.tracked.progress wires deriveds effects stack) (le_refl _)
    (Graph.aside_of_eq wires deriveds) ?_ depth fun calm => ⟨calm, fun i spoken live => ?_⟩
  · intro i hi
    change S.action ((f w.graph).effect i).body
    rw [same]
    exact h.sober.fits.action i (effects ▸ hi)
  · refine .inr (.inr ⟨spoken, ?_, ?_, rfl, ?_⟩)
    · exact (congrFun same i) ▸ live
    · simp only [Graph.Pending, World.update, queue, same]
      exact fun waits => waits
    · intro s hs
      change s ∈ ((f w.graph).effect i).dependencies
      rw [same]
      exact hs

theorem enter (h : Coherent S Γ none w) : Coherent S Γ none (w.update Graph.enter) :=
  h.redepth rfl rfl rfl rfl rfl (by have := h.depth; change 0 ≤ w.graph.depth + 1; omega)

theorem depart (h : Coherent S Γ none w) (deep : 0 < w.graph.depth) :
    Coherent S Γ none (w.update Graph.depart) :=
  h.redepth rfl rfl rfl rfl rfl (by change 0 ≤ w.graph.depth - 1; omega)

theorem unqueue (h : Coherent S Γ none w) (adds : Γ.Adds) (hq : w.graph.queue = i :: rest) :
    Coherent S Γ (some i) (w.unqueue Γ.recorded i) := by
  have tracked : Tracked (w.unqueue Γ.recorded i) :=
    (h.sober.tracked.progress (f := Graph.unqueue) rfl rfl rfl rfl).tell Γ rfl
      (fun _ _ ended => nomatch ended)
  refine h.aside tracked (adds _ _ _) (Graph.aside_of_eq rfl rfl) h.sober.fits.action h.depth
    fun calm => ⟨fun beyond => calm (beyond.later _), fun j spoken live => ?_⟩
  refine .inr (.inr ⟨by simp, live, ?_, rfl, fun _ hs => hs⟩)
  rintro (queued | waits)
  · refine .inl ?_
    rw [hq] at queued
    change j ∈ w.graph.queue.tail
    rw [hq]
    rcases List.mem_cons.mp queued with rfl | later
    · exact absurd rfl spoken
    · exact later
  · exact .inr waits

theorem enqueue (h : Coherent S Γ (some i) w) (adds : Γ.Adds) :
    Coherent S Γ none (w.enqueue Γ.recorded i) := by
  have tracked : Tracked (w.enqueue Γ.recorded i) :=
    (h.sober.tracked.progress (f := (·.enqueue i)) rfl rfl rfl rfl).tell Γ rfl
      (fun _ _ ended => nomatch ended)
  refine h.aside tracked (adds _ _ _) (Graph.aside_of_eq rfl rfl) h.sober.fits.action h.depth
    fun calm => ⟨fun beyond => calm (beyond.later _), fun j _ live => ?_⟩
  by_cases same : j = i
  · exact .inl (.inl (Graph.mem_adjoin.mpr (.inl same)))
  · refine .inr (.inr ⟨fun hj => same (Option.some.inj hj), live, ?_, rfl, fun _ hs => hs⟩)
    rintro (queued | waits)
    · exact .inl (Graph.mem_adjoin.mpr (.inr queued))
    · exact .inr waits

theorem addEffect (h : Coherent S Γ none w) (l : Label) (hc : S.action c) :
    Coherent S Γ (some w.graph.effects.size) (w.update (·.addEffect l c)) := by
  have old (j : Nat) (hj : j ≠ w.graph.effects.size) :
      (w.graph.addEffect l c).effect j = w.graph.effect j := by
    rw [Graph.effect_addEffect, if_neg hj]
  refine h.aside (h.sober.tracked.addEffect l c) (le_refl _) (Graph.aside_of_eq rfl rfl) ?_ h.depth
    fun calm => ⟨calm, fun j spoken live => ?_⟩
  · intro j hj
    change S.action ((w.graph.addEffect l c).effect j).body
    by_cases new : j = w.graph.effects.size
    · rw [Graph.effect_addEffect, if_pos new]
      exact hc
    · have there : j < w.graph.effects.size + 1 := by
        simpa [World.update, Graph.addEffect] using hj
      rw [old j new]
      exact h.sober.fits.action j (by omega)
  · have other : j ≠ w.graph.effects.size := fun new => spoken (new ▸ rfl)
    refine .inr (.inr ⟨by simp, ?_, ?_, rfl, ?_⟩)
    · exact old j other ▸ live
    · simp only [Graph.Pending, World.update, old j other]
      exact fun waits => waits
    · intro s hs
      change s ∈ ((w.graph.addEffect l c).effect j).dependencies
      rw [old j other]
      exact hs

theorem look (h : Coherent S Γ exempt w) :
    Coherent S Γ exempt { w with host := w.host.see none w.graph } := by
  refine h.aside h.sober.tracked.look (le_refl _) (Graph.aside_of_eq rfl rfl) h.sober.fits.action
    h.depth fun calm => ⟨fun beyond => calm (beyond.later _), fun j spoken live => ?_⟩
  exact .inr (.inr ⟨spoken, live, fun waits => waits, rfl, fun _ hs => hs⟩)

theorem replace (h : Coherent S Γ exempt w) {host : H} (grows : w.host.host ≤ host) :
    Coherent S Γ exempt { w with host := { w.host with host := host } } := by
  refine h.aside (h.sober.tracked.replace host) grows (Graph.aside_of_eq rfl rfl)
    h.sober.fits.action h.depth fun calm => ⟨calm, fun j spoken live => ?_⟩
  exact .inr (.inr ⟨spoken, live, fun waits => waits, rfl, fun _ hs => hs⟩)

theorem overran (h : Coherent S Γ exempt w) (adds : Γ.Adds) :
    Coherent S Γ none (w.tell Γ.recorded (.overran i)) := by
  refine h.aside (h.sober.tracked.tell Γ rfl (fun _ _ ended => nomatch ended)) (adds _ _ _)
    (Graph.aside_of_eq rfl rfl) h.sober.fits.action h.depth fun calm => ?_
  exact absurd (overran_cons.mpr (.inl ⟨i, rfl⟩)) calm

theorem begin (h : Coherent S Γ (some i) w) (adds : Γ.Adds)
    (idle : Tracker.effect i ∉ w.graph.stack) (running : (w.graph.effect i).running = true) :
    Coherent S Γ none (w.begin Γ.recorded (.effect i)) := by
  have links := Graph.relinks_forget w.graph (.effect i)
  have aside : w.graph.Aside (w.begin Γ.recorded (.effect i)).graph :=
    (Graph.aside_forget w.graph i).trans (Graph.aside_push _ _)
  refine h.aside (h.sober.tracked.begin Γ idle running) (adds _ _ _) aside ?_ ?_ fun calm =>
    ⟨fun beyond => calm (beyond.later _), fun j _ live => ?_⟩
  · intro j hj
    rw [World.graph_begin, Graph.effect_push, links.effect_of Effect.body fun _ _ => rfl]
    exact h.sober.fits.action j (links.effects ▸ hj)
  · rw [World.graph_begin]
    exact links.depth.symm ▸ h.depth
  · by_cases same : j = i
    · subst same
      have opened : frames (w.begin Γ.recorded (.effect j)).host.past =
        { tracker := .effect j } :: frames w.host.past := rfl
      exact .inr (.inl ⟨[], seen_of_open opened rfl, fun _ _ hv => nomatch hv⟩)
    · have other : Tracker.effect i ≠ .effect j := fun e => same (Tracker.effect.inj e).symm
      rw [World.graph_begin] at live ⊢
      refine .inr (.inr ⟨fun e => same (Option.some.inj e), ?_, ?_, ?_, ?_⟩)
      · exact (links.effect_of Effect.disposed (fun _ _ => rfl) j).symm.trans live
      · rw [Graph.pending_push, links.pending]
        exact fun waits => waits
      · exact seen_began other _ _
      · intro s hs
        rw [Graph.dependencies_push, Graph.dependencies_forget, if_neg other.symm]
        exact hs

theorem finish (h : Coherent S Γ none w) (adds : Γ.Adds) (hs : w.graph.stack = .effect i :: rest)
    (failure : Option E) :
    Coherent S Γ none (w.finish Γ.recorded (.effect i) failure) := by
  obtain ⟨fr, outer, hf, ht, houter⟩ := h.sober.tracked.innermost hs
  have distinct := h.sober.tracked.distinct
  rw [hs, ← houter] at distinct
  have closed : ∀ fr' ∈ outer, fr'.tracker ≠ .effect i := fun fr' hfr' e =>
    (List.nodup_cons.mp distinct).1 (e ▸ List.mem_map_of_mem hfr')
  refine h.aside (h.sober.tracked.finish Γ hs failure) (adds _ _ _)
    (Graph.aside_of_eq rfl rfl) h.sober.fits.action h.depth fun calm =>
      ⟨fun beyond => calm (beyond.later _), fun j spoken live => ?_⟩
  exact .inr (.inr ⟨spoken, live, fun waits => waits, seen_ended hf ht closed _ _ j,
    fun _ hs => hs⟩)

theorem dispose (h : Coherent S Γ none w) (adds : Γ.Adds) (i : Nat) :
    Coherent S Γ none (w.dispose Γ.recorded i) := by
  have links := Graph.relinks_dispose w.graph i
  have marked : w.graph.Aside (w.graph.modifyEffect i fun e => { e with disposed := true }) :=
    Graph.aside_of_eq rfl rfl
  have aside : w.graph.Aside (w.graph.dispose i) := marked.trans (Graph.aside_forget _ i)
  refine h.aside (h.sober.tracked.dispose Γ i) (adds _ _ _) aside ?_ ?_ fun calm =>
    ⟨fun beyond => calm (beyond.later _), fun j spoken live => ?_⟩
  · intro j hj
    change j < (w.graph.dispose i).effects.size at hj
    change S.action ((w.graph.dispose i).effect j).body
    rw [links.effects, Graph.modifyEffect, Array.size_modify] at hj
    rw [links.effect_of Effect.body fun _ _ => rfl,
      Graph.effect_modifyEffect_of Effect.body (f := ({ · with disposed := true })) fun _ => rfl]
    exact h.sober.fits.action j hj
  · change 0 ≤ (w.graph.dispose i).depth
    rw [links.depth]
    exact h.depth
  · have other : i ≠ j := by
      rintro rfl
      have gone := Graph.disposed_dispose w.graph i
      exact absurd (gone.symm.trans live) (by simp)
    have same : (w.graph.dispose i).effect j = w.graph.effect j :=
      Graph.effect_dispose_of_ne other _
    refine .inr (.inr ⟨spoken, ?_, ?_, seen_disposed i j _ _, ?_⟩)
    · exact same ▸ live
    · change w.graph.Pending j → (w.graph.dispose i).Pending j
      rw [Graph.Pending, Graph.Pending, links.queue, same]
      exact fun waits => waits
    · intro s hs
      change s ∈ ((w.graph.dispose i).effect j).dependencies
      rw [same]
      exact hs

theorem reads {L : List (Source × V)} (h : Coherent S Γ exempt w)
    (r : Reads S Γ L w w') : Coherent S Γ exempt w' where
  sober := r.sober
  idle d := (r.activity.computing d).trans (h.idle d)
  depth := r.ripens.depth.symm ▸ h.depth
  effects calm i spoken live := by
    obtain ⟨ss, he, linked⟩ := r.ripens.effect i
    have live' : (w.graph.effect i).disposed = false := by
      rw [he] at live
      exact live
    obtain pending | ⟨K, hK, rests⟩ := h.effects (mt r.overran calm) i spoken live'
    · refine .inl ?_
      rw [Graph.Pending, r.ripens.queue, he]
      exact pending
    · have kept : ∀ s v, (s, v) ∈ K →
          s ∈ w'.graph.dependencies (.effect i) ∧ S.Settled Γ w'.graph s v := by
        intro s v hv
        rw [Graph.dependencies, he]
        exact ⟨linked s (rests s v hv).1, (rests s v hv).2.firm r.ripens.firm⟩
      refine .inr ?_
      -- The new reads belong to the effect exactly if its run is the innermost one.
      obtain same | ⟨rest, hs, more⟩ := seen_reads r hK
      · exact ⟨K, same, kept⟩
      · refine ⟨_, more, fun s v hv => ?_⟩
        rcases List.mem_append.mp hv with new | old
        · have read := List.mem_reverse.mp new
          exact ⟨r.linked s v read _ _ hs, r.settled s v read⟩
        · exact kept s v old

end Coherent

/-- A wire has been given a value, and everything that rests on it has been marked. -/
structure Sweeps (i : Nat) (w w' : World V C (Recorded V C H E)) : Prop where
  values : ∀ j, j ≠ i → w'.graph.values j = w.graph.values j
  derived : ∀ d, ∃ b, w'.graph.derived d = { w.graph.derived d with dirty := b } ∧
    ((w.graph.derived d).dirty = true → b = true)
  told : ∀ t ∈ w.graph.subscribers (.wire i), w'.graph.Marked t
  closed : ∀ d, (w.graph.derived d).dirty = false → (w'.graph.derived d).dirty = true →
    ∀ t ∈ w.graph.subscribers (.derived d), w'.graph.Marked t

namespace Sweeps

variable {i : Nat} {s : Source} {v : V}

def Spares (i : Nat) (g' : Graph V C) : Source → Prop
  | .wire j => j ≠ i
  | .derived d => (g'.derived d).dirty = false

theorem spares (h : Sweeps i w w') (converse : w.graph.Converse) (unmarked : ¬ w'.graph.Marked t)
    (settled : S.Settled Γ w.graph s v)
    (linked : s ∈ w.graph.dependencies t) : Spares i w'.graph s := by
  have subscribed : t ∈ w.graph.subscribers s := (converse s t).mp linked
  cases settled with
  | @wire j _ =>
    rintro rfl
    exact unmarked (h.told t subscribed)
  | @derived d _ _ _ clean =>
    cases dirty : (w'.graph.derived d).dirty with
    | false => exact dirty
    | true => exact absurd (h.closed d clean dirty t subscribed) unmarked

theorem settled (h : Sweeps i w w') (converse : w.graph.Converse)
    (settled : S.Settled Γ w.graph s v) (spared : Spares i w'.graph s) :
    S.Settled Γ w'.graph s v := by
  induction settled with
  | @wire j hj =>
    have same : (w.graph.wire j).value = (w'.graph.wire j).value := (h.values j spared).symm
    rw [same]
    exact .wire hj
  | @derived d L r hd clean cache traced linked rests ih =>
    obtain ⟨b, hb, _⟩ := h.derived d
    have still : (w'.graph.derived d).dirty = false := spared
    have same : w'.graph.derived d = w.graph.derived d := by
      rw [hb] at still ⊢
      rw [show b = (w.graph.derived d).dirty from still.trans clean.symm]
    rw [← same] at cache linked ⊢
    refine .derived hd still cache traced linked fun s u hu => ih s u hu ?_
    refine h.spares converse (t := .derived d) ?_ (rests s u hu) ?_
    · rw [Graph.Marked, still]
      exact Bool.false_ne_true
    · rw [Graph.dependencies, ← same]
      exact linked s u hu

end Sweeps

theorem Spreads.wire_written
    (spread : Spreads ((w.assign Γ.recorded i old v).update Graph.enter) w') (j : Nat) :
    w'.graph.wire j = (w.graph.setValue i v).wire j := by
  simp only [Graph.wire, spread.wires]
  rfl

theorem Sheet.Fits.written (h : S.Fits w.graph) (hi : i < S.wires) (holds : S.holds i v)
    (spread : Spreads ((w.assign Γ.recorded i old v).update Graph.enter) w') :
    S.Fits w'.graph := by
  refine ⟨?_, ?_, ?_, ?_, ?_, ?_⟩
  · rw [spread.wires, ← h.wires]
    exact Array.size_modify
  · exact spread.deriveds.trans h.deriveds
  · intro d hd
    obtain ⟨b, hb, _⟩ := spread.derived d
    rw [hb]
    exact h.formula d hd
  · intro j hj
    by_cases same : i = j
    · subst same
      simpa [Graph.values, spread.wire_written, Graph.setValue, Graph.wire_modifyWire, h.wires, hi]
        using holds
    · simpa [Graph.values, spread.wire_written, Graph.setValue, Graph.wire_modifyWire, same]
        using h.holds j hj
  · intro j
    rw [spread.wire_written, Graph.setValue,
      Graph.wire_modifyWire_of Wire.frozen (f := ({ · with value := v })) fun _ => rfl]
    exact h.thawed j
  · intro j hj
    obtain ⟨b, he, _⟩ := spread.effect j
    rw [he]
    exact h.action j (spread.effects ▸ hj)

theorem Coherent.written (h : Coherent S Γ none w)
    (adds : Γ.Adds) (hi : i < S.wires) (holds : S.holds i v) (tracked : Tracked w')
    (spread : Spreads ((w.assign Γ.recorded i old v).update Graph.enter) w')
    (told : ∀ t ∈ w.graph.subscribers (.wire i), w'.graph.Marked t) :
    Coherent S Γ none w' := by
  have values (j : Nat) (hj : j ≠ i) : w'.graph.values j = w.graph.values j := by
    simp [Graph.values, spread.wire_written, Graph.setValue, Graph.wire_modifyWire, hj.symm]
  have sweeps : Sweeps i w w' := ⟨values, spread.derived, told, spread.closed⟩
  have converse := h.sober.tracked.converse
  have computing (d : Nat) : (w'.graph.derived d).computing = false := by
    obtain ⟨b, hb, _⟩ := spread.derived d
    rw [hb]
    exact h.idle d
  have host : w.host.host ≤ w'.host.host := le_trans (adds _ _ _) spread.host
  refine ⟨⟨tracked, le_trans h.sober.host host, ?_, ?_, ?_⟩, computing, ?_, ?_⟩
  · exact h.sober.fits.written hi holds spread
  · intro d hd still
    obtain ⟨b, hb, mono⟩ := spread.derived d
    have clean : (w.graph.derived d).dirty = false := by
      cases dirty : (w.graph.derived d).dirty with
      | false => rfl
      | true =>
        rw [hb] at still
        exact (mono dirty).symm.trans still
    have cache : (w'.graph.derived d).cache = (w.graph.derived d).cache := by
      rw [hb]
      rfl
    rw [cache]
    exact sweeps.settled converse (h.sober.settled d hd clean) still
  · intro d marked
    rw [computing] at marked
    cases marked
  · have deeper : w'.graph.depth = w.graph.depth + 1 := spread.depth
    have := h.depth
    omega
  · intro calm j _ live
    obtain ⟨b, he, _⟩ := spread.effect j
    have live' : (w.graph.effect j).disposed = false := by
      rw [he] at live
      exact live
    have calm' : ¬ Overran w.host.past := fun beyond => calm (spread.overran (beyond.later _))
    by_cases marked : w'.graph.Marked (.effect j)
    · exact .inl (marked.resolve_left (by rw [live]; exact Bool.false_ne_true))
    · obtain pending | ⟨L, hL, rests⟩ := h.effects calm' j (by simp) live'
      · exact absurd (spread.marked (t := .effect j) (Or.inr pending)) marked
      · refine .inr ⟨L, ?_, fun s u hu => ?_⟩
        · rw [← hL, seen, spread.openRuns, spread.lastRuns]
          rfl
        · obtain ⟨linked, settled⟩ := rests s u hu
          refine ⟨(spread.dependencies (.effect j)).symm ▸ linked, ?_⟩
          exact sweeps.settled converse settled (sweeps.spares converse marked settled linked)

end AttrBinder.Reactive
