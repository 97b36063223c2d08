import AttrBinder.Proofs.Reactive.Activity
import AttrBinder.Proofs.Reactive.Links
import AttrBinder.Proofs.Reactive.Record

/-!
What trackers depend on, against the record of a run. From the record alone the open runs are
recovered with what each of them has read as the innermost one (`frames`). In every graph that is
shown both sides of the links agree, and a run that ends leaves its tracker with exactly the sources
that it has read, unless the effect was disposed meanwhile (`Faithful`). The invariant that carries
this is `Tracked`; it holds wherever a run stops, also where it is cut off.
-/

namespace AttrBinder.Reactive

variable {V C H E : Type}

/-- An open run of a tracker: what it has read as the innermost one, last first, and whether it was
disposed meanwhile. -/
structure Frame (V : Type) where
  tracker : Tracker
  reads : List (Source × V) := []
  disposed : Bool := false

namespace Frame

def add (p : Source × V) (fr : Frame V) : Frame V :=
  { fr with reads := p :: fr.reads }

def disposeIf (i : Nat) (fr : Frame V) : Frame V :=
  if fr.tracker = .effect i then { fr with disposed := true } else fr

theorem tracker_disposeIf (i : Nat) (fr : Frame V) : (fr.disposeIf i).tracker = fr.tracker := by
  unfold disposeIf
  split <;> rfl

theorem reads_disposeIf (i : Nat) (fr : Frame V) : (fr.disposeIf i).reads = fr.reads := by
  unfold disposeIf
  split <;> rfl

theorem disposeIf_eq_of_not_disposed {fr : Frame V}
    (h : (fr.disposeIf i).disposed = false) : fr.disposeIf i = fr ∧ fr.tracker ≠ .effect i := by
  unfold disposeIf at h ⊢
  split at h
  · cases h
  · rename_i other
    exact ⟨if_neg other, other⟩

end Frame

def Moment.reframe : Moment V E → List (Frame V) → List (Frame V)
  | .began t, frs => { tracker := t } :: frs
  | .ended _ _, frs => frs.tail
  | .read s v, frs => frs.modifyHead (Frame.add (s, v))
  | .disposed i, frs => frs.map (Frame.disposeIf i)
  | .wrote _ _ _, frs => frs
  | .queued _, frs => frs
  | .unqueued _, frs => frs
  | .overran _, frs => frs

def frames : List (Sight V C E) → List (Frame V)
  | [] => []
  | x :: earlier => match x.moment with
    | some m => m.reframe (frames earlier)
    | none => frames earlier

variable [Inhabited V] [Inhabited C]

/-- What a shown graph has to satisfy, after what was shown earlier. -/
structure Sight.Faithful (x : Sight V C E) (earlier : List (Sight V C E)) : Prop where
  converse : x.graph.Converse
  stack : x.graph.stack = (frames (x :: earlier)).map Frame.tracker
  ended : ∀ t failure, x.moment = some (.ended t failure) →
    ∃ fr outer, frames earlier = fr :: outer ∧ fr.tracker = t ∧ (fr.disposed = false →
      ∀ s, s ∈ x.graph.dependencies t ↔ ∃ v, (s, v) ∈ fr.reads)

/-- Every graph that was shown satisfies what it has to. -/
inductive Faithful : List (Sight V C E) → Prop
  | nil : Faithful []
  | cons {x : Sight V C E} {earlier : List (Sight V C E)} :
      x.Faithful earlier → Faithful earlier → Faithful (x :: earlier)

def Graph.Active (g : Graph V C) : Tracker → Prop
  | .derived i => (g.derived i).computing = true
  | .effect i => (g.effect i).running = true

theorem Graph.Active.hasTracker {g : Graph V C} (h : g.Active t) : g.HasTracker t := by
  by_contra absent
  cases t with
  | derived i =>
    rw [Graph.Active, Graph.derived_of_size_le (Nat.le_of_not_lt absent)] at h
    cases h
  | effect i =>
    rw [Graph.Active, Graph.effect_of_size_le (Nat.le_of_not_lt absent)] at h
    cases h

theorem Graph.SameActivity.active {g g' : Graph V C} (h : g.SameActivity g') {t : Tracker} :
    g'.Active t ↔ g.Active t := by
  cases t with
  | derived i => simp only [Graph.Active, h.computing i]
  | effect i => simp only [Graph.Active, h.running i]

/-- A world in which links, open runs and record agree. -/
structure Tracked (w : World V C (Recorded V C H E)) : Prop where
  converse : w.graph.Converse
  stack : w.graph.stack = (frames w.host.past).map Frame.tracker
  distinct : w.graph.stack.Nodup
  active : ∀ t ∈ w.graph.stack, w.graph.Active t
  reads : ∀ fr ∈ frames w.host.past, fr.disposed = false →
    ∀ s, s ∈ w.graph.dependencies fr.tracker ↔ ∃ v, (s, v) ∈ fr.reads
  faithful : Faithful w.host.past

namespace Tracked

variable {w : World V C (Recorded V C H E)}

/-- A change of the graph that touches neither links nor stack keeps all, as long as what runs
stays marked. -/
theorem update (h : Tracked w) {f : Graph V C → Graph V C}
    (links : w.graph.SameLinks (f w.graph)) (stack : (f w.graph).stack = w.graph.stack)
    (active : ∀ t ∈ w.graph.stack, w.graph.Active t → (f w.graph).Active t) :
    Tracked (w.update f) where
  converse := links.converse h.converse
  stack := stack.trans h.stack
  distinct := by
    change (f w.graph).stack.Nodup
    rw [stack]
    exact h.distinct
  active t ht := by
    change t ∈ (f w.graph).stack at ht
    rw [stack] at ht
    exact active t ht (h.active t ht)
  reads fr hfr live s := by
    change s ∈ (f w.graph).dependencies fr.tracker ↔ _
    rw [links.dependencies]
    exact h.reads fr hfr live s
  faithful := h.faithful

theorem update_same (h : Tracked w) (links : w.graph.SameLinks (f w.graph))
    (activity : w.graph.SameActivity (f w.graph)) :
    Tracked (w.update f) :=
  h.update links activity.stack fun _ _ active => activity.active.mpr active

section Updates

variable (h : Tracked w) (i : Nat)

include h

theorem setValue (v : V) : Tracked (w.update (·.setValue i v)) :=
  h.update_same (Graph.sameLinks_setValue w.graph i v)
    (Graph.sameActivity_modifyWire w.graph i _)

theorem freeze : Tracked (w.update (·.freeze i)) :=
  h.update_same
    (Graph.sameLinks_modifyWire w.graph i (f := ({ · with frozen := true })) fun _ => rfl)
    (Graph.sameActivity_modifyWire w.graph i _)

theorem invalidate : Tracked (w.update (·.invalidate i)) :=
  h.update_same (Graph.sameLinks_invalidate w.graph i)
    (Graph.sameActivity_modifyDerived w.graph i fun _ => rfl)

theorem keep (v : V) : Tracked (w.update (·.keep i v)) :=
  h.update_same (Graph.sameLinks_keep w.graph i v)
    (Graph.sameActivity_modifyDerived w.graph i fun _ => rfl)

theorem requestRun : Tracked (w.update (·.requestRun i)) :=
  h.update_same
    (Graph.sameLinks_modifyEffect w.graph i (f := ({ · with rerun := true })) fun _ => rfl)
    (Graph.sameActivity_modifyEffect w.graph i fun _ => rfl)

theorem countRun : Tracked (w.update (·.countRun i)) :=
  h.update_same
    (Graph.sameLinks_modifyEffect w.graph i
      (f := fun e => { e with rerun := false, runs := e.runs + 1 }) fun _ => rfl)
    (Graph.sameActivity_modifyEffect w.graph i fun _ => rfl)

theorem setComputing (b : Bool) (idle : Tracker.derived i ∉ w.graph.stack) :
    Tracked (w.update (·.setComputing i b)) := by
  refine h.update (Graph.sameLinks_setComputing w.graph i b) rfl ?_
  intro t running active
  cases t with
  | effect j => exact active
  | derived j =>
    have other : i ≠ j := fun same => idle (same ▸ running)
    simpa [Graph.Active, Graph.setComputing, Graph.derived_modifyDerived, other] using active

theorem setRunning (b : Bool) (idle : Tracker.effect i ∉ w.graph.stack) :
    Tracked (w.update (·.setRunning i b)) := by
  refine h.update (Graph.sameLinks_modifyEffect w.graph i (f := ({ · with running := b }))
    fun _ => rfl) rfl ?_
  intro t running active
  cases t with
  | derived j => exact active
  | effect j =>
    have other : i ≠ j := fun same => idle (same ▸ running)
    simpa [Graph.Active, Graph.setRunning, Graph.effect_modifyEffect, other] using active

theorem progress (wires : (f w.graph).wires = w.graph.wires)
    (deriveds : (f w.graph).deriveds = w.graph.deriveds)
    (effects : (f w.graph).effects = w.graph.effects) (stack : (f w.graph).stack = w.graph.stack) :
    Tracked (w.update f) := by
  refine h.update (Graph.sameLinks_of_eq wires deriveds effects) stack ?_
  intro t _ active
  cases t <;> simpa only [Graph.Active, Graph.derived, Graph.effect, deriveds, effects] using active

theorem addWire (v : V) : Tracked (w.update (·.addWire v)) :=
  h.update_same (Graph.sameLinks_addWire w.graph v) (Graph.sameActivity_addWire w.graph v)

theorem addDerived (l : Label) (c : C) : Tracked (w.update (·.addDerived l c)) :=
  h.update_same (Graph.sameLinks_addDerived w.graph l c) (Graph.sameActivity_addDerived w.graph l c)

theorem addEffect (l : Label) (c : C) : Tracked (w.update (·.addEffect l c)) :=
  h.update_same (Graph.sameLinks_addEffect w.graph l c) (Graph.sameActivity_addEffect w.graph l c)

theorem idle (unmarked : ¬ w.graph.Active t) : t ∉ w.graph.stack :=
  fun running => unmarked (h.active t running)

end Updates

theorem of_tell (Γ : Setting V C H E) (m : Moment V E) (converse : w.graph.Converse)
    (stack : w.graph.stack = (m.reframe (frames w.host.past)).map Frame.tracker)
    (distinct : w.graph.stack.Nodup) (active : ∀ t ∈ w.graph.stack, w.graph.Active t)
    (reads : ∀ fr ∈ m.reframe (frames w.host.past), fr.disposed = false →
      ∀ s, s ∈ w.graph.dependencies fr.tracker ↔ ∃ v, (s, v) ∈ fr.reads)
    (ended : ∀ t failure, m = .ended t failure → ∃ fr outer, frames w.host.past = fr :: outer ∧
      fr.tracker = t ∧ (fr.disposed = false →
        ∀ s, s ∈ w.graph.dependencies t ↔ ∃ v, (s, v) ∈ fr.reads))
    (faithful : Faithful w.host.past) : Tracked (w.tell Γ.recorded m) where
  converse := converse
  stack := stack
  distinct := distinct
  active := active
  reads := reads
  faithful := by
    refine .cons ⟨converse, stack, ?_⟩ faithful
    intro t failure shown
    exact ended t failure (Option.some.inj shown)

theorem tell (h : Tracked w) (Γ : Setting V C H E) {m : Moment V E}
    (still : m.reframe (frames w.host.past) = frames w.host.past)
    (open_ : ∀ t failure, m ≠ .ended t failure) : Tracked (w.tell Γ.recorded m) := by
  refine of_tell Γ m h.converse ?_ h.distinct h.active ?_ ?_ h.faithful
  · rw [still]
    exact h.stack
  · rw [still]
    exact h.reads
  · exact fun t failure ended => absurd ended (open_ t failure)

theorem look (h : Tracked w) : Tracked { w with host := w.host.see none w.graph } :=
  ⟨h.converse, h.stack, h.distinct, h.active, h.reads,
    .cons ⟨h.converse, h.stack, fun _ _ shown => nomatch shown⟩ h.faithful⟩

theorem replace (h : Tracked w) (host : H) :
    Tracked { w with host := { w.host with host := host } } :=
  ⟨h.converse, h.stack, h.distinct, h.active, h.reads, h.faithful⟩

theorem innermost (h : Tracked w) (hs : w.graph.stack = t :: rest) :
    ∃ fr outer, frames w.host.past = fr :: outer ∧
      fr.tracker = t ∧ outer.map Frame.tracker = rest := by
  have stack := h.stack
  rw [hs] at stack
  cases hf : frames w.host.past with
  | nil =>
    rw [hf] at stack
    cases stack
  | cons fr outer =>
    rw [hf] at stack
    injection stack with head tail
    exact ⟨fr, outer, rfl, head.symm, tail.symm⟩

theorem begin (h : Tracked w) (Γ : Setting V C H E) {t : Tracker} (idle : t ∉ w.graph.stack)
    (marked : w.graph.Active t) : Tracked (w.begin Γ.recorded t) := by
  have activity := Graph.sameActivity_forget w.graph t
  refine of_tell Γ (.began t) (w := w.update fun g => (g.forget t).push t)
    (h.converse.forget t) ?_ ?_ ?_ ?_ (fun _ _ ended => nomatch ended) h.faithful
  · change t :: (w.graph.forget t).stack = t :: (frames w.host.past).map Frame.tracker
    rw [activity.stack, h.stack]
  · change (t :: (w.graph.forget t).stack).Nodup
    rw [activity.stack]
    exact List.nodup_cons.mpr ⟨idle, h.distinct⟩
  · intro t' ht'
    change t' ∈ t :: (w.graph.forget t).stack at ht'
    rw [activity.stack] at ht'
    rcases List.mem_cons.mp ht' with rfl | below
    · exact activity.active.mpr marked
    · exact activity.active.mpr (h.active t' below)
  · intro fr hfr live s
    change s ∈ (w.graph.forget t).dependencies fr.tracker ↔ _
    rw [Graph.dependencies_forget]
    rcases List.mem_cons.mp hfr with rfl | below
    · simp
    · have other : fr.tracker ≠ t := by
        rintro rfl
        exact idle (h.stack ▸ List.mem_map_of_mem below)
      rw [if_neg other]
      exact h.reads fr below live s

theorem finish (h : Tracked w) (Γ : Setting V C H E) (hs : w.graph.stack = t :: rest)
    (failure : Option E) :
    Tracked (w.finish Γ.recorded t failure) := by
  obtain ⟨fr, outer, hf, rfl, rfl⟩ := h.innermost hs
  have below : w.graph.pop.stack = outer.map Frame.tracker := by
    change w.graph.stack.tail = _
    rw [hs]
    rfl
  have above : ∀ t ∈ w.graph.pop.stack, t ∈ w.graph.stack := fun t ht => List.mem_of_mem_tail ht
  refine of_tell Γ (.ended fr.tracker failure) (w := w.update Graph.pop) h.converse ?_ ?_ ?_
    ?_
    ?_ h.faithful
  · change w.graph.pop.stack = (frames w.host.past).tail.map Frame.tracker
    rw [below, hf]
    rfl
  · exact h.distinct.sublist (List.tail_sublist _)
  · exact fun t ht => h.active t (above t ht)
  · intro fr' hfr'
    exact h.reads fr' (List.mem_of_mem_tail hfr')
  · intro t' failure' ended
    injection ended with same _
    subst same
    exact ⟨fr, outer, hf, rfl, h.reads fr (hf ▸ List.mem_cons_self)⟩

theorem read (h : Tracked w) (Γ : Setting V C H E) {s : Source} (there : w.graph.HasSource s)
    (v : V) : Tracked (w.read Γ.recorded s v) := by
  have activity := Graph.sameActivity_track w.graph s
  cases hs : w.graph.stack with
  | nil =>
    have none_open : frames w.host.past = [] := List.map_eq_nil_iff.mp (h.stack.symm.trans hs)
    have untouched : w.update (·.track s) = w := by
      simp only [World.update, Graph.track, hs]
    rw [World.read, untouched]
    exact h.tell Γ (by rw [none_open]; rfl) (fun _ _ ended => nomatch ended)
  | cons t rest =>
    obtain ⟨fr, outer, hf, rfl, rfl⟩ := h.innermost hs
    have linked : (w.graph.track s) = w.graph.link s fr.tracker := by
      simp only [Graph.track, hs]
    have present := (h.active fr.tracker (hs ▸ List.mem_cons_self)).hasTracker
    refine of_tell Γ (.read s v) (w := w.update (·.track s)) ?_ ?_ ?_ ?_ ?_
      (fun _ _ ended => nomatch ended) h.faithful
    · change (w.graph.track s).Converse
      rw [linked]
      exact h.converse.link there present
    · change (w.graph.track s).stack = ((frames w.host.past).modifyHead _).map Frame.tracker
      rw [activity.stack, hs, hf]
      rfl
    · change (w.graph.track s).stack.Nodup
      rw [activity.stack]
      exact h.distinct
    · intro t ht
      change t ∈ (w.graph.track s).stack at ht
      rw [activity.stack] at ht
      exact activity.active.mpr (h.active t ht)
    · intro fr' hfr' live s'
      change fr' ∈ (frames w.host.past).modifyHead _ at hfr'
      change s' ∈ (w.graph.track s).dependencies fr'.tracker ↔ _
      rw [linked, Graph.mem_dependencies_link present]
      rw [hf] at hfr'
      have reads := fun fr hfr => h.reads fr (hf ▸ hfr)
      rcases List.mem_cons.mp hfr' with rfl | below
      · rw [show (Frame.add (s, v) fr).tracker = fr.tracker from rfl,
          reads fr List.mem_cons_self live]
        simp [Frame.add, exists_or]
      · have other : fr'.tracker ≠ fr.tracker := by
          intro same
          have distinct := h.distinct
          rw [hs] at distinct
          exact (List.nodup_cons.mp distinct).1 (same ▸ List.mem_map_of_mem below)
        rw [reads fr' (List.mem_cons_of_mem _ below) live]
        simp [other]

theorem dispose (h : Tracked w) (Γ : Setting V C H E) (i : Nat) :
    Tracked (w.dispose Γ.recorded i) := by
  have activity := Graph.sameActivity_dispose w.graph i
  refine of_tell Γ (.disposed i) (w := w.update (·.dispose i)) (h.converse.dispose i) ?_ ?_ ?_
    ?_ (fun _ _ ended => nomatch ended) h.faithful
  · change (w.graph.dispose i).stack = ((frames w.host.past).map (Frame.disposeIf i)).map _
    rw [activity.stack, h.stack, List.map_map]
    exact List.map_congr_left fun fr _ => (Frame.tracker_disposeIf i fr).symm
  · change (w.graph.dispose i).stack.Nodup
    rw [activity.stack]
    exact h.distinct
  · intro t ht
    change t ∈ (w.graph.dispose i).stack at ht
    rw [activity.stack] at ht
    exact activity.active.mpr (h.active t ht)
  · intro fr' hfr' live s
    obtain ⟨fr, hfr, rfl⟩ := List.mem_map.mp hfr'
    obtain ⟨same, other⟩ := Frame.disposeIf_eq_of_not_disposed live
    rw [same] at live ⊢
    change s ∈ (w.graph.dispose i).dependencies fr.tracker ↔ _
    rw [Graph.dependencies_dispose, if_neg other]
    exact h.reads fr hfr live s

end Tracked

end AttrBinder.Reactive
