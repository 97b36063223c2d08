import AttrBinder.Proofs.Reactive.Graph

/-!
The two sides of a dependency graph. A tracker lists the sources that it has read, and a source
lists the trackers that have read it; `Converse` says that the two lists tell the same. Tracking a
read, forgetting what a tracker has read and disposing an effect keep both sides in step.
-/

namespace AttrBinder.Reactive.Graph

variable {V C : Type}

def HasSource (g : Graph V C) : Source → Prop
  | .wire i => i < g.wires.size
  | .derived i => i < g.deriveds.size

def HasTracker (g : Graph V C) : Tracker → Prop
  | .derived i => i < g.deriveds.size
  | .effect i => i < g.effects.size

variable [Inhabited V] [Inhabited C]

/-- A tracker has a source among what it has read exactly if the source has it as a subscriber. -/
def Converse (g : Graph V C) : Prop :=
  ∀ s t, s ∈ g.dependencies t ↔ t ∈ g.subscribers s

theorem converse_of_unlinked {g : Graph V C} (trackers : ∀ t, g.dependencies t = [])
    (sources : ∀ s, g.subscribers s = []) : g.Converse := by
  intro s t
  rw [trackers, sources]
  simp only [List.not_mem_nil]

/-- The same links stand in both graphs. -/
structure SameLinks (g g' : Graph V C) : Prop where
  dependencies : ∀ t, g'.dependencies t = g.dependencies t
  subscribers : ∀ s, g'.subscribers s = g.subscribers s

theorem SameLinks.refl (g : Graph V C) : SameLinks g g :=
  ⟨fun _ => rfl, fun _ => rfl⟩

theorem SameLinks.converse {g g' : Graph V C} (h : SameLinks g g') (hg : g.Converse) :
    g'.Converse := by
  intro s t
  rw [h.dependencies, h.subscribers]
  exact hg s t

theorem sameLinks_modifyWire (g : Graph V C) (i : Nat)
    (hf : ∀ w, (f w).subscribers = w.subscribers) : SameLinks g (g.modifyWire i f) := by
  refine ⟨fun t => by cases t <;> rfl, fun s => ?_⟩
  cases s with
  | wire j => exact wire_modifyWire_of Wire.subscribers hf g i j
  | derived j => rfl

theorem sameLinks_setValue (g : Graph V C) (i : Nat) (v : V) : SameLinks g (g.setValue i v) :=
  sameLinks_modifyWire g i (f := ({ · with value := v })) fun _ => rfl

theorem sameLinks_modifyDerived (g : Graph V C) (i : Nat)
    (hd : ∀ d, (f d).dependencies = d.dependencies) (hs : ∀ d, (f d).subscribers = d.subscribers) :
    SameLinks g (g.modifyDerived i f) := by
  constructor
  · intro t
    cases t with
    | derived j => exact derived_modifyDerived_of Derived.dependencies hd g i j
    | effect j => rfl
  · intro s
    cases s with
    | wire j => rfl
    | derived j => exact derived_modifyDerived_of Derived.subscribers hs g i j

theorem sameLinks_setComputing (g : Graph V C) (i : Nat) (b : Bool) :
    SameLinks g (g.setComputing i b) :=
  sameLinks_modifyDerived g i (f := ({ · with computing := b })) (fun _ => rfl) fun _ => rfl

theorem sameLinks_invalidate (g : Graph V C) (i : Nat) : SameLinks g (g.invalidate i) :=
  sameLinks_modifyDerived g i (f := ({ · with dirty := true })) (fun _ => rfl) fun _ => rfl

theorem sameLinks_keep (g : Graph V C) (i : Nat) (v : V) : SameLinks g (g.keep i v) :=
  sameLinks_modifyDerived g i (f := ({ · with cache := v, dirty := false })) (fun _ => rfl)
    fun _ => rfl

theorem sameLinks_modifyEffect (g : Graph V C) (i : Nat)
    (hf : ∀ e, (f e).dependencies = e.dependencies) : SameLinks g (g.modifyEffect i f) := by
  refine ⟨fun t => ?_, fun s => by cases s <;> rfl⟩
  cases t with
  | derived j => rfl
  | effect j => exact effect_modifyEffect_of Effect.dependencies hf g i j

theorem sameLinks_addWire (g : Graph V C) (v : V) : SameLinks g (g.addWire v) := by
  refine ⟨fun t => by cases t <;> rfl, fun s => ?_⟩
  cases s with
  | wire j =>
    simp only [subscribers, wire_addWire]
    split
    · rename_i new
      rw [wire_of_size_le (Nat.le_of_eq new.symm)]
      rfl
    · rfl
  | derived j => rfl

theorem sameLinks_addDerived (g : Graph V C) (l : Label) (c : C) :
    SameLinks g (g.addDerived l c) := by
  have old (j : Nat) (new : j = g.deriveds.size) : g.derived j = default :=
    derived_of_size_le (Nat.le_of_eq new.symm)
  constructor
  · intro t
    cases t with
    | derived j =>
      simp only [dependencies, derived_addDerived]
      split
      · rename_i new
        rw [old j new]
        rfl
      · rfl
    | effect j => rfl
  · intro s
    cases s with
    | wire j => rfl
    | derived j =>
      simp only [subscribers, derived_addDerived]
      split
      · rename_i new
        rw [old j new]
        rfl
      · rfl

theorem sameLinks_addEffect (g : Graph V C) (l : Label) (c : C) :
    SameLinks g (g.addEffect l c) := by
  refine ⟨fun t => ?_, fun s => by cases s <;> rfl⟩
  cases t with
  | derived j => rfl
  | effect j =>
    simp only [dependencies, effect_addEffect]
    split
    · rename_i new
      rw [effect_of_size_le (Nat.le_of_eq new.symm)]
      rfl
    · rfl

theorem sameLinks_of_eq {g g' : Graph V C} (wires : g'.wires = g.wires)
    (deriveds : g'.deriveds = g.deriveds) (effects : g'.effects = g.effects) : SameLinks g g' := by
  constructor
  · intro t
    cases t <;> simp only [dependencies, derived, effect, deriveds, effects]
  · intro s
    cases s <;> simp only [subscribers, wire, derived, wires, deriveds]

section Sides

theorem subscribers_modifySubscribers (g : Graph V C) (s s' : Source)
    (f : List Tracker → List Tracker) [Decidable (g.HasSource s)] :
    (g.modifySubscribers s f).subscribers s' =
      if s = s' ∧ g.HasSource s then f (g.subscribers s') else g.subscribers s' := by
  cases s with
  | wire i =>
    cases s' with
    | wire j =>
      simp only [modifySubscribers, subscribers, wire_modifyWire, Source.wire.injEq, HasSource]
      by_cases same : i = j
      · subst same
        split <;> rfl
      · simp [same]
    | derived j => simp [modifySubscribers, subscribers]
  | derived i =>
    cases s' with
    | wire j => simp [modifySubscribers, subscribers]
    | derived j =>
      simp only [modifySubscribers, subscribers, derived_modifyDerived, Source.derived.injEq,
        HasSource]
      by_cases same : i = j
      · subst same
        split <;> rfl
      · simp [same]

theorem dependencies_modifySubscribers (g : Graph V C) (s : Source) (t : Tracker)
    (f : List Tracker → List Tracker) :
    (g.modifySubscribers s f).dependencies t = g.dependencies t := by
  cases s with
  | wire i => cases t <;> rfl
  | derived i =>
    cases t with
    | derived j =>
      exact derived_modifyDerived_of Derived.dependencies
        (f := fun d => { d with subscribers := f d.subscribers }) (fun _ => rfl) g i j
    | effect j => rfl

theorem subscribers_modifyDependencies (g : Graph V C) (t : Tracker) (s : Source)
    (f : List Source → List Source) :
    (g.modifyDependencies t f).subscribers s = g.subscribers s := by
  cases t with
  | derived i =>
    cases s with
    | wire j => rfl
    | derived j =>
      exact derived_modifyDerived_of Derived.subscribers
        (f := fun d => { d with dependencies := f d.dependencies }) (fun _ => rfl) g i j
  | effect i => cases s <;> rfl

theorem dependencies_modifyDependencies (g : Graph V C) (t t' : Tracker)
    (f : List Source → List Source) [Decidable (g.HasTracker t)] :
    (g.modifyDependencies t f).dependencies t' =
      if t = t' ∧ g.HasTracker t then f (g.dependencies t') else g.dependencies t' := by
  cases t with
  | derived i =>
    cases t' with
    | derived j =>
      simp only [modifyDependencies, dependencies, derived_modifyDerived,
        Tracker.derived.injEq, HasTracker]
      by_cases same : i = j
      · subst same
        split <;> rfl
      · simp [same]
    | effect j => simp [modifyDependencies, dependencies]
  | effect i =>
    cases t' with
    | derived j => simp [modifyDependencies, dependencies]
    | effect j =>
      simp only [modifyDependencies, dependencies, effect_modifyEffect, Tracker.effect.injEq,
        HasTracker]
      by_cases same : i = j
      · subst same
        split <;> rfl
      · simp [same]

end Sides

omit [Inhabited V] [Inhabited C] in
theorem hasTracker_modifySubscribers (g : Graph V C) (s : Source) (f : List Tracker → List Tracker)
    (t : Tracker) : (g.modifySubscribers s f).HasTracker t ↔ g.HasTracker t := by
  cases s <;> cases t <;> simp [modifySubscribers, modifyWire, modifyDerived, HasTracker]

theorem dependencies_of_absent {g : Graph V C} (h : ¬ g.HasTracker t) : g.dependencies t = [] := by
  cases t with
  | derived i =>
    rw [dependencies, derived_of_size_le (Nat.le_of_not_lt h)]
    rfl
  | effect i =>
    rw [dependencies, effect_of_size_le (Nat.le_of_not_lt h)]
    rfl

theorem subscribers_of_absent {g : Graph V C} (h : ¬ g.HasSource s) : g.subscribers s = [] := by
  cases s with
  | wire i =>
    rw [subscribers, wire_of_size_le (Nat.le_of_not_lt h)]
    rfl
  | derived i =>
    rw [subscribers, derived_of_size_le (Nat.le_of_not_lt h)]
    rfl

open Classical in
theorem mem_dependencies_link {g : Graph V C} (ht : g.HasTracker t) :
    s' ∈ (g.link s t).dependencies t' ↔ (s' = s ∧ t' = t) ∨ s' ∈ g.dependencies t' := by
  have there := (hasTracker_modifySubscribers g s (adjoin t) t).mpr ht
  rw [link, dependencies_modifyDependencies, dependencies_modifySubscribers]
  by_cases same : t = t'
  · simp [same, same ▸ there, mem_adjoin]
  · simp [same, Ne.symm same]

open Classical in
theorem mem_subscribers_link {g : Graph V C} (hs : g.HasSource s) :
    t' ∈ (g.link s t).subscribers s' ↔ (s' = s ∧ t' = t) ∨ t' ∈ g.subscribers s' := by
  rw [link, subscribers_modifyDependencies, subscribers_modifySubscribers]
  by_cases same : s = s'
  · simp [same, same ▸ hs, mem_adjoin]
  · simp [same, Ne.symm same]

theorem Converse.link {g : Graph V C} (h : g.Converse) (hs : g.HasSource s) (ht : g.HasTracker t) :
    (g.link s t).Converse := by
  intro s' t'
  rw [mem_dependencies_link ht, mem_subscribers_link hs, h s' t']

open Classical in
theorem dependencies_clear (g : Graph V C) (t t' : Tracker) :
    (g.modifyDependencies t fun _ => []).dependencies t' =
      if t' = t then [] else g.dependencies t' := by
  rw [dependencies_modifyDependencies]
  by_cases same : t' = t
  · subst same
    by_cases there : g.HasTracker t'
    · simp [there]
    · simp [there, dependencies_of_absent there]
  · simp [same, Ne.symm same]

open Classical in
theorem dependencies_forget (g : Graph V C) (t t' : Tracker) :
    (g.forget t).dependencies t' = if t' = t then [] else g.dependencies t' := by
  have others (ss : List Source) (g : Graph V C) :
      (ss.foldl (fun g s => g.modifySubscribers s fun ts => ts.filter (· ≠ t)) g).dependencies t' =
        g.dependencies t' := by
    induction ss generalizing g with
    | nil => rfl
    | cons s ss ih => exact (ih _).trans (dependencies_modifySubscribers g s t' _)
  rw [forget, dependencies_clear, others]

open Classical in
theorem mem_subscribers_forget (g : Graph V C) (t t' : Tracker) (s : Source) :
    t' ∈ (g.forget t).subscribers s ↔
      t' ∈ g.subscribers s ∧ (t' = t → s ∉ g.dependencies t) := by
  have unsubscribed (ss : List Source) (g : Graph V C) :
      t' ∈ (ss.foldl (fun g s => g.modifySubscribers s fun ts => ts.filter (· ≠ t)) g).subscribers s ↔
        t' ∈ g.subscribers s ∧ (t' = t → s ∉ ss) := by
    induction ss generalizing g with
    | nil => simp
    | cons first ss ih =>
      rw [List.foldl_cons, ih, subscribers_modifySubscribers]
      by_cases same : first = s
      · subst same
        by_cases there : g.HasSource first
        · by_cases mine : t' = t <;> simp [there, mine]
        · simp [there, subscribers_of_absent there]
      · simp [same, Ne.symm same]
  rw [forget, subscribers_modifyDependencies, unsubscribed]

theorem Converse.forget {g : Graph V C} (h : g.Converse) (t : Tracker) :
    (g.forget t).Converse := by
  intro s t'
  rw [dependencies_forget, mem_subscribers_forget, h s t]
  by_cases same : t' = t
  · subst same
    simp
  · simp [same, h s t']

theorem sameLinks_markDisposed (g : Graph V C) (i : Nat) :
    SameLinks g (g.modifyEffect i fun e => { e with disposed := true }) :=
  sameLinks_modifyEffect g i fun _ => rfl

theorem Converse.dispose {g : Graph V C} (h : g.Converse) (i : Nat) : (g.dispose i).Converse :=
  ((sameLinks_markDisposed g i).converse h).forget (.effect i)

open Classical in
theorem dependencies_dispose (g : Graph V C) (i : Nat) (t : Tracker) :
    (g.dispose i).dependencies t = if t = .effect i then [] else g.dependencies t := by
  rw [dispose, dependencies_forget, (sameLinks_markDisposed g i).dependencies]

theorem disposed_dispose (g : Graph V C) (i : Nat) : ((g.dispose i).effect i).disposed = true := by
  rw [(relinks_dispose g i).effect_of Effect.disposed fun _ _ => rfl, effect_modifyEffect]
  by_cases there : i < g.effects.size
  · simp [there]
  · simp [there, effect_of_size_le (Nat.le_of_not_lt there)]

theorem effect_dispose_of_ne (h : i ≠ j) (g : Graph V C) : (g.dispose i).effect j = g.effect j := by
  obtain ⟨ss, he⟩ := (relinks_dispose g i).effect j
  rw [effect_modifyEffect, if_neg fun hj => h hj.1] at he
  have same : (g.dispose i).dependencies (.effect j) = g.dependencies (.effect j) := by
    rw [dependencies_dispose, if_neg fun e => h (Tracker.effect.inj e).symm]
  simp only [dependencies, he] at same
  rw [he, same]

open Classical in
theorem dependencies_track_idle {g : Graph V C} (idle : t ∉ g.stack)
    (s : Source) : (g.track s).dependencies t = g.dependencies t := by
  unfold track
  split
  · rfl
  · rename_i t' rest hs
    have other : ¬ (t' = t ∧ (g.modifySubscribers s (adjoin t')).HasTracker t') :=
      fun same => idle (hs ▸ same.1 ▸ List.mem_cons_self)
    rw [link, dependencies_modifyDependencies, if_neg other, dependencies_modifySubscribers]

open Classical in
theorem mem_dependencies_track {g : Graph V C} (mem : s' ∈ (g.track s).dependencies t) :
    s' ∈ g.dependencies t ∨ s' = s ∧ g.stack.head? = some t := by
  unfold track at mem
  split at mem
  · exact .inl mem
  · rename_i hs
    rw [link, dependencies_modifyDependencies, dependencies_modifySubscribers] at mem
    split at mem
    case isTrue here => exact (mem_adjoin.mp mem).symm.imp_right fun same => ⟨same, by rw [hs, here.1]; rfl⟩
    case isFalse => exact .inl mem

end AttrBinder.Reactive.Graph
