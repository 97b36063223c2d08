import Mathlib.Tactic.Common
import AttrBinder.Reactive.Graph

/-!
What each update of a dependency graph does to what can be looked up in it. An update of one wire,
derived value or effect is seen through the projections that it leaves alone, so that later
arguments do not open arrays.
-/

namespace AttrBinder.Reactive.Graph

variable {V C : Type}

theorem mem_adjoin {α : Type} [DecidableEq α] {a b : α} {xs : List α} :
    b ∈ adjoin a xs ↔ b = a ∨ b ∈ xs := by
  unfold adjoin
  split
  · rename_i h
    constructor
    · exact Or.inr
    · rintro (rfl | hb)
      · exact h
      · exact hb
  · rw [List.mem_append, List.mem_singleton, or_comm]

section Wires

variable [Inhabited V]

theorem wire_modifyWire (g : Graph V C) (i j : Nat) (f : Wire V → Wire V) :
    (g.modifyWire i f).wire j = if i = j ∧ j < g.wires.size then f (g.wire j) else g.wire j := by
  simp only [wire, modifyWire, Array.getD_eq_getD_getElem?, Array.getElem?_modify]
  by_cases h : i = j
  · subst h
    by_cases hj : i < g.wires.size <;> simp [hj]
  · simp [h]

theorem wire_modifyWire_of {α : Type} (π : Wire V → α) (hf : ∀ w, π (f w) = π w) (g : Graph V C)
    (i j : Nat) :
    π ((g.modifyWire i f).wire j) = π (g.wire j) := by
  rw [wire_modifyWire]
  split
  · exact hf _
  · rfl

@[simp] theorem wire_modifyDerived (g : Graph V C) (i : Nat) (f : Derived V C → Derived V C) :
    (g.modifyDerived i f).wire = g.wire := rfl

@[simp] theorem wire_modifyEffect (g : Graph V C) (i : Nat) (f : Effect C → Effect C) :
    (g.modifyEffect i f).wire = g.wire := rfl

theorem wire_addWire (g : Graph V C) (v : V) (j : Nat) :
    (g.addWire v).wire j = if j = g.wires.size then ⟨v, false, []⟩ else g.wire j := by
  simp only [wire, addWire, Array.getD_eq_getD_getElem?, Array.getElem?_push]
  split <;> rfl

theorem wire_of_size_le {g : Graph V C} (h : g.wires.size ≤ i) : g.wire i = default := by
  simp only [wire, Array.getD_eq_getD_getElem?, Array.getElem?_eq_none h, Option.getD_none]

end Wires

section Deriveds

variable [Inhabited V] [Inhabited C]

theorem derived_modifyDerived (g : Graph V C) (i j : Nat) (f : Derived V C → Derived V C) :
    (g.modifyDerived i f).derived j =
      if i = j ∧ j < g.deriveds.size then f (g.derived j) else g.derived j := by
  simp only [derived, modifyDerived, Array.getD_eq_getD_getElem?, Array.getElem?_modify]
  by_cases h : i = j
  · subst h
    by_cases hj : i < g.deriveds.size <;> simp [hj]
  · simp [h]

theorem derived_modifyDerived_of {α : Type} (π : Derived V C → α) (hf : ∀ d, π (f d) = π d)
    (g : Graph V C) (i j : Nat) :
    π ((g.modifyDerived i f).derived j) = π (g.derived j) := by
  rw [derived_modifyDerived]
  split
  · exact hf _
  · rfl

@[simp] theorem derived_modifyWire (g : Graph V C) (i : Nat) (f : Wire V → Wire V) :
    (g.modifyWire i f).derived = g.derived := rfl

@[simp] theorem derived_modifyEffect (g : Graph V C) (i : Nat) (f : Effect C → Effect C) :
    (g.modifyEffect i f).derived = g.derived := rfl

theorem dirty_setComputing (g : Graph V C) (i j : Nat) (b : Bool) :
    ((g.setComputing i b).derived j).dirty = (g.derived j).dirty :=
  derived_modifyDerived_of Derived.dirty (f := ({ · with computing := b })) (fun _ => rfl) g i j

theorem computing_setComputing {g : Graph V C} (h : i < g.deriveds.size) (b : Bool)
    (j : Nat) : ((g.setComputing i b).derived j).computing =
      if i = j then b else (g.derived j).computing := by
  rw [setComputing, derived_modifyDerived]
  by_cases same : i = j
  · subst same
    simp [h]
  · simp [same]

theorem computing_keep (g : Graph V C) (i j : Nat) (v : V) :
    ((g.keep i v).derived j).computing = (g.derived j).computing :=
  derived_modifyDerived_of Derived.computing (f := ({ · with cache := v, dirty := false }))
    (fun _ => rfl) g i j

theorem dirty_keep {g : Graph V C} (h : i < g.deriveds.size) (v : V) (j : Nat) :
    ((g.keep i v).derived j).dirty = if i = j then false else (g.derived j).dirty := by
  rw [keep, derived_modifyDerived]
  by_cases same : i = j
  · subst same
    simp [h]
  · simp [same]

theorem cache_keep {g : Graph V C} (h : i < g.deriveds.size) (v : V) :
    ((g.keep i v).derived i).cache = v := by
  simp [keep, derived_modifyDerived, h]

theorem derived_addDerived (g : Graph V C) (l : Label) (c : C) (j : Nat) :
    (g.addDerived l c).derived j =
      if j = g.deriveds.size then ⟨l, c, default, true, false, [], []⟩ else g.derived j := by
  simp only [derived, addDerived, Array.getD_eq_getD_getElem?, Array.getElem?_push]
  split <;> rfl

theorem derived_of_size_le {g : Graph V C} (h : g.deriveds.size ≤ i) : g.derived i = default := by
  simp only [derived, Array.getD_eq_getD_getElem?, Array.getElem?_eq_none h, Option.getD_none]

theorem derived_lt_of_clean {g : Graph V C} (clean : (g.derived d).dirty = false) :
    d < g.deriveds.size := by
  by_contra absent
  rw [derived_of_size_le (Nat.le_of_not_lt absent)] at clean
  cases clean

end Deriveds

section Effects

variable [Inhabited C]

theorem effect_modifyEffect (g : Graph V C) (i j : Nat) (f : Effect C → Effect C) :
    (g.modifyEffect i f).effect j =
      if i = j ∧ j < g.effects.size then f (g.effect j) else g.effect j := by
  simp only [effect, modifyEffect, Array.getD_eq_getD_getElem?, Array.getElem?_modify]
  by_cases h : i = j
  · subst h
    by_cases hj : i < g.effects.size <;> simp [hj]
  · simp [h]

theorem effect_modifyEffect_of {α : Type} (π : Effect C → α) (hf : ∀ e, π (f e) = π e)
    (g : Graph V C) (i j : Nat) :
    π ((g.modifyEffect i f).effect j) = π (g.effect j) := by
  rw [effect_modifyEffect]
  split
  · exact hf _
  · rfl

@[simp] theorem effect_modifyWire (g : Graph V C) (i : Nat) (f : Wire V → Wire V) :
    (g.modifyWire i f).effect = g.effect := rfl

@[simp] theorem effect_modifyDerived (g : Graph V C) (i : Nat) (f : Derived V C → Derived V C) :
    (g.modifyDerived i f).effect = g.effect := rfl

theorem effect_addEffect (g : Graph V C) (l : Label) (c : C) (j : Nat) :
    (g.addEffect l c).effect j =
      if j = g.effects.size then ⟨l, c, 0, false, false, false, []⟩ else g.effect j := by
  simp only [effect, addEffect, Array.getD_eq_getD_getElem?, Array.getElem?_push]
  split <;> rfl

theorem effect_of_size_le {g : Graph V C} (h : g.effects.size ≤ i) :
    g.effect i = { (default : Effect C) with disposed := true } := by
  simp only [effect, Array.getD_eq_getD_getElem?, Array.getElem?_eq_none h, Option.getD_none]

theorem effect_lt_of_not_disposed {g : Graph V C} (h : (g.effect i).disposed = false) :
    i < g.effects.size := by
  by_contra hi
  rw [effect_of_size_le (Nat.le_of_not_lt hi)] at h
  cases h

end Effects

section Stack

variable [Inhabited V] [Inhabited C]

@[simp] theorem derived_push (g : Graph V C) (t : Tracker) : (g.push t).derived = g.derived := rfl

omit [Inhabited V] in
@[simp] theorem effect_push (g : Graph V C) (t : Tracker) : (g.push t).effect = g.effect := rfl

omit [Inhabited V] [Inhabited C] in
theorem queue_push (g : Graph V C) (t : Tracker) : (g.push t).queue = g.queue := rfl

@[simp] theorem dependencies_push (g : Graph V C) (t t' : Tracker) :
    (g.push t).dependencies t' = g.dependencies t' := rfl

@[simp] theorem derived_pop (g : Graph V C) : g.pop.derived = g.derived := rfl

omit [Inhabited V] in
@[simp] theorem effect_pop (g : Graph V C) : g.pop.effect = g.effect := rfl

@[simp] theorem dependencies_pop (g : Graph V C) (t : Tracker) :
    g.pop.dependencies t = g.dependencies t := rfl

end Stack

/-- Two graphs that differ in the links between sources and trackers at most. -/
structure Relinks [Inhabited V] [Inhabited C] (g g' : Graph V C) : Prop where
  wires : g'.wires.size = g.wires.size
  wire : ∀ i, ∃ ts, g'.wire i = { g.wire i with subscribers := ts }
  deriveds : g'.deriveds.size = g.deriveds.size
  derived : ∀ d, ∃ ss ts, g'.derived d = { g.derived d with dependencies := ss, subscribers := ts }
  effects : g'.effects.size = g.effects.size
  effect : ∀ i, ∃ ss, g'.effect i = { g.effect i with dependencies := ss }
  stack : g'.stack = g.stack
  depth : g'.depth = g.depth
  queue : g'.queue = g.queue

section Links

variable [Inhabited V] [Inhabited C]

theorem Relinks.refl (g : Graph V C) : Relinks g g :=
  ⟨rfl, fun _ => ⟨_, rfl⟩, rfl, fun _ => ⟨_, _, rfl⟩, rfl, fun _ => ⟨_, rfl⟩, rfl, rfl, rfl⟩

theorem Relinks.trans {f g h : Graph V C} (a : Relinks f g) (b : Relinks g h) : Relinks f h where
  wires := b.wires.trans a.wires
  wire i := by
    obtain ⟨ts, ha⟩ := a.wire i
    obtain ⟨ts', hb⟩ := b.wire i
    exact ⟨ts', by rw [hb, ha]⟩
  deriveds := b.deriveds.trans a.deriveds
  derived d := by
    obtain ⟨ss, ts, ha⟩ := a.derived d
    obtain ⟨ss', ts', hb⟩ := b.derived d
    exact ⟨ss', ts', by rw [hb, ha]⟩
  effects := b.effects.trans a.effects
  effect i := by
    obtain ⟨ss, ha⟩ := a.effect i
    obtain ⟨ss', hb⟩ := b.effect i
    exact ⟨ss', by rw [hb, ha]⟩
  stack := b.stack.trans a.stack
  depth := b.depth.trans a.depth
  queue := b.queue.trans a.queue

theorem Relinks.derived_of {α : Type} (h : Relinks g g') (π : Derived V C → α)
    (hπ : ∀ x ss ts, π { x with dependencies := ss, subscribers := ts } = π x) (d : Nat) :
    π (g'.derived d) = π (g.derived d) := by
  obtain ⟨ss, ts, hd⟩ := h.derived d
  rw [hd]
  exact hπ _ ss ts

theorem Relinks.effect_of {α : Type} {g g' : Graph V C} (h : Relinks g g') (π : Effect C → α)
    (hπ : ∀ x ss, π { x with dependencies := ss } = π x) (i : Nat) :
    π (g'.effect i) = π (g.effect i) := by
  obtain ⟨ss, he⟩ := h.effect i
  rw [he]
  exact hπ _ ss

theorem relinks_modifySubscribers (g : Graph V C) (s : Source) (f : List Tracker → List Tracker) :
    Relinks g (g.modifySubscribers s f) := by
  cases s with
  | wire i =>
    refine ⟨Array.size_modify, fun j => ?_, rfl, fun _ => ⟨_, _, rfl⟩, rfl, fun _ => ⟨_, rfl⟩, rfl,
      rfl, rfl⟩
    simp only [modifySubscribers, wire_modifyWire]
    split <;> exact ⟨_, rfl⟩
  | derived i =>
    refine ⟨rfl, fun _ => ⟨_, rfl⟩, Array.size_modify, fun j => ?_, rfl, fun _ => ⟨_, rfl⟩, rfl, rfl,
      rfl⟩
    simp only [modifySubscribers, derived_modifyDerived]
    split <;> exact ⟨_, _, rfl⟩

theorem relinks_modifyDependencies (g : Graph V C) (t : Tracker) (f : List Source → List Source) :
    Relinks g (g.modifyDependencies t f) := by
  cases t with
  | derived i =>
    refine ⟨rfl, fun _ => ⟨_, rfl⟩, Array.size_modify, fun j => ?_, rfl, fun _ => ⟨_, rfl⟩, rfl, rfl,
      rfl⟩
    simp only [modifyDependencies, derived_modifyDerived]
    split <;> exact ⟨_, _, rfl⟩
  | effect i =>
    refine ⟨rfl, fun _ => ⟨_, rfl⟩, rfl, fun _ => ⟨_, _, rfl⟩, Array.size_modify, fun j => ?_, rfl,
      rfl, rfl⟩
    simp only [modifyDependencies, effect_modifyEffect]
    split <;> exact ⟨_, rfl⟩

theorem relinks_track (g : Graph V C) (s : Source) : Relinks g (g.track s) := by
  unfold track
  split
  · exact .refl g
  · exact (relinks_modifySubscribers g s _).trans (relinks_modifyDependencies _ _ _)

theorem relinks_forget (g : Graph V C) (t : Tracker) : Relinks g (g.forget t) := by
  have unsubscribed (ss : List Source) (g : Graph V C) : Relinks g
      (ss.foldl (fun g s => g.modifySubscribers s fun ts => ts.filter (· ≠ t)) g) := by
    induction ss generalizing g with
    | nil => exact .refl g
    | cons s ss ih => exact (relinks_modifySubscribers g s _).trans (ih _)
  rw [forget]
  exact (unsubscribed _ g).trans (relinks_modifyDependencies _ t _)

theorem relinks_dispose (g : Graph V C) (i : Nat) :
    Relinks (g.modifyEffect i fun e => { e with disposed := true }) (g.dispose i) :=
  relinks_forget _ _

end Links

end AttrBinder.Reactive.Graph
