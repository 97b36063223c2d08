import AttrBinder.Proofs.Reactive.Evaluation
import AttrBinder.Proofs.Reactive.Tracking

/-!
Caches against evaluation. A source is `Settled` when its value rests, through derived values that
are up to date and depend on what they have read, on what the wires hold now; it then gives this
value. Reading changes a graph in one direction only, by `Ripens`: what is settled stays settled.
-/

namespace AttrBinder.Reactive

variable {V C H E : Type}

def lastRun (t : Tracker) : List (Sight V C E) → Option (List (Source × V))
  | [] => none
  | x :: earlier => match x.moment with
    | some (.ended t' _) =>
      if t' = t then (frames earlier).head?.map Frame.reads else lastRun t earlier
    | _ => lastRun t earlier

/-- An effect has been given up because it kept starting itself. -/
def Overran (past : List (Sight V C E)) : Prop :=
  ∃ x ∈ past, ∃ i, x.moment = some (.overran i)

def Moment.isOverran : Moment V E → Bool
  | .overran _ => true
  | _ => false

instance (past : List (Sight V C E)) : Decidable (Overran past) :=
  decidable_of_iff (past.any fun x => x.moment.any Moment.isOverran) <| by
    simp only [Overran, List.any_eq_true]
    refine exists_congr fun x => and_congr_right fun _ => ?_
    rcases x with ⟨moment, g⟩
    cases moment with
    | none => simp
    | some m => cases m <;> simp [Moment.isOverran]

theorem overran_cons :
    Overran (x :: past) ↔ (∃ i, x.moment = some (.overran i)) ∨ Overran past := by
  simp [Overran]

theorem Overran.later (h : Overran past) (x : Sight V C E) : Overran (x :: past) :=
  overran_cons.mpr (.inr h)

variable [Inhabited V] [Inhabited C]

namespace Graph

def values (g : Graph V C) (i : Nat) : V :=
  (g.wire i).value

/-- Wires hold the same in both graphs, and derived values that are up to date stay as they are. -/
structure Firm (g g' : Graph V C) : Prop where
  values : g'.values = g.values
  clean : ∀ d, (g.derived d).dirty = false → (g'.derived d).dirty = false ∧
    (g'.derived d).cache = (g.derived d).cache ∧
    ∀ s ∈ (g.derived d).dependencies, s ∈ (g'.derived d).dependencies

/-- What reading does to a graph: links are added, and derived values come up to date. -/
structure Ripens (g g' : Graph V C) : Prop where
  wires : g'.wires.size = g.wires.size
  wire : ∀ i, ∃ ts, g'.wire i = { g.wire i with subscribers := ts }
  deriveds : g'.deriveds.size = g.deriveds.size
  body : ∀ d, (g'.derived d).body = (g.derived d).body
  clean : ∀ d, (g.derived d).dirty = false → (g'.derived d).dirty = false ∧
    (g'.derived d).cache = (g.derived d).cache ∧
    ∀ s ∈ (g.derived d).dependencies, s ∈ (g'.derived d).dependencies
  effects : g'.effects.size = g.effects.size
  effect : ∀ i, ∃ ss, g'.effect i = { g.effect i with dependencies := ss } ∧
    ∀ s ∈ (g.effect i).dependencies, s ∈ ss
  depth : g'.depth = g.depth
  queue : g'.queue = g.queue

namespace Ripens

theorem refl (g : Graph V C) : Ripens g g :=
  ⟨rfl, fun _ => ⟨_, rfl⟩, rfl, fun _ => rfl, fun _ h => ⟨h, rfl, fun _ hs => hs⟩, rfl,
    fun _ => ⟨_, rfl, fun _ hs => hs⟩, rfl, rfl⟩

theorem trans {f g h : Graph V C} (a : Ripens f g) (b : Ripens g h) : Ripens f h where
  wires := b.wires.trans a.wires
  wire i := by
    obtain ⟨ts, ha⟩ := a.wire i
    obtain ⟨ts', hb⟩ := b.wire i
    exact ⟨ts', by rw [hb, ha]⟩
  deriveds := b.deriveds.trans a.deriveds
  body d := (b.body d).trans (a.body d)
  clean d hd := by
    obtain ⟨clean, cache, deps⟩ := a.clean d hd
    obtain ⟨clean', cache', deps'⟩ := b.clean d clean
    exact ⟨clean', cache'.trans cache, fun s hs => deps' s (deps s hs)⟩
  effects := b.effects.trans a.effects
  effect i := by
    obtain ⟨ss, ha, hss⟩ := a.effect i
    obtain ⟨ss', hb, hss'⟩ := b.effect i
    rw [ha] at hb hss'
    exact ⟨ss', hb, fun s hs => hss' s (hss s hs)⟩
  depth := b.depth.trans a.depth
  queue := b.queue.trans a.queue

theorem values {g g' : Graph V C} (h : Ripens g g') : g'.values = g.values := by
  funext i
  obtain ⟨ts, hw⟩ := h.wire i
  simp only [Graph.values, hw]

theorem firm {g g' : Graph V C} (h : Ripens g g') : Firm g g' :=
  ⟨h.values, h.clean⟩

end Ripens

theorem ripens_of_eq {g g' : Graph V C} (wires : g'.wires = g.wires)
    (deriveds : g'.deriveds = g.deriveds) (effects : g'.effects = g.effects)
    (depth : g'.depth = g.depth) (queue : g'.queue = g.queue) : Ripens g g' := by
  cases g
  cases g'
  cases wires
  cases deriveds
  cases effects
  cases depth
  cases queue
  exact ⟨rfl, fun _ => ⟨_, rfl⟩, rfl, fun _ => rfl, fun _ h => ⟨h, rfl, fun _ hs => hs⟩, rfl,
    fun _ => ⟨_, rfl, fun _ hs => hs⟩, rfl, rfl⟩

theorem ripens_push (g : Graph V C) (t : Tracker) : Ripens g (g.push t) :=
  ripens_of_eq rfl rfl rfl rfl rfl

theorem ripens_pop (g : Graph V C) : Ripens g g.pop :=
  ripens_of_eq rfl rfl rfl rfl rfl

theorem ripens_modifyDerived (g : Graph V C) (d : Nat) {f : Derived V C → Derived V C}
    (body : ∀ x, (f x).body = x.body)
    (clean : (g.derived d).dirty = false → (f (g.derived d)).dirty = false ∧
      (f (g.derived d)).cache = (g.derived d).cache ∧
      ∀ s ∈ (g.derived d).dependencies, s ∈ (f (g.derived d)).dependencies) :
    Ripens g (g.modifyDerived d f) where
  wires := rfl
  wire _ := ⟨_, rfl⟩
  deriveds := Array.size_modify
  body := derived_modifyDerived_of Derived.body body g d
  clean j hj := by
    rw [derived_modifyDerived]
    split
    · rename_i same
      obtain ⟨rfl, _⟩ := same
      exact clean hj
    · exact ⟨hj, rfl, fun _ hs => hs⟩
  effects := rfl
  effect _ := ⟨_, rfl, fun _ hs => hs⟩
  depth := rfl
  queue := rfl

theorem ripens_setComputing (g : Graph V C) (d : Nat) (b : Bool) : Ripens g (g.setComputing d b) :=
  ripens_modifyDerived g d (fun _ => rfl) fun clean => ⟨clean, rfl, fun _ hs => hs⟩

theorem ripens_keep (g : Graph V C) (dirty : (g.derived d).dirty = true) (v : V) :
    Ripens g (g.keep d v) := by
  refine ripens_modifyDerived g d (fun _ => rfl) fun clean => ?_
  rw [dirty] at clean
  cases clean

/-- New links ripen a graph, as long as no derived value that is up to date and no effect loses
what it depends on. -/
theorem Relinks.ripens {g g' : Graph V C} (h : Relinks g g')
    (deriveds : ∀ d, (g.derived d).dirty = false →
      ∀ s ∈ g.dependencies (.derived d), s ∈ g'.dependencies (.derived d))
    (effects : ∀ i, ∀ s ∈ g.dependencies (.effect i), s ∈ g'.dependencies (.effect i)) :
    Ripens g g' where
  wires := h.wires
  wire := h.wire
  deriveds := h.deriveds
  body := h.derived_of Derived.body fun _ _ _ => rfl
  clean d hd := ⟨(h.derived_of Derived.dirty (fun _ _ _ => rfl) d).trans hd,
    h.derived_of Derived.cache (fun _ _ _ => rfl) d, deriveds d hd⟩
  effects := h.effects
  effect i := by
    obtain ⟨ss, he⟩ := h.effect i
    refine ⟨ss, he, fun s hs => ?_⟩
    have after := effects i s hs
    rw [dependencies, he] at after
    exact after
  depth := h.depth
  queue := h.queue

open Classical in
theorem dependencies_track (g : Graph V C) (s : Source) (t : Tracker) :
    ∀ s' ∈ g.dependencies t, s' ∈ (g.track s).dependencies t := by
  intro s' hs'
  unfold track
  split
  · exact hs'
  · rw [link, dependencies_modifyDependencies, dependencies_modifySubscribers]
    split
    · exact mem_adjoin.mpr (.inr hs')
    · exact hs'

theorem ripens_track (g : Graph V C) (s : Source) : Ripens g (g.track s) :=
  (relinks_track g s).ripens (fun d _ => dependencies_track g s (.derived d))
    fun i => dependencies_track g s (.effect i)

theorem ripens_forget (g : Graph V C) {d : Nat} (dirty : (g.derived d).dirty = true) :
    Ripens g (g.forget (.derived d)) := by
  refine (relinks_forget g _).ripens ?_ ?_
  · intro j clean s hs
    have other : Tracker.derived j ≠ .derived d := by
      rintro ⟨⟩
      rw [dirty] at clean
      cases clean
    rwa [dependencies_forget, if_neg other]
  · intro i s hs
    rwa [dependencies_forget, if_neg (by simp)]

end Graph

namespace Sheet

/-- A graph with the wires and derived values of a sheet. -/
structure Fits (S : Sheet V C H) (g : Graph V C) : Prop where
  wires : g.wires.size = S.wires
  deriveds : g.deriveds.size = S.deriveds
  formula : ∀ d, d < S.deriveds → (g.derived d).body = S.formula d
  holds : S.Holds g.values
  thawed : ∀ i, (g.wire i).frozen = false
  action : ∀ i, i < g.effects.size → S.action (g.effect i).body

theorem Fits.ripens {S : Sheet V C H} {g g' : Graph V C} (h : S.Fits g) (r : g.Ripens g') :
    S.Fits g' where
  wires := r.wires.trans h.wires
  deriveds := r.deriveds.trans h.deriveds
  formula d hd := (r.body d).trans (h.formula d hd)
  holds := r.values ▸ h.holds
  thawed i := by
    obtain ⟨ts, hw⟩ := r.wire i
    rw [hw]
    exact h.thawed i
  action i hi := by
    obtain ⟨ss, he, _⟩ := r.effect i
    rw [he]
    exact h.action i (r.effects ▸ hi)

variable [Preorder H] (S : Sheet V C H) (Γ : Setting V C H E)

/-- A source whose value rests on what the wires hold. -/
inductive Settled (g : Graph V C) : Source → V → Prop
  | wire {i : Nat} : i < S.wires → Settled g (.wire i) (g.wire i).value
  | derived {d : Nat} {L : List (Source × V)} {r : Option V} : d < S.deriveds →
      (g.derived d).dirty = false → (g.derived d).cache = r.getD default →
      S.Formula Γ d L r →
      (∀ s v, (s, v) ∈ L → s ∈ (g.derived d).dependencies) →
      (∀ s v, (s, v) ∈ L → Settled g s v) → Settled g (.derived d) (g.derived d).cache

variable {S Γ} {g g' : Graph V C} {s : Source} {v : V}

theorem Settled.gives (h : S.Settled Γ g s v) : S.Gives Γ g.values s v := by
  induction h with
  | wire hi => exact .wire hi
  | derived hd _ cache traced _ _ ih =>
    rw [cache]
    exact .derived hd traced ih

theorem Settled.cache_eq (h : S.Settled Γ g (.derived d) v) : (g.derived d).cache = v := by
  cases h
  rfl

theorem Settled.firm (h : S.Settled Γ g s v) (f : g.Firm g') : S.Settled Γ g' s v := by
  induction h with
  | @wire i hi =>
    have same : (g.wire i).value = (g'.wire i).value := (congrFun f.values i).symm
    rw [same]
    exact .wire hi
  | @derived d L result hd clean cache traced linked _ ih =>
    obtain ⟨clean', cache', deps⟩ := f.clean d clean
    rw [← cache']
    exact .derived hd clean' (cache'.trans cache) traced (fun s v hv => deps s (linked s v hv)) ih

end Sheet

end AttrBinder.Reactive
