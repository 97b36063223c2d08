import Mathlib.Logic.Relation
import AttrBinder.Proofs.Reactive.Quiet
import AttrBinder.Proofs.Reactive.Tracking

/-!
What a system can do, one change at a time. Every run is a sequence of steps, whatever scripts do
and wherever the run stops (`perform_walks`), so that an invariant is shown by looking at one step
and at nothing else. A step comes with what is known where the system makes it.
-/

namespace AttrBinder.Reactive

variable {V C H E : Type} [Inhabited V] [Inhabited C]

def Graph.Starts (g : Graph V C) : Tracker → Prop
  | .derived d => (g.derived d).computing = true ∧ (g.derived d).dirty = true
  | .effect i => (g.effect i).running = true ∧ (g.effect i).disposed = false

theorem Graph.Starts.active {g : Graph V C} (h : g.Starts t) : g.Active t := by
  cases t <;> exact h.1

theorem Graph.starts_countRun {g : Graph V C} (h : g.Starts (.effect i)) :
    (g.countRun i).Starts (.effect i) := by
  have same := Graph.effect_modifyEffect_of (fun e => (e.running, e.disposed))
    (f := fun e => { e with rerun := false, runs := e.runs + 1 }) (fun _ => rfl) g i i
  exact ⟨(congrArg Prod.fst same).trans h.1, (congrArg Prod.snd same).trans h.2⟩

theorem Graph.starts_setRunning {g : Graph V C} (live : (g.effect i).disposed = false) :
    (g.setRunning i true).Starts (.effect i) := by
  simp [Starts, setRunning, effect_modifyEffect, effect_lt_of_not_disposed live, live]

/-- One change that the system makes. -/
inductive Step (Γ : Setting V C H E) (w : World V C (Recorded V C H E)) :
    World V C (Recorded V C H E) → Prop
  | look : Step Γ w { w with host := w.host.see none w.graph }
  | replace (h : H) : Step Γ w { w with host := { w.host with host := h } }
  | addWire (v : V) : Step Γ w (w.update (·.addWire v))
  | addDerived (l : Label) (c : C) : Step Γ w (w.update (·.addDerived l c))
  | addEffect (l : Label) (c : C) : Step Γ w (w.update (·.addEffect l c))
  | freeze (i : Nat) : Step Γ w (w.update (·.freeze i))
  | readWire {i : Nat} : i < w.graph.wires.size →
      Step Γ w (w.read Γ.recorded (.wire i) (w.graph.wire i).value)
  | readDerived {d : Nat} : (w.graph.derived d).dirty = false →
      Step Γ w (w.read Γ.recorded (.derived d) (w.graph.derived d).cache)
  | assign (i : Nat) (old v : V) : Step Γ w (w.assign Γ.recorded i old v)
  | tick : Step Γ w (w.update Graph.tick)
  | enter : Step Γ w (w.update Graph.enter)
  | depart : Step Γ w (w.update Graph.depart)
  | invalidate {d : Nat} : (w.graph.derived d).dirty = false →
      Step Γ w (w.update (·.invalidate d))
  | startComputing {d : Nat} : .derived d ∉ w.graph.stack → (w.graph.derived d).dirty = true →
      Step Γ w (w.update (·.setComputing d true))
  | stopComputing {d : Nat} : .derived d ∉ w.graph.stack →
      Step Γ w (w.update (·.setComputing d false))
  | keep (d : Nat) (v : V) : Step Γ w (w.update (·.keep d v))
  | startRunning {i : Nat} : .effect i ∉ w.graph.stack → (w.graph.effect i).disposed = false →
      (w.graph.effect i).running = false → Step Γ w (w.update (·.setRunning i true))
  | stopRunning {i : Nat} : .effect i ∉ w.graph.stack →
      Step Γ w (w.update (·.setRunning i false))
  | countRun {i : Nat} : (w.graph.effect i).running = true → (w.graph.effect i).disposed = false →
      Step Γ w (w.update (·.countRun i))
  | begin {t : Tracker} : t ∉ w.graph.stack → w.graph.Starts t →
      Step Γ w (w.begin Γ.recorded t)
  | finish {t : Tracker} {rest : List Tracker} (failure : Option E) : w.graph.stack = t :: rest →
      Step Γ w (w.finish Γ.recorded t failure)
  | requestRun {i : Nat} : (w.graph.effect i).running = true →
      Step Γ w (w.update (·.requestRun i))
  | enqueue {i : Nat} : (w.graph.effect i).disposed = false →
      (w.graph.effect i).running = false → Step Γ w (w.enqueue Γ.recorded i)
  | unqueue {i : Nat} {rest : List Nat} : w.graph.queue = i :: rest →
      Step Γ w (w.unqueue Γ.recorded i)
  | overran (i : Nat) : Step Γ w (w.tell Γ.recorded (.overran i))
  | dispose (i : Nat) : Step Γ w (w.dispose Γ.recorded i)

abbrev Leads (Γ : Setting V C H E) :
    World V C (Recorded V C H E) → World V C (Recorded V C H E) → Prop :=
  Relation.ReflTransGen (Step Γ)

variable {Γ : Setting V C H E} {w w' : World V C (Recorded V C H E)}

theorem Step.tracked (step : Step Γ w w') (h : Tracked w) : Tracked w' := by
  cases step with
  | look => exact h.look
  | replace host => exact h.replace host
  | addWire v => exact h.addWire v
  | addDerived l c => exact h.addDerived l c
  | addEffect l c => exact h.addEffect l c
  | freeze i => exact h.freeze i
  | readWire present => exact h.read Γ (s := .wire _) present _
  | readDerived clean => exact h.read Γ (s := .derived _) (Graph.derived_lt_of_clean clean) _
  | assign i old v => exact (h.setValue i v).tell Γ rfl (fun _ _ ended => nomatch ended)
  | tick => exact h.progress rfl rfl rfl rfl
  | enter => exact h.progress rfl rfl rfl rfl
  | depart => exact h.progress rfl rfl rfl rfl
  | invalidate clean => exact h.invalidate _
  | startComputing idle dirty => exact h.setComputing _ true idle
  | stopComputing idle => exact h.setComputing _ false idle
  | keep d v => exact h.keep d v
  | startRunning idle live => exact h.setRunning _ true idle
  | stopRunning idle => exact h.setRunning _ false idle
  | countRun => exact h.countRun _
  | begin idle starts => exact h.begin Γ idle starts.active
  | finish failure hs => exact h.finish Γ hs failure
  | requestRun => exact h.requestRun _
  | @enqueue i live idle =>
    exact (h.progress (f := (·.enqueue i)) rfl rfl rfl rfl).tell Γ rfl
      (fun _ _ ended => nomatch ended)
  | unqueue =>
    exact (h.progress (f := Graph.unqueue) rfl rfl rfl rfl).tell Γ rfl
      (fun _ _ ended => nomatch ended)
  | overran i => exact h.tell Γ rfl (fun _ _ ended => nomatch ended)
  | dispose i => exact h.dispose Γ i

theorem Leads.keeps {I : World V C (Recorded V C H E) → Prop} (leads : Leads Γ w w')
    (each : ∀ {w w'}, Tracked w → Step Γ w w' → I w → I w') (tracked : Tracked w)
    (h : I w) : Tracked w' ∧ I w' := by
  induction leads with
  | refl => exact ⟨tracked, h⟩
  | tail _ step ih => exact ⟨step.tracked ih.1, each ih.1 step ih.2⟩

theorem Leads.tracked (leads : Leads Γ w w') (h : Tracked w) : Tracked w' :=
  (leads.keeps (I := fun _ => True) (fun _ _ _ => trivial) h trivial).1

def Graph.Gone (g : Graph V C) (t : Tracker) : Prop :=
  ∃ i, t = .effect i ∧ (g.effect i).disposed = true

theorem Step.stays (step : Step Γ w w') (there : w.graph.HasTracker t) :
    w'.graph.HasTracker t ∧ (w.graph.Gone t → w'.graph.Gone t) := by
  -- What most steps do: arrays keep their sizes, and no effect changes whether it is disposed.
  have same {g : Graph V C} (deriveds : g.deriveds.size = w.graph.deriveds.size)
      (effects : g.effects.size = w.graph.effects.size)
      (disposed : ∀ i, (w.graph.effect i).disposed = true → (g.effect i).disposed = true) :
      g.HasTracker t ∧ (w.graph.Gone t → g.Gone t) := by
    refine ⟨?_, fun ⟨i, ht, gone⟩ => ⟨i, ht, disposed i gone⟩⟩
    cases t with
    | derived d => exact (deriveds.symm ▸ there : d < g.deriveds.size)
    | effect i => exact (effects.symm ▸ there : i < g.effects.size)
  have effect {f : Effect C → Effect C} (i : Nat) (h : ∀ e, (f e).disposed = e.disposed) :
      (w.graph.modifyEffect i f).HasTracker t ∧
        (w.graph.Gone t → (w.graph.modifyEffect i f).Gone t) :=
    same rfl Array.size_modify fun j gone =>
      (Graph.effect_modifyEffect_of Effect.disposed h w.graph i j).trans gone
  have relinks {g : Graph V C} (h : w.graph.Relinks g) :
      g.HasTracker t ∧ (w.graph.Gone t → g.Gone t) :=
    same h.deriveds h.effects fun i gone =>
      (h.effect_of Effect.disposed (fun _ _ => rfl) i).trans gone
  cases step with
  | look | replace | freeze | assign | tick | enter | depart | unqueue | enqueue | overran =>
    exact same rfl rfl fun _ gone => gone
  | finish => exact same rfl rfl fun _ gone => gone
  | addWire v => exact same rfl rfl fun _ gone => gone
  | addDerived l c =>
    cases t with
    | derived d =>
      refine ⟨?_, fun ⟨_, ht, _⟩ => nomatch ht⟩
      exact Nat.lt_of_lt_of_eq (Nat.lt_succ_of_lt there) (Array.size_push _).symm
    | effect i => exact ⟨there, fun ⟨j, ht, gone⟩ => ⟨j, ht, gone⟩⟩
  | addEffect l c =>
    cases t with
    | derived d => exact ⟨there, fun ⟨_, ht, _⟩ => nomatch ht⟩
    | effect i =>
      refine ⟨Nat.lt_of_lt_of_eq (Nat.lt_succ_of_lt there) (Array.size_push _).symm, ?_⟩
      rintro ⟨j, ht, gone⟩
      cases ht
      refine ⟨i, rfl, ?_⟩
      change ((w.graph.addEffect l c).effect i).disposed = true
      rw [Graph.effect_addEffect, if_neg (Nat.ne_of_lt there)]
      exact gone
  | readWire | readDerived => exact relinks (Graph.relinks_track w.graph _)
  | @begin t' => exact (relinks (Graph.relinks_forget w.graph t') :)
  | invalidate | startComputing | stopComputing | keep =>
    exact same Array.size_modify rfl fun _ gone => gone
  | startRunning | stopRunning | countRun | requestRun => exact effect _ fun _ => rfl
  | dispose i =>
    have h := Graph.relinks_dispose w.graph i
    refine same h.deriveds (h.effects.trans Array.size_modify) fun j gone => ?_
    refine (h.effect_of Effect.disposed (fun _ _ => rfl) j).trans ?_
    rw [Graph.effect_modifyEffect]
    split
    · rfl
    · exact gone

theorem Step.shows (step : Step Γ w w') :
    (∀ x ∈ w.host.past, x ∈ w'.host.past) ∧ ∀ i ∈ w'.graph.queue, i ∈ w.graph.queue ∨
      ∃ x ∈ w'.host.past, x.moment = some (.queued i) := by
  have grows (x : Sight V C E) : ∀ y ∈ w.host.past, y ∈ x :: w.host.past :=
    fun y mem => List.mem_cons_of_mem x mem
  cases step with
  | replace | freeze | tick | enter | depart | addWire | addDerived | addEffect | invalidate |
      startComputing | stopComputing | keep | startRunning | stopRunning | countRun | requestRun =>
      exact ⟨fun _ mem => mem, fun _ mem => .inl mem⟩
  | look | assign | overran | finish => exact ⟨grows _, fun _ mem => .inl mem⟩
  | readWire | readDerived =>
    exact ⟨grows _, fun i mem => .inl ((Graph.relinks_track w.graph _).queue ▸ mem)⟩
  | begin => exact ⟨grows _, fun i mem => .inl ((Graph.relinks_forget w.graph _).queue ▸ mem)⟩
  | dispose i =>
    exact ⟨grows _, fun j mem => .inl ((Graph.relinks_dispose w.graph i).queue ▸ mem)⟩
  | unqueue => exact ⟨grows _, fun i mem => .inl (List.mem_of_mem_tail mem)⟩
  | @enqueue i live idle =>
    refine ⟨grows _, fun j mem => ?_⟩
    rcases Graph.mem_adjoin.mp mem with rfl | queued
    · exact .inr ⟨_, List.mem_cons_self, rfl⟩
    · exact .inl queued

namespace Run

variable {α β : Type}

instance : Course Tracked (Leads Γ) := ⟨fun _ => .refl, .trans⟩

abbrev Walks (Γ : Setting V C H E) (m : Run V C (Recorded V C H E) E α)
    (w : World V C (Recorded V C H E)) : Prop :=
  Keeps Tracked (Leads Γ) m w

theorem walks_of_eq (hm : m w = o)
    (h : Tracked w → Leads Γ w o.world) : Walks Γ m w :=
  keeps_of_eq hm fun tracked => ⟨h tracked, (h tracked).tracked tracked⟩

theorem Walks.after (hm : Walks Γ m' w')
    (same : m w = m' w') (step : Tracked w → Step Γ w w') : Walks Γ m w :=
  Keeps.after hm same fun tracked => ⟨.single (step tracked), (step tracked).tracked tracked⟩

section Parts

variable {again : Task V C (Recorded V C H E) E → Run V C (Recorded V C H E) E (Option V)}
variable (hagain : ∀ (t : Task V C H E) w, Walks Γ (again t.recorded) w)
variable (hrest : ∀ t w, Restores (again t) w)

include hagain

theorem walks_readSource (s : Source) (w : World V C (Recorded V C H E)) :
    Walks Γ (readSource Γ.recorded again s) w := by
  cases s with
  | wire i =>
    by_cases present : i < w.graph.wires.size
    · exact walks_of_eq (readSource_wire present) fun _ => .single (.readWire present)
    · exact keeps_still (by rw [readSource_absent present]; rfl)
  | derived i =>
    rw [readSource_derived]
    exact (hagain (.value i) w).bind fun _ _ _ => keeps_still rfl

include hrest in
theorem walks_runTracked (idle : t ∉ w.graph.stack) (starts : w.graph.Starts t) :
    Walks Γ (runTracked Γ.recorded again t) w := by
  refine Walks.after ?_ (runTracked_apply t w) fun _ => .begin idle starts
  refine (hagain (.script (Γ.body _)) _).ensure fun failure w1 ended _ => ?_
  have stack : w1.graph.stack = t :: (w.graph.forget t).stack := (hrest _ _ w1 ended).stack
  exact walks_of_eq (finish_apply t failure w1) fun _ => .single (.finish failure stack)

theorem walks_executeAll (ts : List Tracker) (w : World V C (Recorded V C H E)) :
    Walks Γ (executeAll again ts) w := by
  induction ts generalizing w with
  | nil => exact keeps_still rfl
  | cons t ts ih => exact (hagain (.execute t) w).bind fun _ w1 _ => ih w1

theorem walks_tell (s : Source) (w : World V C (Recorded V C H E)) :
    Walks Γ (tell Γ.recorded again s) w :=
  (walks_executeAll hagain _ _).after (tell_apply s w) fun _ => .tick

theorem walks_leave (w : World V C (Recorded V C H E)) : Walks Γ (leave again) w :=
  (hagain .leave w).bind fun _ _ _ => keeps_still rfl

theorem walks_replaceValue (i : Nat) (old v : V) (w : World V C (Recorded V C H E)) :
    Walks Γ (replaceValue Γ.recorded again i old v) w := by
  by_cases inside : ∃ d rest, w.graph.stack = .derived d :: rest
  · obtain ⟨d, rest, hs⟩ := inside
    exact walks_of_eq (replaceValue_inside hs) fun _ => .single (.assign i old v)
  · have opened : Walks Γ (fun w => ensure (tell Γ.recorded again (.wire i))
        (fun _ => leave again) (w.update Graph.enter)) (w.assign Γ.recorded i old v) :=
      Walks.after ((walks_tell hagain _ _).ensure fun _ w1 _ _ => walks_leave hagain w1) rfl
        fun _ => .enter
    exact opened.after (replaceValue_outside fun d rest hs => inside ⟨d, rest, hs⟩) fun _ =>
      .assign i old v

theorem walks_writeWire (i : Nat) (v : V) (w : World V C (Recorded V C H E)) :
    Walks Γ (writeWire Γ.recorded again i v) w := by
  by_cases frozen : (w.graph.wire i).frozen = true
  · exact keeps_still (by rw [writeWire_frozen frozen]; rfl)
  · intro tracked
    rw [writeWire_apply (Bool.eq_false_iff.mpr frozen)]
    refine (hagain (.script (Γ.same _ _)) w).bind (fun r w1 _ => ?_) tracked
    cases r with
    | none => exact walks_replaceValue hagain i _ v w1
    | some r => exact keeps_still rfl

omit hagain in
include hrest in
/-- A derived value that has been computed is up to date: it was marked until then, and so is still
there. -/
theorem clean_of_compute (present : i < w.graph.deriveds.size)
    (h : compute Γ.recorded again i w = .ok () w') : (w'.graph.derived i).dirty = false := by
  have inner : Ends (fun _ w' => i < w'.graph.deriveds.size)
      (ensure (runTracked Γ.recorded again (.derived i))
        fun _ => modify (·.setComputing i false)) (w.update (·.setComputing i true)) := by
    refine ends_ensure (restores_runTracked Γ.recorded hrest _ _) ?_
    intro failure w1 h1 w2 h2
    cases h2
    have marked : (w.update (·.setComputing i true)).graph.Active (.derived i) := by
      simp [Graph.Active, World.update, Graph.setComputing, Graph.derived_modifyDerived, present]
    have there : i < w1.graph.deriveds.size := (h1.active.mpr marked).hasTracker
    simpa [Graph.setComputing, Graph.modifyDerived] using there
  rw [compute_apply] at h
  cases hw : ensure (runTracked Γ.recorded again (.derived i))
      (fun _ => modify (·.setComputing i false)) (w.update (·.setComputing i true)) with
  | raised e w1 => cases (bind_of_raised hw).symm.trans h
  | exhausted w1 => cases (bind_of_exhausted hw).symm.trans h
  | ok r w1 =>
    cases (bind_of_ok hw).symm.trans h
    have there := inner w1 (by rw [hw]; rfl)
    exact (Graph.dirty_keep there _ i).trans (if_pos rfl)

include hrest

theorem walks_compute (hc : (w.graph.derived i).computing = false)
    (hd : (w.graph.derived i).dirty = true) (present : i < w.graph.deriveds.size) :
    Walks Γ (compute Γ.recorded again i) w := by
  intro tracked
  have idle : Tracker.derived i ∉ w.graph.stack := tracked.idle (by simp [Graph.Active, hc])
  have starts : (w.update (·.setComputing i true)).graph.Starts (.derived i) := by
    simp [Graph.Starts, World.update, Graph.setComputing, Graph.derived_modifyDerived, present, hd]
  refine Walks.after ?_ (compute_apply i w) (fun _ => .startComputing idle hd) tracked
  refine Keeps.bind ?_ fun r w1 _ => walks_of_eq rfl fun _ => .single (.keep i _)
  refine (walks_runTracked (w := w.update (·.setComputing i true)) hagain hrest idle starts).ensure
    fun _ w1 ended _ => walks_of_eq rfl fun _ => .single (.stopComputing ?_)
  rw [(restores_runTracked Γ.recorded hrest _ _ w1 ended).stack]
  exact idle

omit hagain hrest in
theorem walks_deliver (clean : (w.graph.derived i).dirty = false) :
    Walks Γ (modify (·.track (.derived i)) >>= fun _ => graph >>= fun g =>
      notice Γ.recorded (.read (.derived i) (g.derived i).cache) >>= fun _ =>
        Pure.pure (g.derived i).cache) w := by
  have same : ((w.graph.track (.derived i)).derived i).cache = (w.graph.derived i).cache :=
    (Graph.relinks_track w.graph _).derived_of Derived.cache (fun _ _ _ => rfl) i
  refine walks_of_eq (o := .ok _ (w.read Γ.recorded (.derived i) _)) rfl fun _ => ?_
  change Leads Γ w (w.read Γ.recorded (.derived i)
    ((w.graph.track (.derived i)).derived i).cache)
  rw [same]
  exact .single (.readDerived clean)

theorem walks_derivedValue (i : Nat) (w : World V C (Recorded V C H E)) :
    Walks Γ (derivedValue Γ.recorded again i) w := by
  by_cases absent : w.graph.deriveds.size ≤ i
  · exact keeps_still (by rw [derivedValue_absent absent]; rfl)
  have present : i < w.graph.deriveds.size := Nat.lt_of_not_le absent
  cases hc : (w.graph.derived i).computing with
  | true => exact keeps_still (by rw [derivedValue_circular present hc]; rfl)
  | false =>
    cases hd : (w.graph.derived i).dirty with
    | false =>
      intro tracked
      rw [derivedValue_clean present hc hd]
      exact walks_deliver hd tracked
    | true =>
      intro tracked
      rw [derivedValue_dirty present hc hd]
      refine (walks_compute hagain hrest hc hd present).bind (fun _ w1 h1 => ?_) tracked
      exact walks_deliver (clean_of_compute hrest present h1)

theorem walks_settle (n : Nat) (idle : Tracker.effect i ∉ w.graph.stack)
    (starts : w.graph.Starts (.effect i)) : Walks Γ (settle Γ.recorded again i n) w := by
  induction n generalizing w with
  | zero => exact walks_of_eq (settle_zero i w) fun _ => .single (.overran i)
  | succ n ih =>
    have counted : w.graph.SameActivity (w.update (·.countRun i)).graph :=
      Graph.sameActivity_modifyEffect w.graph i fun _ => rfl
    have still := Graph.starts_countRun starts
    refine Walks.after ?_ (settle_succ i n w) fun _ => .countRun starts.1 starts.2
    refine (walks_runTracked (w := w.update (·.countRun i)) hagain hrest idle still).bind
      fun _ w1 h1 => ?_
    have same := counted.trans
      (restores_runTracked Γ.recorded hrest _ _ w1 (by rw [h1]; rfl))
    cases asked : (w1.graph.effect i).rerun && !(w1.graph.effect i).disposed with
    | false => exact keeps_still (by rw [graph_bind, asked]; rfl)
    | true =>
      have live : (w1.graph.effect i).disposed = false := by
        simpa using (Bool.and_eq_true_iff.mp asked).2
      exact Keeps.after (ih (by rw [same.stack]; exact idle) ⟨(same.running i).trans starts.1, live⟩)
        (by rw [graph_bind, asked]; rfl) fun tracked => ⟨.refl, tracked⟩

theorem walks_executeEffect (i : Nat) (w : World V C (Recorded V C H E)) :
    Walks Γ (executeEffect Γ.recorded again i) w := by
  cases hd : (w.graph.effect i).disposed with
  | true => exact keeps_still (by rw [executeEffect_disposed hd]; rfl)
  | false =>
    cases hr : (w.graph.effect i).running with
    | true => exact walks_of_eq (executeEffect_running hd hr) fun _ => .single (.requestRun hr)
    | false =>
      by_cases deeper : 0 < w.graph.depth
      · exact walks_of_eq (executeEffect_waiting hd hr deeper) fun _ => .single (.enqueue hd hr)
      · intro tracked
        have idle : Tracker.effect i ∉ w.graph.stack :=
          tracked.idle (by simp [Graph.Active, hr])
        rw [executeEffect_now hd hr deeper]
        refine Walks.after ?_ (runEffect_apply i w) (fun _ => .startRunning idle hd hr) tracked
        refine (walks_settle (w := w.update (·.setRunning i true)) hagain hrest _ idle
          (Graph.starts_setRunning hd)).ensure fun failure w1 ended _ => walks_of_eq rfl fun _ =>
            .single (.stopRunning ?_)
        rw [(restores_settle Γ.recorded hrest i _ _ w1 ended).stack]
        exact idle

omit hrest in
theorem walks_executeDerived (i : Nat) (w : World V C (Recorded V C H E)) :
    Walks Γ (executeDerived Γ.recorded again i) w := by
  cases hd : (w.graph.derived i).dirty with
  | true => exact keeps_still (by rw [executeDerived_dirty hd]; rfl)
  | false => exact (walks_tell hagain _ _).after (executeDerived_clean hd) fun _ => .invalidate hd

omit hrest in
theorem walks_drain (n : Nat) (failure : Option E) (w : World V C (Recorded V C H E)) :
    Walks Γ (drain Γ.recorded again n failure) w := by
  induction n generalizing failure w with
  | zero => exact keeps_still rfl
  | succ n ih =>
    cases hq : w.graph.queue with
    | nil => exact keeps_still (by rw [drain_nil n failure hq]; cases failure <;> rfl)
    | cons i rest =>
      refine Walks.after ?_ (drain_cons n failure hq) fun _ => .unqueue hq
      refine (hagain (.execute (.effect i)) _).attempt.bind fun r w1 _ => ?_
      cases r with
      | ok r => exact ih failure w1
      | error e =>
        change Walks Γ (if Γ.caught e then _ else raise e) w1
        split
        · exact ih _ w1
        · exact keeps_still rfl

omit hrest in
theorem walks_leaveBatch (fuel : Nat) (w : World V C (Recorded V C H E)) :
    Walks Γ (leaveBatch Γ.recorded again fuel) w := by
  by_cases outermost : w.graph.depth = 1
  · exact (walks_drain hagain fuel none _).after (leaveBatch_outermost fuel outermost)
      fun _ => .depart
  · exact walks_of_eq (leaveBatch_inner fuel outermost) fun _ => .single .depart

omit hrest in
theorem walks_exec (s : Script V C H E) (w : World V C (Recorded V C H E)) :
    Walks Γ (exec Γ.recorded again s.recorded) w := by
  induction s generalizing w with
  | done r => exact keeps_still rfl
  | raise e => exact keeps_still rfl
  | look next ih => exact (ih _ _ _).after rfl fun _ => .look
  | replace host next ih => exact (ih _).after rfl fun _ => .replace host
  | read s next ih => exact (walks_readSource hagain s w).bind fun v w1 _ => ih v w1
  | newWire v next ih => exact (ih _ _).after rfl fun _ => .addWire v
  | write i v next ih => exact (walks_writeWire hagain i v w).bind fun _ w1 _ => ih w1
  | freeze i next ih => exact (ih _).after rfl fun _ => .freeze i
  | newDerived l c next ih => exact (ih _ _).after rfl fun _ => .addDerived l c
  | newEffect l c next ih =>
    exact Walks.after ((hagain (.execute (.effect w.graph.effects.size)) _).bind fun _ w1 _ => ih _ w1)
      rfl fun _ => .addEffect l c
  | execute t next ih => exact (hagain (.execute t) w).bind fun _ w1 _ => ih w1
  | dispose i next ih => exact (ih _).after rfl fun _ => .dispose i
  | startBatch next ih => exact (ih _).after rfl fun _ => .enter
  | endBatch next ih => exact (walks_leave hagain w).bind fun _ w1 _ => ih w1
  | batch body next ihBody ihNext =>
    exact Walks.after (((ihBody _).ensure fun _ w1 _ _ => walks_leave hagain w1).bind
      fun r w1 _ => ihNext r w1) rfl fun _ => .enter
  | attempt body next ihBody ihNext => exact (ihBody w).attempt.bind fun r w1 _ => ihNext r w1
  | call c next ih => exact (hagain (.script (Γ.body c)) w).bind fun r w1 _ => ih r w1

theorem walks_performWith (fuel : Nat) (t : Task V C H E) (w : World V C (Recorded V C H E)) :
    Walks Γ (performWith Γ.recorded again fuel t.recorded) w := by
  cases t with
  | script s => exact walks_exec hagain s w
  | execute t =>
    cases t with
    | derived i => exact (walks_executeDerived hagain i w).bind fun _ _ _ => keeps_still rfl
    | effect i => exact (walks_executeEffect hagain hrest i w).bind fun _ _ _ => keeps_still rfl
  | value i => exact (walks_derivedValue hagain hrest i w).bind fun _ _ _ => keeps_still rfl
  | leave => exact (walks_leaveBatch hagain fuel w).bind fun _ _ _ => keeps_still rfl

end Parts

theorem perform_walks (Γ : Setting V C H E) (n : Nat) (t : Task V C H E)
    (w : World V C (Recorded V C H E)) :
    Walks Γ (perform Γ.recorded n t.recorded) w := by
  induction n generalizing t w with
  | zero => exact keeps_still rfl
  | succ n ih => exact walks_performWith ih (perform_restores Γ.recorded n) (n * n) t w

end Run

end AttrBinder.Reactive
