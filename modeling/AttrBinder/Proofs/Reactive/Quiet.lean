import AttrBinder.Proofs.Reactive.Activity
import AttrBinder.Proofs.Reactive.Record

/-!
A reactive system is quiet between top-level operations: nothing runs and no batch is open, and no
effect waits unless a fault that no flush catches has left an effect. Scripts may raise at any point
and may read, write, make, dispose and nest as they like, as long as they open batches around a body
only. The main statement is `retraced_quiet`.
-/

namespace AttrBinder.Reactive

variable {V C H E : Type}

/-- Batches are opened around a body only, in a script that runs in worlds whose host satisfies
`Ok`. -/
def Script.Structured (Ok : H → Prop) : Script V C H E → Prop
  | .done _ => True
  | .raise _ => True
  | .look next => ∀ g h, Ok h → (next g h).Structured Ok
  | .replace h next => Ok h ∧ next.Structured Ok
  | .read _ next => ∀ v, (next v).Structured Ok
  | .newWire _ next => ∀ i, (next i).Structured Ok
  | .write _ _ next => next.Structured Ok
  | .freeze _ next => next.Structured Ok
  | .newDerived _ _ next => ∀ i, (next i).Structured Ok
  | .newEffect _ _ next => ∀ i, (next i).Structured Ok
  | .execute _ next => next.Structured Ok
  | .dispose _ next => next.Structured Ok
  | .startBatch _ => False
  | .endBatch _ => False
  | .batch body next => body.Structured Ok ∧ ∀ r, (next r).Structured Ok
  | .attempt body next => body.Structured Ok ∧ ∀ r, (next r).Structured Ok
  | .call _ next => ∀ r, (next r).Structured Ok

/-- All code of a setting is structured, and its observer keeps `Ok`. -/
structure Setting.Structured (Γ : Setting V C H E) (Ok : H → Prop) : Prop where
  body : ∀ c, (Γ.body c).Structured Ok
  same : ∀ a b, (Γ.same a b).Structured Ok
  notice : ∀ m g h, Ok h → Ok (Γ.notice m g h)

def Task.Structured (Ok : H → Prop) : Task V C H E → Prop
  | .script s => s.Structured Ok
  | .execute _ => True
  | .value _ => True
  | .leave => False

/-- The worlds to which scripts of a kind lead, one after another, each to its end. -/
inductive Reached [Inhabited V] [Inhabited C] (Γ : Setting V C H E)
    (first : World V C H → Prop) (allowed : Script V C H E → Prop) : World V C H → Prop
  | start {w : World V C H} : first w → Reached Γ first allowed w
  | step {w w' : World V C H} {n : Nat} {s : Script V C H E} : Reached Γ first allowed w →
      allowed s → (Run.perform Γ n (.script s) w).ended? = some w' →
      Reached Γ first allowed w'

/-- The worlds to which scripts of a kind lead, with the record of all of them. -/
inductive Retraced [Inhabited V] [Inhabited C] (Γ : Setting V C H E)
    (first : World V C H → Prop) (allowed : Script V C H E → Prop) :
    World V C H → List (Sight V C E) → Prop
  | start {w : World V C H} : first w → Retraced Γ first allowed w []
  | step {w w' : World V C H} {past : List (Sight V C E)} {n : Nat} {s : Script V C H E} :
      Retraced Γ first allowed w past → allowed s →
      (Run.perform Γ n (.script s) w).ended? = some w' → Retraced Γ first allowed w'
        (Run.perform Γ.recorded n (.script s.recorded) (w.recording past)).world.host.past

/-- Nothing runs and no batch is open. -/
structure Graph.Idle [Inhabited V] [Inhabited C] (g : Graph V C) : Prop where
  stack : g.stack = []
  depth : g.depth = 0
  running : ∀ i, (g.effect i).running = false
  computing : ∀ i, (g.derived i).computing = false

/-- Nothing runs, no batch is open and no effect waits. -/
structure Graph.Quiet [Inhabited V] [Inhabited C] (g : Graph V C) : Prop extends g.Idle where
  queue : g.queue = []

theorem Graph.Quiet.empty [Inhabited V] [Inhabited C] : ({} : Graph V C).Quiet :=
  ⟨⟨rfl, rfl, fun _ => rfl, fun _ => rfl⟩, rfl⟩

theorem Graph.Idle.of_same [Inhabited V] [Inhabited C] {g g' : Graph V C} (h : g.Idle)
    (same : g.SameActivity g') (depth : g'.depth = g.depth) : g'.Idle where
  stack := same.stack.trans h.stack
  depth := depth.trans h.depth
  running i := (same.running i).trans (h.running i)
  computing i := (same.computing i).trans (h.computing i)

theorem Graph.Quiet.of_same [Inhabited V] [Inhabited C] {g g' : Graph V C} (h : g.Quiet)
    (same : g.SameActivity g') (depth : g'.depth = g.depth)
    (queue : g.depth = 0 → g.queue = [] → g'.queue = []) : g'.Quiet :=
  ⟨h.toIdle.of_same same depth, queue h.depth h.queue⟩

/-- Flushes catch every fault with which the run of an effect has ended. -/
def Setting.Holds (Γ : Setting V C H E) (past : List (Sight V C E)) : Prop :=
  ∀ x ∈ past, ∀ i e, x.moment = some (.ended (.effect i) (some e)) → Γ.caught e = true

theorem Setting.Holds.of_subset {Γ : Setting V C H E} {past later : List (Sight V C E)}
    (h : Γ.Holds later) (part : past ⊆ later) : Γ.Holds past :=
  fun x mem => h x (part mem)

/-- As many batches are open in both worlds, and outside of batches no effect is left waiting. -/
structure Level (Γ : Setting V C H E) (Ok : H → Prop) (w w' : World V C (Recorded V C H E)) :
    Prop where
  host : Ok w'.host.host
  depth : w'.graph.depth = w.graph.depth
  past : w.host.past ⊆ w'.host.past
  queue : w.graph.depth = 0 → w.graph.queue = [] → Γ.Holds w'.host.past → w'.graph.queue = []

namespace Level

variable {Γ : Setting V C H E} {Ok : H → Prop} {u v w w' : World V C (Recorded V C H E)}

theorem refl (host : Ok w.host.host) : Level Γ Ok w w :=
  ⟨host, rfl, List.Subset.refl _, fun _ hq _ => hq⟩

theorem trans (a : Level Γ Ok u v) (b : Level Γ Ok v w) : Level Γ Ok u w where
  host := b.host
  depth := b.depth.trans a.depth
  past := List.Subset.trans a.past b.past
  queue hd hq held := b.queue (a.depth.trans hd) (a.queue hd hq (held.of_subset b.past)) held

theorem update (h : Level Γ Ok w w') {f : Graph V C → Graph V C}
    (depth : (f w'.graph).depth = w'.graph.depth) (queue : (f w'.graph).queue = w'.graph.queue) :
    Level Γ Ok w (w'.update f) where
  host := h.host
  depth := depth.trans h.depth
  past := h.past
  queue hd hq held := queue.trans (h.queue hd hq held)

theorem relinks [Inhabited V] [Inhabited C] (h : Level Γ Ok w w') {f : Graph V C → Graph V C}
    (links : w'.graph.Relinks (f w'.graph)) : Level Γ Ok w (w'.update f) :=
  h.update links.depth links.queue

theorem tell (h : Level Γ Ok w w') (notice : ∀ m g h, Ok h → Ok (Γ.notice m g h))
    (m : Moment V E) : Level Γ Ok w (w'.tell Γ.recorded m) where
  host := notice m _ _ h.host
  depth := h.depth
  past := List.Subset.trans h.past (List.subset_cons_self _ _)
  queue hd hq held := h.queue hd hq (held.of_subset (List.subset_cons_self _ _))

end Level

/-- One batch less is open, and no effect is left waiting where it was the last. -/
structure Left (Γ : Setting V C H E) (Ok : H → Prop) (w w' : World V C (Recorded V C H E)) :
    Prop where
  host : Ok w'.host.host
  depth : w'.graph.depth = w.graph.depth - 1
  past : w.host.past ⊆ w'.host.past
  queue : w.graph.depth = 1 → Γ.Holds w'.host.past → w'.graph.queue = []

namespace Run

variable {α β : Type} {Γ : Setting V C H E} {Ok : H → Prop}
variable {w w' : World V C (Recorded V C H E)}

def Levels (Γ : Setting V C H E) (Ok : H → Prop) (m : Run V C (Recorded V C H E) E α)
    (w : World V C (Recorded V C H E)) : Prop :=
  Ok w.host.host → 0 ≤ w.graph.depth → Ends (Level Γ Ok) m w

def Leaves (Γ : Setting V C H E) (Ok : H → Prop) (m : Run V C (Recorded V C H E) E α)
    (w : World V C (Recorded V C H E)) : Prop :=
  Ok w.host.host → 0 < w.graph.depth → Ends (Left Γ Ok) m w

/-- A fault that leaves the run and that no flush catches has ended the run of an effect. -/
def Confesses (Γ : Setting V C H E) (m : Run V C (Recorded V C H E) E α)
    (w : World V C (Recorded V C H E)) : Prop :=
  ∀ e w', m w = .raised e w' → Γ.Holds w'.host.past → Γ.caught e = true

section Rules

variable {m : Run V C (Recorded V C H E) E α}

theorem levels_of_eq (hm : m w = o) (h : Ok w.host.host → Level Γ Ok w o.world) :
    Levels Γ Ok m w := by
  intro host _ w' ends
  rw [hm] at ends
  exact Outcome.world_of_ended? ends ▸ h host

theorem levels_pure (a : α) (w : World V C (Recorded V C H E)) :
    Levels Γ Ok (Pure.pure a : Run V C (Recorded V C H E) E α) w :=
  levels_of_eq rfl Level.refl

theorem Levels.after (hm : Levels Γ Ok m' w') (same : m w = m' w')
    (step : Ok w.host.host → Level Γ Ok w w') : Levels Γ Ok m w := by
  intro host deep
  rw [Ends, same]
  intro u ends
  have first := step host
  exact first.trans (hm first.host (by rw [first.depth]; exact deep) u ends)

theorem Levels.bind {f : α → Run V C (Recorded V C H E) E β} (hm : Levels Γ Ok m w)
    (hf : ∀ a w', m w = .ok a w' → Levels Γ Ok (f a) w') : Levels Γ Ok (m >>= f) w := by
  intro host deep
  refine Ends.bind (fun _ _ _ a b => a.trans b) (hm host deep) ?_
  intro a w1 h1
  have first := hm host deep w1 (by rw [h1]; rfl)
  exact hf a w1 h1 first.host (by rw [first.depth]; exact deep)

theorem Levels.attempt (hm : Levels Γ Ok m w) : Levels Γ Ok (attempt m) w :=
  fun host deep => (hm host deep).attempt

theorem Levels.ensure {close : Option E → Run V C (Recorded V C H E) E Unit}
    (hm : Levels Γ Ok m w) (hclose : ∀ failure w', Levels Γ Ok (close failure) w') :
    Levels Γ Ok (ensure m close) w := by
  refine hm.attempt.bind fun r w1 _ => ?_
  cases r with
  | ok a => exact (hclose none w1).bind fun _ w2 _ => levels_pure a w2
  | error e => exact (hclose (some e) w1).bind fun _ _ _ => levels_of_eq rfl Level.refl

theorem levels_inBatch {leave : Run V C (Recorded V C H E) E Unit} (hm : ∀ w, Levels Γ Ok m w)
    (hleave : ∀ w, Leaves Γ Ok leave w) (w : World V C (Recorded V C H E))
    (host : Ok w.host.host) (deep : 0 ≤ w.graph.depth) :
    Ends (fun _ w' => Level Γ Ok w w') (Run.ensure m fun _ => leave) (w.update Graph.enter) := by
  have opened : (w.update Graph.enter).graph.depth = w.graph.depth + 1 := rfl
  refine ends_ensure (hm _ host (by omega)) ?_
  intro failure w1 h1 w2 h2
  have deeper : w1.graph.depth = w.graph.depth + 1 := h1.depth
  have left := hleave w1 h1.host (by omega) w2 h2
  exact ⟨left.host, by have := left.depth; omega, List.Subset.trans h1.past left.past,
    fun hd _ => left.queue (by omega)⟩

end Rules

section Parts

variable [Inhabited V] [Inhabited C] (hset : Γ.Structured Ok)
variable {again : Task V C (Recorded V C H E) E → Run V C (Recorded V C H E) E (Option V)}
variable (hagain : ∀ t : Task V C H E, t.Structured Ok → ∀ w, Levels Γ Ok (again t.recorded) w)
variable (hleave : ∀ w, Leaves Γ Ok (again .leave) w)
variable (hconfess : ∀ i w, Confesses Γ (again (.execute (.effect i))) w)

theorem confesses_runTracked (i : Nat) (w : World V C (Recorded V C H E)) :
    Confesses Γ (runTracked Γ.recorded again (.effect i)) w := by
  intro e w' raised held
  rw [runTracked_apply] at raised
  cases hb : again (.script _) (w.begin Γ.recorded (.effect i)) with
  | ok r w1 =>
    rw [ensure_of_ok hb] at raised
    cases raised
  | raised f w1 =>
    rw [ensure_of_raised hb] at raised
    cases raised
    exact held _ List.mem_cons_self i e rfl
  | exhausted w1 =>
    rw [ensure_of_exhausted hb] at raised
    cases raised

theorem confesses_settle (i n : Nat) (w : World V C (Recorded V C H E)) :
    Confesses Γ (settle Γ.recorded again i n) w := by
  induction n generalizing w with
  | zero =>
    intro e w' raised _
    rw [settle_zero] at raised
    cases raised
    exact Γ.catches _
  | succ n ih =>
    intro e w' raised held
    rw [settle_succ] at raised
    cases hr : runTracked Γ.recorded again (.effect i) (w.update (·.countRun i)) with
    | ok r w1 =>
      rw [bind_of_ok hr] at raised
      change (if (w1.graph.effect i).rerun && !(w1.graph.effect i).disposed then
        settle Γ.recorded again i n else Pure.pure ()) w1 = .raised e w' at raised
      split at raised
      · exact ih w1 e w' raised held
      · cases raised
    | raised f w1 =>
      rw [bind_of_raised hr] at raised
      cases raised
      exact confesses_runTracked i _ e _ hr held
    | exhausted w1 =>
      rw [bind_of_exhausted hr] at raised
      cases raised

theorem confesses_executeEffect (i : Nat) (w : World V C (Recorded V C H E)) :
    Confesses Γ (executeEffect Γ.recorded again i) w := by
  intro e w' raised held
  cases hd : (w.graph.effect i).disposed with
  | true =>
    rw [executeEffect_disposed hd] at raised
    cases raised
  | false =>
    cases hr : (w.graph.effect i).running with
    | true =>
      rw [executeEffect_running hd hr] at raised
      cases raised
    | false =>
      by_cases deeper : 0 < w.graph.depth
      · rw [executeEffect_waiting hd hr deeper] at raised
        cases raised
      · rw [executeEffect_now hd hr deeper, runEffect_apply] at raised
        cases hs : settle Γ.recorded again i (maxReruns + 1) (w.update (·.setRunning i true)) with
        | ok r w1 =>
          rw [ensure_of_ok hs] at raised
          cases raised
        | raised f w1 =>
          rw [ensure_of_raised hs] at raised
          cases raised
          exact confesses_settle i _ _ e w1 hs held
        | exhausted w1 =>
          rw [ensure_of_exhausted hs] at raised
          cases raised

include hset hagain

theorem levels_readSource (s : Source) (w : World V C (Recorded V C H E)) :
    Levels Γ Ok (readSource Γ.recorded again s) w := by
  cases s with
  | wire i =>
    by_cases present : i < w.graph.wires.size
    · exact levels_of_eq (readSource_wire present) fun host =>
        ((Level.refl host).relinks (Graph.relinks_track w.graph _)).tell hset.notice _
    · exact levels_of_eq (readSource_absent present) Level.refl
  | derived i =>
    rw [readSource_derived]
    exact (hagain (.value i) trivial w).bind fun _ w1 _ => levels_pure _ w1

theorem levels_runTracked (t : Tracker) (w : World V C (Recorded V C H E)) :
    Levels Γ Ok (runTracked Γ.recorded again t) w := by
  refine Levels.after ?_ (runTracked_apply t w) fun host => ?_
  · refine Levels.ensure (hagain (.script (Γ.body _)) (hset.body _) _) fun failure w1 => ?_
    exact levels_of_eq (finish_apply t failure w1) fun host =>
      ((Level.refl host).update (f := Graph.pop) rfl rfl).tell hset.notice _
  · have links := Graph.relinks_forget w.graph t
    exact ((Level.refl host).update (f := fun g => (g.forget t).push t) links.depth
      links.queue).tell hset.notice _

omit [Inhabited V] [Inhabited C] hset in
theorem levels_executeAll (ts : List Tracker) (w : World V C (Recorded V C H E)) :
    Levels Γ Ok (executeAll again ts) w := by
  induction ts generalizing w with
  | nil => exact levels_pure _ w
  | cons t ts ih => exact (hagain (.execute t) trivial w).bind fun _ w1 _ => ih w1

omit hset in
theorem levels_tell (s : Source) (w : World V C (Recorded V C H E)) :
    Levels Γ Ok (tell Γ.recorded again s) w :=
  (levels_executeAll hagain _ _).after (tell_apply s w) fun host =>
    (Level.refl host).update (f := Graph.tick) rfl rfl

theorem levels_compute (i : Nat) (w : World V C (Recorded V C H E)) :
    Levels Γ Ok (compute Γ.recorded again i) w := by
  have marks (b : Bool) (w : World V C (Recorded V C H E)) (host : Ok w.host.host) :
      Level Γ Ok w (w.update (·.setComputing i b)) :=
    (Level.refl host).update rfl rfl
  refine Levels.after ?_ (compute_apply i w) (marks true w)
  refine Levels.bind (Levels.ensure (levels_runTracked hset hagain _ _) fun _ w1 => ?_)
    fun r w1 _ => ?_
  · exact levels_of_eq rfl (marks false w1)
  · exact levels_of_eq rfl fun host => (Level.refl host).update (f := (·.keep i _)) rfl rfl

theorem levels_derivedValue (i : Nat) (w : World V C (Recorded V C H E)) :
    Levels Γ Ok (derivedValue Γ.recorded again i) w := by
  by_cases absent : w.graph.deriveds.size ≤ i
  · exact levels_of_eq (derivedValue_absent absent) Level.refl
  have present : i < w.graph.deriveds.size := Nat.lt_of_not_le absent
  have read (w : World V C (Recorded V C H E)) : Levels Γ Ok
      (modify (·.track (.derived i)) >>= fun _ => graph >>= fun g =>
        notice Γ.recorded (.read (.derived i) (g.derived i).cache) >>= fun _ =>
          Pure.pure (g.derived i).cache) w :=
    levels_of_eq rfl fun host => ((Level.refl host).relinks (f := (·.track (.derived i)))
      (Graph.relinks_track w.graph _)).tell hset.notice _
  cases hc : (w.graph.derived i).computing with
  | true => exact levels_of_eq (derivedValue_circular present hc) Level.refl
  | false =>
    cases hd : (w.graph.derived i).dirty with
    | false => exact (read w).after (derivedValue_clean present hc hd) Level.refl
    | true =>
      exact ((levels_compute hset hagain i w).bind fun _ w1 _ => read w1).after
        (derivedValue_dirty present hc hd) Level.refl

theorem levels_settle (i n : Nat) (w : World V C (Recorded V C H E)) :
    Levels Γ Ok (settle Γ.recorded again i n) w := by
  induction n generalizing w with
  | zero => exact levels_of_eq (settle_zero i w) fun host => (Level.refl host).tell hset.notice _
  | succ n ih =>
    refine Levels.after ?_ (settle_succ i n w) fun host =>
      (Level.refl host).update (f := (·.countRun i)) rfl rfl
    refine (levels_runTracked hset hagain (.effect i) _).bind fun _ w1 _ => ?_
    refine Levels.bind (levels_of_eq rfl Level.refl) fun g w2 _ => ?_
    split
    · exact ih w2
    · exact levels_pure _ w2

theorem levels_executeEffect (i : Nat) (w : World V C (Recorded V C H E)) :
    Levels Γ Ok (executeEffect Γ.recorded again i) w := by
  have marks (b : Bool) (w : World V C (Recorded V C H E)) (host : Ok w.host.host) :
      Level Γ Ok w (w.update (·.setRunning i b)) :=
    (Level.refl host).update rfl rfl
  cases hd : (w.graph.effect i).disposed with
  | true => exact levels_of_eq (executeEffect_disposed hd) Level.refl
  | false =>
    cases hr : (w.graph.effect i).running with
    | true =>
      exact levels_of_eq (executeEffect_running hd hr) fun host =>
        (Level.refl host).update (f := (·.requestRun i)) rfl rfl
    | false =>
      by_cases deeper : 0 < w.graph.depth
      · refine levels_of_eq (executeEffect_waiting hd hr deeper) fun host => ?_
        have waits : Level Γ Ok w (w.update (·.enqueue i)) :=
          ⟨host, rfl, List.Subset.refl _, fun flat => absurd flat (by omega)⟩
        exact waits.tell hset.notice _
      · refine Levels.after ?_ ((executeEffect_now hd hr deeper).trans (runEffect_apply i w))
          (marks true w)
        exact Levels.ensure (levels_settle hset hagain i _ _) fun _ w1 =>
          levels_of_eq rfl (marks false w1)

omit hset in
theorem levels_executeDerived (i : Nat) (w : World V C (Recorded V C H E)) :
    Levels Γ Ok (executeDerived Γ.recorded again i) w := by
  cases hd : (w.graph.derived i).dirty with
  | true => exact levels_of_eq (executeDerived_dirty hd) Level.refl
  | false =>
    exact (levels_tell hagain _ _).after (executeDerived_clean hd) fun host =>
      (Level.refl host).update (f := (·.invalidate i)) rfl rfl

include hconfess

omit [Inhabited V] [Inhabited C] in
theorem drain_empties (n : Nat) (failure : Option E) {w : World V C (Recorded V C H E)}
    (host : Ok w.host.host) (flat : w.graph.depth = 0) :
    Ends (fun w w' => Ok w'.host.host ∧ w'.graph.depth = 0 ∧ w.host.past ⊆ w'.host.past ∧
      (Γ.Holds w'.host.past → w'.graph.queue = [])) (drain Γ.recorded again n failure) w := by
  induction n generalizing failure w with
  | zero => exact ends_exhausted w
  | succ n ih =>
    intro w' h
    cases hq : w.graph.queue with
    | nil =>
      rw [drain_nil n failure hq] at h
      cases failure <;> (cases h; exact ⟨host, flat, List.Subset.refl _, fun _ => hq⟩)
    | cons i rest =>
      rw [drain_cons n failure hq, bind_apply, Run.attempt] at h
      have popped : Level Γ Ok (w.unqueue Γ.recorded i) (w.unqueue Γ.recorded i) :=
        Level.refl (hset.notice _ _ _ host)
      have flat' : (w.unqueue Γ.recorded i).graph.depth = 0 := flat
      have older : w.host.past ⊆ (w.unqueue Γ.recorded i).host.past := List.subset_cons_self _ _
      have ran := hagain (.execute (.effect i)) trivial (w.unqueue Γ.recorded i) popped.host
        (by omega)
      have more {w1 : World V C (Recorded V C H E)} (h1 : Level Γ Ok (w.unqueue Γ.recorded i) w1) (failure : Option E)
          (ends : (drain Γ.recorded again n failure w1).ended? = some w') :
          Ok w'.host.host ∧ w'.graph.depth = 0 ∧ w.host.past ⊆ w'.host.past ∧
            (Γ.Holds w'.host.past → w'.graph.queue = []) := by
        obtain ⟨host', depth', past', queue'⟩ := ih failure h1.host (h1.depth.trans flat') w' ends
        exact ⟨host', depth', List.Subset.trans older (List.Subset.trans h1.past past'), queue'⟩
      cases hw : again (.execute (.effect i)) (w.unqueue Γ.recorded i) with
      | ok r w1 =>
        rw [hw] at h
        exact more (ran w1 (congrArg Outcome.ended? hw)) failure h
      | raised e w1 =>
        rw [hw] at h
        have h1 := ran w1 (congrArg Outcome.ended? hw)
        cases hc : Γ.caught e with
        | true =>
          simp only [show Γ.recorded.caught e = true from hc, if_true] at h
          exact more h1 _ h
        | false =>
          simp only [show Γ.recorded.caught e = false from hc] at h
          cases h
          -- What is still queued stays so, but then the record tells of the fault.
          exact ⟨h1.host, h1.depth.trans flat', List.Subset.trans older h1.past,
            fun held => by cases hc.symm.trans (hconfess i _ e _ hw held)⟩
      | exhausted w1 =>
        rw [hw] at h
        cases h

omit [Inhabited V] [Inhabited C] in
theorem leaves_leaveBatch (fuel : Nat) (w : World V C (Recorded V C H E)) :
    Leaves Γ Ok (leaveBatch Γ.recorded again fuel) w := by
  intro host deep
  by_cases outermost : w.graph.depth = 1
  · rw [Ends, leaveBatch_outermost fuel outermost]
    intro w' h
    have flat : (w.update Graph.depart).graph.depth = 0 := by
      change w.graph.depth - 1 = 0
      omega
    obtain ⟨host', depth', past', queue'⟩ := drain_empties hset hagain hconfess fuel none
      (w := w.update Graph.depart) host flat w' h
    exact ⟨host', by omega, past', fun _ => queue'⟩
  · rw [Ends, leaveBatch_inner fuel outermost]
    intro w' h
    cases h
    exact ⟨host, rfl, List.Subset.refl _, fun h => absurd h outermost⟩

omit hconfess
include hleave

omit [Inhabited V] [Inhabited C] hset hagain in
theorem leaves_leave (w : World V C (Recorded V C H E)) : Leaves Γ Ok (leave again) w :=
  fun host deep => (hleave w host deep).still fun _ => rfl

theorem levels_replaceValue (i : Nat) (old v : V) (w : World V C (Recorded V C H E)) :
    Levels Γ Ok (replaceValue Γ.recorded again i old v) w := by
  have stored (host : Ok w.host.host) : Level Γ Ok w (w.assign Γ.recorded i old v) :=
    ((Level.refl host).update (f := (·.setValue i v)) rfl rfl).tell hset.notice _
  by_cases inside : ∃ d rest, w.graph.stack = .derived d :: rest
  · obtain ⟨d, rest, hs⟩ := inside
    exact levels_of_eq (replaceValue_inside hs) stored
  · intro host deep
    rw [Ends, replaceValue_outside fun d rest hs => inside ⟨d, rest, hs⟩]
    intro w' h
    exact (stored host).trans (levels_inBatch (levels_tell hagain (.wire i))
      (leaves_leave hleave) (w.assign Γ.recorded i old v) (stored host).host deep w' h)

theorem levels_writeWire (i : Nat) (v : V) (w : World V C (Recorded V C H E)) :
    Levels Γ Ok (writeWire Γ.recorded again i v) w := by
  by_cases frozen : (w.graph.wire i).frozen = true
  · exact levels_of_eq (writeWire_frozen frozen) Level.refl
  · refine Levels.after ?_ (writeWire_apply (Bool.eq_false_iff.mpr frozen)) Level.refl
    refine (hagain (.script _) (hset.same _ _) w).bind fun r w1 _ => ?_
    cases r with
    | none => exact levels_replaceValue hset hagain hleave i _ v w1
    | some r => exact levels_pure _ w1

theorem levels_exec (s : Script V C H E) (hs : s.Structured Ok)
    (w : World V C (Recorded V C H E)) : Levels Γ Ok (exec Γ.recorded again s.recorded) w := by
  induction s generalizing w with
  | done r => exact levels_pure r w
  | raise e => exact levels_of_eq rfl Level.refl
  | look next ih =>
    intro host
    have seen : Level Γ Ok w { w with host := w.host.see none w.graph } :=
      ⟨host, rfl, List.subset_cons_self _ _, fun _ hq _ => hq⟩
    exact (ih _ _ (hs _ _ host) _).after rfl (fun _ => seen) host
  | replace h next ih =>
    exact (ih hs.2 _).after rfl fun _ => ⟨hs.1, rfl, List.Subset.refl _, fun _ hq _ => hq⟩
  | read s next ih =>
    exact (levels_readSource hset hagain s w).bind fun v w1 _ => ih v (hs v) w1
  | newWire v next ih =>
    exact (ih _ (hs _) _).after rfl fun host =>
      (Level.refl host).update (f := (·.addWire v)) rfl rfl
  | write i v next ih =>
    exact (levels_writeWire hset hagain hleave i v w).bind fun _ w1 _ => ih hs w1
  | freeze i next ih =>
    exact (ih hs _).after rfl fun host => (Level.refl host).update (f := (·.freeze i)) rfl rfl
  | newDerived l c next ih =>
    exact (ih _ (hs _) _).after rfl fun host =>
      (Level.refl host).update (f := (·.addDerived l c)) rfl rfl
  | newEffect l c next ih =>
    exact ((hagain (.execute (.effect w.graph.effects.size)) trivial _).bind fun _ w1 _ =>
      ih w.graph.effects.size (hs _) w1).after rfl fun host =>
        (Level.refl host).update (f := (·.addEffect l c)) rfl rfl
  | execute t next ih =>
    exact (hagain (.execute t) trivial w).bind fun _ w1 _ => ih hs w1
  | dispose i next ih =>
    have links := Graph.relinks_dispose w.graph i
    exact (ih hs _).after rfl fun host =>
      ((Level.refl host).update (f := (·.dispose i)) links.depth links.queue).tell hset.notice _
  | startBatch next ih => exact hs.elim
  | endBatch next ih => exact hs.elim
  | batch body next ihBody ihNext =>
    intro host deep w' hw
    have inner := levels_inBatch (ihBody hs.1) (leaves_leave hleave) w host deep
    refine Ends.bind (K := fun _ w' => Level Γ Ok w w') (fun _ _ _ _ h => h) inner
      (fun r w1 h1 w2 h2 => ?_) w' hw
    have first := inner w1 (by rw [h1]; rfl)
    exact first.trans (ihNext r (hs.2 r) w1 first.host (by rw [first.depth]; exact deep) w2 h2)
  | attempt body next ihBody ihNext =>
    exact (ihBody hs.1 w).attempt.bind fun r w1 _ => ihNext r (hs.2 r) w1
  | call c next ih =>
    exact (hagain (.script (Γ.body c)) (hset.body c) w).bind fun r w1 _ => ih r (hs r) w1

theorem levels_performWith (fuel : Nat) (t : Task V C H E) (ht : t.Structured Ok)
    (w : World V C (Recorded V C H E)) :
    Levels Γ Ok (performWith Γ.recorded again fuel t.recorded) w := by
  cases t with
  | script s => exact levels_exec hset hagain hleave s ht w
  | execute t =>
    cases t with
    | derived i =>
      exact (levels_executeDerived hagain i w).bind fun _ w1 _ => levels_pure _ w1
    | effect i =>
      exact (levels_executeEffect hset hagain i w).bind fun _ w1 _ => levels_pure _ w1
  | value i => exact (levels_derivedValue hset hagain i w).bind fun _ w1 _ => levels_pure _ w1
  | leave => exact ht.elim

end Parts

variable [Inhabited V] [Inhabited C]

theorem perform_confesses (n i : Nat) (w : World V C (Recorded V C H E)) :
    Confesses Γ (perform Γ.recorded n (.execute (.effect i))) w := by
  intro e w' raised held
  cases n with
  | zero => cases raised
  | succ n =>
    cases hw : executeEffect Γ.recorded (perform Γ.recorded n) i w with
    | ok r w1 =>
      rw [show perform Γ.recorded (n + 1) (.execute (.effect i)) w = _ from bind_of_ok hw] at raised
      cases raised
    | raised f w1 =>
      rw [show perform Γ.recorded (n + 1) (.execute (.effect i)) w = _ from bind_of_raised hw]
        at raised
      cases raised
      exact confesses_executeEffect i w e _ hw held
    | exhausted w1 =>
      rw [show perform Γ.recorded (n + 1) (.execute (.effect i)) w = _ from bind_of_exhausted hw]
        at raised
      cases raised

theorem perform_levels (hset : Γ.Structured Ok) (n : Nat) :
    (∀ t : Task V C H E, t.Structured Ok → ∀ w, Levels Γ Ok (perform Γ.recorded n t.recorded) w) ∧
      ∀ w, Leaves Γ Ok (perform Γ.recorded n .leave) w := by
  induction n with
  | zero => exact ⟨fun t _ w _ _ => ends_exhausted w, fun w _ _ => ends_exhausted w⟩
  | succ n ih =>
    refine ⟨levels_performWith hset ih.1 ih.2 (n * n), fun w host deep => ?_⟩
    exact (leaves_leaveBatch hset ih.1 (perform_confesses n) (n * n) w host deep).still fun _ => rfl

/-- A structured script that ends leads to a world level with the one it began in. -/
theorem script_level (hset : Γ.Structured Ok) {s : Script V C H E} (hs : s.Structured Ok)
    {w w' : World V C H} (host : Ok w.host) (deep : 0 ≤ w.graph.depth)
    (ends : (perform Γ n (.script s) w).ended? = some w') (past : List (Sight V C E)) :
    Level Γ Ok (w.recording past) (w'.recording
      (perform Γ.recorded n (.script s.recorded) (w.recording past)).world.host.past) :=
  (perform_levels hset n).1 (.script s) hs (w.recording past) host deep _
    (perform_recording_ended ends past)

end Run

/-- A system that starts with an empty graph is idle after every top-level script, whether the
script returned or raised, and no effect waits as long as flushes catch the faults of effects. -/
theorem retraced_quiet [Inhabited V] [Inhabited C] {setting : Setting V C H E} {Ok : H → Prop}
    (hset : setting.Structured Ok) {w : World V C H} {past : List (Sight V C E)}
    (h : Retraced setting (fun w => w.graph = {} ∧ Ok w.host) (Script.Structured Ok) w past) :
    w.graph.Idle ∧ (setting.Holds past → w.graph.queue = []) := by
  have both : Ok w.host ∧ w.graph.Idle ∧ (setting.Holds past → w.graph.queue = []) := by
    induction h with
    | @start w first =>
      obtain ⟨empty, host⟩ := first
      have quiet : w.graph.Quiet := empty ▸ Graph.Quiet.empty
      exact ⟨host, quiet.toIdle, fun _ => quiet.queue⟩
    | @step w w' past n s _ allowed ends ih =>
      obtain ⟨host, idle, waits⟩ := ih
      have level := Run.script_level hset allowed host (Int.le_of_eq idle.depth.symm) ends past
      have same := Run.perform_restores setting _ _ _ _ ends
      exact ⟨level.host, idle.of_same same level.depth, fun held =>
        level.queue idle.depth (waits (held.of_subset level.past)) held⟩
  exact both.2

def guarded : Setting Nat Unit Unit String where
  body _ := .read (.wire 0) fun v => if v = 0 then .done none else .raise "refused"
  same a b := .done (if a = b then some a else none)
  fault f := (f.message?).getD ""
  caught _ := true
  catches _ := rfl
  arrange _ ts := ts
  notice _ _ h := h

/-- A batch that writes and is left by a fault, while the effect that its end runs fails too. -/
def faultyBatch : Script Nat Unit Unit String :=
  .newWire 0 fun i => .newEffect (.named "watch") () fun _ =>
    .batch (.write i 1 (.raise "left")) fun r => .done r

theorem guarded_structured : guarded.Structured fun _ => True where
  body _ := by
    intro v
    by_cases zero : v = 0 <;> simp only [zero, if_true, if_false] <;> trivial
  same _ _ := trivial
  notice _ _ _ _ := trivial

/-- The batch raises the fault of the effect, and the system is quiet after it. -/
theorem retraced_quiet_after_faultyBatch :
    (Run.perform guarded 9 (.script faultyBatch) ⟨{}, ()⟩).fault? = some "refused" ∧
      (Run.perform guarded 9 (.script faultyBatch) ⟨{}, ()⟩).world.graph.Quiet := by
  have raised : (Run.perform guarded 9 (.script faultyBatch) ⟨{}, ()⟩).fault? = some "refused" := by
    decide +kernel
  have allowed : faultyBatch.Structured fun _ => True := fun _ _ => ⟨trivial, fun _ => trivial⟩
  obtain ⟨idle, waits⟩ := retraced_quiet guarded_structured
    (.step (.start ⟨rfl, trivial⟩) allowed (Outcome.ended?_of_fault? raised))
  exact ⟨raised, idle, waits fun _ _ _ _ _ => rfl⟩

/-- Effects that end the program once the wire is not zero; flushes catch only what the system
raises. -/
def exiting : Setting Nat Unit Unit (Option Fault) where
  body _ := .read (.wire 0) fun v => if v = 0 then .done none else .raise none
  same a b := .done (if a = b then some a else none)
  fault := some
  caught := Option.isSome
  catches _ := rfl
  arrange _ ts := ts
  notice _ _ h := h

/-- The write of a wire that two effects read. -/
def sharedWrite : Script Nat Unit Unit (Option Fault) :=
  .newWire 0 fun i => .newEffect (.named "first") () fun _ => .newEffect (.named "second") () fun _ =>
    .write i 1 (.done none)

/-- The first effect ends the program, and the second still waits when the write has raised. -/
theorem exit_leaves_effect_waiting :
    sharedWrite.Structured (fun _ => True) ∧
      (Run.perform exiting 9 (.script sharedWrite) ⟨{}, ()⟩).fault? = some none ∧
      (Run.perform exiting 9 (.script sharedWrite) ⟨{}, ()⟩).world.graph.queue = [1] :=
  ⟨fun _ _ _ => trivial, by decide +kernel, by decide +kernel⟩

end AttrBinder.Reactive
