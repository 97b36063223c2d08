import AttrBinder.Proofs.Reactive.Activity
import AttrBinder.Proofs.Reactive.Record

/-!
Effects that wait get their turn. From the record alone it is recovered which effects are `Due`:
queued, and since then neither begun nor taken off the queue as disposed ones. Every task keeps the
invariant that what is due stands in the queue and does not run (`perform_attends`), so that
nothing is due where the queue is empty.
-/

namespace AttrBinder.Reactive

variable {V C H E : Type} [Inhabited V] [Inhabited C]

/-- The turn of an effect: it begins to run, or it is taken off the queue after its disposal. -/
def Sight.Serves (i : Nat) (x : Sight V C E) : Prop :=
  x.moment = some (.began (.effect i)) ∨
    x.moment = some (.unqueued i) ∧ (x.graph.effect i).disposed = true

/-- An effect that was queued and has not had its turn since. The effects of `first` were queued
before anything was shown. -/
def Due (first : List Nat) (i : Nat) : List (Sight V C E) → Prop
  | [] => i ∈ first
  | x :: earlier => x.moment = some (.queued i) ∨ ¬ x.Serves i ∧ Due first i earlier

omit [Inhabited V] in
theorem Due.earlier {first : List Nat} {i : Nat} {x : Sight V C E} {past : List (Sight V C E)}
    (h : Due first i (x :: past)) (other : x.moment ≠ some (.queued i)) : Due first i past :=
  (h.resolve_left other).2

omit [Inhabited V] in
theorem served_of_not_due {x : Sight V C E} (queued : x.moment = some (.queued i))
    (h : ¬ Due first i (later ++ x :: earlier)) : ∃ y ∈ later, y.Serves i := by
  induction later with
  | nil => exact absurd (.inl queued) h
  | cons y later ih =>
    by_cases serves : y.Serves i
    · exact ⟨y, List.mem_cons_self, serves⟩
    · obtain ⟨z, mem, turn⟩ := ih fun due => h (.inr ⟨serves, due⟩)
      exact ⟨z, List.mem_cons_of_mem y mem, turn⟩

omit [Inhabited V] in
theorem served_of_first {first : List Nat} {i : Nat} {past : List (Sight V C E)} (mem : i ∈ first)
    (h : ¬ Due first i past) : ∃ y ∈ past, y.Serves i := by
  induction past with
  | nil => exact absurd mem h
  | cons y past ih =>
    by_cases serves : y.Serves i
    · exact ⟨y, List.mem_cons_self, serves⟩
    · obtain ⟨z, mem, turn⟩ := ih fun due => h (.inr ⟨serves, due⟩)
      exact ⟨z, List.mem_cons_of_mem y mem, turn⟩

/-- What is due waits in the queue and does not run. An effect whose turn it is has left the queue,
if it is not disposed. -/
def Attended (first : List Nat) (turn : Option Nat) (w : World V C (Recorded V C H E)) : Prop :=
  ∀ i, Due first i w.host.past →
    (i ∈ w.graph.queue ∨ turn = some i ∧ (w.graph.effect i).disposed = false) ∧
      (w.graph.effect i).running = false

namespace Attended

variable {first : List Nat} {turn : Option Nat} {w : World V C (Recorded V C H E)}

omit [Inhabited V] in
theorem weaken (h : Attended first none w) : Attended first turn w := by
  intro i due
  obtain ⟨waits, idle⟩ := h i due
  exact ⟨.inl (waits.resolve_right fun h => nomatch h.1), idle⟩

omit [Inhabited V] in
theorem update (h : Attended first none w) (queue : ∀ i ∈ w.graph.queue, i ∈ (f w.graph).queue)
    (running : ∀ i, (w.graph.effect i).running = false → ((f w.graph).effect i).running = false) :
    Attended first none (w.update f) := by
  intro i due
  obtain ⟨waits, idle⟩ := h i due
  exact ⟨.inl (queue i (waits.resolve_right fun h => nomatch h.1)), running i idle⟩

theorem same (h : Attended first none w) {f : Graph V C → Graph V C}
    (activity : w.graph.SameActivity (f w.graph)) (queue : (f w.graph).queue = w.graph.queue) :
    Attended first none (w.update f) :=
  h.update (fun _ mem => queue.symm ▸ mem) fun i idle => (activity.running i).trans idle

theorem relinks (h : Attended first none w) (links : w.graph.Relinks (f w.graph)) :
    Attended first none (w.update f) :=
  h.same links.sameActivity links.queue

omit [Inhabited V] in
theorem tell (h : Attended first turn w) (Γ : Setting V C H E) {m : Moment V E}
    (other : ∀ i, m ≠ .queued i) : Attended first turn (w.tell Γ.recorded m) :=
  fun i due => h i (due.earlier fun same => other i (Option.some.inj same))

omit [Inhabited V] in
theorem look (h : Attended first none w) :
    Attended first none { w with host := w.host.see none w.graph } :=
  fun i due => h i (due.earlier fun same => nomatch same)

theorem begin (h : Attended first none w) (Γ : Setting V C H E) (t : Tracker) :
    Attended first none (w.begin Γ.recorded t) := by
  have begun : Attended first none (w.update fun g => (g.forget t).push t) :=
    h.update (fun i mem => (Graph.relinks_forget w.graph t).queue.symm ▸ mem) fun i idle =>
      ((Graph.sameActivity_forget w.graph t).running i).trans idle
  exact begun.tell Γ fun _ same => nomatch same

omit [Inhabited V] in
theorem finish (h : Attended first none w) (Γ : Setting V C H E) (t : Tracker)
    (failure : Option E) : Attended first none (w.finish Γ.recorded t failure) :=
  (h.update (f := Graph.pop) (fun _ mem => mem) fun _ idle => idle).tell Γ
    fun _ same => nomatch same

theorem read (h : Attended first none w) (Γ : Setting V C H E) (s : Source) (v : V) :
    Attended first none (w.read Γ.recorded s v) :=
  (h.relinks (Graph.relinks_track w.graph s)).tell Γ fun _ same => nomatch same

theorem dispose (h : Attended first none w) (Γ : Setting V C H E) (i : Nat) :
    Attended first none (w.dispose Γ.recorded i) := by
  have queue : (w.graph.dispose i).queue = w.graph.queue := (Graph.relinks_dispose w.graph i).queue
  exact (h.same (Graph.sameActivity_dispose w.graph i) queue).tell Γ fun _ same => nomatch same

omit [Inhabited V] in
theorem enqueue {i : Nat} (h : Attended first (some i) w) (Γ : Setting V C H E)
    (idle : (w.graph.effect i).running = false) :
    Attended first none (w.enqueue Γ.recorded i) := by
  intro j due
  by_cases same : j = i
  · subst same
    exact ⟨.inl (Graph.mem_adjoin.mpr (.inl rfl)), idle⟩
  · have before := due.earlier fun shown => same (Moment.queued.inj (Option.some.inj shown)).symm
    obtain ⟨waits, idle⟩ := h j before
    have queued := waits.resolve_right fun h => same (Option.some.inj h.1).symm
    exact ⟨.inl (Graph.mem_adjoin.mpr (.inr queued)), idle⟩

omit [Inhabited V] in
theorem unqueue {i : Nat} {rest : List Nat} (h : Attended first none w) (Γ : Setting V C H E)
    (queue : w.graph.queue = i :: rest) :
    Attended first (some i) (w.unqueue Γ.recorded i) := by
  intro j due
  have before := due.earlier fun same => nomatch same
  obtain ⟨waits, idle⟩ := h j before
  refine ⟨?_, idle⟩
  have queued := waits.resolve_right fun h => nomatch h.1
  rw [queue] at queued
  rcases List.mem_cons.mp queued with rfl | later
  · refine .inr ⟨rfl, ?_⟩
    cases gone : (w.graph.effect j).disposed with
    | false => exact gone
    | true =>
      refine absurd (Or.inr ⟨rfl, gone⟩) (due.resolve_left fun same => nomatch same).1
  · refine .inl ?_
    change j ∈ w.graph.queue.tail
    rw [queue]
    exact later

theorem start {i : Nat} (h : Attended first (some i) w) (Γ : Setting V C H E) :
    Attended first none
      (((w.update (·.setRunning i true)).update (·.countRun i)).begin Γ.recorded
        (.effect i)) := by
  intro j due
  obtain ⟨other, before⟩ := due.resolve_left fun same => nomatch same
  have distinct : i ≠ j := fun same => other (.inl (same ▸ rfl))
  obtain ⟨waits, idle⟩ := h j before
  have queued := waits.resolve_right fun h => distinct (Option.some.inj h.1)
  refine ⟨.inl ?_, ?_⟩
  · rw [World.graph_begin, Graph.queue_push, (Graph.relinks_forget _ _).queue]
    exact queued
  · rw [World.graph_begin, Graph.effect_push, (Graph.sameActivity_forget _ _).running]
    simpa [World.update, Graph.countRun, Graph.setRunning, Graph.effect_modifyEffect, distinct]
      using idle

end Attended

namespace Run

variable {α β : Type}

def Attends (first : List Nat) (m : Run V C (Recorded V C H E) E α)
    (w : World V C (Recorded V C H E)) : Prop :=
  Attended first none w → Ends (fun _ w' => Attended first none w') m w

section Rules

variable {first : List Nat} {w : World V C (Recorded V C H E)}

omit [Inhabited V] in
theorem attends_of_eq (hm : m w = o) (h : Attended first none w → Attended first none o.world) :
    Attends first m w := by
  intro attended w' ends
  rw [hm] at ends
  exact Outcome.world_of_ended? ends ▸ h attended

omit [Inhabited V] in
theorem attends_pure (a : α) (w : World V C (Recorded V C H E)) :
    Attends first (Pure.pure a : Run V C (Recorded V C H E) E α) w :=
  attends_of_eq rfl fun h => h

omit [Inhabited V] in
theorem Attends.bind (hm : Attends first m w) (hf : ∀ a w', Attends first (f a) w') :
    Attends first (m >>= f) w :=
  fun attended => Ends.bind (K := fun _ w' => Attended first none w') (fun _ _ _ _ h => h)
    (hm attended) fun a w1 h1 => hf a w1 (hm attended w1 (by rw [h1]; rfl))

omit [Inhabited V] in
theorem Attends.attempt (hm : Attends first m w) : Attends first (attempt m) w :=
  fun attended => (hm attended).attempt

omit [Inhabited V] in
theorem Attends.ensure (hm : Attends first m w)
    (hclose : ∀ failure w', Attends first (close failure) w') : Attends first (ensure m close) w :=
  fun attended => ends_ensure (hm attended) fun failure w1 h1 => hclose failure w1 h1

end Rules

section Parts

variable (Γ : Setting V C H E) {first : List Nat}
variable {again : Task V C (Recorded V C H E) E → Run V C (Recorded V C H E) E (Option V)}
variable (hagain : ∀ (t : Task V C H E) w, Attends first (again t.recorded) w)
variable (hturn : ∀ i w, Attended first (some i) w →
  Ends (fun _ w' => Attended first none w') (again (.execute (.effect i))) w)
variable {w : World V C (Recorded V C H E)}

include hagain

theorem attends_readSource (s : Source) (w : World V C (Recorded V C H E)) :
    Attends first (readSource Γ.recorded again s) w := by
  cases s with
  | wire i =>
    by_cases present : i < w.graph.wires.size
    · exact attends_of_eq (readSource_wire present) fun h => h.read Γ _ _
    · exact attends_of_eq (readSource_absent present) fun h => h
  | derived i =>
    rw [readSource_derived]
    exact (hagain (.value i) w).bind fun _ => attends_pure _

theorem ends_runTracked (begun : Attended first none (w.begin Γ.recorded t)) :
    Ends (fun _ w' => Attended first none w') (runTracked Γ.recorded again t) w := by
  rw [Ends, runTracked_apply]
  exact Attends.ensure (hagain (.script (Γ.body _)) _)
    (fun failure _ => attends_of_eq (finish_apply t failure _) fun h => h.finish Γ t failure)
    begun

theorem attends_runTracked (t : Tracker) (w : World V C (Recorded V C H E)) :
    Attends first (runTracked Γ.recorded again t) w :=
  fun h => ends_runTracked Γ hagain (h.begin Γ t)

omit [Inhabited V] in
theorem attends_executeAll (ts : List Tracker) (w : World V C (Recorded V C H E)) :
    Attends first (executeAll again ts) w := by
  induction ts generalizing w with
  | nil => exact attends_pure _ w
  | cons t ts ih => exact (hagain (.execute t) w).bind fun _ => ih

theorem attends_tell (s : Source) (w : World V C (Recorded V C H E)) :
    Attends first (tell Γ.recorded again s) w := by
  intro attended
  rw [Ends, tell_apply]
  exact attends_executeAll hagain _ _ (attended.same (Graph.sameActivity_tick w.graph) rfl)

omit [Inhabited V] in
theorem attends_leave (w : World V C (Recorded V C H E)) : Attends first (leave again) w :=
  (hagain .leave w).bind fun _ => attends_pure _

theorem attends_replaceValue (i : Nat) (old v : V) (w : World V C (Recorded V C H E)) :
    Attends first (replaceValue Γ.recorded again i old v) w := by
  have stored (h : Attended first none w) : Attended first none (w.assign Γ.recorded i old v) :=
    (h.same (f := (·.setValue i v)) (Graph.sameActivity_modifyWire w.graph i _) rfl).tell Γ
      fun _ same => nomatch same
  by_cases inside : ∃ d rest, w.graph.stack = .derived d :: rest
  · obtain ⟨d, rest, hs⟩ := inside
    exact attends_of_eq (replaceValue_inside hs) stored
  · intro attended
    rw [Ends, replaceValue_outside fun d rest hs => inside ⟨d, rest, hs⟩]
    exact Attends.ensure (attends_tell Γ hagain (.wire i) _) (fun _ => attends_leave hagain)
      ((stored attended).same (Graph.sameActivity_enter _) rfl)

theorem attends_writeWire (i : Nat) (v : V) (w : World V C (Recorded V C H E)) :
    Attends first (writeWire Γ.recorded again i v) w := by
  by_cases frozen : (w.graph.wire i).frozen = true
  · exact attends_of_eq (writeWire_frozen frozen) fun h => h
  · intro attended
    rw [Ends, writeWire_apply (Bool.eq_false_iff.mpr frozen)]
    refine (hagain (.script (Γ.same _ _)) w).bind (fun r w1 => ?_) attended
    cases r with
    | none => exact attends_replaceValue Γ hagain i _ v w1
    | some r => exact attends_pure _ w1

theorem attends_compute (i : Nat) (w : World V C (Recorded V C H E)) :
    Attends first (compute Γ.recorded again i) w := by
  have marks (b : Bool) (w : World V C (Recorded V C H E)) (h : Attended first none w) :
      Attended first none (w.update (·.setComputing i b)) :=
    h.update (fun _ mem => mem) fun _ idle => idle
  intro attended
  rw [Ends, compute_apply]
  refine Attends.bind (Attends.ensure (attends_runTracked Γ hagain _ _) fun _ w1 => ?_)
    (fun r w1 => ?_) (marks true w attended)
  · exact attends_of_eq rfl (marks false w1)
  · exact attends_of_eq rfl fun h => h.update (f := (·.keep i _)) (fun _ mem => mem) fun _ idle => idle

theorem attends_derivedValue (i : Nat) (w : World V C (Recorded V C H E)) :
    Attends first (derivedValue Γ.recorded again i) w := by
  by_cases absent : w.graph.deriveds.size ≤ i
  · exact attends_of_eq (derivedValue_absent absent) fun h => h
  have present : i < w.graph.deriveds.size := Nat.lt_of_not_le absent
  have read (w : World V C (Recorded V C H E)) : Attends first
      (modify (·.track (.derived i)) >>= fun _ => graph >>= fun g =>
        notice Γ.recorded (.read (.derived i) (g.derived i).cache) >>= fun _ =>
          Pure.pure (g.derived i).cache) w :=
    attends_of_eq rfl fun h => h.read Γ (.derived i) _
  cases hc : (w.graph.derived i).computing with
  | true => exact attends_of_eq (derivedValue_circular present hc) fun h => h
  | false =>
    intro attended
    cases hd : (w.graph.derived i).dirty with
    | false =>
      rw [Ends, derivedValue_clean present hc hd]
      exact read w attended
    | true =>
      rw [Ends, derivedValue_dirty present hc hd]
      exact (attends_compute Γ hagain i w).bind (fun _ => read) attended

theorem attends_settle (i n : Nat) (w : World V C (Recorded V C H E)) :
    Attends first (settle Γ.recorded again i n) w := by
  induction n generalizing w with
  | zero =>
    exact attends_of_eq (settle_zero i w) fun h => h.tell Γ fun _ same => nomatch same
  | succ n ih =>
    intro attended
    rw [Ends, settle_succ]
    refine (attends_runTracked Γ hagain (.effect i) _).bind (fun _ w1 => ?_)
      (attended.same (f := (·.countRun i))
        (Graph.sameActivity_modifyEffect w.graph i fun _ => rfl) rfl)
    refine Attends.bind (attends_of_eq rfl fun h => h) fun g w2 => ?_
    split
    · exact ih w2
    · exact attends_pure _ w2

theorem ends_executeEffect (h : Attended first (some i) w) :
    Ends (fun _ w' => Attended first none w') (executeEffect Γ.recorded again i) w := by
  have skipped (other : (w.graph.effect i).disposed = true ∨ (w.graph.effect i).running = true) :
      Attended first none w := by
    intro j due
    obtain ⟨waits, idle⟩ := h j due
    refine ⟨.inl (waits.resolve_right ?_), idle⟩
    rintro ⟨turn, live⟩
    cases turn
    rcases other with gone | runs
    · exact nomatch gone.symm.trans live
    · exact nomatch runs.symm.trans idle
  cases hd : (w.graph.effect i).disposed with
  | true => exact attends_of_eq (executeEffect_disposed hd) (fun h => h) (skipped (.inl hd))
  | false =>
    cases hr : (w.graph.effect i).running with
    | true =>
      refine attends_of_eq (executeEffect_running hd hr) (fun h => ?_) (skipped (.inr hr))
      exact h.same (f := (·.requestRun i))
        (Graph.sameActivity_modifyEffect w.graph i fun _ => rfl) rfl
    | false =>
      by_cases deep : 0 < w.graph.depth
      · intro w' ends
        rw [executeEffect_waiting hd hr deep] at ends
        cases ends
        exact h.enqueue Γ hr
      · rw [Ends, executeEffect_now hd hr deep, runEffect_apply]
        refine ends_ensure (K := fun _ w' => Attended first none w')
          (L := fun _ w' => Attended first none w') ?_ fun failure w1 h1 => ?_
        · rw [Ends, settle_succ]
          refine Ends.bind (K := fun _ w' => Attended first none w') (fun _ _ _ _ h => h)
            (ends_runTracked Γ hagain (h.start Γ)) fun _ w1 h1 => ?_
          have ran := ends_runTracked Γ hagain (h.start Γ) w1 (by rw [h1]; rfl)
          refine Attends.bind (attends_of_eq rfl fun h => h) (fun g w2 => ?_) ran
          split
          · exact attends_settle Γ hagain i _ w2
          · exact attends_pure _ w2
        · refine attends_of_eq rfl (fun h => h.update (f := (·.setRunning i false))
            (fun _ mem => mem) fun j idle => ?_) h1
          rw [Graph.setRunning, Graph.effect_modifyEffect]
          split
          · rfl
          · exact idle

theorem attends_executeDerived (i : Nat) (w : World V C (Recorded V C H E)) :
    Attends first (executeDerived Γ.recorded again i) w := by
  cases hd : (w.graph.derived i).dirty with
  | true => exact attends_of_eq (executeDerived_dirty hd) fun h => h
  | false =>
    intro attended
    rw [Ends, executeDerived_clean hd]
    exact attends_tell Γ hagain _ _ (attended.same (f := (·.invalidate i))
      (Graph.sameActivity_modifyDerived w.graph i fun _ => rfl) rfl)

include hturn in
omit hagain [Inhabited V] in
theorem attends_drain (n : Nat) (failure : Option E) (w : World V C (Recorded V C H E)) :
    Attends first (drain Γ.recorded again n failure) w := by
  induction n generalizing failure w with
  | zero => exact fun _ => ends_exhausted w
  | succ n ih =>
    cases hq : w.graph.queue with
    | nil =>
      refine attends_of_eq (drain_nil n failure hq) fun h => ?_
      cases failure <;> exact h
    | cons i rest =>
      intro attended
      rw [Ends, drain_cons n failure hq]
      refine ends_attempt_bind (K := fun _ w' => Attended first none w')
        (hturn i _ (attended.unqueue Γ hq)) fun r w1 h1 => ?_
      cases r with
      | ok r => exact ih failure w1 h1
      | error e =>
        change Ends _ (if Γ.caught e then _ else raise e) w1
        split
        · exact ih _ w1 h1
        · exact attends_of_eq rfl (fun h => h) h1

include hturn in
omit hagain in
theorem attends_leaveBatch (fuel : Nat) (w : World V C (Recorded V C H E)) :
    Attends first (leaveBatch Γ.recorded again fuel) w := by
  have left (h : Attended first none w) : Attended first none (w.update Graph.depart) :=
    h.same (Graph.sameActivity_depart w.graph) rfl
  by_cases outermost : w.graph.depth = 1
  · intro attended
    rw [Ends, leaveBatch_outermost fuel outermost]
    exact attends_drain Γ hturn fuel none _ (left attended)
  · exact attends_of_eq (leaveBatch_inner fuel outermost) left

theorem attends_exec (s : Script V C H E) (w : World V C (Recorded V C H E)) :
    Attends first (exec Γ.recorded again s.recorded) w := by
  induction s generalizing w with
  | done r => exact attends_pure r w
  | raise e => exact attends_of_eq rfl fun h => h
  | look next ih => exact fun h => ih _ _ _ h.look
  | replace host next ih => exact fun h => ih _ h
  | read s next ih => exact (attends_readSource Γ hagain s w).bind ih
  | newWire v next ih =>
    exact fun h => ih _ _ (h.same (f := (·.addWire v)) (Graph.sameActivity_addWire w.graph v) rfl)
  | write i v next ih => exact (attends_writeWire Γ hagain i v w).bind fun _ => ih
  | freeze i next ih =>
    exact fun h => ih _ (h.same (f := (·.freeze i)) (Graph.sameActivity_modifyWire w.graph i _) rfl)
  | newDerived l c next ih =>
    exact fun h => ih _ _ (h.same (f := (·.addDerived l c))
      (Graph.sameActivity_addDerived w.graph l c) rfl)
  | newEffect l c next ih =>
    exact fun h => (hagain (.execute (.effect w.graph.effects.size)) _).bind (fun _ => ih _)
      (h.same (f := (·.addEffect l c)) (Graph.sameActivity_addEffect w.graph l c) rfl)
  | execute t next ih => exact (hagain (.execute t) w).bind fun _ => ih
  | dispose i next ih => exact fun h => ih _ (h.dispose Γ i)
  | startBatch next ih => exact fun h => ih _ (h.same (Graph.sameActivity_enter w.graph) rfl)
  | endBatch next ih => exact (attends_leave hagain w).bind fun _ => ih
  | batch body next ihBody ihNext =>
    exact fun h => ((ihBody _).ensure fun _ => attends_leave hagain).bind ihNext
      (h.same (Graph.sameActivity_enter w.graph) rfl)
  | attempt body next ihBody ihNext => exact (ihBody w).attempt.bind ihNext
  | call c next ih => exact (hagain (.script (Γ.body c)) w).bind ih

include hturn

theorem attends_performWith (fuel : Nat) (t : Task V C H E) (w : World V C (Recorded V C H E)) :
    Attends first (performWith Γ.recorded again fuel t.recorded) w := by
  cases t with
  | script s => exact attends_exec Γ hagain s w
  | execute t =>
    cases t with
    | derived i => exact (attends_executeDerived Γ hagain i w).bind fun _ => attends_pure _
    | effect i =>
      exact Attends.bind (fun h => ends_executeEffect Γ hagain h.weaken) fun _ =>
        attends_pure _
  | value i => exact (attends_derivedValue Γ hagain i w).bind fun _ => attends_pure _
  | leave => exact (attends_leaveBatch Γ hturn fuel w).bind fun _ => attends_pure _

end Parts

theorem perform_attends (Γ : Setting V C H E) (first : List Nat) (n : Nat) :
    (∀ (t : Task V C H E) w, Attends first (perform Γ.recorded n t.recorded) w) ∧
      ∀ i w, Attended first (some i) w → Ends (fun _ w' => Attended first none w')
        (perform Γ.recorded n (.execute (.effect i))) w := by
  induction n with
  | zero => exact ⟨fun _ w _ => ends_exhausted w, fun _ w _ => ends_exhausted w⟩
  | succ n ih =>
    refine ⟨attends_performWith Γ ih.1 ih.2 (n * n), fun i w h => ?_⟩
    exact (ends_executeEffect Γ ih.1 h).still fun _ => rfl

end Run

end AttrBinder.Reactive
