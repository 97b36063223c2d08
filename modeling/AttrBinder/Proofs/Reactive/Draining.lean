import AttrBinder.Proofs.Reactive.Failures
import AttrBinder.Proofs.Reactive.Telling
import AttrBinder.Proofs.Reactive.Termination
import AttrBinder.Proofs.Reactive.Turns

/-!
Draining the queue where effects fail. When the outermost batch ends, or a wire is written outside
of batches, every effect that waits or is queued meanwhile has its turn or waits still; the queue is
empty afterwards unless a fault that no flush catches has left an effect; and the first such fault
is raised, or else the first fault that left an effect, or none if there was none
(`draining_complete`). Effects may write, open batches and so drain the queue themselves.
-/

namespace AttrBinder.Reactive

variable {V C H E : Type} [Inhabited V] [Inhabited C]

def shown (Γ : Setting V C H E) (n : Nat) (s : Script V C H E) (w : World V C H) :
    List (Sight V C E) :=
  (Run.perform Γ.recorded n (.script s.recorded) w.recording).world.host.past

/-- A script that drains the queue, in which `first` stand when it begins. -/
structure Drains (Γ : Setting V C H E) (Ok : H → Prop) (first : List Nat)
    (s : Script V C H E) (w : World V C H) : Prop where
  empty : ∀ n w', (Run.perform Γ n (.script s) w).ended? = some w' →
    Γ.Holds (shown Γ n s w) → w'.graph.queue = []
  waiting : ∀ n w', (Run.perform Γ n (.script s) w).ended? = some w' →
    ∀ i ∈ first, (∃ y ∈ shown Γ n s w, y.Serves i) ∨ i ∈ w'.graph.queue
  queued : ∀ n w', (Run.perform Γ n (.script s) w).ended? = some w' →
    ∀ i later x earlier, shown Γ n s w = later ++ x :: earlier →
      x.moment = some (.queued i) → (∃ y ∈ later, y.Serves i) ∨ i ∈ w'.graph.queue
  raises : ∀ n w', (Run.perform Γ n (.script s) w).ended? = some w' →
    (Run.perform Γ n (.script s) w).fault? = Γ.leading none (failures Γ (shown Γ n s w))
  ends : Γ.Finite Ok → w.Tame Γ Ok →
    ∃ N, ∀ n, N ≤ n → (Run.perform Γ n (.script s) w).ended?.isSome = true

omit [Inhabited V] [Inhabited C] in
theorem Outcome.fault?_plain {α : Type} (o : Outcome V C (Recorded V C H E) E α) :
    o.plain.fault? = o.fault? := by
  cases o <;> rfl

namespace Run

theorem telling_depth (Γ : Setting V C H E) :
    Telling Γ (fun _ => True) fun w w' => w'.graph.depth = w.graph.depth where
  arrange _ _ _ _ _ := trivial
  refl _ := rfl
  trans a b := b.trans a
  depth h := h
  delivers _ _ _ _ _ _ := trivial
  tick _ := rfl
  invalidate _ _ := rfl
  requestRun _ _ := rfl
  enqueue _ _ := rfl

omit [Inhabited V] [Inhabited C] in
theorem Yields.fault? {α : Type} {m : Run V C H E α} {w : World V C H}
    {Q : α → World V C H → Prop} (h : Yields m w Q) : (m w).fault? = none := by
  unfold Yields at h
  cases hw : m w with
  | ok a w' => rfl
  | raised e w' =>
    rw [hw] at h
    exact h.elim
  | exhausted w' => rfl

variable {Γ : Setting V C H E} {Ok : H → Prop} (hset : Γ.Structured Ok)
variable (hfree : Γ.CatchFree Ok) {w : World V C (Recorded V C H E)}

include hset hfree

theorem exact_replaceValue (n i : Nat) (old v : V) (idle : w.graph.stack = []) :
    Exact Γ Ok none (replaceValue Γ.recorded (perform Γ.recorded n) i old v) w := by
  obtain ⟨hagain, hexact, hhonest⟩ := perform_reports hset hfree n
  obtain ⟨hlevel, hleaves⟩ := perform_levels hset n
  intro host flat w' ends
  have outside : ∀ d rest, w.graph.stack ≠ .derived d :: rest := fun d rest h => nomatch idle ▸ h
  rw [replaceValue_outside outside] at ends ⊢
  have opened : ((w.assign Γ.recorded i old v).update Graph.enter).graph.depth = 1 := by
    change w.graph.depth + 1 = 1
    omega
  have host' : Ok ((w.assign Γ.recorded i old v).update Graph.enter).host.host :=
    hset.notice _ _ _ host
  have told := candid_tell hlevel hagain (.wire i)
    ((w.assign Γ.recorded i old v).update Graph.enter) host' (by omega)
  have silent := ((telling_depth Γ.recorded).tell_perform n (s := .wire i)
    (w := (w.assign Γ.recorded i old v).update Graph.enter) (fun _ _ => trivial) (by omega)
    fun _ _ _ _ => trivial).yields.fault?
  have still : Reports (tell Γ.recorded (perform Γ.recorded n) (.wire i))
      ((w.assign Γ.recorded i old v).update Graph.enter)
      fun new failure => failures Γ new = [] ∧ failure = none := by
    intro w1 ended
    obtain ⟨new, past, leaves⟩ := told w1 ended
    refine ⟨new, past, ?_, silent⟩
    by_contra failed
    have := (leaves failed).1
    omega
  have closed : Reports (ensure (tell Γ.recorded (perform Γ.recorded n) (.wire i))
      fun _ => leave (perform Γ.recorded n))
      ((w.assign Γ.recorded i old v).update Graph.enter)
      fun new failure => failure = Γ.leading none (failures Γ new) := by
    refine still.ensure fun former w1 ended => ?_
    have first := levels_tell hlevel (.wire i) _ host' (by omega) w1 ended
    refine (honest_leave hhonest w1 first.host (by rw [first.depth]; omega)).mono ?_
    rintro later failure ⟨raised, _⟩ new ⟨none_failed, rfl⟩
    rw [failures_append, none_failed, List.nil_append, Option.or_none, raised]
  obtain ⟨new, past, raised⟩ := closed w' ends
  refine ⟨new ++ [⟨some (.wrote i old v), w.graph.setValue i v⟩], ?_, ?_⟩
  · rw [past, List.append_assoc]
    rfl
  · beta_reduce
    rw [raised, failures_append]
    rfl

/-- A write outside of batches raises the leading failure, if the wire is not frozen and comparing its
value raises nothing. -/
theorem exact_writeWire (n i : Nat) (v : V) (idle : w.graph.stack = [])
    (thawed : (w.graph.wire i).frozen = false)
    (compares : (perform Γ.recorded n
      (.script (Γ.same (w.graph.wire i).value v).recorded) w).fault? = none) :
    Exact Γ Ok none (writeWire Γ.recorded (perform Γ.recorded n) i v) w := by
  obtain ⟨hagain, -, -⟩ := perform_reports hset hfree n
  obtain ⟨hlevel, -⟩ := perform_levels hset n
  have same : Exact Γ Ok none (perform Γ.recorded n
      (.script (Γ.same (w.graph.wire i).value v).recorded)) w := by
    intro host flat w1 ended
    obtain ⟨new, past, leaves⟩ := hagain (.script (Γ.same (w.graph.wire i).value v))
      (hset.same _ _) (hfree.same _ _) w host (Int.le_of_eq flat.symm) w1 ended
    refine ⟨new, past, ?_⟩
    beta_reduce
    have still : failures Γ new = [] :=
      failures_of_returned fun failed => ⟨flat, compares.symm.trans (leaves failed).2⟩
    rw [compares, still]
    rfl
  intro host flat
  refine (same.bind (hlevel (.script (Γ.same _ _)) (hset.same _ _) w)
    (fun r w1 h1 => ?_) host flat).of_eq (writeWire_apply thawed) rfl
  cases r with
  | some r => exact fun _ _ => reports_of_eq rfl [] rfl rfl
  | none =>
    have stack := (perform_restores Γ.recorded n _ w w1 (by rw [h1]; rfl)).stack
    exact exact_replaceValue hset hfree n i _ v (stack.trans idle)

end Run

section Drains

variable {Γ : Setting V C H E} {Ok : H → Prop} {w w' : World V C H} {n : Nat}

theorem ended?_recording {s : Script V C H E}
    (ends : (Run.perform Γ n (.script s) w).ended? = some w') :
    (Run.perform Γ.recorded n (.script s.recorded) w.recording).ended? =
      some (w'.recording (shown Γ n s w)) :=
  perform_recording_ended ends []

theorem fault?_recording (s : Script V C H E) :
    (Run.perform Γ.recorded n (.script s.recorded) w.recording).fault? =
      (Run.perform Γ n (.script s) w).fault? := by
  rw [← perform_recording Γ n s w [], Outcome.fault?_plain]

theorem Run.ended_of_terminates {s : Script V C H E} (h : Terminates Γ Ok s w) :
    ∃ N, ∀ n, N ≤ n → (perform Γ n (.script s) w).ended?.isSome = true := by
  obtain ⟨o, w', ended, -, N, ran⟩ := h
  refine ⟨N, fun n enough => ?_⟩
  have same : perform Γ n (.script s) w = o := ran n enough
  rw [same, ended]
  rfl

theorem raises_of_reports {s : Script V C H E}
    (reports : Run.Reports (Run.perform Γ.recorded n (.script s.recorded)) w.recording
      fun new failure => failure = Γ.leading none (failures Γ new))
    (ends : (Run.perform Γ n (.script s) w).ended? = some w') :
    (Run.perform Γ n (.script s) w).fault? = Γ.leading none (failures Γ (shown Γ n s w)) := by
  obtain ⟨new, past, raised⟩ := reports _ (ended?_recording ends)
  have all : shown Γ n s w = new := past.trans (List.append_nil new)
  rw [← fault?_recording, all, raised]

theorem waits_of_due {s : Script V C H E}
    (idle : ∀ i ∈ w.graph.queue, (w.graph.effect i).running = false)
    (ends : (Run.perform Γ n (.script s) w).ended? = some w')
    (due : Due w.graph.queue i (shown Γ n s w)) : i ∈ w'.graph.queue := by
  have start : Attended w.graph.queue none (w.recording : World V C (Recorded V C H E)) :=
    fun j waits => ⟨.inl waits, idle j waits⟩
  have attended := (Run.perform_attends Γ w.graph.queue n).1 (.script s) w.recording start _
    (ended?_recording ends)
  obtain ⟨queued | turn, -⟩ := attended i due
  · exact queued
  · exact nomatch turn.1

theorem drains_of_empty {s : Script V C H E}
    (idle : ∀ i ∈ w.graph.queue, (w.graph.effect i).running = false)
    (empty : ∀ n w', (Run.perform Γ n (.script s) w).ended? = some w' →
      Γ.Holds (shown Γ n s w) → w'.graph.queue = [])
    (raises : ∀ n w', (Run.perform Γ n (.script s) w).ended? = some w' →
      (Run.perform Γ n (.script s) w).fault? = Γ.leading none (failures Γ (shown Γ n s w)))
    (ends : Γ.Finite Ok → w.Tame Γ Ok → Run.Terminates Γ Ok s w) :
    Drains Γ Ok w.graph.queue s w where
  empty := empty
  waiting n w' ended i mem := by
    by_cases due : Due w.graph.queue i (shown Γ n s w)
    · exact .inr (waits_of_due idle ended due)
    · exact .inl (served_of_first mem due)
  queued n w' ended i later x earlier split queued := by
    by_cases due : Due w.graph.queue i (shown Γ n s w)
    · exact .inr (waits_of_due idle ended due)
    · rw [split] at due
      exact .inl (served_of_not_due queued due)
  raises := raises
  ends finite tame := Run.ended_of_terminates (ends finite tame)

end Drains

/-- The first code passes the first wire on to the second wire; the others fail where the second
wire, and the first wire, are not zero. -/
def relaying : Setting Nat Nat Unit String where
  body
    | 0 => .read (.wire 0) fun v => .write 1 v (.done none)
    | 1 => .read (.wire 1) fun v => if v = 0 then .done none else .raise "passed on"
    | _ => .read (.wire 0) fun v => if v = 0 then .done none else .raise "direct"
  same a b := .done (if a = b then some a else none)
  fault f := (f.message?).getD ""
  caught _ := true
  catches _ := rfl
  arrange _ ts := ts
  notice _ _ h := h

theorem relaying_structured : relaying.Structured fun _ => True where
  body c := by
    match c with
    | 0 => exact fun _ => trivial
    | 1 | _ + 2 =>
      intro v
      by_cases zero : v = 0 <;> simp only [zero, if_true, if_false] <;> trivial
  same _ _ := trivial
  notice _ _ _ _ := trivial

theorem relaying_catchFree : relaying.CatchFree fun _ => True where
  body c := by
    match c with
    | 0 => exact fun _ => trivial
    | 1 | _ + 2 =>
      intro v
      by_cases zero : v = 0 <;> simp only [zero, if_true, if_false] <;> trivial
  same _ _ := trivial

/-- A batch is open in which the first wire was written, so that two effects wait. -/
def waitingBatch : World Nat Nat Unit :=
  (Run.perform relaying 9 (.script (.newWire 0 fun _ => .newWire 0 fun _ =>
    .newEffect (.named "pass") 0 fun _ => .newEffect (.named "second") 1 fun _ =>
      .newEffect (.named "first") 2 fun _ => .startBatch (.write 0 1 (.done none))))
    ⟨{}, ()⟩).world

end AttrBinder.Reactive
