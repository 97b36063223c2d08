import AttrBinder.Proofs.Reactive.Steps

/-!
Dependencies are kept up to date by every run, whatever scripts do and wherever the run stops. Each
step keeps the invariant `Tracked`, and so every graph that is shown on the way is faithful to the
record (`reached_faithful`).
-/

namespace AttrBinder.Reactive

variable {V C H E : Type} [Inhabited V] [Inhabited C]

theorem tracked_recording {w : World V C H} (converse : w.graph.Converse)
    (stack : w.graph.stack = []) : Tracked (w.recording : World V C (Recorded V C H E)) := by
  refine ⟨converse, stack, ?_, ?_, ?_, .nil⟩
  · change w.graph.stack.Nodup
    rw [stack]
    exact List.nodup_nil
  · intro t ht
    change t ∈ w.graph.stack at ht
    rw [stack] at ht
    cases ht
  · intro fr hfr
    cases hfr

theorem Reached.converse {Γ : Setting V C H E} {allowed : Script V C H E → Prop}
    {w : World V C H} (h : Reached Γ (fun w => w.graph = {}) allowed w) :
    w.graph.Converse ∧ w.graph.stack = [] := by
  induction h with
  | start first =>
    rw [first]
    refine ⟨Graph.converse_of_unlinked ?_ ?_, rfl⟩
    · exact fun t => Graph.dependencies_of_absent (by cases t <;> exact Nat.not_lt_zero _)
    · exact fun s => Graph.subscribers_of_absent (by cases s <;> exact Nat.not_lt_zero _)
  | @step w w' n s _ _ ends ih =>
    have start : Tracked (w.recording : World V C (Recorded V C H E)) :=
      tracked_recording ih.1 ih.2
    have tracked := ((Run.perform_walks Γ n (.script s) w.recording start).1).tracked start
    have same : (Run.perform Γ.recorded n (.script s.recorded) w.recording).world.plain =
        w' := by
      rw [← Outcome.world_plain, perform_recording]
      exact Outcome.world_of_ended? ends
    exact ⟨same ▸ tracked.converse, (Run.perform_restores Γ n _ _ _ ends).stack.trans ih.2⟩

/-- In every graph that is shown during a top-level script, and where the script stops, both sides
of the links agree, and what a run has read is what its tracker depends on when it ends. -/
theorem reached_faithful {setting : Setting V C H E} {w : World V C H}
    (h : Reached setting (fun w => w.graph = {}) (fun _ => True) w) (n : Nat)
    (s : Script V C H E) :
    (Run.perform setting.recorded n (.script s.recorded) w.recording).plain =
        Run.perform setting n (.script s) w ∧
      Faithful (Run.perform setting.recorded n (.script s.recorded) w.recording).world.host.past ∧
      (Run.perform setting n (.script s) w).world.graph.Converse := by
  have start : Tracked (w.recording : World V C (Recorded V C H E)) :=
    tracked_recording h.converse.1 h.converse.2
  have tracked := ((Run.perform_walks setting n (.script s) w.recording start).1).tracked start
  refine ⟨perform_recording setting n s w [], tracked.faithful, ?_⟩
  rw [← perform_recording setting n s w [], Outcome.world_plain]
  exact tracked.converse

def endings (past : List (Sight V C E)) : List (Tracker × Option E) :=
  past.filterMap fun x => match x.moment with
    | some (.ended t failure) => some (t, failure)
    | _ => none

/-- The effect of a batch that is left by a fault runs twice and fails the second time. -/
theorem reached_faithful_faultyBatch :
    endings (Run.perform guarded.recorded 9 (.script faultyBatch.recorded)
        (World.recording ⟨{}, ()⟩)).world.host.past =
          [(.effect 0, some "refused"), (.effect 0, none)] ∧
      Faithful (Run.perform guarded.recorded 9 (.script faultyBatch.recorded)
        (World.recording ⟨{}, ()⟩)).world.host.past := by
  have empty : Reached guarded (fun w => w.graph = {}) (fun _ => True) ⟨{}, ()⟩ := .start rfl
  have shown := (reached_faithful empty 9 faultyBatch).2.1
  exact ⟨by decide +kernel, shown⟩

end AttrBinder.Reactive
