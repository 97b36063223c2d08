import AttrBinder.Proofs.Reactive.Draining
import AttrBinder.Proofs.Reactive.Dependency
import AttrBinder.Proofs.Reactive.Marking

/-!
Effects come back. What an effect depends on is what its last run has read, however that run ended
(`Remembers`). So a wire that changes later leads to another run, if the last run has read it, or
if it has read a derived value that rests on it and is up to date (`last_run_returns`). A derived
value that failed gave no value, and nobody subscribed to it: what it has read before it failed does
not bring the effect back (`failed_derived_strands_effect`).
-/

namespace AttrBinder.Reactive

variable {V C H E : Type} [Inhabited V] [Inhabited C]

/-- A change after which links, stack, open runs and last runs are what they were. -/
structure Still (w w' : World V C (Recorded V C H E)) : Prop where
  links : w.graph.SameLinks w'.graph
  stack : w'.graph.stack = w.graph.stack
  openRuns : frames w'.host.past = frames w.host.past
  lastRuns : ∀ t, lastRun t w'.host.past = lastRun t w.host.past

section Steps

variable {Γ : Setting V C H E} {w w' : World V C (Recorded V C H E)}

theorem Step.still_or (step : Step Γ w w') : Still w w' ∨
    (∃ s v, w' = w.read Γ.recorded s v) ∨
    (∃ t, t ∉ w.graph.stack ∧ w.graph.Starts t ∧ w' = w.begin Γ.recorded t) ∨
    (∃ t rest failure, w.graph.stack = t :: rest ∧ w' = w.finish Γ.recorded t failure) ∨
    ∃ i, w' = w.dispose Γ.recorded i := by
  have still {f : Graph V C → Graph V C} (links : w.graph.SameLinks (f w.graph))
      (stack : (f w.graph).stack = w.graph.stack) : Still w (w.update f) :=
    ⟨links, stack, rfl, fun _ => rfl⟩
  have effect {i : Nat} {f : Effect C → Effect C} (h : ∀ e, (f e).dependencies = e.dependencies) :
      w.graph.SameLinks (w.graph.modifyEffect i f) :=
    Graph.sameLinks_modifyEffect w.graph i h
  have same : w.graph.SameLinks w.graph := .refl _
  cases step with
  | look => exact .inl ⟨same, rfl, rfl, fun _ => rfl⟩
  | replace h => exact .inl ⟨same, rfl, rfl, fun _ => rfl⟩
  | addWire v => exact .inl (still (Graph.sameLinks_addWire _ v) rfl)
  | addDerived l c => exact .inl (still (Graph.sameLinks_addDerived _ l c) rfl)
  | addEffect l c => exact .inl (still (Graph.sameLinks_addEffect _ l c) rfl)
  | freeze i => exact .inl (still (Graph.sameLinks_modifyWire _ i fun _ => rfl) rfl)
  | readWire => exact .inr (.inl ⟨_, _, rfl⟩)
  | readDerived => exact .inr (.inl ⟨_, _, rfl⟩)
  | assign i old v => exact .inl ⟨Graph.sameLinks_setValue _ i v, rfl, rfl, fun _ => rfl⟩
  | tick => exact .inl (still (Graph.sameLinks_of_eq rfl rfl rfl) rfl)
  | enter => exact .inl (still (Graph.sameLinks_of_eq rfl rfl rfl) rfl)
  | depart => exact .inl (still (Graph.sameLinks_of_eq rfl rfl rfl) rfl)
  | invalidate => exact .inl (still (Graph.sameLinks_invalidate _ _) rfl)
  | startComputing => exact .inl (still (Graph.sameLinks_setComputing _ _ _) rfl)
  | stopComputing => exact .inl (still (Graph.sameLinks_setComputing _ _ _) rfl)
  | keep d v => exact .inl (still (Graph.sameLinks_keep _ d v) rfl)
  | startRunning => exact .inl (still (effect fun _ => rfl) rfl)
  | stopRunning => exact .inl (still (effect fun _ => rfl) rfl)
  | countRun => exact .inl (still (effect fun _ => rfl) rfl)
  | begin idle starts => exact .inr (.inr (.inl ⟨_, idle, starts, rfl⟩))
  | finish failure hs => exact .inr (.inr (.inr (.inl ⟨_, _, failure, hs, rfl⟩)))
  | requestRun => exact .inl (still (effect fun _ => rfl) rfl)
  | enqueue =>
    exact .inl ⟨Graph.sameLinks_of_eq rfl rfl rfl, rfl, rfl, fun _ => rfl⟩
  | unqueue =>
    exact .inl ⟨Graph.sameLinks_of_eq rfl rfl rfl, rfl, rfl, fun _ => rfl⟩
  | overran i => exact .inl ⟨same, rfl, rfl, fun _ => rfl⟩
  | dispose i => exact .inr (.inr (.inr (.inr ⟨i, rfl⟩)))

end Steps

/-- What a tracker that does not run depends on is what its last run has read, unless it is an
effect that was disposed. -/
structure Remembers (w : World V C (Recorded V C H E)) : Prop where
  there : ∀ t L, lastRun t w.host.past = some L → w.graph.HasTracker t
  gone : ∀ fr ∈ frames w.host.past, fr.disposed = true → w.graph.Gone fr.tracker
  reads : ∀ t ∉ w.graph.stack, ∀ L, lastRun t w.host.past = some L → w.graph.Gone t ∨
    ∀ s, s ∈ w.graph.dependencies t ↔ ∃ v, (s, v) ∈ L

section Remembers

variable {Γ : Setting V C H E} {w w' : World V C (Recorded V C H E)}

theorem Step.remembers (tracked : Tracked w) (step : Step Γ w w') (h : Remembers w) :
    Remembers w' := by
  have open_ (fr : Frame V) (mem : fr ∈ frames w.host.past) : w.graph.HasTracker fr.tracker :=
    (tracked.active _ (tracked.stack ▸ List.mem_map_of_mem mem)).hasTracker
  have gone (fr : Frame V) (mem : fr ∈ frames w.host.past) (disposed : fr.disposed = true) :
      w'.graph.Gone fr.tracker := (step.stays (open_ fr mem)).2 (h.gone fr mem disposed)
  -- What holds of a tracker that the step leaves alone.
  have kept {t : Tracker} (idle : t ∉ w.graph.stack) {L : List (Source × V)}
      (last : lastRun t w.host.past = some L)
      (links : w'.graph.dependencies t = w.graph.dependencies t) : w'.graph.Gone t ∨
        ∀ s, s ∈ w'.graph.dependencies t ↔ ∃ v, (s, v) ∈ L := by
    rw [links]
    exact (h.reads t idle L last).imp_left (step.stays (h.there t L last)).2
  rcases step.still_or with still | ⟨s, v, rfl⟩ | ⟨t', idle', -, rfl⟩ | ⟨t', rest, failure, hs, rfl⟩ |
    ⟨i, rfl⟩
  · refine ⟨fun t L last => ?_, fun fr mem => ?_, fun t idle L last => ?_⟩
    · exact (step.stays (h.there t L (still.lastRuns t ▸ last))).1
    · exact gone fr (still.openRuns ▸ mem)
    · exact kept (still.stack ▸ idle) (still.lastRuns t ▸ last) (still.links.dependencies t)
  · have stack : (w.read Γ.recorded s v).graph.stack = w.graph.stack :=
      (Graph.relinks_track w.graph s).stack
    refine ⟨fun t L last => ?_, fun fr mem disposed => ?_, fun t idle L last => ?_⟩
    · exact (step.stays (h.there t L last)).1
    · change fr ∈ (frames w.host.past).modifyHead _ at mem
      cases hf : frames w.host.past with
      | nil => exact nomatch hf ▸ mem
      | cons top outer =>
        rw [hf] at mem
        rcases List.mem_cons.mp mem with rfl | below
        · exact gone top (hf ▸ List.mem_cons_self) disposed
        · exact gone fr (hf ▸ List.mem_cons_of_mem top below) disposed
    · rw [stack] at idle
      exact kept idle last (Graph.dependencies_track_idle idle s)
  · refine ⟨fun t L last => ?_, fun fr mem disposed => ?_, fun t idle L last => ?_⟩
    · exact (step.stays (h.there t L last)).1
    · rcases List.mem_cons.mp mem with rfl | below
      · cases disposed
      · exact gone fr below disposed
    · have outside : t ∉ t' :: (w.graph.forget t').stack := idle
      rw [(Graph.relinks_forget w.graph t').stack] at outside
      obtain ⟨other, idle⟩ := not_or.mp (mt List.mem_cons.mpr outside)
      exact kept idle last ((Graph.dependencies_forget w.graph t' t).trans (if_neg other))
  · obtain ⟨fr, outer, hf, rfl, -⟩ := tracked.innermost hs
    have mem : fr ∈ frames w.host.past := hf ▸ List.mem_cons_self
    have last (t : Tracker) : lastRun t (w.finish Γ.recorded fr.tracker failure).host.past =
        if fr.tracker = t then some fr.reads else lastRun t w.host.past := by
      change (if fr.tracker = t then (frames w.host.past).head?.map Frame.reads else _) = _
      rw [hf]
      rfl
    refine ⟨fun t L hL => ?_, fun fr' mem' => ?_, fun t idle L hL => ?_⟩
    · rw [last] at hL
      split at hL
      · rename_i same
        exact same ▸ (step.stays (open_ fr mem)).1
      · exact (step.stays (h.there t L hL)).1
    · exact gone fr' (List.mem_of_mem_tail mem')
    · rw [last] at hL
      split at hL
      · rename_i same
        cases hL
        subst same
        cases disposed : fr.disposed with
        | true => exact .inl (gone fr mem disposed)
        | false => exact .inr (tracked.reads fr mem disposed)
      · rename_i other
        have idle' : t ∉ w.graph.stack := by
          intro running
          rw [hs] at running
          refine idle ?_
          change t ∈ w.graph.stack.tail
          rw [hs]
          exact (List.mem_cons.mp running).resolve_left (Ne.symm other)
        exact kept idle' hL rfl
  · have stack : (w.dispose Γ.recorded i).graph.stack = w.graph.stack :=
      (Graph.relinks_dispose w.graph i).stack
    refine ⟨fun t L last => ?_, fun fr mem disposed => ?_, fun t idle L last => ?_⟩
    · exact (step.stays (h.there t L last)).1
    · obtain ⟨fr, below, rfl⟩ := List.mem_map.mp mem
      rw [Frame.tracker_disposeIf]
      by_cases this : fr.tracker = .effect i
      · exact ⟨i, this, Graph.disposed_dispose w.graph i⟩
      · rw [Frame.disposeIf, if_neg this] at disposed
        exact gone fr below disposed
    · rw [stack] at idle
      by_cases this : t = .effect i
      · exact .inl ⟨i, this, Graph.disposed_dispose w.graph i⟩
      · exact kept idle last ((Graph.dependencies_dispose w.graph i t).trans (if_neg this))

end Remembers

/-- The worlds to which top-level scripts lead one after another from an empty graph, each to its
end, with the record of all of them. -/
inductive Recounted (Γ : Setting V C H E) : World V C H → List (Sight V C E) → Prop
  | start {w : World V C H} : w.graph = {} → Recounted Γ w []
  | step {w w' : World V C H} {past : List (Sight V C E)} {n : Nat} {s : Script V C H E} :
      Recounted Γ w past → (Run.perform Γ n (.script s) w).ended? = some w' →
      Recounted Γ w'
        (Run.perform Γ.recorded n (.script s.recorded) (w.recording past)).world.host.past

theorem Recounted.keeps {Γ : Setting V C H E} {I : World V C (Recorded V C H E) → Prop}
    (each : ∀ {w w'}, Tracked w → Step Γ w w' → I w → I w')
    (empty : ∀ w : World V C H, w.graph = {} → I w.recording) {w : World V C H}
    {past : List (Sight V C E)} (h : Recounted Γ w past) :
    Tracked (w.recording past) ∧ I (w.recording past) := by
  induction h with
  | @start w first =>
    have reached : Reached Γ (fun w => w.graph = {}) (fun _ => True) w := .start first
    exact ⟨tracked_recording reached.converse.1 (by rw [first]), empty w first⟩
  | @step w w' past n s _ ends ih =>
    have ended := perform_recording_ended ends past
    have walked := (Run.perform_walks Γ n (.script s) (w.recording past) ih.1).1
    change Leads Γ _ (Run.perform Γ.recorded n (.script s.recorded) _).world at walked
    rw [Outcome.world_of_ended? ended] at walked
    exact walked.keeps each ih.1 ih.2

theorem Recounted.tracked {Γ : Setting V C H E} {w : World V C H}
    {past : List (Sight V C E)} (h : Recounted Γ w past) : Tracked (w.recording past) :=
  (h.keeps (I := fun _ => True) (fun _ _ _ => trivial) fun _ _ => trivial).1

theorem Recounted.remembers {Γ : Setting V C H E} {w : World V C H}
    {past : List (Sight V C E)} (h : Recounted Γ w past) : Remembers (w.recording past) :=
  (h.keeps Step.remembers fun _ _ =>
    ⟨fun _ _ last => (nomatch last), fun _ mem => (nomatch mem),
      fun _ _ _ last => (nomatch last)⟩).2

/-- Wire `k` was read in the last run of a tracker, by the tracker itself or through derived values
that gave it their values and are up to date. -/
inductive Rests (g : Graph V C) (past : List (Sight V C E)) (k : Nat) : Tracker → Prop
  | wire {t : Tracker} {L : List (Source × V)} {v : V} : lastRun t past = some L →
      (.wire k, v) ∈ L → Rests g past k t
  | derived {t : Tracker} {L : List (Source × V)} {d : Nat} {v : V} : lastRun t past = some L →
      (.derived d, v) ∈ L → (g.derived d).dirty = false → Rests g past k (.derived d) →
      Rests g past k t

section Returns

variable {Γ : Setting V C H E} {Ok : H → Prop} {w : World V C H}
variable {past : List (Sight V C E)} {i k : Nat}

theorem Rests.marked [Preorder H] {t : Tracker} (rests : Rests w.graph past k t)
    (remembers : Remembers (w.recording past)) (converse : w.graph.Converse)
    (idle : w.graph.stack = []) (live : ¬ w.graph.Gone t) {w1 w2 : World V C (Recorded V C H E)}
    (links : w.graph.SameLinks w1.graph) (clean : w1.graph.derived = w.graph.derived)
    (spread : Spreads w1 w2) (told : ∀ t ∈ w1.graph.subscribers (.wire k), w2.graph.Marked t) :
    w2.graph.Marked t := by
  have subscribed {t : Tracker} {L : List (Source × V)} {s : Source} {v : V}
      (live : ¬ w.graph.Gone t) (last : lastRun t past = some L) (read : (s, v) ∈ L) :
      t ∈ w1.graph.subscribers s := by
    rw [links.subscribers]
    have outside : t ∉ w.graph.stack := fun running => nomatch idle ▸ running
    have reads := (remembers.reads t outside L last).resolve_left live
    exact (converse s t).mp ((reads s).mpr ⟨v, read⟩)
  induction rests with
  | wire last read => exact told _ (subscribed live last read)
  | @derived t L d v last read up_to_date _ ih =>
    have dirty : w2.graph.Marked (.derived d) := ih fun ⟨_, h, _⟩ => nomatch h
    exact spread.closed d (by rw [clean]; exact up_to_date) dirty t (subscribed live last read)

theorem Leads.queued {w w' : World V C (Recorded V C H E)} (leads : Leads Γ w w')
    (tracked : Tracked w) (mem : i ∈ w'.graph.queue) :
    i ∈ w.graph.queue ∨ ∃ x ∈ w'.host.past, x.moment = some (.queued i) := by
  refine (leads.keeps (I := fun u => ∀ i ∈ u.graph.queue, i ∈ w.graph.queue ∨
    ∃ x ∈ u.host.past, x.moment = some (.queued i)) (fun _ step shown j mem => ?_) tracked
    fun j mem => .inl mem).2 i mem
  rcases step.shows.2 j mem with before | now
  · refine (shown j before).imp_right ?_
    rintro ⟨x, past, queued⟩
    exact ⟨x, step.shows.1 x past, queued⟩
  · exact .inr now

theorem Leads.shown {w w' : World V C (Recorded V C H E)} (leads : Leads Γ w w')
    {x : Sight V C E} (mem : x ∈ w.host.past) : x ∈ w'.host.past := by
  induction leads with
  | refl => exact mem
  | tail _ step ih => exact step.shows.1 x ih

omit [Inhabited V] [Inhabited C] in
theorem Run.ends_of_ok {α β : Type} {P : World V C H → Prop} {m : Run V C H E α}
    {f : α → Run V C H E β} {w : World V C H} (returns : ∀ e w1, m w ≠ .raised e w1)
    (next : ∀ a w1, m w = .ok a w1 → Ends (fun _ => P) (f a) w1) :
    Ends (fun _ => P) (m >>= f) w := by
  intro w' ended
  cases hw : m w with
  | exhausted w1 =>
    rw [bind_of_exhausted hw] at ended
    cases ended
  | raised e w1 => exact absurd hw (returns e w1)
  | ok a w1 =>
    rw [bind_of_ok hw] at ended
    exact next a w1 hw w' ended

theorem recorded_still {s : Script V C H E} {n : Nat} (still : ∀ w1,
      (Run.perform Γ n (.script s) w).ended? = some w1 →
      Run.perform Γ n (.script s) w = .ok none w) {w1 : World V C (Recorded V C H E)}
    (ended : (Run.perform Γ.recorded n (.script s.recorded) w.recording).ended? = some w1) :
    Run.perform Γ.recorded n (.script s.recorded) w.recording = .ok none w1 ∧
      w1.plain = w := by
  have same := perform_recording Γ n s w []
  cases ho : Run.perform Γ.recorded n (.script s.recorded) w.recording with
  | exhausted u => cases ho ▸ ended
  | raised e u =>
    rw [ho] at same
    cases same.trans (still u.plain (by rw [← same]; rfl))
  | ok a u =>
    rw [ho] at same ended
    cases ended
    cases same.trans (still w1.plain (by rw [← same]; rfl))
    exact ⟨rfl, rfl⟩

theorem queued_of_told [Preorder H] (recounted : Recounted Γ w past) (idle : w.graph.Idle)
    (live : (w.graph.effect i).disposed = false) (rests : Rests w.graph past k (.effect i))
    {w1 w2 : World V C (Recorded V C H E)} (links : w.graph.SameLinks w1.graph)
    (deriveds : w1.graph.derived = w.graph.derived) (effects : w1.graph.effect = w.graph.effect)
    (spread : Spreads w1 w2) (told : ∀ t ∈ w1.graph.subscribers (.wire k), w2.graph.Marked t) :
    i ∈ w2.graph.queue := by
  have kept : ¬ w.graph.Gone (.effect i) := by
    rintro ⟨j, same, gone⟩
    cases same
    exact nomatch gone.symm.trans live
  have marked := rests.marked recounted.remembers recounted.tracked.converse idle.stack kept links
    deriveds spread told
  obtain ⟨b, same, -⟩ := spread.effect i
  rw [Graph.Marked, Graph.Pending, same, effects] at marked
  rcases marked with gone | queued | ⟨running, -⟩
  · exact nomatch gone.symm.trans live
  · exact queued
  · exact nomatch running.symm.trans (idle.running i)

/-- What a write that takes place makes of an effect that rests on the wire: it waited already or is
queued, and nothing waits in the end unless a fault that no flush catches leaves an effect. -/
structure Recalls (Γ : Setting V C H E) (i : Nat) (w : World V C H)
    (w' : World V C (Recorded V C H E)) : Prop where
  queued : i ∈ w.graph.queue ∨ ∃ x ∈ w'.host.past, x.moment = some (.queued i)
  empty : Γ.Holds w'.host.past → w'.graph.queue = []

theorem recalls_of_replace (hset : Γ.Structured Ok)
    (told : ∀ n ts t, t ∈ ts → t ∈ Γ.arrange n ts)
    (recounted : Recounted Γ w past) (idle : w.graph.Idle) (host : Ok w.host) (n : Nat) {old v : V}
    (live : (w.graph.effect i).disposed = false) (rests : Rests w.graph past k (.effect i))
    {u : World V C (Recorded V C H E)} (leads : Leads Γ w.recording u) (plain : u.plain = w) :
    Run.Ends (fun _ => Recalls Γ i w)
      (Run.replaceValue Γ.recorded (Run.perform Γ.recorded n) k old v) u := by
  let _ : Preorder H :=
    { le := fun _ _ => True, le_refl := fun _ => trivial, le_trans := fun _ _ _ _ _ => trivial }
  have graph : u.graph = w.graph := congrArg World.graph plain
  have start : Tracked (w.recording : World V C (Recorded V C H E)) :=
    tracked_recording recounted.tracked.converse idle.stack
  have walks := Run.perform_walks Γ n
  obtain ⟨levels, left⟩ := Run.perform_levels hset n
  have outside : ∀ d rest, u.graph.stack ≠ .derived d :: rest := by
    rw [graph, idle.stack]
    exact fun _ _ h => nomatch h
  have opens : Leads Γ w.recording ((u.assign Γ.recorded k old v).update Graph.enter) :=
    (leads.tail (.assign k old v)).tail .enter
  have tells := (Run.walks_tell walks (.wire k) _ (opens.tracked start)).1
  have deep : ((u.assign Γ.recorded k old v).update Graph.enter).graph.depth = 1 := by
    change u.graph.depth + 1 = 1
    rw [graph, idle.depth]
    rfl
  have level := Run.levels_tell levels (.wire k) ((u.assign Γ.recorded k old v).update Graph.enter)
    (hset.notice _ _ _ (show Ok u.plain.host from plain.symm ▸ host)) (by omega)
  have marks := Run.marks_tell (w := (u.assign Γ.recorded k old v).update Graph.enter) told
    (Run.perform_marks (fun _ _ _ => trivial) told n) (.wire k) (by omega)
  have links : w.graph.SameLinks ((u.assign Γ.recorded k old v).update Graph.enter).graph := by
    have stored := Graph.sameLinks_setValue u.graph k v
    have opened : (u.graph.setValue k v).SameLinks (u.graph.setValue k v).enter :=
      Graph.sameLinks_of_eq rfl rfl rfl
    rw [← graph]
    exact ⟨fun t => (opened.dependencies t).trans (stored.dependencies t),
      fun s => (opened.subscribers s).trans (stored.subscribers s)⟩
  intro w' ended
  rw [Run.replaceValue_outside outside] at ended
  cases tell : Run.tell Γ.recorded (Run.perform Γ.recorded n) (.wire k)
      ((u.assign Γ.recorded k old v).update Graph.enter) with
  | exhausted w2 =>
    rw [Run.ensure_of_exhausted tell] at ended
    cases ended
  | raised e w2 =>
    rw [Run.Yields, tell] at marks
    exact marks.elim
  | ok r w2 =>
    rw [Run.Yields, tell] at marks
    rw [tell] at tells
    rw [Run.ensure_of_ok tell] at ended
    have queued : i ∈ w2.graph.queue := queued_of_told recounted idle live rests links
      (by rw [← graph]; rfl) (by rw [← graph]; rfl) marks.1 marks.2
    have reached : Leads Γ w.recording w2 := opens.trans tells
    have leaves := (((Run.walks_leave walks w2).bind (f := fun _ => Pure.pure r)
      fun _ _ _ => Run.keeps_still rfl) (reached.tracked start)).1
    rw [Outcome.world_of_ended? ended] at leaves
    have flat := level w2 (congrArg Outcome.ended? tell)
    have closed := ((Run.leaves_leave left w2 flat.host (by rw [flat.depth]; omega)).still
      (k := Pure.pure r) (fun _ => rfl)) w' ended
    refine ⟨(reached.queued start queued).imp_right ?_, closed.queue (flat.depth.trans deep)⟩
    rintro ⟨x, mem, hx⟩
    exact ⟨x, leaves.shown mem, hx⟩

theorem recalls_of_write (hset : Γ.Structured Ok) (told : ∀ n ts t, t ∈ ts → t ∈ Γ.arrange n ts)
    (recounted : Recounted Γ w past) (idle : w.graph.Idle) (host : Ok w.host) (n : Nat) {v : V}
    (live : (w.graph.effect i).disposed = false) (rests : Rests w.graph past k (.effect i))
    (thawed : (w.graph.wire k).frozen = false)
    (differs : ∀ w1, (Run.perform Γ n (.script (Γ.same (w.graph.wire k).value v))
      w).ended? = some w1 → Run.perform Γ n
        (.script (Γ.same (w.graph.wire k).value v)) w = .ok none w) :
    Run.Ends (fun _ => Recalls Γ i w)
      (Run.writeWire Γ.recorded (Run.perform Γ.recorded n) k v) w.recording := by
  have start : Tracked (w.recording : World V C (Recorded V C H E)) :=
    tracked_recording recounted.tracked.converse idle.stack
  intro w' ended
  rw [Run.writeWire_apply (w := w.recording) thawed] at ended
  have walks := (Run.perform_walks Γ n
    (.script (Γ.same (w.graph.wire k).value v)) w.recording start).1
  revert ended
  refine Run.ends_of_ok (P := Recalls Γ i w) (fun e u raised => ?_) (fun a u compared => ?_) w'
  · cases (recorded_still differs (congrArg Outcome.ended? raised)).1.symm.trans raised
  · obtain ⟨still, plain⟩ := recorded_still differs (congrArg Outcome.ended? compared)
    cases still.symm.trans compared
    have world : (Run.perform Γ.recorded n
        (Task.script (Γ.same (w.graph.wire k).value v)).recorded w.recording).world = u :=
      congrArg Outcome.world compared
    rw [world] at walks
    exact recalls_of_replace hset told recounted idle host n live rests walks plain

end Returns

/-- An effect comes back, however its last run ended. If that run has read a wire, or has been given
a derived value that rests on the wire and is up to date, then a write that changes the wire outside
of batches and of runs makes the effect run, or finds it disposed when it is its turn. Only where a
fault that no flush catches leaves an effect it may still wait. The write ends where scripts are
finite. -/
theorem last_run_returns {setting : Setting V C H E} {Ok : H → Prop} (hset : setting.Structured Ok)
    (told : ∀ n ts t, t ∈ ts → t ∈ setting.arrange n ts) {w : World V C H}
    {past : List (Sight V C E)} (recounted : Recounted setting w past) (idle : w.graph.Idle)
    (host : Ok w.host) {i k : Nat} {v : V} (live : (w.graph.effect i).disposed = false)
    (rests : Rests w.graph past k (.effect i)) (thawed : (w.graph.wire k).frozen = false)
    (differs : ∀ n w1, (Run.perform setting n (.script (setting.same (w.graph.wire k).value v))
      w).ended? = some w1 → Run.perform setting n
        (.script (setting.same (w.graph.wire k).value v)) w = .ok none w) :
    (∀ n w', (Run.perform setting n (.script (.write k v (.done none))) w).ended? = some w' →
      ((∃ y ∈ shown setting n (.write k v (.done none)) w, y.Serves i) ∨ i ∈ w'.graph.queue) ∧
      (setting.Holds (shown setting n (.write k v (.done none)) w) → w'.graph.queue = [])) ∧
    (setting.Finite Ok → w.Tame setting Ok → ∃ N, ∀ n, N ≤ n →
      (Run.perform setting n (.script (.write k v (.done none))) w).ended?.isSome = true) := by
  refine ⟨fun n w' ends => ?_, fun finite tame => ?_⟩
  · cases n with
    | zero => cases ends
    | succ n =>
      have recalls : Recalls setting i w (w'.recording (shown setting (n + 1) _ w)) :=
        (recalls_of_write hset told recounted idle host n live rests thawed (differs n)).still
          (k := Pure.pure none) (fun _ => rfl) _ (ended?_recording ends)
      refine ⟨?_, recalls.empty⟩
      by_cases due : Due w.graph.queue i (shown setting (n + 1) (.write k v (.done none)) w)
      · exact .inr (waits_of_due (fun j _ => idle.running j) ends due)
      · rcases recalls.queued with waits | ⟨x, mem, hx⟩
        · exact .inl (served_of_first waits due)
        · obtain ⟨later, earlier, split⟩ := List.append_of_mem mem
          change shown setting (n + 1) _ w = _ at split
          rw [split] at due ⊢
          obtain ⟨y, before, serves⟩ := served_of_not_due hx due
          exact .inl ⟨y, List.mem_append_left _ before, serves⟩
  · exact Run.ended_of_terminates (Run.terminates_finite finite tame (.write rfl (.done none)))

theorem Graph.Idle.after {Γ : Setting V C H E} (hset : Γ.Structured Ok)
    {s : Script V C H E} (structured : s.Structured Ok) {w w' : World V C H} (host : Ok w.host)
    (idle : w.graph.Idle) (ends : (Run.perform Γ n (.script s) w).ended? = some w') :
    w'.graph.Idle := by
  have level := Run.script_level hset structured host (Int.le_of_eq idle.depth.symm) ends []
  exact idle.of_same (Run.perform_restores Γ n _ _ _ ends) level.depth

/-- The first code gives the first wire, but fails where it holds one. The second code reads the
derived value; the others fail, after that, where it is not zero. -/
def fragile : Setting Nat Nat Unit String where
  body
    | 0 => .read (.wire 0) fun v => if v = 1 then .raise "one" else .done (some v)
    | 1 => .read (.derived 0) fun _ => .done none
    | _ => .read (.derived 0) fun v => if v = 0 then .done none else .raise "not zero"
  same a b := .done (if a = b then some a else none)
  fault f := (f.message?).getD ""
  caught _ := true
  catches _ := rfl
  arrange _ ts := ts
  notice _ _ h := h

theorem fragile_structured : fragile.Structured fun _ => True where
  body c := by
    match c with
    | 0 | _ + 2 =>
      intro v
      change Script.Structured _ (if _ then _ else _)
      split <;> trivial
    | 1 => exact fun _ => trivial
  same _ _ := trivial
  notice _ _ _ _ := trivial

def watched (code : Nat) : Script Nat Nat Unit String :=
  .newWire 0 fun _ => .newDerived (.named "given") 0 fun _ =>
    .newEffect (.named "watch") code fun _ => .done none

def rewritten (code v : Nat) : Outcome Nat Nat Unit String (Option Nat) :=
  Run.perform fragile 9 (.script (.write 0 v (.done none)))
    (Run.perform fragile 9 (.script (watched code)) ⟨{}, ()⟩).world

def rewrittenRecord (code v : Nat) : List (Sight Nat Nat String) :=
  (Run.perform fragile.recorded 9 (.script (Script.write 0 v (.done none)).recorded)
    ((Run.perform fragile 9 (.script (watched code)) ⟨{}, ()⟩).world.recording
      (Run.perform fragile.recorded 9 (.script (watched code).recorded)
        (World.recording ⟨{}, ()⟩)).world.host.past)).world.host.past

/-- The effect fails after it was given the derived value, and comes back when the wire changes. -/
theorem last_run_returns_rewritten :
    (rewritten 2 5).fault? = some "not zero" ∧
      ∃ y ∈ shown fragile 9 (.write 0 7 (.done none)) (rewritten 2 5).world, y.Serves 0 := by
  have first := Outcome.ended?_of_isSome
    (show (Run.perform fragile 9 (.script (watched 2)) ⟨{}, ()⟩).ended?.isSome = true by
      decide +kernel)
  have second := Outcome.ended?_of_isSome (show (rewritten 2 5).ended?.isSome = true by decide +kernel)
  have recounted : Recounted fragile (rewritten 2 5).world (rewrittenRecord 2 5) :=
    .step (.step (.start rfl) first) second
  have made := Graph.Quiet.empty.toIdle.after (w := ⟨{}, ()⟩) fragile_structured (s := watched 2)
    (fun _ _ _ => trivial) trivial first
  have idle := made.after fragile_structured (s := .write 0 5 (.done none)) trivial trivial second
  have rests : Rests (rewritten 2 5).world.graph (rewrittenRecord 2 5) 0 (.effect 0) :=
    .derived (L := [(.derived 0, 5)]) (d := 0) (v := 5) (by decide +kernel) (by decide)
      (by decide +kernel) (.wire (L := [(.wire 0, 5)]) (v := 5) (by decide +kernel) (by decide))
  have differs : ((rewritten 2 5).world.graph.wire 0).value = 5 := by decide +kernel
  have returns := last_run_returns fragile_structured (fun _ _ _ mem => mem) recounted idle trivial
    (i := 0) (k := 0) (v := 7) (by decide +kernel) rests (by decide +kernel) (by
      rw [differs]
      intro n w1 ended
      cases n with
      | zero => cases ended
      | succ n => rfl)
  obtain ⟨comes, empty⟩ := returns.1 9 _ (Outcome.ended?_of_isSome (by decide +kernel))
  refine ⟨by decide +kernel, comes.resolve_right fun waits => ?_⟩
  exact nomatch empty (fun _ _ _ _ _ => rfl) ▸ waits

/-- The derived value fails while the effect reads it, so that the effect does not depend on it, and
the wire that the derived value has read changes without another run of the effect. -/
theorem failed_derived_strands_effect :
    (rewritten 1 1).fault? = some "one" ∧
      endings (rewrittenRecord 1 1) = [(.effect 0, some "one"), (.derived 0, some "one"),
        (.effect 0, none), (.derived 0, none)] ∧
      lastRun (.derived 0) (rewrittenRecord 1 1) = some [(.wire 0, 1)] ∧
      ((rewritten 1 1).world.graph.effect 0).disposed = false ∧
      (Run.perform fragile 9 (.script (.write 0 2 (.done none)))
        (rewritten 1 1).world).fault? = none ∧
      endings (shown fragile 9 (.write 0 2 (.done none)) (rewritten 1 1).world) = [] := by
  refine ⟨?_, ?_, ?_, ?_, ?_, ?_⟩ <;> decide +kernel

end AttrBinder.Reactive
