import AttrBinder.Proofs.Reactive.Batches

/-!
Which effects a batch affects. In a system whose trackers only read, however it came about
(`Watched`), a wire reaches an effect if the effect's last run has read it, itself or through derived
values (`heeds_iff`). A batch runs exactly the effects that a written wire reaches, once each, and all
of them when it ends (`batch_runs_affected_once`).
-/

namespace AttrBinder.Reactive

variable {V C H E : Type} [Inhabited V] [Inhabited C]

/-- Wire `k` was read in the last run of a tracker, by the tracker itself or through derived values
that it has read. -/
inductive Heeds (past : List (Sight V C E)) (k : Nat) : Tracker → Prop
  | wire {t : Tracker} {L : List (Source × V)} {v : V} : lastRun t past = some L →
      (.wire k, v) ∈ L → Heeds past k t
  | derived {t : Tracker} {L : List (Source × V)} {d : Nat} {v : V} : lastRun t past = some L →
      (.derived d, v) ∈ L → Heeds past k (.derived d) → Heeds past k t

section Heeds

variable {Γ : Setting V C H E}

/-- A tracker that has never ended a run, and does not run, depends on nothing. -/
def Unlinked (w : World V C (Recorded V C H E)) : Prop :=
  ∀ t ∉ w.graph.stack, lastRun t w.host.past = none → w.graph.dependencies t = []

theorem Step.unlinked (tracked : Tracked w)
    (step : Step Γ w w') (h : Unlinked w) : Unlinked w' := by
  rcases step.still_or with still | ⟨s, v, rfl⟩ | ⟨t', -, -, rfl⟩ | ⟨t', rest, failure, hs, rfl⟩ | ⟨i, rfl⟩
  · intro t idle never
    rw [still.links.dependencies t]
    exact h t (still.stack ▸ idle) (still.lastRuns t ▸ never)
  · intro t idle never
    change t ∉ (w.graph.track s).stack at idle
    rw [(Graph.relinks_track w.graph s).stack] at idle
    exact (Graph.dependencies_track_idle idle s).trans (h t idle never)
  · intro t idle never
    change t ∉ t' :: (w.graph.forget t').stack at idle
    rw [(Graph.relinks_forget w.graph t').stack, List.mem_cons, not_or] at idle
    exact ((Graph.dependencies_forget w.graph t' t).trans (if_neg idle.1)).trans (h t idle.2 never)
  · obtain ⟨fr, outer, hf, rfl, -⟩ := tracked.innermost hs
    intro t idle never
    change (if fr.tracker = t then (frames w.host.past).head?.map Frame.reads else _) = none at never
    split at never
    · rw [hf] at never
      cases never
    · rename_i other
      refine h t (fun running => idle ?_) never
      change t ∈ w.graph.stack.tail
      rw [hs] at running ⊢
      exact (List.mem_cons.mp running).resolve_left (Ne.symm other)
  · intro t idle never
    change t ∉ (w.graph.dispose i).stack at idle
    rw [(Graph.relinks_dispose w.graph i).stack] at idle
    refine (Graph.dependencies_dispose w.graph i t).trans ?_
    split
    · rfl
    · exact h t idle never

theorem heeds_iff (recounted : Recounted Γ w past)
    (idle : w.graph.stack = []) (live : ¬ w.graph.Gone t) :
    Heeds past k t ↔ w.graph.Reaches k t := by
  have remembers := recounted.remembers
  have unlinked := (recounted.keeps (I := Unlinked) Step.unlinked fun w first t _ _ => by
    cases t <;> simp [World.recording, first, Graph.dependencies, Graph.derived, Graph.effect] <;> rfl).2
  have off (t : Tracker) : t ∉ (w.recording past).graph.stack := by
    rw [show (w.recording past).graph.stack = [] from idle]
    exact List.not_mem_nil
  have derived (d : Nat) : ¬ w.graph.Gone (.derived d) := by
    rintro ⟨_, other, _⟩
    cases other
  constructor
  · intro heeds
    induction heeds with
    | wire last read =>
      exact .wire (((remembers.reads _ (off _) _ last).resolve_left live _).mpr ⟨_, read⟩)
    | derived last read _ ih =>
      exact .derived (((remembers.reads _ (off _) _ last).resolve_left live _).mpr ⟨_, read⟩)
        (ih (derived _))
  · intro reaches
    -- A tracker with dependencies has run.
    have ran {t : Tracker} {s : Source} (live : ¬ w.graph.Gone t) (dep : s ∈ w.graph.dependencies t) :
        ∃ L v, lastRun t past = some L ∧ (s, v) ∈ L := by
      cases last : lastRun t past with
      | none =>
        rw [show w.graph.dependencies t = [] from unlinked t (off t) last] at dep
        cases dep
      | some L =>
        obtain ⟨v, read⟩ := ((remembers.reads t (off t) L last).resolve_left live s).mp dep
        exact ⟨L, v, rfl, read⟩
    induction reaches with
    | wire dep =>
      obtain ⟨L, v, last, read⟩ := ran live dep
      exact .wire last read
    | derived dep _ ih =>
      obtain ⟨L, v, last, read⟩ := ran live dep
      exact .derived last read (ih (derived _))

end Heeds

/-! ## How such a system comes about -/

/-- A script that makes a tracker which only reads, or one that makes none. -/
inductive Script.Watches (Γ : Setting V C H E) (Ok : H → Prop) : Script V C H E → Prop
  | plain {s : Script V C H E} : s.Finite Γ Ok true → Watches Γ Ok s
  | derived (l : Label) {c : C} : (Γ.body c).Finite Γ Ok false →
      Watches Γ Ok (.newDerived l c fun _ => .done none)
  | effect (l : Label) {c : C} : (Γ.body c).Finite Γ Ok false →
      Watches Γ Ok (.newEffect l c fun _ => .done none)

/-- The worlds to which such scripts lead one after another from an empty graph, each to its end, with
the record of all of them. -/
inductive Watched (Γ : Setting V C H E) (Ok : H → Prop) :
    World V C H → List (Sight V C E) → Prop
  | start {w : World V C H} : w.graph = {} → Ok w.host → Watched Γ Ok w []
  | step {w w' : World V C H} {past : List (Sight V C E)} {n : Nat} {s : Script V C H E} :
      Watched Γ Ok w past → s.Watches Γ Ok →
      (Run.perform Γ n (.script s) w).ended? = some w' → Watched Γ Ok w'
        (Run.perform Γ.recorded n (.script s.recorded) (w.recording past)).world.host.past

section Watched

variable {Γ : Setting V C H E} {Ok : H → Prop}

theorem Watched.recounted (h : Watched Γ Ok w past) : Recounted Γ w past := by
  induction h with
  | start first => exact .start first
  | step _ _ ends ih => exact .step ih ends

theorem Poised.grow {w : World V C (Recorded V C H E)} {f : Graph V C → Graph V C}
    {exempt : Option Tracker} (h : Poised Γ Ok none w) (tracked : Tracked (w.update f))
    (code : ∀ t, (f w.graph).HasTracker t → w.graph.HasTracker t ∧ (f w.graph).body t = w.graph.body t ∨
      (Γ.body ((f w.graph).body t)).Finite Γ Ok false)
    (same : w.graph.SameActivity (f w.graph)) (links : w.graph.SameLinks (f w.graph))
    (dirty : ∀ d, ((f w.graph).derived d).dirty = (w.graph.derived d).dirty)
    (marked : ∀ t, exempt ≠ some t → w.graph.Marked t → (f w.graph).Marked t) :
    Poised Γ Ok exempt (w.update f) where
  tracked := tracked
  host := h.host
  code t there := (code t there).elim (fun ⟨old, body⟩ => body ▸ h.code t old) id
  busy d computing := (dirty d).trans (h.busy d ((same.computing d).symm.trans computing))
  closed t fresh other d dep := (dirty d).trans (h.closed t
    (fresh.imp (same.stack ▸ ·) (mt (marked t other))) nofun d (links.dependencies t ▸ dep))

/-- Nothing runs, waits or is batched between such scripts. -/
structure Flat (Γ : Setting V C H E) (Ok : H → Prop) (w : World V C (Recorded V C H E)) : Prop
    extends Rested Γ Ok w where
  depth : w.graph.depth = 0
  queue : w.graph.queue = []

theorem Flat.addDerived (h : Flat Γ Ok w) (l : Label) (only : (Γ.body c).Finite Γ Ok false) :
    Flat Γ Ok (w.update (·.addDerived l c)) := by
  have same := Graph.sameActivity_addDerived w.graph l c
  have dirty (d : Nat) : ((w.graph.addDerived l c).derived d).dirty = (w.graph.derived d).dirty := by
    rw [Graph.derived_addDerived]
    split
    · rename_i new
      rw [Graph.derived_of_size_le (Nat.le_of_eq new.symm)]
      rfl
    · rfl
  refine ⟨h.of_same (h.poised.grow (h.poised.tracked.addDerived l c) (fun t there => ?_) same
    (Graph.sameLinks_addDerived w.graph l c) dirty fun t _ marked => ?_) same h.nodup, h.depth, h.queue⟩
  · cases t with
    | effect i => exact .inl ⟨there, rfl⟩
    | derived d =>
      rw [Graph.body, Graph.derived_addDerived]
      split
      · exact .inr only
      · rename_i old
        have size : d < w.graph.deriveds.size + 1 := Nat.lt_of_lt_of_eq there (Array.size_push _)
        exact .inl ⟨Nat.lt_of_le_of_ne (Nat.le_of_lt_succ size) old, rfl⟩
  · cases t with
    | derived d => exact (dirty d).trans marked
    | effect i => exact marked

theorem Flat.newEffect (finite : Γ.Finite Ok) {w : World V C (Recorded V C H E)}
    (h : Flat Γ Ok w) (l : Label) {c : C} (only : (Γ.body c).Finite Γ Ok false)
    {n : Nat} : Run.Ends (fun _ => Flat Γ Ok) (Run.perform Γ.recorded n
      (.execute (.effect w.graph.effects.size))) (w.update (·.addEffect l c)) := by
  have same := Graph.sameActivity_addEffect w.graph l c
  have poised : Poised Γ Ok (some (.effect w.graph.effects.size)) (w.update (·.addEffect l c)) := by
    refine h.poised.grow (h.poised.tracked.addEffect l c) (fun t there => ?_) same
      (Graph.sameLinks_addEffect w.graph l c) (fun _ => rfl) fun t other marked => ?_
    · cases t with
      | derived d => exact .inl ⟨there, rfl⟩
      | effect i =>
        rw [Graph.body, Graph.effect_addEffect]
        split
        · exact .inr only
        · rename_i old
          have size : i < w.graph.effects.size + 1 := Nat.lt_of_lt_of_eq there (Array.size_push _)
          exact .inl ⟨Nat.lt_of_le_of_ne (Nat.le_of_lt_succ size) old, rfl⟩
    · cases t with
      | derived d => exact marked
      | effect i =>
        refine (Graph.marked_of_effect w.graph (w.graph.addEffect l c) ?_ Iff.rfl).mpr marked
        exact (Graph.effect_addEffect w.graph l c i).trans (if_neg fun eq => other (by rw [eq]))
  have live : ((w.update (·.addEffect l c)).graph.effect w.graph.effects.size).disposed = false :=
    congrArg Effect.disposed ((Graph.effect_addEffect w.graph l c _).trans (if_pos rfl))
  have running (i : Nat) := (same.running i).trans (h.running i)
  cases n with
  | zero => exact Run.ends_exhausted _
  | succ n =>
    refine Run.Ends.still (k := Pure.pure none) (fun w' ended => ?_) fun _ => rfl
    rw [Run.executeEffect_now live (running _) fun deep => Int.lt_irrefl 0 (h.depth ▸ deep)] at ended
    obtain ⟨ran, kept⟩ := Run.flushes_runEffect finite poised h.stack running h.nodup h.depth live w'
      ended
    exact ⟨ran.rested, ran.depth.trans h.depth, kept.trans h.queue⟩

theorem Watched.flat (finite : Γ.Finite Ok)
    (told : ∀ n ts t, t ∈ ts → t ∈ Γ.arrange n ts) (h : Watched Γ Ok w past)
    (held : Γ.Holds past) : Flat Γ Ok (w.recording past) := by
  induction h with
  | @start w first host =>
    have tracked := (show Recounted Γ w [] from .start first).tracked
    have none (t : Tracker) : w.graph.dependencies t = [] := by
      rw [first]
      cases t <;> rfl
    have quiet : w.graph.Quiet := by
      rw [first]
      exact .empty
    refine ⟨⟨⟨⟨tracked, fun d computing => ?_, fun t _ _ d dep => ?_⟩, host, fun t there => ?_⟩,
      quiet.stack, quiet.running, ?_⟩, quiet.depth, quiet.queue⟩
    · cases (quiet.computing d).symm.trans computing
    · rw [show (w.recording []).graph.dependencies t = [] from none t] at dep
      cases dep
    · change w.graph.HasTracker t at there
      rw [first] at there
      cases t <;> cases there
    · exact quiet.queue.symm ▸ List.nodup_nil
  | @step w w' past n s earlier watches ends ih =>
    have ended := perform_recording_ended ends past
    have tracked := earlier.recounted.tracked
    have ih := ih (held.of_subset fun _ => (Run.perform_walks Γ n (.script s) _ tracked).1.shown)
    cases watches with
    | plain only =>
      have carried := Run.perform_carried finite told n only ih.toRested ih.depth.ge _ ended
      exact ⟨carried.rested, carried.depth.trans ih.depth, carried.queue ih.depth ih.queue held⟩
    | derived l only =>
      cases n with
      | zero => cases ended
      | succ n =>
        rw [← Option.some.inj ended]
        exact ih.addDerived l only
    | effect l only =>
      cases n with
      | zero => cases ended
      | succ n =>
        exact (ih.newEffect finite l only (n := n)).still (k := Pure.pure none) (fun _ => rfl) _
          ended

end Watched

/-! ## The effects of a batch -/

section Batch

variable {Γ : Setting V C H E} {Ok : H → Prop}

theorem Flat.batch (finite : Γ.Finite Ok) (told : ∀ n ts t, t ∈ ts → t ∈ Γ.arrange n ts)
    {w : World V C (Recorded V C H E)} (h : Flat Γ Ok w) {body : Script V C H E}
    (only : body.Finite Γ Ok true) {n : Nat} :
    Run.Ends (fun w w' => ∃ new w1 count, Underway Γ Ok w new w1 ∧ Flushes Γ Ok count w1 w' ∧
        (Γ.Holds w'.host.past → count = w1.graph.due w1.graph.queue))
      (Run.perform Γ.recorded n (.script (Script.batch body .done).recorded)) w := by
  cases n with
  | zero => exact Run.ends_exhausted w
  | succ n =>
    obtain ⟨entered, rested⟩ := h.toRested.enter
    have depth : (w.update Graph.enter).graph.depth = 1 := congrArg (· + 1) h.depth
    have inner : Run.Ends (fun _ w' => ∃ new w1 count, Underway Γ Ok w new w1 ∧
        Flushes Γ Ok count w1 w' ∧ (Γ.Holds w'.host.past → count = w1.graph.due w1.graph.queue))
        (Run.ensure (Run.exec Γ.recorded (Run.perform Γ.recorded n) body.recorded)
          fun _ => Run.leave (Run.perform Γ.recorded n)) (w.update Graph.enter) := by
      refine Run.ends_ensure (Run.perform_carried finite told (n + 1) only rested (by omega))
        fun _ w1 carried w' ended => ?_
      obtain ⟨new, opened⟩ := h.toRested.underway.proceed entered rested
      obtain ⟨new', under⟩ := carried.underway (by omega) opened
      obtain ⟨change, departed⟩ := carried.rested.depart
      obtain ⟨new'', under'⟩ := under.proceed change departed
      obtain ⟨count, flushed, whole⟩ := Run.flushes_leave finite carried.rested
        (carried.depth.trans depth) w' ended
      exact ⟨new'', _, count, under', flushed, fun held => (whole held).1⟩
    refine fun w' ended => Run.Ends.bind (fun _ _ _ _ h => h) inner (fun r w1 ran w' ended => ?_) w' ended
    cases ended
    exact inner w1 (by rw [ran]; rfl)

theorem Leads.live (leads : Leads Γ w w')
    (tracked : Tracked w) (there : i < w.graph.effects.size)
    (live : (w'.graph.effect i).disposed = false) : ¬ w.graph.Gone (.effect i) := by
  intro gone
  obtain ⟨-, -, j, same, gone⟩ := leads.keeps
    (I := fun w => w.graph.HasTracker (.effect i) ∧ w.graph.Gone (.effect i))
    (fun _ step ⟨there, gone⟩ => ⟨(step.stays there).1, (step.stays there).2 gone⟩) tracked ⟨there, gone⟩
  cases same
  exact nomatch gone.symm.trans live

theorem Flat.tame {w : World V C H} (h : Flat Γ Ok (w.recording past)) : w.Tame Γ Ok :=
  ⟨h.poised.host, h.depth.ge, fun i there => (h.poised.code (.effect i) there).writes,
    fun d there => h.poised.code (.derived d) there⟩

theorem Flat.fresh {w : World V C H} {past : List (Sight V C E)}
    (h : Flat Γ Ok (w.recording past)) :
    Flat Γ Ok (w.recording : World V C (Recorded V C H E)) :=
  ⟨⟨⟨⟨tracked_recording h.poised.tracked.converse h.stack, h.poised.busy, h.poised.closed⟩,
    h.poised.host, h.poised.code⟩, h.stack, h.running, h.nodup⟩, h.depth, h.queue⟩

/-- A batch runs each effect that it affects once. Where trackers only read, let a batch write wires,
read, and open other batches, in any order, and let subscribers be told in any order. Then it comes to
an end, and no effect begins to run while a batch is open. If nothing leaves an effect but what
flushes catch, an effect that is not disposed has run once if a wire that its last run had read, itself
or through derived values, was given another value, and not at all otherwise. -/
theorem batch_runs_affected_once {setting : Setting V C H E} {Ok : H → Prop}
    (finite : setting.Finite Ok) (told : ∀ n ts t, t ∈ ts → t ∈ setting.arrange n ts)
    {w : World V C H} {past : List (Sight V C E)} (watched : Watched setting Ok w past)
    (held : setting.Holds past) {body : Script V C H E} (only : body.Finite setting Ok true) :
    (∃ N, ∀ n, N ≤ n →
      (Run.perform setting n (.script (.batch body .done)) w).ended?.isSome = true) ∧
    ∀ n w', (Run.perform setting n (.script (.batch body .done)) w).ended? = some w' →
      (∀ x ∈ shown setting n (.batch body .done) w, ∀ i, x.moment = some (.began (.effect i)) →
        x.graph.depth = 0) ∧
      (setting.Holds (shown setting n (.batch body .done) w) →
        ∀ i < w.graph.effects.size, (w'.graph.effect i).disposed = false →
        ((∃ k, Heeds past k (.effect i) ∧ Wrote (shown setting n (.batch body .done) w) k) →
          begun (.effect i) (shown setting n (.batch body .done) w) = 1) ∧
        ((∀ k, Heeds past k (.effect i) → ¬ Wrote (shown setting n (.batch body .done) w) k) →
          begun (.effect i) (shown setting n (.batch body .done) w) = 0)) := by
  have flat := watched.flat finite told held
  refine ⟨Run.ended_of_terminates (Run.terminates_finite finite flat.tame (.batch rfl only .done)),
    fun n w' ends => ?_⟩
  have ended := ended?_recording ends
  obtain ⟨new, w1, due, under, flush, whole⟩ := flat.fresh.batch finite told only _ ended
  obtain ⟨later, past', late, counted⟩ := flush.past
  have record : shown setting n (.batch body .done) w = later ++ new := by
    rw [← List.append_nil new]
    exact past'.trans (congrArg _ under.record)
  have whole := fun held => whole (held : setting.Holds (shown setting n (.batch body .done) w))
  rw [record] at whole ⊢
  have wrote (k : Nat) : Wrote (later ++ new) k ↔ Wrote new k := by
    refine ⟨?_, .append later⟩
    rintro ⟨x, mem, old, v, hx⟩
    refine ⟨x, ?_, old, v, hx⟩
    exact (List.mem_append.mp mem).resolve_left fun here => (late x here).1 k old v hx
  refine ⟨fun x mem i began => ?_, fun held i there live => ?_⟩
  · exact (List.mem_append.mp mem).elim (fun here => (late x here).2 i began)
      fun here => absurd began (under.unbegun x here i)
  · have live₁ : (w1.graph.effect i).disposed = false := (flush.disposed i).symm.trans live
    have count : begun (.effect i) (later ++ new) = w1.graph.due w1.graph.queue i := by
      rw [begun, List.countP_append, ← begun, ← begun, counted,
        begun_eq_zero fun x mem => under.unbegun x mem i, whole held]
      rfl
    have leads := (Run.perform_walks setting n (.script (.batch body .done)) w.recording
      flat.fresh.poised.tracked).1
    change Leads setting _ (Run.perform setting.recorded n
      (.script (Script.batch body .done).recorded) _).world at leads
    rw [Outcome.world_of_ended? ended] at leads
    have heeds (k : Nat) := heeds_iff (k := k) watched.recounted flat.stack
      (leads.live flat.fresh.poised.tracked there live)
    simp only [heeds, wrote, count]
    by_cases queued : i ∈ w1.graph.queue
    · have affected := (under.affected i queued live₁).resolve_left fun before => by
        rw [show w.recording.graph.queue = [] from flat.queue] at before
        cases before
      refine ⟨fun _ => if_pos ⟨queued, live₁⟩, fun none => ?_⟩
      obtain ⟨k, reaches, changed⟩ := affected
      exact absurd changed (none k reaches)
    · have unmarked : ¬ w1.graph.Marked (.effect i) := by
        rintro (gone | waits | ⟨running, -⟩)
        · cases gone.symm.trans live₁
        · exact queued waits
        · cases running.symm.trans (under.running i)
      refine ⟨?_, fun _ => if_neg fun due => queued due.1⟩
      rintro ⟨k, reaches, changed⟩
      exact absurd changed ((under.spared i unmarked k).2 reaches)

end Batch

def ran (p : World Nat Nat Unit × List (Sight Nat Nat String)) (s : Script Nat Nat Unit String) :
    World Nat Nat Unit × List (Sight Nat Nat String) :=
  ((Run.perform fragile 9 (.script s) p.1).world,
    (Run.perform fragile.recorded 9 (.script s.recorded) (p.1.recording p.2)).world.host.past)

theorem Watched.ran {s : Script Nat Nat Unit String} (h : Watched fragile (fun _ => True) p.1 p.2)
    (watches : s.Watches fragile fun _ => True)
    (ends : (Run.perform fragile 9 (.script s) p.1).ended?.isSome = true) :
    Watched fragile (fun _ => True) (ran p s).1 (ran p s).2 :=
  .step h watches (Outcome.ended?_of_isSome ends)

/-- Two wires, a derived value that gives the first one, and an effect that reads it. -/
def given : World Nat Nat Unit × List (Sight Nat Nat String) :=
  ran (ran (ran (⟨{}, ()⟩, []) (.newWire 0 fun _ => .newWire 0 fun _ => .done none))
    (.newDerived (.named "given") 0 fun _ => .done none))
    (.newEffect (.named "watch") 1 fun _ => .done none)

/-- The first wire is written, the derived value is read, and the wire is set back. -/
def setBack : Script Nat Nat Unit String :=
  .write 0 5 (.read (.derived 0) fun _ => .batch (.write 0 0 (.done none)) .done)

theorem batch_runs_affected_once_set_back :
    ((Run.perform fragile 9 (.script (.batch setBack .done)) given.1).world.graph.wire 0).value = 0 ∧
      begun (.effect 0) (shown fragile 9 (.batch setBack .done) given.1) = 1 := by
  have finite : fragile.Finite fun _ => True :=
    ⟨fun _ _ => .done _, fun _ _ => List.Subset.refl _, fun _ _ _ _ => trivial⟩
  have gives : (fragile.body 0).Finite fragile (fun _ => True) false := by
    refine .read fun v => ?_
    change Script.Finite _ _ _ (if _ then _ else _)
    split
    · exact .raise _
    · exact .done _
  have reads : (fragile.body 1).Finite fragile (fun _ => True) false := .read fun _ => .done _
  have watched : Watched fragile (fun _ => True) given.1 given.2 := by
    refine .ran (.ran (.ran (.start rfl trivial) (.plain ?_) ?_) (.derived _ gives) ?_)
      (.effect _ reads) ?_
    · exact .newWire rfl fun _ => .newWire rfl fun _ => .done _
    · decide +kernel
    · decide +kernel
    · decide +kernel
  have only : setBack.Finite fragile (fun _ => True) true :=
    .write rfl (.read fun _ => .batch rfl (.write rfl (.done _)) .done)
  have ends := Outcome.ended?_of_isSome (show (Run.perform fragile 9 (.script (.batch setBack .done))
    given.1).ended?.isSome = true by decide +kernel)
  have all := (batch_runs_affected_once finite (fun _ _ _ mem => mem) watched (fun _ _ _ _ _ => rfl)
    only).2 9 _ ends
  refine ⟨by decide +kernel, (all.2 (fun _ _ _ _ _ => rfl) 0 (by decide +kernel)
    (by decide +kernel)).1 ⟨0, ?_, ?_⟩⟩
  · exact .derived (L := [(.derived 0, 0)]) (d := 0) (v := 0) (by decide +kernel) (by decide)
      (.wire (L := [(.wire 0, 0)]) (v := 0) (by decide +kernel) (by decide))
  · decide +kernel

end AttrBinder.Reactive
