import AttrBinder.Proofs.Reactive.Maintenance
import AttrBinder.Scenario.Run

/-!
Consistency of a reactive system. After every top-level operation a derived value that is up to date
holds what its formula gives in the current state, and every effect has seen, in its last run, what
its sources give now (`logged_consistent`). Derived values only read, effects read, write and open
batches, and no effect asks for more runs than it may have; top-level scripts may also raise.
-/

namespace AttrBinder.Reactive

variable {V C H E : Type} [Inhabited V] [Inhabited C] [Preorder H] (S : Sheet V C H)

/-- A world with the wires and derived values of a sheet, in which nothing has run. -/
structure Sheet.Fresh (w : World V C H) : Prop where
  host : S.base ≤ w.host
  fits : S.Fits w.graph
  quiet : w.graph.Quiet
  dirty : ∀ d, (w.graph.derived d).dirty = true
  sources : ∀ t, w.graph.dependencies t = []
  trackers : ∀ s, w.graph.subscribers s = []
  effects : w.graph.effects.size = 0

/-- The worlds to which scripts that act, and may raise, lead one after another from a fresh one,
each to its end, with the record of all of them. -/
inductive Sheet.Logged (setting : Setting V C H E) : World V C H → List (Sight V C E) → Prop
  | start {w : World V C H} : S.Fresh w → Logged setting w []
  | step {w w' : World V C H} {past : List (Sight V C E)} {n : Nat} {s : Script V C H E} :
      Logged setting w past → s.Acts S setting true w.host (fun _ => True) →
      (Run.perform setting n (.script s) w).ended? = some w' → Logged setting w'
        (Run.perform setting.recorded n (.script s.recorded) (w.recording past)).world.host.past

variable {S} {setting : Setting V C H E} {w : World V C H} {past : List (Sight V C E)}

theorem Sheet.Fresh.coherent (h : S.Fresh w) :
    Coherent S setting none (w.recording : World V C (Recorded V C H E)) where
  sober :=
    { tracked := tracked_recording (Graph.converse_of_unlinked h.sources h.trackers) h.quiet.stack
      host := h.host
      fits := h.fits
      settled := fun d _ clean => nomatch (h.dirty d).symm.trans clean
      computing := fun d _ => h.dirty d }
  idle := h.quiet.computing
  depth := Int.le_of_eq h.quiet.depth.symm
  effects _ i _ live := by
    have present : i < w.graph.effects.size := Graph.effect_lt_of_not_disposed live
    rw [h.effects] at present
    exact absurd present (Nat.not_lt_zero i)

theorem Sheet.Logged.coherent_of (maintains : ∀ n {s : Script V C H E}
      {w : World V C (Recorded V C H E)}, s.Acts S setting true w.host.host (fun _ => True) →
      Coherent S setting none w → Run.Maintains S setting true (Run.Passes w)
        (Run.perform setting.recorded n (.script s.recorded)) w fun _ => True)
    (logged : S.Logged setting w past) :
    Coherent S setting none (w.recording past) ∧ w.graph.Quiet := by
  induction logged with
  | start first => exact ⟨first.coherent, first.quiet⟩
  | @step w w' past n s _ acts ends ih =>
    obtain ⟨coherent, quiet⟩ := ih
    have same := Run.perform_restores setting n _ _ _ ends
    have kept := maintains n (w := w.recording past) acts coherent
    obtain ⟨coherent', passes⟩ := kept.ended (perform_recording_ended ends past)
    exact ⟨coherent', quiet.of_same same passes.depth passes.queue⟩

theorem Sheet.Logged.coherent (lawful : S.Lawful setting) (logged : S.Logged setting w past) :
    Coherent S setting none (w.recording past) ∧ w.graph.Quiet :=
  logged.coherent_of fun n => (Run.perform_maintains lawful n).1

theorem Sheet.Logged.host (lawful : S.Lawful setting) (logged : S.Logged setting w past) :
    S.base ≤ w.host :=
  (logged.coherent lawful).1.sober.host

/-- Where nothing runs an effect that is neither disposed nor waits has seen in its last run what is
settled. -/
theorem Coherent.lastRun_settled (h : Coherent S setting none (w.recording past))
    (quiet : w.graph.Quiet) (calm : ¬ Overran past) (live : (w.graph.effect i).disposed = false) :
    ∃ L, lastRun (.effect i) past = some L ∧ ∀ s v, (s, v) ∈ L → S.Settled setting w.graph s v := by
  obtain (queued | ⟨running, _⟩) | ⟨L, hL, rests⟩ := h.effects calm i (by simp) live
  · exact nomatch quiet.queue ▸ queued
  · exact nomatch (quiet.running i).symm.trans running
  · have closed : frames past = [] := by
      have stack := h.sober.tracked.stack.symm.trans quiet.stack
      exact List.map_eq_nil_iff.mp stack
    have last : seen past i = lastRun (.effect i) past :=
      seen_of_closed fun fr hfr => nomatch closed ▸ hfr
    exact ⟨L, last.symm.trans hL, fun s v hv => (rests s v hv).2⟩

theorem Sheet.Settled.gives_iff (h : S.Settled setting w.graph s v) (u : V) :
    S.Gives setting w.graph.values s u ↔ u = v :=
  ⟨fun gives => h.gives.unique gives, fun same => same ▸ h.gives⟩

/-- After every sequence of top-level scripts in which no effect asks for too many runs, a derived
value that is up to date holds what it gives from scratch, and what an effect that is not disposed
has read in its last run is what its sources give. -/
theorem logged_consistent (lawful : S.Lawful setting) (logged : S.Logged setting w past)
    (calm : ¬ Overran past) :
    (∀ d, (w.graph.derived d).dirty = false →
      ∀ u, S.Gives setting w.graph.values (.derived d) u ↔ u = (w.graph.derived d).cache) ∧
    ∀ i, (w.graph.effect i).disposed = false → ∃ L, lastRun (.effect i) past = some L ∧
      ∀ s v, (s, v) ∈ L → ∀ u, S.Gives setting w.graph.values s u ↔ u = v := by
  obtain ⟨coherent, quiet⟩ := logged.coherent lawful
  refine ⟨fun d clean => ?_, fun i live => ?_⟩
  · have present : d < S.deriveds :=
      coherent.sober.fits.deriveds ▸ Graph.derived_lt_of_clean clean
    exact (coherent.sober.settled d present clean).gives_iff
  · obtain ⟨L, last, settled⟩ := coherent.lastRun_settled quiet calm live
    exact ⟨L, last, fun s v hv => (settled s v hv).gives_iff⟩

end AttrBinder.Reactive

/-!
A page for which this holds: two wires, a derived value that is the first wire, and an effect that
writes it to the second.
-/

namespace AttrBinder

open Reactive Scenario

/-- A page with the names and the functions of another one, and perhaps more. -/
structure Host.Extends (h h' : Host) : Prop where
  names : ∀ n v, h.names.get? n = some v → h'.names.get? n = some v
  functions : ∀ (i : Nat) f, h.functions[i]? = some f → h'.functions[i]? = some f

instance : Preorder Host where
  le := Host.Extends
  le_refl _ := ⟨fun _ _ hn => hn, fun _ _ hf => hf⟩
  le_trans _ _ _ a b := ⟨fun n v hn => b.names n v (a.names n v hn),
    fun i f hf => b.functions i f (a.functions i f hf)⟩

namespace Page

def mirrorHost : Host where
  functions := #[.scripted "watch" 0 [.leave (.get "a")], .scripted "copy" 0 [.set "b" (.get "d")]]
  names := [("a", .wire 0), ("b", .wire 1), ("d", .derived 0)]

def mirror : Sheet Value Call Host where
  wires := 2
  deriveds := 1
  formula _ := ⟨.function 0, [], []⟩
  holds _ v := ∃ x, v = .bool x
  action c := c = ⟨.function 1, [], []⟩
  base := mirrorHost

section

variable [Order]

theorem mirror_formula (v : Value) : mirror.Formula setting 0 [(.wire 0, v)] (some v) := by
  intro h grows
  have watch : h.functions[0]? = some (.scripted "watch" 0 [.leave (.get "a")]) :=
    grows.functions 0 _ rfl
  have a : h.names.get? "a" = some (.wire 0) := grows.names "a" _ rfl
  refine .look fun _ => ?_
  simp only [watch]
  refine .look fun _ => ?_
  simp only [a]
  exact .call (L := [(.wire 0, v)]) (K := []) (r := some v)
    (.look fun _ => .read fun h' _ => .done (some v) h') fun h' _ => .done (some v) h'

theorem mirror_gives (σ : Nat → Value) : mirror.Gives setting σ (.derived 0) (σ 0) := by
  have reads : ∀ s v, (s, v) ∈ [(Source.wire 0, σ 0)] → mirror.Gives setting σ s v := by
    intro s v hv
    obtain ⟨rfl, rfl⟩ := Prod.mk.inj (List.mem_singleton.mp hv)
    exact .wire (by decide)
  exact .derived (r := some (σ 0)) (by decide) (mirror_formula (σ 0)) reads

theorem mirror_possible (h : mirror.Possible setting (.derived 0) v) : ∃ x, v = .bool x := by
  obtain ⟨σ, holds, gives⟩ := h
  rw [(mirror_gives σ).unique gives]
  exact holds 0 (by decide)

theorem mirror_acts (grows : mirror.base ≤ h) :
    (setting.body ⟨.function 1, [], []⟩).Acts mirror setting false h fun _ => True := by
  have copy : h.functions[1]? = some (.scripted "copy" 0 [.set "b" (.get "d")]) :=
    grows.functions 1 _ rfl
  have b : h.names.get? "b" = some (.wire 1) := grows.names "b" _ rfl
  have d : h.names.get? "d" = some (.derived 0) := grows.names "d" _ rfl
  refine .look fun _ _ => ?_
  simp only [copy]
  refine .look fun _ _ => ?_
  simp only [b]
  refine .look fun _ _ => ?_
  simp only [d]
  refine .call (P := fun r => ∃ x, r = some (.bool x)) ?_ ?_
  · refine .look fun _ _ => .read (Nat.zero_lt_one) fun v h' possible _ => .done ?_
    obtain ⟨n, rfl⟩ := mirror_possible possible
    exact ⟨n, rfl⟩
  · rintro _ h' ⟨n, rfl⟩ _
    refine .call (P := fun _ => True) ?_ fun _ _ _ _ => .done trivial
    exact .look fun _ _ => .write (by decide) ⟨n, rfl⟩ fun _ _ => .done trivial

theorem mirror_lawful : mirror.Lawful setting where
  adds _ _ h := le_refl h
  arrange := Order.perm
  same i a b _ ha hb := by
    obtain ⟨m, rfl⟩ := ha
    obtain ⟨n, rfl⟩ := hb
    exact ⟨_, fun h _ => .done _ h⟩
  returns σ _ d hd := by
    obtain rfl : d = 0 := by
      change d < 1 at hd
      omega
    exact ⟨σ 0, mirror_gives σ⟩
  acts c hc h grows := by
    cases hc
    exact mirror_acts grows

def makeCopy : Action :=
  .newEffect (.named "copy") ⟨.function 1, [], []⟩ fun _ => .done none

def writeAndRaise : Action :=
  Statement.run .none (.batch [.set "a" (.literal (.bool true)), .raise .value "left"]) fun v =>
    .done (some v)

theorem writeAndRaise_acts (grows : mirror.base ≤ h) :
    writeAndRaise.Acts mirror setting true h fun _ => True := by
  have a : h.names.get? "a" = some (.wire 0) := grows.names "a" _ rfl
  refine .batch (P := fun _ => True) ?_ fun r _ _ _ => ?_
  · refine .look fun _ _ => ?_
    simp only [a]
    refine .call (P := fun _ => True) ?_ fun _ _ _ _ => .raise
    exact .look fun _ _ => .write (by decide) ⟨true, rfl⟩ fun _ _ => .done trivial
  · cases r with
    | none => exact .done trivial
    | some v => exact .done trivial

end

def mirrorStart : World where
  graph := ((({} : PageGraph).addWire (.bool false)).addWire (.bool false)).addDerived
    (.named "watch") ⟨.function 0, [], []⟩
  host := mirrorHost

theorem mirrorStart_fresh : mirror.Fresh mirrorStart where
  host := le_refl _
  fits :=
    { wires := rfl
      deriveds := rfl
      formula := fun d hd => by
        match d, hd with
        | 0, _ => rfl
      holds := fun i hi => by
        match i, hi with
        | 0, _ => exact ⟨false, rfl⟩
        | 1, _ => exact ⟨false, rfl⟩
      thawed := fun i => by
        match i with
        | 0 => rfl
        | 1 => rfl
        | i + 2 => rfl
      action := fun i hi => absurd hi (Nat.not_lt_zero i) }
  quiet := ⟨⟨rfl, rfl, fun _ => rfl, fun d => by
    match d with
    | 0 => rfl
    | d + 1 => rfl⟩, rfl⟩
  dirty d := by
    match d with
    | 0 => rfl
    | d + 1 => rfl
  sources t := by
    match t with
    | .derived 0 => rfl
    | .derived (d + 1) => rfl
    | .effect i => rfl
  trackers s := by
    match s with
    | .wire 0 => rfl
    | .wire 1 => rfl
    | .wire (i + 2) => rfl
    | .derived 0 => rfl
    | .derived (d + 1) => rfl
  effects := rfl

open Page.Order

def mirrorMade : Outcome Value Call Host Failure (Option Value) :=
  Run.perform setting 20 (.script makeCopy) mirrorStart

def mirrorLeft : Outcome Value Call Host Failure (Option Value) :=
  Run.perform setting 20 (.script writeAndRaise) mirrorMade.world

def mirrorRecord : List (Sight Value Call Failure) :=
  (Run.perform setting.recorded 20 (.script writeAndRaise.recorded) (mirrorMade.world.recording
    (Run.perform setting.recorded 20 (.script makeCopy.recorded)
      mirrorStart.recording).world.host.past)).world.host.past

theorem mirrorMade_logged : mirror.Logged setting mirrorMade.world
    (Run.perform setting.recorded 20 (.script makeCopy.recorded)
      mirrorStart.recording).world.host.past := by
  have acts : makeCopy.Acts mirror setting true mirrorStart.host fun _ => True :=
    .newEffect rfl fun _ _ _ => .done trivial
  have ends : (Run.perform setting 20 (.script makeCopy) mirrorStart).ended? =
      some mirrorMade.world := Outcome.ended?_of_isSome (by decide +kernel)
  exact .step (.start mirrorStart_fresh) acts ends

theorem mirrorLeft_logged : mirror.Logged setting mirrorLeft.world mirrorRecord := by
  have acts : writeAndRaise.Acts mirror setting true mirrorMade.world.host fun _ => True :=
    writeAndRaise_acts (mirrorMade_logged.host mirror_lawful)
  have ends : (Run.perform setting 20 (.script writeAndRaise) mirrorMade.world).ended? =
      some mirrorLeft.world := Outcome.ended?_of_isSome (by decide +kernel)
  exact .step mirrorMade_logged acts ends

/-- A batch is left by a fault, and its write has reached the derived value and the effect. -/
theorem logged_consistent_mirror :
    mirrorLeft.fault?.bind Failure.message? = some "left" ∧
      (∀ u, mirror.Gives setting mirrorLeft.world.graph.values (.derived 0) u ↔
        u = (mirrorLeft.world.graph.derived 0).cache) ∧
      ∃ L, lastRun (.effect 0) mirrorRecord = some L ∧ ∀ s v, (s, v) ∈ L →
        ∀ u, mirror.Gives setting mirrorLeft.world.graph.values s u ↔ u = v := by
  have consistent := logged_consistent mirror_lawful mirrorLeft_logged (by decide +kernel)
  exact ⟨by decide +kernel, consistent.1 0 (by decide +kernel), consistent.2 0 (by decide +kernel)⟩

end Page

end AttrBinder
