import AttrBinder.Proofs.Reactive.Recovery

/-!
Disposed effects. Wherever an effect is disposed, also while it waits or runs, its runs are not counted
on, and it depends on nothing but what its own run reads after that (`disposal_final`): an effect that
does not run then is never linked again. One that disposes itself and goes on reading is linked by these
reads, and stays so when its run has ended (`disposed_effect_linked`).
-/

namespace AttrBinder.Reactive

variable {V C H E : Type} [Inhabited V] [Inhabited C]

def Sight.Reads (t : Tracker) (s : Source) (x : Sight V C E) : Prop :=
  (∃ v, x.moment = some (.read s v)) ∧ x.graph.stack.head? = some t

/-- What is left of effect `i`, which was disposed at sight `x`, after the sights `later`. -/
structure Sight.Retired (x : Sight V C E) (i : Nat) (later : List (Sight V C E)) (g : Graph V C) :
    Prop where
  there : i < g.effects.size
  disposed : (g.effect i).disposed = true
  runs : (g.effect i).runs = (x.graph.effect i).runs
  stack : .effect i ∈ g.stack → .effect i ∈ x.graph.stack
  links : ∀ s ∈ g.dependencies (.effect i),
    .effect i ∈ x.graph.stack ∧ ∃ y ∈ later, y.Reads (.effect i) s
  subscribed : ∀ s, .effect i ∈ g.subscribers s → s ∈ g.dependencies (.effect i)

section Steps

variable {Γ : Setting V C H E} {w w' : World V C (Recorded V C H E)}

theorem Step.sight (step : Step Γ w w') :
    ∃ new, w'.host.past = new ++ w.host.past ∧ (new = [] ∨ ∃ m, new = [⟨m, w'.graph⟩]) := by
  cases step with
  | look | assign | overran | finish | readWire | readDerived | begin | dispose | unqueue | enqueue =>
    exact ⟨_, rfl, .inr ⟨_, rfl⟩⟩
  | replace | freeze | tick | enter | depart | addWire | addDerived | addEffect | invalidate |
      startComputing | stopComputing | keep | startRunning | stopRunning | countRun | requestRun =>
    exact ⟨[], rfl, .inl rfl⟩

theorem Step.runs (step : Step Γ w w') (there : i < w.graph.effects.size)
    (gone : (w.graph.effect i).disposed = true) :
    (w'.graph.effect i).runs = (w.graph.effect i).runs := by
  have effect {f : Effect C → Effect C} (j : Nat) (h : ∀ e, (f e).runs = e.runs) :
      ((w.graph.modifyEffect j f).effect i).runs = (w.graph.effect i).runs :=
    Graph.effect_modifyEffect_of Effect.runs h w.graph j i
  have relinks {f g : Graph V C} (h : f.Relinks g) : (g.effect i).runs = (f.effect i).runs :=
    h.effect_of Effect.runs (fun _ _ => rfl) i
  cases step with
  | look | replace | freeze | assign | tick | enter | depart | unqueue | enqueue | overran | finish |
      addWire | addDerived | invalidate | startComputing | stopComputing | keep => rfl
  | readWire | readDerived => exact relinks (Graph.relinks_track w.graph _)
  | @begin t => exact (relinks (Graph.relinks_forget w.graph t) :)
  | startRunning | stopRunning | requestRun => exact effect _ fun _ => rfl
  | dispose j => exact (relinks (Graph.relinks_dispose w.graph j)).trans (effect j fun _ => rfl)
  | addEffect l c =>
    exact congrArg Effect.runs ((Graph.effect_addEffect w.graph l c i).trans (if_neg there.ne))
  | @countRun j _ live =>
    refine congrArg Effect.runs ((Graph.effect_modifyEffect w.graph j i _).trans (if_neg ?_))
    rintro ⟨rfl, -⟩
    exact nomatch gone.symm.trans live

theorem Step.retired (tracked : Tracked w) (step : Step Γ w w')
    (past : w'.host.past = x :: w.host.past) (disposed : x.moment = some (.disposed i))
    (there : i < x.graph.effects.size) : x.Retired i [] w'.graph := by
  cases step with
  | dispose j =>
    obtain ⟨rfl, -⟩ := List.cons.inj past
    cases disposed
    refine ⟨there, Graph.disposed_dispose w.graph i, rfl, id, fun s dep => ?_,
      fun s mem => (tracked.converse.dispose i s _).mpr mem⟩
    change s ∈ (w.graph.dispose i).dependencies (.effect i) at dep
    rw [Graph.dependencies_dispose, if_pos rfl] at dep
    cases dep
  | look | assign | overran | finish | readWire | readDerived | begin | unqueue | enqueue =>
    obtain ⟨rfl, -⟩ := List.cons.inj past
    cases disposed
  | replace | freeze | tick | enter | depart | addWire | addDerived | addEffect | invalidate |
      startComputing | stopComputing | keep | startRunning | stopRunning | countRun | requestRun =>
    exact absurd past.symm (List.cons_ne_self _ _)

theorem Sight.Retired.step {x : Sight V C E} {i : Nat} {later new : List (Sight V C E)}
    (h : x.Retired i later w.graph) (tracked : Tracked w) (step : Step Γ w w')
    (past : w'.host.past = new ++ w.host.past) : x.Retired i (new ++ later) w'.graph := by
  obtain ⟨there, gone⟩ := step.stays (t := .effect i) h.there
  obtain ⟨_, same, disposed⟩ := gone ⟨i, rfl, h.disposed⟩
  cases same
  have runs := (step.runs h.there h.disposed).trans h.runs
  have subscribed (s : Source) := ((step.tracked tracked).converse s (.effect i)).mpr
  have before {s : Source} (dep : s ∈ w.graph.dependencies (.effect i)) :
      .effect i ∈ x.graph.stack ∧ ∃ y ∈ new ++ later, y.Reads (.effect i) s := by
    obtain ⟨on, y, mem, reads⟩ := h.links s dep
    exact ⟨on, y, List.mem_append_right new mem, reads⟩
  rcases step.still_or with still | ⟨s, v, rfl⟩ | ⟨t, -, starts, rfl⟩ | ⟨t, rest, failure, hs, rfl⟩ |
    ⟨j, rfl⟩
  · exact ⟨there, disposed, runs, fun on => h.stack (still.stack ▸ on),
      fun s dep => before (still.links.dependencies _ ▸ dep), subscribed⟩
  · have stack : (w.read Γ.recorded s v).graph.stack = w.graph.stack :=
      (Graph.relinks_track w.graph s).stack
    refine ⟨there, disposed, runs, fun on => h.stack (stack ▸ on), fun s' dep => ?_, subscribed⟩
    rcases Graph.mem_dependencies_track dep with old | ⟨rfl, top⟩
    · exact before old
    · have shown : new = [⟨some (.read s' v), w.graph.track s'⟩] :=
        (List.append_left_inj w.host.past).mp past.symm
      refine ⟨h.stack (List.mem_of_mem_head? top), ⟨some (.read s' v), w.graph.track s'⟩, ?_, ⟨v, rfl⟩,
        (congrArg List.head? stack).trans top⟩
      rw [shown]
      exact List.mem_cons_self
  · -- A run that begins is none of the effect's.
    have other : .effect i ≠ t := by
      rintro rfl
      exact nomatch h.disposed.symm.trans starts.2
    have stack : (w.begin Γ.recorded t).graph.stack = t :: w.graph.stack :=
      congrArg (t :: ·) (Graph.relinks_forget w.graph t).stack
    have kept : (w.begin Γ.recorded t).graph.dependencies (.effect i) =
        w.graph.dependencies (.effect i) :=
      (Graph.dependencies_forget w.graph t (.effect i)).trans (if_neg other)
    refine ⟨there, disposed, runs, fun on => ?_, fun s dep => before (kept ▸ dep), subscribed⟩
    rw [stack] at on
    exact h.stack ((List.mem_cons.mp on).resolve_left other)
  · exact ⟨there, disposed, runs, fun on => h.stack (List.mem_of_mem_tail on), fun _ => before, subscribed⟩
  · have stack : (w.dispose Γ.recorded j).graph.stack = w.graph.stack :=
      (Graph.relinks_dispose w.graph j).stack
    refine ⟨there, disposed, runs, fun on => h.stack (stack ▸ on), fun s dep => before ?_, subscribed⟩
    change s ∈ (w.graph.dispose j).dependencies (.effect i) at dep
    rw [Graph.dependencies_dispose] at dep
    split at dep
    · cases dep
    · exact dep

def Buried (w : World V C (Recorded V C H E)) : Prop :=
  ∀ later x earlier i, w.host.past = later ++ x :: earlier → x.moment = some (.disposed i) →
    i < x.graph.effects.size → x.Retired i later w.graph ∧
      ∀ newer y older, later = newer ++ y :: older → x.Retired i (y :: older) y.graph

theorem Step.buried (tracked : Tracked w) (step : Step Γ w w') (h : Buried w) : Buried w' := by
  intro later x earlier i past disposed there
  obtain ⟨new, grown, rfl | ⟨m, rfl⟩⟩ := step.sight
  · obtain ⟨now, since⟩ := h later x earlier i (grown.symm.trans past) disposed there
    exact ⟨now.step tracked step grown, since⟩
  · rw [grown] at past
    cases later with
    | nil =>
      obtain ⟨rfl, -⟩ := List.cons.inj past
      exact ⟨step.retired tracked grown disposed there, fun newer _ _ split => by simp at split⟩
    | cons z later =>
      obtain ⟨rfl, before⟩ := List.cons.inj past
      obtain ⟨now, since⟩ := h later x earlier i before disposed there
      have next := now.step tracked step grown
      refine ⟨next, fun newer y older split => ?_⟩
      cases newer with
      | nil =>
        obtain ⟨rfl, rfl⟩ := List.cons.inj split
        exact next
      | cons _ newer => exact since newer y older (List.cons.inj split).2

end Steps

/-- Whatever a program does after it has disposed an effect, and wherever it did so, the effect stays
disposed, its runs are not counted on, and it has no dependency and is no subscriber but by what it has
read itself, in the run in which it was disposed. -/
theorem disposal_final {setting : Setting V C H E} {w : World V C H} {past : List (Sight V C E)}
    (recounted : Recounted setting w past) (n : Nat) (s : Script V C H E)
    {later earlier : List (Sight V C E)} {x : Sight V C E} {i : Nat}
    (record : (Run.perform setting.recorded n (.script s.recorded) (w.recording past)).world.host.past =
      later ++ x :: earlier)
    (disposed : x.moment = some (.disposed i)) (there : i < x.graph.effects.size) :
    x.Retired i later
        (Run.perform setting.recorded n (.script s.recorded) (w.recording past)).world.graph ∧
      ∀ newer y older, later = newer ++ y :: older → x.Retired i (y :: older) y.graph := by
  obtain ⟨tracked, buried⟩ := recounted.keeps Step.buried fun w _ later _ _ _ split => by
    cases later <;> cases split
  have walked := (Run.perform_walks setting n (.script s) (w.recording past) tracked).1
  exact (walked.keeps Step.buried tracked buried).2 later x earlier i record disposed there

/-- The effect reads both wires, and disposes itself in between unless the first holds zero. -/
def retiring : Setting Nat Nat Unit String where
  body _ := .read (.wire 0) fun v =>
    if v = 0 then .read (.wire 1) fun _ => .done none
    else .dispose 0 (.read (.wire 1) fun _ => .done none)
  same a b := .done (if a = b then some a else none)
  fault f := (f.message?).getD ""
  caught _ := true
  catches _ := rfl
  arrange _ ts := ts
  notice _ _ h := h

def retire (next : Script Nat Nat Unit String) : Script Nat Nat Unit String :=
  .newWire 0 fun _ => .newWire 0 fun _ => .newEffect (.named "watch") 0 fun _ => next

def retiredBy (next : Script Nat Nat Unit String) : World Nat Nat (Recorded Nat Nat Unit String) :=
  (Run.perform retiring.recorded 12 (.script (retire next).recorded) (World.recording ⟨{}, ()⟩)).world

def dismissed : Script Nat Nat Unit String :=
  .batch (.write 1 1 (.dispose 0 (.done none))) fun _ => .write 1 2 (.done none)

/-- An effect that is disposed while it waits has no run and no link from then on. -/
theorem disposal_final_dismissed :
    ((retiredBy dismissed).graph.effect 0).runs = 1 ∧
      ∀ s, .effect 0 ∉ (retiredBy dismissed).graph.subscribers s := by
  have shown : ∃ x ∈ (retiredBy dismissed).host.past, x.moment = some (.disposed 0) ∧
      0 < x.graph.effects.size ∧ (x.graph.effect 0).runs = 1 ∧ x.graph.stack = [] := by decide +kernel
  obtain ⟨x, mem, disposed, there, runs, idle⟩ := shown
  obtain ⟨later, earlier, record⟩ := List.append_of_mem mem
  unfold retiredBy at record ⊢
  have start : Recounted retiring (⟨{}, ()⟩ : World Nat Nat Unit) [] := .start rfl
  obtain ⟨retired, -⟩ := disposal_final start 12 (retire dismissed) record disposed there
  refine ⟨retired.runs.trans runs, fun s mem => ?_⟩
  obtain ⟨on, -⟩ := retired.links s (retired.subscribed s mem)
  rw [idle] at on
  cases on

/-- An effect that disposes itself and reads on is linked by what it reads, and stays so when nothing
runs. -/
theorem disposed_effect_linked :
    let w := retiredBy (.write 0 1 (.done none))
    (w.graph.effect 0).disposed = true ∧ w.graph.stack = [] ∧ w.graph.queue = [] ∧
      w.graph.dependencies (.effect 0) = [.wire 1] ∧ w.graph.subscribers (.wire 1) = [.effect 0] := by
  decide +kernel

end AttrBinder.Reactive
