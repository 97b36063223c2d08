import AttrBinder.Proofs.Reactive.Likeness

/-!
Recording runs. A recorded run keeps every graph that is shown on the way, to the observer with
the moment it is told of, or to a script that looks. Recording changes nothing else
(`perform_recorded`), so what the record of a run says is said of the run itself.
-/

namespace AttrBinder.Reactive

variable {V C H E : Type}

/-- A graph that was shown, with the moment of which the observer was told, if it was one. -/
structure Sight (V C E : Type) where
  moment : Option (Moment V E)
  graph : Graph V C

deriving instance DecidableEq for Moment

/-- A host with what has been shown, last first. -/
structure Recorded (V C H E : Type) where
  host : H
  past : List (Sight V C E)

namespace Recorded

def see (m : Option (Moment V E)) (g : Graph V C) (r : Recorded V C H E) : Recorded V C H E :=
  { r with past := ⟨m, g⟩ :: r.past }

end Recorded

def Script.recorded : Script V C H E → Script V C (Recorded V C H E) E
  | .done r => .done r
  | .raise e => .raise e
  | .look next => .look fun g r => .replace (r.see none g) (next g r.host).recorded
  | .replace h next => .look fun _ r => .replace { r with host := h } next.recorded
  | .read s next => .read s fun v => (next v).recorded
  | .newWire v next => .newWire v fun i => (next i).recorded
  | .write i v next => .write i v next.recorded
  | .freeze i next => .freeze i next.recorded
  | .newDerived l c next => .newDerived l c fun i => (next i).recorded
  | .newEffect l c next => .newEffect l c fun i => (next i).recorded
  | .execute t next => .execute t next.recorded
  | .dispose i next => .dispose i next.recorded
  | .startBatch next => .startBatch next.recorded
  | .endBatch next => .endBatch next.recorded
  | .batch body next => .batch body.recorded fun r => (next r).recorded
  | .attempt body next => .attempt body.recorded fun r => (next r).recorded
  | .call c next => .call c fun r => (next r).recorded

def Setting.recorded (Γ : Setting V C H E) : Setting V C (Recorded V C H E) E where
  body c := (Γ.body c).recorded
  same a b := (Γ.same a b).recorded
  fault := Γ.fault
  caught := Γ.caught
  catches := Γ.catches
  arrange := Γ.arrange
  notice m g r := { r.see (some m) g with host := Γ.notice m g r.host }

def Task.recorded : Task V C H E → Task V C (Recorded V C H E) E
  | .script s => .script s.recorded
  | .execute t => .execute t
  | .value i => .value i
  | .leave => .leave

def World.plain (w : World V C (Recorded V C H E)) : World V C H :=
  ⟨w.graph, w.host.host⟩

def Outcome.plain {α : Type} : Outcome V C (Recorded V C H E) E α → Outcome V C H E α
  | .ok a w => .ok a w.plain
  | .raised e w => .raised e w.plain
  | .exhausted w => .exhausted w.plain

theorem Outcome.world_plain {α : Type} (o : Outcome V C (Recorded V C H E) E α) :
    o.plain.world = o.world.plain := by
  cases o <;> rfl

namespace Run

variable {α β : Type}

def Erases (m : Run V C (Recorded V C H E) E α) (m' : Run V C H E α) : Prop :=
  ∀ w, (m w).plain = m' w.plain

theorem Erases.bind (hm : Erases m m')
    (hf : ∀ a, Erases (f a) (f' a)) : Erases (m >>= f) (m' >>= f') := by
  intro w
  have first := hm w
  rw [bind_apply, bind_apply, ← first]
  cases m w with
  | ok a w1 => exact hf a w1
  | raised e w1 => rfl
  | exhausted w1 => rfl

theorem Erases.attempt (hm : Erases m m') : Erases (attempt m) (attempt m') := by
  intro w
  have first := hm w
  simp only [Run.attempt, ← first]
  cases m w <;> rfl

def erasing (Γ : Setting V C H E) : Likeness Γ.recorded Γ where
  like := Erases
  strict := True
  fault := rfl
  caught := rfl
  arrange := rfl
  pure _ _ := rfl
  raise _ _ := rfl
  exhausted same := by
    rw [same trivial]
    exact fun _ => rfl
  graph _ := rfl
  modify _ _ := rfl
  notice _ _ := rfl
  bind := Erases.bind
  attempt := Erases.attempt

variable [Inhabited V] [Inhabited C] (Γ : Setting V C H E)

theorem erases_exec
    {again : Task V C (Recorded V C H E) E → Run V C (Recorded V C H E) E (Option V)}
    {again' : Task V C H E → Run V C H E (Option V)} (h : (erasing Γ).Nested again again')
    (s : Script V C H E) : Erases (exec Γ.recorded again s.recorded) (exec Γ again' s) := by
  let L := erasing Γ
  induction s with
  | done r => exact L.pure r
  | raise e => exact L.raise e
  | look next ih => exact fun w => ih w.graph w.host.host { w with host := w.host.see none w.graph }
  | replace h next ih => exact fun w => ih { w with host := { w.host with host := h } }
  | read s next ih => exact L.bind (h.readSource s) fun v => ih v
  | newWire v next ih => exact L.bind L.graph fun g => L.bind (L.modify _) fun _ => ih _
  | write i v next ih => exact L.bind (h.writeWire i v) fun _ => ih
  | freeze i next ih => exact L.bind (L.modify _) fun _ => ih
  | newDerived l c next ih => exact L.bind L.graph fun g => L.bind (L.modify _) fun _ => ih _
  | newEffect l c next ih =>
    exact L.bind L.graph fun g => L.bind (L.modify _) fun _ =>
      L.bind (h.execute (.effect g.effects.size)) fun _ => ih _
  | execute t next ih => exact L.bind (h.execute t) fun _ => ih
  | dispose i next ih => exact L.bind (L.modify _) fun _ => L.bind (L.notice _) fun _ => ih
  | startBatch next ih => exact L.bind (L.modify _) fun _ => ih
  | endBatch next ih => exact L.bind h.leave fun _ => ih
  | batch body next ihBody ihNext =>
    exact L.bind (L.modify _) fun _ => L.bind (L.ensure ihBody fun _ => h.leave) fun r => ihNext r
  | attempt body next ihBody ihNext => exact L.bind (L.attempt ihBody) fun r => ihNext r
  | call c next ih => exact L.bind (h.body c) fun r => ih r

theorem perform_recorded (n : Nat) (t : Task V C H E) :
    Erases (perform Γ.recorded n t.recorded) (perform Γ n t) := by
  induction n generalizing t with
  | zero => exact fun _ => rfl
  | succ n ih =>
    have nested : (erasing Γ).Nested (perform Γ.recorded n) (perform Γ n) :=
      ⟨fun c => ih (.script (Γ.body c)), fun a b => ih (.script (Γ.same a b)),
        fun t => ih (.execute t), fun i => ih (.value i), ih .leave⟩
    cases t with
    | script s => exact erases_exec Γ nested s
    | execute t => exact nested.performWith_execute _ _ t
    | value i => exact nested.performWith_value _ _ i
    | leave => exact nested.performWith_leave (Nat.le_refl _) fun _ => rfl

end Run

def World.recording (w : World V C H) (past : List (Sight V C E) := []) :
    World V C (Recorded V C H E) :=
  ⟨w.graph, ⟨w.host, past⟩⟩

theorem perform_recording [Inhabited V] [Inhabited C] (Γ : Setting V C H E) (n : Nat)
    (s : Script V C H E) (w : World V C H) (past : List (Sight V C E)) :
    (Run.perform Γ.recorded n (.script s.recorded) (w.recording past)).plain =
      Run.perform Γ n (.script s) w :=
  Run.perform_recorded Γ n (.script s) (w.recording past)

theorem Outcome.ended?_of_plain {α : Type} {o : Outcome V C (Recorded V C H E) E α}
    (h : o.plain.ended? = some w) : o.ended? = some (w.recording o.world.host.past) := by
  cases o with
  | ok a w' =>
    cases h
    rfl
  | raised e w' =>
    cases h
    rfl
  | exhausted w' => cases h

/-- Where a script ends is where it ends when it is recorded. -/
theorem perform_recording_ended [Inhabited V] [Inhabited C] {Γ : Setting V C H E} {n : Nat}
    {s : Script V C H E} {w w' : World V C H}
    (ends : (Run.perform Γ n (.script s) w).ended? = some w') (past : List (Sight V C E)) :
    (Run.perform Γ.recorded n (.script s.recorded) (w.recording past)).ended? = some (w'.recording
      (Run.perform Γ.recorded n (.script s.recorded) (w.recording past)).world.host.past) := by
  rw [← perform_recording Γ n s w past] at ends
  exact Outcome.ended?_of_plain ends

end AttrBinder.Reactive
