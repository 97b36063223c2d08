import AttrBinder.Proofs.Reactive.Dependency
import AttrBinder.Proofs.Reactive.Draining

/-!
How far the failure of one effect reaches into the run of another. A flush goes on after a failure
that it catches as if there had been none, and what telling or a flush raises has left an effect meanwhile
(`perform_blames`). So code that only reads and writes wires is cut short by nothing but an effect
that fails while it runs: one of those that its own writes run, which are all that still wait.
-/

namespace AttrBinder.Reactive

variable {V C H E : Type} [Inhabited V] [Inhabited C]

/-- Code that reads wires, writes wires among `outputs` and does nothing else, in worlds whose host
satisfies `Ok`. -/
inductive Script.Plain (Γ : Setting V C H E) (Ok : H → Prop) (outputs : Nat → Prop) :
    Script V C H E → Prop
  | done (r : Option V) : Plain Γ Ok outputs (.done r)
  | look {next : Graph V C → H → Script V C H E} :
      (∀ g h, Ok h → Plain Γ Ok outputs (next g h)) → Plain Γ Ok outputs (.look next)
  | replace {h : H} {next : Script V C H E} : Ok h → Plain Γ Ok outputs next →
      Plain Γ Ok outputs (.replace h next)
  | read {i : Nat} {next : V → Script V C H E} : (∀ v, Plain Γ Ok outputs (next v)) →
      Plain Γ Ok outputs (.read (.wire i) next)
  | write {i : Nat} {v : V} {next : Script V C H E} : outputs i → Plain Γ Ok outputs next →
      Plain Γ Ok outputs (.write i v next)
  | call {c : C} {next : Option V → Script V C H E} : Plain Γ Ok outputs (Γ.body c) →
      (∀ r, Plain Γ Ok outputs (next r)) → Plain Γ Ok outputs (.call c next)

variable {Γ : Setting V C H E} {w w' u : World V C (Recorded V C H E)}

theorem Leads.past (leads : Leads Γ w w') : ∃ new, w'.host.past = new ++ w.host.past := by
  induction leads with
  | refl => exact ⟨[], rfl⟩
  | @tail u w' _ step ih =>
    obtain ⟨new, past⟩ := ih
    have grown : ∃ more, w'.host.past = more ++ u.host.past := by
      cases step with
      | replace | freeze | tick | enter | depart | addWire | addDerived | addEffect | invalidate |
          startComputing | stopComputing | keep | startRunning | stopRunning | countRun |
          requestRun => exact ⟨[], rfl⟩
      | look | assign | overran | finish | readWire | readDerived | begin | dispose | unqueue |
          enqueue => exact ⟨[_], rfl⟩
    obtain ⟨more, past'⟩ := grown
    exact ⟨more ++ new, by rw [past', past, List.append_assoc]⟩

def FailedSince (Γ : Setting V C H E) (w w' : World V C (Recorded V C H E)) (e : E) : Prop :=
  ∃ new, w'.host.past = new ++ w.host.past ∧ ∃ x ∈ new, x.failure? Γ = some e

namespace FailedSince

variable {e : E}

theorem after (h : FailedSince Γ u w' e) (leads : Leads Γ w u) :
    FailedSince Γ w w' e := by
  obtain ⟨earlier, before⟩ := leads.past
  obtain ⟨new, past, x, mem, failed⟩ := h
  exact ⟨new ++ earlier, by rw [past, before, List.append_assoc], x,
    List.mem_append_left _ mem, failed⟩

theorem before (h : FailedSince Γ w u e) (leads : Leads Γ u w') :
    FailedSince Γ w w' e := by
  obtain ⟨later, past⟩ := leads.past
  obtain ⟨new, before, x, mem, failed⟩ := h
  exact ⟨later ++ new, by rw [past, before, List.append_assoc], x,
    List.mem_append_right _ mem, failed⟩

end FailedSince

namespace Run

variable {α β : Type}

def Blames (Γ : Setting V C H E) (m : Run V C (Recorded V C H E) E α)
    (w : World V C (Recorded V C H E)) : Prop :=
  Tracked w → ∀ e w', m w = .raised e w' → FailedSince Γ w w' e

section Rules

theorem blames_of_ok (hm : m w = .ok a w') : Blames Γ m w :=
  fun _ _ _ raised => nomatch hm.symm.trans raised

theorem Blames.after (hm : Blames Γ m' u)
    (same : m w = m' u) (leads : Tracked w → Leads Γ w u) : Blames Γ m w :=
  fun tracked e w' raised =>
    (hm ((leads tracked).tracked tracked) e w' (same ▸ raised)).after (leads tracked)

theorem Blames.bind (hm : Blames Γ m w) (walks : Walks Γ m w)
    (hf : ∀ a w', m w = .ok a w' → Blames Γ (f a) w') : Blames Γ (m >>= f) w := by
  intro tracked e w' raised
  have leads := (walks tracked).1
  cases hw : m w with
  | exhausted w1 => exact nomatch (bind_of_exhausted hw).symm.trans raised
  | raised e1 w1 =>
    cases (bind_of_raised hw).symm.trans raised
    exact hm tracked e w' hw
  | ok a w1 =>
    rw [hw] at leads
    rw [bind_of_ok hw] at raised
    exact (hf a w1 hw (leads.tracked tracked) e w' raised).after leads

theorem Blames.ensure {m : Run V C (Recorded V C H E) E α}
    {close : Option E → Run V C (Recorded V C H E) E Unit} (hm : Blames Γ m w)
    (walks : Walks Γ m w) (hclose : ∀ failure w', Blames Γ (close failure) w')
    (closeWalks : ∀ failure w', (m w).ended? = some w' → Walks Γ (close failure) w') :
    Blames Γ (ensure m close) w := by
  intro tracked e w' raised
  have leads := (walks tracked).1
  cases hw : m w with
  | exhausted w1 => exact nomatch (ensure_of_exhausted hw).symm.trans raised
  | ok a w1 =>
    rw [hw] at leads
    rw [ensure_of_ok hw] at raised
    have closed := (hclose none w1).bind (closeWalks none w1 (by rw [hw]; rfl))
      (f := fun _ => (Pure.pure a : Run V C (Recorded V C H E) E α)) fun _ _ _ => blames_of_ok rfl
    exact (closed (leads.tracked tracked) e w' raised).after leads
  | raised e1 w1 =>
    rw [hw] at leads
    rw [ensure_of_raised hw] at raised
    have ends := (closeWalks (some e1) w1 (by rw [hw]; rfl) (leads.tracked tracked)).1
    cases hc : close (some e1) w1 with
    | exhausted w2 => exact nomatch (bind_of_exhausted hc).symm.trans raised
    | raised e2 w2 =>
      cases (bind_of_raised hc).symm.trans raised
      exact (hclose _ w1 (leads.tracked tracked) e w' hc).after leads
    | ok a w2 =>
      rw [hc] at ends
      cases (bind_of_ok (f := fun _ => raise e1) hc).symm.trans raised
      exact (hm tracked e w1 hw).before ends

end Rules

section Parts

variable {again : Task V C (Recorded V C H E) E → Run V C (Recorded V C H E) E (Option V)}
variable (hwalks : ∀ (t : Task V C H E) w, Walks Γ (again t.recorded) w)
variable (hrest : ∀ t w, Restores (again t) w)
variable (hexecute : ∀ t w, Blames Γ (again (.execute t)) w)
variable (hleave : ∀ w, Blames Γ (again .leave) w)

include hwalks hexecute

theorem blames_executeAll (ts : List Tracker) (w : World V C (Recorded V C H E)) :
    Blames Γ (executeAll again ts) w := by
  induction ts generalizing w with
  | nil => exact blames_of_ok rfl
  | cons t ts ih => exact (hexecute t w).bind (hwalks (.execute t) w) fun _ w1 _ => ih w1

theorem blames_tell (s : Source) (w : World V C (Recorded V C H E)) :
    Blames Γ (tell Γ.recorded again s) w :=
  (blames_executeAll hwalks hexecute _ _).after (tell_apply s w) fun _ => .single .tick

theorem blames_replaceValue (hleave : ∀ w, Blames Γ (again .leave) w) (i : Nat) (old v : V)
    (outside : ∀ d rest, w.graph.stack ≠ .derived d :: rest) :
    Blames Γ (replaceValue Γ.recorded again i old v) w := by
  refine Blames.after ?_ (replaceValue_outside outside) fun _ =>
    (Relation.ReflTransGen.single (.assign i old v)).tail .enter
  refine (blames_tell hwalks hexecute _ _).ensure (walks_tell hwalks _ _) (fun _ w1 => ?_)
    fun _ w1 _ => walks_leave hwalks w1
  exact (hleave w1).bind (hwalks .leave w1) fun _ _ _ => blames_of_ok rfl

omit hexecute in
theorem blames_runTracked (i : Nat) (idle : Tracker.effect i ∉ w.graph.stack)
    (starts : w.graph.Starts (.effect i)) :
    Blames Γ (runTracked Γ.recorded again (.effect i)) w := by
  intro tracked e w' raised
  have begun : Leads Γ w (w.begin Γ.recorded (.effect i)) :=
    .single (.begin idle starts)
  have leads : Leads Γ _ (again (.script (Γ.recorded.body
      ((w.begin Γ.recorded (.effect i)).graph.body (.effect i))))
      (w.begin Γ.recorded (.effect i))).world :=
    (hwalks (.script (Γ.body _)) _ (begun.tracked tracked)).1
  cases hw : again (.script (Γ.recorded.body
      ((w.begin Γ.recorded (.effect i)).graph.body (.effect i))))
      (w.begin Γ.recorded (.effect i)) with
  | exhausted w1 => exact nomatch (runTracked_of_exhausted hw).symm.trans raised
  | ok r w1 => exact nomatch (runTracked_of_ok hw).symm.trans raised
  | raised e1 w1 =>
    cases (runTracked_of_raised hw).symm.trans raised
    rw [hw] at leads
    obtain ⟨new, past⟩ := Leads.past (begun.trans leads)
    exact ⟨_ :: new, congrArg (List.cons _) past, _, List.mem_cons_self, rfl⟩

include hrest in
omit hexecute in
theorem blames_settle (n : Nat) (idle : Tracker.effect i ∉ w.graph.stack)
    (starts : w.graph.Starts (.effect i)) : Blames Γ (settle Γ.recorded again i n) w := by
  induction n generalizing w with
  | zero =>
    intro _ e w' raised
    cases (settle_zero i w).symm.trans raised
    exact ⟨[_], rfl, _, List.mem_cons_self, rfl⟩
  | succ n ih =>
    have counted : w.graph.SameActivity (w.update (·.countRun i)).graph :=
      Graph.sameActivity_modifyEffect w.graph i fun _ => rfl
    have still : (w.update (·.countRun i)).graph.Starts (.effect i) :=
      ⟨(counted.running i).trans starts.1, (Graph.effect_modifyEffect_of Effect.disposed
        (f := fun e => { e with rerun := false, runs := e.runs + 1 }) (fun _ => rfl) w.graph i
        i).trans starts.2⟩
    refine Blames.after ?_ (settle_succ i n w) fun _ => .single (.countRun starts.1 starts.2)
    refine (blames_runTracked (w := w.update (·.countRun i)) hwalks i idle still).bind
      (walks_runTracked (w := w.update (·.countRun i)) hwalks hrest idle still) fun _ w1 h1 => ?_
    have same := counted.trans
      (restores_runTracked Γ.recorded hrest _ _ w1 (by rw [h1]; rfl))
    refine Blames.after (?_ : Blames Γ (if (w1.graph.effect i).rerun &&
      !(w1.graph.effect i).disposed then settle Γ.recorded again i n else Pure.pure ()) w1)
      (graph_bind _ w1) fun _ => .refl
    cases asked : (w1.graph.effect i).rerun && !(w1.graph.effect i).disposed with
    | false => exact blames_of_ok rfl
    | true =>
      have live : (w1.graph.effect i).disposed = false := by
        simpa using (Bool.and_eq_true_iff.mp asked).2
      exact ih (by rw [same.stack]; exact idle) ⟨(same.running i).trans starts.1, live⟩

include hrest in
omit hexecute in
theorem blames_executeEffect (i : Nat) (w : World V C (Recorded V C H E)) :
    Blames Γ (executeEffect Γ.recorded again i) w := by
  cases hd : (w.graph.effect i).disposed with
  | true => exact blames_of_ok (executeEffect_disposed hd)
  | false =>
    cases hr : (w.graph.effect i).running with
    | true => exact blames_of_ok (executeEffect_running hd hr)
    | false =>
      by_cases deeper : 0 < w.graph.depth
      · exact blames_of_ok (executeEffect_waiting hd hr deeper)
      · intro tracked
        have idle : Tracker.effect i ∉ w.graph.stack :=
          tracked.idle (by simp [Graph.Active, hr])
        have starts : (w.update (·.setRunning i true)).graph.Starts (.effect i) := by
          simp [Graph.Starts, World.update, Graph.setRunning, Graph.effect_modifyEffect,
            Graph.effect_lt_of_not_disposed hd, hd]
        rw [executeEffect_now hd hr deeper]
        refine Blames.after ?_ (runEffect_apply i w)
          (fun _ => .single (.startRunning idle hd hr)) tracked
        refine (blames_settle (w := w.update (·.setRunning i true)) hwalks hrest _ idle
          starts).ensure (walks_settle (w := w.update (·.setRunning i true)) hwalks hrest _ idle
          starts) (fun _ _ => blames_of_ok rfl) fun failure w1 ended => walks_of_eq rfl fun _ =>
            .single (.stopRunning ?_)
        rw [(restores_settle Γ.recorded hrest i _ _ w1 ended).stack]
        exact idle

theorem blames_executeDerived (i : Nat) (w : World V C (Recorded V C H E)) :
    Blames Γ (executeDerived Γ.recorded again i) w := by
  cases hd : (w.graph.derived i).dirty with
  | true => exact blames_of_ok (executeDerived_dirty hd)
  | false =>
    exact (blames_tell hwalks hexecute _ _).after (executeDerived_clean hd) fun _ =>
      .single (.invalidate hd)

theorem raised_of_drain (n : Nat) (failure : Option E) (tracked : Tracked w)
    (raised : drain Γ.recorded again n failure w = .raised e w') :
    failure = some e ∨ FailedSince Γ w w' e := by
  induction n generalizing failure w with
  | zero => exact nomatch raised
  | succ n ih =>
    cases hq : w.graph.queue with
    | nil =>
      rw [drain_nil n failure hq] at raised
      cases failure with
      | none => exact nomatch raised
      | some e1 =>
        cases raised
        exact .inl rfl
    | cons i rest =>
      have taken : Leads Γ w (w.unqueue Γ.recorded i) := .single (.unqueue hq)
      have leads : Leads Γ _ (again (.execute (.effect i))
          (w.unqueue Γ.recorded i)).world :=
        (hwalks (.execute (.effect i)) _ (taken.tracked tracked)).1
      rw [drain_cons n failure hq] at raised
      cases hw : again (.execute (.effect i)) (w.unqueue Γ.recorded i) with
      | exhausted w1 => exact nomatch (bind_of_exhausted (by rw [attempt, hw])).symm.trans raised
      | ok r w1 =>
        rw [hw] at leads
        have turned : attempt (again (.execute (.effect i))) (w.unqueue Γ.recorded i) =
            .ok (.ok r) w1 := by rw [attempt, hw]
        rw [bind_of_ok turned] at raised
        have turn : Leads Γ w w1 := taken.trans leads
        exact (ih failure (turn.tracked tracked) raised).imp id fun failed => failed.after turn
      | raised e1 w1 =>
        rw [hw] at leads
        have turned : attempt (again (.execute (.effect i))) (w.unqueue Γ.recorded i) =
            .ok (.error e1) w1 := by rw [attempt, hw]
        rw [bind_of_ok turned] at raised
        change (if Γ.caught e1 then drain Γ.recorded again n (failure.or (some e1)) else raise e1) w1 =
          .raised e w' at raised
        have turn : Leads Γ w w1 := taken.trans leads
        have first := hexecute _ _ (taken.tracked tracked) e1 w1 hw
        split at raised
        · rcases ih _ (turn.tracked tracked) raised with carried | failed
          · cases failure with
            | some e0 => exact .inl carried
            | none =>
              cases carried
              have rest := (walks_drain hwalks n (some e) w1 (turn.tracked tracked)).1
              rw [show drain Γ.recorded again n (some e) w1 = _ from raised] at rest
              exact .inr ((first.before rest).after taken)
          · exact .inr (failed.after turn)
        · cases raised
          exact .inr (first.after taken)

theorem blames_leaveBatch (fuel : Nat) (w : World V C (Recorded V C H E)) :
    Blames Γ (leaveBatch Γ.recorded again fuel) w := by
  by_cases outermost : w.graph.depth = 1
  · refine Blames.after (?_ : Blames Γ (drain Γ.recorded again fuel none) _)
      (leaveBatch_outermost fuel outermost) fun _ => .single .depart
    intro tracked e w' raised
    exact (raised_of_drain hwalks hexecute fuel none tracked raised).resolve_left nofun
  · exact blames_of_ok (leaveBatch_inner fuel outermost)

end Parts

theorem perform_blames (Γ : Setting V C H E) (n : Nat) :
    (∀ t w, Blames Γ (perform Γ.recorded n (.execute t)) w) ∧
      ∀ w, Blames Γ (perform Γ.recorded n .leave) w := by
  induction n with
  | zero => exact ⟨fun _ _ _ _ _ raised => (nomatch raised), fun _ _ _ _ raised => nomatch raised⟩
  | succ n ih =>
    have walks (t : Task V C H E) (w) := perform_walks Γ n t w
    have restores := perform_restores Γ.recorded n (V := V) (C := C)
    refine ⟨fun t w => ?_, fun w => ?_⟩
    · cases t with
      | derived i =>
        exact (blames_executeDerived walks ih.1 i w).bind (walks_executeDerived walks i w)
          fun _ _ _ => blames_of_ok rfl
      | effect i =>
        exact (blames_executeEffect walks restores i w).bind
          (walks_executeEffect walks restores i w) fun _ _ _ => blames_of_ok rfl
    · exact (blames_leaveBatch walks ih.1 (n * n) w).bind (walks_leaveBatch walks (n * n) w)
        fun _ _ _ => blames_of_ok rfl

omit [Inhabited V] [Inhabited C] in
theorem world_drain (Γ : Setting V C H E) (again : Task V C H E → Run V C H E (Option V))
    (n : Nat) (failure : Option E) (w : World V C H) :
    (drain Γ again n failure w).world = (drain Γ again n none w).world := by
  induction n generalizing failure w with
  | zero => rfl
  | succ n ih =>
    cases hq : w.graph.queue with
    | nil =>
      rw [drain_nil n failure hq, drain_nil n none hq]
      cases failure <;> rfl
    | cons i rest =>
      rw [drain_cons n failure hq, drain_cons n none hq, bind_apply, bind_apply]
      cases attempt (again (.execute (.effect i))) (w.unqueue Γ i) with
      | exhausted w1 => rfl
      | raised e w1 => rfl
      | ok r w1 =>
        cases r with
        | ok r => exact ih failure w1
        | error e =>
          change ((if Γ.caught e then drain Γ again n (failure.or (some e)) else raise e) w1).world =
            ((if Γ.caught e then drain Γ again n (some e) else raise e) w1).world
          split
          · exact (ih _ w1).trans (ih _ w1).symm
          · rfl

/-- Where plain code can run: outside of derived values. -/
structure Open (Ok : H → Prop) (w : World V C (Recorded V C H E)) : Prop where
  tracked : Tracked w
  host : Ok w.host.host
  deep : 0 ≤ w.graph.depth
  outside : ∀ d rest, w.graph.stack ≠ .derived d :: rest

section Plain

variable {Ok : H → Prop} {outputs : Nat → Prop} (hset : Γ.Structured Ok)
variable (silent : ∀ a b n (w : World V C H), Ok w.host →
  (perform Γ n (.script (Γ.same a b)) w).fault? = none)

include hset

theorem Open.perform {t : Task V C H E} (here : Open Ok w) (structured : t.Structured Ok)
    (ended : (perform Γ.recorded n t.recorded w).ended? = some w') :
    Open Ok w' ∧ Leads Γ w w' := by
  have level := (perform_levels hset n).1 t structured w here.host
    here.deep w' ended
  have leads := (perform_walks Γ n t w here.tracked).1
  rw [Outcome.world_of_ended? ended] at leads
  refine ⟨⟨leads.tracked here.tracked, level.host, level.depth ▸ here.deep, ?_⟩, leads⟩
  rw [(perform_restores Γ.recorded n _ w w' ended).stack]
  exact here.outside

omit hset in
theorem Open.read (here : Open Ok w) (hset : Γ.Structured Ok) {i : Nat}
    (present : i < w.graph.wires.size) :
    Open Ok (w.read Γ.recorded (.wire i) (w.graph.wire i).value) where
  tracked := (Step.readWire present : Step Γ w _).tracked here.tracked
  host := hset.notice _ _ _ here.host
  deep := (Graph.relinks_track w.graph (.wire i)).depth.symm ▸ here.deep
  outside := (Graph.relinks_track w.graph (.wire i)).stack.symm ▸ here.outside

include silent in
theorem raised_of_writeWire (here : Open Ok w)
    (raised : writeWire Γ.recorded (perform Γ.recorded n) i v w = .raised e w') :
    FailedSince Γ w w' e ∨ (w'.graph.wire i).frozen = true := by
  cases frozen : (w.graph.wire i).frozen with
  | true =>
    cases (writeWire_frozen frozen).symm.trans raised
    exact .inr frozen
  | false =>
    rw [writeWire_apply frozen] at raised
    have compared := perform_recorded Γ n (.script (Γ.same (w.graph.wire i).value v)) w
    have quiet := silent (w.graph.wire i).value v n w.plain here.host
    rw [← compared, Outcome.fault?_plain] at quiet
    cases hw : perform Γ.recorded n (.script (Γ.recorded.same (w.graph.wire i).value v))
        w with
    | exhausted w1 => exact nomatch (bind_of_exhausted hw).symm.trans raised
    | raised e1 w1 => exact nomatch (congrArg Outcome.fault? hw).symm.trans quiet
    | ok r w1 =>
      have ended : (perform Γ.recorded n
          (Task.script (Γ.same (w.graph.wire i).value v)).recorded w).ended? = some w1 :=
        congrArg Outcome.ended? hw
      obtain ⟨there, leads⟩ := here.perform hset (t := .script _) (hset.same _ _) ended
      rw [bind_of_ok hw] at raised
      cases r with
      | some r => exact nomatch raised
      | none =>
        have blames := blames_replaceValue (perform_walks Γ n)
          (perform_blames Γ n).1 (perform_blames Γ n).2 i
          (w.graph.wire i).value v there.outside
        exact .inl ((blames there.tracked e w' raised).after leads)

include silent in
theorem raised_of_plain {s : Script V C H E} (plain : s.Plain Γ Ok outputs) (n : Nat)
    (here : Open Ok w)
    (raised : perform Γ.recorded n (.script s.recorded) w = .raised e w') :
    FailedSince Γ w w' e ∨ ∃ i, outputs i ∧ (w'.graph.wire i).frozen = true := by
  -- The induction is on the code; calls nest, so that the fuel varies with it.
  induction plain generalizing n w with
  | done r => cases n <;> exact nomatch raised
  | @look next _ ih =>
    cases n with
    | zero => exact nomatch raised
    | succ n =>
      have seen : Leads Γ w { w with host := w.host.see none w.graph } := .single .look
      refine (ih w.graph w.host.host here.host (n + 1) ⟨here.tracked.look, here.host, here.deep,
        here.outside⟩ raised).imp (fun failed => failed.after seen) id
  | @replace h next ok _ ih =>
    cases n with
    | zero => exact nomatch raised
    | succ n =>
      have changed : Leads Γ w { w with host := { w.host with host := h } } :=
        .single (.replace h)
      exact (ih (n + 1) ⟨here.tracked.replace h, ok, here.deep, here.outside⟩ raised).imp
        (fun failed => failed.after changed) id
  | @read i next _ ih =>
    cases n with
    | zero => exact nomatch raised
    | succ n =>
      change (readSource Γ.recorded (perform Γ.recorded n) (.wire i) >>= fun v =>
        exec Γ.recorded (perform Γ.recorded n) (next v).recorded) w = _ at raised
      by_cases present : i < w.graph.wires.size
      · rw [bind_of_ok (readSource_wire present)] at raised
        exact (ih _ (n + 1) (here.read hset present) raised).imp
          (fun failed => failed.after (.single (.readWire present))) id
      · rw [bind_of_ok (readSource_absent present)] at raised
        exact ih _ (n + 1) here raised
  | @write i v next output _ ih =>
    cases n with
    | zero => exact nomatch raised
    | succ n =>
      change (writeWire Γ.recorded (perform Γ.recorded n) i v >>= fun _ =>
        exec Γ.recorded (perform Γ.recorded n) next.recorded) w = _ at raised
      cases hw : writeWire Γ.recorded (perform Γ.recorded n) i v w with
      | exhausted w1 => exact nomatch (bind_of_exhausted hw).symm.trans raised
      | raised e1 w1 =>
        cases (bind_of_raised hw).symm.trans raised
        exact (raised_of_writeWire hset silent here hw).imp id fun frozen => ⟨i, output, frozen⟩
      | ok a w1 =>
        have ended : (perform Γ.recorded (n + 1)
            (.script (Script.write i v (.done none)).recorded) w).ended? = some w1 :=
          congrArg Outcome.ended? (bind_of_ok hw)
        obtain ⟨there, leads⟩ := here.perform hset (t := .script (.write i v (.done none)))
          trivial ended
        rw [bind_of_ok hw] at raised
        exact (ih (n + 1) there raised).imp (fun failed => failed.after leads) id
  | @call c next _ _ ihBody ih =>
    cases n with
    | zero => exact nomatch raised
    | succ n =>
      change (perform Γ.recorded n (.script (Γ.body c).recorded) >>= fun r =>
        exec Γ.recorded (perform Γ.recorded n) (next r).recorded) w = _ at raised
      cases hw : perform Γ.recorded n (.script (Γ.body c).recorded) w with
      | exhausted w1 => exact nomatch (bind_of_exhausted hw).symm.trans raised
      | raised e1 w1 =>
        cases (bind_of_raised hw).symm.trans raised
        exact ihBody n here hw
      | ok r w1 =>
        obtain ⟨there, leads⟩ := here.perform hset (t := .script (Γ.body c))
          (hset.body c) (congrArg Outcome.ended? hw)
        rw [bind_of_ok hw] at raised
        exact (ih r (n + 1) there raised).imp (fun failed => failed.after leads) id

include silent in
/-- What a run of an effect with plain code shows: it ends whole unless an effect fails in it, or
one of the wires that it writes is frozen. -/
theorem plain_run_whole (n : Nat) (host : Ok w.host.host) (deep : 0 ≤ w.graph.depth)
    (tracked : Tracked w) (idle : Tracker.effect i ∉ w.graph.stack)
    (starts : w.graph.Starts (.effect i))
    (plain : (Γ.body (w.graph.effect i).body).Plain Γ Ok outputs)
    (ends : (runTracked Γ.recorded (perform Γ.recorded n) (.effect i) w).ended? =
      some w') : ∃ failure inner x y, w'.host.past = x :: inner ++ y :: w.host.past ∧
      y.moment = some (.began (.effect i)) ∧ x.moment = some (.ended (.effect i) failure) ∧
      ((∀ k, outputs k → (w'.graph.wire k).frozen = false) →
        (∀ z ∈ inner, z.failure? Γ = none) → failure = none) := by
  have step : Step Γ w (w.begin Γ.recorded (.effect i)) := .begin idle starts
  have links := Graph.relinks_forget w.graph (.effect i)
  have here : Open Ok (w.begin Γ.recorded (.effect i)) :=
    { tracked := step.tracked tracked
      host := hset.notice _ _ _ host
      deep := links.depth.symm ▸ deep
      outside := fun d rest top => nomatch top }
  have same : (w.begin Γ.recorded (.effect i)).graph.body (.effect i) =
      (w.graph.effect i).body := by
    obtain ⟨ss, relinked⟩ := links.effect i
    change ((w.graph.forget (.effect i)).effect i).body = _
    rw [relinked]
  rw [← same] at plain
  have leads := (perform_walks Γ n (.script (Γ.body
    ((w.begin Γ.recorded (.effect i)).graph.body (.effect i)))) _ here.tracked).1
  cases hw : perform Γ.recorded n (.script (Γ.recorded.body
      ((w.begin Γ.recorded (.effect i)).graph.body (.effect i))))
      (w.begin Γ.recorded (.effect i)) with
  | exhausted w1 =>
    rw [runTracked_of_exhausted hw] at ends
    cases ends
  | ok r w1 =>
    rw [runTracked_of_ok hw] at ends
    cases ends
    obtain ⟨inner, past⟩ := leads.past
    rw [show perform Γ.recorded n (Task.recorded (.script _)) _ = _ from hw] at past
    exact ⟨none, inner, _, _, congrArg (List.cons _) past, rfl, rfl, fun _ _ => rfl⟩
  | raised e w1 =>
    rw [runTracked_of_raised hw] at ends
    cases ends
    obtain ⟨inner, past⟩ := leads.past
    rw [show perform Γ.recorded n (Task.recorded (.script _)) _ = _ from hw] at past
    refine ⟨some e, inner, _, _, congrArg (List.cons _) past, rfl, rfl, fun thawed still => ?_⟩
    rcases raised_of_plain hset silent plain n here hw with failed | ⟨k, output, frozen⟩
    · obtain ⟨new, past', z, mem, left⟩ := failed
      cases List.append_cancel_right (past'.symm.trans past)
      exact nomatch (still z mem).symm.trans left
    · exact nomatch (thawed k output).symm.trans frozen

end Plain

end Run

/-- A failure in a flush reaches no further than the runs that it happens in. After a turn that
fails the flush leads where it leads after one that returns there, unless no flush catches the fault:
then it leaves at once. A run of an effect that only
reads and writes wires ends whole if those wires are not frozen and no effect fails while it runs,
whatever has failed before. -/
theorem flush_isolates_failures {setting : Setting V C H E} {Ok : H → Prop}
    (hset : setting.Structured Ok) (silent : ∀ a b n (w : World V C H), Ok w.host →
      (Run.perform setting n (.script (setting.same a b)) w).fault? = none) (n : Nat) :
    (∀ (fuel i : Nat) (rest : List Nat) (e : E) (w w1 : World V C (Recorded V C H E)),
      w.graph.queue = i :: rest →
      Run.perform setting.recorded n (.execute (.effect i)) (w.unqueue setting.recorded i) =
        .raised e w1 →
      (Run.drain setting.recorded (Run.perform setting.recorded n) (fuel + 1) none w).world =
        if setting.caught e then
          (Run.drain setting.recorded (Run.perform setting.recorded n) fuel none w1).world
        else w1) ∧
    ∀ (i : Nat) (outputs : Nat → Prop) (w w' : World V C (Recorded V C H E)),
      Tracked w → Ok w.host.host → 0 ≤ w.graph.depth → .effect i ∉ w.graph.stack →
      w.graph.Starts (.effect i) →
      (setting.body (w.graph.effect i).body).Plain setting Ok outputs →
      (Run.runTracked setting.recorded (Run.perform setting.recorded n) (.effect i) w).ended? =
        some w' →
      ∃ failure inner x y, w'.host.past = x :: inner ++ y :: w.host.past ∧
        y.moment = some (.began (.effect i)) ∧ x.moment = some (.ended (.effect i) failure) ∧
        ((∀ k, outputs k → (w'.graph.wire k).frozen = false) →
          (∀ z ∈ inner, z.failure? setting = none) → failure = none) := by
  refine ⟨fun fuel i rest e w w1 queue raised => ?_,
    fun i outputs w w' tracked host deep idle starts plain ends =>
      Run.plain_run_whole hset silent n host deep tracked idle starts plain ends⟩
  have turned : Run.attempt (Run.perform setting.recorded n (.execute (.effect i)))
      (w.unqueue setting.recorded i) = .ok (.error e) w1 := by rw [Run.attempt, raised]
  rw [Run.drain_cons fuel none queue, Run.bind_of_ok turned]
  change ((if setting.caught e then _ else Run.raise e) w1).world = _
  split
  · exact Run.world_drain setting.recorded _ fuel (some e) w1
  · rfl

/-- The first code passes the first wire on to two others; the second fails where the last wire is
not zero. -/
def spreading : Setting Nat Nat Unit String where
  body
    | 0 => .read (.wire 0) fun v => .write 1 v (.write 2 v (.done none))
    | _ => .read (.wire 3) fun v => if v = 0 then .done none else .raise "failed"
  same a b := .done (if a = b then some a else none)
  fault f := (f.message?).getD ""
  caught _ := true
  catches _ := rfl
  arrange _ ts := ts
  notice _ _ h := h

theorem spreading_structured : spreading.Structured fun _ => True where
  body c := by
    match c with
    | 0 => exact fun _ => trivial
    | _ + 1 =>
      intro v
      by_cases zero : v = 0 <;> simp only [zero, if_true, if_false] <;> trivial
  same _ _ := trivial
  notice _ _ _ _ := trivial

theorem spreading_silent (a b n : Nat) (w : World Nat Nat Unit) :
    (Run.perform spreading n (.script (spreading.same a b)) w).fault? = none := by
  cases n <;> rfl

theorem spreading_plain : (spreading.body 0).Plain spreading (fun _ => True)
    (fun k => k = 1 ∨ k = 2) :=
  .read fun _ => .write (.inl rfl) (.write (.inr rfl) (.done none))

def spread (next : Script Nat Nat Unit String) : Script Nat Nat Unit String :=
  .newWire 0 fun _ => .newWire 0 fun _ => .newWire 0 fun _ => .newWire 0 fun _ =>
    .newEffect (.named "spread") 0 fun _ => .newEffect (.named "fail") 1 fun _ => next

def flushing : World Nat Nat (Recorded Nat Nat Unit String) :=
  (Run.perform spreading.recorded 9 (.script (spread (.startBatch (.write 3 1 (.write 0 1
    (.done none))))).recorded) (World.recording ⟨{}, ()⟩)).world.update Graph.depart

def afterFailure : World Nat Nat (Recorded Nat Nat Unit String) :=
  (Run.perform spreading.recorded 9 (.execute (.effect 1)) (flushing.unqueue spreading.recorded 1)).world

def resuming : World Nat Nat (Recorded Nat Nat Unit String) :=
  ((afterFailure.unqueue spreading.recorded 0).update (·.setRunning 0 true)).update (·.countRun 0)

theorem tracked_resuming : Tracked resuming := by
  have start : Tracked (World.recording ⟨{}, ()⟩ : World Nat Nat (Recorded Nat Nat Unit String)) :=
    tracked_recording (Graph.converse_of_unlinked (fun t => by cases t <;> rfl) fun s => by
      cases s <;> rfl) rfl
  have opened := Leads.tracked (Run.perform_walks spreading 9 (.script (spread (.startBatch (.write 3 1
    (.write 0 1 (.done none)))))) _ start).1 start
  have flush : Tracked flushing := (Step.depart : Step spreading _ _).tracked opened
  have queue : flushing.graph.queue = [1, 0] := by decide +kernel
  have taken := (Step.unqueue queue : Step spreading _ _).tracked flush
  have failed : Tracked afterFailure :=
    Leads.tracked (Run.perform_walks spreading 9 (.execute (.effect 1)) _ taken).1 taken
  have left : afterFailure.graph.queue = [0] := by decide +kernel
  have next := (Step.unqueue left : Step spreading _ _).tracked failed
  have marked := (Step.startRunning (i := 0) (by decide +kernel) (by decide +kernel)
    (by decide +kernel) : Step spreading _ _).tracked next
  exact (Step.countRun (by decide +kernel) (by decide +kernel) : Step spreading _ _).tracked marked

/-- The second turn is not touched by the failure of the first. -/
theorem flush_isolates_failures_resuming :
    flushing.graph.queue = [1, 0] ∧
      (Run.perform spreading.recorded 9 (.execute (.effect 1))
        (flushing.unqueue spreading.recorded 1)).fault? = some "failed" ∧
      (Run.drain spreading.recorded (Run.perform spreading.recorded 9) 9 none flushing).world =
        (Run.drain spreading.recorded (Run.perform spreading.recorded 9) 8 none afterFailure).world ∧
      ∃ inner x y, (Run.runTracked spreading.recorded (Run.perform spreading.recorded 9) (.effect 0)
          resuming).world.host.past = x :: inner ++ y :: resuming.host.past ∧
        y.moment = some (.began (.effect 0)) ∧ x.moment = some (.ended (.effect 0) none) := by
  have isolates := flush_isolates_failures spreading_structured
    (fun a b n w _ => spreading_silent a b n w) 9
  have queue : flushing.graph.queue = [1, 0] := by decide +kernel
  have fault : (Run.perform spreading.recorded 9 (.execute (.effect 1))
      (flushing.unqueue spreading.recorded 1)).fault? = some "failed" := by decide +kernel
  refine ⟨queue, fault, ?_, ?_⟩
  · refine isolates.1 8 1 [0] "failed" flushing afterFailure queue ?_
    unfold afterFailure
    generalize Run.perform spreading.recorded 9 (.execute (.effect 1))
      (flushing.unqueue spreading.recorded 1) = turn at fault
    cases turn <;> cases fault
    rfl
  · have code : (resuming.graph.effect 0).body = 0 := by decide +kernel
    have ends : (Run.runTracked spreading.recorded (Run.perform spreading.recorded 9) (.effect 0)
        resuming).ended?.isSome = true := by decide +kernel
    obtain ⟨failure, inner, x, y, past, began, ended, whole⟩ := isolates.2 0 (fun k => k = 1 ∨ k = 2)
      resuming _ tracked_resuming trivial (by decide +kernel) (by decide +kernel)
      ⟨by decide +kernel, by decide +kernel⟩ (code.symm ▸ spreading_plain)
      (Outcome.ended?_of_isSome ends)
    have inside : inner = ((Run.runTracked spreading.recorded (Run.perform spreading.recorded 9)
        (.effect 0) resuming).world.host.past.tail.take ((Run.runTracked spreading.recorded
          (Run.perform spreading.recorded 9) (.effect 0) resuming).world.host.past.length -
            resuming.host.past.length - 2)) := by
      have count : (x :: inner ++ y :: resuming.host.past).length - resuming.host.past.length - 2 =
          inner.length := by
        simp only [List.cons_append, List.length_cons, List.length_append]
        omega
      rw [past, count]
      exact List.take_left.symm
    have still : ∀ z ∈ inner, z.failure? spreading = none := by
      rw [inside]
      decide +kernel
    have thawed : ∀ k, k = 1 ∨ k = 2 → ((Run.runTracked spreading.recorded
        (Run.perform spreading.recorded 9) (.effect 0) resuming).world.graph.wire k).frozen =
          false := by
      rintro k (rfl | rfl) <;> decide +kernel
    cases whole thawed still
    exact ⟨inner, x, y, past, began, ended⟩

/-- Where the failing effect waits behind one that shares nothing with it, it runs inside of the
first write of the other, which never makes its second. -/
theorem waiting_failure_cuts_effect :
    ((Run.perform spreading 9 (.script (spread (.batch (.write 0 1 (.write 3 1 (.done none)))
        fun r => .done r))) ⟨{}, ()⟩).world.graph.wires.map (·.value)) = #[1, 1, 0, 1] ∧
      ((Run.perform spreading 9 (.script (spread (.batch (.write 3 1 (.write 0 1 (.done none)))
        fun r => .done r))) ⟨{}, ()⟩).world.graph.wires.map (·.value)) = #[1, 1, 1, 1] := by
  decide +kernel

end AttrBinder.Reactive
