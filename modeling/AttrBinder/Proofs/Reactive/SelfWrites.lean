import AttrBinder.Proofs.Reactive.Batches
import AttrBinder.Proofs.Reactive.Isolation

/-!
An effect that writes the wire it reads, among effects that only read. The write runs the others, which
leave the wire and the effect alone (`Skirts`), and asks the effect for another run, unless the value
is the same. So the effect computes the iterates of its function, and it is made if one of the first of
them is a fixed point (`self_writes_settle`).
-/

namespace AttrBinder.Reactive

variable {V C H E : Type} [Inhabited V] [Inhabited C]

namespace Run

section Results

variable {α β : Type}

def Results (m : Run V C H E α) (w : World V C H) (Q : α → World V C H → Prop)
    (R : E → World V C H → Prop) : Prop :=
  match m w with
  | .ok a w' => Q a w'
  | .raised e w' => R e w'
  | .exhausted _ => True

variable {m : Run V C H E α} {w w' : World V C H} {Q : α → World V C H → Prop}
variable {R : E → World V C H → Prop}

omit [Inhabited V] [Inhabited C] in
theorem results_of_ok (hm : m w = .ok a w') (h : Q a w') : Results m w Q R := by
  rw [Results, hm]
  exact h

omit [Inhabited V] [Inhabited C] in
theorem results_of_raised (hm : m w = .raised e w') (h : R e w') : Results m w Q R := by
  rw [Results, hm]
  exact h

omit [Inhabited V] [Inhabited C] in
theorem Results.of_eq (hm : m w = m' w') (h : Results m' w' Q R) : Results m w Q R := by
  rw [Results, hm]
  exact h

omit [Inhabited V] [Inhabited C] in
theorem Results.mono (h : Results m w Q R)
    (returned : ∀ a w', Q a w' → Q' a w') (raised : ∀ e w', R e w' → R' e w') :
    Results m w Q' R' := by
  unfold Results at h ⊢
  cases hw : m w with
  | ok a w1 =>
    rw [hw] at h
    exact returned a w1 h
  | raised e w1 =>
    rw [hw] at h
    exact raised e w1 h
  | exhausted w1 => trivial

omit [Inhabited V] [Inhabited C] in
theorem Results.bind (hm : Results m w Q R)
    (hf : ∀ a w', m w = .ok a w' → Q a w' → Results (f a) w' Q' R) : Results (m >>= f) w Q' R := by
  unfold Results at hm
  cases hw : m w with
  | ok a w1 =>
    rw [hw] at hm
    exact (hf a w1 hw hm).of_eq (bind_of_ok hw)
  | raised e w1 =>
    rw [hw] at hm
    exact results_of_raised (bind_of_raised hw) hm
  | exhausted w1 =>
    rw [Results, bind_of_exhausted hw]
    trivial

omit [Inhabited V] [Inhabited C] in
theorem Results.ensure_modify (h : Results m w (fun a w' => Q a (w'.update f))
    fun e w' => R e (w'.update f)) : Results (ensure m fun _ => modify f) w Q R := by
  unfold Results at h
  cases hw : m w with
  | ok a w1 =>
    rw [hw] at h
    exact results_of_ok (ensure_of_ok hw) h
  | raised e w1 =>
    rw [hw] at h
    exact results_of_raised (ensure_of_raised hw) h
  | exhausted w1 =>
    rw [Results, ensure_of_exhausted hw]
    trivial

omit [Inhabited V] [Inhabited C] in
theorem Yields.results (h : Yields m w Q) : Results m w Q R := by
  unfold Yields at h
  unfold Results
  cases hw : m w with
  | ok a w1 =>
    rw [hw] at h
    exact h
  | raised e w1 =>
    rw [hw] at h
    exact h.elim
  | exhausted w1 => trivial

end Results

end Run

namespace Graph

/-- What other effects that only read leave alone: the wires but for their subscribers, and all of
effect `i` but for its dependencies. -/
structure Skirts (i : Nat) (g g' : Graph V C) : Prop where
  code : g.SameCode g'
  wires : g'.wires.size = g.wires.size
  wire : ∀ k, ∃ ts, g'.wire k = { g.wire k with subscribers := ts }
  depth : g'.depth = g.depth
  effect : ∃ ss, g'.effect i = { g.effect i with dependencies := ss }

variable {i : Nat} {f g h : Graph V C}

theorem Skirts.trans (a : Skirts i f g) (b : Skirts i g h) : Skirts i f h where
  code := a.code.trans b.code
  wires := b.wires.trans a.wires
  wire k := by
    obtain ⟨ts, ha⟩ := a.wire k
    obtain ⟨ts', hb⟩ := b.wire k
    exact ⟨ts', by rw [hb, ha]⟩
  depth := b.depth.trans a.depth
  effect := by
    obtain ⟨ss, ha⟩ := a.effect
    obtain ⟨ss', hb⟩ := b.effect
    exact ⟨ss', by rw [hb, ha]⟩

theorem Relinks.skirts (h : Relinks f g) : Skirts i f g :=
  ⟨h.sameCode, h.wires, h.wire, h.depth, h.effect i⟩

theorem Glances.skirts (h : Glances f g) : Skirts i f g :=
  ⟨h.code, h.wires, h.wire, h.depth, (h.effect i).imp fun _ same => same.1⟩

theorem Skirts.refl (g : Graph V C) : Skirts i g g :=
  (Glances.refl g).skirts

theorem skirts_push (g : Graph V C) (t : Tracker) : Skirts i g (g.push t) :=
  ⟨⟨rfl, fun _ => rfl, rfl, fun _ => rfl⟩, rfl, fun _ => ⟨_, rfl⟩, rfl, ⟨_, rfl⟩⟩

theorem skirts_unqueue (g : Graph V C) : Skirts i g g.unqueue :=
  ⟨⟨rfl, fun _ => rfl, rfl, fun _ => rfl⟩, rfl, fun _ => ⟨_, rfl⟩, rfl, ⟨_, rfl⟩⟩

theorem skirts_modifyEffect (g : Graph V C) {j : Nat} (other : j ≠ i) {f : Effect C → Effect C}
    (body : ∀ e, (f e).body = e.body) : Skirts i g (g.modifyEffect j f) where
  code := sameCode_modifyEffect g j body
  wires := rfl
  wire _ := ⟨_, rfl⟩
  depth := rfl
  effect := ⟨_, by rw [effect_modifyEffect, if_neg fun same => other same.1]⟩

end Graph

/-- A run of an effect before effect `i` has ended with a fault. -/
def Failed (i : Nat) (e : E) (past : List (Sight V C E)) : Prop :=
  ∃ x ∈ past, ∃ j < i, x.moment = some (.ended (.effect j) (some e))

/-- No run of an effect before effect `i` has ended with a fault. -/
def Spared (i : Nat) (past : List (Sight V C E)) : Prop :=
  ∀ e, ¬ Failed i e past

omit [Inhabited V] [Inhabited C] in
theorem Spared.cons {x : Sight V C E} {past : List (Sight V C E)} (h : Spared i past)
    (fine : ∀ j < i, ∀ e, x.moment ≠ some (.ended (.effect j) (some e))) : Spared i (x :: past) := by
  rintro e ⟨y, mem, j, before, ended⟩
  rcases List.mem_cons.mp mem with rfl | mem
  · exact fine j before e ended
  · exact h e ⟨y, mem, j, before, ended⟩

theorem Failed.after {Γ : Setting V C H E} {w w' : World V C (Recorded V C H E)} {i : Nat} {e : E}
    (h : Failed i e w.host.past) (leads : Leads Γ w w') : Failed i e w'.host.past := by
  obtain ⟨new, past⟩ := leads.past
  obtain ⟨x, mem, hx⟩ := h
  exact ⟨x, by rw [past]; exact List.mem_append_right new mem, hx⟩

/-- A world whose trackers only read, but for effect `i`, the last one. -/
structure Onlooking (Γ : Setting V C H E) (Ok : H → Prop) (i : Nat)
    (w : World V C (Recorded V C H E)) : Prop
    extends Beholds Ok (fun c => (Γ.body c).Finite Γ Ok false) w where
  size : w.graph.effects.size = i + 1
  others : ∀ j < i, (Γ.body (w.graph.effect j).body).Finite Γ Ok false

section Others

variable {Γ : Setting V C H E} {Ok : H → Prop} {i : Nat}
variable {w w' : World V C (Recorded V C H E)}

theorem Onlooking.of_code (h : Onlooking Γ Ok i w) (tracked : Tracked w') (host : Ok w'.host.host)
    (code : w.graph.SameCode w'.graph) : Onlooking Γ Ok i w' where
  tracked := tracked
  host := host
  code d there := by
    rw [code.derived]
    exact h.code d (code.deriveds ▸ there)
  size := code.effects.trans h.size
  others j before := by
    rw [code.effect]
    exact h.others j before

theorem Onlooking.after (h : Onlooking Γ Ok i w) (leads : Leads Γ w w')
    (host : Ok w'.host.host) (code : w.graph.SameCode w'.graph) : Onlooking Γ Ok i w' :=
  h.of_code (leads.tracked h.tracked) host code

/-- What runs of other effects do: nothing to effect `i` and to the wires. -/
structure Bystands (Γ : Setting V C H E) (Ok : H → Prop) (i : Nat)
    (w w' : World V C (Recorded V C H E)) : Prop where
  leads : Leads Γ w w'
  onlooking : Onlooking Γ Ok i w'
  skirts : w.graph.Skirts i w'.graph
  activity : w.graph.SameActivity w'.graph

theorem Bystands.refl (onlooking : Onlooking Γ Ok i w) : Bystands Γ Ok i w w :=
  ⟨.refl, onlooking, .refl _, .refl _⟩

theorem Bystands.trans {w'' : World V C (Recorded V C H E)} (a : Bystands Γ Ok i w w')
    (b : Bystands Γ Ok i w' w'') : Bystands Γ Ok i w w'' :=
  ⟨a.leads.trans b.leads, b.onlooking, a.skirts.trans b.skirts, a.activity.trans b.activity⟩

theorem Gazes.spared (h : Gazes Γ Ok w w') (spared : Spared i w.host.past) :
    Spared i w'.host.past := by
  induction h with
  | refl => exact spared
  | tail _ glimpse ih =>
    cases glimpse with
    | replace => exact ih
    | look | readWire | readDerived | begin | fail => exact ih.cons nofun
    | deliver =>
      refine Spared.cons ?_ nofun
      exact ih.cons nofun

theorem skirts_started (Γ : Setting V C H E) {j : Nat} (other : j ≠ i)
    (w : World V C (Recorded V C H E)) :
    w.graph.Skirts i ((w.started j).begin Γ.recorded (.effect j)).graph := by
  have marked : w.graph.Skirts i (w.graph.setRunning j true) :=
    Graph.skirts_modifyEffect w.graph other fun _ => rfl
  have counted : (w.graph.setRunning j true).Skirts i (w.started j).graph :=
    Graph.skirts_modifyEffect _ other fun _ => rfl
  exact ((marked.trans counted).trans (Graph.relinks_forget _ _).skirts).trans (Graph.skirts_push _ _)

theorem skirts_stopped {j : Nat} (other : j ≠ i) (failure : Option E)
    (w : World V C (Recorded V C H E)) : w.graph.Skirts i (w.stopped Γ j failure).graph := by
  have stopped : w.graph.pop.Skirts i (w.graph.pop.setRunning j false) :=
    Graph.skirts_modifyEffect _ other fun _ => rfl
  exact (Graph.glances_pop w.graph).skirts.trans stopped

namespace Run

variable (finite : Γ.Finite Ok) {n : Nat}

include finite

theorem skirts_runEffect (onlooking : Onlooking Γ Ok i w) (before : j < i)
    (live : (w.graph.effect j).disposed = false) (idle : (w.graph.effect j).running = false)
    (ended : (runEffect Γ.recorded (perform Γ.recorded n) j w).ended? = some w') :
    Ok w'.host.host ∧ w.graph.Skirts i w'.graph ∧ w'.graph.queue = w.graph.queue ∧
      (∀ e, (runEffect Γ.recorded (perform Γ.recorded n) j w).fault? = some e →
        Failed i e w'.host.past) ∧
      ((runEffect Γ.recorded (perform Γ.recorded n) j w).fault? = none →
        Spared i w.host.past → Spared i w'.host.past) := by
  have other : j ≠ i := Nat.ne_of_lt before
  have off : .effect j ∉ w.graph.stack := onlooking.tracked.idle (by simp [Graph.Active, idle])
  have first := skirts_started Γ other w
  have starts : (w.started j).graph.Starts (.effect j) :=
    Graph.starts_countRun (Graph.starts_setRunning live)
  have begun : Onlooking Γ Ok i ((w.started j).begin Γ.recorded (.effect j)) :=
    onlooking.of_code (((onlooking.tracked.setRunning j true off).countRun j).begin Γ off starts.active)
      (finite.notice _ _ _ onlooking.host) first.code
  obtain ⟨w1, gazes, kept, stack, rfl⟩ := gazes_runEffect finite.modest
    (Graph.effect_lt_of_not_disposed live) (begun.others j before).modest begun.toBeholds ended
  have queue : (w.started j).graph.queue = w.graph.queue := rfl
  refine ⟨finite.notice _ _ _ kept.host, ?_, ?_, fun e raised => ?_, fun returned spared => ?_⟩
  · exact (first.trans gazes.glances.skirts).trans (skirts_stopped other _ w1)
  · exact gazes.glances.queue.trans ((World.outer_begin Γ _ _).2.trans queue)
  · exact ⟨_, List.mem_cons_self, j, before, by rw [raised]⟩
  · rw [returned]
    refine (gazes.spared (spared.cons ?_)).cons ?_
    · exact fun _ _ _ eq => by cases eq
    · exact fun _ _ _ eq => by cases eq

theorem skirts_executeEffect (onlooking : Onlooking Γ Ok i w) (flat : w.graph.depth = 0) {j : Nat}
    (other : j ≠ i)
    (ended : (executeEffect Γ.recorded (perform Γ.recorded n) j w).ended? = some w') :
    Ok w'.host.host ∧ w.graph.Skirts i w'.graph ∧ w'.graph.queue = w.graph.queue ∧
      (∀ e, (executeEffect Γ.recorded (perform Γ.recorded n) j w).fault? = some e →
        Failed i e w'.host.past) ∧
      ((executeEffect Γ.recorded (perform Γ.recorded n) j w).fault? = none →
        Spared i w.host.past → Spared i w'.host.past) := by
  cases live : (w.graph.effect j).disposed with
  | true =>
    rw [executeEffect_disposed live] at ended ⊢
    cases ended
    exact ⟨onlooking.host, .refl _, rfl, nofun, fun _ => id⟩
  | false =>
    have before : j < i := by
      have there := Graph.effect_lt_of_not_disposed live
      have size := onlooking.size
      omega
    cases idle : (w.graph.effect j).running with
    | true =>
      rw [executeEffect_running live idle] at ended ⊢
      cases ended
      exact ⟨onlooking.host, Graph.skirts_modifyEffect _ other fun _ => rfl, rfl, nofun, fun _ => id⟩
    | false =>
      rw [executeEffect_now live idle (by omega)] at ended ⊢
      exact skirts_runEffect finite onlooking before live idle ended

theorem bystands_execute (onlooking : Onlooking Γ Ok i w) (flat : w.graph.depth = 0) (other : j ≠ i)
    (ended : (perform Γ.recorded n (.execute (.effect j)) w).ended? = some w') :
    Bystands Γ Ok i w w' ∧ w'.graph.queue = w.graph.queue ∧
      (∀ e, (perform Γ.recorded n (.execute (.effect j)) w).fault? = some e →
        Failed i e w'.host.past) ∧
      ((perform Γ.recorded n (.execute (.effect j)) w).fault? = none →
        Spared i w.host.past → Spared i w'.host.past) := by
  have leads := (perform_walks Γ n (.execute (.effect j)) w onlooking.tracked).1
  rw [show (perform Γ.recorded n (Task.recorded (.execute (.effect j))) w).world = w' from
    Outcome.world_of_ended? ended] at leads
  have activity := perform_restores Γ.recorded n _ _ w' ended
  cases n with
  | zero => cases ended
  | succ n =>
    have same : (perform Γ.recorded (n + 1) (.execute (.effect j)) w).ended? =
        (executeEffect Γ.recorded (perform Γ.recorded n) j w).ended? ∧
      (perform Γ.recorded (n + 1) (.execute (.effect j)) w).fault? =
        (executeEffect Γ.recorded (perform Γ.recorded n) j w).fault? := by
      change (Run.bind _ _ w).ended? = _ ∧ (Run.bind _ _ w).fault? = _
      unfold Run.bind
      cases executeEffect Γ.recorded (perform Γ.recorded n) j w <;> exact ⟨rfl, rfl⟩
    rw [same.1] at ended
    rw [same.2]
    obtain ⟨host, skirts, queue, failed⟩ := skirts_executeEffect finite onlooking flat other ended
    exact ⟨⟨leads, onlooking.after leads host skirts.code, skirts, activity⟩, queue, failed⟩

theorem results_drain (m : Nat) (failure : Option E) (onlooking : Onlooking Γ Ok i w)
    (flat : w.graph.depth = 0) (apart : i ∉ w.graph.queue)
    (failed : ∀ e, failure = some e → Failed i e w.host.past)
    (spared : failure = none → Spared i w.host.past) :
    Results (drain Γ.recorded (perform Γ.recorded n) m failure) w
      (fun _ w' => Bystands Γ Ok i w w' ∧ w'.graph.queue = [] ∧ Spared i w'.host.past)
      fun e w' => Failed i e w'.host.past := by
  induction m generalizing w failure with
  | zero => trivial
  | succ m ih =>
    cases queue : w.graph.queue with
    | nil =>
      cases failure with
      | none => exact results_of_ok (drain_nil m none queue) ⟨.refl onlooking, queue, spared rfl⟩
      | some e => exact results_of_raised (drain_nil m (some e) queue) (failed e rfl)
    | cons j rest =>
      have taken : Bystands Γ Ok i w (w.unqueue Γ.recorded j) := by
        have leads : Leads Γ w (w.unqueue Γ.recorded j) := .single (.unqueue queue)
        exact ⟨leads, onlooking.after leads (finite.notice _ _ _ onlooking.host)
          (Graph.skirts_unqueue (i := i) w.graph).code, Graph.skirts_unqueue w.graph,
          Graph.sameActivity_unqueue w.graph⟩
      have tail : (w.unqueue Γ.recorded j).graph.queue = rest := congrArg List.tail queue
      rw [queue, List.mem_cons, not_or] at apart
      have turn {u : World V C (Recorded V C H E)} (ended : (perform Γ.recorded n
          (.execute (.effect j)) (w.unqueue Γ.recorded j)).ended? = some u) :=
        bystands_execute finite taken.onlooking flat (Ne.symm apart.1) ended
      have goesOn {failure : Option E} {w1 : World V C (Recorded V C H E)}
          (bystands : Bystands Γ Ok i (w.unqueue Γ.recorded j) w1)
          (left : w1.graph.queue = (w.unqueue Γ.recorded j).graph.queue)
          (failed : ∀ e, failure = some e → Failed i e w1.host.past)
          (spared : failure = none → Spared i w1.host.past) :
          Results (drain Γ.recorded (perform Γ.recorded n) m failure) w1
            (fun _ w' => Bystands Γ Ok i w w' ∧ w'.graph.queue = [] ∧ Spared i w'.host.past)
            fun e w' => Failed i e w'.host.past := by
        refine (ih failure bystands.onlooking (bystands.skirts.depth.trans flat)
          (by rw [left, tail]; exact apart.2) failed spared).mono (fun _ w' ⟨later, rest⟩ => ?_)
          fun _ _ => id
        exact ⟨(taken.trans bystands).trans later, rest⟩
      refine Results.of_eq (drain_cons m failure queue) ?_
      cases hw : perform Γ.recorded n (.execute (.effect j)) (w.unqueue Γ.recorded j) with
      | exhausted w1 =>
        rw [Results, bind_of_exhausted (by rw [attempt, hw])]
        trivial
      | ok r w1 =>
        rw [hw] at turn
        obtain ⟨bystands, left, -, returned⟩ := turn rfl
        have turned : attempt (perform Γ.recorded n (.execute (.effect j)))
          (w.unqueue Γ.recorded j) = .ok (.ok r) w1 := by rw [attempt, hw]
        refine Results.of_eq (bind_of_ok turned) (goesOn bystands left (fun e he => ?_) fun none => ?_)
        · exact (failed e he).after (taken.leads.trans bystands.leads)
        · exact returned rfl ((spared none).cons fun _ _ _ eq => by cases eq)
      | raised e w1 =>
        rw [hw] at turn
        obtain ⟨bystands, left, raised, -⟩ := turn rfl
        have turned : attempt (perform Γ.recorded n (.execute (.effect j)))
          (w.unqueue Γ.recorded j) = .ok (.error e) w1 := by rw [attempt, hw]
        refine Results.of_eq (bind_of_ok turned) ?_
        change Results (if Γ.caught e then _ else raise e) w1 _ _
        split
        case isFalse => exact results_of_raised rfl (raised e rfl)
        refine goesOn bystands left (fun e' he => ?_) fun none => by cases failure <;> cases none
        cases failure with
        | none =>
          cases he
          exact raised e rfl
        | some e1 => exact (failed e' he).after (taken.leads.trans bystands.leads)

end Run

end Others

/-! ## One run -/

/-- While effect `i` runs: it has code `c` and label `l`, wire `k` may be written and holds `x`, `r`
runs have begun, `asked` says whether another one is asked for, and `d` batches are open. -/
structure Graph.Turning (i k : Nat) (c : C) (l : Label) (x : V) (r : Nat) (asked : Bool) (d : Int)
    (g : Graph V C) : Prop where
  present : k < g.wires.size
  writable : (g.wire k).frozen = false
  value : (g.wire k).value = x
  live : (g.effect i).disposed = false
  running : (g.effect i).running = true
  body : (g.effect i).body = c
  label : (g.effect i).label = l
  runs : (g.effect i).runs = r
  rerun : (g.effect i).rerun = asked
  depth : g.depth = d

namespace Graph.Turning

variable {i k r : Nat} {c : C} {l : Label} {x : V} {asked : Bool} {d : Int} {g g' : Graph V C}

theorem skirts (h : Turning i k c l x r asked d g) (skirts : g.Skirts i g') :
    Turning i k c l x r asked d g' := by
  obtain ⟨ts, wire⟩ := skirts.wire k
  obtain ⟨ss, effect⟩ := skirts.effect
  exact ⟨by rw [skirts.wires]; exact h.present, by rw [wire]; exact h.writable,
    by rw [wire]; exact h.value, by rw [effect]; exact h.live, by rw [effect]; exact h.running,
    by rw [effect]; exact h.body, by rw [effect]; exact h.label, by rw [effect]; exact h.runs,
    by rw [effect]; exact h.rerun, skirts.depth.trans h.depth⟩

theorem countRun (h : Turning i k c l x r asked d g) :
    Turning i k c l x (r + 1) false d (g.countRun i) := by
  have effect : (g.countRun i).effect i =
      { g.effect i with rerun := false, runs := (g.effect i).runs + 1 } :=
    (effect_modifyEffect _ _ _ _).trans (if_pos ⟨rfl, effect_lt_of_not_disposed h.live⟩)
  exact ⟨h.present, h.writable, h.value, by rw [effect]; exact h.live,
    by rw [effect]; exact h.running, by rw [effect]; exact h.body, by rw [effect]; exact h.label,
    by rw [effect]; exact congrArg (· + 1) h.runs, by rw [effect], h.depth⟩

theorem setValue (h : Turning i k c l x r asked d g) (y : V) :
    Turning i k c l y r asked d (g.setValue k y) := by
  have wire : (g.setValue k y).wire k = { g.wire k with value := y } :=
    (wire_modifyWire _ _ _ _).trans (if_pos ⟨rfl, h.present⟩)
  exact ⟨Nat.lt_of_lt_of_eq h.present Array.size_modify.symm, by rw [wire]; exact h.writable,
    by rw [wire], h.live, h.running, h.body, h.label, h.runs, h.rerun, h.depth⟩

theorem enter (h : Turning i k c l x r asked d g) : Turning i k c l x r asked (d + 1) g.enter :=
  { h with depth := congrArg (· + 1) h.depth }

theorem depart (h : Turning i k c l x r asked (d + 1) g) : Turning i k c l x r asked d g.depart :=
  { h with depth := by rw [Graph.depart, h.depth]; exact Int.add_sub_cancel d 1 }

end Graph.Turning

theorem telling_idle {Γ : Setting V C H E} {Ok : H → Prop}
    (notice : ∀ m g h, Ok h → Ok (Γ.notice m g h)) :
    Telling Γ.recorded (fun _ => True) fun w w' => w'.graph.depth = w.graph.depth ∧
      (Ok w.host.host → Ok w'.host.host) ∧ ∀ i, (w.graph.effect i).running = true →
        (w'.graph.effect i).running = true ∧ (i ∈ w'.graph.queue → i ∈ w.graph.queue) ∧
        (Spared i w.host.past → Spared i w'.host.past) where
  arrange _ _ _ _ _ := trivial
  refl _ := ⟨rfl, id, fun _ running => ⟨running, id, id⟩⟩
  trans a b := ⟨b.1.trans a.1, fun host => b.2.1 (a.2.1 host), fun i running =>
    have middle := a.2.2 i running
    have last := b.2.2 i middle.1
    ⟨last.1, fun queued => middle.2.1 (last.2.1 queued), fun spared =>
      last.2.2 (middle.2.2 spared)⟩⟩
  depth h := h.1
  delivers _ _ _ _ _ _ := trivial
  tick _ := ⟨rfl, id, fun _ running => ⟨running, id, id⟩⟩
  invalidate _ _ := ⟨rfl, id, fun _ running => ⟨running, id, id⟩⟩
  requestRun {w i} _ _ := ⟨rfl, id, fun j running =>
    ⟨(Graph.effect_modifyEffect_of Effect.running (f := ({ · with rerun := true })) (fun _ => rfl)
      w.graph i j).trans running, id, id⟩⟩
  enqueue {w i} _ idle := by
    refine ⟨rfl, notice _ _ _, fun j running => ⟨running, fun queued => ?_,
      fun spared => spared.cons nofun⟩⟩
    refine (Graph.mem_adjoin.mp queued).resolve_left fun same => ?_
    rw [same, idle] at running
    cases running

/-- Effect `i` runs as `Turning` says, with `stack` open, outside of batches, while no effect waits and
none has failed. -/
structure Spinning (Γ : Setting V C H E) (Ok : H → Prop) (i k : Nat) (c : C) (l : Label) (x : V)
    (r : Nat) (asked : Bool) (stack : List Tracker) (w : World V C (Recorded V C H E)) : Prop
    extends Onlooking Γ Ok i w where
  turning : w.graph.Turning i k c l x r asked 0
  stack : w.graph.stack = stack
  queue : w.graph.queue = []
  spared : Spared i w.host.past

/-- The iterates of a function come to a value that they keep after `s` steps, and not before. -/
def Settles (eq : V → V → Bool) (f : V → V) (x : V) (s : Nat) : Prop :=
  eq (f^[s] x) (f^[s + 1] x) = true ∧ ∀ t < s, eq (f^[t] x) (f^[t + 1] x) = false

section Turn

variable {Γ : Setting V C H E} {Ok : H → Prop} (finite : Γ.Finite Ok)
variable (told : ∀ n ts t, t ∈ ts → t ∈ Γ.arrange n ts)
variable {i k r n : Nat} {c : C} {l : Label} {x : V} {w w' : World V C (Recorded V C H E)}

namespace Run

include finite told

/-- The subscribers of a wire that the effect has read are told: the effect is asked to run again. -/
theorem turns_tell {d : Int} (onlooking : Onlooking Γ Ok i w)
    (turning : w.graph.Turning i k c l x r false d) (deep : 0 < d) (empty : w.graph.queue = [])
    (subscribed : .effect i ∈ w.graph.subscribers (.wire k)) :
    Yields (tell Γ.recorded (perform Γ.recorded n) (.wire k)) w fun _ w' =>
      Onlooking Γ Ok i w' ∧ w'.graph.Turning i k c l x r true d ∧
        w'.graph.stack = w.graph.stack ∧ i ∉ w'.graph.queue ∧
        (Spared i w.host.past → Spared i w'.host.past) := by
  let _ : Preorder H :=
    { le := fun _ _ => True, le_refl := fun _ => trivial, le_trans := fun _ _ _ _ _ => trivial }
  have deep : 0 < w.graph.depth := turning.depth ▸ deep
  have marks := marks_tell told (perform_marks (fun _ _ _ => trivial) told n) (.wire k) deep
  have queues := (telling_idle finite.notice).tell_perform n (s := .wire k) (fun _ _ => trivial) deep
    fun _ _ _ _ => trivial
  have walks := (walks_tell (perform_walks Γ n) (.wire k) w onlooking.tracked).1
  have same := restores_tell Γ.recorded (perform_restores Γ.recorded n) (.wire k) w
  unfold Yields at marks ⊢
  cases tell : tell Γ.recorded (perform Γ.recorded n) (.wire k) w with
  | raised e w1 =>
    rw [tell] at marks
    exact marks
  | exhausted w1 => trivial
  | ok a w1 =>
    rw [tell] at marks walks
    rw [Stays, tell] at queues
    obtain ⟨spread, marked⟩ := marks
    obtain ⟨b, effect, -⟩ := spread.effect i
    have wire : w1.graph.wire = w.graph.wire := by
      funext j
      simp only [Graph.wire, spread.wires]
    obtain ⟨still, apart, spares⟩ := queues.2.2 i turning.running
    rw [empty] at apart
    have asked : (w1.graph.effect i).rerun = true := by
      rcases marked _ subscribed with gone | queued | ⟨-, rerun⟩
      · rw [effect] at gone
        cases turning.live.symm.trans gone
      · cases apart queued
      · exact rerun
    refine ⟨onlooking.after walks (queues.2.1 onlooking.host) spread.sameCode, ?_,
      (same w1 (by rw [tell]; rfl)).stack, fun mem => (by cases apart mem), spares⟩
    exact ⟨by rw [spread.wires]; exact turning.present, by rw [wire]; exact turning.writable,
      by rw [wire]; exact turning.value, by rw [effect]; exact turning.live, still,
      by rw [effect]; exact turning.body, by rw [effect]; exact turning.label,
      by rw [effect]; exact turning.runs, asked, spread.depth.trans turning.depth⟩

omit told in
theorem turns_leave (onlooking : Onlooking Γ Ok i w) (turning : w.graph.Turning i k c l x r asked 1)
    (apart : i ∉ w.graph.queue) (spared : Spared i w.host.past) :
    Results (leave (perform Γ.recorded n)) w
      (fun _ w' => Spinning Γ Ok i k c l x r asked w.graph.stack w')
      fun e w' => Failed i e w'.host.past := by
  cases n with
  | zero => trivial
  | succ n =>
    have departed : Onlooking Γ Ok i (w.update Graph.depart) :=
      onlooking.after (.single .depart) onlooking.host ⟨rfl, fun _ => rfl, rfl, fun _ => rfl⟩
    have turning' : w.graph.depart.Turning i k c l x r asked 0 := Graph.Turning.depart (d := 0) turning
    have drained := results_drain (n := n) finite (n * n) none departed turning'.depth apart nofun
      fun _ => spared
    have left : Results (leaveBatch Γ.recorded (perform Γ.recorded n) (n * n)) w
        (fun _ w' => Spinning Γ Ok i k c l x r asked w.graph.stack w')
        fun e w' => Failed i e w'.host.past := by
      refine (drained.of_eq (leaveBatch_outermost _ turning.depth)).mono
        (fun _ w' ⟨bystands, empty, spared⟩ => ?_) fun _ _ => id
      exact ⟨bystands.onlooking, turning'.skirts bystands.skirts, bystands.activity.stack, empty,
        spared⟩
    have performed : Results (perform Γ.recorded (n + 1) .leave) w
        (fun _ w' => Spinning Γ Ok i k c l x r asked w.graph.stack w')
        fun e w' => Failed i e w'.host.past := left.bind fun _ _ _ h => results_of_ok rfl h
    exact performed.bind fun _ _ _ h => results_of_ok rfl h

theorem turns_replaceValue (h : Spinning Γ Ok i k c l x r false [.effect i] w)
    (subscribed : .effect i ∈ w.graph.subscribers (.wire k)) (y : V) :
    Results (replaceValue Γ.recorded (perform Γ.recorded n) k x y) w
      (fun _ w' => Spinning Γ Ok i k c l y r true [.effect i] w')
      fun e w' => Failed i e w'.host.past := by
  have leads : Leads Γ w (w.opened Γ k x y) := .tail (.single (.assign k x y)) .enter
  have onlooking : Onlooking Γ Ok i (w.opened Γ k x y) :=
    h.toOnlooking.after leads (finite.notice _ _ _ h.host) ⟨rfl, fun _ => rfl, rfl, fun _ => rfl⟩
  have turning : (w.opened Γ k x y).graph.Turning i k c l y r false 1 :=
    (h.turning.setValue y).enter
  have tells := turns_tell (n := n) finite told onlooking turning Int.one_pos h.queue
    (by rw [World.subscribers_opened]; exact subscribed)
  have outside : replaceValue Γ.recorded (perform Γ.recorded n) k x y w = ensure
      (tell Γ.recorded (perform Γ.recorded n) (.wire k))
      (fun _ => leave (perform Γ.recorded n)) (w.opened Γ k x y) :=
    replaceValue_outside fun d rest on => by cases h.stack.symm.trans on
  rw [Yields] at tells
  cases hw : tell Γ.recorded (perform Γ.recorded n) (.wire k) (w.opened Γ k x y) with
  | raised e w1 =>
    rw [hw] at tells
    exact tells.elim
  | exhausted w1 =>
    rw [Results, outside, ensure_of_exhausted hw]
    trivial
  | ok a w1 =>
    rw [hw] at tells
    obtain ⟨onlooking1, turning1, stack1, apart, spares⟩ := tells
    refine Results.of_eq (outside.trans (ensure_of_ok hw)) ?_
    have stack : w1.graph.stack = [.effect i] := stack1.trans h.stack
    exact (stack ▸ turns_leave finite onlooking1 turning1 apart
      (spares (h.spared.cons fun _ _ _ eq => by cases eq))).bind fun _ _ _ h => results_of_ok rfl h

variable {plain : V → Prop} {eq : V → V → Bool} {f : V → V}
variable (compared : ∀ a b, plain a → plain b → ∀ n (w : World V C H), Ok w.host →
  Yields (perform Γ n (.script (Γ.same a b))) w fun r w' => w' = w ∧ r.isSome = eq a b)

include compared

omit told in
theorem turns_same (h : Spinning Γ Ok i k c l x r false [.effect i] w) (ha : plain a)
    (hb : plain b) :
    Yields (perform Γ.recorded n (.script (Γ.recorded.same a b))) w fun r' w' =>
      Spinning Γ Ok i k c l x r false [.effect i] w' ∧ w'.graph = w.graph ∧
        r'.isSome = eq a b := by
  have leads := (perform_walks Γ n (.script (Γ.same a b)) w h.tracked).1
  have erased := perform_recorded Γ n (.script (Γ.same a b)) w
  have gazes := ((perform_glimpses finite.modest n).1 (finite.same a b).modest w h.toBeholds).1
  have same := compared a b ha hb n w.plain h.host
  rw [Yields, ← erased] at same
  unfold Yields
  cases hw : perform Γ.recorded n (.script (Γ.recorded.same a b)) w with
  | exhausted w1 => trivial
  | raised e w1 =>
    rw [show perform Γ.recorded n (Task.script (Γ.same a b)).recorded w = _ from hw] at same
    exact same
  | ok r' w1 =>
    rw [show perform Γ.recorded n (Task.script (Γ.same a b)).recorded w = _ from hw]
      at same leads
    rw [show perform Γ.recorded n (.script (Γ.same a b).recorded) w = _ from hw] at gazes
    obtain ⟨still, equal⟩ : w1.plain = w.plain ∧ r'.isSome = eq a b := same
    have graph : w1.graph = w.graph := congrArg (fun u : World V C H => u.graph) still
    have host : w1.host.host = w.host.host := congrArg (fun u : World V C H => u.host) still
    refine ⟨⟨h.toOnlooking.after leads (host ▸ h.toOnlooking.host) (graph ▸ .refl _), ?_, ?_, ?_,
      gazes.spared h.spared⟩, graph, equal⟩
    · rw [graph]
      exact h.turning
    · rw [graph]
      exact h.stack
    · rw [graph]
      exact h.queue

theorem turns_writeWire (h : Spinning Γ Ok i k c l x r false [.effect i] w)
    (subscribed : .effect i ∈ w.graph.subscribers (.wire k)) (hx : plain x) (hy : plain y) :
    Results (writeWire Γ.recorded (perform Γ.recorded n) k y) w
      (fun _ w' => Spinning Γ Ok i k c l (if eq x y then x else y) r (!eq x y) [.effect i] w')
      fun e w' => Failed i e w'.host.past := by
  refine Results.of_eq (writeWire_apply h.turning.writable) ?_
  rw [h.turning.value]
  refine (turns_same finite compared h hx hy).results.bind fun r' w1 _ ⟨spinning, graph, equal⟩ => ?_
  cases r' with
  | some v =>
    refine results_of_ok rfl ?_
    rw [← equal]
    exact spinning
  | none =>
    rw [← equal]
    exact turns_replaceValue finite told spinning (by rw [graph]; exact subscribed) y

variable (code : Γ.body c = .read (.wire k) fun v => .write k (f v) (.done none))

include code

theorem turns_script (h : Spinning Γ Ok i k c l x r false [.effect i] w) (hx : plain x)
    (hy : plain (f x)) :
    Results (perform Γ.recorded n (.script (Γ.recorded.body c))) w
      (fun _ w' => Spinning Γ Ok i k c l (if eq x (f x) then x else f x) r (!eq x (f x))
        [.effect i] w') fun e w' => Failed i e w'.host.past := by
  cases n with
  | zero => trivial
  | succ n =>
    have script : Γ.recorded.body c =
        .read (.wire k) fun v => .write k (f v) (.done none) := by
      change (Γ.body c).recorded = _
      rw [code]
      rfl
    have there := h.turning.present
    have ran : perform Γ.recorded (n + 1) (.script (Γ.recorded.body c)) w =
        (writeWire Γ.recorded (perform Γ.recorded n) k (f x) >>= fun _ => Pure.pure none)
          (w.read Γ.recorded (.wire k) x) := by
      rw [script]
      change (readSource Γ.recorded (perform Γ.recorded n) (.wire k) >>= _) w = _
      rw [bind_of_ok (readSource_wire there), h.turning.value]
      rfl
    have relinks := Graph.relinks_track w.graph (.wire k)
    have read : Spinning Γ Ok i k c l x r false [.effect i]
        (w.read Γ.recorded (.wire k) x) := by
      have leads : Leads Γ w (w.read Γ.recorded (.wire k) (w.graph.wire k).value) :=
        .single (.readWire there)
      rw [h.turning.value] at leads
      exact ⟨h.toOnlooking.after leads (finite.notice _ _ _ h.host) relinks.sameCode,
        h.turning.skirts relinks.skirts, relinks.stack.trans h.stack, relinks.queue.trans h.queue,
        h.spared.cons nofun⟩
    have subscribed : .effect i ∈ (w.read Γ.recorded (.wire k) x).graph.subscribers (.wire k) := by
      change .effect i ∈ (w.graph.track (.wire k)).subscribers (.wire k)
      rw [Graph.track, h.stack]
      exact (Graph.mem_subscribers_link (s := .wire k) there).mpr (.inl ⟨rfl, rfl⟩)
    refine Results.of_eq ran ?_
    exact (turns_writeWire finite told compared read subscribed hx hy).bind
      fun _ _ _ h => results_of_ok rfl h

theorem turns_runTracked (h : Spinning Γ Ok i k c l x r false [] w) (hx : plain x)
    (hy : plain (f x)) :
    Results (runTracked Γ.recorded (perform Γ.recorded n) (.effect i)) w
      (fun _ w' => Spinning Γ Ok i k c l (if eq x (f x) then x else f x) r (!eq x (f x)) [] w')
      fun e w' => Failed i e w'.host.past := by
  have off : .effect i ∉ w.graph.stack := by
    rw [h.stack]
    exact List.not_mem_nil
  have relinks := Graph.relinks_forget w.graph (.effect i)
  have skirts := relinks.skirts.trans (Graph.skirts_push (i := i) (w.graph.forget (.effect i)) (.effect i))
  have begun : Spinning Γ Ok i k c l x r false [.effect i]
      (w.begin Γ.recorded (.effect i)) :=
    ⟨h.toOnlooking.after (.single (.begin off ⟨h.turning.running, h.turning.live⟩))
      (finite.notice _ _ _ h.host) skirts.code, h.turning.skirts skirts,
      congrArg (Tracker.effect i :: ·) (relinks.stack.trans h.stack), relinks.queue.trans h.queue,
      h.spared.cons nofun⟩
  have ran := turns_script (n := n) finite told compared code begun hx hy
  have body : (w.begin Γ.recorded (.effect i)).graph.body (.effect i) = c := begun.turning.body
  rw [Results, ← body] at ran
  cases hw : perform Γ.recorded n (.script (Γ.recorded.body
      ((w.begin Γ.recorded (.effect i)).graph.body (.effect i))))
      (w.begin Γ.recorded (.effect i)) with
  | exhausted w1 =>
    rw [Results, runTracked_of_exhausted hw]
    trivial
  | raised e w1 =>
    rw [hw] at ran
    obtain ⟨y, mem, hy⟩ := ran
    exact results_of_raised (runTracked_of_raised hw) ⟨y, List.mem_cons_of_mem _ mem, hy⟩
  | ok a w1 =>
    rw [hw, body] at ran
    have glances := Graph.glances_pop w1.graph
    refine results_of_ok (runTracked_of_ok hw) ⟨?_, ran.turning.skirts glances.skirts, ?_, ran.queue,
      ran.spared.cons nofun⟩
    · exact ran.toOnlooking.after (.single (.finish none ran.stack)) (finite.notice _ _ _ ran.host)
        glances.code
    · exact congrArg List.tail ran.stack

theorem turns_settle (closed : ∀ a, plain a → plain (f a)) (m : Nat)
    (h : Spinning Γ Ok i k c l x r asked [] w) (hx : plain x) :
    Results (settle Γ.recorded (perform Γ.recorded n) i m) w
      (fun _ w' => ∃ s < m, Settles eq f x s ∧ Spinning Γ Ok i k c l (f^[s] x) (r + s + 1) false [] w')
      fun e w' => Failed i e w'.host.past ∨ (∀ s < m, eq (f^[s] x) (f^[s + 1] x) = false) ∧
        e = Γ.fault (.retriggering l) ∧ (w'.graph.effect i).runs = r + m ∧
          (w'.graph.wire k).value = f^[m] x ∧ Spared i w'.host.past := by
  induction m generalizing w x r asked with
  | zero =>
    refine results_of_raised (settle_zero i w) (.inr ⟨nofun, ?_, h.turning.runs,
      h.turning.value, h.spared.cons nofun⟩)
    exact congrArg (fun l => Γ.fault (.retriggering l)) h.turning.label
  | succ m ih =>
    have counted : Spinning Γ Ok i k c l x (r + 1) false [] (w.update (·.countRun i)) :=
      ⟨h.toOnlooking.after (.single (.countRun h.turning.running h.turning.live)) h.host
        (Graph.sameCode_modifyEffect _ _ fun _ => rfl), h.turning.countRun, h.stack, h.queue, h.spared⟩
    refine Results.of_eq (settle_succ i m w) ?_
    refine ((turns_runTracked (n := n) finite told compared code counted hx (closed x hx)).mono
      (fun _ _ => id) fun _ _ => .inl).bind fun _ w1 _ spinning => ?_
    have rerun := spinning.turning.rerun
    have live := spinning.turning.live
    refine Results.of_eq (graph_bind _ w1) ?_
    rw [rerun, live]
    cases same : eq x (f x) with
    | true =>
      rw [same] at spinning
      exact results_of_ok rfl ⟨0, Nat.succ_pos m, ⟨same, nofun⟩, spinning⟩
    | false =>
      rw [same] at spinning
      have first {s : Nat} (rest : ∀ t < s, eq (f^[t] (f x)) (f^[t + 1] (f x)) = false) (t : Nat)
          (before : t < s + 1) : eq (f^[t] x) (f^[t + 1] x) = false := by
        cases t with
        | zero => exact same
        | succ t => exact rest t (Nat.lt_of_succ_lt_succ before)
      refine (ih spinning (closed x hx)).mono (fun _ w' ⟨s, before, ⟨fixed, rest⟩, ended⟩ => ?_)
        fun e w' => .imp_right fun ⟨rest, fault, runs, value, spared⟩ => ?_
      · refine ⟨s + 1, Nat.succ_lt_succ before, ⟨fixed, first rest⟩, ?_⟩
        rw [Nat.add_right_comm r 1 s] at ended
        exact ended
      · refine ⟨first rest, fault, ?_, value, spared⟩
        rw [runs]
        omega

end Run

end Turn

/-! ## Making the effect -/

/-- A world at rest, in which trackers only read. -/
structure World.ReadOnly (Γ : Setting V C H E) (Ok : H → Prop) (w : World V C H) : Prop where
  host : Ok w.host
  quiet : w.graph.Quiet
  converse : w.graph.Converse
  effect : ∀ j < w.graph.effects.size, (Γ.body (w.graph.effect j).body).Finite Γ Ok false
  derived : ∀ d < w.graph.deriveds.size, (Γ.body (w.graph.derived d).body).Finite Γ Ok false

/-- Effect `i` has run until wire `k`, which held `v`, was given the value that it had. -/
def Landed (eq : V → V → Bool) (f : V → V) (i k : Nat) (v : V) (g : Graph V C) : Prop :=
  ∃ s ≤ maxReruns, Settles eq f v s ∧ (g.effect i).runs = s + 1 ∧ (g.wire k).value = f^[s] v

/-- Effect `i` has run as often as it may, and would give wire `k`, which held `v`, other values. -/
def Overshot (eq : V → V → Bool) (f : V → V) (i k : Nat) (v : V) (g : Graph V C) : Prop :=
  (∀ s ≤ maxReruns, eq (f^[s] v) (f^[s + 1] v) = false) ∧ (g.effect i).runs = maxReruns + 1 ∧
    (g.wire k).value = f^[maxReruns + 1] v

section Making

variable {Γ : Setting V C H E} {Ok : H → Prop} {w : World V C H}

theorem World.ReadOnly.tame (h : w.ReadOnly Γ Ok) : w.Tame Γ Ok :=
  ⟨h.host, Int.le_of_eq h.quiet.depth.symm, fun j there => (h.effect j there).writes, h.derived⟩

theorem World.ReadOnly.spinning (h : w.ReadOnly Γ Ok) (present : k < w.graph.wires.size)
    (writable : (w.graph.wire k).frozen = false) (c : C) (l : Label) :
    Spinning Γ Ok w.graph.effects.size k c l (w.graph.wire k).value 0 false []
      ((w.recording.update (·.addEffect l c)).update (·.setRunning w.graph.effects.size true)) := by
  have size : (w.graph.addEffect l c).effects.size = w.graph.effects.size + 1 := Array.size_push _
  have effect (j : Nat) : ((w.graph.addEffect l c).setRunning w.graph.effects.size true).effect j =
      if j = w.graph.effects.size then ⟨l, c, 0, false, true, false, []⟩ else w.graph.effect j := by
    rw [Graph.setRunning, Graph.effect_modifyEffect, Graph.effect_addEffect, size]
    by_cases same : j = w.graph.effects.size
    · simp [same]
    · simp [same, Ne.symm same]
  have made := (effect w.graph.effects.size).trans (if_pos rfl)
  have tracked : Tracked (w.recording : World V C (Recorded V C H E)) :=
    tracked_recording h.converse h.quiet.stack
  have off : .effect w.graph.effects.size ∉ (w.graph.addEffect l c).stack := by
    change _ ∉ w.graph.stack
    rw [h.quiet.stack]
    exact List.not_mem_nil
  refine ⟨⟨⟨(tracked.addEffect l c).setRunning _ true off, h.host, h.derived⟩,
    Array.size_modify.trans size, fun j before => ?_⟩, ⟨present, writable, rfl, ?_, ?_, ?_, ?_, ?_, ?_,
    h.quiet.depth⟩, h.quiet.stack, h.quiet.queue, fun e failed => by cases failed.choose_spec.1⟩
  · change (Γ.body (((w.graph.addEffect l c).setRunning _ true).effect j).body).Finite _ _ _
    rw [effect, if_neg (Nat.ne_of_lt before)]
    exact h.effect j before
  all_goals exact (congrArg _ made :)

variable (finite : Γ.Finite Ok) (told : ∀ n ts t, t ∈ ts → t ∈ Γ.arrange n ts)
variable {plain : V → Prop} {eq : V → V → Bool} {f : V → V} {k : Nat} {c : C}
variable (compared : ∀ a b, plain a → plain b → ∀ n (w : World V C H), Ok w.host →
  Run.Yields (Run.perform Γ n (.script (Γ.same a b))) w fun r w' =>
    w' = w ∧ r.isSome = eq a b)
variable (closed : ∀ a, plain a → plain (f a))
variable (code : Γ.body c = .read (.wire k) fun v => .write k (f v) (.done none))

include finite told compared closed code

theorem results_newEffect (h : w.ReadOnly Γ Ok) (present : k < w.graph.wires.size)
    (writable : (w.graph.wire k).frozen = false) (hv : plain (w.graph.wire k).value) (l : Label)
    (n : Nat) :
    Run.Results (Run.perform Γ.recorded n (.script (.newEffect l c fun _ => .done none)))
      w.recording
      (fun a w' => a = none ∧ Spared w.graph.effects.size w'.host.past ∧
        Landed eq f w.graph.effects.size k (w.graph.wire k).value w'.graph)
      fun e w' => Failed w.graph.effects.size e w'.host.past ∨ e = Γ.fault (.retriggering l) ∧
        Spared w.graph.effects.size w'.host.past ∧
        Overshot eq f w.graph.effects.size k (w.graph.wire k).value w'.graph := by
  match n with
  | 0 | 1 => trivial
  | n + 2 =>
    have settled := Run.turns_settle (n := n) finite told compared code closed (maxReruns + 1)
      (h.spinning present writable c l) hv
    have made := Graph.effect_addEffect w.graph l c w.graph.effects.size
    rw [if_pos rfl] at made
    have executed : Run.executeEffect Γ.recorded (Run.perform Γ.recorded n)
        w.graph.effects.size (w.recording.update (·.addEffect l c)) =
        Run.runEffect Γ.recorded (Run.perform Γ.recorded n) w.graph.effects.size
          (w.recording.update (·.addEffect l c)) :=
      Run.executeEffect_now (congrArg Effect.disposed made :) (congrArg Effect.running made :)
        (Int.not_lt.mpr (Int.le_of_eq h.quiet.depth))
    have stopped (w' : World V C (Recorded V C H E)) :
        (((w'.update (·.setRunning w.graph.effects.size false)).graph.effect w.graph.effects.size).runs =
          (w'.graph.effect w.graph.effects.size).runs) :=
      Graph.effect_modifyEffect_of Effect.runs (f := ({ · with running := false })) (fun _ => rfl) _ _ _
    have ran : Run.Results (Run.executeEffect Γ.recorded (Run.perform Γ.recorded n)
        w.graph.effects.size) (w.recording.update (·.addEffect l c))
        (fun _ w' => Spared w.graph.effects.size w'.host.past ∧
          Landed eq f w.graph.effects.size k (w.graph.wire k).value w'.graph)
        fun e w' => Failed w.graph.effects.size e w'.host.past ∨ e = Γ.fault (.retriggering l) ∧
          Spared w.graph.effects.size w'.host.past ∧
          Overshot eq f w.graph.effects.size k (w.graph.wire k).value w'.graph := by
      refine .of_eq (executed.trans (Run.runEffect_apply _ _)) (settled.mono ?_ ?_).ensure_modify
      · intro _ w' ⟨s, before, first, ended⟩
        refine ⟨ended.spared, s, Nat.le_of_lt_succ before, first, ?_, ended.turning.value⟩
        rw [stopped, ended.turning.runs, Nat.zero_add]
      · refine fun e w' => .imp_right fun ⟨rest, fault, runs, value, spared⟩ =>
          ⟨fault, spared, ?_, ?_, value⟩
        · exact fun s before => rest s (Nat.lt_succ_of_le before)
        · rw [stopped, runs, Nat.zero_add]
    have performed : Run.Results (Run.perform Γ.recorded (n + 1)
        (.execute (.effect w.graph.effects.size))) (w.recording.update (·.addEffect l c))
        (fun _ w' => Spared w.graph.effects.size w'.host.past ∧
          Landed eq f w.graph.effects.size k (w.graph.wire k).value w'.graph) _ :=
      ran.bind fun _ _ _ h => Run.results_of_ok rfl h
    exact performed.bind fun _ _ _ h => Run.results_of_ok rfl ⟨rfl, h⟩

end Making

theorem Settles.unique (hs : Settles eq f x s) (ht : Settles eq f x t) : s = t := by
  rcases Nat.lt_trichotomy s t with before | same | after
  · exact absurd hs.1 (Bool.eq_false_iff.mp (ht.2 s before))
  · exact same
  · exact absurd ht.1 (Bool.eq_false_iff.mp (hs.2 t after))

/-- Effects that write what they read settle at the fixed point. Where trackers only read, an effect is
made outside of batches that gives a wire which may be written the value of a function at the one it
holds, for values whose comparison changes nothing. If a run of another effect fails, such a fault is
raised. If none does: if the iterates of the function settle after `s` steps, and `s` is at most
`maxReruns`, then the effect is made, has run `s + 1` times and the wire holds the iterate; and if they
do not, the effect is refused after one run more than `maxReruns`. -/
theorem self_writes_settle {setting : Setting V C H E} {Ok : H → Prop} (finite : setting.Finite Ok)
    (told : ∀ n ts t, t ∈ ts → t ∈ setting.arrange n ts) {plain : V → Prop} {eq : V → V → Bool}
    (compared : ∀ a b, plain a → plain b → ∀ n (w : World V C H), Ok w.host →
      Run.Yields (Run.perform setting n (.script (setting.same a b))) w fun r w' =>
        w' = w ∧ r.isSome = eq a b)
    {f : V → V} (closed : ∀ a, plain a → plain (f a)) {k : Nat} {c : C}
    (code : setting.body c = .read (.wire k) fun v => .write k (f v) (.done none)) {w : World V C H}
    (readOnly : w.ReadOnly setting Ok) (present : k < w.graph.wires.size)
    (writable : (w.graph.wire k).frozen = false) {v : V} (holds : (w.graph.wire k).value = v)
    (hv : plain v) (l : Label) {i : Nat} (size : w.graph.effects.size = i) :
    ∃ N, ∀ n, N ≤ n →
      let making := Run.perform setting n (.script (.newEffect l c fun _ => .done none)) w
      let past := shown setting n (.newEffect l c fun _ => .done none) w
      ((∃ e, Failed i e past) → ∃ e w', making = .raised e w' ∧ Failed i e past) ∧
      (Spared i past →
        (∀ s ≤ maxReruns, Settles eq f v s → ∃ w', making = .ok none w' ∧
          (w'.graph.effect i).runs = s + 1 ∧ (w'.graph.wire k).value = f^[s] v) ∧
        ((∀ s ≤ maxReruns, eq (f^[s] v) (f^[s + 1] v) = false) → ∃ w',
          making = .raised (setting.fault (.retriggering l)) w' ∧
            (w'.graph.effect i).runs = maxReruns + 1 ∧
            (w'.graph.wire k).value = f^[maxReruns + 1] v)) := by
  subst size holds
  have script : (setting.body c).Finite setting Ok true := by
    rw [code]
    exact .read fun _ => .write rfl (.done none)
  obtain ⟨N, ends⟩ := Run.ended_of_terminates (Run.terminates_newEffect finite readOnly.tame l script)
  refine ⟨N, fun n enough => ?_⟩
  have results := results_newEffect finite told compared closed code readOnly present writable hv l n
  have erased := perform_recording setting n (.newEffect l c fun _ => .done none) w []
  rw [Run.Results] at results
  have ended := ends n enough
  dsimp only
  rw [shown]
  cases hw : Run.perform setting.recorded n
      (.script (Script.recorded (.newEffect l c fun _ => .done none))) w.recording with
  | exhausted w1 =>
    rw [← erased, hw] at ended
    cases ended
  | ok a w1 =>
    rw [show Run.perform setting.recorded n (.script (.newEffect l c fun _ => .done none)) w.recording =
      _ from hw] at results
    obtain ⟨rfl, spared, s, few, first, runs, value⟩ := results
    rw [← erased, hw]
    refine ⟨fun ⟨e, failed⟩ => absurd failed (spared e), fun _ => ⟨fun t _ settles => ?_, fun never => ?_⟩⟩
    · rw [settles.unique first]
      exact ⟨w1.plain, rfl, runs, value⟩
    · exact absurd first.1 (Bool.eq_false_iff.mp (never s few))
  | raised e w1 =>
    rw [show Run.perform setting.recorded n (.script (.newEffect l c fun _ => .done none)) w.recording =
      _ from hw] at results
    rw [← erased, hw]
    rcases results with failed | ⟨rfl, spared, never, runs, value⟩
    · exact ⟨fun _ => ⟨e, w1.plain, rfl, failed⟩, fun spared => absurd failed (spared e)⟩
    · refine ⟨fun ⟨e, failed⟩ => absurd failed (spared e), fun _ => ⟨fun s few settles => ?_,
        fun _ => ⟨w1.plain, rfl, runs, value⟩⟩⟩
      exact absurd settles.1 (Bool.eq_false_iff.mp (never s few))

/-- Code that lowers a wire by one, code that raises it by one, and code that fails where it reads one. -/
def stepping : Setting Nat Nat Unit String where
  body
    | 0 => .read (.wire 0) fun v => .write 0 (v - 1) (.done none)
    | 1 => .read (.wire 0) fun v => .write 0 (v + 1) (.done none)
    | _ => .read (.wire 0) fun v => if v = 1 then .raise "one" else .done none
  same a b := .done (if a = b then some a else none)
  fault f := f.message?.getD ""
  caught _ := true
  catches _ := rfl
  arrange _ ts := ts
  notice _ _ h := h

theorem stepping_finite : stepping.Finite fun _ => True :=
  ⟨fun _ _ => .done _, fun _ _ => List.Subset.refl _, fun _ _ _ _ => trivial⟩

theorem stepping_compares (a b : Nat) (n : Nat) (w : World Nat Nat Unit) :
    Run.Yields (Run.perform stepping n (.script (stepping.same a b))) w fun r w' =>
      w' = w ∧ r.isSome = decide (a = b) := by
  cases n with
  | zero => trivial
  | succ n =>
    refine Run.yields_of_ok (a := if a = b then some a else none) rfl ⟨rfl, ?_⟩
    split <;> simp [*]

def single (v : Nat) : World Nat Nat Unit :=
  ⟨{ wires := #[⟨v, false, []⟩] }, ()⟩

theorem single_readOnly (v : Nat) : (single v).ReadOnly stepping fun _ => True where
  host := trivial
  quiet := ⟨⟨rfl, rfl, fun _ => rfl, fun _ => rfl⟩, rfl⟩
  converse := Graph.converse_of_unlinked (fun t => by cases t <;> rfl) fun s => by
    cases s with
    | wire j => cases j <;> rfl
    | derived d => rfl
  effect _ absent := nomatch absent
  derived _ absent := nomatch absent

/-- From three down to zero an effect runs four times, and upwards it is stopped. -/
theorem self_writes_settle_stepping : ∃ N, ∀ n, N ≤ n →
    (∃ w', Run.perform stepping n (.script (.newEffect (.named "down") 0 fun _ => .done none)) (single 3) =
      .ok none w' ∧ (w'.graph.effect 0).runs = 4 ∧ (w'.graph.wire 0).value = 0) ∧
    ∃ w', Run.perform stepping n (.script (.newEffect (.named "up") 1 fun _ => .done none))
    (single 3) =
      .raised "Effect keeps re-triggering itself (fn=up)" w' ∧ (w'.graph.effect 0).runs = 101 ∧
        (w'.graph.wire 0).value = 104 := by
  obtain ⟨N, down⟩ := self_writes_settle stepping_finite (fun _ _ _ mem => mem)
    (fun a b (_ _ : True) n w _ => stepping_compares a b n w) (f := (· - 1)) (fun _ _ => trivial) (c := 0) rfl
    (single_readOnly 3) (k := 0) Nat.one_pos rfl rfl trivial (.named "down") rfl
  obtain ⟨M, up⟩ := self_writes_settle stepping_finite (fun _ _ _ mem => mem)
    (fun a b (_ _ : True) n w _ => stepping_compares a b n w) (f := (· + 1)) (fun _ _ => trivial) (c := 1) rfl
    (single_readOnly 3) (k := 0) Nat.one_pos rfl rfl trivial (.named "up") rfl
  have spared (past : List (Sight Nat Nat String)) : Spared 0 past :=
    fun _ ⟨_, _, _, before, _⟩ => nomatch before
  refine ⟨max N M, fun n enough => ⟨?_, ?_⟩⟩
  · exact ((down n (Nat.le_trans (Nat.le_max_left N M) enough)).2 (spared _)).1 3 (by decide)
      ⟨rfl, by decide⟩
  · exact ((up n (Nat.le_trans (Nat.le_max_right N M) enough)).2 (spared _)).2 (by decide)

def alerted : World Nat Nat Unit :=
  ⟨{ wires := #[⟨3, false, [.effect 0]⟩]
     effects := #[⟨.named "alert", 2, 1, false, false, false, [.wire 0]⟩] }, ()⟩

/-- The fault of an effect that only reads leaves the write of another effect, which does not settle
though its iterates do. -/
theorem failing_reader_stops_effect : Settles (fun a b : Nat => decide (a = b)) (· - 1) 3 3 ∧
    let ended := Run.perform stepping 20 (.script (.newEffect (.named "down") 0 fun _ => .done none)) alerted
    ended.fault? = some "one" ∧ (ended.world.graph.effect 1).runs = 2 ∧
      (ended.world.graph.wire 0).value = 1 :=
  ⟨⟨rfl, by decide⟩, by decide +kernel⟩

end AttrBinder.Reactive
