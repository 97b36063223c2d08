import AttrBinder.Proofs.Reactive.Quiet

/-!
Which fault leaves a run. Where no code hands faults to a handler, the effects that fail decide:
outside of batches the first fault that no flush catches leaves every run that it happens in, through
all the flushes that are nested there, and if there is none the first fault does; in a batch no
effect runs at all. Running an effect and ending a batch raise nothing else (`perform_reports`).
-/

namespace AttrBinder.Reactive

variable {V C H E : Type}

/-- No fault is handed to a handler, in a script that runs in worlds whose host satisfies `Ok`. -/
def Script.CatchFree (Ok : H → Prop) : Script V C H E → Prop
  | .done _ => True
  | .raise _ => True
  | .look next => ∀ g h, Ok h → (next g h).CatchFree Ok
  | .replace h next => Ok h ∧ next.CatchFree Ok
  | .read _ next => ∀ v, (next v).CatchFree Ok
  | .newWire _ next => ∀ i, (next i).CatchFree Ok
  | .write _ _ next => next.CatchFree Ok
  | .freeze _ next => next.CatchFree Ok
  | .newDerived _ _ next => ∀ i, (next i).CatchFree Ok
  | .newEffect _ _ next => ∀ i, (next i).CatchFree Ok
  | .execute _ next => next.CatchFree Ok
  | .dispose _ next => next.CatchFree Ok
  | .startBatch next => next.CatchFree Ok
  | .endBatch next => next.CatchFree Ok
  | .batch body next => body.CatchFree Ok ∧ ∀ r, (next r).CatchFree Ok
  | .attempt _ _ => False
  | .call _ next => ∀ r, (next r).CatchFree Ok

structure Setting.CatchFree (Γ : Setting V C H E) (Ok : H → Prop) : Prop where
  body : ∀ c, (Γ.body c).CatchFree Ok
  same : ∀ a b, (Γ.same a b).CatchFree Ok

def Task.CatchFree (Ok : H → Prop) : Task V C H E → Prop
  | .script s => s.CatchFree Ok
  | _ => True

variable [Inhabited V] [Inhabited C]

/-- The fault that leaves an effect: its code raised it, or the effect has run too often. -/
def Sight.failure? (Γ : Setting V C H E) (x : Sight V C E) : Option E :=
  match x.moment with
  | some (.ended (.effect _) failure) => failure
  | some (.overran i) => some (Γ.fault (.retriggering (x.graph.effect i).label))
  | _ => none

/-- The failures that a record tells of, first one first. -/
def failures (Γ : Setting V C H E) (past : List (Sight V C E)) : List E :=
  past.reverse.filterMap (Sight.failure? Γ)

omit [Inhabited V] in
theorem failures_append (Γ : Setting V C H E) (later earlier : List (Sight V C E)) :
    failures Γ (later ++ earlier) = failures Γ earlier ++ failures Γ later := by
  rw [failures, List.reverse_append, List.filterMap_append]
  rfl

namespace Setting

variable {Γ : Setting V C H E}

/-- The failure that is raised in the end: the first that no flush catches, or else the first one
after one that is given. -/
def leading (Γ : Setting V C H E) (former : Option E) (fs : List E) : Option E :=
  (fs.find? fun e => !Γ.caught e).or (former.or fs.head?)

omit [Inhabited V] [Inhabited C] in
theorem leading_nil (former : Option E) : Γ.leading former [] = former := by
  simp [leading]

omit [Inhabited V] [Inhabited C] in
theorem leading_singleton (e : E) : Γ.leading none [e] = some e := by
  cases hc : Γ.caught e <;> simp [leading, hc]

omit [Inhabited V] [Inhabited C] in
theorem leading_eq_none : Γ.leading none fs = none ↔ fs = [] := by
  cases fs <;> simp [leading]

omit [Inhabited V] [Inhabited C] in
theorem leading_of_caught (h : Γ.leading none fs = some e) (caught : Γ.caught e = true)
    (former : Option E) (later : List E) :
    Γ.leading (former.or (some e)) later = Γ.leading former (fs ++ later) := by
  have none_escapes : fs.find? (fun e => !Γ.caught e) = none := by
    cases found : fs.find? fun e => !Γ.caught e with
    | none => rfl
    | some x =>
      rw [leading, found] at h
      cases h
      have escapes := List.find?_some found
      simp [caught] at escapes
  have first : fs.head? = some e := by
    rw [leading, none_escapes] at h
    exact h
  rw [leading, leading, List.find?_append, none_escapes, List.head?_append, first, Option.or_assoc]
  rfl

omit [Inhabited V] [Inhabited C] in
theorem find?_of_escaped (h : Γ.leading none fs = some e) (escapes : Γ.caught e = false) :
    fs.find? (fun e => !Γ.caught e) = some e := by
  cases found : fs.find? fun e => !Γ.caught e with
  | some x =>
    rw [leading, found] at h
    exact h
  | none =>
    rw [leading, found] at h
    have caught := List.find?_eq_none.mp found e (List.mem_of_head? h)
    simp [escapes] at caught

omit [Inhabited V] [Inhabited C] in
theorem leading_of_escaped (h : Γ.leading none fs = some e) (escapes : Γ.caught e = false)
    (former : Option E) : Γ.leading former fs = some e := by
  rw [leading, find?_of_escaped h escapes]
  rfl

omit [Inhabited V] [Inhabited C] in
/-- A failure that passes on what leads before it changes nothing. -/
theorem leading_append_self {failure : Option E} (h : fs ≠ [] → failure = Γ.leading none fs) :
    Γ.leading none (fs ++ failure.toList) = failure := by
  cases failure with
  | none =>
    rw [Option.toList_none, List.append_nil, leading_eq_none]
    by_contra failed
    exact failed (leading_eq_none.mp (h failed).symm)
  | some e =>
    by_cases empty : fs = []
    · subst empty
      exact leading_singleton e
    · have led := (h empty).symm
      cases hc : Γ.caught e with
      | true =>
        rw [← leading_of_caught led hc none, leading]
        simp [hc]
      | false =>
        rw [leading, List.find?_append, find?_of_escaped led hc]
        rfl

end Setting

namespace Run

variable {α β : Type}

def Reports (m : Run V C (Recorded V C H E) E α) (w : World V C (Recorded V C H E))
    (P : List (Sight V C E) → Option E → Prop) : Prop :=
  ∀ w', (m w).ended? = some w' → ∃ new, w'.host.past = new ++ w.host.past ∧ P new (m w).fault?

section Reports

variable {w : World V C (Recorded V C H E)} {P Q : List (Sight V C E) → Option E → Prop}

omit [Inhabited V] [Inhabited C] in
theorem reports_of_eq (hm : m w = o) (new : List (Sight V C E))
    (past : o.world.host.past = new ++ w.host.past)
    (h : P new o.fault?) : Reports m w P := by
  intro w' ends
  rw [hm] at ends ⊢
  exact ⟨new, Outcome.world_of_ended? ends ▸ past, h⟩

omit [Inhabited V] [Inhabited C] in
theorem Reports.of_eq {m m' : Run V C (Recorded V C H E) E α} {w' : World V C (Recorded V C H E)}
    (hm : Reports m' w' P) (same : m w = m' w') (past : w'.host.past = w.host.past) :
    Reports m w P := by
  intro u ends
  rw [same] at ends ⊢
  exact past ▸ hm u ends

omit [Inhabited V] [Inhabited C] in
theorem Reports.mono {m : Run V C (Recorded V C H E) E α} (hm : Reports m w P)
    (h : ∀ new failure, P new failure → Q new failure) : Reports m w Q := by
  intro w' ends
  obtain ⟨new, past, holds⟩ := hm w' ends
  exact ⟨new, past, h _ _ holds⟩

omit [Inhabited V] [Inhabited C] in
theorem Reports.bind {m : Run V C (Recorded V C H E) E α} {f : α → Run V C (Recorded V C H E) E β}
    (hm : Reports m w P) (raised : ∀ new e, P new (some e) → Q new (some e))
    (next : ∀ a w', m w = .ok a w' →
      Reports (f a) w' fun later failure => ∀ new, P new none → Q (later ++ new) failure) :
    Reports (m >>= f) w Q := by
  intro w' ends
  cases hw : m w with
  | exhausted w1 =>
    rw [bind_of_exhausted hw] at ends
    cases ends
  | raised e w1 =>
    rw [bind_of_raised hw] at ends ⊢
    obtain ⟨new, past, holds⟩ := hm w' (by rw [hw]; exact ends)
    rw [hw] at holds
    exact ⟨new, past, raised new e holds⟩
  | ok a w1 =>
    obtain ⟨new, past, holds⟩ := hm w1 (by rw [hw]; rfl)
    rw [hw] at holds
    rw [bind_of_ok hw] at ends ⊢
    obtain ⟨later, past', after⟩ := next a w1 hw w' ends
    exact ⟨later ++ new, by rw [past', past, List.append_assoc], after new holds⟩

omit [Inhabited V] [Inhabited C] in
theorem Reports.ensure {m : Run V C (Recorded V C H E) E α}
    {close : Option E → Run V C (Recorded V C H E) E Unit} (hm : Reports m w P)
    (hclose : ∀ former w', (m w).ended? = some w' → Reports (close former) w' fun later failure =>
      ∀ new, P new former → Q (later ++ new) (failure.or former)) :
    Reports (ensure m close) w Q := by
  -- `k` raises what the first part has raised, if it has.
  have closed (former : Option E) (k : Run V C (Recorded V C H E) E α)
      {w1 : World V C (Recorded V C H E)} (ended : (m w).ended? = some w1)
      (raised : (m w).fault? = former) (still : ∀ w, (k w).ended? = some w)
      (fault : ∀ w, (k w).fault? = former) (same : Run.ensure m close w =
        (close former >>= fun _ => k) w1) : Reports (Run.ensure m close) w Q := by
    intro w' ends
    rw [same] at ends ⊢
    obtain ⟨new, past, holds⟩ := hm w1 ended
    rw [raised] at holds
    have after := (hclose former w1 ended).bind (f := fun _ => k)
      (Q := fun later failure => ∀ new, P new former → Q (later ++ new) failure)
      (fun later e h new holds => h new holds) fun _ w2 _ => by
        intro w3 ends
        rw [still] at ends
        cases ends
        exact ⟨[], rfl, fun later h new holds => (fault w2).symm ▸ h new holds⟩
    obtain ⟨later, past', h⟩ := after w' ends
    exact ⟨later ++ new, by rw [past', past, List.append_assoc], h new holds⟩
  cases hw : m w with
  | exhausted w1 =>
    intro w' ends
    rw [ensure_of_exhausted hw] at ends
    cases ends
  | raised e w1 =>
    exact closed (some e) (raise e) (by rw [hw]; rfl) (by rw [hw]; rfl)
      (fun _ => rfl) (fun _ => rfl) (ensure_of_raised hw)
  | ok a w1 =>
    exact closed none (Pure.pure a) (by rw [hw]; rfl) (by rw [hw]; rfl)
      (fun _ => rfl) (fun _ => rfl) (ensure_of_ok hw)

omit [Inhabited V] [Inhabited C] in
theorem Reports.ensure_modify (hm : Reports m w P)
    (f : Graph V C → Graph V C) : Reports (Run.ensure m fun _ => modify f) w P :=
  hm.ensure fun _ _ _ => reports_of_eq rfl [] rfl fun _ holds => holds

end Reports

/-- Outside of batches the leading failure leaves the run; in a batch there is none. -/
def Candid (Γ : Setting V C H E) (Ok : H → Prop) (m : Run V C (Recorded V C H E) E α)
    (w : World V C (Recorded V C H E)) : Prop :=
  Ok w.host.host → 0 ≤ w.graph.depth → Reports m w fun new failure =>
    failures Γ new ≠ [] → w.graph.depth = 0 ∧ failure = Γ.leading none (failures Γ new)

/-- A run outside of batches that raises the leading failure, after one that is given, and nothing
else. -/
def Exact (Γ : Setting V C H E) (Ok : H → Prop) (former : Option E)
    (m : Run V C (Recorded V C H E) E α) (w : World V C (Recorded V C H E)) : Prop :=
  Ok w.host.host → w.graph.depth = 0 → Reports m w fun new failure =>
    failure = Γ.leading former (failures Γ new)

/-- The end of a batch that raises the leading failure and nothing else. An inner batch has none. -/
def Honest (Γ : Setting V C H E) (Ok : H → Prop) (m : Run V C (Recorded V C H E) E α)
    (w : World V C (Recorded V C H E)) : Prop :=
  Ok w.host.host → 0 < w.graph.depth → Reports m w fun new failure =>
    failure = Γ.leading none (failures Γ new) ∧ (1 < w.graph.depth → failures Γ new = [])

section Rules

variable {Γ : Setting V C H E} {Ok : H → Prop} {w : World V C (Recorded V C H E)}

omit [Inhabited V] in
theorem candid_of_eq {m : Run V C (Recorded V C H E) E α} {o : Outcome V C (Recorded V C H E) E α}
    (hm : m w = o) (new : List (Sight V C E)) (past : o.world.host.past = new ++ w.host.past)
    (still : failures Γ new = []) : Candid Γ Ok m w :=
  fun _ _ => reports_of_eq hm new past fun failed => absurd still failed

omit [Inhabited V] in
theorem candid_pure (a : α) (w : World V C (Recorded V C H E)) :
    Candid Γ Ok (Pure.pure a : Run V C (Recorded V C H E) E α) w :=
  candid_of_eq rfl [] rfl rfl

omit [Inhabited V] in
theorem failures_of_returned {P : Prop} {new : List (Sight V C E)}
    (still : failures Γ new ≠ [] → P ∧ none = Γ.leading none (failures Γ new)) :
    failures Γ new = [] := by
  by_contra failed
  exact failed (Setting.leading_eq_none.mp (still failed).2.symm)

omit [Inhabited V] in
theorem Candid.bind {m : Run V C (Recorded V C H E) E α} {f : α → Run V C (Recorded V C H E) E β}
    (hm : Candid Γ Ok m w) (level : Levels Γ Ok m w)
    (hf : ∀ a w', Candid Γ Ok (f a) w') : Candid Γ Ok (m >>= f) w := by
  intro host deep
  refine (hm host deep).bind (fun new e h => h) fun a w1 h1 => ?_
  have first := level host deep w1 (by rw [h1]; rfl)
  refine (hf a w1 first.host (first.depth.symm ▸ deep)).mono ?_
  intro later failure leaves new still
  rw [failures_append, failures_of_returned still, List.nil_append, ← first.depth]
  exact leaves

omit [Inhabited V] in
theorem Exact.bind {m : Run V C (Recorded V C H E) E α} {f : α → Run V C (Recorded V C H E) E β}
    (hm : Exact Γ Ok none m w) (level : Levels Γ Ok m w)
    (hf : ∀ a w', m w = .ok a w' → Exact Γ Ok none (f a) w') :
    Exact Γ Ok none (m >>= f) w := by
  intro host flat
  refine (hm host flat).bind (fun new e h => h) fun a w1 h1 => ?_
  have first := level host (Int.le_of_eq flat.symm) w1 (by rw [h1]; rfl)
  refine (hf a w1 h1 first.host (first.depth.trans flat)).mono ?_
  intro later failure raised new still
  rw [failures_append, Setting.leading_eq_none.mp still.symm, List.nil_append]
  exact raised

omit [Inhabited V] in
theorem candid_inBatch {m : Run V C (Recorded V C H E) E α}
    {leave : Run V C (Recorded V C H E) E Unit}
    (level : ∀ w, Levels Γ Ok m w) (hm : ∀ w, Candid Γ Ok m w)
    (hleave : ∀ w, Honest Γ Ok leave w) (host : Ok w.host.host)
    (deep : 0 ≤ w.graph.depth) :
    Reports (Run.ensure m fun _ => leave) (w.update Graph.enter) fun new failure =>
      failures Γ new ≠ [] → w.graph.depth = 0 ∧ failure = Γ.leading none (failures Γ new) := by
  have opened : (w.update Graph.enter).graph.depth = w.graph.depth + 1 := rfl
  have deeper : 0 ≤ (w.update Graph.enter).graph.depth := by omega
  refine (hm (w.update Graph.enter) host deeper).ensure fun former w1 ended => ?_
  have first := level (w.update Graph.enter) host deeper w1 ended
  have depth : w1.graph.depth = w.graph.depth + 1 := first.depth.trans opened
  refine (hleave w1 first.host (by omega)).mono ?_
  rintro later failure ⟨raised, inner⟩ new still
  have none_failed : failures Γ new = [] := by
    by_contra failed
    have := (still failed).1
    omega
  rw [failures_append, none_failed, List.nil_append]
  intro failed
  refine ⟨?_, ?_⟩
  · by_contra open_
    exact failed (inner (by omega))
  · obtain ⟨e, led⟩ := Option.ne_none_iff_exists'.mp (mt (Setting.leading_eq_none (Γ := Γ)).mp failed)
    rw [raised, led]
    rfl

end Rules

section Parts

variable {Γ : Setting V C H E} {Ok : H → Prop} (hset : Γ.Structured Ok)
variable (hfree : Γ.CatchFree Ok)
variable {again : Task V C (Recorded V C H E) E → Run V C (Recorded V C H E) E (Option V)}
variable (hlevel : ∀ t : Task V C H E, t.Structured Ok → ∀ w, Levels Γ Ok (again t.recorded) w)
variable (hleaves : ∀ w, Leaves Γ Ok (again .leave) w)
variable (hagain : ∀ t : Task V C H E, t.Structured Ok → t.CatchFree Ok →
  ∀ w, Candid Γ Ok (again t.recorded) w)
variable (hexact : ∀ i w, Exact Γ Ok none (again (.execute (.effect i))) w)
variable (hhonest : ∀ w, Honest Γ Ok (again .leave) w)
variable {w : World V C (Recorded V C H E)}

include hset hfree hlevel hagain

omit hset hfree in
theorem candid_readSource (s : Source) (w : World V C (Recorded V C H E)) :
    Candid Γ Ok (readSource Γ.recorded again s) w := by
  cases s with
  | wire i =>
    by_cases present : i < w.graph.wires.size
    · exact candid_of_eq (readSource_wire present) [⟨some _, _⟩] rfl rfl
    · exact candid_of_eq (readSource_absent present) [] rfl rfl
  | derived i =>
    rw [readSource_derived]
    exact (hagain (.value i) trivial trivial w).bind (hlevel (.value i) trivial w) fun _ =>
      candid_pure _

omit hlevel in
theorem reports_runTracked (t : Tracker) (host : Ok w.host.host) (deep : 0 ≤ w.graph.depth) :
    Reports (runTracked Γ.recorded again t) w fun all failure =>
      ∃ new x y, all = x :: new ++ [y] ∧ x.moment = some (.ended t failure) ∧
        y.moment = some (.began t) ∧ (failures Γ new ≠ [] →
          w.graph.depth = 0 ∧ failure = Γ.leading none (failures Γ new)) := by
  have depth : (w.begin Γ.recorded t).graph.depth = w.graph.depth :=
    (Graph.relinks_forget w.graph t).depth
  have inner := hagain (.script (Γ.body ((w.begin Γ.recorded t).graph.body t)))
    (hset.body _) (hfree.body _) (w.begin Γ.recorded t) (hset.notice _ _ _ host)
    (depth.symm ▸ deep)
  have closed : Reports (ensure (again (.script (Γ.recorded.body
      ((w.begin Γ.recorded t).graph.body t)))) fun failure => modify Graph.pop >>= fun _ =>
        notice Γ.recorded (.ended t failure)) (w.begin Γ.recorded t) fun all failure =>
      ∃ new x, all = x :: new ∧ x.moment = some (.ended t failure) ∧
        (failures Γ new ≠ [] → w.graph.depth = 0 ∧ failure = Γ.leading none (failures Γ new)) :=
    inner.ensure fun former w1 _ =>
      reports_of_eq (finish_apply t former w1) [⟨some (.ended t former), _⟩] rfl
        fun new leaves => ⟨new, _, rfl, rfl, depth ▸ leaves⟩
  intro w' ends
  rw [runTracked_apply] at ends ⊢
  obtain ⟨all, past, new, x, rfl, hx, leaves⟩ := closed w' ends
  exact ⟨x :: new ++ [⟨some (.began t), _⟩], by rw [past, List.append_assoc]; rfl,
    new, x, _, rfl, hx, rfl, leaves⟩

omit [Inhabited V] hset hfree hlevel hagain in
theorem failures_run {t : Tracker} {x y : Sight V C E} {new : List (Sight V C E)}
    (begun : y.moment = some (.began t)) :
    failures Γ (x :: new ++ [y]) = failures Γ new ++ (x.failure? Γ).toList := by
  have first : failures Γ [y] = [] := by simp [failures, Sight.failure?, begun]
  have last : failures Γ [x] = (x.failure? Γ).toList := by
    cases failed : x.failure? Γ <;> simp [failures, failed]
  rw [failures_append, first, List.nil_append, ← List.singleton_append, failures_append, last]

omit hlevel in
theorem candid_runTracked (i : Nat) (w : World V C (Recorded V C H E)) :
    Candid Γ Ok (runTracked Γ.recorded again (.derived i)) w := by
  intro host deep
  refine (reports_runTracked hset hfree hagain (.derived i) host deep).mono ?_
  rintro _ failure ⟨new, x, y, rfl, hx, hy, leaves⟩
  have last : x.failure? Γ = none := by simp [Sight.failure?, hx]
  rw [failures_run hy, last, Option.toList_none, List.append_nil]
  exact leaves

omit hlevel in
theorem exact_runTracked (i : Nat) (w : World V C (Recorded V C H E)) :
    Exact Γ Ok none (runTracked Γ.recorded again (.effect i)) w := by
  intro host flat
  refine (reports_runTracked hset hfree hagain (.effect i) host
    (Int.le_of_eq flat.symm)).mono ?_
  rintro _ failure ⟨new, x, y, rfl, hx, hy, leaves⟩
  have last : x.failure? Γ = failure := by simp only [Sight.failure?, hx]
  rw [failures_run hy, last]
  exact (Setting.leading_append_self fun failed => (leaves failed).2).symm

omit [Inhabited V] hset hfree in
theorem candid_executeAll (ts : List Tracker) (w : World V C (Recorded V C H E)) :
    Candid Γ Ok (executeAll again ts) w := by
  induction ts generalizing w with
  | nil => exact candid_pure _ w
  | cons t ts ih =>
    exact (hagain (.execute t) trivial trivial w).bind (hlevel (.execute t) trivial w) fun _ => ih

omit hset hfree in
theorem candid_tell (s : Source) (w : World V C (Recorded V C H E)) :
    Candid Γ Ok (tell Γ.recorded again s) w :=
  fun host deep => candid_executeAll hlevel hagain _ (w.update Graph.tick) host deep

theorem candid_compute (i : Nat) (w : World V C (Recorded V C H E)) :
    Candid Γ Ok (compute Γ.recorded again i) w := by
  have level (w : World V C (Recorded V C H E)) : Levels Γ Ok
      (ensure (runTracked Γ.recorded again (.derived i)) fun _ =>
        modify (·.setComputing i false)) w :=
    Levels.ensure (levels_runTracked hset hlevel _ w) fun _ _ => levels_of_eq rfl fun host =>
      (Level.refl host).update (f := (·.setComputing i false)) rfl rfl
  have marked (w : World V C (Recorded V C H E)) : Candid Γ Ok
      (ensure (runTracked Γ.recorded again (.derived i)) fun _ =>
        modify (·.setComputing i false)) w :=
    fun host deep => (candid_runTracked hset hfree hagain i w host deep).ensure_modify _
  have kept (r : Option V) (w : World V C (Recorded V C H E)) : Candid Γ Ok
      (modify (·.keep i (r.getD default)) : Run V C (Recorded V C H E) E Unit) w :=
    candid_of_eq rfl [] rfl rfl
  intro host deep
  have computed := (marked (w.update (·.setComputing i true))).bind (level _) kept
  exact (computed host deep).of_eq (compute_apply i w) rfl

theorem candid_derivedValue (i : Nat) (w : World V C (Recorded V C H E)) :
    Candid Γ Ok (derivedValue Γ.recorded again i) w := by
  by_cases absent : w.graph.deriveds.size ≤ i
  · exact candid_of_eq (derivedValue_absent absent) [] rfl rfl
  have present : i < w.graph.deriveds.size := Nat.lt_of_not_le absent
  have read (w : World V C (Recorded V C H E)) : Candid Γ Ok
      (modify (·.track (.derived i)) >>= fun _ => graph >>= fun g =>
        notice Γ.recorded (.read (.derived i) (g.derived i).cache) >>= fun _ =>
          Pure.pure (g.derived i).cache) w :=
    candid_of_eq rfl [⟨some _, _⟩] rfl rfl
  cases hc : (w.graph.derived i).computing with
  | true => exact candid_of_eq (derivedValue_circular present hc) [] rfl rfl
  | false =>
    intro host deep
    cases hd : (w.graph.derived i).dirty with
    | false => exact (read w host deep).of_eq (derivedValue_clean present hc hd) rfl
    | true =>
      have computed := (candid_compute hset hfree hlevel hagain i w).bind
        (levels_compute hset hlevel i w) fun _ => read
      exact (computed host deep).of_eq (derivedValue_dirty present hc hd) rfl

theorem exact_settle (i n : Nat) (w : World V C (Recorded V C H E)) :
    Exact Γ Ok none (settle Γ.recorded again i n) w := by
  induction n generalizing w with
  | zero =>
    exact fun _ _ => reports_of_eq (settle_zero i w) [⟨some (.overran i), w.graph⟩] rfl
      (Setting.leading_singleton _).symm
  | succ n ih =>
    have repeated (w1 : World V C (Recorded V C H E)) : Exact Γ Ok none
        (graph >>= fun g => if (g.effect i).rerun && !(g.effect i).disposed
          then settle Γ.recorded again i n else Pure.pure ()) w1 := by
      intro host flat
      cases asked : (w1.graph.effect i).rerun && !(w1.graph.effect i).disposed with
      | true =>
        refine (ih w1 host flat).of_eq ?_ rfl
        rw [graph_bind, asked, if_pos rfl]
      | false =>
        have still : (graph >>= fun g => if (g.effect i).rerun && !(g.effect i).disposed
            then settle Γ.recorded again i n else Pure.pure ()) w1 = .ok () w1 := by
          rw [graph_bind, asked, if_neg Bool.false_ne_true]
          rfl
        exact reports_of_eq still [] rfl rfl
    intro host flat
    have ran := (exact_runTracked hset hfree hagain i (w.update (·.countRun i))).bind
      (levels_runTracked hset hlevel _ _) fun _ w1 _ => repeated w1
    exact (ran host flat).of_eq (settle_succ i n w) rfl

theorem exact_executeEffect (i : Nat) (w : World V C (Recorded V C H E)) :
    Exact Γ Ok none (executeEffect Γ.recorded again i) w := by
  intro host flat
  cases hd : (w.graph.effect i).disposed with
  | true => exact reports_of_eq (executeEffect_disposed hd) [] rfl rfl
  | false =>
    cases hr : (w.graph.effect i).running with
    | true => exact reports_of_eq (executeEffect_running hd hr) [] rfl rfl
    | false =>
      have ran := exact_settle hset hfree hlevel hagain i (maxReruns + 1)
        (w.update (·.setRunning i true)) host flat
      refine (ran.ensure_modify (·.setRunning i false)).of_eq ?_ rfl
      rw [executeEffect_now hd hr (by omega), runEffect_apply]

theorem candid_executeEffect (i : Nat) (w : World V C (Recorded V C H E)) :
    Candid Γ Ok (executeEffect Γ.recorded again i) w := by
  intro host deep
  by_cases flat : w.graph.depth = 0
  · exact (exact_executeEffect hset hfree hlevel hagain i w host flat).mono
      fun new failure raised _ => ⟨flat, raised⟩
  · cases hd : (w.graph.effect i).disposed with
    | true => exact candid_of_eq (executeEffect_disposed hd) [] rfl rfl host deep
    | false =>
      cases hr : (w.graph.effect i).running with
      | true => exact candid_of_eq (executeEffect_running hd hr) [] rfl rfl host deep
      | false =>
        exact candid_of_eq (executeEffect_waiting hd hr (by omega)) [⟨some _, _⟩] rfl rfl host
          deep

omit hset hfree in
theorem candid_executeDerived (i : Nat) (w : World V C (Recorded V C H E)) :
    Candid Γ Ok (executeDerived Γ.recorded again i) w := by
  cases hd : (w.graph.derived i).dirty with
  | true => exact candid_of_eq (executeDerived_dirty hd) [] rfl rfl
  | false =>
    intro host deep
    exact (candid_tell hlevel hagain _ (w.update (·.invalidate i)) host deep).of_eq
      (executeDerived_clean hd) rfl

omit [Inhabited V] hfree hagain in
include hexact in
theorem exact_drain (n : Nat) (former : Option E) (w : World V C (Recorded V C H E)) :
    Exact Γ Ok former (drain Γ.recorded again n former) w := by
  induction n generalizing former w with
  | zero => exact fun _ _ w' ends => nomatch ends
  | succ n ih =>
    intro host flat
    cases hq : w.graph.queue with
    | nil =>
      refine reports_of_eq (drain_nil n former hq) [] ?_ ?_ <;> cases former <;> rfl
    | cons i rest =>
      have popped : Ok (w.unqueue Γ.recorded i).host.host := hset.notice _ _ _ host
      have flat' : (w.unqueue Γ.recorded i).graph.depth = 0 := flat
      have level := hlevel (.execute (.effect i)) trivial (w.unqueue Γ.recorded i) popped
        (Int.le_of_eq flat'.symm)
      -- What the effects after `i` come to, where it ends in `w1` and `failure` has failed so far.
      have joined (w1 : World V C (Recorded V C H E)) (failure : Option E)
          (ended : (again (.execute (.effect i)) (w.unqueue Γ.recorded i)).ended? = some w1)
          (led : ∀ fs later, (again (.execute (.effect i)) (w.unqueue Γ.recorded i)).fault? =
            Γ.leading none fs → Γ.leading failure later = Γ.leading former (fs ++ later))
          (same : drain Γ.recorded again (n + 1) former w =
            drain Γ.recorded again n failure w1) :
          Reports (drain Γ.recorded again (n + 1) former) w fun new failure =>
            failure = Γ.leading former (failures Γ new) := by
        intro w' ends
        rw [same] at ends ⊢
        obtain ⟨new, past, ran⟩ := hexact i _ popped flat' w1 ended
        have after := level w1 ended
        obtain ⟨later, past', rest⟩ := ih failure w1 after.host (after.depth.trans flat') w' ends
        refine ⟨later ++ new ++ [⟨some (.unqueued i), w.graph.unqueue⟩], ?_, ?_⟩
        · rw [past', past, List.append_assoc, List.append_assoc]
          rfl
        · beta_reduce
          rw [rest, led _ _ ran, failures_append, failures_append]
          rfl
      cases hw : again (.execute (.effect i)) (w.unqueue Γ.recorded i) with
      | exhausted w1 =>
        intro w' ends
        rw [drain_cons n former hq] at ends
        simp only [bind_apply, attempt, hw] at ends
        cases ends
      | ok r w1 =>
        refine joined w1 former (by rw [hw]; rfl) (fun fs later led => ?_) ?_
        · rw [hw] at led
          rw [Setting.leading_eq_none.mp led.symm, List.nil_append]
        · rw [drain_cons n former hq]
          simp only [bind_apply, attempt, hw]
      | raised e w1 =>
        have drained : drain Γ.recorded again (n + 1) former w = (if Γ.caught e then
            drain Γ.recorded again n (former.or (some e)) else raise e) w1 := by
          rw [drain_cons n former hq]
          simp only [bind_apply, attempt, hw]
          rfl
        cases hc : Γ.caught e with
        | true =>
          refine joined w1 (former.or (some e)) (by rw [hw]; rfl) (fun fs later led => ?_) ?_
          · rw [hw] at led
            exact Setting.leading_of_caught led.symm hc former later
          · rw [drained, hc, if_pos rfl]
        | false =>
          rw [hc, if_neg Bool.false_ne_true] at drained
          obtain ⟨new, past, ran⟩ := hexact i _ popped flat' w1 (by rw [hw]; rfl)
          rw [hw] at ran
          refine reports_of_eq drained (new ++ [⟨some (.unqueued i), w.graph.unqueue⟩]) ?_ ?_
          · rw [List.append_assoc]
            exact past
          · rw [failures_append]
            exact (Setting.leading_of_escaped ran.symm hc former).symm

omit [Inhabited V] hfree hagain in
include hexact in
theorem honest_leaveBatch (fuel : Nat) (w : World V C (Recorded V C H E)) :
    Honest Γ Ok (leaveBatch Γ.recorded again fuel) w := by
  intro host deep
  by_cases outermost : w.graph.depth = 1
  · have flat : (w.update Graph.depart).graph.depth = 0 := by
      change w.graph.depth - 1 = 0
      omega
    have drained := exact_drain hset hlevel hexact fuel none (w.update Graph.depart) host flat
    exact (drained.of_eq (leaveBatch_outermost fuel outermost) rfl).mono
      fun new failure raised => ⟨raised, fun inner => by omega⟩
  · exact reports_of_eq (leaveBatch_inner fuel outermost) [] rfl ⟨rfl, fun _ => rfl⟩

omit [Inhabited V] hset hfree hlevel hagain in
include hhonest in
theorem honest_leave (w : World V C (Recorded V C H E)) : Honest Γ Ok (leave again) w :=
  fun host deep => (hhonest w host deep).bind (fun _ _ h => h) fun _ _ _ =>
    reports_of_eq rfl [] rfl fun _ h => h

include hhonest

omit hfree in
theorem candid_replaceValue (i : Nat) (old v : V) (w : World V C (Recorded V C H E)) :
    Candid Γ Ok (replaceValue Γ.recorded again i old v) w := by
  by_cases inside : ∃ d rest, w.graph.stack = .derived d :: rest
  · obtain ⟨d, rest, hs⟩ := inside
    exact candid_of_eq (replaceValue_inside hs) [⟨some _, _⟩] rfl rfl
  · intro host deep w' ends
    rw [replaceValue_outside fun d rest hs => inside ⟨d, rest, hs⟩] at ends ⊢
    obtain ⟨new, past, leaves⟩ := candid_inBatch (w := w.assign Γ.recorded i old v)
      (levels_tell hlevel (.wire i)) (candid_tell hlevel hagain (.wire i))
      (honest_leave hhonest) (hset.notice _ _ _ host) deep w' ends
    refine ⟨new ++ [⟨some (.wrote i old v), w.graph.setValue i v⟩], ?_, ?_⟩
    · rw [past, List.append_assoc]
      rfl
    · beta_reduce
      rw [failures_append]
      exact leaves

theorem candid_writeWire (i : Nat) (v : V) (w : World V C (Recorded V C H E)) :
    Candid Γ Ok (writeWire Γ.recorded again i v) w := by
  by_cases frozen : (w.graph.wire i).frozen = true
  · exact candid_of_eq (writeWire_frozen frozen) [] rfl rfl
  · intro host deep
    refine ((hagain (.script (Γ.same (w.graph.wire i).value v)) (hset.same _ _)
      (hfree.same _ _) w).bind (hlevel (.script (Γ.same _ _)) (hset.same _ _) w)
      (fun r w1 => ?_) host deep).of_eq (writeWire_apply (Bool.eq_false_iff.mpr frozen)) rfl
    cases r with
    | none => exact candid_replaceValue hset hlevel hagain hhonest i _ v w1
    | some r => exact candid_pure _ w1

include hleaves

theorem candid_exec (s : Script V C H E) (hs : s.Structured Ok) (free : s.CatchFree Ok)
    (w : World V C (Recorded V C H E)) :
    Candid Γ Ok (exec Γ.recorded again s.recorded) w := by
  induction s generalizing w with
  | done r => exact candid_pure r w
  | raise e => exact candid_of_eq rfl [] rfl rfl
  | look next ih =>
    intro host deep w' ends
    obtain ⟨new, past, leaves⟩ := ih w.graph w.host.host (hs _ _ host) (free _ _ host)
      { w with host := w.host.see none w.graph } host deep w' ends
    refine ⟨new ++ [⟨none, w.graph⟩], by rw [past, List.append_assoc]; rfl, ?_⟩
    beta_reduce
    rw [failures_append]
    exact leaves
  | replace h next ih =>
    exact fun _ deep => ih hs.2 free.2 { w with host := { w.host with host := h } } hs.1 deep
  | read s next ih =>
    exact (candid_readSource hlevel hagain s w).bind
      (levels_readSource hset hlevel s w) fun v => ih v (hs v) (free v)
  | newWire v next ih =>
    exact fun host deep => ih _ (hs _) (free _) (w.update (·.addWire v)) host deep
  | write i v next ih =>
    exact (candid_writeWire hset hfree hlevel hagain hhonest i v w).bind
      (levels_writeWire hset hlevel hleaves i v w) fun _ => ih hs free
  | freeze i next ih => exact fun host deep => ih hs free (w.update (·.freeze i)) host deep
  | newDerived l c next ih =>
    exact fun host deep => ih _ (hs _) (free _) (w.update (·.addDerived l c)) host deep
  | newEffect l c next ih =>
    exact fun host deep => (hagain (.execute (.effect w.graph.effects.size)) trivial trivial
      (w.update (·.addEffect l c))).bind (hlevel (.execute _) trivial _) (fun _ => ih _ (hs _) (free _)) host
        deep
  | execute t next ih =>
    exact (hagain (.execute t) trivial trivial w).bind (hlevel (.execute t) trivial w) fun _ =>
      ih hs free
  | dispose i next ih =>
    intro host deep w' ends
    have depth : (w.dispose Γ.recorded i).graph.depth = w.graph.depth :=
      (Graph.relinks_dispose w.graph i).depth
    obtain ⟨new, past, leaves⟩ := ih hs free (w.dispose Γ.recorded i)
      (hset.notice _ _ _ host) (depth.symm ▸ deep) w' ends
    refine ⟨new ++ [⟨some (.disposed i), w.graph.dispose i⟩], ?_, ?_⟩
    · rw [past, List.append_assoc]
      rfl
    · beta_reduce
      rw [failures_append]
      exact depth ▸ leaves
  | startBatch next ih => exact hs.elim
  | endBatch next ih => exact hs.elim
  | batch body next ihBody ihNext =>
    have level := levels_exec hset hlevel hleaves body hs.1
    have inner (host : Ok w.host.host) (deep : 0 ≤ w.graph.depth) := candid_inBatch (w := w) level
      (ihBody hs.1 free.1) (honest_leave hhonest) host deep
    intro host deep
    have whole : Reports (ensure (exec Γ.recorded again body.recorded) (fun _ => leave again)
        >>= fun r => exec Γ.recorded again (next r).recorded) (w.update Graph.enter)
        fun new failure => failures Γ new ≠ [] →
          w.graph.depth = 0 ∧ failure = Γ.leading none (failures Γ new) := by
      refine (inner host deep).bind (fun _ _ h => h) fun r w1 h1 => ?_
      have first := levels_inBatch level (leaves_leave hleaves) w host deep w1
        (by rw [h1]; rfl)
      refine (ihNext r (hs.2 r) (free.2 r) w1 first.host (first.depth.symm ▸ deep)).mono ?_
      intro later failure leaves new still
      rw [failures_append, failures_of_returned still, List.nil_append, ← first.depth]
      exact leaves
    exact whole.of_eq rfl rfl
  | attempt body next ihBody ihNext => exact free.elim
  | call c next ih =>
    exact (hagain (.script (Γ.body c)) (hset.body c) (hfree.body c) w).bind
      (hlevel (.script (Γ.body c)) (hset.body c) w) fun r =>
        ih r (hs r) (free r)

theorem candid_performWith (fuel : Nat) (t : Task V C H E) (ht : t.Structured Ok)
    (free : t.CatchFree Ok) (w : World V C (Recorded V C H E)) :
    Candid Γ Ok (performWith Γ.recorded again fuel t.recorded) w := by
  cases t with
  | script s => exact candid_exec hset hfree hlevel hleaves hagain hhonest s ht free w
  | execute t =>
    cases t with
    | derived i =>
      exact (candid_executeDerived hlevel hagain i w).bind
        (levels_executeDerived hlevel i w) fun _ => candid_pure _
    | effect i =>
      exact (candid_executeEffect hset hfree hlevel hagain i w).bind
        (levels_executeEffect hset hlevel i w) fun _ => candid_pure _
  | value i =>
    exact (candid_derivedValue hset hfree hlevel hagain i w).bind
      (levels_derivedValue hset hlevel i w) fun _ => candid_pure _
  | leave => exact ht.elim

end Parts

/-- Outside of batches the leading failure leaves every task; executing an effect and ending a batch
raise nothing else. -/
theorem perform_reports {Γ : Setting V C H E} (hset : Γ.Structured Ok)
    (hfree : Γ.CatchFree Ok) (n : Nat) :
    (∀ t : Task V C H E, t.Structured Ok → t.CatchFree Ok →
      ∀ w, Candid Γ Ok (perform Γ.recorded n t.recorded) w) ∧
    (∀ i w, Exact Γ Ok none (perform Γ.recorded n (.execute (.effect i))) w) ∧
    ∀ w, Honest Γ Ok (perform Γ.recorded n .leave) w := by
  induction n with
  | zero =>
    exact ⟨fun _ _ _ _ _ _ _ ends => (nomatch ends), fun _ _ _ _ _ ends => (nomatch ends),
      fun _ _ _ _ ends => (nomatch ends)⟩
  | succ n ih =>
    obtain ⟨hagain, hexact, hhonest⟩ := ih
    obtain ⟨hlevel, hleaves⟩ := perform_levels hset n
    refine ⟨candid_performWith hset hfree hlevel hleaves hagain hhonest (n * n), ?_, ?_⟩
    · intro i w
      exact (exact_executeEffect hset hfree hlevel hagain i w).bind
        (levels_executeEffect hset hlevel i w) fun _ _ _ _ _ =>
          reports_of_eq rfl [] rfl rfl
    · intro w host deep
      exact (honest_leaveBatch hset hlevel hexact (n * n) w host deep).bind (fun _ _ h => h)
        fun _ _ _ => reports_of_eq rfl [] rfl fun _ h => h

end Run

end AttrBinder.Reactive
