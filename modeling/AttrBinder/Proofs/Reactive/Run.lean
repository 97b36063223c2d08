import Mathlib.Tactic.Common
import AttrBinder.Reactive.System

/-!
How runs are composed. `Run.Ends K m w` says that `m`, run in `w`, ends only in worlds to which `K`
leads from `w`, whether it returns or raises; a run that is cut off has no end. The rules below
follow the ways in which runs are put together, so that a statement about all runs needs one
argument for every part of the system.
-/

namespace AttrBinder.Reactive

variable {V C H E α β : Type}

namespace Outcome

def world : Outcome V C H E α → World V C H
  | ok _ w => w
  | raised _ w => w
  | exhausted w => w

def ended? : Outcome V C H E α → Option (World V C H)
  | ok _ w => some w
  | raised _ w => some w
  | exhausted _ => none

theorem world_of_ended? {o : Outcome V C H E α} (h : o.ended? = some w) : o.world = w := by
  cases o with
  | ok a w' => exact Option.some.inj h
  | raised e w' => exact Option.some.inj h
  | exhausted w' => cases h

theorem ended?_of_isSome {o : Outcome V C H E α} (h : o.ended?.isSome = true) :
    o.ended? = some o.world := by
  obtain ⟨w, hw⟩ := Option.isSome_iff_exists.mp h
  rw [hw, world_of_ended? hw]

def fault? : Outcome V C H E α → Option E
  | ok _ _ => none
  | raised e _ => some e
  | exhausted _ => none

theorem ended?_of_fault? {o : Outcome V C H E α} (h : o.fault? = some e) :
    o.ended? = some o.world := by
  cases o with
  | ok a w => cases h
  | raised e' w => rfl
  | exhausted w => cases h

end Outcome

namespace Run

theorem pure_apply (a : α) (w : World V C H) : (Pure.pure a : Run V C H E α) w = .ok a w := rfl

theorem bind_apply (m : Run V C H E α) (f : α → Run V C H E β) (w : World V C H) :
    (m >>= f) w = match m w with
      | .ok a w => f a w
      | .raised e w => .raised e w
      | .exhausted w => .exhausted w := rfl

theorem bind_of_ok {m : Run V C H E α} {f : α → Run V C H E β} {w w' : World V C H} {a : α}
    (h : m w = .ok a w') : (m >>= f) w = f a w' := by
  rw [bind_apply, h]

theorem bind_of_raised {m : Run V C H E α} {f : α → Run V C H E β} {w w' : World V C H} {e : E}
    (h : m w = .raised e w') : (m >>= f) w = .raised e w' := by
  rw [bind_apply, h]

theorem bind_of_exhausted {m : Run V C H E α} {f : α → Run V C H E β} {w w' : World V C H}
    (h : m w = .exhausted w') : (m >>= f) w = .exhausted w' := by
  rw [bind_apply, h]

def Ends (K : World V C H → World V C H → Prop) (m : Run V C H E α) (w : World V C H) : Prop :=
  ∀ w', (m w).ended? = some w' → K w w'

section Rules

variable {K : World V C H → World V C H → Prop}

theorem ends_exhausted (w : World V C H) : Ends K (exhausted : Run V C H E α) w := by
  intro w' h
  cases h

theorem ends_pure (refl : ∀ w, K w w) (a : α) (w : World V C H) :
    Ends K (Pure.pure a : Run V C H E α) w := by
  intro w' h
  cases h
  exact refl w

theorem ends_raise (refl : ∀ w, K w w) (e : E) (w : World V C H) :
    Ends K (raise e : Run V C H E α) w := by
  intro w' h
  cases h
  exact refl w

theorem ends_graph (refl : ∀ w, K w w) (w : World V C H) :
    Ends K (graph : Run V C H E (Graph V C)) w := by
  intro w' h
  cases h
  exact refl w

theorem ends_modify (h : K w { w with graph := f w.graph }) :
    Ends K (modify f : Run V C H E Unit) w := by
  intro w' hw
  cases hw
  exact h

theorem Ends.bind (trans : ∀ u v w, K u v → K v w → K u w) {m : Run V C H E α}
    {f : α → Run V C H E β} {w : World V C H} (hm : Ends K m w)
    (hf : ∀ a w', m w = .ok a w' → Ends K (f a) w') : Ends K (m >>= f) w := by
  intro w' h
  cases hw : m w with
  | ok a w1 =>
    rw [bind_of_ok hw] at h
    have first := hm w1 (by rw [hw]; rfl)
    exact trans w w1 w' first (hf a w1 hw w' h)
  | raised e w1 =>
    rw [bind_of_raised hw] at h
    exact hm w' (by rw [hw]; exact h)
  | exhausted w1 =>
    rw [bind_of_exhausted hw] at h
    cases h

theorem Ends.attempt (hm : Ends K m w) : Ends K (attempt m) w := by
  intro w' h
  cases hw : m w with
  | ok a w1 =>
    simp only [Run.attempt, hw] at h
    exact hm w' (by rw [hw]; exact h)
  | raised e w1 =>
    simp only [Run.attempt, hw] at h
    exact hm w' (by rw [hw]; exact h)
  | exhausted w1 =>
    simp only [Run.attempt, hw] at h
    cases h

end Rules

theorem ensure_of_ok {m : Run V C H E α} {close : Option E → Run V C H E Unit} {w w' : World V C H}
    {a : α} (h : m w = .ok a w') : ensure m close w = (close none >>= fun _ => Pure.pure a) w' := by
  simp only [ensure, Run.bind, attempt, h]
  rfl

theorem ensure_of_raised {m : Run V C H E α} {close : Option E → Run V C H E Unit}
    {w w' : World V C H} {e : E} (h : m w = .raised e w') :
    ensure m close w = (close (some e) >>= fun _ => raise e) w' := by
  simp only [ensure, Run.bind, attempt, h]
  rfl

theorem ensure_of_exhausted {m : Run V C H E α} {close : Option E → Run V C H E Unit}
    {w w' : World V C H} (h : m w = .exhausted w') : ensure m close w = .exhausted w' := by
  simp only [ensure, Run.bind, attempt, h]

theorem Ends.still {K : World V C H → World V C H → Prop} {m : Run V C H E α} {k : Run V C H E β}
    {w : World V C H} (hm : Ends K m w) (hk : ∀ w, (k w).ended? = some w) :
    Ends K (m >>= fun _ => k) w := by
  intro w' h
  cases hw : m w with
  | ok a w1 =>
    rw [bind_of_ok hw, hk w1] at h
    exact hm w' (by rw [hw]; exact h)
  | raised e w1 =>
    rw [bind_of_raised hw] at h
    exact hm w' (by rw [hw]; exact h)
  | exhausted w1 =>
    rw [bind_of_exhausted hw] at h
    cases h

theorem ends_attempt_bind (hm : Ends L m w)
    (hf : ∀ r w', L w w' → Ends (fun _ w'' => K w w'') (f r) w') : Ends K (attempt m >>= f) w := by
  intro w' h
  cases hw : m w with
  | ok a w1 =>
    have first := hm w1 (by rw [hw]; rfl)
    simp only [bind_apply, attempt, hw] at h
    exact hf (.ok a) w1 first w' h
  | raised e w1 =>
    have first := hm w1 (by rw [hw]; rfl)
    simp only [bind_apply, attempt, hw] at h
    exact hf (.error e) w1 first w' h
  | exhausted w1 =>
    simp only [bind_apply, attempt, hw] at h
    cases h

/-- A part that is closed however it ends: `L` leads from the start to the ends of the first part,
and closing any of them gives what `K` asks for. -/
theorem ends_ensure {K L : World V C H → World V C H → Prop} {m : Run V C H E α}
    {close : Option E → Run V C H E Unit} {w : World V C H} (hm : Ends L m w)
    (hclose : ∀ failure w', L w w' → Ends (fun _ w'' => K w w'') (close failure) w') :
    Ends K (ensure m close) w := by
  intro w' h
  cases hw : m w with
  | ok a w1 =>
    have first := hm w1 (by rw [hw]; rfl)
    rw [ensure_of_ok hw] at h
    exact (hclose none w1 first).still (fun _ => rfl) w' h
  | raised e w1 =>
    have first := hm w1 (by rw [hw]; rfl)
    rw [ensure_of_raised hw] at h
    exact (hclose (some e) w1 first).still (fun _ => rfl) w' h
  | exhausted w1 =>
    rw [ensure_of_exhausted hw] at h
    cases h

def Yields (m : Run V C H E α) (w : World V C H) (Q : α → World V C H → Prop) : Prop :=
  match m w with
  | .ok a w' => Q a w'
  | .raised _ _ => False
  | .exhausted _ => True

theorem yields_of_ok (hm : m w = .ok a w') (h : Q a w') : Yields m w Q := by
  rw [Yields, hm]
  exact h

theorem Yields.mono (hm : Yields m w Q) (h : ∀ a w', Q a w' → R a w') : Yields m w R := by
  unfold Yields at hm ⊢
  cases hw : m w with
  | ok a w1 =>
    rw [hw] at hm
    exact h a w1 hm
  | raised e w1 =>
    rw [hw] at hm
    exact hm
  | exhausted w1 => trivial

theorem Yields.bind {m : Run V C H E α} {f : α → Run V C H E β} {w : World V C H}
    {Q : α → World V C H → Prop} {R : β → World V C H → Prop} (hm : Yields m w Q)
    (hf : ∀ a w', Q a w' → Yields (f a) w' R) : Yields (m >>= f) w R := by
  unfold Yields at hm
  cases hw : m w with
  | ok a w1 =>
    rw [hw] at hm
    have next := hf a w1 hm
    rw [Yields, bind_of_ok hw]
    exact next
  | raised e w1 =>
    rw [hw] at hm
    exact hm.elim
  | exhausted w1 =>
    rw [Yields, bind_of_exhausted hw]
    trivial

end Run

/-- A relation by which runs are followed from worlds in which `I` holds. -/
class Course (I : World V C H → Prop) (K : World V C H → World V C H → Prop) : Prop where
  refl : ∀ {w}, I w → K w w
  trans : ∀ {u v w}, K u v → K v w → K u w

namespace Run

/-- A run that begins where `I` holds ends where it holds, and `K` leads to wherever it stops. -/
def Keeps (I : World V C H → Prop) (K : World V C H → World V C H → Prop) (m : Run V C H E α)
    (w : World V C H) : Prop :=
  I w → K w (m w).world ∧ ∀ w', (m w).ended? = some w' → I w'

section Keeping

variable {I : World V C H → Prop} {K : World V C H → World V C H → Prop} [Course I K]
variable {m : Run V C H E α} {f : α → Run V C H E β} {w w' : World V C H}

omit [Course I K] in
theorem keeps_of_eq (hm : m w = o) (h : I w → K w o.world ∧ I o.world) : Keeps I K m w := by
  intro start
  rw [hm]
  exact ⟨(h start).1, fun w' ended => Outcome.world_of_ended? ended ▸ (h start).2⟩

theorem keeps_still (hm : (m w).world = w) : Keeps I K m w := by
  refine keeps_of_eq rfl fun start => ?_
  rw [hm]
  exact ⟨Course.refl start, start⟩

theorem Keeps.after (hm : Keeps I K m' w') (same : m w = m' w')
    (step : I w → K w w' ∧ I w') : Keeps I K m w := by
  intro start
  rw [same]
  exact ⟨Course.trans I (step start).1 (hm (step start).2).1, (hm (step start).2).2⟩

theorem Keeps.bind (hm : Keeps I K m w) (hf : ∀ a w', m w = .ok a w' → Keeps I K (f a) w') :
    Keeps I K (m >>= f) w := by
  intro start
  obtain ⟨first, kept⟩ := hm start
  cases hw : m w with
  | ok a w1 =>
    rw [hw] at first
    have next := hf a w1 hw (kept w1 (by rw [hw]; rfl))
    rw [bind_of_ok hw]
    exact ⟨Course.trans I first next.1, next.2⟩
  | raised e w1 =>
    rw [hw] at first kept
    rw [bind_of_raised hw]
    exact ⟨first, kept⟩
  | exhausted w1 =>
    rw [hw] at first
    rw [bind_of_exhausted hw]
    exact ⟨first, nofun⟩

omit [Course I K] in
theorem Keeps.attempt (hm : Keeps I K m w) : Keeps I K (attempt m) w := by
  intro start
  obtain ⟨first, kept⟩ := hm start
  cases hw : m w <;> (rw [hw] at first kept; simp only [Run.attempt, hw]; exact ⟨first, kept⟩)

theorem Keeps.ensure {close : Option E → Run V C H E Unit} (hm : Keeps I K m w)
    (hclose : ∀ failure w', (m w).ended? = some w' → I w' → Keeps I K (close failure) w') :
    Keeps I K (ensure m close) w := by
  refine Keeps.bind hm.attempt fun r w1 ran start => ?_
  have ended : (m w).ended? = some w1 := by
    cases hw : m w <;> (rw [Run.attempt, hw] at ran; cases ran)
    · rfl
    · rfl
  cases r with
  | ok a => exact ((hclose none w1 ended start).bind fun _ _ _ => keeps_still rfl) start
  | error e => exact ((hclose (some e) w1 ended start).bind fun _ _ _ => keeps_still rfl) start

end Keeping

end Run

namespace World

def update (f : Graph V C → Graph V C) (w : World V C H) : World V C H :=
  { w with graph := f w.graph }

variable (Γ : Setting V C H E)

def tell (m : Moment V E) (w : World V C H) : World V C H :=
  { w with host := Γ.notice m w.graph w.host }

def read (s : Source) (v : V) (w : World V C H) : World V C H :=
  (w.update (·.track s)).tell Γ (.read s v)

def assign (i : Nat) (old v : V) (w : World V C H) : World V C H :=
  (w.update (·.setValue i v)).tell Γ (.wrote i old v)

def begin [Inhabited V] [Inhabited C] (t : Tracker) (w : World V C H) : World V C H :=
  (w.update fun g => (g.forget t).push t).tell Γ (.began t)

theorem graph_begin [Inhabited V] [Inhabited C] (t : Tracker) (w : World V C H) :
    (w.begin Γ t).graph = (w.graph.forget t).push t := rfl

def finish (t : Tracker) (failure : Option E) (w : World V C H) : World V C H :=
  (w.update Graph.pop).tell Γ (.ended t failure)

def enqueue (i : Nat) (w : World V C H) : World V C H :=
  (w.update (·.enqueue i)).tell Γ (.queued i)

def unqueue (i : Nat) (w : World V C H) : World V C H :=
  (w.update Graph.unqueue).tell Γ (.unqueued i)

def dispose [Inhabited V] [Inhabited C] (i : Nat) (w : World V C H) : World V C H :=
  (w.update (·.dispose i)).tell Γ (.disposed i)

end World

/-!
What the parts of the system do in a world, case by case. Later arguments use these equations and
do not open the definitions again.
-/

namespace Run

section Parts

variable [Inhabited V] [Inhabited C] {Γ : Setting V C H E}
variable {again : Task V C H E → Run V C H E (Option V)} {w : World V C H} {i : Nat}

omit [Inhabited V] [Inhabited C] in
theorem modify_bind (f : Graph V C → Graph V C) (k : Unit → Run V C H E α) (w : World V C H) :
    (modify f >>= k) w = k () (w.update f) := rfl

omit [Inhabited V] [Inhabited C] in
theorem notice_bind (m : Moment V E) (k : Unit → Run V C H E α) (w : World V C H) :
    (notice Γ m >>= k) w = k () (w.tell Γ m) := rfl

omit [Inhabited V] [Inhabited C] in
theorem graph_bind (k : Graph V C → Run V C H E α) (w : World V C H) :
    (graph >>= k) w = k w.graph w := rfl

omit [Inhabited C] in
theorem readSource_wire (h : i < w.graph.wires.size) :
    readSource Γ again (.wire i) w =
      .ok (w.graph.wire i).value (w.read Γ (.wire i) (w.graph.wire i).value) := by
  simp only [readSource, graph_bind, h, if_true]
  rfl

omit [Inhabited C] in
theorem readSource_absent (h : ¬ i < w.graph.wires.size) :
    readSource Γ again (.wire i) w = .ok (w.graph.wire i).value w := by
  simp only [readSource, graph_bind, h, if_false]
  rfl

omit [Inhabited C] in
theorem readSource_derived (i : Nat) :
    readSource Γ again (.derived i) =
      again (.value i) >>= fun r => Pure.pure (r.getD default) := rfl

omit [Inhabited V] [Inhabited C] in
theorem finish_apply (t : Tracker) (failure : Option E) (w : World V C H) :
    (modify Graph.pop >>= fun _ => notice Γ (.ended t failure)) w =
      .ok () (w.finish Γ t failure) := rfl

theorem runTracked_apply (t : Tracker) (w : World V C H) :
    runTracked Γ again t w =
      ensure (again (.script (Γ.body ((w.begin Γ t).graph.body t))))
        (fun failure => modify Graph.pop >>= fun _ => notice Γ (.ended t failure))
        (w.begin Γ t) := rfl

section

variable {t : Tracker} {r : Option V} {e : E} {w' : World V C H}

theorem runTracked_of_ok
    (h : again (.script (Γ.body ((w.begin Γ t).graph.body t))) (w.begin Γ t) =
      .ok r w') : runTracked Γ again t w = .ok r (w'.finish Γ t none) := by
  rw [runTracked_apply, ensure_of_ok h]
  rfl

theorem runTracked_of_raised
    (h : again (.script (Γ.body ((w.begin Γ t).graph.body t))) (w.begin Γ t) =
      .raised e w') : runTracked Γ again t w = .raised e (w'.finish Γ t (some e)) := by
  rw [runTracked_apply, ensure_of_raised h]
  rfl

theorem runTracked_of_exhausted
    (h : again (.script (Γ.body ((w.begin Γ t).graph.body t))) (w.begin Γ t) =
      .exhausted w') : runTracked Γ again t w = .exhausted w' := by
  rw [runTracked_apply, ensure_of_exhausted h]

end

theorem tell_apply (s : Source) (w : World V C H) :
    tell Γ again s w =
      executeAll again (Γ.arrange w.graph.ticks (w.graph.subscribers s))
        (w.update Graph.tick) := rfl

theorem replaceValue_inside (h : w.graph.stack = .derived d :: rest) :
    replaceValue Γ again i old v w =
      .raised (Γ.fault (.writeInDerived (w.graph.derived d).label))
        (w.assign Γ i old v) := by
  rw [replaceValue, modify_bind, notice_bind, graph_bind]
  have stack : ((w.update (·.setValue i v)).tell Γ (.wrote i old v)).graph.stack =
      .derived d :: rest := h
  simp only [stack]
  rfl

theorem replaceValue_outside (h : ∀ d rest, w.graph.stack ≠ .derived d :: rest) :
    replaceValue Γ again i old v w =
      ensure (tell Γ again (.wire i)) (fun _ => leave again)
        ((w.assign Γ i old v).update Graph.enter) := by
  rw [replaceValue, modify_bind, notice_bind, graph_bind]
  cases hs : ((w.update (·.setValue i v)).tell Γ (.wrote i old v)).graph.stack with
  | nil => rfl
  | cons t rest =>
    cases t with
    | derived d => exact absurd hs (h d rest)
    | effect e => rfl

theorem writeWire_frozen (h : (w.graph.wire i).frozen = true) :
    writeWire Γ again i v w = .raised (Γ.fault .frozen) w := by
  simp only [writeWire, graph_bind, h, if_true]
  rfl

theorem writeWire_apply (h : (w.graph.wire i).frozen = false) :
    writeWire Γ again i v w =
      (again (.script (Γ.same (w.graph.wire i).value v)) >>= fun r => match r with
        | some _ => Pure.pure ()
        | none => replaceValue Γ again i (w.graph.wire i).value v) w := by
  simp only [writeWire, graph_bind, h, Bool.false_eq_true, if_false]
  rfl

theorem compute_apply (i : Nat) (w : World V C H) :
    compute Γ again i w =
      (ensure (runTracked Γ again (.derived i)) (fun _ => modify (·.setComputing i false))
        >>= fun r => modify (·.keep i (r.getD default))) (w.update (·.setComputing i true)) := rfl

theorem compute_of_ok (h : runTracked Γ again (.derived i) (w.update (·.setComputing i true)) = .ok r w') :
    compute Γ again i w =
      .ok () ((w'.update (·.setComputing i false)).update (·.keep i (r.getD default))) := by
  rw [compute_apply, bind_apply, ensure_of_ok h]
  rfl

theorem compute_of_raised
    (h : runTracked Γ again (.derived i) (w.update (·.setComputing i true)) = .raised e w') :
    compute Γ again i w = .raised e (w'.update (·.setComputing i false)) := by
  rw [compute_apply, bind_apply, ensure_of_raised h]
  rfl

theorem compute_of_exhausted (h : runTracked Γ again (.derived i) (w.update (·.setComputing i true)) =
      .exhausted w') : compute Γ again i w = .exhausted w' := by
  rw [compute_apply, bind_apply, ensure_of_exhausted h]

theorem derivedValue_absent (h : w.graph.deriveds.size ≤ i) :
    derivedValue Γ again i w = .ok default w := by
  simp only [derivedValue, graph_bind, h, if_true]
  rfl

theorem derivedValue_circular (h : i < w.graph.deriveds.size)
    (hc : (w.graph.derived i).computing = true) :
    derivedValue Γ again i w =
      .raised (Γ.fault (.circular (w.graph.derived i).label)) w := by
  simp only [derivedValue, graph_bind, Nat.not_le.mpr h, if_false, hc, if_true]
  rfl

theorem derivedValue_clean (h : i < w.graph.deriveds.size)
    (hc : (w.graph.derived i).computing = false) (hd : (w.graph.derived i).dirty = false) :
    derivedValue Γ again i w =
      (modify (·.track (.derived i)) >>= fun _ => graph >>= fun g =>
        notice Γ (.read (.derived i) (g.derived i).cache) >>= fun _ =>
          Pure.pure (g.derived i).cache) w := by
  simp only [derivedValue, graph_bind, Nat.not_le.mpr h, if_false, hc, hd, Bool.false_eq_true]

theorem derivedValue_dirty (h : i < w.graph.deriveds.size)
    (hc : (w.graph.derived i).computing = false) (hd : (w.graph.derived i).dirty = true) :
    derivedValue Γ again i w =
      (compute Γ again i >>= fun _ => modify (·.track (.derived i)) >>= fun _ =>
        graph >>= fun g => notice Γ (.read (.derived i) (g.derived i).cache) >>= fun _ =>
          Pure.pure (g.derived i).cache) w := by
  simp only [derivedValue, graph_bind, Nat.not_le.mpr h, if_false, hc, hd, Bool.false_eq_true,
    if_true]

theorem settle_zero (i : Nat) (w : World V C H) :
    settle Γ again i 0 w =
      .raised (Γ.fault (.retriggering (w.graph.effect i).label))
        (w.tell Γ (.overran i)) := rfl

theorem settle_succ (i n : Nat) (w : World V C H) :
    settle Γ again i (n + 1) w =
      (runTracked Γ again (.effect i) >>= fun _ => graph >>= fun g =>
        if (g.effect i).rerun && !(g.effect i).disposed then settle Γ again i n
        else Pure.pure ()) (w.update (·.countRun i)) := rfl

theorem runEffect_apply (i : Nat) (w : World V C H) :
    runEffect Γ again i w =
      ensure (settle Γ again i (maxReruns + 1)) (fun _ => modify (·.setRunning i false))
        (w.update (·.setRunning i true)) := rfl

theorem executeEffect_disposed (h : (w.graph.effect i).disposed = true) :
    executeEffect Γ again i w = .ok () w := by
  simp only [executeEffect, graph_bind, h, if_true]
  rfl

theorem executeEffect_running (h : (w.graph.effect i).disposed = false)
    (hr : (w.graph.effect i).running = true) :
    executeEffect Γ again i w = .ok () (w.update (·.requestRun i)) := by
  simp only [executeEffect, graph_bind, h, hr, Bool.false_eq_true, if_false, if_true]
  rfl

theorem executeEffect_waiting (h : (w.graph.effect i).disposed = false)
    (hr : (w.graph.effect i).running = false) (hd : 0 < w.graph.depth) :
    executeEffect Γ again i w = .ok () (w.enqueue Γ i) := by
  simp only [executeEffect, graph_bind, h, hr, hd, Bool.false_eq_true, if_false, if_true, gt_iff_lt]
  rfl

theorem executeEffect_now (h : (w.graph.effect i).disposed = false)
    (hr : (w.graph.effect i).running = false) (hd : ¬ 0 < w.graph.depth) :
    executeEffect Γ again i w = runEffect Γ again i w := by
  simp only [executeEffect, graph_bind, h, hr, hd, Bool.false_eq_true, if_false, gt_iff_lt]

theorem executeDerived_dirty (h : (w.graph.derived i).dirty = true) :
    executeDerived Γ again i w = .ok () w := by
  simp only [executeDerived, graph_bind, h, if_true]
  rfl

theorem executeDerived_clean (h : (w.graph.derived i).dirty = false) :
    executeDerived Γ again i w =
      tell Γ again (.derived i) (w.update (·.invalidate i)) := by
  simp only [executeDerived, graph_bind, h, Bool.false_eq_true, if_false]
  rfl

omit [Inhabited V] [Inhabited C] in
theorem drain_nil (n : Nat) (failure : Option E) (h : w.graph.queue = []) :
    drain Γ again (n + 1) failure w = match failure with
      | some e => .raised e w
      | none => .ok () w := by
  simp only [drain, graph_bind, h]
  cases failure <;> rfl

omit [Inhabited V] [Inhabited C] in
theorem drain_cons (n : Nat) (failure : Option E) (h : w.graph.queue = i :: rest) :
    drain Γ again (n + 1) failure w =
      (attempt (again (.execute (.effect i))) >>= fun r => match r with
        | .ok _ => drain Γ again n failure
        | .error e => if Γ.caught e then drain Γ again n (failure.or (some e)) else raise e)
        (w.unqueue Γ i) := by
  simp only [drain, graph_bind, h]
  rfl

omit [Inhabited V] [Inhabited C] in
theorem leaveBatch_outermost (fuel : Nat) (h : w.graph.depth = 1) :
    leaveBatch Γ again fuel w =
      drain Γ again fuel none (w.update Graph.depart) := by
  have zero : (w.update Graph.depart).graph.depth = 0 := by
    change w.graph.depth - 1 = 0
    omega
  simp only [leaveBatch, modify_bind, graph_bind, zero, if_true]

omit [Inhabited V] [Inhabited C] in
theorem leaveBatch_inner (fuel : Nat) (h : w.graph.depth ≠ 1) :
    leaveBatch Γ again fuel w = .ok () (w.update Graph.depart) := by
  have nonzero : (w.update Graph.depart).graph.depth ≠ 0 := by
    change w.graph.depth - 1 ≠ 0
    omega
  simp only [leaveBatch, modify_bind, graph_bind, nonzero, if_false]
  rfl

end Parts

end Run

end AttrBinder.Reactive
