import AttrBinder.Proofs.Reactive.Halting
import AttrBinder.Proofs.Reactive.Reading

/-!
Scripts that only read, one glimpse at a time. A derived value that is computed begins with one
glimpse and ends with another, which keeps its value and reads it, so that in between glimpses no
derived value is left half way. Where derived values only read, reading is made of glimpses, whatever
is computed meanwhile and wherever it stops (`perform_glimpses`).
-/

namespace AttrBinder.Reactive

variable {V C H E : Type} [Inhabited V] [Inhabited C]

/-- A script that only reads, unless it may do more. The derived values that it makes have code of
`R`, and so have the calls of a script that only reads; it tells no derived value that it is out of
date. -/
inductive Script.Modest (Ok : H → Prop) (R : C → Prop) (may : Bool) : Script V C H E → Prop
  | done (r : Option V) : Modest Ok R may (.done r)
  | raise (e : E) : Modest Ok R may (.raise e)
  | look {next : Graph V C → H → Script V C H E}
      (later : ∀ g h, Ok h → Modest Ok R may (next g h)) : Modest Ok R may (.look next)
  | replace {h : H} {next : Script V C H E} (host : Ok h) (later : Modest Ok R may next) :
      Modest Ok R may (.replace h next)
  | read {s : Source} {next : V → Script V C H E} (later : ∀ v, Modest Ok R may (next v)) :
      Modest Ok R may (.read s next)
  | attempt {body : Script V C H E} {next : Except E (Option V) → Script V C H E}
      (inner : Modest Ok R may body) (later : ∀ r, Modest Ok R may (next r)) :
      Modest Ok R may (.attempt body next)
  | call {c : C} {next : Option V → Script V C H E} (inner : may = false → R c)
      (later : ∀ r, Modest Ok R may (next r)) : Modest Ok R may (.call c next)
  | newWire {v : V} {next : Nat → Script V C H E} (more : may = true)
      (later : ∀ i, Modest Ok R may (next i)) : Modest Ok R may (.newWire v next)
  | write {i : Nat} {v : V} {next : Script V C H E} (more : may = true)
      (later : Modest Ok R may next) : Modest Ok R may (.write i v next)
  | freeze {i : Nat} {next : Script V C H E} (more : may = true) (later : Modest Ok R may next) :
      Modest Ok R may (.freeze i next)
  | newDerived {l : Label} {c : C} {next : Nat → Script V C H E} (more : may = true) (code : R c)
      (later : ∀ i, Modest Ok R may (next i)) : Modest Ok R may (.newDerived l c next)
  | newEffect {l : Label} {c : C} {next : Nat → Script V C H E} (more : may = true)
      (later : ∀ i, Modest Ok R may (next i)) : Modest Ok R may (.newEffect l c next)
  | execute {i : Nat} {next : Script V C H E} (more : may = true) (later : Modest Ok R may next) :
      Modest Ok R may (.execute (.effect i) next)
  | dispose {i : Nat} {next : Script V C H E} (more : may = true) (later : Modest Ok R may next) :
      Modest Ok R may (.dispose i next)
  | startBatch {next : Script V C H E} (more : may = true) (later : Modest Ok R may next) :
      Modest Ok R may (.startBatch next)
  | endBatch {next : Script V C H E} (more : may = true) (later : Modest Ok R may next) :
      Modest Ok R may (.endBatch next)
  | batch {body : Script V C H E} {next : Option V → Script V C H E} (more : may = true)
      (inner : Modest Ok R may body) (later : ∀ r, Modest Ok R may (next r)) :
      Modest Ok R may (.batch body next)

/-- Code of `R` only reads, and the observer keeps `Ok`. -/
structure Setting.Modest (Γ : Setting V C H E) (Ok : H → Prop) (R : C → Prop) : Prop where
  reads : ∀ c, R c → (Γ.body c).Modest Ok R false
  notice : ∀ m g h, Ok h → Ok (Γ.notice m g h)

namespace Graph

/-- What reading leaves alone. -/
structure Glances (g g' : Graph V C) : Prop where
  code : g.SameCode g'
  wires : g'.wires.size = g.wires.size
  wire : ∀ k, ∃ ts, g'.wire k = { g.wire k with subscribers := ts }
  queue : g'.queue = g.queue
  depth : g'.depth = g.depth
  stack : ∀ i, .effect i ∈ g'.stack → .effect i ∈ g.stack
  effect : ∀ i, ∃ ss, g'.effect i = { g.effect i with dependencies := ss } ∧
    (.effect i ∉ g.stack → ss = (g.effect i).dependencies)

variable {f g h : Graph V C}

theorem Glances.trans (a : Glances f g) (b : Glances g h) : Glances f h where
  code := a.code.trans b.code
  wires := b.wires.trans a.wires
  wire k := by
    obtain ⟨ts, ha⟩ := a.wire k
    obtain ⟨ts', hb⟩ := b.wire k
    exact ⟨ts', by rw [hb, ha]⟩
  queue := b.queue.trans a.queue
  depth := b.depth.trans a.depth
  stack i on := a.stack i (b.stack i on)
  effect i := by
    obtain ⟨ss, ha, idle⟩ := a.effect i
    obtain ⟨ss', hb, idle'⟩ := b.effect i
    rw [ha] at hb idle'
    exact ⟨ss', hb, fun off => (idle' fun on => off (a.stack i on)).trans (idle off)⟩

theorem Relinks.glances (h : Relinks f g) (effects : ∀ i, .effect i ∉ f.stack →
    g.dependencies (.effect i) = f.dependencies (.effect i)) : Glances f g where
  code := h.sameCode
  wires := h.wires
  wire := h.wire
  queue := h.queue
  depth := h.depth
  stack i on := h.stack ▸ on
  effect i := by
    obtain ⟨ss, he⟩ := h.effect i
    refine ⟨ss, he, fun off => ?_⟩
    have same := effects i off
    simpa only [dependencies, he] using same

theorem glances_of (code : SameCode f g) (wires : g.wires = f.wires) (effects : g.effect = f.effect)
    (queue : g.queue = f.queue) (depth : g.depth = f.depth)
    (stack : ∀ i, .effect i ∈ g.stack → .effect i ∈ f.stack) : Glances f g :=
  ⟨code, by rw [wires], fun k => ⟨_, by simp only [wire, wires]; rfl⟩, queue, depth, stack,
    fun i => ⟨_, by rw [effects], fun _ => rfl⟩⟩

theorem Glances.refl (g : Graph V C) : Glances g g :=
  glances_of (.refl g) rfl rfl rfl rfl fun _ on => on

theorem glances_setComputing (g : Graph V C) (d : Nat) (b : Bool) :
    Glances g (g.setComputing d b) :=
  glances_of (sameCode_modifyDerived _ _ fun _ => rfl) rfl rfl rfl rfl fun _ on => on

theorem glances_keep (g : Graph V C) (d : Nat) (v : V) : Glances g (g.keep d v) :=
  glances_of (sameCode_modifyDerived _ _ fun _ => rfl) rfl rfl rfl rfl fun _ on => on

theorem glances_track (g : Graph V C) (s : Source) : Glances g (g.track s) :=
  (relinks_track g s).glances fun _ off => dependencies_track_idle off s

theorem glances_push (g : Graph V C) (d : Nat) : Glances g (g.push (.derived d)) :=
  glances_of ⟨rfl, fun _ => rfl, rfl, fun _ => rfl⟩ rfl rfl rfl rfl
    fun _ on => (List.mem_cons.mp on).resolve_left (by simp)

theorem glances_pop (g : Graph V C) : Glances g g.pop :=
  glances_of ⟨rfl, fun _ => rfl, rfl, fun _ => rfl⟩ rfl rfl rfl rfl
    fun _ on => List.mem_of_mem_tail on

theorem glances_forget (g : Graph V C) (d : Nat) : Glances g (g.forget (.derived d)) :=
  (relinks_forget g _).glances fun _ _ => (dependencies_forget _ _ _).trans (if_neg (by simp))

end Graph

theorem World.sameCode_begin (Γ : Setting V C H E) (t : Tracker) (w : World V C H) :
    w.graph.SameCode (w.begin Γ t).graph :=
  let code := (Graph.relinks_forget w.graph t).sameCode
  ⟨code.effects, code.effect, code.deriveds, code.derived⟩

def World.failComputing (Γ : Setting V C H E) (d : Nat) (e : E) (w : World V C H) :
    World V C H :=
  (w.finish Γ (.derived d) (some e)).update (·.setComputing d false)

def World.started (i : Nat) (w : World V C (Recorded V C H E)) : World V C (Recorded V C H E) :=
  (w.update (·.setRunning i true)).update (·.countRun i)

def World.stopped (Γ : Setting V C H E) (i : Nat) (failure : Option E)
    (w : World V C (Recorded V C H E)) : World V C (Recorded V C H E) :=
  (w.finish Γ.recorded (.effect i) failure).update (·.setRunning i false)

/-- One part of reading. -/
inductive Glimpse (Γ : Setting V C H E) (Ok : H → Prop) (w : World V C (Recorded V C H E)) :
    World V C (Recorded V C H E) → Prop
  | look : Glimpse Γ Ok w { w with host := w.host.see none w.graph }
  | replace {h : H} : Ok h → Glimpse Γ Ok w { w with host := { w.host with host := h } }
  | readWire {k : Nat} : k < w.graph.wires.size →
      Glimpse Γ Ok w (w.read Γ.recorded (.wire k) (w.graph.wire k).value)
  | readDerived {d : Nat} : (w.graph.derived d).dirty = false →
      Glimpse Γ Ok w (w.read Γ.recorded (.derived d) (w.graph.derived d).cache)
  | begin {d : Nat} : d < w.graph.deriveds.size → (w.graph.derived d).computing = false →
      (w.graph.derived d).dirty = true → Glimpse Γ Ok w (w.beginComputing Γ.recorded d)
  | fail {d : Nat} {rest : List Tracker} (e : E) : w.graph.stack = .derived d :: rest →
      Glimpse Γ Ok w (w.failComputing Γ.recorded d e)
  | deliver {d : Nat} {rest : List Tracker} (v : V) : w.graph.stack = .derived d :: rest →
      Glimpse Γ Ok w ((w.endComputing Γ.recorded d v).read Γ.recorded (.derived d) v)

namespace Glimpse

variable {Γ : Setting V C H E} {Ok : H → Prop} {R : C → Prop}
variable {w w' : World V C (Recorded V C H E)}

theorem glances (h : Glimpse Γ Ok w w') : w.graph.Glances w'.graph := by
  cases h with
  | look | replace => exact .refl _
  | readWire | readDerived => exact Graph.glances_track _ _
  | @begin d =>
    exact ((Graph.glances_setComputing _ d true).trans (Graph.glances_forget _ d)).trans
      (Graph.glances_push _ d)
  | @fail d => exact (Graph.glances_pop _).trans (Graph.glances_setComputing _ d false)
  | @deliver d _ v =>
    exact (((Graph.glances_pop _).trans (Graph.glances_setComputing _ d false)).trans
      (Graph.glances_keep _ d v)).trans (Graph.glances_track _ _)

theorem idle_tail (tracked : Tracked w) (stack : w.graph.stack = t :: rest) :
    t ∉ w.graph.pop.stack := by
  have distinct := tracked.distinct
  rw [stack] at distinct
  change t ∉ w.graph.stack.tail
  rw [stack]
  exact (List.nodup_cons.mp distinct).1

theorem leads (h : Glimpse Γ Ok w w') (tracked : Tracked w) : Leads Γ w w' := by
  cases h with
  | look => exact .single .look
  | @replace host _ => exact .single (.replace host)
  | readWire present => exact .single (.readWire present)
  | readDerived clean => exact .single (.readDerived clean)
  | @begin d present idle dirty =>
    have off : .derived d ∉ w.graph.stack := tracked.idle (by simp [Graph.Active, idle])
    refine .tail (.single (.startComputing off dirty)) (.begin off ?_)
    simp [Graph.Starts, World.update, Graph.setComputing, Graph.derived_modifyDerived, present, dirty]
  | @fail d rest e stack =>
    exact .tail (.single (.finish (some e) stack)) (.stopComputing (idle_tail tracked stack))
  | @deliver d rest v stack =>
    have present : d < (w.graph.pop.setComputing d false).deriveds.size := by
      rw [Graph.setComputing, Graph.modifyDerived, Array.size_modify]
      exact (tracked.active (.derived d) (by rw [stack]; exact List.mem_cons_self)).hasTracker
    have read : Step Γ (w.endComputing Γ.recorded d v) _ :=
      .readDerived (d := d) ((Graph.dirty_keep present v d).trans (if_pos rfl))
    rw [World.graph_endComputing, Graph.cache_keep present] at read
    exact .tail (.tail (.tail (.single (.finish none stack))
      (.stopComputing (idle_tail tracked stack))) (.keep d v)) read

end Glimpse

/-- A world in which derived values only read. -/
structure Beholds (Ok : H → Prop) (R : C → Prop) (w : World V C (Recorded V C H E)) : Prop where
  tracked : Tracked w
  host : Ok w.host.host
  code : ∀ d < w.graph.deriveds.size, R (w.graph.derived d).body

abbrev Gazes (Γ : Setting V C H E) (Ok : H → Prop) :
    World V C (Recorded V C H E) → World V C (Recorded V C H E) → Prop :=
  Relation.ReflTransGen (Glimpse Γ Ok)

section Gazes

variable {Γ : Setting V C H E} {Ok : H → Prop} {R : C → Prop}
variable {w w' : World V C (Recorded V C H E)}

theorem Gazes.glances (h : Gazes Γ Ok w w') : w.graph.Glances w'.graph := by
  induction h with
  | refl => exact .refl _
  | tail _ glimpse ih => exact ih.trans glimpse.glances

theorem Glimpse.beholds (h : Glimpse Γ Ok w w') (modest : Γ.Modest Ok R)
    (start : Beholds Ok R w) : Beholds Ok R w' where
  tracked := (h.leads start.tracked).tracked start.tracked
  host := by
    cases h with
    | look => exact start.host
    | replace ok => exact ok
    | readWire | readDerived | begin | fail => exact modest.notice _ _ _ start.host
    | deliver => exact modest.notice _ _ _ (modest.notice _ _ _ start.host)
  code d present := by
    rw [h.glances.code.derived]
    exact start.code d (h.glances.code.deriveds ▸ present)

instance : Course (Beholds (V := V) (E := E) Ok R) (Gazes Γ Ok) := ⟨fun _ => .refl, .trans⟩

end Gazes

namespace Run

section Glimpses

variable {Γ : Setting V C H E} {Ok : H → Prop} {R : C → Prop} (modest : Γ.Modest Ok R)
variable {n : Nat} {w : World V C (Recorded V C H E)}
variable (scripts : ∀ {s : Script V C H E}, s.Modest Ok R false → ∀ w,
  Keeps (Beholds Ok R) (Gazes Γ Ok) (perform Γ.recorded n (.script s.recorded)) w)
variable (values : ∀ d w,
  Keeps (Beholds Ok R) (Gazes Γ Ok) (perform Γ.recorded n (.value d)) w)

include modest

theorem gazes_of_eq {α : Type} {m : Run V C (Recorded V C H E) E α}
    {o : Outcome V C (Recorded V C H E) E α} (same : m w = o)
    (glimpse : Beholds Ok R w → Glimpse Γ Ok w o.world) :
    Keeps (Beholds Ok R) (Gazes Γ Ok) m w :=
  keeps_of_eq same fun start => ⟨.single (glimpse start), (glimpse start).beholds modest start⟩

theorem Keeps.glimpse {α : Type} {m m' : Run V C (Recorded V C H E) E α}
    {w' : World V C (Recorded V C H E)} (hm : Keeps (Beholds Ok R) (Gazes Γ Ok) m' w')
    (same : m w = m' w') (glimpse : Glimpse Γ Ok w w') :
    Keeps (Beholds Ok R) (Gazes Γ Ok) m w :=
  hm.after same fun start => ⟨.single glimpse, glimpse.beholds modest start⟩

include scripts in
theorem gazes_compute {d : Nat} (present : d < w.graph.deriveds.size)
    (idle : (w.graph.derived d).computing = false) (dirty : (w.graph.derived d).dirty = true) :
    Keeps (Beholds Ok R) (Gazes Γ Ok)
      (derivedValue Γ.recorded (perform Γ.recorded n) d) w := by
  intro start
  have begins : Glimpse Γ Ok w (w.beginComputing Γ.recorded d) := .begin present idle dirty
  have begun := begins.beholds modest start
  have code : (Γ.body ((w.beginComputing Γ.recorded d).graph.body (.derived d))).Modest
      Ok R false := by
    refine modest.reads _ (begun.code d ?_)
    rw [begins.glances.code.deriveds]
    exact present
  have ran := scripts code _ begun
  have restored := perform_restores Γ.recorded n (.script (Γ.recorded.body
    ((w.beginComputing Γ.recorded d).graph.body (.derived d)))) (w.beginComputing Γ.recorded d)
  rw [derivedValue_dirty present idle dirty]
  cases hw : perform Γ.recorded n (.script (Γ.recorded.body
      ((w.beginComputing Γ.recorded d).graph.body (.derived d))))
      (w.beginComputing Γ.recorded d) with
  | exhausted w1 =>
    rw [show perform Γ.recorded n (.script (Script.recorded _)) _ = _ from hw] at ran
    rw [bind_of_exhausted (compute_of_exhausted (runTracked_of_exhausted hw))]
    exact ⟨.head begins ran.1, nofun⟩
  | raised e w1 =>
    rw [show perform Γ.recorded n (.script (Script.recorded _)) _ = _ from hw] at ran
    have stack := (restored w1 (by rw [hw]; rfl)).stack.trans (World.stack_beginComputing ..)
    have fails : Glimpse Γ Ok w1 (w1.failComputing Γ.recorded d e) := .fail e stack
    rw [bind_of_raised (compute_of_raised (runTracked_of_raised hw))]
    refine ⟨.head begins (.tail ran.1 fails), fun w' ended => ?_⟩
    cases ended
    exact fails.beholds modest (ran.2 w1 rfl)
  | ok r w1 =>
    rw [show perform Γ.recorded n (.script (Script.recorded _)) _ = _ from hw] at ran
    have stack := (restored w1 (by rw [hw]; rfl)).stack.trans (World.stack_beginComputing ..)
    have kept := ran.2 w1 rfl
    have there : d < (w1.graph.pop.setComputing d false).deriveds.size := by
      rw [Graph.setComputing, Graph.modifyDerived, Array.size_modify]
      exact (kept.tracked.active (.derived d) (by rw [stack]; exact List.mem_cons_self)).hasTracker
    have delivers : Glimpse Γ Ok w1 _ := .deliver (r.getD default) stack
    have cache : ((w1.endComputing Γ.recorded d (r.getD default)).graph.derived d).cache =
        r.getD default := Graph.cache_keep there _
    have same := readCache_apply Γ.recorded d
      (w1.endComputing Γ.recorded d (r.getD default))
    rw [cache] at same
    have computed : compute Γ.recorded (perform Γ.recorded n) d w =
      .ok () (w1.endComputing Γ.recorded d (r.getD default)) := compute_of_ok (runTracked_of_ok hw)
    rw [bind_of_ok computed, same]
    refine ⟨.head begins (.tail ran.1 delivers), fun w' ended => ?_⟩
    cases ended
    exact delivers.beholds modest kept

include scripts in
theorem gazes_derivedValue (d : Nat) (w : World V C (Recorded V C H E)) :
    Keeps (Beholds Ok R) (Gazes Γ Ok)
      (derivedValue Γ.recorded (perform Γ.recorded n) d) w := by
  by_cases absent : w.graph.deriveds.size ≤ d
  · exact keeps_still (by rw [derivedValue_absent absent]; rfl)
  have present : d < w.graph.deriveds.size := Nat.lt_of_not_le absent
  cases idle : (w.graph.derived d).computing with
  | true => exact keeps_still (by rw [derivedValue_circular present idle]; rfl)
  | false =>
    cases dirty : (w.graph.derived d).dirty with
    | true => exact gazes_compute modest scripts present idle dirty
    | false =>
      exact gazes_of_eq modest ((derivedValue_clean present idle dirty).trans (readCache_apply ..))
        fun _ => .readDerived dirty

include values

theorem gazes_readSource (s : Source) (w : World V C (Recorded V C H E)) :
    Keeps (Beholds Ok R) (Gazes Γ Ok)
      (readSource Γ.recorded (perform Γ.recorded n) s) w := by
  cases s with
  | wire k =>
    by_cases present : k < w.graph.wires.size
    · exact gazes_of_eq modest (readSource_wire present) fun _ => .readWire present
    · exact keeps_still (by rw [readSource_absent present]; rfl)
  | derived d =>
    rw [readSource_derived]
    exact (values d w).bind fun _ _ _ => keeps_still rfl

include scripts

theorem gazes_exec {s : Script V C H E} (only : s.Modest Ok R false)
    (w : World V C (Recorded V C H E)) :
    Keeps (Beholds Ok R) (Gazes Γ Ok)
      (exec Γ.recorded (perform Γ.recorded n) s.recorded) w := by
  induction only generalizing w with
  | done | raise => exact keeps_still rfl
  | look _ ih =>
    intro start
    exact Keeps.glimpse modest (ih w.graph w.host.host start.host _) rfl .look start
  | replace ok _ ih => exact Keeps.glimpse modest (ih _) rfl (.replace ok)
  | read _ ih => exact (gazes_readSource modest values _ w).bind fun v w1 _ => ih v w1
  | attempt _ _ body ih => exact (body w).attempt.bind fun r w1 _ => ih r w1
  | call inner _ ih => exact (scripts (modest.reads _ (inner rfl)) w).bind fun r w1 _ => ih r w1
  | newWire more | write more | freeze more | newDerived more | newEffect more | execute more
  | dispose more | startBatch more | endBatch more | batch more => cases more

end Glimpses

theorem perform_glimpses {Γ : Setting V C H E} (modest : Γ.Modest Ok R) (n : Nat) :
    (∀ {s : Script V C H E}, s.Modest Ok R false → ∀ w,
      Keeps (Beholds Ok R) (Gazes Γ Ok) (perform Γ.recorded n (.script s.recorded)) w) ∧
    ∀ d w, Keeps (Beholds Ok R) (Gazes Γ Ok) (perform Γ.recorded n (.value d)) w := by
  induction n with
  | zero => exact ⟨fun _ _ => keeps_still rfl, fun _ _ => keeps_still rfl⟩
  | succ n ih =>
    refine ⟨gazes_exec modest ih.1 ih.2, fun d w => ?_⟩
    exact (gazes_derivedValue modest ih.1 d w).bind fun _ _ _ => keeps_still rfl

section Trackers

variable {Γ : Setting V C H E} {Ok : H → Prop} {R : C → Prop} (modest : Γ.Modest Ok R)
variable {n : Nat} {w w' : World V C (Recorded V C H E)} {t : Tracker}

include modest

theorem gazes_runTracked
    (code : (Γ.body ((w.begin Γ.recorded t).graph.body t)).Modest Ok R false)
    (begun : Beholds Ok R (w.begin Γ.recorded t))
    (ended : (runTracked Γ.recorded (perform Γ.recorded n) t w).ended? = some w') :
    ∃ w1, Gazes Γ Ok (w.begin Γ.recorded t) w1 ∧ Beholds Ok R w1 ∧
      w1.graph.stack = t :: w.graph.stack ∧ w' = w1.finish Γ.recorded t
        (runTracked Γ.recorded (perform Γ.recorded n) t w).fault? := by
  have ran := (perform_glimpses modest n).1 code _ begun
  have restored := perform_restores Γ.recorded n
    (.script (Γ.recorded.body ((w.begin Γ.recorded t).graph.body t)))
    (w.begin Γ.recorded t)
  have stack : (w.begin Γ.recorded t).graph.stack = t :: w.graph.stack :=
    congrArg (t :: ·) (Graph.relinks_forget w.graph t).stack
  cases hw : perform Γ.recorded n
      (.script (Γ.recorded.body ((w.begin Γ.recorded t).graph.body t)))
      (w.begin Γ.recorded t) with
  | exhausted w1 =>
    rw [runTracked_of_exhausted hw] at ended
    cases ended
  | raised e w1 =>
    rw [show perform Γ.recorded n (.script (Script.recorded _)) _ = _ from hw] at ran
    rw [runTracked_of_raised hw] at ended ⊢
    exact ⟨w1, ran.1, ran.2 w1 rfl, (restored w1 (by rw [hw]; rfl)).stack.trans stack,
      (Option.some.inj ended).symm⟩
  | ok r w1 =>
    rw [show perform Γ.recorded n (.script (Script.recorded _)) _ = _ from hw] at ran
    rw [runTracked_of_ok hw] at ended ⊢
    exact ⟨w1, ran.1, ran.2 w1 rfl, (restored w1 (by rw [hw]; rfl)).stack.trans stack,
      (Option.some.inj ended).symm⟩

theorem gazes_settle (present : i < w.graph.effects.size)
    (code : (Γ.body (((w.update (·.countRun i)).begin Γ.recorded (.effect i)).graph.body
      (.effect i))).Modest Ok R false)
    (begun : Beholds Ok R ((w.update (·.countRun i)).begin Γ.recorded (.effect i)))
    (ended : (settle Γ.recorded (perform Γ.recorded n) i (m + 1) w).ended? = some w') :
    ∃ w1, Gazes Γ Ok ((w.update (·.countRun i)).begin Γ.recorded (.effect i)) w1 ∧
      Beholds Ok R w1 ∧ w1.graph.stack = .effect i :: w.graph.stack ∧
      w' = w1.finish Γ.recorded (.effect i)
        (settle Γ.recorded (perform Γ.recorded n) i (m + 1) w).fault? := by
  have ran {u : World V C (Recorded V C H E)} (ended : (runTracked Γ.recorded
      (perform Γ.recorded n) (.effect i) (w.update (·.countRun i))).ended? = some u) :=
    gazes_runTracked modest code begun ended
  rw [settle_succ] at ended ⊢
  cases hw : runTracked Γ.recorded (perform Γ.recorded n) (.effect i)
      (w.update (·.countRun i)) with
  | exhausted w2 =>
    rw [bind_of_exhausted hw] at ended
    cases ended
  | raised e w2 =>
    rw [bind_of_raised hw] at ended ⊢
    rw [hw] at ran
    exact ran ended
  | ok r w2 =>
    rw [hw] at ran
    obtain ⟨w1, gazes, kept, stack, finished⟩ := ran rfl
    obtain ⟨ss, he, -⟩ := gazes.glances.effect i
    obtain ⟨ss', he'⟩ := (Graph.relinks_forget (w.update (·.countRun i)).graph (.effect i)).effect i
    have same : ((w.update (·.countRun i)).begin Γ.recorded (.effect i)).graph.effect i =
      { (w.update (·.countRun i)).graph.effect i with dependencies := ss' } := he'
    have once : (w2.graph.effect i).rerun = false := by
      rw [finished]
      change (w1.graph.effect i).rerun = false
      rw [he, same]
      simp [World.update, Graph.countRun, Graph.effect_modifyEffect, present]
    rw [bind_of_ok hw, graph_bind, once] at ended ⊢
    exact ⟨w1, gazes, kept, stack, (Option.some.inj ended).symm.trans finished⟩

theorem gazes_runEffect (present : i < w.graph.effects.size)
    (code : (Γ.body (((w.started i).begin Γ.recorded (.effect i)).graph.body
      (.effect i))).Modest Ok R false)
    (begun : Beholds Ok R ((w.started i).begin Γ.recorded (.effect i)))
    (ended : (runEffect Γ.recorded (perform Γ.recorded n) i w).ended? = some w') :
    ∃ w1, Gazes Γ Ok ((w.started i).begin Γ.recorded (.effect i)) w1 ∧
      Beholds Ok R w1 ∧ w1.graph.stack = .effect i :: w.graph.stack ∧
      w' = w1.stopped Γ i (runEffect Γ.recorded (perform Γ.recorded n) i w).fault? := by
  have ran {u : World V C (Recorded V C H E)} (ended : (settle Γ.recorded
      (perform Γ.recorded n) i (maxReruns + 1) (w.update (·.setRunning i true))).ended? = some u) :=
    gazes_settle (w := w.update (·.setRunning i true)) modest
      (Nat.lt_of_lt_of_eq present Array.size_modify.symm) code begun ended
  rw [runEffect_apply] at ended ⊢
  cases hw : settle Γ.recorded (perform Γ.recorded n) i (maxReruns + 1)
      (w.update (·.setRunning i true)) with
  | exhausted w2 =>
    rw [ensure_of_exhausted hw] at ended
    cases ended
  | raised e w2 =>
    rw [ensure_of_raised hw] at ended ⊢
    rw [hw] at ran
    cases ended
    obtain ⟨w1, gazes, kept, stack, finished⟩ := ran rfl
    exact ⟨w1, gazes, kept, stack, congrArg (World.update (·.setRunning i false)) finished⟩
  | ok r w2 =>
    rw [ensure_of_ok hw] at ended ⊢
    rw [hw] at ran
    cases ended
    obtain ⟨w1, gazes, kept, stack, finished⟩ := ran rfl
    exact ⟨w1, gazes, kept, stack, congrArg (World.update (·.setRunning i false)) finished⟩

end Trackers

end Run

end AttrBinder.Reactive
