import Mathlib.Data.Finset.Card
import AttrBinder.Proofs.Binder.Comparing
import AttrBinder.Proofs.Reactive.Halting
import AttrBinder.Scenario.Run

/-!
Propagation ends. Effects that read, write, open batches and branch may write what the others
depend on, in any cycles: every run ends. Reading a derived value ends since fewer derived values
are left that are not computed yet; telling of a change ends since fewer derived values are left
that are up to date; running effects ends since fewer effects are left that do not run, since an
effect runs again a bounded number of times, and since a queue that an effect finds is either left
as it was or emptied. The main statement is `propagation_terminates`.
-/

namespace AttrBinder.Reactive

variable {V C H E : Type} [Inhabited V] [Inhabited C]

/-- Scripts without loops that make no trackers and run none themselves, in worlds whose host
satisfies `Ok`; a call is allowed if the code that it runs is such a script. If `writes` is not set
they only read. -/
inductive Script.Finite (Γ : Setting V C H E) (Ok : H → Prop) (writes : Bool) :
    Script V C H E → Prop
  | done (r : Option V) : Finite Γ Ok writes (.done r)
  | raise (e : E) : Finite Γ Ok writes (.raise e)
  | look {next : Graph V C → H → Script V C H E}
      (later : ∀ g h, Ok h → Finite Γ Ok writes (next g h)) :
      Finite Γ Ok writes (.look next)
  | replace {h : H} {next : Script V C H E} (host : Ok h)
      (later : Finite Γ Ok writes next) : Finite Γ Ok writes (.replace h next)
  | read {s : Source} {next : V → Script V C H E}
      (later : ∀ v, Finite Γ Ok writes (next v)) : Finite Γ Ok writes (.read s next)
  | attempt {body : Script V C H E} {next : Except E (Option V) → Script V C H E}
      (inner : Finite Γ Ok writes body) (later : ∀ r, Finite Γ Ok writes (next r))
      (passes : ∀ e, Γ.caught e = false → next (.error e) = .raise e) :
      Finite Γ Ok writes (.attempt body next)
  | call {c : C} {next : Option V → Script V C H E}
      (inner : Finite Γ Ok writes (Γ.body c))
      (later : ∀ r, Finite Γ Ok writes (next r)) : Finite Γ Ok writes (.call c next)
  | newWire {v : V} {next : Nat → Script V C H E} (may : writes = true)
      (later : ∀ i, Finite Γ Ok writes (next i)) :
      Finite Γ Ok writes (.newWire v next)
  | write {i : Nat} {v : V} {next : Script V C H E} (may : writes = true)
      (later : Finite Γ Ok writes next) : Finite Γ Ok writes (.write i v next)
  | freeze {i : Nat} {next : Script V C H E} (may : writes = true)
      (later : Finite Γ Ok writes next) : Finite Γ Ok writes (.freeze i next)
  | dispose {i : Nat} {next : Script V C H E} (may : writes = true)
      (later : Finite Γ Ok writes next) : Finite Γ Ok writes (.dispose i next)
  | batch {body : Script V C H E} {next : Option V → Script V C H E} (may : writes = true)
      (inner : Finite Γ Ok writes body) (later : ∀ r, Finite Γ Ok writes (next r)) :
      Finite Γ Ok writes (.batch body next)

omit [Inhabited V] [Inhabited C] in
theorem Script.Finite.writes {Γ : Setting V C H E} {Ok : H → Prop} {s : Script V C H E}
    (h : s.Finite Γ Ok false) : s.Finite Γ Ok true := by
  induction h with
  | done r => exact .done r
  | raise e => exact .raise e
  | look _ ih => exact .look ih
  | replace host _ ih => exact .replace host ih
  | read _ ih => exact .read ih
  | attempt _ _ passes inner ih => exact .attempt inner ih passes
  | call _ _ inner ih => exact .call inner ih
  | newWire may | write may | freeze may | dispose may | batch may => cases may

/-- A setting in which values are compared by scripts that only read, in which the trackers that are
told of a change are subscribers, and whose observer keeps `Ok`. -/
structure Setting.Finite (Γ : Setting V C H E) (Ok : H → Prop) : Prop where
  same : ∀ old new, (Γ.same old new).Finite Γ Ok false
  arrange : ∀ n ts, Γ.arrange n ts ⊆ ts
  notice : ∀ m g h, Ok h → Ok (Γ.notice m g h)

/-- A world in which effects are finite scripts and derived values only read. -/
structure World.Tame (Γ : Setting V C H E) (Ok : H → Prop) (w : World V C H) : Prop where
  host : Ok w.host
  depth : 0 ≤ w.graph.depth
  effect : ∀ i, i < w.graph.effects.size →
    (Γ.body (w.graph.effect i).body).Finite Γ Ok true
  derived : ∀ i, i < w.graph.deriveds.size →
    (Γ.body (w.graph.derived i).body).Finite Γ Ok false

section

variable {Γ : Setting V C H E} {Ok : H → Prop} {failure : Option E} {w w' : World V C H}

theorem World.Tame.of_code (tame : w.Tame Γ Ok) (host : Ok w'.host)
    (depth : 0 ≤ w'.graph.depth) (code : w.graph.SameCode w'.graph) : w'.Tame Γ Ok where
  host := host
  depth := depth
  effect i present := by
    rw [code.effect]
    exact tame.effect i (code.effects ▸ present)
  derived i present := by
    rw [code.derived]
    exact tame.derived i (code.deriveds ▸ present)

theorem World.Tame.of_calm (tame : w.Tame Γ Ok) (calm : Calm Γ Ok w failure w') :
    w'.Tame Γ Ok :=
  tame.of_code calm.host (calm.depth ▸ tame.depth) calm.code

end

def marked (bound : Nat) (p : Nat → Bool) : Nat :=
  ((Finset.range bound).filter fun i => p i = true).card

theorem marked_le (fewer : ∀ i, q i = true → p i = true) : marked bound q ≤ marked bound p :=
  Finset.card_le_card fun i mem => by
    rw [Finset.mem_filter] at mem ⊢
    exact ⟨mem.1, fewer i mem.2⟩

theorem marked_lt (fewer : ∀ i, q i = true → p i = true)
    (present : i < bound) (before : p i = true) (after : q i = false) :
    marked bound q < marked bound p := by
  refine Finset.card_lt_card ⟨?_, fun subset => ?_⟩
  · intro j mem
    rw [Finset.mem_filter] at mem ⊢
    exact ⟨mem.1, fewer j mem.2⟩
  · have mem : i ∈ (Finset.range bound).filter fun i => p i = true :=
      Finset.mem_filter.mpr ⟨Finset.mem_range.mpr present, before⟩
    have still := (Finset.mem_filter.mp (subset mem)).2
    rw [after] at still
    cases still

namespace Graph

def vacant (g : Graph V C) : Nat :=
  marked g.deriveds.size fun i => !(g.derived i).computing

def clean (g : Graph V C) : Nat :=
  marked g.deriveds.size fun i => !(g.derived i).dirty

def idle (g : Graph V C) : Nat :=
  marked g.effects.size fun i => !(g.effect i).running

end Graph

theorem Graph.vacant_eq {g g' : Graph V C} (code : g.SameCode g') (activity : g.SameActivity g') :
    g'.vacant = g.vacant := by
  unfold Graph.vacant
  simp only [code.deriveds, activity.computing]

theorem Graph.idle_eq {g g' : Graph V C} (code : g.SameCode g') (activity : g.SameActivity g') :
    g'.idle = g.idle := by
  unfold Graph.idle
  simp only [code.effects, activity.running]

namespace Run

variable {Γ : Setting V C H E} {Ok : H → Prop} {failure : Option E}

omit [Inhabited V] [Inhabited C] in
theorem halts_still {P : Option E → World V C H → Prop} {m : Nat → Run V C H E Unit} {w : World V C H}
    (halts : Halts P m w) : Halts P (fun n => m n >>= fun _ => Pure.pure (none : Option V)) w :=
  halts.bind (fun _ _ h => h) fun _ _ h => halts_pure _ h

section Telling

/-- What telling leaves as it was, and that no derived value gets up to date by it. -/
structure Told (Γ : Setting V C H E) (Ok : H → Prop) (w : World V C H) (failure : Option E)
    (w' : World V C H) : Prop where
  calm : Calm Γ Ok w failure w'
  clean : w'.graph.clean ≤ w.graph.clean

theorem Told.refl {w : World V C H} (host : Ok w.host) : Told Γ Ok w failure w :=
  ⟨.refl host, Nat.le_refl _⟩

theorem Told.trans {u v w : World V C H} (a : Told Γ Ok u none v) (b : Told Γ Ok v failure w) :
    Told Γ Ok u failure w :=
  ⟨a.calm.trans b.calm, Nat.le_trans b.clean a.clean⟩

variable {w : World V C H}

theorem halts_executeEffect_inside (finite : Γ.Finite Ok) (host : Ok w.host)
    (deep : 0 < w.graph.depth) (i : Nat) :
    Halts (Told Γ Ok w) (fun n => perform Γ n (.execute (.effect i))) w := by
  refine halts_perform (halts_still ?_)
  cases disposed : (w.graph.effect i).disposed with
  | true => exact halts_of_ok (fun _ => executeEffect_disposed disposed) (.refl host)
  | false =>
    cases running : (w.graph.effect i).running with
    | true =>
      refine halts_of_ok (fun _ => executeEffect_running disposed running) ⟨?_, Nat.le_refl _⟩
      exact .modifyEffect host i (fun e => { e with rerun := true }) (fun _ => rfl) fun _ => rfl
    | false =>
      refine halts_of_ok (fun _ => executeEffect_waiting disposed running deep)
        ⟨⟨finite.notice _ _ _ host, ?_, ?_, rfl, fun outside _ => ?_⟩, Nat.le_refl _⟩
      · exact Graph.sameActivity_enqueue _ _
      · exact ⟨rfl, fun _ => rfl, rfl, fun _ => rfl⟩
      · omega

theorem dirty_invalidate (i j : Nat) :
    ((w.update (·.invalidate i)).graph.derived j).dirty =
      if i = j ∧ j < w.graph.deriveds.size then true else (w.graph.derived j).dirty := by
  change ((w.graph.modifyDerived i fun d => { d with dirty := true }).derived j).dirty = _
  rw [Graph.derived_modifyDerived]
  split <;> rfl

theorem clean_of_invalidate (clean : (!((w.update (·.invalidate i)).graph.derived j).dirty) = true) :
    (!(w.graph.derived j).dirty) = true := by
  rw [dirty_invalidate] at clean
  split at clean
  · cases clean
  · exact clean

theorem told_invalidate (host : Ok w.host) (i : Nat) :
    Told Γ Ok w failure (w.update (·.invalidate i)) := by
  have calm : Calm Γ Ok w failure (w.update (·.invalidate i)) :=
    .modifyDerived host i (fun d => { d with dirty := true }) (fun _ => rfl) fun _ => rfl
  refine ⟨calm, ?_⟩
  unfold Graph.clean
  rw [calm.code.deriveds]
  exact marked_le fun _ => clean_of_invalidate

theorem clean_invalidate {i : Nat} (present : i < w.graph.deriveds.size)
    (clean : (w.graph.derived i).dirty = false) :
    (w.update (·.invalidate i)).graph.clean < w.graph.clean := by
  have size : (w.update (·.invalidate i)).graph.deriveds.size = w.graph.deriveds.size :=
    Array.size_modify
  unfold Graph.clean
  rw [size]
  refine marked_lt (fun _ => clean_of_invalidate) present (by rw [clean]; rfl) ?_
  rw [dirty_invalidate, if_pos ⟨rfl, present⟩]
  rfl

theorem tell_absent (finite : Γ.Finite Ok) {i : Nat} (absent : w.graph.deriveds.size ≤ i)
    (again : Task V C H E → Run V C H E (Option V)) :
    tell Γ again (.derived i) w = .ok () (w.update Graph.tick) := by
  have none : w.graph.subscribers (.derived i) = [] := by
    rw [Graph.subscribers, Graph.derived_of_size_le absent]
    rfl
  rw [tell_apply, none, List.subset_nil.mp (finite.arrange w.graph.ticks [])]
  rfl

theorem told_tick (host : Ok w.host) : Told Γ Ok w failure (w.update Graph.tick) :=
  ⟨⟨host, Graph.sameActivity_tick _, ⟨rfl, fun _ => rfl, rfl, fun _ => rfl⟩, rfl, fun _ _ => .inl rfl⟩,
    Nat.le_refl _⟩

theorem halts_executeDerived_inside (finite : Γ.Finite Ok) (host : Ok w.host)
    (deep : 0 < w.graph.depth)
    (tells : ∀ w' : World V C H, Ok w'.host → 0 < w'.graph.depth →
      w'.graph.clean < w.graph.clean → ∀ s,
        Halts (Told Γ Ok w') (fun n => tell Γ (perform Γ n) s) w') (i : Nat) :
    Halts (Told Γ Ok w) (fun n => perform Γ n (.execute (.derived i))) w := by
  refine halts_perform (halts_still ?_)
  cases dirty : (w.graph.derived i).dirty with
  | true => exact halts_of_ok (fun _ => executeDerived_dirty dirty) (.refl host)
  | false =>
    have invalid : Told Γ Ok w none _ := told_invalidate host i
    have told : Halts (Told Γ Ok w) (fun n => tell Γ (perform Γ n) (.derived i))
        (w.update (·.invalidate i)) := by
      by_cases present : i < w.graph.deriveds.size
      · exact (tells _ invalid.calm.host (invalid.calm.depth ▸ deep)
          (clean_invalidate present dirty) _).mono fun _ _ => invalid.trans
      · have absent : (w.update (·.invalidate i)).graph.deriveds.size ≤ i := by
          rw [invalid.calm.code.deriveds]
          exact Nat.le_of_not_lt present
        exact halts_of_ok (fun _ => tell_absent finite absent _)
          (invalid.trans (told_tick invalid.calm.host))
    exact told.of_eq 0 fun _ _ => executeDerived_clean dirty

theorem halts_executeAll {w' : World V C H} (told : Told Γ Ok w none w')
    (each : ∀ w', Told Γ Ok w none w' → ∀ t,
      Halts (Told Γ Ok w') (fun n => perform Γ n (.execute t)) w') (ts : List Tracker) :
    Halts (Told Γ Ok w) (fun n => executeAll (perform Γ n) ts) w' := by
  induction ts generalizing w' with
  | nil => exact halts_pure () told
  | cons t ts ih =>
    exact (each w' told t).bind (fun _ _ h => told.trans h) fun _ _ h => ih (told.trans h)

theorem halts_tell (finite : Γ.Finite Ok) (host : Ok w.host) (deep : 0 < w.graph.depth)
    (s : Source) : Halts (Told Γ Ok w) (fun n => tell Γ (perform Γ n) s) w := by
  induction count : w.graph.clean using Nat.strong_induction_on generalizing w s with
  | _ k ih =>
    subst count
    have ticked : Told Γ Ok w none (w.update Graph.tick) := told_tick host
    refine Halts.mono (halts_executeAll (w := w) ticked ?_ _) fun _ _ h => h
    intro w' told t
    have host' := told.calm.host
    have deep' : 0 < w'.graph.depth := told.calm.depth ▸ deep
    cases t with
    | effect i => exact halts_executeEffect_inside finite host' deep' i
    | derived i =>
      refine halts_executeDerived_inside finite host' deep' (fun u host deep fewer s => ?_) i
      exact ih _ (Nat.lt_of_lt_of_le fewer told.clean) host deep s rfl

end Telling

/-- What finite scripts need of worlds in order to halt in them: that reading does, and, if they
write, that writing and the end of a batch do. -/
structure Ready (Γ : Setting V C H E) (Ok : H → Prop) (writes : Bool)
    (P : World V C H → Prop) : Prop where
  tame : ∀ {w}, P w → w.Tame Γ Ok
  calm : ∀ {w failure w'}, P w → Calm Γ Ok w failure w' → P w'
  value : ∀ {w} i, P w → Halts (Calm Γ Ok w) (fun n => perform Γ n (.value i)) w
  enter : writes = true → ∀ {w}, P w → P (w.update Graph.enter)
  write : writes = true → ∀ {w} i v, P w →
    Halts (Calm Γ Ok w) (fun n => writeWire Γ (perform Γ n) i v) w
  leave : writes = true → ∀ {w failure w'}, P w → Calm Γ Ok (w.update Graph.enter) failure w' →
    Halts (Calm Γ Ok w) (fun n => perform Γ n .leave) w'

section Scripts

variable {writes : Bool} {P : World V C H → Prop} {w : World V C H}

theorem calm_read (finite : Γ.Finite Ok) (host : Ok w.host) (s : Source) (v : V) :
    Calm Γ Ok w failure (w.read Γ s v) :=
  .of_relinks (finite.notice _ _ _ host) (Graph.relinks_track w.graph s)

theorem Ready.readSource (ready : Ready Γ Ok writes P) (finite : Γ.Finite Ok)
    (holds : P w) (s : Source) :
    Halts (Calm Γ Ok w) (fun n => readSource Γ (perform Γ n) s) w := by
  have host := (ready.tame holds).host
  cases s with
  | wire i =>
    by_cases present : i < w.graph.wires.size
    · exact halts_of_ok (fun _ => readSource_wire present) (calm_read finite host _ _)
    · exact halts_of_ok (fun _ => readSource_absent present) (.refl host)
  | derived i =>
    exact (ready.value i holds).bind (fun _ _ h => h) fun _ _ h => halts_pure _ h

theorem Ready.leaveBatch (ready : Ready Γ Ok writes P) (may : writes = true) (holds : P w)
    (calm : Calm Γ Ok (w.update Graph.enter) failure w') :
    Halts (Calm Γ Ok w) (fun n => Run.leave (perform Γ n)) w' :=
  (ready.leave may holds calm).bind (fun _ _ h => h) fun _ _ h => halts_pure _ h

theorem Ready.exec (ready : Ready Γ Ok writes P) (finite : Γ.Finite Ok)
    {s : Script V C H E} (script : s.Finite Γ Ok writes) (holds : P w) :
    Halts (Calm Γ Ok w) (fun n => exec Γ (perform Γ n) s) w := by
  -- What follows a part of the script that leaves the world calm.
  have later {α : Type} {m : Nat → Run V C H E α} {k : α → Script V C H E} {w : World V C H}
      (holds : P w) (halts : Halts (Calm Γ Ok w) m w)
      (ih : ∀ a w', P w' → Halts (Calm Γ Ok w') (fun n => Run.exec Γ (perform Γ n) (k a)) w') :
      Halts (Calm Γ Ok w) (fun n => m n >>= fun a => Run.exec Γ (perform Γ n) (k a)) w :=
    halts.bind (fun _ _ h => h) fun a w' h => (ih a w' (ready.calm holds h)).mono fun _ _ => h.trans
  induction script generalizing w with
  | done r => exact halts_pure r (.refl (ready.tame holds).host)
  | raise e => exact halts_of_raised (fun _ => rfl) (.refl (ready.tame holds).host)
  | @look next _ ih =>
    exact (ih w.graph w.host (ready.tame holds).host holds).of_eq 0 fun _ _ => rfl
  | @replace h next host _ ih =>
    have replaced : Calm Γ Ok w none { w with host := h } := .of_graph_eq host rfl
    exact ((ih (ready.calm holds replaced)).mono fun _ _ => replaced.trans).of_eq 0 fun _ _ => rfl
  | read _ ih => exact later holds (ready.readSource finite holds _) fun a w' h => ih a h
  | attempt _ _ passes ihBody ih =>
    refine (ihBody holds).attempt_bind (fun a w' h => ?_) fun e w' h => ?_
    · exact (ih _ (ready.calm holds h)).mono fun _ _ => h.trans
    · cases hc : Γ.caught e with
      | true =>
        exact (ih _ (ready.calm holds h)).mono fun _ _ => (h.of_caught hc).trans
      | false =>
        rw [passes e hc]
        exact halts_of_raised (fun _ => rfl) h
  | call _ _ ihBody ih =>
    exact later holds (halts_perform (ihBody holds)) fun a w' h => ih a h
  | @newWire v next _ _ ih =>
    have added : Calm Γ Ok w none (w.update (·.addWire v)) :=
      ⟨(ready.tame holds).host, Graph.sameActivity_addWire _ _,
        ⟨rfl, fun _ => rfl, rfl, fun _ => rfl⟩, rfl, fun _ _ => .inl rfl⟩
    exact ((ih _ (ready.calm holds added)).mono fun _ _ => added.trans).of_eq 0 fun _ _ => rfl
  | write may _ ih =>
    exact later (k := fun _ => _) holds (ready.write may _ _ holds) fun _ w' h => ih h
  | @freeze i next _ _ ih =>
    have frozen : Calm Γ Ok w none (w.update (·.freeze i)) := .modifyWire (ready.tame holds).host _ _
    exact ((ih (ready.calm holds frozen)).mono fun _ _ => frozen.trans).of_eq 0 fun _ _ => rfl
  | @dispose i next _ _ ih =>
    have host := (ready.tame holds).host
    have marked : Calm Γ Ok w none (w.update (·.modifyEffect i fun e => { e with disposed := true })) :=
      .modifyEffect host i _ (fun _ => rfl) fun _ => rfl
    have disposed : Calm Γ Ok w none (w.dispose Γ i) :=
      marked.trans (.of_relinks (finite.notice _ _ _ host) (Graph.relinks_dispose w.graph i))
    exact ((ih (ready.calm holds disposed)).mono fun _ _ => disposed.trans).of_eq 0 fun _ _ => rfl
  | @batch body next may _ _ ihBody ih =>
    have inner := ihBody (ready.enter may holds)
    have whole : Halts (Calm Γ Ok w) (fun n => Run.ensure
        (Run.exec Γ (perform Γ n) body) fun _ => Run.leave (perform Γ n))
        (w.update Graph.enter) :=
      inner.ensure _ fun former w' h => (ready.leaveBatch may holds h).mono fun _ _ h => h.or former
    have all := whole.bind (f := fun n r => Run.exec Γ (perform Γ n) (next r))
      (fun _ _ h => h) fun a w' h => (ih a (ready.calm holds h)).mono fun _ _ => h.trans
    exact all.of_eq 0 fun _ _ => rfl

theorem body_begin (t u : Tracker) : (w.begin Γ t).graph.body u = w.graph.body u :=
  (Graph.relinks_forget w.graph t).sameCode.body u

theorem calm_finish (finite : Γ.Finite Ok) {t : Tracker} {failure : Option E}
    {w' : World V C H} (calm : Calm Γ Ok (w.begin Γ t) failure w') :
    Calm Γ Ok w failure (w'.finish Γ t failure) := by
  have forgot := Graph.relinks_forget w.graph t
  refine ⟨finite.notice _ _ _ calm.host, ?_, ?_, ?_, ?_⟩
  · exact forgot.sameActivity.trans (Graph.SameActivity.pop calm.activity)
  · have code := forgot.sameCode.trans
      ⟨calm.code.effects, calm.code.effect, calm.code.deriveds, calm.code.derived⟩
    exact ⟨code.effects, code.effect, code.deriveds, code.derived⟩
  · exact calm.depth.trans forgot.depth
  · intro outside caught
    rw [← forgot.queue]
    exact calm.queue (forgot.depth.trans outside) caught

theorem Ready.runTracked (ready : Ready Γ Ok writes P) (finite : Γ.Finite Ok)
    {t : Tracker} (body : (Γ.body (w.graph.body t)).Finite Γ Ok writes)
    (begun : P (w.begin Γ t)) :
    Halts (Calm Γ Ok w) (fun n => Run.runTracked Γ (perform Γ n) t) w := by
  have script : (Γ.body ((w.begin Γ t).graph.body t)).Finite Γ Ok writes := by
    rw [body_begin]
    exact body
  have run : Halts (Calm Γ Ok (w.begin Γ t)) (fun n =>
      perform Γ n (.script (Γ.body ((w.begin Γ t).graph.body t))))
      (w.begin Γ t) := halts_perform (ready.exec finite script begun)
  have closed := run.ensure (Q := Calm Γ Ok w) (fun _ failure =>
    modify Graph.pop >>= fun _ => notice Γ (.ended t failure)) fun failure w' calm =>
      halts_of_ok (fun _ => finish_apply t failure w') (calm_finish finite calm)
  exact closed.of_eq 0 fun _ _ => runTracked_apply t w

end Scripts

section Values

variable {w : World V C H}

theorem tame_begin (finite : Γ.Finite Ok) (tame : w.Tame Γ Ok) (t : Tracker) :
    (w.begin Γ t).Tame Γ Ok := by
  have forgot := Graph.relinks_forget w.graph t
  refine tame.of_code (finite.notice _ _ _ tame.host) (forgot.depth ▸ tame.depth) ?_
  exact ⟨forgot.effects, forgot.sameCode.effect, forgot.deriveds, forgot.sameCode.derived⟩

theorem vacant_begin (t : Tracker) : (w.begin Γ t).graph.vacant = w.graph.vacant := by
  have forgot := Graph.relinks_forget w.graph t
  have same : (w.graph.forget t).vacant = w.graph.vacant :=
    Graph.vacant_eq forgot.sameCode forgot.sameActivity
  exact same

theorem vacant_setComputing (present : i < w.graph.deriveds.size)
    (vacant : (w.graph.derived i).computing = false) :
    (w.update (·.setComputing i true)).graph.vacant < w.graph.vacant := by
  have size : (w.update (·.setComputing i true)).graph.deriveds.size = w.graph.deriveds.size :=
    Array.size_modify
  unfold Graph.vacant
  rw [size]
  have now (j : Nat) : ((w.update (·.setComputing i true)).graph.derived j).computing =
      if i = j ∧ j < w.graph.deriveds.size then true else (w.graph.derived j).computing := by
    change ((w.graph.modifyDerived i fun d => { d with computing := true }).derived j).computing = _
    rw [Graph.derived_modifyDerived]
    split <;> rfl
  refine marked_lt (fun j still => ?_) present (by rw [vacant]; rfl) ?_
  · rw [now] at still
    split at still
    · cases still
    · exact still
  · rw [now, if_pos ⟨rfl, present⟩]
    rfl

theorem ready_reads (k : Nat)
    (values : ∀ {w : World V C H} i, w.Tame Γ Ok → w.graph.vacant < k →
      Halts (Calm Γ Ok w) (fun n => perform Γ n (.value i)) w) :
    Ready Γ Ok false fun w => w.Tame Γ Ok ∧ w.graph.vacant < k where
  tame h := h.1
  calm h calm := ⟨h.1.of_calm calm, Graph.vacant_eq calm.code calm.activity ▸ h.2⟩
  value i h := values i h.1 h.2
  enter may := by cases may
  write may := by cases may
  leave may := by cases may

theorem calm_computed (idle : (w.graph.derived i).computing = false)
    (calm : Calm Γ Ok (w.update (·.setComputing i true)) failure w') :
    Calm Γ Ok w failure (w'.update (·.setComputing i false)) := by
  have starts : w.graph.SameCode (w.update (·.setComputing i true)).graph :=
    Graph.sameCode_modifyDerived _ i fun _ => rfl
  have ends : w'.graph.SameCode (w'.update (·.setComputing i false)).graph :=
    Graph.sameCode_modifyDerived _ i fun _ => rfl
  exact ⟨calm.host, Graph.SameActivity.endComputing idle calm.activity,
    (starts.trans calm.code).trans ends, calm.depth, calm.queue⟩

theorem halts_compute (finite : Γ.Finite Ok) (tame : w.Tame Γ Ok)
    (ready : Ready Γ Ok false fun w' => w'.Tame Γ Ok ∧ w'.graph.vacant < w.graph.vacant)
    (present : i < w.graph.deriveds.size) (idle : (w.graph.derived i).computing = false) :
    Halts (Calm Γ Ok w) (fun n => compute Γ (perform Γ n) i) w := by
  have starts : w.graph.SameCode (w.update (·.setComputing i true)).graph :=
    Graph.sameCode_modifyDerived _ i fun _ => rfl
  have tame' : (w.update (·.setComputing i true)).Tame Γ Ok :=
    tame.of_code tame.host tame.depth starts
  have body : (Γ.body ((w.update (·.setComputing i true)).graph.body (.derived i))).Finite
      Γ Ok false := by
    rw [starts.body]
    exact tame.derived i present
  have run := ready.runTracked finite body
    ⟨tame_begin finite tame' _, by rw [vacant_begin]; exact vacant_setComputing present idle⟩
  have closed := run.ensure (Q := Calm Γ Ok w)
    (fun _ _ => modify (·.setComputing i false)) fun _ w' calm =>
      halts_of_ok (fun _ => rfl) (calm_computed idle calm)
  have kept := closed.bind (Q := Calm Γ Ok w) (f := fun _ r => modify (·.keep i (r.getD default)))
    (fun _ _ h => h) fun r w' calm => halts_of_ok (fun _ => rfl) (calm.trans
      (.modifyDerived calm.host i (fun d => { d with cache := r.getD default, dirty := false })
        (fun _ => rfl) fun _ => rfl))
  exact kept.of_eq 0 fun _ _ => compute_apply i w

theorem halts_value (finite : Γ.Finite Ok) (i : Nat) (tame : w.Tame Γ Ok) :
    Halts (Calm Γ Ok w) (fun n => perform Γ n (.value i)) w := by
  induction count : w.graph.vacant using Nat.strong_induction_on generalizing w i with
  | _ k ih =>
    subst count
    have ready : Ready Γ Ok false fun w' : World V C H =>
        w'.Tame Γ Ok ∧ w'.graph.vacant < w.graph.vacant :=
      ready_reads w.graph.vacant fun i tame few => ih _ few i tame rfl
    have touch {w' : World V C H} (calm : Calm Γ Ok w none w') : Halts (Calm Γ Ok w) (fun _ =>
        modify (·.track (.derived i)) >>= fun _ => graph >>= fun g =>
          notice Γ (.read (.derived i) (g.derived i).cache) >>= fun _ =>
            (Pure.pure (g.derived i).cache : Run V C H E V)) w' :=
      halts_of_ok (fun _ => rfl) (calm.trans (calm_read finite calm.host _ _))
    have read : Halts (Calm Γ Ok w) (fun n => derivedValue Γ (perform Γ n) i) w := by
      by_cases present : i < w.graph.deriveds.size
      · cases computing : (w.graph.derived i).computing with
        | true =>
          exact halts_of_raised (fun _ => derivedValue_circular present computing)
            (.refl tame.host)
        | false =>
          cases dirty : (w.graph.derived i).dirty with
          | false =>
            exact (touch (.refl tame.host)).of_eq 0 fun _ _ =>
              derivedValue_clean present computing dirty
          | true =>
            have computed := halts_compute finite tame ready present computing
            exact (computed.bind (fun _ _ h => h) fun _ _ calm => touch calm).of_eq 0
              fun _ _ => derivedValue_dirty present computing dirty
      · exact halts_of_ok (fun _ => derivedValue_absent (Nat.le_of_not_lt present))
          (.refl tame.host)
    exact halts_perform (read.bind (fun _ _ h => h) fun _ _ h => halts_pure _ h)

theorem halts_same (finite : Γ.Finite Ok) (tame : w.Tame Γ Ok) (old new : V) :
    Halts (Calm Γ Ok w) (fun n => perform Γ n (.script (Γ.same old new))) w := by
  have ready : Ready Γ Ok false fun w' : World V C H =>
      w'.Tame Γ Ok ∧ w'.graph.vacant < w.graph.vacant + 1 :=
    ready_reads (w.graph.vacant + 1) fun i tame _ => halts_value finite i tame
  exact halts_perform (ready.exec finite (finite.same old new) ⟨tame, Nat.lt_succ_self _⟩)

end Values

section Effects

variable {w : World V C H}

def Few (Γ : Setting V C H E) (Ok : H → Prop) (k : Nat) (w : World V C H) : Prop :=
  w.Tame Γ Ok ∧ w.graph.idle < k

theorem Few.of_calm (few : Few Γ Ok k w) (calm : Calm Γ Ok w failure w') : Few Γ Ok k w' :=
  ⟨few.1.of_calm calm, Graph.idle_eq calm.code calm.activity ▸ few.2⟩

omit [Inhabited V] in
theorem idle_setRunning (present : i < w.graph.effects.size)
    (idle : (w.graph.effect i).running = false) :
    (w.update (·.setRunning i true)).graph.idle < w.graph.idle := by
  have size : (w.update (·.setRunning i true)).graph.effects.size = w.graph.effects.size :=
    Array.size_modify
  unfold Graph.idle
  rw [size]
  have now (j : Nat) : ((w.update (·.setRunning i true)).graph.effect j).running =
      if i = j ∧ j < w.graph.effects.size then true else (w.graph.effect j).running := by
    change ((w.graph.modifyEffect i fun e => { e with running := true }).effect j).running = _
    rw [Graph.effect_modifyEffect]
    split <;> rfl
  refine marked_lt (fun j still => ?_) present (by rw [idle]; rfl) ?_
  · rw [now] at still
    split at still
    · cases still
    · exact still
  · rw [now, if_pos ⟨rfl, present⟩]
    rfl

theorem idle_begin (t : Tracker) : (w.begin Γ t).graph.idle = w.graph.idle := by
  have forgot := Graph.relinks_forget w.graph t
  have same : (w.graph.forget t).idle = w.graph.idle :=
    Graph.idle_eq forgot.sameCode forgot.sameActivity
  exact same

theorem halts_settle (finite : Γ.Finite Ok) (ready : Ready Γ Ok true (Few Γ Ok k))
    (present : i < w.graph.effects.size) (few : Few Γ Ok k w) (m : Nat) :
    Halts (Calm Γ Ok w) (fun n => settle Γ (perform Γ n) i m) w := by
  induction m generalizing w with
  | zero =>
    exact halts_of_raised (fun _ => settle_zero i w)
      (.of_graph_eq (finite.notice _ _ _ few.1.host) rfl)
  | succ m ih =>
    have counted : Calm Γ Ok w none (w.update (·.countRun i)) := .modifyEffect few.1.host i
      (fun e => { e with rerun := false, runs := e.runs + 1 }) (fun _ => rfl) fun _ => rfl
    have few' := few.of_calm counted
    have body : (Γ.body ((w.update (·.countRun i)).graph.body (.effect i))).Finite
        Γ Ok true := by
      rw [counted.code.body]
      exact few.1.effect i present
    have run := ready.runTracked finite body
      ⟨tame_begin finite few'.1 _, by rw [idle_begin]; exact few'.2⟩
    have again := run.bind (Q := Calm Γ Ok w) (f := fun n _ => graph >>= fun g =>
      if (g.effect i).rerun && !(g.effect i).disposed then settle Γ (perform Γ n) i m
      else Pure.pure ()) (fun _ _ h => counted.trans h) fun _ w' calm => by
        have whole := counted.trans calm
        cases more : (w'.graph.effect i).rerun && !(w'.graph.effect i).disposed with
        | true =>
          have next := ih (whole.code.effects ▸ present) (few.of_calm whole)
          refine (next.mono fun _ _ => whole.trans).of_eq 0 fun _ _ => ?_
          rw [graph_bind, more]
          rfl
        | false =>
          refine halts_of_ok (a := ()) (fun _ => ?_) whole
          rw [graph_bind, more]
          rfl
    exact again.of_eq 0 fun n _ => settle_succ i m w

theorem calm_ran (idle : (w.graph.effect i).running = false)
    (calm : Calm Γ Ok (w.update (·.setRunning i true)) failure w') :
    Calm Γ Ok w failure (w'.update (·.setRunning i false)) := by
  have starts : w.graph.SameCode (w.update (·.setRunning i true)).graph :=
    Graph.sameCode_modifyEffect _ i fun _ => rfl
  have ends : w'.graph.SameCode (w'.update (·.setRunning i false)).graph :=
    Graph.sameCode_modifyEffect _ i fun _ => rfl
  exact ⟨calm.host, Graph.SameActivity.endRunning idle calm.activity,
    (starts.trans calm.code).trans ends, calm.depth, calm.queue⟩

theorem halts_runEffect (finite : Γ.Finite Ok) (tame : w.Tame Γ Ok)
    (ready : Ready Γ Ok true (Few Γ Ok w.graph.idle)) (present : i < w.graph.effects.size)
    (idle : (w.graph.effect i).running = false) :
    Halts (Calm Γ Ok w) (fun n => runEffect Γ (perform Γ n) i) w := by
  have starts : w.graph.SameCode (w.update (·.setRunning i true)).graph :=
    Graph.sameCode_modifyEffect _ i fun _ => rfl
  have few : Few Γ Ok w.graph.idle (w.update (·.setRunning i true)) :=
    ⟨tame.of_code tame.host tame.depth starts, idle_setRunning present idle⟩
  have settled := halts_settle finite ready (starts.effects ▸ present) few (maxReruns + 1)
  have closed := settled.ensure (Q := Calm Γ Ok w)
    (fun _ _ => modify (·.setRunning i false)) fun _ w' calm =>
      halts_of_ok (fun _ => rfl) (calm_ran idle calm)
  exact closed.of_eq 0 fun _ _ => runEffect_apply i w

theorem halts_executeEffect (finite : Γ.Finite Ok) (tame : w.Tame Γ Ok)
    (ready : Ready Γ Ok true (Few Γ Ok w.graph.idle)) (i : Nat) :
    Halts (Calm Γ Ok w) (fun n => perform Γ n (.execute (.effect i))) w := by
  by_cases deep : 0 < w.graph.depth
  · exact (halts_executeEffect_inside finite tame.host deep i).mono fun _ _ told => told.calm
  · refine halts_perform (halts_still ?_)
    cases disposed : (w.graph.effect i).disposed with
    | true => exact halts_of_ok (fun _ => executeEffect_disposed disposed) (.refl tame.host)
    | false =>
      cases running : (w.graph.effect i).running with
      | true =>
        exact halts_of_ok (fun _ => executeEffect_running disposed running)
          (.modifyEffect tame.host i (fun e => { e with rerun := true }) (fun _ => rfl)
            fun _ => rfl)
      | false =>
        have present := Graph.effect_lt_of_not_disposed disposed
        exact (halts_runEffect finite tame ready present running).of_eq 0 fun _ _ =>
          executeEffect_now disposed running deep

/-- What draining leaves as it was, and that nothing is left in the queue unless a fault that no
flush catches is raised. -/
structure Drained (Γ : Setting V C H E) (Ok : H → Prop) (w : World V C H) (failure : Option E)
    (w' : World V C H) : Prop where
  calm : Calm Γ Ok w failure w'
  queue : failure.all Γ.caught = true → w'.graph.queue = []

theorem Drained.of_unqueue (drained : Drained Γ Ok (w.unqueue Γ i) failure u) :
    Drained Γ Ok w failure u := by
  obtain ⟨⟨host, ⟨stack, running, computing⟩, ⟨effects, effect, deriveds, derived⟩, depth, _⟩,
    empty⟩ := drained
  exact ⟨⟨host, ⟨stack, running, computing⟩, ⟨effects, effect, deriveds, derived⟩, depth,
    fun _ caught => .inr (empty caught)⟩, empty⟩

theorem Few.unqueue (finite : Γ.Finite Ok) (few : Few Γ Ok k w) (i : Nat) :
    Few Γ Ok k (w.unqueue Γ i) :=
  ⟨few.1.of_code (finite.notice _ _ _ few.1.host) few.1.depth
    ⟨rfl, fun _ => rfl, rfl, fun _ => rfl⟩, few.2⟩

theorem halts_drain (finite : Γ.Finite Ok) (execute : ∀ {w : World V C H} i, Few Γ Ok k w →
      Halts (Calm Γ Ok w) (fun n => perform Γ n (.execute (.effect i))) w)
    (few : Few Γ Ok k w) (outside : w.graph.depth = 0) (fuel : Nat → Nat)
    (ample : ∀ k, ∃ N, ∀ n, N ≤ n → k ≤ fuel n) (former : Option E) :
    Halts (Drained Γ Ok w) (fun n => drain Γ (perform Γ n) (fuel n) former) w := by
  induction length : w.graph.queue.length using Nat.strong_induction_on
      generalizing w fuel former with
  | _ m ih =>
    subst length
    obtain ⟨N, enough⟩ := ample 1
    have spent (n : Nat) (large : N ≤ n) : fuel n = fuel n - 1 + 1 := by
      have := enough n large
      omega
    cases queue : w.graph.queue with
    | nil =>
      have drained {failure} : Drained Γ Ok w failure w := ⟨.refl few.1.host, fun _ => queue⟩
      cases former with
      | none =>
        refine (halts_pure () drained).of_eq N fun n large => ?_
        rw [spent n large, drain_nil _ _ queue]
        rfl
      | some e =>
        have raised : Halts (Drained Γ Ok w) (fun _ => (raise e : Run V C H E Unit)) w :=
          halts_of_raised (fun _ => rfl) drained
        refine raised.of_eq N fun n large => ?_
        rw [spent n large, drain_nil _ _ queue]
        rfl
    | cons i rest =>
      have less : ∀ k, ∃ N, ∀ n, N ≤ n → k ≤ fuel n - 1 := fun k => by
        obtain ⟨M, more⟩ := ample (k + 1)
        exact ⟨M, fun n large => Nat.le_sub_of_add_le (more n large)⟩
      have few' := few.unqueue finite i
      have later {w' : World V C H} (calm : Calm Γ Ok (w.unqueue Γ i) none w')
          (former : Option E) : Halts (Drained Γ Ok w) (fun n =>
            drain Γ (perform Γ n) (fuel n - 1) former) w' := by
        have shorter : w'.graph.queue.length < w.graph.queue.length := by
          have found : (w.unqueue Γ i).graph.queue = w.graph.queue.tail := rfl
          rcases calm.queue outside rfl with same | empty
          · rw [same, found, queue]
            exact Nat.lt_succ_self _
          · rw [empty, queue]
            exact Nat.succ_pos _
        have drained := ih _ shorter (few'.of_calm calm) (calm.depth.trans outside)
          (fun n => fuel n - 1) less former rfl
        exact drained.mono fun _ u h => Drained.of_unqueue ⟨calm.trans h.calm, h.queue⟩
      refine ((execute i few').attempt_bind (fun r w' calm => later calm former)
        fun e w' calm => ?_).of_eq N fun n large =>
          (congrArg (drain Γ (perform Γ n) · former w) (spent n large)).trans (drain_cons _ _ queue)
      cases hc : Γ.caught e with
      | true =>
        refine (later (calm.of_caught hc) (former.or (some e))).of_eq 0 fun n _ => ?_
        simp only [hc, if_true]
      | false =>
        have escaped : Drained Γ Ok (w.unqueue Γ i) (some e) w' :=
          ⟨calm, fun caught => nomatch hc.symm.trans caught⟩
        refine halts_of_raised (fun n => ?_) escaped.of_unqueue
        simp only [hc]
        rfl

theorem ample_square (k : Nat) : ∃ N, ∀ n, N ≤ n → k ≤ n * n :=
  ⟨k, fun n large => Nat.le_trans large (Nat.le_mul_self n)⟩

theorem halts_leave (finite : Γ.Finite Ok) (execute : ∀ {w : World V C H} i, Few Γ Ok k w →
      Halts (Calm Γ Ok w) (fun n => perform Γ n (.execute (.effect i))) w)
    (few : Few Γ Ok k w) (calm : Calm Γ Ok (w.update Graph.enter) former w') :
    Halts (Calm Γ Ok w) (fun n => perform Γ n .leave) w' := by
  refine halts_perform (halts_still ?_)
  obtain ⟨host, ⟨stack, running, computing⟩, ⟨effects, effect, deriveds, derived⟩, entered, _⟩ := calm
  have departed : (w'.update Graph.depart).graph.depth = w.graph.depth := by
    change w'.graph.depth = w.graph.depth + 1 at entered
    change w'.graph.depth - 1 = w.graph.depth
    omega
  have code : w.graph.SameCode (w'.update Graph.depart).graph :=
    ⟨effects, effect, deriveds, derived⟩
  have activity : w.graph.SameActivity (w'.update Graph.depart).graph :=
    ⟨stack, running, computing⟩
  change w'.graph.depth = w.graph.depth + 1 at entered
  by_cases outside : w.graph.depth = 0
  · have few' : Few Γ Ok k (w'.update Graph.depart) :=
      ⟨few.1.of_code host (departed ▸ few.1.depth) code, Graph.idle_eq code activity ▸ few.2⟩
    have drained := halts_drain finite execute few' (departed.trans outside) (fun n => n * n)
      ample_square none
    refine (drained.mono fun _ u h => ?_).of_eq 0 fun n _ => leaveBatch_outermost (n * n) (by omega)
    exact ⟨h.calm.host, activity.trans h.calm.activity, code.trans h.calm.code,
      h.calm.depth.trans departed, fun _ caught => .inr (h.queue caught)⟩
  · refine halts_of_ok (fun n => leaveBatch_inner (n * n) (by omega)) ?_
    exact ⟨host, activity, code, departed, fun zero _ => absurd zero outside⟩

theorem Few.enter (few : Few Γ Ok k w) : Few Γ Ok k (w.update Graph.enter) :=
  ⟨few.1.of_code few.1.host (Int.le_add_one few.1.depth) ⟨rfl, fun _ => rfl, rfl, fun _ => rfl⟩,
    few.2⟩

theorem calm_assign (finite : Γ.Finite Ok) (host : Ok w.host) (i : Nat) (old v : V) :
    Calm Γ Ok w failure (w.assign Γ i old v) :=
  (Calm.modifyWire host i fun x => { x with value := v }).trans
    (.of_graph_eq (finite.notice _ _ _ host) rfl)

theorem halts_writeWire (finite : Γ.Finite Ok)
    (leave : ∀ {w former w'}, Few Γ Ok k w → Calm Γ Ok (w.update Graph.enter) former w' →
      Halts (Calm Γ Ok w) (fun n => perform Γ n .leave) w')
    (few : Few Γ Ok k w) (i : Nat) (v : V) :
    Halts (Calm Γ Ok w) (fun n => writeWire Γ (perform Γ n) i v) w := by
  have replaces {w' : World V C H} (calm : Calm Γ Ok w none w') (old : V) : Halts (Calm Γ Ok w)
      (fun n => replaceValue Γ (perform Γ n) i old v) w' := by
    have assigned {failure} : Calm Γ Ok w failure (w'.assign Γ i old v) :=
      calm.trans (calm_assign finite calm.host i old v)
    by_cases inside : ∃ d rest, w'.graph.stack = .derived d :: rest
    · obtain ⟨d, rest, stack⟩ := inside
      exact halts_of_raised (fun _ => replaceValue_inside stack) assigned
    · have few' := few.of_calm (@assigned none)
      have deep : 0 < ((w'.assign Γ i old v).update Graph.enter).graph.depth :=
        Int.lt_add_one_of_le few'.1.depth
      have told := halts_tell finite few'.enter.1.host deep (.wire i)
      have closed := told.ensure (Q := Calm Γ Ok w) (fun n _ => Run.leave (perform Γ n))
        fun former u h => (leave few' h.calm).bind (fun _ _ h => (assigned.trans h).or former)
          fun _ _ h => halts_pure _ ((assigned.trans h).or former)
      exact closed.of_eq 0 fun _ _ => replaceValue_outside fun d rest stack =>
        inside ⟨d, rest, stack⟩
  cases frozen : (w.graph.wire i).frozen with
  | true => exact halts_of_raised (fun _ => writeWire_frozen frozen) (.refl few.1.host)
  | false =>
    have compared := halts_same finite few.1 (w.graph.wire i).value v
    refine (compared.bind (fun _ _ h => h) fun r w' calm => ?_).of_eq 0 fun _ _ =>
      writeWire_apply frozen
    cases r with
    | some _ => exact halts_pure () calm
    | none => exact replaces calm _

theorem ready_writes (finite : Γ.Finite Ok) (k : Nat) :
    Ready Γ Ok true (Few Γ Ok k) := by
  induction k using Nat.strong_induction_on with
  | _ k ih =>
    have leave {w former w'} (few : Few Γ Ok k w)
        (calm : Calm Γ Ok (w.update Graph.enter) former w') :
        Halts (Calm Γ Ok w) (fun n => perform Γ n .leave) w' :=
      halts_leave finite (fun i few => halts_executeEffect finite few.1 (ih _ few.2) i) few calm
    exact
      { tame := fun few => few.1
        calm := fun few calm => few.of_calm calm
        value := fun i few => halts_value finite i few.1
        enter := fun _ _ few => few.enter
        write := fun _ _ i v few => halts_writeWire finite leave few i v
        leave := fun _ _ _ _ few calm => leave few calm }

theorem tame_addEffect (tame : w.Tame Γ Ok) (label : Label) {code : C}
    (script : (Γ.body code).Finite Γ Ok true) :
    (w.update (·.addEffect label code)).Tame Γ Ok where
  host := tame.host
  depth := tame.depth
  effect i present := by
    have size : (w.update (·.addEffect label code)).graph.effects.size =
        w.graph.effects.size + 1 := Array.size_push _
    change (Γ.body ((w.graph.addEffect label code).effect i).body).Finite Γ Ok true
    rw [Graph.effect_addEffect]
    split
    · exact script
    · exact tame.effect i (by omega)
  derived i present := tame.derived i present

/-- A script that ends, in a world in which all that is said here holds again. -/
def Terminates (Γ : Setting V C H E) (Ok : H → Prop) (s : Script V C H E)
    (w : World V C H) : Prop :=
  Halts (fun _ w' => w'.Tame Γ Ok) (fun n => perform Γ n (.script s)) w

theorem terminates_finite (finite : Γ.Finite Ok) (tame : w.Tame Γ Ok)
    {s : Script V C H E} (script : s.Finite Γ Ok true) : Terminates Γ Ok s w := by
  have ready := ready_writes finite (w.graph.idle + 1)
  exact halts_perform ((ready.exec finite script ⟨tame, Nat.lt_succ_self _⟩).mono fun _ _ =>
    tame.of_calm)

theorem terminates_newEffect (finite : Γ.Finite Ok) (tame : w.Tame Γ Ok)
    (label : Label) (script : (Γ.body code).Finite Γ Ok true) :
    Terminates Γ Ok (.newEffect label code fun _ => .done none) w := by
  have tame' := tame_addEffect tame label script
  have run := halts_executeEffect finite tame' (ready_writes finite _) w.graph.effects.size
  have made := run.bind (Q := fun _ u => u.Tame Γ Ok)
    (f := fun _ _ => (Pure.pure none : Run V C H E (Option V))) (fun _ _ => tame'.of_calm)
    fun _ _ calm => halts_pure _ (tame'.of_calm calm)
  exact halts_perform (made.of_eq 0 fun _ _ => rfl)

theorem terminates_endBatch (finite : Γ.Finite Ok) (tame : w.Tame Γ Ok)
    (deep : 0 < w.graph.depth) : Terminates Γ Ok (.endBatch (.done none)) w := by
  have outer : (w.update Graph.depart).Tame Γ Ok :=
    tame.of_code tame.host (Int.le_sub_one_of_lt deep) ⟨rfl, fun _ => rfl, rfl, fun _ => rfl⟩
  have back : (w.update Graph.depart).update Graph.enter = w := by
    have depth : w.graph.depth - 1 + 1 = w.graph.depth := Int.sub_add_cancel _ _
    simp only [World.update, Graph.depart, Graph.enter, depth]
  have ready := ready_writes finite (w.graph.idle + 1)
  have calm : Calm Γ Ok ((w.update Graph.depart).update Graph.enter) none w := by
    rw [back]
    exact .refl tame.host
  have left := ready.leaveBatch rfl ⟨outer, Nat.lt_succ_self _⟩ calm
  have made := left.bind (Q := fun _ u => u.Tame Γ Ok)
    (f := fun _ _ => (Pure.pure none : Run V C H E (Option V))) (fun _ _ => outer.of_calm)
    fun _ _ calm => halts_pure _ (outer.of_calm calm)
  exact halts_perform (made.of_eq 0 fun _ _ => rfl)

end Effects

end Run

/-- Propagation ends. Where effects are finite scripts and derived values only read, every script
of reads, writes, batches and branches ends, and so do the making of an effect and the end of a
batch that is open, however the effects write what the others depend on. -/
theorem propagation_terminates {setting : Setting V C H E} {Ok : H → Prop}
    (finite : setting.Finite Ok) {w : World V C H} (tame : w.Tame setting Ok) :
    (∀ s : Script V C H E, s.Finite setting Ok true → Run.Terminates setting Ok s w) ∧
    (∀ label code, (setting.body code).Finite setting Ok true →
      Run.Terminates setting Ok (.newEffect label code fun _ => .done none) w) ∧
    (0 < w.graph.depth → Run.Terminates setting Ok (.endBatch (.done none)) w) :=
  ⟨fun _ => Run.terminates_finite finite tame,
    fun label _ => Run.terminates_newEffect finite tame label,
    Run.terminates_endBatch finite tame⟩

end AttrBinder.Reactive

/-!
A page for which this holds: two effects, each of which writes what the other one reads.
-/

namespace AttrBinder

open Reactive Scenario

namespace Page

section

variable [Order] {Ok : Host → Prop}

def OnlyRead {α : Type} (Ok : Host → Prop) (m : Act α) : Prop :=
  ∀ (writes : Bool) (next : α → Action), (∀ a, (next a).Finite setting Ok writes) →
    (m next).Finite setting Ok writes

theorem onlyRead_pure {α : Type} (a : α) : OnlyRead Ok (pure a : Act α) :=
  fun _ _ later => later a

theorem OnlyRead.bind {α β : Type} {m : Act α} {f : α → Act β} (first : OnlyRead Ok m)
    (second : ∀ a, OnlyRead Ok (f a)) : OnlyRead Ok (m >>= f) :=
  fun writes next later => first writes _ fun a => second a writes next later

theorem onlyRead_read (s : Source) : OnlyRead Ok (Steps.read s : Act Value) :=
  fun _ _ later => .read later

theorem onlyRead_host : OnlyRead Ok (Steps.host : Act Host) :=
  fun _ _ later => .look fun _ h _ => later h

theorem onlyRead_misuse {α : Type} (m : Misuse) : OnlyRead Ok (Act.misuse m : Act α) :=
  fun _ _ _ => .raise _

theorem onlyRead_equalWithin (n : Nat) (a b : Value) : OnlyRead Ok (Act.equalWithin n a b) :=
  fun _ => AdmitsReading.equalWithin
    ⟨.raise, fun _ later => .look fun g h _ => later g h, fun _ _ later => .read later⟩ n a b

theorem onlyRead_contentOf (n : Nat) (v : Value) : OnlyRead Ok (Act.contentOf n v) := by
  induction n generalizing v with
  | zero => exact onlyRead_misuse _
  | succ n ih =>
    unfold Act.contentOf
    split
    · exact (onlyRead_read _).bind ih
    · exact (onlyRead_read _).bind ih
    · exact onlyRead_pure _

theorem onlyRead_truth (v : Value) : OnlyRead Ok (Act.truth v) :=
  (onlyRead_contentOf _ v).bind fun _ => onlyRead_host.bind fun _ => onlyRead_pure _

theorem setting_finite (Ok : Host → Prop) : setting.Finite Ok where
  same old new := onlyRead_equalWithin _ old new _ _ fun _ => .done _
  arrange n ts := (Order.perm n ts).subset
  notice _ _ _ host := host

/-- Two effects, each of which writes what the other one reads: the first keeps the second wire
different from the first wire, the second keeps them equal. -/
def cycleHost : Host where
  functions := #[.scripted "differ" 0 [.set "b" (.not (.get "a"))],
    .scripted "agree" 0 [.set "a" (.get "b")]]
  names := [("a", .wire 0), ("b", .wire 1)]

def cycle : World where
  graph := {
    wires := #[⟨.bool false, false, [.effect 0]⟩, ⟨.bool true, false, [.effect 1]⟩]
    effects := #[⟨.named "differ", ⟨.function 0, [], []⟩, 0, false, false, false, [.wire 0]⟩,
      ⟨.named "agree", ⟨.function 1, [], []⟩, 0, false, false, false, [.wire 1]⟩] }
  host := cycleHost

theorem differ_finite :
    (setting.body ⟨.function 0, [], []⟩).Finite setting (· = cycleHost) true := by
  refine .look fun _ h host => ?_
  subst host
  refine .look fun _ h host => ?_
  subst host
  refine .look fun _ h host => ?_
  subst host
  refine .call (.look fun _ _ _ => .read fun _ => .done _) fun v => ?_
  refine onlyRead_truth _ _ _ fun e => ?_
  exact .call (.look fun _ _ _ => .write rfl (.done _)) fun _ => .done _

theorem agree_finite :
    (setting.body ⟨.function 1, [], []⟩).Finite setting (· = cycleHost) true := by
  refine .look fun _ h host => ?_
  subst host
  refine .look fun _ h host => ?_
  subst host
  refine .look fun _ h host => ?_
  subst host
  refine .call (.look fun _ _ _ => .read fun _ => .done _) fun v => ?_
  exact .call (.look fun _ _ _ => .write rfl (.done _)) fun _ => .done _

theorem cycle_tame : cycle.Tame setting (· = cycleHost) where
  host := rfl
  depth := Int.le_refl 0
  effect i present := by
    match i, present with
    | 0, _ => exact differ_finite
    | 1, _ => exact agree_finite
  derived i absent := absurd absent (Nat.not_lt_zero i)

end

open Page.Order in
/-- A write starts the cycle, and ends with the fault of the effect that has run too often. -/
theorem propagation_terminates_cycle :
    Run.Terminates setting (· = cycleHost) (.write 0 (.bool true) (.done none)) cycle ∧
      (Run.perform setting 40 (.script (.write 0 (.bool true) (.done none))) cycle).fault?.bind
        Failure.message? = some "Effect keeps re-triggering itself (fn=differ)" := by
  refine ⟨?_, by decide +kernel⟩
  exact (propagation_terminates (setting_finite _) cycle_tame).1 _ (.write rfl (.done none))

end Page

end AttrBinder
