import AttrBinder.Proofs.Reactive.Dependency
import AttrBinder.Proofs.Reactive.Settled

/-!
Reading a source. Where every derived value that is up to date is settled, a source is read with the
value that it gives from scratch, nothing is raised, and every derived value that is up to date
afterwards is settled again (`perform_reads`). A circular read cannot happen, because what is needed
for a derived value does not need it.
-/

namespace AttrBinder.Reactive

variable {V C H E : Type} [Inhabited V] [Inhabited C]

def Frame.addAll (L : List (Source × V)) (fr : Frame V) : Frame V :=
  { fr with reads := L.reverse ++ fr.reads }

omit [Inhabited V] in
theorem Frame.addAll_append (L L' : List (Source × V)) (frs : List (Frame V)) :
    (frs.modifyHead (Frame.addAll L)).modifyHead (Frame.addAll L') =
      frs.modifyHead (Frame.addAll (L ++ L')) := by
  cases frs with
  | nil => rfl
  | cons fr outer => simp [Frame.addAll, List.modifyHead]

omit [Inhabited V] in
theorem Frame.addAll_nil (frs : List (Frame V)) : frs.modifyHead (Frame.addAll []) = frs := by
  cases frs <;> rfl

def World.beginComputing (Γ : Setting V C H E) (d : Nat) (w : World V C H) : World V C H :=
  (w.update (·.setComputing d true)).begin Γ (.derived d)

def World.endComputing (Γ : Setting V C H E) (d : Nat) (v : V) (w : World V C H) :
    World V C H :=
  ((w.finish Γ (.derived d) none).update (·.setComputing d false)).update (·.keep d v)

theorem World.graph_beginComputing (Γ : Setting V C H E) (d : Nat) (w : World V C H) :
    (w.beginComputing Γ d).graph =
      ((w.graph.setComputing d true).forget (.derived d)).push (.derived d) := rfl

theorem World.stack_beginComputing (Γ : Setting V C H E) (d : Nat) (w : World V C H) :
    (w.beginComputing Γ d).graph.stack = .derived d :: w.graph.stack :=
  congrArg (Tracker.derived d :: ·) (Graph.relinks_forget (w.graph.setComputing d true) _).stack

omit [Inhabited V] [Inhabited C] in
theorem World.graph_endComputing (Γ : Setting V C H E) (d : Nat) (v : V) (w : World V C H) :
    (w.endComputing Γ d v).graph = (w.graph.pop.setComputing d false).keep d v := rfl

theorem World.computing_beginComputing (Γ : Setting V C H E) {w : World V C H}
    (present : d < w.graph.deriveds.size) (j : Nat) :
    ((w.beginComputing Γ d).graph.derived j).computing =
      if d = j then true else (w.graph.derived j).computing := by
  rw [World.graph_beginComputing, Graph.derived_push,
    (Graph.relinks_forget _ _).derived_of Derived.computing (fun _ _ _ => rfl) j,
    Graph.computing_setComputing present]

theorem World.dependencies_endComputing (Γ : Setting V C H E) (d : Nat) (v : V)
    (w : World V C H) (t : Tracker) :
    (w.endComputing Γ d v).graph.dependencies t = w.graph.dependencies t := by
  rw [World.graph_endComputing]
  rw [(Graph.sameLinks_keep _ d v).dependencies,
    (Graph.sameLinks_setComputing _ d false).dependencies, Graph.dependencies_pop]

theorem Run.readCache_apply (Γ : Setting V C H E) (d : Nat) (w : World V C H) :
    (Run.modify (·.track (.derived d)) >>= fun _ => Run.graph >>= fun g =>
      Run.notice Γ (.read (.derived d) (g.derived d).cache) >>= fun _ =>
        Pure.pure (g.derived d).cache) w =
      .ok (w.graph.derived d).cache (w.read Γ (.derived d) (w.graph.derived d).cache) := by
  have same : ((w.graph.track (.derived d)).derived d).cache = (w.graph.derived d).cache :=
    (Graph.relinks_track w.graph _).derived_of Derived.cache (fun _ _ _ => rfl) d
  rw [← same]
  rfl

def Setting.Adds [LE H] (Γ : Setting V C H E) : Prop :=
  ∀ m g h, h ≤ Γ.notice m g h

variable [Preorder H] (S : Sheet V C H) (Γ : Setting V C H E)

/-- A world in which derived values that are up to date are settled. -/
structure Sober (w : World V C (Recorded V C H E)) : Prop where
  tracked : Tracked w
  host : S.base ≤ w.host.host
  fits : S.Fits w.graph
  settled : ∀ d, d < S.deriveds → (w.graph.derived d).dirty = false →
    S.Settled Γ w.graph (.derived d) (w.graph.derived d).cache
  computing : ∀ d, (w.graph.derived d).computing = true → (w.graph.derived d).dirty = true

/-- The innermost run, if there is one, has read some sources, which are settled. -/
structure Reads (L : List (Source × V)) (w w' : World V C (Recorded V C H E)) : Prop where
  sober : Sober S Γ w'
  activity : w.graph.SameActivity w'.graph
  ripens : w.graph.Ripens w'.graph
  grown : ∀ t ∈ w.graph.stack, ∀ s ∈ w.graph.dependencies t, s ∈ w'.graph.dependencies t
  linked : ∀ s v, (s, v) ∈ L → ∀ t rest, w.graph.stack = t :: rest → s ∈ w'.graph.dependencies t
  settled : ∀ s v, (s, v) ∈ L → S.Settled Γ w'.graph s v
  openRuns : frames w'.host.past = (frames w.host.past).modifyHead (Frame.addAll L)
  lastRuns : ∀ i, lastRun (.effect i) w'.host.past = lastRun (.effect i) w.host.past
  host : w.host.host ≤ w'.host.host
  overran : Overran w.host.past → Overran w'.host.past
  calm : Overran w'.host.past → Overran w.host.past

variable {S Γ} {w w' w'' : World V C (Recorded V C H E)}

theorem Reads.refl (h : Sober S Γ w) : Reads S Γ [] w w where
  sober := h
  activity := .refl _
  ripens := .refl _
  grown _ _ _ hs := hs
  linked _ _ hv := nomatch hv
  settled _ _ hv := nomatch hv
  openRuns := (Frame.addAll_nil _).symm
  lastRuns _ := rfl
  host := le_refl _
  overran h := h
  calm h := h

theorem Reads.trans {L L' : List (Source × V)} (a : Reads S Γ L w w')
    (b : Reads S Γ L' w' w'') : Reads S Γ (L ++ L') w w'' where
  sober := b.sober
  activity := a.activity.trans b.activity
  ripens := a.ripens.trans b.ripens
  grown t ht s hs := b.grown t (a.activity.stack.symm ▸ ht) s (a.grown t ht s hs)
  linked s v hv t rest hs := by
    have stack : w'.graph.stack = t :: rest := a.activity.stack.trans hs
    rcases List.mem_append.mp hv with first | second
    · exact b.grown t (stack ▸ List.mem_cons_self) s (a.linked s v first t rest hs)
    · exact b.linked s v second t rest stack
  settled s v hv := by
    rcases List.mem_append.mp hv with first | second
    · exact (a.settled s v first).firm b.ripens.firm
    · exact b.settled s v second
  openRuns := by rw [b.openRuns, a.openRuns, Frame.addAll_append]
  lastRuns i := (b.lastRuns i).trans (a.lastRuns i)
  host := le_trans a.host b.host
  overran h := b.overran (a.overran h)
  calm h := a.calm (b.calm h)

namespace Sober

theorem ripens (h : Sober S Γ w) (tracked : Tracked w') (host : w.host.host ≤ w'.host.host)
    (r : w.graph.Ripens w'.graph)
    (fresh : ∀ d, d < S.deriveds → (w.graph.derived d).dirty = true →
      (w'.graph.derived d).dirty = false →
        S.Settled Γ w'.graph (.derived d) (w'.graph.derived d).cache)
    (computing : ∀ d, (w'.graph.derived d).computing = true → (w'.graph.derived d).dirty = true) :
    Sober S Γ w' where
  tracked := tracked
  host := le_trans h.host host
  fits := h.fits.ripens r
  settled d hd clean := by
    cases before : (w.graph.derived d).dirty with
    | true => exact fresh d hd before clean
    | false =>
      rw [(r.clean d before).2.1]
      exact (h.settled d hd before).firm r.firm
  computing := computing

theorem value (h : Sober S Γ w) {d : Nat} {v : V} (hd : d < S.deriveds)
    (clean : (w.graph.derived d).dirty = false)
    (gives : S.Gives Γ w.graph.values (.derived d) v) : (w.graph.derived d).cache = v :=
  gives.unique (h.settled d hd clean).gives

theorem read (h : Sober S Γ w) (adds : Γ.Adds) {s : Source} {v : V}
    (there : w.graph.HasSource s) (settled : S.Settled Γ w.graph s v) :
    Reads S Γ [(s, v)] w (w.read Γ.recorded s v) where
  sober := by
    have links := Graph.relinks_track w.graph s
    have dirty := links.derived_of Derived.dirty fun _ _ _ => rfl
    have computing := links.derived_of Derived.computing fun _ _ _ => rfl
    have ripe : w.graph.Ripens (w.read Γ.recorded s v).graph := Graph.ripens_track w.graph s
    refine Sober.ripens h (h.tracked.read Γ there v) (adds _ _ _) ripe ?_ ?_
    · intro d _ before after
      rw [← dirty, ← Bool.not_eq_false] at before
      exact absurd after before
    · intro d hc
      exact (dirty d).trans (h.computing d ((computing d).symm.trans hc))
  activity := Graph.sameActivity_track w.graph s
  ripens := Graph.ripens_track w.graph s
  grown t _ := Graph.dependencies_track w.graph s t
  linked s' v' hv t rest hs := by
    obtain ⟨rfl, rfl⟩ := Prod.mk.inj (List.mem_singleton.mp hv)
    have present := (h.tracked.active t (hs ▸ List.mem_cons_self)).hasTracker
    change s' ∈ (w.graph.track s').dependencies t
    rw [Graph.track, hs]
    exact (Graph.mem_dependencies_link present).mpr (.inl ⟨rfl, rfl⟩)
  settled s' v' hv := by
    obtain ⟨rfl, rfl⟩ := Prod.mk.inj (List.mem_singleton.mp hv)
    exact settled.firm (Graph.ripens_track w.graph s').firm
  openRuns := rfl
  lastRuns _ := rfl
  host := adds _ _ _
  overran h := h.later _
  calm h := (overran_cons.mp h).resolve_left fun ⟨_, other⟩ => nomatch other

theorem look (h : Sober S Γ w) :
    Reads S Γ [] w { w with host := w.host.see none w.graph } where
  sober := ⟨h.tracked.look, h.host, h.fits, h.settled, h.computing⟩
  activity := .refl _
  ripens := .refl _
  grown _ _ _ hs := hs
  linked _ _ hv := nomatch hv
  settled _ _ hv := nomatch hv
  openRuns := (Frame.addAll_nil _).symm
  lastRuns _ := rfl
  host := le_refl _
  overran h := h.later _
  calm h := (overran_cons.mp h).resolve_left fun ⟨_, other⟩ => nomatch other

theorem replace (h : Sober S Γ w) {host : H} (grows : w.host.host ≤ host) :
    Reads S Γ [] w { w with host := { w.host with host := host } } where
  sober := ⟨h.tracked.replace host, le_trans h.host grows, h.fits, h.settled, h.computing⟩
  activity := .refl _
  ripens := .refl _
  grown _ _ _ hs := hs
  linked _ _ hv := nomatch hv
  settled _ _ hv := nomatch hv
  openRuns := (Frame.addAll_nil _).symm
  lastRuns _ := rfl
  host := grows
  overran h := h
  calm h := h

end Sober

section Computing

variable {d : Nat} (h : Sober S Γ w) (adds : Γ.Adds)
variable (present : d < w.graph.deriveds.size)
variable (idle : (w.graph.derived d).computing = false)
variable (dirty : (w.graph.derived d).dirty = true)

include dirty in
omit [Preorder H] in
theorem ripens_beginComputing (Γ : Setting V C H E) :
    w.graph.Ripens (w.beginComputing Γ.recorded d).graph := by
  have dirty' : ((w.graph.setComputing d true).derived d).dirty = true :=
    (Graph.dirty_setComputing w.graph d d true).trans dirty
  have forgotten := (Graph.ripens_setComputing w.graph d true).trans (Graph.ripens_forget _ dirty')
  exact forgotten.trans (Graph.ripens_push _ _)

include h adds present idle dirty in
theorem Sober.beginComputing : Sober S Γ (w.beginComputing Γ.recorded d) := by
  have below : Tracker.derived d ∉ w.graph.stack := h.tracked.idle (by simp [Graph.Active, idle])
  have marked : (w.graph.setComputing d true).Active (.derived d) := by
    rw [Graph.Active, Graph.computing_setComputing present, if_pos rfl]
  have links := Graph.relinks_forget (w.graph.setComputing d true) (.derived d)
  have flag (j : Nat) : ((w.beginComputing Γ.recorded d).graph.derived j).dirty =
      (w.graph.derived j).dirty := by
    rw [World.graph_beginComputing, Graph.derived_push,
      links.derived_of Derived.dirty (fun _ _ _ => rfl) j, Graph.dirty_setComputing]
  have tracked : Tracked (w.beginComputing Γ.recorded d) :=
    (h.tracked.setComputing d true below).begin Γ below marked
  refine h.ripens tracked (adds _ _ _) (ripens_beginComputing dirty Γ) ?_ ?_
  · intro j _ before after
    rw [flag, before] at after
    cases after
  · intro j computing
    rw [flag]
    by_cases same : d = j
    · exact same ▸ dirty
    · rw [World.computing_beginComputing _ present, if_neg same] at computing
      exact h.computing j computing

theorem Sober.stopComputing (h : Sober S Γ w₂) (adds : Γ.Adds)
    (present : d < w₂.graph.pop.deriveds.size)
    (stack : w₂.graph.stack = .derived d :: rest) (failure : Option E) :
    Sober S Γ ((w₂.finish Γ.recorded (.derived d) failure).update (·.setComputing d false)) ∧
      w₂.graph.Ripens (w₂.graph.pop.setComputing d false) := by
  have ripe := (Graph.ripens_pop w₂.graph).trans (Graph.ripens_setComputing _ d false)
  have idle : Tracker.derived d ∉ w₂.graph.pop.stack := by
    have distinct := h.tracked.distinct
    rw [stack] at distinct
    change Tracker.derived d ∉ w₂.graph.stack.tail
    rw [stack]
    exact (List.nodup_cons.mp distinct).1
  have flag (j : Nat) : ((w₂.graph.pop.setComputing d false).derived j).dirty =
      (w₂.graph.derived j).dirty := by
    rw [Graph.dirty_setComputing, Graph.derived_pop]
  refine ⟨h.ripens ((h.tracked.finish Γ stack failure).setComputing d false idle) (adds _ _ _) ripe
    ?_ ?_, ripe⟩
  · exact fun j _ before after => nomatch before.symm.trans ((flag j).symm.trans after)
  · intro j marked
    change ((w₂.graph.pop.setComputing d false).derived j).computing = true at marked
    rw [Graph.computing_setComputing present] at marked
    split at marked
    · cases marked
    · exact (flag j).trans (h.computing j marked)

theorem Sober.endComputing (h : Sober S Γ w₂) (adds : Γ.Adds)
    (hd : d < S.deriveds) (stack : w₂.graph.stack = .derived d :: rest)
    (traced : S.Formula Γ d L r)
    (linked : ∀ s v, (s, v) ∈ L → s ∈ w₂.graph.dependencies (.derived d))
    (settled : ∀ s v, (s, v) ∈ L → S.Settled Γ w₂.graph s v) :
    Sober S Γ (w₂.endComputing Γ.recorded d (r.getD default)) ∧
      w₂.graph.Ripens (w₂.endComputing Γ.recorded d (r.getD default)).graph ∧
      S.Settled Γ (w₂.endComputing Γ.recorded d (r.getD default)).graph
        (.derived d) (r.getD default) := by
  have present : d < w₂.graph.pop.deriveds.size := h.fits.deriveds.symm ▸ hd
  obtain ⟨stopped, ripe⟩ := h.stopComputing adds present stack none
  have present' : d < (w₂.graph.pop.setComputing d false).deriveds.size := ripe.deriveds ▸ present
  have computing : (w₂.graph.derived d).computing = true :=
    h.tracked.active (.derived d) (stack ▸ List.mem_cons_self)
  have dirty : ((w₂.graph.pop.setComputing d false).derived d).dirty = true := by
    rw [Graph.dirty_setComputing]
    exact h.computing d computing
  have kept := Graph.ripens_keep _ dirty (r.getD default)
  have ripe : w₂.graph.Ripens (w₂.endComputing Γ.recorded d (r.getD default)).graph :=
    ripe.trans kept
  have flag (j : Nat) : (((w₂.graph.pop.setComputing d false).keep d (r.getD default)).derived j).dirty =
      if d = j then false else ((w₂.graph.pop.setComputing d false).derived j).dirty :=
    Graph.dirty_keep present' _ j
  have cache : ((w₂.endComputing Γ.recorded d (r.getD default)).graph.derived d).cache =
      r.getD default := by
    rw [World.graph_endComputing, Graph.cache_keep present']
  have rests : S.Settled Γ (w₂.endComputing Γ.recorded d (r.getD default)).graph
      (.derived d)
      ((w₂.endComputing Γ.recorded d (r.getD default)).graph.derived d).cache := by
    refine .derived hd ((flag d).trans (if_pos rfl)) cache traced ?_ ?_
    · intro s v hv
      change s ∈ (w₂.endComputing Γ.recorded d (r.getD default)).graph.dependencies
        (.derived d)
      rw [World.dependencies_endComputing]
      exact linked s v hv
    · exact fun s v hv => (settled s v hv).firm ripe.firm
  refine ⟨stopped.ripens (stopped.tracked.keep d _) (le_refl _) kept ?_ ?_, ripe, by rwa [cache] at rests⟩
  · intro j _ before after
    by_cases same : d = j
    · exact same ▸ rests
    · exact nomatch before.symm.trans ((if_neg same).symm.trans ((flag j).symm.trans after))
  · intro j marked
    rw [World.graph_endComputing, Graph.computing_keep] at marked
    by_cases same : d = j
    · rw [Graph.computing_setComputing present, if_pos same] at marked
      cases marked
    · exact (flag j).trans ((if_neg same).trans (stopped.computing j marked))

include h adds idle dirty in
theorem Reads.computed (hd : d < S.deriveds)
    (reads : Reads S Γ L (w.beginComputing Γ.recorded d) w₂)
    (traced : S.Formula Γ d L r) :
    Reads S Γ [] w (w₂.endComputing Γ.recorded d (r.getD default)) ∧
      S.Settled Γ (w₂.endComputing Γ.recorded d (r.getD default)).graph
        (.derived d) (r.getD default) := by
  have below : Tracker.derived d ∉ w.graph.stack := h.tracked.idle (by simp [Graph.Active, idle])
  have begun := World.stack_beginComputing Γ.recorded d w
  have stack : w₂.graph.stack = .derived d :: w.graph.stack := reads.activity.stack.trans begun
  obtain ⟨sober, ripe, settled⟩ := reads.sober.endComputing adds hd stack traced
    (fun s v hv => reads.linked s v hv _ _ begun) reads.settled
  refine ⟨⟨sober, ?_, ?_, ?_, (fun _ _ hv => by cases hv), (fun _ _ hv => by cases hv), ?_, ?_, ?_,
    ?_, ?_⟩, settled⟩
  · have inner : ((w.graph.setComputing d true).forget (.derived d)).SameActivity w₂.graph.pop :=
      reads.activity.pop
    have marked :=
      (Graph.sameActivity_forget (w.graph.setComputing d true) (.derived d)).trans inner
    exact (marked.endComputing idle).trans
      (Graph.sameActivity_modifyDerived (w₂.graph.pop.setComputing d false) d fun _ => rfl)
  · exact ((ripens_beginComputing dirty Γ).trans reads.ripens).trans ripe
  · intro t ht s hs
    have other : t ≠ .derived d := fun same => below (same ▸ ht)
    rw [World.dependencies_endComputing]
    refine reads.grown t (begun ▸ List.mem_cons_of_mem _ ht) s ?_
    rw [World.graph_beginComputing, Graph.dependencies_push, Graph.dependencies_forget,
      if_neg other]
    rw [(Graph.sameLinks_setComputing w.graph d true).dependencies]
    exact hs
  · rw [Frame.addAll_nil]
    change (frames w₂.host.past).tail = _
    rw [reads.openRuns]
    rfl
  · exact fun i => reads.lastRuns i
  · exact le_trans (le_trans (adds _ _ _) reads.host) (adds _ _ _)
  · exact fun beyond => (reads.overran (beyond.later _)).later _
  · intro beyond
    have inner := reads.calm ((overran_cons.mp beyond).resolve_left (by rintro ⟨_, ⟨⟩⟩))
    exact (overran_cons.mp inner).resolve_left (by rintro ⟨_, ⟨⟩⟩)

end Computing

def Free (S : Sheet V C H) (Γ : Setting V C H E) (d : Nat)
    (w : World V C (Recorded V C H E)) : Prop :=
  ∀ j, Relation.ReflTransGen (S.Needs Γ w.graph.values) d j →
    (w.graph.derived j).computing = false

theorem Free.reads (h : Free S Γ d w)
    (reads : Reads S Γ L w w') : Free S Γ d w' := by
  intro j needed
  rw [reads.ripens.values] at needed
  exact (reads.activity.computing j).trans (h j needed)

theorem Free.beginComputing (h : Free S Γ d w) (present : d < w.graph.deriveds.size)
    (dirty : (w.graph.derived d).dirty = true) (hd : d < S.deriveds)
    (traced : S.Formula Γ d L r)
    (given : ∀ s v, (s, v) ∈ L → S.Gives Γ w.graph.values s v) (hj : (.derived j, u) ∈ L) :
    Free S Γ j (w.beginComputing Γ.recorded d) := by
  have needs : S.Needs Γ w.graph.values d j := ⟨L, r, u, traced, given, hj⟩
  intro k needed
  rw [(ripens_beginComputing dirty Γ).values] at needed
  have other : d ≠ k := by
    rintro rfl
    exact (Sheet.Gives.derived hd traced given).not_needed needs needed
  rw [World.computing_beginComputing _ present, if_neg other]
  exact h k (needed.head needs)

namespace Run

section Parts

variable (adds : Γ.Adds)
variable {again : Task V C (Recorded V C H E) E → Run V C (Recorded V C H E) E (Option V)}
variable (hscript : ∀ {script : Script V C H E} {L : List (Source × V)} {r : Option V}
  {w : World V C (Recorded V C H E)}, Sober S Γ w → script.Traces Γ w.host.host L r →
  (∀ s v, (s, v) ∈ L → S.Gives Γ w.graph.values s v) →
  (∀ j u, (.derived j, u) ∈ L → Free S Γ j w) →
  Yields (again (.script script.recorded)) w fun r' w' => r' = r ∧ Reads S Γ L w w')
variable (hvalue : ∀ {d : Nat} {v : V} {w : World V C (Recorded V C H E)}, Sober S Γ w →
  S.Gives Γ w.graph.values (.derived d) v → Free S Γ d w →
  Yields (again (.value d)) w fun r w' => r = some v ∧ Reads S Γ [(.derived d, v)] w w')

include adds hscript in
theorem reads_compute (h : Sober S Γ w)
    (hd : d < S.deriveds) (traced : S.Formula Γ d L r)
    (given : ∀ s v, (s, v) ∈ L → S.Gives Γ w.graph.values s v) (free : Free S Γ d w)
    (dirty : (w.graph.derived d).dirty = true) :
    Yields (compute Γ.recorded again d) w fun _ w' => Reads S Γ [] w w' ∧
      S.Settled Γ w'.graph (.derived d) (r.getD default) := by
  have present : d < w.graph.deriveds.size := h.fits.deriveds.symm ▸ hd
  have idle : (w.graph.derived d).computing = false := free d .refl
  have begun : Sober S Γ (w.beginComputing Γ.recorded d) :=
    h.beginComputing adds present idle dirty
  have code :
      Γ.recorded.body ((w.beginComputing Γ.recorded d).graph.body (.derived d)) =
        (Γ.body (S.formula d)).recorded := by
    rw [← begun.fits.formula d hd]
    rfl
  have values := (ripens_beginComputing dirty Γ).values
  have inner := hscript begun (traced _ begun.host) (fun s v hv => values ▸ given s v hv)
    fun j u hj => free.beginComputing present dirty hd traced given hj
  rw [← code] at inner
  unfold Yields at inner
  cases hw : again (.script (Γ.recorded.body
      ((w.beginComputing Γ.recorded d).graph.body (.derived d))))
      (w.beginComputing Γ.recorded d) with
  | ok r' w₂ =>
    rw [hw] at inner
    obtain ⟨rfl, reads⟩ := inner
    have ran := compute_of_ok (runTracked_of_ok hw)
    exact yields_of_ok ran (Reads.computed h adds idle dirty hd reads traced)
  | raised e w₂ =>
    rw [hw] at inner
    exact inner.elim
  | exhausted w₂ =>
    have ran := compute_of_exhausted (runTracked_of_exhausted hw)
    rw [Yields, ran]
    trivial

include adds hscript in
theorem reads_derivedValue (h : Sober S Γ w)
    (gives : S.Gives Γ w.graph.values (.derived d) v) (free : Free S Γ d w) :
    Yields (derivedValue Γ.recorded again d) w fun a w' =>
      a = v ∧ Reads S Γ [(.derived d, v)] w w' := by
  cases gives with
  | @derived _ L r hd traced given =>
    have present : d < w.graph.deriveds.size := h.fits.deriveds.symm ▸ hd
    have idle : (w.graph.derived d).computing = false := free d .refl
    have readCache {w : World V C (Recorded V C H E)} (h : Sober S Γ w)
        (settled : S.Settled Γ w.graph (.derived d) (r.getD default)) :
        Reads S Γ [(.derived d, r.getD default)] w
          (w.read Γ.recorded (.derived d) (w.graph.derived d).cache) := by
      have there : d < w.graph.deriveds.size := h.fits.deriveds.symm ▸ hd
      rw [settled.cache_eq]
      exact h.read adds there settled
    cases hdirty : (w.graph.derived d).dirty with
    | false =>
      have cache := h.value hd hdirty (.derived hd traced given)
      have settled := h.settled d hd hdirty
      rw [cache] at settled
      refine yields_of_ok ((derivedValue_clean present idle hdirty).trans
        (readCache_apply Γ.recorded d w)) ⟨cache, readCache h settled⟩
    | true =>
      rw [Yields, derivedValue_dirty present idle hdirty]
      refine (reads_compute adds hscript h hd traced given free hdirty).bind ?_
      rintro _ w1 ⟨computed, settled⟩
      exact yields_of_ok (readCache_apply Γ.recorded d w1)
        ⟨settled.cache_eq, computed.trans (readCache computed.sober settled)⟩

include adds hvalue in
theorem reads_readSource (h : Sober S Γ w)
    (gives : S.Gives Γ w.graph.values s v) (free : ∀ d, s = .derived d → Free S Γ d w) :
    Yields (readSource Γ.recorded again s) w fun a w' =>
      a = v ∧ Reads S Γ [(s, v)] w w' := by
  cases s with
  | wire i =>
    cases gives with
    | wire hi =>
      have present : i < w.graph.wires.size := h.fits.wires.symm ▸ hi
      exact yields_of_ok (readSource_wire present) ⟨rfl, h.read adds present (.wire hi)⟩
  | derived d =>
    rw [readSource_derived]
    refine (hvalue h gives (free d rfl)).bind ?_
    rintro _ w1 ⟨rfl, reads⟩
    exact yields_of_ok rfl ⟨rfl, reads⟩

include adds hscript hvalue in
theorem reads_exec {script : Script V C H E} (h : Sober S Γ w) (traced : script.Traces Γ host L r)
    (here : w.host.host = host)
    (given : ∀ s v, (s, v) ∈ L → S.Gives Γ w.graph.values s v)
    (free : ∀ j u, (.derived j, u) ∈ L → Free S Γ j w) :
    Yields (exec Γ.recorded again script.recorded) w fun r' w' =>
      r' = r ∧ Reads S Γ L w w' := by
  induction traced generalizing w with
  | done r _ => exact yields_of_ok rfl ⟨rfl, .refl h⟩
  | @look next host L r _ ih =>
    subst here
    have looked := h.look
    refine (ih w.graph looked.sober rfl given fun j u hj => (free j u hj).reads looked).mono ?_
    rintro _ w1 ⟨rfl, rest⟩
    exact ⟨rfl, looked.trans rest⟩
  | replace grows _ ih =>
    subst here
    have replaced := h.replace grows
    refine (ih replaced.sober rfl given fun j u hj => (free j u hj).reads replaced).mono ?_
    rintro _ w1 ⟨rfl, rest⟩
    exact ⟨rfl, replaced.trans rest⟩
  | @read s v next host L r _ ih =>
    subst here
    refine (reads_readSource adds hvalue h (given s v List.mem_cons_self) ?_).bind ?_
    · rintro d rfl
      exact free d v List.mem_cons_self
    · rintro _ w1 ⟨rfl, first⟩
      refine (ih _ first.host first.sober rfl ?_ ?_).mono ?_
      · exact fun s v hv => first.ripens.values ▸ given s v (List.mem_cons_of_mem _ hv)
      · exact fun j u hj => (free j u (List.mem_cons_of_mem _ hj)).reads first
      · rintro _ w2 ⟨rfl, rest⟩
        exact ⟨rfl, first.trans rest⟩
  | call code _ _ ih =>
    subst here
    refine (hscript h code (fun s v hv => given s v (List.mem_append_left _ hv))
      (fun j u hj => free j u (List.mem_append_left _ hj))).bind ?_
    rintro _ w1 ⟨rfl, first⟩
    refine (ih _ first.host first.sober rfl ?_ ?_).mono ?_
    · exact fun s v hv => first.ripens.values ▸ given s v (List.mem_append_right _ hv)
    · exact fun j u hj => (free j u (List.mem_append_right _ hj)).reads first
    · rintro _ w2 ⟨rfl, rest⟩
      exact ⟨rfl, first.trans rest⟩

end Parts

theorem perform_reads (S : Sheet V C H) {Γ : Setting V C H E} (adds : Γ.Adds)
    (n : Nat) :
    (∀ {script : Script V C H E} {L : List (Source × V)} {r : Option V}
      {w : World V C (Recorded V C H E)}, Sober S Γ w →
      script.Traces Γ w.host.host L r →
      (∀ s v, (s, v) ∈ L → S.Gives Γ w.graph.values s v) →
      (∀ j u, (.derived j, u) ∈ L → Free S Γ j w) →
      Yields (perform Γ.recorded n (.script script.recorded)) w fun r' w' =>
        r' = r ∧ Reads S Γ L w w') ∧
    ∀ {d : Nat} {v : V} {w : World V C (Recorded V C H E)}, Sober S Γ w →
      S.Gives Γ w.graph.values (.derived d) v → Free S Γ d w →
      Yields (perform Γ.recorded n (.value d)) w fun r w' =>
        r = some v ∧ Reads S Γ [(.derived d, v)] w w' := by
  induction n with
  | zero => exact ⟨fun _ _ _ _ => trivial, fun _ _ _ => trivial⟩
  | succ n ih =>
    refine ⟨fun h traced given free => reads_exec adds ih.1 ih.2 h traced rfl given free, ?_⟩
    intro d v w h gives free
    refine (reads_derivedValue adds ih.1 h gives free).bind ?_
    rintro _ w1 ⟨rfl, reads⟩
    exact yields_of_ok rfl ⟨rfl, reads⟩

end Run

end AttrBinder.Reactive
