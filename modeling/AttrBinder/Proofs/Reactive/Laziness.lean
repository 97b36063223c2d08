import AttrBinder.Proofs.Reactive.Affected

/-!
Derived values are lazy and keep what they have computed. Telling trackers of a change computes
nothing; and where derived values only read, a computation that returns is followed by the read that
has asked for it, and the next one begins only after a wire was given another value that the last one
had read, itself or through derived values (`derived_values_lazy`). What is up to date depends on what
is up to date, so none of it has been computed anew since; and what is marked was reached by a write
(`Lazy`). A program that marks a derived value itself, or ends a batch that is not open, can have it
computed again for nothing (`derived_computed_for_nothing`).
-/

namespace AttrBinder.Reactive

variable {V C H E : Type} [Inhabited V] [Inhabited C]

/-! ## Records -/

def Sight.Spares (x : Sight V C E) (d : Nat) : Prop :=
  x.moment ≠ some (.began (.derived d)) ∧ ∀ failure, x.moment ≠ some (.ended (.derived d) failure)

/-- The last computation of `d` has returned: `upto` ends with it, and `later` was shown since. -/
structure Returned (d : Nat) (past later upto : List (Sight V C E)) : Prop where
  split : past = later ++ upto
  ended : ∃ x earlier, upto = x :: earlier ∧ x.moment = some (.ended (.derived d) none)
  spared : ∀ y ∈ later, y.Spares d

/-- A wire that the last computation of `d` had read, itself or through derived values, was given
another value since. -/
def Outdated (d : Nat) (later upto : List (Sight V C E)) : Prop :=
  ∃ k, Heeds upto k (.derived d) ∧ Wrote later k

/-- Computations that return are followed by the read of their value; and after one that has returned
the next one begins only when it is outdated. -/
structure Sound (past : List (Sight V C E)) : Prop where
  delivered : ∀ later x earlier d, past = later ++ x :: earlier →
    x.moment = some (.ended (.derived d) none) →
      ∃ rest y v, later = rest ++ [y] ∧ y.moment = some (.read (.derived d) v)
  memoised : ∀ rest x earlier d, past = rest ++ x :: earlier →
    x.moment = some (.began (.derived d)) →
      ∀ later upto, Returned d earlier later upto → Outdated d later upto

section Records

variable {past later upto : List (Sight V C E)} {x : Sight V C E} {d : Nat}

omit [Inhabited V] [Inhabited C] in
theorem Returned.of_cons (h : Returned d (x :: past) later upto) :
    later = [] ∧ upto = x :: past ∧ x.moment = some (.ended (.derived d) none) ∨
      x.Spares d ∧ ∃ later', later = x :: later' ∧ Returned d past later' upto := by
  obtain ⟨split, ⟨y, earlier, rfl, ended⟩, spared⟩ := h
  cases later with
  | nil =>
    cases split
    exact .inl ⟨rfl, rfl, ended⟩
  | cons z later =>
    obtain ⟨rfl, rfl⟩ := List.cons.inj split
    rw [List.forall_mem_cons] at spared
    exact .inr ⟨spared.1, later, rfl, rfl, ⟨y, earlier, rfl, ended⟩, spared.2⟩

omit [Inhabited V] [Inhabited C] in
theorem Returned.of_append (h : Returned d (new ++ past) later upto)
    (spares : ∀ x ∈ new, x.Spares d) :
    ∃ since, later = new ++ since ∧ Returned d past since upto := by
  induction new generalizing later with
  | nil => exact ⟨later, rfl, h⟩
  | cons x new ih =>
    rw [List.forall_mem_cons] at spares
    rcases h.of_cons with ⟨-, -, ended⟩ | ⟨-, later', rfl, before⟩
    · exact absurd ended (spares.1.2 none)
    · obtain ⟨since, rfl, earlier⟩ := ih before spares.2
      exact ⟨since, rfl, earlier⟩

omit [Inhabited V] [Inhabited C] in
theorem Outdated.cons (h : Outdated d later upto) (x : Sight V C E) :
    Outdated d (x :: later) upto :=
  let ⟨k, heeds, wrote⟩ := h
  ⟨k, heeds, wrote.append [x]⟩

omit [Inhabited V] [Inhabited C] in
theorem Sound.cons (h : Sound past) (ended : ∀ d, x.moment ≠ some (.ended (.derived d) none))
    (began : ∀ d, x.moment = some (.began (.derived d)) → ∀ later upto, Returned d past later upto →
      Outdated d later upto) : Sound (x :: past) where
  delivered later y earlier d split hy := by
    cases later with
    | nil =>
      cases split
      exact absurd hy (ended d)
    | cons z later =>
      obtain ⟨rfl, rfl⟩ := List.cons.inj split
      obtain ⟨rest, u, v, rfl, hu⟩ := h.delivered later y earlier d rfl hy
      exact ⟨x :: rest, u, v, rfl, hu⟩
  memoised rest y earlier d split hy := by
    cases rest with
    | nil =>
      cases split
      exact began d hy
    | cons z rest =>
      obtain ⟨rfl, rfl⟩ := List.cons.inj split
      exact h.memoised rest y earlier d rfl hy

omit [Inhabited V] [Inhabited C] in
theorem Sound.aside (h : Sound past) (spares : ∀ d, x.Spares d) : Sound (x :: past) :=
  h.cons (fun d => (spares d).2 none) fun d began => absurd began (spares d).1

omit [Inhabited V] [Inhabited C] in
theorem Sound.append (h : Sound past)
    (spares : ∀ x ∈ new, ∀ d, x.Spares d) : Sound (new ++ past) := by
  induction new with
  | nil => exact h
  | cons x new ih =>
    rw [List.forall_mem_cons] at spares
    exact (ih spares.2).aside spares.1

omit [Inhabited V] [Inhabited C] in
theorem Sound.deliver (h : Sound past) {y : Sight V C E} {v : V}
    (ended : x.moment = some (.ended (.derived d) none))
    (read : y.moment = some (.read (.derived d) v)) : Sound (y :: x :: past) where
  delivered later z earlier d' split hz := by
    match later, split with
    | [], split =>
      cases split
      exact nomatch read.symm.trans hz
    | [u], split =>
      obtain ⟨rfl, same⟩ := List.cons.inj split
      obtain ⟨rfl, -⟩ := List.cons.inj same
      cases ended.symm.trans hz
      exact ⟨[], y, v, rfl, read⟩
    | u :: u' :: later, split =>
      obtain ⟨rfl, same⟩ := List.cons.inj split
      obtain ⟨rfl, rfl⟩ := List.cons.inj same
      obtain ⟨rest, z', v', rfl, hz'⟩ := h.delivered later z earlier d' rfl hz
      exact ⟨y :: x :: rest, z', v', rfl, hz'⟩
  memoised rest z earlier d' split hz := by
    match rest, split with
    | [], split =>
      cases split
      exact nomatch read.symm.trans hz
    | [u], split =>
      obtain ⟨rfl, same⟩ := List.cons.inj split
      obtain ⟨rfl, -⟩ := List.cons.inj same
      exact nomatch ended.symm.trans hz
    | u :: u' :: rest, split =>
      obtain ⟨rfl, same⟩ := List.cons.inj split
      obtain ⟨rfl, rfl⟩ := List.cons.inj same
      exact h.memoised rest z earlier d' rfl hz

omit [Inhabited V] [Inhabited C] in
theorem lastRun_cons (other : ∀ failure, x.moment ≠ some (.ended t failure)) :
    lastRun t (x :: past) = lastRun t past := by
  rw [lastRun]
  split
  · rename_i t' failure same
    refine if_neg fun this => other failure ?_
    rw [same, this]
  · rfl

omit [Inhabited V] [Inhabited C] in
theorem Heeds.congr (same : ∀ t, lastRun t past = lastRun t past') (h : Heeds past' k t) :
    Heeds past k t := by
  induction h with
  | wire last read => exact .wire ((same _).trans last) read
  | derived last read _ ih => exact .derived ((same _).trans last) read ih

end Records

/-! ## What is up to date, and what is marked -/

/-- A derived value that is up to date has returned last, and rests on no more than it did then; one
that is not is outdated, if it has returned last. -/
structure Lazy (w : World V C (Recorded V C H E)) : Prop
    extends Grounded (fun t => ∃ i, t = .effect i) w where
  remembers : Remembers w
  unlinked : Unlinked w
  kept : ∀ d, (w.graph.derived d).dirty = false → ∀ later upto, Returned d w.host.past later upto →
    ∀ k, Heeds w.host.past k (.derived d) → Heeds upto k (.derived d)
  due : ∀ d, (w.graph.derived d).dirty = true → ∀ later upto, Returned d w.host.past later upto →
    Outdated d later upto
  sound : Sound w.host.past

namespace Lazy

variable {Γ : Setting V C H E} {Ok : H → Prop} {w w' : World V C (Recorded V C H E)}
variable (h : Lazy w) {d k : Nat}

include h

theorem closed_derived (clean : (w.graph.derived d).dirty = false)
    (dep : .derived d' ∈ w.graph.dependencies (.derived d)) : (w.graph.derived d').dirty = false :=
  h.closed (.derived d) (.inr (by simp [Graph.Marked, clean])) (fun ⟨_, other⟩ => nomatch other) d' dep

theorem reads (clean : (w.graph.derived d).dirty = false)
    (last : lastRun (.derived d) w.host.past = some L) (s : Source) :
    s ∈ w.graph.dependencies (.derived d) ↔ ∃ v, (s, v) ∈ L :=
  (h.remembers.reads _ (h.idle_of_clean clean) L last).resolve_left
    (fun ⟨_, other, _⟩ => nomatch other) s

theorem heeds_of_reaches (reaches : w.graph.Reaches k (.derived d))
    (clean : (w.graph.derived d).dirty = false) : Heeds w.host.past k (.derived d) := by
  have ran {d : Nat} {s : Source} (clean : (w.graph.derived d).dirty = false)
      (dep : s ∈ w.graph.dependencies (.derived d)) :
      ∃ L v, lastRun (.derived d) w.host.past = some L ∧ (s, v) ∈ L := by
    cases last : lastRun (.derived d) w.host.past with
    | none => exact nomatch h.unlinked _ (h.idle_of_clean clean) last ▸ dep
    | some L =>
      obtain ⟨v, read⟩ := (h.reads clean last s).mp dep
      exact ⟨L, v, rfl, read⟩
  generalize ht : Tracker.derived d = t at reaches
  induction reaches generalizing d with
  | wire dep =>
    subst ht
    obtain ⟨L, v, last, read⟩ := ran clean dep
    exact .wire last read
  | derived dep _ ih =>
    subst ht
    obtain ⟨L, v, last, read⟩ := ran clean dep
    exact .derived last read (ih (h.closed_derived clean dep) rfl)

theorem heeds_of_cons {x : Sight V C E}
    (spares : ∀ d, (w.graph.derived d).dirty = false → x.Spares d)
    (clean : (w.graph.derived d).dirty = false) (heeds : Heeds (x :: w.host.past) k (.derived d)) :
    Heeds w.host.past k (.derived d) := by
  generalize ht : Tracker.derived d = t at heeds
  induction heeds generalizing d with
  | wire last read =>
    subst ht
    rw [lastRun_cons (spares d clean).2] at last
    exact .wire last read
  | derived last read _ ih =>
    subst ht
    rw [lastRun_cons (spares d clean).2] at last
    have dep := (h.reads clean last _).mpr ⟨_, read⟩
    exact .derived last read (ih (h.closed_derived clean dep) rfl)

/-- One more sight, at which no computation of what is up to date begins or ends, and none returns. -/
theorem after {x : Sight V C E} (grounded : Grounded (fun t => ∃ i, t = .effect i) w')
    (remembers : Remembers w') (unlinked : Unlinked w') (past : w'.host.past = x :: w.host.past)
    (dirty : ∀ d, (w'.graph.derived d).dirty = (w.graph.derived d).dirty)
    (spares : ∀ d, (w.graph.derived d).dirty = false → x.Spares d)
    (ended : ∀ d, x.moment ≠ some (.ended (.derived d) none)) : Lazy w' where
  toGrounded := grounded
  remembers := remembers
  unlinked := unlinked
  kept d clean later upto returned k now := by
    rw [dirty] at clean
    rw [past] at returned now
    rcases returned.of_cons with ⟨-, -, here⟩ | ⟨-, since, rfl, before⟩
    · exact absurd here (ended d)
    · exact h.kept d clean since upto before k (h.heeds_of_cons spares clean now)
  due d marked later upto returned := by
    rw [dirty] at marked
    rw [past] at returned
    rcases returned.of_cons with ⟨-, -, here⟩ | ⟨-, since, rfl, before⟩
    · exact absurd here (ended d)
    · exact (h.due d marked since upto before).cons x
  sound := by
    rw [past]
    refine h.sound.cons ended fun d began => h.due d (Bool.eq_true_of_not_eq_false fun clean => ?_)
    exact (spares d clean).1 began

theorem aside (step : Step Γ w w')
    (same : ∀ d, (w'.graph.derived d).dirty = (w.graph.derived d).dirty ∧
      (w'.graph.derived d).computing = (w.graph.derived d).computing ∧
      w'.graph.dependencies (.derived d) = w.graph.dependencies (.derived d))
    (stack : ∀ d, .derived d ∈ w'.graph.stack → .derived d ∈ w.graph.stack)
    (past : w'.host.past = w.host.past ∨
      ∃ x, w'.host.past = x :: w.host.past ∧ ∀ d, x.Spares d) : Lazy w' := by
  have grounded : Grounded (fun t => ∃ i, t = .effect i) w' := by
    refine h.toGrounded.next (step.tracked h.tracked) (fun d computing => ?_)
      (fun d clean => (same d).1.trans clean) fun t fresh other d dep => ?_
    · exact (same d).1.trans (h.busy d ((same d).2.1.symm.trans computing))
    · cases t with
      | effect i => exact absurd ⟨i, rfl⟩ other
      | derived j =>
        refine .inr ⟨fresh.imp (stack j) (mt fun marked => ?_), other, (same j).2.2 ▸ dep⟩
        exact (same j).1.trans marked
  have remembers := step.remembers h.tracked h.remembers
  have unlinked := step.unlinked h.tracked h.unlinked
  rcases past with past | ⟨x, past, spares⟩
  · refine ⟨grounded, remembers, unlinked, fun d clean => ?_, fun d marked => ?_, ?_⟩
    · rw [past]
      exact h.kept d ((same d).1.symm.trans clean)
    · rw [past]
      exact h.due d ((same d).1.symm.trans marked)
    · rw [past]
      exact h.sound
  · exact h.after grounded remembers unlinked past (fun d => (same d).1) (fun d _ => spares d)
      fun d => (spares d).2 none

end Lazy

theorem Lazy.deliver {w w' : World V C (Recorded V C H E)} {d : Nat} (h : Lazy w)
    (grounded : Grounded (fun t => ∃ i, t = .effect i) w') (remembers : Remembers w')
    (unlinked : Unlinked w') {x y : Sight V C E} {v : V}
    (past : w'.host.past = y :: x :: w.host.past)
    (ended : x.moment = some (.ended (.derived d) none))
    (read : y.moment = some (.read (.derived d) v)) (marked : (w.graph.derived d).dirty = true)
    (dirty : ∀ j, (w'.graph.derived j).dirty = if d = j then false else (w.graph.derived j).dirty) :
    Lazy w' := by
  have other {j : Nat} (differs : d ≠ j) : x.Spares j := by
    simp [Sight.Spares, ended, differs]
  have aside (j : Nat) : y.Spares j := by
    simp [Sight.Spares, read]
  have spares (j : Nat) (clean : (w.graph.derived j).dirty = false) : x.Spares j :=
    other fun same => by
      cases (same ▸ clean : (w.graph.derived d).dirty = false).symm.trans marked
  have still {k : Nat} {t : Tracker} (now : Heeds (y :: x :: w.host.past) k t) :
      Heeds (x :: w.host.past) k t :=
    now.congr fun t => (lastRun_cons (by simp [read])).symm
  -- What had returned before, unless it is `d`.
  have returns {j : Nat} {later upto : List (Sight V C E)} (returned : Returned j w'.host.past later upto) :
      (d = j ∧ upto = x :: w.host.past) ∨
        d ≠ j ∧ ∃ since, later = y :: x :: since ∧ Returned j w.host.past since upto := by
    rw [past] at returned
    rcases returned.of_cons with ⟨-, -, here⟩ | ⟨-, since, rfl, earlier⟩
    · exact absurd here ((aside j).2 none)
    · rcases earlier.of_cons with ⟨-, rfl, here⟩ | ⟨spared, before, rfl, first⟩
      · cases ended.symm.trans here
        exact .inl ⟨rfl, rfl⟩
      · exact .inr ⟨fun same => spared.2 none (same ▸ ended), before, rfl, first⟩
  refine ⟨grounded, remembers, unlinked, fun j clean later upto returned k now => ?_,
    fun j outdated later upto returned => ?_, ?_⟩
  · rw [past] at now
    rcases returns returned with ⟨-, rfl⟩ | ⟨differs, since, -, before⟩
    · exact still now
    · rw [dirty, if_neg differs] at clean
      exact h.kept j clean since upto before k (h.heeds_of_cons spares clean (still now))
  · rcases returns returned with ⟨rfl, -⟩ | ⟨differs, since, rfl, before⟩
    · simp [dirty] at outdated
    · rw [dirty, if_neg differs] at outdated
      exact ((h.due j outdated since upto before).cons x).cons y
  · rw [past]
    exact h.sound.deliver ended read

theorem Glimpse.lazy {Γ : Setting V C H E} {Ok : H → Prop}
    {w w' : World V C (Recorded V C H E)} (glimpse : Glimpse Γ Ok w w') (h : Lazy w) :
    Lazy w' := by
  have grounded := (glimpse.grounded h.toGrounded).1
  obtain ⟨-, remembers, unlinked⟩ := (glimpse.leads h.tracked).keeps
    (I := fun w => Remembers w ∧ Unlinked w) (fun tracked step both =>
      ⟨step.remembers tracked both.1, step.unlinked tracked both.2⟩) h.tracked ⟨h.remembers, h.unlinked⟩
  have running {d : Nat} {rest : List Tracker} (stack : w.graph.stack = .derived d :: rest) :
      (w.graph.derived d).computing = true :=
    h.tracked.active (.derived d) (by rw [stack]; exact List.mem_cons_self)
  have track (s : Source) (d : Nat) :
      ((w.graph.track s).derived d).dirty = (w.graph.derived d).dirty :=
    (Graph.relinks_track w.graph s).derived_of Derived.dirty (fun _ _ _ => rfl) d
  cases glimpse with
  | look =>
    exact h.aside (.look : Step Γ w _) (fun _ => ⟨rfl, rfl, rfl⟩) (fun _ on => on)
      (.inr ⟨_, rfl, fun _ => ⟨by simp, by simp⟩⟩)
  | @replace host _ =>
    exact h.aside (.replace host : Step Γ w _) (fun _ => ⟨rfl, rfl, rfl⟩) (fun _ on => on) (.inl rfl)
  | readWire | readDerived =>
    exact h.after grounded remembers unlinked rfl (track _)
      (fun _ _ => ⟨by simp, by simp⟩) fun _ eq => by cases eq
  | @begin d present idle dirty =>
    refine h.after grounded remembers unlinked rfl (fun j => ?_)
      (fun j clean => ⟨fun same => ?_, fun _ eq => by cases eq⟩) fun _ eq => by cases eq
    · rw [World.graph_beginComputing, Graph.derived_push,
        (Graph.relinks_forget _ _).derived_of Derived.dirty (fun _ _ _ => rfl) j, Graph.dirty_setComputing]
    · cases same
      cases clean.symm.trans dirty
  | @fail d rest e stack =>
    refine h.after grounded remembers unlinked rfl (fun j => Graph.dirty_setComputing _ _ _ _)
      (fun j clean => ⟨by simp, fun failure same => ?_⟩) fun _ eq => by cases eq
    cases same
    cases clean.symm.trans (h.busy d (running stack))
  | @deliver d rest v stack =>
    have there : d < (w.graph.pop.setComputing d false).deriveds.size :=
      Nat.lt_of_lt_of_eq (Graph.Active.hasTracker (t := .derived d) (running stack))
        Array.size_modify.symm
    refine h.deliver (d := d) (v := v) grounded remembers unlinked rfl rfl rfl (h.busy d (running stack))
      fun j => ?_
    refine ((Graph.relinks_track (w.endComputing Γ.recorded d v).graph _).derived_of Derived.dirty
      (fun _ _ _ => rfl) j).trans ?_
    rw [World.graph_endComputing, Graph.dirty_keep there, Graph.dirty_setComputing]
    rfl

/-! ## Telling trackers of a change -/

def Queues (past past' : List (Sight V C E)) : Prop :=
  ∃ new, past' = new ++ past ∧ ∀ x ∈ new, ∃ i, x.moment = some (.queued i)

omit [Inhabited V] [Inhabited C] in
theorem Queues.refl (past : List (Sight V C E)) : Queues past past :=
  ⟨[], rfl, fun _ mem => nomatch mem⟩

theorem telling_queues (Γ : Setting V C H E) :
    Telling Γ.recorded (fun _ => True) fun w w' =>
      w'.graph.depth = w.graph.depth ∧ Queues w.host.past w'.host.past where
  arrange _ _ _ _ _ := trivial
  refl w := ⟨rfl, .refl _⟩
  trans := by
    rintro u v w ⟨depth, new, past, queued⟩ ⟨depth', new', past', queued'⟩
    refine ⟨depth'.trans depth, new' ++ new, by rw [past', past, List.append_assoc], fun x mem => ?_⟩
    exact (List.mem_append.mp mem).elim (queued' x) (queued x)
  depth h := h.1
  delivers _ _ _ _ _ _ := trivial
  tick w := ⟨rfl, .refl _⟩
  invalidate {w} _ _ _ := ⟨rfl, .refl _⟩
  requestRun {w} _ _ _ := ⟨rfl, .refl _⟩
  enqueue {w i} _ _ := ⟨rfl, [_], rfl, fun _ mem => ⟨i, List.mem_singleton.mp mem ▸ rfl⟩⟩

section Told

variable {Γ : Setting V C H E} {Ok : H → Prop} {w w' : World V C (Recorded V C H E)}
variable {k : Nat} {old v : V}

omit [Inhabited V] [Inhabited C] in
theorem spares_of_queues (queues : Queues (w.opened Γ k old v).host.past w'.host.past) :
    ∃ new, w'.host.past = new ++ w.host.past ∧ (∀ x ∈ new, ∀ d, x.Spares d) ∧ Wrote new k ∧
      ⟨some (.wrote k old v), w.graph.setValue k v⟩ ∈ new := by
  obtain ⟨new, past, queued⟩ := queues
  let change : Sight V C E := ⟨some (.wrote k old v), w.graph.setValue k v⟩
  have last : change ∈ new ++ [change] := List.mem_append_right _ (List.mem_singleton.mpr rfl)
  refine ⟨new ++ [change], ?_, fun x mem d => ?_, ⟨change, last, old, v, rfl⟩, last⟩
  · rw [past, List.append_assoc]
    rfl
  · rcases List.mem_append.mp mem with here | here
    · obtain ⟨i, hx⟩ := queued x here
      simp [Sight.Spares, hx]
    · rw [List.mem_singleton.mp here]
      exact ⟨nofun, nofun⟩

theorem Lazy.told [Preorder H] (h : Lazy w) (leads : Leads Γ w w')
    (spread : Spreads (w.opened Γ k old v) w')
    (tells : Tells Ok (w.graph.Reaches k) (w.opened Γ k old v) w')
    (queues : Queues (w.opened Γ k old v).host.past w'.host.past)
    (idle : ∀ d, .derived d ∉ w'.graph.stack) : Lazy w' := by
  obtain ⟨tracked, remembers, unlinked⟩ := leads.keeps
    (I := fun w => Remembers w ∧ Unlinked w) (fun tracked step both =>
      ⟨step.remembers tracked both.1, step.unlinked tracked both.2⟩) h.tracked ⟨h.remembers, h.unlinked⟩
  have grounded := h.toGrounded.told spread tracked fun t counts => by
    cases t with
    | effect i => exact absurd ⟨i, rfl⟩ counts
    | derived d => exact idle d
  obtain ⟨new, past, spares, wrote, -⟩ := spares_of_queues queues
  have runs (t : Tracker) : lastRun t w'.host.past = lastRun t w.host.past := spread.lastRuns t
  have clean (d : Nat) (clean : (w'.graph.derived d).dirty = false) :
      (w.graph.derived d).dirty = false := by
    obtain ⟨b, hd, kept⟩ := spread.derived d
    rw [hd] at clean
    exact Bool.eq_false_iff.mpr fun dirty => by cases clean.symm.trans (kept dirty)
  refine ⟨grounded, remembers, unlinked, fun d up later upto returned k heeds => ?_,
    fun d dirty later upto returned => ?_, ?_⟩
  · rw [past] at returned
    obtain ⟨since, -, before⟩ := returned.of_append fun x mem => spares x mem d
    exact h.kept d (clean d up) since upto before k (heeds.congr fun t => (runs t).symm)
  · rw [past] at returned
    obtain ⟨since, rfl, before⟩ := returned.of_append fun x mem => spares x mem d
    cases was : (w.graph.derived d).dirty with
    | true =>
      obtain ⟨k, heeds, wrote⟩ := h.due d was since upto before
      exact ⟨k, heeds, wrote.append new⟩
    | false =>
      have reaches := (tells.marked (.derived d) dirty).resolve_left fun (marked : _ = true) => by
        cases was.symm.trans marked
      obtain ⟨x, mem, hx⟩ := wrote
      exact ⟨k, h.kept d was since upto before k (h.heeds_of_reaches reaches was), x,
        List.mem_append_left _ mem, hx⟩
  · rw [past]
    exact h.sound.append spares

end Told

/-! ## Programs -/

def Sight.matched (x : Sight V C E) : Bool :=
  match x.moment with
  | some (.wrote _ _ _) => 0 ≤ x.graph.depth
  | _ => true

/-- No wire has been written while more batches had been ended than begun. -/
abbrev Matched (past : List (Sight V C E)) : Prop :=
  ∀ x ∈ past, x.matched = true

/-- A setting in which derived values have code that only reads, no program marks one itself, and all
subscribers of a source are told of its changes, in any order. -/
structure Setting.Prudent (Γ : Setting V C H E) (Ok : H → Prop) (R : C → Prop) : Prop
    extends Γ.Modest Ok R where
  body : ∀ c, (Γ.body c).Modest Ok R true
  same : ∀ old new, (Γ.same old new).Modest Ok R true
  told : ∀ n ts t, t ∈ Γ.arrange n ts ↔ t ∈ ts

/-- Unless the record is not matched, derived values are lazy, and none is being computed. -/
structure Orderly (Ok : H → Prop) (R : C → Prop) (w : World V C (Recorded V C H E)) : Prop where
  tracked : Tracked w
  rest : Matched w.host.past → Beholds Ok R w ∧ (∀ d, .derived d ∉ w.graph.stack) ∧ Lazy w

def Attests (_ w' : World V C (Recorded V C H E)) : Prop :=
  Matched w'.host.past → Sound w'.host.past

instance {Ok : H → Prop} {R : C → Prop} : Course (Orderly (V := V) (E := E) Ok R) Attests :=
  ⟨fun orderly matched => (orderly.rest matched).2.2.sound, fun _ h => h⟩

namespace Graph

/-- A change that is none for derived values, but for their subscribers. -/
structure Bypasses (g g' : Graph V C) : Prop where
  deriveds : g'.deriveds.size = g.deriveds.size
  derived : ∀ d, ∃ ts, g'.derived d = { g.derived d with subscribers := ts }
  stack : ∀ d, .derived d ∈ g'.stack → .derived d ∈ g.stack

theorem bypasses_of_eq {g g' : Graph V C} (deriveds : g'.deriveds = g.deriveds)
    (stack : ∀ d, .derived d ∈ g'.stack → .derived d ∈ g.stack) : Bypasses g g' :=
  ⟨by rw [deriveds], fun d => ⟨_, by simp only [derived, deriveds]; rfl⟩, stack⟩

theorem Relinks.bypasses {g g' : Graph V C} (h : Relinks g g')
    (links : ∀ d, g'.dependencies (.derived d) = g.dependencies (.derived d)) : Bypasses g g' where
  deriveds := h.deriveds
  derived d := by
    obtain ⟨ss, ts, hd⟩ := h.derived d
    have same := links d
    simp only [dependencies, hd] at same
    exact ⟨ts, by rw [hd, same]⟩
  stack d on := h.stack ▸ on

end Graph

section Orderly

variable {Γ : Setting V C H E} {Ok : H → Prop} {R : C → Prop}
variable {w w' : World V C (Recorded V C H E)}

theorem Orderly.step (h : Orderly Ok R w) (step : Step Γ w w')
    (next : Beholds Ok R w → Lazy w → Ok w'.host.host ∧
      (∀ d < w'.graph.deriveds.size, R (w'.graph.derived d).body) ∧ Lazy w')
    (stack : ∀ d, .derived d ∈ w'.graph.stack → .derived d ∈ w.graph.stack) :
    Attests w w' ∧ Orderly Ok R w' := by
  have tracked := step.tracked h.tracked
  have rest (matched : Matched w'.host.past) :
      Beholds Ok R w' ∧ (∀ d, .derived d ∉ w'.graph.stack) ∧ Lazy w' := by
    obtain ⟨beholds, idle, lazy⟩ := h.rest fun x mem => matched x (step.shows.1 x mem)
    obtain ⟨host, code, lazy'⟩ := next beholds lazy
    exact ⟨⟨tracked, host, code⟩, fun d on => idle d (stack d on), lazy'⟩
  exact ⟨fun matched => (rest matched).2.2.sound, tracked, rest⟩

theorem Orderly.aside (h : Orderly Ok R w) (step : Step Γ w w') (graph : w.graph.Bypasses w'.graph)
    (host : Ok w.host.host → Ok w'.host.host) (past : w'.host.past = w.host.past ∨
      ∃ x, w'.host.past = x :: w.host.past ∧ ∀ d, x.Spares d) : Attests w w' ∧ Orderly Ok R w' := by
  refine h.step step (fun beholds lazy => ⟨host beholds.host, fun d there => ?_, ?_⟩) graph.stack
  · obtain ⟨ts, hd⟩ := graph.derived d
    rw [hd]
    exact beholds.code d (graph.deriveds ▸ there)
  · refine lazy.aside step (fun d => ?_) graph.stack past
    obtain ⟨ts, hd⟩ := graph.derived d
    simp only [Graph.dependencies, hd, and_self]

theorem Orderly.update (Γ : Setting V C H E) {f : Graph V C → Graph V C} (h : Orderly Ok R w)
    (step : Step Γ w (w.update f)) (deriveds : (f w.graph).deriveds = w.graph.deriveds)
    (stack : (f w.graph).stack = w.graph.stack) :
    Attests w (w.update f) ∧ Orderly Ok R (w.update f) :=
  h.aside step (Graph.bypasses_of_eq deriveds fun _ on => stack ▸ on) id (.inl rfl)

theorem Orderly.addDerived (Γ : Setting V C H E) (h : Orderly Ok R w) (l : Label) {c : C}
    (code : R c) :
    Attests w (w.update (·.addDerived l c)) ∧ Orderly Ok R (w.update (·.addDerived l c)) := by
  have added := Graph.derived_addDerived w.graph l c
  refine h.step (.addDerived l c : Step Γ w _) (fun beholds lazy => ⟨beholds.host, fun d there => ?_,
    lazy.aside (.addDerived l c : Step Γ w _) (fun d => ?_) (fun _ on => on) (.inl rfl)⟩)
    fun _ on => on
  · rw [World.update, added]
    split
    · exact code
    · rename_i old
      have size : d < w.graph.deriveds.size + 1 := Nat.lt_of_lt_of_eq there (Array.size_push _)
      exact beholds.code d (Nat.lt_of_le_of_ne (Nat.le_of_lt_succ size) old)
  · simp only [World.update, Graph.dependencies, added]
    split
    · rename_i new
      rw [Graph.derived_of_size_le (Nat.le_of_eq new.symm)]
      exact ⟨rfl, rfl, rfl⟩
    · exact ⟨rfl, rfl, rfl⟩

end Orderly

namespace Run

variable {α : Type} {Γ : Setting V C H E} {Ok : H → Prop} {R : C → Prop}
variable {w w' : World V C (Recorded V C H E)} {m : Run V C (Recorded V C H E) E α}

theorem orderly_of_unmatched (walks : Walks Γ m w) (unmatched : ¬ Matched w.host.past) :
    Keeps (Orderly Ok R) Attests m w := by
  intro orderly
  obtain ⟨leads, tracked⟩ := walks orderly.tracked
  have later : ¬ Matched (m w).world.host.past := fun matched =>
    unmatched fun x mem => matched x (leads.shown mem)
  refine ⟨fun matched => absurd matched later, fun w' ended => ⟨tracked w' ended, fun matched => ?_⟩⟩
  exact absurd (Outcome.world_of_ended? ended ▸ matched) later

theorem orderly_gazes (walks : Walks Γ m w) (restores : Restores m w)
    (keeps : Keeps (Beholds Ok R) (Gazes Γ Ok) m w) : Keeps (Orderly Ok R) Attests m w := by
  by_cases matched : Matched w.host.past
  · intro orderly
    obtain ⟨beholds, idle, lazy⟩ := orderly.rest matched
    obtain ⟨gazes, beheld⟩ := keeps beholds
    have later : Lazy (m w).world := by
      generalize (m w).world = u at gazes
      induction gazes with
      | refl => exact lazy
      | tail _ glimpse ih => exact glimpse.lazy ih
    refine ⟨fun _ => later.sound, fun w' ended => ?_⟩
    rw [Outcome.world_of_ended? ended] at later
    refine ⟨later.tracked, fun _ => ⟨beheld w' ended, fun d => ?_, later⟩⟩
    rw [(restores w' ended).stack]
    exact idle d
  · exact orderly_of_unmatched walks matched

section Programs

variable (prudent : Γ.Prudent Ok R) {n : Nat}
variable (scripts : ∀ {s : Script V C H E}, s.Modest Ok R true → ∀ w,
  Keeps (Orderly Ok R) Attests (perform Γ.recorded n (.script s.recorded)) w)
variable (effects : ∀ i w,
  Keeps (Orderly Ok R) Attests (perform Γ.recorded n (.execute (.effect i))) w)
variable (leaves : ∀ w, Keeps (Orderly Ok R) Attests (perform Γ.recorded n .leave) w)

include prudent

theorem orderly_readSource (s : Source) (w : World V C (Recorded V C H E)) :
    Keeps (Orderly Ok R) Attests (readSource Γ.recorded (perform Γ.recorded n) s) w :=
  orderly_gazes (walks_readSource (perform_walks Γ n) s w)
    (restores_readSource Γ.recorded (perform_restores Γ.recorded n) s w)
    (gazes_readSource prudent.toModest (perform_glimpses prudent.toModest n).2 s w)

include leaves

omit prudent in
theorem orderly_leave (w : World V C (Recorded V C H E)) :
    Keeps (Orderly Ok R) Attests (leave (perform Γ.recorded n)) w :=
  (leaves w).bind fun _ _ _ => keeps_still rfl

theorem orderly_replaceValue (k : Nat) (old v : V) (w : World V C (Recorded V C H E)) :
    Keeps (Orderly Ok R) Attests
      (replaceValue Γ.recorded (perform Γ.recorded n) k old v) w := by
  let _ : Preorder H :=
    { le := fun _ _ => True, le_refl := fun _ => trivial, le_trans := fun _ _ _ _ _ => trivial }
  have walking := perform_walks Γ n
  by_cases matched : Matched w.host.past
  case neg => exact orderly_of_unmatched (walks_replaceValue walking k old v w) matched
  intro orderly
  obtain ⟨beholds, idle, lazy⟩ := orderly.rest matched
  have opened : Leads Γ w (w.opened Γ k old v) := .tail (.single (.assign k old v)) .enter
  have tracked := opened.tracked orderly.tracked
  have outside : replaceValue Γ.recorded (perform Γ.recorded n) k old v w = ensure
      (tell Γ.recorded (perform Γ.recorded n) (.wire k))
      (fun _ => leave (perform Γ.recorded n)) (w.opened Γ k old v) :=
    replaceValue_outside fun d rest on => idle d (on ▸ List.mem_cons_self)
  by_cases closed : 0 ≤ w.graph.depth
  case neg =>
    have unmatched : ¬ Matched (w.opened Γ k old v).host.past := fun matched =>
      closed (of_decide_eq_true (matched _ List.mem_cons_self))
    refine (orderly_of_unmatched ((walks_tell walking _ _).ensure fun _ w1 _ _ =>
      walks_leave walking w1) unmatched).after outside (fun _ => ?_) orderly
    exact ⟨fun matched => absurd matched unmatched, tracked, fun matched => absurd matched unmatched⟩
  have deep : 0 < (w.opened Γ k old v).graph.depth := by
    change 0 < w.graph.depth + 1
    omega
  have marks := marks_tell (fun n ts t => (prudent.told n ts t).mpr)
    (perform_marks (fun _ _ _ => trivial) (fun n ts t => (prudent.told n ts t).mpr) n) (.wire k) deep
  have tells := tells_write (fun n ts t => (prudent.told n ts t).mp) prudent.notice orderly.tracked n
    old v deep
  have queues := (telling_queues Γ).tell_perform n (s := .wire k) (fun _ _ => trivial) deep
    fun _ _ _ _ => trivial
  have walks := (walks_tell walking (.wire k) _ tracked).1
  have same := restores_tell Γ.recorded (perform_restores Γ.recorded n) (.wire k)
    (w.opened Γ k old v)
  cases tell : tell Γ.recorded (perform Γ.recorded n) (.wire k)
      (w.opened Γ k old v) with
  | raised e w2 =>
    rw [Yields, tell] at marks
    exact marks.elim
  | exhausted w2 =>
    rw [Stays, tell] at queues
    obtain ⟨new, past, spares, -⟩ := spares_of_queues queues.2
    rw [outside, ensure_of_exhausted tell]
    refine ⟨fun _ => ?_, fun _ eq => by cases eq⟩
    change Sound w2.host.past
    rw [past]
    exact lazy.sound.append spares
  | ok r w2 =>
    rw [Yields, tell] at marks tells
    rw [Stays, tell] at queues
    rw [tell] at walks
    have idle' (d : Nat) : .derived d ∉ w2.graph.stack := by
      rw [(same w2 (by rw [tell]; rfl)).stack]
      exact idle d
    have lazy' := lazy.told (opened.trans walks) marks.1 tells queues.2 idle'
    have code := (World.sameCode_opened k old v w).trans marks.1.sameCode
    have beheld : Beholds Ok R w2 :=
      ⟨lazy'.tracked, tells.host (prudent.notice _ _ _ beholds.host), fun d there => by
        rw [code.derived]
        exact beholds.code d (code.deriveds ▸ there)⟩
    refine ((orderly_leave leaves w2).bind fun _ w1 _ => keeps_still rfl).after
      (outside.trans (ensure_of_ok tell)) (fun _ => ?_) orderly
    exact ⟨fun _ => lazy'.sound, lazy'.tracked, fun _ => ⟨beheld, idle', lazy'⟩⟩

include scripts

theorem orderly_writeWire (k : Nat) (v : V) (w : World V C (Recorded V C H E)) :
    Keeps (Orderly Ok R) Attests
      (writeWire Γ.recorded (perform Γ.recorded n) k v) w := by
  cases frozen : (w.graph.wire k).frozen with
  | true => exact keeps_still (by rw [writeWire_frozen frozen]; rfl)
  | false =>
    intro orderly
    rw [writeWire_apply frozen]
    refine (scripts (prudent.same (w.graph.wire k).value v) w).bind (fun r w1 _ => ?_) orderly
    cases r with
    | none => exact orderly_replaceValue prudent leaves k _ v w1
    | some r => exact keeps_still rfl

omit leaves

theorem orderly_runTracked {i : Nat} (idle : .effect i ∉ w.graph.stack)
    (starts : w.graph.Starts (.effect i)) :
    Keeps (Orderly Ok R) Attests
      (runTracked Γ.recorded (perform Γ.recorded n) (.effect i)) w := by
  have relinks := Graph.relinks_forget w.graph (.effect i)
  have bypasses : w.graph.Bypasses (w.begin Γ.recorded (.effect i)).graph := by
    have forgets := relinks.bypasses fun d => (Graph.dependencies_forget _ _ _).trans (if_neg nofun)
    exact ⟨forgets.deriveds, forgets.derived, fun d on =>
      forgets.stack d ((List.mem_cons.mp on).resolve_left nofun)⟩
  refine Keeps.after ?_ (runTracked_apply (.effect i) w) fun orderly =>
    orderly.aside (.begin idle starts) bypasses (prudent.notice _ _ _)
      (.inr ⟨_, rfl, fun _ => ⟨nofun, nofun⟩⟩)
  refine (scripts (prudent.body _) _).ensure fun failure w1 ended _ => ?_
  have stack : w1.graph.stack = .effect i :: (w.graph.forget (.effect i)).stack :=
    (perform_restores Γ.recorded n _ _ w1 ended).stack
  exact keeps_of_eq (finish_apply (.effect i) failure w1) fun orderly =>
    orderly.aside (.finish failure stack) (Graph.bypasses_of_eq rfl fun _ => List.mem_of_mem_tail)
      (prudent.notice _ _ _) (.inr ⟨_, rfl, fun _ => ⟨nofun, nofun⟩⟩)

theorem orderly_settle (m : Nat) (idle : .effect i ∉ w.graph.stack)
    (starts : w.graph.Starts (.effect i)) : Keeps (Orderly Ok R) Attests
      (settle Γ.recorded (perform Γ.recorded n) i m) w := by
  induction m generalizing w with
  | zero =>
    exact keeps_of_eq (settle_zero i w) fun orderly => orderly.aside (.overran i)
      (Graph.bypasses_of_eq rfl fun _ on => on) (prudent.notice _ _ _)
      (.inr ⟨_, rfl, fun _ => ⟨nofun, nofun⟩⟩)
  | succ m ih =>
    have counted : w.graph.SameActivity (w.update (·.countRun i)).graph :=
      Graph.sameActivity_modifyEffect w.graph i fun _ => rfl
    have still := Graph.starts_countRun starts
    refine Keeps.after ?_ (settle_succ i m w) fun orderly =>
      orderly.update Γ (.countRun starts.1 starts.2) rfl rfl
    refine (orderly_runTracked (w := w.update (·.countRun i)) prudent scripts idle still).bind
      fun _ w1 h1 => ?_
    have same := counted.trans (restores_runTracked Γ.recorded
      (perform_restores Γ.recorded n) _ _ w1 (by rw [h1]; rfl))
    cases asked : (w1.graph.effect i).rerun && !(w1.graph.effect i).disposed with
    | false => exact keeps_still (by rw [graph_bind, asked]; rfl)
    | true =>
      have live : (w1.graph.effect i).disposed = false := by
        simpa using (Bool.and_eq_true_iff.mp asked).2
      exact Keeps.after (ih (by rw [same.stack]; exact idle) ⟨(same.running i).trans starts.1, live⟩)
        (by rw [graph_bind, asked]; rfl) fun orderly => ⟨Course.refl orderly, orderly⟩

theorem orderly_executeEffect (i : Nat) (w : World V C (Recorded V C H E)) :
    Keeps (Orderly Ok R) Attests
      (executeEffect Γ.recorded (perform Γ.recorded n) i) w := by
  cases hd : (w.graph.effect i).disposed with
  | true => exact keeps_still (by rw [executeEffect_disposed hd]; rfl)
  | false =>
    cases hr : (w.graph.effect i).running with
    | true =>
      exact keeps_of_eq (executeEffect_running hd hr) fun orderly =>
        orderly.update Γ (.requestRun hr) rfl rfl
    | false =>
      by_cases deeper : 0 < w.graph.depth
      · exact keeps_of_eq (executeEffect_waiting hd hr deeper) fun orderly =>
          orderly.aside (.enqueue hd hr) (Graph.bypasses_of_eq rfl fun _ on => on)
            (prudent.notice _ _ _) (.inr ⟨_, rfl, fun _ => ⟨nofun, nofun⟩⟩)
      · intro orderly
        have idle : .effect i ∉ w.graph.stack := orderly.tracked.idle (by simp [Graph.Active, hr])
        rw [executeEffect_now hd hr deeper]
        refine Keeps.after ?_ (runEffect_apply i w) (fun orderly =>
          orderly.update Γ (.startRunning idle hd hr) rfl rfl) orderly
        refine (orderly_settle (w := w.update (·.setRunning i true)) prudent scripts _ idle
          (Graph.starts_setRunning hd)).ensure fun _ w1 ended _ => ?_
        refine keeps_of_eq rfl fun orderly => orderly.update Γ (.stopRunning (i := i) ?_) rfl rfl
        rw [(restores_settle Γ.recorded (perform_restores Γ.recorded n) i _ _ w1 ended).stack]
        exact idle

omit scripts
include effects

theorem orderly_drain (m : Nat) (failure : Option E) (w : World V C (Recorded V C H E)) :
    Keeps (Orderly Ok R) Attests
      (drain Γ.recorded (perform Γ.recorded n) m failure) w := by
  induction m generalizing failure w with
  | zero => exact keeps_still rfl
  | succ m ih =>
    cases queue : w.graph.queue with
    | nil => exact keeps_still (by rw [drain_nil m failure queue]; cases failure <;> rfl)
    | cons i rest =>
      refine Keeps.after ?_ (drain_cons m failure queue) fun orderly => orderly.aside (.unqueue queue)
        (Graph.bypasses_of_eq rfl fun _ on => on) (prudent.notice _ _ _)
        (.inr ⟨_, rfl, fun _ => ⟨nofun, nofun⟩⟩)
      refine (effects i _).attempt.bind fun r w1 _ => ?_
      cases r with
      | ok => exact ih _ w1
      | error e =>
        change Keeps _ _ (if Γ.caught e then _ else raise e) w1
        split
        · exact ih _ w1
        · exact keeps_still rfl

theorem orderly_leaveBatch (fuel : Nat) (w : World V C (Recorded V C H E)) :
    Keeps (Orderly Ok R) Attests
      (leaveBatch Γ.recorded (perform Γ.recorded n) fuel) w := by
  by_cases outermost : w.graph.depth = 1
  · exact Keeps.after (orderly_drain prudent effects fuel none _)
      (leaveBatch_outermost fuel outermost) fun orderly => orderly.update Γ .depart rfl rfl
  · exact keeps_of_eq (leaveBatch_inner fuel outermost) fun orderly =>
      orderly.update Γ .depart rfl rfl

include scripts leaves

theorem orderly_exec {s : Script V C H E} (modest : s.Modest Ok R true)
    (w : World V C (Recorded V C H E)) :
    Keeps (Orderly Ok R) Attests
      (exec Γ.recorded (perform Γ.recorded n) s.recorded) w := by
  induction modest generalizing w with
  | done | raise => exact keeps_still rfl
  | @look next _ ih =>
    by_cases matched : Matched w.host.past
    case neg => exact orderly_of_unmatched (walks_exec (perform_walks Γ n) (.look next) w) matched
    intro orderly
    exact Keeps.after (ih w.graph w.host.host (orderly.rest matched).1.host _) rfl (fun orderly =>
      orderly.aside (.look : Step Γ w _) (Graph.bypasses_of_eq rfl fun _ on => on) id
        (.inr ⟨_, rfl, fun _ => ⟨nofun, nofun⟩⟩)) orderly
  | @replace host _ ok _ ih =>
    exact Keeps.after (ih _) rfl fun orderly => orderly.aside (.replace host : Step Γ w _)
      (Graph.bypasses_of_eq rfl fun _ on => on) (fun _ => ok) (.inl rfl)
  | read _ ih => exact (orderly_readSource prudent _ w).bind fun v w1 _ => ih v w1
  | attempt _ _ body ih => exact (body w).attempt.bind fun r w1 _ => ih r w1
  | call _ _ ih => exact (scripts (prudent.body _) w).bind fun r w1 _ => ih r w1
  | @newWire v _ _ _ ih =>
    exact Keeps.after (ih _ _) rfl fun orderly => orderly.update Γ (.addWire v) rfl rfl
  | @write k v _ _ _ ih =>
    exact (orderly_writeWire prudent scripts leaves k v w).bind fun _ w1 _ => ih w1
  | @freeze k _ _ _ ih =>
    exact Keeps.after (ih _) rfl fun orderly => orderly.update Γ (.freeze k) rfl rfl
  | @newDerived l c _ _ code _ ih =>
    exact Keeps.after (ih _ _) rfl fun orderly => orderly.addDerived Γ l code
  | @newEffect l c _ _ _ ih =>
    exact Keeps.after ((effects w.graph.effects.size _).bind fun _ w1 _ => ih _ w1) rfl
      fun orderly => orderly.update Γ (.addEffect l c) rfl rfl
  | @execute i _ _ _ ih => exact (effects i w).bind fun _ w1 _ => ih w1
  | @dispose i _ _ _ ih =>
    have relinks := Graph.relinks_dispose w.graph i
    have disposes := relinks.bypasses fun d => (Graph.dependencies_dispose _ _ _).trans (if_neg nofun)
    exact Keeps.after (ih _) rfl fun orderly => orderly.aside (.dispose i)
      ⟨disposes.deriveds, disposes.derived, disposes.stack⟩ (prudent.notice _ _ _)
      (.inr ⟨_, rfl, fun _ => ⟨nofun, nofun⟩⟩)
  | startBatch _ _ ih =>
    exact Keeps.after (ih _) rfl fun orderly => orderly.update Γ .enter rfl rfl
  | endBatch _ _ ih => exact (orderly_leave leaves w).bind fun _ w1 _ => ih w1
  | batch _ _ _ body ih =>
    refine Keeps.after (((body _).ensure fun _ w1 _ _ => orderly_leave leaves w1).bind
      fun r w1 _ => ih r w1) rfl fun orderly => orderly.update Γ .enter rfl rfl

end Programs

theorem perform_orderly (prudent : Γ.Prudent Ok R) (n : Nat) :
    (∀ {s : Script V C H E}, s.Modest Ok R true → ∀ w,
      Keeps (Orderly Ok R) Attests (perform Γ.recorded n (.script s.recorded)) w) ∧
    (∀ i w, Keeps (Orderly Ok R) Attests (perform Γ.recorded n (.execute (.effect i))) w) ∧
    ∀ w, Keeps (Orderly Ok R) Attests (perform Γ.recorded n .leave) w := by
  induction n with
  | zero => exact ⟨fun _ _ => keeps_still rfl, fun _ _ => keeps_still rfl, fun _ => keeps_still rfl⟩
  | succ n ih =>
    obtain ⟨scripts, effects, leaves⟩ := ih
    refine ⟨orderly_exec prudent scripts effects leaves, fun i w => ?_, fun w => ?_⟩
    · exact (orderly_executeEffect prudent scripts i w).bind fun _ _ _ => keeps_still rfl
    · exact (orderly_leaveBatch prudent effects (n * n) w).bind fun _ _ _ => keeps_still rfl

end Run

/-- The worlds to which programs lead one after another from an empty graph, each to its end, with the
record of all of them. -/
inductive Composed (Γ : Setting V C H E) (Ok : H → Prop) (R : C → Prop) :
    World V C H → List (Sight V C E) → Prop
  | start {w : World V C H} : w.graph = {} → Ok w.host → Composed Γ Ok R w []
  | step {w w' : World V C H} {past : List (Sight V C E)} {n : Nat} {s : Script V C H E} :
      Composed Γ Ok R w past → s.Modest Ok R true →
      (Run.perform Γ n (.script s) w).ended? = some w' → Composed Γ Ok R w'
        (Run.perform Γ.recorded n (.script s.recorded) (w.recording past)).world.host.past

section Composed

variable {Γ : Setting V C H E} {Ok : H → Prop} {R : C → Prop}

theorem Lazy.start (Γ : Setting V C H E) {w : World V C H} (first : w.graph = {}) :
    Lazy (w.recording : World V C (Recorded V C H E)) := by
  have recounted : Recounted Γ w [] := .start first
  have derived (d : Nat) : w.graph.derived d = default := by
    rw [first]
    rfl
  have none (t : Tracker) : w.graph.dependencies t = [] := by
    rw [first]
    cases t <;> rfl
  refine ⟨⟨recounted.tracked, fun d computing => ?_, fun t _ _ d dep => ?_⟩, recounted.remembers,
    fun t _ _ => none t, fun d clean => ?_, fun d _ later upto returned => ?_, fun later x earlier d split => ?_,
    fun rest x earlier d split => ?_⟩
  · exact nomatch (congrArg Derived.computing (derived d)).symm.trans computing
  · exact nomatch none t ▸ dep
  · exact nomatch (congrArg Derived.dirty (derived d)).symm.trans clean
  · obtain ⟨x, earlier, rfl, -⟩ := returned.ended
    exact nomatch List.append_eq_nil_iff.mp returned.split.symm
  · exact nomatch List.append_eq_nil_iff.mp split.symm
  · exact nomatch List.append_eq_nil_iff.mp split.symm

theorem Composed.orderly (prudent : Γ.Prudent Ok R) {w : World V C H}
    {past : List (Sight V C E)} (h : Composed Γ Ok R w past) :
    Orderly Ok R (w.recording past) := by
  induction h with
  | @start w first host =>
    have tracked := (show Recounted Γ w [] from .start first).tracked
    refine ⟨tracked, fun _ => ⟨⟨tracked, host, fun d there => ?_⟩, fun d on => ?_,
      Lazy.start Γ first⟩⟩
    · rw [World.recording, first] at there
      cases there
    · rw [World.recording, first] at on
      cases on
  | @step w w' past n s _ modest ends ih =>
    have ended := perform_recording_ended ends past
    exact ((Run.perform_orderly prudent n).1 modest _ ih).2 _ ended

/-- Derived values are lazy, and keep what they have computed. Telling trackers of a change in a batch,
as every write does, shows nothing but effects that are queued. And whatever programs do one after
another and wherever the last one stops, if derived values have code that only reads: a computation
that returns is followed at once by the read of its value, and after one that has returned the next one
of the same derived value begins only if a wire was given another value since that it had read, itself
or through derived values. -/
theorem derived_values_lazy (prudent : setting.Prudent Ok R) {w : World V C H}
    {past : List (Sight V C E)} (composed : Composed setting Ok R w past) {s : Script V C H E}
    (modest : s.Modest Ok R true) (n : Nat) {record : List (Sight V C E)}
    (shows : (Run.perform setting.recorded n (.script s.recorded)
      (w.recording past)).world.host.past = record) (matched : Matched record) :
    (∀ m t (u : World V C (Recorded V C H E)), 0 < u.graph.depth →
      Queues u.host.past (Run.perform setting.recorded m (.execute t) u).world.host.past) ∧
    (∀ later x earlier d, record = later ++ x :: earlier →
      x.moment = some (.ended (.derived d) none) →
        ∃ rest y v, later = rest ++ [y] ∧ y.moment = some (.read (.derived d) v)) ∧
    ∀ rest x earlier d, record = rest ++ x :: earlier → x.moment = some (.began (.derived d)) →
      ∀ later upto, Returned d earlier later upto →
        ∃ k, Heeds upto k (.derived d) ∧ Wrote later k := by
  have sound := ((Run.perform_orderly prudent n).1 modest _ (composed.orderly prudent)).1
  rw [Attests, shows] at sound
  refine ⟨fun m t u deep => ?_, (sound matched).delivered, (sound matched).memoised⟩
  have stays := (telling_queues setting).perform m (t := t) trivial deep fun _ _ _ _ => trivial
  unfold Run.Stays at stays
  split at stays
  · rename_i ends
    rw [ends]
    exact stays.2
  · exact stays.elim
  · rename_i ends
    rw [ends]
    exact stays.2

end Composed

/-- A derived value reads a wire, another one reads the wire and the first one, and an effect reads
the second one. -/
def joined : Setting Nat Nat Unit String where
  body
    | 0 => .read (.wire 0) fun v => .done (some v)
    | 1 => .read (.wire 0) fun _ => .read (.derived 0) fun v => .done (some v)
    | _ => .read (.derived 1) fun _ => .done none
  same a b := .done (if a = b then some a else none)
  fault f := (f.message?).getD ""
  caught _ := true
  catches _ := rfl
  arrange _ ts := ts
  notice _ _ h := h

theorem joined_modest (c : Nat) (may : Bool) : (joined.body c).Modest (fun _ => True)
    (· < 2) may := by
  match c with
  | 0 => exact .read fun _ => .done _
  | 1 => exact .read fun _ => .read fun _ => .done _
  | _ + 2 => exact .read fun _ => .done none

theorem joined_prudent : joined.Prudent (fun _ => True) (· < 2) where
  reads c _ := joined_modest c false
  notice _ _ _ _ := trivial
  body c := joined_modest c true
  same _ _ := .done _
  told _ _ _ := Iff.rfl

/-- What is shown where both derived values and the effect are made, and something else is done. -/
def joining (later : Script Nat Nat Unit String) : List (Sight Nat Nat String) :=
  shown joined 9 (.newWire 0 fun _ => .newDerived (.named "given") 0 fun _ =>
    .newDerived (.named "joined") 1 fun _ => .newEffect (.named "show") 2 fun _ => later) ⟨{}, ()⟩

theorem returned_of_moments {record : List (Sight Nat Nat String)}
    (moments : ((record.map Sight.moment).drop m).take n =
      some (.began (.derived 1)) :: (since ++ [some (.ended (.derived 1) none)]))
    (spared : ∀ m ∈ since, m ≠ some (.began (.derived 1)) ∧ ∀ e, m ≠ some (.ended (.derived 1) e)) :
    ∃ rest x earlier later upto, record = rest ++ x :: earlier ∧
      x.moment = some (.began (.derived 1)) ∧ Returned 1 earlier later upto ∧
      later.map Sight.moment = since := by
  have whole := ((record.map Sight.moment).drop m).take_append_drop n
  rw [moments, List.cons_append, List.append_assoc, ← List.map_drop] at whole
  obtain ⟨x, earlier, first, began, second⟩ := List.map_eq_cons_iff.mp whole.symm
  obtain ⟨later, upto, rfl, rfl, third⟩ := List.map_eq_append_iff.mp second
  obtain ⟨y, start, rfl, ended, -⟩ := List.map_eq_cons_iff.mp third
  refine ⟨record.take m, x, _, later, _, ?_, began, ⟨rfl, ⟨y, start, rfl, ended⟩, fun z mem => ?_⟩, rfl⟩
  · rw [← first, List.take_append_drop]
  · exact spared z.moment (List.mem_map_of_mem mem)

/-- The derived value is computed again because the wire was written. -/
theorem derived_values_lazy_joined :
    ∃ rest x earlier later upto, joining (.write 0 5 (.done none)) = rest ++ x :: earlier ∧
      x.moment = some (.began (.derived 1)) ∧ Returned 1 earlier later upto ∧
      ∃ k, Heeds upto k (.derived 1) ∧ Wrote later k := by
  have moments : (((joining (.write 0 5 (.done none))).map Sight.moment).drop 8).take 8 =
      some (.began (.derived 1)) :: ([some (.began (.effect 0)), some (.unqueued 0), some (.queued 0),
        some (.wrote 0 0 5), some (.ended (.effect 0) none), some (.read (.derived 1) 0)] ++
        [some (.ended (.derived 1) none)]) := by
    decide +kernel
  obtain ⟨rest, x, earlier, later, upto, record, began, returned, -⟩ :=
    returned_of_moments moments (by simp)
  refine ⟨rest, x, earlier, later, upto, record, began, returned, ?_⟩
  exact (derived_values_lazy joined_prudent (w := ⟨{}, ()⟩) (.start rfl trivial)
    (.newWire rfl fun _ => .newDerived rfl Nat.two_pos fun _ => .newDerived rfl Nat.one_lt_two fun _ =>
      .newEffect rfl fun _ => .write rfl (.done none)) 9 rfl (by decide +kernel)).2.2
    rest x earlier 1 record began later upto returned

/-- Derived value `1` is computed again though no wire was written since it was computed. -/
def Unprompted (record : List (Sight Nat Nat String)) : Prop :=
  ∃ rest x earlier later upto, record = rest ++ x :: earlier ∧
    x.moment = some (.began (.derived 1)) ∧ Returned 1 earlier later upto ∧ ∀ k, ¬ Wrote later k

theorem unprompted_of_moments {record : List (Sight Nat Nat String)}
    (moments : ((record.map Sight.moment).drop m).take 5 =
      some (.began (.derived 1)) :: ([some (.began (.effect 0)), some (.ended (.effect 0) none),
        some (.read (.derived 1) 0)] ++ [some (.ended (.derived 1) none)])) : Unprompted record := by
  obtain ⟨rest, x, earlier, later, upto, split, began, returned, since⟩ :=
    returned_of_moments moments (by simp)
  refine ⟨rest, x, earlier, later, upto, split, began, returned, fun k ⟨y, mem, old, new, hy⟩ => ?_⟩
  have shown := List.mem_map_of_mem (f := Sight.moment) mem
  rw [since, hy] at shown
  simp at shown

/-- A program has told the derived value itself that it is out of date; or it has ended a batch that
was not open, so that effects run while subscribers are told of a change, and what they compute is
marked by the same change. -/
theorem derived_computed_for_nothing :
    Unprompted (joining (.execute (.derived 1) (.done none))) ∧
      Unprompted (joining (.endBatch (.write 0 5 (.done none)))) :=
  ⟨unprompted_of_moments (m := 5) (by decide +kernel), unprompted_of_moments (m := 8) (by decide +kernel)⟩

end AttrBinder.Reactive
