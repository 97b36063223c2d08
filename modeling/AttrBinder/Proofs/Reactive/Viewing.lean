import AttrBinder.Proofs.Reactive.Coherence
import AttrBinder.Proofs.Reactive.Glimpses
import AttrBinder.Proofs.Reactive.Recovery

/-!
What is up to date while scripts read. A tracker that is not marked depends on derived values that are
up to date (`Grounded`). Reading keeps this, whatever is computed meanwhile and however it ends, and it
leaves alone what is up to date (`Glimpse.grounded`). Where all trackers only read, the world stays
`Poised` (`Poised.sees`).
-/

namespace AttrBinder.Reactive

variable {V C H E : Type} [Inhabited V] [Inhabited C]

namespace Graph

variable {f g h : Graph V C}

def Upholds (g g' : Graph V C) : Prop :=
  ∀ d, (g.derived d).dirty = false → (g'.derived d).dirty = false ∧
    g'.dependencies (.derived d) = g.dependencies (.derived d)

theorem Upholds.trans (a : Upholds f g) (b : Upholds g h) : Upholds f h := by
  intro d clean
  obtain ⟨clean, deps⟩ := a d clean
  obtain ⟨clean', deps'⟩ := b d clean
  exact ⟨clean', deps'.trans deps⟩

theorem Upholds.refl (g : Graph V C) : Upholds g g :=
  fun _ clean => ⟨clean, rfl⟩

theorem Glances.marked (h : Glances f g) (i : Nat) :
    g.Marked (.effect i) ↔ f.Marked (.effect i) := by
  obtain ⟨ss, he, -⟩ := h.effect i
  simp only [Marked, Pending, he, h.queue]

theorem Relinks.marked (h : Relinks f g) (t : Tracker) : g.Marked t ↔ f.Marked t := by
  cases t with
  | derived d => rw [Marked, Marked, h.derived_of Derived.dirty fun _ _ _ => rfl]
  | effect i => rw [Marked, Marked, h.pending, h.effect_of Effect.disposed fun _ _ => rfl]

theorem SameCode.hasTracker (h : SameCode f g) : g.HasTracker t ↔ f.HasTracker t := by
  cases t with
  | derived d => exact iff_of_eq (congrArg (d < ·) h.deriveds)
  | effect i => exact iff_of_eq (congrArg (i < ·) h.effects)

end Graph

def Sight.Mild (x : Sight V C E) : Prop :=
  (∀ i old new, x.moment ≠ some (.wrote i old new)) ∧ ∀ i, x.moment ≠ some (.began (.effect i))

def Adds (past past' : List (Sight V C E)) : Prop :=
  ∃ new, past' = new ++ past ∧ ∀ x ∈ new, x.Mild

omit [Inhabited V] [Inhabited C] in
theorem Adds.refl (past : List (Sight V C E)) : Adds past past :=
  ⟨[], rfl, fun _ mem => nomatch mem⟩

omit [Inhabited V] [Inhabited C] in
theorem Adds.subset {p q : List (Sight V C E)} : Adds p q → p ⊆ q := by
  rintro ⟨new, rfl, -⟩
  exact List.subset_append_right _ _

omit [Inhabited V] [Inhabited C] in
theorem Adds.trans {p q r : List (Sight V C E)} : Adds p q → Adds q r → Adds p r := by
  rintro ⟨new, rfl, mild⟩ ⟨new', rfl, mild'⟩
  refine ⟨new' ++ new, (List.append_assoc _ _ _).symm, fun x mem => ?_⟩
  exact (List.mem_append.mp mem).elim (mild' x) (mild x)

omit [Inhabited V] [Inhabited C] in
theorem adds_cons {x : Sight V C E} (mild : x.Mild) (past : List (Sight V C E)) :
    Adds past (x :: past) :=
  ⟨[x], rfl, fun _ mem => List.mem_singleton.mp mem ▸ mild⟩

omit [Inhabited V] [Inhabited C] in
theorem adds_tell (Γ : Setting V C H E) (m : Moment V E)
    (wrote : ∀ i old new, m ≠ .wrote i old new) (began : ∀ i, m ≠ .began (.effect i))
    (w : World V C (Recorded V C H E)) : Adds w.host.past (w.tell Γ.recorded m).host.past :=
  adds_cons ⟨fun i old new same => wrote i old new (Option.some.inj same),
    fun i same => began i (Option.some.inj same)⟩ _

/-- What is computed is marked; and what runs or is not marked, unless it is exempt, depends on
derived values that are up to date. -/
structure Grounded (exempt : Tracker → Prop) (w : World V C (Recorded V C H E)) : Prop where
  tracked : Tracked w
  busy : ∀ d, (w.graph.derived d).computing = true → (w.graph.derived d).dirty = true
  closed : ∀ t, t ∈ w.graph.stack ∨ ¬ w.graph.Marked t → ¬ exempt t →
    ∀ d, .derived d ∈ w.graph.dependencies t → (w.graph.derived d).dirty = false

namespace Grounded

variable {Γ : Setting V C H E} {Ok : H → Prop} {exempt exempt' : Tracker → Prop}
variable {w w' : World V C (Recorded V C H E)} (h : Grounded exempt w)

include h

/-- A change after which a link to a derived value was there before, or leads to one that is up to
date. -/
theorem next (tracked : Tracked w')
    (busy : ∀ d, (w'.graph.derived d).computing = true → (w'.graph.derived d).dirty = true)
    (clean : ∀ d, (w.graph.derived d).dirty = false → (w'.graph.derived d).dirty = false)
    (links : ∀ t, t ∈ w'.graph.stack ∨ ¬ w'.graph.Marked t → ¬ exempt' t →
      ∀ d, .derived d ∈ w'.graph.dependencies t → (w'.graph.derived d).dirty = false ∨
        (t ∈ w.graph.stack ∨ ¬ w.graph.Marked t) ∧ ¬ exempt t ∧
          .derived d ∈ w.graph.dependencies t) : Grounded exempt' w' :=
  ⟨tracked, busy, fun t fresh other d dep => (links t fresh other d dep).elim id
    fun ⟨fresh, other, dep⟩ => clean d (h.closed t fresh other d dep)⟩

theorem of_eq (tracked : Tracked w') (deriveds : w'.graph.deriveds = w.graph.deriveds)
    (effects : w'.graph.effects = w.graph.effects) (stack : w'.graph.stack = w.graph.stack)
    (queue : w'.graph.queue = w.graph.queue) : Grounded exempt w' := by
  have derived : w'.graph.derived = w.graph.derived := by
    funext d
    simp only [Graph.derived, deriveds]
  have effect : w'.graph.effect = w.graph.effect := by
    funext i
    simp only [Graph.effect, effects]
  have links (t : Tracker) : w'.graph.dependencies t = w.graph.dependencies t := by
    cases t <;> simp only [Graph.dependencies, derived, effect]
  have marked (t : Tracker) : w'.graph.Marked t ↔ w.graph.Marked t := by
    cases t <;> simp only [Graph.Marked, Graph.Pending, derived, effect, queue]
  refine h.next tracked (by rw [derived]; exact h.busy) (by rw [derived]; exact fun _ clean => clean) ?_
  intro t fresh other d dep
  rw [stack, marked] at fresh
  exact .inr ⟨fresh, other, links t ▸ dep⟩

theorem idle_of_clean (clean : (w.graph.derived d).dirty = false) : .derived d ∉ w.graph.stack := by
  intro running
  exact nomatch clean.symm.trans (h.busy d (h.tracked.active _ running))

theorem read {s : Source} (there : w.graph.HasSource s) (v : V)
    (fresh : ∀ d, s = .derived d → (w.graph.derived d).dirty = false) :
    Grounded exempt (w.read Γ.recorded s v) ∧
      w.graph.Upholds (w.read Γ.recorded s v).graph := by
  have relinks := Graph.relinks_track w.graph s
  have dirty (d : Nat) : ((w.graph.track s).derived d).dirty = (w.graph.derived d).dirty :=
    relinks.derived_of Derived.dirty (fun _ _ _ => rfl) d
  refine ⟨h.next (h.tracked.read Γ there v) (fun d computing => ?_)
    (fun d clean => (dirty d).trans clean) fun t on other d dep => ?_, fun d clean => ?_⟩
  · refine (dirty d).trans (h.busy d ?_)
    exact (relinks.derived_of Derived.computing (fun _ _ _ => rfl) d).symm.trans computing
  · rcases Graph.mem_dependencies_track dep with before | ⟨rfl, -⟩
    · refine .inr ⟨?_, other, before⟩
      rwa [← relinks.stack, ← relinks.marked]
    · exact .inl ((dirty d).trans (fresh d rfl))
  · exact ⟨(dirty d).trans clean, Graph.dependencies_track_idle (h.idle_of_clean clean) s⟩

theorem begin {t : Tracker} (idle : t ∉ w.graph.stack) (starts : w.graph.Starts t)
    (less : ∀ t', exempt t' → exempt' t' ∨ t' = t) : Grounded exempt' (w.begin Γ.recorded t) := by
  have relinks := Graph.relinks_forget w.graph t
  have dirty (d : Nat) : ((w.graph.forget t).derived d).dirty = (w.graph.derived d).dirty :=
    relinks.derived_of Derived.dirty (fun _ _ _ => rfl) d
  refine h.next (h.tracked.begin Γ idle starts.active)
    (fun d computing => (dirty d).trans (h.busy d ?_)) (fun d clean => (dirty d).trans clean) ?_
  · exact (relinks.derived_of Derived.computing (fun _ _ _ => rfl) d).symm.trans computing
  · intro t' fresh counts d dep
    change Source.derived d ∈ (w.graph.forget t).dependencies t' at dep
    rw [Graph.dependencies_forget] at dep
    split at dep
    case isTrue => cases dep
    case isFalse other =>
      refine .inr ⟨?_, fun left => (less t' left).elim counts other, dep⟩
      refine fresh.imp (fun on => ?_) fun unmarked marked => unmarked ((relinks.marked t').mpr marked)
      exact relinks.stack ▸ (List.mem_cons.mp on).resolve_left other

theorem leave (tracked : Tracked w')
    (busy : ∀ d, (w'.graph.derived d).computing = true → (w'.graph.derived d).dirty = true)
    (clean : ∀ d, (w.graph.derived d).dirty = false → (w'.graph.derived d).dirty = false)
    (stack : w.graph.stack = t :: w'.graph.stack)
    (links : ∀ t', w'.graph.dependencies t' = w.graph.dependencies t')
    (marked : ∀ t' ≠ t, w.graph.Marked t' → w'.graph.Marked t') : Grounded exempt w' := by
  refine h.next tracked busy clean fun t' fresh other d dep => .inr ⟨?_, other, ?_⟩
  · by_cases same : t' = t
    · exact .inl (by rw [stack, same]; exact List.mem_cons_self)
    · exact fresh.imp (fun on => by rw [stack]; exact List.mem_cons_of_mem t on)
        (mt (marked t' same))
  · exact links t' ▸ dep

theorem beginComputing (present : d < w.graph.deriveds.size)
    (idle : (w.graph.derived d).computing = false) (dirty : (w.graph.derived d).dirty = true) :
    Grounded exempt (w.beginComputing Γ.recorded d) ∧
      w.graph.Upholds (w.beginComputing Γ.recorded d).graph := by
  have off : .derived d ∉ w.graph.stack := h.tracked.idle (by simp [Graph.Active, idle])
  let w₀ := w.update (·.setComputing d true)
  have same (j : Nat) : (w₀.graph.derived j).dirty = (w.graph.derived j).dirty :=
    Graph.dirty_setComputing _ _ _ _
  have links := (Graph.sameLinks_setComputing w.graph d true).dependencies
  have starts : w₀.graph.Starts (.derived d) := by
    simp [w₀, Graph.Starts, World.update, Graph.setComputing, Graph.derived_modifyDerived, present,
      dirty]
  have marked : Grounded exempt w₀ := by
    refine h.next (h.tracked.setComputing d true off) (fun j computing => ?_)
      (fun j clean => (same j).trans clean) fun t fresh other j dep => .inr ⟨?_, other, links t ▸ dep⟩
    · rw [same]
      have was := (Graph.computing_setComputing present true j).symm.trans computing
      split at was
      case isTrue here => exact here ▸ dirty
      case isFalse => exact h.busy j was
    · refine fresh.imp_right (mt fun marked => ?_)
      cases t with
      | derived j => exact (same j).trans marked
      | effect i => exact marked
  refine ⟨marked.begin off starts fun _ => .inl, fun j clean => ⟨?_, ?_⟩⟩
  · rw [World.graph_beginComputing, Graph.derived_push]
    exact ((Graph.relinks_forget w₀.graph _).derived_of Derived.dirty (fun _ _ _ => rfl) j).trans
      ((same j).trans clean)
  · rw [World.graph_beginComputing, Graph.dependencies_push]
    refine ((Graph.dependencies_forget w₀.graph (.derived d) (.derived j)).trans
      (if_neg fun here => ?_)).trans (links _)
    cases here
    cases clean.symm.trans dirty

theorem stopComputing (stack : w.graph.stack = .derived d :: rest)
    (failure : Option E) (keeps : f = id ∨ ∃ v, f = (·.keep d v)) :
    Grounded exempt (((w.finish Γ.recorded (.derived d) failure).update
        (·.setComputing d false)).update f) ∧
      w.graph.Upholds (f (w.graph.pop.setComputing d false)) := by
  let g := w.graph.pop.setComputing d false
  have there : d < w.graph.deriveds.size :=
    (h.tracked.active (.derived d) (by rw [stack]; exact List.mem_cons_self)).hasTracker
  have stopped : Tracked ((w.finish Γ.recorded (.derived d) failure).update
      (·.setComputing d false)) :=
    (h.tracked.finish Γ stack failure).setComputing d false (Glimpse.idle_tail h.tracked stack)
  have flag (j : Nat) : (g.derived j).dirty = (w.graph.derived j).dirty :=
    Graph.dirty_setComputing _ _ _ _
  have closes : Tracked (((w.finish Γ.recorded (.derived d) failure).update
        (·.setComputing d false)).update f) ∧ (∀ t, (f g).dependencies t = g.dependencies t) ∧
      (f g).stack = g.stack ∧ (f g).effects = g.effects ∧ (f g).queue = g.queue ∧
      (∀ j ≠ d, (f g).derived j = g.derived j) ∧
      (∀ j, ((f g).derived j).computing = (g.derived j).computing) ∧
      ∀ j, (g.derived j).dirty = false → ((f g).derived j).dirty = false := by
    rcases keeps with rfl | ⟨v, rfl⟩
    · exact ⟨stopped, fun _ => rfl, rfl, rfl, rfl, fun _ _ => rfl, fun _ => rfl, fun _ clean => clean⟩
    · refine ⟨stopped.keep d v, (Graph.sameLinks_keep g d v).dependencies, rfl, rfl, rfl, ?_,
        fun j => Graph.computing_keep g d j v, fun j clean => ?_⟩
      · intro j other
        exact (Graph.derived_modifyDerived _ _ _ _).trans (if_neg fun same => other same.1.symm)
      · by_cases present : d < g.deriveds.size
        · rw [Graph.dirty_keep present, clean, ite_self]
        · exact absurd (Nat.lt_of_lt_of_eq there Array.size_modify.symm) present
  obtain ⟨tracked, links, onStack, effects, queue, others, computes, cleans⟩ := closes
  have linked (t : Tracker) : (f g).dependencies t = w.graph.dependencies t :=
    (links t).trans ((Graph.sameLinks_setComputing _ d false).dependencies t)
  have clean (j : Nat) (clean : (w.graph.derived j).dirty = false) :
      ((f g).derived j).dirty = false := cleans j ((flag j).trans clean)
  refine ⟨h.leave (t := .derived d) tracked (fun j computing => ?_) clean ?_ linked ?_,
    fun j up => ⟨clean j up, linked _⟩⟩
  · have was := (Graph.computing_setComputing (g := w.graph.pop) there false j).symm.trans
      ((computes j).symm.trans computing)
    split at was
    case isTrue => cases was
    case isFalse other =>
      change ((f g).derived j).dirty = true
      rw [others j (Ne.symm other)]
      exact (flag j).trans (h.busy j was)
  · change w.graph.stack = _ :: (f g).stack
    rw [onStack]
    change w.graph.stack = _ :: w.graph.stack.tail
    rw [stack]
    rfl
  · intro t other marked
    cases t with
    | derived j =>
      change ((f g).derived j).dirty = true
      rw [others j fun same => other (congrArg Tracker.derived same)]
      exact (flag j).trans marked
    | effect i =>
      have same : (f g).effect i = w.graph.effect i := by
        simp only [Graph.effect, effects]
        rfl
      have waits : (f g).queue = w.graph.queue := queue
      change (f g).Marked (.effect i)
      rw [Graph.Marked, Graph.Pending, same, waits]
      exact marked

end Grounded

theorem Glimpse.grounded {Γ : Setting V C H E} {Ok : H → Prop} {exempt : Tracker → Prop}
    {w w' : World V C (Recorded V C H E)} (glimpse : Glimpse Γ Ok w w')
    (h : Grounded exempt w) : Grounded exempt w' ∧ w.graph.Upholds w'.graph := by
  cases glimpse with
  | look => exact ⟨h.of_eq h.tracked.look rfl rfl rfl rfl, .refl _⟩
  | replace => exact ⟨h.of_eq (h.tracked.replace _) rfl rfl rfl rfl, .refl _⟩
  | readWire present => exact h.read (s := .wire _) present _ fun _ other => nomatch other
  | readDerived clean =>
    refine h.read (s := .derived _) (Graph.derived_lt_of_clean clean) _ fun j same => ?_
    cases same
    exact clean
  | begin present idle dirty => exact h.beginComputing present idle dirty
  | fail e stack => exact h.stopComputing stack (some e) (.inl rfl)
  | @deliver d rest v stack =>
    have there : d < (w.graph.pop.setComputing d false).deriveds.size := by
      rw [Graph.setComputing, Graph.modifyDerived, Array.size_modify]
      exact (h.tracked.active (.derived d) (by rw [stack]; exact List.mem_cons_self)).hasTracker
    have clean : ((w.endComputing Γ.recorded d v).graph.derived d).dirty = false :=
      (Graph.dirty_keep there v d).trans (if_pos rfl)
    obtain ⟨kept, upholds⟩ : Grounded exempt (w.endComputing Γ.recorded d v) ∧
      w.graph.Upholds (w.endComputing Γ.recorded d v).graph := h.stopComputing stack none (.inr ⟨v, rfl⟩)
    obtain ⟨read, upholds'⟩ := kept.read (s := .derived d) (Graph.derived_lt_of_clean clean) v
      fun j same => by cases same; exact clean
    exact ⟨read, upholds.trans upholds'⟩

theorem Glimpse.adds {Γ : Setting V C H E} {Ok : H → Prop}
    {w w' : World V C (Recorded V C H E)} (glimpse : Glimpse Γ Ok w w') :
    Adds w.host.past w'.host.past := by
  cases glimpse with
  | look => exact adds_cons (x := ⟨none, w.graph⟩) ⟨nofun, nofun⟩ _
  | replace => exact .refl _
  | @readWire k => exact adds_tell Γ (.read (.wire k) _) nofun nofun _
  | @readDerived d => exact adds_tell Γ (.read (.derived d) _) nofun nofun _
  | @begin d => exact adds_tell Γ (.began (.derived d)) nofun nofun _
  | @fail d _ e => exact adds_tell Γ (.ended (.derived d) (some e)) nofun nofun _
  | @deliver d _ v =>
    have ended : Adds w.host.past (w.endComputing Γ.recorded d v).host.past :=
      adds_tell Γ (.ended (.derived d) none) nofun nofun _
    exact ended.trans (adds_tell Γ (.read (.derived d) v) nofun nofun _)

/-- A grounded world in which all trackers only read. -/
structure Poised (Γ : Setting V C H E) (Ok : H → Prop) (exempt : Option Tracker)
    (w : World V C (Recorded V C H E)) : Prop extends Grounded (exempt = some ·) w where
  host : Ok w.host.host
  code : ∀ t, w.graph.HasTracker t → (Γ.body (w.graph.body t)).Finite Γ Ok false

/-- What reading does to a world: it stays poised. -/
structure Seen (Γ : Setting V C H E) (Ok : H → Prop) (w w' : World V C (Recorded V C H E)) :
    Prop where
  poised : Poised Γ Ok none w'
  graph : w.graph.Glances w'.graph
  upholds : w.graph.Upholds w'.graph
  past : Adds w.host.past w'.host.past

omit [Inhabited V] [Inhabited C] in
theorem Script.Finite.modest {Γ : Setting V C H E} {Ok : H → Prop} {s : Script V C H E}
    (h : s.Finite Γ Ok false) :
    s.Modest Ok (fun c => (Γ.body c).Finite Γ Ok false) false := by
  induction h with
  | done r => exact .done r
  | raise e => exact .raise e
  | look _ ih => exact .look ih
  | replace ok _ ih => exact .replace ok ih
  | read _ ih => exact .read ih
  | attempt _ _ _ body ih => exact .attempt body ih
  | call inner _ _ ih => exact .call (fun _ => inner) ih
  | newWire may | write may | freeze may | dispose may | batch may => cases may

omit [Inhabited V] [Inhabited C] in
theorem Setting.Finite.modest {Γ : Setting V C H E} {Ok : H → Prop} (h : Γ.Finite Ok) :
    Γ.Modest Ok fun c => (Γ.body c).Finite Γ Ok false :=
  ⟨fun _ code => code.modest, h.notice⟩

section Poised

variable {Γ : Setting V C H E} {Ok : H → Prop} {exempt exempt' : Option Tracker}
variable {w w' w'' : World V C (Recorded V C H E)}

namespace Poised

theorem seen (h : Poised Γ Ok none w) : Seen Γ Ok w w :=
  ⟨h, .refl _, .refl _, .refl _⟩

theorem beholds (h : Poised Γ Ok exempt w) :
    Beholds Ok (fun c => (Γ.body c).Finite Γ Ok false) w :=
  ⟨h.tracked, h.host, fun d present => h.code (.derived d) present⟩

theorem of_grounded (h : Poised Γ Ok exempt w) (grounded : Grounded (exempt' = some ·) w')
    (host : Ok w'.host.host) (code : w.graph.SameCode w'.graph) : Poised Γ Ok exempt' w' where
  toGrounded := grounded
  host := host
  code t there := by
    rw [code.body t]
    exact h.code t (code.hasTracker.mp there)

theorem gaze (h : Poised Γ Ok none w) (finite : Γ.Finite Ok)
    (gazes : Gazes Γ Ok w w') : Seen Γ Ok w w' := by
  induction gazes with
  | refl => exact h.seen
  | tail _ glimpse ih =>
    obtain ⟨grounded, upholds⟩ := glimpse.grounded ih.poised.toGrounded
    exact ⟨ih.poised.of_grounded grounded (glimpse.beholds finite.modest ih.poised.beholds).host
      glimpse.glances.code, ih.graph.trans glimpse.glances, ih.upholds.trans upholds,
      ih.past.trans glimpse.adds⟩

theorem sees (h : Poised Γ Ok none w) (finite : Γ.Finite Ok)
    (keeps : Run.Keeps (Beholds Ok fun c => (Γ.body c).Finite Γ Ok false)
      (Gazes Γ Ok) m w) : Run.Ends (Seen Γ Ok) m w := by
  intro w' ended
  have gazes := (keeps h.beholds).1
  rw [Outcome.world_of_ended? ended] at gazes
  exact h.gaze finite gazes

end Poised

end Poised

end AttrBinder.Reactive
