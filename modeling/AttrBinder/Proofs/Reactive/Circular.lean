import Mathlib.Data.Finset.Card
import Mathlib.Order.CompleteBooleanAlgebra
import Mathlib.Order.CompletePartialOrder
import AttrBinder.Proofs.Reactive.Consistency
import AttrBinder.Proofs.Reactive.Termination

/-!
Circular derived values. Evaluation from scratch, with no caches, keeps the derived values that are
under evaluation; it comes to a value, or it re-enters one of them. In whatever state earlier writes
and reads, also failed ones, have left the caches, reading a derived value ends, and raises the fault
of a circular dependency exactly if evaluation from scratch re-enters one (`circular_exact`).
-/

namespace AttrBinder.Reactive

variable {V C H E : Type} [Inhabited V] [Inhabited C] [Preorder H]

theorem forall_or_first {α : Type} {p q : α → Prop} {L : List α} (h : ∀ x ∈ L, p x ∨ q x) :
    (∀ x ∈ L, p x) ∨ ∃ K x M, L = K ++ x :: M ∧ (∀ y ∈ K, p y) ∧ q x := by
  induction L with
  | nil => exact .inl fun _ mem => nomatch mem
  | cons a L ih =>
    rcases h a List.mem_cons_self with first | other
    · rcases ih fun x mem => h x (List.mem_cons_of_mem a mem) with all | ⟨K, x, M, rfl, before, hx⟩
      · exact .inl (List.forall_mem_cons.mpr ⟨first, all⟩)
      · exact .inr ⟨a :: K, x, M, rfl, List.forall_mem_cons.mpr ⟨first, before⟩, hx⟩
    · exact .inr ⟨[], a, L, rfl, fun _ mem => (nomatch mem), other⟩

namespace Sheet

section Evaluation

variable (S : Sheet V C H) (Γ : Setting V C H E) (σ : Nat → V)

/-- What a source comes to from scratch, while the derived values on a path are under evaluation:
its value, or nothing if one of these is entered again. -/
inductive Evaluates : List Nat → Source → Option V → Prop
  | wire {path : List Nat} {i : Nat} : i < S.wires → Evaluates path (.wire i) (some (σ i))
  | enters {path : List Nat} {d : Nat} : d ∈ path → Evaluates path (.derived d) none
  | returns {path : List Nat} {d : Nat} {L : List (Source × V)} {r : Option V} : d < S.deriveds →
      d ∉ path → S.Formula Γ d L r →
      (∀ s v, (s, v) ∈ L → Evaluates (d :: path) s (some v)) →
      Evaluates path (.derived d) (some (r.getD default))
  | stops {path : List Nat} {d : Nat} {L K : List (Source × V)} {s : Source} {u : V}
      {r : Option V} : d < S.deriveds → d ∉ path → S.Formula Γ d (L ++ (s, u) :: K) r →
      (∀ s v, (s, v) ∈ L → Evaluates (d :: path) s (some v)) → Evaluates (d :: path) s none →
      Evaluates path (.derived d) none

variable {S Γ σ} {path : List Nat} {d : Nat}

omit [Inhabited C] in
theorem Evaluates.gives {s : Source} {v : V} (h : S.Evaluates Γ σ path s (some v)) :
    S.Gives Γ σ s v := by
  generalize hx : some v = x at h
  induction h generalizing v with
  | wire hi =>
    cases hx
    exact .wire hi
  | returns hd _ traced _ ih =>
    cases hx
    exact .derived hd traced fun s v hv => ih s v hv rfl
  | enters | stops => cases hx

omit [Inhabited C] in
theorem Evaluates.apart (h : S.Evaluates Γ σ path (.derived d) (some v))
    (needed : Relation.ReflTransGen (S.Needs Γ σ) d k) : k ∉ path := by
  generalize hs : Source.derived d = s at h
  generalize hx : some v = x at h
  induction h generalizing d v with
  | wire => cases hs
  | enters | stops => cases hx
  | @returns path e L r hd out traced given ih =>
    cases hs
    rcases needed.cases_head with rfl | ⟨j, ⟨L', r', u, traced', given', hu⟩, rest⟩
    · exact out
    · obtain ⟨rfl, rfl⟩ := traced.unique traced'
        (fun s v hv v' hv' => (given s v hv).gives.unique hv') given'
      exact fun mem => ih _ u hu rest rfl rfl (List.mem_cons_of_mem _ mem)

omit [Inhabited C] in
theorem Gives.not_enters (h : S.Gives Γ σ s v)
    (apart : ∀ d, s = .derived d → ∀ k, Relation.ReflTransGen (S.Needs Γ σ) d k → k ∉ path) :
    ¬ S.Evaluates Γ σ path s none := by
  induction h generalizing path with
  | wire => intro h; cases h
  | @derived d L r hd traced given ih =>
    intro h
    cases h with
    | enters mem => exact apart d rfl d .refl mem
    | @stops _ _ L' K s u r' _ _ traced' given' stuck =>
      -- The read that enters something again is one of the reads that give a value.
      have read : ∃ v, (s, v) ∈ L := by
        rcases traces_fork (traced S.base (le_refl _)) (traced' S.base (le_refl _)) with
          ⟨rfl, -⟩ | ⟨M, s', v, v', N, N', ne, rfl, split⟩
        · exact ⟨u, by simp⟩
        · rcases List.append_eq_append_iff.mp split with ⟨T, rfl, tail⟩ | ⟨T, rfl, tail⟩
          · rcases List.cons_eq_append_iff.mp tail with ⟨rfl, head⟩ | ⟨T', rfl, -⟩
            · cases head
              exact ⟨v, by simp⟩
            · exact ⟨u, by simp⟩
          · rcases List.cons_eq_append_iff.mp tail with ⟨rfl, head⟩ | ⟨T', rfl, -⟩
            · cases head
              exact ⟨v, by simp⟩
            · have gives := (given' s' v' (by simp)).gives
              exact absurd (gives.unique (given s' v (by simp))) ne
      obtain ⟨v, hv⟩ := read
      refine ih s v hv ?_ stuck
      rintro j rfl k needed mem
      have needs : S.Needs Γ σ d j := ⟨L, r, v, traced, given, hv⟩
      rcases List.mem_cons.mp mem with rfl | outer
      · exact (Gives.derived hd traced given).not_needed needs needed
      · exact apart d rfl k (needed.head needs) outer

/-- The functions of a family are finite, read only wires and members of it, and raise nothing of their
own: whatever the sources answer, of the kind that they do, there is a trace, and its result is of the
kind of the derived value. Nothing else depends on them. -/
structure Family (S : Sheet V C H) (Γ : Setting V C H E) (kind : Source → V → Prop) : Prop where
  plain : S.Plain Γ
  finite : Γ.Finite (S.base ≤ ·)
  code : ∀ d, d < S.deriveds → (Γ.body (S.formula d)).Finite Γ (S.base ≤ ·) false
  wire : ∀ i v, i < S.wires → S.holds i v → kind (.wire i) v
  kinds : ∀ s, S.Within s → ∃ v, kind s v
  answers : ∀ d, d < S.deriveds → ∀ a : Source → V, (∀ s, S.Within s → kind s (a s)) →
    ∃ L r, S.Formula Γ d L r ∧ ∀ s v, (s, v) ∈ L → S.Within s ∧ v = a s
  typed : ∀ d L r, d < S.deriveds → S.Formula Γ d L r → (∀ s v, (s, v) ∈ L → kind s v) →
    kind (.derived d) (r.getD default)
  action : ∀ c, ¬ S.action c

omit [Inhabited C] in
theorem Evaluates.kind {kind : Source → V → Prop} (family : S.Family Γ kind)
    (holds : S.Holds σ) {s : Source} {v : V} (h : S.Evaluates Γ σ path s (some v)) :
    kind s v := by
  generalize hx : some v = x at h
  induction h generalizing v with
  | wire hi =>
    cases hx
    exact family.wire _ _ hi (holds _ hi)
  | returns hd _ traced _ ih =>
    cases hx
    exact family.typed _ _ _ hd traced fun s v hv => ih s v hv rfl
  | enters | stops => cases hx

namespace Family

variable {kind : Source → V → Prop} (family : S.Family Γ kind) (holds : S.Holds σ)

include family holds

omit [Inhabited C] in
theorem evaluates_derived (hd : d < S.deriveds) (out : d ∉ path)
    (inner : ∀ s, S.Within s → ∃ x, S.Evaluates Γ σ (d :: path) s x) :
    ∃ x, S.Evaluates Γ σ path (.derived d) x := by
  -- A source that comes to nothing may be taken to answer anything of its kind.
  have answer (s : Source) : ∃ v, S.Within s → kind s v ∧
      (S.Evaluates Γ σ (d :: path) s (some v) ∨ S.Evaluates Γ σ (d :: path) s none) := by
    by_cases hs : S.Within s
    · obtain ⟨_ | v, ends⟩ := inner s hs
      · obtain ⟨v, hv⟩ := family.kinds s hs
        exact ⟨v, fun _ => ⟨hv, .inr ends⟩⟩
      · exact ⟨v, fun _ => ⟨ends.kind family holds, .inl ends⟩⟩
    · exact ⟨default, fun hs' => absurd hs' hs⟩
  choose a ha using answer
  obtain ⟨L, r, traced, asked⟩ := family.answers d hd a fun s hs => (ha s hs).1
  have ends : ∀ x ∈ L, S.Evaluates Γ σ (d :: path) x.1 (some x.2) ∨
      S.Evaluates Γ σ (d :: path) x.1 none := by
    rintro ⟨s, v⟩ hv
    obtain ⟨hs, rfl⟩ := asked s v hv
    exact (ha s hs).2
  rcases forall_or_first ends with all | ⟨K, ⟨s, u⟩, M, rfl, before, stuck⟩
  · exact ⟨_, .returns hd out traced fun s v hv => all (s, v) hv⟩
  · exact ⟨_, .stops hd out traced (fun s v hv => before (s, v) hv) stuck⟩

omit [Inhabited C] in
theorem evaluates (path : List Nat) {s : Source} (within : S.Within s) :
    ∃ x, S.Evaluates Γ σ path s x := by
  classical
  generalize size : ((Finset.range S.deriveds).filter (· ∉ path)).card = m
  induction m using Nat.strong_induction_on generalizing path s with
  | _ m ih =>
    cases s with
    | wire i => exact ⟨_, .wire within⟩
    | derived d =>
      by_cases out : d ∈ path
      · exact ⟨none, .enters out⟩
      refine family.evaluates_derived holds within out fun s hs => ih _ ?_ (d :: path) hs rfl
      rw [← size]
      refine Finset.card_lt_card ((Finset.ssubset_iff_of_subset ?_).mpr ⟨d, ?_, ?_⟩)
      · exact Finset.monotone_filter_right _ fun k _ out' mem => out' (List.mem_cons_of_mem d mem)
      · exact Finset.mem_filter.mpr ⟨Finset.mem_range.mpr within, out⟩
      · exact fun mem => (Finset.mem_filter.mp mem).2 List.mem_cons_self

end Family

end Evaluation

end Sheet

variable {S : Sheet V C H} {Γ : Setting V C H E} {w w' w'' : World V C (Recorded V C H E)}

def Busy (path : List Nat) (g : Graph V C) : Prop :=
  ∀ k, (g.derived k).computing = true ↔ k ∈ path

variable (S Γ) in
/-- A read has failed. What came up to date on the way stays so. -/
structure Fails (w w' : World V C (Recorded V C H E)) : Prop where
  sober : Sober S Γ w'
  activity : w.graph.SameActivity w'.graph
  ripens : w.graph.Ripens w'.graph
  host : w.host.host ≤ w'.host.host
  overran : Overran w.host.past → Overran w'.host.past

theorem Fails.refl (h : Sober S Γ w) : Fails S Γ w w :=
  ⟨h, .refl _, .refl _, le_refl _, id⟩

theorem Reads.fails (a : Reads S Γ L w w') (b : Fails S Γ w' w'') :
    Fails S Γ w w'' :=
  ⟨b.sober, a.activity.trans b.activity, a.ripens.trans b.ripens, le_trans a.host b.host,
    fun h => b.overran (a.overran h)⟩

theorem busy_nil {g : Graph V C} (idle : ∀ k, (g.derived k).computing = false) : Busy [] g :=
  fun k => by simp [idle k]

theorem Busy.reads (h : Busy path w.graph)
    (reads : Reads S Γ L w w') : Busy path w'.graph :=
  fun k => by rw [reads.activity.computing k]; exact h k

theorem Busy.free (h : Busy path w.graph)
    (ends : S.Evaluates Γ w.graph.values path (.derived d) (some v)) : Free S Γ d w :=
  fun k needed => Bool.eq_false_iff.mpr fun computing => ends.apart needed ((h k).mp computing)

omit [Preorder H] in
theorem Busy.beginComputing (h : Busy path w.graph) (present : d < w.graph.deriveds.size) :
    Busy (d :: path) (w.beginComputing Γ.recorded d).graph := by
  intro k
  rw [World.computing_beginComputing _ present, List.mem_cons, ← h k]
  split
  · simp [*]
  · rename_i other
    simp [Ne.symm other]

theorem Sheet.Settled.clean (h : S.Settled Γ g (.derived d) v) : (g.derived d).dirty = false := by
  cases h with
  | derived _ clean => exact clean

theorem Sheet.Settled.needed (h : S.Settled Γ g (.derived d) v)
    (needed : Relation.ReflTransGen (S.Needs Γ g.values) d k) :
    ∃ u, S.Settled Γ g (.derived k) u := by
  induction needed with
  | refl => exact ⟨v, h⟩
  | tail _ needs ih =>
    obtain ⟨_, settled⟩ := ih
    obtain ⟨L, r, u, traced, given, hu⟩ := needs
    cases settled with
    | derived _ _ _ traced' _ rests =>
      obtain ⟨rfl, rfl⟩ := traced'.unique traced
        (fun s v hv v' hv' => (rests s v hv).gives.unique hv') given
      exact ⟨u, rests _ u hu⟩

theorem Sober.not_enters (h : Sober S Γ w) (busy : Busy path w.graph) (hd : d < S.deriveds)
    (clean : (w.graph.derived d).dirty = false) :
    ¬ S.Evaluates Γ w.graph.values path (.derived d) none := by
  refine (h.settled d hd clean).gives.not_enters ?_
  rintro _ ⟨⟩ k needed mem
  obtain ⟨_, settled⟩ := (h.settled d hd clean).needed needed
  exact nomatch settled.clean.symm.trans (h.computing k ((busy k).mpr mem))

namespace Run

variable {α β : Type}

variable (Γ) in
/-- A run that raises the fault of a circular dependency, unless it is cut off. -/
def Circles (m : Run V C (Recorded V C H E) E α) (w : World V C (Recorded V C H E))
    (Q : World V C (Recorded V C H E) → Prop) : Prop :=
  match m w with
  | .ok _ _ => False
  | .raised e w' => (∃ l, e = Γ.fault (.circular l)) ∧ Q w'
  | .exhausted _ => True

omit [Inhabited V] [Inhabited C] [Preorder H] in
theorem Circles.bind (hm : Circles Γ m w Q) : Circles Γ (m >>= f) w Q := by
  unfold Circles at hm
  cases hw : m w with
  | ok a w1 =>
    rw [hw] at hm
    exact hm.elim
  | raised e w1 =>
    rw [hw] at hm
    rw [Circles, bind_of_raised hw]
    exact hm
  | exhausted w1 =>
    rw [Circles, bind_of_exhausted hw]
    trivial

omit [Inhabited V] [Inhabited C] [Preorder H] in
theorem Circles.mono (hm : Circles Γ m w Q) (h : ∀ w', Q w' → R w') : Circles Γ m w R := by
  unfold Circles at hm ⊢
  cases hw : m w with
  | ok a w1 => rwa [hw] at hm
  | raised e w1 =>
    rw [hw] at hm
    exact ⟨hm.1, h w1 hm.2⟩
  | exhausted w1 => trivial

omit [Inhabited V] [Inhabited C] [Preorder H] in
theorem Yields.circles (hm : Yields m w P) (hf : ∀ a w', P a w' → Circles Γ (f a) w' Q) :
    Circles Γ (m >>= f) w Q := by
  unfold Yields at hm
  cases hw : m w with
  | ok a w1 =>
    rw [hw] at hm
    have next := hf a w1 hm
    rw [Circles, bind_of_ok hw]
    exact next
  | raised e w1 =>
    rw [hw] at hm
    exact hm.elim
  | exhausted w1 =>
    rw [Circles, bind_of_exhausted hw]
    trivial

section Parts

variable (adds : Γ.Adds)
variable {again : Task V C (Recorded V C H E) E → Run V C (Recorded V C H E) E (Option V)}
variable (nested : Nested S Γ again)
variable (hscript : ∀ {script : Script V C H E} {path : List Nat} {L K : List (Source × V)}
  {s : Source} {u : V} {r : Option V} {w : World V C (Recorded V C H E)}, Sober S Γ w →
  Busy path w.graph → script.Traces Γ w.host.host (L ++ (s, u) :: K) r →
  (∀ s v, (s, v) ∈ L → S.Evaluates Γ w.graph.values path s (some v)) →
  S.Evaluates Γ w.graph.values path s none →
  Circles Γ (again (.script script.recorded)) w (Fails S Γ w))
variable (hvalue : ∀ {d : Nat} {path : List Nat} {w : World V C (Recorded V C H E)},
  Sober S Γ w → Busy path w.graph → S.Evaluates Γ w.graph.values path (.derived d) none →
  Circles Γ (again (.value d)) w (Fails S Γ w))

include adds hscript in
theorem circles_compute (h : Sober S Γ w) (busy : Busy path w.graph) (hd : d < S.deriveds)
    (out : d ∉ path) (dirty : (w.graph.derived d).dirty = true)
    (traced : S.Formula Γ d (L ++ (s, u) :: K) r)
    (given : ∀ s v, (s, v) ∈ L → S.Evaluates Γ w.graph.values (d :: path) s (some v))
    (stuck : S.Evaluates Γ w.graph.values (d :: path) s none) :
    Circles Γ (compute Γ.recorded again d) w (Fails S Γ w) := by
  have present : d < w.graph.deriveds.size := h.fits.deriveds.symm ▸ hd
  have idle : (w.graph.derived d).computing = false :=
    Bool.eq_false_iff.mpr fun computing => out ((busy d).mp computing)
  have begun := h.beginComputing adds present idle dirty
  have ripe := ripens_beginComputing dirty Γ
  have code :
      Γ.recorded.body ((w.beginComputing Γ.recorded d).graph.body (.derived d)) =
        (Γ.body (S.formula d)).recorded := by
    rw [← begun.fits.formula d hd]
    rfl
  have inner := hscript begun (busy.beginComputing present) (traced _ begun.host)
    (fun s v hv => ripe.values ▸ given s v hv) (ripe.values ▸ stuck)
  rw [← code] at inner
  unfold Circles at inner
  cases hw : again (.script (Γ.recorded.body
      ((w.beginComputing Γ.recorded d).graph.body (.derived d))))
      (w.beginComputing Γ.recorded d) with
  | ok r' w₂ =>
    rw [hw] at inner
    exact inner.elim
  | raised e w₂ =>
    rw [hw] at inner
    obtain ⟨circular, fails⟩ := inner
    have stack : w₂.graph.stack = .derived d :: w.graph.stack :=
      fails.activity.stack.trans (World.stack_beginComputing Γ.recorded d w)
    obtain ⟨sober, closed⟩ := fails.sober.stopComputing adds
      (fails.sober.fits.deriveds.symm ▸ hd) stack (some e)
    rw [Circles, compute_of_raised (runTracked_of_raised hw)]
    refine ⟨circular, sober, ?_, (ripe.trans fails.ripens).trans closed, ?_, ?_⟩
    · have inner : ((w.graph.setComputing d true).forget (.derived d)).SameActivity w₂.graph.pop :=
        fails.activity.pop
      exact ((Graph.sameActivity_forget (w.graph.setComputing d true) (.derived d)).trans
        inner).endComputing idle
    · exact le_trans (le_trans (adds _ _ _) fails.host) (adds _ _ _)
    · exact fun beyond => (fails.overran (beyond.later _)).later _
  | exhausted w₂ =>
    rw [Circles, compute_of_exhausted (runTracked_of_exhausted hw)]
    trivial

include adds hscript in
theorem circles_derivedValue (h : Sober S Γ w)
    (busy : Busy path w.graph) (stuck : S.Evaluates Γ w.graph.values path (.derived d) none) :
    Circles Γ (derivedValue Γ.recorded again d) w (Fails S Γ w) := by
  cases hd : (w.graph.derived d).computing with
  | true =>
    have present : w.graph.Active (.derived d) := hd
    rw [Circles, derivedValue_circular present.hasTracker hd]
    exact ⟨⟨_, rfl⟩, .refl h⟩
  | false =>
    have out : d ∉ path := fun mem => nomatch hd.symm.trans ((busy d).mpr mem)
    cases stuck with
    | enters mem => exact absurd mem out
    | stops within _ traced given inner =>
      have present : d < w.graph.deriveds.size := h.fits.deriveds.symm ▸ within
      have dirty : (w.graph.derived d).dirty = true := by
        refine Bool.of_not_eq_false fun clean => ?_
        exact h.not_enters busy within clean (.stops within out traced given inner)
      rw [Circles, derivedValue_dirty present hd dirty]
      exact (circles_compute adds hscript h busy within out dirty traced given inner).bind

include hvalue in
theorem circles_readSource {s : Source} {path : List Nat} (h : Sober S Γ w)
    (busy : Busy path w.graph) (stuck : S.Evaluates Γ w.graph.values path s none) :
    Circles Γ (readSource Γ.recorded again s) w (Fails S Γ w) := by
  cases s with
  | wire i => cases stuck
  | derived d =>
    rw [readSource_derived]
    exact (hvalue h busy stuck).bind

include adds nested hscript hvalue in
theorem circles_exec {script : Script V C H E} (h : Sober S Γ w)
    (busy : Busy path w.graph) (traced : script.Traces Γ host M r) (here : w.host.host = host)
    (split : M = L ++ (s, u) :: K)
    (given : ∀ s v, (s, v) ∈ L → S.Evaluates Γ w.graph.values path s (some v))
    (stuck : S.Evaluates Γ w.graph.values path s none) :
    Circles Γ (exec Γ.recorded again script.recorded) w (Fails S Γ w) := by
  -- What is read before the failure leaves the rest as it was.
  have after {w w' : World V C (Recorded V C H E)} {N L : List (Source × V)}
      (reads : Reads S Γ N w w')
      (given : ∀ s v, (s, v) ∈ L → S.Evaluates Γ w.graph.values path s (some v)) (s : Source)
      (v : V) (hv : (s, v) ∈ L) : S.Evaluates Γ w'.graph.values path s (some v) :=
    reads.ripens.values ▸ given s v hv
  induction traced generalizing w L with
  | done => simp at split
  | look _ ih =>
    subst here
    have looked := h.look
    exact (ih w.graph looked.sober (busy.reads looked) rfl split given stuck).mono fun _ => looked.fails
  | replace grows _ ih =>
    subst here
    have replaced := h.replace grows
    exact (ih replaced.sober (busy.reads replaced) rfl split given stuck).mono fun _ => replaced.fails
  | @read s' v next _ M r _ ih =>
    subst here
    cases L with
    | nil =>
      cases split
      exact (circles_readSource hvalue h busy stuck).bind
    | cons x L =>
      cases split
      have first := given s' v List.mem_cons_self
      refine (reads_readSource adds nested.values h first.gives ?_).circles ?_
      · rintro d rfl
        exact busy.free first
      · rintro _ w1 ⟨rfl, reads⟩
        exact (ih _ reads.host reads.sober (busy.reads reads) rfl rfl
          (after reads fun s v hv => given s v (List.mem_cons_of_mem _ hv))
          (reads.ripens.values ▸ stuck)).mono fun _ => reads.fails
  | @call c next _ M N r r' code _ _ ih =>
    subst here
    have later (T : List (Source × V)) (hL : L = M ++ T) (tail : N = T ++ (s, u) :: K) :
        Circles Γ (exec Γ.recorded again (Script.call c next).recorded) w
          (Fails S Γ w) := by
      subst hL
      have before (s : Source) (v : V) (hv : (s, v) ∈ M) := given s v (List.mem_append_left _ hv)
      refine (nested.scripts h code (fun s v hv => (before s v hv).gives)
        fun j u hj => busy.free (before _ u hj)).circles ?_
      rintro _ w1 ⟨rfl, reads⟩
      exact (ih _ reads.host reads.sober (busy.reads reads) rfl tail
        (after reads fun s v hv => given s v (List.mem_append_right _ hv))
        (reads.ripens.values ▸ stuck)).mono fun _ => reads.fails
    rcases List.append_eq_append_iff.mp split with ⟨T, hL, tail⟩ | ⟨T, hM, tail⟩
    · exact later T hL tail
    · rcases List.cons_eq_append_iff.mp tail with ⟨rfl, rest⟩ | ⟨T, rfl, -⟩
      · exact later [] (by rw [hM]; simp) rest
      · exact (hscript h busy (hM ▸ code) given stuck).bind

end Parts

theorem perform_circles (adds : Γ.Adds) (arrange : ∀ n ts, (Γ.arrange n ts).Perm ts)
    (n : Nat) :
    (∀ {script : Script V C H E} {path : List Nat} {L K : List (Source × V)} {s : Source} {u : V}
      {r : Option V} {w : World V C (Recorded V C H E)}, Sober S Γ w → Busy path w.graph →
      script.Traces Γ w.host.host (L ++ (s, u) :: K) r →
      (∀ s v, (s, v) ∈ L → S.Evaluates Γ w.graph.values path s (some v)) →
      S.Evaluates Γ w.graph.values path s none →
      Circles Γ (perform Γ.recorded n (.script script.recorded)) w
        (Fails S Γ w)) ∧
    ∀ {d : Nat} {path : List Nat} {w : World V C (Recorded V C H E)}, Sober S Γ w →
      Busy path w.graph → S.Evaluates Γ w.graph.values path (.derived d) none →
      Circles Γ (perform Γ.recorded n (.value d)) w (Fails S Γ w) := by
  induction n with
  | zero => exact ⟨fun _ _ _ _ _ => trivial, fun _ _ _ => trivial⟩
  | succ n ih =>
    have nested := perform_nested (S := S) adds arrange n
    refine ⟨fun h busy traced given stuck => ?_, fun h busy stuck => ?_⟩
    · exact circles_exec adds nested ih.1 ih.2 h busy traced rfl rfl given stuck
    · exact (circles_derivedValue adds ih.1 h busy stuck).bind

end Run

def Script.fetch (s : Source) : Script V C H E :=
  .read s fun v => .done (some v)

namespace Sheet.Family

variable {kind : Source → V → Prop} (family : S.Family Γ kind)

include family

theorem noEffects (h : Sober S Γ w) (i : Nat) : (w.graph.effect i).disposed = true :=
  Bool.of_not_eq_false fun live =>
    family.action _ (h.fits.action i (Graph.effect_lt_of_not_disposed live))

theorem coherent_fails (h : Coherent S Γ none w) (fails : Fails S Γ w w') :
    Coherent S Γ none w' where
  sober := fails.sober
  idle d := (fails.activity.computing d).trans (h.idle d)
  depth := fails.ripens.depth ▸ h.depth
  effects _ i _ live := nomatch live.symm.trans (family.noEffects fails.sober i)

theorem maintains_circles {α : Type} {m : Run V C (Recorded V C H E) E α} {Q : α → Prop}
    (h : Coherent S Γ none w) (circles : Run.Circles Γ m w (Fails S Γ w)) :
    Run.Maintains S Γ true (Run.Passes w) m w Q := by
  unfold Run.Circles at circles
  unfold Run.Maintains
  cases hw : m w with
  | ok a w1 =>
    rw [hw] at circles
    exact circles.elim
  | raised e w1 =>
    rw [hw] at circles
    have fails := circles.2
    exact ⟨family.coherent_fails h fails, ⟨fails.ripens.depth, fun _ empty =>
      fails.ripens.queue.trans empty, fails.host, fails.overran⟩, .inl rfl⟩
  | exhausted w1 => trivial

theorem perform_maintains (n : Nat) :
    (∀ {s : Script V C H E} {w : World V C (Recorded V C H E)} {Q : Option V → Prop},
      s.Acts S Γ true w.host.host Q → Coherent S Γ none w → Run.Maintains S Γ true
        (Run.Passes w) (Run.perform Γ.recorded n (.script s.recorded)) w Q) ∧
    (∀ {i : Nat} {w : World V C (Recorded V C H E)}, Coherent S Γ (some i) w →
      Run.Maintains S Γ false (Run.Passes w)
        (Run.perform Γ.recorded n (.execute (.effect i))) w fun _ => True) ∧
    ∀ {w : World V C (Recorded V C H E)}, Coherent S Γ none w → 0 < w.graph.depth →
      Run.Maintains S Γ false (Run.Closes w) (Run.perform Γ.recorded n .leave) w
        fun _ => True := by
  have adds := family.plain.adds
  induction n with
  | zero => exact ⟨fun _ _ => trivial, fun _ => trivial, fun _ _ => trivial⟩
  | succ n ih =>
    obtain ⟨scripts, effects, leaves⟩ := ih
    have nested := Run.perform_nested (S := S) adds family.plain.arrange n
    refine ⟨fun acts h => ?_, fun {i w} h => ?_, fun h deep => ?_⟩
    · refine Run.maintains_exec nested leaves family.plain effects (· = true) rfl ?_ ?_ rfl
        acts rfl h
      · rintro _ s w rfl within h
        obtain ⟨_ | v, ends⟩ := family.evaluates h.sober.fits.holds [] within
        · exact family.maintains_circles h (Run.circles_readSource
            (Run.perform_circles adds family.plain.arrange n).2 h.sober (busy_nil h.idle) ends)
        · exact Run.maintains_gives nested adds h ends.gives
      · rintro _ s w Q rfl
        exact scripts
    · have gone := family.noEffects h.sober i
      have told : Run.Maintains S Γ false (Run.Passes w)
          (Run.executeEffect Γ.recorded (Run.perform Γ.recorded n) i) w fun _ => True :=
        Run.maintains_of_ok (Run.executeEffect_disposed gone) (h.disposed gone) (.refl w) trivial
      exact told.still trivial
    · exact (Run.maintains_leaveBatch family.plain effects (n * n) h deep).still trivial

theorem terminates {w : World V C H} (host : S.base ≤ w.host) (fits : S.Fits w.graph)
    (quiet : w.graph.Quiet) (s : Source) :
    Run.Terminates Γ (S.base ≤ ·) (.fetch s) w := by
  refine Run.terminates_finite family.finite ⟨host, Int.le_of_eq quiet.depth.symm, ?_, ?_⟩
    (.read fun v => .done (some v))
  · exact fun i hi => absurd (fits.action i hi) (family.action _)
  · intro d hd
    have within : d < S.deriveds := fits.deriveds ▸ hd
    exact fits.formula d within ▸ family.code d within

end Sheet.Family

/-- How reading a derived value ends: with a value, or with the fault of a circular dependency. -/
def Outcome.Comes (Γ : Setting V C H E) (o : Outcome V C H E (Option V)) : Option V → Prop
  | some v => ∃ w, o = .ok (some v) w
  | none => ∃ l w, o = .raised (Γ.fault (.circular l)) w

omit [Inhabited V] [Inhabited C] [Preorder H] in
theorem Outcome.Comes.unique {o : Outcome V C H E (Option V)} (a : o.Comes Γ x) (b : o.Comes Γ y) :
    x = y := by
  cases x with
  | none =>
    obtain ⟨_, _, rfl⟩ := a
    cases y with
    | none => rfl
    | some v => exact nomatch b
  | some v =>
    obtain ⟨_, rfl⟩ := a
    cases y with
    | none => exact nomatch b
    | some u =>
      obtain ⟨_, same⟩ := b
      cases same
      rfl

omit [Inhabited V] [Inhabited C] [Preorder H] in
theorem Run.Circles.comes (circles : Run.Circles Γ m w Q) (whole : (m w).plain.ended? = some u) :
    (m w).plain.Comes Γ none := by
  unfold Run.Circles at circles
  cases hw : m w with
  | ok a w1 =>
    rw [hw] at circles
    exact circles.elim
  | raised e w1 =>
    rw [hw] at circles
    obtain ⟨⟨l, rfl⟩, -⟩ := circles
    exact ⟨l, w1.plain, rfl⟩
  | exhausted w1 =>
    rw [hw] at whole
    cases whole

omit [Inhabited V] [Inhabited C] [Preorder H] in
theorem Run.Yields.comes {m : Run V C (Recorded V C H E) E (Option V)} {v : V}
    {Q : Option V → World V C (Recorded V C H E) → Prop}
    (yields : Run.Yields m w fun r w' => r = some v ∧ Q r w') {u : World V C H}
    (whole : (m w).plain.ended? = some u) : (m w).plain.Comes Γ (some v) := by
  unfold Run.Yields at yields
  cases hw : m w with
  | ok a w1 =>
    rw [hw] at yields
    obtain ⟨rfl, -⟩ := yields
    exact ⟨w1.plain, rfl⟩
  | raised e w1 =>
    rw [hw] at yields
    exact yields.elim
  | exhausted w1 =>
    rw [hw] at whole
    cases whole

/-- After every history of scripts that read and write, whether they failed or not, reading a member
of the family ends; it raises the fault of a circular dependency exactly if evaluation from scratch
enters a member again, and returns a value exactly if evaluation from scratch comes to it. -/
theorem circular_exact {kind : Source → V → Prop} (family : S.Family setting kind) {w : World V C H}
    {past : List (Sight V C E)} (logged : S.Logged setting w past) {d : Nat} (hd : d < S.deriveds) :
    ∃ N, ∀ n, N ≤ n →
      (∀ x, (Run.perform setting n (.script (.fetch (.derived d))) w).Comes setting x ↔
        S.Evaluates setting w.graph.values [] (.derived d) x) ∧
      ∃ x, (Run.perform setting n (.script (.fetch (.derived d))) w).Comes setting x := by
  obtain ⟨coherent, quiet⟩ := logged.coherent_of fun n => (family.perform_maintains n).1
  have sober := coherent.sober
  have adds := family.plain.adds
  obtain ⟨o, w', ended, -, N, ran⟩ := family.terminates sober.host sober.fits quiet (.derived d)
  refine ⟨N, fun n enough => ?_⟩
  have whole : (Run.perform setting n (.script (.fetch (.derived d))) w).ended? = some w' :=
    (congrArg Outcome.ended? (ran n enough)).trans ended
  rw [← perform_recording setting n (.fetch (.derived d)) w past] at whole ⊢
  have traced (v : V) : (Script.fetch (.derived d)).Traces setting w.host [(.derived d, v)] (some v) :=
    .read fun h _ => .done (some v) h
  have sound {x : Option V} (ends : S.Evaluates setting w.graph.values [] (.derived d) x) :
      (Run.perform setting.recorded n (.script (Script.fetch (.derived d)).recorded)
        (w.recording past)).plain.Comes setting x := by
    have busy := busy_nil coherent.idle
    cases x with
    | none =>
      have circles := (Run.perform_circles adds family.plain.arrange n).1 (L := []) sober busy
        (traced default) (fun _ _ hv => nomatch hv) ends
      exact circles.comes whole
    | some v =>
      have only (s : Source) (u : V) (hu : (s, u) ∈ [(Source.derived d, v)]) :
          S.Evaluates setting w.graph.values [] s (some u) := by
        cases List.mem_singleton.mp hu
        exact ends
      have yields := (Run.perform_reads S adds n).1 sober (traced v)
        (fun s u hu => (only s u hu).gives) fun j u hj => busy.free (only _ u hj)
      exact yields.comes whole
  obtain ⟨x, ends⟩ := family.evaluates sober.fits.holds [] (s := .derived d) hd
  refine ⟨fun y => ⟨fun comes => ?_, sound⟩, x, sound ends⟩
  exact (sound ends).unique comes ▸ ends

/-- Two derived values that read each other, the first one only while the wire is not zero. -/
def looping : Setting Nat Nat Unit String where
  body
    | 0 => .read (.wire 0) fun v =>
      if v = 0 then .done (some 1) else .read (.derived 1) fun u => .done (some u)
    | _ => .read (.derived 0) fun v => .done (some v)
  same a b := .done (if a = b then some a else none)
  fault f := (f.message?).getD ""
  caught _ := true
  catches _ := rfl
  arrange _ ts := ts
  notice _ _ h := h

def loop : Sheet Nat Nat Unit where
  wires := 1
  deriveds := 2
  formula d := d
  holds _ _ := True
  action _ := False
  base := ()

theorem loop_family : loop.Family looping fun _ _ => True where
  plain := ⟨fun _ _ _ => le_refl _, fun _ ts => .refl ts, fun _ _ _ _ _ _ => ⟨_, fun h _ => .done _ h⟩⟩
  finite := ⟨fun _ _ => .done _, fun _ _ _ mem => mem, fun _ _ _ ok => ok⟩
  code d hd := by
    match d, hd with
    | 0, _ =>
      refine .read fun v => ?_
      split
      · exact .done _
      · exact .read fun u => .done _
    | 1, _ => exact .read fun v => .done _
  wire _ _ _ _ := trivial
  kinds _ _ := ⟨0, trivial⟩
  answers d hd a _ := by
    have within : ∀ s ∈ [Source.wire 0, .derived 0, .derived 1], loop.Within s := by
      simp [Sheet.Within, loop]
    match d, hd with
    | 0, _ =>
      by_cases zero : a (.wire 0) = 0
      · refine ⟨[(.wire 0, a (.wire 0))], some 1, fun h _ => .read fun h _ => ?_, ?_⟩
        · rw [if_pos zero]
          exact .done _ h
        · simp [within]
      · refine ⟨[(.wire 0, a (.wire 0)), (.derived 1, a (.derived 1))], some (a (.derived 1)),
          fun h _ => .read fun h _ => ?_, ?_⟩
        · rw [if_neg zero]
          exact .read fun h _ => .done _ h
        · simp [or_imp, forall_and, within]
    | 1, _ =>
      exact ⟨[(.derived 0, a (.derived 0))], some (a (.derived 0)),
        fun h _ => .read fun h _ => .done _ h, by simp [within]⟩
  typed _ _ _ _ _ _ := trivial
  action _ := id

def loopStart : World Nat Nat Unit where
  graph := ((({} : Graph Nat Nat).addWire 0).addDerived (.named "first") 0).addDerived (.named "second") 1
  host := ()

theorem loopStart_fresh : loop.Fresh loopStart where
  host := le_refl _
  fits :=
    { wires := rfl
      deriveds := rfl
      formula := fun d hd => by
        match d, hd with
        | 0, _ | 1, _ => rfl
      holds := fun _ _ => trivial
      thawed := fun i => by
        match i with
        | 0 | _ + 1 => rfl
      action := fun i hi => absurd hi (Nat.not_lt_zero i) }
  quiet := ⟨⟨rfl, rfl, fun _ => rfl, fun d => by
    match d with
    | 0 | 1 | _ + 2 => rfl⟩, rfl⟩
  dirty d := by
    match d with
    | 0 | 1 | _ + 2 => rfl
  sources t := by
    match t with
    | .derived 0 | .derived 1 | .derived (_ + 2) | .effect _ => rfl
  trackers s := by
    match s with
    | .wire 0 | .wire (_ + 1) | .derived 0 | .derived 1 | .derived (_ + 2) => rfl
  effects := rfl

def looped (s : Script Nat Nat Unit String) (w : World Nat Nat Unit) : World Nat Nat Unit :=
  (Run.perform looping 9 (.script s) w).world

/-- The second derived value has been read, and again, in vain, after the wire was given a one. -/
def loopStuck : World Nat Nat Unit :=
  looped (.fetch (.derived 1)) (looped (.write 0 1 (.done none)) (looped (.fetch (.derived 1)) loopStart))

theorem loopStuck_logged : ∃ past, loop.Logged looping loopStuck past := by
  have fetches (w : World Nat Nat Unit) :
      (Script.fetch (.derived 1)).Acts loop looping true w.host fun _ => True :=
    .read Nat.one_lt_two fun _ _ _ _ => .done trivial
  have writes (w : World Nat Nat Unit) :
      (Script.write 0 1 (.done none)).Acts loop looping true w.host fun _ => True :=
    .write Nat.zero_lt_one trivial fun _ _ => .done trivial
  have ends {s : Script Nat Nat Unit String} {w : World Nat Nat Unit}
      (ended : (Run.perform looping 9 (.script s) w).ended?.isSome = true) :
      (Run.perform looping 9 (.script s) w).ended? = some (looped s w) :=
    Outcome.ended?_of_isSome ended
  have first := Sheet.Logged.step (.start loopStart_fresh) (fetches _) (ends (by decide +kernel))
  have second := first.step (writes _) (ends (by decide +kernel))
  exact ⟨_, second.step (fetches _) (ends (by decide +kernel))⟩

/-- Reading it fails once more, because the two read each other. -/
theorem circular_exact_loop :
    ∃ N, ∀ n, N ≤ n →
      (Run.perform looping n (.script (.fetch (.derived 1))) loopStuck).Comes looping none := by
  obtain ⟨past, logged⟩ := loopStuck_logged
  obtain ⟨N, exactly⟩ := circular_exact loop_family logged (d := 1) Nat.one_lt_two
  refine ⟨N, fun n enough => ((exactly n enough).1 none).mpr ?_⟩
  have one : loopStuck.graph.values 0 = 1 := by decide +kernel
  have wire : loop.Evaluates looping loopStuck.graph.values [0, 1] (.wire 0) (some 1) :=
    one ▸ .wire Nat.zero_lt_one
  have first : loop.Evaluates looping loopStuck.graph.values [1] (.derived 0) none :=
    .stops (L := [(.wire 0, 1)]) (K := []) (s := .derived 1) (u := 0) (r := some 0) Nat.zero_lt_two
      (by decide) (fun h _ => .read fun h _ => .read fun h _ => .done _ h)
      (fun s v hv => by cases List.mem_singleton.mp hv; exact wire) (.enters (by decide))
  exact .stops (L := []) (K := []) (u := 0) (r := some 0) Nat.one_lt_two (by decide)
    (fun h _ => .read fun h _ => .done _ h) (fun _ _ hv => nomatch hv) first

end AttrBinder.Reactive
