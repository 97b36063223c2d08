import AttrBinder.Proofs.Reactive.Viewing

/-!
Batches run each affected effect once. While a batch is open, writes queue exactly the effects that a
written wire reaches, directly or through derived values, and reading in between changes nothing of
this (`Underway`): an effect that does not wait depends on derived values that are up to date, so its
links are still those with which the batch began. When the outermost batch ends, everything that waits
runs once (`flushes_drain`). What reaches an effect then is what its last run has read
(`batch_runs_affected_once`).
-/

namespace AttrBinder.Reactive

variable {V C H E : Type} [Inhabited V] [Inhabited C]

def Sight.begins (t : Tracker) (x : Sight V C E) : Bool :=
  match x.moment with
  | some (.began t') => t' = t
  | _ => false

def begun (t : Tracker) (past : List (Sight V C E)) : Nat :=
  past.countP (·.begins t)

/-- A wire has been given another value. -/
def Wrote (past : List (Sight V C E)) (k : Nat) : Prop :=
  ∃ x ∈ past, ∃ old new, x.moment = some (.wrote k old new)

def Sight.writes (k : Nat) (x : Sight V C E) : Bool :=
  match x.moment with
  | some (.wrote k' _ _) => k' = k
  | _ => false

instance (past : List (Sight V C E)) (k : Nat) : Decidable (Wrote past k) :=
  decidable_of_iff (past.any (·.writes k) = true) <| by
    simp only [List.any_eq_true, Wrote, Sight.writes]
    refine exists_congr fun x => and_congr_right fun _ => ?_
    split
    · rename_i k' old new same
      simp [same]
    · rename_i other
      exact ⟨nofun, fun ⟨old, new, same⟩ => absurd same (other k old new)⟩

omit [Inhabited V] [Inhabited C] in
theorem begun_eq_zero {t : Tracker} {past : List (Sight V C E)}
    (never : ∀ x ∈ past, x.moment ≠ some (.began t)) : begun t past = 0 := by
  refine List.countP_eq_zero.mpr fun x mem begins => ?_
  unfold Sight.begins at begins
  split at begins
  · rename_i t' same
    exact never x mem (of_decide_eq_true begins ▸ same)
  · cases begins

omit [Inhabited V] [Inhabited C] in
theorem begun_of_mild {past : List (Sight V C E)} (mild : ∀ x ∈ past, x.Mild) (i : Nat) :
    begun (.effect i) past = 0 :=
  begun_eq_zero fun x mem => (mild x mem).2 i

/-- Wire `k` reaches a tracker, at once or through derived values. -/
inductive Graph.Reaches (g : Graph V C) (k : Nat) : Tracker → Prop
  | wire {t : Tracker} : .wire k ∈ g.dependencies t → Reaches g k t
  | derived {t : Tracker} {d : Nat} : .derived d ∈ g.dependencies t → Reaches g k (.derived d) →
      Reaches g k t

variable {Γ : Setting V C H E} {Ok : H → Prop} {w w' w'' : World V C (Recorded V C H E)}

theorem Poised.reaches_iff (h : Poised Γ Ok none w) {g : Graph V C}
    (clean : ∀ d, (w.graph.derived d).dirty = false →
      g.dependencies (.derived d) = w.graph.dependencies (.derived d))
    {t : Tracker} (unmarked : ¬ w.graph.Marked t)
    (links : g.dependencies t = w.graph.dependencies t)
    {k : Nat} : g.Reaches k t ↔ w.graph.Reaches k t := by
  have below {t : Tracker} (unmarked : ¬ w.graph.Marked t) (d : Nat)
      (dep : .derived d ∈ w.graph.dependencies t) : (w.graph.derived d).dirty = false :=
    h.closed t (.inr unmarked) nofun d dep
  constructor
  · intro reaches
    induction reaches with
    | wire dep => exact .wire (links ▸ dep)
    | @derived t d dep _ ih =>
      rw [links] at dep
      have up_to_date := below unmarked d dep
      exact .derived dep (ih (by simp [Graph.Marked, up_to_date]) (clean d up_to_date))
  · intro reaches
    induction reaches with
    | wire dep => exact .wire (links ▸ dep)
    | @derived t d dep _ ih =>
      have up_to_date := below unmarked d dep
      exact .derived (links ▸ dep) (ih (by simp [Graph.Marked, up_to_date]) (clean d up_to_date))

/-! ## Telling subscribers -/

/-- Subscribers have been told of a change: nothing was written, no effect has begun, and what is
marked anew belongs to what the change reaches. -/
structure Tells (Ok : H → Prop) (reached : Tracker → Prop)
    (w w' : World V C (Recorded V C H E)) : Prop where
  host : Ok w.host.host → Ok w'.host.host
  past : Adds w.host.past w'.host.past
  nodup : w.graph.queue.Nodup → w'.graph.queue.Nodup
  depth : w'.graph.depth = w.graph.depth
  subscribers : ∀ s, w'.graph.subscribers s = w.graph.subscribers s
  marked : ∀ t, w'.graph.Marked t → w.graph.Marked t ∨ reached t

namespace Tells

variable {reached : Tracker → Prop}

theorem trans (a : Tells Ok reached w w') (b : Tells Ok reached w' w'') :
    Tells Ok reached w w'' where
  host h := b.host (a.host h)
  past := a.past.trans b.past
  nodup h := b.nodup (a.nodup h)
  depth := b.depth.trans a.depth
  subscribers s := (b.subscribers s).trans (a.subscribers s)
  marked t ht := (b.marked t ht).elim (a.marked t) .inr

theorem update {f : Graph V C → Graph V C} (queue : (f w.graph).queue = w.graph.queue)
    (depth : (f w.graph).depth = w.graph.depth)
    (subscribers : ∀ s, (f w.graph).subscribers s = w.graph.subscribers s)
    (marked : ∀ t, (f w.graph).Marked t → w.graph.Marked t ∨ reached t) :
    Tells Ok reached w (w.update f) :=
  ⟨id, .refl _, fun h => by rw [World.update, queue]; exact h, depth, subscribers, marked⟩

theorem refl (w : World V C (Recorded V C H E)) : Tells Ok reached w w :=
  update (f := id) rfl rfl (fun _ => rfl) fun _ => .inl

end Tells

theorem Graph.nodup_adjoin {α : Type} [DecidableEq α] (a : α) {xs : List α} (h : xs.Nodup) :
    (Graph.adjoin a xs).Nodup := by
  unfold Graph.adjoin
  split
  · exact h
  · rename_i new
    exact List.nodup_append.mpr ⟨h, List.nodup_singleton a, fun b mem c hc same =>
      new (List.mem_singleton.mp hc ▸ same ▸ mem)⟩

theorem telling_tells (arrange : ∀ n ts, Γ.arrange n ts ⊆ ts)
    (notice : ∀ m g h, Ok h → Ok (Γ.notice m g h)) (reached : Tracker → Prop) :
    Telling Γ.recorded reached (Tells Ok reached) where
  arrange _ _ all t mem := all t (arrange _ _ mem)
  refl := .refl
  trans := .trans
  depth h := h.depth
  delivers h all d hd t mem := all d hd t (h.subscribers _ ▸ mem)
  tick _ := .update rfl rfl (fun s => by cases s <;> rfl) fun t ht => .inl (by cases t <;> exact ht)
  invalidate {w d} hd _ := by
    refine .update rfl rfl (Graph.sameLinks_invalidate w.graph d).subscribers fun t ht => ?_
    cases t with
    | effect i => exact .inl ht
    | derived j =>
      by_cases same : d = j
      · exact .inr (same ▸ hd)
      · simp only [Graph.Marked, Graph.invalidate, Graph.derived_modifyDerived, same, false_and,
          if_false] at ht
        exact .inl ht
  requestRun {w i} hi _ := by
    refine .update rfl rfl (Graph.sameLinks_modifyEffect w.graph i fun _ => rfl).subscribers
      fun t ht => ?_
    cases t with
    | derived d => exact .inl ht
    | effect j =>
      by_cases same : i = j
      · exact .inr (same ▸ hi)
      · simp only [Graph.Marked, Graph.Pending, Graph.requestRun, Graph.effect_modifyEffect, same,
          false_and, if_false] at ht
        exact .inl ht
  enqueue {w i} hi _ := by
    refine ⟨notice _ _ _, adds_tell Γ (.queued i) (by simp) (by simp) _, Graph.nodup_adjoin i, rfl,
      fun s => by cases s <;> rfl, fun t ht => ?_⟩
    cases t with
    | derived d => exact .inl ht
    | effect j =>
      rcases ht with gone | queued | rerun
      · exact .inl (.inl gone)
      · refine (Graph.mem_adjoin.mp queued).elim (fun same => .inr (same ▸ hi)) fun before => ?_
        exact .inl (.inr (.inl before))
      · exact .inl (.inr (.inr rerun))

/-! ## While a batch is open -/

/-- A poised world in which nothing runs. -/
structure Rested (Γ : Setting V C H E) (Ok : H → Prop) (w : World V C (Recorded V C H E)) :
    Prop where
  poised : Poised Γ Ok none w
  stack : w.graph.stack = []
  running : ∀ i, (w.graph.effect i).running = false
  nodup : w.graph.queue.Nodup

theorem Rested.of_same (h : Rested Γ Ok w) (poised : Poised Γ Ok none w')
    (same : w.graph.SameActivity w'.graph) (nodup : w'.graph.queue.Nodup) : Rested Γ Ok w' :=
  ⟨poised, same.stack.trans h.stack, fun i => (same.running i).trans (h.running i), nodup⟩

/-- Since `w₀`, sights `new` have been added to the record. An effect that does not wait is reached as
before, and not by a wire that was written; one that waits and did not then is reached by one. -/
structure Underway (Γ : Setting V C H E) (Ok : H → Prop) (w₀ : World V C (Recorded V C H E))
    (new : List (Sight V C E)) (w : World V C (Recorded V C H E)) : Prop
    extends Rested Γ Ok w where
  record : w.host.past = new ++ w₀.host.past
  unbegun : ∀ x ∈ new, ∀ i, x.moment ≠ some (.began (.effect i))
  spared : ∀ i, ¬ w.graph.Marked (.effect i) → ∀ k,
    (w.graph.Reaches k (.effect i) ↔ w₀.graph.Reaches k (.effect i)) ∧
      (w₀.graph.Reaches k (.effect i) → ¬ Wrote new k)
  affected : ∀ i ∈ w.graph.queue, (w.graph.effect i).disposed = false →
    i ∈ w₀.graph.queue ∨ ∃ k, w₀.graph.Reaches k (.effect i) ∧ Wrote new k

theorem Rested.underway (h : Rested Γ Ok w) : Underway Γ Ok w [] w where
  toRested := h
  record := rfl
  unbegun _ mem := nomatch mem
  spared _ _ _ := ⟨Iff.rfl, fun _ ⟨_, mem, _⟩ => nomatch mem⟩
  affected _ mem _ := .inl mem

/-- A change that touches neither what is up to date nor effects that do not wait, and by which none
comes to wait. -/
structure Proceeds (w w' : World V C (Recorded V C H E)) : Prop where
  past : Adds w.host.past w'.host.past
  clean : ∀ d, (w.graph.derived d).dirty = false →
    w'.graph.dependencies (.derived d) = w.graph.dependencies (.derived d)
  spared : ∀ i, ¬ w'.graph.Marked (.effect i) → ¬ w.graph.Marked (.effect i) ∧
    w'.graph.dependencies (.effect i) = w.graph.dependencies (.effect i)
  queue : ∀ i ∈ w'.graph.queue, (w'.graph.effect i).disposed = false →
    i ∈ w.graph.queue ∧ (w.graph.effect i).disposed = false

omit [Inhabited V] [Inhabited C] in
theorem Wrote.append {past : List (Sight V C E)} {k : Nat} (new : List (Sight V C E))
    (h : Wrote past k) : Wrote (new ++ past) k := by
  obtain ⟨x, mem, hx⟩ := h
  exact ⟨x, List.mem_append_right _ mem, hx⟩

omit [Inhabited V] [Inhabited C] in
theorem Wrote.of_mild {new past : List (Sight V C E)} {k : Nat} (mild : ∀ x ∈ new, x.Mild)
    (h : Wrote (new ++ past) k) : Wrote past k := by
  obtain ⟨x, mem, old, v, hx⟩ := h
  refine ⟨x, (List.mem_append.mp mem).resolve_left fun here => ?_, old, v, hx⟩
  exact (mild x here).1 k old v hx

theorem Underway.proceed {w₀ : World V C (Recorded V C H E)} {new : List (Sight V C E)}
    (h : Underway Γ Ok w₀ new w) (change : Proceeds w w') (rested : Rested Γ Ok w') :
    ∃ new', Underway Γ Ok w₀ new' w' := by
  obtain ⟨more, past, mild⟩ := change.past
  refine ⟨more ++ new, rested, ?_, ?_, ?_, ?_⟩
  · rw [past, h.record, List.append_assoc]
  · exact fun x mem => (List.mem_append.mp mem).elim (fun here => (mild x here).2) (h.unbegun x)
  · intro i unmarked k
    obtain ⟨before, links⟩ := change.spared i unmarked
    obtain ⟨same, untouched⟩ := h.spared i before k
    exact ⟨(h.poised.reaches_iff change.clean before links).trans same,
      fun reaches wrote => untouched reaches (wrote.of_mild mild)⟩
  · intro i mem live
    obtain ⟨before, live⟩ := change.queue i mem live
    refine (h.affected i before live).imp_right fun ⟨k, reaches, wrote⟩ => ?_
    exact ⟨k, reaches, wrote.append more⟩

theorem Seen.proceeds (h : Rested Γ Ok w) (seen : Seen Γ Ok w w') : Proceeds w w' where
  past := seen.past
  clean d clean := (seen.upholds d clean).2
  spared i unmarked := by
    obtain ⟨ss, he, idle⟩ := seen.graph.effect i
    refine ⟨mt (seen.graph.marked i).mpr unmarked, ?_⟩
    rw [Graph.dependencies, he]
    exact idle (by rw [h.stack]; exact List.not_mem_nil)
  queue i mem live := by
    obtain ⟨ss, he, -⟩ := seen.graph.effect i
    rw [he] at live
    exact ⟨seen.graph.queue ▸ mem, live⟩

theorem Rested.update {f : Graph V C → Graph V C} (h : Rested Γ Ok w)
    (tracked : Tracked (w.update f)) (deriveds : (f w.graph).deriveds = w.graph.deriveds)
    (effects : (f w.graph).effects = w.graph.effects) (stack : (f w.graph).stack = w.graph.stack)
    (queue : (f w.graph).queue = w.graph.queue) :
    Proceeds w (w.update f) ∧ Rested Γ Ok (w.update f) := by
  have effect (i : Nat) : (f w.graph).effect i = w.graph.effect i := by
    simp only [Graph.effect, effects]
  refine ⟨⟨.refl _, fun d _ => ?_, fun i unmarked => ⟨?_, ?_⟩,
      fun i mem live => ⟨queue ▸ mem, effect i ▸ live⟩⟩,
    h.poised.of_grounded (h.poised.toGrounded.of_eq tracked deriveds effects stack queue) h.poised.host
      ⟨congrArg Array.size effects, fun i => by rw [World.update, effect], congrArg Array.size deriveds,
        fun d => by simp only [World.update, Graph.derived, deriveds]⟩, stack.trans h.stack,
    fun i => by rw [World.update, effect]; exact h.running i, by
      rw [World.update, queue]; exact h.nodup⟩
  · simp only [World.update, Graph.dependencies, Graph.derived, deriveds]
  · simpa only [World.update, Graph.Marked, Graph.Pending, effect, queue] using unmarked
  · simp only [World.update, Graph.dependencies, effect]

theorem Rested.enter (h : Rested Γ Ok w) :
    Proceeds w (w.update Graph.enter) ∧ Rested Γ Ok (w.update Graph.enter) :=
  h.update (f := Graph.enter) (h.poised.tracked.progress rfl rfl rfl rfl) rfl rfl rfl rfl

theorem Rested.depart (h : Rested Γ Ok w) :
    Proceeds w (w.update Graph.depart) ∧ Rested Γ Ok (w.update Graph.depart) :=
  h.update (f := Graph.depart) (h.poised.tracked.progress rfl rfl rfl rfl) rfl rfl rfl rfl

def World.opened (Γ : Setting V C H E) (k : Nat) (old v : V)
    (w : World V C (Recorded V C H E)) : World V C (Recorded V C H E) :=
  (w.assign Γ.recorded k old v).update Graph.enter

theorem World.subscribers_opened (k : Nat) (old v : V) (w : World V C (Recorded V C H E))
    (s : Source) : (w.opened Γ k old v).graph.subscribers s = w.graph.subscribers s := by
  cases s with
  | wire j => exact (Graph.sameLinks_setValue w.graph k v).subscribers (.wire j)
  | derived d => rfl

theorem tells_write (arrange : ∀ n ts, Γ.arrange n ts ⊆ ts)
    (notice : ∀ m g h, Ok h → Ok (Γ.notice m g h)) (tracked : Tracked w) (n : Nat) {k : Nat}
    (old v : V) (deep : 0 < (w.opened Γ k old v).graph.depth) :
    Run.Yields (Run.tell Γ.recorded (Run.perform Γ.recorded n) (.wire k))
      (w.opened Γ k old v) fun _ => Tells Ok (w.graph.Reaches k) (w.opened Γ k old v) := by
  refine ((telling_tells arrange notice (w.graph.Reaches k)).tell_perform n (fun t mem => ?_) deep
    fun d reaches t mem => ?_).yields
  · rw [World.subscribers_opened] at mem
    exact .wire ((tracked.converse _ t).mpr mem)
  · rw [World.subscribers_opened] at mem
    exact .derived ((tracked.converse _ t).mpr mem) reaches

theorem Poised.caught [Preorder H] {k : Nat} {old v : V} (h : Poised Γ Ok none w)
    (spread : Spreads (w.opened Γ k old v) w')
    (told : ∀ t ∈ (w.opened Γ k old v).graph.subscribers (.wire k), w'.graph.Marked t)
    {t : Tracker} (reaches : w.graph.Reaches k t) (unmarked : ¬ w.graph.Marked t) :
    w'.graph.Marked t := by
  have subscribed {s : Source} {t : Tracker} (dep : s ∈ w.graph.dependencies t) :
      t ∈ (w.opened Γ k old v).graph.subscribers s := by
    rw [World.subscribers_opened]
    exact (h.tracked.converse s t).mp dep
  induction reaches with
  | wire dep => exact told _ (subscribed dep)
  | @derived t d dep _ ih =>
    have clean := h.closed t (.inr unmarked) nofun d dep
    exact spread.closed d clean (ih (by simp [Graph.Marked, clean])) t (subscribed dep)

theorem Grounded.told [Preorder H] {exempt : Tracker → Prop} {k : Nat} {old v : V}
    (h : Grounded exempt w)
    (spread : Spreads (w.opened Γ k old v) w') (tracked : Tracked w')
    (idle : ∀ t, ¬ exempt t → t ∉ w'.graph.stack) : Grounded exempt w' := by
  have links (t : Tracker) : w'.graph.dependencies t = w.graph.dependencies t :=
    (spread.dependencies t).trans (by cases t <;> rfl)
  refine ⟨tracked, fun d computing => ?_, fun t fresh other d dep => ?_⟩
  · obtain ⟨b, hd, kept⟩ := spread.derived d
    rw [hd] at computing ⊢
    exact kept (h.busy d computing)
  · have unmarked : ¬ w'.graph.Marked t := fresh.resolve_left (idle t other)
    have before : ¬ w.graph.Marked t := fun marked =>
      unmarked (spread.marked (by cases t <;> exact marked))
    rw [links] at dep
    have clean := h.closed t (.inr before) other d dep
    refine Bool.eq_false_iff.mpr fun dirty => unmarked (spread.closed d clean dirty t ?_)
    rw [World.subscribers_opened]
    exact (h.tracked.converse _ t).mp dep

theorem World.sameCode_opened (k : Nat) (old v : V) (w : World V C (Recorded V C H E)) :
    w.graph.SameCode (w.opened Γ k old v).graph :=
  ⟨rfl, fun _ => rfl, rfl, fun _ => rfl⟩

theorem Spreads.sameCode [Preorder H] (spread : Spreads w w') : w.graph.SameCode w'.graph := by
  refine ⟨spread.effects, fun i => ?_, spread.deriveds, fun d => ?_⟩
  · obtain ⟨b, he, -⟩ := spread.effect i
    rw [he]
  · obtain ⟨b, hd, -⟩ := spread.derived d
    rw [hd]

theorem Underway.told [Preorder H] {w₀ : World V C (Recorded V C H E)}
    {new : List (Sight V C E)} {k : Nat} {old v : V} (h : Underway Γ Ok w₀ new w)
    (spread : Spreads (w.opened Γ k old v) w')
    (told : ∀ t ∈ (w.opened Γ k old v).graph.subscribers (.wire k), w'.graph.Marked t)
    (tells : Tells Ok (w.graph.Reaches k) (w.opened Γ k old v) w')
    (host : Ok (w.opened Γ k old v).host.host) (tracked : Tracked w')
    (same : (w.opened Γ k old v).graph.SameActivity w'.graph) :
    ∃ new', Underway Γ Ok w₀ new' w' := by
  have links (t : Tracker) : w'.graph.dependencies t = w.graph.dependencies t :=
    (spread.dependencies t).trans (by cases t <;> rfl)
  have poised : Poised Γ Ok none w' := h.poised.of_grounded (h.poised.toGrounded.told spread tracked
    fun t _ on => nomatch (same.stack.trans h.stack) ▸ on) (tells.host host)
      ((World.sameCode_opened k old v w).trans spread.sameCode)
  have before {i : Nat} (marked : w.graph.Marked (.effect i)) : w'.graph.Marked (.effect i) :=
    spread.marked marked
  obtain ⟨more, past, mild⟩ := tells.past
  let change : Sight V C E := ⟨some (.wrote k old v), w.graph.setValue k v⟩
  have wrote : Wrote (more ++ change :: new) k :=
    .append more ⟨change, List.mem_cons_self, old, v, rfl⟩
  refine ⟨more ++ change :: new, ⟨poised, same.stack.trans h.stack,
    fun i => (same.running i).trans (h.running i), tells.nodup h.nodup⟩, ?_, ?_, ?_, ?_⟩
  · rw [past]
    change more ++ change :: w.host.past = _
    rw [h.record, List.append_assoc, List.cons_append]
  · intro x mem i
    rcases List.mem_append.mp mem with later | now
    · exact (mild x later).2 i
    · rcases List.mem_cons.mp now with rfl | earlier
      · exact fun other => nomatch other
      · exact h.unbegun x earlier i
  · intro i unmarked k'
    have unmarked₀ : ¬ w.graph.Marked (.effect i) := fun marked => unmarked (before marked)
    obtain ⟨iff, untouched⟩ := h.spared i unmarked₀ k'
    refine ⟨(h.poised.reaches_iff (fun d _ => links _) unmarked₀ (links _)).trans iff,
      fun reaches touched => ?_⟩
    obtain ⟨x, mem, old', v', hx⟩ := touched.of_mild mild
    rcases List.mem_cons.mp mem with rfl | earlier
    · cases hx
      exact unmarked (h.poised.caught spread told (iff.mpr reaches) unmarked₀)
    · exact untouched reaches ⟨x, earlier, old', v', hx⟩
  · intro i mem live
    obtain ⟨b, he, -⟩ := spread.effect i
    rw [he] at live
    have live₀ : (w.graph.effect i).disposed = false := live
    by_cases marked : w.graph.Marked (.effect i)
    · rcases marked with gone | queued | ⟨running, -⟩
      · exact nomatch gone.symm.trans live₀
      · refine (h.affected i queued live₀).imp_right fun ⟨k', reaches, wrote'⟩ => ?_
        exact ⟨k', reaches, .append more (.append [change] wrote')⟩
      · exact nomatch running.symm.trans (h.running i)
    · have reaches := (tells.marked (.effect i) (.inr (.inl mem))).resolve_left marked
      exact .inr ⟨k, (h.spared i marked k).1.mp reaches, wrote⟩

/-! ## When the outermost batch ends -/

/-- A sight at which no wire is written, and effects begin only outside of batches. -/
def Sight.Late (x : Sight V C E) : Prop :=
  (∀ k old new, x.moment ≠ some (.wrote k old new)) ∧
    ∀ i, x.moment = some (.began (.effect i)) → x.graph.depth = 0

omit [Inhabited V] [Inhabited C] in
theorem Sight.Mild.late {x : Sight V C E} (h : x.Mild) : x.Late :=
  ⟨h.1, fun i same => absurd same (h.2 i)⟩

omit [Inhabited V] [Inhabited C] in
theorem late_ended (t : Tracker) (failure : Option E) (g : Graph V C) :
    Sight.Late ⟨some (.ended t failure), g⟩ :=
  ⟨nofun, nofun⟩

omit [Inhabited V] [Inhabited C] in
theorem late_began (t : Tracker) {g : Graph V C} (flat : g.depth = 0) :
    Sight.Late (E := E) ⟨some (.began t), g⟩ :=
  ⟨nofun, fun _ _ => flat⟩

def Graph.due (g : Graph V C) (waiting : List Nat) (j : Nat) : Nat :=
  if j ∈ waiting ∧ (g.effect j).disposed = false then 1 else 0

/-- Effects have run, as often as `count` says. -/
structure Flushes (Γ : Setting V C H E) (Ok : H → Prop) (count : Nat → Nat)
    (w w' : World V C (Recorded V C H E)) : Prop where
  rested : Rested Γ Ok w'
  depth : w'.graph.depth = w.graph.depth
  disposed : ∀ j, (w'.graph.effect j).disposed = (w.graph.effect j).disposed
  past : ∃ new, w'.host.past = new ++ w.host.past ∧ (∀ x ∈ new, x.Late) ∧
    ∀ j, begun (.effect j) new = count j

theorem Flushes.trans {count count' : Nat → Nat} (a : Flushes Γ Ok count w w')
    (b : Flushes Γ Ok count' w' w'') :
    Flushes Γ Ok (fun j => count' j + count j) w w'' := by
  obtain ⟨new, past, late, counted⟩ := a.past
  obtain ⟨new', past', late', counted'⟩ := b.past
  refine ⟨b.rested, b.depth.trans a.depth, fun j => (b.disposed j).trans (a.disposed j),
    new' ++ new, by rw [past', past, List.append_assoc], fun x mem => ?_, fun j => ?_⟩
  · exact (List.mem_append.mp mem).elim (late' x) (late x)
  · rw [begun, List.countP_append]
    exact congrArg₂ _ (counted' j) (counted j)

theorem Flushes.after {count : Nat → Nat} (b : Flushes Γ Ok count w' w'')
    (past : Adds w.host.past w'.host.past) (depth : w'.graph.depth = w.graph.depth)
    (disposed : ∀ j, (w'.graph.effect j).disposed = (w.graph.effect j).disposed) :
    Flushes Γ Ok count w w'' := by
  obtain ⟨more, past, mild⟩ := past
  obtain ⟨new, past', late, counted⟩ := b.past
  refine ⟨b.rested, b.depth.trans depth, fun j => (b.disposed j).trans (disposed j), new ++ more,
    by rw [past', past, List.append_assoc], fun x mem => ?_, fun j => ?_⟩
  · exact (List.mem_append.mp mem).elim (late x) fun here => (mild x here).late
  · rw [begun, List.countP_append]
    exact congrArg₂ _ (counted j) (begun_of_mild mild j)

theorem Flushes.subset {count : Nat → Nat} (h : Flushes Γ Ok count w w') :
    w.host.past ⊆ w'.host.past := by
  obtain ⟨new, past, -⟩ := h.past
  rw [past]
  exact List.subset_append_right _ _

theorem Rested.flushes (h : Rested Γ Ok w) : Flushes Γ Ok (fun _ => 0) w w :=
  ⟨h, rfl, fun _ => rfl, [], rfl, fun _ mem => (nomatch mem), fun _ => rfl⟩

theorem Seen.effect_begin {t : Tracker} (seen : Seen Γ Ok (w.begin Γ.recorded t) w')
    (j : Nat) : ∃ ss, w'.graph.effect j = { w.graph.effect j with dependencies := ss } := by
  obtain ⟨ss, he, -⟩ := seen.graph.effect j
  obtain ⟨ss', he'⟩ := (Graph.relinks_forget w.graph t).effect j
  have same : (w.begin Γ.recorded t).graph.effect j =
      { w.graph.effect j with dependencies := ss' } := he'
  exact ⟨ss, by rw [he, same]⟩

theorem World.outer_begin (Γ : Setting V C H E) (t : Tracker)
    (w : World V C (Recorded V C H E)) :
    (w.begin Γ.recorded t).graph.depth = w.graph.depth ∧
      (w.begin Γ.recorded t).graph.queue = w.graph.queue := by
  have relinks := Graph.relinks_forget w.graph t
  rw [World.graph_begin, Graph.push]
  exact ⟨relinks.depth, relinks.queue⟩

omit [Inhabited V] in
theorem World.effect_started {i : Nat} (present : i < w.graph.effects.size) (j : Nat) :
    (w.started i).graph.effect j = if i = j then { w.graph.effect j with
      running := true, rerun := false, runs := (w.graph.effect j).runs + 1 } else w.graph.effect j := by
  have size : (w.graph.setRunning i true).effects.size = w.graph.effects.size := Array.size_modify
  change ((w.graph.setRunning i true).countRun i).effect j = _
  rw [Graph.countRun, Graph.effect_modifyEffect, size, Graph.setRunning, Graph.effect_modifyEffect]
  by_cases same : i = j
  · subst same
    simp [present]
  · simp [same]

theorem Graph.marked_of_effect (f g : Graph V C) {j : Nat} (effect : g.effect j = f.effect j)
    (queue : j ∈ g.queue ↔ j ∈ f.queue) : g.Marked (.effect j) ↔ f.Marked (.effect j) := by
  simp only [Marked, Pending, effect, queue]

theorem Poised.start {i : Nat} (h : Poised Γ Ok (some (.effect i)) w)
    (off : .effect i ∉ w.graph.stack) (live : (w.graph.effect i).disposed = false) :
    Poised Γ Ok (some (.effect i)) (w.started i) := by
  have started := World.effect_started (Graph.effect_lt_of_not_disposed live)
  refine h.of_grounded (h.toGrounded.next ((h.tracked.setRunning i true off).countRun i) h.busy
    (fun _ clean => clean) fun t fresh other d dep => ?_) h.host
    ⟨Array.size_modify.trans Array.size_modify, fun j => ?_, rfl, fun _ => rfl⟩
  · cases t with
    | derived j => exact .inr ⟨fresh, other, dep⟩
    | effect j =>
      have same := (started j).trans (if_neg fun eq => other (by rw [eq]))
      refine .inr ⟨fresh.imp_right (mt (Graph.marked_of_effect w.graph _ same Iff.rfl).mpr), other, ?_⟩
      rwa [Graph.dependencies, same] at dep
  · rw [started]
    split <;> rfl

omit [Inhabited V] in
theorem Graph.running_stop (g : Graph V C) (i j : Nat) :
    ((g.setRunning i false).effect j).running = (decide (i ≠ j) && (g.effect j).running) := by
  rw [setRunning, effect_modifyEffect]
  by_cases same : i = j
  · subst same
    by_cases there : i < g.effects.size
    · simp [there]
    · simp [there, effect_of_size_le (Nat.le_of_not_lt there)]
      rfl
  · simp [same]

section Effect

variable {i : Nat} (finite : Γ.Finite Ok) (failure : Option E)
variable (live : (w.graph.effect i).disposed = false) (idle : w.graph.stack = [])
variable (seen : Seen Γ Ok ((w.started i).begin Γ.recorded (.effect i)) w')
variable (stack : w'.graph.stack = .effect i :: w.graph.stack)

include finite seen stack idle in
theorem Seen.poised_stopped : Poised Γ Ok none (w'.stopped Γ i failure) := by
  have popped : w'.graph.pop.stack = [] := by rw [Graph.pop, stack, idle]; rfl
  have off : .effect i ∉ w'.graph.pop.stack := by rw [popped]; exact List.not_mem_nil
  refine seen.poised.of_grounded (seen.poised.toGrounded.leave (t := .effect i)
    ((seen.poised.tracked.finish Γ stack failure).setRunning i false off)
    seen.poised.busy (fun _ clean => clean) (stack.trans (by rw [idle]; exact congrArg _ popped.symm))
    (Graph.sameLinks_modifyEffect w'.graph.pop i (f := ({ · with running := false }))
      fun _ => rfl).dependencies fun t apart marked => ?_) (finite.notice _ _ _ seen.poised.host)
    ⟨Array.size_modify, Graph.effect_modifyEffect_of Effect.body
      (f := ({ · with running := false })) (fun _ => rfl) w'.graph.pop i, rfl, fun _ => rfl⟩
  cases t with
  | derived d => exact marked
  | effect j =>
    have same : (w'.stopped Γ i failure).graph.effect j = w'.graph.effect j :=
      (Graph.effect_modifyEffect w'.graph.pop i j _).trans
        (if_neg fun eq => apart (congrArg Tracker.effect eq.1.symm))
    exact (Graph.marked_of_effect w'.graph _ same Iff.rfl).mpr marked

include live seen in
theorem Seen.running_stopped (running : ∀ j, (w.graph.effect j).running = false) (j : Nat) :
    ((w'.stopped Γ i failure).graph.effect j).running = false := by
  refine (Graph.running_stop w'.graph.pop i j).trans ?_
  by_cases same : i = j
  · simp [same]
  · obtain ⟨ss, he⟩ := seen.effect_begin j
    change (_ && (w'.graph.effect j).running) = false
    rw [he, World.effect_started (Graph.effect_lt_of_not_disposed live), if_neg same]
    simp [running j]

include live seen in
theorem Seen.disposed_stopped (j : Nat) :
    ((w'.stopped Γ i failure).graph.effect j).disposed = (w.graph.effect j).disposed := by
  refine (Graph.effect_modifyEffect_of Effect.disposed (f := ({ · with running := false }))
    (fun _ => rfl) w'.graph.pop i j).trans ?_
  obtain ⟨ss, he⟩ := seen.effect_begin j
  change (w'.graph.effect j).disposed = _
  rw [he, World.effect_started (Graph.effect_lt_of_not_disposed live)]
  split <;> rfl

include finite live idle seen stack in
theorem Seen.flushes (running : ∀ j, (w.graph.effect j).running = false)
    (nodup : w.graph.queue.Nodup) (flat : w.graph.depth = 0) :
    Flushes Γ Ok (fun j => if i = j then 1 else 0) w (w'.stopped Γ i failure) ∧
      (w'.stopped Γ i failure).graph.queue = w.graph.queue := by
  obtain ⟨depth, queue⟩ := World.outer_begin Γ (.effect i) (w.started i)
  have outer : (w.started i).graph.depth = w.graph.depth ∧
      (w.started i).graph.queue = w.graph.queue := ⟨rfl, rfl⟩
  rw [outer.1] at depth
  rw [outer.2, ← seen.graph.queue] at queue
  have rested : Rested Γ Ok (w'.stopped Γ i failure) := by
    refine ⟨seen.poised_stopped finite failure idle stack, (congrArg List.tail stack).trans idle,
      seen.running_stopped failure live running, ?_⟩
    exact (congrArg List.Nodup queue).mpr nodup
  obtain ⟨more, past, mild⟩ := seen.past
  let first : Sight V C E :=
    ⟨some (.began (.effect i)), ((w.started i).begin Γ.recorded (.effect i)).graph⟩
  let last : Sight V C E := ⟨some (.ended (.effect i) failure), w'.graph.pop⟩
  have record : (w'.stopped Γ i failure).host.past = last :: w'.host.past := rfl
  have record' : ((w.started i).begin Γ.recorded (.effect i)).host.past =
    first :: w.host.past := rfl
  refine ⟨⟨rested, (seen.graph.depth.trans depth :), seen.disposed_stopped failure live,
    last :: (more ++ [first]), ?_, ?_, fun j => ?_⟩, queue⟩
  · rw [record, past, record', List.cons_append, List.append_assoc, List.singleton_append]
  · rw [List.forall_mem_cons, List.forall_mem_append, List.forall_mem_singleton]
    exact ⟨late_ended _ _ _, fun x mem => (mild x mem).late, late_began _ (depth.trans flat)⟩
  · rw [begun, List.countP_cons, List.countP_append, ← begun, begun_of_mild mild]
    have here : first.begins (.effect j) = decide (i = j) := by
      simp [first, Sight.begins]
    have there : last.begins (.effect j) = false := rfl
    simp [here, there]

end Effect

namespace Run

variable (finite : Γ.Finite Ok) {n i : Nat}

include finite

theorem flushes_runEffect (h : Poised Γ Ok (some (.effect i)) w) (idle : w.graph.stack = [])
    (running : ∀ j, (w.graph.effect j).running = false) (nodup : w.graph.queue.Nodup)
    (flat : w.graph.depth = 0) (live : (w.graph.effect i).disposed = false) :
    Ends (fun w w' => Flushes Γ Ok (fun j => if i = j then 1 else 0) w w' ∧
      w'.graph.queue = w.graph.queue) (runEffect Γ.recorded (perform Γ.recorded n) i) w := by
  have off : .effect i ∉ w.graph.stack := by rw [idle]; exact List.not_mem_nil
  have present := Graph.effect_lt_of_not_disposed live
  have started := World.effect_started present
  have starts : (w.started i).graph.Starts (.effect i) := by
    rw [Graph.Starts, started, if_pos rfl]
    exact ⟨rfl, live⟩
  have poised := h.start off live
  have code := World.sameCode_begin Γ.recorded (.effect i) (w.started i)
  have begins : Poised Γ Ok none ((w.started i).begin Γ.recorded (.effect i)) :=
    poised.of_grounded (poised.toGrounded.begin off starts fun t same => .inr (Option.some.inj same).symm)
      (finite.notice _ _ _ poised.host) code
  have size : (w.started i).graph.effects.size = w.graph.effects.size :=
    Array.size_modify.trans Array.size_modify
  have there : (w.started i).graph.HasTracker (.effect i) := Nat.lt_of_lt_of_eq present size.symm
  intro w' ended
  obtain ⟨w1, gazes, -, stack, rfl⟩ := gazes_runEffect finite.modest present
    (begins.code _ (code.hasTracker.mpr there)).modest begins.beholds ended
  exact (begins.gaze finite gazes).flushes finite _ live idle stack running nodup flat

omit [Inhabited V] finite in
theorem due_cons {g : Graph V C} {rest : List Nat} (apart : i ∉ rest) (j : Nat) :
    g.due rest j + g.due [i] j = g.due (i :: rest) j := by
  by_cases same : j = i
  · subst same
    simp [Graph.due, apart]
  · simp [Graph.due, same]

theorem flushes_turn (h : Rested Γ Ok w) (flat : w.graph.depth = 0) {rest : List Nat}
    (queue : w.graph.queue = i :: rest) :
    Ends (fun _ w' => Flushes Γ Ok (w.graph.due [i]) w w' ∧ w'.graph.queue = rest)
      (perform Γ.recorded n (.execute (.effect i))) (w.unqueue Γ.recorded i) := by
  have tail : (w.unqueue Γ.recorded i).graph.queue = rest := congrArg List.tail queue
  have nodup := (List.nodup_cons.mp (queue ▸ h.nodup)).2
  have poised {exempt : Option Tracker} (fine : exempt = some (.effect i) ∨
      (w.graph.effect i).disposed = true) : Poised Γ Ok exempt (w.unqueue Γ.recorded i) := by
    refine h.poised.of_grounded (h.poised.toGrounded.next ((Step.unqueue queue).tracked h.poised.tracked)
      h.poised.busy (fun _ clean => clean) fun t fresh other d dep =>
        .inr ⟨fresh.imp_right fun unmarked => ?_, nofun, dep⟩)
      (finite.notice _ _ _ h.poised.host) ⟨rfl, fun _ => rfl, rfl, fun _ => rfl⟩
    cases t with
    | derived d => exact unmarked
    | effect j =>
      by_cases same : i = j
      · subst same
        exact absurd (.inl (fine.resolve_left other)) unmarked
      · refine mt (Graph.marked_of_effect w.graph (w.unqueue Γ.recorded i).graph rfl
          ?_).mpr unmarked
        rw [tail, queue, List.mem_cons, or_iff_right (Ne.symm same)]
  have back {count : Nat → Nat} {w' : World V C (Recorded V C H E)}
      (flushes : Flushes Γ Ok count (w.unqueue Γ.recorded i) w') :
      Flushes Γ Ok count w w' :=
    flushes.after (adds_tell Γ (.unqueued i) nofun nofun _) rfl fun _ => rfl
  cases n with
  | zero => exact ends_exhausted _
  | succ n =>
    refine Ends.still (k := Pure.pure none) ?_ fun _ => rfl
    cases live : (w.graph.effect i).disposed with
    | true =>
      have none : w.graph.due [i] = fun _ => 0 := by
        funext j
        by_cases same : j = i <;> simp [Graph.due, same, live]
      intro w' ended
      rw [executeEffect_disposed (w := w.unqueue Γ.recorded i) live] at ended
      cases ended
      rw [none]
      refine ⟨back (Rested.flushes ⟨poised (.inr live), h.stack, h.running, ?_⟩), tail⟩
      rw [tail]
      exact nodup
    | false =>
      have one : w.graph.due [i] = fun j => if i = j then 1 else 0 := by
        funext j
        by_cases same : i = j
        · subst same
          simp [Graph.due, live]
        · simp [Graph.due, same, Ne.symm same]
      intro w' ended
      have outside : ¬ 0 < (w.unqueue Γ.recorded i).graph.depth :=
        fun deep => Int.lt_irrefl 0 (flat ▸ deep)
      rw [executeEffect_now (w := w.unqueue Γ.recorded i) live (h.running i) outside] at ended
      obtain ⟨ran, kept⟩ := flushes_runEffect finite (poised (.inl rfl)) h.stack h.running
        (by rw [tail]; exact nodup) flat live w' ended
      rw [one]
      exact ⟨back ran, kept.trans tail⟩

theorem flushes_drain (fuel : Nat) (failure : Option E) (h : Rested Γ Ok w)
    (flat : w.graph.depth = 0) :
    Ends (fun w w' => ∃ count, Flushes Γ Ok count w w' ∧ (Γ.Holds w'.host.past →
      count = w.graph.due w.graph.queue ∧ w'.graph.queue = []))
      (drain Γ.recorded (perform Γ.recorded n) fuel failure) w := by
  induction fuel generalizing failure w with
  | zero => exact ends_exhausted w
  | succ fuel ih =>
    intro w' ended
    cases queue : w.graph.queue with
    | nil =>
      rw [drain_nil fuel failure queue] at ended
      have same : w = w' := by cases failure <;> exact Option.some.inj ended
      subst same
      have none : w.graph.due [] = fun _ => 0 := by
        funext j
        simp [Graph.due]
      exact ⟨_, h.flushes, fun _ => ⟨none.symm, queue⟩⟩
    | cons i rest =>
      have apart : i ∉ rest := (List.nodup_cons.mp (queue ▸ h.nodup)).1
      have turns := flushes_turn finite (n := n) h flat queue
      have later {w1 : World V C (Recorded V C H E)} (turn : Flushes Γ Ok (w.graph.due [i]) w w1)
          (kept : w1.graph.queue = rest) (failure : Option E)
          (ended : (drain Γ.recorded (perform Γ.recorded n) fuel failure w1).ended? = some w') :
          ∃ count, Flushes Γ Ok count w w' ∧ (Γ.Holds w'.host.past →
            count = w.graph.due (i :: rest) ∧ w'.graph.queue = []) := by
        obtain ⟨count, flushed, whole⟩ := ih failure turn.rested (turn.depth.trans flat) w' ended
        refine ⟨_, turn.trans flushed, fun held => ⟨?_, (whole held).2⟩⟩
        funext j
        rw [(whole held).1, ← due_cons apart, kept]
        simp only [Graph.due, turn.disposed]
      rw [drain_cons fuel failure queue, bind_apply, Run.attempt] at ended
      cases hw : perform Γ.recorded n (.execute (.effect i)) (w.unqueue Γ.recorded i) with
      | exhausted w1 =>
        rw [hw] at ended
        cases ended
      | ok r w1 =>
        rw [hw] at ended
        obtain ⟨turn, kept⟩ := turns w1 (congrArg Outcome.ended? hw)
        exact later turn kept _ ended
      | raised e w1 =>
        rw [hw] at ended
        obtain ⟨turn, kept⟩ := turns w1 (congrArg Outcome.ended? hw)
        change ((if Γ.caught e then drain Γ.recorded (perform Γ.recorded n) fuel
          (failure.or (some e)) else raise e) w1).ended? = some w' at ended
        cases hc : Γ.caught e with
        | true =>
          rw [hc, if_pos rfl] at ended
          exact later turn kept _ ended
        | false =>
          rw [hc, if_neg Bool.false_ne_true] at ended
          cases ended
          exact ⟨_, turn, fun held => nomatch hc.symm.trans (perform_confesses n i _ e _ hw held)⟩

end Run

/-! ## Scripts -/

/-- What a script does to a world in which nothing runs: outside of batches nothing waits afterwards
as long as flushes catch the faults of effects, and a batch that is open stays underway. -/
structure Carried (Γ : Setting V C H E) (Ok : H → Prop) (w w' : World V C (Recorded V C H E)) :
    Prop where
  rested : Rested Γ Ok w'
  depth : w'.graph.depth = w.graph.depth
  past : w.host.past ⊆ w'.host.past
  queue : w.graph.depth = 0 → w.graph.queue = [] → Γ.Holds w'.host.past → w'.graph.queue = []
  underway : 0 < w.graph.depth → ∀ {w₀ new}, Underway Γ Ok w₀ new w →
    ∃ new', Underway Γ Ok w₀ new' w'

theorem Carried.trans (a : Carried Γ Ok w w') (b : Carried Γ Ok w' w'') :
    Carried Γ Ok w w'' where
  rested := b.rested
  depth := b.depth.trans a.depth
  past := List.Subset.trans a.past b.past
  queue flat empty held :=
    b.queue (a.depth.trans flat) (a.queue flat empty (held.of_subset b.past)) held
  underway deep _ _ h := by
    obtain ⟨new', h'⟩ := a.underway deep h
    exact b.underway (a.depth.symm ▸ deep) h'

theorem Rested.carried (h : Rested Γ Ok w) : Carried Γ Ok w w :=
  ⟨h, rfl, List.Subset.refl _, fun _ empty _ => empty, fun _ _ _ under => ⟨_, under⟩⟩

theorem Proceeds.carried (change : Proceeds w w') (rested : Rested Γ Ok w')
    (depth : w'.graph.depth = w.graph.depth) (queue : w'.graph.queue = w.graph.queue) :
    Carried Γ Ok w w' :=
  ⟨rested, depth, change.past.subset, fun _ empty _ => queue.trans empty,
    fun _ _ _ under => under.proceed change rested⟩

theorem Seen.carried (h : Rested Γ Ok w) (seen : Seen Γ Ok w w')
    (same : w.graph.SameActivity w'.graph) : Carried Γ Ok w w' :=
  (seen.proceeds h).carried (h.of_same seen.poised same (seen.graph.queue.symm ▸ h.nodup))
    seen.graph.depth seen.graph.queue

theorem Rested.carried_update {f : Graph V C → Graph V C} (h : Rested Γ Ok w)
    (tracked : Tracked (w.update f)) (deriveds : (f w.graph).deriveds = w.graph.deriveds)
    (effects : (f w.graph).effects = w.graph.effects) (stack : (f w.graph).stack = w.graph.stack)
    (queue : (f w.graph).queue = w.graph.queue) (depth : (f w.graph).depth = w.graph.depth) :
    Carried Γ Ok w (w.update f) :=
  (h.update tracked deriveds effects stack queue).1.carried
    (h.update tracked deriveds effects stack queue).2 depth queue

theorem Rested.dispose (h : Rested Γ Ok w) (finite : Γ.Finite Ok) (i : Nat) :
    Carried Γ Ok w (w.dispose Γ.recorded i) := by
  have relinks := Graph.relinks_dispose w.graph i
  have dirty (d : Nat) : ((w.graph.dispose i).derived d).dirty = (w.graph.derived d).dirty :=
    relinks.derived_of Derived.dirty (fun _ _ _ => rfl) d
  have links (t : Tracker) (other : t ≠ .effect i) :
      (w.graph.dispose i).dependencies t = w.graph.dependencies t :=
    (Graph.dependencies_dispose w.graph i t).trans (if_neg other)
  have kept {j : Nat} (unmarked : ¬ (w.graph.dispose i).Marked (.effect j)) :
      i ≠ j ∧ ¬ w.graph.Marked (.effect j) := by
    have other : i ≠ j := fun same => unmarked (.inl (same ▸ Graph.disposed_dispose w.graph i))
    refine ⟨other, mt (Graph.marked_of_effect _ _ ?_ (by rw [relinks.queue]; rfl)).mpr unmarked⟩
    exact Graph.effect_dispose_of_ne other w.graph
  have same := Graph.sameActivity_dispose w.graph i
  have queue : (w.graph.dispose i).queue = w.graph.queue := relinks.queue
  have derived (d : Nat) : Tracker.derived d ≠ .effect i := nofun
  have effect {j : Nat} (other : i ≠ j) : Tracker.effect j ≠ .effect i :=
    fun eq => other (Tracker.effect.inj eq).symm
  have poised : Poised Γ Ok none (w.dispose Γ.recorded i) := by
    refine h.poised.of_grounded (h.poised.toGrounded.next (h.poised.tracked.dispose Γ i)
      (fun d computing => (dirty d).trans (h.poised.busy d ((same.computing d).symm.trans computing)))
      (fun d clean => (dirty d).trans clean) fun t fresh _ d dep => .inr ?_)
      (finite.notice _ _ _ h.poised.host) ((Graph.sameCode_modifyEffect w.graph i
        (f := ({ · with disposed := true })) fun _ => rfl).trans relinks.sameCode)
    have unmarked := fresh.resolve_left fun on => nomatch h.stack ▸ same.stack ▸ on
    cases t with
    | derived j =>
      exact ⟨.inr fun marked => unmarked ((dirty j).trans marked), nofun, links _ (derived j) ▸ dep⟩
    | effect j =>
      obtain ⟨other, before⟩ := kept unmarked
      exact ⟨.inr before, nofun, links _ (effect other) ▸ dep⟩
  refine Proceeds.carried ⟨adds_tell Γ (.disposed i) nofun nofun _, fun d _ => links _ (derived d),
    fun j unmarked => ?_, fun j mem live => ?_⟩ (h.of_same poised same ?_) relinks.depth queue
  · obtain ⟨other, before⟩ := kept unmarked
    exact ⟨before, links _ (effect other)⟩
  · have other : i ≠ j := by
      rintro rfl
      exact nomatch live.symm.trans (Graph.disposed_dispose w.graph i)
    exact ⟨queue ▸ mem, Graph.effect_dispose_of_ne other w.graph ▸ live⟩
  · exact (congrArg List.Nodup queue).mpr h.nodup

namespace Run

section Scripts

variable (finite : Γ.Finite Ok) (told : ∀ n ts t, t ∈ ts → t ∈ Γ.arrange n ts) {n : Nat}

include finite

omit finite in
theorem ends_leave {K : World V C (Recorded V C H E) → World V C (Recorded V C H E) → Prop}
    (ends : ∀ n, Ends K (leaveBatch Γ.recorded (perform Γ.recorded n) (n * n)) w) :
    Ends K (leave (perform Γ.recorded n)) w := by
  refine Ends.still (k := Pure.pure ()) ?_ fun _ => rfl
  cases n with
  | zero => exact ends_exhausted w
  | succ n => exact (ends n).still (k := Pure.pure none) fun _ => rfl

theorem flushes_leave (h : Rested Γ Ok w) (depth : w.graph.depth = 1) :
    Ends (fun w w' => ∃ count, Flushes Γ Ok count (w.update Graph.depart) w' ∧
      (Γ.Holds w'.host.past → count = w.graph.due w.graph.queue ∧ w'.graph.queue = []))
      (leave (perform Γ.recorded n)) w := by
  refine ends_leave fun n w' ended => ?_
  rw [leaveBatch_outermost _ depth] at ended
  refine flushes_drain finite _ none h.depart.2 ?_ w' ended
  change w.graph.depth - 1 = 0
  omega

theorem carried_leave (w₀ : World V C (Recorded V C H E)) (h : Rested Γ Ok w)
    (depth : w.graph.depth = w₀.graph.depth + 1) (older : w₀.host.past ⊆ w.host.past)
    (under : 0 < w₀.graph.depth → ∀ {u new}, Underway Γ Ok u new w₀ →
      ∃ new', Underway Γ Ok u new' w) :
    Ends (fun _ w' => Carried Γ Ok w₀ w') (leave (perform Γ.recorded n)) w := by
  have level : (w.update Graph.depart).graph.depth = w₀.graph.depth := by
    change w.graph.depth - 1 = _
    omega
  intro w' ended
  by_cases flat : w₀.graph.depth = 0
  · obtain ⟨count, flushed, whole⟩ := flushes_leave finite h (by omega) w' ended
    exact ⟨flushed.rested, flushed.depth.trans level, List.Subset.trans older flushed.subset,
      fun _ _ held => (whole held).2, fun deep => by omega⟩
  · refine ends_leave (K := fun _ w' => Carried Γ Ok w₀ w') (fun n w' ended => ?_) w' ended
    rw [leaveBatch_inner _ (by omega)] at ended
    cases ended
    obtain ⟨change, rested⟩ := h.depart
    refine ⟨rested, level, older, fun flat' => absurd flat' flat, fun deep u new under₀ => ?_⟩
    obtain ⟨new', under'⟩ := under deep under₀
    exact under'.proceed change rested

include told

theorem carried_replaceValue (k : Nat) (old v : V) (h : Rested Γ Ok w)
    (closed : 0 ≤ w.graph.depth) :
    Ends (Carried Γ Ok)
      (replaceValue Γ.recorded (perform Γ.recorded n) k old v) w := by
  let _ : Preorder H :=
    { le := fun _ _ => True, le_refl := fun _ => trivial, le_trans := fun _ _ _ _ _ => trivial }
  intro w' ended
  rw [replaceValue_outside fun d rest other => nomatch h.stack ▸ other] at ended
  have deep : 0 < (w.opened Γ k old v).graph.depth := by
    change 0 < w.graph.depth + 1
    omega
  have opened : Leads Γ w (w.opened Γ k old v) := .tail (.single (.assign k old v)) .enter
  have marks := marks_tell told (perform_marks (fun _ _ _ => trivial) told n) (.wire k) deep
  have tells := tells_write finite.arrange finite.notice h.poised.tracked n old v deep
  have walks := (walks_tell (perform_walks Γ n) (.wire k) _ (opened.tracked h.poised.tracked)).1
  have same := restores_tell Γ.recorded (perform_restores Γ.recorded n) (.wire k)
    (w.opened Γ k old v)
  change (ensure (tell Γ.recorded (perform Γ.recorded n) (.wire k))
    (fun _ => leave (perform Γ.recorded n)) (w.opened Γ k old v)).ended? = _ at ended
  cases tell : tell Γ.recorded (perform Γ.recorded n) (.wire k)
      (w.opened Γ k old v) with
  | exhausted w2 =>
    rw [ensure_of_exhausted tell] at ended
    cases ended
  | raised e w2 =>
    rw [Yields, tell] at marks
    exact marks.elim
  | ok r w2 =>
    rw [Yields, tell] at marks tells
    rw [tell] at walks
    rw [ensure_of_ok tell] at ended
    have next {u new} (under : Underway Γ Ok u new w) := under.told marks.1 marks.2 tells
      (finite.notice _ _ _ h.poised.host) (walks.tracked (opened.tracked h.poised.tracked))
      (same w2 (by rw [tell]; rfl))
    obtain ⟨new, under⟩ := next h.underway
    have older : w.host.past ⊆ w2.host.past :=
      fun _ mem => walks.shown (opened.shown mem)
    exact (carried_leave finite w under.toRested tells.depth older fun _ _ _ => next).still
      (fun _ => rfl) w' ended

theorem carried_writeWire (k : Nat) (v : V) (h : Rested Γ Ok w) (closed : 0 ≤ w.graph.depth) :
    Ends (Carried Γ Ok) (writeWire Γ.recorded (perform Γ.recorded n) k v) w := by
  cases frozen : (w.graph.wire k).frozen with
  | true =>
    intro w' ended
    rw [writeWire_frozen frozen] at ended
    cases ended
    exact h.carried
  | false =>
    intro w' ended
    rw [writeWire_apply frozen] at ended
    have compared := h.poised.sees finite
      ((perform_glimpses finite.modest n).1 (finite.same (w.graph.wire k).value v).modest w)
    have first : Ends (Carried Γ Ok) (perform Γ.recorded n
        (.script (Γ.same (w.graph.wire k).value v).recorded)) w := fun w1 ended =>
      (compared w1 ended).carried h (perform_restores Γ.recorded n _ w w1 ended)
    refine first.bind (fun _ _ _ => Carried.trans) (fun r w1 ran => ?_) w' ended
    have carried := first w1 (by rw [ran]; rfl)
    cases r with
    | none => exact carried_replaceValue finite told k _ v carried.rested (carried.depth ▸ closed)
    | some r =>
      intro w2 ended
      cases ended
      exact carried.rested.carried

variable (scripts : ∀ {s : Script V C H E}, s.Finite Γ Ok true →
  ∀ {w}, Rested Γ Ok w → 0 ≤ w.graph.depth →
    Ends (Carried Γ Ok) (perform Γ.recorded n (.script s.recorded)) w)

include scripts

theorem carried_exec {s : Script V C H E} (only : s.Finite Γ Ok true)
    (h : Rested Γ Ok w) (closed : 0 ≤ w.graph.depth) :
    Ends (Carried Γ Ok) (exec Γ.recorded (perform Γ.recorded n) s.recorded) w := by
  -- What follows a part that is carried on, here and where it may end in more than one world.
  have next {w w' w'' : World V C (Recorded V C H E)} (first : Carried Γ Ok w w')
      (closed : 0 ≤ w.graph.depth) (later : Rested Γ Ok w' → 0 ≤ w'.graph.depth →
        Carried Γ Ok w' w'') : Carried Γ Ok w w'' :=
    first.trans (later first.rested (first.depth.symm ▸ closed))
  have step {α : Type} {w : World V C (Recorded V C H E)} {m : Run V C (Recorded V C H E) E α}
      {f : α → Run V C (Recorded V C H E) E (Option V)} (closed : 0 ≤ w.graph.depth)
      (first : Ends (Carried Γ Ok) m w) (later : ∀ a {w'}, Rested Γ Ok w' →
        0 ≤ w'.graph.depth → Ends (Carried Γ Ok) (f a) w') :
      Ends (Carried Γ Ok) (m >>= f) w :=
    first.bind (fun _ _ _ => Carried.trans) fun a w1 ran =>
      let carried := first w1 (by rw [ran]; rfl)
      later a carried.rested (carried.depth.symm ▸ closed)
  induction only generalizing w with
  | done | raise =>
    intro w' ended
    cases ended
    exact h.carried
  | look later ih =>
    intro w' ended
    have looked : Carried Γ Ok w { w with host := w.host.see none w.graph } :=
      (h.poised.gaze finite (.single .look)).carried h (.refl _)
    exact next looked closed fun rested closed =>
      ih w.graph w.host.host h.poised.host rested closed w' ended
  | @replace host _ ok later ih =>
    intro w' ended
    have replaced : Carried Γ Ok w { w with host := { w.host with host := host } } :=
      (h.poised.gaze finite (.single (.replace ok))).carried h (.refl _)
    exact next replaced closed fun rested closed => ih rested closed w' ended
  | @read s _ later ih =>
    refine step closed (fun w1 ended => ?_) fun v _ rested closed => ih v rested closed
    exact (h.poised.sees finite (gazes_readSource finite.modest
      (perform_glimpses finite.modest n).2 s w) w1 ended).carried h
      (restores_readSource Γ.recorded (perform_restores Γ.recorded n) s w w1 ended)
  | attempt inner later _ body ih =>
    refine ends_attempt_bind (body h closed) fun r w1 carried w' ended => ?_
    exact next carried closed fun rested closed => ih r rested closed w' ended
  | call inner later body ih =>
    exact step closed (scripts inner h closed) fun r _ rested closed => ih r rested closed
  | @newWire v _ may later ih =>
    intro w' ended
    exact next (h.carried_update (h.poised.tracked.addWire v) rfl rfl rfl rfl rfl) closed
      fun rested closed => ih w.graph.wires.size rested closed w' ended
  | @write k v _ may later ih =>
    exact step closed (carried_writeWire finite told k v h closed) fun _ _ => ih
  | @freeze k _ may later ih =>
    intro w' ended
    exact next (h.carried_update (h.poised.tracked.freeze k) rfl rfl rfl rfl rfl) closed
      fun rested closed => ih rested closed w' ended
  | @dispose i _ may later ih =>
    intro w' ended
    exact next (h.dispose finite i) closed fun rested closed => ih rested closed w' ended
  | @batch body _ may inner later ran ih =>
    obtain ⟨entered, rested⟩ := h.enter
    have deep : 0 < (w.update Graph.enter).graph.depth := Int.lt_add_one_of_le closed
    refine step (m := fun w => ensure (exec Γ.recorded (perform Γ.recorded n)
      body.recorded) (fun _ => leave (perform Γ.recorded n)) (w.update Graph.enter)) closed
      (ends_ensure (K := fun _ w' => Carried Γ Ok w w') (ran rested deep.le)
        fun _ w1 carried => ?_) fun r _ rested closed => ih r rested closed
    refine carried_leave finite w carried.rested carried.depth carried.past fun _ u new under => ?_
    obtain ⟨new', opened⟩ := under.proceed entered rested
    exact carried.underway deep opened

end Scripts

/-- Where trackers only read, scripts that write and open batches leave what is not marked up to
date. -/
theorem perform_carried (finite : Γ.Finite Ok)
    (told : ∀ n ts t, t ∈ ts → t ∈ Γ.arrange n ts) (n : Nat) {s : Script V C H E}
    (only : s.Finite Γ Ok true) {w : World V C (Recorded V C H E)} (h : Rested Γ Ok w)
    (closed : 0 ≤ w.graph.depth) :
    Ends (Carried Γ Ok) (perform Γ.recorded n (.script s.recorded)) w := by
  induction n generalizing s w with
  | zero => exact ends_exhausted w
  | succ n ih => exact carried_exec finite told ih only h closed

end Run

end AttrBinder.Reactive
