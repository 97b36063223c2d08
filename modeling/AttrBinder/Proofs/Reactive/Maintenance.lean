import AttrBinder.Proofs.Reactive.Coherence

/-!
Runs keep a world coherent. `Acts` says which scripts effects and top-level operations may be: they
read, write, open batches, make and dispose effects, and call code that does the same. With derived
values that only read, every such script, every effect and every end of a batch leads from coherent
worlds to coherent ones (`perform_maintains`).
-/

namespace AttrBinder.Reactive

variable {V C H E : Type} [Inhabited V] [Inhabited C]

def Sheet.Within (S : Sheet V C H) : Source → Prop
  | .wire i => i < S.wires
  | .derived d => d < S.deriveds

section Acts

variable [Preorder H] (S : Sheet V C H) (Γ : Setting V C H E)

/-- A script that reads, writes what wires may hold, opens batches, makes and disposes effects, and
returns what `Q` says. It may look at a graph of the sheet, call code that acts too, and add to the
host. Only a `loud` script raises by itself. -/
inductive Script.Acts : Bool → Script V C H E → H → (Option V → Prop) → Prop
  | done {loud : Bool} {r : Option V} {h : H} {Q : Option V → Prop} : Q r → Acts loud (.done r) h Q
  | raise {e : E} {h : H} {Q : Option V → Prop} : Acts true (.raise e) h Q
  | look {loud : Bool} {next : Graph V C → H → Script V C H E} {h : H} {Q : Option V → Prop} :
      (∀ g, S.Fits g → Acts loud (next g h) h Q) → Acts loud (.look next) h Q
  | replace {loud : Bool} {next : Script V C H E} {h h' : H} {Q : Option V → Prop} :
      h ≤ h' → Acts loud next h' Q → Acts loud (.replace h' next) h Q
  | read {loud : Bool} {s : Source} {next : V → Script V C H E} {h : H} {Q : Option V → Prop} :
      S.Within s → (∀ v h', S.Possible Γ s v → h ≤ h' → Acts loud (next v) h' Q) →
      Acts loud (.read s next) h Q
  | write {loud : Bool} {i : Nat} {v : V} {next : Script V C H E} {h : H} {Q : Option V → Prop} :
      i < S.wires → S.holds i v → (∀ h', h ≤ h' → Acts loud next h' Q) →
      Acts loud (.write i v next) h Q
  | newEffect {loud : Bool} {l : Label} {c : C} {next : Nat → Script V C H E} {h : H}
      {Q : Option V → Prop} : S.action c → (∀ i h', h ≤ h' → Acts loud (next i) h' Q) →
      Acts loud (.newEffect l c next) h Q
  | dispose {loud : Bool} {i : Nat} {next : Script V C H E} {h : H} {Q : Option V → Prop} :
      (∀ h', h ≤ h' → Acts loud next h' Q) → Acts loud (.dispose i next) h Q
  | batch {loud : Bool} {body : Script V C H E} {next : Option V → Script V C H E} {h : H}
      {P Q : Option V → Prop} : Acts loud body h P →
      (∀ r h', P r → h ≤ h' → Acts loud (next r) h' Q) → Acts loud (.batch body next) h Q
  | attempt {loud : Bool} {body : Script V C H E} {next : Except E (Option V) → Script V C H E}
      {h : H} {P Q : Option V → Prop} : Acts true body h P →
      (∀ r h', (∀ a, r = .ok a → P a) → h ≤ h' → Acts loud (next r) h' Q) →
      Acts loud (.attempt body next) h Q
  | call {loud : Bool} {c : C} {next : Option V → Script V C H E} {h : H} {P Q : Option V → Prop} :
      Acts loud (Γ.body c) h P →
      (∀ r h', P r → h ≤ h' → Acts loud (next r) h' Q) → Acts loud (.call c next) h Q

/-- What is asked of a system: subscribers are told in any order, values are plain so that comparing
them reads nothing, every derived value returns in every state, and effects act without raising. -/
structure Sheet.Lawful : Prop where
  adds : Γ.Adds
  arrange : ∀ n ts, (Γ.arrange n ts).Perm ts
  same : ∀ i a b, i < S.wires → S.holds i a → S.holds i b →
    ∃ r, ∀ h, S.base ≤ h → (Γ.same a b).Traces Γ h [] r
  returns : ∀ σ, S.Holds σ → ∀ d, d < S.deriveds → ∃ v, S.Gives Γ σ (.derived d) v
  acts : ∀ c, S.action c → ∀ h, S.base ≤ h → (Γ.body c).Acts S Γ false h fun _ => True

/-- What of this writes need. -/
structure Sheet.Plain : Prop where
  adds : Γ.Adds
  arrange : ∀ n ts, (Γ.arrange n ts).Perm ts
  same : ∀ i a b, i < S.wires → S.holds i a → S.holds i b →
    ∃ r, ∀ h, S.base ≤ h → (Γ.same a b).Traces Γ h [] r

theorem Sheet.Lawful.plain {S : Sheet V C H} {Γ : Setting V C H E} (lawful : S.Lawful Γ) :
    S.Plain Γ :=
  ⟨lawful.adds, lawful.arrange, lawful.same⟩

end Acts

namespace Run

variable {α β : Type} [Preorder H]

/-- What every run does, however it ends: no batch is left open or ended, outside of batches no
effect is left waiting, and the host has grown. -/
structure Passes (w w' : World V C (Recorded V C H E)) : Prop where
  depth : w'.graph.depth = w.graph.depth
  queue : w.graph.depth = 0 → w.graph.queue = [] → w'.graph.queue = []
  host : w.host.host ≤ w'.host.host
  overran : Overran w.host.past → Overran w'.host.past

/-- What ending a batch does. -/
structure Closes (w w' : World V C (Recorded V C H E)) : Prop where
  depth : w'.graph.depth = w.graph.depth - 1
  queue : w.graph.depth = 1 → w'.graph.queue = []
  host : w.host.host ≤ w'.host.host
  overran : Overran w.host.past → Overran w'.host.past

variable {S : Sheet V C H} {Γ : Setting V C H E} {w w' w'' : World V C (Recorded V C H E)}

namespace Passes

omit [Inhabited V] [Inhabited C] in
theorem refl (w : World V C (Recorded V C H E)) : Passes w w :=
  ⟨rfl, fun _ hq => hq, le_refl _, fun h => h⟩

omit [Inhabited V] [Inhabited C] in
theorem trans (a : Passes w w') (b : Passes w' w'') : Passes w w'' :=
  ⟨b.depth.trans a.depth, fun hd hq => b.queue (a.depth.trans hd) (a.queue hd hq),
    le_trans a.host b.host, fun h => b.overran (a.overran h)⟩

omit [Inhabited V] [Inhabited C] in
theorem closed (a : Passes (w.update Graph.enter) w') (b : Closes w' w'') : Passes w w'' := by
  have inside : w'.graph.depth = w.graph.depth + 1 := a.depth
  have outside := b.depth
  exact ⟨by omega, fun hd _ => b.queue (by omega), le_trans a.host b.host,
    fun h => b.overran (a.overran h)⟩

end Passes

theorem Reads.passes {L : List (Source × V)} (r : Reads S Γ L w w') : Passes w w' :=
  ⟨r.ripens.depth, fun _ hq => r.ripens.queue.trans hq, r.host, r.overran⟩

theorem Spreads.passes (s : Spreads w w') (deep : 0 < w.graph.depth) : Passes w w' :=
  ⟨s.depth, fun flat _ => by omega, s.host, s.overran⟩

variable (S Γ)

/-- What is known of nested tasks before consistency: they leave activity and links as they have to,
reading gives what is given from scratch, and telling marks. -/
structure Nested
    (again : Task V C (Recorded V C H E) E → Run V C (Recorded V C H E) E (Option V)) : Prop where
  restores : ∀ t w, Restores (again t) w
  walks : ∀ (t : Task V C H E) w, Walks Γ (again t.recorded) w
  scripts : ∀ {script : Script V C H E} {L : List (Source × V)} {r : Option V}
    {w : World V C (Recorded V C H E)}, Sober S Γ w → script.Traces Γ w.host.host L r →
    (∀ s v, (s, v) ∈ L → S.Gives Γ w.graph.values s v) →
    (∀ j u, (.derived j, u) ∈ L → Free S Γ j w) →
    Yields (again (.script script.recorded)) w fun r' w' => r' = r ∧ Reads S Γ L w w'
  values : ∀ {d : Nat} {v : V} {w : World V C (Recorded V C H E)}, Sober S Γ w →
    S.Gives Γ w.graph.values (.derived d) v → Free S Γ d w →
    Yields (again (.value d)) w fun r w' => r = some v ∧ Reads S Γ [(.derived d, v)] w w'
  marks : ∀ (t : Tracker) {w : World V C (Recorded V C H E)}, 0 < w.graph.depth →
    Yields (again (.execute t)) w fun _ w' => Spreads w w' ∧ w'.graph.Marked t

variable {S Γ}

theorem perform_nested (adds : Γ.Adds) (arrange : ∀ n ts, (Γ.arrange n ts).Perm ts)
    (n : Nat) : Nested S Γ (perform Γ.recorded n) where
  restores := perform_restores Γ.recorded n
  walks := perform_walks Γ n
  scripts := (perform_reads S adds n).1
  values := (perform_reads S adds n).2
  marks := perform_marks adds (fun k ts _ ht => (arrange k ts).mem_iff.mpr ht) n

variable (S Γ)

/-- A run that ends in a coherent world to which `K` leads, with a result as `Q` says. Unless it is
`loud` it raises only after an effect has asked for too many runs, and what a flush catches. -/
def Maintains (loud : Bool) (K : World V C (Recorded V C H E) → Prop)
    (m : Run V C (Recorded V C H E) E α) (w : World V C (Recorded V C H E)) (Q : α → Prop) : Prop :=
  match m w with
  | .ok a w' => Coherent S Γ none w' ∧ K w' ∧ Q a
  | .raised e w' => Coherent S Γ none w' ∧ K w' ∧
    (loud = true ∨ Overran w'.host.past ∧ Γ.caught e = true)
  | .exhausted _ => True

variable {S Γ} {loud : Bool} {K K' : World V C (Recorded V C H E) → Prop}

section Rules

variable {m : Run V C (Recorded V C H E) E α} {f : α → Run V C (Recorded V C H E) E β}
variable {Q Q' : α → Prop} {R : β → Prop}

theorem maintains_of_ok {a : α} (hm : m w = .ok a w') (h : Coherent S Γ none w') (hK : K w')
    (hQ : Q a) : Maintains S Γ loud K m w Q := by
  rw [Maintains, hm]
  exact ⟨h, hK, hQ⟩

theorem Yields.maintains
    (hm : Yields m w fun a w' => Coherent S Γ none w' ∧ K w' ∧ Q a) :
    Maintains S Γ loud K m w Q := by
  unfold Yields at hm
  unfold Maintains
  cases hw : m w with
  | ok a w1 =>
    rw [hw] at hm
    exact hm
  | raised e w1 =>
    rw [hw] at hm
    exact hm.elim
  | exhausted w1 => trivial

theorem Maintains.ended (hm : Maintains S Γ loud K m w Q) (ends : (m w).ended? = some w') :
    Coherent S Γ none w' ∧ K w' := by
  unfold Maintains at hm
  cases hw : m w with
  | ok a w1 =>
    rw [hw] at hm ends
    cases ends
    exact ⟨hm.1, hm.2.1⟩
  | raised e w1 =>
    rw [hw] at hm ends
    cases ends
    exact ⟨hm.1, hm.2.1⟩
  | exhausted w1 =>
    rw [hw] at ends
    cases ends

theorem Maintains.mono (hm : Maintains S Γ loud K m w Q) (hK : ∀ w', K w' → K' w')
    (hQ : ∀ a, Q a → Q' a) : Maintains S Γ loud K' m w Q' := by
  unfold Maintains at hm ⊢
  cases hw : m w with
  | ok a w1 =>
    rw [hw] at hm
    exact ⟨hm.1, hK w1 hm.2.1, hQ a hm.2.2⟩
  | raised e w1 =>
    rw [hw] at hm
    exact ⟨hm.1, hK w1 hm.2.1, hm.2.2⟩
  | exhausted w1 => trivial

theorem Maintains.bind (hm : Maintains S Γ loud (Passes u) m w Q)
    (hf : ∀ a w', Coherent S Γ none w' → Passes u w' → Q a →
      Maintains S Γ loud (Passes w') (f a) w' R) :
    Maintains S Γ loud (Passes u) (m >>= f) w R := by
  unfold Maintains at hm
  cases hw : m w with
  | ok a w1 =>
    rw [hw] at hm
    have next := (hf a w1 hm.1 hm.2.1 hm.2.2).mono (fun _ passes => hm.2.1.trans passes)
      fun _ result => result
    rw [Maintains, bind_of_ok hw]
    exact next
  | raised e w1 =>
    rw [hw] at hm
    rw [Maintains, bind_of_raised hw]
    exact hm
  | exhausted w1 =>
    rw [Maintains, bind_of_exhausted hw]
    trivial

theorem Maintains.louder (hm : Maintains S Γ false K m w Q) :
    Maintains S Γ loud K m w Q := by
  unfold Maintains at hm ⊢
  cases hw : m w with
  | ok a w1 =>
    rw [hw] at hm
    exact hm
  | raised e w1 =>
    rw [hw] at hm
    exact ⟨hm.1, hm.2.1, .inr (hm.2.2.resolve_left Bool.false_ne_true)⟩
  | exhausted w1 => trivial

theorem Maintains.attempt (hm : Maintains S Γ true K m w Q) :
    Maintains S Γ loud K (attempt m) w fun r => ∀ a, r = .ok a → Q a := by
  unfold Maintains at hm ⊢
  cases hw : m w with
  | ok a w1 =>
    rw [hw] at hm
    simp only [Run.attempt, hw]
    refine ⟨hm.1, hm.2.1, ?_⟩
    rintro _ ⟨⟩
    exact hm.2.2
  | raised e w1 =>
    rw [hw] at hm
    simp only [Run.attempt, hw]
    exact ⟨hm.1, hm.2.1, fun _ ok => by cases ok⟩
  | exhausted w1 =>
    simp only [Run.attempt, hw]

theorem Maintains.still (hm : Maintains S Γ loud K m w Q) (hR : R b) :
    Maintains S Γ loud K (m >>= fun _ => Pure.pure b) w R := by
  unfold Maintains at hm
  cases hw : m w with
  | ok a w1 =>
    rw [hw] at hm
    exact maintains_of_ok (bind_of_ok hw) hm.1 hm.2.1 hR
  | raised e w1 =>
    rw [hw] at hm
    rw [Maintains, bind_of_raised hw]
    exact hm
  | exhausted w1 =>
    rw [Maintains, bind_of_exhausted hw]
    trivial

end Rules

section Parts

variable (lawful : S.Lawful Γ)
variable {again : Task V C (Recorded V C H E) E → Run V C (Recorded V C H E) E (Option V)}
variable (nested : Nested S Γ again)

include nested in
theorem maintains_gives (adds : Γ.Adds) (h : Coherent S Γ none w)
    (gives : S.Gives Γ w.graph.values s v) :
    Maintains S Γ loud (Passes w) (readSource Γ.recorded again s) w
      (S.Possible Γ s) := by
  have free (d : Nat) (_ : s = .derived d) : Free S Γ d w := fun j _ => h.idle j
  refine Yields.maintains ((reads_readSource adds nested.values h.sober gives free).mono ?_)
  rintro _ w1 ⟨rfl, reads⟩
  exact ⟨h.reads reads, Reads.passes reads, _, h.sober.fits.holds, gives⟩

include lawful nested in
theorem maintains_readSource (within : S.Within s) (h : Coherent S Γ none w) :
    Maintains S Γ loud (Passes w) (readSource Γ.recorded again s) w
      (S.Possible Γ s) := by
  cases s with
  | wire i => exact maintains_gives nested lawful.adds h (.wire within)
  | derived d =>
    obtain ⟨v, gives⟩ := lawful.returns _ h.sober.fits.holds d within
    exact maintains_gives nested lawful.adds h gives

variable (hleave : ∀ {w : World V C (Recorded V C H E)}, Coherent S Γ none w →
  0 < w.graph.depth → Maintains S Γ false (Closes w) (again .leave) w fun _ => True)

include hleave in
theorem maintains_inBatch (flat : 0 ≤ w.graph.depth)
    (hm : Maintains S Γ loud (Passes (w.update Graph.enter)) m
      (w.update Graph.enter) Q) :
    Maintains S Γ loud (Passes w) (ensure m fun _ => leave again)
      (w.update Graph.enter) Q := by
  have leaves {w1 : World V C (Recorded V C H E)} (h : Coherent S Γ none w1)
      (passes : Passes (w.update Graph.enter) w1) :
      Maintains S Γ false (Closes w1) (leave again) w1 fun _ => True := by
    have inside : w1.graph.depth = w.graph.depth + 1 := passes.depth
    exact (hleave h (by omega)).still trivial
  unfold Maintains at hm
  cases hw : m (w.update Graph.enter) with
  | ok a w1 =>
    rw [hw] at hm
    obtain ⟨coherent, passes, result⟩ := hm
    rw [Maintains, ensure_of_ok hw]
    refine ((leaves coherent passes).louder.mono ?_ fun _ h => h).still result
    exact fun w2 closes => passes.closed closes
  | raised e w1 =>
    rw [hw] at hm
    obtain ⟨coherent, passes, reason⟩ := hm
    have close := leaves coherent passes
    rw [Maintains, ensure_of_raised hw]
    unfold Maintains at close
    cases hc : leave again w1 with
    | ok u w2 =>
      rw [hc] at close
      rw [bind_of_ok hc]
      exact ⟨close.1, passes.closed close.2.1, reason.imp_right fun both => ⟨close.2.1.overran both.1, both.2⟩⟩
    | raised e' w2 =>
      rw [hc] at close
      rw [bind_of_raised hc]
      refine ⟨close.1, passes.closed close.2.1, .inr ?_⟩
      exact close.2.2.resolve_left Bool.false_ne_true
    | exhausted w2 =>
      rw [bind_of_exhausted hc]
      trivial
  | exhausted w1 =>
    rw [Maintains, ensure_of_exhausted hw]
    trivial

include nested in
theorem coherent_tell (adds : Γ.Adds) (arrange : ∀ n ts, (Γ.arrange n ts).Perm ts)
    (hi : i < S.wires) (holds : S.holds i v) (h : Coherent S Γ none w) :
    Yields (tell Γ.recorded again (.wire i))
      ((w.assign Γ.recorded i old v).update Graph.enter) fun _ w' =>
        Coherent S Γ none w' ∧
          Spreads ((w.assign Γ.recorded i old v).update Graph.enter) w' := by
  have deep : 0 < ((w.assign Γ.recorded i old v).update Graph.enter).graph.depth := by
    have := h.depth
    change 0 < w.graph.depth + 1
    omega
  have stored : Step Γ w (w.assign Γ.recorded i old v) := .assign i old v
  have entered : Step Γ (w.assign Γ.recorded i old v)
    ((w.assign Γ.recorded i old v).update Graph.enter) := .enter
  have opened := entered.tracked (stored.tracked h.sober.tracked)
  have tracks := (walks_tell nested.walks (.wire i) _ opened).1.tracked opened
  have subscribers : ((w.assign Γ.recorded i old v).update Graph.enter).graph.subscribers
      (.wire i) = w.graph.subscribers (.wire i) :=
    (Graph.sameLinks_setValue w.graph i v).subscribers (.wire i)
  have told := marks_tell (fun k ts _ ht => (arrange k ts).mem_iff.mpr ht) nested.marks
    (.wire i) deep
  unfold Yields at told ⊢
  cases hw : tell Γ.recorded again (.wire i)
      ((w.assign Γ.recorded i old v).update Graph.enter) with
  | ok u w1 =>
    rw [hw] at told tracks
    obtain ⟨spread, marked⟩ := told
    refine ⟨?_, spread⟩
    exact h.written adds hi holds tracks spread fun t ht => marked t (subscribers.symm ▸ ht)
  | raised e w1 =>
    rw [hw] at told
    exact told.elim
  | exhausted w1 => trivial

variable (plain : S.Plain Γ)

include plain nested hleave in
theorem maintains_replaceValue (hi : i < S.wires) (holds : S.holds i v)
    (h : Coherent S Γ none w) :
    Maintains S Γ loud (Passes w) (replaceValue Γ.recorded again i old v) w
      fun _ => True := by
  have outside (d : Nat) (rest : List Tracker) : w.graph.stack ≠ .derived d :: rest := by
    intro hs
    have computing : w.graph.Active (.derived d) :=
      h.sober.tracked.active _ (hs ▸ List.mem_cons_self)
    rw [Graph.Active, h.idle] at computing
    cases computing
  have deep : 0 < ((w.assign Γ.recorded i old v).update Graph.enter).graph.depth := by
    have := h.depth
    change 0 < w.graph.depth + 1
    omega
  have told : Maintains S Γ loud
      (Passes ((w.assign Γ.recorded i old v).update Graph.enter))
      (tell Γ.recorded again (.wire i))
      ((w.assign Γ.recorded i old v).update Graph.enter) fun _ => True :=
    Yields.maintains ((coherent_tell nested plain.adds plain.arrange hi holds h).mono fun _ _ both =>
      ⟨both.1, Spreads.passes both.2 deep, trivial⟩)
  have assigned : Passes w (w.assign Γ.recorded i old v) :=
    ⟨rfl, fun _ hq => hq, plain.adds _ _ _, fun beyond => beyond.later _⟩
  have flat : 0 ≤ (w.assign Γ.recorded i old v).graph.depth := h.depth
  rw [Maintains, replaceValue_outside outside]
  exact (maintains_inBatch hleave flat told).mono (fun _ passes => assigned.trans passes)
    fun _ result => result

include plain nested hleave in
theorem maintains_writeWire (hi : i < S.wires) (holds : S.holds i v)
    (h : Coherent S Γ none w) :
    Maintains S Γ loud (Passes w) (writeWire Γ.recorded again i v) w fun _ => True := by
  obtain ⟨r, traced⟩ := plain.same i (w.graph.wire i).value v hi (h.sober.fits.holds i hi) holds
  have compared := nested.scripts h.sober (traced _ h.sober.host) (fun _ _ hv => nomatch hv)
    (fun _ _ hj => nomatch hj)
  have asked : Maintains S Γ loud (Passes w)
      (again (.script (Γ.recorded.same (w.graph.wire i).value v))) w fun _ => True := by
    refine Yields.maintains (compared.mono ?_)
    rintro _ w1 ⟨rfl, reads⟩
    exact ⟨h.reads reads, Reads.passes reads, trivial⟩
  rw [Maintains, writeWire_apply (h.sober.fits.thawed i)]
  refine asked.bind fun answer w1 h1 _ _ => ?_
  cases answer with
  | none => exact maintains_replaceValue nested hleave plain hi holds h1
  | some r => exact maintains_of_ok rfl h1 (.refl w1) trivial

variable (hscript : ∀ {loud : Bool} {s : Script V C H E} {w : World V C (Recorded V C H E)}
  {Q : Option V → Prop}, s.Acts S Γ loud w.host.host Q → Coherent S Γ none w →
  Maintains S Γ loud (Passes w) (again (.script s.recorded)) w Q)

include lawful nested hscript in
theorem maintains_runTracked (h : Coherent S Γ (some i) w)
    (idle : Tracker.effect i ∉ w.graph.stack) (running : (w.graph.effect i).running = true) :
    Maintains S Γ false (Passes w) (runTracked Γ.recorded again (.effect i)) w
      fun _ => True := by
  have links := Graph.relinks_forget w.graph (.effect i)
  have begun := h.begin lawful.adds idle running
  have passes : Passes w (w.begin Γ.recorded (.effect i)) :=
    ⟨links.depth, fun _ hq => links.queue.trans hq, lawful.adds _ _ _,
      fun beyond => beyond.later _⟩
  have present : i < (w.begin Γ.recorded (.effect i)).graph.effects.size := by
    rw [World.graph_begin]
    exact links.effects.symm ▸ Graph.Active.hasTracker (t := .effect i) running
  have action := begun.sober.fits.action i present
  have inner := hscript (lawful.acts _ action _ begun.sober.host) begun
  have stack {w1 : World V C (Recorded V C H E)} (ends : (again (.script (Γ.body
      ((w.begin Γ.recorded (.effect i)).graph.effect i).body).recorded)
      (w.begin Γ.recorded (.effect i))).ended? = some w1) :
      w1.graph.stack = .effect i :: w.graph.stack := by
    refine (nested.restores _ _ w1 ends).stack.trans ?_
    change _ :: (w.graph.forget (.effect i)).stack = _
    rw [links.stack]
  have finished (w1 : World V C (Recorded V C H E)) (failure : Option E) :
      Passes w1 (w1.finish Γ.recorded (.effect i) failure) :=
    ⟨rfl, fun _ hq => hq, lawful.adds _ _ _, fun beyond => beyond.later _⟩
  unfold Maintains at inner ⊢
  cases hw : again (.script (Γ.body
      ((w.begin Γ.recorded (.effect i)).graph.effect i).body).recorded)
      (w.begin Γ.recorded (.effect i)) with
  | ok r w1 =>
    rw [hw] at inner
    rw [runTracked_of_ok hw]
    refine ⟨inner.1.finish lawful.adds (stack (by rw [hw]; rfl)) none, ?_, trivial⟩
    exact (passes.trans inner.2.1).trans (finished w1 none)
  | raised e w1 =>
    rw [hw] at inner
    rw [runTracked_of_raised hw]
    have beyond := inner.2.2.resolve_left Bool.false_ne_true
    refine ⟨inner.1.finish lawful.adds (stack (by rw [hw]; rfl)) _, ?_,
      .inr ⟨beyond.1.later _, beyond.2⟩⟩
    exact (passes.trans inner.2.1).trans (finished w1 _)
  | exhausted w1 =>
    rw [runTracked_of_exhausted hw]
    trivial

include lawful nested hscript in
theorem maintains_settle (n : Nat) (h : Coherent S Γ (some i) w)
    (idle : Tracker.effect i ∉ w.graph.stack) (running : (w.graph.effect i).running = true) :
    Maintains S Γ false (fun w' => Passes w w' ∧ ((w'.graph.effect i).rerun = false ∨
      (w'.graph.effect i).disposed = true ∨ Overran w'.host.past))
      (settle Γ.recorded again i n) w fun _ => True := by
  induction n generalizing w with
  | zero =>
    have beyond : Overran (w.tell Γ.recorded (.overran i)).host.past :=
      overran_cons.mpr (.inl ⟨i, rfl⟩)
    rw [Maintains, settle_zero]
    refine ⟨h.overran lawful.adds, ⟨⟨rfl, fun _ hq => hq, lawful.adds _ _ _, ?_⟩, ?_⟩,
      .inr ⟨beyond, Γ.catches _⟩⟩
    · exact fun before => before.later _
    · exact .inr (.inr beyond)
  | succ n ih =>
    have same : w.graph.SameActivity (w.update (·.countRun i)).graph :=
      Graph.sameActivity_modifyEffect w.graph i fun _ => rfl
    have counted : Passes w (w.update (·.countRun i)) :=
      ⟨rfl, fun _ hq => hq, le_refl _, fun beyond => beyond⟩
    have ran := maintains_runTracked lawful nested hscript h.countRun idle
      ((same.running i).trans running)
    have restores := restores_runTracked Γ.recorded nested.restores (.effect i)
      (w.update (·.countRun i))
    rw [Maintains, settle_succ]
    unfold Maintains at ran
    cases hw : runTracked Γ.recorded again (.effect i) (w.update (·.countRun i)) with
    | ok r w1 =>
      rw [hw] at ran
      obtain ⟨coherent, passes, _⟩ := ran
      have activity := same.trans (restores w1 (by rw [hw]; rfl))
      rw [bind_of_ok hw, graph_bind]
      by_cases asked : ((w1.graph.effect i).rerun && !(w1.graph.effect i).disposed) = true
      · rw [if_pos asked]
        have idle1 : Tracker.effect i ∉ w1.graph.stack := activity.stack.symm ▸ idle
        have more := ih coherent.weaken idle1 ((activity.running i).trans running)
        exact more.mono (fun _ both => ⟨(counted.trans passes).trans both.1, both.2⟩)
          fun _ result => result
      · rw [if_neg asked]
        refine ⟨coherent, ⟨counted.trans passes, ?_⟩, trivial⟩
        cases rerun : (w1.graph.effect i).rerun with
        | false => exact .inl rfl
        | true =>
          rw [rerun] at asked
          exact .inr (.inl (by simpa using asked))
    | raised e w1 =>
      rw [hw] at ran
      obtain ⟨coherent, passes, reason⟩ := ran
      have beyond := reason.resolve_left Bool.false_ne_true
      rw [bind_of_raised hw]
      exact ⟨coherent, ⟨counted.trans passes, .inr (.inr beyond.1)⟩, .inr beyond⟩
    | exhausted w1 =>
      rw [bind_of_exhausted hw]
      trivial

include lawful nested hscript in
theorem maintains_runEffect (h : Coherent S Γ (some i) w)
    (live : (w.graph.effect i).disposed = false) (still : (w.graph.effect i).running = false) :
    Maintains S Γ false (Passes w) (runEffect Γ.recorded again i) w fun _ => True := by
  have present := Graph.effect_lt_of_not_disposed live
  have idle : Tracker.effect i ∉ w.graph.stack :=
    h.sober.tracked.idle (by rw [Graph.Active, still]; exact Bool.false_ne_true)
  have running : ((w.update (·.setRunning i true)).graph.effect i).running = true := by
    simp [World.update, Graph.setRunning, Graph.effect_modifyEffect, present]
  have settles := maintains_settle lawful nested hscript (maxReruns + 1) (h.setRunning idle) idle
    running
  have restores := restores_settle Γ.recorded nested.restores i (maxReruns + 1)
    (w.update (·.setRunning i true))
  have idle1 {w1 : World V C (Recorded V C H E)} (ends : (settle Γ.recorded again i
      (maxReruns + 1) (w.update (·.setRunning i true))).ended? = some w1) :
      Tracker.effect i ∉ w1.graph.stack := (restores w1 ends).stack.symm ▸ idle
  have passed {w1 : World V C (Recorded V C H E)}
      (passes : Passes (w.update (·.setRunning i true)) w1) :
      Passes w (w1.update (·.setRunning i false)) :=
    ⟨passes.depth, passes.queue, passes.host, passes.overran⟩
  rw [Maintains, runEffect_apply]
  unfold Maintains at settles
  cases hw : settle Γ.recorded again i (maxReruns + 1) (w.update (·.setRunning i true)) with
  | ok u w1 =>
    rw [hw] at settles
    obtain ⟨coherent, ⟨passes, settled⟩, _⟩ := settles
    rw [ensure_of_ok hw]
    exact ⟨coherent.unsetRunning (idle1 (by rw [hw]; rfl)) settled, passed passes, trivial⟩
  | raised e w1 =>
    rw [hw] at settles
    obtain ⟨coherent, ⟨passes, settled⟩, reason⟩ := settles
    rw [ensure_of_raised hw]
    exact ⟨coherent.unsetRunning (idle1 (by rw [hw]; rfl)) settled, passed passes, reason⟩
  | exhausted w1 =>
    rw [ensure_of_exhausted hw]
    trivial

include lawful nested hscript in
theorem maintains_executeEffect (h : Coherent S Γ (some i) w) :
    Maintains S Γ false (Passes w) (executeEffect Γ.recorded again i) w
      fun _ => True := by
  cases hd : (w.graph.effect i).disposed with
  | true =>
    exact maintains_of_ok (executeEffect_disposed hd) (h.disposed hd) (.refl w) trivial
  | false =>
    cases hr : (w.graph.effect i).running with
    | true =>
      exact maintains_of_ok (executeEffect_running hd hr) (h.requestRun hr)
        ⟨rfl, fun _ hq => hq, le_refl _, fun beyond => beyond⟩ trivial
    | false =>
      by_cases deep : 0 < w.graph.depth
      · refine maintains_of_ok (executeEffect_waiting hd hr deep) (h.enqueue lawful.adds)
          ⟨rfl, fun flat _ => ?_, lawful.adds _ _ _, fun beyond => beyond.later _⟩ trivial
        omega
      · rw [Maintains, executeEffect_now hd hr deep]
        exact maintains_runEffect lawful nested hscript h hd hr

variable (hexecute : ∀ {i : Nat} {w : World V C (Recorded V C H E)}, Coherent S Γ (some i) w →
  Maintains S Γ false (Passes w) (again (.execute (.effect i))) w fun _ => True)

include plain hexecute in
theorem maintains_drain (n : Nat) (failure : Option E) (h : Coherent S Γ none w)
    (flat : w.graph.depth = 0) (failed : ∀ e, failure = some e → Overran w.host.past ∧ Γ.caught e = true) :
    Maintains S Γ false (fun w' => Passes w w' ∧ w'.graph.queue = [])
      (drain Γ.recorded again n failure) w fun _ => True := by
  induction n generalizing failure w with
  | zero => trivial
  | succ n ih =>
    cases hq : w.graph.queue with
    | nil =>
      rw [Maintains, drain_nil n failure hq]
      cases failure with
      | none => exact ⟨h, ⟨.refl w, hq⟩, trivial⟩
      | some e => exact ⟨h, ⟨.refl w, hq⟩, .inr (failed e rfl)⟩
    | cons i rest =>
      have taken : Passes w (w.unqueue Γ.recorded i) :=
        ⟨rfl, fun _ empty => (nomatch hq.symm.trans empty), plain.adds _ _ _,
          fun beyond => beyond.later _⟩
      have ran := hexecute (h.unqueue plain.adds hq)
      rw [Maintains, drain_cons n failure hq]
      unfold Maintains at ran
      have go {w1 : World V C (Recorded V C H E)} {failure' : Option E}
          (coherent : Coherent S Γ none w1)
          (passes : Passes (w.unqueue Γ.recorded i) w1)
          (failed' : ∀ e, failure' = some e → Overran w1.host.past ∧ Γ.caught e = true) :
          Maintains S Γ false (fun w' => Passes w w' ∧ w'.graph.queue = [])
            (drain Γ.recorded again n failure') w1 fun _ => True :=
        (ih failure' coherent ((taken.trans passes).depth.trans flat) failed').mono
          (fun _ both => ⟨(taken.trans passes).trans both.1, both.2⟩) fun _ result => result
      cases hw : again (.execute (.effect i)) (w.unqueue Γ.recorded i) with
      | ok r w1 =>
        rw [hw] at ran
        obtain ⟨coherent, passes, _⟩ := ran
        simp only [bind_apply, attempt, hw]
        exact go coherent passes fun e some =>
          ⟨(taken.trans passes).overran (failed e some).1, (failed e some).2⟩
      | raised e w1 =>
        rw [hw] at ran
        obtain ⟨coherent, passes, reason⟩ := ran
        have beyond := reason.resolve_left Bool.false_ne_true
        simp only [bind_apply, attempt, hw, show Γ.recorded.caught e = true from beyond.2, if_true]
        refine go coherent passes fun f some => ?_
        cases failure with
        | none => exact Option.some.inj some ▸ beyond
        | some f' => exact ⟨beyond.1, (failed f some).2⟩
      | exhausted w1 => simp only [bind_apply, attempt, hw]

include plain hexecute in
theorem maintains_leaveBatch (fuel : Nat) (h : Coherent S Γ none w)
    (deep : 0 < w.graph.depth) :
    Maintains S Γ false (Closes w) (leaveBatch Γ.recorded again fuel) w
      fun _ => True := by
  have departed := h.depart deep
  have shallower : (w.update Graph.depart).graph.depth = w.graph.depth - 1 := rfl
  by_cases outermost : w.graph.depth = 1
  · have flat : (w.update Graph.depart).graph.depth = 0 := by omega
    rw [Maintains, leaveBatch_outermost fuel outermost]
    refine (maintains_drain plain hexecute fuel none departed flat nofun).mono ?_
      fun _ result => result
    intro w' ⟨passes, empty⟩
    exact ⟨passes.depth.trans shallower, fun _ => empty, passes.host, passes.overran⟩
  · refine maintains_of_ok (leaveBatch_inner fuel outermost) departed ?_ trivial
    exact ⟨shallower, fun one => absurd one outermost, le_refl _, fun beyond => beyond⟩

variable (may : Bool → Prop) (always : may true)
variable (hread : ∀ {loud : Bool} {s : Source} {w : World V C (Recorded V C H E)}, may loud →
  S.Within s → Coherent S Γ none w → Maintains S Γ loud (Passes w)
    (readSource Γ.recorded again s) w (S.Possible Γ s))
variable (hcall : ∀ {loud : Bool} {s : Script V C H E} {w : World V C (Recorded V C H E)}
  {Q : Option V → Prop}, may loud → s.Acts S Γ loud w.host.host Q → Coherent S Γ none w →
  Maintains S Γ loud (Passes w) (again (.script s.recorded)) w Q)

include plain nested hleave hexecute always hread hcall in
theorem maintains_exec {s : Script V C H E} (hmay : may loud)
    (acts : s.Acts S Γ loud host Q) (here : w.host.host = host)
    (h : Coherent S Γ none w) :
    Maintains S Γ loud (Passes w) (exec Γ.recorded again s.recorded) w Q := by
  induction acts generalizing w with
  | done result => exact maintains_of_ok rfl h (.refl w) result
  | raise => exact ⟨h, .refl w, .inl rfl⟩
  | look _ ih =>
    subst here
    have looked : Passes w { w with host := w.host.see none w.graph } :=
      ⟨rfl, fun _ hq => hq, le_refl _, fun beyond => beyond.later _⟩
    have next := ih w.graph h.sober.fits hmay (w := { w with host := w.host.see none w.graph }) rfl
      h.look
    exact next.mono (fun _ passes => looked.trans passes) fun _ result => result
  | @replace _ _ _ host' _ grows _ ih =>
    subst here
    have replaced : Passes w { w with host := { w.host with host := host' } } :=
      ⟨rfl, fun _ hq => hq, grows, fun beyond => beyond⟩
    exact (ih hmay rfl (h.replace grows)).mono (fun _ passes => replaced.trans passes)
      fun _ result => result
  | read within _ ih =>
    subst here
    exact (hread hmay within h).bind fun v w1 h1 passes possible =>
      ih v _ possible passes.host hmay rfl h1
  | write hi holds _ ih =>
    subst here
    exact (maintains_writeWire nested hleave plain hi holds h).bind fun _ w1 h1 passes _ =>
      ih _ passes.host hmay rfl h1
  | @newEffect _ l c _ _ _ action _ ih =>
    subst here
    have added : Passes w (w.update (·.addEffect l c)) :=
      ⟨rfl, fun _ hq => hq, le_refl _, fun beyond => beyond⟩
    refine ((hexecute (h.addEffect l action)).louder.bind fun _ w1 h1 passes _ => ?_).mono
      (fun _ passes => added.trans passes) fun _ result => result
    exact ih _ _ passes.host hmay rfl h1
  | @dispose _ i _ _ _ _ ih =>
    subst here
    have links := Graph.relinks_dispose w.graph i
    have gone : Passes w (w.dispose Γ.recorded i) :=
      ⟨links.depth, fun _ hq => links.queue.trans hq, plain.adds _ _ _,
        fun beyond => beyond.later _⟩
    exact (ih _ gone.host hmay rfl (h.dispose plain.adds i)).mono
      (fun _ passes => gone.trans passes) fun _ result => result
  | batch _ _ ihBody ihNext =>
    subst here
    have body := maintains_inBatch hleave h.depth (ihBody (w := w.update Graph.enter) hmay rfl h.enter)
    exact body.bind fun r w1 h1 passes result => ihNext r _ result passes.host hmay rfl h1
  | attempt _ _ ihBody ihNext =>
    subst here
    exact (ihBody always rfl h).attempt.bind fun r w1 h1 passes result =>
      ihNext r _ result passes.host hmay rfl h1
  | call code _ _ ih =>
    subst here
    exact (hcall hmay code h).bind fun r w1 h1 passes result => ih r _ result passes.host hmay rfl h1

end Parts

theorem perform_maintains (lawful : S.Lawful Γ) (n : Nat) :
    (∀ {loud : Bool} {s : Script V C H E} {w : World V C (Recorded V C H E)} {Q : Option V → Prop},
      s.Acts S Γ loud w.host.host Q → Coherent S Γ none w →
      Maintains S Γ loud (Passes w) (perform Γ.recorded n (.script s.recorded)) w Q) ∧
    (∀ {i : Nat} {w : World V C (Recorded V C H E)}, Coherent S Γ (some i) w →
      Maintains S Γ false (Passes w) (perform Γ.recorded n (.execute (.effect i))) w
        fun _ => True) ∧
    ∀ {w : World V C (Recorded V C H E)}, Coherent S Γ none w → 0 < w.graph.depth →
      Maintains S Γ false (Closes w) (perform Γ.recorded n .leave) w fun _ => True := by
  induction n with
  | zero => exact ⟨fun _ _ => trivial, fun _ => trivial, fun _ _ => trivial⟩
  | succ n ih =>
    obtain ⟨scripts, effects, leaves⟩ := ih
    have nested := perform_nested (S := S) lawful.adds lawful.arrange n
    refine ⟨fun acts h => ?_, fun h => ?_, fun h deep => ?_⟩
    · exact maintains_exec nested leaves lawful.plain effects (fun _ => True) trivial
        (fun _ => maintains_readSource lawful nested) (fun _ => scripts) trivial acts rfl h
    · exact (maintains_executeEffect lawful nested scripts h).still trivial
    · exact (maintains_leaveBatch lawful.plain effects (n * n) h deep).still trivial

end Run

end AttrBinder.Reactive
