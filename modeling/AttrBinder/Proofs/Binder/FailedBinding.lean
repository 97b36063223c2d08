import AttrBinder.Proofs.Binder.Connect
import AttrBinder.Proofs.Binder.Flush

/-!
Bindings that fail. What is bound and is no cell is refused before anything has happened. A cell whose
value does not become a property fails in the first run of the effect that shows it: no element has
changed and there is no listener, but the effect stays, subscribed to what the run has read.
-/

namespace AttrBinder.Page

open Reactive (Steps Run Graph)

/-! ## Cells -/

section Cells

variable [Order]

theorem runs_lookup (v : Value) (name : String) (cellMethod : name = "get" ∨ name = "set")
    (w : World) :
    ∃ u, Runs (Act.member? v name) w u w := by
  unfold Act.member?
  split
  · exact ⟨_, runs_pure _ _⟩
  · rcases cellMethod with rfl | rfl <;> cases v <;> exact ⟨_, (runs_look w).bind (runs_pure _ _)⟩

theorem runs_hasMethod (v : Value) (name : String) (cellMethod : name = "get" ∨ name = "set")
    (w : World) : ∃ b, Runs (Act.hasMethod v name) w b w := by
  obtain ⟨u, found⟩ := runs_lookup v name cellMethod w
  cases u with
  | none => exact ⟨false, found.bind (runs_pure _ _)⟩
  | some u => exact ⟨u.isCallable, found.bind (runs_pure _ _)⟩

theorem comes_requireCell (v : Value) (w : World) :
    Runs (Act.requireCell v) w v w ∨ Fails (Act.requireCell v) w (.notCell v.typeName) w := by
  obtain ⟨get, reads⟩ := runs_hasMethod v "get" (.inl rfl) w
  obtain ⟨set, writes⟩ := runs_hasMethod v "set" (.inr rfl) w
  cases get with
  | false => exact .inr (reads.fails (fails_fail _ w))
  | true =>
    cases set with
    | false => exact .inr (reads.fails (writes.fails (fails_fail _ w)))
    | true => exact .inl (reads.bind (writes.bind (runs_pure _ _)))

theorem fails_toNative_boolean (other : ∀ b, v ≠ .bool b) (w : World) :
    ∃ φ, Fails (Act.toNative .boolean v) w φ w := by
  have shows : (∃ s, Runs (Act.shown v) w s w) ∨ ∃ φ, Fails (Act.shown v) w φ w := by
    cases text : v.shown w.graph w.host maxNesting with
    | some s =>
      refine .inl ⟨s, (runs_look w).bind ?_⟩
      simp only [text]
      exact runs_pure _ _
    | none =>
      refine .inr ⟨.misuse .value, (runs_look w).fails ?_⟩
      simp only [text]
      exact fails_fail _ w
  have unfit : Act.toNative .boolean v = Act.shown v >>= fun s => Act.fail (.notBool v.typeName s) := by
    cases v with
    | bool b => exact absurd rfl (other b)
    | _ => rfl
  rw [unfit]
  rcases shows with ⟨s, runs⟩ | ⟨φ, fails⟩
  · exact ⟨_, runs.fails (fails_fail _ w)⟩
  · exact ⟨φ, fails.bind⟩

end Cells

/-! ## The first run of an effect -/

section Effect

variable [Order] {w w' : World} {φ : Failure}

theorem fails_newEffect (flat : w.graph.depth = 0)
    (failed : Fails (Call.invoke call)
      ⟨(w.graph.addEffect label call).begun w.graph.effects.size, w.host⟩ φ w') :
    Fails (Steps.newEffect label call) w φ
      ⟨w'.graph.pop.setRunning w.graph.effects.size false, w'.host⟩ := by
  let n := w.graph.effects.size
  let w₁ : World := w.update (·.addEffect label call)
  have added : w₁.graph.effect n = { label := label, body := call } := by
    rw [show w₁.graph = w.graph.addEffect label call from rfl, effect_addEffect, if_pos rfl]
  have present : n < w₁.graph.effects.size := by
    rw [show w₁.graph.effects.size = w.graph.effects.size + 1 from Array.size_push ..]
    exact Nat.lt_succ_self n
  obtain ⟨l, failed⟩ := failed
  refine ⟨l + 2, fun k le next => ?_⟩
  obtain ⟨k, rfl⟩ := Nat.exists_eq_add_of_le' (Nat.le_of_add_left_le le)
  have ran : Run.runTracked setting (Run.perform setting (k + 1)) (.effect n)
      ((w₁.update (·.setRunning n true)).update (·.countRun n)) =
        .raised φ ⟨w'.graph.pop, w'.host⟩ := by
    have begins : ((w₁.update (·.setRunning n true)).update (·.countRun n)).begin
        setting (.effect n) = ⟨w₁.graph.begun n, w.host⟩ := rfl
    have called : Run.perform setting (k + 1) (.script (setting.body
        ((⟨w₁.graph.begun n, w.host⟩ : World).graph.body (.effect n))))
          ⟨w₁.graph.begun n, w.host⟩ = .raised φ w' := by
      rw [Graph.body_begun present, added]
      exact failed k (by omega) _
    rw [Run.runTracked_apply, begins, Run.ensure_of_raised called]
    rfl
  have settled : Run.settle setting (Run.perform setting (k + 1)) n (Reactive.maxReruns + 1)
      (w₁.update (·.setRunning n true)) = .raised φ ⟨w'.graph.pop, w'.host⟩ := by
    rw [Run.settle_succ, Run.bind_of_raised ran]
  have executed : Run.executeEffect setting (Run.perform setting (k + 1)) n w₁ =
      .raised φ ⟨w'.graph.pop.setRunning n false, w'.host⟩ := by
    have outside : w₁.graph.depth = 0 := flat
    rw [Run.executeEffect_now (by rw [added]) (by rw [added]) (by omega), Run.runEffect_apply,
      Run.ensure_of_raised settled]
    rfl
  change ((Run.executeEffect setting (Run.perform setting (k + 1)) n >>= fun _ => pure none) >>=
    fun _ => Run.exec setting (Run.perform setting (k + 2)) (next n)) w₁ = _
  exact Run.bind_of_raised (Run.bind_of_raised executed)

end Effect

/-! ## The function that shows a cell -/

section Writer

variable [Order] {t : Site} {index : Int} {p : String} {d : PropertyDescriptor} {cell : Value}
variable {w w' : World} {φ : Failure}

/-- A cell fails to give a value, or gives one that does not become a property. -/
inductive Unconverted (kind : ValueKind) (cell : Value) (w : World) (φ : Failure) (w' : World) :
    Prop
  | unread {u : Value} {w₁ : World} (method : Runs (Act.member cell "get") w u w₁)
      (failed : Fails (Call.invoke ⟨u, [], []⟩) w₁ φ w')
  | unfit {u v : Value} {w₁ w₂ : World} (method : Runs (Act.member cell "get") w u w₁)
      (value : Runs (Call.invoke ⟨u, [], []⟩) w₁ v w₂)
      (failed : Fails (Act.toNative kind v) w₂ φ w')

def Site.shownFrame (t : Site) (cell : Value) : Frame where
  names := [t.config.elementName, Lowering.paramName t.config "cell"]
  values := [(t.config.elementName, .node t.element), (Lowering.paramName t.config "cell", cell)]

theorem fails_code {w w' : World}
    (code : w.host.functions[i]? = some (.code name params defaults (.block body) scope))
    (fits : params.bind? defaults args [] = some values)
    (still : (Stmt.surveyAll body).yields = false)
    (fails : Fails (Stmt.execAll ⟨w.host.frames.size :: scope.frames, scope.module⟩ body)
      { w with host := w.host.withFrame ⟨params.names ++ (Stmt.surveyAll body).bound, values⟩ }
      φ w') : Fails (Call.invoke ⟨.function i, args, []⟩) w φ w' := by
  refine (runs_host w).fails ?_
  simp only [code, Act.applyCode, fits, Code.survey, still, Bool.false_eq_true, if_false]
  exact (runs_newFrame _ _ w).fails fails.bind

theorem fails_writer (names : t.config.Distinct) (opened : t.Open w.host)
    (code : w.host.functions[k]? = some (t.writer index p d cell))
    (unconverted : Unconverted d.kind cell ⟨w.graph, w.host.withFrame (t.shownFrame cell)⟩ φ w') :
    Fails (Call.invoke ⟨.function k, [], []⟩) w φ w' := by
  let s : Scope := ⟨w.host.frames.size :: t.scope.frames, t.scope.module⟩
  let w₀ : World := ⟨w.graph, w.host.withFrame (t.shownFrame cell)⟩
  have ne := names.element_ne_param "cell"
  have element : Runs ((Lowering.element t.config).eval s) w₀ (.node t.element) w₀ :=
    runs_name_frame (Host.lookupFrames_own (by simp [Site.shownFrame])
      (by simp [Site.shownFrame, Table.get?]))
  have own : Runs ((Expr.name (Lowering.paramName t.config "cell")).eval s) w₀ cell w₀ :=
    runs_name_frame (Host.lookupFrames_own (by simp [Site.shownFrame])
      (by simp [Site.shownFrame, Table.get?, ne]))
  have helpers : Runs ((Expr.name t.config.aliasName).eval s) w₀ .supportModule w₀ :=
    runs_name_module (opened.scene.unseen.lookupFrames_push
      (by simp [Site.shownFrame, names.element.symm, alias_ne_param])) opened.scene.support
  have converter := runs_helperName (f := .toNative d.kind) helpers
  have native : Fails ((Lowering.helper t.config (Support.toNative d.kind).name
      [(Expr.name (Lowering.paramName t.config "cell")).method "get" []]).eval s) w₀ φ w' := by
    cases unconverted with
    | unread method failed =>
      exact fails_apply converter (Fails.items (by simp [Expr.method, Expr.apply])
        (comes_apply (r := .error φ) (runs_memberOf own method) (runs_evalItems_nil _) failed))
    | unfit method value failed =>
      have got : Runs (((Expr.name (Lowering.paramName t.config "cell")).method "get" []).eval s) w₀
          _ _ := comes_apply (r := .ok _) (runs_memberOf own method) (runs_evalItems_nil _) value
      exact comes_apply (r := .error φ) converter
        (runs_evalItems_cons (by simp [Expr.method, Expr.apply]) got (runs_evalItems_nil _)) failed
  have fits : Params.bind? (.ordinaryOnly
      [.mk t.config.elementName (some (Lowering.element t.config)),
        .mk (Lowering.paramName t.config "cell") (some (.name (t.own "cell" index)))])
      [(t.config.elementName, .node t.element), (Lowering.paramName t.config "cell", cell)] [] [] =
        some (t.shownFrame cell).values := by
    simp [Params.bind?, Params.ordinaryOnly, Params.takeKeywords, Params.fill, Table.get?, Table.set,
      Param.name, Site.shownFrame, ne]
  refine fails_code code fits rfl (fails_execAll (comes_evaluate (r := .error φ) ?_))
  rw [d.kind.toNative_eq]
  exact fails_apply (runs_memberOf element (runs_member rfl))
    (Runs.fails_items (fun _ eq => by cases eq) (runs_text p w₀)
      (Fails.items (by simp [Lowering.helper, Expr.method, Expr.apply]) native))

end Writer

/-! ## The binder of one binding -/

/-- The page on which the function that shows a cell runs for the first time. -/
def Site.first (t : Site) (index : Int) (p : String) (d : PropertyDescriptor) (cell : Value)
    (w : World) : World where
  graph := (w.graph.addEffect (.named (t.own "bind" index))
    ⟨.function w.host.functions.size, [], []⟩).begun w.graph.effects.size
  host := (t.prepared index p d cell w.host).withFrame (t.shownFrame cell)

def abandoned (e : Nat) (w : World) : World :=
  ⟨w.graph.pop.setRunning e false, w.host⟩

/-- What a binding to a wire leaves when its first run fails: no element has changed, and among the
wires and deriveds only this wire has one more subscriber. But this one is an effect that shows the
wire in the element as soon as it can. -/
structure Remains [Order] (i j : Nat) (w w' : World) : Prop where
  nodes : w'.host.nodes = w.host.nodes
  deriveds : w'.graph.deriveds = w.graph.deriveds
  subscribed : (w'.graph.wire j).subscribers =
    (w.graph.wire j).subscribers ++ [.effect w.graph.effects.size]
  wires : ∀ k ≠ j, w'.graph.wire k = w.graph.wire k
  effects : ∀ e ≠ w.graph.effects.size, w'.graph.effect e = w.graph.effect e
  shows : ∀ b, ∃ w'', Performs (.execute (.effect w.graph.effects.size))
    ⟨w'.graph.setValue j (.bool b), w'.host⟩ none w'' ∧
      (w''.host.node i).properties.get? "checked" = some (.bool b)

section First

variable [Order] {t : Site} {index : Int} {p : String} {d : PropertyDescriptor} {cell : Value}
variable {e : Expr} {w w₁ w' : World} {φ : Failure}

theorem fails_binding_unconverted (opened : t.Open w.host) (names : t.config.Distinct)
    (own : ∀ role ∈ ["cell", "bind", "listen"], t.own role index ∈ t.names)
    (plain : ∀ x, e ≠ .starred x) (value : Runs (e.eval t.scope) w cell w₁)
    (fits : Runs (Act.requireCell cell) w₁ cell w₁) (still : t.Open w₁.host)
    (flat : w₁.graph.depth = 0)
    (unconverted : Unconverted d.kind cell (t.first index p d cell w₁) φ w') :
    Fails (Stmt.execAll t.scope (Lowering.binding t.config index p d e)) w φ
      (abandoned w₁.graph.effects.size w') :=
  comes_binding (r := .error φ) opened names own plain value fits still (fails_newEffect flat
    (fails_writer names (still.prepared names) (t.function_prepared w₁.host) unconverted)) nofun

theorem unconverted_wire (t : Site) (index : Int) (p : String) (d : PropertyDescriptor)
    (there : j < w.graph.wires.size)
    (other : ∀ b, (w.graph.wire j).value ≠ .bool b) :
    ∃ φ, Unconverted .boolean (.wire j) (t.first index p d (.wire j) w) φ
      ((t.first index p d (.wire j) w).update (·.track (.wire j))) := by
  let g := w.graph.addEffect (.named (t.own "bind" index)) ⟨.function w.host.functions.size, [], []⟩
  have size : (t.first index p d (.wire j) w).graph.wires.size = w.graph.wires.size :=
    Graph.size_begun g _
  have held : ((t.first index p d (.wire j) w).graph.wire j).value = (w.graph.wire j).value :=
    Graph.value_begun g _ j
  obtain ⟨φ, failed⟩ := fails_toNative_boolean
    (v := ((t.first index p d (.wire j) w).graph.wire j).value)
    (fun b => by rw [held]; exact other b)
    ((t.first index p d (.wire j) w).update (·.track (.wire j)))
  have read := runs_wire_get (w := t.first index p d (.wire j) w) (j := j)
    (by rw [size]; exact there)
  exact ⟨φ, .unfit (runs_member rfl) read failed⟩

omit [Order] in
theorem Site.nodes_first (t : Site) :
    (t.first index p d cell w).host.nodes = w.host.nodes := by
  simp only [first, prepared, define, Host.setLocal, Host.withFunction, Host.withFrame]

theorem remains_abandoned (names : t.config.Distinct) (still : t.Open w.host)
    (flat : w.graph.depth = 0) (there : j < w.graph.wires.size) (element : t.element < w.host.nodes.size)
    (apart : .effect w.graph.effects.size ∉ (w.graph.wire j).subscribers) :
    Remains t.element j w (abandoned w.graph.effects.size
      ((t.first index "checked" ⟨"change", .boolean⟩ (.wire j) w).update (·.track (.wire j)))) := by
  let n := w.graph.effects.size
  let call : Call := ⟨.function w.host.functions.size, [], []⟩
  let g := w.graph.addEffect (.named (t.own "bind" index)) call
  have added := effect_addEffect w.graph (.named (t.own "bind" index)) call
  have new : g.effect n = { label := .named (t.own "bind" index), body := call } := by
    rw [added, if_pos rfl]
  have present : n < g.effects.size := by
    rw [show g.effects.size = w.graph.effects.size + 1 from Array.size_push ..]
    exact Nat.lt_succ_self n
  have graph : (abandoned n ((t.first index "checked" ⟨"change", .boolean⟩ (.wire j) w).update
      (·.track (.wire j)))).graph = g.reran n j :=
    Graph.track_begun present (.inr ⟨by rw [new], apart⟩)
  have wire (k : Nat) := Graph.wire_reran g n j k
  have effect (e : Nat) := Graph.effect_reran g n j e
  have alone : (w.graph.wire j).subscribers.filter (· ≠ .effect n) = (w.graph.wire j).subscribers :=
    List.filter_eq_self.mpr fun x mem => by simpa using fun eq : x = .effect n => apart (eq ▸ mem)
  refine ⟨t.nodes_first, by rw [graph]; rfl, ?_, fun k ne => ?_, fun e ne => ?_, fun b => ?_⟩
  · rw [graph, wire, if_pos ⟨rfl, there⟩]
    exact congrArg (· ++ [.effect n]) alone
  · rw [graph, wire, if_neg fun both => ne both.1.symm]
    rfl
  · rw [graph, effect, if_neg fun both => ne both.1.symm]
    exact (added e).trans (if_neg ne)
  · have coded := (Site.coded_prepared names still
      (show PropertyDescriptor.ofProperty? "checked" = _ from rfl) index j).mono
        (Host.grows_withFrame _ (t.shownFrame (.wire j)))
    have size : (g.reran n j).wires.size = w.graph.wires.size := Array.size_modify
    have value : (((g.reran n j).setValue j (.bool b)).wire j).value = .bool b := by
      rw [Graph.wire_setValue, if_pos ⟨rfl, size ▸ there⟩]
    have again : ((g.reran n j).setValue j (.bool b)).effect n = _ :=
      (effect n).trans (if_pos ⟨rfl, present⟩)
    have inside : t.element < ((t.first index "checked" ⟨"change", .boolean⟩ (.wire j) w).host.withFrame
        (t.binding index .boolean j w).writerFrame).nodes.size := by
      simpa only [Host.withFrame, t.nodes_first] using element
    rw [graph]
    refine ⟨_, performs_effect (b := t.binding index .boolean j w) coded flat ?_ ?_ ?_ ?_ ?_ ?_, ?_⟩
    · exact lt_of_lt_of_eq (lt_of_lt_of_eq there size.symm) Array.size_modify.symm
    · exact ⟨b, value⟩
    · exact (congrArg Reactive.Effect.body again).trans (congrArg Reactive.Effect.body new)
    · exact (congrArg Reactive.Effect.disposed again).trans (congrArg Reactive.Effect.disposed new)
    · exact congrArg Reactive.Effect.running again
    · exact .inl (congrArg Reactive.Effect.dependencies again)
    · change ((Host.modifyNode _ _ _).node t.element).properties.get? _ = _
      rw [Host.node_modifyNode, if_pos ⟨rfl, inside⟩]
      exact (Table.get?_set_self _ _ _).trans (congrArg some value)

end First

/-- A binding that fails. If what is bound cannot be evaluated or is no cell, the binder fails there
and has done nothing. If the first conversion of the cell fails, the binder fails as well, but the
effect that shows the cell is kept: bound to a wire, it has subscribed to the wire, and the element
shows the wire once it holds a boolean. -/
theorem failed_binding_remains [Order] {o : ConfigOptions} (accepted : Config.ofOptions o = .ok c)
    {r : CompileResult} (compiled : (Compile.run c source).result = .ok r) {l : Lowered}
    (single : r.lowered = [l]) (binds : l.attr.directive = .binding p span) {w : World}
    (has : HasBinder c source [l] scope m k w.host) (still : l.attr.direct.yields = false)
    (free : c.aliasName ∉ binderNames c [l]) (i : Nat) :
    let t := siteOf c [l] m i w.host
    let fails := Fails (Call.invoke ⟨.function k, [.node i], []⟩) w
    (∀ φ w', Fails (l.attr.expr.eval t.scope) (called c [l] i w) φ w' → fails φ w') ∧
    ∀ v w₁, Runs (l.attr.expr.eval t.scope) (called c [l] i w) v w₁ →
      (Runs (Act.requireCell v) w₁ v w₁ ∨ fails (.notCell v.typeName) w₁) ∧
      (Runs (Act.requireCell v) w₁ v w₁ → t.Open w₁.host → w₁.graph.depth = 0 →
        ∃ index d, PropertyDescriptor.ofProperty? p = some d ∧
          (∀ φ w', Unconverted d.kind v (t.first index p d v w₁) φ w' →
            fails φ (abandoned w₁.graph.effects.size w')) ∧
          ∀ j, v = .wire j → p = "checked" → j < w₁.graph.wires.size → i < w₁.host.nodes.size →
            (∀ b, (w₁.graph.wire j).value ≠ .bool b) →
            .effect w₁.graph.effects.size ∉ (w₁.graph.wire j).subscribers →
              ∃ φ w', fails φ w' ∧ Remains i j w₁ w') := by
  intro t fails
  have names : c.Distinct := Config.distinct_of_ofOptions accepted
  have made : Compile.Generated c [l] := single ▸ Compile.generated compiled
  have plain : ∀ x, l.attr.expr ≠ .starred x :=
    Compile.not_starred compiled (single ▸ List.mem_singleton_self l)
  have opened : t.Open (called c [l] i w).host := open_called names has free i
  obtain ⟨index, d, known, -, statements, own⟩ := exists_binding made (List.mem_singleton_self l) binds
  have attached {φ : Failure} {w' : World} (failed : Fails (Stmt.execAll t.scope
      (Lowering.binding c index p d l.attr.expr)) (called c [l] i w) φ w') : fails φ w' := by
    refine comes_binder (r := .error φ) made has (by simp [still]) ?_
    rw [List.flatMap_singleton, statements]
    exact failed
  refine ⟨fun φ w' failed => attached (fails_binding opened plain failed),
    fun v w₁ value => ⟨?_, fun cell still flat => ⟨index, d, known, ?_, ?_⟩⟩⟩
  · rcases comes_requireCell v w₁ with cell | refused
    · exact .inl cell
    · exact .inr (attached (fails_binding_cell opened plain value refused))
  · exact fun φ w' failed => attached
      (fails_binding_unconverted opened names own plain value cell still flat failed)
  · rintro j rfl rfl there element other apart
    cases known
    obtain ⟨φ, failed⟩ := unconverted_wire t index "checked" _ there other
    exact ⟨φ, _, attached (fails_binding_unconverted opened names own plain value cell still flat
      failed), remains_abandoned names still flat there element apart⟩

open Page.Order in
/-- A wire that holds a text, bound to a property that holds a boolean. -/
theorem failed_binding_remains_text : ∃ r φ w',
    (Compile.run {} "(bind:checked=w)").result = .ok r ∧
      Fails (Call.invoke ⟨.function 0, [.node 0], []⟩) (boundPage "(bind:checked=w)" r) φ w' ∧
      Remains 0 0 (called {} r.lowered 0 (boundPage "(bind:checked=w)" r)) w' := by
  obtain ⟨r, l, span, compiled, lowered, directive, expr, own, helpers⟩ :=
    exists_of_isNamedBinding "(bind:checked=w)" "checked" "w" (by decide +kernel)
  let w := boundPage "(bind:checked=w)" r
  have has : HasBinder {} "(bind:checked=w)" [l] outerNames 0 0 w.host := ⟨lowered ▸ rfl, rfl⟩
  have opened := open_called ⟨by decide, by decide, by decide⟩ has helpers 0
  have value : Runs (l.attr.expr.eval ⟨[w.host.frames.size], 0⟩) (called {} [l] 0 w) (.wire 0)
      (called {} [l] 0 w) := by
    rw [expr]
    exact findsScope_called has (by decide) ⟨by decide, by decide, by decide⟩ (by decide) own 0
  have outcome := (failed_binding_remains (o := {}) rfl compiled lowered directive has
    (by simp [Attribute.direct, directive, expr, Expr.survey, Survey.none]) helpers 0).2 (.wire 0) (called {} [l] 0 w) value
  obtain ⟨-, -, -, -, remains⟩ := outcome.2 (runs_requireCell 0 _) opened rfl
  obtain ⟨φ, w', fails, left⟩ := remains 0 rfl rfl Nat.zero_lt_one Nat.zero_lt_one
    (fun _ eq => by cases eq) fun found => by cases found
  exact ⟨r, φ, w', compiled, fails, lowered ▸ left⟩

open Page.Order in
/-- What is subscribed to a wire after the binder of a list has failed on an element, and whether the
element is checked after the wire has been set. -/
def leftAfter? (source : String) : Option (List Reactive.Tracker × Option Bool) :=
  match (Compile.run {} source).result with
  | .error _ => none
  | .ok r =>
    match Run.perform setting 60 (.script (Call.script ⟨.function 0, [.node 0], []⟩))
        (boundPage source r) with
    | .raised _ w =>
      let later := Run.perform setting 60
        (.script (Call.script ⟨.method (.wire 0) "set", [.bool true], []⟩)) w
      some ((w.graph.wire 0).subscribers,
        match (later.world.host.node 0).properties.get? "checked" with
        | some (.bool b) => some b
        | _ => none)
    | _ => none

/-- A failed binding leaves a subscriber, which sets the property later. -/
theorem failed_binding_shows : leftAfter? "(bind:checked=w)" = some ([.effect 0], some true) := by
  decide +kernel

end AttrBinder.Page
