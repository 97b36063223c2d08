import AttrBinder.Proofs.Binder.Wiring

/-!
Two-way binding. A page that has been built by generated statements for bound properties, by other
code that leaves the bound elements and cells alone, and by steps from outside, stays in step with
its cells: `gestures_in_sync` follows it along every sequence of such steps.
-/

namespace AttrBinder.Page

open Reactive (Graph)

theorem Runs.unique [Order] {α : Type} {m : Act α} {w w₁ w₂ : World} {a b : α} (first : Runs m w a w₁)
    (second : Runs m w b w₂) : w₁ = w₂ := by
  obtain ⟨n, first⟩ := first
  obtain ⟨l, second⟩ := second
  have same := (first (max n l) (Nat.le_max_left n l) fun _ => .done none).symm.trans
    (second (max n l) (Nat.le_max_right n l) fun _ => .done none)
  change Reactive.Outcome.ok none w₁ = Reactive.Outcome.ok none w₂ at same
  injection same

/-- Code has added to a page between the steps of its user, and has left alone what was there. -/
structure Extends (w w' : World) : Prop where
  stack : w'.graph.stack = w.graph.stack
  depth : w'.graph.depth = w.graph.depth
  queue : w'.graph.queue = w.graph.queue
  wires : ∀ j, j < w.graph.wires.size →
    j < w'.graph.wires.size ∧ w'.graph.wire j = w.graph.wire j
  effects : ∀ e, e < w.graph.effects.size → w'.graph.effect e = w.graph.effect e
  host : w.host.Grows w'.host
  nodes : ∀ i, i < w.host.nodes.size → i < w'.host.nodes.size ∧ w'.host.node i = w.host.node i

section Extends

variable {bs : List Binding} {w w' : World}

theorem Extends.attached (more : Extends w w') {b : Binding} (hb : b.Attached w) :
    b.Attached w' := by
  obtain ⟨cell, wire⟩ := more.wires b.cell hb.cell
  have effect := more.effects b.effect (Graph.effect_lt_of_not_disposed hb.live)
  exact ⟨hb.coded.mono more.host, more.host.functions _ _ hb.heard, (more.nodes _ hb.element).1, cell,
    wire ▸ hb.thawed, wire ▸ hb.holds, effect ▸ hb.body, effect ▸ hb.live, effect ▸ hb.idle,
    effect ▸ hb.reads⟩

theorem Bound.extend (bound : Bound bs w) (more : Extends w w') : Bound bs w' := by
  have wired := bound.wired
  have wire {b : Binding} (hb : b ∈ bs) : w'.graph.wire b.cell = w.graph.wire b.cell :=
    (more.wires b.cell (wired.attached b hb).cell).2
  have node {b : Binding} (hb : b ∈ bs) : w'.host.node b.element = w.host.node b.element :=
    (more.nodes b.element (wired.attached b hb).element).2
  refine ⟨⟨more.stack.trans wired.stack, more.depth.trans wired.depth, more.queue.trans wired.queue,
    fun b hb => more.attached (wired.attached b hb), wired.effects, wired.spots, fun b hb => ?_,
    fun b hb => ?_, fun b hb => ?_, fun b hb => ?_⟩, fun b hb => ?_⟩
  · rw [wire hb]
    exact wired.subscribers b hb
  · rw [node hb]
    exact wired.listeners b hb
  · rw [node hb]
    exact wired.unheard b hb
  · rw [node hb]
    exact wired.ticks b hb
  · rw [Shown, wire hb, node hb]
    exact bound.shown b hb

end Extends

section Calls

variable {c : Config} {source name : String} {lowered : List Lowered} {scope : Table Value}
variable {w : World}

theorem extends_host {h : Host} (grows : w.host.Grows h) (nodes : h.nodes = w.host.nodes) :
    Extends w ⟨w.graph, h⟩ where
  stack := rfl
  depth := rfl
  queue := rfl
  wires _ lt := ⟨lt, rfl⟩
  effects _ _ := rfl
  host := grows
  nodes _ lt := ⟨nodes ▸ lt, by rw [Host.node, nodes]; rfl⟩

theorem extends_called (c : Config) (lowered : List Lowered) (i : Nat) (w : World) :
    Extends w (called c lowered i w) :=
  extends_host (Host.grows_withFrame _ _) rfl

/-- The page on which a loader has kept the code of a list and has given its binder. -/
def loaded (name source : String) (l : Loader) (r : CompileResult) (m : Module)
    (scope : Table Value) (w : World) : World :=
  ⟨w.graph, instantiated l.config r.lowered source scope (withKept name source l r m w.host)⟩

theorem runs_load_new [Order] {l : Loader} (there : w.host.loaders.get? name = some l)
    (key : l.config.key?.isSome = true) (absent : l.cache.get? source = none)
    (made : Generates l.config source r) (generated : r.module = some m)
    (read : Module.read? (r.source ++ "\n") = some m) (runnable : m.isRunnable = true)
    (imported : imports scope = .ok ()) :
    Runs (Act.load name source scope) w (.function w.host.functions.size)
      (loaded name source l r m scope w) := by
  obtain rfl : m = (Generator.mk l.config fun _ => true).module r.lowered :=
    Option.some.inj (generated.symm.trans (Compile.module_eq made.compiled))
  exact runs_load there key (.new absent (runs_compileFor name made read runnable))
    (runs_instantiate imported ⟨w.graph, withKept name source l r _ w.host⟩)

theorem extends_loaded (name source : String) (l : Loader) (r : CompileResult) (m : Module)
    (scope : Table Value) (w : World) : Extends w (loaded name source l r m scope w) := by
  have stored : w.host.Grows (withKept name source l r m w.host) :=
    ⟨.refl _, .refl _, .refl _, .refl _, fun _ lt => ⟨lt, rfl⟩⟩
  have nodes : (instantiated l.config r.lowered source scope (withKept name source l r m w.host)).nodes =
      (withKept name source l r m w.host).nodes := rfl
  exact extends_host (stored.trans (grows_instantiated l.config r.lowered source scope _))
    (nodes.trans rfl)

end Calls

/-- The pages with bindings: nothing runs at first, other code adds to the page, the binders of lists of
bound properties are called on elements, and steps from outside change what the page shows. -/
inductive Built [Order] : List Binding → World → Prop where
  | start {w : World} : w.graph.stack = [] → w.graph.depth = 0 → w.graph.queue = [] → Built [] w
  | extend {bs : List Binding} {w w' : World} : Built bs w → Extends w w' → Built bs w'
  | bind {bs bs' : List Binding} {w w₁ w' : World} {o : ConfigOptions} {c : Config}
      {source : String} {r : CompileResult} {scope : Table Value} {m k i : Nat} {v : Value}
      (built : Built bs w) (accepted : Config.ofOptions o = .ok c)
      (compiled : (Compile.run c source).result = .ok r)
      (has : HasBinder c source r.lowered scope m k w.host)
      (still : (r.lowered.any fun l => l.attr.direct.yields) = false)
      (free : c.aliasName ∉ binderNames c r.lowered)
      (connects : Connects (siteOf c r.lowered m i w.host) r.lowered bs (called c r.lowered i w) bs' w₁)
      (runs : Runs (Call.invoke ⟨.function k, [.node i], []⟩) w v w') : Built bs' w'
  | gesture {bs : List Binding} {w w' : World} {g : Gesture} {r : Value} : Built bs w →
      Allows bs g → Runs g.act w r w' → Built bs w'

section Built

variable [Order] {bs bs' : List Binding} {w w' : World}

/-- The binder of a list of bound properties connects them all. -/
theorem runs_binder {o : ConfigOptions} (accepted : Config.ofOptions o = .ok c)
    (compiled : (Compile.run c source).result = .ok r)
    (has : HasBinder c source r.lowered scope m k w.host)
    (still : (r.lowered.any fun l => l.attr.direct.yields) = false)
    (free : c.aliasName ∉ binderNames c r.lowered)
    (connects : Connects (siteOf c r.lowered m i w.host) r.lowered bs (called c r.lowered i w) bs' w')
    (bound : Bound bs w) :
    Runs (Call.invoke ⟨.function k, [.node i], []⟩) w .none w' ∧ Bound bs' w' := by
  have names := Config.distinct_of_ofOptions accepted
  have own : ∀ l ∈ r.lowered, ∀ x ∈ (Stmt.surveyAll l.statements).bound,
      x ∈ binderNames c r.lowered := fun l mem x found =>
    List.mem_cons_of_mem _ ((Stmt.mem_bound_flatMap ..).mpr ⟨l, mem, found⟩)
  obtain ⟨runs, bound'⟩ := connects.runs names (open_called names has free i)
    (bound.extend (extends_called c r.lowered i w)) own fun l mem => Compile.not_starred compiled mem
  exact ⟨comes_binder (r := .ok ()) (Compile.generated compiled) has still runs, bound'⟩

theorem Built.bound (built : Built bs w) : Bound bs w := by
  induction built with
  | start stack depth queue =>
    exact ⟨⟨stack, depth, queue, nofun, .nil, nofun, nofun, nofun, nofun, nofun⟩, nofun⟩
  | extend _ more ih => exact ih.extend more
  | bind _ accepted compiled has still free connects runs ih =>
    obtain ⟨ran, bound⟩ := runs_binder accepted compiled has still free connects ih
    exact runs.unique ran ▸ bound
  | gesture _ allowed runs ih =>
    obtain ⟨_, w', ran, bound, -⟩ := ih.gesture allowed
    exact runs.unique ran ▸ bound

end Built

/-- Steps from outside, one after another: each ends, shows every binding, and comes to what it
should. -/
inductive InSync [Order] (bs : List Binding) : World → List Gesture → World → Prop where
  | nil (w : World) : InSync bs w [] w
  | cons {w w₁ w' : World} {g : Gesture} {gs : List Gesture} {r : Value} : Runs g.act w r w₁ →
      (∀ b ∈ bs, Shown b w₁) → Responds bs w w₁ g → InSync bs w₁ gs w' → InSync bs w (g :: gs) w'

/-- A list that binds one property to a name of the scope, called on an element. -/
theorem Built.call [Order] {bs : List Binding} {w : World} {l : Lowered} (built : Built bs w)
    (compiled : (Compile.run {} source).result = .ok r) (single : r.lowered = [l])
    (binds : l.attr.directive = .binding p span)
    (known : PropertyDescriptor.ofProperty? p = some d) (named : l.attr.expr = .name x)
    (own : x ∉ binderNames {} [l]) (helpers : "_wb" ∉ binderNames {} [l])
    (has : HasBinder {} source [l] scope m k w.host) (free : IsFree {} x)
    (once : (scope.map Prod.fst).Nodup)
    (cell : Builtins.resolve (scope.set "_wb" .supportModule) x = .ok (.wire j))
    (fresh : ∀ index, Fresh bs ((siteOf {} [l] m i w.host).binding index d.kind j (called {} [l] i w))
      (called {} [l] i w)) :
    ∃ index,
      let b := (siteOf {} [l] m i w.host).binding index d.kind j (called {} [l] i w)
      let w' := connected b w.host.frames.size (called {} [l] i w)
      Runs (Call.invoke ⟨.function k, [.node i], []⟩) w .none w' ∧ Built (b :: bs) w' := by
  have value : Runs (l.attr.expr.eval ⟨[w.host.frames.size], m⟩) (called {} [l] i w) (.wire j)
      (called {} [l] i w) := by
    have found := findsScope_called has (by decide) free once own i
    simp only [FindsScope, cell] at found
    exact named ▸ found
  have still : (r.lowered.any fun l => l.attr.direct.yields) = false := by
    simp [single, Attribute.direct, binds, named, Expr.survey, Survey.none]
  obtain ⟨index, _, known', number, -⟩ :=
    exists_binding (single ▸ Compile.generated compiled) (List.mem_singleton_self l) binds
  cases known.symm.trans known'
  have connects : Connects (siteOf {} [l] m i w.host) [l] bs (called {} [l] i w) _ _ :=
    .cons binds known number value (fresh index) .nil
  refine ⟨index, ?_⟩
  rw [← single] at has helpers connects ⊢
  obtain ⟨runs, -⟩ := runs_binder (o := {}) rfl compiled has still helpers connects built.bound
  exact ⟨runs, .bind (o := {}) built rfl compiled has still helpers connects runs⟩

/-- A page with two fields, a wire and a loader. -/
def fields : World where
  graph := { wires := #[{ value := .str "a" }] }
  host := {
    nodes := #[{ tag := "input" }, { tag := "input" }]
    loaders := [("b", { config := {} })] }

theorem readsBack_value : readsBack {} "(bind:value=w)" = true := by
  decide +kernel

end AttrBinder.Page
