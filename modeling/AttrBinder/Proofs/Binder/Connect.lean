import AttrBinder.Proofs.Binder.Siblings

/-!
What the code of a binding comes to. The statements that are generated for a bound property require a
cell, create the effect that shows it, and register the listener; they fail as the expression, the
requirement or the effect fails. A binder comes to what its statements come to, where it finds its
element and its helpers (`Site.Open`).
-/

namespace AttrBinder.Page

open Reactive (Steps Run)

section Comes

variable [Order]

def Comes {α : Type} (m : Act α) (w : World) : Except Failure α → World → Prop
  | .ok a, w' => Runs m w a w'
  | .error f, w' => Fails m w f w'

variable {α β : Type} {m : Act α} {w w' w'' : World} {a : α} {f : Failure}

theorem Runs.comes (first : Runs m w a w')
    (second : Comes (g a) w' r w'') : Comes (m >>= g) w r w'' := by
  cases r with
  | ok b => exact Runs.bind first second
  | error f => exact Runs.fails first second

theorem Comes.map (comes : Comes m w r w') (g : α → β) :
    Comes (m >>= fun a => pure (g a)) w (r.map g) w' := by
  cases r with
  | ok a => exact Runs.bind comes (runs_pure _ _)
  | error f => exact Fails.bind comes

theorem Fails.call {callee : Value} {args : List Value} {keywords : Table Value}
    (fails : Fails (Call.invoke ⟨callee, args, keywords⟩) w f w') :
    Fails (Act.call callee args keywords) w f w' := by
  obtain ⟨n, fails⟩ := fails
  refine ⟨n + 1, fun k le next => ?_⟩
  obtain ⟨k, rfl⟩ := Nat.exists_eq_add_of_le' (Nat.le_of_add_left_le le)
  change (Run.perform setting (k + 1) (.script (Call.script ⟨callee, args, keywords⟩)) >>= fun r =>
    Run.exec setting (Run.perform setting (k + 1)) (next (r.getD .none))) w = _
  rw [Run.bind_apply, show Run.perform setting (k + 1) (.script (Call.script ⟨callee, args,
    keywords⟩)) w = .raised f w' from fails k (by omega) _]

theorem Comes.call {callee : Value} {args : List Value} {r : Except Failure Value}
    (comes : Comes (Call.invoke ⟨callee, args, []⟩) w r w') :
    Comes (Act.call callee args []) w r w' := by
  cases r with
  | ok v => exact Runs.call comes
  | error f => exact Fails.call comes

section Calls

variable {s : Scope} {e : Expr} {es : List Expr} {v : Value} {vs : List Value} {w₁ w₂ : World}

theorem Fails.items (plain : ∀ x, e ≠ .starred x) (fails : Fails (e.eval s) w f w') :
    Fails (Expr.evalItems s (e :: es)) w f w' := by
  rw [Expr.evalItems]
  · exact fails.bind
  · exact plain

theorem Runs.fails_items (plain : ∀ x, e ≠ .starred x) (first : Runs (e.eval s) w v w')
    (fails : Fails (Expr.evalItems s es) w' f w'') :
    Fails (Expr.evalItems s (e :: es)) w f w'' := by
  rw [Expr.evalItems]
  · exact first.fails fails.bind
  · exact plain

theorem comes_apply (callee : Runs (e.eval s) w v w')
    (items : Runs (Expr.evalItems s es) w' vs w₁)
    (called : Comes (Call.invoke ⟨v, vs, []⟩) w₁ r w₂) : Comes ((e.apply es).eval s) w r w₂ := by
  rw [Expr.apply, Expr.eval]
  refine callee.comes (items.comes ?_)
  rw [Expr.evalKeywords]
  exact (runs_pure _ _).comes called.call

theorem fails_apply (callee : Runs (e.eval s) w v w')
    (items : Fails (Expr.evalItems s es) w' f w'') : Fails ((e.apply es).eval s) w f w'' := by
  rw [Expr.apply, Expr.eval]
  exact callee.fails items.bind

theorem runs_memberOf (value : Runs (e.eval s) w v w')
    (method : Runs (Act.member v name) w' u w'') : Runs ((e.member name).eval s) w u w'' := by
  rw [Expr.eval]
  exact value.bind method

theorem comes_evaluate (comes : Comes (e.eval s) w r w') :
    Comes (Stmt.exec s (.evaluate e)) w (r.map fun _ => ()) w' := by
  rw [Stmt.exec]
  exact comes.map fun _ => ()

theorem fails_execAll {x : Stmt} (fails : Fails (x.exec s) w f w') :
    Fails (Stmt.execAll s (x :: rest)) w f w' := by
  rw [Stmt.execAll]
  exact fails.bind

theorem comes_execAll {x : Stmt} (first : Runs (x.exec s) w () w')
    (more : Comes (Stmt.execAll s rest) w' r w'') :
    Comes (Stmt.execAll s (x :: rest)) w r w'' := by
  rw [Stmt.execAll]
  exact first.comes more

theorem Comes.last {x : Stmt} {r : Except Failure Unit} (comes : Comes (x.exec s) w r w') :
    Comes (Stmt.execAll s [x]) w r w' := by
  cases r with
  | error f => exact fails_execAll comes
  | ok _ => exact runs_execAll_cons comes (runs_execAll_nil _)

end Calls

end Comes

/-- Where a binder runs: in a scope, with the variables of a frame, on an element. -/
structure Site where
  config : Config
  scope : Scope
  frame : Nat
  element : Nat
  names : List String

namespace Site

variable (t : Site)

/-- The binder finds its element and the helpers on a page, and has its variables. -/
structure Open (h : Host) : Prop where
  scene : Scene t.config t.scope t.frame t.element h
  names : (h.frames.getD t.frame default).names = t.names

def own (role : String) (index : Int) : String :=
  Lowering.localName t.config role index

def define (x : String) (code : Callable) (h : Host) : Host :=
  (h.withFunction code).setLocal t.frame x (.function h.functions.size)

def writer (index : Int) (p : String) (d : PropertyDescriptor) (cell : Value) : Callable :=
  .code (t.own "bind" index)
    (.ordinaryOnly [.mk t.config.elementName (some (Lowering.element t.config)),
      .mk (Lowering.paramName t.config "cell") (some (.name (t.own "cell" index)))])
    [(t.config.elementName, .node t.element), (Lowering.paramName t.config "cell", cell)]
    (.block [.evaluate ((Lowering.element t.config).method "set_property"
      [.text p, Lowering.helper t.config d.kind.toNative
        [(Expr.name (Lowering.paramName t.config "cell")).method "get" []]])])
    t.scope

def listener (index : Int) (p : String) (d : PropertyDescriptor) (cell : Value) : Callable :=
  .code (t.own "listen" index)
    (.ordinaryOnly [.mk (Lowering.paramName t.config "event") none,
      .mk (Lowering.paramName t.config "cell") (some (.name (t.own "cell" index)))])
    [(Lowering.paramName t.config "cell", cell)]
    (.block [.evaluate ((Expr.name (Lowering.paramName t.config "cell")).method "set"
      [Lowering.helper t.config d.kind.fromNative
        [Lowering.helper t.config "event_target_property"
          [.name (Lowering.paramName t.config "event"), .text p]]])])
    t.scope

/-- The page on which the binder knows a cell and the function that shows it. -/
def prepared (index : Int) (p : String) (d : PropertyDescriptor) (cell : Value) (h : Host) : Host :=
  t.define (t.own "bind" index) (t.writer index p d cell)
    (h.setLocal t.frame (t.own "cell" index) cell)

def heard (index : Int) (p : String) (d : PropertyDescriptor) (cell : Value) (h : Host) : Host :=
  (t.define (t.own "listen" index) (t.listener index p d cell) h).modifyNode t.element
    (·.addListener d.event (.function h.functions.size))

def bound (index : Int) (p : String) (d : PropertyDescriptor) (cell : Value) (w : World) :
    Except Failure Nat → World
  | .ok _ => ⟨w.graph, t.heard index p d cell w.host⟩
  | .error _ => w

def newEffect (x : String) (h : Host) : Act Nat :=
  Steps.newEffect (.named x) ⟨.function h.functions.size, [], []⟩

end Site

section Open

variable {t : Site} {index : Int}

theorem Site.Open.setLocal {h : Host} (opened : t.Open h) (names : t.config.Distinct)
    (role : String) (v : Value) : t.Open (h.setLocal t.frame (t.own role index) v) where
  scene := opened.scene.setLocal (names.element_ne_local role index)
  names := by rw [← opened.names, Host.frame_setLocal]; split <;> rfl

theorem Site.Open.define (opened : t.Open h) (names : t.config.Distinct)
    (role : String) (code : Callable) : t.Open (t.define (t.own role index) code h) :=
  Site.Open.setLocal ⟨opened.scene.withFunction code, opened.names⟩ names role _

theorem Site.Open.prepared (opened : t.Open h) (names : t.config.Distinct) :
    t.Open (t.prepared index p d cell h) :=
  (opened.setLocal names "cell" cell).define names "bind" _

theorem Site.function_prepared (t : Site) (h : Host) :
    (t.prepared index p d cell h).functions[h.functions.size]? = some (t.writer index p d cell) :=
  Host.function_withFunction (h.setLocal t.frame (t.own "cell" index) cell) _

/-- The binding of a property to a wire, with the numbers that it gets on a page. -/
def Site.binding (t : Site) (index : Int) (kind : ValueKind) (j : Nat) (w : World) : Binding where
  kind := kind
  element := t.element
  cell := j
  config := t.config
  index := index
  scope := t.scope
  effect := w.graph.effects.size
  writer := w.host.functions.size
  listener := w.host.functions.size + 1

theorem Site.writer_eq (t : Site) (known : PropertyDescriptor.ofProperty? p = some d) (w : World) :
    t.writer index p d (.wire j) = (t.binding index d.kind j w).writerCode := by
  rw [writer, d.kind.toNative_eq, (PropertyDescriptor.eq_of_ofProperty? known).1]
  rfl

theorem Site.listener_eq (t : Site) (known : PropertyDescriptor.ofProperty? p = some d) (w : World) :
    t.listener index p d (.wire j) = (t.binding index d.kind j w).listenerCode := by
  rw [listener, d.kind.fromNative_eq, (PropertyDescriptor.eq_of_ofProperty? known).1]
  rfl

theorem Site.coded_prepared (names : t.config.Distinct) (opened : t.Open w.host)
    (known : PropertyDescriptor.ofProperty? p = some d) (index : Int) (j : Nat) :
    (t.binding index d.kind j w).Coded (t.prepared index p d (.wire j) w.host) where
  names := names
  writer := t.writer_eq known w ▸ t.function_prepared w.host
  unseen := (opened.prepared names).scene.unseen
  module := (opened.prepared names).scene.module
  support := (opened.prepared names).scene.support

end Open

section Statements

variable [Order] {t : Site} {index : Int} {e : Expr} {w w' : World}

theorem runs_method_of (scene : Scene c s f i w.host)
    (has : (Value.node i).methods.contains name = true) :
    Runs ((Expr.member (Lowering.element c) name).eval s) w (.method (.node i) name) w :=
  runs_memberOf (runs_element scene) (runs_member has)

theorem comes_register (opened : t.Open w.host) (plain : ∀ x, e ≠ .starred x)
    (value : Runs (e.eval t.scope) w v w₁)
    (registered : Comes (Act.registerEvent t.element name v) w₁ r w') :
    Comes (Stmt.exec t.scope (.evaluate ((Lowering.element t.config).method "register_event"
      [.text name, e]))) w r w' := by
  have called : Comes (Call.invoke ⟨.method (.node t.element) "register_event", [.str name, v], []⟩)
      w₁ (r.map fun _ => .none) w' := by
    refine (runs_look w₁).comes ?_
    change Comes (Act.namedMethod t.element "register_event" (Text.Wide.replaced name) [v]) w₁ _ _
    rw [Text.Wide.replaced_ofString]
    exact registered.map fun _ => Value.none
  have whole := comes_evaluate (comes_apply (runs_method_of opened.scene rfl)
    (runs_evalItems_cons (e := .text name) (fun _ => nofun) (runs_text name w)
      (runs_evalItems_cons plain value (runs_evalItems_nil w₁))) called)
  cases r <;> exact whole

theorem comes_create (opened : t.Open w.host) (names : t.config.Distinct)
    (own : t.own role index ∈ t.names)
    (effect : Comes (Site.newEffect (t.own role index) w.host) ⟨w.graph, t.define (t.own role index)
      (.code (t.own role index) params defaults body s) w.host⟩ r w') :
    Comes (Stmt.exec t.scope (.evaluate (Lowering.helper t.config "create_effect"
        [.name (t.own role index)]))) ⟨w.graph, t.define (t.own role index)
        (.code (t.own role index) params defaults body s) w.host⟩ (r.map fun _ => ()) w' := by
  let code : Callable := .code (t.own role index) params defaults body s
  let w₁ : World := ⟨w.graph, t.define (t.own role index) code w.host⟩
  have opened₁ : t.Open w₁.host := opened.define names role code
  have function : Runs ((Expr.name (t.own role index)).eval t.scope) w₁
      (.function w.host.functions.size) w₁ :=
    runs_local opened₁.scene (opened₁.names ▸ own)
      (opened.scene.withFunction code).get?_setLocal_self
  have label : Runs (Act.labelOf (.function w.host.functions.size)) w₁
      (.named (t.own role index)) w₁ := by
    refine (runs_host w₁).bind ?_
    have there : w₁.host.functions[w.host.functions.size]? = some code :=
      w.host.function_withFunction code
    simp only [there, code]
    exact runs_pure _ _
  have created : Comes (Call.invoke ⟨.support .createEffect, [.function w.host.functions.size], []⟩)
      w₁ (r.map Value.effect) w' :=
    label.comes (effect.map Value.effect)
  have whole := comes_evaluate (comes_apply (runs_helperName (runs_alias opened₁.scene))
    (runs_evalItems_cons (e := .name (t.own role index)) (fun _ => nofun) function
      (runs_evalItems_nil _)) created)
  cases r <;> exact whole

theorem comes_require (opened : t.Open w.host) (plain : ∀ x, e ≠ .starred x)
    (value : Runs (e.eval t.scope) w v w₁)
    (required : Comes (Act.requireCell v) w₁ r w') :
    Comes ((Lowering.helper t.config "require_cell" [e]).eval t.scope) w r w' :=
  comes_apply (runs_helperName (f := .requireCell) (runs_alias opened.scene))
    (runs_evalItems_cons plain value (runs_evalItems_nil w₁)) required

theorem comes_binding (opened : t.Open w.host) (names : t.config.Distinct)
    (own : ∀ role ∈ ["cell", "bind", "listen"], t.own role index ∈ t.names)
    (plain : ∀ x, e ≠ .starred x) (value : Runs (e.eval t.scope) w v w₁)
    (cell : Runs (Act.requireCell v) w₁ v w₂)
    (still : t.Open w₂.host) (effect : Comes (Site.newEffect (t.own "bind" index) w₂.host)
      ⟨w₂.graph, t.prepared index p d v w₂.host⟩ r w')
    (kept : ∀ n, r = .ok n → t.Open w'.host ∧
      (w'.host.frames.getD t.frame default).values.get? (t.own "cell" index) = some v) :
    Comes (Stmt.execAll t.scope (Lowering.binding t.config index p d e)) w (r.map fun _ => ())
      (t.bound index p d v w' r) := by
  let w₃ : World := ⟨w₂.graph, w₂.host.setLocal t.frame (t.own "cell" index) v⟩
  have opened₃ : t.Open w₃.host := still.setLocal names "cell" v
  have assigned : Runs (Stmt.exec t.scope (.assign (t.own "cell" index)
      (Lowering.helper t.config "require_cell" [e]))) w () w₃ := by
    rw [Stmt.exec]
    exact Runs.bind (comes_require (r := .ok v) opened plain value cell)
      (runs_assign still.scene _ _)
  have found : Runs ((Expr.name (t.own "cell" index)).eval t.scope) w₃ v w₃ :=
    runs_local opened₃.scene (opened₃.names ▸ own "cell" (by simp)) still.scene.get?_setLocal_self
  have defaults := runs_evalDefaults_cons (x := t.config.elementName) (runs_element opened₃.scene)
    (runs_evalDefaults_cons (x := Lowering.paramName t.config "cell") found
      (runs_evalDefaults_nil w₃))
  have shown := comes_create opened₃ names (own "bind" (by simp)) effect
  refine comes_execAll assigned
    (comes_execAll (runs_closure opened₃.scene (t.own "bind" index) _ defaults) ?_)
  cases r with
  | error φ => exact fails_execAll shown
  | ok n =>
    obtain ⟨opened', kept⟩ := kept n rfl
    have again : Runs ((Expr.name (t.own "cell" index)).eval t.scope) w' v w' :=
      runs_local opened'.scene (opened'.names ▸ own "cell" (by simp)) kept
    have defaults : Runs (Expr.evalDefaults t.scope
        [.mk (Lowering.paramName t.config "event") none,
          .mk (Lowering.paramName t.config "cell") (some (.name (t.own "cell" index)))]) w'
        [(Lowering.paramName t.config "cell", v)] w' := by
      rw [Expr.evalDefaults]
      exact runs_evalDefaults_cons again (runs_evalDefaults_nil w')
    have heard : t.Open (t.define (t.own "listen" index) (t.listener index p d v) w'.host) :=
      opened'.define names "listen" _
    have function : Runs ((Expr.name (t.own "listen" index)).eval t.scope)
        ⟨w'.graph, t.define (t.own "listen" index) (t.listener index p d v) w'.host⟩
        (.function w'.host.functions.size)
        ⟨w'.graph, t.define (t.own "listen" index) (t.listener index p d v) w'.host⟩ :=
      runs_local heard.scene (heard.names ▸ own "listen" (by simp))
        (opened'.scene.withFunction _).get?_setLocal_self
    exact comes_execAll shown (comes_execAll
      (runs_closure opened'.scene (t.own "listen" index) _ defaults)
      (comes_register (e := .name _) (r := .ok ()) heard (fun _ eq => by cases eq) function
        (runs_modifyHost _ _)).last)

theorem fails_binding (opened : t.Open w.host) (plain : ∀ x, e ≠ .starred x)
    (failed : Fails (e.eval t.scope) w φ w') :
    Fails (Stmt.execAll t.scope (Lowering.binding t.config index p d e)) w φ w' := by
  refine fails_execAll ?_
  rw [Stmt.exec]
  exact (fails_apply (runs_helperName (f := .requireCell) (runs_alias opened.scene))
    (failed.items plain)).bind

theorem fails_binding_cell (opened : t.Open w.host) (plain : ∀ x, e ≠ .starred x)
    (value : Runs (e.eval t.scope) w v w₁) (refused : Fails (Act.requireCell v) w₁ φ w') :
    Fails (Stmt.execAll t.scope (Lowering.binding t.config index p d e)) w φ w' := by
  refine fails_execAll ?_
  rw [Stmt.exec]
  exact Fails.bind (comes_require (r := .error _) opened plain value refused)

end Statements

section Binder

variable {c : Config} {source : String} {lowered : List Lowered} {scope : Table Value} {m k : Nat}
variable {w w' : World}

def siteOf (c : Config) (lowered : List Lowered) (m i : Nat) (h : Host) : Site :=
  ⟨c, ⟨[h.frames.size], m⟩, h.frames.size, i, binderNames c lowered⟩

def called (c : Config) (lowered : List Lowered) (i : Nat) (w : World) : World :=
  ⟨w.graph, w.host.withFrame (calledFrame c lowered i)⟩

/-- A binder starts with its element and its helpers, unless an expression binds the name of the
helpers in it. -/
theorem open_called (names : c.Distinct) (has : HasBinder c source lowered scope m k w.host)
    (unbound : c.aliasName ∉ binderNames c lowered) (i : Nat) :
    (siteOf c lowered m i w.host).Open (called c lowered i w).host := by
  have frame : (called c lowered i w).host.frames.getD w.host.frames.size default =
      calledFrame c lowered i := Host.getD_withFrame_size ..
  have there := (entered_called has i).there
  have helpers : (moduleTable c (Loader.fileName c source) scope k).get? c.aliasName =
      some .supportModule := by
    rw [moduleTable, Table.get?_set_ne _ _ names.function.symm, Table.get?_set_self]
  refine ⟨⟨⟨[], rfl⟩, there, ?_, ?_, ?_, ?_, ?_⟩, congrArg Frame.names frame⟩
  · exact frame ▸ List.mem_cons_self
  · rw [siteOf, frame]
    simp [calledFrame, Table.get?]
  · intro f mem
    cases List.mem_singleton.mp mem
    exact ⟨there, frame ▸ unbound⟩
  · exact (Array.getElem?_eq_some_iff.mp has.names).1
  · change (w.host.modules.getD m []).get? c.aliasName = _
    rw [Array.getD_eq_getD_getElem?, has.names]
    exact helpers

/-- A name of the scope, where nothing in the binder binds it. -/
theorem findsScope_called [Order] (has : HasBinder c source lowered scope m k w.host)
    (function : c.functionName ≠ Builtins.key) (free : IsFree c x) (once : (scope.map Prod.fst).Nodup)
    (unbound : x ∉ binderNames c lowered) (i : Nat) :
    FindsScope c scope x ⟨[w.host.frames.size], m⟩ (called c lowered i w) := by
  have entered := entered_called has i
  have unseen : (called c lowered i w).host.Unseen x ([] ++ [w.host.frames.size]) := by
    intro f mem
    cases List.mem_singleton.mp mem
    exact ⟨entered.there, entered.names ▸ unbound⟩
  exact findsScope entered function free once unseen

theorem eq_of_resolve {g : Generator} {a : Attribute} {d : Option PropertyDescriptor}
    (binds : a.directive = .binding p span) (resolved : g.resolve a = .ok d) :
    ∃ x, PropertyDescriptor.ofProperty? p = some x ∧ d = some x := by
  unfold Generator.resolve Generator.resolveProperty at resolved
  simp only [binds] at resolved
  cases known : PropertyDescriptor.ofProperty? p with
  | none =>
    simp only [known] at resolved
    cases resolved
  | some x =>
    simp only [known] at resolved
    change (g.checkCell p x a >>= fun _ => pure (some x)) = _ at resolved
    cases checked : g.checkCell p x a with
    | error e =>
      rw [checked] at resolved
      cases resolved
    | ok _ =>
      rw [checked] at resolved
      cases resolved
      exact ⟨x, rfl, rfl⟩

/-- The statements of a binding are those for what its property resolves to, and the binder has their
names. -/
theorem mem_bound_binding (c : Config) (index : Int) (p : String) (d : PropertyDescriptor) (e : Expr) :
    ∀ role ∈ ["cell", "bind", "listen"],
      Lowering.localName c role index ∈ (Stmt.surveyAll (Lowering.binding c index p d e)).bound := by
  intro role mem
  rw [(Lowering.survey_binding ..).1]
  simp only [List.mem_cons, List.not_mem_nil, or_false] at mem
  rcases mem with rfl | rfl | rfl <;> simp

theorem eq_of_generate {g : Generator} {a : Attribute} {d : PropertyDescriptor}
    (binds : a.directive = .binding p span) (eq : g.generate index (some d) a = .ok stmts) :
    stmts = Lowering.binding g.config index p d a.expr := by
  rw [Generator.generate, binds] at eq
  exact (Except.ok.inj eq).symm

theorem exists_binding (made : Compile.Generated c lowered) (mem : l ∈ lowered)
    (binds : l.attr.directive = .binding p span) :
    ∃ index d, PropertyDescriptor.ofProperty? p = some d ∧
      (Generator.mk c fun _ => true).generate index (some d) l.attr = .ok l.statements ∧
      l.statements = Lowering.binding c index p d l.attr.expr ∧
      ∀ role ∈ ["cell", "bind", "listen"], Lowering.localName c role index ∈ binderNames c lowered := by
  obtain ⟨index, _, resolved, generated⟩ := made l mem
  obtain ⟨d, known, rfl⟩ := eq_of_resolve binds resolved
  have statements := eq_of_generate binds generated
  refine ⟨index, d, known, generated, statements, fun role own => ?_⟩
  refine List.mem_cons_of_mem _ ((Stmt.mem_bound_flatMap ..).mpr ⟨l, mem, ?_⟩)
  exact statements ▸ mem_bound_binding c index p d l.attr.expr role own

theorem comes_binder [Order] (made : Compile.Generated c lowered)
    (has : HasBinder c source lowered scope m k w.host)
    (still : (lowered.any fun l => l.attr.direct.yields) = false)
    (body : Comes (Stmt.execAll ⟨[w.host.frames.size], m⟩ (lowered.flatMap Lowered.statements))
      (called c lowered i w) r w') :
    Comes (Call.invoke ⟨.function k, [.node i], []⟩) w (r.map fun _ => .none) w' := by
  have body := body.map fun _ => Value.none
  cases r with
  | ok _ =>
    obtain ⟨n, body⟩ := body
    exact ⟨n, fun j le next => (exec_binder made has still i _ next).trans (body j le next)⟩
  | error f =>
    obtain ⟨n, body⟩ := body
    exact ⟨n, fun j le next => (exec_binder made has still i _ next).trans (body j le next)⟩

end Binder

/-- Whether a list compiles to one binding of a property to a name of the scope. -/
def isNamedBinding (source property x : String) : Bool :=
  match (Compile.run {} source).result with
  | .error _ => false
  | .ok r => match r.lowered with
    | [l] => match l.attr.directive, l.attr.expr with
      | .binding p _, .name y => p == property && x == y &&
        [x, "_wb"].all fun z => !(binderNames {} [l]).contains z
      | _, _ => false
    | _ => false

theorem exists_of_isNamedBinding (source property x : String)
    (good : isNamedBinding source property x = true) :
    ∃ r l span, (Compile.run {} source).result = .ok r ∧ r.lowered = [l] ∧
      l.attr.directive = .binding property span ∧ l.attr.expr = .name x ∧
      x ∉ binderNames {} [l] ∧ "_wb" ∉ binderNames {} [l] := by
  unfold isNamedBinding at good
  split at good
  · cases good
  · next r compiled =>
      split at good
      · next l lowered =>
          split at good
          · next p span y directive expr =>
              simp only [Bool.and_eq_true, beq_iff_eq, List.all_cons, List.all_nil,
                Bool.not_eq_true', List.contains_eq_mem, decide_eq_false_iff_not] at good
              obtain ⟨⟨rfl, rfl⟩, own, helpers, -⟩ := good
              exact ⟨r, l, span, compiled, lowered, directive, expr, own, helpers⟩
          · cases good
      · cases good

end AttrBinder.Page
