import AttrBinder.Proofs.Binder.Loading

/-!
What attributes of one list know of each other. Their expressions stand in one function, the
binder, except for those of plain attributes, each of which has a function of its own. An expression
that stands in the binder itself and binds a name, or yields, does so for the whole list; nothing
else passes from one attribute to another (`siblings_apart`).
-/

namespace AttrBinder

def Attribute.direct (a : Attribute) : Survey :=
  match a.directive with
  | .plain _ => .none
  | _ => a.expr.survey {}

namespace Stmt

theorem surveyAll_append (xs ys : List Stmt) :
    surveyAll (xs ++ ys) = (surveyAll xs).and (surveyAll ys) := by
  induction xs with
  | nil => simp [surveyAll, Survey.and, Survey.none]
  | cons x xs ih => simp [surveyAll, ih, Survey.and, Bool.or_assoc]

theorem mem_bound_flatMap {α : Type} (f : α → List Stmt) (xs : List α) (x : String) :
    x ∈ (surveyAll (xs.flatMap f)).bound ↔ ∃ a ∈ xs, x ∈ (surveyAll (f a)).bound := by
  induction xs with
  | nil => simp [surveyAll, Survey.none]
  | cons a xs ih => simp [surveyAll_append, Survey.and, ih]

theorem yields_flatMap {α : Type} (f : α → List Stmt) (xs : List α) :
    (surveyAll (xs.flatMap f)).yields = xs.any fun a => (surveyAll (f a)).yields := by
  induction xs with
  | nil => rfl
  | cons a xs ih => simp [surveyAll_append, Survey.and, ih]

end Stmt

namespace Lowering

variable {c : Config}

def IsOrdinary (c : Config) (x : String) : Prop :=
  ¬ (Config.stem c.aliasName).toList <+: x.toList

instance (c : Config) (x : String) : Decidable (IsOrdinary c x) :=
  inferInstanceAs (Decidable (¬ _))

theorem IsOrdinary.ne_localName (ordinary : IsOrdinary c x) (role : String) (index : Int) :
    x ≠ localName c role index := by
  rintro rfl
  refine ordinary ⟨(role ++ "_" ++ toString index).toList, ?_⟩
  rw [← String.toList_append]
  simp [Config.stem, localName, String.append_assoc]

theorem survey_plain (index : Int) (name : String) (e : Expr) :
    (Stmt.surveyAll (plain c index name e)).bound = [localName c "attr" index] ∧
      (Stmt.surveyAll (plain c index name e)).yields = false := by
  simp [plain, closure, element, helper, Expr.text, Expr.method, Expr.apply, Params.ordinaryOnly,
    Stmt.surveyAll, Stmt.survey, Expr.survey, Expr.surveyAll, Expr.surveyKeywords, Expr.surveyParams,
    Expr.surveyDefaults, Expr.surveyOption, Survey.and, Survey.none, Survey.nested, Survey.faultyIf]

theorem survey_event (name : String) (e : Expr) :
    (Stmt.surveyAll (event c name e)).bound = (e.survey {}).bound ∧
      (Stmt.surveyAll (event c name e)).yields = (e.survey {}).yields := by
  simp [event, element, Expr.text, Expr.method, Expr.apply, Stmt.surveyAll, Stmt.survey, Expr.survey,
    Expr.surveyAll, Expr.surveyKeywords, Survey.and, Survey.none, Survey.faultyIf]

theorem survey_binding (index : Int) (property : String) (d : PropertyDescriptor) (e : Expr) :
    (Stmt.surveyAll (binding c index property d e)).bound = localName c "cell" index ::
        ((e.survey {}).bound ++ [localName c "bind" index, localName c "listen" index]) ∧
      (Stmt.surveyAll (binding c index property d e)).yields = (e.survey {}).yields := by
  simp [binding, closure, element, helper, Expr.text, Expr.method, Expr.apply, Params.ordinaryOnly,
    Stmt.surveyAll, Stmt.survey, Expr.survey, Expr.surveyAll, Expr.surveyKeywords, Expr.surveyParams,
    Expr.surveyDefaults, Expr.surveyOption, Survey.and, Survey.none, Survey.nested, Survey.faultyIf]

theorem survey_ref (e : Expr) : (Stmt.surveyAll (ref c e)).bound = (e.survey {}).bound ∧
    (Stmt.surveyAll (ref c e)).yields = (e.survey {}).yields := by
  simp [ref, element, Expr.method, Expr.apply, Stmt.surveyAll, Stmt.survey, Expr.survey,
    Expr.surveyAll, Expr.surveyKeywords, Survey.and, Survey.none, Survey.faultyIf]

end Lowering

namespace Generator

open Lowering

variable {g : Generator} {index : Int} {d : Option PropertyDescriptor} {a : Attribute}
variable {statements : List Stmt}

/-- The statements for an attribute bind in the binder what its expression binds there, and names
that are made; they yield if the expression does so there. -/
theorem survey_generate (made : g.generate index d a = .ok statements) :
    (∀ x, IsOrdinary g.config x → (x ∈ (Stmt.surveyAll statements).bound ↔ x ∈ a.direct.bound)) ∧
      (Stmt.surveyAll statements).yields = a.direct.yields := by
  unfold generate at made
  unfold Attribute.direct
  split at made
  · next name directive =>
      cases made
      obtain ⟨bound, yields⟩ := survey_plain (c := g.config) index name.text a.expr
      rw [directive, bound, yields]
      refine ⟨fun x ordinary => ?_, rfl⟩
      simp [Survey.none, ordinary.ne_localName]
  · next name _ directive =>
      cases made
      obtain ⟨bound, yields⟩ := survey_event (c := g.config) name a.expr
      rw [directive, bound, yields]
      exact ⟨fun _ _ => Iff.rfl, rfl⟩
  · next property _ directive =>
      split at made
      · next d =>
          cases made
          obtain ⟨bound, yields⟩ := survey_binding (c := g.config) index property d a.expr
          rw [directive, bound, yields]
          refine ⟨fun x ordinary => ?_, rfl⟩
          simp [ordinary.ne_localName]
      · cases made
  · next directive =>
      cases made
      obtain ⟨bound, yields⟩ := survey_ref (c := g.config) a.expr
      rw [directive, bound, yields]
      exact ⟨fun _ _ => Iff.rfl, rfl⟩

end Generator

namespace Table

variable {α : Type}

theorem get?_eq_none {t : Table α} (absent : x ∉ t.map Prod.fst) : t.get? x = none := by
  induction t with
  | nil => rfl
  | cons e t ih =>
    simp only [List.map_cons, List.mem_cons, not_or] at absent
    rw [get?, if_neg (Ne.symm absent.1)]
    exact ih absent.2

theorem get?_setAll (t : Table α) {entries : Table α} (once : (entries.map Prod.fst).Nodup)
    (x : String) : (t.setAll entries).get? x = (entries.get? x).or (t.get? x) := by
  induction entries generalizing t with
  | nil => rfl
  | cons e entries ih =>
    obtain ⟨fresh, once⟩ := List.nodup_cons.mp once
    rw [setAll, List.foldl_cons, ← setAll, ih _ once, get?]
    by_cases same : e.1 = x
    · rw [if_pos same, ← same, get?_eq_none fresh, get?_set_self]
      rfl
    · rw [if_neg same, get?_set_ne _ _ (Ne.symm same)]

end Table

namespace Page

open Lowering (IsOrdinary)
open Reactive (Run)

variable {c : Config} {source : String} {lowered : List Lowered} {scope : Table Value} {m k f : Nat}

def binderNames (c : Config) (lowered : List Lowered) : List String :=
  c.elementName :: (Stmt.surveyAll (lowered.flatMap Lowered.statements)).bound

def calledFrame (c : Config) (lowered : List Lowered) (i : Nat) : Frame where
  names := binderNames c lowered
  values := [(c.elementName, .node i)]

/-- A page on which the binder runs or has run, in the frame `f`. -/
structure Entered (c : Config) (source : String) (lowered : List Lowered) (scope : Table Value)
    (m k f : Nat) (h : Host) : Prop where
  there : f < h.frames.size
  names : (h.frames.getD f default).names = binderNames c lowered
  module : h.modules[m]? = some (moduleTable c (Loader.fileName c source) scope k)

/-- A name that neither the configuration nor the module gives a value. -/
structure IsFree (c : Config) (x : String) : Prop where
  ordinary : IsOrdinary c x
  configured : x ∉ [c.elementName, c.aliasName, c.functionName]
  module : x ∉ "__file__" :: Act.moduleNames.map Prod.fst

theorem get?_moduleTable (free : IsFree c x) (once : (scope.map Prod.fst).Nodup)
    (file : String) : (moduleTable c file scope k).get? x = scope.get? x := by
  obtain ⟨-, configured, module⟩ := free
  simp only [List.mem_cons, not_or] at configured module
  rw [moduleTable, Table.get?_set_ne _ _ configured.2.2.1, Table.get?_set_ne _ _ configured.2.1,
    scopeTable, Table.get?_set_ne _ _ module.1, Table.get?_setAll _ once, Table.get?_eq_none module.2, Option.or_none]

/-- What a module finds under names that it does not have itself is up to the scope and the alias. -/
theorem find_moduleTable (function : c.functionName ≠ Builtins.key)
    (once : (scope.map Prod.fst).Nodup) (file x : String) :
    Builtins.find (moduleTable c file scope k) x =
      Builtins.find (scope.set c.aliasName .supportModule) x := by
  have own : (moduleTable c file scope k).get? Builtins.key =
      if c.aliasName = Builtins.key then some .supportModule
      else (scope.get? Builtins.key).or (some .builtins) := by
    rw [moduleTable, Table.get?_set_ne _ _ function.symm]
    split
    · next same => rw [same, Table.get?_set_self]
    · next other =>
        rw [Table.get?_set_ne _ _ (Ne.symm other), scopeTable, Table.get?_set_ne _ _ (by decide),
          Table.get?_setAll _ once]
        rfl
  unfold Builtins.find
  rw [own]
  split_ifs with same
  · rw [same, Table.get?_set_self]
  · rw [Table.get?_set_ne _ _ (Ne.symm same)]
    cases scope.get? Builtins.key <;> rfl

/-- What a name means in the module of a binder is what it means in its scope. -/
theorem resolve_moduleTable (free : IsFree c x) (function : c.functionName ≠ Builtins.key)
    (once : (scope.map Prod.fst).Nodup) (file : String) :
    Builtins.resolve (moduleTable c file scope k) x =
      Builtins.resolve (scope.set c.aliasName .supportModule) x := by
  have other : x ≠ c.aliasName := fun same => free.configured (by simp [same])
  unfold Builtins.resolve
  rw [get?_moduleTable free once, Table.get?_set_ne _ _ other, find_moduleTable function once]

theorem fits_element (c : Config) (v : Value) :
    (Params.ordinaryOnly [.mk c.elementName none]).bind? [] [v] [] = some [(c.elementName, v)] := by
  simp [Params.bind?, Params.ordinaryOnly, Param.name, Params.takeKeywords, Params.fill, Table.get?]

theorem surveyAll_body (stmts : List Stmt) :
    Stmt.surveyAll (if stmts.isEmpty then [.pass] else stmts) = Stmt.surveyAll stmts := by
  cases stmts <;> rfl

section Binder

variable [Order]

theorem exec_host {α : Type} (f : Host → Act α)
    (again : Reactive.Task Value Call Host Failure → Run Value Call Host Failure (Option Value))
    (next : α → Action) (w : World) : Run.exec setting again ((Reactive.Steps.host >>= f) next) w =
      Run.exec setting again (f w.host next) w := rfl

omit [Order] in
theorem execAll_body (s : Scope) (stmts : List Stmt) :
    Stmt.execAll s (if stmts.isEmpty then [.pass] else stmts) = Stmt.execAll s stmts := by
  cases stmts with
  | nil =>
    simp only [List.isEmpty_nil, if_true, Stmt.execAll, Stmt.exec]
    rfl
  | cons x xs => rfl

variable (made : Compile.Generated c lowered)

include made

omit [Order] in
theorem bound_binder (ordinary : IsOrdinary c x) :
    x ∈ (Stmt.surveyAll (lowered.flatMap Lowered.statements)).bound ↔
      ∃ l ∈ lowered, x ∈ l.attr.direct.bound := by
  rw [Stmt.mem_bound_flatMap]
  refine exists_congr fun l => and_congr_right fun mem => ?_
  obtain ⟨index, d, -, eq⟩ := made l mem
  exact (Generator.survey_generate eq).1 x ordinary

omit [Order] in
theorem yields_binder : (Stmt.surveyAll (lowered.flatMap Lowered.statements)).yields =
    lowered.any fun l => l.attr.direct.yields := by
  rw [Stmt.yields_flatMap, Bool.eq_iff_iff, List.any_eq_true, List.any_eq_true]
  refine exists_congr fun l => and_congr_right fun mem => ?_
  obtain ⟨index, d, -, eq⟩ := made l mem
  rw [(Generator.survey_generate eq).2]

theorem runs_binder_generator {w : World} (has : HasBinder c source lowered scope m k w.host)
    (yields : (lowered.any fun l => l.attr.direct.yields) = true) (i : Nat) :
    Runs (Call.invoke ⟨.function k, [.node i], []⟩) w .generator w := by
  refine (runs_host w).bind ?_
  simp only [has.function, binderCode, Act.applyCode, fits_element, Code.survey, surveyAll_body,
    yields_binder made, yields, if_true]
  exact runs_pure _ _

theorem exec_binder {w : World} (has : HasBinder c source lowered scope m k w.host)
    (still : (lowered.any fun l => l.attr.direct.yields) = false) (i : Nat)
    (again : Reactive.Task Value Call Host Failure → Run Value Call Host Failure (Option Value))
    (next : Value → Action) :
    Run.exec setting again (Call.invoke ⟨.function k, [.node i], []⟩ next) w =
      Run.exec setting again ((Stmt.execAll ⟨[w.host.frames.size], m⟩
        (lowered.flatMap Lowered.statements) >>= fun _ => pure Value.none) next)
        ⟨w.graph, w.host.withFrame (calledFrame c lowered i)⟩ := by
  refine (exec_host _ again next w).trans ?_
  simp only [has.function, binderCode, Act.applyCode, fits_element, Code.survey, surveyAll_body,
    yields_binder made, still, Bool.false_eq_true, if_false]
  rw [← execAll_body]
  rfl

end Binder

theorem entered_called (has : HasBinder c source lowered scope m k h) (i : Nat) :
    Entered c source lowered scope m k h.frames.size (h.withFrame (calledFrame c lowered i)) where
  there := by simp [Host.withFrame]
  names := by rw [Host.getD_withFrame_size]; rfl
  module := has.names

/-- Wherever code of the binder looks a name up, it finds what the scope says: the value that the
scope gives the name, or else what the scope leaves of the names that are always there. A binder that
imports its helpers as `__builtins__` has those instead. -/
def FindsScope [Order] (c : Config) (scope : Table Value) (x : String) (s : Scope) (w : World) : Prop :=
  match Builtins.resolve (scope.set c.aliasName .supportModule) x with
  | .ok v => Runs ((Expr.name x).eval s) w v w
  | .error fault => Fails ((Expr.name x).eval s) w (.misuse fault) w

theorem findsScope [Order] {w : World} (entered : Entered c source lowered scope m k f w.host)
    (function : c.functionName ≠ Builtins.key) (free : IsFree c x)
    (once : (scope.map Prod.fst).Nodup) (unseen : w.host.Unseen x (fs ++ [f])) :
    FindsScope c scope x ⟨fs ++ [f], m⟩ w := by
  have module : Builtins.resolve (w.host.modules.getD m []) x =
      Builtins.resolve (scope.set c.aliasName .supportModule) x := by
    rw [Array.getD_eq_getD_getElem?, entered.module]
    exact resolve_moduleTable free function once _
  unfold FindsScope
  rw [Expr.eval]
  split
  · next v found =>
      refine (runs_host w).bind ?_
      rw [unseen.lookupFrames true, module, found]
      exact runs_pure _ _
  · next fault refused =>
      refine (runs_host w).fails ?_
      rw [unseen.lookupFrames true, module, refused]
      exact fails_fail _ _

/-- Attributes of one list do not pass names to each other, nor decide whether the others are
attached, but for the expressions that stand in the binder itself. If one of these yields, calling
the binder does nothing; otherwise it runs the statements of all attributes in order. If none of
them binds a name, the name is looked up in the scope wherever code of the binder uses it, also
inside its functions; if one does, the name is no more looked up there. -/
theorem siblings_apart [Order] {r : CompileResult}
    (compiled : (Compile.run c source).result = .ok r) (function : c.functionName ≠ Builtins.key)
    (once : (scope.map Prod.fst).Nodup) {w : World}
    (has : HasBinder c source r.lowered scope m k w.host) (i : Nat) :
    (if r.lowered.any fun l => l.attr.direct.yields then
      Runs (Call.invoke ⟨.function k, [.node i], []⟩) w .generator w
    else
      Entered c source r.lowered scope m k w.host.frames.size
          (w.host.withFrame (calledFrame c r.lowered i)) ∧
        ∀ again next, Run.exec setting again (Call.invoke ⟨.function k, [.node i], []⟩ next) w =
          Run.exec setting again ((Stmt.execAll ⟨[w.host.frames.size], m⟩
            (r.lowered.flatMap Lowered.statements) >>= fun _ => pure Value.none) next)
            ⟨w.graph, w.host.withFrame (calledFrame c r.lowered i)⟩) ∧
    ∀ x, IsFree c x → ∀ f w₁, Entered c source r.lowered scope m k f w₁.host →
      if ∀ l ∈ r.lowered, x ∉ l.attr.direct.bound then
        ∀ fs, w₁.host.Unseen x fs → FindsScope c scope x ⟨fs ++ [f], m⟩ w₁
      else Act.lookupFrames w₁.host x true [f] ≠ none := by
  have made := Compile.generated compiled
  constructor
  · split
    · next yields => exact runs_binder_generator made has yields i
    · next still =>
        exact ⟨entered_called has i, exec_binder made has (Bool.eq_false_iff.mpr still) i⟩
  · intro x free f w₁ entered
    have bound := bound_binder made free.ordinary
    have other : x ≠ c.elementName := fun same => free.configured (same ▸ List.mem_cons_self)
    have own : x ∈ (w₁.host.frames.getD f default).names ↔
        ∃ l ∈ r.lowered, x ∈ l.attr.direct.bound := by
      rw [entered.names, binderNames, List.mem_cons, bound]
      simp [other]
    split
    · next none =>
        intro fs unseen
        refine findsScope entered function free once fun g mem => ?_
        rcases List.mem_append.mp mem with inner | outer
        · exact unseen g inner
        · cases List.mem_singleton.mp outer
          refine ⟨entered.there, fun mem => ?_⟩
          obtain ⟨l, mem, binds⟩ := own.mp mem
          exact none l mem binds
    · next some =>
        have binds : ∃ l ∈ r.lowered, x ∈ l.attr.direct.bound := by
          simpa using some
        rw [Act.lookupFrames, if_pos (by simpa using own.mpr binds)]
        split <;> simp

def outerNames : Table Value := [("x", .str "outer"), ("w", .wire 0)]

def boundPage (source : String) (r : CompileResult) : World where
  graph := { wires := #[{ value := .str "inner" }] }
  host := {
    nodes := #[{ tag := "p" }]
    functions := #[binderCode {} r.lowered 0]
    modules := #[moduleTable {} (Loader.fileName {} source) outerNames 0] }

/-- Whether a list compiles, and none of its expressions binds a name or yields in the binder. -/
def isSealed (source x : String) : Bool :=
  match (Compile.run {} source).result with
  | .error _ => false
  | .ok r => r.isOk && r.lowered.all fun l =>
    !l.attr.direct.bound.contains x && !l.attr.direct.yields

open Page.Order in
/-- A name beside a bound cell is that of the scope. -/
theorem siblings_apart_bound : ∃ r,
    (Compile.run {} "(bind:value=w, title=x)").result = .ok r ∧
      Runs ((Expr.name "x").eval ⟨[0], 0⟩) ⟨(boundPage "(bind:value=w, title=x)" r).graph,
        (boundPage "(bind:value=w, title=x)" r).host.withFrame (calledFrame {} r.lowered 0)⟩
        (.str "outer") ⟨(boundPage "(bind:value=w, title=x)" r).graph,
          (boundPage "(bind:value=w, title=x)" r).host.withFrame (calledFrame {} r.lowered 0)⟩ := by
  have good : isSealed "(bind:value=w, title=x)" "x" = true := by decide +kernel
  unfold isSealed at good
  split at good
  · cases good
  · next r compiled =>
      simp only [Bool.and_eq_true, List.all_eq_true, Bool.not_eq_true', List.contains_eq_mem,
        decide_eq_false_iff_not] at good
      have has : HasBinder {} "(bind:value=w, title=x)" r.lowered outerNames 0 0
          (boundPage "(bind:value=w, title=x)" r).host := ⟨rfl, rfl⟩
      have apart := siblings_apart compiled (by decide) (by decide) has 0
      have finds := apart.2 "x" ⟨by decide, by decide, by decide⟩ 0
        ⟨(boundPage "(bind:value=w, title=x)" r).graph,
          (boundPage "(bind:value=w, title=x)" r).host.withFrame (calledFrame {} r.lowered 0)⟩
        (entered_called has 0)
      rw [if_pos fun l mem => (good.2 l mem).1] at finds
      exact ⟨r, compiled, finds [] fun _ => nofun⟩

open Page.Order in
/-- The title of the element after the binder of a list has been called on it. -/
def titleAfter? (source : String) : Option Text.Wide :=
  match (Compile.run {} source).result with
  | .error _ => none
  | .ok r =>
    match ((Run.perform setting 60 (.script (Call.script ⟨.function 0, [.node 0], []⟩))
      (boundPage source r)).world.host.node 0).attributes.get? "title" with
    | some (.str t) => some t
    | _ => none

/-- A name that is bound beside an attribute hides that of the scope, and a sibling that yields
keeps the attribute from being attached. -/
theorem sibling_hides_name : titleAfter? "(title=x)" = some "outer" ∧
    titleAfter? "(bind:value=(x := w), title=x)" = some "inner" ∧
    titleAfter? "(on:click=(yield), title=x)" = none :=
  ⟨by decide +kernel, by decide +kernel, by decide +kernel⟩

end Page

end AttrBinder
