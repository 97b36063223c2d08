import AttrBinder.Proofs.Reactive.Run
import AttrBinder.Scenario.Run

/-!
What steps of a page come to, whatever follows them. `Runs` says that steps give a value and lead
from one world to another as soon as there is enough fuel for the runs nested in them; it is put
together along the steps, and a call is judged by the code that it runs.
-/

namespace AttrBinder

open Reactive (Steps Run Task Source Tracker)

def Host.withFrame (h : Host) (f : Frame) : Host :=
  { h with frames := h.frames.push f }

def Host.withFunction (h : Host) (f : Callable) : Host :=
  { h with functions := h.functions.push f }

namespace Page

variable [Order]

/-- Steps give a value and lead from one world to another, given fuel enough. -/
def Runs {α : Type} (m : Act α) (w : World) (a : α) (w' : World) : Prop :=
  ∃ n, ∀ k, n ≤ k → ∀ next, Run.exec setting (Run.perform setting k) (m next) w =
    Run.exec setting (Run.perform setting k) (next a) w'

/-- A task gives a value and leads from one world to another, given fuel enough. -/
def Performs (t : Task Value Call Host Failure) (w : World) (r : Option Value) (w' : World) :
    Prop :=
  ∃ n, ∀ k, n ≤ k → Run.perform setting k t w = .ok r w'

section Steps

variable {α β : Type} {m : Act α} {w w' w'' : World} {a : α} {b : β} {v : Value}

theorem Runs.of_eq (eq : ∀ again next, Run.exec setting again (m next) w =
    Run.exec setting again (next a) w') : Runs m w a w' :=
  ⟨0, fun k _ next => eq (Run.perform setting k) next⟩

theorem runs_pure (a : α) (w : World) : Runs (pure a) w a w :=
  .of_eq fun _ _ => rfl

theorem Runs.bind (first : Runs m w a w') (second : Runs (f a) w' b w'') :
    Runs (m >>= f) w b w'' := by
  obtain ⟨n, first⟩ := first
  obtain ⟨l, second⟩ := second
  refine ⟨max n l, fun k le next => ?_⟩
  exact (first k (Nat.le_trans (Nat.le_max_left n l) le) _).trans
    (second k (Nat.le_trans (Nat.le_max_right n l) le) next)

theorem runs_host (w : World) : Runs Steps.host w w.host w :=
  .of_eq fun _ _ => rfl

theorem runs_look (w : World) : Runs Steps.look w (w.graph, w.host) w :=
  .of_eq fun _ _ => rfl

theorem runs_setHost (h : Host) (w : World) : Runs (Steps.setHost h) w () { w with host := h } :=
  .of_eq fun _ _ => rfl

theorem runs_modifyHost (f : Host → Host) (w : World) :
    Runs (Steps.modifyHost f) w () { w with host := f w.host } :=
  .of_eq fun _ _ => rfl

theorem runs_newFrame (names : List String) (values : Table Value) (w : World) :
    Runs (Act.newFrame names values) w w.host.frames.size
      { w with host := w.host.withFrame ⟨names, values⟩ } :=
  (runs_host w).bind ((runs_setHost _ w).bind (runs_pure _ _))

theorem runs_newFunction (f : Callable) (w : World) :
    Runs (Act.newFunction f) w (.function w.host.functions.size)
      { w with host := w.host.withFunction f } :=
  (runs_host w).bind ((runs_setHost _ w).bind (runs_pure _ _))

theorem runs_read (there : j < w.graph.wires.size) :
    Runs (Steps.read (.wire j)) w (w.graph.wire j).value (w.update (·.track (.wire j))) := by
  refine .of_eq fun again next => ?_
  change (Run.readSource setting again (.wire j) >>= fun v => Run.exec setting again (next v)) w = _
  rw [Run.bind_of_ok (Run.readSource_wire there)]
  rfl

theorem Runs.performs {m : Act Value} (runs : Runs m w v w') :
    Performs (.script (m fun v => .done (some v))) w (some v) w' := by
  obtain ⟨n, runs⟩ := runs
  refine ⟨n + 1, fun k le => ?_⟩
  obtain ⟨k, rfl⟩ := Nat.exists_eq_add_of_le' (Nat.le_of_add_left_le le)
  exact (runs k (by omega) _).trans rfl

theorem Runs.call {callee : Value} {args : List Value} {keywords : Table Value}
    (runs : Runs (Call.invoke ⟨callee, args, keywords⟩) w v w') :
    Runs (Act.call callee args keywords) w v w' := by
  obtain ⟨n, performs⟩ := runs.performs
  refine ⟨n, fun k le next => ?_⟩
  change (Run.perform setting k (.script (Call.script ⟨callee, args, keywords⟩)) >>= fun r =>
    Run.exec setting (Run.perform setting k) (next (r.getD .none))) w = _
  exact Run.bind_of_ok (performs k le)

end Steps

/-! ## Expressions of generated code -/

section Expressions

variable {scope : Scope} {w w' w'' w3 : World} {v : Value} {vs : List Value}

theorem runs_constant (c : Constant) (w : World) :
    Runs ((Expr.constant c).eval scope) w c.toValue w := by
  rw [Expr.eval]
  exact runs_pure _ _

theorem runs_text (s : String) (w : World) : Runs ((Expr.text s).eval scope) w (.str s) w :=
  runs_constant _ w

theorem runs_name_frame (found : Act.lookupFrames w.host x true scope.frames = some (.ok v)) :
    Runs ((Expr.name x).eval scope) w v w := by
  rw [Expr.eval]
  refine (runs_host w).bind ?_
  rw [found]
  exact runs_pure _ _

theorem runs_name_module (absent : Act.lookupFrames w.host x true scope.frames = none)
    (found : (w.host.modules.getD scope.module []).get? x = some v) :
    Runs ((Expr.name x).eval scope) w v w := by
  rw [Expr.eval]
  refine (runs_host w).bind ?_
  rw [absent, Builtins.resolve, found]
  exact runs_pure _ _

theorem runs_evalItems_nil (w : World) : Runs (Expr.evalItems scope []) w [] w := by
  rw [Expr.evalItems]
  exact runs_pure _ _

theorem runs_evalItems_cons (plain : ∀ x, e ≠ .starred x)
    (first : Runs (e.eval scope) w v w') (rest : Runs (Expr.evalItems scope es) w' vs w'') :
    Runs (Expr.evalItems scope (e :: es)) w (v :: vs) w'' := by
  rw [Expr.evalItems]
  · exact first.bind (rest.bind (runs_pure _ _))
  · exact plain

theorem runs_member (has : v.methods.contains name = true) :
    Runs (Act.member v name) w (.method v name) w := by
  unfold Act.member Act.member?
  rw [if_pos has]
  exact (runs_pure _ _).bind (runs_pure _ _)

theorem runs_method {e : Expr} (object : Runs (e.eval scope) w v w')
    (has : v.methods.contains name = true)
    (items : Runs (Expr.evalItems scope args) w' vs w'')
    (called : Runs (Act.callMethod v name vs) w'' u w3) :
    Runs ((e.method name args).eval scope) w u w3 := by
  rw [Expr.method, Expr.apply, Expr.eval, Expr.eval]
  refine (object.bind (runs_member has)).bind (items.bind ?_)
  rw [Expr.evalKeywords]
  exact (runs_pure _ _).bind (Runs.call called)

omit [Order] in
theorem ofName?_name (f : Support) : Support.ofName? f.name = some f := by
  cases f with
  | toNative k | fromNative k => cases k <;> decide
  | _ => decide

theorem runs_helperName {c : Config} {f : Support}
    (support : Runs ((Expr.name c.aliasName).eval scope) w .supportModule w) :
    Runs ((Expr.member (.name c.aliasName) f.name).eval scope) w (.support f) w := by
  have field : Runs (Act.field? .supportModule f.name) w (some (.support f)) w := by
    refine (runs_look w).bind ?_
    simp only [ofName?_name, Option.map_some]
    exact runs_pure _ _
  have member : Runs (Act.member .supportModule f.name) w (.support f) w := by
    unfold Act.member Act.member?
    rw [if_neg (by simp [Value.methods])]
    exact field.bind (runs_pure _ _)
  rw [Expr.eval]
  exact support.bind member

theorem runs_helper {c : Config}
    (support : Runs ((Expr.name c.aliasName).eval scope) w .supportModule w)
    (items : Runs (Expr.evalItems scope args) w vs w')
    (called : Runs (Act.support f vs) w' u w'') :
    Runs ((Lowering.helper c f.name args).eval scope) w u w'' := by
  rw [Lowering.helper, Expr.method, Expr.apply, Expr.eval]
  refine (runs_helperName support).bind (items.bind ?_)
  rw [Expr.evalKeywords]
  exact (runs_pure _ _).bind (Runs.call called)

theorem runs_evaluate {e : Expr} (runs : Runs (e.eval scope) w v w') :
    Runs (Stmt.exec scope (.evaluate e)) w () w' := by
  rw [Stmt.exec]
  exact runs.bind (runs_pure _ _)

theorem runs_execAll_nil (w : World) : Runs (Stmt.execAll scope []) w () w := by
  rw [Stmt.execAll]
  exact runs_pure _ _

theorem runs_execAll_cons {s : Stmt} (first : Runs (s.exec scope) w () w')
    (more : Runs (Stmt.execAll scope rest) w' () w'') :
    Runs (Stmt.execAll scope (s :: rest)) w () w'' := by
  rw [Stmt.execAll]
  exact first.bind more

end Expressions

theorem runs_code {w w' : World}
    (code : w.host.functions[i]? = some (.code name params defaults (.block body) scope))
    (fits : params.bind? defaults args [] = some t)
    (still : (Stmt.surveyAll body).yields = false)
    (runs : Runs (Stmt.execAll ⟨w.host.frames.size :: scope.frames, scope.module⟩ body)
      { w with host := w.host.withFrame ⟨params.names ++ (Stmt.surveyAll body).bound, t⟩ }
      () w') : Runs (Call.invoke ⟨.function i, args, []⟩) w .none w' := by
  refine (runs_host w).bind ?_
  simp only [code, Act.applyCode, fits, Code.survey, still, Bool.false_eq_true, if_false]
  exact (runs_newFrame _ _ w).bind (runs.bind (runs_pure _ _))

end Page

end AttrBinder
