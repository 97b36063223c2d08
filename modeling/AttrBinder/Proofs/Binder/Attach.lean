import AttrBinder.Proofs.Binder.Refresh

/-!
Where a binder runs on its element (`Scene`), and what the kinds of statements in it do there.
-/

namespace AttrBinder

open Reactive (Steps Source Tracker Run Graph Label Effect)

def Host.setLocal (h : Host) (f : Nat) (x : String) (v : Value) : Host :=
  { h with frames := h.frames.modify f fun fr => { fr with values := fr.values.set x v } }

namespace Host

variable {h : Host} {f : Nat} {x y : String} {v : Value}

theorem frame_setLocal (h : Host) (f g : Nat) (x : String) (v : Value) :
    (h.setLocal f x v).frames.getD g default = if f = g ∧ g < h.frames.size then
      { h.frames.getD g default with values := (h.frames.getD g default).values.set x v }
    else h.frames.getD g default := by
  simp only [setLocal, getD_modify]

theorem grows_setLocal (h : Host) (f : Nat) (x : String) (v : Value) :
    h.Grows (h.setLocal f x v) where
  lists := .refl _
  plains := .refl _
  functions := .refl _
  modules := .refl _
  frames g lt := by
    refine ⟨(Array.size_modify ..).symm ▸ lt, ?_⟩
    rw [frame_setLocal]
    split <;> rfl

theorem grows_withFunction (h : Host) (f : Callable) : h.Grows (h.withFunction f) :=
  ⟨.refl _, .refl _, .push _ _, .refl _, fun _ lt => ⟨lt, rfl⟩⟩

theorem grows_modifyNode (h : Host) (i : Nat) (f : Node → Node) : h.Grows (h.modifyNode i f) :=
  ⟨.refl _, .refl _, .refl _, .refl _, fun _ lt => ⟨lt, rfl⟩⟩

theorem function_withFunction (h : Host) (f : Callable) :
    (h.withFunction f).functions[h.functions.size]? = some f := by
  simp [withFunction]

end Host

theorem localName_ne (ne : role ≠ other) (index : Int) :
    Lowering.localName c role index ≠ Lowering.localName c other index := by
  intro eq
  refine ne (String.toList_inj.mp ?_)
  have same := congrArg String.toList eq
  simpa [Lowering.localName] using same

theorem Config.Distinct.element_ne_local {c : Config} (names : c.Distinct) (role : String)
    (index : Int) : c.elementName ≠ Lowering.localName c role index := by
  intro eq
  refine names.unreserved ⟨(role ++ "_" ++ toString index).toList, ?_⟩
  rw [eq, ← String.toList_append]
  simp [Config.stem, Lowering.localName, String.append_assoc]

/-- Where a binder runs on an element, in the frame `f`. -/
structure Scene (c : Config) (s : Scope) (f i : Nat) (h : Host) : Prop where
  own : ∃ rest, s.frames = f :: rest
  there : f < h.frames.size
  element : c.elementName ∈ (h.frames.getD f default).names
  node : (h.frames.getD f default).values.get? c.elementName = some (.node i)
  unseen : h.Unseen c.aliasName s.frames
  module : s.module < h.modules.size
  support : (h.modules.getD s.module []).get? c.aliasName = some .supportModule

namespace Scene

variable {c : Config} {s : Scope} {f i : Nat} {h h' : Host} {x : String} {v : Value}

theorem mono (scene : Scene c s f i h) (grows : h.Grows h')
    (node : (h'.frames.getD f default).values.get? c.elementName = some (.node i)) :
    Scene c s f i h' where
  own := scene.own
  there := (grows.frames f scene.there).1
  element := (grows.frames f scene.there).2 ▸ scene.element
  node := node
  unseen := scene.unseen.mono grows
  module := grows.modules.size_le scene.module
  support := by
    rw [grows.modules.getD_eq scene.module]
    exact scene.support

theorem get?_setLocal_ne (scene : Scene c s f i h) (ne : y ≠ x) :
    ((h.setLocal f x v).frames.getD f default).values.get? y =
      (h.frames.getD f default).values.get? y := by
  rw [Host.frame_setLocal, if_pos ⟨rfl, scene.there⟩]
  exact Table.get?_set_ne _ _ ne

theorem get?_setLocal_self (scene : Scene c s f i h) :
    ((h.setLocal f x v).frames.getD f default).values.get? x = some v := by
  rw [Host.frame_setLocal, if_pos ⟨rfl, scene.there⟩]
  exact Table.get?_set_self _ _ _

theorem setLocal (scene : Scene c s f i h) (ne : c.elementName ≠ x) :
    Scene c s f i (h.setLocal f x v) :=
  scene.mono (h.grows_setLocal f _ v) ((scene.get?_setLocal_ne ne).trans scene.node)

theorem withFunction (scene : Scene c s f i h) (code : Callable) :
    Scene c s f i (h.withFunction code) :=
  scene.mono (h.grows_withFunction code) scene.node

end Scene

namespace Page

section Statements

variable [Order] {c : Config} {s : Scope} {f i : Nat} {w w' : World} {x : String} {v : Value}

theorem runs_assign (scene : Scene c s f i w.host) (x : String) (v : Value) :
    Runs (Act.assign s x v) w () ⟨w.graph, w.host.setLocal f x v⟩ := by
  obtain ⟨rest, own⟩ := scene.own
  unfold Act.assign
  rw [own]
  exact runs_modifyHost _ w

theorem runs_local (scene : Scene c s f i w.host) (own : x ∈ (w.host.frames.getD f default).names)
    (found : (w.host.frames.getD f default).values.get? x = some v) :
    Runs ((Expr.name x).eval s) w v w := by
  obtain ⟨rest, frames⟩ := scene.own
  refine runs_name_frame ?_
  rw [frames, Act.lookupFrames, if_pos (by simpa using own), found]

theorem runs_element (scene : Scene c s f i w.host) :
    Runs ((Lowering.element c).eval s) w (.node i) w :=
  runs_local scene scene.element scene.node

theorem runs_alias (scene : Scene c s f i w.host) :
    Runs ((Expr.name c.aliasName).eval s) w .supportModule w :=
  runs_name_module (scene.unseen.lookupFrames true) scene.support

theorem runs_closure (scene : Scene c s f i w.host) (name : String) (body : List Stmt)
    (evaluated : Runs (Expr.evalDefaults s params) w defaults w) :
    Runs (Stmt.exec s (.define name (.ordinaryOnly params) body)) w ()
      ⟨w.graph, (w.host.withFunction (.code name (.ordinaryOnly params) defaults (.block body) s)).setLocal
        f name (.function w.host.functions.size)⟩ := by
  rw [Stmt.exec]
  have none : Runs (Expr.evalDefaults s []) w [] w := by
    rw [Expr.evalDefaults]
    exact runs_pure _ _
  have params : Runs (Expr.evalParams s (.ordinaryOnly params)) w defaults w := by
    rw [Params.ordinaryOnly, Expr.evalParams]
    refine none.bind (evaluated.bind (none.bind ?_))
    rw [List.nil_append, List.append_nil]
    exact runs_pure _ _
  exact params.bind ((runs_newFunction _ w).bind (runs_assign (w := ⟨w.graph, _⟩)
    (scene.withFunction _) name _))

theorem runs_evalDefaults_cons {e : Expr} (first : Runs (e.eval s) w v w)
    (more : Runs (Expr.evalDefaults s rest) w vs w) :
    Runs (Expr.evalDefaults s (.mk x (some e) :: rest)) w ((x, v) :: vs) w := by
  rw [Expr.evalDefaults]
  exact first.bind (more.bind (runs_pure _ _))

theorem runs_evalDefaults_nil (w : World) : Runs (Expr.evalDefaults s []) w [] w := by
  rw [Expr.evalDefaults]
  exact runs_pure _ _

theorem runs_requireCell (j : Nat) (w : World) : Runs (Act.requireCell (.wire j)) w (.wire j) w :=
  .of_eq fun _ _ => rfl

theorem runs_newEffect (ran : Performs (.execute (.effect w.graph.effects.size))
      (w.update (·.addEffect label call)) none w') : Runs (Steps.newEffect label call) w w.graph.effects.size w' := by
  obtain ⟨n, ran⟩ := ran
  refine ⟨n, fun k le next => ?_⟩
  change (Run.perform setting k (.execute (.effect w.graph.effects.size)) >>= fun _ =>
    Run.exec setting (Run.perform setting k) (next w.graph.effects.size))
      (w.update (·.addEffect label call)) = _
  rw [Run.bind_of_ok (ran k le)]

end Statements

theorem effect_addEffect (g : PageGraph) (l : Label) (call : Call) (k : Nat) :
    (g.addEffect l call).effect k = if k = g.effects.size then
      { label := l, body := call } else g.effect k := by
  simp only [Graph.effect, Graph.addEffect, Array.getD_eq_getD_getElem?, Array.getElem?_push]
  split <;> rfl

end Page

end AttrBinder
