import AttrBinder.Proofs.Binder.Binding
import AttrBinder.Proofs.Reactive.Graph

/-!
Running the effect of a binding. It reads its cell and nothing else, so a run moves the effect to
the end of the cell's subscribers and leaves all other links alone; on the page it adds the frame
of one call and one write of the property.
-/

namespace AttrBinder

open Reactive (Source Tracker Run Graph Wire Effect)

section Arrays

variable {α : Type}

theorem modify_modify (xs : Array α) (i : Nat) (f g : α → α) :
    (xs.modify i f).modify i g = xs.modify i fun x => g (f x) := by
  refine Array.ext_getElem? fun j => ?_
  simp only [Array.getElem?_modify]
  by_cases same : i = j
  · simp only [same, if_true, Option.map_map]
    rfl
  · simp only [same, if_false]

theorem modify_congr {xs : Array α} {i : Nat} {f g : α → α}
    (same : ∀ x, xs[i]? = some x → f x = g x) :
    xs.modify i f = xs.modify i g := by
  refine Array.ext_getElem? fun j => ?_
  simp only [Array.getElem?_modify]
  split
  · next eq =>
      subst eq
      exact Option.map_congr same
  · rfl

theorem getD_modify (xs : Array α) (i j : Nat) (f : α → α) (d : α) :
    (xs.modify i f).getD j d = if i = j ∧ j < xs.size then f (xs.getD j d) else xs.getD j d := by
  simp only [Array.getD_eq_getD_getElem?, Array.getElem?_modify]
  by_cases same : i = j
  · subst same
    by_cases lt : i < xs.size <;> simp [lt]
  · simp [same]

end Arrays

theorem Host.node_modifyNode (h : Host) (i j : Nat) (f : Node → Node) :
    (h.modifyNode i f).node j =
      if i = j ∧ j < h.nodes.size then f (h.node j) else h.node j :=
  getD_modify h.nodes i j f default

namespace Reactive.Graph

variable {V C : Type}

def reran (g : Graph V C) (e j : Nat) : Graph V C :=
  { g with
    wires := g.wires.modify j fun w =>
      { w with subscribers := w.subscribers.filter (· ≠ .effect e) ++ [.effect e] }
    effects := g.effects.modify e fun x =>
      { x with runs := x.runs + 1, running := false, rerun := false, dependencies := [.wire j] } }

theorem wires_push (g : Graph V C) (t : Tracker) : (g.push t).wires = g.wires := rfl

theorem effects_push (g : Graph V C) (t : Tracker) : (g.push t).effects = g.effects := rfl

theorem wires_countRun (g : Graph V C) (e : Nat) :
    ((g.setRunning e true).countRun e).wires = g.wires := rfl

section

variable [Inhabited C]

theorem effect_countRun {g : Graph V C} {e : Nat} (there : e < g.effects.size) :
    ((g.setRunning e true).countRun e).effect e =
      { g.effect e with running := true, rerun := false, runs := (g.effect e).runs + 1 } := by
  have size : (g.setRunning e true).effects.size = g.effects.size := Array.size_modify
  rw [countRun, effect_modifyEffect, if_pos ⟨rfl, size ▸ there⟩, setRunning, effect_modifyEffect,
    if_pos ⟨rfl, there⟩]

end

variable [Inhabited V] [Inhabited C]

def begun (g : Graph V C) (e : Nat) : Graph V C :=
  (((g.setRunning e true).countRun e).forget (.effect e)).push (.effect e)

theorem wires_begun (g : Graph V C) (e : Nat) :
    (g.begun e).wires = (((g.setRunning e true).countRun e).forget (.effect e)).wires := by
  rw [begun, wires_push]

theorem effects_begun (g : Graph V C) (e : Nat) :
    (g.begun e).effects = (((g.setRunning e true).countRun e).forget (.effect e)).effects := by
  rw [begun, effects_push]

theorem size_begun (g : Graph V C) (e : Nat) : (g.begun e).wires.size = g.wires.size := by
  rw [wires_begun, (relinks_forget _ (.effect e)).wires, wires_countRun]

theorem wire_begun (g : Graph V C) (e j : Nat) :
    ∃ ts, (g.begun e).wire j = { g.wire j with subscribers := ts } := by
  obtain ⟨ts, eq⟩ := (relinks_forget ((g.setRunning e true).countRun e) (.effect e)).wire j
  simp only [wire, wires_countRun] at eq
  exact ⟨ts, by rw [wire, wires_begun, eq]; rfl⟩

theorem value_begun (g : Graph V C) (e j : Nat) :
    ((g.begun e).wire j).value = (g.wire j).value := by
  obtain ⟨ts, eq⟩ := wire_begun g e j
  rw [eq]

theorem effect_begun {g : Graph V C} (there : e < g.effects.size) :
    ∃ ss, (g.begun e).effect e = { g.effect e with
        running := true, rerun := false, runs := (g.effect e).runs + 1, dependencies := ss } := by
  obtain ⟨ss, eq⟩ := (relinks_forget ((g.setRunning e true).countRun e) (.effect e)).effect e
  rw [effect_countRun there] at eq
  exact ⟨ss, by rw [effect, effects_begun, ← effect, eq]⟩

theorem body_begun {g : Graph V C} (there : e < g.effects.size) :
    (g.begun e).body (.effect e) = (g.effect e).body := by
  obtain ⟨ss, eq⟩ := effect_begun there
  change ((g.begun e).effect e).body = _
  rw [eq]

theorem rerun_begun {g : Graph V C} (there : e < g.effects.size) (s : Source) :
    (((g.begun e).track s).pop.effect e).rerun = false := by
  obtain ⟨ss, begun⟩ := effect_begun there
  obtain ⟨ts, tracked⟩ := (relinks_track (g.begun e) s).effect e
  rw [effect_pop, tracked, begun]

theorem track_begun {g : Graph V C} {e j : Nat} (there : e < g.effects.size)
    (reads : (g.effect e).dependencies = [.wire j] ∨
      (g.effect e).dependencies = [] ∧ .effect e ∉ (g.wire j).subscribers) :
    (((g.begun e).track (.wire j)).pop).setRunning e false = g.reran e j := by
  rw [begun, forget, dependencies, effect_countRun there]
  rcases reads with once | ⟨none, absent⟩
  · rw [once]
    simp only [List.foldl_cons, List.foldl_nil, modifySubscribers, modifyDependencies, modifyWire,
      modifyEffect, push, track, link, pop, setRunning, countRun, reran, modify_modify,
      List.tail_cons]
    simp [adjoin]
  · rw [none]
    have unlinked : g.wires.modify j (fun w => { w with subscribers := adjoin (.effect e) w.subscribers }) =
        g.wires.modify j fun w =>
          { w with subscribers := w.subscribers.filter (· ≠ .effect e) ++ [.effect e] } := by
      refine modify_congr fun w found => ?_
      have here : g.wire j = w := by simp [wire, Array.getD_eq_getD_getElem?, found]
      rw [here] at absent
      have kept : w.subscribers.filter (· ≠ .effect e) = w.subscribers :=
        List.filter_eq_self.mpr fun t mem => by
          simpa using fun eq : t = .effect e => absent (eq ▸ mem)
      rw [kept, adjoin, if_neg absent]
    simp only [List.foldl_nil, modifySubscribers, modifyDependencies, modifyWire,
      modifyEffect, push, track, link, pop, setRunning, countRun, reran, modify_modify,
      List.tail_cons, unlinked]
    simp [adjoin]

end Reactive.Graph

namespace Page

theorem performs_effect [Order] {b : Binding} {w : World} (coded : b.Coded w.host)
    (flat : w.graph.depth = 0) (there : b.cell < w.graph.wires.size)
    (holds : b.kind.Holds (w.graph.wire b.cell).value)
    (body : (w.graph.effect b.effect).body = ⟨.function b.writer, [], []⟩)
    (live : (w.graph.effect b.effect).disposed = false)
    (idle : (w.graph.effect b.effect).running = false)
    (reads : (w.graph.effect b.effect).dependencies = [.wire b.cell] ∨
      (w.graph.effect b.effect).dependencies = [] ∧
        .effect b.effect ∉ (w.graph.wire b.cell).subscribers) :
    Performs (.execute (.effect b.effect)) w none
      ⟨w.graph.reran b.effect b.cell, b.display w.host (w.graph.wire b.cell).value⟩ := by
  have present := Graph.effect_lt_of_not_disposed live
  have value := Graph.value_begun w.graph b.effect b.cell
  have written : Runs (Call.invoke ⟨.function b.writer, [], []⟩) ⟨w.graph.begun b.effect, w.host⟩ .none
      ⟨(w.graph.begun b.effect).track (.wire b.cell),
        b.display w.host ((w.graph.begun b.effect).wire b.cell).value⟩ :=
    runs_writer coded (by rw [Graph.size_begun]; exact there) (by rw [value]; exact holds)
  rw [value] at written
  obtain ⟨n, performs⟩ := written.performs
  refine ⟨n + 1, fun k le => ?_⟩
  obtain ⟨k, rfl⟩ := Nat.exists_eq_add_of_le' (Nat.le_of_add_left_le le)
  have ran : Run.runTracked setting (Run.perform setting k) (.effect b.effect)
      ((w.update (·.setRunning b.effect true)).update (·.countRun b.effect)) =
        .ok (some .none) ⟨((w.graph.begun b.effect).track (.wire b.cell)).pop,
          b.display w.host (w.graph.wire b.cell).value⟩ := by
    have begins : ((w.update (·.setRunning b.effect true)).update (·.countRun b.effect)).begin
        setting (.effect b.effect) = ⟨w.graph.begun b.effect, w.host⟩ := rfl
    have called : Run.perform setting k (.script (setting.body
        ((⟨w.graph.begun b.effect, w.host⟩ : World).graph.body (.effect b.effect))))
          ⟨w.graph.begun b.effect, w.host⟩ =
          .ok (some .none) ⟨(w.graph.begun b.effect).track (.wire b.cell),
            b.display w.host (w.graph.wire b.cell).value⟩ := by
      rw [Graph.body_begun present, body]
      exact performs k (by omega)
    rw [Run.runTracked_apply, begins, Run.ensure_of_ok called]
    rfl
  have settled (m : Nat) : Run.settle setting (Run.perform setting k) b.effect (m + 1)
      (w.update (·.setRunning b.effect true)) =
        .ok () ⟨((w.graph.begun b.effect).track (.wire b.cell)).pop,
          b.display w.host (w.graph.wire b.cell).value⟩ := by
    rw [Run.settle_succ, Run.bind_of_ok ran, Run.graph_bind, Graph.rerun_begun present]
    rfl
  have executed : Run.executeEffect setting (Run.perform setting k) b.effect w =
      .ok () ⟨w.graph.reran b.effect b.cell, b.display w.host (w.graph.wire b.cell).value⟩ := by
    rw [Run.executeEffect_now live idle (by omega), Run.runEffect_apply, Run.ensure_of_ok (settled _)]
    rw [← Graph.track_begun present reads]
    rfl
  change (Run.executeEffect setting (Run.perform setting k) b.effect >>= fun _ => pure none) w = _
  rw [Run.bind_of_ok executed]
  rfl

end Page

end AttrBinder
