import Mathlib.Tactic.Linarith
import AttrBinder.Proofs.Binder.Refresh

/-!
What a write of a bound cell comes to. Outside of batches the effects of all bindings of the cell
are queued, and the flush at the end of the write gives each of them one turn: the page is that of
before with each of these bindings displayed once, in the order of their turns.
-/

namespace AttrBinder

open Reactive (Steps Source Tracker Run Graph Wire Effect)

namespace Reactive.Graph

variable {V C : Type} [Inhabited V] [Inhabited C]

omit [Inhabited C] in
theorem wire_reran (g : Graph V C) (e j i : Nat) :
    (g.reran e j).wire i = if j = i ∧ i < g.wires.size then
      { g.wire i with subscribers := (g.wire i).subscribers.filter (· ≠ .effect e) ++ [.effect e] }
    else g.wire i :=
  getD_modify g.wires j i _ default

omit [Inhabited V] in
theorem effect_reran (g : Graph V C) (e j i : Nat) :
    (g.reran e j).effect i = if e = i ∧ i < g.effects.size then
      { g.effect i with
        runs := (g.effect i).runs + 1, running := false, rerun := false, dependencies := [.wire j] }
    else g.effect i := by
  simp only [effect, reran, getD_modify]

def awaiting (g : Graph V C) (es : List Nat) : Graph V C :=
  { g with queue := g.queue ++ es }

omit [Inhabited C] in
theorem wire_setValue (g : Graph V C) (j i : Nat) (v : V) :
    (g.setValue j v).wire i =
      if j = i ∧ i < g.wires.size then { g.wire i with value := v } else g.wire i :=
  getD_modify g.wires j i _ default

omit [Inhabited C] in
theorem value_reran (g : Graph V C) (e j i : Nat) :
    ((g.reran e j).wire i).value = (g.wire i).value ∧
      ((g.reran e j).wire i).frozen = (g.wire i).frozen := by
  rw [wire_reran]
  split <;> exact ⟨rfl, rfl⟩

end Reactive.Graph

/-- A binding whose effect is there and does not run. -/
structure Binding.Attached (b : Binding) (w : Page.World) : Prop where
  coded : b.Coded w.host
  heard : w.host.functions[b.listener]? = some b.listenerCode
  element : b.element < w.host.nodes.size
  cell : b.cell < w.graph.wires.size
  thawed : (w.graph.wire b.cell).frozen = false
  holds : b.kind.Holds (w.graph.wire b.cell).value
  body : (w.graph.effect b.effect).body = ⟨.function b.writer, [], []⟩
  live : (w.graph.effect b.effect).disposed = false
  idle : (w.graph.effect b.effect).running = false
  reads : (w.graph.effect b.effect).dependencies = [.wire b.cell]

theorem Binding.grows_display (b : Binding) (h : Host) (v : Value) : h.Grows (b.display h v) :=
  let first := Host.grows_withFrame h b.writerFrame
  ⟨first.lists, first.plains, first.functions, first.modules, first.frames⟩

namespace Page

def turn (w : World) (b : Binding) : World :=
  ⟨w.graph.unqueue.reran b.effect b.cell, b.display w.host (w.graph.wire b.cell).value⟩

def turns (w : World) (bs : List Binding) : World :=
  bs.foldl turn w

theorem attached_turn {b c : Binding} {w : World} (hb : b.Attached w)
    (single : b.effect = c.effect → b.cell = c.cell) : b.Attached (turn w c) where
  coded := hb.coded.mono (c.grows_display w.host _)
  heard := hb.heard
  element := by
    have size : (turn w c).host.nodes.size = w.host.nodes.size := Array.size_modify
    rw [size]
    exact hb.element
  cell := by
    have size : (turn w c).graph.wires.size = w.graph.wires.size := Array.size_modify
    rw [size]
    exact hb.cell
  thawed := (Graph.value_reran w.graph.unqueue c.effect c.cell b.cell).2.trans hb.thawed
  holds := (Graph.value_reran w.graph.unqueue c.effect c.cell b.cell).1.symm ▸ hb.holds
  body := by
    rw [turn, Graph.effect_reran]
    split <;> exact hb.body
  live := by
    rw [turn, Graph.effect_reran]
    split <;> exact hb.live
  idle := by
    rw [turn, Graph.effect_reran]
    split
    · rfl
    · exact hb.idle
  reads := by
    rw [turn, Graph.effect_reran]
    split
    · next same => rw [single same.1.symm]
    · exact hb.reads

section Order

variable [Order]

theorem drains {bs : List Binding} {w : World} (flat : w.graph.depth = 0)
    (queue : w.graph.queue = bs.map Binding.effect) (attached : ∀ b ∈ bs, b.Attached w)
    (single : ∀ a ∈ bs, ∀ b ∈ bs, a.effect = b.effect → a.cell = b.cell) :
    ∃ n, ∀ k, n ≤ k → ∀ fuel, bs.length < fuel →
      Run.drain setting (Run.perform setting k) fuel none w = .ok () (turns w bs) := by
  induction bs generalizing w with
  | nil =>
    refine ⟨0, fun k _ fuel enough => ?_⟩
    obtain ⟨fuel, rfl⟩ := Nat.exists_eq_add_of_lt enough
    exact Run.drain_nil _ none queue
  | cons b bs ih =>
    have mine := attached b List.mem_cons_self
    obtain ⟨n, ran⟩ := performs_effect (b := b) (w := w.unqueue setting b.effect) mine.coded flat
      mine.cell mine.holds mine.body mine.live mine.idle (.inl mine.reads)
    obtain ⟨l, rest⟩ := ih (w := turn w b) flat (congrArg List.tail queue)
      (fun c mem => attached_turn (attached c (List.mem_cons_of_mem b mem))
        (single c (List.mem_cons_of_mem b mem) b List.mem_cons_self))
      fun a ha c hc => single a (List.mem_cons_of_mem b ha) c (List.mem_cons_of_mem b hc)
    refine ⟨max n l, fun k le fuel enough => ?_⟩
    obtain ⟨fuel, rfl⟩ : ∃ m, fuel = m + 1 := ⟨fuel - 1, by omega⟩
    have turned : Run.attempt (Run.perform setting k (.execute (.effect b.effect)))
        (w.unqueue setting b.effect) = .ok (.ok none) (turn w b) := by
      rw [Run.attempt, ran k (Nat.le_trans (Nat.le_max_left n l) le)]
      rfl
    rw [Run.drain_cons fuel none queue, Run.bind_of_ok turned]
    exact rest k (Nat.le_trans (Nat.le_max_right n l) le) fuel (by simpa using enough)

theorem executeAll_waiting {bs : List Binding} {w : World} (k : Nat) (deep : 0 < w.graph.depth)
    (attached : ∀ b ∈ bs, b.Attached w)
    (fresh : (w.graph.queue ++ bs.map Binding.effect).Nodup) :
    Run.executeAll (Run.perform setting (k + 1)) (bs.map fun b => .effect b.effect) w =
      .ok () (w.update (·.awaiting (bs.map Binding.effect))) := by
  induction bs generalizing w with
  | nil =>
    change Reactive.Outcome.ok () w = .ok () ⟨{ w.graph with queue := w.graph.queue ++ [] }, w.host⟩
    rw [List.append_nil]
  | cons b bs ih =>
    have mine := attached b List.mem_cons_self
    have executed : Run.perform setting (k + 1) (.execute (.effect b.effect)) w =
        .ok none (w.enqueue setting b.effect) := by
      change (Run.executeEffect setting (Run.perform setting k) b.effect >>= fun _ => pure none) w = _
      rw [Run.bind_of_ok (Run.executeEffect_waiting mine.live mine.idle deep)]
      rfl
    have absent : b.effect ∉ w.graph.queue := by
      have parts := (List.nodup_append.mp fresh).2.2
      exact fun mem => parts _ mem b.effect (by simp) rfl
    have joined : w.enqueue setting b.effect = w.update (·.awaiting [b.effect]) := by
      have queue : Graph.adjoin b.effect w.graph.queue = w.graph.queue ++ [b.effect] :=
        if_neg absent
      change (⟨{ w.graph with queue := Graph.adjoin b.effect w.graph.queue }, w.host⟩ : World) = _
      rw [queue]
      rfl
    change (Run.perform setting (k + 1) (.execute (.effect b.effect)) >>= fun _ =>
      Run.executeAll (Run.perform setting (k + 1)) (bs.map fun b => .effect b.effect)) w = _
    rw [Run.bind_of_ok executed, joined]
    refine (ih (w := w.update (·.awaiting [b.effect])) deep (fun c mem => ?_) ?_).trans ?_
    · have other := attached c (List.mem_cons_of_mem b mem)
      exact ⟨other.coded, other.heard, other.element, other.cell, other.thawed, other.holds, other.body,
        other.live, other.idle, other.reads⟩
    · simpa [Reactive.World.update, Graph.awaiting] using fresh
    · simp only [Reactive.World.update, Graph.awaiting, List.map_cons, List.append_assoc,
        List.singleton_append]

theorem runs_equal {kind : ValueKind} {a b : Value} (ha : kind.Holds a) (hb : kind.Holds b)
    (w : World) : ∃ e : Bool, Runs (Act.equal a b) w e w ∧ (e = true ↔ a = b) := by
  cases kind with
  | string =>
    obtain ⟨s, rfl⟩ := ha
    obtain ⟨t, rfl⟩ := hb
    exact ⟨s == t, .of_eq fun _ _ => rfl, by simp⟩
  | boolean =>
    obtain ⟨x, rfl⟩ := ha
    obtain ⟨y, rfl⟩ := hb
    refine ⟨x == y, ?_, by simp⟩
    have scalar : (Value.bool x).scalarEqual (.bool y) = (x == y) := by
      cases x <;> cases y <;> decide
    exact scalar ▸ .of_eq fun _ _ => rfl

theorem performs_same {a b : Value} {w : World} {e : Bool} (runs : Runs (Act.equal a b) w e w) :
    Performs (.script (setting.same a b)) w (if e then some .none else none) w := by
  obtain ⟨n, runs⟩ := runs
  refine ⟨n + 1, fun k le => ?_⟩
  obtain ⟨k, rfl⟩ := Nat.exists_eq_add_of_le' (Nat.le_of_add_left_le le)
  exact (runs k (by omega) fun e => .done (if e then some .none else none)).trans rfl

theorem Runs.of_writeWire {w w' : World} {j : Nat} {v : Value}
    (written : ∃ n, ∀ k, n ≤ k → Run.writeWire setting (Run.perform setting k) j v w = .ok () w') :
    Runs (Steps.write j v) w () w' := by
  obtain ⟨n, written⟩ := written
  refine ⟨n, fun k le next => ?_⟩
  change (Run.writeWire setting (Run.perform setting k) j v >>= fun _ =>
    Run.exec setting (Run.perform setting k) (next ())) w = _
  rw [Run.bind_of_ok (written k le)]

theorem runs_write_same {w : World} {kind : ValueKind}
    (thawed : (w.graph.wire j).frozen = false) (holds : kind.Holds v)
    (value : (w.graph.wire j).value = v) : Runs (Steps.write j v) w () w := by
  obtain ⟨e, equal, same⟩ := runs_equal holds holds w
  rw [same.mpr rfl] at equal
  obtain ⟨n, compared⟩ := performs_same equal
  refine .of_writeWire ⟨n, fun k le => ?_⟩
  rw [Run.writeWire_apply thawed, value, Run.bind_of_ok (compared k le)]
  rfl

end Order

/-- The page on which a cell has a new value and the effects of its bindings wait. -/
def assigned (w : World) (j : Nat) (v : Value) (bs : List Binding) : World :=
  w.update fun g => ((((g.setValue j v).enter).tick).awaiting (bs.map Binding.effect)).depart

theorem attached_assigned {b : Binding} {w : World} {j : Nat} {v : Value} {bs : List Binding}
    (hb : b.Attached w) (holds : b.cell = j → b.kind.Holds v) : b.Attached (assigned w j v bs) := by
  have wire : (assigned w j v bs).graph.wire b.cell = (w.graph.setValue j v).wire b.cell := rfl
  refine ⟨hb.coded, hb.heard, hb.element, ?_, ?_, ?_, hb.body, hb.live, hb.idle, hb.reads⟩
  · exact (Array.size_modify ..).symm ▸ hb.cell
  · rw [wire, Graph.wire_setValue]
    split <;> exact hb.thawed
  · rw [wire, Graph.wire_setValue]
    split
    · next same => exact holds same.1.symm
    · exact hb.holds

/-- A write of another value runs the effects of the bindings of the cell in the order in which they
are told. -/
theorem runs_write_new [Order] {w : World} {j : Nat} {v : Value} {kind : ValueKind} {bs : List Binding}
    (idle : w.graph.stack = []) (flat : w.graph.depth = 0) (empty : w.graph.queue = [])
    (thawed : (w.graph.wire j).frozen = false) (held : kind.Holds (w.graph.wire j).value)
    (holds : kind.Holds v) (other : (w.graph.wire j).value ≠ v)
    (subscribers : Order.arrange w.graph.ticks (w.graph.wire j).subscribers =
      bs.map fun b => .effect b.effect)
    (attached : ∀ b ∈ bs, b.Attached w) (mine : ∀ b ∈ bs, b.cell = j ∧ b.kind.Holds v)
    (distinct : (bs.map Binding.effect).Nodup) :
    Runs (Steps.write j v) w () (turns (assigned w j v bs) bs) := by
  obtain ⟨e, equal, same⟩ := runs_equal held holds w
  have differ : e = false := Bool.eq_false_iff.mpr fun eq => other (same.mp eq)
  rw [differ] at equal
  obtain ⟨n, compared⟩ := performs_same equal
  have queue : (assigned w j v bs).graph.queue = bs.map Binding.effect := by
    change w.graph.queue ++ _ = _
    rw [empty, List.nil_append]
  obtain ⟨l, drained⟩ := drains (w := assigned w j v bs)
    (by change w.graph.depth + 1 - 1 = 0; omega) queue
    (fun b mem => attached_assigned (attached b mem) fun _ => (mine b mem).2)
    fun a ha b hb _ => (mine a ha).1.trans (mine b hb).1.symm
  refine .of_writeWire ⟨n + l + bs.length + 2, fun k le => ?_⟩
  obtain ⟨k, rfl⟩ : ∃ m, k = m + 1 := ⟨k - 1, by omega⟩
  have long : bs.length < k * k := by nlinarith
  -- The world in which the subscribers are told, inside of the batch that the write opens.
  let opened : World := (w.assign setting j (w.graph.wire j).value v).update Graph.enter
  have told : Run.tell setting (Run.perform setting (k + 1)) (.wire j) opened =
      .ok () ((opened.update Graph.tick).update (·.awaiting (bs.map Binding.effect))) := by
    have subs : setting.arrange opened.graph.ticks (opened.graph.subscribers (.wire j)) =
        bs.map fun b => .effect b.effect := by
      change Order.arrange w.graph.ticks ((w.graph.setValue j v).wire j).subscribers = _
      rw [Graph.wire_setValue]
      split <;> exact subscribers
    rw [Run.tell_apply, subs]
    refine executeAll_waiting k (by change 0 < w.graph.depth + 1; omega) (fun b mem => ?_) ?_
    · have there : b.Attached (assigned w j v bs) :=
        attached_assigned (attached b mem) fun _ => (mine b mem).2
      exact ⟨there.coded, there.heard, there.element, there.cell, there.thawed, there.holds, there.body,
        there.live, there.idle, there.reads⟩
    · change (w.graph.queue ++ _).Nodup
      rw [empty]
      exact distinct
  have left : Run.leave (Run.perform setting (k + 1))
      ((opened.update Graph.tick).update (·.awaiting (bs.map Binding.effect))) =
        .ok () (turns (assigned w j v bs) bs) := by
    have flushed : Run.perform setting (k + 1) .leave
        ((opened.update Graph.tick).update (·.awaiting (bs.map Binding.effect))) =
          .ok none (turns (assigned w j v bs) bs) := by
      change (Run.leaveBatch setting (Run.perform setting k) (k * k) >>= fun _ => pure none) _ = _
      rw [Run.bind_of_ok ((Run.leaveBatch_outermost (k * k)
        (by change w.graph.depth + 1 = 1; omega)).trans (drained k (by omega) (k * k) long))]
      rfl
    change (Run.perform setting (k + 1) .leave >>= fun _ => pure ()) _ = _
    rw [Run.bind_of_ok flushed]
    rfl
  rw [Run.writeWire_apply thawed, Run.bind_of_ok (compared (k + 1) (by omega))]
  change Run.replaceValue setting (Run.perform setting (k + 1)) j (w.graph.wire j).value v w = _
  rw [Run.replaceValue_outside (by rw [idle]; nofun), Run.ensure_of_ok told, Run.bind_of_ok left]
  rfl

end Page

end AttrBinder
