import Mathlib.Data.List.Nodup
import Mathlib.Data.List.Perm.Basic
import AttrBinder.Proofs.Binder.Flush

/-!
A page of bound elements, between the steps of its user. `Wired` says how the bindings of a page
hang together, `Shown` that a binding shows its cell. A write keeps the first and restores the
second, whatever the bindings of the written cell showed before.
-/

namespace AttrBinder

open Reactive (Steps Source Tracker Run Graph)

theorem ValueKind.property_inj {a b : ValueKind} (same : a.property = b.property) : a = b := by
  cases a <;> cases b <;> first | rfl | exact absurd same (by decide)

theorem ValueKind.Holds.kind_eq {a b : ValueKind} (ha : a.Holds v) (hb : b.Holds v) : a = b := by
  cases a <;> cases b <;> first | rfl | (obtain ⟨_, rfl⟩ := ha; obtain ⟨_, eq⟩ := hb; cases eq)

def Binding.displayAll (bs : List Binding) (h : Host) (v : Value) : Host :=
  bs.foldl (fun h b => b.display h v) h

section Display

variable {bs : List Binding} {h : Host} {v : Value}

theorem frames_displayAll (bs : List Binding) (h : Host) (v : Value) :
    (Binding.displayAll bs h v).frames.toList =
      h.frames.toList ++ bs.map fun b => b.writerFrame := by
  induction bs generalizing h with
  | nil => simp [Binding.displayAll]
  | cons b bs ih =>
    refine (ih (b.display h v)).trans ?_
    simp [Binding.display, Host.modifyNode, Host.withFrame]

theorem notes_displayAll (bs : List Binding) (h : Host) (v : Value) :
    (Binding.displayAll bs h v).notes = h.notes := by
  induction bs generalizing h with
  | nil => rfl
  | cons b bs ih => exact ih (b.display h v)

theorem node_displayAll (there : ∀ b ∈ bs, b.element < h.nodes.size) (i : Nat) :
    (Binding.displayAll bs h v).node i = (bs.filter (·.element = i)).foldl
      (fun n b => n.setProperty b.kind.property v) (h.node i) := by
  induction bs generalizing h with
  | nil => rfl
  | cons b bs ih =>
    have size : (b.display h v).nodes.size = h.nodes.size := Array.size_modify
    have rest := ih (h := b.display h v) fun c mem => size ▸ there c (List.mem_cons_of_mem b mem)
    refine rest.trans ?_
    rw [Binding.display, Host.node_modifyNode]
    by_cases same : b.element = i
    · have present : b.element < (h.withFrame b.writerFrame).nodes.size :=
        there b List.mem_cons_self
      rw [if_pos ⟨same, same ▸ present⟩, List.filter_cons_of_pos (by simpa using same)]
      rfl
    · rw [if_neg (fun both => same both.1), List.filter_cons_of_neg (by simpa using same)]
      rfl

end Display

section Node

variable (bs : List Binding) (n : Node) (v : Value)

theorem setProperty_all :
    (bs.foldl (fun n b => n.setProperty b.kind.property v) n).propertyWrites =
        n.propertyWrites + bs.length ∧
      (bs.foldl (fun n b => n.setProperty b.kind.property v) n).listeners = n.listeners := by
  induction bs generalizing n with
  | nil => exact ⟨rfl, rfl⟩
  | cons b bs ih =>
    obtain ⟨writes, listeners⟩ := ih (n.setProperty b.kind.property v)
    refine ⟨writes.trans ?_, listeners⟩
    simp [Node.setProperty]
    omega

variable {bs n v} {name : String}

theorem get?_setProperty_all_of_mem (mem : b ∈ bs) :
    (bs.foldl (fun n b => n.setProperty b.kind.property v) n).properties.get? b.kind.property =
      some v := by
  have kept (cs : List Binding) (n : Node)
      (found : n.properties.get? b.kind.property = some v) :
      (cs.foldl (fun n b => n.setProperty b.kind.property v) n).properties.get? b.kind.property =
        some v := by
    induction cs generalizing n with
    | nil => exact found
    | cons c cs ih =>
      refine ih _ ?_
      by_cases same : b.kind.property = c.kind.property
      · rw [same]
        exact Table.get?_set_self _ _ _
      · exact (Table.get?_set_ne _ _ same).trans found
  induction bs generalizing n with
  | nil => cases mem
  | cons c bs ih =>
    rcases List.mem_cons.mp mem with rfl | later
    · exact kept bs _ (Table.get?_set_self _ _ _)
    · exact ih later

theorem get?_setProperty_all_of_ne (other : ∀ b ∈ bs, name ≠ b.kind.property) :
    (bs.foldl (fun n b => n.setProperty b.kind.property v) n).properties.get? name =
      n.properties.get? name := by
  induction bs generalizing n with
  | nil => rfl
  | cons c bs ih =>
    refine (ih fun b mem => other b (List.mem_cons_of_mem c mem)).trans ?_
    exact Table.get?_set_ne _ _ (other c List.mem_cons_self)

end Node

namespace Page

def writes (w : World) (i : Nat) : Nat :=
  (w.host.node i).propertyWrites

/-- How the bindings of a page hang together while nothing runs. A property is bound once at most,
the subscribers of a bound cell are the effects of its bindings, and a bound element has no
listeners but theirs. -/
structure Wired (bs : List Binding) (w : World) : Prop where
  stack : w.graph.stack = []
  depth : w.graph.depth = 0
  queue : w.graph.queue = []
  attached : ∀ b ∈ bs, b.Attached w
  effects : (bs.map Binding.effect).Nodup
  spots : ∀ a ∈ bs, ∀ b ∈ bs, a.element = b.element → a.kind = b.kind → a = b
  subscribers : ∀ b ∈ bs, (w.graph.wire b.cell).subscribers.Perm
    ((bs.filter (·.cell = b.cell)).map fun c => .effect c.effect)
  listeners : ∀ b ∈ bs,
    (w.host.node b.element).listeners.get? b.kind.event = some [.function b.listener]
  unheard : ∀ b ∈ bs, ∀ kind : ValueKind, (∀ a ∈ bs, a.element = b.element → a.kind ≠ kind) →
    (w.host.node b.element).listeners.get? kind.event = none
  ticks : ∀ b ∈ bs, ∀ v, (w.host.node b.element).properties.get? "checked" = some v →
    ∃ x, v = .bool x

def Shown (b : Binding) (w : World) : Prop :=
  (w.host.node b.element).properties.get? b.kind.property = some (w.graph.wire b.cell).value

/-- What the page does where a cell is given a value, after listeners with some frames have run:
every binding of the cell shows the value once, unless the cell holds it already; no other function
is called. -/
structure Reacts (bs : List Binding) (w w' : World) (heard : List Frame) (j : Nat) (v : Value) :
    Prop where
  value : (w'.graph.wire j).value = v
  others : ∀ i, i ≠ j → (w'.graph.wire i).value = (w.graph.wire i).value
  shows : ∃ cs : List Binding, ((w.graph.wire j).value = v ∧ cs = [] ∨
      (w.graph.wire j).value ≠ v ∧ cs.Perm (bs.filter (·.cell = j))) ∧
    (∀ i, writes w' i = writes w i + (cs.filter (·.element = i)).length) ∧
    w'.host.frames.toList = w.host.frames.toList ++ (heard ++ cs.map fun c => c.writerFrame)

section Turns

variable {bs cs : List Binding} {w : World} {j : Nat} {v : Value}

theorem turns_spec (mine : ∀ c ∈ cs, c.cell = j) (value : (w.graph.wire j).value = v) :
    (turns w cs).host = Binding.displayAll cs w.host v ∧
      (turns w cs).graph.stack = w.graph.stack ∧ (turns w cs).graph.depth = w.graph.depth ∧
      (turns w cs).graph.queue = w.graph.queue.drop cs.length ∧
      (∀ i, ((turns w cs).graph.wire i).value = (w.graph.wire i).value) ∧
      ∀ i, i ≠ j → ((turns w cs).graph.wire i).subscribers = (w.graph.wire i).subscribers := by
  induction cs generalizing w with
  | nil => exact ⟨rfl, rfl, rfl, rfl, fun _ => rfl, fun _ _ => rfl⟩
  | cons c cs ih =>
    have cell := mine c List.mem_cons_self
    have kept (i : Nat) : ((turn w c).graph.wire i).value = (w.graph.wire i).value :=
      (Graph.value_reran w.graph.unqueue c.effect c.cell i).1
    obtain ⟨host, stack, depth, queue, values, subscribers⟩ :=
      ih (fun c' mem => mine c' (List.mem_cons_of_mem c mem)) ((kept j).trans value)
    refine ⟨host.trans ?_, stack, depth, queue.trans ?_, fun i => (values i).trans (kept i),
      fun i ne => (subscribers i ne).trans ?_⟩
    · have shown : (turn w c).host = c.display w.host v := by
        rw [turn, cell, value]
      rw [shown]
      rfl
    · exact List.drop_tail ..
    · rw [turn, Graph.wire_reran, if_neg fun both => ne (both.1.symm.trans cell)]
      rfl

/-- Each turn moves an effect to the end of the subscribers of its cell, so that the same ones
subscribe after all turns. -/
theorem subscribers_turns (there : j < w.graph.wires.size) (mine : ∀ c ∈ cs, c.cell = j)
    (subscribed : ∀ c ∈ cs, .effect c.effect ∈ (w.graph.wire j).subscribers)
    (distinct : (w.graph.wire j).subscribers.Nodup) :
    ((turns w cs).graph.wire j).subscribers.Perm (w.graph.wire j).subscribers := by
  induction cs generalizing w with
  | nil => exact .refl _
  | cons c cs ih =>
    have cell := mine c List.mem_cons_self
    have wire : (turn w c).graph.wire j = { w.graph.wire j with
        subscribers := (w.graph.wire j).subscribers.filter (· ≠ .effect c.effect) ++
          [.effect c.effect] } := by
      rw [turn, Graph.wire_reran, if_pos ⟨cell, there⟩]
      rfl
    have moved : ((turn w c).graph.wire j).subscribers.Perm (w.graph.wire j).subscribers := by
      have rest := List.perm_cons_erase (subscribed c List.mem_cons_self)
      simp only [distinct.erase_eq_filter, bne, beq_eq_decide, ← decide_not] at rest
      rw [wire]
      exact (List.perm_append_singleton _ _).trans rest.symm
    have size : (turn w c).graph.wires.size = w.graph.wires.size := Array.size_modify
    refine (ih (size ▸ there) (fun c' mem => mine c' (List.mem_cons_of_mem c mem)) (fun c' mem => ?_)
      (moved.nodup_iff.mpr distinct)).trans moved
    exact moved.mem_iff.mpr (subscribed c' (List.mem_cons_of_mem c mem))

theorem attached_turns {b : Binding} (hb : b.Attached w)
    (single : ∀ c ∈ cs, b.effect = c.effect → b.cell = c.cell) : b.Attached (turns w cs) := by
  induction cs generalizing w with
  | nil => exact hb
  | cons c cs ih =>
    exact ih (attached_turn hb (single c List.mem_cons_self)) fun c' mem =>
      single c' (List.mem_cons_of_mem c mem)

end Turns

section Write

variable {bs cs : List Binding} {w : World} {b : Binding} {v : Value}

theorem Wired.kind_eq (wired : Wired bs w) (ha : a ∈ bs) (hb : b ∈ bs)
    (cell : a.cell = b.cell) : a.kind = b.kind :=
  ValueKind.Holds.kind_eq (wired.attached a ha).holds (cell ▸ (wired.attached b hb).holds)

theorem Wired.eq_of_effect (wired : Wired bs w) (ha : a ∈ bs) (hb : b ∈ bs)
    (same : a.effect = b.effect) : a = b :=
  List.inj_on_of_nodup_map wired.effects ha hb same

/-- The page after a write of another value, for the bindings of the cell in some order. -/
def refreshed (w : World) (j : Nat) (v : Value) (cs : List Binding) : World :=
  turns (assigned w j v cs) cs

variable (wired : Wired bs w) (hb : b ∈ bs) (holds : b.kind.Holds v)
  (order : cs.Perm (bs.filter (·.cell = b.cell)))

include order in
theorem mem_order : c ∈ cs ↔ c ∈ bs ∧ c.cell = b.cell := by
  rw [order.mem_iff, List.mem_filter, decide_eq_true_eq]

include wired hb order in
theorem Wired.refreshed_spec :
    (refreshed w b.cell v cs).host = Binding.displayAll cs w.host v ∧
      (refreshed w b.cell v cs).graph.stack = [] ∧ (refreshed w b.cell v cs).graph.depth = 0 ∧
      (refreshed w b.cell v cs).graph.queue = [] ∧
      ((refreshed w b.cell v cs).graph.wire b.cell).value = v ∧
      ∀ i, i ≠ b.cell →
        ((refreshed w b.cell v cs).graph.wire i).value = (w.graph.wire i).value ∧
        ((refreshed w b.cell v cs).graph.wire i).subscribers = (w.graph.wire i).subscribers := by
  have wire (i : Nat) : (assigned w b.cell v cs).graph.wire i =
      (w.graph.setValue b.cell v).wire i := rfl
  have value : ((assigned w b.cell v cs).graph.wire b.cell).value = v := by
    rw [wire, Graph.wire_setValue, if_pos ⟨rfl, (wired.attached b hb).cell⟩]
  obtain ⟨host, stack, depth, queue, values, subscribers⟩ :=
    turns_spec (fun c mem => ((mem_order order).mp mem).2) value
  refine ⟨host, stack.trans wired.stack, depth.trans ?_, queue.trans ?_, (values b.cell).trans value,
    fun i ne => ⟨(values i).trans ?_, (subscribers i ne).trans ?_⟩⟩
  · change w.graph.depth + 1 - 1 = 0
    have := wired.depth
    omega
  · change (w.graph.queue ++ cs.map Binding.effect).drop cs.length = []
    have length : cs.length = (cs.map Binding.effect).length := by simp
    rw [wired.queue, List.nil_append, length, List.drop_length]
  · rw [wire, Graph.wire_setValue, if_neg fun both => ne both.1.symm]
  · rw [wire, Graph.wire_setValue, if_neg fun both => ne both.1.symm]

include wired order in
theorem Wired.node_refreshed (hb : b ∈ bs) (i : Nat) :
    (refreshed w b.cell v cs).host.node i = (cs.filter (·.element = i)).foldl
      (fun n c => n.setProperty c.kind.property v) (w.host.node i) := by
  rw [(wired.refreshed_spec hb order).1]
  exact node_displayAll (fun c mem => (wired.attached c ((mem_order order).mp mem).1).element) i

include wired hb holds order in
theorem Wired.refreshed_wired : Wired bs (refreshed w b.cell v cs) := by
  have among {c : Binding} (mem : c ∈ cs) := (mem_order order).mp mem
  have node := wired.node_refreshed (v := v) order hb
  obtain ⟨-, stack, depth, queue, -, others⟩ := wired.refreshed_spec (v := v) hb order
  have distinct : ((bs.filter (·.cell = b.cell)).map fun c => Tracker.effect c.effect).Nodup := by
    have effects := wired.effects.sublist ((List.filter_sublist (p := (·.cell = b.cell))).map _)
    have trackers := effects.map (f := Tracker.effect) fun _ _ eq => Tracker.effect.inj eq
    rwa [List.map_map] at trackers
  refine ⟨stack, depth, queue, fun a ha => ?_, wired.effects, wired.spots, fun a ha => ?_,
    fun a ha => ?_, fun a ha kind absent => ?_, fun a ha u found => ?_⟩
  · refine attached_turns (attached_assigned (wired.attached a ha) fun cell => ?_) fun c mem same => ?_
    · rw [wired.kind_eq ha hb cell]
      exact holds
    · rw [wired.eq_of_effect ha (among mem).1 same]
  · by_cases cell : a.cell = b.cell
    · have before := wired.subscribers b hb
      have same : ((assigned w b.cell v cs).graph.wire b.cell).subscribers =
          (w.graph.wire b.cell).subscribers := by
        change ((w.graph.setValue b.cell v).wire b.cell).subscribers = _
        rw [Graph.wire_setValue]
        split <;> rfl
      rw [cell]
      refine (subscribers_turns (attached_assigned (wired.attached b hb) fun _ => holds).cell
        (fun c mem => (among mem).2) (fun c mem => ?_) ?_).trans (same ▸ before)
      · rw [same, before.mem_iff]
        exact List.mem_map_of_mem (order.mem_iff.mp mem)
      · rw [same, before.nodup_iff]
        exact distinct
    · rw [(others a.cell cell).2]
      exact wired.subscribers a ha
  · rw [node, (setProperty_all _ _ _).2]
    exact wired.listeners a ha
  · rw [node, (setProperty_all _ _ _).2]
    exact wired.unheard a ha kind absent
  · rw [node] at found
    by_cases touched : ∃ c ∈ cs.filter (·.element = a.element), c.kind.property = "checked"
    · obtain ⟨c, mem, checked⟩ := touched
      rw [← checked, get?_setProperty_all_of_mem mem] at found
      obtain rfl := Option.some.inj found
      have kind : c.kind = .boolean := ValueKind.property_inj checked
      obtain ⟨here, cell⟩ := among (List.mem_of_mem_filter mem)
      rw [← wired.kind_eq here hb cell, kind] at holds
      exact holds
    · rw [get?_setProperty_all_of_ne fun c mem eq => touched ⟨c, mem, eq.symm⟩] at found
      exact wired.ticks a ha u found

include wired hb order in
/-- After a write of another value the bindings of the cell show it, and the others what they have
shown. -/
theorem Wired.shown_refreshed (ha : a ∈ bs) (before : a.cell ≠ b.cell → Shown a w) :
    Shown a (refreshed w b.cell v cs) := by
  obtain ⟨-, -, -, -, value, others⟩ := wired.refreshed_spec (v := v) hb order
  rw [Shown, wired.node_refreshed order hb]
  by_cases cell : a.cell = b.cell
  · have mem : a ∈ cs.filter (·.element = a.element) :=
      List.mem_filter.mpr ⟨(mem_order order).mpr ⟨ha, cell⟩, by simp⟩
    rw [get?_setProperty_all_of_mem mem, cell, value]
  · rw [get?_setProperty_all_of_ne, (others a.cell cell).1]
    · exact before cell
    · intro c mem same
      obtain ⟨there, element⟩ := List.mem_filter.mp mem
      obtain ⟨hc, other⟩ := (mem_order order).mp there
      have one := wired.spots a ha c hc (of_decide_eq_true element).symm (ValueKind.property_inj same)
      exact cell (one ▸ other)

include wired hb holds in
/-- A write of a bound cell runs, keeps the bindings together, and leaves every binding shown, if
those that it does not touch were. -/
theorem Wired.write [Order] : ∃ w', Runs (Steps.write b.cell v) w () w' ∧ Wired bs w' ∧
    Reacts bs w w' [] b.cell v ∧ w'.host.notes = w.host.notes ∧
    ∀ a ∈ bs, (a.cell ≠ b.cell ∨ (w.graph.wire b.cell).value = v → Shown a w) → Shown a w' := by
  have mine := wired.attached b hb
  by_cases held : (w.graph.wire b.cell).value = v
  · refine ⟨w, runs_write_same mine.thawed holds held, wired, ⟨held, fun _ _ => rfl, [], .inl ⟨held, rfl⟩,
      fun _ => rfl, by simp⟩, rfl, fun a ha before => before (.inr held)⟩
  · obtain ⟨cs, subscribers, order⟩ := (congrFun (congrFun (List.eq_map_comp_perm fun c : Binding =>
      Tracker.effect c.effect) _) _).mpr ((Order.perm w.graph.ticks _).trans (wired.subscribers b hb))
    have among {c : Binding} (mem : c ∈ cs) := (mem_order order).mp mem
    obtain ⟨host, -, -, -, value, others⟩ := wired.refreshed_spec (v := v) hb order
    refine ⟨refreshed w b.cell v cs, ?_, wired.refreshed_wired hb holds order,
      ⟨value, fun i ne => (others i ne).1, cs, .inr ⟨held, order⟩, fun i => ?_, ?_⟩, ?_,
      fun a ha before => wired.shown_refreshed hb order ha fun ne => before (.inl ne)⟩
    · refine runs_write_new wired.stack wired.depth wired.queue mine.thawed mine.holds holds held
        subscribers (fun c mem => wired.attached c (among mem).1) (fun c mem => ⟨(among mem).2, ?_⟩) ?_
      · rw [wired.kind_eq (among mem).1 hb (among mem).2]
        exact holds
      · exact (order.map _).nodup_iff.mpr (wired.effects.sublist (List.filter_sublist.map _))
    · rw [writes, wired.node_refreshed order hb, (setProperty_all _ _ _).1]
      rfl
    · rw [host, frames_displayAll, List.nil_append]
    · rw [host]
      exact notes_displayAll cs w.host v

end Write

end Page

end AttrBinder
