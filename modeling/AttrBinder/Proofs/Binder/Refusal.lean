import AttrBinder.Proofs.Binder.Comparing
import AttrBinder.Proofs.Binder.Loading

/-!
Writes that are refused. However a wire is written, a write to a frozen wire is refused before it
has done anything. A write inside a derived value is refused when the new value is already stored:
apart from that value, and from what comparing it with the old one has read, everything is as it
was.
-/

namespace AttrBinder

open Reactive (Steps Run)

namespace Page

/-! ## Ways to write -/

/-- A way to write a wire: a call of `set`, an assignment to `value`, a call of `update` with a
function, or an operator in place. -/
inductive WireWrite where
  | set (new : Value)
  | assign (new : Value)
  | update (f : Value)
  | augment (how : Scenario.InPlace) (operand : Value)

namespace WireWrite

def act (i : Nat) : WireWrite → Act Value
  | set new => Act.callMethod (.wire i) "set" [new]
  | assign new => do
    Scenario.assignValue (.wire i) new
    return .none
  | update f => Act.callMethod (.wire i) "update" [f]
  | augment how operand => Scenario.augmentValue how (.wire i) operand

def newValue (i : Nat) : WireWrite → Act Value
  | set new => do
    let _ ← Steps.look
    return new
  | assign new => return new
  | update f => do
    let g ← Steps.graph
    Act.call f [(g.wire i).value] []
  | augment how operand => do
    let old ← Steps.read (.wire i)
    Act.augment how.op old operand

def result (i : Nat) : WireWrite → Value
  | augment _ _ => .wire i
  | _ => .none

theorem act_eq (i : Nat) (x : WireWrite) :
    x.act i = x.newValue i >>= fun v => Steps.write i v >>= fun _ => pure (x.result i) := by
  cases x <;> rfl

end WireWrite

/-! ## Comparing the old value with the new one -/

theorem relinks_setValue {g g' : PageGraph} (h : g.Relinks g') (i : Nat) (v : Value) :
    (g.setValue i v).Relinks (g'.setValue i v) where
  wires := by simpa [Reactive.Graph.setValue, Reactive.Graph.modifyWire] using h.wires
  wire j := by
    obtain ⟨ts, eq⟩ := h.wire j
    simp only [Reactive.Graph.setValue, Reactive.Graph.wire_modifyWire, eq, h.wires]
    split <;> exact ⟨ts, rfl⟩
  deriveds := h.deriveds
  derived := h.derived
  effects := h.effects
  effect := h.effect
  stack := h.stack
  depth := h.depth
  queue := h.queue

section Refusals

variable [Order]

def Peeks (s : Action) : Prop :=
  ∀ again w, Run.Ends (fun w w' => w.graph.Relinks w'.graph ∧ w'.host = w.host)
    (Run.exec setting again s) w

theorem admitsReading_peeks : AdmitsReading Peeks where
  raise f again w := Run.ends_raise (fun w => ⟨.refl w.graph, rfl⟩) f w
  look next later again w := later w.graph w.host again w
  read i next later again w := by
    have step : Run.Ends (fun w w' => w.graph.Relinks w'.graph ∧ w'.host = w.host)
        (Run.readSource setting again (.wire i)) w := by
      by_cases there : i < w.graph.wires.size
      · intro w' ended
        rw [Run.readSource_wire there] at ended
        cases ended
        exact ⟨Reactive.Graph.relinks_track _ _, rfl⟩
      · intro w' ended
        rw [Run.readSource_absent there] at ended
        cases ended
        exact ⟨.refl _, rfl⟩
    exact step.bind (fun _ _ _ a b => ⟨a.1.trans b.1, b.2.trans a.2⟩) fun v w' _ => later v again w'

variable {α : Type} {w w₁ w₂ : World} {i d : Nat} {v : Value} {rest : List Reactive.Tracker}

theorem Runs.relinks (compared : Runs (Act.equal a b) w e w₁) :
    w.graph.Relinks w₁.graph ∧ w₁.host = w.host := by
  obtain ⟨n, compared⟩ := compared
  have peeks : Peeks (Act.equal a b fun _ => .done none) :=
    admitsReading_peeks.equalWithin _ a b _ fun _ _ w' =>
      Run.ends_pure (fun w => ⟨.refl w.graph, rfl⟩) none w'
  refine peeks (Run.perform setting n) w w₁ ?_
  rw [compared n (Nat.le_refl n)]
  rfl

/-! ## Refusals -/

theorem fails_write_frozen (frozen : (w.graph.wire i).frozen = true) :
    Fails (Steps.write i v) w (.system .frozen) w :=
  ⟨0, fun _ _ _ => Run.bind_of_raised (Run.writeWire_frozen frozen)⟩

theorem fails_write_inside (thawed : (w.graph.wire i).frozen = false)
    (inside : w.graph.stack = .derived d :: rest)
    (differs : Runs (Act.equal (w.graph.wire i).value v) w false w₁) :
    Fails (Steps.write i v) w (.system (.writeInDerived (w.graph.derived d).label))
      (w₁.update (·.setValue i v)) := by
  obtain ⟨relinks, -⟩ := differs.relinks
  obtain ⟨n, differs⟩ := differs
  have label : (w₁.graph.derived d).label = (w.graph.derived d).label :=
    relinks.derived_of (·.label) (fun _ _ _ => rfl) d
  refine ⟨n + 1, fun k le next => Run.bind_of_raised ?_⟩
  obtain ⟨k, rfl⟩ := Nat.exists_eq_add_of_le' (Nat.le_of_add_left_le le)
  have compared : Run.perform setting (k + 1) (.script (setting.same (w.graph.wire i).value v)) w =
      .ok none w₁ := differs k (by omega) _
  rw [Run.writeWire_apply thawed, Run.bind_of_ok compared, ← label]
  exact Run.replaceValue_inside (relinks.stack.trans inside)

/-- What a refused write changes. In every world and however the wire is written: once the new value
has come about, a write to a frozen wire is refused in the world as it is. If the innermost tracker
is a derived value and the new value is not equal to the old one, the write is refused in the world
that comparing the two values has led to, with the new value in the wire. That graph differs from the
one before in the value of that wire, and in links to wires that the comparison has read; flags, the
queue and all other wires are as they were, and so is the page. -/
theorem refused_write_changes {i : Nat} {x : WireWrite} {w w₁ : World} {v : Value}
    (made : Runs (x.newValue i) w v w₁) :
    ((w₁.graph.wire i).frozen = true → Fails (x.act i) w (.system .frozen) w₁) ∧
    ∀ d rest w₂, (w₁.graph.wire i).frozen = false → w₁.graph.stack = .derived d :: rest →
      Runs (Act.equal (w₁.graph.wire i).value v) w₁ false w₂ →
      Fails (x.act i) w (.system (.writeInDerived (w₁.graph.derived d).label))
          ⟨w₂.graph.setValue i v, w₂.host⟩ ∧
        (w₁.graph.setValue i v).Relinks (w₂.graph.setValue i v) ∧ w₂.host = w₁.host := by
  rw [x.act_eq i]
  refine ⟨fun frozen => made.fails (fails_write_frozen frozen).bind, ?_⟩
  intro d rest w₂ thawed inside differs
  obtain ⟨relinks, host⟩ := differs.relinks
  exact ⟨made.fails (fails_write_inside thawed inside differs).bind, relinks_setValue relinks i v, host⟩

end Refusals

def writer (stack : List Reactive.Tracker) (frozen : Bool) : World where
  graph := {
    wires := #[⟨.int 0, frozen, []⟩]
    deriveds := #[⟨.named "d", ⟨.function 0, [], []⟩, .none, true, !stack.isEmpty, [], []⟩]
    stack := stack }
  host := {
    functions := #[.scripted "d" 0 [.set "w" (.literal (.int 1))]]
    names := [("w", .wire 0)] }

open Page.Order in
theorem refused_write_changes_writer :
    Fails ((WireWrite.augment .add (.int 1)).act 0) (writer [] true) (.system .frozen)
      (writer [] true) ∧
    Fails ((WireWrite.set (.int 1)).act 0) (writer [.derived 0] false)
      (.system (.writeInDerived (.named "d")))
      ⟨(writer [.derived 0] false).graph.setValue 0 (.int 1), (writer [.derived 0] false).host⟩ := by
  constructor
  · have made : Runs ((WireWrite.augment .add (.int 1)).newValue 0) (writer [] true) (.int 1)
        (writer [] true) := (runs_read (by decide)).bind (.of_eq fun _ _ => rfl)
    exact (refused_write_changes made).1 rfl
  · have made : Runs ((WireWrite.set (.int 1)).newValue 0) (writer [.derived 0] false) (.int 1)
        (writer [.derived 0] false) := (runs_look _).bind (runs_pure _ _)
    exact ((refused_write_changes made).2 0 [] _ rfl rfl (.of_eq fun _ _ => rfl)).1

open Page.Order in
/-- The derived value is read: the write is refused, and its value is there afterwards. -/
theorem refused_write_is_stored :
    let task : Reactive.Task Value Call Host Failure :=
      .script (.read (.derived 0) fun v => .done (some v))
    let read := Run.perform setting 20 task (writer [] false)
    read.fault?.bind Failure.message? =
        some "Cannot modify wire state inside a derived (derived fn=d)" ∧
      ((writer [] false).graph.wire 0).value.int? = some 0 ∧
      (read.world.graph.wire 0).value.int? = some 1 := by
  refine ⟨?_, ?_, ?_⟩ <;> decide +kernel

end Page

end AttrBinder
