import AttrBinder.Proofs.Binder.Sync

/-!
What a user and the code around a page do with bound elements: they write cells, type texts and
tick boxes. Every such step leaves all bindings shown. It writes the property of each binding of
the cell that it changes once, and writes no other; of all listeners it calls those of the one
event that it reports.
-/

namespace AttrBinder

open Reactive (Steps Source Tracker Run Graph)

/-- A step from outside of a page. -/
inductive Gesture where
  | write (cell : Nat) (value : Value)
  | input (element : Nat) (text : Text.Wide)
  /-- Ticks a box, or changes its tick if no state is given. -/
  | toggle (element : Nat) (state : Option Bool)

def Gesture.act : Gesture → Act Value
  | write j v => Act.callMethod (.wire j) "set" [v]
  | input i s => Act.input i (.str s)
  | toggle i none => Act.toggle i .none
  | toggle i (some x) => Act.toggle i (.bool x)

namespace Page

/-- Bindings that hang together and show their cells. -/
structure Bound (bs : List Binding) (w : World) : Prop where
  wired : Wired bs w
  shown : ∀ b ∈ bs, Shown b w

/-- Nothing on the page has been written or called, and no cell has changed. -/
structure Rests (w w' : World) : Prop where
  graph : w'.graph = w.graph
  writes : ∀ i, writes w' i = writes w i
  frames : w'.host.frames = w.host.frames

/-- What entering a value of a kind into an element comes to: the listener of its binding hands the
value to the cell; without a binding nothing follows. -/
def Enters (bs : List Binding) (w w' : World) (i : Nat) (kind : ValueKind) (v : Value) : Prop :=
  (∃ b ∈ bs, b.element = i ∧ b.kind = kind ∧ Reacts bs w w' [b.listenerFrame] b.cell v) ∨
    (∀ b ∈ bs, b.element = i → b.kind ≠ kind) ∧ Rests w w'

/-- What a gesture may be on a page of bindings: it writes a bound cell with a value of its kind, or
touches an element that has a binding. -/
def Allows (bs : List Binding) : Gesture → Prop
  | .write j v => ∃ b ∈ bs, b.cell = j ∧ b.kind.Holds v
  | .input i _ => ∃ b ∈ bs, b.element = i
  | .toggle i _ => ∃ b ∈ bs, b.element = i

def nextTick (w : World) (i : Nat) : Option Bool → Value
  | some x => .bool x
  | none => match (w.host.node i).properties.get? "checked" with
    | some (.bool x) => .bool !x
    | _ => .bool true

def Responds (bs : List Binding) (w w' : World) : Gesture → Prop
  | .write j v => Reacts bs w w' [] j v ∧ w'.host.notes = w.host.notes
  | .input i s => Enters bs w w' i .string (.str s) ∧
      ∃ n, w'.host.notes = .dispatched "input" (w.host.node i).tag n :: w.host.notes
  | .toggle i state => Enters bs w w' i .boolean (nextTick w i state) ∧
      ∃ n, w'.host.notes = .dispatched "change" (w.host.node i).tag n :: w.host.notes

section Enter

variable {bs : List Binding} {w w' : World} {i : Nat} {kind : ValueKind} {v : Value}

/-- The page on which a value has been entered into an element and the event is about to be
reported. -/
def entered (w : World) (i : Nat) (kind : ValueKind) (v : Value) (n : Nat) : World :=
  ⟨w.graph, (w.host.modifyNode i (·.enterProperty kind.property v)).note
    (.dispatched kind.event (w.host.node i).tag n)⟩

theorem node_entered (w : World) (i j : Nat) (kind : ValueKind) (v : Value) (n : Nat) :
    (entered w i kind v n).host.node j = if i = j ∧ j < w.host.nodes.size then
      (w.host.node j).enterProperty kind.property v else w.host.node j :=
  Host.node_modifyNode w.host i j _

theorem kept_entered (w : World) (i j : Nat) (kind : ValueKind) (v : Value) (n : Nat) :
    ((entered w i kind v n).host.node j).listeners = (w.host.node j).listeners ∧
      writes (entered w i kind v n) j = writes w j ∧
      ((entered w i kind v n).host.node j).tag = (w.host.node j).tag := by
  rw [writes, node_entered]
  split <;> exact ⟨rfl, rfl, rfl⟩

theorem get?_entered_ne (other : j = i → name ≠ kind.property) :
    ((entered w i kind v n).host.node j).properties.get? name =
      (w.host.node j).properties.get? name := by
  rw [node_entered]
  split
  · next both => exact Table.get?_set_ne _ _ (other both.1.symm)
  · rfl

theorem get?_entered_self (there : i < w.host.nodes.size) :
    ((entered w i kind v n).host.node i).properties.get? kind.property = some v := by
  rw [node_entered, if_pos ⟨rfl, there⟩]
  exact Table.get?_set_self _ _ _

theorem Wired.entered (wired : Wired bs w) (holds : kind.Holds v) (n : Nat) :
    Wired bs (entered w i kind v n) := by
  have node (j : Nat) := kept_entered w i j kind v n
  have size : (Page.entered w i kind v n).host.nodes.size = w.host.nodes.size := Array.size_modify
  have grows : w.host.Grows (Page.entered w i kind v n).host :=
    ⟨.refl _, .refl _, .refl _, .refl _, fun _ lt => ⟨lt, rfl⟩⟩
  refine ⟨wired.stack, wired.depth, wired.queue, fun b hb => ?_, wired.effects, wired.spots,
    wired.subscribers, fun b hb => ?_, fun b hb other absent => ?_, fun b hb u found => ?_⟩
  · have there := wired.attached b hb
    exact ⟨there.coded.mono grows, there.heard, size ▸ there.element, there.cell, there.thawed, there.holds,
      there.body, there.live, there.idle, there.reads⟩
  · rw [(node b.element).1]
    exact wired.listeners b hb
  · rw [(node b.element).1]
    exact wired.unheard b hb other absent
  · by_cases here : b.element = i ∧ "checked" = kind.property
    · obtain ⟨rfl, checked⟩ := here
      rw [checked, get?_entered_self (wired.attached b hb).element] at found
      obtain rfl := Option.some.inj found
      have boolean : kind = .boolean := ValueKind.property_inj checked.symm
      rw [boolean] at holds
      exact holds
    · rw [get?_entered_ne fun eq same => here ⟨eq, same⟩] at found
      exact wired.ticks b hb u found

theorem Wired.withFrame (wired : Wired bs w) (f : Frame) :
    Wired bs { w with host := w.host.withFrame f } :=
  ⟨wired.stack, wired.depth, wired.queue, fun b hb =>
    let there := wired.attached b hb
    ⟨there.coded.mono (Host.grows_withFrame w.host f), there.heard, there.element, there.cell, there.thawed,
      there.holds, there.body, there.live, there.idle, there.reads⟩,
    wired.effects, wired.spots, wired.subscribers, wired.listeners, wired.unheard, wired.ticks⟩

section Order

variable [Order]

def enterValue (i : Nat) (kind : ValueKind) (v : Value) : Act Value := do
  Act.modifyNode i (·.enterProperty kind.property v)
  Act.dispatch i kind.event .none

theorem runs_enter (handlers : List Value)
    (listeners : ((w.host.node i).listeners.get? kind.event).getD [] = handlers)
    (handled : Runs (Act.handle (.event (.str kind.event) (.node i)) handlers)
      (entered w i kind v handlers.length) () w') :
    Runs (enterValue i kind v) w (.event (.str kind.event) (.node i)) w' := by
  have same := kept_entered w i i kind v handlers.length
  refine (runs_modifyHost _ w).bind ?_
  have untold : Runs (Act.truth .none)
      { w with host := w.host.modifyNode i (·.enterProperty kind.property v) } false
      { w with host := w.host.modifyNode i (·.enterProperty kind.property v) } :=
    .of_eq fun _ _ => rfl
  refine untold.bind ((runs_host _).bind ((runs_setHost _ _).bind ?_))
  have heard : (((w.host.modifyNode i (·.enterProperty kind.property v)).node i).listeners.get?
      kind.event).getD [] = handlers := same.1 ▸ listeners
  have tag : ((w.host.modifyNode i (·.enterProperty kind.property v)).node i).tag =
      (w.host.node i).tag := same.2.2
  rw [heard, tag]
  exact handled.bind (runs_pure _ _)

theorem Bound.enter (bound : Bound bs w) (kind : ValueKind) (holds : kind.Holds v)
    (touched : ∃ b ∈ bs, b.element = i) :
    ∃ r w', Runs (enterValue i kind v) w r w' ∧ Bound bs w' ∧ Enters bs w w' i kind v ∧
      ∃ n, w'.host.notes = .dispatched kind.event (w.host.node i).tag n :: w.host.notes := by
  by_cases there : ∃ b ∈ bs, b.element = i ∧ b.kind = kind
  · obtain ⟨b, hb, rfl, rfl⟩ := there
    have mine := bound.wired.attached b hb
    have wired := bound.wired.entered (i := b.element) holds 1
    have found : ((Page.entered w b.element b.kind v 1).host.node b.element).properties.get?
        b.kind.property = some v := get?_entered_self mine.element
    -- The frame of the listener is the only call before the write.
    obtain ⟨w', runs, wired', reacts, notes, shown⟩ :=
      (wired.withFrame b.listenerFrame).write hb holds
    refine ⟨_, w', runs_enter [.function b.listener] ?_
      ((Runs.call (runs_listener (wired.attached b hb).coded mine.heard found holds runs)).bind (runs_pure _ _)),
      ⟨wired', fun a ha => shown a ha fun untouched => ?_⟩, .inl ⟨b, hb, rfl, rfl, ?_⟩, 1, notes⟩
    · rw [bound.wired.listeners b hb]
      rfl
    · by_cases same : a = b
      · subst same
        have held := untouched.resolve_left fun ne => ne rfl
        change ((Page.entered w a.element a.kind v 1).host.node a.element).properties.get? _ = _
        rw [found]
        exact congrArg some held.symm
      · change ((Page.entered w b.element b.kind v 1).host.node a.element).properties.get? _ = _
        rw [get?_entered_ne fun element property => same (bound.wired.spots a ha b hb element
          (ValueKind.property_inj property))]
        exact bound.shown a ha
    · obtain ⟨cs, changed, counts, frames⟩ := reacts.shows
      refine ⟨reacts.value, reacts.others, cs, changed, fun j => (counts j).trans ?_, frames.trans ?_⟩
      · exact congrArg (· + _) (kept_entered w b.element j b.kind v 1).2.1
      · change (w.host.frames.push b.listenerFrame).toList ++ _ = _
        simp
  · have absent : ∀ a ∈ bs, a.element = i → a.kind ≠ kind := fun a ha element eq =>
      there ⟨a, ha, element, eq⟩
    obtain ⟨b, hb, rfl⟩ := touched
    refine ⟨_, Page.entered w b.element kind v 0, runs_enter [] ?_ (runs_pure _ _),
      ⟨bound.wired.entered holds 0, fun a ha => ?_⟩,
      .inr ⟨absent, rfl, fun j => (kept_entered w b.element j kind v 0).2.1, rfl⟩, 0, rfl⟩
    · rw [bound.wired.unheard b hb kind absent]
      rfl
    · rw [Shown, get?_entered_ne fun element property =>
        absent a ha element (ValueKind.property_inj property)]
      exact bound.shown a ha

end Order

end Enter

theorem Bound.gesture [Order] (bound : Bound bs w) (allowed : Allows bs g) :
    ∃ r w', Runs g.act w r w' ∧ Bound bs w' ∧ Responds bs w w' g := by
  cases g with
  | write j v =>
    obtain ⟨b, hb, rfl, holds⟩ := allowed
    obtain ⟨w', runs, wired, reacts, notes, shown⟩ := bound.wired.write hb holds
    exact ⟨_, w', runs_wire_set runs, ⟨wired, fun a ha => shown a ha fun _ => bound.shown a ha⟩,
      reacts, notes⟩
  | input i s =>
    obtain ⟨r, w', runs, bound', enters, notes⟩ := bound.enter .string ⟨s, rfl⟩ allowed
    exact ⟨r, w', runs, bound', enters, notes⟩
  | toggle i state =>
    obtain ⟨b, hb, rfl⟩ := allowed
    have current : ∃ x, ((w.host.node b.element).properties.get? "checked").getD (.bool false) =
        .bool x ∧ nextTick w b.element state = .bool (state.getD !x) := by
      cases state with
      | some y =>
        cases found : (w.host.node b.element).properties.get? "checked" with
        | none => exact ⟨false, rfl, rfl⟩
        | some u =>
          obtain ⟨x, rfl⟩ := bound.wired.ticks b hb u found
          exact ⟨x, rfl, rfl⟩
      | none =>
        cases found : (w.host.node b.element).properties.get? "checked" with
        | none => exact ⟨false, rfl, by rw [nextTick, found]; rfl⟩
        | some u =>
          obtain ⟨x, rfl⟩ := bound.wired.ticks b hb u found
          exact ⟨x, rfl, by rw [nextTick, found]; rfl⟩
    obtain ⟨x, held, next⟩ := current
    obtain ⟨r, w', runs, bound', enters, notes⟩ :=
      bound.enter .boolean (v := nextTick w b.element state) ⟨_, next⟩ ⟨b, hb, rfl⟩
    have truth : Runs (Act.truth (((w.host.node b.element).properties.get? "checked").getD
        (.bool false))) w x w := by
      rw [held]
      exact .of_eq fun _ _ => rfl
    refine ⟨r, w', ?_, bound', enters, notes⟩
    rw [next] at runs
    cases state with
    | none => exact (runs_host w).bind (truth.bind runs)
    | some y => exact (runs_host w).bind (truth.bind runs)

end Page

end AttrBinder
