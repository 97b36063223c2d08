import AttrBinder.Proofs.Binder.Connect
import AttrBinder.Proofs.Binder.Gesture

/-!
How a page gets its bindings. The statements that a binder has for a bound property lead from a page
with bindings to one with one more (`Bound.connected`), if the property is not bound yet and nothing
but bindings is at the element and at the cell; so do the attributes of a list one after another
(`Connects`).
-/

namespace AttrBinder.Page

open Reactive (Graph Effect Tracker)

theorem ValueKind.event_inj {a b : ValueKind} (same : a.event = b.event) : a = b := by
  cases a <;> cases b <;> first | rfl | exact absurd same (by decide)

/-- The numbers that a new binding gets. -/
structure Numbered (b : Binding) (w : World) : Prop where
  effect : b.effect = w.graph.effects.size
  writer : b.writer = w.host.functions.size
  listener : b.listener = w.host.functions.size + 1

/-- The page on which a binder knows the cell and has made the function of the effect. -/
def prepared (b : Binding) (f : Nat) (h : Host) : Host :=
  ((h.setLocal f b.cellName (.wire b.cell)).withFunction b.writerCode).setLocal f
    (Lowering.localName b.config "bind" b.index) (.function b.writer)

def joined (b : Binding) (g : PageGraph) : PageGraph :=
  (g.addEffect (.named (Lowering.localName b.config "bind" b.index))
    ⟨.function b.writer, [], []⟩).reran b.effect b.cell

def connected (b : Binding) (f : Nat) (w : World) : World :=
  ⟨joined b w.graph, (((b.display (prepared b f w.host) (w.graph.wire b.cell).value).withFunction
    b.listenerCode).setLocal f (Lowering.localName b.config "listen" b.index)
      (.function b.listener)).modifyNode b.element
        (·.addListener b.kind.event (.function b.listener))⟩

theorem grows_prepared (b : Binding) (f : Nat) (h : Host) : h.Grows (prepared b f h) :=
  ((h.grows_setLocal f _ _).trans (Host.grows_withFunction _ _)).trans (Host.grows_setLocal _ f _ _)

theorem grows_connected (b : Binding) (f : Nat) (w : World) : w.host.Grows (connected b f w).host :=
  ((((grows_prepared b f w.host).trans (b.grows_display _ _)).trans
    (Host.grows_withFunction _ _)).trans (Host.grows_setLocal _ f _ _)).trans
      (Host.grows_modifyNode _ _ _)

section Open

variable {t : Site} {h : Host} {w : World}

theorem Binding.frame_display (b : Binding) (there : f < h.frames.size) (v : Value) :
    (b.display h v).frames.getD f default = h.frames.getD f default :=
  (Kept.push h.frames b.writerFrame).getD_eq there _

theorem Site.Open.display (opened : t.Open h) (b : Binding) (v : Value) : t.Open (b.display h v) :=
  have frame := Binding.frame_display b opened.scene.there v
  ⟨opened.scene.mono (b.grows_display h v) (frame ▸ opened.scene.node), frame ▸ opened.names⟩

theorem Site.prepared_eq (t : Site) (known : PropertyDescriptor.ofProperty? p = some d) (w : World) :
    t.prepared index p d (.wire j) w.host =
      Page.prepared (t.binding index d.kind j w) t.frame w.host := by
  rw [Site.prepared, Site.define, t.writer_eq known w]
  rfl

theorem Site.Open.connected (opened : t.Open w.host) (names : t.config.Distinct) (index : Int)
    (kind : ValueKind) (j : Nat) :
    t.Open (connected (t.binding index kind j w) t.frame w).host := by
  let b := t.binding index kind j w
  have prepared : t.Open (Page.prepared b t.frame w.host) :=
    (opened.setLocal names "cell" (.wire j)).define names "bind" b.writerCode
  have displayed := prepared.display b (w.graph.wire j).value
  have coded : t.Open ((b.display (Page.prepared b t.frame w.host) (w.graph.wire j).value).withFunction
      b.listenerCode) := ⟨displayed.scene.withFunction b.listenerCode, displayed.names⟩
  have heard : t.Open (Host.setLocal _ t.frame (t.own "listen" index) (.function b.listener)) :=
    coded.setLocal names "listen" (.function b.listener)
  exact ⟨heard.scene.mono (Host.grows_modifyNode _ _ _) heard.scene.node, heard.names⟩

end Open

section Statements

variable [Order] {t : Site} {index : Int} {p : String} {d : PropertyDescriptor} {j : Nat} {w : World}
variable {e : Expr}

theorem runs_binding (opened : t.Open w.host) (names : t.config.Distinct)
    (own : ∀ role ∈ ["cell", "bind", "listen"], t.own role index ∈ t.names)
    (plain : ∀ x, e ≠ .starred x) (known : PropertyDescriptor.ofProperty? p = some d)
    (value : Runs (e.eval t.scope) w (.wire j) w) (flat : w.graph.depth = 0)
    (there : j < w.graph.wires.size) (holds : d.kind.Holds (w.graph.wire j).value)
    (apart : .effect w.graph.effects.size ∉ (w.graph.wire j).subscribers) :
    Runs (Stmt.execAll t.scope (Lowering.binding t.config index p d e)) w ()
      (connected (t.binding index d.kind j w) t.frame w) := by
  let b := t.binding index d.kind j w
  let w₁ : World := ⟨w.graph, t.prepared index p d (.wire j) w.host⟩
  have coded : b.Coded w₁.host := t.coded_prepared names opened known index j
  have added := effect_addEffect w.graph (.named (t.own "bind" index)) ⟨.function b.writer, [], []⟩
    b.effect
  rw [if_pos (show b.effect = w.graph.effects.size from rfl)] at added
  have ran := performs_effect (b := b) (w := w₁.update (·.addEffect (.named (t.own "bind" index))
    ⟨.function b.writer, [], []⟩)) coded flat there holds (congrArg Effect.body added)
    (congrArg Effect.disposed added) (congrArg Effect.running added)
    (.inr ⟨congrArg Effect.dependencies added, apart⟩)
  have effect : Runs (Site.newEffect (t.own "bind" index) w.host) w₁ w.graph.effects.size
      ⟨joined b w.graph, b.display w₁.host (w.graph.wire j).value⟩ := runs_newEffect ran
  have before : t.Open w₁.host := opened.prepared names
  have cell : ((b.display w₁.host (w.graph.wire j).value).frames.getD t.frame default).values.get?
      (t.own "cell" index) = some (.wire j) := by
    rw [Binding.frame_display b before.scene.there]
    have other : t.own "cell" index ≠ t.own "bind" index := localName_ne (by decide) index
    exact ((opened.setLocal names "cell" (.wire j)).scene.withFunction _ |>.get?_setLocal_ne other).trans
      opened.scene.get?_setLocal_self
  have made := comes_binding (r := .ok w.graph.effects.size) opened names own plain value
    (runs_requireCell j w) opened effect fun _ _ => ⟨before.display b _, cell⟩
  have number : w₁.host.functions.size = w.host.functions.size + 1 := Array.size_push ..
  have same : t.bound index p d (.wire j) ⟨joined b w.graph, b.display w₁.host (w.graph.wire j).value⟩
      (.ok w.graph.effects.size) = connected b t.frame w := by
    change (⟨_, Host.modifyNode (Host.setLocal _ _ _ (.function w₁.host.functions.size)) _
      (·.addListener _ (.function w₁.host.functions.size))⟩ : World) = _
    rw [number, t.listener_eq known w, (PropertyDescriptor.eq_of_ofProperty? known).2]
    simp only [w₁, t.prepared_eq known w]
    rfl
  exact same ▸ made

end Statements

section Attach

variable {b : Binding} {w : World} {f : Nat}

/-- What a new binding needs: an element and a cell of its kind, a property that is not bound yet,
and nothing but bindings at both. -/
structure Fresh (bs : List Binding) (b : Binding) (w : World) : Prop where
  element : b.element < w.host.nodes.size
  cell : b.cell < w.graph.wires.size
  thawed : (w.graph.wire b.cell).frozen = false
  holds : b.kind.Holds (w.graph.wire b.cell).value
  spot : ∀ a ∈ bs, a.element = b.element → a.kind ≠ b.kind
  listeners : (∃ a ∈ bs, a.element = b.element) ∨
    (∀ kind : ValueKind, (w.host.node b.element).listeners.get? kind.event = none) ∧
      ∀ v, (w.host.node b.element).properties.get? "checked" = some v → ∃ x, v = .bool x
  subscribers : (∃ a ∈ bs, a.cell = b.cell) ∨ (w.graph.wire b.cell).subscribers = []

variable {bs : List Binding}

theorem Fresh.effects (fresh : Fresh bs b w) (wired : Wired bs w) :
    (w.graph.wire b.cell).subscribers.Perm
      ((bs.filter (·.cell = b.cell)).map fun c => .effect c.effect) := by
  by_cases shared : ∃ a ∈ bs, a.cell = b.cell
  · obtain ⟨a, ha, cell⟩ := shared
    rw [← cell]
    exact wired.subscribers a ha
  · rw [fresh.subscribers.resolve_left shared,
      List.filter_eq_nil_iff.mpr fun a ha => by simpa using fun cell => shared ⟨a, ha, cell⟩]
    exact .nil

theorem Wired.effect_lt (wired : Wired bs w) (ha : a ∈ bs) : a.effect < w.graph.effects.size :=
  Graph.effect_lt_of_not_disposed (wired.attached a ha).live

theorem Fresh.apart (fresh : Fresh bs b w) (wired : Wired bs w) (new : Numbered b w) :
    .effect b.effect ∉ (w.graph.wire b.cell).subscribers := by
  rw [(fresh.effects wired).mem_iff, List.mem_map]
  rintro ⟨c, mem, eq⟩
  have lt := wired.effect_lt (List.mem_filter.mp mem).1
  rw [Tracker.effect.inj eq, new.effect] at lt
  exact Nat.lt_irrefl _ lt

theorem nodes_connected (b : Binding) (f : Nat) (w : World) :
    (connected b f w).host.nodes =
      (w.host.nodes.modify b.element
        (·.setProperty b.kind.property (w.graph.wire b.cell).value)).modify b.element
          (·.addListener b.kind.event (.function b.listener)) := by
  simp only [connected, prepared, Binding.display, Host.modifyNode, Host.setLocal,
    Host.withFunction, Host.withFrame]

theorem node_connected (b : Binding) (f : Nat) (w : World) (k : Nat) :
    (connected b f w).host.node k = if b.element = k ∧ k < w.host.nodes.size then
      ((w.host.node k).setProperty b.kind.property (w.graph.wire b.cell).value).addListener
        b.kind.event (.function b.listener)
    else w.host.node k := by
  simp only [Host.node, nodes_connected, getD_modify, Array.size_modify]
  split <;> rfl

theorem wire_joined (b : Binding) (g : PageGraph) (k : Nat) :
    (joined b g).wire k = if b.cell = k ∧ k < g.wires.size then
      { g.wire k with
        subscribers := (g.wire k).subscribers.filter (· ≠ .effect b.effect) ++ [.effect b.effect] }
    else g.wire k :=
  Graph.wire_reran _ b.effect b.cell k

theorem value_joined (b : Binding) (g : PageGraph) (k : Nat) :
    ((joined b g).wire k).value = (g.wire k).value ∧
      ((joined b g).wire k).frozen = (g.wire k).frozen :=
  Graph.value_reran _ b.effect b.cell k

theorem effect_joined_of_lt (new : Numbered b w) (lt : k < w.graph.effects.size) :
    (joined b w.graph).effect k = w.graph.effect k := by
  rw [joined, Graph.effect_reran, if_neg fun both => Nat.ne_of_gt lt (new.effect.symm.trans both.1),
    effect_addEffect, if_neg (Nat.ne_of_lt lt)]

theorem effect_joined_self (new : Numbered b w) :
    (joined b w.graph).effect b.effect =
      { label := .named (Lowering.localName b.config "bind" b.index), body := ⟨.function b.writer, [], []⟩,
        runs := 1, dependencies := [.wire b.cell] } := by
  have there : b.effect < (w.graph.addEffect (.named (Lowering.localName b.config "bind" b.index))
      ⟨.function b.writer, [], []⟩).effects.size := by
    simp [Graph.addEffect, new.effect]
  rw [joined, Graph.effect_reran, if_pos ⟨rfl, there⟩, effect_addEffect, if_pos new.effect]

theorem attached_connected_of_mem (new : Numbered b w) {a : Binding} (ha : a.Attached w) :
    a.Attached (connected b f w) := by
  have grows := grows_connected b f w
  have nodes : (connected b f w).host.nodes.size = w.host.nodes.size := by
    rw [nodes_connected, Array.size_modify, Array.size_modify]
  have wires : (connected b f w).graph.wires.size = w.graph.wires.size := Array.size_modify
  have wire := value_joined b w.graph a.cell
  have effect := effect_joined_of_lt new (Graph.effect_lt_of_not_disposed ha.live)
  exact ⟨ha.coded.mono grows, grows.functions _ _ ha.heard, ha.element.trans_eq nodes.symm,
    ha.cell.trans_eq wires.symm,
    wire.2.trans ha.thawed, wire.1.symm ▸ ha.holds, (congrArg Effect.body effect).trans ha.body,
    (congrArg Effect.disposed effect).trans ha.live, (congrArg Effect.running effect).trans ha.idle,
    (congrArg Effect.dependencies effect).trans ha.reads⟩

theorem attached_connected_self (new : Numbered b w)
    (coded : b.Coded (prepared b f w.host)) (fresh : Fresh bs b w) :
    b.Attached (connected b f w) := by
  have nodes : (connected b f w).host.nodes.size = w.host.nodes.size := by
    rw [nodes_connected, Array.size_modify, Array.size_modify]
  have wires : (connected b f w).graph.wires.size = w.graph.wires.size := Array.size_modify
  have wire := value_joined b w.graph b.cell
  have effect := effect_joined_self new
  have grows : (prepared b f w.host).Grows (connected b f w).host :=
    (((b.grows_display _ _).trans (Host.grows_withFunction _ _)).trans
      (Host.grows_setLocal _ f _ _)).trans (Host.grows_modifyNode _ _ _)
  have heard : (connected b f w).host.functions[b.listener]? = some b.listenerCode := by
    have number : b.listener = (prepared b f w.host).functions.size :=
      new.listener.trans (Array.size_push ..).symm
    rw [number]
    exact Host.function_withFunction (b.display (prepared b f w.host) _) b.listenerCode
  exact ⟨coded.mono grows, heard, fresh.element.trans_eq nodes.symm,
    fresh.cell.trans_eq wires.symm,
    wire.2.trans fresh.thawed, wire.1.symm ▸ fresh.holds, congrArg Effect.body effect,
    congrArg Effect.disposed effect, congrArg Effect.running effect,
    congrArg Effect.dependencies effect⟩

theorem kept_connected (b : Binding) (f : Nat) (w : World) (other : k = b.element → kind ≠ b.kind) :
    ((connected b f w).host.node k).listeners.get? kind.event =
        (w.host.node k).listeners.get? kind.event ∧
      ((connected b f w).host.node k).properties.get? kind.property =
        (w.host.node k).properties.get? kind.property := by
  rw [node_connected]
  split
  · next both =>
      have ne := other both.1.symm
      exact ⟨Table.get?_set_ne _ _ fun same => ne (ValueKind.event_inj same),
        Table.get?_set_ne _ _ fun same => ne (ValueKind.property_inj same)⟩
  · exact ⟨rfl, rfl⟩

theorem Fresh.unheard (fresh : Fresh bs b w) (wired : Wired bs w)
    (absent : ∀ a ∈ bs, a.element = b.element → a.kind ≠ kind) :
    (w.host.node b.element).listeners.get? kind.event = none := by
  rcases fresh.listeners with ⟨a, ha, element⟩ | ⟨none, -⟩
  · rw [← element] at absent ⊢
    exact wired.unheard a ha kind absent
  · exact none kind

theorem Fresh.ticks (fresh : Fresh bs b w) (wired : Wired bs w)
    (found : (w.host.node b.element).properties.get? "checked" = some v) : ∃ x, v = .bool x := by
  rcases fresh.listeners with ⟨a, ha, element⟩ | ⟨-, ticks⟩
  · rw [← element] at found
    exact wired.ticks a ha v found
  · exact ticks v found

theorem connected_listeners (fresh : Fresh bs b w) (wired : Wired bs w) :
    ((connected b f w).host.node b.element).listeners.get? b.kind.event =
      some [.function b.listener] := by
  rw [node_connected, if_pos ⟨rfl, fresh.element⟩]
  have none : (w.host.node b.element).listeners.get? b.kind.event = none :=
    fresh.unheard wired fresh.spot
  refine (Table.get?_set_self _ _ _).trans ?_
  change some (((w.host.node b.element).listeners.get? b.kind.event).getD [] ++ _) = _
  rw [none]
  rfl

theorem subscribers_connected (new : Numbered b w) (fresh : Fresh bs b w) (wired : Wired bs w) :
    ((connected b f w).graph.wire b.cell).subscribers.Perm
      (((b :: bs).filter (·.cell = b.cell)).map fun c => .effect c.effect) := by
  have others : ∀ t ∈ (w.graph.wire b.cell).subscribers, t ≠ .effect b.effect := by
    rintro _ mem rfl
    exact fresh.apart wired new mem
  rw [connected, wire_joined, if_pos ⟨rfl, fresh.cell⟩, List.filter_cons_of_pos (by simp),
    List.map_cons]
  change ((w.graph.wire b.cell).subscribers.filter _ ++ _).Perm _
  rw [List.filter_eq_self.mpr fun t mem => by simpa using others t mem]
  exact (List.perm_append_singleton _ _).trans ((fresh.effects wired).cons _)

theorem Bound.connected (bound : Bound bs w) (new : Numbered b w)
    (coded : b.Coded (prepared b f w.host)) (fresh : Fresh bs b w) :
    Bound (b :: bs) (connected b f w) := by
  have wired := bound.wired
  have shown : Shown b (Page.connected b f w) := by
    rw [Shown, node_connected, if_pos ⟨rfl, fresh.element⟩]
    refine (Table.get?_set_self _ _ _).trans (congrArg some ?_)
    exact (value_joined b w.graph b.cell).1.symm
  have spot {a : Binding} (ha : a ∈ bs) (element : a.element = b.element) : a.kind ≠ b.kind :=
    fresh.spot a ha element
  constructor
  case shown =>
    intro a mem
    rcases List.mem_cons.mp mem with rfl | ha
    · exact shown
    · rw [Shown, (kept_connected b f w (spot ha)).2]
      exact (bound.shown a ha).trans (congrArg some (value_joined b w.graph a.cell).1.symm)
  case wired =>
    constructor
    case stack => exact wired.stack
    case depth => exact wired.depth
    case queue => exact wired.queue
    case attached =>
      intro a mem
      rcases List.mem_cons.mp mem with rfl | ha
      · exact attached_connected_self new coded fresh
      · exact attached_connected_of_mem new (wired.attached a ha)
    case effects =>
      refine List.nodup_cons.mpr ⟨fun mem => ?_, wired.effects⟩
      obtain ⟨a, ha, eq⟩ := List.mem_map.mp mem
      have lt := wired.effect_lt ha
      rw [eq, new.effect] at lt
      exact Nat.lt_irrefl _ lt
    case spots =>
      intro a ha c hc element kind
      rcases List.mem_cons.mp ha with rfl | ha' <;> rcases List.mem_cons.mp hc with rfl | hc'
      · rfl
      · exact absurd kind.symm (spot hc' element.symm)
      · exact absurd kind (spot ha' element)
      · exact wired.spots a ha' c hc' element kind
    case subscribers =>
      intro a mem
      by_cases same : a.cell = b.cell
      · rw [same]
        exact subscribers_connected new fresh wired
      · have ha : a ∈ bs :=
          (List.mem_cons.mp mem).resolve_left fun eq => same (congrArg (·.cell) eq)
        rw [List.filter_cons_of_neg (by simpa using fun eq => same eq.symm), Page.connected,
          wire_joined, if_neg fun both => same both.1.symm]
        exact wired.subscribers a ha
    case listeners =>
      intro a mem
      rcases List.mem_cons.mp mem with rfl | ha
      · exact connected_listeners fresh wired
      · rw [(kept_connected b f w (spot ha)).1]
        exact wired.listeners a ha
    case unheard =>
      intro a mem kind absent
      have other : a.element = b.element → kind ≠ b.kind := fun element eq =>
        absent b List.mem_cons_self element.symm eq.symm
      rw [(kept_connected b f w other).1]
      have elsewhere : ∀ c ∈ bs, c.element = a.element → c.kind ≠ kind := fun c hc =>
        absent c (List.mem_cons_of_mem b hc)
      rcases List.mem_cons.mp mem with rfl | ha
      · exact fresh.unheard wired elsewhere
      · exact wired.unheard a ha kind elsewhere
    case ticks =>
      intro a mem v found
      by_cases here : a.element = b.element ∧ b.kind = .boolean
      · have held := shown
        rw [Shown, here.2, ← here.1] at held
        have value : v = (w.graph.wire b.cell).value :=
          (Option.some.inj (found.symm.trans held)).trans (value_joined b w.graph b.cell).1
        have holds := fresh.holds
        rw [here.2, ← value] at holds
        exact holds
      · rw [← ValueKind.property, (kept_connected b f w fun element eq => here ⟨element, eq.symm⟩).2] at found
        rcases List.mem_cons.mp mem with rfl | ha
        · exact fresh.ticks wired found
        · exact wired.ticks a ha v found

end Attach

/-! ## Lists -/

/-- What a binder does where all attributes of its list are bound properties: the expression of each
gives a wire and does nothing else, and a new binding connects the wire with the property. -/
inductive Connects [Order] (t : Site) :
    List Lowered → List Binding → World → List Binding → World → Prop
  | nil {bs : List Binding} {w : World} : Connects t [] bs w bs w
  | cons {l : Lowered} {ls : List Lowered} {bs bs' : List Binding} {w w' : World} {p : String}
      {span : Span} {d : PropertyDescriptor} {index : Int} {j : Nat}
      (binds : l.attr.directive = .binding p span)
      (known : PropertyDescriptor.ofProperty? p = some d)
      (number : (Generator.mk t.config fun _ => true).generate index (some d) l.attr = .ok l.statements)
      (value : Runs (l.attr.expr.eval t.scope) w (.wire j) w)
      (fresh : Fresh bs (t.binding index d.kind j w) w)
      (rest : Connects t ls (t.binding index d.kind j w :: bs)
        (connected (t.binding index d.kind j w) t.frame w) bs' w') :
      Connects t (l :: ls) bs w bs' w'

theorem execAll_append (s : Scope) (xs ys : List Stmt) :
    Stmt.execAll s (xs ++ ys) = Stmt.execAll s xs >>= fun _ => Stmt.execAll s ys := by
  induction xs with
  | nil =>
    rw [List.nil_append, Stmt.execAll]
    rfl
  | cons x xs ih =>
    rw [List.cons_append, Stmt.execAll, Stmt.execAll, ih]
    rfl

theorem Connects.runs [Order] {t : Site} (connects : Connects t ls bs w bs' w')
    (names : t.config.Distinct) (opened : t.Open w.host) (bound : Bound bs w)
    (own : ∀ l ∈ ls, ∀ x ∈ (Stmt.surveyAll l.statements).bound, x ∈ t.names)
    (plain : ∀ l ∈ ls, ∀ x, l.attr.expr ≠ .starred x) :
    Runs (Stmt.execAll t.scope (ls.flatMap Lowered.statements)) w () w' ∧ Bound bs' w' := by
  induction connects with
  | nil => exact ⟨runs_execAll_nil _, bound⟩
  | @cons l ls bs bs' w w' p span d index j binds known number value fresh rest ih =>
    have statements : l.statements = Lowering.binding t.config index p d l.attr.expr :=
      eq_of_generate (g := ⟨t.config, fun _ => true⟩) binds number
    have mine : ∀ role ∈ ["cell", "bind", "listen"], t.own role index ∈ t.names := by
      intro role mem
      refine own l List.mem_cons_self _ ?_
      rw [statements]
      exact mem_bound_binding t.config index p d l.attr.expr role mem
    have new : Numbered (t.binding index d.kind j w) w := ⟨rfl, rfl, rfl⟩
    have coded := t.coded_prepared names opened known index j
    rw [t.prepared_eq known w] at coded
    have first := runs_binding opened names mine (plain l List.mem_cons_self) known value
      bound.wired.depth fresh.cell fresh.holds (fresh.apart bound.wired new)
    obtain ⟨more, bound'⟩ := ih (opened.connected names index d.kind j)
      (bound.connected new coded fresh) (fun l mem => own l (List.mem_cons_of_mem _ mem))
      fun l mem => plain l (List.mem_cons_of_mem _ mem)
    rw [List.flatMap_cons, execAll_append, statements]
    exact ⟨first.bind more, bound'⟩

end AttrBinder.Page
