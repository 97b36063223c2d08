import AttrBinder.Proofs.Binder.Runs

/-!
One binding of a property to a cell, as generated code leaves it: an effect that shows the cell's
value in the property, and a listener that hands the property's value to the cell. What each of
them does when it is called.
-/

namespace AttrBinder

open Reactive (Steps)

namespace ValueKind

def property : ValueKind → String
  | string => "value"
  | boolean => "checked"

def event : ValueKind → String
  | string => "input"
  | boolean => "change"

def Holds : ValueKind → Value → Prop
  | string, v => ∃ s, v = .str s
  | boolean, v => ∃ b, v = .bool b

theorem toNative_eq (kind : ValueKind) : kind.toNative = (Support.toNative kind).name := by
  cases kind <;> rfl

theorem fromNative_eq (kind : ValueKind) : kind.fromNative = (Support.fromNative kind).name := by
  cases kind <;> rfl

end ValueKind

/-- The property and the event that a descriptor is for are those of its kind. -/
theorem PropertyDescriptor.eq_of_ofProperty? (known : ofProperty? p = some d) :
    p = d.kind.property ∧ d.event = d.kind.event := by
  unfold ofProperty? at known
  split at known
  · next value =>
      cases known
      exact ⟨beq_iff_eq.mp value, rfl⟩
  · split at known
    · next checked =>
        cases known
        exact ⟨beq_iff_eq.mp checked, rfl⟩
    · cases known

/-- The names that generated code uses are told apart. -/
structure Config.Distinct (c : Config) : Prop where
  element : c.elementName ≠ c.aliasName
  function : c.functionName ≠ c.aliasName
  unreserved : ¬ (Config.stem c.aliasName).toList <+: c.elementName.toList

namespace Config.Distinct

variable {c : Config}

theorem element_ne_param (names : c.Distinct) (role : String) :
    c.elementName ≠ Lowering.paramName c role := by
  intro eq
  refine names.unreserved ⟨role.toList, ?_⟩
  rw [eq, ← String.toList_append]
  rfl

end Config.Distinct

theorem alias_ne_param (c : Config) (role : String) : c.aliasName ≠ Lowering.paramName c role := by
  intro eq
  have length := congrArg String.length eq
  simp only [Lowering.paramName, String.length_append] at length
  have one : "_".length = 1 := rfl
  omega

theorem param_ne_param (c : Config) (ne : role ≠ other) :
    Lowering.paramName c role ≠ Lowering.paramName c other := by
  intro eq
  refine ne (String.toList_inj.mp ?_)
  have same := congrArg String.toList eq
  simpa [Lowering.paramName] using same

theorem Text.Wide.replaced_ofString (s : String) : (Text.Wide.ofString s).replaced = s := by
  simp [ofString, replaced, Function.comp_def, Point.char?]

/-- Where a property of an element is bound to a cell, and the names that the code uses. -/
structure Spot where
  kind : ValueKind
  element : Nat
  cell : Nat
  config : Config

namespace Spot

variable (s : Spot)

def cellParam : String := Lowering.paramName s.config "cell"

def eventParam : String := Lowering.paramName s.config "event"

def writerFrame : Frame where
  names := [s.config.elementName, s.cellParam]
  values := [(s.config.elementName, .node s.element), (s.cellParam, .wire s.cell)]

def listenerFrame : Frame where
  names := [s.eventParam, s.cellParam]
  values := [(s.eventParam, .event (.str s.kind.event) (.node s.element)), (s.cellParam, .wire s.cell)]

end Spot

/-- A binding: its spot, where its code stands, its effect, and the numbers of its functions. -/
structure Binding extends Spot where
  index : Int
  scope : Scope
  effect : Nat
  writer : Nat
  listener : Nat

namespace Binding

variable (b : Binding)

def cellName : String := Lowering.localName b.config "cell" b.index

def writerCode : Callable :=
  .code (Lowering.localName b.config "bind" b.index)
    (.ordinaryOnly [.mk b.config.elementName (some (Lowering.element b.config)),
      .mk b.cellParam (some (.name b.cellName))])
    [(b.config.elementName, .node b.element), (b.cellParam, .wire b.cell)]
    (.block [.evaluate ((Lowering.element b.config).method "set_property"
      [.text b.kind.property, Lowering.helper b.config (Support.toNative b.kind).name
        [(Expr.name b.cellParam).method "get" []]])])
    b.scope

def listenerCode : Callable :=
  .code (Lowering.localName b.config "listen" b.index)
    (.ordinaryOnly [.mk b.eventParam none, .mk b.cellParam (some (.name b.cellName))])
    [(b.cellParam, .wire b.cell)]
    (.block [.evaluate ((Expr.name b.cellParam).method "set"
      [Lowering.helper b.config (Support.fromNative b.kind).name
        [Lowering.helper b.config Support.eventTargetProperty.name
          [.name b.eventParam, .text b.kind.property]]])])
    b.scope

end Binding

def Kept {α : Type} (xs ys : Array α) : Prop :=
  ∀ (i : Nat) x, xs[i]? = some x → ys[i]? = some x

namespace Kept

variable {α : Type} {xs ys zs : Array α}

theorem refl (xs : Array α) : Kept xs xs := fun _ _ => id

theorem trans (first : Kept xs ys) (second : Kept ys zs) : Kept xs zs :=
  fun i x found => second i x (first i x found)

theorem push (xs : Array α) (x : α) : Kept xs (xs.push x) := fun i y found => by
  rw [Array.getElem?_push, if_neg (by have := Array.getElem?_eq_some_iff.mp found; grind)]
  exact found

theorem getD_eq (kept : Kept xs ys) (lt : i < xs.size) (d : α) : ys.getD i d = xs.getD i d := by
  simp only [Array.getD_eq_getD_getElem?, kept i _ (Array.getElem?_eq_getElem lt),
    Array.getElem?_eq_getElem lt]

theorem size_le (kept : Kept xs ys) (lt : i < xs.size) : i < ys.size :=
  (Array.getElem?_eq_some_iff.mp (kept i _ (Array.getElem?_eq_getElem lt))).1

end Kept

namespace Host

def Unseen (h : Host) (name : String) (frames : List Nat) : Prop :=
  ∀ f ∈ frames, f < h.frames.size ∧ name ∉ (h.frames.getD f default).names

/-- A page whose objects and code are kept and may have been added to. The variables of its
functions stay the same, but not their values. -/
structure Grows (h h' : Host) : Prop where
  lists : Kept h.lists h'.lists
  plains : Kept h.plains h'.plains
  functions : Kept h.functions h'.functions
  modules : Kept h.modules h'.modules
  frames : ∀ f, f < h.frames.size → f < h'.frames.size ∧
    (h'.frames.getD f default).names = (h.frames.getD f default).names

theorem Grows.refl (h : Host) : h.Grows h :=
  ⟨.refl _, .refl _, .refl _, .refl _, fun _ lt => ⟨lt, rfl⟩⟩

theorem Grows.trans {h h' h'' : Host} (first : h.Grows h') (second : h'.Grows h'') :
    h.Grows h'' where
  lists := first.lists.trans second.lists
  plains := first.plains.trans second.plains
  functions := first.functions.trans second.functions
  modules := first.modules.trans second.modules
  frames f lt :=
    have mid := first.frames f lt
    have last := second.frames f mid.1
    ⟨last.1, last.2.trans mid.2⟩

theorem Unseen.mono {h h' : Host} {name : String} {frames : List Nat}
    (unseen : h.Unseen name frames) (grows : h.Grows h') : h'.Unseen name frames := fun f mem => by
  obtain ⟨lt, absent⟩ := unseen f mem
  obtain ⟨lt', same⟩ := grows.frames f lt
  exact ⟨lt', same ▸ absent⟩

theorem Unseen.lookupFrames {h : Host} {name : String} {frames : List Nat}
    (unseen : h.Unseen name frames) (innermost : Bool) :
    Act.lookupFrames h name innermost frames = none := by
  induction frames generalizing innermost with
  | nil => rfl
  | cons f frames ih =>
    obtain ⟨here, rest⟩ := List.forall_mem_cons.mp unseen
    rw [Act.lookupFrames, if_neg (by simpa using here.2)]
    exact ih rest false

theorem getD_withFrame_size (h : Host) (f : Frame) :
    (h.withFrame f).frames.getD h.frames.size default = f := by
  simp [withFrame, Array.getD_eq_getD_getElem?]

theorem grows_withFrame (h : Host) (f : Frame) : h.Grows (h.withFrame f) where
  lists := .refl _
  plains := .refl _
  functions := .refl _
  modules := .refl _
  frames i lt := ⟨(Kept.push h.frames f).size_le lt, by rw [withFrame, (Kept.push h.frames f).getD_eq lt]⟩

theorem lookupFrames_own {h : Host} {f : Frame} {name : String} {v : Value} {frames : List Nat}
    (own : name ∈ f.names) (found : f.values.get? name = some v) :
    Act.lookupFrames (h.withFrame f) name true (h.frames.size :: frames) = some (.ok v) := by
  rw [Act.lookupFrames, getD_withFrame_size, if_pos (by simpa using own), found]

theorem Unseen.lookupFrames_push {h : Host} {f : Frame} {name : String} {frames : List Nat}
    (unseen : h.Unseen name frames) (other : name ∉ f.names) :
    Act.lookupFrames (h.withFrame f) name true (h.frames.size :: frames) = none := by
  rw [Act.lookupFrames, getD_withFrame_size, if_neg (by simpa using other)]
  exact (unseen.mono (grows_withFrame h f)).lookupFrames false

end Host

namespace Binding

/-- The code of a binding's effect is there, with the names that the binding uses. -/
structure Coded (b : Binding) (h : Host) : Prop where
  names : b.config.Distinct
  writer : h.functions[b.writer]? = some b.writerCode
  unseen : h.Unseen b.config.aliasName b.scope.frames
  module : b.scope.module < h.modules.size
  support : (h.modules.getD b.scope.module []).get? b.config.aliasName = some .supportModule

theorem Coded.mono {b : Binding} {h h' : Host} (coded : b.Coded h) (grows : h.Grows h') :
    b.Coded h' where
  names := coded.names
  writer := grows.functions _ _ coded.writer
  unseen := coded.unseen.mono grows
  module := grows.modules.size_le coded.module
  support := by
    rw [grows.modules.getD_eq coded.module]
    exact coded.support

def inside (b : Binding) (w : Page.World) : Scope :=
  ⟨w.host.frames.size :: b.scope.frames, b.scope.module⟩

def display (b : Binding) (h : Host) (v : Value) : Host :=
  (h.withFrame b.writerFrame).modifyNode b.element (·.setProperty b.kind.property v)

end Binding

namespace Page

section Calls

variable [Order] {b : Binding} {w w' : World} {f : Frame} {v : Value}

theorem runs_support (coded : b.Coded w.host) (other : b.config.aliasName ∉ f.names) :
    Runs ((Expr.name b.config.aliasName).eval (b.inside w))
      { w with host := w.host.withFrame f } .supportModule
      { w with host := w.host.withFrame f } :=
  runs_name_module (coded.unseen.lookupFrames_push other) coded.support

theorem runs_own (own : x ∈ f.names) (found : f.values.get? x = some v) :
    Runs ((Expr.name x).eval (b.inside w)) { w with host := w.host.withFrame f } v
      { w with host := w.host.withFrame f } :=
  runs_name_frame (Host.lookupFrames_own own found)

theorem runs_toNative {kind : ValueKind} (holds : kind.Holds v) (w : World) :
    Runs (Act.support (.toNative kind) [v]) w v w := by
  cases kind with
  | string =>
    obtain ⟨s, rfl⟩ := holds
    exact runs_pure _ _
  | boolean =>
    obtain ⟨x, rfl⟩ := holds
    exact runs_pure _ _

theorem runs_fromNative {kind : ValueKind} (holds : kind.Holds v) (w : World) :
    Runs (Act.support (.fromNative kind) [v]) w v w := by
  cases kind with
  | string =>
    obtain ⟨s, rfl⟩ := holds
    exact runs_pure _ _
  | boolean =>
    obtain ⟨x, rfl⟩ := holds
    exact runs_pure _ _

theorem runs_wire_get (there : j < w.graph.wires.size) :
    Runs (Act.callMethod (.wire j) "get" []) w (w.graph.wire j).value
      (w.update (·.track (.wire j))) :=
  (runs_look w).bind (runs_read there)

theorem runs_wire_set (runs : Runs (Steps.write j v) w () w') :
    Runs (Act.callMethod (.wire j) "set" [v]) w .none w' :=
  (runs_look w).bind (runs.bind (runs_pure _ _))

theorem runs_set_property (i : Nat) (name : String) (v : Value) (w : World) :
    Runs (Act.callMethod (.node i) "set_property" [.str name, v]) w .none
      { w with host := w.host.modifyNode i (·.setProperty name v) } := by
  refine (runs_look w).bind ?_
  change Runs (Act.namedMethod i "set_property" (Text.Wide.replaced name) [v]) w _ _
  rw [Text.Wide.replaced_ofString]
  exact (runs_modifyHost _ w).bind (runs_pure _ _)

theorem runs_get_property (found : (w.host.node i).properties.get? name = some v) :
    Runs (Act.callMethod (.node i) "get_property" [.str name]) w v w := by
  refine (runs_look w).bind ?_
  change Runs (Act.namedMethod i "get_property" (Text.Wide.replaced name) []) w _ _
  rw [Text.Wide.replaced_ofString]
  refine (runs_host w).bind ?_
  rw [found]
  exact runs_pure _ _

theorem runs_writer (coded : b.Coded w.host) (there : b.cell < w.graph.wires.size)
    (holds : b.kind.Holds (w.graph.wire b.cell).value) :
    Runs (Call.invoke ⟨.function b.writer, [], []⟩) w .none
      ⟨w.graph.track (.wire b.cell), b.display w.host (w.graph.wire b.cell).value⟩ := by
  have ne := coded.names.element_ne_param "cell"
  have own : b.writerFrame.values.get? b.cellParam = some (.wire b.cell) := by
    simp [Spot.writerFrame, Table.get?, Spot.cellParam, ne]
  have mine : b.writerFrame.values.get? b.config.elementName = some (.node b.element) := by
    simp [Spot.writerFrame, Table.get?]
  have other : b.config.aliasName ∉ b.writerFrame.names := by
    simp [Spot.writerFrame, Spot.cellParam, coded.names.element.symm, alias_ne_param]
  have fits : Params.bind? (.ordinaryOnly
      [.mk b.config.elementName (some (Lowering.element b.config)),
        .mk b.cellParam (some (.name b.cellName))])
      [(b.config.elementName, .node b.element), (b.cellParam, .wire b.cell)] [] [] =
        some b.writerFrame.values := by
    simp [Params.bind?, Params.ordinaryOnly, Params.takeKeywords, Params.fill, Table.get?, Table.set,
      Param.name, Spot.writerFrame, Spot.cellParam, ne]
  have read : Runs (((Expr.name b.cellParam).method "get" []).eval (b.inside w)) _ _ _ :=
    runs_method (runs_own (by simp [Spot.writerFrame]) own) rfl (runs_evalItems_nil _)
      (runs_wire_get there)
  have native := runs_helper (runs_support coded other)
    (runs_evalItems_cons (by simp [Expr.method, Expr.apply]) read (runs_evalItems_nil _))
    (runs_toNative holds _)
  have write := runs_method (runs_own (by simp [Spot.writerFrame]) mine) rfl
    (runs_evalItems_cons (by simp [Expr.text]) (runs_text _ _)
      (runs_evalItems_cons (by simp [Lowering.helper, Expr.method, Expr.apply]) native
        (runs_evalItems_nil _)))
    (runs_set_property b.element b.kind.property _ _)
  exact runs_code coded.writer fits rfl (runs_execAll_cons (runs_evaluate write) (runs_execAll_nil _))

theorem runs_listener (coded : b.Coded w.host)
    (heard : w.host.functions[b.listener]? = some b.listenerCode)
    (found : (w.host.node b.element).properties.get? b.kind.property = some v)
    (holds : b.kind.Holds v)
    (writes : Runs (Steps.write b.cell v) { w with host := w.host.withFrame b.listenerFrame } () w') :
    Runs (Call.invoke ⟨.function b.listener, [.event (.str b.kind.event) (.node b.element)], []⟩) w
      .none w' := by
  have ne : b.eventParam ≠ b.cellParam := param_ne_param b.config (by decide)
  have own : b.listenerFrame.values.get? b.cellParam = some (.wire b.cell) := by
    simp [Spot.listenerFrame, Table.get?, ne]
  have event : b.listenerFrame.values.get? b.eventParam =
      some (.event (.str b.kind.event) (.node b.element)) := by
    simp [Spot.listenerFrame, Table.get?]
  have other : b.config.aliasName ∉ b.listenerFrame.names := by
    simp [Spot.listenerFrame, Spot.cellParam, Spot.eventParam, alias_ne_param]
  have fits : Params.bind? (.ordinaryOnly
      [.mk b.eventParam none, .mk b.cellParam (some (.name b.cellName))])
      [(b.cellParam, .wire b.cell)] [.event (.str b.kind.event) (.node b.element)] [] =
        some b.listenerFrame.values := by
    simp [Params.bind?, Params.ordinaryOnly, Params.takeKeywords, Params.fill, Table.get?, Table.set,
      Param.name, Spot.listenerFrame, ne]
  have target : Runs (Act.eventTargetProperty (.event (.str b.kind.event) (.node b.element))
      (.str b.kind.property)) { w with host := w.host.withFrame b.listenerFrame } v
      { w with host := w.host.withFrame b.listenerFrame } := by
    refine ((runs_look _).bind (runs_pure _ _)).bind ?_
    refine (runs_pure _ _).bind ?_
    exact Runs.call (runs_get_property found)
  have reported := runs_helper (f := .eventTargetProperty) (runs_support coded other)
    (runs_evalItems_cons (by simp) (runs_own (by simp [Spot.listenerFrame]) event)
      (runs_evalItems_cons (by simp [Expr.text]) (runs_text _ _) (runs_evalItems_nil _))) target
  have native := runs_helper (runs_support coded other)
    (runs_evalItems_cons (by simp [Lowering.helper, Expr.method, Expr.apply]) reported
      (runs_evalItems_nil _)) (runs_fromNative holds _)
  have set := runs_method (runs_own (by simp [Spot.listenerFrame]) own) rfl
    (runs_evalItems_cons (by simp [Lowering.helper, Expr.method, Expr.apply]) native
      (runs_evalItems_nil _)) (runs_wire_set writes)
  exact runs_code heard fits rfl (runs_execAll_cons (runs_evaluate set) (runs_execAll_nil _))

end Calls

end Page

end AttrBinder
