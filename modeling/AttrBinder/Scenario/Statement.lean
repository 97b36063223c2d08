import AttrBinder.Binder.Loader
import AttrBinder.Scenario.Snapshot
import AttrBinder.Text.Lines

/-!
What the expressions and statements of a scenario do.
-/

namespace AttrBinder.Scenario

open Reactive (Steps Label Source Tracker)

def named (name : String) : Act Value := do
  let h ← Steps.host
  match h.names.get? name with
  | some v => return v
  | none => Act.fail (.unbound name)

def bindName (name : String) (v : Value) : Act Unit :=
  Steps.modifyHost fun h => { h with names := h.names.set name v }

def callNamed (name method : String) (args : List Value) : Act Value := do
  let v ← named name
  let f ← Act.member v method
  Act.call f args []

namespace Literal

mutual

def make : Literal → Act Value
  | none => return .none
  | bool b => return .bool b
  | int n => if Numeric.hasDecimal n then return .int n else Act.misuse .value
  | float x => Act.newFloat x
  | str s => return .str s
  | list xs => do
    let vs ← makeAll xs
    Act.newList vs
  | tuple xs => do
    let vs ← makeAll xs
    return .tuple vs
  | dict es => do
    let entries ← makeEntries es []
    return .dict entries
  | type t => return .type t
  | kind k => return .kind k
  | wire x => do
    let v ← make x
    let i ← Steps.newWire v
    return .wire i
  | derived x => do
    let v ← make x
    let f ← Act.newFunction (.constant v)
    let i ← Steps.newDerived (.named "<lambda>") ⟨f, [], []⟩
    return .derived i
  | node tag properties => do
    let ps ← makeMembers properties
    Act.newNode (ps.foldl (fun n (k, v) => n.setProperty k v) { tag := tag })
  | ref => Act.newRef
  | event t x => do
    let type ← make t
    let target ← make x
    return .event type target
  | function x => do
    let v ← make x
    Act.newFunction (.constant v)
  | plain members => do
    let ms ← makeMembers members
    Act.newPlain ms
  | object name => named name

def makeAll : List Literal → Act (List Value)
  | [] => return []
  | x :: rest => do
    let v ← make x
    let vs ← makeAll rest
    return v :: vs

def makeEntries : List (Literal × Literal) → List (Value × Value) → Act (List (Value × Value))
  | [], entries => return entries
  | (k, x) :: rest, entries => do
    let key ← make k
    let v ← make x
    let entries ← Act.enter entries key v
    makeEntries rest entries

def makeMembers : List (String × Literal) → Act (Table Value)
  | [] => return []
  | (k, x) :: rest => do
    let v ← make x
    let vs ← makeMembers rest
    return (k, v) :: vs

end

end Literal

def trackerLabels (g : PageGraph) (ts : List Tracker) : List String :=
  (ts.map fun t => (g.label t).text).mergeSort

def sourceLabel (g : PageGraph) (h : Host) : Source → String
  | .wire i => (h.nameOf (.wire i)).getD "?"
  | .derived i => (g.derived i).label.text

def sourceLabels (g : PageGraph) (h : Host) (ss : List Source) : List String :=
  (ss.map (sourceLabel g h)).mergeSort

def textList (texts : List String) : Act Value :=
  Act.newList (texts.map fun (s : String) => .str s)

namespace Exp

def eval (arg : Value) : Exp → Act Value
  | literal x => x.make
  | object n => named n
  | get n => callNamed n "get" []
  | value n => do
    let v ← named n
    Act.member v "value"
  | peek n => callNamed n "peek" []
  | argument => return arg
  | eventType => Act.member arg "type"
  | eventTarget => Act.member arg "target"
  | binary op a b => do
    let u ← eval arg a
    let v ← eval arg b
    Act.binary op u v
  | compare op a b => do
    let u ← eval arg a
    let v ← eval arg b
    let holds ← Act.compare op u v
    return .bool holds
  | not e => do
    let v ← eval arg e
    let holds ← Act.truth v
    return .bool !holds
  | str e => do
    let v ← eval arg e
    let s ← Act.text v
    return .str s
  | repr e => do
    let v ← eval arg e
    let s ← Act.shown v
    return .str s
  | truth e => do
    let v ← eval arg e
    let holds ← Act.truth v
    return .bool holds
  | length e => do
    let v ← eval arg e
    let n ← Act.length v
    return .int n
  | upper e => do
    let v ← eval arg e
    let f ← Act.member v "upper"
    Act.call f [] []
  | choose t a b => do
    let v ← eval arg t
    let holds ← Act.truth v
    if holds then eval arg a else eval arg b
  | format e spec => do
    let v ← eval arg e
    let s ← Act.format v spec
    return .str s
  | runs n => do
    let v ← named n
    Act.member v "runs"
  | disposed n => do
    let v ← named n
    Act.member v "disposed"
  | dependencies n => do
    let v ← named n
    let (g, h) ← Steps.look
    match v with
    | .derived i => textList (sourceLabels g h (g.dependencies (.derived i)))
    | .effect i => textList (sourceLabels g h (g.dependencies (.effect i)))
    | _ => Act.misuse .member
  | subscribers n => do
    let v ← named n
    let (g, _) ← Steps.look
    match v with
    | .wire i => textList (trackerLabels g (g.subscribers (.wire i)))
    | .derived i => textList (trackerLabels g (g.subscribers (.derived i)))
    | _ => Act.misuse .member
  | isSet n => callNamed n "is_set" []
  | attr n k => callNamed n "get_attribute" [.str k]
  | property n k fallback => do
    let v ← named n
    let f ← Act.member v "get_property"
    match fallback with
    | none => Act.call f [.str k] []
    | some e => do
      let d ← eval arg e
      Act.call f [.str k, d] []
  | isElement e => do
    let v ← eval arg e
    let holds ← Act.isElement v
    return .bool holds

def evalOption (arg : Value) : Option Exp → Act Value
  | none => return .none
  | some e => e.eval arg

end Exp

def assignValue (v new : Value) : Act Unit :=
  match v with
  | .wire i => Steps.write i new
  | .plain i => Steps.modifyHost fun h => { h with plains := h.plains.modify i (·.set "value" new) }
  | .effect _ => return ()
  | .node _ => return ()
  | .ref _ => return ()
  | .event _ _ => return ()
  | .function _ => return ()
  | _ => Act.misuse .member

/-- Applies an operator to what a value holds, in place. A wire takes the result as its new value
and remains itself. -/
def augmentValue (how : InPlace) (v operand : Value) : Act Value :=
  match v with
  | .wire i => do
    let old ← Steps.read (.wire i)
    let new ← Act.augment how.op old operand
    Steps.write i new
    return v
  | v => Act.augment how.op v operand

/-- The registered texts: file name, length and number of lines, in order of the names. -/
def registered : Act Value := do
  let h ← Steps.host
  let files := h.registry.mergeSort fun a b => a.1 ≤ b.1
  let rows ← files.foldlM (fun rows (file, text) => do
    let row ← Act.newList [.str file, .int text.length, .int (Text.lineCount text)]
    return rows ++ [row]) []
  Act.newList rows

namespace Statement

mutual

def run (arg : Value) : Statement → Act Value
  | wire n e => do
    let v ← e.eval arg
    let i ← Steps.newWire v
    bindName n (.wire i)
    return .none
  | define n e => do
    let v ← e.eval arg
    bindName n v
    return .none
  | derived n anonymous body => do
    let f ← Act.newFunction (.scripted n 0 body)
    let i ← Steps.newDerived (label n anonymous) ⟨f, [], []⟩
    bindName n (.derived i)
    return .none
  | effect n anonymous body => do
    let f ← Act.newFunction (.scripted n 0 body)
    let i ← Steps.newEffect (label n anonymous) ⟨f, [], []⟩
    bindName n (.effect i)
    return .none
  | handler n body => do
    let f ← Act.newFunction (.scripted n 1 body)
    bindName n f
    return .none
  | node n tag => do
    let v ← Act.newNode { tag := tag }
    bindName n v
    return .none
  | ref n => do
    let v ← Act.newRef
    bindName n v
    return .none
  | set n e => do
    let v ← named n
    let f ← Act.member v "set"
    let new ← e.eval arg
    Act.call f [new] []
  | assign n e => do
    let new ← e.eval arg
    let v ← named n
    assignValue v new
    return .none
  | augment how n e => do
    let v ← named n
    let operand ← e.eval arg
    let r ← augmentValue how v operand
    return .bool (r.identical v)
  | update n e => do
    let v ← named n
    match v with
    | .wire i => do
      let g ← Steps.graph
      let new ← e.eval (g.wire i).value
      Steps.write i new
      return .none
    | _ => Act.misuse .member
  | act n method => callNamed n method []
  | batch body => do
    Steps.batch (runAll arg body)
    return .none
  | startBatch => do
    Steps.startBatch
    return .none
  | endBatch => do
    Steps.endBatch
    return .none
  | log channel e => do
    Steps.modifyHost fun h => h.log channel []
    let v ← e.eval arg
    let h ← Steps.host
    match v.now h with
    | .ok s => do
      Steps.setHost (h.log channel [.value s])
      return .none
    | .error m => Act.misuse m
  | raise kind message => Act.fail (.raised kind message)
  | choose t yes no => do
    let v ← t.eval arg
    let holds ← Act.truth v
    if holds then runAll arg yes else runAll arg no
    return .none
  | attempt channel body => do
    Steps.attempt (runAll arg body) fun f =>
      if f.caught then Steps.modifyHost fun h => h.log channel [.failure f] else Act.fail f
    return .none
  | leave e => do
    let v ← e.eval arg
    Steps.leave (some v)
  | evaluate e => e.eval arg
  | loader n config =>
    match config with
    | .error f => Act.fail (.config f)
    | .ok c => do
      Steps.modifyHost fun h => { h with loaders := h.loaders.set n { config := c } }
      return .none
  | bind el source l => do
    let v ← named el
    let h ← Steps.host
    Act.bind l source v h.names
    return .none
  | load n source l bare => do
    let h ← Steps.host
    let f ← Act.load l source (if bare then [] else h.names)
    Steps.modifyHost fun h => { h with binders := h.binders.set n f }
    return .none
  | apply n el => do
    let h ← Steps.host
    match h.binders.get? n with
    | none => Act.fail (.unbound n)
    | some f => do
      let v ← named el
      Act.call f [v] []
  | cacheSize l => do
    let x ← Act.loader l
    return .int x.cache.length
  | clearCache l => do
    Act.clearCache l
    return .none
  | registry => registered
  | dispatch el event given => do
    let v ← named el
    let f ← Act.member v "dispatch"
    let e ← Exp.evalOption arg given
    Act.call f [.str event, e] []
  | input el e => do
    let v ← named el
    let f ← Act.member v "input"
    let t ← e.eval arg
    Act.call f [t] []
  | toggle el e => do
    let v ← named el
    let f ← Act.member v "toggle"
    let c ← Exp.evalOption arg e
    Act.call f [c] []
  | setAttribute el k e => callOn arg el "set_attribute" k e
  | setProperty el k e => callOn arg el "set_property" k e
  | registerEvent el k e => callOn arg el "register_event" k e
  | assignRef n e => do
    let v ← named n
    let f ← Act.member v "assign"
    let x ← e.eval arg
    Act.call f [x] []
where
  label (n : String) (anonymous : Bool) : Label :=
    if anonymous then .anonymous ("<anon " ++ n ++ ">") else .named n
  callOn (arg : Value) (el method k : String) (e : Exp) : Act Value := do
    let v ← named el
    let f ← Act.member v method
    let x ← e.eval arg
    Act.call f [.str k, x] []

def runAll (arg : Value) : List Statement → Act Unit
  | [] => return ()
  | s :: rest => do
    let _ ← run arg s
    runAll arg rest

end

end Statement

end AttrBinder.Scenario
