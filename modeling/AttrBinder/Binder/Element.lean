import AttrBinder.Value.Member

/-!
Elements in memory. Writing an attribute or a property never reports an event; only dispatching
one does, and the helpers that stand for a user's typing and clicking.
-/

namespace AttrBinder

namespace Node

def setAttribute (n : Node) (name : String) (value : Value) : Node :=
  { n with attributeWrites := n.attributeWrites + 1, attributes := n.attributes.set name value }

def setProperty (n : Node) (name : String) (value : Value) : Node :=
  { n with propertyWrites := n.propertyWrites + 1, properties := n.properties.set name value }

def enterProperty (n : Node) (name : String) (value : Value) : Node :=
  { n with properties := n.properties.set name value }

def addListener (n : Node) (event : String) (handler : Value) : Node :=
  { n with listeners := n.listeners.set event ((n.listeners.get? event).getD [] ++ [handler]) }

end Node

namespace Act

open Reactive (Steps)

def modifyNode (i : Nat) (f : Node → Node) : Act Unit :=
  Steps.modifyHost fun h => h.modifyNode i f

def registerEvent (i : Nat) (event : String) (handler : Value) : Act Unit :=
  if handler.isCallable then modifyNode i (·.addListener event handler)
  else fail (.notHandler event handler.typeName)

def handle (event : Value) : List Value → Act Unit
  | [] => return ()
  | f :: rest => do
    let _ ← call f [event] []
    handle event rest

/-- Reports an event to an element's listeners: the given one, or a new one if none is given. -/
def dispatch (i : Nat) (event : String) (given : Value) : Act Value := do
  let isGiven ← truth given
  let e : Value := if isGiven then given else .event (.str event) (.node i)
  let h ← Steps.host
  let n := h.node i
  let handlers := (n.listeners.get? event).getD []
  Steps.setHost (h.note (.dispatched event n.tag handlers.length))
  handle e handlers
  return e

def input (i : Nat) (text : Value) : Act Value := do
  modifyNode i (·.enterProperty "value" text)
  dispatch i "input" .none

def toggle (i : Nat) (checked : Value) : Act Value := do
  let h ← Steps.host
  let current ← truth (((h.node i).properties.get? "checked").getD (.bool false))
  let next := match checked with
    | .none => .bool !current
    | v => v
  modifyNode i (·.enterProperty "checked" next)
  dispatch i "change" .none

def namedMethod (i : Nat) (method name : String) (args : List Value) : Act Value :=
  match method, args with
  | "set_attribute", [v] => do
    modifyNode i (·.setAttribute name v)
    return .none
  | "get_attribute", [] => do
    let h ← Steps.host
    return ((h.node i).attributes.get? name).getD .none
  | "set_property", [v] => do
    modifyNode i (·.setProperty name v)
    return .none
  | "get_property", [] => do
    let h ← Steps.host
    return ((h.node i).properties.get? name).getD .none
  | "get_property", [v] => do
    let h ← Steps.host
    return ((h.node i).properties.get? name).getD v
  | "register_event", [f] => do
    registerEvent i name f
    return .none
  | "dispatch", [] => dispatch i name .none
  | "dispatch", [e] => dispatch i name e
  | _, _ => misuse .type

def elementMethod (i : Nat) (method : String) (args : List Value) : Act Value :=
  match method, args with
  | "input", [v] => input i v
  | "toggle", [] => toggle i .none
  | "toggle", [v] => toggle i v
  | "input", _ => misuse .type
  | "toggle", _ => misuse .type
  | method, .str name :: rest => namedMethod i method name.replaced rest
  | _, _ => misuse .type

end Act

end AttrBinder
