import AttrBinder.Value.Text

/-!
The members of values. A cell's `value` is read when it is asked for; methods are given as values
of their own and do nothing until they are called.
-/

namespace AttrBinder

namespace Value

def methods : Value → List String
  | wire _ => ["get", "set", "update", "peek", "freeze"]
  | derived _ => ["get", "peek", "execute"]
  | effect _ => ["execute", "dispose"]
  | node _ =>
    ["set_attribute", "get_attribute", "set_property", "get_property", "register_event",
     "dispatch", "input", "toggle"]
  | ref _ => ["assign", "get", "is_set"]
  | str _ => ["upper", "lower"]
  | list _ => ["append"]
  | dict _ => ["get"]
  | generator => ["throw"]
  | _ => []

end Value

def Table.toValue (t : Table Value) : Value :=
  .dict (t.map fun (k, v) => (.str k, v))

namespace Act

open Reactive (Steps)

def field? (v : Value) (name : String) : Act (Option Value) := do
  let (g, h) ← Steps.look
  match v, name with
  | .wire i, "value" => do
    let u ← Steps.read (.wire i)
    return some u
  | .derived i, "value" => do
    let u ← Steps.read (.derived i)
    return some u
  | .effect i, "runs" => return some (.int (g.effect i).runs)
  | .effect i, "disposed" => return some (.bool (g.effect i).disposed)
  | .node i, "tag" => return some (.str (h.node i).tag)
  | .node i, "attributes" => return some (h.node i).attributes.toValue
  | .node i, "properties" => return some (h.node i).properties.toValue
  | .node i, "attribute_writes" => return some (.int (h.node i).attributeWrites)
  | .node i, "property_writes" => return some (.int (h.node i).propertyWrites)
  | .event t _, "type" => return some t
  | .event _ x, "target" => return some x
  | .kind k, "name" => return some (.str k.name)
  | .kind k, "value" => return some (.str k.typeName)
  | .plain i, name => return (h.plain i).get? name
  | .supportModule, name => return (Support.ofName? name).map .support
  | _, _ => return none

def member? (v : Value) (name : String) : Act (Option Value) :=
  if v.methods.contains name then return some (.method v name) else field? v name

def member (v : Value) (name : String) : Act Value := do
  match ← member? v name with
  | some u => return u
  | none => misuse .member

def hasMember (v : Value) (name : String) : Act Bool := do
  match ← member? v name with
  | none => return false
  | some .none => return false
  | some _ => return true

def isElement (v : Value) : Act Bool := do
  let a ← hasMember v "set_attribute"
  let p ← hasMember v "set_property"
  let e ← hasMember v "register_event"
  return a && p && e

end Act

end AttrBinder
