import AttrBinder.Binder.Element
import AttrBinder.Value.Format

/-!
The functions that generated code calls: showing values, converting them between cells and
elements, checking cells, and reading a property off the element that reported an event.
-/

namespace AttrBinder.Act

open Reactive (Steps Label)

def toNative (kind : ValueKind) (v : Value) : Act Value :=
  match kind, v with
  | .boolean, .bool b => return .bool b
  | .boolean, v => do
    let s ← shown v
    fail (.notBool v.typeName s)
  | .string, v => do
    let s ← format v []
    return .str s

def fromNative (kind : ValueKind) (v : Value) : Act Value :=
  match kind, v with
  | .boolean, .bool b => return .bool b
  | .string, .str s => return .str s
  | kind, v => do
    let s ← shown v
    fail (.notNative kind s)

def hasMethod (v : Value) (name : String) : Act Bool := do
  match ← member? v name with
  | none => return false
  | some u => return u.isCallable

def requireCell (v : Value) : Act Value := do
  if ← hasMethod v "get" then
    if ← hasMethod v "set" then return v else fail (.notCell v.typeName)
  else fail (.notCell v.typeName)

def eventTargetProperty (event property : Value) : Act Value := do
  match (← member? event "target").getD .none with
  | .none => do
    let t ← member? event "type"
    let s ← shown (t.getD event)
    fail (.noTarget s)
  | target =>
    match (← member? target "get_property").getD .none with
    | .none =>
      match property with
      | .str name => member target name.replaced
      | _ => misuse .type
    | getter => call getter [property] []

def labelOf (f : Value) : Act Label := do
  let h ← Steps.host
  match f with
  | .function i =>
    match h.functions[i]? with
    | some (.code name _ _ _ _) => return .named name
    | some (.scripted name _ _) => return .named name
    | _ => return .named "<lambda>"
  | .method _ name => return .named name
  | .builtin name => return .named name
  | .type name => return .named name
  | .support s => return .named s.name
  | v => do
    let s ← shown v
    return .anonymous s

def support (f : Support) (args : List Value) : Act Value :=
  match f, args with
  | .createEffect, [v] => do
    let label ← labelOf v
    let e ← Steps.newEffect label ⟨v, [], []⟩
    return .effect e
  | .display, [v] => do
    let s ← format v []
    return .str s
  | .eventTargetProperty, [e, p] => eventTargetProperty e p
  | .requireCell, [v] => requireCell v
  | .toNative k, [v] => toNative k v
  | .fromNative k, [v] => fromNative k v
  | _, _ => misuse .type

end AttrBinder.Act
