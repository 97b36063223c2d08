import AttrBinder.Numeric.Complex
import AttrBinder.Property
import AttrBinder.Text.Wide

/-!
The values that expressions, cells and elements hold. Data that cannot change are held directly;
lists, cells, elements and other objects with a state of their own are held by number.
-/

namespace AttrBinder

/-- The functions that generated code gets from its support module. -/
inductive Support where
  | createEffect
  | display
  | eventTargetProperty
  | requireCell
  | toNative (kind : ValueKind)
  | fromNative (kind : ValueKind)
deriving DecidableEq, Repr, Inhabited

namespace Support

def all : List Support :=
  [createEffect, display, eventTargetProperty, requireCell, toNative .boolean, toNative .string,
   fromNative .boolean, fromNative .string]

def name : Support → String
  | createEffect => "create_effect"
  | display => "display"
  | eventTargetProperty => "event_target_property"
  | requireCell => "require_cell"
  | toNative k => k.toNative
  | fromNative k => k.fromNative

def ofName? (name : String) : Option Support :=
  all.find? fun s => s.name == name

end Support

inductive Value where
  | none
  | bool (value : Bool)
  | int (value : Int)
  | float (value : Numeric.Binary64)
  | nan (id : Nat)
  | complex (value : Numeric.Complex)
  | str (value : Text.Wide)
  | bytes (value : List UInt8)
  | ellipsis
  | tuple (items : List Value)
  | dict (entries : List (Value × Value))
  | list (id : Nat)
  | type (name : String)
  | kind (value : ValueKind)
  | wire (id : Nat)
  | derived (id : Nat)
  | effect (id : Nat)
  | node (id : Nat)
  | ref (id : Nat)
  | plain (id : Nat)
  | event (type target : Value)
  | function (id : Nat)
  | method (receiver : Value) (name : String)
  | builtin (name : String)
  /-- The names that are always there, as a module holds them. -/
  | builtins
  | supportModule
  | support (function : Support)
  | generator
deriving Inhabited

namespace Value

/-- Whether a value's methods belong to the language and not to the reactive system. -/
def isData : Value → Bool
  | none => true
  | bool _ => true
  | int _ => true
  | float _ => true
  | nan _ => true
  | complex _ => true
  | str _ => true
  | bytes _ => true
  | ellipsis => true
  | tuple _ => true
  | dict _ => true
  | list _ => true
  | type _ => true
  | builtins => true
  | _ => false

/-- Objects among the names that are always there which are no functions, with their types. -/
def oddBuiltins : List (String × String) :=
  [("NotImplemented", "NotImplementedType"), ("copyright", "_Printer"), ("credits", "_Printer"),
   ("exit", "Quitter"), ("help", "_Helper"), ("license", "_Printer"), ("quit", "Quitter")]

def typeName : Value → String
  | none => "NoneType"
  | bool _ => "bool"
  | int _ => "int"
  | float _ => "float"
  | nan _ => "float"
  | complex _ => "complex"
  | str _ => "str"
  | bytes _ => "bytes"
  | ellipsis => "ellipsis"
  | tuple _ => "tuple"
  | dict _ => "dict"
  | list _ => "list"
  | type _ => "type"
  | kind _ => "ValueKind"
  | wire _ => "Wire"
  | derived _ => "Derived"
  | effect _ => "Effect"
  | node _ => "VirtualNode"
  | ref _ => "NodeRef"
  | plain _ => "Plain"
  | event _ _ => "Event"
  | function _ => "function"
  | method r _ => if r.isData then "builtin_function_or_method" else "method"
  | builtin b => (oddBuiltins.lookup b).getD "builtin_function_or_method"
  | builtins => "dict"
  | supportModule => "module"
  | support _ => "function"
  | generator => "generator"

def isCallable : Value → Bool
  | function _ => true
  | method _ _ => true
  | builtin b => b != "NotImplemented"
  | support _ => true
  | type _ => true
  | _ => false

mutual

/-- Whether two values are one and the same. Data that cannot change are the same when they are
alike, undefined numbers apart. -/
def identical : Value → Value → Bool
  | tuple xs, b =>
    match b with
    | tuple ys => allIdentical xs ys
    | _ => false
  | dict xs, b =>
    match b with
    | dict ys => allEntriesIdentical xs ys
    | _ => false
  | event t x, b =>
    match b with
    | event u y => identical t u && identical x y
    | _ => false
  | method r n, b =>
    match b with
    | method s m => identical r s && n == m
    | _ => false
  | none, b => match b with | none => true | _ => false
  | bool x, b => match b with | bool y => x == y | _ => false
  | int x, b => match b with | int y => x == y | _ => false
  | float x, b => match b with | float y => x == y | _ => false
  | nan x, b => match b with | nan y => x == y | _ => false
  | complex x, b => match b with | complex y => x == y | _ => false
  | str x, b => match b with | str y => x == y | _ => false
  | bytes x, b => match b with | bytes y => x == y | _ => false
  | ellipsis, b => match b with | ellipsis => true | _ => false
  | list x, b => match b with | list y => x == y | _ => false
  | type x, b => match b with | type y => x == y | _ => false
  | kind x, b => match b with | kind y => x == y | _ => false
  | wire x, b => match b with | wire y => x == y | _ => false
  | derived x, b => match b with | derived y => x == y | _ => false
  | effect x, b => match b with | effect y => x == y | _ => false
  | node x, b => match b with | node y => x == y | _ => false
  | ref x, b => match b with | ref y => x == y | _ => false
  | plain x, b => match b with | plain y => x == y | _ => false
  | function x, b => match b with | function y => x == y | _ => false
  | builtin x, b => match b with | builtin y => x == y | _ => false
  | builtins, b => match b with | builtins => true | _ => false
  | supportModule, b => match b with | supportModule => true | _ => false
  | support x, b => match b with | support y => x == y | _ => false
  | generator, _ => false

def allIdentical : List Value → List Value → Bool
  | [], [] => true
  | x :: xs, y :: ys => identical x y && allIdentical xs ys
  | _, _ => false

def allEntriesIdentical : List (Value × Value) → List (Value × Value) → Bool
  | [], [] => true
  | (k, v) :: xs, (l, w) :: ys => identical k l && identical v w && allEntriesIdentical xs ys
  | _, _ => false

end

end Value

end AttrBinder
