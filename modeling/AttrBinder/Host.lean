import AttrBinder.Compile.Result
import AttrBinder.Failure
import AttrBinder.Table
import AttrBinder.Value.Basic

/-!
The state of a page apart from its reactive graph: objects by number, the variables of code, the
names of a scenario, compiled attribute lists, and what has been logged.
-/

namespace AttrBinder

/-- An element in memory. Attributes are shown, properties are held; both count their writes. -/
structure Node where
  tag : String := "div"
  attributes : Table Value := []
  properties : Table Value := []
  listeners : Table (List Value) := []
  attributeWrites : Nat := 0
  propertyWrites : Nat := 0
deriving Inhabited

/-- Where code looks names up: its frames, innermost first, then the names of its module. -/
structure Scope where
  frames : List Nat
  module : Nat
deriving Inhabited

/-- The variables of one run of a function: the names that are its own, and those with a value. -/
structure Frame where
  names : List String
  values : Table Value := []
deriving Inhabited

/-- What a function of generated code does: an expression gives its value, a block gives nothing. -/
inductive Code where
  | expr (e : Expr)
  | block (body : List Stmt)
deriving Inhabited

inductive Callable where
  | code (name : String) (params : Params) (defaults : Table Value) (body : Code) (scope : Scope)
  | scripted (name : String) (arity : Nat) (body : List Scenario.Statement)
  | constant (result : Value)
deriving Inhabited

/-- A value as it was when it was looked at. Objects are given by type and name. -/
inductive Snapshot where
  | none
  | bool (value : Bool)
  | int (value : Int)
  | float (value : Numeric.Binary64)
  | str (value : Text.Wide)
  | list (items : List Snapshot)
  | tuple (items : List Snapshot)
  | dict (entries : List (Snapshot × Snapshot))
  | type (name : String)
  | kind (value : ValueKind)
  | event (type target : Snapshot)
  | object (typeName : String) (name : Option String)
deriving Inhabited

inductive LogEntry where
  | value (s : Snapshot)
  | failure (f : Failure)
deriving Inhabited

/-- A compiled attribute list: what runs, the text it was read from, and the name under which the
text is registered. -/
structure Compiled where
  module : Module
  text : String
  file : String
deriving Inhabited

structure Loader where
  config : Config
  cache : Table Compiled := []
deriving Inhabited

structure Host where
  nans : Nat := 0
  lists : Array (List Value) := #[]
  nodes : Array Node := #[]
  refs : Array Value := #[]
  plains : Array (Table Value) := #[]
  functions : Array Callable := #[]
  frames : Array Frame := #[]
  modules : Array (Table Value) := #[]
  names : Table Value := []
  binders : Table Value := []
  loaders : Table Loader := []
  registry : Table String := []
  channels : Table (List LogEntry) := []
  notes : List Note := []
deriving Inhabited

/-- A call of a value. -/
structure Call where
  callee : Value
  args : List Value
  keywords : Table Value := []
deriving Inhabited

abbrev PageGraph := Reactive.Graph Value Call

abbrev Action := Reactive.Script Value Call Host Failure

abbrev Act := Reactive.Steps Value Call Host Failure

namespace Host

def list (h : Host) (i : Nat) : List Value := h.lists.getD i []
def node (h : Host) (i : Nat) : Node := h.nodes.getD i default
def ref (h : Host) (i : Nat) : Value := h.refs.getD i .none
def plain (h : Host) (i : Nat) : Table Value := h.plains.getD i []

def modifyNode (h : Host) (i : Nat) (f : Node → Node) : Host :=
  { h with nodes := h.nodes.modify i f }

def note (h : Host) (n : Note) : Host :=
  { h with notes := n :: h.notes }

def log (h : Host) (channel : String) (entries : List LogEntry) : Host :=
  { h with channels := h.channels.set channel ((h.channels.get? channel).getD [] ++ entries) }

end Host

namespace Act

open Reactive (Steps)

def fail {α : Type} (f : Failure) : Act α :=
  Steps.raise f

def misuse {α : Type} (m : Misuse) : Act α :=
  Steps.raise (.misuse m)

def newFloat (x : Numeric.Binary64) : Act Value :=
  if x.isNaN then do
    let h ← Steps.host
    Steps.setHost { h with nans := h.nans + 1 }
    return .nan h.nans
  else return .float x

def newList (items : List Value) : Act Value := do
  let h ← Steps.host
  Steps.setHost { h with lists := h.lists.push items }
  return .list h.lists.size

def newNode (n : Node) : Act Value := do
  let h ← Steps.host
  Steps.setHost { h with nodes := h.nodes.push n }
  return .node h.nodes.size

def newRef : Act Value := do
  let h ← Steps.host
  Steps.setHost { h with refs := h.refs.push .none }
  return .ref h.refs.size

def newPlain (members : Table Value) : Act Value := do
  let h ← Steps.host
  Steps.setHost { h with plains := h.plains.push members }
  return .plain h.plains.size

def newFunction (f : Callable) : Act Value := do
  let h ← Steps.host
  Steps.setHost { h with functions := h.functions.push f }
  return .function h.functions.size

def newFrame (names : List String) (values : Table Value) : Act Nat := do
  let h ← Steps.host
  Steps.setHost { h with frames := h.frames.push ⟨names, values⟩ }
  return h.frames.size

def call (callee : Value) (args : List Value) (keywords : Table Value) : Act Value := do
  let r ← Steps.call ⟨callee, args, keywords⟩
  return r.getD .none

end Act

end AttrBinder
