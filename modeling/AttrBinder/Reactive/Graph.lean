/-!
The dependency graph of a reactive system. Sources are read: wires, which hold a value, and
derived values, which compute theirs. Trackers read: derived values, and effects, which run again
when what they read has changed. The graph holds no code: what a tracker runs is a `body` of any
type, to which meaning is given elsewhere.
-/

namespace AttrBinder.Reactive

inductive Source where
  | wire (id : Nat)
  | derived (id : Nat)
deriving DecidableEq, Repr, Inhabited

inductive Tracker where
  | derived (id : Nat)
  | effect (id : Nat)
deriving DecidableEq, Repr, Inhabited

/-- What a tracker is called: the name of its function, or how a function without one shows. -/
inductive Label where
  | named (name : String)
  | anonymous (text : String)
deriving DecidableEq, Repr, Inhabited

def Label.text : Label → String
  | named s => s
  | anonymous s => s

structure Wire (V : Type) where
  value : V
  frozen : Bool := false
  subscribers : List Tracker := []
deriving Inhabited

structure Derived (V C : Type) where
  label : Label
  body : C
  cache : V
  dirty : Bool := true
  computing : Bool := false
  dependencies : List Source := []
  subscribers : List Tracker := []
deriving Inhabited

structure Effect (C : Type) where
  label : Label
  body : C
  runs : Nat := 0
  disposed : Bool := false
  running : Bool := false
  /-- Whether something that the running effect read has changed since the run began. -/
  rerun : Bool := false
  dependencies : List Source := []
deriving Inhabited

/-- Wires, derived values and effects by number, and what is going on. -/
structure Graph (V C : Type) where
  wires : Array (Wire V) := #[]
  deriveds : Array (Derived V C) := #[]
  effects : Array (Effect C) := #[]
  stack : List Tracker := []
  depth : Int := 0
  queue : List Nat := []
  ticks : Nat := 0
deriving Inhabited

namespace Graph

variable {V C : Type}

section Lookup

variable [Inhabited V] [Inhabited C]

def wire (g : Graph V C) (i : Nat) : Wire V :=
  g.wires.getD i default

def derived (g : Graph V C) (i : Nat) : Derived V C :=
  g.deriveds.getD i default

def effect (g : Graph V C) (i : Nat) : Effect C :=
  g.effects.getD i { (default : Effect C) with disposed := true }

def subscribers (g : Graph V C) : Source → List Tracker
  | .wire i => (g.wire i).subscribers
  | .derived i => (g.derived i).subscribers

def dependencies (g : Graph V C) : Tracker → List Source
  | .derived i => (g.derived i).dependencies
  | .effect i => (g.effect i).dependencies

def label (g : Graph V C) : Tracker → Label
  | .derived i => (g.derived i).label
  | .effect i => (g.effect i).label

def body (g : Graph V C) : Tracker → C
  | .derived i => (g.derived i).body
  | .effect i => (g.effect i).body

end Lookup

def modifyWire (g : Graph V C) (i : Nat) (f : Wire V → Wire V) : Graph V C :=
  { g with wires := g.wires.modify i f }

def modifyDerived (g : Graph V C) (i : Nat) (f : Derived V C → Derived V C) : Graph V C :=
  { g with deriveds := g.deriveds.modify i f }

def modifyEffect (g : Graph V C) (i : Nat) (f : Effect C → Effect C) : Graph V C :=
  { g with effects := g.effects.modify i f }

def addWire (g : Graph V C) (value : V) : Graph V C :=
  { g with wires := g.wires.push ⟨value, false, []⟩ }

def addDerived [Inhabited V] (g : Graph V C) (label : Label) (body : C) : Graph V C :=
  { g with deriveds := g.deriveds.push ⟨label, body, default, true, false, [], []⟩ }

def addEffect (g : Graph V C) (label : Label) (body : C) : Graph V C :=
  { g with effects := g.effects.push ⟨label, body, 0, false, false, false, []⟩ }

def modifySubscribers (g : Graph V C) (s : Source) (f : List Tracker → List Tracker) : Graph V C :=
  match s with
  | .wire i => g.modifyWire i fun w => { w with subscribers := f w.subscribers }
  | .derived i => g.modifyDerived i fun d => { d with subscribers := f d.subscribers }

def modifyDependencies (g : Graph V C) (t : Tracker) (f : List Source → List Source) :
    Graph V C :=
  match t with
  | .derived i => g.modifyDerived i fun d => { d with dependencies := f d.dependencies }
  | .effect i => g.modifyEffect i fun e => { e with dependencies := f e.dependencies }

def adjoin {α : Type} [DecidableEq α] (a : α) (xs : List α) : List α :=
  if a ∈ xs then xs else xs ++ [a]

def link (g : Graph V C) (s : Source) (t : Tracker) : Graph V C :=
  (g.modifySubscribers s (adjoin t)).modifyDependencies t (adjoin s)

def track (g : Graph V C) (s : Source) : Graph V C :=
  match g.stack with
  | [] => g
  | t :: _ => g.link s t

@[irreducible] def forget [Inhabited V] [Inhabited C] (g : Graph V C) (t : Tracker) : Graph V C :=
  ((g.dependencies t).foldl (fun g s => g.modifySubscribers s fun ts => ts.filter (· ≠ t)) g)
    |>.modifyDependencies t fun _ => []

def push (g : Graph V C) (t : Tracker) : Graph V C :=
  { g with stack := t :: g.stack }

def pop (g : Graph V C) : Graph V C :=
  { g with stack := g.stack.tail }

def dispose [Inhabited V] [Inhabited C] (g : Graph V C) (i : Nat) : Graph V C :=
  (g.modifyEffect i fun e => { e with disposed := true }).forget (.effect i)

def enqueue (g : Graph V C) (i : Nat) : Graph V C :=
  { g with queue := adjoin i g.queue }

def unqueue (g : Graph V C) : Graph V C :=
  { g with queue := g.queue.tail }

def enter (g : Graph V C) : Graph V C :=
  { g with depth := g.depth + 1 }

def depart (g : Graph V C) : Graph V C :=
  { g with depth := g.depth - 1 }

def tick (g : Graph V C) : Graph V C :=
  { g with ticks := g.ticks + 1 }

def setValue (g : Graph V C) (i : Nat) (value : V) : Graph V C :=
  g.modifyWire i fun w => { w with value := value }

def freeze (g : Graph V C) (i : Nat) : Graph V C :=
  g.modifyWire i fun w => { w with frozen := true }

def setComputing (g : Graph V C) (i : Nat) (computing : Bool) : Graph V C :=
  g.modifyDerived i fun d => { d with computing := computing }

def invalidate (g : Graph V C) (i : Nat) : Graph V C :=
  g.modifyDerived i fun d => { d with dirty := true }

def keep (g : Graph V C) (i : Nat) (result : V) : Graph V C :=
  g.modifyDerived i fun d => { d with cache := result, dirty := false }

def setRunning (g : Graph V C) (i : Nat) (running : Bool) : Graph V C :=
  g.modifyEffect i fun e => { e with running := running }

def requestRun (g : Graph V C) (i : Nat) : Graph V C :=
  g.modifyEffect i fun e => { e with rerun := true }

def countRun (g : Graph V C) (i : Nat) : Graph V C :=
  g.modifyEffect i fun e => { e with rerun := false, runs := e.runs + 1 }

end Graph

end AttrBinder.Reactive
