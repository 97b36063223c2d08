import AttrBinder.Reactive.Graph

/-!
Scripts: what trackers and top-level operations do with a reactive system. A script is a tree of
operations, each with what follows for every answer, so a script makes finitely many steps in
every run. A `call` names code that is given elsewhere, and so does every body of a tracker.

`V` is the type of values, `C` of calls, `H` of the state that scripts share apart from the graph,
and `E` of faults.
-/

namespace AttrBinder.Reactive

/-- Operations on a reactive system. A script ends with the value it returns, if any. -/
inductive Script (V C H E : Type) where
  | done (result : Option V)
  | raise (fault : E)
  | look (next : Graph V C → H → Script V C H E)
  | replace (host : H) (next : Script V C H E)
  | read (source : Source) (next : V → Script V C H E)
  | newWire (value : V) (next : Nat → Script V C H E)
  | write (wire : Nat) (value : V) (next : Script V C H E)
  | freeze (wire : Nat) (next : Script V C H E)
  | newDerived (label : Label) (body : C) (next : Nat → Script V C H E)
  | newEffect (label : Label) (body : C) (next : Nat → Script V C H E)
  | execute (tracker : Tracker) (next : Script V C H E)
  | dispose (effect : Nat) (next : Script V C H E)
  | startBatch (next : Script V C H E)
  | endBatch (next : Script V C H E)
  | batch (body : Script V C H E) (next : Option V → Script V C H E)
  | attempt (body : Script V C H E) (next : Except E (Option V) → Script V C H E)
  | call (code : C) (next : Option V → Script V C H E)

instance {V C H E : Type} : Inhabited (Script V C H E) := ⟨.done none⟩

def Steps (V C H E : Type) (α : Type) : Type :=
  (α → Script V C H E) → Script V C H E

namespace Steps

variable {V C H E α β : Type}

def pure (a : α) : Steps V C H E α :=
  fun next => next a

def bind (m : Steps V C H E α) (f : α → Steps V C H E β) : Steps V C H E β :=
  fun next => m fun a => f a next

instance : Monad (Steps V C H E) where
  pure := Steps.pure
  bind := Steps.bind

instance : Inhabited (Steps V C H E α) := ⟨fun _ => .done none⟩

def leave (value : Option V) : Steps V C H E α :=
  fun _ => .done value

def raise (fault : E) : Steps V C H E α :=
  fun _ => .raise fault

def look : Steps V C H E (Graph V C × H) :=
  fun next => .look fun g h => next (g, h)

def graph : Steps V C H E (Graph V C) :=
  fun next => .look fun g _ => next g

def host : Steps V C H E H :=
  fun next => .look fun _ h => next h

def setHost (h : H) : Steps V C H E Unit :=
  fun next => .replace h (next ())

def modifyHost (f : H → H) : Steps V C H E Unit :=
  fun next => .look fun _ h => .replace (f h) (next ())

def read (s : Source) : Steps V C H E V :=
  fun next => .read s next

def newWire (v : V) : Steps V C H E Nat :=
  fun next => .newWire v next

def write (w : Nat) (v : V) : Steps V C H E Unit :=
  fun next => .write w v (next ())

def freeze (w : Nat) : Steps V C H E Unit :=
  fun next => .freeze w (next ())

def newDerived (label : Label) (body : C) : Steps V C H E Nat :=
  fun next => .newDerived label body next

def newEffect (label : Label) (body : C) : Steps V C H E Nat :=
  fun next => .newEffect label body next

def execute (t : Tracker) : Steps V C H E Unit :=
  fun next => .execute t (next ())

def dispose (e : Nat) : Steps V C H E Unit :=
  fun next => .dispose e (next ())

def startBatch : Steps V C H E Unit :=
  fun next => .startBatch (next ())

def endBatch : Steps V C H E Unit :=
  fun next => .endBatch (next ())

def call (c : C) : Steps V C H E (Option V) :=
  fun next => .call c next

def toScript (m : Steps V C H E Unit) : Script V C H E :=
  m fun _ => .done none

def carryOn (next : Unit → Script V C H E) : Option V → Script V C H E
  | none => next ()
  | some v => .done (some v)

def batch (m : Steps V C H E Unit) : Steps V C H E Unit :=
  fun next => .batch m.toScript (carryOn next)

def attempt (m : Steps V C H E Unit) (handle : E → Steps V C H E Unit) : Steps V C H E Unit :=
  fun next => .attempt m.toScript fun r => match r with
    | .ok v => carryOn next v
    | .error f => handle f next

end Steps

end AttrBinder.Reactive
