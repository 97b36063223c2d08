import AttrBinder.Reactive.Script

/-!
Running scripts. A write runs the effects that depend on the wire before it returns; in a batch
they wait in a queue until the outermost batch ends. Nested runs are counted by fuel: `perform`
gives `exhausted` only when runs are nested deeper, or a queue grows longer, than its fuel, and
then shows the world in which the run was cut off. What is not there reads as `default` and is no
dependency of anything.
-/

namespace AttrBinder.Reactive

inductive Fault where
  | frozen
  | writeInDerived (label : Label)
  | circular (label : Label)
  | retriggering (label : Label)
deriving DecidableEq, Repr, Inhabited

/-- What a fault says. A write inside a derived value whose function has no name says nothing. -/
def Fault.message? : Fault → Option String
  | frozen => some "Cannot mutate a frozen wire"
  | writeInDerived (.named s) =>
    some ("Cannot modify wire state inside a derived (derived fn=" ++ s ++ ")")
  | writeInDerived (.anonymous _) => none
  | circular l => some ("Circular dependency detected in derived (fn=" ++ l.text ++ ")")
  | retriggering l => some ("Effect keeps re-triggering itself (fn=" ++ l.text ++ ")")

def maxReruns : Nat := 100

/-- What happens while scripts run, as an observer is told. -/
inductive Moment (V E : Type) where
  | read (source : Source) (value : V)
  | wrote (wire : Nat) (old new : V)
  | began (tracker : Tracker)
  | ended (tracker : Tracker) (failure : Option E)
  | queued (effect : Nat)
  | unqueued (effect : Nat)
  | disposed (effect : Nat)
  | overran (effect : Nat)

/-- What a reactive system is used with: the code of calls, when a written value counts as the same
(the script then returns a value), how faults of the system appear, which faults a flush catches
(those of the system among them), in which order the subscribers of a source are told of its `n`-th
change, and an observer. -/
structure Setting (V C H E : Type) where
  body : C → Script V C H E
  same : V → V → Script V C H E
  fault : Fault → E
  caught : E → Bool
  catches : ∀ f, caught (fault f) = true
  arrange : Nat → List Tracker → List Tracker
  notice : Moment V E → Graph V C → H → H

structure World (V C H : Type) where
  graph : Graph V C
  host : H
deriving Inhabited

inductive Outcome (V C H E α : Type) where
  | ok (value : α) (world : World V C H)
  | raised (fault : E) (world : World V C H)
  | exhausted (world : World V C H)

def Run (V C H E : Type) (α : Type) : Type :=
  World V C H → Outcome V C H E α

namespace Run

variable {V C H E α β : Type}

def pure (a : α) : Run V C H E α :=
  fun w => .ok a w

def bind (m : Run V C H E α) (f : α → Run V C H E β) : Run V C H E β :=
  fun w => match m w with
    | .ok a w => f a w
    | .raised e w => .raised e w
    | .exhausted w => .exhausted w

instance : Monad (Run V C H E) where
  pure := Run.pure
  bind := Run.bind

instance : Inhabited (Run V C H E α) := ⟨fun w => .exhausted w⟩

def raise (e : E) : Run V C H E α :=
  fun w => .raised e w

def exhausted : Run V C H E α :=
  fun w => .exhausted w

def graph : Run V C H E (Graph V C) :=
  fun w => .ok w.graph w

def modify (f : Graph V C → Graph V C) : Run V C H E Unit :=
  fun w => .ok () { w with graph := f w.graph }

def setHost (h : H) : Run V C H E Unit :=
  fun w => .ok () { w with host := h }

def attempt (m : Run V C H E α) : Run V C H E (Except E α) :=
  fun w => match m w with
    | .ok a w => .ok (.ok a) w
    | .raised e w => .ok (.error e) w
    | .exhausted w => .exhausted w

def ensure (m : Run V C H E α) (close : Option E → Run V C H E Unit) : Run V C H E α :=
  bind (attempt m) fun r => match r with
    | .ok a => bind (close none) fun _ => pure a
    | .error e => bind (close (some e)) fun _ => raise e

end Run

/-- The parts of a run that can be nested in one another. -/
inductive Task (V C H E : Type) where
  | script (s : Script V C H E)
  | execute (t : Tracker)
  | value (d : Nat)
  | leave

section

variable {V C H E : Type} [Inhabited V] [Inhabited C]
variable (setting : Setting V C H E) (again : Task V C H E → Run V C H E (Option V))

namespace Run

def notice (m : Moment V E) : Run V C H E Unit :=
  fun w => .ok () { w with host := setting.notice m w.graph w.host }

def refuse {α : Type} (f : Fault) : Run V C H E α :=
  raise (setting.fault f)

def readSource (s : Source) : Run V C H E V :=
  match s with
  | .wire i => do
    let g ← graph
    if i < g.wires.size then
      modify (·.track s)
      notice setting (.read s (g.wire i).value)
    return (g.wire i).value
  | .derived i => do
    let r ← again (.value i)
    return r.getD default

def runTracked (t : Tracker) : Run V C H E (Option V) := do
  modify (·.forget t)
  modify (·.push t)
  notice setting (.began t)
  let g ← graph
  ensure (again (.script (setting.body (g.body t)))) fun failure => do
    modify Graph.pop
    notice setting (.ended t failure)

def executeAll : List Tracker → Run V C H E Unit
  | [] => pure ()
  | t :: rest => do
    let _ ← again (.execute t)
    executeAll rest

def tell (s : Source) : Run V C H E Unit := do
  let g ← graph
  modify Graph.tick
  executeAll again (setting.arrange g.ticks (g.subscribers s))

def leave : Run V C H E Unit := do
  let _ ← again .leave

/-- Gives a wire a value that is not the same as its old one, and tells the wire's subscribers. The
value is stored before a write inside a derived value is refused. -/
def replaceValue (i : Nat) (old value : V) : Run V C H E Unit := do
  modify (·.setValue i value)
  notice setting (.wrote i old value)
  let g ← graph
  match g.stack with
  | .derived d :: _ => refuse setting (.writeInDerived (g.derived d).label)
  | _ => do
    modify Graph.enter
    ensure (tell setting again (.wire i)) fun _ => leave again

def writeWire (i : Nat) (value : V) : Run V C H E Unit := do
  let g ← graph
  let old := (g.wire i).value
  if (g.wire i).frozen then
    refuse setting .frozen
  else
    match ← again (.script (setting.same old value)) with
    | some _ => pure ()
    | none => replaceValue setting again i old value

def compute (i : Nat) : Run V C H E Unit := do
  modify (·.setComputing i true)
  let r ← ensure (runTracked setting again (.derived i)) fun _ => modify (·.setComputing i false)
  modify (·.keep i (r.getD default))

/-- The value of a derived value, computed if something it read has changed. -/
def derivedValue (i : Nat) : Run V C H E V := do
  let g ← graph
  if g.deriveds.size ≤ i then
    return default
  else if (g.derived i).computing then
    refuse setting (.circular (g.derived i).label)
  else
    if (g.derived i).dirty then compute setting again i
    modify (·.track (.derived i))
    let g ← graph
    notice setting (.read (.derived i) (g.derived i).cache)
    return (g.derived i).cache

/-- Runs an effect until it does not ask for another run, `n` times at most. -/
def settle (i : Nat) : Nat → Run V C H E Unit
  | 0 => do
    notice setting (.overran i)
    let g ← graph
    refuse setting (.retriggering (g.effect i).label)
  | n + 1 => do
    modify (·.countRun i)
    let _ ← runTracked setting again (.effect i)
    let g ← graph
    if (g.effect i).rerun && !(g.effect i).disposed then settle i n else pure ()

def runEffect (i : Nat) : Run V C H E Unit := do
  modify (·.setRunning i true)
  ensure (settle setting again i (maxReruns + 1)) fun _ => modify (·.setRunning i false)

def executeEffect (i : Nat) : Run V C H E Unit := do
  let g ← graph
  if (g.effect i).disposed then pure ()
  else if (g.effect i).running then
    modify (·.requestRun i)
  else if g.depth > 0 then
    modify (·.enqueue i)
    notice setting (.queued i)
  else runEffect setting again i

def executeDerived (i : Nat) : Run V C H E Unit := do
  let g ← graph
  if (g.derived i).dirty then pure ()
  else
    modify (·.invalidate i)
    tell setting again (.derived i)

/-- Runs the queued effects, also those that are queued meanwhile. A fault that is caught does not
stop the others, and the first one is raised at the end; any other leaves at once, and what is still
queued stays so. -/
def drain : Nat → Option E → Run V C H E Unit
  | 0, _ => exhausted
  | n + 1, failure => do
    let g ← graph
    match g.queue with
    | [] =>
      match failure with
      | some e => raise e
      | none => pure ()
    | i :: _ => do
      modify Graph.unqueue
      notice setting (.unqueued i)
      match ← attempt (again (.execute (.effect i))) with
      | .ok _ => drain n failure
      | .error e => if setting.caught e then drain n (failure.or (some e)) else raise e

def leaveBatch (fuel : Nat) : Run V C H E Unit := do
  modify Graph.depart
  let g ← graph
  if g.depth = 0 then drain setting again fuel none else pure ()

def exec : Script V C H E → Run V C H E (Option V)
  | .done r => pure r
  | .raise e => raise e
  | .look next => fun w => exec (next w.graph w.host) w
  | .replace h next => do
    setHost h
    exec next
  | .read s next => do
    let v ← readSource setting again s
    exec (next v)
  | .newWire v next => do
    let g ← graph
    modify (·.addWire v)
    exec (next g.wires.size)
  | .write i v next => do
    writeWire setting again i v
    exec next
  | .freeze i next => do
    modify (·.freeze i)
    exec next
  | .newDerived label body next => do
    let g ← graph
    modify (·.addDerived label body)
    exec (next g.deriveds.size)
  | .newEffect label body next => do
    let g ← graph
    modify (·.addEffect label body)
    let _ ← again (.execute (.effect g.effects.size))
    exec (next g.effects.size)
  | .execute t next => do
    let _ ← again (.execute t)
    exec next
  | .dispose i next => do
    modify (·.dispose i)
    notice setting (.disposed i)
    exec next
  | .startBatch next => do
    modify Graph.enter
    exec next
  | .endBatch next => do
    leave again
    exec next
  | .batch body next => do
    modify Graph.enter
    let r ← ensure (exec body) fun _ => leave again
    exec (next r)
  | .attempt body next => do
    let r ← attempt (exec body)
    exec (next r)
  | .call c next => do
    let r ← again (.script (setting.body c))
    exec (next r)

/-- Performs a task, with a way to perform nested ones and a bound on the length of the queue. -/
def performWith (fuel : Nat) : Task V C H E → Run V C H E (Option V)
  | .script s => exec setting again s
  | .execute (.derived i) => do
    executeDerived setting again i
    return none
  | .execute (.effect i) => do
    executeEffect setting again i
    return none
  | .value i => do
    let v ← derivedValue setting again i
    return some v
  | .leave => do
    leaveBatch setting again fuel
    return none

/-- Performs a task with nested tasks up to a depth; one flush may run as many effects as the
square of the depth that is left. -/
def perform : Nat → Task V C H E → Run V C H E (Option V)
  | 0, _ => exhausted
  | n + 1, t => performWith setting (perform n) (n * n) t

end Run

end

end AttrBinder.Reactive
