import AttrBinder.Scenario.Statement

/-!
Running scenarios. `setting` joins the reactive system and the code of a page: it says what every
call does, that a write counts when the values are not equal, and how faults appear.
-/

namespace AttrBinder

open Reactive (Steps Graph)

namespace Call

def invokeFunction (i : Nat) (args : List Value) (keywords : Table Value) : Act Value := do
  let h ← Steps.host
  match h.functions[i]? with
  | some (.code _ params defaults body scope) =>
    Act.applyCode params defaults body scope args keywords
  | some (.scripted _ arity body) =>
    if args.length = arity && keywords.isEmpty then do
      Scenario.Statement.runAll (args.head?.getD .none) body
      return .none
    else Act.misuse .type
  | some (.constant v) => return v
  | none => Act.misuse .type

def invoke (c : Call) : Act Value :=
  match c.callee with
  | .function i => invokeFunction i c.args c.keywords
  | callee =>
    if c.keywords.isEmpty then
      match callee with
      | .method receiver name => Act.callMethod receiver name c.args
      | .builtin name => Act.callBuiltin name c.args
      | .type name => Act.callType name c.args
      | .support f => Act.support f c.args
      | _ => Act.misuse .type
    else Act.misuse .type

def script (c : Call) : Action :=
  c.invoke fun v => .done (some v)

end Call

namespace Page

/-- In which order the subscribers of a source are told of its `n`-th change. Nothing is known of it
but that all of them are told. -/
class Order where
  arrange : Nat → List Reactive.Tracker → List Reactive.Tracker
  perm : ∀ n ts, (arrange n ts).Perm ts

namespace Order

/-- Subscribers are told in the order in which they subscribed. -/
scoped instance subscription : Order := ⟨fun _ ts => ts, fun _ ts => .refl ts⟩

end Order

variable [Order]

/-- How the reactive system of a page works. -/
def setting : Reactive.Setting Value Call Host Failure where
  body := Call.script
  same old new := (Act.equal old new) fun e => .done (if e then some .none else none)
  fault := .system
  caught := Failure.caught
  catches _ := rfl
  arrange := Order.arrange
  notice _ _ h := h

abbrev World := Reactive.World Value Call Host

def maxDepth : Nat := 1000

def perform (w : World) (m : Act Value) : Except Failure Value × World :=
  match Reactive.Run.perform setting maxDepth (.script (m fun v => .done (some v))) w with
  | .ok v w => (.ok (v.getD .none), w)
  | .raised f w => (.error f, w)
  | .exhausted _ => (.error (.misuse .nesting), w)

def start (config : Config) : World :=
  { graph := {}, host := { loaders := [("", { config := config })] } }

end Page

namespace Scenario

/-- What a step did: its result or failure, what it logged, the notes of the work done, and the
state of all named objects after it. -/
structure Report where
  result : Except Failure Snapshot
  logs : Table (List LogEntry)
  notes : List Note
  states : Table ObjectState
deriving Inhabited

def resultNow (w : Page.World) (r : Except Failure Value) : Except Failure Snapshot := do
  let v ← r
  (v.now w.host).mapError .misuse

variable [Page.Order]

def step (w : Page.World) (s : Statement) : Except Misuse (Report × Page.World) := do
  let clean := { w with host := { w.host with channels := [], notes := [] } }
  let (r, w) := Page.perform clean (s.run .none)
  let states ← w.host.states w.graph
  return ({ result := resultNow w r
            logs := w.host.channels
            notes := w.host.notes.reverse
            states := states }, w)

/-- Runs steps in order, each from the state that the last one left. A state that cannot be written
is a fault of the whole run. -/
def runFrom (w : Page.World) : List Statement → Except Misuse (List Report)
  | [] => return []
  | s :: rest => do
    let (r, w) ← step w s
    let more ← runFrom w rest
    return r :: more

def probe (m : Act Value) : Except Failure Snapshot :=
  let (r, w) := Page.perform (Page.start {}) m
  resultNow w r

def probeSupport (f : Support) (args : List Literal) : Except Failure Snapshot :=
  probe do
    let vs ← Literal.makeAll args
    Act.support f vs

def probeElement (arg : Literal) : Except Failure Snapshot :=
  probe do
    let v ← arg.make
    let holds ← Act.isElement v
    return .bool holds

def run (config : Config) (steps : List Statement) : Except Misuse (List Report) :=
  runFrom (Page.start config) steps

end Scenario

end AttrBinder
