import AttrBinder.Host
import AttrBinder.Value.Text

/-!
Looking at values and objects from outside: nothing is read as a dependency, and objects are given
by their type and by the name that was bound to them first.
-/

namespace AttrBinder

def Host.nameOf (h : Host) (v : Value) : Option String :=
  (h.names.find? fun (_, u) => u.identical v).map Prod.fst

/-- A value as it is now, unless it holds a whole number that has no decimal text. -/
def Value.snapshot? (h : Host) : Nat → Value → Option Snapshot
  | 0, v => some (.object v.typeName Option.none)
  | n + 1, v =>
    match v with
    | none => some .none
    | bool b => some (.bool b)
    | int i => if Numeric.hasDecimal i then some (.int i) else Option.none
    | float x => some (.float x)
    | nan _ => some (.float .nan)
    | str s => some (.str s)
    | tuple xs => (xs.mapM (snapshot? h n)).map .tuple
    | dict es => do
      let entries ← es.mapM fun (k, v) => do
        let key ← snapshot? h n k
        let value ← snapshot? h n v
        return (key, value)
      return .dict entries
    | list i => ((h.list i).mapM (snapshot? h n)).map .list
    | type t => some (.type t)
    | kind k => some (.kind k)
    | event t x => do
      let type ← snapshot? h n t
      let target ← snapshot? h n x
      return .event type target
    | v => some (.object v.typeName (h.nameOf v))

def Value.now (h : Host) (v : Value) : Except Misuse Snapshot :=
  match v.snapshot? h maxNesting with
  | some s => .ok s
  | Option.none => .error .value

def Host.tableNow (h : Host) (t : Table Value) : Except Misuse (Table Snapshot) :=
  t.mapM fun (k, v) => (v.now h).map fun s => (k, s)

inductive ObjectState where
  | wire (value : Snapshot) (frozen : Bool)
  | derived (cache : Snapshot) (dirty : Bool)
  | effect (runs : Nat) (disposed : Bool)
  | node (tag : String) (attributes properties : Table Snapshot) (listeners : Table Nat)
    (attributeWrites propertyWrites : Nat)
  | ref (node : Snapshot)
deriving Inhabited

def Value.state? (g : PageGraph) (h : Host) : Value → Except Misuse (Option ObjectState)
  | wire i => do
    let v ← (g.wire i).value.now h
    return some (.wire v (g.wire i).frozen)
  | derived i => do
    let v ← (g.derived i).cache.now h
    return some (.derived v (g.derived i).dirty)
  | effect i => return some (.effect (g.effect i).runs (g.effect i).disposed)
  | node i => do
    let n := h.node i
    let attributes ← h.tableNow n.attributes
    let properties ← h.tableNow n.properties
    return some (.node n.tag attributes properties (n.listeners.map fun (k, fs) => (k, fs.length))
      n.attributeWrites n.propertyWrites)
  | ref i => do
    let v ← (h.ref i).now h
    return some (.ref v)
  | _ => return Option.none

def Host.states (g : PageGraph) (h : Host) : Except Misuse (Table ObjectState) := do
  let rows ← h.names.mapM fun (n, v) => (v.state? g h).map fun s => s.map fun s => (n, s)
  return rows.filterMap id

end AttrBinder
