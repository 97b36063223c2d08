import AttrBinder.Host
import AttrBinder.Numeric.Digits
import AttrBinder.Numeric.Shortest

/-!
How values show. Showing a cell looks at what it holds and reads nothing, so it makes no
dependency; only turning a cell into a text does. A value that holds a whole number with too many
digits does not show.
-/

namespace AttrBinder

def maxNesting : Nat := 400

namespace Value

def shown (g : PageGraph) (h : Host) : Nat → Value → Option String
  | 0, _ => some "..."
  | n + 1, v =>
    let entries (t : Table Value) : Option String := do
      let es ← t.mapM fun (k, v) => (shown g h n v).map fun s => (Text.quoted k, s)
      return Datum.dictText es
    match v with
    | none => some "None"
    | bool b => some (Datum.boolText b)
    | int i => Numeric.decimal? i
    | float x => some x.text
    | nan _ => some "nan"
    | complex z => some z.text
    | str s => some (Text.quoted s)
    | bytes bs => some (Text.quotedBytes bs)
    | ellipsis => some "Ellipsis"
    | tuple xs => do
      let ss ← xs.mapM (shown g h n)
      return Datum.tupleText ss
    | dict es => do
      let ss ← es.mapM fun (k, v) => do
        let s ← shown g h n k
        let t ← shown g h n v
        return (s, t)
      return Datum.dictText ss
    | list i => do
      let ss ← (h.list i).mapM (shown g h n)
      return Datum.listText ss
    | type t => some (Datum.typeText t)
    | kind k => some k.text
    | wire i => do
      let s ← shown g h n (g.wire i).value
      return "Wire(" ++ s ++ ")"
    | derived i => do
      let s ← shown g h n (g.derived i).cache
      return "derived(" ++ s ++ ", dirty=" ++ Datum.boolText (g.derived i).dirty ++ ")"
    | effect _ => some "<effect>"
    | node i => do
      let a ← entries (h.node i).attributes
      let p ← entries (h.node i).properties
      return "<" ++ (h.node i).tag ++ " attributes=" ++ a ++ " properties=" ++ p ++ ">"
    | ref i => do
      let s ← shown g h n (h.ref i)
      return "NodeRef(" ++ s ++ ")"
    | plain _ => some "<plain>"
    | event t x => do
      let s ← shown g h n t
      let u ← shown g h n x
      return "Event(type=" ++ s ++ ", target=" ++ u ++ ")"
    | function _ => some "<function>"
    | method r m => do
      let s ← shown g h n r
      return "<bound method " ++ m ++ " of " ++ s ++ ">"
    | builtin b => some ("<built-in function " ++ b ++ ">")
    | builtins => some "<builtins>"
    | supportModule => some "<module>"
    | support s => some ("<function " ++ s.name ++ ">")
    | generator => some "<generator>"

end Value

namespace Act

open Reactive (Steps)

def shown (v : Value) : Act String := do
  let (g, h) ← Steps.look
  match v.shown g h maxNesting with
  | some s => return s
  | none => misuse .value

/-- What a value stands for: a cell for the value it holds, which is thereby read. -/
def contentOf : Nat → Value → Act Value
  | 0, _ => misuse .nesting
  | n + 1, v =>
    match v with
    | .wire i => do
      let u ← Steps.read (.wire i)
      contentOf n u
    | .derived i => do
      let u ← Steps.read (.derived i)
      contentOf n u
    | v => return v

def plainText (v : Value) : Act Text.Wide :=
  match v with
  | .str s => return s
  | .kind k => return Text.Wide.ofString ("ValueKind." ++ k.name)
  | v => do
    let s ← shown v
    return Text.Wide.ofString s

/-- The text of a value. A cell gives the text of the value it holds, which is thereby read. -/
def text (v : Value) : Act Text.Wide := do
  let u ← contentOf maxNesting v
  plainText u

def plainTruth (h : Host) : Value → Bool
  | .none => false
  | .bool b => b
  | .int n => n ≠ 0
  | .float x => !x.isZero
  | .complex z => !z.isZero
  | .str s => !s.isEmpty
  | .bytes bs => !bs.isEmpty
  | .tuple xs => !xs.isEmpty
  | .dict es => !es.isEmpty
  | .list i => !(h.list i).isEmpty
  | _ => true

/-- Whether a value counts as true. A cell counts as the value it holds, which is thereby read. -/
def truth (v : Value) : Act Bool := do
  let u ← contentOf maxNesting v
  let h ← Steps.host
  return plainTruth h u

def length (v : Value) : Act Nat := do
  let h ← Steps.host
  match v with
  | .str s => return s.length
  | .bytes bs => return bs.length
  | .tuple xs => return xs.length
  | .dict es => return es.length
  | .list i => return (h.list i).length
  | _ => misuse .type

def items (v : Value) : Act (List Value) := do
  let h ← Steps.host
  match v with
  | .str s => return s.map fun p => .str [p]
  | .bytes bs => return bs.map fun b => .int b.toNat
  | .tuple xs => return xs
  | .dict es => return es.map Prod.fst
  | .list i => return h.list i
  | _ => misuse .type

end Act

end AttrBinder
