import AttrBinder.Value.Text

/-!
Equality and order of values. Numbers of every kind are compared exactly. Comparing a wire with
anything but a wire compares, and thereby reads, the value that it holds.
-/

namespace AttrBinder

namespace Value

def magnitude? : Value → Option Datum.Magnitude
  | bool b => some (.ratio (if b then 1 else 0) 1)
  | int n => some (.ratio n 1)
  | float x => some (.ofBinary64 x)
  | nan _ => some .undefined
  | _ => Option.none

def parts? : Value → Option (Datum.Magnitude × Datum.Magnitude)
  | complex z => some (.ofBinary64 z.re, .ofBinary64 z.im)
  | v => v.magnitude?.map fun m => (m, .ratio 0 1)

def scalarEqual (a b : Value) : Bool :=
  match a.parts?, b.parts? with
  | some (m, p), some (n, q) => m.compare? n == some .eq && p.compare? q == some .eq
  | _, _ => identical a b

mutual

def isHashable : Value → Bool
  | list _ => false
  | dict _ => false
  | event _ _ => false
  | tuple xs => areHashable xs
  | _ => true

def areHashable : List Value → Bool
  | [] => true
  | x :: rest => isHashable x && areHashable rest

end

mutual

def sameKey : Value → Value → Bool
  | tuple xs, b =>
    match b with
    | tuple ys => sameKeys xs ys
    | _ => false
  | a, b => identical a b || scalarEqual a b

def sameKeys : List Value → List Value → Bool
  | [], [] => true
  | x :: xs, y :: ys => sameKey x y && sameKeys xs ys
  | _, _ => false

end

def lookup? (entries : List (Value × Value)) (key : Value) : Option Value :=
  (entries.find? fun (k, _) => sameKey k key).map Prod.snd

def enter (entries : List (Value × Value)) (key value : Value) : List (Value × Value) :=
  match entries with
  | [] => [(key, value)]
  | (k, v) :: rest =>
    if sameKey k key then (k, value) :: rest else (k, v) :: enter rest key value

end Value

namespace Act

open Reactive (Steps)

def allSame (same : Value → Value → Act Bool) : List Value → List Value → Act Bool
  | x :: xs, y :: ys => do
    let e ← same x y
    if e then allSame same xs ys else return false
  | _, _ => return true

def allFound (same : Value → Value → Act Bool) (others : List (Value × Value)) :
    List (Value × Value) → Act Bool
  | [] => return true
  | (k, v) :: rest =>
    match Value.lookup? others k with
    | none => return false
    | some w => do
      let e ← same w v
      if e then allFound same others rest else return false

def orIdentical (equal : Value → Value → Act Bool) (a b : Value) : Act Bool :=
  if a.identical b then return true else equal a b

/-- Equality of values nested up to a depth. A list equals itself, whatever its items are. -/
def equalWithin : Nat → Value → Value → Act Bool
  | 0, _, _ => misuse .nesting
  | n + 1, a, b =>
    let same := orIdentical (equalWithin n)
    match a, b with
    | .wire i, .wire j => return i == j
    | .wire i, b => do
      let v ← Steps.read (.wire i)
      equalWithin n v b
    | a, .wire j => do
      let v ← Steps.read (.wire j)
      equalWithin n v a
    | .list i, .list j => do
      let h ← Steps.host
      if i = j then return true
      else if (h.list i).length = (h.list j).length then allSame same (h.list i) (h.list j)
      else return false
    | .tuple xs, .tuple ys => do
      let e ← allSame same xs ys
      return e && xs.length == ys.length
    | .dict xs, .dict ys =>
      if xs.length = ys.length then allFound same ys xs else return false
    | .event t x, .event u y => allSame same [t, x] [u, y]
    | a, b => return a.scalarEqual b

def equal (a b : Value) : Act Bool :=
  equalWithin maxNesting a b

def isAmong (v : Value) : List Value → Act Bool
  | [] => return false
  | x :: rest => do
    let e ← orIdentical equal x v
    if e then return true else isAmong v rest

def occurs (part : Text.Wide) : Text.Wide → Bool
  | [] => part.isEmpty
  | p :: rest => part.isPrefixOf (p :: rest) || occurs part rest

def contains (container v : Value) : Act Bool := do
  match container, v with
  | .str t, .str s => return occurs s t
  | .str _, _ => misuse .type
  | .dict es, v =>
    if v.isHashable then return (Value.lookup? es v).isSome else misuse .type
  | container, v => do
    let xs ← items container
    isAmong v xs

def holdsFor (op : CompareOp) (o : Ordering) : Bool :=
  match op with
  | .less => o == .lt
  | .lessEq => o != .gt
  | .greater => o == .gt
  | .greaterEq => o != .lt
  | _ => false

def firstDifference : List Value → List Value → Act (Option (Value × Value))
  | x :: xs, y :: ys => do
    let e ← orIdentical equal x y
    if e then firstDifference xs ys else return some (x, y)
  | _, _ => return none

def orderedWithin (op : CompareOp) : Nat → Value → Value → Act Bool
  | 0, _, _ => misuse .nesting
  | n + 1, a, b =>
    let sequences (xs ys : List Value) : Act Bool := do
      match ← firstDifference xs ys with
      | some (x, y) => orderedWithin op n x y
      | none => return holdsFor op (compare xs.length ys.length)
    match a, b with
    | .str s, .str t => return holdsFor op (s.order t)
    | .tuple xs, .tuple ys => sequences xs ys
    | .list i, .list j => do
      let h ← Steps.host
      sequences (h.list i) (h.list j)
    | a, b =>
      match a.magnitude?, b.magnitude? with
      | some x, some y => return ((x.compare? y).map (holdsFor op)).getD false
      | _, _ => misuse .type

def compare (op : CompareOp) (a b : Value) : Act Bool :=
  match op with
  | .eq => equal a b
  | .notEq => do
    let e ← equal a b
    return !e
  | .is => return a.identical b
  | .isNot => return !a.identical b
  | .within => contains b a
  | .notWithin => do
    let e ← contains b a
    return !e
  | op => orderedWithin op maxNesting a b

end Act

end AttrBinder
