import AttrBinder.Numeric.Arithmetic
import AttrBinder.Numeric.Bits
import AttrBinder.Value.Equality

/-!
Operators on values. Texts, lists and tuples can be joined and repeated; all other operators want
numbers, and truth values are numbers.
-/

namespace AttrBinder

namespace Value

open Numeric (Number)

def number? : Value → Option Number
  | bool b => some (.int (if b then 1 else 0))
  | int n => some (.int n)
  | float x => some (.float x)
  | nan _ => some (.float .nan)
  | complex z => some (.complex z)
  | _ => Option.none

def int? : Value → Option Int
  | bool b => some (if b then 1 else 0)
  | int n => some n
  | _ => Option.none

end Value

def Misuse.ofArithmetic : Numeric.ArithmeticFault → Misuse
  | .zeroDivision => zeroDivision
  | .overflow => overflow
  | .complex => type

namespace Act

open Numeric (Number)
open Reactive (Steps)

def ofNumber : Number → Act Value
  | .int n => return .int n
  | .float x => newFloat x
  | .complex z => return .complex z

def ofArithmetic : Except Numeric.ArithmeticFault Number → Act Value
  | .ok n => ofNumber n
  | .error f => misuse (.ofArithmetic f)

def bits (f : Bool → Bool → Bool) (a b : Number) : Act Value :=
  match a, b with
  | .int m, .int n => return .int (Numeric.Bits.combine f m n)
  | _, _ => misuse .type

def arithmetic (op : BinaryOp) (a b : Number) : Act Value :=
  match op with
  | .add => ofArithmetic (a.add b)
  | .sub => ofArithmetic (a.sub b)
  | .mul => ofArithmetic (a.mul b)
  | .div => ofArithmetic (a.div b)
  | .mod => ofArithmetic (a.mod b)
  | .floorDiv => ofArithmetic (a.floorDiv b)
  | .pow => ofArithmetic (a.pow b)
  | .matMul => misuse .type
  | .shiftLeft =>
    match a, b with
    | .int m, .int (.ofNat n) => return .int (m * (Nat.pow 2 n : Nat))
    | .int _, .int _ => misuse .value
    | _, _ => misuse .type
  | .shiftRight =>
    match a, b with
    | .int m, .int (.ofNat n) => return .int (m.fdiv (Nat.pow 2 n : Nat))
    | .int _, .int _ => misuse .value
    | _, _ => misuse .type
  | .bitAnd => bits and a b
  | .bitOr => bits or a b
  | .bitXor => bits xor a b

def repeated {α : Type} (xs : List α) (times : Int) : List α :=
  (List.replicate times.toNat xs).flatten

def join (a b : Value) : Act Value := do
  let h ← Steps.host
  match a, b with
  | .str s, .str t => return .str (s ++ t)
  | .bytes s, .bytes t => return .bytes (s ++ t)
  | .tuple xs, .tuple ys => return .tuple (xs ++ ys)
  | .list i, .list j => newList (h.list i ++ h.list j)
  | _, _ => misuse .type

def repetition (v : Value) (times : Int) : Act Value := do
  let h ← Steps.host
  match v with
  | .str s => return .str (repeated s times)
  | .bytes s => return .bytes (repeated s times)
  | .tuple xs => return .tuple (repeated xs times)
  | .list i => newList (repeated (h.list i) times)
  | _ => misuse .type

def logical? : BinaryOp → Option (Bool → Bool → Bool)
  | .bitAnd => some and
  | .bitOr => some or
  | .bitXor => some xor
  | _ => none

def binary (op : BinaryOp) (a b : Value) : Act Value :=
  match logical? op, a, b with
  | some f, .bool p, .bool q => return .bool (f p q)
  | _, _, _ =>
  match a.number?, b.number? with
  | some m, some n => arithmetic op m n
  | _, _ =>
    match op with
    | .add => join a b
    | .mul =>
      match a.int?, b.int? with
      | some n, _ => repetition b n
      | _, some n => repetition a n
      | _, _ => misuse .type
    | _ => misuse .type

/-- Applies an operator in place: a list takes in what is added to it, all else is made anew. -/
def augment (op : BinaryOp) (a b : Value) : Act Value :=
  match op, a with
  | .add, .list i => do
    let xs ← items b
    Steps.modifyHost fun h => { h with lists := h.lists.modify i (· ++ xs) }
    return a
  | op, a => binary op a b

def unary (op : UnaryOp) (v : Value) : Act Value :=
  match op, v.number? with
  | .not, _ => do
    let t ← truth v
    return .bool !t
  | .minus, some n => ofNumber n.neg
  | .plus, some (.int n) => return .int n
  | .plus, some (.float _) => return v
  | .plus, some (.complex _) => return v
  | .invert, some (.int n) => return .int (-n - 1)
  | _, _ => misuse .type

def place? (length : Nat) (index : Int) : Option Nat :=
  let i := if index < 0 then index + length else index
  if 0 ≤ i ∧ i < length then some i.toNat else none

def itemAt (xs : List Value) (index : Value) : Act Value :=
  match index.int? with
  | none => misuse .type
  | some i =>
    match (place? xs.length i).bind fun n => xs[n]? with
    | some x => return x
    | none => misuse .index

def subscript (v index : Value) : Act Value := do
  let h ← Steps.host
  match v with
  | .list i => itemAt (h.list i) index
  | .tuple xs => itemAt xs index
  | .str s => itemAt (s.map fun p => .str [p]) index
  | .bytes bs => itemAt (bs.map fun b => .int b.toNat) index
  | .dict es =>
    if index.isHashable then
      match Value.lookup? es index with
      | some x => return x
      | none => misuse .key
    else misuse .type
  | _ => misuse .type

def bound? (v : Value) : Act (Option Int) :=
  match v with
  | .none => return none
  | v =>
    match v.int? with
    | some n => return some n
    | none => misuse .type

def clamp (length : Nat) (low high i : Int) : Int :=
  let i := if i < 0 then i + length else i
  max low (min high i)

def slicePlaces (length : Nat) (lower upper : Option Int) (step : Int) : List Nat :=
  let n : Int := length
  let (low, high) := if step < 0 then ((-1 : Int), n - 1) else ((0 : Int), n)
  let start := (lower.map (clamp length low high)).getD (if step < 0 then high else low)
  let stop := (upper.map (clamp length low high)).getD (if step < 0 then low else high)
  let count : Nat :=
    if step > 0 then ((stop - start + step - 1).fdiv step).toNat
    else ((start - stop - step - 1).fdiv (-step)).toNat
  (List.range count).map fun (k : Nat) => (start + k * step).toNat

def slice (v lower upper step : Value) : Act Value := do
  let h ← Steps.host
  let sliceable := match v with
    | .list _ => true
    | .tuple _ => true
    | .str _ => true
    | .bytes _ => true
    | _ => false
  if sliceable then
    let s ← bound? step
    let l ← bound? lower
    let u ← bound? upper
    let s := s.getD 1
    if s = 0 then misuse .value
    else
      match v with
      | .list i =>
        newList ((slicePlaces (h.list i).length l u s).filterMap fun k => (h.list i)[k]?)
      | .tuple xs => return .tuple ((slicePlaces xs.length l u s).filterMap fun k => xs[k]?)
      | .str t => return .str ((slicePlaces t.length l u s).filterMap fun k => t[k]?)
      | .bytes bs => return .bytes ((slicePlaces bs.length l u s).filterMap fun k => bs[k]?)
      | _ => misuse .type
  else misuse .type

end Act

end AttrBinder
