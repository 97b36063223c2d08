import AttrBinder.Evaluation.Names
import AttrBinder.Value.Format
import AttrBinder.Value.Member

/-!
The evaluation of expressions. Every cell that is read on the way is read through the reactive
system; every call is a call of the system, which runs the code of the function.
-/

namespace AttrBinder

def Constant.toValue : Constant → Value
  | .none => .none
  | .bool b => .bool b
  | .int n => .int n
  | .float x => .float x
  | .imaginary x => .complex ⟨.zero, x⟩
  | .str s _ => .str s
  | .bytes bs => .bytes bs
  | .ellipsis => .ellipsis

namespace Act

open Reactive (Steps)

def asciiOnly (s : String) : String :=
  String.ofList (s.toList.flatMap fun c => if c.toNat < 128 then [c] else Text.codeEscape c.toNat)

def convert (v : Value) : Option Conversion → Act Value
  | none => return v
  | some .str => do
    let s ← text v
    return .str s
  | some .repr => do
    let s ← shown v
    return .str s
  | some .ascii => do
    let s ← shown v
    return .str (asciiOnly s)

def forEach (f : Value → Act Unit) : List Value → Act Unit
  | [] => return ()
  | x :: rest => do
    f x
    forEach f rest

def append (i : Nat) (v : Value) : Act Unit :=
  Steps.modifyHost fun h => { h with lists := h.lists.modify i (· ++ [v]) }

def entries (v : Value) : Act (List (Value × Value)) :=
  match v with
  | .dict es => return es
  | _ => misuse .type

def enter (es : List (Value × Value)) (k v : Value) : Act (List (Value × Value)) :=
  if k.isHashable then return Value.enter es k v else misuse .type

def addKeywords (ks : Table Value) : List (Value × Value) → Act (Table Value)
  | [] => return ks
  | (.str k, v) :: rest =>
    let name := k.replaced
    if (ks.get? name).isSome then misuse .type else addKeywords (ks.set name v) rest
  | _ :: _ => misuse .type

end Act

namespace Expr

open Reactive (Steps)

mutual

def assignTo (scope : Scope) : Expr → Value → Act Unit
  | name x, v => Act.assign scope x v
  | tuple ts, v => do
    let vs ← Act.items v
    assignAll scope ts vs
  | list ts, v => do
    let vs ← Act.items v
    assignAll scope ts vs
  | _, _ => Act.misuse .unsupported

def assignAll (scope : Scope) : List Expr → List Value → Act Unit
  | [], [] => return ()
  | t :: ts, v :: vs => do
    assignTo scope t v
    assignAll scope ts vs
  | _, _ => Act.misuse .value

end

mutual

def eval (scope : Scope) : Expr → Act Value
  | name x => Act.lookup scope x
  | constant c => return c.toValue
  | member e x => do
    let v ← eval scope e
    Act.member v x
  | subscript e (slice l u s) => do
    let v ← eval scope e
    let l ← evalOption scope l
    let u ← evalOption scope u
    let s ← evalOption scope s
    Act.slice v l u s
  | subscript e i => do
    let v ← eval scope e
    let k ← eval scope i
    Act.subscript v k
  | slice _ _ _ => Act.misuse .type
  | starred _ => Act.misuse .type
  | call f args keywords => do
    let fv ← eval scope f
    let vs ← evalItems scope args
    let ks ← evalKeywords scope keywords []
    Act.call fv vs ks
  | unary op e => do
    let v ← eval scope e
    Act.unary op v
  | binary op a b => do
    let u ← eval scope a
    let v ← eval scope b
    Act.binary op u v
  | bool op es => evalBool scope op es
  | compare e rest => do
    let v ← eval scope e
    evalChain scope v rest
  | conditional t a b => do
    let v ← eval scope t
    let holds ← Act.truth v
    if holds then eval scope a else eval scope b
  | lambda params body => do
    let defaults ← evalParams scope params
    Act.newFunction (.code "<lambda>" params defaults (.expr body) scope)
  | named x e => do
    let v ← eval scope e
    Act.assignNear scope x v
    return v
  | tuple es => do
    let vs ← evalItems scope es
    return .tuple vs
  | list es => do
    let vs ← evalItems scope es
    Act.newList vs
  | dict items => do
    let es ← evalEntries scope items []
    return .dict es
  | listComp e clauses => do
    let made ← Act.newList []
    let frame ← Act.newFrame (clauseTargets clauses) []
    let inner : Scope := { scope with frames := frame :: scope.frames }
    evalClauses scope inner
      (do
        let v ← eval inner e
        match made with
        | .list i => Act.append i v
        | _ => return ())
      clauses
    return made
  | dictComp k v clauses => do
    let made ← Act.newList []
    let frame ← Act.newFrame (clauseTargets clauses) []
    let inner : Scope := { scope with frames := frame :: scope.frames }
    evalClauses scope inner
      (do
        let key ← eval inner k
        let value ← eval inner v
        match made with
        | .list i => Act.append i (.tuple [key, value])
        | _ => return ())
      clauses
    let pairs ← Act.items made
    let es ← pairs.foldlM (fun es p => match p with
      | .tuple [k, v] => Act.enter es k v
      | _ => return es) []
    return .dict es
  | generator _ clauses => do
    evalFirst scope clauses
    return .generator
  | template parts => do
    let s ← evalParts scope parts
    return .str s
  | set _ => Act.misuse .unsupported
  | setComp _ _ => Act.misuse .unsupported
  | yield _ => Act.misuse .unsupported
  | yieldFrom _ => Act.misuse .unsupported
  | await _ => Act.misuse .unsupported

def evalOption (scope : Scope) : Option Expr → Act Value
  | Option.none => return .none
  | some e => eval scope e

def evalItems (scope : Scope) : List Expr → Act (List Value)
  | [] => return []
  | .starred e :: rest => do
    let v ← eval scope e
    let xs ← Act.items v
    let vs ← evalItems scope rest
    return xs ++ vs
  | e :: rest => do
    let v ← eval scope e
    let vs ← evalItems scope rest
    return v :: vs

def evalKeywords (scope : Scope) : List Keyword → Table Value → Act (Table Value)
  | [], ks => return ks
  | .mk (some x) e :: rest, ks => do
    let v ← eval scope e
    let ks ← Act.addKeywords ks [(.str x, v)]
    evalKeywords scope rest ks
  | .mk Option.none e :: rest, ks => do
    let v ← eval scope e
    let es ← Act.entries v
    let ks ← Act.addKeywords ks es
    evalKeywords scope rest ks

def evalBool (scope : Scope) (op : BoolOp) : List Expr → Act Value
  | [] => return .none
  | [e] => eval scope e
  | e :: rest => do
    let v ← eval scope e
    let holds ← Act.truth v
    if holds == (op == .or) then return v else evalBool scope op rest

def evalChain (scope : Scope) (left : Value) : List Comparison → Act Value
  | [] => return .bool true
  | .mk op e :: rest => do
    let right ← eval scope e
    let holds ← Act.compare op left right
    if holds && !rest.isEmpty then evalChain scope right rest else return .bool holds

def evalEntries (scope : Scope) :
    List DictItem → List (Value × Value) → Act (List (Value × Value))
  | [], es => return es
  | .mk (some k) e :: rest, es => do
    let key ← eval scope k
    let v ← eval scope e
    let es ← Act.enter es key v
    evalEntries scope rest es
  | .mk Option.none e :: rest, es => do
    let v ← eval scope e
    let more ← Act.entries v
    evalEntries scope rest (more.foldl (fun es (k, v) => Value.enter es k v) es)

/-- Runs an action for every choice that clauses make. What the first clause goes through belongs
to the scope around the comprehension. -/
def evalClauses (outer inner : Scope) (leaf : Act Unit) : List Clause → Act Unit
  | [] => leaf
  | .mk _ target iter conditions :: rest => do
    let v ← eval outer iter
    let xs ← Act.items v
    Act.forEach (fun x => do
      assignTo inner target x
      let holds ← evalAll inner conditions
      if holds then evalClauses inner inner leaf rest else return ()) xs

def evalFirst (scope : Scope) : List Clause → Act Unit
  | [] => return ()
  | .mk _ _ iter _ :: _ => do
    let v ← eval scope iter
    let _ ← Act.items v
    return ()

def evalAll (scope : Scope) : List Expr → Act Bool
  | [] => return true
  | e :: rest => do
    let v ← eval scope e
    let holds ← Act.truth v
    if holds then evalAll scope rest else return false

def evalParams (scope : Scope) : Params → Act (Table Value)
  | .mk positional ordinary _ keyword _ => do
    let a ← evalDefaults scope positional
    let b ← evalDefaults scope ordinary
    let c ← evalDefaults scope keyword
    return a ++ b ++ c

def evalDefaults (scope : Scope) : List Param → Act (Table Value)
  | [] => return []
  | .mk _ Option.none :: rest => evalDefaults scope rest
  | .mk x (some e) :: rest => do
    let v ← eval scope e
    let vs ← evalDefaults scope rest
    return (x, v) :: vs

def evalParts (scope : Scope) : List Part → Act Text.Wide
  | [] => return []
  | .text s :: rest => do
    let t ← evalParts scope rest
    return s ++ t
  | .field e conversion format :: rest => do
    let v ← eval scope e
    let v ← Act.convert v conversion
    let spec ← evalFormat scope format
    let s ← Act.format v spec
    let t ← evalParts scope rest
    return s ++ t

def evalFormat (scope : Scope) : Option (List Part) → Act Text.Wide
  | Option.none => return []
  | some parts => evalParts scope parts

end

end Expr

end AttrBinder
