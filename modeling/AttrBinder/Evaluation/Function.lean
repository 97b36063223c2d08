import AttrBinder.Binder.Support
import AttrBinder.Evaluation.Expr
import AttrBinder.Module.Check
import AttrBinder.Text.LetterCase

/-!
Statements and functions of generated code. A call of a function binds its arguments to a frame of
its own and runs its body there; a function that yields gives a generator and runs nothing.
-/

namespace AttrBinder

namespace Stmt

open Reactive (Steps)

mutual

def exec (scope : Scope) : Stmt → Act Unit
  | importAs _ _ aliasName => do
    let h ← Steps.host
    match Builtins.importer (h.modules.getD scope.module []) with
    | .ok _ => Act.assign scope aliasName .supportModule
    | .error m => Act.misuse m
  | define name params body => do
    let defaults ← Expr.evalParams scope params
    let f ← Act.newFunction (.code name params defaults (.block body) scope)
    Act.assign scope name f
  | assign target value => do
    let v ← value.eval scope
    Act.assign scope target v
  | evaluate value => do
    let _ ← value.eval scope
    return ()
  | pass => return ()

def execAll (scope : Scope) : List Stmt → Act Unit
  | [] => return ()
  | s :: rest => do
    exec scope s
    execAll scope rest

end

end Stmt

namespace Code

def survey : Code → Survey
  | expr e => e.survey {}
  | block body => Stmt.surveyAll body

def run (scope : Scope) : Code → Act Value
  | expr e => e.eval scope
  | block body => do
    Stmt.execAll scope body
    return .none

end Code

namespace Params

def takeKeywords (names : List String) : Table Value → Table Value → Table Value →
    Option (Table Value × Table Value)
  | values, rest, [] => some (values, rest)
  | values, rest, (k, v) :: more =>
    if names.contains k then
      if (values.get? k).isSome then none else takeKeywords names (values.set k v) rest more
    else takeKeywords names values (rest.set k v) more

/-- Fills the parameters that have no argument with their defaults; `none` if one has no default. -/
def fill (defaults : Table Value) (values : Table Value) : List String → Option (Table Value)
  | [] => some values
  | x :: rest =>
    match values.get? x with
    | some _ => fill defaults values rest
    | none =>
      match defaults.get? x with
      | some v => fill defaults (values.set x v) rest
      | none => none

/-- The values of all parameters in a call; `none` if the arguments do not fit. -/
def bind? (params : Params) (defaults : Table Value) (args : List Value)
    (keywords : Table Value) : Option (Table Value) := do
  match params with
  | .mk positional ordinary rest keyword others =>
    let places := positional.map Param.name ++ ordinary.map Param.name
    let extra := args.drop places.length
    let values : Table Value := places.zip args
    let values ←
      match rest with
      | some r => some (values ++ [(r, .tuple extra)])
      | none => if extra.isEmpty then some values else none
    let (values, left) ←
      takeKeywords (ordinary.map Param.name ++ keyword.map Param.name) values [] keywords
    let values ← fill defaults values (places ++ keyword.map Param.name)
    match others with
    | some o => some (values ++ [(o, left.toValue)])
    | none => if left.isEmpty then some values else none

end Params

namespace Act

open Reactive (Steps)

def applyCode (params : Params) (defaults : Table Value) (body : Code) (scope : Scope)
    (args : List Value) (keywords : Table Value) : Act Value :=
  match params.bind? defaults args keywords with
  | none => misuse .type
  | some values =>
    let s := body.survey
    if s.yields then return .generator
    else do
      let frame ← newFrame (params.names ++ s.bound) values
      body.run { scope with frames := frame :: scope.frames }

def callMethod (receiver : Value) (name : String) (args : List Value) : Act Value := do
  let (g, h) ← Steps.look
  match receiver, name, args with
  | .wire i, "get", [] => Steps.read (.wire i)
  | .wire i, "peek", [] => return (g.wire i).value
  | .wire i, "set", [v] => do
    Steps.write i v
    return .none
  | .wire i, "update", [f] => do
    let v ← call f [(g.wire i).value] []
    Steps.write i v
    return .none
  | .wire i, "freeze", [] => do
    Steps.freeze i
    return .none
  | .derived i, "get", [] => Steps.read (.derived i)
  | .derived i, "peek", [] => return (g.derived i).cache
  | .derived i, "execute", [] => do
    Steps.execute (.derived i)
    return .none
  | .effect i, "execute", [] => do
    Steps.execute (.effect i)
    return .none
  | .effect i, "dispose", [] => do
    Steps.dispose i
    return .none
  | .node i, name, args => elementMethod i name args
  | .ref i, "assign", [v] => do
    Steps.setHost { h with refs := h.refs.setIfInBounds i v }
    return .none
  | .ref i, "get", [] =>
    match h.ref i with
    | .none => fail .emptyRef
    | v => return v
  | .ref i, "is_set", [] =>
    match h.ref i with
    | .none => return .bool false
    | _ => return .bool true
  | .str s, "upper", [] => return .str (Text.upper s)
  | .str s, "lower", [] => return .str (Text.lower s)
  | .list i, "append", [v] => do
    append i v
    return .none
  | .generator, "throw", [.type kind] =>
    if Value.exceptionNames.contains kind then
      fail (.thrown (if kind == "StopIteration" then "RuntimeError" else kind))
    else misuse .type
  | .dict es, "get", [k] =>
    if k.isHashable then return (Value.lookup? es k).getD .none else misuse .type
  | .dict es, "get", [k, v] =>
    if k.isHashable then return (Value.lookup? es k).getD v else misuse .type
  | _, _, _ => misuse .type

def callBuiltin (name : String) (args : List Value) : Act Value :=
  match name, args with
  | "len", [v] => do
    let n ← length v
    return .int n
  | "repr", [v] => do
    let s ← shown v
    return .str s
  | "callable", [v] => return .bool v.isCallable
  | "format", [v] => do
    let s ← format v []
    return .str s
  | "format", [v, .str spec] => do
    let s ← format v spec
    return .str s
  | "abs", [v] =>
    match v.number? with
    | some (.int n) => return .int n.natAbs
    | some (.float x) => newFloat x.abs
    | some (.complex z) => newFloat (.ofFloat z.modulus)
    | none => misuse .type
  | "len", _ => misuse .type
  | "repr", _ => misuse .type
  | "callable", _ => misuse .type
  | "abs", _ => misuse .type
  | "exit", [] => fail (.thrown "SystemExit")
  | "exit", [_] => fail (.thrown "SystemExit")
  | "quit", [] => fail (.thrown "SystemExit")
  | "quit", [_] => fail (.thrown "SystemExit")
  | _, _ => misuse .unsupported

def callType (name : String) (args : List Value) : Act Value :=
  match name, args with
  | "str", [] => return .str ""
  | "str", [v] => do
    let s ← text v
    return .str s
  | "bool", [] => return .bool false
  | "bool", [v] => do
    let b ← truth v
    return .bool b
  | "list", [] => newList []
  | "list", [v] => do
    let xs ← items v
    newList xs
  | "tuple", [] => return .tuple []
  | "tuple", [v] => do
    let xs ← items v
    return .tuple xs
  | "type", [v] => return .type v.typeName
  | "int", [] => return .int 0
  | "int", [.bool b] => return .int (if b then 1 else 0)
  | "int", [.int n] => return .int n
  | "int", [.float x] => if x.isFinite then return .int x.truncate else misuse .overflow
  | "int", [.nan _] => misuse .value
  | "float", [] => return .float .zero
  | "float", [.nan i] => return .nan i
  | "float", [v] =>
    match v.number? with
    | some n =>
      match n.toBinary64 with
      | .ok x => return .float x
      | .error f => misuse (.ofArithmetic f)
    | none => misuse .unsupported
  | _, _ => misuse .unsupported

end Act

end AttrBinder
