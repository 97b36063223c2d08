import AttrBinder.Expr.Survey
import AttrBinder.Host
import AttrBinder.Value.Equality

/-!
Names in running code. A name is first looked for among the variables of the function that runs
and of those around it, then in the module, and last among the names that are always there. A
function's own variable that has no value yet hides what lies outside. Which names are always there
is up to the module: it holds them under a name of its own, and importing is one of them.
-/

namespace AttrBinder

namespace Value

def typeNames : List String :=
  ["bool", "bytearray", "bytes", "classmethod", "complex", "dict", "enumerate", "filter", "float",
   "frozenset", "int", "list", "map", "memoryview", "object", "property", "range", "reversed",
   "set", "slice", "staticmethod", "str", "super", "tuple", "type", "zip"]

def functionNames : List String :=
  ["__build_class__", "__import__", "abs", "aiter", "all", "anext", "any", "ascii", "bin",
   "breakpoint", "callable", "chr", "compile", "delattr", "dir", "divmod", "eval", "exec", "format",
   "getattr", "globals", "hasattr", "hash", "hex", "id", "input", "isinstance", "issubclass", "iter",
   "len", "locals", "max", "min", "next", "oct", "open", "ord", "pow", "print", "repr", "round",
   "setattr", "sorted", "sum", "vars"]

def exceptionNames : List String :=
  ["ArithmeticError", "AssertionError", "AttributeError", "BaseException", "BaseExceptionGroup",
   "BlockingIOError", "BrokenPipeError", "BufferError", "BytesWarning", "ChildProcessError",
   "ConnectionAbortedError", "ConnectionError", "ConnectionRefusedError", "ConnectionResetError",
   "DeprecationWarning", "EOFError", "EncodingWarning", "Exception", "ExceptionGroup",
   "FileExistsError", "FileNotFoundError", "FloatingPointError", "FutureWarning", "GeneratorExit",
   "ImportError", "ImportWarning", "IndentationError", "IndexError", "InterruptedError",
   "IsADirectoryError", "KeyError", "KeyboardInterrupt", "LookupError", "MemoryError",
   "ModuleNotFoundError", "NameError", "NotADirectoryError", "NotImplementedError", "OSError",
   "OverflowError", "PendingDeprecationWarning", "PermissionError", "ProcessLookupError",
   "RecursionError", "ReferenceError", "ResourceWarning", "RuntimeError", "RuntimeWarning",
   "StopAsyncIteration", "StopIteration", "SyntaxError", "SyntaxWarning", "SystemError",
   "SystemExit", "TabError", "TimeoutError", "TypeError", "UnboundLocalError",
   "UnicodeDecodeError", "UnicodeEncodeError", "UnicodeError", "UnicodeTranslateError",
   "UnicodeWarning", "UserWarning", "ValueError", "Warning", "ZeroDivisionError"]

def ofBuiltinName? (name : String) : Option Value :=
  if typeNames.contains name || exceptionNames.contains name then some (type name)
  else if functionNames.contains name || (oddBuiltins.lookup name).isSome then some (builtin name)
  else if name == "EnvironmentError" || name == "IOError" then some (type "OSError")
  else if name == "Ellipsis" then some ellipsis
  else if name == "__debug__" then some (bool true)
  else Option.none

end Value

namespace Builtins

def key : String := "__builtins__"

/-- What a module finds under a name that it does not have itself. -/
def find (names : Table Value) (name : String) : Except Misuse Value :=
  let found : Option Value → Except Misuse Value
    | some v => .ok v
    | none => .error .name
  match names.get? key with
  | none => found (Value.ofBuiltinName? name)
  | some .builtins => found (Value.ofBuiltinName? name)
  | some .supportModule => found ((Support.ofName? name).map .support)
  | some (.dict es) => found (Value.lookup? es (.str name))
  | some _ => .error .type

/-- What a name means in a module. -/
def resolve (names : Table Value) (name : String) : Except Misuse Value :=
  match names.get? name with
  | some v => .ok v
  | none => find names name

/-- What a module imports with. -/
def importer (names : Table Value) : Except Misuse Unit :=
  match names.get? key with
  | none => .ok ()
  | some .builtins => .ok ()
  | some .supportModule => .error .importing
  | some (.dict es) =>
    match Value.lookup? es (.str "__import__") with
    | some (.builtin "__import__") => .ok ()
    | some _ => .error .unsupported
    | none => .error .importing
  | some _ => .error .system

end Builtins

namespace Act

open Reactive (Steps)

def lookupFrames (h : Host) (name : String) (innermost : Bool) :
    List Nat → Option (Except Misuse Value)
  | [] => none
  | i :: rest =>
    let f := h.frames.getD i default
    if f.names.contains name then
      match f.values.get? name with
      | some v => some (.ok v)
      | none => some (.error (if innermost then .unboundLocal else .name))
    else lookupFrames h name false rest

def lookup (scope : Scope) (name : String) : Act Value := do
  let h ← Steps.host
  match lookupFrames h name true scope.frames with
  | some (.ok v) => return v
  | some (.error m) => misuse m
  | none =>
    match Builtins.resolve (h.modules.getD scope.module []) name with
    | .ok v => return v
    | .error m => misuse m

def assign (scope : Scope) (name : String) (v : Value) : Act Unit :=
  Steps.modifyHost fun h =>
    match scope.frames with
    | i :: _ =>
      { h with frames := h.frames.modify i fun f => { f with values := f.values.set name v } }
    | [] => { h with modules := h.modules.modify scope.module (·.set name v) }

/-- Gives a name a value in the nearest function of which it is a variable. A comprehension has
variables of its own and passes other names on to the function around it. -/
def assignNear (scope : Scope) (name : String) (v : Value) : Act Unit := do
  let h ← Steps.host
  let own (i : Nat) : Bool := (h.frames.getD i default).names.contains name
  assign { scope with frames := scope.frames.dropWhile fun i => !own i } name v

end Act

end AttrBinder
