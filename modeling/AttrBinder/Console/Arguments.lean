import AttrBinder.Numeric.Digits
import AttrBinder.Source.Span
import AttrBinder.Table
import AttrBinder.Text.Blank
import AttrBinder.Text.Decimal

/-!
Command lines. Options of the program stand in front of the command, options of a command stand
anywhere behind it; `--` ends the options, a lone `-` is an argument, and of several values of one
option the last counts.
-/

namespace AttrBinder.Console

inductive UsageFault where
  | noSuchOption
  | noSuchCommand
  | missingCommand
  | missingSource
  | extraArguments
  | optionUsage
  | notInteger
deriving DecidableEq, Repr, Inhabited

inductive Command where
  | compile
  | check
deriving DecidableEq, Repr, Inhabited

structure Request where
  verbose : Bool
  command : Command
  source : String
  config : Option String
  origin : Origin
  plain : Bool
deriving Inhabited

structure OptionForm where
  name : String
  takesValue : Bool
deriving DecidableEq, Repr, Inhabited

/-- Options that were given, in order, and the arguments. -/
structure Split where
  given : List (String × String) := []
  args : List String := []
deriving Inhabited

def splitEquals (arg : String) : String × Option String :=
  let cs := arg.toList
  let name := cs.takeWhile (· != '=')
  match cs.drop name.length with
  | _ :: value => (String.ofList name, some (String.ofList value))
  | [] => (arg, none)

def isOption (arg : String) : Bool :=
  arg.startsWith "-" && arg.length > 1

def areFlags (shorts : List Char) (arg : String) : Bool :=
  !arg.startsWith "--" && (arg.toList.drop 1).all shorts.contains

/-- Tells options from arguments. Letters in `shorts` are flags that stand behind one hyphen. With
`mixed`, options may follow arguments. -/
def split (forms : List OptionForm) (shorts : List Char) (mixed : Bool) :
    List String → Except UsageFault Split
  | [] => .ok {}
  | arg :: rest =>
    if arg == "--" then .ok { args := rest }
    else if isOption arg then
      let (name, value) := splitEquals arg
      match forms.find? fun f => f.name == name, value, rest with
      | some f, some v, rest =>
        if f.takesValue then do
          let s ← split forms shorts mixed rest
          return { s with given := (name, v) :: s.given }
        else .error .optionUsage
      | some f, none, rest =>
        if f.takesValue then
          match rest with
          | v :: rest => do
            let s ← split forms shorts mixed rest
            return { s with given := (name, v) :: s.given }
          | [] => .error .optionUsage
        else do
          let s ← split forms shorts mixed rest
          return { s with given := (name, "") :: s.given }
      | none, _, rest =>
        if areFlags shorts arg then do
          let s ← split forms shorts mixed rest
          return { s with given := (arg, "") :: s.given }
        else .error .noSuchOption
    else if mixed then do
      let s ← split forms shorts mixed rest
      return { s with args := arg :: s.args }
    else .ok { args := arg :: rest }

def digits? : List Char → Option (List Nat)
  | [] => none
  | [c] => (Text.digitValue? c).map fun d => [d]
  | c :: '_' :: rest => do
    let d ← Text.digitValue? c
    let ds ← digits? rest
    return d :: ds
  | c :: rest => do
    let d ← Text.digitValue? c
    let ds ← digits? rest
    return d :: ds

def number? (cs : List Char) : Option Int := do
  let ds ← digits? cs
  if ds.length > Numeric.maxDigits then none
  else return (ds.foldl (fun n d => 10 * n + d) 0 : Nat)

def int? (s : String) : Option Int :=
  match Text.trim s.toList with
  | '-' :: cs => (number? cs).map fun n => -n
  | '+' :: cs => number? cs
  | cs => number? cs

def last? (given : List (String × String)) (name : String) : Option String :=
  (given.reverse.find? fun (n, _) => n == name).map Prod.snd

def locationForms : List OptionForm :=
  [⟨"--config", true⟩, ⟨"--file", true⟩, ⟨"--line", true⟩, ⟨"--column", true⟩]

def Command.forms : Command → List OptionForm
  | .compile => ⟨"--plain", false⟩ :: locationForms
  | .check => locationForms

def Command.ofName? (name : String) : Option Command :=
  match name with
  | "compile" => some .compile
  | "check" => some .check
  | _ => none

def programForms : List OptionForm :=
  [⟨"--verbose", false⟩]

def intOption (given : List (String × String)) (name : String) (default : Int) :
    Except UsageFault Int :=
  match last? given name with
  | none => .ok default
  | some s =>
    match int? s with
    | some n => .ok n
    | none => .error .notInteger

def Request.ofArguments (verbose : Bool) (command : Command) (args : List String) :
    Except UsageFault Request := do
  let s ← split command.forms [] true args
  let line ← intOption s.given "--line" 1
  let column ← intOption s.given "--column" 0
  match s.args with
  | [] => throw .missingSource
  | source :: more =>
    if more.isEmpty then
      return { verbose := verbose, command := command, source := source
               config := last? s.given "--config"
               origin := { file := (last? s.given "--file").getD "", line := line
                           column := column }
               plain := (last? s.given "--plain").isSome }
    else throw .extraArguments

def Request.ofCommandLine (args : List String) : Except UsageFault Request := do
  let s ← split programForms ['v'] false args
  match s.args with
  | [] => throw .missingCommand
  | name :: rest =>
    match Command.ofName? name with
    | some c => Request.ofArguments (!s.given.isEmpty) c rest
    | none =>
      let _ ← split programForms ['v'] false [name]
      throw .noSuchCommand

end AttrBinder.Console
