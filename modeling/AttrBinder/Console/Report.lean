import AttrBinder.Compile.Result
import AttrBinder.Config.File
import AttrBinder.Console.Arguments

/-!
What the commands print. `compile` prints the generated text, `check` a table of the attributes;
both report diagnostics on the error stream and then end with exit code 1. Texts are drawn by a
library that takes them as markup.
-/

namespace AttrBinder.Console

/-- A library that draws on a console of some width. The faults of markup are given by their kind. -/
structure Renderer where
  width : Nat
  /-- How many cells of the console the widest line of a text takes. -/
  cells : String → Nat
  escape : String → String
  /-- The text that markup shows. -/
  text : String → Except String String
  /-- A text on a line of its own, however long. -/
  line : String → String
  /-- Rows of texts below a header and a title. -/
  table : String → List String → List (List String) → List String
  code : String → List String

inductive Fault where
  | usage (fault : UsageFault)
  | unloadable (fault : LoadFault)
  | invalid (fault : ConfigFault)
  | rendering (kind : String)
  | unwritable
  | unreadable (cause : Unreadable)
deriving Inhabited

def Fault.message? : Fault → Option String
  | unloadable f => some ("Could not load config: " ++ f.message)
  | invalid (.notText _) => none
  | invalid f => some ("Invalid config: " ++ f.message)
  | _ => none

/-- What a command prints. -/
structure Printed where
  exitCode : Nat := 0
  out : List String := []
  err : List String := []
deriving Inhabited

def Printed.text (lines : List String) : String :=
  String.join (lines.map fun l => l ++ "\n")

def counted (n : Nat) : String :=
  "❌ " ++ toString n ++ (if n == 1 then " error" else " errors")

def shown (R : Renderer) (markup : String) : Except Fault String :=
  (R.text markup).mapError .rendering

def diagnosticLine (R : Renderer) (d : Diagnostic) : Except Fault String := do
  let text ← shown R ("[bold red]error[/] [dim]" ++ d.kind.label ++ "[/] " ++ R.escape d.text)
  return R.line text

def errorLines (R : Renderer) (ds : List Diagnostic) : Except Fault (List String) := do
  let lines ← ds.mapM (diagnosticLine R)
  return lines ++ [counted ds.length]

def summary (l : Lowered) : String × String :=
  match l.attr.directive with
  | .plain name => (name.text, "reactive")
  | .event name _ => (name, "once")
  | .binding property _ =>
    (property, match l.descriptor with
      | some d => d.event ++ " / " ++ d.kind.typeName
      | none => "")
  | .ref _ => ("ref", "once")

def row (index : Nat) (l : Lowered) : List String :=
  let (target, details) := summary l
  [toString index, l.form.label, target, l.attr.source, details]

def header : List String := ["#", "Form", "Target", "Expression", "Details"]

def rows (ls : List Lowered) : List (List String) :=
  ls.zipIdx.map fun (l, i) => row i l

def tableLines (R : Renderer) (ls : List Lowered) : Except Fault (List String) := do
  if ls.isEmpty then return []
  let texts ← (rows ls).mapM (List.mapM (shown R))
  return R.table "Attributes" header texts

def configOf (files : Table ConfigFile) (r : Request) : Except Fault Config := do
  let options ← (ConfigFile.load files r.config).mapError Fault.unloadable
  (Config.ofOptions (.ofTable options r.origin)).mapError Fault.invalid

/-- Compiles a source; a fault that ended the reading is a result with that fault only. -/
def compile (c : Config) (source : String) : Except Fault CompileResult :=
  match (Compile.run c source).result with
  | .ok r => .ok r
  | .error (.complaint d) => .ok { lowered := [], errors := [d], module := none }
  | .error (.unreadable u) => .error (.unreadable u)

/-- Code as it is printed: as it is if it is to be plain, and else brought to the console's width. -/
def codeLines (R : Renderer) (plain : Bool) (code : String) : List String :=
  if plain then [code] else R.code code

def compileReport (R : Renderer) (plain : Bool) (r : CompileResult) : Except Fault Printed := do
  if r.isOk then
    if r.isWritable then return { out := codeLines R plain r.source } else throw .unwritable
  else
    let err ← errorLines R r.errors
    return { exitCode := 1, err := err }

def checkReport (R : Renderer) (r : CompileResult) : Except Fault Printed := do
  let table ← tableLines R r.lowered
  if r.isOk then
    return { out := table ++ ["✅ " ++ toString r.lowered.length ++ " attributes OK"] }
  else
    let err ← errorLines R r.errors
    return { exitCode := 1, out := table, err := err }

def perform (R : Renderer) (files : Table ConfigFile) (input : String) (r : Request) :
    Except Fault Printed := do
  let c ← configOf files r
  let source := if r.source == "-" then input else r.source
  let result ← compile c source
  match r.command with
  | .compile => compileReport R r.plain result
  | .check => checkReport R result

def run (R : Renderer) (files : Table ConfigFile) (input : String) (args : List String) :
    Except Fault Printed := do
  let r ← (Request.ofCommandLine args).mapError Fault.usage
  perform R files input r

end AttrBinder.Console
