import AttrBinder.Config.Reader
import AttrBinder.Console.Rich

/-!
The command line program: reads files and the input stream, runs the command line, and prints.
-/

open AttrBinder

def textOf? (path : String) : IO (Option String) := do
  try
    let text ← IO.FS.readFile path
    return some text
  catch _ => return none

def configFiles (args : List String) : IO (Table ConfigFile) := do
  let path := match Console.Request.ofCommandLine args with
    | .ok r => r.config.getD ConfigFile.defaultName
    | .error _ => ConfigFile.defaultName
  match ← textOf? path with
  | some text => return [(ConfigFile.normalize path, ConfigFile.ofText text)]
  | none => return []

def refusal : Console.Fault → String
  | .usage .noSuchOption => "No such option"
  | .usage .noSuchCommand => "No such command"
  | .usage .missingCommand => "Missing command"
  | .usage .missingSource => "Missing argument 'SOURCE'"
  | .usage .extraArguments => "Got unexpected extra argument"
  | .usage .optionUsage => "Wrong use of an option"
  | .usage .notInteger => "Not a valid integer"
  | .rendering kind => kind
  | .unwritable => "The generated code cannot be written"
  | .unreadable .half => "Source code cannot contain halves of pairs"
  | .unreadable .nullCharacter => "Source code cannot contain null characters"
  | f => f.message?.getD "Invalid config"

def wantsInput (args : List String) : Bool :=
  args.contains "-"

def main (args : List String) : IO UInt32 := do
  let files ← configFiles args
  let input ← if wantsInput args then (← IO.getStdin).readToEnd else pure ""
  match Console.run (Console.rich 80) files input args with
  | .ok printed => do
    IO.print (Console.Printed.text printed.out)
    IO.eprint (Console.Printed.text printed.err)
    return printed.exitCode.toUInt32
  | .error f => do
    IO.eprintln ("Error: " ++ refusal f)
    return 2
