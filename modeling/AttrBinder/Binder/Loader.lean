import AttrBinder.Evaluation.Function
import AttrBinder.Module.Reader
import AttrBinder.Text.Digest

/-!
Loading attribute lists. A loader compiles a list once, registers the generated text under a file
name made of the list's digest, reads the text back as a module, and runs the module anew for
every scope. The result is the binder, a function of one element.
-/

namespace AttrBinder

namespace Loader

def fileName (c : Config) (source : String) : String :=
  let file := if c.origin.file.isEmpty then "attributes" else c.origin.file
  "<wirebind:" ++ file ++ ":" ++ String.ofList ((Text.Digest.ofText source).toList.take 12) ++ ">"

end Loader

namespace Act

open Reactive (Steps)

def note (ns : List Note) : Act Unit :=
  Steps.modifyHost fun h => ns.foldl Host.note h

def loader (name : String) : Act Loader := do
  let h ← Steps.host
  match h.loaders.get? name with
  | some l => return l
  | none => fail (.unbound name)

def readModule (text : String) : Act Module :=
  match Module.read? text with
  | some m => if m.isRunnable then return m else misuse .notCode
  | none => misuse .notCode

def compileFor (name source : String) (l : Loader) : Act Compiled := do
  let outcome := Compile.run l.config source
  note outcome.notes
  match outcome.result with
  | .error halt => fail (.halted halt)
  | .ok r =>
    if !r.isOk then fail (.uncompiled r.errors)
    else if !r.isWritable then misuse .value
    else if source.toList.any Text.isHalf then misuse .encoding
    else
      let text := r.source ++ "\n"
      let file := Loader.fileName l.config source
      Steps.modifyHost fun h => { h with registry := h.registry.set file text }
      let m ← readModule text
      let c : Compiled := ⟨m, text, file⟩
      Steps.modifyHost fun h =>
        { h with loaders := h.loaders.set name { l with cache := l.cache.set source c } }
      note [.loaded file]
      return c

def moduleNames : Table Value :=
  [("__name__", .str "wirebind_binder"), ("__doc__", .none), ("__package__", .none),
   ("__loader__", .none), ("__spec__", .none), (Builtins.key, .builtins)]

def instantiate (config : Config) (c : Compiled) (scope : Table Value) : Act Value := do
  let h ← Steps.host
  let names := (moduleNames.setAll scope).set "__file__" (.str c.file)
  Steps.setHost { h with modules := h.modules.push names }
  Stmt.execAll ⟨[], h.modules.size⟩ c.module
  let h' ← Steps.host
  match (h'.modules.getD h.modules.size []).get? config.functionName with
  | some f => return f
  | none => misuse .key

def load (name source : String) (scope : Table Value) : Act Value := do
  let l ← loader name
  match l.config.key? with
  | none => misuse .type
  | some _ => do
    let c ←
      match l.cache.get? source with
      | some c => pure c
      | none => compileFor name source l
    instantiate l.config c scope

def bind (name source : String) (element : Value) (scope : Table Value) : Act Unit := do
  let f ← load name source scope
  let _ ← call f [element] []
  return ()

def clearCache (name : String) : Act Unit := do
  let l ← loader name
  Steps.modifyHost fun h =>
    { h with
      registry := l.cache.foldl (fun r (_, c) => r.erase c.file) h.registry
      loaders := h.loaders.set name { l with cache := [] } }

end Act

end AttrBinder
