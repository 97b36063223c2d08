import AttrBinder.Compile.Lowering

/-!
Notes: what the compiler and the elements report about their work, with level and wording.
-/

namespace AttrBinder

inductive NoteLevel where
  | debug
  | info
deriving DecidableEq, Repr, Inhabited

def NoteLevel.label : NoteLevel → String
  | debug => "DEBUG"
  | info => "INFO"

inductive Note where
  | parsed (a : Attribute)
  | misread (d : Diagnostic)
  | resolved (property : String) (d : PropertyDescriptor)
  | lowered (a : Attribute) (statements : Nat)
  | misfit (d : Diagnostic)
  | compiled (attributes errors : Nat)
  | loaded (file : String)
  | dispatched (event tag : String) (handlers : Nat)
deriving Inhabited

namespace Note

def level : Note → NoteLevel
  | misread _ => .info
  | misfit _ => .info
  | _ => .debug

def origin : Note → String
  | parsed _ => "wirebind.compiler.parser"
  | misread _ => "wirebind.compiler.parser"
  | resolved _ _ => "wirebind.compiler.codegen.generator"
  | lowered _ _ => "wirebind.compiler.codegen.generator"
  | misfit _ => "wirebind.compiler.build"
  | compiled _ _ => "wirebind.compiler.build"
  | loaded _ => "wirebind.runtime.loader"
  | dispatched _ _ _ => "wirebind.core.node"

def message : Note → String
  | parsed a => "parsed attribute " ++ a.text
  | misread d => "attribute error: " ++ d.text
  | resolved p d => "resolved bind:" ++ p ++ " -> " ++ d.text
  | lowered a n => "lowered " ++ a.text ++ " into " ++ toString n ++ " statements"
  | misfit d => "attribute error: " ++ d.text
  | compiled n m =>
    "compiled " ++ toString n ++ " attributes with " ++ toString m ++ " errors"
  | loaded f => "compiled binder " ++ f
  | dispatched e t n =>
    "dispatch " ++ e ++ " on <" ++ t ++ "> to " ++ toString n ++ " handlers"

end Note

end AttrBinder
