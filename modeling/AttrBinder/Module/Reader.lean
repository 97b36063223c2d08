import AttrBinder.Expr.Parser
import AttrBinder.Module.Basic

/-!
Reading the text of a module back. Blocks are told apart by indentation: a block goes on as long
as lines are indented like its first, and ends in front of a line that is indented less.
-/

namespace AttrBinder

namespace Reader

def lastIndent? (ls : List Lexeme) : Option Nat :=
  match (ls.takeWhile Lexeme.isLineBreak).getLast? with
  | some (.lineBreak k) => some k
  | _ => none

def lineBreaks : Reader Nat := do
  let ls ← get
  match lastIndent? ls with
  | some k =>
    set (ls.dropWhile Lexeme.isLineBreak)
    return k
  | none => failure

def pointedNames (first : String) : Nat → Reader String
  | 0 => failure
  | n + 1 => do
    if ← symbol "." then
      let x ← name
      pointedNames (first ++ "." ++ x) n
    else return first

end Reader

namespace Grammar

mutual

def statement : Nat → Nat → Reader Stmt
  | 0, _ => failure
  | n + 1, indent => do
    if ← Reader.word "from" then
      let package ← Reader.pointedNames (← Reader.name) n
      Reader.demandWord "import"
      let x ← Reader.name
      Reader.demandWord "as"
      return .importAs package x (← Reader.name)
    if ← Reader.word "def" then
      let f ← Reader.name
      Reader.demandSymbol "("
      let ps ← params n
      Reader.demandSymbol ")"
      Reader.demandSymbol ":"
      let inner ← Reader.lineBreaks
      demand (inner > indent)
      return .define f ps (← block n inner)
    if ← Reader.word "pass" then return .pass
    match ← get with
    | .name x :: .symbol "=" :: rest =>
      set rest
      return .assign x (← starExpressions n)
    | _ => return .evaluate (← starExpressions n)

def block : Nat → Nat → Reader (List Stmt)
  | 0, _ => failure
  | n + 1, indent => do
    let s ← statement n indent
    let ls ← get
    if ls.all Lexeme.isLineBreak then
      set ([] : List Lexeme)
      return [s]
    match Reader.lastIndent? ls with
    | none => failure
    | some k =>
      if k < indent then return [s]
      demand (k == indent)
      let _ ← Reader.lineBreaks
      return s :: (← block n indent)

end

end Grammar

namespace Module

def ofChars? (cs : List Char) : Option Module := do
  let lexemes ← Lexeme.ofText? cs
  match lexemes.dropWhile Lexeme.isLineBreak with
  | [] => return []
  | ls =>
    let (m, rest) ← (Grammar.block (Grammar.budget cs.length) 0).run ls
    demand rest.isEmpty
    return m

def read? (text : String) : Option Module :=
  ofChars? text.toList

end Module

end AttrBinder
