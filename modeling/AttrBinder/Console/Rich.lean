import AttrBinder.Console.Grid
import AttrBinder.Console.Markup
import AttrBinder.Console.Report

/-!
A library that draws as Rich does: markup with tags and emoji codes, and tables in boxes.
-/

namespace AttrBinder.Console

def Markup.Fault.kind : Markup.Fault → String
  | .tag => "MarkupError"
  | .colour => "ValueError"

def rich (width : Nat) : Renderer where
  width := width
  cells s := Wrap.natural s.toList
  escape := Markup.escape
  text s := (Markup.render s).mapError Markup.Fault.kind
  line s := String.ofList (Wrap.soft s.toList)
  table := Grid.lines width
  code s := (Wrap.wrapCode width s.toList).map String.ofList

end AttrBinder.Console
