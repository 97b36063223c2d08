import AttrBinder.Config.Basic
import AttrBinder.Expr.Basic

/-!
Scenarios: sequences of statements that build a reactive page out of wires, derived values,
effects, elements and attribute lists, act on it, and look at it.
-/

namespace AttrBinder.Scenario

/-- Written values. Objects are made anew whenever the literal is evaluated. -/
inductive Literal where
  | none
  | bool (value : Bool)
  | int (value : Int)
  | float (value : Numeric.Binary64)
  | str (value : String)
  | list (items : List Literal)
  | tuple (items : List Literal)
  | dict (entries : List (Literal × Literal))
  | type (name : String)
  | kind (value : ValueKind)
  | wire (value : Literal)
  | derived (value : Literal)
  | node (tag : String) (properties : List (String × Literal))
  | ref
  | event (type target : Literal)
  | function (result : Literal)
  | plain (members : List (String × Literal))
  | object (name : String)
deriving Inhabited

inductive Exp where
  | literal (value : Literal)
  | object (name : String)
  | get (name : String)
  | value (name : String)
  | peek (name : String)
  | argument
  | eventType
  | eventTarget
  | binary (op : BinaryOp) (left right : Exp)
  | compare (op : CompareOp) (left right : Exp)
  | not (operand : Exp)
  | str (operand : Exp)
  | repr (operand : Exp)
  | truth (operand : Exp)
  | length (operand : Exp)
  | upper (operand : Exp)
  | choose (test yes no : Exp)
  | format (operand : Exp) (spec : String)
  | runs (name : String)
  | disposed (name : String)
  | dependencies (name : String)
  | subscribers (name : String)
  | isSet (name : String)
  | attr (element name : String)
  | property (element name : String) (fallback : Option Exp)
  | isElement (operand : Exp)
deriving Inhabited

inductive RaisedKind where
  | value
  | runtime
  | type
deriving DecidableEq, Repr, Inhabited

/-- The operators that wires have in place. -/
inductive InPlace where
  | add
  | sub

def InPlace.op : InPlace → BinaryOp
  | add => .add
  | sub => .sub

inductive Statement where
  | wire (name : String) (value : Exp)
  | define (name : String) (value : Exp)
  | derived (name : String) (anonymous : Bool) (body : List Statement)
  | effect (name : String) (anonymous : Bool) (body : List Statement)
  | handler (name : String) (body : List Statement)
  | node (name tag : String)
  | ref (name : String)
  | set (name : String) (value : Exp)
  | assign (name : String) (value : Exp)
  | augment (how : InPlace) (name : String) (value : Exp)
  | update (name : String) (value : Exp)
  | act (name method : String)
  | batch (body : List Statement)
  | startBatch
  | endBatch
  | log (channel : String) (value : Exp)
  | raise (kind : RaisedKind) (message : String)
  | choose (test : Exp) (yes no : List Statement)
  | attempt (channel : String) (body : List Statement)
  | leave (value : Exp)
  | evaluate (value : Exp)
  | loader (name : String) (config : Except ConfigFault Config)
  | bind (element source loader : String)
  | load (name source loader : String) (bare : Bool)
  | apply (name element : String)
  | cacheSize (loader : String)
  | clearCache (loader : String)
  | registry
  | dispatch (element event : String) (given : Option Exp)
  | input (element : String) (text : Exp)
  | toggle (element : String) (checked : Option Exp)
  | setAttribute (element name : String) (value : Exp)
  | setProperty (element name : String) (value : Exp)
  | registerEvent (element name : String) (handler : Exp)
  | assignRef (name : String) (node : Exp)
deriving Inhabited

end AttrBinder.Scenario
