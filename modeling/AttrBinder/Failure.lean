import AttrBinder.Attribute.Parser
import AttrBinder.Reactive.System
import AttrBinder.Scenario.Syntax

/-!
Everything that can go wrong while a page runs. Faults of expressions, which the language defines,
carry no text; all others say what happened.
-/

namespace AttrBinder

inductive Misuse where
  | type
  | member
  | name
  | unboundLocal
  | key
  | index
  | zeroDivision
  | notCode
  | value
  | overflow
  | importing
  | system
  | encoding
  | nesting
  | unsupported
deriving DecidableEq, Repr, Inhabited

inductive Failure where
  | system (fault : Reactive.Fault)
  | misuse (what : Misuse)
  | raised (kind : Scenario.RaisedKind) (message : String)
  | unbound (name : String)
  | config (fault : ConfigFault)
  | halted (halt : Halt)
  | uncompiled (errors : List Diagnostic)
  | notHandler (event typeName : String)
  | emptyRef
  | notBool (typeName text : String)
  | notNative (kind : ValueKind) (text : String)
  | notCell (typeName : String)
  | noTarget (text : String)
  | thrown (kind : String)
deriving Inhabited

namespace Failure

def message? : Failure → Option String
  | system f => f.message?
  | misuse _ => none
  | raised _ m => some m
  | unbound n => some n
  | config (.notTable _) => none
  | config (.notText _) => none
  | config (.unknownOption _) => none
  | config f => some f.message
  | halted (.complaint d) => some d.message
  | halted (.unreadable _) => none
  | uncompiled ds => some (Diagnostic.summary ds)
  | notHandler e t => some ("handler for '" ++ e ++ "' must be callable, got " ++ t)
  | emptyRef => some "NodeRef has not been assigned an element yet"
  | notBool t x => some ("bound cell must hold a bool, got " ++ t ++ ": " ++ x)
  | notNative .boolean x => some ("expected a boolean property from the host, got " ++ x)
  | notNative .string x => some ("expected a string property from the host, got " ++ x)
  | notCell t =>
    some ("bind: target must be a reactive cell with get() and set(), got " ++ t)
  | noTarget x => some ("event " ++ x ++ " has no target")
  | thrown _ => none

/-- The kinds of failure that are no mistakes of a program, but end it. -/
def endings : List String :=
  ["BaseException", "BaseExceptionGroup", "GeneratorExit", "KeyboardInterrupt", "SystemExit"]

/-- A flush catches everything but what ends the program. -/
def caught : Failure → Bool
  | thrown kind => !endings.contains kind
  | _ => true

end Failure

end AttrBinder
