import AttrBinder.Expr.Survey
import AttrBinder.Module.Basic

/-!
Rules that a module has to keep before it can run: parameter and keyword names are not repeated,
nothing is awaited, and what is bound may be bound there.
-/

namespace AttrBinder

namespace Stmt

mutual

def survey : Stmt → Survey
  | importAs _ _ aliasName => ({ bound := [aliasName] } : Survey).faultyIf (isFixedName aliasName)
  | define name params body =>
    (({ bound := [name] } : Survey).and (Expr.surveyParams {} params)).and (surveyAll body).nested
      |>.faultyIf (isFixedName name || params.areFaulty)
  | assign target value =>
    (({ bound := [target] } : Survey).and (Expr.survey {} value)).faultyIf (isFixedName target)
  | evaluate value => Expr.survey {} value
  | pass => .none

def surveyAll : List Stmt → Survey
  | [] => .none
  | s :: rest => (survey s).and (surveyAll rest)

end

end Stmt

def Module.isRunnable (m : Module) : Bool :=
  !(Stmt.surveyAll m).faulty

end AttrBinder
