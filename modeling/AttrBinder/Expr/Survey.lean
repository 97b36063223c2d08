import AttrBinder.Expr.Basic

/-!
What can be told of an expression without running it: the names it binds in the function around
it, whether it makes that function a generator, and whether code may contain it at all.
-/

namespace AttrBinder

/-- What a part of a function says about the function. -/
structure Survey where
  bound : List String := []
  yields : Bool := false
  awaits : Bool := false
  faulty : Bool := false
deriving DecidableEq, Repr, Inhabited

namespace Survey

def none : Survey := {}

def and (a b : Survey) : Survey :=
  { bound := a.bound ++ b.bound
    yields := a.yields || b.yields
    awaits := a.awaits || b.awaits
    faulty := a.faulty || b.faulty }

def faultyIf (s : Survey) (broken : Bool) : Survey :=
  { s with faulty := s.faulty || broken }

def nested (s : Survey) : Survey :=
  { faulty := s.faulty }

end Survey

/-- Where an expression stands in its function. -/
structure Place where
  inComprehension : Bool := false
  iterated : List String := []
  inIterable : Bool := false
deriving DecidableEq, Repr, Inhabited

def isFixedName (s : String) : Bool :=
  s == "__debug__"

def hasRepeats (names : List String) : Bool :=
  match names with
  | [] => false
  | x :: rest => rest.contains x || hasRepeats rest

def Param.name : Param → String
  | .mk x _ => x

def Params.names : Params → List String
  | .mk positional ordinary rest keyword others =>
    positional.map Param.name ++ ordinary.map Param.name ++ rest.toList
      ++ keyword.map Param.name ++ others.toList

def Params.areFaulty (ps : Params) : Bool :=
  hasRepeats ps.names || ps.names.any isFixedName

def Keyword.names : List Keyword → List String
  | [] => []
  | .mk (some x) _ :: rest => x :: names rest
  | .mk Option.none _ :: rest => names rest

namespace Expr

mutual

def targetNames : Expr → List String
  | name x => [x]
  | tuple xs => allTargetNames xs
  | list xs => allTargetNames xs
  | starred e => targetNames e
  | _ => []

def allTargetNames : List Expr → List String
  | [] => []
  | x :: rest => targetNames x ++ allTargetNames rest

end

mutual

def isFaultyTarget : Expr → Bool
  | name x => isFixedName x
  | starred _ => true
  | tuple xs => areFaultyTargets xs || decide (starCount xs > 1)
  | list xs => areFaultyTargets xs || decide (starCount xs > 1)
  | _ => false

def areFaultyTargets : List Expr → Bool
  | [] => false
  | .starred e :: rest => isFaultyTarget e || areFaultyTargets rest
  | x :: rest => isFaultyTarget x || areFaultyTargets rest

def starCount : List Expr → Nat
  | [] => 0
  | .starred _ :: rest => starCount rest + 1
  | _ :: rest => starCount rest

end

def clauseTargets : List Clause → List String
  | [] => []
  | .mk _ target _ _ :: rest => target.targetNames ++ clauseTargets rest

def anyAsync : List Clause → Bool
  | [] => false
  | .mk isAsync _ _ _ :: rest => isAsync || anyAsync rest

def anyFaultyTarget : List Clause → Bool
  | [] => false
  | .mk _ target _ _ :: rest => target.isFaultyTarget || anyFaultyTarget rest

def within (p : Place) (clauses : List Clause) : Place :=
  { inComprehension := true
    iterated := p.iterated ++ clauseTargets clauses
    inIterable := p.inIterable }

def comprehension (p : Place) (isGenerator : Bool) (clauses : List Clause) (first inner : Survey) :
    Survey :=
  let isAsync := inner.awaits || anyAsync clauses
  first.and
    { bound := inner.bound
      awaits := isAsync && !isGenerator
      faulty := inner.faulty || inner.yields || anyFaultyTarget clauses
        || (isAsync && !isGenerator && !p.inComprehension) }

mutual

def survey (p : Place) : Expr → Survey
  | name _ => .none
  | constant _ => .none
  | member e _ => survey p e
  | subscript e i => (survey p e).and (survey p i)
  | slice l u s => (surveyOption p l).and ((surveyOption p u).and (surveyOption p s))
  | starred e => survey p e
  | call f args keywords =>
    ((survey p f).and ((surveyAll p args).and (surveyKeywords p keywords))).faultyIf
      (hasRepeats (Keyword.names keywords) || (Keyword.names keywords).any isFixedName)
  | unary _ e => survey p e
  | binary _ a b => (survey p a).and (survey p b)
  | bool _ es => surveyAll p es
  | compare e rest => (survey p e).and (surveyComparisons p rest)
  | conditional t a b => (survey p t).and ((survey p a).and (survey p b))
  | lambda ps body =>
    ((surveyParams p ps).and (survey {} body).nested).faultyIf ps.areFaulty
  | named x e =>
    ({ bound := [x] } : Survey).and (survey p e)
      |>.faultyIf (isFixedName x || p.inIterable || p.iterated.contains x)
  | tuple es => surveyAll p es
  | list es => surveyAll p es
  | set es => surveyAll p es
  | dict items => surveyItems p items
  | listComp e cs =>
    comprehension p false cs (surveyFirst p cs)
      ((survey (within p cs) e).and (surveyClauses (within p cs) true cs))
  | setComp e cs =>
    comprehension p false cs (surveyFirst p cs)
      ((survey (within p cs) e).and (surveyClauses (within p cs) true cs))
  | dictComp k v cs =>
    comprehension p false cs (surveyFirst p cs)
      ((survey (within p cs) k).and
        ((survey (within p cs) v).and (surveyClauses (within p cs) true cs)))
  | generator e cs =>
    comprehension p true cs (surveyFirst p cs)
      ((survey (within p cs) e).and (surveyClauses (within p cs) true cs))
  | template parts => surveyParts p parts
  | yield e => ({ yields := true } : Survey).and (surveyOption p e)
  | yieldFrom e => ({ yields := true } : Survey).and (survey p e)
  | await e => (({ awaits := true } : Survey).and (survey p e)).faultyIf !p.inComprehension

def surveyAll (p : Place) : List Expr → Survey
  | [] => .none
  | e :: rest => (survey p e).and (surveyAll p rest)

def surveyOption (p : Place) : Option Expr → Survey
  | Option.none => .none
  | some e => survey p e

def surveyKeywords (p : Place) : List Keyword → Survey
  | [] => .none
  | .mk _ e :: rest => (survey p e).and (surveyKeywords p rest)

def surveyComparisons (p : Place) : List Comparison → Survey
  | [] => .none
  | .mk _ e :: rest => (survey p e).and (surveyComparisons p rest)

def surveyItems (p : Place) : List DictItem → Survey
  | [] => .none
  | .mk k v :: rest => (surveyOption p k).and ((survey p v).and (surveyItems p rest))

def surveyFirst (p : Place) : List Clause → Survey
  | [] => .none
  | .mk _ _ iter _ :: _ => survey { p with inIterable := true } iter

def surveyClauses (p : Place) (isFirst : Bool) : List Clause → Survey
  | [] => .none
  | .mk _ target iter conditions :: rest =>
    (if isFirst then .none else survey { p with inIterable := true } iter).and
      ((survey p target).and ((surveyAll p conditions).and (surveyClauses p false rest)))

def surveyParams (p : Place) : Params → Survey
  | .mk positional ordinary _ keyword _ =>
    (surveyDefaults p positional).and ((surveyDefaults p ordinary).and (surveyDefaults p keyword))

def surveyDefaults (p : Place) : List Param → Survey
  | [] => .none
  | .mk _ d :: rest => (surveyOption p d).and (surveyDefaults p rest)

def surveyParts (p : Place) : List Part → Survey
  | [] => .none
  | .text _ :: rest => surveyParts p rest
  | .field e _ f :: rest => (survey p e).and ((surveyFormat p f).and (surveyParts p rest))

def surveyFormat (p : Place) : Option (List Part) → Survey
  | Option.none => .none
  | some parts => surveyParts p parts

end

end Expr

end AttrBinder
