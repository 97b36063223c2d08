import AttrBinder.Expr.Lexeme

/-!
Where the pieces of a template string end: runs of literal text, and the expressions of its fields.
-/

namespace AttrBinder.Field

open Lexer

/-- The quote of a string inside a field's expression, and whether it is tripled. -/
structure Quote where
  mark : Char
  triple : Bool

def closer? (c : Char) : Option Char :=
  if c == '(' then some ')'
  else if c == '[' then some ']'
  else if c == '\x7b' then some '\x7d'
  else none

def isComparison (c d : Char) : Bool :=
  d == '=' && (c == '!' || c == '=' || c == '<' || c == '>')

/-- The length of a field's expression. Outside brackets and strings it ends at a conversion, a
format, an equals sign or the closing brace; a backslash or a comment makes it invalid. -/
def length? (quote : Option Quote) (closers : List Char) (cs : List Char) : Option Nat :=
  match cs with
  | [] => none
  | c :: rest =>
    if c == '\\' then none
    else
      match quote with
      | some q =>
        if q.triple then
          if isTriple q.mark (c :: rest) then (length? none closers (rest.drop 2)).map (· + 3)
          else (length? quote closers rest).map (· + 1)
        else (length? (if c == q.mark then none else quote) closers rest).map (· + 1)
      | none =>
        if isQuote c then
          if isTriple c (c :: rest) then
            (length? (some ⟨c, true⟩) closers (rest.drop 2)).map (· + 3)
          else (length? (some ⟨c, false⟩) closers rest).map (· + 1)
        else
          match closer? c with
          | some d => (length? none (d :: closers) rest).map (· + 1)
          | none =>
            if c == '#' then none
            else
              match closers with
              | [] =>
                if rest.head?.any (isComparison c) then
                  (length? none closers (rest.drop 1)).map (· + 2)
                else if c == '!' || c == ':' || c == '\x7d' || c == '=' then some 0
                else if c == ')' || c == ']' then none
                else (length? none closers rest).map (· + 1)
              | d :: outer =>
                if c == ')' || c == ']' || c == '\x7d' then
                  if c == d then (length? none outer rest).map (· + 1) else none
                else (length? none closers rest).map (· + 1)
termination_by cs.length
decreasing_by all_goals simp only [List.length_drop, List.length_cons]; omega

inductive RunEnd where
  | stop
  | doubled
deriving DecidableEq, Repr

/-- The length of a run of literal text, and how it ends. Inside a format braces are not doubled.
A name escape is passed over with its braces. -/
def run? (raw nested : Bool) (cs : List Char) : Option (Nat × RunEnd) :=
  let shift (k : Nat) : Nat × RunEnd → Nat × RunEnd := fun (n, e) => (n + k, e)
  let brace (c : Char) (rest : List Char) : Option (Nat × RunEnd) :=
    if nested then some (0, .stop)
    else if rest.head? == some c then some (1, .doubled)
    else if c == '\x7d' then none
    else some (0, .stop)
  match cs with
  | [] => some (0, .stop)
  | '\\' :: c :: rest =>
    if raw then (run? raw nested (c :: rest)).map (shift 1)
    else if c == 'N' then
      match rest with
      | '\x7b' :: more =>
        let n := runLength (· != '\x7d') more
        (run? raw nested (more.drop (n + 1))).map (shift (4 + n))
      | _ :: more => (run? raw nested more).map (shift 3)
      | [] => some (2, .stop)
    else if c == '\x7b' || c == '\x7d' then (brace c rest).map (shift 1)
    else (run? raw nested rest).map (shift 2)
  | c :: rest =>
    if c == '\x7b' || c == '\x7d' then brace c rest
    else (run? raw nested rest).map (shift 1)
termination_by cs.length
decreasing_by all_goals simp only [List.length_drop, List.length_cons]; omega

end AttrBinder.Field
