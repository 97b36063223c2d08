import AttrBinder.Numeric.Shortest
import AttrBinder.Property
import AttrBinder.Text.Quoted

/-!
Plain data as configurations hold it: texts, numbers, lists, tables, and the names of types and
value kinds. Equality crosses number types: a truth value is a number, and a whole number and a
double are compared exactly.
-/

namespace AttrBinder

open Numeric (Binary64)

inductive Datum where
  | none
  | bool (value : Bool)
  | int (value : Int)
  | float (value : Binary64)
  | str (value : String)
  | list (items : List Datum)
  | tuple (items : List Datum)
  | dict (entries : List (Datum × Datum))
  | type (name : String)
  | kind (value : ValueKind)
deriving Inhabited

namespace Datum

def tupleText (items : List String) : String :=
  match items with
  | [x] => "(" ++ x ++ ",)"
  | xs => "(" ++ ", ".intercalate xs ++ ")"

def listText (items : List String) : String :=
  "[" ++ ", ".intercalate items ++ "]"

def dictText (entries : List (String × String)) : String :=
  "\x7b" ++ ", ".intercalate (entries.map fun (k, v) => k ++ ": " ++ v) ++ "\x7d"

def boolText (b : Bool) : String :=
  if b then "True" else "False"

def typeText (name : String) : String :=
  "<class '" ++ name ++ "'>"

mutual

def text : Datum → String
  | none => "None"
  | bool b => boolText b
  | int n => toString n
  | float x => x.text
  | str s => Text.quoted s
  | list xs => listText (texts xs)
  | tuple xs => tupleText (texts xs)
  | dict es => dictText (entryTexts es)
  | type t => typeText t
  | kind k => k.text

def texts : List Datum → List String
  | [] => []
  | x :: rest => text x :: texts rest

def entryTexts : List (Datum × Datum) → List (String × String)
  | [] => []
  | (k, v) :: rest => (text k, text v) :: entryTexts rest

end

def typeName : Datum → String
  | none => "NoneType"
  | bool _ => "bool"
  | int _ => "int"
  | float _ => "float"
  | str _ => "str"
  | list _ => "list"
  | tuple _ => "tuple"
  | dict _ => "dict"
  | type _ => "type"
  | kind _ => "ValueKind"

/-- A number's value: a ratio, or the infinities and the undefined number, which are of no ratio. -/
inductive Magnitude where
  | ratio (num : Int) (den : Nat)
  | infinite (negative : Bool)
  | undefined
deriving DecidableEq, Repr

namespace Magnitude

def ofBinary64 (x : Binary64) : Magnitude :=
  if x.isNaN then undefined
  else if x.isInfinite then infinite x.isNegative
  else ratio x.toRatio.1 x.toRatio.2

def compare? : Magnitude → Magnitude → Option Ordering
  | undefined, _ => .none
  | _, undefined => .none
  | infinite a, infinite b => some (if a == b then .eq else if a then .lt else .gt)
  | infinite a, ratio _ _ => some (if a then .lt else .gt)
  | ratio _ _, infinite b => some (if b then .gt else .lt)
  | ratio a b, ratio c d => some (compare (a * d) (c * b))

end Magnitude

def magnitude? : Datum → Option Magnitude
  | bool b => some (.ratio (if b then 1 else 0) 1)
  | int n => some (.ratio n 1)
  | float x => some (.ofBinary64 x)
  | _ => .none

def scalarEqual (a b : Datum) : Bool :=
  match a.magnitude?, b.magnitude? with
  | some m, some n => m.compare? n == some .eq
  | _, _ =>
    match a, b with
    | none, none => true
    | str s, str t => s == t
    | type s, type t => s == t
    | kind s, kind t => s == t
    | _, _ => false

mutual

def isHashable : Datum → Bool
  | list _ => false
  | dict _ => false
  | tuple xs => areHashable xs
  | _ => true

def areHashable : List Datum → Bool
  | [] => true
  | x :: rest => isHashable x && areHashable rest

end

mutual

def sameKey : Datum → Datum → Bool
  | tuple xs, b =>
    match b with
    | tuple ys => sameKeys xs ys
    | _ => false
  | a, b => scalarEqual a b

def sameKeys : List Datum → List Datum → Bool
  | [], [] => true
  | x :: xs, y :: ys => sameKey x y && sameKeys xs ys
  | _, _ => false

end

def insert (entries : List (Datum × Datum)) (key value : Datum) : List (Datum × Datum) :=
  match entries with
  | [] => [(key, value)]
  | (k, v) :: rest =>
    if sameKey k key then (k, value) :: rest else (k, v) :: insert rest key value

inductive TableFault where
  | notIterable (typeName : String)
  | notPair (index length : Nat)
  | notSequence (index : Nat)
  | unhashable (typeName : String)
deriving DecidableEq, Repr

def TableFault.message : TableFault → String
  | notIterable t => "'" ++ t ++ "' object is not iterable"
  | notPair i n =>
    "dictionary update sequence element #" ++ toString i ++ " has length " ++ toString n
      ++ "; 2 is required"
  | notSequence i =>
    "cannot convert dictionary update sequence element #" ++ toString i ++ " to a sequence"
  | unhashable t => "unhashable type: '" ++ t ++ "'"

def items? : Datum → Option (List Datum)
  | list xs => some xs
  | tuple xs => some xs
  | str s => some (s.toList.map fun c => str (String.ofList [c]))
  | dict es => some (es.map Prod.fst)
  | _ => .none

def addPairs (index : Nat) (entries : List (Datum × Datum)) :
    List Datum → Except TableFault (List (Datum × Datum))
  | [] => .ok entries
  | x :: rest =>
    match x.items? with
    | .none => .error (.notSequence index)
    | some [k, v] =>
      if k.isHashable then addPairs (index + 1) (insert entries k v) rest
      else .error (.unhashable k.typeName)
    | some xs => .error (.notPair index xs.length)

def table (d : Datum) : Except TableFault (List (Datum × Datum)) :=
  match d with
  | dict es => .ok es
  | _ =>
    match d.items? with
    | some xs => addPairs 0 [] xs
    | .none => .error (.notIterable d.typeName)

mutual

def order? : Datum → Datum → Option Ordering
  | tuple xs, b =>
    match b with
    | tuple ys => orders? xs ys
    | _ => .none
  | list xs, b =>
    match b with
    | list ys => orders? xs ys
    | _ => .none
  | str s, b =>
    match b with
    | str t => some (compare s t)
    | _ => .none
  | a, b =>
    match a.magnitude?, b.magnitude? with
    | some m, some n => some ((m.compare? n).getD .eq)
    | _, _ => .none

def orders? : List Datum → List Datum → Option Ordering
  | [], [] => some .eq
  | [], _ :: _ => some .lt
  | _ :: _, [] => some .gt
  | x :: xs, y :: ys =>
    match order? x y with
    | some .eq => orders? xs ys
    | o => o

end

end Datum

end AttrBinder
