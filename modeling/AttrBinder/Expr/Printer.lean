import AttrBinder.Expr.Basic
import AttrBinder.Numeric.Digits
import AttrBinder.Numeric.Shortest
import AttrBinder.Text.Quoted

/-!
The text of value expressions. Each expression is written for the precedence that its surroundings
ask for, and stands in parentheses when its own is lower.
-/

namespace AttrBinder

abbrev Prec := Nat

namespace Prec

def named : Prec := 0
def tuple : Prec := 1
def yield : Prec := 2
def test : Prec := 3
def or : Prec := 4
def and : Prec := 5
def not : Prec := 6
def compare : Prec := 7
def bitOr : Prec := 8
def bitXor : Prec := 9
def bitAnd : Prec := 10
def shift : Prec := 11
def arith : Prec := 12
def term : Prec := 13
def factor : Prec := 14
def power : Prec := 15
def await : Prec := 16
def atom : Prec := 17

def next (p : Prec) : Prec :=
  min (p + 1) atom

end Prec

namespace UnaryOp

def text : UnaryOp → String
  | not => "not "
  | invert => "~"
  | plus => "+"
  | minus => "-"

def prec : UnaryOp → Prec
  | not => Prec.not
  | _ => Prec.factor

end UnaryOp

namespace BinaryOp

def text : BinaryOp → String
  | add => "+"
  | sub => "-"
  | mul => "*"
  | matMul => "@"
  | div => "/"
  | mod => "%"
  | floorDiv => "//"
  | pow => "**"
  | shiftLeft => "<<"
  | shiftRight => ">>"
  | bitOr => "|"
  | bitXor => "^"
  | bitAnd => "&"

def prec : BinaryOp → Prec
  | add => Prec.arith
  | sub => Prec.arith
  | pow => Prec.power
  | shiftLeft => Prec.shift
  | shiftRight => Prec.shift
  | bitOr => Prec.bitOr
  | bitXor => Prec.bitXor
  | bitAnd => Prec.bitAnd
  | _ => Prec.term

def leftPrec (op : BinaryOp) : Prec :=
  if op == pow then op.prec.next else op.prec

def rightPrec (op : BinaryOp) : Prec :=
  if op == pow then op.prec else op.prec.next

end BinaryOp

namespace BoolOp

def text : BoolOp → String
  | and => " and "
  | or => " or "

def prec : BoolOp → Prec
  | and => Prec.and
  | or => Prec.or

end BoolOp

def CompareOp.text : CompareOp → String
  | eq => "=="
  | notEq => "!="
  | less => "<"
  | lessEq => "<="
  | greater => ">"
  | greaterEq => ">="
  | is => "is"
  | isNot => "is not"
  | within => "in"
  | notWithin => "not in"

def Conversion.text : Conversion → String
  | str => "!s"
  | repr => "!r"
  | ascii => "!a"

/-! Quotes for texts that should hold few escapes. -/

namespace FewEscapes

open Text (Wide)

def quotes : List String :=
  ["'", "\"", "\"\"\"", "'''"]

def isTripled (q : String) : Bool :=
  q.length == 3

def occursIn (needle : List Char) : List Char → Bool
  | [] => needle.isEmpty
  | c :: rest => needle.isPrefixOf (c :: rest) || occursIn needle rest

def escape (blanks : Bool) (w : Wide) : List Char :=
  w.flatMap fun p =>
    if !blanks && (p == .char '\n' || p == .char '\t') then p.char?.toList else Text.escapePoint p

def guardLast (cs : List Char) : List Char :=
  match cs.getLast? with
  | some c => cs.dropLast ++ ['\\', c]
  | none => cs

/-- The inside of a quoted text, and the quotes out of `candidates` that fit around it, best first.
If none fits, the text is quoted in the plain way. -/
def fit (candidates : List String) (blanks : Bool) (text : Wide) : String × List String :=
  let escaped := escape blanks text
  let multi := if escaped.contains '\n' then candidates.filter isTripled else candidates
  let free := multi.filter fun q => !occursIn q.toList escaped
  if free.isEmpty then
    let q := Text.quoteFor text
    let quote := (candidates.find? fun c => c.toList.contains q).getD (String.ofList [q])
    (String.ofList (Text.quotedBody q text), [quote])
  else
    let touches (q : String) : Bool := q.toList.head? == escaped.getLast?
    let sorted := free.filter (fun q => !touches q) ++ free.filter touches
    if sorted.head?.any touches then (String.ofList (guardLast escaped), sorted)
    else (String.ofList escaped, sorted)

def write (text : Wide) : String :=
  let (body, qs) := fit quotes false text
  let q := qs.headD "'"
  q ++ body ++ q

/-- Fits quotes around one part after the other; what fits around a part is what the next one
chooses from. -/
def fitAll (candidates : List String) : List (Wide × Bool) → List String × List String
  | [] => ([], candidates)
  | (text, isText) :: rest =>
    let (body, qs) := fit candidates isText text
    let (bodies, left) := fitAll qs rest
    (body :: bodies, left)

/-- Parts of a template between the quotes that fit around the last of them. Where no quote suits
all parts, those of the last part win, and the whole need not be a template any more. -/
def writeAll (parts : List (Wide × Bool)) : String :=
  let (bodies, qs) := fitAll quotes parts
  let q := qs.headD "'"
  q ++ String.join bodies ++ q

end FewEscapes

def doubleBraces (w : Text.Wide) : Text.Wide :=
  w.flatMap fun p => if p == .char '\x7b' || p == .char '\x7d' then [p, p] else [p]

namespace Constant

def floatText (dot : Bool) (x : Numeric.Binary64) : String :=
  if x.isInfinite then "1e309"
  else if x.isNaN then "(1e309-1e309)"
  else if x.isNegative then "-" ++ x.magnitudeText dot
  else x.magnitudeText dot

def write (few : Bool) : Constant → String
  | none => "None"
  | bool b => if b then "True" else "False"
  | int n => toString n
  | float x => floatText true x
  | imaginary x => floatText false x ++ "j"
  | str s marked =>
    (if marked then "u" else "") ++ if few then FewEscapes.write s else Text.quoted s
  | bytes bs => Text.quotedBytes bs
  | ellipsis => "..."

def isWritable : Constant → Bool
  | int n => Numeric.hasDecimal n
  | _ => true

end Constant

namespace Expr

def enclose (asked own : Prec) (s : String) : String :=
  if own < asked then "(" ++ s ++ ")" else s

def tupleText (items : List String) : String :=
  match items with
  | [x] => x ++ ","
  | xs => ", ".intercalate xs

def isIntConstant : Expr → Bool
  | constant (.int _) => true
  | constant (.bool _) => true
  | _ => false

mutual

/-- An expression written for a precedence. A tuple with items needs no parentheses in a subscript.
Inside the fields of templates, where no backslash may
stand, `few` asks for texts with few escapes. -/
def write (few : Bool) (p : Prec) : Expr → String
  | name id => id
  | constant c => c.write few
  | member e x =>
    write few Prec.atom e ++ (if e.isIntConstant then " ." else ".") ++ x
  | subscript e (tuple (x :: rest)) =>
    write few Prec.atom e ++ "["
      ++ tupleText (write few Prec.test x :: writeList few Prec.test rest) ++ "]"
  | subscript e i => write few Prec.atom e ++ "[" ++ write few Prec.test i ++ "]"
  | slice l u s => writeSlice few l ++ ":" ++ writeSlice few u ++ writeStep few s
  | starred e => "*" ++ write few Prec.bitOr e
  | call f args keywords =>
    write few Prec.atom f ++ "("
      ++ ", ".intercalate (writeList few Prec.test args ++ writeKeywords few keywords) ++ ")"
  | unary op e => enclose p op.prec (op.text ++ write few op.prec e)
  | binary op l r =>
    enclose p op.prec
      (write few op.leftPrec l ++ " " ++ op.text ++ " " ++ write few op.rightPrec r)
  | bool op es => enclose p op.prec (op.text.intercalate (writeRaised few op.prec.next es))
  | compare e rest =>
    enclose p Prec.compare (write few Prec.compare.next e ++ writeComparisons few rest)
  | conditional t b e =>
    enclose p Prec.test
      (write few Prec.test.next b ++ " if " ++ write few Prec.test.next t ++ " else "
        ++ write few Prec.test e)
  | lambda ps b =>
    let params := writeParams few ps
    enclose p Prec.test
      ("lambda" ++ (if params.isEmpty then "" else " " ++ params) ++ ": " ++ write few Prec.test b)
  | named x e => enclose p Prec.named (x ++ " := " ++ write few Prec.atom e)
  | tuple es =>
    if es.isEmpty then "()"
    else enclose p Prec.tuple (tupleText (writeList few Prec.test es))
  | list es => "[" ++ ", ".intercalate (writeList few Prec.test es) ++ "]"
  | set es =>
    if es.isEmpty then "\x7b*()\x7d"
    else "\x7b" ++ ", ".intercalate (writeList few Prec.test es) ++ "\x7d"
  | dict items => "\x7b" ++ ", ".intercalate (writeDict few items) ++ "\x7d"
  | listComp e cs => "[" ++ write few Prec.test e ++ writeClauses few cs ++ "]"
  | setComp e cs => "\x7b" ++ write few Prec.test e ++ writeClauses few cs ++ "\x7d"
  | dictComp k v cs =>
    "\x7b" ++ write few Prec.test k ++ ": " ++ write few Prec.test v ++ writeClauses few cs ++ "\x7d"
  | generator e cs => "(" ++ write few Prec.test e ++ writeClauses few cs ++ ")"
  | template parts =>
    let texts := writeParts parts
    if few then "f" ++ FewEscapes.write (texts.flatMap Prod.fst)
    else "f" ++ FewEscapes.writeAll texts
  | yield none => enclose p Prec.yield "yield"
  | yield (some e) => enclose p Prec.yield ("yield " ++ write few Prec.atom e)
  | yieldFrom e => enclose p Prec.yield ("yield from " ++ write few Prec.atom e)
  | await e => enclose p Prec.await ("await " ++ write few Prec.atom e)

def writeList (few : Bool) (p : Prec) : List Expr → List String
  | [] => []
  | e :: rest => write few p e :: writeList few p rest

/-- Operands of a chain of `and` or `or`, each written for a tighter precedence than the one
before it. -/
def writeRaised (few : Bool) (p : Prec) : List Expr → List String
  | [] => []
  | e :: rest => write few p e :: writeRaised few p.next rest

def writeSlice (few : Bool) : Option Expr → String
  | none => ""
  | some e => write few Prec.test e

def writeStep (few : Bool) : Option Expr → String
  | none => ""
  | some e => ":" ++ write few Prec.test e

def writeKeywords (few : Bool) : List Keyword → List String
  | [] => []
  | .mk (some k) e :: rest => (k ++ "=" ++ write few Prec.test e) :: writeKeywords few rest
  | .mk none e :: rest => ("**" ++ write few Prec.test e) :: writeKeywords few rest

def writeComparisons (few : Bool) : List Comparison → String
  | [] => ""
  | .mk op e :: rest =>
    " " ++ op.text ++ " " ++ write few Prec.compare.next e ++ writeComparisons few rest

def writeDict (few : Bool) : List DictItem → List String
  | [] => []
  | .mk (some k) v :: rest =>
    (write few Prec.test k ++ ": " ++ write few Prec.test v) :: writeDict few rest
  | .mk none v :: rest => ("**" ++ write few Prec.bitOr v) :: writeDict few rest

def writeClauses (few : Bool) : List Clause → String
  | [] => ""
  | .mk isAsync target iter conditions :: rest =>
    (if isAsync then " async for " else " for ") ++ write few Prec.tuple target ++ " in "
      ++ write few Prec.test.next iter ++ writeFilters few conditions ++ writeClauses few rest

def writeFilters (few : Bool) : List Expr → String
  | [] => ""
  | e :: rest => " if " ++ write few Prec.test.next e ++ writeFilters few rest

def writeParams (few : Bool) : Params → String
  | .mk positional ordinary rest keyword others =>
    let slash := if positional.isEmpty then [] else ["/"]
    let star := match rest with
      | some x => ["*" ++ x]
      | none => if keyword.isEmpty then [] else ["*"]
    let collect := match others with
      | some x => ["**" ++ x]
      | none => []
    ", ".intercalate
      (writeParamList few positional ++ slash ++ writeParamList few ordinary ++ star
        ++ writeParamList few keyword ++ collect)

def writeParamList (few : Bool) : List Param → List String
  | [] => []
  | .mk x (some e) :: rest => (x ++ "=" ++ write few Prec.test e) :: writeParamList few rest
  | .mk x none :: rest => x :: writeParamList few rest

def writeParts : List Part → List (Text.Wide × Bool)
  | [] => []
  | .text s :: rest => (doubleBraces s, true) :: writeParts rest
  | .field e conversion format :: rest =>
    let body := write true Prec.test.next e
    let gap := if body.startsWith "\x7b" then " " else ""
    let mark := match conversion with
      | some c => c.text
      | none => ""
    (Text.Wide.ofString ("\x7b" ++ gap ++ body ++ mark) ++ writeFormat format
      ++ [.char '\x7d'], false) :: writeParts rest

def writeFormat : Option (List Part) → Text.Wide
  | none => []
  | some parts => .char ':' :: (writeParts parts).flatMap Prod.fst

end

mutual

/-- Whether an expression can be written at all: all its constants can be, and no field of a
template holds a backslash. -/
def isWritable : Expr → Bool
  | name _ => true
  | constant c => c.isWritable
  | member e _ => isWritable e
  | subscript e i => isWritable e && isWritable i
  | slice l u s => isWritableOption l && isWritableOption u && isWritableOption s
  | starred e => isWritable e
  | call f args keywords => isWritable f && areWritable args && areWritableKeywords keywords
  | unary _ e => isWritable e
  | binary _ l r => isWritable l && isWritable r
  | bool _ es => areWritable es
  | compare e rest => isWritable e && areWritableComparisons rest
  | conditional t b e => isWritable t && isWritable b && isWritable e
  | lambda ps b => areWritableParams ps && isWritable b
  | named _ e => isWritable e
  | tuple es => areWritable es
  | list es => areWritable es
  | set es => areWritable es
  | dict items => areWritableItems items
  | listComp e cs => isWritable e && areWritableClauses cs
  | setComp e cs => isWritable e && areWritableClauses cs
  | dictComp k v cs => isWritable k && isWritable v && areWritableClauses cs
  | generator e cs => isWritable e && areWritableClauses cs
  | template parts => areWritableParts parts
  | yield e => isWritableOption e
  | yieldFrom e => isWritable e
  | await e => isWritable e

def isWritableOption : Option Expr → Bool
  | none => true
  | some e => isWritable e

def areWritable : List Expr → Bool
  | [] => true
  | e :: rest => isWritable e && areWritable rest

def areWritableKeywords : List Keyword → Bool
  | [] => true
  | .mk _ e :: rest => isWritable e && areWritableKeywords rest

def areWritableComparisons : List Comparison → Bool
  | [] => true
  | .mk _ e :: rest => isWritable e && areWritableComparisons rest

def areWritableItems : List DictItem → Bool
  | [] => true
  | .mk k v :: rest => isWritableOption k && isWritable v && areWritableItems rest

def areWritableClauses : List Clause → Bool
  | [] => true
  | .mk _ target iter conditions :: rest =>
    isWritable target && isWritable iter && areWritable conditions && areWritableClauses rest

def areWritableParams : Params → Bool
  | .mk positional ordinary _ keyword _ =>
    areWritableParamList positional && areWritableParamList ordinary && areWritableParamList keyword

def areWritableParamList : List Param → Bool
  | [] => true
  | .mk _ d :: rest => isWritableOption d && areWritableParamList rest

def areWritableParts : List Part → Bool
  | [] => true
  | .text _ :: rest => areWritableParts rest
  | .field e _ format :: rest =>
    isWritable e && !(write true Prec.test.next e).toList.contains '\\' && isWritableFormat format
      && areWritableParts rest

def isWritableFormat : Option (List Part) → Bool
  | none => true
  | some parts => areWritableParts parts

end

def print (e : Expr) : String :=
  e.write false Prec.test

end Expr

end AttrBinder
