import AttrBinder.Expr.Escape
import AttrBinder.Expr.Field

/-!
The grammar of value expressions, as functions from lexemes to syntax. Each rule reads from the
head of the remaining lexemes and decides by at most two of them, so no rule is tried twice. The
rules call each other with a smaller budget; `Expr.parse?` starts with one that is larger than any
chain of calls its text can cause.
-/

namespace AttrBinder

abbrev Reader := StateT (List Lexeme) Option

def demand {m : Type → Type} [Alternative m] (condition : Bool) : m Unit :=
  if condition then pure () else failure

namespace Reader

def symbol (s : String) : Reader Bool := do
  match ← get with
  | .symbol t :: rest => if s == t then set rest; return true else return false
  | _ => return false

def word (s : String) : Reader Bool := do
  match ← get with
  | .word t :: rest => if s == t then set rest; return true else return false
  | _ => return false

def demandSymbol (s : String) : Reader Unit := do
  if ← symbol s then return () else failure

def demandWord (s : String) : Reader Unit := do
  if ← word s then return () else failure

def name : Reader String := do
  match ← get with
  | .name x :: rest => set rest; return x
  | _ => failure

def atSymbol (ss : List String) : Reader Bool := do
  match ← get with
  | .symbol t :: _ => return ss.contains t
  | _ => return false

def atClause : Reader Bool := do
  match ← get with
  | .word "for" :: _ => return true
  | .word "async" :: .word "for" :: _ => return true
  | _ => return false

def strings : Reader (List StringLexeme) := do
  let ls ← get
  let isString (l : Lexeme) : Bool := match l with
    | .string _ => true
    | _ => false
  set (ls.dropWhile isString)
  return (ls.takeWhile isString).filterMap fun l => match l with
    | .string s => some s
    | _ => none

end Reader

def BinaryOp.ofSymbol? (s : String) : Option (BinaryOp × Nat) :=
  match s with
  | "|" => some (.bitOr, 0)
  | "^" => some (.bitXor, 1)
  | "&" => some (.bitAnd, 2)
  | "<<" => some (.shiftLeft, 3)
  | ">>" => some (.shiftRight, 3)
  | "+" => some (.add, 4)
  | "-" => some (.sub, 4)
  | "*" => some (.mul, 5)
  | "@" => some (.matMul, 5)
  | "/" => some (.div, 5)
  | "%" => some (.mod, 5)
  | "//" => some (.floorDiv, 5)
  | _ => none

def BinaryOp.topLevel : Nat := 6

def Reader.binaryOp (level : Nat) : Reader (Option BinaryOp) := do
  match ← get with
  | .symbol s :: rest =>
    match BinaryOp.ofSymbol? s with
    | some (op, l) => if l == level then set rest; return some op else return none
    | none => return none
  | _ => return none

def Reader.compareOp : Reader (Option CompareOp) := do
  match ← get with
  | .symbol s :: rest =>
    let op? : Option CompareOp := match s with
      | "==" => some .eq
      | "!=" => some .notEq
      | "<" => some .less
      | "<=" => some .lessEq
      | ">" => some .greater
      | ">=" => some .greaterEq
      | _ => none
    if op?.isSome then set rest
    return op?
  | .word "in" :: rest => set rest; return some .within
  | .word "not" :: .word "in" :: rest => set rest; return some .notWithin
  | .word "is" :: .word "not" :: rest => set rest; return some .isNot
  | .word "is" :: rest => set rest; return some .is
  | _ => return none

inductive ParamItem where
  | plain (param : Param)
  | slash
  /-- The start of the keyword parameters, perhaps with a collecting parameter. -/
  | star (name : Option String)
  | others (name : String)

namespace ParamItem

def hasDefault : Param → Bool
  | .mk _ d => d.isSome

def plains : List ParamItem → List Param
  | .plain p :: rest => p :: plains rest
  | _ => []

def afterPlains : List ParamItem → List ParamItem
  | .plain _ :: rest => afterPlains rest
  | rest => rest

def defaultsLast : List Param → Bool
  | [] => true
  | p :: rest => if hasDefault p then rest.all hasDefault else defaultsLast rest

/-- The end of a parameter list: keyword parameters and the one that collects the others. -/
def tail? (items : List ParamItem) : Option (Option String × List Param × Option String) :=
  let others? (items : List ParamItem) : Option (Option String) :=
    match items with
    | [] => some none
    | [.others k] => some (some k)
    | _ => none
  match items with
  | .star x :: rest =>
    let keyword := plains rest
    if x.isNone && keyword.isEmpty then none
    else (others? (afterPlains rest)).map fun k => (x, keyword, k)
  | _ => (others? items).map fun k => (none, [], k)

/-- The parameters that a list of items stands for, if their order is right. -/
def params? (items : List ParamItem) : Option Params :=
  let first := plains items
  match afterPlains items with
  | .slash :: rest =>
    let second := plains rest
    if first.isEmpty || !defaultsLast (first ++ second) then none
    else (tail? (afterPlains rest)).map fun (x, k, o) => .mk first second x k o
  | rest =>
    if !defaultsLast first then none
    else (tail? rest).map fun (x, k, o) => .mk [] first x k o

end ParamItem

def Part.merge : List Part → List Part
  | [] => []
  | .text s :: rest =>
    match Part.merge rest with
    | .text t :: more => .text (s ++ t) :: more
    | more => if s.isEmpty then more else .text s :: more
  | p :: rest => p :: Part.merge rest

def Expr.isStarred : Expr → Bool
  | .starred _ => true
  | _ => false

def Conversion.ofChar? (c : Char) : Option Conversion :=
  match c with
  | 's' => some .str
  | 'r' => some .repr
  | 'a' => some .ascii
  | _ => none

def isAsciiBlank (c : Char) : Bool :=
  c == ' ' || (9 ≤ c.toNat && c.toNat ≤ 13)

/-- How a field of a template ends: the text that repeats its expression, its conversion, and the
characters from the format or the closing brace on. -/
structure FieldTail where
  label : Option (List Char)
  conversion : Option Conversion
  rest : List Char

def FieldTail.ofChars? (expression rest : List Char) : Option FieldTail :=
  let (label, rest) := match rest with
    | '=' :: more =>
      let blanks := more.takeWhile isAsciiBlank
      (some (expression ++ '=' :: blanks), more.drop blanks.length)
    | _ => (none, rest)
  match rest with
  | '!' :: c :: more => (Conversion.ofChar? c).map fun k => ⟨label, some k, more⟩
  | '!' :: [] => none
  | _ => some ⟨label, none, rest⟩

namespace Grammar

mutual

def named : Nat → Reader Expr
  | 0 => failure
  | n + 1 => do
    match ← get with
    | .name x :: .symbol ":=" :: rest =>
      set rest
      return .named x (← expression n)
    | _ => expression n
termination_by structural n => n

def expression : Nat → Reader Expr
  | 0 => failure
  | n + 1 => do
    if ← Reader.word "lambda" then
      let ps ← params n
      Reader.demandSymbol ":"
      return .lambda ps (← expression n)
    let body ← disjunction n
    if ← Reader.word "if" then
      let test ← disjunction n
      Reader.demandWord "else"
      return .conditional test body (← expression n)
    return body
termination_by structural n => n

def disjunction : Nat → Reader Expr
  | 0 => failure
  | n + 1 => do
    let first ← conjunction n
    match ← disjuncts n with
    | [] => return first
    | more => return .bool .or (first :: more)
termination_by structural n => n

def disjuncts : Nat → Reader (List Expr)
  | 0 => failure
  | n + 1 => do
    if ← Reader.word "or" then
      let e ← conjunction n
      return e :: (← disjuncts n)
    return []
termination_by structural n => n

def conjunction : Nat → Reader Expr
  | 0 => failure
  | n + 1 => do
    let first ← inversion n
    match ← conjuncts n with
    | [] => return first
    | more => return .bool .and (first :: more)
termination_by structural n => n

def conjuncts : Nat → Reader (List Expr)
  | 0 => failure
  | n + 1 => do
    if ← Reader.word "and" then
      let e ← inversion n
      return e :: (← conjuncts n)
    return []
termination_by structural n => n

def inversion : Nat → Reader Expr
  | 0 => failure
  | n + 1 => do
    if ← Reader.word "not" then return .unary .not (← inversion n)
    comparison n
termination_by structural n => n

def comparison : Nat → Reader Expr
  | 0 => failure
  | n + 1 => do
    let first ← binary n 0
    match ← comparisons n with
    | [] => return first
    | more => return .compare first more
termination_by structural n => n

def comparisons : Nat → Reader (List Comparison)
  | 0 => failure
  | n + 1 => do
    match ← Reader.compareOp with
    | some op =>
      let e ← binary n 0
      return .mk op e :: (← comparisons n)
    | none => return []
termination_by structural n => n

def binary : Nat → Nat → Reader Expr
  | 0, _ => failure
  | n + 1, level => do
    if level == BinaryOp.topLevel then factor n
    else
      let left ← binary n (level + 1)
      operands n level left
termination_by structural n => n

def operands : Nat → Nat → Expr → Reader Expr
  | 0, _, _ => failure
  | n + 1, level, left => do
    match ← Reader.binaryOp level with
    | some op =>
      let right ← binary n (level + 1)
      operands n level (.binary op left right)
    | none => return left
termination_by structural n => n

def factor : Nat → Reader Expr
  | 0 => failure
  | n + 1 => do
    if ← Reader.symbol "+" then return .unary .plus (← factor n)
    if ← Reader.symbol "-" then return .unary .minus (← factor n)
    if ← Reader.symbol "~" then return .unary .invert (← factor n)
    power n
termination_by structural n => n

def power : Nat → Reader Expr
  | 0 => failure
  | n + 1 => do
    let base ← if ← Reader.word "await" then Expr.await <$> primary n else primary n
    if ← Reader.symbol "**" then return .binary .pow base (← factor n)
    return base
termination_by structural n => n

def primary : Nat → Reader Expr
  | 0 => failure
  | n + 1 => do
    let e ← atom n
    trailers n e
termination_by structural n => n

def trailers : Nat → Expr → Reader Expr
  | 0, _ => failure
  | n + 1, e => do
    if ← Reader.symbol "." then
      let x ← Reader.name
      trailers n (.member e x)
    else if ← Reader.symbol "(" then
      let (args, keywords) ← arguments n 0 true
      trailers n (.call e args keywords)
    else if ← Reader.symbol "[" then
      let i ← index n
      trailers n (.subscript e i)
    else return e
termination_by structural n => n

def atom : Nat → Reader Expr
  | 0 => failure
  | n + 1 => do
    match ← get with
    | .name x :: rest => set rest; return .name x
    | .number c :: rest => set rest; return .constant c
    | .word "True" :: rest => set rest; return .constant (.bool true)
    | .word "False" :: rest => set rest; return .constant (.bool false)
    | .word "None" :: rest => set rest; return .constant .none
    | .symbol "..." :: rest => set rest; return .constant .ellipsis
    | .string _ :: _ => literal n (← Reader.strings)
    | .symbol "(" :: rest => set rest; parenthesised n
    | .symbol "[" :: rest => set rest; bracketed n
    | .symbol "\x7b" :: rest => set rest; braced n
    | _ => failure
termination_by structural n => n

def parenthesised : Nat → Reader Expr
  | 0 => failure
  | n + 1 => do
    if ← Reader.symbol ")" then return .tuple []
    if ← Reader.word "yield" then
      let e ← yielded n
      Reader.demandSymbol ")"
      return e
    let first ← starNamed n
    if ← Reader.symbol "," then return .tuple (first :: (← items n ")"))
    demand !first.isStarred
    let e ← if ← Reader.atClause then Expr.generator first <$> clauses n else pure first
    Reader.demandSymbol ")"
    return e
termination_by structural n => n

def bracketed : Nat → Reader Expr
  | 0 => failure
  | n + 1 => do
    if ← Reader.symbol "]" then return .list []
    let first ← starNamed n
    if ← Reader.atClause then
      demand !first.isStarred
      let cs ← clauses n
      Reader.demandSymbol "]"
      return .listComp first cs
    if ← Reader.symbol "," then return .list (first :: (← items n "]"))
    Reader.demandSymbol "]"
    return .list [first]
termination_by structural n => n

/-- What follows an opening brace: a dictionary, a set or a comprehension of either. -/
def braced : Nat → Reader Expr
  | 0 => failure
  | n + 1 => do
    if ← Reader.symbol "\x7d" then return .dict []
    if ← Reader.atSymbol ["**"] then return .dict (← dictItems n)
    let isNamed : Bool ← do
      match ← get with
      | .name _ :: .symbol ":=" :: _ => pure true
      | _ => pure false
    if isNamed || (← Reader.atSymbol ["*"]) then
      setRest n (← starNamed n)
    else
      let e ← expression n
      if ← Reader.symbol ":" then
        let v ← expression n
        if ← Reader.atClause then
          let cs ← clauses n
          Reader.demandSymbol "\x7d"
          return .dictComp e v cs
        if ← Reader.symbol "," then return .dict (.mk (some e) v :: (← dictItems n))
        Reader.demandSymbol "\x7d"
        return .dict [.mk (some e) v]
      setRest n e
termination_by structural n => n

def setRest : Nat → Expr → Reader Expr
  | 0, _ => failure
  | n + 1, first => do
    if ← Reader.atClause then
      demand !first.isStarred
      let cs ← clauses n
      Reader.demandSymbol "\x7d"
      return .setComp first cs
    if ← Reader.symbol "," then return .set (first :: (← items n "\x7d"))
    Reader.demandSymbol "\x7d"
    return .set [first]
termination_by structural n => n

def dictItems : Nat → Reader (List DictItem)
  | 0 => failure
  | n + 1 => do
    if ← Reader.symbol "\x7d" then return []
    let item ← if ← Reader.symbol "**" then DictItem.mk none <$> binary n 0
      else do
        let k ← expression n
        Reader.demandSymbol ":"
        let v ← expression n
        pure (DictItem.mk (some k) v)
    if ← Reader.symbol "," then return item :: (← dictItems n)
    Reader.demandSymbol "\x7d"
    return [item]
termination_by structural n => n

def starNamed : Nat → Reader Expr
  | 0 => failure
  | n + 1 => do
    if ← Reader.symbol "*" then return .starred (← binary n 0)
    named n
termination_by structural n => n

/-- Elements up to and with a closer, with commas between them and perhaps one at the end. -/
def items : Nat → String → Reader (List Expr)
  | 0, _ => failure
  | n + 1, closer => do
    if ← Reader.symbol closer then return []
    let e ← starNamed n
    if ← Reader.symbol "," then return e :: (← items n closer)
    Reader.demandSymbol closer
    return [e]
termination_by structural n => n

def yielded : Nat → Reader Expr
  | 0 => failure
  | n + 1 => do
    if ← Reader.word "from" then return .yieldFrom (← expression n)
    if ← Reader.atSymbol [")"] then return .yield none
    return .yield (some (← starExpressions n))
termination_by structural n => n

def starExpressions : Nat → Reader Expr
  | 0 => failure
  | n + 1 => do
    let first ← starExpression n
    if ← Reader.symbol "," then return .tuple (first :: (← moreExpressions n))
    return first
termination_by structural n => n

def starExpression : Nat → Reader Expr
  | 0 => failure
  | n + 1 => do
    if ← Reader.symbol "*" then return .starred (← binary n 0)
    expression n
termination_by structural n => n

def moreExpressions : Nat → Reader (List Expr)
  | 0 => failure
  | n + 1 => do
    match ← get with
    | [] => return []
    | .lineBreak _ :: _ => return []
    | .symbol ")" :: _ => return []
    | _ =>
      let e ← starExpression n
      if ← Reader.symbol "," then return e :: (← moreExpressions n)
      return [e]
termination_by structural n => n

/-- Arguments up to and with the closing parenthesis. Once a keyword has come (`phase` 1) no plain
argument may follow, and once a mapping was unpacked (2) no sequence. -/
def arguments : Nat → Nat → Bool → Reader (List Expr × List Keyword)
  | 0, _, _ => failure
  | n + 1, phase, isFirst => do
    if ← Reader.symbol ")" then return ([], [])
    match ← get with
    | .symbol "*" :: rest =>
      demand (phase < 2)
      set rest
      let e ← expression n
      let (args, keywords) ← moreArguments n phase
      return (.starred e :: args, keywords)
    | .symbol "**" :: rest =>
      set rest
      let e ← expression n
      let (args, keywords) ← moreArguments n 2
      return (args, .mk none e :: keywords)
    | .name k :: .symbol "=" :: rest =>
      set rest
      let e ← expression n
      let (args, keywords) ← moreArguments n (max phase 1)
      return (args, .mk (some k) e :: keywords)
    | _ =>
      demand (phase == 0)
      let e ← named n
      if isFirst && (← Reader.atClause) then
        let cs ← clauses n
        Reader.demandSymbol ")"
        return ([.generator e cs], [])
      let (args, keywords) ← moreArguments n phase
      return (e :: args, keywords)
termination_by structural n => n

def moreArguments : Nat → Nat → Reader (List Expr × List Keyword)
  | 0, _ => failure
  | n + 1, phase => do
    if ← Reader.symbol "," then arguments n phase false
    else
      Reader.demandSymbol ")"
      return ([], [])
termination_by structural n => n

def index : Nat → Reader Expr
  | 0 => failure
  | n + 1 => do
    let first ← indexItem n
    if ← Reader.symbol "," then return .tuple (first :: (← indexItems n))
    Reader.demandSymbol "]"
    return if first.isStarred then .tuple [first] else first
termination_by structural n => n

def indexItems : Nat → Reader (List Expr)
  | 0 => failure
  | n + 1 => do
    if ← Reader.symbol "]" then return []
    let e ← indexItem n
    if ← Reader.symbol "," then return e :: (← indexItems n)
    Reader.demandSymbol "]"
    return [e]
termination_by structural n => n

def indexItem : Nat → Reader Expr
  | 0 => failure
  | n + 1 => do
    if ← Reader.symbol "*" then return .starred (← expression n)
    if ← Reader.symbol ":" then return (← bounds n none)
    match ← get with
    | .name _ :: .symbol ":=" :: _ => named n
    | _ =>
      let e ← expression n
      if ← Reader.symbol ":" then bounds n (some e) else return e
termination_by structural n => n

def bounds : Nat → Option Expr → Reader Expr
  | 0, _ => failure
  | n + 1, lower => do
    let upper ← if ← Reader.atSymbol [":", ",", "]"] then pure none else some <$> expression n
    if ← Reader.symbol ":" then
      let step ← if ← Reader.atSymbol [",", "]"] then pure none else some <$> expression n
      return .slice lower upper step
    return .slice lower upper none
termination_by structural n => n

def clauses : Nat → Reader (List Clause)
  | 0 => failure
  | n + 1 => do
    if ← Reader.atClause then
      let isAsync ← Reader.word "async"
      Reader.demandWord "for"
      let target ← targets n
      Reader.demandWord "in"
      let iter ← disjunction n
      let conditions ← filters n
      return .mk isAsync target iter conditions :: (← clauses n)
    return []
termination_by structural n => n

def filters : Nat → Reader (List Expr)
  | 0 => failure
  | n + 1 => do
    if ← Reader.word "if" then
      let e ← disjunction n
      return e :: (← filters n)
    return []
termination_by structural n => n

def targets : Nat → Reader Expr
  | 0 => failure
  | n + 1 => do
    let first ← target n
    if ← Reader.symbol "," then return .tuple (first :: (← moreTargets n))
    return first
termination_by structural n => n

def moreTargets : Nat → Reader (List Expr)
  | 0 => failure
  | n + 1 => do
    match ← get with
    | .word "in" :: _ => return []
    | _ =>
      let e ← target n
      if ← Reader.symbol "," then return e :: (← moreTargets n)
      return [e]
termination_by structural n => n

def target : Nat → Reader Expr
  | 0 => failure
  | n + 1 => do
    let isStarred ← Reader.symbol "*"
    let e ← primary n
    demand e.isTarget
    return if isStarred then .starred e else e
termination_by structural n => n

def params : Nat → Reader Params
  | 0 => failure
  | n + 1 => do
    let list ← paramItems n
    match ParamItem.params? list with
    | some ps => return ps
    | none => failure
termination_by structural n => n

def paramItems : Nat → Reader (List ParamItem)
  | 0 => failure
  | n + 1 => do
    if ← Reader.atSymbol [":", ")"] then return []
    let item ← paramItem n
    if ← Reader.symbol "," then return item :: (← paramItems n)
    return [item]
termination_by structural n => n

def paramItem : Nat → Reader ParamItem
  | 0 => failure
  | n + 1 => do
    if ← Reader.symbol "/" then return .slash
    if ← Reader.symbol "**" then return .others (← Reader.name)
    if ← Reader.symbol "*" then
      if ← Reader.atSymbol [","] then return .star none
      return .star (some (← Reader.name))
    let x ← Reader.name
    if ← Reader.symbol "=" then return .plain (.mk x (some (← expression n)))
    return .plain (.mk x none)
termination_by structural n => n

def literal : Nat → List StringLexeme → Reader Expr
  | 0, _ => failure
  | n + 1, pieces => do
    if pieces.all StringLexeme.isBytes then
      match pieces.mapM Escape.ofBytesLiteral? with
      | some bs => return .constant (.bytes bs.flatten)
      | none => failure
    else if pieces.any StringLexeme.isBytes then failure
    else if pieces.any StringLexeme.isTemplate then
      return .template (Part.merge (← templates n pieces))
    else
      match pieces.mapM Escape.ofTextLiteral? with
      | some ts =>
        let marked := (pieces.head?.bind fun s => s.mark.head?) == some 'u'
        return .constant (.str ts.flatten marked)
      | none => failure
termination_by structural n => n

def templates : Nat → List StringLexeme → Reader (List Part)
  | 0, _ => failure
  | _ + 1, [] => return []
  | n + 1, s :: rest => do
    if s.isTemplate then
      let (parts, left) ← liftM (template n s.isRaw 0 s.body)
      demand left.isEmpty
      return parts ++ (← templates n rest)
    else
      match Escape.ofTextLiteral? s with
      | some t => return .text t :: (← templates n rest)
      | none => failure
termination_by structural n => n

/-- The parts of a template up to its end or, inside a format, up to the closing brace. -/
def template : Nat → Bool → Nat → List Char → Option (List Part × List Char)
  | 0, _, _, _ => none
  | n + 1, raw, depth, cs => do
    let (k, ending) ← Field.run? raw (depth != 0) cs
    let run := cs.take k
    let t ← if raw then some (run.map .char) else Escape.text? run
    let here := Part.text t
    let rest := cs.drop k
    match ending with
    | .doubled =>
      let (parts, left) ← template n raw depth (rest.drop 1)
      return (here :: parts, left)
    | .stop =>
      match rest with
      | '\x7b' :: body =>
        let (fields, after) ← field n raw depth body
        let (parts, left) ← template n raw depth after
        return (here :: fields ++ parts, left)
      | _ => return ([here], rest)
termination_by structural n => n

/-- A field of a template, from behind its opening brace to behind its closing one. -/
def field : Nat → Bool → Nat → List Char → Option (List Part × List Char)
  | 0, _, _, _ => none
  | n + 1, raw, depth, cs => do
    demand (depth < 2)
    let k ← Field.length? none [] cs
    let text := cs.take k
    demand !(text.all fun c => c == '\n' || Lexer.isGap c)
    let lexemes ← Lexeme.ofText? ('(' :: text ++ [')'])
    let (e, _) ← (starExpressions n).run lexemes
    let tail ← FieldTail.ofChars? text (cs.drop k)
    let label := match tail.label with
      | some t => [Part.text (t.map .char)]
      | none => []
    match tail.rest with
    | '\x7d' :: after =>
      let conversion := if tail.label.isSome then tail.conversion.or (some .repr)
        else tail.conversion
      return (label ++ [.field e conversion none], after)
    | ':' :: format =>
      let (parts, left) ← template n raw (depth + 1) format
      match left with
      | '\x7d' :: after =>
        return (label ++ [.field e tail.conversion (some (Part.merge parts))], after)
      | _ => none
    | _ => none
termination_by structural n => n

end

def whole (n : Nat) : Reader Expr := do
  let e ← starExpressions n
  let rest ← get
  demand (!e.isStarred && rest.all Lexeme.isLineBreak)
  return e

def budget (length : Nat) : Nat :=
  32 * (length + 8)

end Grammar

/-- Why a text cannot be read at all: half of a pair has no encoding, and a null character ends what
is read. -/
inductive Unreadable where
  | half
  | nullCharacter
deriving DecidableEq, Repr, Inhabited

namespace Unreadable

def marks : Unreadable → Char → Bool
  | half, c => Text.isHalf c
  | nullCharacter, c => c == '\x00'

/-- A text is encoded first. -/
def find? (source : List Char) : Option Unreadable :=
  [half, nullCharacter].find? fun u => source.any u.marks

end Unreadable

inductive ExprFailure where
  | invalid
  | unreadable (cause : Unreadable)
deriving DecidableEq, Repr

/-- Reads an expression as it stands between parentheses, where it may run over lines. -/
def Expr.parse (source : List Char) : Except ExprFailure Expr :=
  match Unreadable.find? source with
  | some u => .error (.unreadable u)
  | none =>
    let text := '(' :: '\n' :: source ++ ['\n', ')']
    match Lexeme.ofText? text with
    | none => .error .invalid
    | some lexemes =>
      match (Grammar.whole (Grammar.budget text.length)).run lexemes with
      | some (e, _) => .ok e
      | none => .error .invalid

end AttrBinder
