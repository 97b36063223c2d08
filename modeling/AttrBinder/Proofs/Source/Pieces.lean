import AttrBinder.Proofs.Source.Kinds
import Mathlib.Data.List.Find
import Mathlib.Data.List.TakeWhile

/-!
The pieces that the rules of the lexical grammar take from a text: what they are made of, and that
each takes something.
-/

namespace AttrBinder

namespace Lexer

open Text

section Runs

variable {p : Char → Bool} {b : Char} {s : List Char} (r : List Char)

theorem runLength_barrier (stop : p b = false) : runLength p (s ++ b :: r) = runLength p s := by
  unfold runLength
  induction s with
  | nil => simp [stop]
  | cons c s ih =>
    simp only [List.cons_append, List.takeWhile_cons]
    split
    · simpa using ih
    · rfl

def Heads (P : Char → Bool) (n : Nat) (cs : List Char) : Prop :=
  n ≤ cs.length ∧ ∀ c ∈ cs.take n, P c = true

namespace Heads

variable {P : Char → Bool} {m n : Nat} {c : Char} {cs : List Char}

theorem zero : Heads P 0 cs := ⟨Nat.zero_le _, by simp⟩

theorem cons (here : P c = true) (more : Heads P n cs) : Heads P (n + 1) (c :: cs) :=
  ⟨Nat.succ_le_succ more.1, by simpa [here] using more.2⟩

theorem append (first : Heads P m cs) (second : Heads P n (cs.drop m)) : Heads P (m + n) cs := by
  obtain ⟨bound, here⟩ := second
  have enough := first.1
  rw [List.length_drop] at bound
  refine ⟨by omega, fun c mem => ?_⟩
  rw [List.take_add, List.mem_append] at mem
  exact mem.elim (first.2 c) (here c)

theorem ite (z : Prop) [Decidable z] (more : Heads P n cs) : Heads P (if z then 0 else n) cs := by
  split
  · exact zero
  · exact more

end Heads

theorem lt_of_isAt (found : isAt p s i = true) : i < s.length := by
  refine Nat.lt_of_not_le fun far => ?_
  rw [isAt, List.getElem?_eq_none far] at found
  cases found

theorem heads_of_isAt (more : Heads P i s)
    (found : isAt p s i = true) (fits : ∀ c, p c = true → P c = true) : Heads P (i + 1) s := by
  have inside := lt_of_isAt found
  refine more.append ⟨by rw [List.length_drop]; omega, fun c mem => fits c ?_⟩
  rw [isAt, List.getElem?_eq_getElem inside] at found
  rw [List.drop_eq_getElem_cons inside] at mem
  simp only [List.take_succ_cons, List.take_zero, List.mem_singleton] at mem
  rw [mem]
  exact found

theorem groupedTail_heads (fits : ∀ c, p c = true → P c = true)
    (line : P '_' = true) (cs : List Char) : Heads P (groupedTail p cs) cs := by
  fun_induction groupedTail p cs with
  | case1 | case4 | case5 | case6 => exact .zero
  | case2 c rest digit ih =>
    rw [Nat.add_comm]
    exact .cons (fits c digit) ih
  | case3 c other under d more digit ih =>
    rw [Nat.add_comm, beq_iff_eq.mp under]
    exact .cons line (.cons (fits d digit) ih)

theorem grouped_heads (fits : ∀ c, p c = true → P c = true)
    (line : P '_' = true) (cs : List Char) : Heads P (grouped p cs) cs := by
  unfold grouped
  split
  · exact groupedTail_heads fits line cs
  · exact .zero

end Runs

section Numbers

variable {b : Char} {s : List Char} (r : List Char)

def isNumeric (c : Char) : Bool :=
  isAsciiWord c || c == '.' || c == '+' || c == '-'

theorem isNumeric_decimal (digit : isDecimal c = true) : isNumeric c = true := by
  simp only [isDecimal] at digit
  simp [isNumeric, isAsciiWord, Char.isAlphanum, digit]

theorem decimals_heads (cs : List Char) : Heads isNumeric (grouped isDecimal cs) cs :=
  grouped_heads (fun _ => isNumeric_decimal) (by decide) cs

theorem exponentLength_heads (cs : List Char) : Heads isNumeric (exponentLength cs) cs := by
  unfold exponentLength
  split
  · rename_i e rest
    split
    · rename_i mark
      have head : isNumeric e = true := by
        simp only [Bool.or_eq_true, beq_iff_eq] at mark
        rcases mark with rfl | rfl <;> rfl
      dsimp only
      split
      · rename_i sign
        have signed : Heads isNumeric 1 rest := heads_of_isAt .zero sign fun c h => by
          simp only [Bool.or_eq_true, beq_iff_eq] at h
          rcases h with rfl | rfl <;> rfl
        have both := Heads.cons head (signed.append (decimals_heads (rest.drop 1)))
        rw [show 1 + grouped isDecimal (rest.drop 1) + 1 =
          1 + 1 + grouped isDecimal (rest.drop 1) by omega] at both
        exact .ite _ both
      · have both := Heads.cons head (decimals_heads rest)
        rw [show grouped isDecimal rest + 1 = 1 + 0 + grouped isDecimal rest by omega] at both
        exact .ite _ both
    · exact .zero
  · exact .zero

theorem floatLength_heads (cs : List Char) : Heads isNumeric (floatLength cs) cs := by
  have whole := decimals_heads cs
  unfold floatLength
  dsimp only
  split
  · rename_i dot
    have point := heads_of_isAt whole dot fun c h => by rw [beq_iff_eq.mp h]; rfl
    split
    · exact .zero
    · exact (point.append (decimals_heads _)).append (exponentLength_heads _)
  · split
    · exact .zero
    · split
      · exact .zero
      · exact whole.append (exponentLength_heads _)

theorem basedLength_heads (cs : List Char) : Heads isNumeric (basedLength cs) cs := by
  unfold basedLength
  split
  · rename_i mark rest
    have hex : ∀ c, isHex c = true → isNumeric c = true := by
      intro c digit
      simp only [isHex, Bool.or_eq_true, Bool.and_eq_true, decide_eq_true_eq, Char.le_def] at digit
      simp only [isNumeric, isAsciiWord, Char.isAlphanum]
      delta Char.isAlpha Char.isUpper Char.isLower
      grind
    have binary : ∀ c, isBinary c = true → isNumeric c = true := by
      intro c digit
      simp only [isBinary, Bool.or_eq_true, beq_iff_eq] at digit
      rcases digit with rfl | rfl <;> rfl
    have octal : ∀ c, isOctal c = true → isNumeric c = true := by
      intro c digit
      simp only [isOctal, Bool.and_eq_true, decide_eq_true_eq, Char.le_def] at digit
      simp only [isNumeric, isAsciiWord, Char.isAlphanum, Char.isDigit]
      grind
    have digits {p : Char → Bool} (fits : ∀ c, p c = true → isNumeric c = true) {x y : Char}
        (marks : isNumeric x = true ∧ isNumeric y = true) (head : (mark == x || mark == y) = true) :
        Heads isNumeric (2 + groupedTail p rest) ('0' :: mark :: rest) := by
      have here : isNumeric mark = true := by
        simp only [Bool.or_eq_true, beq_iff_eq] at head
        rcases head with rfl | rfl
        · exact marks.1
        · exact marks.2
      rw [Nat.add_comm]
      exact .cons rfl (.cons here (groupedTail_heads fits (by decide) rest))
    dsimp only
    split
    · exact .ite _ (digits hex (x := 'x') (y := 'X') (by decide) (by assumption))
    · split
      · exact .ite _ (digits binary (x := 'b') (y := 'B') (by decide) (by assumption))
      · split
        · exact .ite _ (digits octal (x := 'o') (y := 'O') (by decide) (by assumption))
        · exact .zero
  · exact .zero

theorem wholeLength_heads (cs : List Char) : Heads isNumeric (wholeLength cs) cs := by
  unfold wholeLength
  split
  · exact .zero
  · split
    · exact grouped_heads (fun c h => by rw [beq_iff_eq.mp h]; rfl) (by decide) _
    · exact decimals_heads _

theorem numberLength_heads (cs : List Char) : Heads isNumeric (numberLength cs) cs := by
  have unit : ∀ c, (c == 'j' || c == 'J') = true → isNumeric c = true := by
    intro c h
    simp only [Bool.or_eq_true, beq_iff_eq] at h
    rcases h with rfl | rfl <;> rfl
  unfold numberLength
  dsimp only
  split
  · rename_i imaginary
    exact heads_of_isAt (decimals_heads cs) (Bool.and_eq_true_iff.mp imaginary).2 unit
  · split
    · split
      · rename_i imaginary
        exact heads_of_isAt (floatLength_heads cs) imaginary unit
      · exact floatLength_heads cs
    · split
      · exact basedLength_heads cs
      · exact wholeLength_heads cs

end Numbers

section Signs

variable {b : Char} {s : List Char}

def isMarkChar (c : Char) : Bool :=
  c.toLower == 'b' || c.toLower == 'r' || c.toLower == 'u' || c.toLower == 'f'

theorem isMarkChar_of_isStringMark (mark : isStringMark cs = true)
    (mem : c ∈ cs) : isMarkChar c = true := by
  have lower : c.toLower ∈ cs.map Char.toLower := List.mem_map_of_mem mem
  unfold isStringMark at mark
  unfold isMarkChar
  split at mark
  · rename_i eq
    rw [eq] at lower
    cases lower
  · rename_i a eq
    rw [eq, List.mem_singleton] at lower
    rw [lower]
    exact mark
  · rename_i a b eq
    rw [eq] at lower
    simp only [List.mem_cons, List.not_mem_nil, or_false] at lower
    simp only [Bool.or_eq_true, Bool.and_eq_true, beq_iff_eq] at mark ⊢
    rcases lower with rfl | rfl <;> grind
  · cases mark

theorem isQuote_of_isMarkChar (mark : isMarkChar c = true) : isQuote c = false := by
  rw [Bool.eq_false_iff]
  intro quote
  simp only [isQuote, Bool.or_eq_true, beq_iff_eq] at quote
  rcases quote with rfl | rfl <;> exact absurd mark (by decide)

theorem stringMark?_eq_some :
    stringMark? cs = some m ↔ isAt isQuote cs m = true ∧ isStringMark (cs.take m) = true := by
  constructor
  · intro found
    unfold stringMark? at found
    dsimp only at found
    split at found
    · rename_i both
      obtain rfl := Option.some.inj found
      exact Bool.and_eq_true_iff.mp both
    · cases found
  · rintro ⟨quote, mark⟩
    have inside := lt_of_isAt quote
    have short : m ≤ 2 := by
      have size : ((cs.take m).map Char.toLower).length ≤ 2 := by
        unfold isStringMark at mark
        split at mark
        · rename_i eq; simp [eq]
        · rename_i eq; simp [eq]
        · rename_i eq; simp [eq]
        · cases mark
      rw [List.length_map, List.length_take] at size
      omega
    have run : runLength (fun c => !isQuote c) (cs.take 3) = m := by
      have split : cs.take 3 = cs.take m ++ (cs.drop m).take (3 - m) := by
        rw [← List.take_add]; congr 1; omega
      rw [isAt, List.getElem?_eq_getElem inside] at quote
      rw [split, List.drop_eq_getElem_cons inside, show 3 - m = (2 - m) + 1 by omega,
        List.take_succ_cons, runLength_barrier _ (by simpa using quote), runLength,
        List.takeWhile_eq_self_iff.mpr, List.length_take]
      · omega
      · intro c mem
        simp [isQuote_of_isMarkChar (isMarkChar_of_isStringMark mark mem)]
    unfold stringMark?
    simp [run, quote, mark]

end Signs

/-! ## Pieces -/

def isPlain (c : Char) : Bool :=
  !isQuote c && c != '#'

def isNote (c : Char) : Bool :=
  c != '\r' && c != '\n'

theorem lineLength_cons (cs : List Char) (inside : c ≠ '\n') :
    lineLength (c :: cs) = lineLength cs + 1 := by
  unfold lineLength runLength
  simp only [List.takeWhile_cons, bne_iff_ne, ne_eq, inside, not_false_eq_true, if_true,
    List.length_cons]
  split <;> split <;> omega

theorem lineLength_break (cs : List Char) : lineLength ('\n' :: cs) = 1 := by
  simp [lineLength, runLength]

/-- How many characters a piece takes; where no rule accepts anything it is one. -/
def Piece.size : Piece → Nat
  | joint n | comment n | lineBreak n | token _ n | longString n | abandoned n => n
  | unfinished => 0
  | nothing => 1

/-- The length of a backslash with a line break behind it, zero if there is none. -/
def jointLength : List Char → Nat
  | '\\' :: cs => if breakLength cs = 0 then 0 else breakLength cs + 1
  | _ => 0

def quotedPiece (strict : Bool) (m : Nat) (cs : List Char) : Piece :=
  if isTriple (cs.getD m '\'') (cs.drop m) then triplePiece strict m cs
  else
    match stringPiece m cs with
    | .nothing => wordPiece cs
    | p => p

def barePiece (cs : List Char) : Piece :=
  match numberLength cs, breakLength cs, operatorLength cs with
  | 0, 0, 0 => wordPiece cs
  | 0, 0, n => .token .operator n
  | 0, n, _ => .lineBreak n
  | n, _, _ => .token .number n

theorem piece_eq (strict : Bool) (cs : List Char) :
    piece strict cs =
      if jointLength cs ≠ 0 then .joint (jointLength cs)
      else if cs.head? = some '#' then .comment (1 + runLength isNote cs.tail)
      else
        match stringMark? cs with
        | some m => quotedPiece strict m cs
        | none => barePiece cs := by
  unfold piece
  split
  · rfl
  · rfl
  · rfl
  · rename_i feed crlf hash
    have joint : jointLength cs = 0 := by
      unfold jointLength
      split
      · rename_i cs
        have none : breakLength cs = 0 := by
          unfold breakLength
          split
          · exact absurd rfl (feed _)
          · exact absurd rfl (crlf _)
          · rfl
        simp [none]
      · rfl
    have head : cs.head? ≠ some '#' := by
      cases cs with
      | nil => simp
      | cons c cs =>
        rintro ⟨⟩
        exact hash _ rfl
    simp only [joint, ne_eq, not_true_eq_false, if_false, head]
    rfl

theorem isPlain_of_class {p : Char → Bool}
    (without : p '\'' = false ∧ p '"' = false ∧ p '#' = false) {c : Char} (inside : p c = true) :
    isPlain c = true := by
  by_contra special
  simp only [isPlain, isQuote, Bool.and_eq_true, Bool.not_eq_true', Bool.or_eq_false_iff,
    beq_eq_false_iff_ne, bne_iff_ne, ne_eq, not_and_or, not_not] at special
  obtain ⟨single, double, hash⟩ := without
  rcases special with (rfl | rfl) | rfl <;> simp_all

theorem runLength_heads (p : Char → Bool) (cs : List Char) : Heads p (runLength p cs) cs := by
  unfold runLength
  refine ⟨(List.takeWhile_sublist p).length_le, fun c mem => ?_⟩
  rw [← List.prefix_iff_eq_take.mp (List.takeWhile_prefix p)] at mem
  exact List.mem_takeWhile_imp mem

theorem stringMark?_split {s : List Char} (found : stringMark? s = some m) :
    ∃ mark q body, s = mark ++ q :: body ∧ mark.length = m ∧ isQuote q = true ∧
      ∀ c ∈ mark, isPlain c = true := by
  obtain ⟨quote, mark⟩ := stringMark?_eq_some.mp found
  have inside := lt_of_isAt quote
  rw [isAt, List.getElem?_eq_getElem inside] at quote
  refine ⟨s.take m, _, s.drop (m + 1), ?_, ?_, quote, fun c mem =>
    isPlain_of_class (p := isMarkChar) (by decide) (isMarkChar_of_isStringMark mark mem)⟩
  · rw [← List.drop_eq_getElem_cons inside, List.take_append_drop]
  · rw [List.length_take]
    omega

def Piece.kind? : Piece → Option TokenKind
  | token kind _ => some kind
  | longString _ => some .string
  | abandoned _ | nothing => some .stray
  | _ => none

def rise (kind : TokenKind) (text : List Char) : Int :=
  if kind == .operator then levelChange text else 0

theorem wordPiece_cases (cs : List Char) : wordPiece cs = .nothing ∨
    ∃ kind n, wordPiece cs = .token kind (n + 1) := by
  unfold wordPiece
  split
  · exact .inl rfl
  · exact .inr ⟨_, _, rfl⟩

theorem quotedPiece_cases (strict : Bool) (m : Nat) (cs : List Char) :
    quotedPiece strict m cs = .unfinished ∨
      0 < (quotedPiece strict m cs).size ∧ (quotedPiece strict m cs).kind? ≠ none := by
  have ended (e : Ending) {k : Nat} (pos : 0 < k) : (e.shift k).piece = .unfinished ∨
      0 < (e.shift k).piece.size ∧ (e.shift k).piece.kind? ≠ none := by
    cases e with
    | closed n => exact .inr ⟨Nat.add_pos_right n pos, by simp [Ending.shift, Ending.piece, Piece.kind?]⟩
    | abandoned n =>
      exact .inr ⟨Nat.add_pos_right n pos, by simp [Ending.shift, Ending.piece, Piece.kind?]⟩
    | missing => exact .inl rfl
  unfold quotedPiece
  split
  · unfold triplePiece
    dsimp only
    split
    · exact .inr ⟨by simp only [Piece.size]; omega, by simp [Piece.kind?]⟩
    · exact ended _ (by omega)
  · split
    · rcases wordPiece_cases cs with eq | ⟨kind, n, eq⟩ <;> rw [eq]
      · exact .inr ⟨Nat.one_pos, by simp [Piece.kind?]⟩
      · exact .inr ⟨Nat.succ_pos n, by simp [Piece.kind?]⟩
    · unfold stringPiece
      dsimp only
      split
      · exact .inr ⟨by simp only [Piece.size]; omega, by simp [Piece.kind?]⟩
      · exact ended _ (by omega)
      · exact .inr ⟨Nat.one_pos, by simp [Piece.kind?]⟩

theorem barePiece_cases (cs : List Char) :
    (breakLength cs ≠ 0 ∧ barePiece cs = .lineBreak (breakLength cs)) ∨
      0 < (barePiece cs).size ∧ (barePiece cs).kind? ≠ none := by
  unfold barePiece
  split
  · right
    rcases wordPiece_cases cs with eq | ⟨kind, n, eq⟩ <;> rw [eq]
    · exact ⟨Nat.one_pos, by simp [Piece.kind?]⟩
    · exact ⟨Nat.succ_pos n, by simp [Piece.kind?]⟩
  · exact .inr ⟨Nat.pos_of_ne_zero (by assumption), by simp [Piece.kind?]⟩
  · exact .inl ⟨by assumption, rfl⟩
  · exact .inr ⟨Nat.pos_of_ne_zero (by assumption), by simp [Piece.kind?]⟩

theorem piece_pos (strict : Bool) (cs : List Char) :
    piece strict cs = .unfinished ∨ 0 < (piece strict cs).size := by
  rw [piece_eq]
  split
  · exact .inr (Nat.pos_of_ne_zero ‹_›)
  · split
    · exact .inr (by simp only [Piece.size]; omega)
    · split
      · exact (quotedPiece_cases _ _ _).imp_right And.left
      · rcases barePiece_cases cs with ⟨pos, eq⟩ | ⟨pos, -⟩
        · exact .inr (by rw [eq]; exact Nat.pos_of_ne_zero pos)
        · exact .inr pos

theorem Mark.offset_past (m : Mark) (cs : List Char) :
    (m.past cs).offset = m.offset + cs.length := by
  unfold Mark.past
  induction cs generalizing m with
  | nil => rfl
  | cons c cs ih =>
    rw [List.foldl_cons, ih, List.length_cons]
    unfold Mark.step
    split <;> simp only <;> omega

theorem runLength_drop (p : Char → Bool) (cs : List Char) :
    runLength p (cs.drop (runLength p cs)) = 0 := by
  unfold runLength
  induction cs with
  | nil => rfl
  | cons c cs ih =>
    cases here : p c with
    | false => simp [here]
    | true => simpa [here] using ih

end Lexer

end AttrBinder
