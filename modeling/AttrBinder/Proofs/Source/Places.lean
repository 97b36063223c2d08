import AttrBinder.Proofs.Source.Pieces

/-!
Tokens stand one behind the other: each ends before the next one begins, in the snippet and, since a
template shifts the first row as a whole and the other rows not at all, in the template too.
-/

namespace AttrBinder

namespace Mark

def Before (a b : Mark) : Prop :=
  a.row < b.row ∨ a.row = b.row ∧ a.column < b.column

def UpTo (a b : Mark) : Prop :=
  a.row < b.row ∨ a.row = b.row ∧ a.column ≤ b.column

theorem UpTo.refl (a : Mark) : a.UpTo a :=
  .inr ⟨rfl, Nat.le_refl _⟩

theorem UpTo.trans {a b c : Mark} (first : a.UpTo b) (second : b.UpTo c) : a.UpTo c := by
  unfold UpTo at *
  omega

theorem UpTo.before {a b c : Mark} (first : a.UpTo b) (second : b.Before c) : a.Before c := by
  unfold UpTo Before at *
  omega

theorem Before.upTo {a b : Mark} (before : a.Before b) : a.UpTo b := by
  unfold UpTo Before at *
  omega

theorem before_step (m : Mark) (c : Char) : m.Before (m.step c) := by
  unfold step Before
  split
  · exact .inl (Nat.lt_succ_self _)
  · exact .inr ⟨rfl, Nat.lt_succ_self _⟩

theorem upTo_past (m : Mark) (cs : List Char) : m.UpTo (m.past cs) := by
  induction cs generalizing m with
  | nil => exact .refl m
  | cons c cs ih => exact (m.before_step c).upTo.trans (ih (m.step c))

theorem before_past (m : Mark) (ne : cs ≠ []) : m.Before (m.past cs) := by
  obtain ⟨c, cs, rfl⟩ := List.exists_cons_of_ne_nil ne
  have later := upTo_past (m.step c) cs
  have here := m.before_step c
  unfold UpTo Before at *
  simp only [past, List.foldl_cons] at later ⊢
  omega

end Mark

namespace Lexer

/-- Tokens from a mark on, each behind the one before it. -/
structure Placed (m : Mark) (ls : List Located) : Prop where
  inside : ∀ x ∈ ls, m.UpTo x.start ∧ x.start.Before x.stop
  apart : ls.Pairwise fun x y => x.stop.UpTo y.start

theorem Placed.nil (m : Mark) : Placed m [] :=
  ⟨by simp, .nil⟩

theorem Placed.from {m m' : Mark} (placed : Placed m' ls) (start : m.UpTo m') : Placed m ls :=
  ⟨fun x mem => ⟨start.trans (placed.inside x mem).1, (placed.inside x mem).2⟩, placed.apart⟩

theorem Placed.cons {m after : Mark} {x : Located} {ls : List Located} (start : m.UpTo x.start)
    (ends : x.start.Before x.stop) (next : x.stop.UpTo after) (later : Placed after ls) :
    Placed m (x :: ls) := by
  refine ⟨List.forall_mem_cons.mpr ⟨⟨start, ends⟩, ?_⟩, List.pairwise_cons.mpr ⟨?_, later.apart⟩⟩
  · intro y mem
    exact ⟨(start.before ends).upTo.trans (next.trans (later.inside y mem).1), (later.inside y mem).2⟩
  · exact fun y mem => next.trans (later.inside y mem).1

theorem Placed.rows (placed : Placed m ls) :
    ∀ x ∈ ls, m.row ≤ x.start.row ∧ m.row ≤ x.stop.row := by
  intro x mem
  have inside := placed.inside x mem
  unfold Mark.UpTo Mark.Before at inside
  omega

/-- The end of an abandoned string stands behind its last character, also if that is a line break,
behind which the next token is looked for. -/
theorem abandoned_stop (start : Mark) (text : List Char) (ne : text ≠ []) (offset : Nat) :
    start.Before ⟨(start.past text.dropLast).row, (start.past text.dropLast).column + 1, offset⟩ ∧
    Mark.UpTo ⟨(start.past text.dropLast).row, (start.past text.dropLast).column + 1, offset⟩
      (start.past text) := by
  have front := start.upTo_past text.dropLast
  have whole : start.past text = (start.past text.dropLast).step (text.getLast ne) := by
    conv_lhs => rw [← List.dropLast_concat_getLast ne]
    simp only [Mark.past, List.foldl_append, List.foldl_cons, List.foldl_nil]
  rw [whole]
  unfold Mark.Before Mark.UpTo at *
  dsimp only
  refine ⟨by omega, ?_⟩
  unfold Mark.step
  split
  · exact .inl (Nat.lt_succ_self _)
  · exact .inr ⟨rfl, Nat.le_refl _⟩

theorem take_ne_nil (found : piece strict cs = p)
    (ended : p ≠ .unfinished) (some : p ≠ .nothing) : cs.take p.size ≠ [] := by
  intro none
  rcases List.take_eq_nil_iff.mp none with zero | rfl
  · rcases piece_pos strict cs with open_ | pos
    · exact ended (found ▸ open_)
    · rw [found, zero] at pos
      exact Nat.lt_irrefl 0 pos
  · exact some (found ▸ rfl)

def Tight (cs : List Char) : Prop :=
  ∀ c, cs.getLast? = some c → isGap c = false

theorem Tight.drop (tight : Tight (c :: cs)) (n : Nat) : Tight (cs.drop n) := by
  intro d last
  refine tight d ?_
  rw [← List.drop_succ_cons (a := c), List.getLast?_drop] at last
  split at last
  · cases last
  · exact last

theorem Tight.drop_gap (tight : Tight (c :: cs)) :
    (c :: cs).drop (runLength isGap (c :: cs)) ≠ [] := by
  intro none
  have all := List.takeWhile_eq_self_iff.mp
    ((List.takeWhile_prefix isGap).eq_of_length_le (List.drop_eq_nil_iff.mp none))
  have last := tight _ (List.getLast?_eq_some_getLast (List.cons_ne_nil c cs))
  exact absurd (all _ (List.getLast_mem (List.cons_ne_nil c cs))) (by simp [last])

theorem scan_placed {st : State} {m : Mark} {cs : List Char} {lexemes : List Located}
    (tight : Tight cs) (scanned : scan st m cs = .ok lexemes) : Placed m lexemes := by
  fun_induction scan st m cs generalizing lexemes with
  | case1 => cases scanned; exact .nil _
  | case2 | case4 | case11 => cases scanned
  | case3 =>
    rename_i ih
    exact (ih (tight.drop _) scanned).from (Mark.upTo_past _ _)
  | case5 | case6 | case7 =>
    rename_i ih
    exact (ih (tight.drop _) scanned).from ((Mark.upTo_past _ _).trans (Mark.upTo_past _ _))
  | case8 =>
    rename_i found _ _ _ ih
    obtain ⟨ls, later, rfl⟩ := exists_of_cons_ok scanned
    exact .cons (Mark.upTo_past _ _) (Mark.before_past _ (take_ne_nil found (by simp) (by simp)))
      (.refl _) (ih (tight.drop _) later)
  | case9 =>
    rename_i found _ _ ih
    obtain ⟨ls, later, rfl⟩ := exists_of_cons_ok scanned
    exact .cons (Mark.upTo_past _ _) (Mark.before_past _ (take_ne_nil found (by simp) (by simp)))
      (.refl _) (ih (tight.drop _) later)
  | case10 =>
    rename_i start _ found text _ after _ _ ih
    obtain ⟨ls, later, rfl⟩ := exists_of_cons_ok scanned
    have ends := abandoned_stop start text (take_ne_nil found (by simp) (by simp)) after.offset
    exact .cons (Mark.upTo_past _ _) ends.1 ends.2 (ih (tight.drop _) later)
  | case12 =>
    -- The token is the first character, or the first one behind the indentation.
    rename_i lead _ _ _ ih
    obtain ⟨ls, later, rfl⟩ := exists_of_cons_ok scanned
    refine .cons (Mark.upTo_past _ _) (Mark.before_past _ ?_) (.refl _) (ih (tight.drop _) later)
    intro none
    have empty := (List.take_eq_nil_iff.mp none).resolve_left Nat.one_ne_zero
    dsimp only [lead] at empty
    split at empty
    · exact tight.drop_gap empty
    · exact List.cons_ne_nil _ _ empty

end Lexer

theorem Text.tight_trim (cs : List Char) : Lexer.Tight (Text.trim cs) := by
  intro c last
  rw [Text.trim, Text.trimEnd, List.getLast?_reverse] at last
  have stop := List.head?_dropWhile_not Text.isBlank (Text.trimStart cs).reverse
  rw [last] at stop
  refine Bool.eq_false_iff.mpr fun gap => ?_
  simp only [Lexer.isGap, Bool.or_eq_true, beq_iff_eq] at gap
  rcases gap with (rfl | rfl) | rfl <;> exact absurd stop (by decide)

def Span.Before (a b : Span) : Prop :=
  a.line < b.line ∨ a.line = b.line ∧ a.column < b.column

theorem Origin.span_before (o : Origin) {a b : Mark} (before : a.Before b) (a' b' : Mark) :
    (o.span a a').Before (o.span b b') := by
  unfold Mark.Before at before
  simp only [Span.Before, Origin.span, Origin.lineOf, Origin.columnOf, beq_iff_eq]
  split <;> split <;> omega

theorem TokenList.exists_placed {source : String} {origin : Origin} {tokens : TokenList}
    (cut : ofSource source origin = .ok tokens) :
    ∃ lexemes, Lexer.scan {} {} (Text.trim source.toList) = .ok lexemes ∧
      Lexer.Placed {} lexemes ∧
      tokens.tokens.map Token.span = lexemes.map fun x =>
        (origin.past (source.toList.takeWhile Text.isBlank)).span x.start x.stop := by
  unfold ofSource at cut
  dsimp only at cut
  split at cut
  · cases cut
  · next lexemes scanned =>
      cases cut
      exact ⟨lexemes, scanned, Lexer.scan_placed (Text.tight_trim _) scanned, by simp⟩

theorem TokenList.pairwise_before {source : String} {origin : Origin} {tokens : TokenList}
    (cut : ofSource source origin = .ok tokens) :
    tokens.tokens.Pairwise fun t u => t.span.Before u.span := by
  obtain ⟨lexemes, -, placed, spans⟩ := exists_placed cut
  rw [← List.pairwise_map (f := Token.span) (R := Span.Before), spans, List.pairwise_map]
  refine placed.apart.imp_of_mem fun {x y} memX _ apart => Origin.span_before _ ?_ _ _
  have ends := (placed.inside x memX).2
  unfold Mark.Before Mark.UpTo at *
  omega

end AttrBinder
