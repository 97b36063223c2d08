import AttrBinder.Source.Lexer

/-!
The kinds of the tokens that a text is cut into: none of them stands for the end.
-/

namespace AttrBinder

theorem Text.mem_of_mem_trim (mem : ch ∈ Text.trim cs) : ch ∈ cs := by
  have inner : ch ∈ (Text.trimStart cs).reverse :=
    (List.dropWhile_sublist _).mem (List.mem_reverse.mp mem)
  exact (List.dropWhile_sublist _).mem (List.mem_reverse.mp inner)

namespace Lexer

theorem wordPiece_kind (found : wordPiece cs = .token kind n) : kind ≠ .finish := by
  unfold wordPiece at found
  split at found
  · cases found
  · injection found with eq
    rw [← eq]
    split <;> decide

theorem Ending.piece_ne_token (e : Ending) (kind : TokenKind) (n : Nat) :
    e.piece ≠ .token kind n := by
  cases e <;> simp [Ending.piece]

theorem stringPiece_kind (found : stringPiece m cs = .token kind n) : kind ≠ .finish := by
  unfold stringPiece at found
  dsimp only at found
  split at found
  · injection found with eq
    rw [← eq]
    decide
  · exact absurd found (Ending.piece_ne_token _ _ _)
  · cases found

theorem triplePiece_kind (found : triplePiece strict m cs = .token kind n) : kind ≠ .finish := by
  unfold triplePiece at found
  dsimp only at found
  split at found
  · injection found with eq
    rw [← eq]
    decide
  · exact absurd found (Ending.piece_ne_token _ _ _)

theorem piece_kind {strict : Bool} {cs : List Char} {kind : TokenKind} {n : Nat}
    (found : piece strict cs = .token kind n) : kind ≠ .finish := by
  unfold piece at found
  split at found
  · cases found
  · cases found
  · cases found
  · split at found
    · dsimp only at found
      split at found
      · exact triplePiece_kind found
      · split at found
        · exact wordPiece_kind found
        · exact stringPiece_kind found
    · split at found
      · exact wordPiece_kind found
      · injection found with eq
        rw [← eq]
        decide
      · cases found
      · injection found with eq
        rw [← eq]
        decide

theorem exists_of_cons_ok {x : Located} {more : Except Failure (List Located)}
    {lexemes : List Located} (scanned : (do let ls ← more; return x :: ls) = .ok lexemes) :
    ∃ ls, more = .ok ls ∧ lexemes = x :: ls := by
  cases more with
  | error e => cases scanned
  | ok ls =>
    cases scanned
    exact ⟨ls, rfl, rfl⟩

theorem scan_kind {st : State} {m : Mark} {cs : List Char} {lexemes : List Located}
    (scanned : scan st m cs = .ok lexemes) : ∀ x ∈ lexemes, x.kind ≠ .finish := by
  fun_induction scan st m cs generalizing lexemes with
  | case1 => cases scanned; simp
  | case2 | case4 | case11 => cases scanned
  | case3 | case5 | case6 | case7 =>
    rename_i ih
    exact ih scanned
  | case8 =>
    rename_i found _ _ _ ih
    obtain ⟨ls, later, rfl⟩ := exists_of_cons_ok scanned
    exact List.forall_mem_cons.mpr ⟨piece_kind found, ih later⟩
  | case9 | case10 | case12 =>
    rename_i ih
    obtain ⟨ls, later, rfl⟩ := exists_of_cons_ok scanned
    exact List.forall_mem_cons.mpr ⟨by simp, ih later⟩

end Lexer

namespace TokenList

variable {source : String} {origin : Origin} {tokens : TokenList}

theorem isFinish_finish (cut : ofSource source origin = .ok tokens) :
    tokens.finish.isFinish = true := by
  unfold ofSource at cut
  dsimp only at cut
  split at cut
  · cases cut
  · cases cut
    rfl

theorem isFinish_of_mem (cut : ofSource source origin = .ok tokens) :
    ∀ t ∈ tokens.tokens, t.isFinish = false := by
  unfold ofSource at cut
  dsimp only at cut
  split at cut
  · cases cut
  · next lexemes scanned =>
      cases cut
      intro t mem
      obtain ⟨x, inside, rfl⟩ := List.mem_map.mp mem
      exact beq_eq_false_iff_ne.mpr (Lexer.scan_kind scanned x inside)

theorem source_eq (cut : ofSource source origin = .ok tokens) :
    tokens.source = Text.trim source.toList := by
  unfold ofSource at cut
  dsimp only at cut
  split at cut
  · cases cut
  · cases cut
    rfl

end TokenList

end AttrBinder
