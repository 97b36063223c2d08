import AttrBinder.Proofs.Source.Places

/-!
A text as its tokens and what stands between them. Between tokens there are blanks, line breaks,
comments and backslashes at the end of a line, and outside of brackets whole lines that begin with a
carriage return. A token ends one column behind its last character, also if that is a line break.
-/

namespace AttrBinder

namespace Lexer

/-! ## What is passed over -/

def EndsLine (cs : List Char) : Prop :=
  ∀ c, cs.head? = some c → c = '\n' ∨ c = '\r'

/-- What is passed over before a text, outside of brackets or not, at the start of a line or not. -/
inductive Skips (outside : Bool) : Bool → List Char → List Char → Prop
  | nil : Skips outside fresh [] after
  | blank (gap : isGap c = true) (more : Skips outside fresh cs after) :
      Skips outside fresh (c :: cs) after
  | lineBreak (more : Skips outside true cs after) : Skips outside fresh ('\n' :: cs) after
  | longBreak (more : Skips outside true cs after) : Skips outside fresh ('\r' :: '\n' :: cs) after
  | joint (more : Skips outside false cs after) : Skips outside fresh ('\\' :: '\n' :: cs) after
  | longJoint (more : Skips outside false cs after) :
      Skips outside fresh ('\\' :: '\r' :: '\n' :: cs) after
  | comment (text : '\n' ∉ note) (stops : EndsLine (cs ++ after))
      (more : Skips outside false cs after) : Skips outside fresh ('#' :: (note ++ cs)) after
  /-- A line with a carriage return before anything else. -/
  | lost (alone : outside = true) (text : '\n' ∉ line) (stops : EndsLine (cs ++ after))
      (more : Skips outside false cs after) : Skips outside true ('\r' :: (line ++ cs)) after

theorem Skips.blanks (gap : ∀ c ∈ cs, isGap c = true) (more : Skips outside fresh rest after) :
    Skips outside fresh (cs ++ rest) after := by
  induction cs with
  | nil => exact more
  | cons c cs ih =>
    obtain ⟨here, later⟩ := List.forall_mem_cons.mp gap
    exact .blank here (ih later)

theorem exists_line (cs : List Char) : ∃ line, '\n' ∉ line ∧
    ((cs = line ∧ lineLength cs = line.length) ∨
      ∃ tail, cs = line ++ '\n' :: tail ∧ lineLength cs = line.length + 1) := by
  induction cs with
  | nil => exact ⟨[], by simp, .inl ⟨rfl, rfl⟩⟩
  | cons c cs ih =>
    by_cases feed : c = '\n'
    · subst feed
      exact ⟨[], by simp, .inr ⟨cs, rfl, lineLength_break cs⟩⟩
    · obtain ⟨line, free, cases⟩ := ih
      refine ⟨c :: line, by simp [free, Ne.symm feed], ?_⟩
      rw [lineLength_cons cs feed]
      rcases cases with ⟨rfl, length⟩ | ⟨tail, rfl, length⟩
      · exact .inl ⟨rfl, by rw [length]; rfl⟩
      · exact .inr ⟨tail, rfl, by rw [length]; rfl⟩

theorem Skips.rest_of_line (mark : List Char → List Char) (cs : List Char)
    (takes : ∀ {line cs after : List Char}, '\n' ∉ line → EndsLine (cs ++ after) →
      Skips true false cs after → Skips true true (mark (line ++ cs)) after)
    (whole : gap ++ after = cs.drop (lineLength cs)) (more : Skips true true gap after) :
    Skips true true (mark (cs.take (lineLength cs) ++ gap)) after := by
  obtain ⟨line, free, ⟨rfl, length⟩ | ⟨tail, rfl, length⟩⟩ := exists_line cs
  · rw [length] at whole ⊢
    rw [List.drop_length, List.append_eq_nil_iff] at whole
    obtain ⟨rfl, rfl⟩ := whole
    rw [List.take_length]
    exact takes free nofun .nil
  · rw [length, List.take_append, List.take_of_length_le (Nat.le_succ _), List.append_assoc]
    refine takes free (fun c head => ?_) ?_
    · simp only [Nat.add_sub_cancel_left, List.take_succ_cons, List.take_zero, List.cons_append,
        List.head?_cons, Option.some.injEq] at head
      exact .inl head.symm
    · simp only [Nat.add_sub_cancel_left, List.take_succ_cons, List.take_zero, List.cons_append]
      exact .lineBreak more

theorem skips_line {cs : List Char} (empty : (cs.drop (runLength isGap cs)).head?.any
      (fun c => c == '#' || c == '\r' || c == '\n') = true)
    (whole : gap ++ after = cs.drop (lineLength cs)) (more : Skips true true gap after) :
    Skips true true (cs.take (lineLength cs) ++ gap) after := by
  induction cs with
  | nil => cases empty
  | cons c cs ih =>
    by_cases blank : isGap c = true
    · have other : c ≠ '\n' := by
        rintro rfl
        cases blank
      rw [lineLength_cons cs other] at whole ⊢
      unfold runLength at empty
      rw [List.takeWhile_cons_of_pos blank] at empty
      exact .blank blank (ih empty whole)
    · unfold runLength at empty
      rw [List.takeWhile_cons_of_neg blank] at empty
      simp only [List.length_nil, List.drop_zero, List.head?_cons, Option.any_some, Bool.or_eq_true,
        beq_iff_eq] at empty
      rcases empty with (rfl | rfl) | rfl
      · rw [lineLength_cons cs (by decide)] at whole ⊢
        exact Skips.rest_of_line ('#' :: ·) cs .comment whole more
      · rw [lineLength_cons cs (by decide)] at whole ⊢
        exact Skips.rest_of_line ('\r' :: ·) cs (.lost rfl) whole more
      · rw [lineLength_break] at whole ⊢
        exact .lineBreak more

theorem breakLength_cases (some : breakLength cs ≠ 0) :
    (∃ r, cs = '\n' :: r ∧ breakLength cs = 1) ∨
      ∃ r, cs = '\r' :: '\n' :: r ∧ breakLength cs = 2 := by
  revert some
  unfold breakLength
  split
  · exact fun _ => .inl ⟨_, rfl, rfl⟩
  · exact fun _ => .inr ⟨_, rfl, rfl⟩
  · exact fun some => absurd rfl some

theorem endsLine_drop_note (cs : List Char) : EndsLine (cs.drop (runLength isNote cs)) := by
  intro c head
  have stop := runLength_drop isNote cs
  obtain ⟨rest, eq⟩ := List.head?_eq_some_iff.mp head
  rw [eq] at stop
  by_contra other
  simp only [not_or] at other
  simp [runLength, isNote, other] at stop

def Piece.breaksLine : Piece → Bool
  | lineBreak _ => true
  | _ => false

theorem skips_piece (found : piece strict cs = p) (kind : p.kind? = none) (ended : p ≠ .unfinished)
    (whole : gap ++ after = cs.drop p.size)
    (more : Skips outside p.breaksLine gap after) :
    Skips outside fresh (cs.take p.size ++ gap) after := by
  rw [piece_eq] at found
  split at found
  · next joint =>
    subst found
    cases cs with
    | nil => exact absurd rfl joint
    | cons c cs =>
      unfold jointLength at joint
      split at joint
      · next cs' eq =>
        cases eq
        have some : breakLength cs ≠ 0 := fun none => joint (if_pos none)
        simp only [Piece.size, jointLength, if_neg some]
        rcases breakLength_cases some with ⟨r, rfl, size⟩ | ⟨r, rfl, size⟩
        · exact .joint more
        · exact .longJoint more
      · exact absurd rfl joint
  · split at found
    · next hash =>
      subst found
      obtain ⟨cs, rfl⟩ := List.head?_eq_some_iff.mp hash
      simp only [Piece.size, List.tail_cons, Nat.add_comm 1, List.take_succ_cons,
        List.drop_succ_cons] at whole ⊢
      refine .comment (fun feed => ?_) (whole ▸ endsLine_drop_note cs) more
      simpa [isNote] using (runLength_heads isNote cs).2 _ feed
    · split at found
      · rcases quotedPiece_cases strict _ cs with open_ | ⟨-, token⟩
        · exact absurd (found.symm.trans open_) ended
        · exact absurd (found ▸ kind) token
      · rcases barePiece_cases cs with ⟨some, eq⟩ | ⟨-, token⟩
        · rw [eq] at found
          subst found
          rcases breakLength_cases some with ⟨r, rfl, size⟩ | ⟨r, rfl, size⟩
          · exact .lineBreak more
          · exact .longBreak more
        · exact absurd (found ▸ kind) token

/-! ## Ends of tokens -/

def Closes (q : Char) (n : Nat) (cs : List Char) : Prop :=
  0 < n ∧ cs[n - 1]? = some q

theorem Closes.shift (closes : Closes q n (cs.drop k)) : Closes q (n + k) cs := by
  obtain ⟨pos, last⟩ := closes
  refine ⟨by omega, ?_⟩
  rw [List.getElem?_drop] at last
  rw [← last]
  congr 1
  omega

theorem Closes.getLast?_take (closes : Closes q n cs) : (cs.take n).getLast? = some q := by
  rw [List.getLast?_take, if_neg (Nat.pos_iff_ne_zero.mp closes.1), closes.2]
  rfl

theorem lineEnding?_closes (ends : lineEnding? q cs = some (.closed n)) : Closes q n cs := by
  fun_induction lineEnding? q cs generalizing n with
  | case1 | case2 | case3 | case6 => cases ends
  | case4 c rest _ _ ih =>
    obtain ⟨e, more, eq⟩ := Option.map_eq_some_iff.mp ends
    cases e with
    | broken k => cases eq
    | closed k =>
      cases eq
      exact (ih more).shift
  | case5 c rest _ _ _ same =>
    cases ends
    exact ⟨Nat.one_pos, congrArg some (beq_iff_eq.mp same)⟩
  | case7 c rest _ _ _ _ _ ih =>
    obtain ⟨e, more, eq⟩ := Option.map_eq_some_iff.mp ends
    cases e with
    | broken k => cases eq
    | closed k =>
      cases eq
      exact (ih more).shift

theorem closeOnLine?_closes (ends : closeOnLine? q triple cs = some n) : Closes q n cs := by
  fun_induction closeOnLine? q triple cs generalizing n with
  | case1 | case2 | case4 => cases ends
  | case3 c rest _ ih =>
    obtain ⟨k, more, rfl⟩ := Option.map_eq_some_iff.mp ends
    exact (ih more).shift
  | case5 c rest _ _ same =>
    cases ends
    have eq := beq_iff_eq.mp (Bool.and_eq_true_iff.mp same).2
    refine ⟨by decide, ?_⟩
    rw [← List.getElem?_take_of_lt (show 3 - 1 < 3 by decide), eq]
    rfl
  | case6 c rest _ _ _ same =>
    cases ends
    exact ⟨Nat.one_pos, congrArg some (beq_iff_eq.mp (Bool.and_eq_true_iff.mp same).2)⟩
  | case7 c rest _ _ _ _ ih =>
    obtain ⟨k, more, rfl⟩ := Option.map_eq_some_iff.mp ends
    exact (ih more).shift

theorem lineLength_pos (c : Char) (cs : List Char) : 0 < lineLength (c :: cs) := by
  by_cases feed : c = '\n'
  · subst feed
    exact Nat.lt_of_lt_of_eq Nat.one_pos (lineLength_break cs).symm
  · exact Nat.lt_of_lt_of_eq (Nat.succ_pos _) (lineLength_cons cs feed).symm

theorem drop_cons_pos (c : Char) (cs : List Char) (pos : 0 < k) :
    (c :: cs).drop k = cs.drop (k - 1) := by
  cases k with
  | zero => cases pos
  | succ k => rfl

theorem ending_closes (ends : ending q triple strict cs = .closed n) : Closes q n cs := by
  fun_induction ending q triple strict cs generalizing n with
  | case1 | case4 => cases ends
  | case2 c rest k close =>
    cases ends
    exact closeOnLine?_closes close
  | case3 =>
    rename_i c rest _ k _ ih
    cases later : ending q triple strict (rest.drop (k - 1)) with
    | missing | abandoned =>
      rw [later] at ends
      cases ends
    | closed l =>
      rw [later] at ends
      cases ends
      refine Closes.shift ?_
      rw [drop_cons_pos c rest (lineLength_pos c rest)]
      exact ih later

theorem getLast?_heads (heads : Heads P n cs) (last : (cs.take n).getLast? = some c) :
    P c = true :=
  heads.2 c (List.mem_of_getLast? last)

theorem wordPiece_solid (found : wordPiece cs = .token kind n) :
    (cs.take n).getLast? ≠ some '\n' := by
  unfold wordPiece at found
  split at found
  · cases found
  · next run =>
    cases found
    intro last
    have heads := runLength_heads Text.isWord cs
    rw [run] at heads
    exact absurd (getLast?_heads heads last) (by decide)

theorem operatorLength_solid (cs : List Char) :
    (cs.take (operatorLength cs)).getLast? ≠ some '\n' := by
  have solid : ∀ op ∈ operators, '\n' ∉ op.toList := by decide
  unfold operatorLength
  split
  · next op found =>
    have start : op.toList.isPrefixOf cs = true := by simpa using List.find?_some found
    obtain ⟨more, rfl⟩ := List.isPrefixOf_iff_prefix.mp start
    rw [← String.length_toList, List.take_left]
    exact fun last => solid op (List.mem_of_find?_eq_some found) (List.mem_of_getLast? last)
  · simp

theorem Ending.piece_closed {e : Ending} (found : e.piece = .longString n) : e = .closed n := by
  cases e with
  | closed k =>
    cases found
    rfl
  | abandoned | missing => cases found

theorem Ending.shift_closed {e : Ending} (found : e.shift k = .closed n) :
    ∃ l, e = .closed l ∧ n = l + k := by
  cases e with
  | closed l =>
    cases found
    exact ⟨l, rfl, rfl⟩
  | abandoned | missing => cases found

theorem quotedPiece_closes (found : quotedPiece strict m cs = .token kind n ∨
      quotedPiece strict m cs = .longString n) :
    Closes (cs.getD m '\'') n cs ∨ (cs.take n).getLast? ≠ some '\n' := by
  unfold quotedPiece at found
  split at found
  · left
    unfold triplePiece at found
    dsimp only at found
    split at found
    · next close =>
      rcases found with eq | eq <;> cases eq
      rw [Nat.add_comm (m + 3)]
      exact (closeOnLine?_closes close).shift
    · rcases found with eq | eq
      · exact absurd eq (Ending.piece_ne_token _ _ _)
      · obtain ⟨l, closed, rfl⟩ := Ending.shift_closed (Ending.piece_closed eq)
        rw [Nat.add_comm (m + 3), ← Nat.add_assoc]
        exact (ending_closes closed).shift.shift
  · split at found
    · rcases found with eq | eq
      · exact .inr (wordPiece_solid eq)
      · rcases wordPiece_cases cs with none | ⟨kind, n, token⟩
        · cases none.symm.trans eq
        · cases token.symm.trans eq
    · left
      unfold stringPiece at found
      dsimp only at found
      split at found
      · next close =>
        rcases found with eq | eq <;> cases eq
        rw [Nat.add_comm (m + 1)]
        exact (lineEnding?_closes close).shift
      · rcases found with eq | eq
        · exact absurd eq (Ending.piece_ne_token _ _ _)
        · obtain ⟨l, closed, rfl⟩ := Ending.shift_closed (Ending.piece_closed eq)
          rw [Nat.add_comm (m + 1), ← Nat.add_assoc]
          exact (ending_closes closed).shift.shift
      · rcases found with eq | eq <;> cases eq

theorem piece_solid (found : piece strict cs = .token kind n ∨ piece strict cs = .longString n) :
    (cs.take n).getLast? ≠ some '\n' := by
  rw [piece_eq] at found
  split at found
  · rcases found with eq | eq <;> cases eq
  · split at found
    · rcases found with eq | eq <;> cases eq
    · split at found
      · next mark =>
        obtain ⟨mark, q, body, rfl, rfl, quote, -⟩ := stringMark?_split mark
        rcases quotedPiece_closes found with closes | solid
        · rw [closes.getLast?_take]
          simp only [List.getD_eq_getElem?_getD, List.getElem?_append_right (Nat.le_refl _),
            Nat.sub_self, List.getElem?_cons_zero, Option.getD_some]
          rintro ⟨⟩
          cases quote
        · exact solid
      · unfold barePiece at found
        split at found
        · rcases found with eq | eq
          · exact wordPiece_solid eq
          · rcases wordPiece_cases cs with none | ⟨kind, n, token⟩
            · cases none.symm.trans eq
            · cases token.symm.trans eq
        · rcases found with eq | eq <;> cases eq
          exact operatorLength_solid cs
        · rcases found with eq | eq <;> cases eq
        · rcases found with eq | eq <;> cases eq
          intro last
          exact absurd (getLast?_heads (numberLength_heads cs) last) (by decide)

theorem piece_break (strict : Bool) (cs : List Char) : piece strict ('\n' :: cs) ≠ .nothing := by
  intro found
  have joint : jointLength ('\n' :: cs) = 0 := rfl
  have note : ('\n' :: cs).head? ≠ some '#' := by simp
  rw [piece_eq, if_neg (not_not.mpr joint), if_neg note] at found
  split at found
  · next m mark =>
    obtain ⟨quote, mark⟩ := stringMark?_eq_some.mp mark
    clear found
    cases m with
    | zero => cases quote
    | succ m => exact absurd (isMarkChar_of_isStringMark mark (List.mem_cons_self ..)) (by decide)
  · unfold barePiece at found
    split at found
    · next none _ => cases none
    all_goals cases found

end Lexer

namespace Mark

theorem past_append (m : Mark) (s t : List Char) : m.past (s ++ t) = (m.past s).past t :=
  List.foldl_append

def behind (m : Mark) (text : List Char) : Mark :=
  let last := m.past text.dropLast
  ⟨last.row, last.column + 1, last.offset + 1⟩

theorem past_eq_step (m : Mark) (ne : text ≠ []) :
    m.past text = (m.past text.dropLast).step (text.getLast ne) := by
  conv_lhs => rw [← List.dropLast_concat_getLast ne, past_append]
  rfl

theorem behind_eq_past (m : Mark) (ne : text ≠ []) (solid : text.getLast? ≠ some '\n') :
    m.behind text = m.past text := by
  rw [List.getLast?_eq_some_getLast ne, ne_eq, Option.some.injEq] at solid
  rw [past_eq_step m ne, step, if_neg (by simpa using solid)]
  rfl

theorem offset_behind (m : Mark) (ne : text ≠ []) :
    (m.behind text).offset = m.offset + text.length := by
  have pos := List.length_pos_iff.mpr ne
  simp only [behind, Lexer.Mark.offset_past, List.length_dropLast]
  omega

theorem stop_eq_behind (m : Mark) (ne : text ≠ []) : (⟨(m.past text.dropLast).row,
    (m.past text.dropLast).column + 1, (m.past text).offset⟩ : Mark) = m.behind text := by
  rw [behind, past_eq_step m ne]
  congr 1
  unfold step
  split <;> rfl

theorem getLast?_of_row_ne (m : Mark) (ne : text ≠ [])
    (other : (m.past text).row ≠ (m.past text.dropLast).row) : text.getLast? = some '\n' := by
  rw [past_eq_step m ne] at other
  unfold step at other
  split at other
  · next feed => rw [List.getLast?_eq_some_getLast ne, beq_iff_eq.mp feed]
  · exact absurd rfl other

end Mark

namespace Lexer

/-! ## Tokens and what stands between them -/

/-- A text that starts at a mark, at a level of brackets and at the start of a line or not, is made
of these tokens, with only what is passed over between them. -/
inductive Laid : Int → Bool → Mark → List Char → List Located → Prop
  | done (skips : Skips (level == 0) fresh cs []) : Laid level fresh m cs []
  | token {x : Located} (skips : Skips (level == 0) fresh gap (text ++ rest)) (some : text ≠ [])
      (spelt : x.text = String.ofList text) (start : x.start = m.past gap)
      (stop : x.stop = x.start.behind text)
      (more : Laid (level + rise x.kind text) (text.getLast? == .some '\n') (x.start.past text) rest
        ls) : Laid level fresh m (gap ++ (text ++ rest)) (x :: ls)

theorem Laid.behind {m : Mark} (laid : Laid level fresh' (m.past skipped) rest ls)
    (skips : ∀ {gap after}, gap ++ after = rest → Skips (level == 0) fresh' gap after →
      Skips (level == 0) fresh (skipped ++ gap) after) :
    Laid level fresh m (skipped ++ rest) ls := by
  cases laid with
  | done more => exact .done (skips (List.append_nil rest) more)
  | token more some spelt start stop later =>
    rw [← List.append_assoc]
    exact .token (skips rfl more) some spelt (start.trans (m.past_append _ _).symm) stop later

theorem take_gap (cs : List Char) : ∀ c ∈ cs.take (runLength isGap cs), isGap c = true :=
  (runLength_heads isGap cs).2

theorem cut_piece (c : Char) (rest : List Char) (g : Nat) (pos : 0 < n) :
    (c :: rest).take g ++ (((c :: rest).drop g).take n ++ rest.drop (g + n - 1)) = c :: rest := by
  rw [← drop_cons_pos c rest (by omega), ← List.drop_drop, List.take_append_drop,
    List.take_append_drop]

theorem Laid.piece {m : Mark} (found : Lexer.piece strict ((c :: rest).drop (runLength isGap
      (c :: rest))) = p) (kind : p.kind? = none) (ended : p ≠ .unfinished)
    (later : Laid level p.breaksLine
      ((m.past ((c :: rest).take (runLength isGap (c :: rest)))).past
        (((c :: rest).drop (runLength isGap (c :: rest))).take p.size))
      (rest.drop (runLength isGap (c :: rest) + p.size - 1)) ls) :
    Laid level fresh m (c :: rest) ls := by
  have pos : 0 < p.size := (found ▸ piece_pos strict _).resolve_left ended
  have whole := cut_piece c rest (runLength isGap (c :: rest)) pos
  rw [← m.past_append] at later
  rw [← whole, ← List.append_assoc]
  refine later.behind fun split more => ?_
  rw [List.append_assoc]
  refine .blanks (take_gap _) (skips_piece found kind ended ?_ more)
  rw [split, List.drop_drop, drop_cons_pos c rest (by omega)]

theorem Laid.word {m : Mark} {x : Located} (some : text ≠ []) (spelt : x.text = String.ofList text)
    (blank : ∀ c ∈ gap, isGap c = true) (start : x.start = m.past gap)
    (stop : x.stop = x.start.behind text)
    (later : Laid (level + rise x.kind text) (text.getLast? == .some '\n') (x.start.past text) rest
      ls) : Laid level fresh m (gap ++ (text ++ rest)) (x :: ls) := by
  refine .token ?_ some spelt start stop later
  rw [← List.append_nil gap]
  exact .blanks blank .nil

theorem scan_laid {st : State} {m : Mark} {cs : List Char} {lexemes : List Located} {fresh : Bool}
    (tight : Tight cs) (line : st.lineStart = true → fresh = true)
    (scanned : scan st m cs = .ok lexemes) : Laid st.level fresh m cs lexemes := by
  fun_induction scan st m cs generalizing lexemes fresh with
  | case1 =>
    cases scanned
    exact .done .nil
  | case2 | case4 | case11 => cases scanned
  | case3 =>
    rename_i st m c rest all gap body start empty n ih
    obtain ⟨outer, head⟩ := Bool.and_eq_true_iff.mp empty
    obtain ⟨starts, level⟩ := Bool.and_eq_true_iff.mp outer
    have whole : all.take n ++ rest.drop (n - 1) = c :: rest := by
      rw [← drop_cons_pos c rest (lineLength_pos c rest), List.take_append_drop]
    have later := ih (tight.drop _) (fun _ => rfl) scanned
    rw [line starts, ← whole]
    refine later.behind fun split more => ?_
    rw [level] at more ⊢
    refine skips_line head ?_ more
    rw [split, drop_cons_pos c rest (lineLength_pos c rest)]
  | case5 =>
    rename_i found ih
    exact .piece found rfl (by simp) (ih (tight.drop _) (by simp) scanned)
  | case6 =>
    rename_i found ih
    exact .piece found rfl (by simp) (ih (tight.drop _) (by simp) scanned)
  | case7 =>
    rename_i found ih
    exact .piece found rfl (by simp) (ih (tight.drop _) (fun _ => rfl) scanned)
  | case8 =>
    rename_i c rest all gap body fresh' _ depths _ st' start kind n found text stop level ih
    obtain ⟨ls, later, rfl⟩ := exists_of_cons_ok scanned
    have some := take_ne_nil found (by simp) (by simp)
    have pos : 0 < n := (found ▸ piece_pos _ _ : _ ∨ 0 < (Piece.token kind n).size).resolve_left (by simp)
    rw [← cut_piece c rest gap pos]
    have ends := start.behind_eq_past some (piece_solid (.inl found))
    exact .word some rfl (take_gap _) rfl ends.symm (ih (tight.drop _) (by simp) later)
  | case9 =>
    rename_i c rest all gap body fresh' _ depths _ st' start n found text stop ih
    obtain ⟨ls, later, rfl⟩ := exists_of_cons_ok scanned
    have some := take_ne_nil found (by simp) (by simp)
    have pos : 0 < n := (found ▸ piece_pos _ _ : _ ∨ 0 < (Piece.longString n).size).resolve_left (by simp)
    rw [← cut_piece c rest gap pos]
    have ends := start.behind_eq_past some (@piece_solid _ _ .string _ (.inr found))
    refine .word some rfl (take_gap _) rfl ends.symm ?_
    exact (Int.add_zero _).symm ▸ ih (tight.drop _) (by simp) later
  | case10 =>
    rename_i c rest all gap body fresh' _ depths _ st' start n found text last after stop broken ih
    obtain ⟨ls, later, rfl⟩ := exists_of_cons_ok scanned
    have some : text ≠ [] := take_ne_nil found (by simp) (by simp)
    have pos : 0 < n := (found ▸ piece_pos _ _ : _ ∨ 0 < (Piece.abandoned n).size).resolve_left (by simp)
    rw [← cut_piece c rest gap pos]
    refine .word some rfl (take_gap _) rfl (start.stop_eq_behind some) ?_
    refine (Int.add_zero _).symm ▸ ih (tight.drop _) (fun new => ?_) later
    exact beq_iff_eq.mpr (start.getLast?_of_row_ne some (bne_iff_ne.mp new))
  | case12 =>
    rename_i c rest all gap body fresh' _ depths _ st' found lead text start stop ih
    obtain ⟨ls, later, rfl⟩ := exists_of_cons_ok scanned
    -- The token is the first character, or the first one behind the indentation.
    have blank : ∀ c ∈ all.take lead, isGap c = true := by
      intro d mem
      dsimp only [lead] at mem
      split at mem
      · exact take_gap _ d mem
      · cases mem
    obtain ⟨d, ds, split, solid⟩ : ∃ d ds, all.drop lead = d :: ds ∧ d ≠ '\n' := by
      dsimp only [lead]
      split
      · obtain ⟨d, ds, eq⟩ := List.exists_cons_of_ne_nil tight.drop_gap
        refine ⟨d, ds, eq, ?_⟩
        rintro rfl
        exact piece_break _ ds ((congrArg (piece _) eq).symm.trans found)
      · refine ⟨c, rest, rfl, ?_⟩
        rintro rfl
        exact piece_break _ rest found
    have word : text = [d] := by rw [show text = (all.drop lead).take 1 from rfl, split]; rfl
    have whole : all.take lead ++ (text ++ rest.drop lead) = c :: rest := by
      rw [word, show rest.drop lead = (all.drop lead).drop 1 by rw [List.drop_drop]; rfl, split]
      have parts := List.take_append_drop lead all
      rwa [split] at parts
    have some : text ≠ [] := word ▸ List.cons_ne_nil d []
    have ends := start.behind_eq_past some (by rw [word]; simpa using solid)
    rw [← whole]
    refine .word some rfl blank rfl ends.symm ?_
    exact (Int.add_zero _).symm ▸ ih (tight.drop _) (by simp) later

end Lexer

end AttrBinder
