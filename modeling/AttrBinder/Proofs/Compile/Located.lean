import AttrBinder.Proofs.Compile.Order
import AttrBinder.Proofs.Source.Template

/-!
Where diagnostics point. All that compiling returns or raises lies between the first character of the
source and the place behind its last one, but for what is raised at the end of input: the end has its
place on the line behind the last one (`diagnostics_located`).
-/

namespace AttrBinder

def Origin.UpTo (a b : Origin) : Prop :=
  a.line < b.line ∨ a.line = b.line ∧ a.column ≤ b.column

theorem Origin.UpTo.trans {a b c : Origin} (first : a.UpTo b) (second : b.UpTo c) : a.UpTo c := by
  unfold UpTo at *
  omega

theorem Origin.upTo_past (o : Origin) (text : List Char) : o.UpTo (o.past text) := by
  rw [past_eq]
  unfold UpTo
  by_cases feed : '\n' ∈ text
  · have pos := List.count_pos_iff.mpr feed
    exact .inl (by dsimp only; omega)
  · rw [if_neg feed, List.count_eq_zero.mpr feed]
    exact .inr ⟨by simp, by dsimp only; omega⟩

theorem Origin.behind_upTo (o : Origin) (c : Char) :
    Origin.UpTo ⟨o.line, o.column + 1, o.file⟩ (o.past [c]) := by
  rw [past_eq]
  unfold UpTo
  by_cases feed : c = '\n'
  · subst feed
    exact .inl (Int.lt_succ o.line)
  · simp [feed, Ne.symm feed]

/-- Both ends of a span lie between two places. -/
structure Span.Within (span : Span) (first last : Origin) : Prop where
  start : first.UpTo ⟨span.line, span.column, span.file⟩
  startBefore : Origin.UpTo ⟨span.line, span.column, span.file⟩ last
  stop : first.UpTo ⟨span.endLine, span.endColumn, span.file⟩
  stopBefore : Origin.UpTo ⟨span.endLine, span.endColumn, span.file⟩ last

theorem Span.Within.through {s t : Span} (start : s.Within a b) (stop : t.Within a b) :
    (s.through t).Within a b :=
  ⟨start.start, start.startBefore, stop.stop, stop.stopBefore⟩

theorem Lexer.Stands.within (stands : Stands source x before text after) (o : Origin)
    (tail : List Char) : (o.span x.start x.stop).Within o (o.past (source ++ tail)) := by
  have split : text = text.dropLast ++ [text.getLast stands.ne] :=
    (List.dropLast_concat_getLast stands.ne).symm
  have whole : source ++ tail = before ++ (text ++ (after ++ tail)) := by
    rw [stands.whole, List.append_assoc, List.append_assoc]
  have last := (o.past (before ++ text.dropLast)).behind_upTo (text.getLast stands.ne)
  rw [← o.past_append, List.append_assoc, ← split] at last
  rw [stands.span_eq]
  refine ⟨o.upTo_past before, ?_, ?_, last.trans ?_⟩
  · rw [whole, o.past_append before (text ++ _)]
    exact Origin.upTo_past _ _
  · exact (o.upTo_past (before ++ text.dropLast)).trans (.inr ⟨rfl, by dsimp only; omega⟩)
  · rw [whole, ← List.append_assoc, o.past_append (before ++ text) (after ++ tail)]
    exact Origin.upTo_past _ _

theorem Span.Within.behind {span : Span} {o : Origin} (within : span.Within (o.past skipped) last) :
    span.Within o last :=
  ⟨(o.upTo_past skipped).trans within.start, within.startBefore,
    (o.upTo_past skipped).trans within.stop, within.stopBefore⟩

theorem TokenList.token_within {source : String} {origin : Origin} {tokens : TokenList}
    (cut : ofSource source origin = .ok tokens) (mem : t ∈ tokens.tokens) :
    t.span.Within origin (origin.past source.toList) := by
  obtain ⟨lexemes, -, map, spread, -⟩ := exists_spread cut
  obtain ⟨tail, trimmed⟩ := Text.exists_trim source.toList
  rw [map] at mem
  obtain ⟨x, inside, rfl⟩ := List.mem_map.mp mem
  obtain ⟨-, before, text, after, stands⟩ := spread.stands x inside
  have within := stands.within (origin.past (source.toList.takeWhile Text.isBlank)) tail
  rw [← origin.past_append, ← trimmed] at within
  exact within.behind

theorem Origin.start_within (origin : Origin) (source : List Char) (offset : Nat) :
    ((origin.past (source.takeWhile Text.isBlank)).span ⟨1, 0, offset⟩ ⟨1, 0, offset⟩).Within origin
      (origin.past source) := by
  have first := origin.upTo_past (source.takeWhile Text.isBlank)
  have later := (origin.past (source.takeWhile Text.isBlank)).upTo_past
    (source.dropWhile Text.isBlank)
  rw [← origin.past_append, List.takeWhile_append_dropWhile] at later
  unfold Origin.UpTo at first later
  constructor <;> unfold Origin.UpTo <;> simp [Origin.span, Origin.lineOf, Origin.columnOf] <;> omega

theorem TokenList.finish_span {source : String} {origin : Origin} {tokens : TokenList}
    (cut : ofSource source origin = .ok tokens) :
    tokens.finish.span.Within origin (origin.past source.toList) ∨
      let kept := source.toList.takeWhile Text.isBlank ++ Text.trim source.toList
      tokens.finish.span = ⟨(origin.past kept).line + 1, 0, (origin.past kept).line + 1, 0,
        origin.file⟩ := by
  unfold ofSource at cut
  dsimp only at cut
  split at cut
  · cases cut
  · cases cut
    dsimp only
    rw [origin.past_append, Origin.past_eq _ (Text.trim source.toList)]
    cases body : Text.trim source.toList with
    | nil =>
      exact .inl (origin.start_within source.toList _)
    | cons c cs =>
      right
      simp only [Lexer.finishRow, Origin.span, Origin.lineOf, Origin.columnOf, List.isEmpty_cons]
      simp [Origin.past_eq]
      omega

namespace AttributeList

open AttributeReader

variable {source : List Char} {finish : Token} {ts : List Token} {d : Diagnostic}

theorem peek_cases (source : List Char) (ts : List Token) (finish : Token) :
    ts = [] ∧ (⟨source, ts, finish⟩ : Cursor).peek = finish ∨
      (⟨source, ts, finish⟩ : Cursor).peek ∈ ts := by
  cases ts with
  | nil => exact .inl ⟨rfl, rfl⟩
  | cons t ts => exact .inr (List.mem_cons_self ..)

theorem peek_mem (ends : finish.isFinish = true)
    (inside : (⟨source, ts, finish⟩ : Cursor).atEnd = false) :
    (⟨source, ts, finish⟩ : Cursor).peek ∈ ts := by
  rcases peek_cases source ts finish with ⟨-, eq⟩ | mem
  · rw [Cursor.atEnd, eq, ends] at inside
    cases inside
  · exact mem

/-- A fault of the list is at one of its tokens, or it is that the list has no end. -/
def Faults (ts : List Token) (finish : Token) (d : Diagnostic) : Prop :=
  (∃ t ∈ ts, d.span = t.span) ∨ d = ⟨.unclosedList, finish.span⟩

theorem Faults.mono (faults : Faults ts finish d) (sub : ts ⊆ us) : Faults us finish d :=
  faults.imp_left fun ⟨t, mem, eq⟩ => ⟨t, sub mem, eq⟩

theorem faults_unclosed (source : List Char) (ts : List Token) (finish : Token) :
    Faults ts finish ⟨.unclosedList, (⟨source, ts, finish⟩ : Cursor).peek.span⟩ := by
  rcases peek_cases source ts finish with ⟨-, eq⟩ | mem
  · rw [eq]
    exact .inr rfl
  · exact .inl ⟨_, mem, rfl⟩

theorem close_faults (ends : finish.isFinish = true)
    (fault : (close soFar ⟨source, ts, finish⟩).outcome = .error (.complaint d)) :
    Faults ts finish d := by
  unfold close at fault
  dsimp only at fault
  split at fault
  · cases fault
  · next inside =>
    cases fault
    have mem := peek_mem ends (Bool.eq_false_iff.mpr inside)
    exact .inl ⟨_, List.mem_of_mem_drop mem, rfl⟩

theorem slots_faults (ends : finish.isFinish = true)
    (fault : (slots n soFar ⟨source, ts, finish⟩).outcome = .error (.complaint d)) :
    Faults ts finish d := by
  induction n generalizing ts soFar with
  | zero =>
    cases fault
    exact faults_unclosed source ts finish
  | succ n ih =>
    cases closed : (⟨source, ts, finish⟩ : Cursor).atOperator ")" with
    | true =>
      unfold Cursor.atOperator at closed
      rw [slots_succ, if_pos closed] at fault
      exact close_faults ends fault
    | false =>
      cases past : (⟨source, ts, finish⟩ : Cursor).atEnd with
      | true =>
        unfold Cursor.atOperator at closed
        rw [slots_succ, if_neg (by simp [closed]), if_pos past] at fault
        cases fault
        exact faults_unclosed source ts finish
      | false =>
        rw [slots_site closed past] at fault
        cases found : slotAt ⟨source, ts, finish⟩ with
        | error =>
          rw [found] at fault
          cases fault
        | ok next =>
          obtain ⟨slot, c⟩ := next
          rw [found] at fault
          obtain ⟨taken, rest, rfl, rfl, -⟩ := slotAt_names ends found
          refine Faults.mono ?_ (List.subset_append_right taken rest)
          cases rest with
          | nil =>
            simp only [goOn, separation, Cursor.atOperator, Cursor.peek_nil, Cursor.atEnd, ends,
              isOperator_of_isFinish ends, Bool.false_eq_true, if_false, if_true, failed] at fault
            cases fault
            exact .inr rfl
          | cons sep rest =>
            rcases Bool.eq_false_or_eq_true (sep.isOperator ",") with comma | comma
            · dsimp only at fault
              rw [goOn_comma comma] at fault
              exact (ih fault).mono (List.subset_cons_self sep rest)
            · rcases Bool.eq_false_or_eq_true (sep.isOperator ")") with closer | closer
              · dsimp only at fault
                rw [goOn_closer closer] at fault
                exact close_faults ends fault
              · have here : d.span = sep.span := by
                  simp only [goOn, separation, Cursor.atOperator, Cursor.peek_cons, comma, closer,
                    Bool.false_eq_true, if_false] at fault
                  cases past : (⟨source, sep :: rest, finish⟩ : Cursor).atEnd <;>
                    · simp only [past, failed, if_true, Bool.false_eq_true, if_false] at fault
                      cases fault
                      rfl
                exact .inl ⟨sep, List.mem_cons_self .., here⟩

theorem parse_faults {text : String} {origin : Origin}
    (fault : (parse text origin).outcome = .error (.complaint d)) :
    d.span = (origin.past (text.toList.takeWhile Text.isBlank)).span {} {} ∨
      ∃ tokens, TokenList.ofSource text origin = .ok tokens ∧
        ((∃ t ∈ tokens.tokens, d.span = t.span) ∨ d.span = tokens.finish.span ∧
          (d.complaint = .unclosedList ∨ d.complaint = .expectedOpening "end of input")) := by
  unfold parse at fault
  cases cut : TokenList.ofSource text origin with
  | error e =>
    rw [cut] at fault
    cases fault
    unfold TokenList.ofSource at cut
    dsimp only at cut
    split at cut
    · cases cut
      exact .inl rfl
    · cases cut
  | ok tokens =>
    rw [cut] at fault
    refine .inr ⟨tokens, rfl, ?_⟩
    have ends := TokenList.isFinish_finish cut
    unfold read at fault
    dsimp only [Cursor.ofTokens] at fault
    split at fault
    · rcases slots_faults ends fault with ⟨t, mem, eq⟩ | rfl
      · exact .inl ⟨t, List.mem_of_mem_drop mem, eq⟩
      · exact .inr ⟨rfl, .inl rfl⟩
    · cases fault
      rcases peek_cases tokens.source tokens.tokens tokens.finish with ⟨-, eq⟩ | mem
      · rw [eq]
        exact .inr ⟨rfl, .inr (by simp [Token.describe, ends])⟩
      · exact .inl ⟨_, mem, rfl⟩

theorem slot_within {text : String} {origin : Origin} (ok : (parse text origin).outcome = .ok ())
    {slot : Slot} (mem : slot ∈ (parse text origin).slots) {span : Span} (names : slot.Names span) :
    span.Within origin (origin.past text.toList) := by
  obtain ⟨slots, tokens, opener, ts, cut, split, -, sited⟩ := parse_sites ok
  rw [slots] at mem
  obtain ⟨site, met, rfl⟩ := List.mem_map.mp mem
  obtain ⟨t, start, u, stop, rfl⟩ := sited.within site met span names
  have inside {t : Token} (mem : t ∈ ts) := TokenList.token_within cut (t := t)
    (split ▸ List.mem_cons_of_mem opener mem)
  exact (inside start).through (inside stop)

end AttributeList

theorem Compile.exists_slot_of_error {slots : List Slot} (mem : d ∈ (result c slots).errors) :
    ∃ slot ∈ slots, slot.complaint? c = some d := by
  have perm := (slots_split c 0 slots).2.2
  simp only [result, List.mem_mergeSort, lowerAll, List.filterMap_map] at mem
  exact List.mem_filterMap.mp (perm.mem_iff.mp mem)

open AttributeList in
/-- Diagnostics point into the source. Whatever a list that was read to its end names, its attributes
with their parts and its errors, and all errors that compiling it returns, start and end between the
first character of the source and the place behind the last one. So does what is raised, but for what
is missing at the end of input: there it is on the line behind the last one that is not blank, at its
start. -/
theorem Compile.diagnostics_located (c : Config) (source : String) :
    let last := c.origin.past source.toList
    let kept := source.toList.takeWhile Text.isBlank ++ Text.trim source.toList
    ((parse source c.origin).outcome = .ok () → ∀ slot ∈ (parse source c.origin).slots,
      ∀ span, slot.Names span → span.Within c.origin last) ∧
    (∀ r, (Compile.run c source).result = .ok r → ∀ d ∈ r.errors, d.span.Within c.origin last) ∧
    (∀ d, (Compile.run c source).result = .error (.complaint d) → d.span.Within c.origin last ∨
      (d.complaint = .unclosedList ∨ d.complaint = .expectedOpening "end of input") ∧
      d.span = ⟨(c.origin.past kept).line + 1, 0, (c.origin.past kept).line + 1, 0,
        c.origin.file⟩) := by
  intro last kept
  refine ⟨fun ok slot mem span names => slot_within ok mem names, fun r compiled d mem => ?_,
    fun d raised => ?_⟩
  · unfold Compile.run at compiled
    dsimp only at compiled
    split at compiled
    case h_1 => cases compiled
    case h_2 ok =>
      cases compiled
      obtain ⟨slot, inside, wrong⟩ := exists_slot_of_error mem
      exact slot_within ok inside (names_of_complaint wrong)
  · unfold Compile.run at raised
    dsimp only at raised
    split at raised
    case h_2 => cases raised
    case h_1 fault =>
      cases raised
      rcases parse_faults fault with start | ⟨tokens, cut, ⟨t, mem, eq⟩ | ⟨eq, kind⟩⟩
      · exact .inl (start ▸ c.origin.start_within source.toList 0)
      · exact .inl (eq ▸ TokenList.token_within cut mem)
      · exact (TokenList.finish_span cut).imp (fun within => eq ▸ within) fun place =>
          ⟨kind, eq.trans place⟩

/-- A list on two lines in the middle of a template, of which one attribute is lowered. -/
theorem Compile.diagnostics_located_mixed :
    ∃ r, (Compile.run { origin := ⟨7, 12, "page"⟩ } mixedText).result = .ok r ∧
      r.lowered.length = 1 ∧
      ∀ d ∈ r.errors, d.span.Within ⟨7, 12, "page"⟩ (Origin.past ⟨7, 12, "page"⟩ mixedText.toList) := by
  have count : (Compile.run { origin := ⟨7, 12, "page"⟩ } mixedText).result.toOption.map
      (·.lowered.length) = some 1 := by decide +kernel
  have located := (diagnostics_located { origin := ⟨7, 12, "page"⟩ } mixedText).2.1
  cases compiled : (Compile.run { origin := ⟨7, 12, "page"⟩ } mixedText).result with
  | error e =>
    rw [compiled] at count
    cases count
  | ok r =>
    rw [compiled] at count
    exact ⟨r, rfl, Option.some.inj count, located r compiled⟩

/-- A comment alone: what is missing behind it is looked for on a line that is not there. -/
theorem Compile.end_outside : (match (Compile.run {} "# c").result with
      | .error (.complaint d) => some d
      | _ => none) = some ⟨.expectedOpening "end of input", ⟨2, 0, 2, 0, ""⟩⟩ ∧
    Origin.past {} "# c".toList = ⟨1, 3, ""⟩ := by
  decide +kernel

end AttrBinder
