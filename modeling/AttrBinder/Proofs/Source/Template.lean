import Mathlib.Data.List.Induction
import AttrBinder.Proofs.Source.Layout

/-!
Tokens in their template. The line and the column of a place are counted in the text before it. A
token stands at its offsets in the trimmed source and at its span in every template that holds the
source at the origin (`tokens_faithful`).
-/

namespace AttrBinder

namespace Text

def lineAfter (before : List Char) : Int :=
  1 + before.count '\n'

def columnAfter (before : List Char) : Int :=
  (before.reverse.takeWhile (· != '\n')).length

theorem lineAfter_append (s t : List Char) : lineAfter (s ++ t) = lineAfter s + t.count '\n' := by
  simp only [lineAfter, List.count_append, Int.natCast_add, Int.add_assoc]

theorem columnAfter_append (s t : List Char) : columnAfter (s ++ t) =
    if '\n' ∈ t then columnAfter t else columnAfter s + t.length := by
  unfold columnAfter
  rw [List.reverse_append]
  split
  · next feed =>
    rw [List.takeWhile_append, if_neg]
    intro length
    have all := List.takeWhile_eq_self_iff.mp ((List.takeWhile_prefix _).eq_of_length length)
    simpa using all '\n' (List.mem_reverse.mpr feed)
  · next free =>
    rw [List.takeWhile_append_of_pos fun c mem => ?_]
    · simp only [List.length_append, List.length_reverse, Int.natCast_add, Int.add_comm]
    · exact bne_iff_ne.mpr fun eq => free (eq ▸ List.mem_reverse.mp mem)

theorem exists_trim (cs : List Char) :
    ∃ tail, cs = cs.takeWhile isBlank ++ (trim cs ++ tail) := by
  refine ⟨((trimStart cs).reverse.takeWhile isBlank).reverse, ?_⟩
  rw [trim, trimEnd, ← List.reverse_append, List.takeWhile_append_dropWhile, List.reverse_reverse,
    trimStart, List.takeWhile_append_dropWhile]

end Text

namespace Origin

theorem past_eq (o : Origin) (skipped : List Char) : o.past skipped =
    ⟨o.line + skipped.count '\n',
      if '\n' ∈ skipped then Text.columnAfter skipped else o.column + skipped.length, o.file⟩ := by
  unfold past
  dsimp only
  split
  · next none =>
    rw [if_neg (List.count_eq_zero.mp (beq_iff_eq.mp none)), beq_iff_eq.mp none]
    simp
  · next some =>
    rw [if_pos (List.count_pos_iff.mp (Nat.pos_of_ne_zero fun zero => some (beq_iff_eq.mpr zero)))]
    rfl

theorem past_append (o : Origin) (s t : List Char) : o.past (s ++ t) = (o.past s).past t := by
  simp only [past_eq, List.count_append, Text.columnAfter_append, List.mem_append,
    List.length_append, mk.injEq, and_true]
  refine ⟨by omega, ?_⟩
  by_cases feed : '\n' ∈ t
  · simp [feed]
  · by_cases first : '\n' ∈ s
    · simp [feed, first]
    · simp only [feed, first, or_self, if_false]
      omega

theorem placed (o : Origin) (text : List Char) :
    o.lineOf (({} : Mark).past text) = (o.past text).line ∧
      o.columnOf (({} : Mark).past text) = (o.past text).column := by
  induction text using List.reverseRecOn with
  | nil =>
    simp only [past_eq, Mark.past, List.foldl_nil, lineOf, columnOf, List.count_nil,
      List.not_mem_nil, if_false, List.length_nil]
    exact ⟨by omega, by simp⟩
  | append_singleton text c ih =>
    have later := ({} : Mark).upTo_past text
    rw [Mark.past_append, o.past_append, past_eq (o.past text), ← ih.1, ← ih.2]
    simp only [Mark.past, List.foldl_cons, List.foldl_nil, Mark.step, Mark.UpTo] at later ⊢
    by_cases feed : c = '\n'
    · subst feed
      simp only [lineOf, columnOf, Text.columnAfter]
      simp
      omega
    · simp only [lineOf, columnOf, beq_iff_eq, feed, if_false]
      simp [Ne.symm feed, feed]
      split <;> omega

/-- An origin behind a text. -/
structure Begins (o : Origin) (lead : List Char) : Prop where
  line : o.line = Text.lineAfter lead
  column : o.column = Text.columnAfter lead

theorem Begins.past {o : Origin} (begins : o.Begins lead) (skipped : List Char) :
    (o.past skipped).Begins (lead ++ skipped) := by
  rw [past_eq]
  refine ⟨by rw [Text.lineAfter_append, begins.line], ?_⟩
  rw [Text.columnAfter_append, begins.column]

end Origin

namespace Lexer

/-- The part of a text that a token is. -/
structure Stands (source : List Char) (x : Located) (before text after : List Char) : Prop where
  whole : source = before ++ (text ++ after)
  ne : text ≠ []
  spelt : x.text = String.ofList text
  start : x.start = ({} : Mark).past before
  stop : x.stop = x.start.behind text

/-- From an offset of the source on, only what is passed over stands before and behind tokens. -/
def Spaced (source : List Char) : Int → Bool → Nat → List Token → Prop
  | level, fresh, i, [] => Skips (level == 0) fresh (source.drop i) []
  | level, fresh, i, t :: ts =>
    Skips (level == 0) fresh ((source.drop i).take (t.start - i)) (source.drop t.start) ∧
      Spaced source (level + rise t.kind t.text.toList) (t.text.toList.getLast? == some '\n') t.stop
        ts

def Located.placed (o : Origin) (x : Located) : Token :=
  ⟨x.kind, x.text, o.span x.start x.stop, x.start.offset, x.stop.offset⟩

theorem Stands.offsets (stands : Stands source x before text after) :
    x.start.offset = before.length ∧ x.stop.offset = before.length + text.length := by
  have start : x.start.offset = before.length := by
    rw [stands.start, Mark.offset_past]
    exact Nat.zero_add _
  exact ⟨start, by rw [stands.stop, Mark.offset_behind _ stands.ne, start]⟩

/-- What a layout says of a text that goes on with it. -/
structure Spread (source : List Char) (i : Nat) (ls : List Located) : Prop where
  stands : ∀ x ∈ ls, i ≤ x.start.offset ∧ ∃ before text after, Stands source x before text after
  apart : ls.Pairwise fun x y => x.stop.offset ≤ y.start.offset

theorem Laid.spread (laid : Laid level fresh m cs ls) (pre : List Char)
    (here : m = ({} : Mark).past pre) :
    Spread (pre ++ cs) pre.length ls ∧
      ∀ o, Spaced (pre ++ cs) level fresh pre.length (ls.map (Located.placed o)) := by
  induction laid generalizing pre with
  | done skips =>
    refine ⟨⟨nofun, .nil⟩, fun o => ?_⟩
    rw [List.map_nil, Spaced, List.drop_left]
    exact skips
  | @token level fresh gap text rest m ls x skips some spelt start stop more ih =>
    have stands : Stands (pre ++ (gap ++ (text ++ rest))) x (pre ++ gap) text rest :=
      ⟨(List.append_assoc ..).symm, some, spelt, by rw [start, here, Mark.past_append], stop⟩
    obtain ⟨first, last⟩ := stands.offsets
    have next : x.start.past text = ({} : Mark).past (pre ++ gap ++ text) := by
      rw [stands.start, Mark.past_append _ (pre ++ gap)]
    obtain ⟨spread, spaced⟩ := ih (pre ++ gap ++ text) next
    rw [show pre ++ gap ++ text ++ rest = pre ++ (gap ++ (text ++ rest)) by
      simp only [List.append_assoc]] at spread spaced
    have behind : (pre ++ gap ++ text).length = x.stop.offset := by rw [last, List.length_append]
    rw [behind] at spread spaced
    rw [List.length_append] at first last
    refine ⟨⟨List.forall_mem_cons.mpr ⟨⟨by omega, _, _, _, stands⟩, fun y mem => ?_⟩,
      List.pairwise_cons.mpr ⟨fun y mem => (spread.stands y mem).1, spread.apart⟩⟩, fun o => ?_⟩
    · obtain ⟨later, stands⟩ := spread.stands y mem
      exact ⟨by omega, stands⟩
    · refine ⟨?_, ?_⟩
      · simp only [Located.placed, first, Nat.add_sub_cancel_left, List.drop_left, List.take_left]
        rwa [← List.drop_drop, List.drop_left, List.drop_left]
      · simp only [Located.placed, spelt, String.toList_ofList]
        exact spaced o

theorem Origin.columnOf_behind (o : Origin) (m : Mark) (text : List Char) :
    o.columnOf (m.behind text) = o.columnOf (m.past text.dropLast) + 1 := by
  unfold Origin.columnOf Mark.behind
  dsimp only
  split
  · push_cast
    omega
  · push_cast
    rfl

theorem Stands.span_eq (stands : Stands source x before text after) (o : Origin) :
    o.span x.start x.stop =
      { line := (o.past before).line, column := (o.past before).column
        endLine := (o.past (before ++ text.dropLast)).line
        endColumn := (o.past (before ++ text.dropLast)).column + 1, file := o.file } := by
  have first := o.placed before
  have last := o.placed (before ++ text.dropLast)
  rw [stands.stop, stands.start, Origin.span, first.1, first.2, ← last.1, ← last.2,
    Mark.past_append, Origin.columnOf_behind]
  rfl

theorem Stands.end_eq (stands : Stands source x before text after) (o : Origin)
    (solid : text.getLast? ≠ some '\n') :
    (o.span x.start x.stop).endLine = (o.past (before ++ text)).line ∧
      (o.span x.start x.stop).endColumn = (o.past (before ++ text)).column := by
  rw [stands.stop, Mark.behind_eq_past _ stands.ne solid, stands.start, ← Mark.past_append]
  exact o.placed (before ++ text)

end Lexer

theorem TokenList.exists_spread {source : String} {origin : Origin} {tokens : TokenList}
    (cut : ofSource source origin = .ok tokens) :
    ∃ lexemes, tokens.source = Text.trim source.toList ∧
      tokens.tokens = lexemes.map
        (Lexer.Located.placed (origin.past (source.toList.takeWhile Text.isBlank))) ∧
      Lexer.Spread (Text.trim source.toList) 0 lexemes ∧
      Lexer.Spaced tokens.source 0 true 0 tokens.tokens := by
  unfold ofSource at cut
  dsimp only at cut
  split at cut
  · cases cut
  · next lexemes scanned =>
    cases cut
    obtain ⟨spread, spaced⟩ :=
      (Lexer.scan_laid (Text.tight_trim _) (fun _ => rfl) scanned).spread [] rfl
    exact ⟨lexemes, rfl, rfl, spread, spaced _⟩

/-- Tokens are faithful to the source and to every template around it. Each has its text at its
offsets, in the source without the blanks around it; tokens do not overlap; and only blanks, comments,
line breaks, backslashes before them and lost lines stand between them. In the template a token's span
starts at its first character and ends one column behind its last, which is where its text ends
unless that is a line break. -/
theorem TokenList.tokens_faithful {source : String} {origin : Origin} {tokens : TokenList}
    (cut : ofSource source origin = .ok tokens) {lead : List Char} (begins : origin.Begins lead)
    (trail : List Char) :
    let template := lead ++ source.toList ++ trail
    let first := lead.length + (source.toList.takeWhile Text.isBlank).length
    tokens.source = Text.trim source.toList ∧
    (∀ t ∈ tokens.tokens, t.start < t.stop ∧ t.stop ≤ tokens.source.length ∧
      t.text.toList = (tokens.source.drop t.start).take (t.stop - t.start) ∧
      t.text.toList = (template.drop (first + t.start)).take (t.stop - t.start) ∧
      t.span =
        { line := Text.lineAfter (template.take (first + t.start))
          column := Text.columnAfter (template.take (first + t.start))
          endLine := Text.lineAfter (template.take (first + t.stop - 1))
          endColumn := Text.columnAfter (template.take (first + t.stop - 1)) + 1
          file := origin.file } ∧
      (t.text.toList.getLast? ≠ some '\n' →
        t.span.endLine = Text.lineAfter (template.take (first + t.stop)) ∧
        t.span.endColumn = Text.columnAfter (template.take (first + t.stop)))) ∧
    tokens.tokens.Pairwise (fun t u => t.stop ≤ u.start) ∧
    Lexer.Spaced tokens.source 0 true 0 tokens.tokens := by
  intro template first
  obtain ⟨lexemes, kept, map, spread, spaced⟩ := exists_spread cut
  obtain ⟨tail, trimmed⟩ := Text.exists_trim source.toList
  have begins := begins.past (source.toList.takeWhile Text.isBlank)
  refine ⟨kept, fun t mem => ?_, by rw [map]; exact List.pairwise_map.mpr spread.apart, spaced⟩
  rw [map] at mem
  rw [kept]
  obtain ⟨x, inside, rfl⟩ := List.mem_map.mp mem
  obtain ⟨-, before, text, after, stands⟩ := spread.stands x inside
  obtain ⟨start, stop⟩ := stands.offsets
  have pos := List.length_pos_iff.mpr stands.ne
  have whole : template = lead ++ source.toList.takeWhile Text.isBlank ++
      (before ++ (text ++ (after ++ (tail ++ trail)))) := by
    rw [show template = lead ++ source.toList ++ trail from rfl]
    conv_lhs => rw [trimmed, stands.whole]
    simp only [List.append_assoc]
  have place (part : List Char) (fits : part <+: before ++ text) : template.take (first +
      part.length) = lead ++ source.toList.takeWhile Text.isBlank ++ part := by
    obtain ⟨rest, split⟩ := fits
    rw [whole, ← List.append_assoc before, ← split, List.append_assoc part, ← List.append_assoc]
    exact List.take_left' (by simp only [List.length_append, first])
  have atStart := place before (List.prefix_append ..)
  have atEnd := place (before ++ text) (List.prefix_refl _)
  have atLast := place (before ++ text.dropLast)
    ((List.prefix_append_right_inj _).mpr (List.dropLast_prefix text))
  have count : first + (before ++ text.dropLast).length = first + (before.length + text.length) - 1 := by
    rw [List.length_append, List.length_dropLast]
    omega
  rw [List.length_append] at atEnd
  rw [count] at atLast
  simp only [Lexer.Located.placed]
  rw [start, stop, stands.spelt, String.toList_ofList, Nat.add_sub_cancel_left, atStart, atEnd, atLast]
  refine ⟨by omega, ?_, ?_, ?_, ?_, fun solid => ?_⟩
  · rw [stands.whole]
    simp only [List.length_append]
    omega
  · rw [stands.whole, List.drop_left, List.take_left]
  · have head : first = (lead ++ source.toList.takeWhile Text.isBlank).length :=
      List.length_append.symm
    rw [whole, head, ← List.drop_drop, List.drop_left, List.drop_left, List.take_left]
  · rw [stands.span_eq, (begins.past before).line, (begins.past before).column,
      (begins.past _).line, (begins.past _).column, Origin.past_eq origin]
  · rw [(stands.end_eq _ solid).1, (stands.end_eq _ solid).2]
    exact ⟨(begins.past _).line, (begins.past _).column⟩

/-- A list on two lines with a string on two lines, in the third column of a template. -/
theorem TokenList.tokens_faithful_shifted : ∃ tokens,
    ofSource "\n (a='''b\nc''', # d\n e=1)" ⟨2, 3, "page"⟩ = .ok tokens ∧
      Origin.Begins ⟨2, 3, "page"⟩ "p\n   ".toList ∧ tokens.tokens.length = 9 ∧
      tokens.tokens.Pairwise (fun t u => t.stop ≤ u.start) ∧
      Lexer.Spaced tokens.source 0 true 0 tokens.tokens := by
  have count : (ofSource "\n (a='''b\nc''', # d\n e=1)" ⟨2, 3, "page"⟩).toOption.map
      (·.tokens.length) = some 9 := by decide +kernel
  have begins : Origin.Begins ⟨2, 3, "page"⟩ "p\n   ".toList := ⟨by decide +kernel, by decide +kernel⟩
  cases cut : ofSource "\n (a='''b\nc''', # d\n e=1)" ⟨2, 3, "page"⟩ with
  | error e =>
    rw [cut] at count
    cases count
  | ok tokens =>
    rw [cut] at count
    exact ⟨tokens, rfl, begins, Option.some.inj count, (tokens_faithful cut begins []).2.2⟩

/-- A carriage return at the start of a line takes the line with it. -/
theorem TokenList.line_lost : (ofSource "a\n\rb\nc" {}).toOption.map (fun tokens =>
      tokens.tokens.map fun t => (t.text, t.start, t.stop)) = some [("a", 0, 1), ("c", 5, 6)] ∧
    "a\n\rb\nc".toList[3]? = some 'b' := by
  decide +kernel

end AttrBinder
