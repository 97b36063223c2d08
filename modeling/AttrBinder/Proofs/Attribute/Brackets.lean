import AttrBinder.Source.Cursor

/-!
Runs of tokens in which brackets match. The search for the end of an expression takes such a run as
a whole, and so does the search for the next separator; and what the first takes with no bracket
left open is such a run.
-/

namespace AttrBinder

def Token.isBracket (t : Token) : Bool :=
  t.kind == .operator && ((closerOf? t.text).isSome || isCloser t.text)

/-- Tokens in which every bracket is closed by its own kind, in the right order. A comma may stand
outside all brackets only if `commas` is set. -/
inductive Balanced : Bool → List Token → Prop
  | nil {commas : Bool} : Balanced commas []
  | plain {commas : Bool} {t : Token} {ts : List Token} (bare : t.isBracket = false)
      (comma : t.isOperator "," = true → commas = true) (rest : Balanced commas ts) :
      Balanced commas (t :: ts)
  | nested {commas : Bool} {opener closer : Token} {inner ts : List Token}
      (opens : opener.kind = .operator) (closes : closer.kind = .operator)
      (fits : closerOf? opener.text = some closer.text) (inside : Balanced true inner)
      (rest : Balanced commas ts) : Balanced commas (opener :: inner ++ closer :: ts)

theorem Balanced.tail {commas : Bool} {t : Token} {ts : List Token}
    (run : Balanced commas (t :: ts)) (bare : t.isBracket = false) : Balanced commas ts := by
  cases run with
  | plain _ _ rest => exact rest
  | nested opens _ fits _ _ => simp [Token.isBracket, opens, fits] at bare

theorem closerOf?_of_isCloser (closes : isCloser s = true) : closerOf? s = none := by
  simp only [isCloser, Bool.or_eq_true, beq_iff_eq] at closes
  rcases closes with (rfl | rfl) | rfl <;> rfl

theorem isCloser_of_closerOf? (opens : closerOf? s = some c) : isCloser c = true := by
  unfold closerOf? at opens
  split at opens
  · cases opens; rfl
  · split at opens
    · cases opens; rfl
    · split at opens
      · cases opens; rfl
      · cases opens

theorem ne_comma_of_closerOf? {s c : String} (opens : closerOf? s = some c) :
    s ≠ "," ∧ s ≠ ")" := by
  constructor <;> rintro rfl <;> cases opens

namespace Cursor

def Extent.after (e : Extent) (ts : List Token) : Extent :=
  { e with tokens := ts ++ e.tokens }

@[simp] theorem Extent.after_nil (e : Extent) : e.after [] = e := rfl

theorem Extent.after_after (e : Extent) (ts us : List Token) :
    (e.after us).after ts = e.after (ts ++ us) := by
  simp [Extent.after]

section Steps

variable {t : Token} {rest : List Token} {depth : List String}

theorem extent_plain (bare : t.isBracket = false)
    (comma : t.isOperator "," = true → depth ≠ []) :
    extent depth (t :: rest) = (extent depth rest).after [t] := by
  rw [extent.eq_def]
  dsimp only
  cases kind : t.kind == .operator with
  | false => rfl
  | true =>
    simp only [Token.isBracket, kind, Bool.true_and, Bool.or_eq_false_iff,
      Option.isSome_eq_false_iff, Option.isNone_iff_eq_none] at bare
    have closes : t.text ≠ ")" := by
      rintro eq
      rw [eq] at bare
      exact absurd bare.2 (by decide)
    have stops : (depth.isEmpty && (t.text == "," || t.text == ")")) = false := by
      cases depth with
      | nil =>
        have other : t.text ≠ "," := fun eq =>
          comma (by simp [Token.isOperator, kind, eq]) rfl
        simp [other, closes]
      | cons d outer => rfl
    simp [stops, bare.1, bare.2, Extent.after]

theorem extent_opens (kind : t.kind = .operator) (opens : closerOf? t.text = some c) :
    extent depth (t :: rest) = (extent (c :: depth) rest).after [t] := by
  obtain ⟨comma, closer⟩ := ne_comma_of_closerOf? opens
  rw [extent.eq_def]
  simp [kind, opens, comma, closer, Extent.after]

theorem extent_closes (kind : t.kind = .operator) (closes : isCloser d = true)
    (fits : t.text = d) : extent (d :: depth) (t :: rest) = (extent depth rest).after [t] := by
  subst fits
  rw [extent.eq_def]
  simp [kind, closerOf?_of_isCloser closes, closes, Extent.after]

theorem extent_separator (stops : t.isOperator "," = true ∨ t.isOperator ")" = true) :
    extent [] (t :: rest) = ⟨[], [], t :: rest⟩ := by
  simp only [Token.isOperator, Bool.and_eq_true, beq_iff_eq] at stops
  rw [extent.eq_def]
  rcases stops with ⟨kind, text⟩ | ⟨kind, text⟩ <;> simp [kind, text]

end Steps

theorem extent_balanced (run : Balanced commas ts)
    (depth : List String) (inside : commas = true → depth ≠ []) (rest : List Token) :
    extent depth (ts ++ rest) = (extent depth rest).after ts := by
  induction run generalizing depth rest with
  | nil => rfl
  | plain bare comma _ ih =>
    rw [List.cons_append, extent_plain bare (fun h => inside (comma h)), ih depth inside,
      Extent.after_after]
    rfl
  | @nested commas opener closer inner ts opens closes fits _ _ ihInner ih =>
    have closing := isCloser_of_closerOf? fits
    rw [List.append_assoc, List.cons_append, extent_opens opens fits,
      ihInner _ (by simp), List.cons_append, extent_closes closes closing rfl,
      ih depth inside]
    simp [Extent.after_after]

theorem extent_append (depth : List String) (ts : List Token) :
    (extent depth ts).tokens ++ (extent depth ts).rest = ts := by
  induction ts generalizing depth with
  | nil => rfl
  | cons t ts ih =>
    rw [extent.eq_def]
    dsimp only
    repeat' split
    all_goals simp [ih]

/-- Tokens that close given brackets, innermost first, and leave no other open. -/
def Closing : List String → List Token → Prop
  | [], ts => Balanced false ts
  | d :: outer, ts => ∃ inner closer rest, ts = inner ++ closer :: rest ∧ Balanced true inner ∧
      closer.kind = .operator ∧ closer.text = d ∧ Closing outer rest

theorem Closing.plain {t : Token} {ts : List Token} {depth : List String}
    (run : Closing depth ts) (bare : t.isBracket = false)
    (comma : t.isOperator "," = true → depth ≠ []) : Closing depth (t :: ts) := by
  cases depth with
  | nil => exact Balanced.plain bare (fun h => absurd rfl (comma h)) run
  | cons d outer =>
    obtain ⟨inner, closer, rest, rfl, inside, kind, text, closed⟩ := run
    exact ⟨t :: inner, closer, rest, rfl, .plain bare (fun _ => rfl) inside, kind, text, closed⟩

theorem Closing.opens {t : Token} (run : Closing (c :: depth) ts) (kind : t.kind = .operator)
    (opens : closerOf? t.text = some c) : Closing depth (t :: ts) := by
  obtain ⟨inner, closer, rest, rfl, inside, closes, rfl, closed⟩ := run
  cases depth with
  | nil => exact Balanced.nested kind closes opens inside closed
  | cons d outer =>
    obtain ⟨inner', closer', rest', rfl, inside', closes', text, closed⟩ := closed
    refine ⟨t :: inner ++ closer :: inner', closer', rest', by simp, ?_, closes', text, closed⟩
    exact .nested kind closes opens inside inside'

theorem extent_closing (depth : List String) (ts : List Token)
    (closed : (extent depth ts).depth = []) : Closing depth (extent depth ts).tokens := by
  induction ts generalizing depth with
  | nil =>
    cases depth with
    | nil => exact Balanced.nil
    | cons d outer => cases closed
  | cons t ts ih =>
    cases bracket : t.isBracket with
    | false =>
      by_cases comma : t.isOperator "," = true ∧ depth = []
      · obtain ⟨comma, rfl⟩ := comma
        rw [extent_separator (.inl comma)]
        exact Balanced.nil
      · have stays : t.isOperator "," = true → depth ≠ [] := fun h eq => comma ⟨h, eq⟩
        rw [extent_plain bracket stays] at closed ⊢
        exact (ih depth closed).plain bracket stays
    | true =>
      simp only [Token.isBracket, Bool.and_eq_true, beq_iff_eq] at bracket
      obtain ⟨kind, either⟩ := bracket
      cases opens : closerOf? t.text with
      | some c =>
        rw [extent_opens kind opens] at closed ⊢
        exact (ih (c :: depth) closed).opens kind opens
      | none =>
        have closes : isCloser t.text = true := by simpa [opens] using either
        cases depth with
        | nil =>
          have stop : extent [] (t :: ts) = ⟨[], [], t :: ts⟩ := by
            rw [extent.eq_def]
            simp [kind, opens, closes]
          rw [stop]
          exact Balanced.nil
        | cons d outer =>
          by_cases fits : d = t.text
          · rw [extent_closes kind (fits ▸ closes) fits.symm] at closed ⊢
            exact ⟨[], t, _, rfl, .nil, kind, fits.symm, ih outer closed⟩
          · have stop : extent (d :: outer) (t :: ts) = ⟨[], d :: outer, t :: ts⟩ := by
              rw [extent.eq_def]
              simp [kind, opens, closes, fits]
            rw [stop] at closed
            cases closed

theorem balanced_of_extent (closed : (extent [] ts).depth = [])
    (whole : (extent [] ts).tokens = ts) : Balanced false ts :=
  whole ▸ extent_closing [] ts closed

theorem fromSeparator_balanced {commas : Bool} {ts : List Token} (run : Balanced commas ts)
    (depth : List String) (inside : commas = true → depth ≠ []) (rest : List Token) :
    fromSeparator (some ")") depth (ts ++ rest) = fromSeparator (some ")") depth rest := by
  induction run generalizing depth rest with
  | nil => rfl
  | @plain commas t ts bare comma _ ih =>
    rw [List.cons_append, fromSeparator.eq_def]
    dsimp only
    cases kind : t.kind == .operator with
    | false => exact ih depth inside rest
    | true =>
      simp only [Token.isBracket, kind, Bool.true_and, Bool.or_eq_false_iff,
        Option.isSome_eq_false_iff, Option.isNone_iff_eq_none] at bare
      have closes : t.text ≠ ")" := by
        rintro eq
        rw [eq] at bare
        exact absurd bare.2 (by decide)
      have stops : (depth.isEmpty && (t.text == "," || some t.text == some ")")) = false := by
        cases depth with
        | nil =>
          have other : t.text ≠ "," := fun eq =>
            inside (comma (by simp [Token.isOperator, kind, eq])) rfl
          simp [other, closes]
        | cons d outer => rfl
      simp only [stops, bare.1, bare.2, if_true, Bool.false_eq_true, if_false]
      exact ih depth inside rest
  | @nested commas opener closer inner ts opens closes fits _ _ ihInner ih =>
    have closing := isCloser_of_closerOf? fits
    obtain ⟨comma, close⟩ := ne_comma_of_closerOf? fits
    have start : fromSeparator (some ")") depth (opener :: (inner ++ closer :: (ts ++ rest))) =
        fromSeparator (some ")") (closer.text :: depth) (inner ++ closer :: (ts ++ rest)) := by
      rw [fromSeparator.eq_def]
      simp [opens, fits, comma, close]
    have finish : fromSeparator (some ")") (closer.text :: depth) (closer :: (ts ++ rest)) =
        fromSeparator (some ")") depth (ts ++ rest) := by
      rw [fromSeparator.eq_def]
      simp [closes, closerOf?_of_isCloser closing, closing]
    simp only [List.cons_append, List.append_assoc]
    rw [start, ihInner _ (by simp), finish, ih depth inside]

theorem fromSeparator_separator {t : Token} {rest : List Token}
    (stops : t.isOperator "," = true ∨ t.isOperator ")" = true) :
    fromSeparator (some ")") [] (t :: rest) = t :: rest := by
  simp only [Token.isOperator, Bool.and_eq_true, beq_iff_eq] at stops
  rw [fromSeparator.eq_def]
  rcases stops with ⟨kind, text⟩ | ⟨kind, text⟩ <;> simp [kind, text]

end Cursor

end AttrBinder
