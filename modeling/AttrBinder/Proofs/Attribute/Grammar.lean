import AttrBinder.Proofs.Attribute.Brackets
import AttrBinder.Proofs.Attribute.Reading
import AttrBinder.Proofs.Source.Kinds

/-!
The grammar of attribute lists as derivations over tokens, and that reading accepts a list exactly
when it can be derived, with the attributes of the derivation.
-/

namespace AttrBinder

def Token.upTo (first last : Token) (source : List Char) : List Char :=
  (source.take last.stop).drop first.start

/-- Hyphens, each with a name behind it; the names are given too. -/
inductive Dashes : List Token → List Token → Prop
  | nil : Dashes [] []
  | cons {hyphen name : Token} {ts names : List Token} (dash : hyphen.isOperator "-" = true)
      (word : name.isName = true) (rest : Dashes ts names) :
      Dashes (hyphen :: name :: ts) (name :: names)

/-- The tokens of a directive, and the directive that they make: the single name `ref`, `on` or
`bind` with a colon and a name, or any other name with further segments. -/
inductive Directive.Derives : List Token → Directive → Prop
  | ref {t : Token} (word : t.isName = true) (text : t.text = "ref") :
      Directive.Derives [t] (.ref (t.span.through t.span))
  | event {on colon name : Token} (word : on.isName = true) (text : on.text = "on")
      (sign : colon.isOperator ":" = true) (named : name.isName = true) :
      Directive.Derives [on, colon, name] (.event name.text name.span)
  | binding {bind colon name : Token} (word : bind.isName = true) (text : bind.text = "bind")
      (sign : colon.isOperator ":" = true) (named : name.isName = true) :
      Directive.Derives [bind, colon, name] (.binding name.text name.span)
  | plain {tag : Token} {ts names : List Token} (word : tag.isName = true)
      (segments : Dashes ts names) (other : ¬(tag.text = "ref" ∧ names = [])) :
      Directive.Derives (tag :: ts)
        (.plain ⟨tag.text, names.map Token.text, tag.span.through (names.getLastD tag).span,
          tag.span⟩)

/-- The tokens of an attribute in a source, and the attribute: a directive, an equals sign, and
tokens with matching brackets and no comma outside them, whose text is an expression. -/
inductive Attribute.Derives (source : List Char) : List Token → Attribute → Prop
  | mk {first equals start : Token} {ds more : List Token} {d : Directive} {e : Expr}
      (directive : d.Derives (first :: ds)) (sign : equals.isOperator "=" = true)
      (run : Balanced false (start :: more))
      (parsed : Expr.parse (start.upTo (more.getLastD start) source) = .ok e) :
      Attribute.Derives source (first :: ds ++ equals :: start :: more)
        { directive := d, expr := e
          source := String.ofList (start.upTo (more.getLastD start) source)
          span := first.span.through (start.span.through (more.getLastD start).span)
          exprSpan := start.span.through (more.getLastD start).span }

namespace AttributeList

/-- Attributes with commas between them, and perhaps one at the end. -/
inductive Entries (source : List Char) : List Token → List Attribute → Prop
  | none : Entries source [] []
  | last {ts : List Token} {a : Attribute} (entry : a.Derives source ts) : Entries source ts [a]
  | more {ts rest : List Token} {a : Attribute} {attributes : List Attribute} {comma : Token}
      (entry : a.Derives source ts) (sign : comma.isOperator "," = true)
      (others : Entries source rest attributes) :
      Entries source (ts ++ comma :: rest) (a :: attributes)

/-- The tokens of a list in parentheses, and its attributes. -/
inductive Derives (source : List Char) : List Token → List Attribute → Prop
  | mk {opener closer : Token} {ts : List Token} {attributes : List Attribute}
      (opens : opener.isOperator "(" = true) (entries : Entries source ts attributes)
      (closes : closer.isOperator ")" = true) :
      Derives source (opener :: ts ++ [closer]) attributes

end AttributeList

theorem Token.isOperator_iff {t : Token} :
    t.isOperator s = true ↔ t.kind = .operator ∧ t.text = s := by
  simp [Token.isOperator]

theorem Token.isOperator_of_isName {t : Token} (word : t.isName = true) (s : String) :
    t.isOperator s = false := by
  simp only [Token.isName, beq_iff_eq] at word
  simp [Token.isOperator, word]

theorem Token.isOperator_ne {t : Token} (is : t.isOperator s = true)
    (ne : s ≠ s') : t.isOperator s' = false := by
  rw [Token.isOperator_iff] at is
  simp [Token.isOperator, is.2, ne]

theorem Dashes.length_le (dashes : Dashes ds names) : names.length ≤ ds.length := by
  induction dashes with
  | nil => exact Nat.le_refl _
  | cons _ _ _ ih => exact Nat.succ_le_succ (Nat.le_succ_of_le ih)

theorem AttributeName.text_eq_iff {n : AttributeName} {s : String} (plain : '-' ∉ s.toList) :
    n.text = s ↔ n.tag = s ∧ n.more = [] := by
  unfold AttributeName.text AttributeName.segments
  cases n.more with
  | nil => simp
  | cons m more =>
    simp only [reduceCtorEq, and_false, iff_false]
    rintro rfl
    simp [String.intercalate_cons_cons] at plain

namespace AttributeReader

variable {source : List Char} {finish : Token} {ts : List Token} {c : Cursor}

theorem isName_of_isFinish (ends : finish.isFinish = true) : finish.isName = false := by
  simp only [Token.isFinish, beq_iff_eq] at ends
  simp [Token.isName, ends]

theorem isOperator_of_isFinish (ends : finish.isFinish = true) (s : String) :
    finish.isOperator s = false := by
  simp only [Token.isFinish, beq_iff_eq] at ends
  simp [Token.isOperator, ends]

theorem moreSegments_sound (ends : finish.isFinish = true)
    (ran : (moreSegments n soFar last).run ⟨source, ts, finish⟩ = (.ok (segments, last'), c)) :
    ∃ ds names rest, ts = ds ++ rest ∧ c = ⟨source, rest, finish⟩ ∧ Dashes ds names ∧
      segments = (names.map Token.text).reverse ++ soFar ∧ last' = names.getLastD last := by
  induction n generalizing ts soFar last with
  | zero =>
    cases ran
    exact ⟨[], [], ts, rfl, rfl, .nil, rfl, rfl⟩
  | succ n ih =>
    rw [run_moreSegments_succ] at ran
    split at ran
    case isFalse =>
      cases ran
      exact ⟨[], [], ts, rfl, rfl, .nil, rfl, rfl⟩
    case isTrue dash =>
      match ts, dash with
      | [], dash => exact absurd dash (by simp [isOperator_of_isFinish ends])
      | [hyphen], _ =>
        rw [if_neg (by simp [isName_of_isFinish ends])] at ran
        cases ran
      | hyphen :: name :: ts, dash =>
        split at ran
        case isFalse => cases ran
        case isTrue word =>
          obtain ⟨ds, names, rest, rfl, rfl, dashes, rfl, rfl⟩ := ih ran
          exact ⟨hyphen :: name :: ds, name :: names, rest, rfl, rfl,
            .cons dash word dashes, by simp, by rw [List.getLastD_cons]; rfl⟩

theorem moreSegments_complete (dashes : Dashes ds names) (enough : names.length ≤ n)
    (soFar : List String) (last : Token)
    (stops : (⟨source, rest, finish⟩ : Cursor).peek.isOperator "-" = false) :
    (moreSegments n soFar last).run ⟨source, ds ++ rest, finish⟩ =
      (.ok ((names.map Token.text).reverse ++ soFar, names.getLastD last),
        ⟨source, rest, finish⟩) := by
  induction dashes generalizing n soFar last with
  | nil =>
    cases n with
    | zero => rfl
    | succ n => rw [run_moreSegments_succ, if_neg (by simpa using stops)]; rfl
  | @cons hyphen name ds names dash word _ ih =>
    cases n with
    | zero => cases enough
    | succ n =>
      have more := ih (Nat.le_of_succ_le_succ enough) (name.text :: soFar) name
      rw [run_moreSegments_succ]
      simp only [List.cons_append, Cursor.peek_cons, Cursor.advance_cons, dash, word, if_true,
        more, List.map_cons, List.reverse_cons, List.append_assoc, List.nil_append,
        List.getLastD_cons]

def nameOf (tag : Token) (names : List Token) : AttributeName :=
  ⟨tag.text, names.map Token.text, tag.span.through (names.getLastD tag).span, tag.span⟩

theorem name_sound (ends : finish.isFinish = true)
    (ran : name.run ⟨source, ts, finish⟩ = (.ok n, c)) :
    ∃ tag ds names rest, ts = tag :: ds ++ rest ∧ c = ⟨source, rest, finish⟩ ∧
      tag.isName = true ∧ Dashes ds names ∧ n = nameOf tag names := by
  rw [run_name] at ran
  split at ran
  case isFalse => cases ran
  case isTrue word =>
    cases ts with
    | nil => exact absurd word (by simp [isName_of_isFinish ends])
    | cons tag ts =>
      split at ran
      case h_2 => cases ran
      case h_1 segments last c' found =>
        obtain ⟨ds, names, rest, rfl, rfl, dashes, rfl, rfl⟩ := moreSegments_sound ends found
        cases ran
        exact ⟨tag, ds, names, rest, rfl, rfl, word, dashes, by simp [nameOf]⟩

theorem name_complete {tag : Token} (word : tag.isName = true) (dashes : Dashes ds names)
    (stops : (⟨source, rest, finish⟩ : Cursor).peek.isOperator "-" = false) :
    name.run ⟨source, tag :: ds ++ rest, finish⟩ =
      (.ok (nameOf tag names), ⟨source, rest, finish⟩) := by
  have enough : names.length ≤ (ds ++ rest).length := by
    have := dashes.length_le
    simp only [List.length_append]
    omega
  rw [run_name]
  simp only [List.cons_append, Cursor.peek_cons, Cursor.advance_cons, word, if_true,
    moreSegments_complete dashes enough [tag.text] tag stops]
  simp [nameOf]

theorem nameOf_text_eq_iff {s : String}
    (plain : '-' ∉ s.toList) : (nameOf tag names).text = s ↔ tag.text = s ∧ names = [] := by
  rw [AttributeName.text_eq_iff plain]
  simp [nameOf]

theorem ofWord?_eq_some (found : Qualified.ofWord? s = some q) : s = q.word := by
  unfold Qualified.ofWord? at found
  split at found
  case isTrue h =>
    cases found
    exact beq_iff_eq.mp h
  case isFalse =>
    split at found
    case isTrue h =>
      cases found
      exact beq_iff_eq.mp h
    case isFalse => cases found

theorem ofWord?_word (q : Qualified) : Qualified.ofWord? q.word = some q := by
  cases q <;> rfl

theorem derives_qualified {q : Qualified} {tag colon name : Token} (word : tag.isName = true)
    (text : tag.text = q.word) (sign : colon.isOperator ":" = true)
    (named : name.isName = true) : (qualified q name).Derives [tag, colon, name] := by
  cases q with
  | event => exact .event word text sign named
  | binding => exact .binding word text sign named

theorem directive_sound (ends : finish.isFinish = true)
    (ran : directive.run ⟨source, ts, finish⟩ = (.ok d, c)) :
    ∃ first ds rest, ts = first :: ds ++ rest ∧ c = ⟨source, rest, finish⟩ ∧
      d.Derives (first :: ds) := by
  rw [run_directive] at ran
  split at ran
  case h_1 => cases ran
  case h_2 n c' found =>
    obtain ⟨tag, ds, names, rest, rfl, rfl, word, dashes, rfl⟩ := name_sound ends found
    split at ran
    case isTrue isRef =>
      obtain ⟨text, rfl⟩ := (nameOf_text_eq_iff (by decide)).mp (beq_iff_eq.mp isRef)
      cases dashes
      cases ran
      exact ⟨tag, [], rest, rfl, rfl, .ref word text⟩
    case isFalse notRef =>
      split at ran
      case isFalse =>
        cases ran
        refine ⟨tag, ds, rest, rfl, rfl, .plain word dashes fun h => notRef ?_⟩
        exact beq_iff_eq.mpr ((nameOf_text_eq_iff (by decide)).mpr h)
      case isTrue sign =>
        split at ran
        case h_1 => cases ran
        case h_2 q known =>
          have isWord := ofWord?_eq_some known
          have single : '-' ∉ q.word.toList := by cases q <;> decide
          obtain ⟨text, rfl⟩ := (nameOf_text_eq_iff single).mp isWord
          cases dashes
          match rest, sign with
          | [], sign => exact absurd sign (by simp [isOperator_of_isFinish ends])
          | [colon], _ =>
            rw [if_neg (by simp [isName_of_isFinish ends])] at ran
            cases ran
          | colon :: name :: rest, sign =>
            split at ran
            case isFalse => cases ran
            case isTrue named =>
              cases ran
              exact ⟨tag, [colon, name], rest, rfl, rfl, derives_qualified word text sign named⟩

theorem directive_qualified {q : Qualified} {tag colon name : Token} (word : tag.isName = true)
    (text : tag.text = q.word) (sign : colon.isOperator ":" = true)
    (named : name.isName = true) :
    directive.run ⟨source, tag :: colon :: name :: rest, finish⟩ =
      (.ok (qualified q name), ⟨source, rest, finish⟩) := by
  have stops : (⟨source, colon :: name :: rest, finish⟩ : Cursor).peek.isOperator "-" = false :=
    Token.isOperator_ne sign (by decide)
  have read : AttributeReader.name.run ⟨source, tag :: colon :: name :: rest, finish⟩ =
      (.ok (nameOf tag []), ⟨source, colon :: name :: rest, finish⟩) :=
    name_complete word .nil stops
  have isWord : (nameOf tag []).text = q.word :=
    (nameOf_text_eq_iff (by cases q <;> decide)).mpr ⟨text, rfl⟩
  have notRef : (q.word == "ref") = false := by cases q <;> rfl
  rw [run_directive, read]
  simp [isWord, notRef, sign, ofWord?_word, named]

theorem directive_complete {d : Directive} (derives : d.Derives ds)
    (dash : (⟨source, rest, finish⟩ : Cursor).peek.isOperator "-" = false)
    (colon : (⟨source, rest, finish⟩ : Cursor).peek.isOperator ":" = false) :
    directive.run ⟨source, ds ++ rest, finish⟩ = (.ok d, ⟨source, rest, finish⟩) := by
  cases derives with
  | event word text sign named => exact directive_qualified (q := .event) word text sign named
  | binding word text sign named => exact directive_qualified (q := .binding) word text sign named
  | @ref tag word text =>
    have isRef : (nameOf tag []).text = "ref" :=
      (nameOf_text_eq_iff (by decide)).mpr ⟨text, rfl⟩
    rw [run_directive, show [tag] ++ rest = tag :: [] ++ rest from rfl,
      name_complete word .nil dash]
    simp only [isRef, beq_self_eq_true, if_true]
    rfl
  | @plain tag ts names word segments other =>
    have notRef : ((nameOf tag names).text == "ref") = false := by
      rw [beq_eq_false_iff_ne]
      exact fun h => other ((nameOf_text_eq_iff (by decide)).mp h)
    rw [run_directive, name_complete word segments dash]
    simp only [notRef, colon, Bool.false_eq_true, if_false]
    rfl

theorem expression_sound (ran : expression.run ⟨source, ts, finish⟩ = (.ok p, c)) :
    ∃ start more rest, ts = start :: more ++ rest ∧ c = ⟨source, rest, finish⟩ ∧
      Balanced false (start :: more) ∧
      Expr.parse (start.upTo (more.getLastD start) source) = .ok p.expr ∧
      p = ⟨p.expr, String.ofList (start.upTo (more.getLastD start) source),
        start.span.through (more.getLastD start).span⟩ := by
  rw [run_expression] at ran
  dsimp only at ran
  have whole := Cursor.extent_append [] ts
  split at ran
  case h_1 => cases ran
  case h_2 first more taken =>
    split at ran
    case isFalse => cases ran
    case isTrue closed =>
      have run := Cursor.extent_closing [] ts (List.isEmpty_iff.mp closed)
      have last : (first :: more).getLast (by simp) = more.getLastD first := by
        rw [List.getLast_eq_getLastD]
      rw [taken] at run whole
      rw [last] at ran
      split at ran
      case h_2 => cases ran
      case h_3 => cases ran
      case h_1 e parsed =>
        cases ran
        exact ⟨first, more, _, whole.symm, rfl, run, parsed, rfl⟩

/-- Where a slot ends: at a comma, at a closing parenthesis, or at the end of the tokens. -/
inductive Stops : List Token → Prop
  | finish : Stops []
  | separator {t : Token} {rest : List Token}
      (sign : t.isOperator "," = true ∨ t.isOperator ")" = true) : Stops (t :: rest)

theorem Stops.extent (stops : Stops rest) : Cursor.extent [] rest = ⟨[], [], rest⟩ := by
  cases stops with
  | finish => rfl
  | separator sign => exact Cursor.extent_separator sign

theorem Stops.isOperator {rest : List Token} (stops : Stops rest) (ends : finish.isFinish = true)
    {s : String} (comma : s ≠ ",") (closer : s ≠ ")") :
    (⟨source, rest, finish⟩ : Cursor).peek.isOperator s = false := by
  cases stops with
  | finish => exact isOperator_of_isFinish ends s
  | separator sign =>
    rcases sign with sign | sign
    · exact Token.isOperator_ne sign comma.symm
    · exact Token.isOperator_ne sign closer.symm

theorem expression_balanced {start : Token} {more rest : List Token}
    (run : Balanced false (start :: more)) (stops : Stops rest) :
    expression.run ⟨source, start :: more ++ rest, finish⟩ =
      match Expr.parse (start.upTo (more.getLastD start) source) with
      | .ok e =>
        (.ok ⟨e, String.ofList (start.upTo (more.getLastD start) source),
          start.span.through (more.getLastD start).span⟩, ⟨source, rest, finish⟩)
      | .error .invalid =>
        (.error (.complaint ⟨.invalidExpression
          (String.ofList (start.upTo (more.getLastD start) source)),
            start.span.through (more.getLastD start).span⟩), ⟨source, rest, finish⟩)
      | .error (.unreadable u) => (.error (.unreadable u), ⟨source, rest, finish⟩) := by
  have taken : Cursor.extent [] (start :: more ++ rest) = ⟨start :: more, [], rest⟩ := by
    rw [Cursor.extent_balanced run [] (by simp), stops.extent]
    simp [Cursor.Extent.after]
  have last : (start :: more).getLast (by simp) = more.getLastD start := by
    rw [List.getLast_eq_getLastD]
  rw [run_expression]
  simp only [taken, last, List.isEmpty_nil, if_true]
  rfl

theorem entry_sound (ends : finish.isFinish = true)
    (ran : entry.run ⟨source, ts, finish⟩ = (.ok a, c)) :
    ∃ entry rest, ts = entry ++ rest ∧ c = ⟨source, rest, finish⟩ ∧ a.Derives source entry := by
  rw [run_entry] at ran
  split at ran
  case h_1 => cases ran
  case h_2 d c' found =>
    obtain ⟨first, ds, rest, rfl, rfl, derives⟩ := directive_sound ends found
    split at ran
    case isFalse => cases ran
    case isTrue sign =>
      cases rest with
      | nil => exact absurd sign (by simp [isOperator_of_isFinish ends])
      | cons equals rest =>
        split at ran
        case h_1 => cases ran
        case h_2 p c'' read =>
          obtain ⟨start, more, rest, rfl, rfl, run, parsed, made⟩ := expression_sound read
          cases ran
          refine ⟨first :: ds ++ equals :: start :: more, rest, by simp, rfl, ?_⟩
          rw [made]
          exact .mk derives sign run parsed

theorem entry_complete {a : Attribute} {entry rest : List Token}
    (derives : a.Derives source entry) (stops : Stops rest) :
    AttributeReader.entry.run ⟨source, entry ++ rest, finish⟩ =
      (.ok a, ⟨source, rest, finish⟩) := by
  cases derives with
  | @mk first equals start ds more d e directive sign run parsed =>
    have read : AttributeReader.directive.run
        ⟨source, first :: (ds ++ equals :: start :: (more ++ rest)), finish⟩ =
          (.ok d, ⟨source, equals :: start :: (more ++ rest), finish⟩) :=
      directive_complete directive (Token.isOperator_ne sign (by decide))
        (Token.isOperator_ne sign (by decide))
    have value := @expression_balanced source finish start more rest run stops
    rw [parsed, List.cons_append] at value
    rw [run_entry]
    simp only [List.cons_append, List.append_assoc, read, Cursor.peek_cons, Cursor.advance_cons,
      sign, if_true, value]

end AttributeReader

namespace AttributeList

open AttributeReader (Stops)

variable {source : List Char} {finish : Token} {ts : List Token}

theorem close_last (ends : finish.isFinish = true) (slots : List Slot) (closer : Token) :
    close slots ⟨source, [closer], finish⟩ = ⟨slots, .ok (), ⟨source, [], finish⟩⟩ := by
  simp [close, Cursor.atEnd, ends]

theorem close_sound {slots : List Slot} {closer : Token}
    (bound : ∀ t ∈ closer :: ts, t.isFinish = false)
    (ok : (close slots ⟨source, closer :: ts, finish⟩).outcome = .ok ()) : ts = [] := by
  cases ts with
  | nil => rfl
  | cons t ts =>
    have later : t.isFinish = false := bound t (by simp)
    simp [close, Cursor.atEnd, later, failed] at ok

theorem slots_close (slots : List Slot) (c : Cursor) : (close slots c).slots = slots := by
  unfold close
  dsimp only
  split <;> rfl

theorem slots_prefix (n : Nat) (soFar : List Slot) (c : Cursor) :
    soFar.reverse <+: (slots n soFar c).slots := by
  induction n generalizing soFar c with
  | zero => exact List.prefix_refl _
  | succ n ih =>
    have later (slot : Slot) (c : Cursor) : soFar.reverse <+: (goOn n (slot :: soFar) c).slots := by
      have here : soFar.reverse <+: (slot :: soFar).reverse := by simp
      unfold goOn
      split
      · exact here.trans (ih _ _)
      · exact (slots_close _ _).symm ▸ here
      · exact here
    rw [slots_succ]
    split
    · exact (slots_close _ _).symm ▸ List.prefix_refl _
    · split
      · exact List.prefix_refl _
      · split
        · exact later _ _
        · exact later _ _
        · exact List.prefix_refl _

theorem goOn_slots (n : Nat) (slot : Slot) (soFar : List Slot) (c : Cursor) :
    ∃ later, (goOn n (slot :: soFar) c).slots = soFar.reverse ++ slot :: later := by
  unfold goOn
  split
  · obtain ⟨later, eq⟩ := slots_prefix n (slot :: soFar) (by assumption)
    exact ⟨later, by simp [← eq]⟩
  · exact ⟨[], by simp [slots_close]⟩
  · exact ⟨[], by simp [failed]⟩

theorem goOn_comma {comma : Token} (sign : comma.isOperator "," = true) (n : Nat)
    (soFar : List Slot) (rest : List Token) :
    goOn n soFar ⟨source, comma :: rest, finish⟩ = slots n soFar ⟨source, rest, finish⟩ := by
  simp [goOn, separation, Cursor.atOperator, sign]

theorem goOn_closer {closer : Token} (sign : closer.isOperator ")" = true) (n : Nat)
    (soFar : List Slot) (rest : List Token) :
    goOn n soFar ⟨source, closer :: rest, finish⟩ =
      close soFar.reverse ⟨source, closer :: rest, finish⟩ := by
  simp [goOn, separation, Cursor.atOperator, sign,
    Token.isOperator_ne sign (show ")" ≠ "," by decide)]

theorem goOn_sound (ends : finish.isFinish = true) {n : Nat} {soFar : List Slot}
    (ok : (goOn n soFar ⟨source, ts, finish⟩).outcome = .ok ()) :
    ∃ t rest, ts = t :: rest ∧ (t.isOperator "," = true ∨ t.isOperator ")" = true) := by
  cases ts with
  | nil =>
    simp [goOn, separation, Cursor.atOperator, Cursor.atEnd, ends,
      AttributeReader.isOperator_of_isFinish ends, failed] at ok
  | cons t rest =>
    refine ⟨t, rest, rfl, ?_⟩
    cases comma : t.isOperator "," with
    | true => exact .inl rfl
    | false =>
      cases closer : t.isOperator ")" with
      | true => exact .inr rfl
      | false =>
        cases stop : t.isFinish <;>
          simp [goOn, separation, Cursor.atOperator, Cursor.atEnd, comma, closer, stop,
            failed] at ok

theorem slots_sound (ends : finish.isFinish = true) (bound : ∀ t ∈ ts, t.isFinish = false)
    {n : Nat} {soFar : List Slot} {attributes : List Attribute}
    (ok : (slots n soFar ⟨source, ts, finish⟩).outcome = .ok ())
    (accepted : (slots n soFar ⟨source, ts, finish⟩).slots =
      soFar.reverse ++ attributes.map .accepted) :
    ∃ entries closer, ts = entries ++ [closer] ∧ closer.isOperator ")" = true ∧
      Entries source entries attributes := by
  induction n generalizing ts soFar attributes with
  | zero => cases ok
  | succ n ih =>
    rw [slots_succ] at ok accepted
    split at ok
    case isTrue closes =>
      rw [if_pos closes, slots_close] at accepted
      cases ts with
      | nil => exact absurd closes (by simp [AttributeReader.isOperator_of_isFinish ends])
      | cons closer ts =>
        cases close_sound bound ok
        have none : attributes = [] := by simpa using accepted
        exact ⟨[], closer, rfl, closes, none ▸ .none⟩
    case isFalse open_ =>
      rw [if_neg open_] at accepted
      split at ok
      case isTrue => cases ok
      case isFalse inside =>
        rw [if_neg inside] at accepted
        split at ok
        case h_3 => cases ok
        case h_2 d c' ran =>
          obtain ⟨later, eq⟩ := goOn_slots n (.rejected d) soFar (c'.skipToSeparator (some ")"))
          simp only [ran, eq, List.append_cancel_left_eq] at accepted
          cases attributes <;> cases accepted
        case h_1 a c' ran =>
          obtain ⟨entry, rest, rfl, rfl, derives⟩ := AttributeReader.entry_sound ends ran
          obtain ⟨later, eq⟩ := goOn_slots n (.accepted a) soFar ⟨source, rest, finish⟩
          simp only [ran] at accepted
          rw [eq, List.append_cancel_left_eq] at accepted
          cases attributes with
          | nil => cases accepted
          | cons b others =>
            obtain ⟨⟨⟩, rfl⟩ := List.cons.inj accepted
            have later : (goOn n (.accepted a :: soFar) ⟨source, rest, finish⟩).slots =
                (Slot.accepted a :: soFar).reverse ++ others.map .accepted := by simp [eq]
            obtain ⟨t, rest, rfl, comma | closes⟩ := goOn_sound ends ok
            · rw [goOn_comma comma] at ok later
              have inside : ∀ u ∈ rest, u.isFinish = false := fun u mem =>
                bound u (by simp [mem])
              obtain ⟨entries, closer, rfl, closes, derived⟩ := ih inside ok later
              exact ⟨entry ++ t :: entries, closer, by simp, closes,
                .more derives comma derived⟩
            · rw [goOn_closer closes] at ok later
              rw [slots_close] at later
              have none : others = [] := by simpa using later
              cases close_sound (fun u mem => bound u (List.mem_append_right _ mem)) ok
              exact ⟨entry, t, rfl, closes, none ▸ .last derives⟩

theorem head_isName {a : Attribute} (derives : a.Derives source entry) :
    ∃ t rest, entry = t :: rest ∧ t.isName = true := by
  cases derives with
  | mk directive _ _ _ => cases directive <;> exact ⟨_, _, rfl, ‹_›⟩

theorem Entries.length_le (entries : Entries source ts attributes) :
    attributes.length ≤ ts.length := by
  have some {a : Attribute} {entry : List Token} (derives : a.Derives source entry) :
      0 < entry.length := by
    obtain ⟨t, rest, rfl, _⟩ := head_isName derives
    simp
  induction entries with
  | none => exact Nat.le_refl _
  | last derives => exact some derives
  | more derives _ _ ih =>
    have := some derives
    simp only [List.length_cons, List.length_append]
    omega

theorem slots_entry {a : Attribute} (derives : a.Derives source entry)
    (stops : Stops rest) (n : Nat) (soFar : List Slot) :
    slots (n + 1) soFar ⟨source, entry ++ rest, finish⟩ =
      goOn n (.accepted a :: soFar) ⟨source, rest, finish⟩ := by
  have read := @AttributeReader.entry_complete source finish a entry rest derives stops
  obtain ⟨t, more, rfl, word⟩ := head_isName derives
  have inside : t.isFinish = false := by
    simp only [Token.isName, beq_iff_eq] at word
    simp [Token.isFinish, word]
  rw [slots_succ, read]
  simp [Cursor.atEnd, inside, Token.isOperator_of_isName word]

theorem slots_complete (ends : finish.isFinish = true) {attributes : List Attribute}
    (entries : Entries source ts attributes) {closer : Token}
    (closes : closer.isOperator ")" = true) {n : Nat} (enough : attributes.length < n)
    (soFar : List Slot) :
    slots n soFar ⟨source, ts ++ [closer], finish⟩ =
      ⟨soFar.reverse ++ attributes.map .accepted, .ok (), ⟨source, [], finish⟩⟩ := by
  induction entries generalizing n soFar with
  | none =>
    obtain ⟨n, rfl⟩ := Nat.exists_eq_succ_of_ne_zero (Nat.ne_of_gt enough)
    rw [slots_succ]
    simp [closes, close_last ends]
  | last derives =>
    obtain ⟨n, rfl⟩ := Nat.exists_eq_succ_of_ne_zero (Nat.ne_of_gt (Nat.zero_lt_of_lt enough))
    rw [slots_entry derives (.separator (.inr closes)), goOn_closer closes, close_last ends]
    simp
  | @more entry rest a attributes comma derives sign _ ih =>
    obtain ⟨n, rfl⟩ := Nat.exists_eq_succ_of_ne_zero (Nat.ne_of_gt (Nat.zero_lt_of_lt enough))
    rw [List.append_assoc, List.cons_append, slots_entry derives (.separator (.inl sign)),
      goOn_comma sign, ih (Nat.lt_of_succ_lt_succ enough)]
    simp

theorem read_opener {opener : Token} (opens : opener.isOperator "(" = true) (ts : List Token) :
    read ⟨source, opener :: ts, finish⟩ = slots (ts.length + 1) [] ⟨source, ts, finish⟩ := by
  simp [read, opens]

theorem eq_map_accepted {slots : List Slot} (none : slots.filterMap Slot.rejected? = []) :
    slots = (slots.filterMap Slot.attribute?).map .accepted := by
  induction slots with
  | nil => rfl
  | cons slot slots ih =>
    cases slot with
    | accepted a => exact congrArg (Slot.accepted a :: ·) (ih none)
    | rejected d => cases none

theorem read_iff_derives (ends : finish.isFinish = true) (bound : ∀ t ∈ ts, t.isFinish = false)
    (attributes : List Attribute) :
    (read ⟨source, ts, finish⟩).outcome = .ok () ∧
        (read ⟨source, ts, finish⟩).slots = attributes.map .accepted ↔
      Derives source ts attributes := by
  constructor
  · rintro ⟨ok, accepted⟩
    cases ts with
    | nil => simp [read, AttributeReader.isOperator_of_isFinish ends, failed] at ok
    | cons opener ts =>
      cases opens : opener.isOperator "(" with
      | false => simp [read, opens, failed] at ok
      | true =>
        rw [read_opener opens] at ok accepted
        obtain ⟨entries, closer, rfl, closes, derived⟩ :=
          slots_sound ends (fun t mem => bound t (List.mem_cons_of_mem _ mem)) ok accepted
        exact .mk opens derived closes
  · intro derives
    cases derives with
    | @mk opener closer ts _ opens entries closes =>
      have enough : attributes.length < (ts ++ [closer]).length + 1 := by
        have := entries.length_le
        simp only [List.length_append, List.length_cons, List.length_nil]
        omega
      rw [List.cons_append, read_opener opens, slots_complete ends entries closes enough]
      exact ⟨rfl, rfl⟩

end AttributeList

theorem AttributeList.rejected_accepted (attributes : List Attribute) :
    (attributes.map Slot.accepted).filterMap Slot.rejected? = [] := by
  simp [Slot.rejected?]

theorem AttributeList.attribute_accepted (attributes : List Attribute) :
    (attributes.map Slot.accepted).filterMap Slot.attribute? = attributes := by
  simp [List.filterMap_map, Function.comp_def, Slot.attribute?]

/-- The grammar is accepted, and nothing else: cut into tokens, a text is read to its end with no
fault exactly when its tokens can be derived, and then with the attributes of the derivation. -/
theorem AttributeList.accepts_iff_derives {text : String} {origin : Origin} {tokens : TokenList}
    (cut : TokenList.ofSource text origin = .ok tokens) :
    (((read (.ofTokens tokens)).outcome = .ok () ∧
        (read (.ofTokens tokens)).slots.filterMap Slot.rejected? = []) ↔
      ∃ attributes, Derives tokens.source tokens.tokens attributes) ∧
    ∀ attributes, Derives tokens.source tokens.tokens attributes →
      (read (.ofTokens tokens)).slots.filterMap Slot.attribute? = attributes := by
  have spec : ∀ attributes, (read (.ofTokens tokens)).outcome = .ok () ∧
      (read (.ofTokens tokens)).slots = attributes.map .accepted ↔
        Derives tokens.source tokens.tokens attributes :=
    read_iff_derives (TokenList.isFinish_finish cut) (TokenList.isFinish_of_mem cut)
  refine ⟨⟨fun ⟨ok, faultless⟩ => ⟨_, (spec _).mp ⟨ok, eq_map_accepted faultless⟩⟩, ?_⟩, ?_⟩
  · rintro ⟨attributes, derives⟩
    obtain ⟨ok, accepted⟩ := (spec attributes).mpr derives
    exact ⟨ok, by rw [accepted, rejected_accepted]⟩
  · intro attributes derives
    rw [((spec attributes).mpr derives).2, attribute_accepted]

namespace AttributeList

def sampleText : String := "(a-b=f(c, [d]), ref=r,)"

def sampleTokens : TokenList :=
  (TokenList.ofSource sampleText {}).toOption.getD ⟨[], [], default⟩

theorem sampleTokens_cut : TokenList.ofSource sampleText {} = .ok sampleTokens := by
  have ok : (TokenList.ofSource sampleText {}).isOk = true := by decide +kernel
  unfold sampleTokens
  cases cut : TokenList.ofSource sampleText {} with
  | error e => rw [cut] at ok; cases ok
  | ok tokens => rfl

theorem accepts_iff_derives_sample :
    ∃ attributes, Derives sampleTokens.source sampleTokens.tokens attributes ∧
      attributes.map (fun a => (a.directive.spelling, a.source)) =
        [("a-b", "f(c, [d])"), ("ref", "r")] := by
  have spec := accepts_iff_derives sampleTokens_cut
  have ran : (read (.ofTokens sampleTokens)).outcome.isOk = true ∧
      (read (.ofTokens sampleTokens)).slots.filterMap Slot.rejected? = [] ∧
      ((read (.ofTokens sampleTokens)).slots.filterMap Slot.attribute?).map
          (fun a => (a.directive.spelling, a.source)) =
        [("a-b", "f(c, [d])"), ("ref", "r")] := by decide +kernel
  have ok : (read (.ofTokens sampleTokens)).outcome = .ok () := by
    cases ended : (read (.ofTokens sampleTokens)).outcome with
    | error halt => rw [ended] at ran; cases ran.1
    | ok => rfl
  obtain ⟨attributes, derives⟩ := spec.1.mp ⟨ok, ran.2.1⟩
  exact ⟨attributes, derives, by rw [← spec.2 attributes derives, ran.2.2]⟩

end AttributeList

end AttrBinder
