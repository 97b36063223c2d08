import AttrBinder.Attribute.Parser

/-!
What each reader of attributes does on a cursor, as one equation.
-/

namespace AttrBinder

namespace Cursor

@[simp] theorem peek_cons (source : List Char) (t : Token) (ts : List Token) (finish : Token) :
    (⟨source, t :: ts, finish⟩ : Cursor).peek = t := rfl

@[simp] theorem peek_nil (source : List Char) (finish : Token) :
    (⟨source, [], finish⟩ : Cursor).peek = finish := rfl

@[simp] theorem advance_cons (source : List Char) (t : Token) (ts : List Token)
    (finish : Token) : (⟨source, t :: ts, finish⟩ : Cursor).advance = ⟨source, ts, finish⟩ := rfl

@[simp] theorem advance_nil (source : List Char) (finish : Token) :
    (⟨source, [], finish⟩ : Cursor).advance = ⟨source, [], finish⟩ := rfl

end Cursor

namespace AttributeReader

variable {α β : Type}

theorem run_bind (x : AttributeReader α) (f : α → AttributeReader β) (c : Cursor) :
    (x >>= f).run c = match x.run c with
      | (.ok a, c') => (f a).run c'
      | (.error e, c') => (.error e, c') := by
  have step : (x >>= f).run c = match x.run c with
      | (r, c') => ExceptT.bindCont f r c' := rfl
  rw [step]
  rcases x.run c with ⟨_ | a, c'⟩ <;> rfl

theorem run_pure (a : α) (c : Cursor) : (pure a : AttributeReader α).run c = (.ok a, c) := rfl

theorem run_get (c : Cursor) : (get : AttributeReader Cursor).run c = (.ok c, c) := rfl

theorem run_set (c d : Cursor) : (set d : AttributeReader PUnit).run c = (.ok (), d) := rfl

theorem run_peek (c : Cursor) : peek.run c = (.ok c.peek, c) := rfl

theorem run_advance (c : Cursor) : advance.run c = (.ok (), c.advance) := rfl

theorem run_complain (x : Complaint) (span : Span) (c : Cursor) :
    (complain x span : AttributeReader α).run c = (.error (.complaint ⟨x, span⟩), c) := rfl

theorem run_ite (p : Prop) [Decidable p] (x y : AttributeReader α) (c : Cursor) :
    (if p then x else y).run c = if p then x.run c else y.run c := by
  split <;> rfl

theorem run_moreSegments_succ (n : Nat) (soFar : List String) (last : Token) (c : Cursor) :
    (moreSegments (n + 1) soFar last).run c =
      if c.peek.isOperator "-" then
        if c.advance.peek.isName then
          (moreSegments n (c.advance.peek.text :: soFar) c.advance.peek).run c.advance.advance
        else
          (.error (.complaint ⟨.expectedSegment soFar.reverse c.advance.peek.describe,
            c.peek.span.through c.advance.peek.span⟩), c.advance)
      else (.ok (soFar, last), c) := by
  simp only [moreSegments, run_bind, run_peek, run_ite, run_advance, run_pure, run_complain]

theorem run_name (c : Cursor) :
    name.run c =
      if c.peek.isName then
        match (moreSegments c.advance.ahead.length [c.peek.text] c.peek).run c.advance with
        | (.ok (segments, last), c') =>
          (.ok ⟨c.peek.text, segments.reverse.drop 1, c.peek.span.through last.span,
            c.peek.span⟩, c')
        | (.error e, c') => (.error e, c')
      else (.error (.complaint ⟨.expectedName c.peek.describe, c.peek.span⟩), c) := by
  simp only [name, run_bind, run_peek, run_ite, run_advance, run_pure, run_complain, run_get]
  rcases (moreSegments c.advance.ahead.length [c.peek.text] c.peek).run c.advance with
    ⟨_ | ⟨segments, last⟩, c'⟩ <;> rfl

def qualified : Qualified → Token → Directive
  | .event, t => .event t.text t.span
  | .binding, t => .binding t.text t.span

theorem run_directive (c : Cursor) :
    directive.run c = match name.run c with
      | (.error e, c') => (.error e, c')
      | (.ok n, c') =>
        if n.text == "ref" then (.ok (.ref n.span), c')
        else if c'.peek.isOperator ":" then
          match Qualified.ofWord? n.text with
          | none => (.error (.complaint ⟨.unknownDirective n.text, n.tagSpan⟩), c'.advance)
          | some q =>
            if c'.advance.peek.isName then
              (.ok (qualified q c'.advance.peek), c'.advance.advance)
            else
              (.error (.complaint ⟨.expectedQualifier q c'.advance.peek.describe,
                c'.advance.peek.span⟩), c'.advance)
        else (.ok (.plain n), c') := by
  simp only [directive, run_bind, run_ite, run_advance, run_pure, run_get]
  rcases name.run c with ⟨_ | n, c'⟩
  · rfl
  · dsimp only [Cursor.atOperator]
    cases Qualified.ofWord? n.text with
    | none => rfl
    | some q =>
      simp only [run_bind, run_peek, run_ite, run_advance, run_complain]
      cases q <;> rfl

theorem run_expression (c : Cursor) :
    expression.run c =
      let e := Cursor.extent [] c.ahead
      let after : Cursor := { c with ahead := e.rest }
      match e.tokens with
      | [] =>
        (.error (.complaint ⟨.expectedExpression after.peek.describe, after.peek.span⟩), after)
      | first :: more =>
        let last := (first :: more).getLast (by simp)
        let text := c.textBetween first last
        let span := first.span.through last.span
        if e.depth.isEmpty then
          match Expr.parse text with
          | .ok x => (.ok ⟨x, String.ofList text, span⟩, after)
          | .error .invalid =>
            (.error (.complaint ⟨.invalidExpression (String.ofList text), span⟩), after)
          | .error (.unreadable u) => (.error (.unreadable u), after)
        else (.error (.complaint ⟨.unbalancedBrackets, span⟩), after) := by
  simp only [expression, run_bind, run_get, run_set]
  cases (Cursor.extent [] c.ahead).tokens with
  | nil => rfl
  | cons first more =>
    simp only [run_ite]
    rcases Expr.parse (c.textBetween first ((first :: more).getLast (by simp))) with
      (_ | _) | x <;> rfl

theorem run_entry (c : Cursor) :
    entry.run c = match directive.run c with
      | (.error e, c') => (.error e, c')
      | (.ok d, c') =>
        if c'.peek.isOperator "=" then
          match expression.run c'.advance with
          | (.error e, c'') => (.error e, c'')
          | (.ok e, c'') =>
            (.ok ⟨d, e.expr, e.source, c.peek.span.through e.span, e.span⟩, c'')
        else
          (.error (.complaint ⟨.expectedEquals d.spelling c'.peek.describe, c'.peek.span⟩), c') := by
  simp only [entry, run_bind, run_peek, run_ite, run_advance, run_pure, run_complain]
  rcases directive.run c with ⟨_ | d, c'⟩
  · rfl
  · dsimp only
    rcases expression.run c'.advance with ⟨_ | n, c''⟩ <;> rfl

end AttributeReader

namespace AttributeList

def goOn (n : Nat) (soFar : List Slot) (c : Cursor) : ListReading :=
  match separation c with
  | .more c => slots n soFar c
  | .closing => close soFar.reverse c
  | .fault x span => failed soFar.reverse x span c

theorem slots_succ (n : Nat) (soFar : List Slot) (c : Cursor) :
    slots (n + 1) soFar c =
      if c.peek.isOperator ")" then close soFar.reverse c
      else if c.atEnd then failed soFar.reverse .unclosedList c.peek.span c
      else
        match AttributeReader.entry.run c with
        | (.ok a, c') => goOn n (.accepted a :: soFar) c'
        | (.error (.complaint d), c') =>
          goOn n (.rejected d :: soFar) (c'.skipToSeparator (some ")"))
        | (.error (.unreadable u), c') => ⟨soFar.reverse, .error (.unreadable u), c'⟩ := rfl

theorem separation_cases (c : Cursor) :
    (c.atOperator "," = true ∧ separation c = .more c.advance) ∨
      (c.atOperator ")" = true ∧ separation c = .closing) ∨
      ∃ x span, separation c = .fault x span ∧
        (x = .unclosedList ∨ x = .expectedSeparator c.peek.describe) := by
  unfold separation
  split
  next comma => exact .inl ⟨comma, rfl⟩
  · split
    next closer => exact .inr (.inl ⟨closer, rfl⟩)
    · split
      · exact .inr (.inr ⟨_, _, rfl, .inl rfl⟩)
      · exact .inr (.inr ⟨_, _, rfl, .inr rfl⟩)

/-! ## The expressions of what is accepted -/

theorem exists_parse_of_entry (ran : AttributeReader.entry.run c = (.ok a, c')) :
    ∃ text, Expr.parse text = .ok a.expr := by
  rw [AttributeReader.run_entry] at ran
  split at ran
  case h_1 => cases ran
  case h_2 =>
    split at ran
    case isFalse => cases ran
    case isTrue =>
      split at ran
      case h_1 => cases ran
      case h_2 p c'' read =>
        cases ran
        rw [AttributeReader.run_expression] at read
        dsimp only at read
        split at read
        case h_1 => cases read
        case h_2 =>
          split at read
          case isFalse => cases read
          case isTrue =>
            split at read
            case h_2 | h_3 => cases read
            case h_1 parsed =>
              cases read
              exact ⟨_, parsed⟩

theorem mem_close (mem : slot ∈ (close soFar c).slots) : slot ∈ soFar := by
  unfold close at mem
  dsimp only at mem
  split at mem <;> exact mem

theorem exists_parse_of_slots (earlier : ∀ a, .accepted a ∈ soFar → ∃ text, Expr.parse text = .ok a.expr)
    (mem : .accepted a ∈ (slots n soFar c).slots) : ∃ text, Expr.parse text = .ok a.expr := by
  induction n generalizing soFar c with
  | zero => exact earlier a (List.mem_reverse.mp mem)
  | succ n ih =>
    have next {slot : Slot} {c' : Cursor}
        (own : ∀ a, slot = .accepted a → ∃ text, Expr.parse text = .ok a.expr)
        (mem : .accepted a ∈ (goOn n (slot :: soFar) c').slots) :
        ∃ text, Expr.parse text = .ok a.expr := by
      have all : ∀ b, .accepted b ∈ slot :: soFar → ∃ text, Expr.parse text = .ok b.expr := by
        intro b mem
        rcases List.mem_cons.mp mem with eq | mem
        · exact own b eq.symm
        · exact earlier b mem
      unfold goOn at mem
      split at mem
      · exact ih all mem
      · exact all a (List.mem_reverse.mp (mem_close mem))
      · exact all a (List.mem_reverse.mp mem)
    rw [slots_succ] at mem
    split at mem
    · exact earlier a (List.mem_reverse.mp (mem_close mem))
    split at mem
    · exact earlier a (List.mem_reverse.mp mem)
    split at mem
    · next b c' ran => exact next (fun _ eq => by cases eq; exact exists_parse_of_entry ran) mem
    · exact next (fun _ eq => by cases eq) mem
    · exact earlier a (List.mem_reverse.mp mem)

/-- Every attribute that is accepted has the expression of some text. -/
theorem exists_parse_of_accepted (mem : .accepted a ∈ (parse source origin).slots) :
    ∃ text, Expr.parse text = .ok a.expr := by
  unfold parse at mem
  split at mem
  · cases mem
  · unfold read at mem
    dsimp only at mem
    split at mem
    · exact exists_parse_of_slots (by simp) mem
    · cases mem

end AttributeList

/-- What stands alone is no starred expression. -/
theorem Expr.not_starred_of_parse {cs : List Char} (parsed : Expr.parse cs = .ok e) (x : Expr) :
    e ≠ .starred x := by
  rintro rfl
  unfold Expr.parse at parsed
  split at parsed
  · cases parsed
  dsimp only at parsed
  split at parsed
  · cases parsed
  split at parsed
  · next rest ran =>
      cases parsed
      simp only [Grammar.whole, StateT.run_bind, Option.bind_eq_bind, Option.bind_eq_some_iff] at ran
      obtain ⟨⟨e, ls⟩, -, ⟨_, _⟩, -, ⟨_, _⟩, demanded, returned⟩ := ran
      cases returned
      cases demanded
  · cases parsed

end AttrBinder
