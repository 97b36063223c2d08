import AttrBinder.Proofs.Attribute.Grammar
import AttrBinder.Proofs.Source.Places

/-!
The slots that reading meets, with the separators around them, and where complaints stand: at a token
that was taken, or at the one in front of which reading stopped, and so between the separators.
-/

namespace AttrBinder

def Span.SameStart (a b : Span) : Prop :=
  a.line = b.line ∧ a.column = b.column

def Span.Over (ts : List Token) (span : Span) : Prop :=
  ∃ t ∈ ts, ∃ u ∈ ts, span = t.span.through u.span

theorem Span.over_of_mem (mem : t ∈ ts) : Span.Over ts t.span :=
  ⟨t, mem, t, mem, rfl⟩

theorem Span.Over.mono {span : Span} (covers : span.Over ts) (sub : ts ⊆ us) : span.Over us := by
  obtain ⟨t, start, u, stop, eq⟩ := covers
  exact ⟨t, sub start, u, sub stop, eq⟩

theorem Span.Over.sameStart {span : Span} (covers : span.Over ts) :
    ∃ t ∈ ts, span.SameStart t.span := by
  obtain ⟨t, start, u, -, rfl⟩ := covers
  exact ⟨t, start, rfl, rfl⟩

theorem Span.Before.asymm {a b : Span} (before : a.Before b) : ¬b.Before a := by
  unfold Span.Before at *
  omega

namespace AttributeReader

variable {source : List Char} {finish : Token} {ts : List Token} {c : Cursor} {d : Diagnostic}

/-- Reading went on to a cursor, and the complaint is about tokens on the way and the next one. -/
def Blames (source : List Char) (finish : Token) (ts : List Token) (d : Diagnostic) (c : Cursor) :
    Prop :=
  ∃ taken rest, ts = taken ++ rest ∧ c = ⟨source, rest, finish⟩ ∧ d.span.Over (taken ++ [c.peek])

theorem Blames.after (blames : Blames source finish ts d c) (front : List Token) :
    Blames source finish (front ++ ts) d c := by
  obtain ⟨taken, rest, rfl, eq, covers⟩ := blames
  refine ⟨front ++ taken, rest, by simp, eq, covers.mono fun t mem => ?_⟩
  rw [List.append_assoc]
  exact List.mem_append_right front mem

theorem blames_peek (taken : List Token) :
    Blames source finish (taken ++ rest) ⟨x, (⟨source, rest, finish⟩ : Cursor).peek.span⟩
      ⟨source, rest, finish⟩ :=
  ⟨taken, rest, rfl, rfl, Span.over_of_mem (by simp)⟩

theorem moreSegments_blames (ends : finish.isFinish = true)
    (ran : (moreSegments n soFar last).run ⟨source, ts, finish⟩ = (.error (.complaint d), c)) :
    Blames source finish ts d c := by
  induction n generalizing ts soFar last with
  | zero => cases ran
  | succ n ih =>
    rw [run_moreSegments_succ] at ran
    split at ran
    case isFalse => cases ran
    case isTrue dash =>
      cases ts with
      | nil => exact absurd dash (by simp [isOperator_of_isFinish ends])
      | cons hyphen ts =>
        split at ran
        case isFalse =>
          cases ran
          exact ⟨[hyphen], ts, rfl, rfl, hyphen, by simp, _, by simp, rfl⟩
        case isTrue word =>
          cases ts with
          | nil => exact absurd word (by simp [isName_of_isFinish ends])
          | cons name ts => exact (ih ran).after [hyphen, name]

theorem name_blames (ends : finish.isFinish = true)
    (ran : name.run ⟨source, ts, finish⟩ = (.error (.complaint d), c)) :
    Blames source finish ts d c := by
  rw [run_name] at ran
  split at ran
  case isFalse =>
    cases ran
    exact blames_peek []
  case isTrue word =>
    cases ts with
    | nil => exact absurd word (by simp [isName_of_isFinish ends])
    | cons tag ts =>
      split at ran
      case h_1 => cases ran
      case h_2 found =>
        cases ran
        exact (moreSegments_blames ends found).after [tag]

theorem directive_blames (ends : finish.isFinish = true)
    (ran : directive.run ⟨source, ts, finish⟩ = (.error (.complaint d), c)) :
    Blames source finish ts d c := by
  rw [run_directive] at ran
  split at ran
  case h_1 found =>
    cases ran
    exact name_blames ends found
  case h_2 n c' found =>
    obtain ⟨tag, ds, names, rest, rfl, rfl, word, dashes, rfl⟩ := name_sound ends found
    split at ran
    case isTrue => cases ran
    case isFalse =>
      split at ran
      case isFalse => cases ran
      case isTrue sign =>
        cases rest with
        | nil => exact absurd sign (by simp [isOperator_of_isFinish ends])
        | cons colon rest =>
          have split_ : tag :: ds ++ colon :: rest = (tag :: ds ++ [colon]) ++ rest := by simp
          rw [split_]
          split at ran
          case h_1 =>
            cases ran
            exact ⟨_, rest, rfl, rfl, Span.over_of_mem (by simp)⟩
          case h_2 =>
            split at ran
            case isTrue => cases ran
            case isFalse =>
              cases ran
              exact blames_peek _

theorem expression_blames
    (ran : expression.run ⟨source, ts, finish⟩ = (.error (.complaint d), c)) :
    Blames source finish ts d c := by
  rw [run_expression] at ran
  dsimp only at ran
  have whole := Cursor.extent_append [] ts
  split at ran
  case h_1 none =>
    rw [none] at whole
    cases ran
    exact ⟨[], _, whole.symm, rfl, Span.over_of_mem (by simp)⟩
  case h_2 first more taken =>
    rw [taken] at whole
    have here {x : Complaint} : Blames source finish ts
        ⟨x, first.span.through ((first :: more).getLast (by simp)).span⟩
        ⟨source, (Cursor.extent [] ts).rest, finish⟩ :=
      ⟨first :: more, _, whole.symm, rfl, first, by simp, _,
        List.mem_append_left _ (List.getLast_mem _), rfl⟩
    split at ran
    case isFalse =>
      cases ran
      exact here
    case isTrue =>
      split at ran
      case h_1 => cases ran
      case h_3 => cases ran
      case h_2 =>
        cases ran
        exact here

theorem entry_blames (ends : finish.isFinish = true)
    (ran : entry.run ⟨source, ts, finish⟩ = (.error (.complaint d), c)) :
    Blames source finish ts d c := by
  rw [run_entry] at ran
  split at ran
  case h_1 found =>
    cases ran
    exact directive_blames ends found
  case h_2 x c' found =>
    obtain ⟨first, ds, rest, rfl, rfl, -⟩ := directive_sound ends found
    split at ran
    case isFalse =>
      cases ran
      exact blames_peek _
    case isTrue sign =>
      cases rest with
      | nil => exact absurd sign (by simp [isOperator_of_isFinish ends])
      | cons equals rest =>
        have split_ : first :: ds ++ equals :: rest = (first :: ds ++ [equals]) ++ rest := by simp
        split at ran
        case h_2 => cases ran
        case h_1 found =>
          cases ran
          rw [split_]
          exact (expression_blames found).after _

end AttributeReader

theorem Cursor.fromSeparator_suffix (closer : Option String) (depth : List String)
    (ts : List Token) : fromSeparator closer depth ts <:+ ts := by
  induction ts generalizing depth with
  | nil => exact List.suffix_refl _
  | cons t ts ih =>
    rw [fromSeparator.eq_def]
    dsimp only
    repeat' split
    all_goals first
      | exact List.suffix_refl _
      | exact (ih _).trans (List.suffix_cons t ts)

/-- A slot with the separator in front of it and the token that ends it. -/
structure Site where
  opener : Token
  slot : Slot
  closer : Token

/-- The places that a slot can name: the start of its attribute, of its property, or of its
expression, or of the complaint about it. -/
inductive Slot.Names : Slot → Span → Prop
  | whole (a : Attribute) : Names (.accepted a) a.span
  | value (a : Attribute) : Names (.accepted a) a.exprSpan
  | property {a : Attribute} {p : String} {span : Span} (directed : a.directive = .binding p span) :
      Names (.accepted a) span
  | fault (d : Diagnostic) : Names (.rejected d) d.span

namespace AttributeList

open AttributeReader

/-- The next slot, and where reading goes on behind it, unless its expression cannot be read at
all. -/
def slotAt (c : Cursor) : Except Unreadable (Slot × Cursor) :=
  match entry.run c with
  | (.ok a, c') => .ok (.accepted a, c')
  | (.error (.complaint d), c') => .ok (.rejected d, c'.skipToSeparator (some ")"))
  | (.error (.unreadable u), _) => .error u

def sites : Nat → Token → Cursor → List Site
  | 0, _, _ => []
  | n + 1, opener, c =>
    if c.atOperator ")" then []
    else
      match slotAt c with
      | .error _ => []
      | .ok (slot, c') =>
        ⟨opener, slot, c'.peek⟩ ::
          if c'.atOperator "," then sites n c'.peek c'.advance else []

def sitesOf (source : String) (origin : Origin) : List Site :=
  match TokenList.ofSource source origin with
  | .error _ => []
  | .ok tokens =>
    let c := Cursor.ofTokens tokens
    sites (c.advance.ahead.length + 1) c.peek c.advance

variable {source : List Char} {finish : Token} {ts : List Token}

theorem slotAt_names (ends : finish.isFinish = true)
    (found : slotAt ⟨source, ts, finish⟩ = .ok (slot, c)) :
    ∃ taken rest, ts = taken ++ rest ∧ c = ⟨source, rest, finish⟩ ∧
      ∀ span, Slot.Names slot span → span.Over (taken ++ [c.peek]) := by
  unfold slotAt at found
  split at found
  case h_3 => cases found
  case h_1 a c' ran =>
    cases found
    obtain ⟨entry, rest, rfl, rfl, derives⟩ := entry_sound ends ran
    refine ⟨entry, rest, rfl, rfl, fun span names => ?_⟩
    cases derives with
    | @mk first equals start ds more d e directive sign run parsed =>
      have last : more.getLastD start ∈ first :: ds ++ equals :: start :: more :=
        List.mem_append_right _ (List.mem_cons_of_mem equals List.getLastD_mem_cons)
      cases names with
      | whole => exact ⟨first, by simp, _, List.mem_append_left _ last, rfl⟩
      | value => exact ⟨start, by simp, _, List.mem_append_left _ last, rfl⟩
      | property directed =>
        cases directed
        cases directive with
        | @binding _ _ name => exact Span.over_of_mem (by simp)
  case h_2 d c' ran =>
    cases found
    obtain ⟨taken, rest, rfl, rfl, covers⟩ := entry_blames ends ran
    obtain ⟨passed, eq⟩ := Cursor.fromSeparator_suffix (some ")") [] rest
    simp only [Cursor.skipToSeparator]
    generalize Cursor.fromSeparator (some ")") [] rest = later at eq ⊢
    subst eq
    refine ⟨taken ++ passed, later, by simp, rfl, fun span names => ?_⟩
    cases names with
    | fault =>
      refine covers.mono fun t mem => ?_
      rcases List.mem_append.mp mem with mem | mem
      · simp [mem]
      · rw [List.mem_singleton.mp mem]
        cases passed <;> simp

theorem slots_site {n : Nat} {soFar : List Slot} {c : Cursor} (open_ : c.atOperator ")" = false)
    (inside : c.atEnd = false) :
    slots (n + 1) soFar c = match slotAt c with
      | .ok (slot, c') => goOn n (slot :: soFar) c'
      | .error u => ⟨soFar.reverse, .error (.unreadable u), (entry.run c).2⟩ := by
  rw [slots_succ]
  unfold Cursor.atOperator at open_
  simp only [open_, inside, Bool.false_eq_true, if_false, slotAt]
  rcases entry.run c with ⟨(d | u) | a, c'⟩ <;> rfl

/-- Separators and slots in turn. -/
structure Sited (opener : Token) (ts : List Token) (ss : List Site) : Prop where
  openers : ∀ s ∈ ss, s.opener = opener ∨ s.opener.isOperator "," = true ∧ s.opener ∈ ts
  closers : ∀ s ∈ ss, s.closer.isOperator "," = true ∨ s.closer.isOperator ")" = true
  between : ∀ s ∈ ss, ∀ span, s.slot.Names span →
    s.opener.span.Before span ∧ ¬s.closer.span.Before span
  within : ∀ s ∈ ss, ∀ span, s.slot.Names span → span.Over ts
  apart : ss.Pairwise fun s s' => ¬s'.opener.span.Before s.closer.span

theorem Sited.nil (opener : Token) (ts : List Token) : Sited opener ts [] :=
  ⟨by simp, by simp, by simp, by simp, .nil⟩

theorem Sited.cons {opener sep : Token} {taken rest : List Token} {slot : Slot} {ss : List Site}
    (order : (opener :: (taken ++ sep :: rest)).Pairwise fun t u => t.span.Before u.span)
    (sign : sep.isOperator "," = true ∨ sep.isOperator ")" = true ∧ ss = [])
    (names : ∀ span, slot.Names span → span.Over (taken ++ [sep]))
    (later : Sited sep rest ss) :
    Sited opener (taken ++ sep :: rest) (⟨opener, slot, sep⟩ :: ss) := by
  obtain ⟨first, order⟩ := List.pairwise_cons.mp order
  obtain ⟨-, order, across⟩ := List.pairwise_append.mp order
  refine ⟨List.forall_mem_cons.mpr ⟨.inl rfl, fun s mem => .inr ?_⟩,
    List.forall_mem_cons.mpr ⟨sign.imp_right And.left, later.closers⟩,
    List.forall_mem_cons.mpr ⟨fun span named => ?_, later.between⟩,
    List.forall_mem_cons.mpr ⟨fun span named => (names span named).mono (by simp),
      fun s mem span named => (later.within s mem span named).mono (by simp)⟩,
    List.pairwise_cons.mpr ⟨fun s mem => ?_, later.apart⟩⟩
  · rcases later.openers s mem with eq | ⟨comma, mem⟩
    · rcases sign with comma | ⟨-, rfl⟩
      · exact ⟨eq ▸ comma, by simp [eq]⟩
      · cases mem
    · exact ⟨comma, by simp [mem]⟩
  · obtain ⟨t, mem, same⟩ := (names span named).sameStart
    dsimp only
    rcases List.mem_append.mp mem with mem | mem
    · have start := first t (by simp [mem])
      have stop := across t mem sep (by simp)
      unfold Span.SameStart Span.Before at *
      omega
    · have start := first sep (by simp)
      rw [List.mem_singleton.mp mem] at same
      unfold Span.SameStart Span.Before at *
      omega
  · rcases later.openers s mem with eq | ⟨-, mem⟩
    · rw [eq]
      exact fun before => before.asymm before
    · exact ((List.pairwise_cons.mp order).1 _ mem).asymm

theorem slots_sites (ends : finish.isFinish = true)
    (order : (opener :: ts).Pairwise fun t u => t.span.Before u.span)
    (ok : (slots n soFar ⟨source, ts, finish⟩).outcome = .ok ()) :
    (slots n soFar ⟨source, ts, finish⟩).slots =
      soFar.reverse ++ (sites n opener ⟨source, ts, finish⟩).map Site.slot ∧
    Sited opener ts (sites n opener ⟨source, ts, finish⟩) := by
  induction n generalizing opener ts soFar with
  | zero => cases ok
  | succ n ih =>
    rw [sites]
    cases closed : (⟨source, ts, finish⟩ : Cursor).atOperator ")" with
    | true =>
      have step : slots (n + 1) soFar ⟨source, ts, finish⟩ =
          close soFar.reverse ⟨source, ts, finish⟩ := by
        rw [slots_succ]
        exact if_pos closed
      rw [step, slots_close]
      exact ⟨by simp, .nil _ _⟩
    | false =>
      have inside : (⟨source, ts, finish⟩ : Cursor).atEnd = false := by
        refine Bool.eq_false_iff.mpr fun past => ?_
        unfold Cursor.atOperator at closed
        rw [slots_succ, if_neg (by simp [closed]), if_pos past] at ok
        cases ok
      rw [slots_site closed inside] at ok ⊢
      cases found : slotAt ⟨source, ts, finish⟩ with
      | error => rw [found] at ok; cases ok
      | ok next =>
        obtain ⟨slot, c⟩ := next
        rw [found] at ok
        obtain ⟨taken, rest, rfl, rfl, names⟩ := slotAt_names ends found
        dsimp only at ok ⊢
        cases rest with
        | nil =>
          simp [goOn, separation, Cursor.atOperator, isOperator_of_isFinish ends,
            Cursor.atEnd, ends, failed] at ok
        | cons sep rest =>
          simp only [Cursor.atOperator, Cursor.peek_cons, Cursor.advance_cons,
            Bool.false_eq_true, if_false] at names ⊢
          rcases Bool.eq_false_or_eq_true (sep.isOperator ",") with comma | comma
          · rw [goOn_comma comma] at ok ⊢
            have further : (sep :: rest).Pairwise fun t u => t.span.Before u.span :=
              (List.pairwise_append.mp (List.pairwise_cons.mp order).2).2.1
            obtain ⟨eq, sited⟩ := ih further ok
            simp only [comma, if_true]
            exact ⟨by simp [eq], .cons order (.inl comma) names sited⟩
          · rcases Bool.eq_false_or_eq_true (sep.isOperator ")") with close_ | close_
            · rw [goOn_closer close_, slots_close]
              simp only [comma, Bool.false_eq_true, if_false]
              exact ⟨by simp, .cons order (.inr ⟨close_, rfl⟩) names (.nil _ _)⟩
            · simp only [goOn, separation, Cursor.atOperator, Cursor.peek_cons, comma,
                close_, Bool.false_eq_true, if_false] at ok
              cases over_ : (⟨source, sep :: rest, finish⟩ : Cursor).atEnd <;>
                simp [over_, failed] at ok

theorem parse_sites {text : String} {origin : Origin}
    (ok : (parse text origin).outcome = .ok ()) :
    (parse text origin).slots = (sitesOf text origin).map Site.slot ∧
    ∃ tokens opener ts, TokenList.ofSource text origin = .ok tokens ∧
      tokens.tokens = opener :: ts ∧ opener.isOperator "(" = true ∧
      Sited opener ts (sitesOf text origin) := by
  unfold parse sitesOf at *
  cases cut : TokenList.ofSource text origin with
  | error e => rw [cut] at ok; cases ok
  | ok tokens =>
    have order := TokenList.pairwise_before cut
    have ends := TokenList.isFinish_finish cut
    obtain ⟨source, _ | ⟨opener, ts⟩, finish⟩ := tokens
    · simp [cut, read, Cursor.ofTokens, isOperator_of_isFinish ends, failed] at ok
    · simp only [cut, read, Cursor.ofTokens, Cursor.peek_cons, Cursor.advance_cons] at ok ⊢
      rcases Bool.eq_false_or_eq_true (opener.isOperator "(") with opens | opens
      · simp only [opens, if_true] at ok ⊢
        obtain ⟨eq, sited⟩ := slots_sites ends order ok
        exact ⟨eq, _, opener, ts, rfl, rfl, opens, sited⟩
      · simp [opens, failed] at ok

end AttributeList

end AttrBinder
