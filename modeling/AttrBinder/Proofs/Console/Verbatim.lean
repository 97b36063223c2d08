import Mathlib.Algebra.Order.BigOperators.Group.List
import Mathlib.Algebra.Order.Ring.Nat
import Mathlib.Data.List.Infix
import AttrBinder.Console.Rich

/-!
Texts that a table shows as they are. What a library has to do for it is `Renderer.Documented`, and
Rich does it (`rich_documented`): markup that holds no tag, no escape, no emoji code and no control
character shows itself (`Markup.render_literal`); a cell of characters that each take cells of their
own is neither broken nor cut off in a column that is wide enough for it (`Wrap.wrap_solid`), and in a
table that fits the console every column is (`Grid.widths_fit`).
-/

namespace AttrBinder.Console

/-! ## What is documented -/

/-- A line in a row of a table: between bars, with blanks around it. -/
def Holds (line : List Char) (s : String) : Prop :=
  ∃ left right n,
    s = left ++ ("│" ++ (" " ++ String.ofList line ++ Grid.blanks n ++ " ") ++ "│") ++ right

/-- Rows below each other hold the lines of a text. -/
def Shows (out : List String) (text : List Char) : Prop :=
  ∃ block, block <:+: out ∧ ∀ (j : Nat) line, (Wrap.partsAt (· == '\n') text)[j]? = some line →
    ∃ s, block[j]? = some s ∧ Holds line s

def columns (header : List String) (rows : List (List String)) : List (List String) :=
  header.zipIdx.map fun (h, i) => h :: rows.map fun row => row.getD i ""

namespace Renderer

/-- The width that a column asks for: that of its widest text, with a blank on either side. -/
def asked (R : Renderer) (column : List String) : Nat :=
  column.foldl (fun w c => max w (R.cells c)) 0 + 2

/-- The console has room for a table, with bars between its columns and around them. -/
def Fits (R : Renderer) (header : List String) (rows : List (List String)) : Prop :=
  ((columns header rows).map R.asked).sum + (header.length + 1) ≤ R.width

instance (R : Renderer) (header : List String) (rows : List (List String)) :
    Decidable (R.Fits header rows) :=
  inferInstanceAs (Decidable (_ ≤ _))

/-- A printable character that has no meaning in tags, escapes or emoji codes. -/
def isPlain (c : Char) : Bool :=
  32 ≤ c.toNat && c.toNat < 127 && c != '[' && c != '\\' && c != ':'

/-- What the library is known to do, for characters that take cells of their own wherever they stand:
plain texts are shown as they are, and a table that fits shows the texts of its cells. -/
structure Documented (R : Renderer) (solid : Char → Prop) : Prop where
  plain : ∀ c, isPlain c = true → solid c
  text : ∀ s : String, (∀ c ∈ s.toList, c = '\n' ∨ isPlain c = true) → R.text s = .ok s
  table : ∀ title header rows, R.Fits header rows → ∀ row ∈ rows, row.length = header.length →
    ∀ cell ∈ row, (∀ c ∈ cell.toList, c = '\n' ∨ solid c) →
    Shows (R.table title header rows) cell.toList

end Renderer

/-! ## Markup -/

namespace Emoji

def startsCode : List Char → Bool
  | ':' :: rest =>
    let code := rest.takeWhile fun d => d != ':' && !Text.isBlank d
    match rest.drop code.length with
    | ':' :: _ => shown code != ':' :: code ++ [':']
    | _ => false
  | _ => false

theorem replace_of_forall (free : ∀ t, t <:+ cs → startsCode t = false) : replace cs = cs := by
  fun_induction replace cs with
  | case1 => rfl
  | case2 c rest colon code tail closed ih =>
    obtain rfl : c = ':' := by simpa using colon
    have here := free _ (List.suffix_refl _)
    have same : shown code = ':' :: code ++ [':'] := by
      simpa [startsCode, code, closed] using here
    have parts : code ++ ':' :: tail = rest := by
      rw [← closed]
      exact List.prefix_iff_eq_append.mp (List.takeWhile_prefix _)
    have later : rest.drop (code.length + 1) = tail := by
      rw [← parts]
      simp
    rw [later] at ih ⊢
    rw [same, ih fun t suffix => free t (suffix.trans ⟨':' :: code ++ [':'], by simp [← parts]⟩)]
    simp [← parts]
  | case3 c rest colon code other ih | case4 c rest other ih =>
    rw [ih fun t suffix => free t (suffix.trans (List.suffix_cons _ _))]

end Emoji

namespace Markup

/-- Whether something is in front that is not shown as it stands: a tag, an escape or a code. -/
def startsMarkup (cs : List Char) : Bool :=
  (tagLength? cs).isSome || ['\\', '['].isPrefixOf cs || Emoji.startsCode cs

def isLiteral (cs : List Char) : Bool :=
  cs.tails.all (fun t => !startsMarkup t) && cs.all fun c => !isControl c

theorem pieces_of_forall (free : ∀ t, t <:+ cs → tagLength? t = none) :
    pieces cs = if cs = [] then [] else [.text cs] := by
  fun_induction pieces cs with
  | case1 => rfl
  | case2 c rest slashes n tag | case3 c rest slashes n tag =>
    rw [free _ (List.drop_suffix _ _)] at tag
    cases tag
  | case4 c rest slashes tag ih =>
    rw [ih fun t suffix => free t (suffix.trans (List.suffix_cons _ _))]
    cases rest with
    | nil => rfl
    | cons d rest => rfl

theorem unslash_of_forall {cs : List Char} (free : ∀ t, t <:+ cs → ¬ ['\\', '['] <+: t) :
    unslash cs = cs := by
  fun_induction unslash cs with
  | case1 rest => exact absurd ⟨rest, rfl⟩ (free _ (List.suffix_refl _))
  | case2 c rest other ih =>
    rw [ih fun t suffix => free t (suffix.trans (List.suffix_cons _ _))]
  | case3 => rfl

theorem render_literal {s : String} (literal : isLiteral s.toList = true) : render s = .ok s := by
  simp only [isLiteral, Bool.and_eq_true, List.all_eq_true, List.mem_tails, startsMarkup,
    Bool.not_eq_true', Bool.or_eq_false_iff, Option.isSome_eq_false_iff, Option.isNone_iff_eq_none]
    at literal
  obtain ⟨free, visible⟩ := literal
  have replaced := Emoji.replace_of_forall fun t suffix => (free t suffix).2
  have unslashed : unslash s.toList = s.toList := unslash_of_forall fun t suffix pre => by
    have := (free t suffix).1.2
    simp [List.isPrefixOf_iff_prefix.mpr pre] at this
  have shown : showPieces [] (pieces s.toList) = .ok s.toList := by
    rw [pieces_of_forall fun t suffix => (free t suffix).1.1]
    split
    case isTrue empty => rw [empty]; rfl
    case isFalse => simp [showPieces, unslashed, replaced, bind, Except.bind, pure, Except.pure]
  have kept : s.toList.filter (fun c => !isControl c) = s.toList :=
    List.filter_eq_self.mpr fun c mem => by rw [visible c mem]; rfl
  simp [render, shown, replaced, kept, bind, Except.bind, pure, Except.pure]

end Markup

/-! ## Cells -/

namespace Wrap

/-- A character that takes cells of its own, wherever it stands: no mark on the one before it, no
joiner or selector, no tab and no end of a line. -/
def isSolid (c : Char) : Bool :=
  0 < Text.charCells c && c != '\u200d' && c != '\ufe0f' && c != '\t' && !Text.isLineEnd c

theorem cells_solid (solid : ∀ c ∈ cs, isSolid c = true) :
    Text.cells cs = (cs.map Text.charCells).sum := by
  suffices all : ∀ last, Text.cellsAfter last cs = (cs.map Text.charCells).sum from all none
  intro last
  fun_induction Text.cellsAfter last cs with
  | case1 => rfl
  | case2 | case3 | case4 => simp [isSolid] at solid
  | case5 last c rest _ _ _ ih =>
    rw [ih fun d mem => solid d (List.mem_cons_of_mem _ mem), List.map_cons, List.sum_cons]

theorem length_le_cells (solid : ∀ c ∈ cs, isSolid c = true) : cs.length ≤ Text.cells cs := by
  rw [cells_solid solid, ← List.length_map Text.charCells]
  refine List.length_le_sum_of_one_le _ fun n mem => ?_
  obtain ⟨c, inside, rfl⟩ := List.mem_map.mp mem
  have taken := solid c inside
  simp only [isSolid, Bool.and_eq_true, decide_eq_true_eq] at taken
  exact taken.1.1.1.1

theorem cells_append {cs ds : List Char} (solid : ∀ c ∈ cs, isSolid c = true)
    (solid' : ∀ d ∈ ds, isSolid d = true) :
    Text.cells (cs ++ ds) = Text.cells cs + Text.cells ds := by
  have all : ∀ c ∈ cs ++ ds, isSolid c = true := fun c mem =>
    (List.mem_append.mp mem).elim (solid c) (solid' c)
  rw [cells_solid all, cells_solid solid, cells_solid solid', List.map_append, List.sum_append]

section Parts

variable {p q : Char → Bool} {cs : List Char}

theorem partsAt_of_forall (free : ∀ c ∈ cs, p c = false) : partsAt p cs = [cs] := by
  induction cs with
  | nil => rfl
  | cons c cs ih =>
    simp [partsAt, ih fun d mem => free d (List.mem_cons_of_mem _ mem), free c]

theorem partsAt_congr (same : ∀ c ∈ cs, p c = q c) : partsAt p cs = partsAt q cs := by
  induction cs with
  | nil => rfl
  | cons c cs ih =>
    rw [partsAt, partsAt, ih fun d mem => same d (List.mem_cons_of_mem _ mem), same c (by simp)]

theorem partsAt_ne_nil (cs : List Char) : partsAt p cs ≠ [] := by
  cases cs with
  | nil => simp [partsAt]
  | cons c cs =>
    rw [partsAt]
    split
    case h_1 => split <;> simp
    case h_2 => simp

theorem mem_of_mem_partsAt (mem : part ∈ partsAt p cs) : ∀ c ∈ part, c ∈ cs ∧ p c = false := by
  induction cs generalizing part with
  | nil => simp_all [partsAt]
  | cons c cs ih =>
    rw [partsAt] at mem
    split at mem
    case h_1 first more eq =>
      rw [eq] at ih
      split at mem <;> grind
    case h_2 eq => exact absurd eq (partsAt_ne_nil cs)

end Parts

theorem flatten_stretches (line : List Char) :
    (stretches line).flatten = line ∧ ∀ w ∈ stretches line, w ≠ [] := by
  induction line with
  | nil => simp [stretches]
  | cons c rest ih =>
    rw [stretches]
    split
    case h_1 d w ws eq =>
      rw [eq] at ih
      split <;> simp_all
    case h_2 other =>
      cases eq : stretches rest with
      | nil => simp_all
      | cons w ws =>
        cases w with
        | nil => simp_all
        | cons d w => exact absurd eq (other d w ws)

theorem flatten_words (line : List Char) : words line = [] ∨ (words line).flatten = line := by
  have all := (flatten_stretches line).1
  unfold words
  split
  case h_1 w x ws eq =>
    rw [eq] at all
    right
    split <;> simpa using all
  case h_2 w eq =>
    rw [eq] at all
    split
    · exact .inl rfl
    · exact .inr (by simpa using all)
  case h_3 => exact .inl rfl

theorem foldl_add {width : Nat} {fold : Bool} {ws : List (List Char)} {d : Draft}
    (solid : ∀ w ∈ ws, ∀ c ∈ w, isSolid c = true)
    (fits : d.offset + Text.cells ws.flatten ≤ width) :
    ws.foldl (Draft.add width fold) d =
      { d with line := d.line ++ ws.flatten, offset := d.offset + Text.cells ws.flatten } := by
  induction ws generalizing d with
  | nil => simp [Text.cells, Text.cellsAfter]
  | cons w ws ih =>
    obtain ⟨here, later⟩ := List.forall_mem_cons.mp solid
    have whole : Text.cells (w :: ws).flatten = Text.cells w + Text.cells ws.flatten :=
      cells_append here fun c mem =>
        let ⟨x, inside, mem⟩ := List.mem_flatten.mp mem
        later x inside c mem
    rw [whole] at fits ⊢
    have shorter : Text.cells (Text.trimEnd w) ≤ Text.cells w := by
      obtain ⟨blanks, parts⟩ : Text.trimEnd w <+: w := by
        simpa [Text.trimEnd] using List.reverse_prefix.mpr (List.dropWhile_suffix _ (l := w.reverse))
      rw [← parts] at here ⊢
      rw [cells_append (fun c mem => here c (List.mem_append_left _ mem))
        fun c mem => here c (List.mem_append_right _ mem), parts]
      exact Nat.le_add_right _ _
    have added : d.add width fold w =
        { d with line := d.line ++ w, offset := d.offset + Text.cells w } := by
      rw [Draft.add, if_pos (by omega)]
    rw [List.foldl_cons, added, ih later (by dsimp only; omega)]
    simp [Nat.add_assoc]

theorem wrapLine_solid {width : Nat} {fold : Bool} {line : List Char}
    (solid : ∀ c ∈ line, isSolid c = true) (fits : Text.cells line ≤ width) :
    wrapLine width fold line = [line] := by
  have whole : divide width fold line = [line] := by
    unfold divide
    split
    case h_1 => rfl
    case h_2 ws some =>
      have flat := (flatten_words line).resolve_left some
      have each : ∀ w ∈ words line, ∀ c ∈ w, isSolid c = true := fun w mem c mem' =>
        solid c (flat ▸ List.mem_flatten_of_mem mem mem')
      rw [foldl_add each (by rw [flat]; simpa using fits), flat]
      rfl
  have short : line.length - width = 0 :=
    Nat.sub_eq_zero_of_le ((length_le_cells solid).trans fits)
  simp [wrapLine, whole, trimExcess, truncate, short, fits]

theorem wrap_solid (solid : ∀ c ∈ text, c = '\n' ∨ isSolid c = true)
    (fits : ∀ line ∈ partsAt (· == '\n') text, Text.cells line ≤ width) :
    wrap width text = partsAt (· == '\n') text := by
  have each : ∀ line ∈ partsAt (· == '\n') text,
      wrapLine width false (expandTabs line) = [line] := by
    intro line mem
    have all : ∀ c ∈ line, isSolid c = true := fun c mem' => by
      obtain ⟨inside, other⟩ := mem_of_mem_partsAt mem c mem'
      exact (solid c inside).resolve_left (by simpa using other)
    have tabless : partsAt (· == '\t') line = [line] := partsAt_of_forall fun c mem' => by
      have other := all c mem'
      simp only [isSolid, Bool.and_eq_true, bne_iff_ne] at other
      exact beq_eq_false_iff_ne.mpr other.1.2
    rw [expandTabs, tabless]
    exact wrapLine_solid all (fits line mem)
  rw [wrap, List.flatMap_congr each]
  simp

end Wrap

theorem le_foldl_max {α : Type} {f : α → Nat} {xs : List α} {x : α} (mem : x ∈ xs) (n : Nat) :
    f x ≤ xs.foldl (fun m y => max m (f y)) n := by
  have start : ∀ (xs : List α) n, n ≤ xs.foldl (fun m y => max m (f y)) n := by
    intro xs
    induction xs with
    | nil => exact Nat.le_refl
    | cons y xs ih => exact fun n => (Nat.le_max_left _ _).trans (ih _)
  induction xs generalizing n with
  | nil => cases mem
  | cons y xs ih =>
    rcases List.mem_cons.mp mem with rfl | mem
    · exact (Nat.le_max_right _ _).trans (start xs _)
    · exact ih mem _

theorem Wrap.le_natural {text : List Char} (solid : ∀ c ∈ text, c = '\n' ∨ isSolid c = true) :
    ∀ line ∈ partsAt (· == '\n') text, Text.cells line ≤ natural text := by
  have ends : ∀ c ∈ text, Text.isLineEnd c = (c == '\n') := by
    intro c mem
    rcases solid c mem with rfl | solid
    · decide
    · simp only [isSolid, Bool.and_eq_true, Bool.not_eq_true'] at solid
      rw [solid.2, eq_comm, beq_eq_false_iff_ne]
      rintro rfl
      exact nomatch solid.2
  intro line mem
  rw [← partsAt_congr ends] at mem
  exact le_foldl_max mem 0

namespace Grid

/-- The width that a column gets if there is room for all of them. -/
def asked (column : List String) : Nat :=
  column.foldl (fun w c => max w (Wrap.natural c.toList)) 0 + padding

theorem widths_fit {columns : List (List String)}
    (fits : sum (columns.map asked) ≤ console - (columns.length + 1)) :
    widths console columns = columns.map asked := by
  have each : columns.map (columnWidth (console - (columns.length + 1))) = columns.map asked := by
    refine List.map_congr_left fun column mem => Nat.min_eq_right (Nat.le_trans ?_ fits)
    rw [sum, ← List.sum_eq_foldl_nat]
    exact List.le_sum_of_mem (List.mem_map_of_mem mem)
  rw [widths, each, if_neg (Nat.not_lt.mpr fits)]

theorem exists_between_bars {part : String} {parts : List String} (bar : String) (mem : part ∈ parts) :
    ∃ left right,
      bar ++ bar.intercalate parts ++ bar = left ++ (bar ++ part ++ bar) ++ right := by
  induction parts with
  | nil => cases mem
  | cons first parts ih =>
    rcases List.mem_cons.mp mem with rfl | mem
    · cases parts with
      | nil => exact ⟨"", "", by simp⟩
      | cons second parts =>
        refine ⟨"", bar.intercalate (second :: parts) ++ bar, ?_⟩
        simp only [String.intercalate_cons_cons, String.empty_append, String.append_assoc]
    · obtain ⟨left, right, eq⟩ := ih mem
      refine ⟨bar ++ first ++ left, right, ?_⟩
      rw [String.intercalate_cons_of_ne_nil (List.ne_nil_of_mem mem)]
      simp only [String.append_assoc] at eq ⊢
      rw [eq]

theorem rowLines_holds {row : List String} {ws : List Nat} {cell : String} {w : Nat}
    (mem : (cell, w) ∈ row.zip ws) {lines : List (List Char)}
    (wrapped : Wrap.wrap (w - padding) cell.toList = lines) {j : Nat} {line : List Char}
    (here : lines[j]? = some line) :
    ∃ s, (rowLines "│" ws row)[j]? = some s ∧ Holds line s := by
  let texts := (row.zip ws).map fun (c, w) => (w - padding, Wrap.wrap (w - padding) c.toList)
  let part (t : Nat × List (List Char)) := " " ++ fit t.1 (t.2.getD j []) ++ " "
  have text : (w - padding, lines) ∈ texts := wrapped ▸ List.mem_map.mpr ⟨(cell, w), mem, rfl⟩
  have tall : j < texts.foldl (fun n t => max n t.2.length) 1 :=
    Nat.lt_of_lt_of_le (List.getElem?_eq_some_iff.mp here).1
      (le_foldl_max (f := fun t => t.2.length) text 1)
  have drawn : (rowLines "│" ws row)[j]? =
      some ("│" ++ "│".intercalate (texts.map part) ++ "│") := by
    rw [rowLines, List.getElem?_map, List.getElem?_range tall, Option.map_some]
  obtain ⟨left, right, eq⟩ := exists_between_bars "│" (List.mem_map_of_mem (f := part) text)
  refine ⟨_, drawn, left, right, w - padding - Text.cells line, ?_⟩
  rw [eq]
  simp [part, fit, here, String.append_assoc]

theorem infix_lines {row : List String} {rows : List (List String)} (mem : row ∈ rows)
    (console : Nat) (title : String) (header : List String) :
    rowLines "│" (widths console (columns header rows)) row <:+: lines console title header rows := by
  have inside : rowLines "│" (widths console (columns header rows)) row <:+:
      rows.flatMap (rowLines "│" (widths console (columns header rows))) := by
    obtain ⟨before, after, eq⟩ := List.append_of_mem mem
    rw [eq, List.flatMap_append, List.flatMap_cons, ← List.append_assoc]
    exact ⟨_, _, rfl⟩
  refine inside.trans ?_
  change _ <:+: _ ++ _ ++ _ ++ rows.flatMap (rowLines "│" (widths console (columns header rows))) ++ _
  exact ⟨_, _, rfl⟩

end Grid

/-! ## Rich -/

theorem isSolid_of_isPlain {c : Char} (plain : Renderer.isPlain c = true) :
    Wrap.isSolid c = true := by
  have all : ∀ n < 127, 32 ≤ n → Wrap.isSolid (Char.ofNat n) = true := by decide +kernel
  simp only [Renderer.isPlain, Bool.and_eq_true, decide_eq_true_eq] at plain
  have here := all c.toNat plain.1.1.1.2 plain.1.1.1.1
  rwa [Char.ofNat_toNat] at here

theorem Markup.isLiteral_of_isPlain {cs : List Char}
    (plain : ∀ c ∈ cs, c = '\n' ∨ Renderer.isPlain c = true) : isLiteral cs = true := by
  have each : ∀ c ∈ cs, c ≠ '[' ∧ c ≠ '\\' ∧ c ≠ ':' ∧ isControl c = false := by
    intro c mem
    rcases plain c mem with rfl | plain
    · decide
    · simp only [Renderer.isPlain, Bool.and_eq_true, decide_eq_true_eq, bne_iff_ne] at plain
      refine ⟨plain.1.1.2, plain.1.2, plain.2, ?_⟩
      have printed := plain.1.1.1.1
      simp only [isControl, Bool.or_eq_false_iff, beq_eq_false_iff_ne]
      refine ⟨⟨⟨⟨?_, ?_⟩, ?_⟩, ?_⟩, ?_⟩ <;> rintro rfl <;> exact absurd printed (by decide)
  simp only [isLiteral, Bool.and_eq_true, List.all_eq_true, List.mem_tails, Bool.not_eq_true']
  refine ⟨fun t suffix => ?_, fun c mem => (each c mem).2.2.2⟩
  cases t with
  | nil => rfl
  | cons c t =>
    obtain ⟨bracket, slash, colon, -⟩ := each c (suffix.subset (by simp))
    have untagged : tagLength? (c :: t) = none := by
      unfold tagLength?
      split
      next eq => exact absurd (List.cons.inj eq).1 bracket
      next => rfl
    have uncoded : Emoji.startsCode (c :: t) = false := by
      unfold Emoji.startsCode
      split
      next eq => exact absurd (List.cons.inj eq).1 colon
      next => rfl
    simp [startsMarkup, untagged, uncoded, List.isPrefixOf, slash.symm]

/-- Rich does what is documented, on a console of any width. -/
theorem rich_documented (width : Nat) :
    (rich width).Documented fun c => Wrap.isSolid c = true where
  plain c plain := isSolid_of_isPlain plain
  text s plain := by
    change (Markup.render s).mapError _ = _
    rw [Markup.render_literal (Markup.isLiteral_of_isPlain plain)]
    rfl
  table title header rows fits row mem long cell inside solid := by
    have room : Grid.widths width (columns header rows) = (columns header rows).map Grid.asked := by
      refine Grid.widths_fit ?_
      have whole : ((columns header rows).map Grid.asked).sum + (header.length + 1) ≤ width := fits
      have count : (columns header rows).length = header.length := by simp [columns]
      rw [Grid.sum, ← List.sum_eq_foldl_nat, count]
      omega
    -- The column of the cell has room for its widest line, so no line of it is broken.
    obtain ⟨k, here⟩ := List.mem_iff_getElem?.mp inside
    obtain ⟨h, above⟩ : ∃ h, header[k]? = some h :=
      ⟨_, List.getElem?_eq_getElem (long ▸ (List.getElem?_eq_some_iff.mp here).1)⟩
    let column := h :: rows.map fun row => row.getD k ""
    have column_at : (columns header rows)[k]? = some column := by
      simp [columns, column, above]
    have wide : Wrap.natural cell.toList ≤ Grid.asked column - Grid.padding := by
      have listed : cell ∈ column :=
        List.mem_cons_of_mem _ (List.mem_map.mpr ⟨row, mem, by simp [here]⟩)
      exact le_foldl_max (f := fun c : String => Wrap.natural c.toList) listed 0
    have wrapped := Wrap.wrap_solid solid fun line mem =>
      (Wrap.le_natural solid line mem).trans wide
    have zipped : (cell, Grid.asked column) ∈
        row.zip (Grid.widths width (columns header rows)) := by
      refine List.mem_iff_getElem?.mpr ⟨k, ?_⟩
      rw [room, List.getElem?_zip_eq_some]
      exact ⟨here, by simp [column_at]⟩
    exact ⟨_, Grid.infix_lines mem width title header, fun j line at_ =>
      Grid.rowLines_holds zipped wrapped at_⟩

end AttrBinder.Console
