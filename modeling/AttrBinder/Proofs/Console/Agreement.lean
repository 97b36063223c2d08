import AttrBinder.Proofs.Console.Verbatim

/-!
The two commands agree, whatever library draws for them. Where the texts of the table can be shown and
the generated code can be written, checking an attribute list ends as compiling it does, with the same
diagnostics, and the table shows expressions that are no markup as they were written. The table takes
the texts of its cells as markup, so an expression that holds a closing tag makes the check fail where
compiling succeeds (`check_fails_on_markup`).
-/

namespace AttrBinder.Console

/-! ## The table -/

variable {R : Renderer}

theorem tableLines_eq (read : (rows ls).mapM (List.mapM (shown R)) = .ok texts) :
    tableLines R ls = .ok (if ls.isEmpty then [] else R.table "Attributes" header texts) := by
  unfold tableLines
  split
  · rfl
  · rw [read]
    rfl

theorem exists_of_mapM_ok {α β ε : Type} {f : α → Except ε β} {xs : List α} {ys : List β}
    (all : xs.mapM f = .ok ys) {x : α} (mem : x ∈ xs) : ∃ y ∈ ys, f x = .ok y := by
  induction xs generalizing ys with
  | nil => cases mem
  | cons a xs ih =>
    rw [List.mapM_cons] at all
    cases first : f a with
    | error e => simp [first, bind, Except.bind] at all
    | ok b =>
      cases more : xs.mapM f with
      | error e => simp [first, more, bind, Except.bind] at all
      | ok bs =>
        obtain rfl : b :: bs = ys := by
          simpa [first, more, bind, Except.bind, pure, Except.pure] using all
        rcases List.mem_cons.mp mem with rfl | mem
        · exact ⟨b, List.mem_cons_self, first⟩
        · obtain ⟨y, inside, result⟩ := ih more mem
          exact ⟨y, List.mem_cons_of_mem _ inside, result⟩

/-- The row of an attribute whose expression is shown as it is. -/
theorem shown_row {index : Nat} {l : Lowered} {texts : List String}
    (read : (row index l).mapM (shown R) = .ok texts)
    (same : R.text l.attr.source = .ok l.attr.source) :
    ∃ a b c e, texts = [a, b, c, l.attr.source, e] := by
  have verbatim : shown R l.attr.source = .ok l.attr.source := by
    rw [shown, same]
    rfl
  simp only [row, List.mapM_cons, List.mapM_nil, verbatim] at read
  revert read
  generalize shown R (toString index) = a
  generalize shown R l.form.label = b
  generalize shown R (summary l).1 = c
  generalize shown R (summary l).2 = e
  rcases a with _ | a <;> rcases b with _ | b <;> rcases c with _ | c <;> rcases e with _ | e <;>
    intro read <;> cases read
  exact ⟨a, b, c, e, rfl⟩

theorem table_shows {solid : Char → Prop} (documented : R.Documented solid) {ls : List Lowered}
    {texts : List (List String)} (read : (rows ls).mapM (List.mapM (shown R)) = .ok texts)
    (fits : R.Fits header texts) {l : Lowered} (mem : l ∈ ls)
    (same : R.text l.attr.source = .ok l.attr.source)
    (visible : ∀ c ∈ l.attr.source.toList, c = '\n' ∨ solid c) :
    Shows (R.table "Attributes" header texts) l.attr.source.toList := by
  obtain ⟨i, here⟩ := List.mem_iff_getElem?.mp mem
  have row_mem : row i l ∈ rows ls := List.mem_map.mpr ⟨(l, i), by
    simpa [List.mk_mem_zipIdx_iff_getElem?] using here, rfl⟩
  obtain ⟨cells, cells_mem, cells_eq⟩ := exists_of_mapM_ok read row_mem
  obtain ⟨a, b, c, e, rfl⟩ := shown_row cells_eq same
  exact documented.table _ _ _ fits _ cells_mem rfl _ (by simp) visible

/-! ## The commands -/

/-- What a request compiles to, or the fault that keeps both commands from reporting. -/
def resultOf (files : Table ConfigFile) (input : String) (r : Request) :
    Except Fault CompileResult := do
  let c ← configOf files r
  compile c (if r.source == "-" then input else r.source)

theorem perform_eq (R : Renderer) (files : Table ConfigFile) (input : String) (r : Request) :
    perform R files input r = resultOf files input r >>= fun result => match r.command with
      | .compile => compileReport R r.plain result
      | .check => checkReport R result := by
  unfold perform resultOf
  cases configOf files r <;> rfl

/-- What a command leaves besides its output: the exit code and the diagnostics. -/
def Printed.verdict (p : Printed) : Nat × List String :=
  (p.exitCode, p.err)

theorem checkReport_verdict {r : CompileResult} (drawn : tableLines R r.lowered = .ok table)
    (writable : r.isOk = true → r.isWritable = true)
    (plain : Bool) :
    (checkReport R r).map Printed.verdict = (compileReport R plain r).map Printed.verdict := by
  unfold checkReport compileReport
  rw [drawn]
  cases ok : r.isOk with
  | true =>
    rw [writable ok]
    rfl
  | false => cases errorLines R r.errors <;> rfl

theorem infix_checkReport {r : CompileResult} (drawn : tableLines R r.lowered = .ok table)
    (printed : checkReport R r = .ok p) :
    table <:+: p.out := by
  unfold checkReport at printed
  rw [drawn] at printed
  cases ok : r.isOk with
  | true =>
    simp only [ok] at printed
    cases printed
    exact ⟨[], _, rfl⟩
  | false =>
    simp only [ok] at printed
    cases errors : errorLines R r.errors with
    | error f =>
      rw [errors] at printed
      cases printed
    | ok err =>
      rw [errors] at printed
      cases printed
      exact List.infix_refl table

def request (command : Command) (source : String) : Request :=
  { verbose := false, command := command, source := source, config := none
    origin := {}, plain := true }

end AttrBinder.Console
