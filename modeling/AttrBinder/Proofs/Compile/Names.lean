import Mathlib.Data.List.Basic
import Mathlib.Data.List.Nodup
import AttrBinder.Compile.Result

/-!
The names of generated code. A local is the alias, a role and the index of its group; a parameter of a
closure is the alias and a role. No role has an underscore in it, so that the last underscore of a
local stands before its index, and a configuration that is accepted keeps its own names away from the
alias with an underscore behind it. All these names are told apart (`generated_names_apart`). Names in
code are read in normal form, in which they may agree (`wide_underscore_clashes`) unless the normal
forms of the configured names pass the same checks.
-/

namespace AttrBinder

theorem Except.exists_of_bind_eq_ok {ε α β : Type} {m : Except ε α} {f : α → Except ε β} {b : β}
    (eq : m >>= f = .ok b) : ∃ a, m = .ok a ∧ f a = .ok b := by
  cases m with
  | error e => cases eq
  | ok a => exact ⟨a, rfl, eq⟩

namespace Config

/-- Names that are kept apart from each other and from generated names. -/
structure Apart (c : Config) : Prop where
  elementAlias : c.elementName ≠ c.aliasName
  elementFunction : c.elementName ≠ c.functionName
  aliasFunction : c.aliasName ≠ c.functionName
  elementFree : ¬ (stem c.aliasName).toList <+: c.elementName.toList
  functionFree : ¬ (stem c.aliasName).toList <+: c.functionName.toList

/-- What the checks of a configuration ask of its names. -/
structure Named (c : Config) : Prop extends c.Apart where
  element : Text.isIdentifier c.elementName = true
  aliased : Text.isIdentifier c.aliasName = true
  function : Text.isIdentifier c.functionName = true

/-- The configuration with its names as code has them when it is read. -/
def normal (c : Config) : Config :=
  { c with
    elementName := Text.normal c.elementName
    aliasName := Text.normal c.aliasName
    functionName := Text.normal c.functionName }

theorem isIdentifier_of_identifier (found : identifier label d = .ok name) :
    Text.isIdentifier name = true := by
  unfold identifier at found
  split at found
  · split at found
    · cases found
      assumption
    · cases found
  · cases found

theorem not_prefix_of_unreserved {a : String} (free : unreserved a label name = .ok u) :
    ¬ (stem a).toList <+: name.toList := by
  unfold unreserved at free
  split at free
  · cases free
  · next other => rwa [List.isPrefixOf_iff_prefix] at other

theorem named_of_ofOptions (accepted : ofOptions o = .ok c) : c.Named := by
  unfold ofOptions at accepted
  obtain ⟨table, -, accepted⟩ := Except.exists_of_bind_eq_ok accepted
  obtain ⟨kinds, -, accepted⟩ := Except.exists_of_bind_eq_ok accepted
  obtain ⟨element, isElement, accepted⟩ := Except.exists_of_bind_eq_ok accepted
  obtain ⟨aliasName, isAlias, accepted⟩ := Except.exists_of_bind_eq_ok accepted
  obtain ⟨function, isFunction, accepted⟩ := Except.exists_of_bind_eq_ok accepted
  split at accepted
  · cases accepted
  · next distinct =>
    obtain ⟨_, elementFree, accepted⟩ := Except.exists_of_bind_eq_ok accepted
    obtain ⟨_, functionFree, accepted⟩ := Except.exists_of_bind_eq_ok accepted
    cases accepted
    simp only [Bool.or_eq_true, beq_iff_eq, not_or] at distinct
    exact ⟨⟨distinct.1.1, distinct.1.2, distinct.2, not_prefix_of_unreserved elementFree,
      not_prefix_of_unreserved functionFree⟩, isIdentifier_of_identifier isElement,
      isIdentifier_of_identifier isAlias, isIdentifier_of_identifier isFunction⟩

end Config

namespace Lowering

/-- What the locals of a group are for. -/
inductive Role where
  | attr
  | cell
  | bind
  | listen
deriving DecidableEq

def Role.text : Role → String
  | attr => "attr"
  | cell => "cell"
  | bind => "bind"
  | listen => "listen"

/-- What the parameters of closures are for, but for the element that they capture. -/
inductive ParamRole where
  | cell
  | event

def ParamRole.text : ParamRole → String
  | cell => "cell"
  | event => "event"

/-- The names that generated code has. -/
inductive Generated where
  | element
  | aliasName
  | function
  | param (role : ParamRole)
  | inGroup (role : Role) (index : Nat)

def Generated.text (c : Config) : Generated → String
  | element => c.elementName
  | aliasName => c.aliasName
  | function => c.functionName
  | param role => paramName c role.text
  | inGroup role index => localName c role.text index

def Generated.tail? : Generated → Option (List Char)
  | param role => some role.text.toList
  | inGroup role index => some (role.text.toList ++ '_' :: Nat.toDigits 10 index)
  | _ => none

theorem toList_toString_index (index : Nat) :
    (toString (index : Int)).toList = Nat.toDigits 10 index :=
  Nat.toList_repr

theorem Generated.toList_text (c : Config) {n : Generated} (tail : n.tail? = some cs) :
    (n.text c).toList = (Config.stem c.aliasName).toList ++ cs := by
  cases n with
  | element | aliasName | function => cases tail
  | param role =>
    cases tail
    simp [text, paramName, Config.stem]
  | inGroup role index =>
    cases tail
    simp only [text, localName, toList_toString_index, String.toList_append, Config.stem,
      List.append_assoc]
    rfl

theorem Role.text_injective {r s : Role} (eq : r.text.toList = s.text.toList) : r = s := by
  cases r <;> cases s <;> first | rfl | exact absurd eq (by decide)

theorem Role.no_underscore (r : Role) : '_' ∉ r.text.toList := by
  cases r <;> decide

theorem ParamRole.text_injective {r s : ParamRole} (eq : r.text.toList = s.text.toList) :
    r = s := by
  cases r <;> cases s <;> first | rfl | exact absurd eq (by decide)

theorem ParamRole.no_underscore (r : ParamRole) : '_' ∉ r.text.toList := by
  cases r <;> decide

theorem no_underscore_toDigits (n : Nat) : '_' ∉ Nat.toDigits 10 n := fun mem =>
  absurd (Nat.isDigit_of_mem_toDigits (by decide) (by decide) mem) (by decide)

/-- What is behind the stem tells which name it is: a parameter has no further underscore, and a
local has one, between its role and its index. -/
theorem Generated.tail?_injective {m n : Generated} (first : m.tail? = some cs)
    (second : n.tail? = some cs) : m = n := by
  cases m with
  | element | aliasName | function => cases first
  | param r =>
    cases first
    cases n with
    | element | aliasName | function => cases second
    | param s => rw [ParamRole.text_injective (Option.some.inj second)]
    | inGroup s j =>
      refine absurd ?_ r.no_underscore
      rw [← Option.some.inj second]
      simp
  | inGroup r i =>
    cases first
    cases n with
    | element | aliasName | function => cases second
    | param s =>
      refine absurd ?_ s.no_underscore
      rw [Option.some.inj second]
      simp
    | inGroup s j =>
      obtain ⟨roles, -, digits⟩ :=
        (List.append_cons_inj_of_notMem s.no_underscore (no_underscore_toDigits j)).mp
          (Option.some.inj second)
      have index := congrArg (Nat.ofDigitChars 10 · 0) digits
      simp only [Nat.ofDigitChars_toDigits (b := 10) (by decide) (by decide)] at index
      rw [Role.text_injective roles, index]

theorem Generated.text_injective {c : Config} (named : c.Apart) :
    Function.Injective (Generated.text c) := by
  -- A configured name has no stem in front, and a generated one has.
  have apart {m n : Generated} {cs : List Char} (tail : m.tail? = some cs) (other : n.tail? = none) :
      m.text c ≠ n.text c := by
    intro eq
    have stemmed : (Config.stem c.aliasName).toList <+: (n.text c).toList :=
      ⟨cs, by rw [← eq, m.toList_text c tail]⟩
    cases n with
    | element => exact named.elementFree stemmed
    | function => exact named.functionFree stemmed
    | aliasName =>
      have long := stemmed.length_le
      simp only [Config.stem, text, String.toList_append, List.length_append] at long
      exact absurd long (Nat.not_le.mpr (Nat.lt_add_of_pos_right (by decide)))
    | param | inGroup => cases other
  intro m n eq
  cases first : m.tail? with
  | some cs =>
    cases second : n.tail? with
    | none => exact absurd eq (apart first second)
    | some ds =>
      have same := congrArg String.toList eq
      rw [m.toList_text c first, n.toList_text c second] at same
      exact tail?_injective first (List.append_cancel_left same ▸ second)
  | none =>
    cases second : n.tail? with
    | some ds => exact absurd eq.symm (apart second first)
    | none =>
      have h := named.elementAlias
      have h' := named.elementFunction
      have h'' := named.aliasFunction
      cases m <;> cases first <;> cases n <;> cases second <;>
        first | rfl | exact absurd eq (by assumption) | exact absurd eq.symm (by assumption)

theorem isIdentifier_append {s : String} (start : Text.isIdentifier s = true)
    (more : t.toList.all Text.isIdentifierContinue = true) : Text.isIdentifier (s ++ t) = true := by
  unfold Text.isIdentifier at *
  rw [String.toList_append]
  split at start
  · cases start
  · simp_all [List.all_append]

theorem toNat_lt_of_isDigit {d : Char} (digit : d.isDigit = true) : d.toNat < 128 := by
  simp only [Char.isDigit, Bool.and_eq_true, decide_eq_true_eq] at digit
  have := digit.2
  simp only [UInt32.le_iff_toNat_le] at this
  exact Nat.lt_of_le_of_lt this (by decide)

theorem isIdentifierContinue_digit (digit : d.isDigit = true) :
    Text.isIdentifierContinue d = true := by
  simp [Text.isIdentifierContinue, toNat_lt_of_isDigit digit, Text.isAsciiWord, Char.isAlphanum,
    digit]

theorem Generated.isIdentifier_text {c : Config} (named : c.Named) (n : Generated) :
    Text.isIdentifier (n.text c) = true := by
  have stem : Text.isIdentifier (Config.stem c.aliasName) = true :=
    isIdentifier_append named.aliased (by decide)
  cases n with
  | element => exact named.element
  | aliasName => exact named.aliased
  | function => exact named.function
  | param role => exact isIdentifier_append stem (by cases role <;> decide)
  | inGroup role index =>
    have word : role.text.toList.all Text.isIdentifierContinue = true := by
      cases role <;> decide
    refine isIdentifier_append (isIdentifier_append (isIdentifier_append stem word) (by decide)) ?_
    rw [toList_toString_index, List.all_eq_true]
    exact fun d mem => isIdentifierContinue_digit
      (Nat.isDigit_of_mem_toDigits (by decide) (by decide) mem)

/-! ### Names as they are read -/

end Lowering

namespace Text.Normal

variable {ts : List Nat}

theorem decompose_append (plain : ∀ t ∈ ts, t < 128) (ns : List Nat) :
    decompose (ns ++ ts) = decompose ns ++ ts := by
  have whole : ts.flatMap apart = ts := by
    have each : ∀ t ∈ ts, apart t = [t] := fun t mem => if_pos (plain t mem)
    rw [List.flatMap_congr each, List.flatMap_singleton']
  have step (ns : List Nat) : (ns ++ ts).flatMap apart = ns.flatMap apart ++ ts := by
    rw [List.flatMap_append, whole]
  simp only [decompose, Nat.repeat, step]

theorem markClass_plain (plain : t < 128) : markClass t = 0 :=
  if_pos (Nat.lt_trans plain (by decide))

theorem place_append (plain : ∀ t ∈ ts, t < 128) (n : Nat) (ms : List Nat) :
    place n (ms ++ ts) = place n ms ++ ts := by
  induction ms with
  | nil =>
    cases ts with
    | nil => rfl
    | cons t ts => simp [place, markClass_plain (plain t (by simp))]
  | cons m ms ih =>
    simp only [List.cons_append, place, ih]
    split <;> rfl

theorem foldr_place_append (plain : ∀ t ∈ ts, t < 128) (ns : List Nat) :
    (ns ++ ts).foldr place [] = ns.foldr place [] ++ ts := by
  have whole : ∀ ts : List Nat, (∀ t ∈ ts, t < 128) → ts.foldr place [] = ts := by
    intro ts plain
    induction ts with
    | nil => rfl
    | cons t ts ih =>
      have later : ∀ t ∈ ts, t < 128 := fun t mem => plain t (List.mem_cons_of_mem _ mem)
      rw [List.foldr_cons, ih later]
      exact place_append later t []
  rw [List.foldr_append, whole ts plain]
  induction ns with
  | nil => rfl
  | cons n ns ih => rw [List.foldr_cons, ih, place_append plain, List.foldr_cons]

theorem compose_plain (plain : ∀ t ∈ ts, t < 128) (letter : Nat) (kept : List Nat) :
    compose letter kept ts = letter :: kept.reverse ++ ts := by
  induction ts generalizing letter kept with
  | nil => simp [compose]
  | cons t ts ih =>
    have here : t < 128 := plain t (by simp)
    have alone : composed? letter t = none := if_pos (Nat.lt_trans here (by decide))
    simp [compose, alone, markClass_plain here, ih fun t mem => plain t (List.mem_cons_of_mem _ mem)]

theorem compose_append (plain : ∀ t ∈ ts, t < 128) (letter : Nat) (kept ns : List Nat) :
    compose letter kept (ns ++ ts) = compose letter kept ns ++ ts := by
  fun_induction compose letter kept ns with
  | case1 letter kept => simpa using compose_plain plain letter kept
  | case2 letter kept n ns whole found ih => simp only [List.cons_append, compose, found, ih]
  | case3 letter kept n ns found class_ ih =>
    simp only [List.cons_append, compose, found, class_, ih, if_true, List.append_assoc]
  | case4 letter kept n ns found class_ ih =>
    simp only [List.cons_append, compose, found, class_, ih, Bool.false_eq_true, if_false]

end Text.Normal

open Text.Normal in
/-- Plain characters behind a text take no part in its normal form. -/
theorem Text.normal_append (s : String) {t : String} (plain : ∀ c ∈ t.toList, c.toNat < 128) :
    Text.normal (s ++ t) = Text.normal s ++ t := by
  have small : ∀ n ∈ t.toList.map Char.toNat, n < 128 := by simpa using plain
  have same : (t.toList.map Char.toNat).map Char.ofNat = t.toList := by simp [Function.comp_def]
  unfold Text.normal
  rw [String.toList_append, List.all_append, List.map_append, decompose_append small,
    foldr_place_append small, show t.toList.all (·.toNat < 128) = true by simpa using plain,
    Bool.and_true]
  split
  · rfl
  · cases (decompose (s.toList.map Char.toNat)).foldr place [] with
    | nil =>
      rw [List.nil_append, String.empty_append]
      conv_rhs => rw [← String.ofList_toList (s := t), ← same]
      cases eq : t.toList.map Char.toNat with
      | nil => rfl
      | cons n ns =>
        dsimp only
        rw [compose_plain fun m mem => small m (eq ▸ List.mem_cons_of_mem n mem)]
        rfl
    | cons n ns =>
      rw [List.cons_append]
      dsimp only
      rw [compose_append small, List.map_append, same, String.ofList_append, String.ofList_toList]

namespace Lowering

theorem small_of_all {s : String} (all : s.toList.all (·.toNat < 128) = true) :
    ∀ d ∈ s.toList, d.toNat < 128 := fun d mem => by
  simpa using List.all_eq_true.mp all d mem

theorem Generated.normal_text (c : Config) (n : Generated) :
    Text.normal (n.text c) = n.text c.normal := by
  cases n with
  | element | aliasName | function => rfl
  | param role =>
    simp only [text, paramName, String.append_assoc]
    exact Text.normal_append _ (small_of_all (by cases role <;> decide))
  | inGroup role index =>
    simp only [text, localName, String.append_assoc]
    refine Text.normal_append _ fun d mem => ?_
    have word : ∀ d ∈ role.text.toList, d.toNat < 128 := small_of_all (by cases role <;> decide)
    have line : ∀ d ∈ "_".toList, d.toNat < 128 := small_of_all (by decide)
    simp only [String.toList_append, List.mem_append, toList_toString_index] at mem
    rcases mem with mem | mem | mem | mem
    · exact line d mem
    · exact word d mem
    · exact line d mem
    · exact toNat_lt_of_isDigit (Nat.isDigit_of_mem_toDigits (by decide) (by decide) mem)

end Lowering

def Stmt.binds : Stmt → List String
  | define name _ _ => [name]
  | assign target _ => [target]
  | importAs _ _ aliasName => [aliasName]
  | evaluate _ | pass => []

def Stmt.parameters : Stmt → List Param
  | define _ (.mk positional ordinary _ keyword _) _ => positional ++ ordinary ++ keyword
  | _ => []

def Param.label : Param → String
  | .mk name _ => name

namespace Lowering

/-- What a group of an index binds: its own locals, each once; its closures have different
parameters, and one that is called as the element holds the element. -/
structure Tidy (c : Config) (index : Nat) (statements : List Stmt) : Prop where
  locals : ∃ roles : List Role, roles.Nodup ∧
    statements.flatMap Stmt.binds = roles.map fun r => (Generated.inGroup r index).text c
  params : ∀ s ∈ statements, (s.parameters.map Param.label).Nodup
  named : ∀ s ∈ statements, ∀ p ∈ s.parameters, p = .mk c.elementName (some (.name c.elementName)) ∨
    ∃ role : ParamRole, p.label = (Generated.param role).text c

theorem tidy_plain {c : Config} (index : Nat) (name : String) (e : Expr) :
    Tidy c index (plain c index name e) where
  locals := ⟨[.attr], by simp, rfl⟩
  params s mem := by
    rcases List.mem_pair.mp mem with rfl | rfl
    · exact List.nodup_singleton _
    · exact .nil
  named s mem p param := by
    rcases List.mem_pair.mp mem with rfl | rfl
    · exact .inl (List.mem_singleton.mp param)
    · cases param

theorem tidy_binding {c : Config} (named : c.Named) (index : Nat) (property : String)
    (d : PropertyDescriptor) (e : Expr) : Tidy c index (binding c index property d e) where
  locals := ⟨[.cell, .bind, .listen], by decide, rfl⟩
  params s mem := by
    have distinct := Generated.text_injective named.toApart
    have captured : c.elementName ≠ paramName c "cell" :=
      distinct.ne (show Generated.element ≠ .param .cell from nofun)
    have given : paramName c "event" ≠ paramName c "cell" :=
      distinct.ne (show Generated.param .event ≠ .param .cell by simp)
    simp only [binding, List.mem_cons, List.not_mem_nil, or_false] at mem
    rcases mem with rfl | rfl | rfl | rfl | rfl
    · exact .nil
    · exact List.nodup_cons.mpr ⟨by simpa [Param.label] using captured, List.nodup_singleton _⟩
    · exact .nil
    · exact List.nodup_cons.mpr ⟨by simpa [Param.label] using given, List.nodup_singleton _⟩
    · exact .nil
  named s mem p param := by
    simp only [binding, List.mem_cons, List.not_mem_nil, or_false] at mem
    rcases mem with rfl | rfl | rfl | rfl | rfl
    · cases param
    · rcases List.mem_pair.mp param with rfl | rfl
      · exact .inl rfl
      · exact .inr ⟨.cell, rfl⟩
    · cases param
    · rcases List.mem_pair.mp param with rfl | rfl
      · exact .inr ⟨.event, rfl⟩
      · exact .inr ⟨.cell, rfl⟩
    · cases param

theorem tidy_single (c : Config) (index : Nat) (e : Expr) : Tidy c index [.evaluate e] where
  locals := ⟨[], by simp, rfl⟩
  params s mem := by
    cases List.mem_singleton.mp mem
    exact .nil
  named s mem p param := by
    cases List.mem_singleton.mp mem
    cases param

theorem tidy_generate {c : Config} (named : c.Named) {index : Nat}
    (made : (Generator.mk c fun _ => true).generate index d a = .ok statements) :
    Tidy c index statements := by
  unfold Generator.generate at made
  split at made
  · cases made
    exact tidy_plain index _ _
  · cases made
    exact tidy_single c index _
  · split at made
    · cases made
      exact tidy_binding named index _ _ _
    · cases made
  · cases made
    exact tidy_single c index _

theorem tidy_lowerOne {c : Config} (named : c.Named) {index : Nat}
    (lowered : (Compile.lowerOne c index a).lowered? = some l) : Tidy c index l.statements := by
  unfold Compile.lowerOne at lowered
  split at lowered
  · cases lowered
  · split at lowered
    · next made =>
      cases lowered
      exact tidy_generate named made
    · cases lowered
      exact ⟨⟨[], by simp, rfl⟩, nofun, nofun⟩

def bodyFrom (c : Config) (index : Nat) (attributes : List Attribute) : List Stmt :=
  (((attributes.zipIdx index).map fun (a, i) => Compile.lowerOne c i a).filterMap
    Outcome.lowered?).flatMap Lowered.statements

theorem bodyFrom_cons (c : Config) (index : Nat) (a : Attribute) (attributes : List Attribute) :
    bodyFrom c index (a :: attributes) =
      ((Compile.lowerOne c index a).lowered?.map Lowered.statements).getD [] ++
        bodyFrom c (index + 1) attributes := by
  unfold bodyFrom
  rw [List.zipIdx_cons, List.map_cons, List.filterMap_cons]
  cases (Compile.lowerOne c index a).lowered? <;> rfl

theorem exists_binds_bodyFrom {c : Config} (named : c.Named) (index : Nat)
    (attributes : List Attribute) : ∃ names : List (Role × Nat), names.Nodup ∧
      (∀ x ∈ names, index ≤ x.2) ∧ (bodyFrom c index attributes).flatMap Stmt.binds =
        names.map fun x => (Generated.inGroup x.1 x.2).text c := by
  induction attributes generalizing index with
  | nil => exact ⟨[], .nil, nofun, rfl⟩
  | cons a attributes ih =>
    obtain ⟨names, distinct, later, binds⟩ := ih (index + 1)
    rw [bodyFrom_cons, List.flatMap_append, binds]
    cases lowered : (Compile.lowerOne c index a).lowered? with
    | none => exact ⟨names, distinct, fun x mem => Nat.le_of_succ_le (later x mem), rfl⟩
    | some l =>
      obtain ⟨roles, own, here⟩ := (tidy_lowerOne named lowered).locals
      refine ⟨roles.map (·, index) ++ names, List.nodup_append.mpr ⟨?_, distinct, ?_⟩, ?_, ?_⟩
      · exact own.map fun r s eq => congrArg Prod.fst eq
      · -- A name of another group has a later index.
        intro x first y second eq
        obtain ⟨r, -, rfl⟩ := List.mem_map.mp first
        subst eq
        exact Nat.lt_irrefl index (later _ second)
      · intro x mem
        rcases List.mem_append.mp mem with first | second
        · obtain ⟨r, -, rfl⟩ := List.mem_map.mp first
          exact Nat.le_refl index
        · exact Nat.le_of_succ_le (later x second)
      · rw [List.map_append, List.map_map]
        exact congrArg (· ++ _) here

theorem tidy_of_mem_bodyFrom {c : Config} (named : c.Named) {index : Nat}
    {attributes : List Attribute} (mem : s ∈ bodyFrom c index attributes) :
    ∃ (i : Nat) (statements : List Stmt), Tidy c i statements ∧ s ∈ statements := by
  induction attributes generalizing index with
  | nil => cases mem
  | cons a attributes ih =>
    rw [bodyFrom_cons] at mem
    rcases List.mem_append.mp mem with here | later
    · cases lowered : (Compile.lowerOne c index a).lowered? with
      | none =>
        rw [lowered] at here
        cases here
      | some l =>
        rw [lowered] at here
        exact ⟨index, l.statements, tidy_lowerOne named lowered, here⟩
    · exact ih later

end Lowering

open Lowering in
/-- Names that are told apart, as they are read: the element, the alias, the function, the parameters
of closures and the locals of all groups. In the function for any list of attributes nothing that a
group binds, a local or a closure, is called as any of these or as what another group binds; the
parameters of a closure are different; and each of them is one of the two, or the element, which it
then holds. -/
structure Compile.NamesApart (read : String → String) (c : Config) : Prop where
  names : Function.Injective fun n => read (Generated.text c n)
  binds : ∀ attributes : List Attribute,
    (([c.elementName, c.aliasName, c.functionName, paramName c "cell", paramName c "event"] ++
      (bodyFrom c 0 attributes).flatMap Stmt.binds).map read).Nodup
  parameters : ∀ attributes : List Attribute, ∀ s ∈ bodyFrom c 0 attributes,
    (s.parameters.map fun p => read p.label).Nodup ∧ ∀ p ∈ s.parameters,
      p = .mk c.elementName (some (.name c.elementName)) ∨
        p.label = paramName c "cell" ∨ p.label = paramName c "event"

open Lowering in
theorem Compile.namesApart_of_injective {c : Config} (named : c.Named) {read : String → String}
    (injective : Function.Injective fun n => read (Generated.text c n)) : NamesApart read c where
  names := injective
  binds attributes := by
    obtain ⟨names, distinct, -, binds⟩ := exists_binds_bodyFrom named 0 attributes
    let fixedNames : List Generated := [.element, .aliasName, .function, .param .cell, .param .event]
    have all : (fixedNames ++ names.map fun x => Generated.inGroup x.1 x.2).Nodup := by
      refine List.nodup_append.mpr ⟨by simp [fixedNames], distinct.map fun x y eq => ?_, ?_⟩
      · obtain ⟨role, index⟩ := Generated.inGroup.inj eq
        exact Prod.ext role index
      · intro x fixed y own
        obtain ⟨z, -, rfl⟩ := List.mem_map.mp own
        rintro rfl
        simp [fixedNames] at fixed
    have texts := all.map injective
    rw [List.map_append, List.map_map] at texts
    rw [binds, List.map_append, List.map_map]
    exact texts
  parameters attributes s mem := by
    obtain ⟨i, statements, tidy, mem⟩ := tidy_of_mem_bodyFrom named mem
    -- Each parameter is called as one of the names that are told apart.
    have called : ∀ p ∈ s.parameters, ∃ n : Generated, p.label = n.text c := by
      intro p param
      rcases tidy.named s mem p param with rfl | ⟨role, label⟩
      · exact ⟨.element, rfl⟩
      · exact ⟨.param role, label⟩
    refine ⟨?_, fun p param => (tidy.named s mem p param).imp_right ?_⟩
    · change (s.parameters.map (read ∘ Param.label)).Nodup
      rw [← List.map_map]
      refine (tidy.params s mem).map_on fun x first y second eq => ?_
      obtain ⟨p, param, rfl⟩ := List.mem_map.mp first
      obtain ⟨q, param', rfl⟩ := List.mem_map.mp second
      obtain ⟨m, label⟩ := called p param
      obtain ⟨n, label'⟩ := called q param'
      rw [label, label'] at eq ⊢
      rw [injective eq]
    · rintro ⟨role, label⟩
      cases role with
      | cell => exact .inl label
      | event => exact .inr label

open Lowering in
/-- With every configuration that is accepted, generated names are identifiers and are told apart as
they are written. As they are read, they are told apart if the normal forms of the configured names
are kept apart too. -/
theorem Compile.generated_names_apart {o : ConfigOptions} {c : Config}
    (accepted : Config.ofOptions o = .ok c) :
    (∀ n : Generated, Text.isIdentifier (n.text c) = true) ∧ NamesApart id c ∧
    (c.normal.Apart → NamesApart Text.normal c) := by
  have named := Config.named_of_ofOptions accepted
  refine ⟨Generated.isIdentifier_text named,
    namesApart_of_injective named (Generated.text_injective named.toApart), fun apart =>
    namesApart_of_injective named ?_⟩
  simp only [Generated.normal_text]
  exact Generated.text_injective apart

open Lowering in
/-- Names with underscores, digits and the words of roles in them. -/
theorem Compile.generated_names_apart_words :
    ∃ c, Config.ofOptions
        { elementName := .str "a_cell", aliasName := .str "a_cell_0",
          functionName := .str "cell_0" } = .ok c ∧
      NamesApart id c ∧ NamesApart Text.normal c ∧
      (Generated.inGroup .cell 1).text c = "a_cell_0_cell_1" := by
  let options : ConfigOptions :=
    { elementName := .str "a_cell", aliasName := .str "a_cell_0", functionName := .str "cell_0" }
  have name : (Config.ofOptions options).toOption.map (fun c =>
      ((Generated.inGroup .cell 1).text c, c.normal.elementName, c.normal.aliasName,
        c.normal.functionName)) =
      some ("a_cell_0_cell_1", "a_cell", "a_cell_0", "cell_0") := by decide +kernel
  cases made : Config.ofOptions options with
  | error e =>
    rw [made] at name
    cases name
  | ok c =>
    rw [made] at name
    obtain ⟨name, element, aliasName, function⟩ := by simpa using Option.some.inj name
    have apart := generated_names_apart made
    refine ⟨c, rfl, apart.2.1, apart.2.2 ?_, name⟩
    constructor <;> simp only [element, aliasName, function] <;> decide

set_option maxRecDepth 20000 in
/-- An underscore of full width is told apart from a plain one when the configuration is checked, and
not when the code is read: two parameters of one closure have the same name. -/
theorem Compile.wide_underscore_clashes :
    (match Config.ofOptions { elementName := .str "_wb＿cell" } with
      | .ok c =>
        match (Compile.run c "(bind:value=w)").result with
        | .ok r => r.isOk && (r.lowered.flatMap Lowered.statements).any fun s =>
            (s.parameters.map Param.label) == ["_wb＿cell", "_wb_cell"] &&
              (s.parameters.map fun p => Text.normal p.label) == ["_wb_cell", "_wb_cell"]
        | .error _ => false
      | .error _ => false) = true := by
  decide +kernel

end AttrBinder
