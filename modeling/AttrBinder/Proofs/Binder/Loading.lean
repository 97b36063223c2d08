import AttrBinder.Proofs.Binder.Attach
import AttrBinder.Proofs.Compile.Names
import AttrBinder.Proofs.Compile.Slots
import AttrBinder.Binder.Loader

/-!
What a loader does with a list. The text that is generated for it is registered and read back as a
module, which is kept; for every scope the module is run anew, and if it is what was generated, the
function that it defines is the binder (`HasBinder`). Each of these steps is given here with the
world it leads to, and with the failures that it has.
-/

namespace AttrBinder

theorem Config.distinct_of_ofOptions {o : ConfigOptions} {c : Config}
    (accepted : Config.ofOptions o = .ok c) : c.Distinct :=
  have named := Config.named_of_ofOptions accepted
  ⟨named.elementAlias, named.aliasFunction.symm, named.elementFree⟩

theorem Compile.eq_result (compiled : (Compile.run c source).result = .ok r) :
    r = Compile.result c (AttributeList.parse source c.origin).slots := by
  cases outcome : (AttributeList.parse source c.origin).outcome with
  | error halt => simp [Compile.run, outcome] at compiled
  | ok _ =>
    simp only [Compile.run, outcome, Except.ok.injEq] at compiled
    exact compiled.symm

theorem Compile.module_eq (compiled : (Compile.run c source).result = .ok r) :
    r.module = some ((Generator.mk c fun _ => true).module r.lowered) :=
  eq_result compiled ▸ rfl

/-- Attributes have the statements that are generated for them, with what their properties resolve
to. -/
def Compile.Generated (c : Config) (lowered : List Lowered) : Prop :=
  ∀ l ∈ lowered, ∃ (index : Int) (d : Option PropertyDescriptor),
    (Generator.mk c fun _ => true).resolve l.attr = .ok d ∧
      (Generator.mk c fun _ => true).generate index d l.attr = .ok l.statements

theorem Compile.generated (compiled : (Compile.run c source).result = .ok r) :
    Generated c r.lowered := by
  intro l mem
  rw [eq_result compiled, result_lowered, loweredFrom] at mem
  obtain ⟨⟨a, i⟩, -, made⟩ := List.mem_filterMap.mp mem
  simp only [lowerOne] at made
  cases resolved : (Generator.mk c fun _ => true).resolve a with
  | error d =>
    simp only [resolved] at made
    cases made
  | ok d =>
    obtain ⟨statements, eq⟩ := exists_generate resolved (i : Int)
    simp only [resolved, eq] at made
    cases made
    exact ⟨i, d, resolved, eq⟩

theorem Compile.mem_of_lowered (mem : l ∈ (Compile.result c slots).lowered) :
    .accepted l.attr ∈ slots := by
  rw [result_lowered, loweredFrom] at mem
  obtain ⟨⟨a, i⟩, there, made⟩ := List.mem_filterMap.mp mem
  have attr : l.attr = a := by
    simp only [lowerOne] at made
    split at made
    · cases made
    · split at made <;> cases made <;> rfl
  obtain ⟨slot, mem, eq⟩ := List.mem_filterMap.mp (List.fst_mem_of_mem_zipIdx there)
  cases slot with
  | rejected d => cases eq
  | accepted b =>
    cases eq
    exact attr ▸ mem

theorem Compile.not_starred (compiled : (Compile.run c source).result = .ok r) (mem : l ∈ r.lowered)
    (x : Expr) : l.attr.expr ≠ .starred x := by
  rw [eq_result compiled] at mem
  obtain ⟨text, parsed⟩ := AttributeList.exists_parse_of_accepted (mem_of_lowered mem)
  exact Expr.not_starred_of_parse parsed x

namespace Page

open Reactive (Steps Run)

/-- A list is compiled without errors, to code that can be written, and a file name can be made of
it. -/
structure Generates (c : Config) (source : String) (r : CompileResult) : Prop where
  compiled : (Compile.run c source).result = .ok r
  ok : r.isOk = true
  writable : r.isWritable = true
  whole : source.toList.any Text.isHalf = false

theorem Generates.unique (made : Generates c source r) (made' : Generates c source r') : r = r' :=
  Except.ok.inj (made.compiled.symm.trans made'.compiled)

/-- A text is no code that could be run. -/
def NoCode (text : String) : Prop :=
  ∀ m, Module.read? text = some m → m.isRunnable = false

def setGlobal (h : Host) (m : Nat) (x : String) (v : Value) : Host :=
  { h with modules := h.modules.modify m fun t => t.set x v }

theorem module_setGlobal {h : Host} (there : h.modules[m]? = some t)
    (x : String) (v : Value) : (setGlobal h m x v).modules[m]? = some (t.set x v) := by
  simp [setGlobal, Array.getElem?_modify, there]

def binderCode (c : Config) (lowered : List Lowered) (module : Nat) : Callable :=
  .code c.functionName (.ordinaryOnly [.mk c.elementName none]) []
    (.block (if (lowered.flatMap Lowered.statements).isEmpty then [.pass]
      else lowered.flatMap Lowered.statements)) ⟨[], module⟩

/-- The names of a module before its code runs. -/
def scopeTable (file : String) (scope : Table Value) : Table Value :=
  (Act.moduleNames.setAll scope).set "__file__" (.str file)

def moduleTable (c : Config) (file : String) (scope : Table Value) (k : Nat) : Table Value :=
  ((scopeTable file scope).set c.aliasName .supportModule).set c.functionName (.function k)

/-- Whether code can import anything in a module with the names of a scope. -/
def imports (scope : Table Value) : Except Misuse Unit :=
  Builtins.importer (Act.moduleNames.setAll scope)

theorem importer_scopeTable (file : String) (scope : Table Value) :
    Builtins.importer (scopeTable file scope) = imports scope := by
  unfold imports Builtins.importer
  rw [scopeTable, Table.get?_set_ne _ _ (by decide)]

/-- A page has a binder for a list and a scope, in a module of its own. -/
structure HasBinder (c : Config) (source : String) (lowered : List Lowered) (scope : Table Value)
    (module k : Nat) (h : Host) : Prop where
  function : h.functions[k]? = some (binderCode c lowered module)
  names : h.modules[module]? = some (moduleTable c (Loader.fileName c source) scope k)

def withBinder (c : Config) (lowered : List Lowered) (m : Nat) (h : Host) : Host :=
  setGlobal ((setGlobal h m c.aliasName .supportModule).withFunction (binderCode c lowered m)) m
    c.functionName (.function h.functions.size)

def withModule (file : String) (scope : Table Value) (h : Host) : Host :=
  { h with modules := h.modules.push (scopeTable file scope) }

def instantiated (c : Config) (lowered : List Lowered) (source : String) (scope : Table Value)
    (h : Host) : Host :=
  withBinder c lowered h.modules.size (withModule (Loader.fileName c source) scope h)

theorem HasBinder.mono (has : HasBinder c source lowered scope m k h) (grows : h.Grows h') :
    HasBinder c source lowered scope m k h' :=
  ⟨grows.functions _ _ has.function, grows.modules _ _ has.names⟩

theorem getD_withModule (file : String) (scope : Table Value) (h : Host) :
    (withModule file scope h).modules.getD h.modules.size [] = scopeTable file scope := by
  simp [withModule]

theorem hasBinder_instantiated (c : Config) (lowered : List Lowered) (source : String)
    (scope : Table Value) (h : Host) :
    HasBinder c source lowered scope h.modules.size h.functions.size
      (instantiated c lowered source scope h) :=
  ⟨Host.function_withFunction (setGlobal _ _ _ _) _,
    module_setGlobal (module_setGlobal Array.getElem?_push_size _ _) _ _⟩

theorem modules_instantiated (c : Config) (lowered : List Lowered) (source : String)
    (scope : Table Value) (h : Host) :
    (instantiated c lowered source scope h).modules =
      h.modules.push (moduleTable c (Loader.fileName c source) scope h.functions.size) := by
  have last (t : Table Value) (f : Table Value → Table Value) :
      (h.modules.push t).modify h.modules.size f = h.modules.push (f t) := by
    grind
  simp only [instantiated, withBinder, withModule, setGlobal, Host.withFunction, last]
  rfl

theorem grows_instantiated (c : Config) (lowered : List Lowered) (source : String)
    (scope : Table Value) (h : Host) : h.Grows (instantiated c lowered source scope h) where
  lists := .refl _
  plains := .refl _
  functions := .push _ _
  modules := modules_instantiated c lowered source scope h ▸ .push _ _
  frames _ lt := ⟨lt, rfl⟩

def kept (c : Config) (source : String) (r : CompileResult) (m : Module) : Compiled :=
  ⟨m, r.source ++ "\n", Loader.fileName c source⟩

/-- The page on which the text that is generated for a list has been registered. -/
def withText (c : Config) (source : String) (r : CompileResult) (h : Host) : Host :=
  { h with
    registry := h.registry.set (Loader.fileName c source) (r.source ++ "\n")
    notes := (Compile.run c source).notes.reverse ++ h.notes }

def withKept (name source : String) (l : Loader) (r : CompileResult) (m : Module) (h : Host) :
    Host :=
  { withText l.config source r h with
    loaders := h.loaders.set name { l with cache := l.cache.set source (kept l.config source r m) }
    notes := .loaded (Loader.fileName l.config source) ::
      ((Compile.run l.config source).notes.reverse ++ h.notes) }

def withNotes (ns : List Note) (h : Host) : Host :=
  { h with notes := ns.reverse ++ h.notes }

theorem foldl_note (ns : List Note) (h : Host) : ns.foldl Host.note h = withNotes ns h := by
  induction ns generalizing h with
  | nil => rfl
  | cons n ns ih => simp [ih, Host.note, withNotes]

section Steps

variable [Order]

/-- Steps fail and lead from one world to another, given fuel enough. -/
def Fails {α : Type} (m : Act α) (w : World) (f : Failure) (w' : World) : Prop :=
  ∃ n, ∀ k, n ≤ k → ∀ next,
    Run.exec setting (Run.perform setting k) (m next) w = .raised f w'

variable {α β : Type} {m : Act α} {w w' w'' : World} {a : α} {f : Failure}

theorem fails_fail (f : Failure) (w : World) : Fails (Act.fail f : Act α) w f w :=
  ⟨0, fun _ _ _ => rfl⟩

theorem Runs.fails (first : Runs m w a w') (second : Fails (g a) w' f w'') :
    Fails (m >>= g) w f w'' := by
  obtain ⟨n, first⟩ := first
  obtain ⟨l, second⟩ := second
  refine ⟨max n l, fun k le next => ?_⟩
  exact (first k (Nat.le_trans (Nat.le_max_left n l) le) _).trans
    (second k (Nat.le_trans (Nat.le_max_right n l) le) next)

theorem Fails.bind (first : Fails m w f w') : Fails (m >>= g) w f w' := by
  obtain ⟨n, first⟩ := first
  exact ⟨n, fun k le next => first k le _⟩

end Steps

section Instantiate

variable [Order] {c : Config} {lowered : List Lowered} {source text : String} {scope : Table Value}

theorem runs_module {w : World} {m : Nat}
    (imported : Builtins.importer (w.host.modules.getD m []) = .ok ()) :
    Runs (Stmt.execAll ⟨[], m⟩ ((Generator.mk c fun _ => true).module lowered)) w ()
      ⟨w.graph, withBinder c lowered m w.host⟩ := by
  let w₁ : World := ⟨w.graph, setGlobal w.host m c.aliasName .supportModule⟩
  have imported : Runs (Stmt.exec ⟨[], m⟩ (.importAs Lowering.helperPackage Lowering.helperModule
      c.aliasName)) w () w₁ := by
    rw [Stmt.exec]
    refine (runs_host w).bind ?_
    simp only [imported]
    exact runs_modifyHost _ _
  have params : Runs (Expr.evalParams ⟨[], m⟩ (.ordinaryOnly [.mk c.elementName none])) w₁ [] w₁ := by
    have element : Runs (Expr.evalDefaults ⟨[], m⟩ [.mk c.elementName none]) w₁ [] w₁ := by
      rw [Expr.evalDefaults]
      exact runs_evalDefaults_nil w₁
    rw [Params.ordinaryOnly, Expr.evalParams]
    exact (runs_evalDefaults_nil w₁).bind (element.bind ((runs_evalDefaults_nil w₁).bind (runs_pure _ _)))
  have defined : Runs (Stmt.exec ⟨[], m⟩ (.define c.functionName
      (.ordinaryOnly [.mk c.elementName none]) (if (lowered.flatMap Lowered.statements).isEmpty then
        [.pass] else lowered.flatMap Lowered.statements))) w₁ ()
      ⟨w.graph, withBinder c lowered m w.host⟩ := by
    rw [Stmt.exec]
    exact params.bind ((runs_newFunction _ _).bind (runs_modifyHost _ _))
  exact runs_execAll_cons imported (runs_execAll_cons defined (runs_execAll_nil _))

theorem runs_instantiate (imported : imports scope = .ok ()) (w : World) :
    Runs (Act.instantiate c ⟨(Generator.mk c fun _ => true).module lowered, text,
        Loader.fileName c source⟩ scope) w (.function w.host.functions.size)
      ⟨w.graph, instantiated c lowered source scope w.host⟩ := by
  have found : ((instantiated c lowered source scope w.host).modules.getD w.host.modules.size []).get?
      c.functionName = some (.function w.host.functions.size) := by
    rw [Array.getD_eq_getD_getElem?, (hasBinder_instantiated c lowered source scope w.host).names]
    exact Table.get?_set_self _ _ _
  have module : Runs (Stmt.execAll ⟨[], w.host.modules.size⟩
      ((Generator.mk c fun _ => true).module lowered))
      ⟨w.graph, withModule (Loader.fileName c source) scope w.host⟩ ()
      ⟨w.graph, instantiated c lowered source scope w.host⟩ :=
    runs_module ((getD_withModule _ scope w.host).symm ▸ importer_scopeTable _ scope ▸ imported)
  refine (runs_host w).bind ((runs_setHost _ w).bind (module.bind ((runs_host _).bind ?_)))
  simp only [found]
  exact runs_pure _ _

/-- A module in which nothing can be imported stays behind with nothing but the names of the scope. -/
theorem fails_instantiate (refused : imports scope = .error fault) (w : World) :
    Fails (Act.instantiate c ⟨(Generator.mk c fun _ => true).module lowered, text,
        Loader.fileName c source⟩ scope) w (.misuse fault)
      ⟨w.graph, withModule (Loader.fileName c source) scope w.host⟩ := by
  have module : Fails (Stmt.execAll ⟨[], w.host.modules.size⟩
      ((Generator.mk c fun _ => true).module lowered))
      ⟨w.graph, withModule (Loader.fileName c source) scope w.host⟩ (.misuse fault)
      ⟨w.graph, withModule (Loader.fileName c source) scope w.host⟩ := by
    rw [Generator.module, Stmt.execAll, Stmt.exec]
    refine Fails.bind ((runs_host _).fails ?_)
    simp only [getD_withModule, importer_scopeTable, refused]
    exact fails_fail _ _
  exact (runs_host w).fails ((runs_setHost _ w).fails module.bind)

end Instantiate

section Compile

variable [Order] {source : String} {l : Loader} {r : CompileResult} {w : World}

theorem runs_note (ns : List Note) (w : World) :
    Runs (Act.note ns) w () ⟨w.graph, withNotes ns w.host⟩ := by
  rw [← foldl_note]
  exact runs_modifyHost _ w

theorem runs_compileFor (name : String) (made : Generates l.config source r)
    (read : Module.read? (r.source ++ "\n") = some m) (runnable : m.isRunnable = true) :
    Runs (Act.compileFor name source l) w (kept l.config source r m)
      ⟨w.graph, withKept name source l r m w.host⟩ := by
  have module : ∀ w, Runs (Act.readModule (r.source ++ "\n")) w m w := by
    intro w
    simp only [Act.readModule, read, runnable, if_true]
    exact runs_pure _ _
  refine (runs_note _ w).bind ?_
  simp only [made.compiled, made.ok, made.writable, made.whole, Bool.not_true, Bool.false_eq_true,
    if_false]
  exact (runs_modifyHost _ _).bind ((module _).bind ((runs_modifyHost _ _).bind
    ((runs_note _ _).bind (runs_pure _ _))))

/-- Where a list leads for which no text is registered, whichever loader is asked for it: nothing but
notes is left of it. -/
theorem fails_compileFor_ungenerated (none : ∀ r, ¬ Generates c source r) :
    ∃ f, ∀ name l w, l.config = c → Fails (Act.compileFor name source l) w f
      ⟨w.graph, withNotes (Compile.run c source).notes w.host⟩ := by
  cases compiled : (Compile.run c source).result with
  | error halt =>
    refine ⟨.halted halt, fun name l w same => ?_⟩
    subst same
    refine (runs_note _ w).fails ?_
    simp only [compiled]
    exact fails_fail _ _
  | ok r =>
    cases ok : r.isOk with
    | false =>
      refine ⟨.uncompiled r.errors, fun name l w same => ?_⟩
      subst same
      refine (runs_note _ w).fails ?_
      simp only [compiled, ok, Bool.not_false, if_true]
      exact fails_fail _ _
    | true =>
      cases writable : r.isWritable with
      | false =>
        refine ⟨.misuse .value, fun name l w same => ?_⟩
        subst same
        refine (runs_note _ w).fails ?_
        simp only [compiled, ok, writable, Bool.not_true, Bool.false_eq_true, if_false,
          Bool.not_false, if_true]
        exact fails_fail _ _
      | true =>
        have half : source.toList.any Text.isHalf = true := by
          by_contra whole
          exact none r ⟨compiled, ok, writable, Bool.eq_false_iff.mpr whole⟩
        refine ⟨.misuse .encoding, fun name l w same => ?_⟩
        subst same
        refine (runs_note _ w).fails ?_
        simp only [compiled, ok, writable, half, Bool.not_true, Bool.false_eq_true, if_false, if_true]
        exact fails_fail _ _

theorem fails_compileFor_unreadable (name : String) (made : Generates l.config source r)
    (wrong : NoCode (r.source ++ "\n")) :
    Fails (Act.compileFor name source l) w (.misuse .notCode)
      ⟨w.graph, withText l.config source r w.host⟩ := by
  have module : ∀ w, Fails (Act.readModule (r.source ++ "\n")) w (.misuse .notCode) w := by
    intro w
    unfold Act.readModule
    cases read : Module.read? (r.source ++ "\n") with
    | none => exact fails_fail _ _
    | some m =>
      simp only [wrong m read, Bool.false_eq_true, if_false]
      exact fails_fail _ _
  refine (runs_note _ w).fails ?_
  simp only [made.compiled, made.ok, made.writable, made.whole, Bool.not_true, Bool.false_eq_true,
    if_false]
  exact (runs_modifyHost _ _).fails (module _).bind

end Compile

section Load

variable [Order] {source name : String} {l : Loader} {k : Compiled} {scope : Table Value}
variable {w w₁ w' : World}

theorem runs_loader (there : w.host.loaders.get? name = some l) : Runs (Act.loader name) w l w := by
  refine (runs_host w).bind ?_
  simp only [there]
  exact runs_pure _ _

theorem fails_loader (absent : w.host.loaders.get? name = none) :
    Fails (Act.loader name) w (.unbound name) w := by
  refine (runs_host w).fails ?_
  simp only [absent]
  exact fails_fail _ _

/-- A loader comes to have the code of a list, because it has kept it or compiles it now. -/
inductive Fetches (name source : String) (l : Loader) (w : World) : Compiled → World → Prop
  | kept {k : Compiled} (found : l.cache.get? source = some k) : Fetches name source l w k w
  | new {k : Compiled} {w₁ : World} (fresh : l.cache.get? source = none)
      (compiles : Runs (Act.compileFor name source l) w k w₁) : Fetches name source l w k w₁

theorem runs_load (there : w.host.loaders.get? name = some l)
    (key : l.config.key?.isSome = true) (fetches : Fetches name source l w k w₁)
    (runs : Runs (Act.instantiate l.config k scope) w₁ v w') :
    Runs (Act.load name source scope) w v w' := by
  obtain ⟨key, hasKey⟩ := Option.isSome_iff_exists.mp key
  refine (runs_loader there).bind ?_
  cases fetches with
  | kept found =>
    simp only [hasKey, found]
    exact (runs_pure _ _).bind runs
  | new fresh compiles =>
    simp only [hasKey, fresh]
    exact compiles.bind runs

theorem fails_load_instantiate (there : w.host.loaders.get? name = some l)
    (key : l.config.key?.isSome = true) (fetches : Fetches name source l w k w₁)
    (fails : Fails (Act.instantiate l.config k scope) w₁ f w') :
    Fails (Act.load name source scope) w f w' := by
  obtain ⟨key, hasKey⟩ := Option.isSome_iff_exists.mp key
  refine (runs_loader there).fails ?_
  cases fetches with
  | kept found =>
    simp only [hasKey, found]
    exact (runs_pure _ _).fails fails
  | new fresh compiles =>
    simp only [hasKey, fresh]
    exact compiles.fails fails

theorem fails_load_compile (there : w.host.loaders.get? name = some l)
    (key : l.config.key?.isSome = true) (fresh : l.cache.get? source = none)
    (fails : Fails (Act.compileFor name source l) w f w') :
    Fails (Act.load name source scope) w f w' := by
  obtain ⟨key, hasKey⟩ := Option.isSome_iff_exists.mp key
  refine (runs_loader there).fails ?_
  simp only [hasKey, fresh]
  exact fails.bind

theorem fails_load_key (there : w.host.loaders.get? name = some l) (none : l.config.key? = none) :
    Fails (Act.load name source scope) w (.misuse .type) w := by
  refine (runs_loader there).fails ?_
  simp only [none]
  exact fails_fail _ _

end Load

end Page

/-! ## Code that reads back -/

namespace Expr

mutual

/-- Whether expressions of the kinds that generated code consists of are the same. -/
def same : Expr → Expr → Bool
  | name x, name y => x == y
  | constant c, constant d => c == d
  | member a x, member b y => same a b && x == y
  | call f as [], call g bs [] => same f g && sameAll as bs
  | _, _ => false

def sameAll : List Expr → List Expr → Bool
  | [], [] => true
  | a :: as, b :: bs => same a b && sameAll as bs
  | _, _ => false

end

mutual

theorem eq_of_same {a b : Expr} (eq : same a b = true) : a = b := by
  unfold same at eq
  split at eq
  · rw [beq_iff_eq.mp eq]
  · rw [beq_iff_eq.mp eq]
  · simp only [Bool.and_eq_true, beq_iff_eq] at eq
    rw [eq_of_same eq.1, eq.2]
  · simp only [Bool.and_eq_true] at eq
    rw [eq_of_same eq.1, eq_of_sameAll eq.2]
  · cases eq

theorem eq_of_sameAll {as bs : List Expr} (eq : sameAll as bs = true) : as = bs := by
  unfold sameAll at eq
  split at eq
  · rfl
  · simp only [Bool.and_eq_true] at eq
    rw [eq_of_same eq.1, eq_of_sameAll eq.2]
  · cases eq

end

end Expr

def Param.same : Param → Param → Bool
  | .mk x none, .mk y none => x == y
  | .mk x (some a), .mk y (some b) => x == y && a.same b
  | _, _ => false

def Params.same : Params → Params → Bool
  | .mk [] ps none [] none, .mk [] qs none [] none => ps.isEqv qs Param.same
  | _, _ => false

namespace Stmt

mutual

def same : Stmt → Stmt → Bool
  | importAs p x a, importAs q y b => p == q && x == y && a == b
  | define f ps body, define g qs body' => f == g && ps.same qs && sameAll body body'
  | assign x e, assign y e' => x == y && e.same e'
  | evaluate e, evaluate e' => e.same e'
  | _, _ => false

def sameAll : List Stmt → List Stmt → Bool
  | [], [] => true
  | s :: ss, t :: ts => same s t && sameAll ss ts
  | _, _ => false

end

end Stmt

theorem Param.eq_of_same {p q : Param} (eq : p.same q = true) : p = q := by
  unfold same at eq
  split at eq
  · rw [beq_iff_eq.mp eq]
  · simp only [Bool.and_eq_true, beq_iff_eq] at eq
    rw [eq.1, Expr.eq_of_same eq.2]
  · cases eq

theorem Param.eq_of_isEqv {ps qs : List Param} (eq : ps.isEqv qs Param.same = true) : ps = qs := by
  induction ps generalizing qs with
  | nil =>
    cases qs with
    | nil => rfl
    | cons q qs => cases eq
  | cons p ps ih =>
    cases qs with
    | nil => cases eq
    | cons q qs =>
      simp only [List.isEqv, Bool.and_eq_true] at eq
      rw [Param.eq_of_same eq.1, ih eq.2]

theorem Params.eq_of_same {ps qs : Params} (eq : ps.same qs = true) : ps = qs := by
  unfold same at eq
  split at eq
  · rw [Param.eq_of_isEqv eq]
  · cases eq

namespace Stmt

mutual

theorem eq_of_same {s t : Stmt} (eq : same s t = true) : s = t := by
  unfold same at eq
  split at eq
  · simp only [Bool.and_eq_true, beq_iff_eq] at eq
    rw [eq.1.1, eq.1.2, eq.2]
  · simp only [Bool.and_eq_true, beq_iff_eq] at eq
    rw [eq.1.1, Params.eq_of_same eq.1.2, eq_of_sameAll eq.2]
  · simp only [Bool.and_eq_true, beq_iff_eq] at eq
    rw [eq.1, Expr.eq_of_same eq.2]
  · rw [Expr.eq_of_same eq]
  · cases eq

theorem eq_of_sameAll {ss ts : List Stmt} (eq : sameAll ss ts = true) : ss = ts := by
  unfold sameAll at eq
  split at eq
  · rfl
  · simp only [Bool.and_eq_true] at eq
    rw [eq_of_same eq.1, eq_of_sameAll eq.2]
  · cases eq

end

end Stmt

namespace Text

/-- The characters of a text, one for each byte. -/
def narrow (s : String) : List Char :=
  s.toByteArray.data.toList.map fun b => Char.ofNat b.toNat

theorem toList_eq_of_bytes {s : String} {cs : List Char}
    (same : s.toByteArray.data.toList = cs.flatMap String.utf8EncodeChar) : s.toList = cs := by
  have eq : s = String.ofList cs := by
    rw [← String.toByteArray_inj, String.toByteArray_ofList, List.utf8Encode, ← same]
    apply ByteArray.ext
    simp
  rw [eq, String.toList_ofList]

end Text

namespace Page

/-- Whether a list compiles to code that can run and reads back as it was generated. The text is read
by its bytes, which takes much less time to evaluate. -/
def readsBack (c : Config) (source : String) : Bool :=
  match (Compile.run c source).result with
  | .error _ => false
  | .ok r =>
    let text := r.source ++ "\n"
    r.isOk && r.isWritable && !source.toList.any Text.isHalf &&
      text.toByteArray.data.toList == (Text.narrow text).flatMap String.utf8EncodeChar &&
      match r.module, Module.ofChars? (Text.narrow text) with
      | some m, some m' => m.isRunnable && Stmt.sameAll m m'
      | _, _ => false

theorem exists_of_readsBack (good : readsBack c source = true) :
    ∃ r m, Generates c source r ∧ r.module = some m ∧ Module.read? (r.source ++ "\n") = some m ∧
      m.isRunnable = true := by
  unfold readsBack at good
  split at good
  · cases good
  · next r compiled =>
      simp only [Bool.and_eq_true, Bool.not_eq_true', beq_iff_eq] at good
      obtain ⟨⟨⟨⟨ok, writable⟩, whole⟩, bytes⟩, good⟩ := good
      split at good
      · next m m' generated read =>
          simp only [Bool.and_eq_true] at good
          refine ⟨r, m, ⟨compiled, ok, writable, whole⟩, generated, ?_, good.1⟩
          rw [Module.read?, Text.toList_eq_of_bytes bytes, read, Stmt.eq_of_sameAll good.2]
      · cases good

theorem readsBack_all : readsBack {} "(a=x, on:b=f, bind:value=w)" = true := by
  decide +kernel

def loaderPage (c : Config) : World where
  graph := {}
  host := { loaders := [("b", { config := c })] }

def isUnreadable (c : Config) (source : String) : Bool :=
  match (Compile.run c source).result with
  | .error _ => false
  | .ok r => r.isOk && r.isWritable && !source.toList.any Text.isHalf &&
    (Module.read? (r.source ++ "\n")).isNone

theorem exists_unreadable : ∃ r, Generates { functionName := "class" } "(title=1)" r ∧
    NoCode (r.source ++ "\n") := by
  have bad : isUnreadable { functionName := "class" } "(title=1)" = true := by decide +kernel
  unfold isUnreadable at bad
  split at bad
  · cases bad
  · next r compiled =>
      simp only [Bool.and_eq_true, Bool.not_eq_true', Option.isNone_iff_eq_none] at bad
      obtain ⟨⟨⟨ok, writable⟩, whole⟩, unread⟩ := bad
      exact ⟨r, ⟨compiled, ok, writable, whole⟩, fun m read => by simp [unread] at read⟩

end Page

end AttrBinder
