import AttrBinder.Proofs.Binder.Registry

/-!
What a loader keeps does not show. However its loaders have been used, a page gives a load what it
would give a loader with the same configuration that has kept nothing: the same failure, or a new
function in a new module, which has the names of its own scope. A load that fails leaves the loaders as
they were, unless it fails because nothing can be imported with the names of the scope.
-/

namespace AttrBinder.Page

open Reactive (Run)

/-! ## What is kept -/

def Stocked (h : Host) : Prop :=
  ∀ name l, h.loaders.get? name = some l → ∀ e ∈ l.cache, Keeps l.config e.1 e.2

theorem Stocked.step {h h' : Host} {call : LoaderCall} (stocked : Stocked h)
    (changes : Changes h call h') : Stocked h' := by
  -- Only the loader that is called has a new cache.
  have one {name : String} {l : Loader} (cache : ∀ e ∈ l.cache, Keeps l.config e.1 e.2)
      (loaders : h'.loaders = h.loaders.set name l) : Stocked h' := by
    intro name' l' there
    rw [loaders] at there
    by_cases same : name' = name
    · rw [same, Table.get?_set_self] at there
      exact Option.some.inj there ▸ cache
    · exact stocked name' l' (Table.get?_set_ne _ _ same ▸ there)
  cases changes with
  | nothing loaders _ => exact fun name l there => stocked name l (loaders ▸ there)
  | spoils _ _ _ _ loaders _ => exact fun name l there => stocked name l (loaders ▸ there)
  | keeps there _ kept loaders _ =>
    refine one (fun e mem => ?_) loaders
    rcases List.mem_append.mp mem with old | new
    · exact stocked _ _ there e old
    · rw [List.mem_singleton.mp new]
      exact kept
  | clears _ loaders _ => exact one (fun _ mem => absurd mem List.not_mem_nil) loaders

/-- Pages whose loaders had kept nothing at first and have been called since, whether the calls failed
or not. Anything else may have been done that leaves the loaders alone, such as running a binder that
was loaded. -/
inductive Used [Order] : World → Prop
  | fresh {w : World} (empty : ∀ name l, w.host.loaders.get? name = some l → l.cache = []) : Used w
  | call {w w' : World} {call : LoaderCall} (before : Used w)
      (faithful : ∀ x ∈ loads w.host [call], Faithful x.config x.source)
      (ends : Ends call.act w w') : Used w'
  | other {w w' : World} (before : Used w) (same : w'.host.loaders = w.host.loaders) : Used w'

theorem Used.stocked [Order] (used : Used w) : Stocked w.host := by
  induction used with
  | fresh empty => exact fun name l there e mem => nomatch empty name l there ▸ mem
  | other _ same ih => exact fun name l there => ih name l (same ▸ there)
  | @call w w' call _ faithful ends ih =>
    have changes : ∃ w₁, Ends call.act w w₁ ∧ Changes w.host call w₁.host := by
      cases call with
      | clear name => exact clear_changes name w
      | load name source scope =>
        exact load_changes
          (fun l there => faithful ⟨name, l.config, source⟩ (by simp [loads, there]))
          fun l there k found => ih name l there _ (Table.mem_of_get? found)
    obtain ⟨w₁, ends₁, changes⟩ := changes
    exact ends.unique ends₁ ▸ ih.step changes

/-! ## What a load comes to -/

def unloaded (w : World) : World :=
  ⟨w.graph, { w.host with loaders := [], registry := [], notes := [] }⟩

theorem unloaded_instantiated (c : Config) (lowered : List Lowered) (source : String)
    (scope : Table Value) (w : World) :
    unloaded ⟨w.graph, instantiated c lowered source scope w.host⟩ =
      ⟨(unloaded w).graph, instantiated c lowered source scope (unloaded w).host⟩ := rfl

theorem unloaded_withModule (file : String) (scope : Table Value) (w : World) :
    unloaded ⟨w.graph, withModule file scope w.host⟩ =
      ⟨(unloaded w).graph, withModule file scope (unloaded w).host⟩ := rfl

def canLoad (c : Config) (source : String) : Bool :=
  c.key?.isSome && match (Compile.run c source).result with
    | .error _ => false
    | .ok r => r.isOk && r.isWritable && !source.toList.any Text.isHalf &&
      (Module.read? (r.source ++ "\n")).any (·.isRunnable)

theorem canLoad_iff : canLoad c source = true ↔
    c.key?.isSome = true ∧ ∃ r m, Generates c source r ∧
      Module.read? (r.source ++ "\n") = some m ∧ m.isRunnable = true := by
  constructor
  · intro can
    simp only [canLoad, Bool.and_eq_true] at can
    obtain ⟨key, can⟩ := can
    split at can
    · cases can
    · next r compiled =>
        simp only [Bool.and_eq_true, Bool.not_eq_true', Option.any_eq_true] at can
        obtain ⟨⟨⟨ok, writable⟩, whole⟩, m, read, runnable⟩ := can
        exact ⟨key, r, m, ⟨compiled, ok, writable, whole⟩, read, runnable⟩
  · rintro ⟨key, r, m, made, read, runnable⟩
    simp [canLoad, key, made.compiled, made.ok, made.writable, made.whole, read, runnable]

section Load

variable [Order] {c : Config} {name source : String} {l : Loader} {w : World}

/-- Where a list cannot be loaded, all loads of it fail alike, whichever loader is asked. -/
theorem load_fails (cannot : canLoad c source = false) :
    ∃ f, ∀ name l (w : World) scope, l.config = c → w.host.loaders.get? name = some l →
      (∀ k, l.cache.get? source = some k → Keeps c source k) →
      ∃ w', Fails (Act.load name source scope) w f w' ∧ unloaded w' = unloaded w ∧
        w'.host.loaders = w.host.loaders := by
  cases key : c.key? with
  | none =>
    refine ⟨.misuse .type, fun name l w scope same there _ => ⟨w, ?_, rfl, rfl⟩⟩
    exact fails_load_key there (same ▸ key)
  | some _ =>
    have hasKey : c.key?.isSome = true := by rw [key]; rfl
    have wrong (r : CompileResult) (made : Generates c source r) : NoCode (r.source ++ "\n") := by
      intro m read
      refine Bool.eq_false_iff.mpr fun runnable => Bool.eq_false_iff.mp cannot ?_
      exact canLoad_iff.mpr ⟨hasKey, r, m, made, read, runnable⟩
    have absent {l : Loader} (stored : ∀ k, l.cache.get? source = some k → Keeps c source k) :
        l.cache.get? source = none := by
      refine Option.eq_none_iff_forall_ne_some.mpr fun k found => ?_
      obtain ⟨⟨r, made, text⟩, -, read, runnable⟩ := stored k found
      exact nomatch (wrong r made _ (text ▸ read)).symm.trans runnable
    by_cases made : ∃ r, Generates c source r
    · obtain ⟨r, made⟩ := made
      refine ⟨.misuse .notCode, fun name l w scope same there stored => ?_⟩
      subst same
      exact ⟨_, fails_load_compile there hasKey (absent stored)
        (fails_compileFor_unreadable name made (wrong r made)), rfl, rfl⟩
    · obtain ⟨f, fails⟩ := fails_compileFor_ungenerated (not_exists.mp made)
      refine ⟨f, fun name l w scope same there stored => ?_⟩
      subst same
      exact ⟨_, fails_load_compile there hasKey (absent stored) (fails name l w rfl), rfl, rfl⟩

/-- Where a list can be loaded, all loads of it run alike if the scope lets code import, and fail alike
if it does not, whichever loader is asked and whether it has kept the list or not. -/
theorem load_instantiates (can : canLoad c source = true) (faithful : Faithful c source) :
    ∃ r, Generates c source r ∧ ∀ name l (w : World) scope, l.config = c →
      w.host.loaders.get? name = some l → (∀ k, l.cache.get? source = some k → Keeps c source k) →
      match imports scope with
      | .ok _ => ∃ w', Runs (Act.load name source scope) w (.function w.host.functions.size) w' ∧
          unloaded w' = unloaded ⟨w.graph, instantiated c r.lowered source scope w.host⟩
      | .error fault => ∃ w', Fails (Act.load name source scope) w (.misuse fault) w' ∧
          unloaded w' = unloaded ⟨w.graph, withModule (Loader.fileName c source) scope w.host⟩ ∧
          (w'.host.loaders.get? name).any (·.cache.get? source |>.isSome) := by
  obtain ⟨key, r, m, made, read, runnable⟩ := canLoad_iff.mp can
  refine ⟨r, made, fun name l w scope same there stored => ?_⟩
  subst same
  -- The loader has the code that was generated for the list, and that it has it does not show.
  have fetched : ∃ text w₁, unloaded w₁ = unloaded w ∧
      Fetches name source l w ⟨(Generator.mk l.config fun _ => true).module r.lowered, text,
        Loader.fileName l.config source⟩ w₁ ∧
      (w₁.host.loaders.get? name).any (·.cache.get? source |>.isSome) := by
    cases again : l.cache.get? source with
    | some k =>
      obtain ⟨r', text, made', rfl⟩ := (stored k again).eq_kept faithful
      cases made.unique made'
      exact ⟨text, w, rfl, .kept again, by simp [there, again]⟩
    | none =>
      have keeps : Keeps l.config source (kept l.config source r m) :=
        ⟨⟨r, made, rfl⟩, rfl, read, runnable⟩
      have compiles := runs_compileFor (w := w) name made read runnable
      obtain ⟨r', text, made', eq⟩ := keeps.eq_kept faithful
      cases made.unique made'
      refine ⟨text, _, ?_, .new again (eq ▸ compiles), ?_⟩
      · rfl
      · simp [withKept, Table.get?_set_self]
  obtain ⟨text, w₁, same, fetches, has⟩ := fetched
  split
  · next imported =>
      have runs := runs_load there key fetches (runs_instantiate imported w₁)
      rw [show w₁.host.functions = w.host.functions from congrArg (·.host.functions) same] at runs
      refine ⟨_, runs, ?_⟩
      rw [unloaded_instantiated, same, ← unloaded_instantiated]
  · next fault refused =>
      refine ⟨_, fails_load_instantiate there key fetches (fails_instantiate refused w₁), ?_, has⟩
      rw [unloaded_withModule, same, ← unloaded_withModule]

end Load

def forgotten (name : String) (w : World) : World :=
  match w.host.loaders.get? name with
  | some l => ⟨w.graph, { w.host with loaders := w.host.loaders.set name { l with cache := [] } }⟩
  | none => w

section Load

variable [Order]

/-- A load fails as it would if the loader had kept nothing, and leaves no trace on the page but in
notes and texts. -/
def FailsAlike (name source : String) (scope : Table Value) (w : World) : Prop :=
  ∃ f w₁ w₂, Fails (Act.load name source scope) w f w₁ ∧
    Fails (Act.load name source scope) (forgotten name w) f w₂ ∧
    unloaded w₁ = unloaded w ∧ unloaded w₂ = unloaded w ∧ w₁.host.loaders = w.host.loaders

/-- A load fails as it would if the loader had kept nothing, because nothing can be imported. It
leaves a module with nothing but the names of the scope, and the loader has kept the list. -/
def RefusedAlike (name source : String) (scope : Table Value) (fault : Misuse) (w : World) : Prop :=
  ∃ l w₁ w₂, w.host.loaders.get? name = some l ∧
    Fails (Act.load name source scope) w (.misuse fault) w₁ ∧
    Fails (Act.load name source scope) (forgotten name w) (.misuse fault) w₂ ∧
    unloaded w₁ = unloaded w₂ ∧ w₁.host.functions = w.host.functions ∧
    w₁.host.modules = w.host.modules.push (scopeTable (Loader.fileName l.config source) scope) ∧
    (w₁.host.loaders.get? name).any (·.cache.get? source |>.isSome)

/-- A load gives a new function as it would if the loader had kept nothing. The function is the binder
of the list, and has a new module with the names of its scope. -/
def RunsAlike (name source : String) (scope : Table Value) (w : World) : Prop :=
  ∃ l r w₁ w₂, w.host.loaders.get? name = some l ∧ Generates l.config source r ∧
    Runs (Act.load name source scope) w (.function w.host.functions.size) w₁ ∧
    Runs (Act.load name source scope) (forgotten name w) (.function w.host.functions.size) w₂ ∧
    unloaded w₁ = unloaded w₂ ∧
    w₁.host.functions =
      w.host.functions.push (binderCode l.config r.lowered w.host.modules.size) ∧
    w₁.host.modules = w.host.modules.push
      (moduleTable l.config (Loader.fileName l.config source) scope w.host.functions.size)

/-- Loaders do not show what they keep. Whatever calls of loaders have been made on a page, whether they
failed or not, and whatever else was done there that leaves the loaders alone: if the text that is
generated for a list reads back, if it is code at all, as what was generated, then a load of the list
gives what it would give a loader with the same configuration that has kept nothing. Where the list can
be loaded and the scope lets code import, that is a function with a module of its own, in which only its
own scope stands, and no other module has changed. Where the list cannot be loaded, the load fails and
leaves the loaders as they were; where the scope lets nothing be imported, it fails after the loader has
kept the list. -/
theorem load_as_if_fresh {w : World} (used : Used w) {name source : String}
    (faithful : ∀ l, w.host.loaders.get? name = some l → Faithful l.config source)
    (scope : Table Value) :
    if (w.host.loaders.get? name).any (canLoad ·.config source) then
      match imports scope with
      | .ok _ => RunsAlike name source scope w
      | .error fault => RefusedAlike name source scope fault w
    else FailsAlike name source scope w := by
  cases there : w.host.loaders.get? name with
  | none =>
    have fails : Fails (Act.load name source scope) w (.unbound name) w := (fails_loader there).bind
    have same : forgotten name w = w := by rw [forgotten, there]
    exact ⟨_, w, w, fails, same.symm ▸ fails, rfl, rfl, rfl⟩
  | some l =>
    have emptied : forgotten name w = ⟨w.graph, { w.host with
        loaders := w.host.loaders.set name { l with cache := [] } }⟩ := by
      rw [forgotten, there]
    have there' : (forgotten name w).host.loaders.get? name = some { l with cache := [] } := by
      rw [emptied]
      exact Table.get?_set_self _ _ _
    have alike : unloaded (forgotten name w) = unloaded w := by rw [emptied]; rfl
    have unstored (k : Compiled) (found : Table.get? [] source = some k) :
        Keeps l.config source k := nomatch found
    have stored (k : Compiled) (found : l.cache.get? source = some k) : Keeps l.config source k :=
      used.stocked name l there _ (Table.mem_of_get? found)
    cases can : canLoad l.config source with
    | false =>
      rw [Option.any_some, can]
      obtain ⟨f, fails⟩ := load_fails can
      obtain ⟨w₁, fails₁, same₁, loaders⟩ := fails name l w scope rfl there stored
      obtain ⟨w₂, fails₂, same₂, -⟩ := fails name { l with cache := [] } _ scope rfl there' unstored
      exact ⟨f, w₁, w₂, fails₁, fails₂, same₁, same₂.trans alike, loaders⟩
    | true =>
      rw [Option.any_some, can]
      have key := (canLoad_iff.mp can).1
      obtain ⟨r, made, loads⟩ := load_instantiates can (faithful l there)
      have first := loads name l w scope rfl there stored
      have second := loads name { l with cache := [] } _ scope rfl there' unstored
      rw [emptied] at second
      cases imported : imports scope with
      | ok _ =>
        simp only [imported] at first second
        obtain ⟨w₁, runs₁, same₁⟩ := first
        obtain ⟨w₂, runs₂, same₂⟩ := second
        have functions := congrArg (·.host.functions) same₁
        have modules := congrArg (·.host.modules) same₁
        exact ⟨l, r, w₁, w₂, there, made, runs₁, emptied ▸ runs₂, same₁.trans same₂.symm, functions,
          modules.trans (modules_instantiated l.config r.lowered source scope w.host)⟩
      | error fault =>
        simp only [imported] at first second
        obtain ⟨w₁, fails₁, same₁, has⟩ := first
        obtain ⟨w₂, fails₂, same₂, -⟩ := second
        have functions := congrArg (·.host.functions) same₁
        have modules := congrArg (·.host.modules) same₁
        exact ⟨l, w₁, w₂, there, fails₁, emptied ▸ fails₂, same₁.trans same₂.symm, functions, modules,
          has⟩

end Load

open Page.Order in
/-- A list that is loaded for a second scope. -/
theorem load_as_if_fresh_again : ∃ w,
    Ends (LoaderCall.load "b" "(a=x, on:b=f, bind:value=w)" [("x", .none)]).act (loaderPage {}) w ∧
      RunsAlike "b" "(a=x, on:b=f, bind:value=w)" [("w", .wire 0)] w := by
  have can : canLoad {} "(a=x, on:b=f, bind:value=w)" = true := by
    obtain ⟨r, m, made, -, read, runnable⟩ := exists_of_readsBack readsBack_all
    exact canLoad_iff.mpr ⟨rfl, r, m, made, read, runnable⟩
  have faithful := faithful_of_readsBack readsBack_all
  have only {name : String} {l : Loader} (there : (loaderPage {}).host.loaders.get? name = some l) :
      l = { config := {} } := by
    have mem := Table.mem_of_get? there
    simp only [loaderPage, List.mem_singleton, Prod.mk.injEq] at mem
    exact mem.2
  have first : ∃ w, Ends (LoaderCall.load "b" "(a=x, on:b=f, bind:value=w)" [("x", .none)]).act
      (loaderPage {}) w ∧ Changes (loaderPage {}).host
        (.load "b" "(a=x, on:b=f, bind:value=w)" [("x", .none)]) w.host :=
    load_changes (fun l there => only there ▸ faithful) fun l there k found => by
      rw [only there] at found
      cases found
  obtain ⟨w, ends, changes⟩ := first
  have used : Used w := by
    refine .call (.fresh fun name l there => only there ▸ rfl) (fun x mem => ?_) ends
    exact List.mem_singleton.mp mem ▸ faithful
  obtain ⟨l, there, config⟩ := Option.map_eq_some_iff.mp (changes.configs "b")
  have again : if (w.host.loaders.get? "b").any (canLoad ·.config "(a=x, on:b=f, bind:value=w)") then _
      else _ :=
    load_as_if_fresh used (fun l' there' => by
      cases there.symm.trans there'
      exact config ▸ faithful) [("w", .wire 0)]
  rw [there, Option.any_some, config, can] at again
  exact ⟨w, ends, again⟩

def lateNames? : Module → Option (List String)
  | [.importAs _ _ a, .define f (.mk [] [.mk _ none] none [] none) _, .evaluate (.name x)] =>
    some [a, f, x]
  | _ => none

/-- Whether a list compiles to code that reads back with a name behind the binder. -/
def isLate (source : String) (names : List String) : Bool :=
  match (Compile.run {} source).result with
  | .error _ => false
  | .ok r => r.isOk && r.isWritable && !source.toList.any Text.isHalf &&
    (Module.read? (r.source ++ "\n")).any fun m => m.isRunnable && lateNames? m == some names

section Late

variable [Order]

theorem fails_execAll_cons {s : Stmt} (first : Runs (s.exec scope) w () w')
    (more : Fails (Stmt.execAll scope rest) w' f w'') :
    Fails (Stmt.execAll scope (s :: rest)) w f w'' := by
  rw [Stmt.execAll]
  exact first.fails more

theorem fails_late (late : lateNames? m = some ["_wb", "bind_attributes", "boom"])
    (text file : String) (w : World) :
    ∃ w', Fails (Act.instantiate {} ⟨m, text, file⟩ []) w (.misuse .name) w' ∧
      w'.host.loaders = w.host.loaders := by
  unfold lateNames? at late
  split at late
  case h_2 => cases late
  case h_1 package module a f element body x =>
    cases late
    let w₁ : World := ⟨w.graph, withModule file [] w.host⟩
    let size := w.host.modules.size
    let w₂ : World := ⟨w.graph, setGlobal w₁.host size "_wb" .supportModule⟩
    have imported : Runs (Stmt.exec ⟨[], size⟩ (.importAs package module "_wb")) w₁ () w₂ := by
      rw [Stmt.exec]
      refine (runs_host w₁).bind ?_
      simp only [w₁, size, getD_withModule, importer_scopeTable]
      exact runs_modifyHost _ _
    have params : Runs (Expr.evalParams ⟨[], size⟩ (.mk [] [.mk element none] none [] none)) w₂ [] w₂ := by
      have own : Runs (Expr.evalDefaults ⟨[], size⟩ [.mk element none]) w₂ [] w₂ := by
        rw [Expr.evalDefaults]
        exact runs_evalDefaults_nil w₂
      rw [Expr.evalParams]
      exact (runs_evalDefaults_nil w₂).bind (own.bind ((runs_evalDefaults_nil w₂).bind (runs_pure _ _)))
    let binder : Callable :=
      .code "bind_attributes" (.mk [] [.mk element none] none [] none) [] (.block body) ⟨[], size⟩
    let w₃ : World := ⟨w.graph, setGlobal (w₂.host.withFunction binder) size "bind_attributes"
      (.function w.host.functions.size)⟩
    have defined : Runs (Stmt.exec ⟨[], size⟩ (.define "bind_attributes"
        (.mk [] [.mk element none] none [] none) body)) w₂ () w₃ := by
      rw [Stmt.exec]
      exact params.bind ((runs_newFunction _ _).bind (runs_modifyHost _ _))
    have known : w₃.host.modules[size]? = some (((scopeTable file []).set "_wb" .supportModule).set "bind_attributes"
        (.function w.host.functions.size)) :=
      module_setGlobal (module_setGlobal Array.getElem?_push_size _ _) _ _
    have unknown : Fails (Stmt.exec ⟨[], size⟩ (.evaluate (.name "boom"))) w₃ (.misuse .name) w₃ := by
      rw [Stmt.exec, Expr.eval]
      refine Fails.bind ((runs_host w₃).fails ?_)
      simp only [Act.lookupFrames, Array.getD_eq_getD_getElem?, known, Option.getD_some]
      exact fails_fail _ _
    refine ⟨w₃, (runs_host w).fails ((runs_setHost _ w).fails (Fails.bind ?_)), rfl⟩
    refine fails_execAll_cons imported (fails_execAll_cons defined ?_)
    rw [Stmt.execAll]
    exact unknown.bind

end Late

open Page.Order in
/-- The text of a template with quotes of both kinds reads back as other code, which fails when it is
run, and is kept all the same. -/
theorem failing_load_is_kept : ∃ w',
    Fails (Act.load "b" "(ref=f\"a' \'\'\'x\'\'\' '\x7bx:'\\nboom # \x7d\\\"\\\"\\\"\")" [])
      (loaderPage {}) (.misuse .name) w' ∧
    (w'.host.loaders.get? "b").map (·.cache.length) = some 1 := by
  have bad : isLate "(ref=f\"a' \'\'\'x\'\'\' '\x7bx:'\\nboom # \x7d\\\"\\\"\\\"\")"
      ["_wb", "bind_attributes", "boom"] = true := by decide +kernel
  unfold isLate at bad
  split at bad
  case h_1 => cases bad
  case h_2 r compiled =>
    simp only [Bool.and_eq_true, Bool.not_eq_true', Option.any_eq_true, beq_iff_eq] at bad
    obtain ⟨⟨⟨ok, writable⟩, whole⟩, m, read, runnable, late⟩ := bad
    have compiles := runs_compileFor (l := { config := {} }) (w := loaderPage {}) "b"
      ⟨compiled, ok, writable, whole⟩ read runnable
    obtain ⟨w', fails, loaders⟩ := fails_late late _ _ ⟨_, withKept "b" _ { config := {} } r m _⟩
    refine ⟨w', (runs_loader rfl).fails (compiles.fails fails), ?_⟩
    rw [loaders]
    rfl

end AttrBinder.Page
