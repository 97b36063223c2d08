import AttrBinder.Proofs.Binder.Loading

/-!
The registry of generated texts. Loading registers a text and keeps its code, clearing drops both.
As long as no two lists share a file name, what a loader keeps is registered with its text, and what
is registered is kept by a loader, or was written for a list whose text is no code.
-/

namespace AttrBinder

namespace Table

variable {α : Type}

theorem mem_of_get? {t : Table α} (found : t.get? name = some a) : (name, a) ∈ t := by
  induction t with
  | nil => cases found
  | cons e rest ih =>
    rw [get?] at found
    split at found
    case isTrue same =>
      cases found
      rw [← same]
      exact List.mem_cons_self
    case isFalse => exact List.mem_cons_of_mem _ (ih found)

theorem ne_of_get?_eq_none {t : Table α} (absent : t.get? name = none) : ∀ e ∈ t, e.1 ≠ name := by
  induction t with
  | nil => simp
  | cons e rest ih =>
    rw [get?] at absent
    split at absent
    case isTrue => cases absent
    case isFalse other => exact List.forall_mem_cons.mpr ⟨other, ih absent⟩

theorem set_of_get?_eq_none {t : Table α} (fresh : t.get? name = none) (a : α) :
    t.set name a = t ++ [(name, a)] := by
  induction t with
  | nil => rfl
  | cons e rest ih =>
    rw [get?] at fresh
    split at fresh
    case isTrue => cases fresh
    case isFalse other => rw [set, if_neg other, ih fresh, List.cons_append]

theorem get?_erase_eq_some {t : Table α} {name other : String} {a : α} :
    (t.erase name).get? other = some a ↔ t.get? other = some a ∧ name ≠ other := by
  induction t with
  | nil => simp [erase]
  | cons e rest ih =>
    by_cases gone : e.1 = name
    · have skipped : erase (e :: rest) name = erase rest name := by simp [erase, gone]
      rw [skipped, ih, get?, gone]
      constructor
      · rintro ⟨found, ne⟩
        exact ⟨by rw [if_neg ne, found], ne⟩
      · rintro ⟨found, ne⟩
        exact ⟨by rwa [if_neg ne] at found, ne⟩
    · have stays : erase (e :: rest) name = e :: erase rest name := by simp [erase, gone]
      rw [stays, get?, get?]
      split
      case isTrue same =>
        exact ⟨fun found => ⟨found, fun eq => gone (same.trans eq.symm)⟩, And.left⟩
      case isFalse => exact ih

end Table

theorem Loader.get?_eraseFiles {cache : Table Compiled} {registry : Table String}
    {file text : String} :
    (cache.foldl (fun r (_, c) => r.erase c.file) registry).get? file = some text ↔
      registry.get? file = some text ∧ ∀ e ∈ cache, e.2.file ≠ file := by
  induction cache generalizing registry with
  | nil => simp
  | cons e rest ih =>
    rw [List.foldl_cons, ih, Table.get?_erase_eq_some, List.forall_mem_cons, and_assoc]

namespace Page

open Reactive (Steps Run)

/-! ## Calls of loaders -/

/-- A call of a loader. -/
inductive LoaderCall where
  | load (name source : String) (scope : Table Value)
  | clear (name : String)

def LoaderCall.act : LoaderCall → Act Unit
  | .load name source scope => do
    let _ ← Act.load name source scope
    return ()
  | .clear name => Act.clearCache name

section Calls

variable [Order]

def Ends (m : Act Unit) (w w' : World) : Prop :=
  Runs m w () w' ∨ ∃ f, Fails m w f w'

/-- Calls are made one after another, whether or not they fail. -/
inductive Played : World → List LoaderCall → World → Prop
  | nil (w : World) : Played w [] w
  | cons {w w₁ w' : World} {call : LoaderCall} {calls : List LoaderCall}
      (first : Ends call.act w w₁) (rest : Played w₁ calls w') : Played w (call :: calls) w'

theorem Ends.unique (first : Ends m w w₁) (second : Ends m w w₂) : w₁ = w₂ := by
  -- Each end says what running the steps with nothing behind them gives.
  let given (k : Nat) := Run.exec setting (Run.perform setting k) (m fun _ => .done none) w
  have outcome {w' : World} (ends : Ends m w w') :
      ∃ n, ∀ k, n ≤ k → (given k = .ok none w' ∨ ∃ f, given k = .raised f w') := by
    rcases ends with ⟨n, runs⟩ | ⟨f, n, fails⟩
    · exact ⟨n, fun k le => .inl (runs k le _)⟩
    · exact ⟨n, fun k le => .inr ⟨f, fails k le _⟩⟩
  obtain ⟨n, first⟩ := outcome first
  obtain ⟨l, second⟩ := outcome second
  rcases first (max n l) (Nat.le_max_left n l) with first | ⟨f, first⟩ <;>
    rcases second (max n l) (Nat.le_max_right n l) with second | ⟨f', second⟩ <;>
    rw [first] at second <;> cases second <;> rfl

theorem Played.unique (first : Played w calls w₁) (second : Played w calls w₂) : w₁ = w₂ := by
  induction first with
  | nil => cases second; rfl
  | cons ends _ ih =>
    cases second with
    | cons ends' rest => exact ih (ends.unique ends' ▸ rest)

end Calls

/-! ## What a call changes -/

/-- If the text that is generated for a list can be read, it reads back as what was generated. -/
def Faithful (c : Config) (source : String) : Prop :=
  ∀ r, Generates c source r → ∀ m, Module.read? (r.source ++ "\n") = some m →
    m.isRunnable = true → r.module = some m

/-- What a loader keeps of a list: the file name, the generated text, and the code read from it. -/
structure Keeps (c : Config) (source : String) (k : Compiled) : Prop where
  text : ∃ r, Generates c source r ∧ k.text = r.source ++ "\n"
  file : k.file = Loader.fileName c source
  read : Module.read? k.text = some k.module
  runnable : k.module.isRunnable = true

/-- All that a call of a loader can do to the loaders and to the registry. -/
inductive Changes (h : Host) : LoaderCall → Host → Prop
  | nothing {call : LoaderCall} {h' : Host} (loaders : h'.loaders = h.loaders)
      (registry : h'.registry = h.registry) : Changes h call h'
  | spoils {name source : String} {scope : Table Value} {l : Loader} {r : CompileResult} {h' : Host}
      (there : h.loaders.get? name = some l) (fresh : l.cache.get? source = none)
      (made : Generates l.config source r) (wrong : NoCode (r.source ++ "\n"))
      (loaders : h'.loaders = h.loaders)
      (registry : h'.registry =
        h.registry.set (Loader.fileName l.config source) (r.source ++ "\n")) :
      Changes h (.load name source scope) h'
  | keeps {name source : String} {scope : Table Value} {l : Loader} {k : Compiled} {h' : Host}
      (there : h.loaders.get? name = some l) (fresh : l.cache.get? source = none)
      (kept : Keeps l.config source k)
      (loaders : h'.loaders = h.loaders.set name { l with cache := l.cache ++ [(source, k)] })
      (registry : h'.registry = h.registry.set k.file k.text) :
      Changes h (.load name source scope) h'
  | clears {name : String} {l : Loader} {h' : Host} (there : h.loaders.get? name = some l)
      (loaders : h'.loaders = h.loaders.set name { l with cache := [] })
      (registry : h'.registry = l.cache.foldl (fun r (_, c) => r.erase c.file) h.registry) :
      Changes h (.clear name) h'

/-- The code that is kept of a list is what was generated for it, as far as it reads back. -/
theorem Keeps.eq_kept (faithful : Faithful c source) (kept : Keeps c source k) :
    ∃ r text, Generates c source r ∧
      k = ⟨(Generator.mk c fun _ => true).module r.lowered, text, Loader.fileName c source⟩ := by
  obtain ⟨⟨r, made, text⟩, file, read, runnable⟩ := kept
  have module := faithful r made k.module (text ▸ read) runnable
  obtain ⟨m, t, f⟩ := k
  obtain rfl : m = _ := Option.some.inj (module.symm.trans (Compile.module_eq made.compiled))
  obtain rfl : f = _ := file
  exact ⟨r, t, made, rfl⟩

section Calls

variable [Order] {name source : String} {scope : Table Value} {l : Loader} {w : World}

/-- A load of a list whose code a loader has or can have ends on a page with the same loaders. -/
theorem ends_load (faithful : Faithful l.config source) (kept : Keeps l.config source k)
    (there : w.host.loaders.get? name = some l) (key : l.config.key?.isSome = true)
    (fetches : Fetches name source l w k w₁) :
    ∃ w', Ends (LoaderCall.load name source scope).act w w' ∧
      w'.host.loaders = w₁.host.loaders ∧ w'.host.registry = w₁.host.registry := by
  obtain ⟨r, text, -, rfl⟩ := kept.eq_kept faithful
  cases imported : imports scope with
  | ok _ =>
    exact ⟨_, .inl ((runs_load there key fetches (runs_instantiate imported w₁)).bind
      (runs_pure _ _)), rfl, rfl⟩
  | error fault =>
    exact ⟨_, .inr ⟨_, (fails_load_instantiate there key fetches
      (fails_instantiate imported w₁)).bind⟩, rfl, rfl⟩

theorem load_changes (faithful : ∀ l, w.host.loaders.get? name = some l → Faithful l.config source)
    (keeps : ∀ l, w.host.loaders.get? name = some l → ∀ k, l.cache.get? source = some k →
      Keeps l.config source k) :
    ∃ w', Ends (LoaderCall.load name source scope).act w w' ∧
      Changes w.host (.load name source scope) w'.host := by
  cases there : w.host.loaders.get? name with
  | none => exact ⟨w, .inr ⟨_, ((fails_loader there).bind).bind⟩, .nothing rfl rfl⟩
  | some l =>
    cases key : l.config.key? with
    | none => exact ⟨w, .inr ⟨_, (fails_load_key there key).bind⟩, .nothing rfl rfl⟩
    | some _ =>
      have hasKey : l.config.key?.isSome = true := by rw [key]; rfl
      cases again : l.cache.get? source with
      | some k =>
        obtain ⟨w', ends, loaders, registry⟩ := ends_load (faithful l there) (keeps l there k again)
          there hasKey (.kept again)
        exact ⟨w', ends, .nothing loaders registry⟩
      | none =>
        by_cases made : ∃ r, Generates l.config source r
        · obtain ⟨r, made⟩ := made
          by_cases wrong : NoCode (r.source ++ "\n")
          · exact ⟨_, .inr ⟨_, (fails_load_compile there hasKey again
              (fails_compileFor_unreadable name made wrong)).bind⟩,
              .spoils there again made wrong rfl rfl⟩
          · simp only [NoCode, not_forall, Bool.not_eq_false] at wrong
            obtain ⟨m, read, runnable⟩ := wrong
            have kept : Keeps l.config source (kept l.config source r m) :=
              ⟨⟨r, made, rfl⟩, rfl, read, runnable⟩
            obtain ⟨w', ends, loaders, registry⟩ := ends_load (faithful l there) kept there hasKey
              (.new again (runs_compileFor name made read runnable))
            refine ⟨w', ends, .keeps there again kept ?_ registry⟩
            rw [loaders, ← Table.set_of_get?_eq_none again]
            rfl
        · obtain ⟨f, fails⟩ := fails_compileFor_ungenerated (not_exists.mp made)
          exact ⟨_, .inr ⟨_, (fails_load_compile there hasKey again (fails name l w rfl)).bind⟩,
            .nothing rfl rfl⟩

theorem clear_changes (name : String) (w : World) :
    ∃ w', Ends (LoaderCall.clear name).act w w' ∧ Changes w.host (.clear name) w'.host := by
  cases there : w.host.loaders.get? name with
  | none => exact ⟨w, .inr ⟨_, (fails_loader there).bind⟩, .nothing rfl rfl⟩
  | some l =>
    exact ⟨_, .inl ((runs_loader there).bind (runs_modifyHost _ _)), .clears there rfl rfl⟩

end Calls

/-! ## The registry -/

/-- A list that a loader is asked for. -/
structure Load where
  loader : String
  config : Config
  source : String

def Load.file (x : Load) : String :=
  Loader.fileName x.config x.source

def loads (h : Host) (calls : List LoaderCall) : List Load :=
  calls.filterMap fun call => match call with
    | .load name source _ => (h.loaders.get? name).map fun l => ⟨name, l.config, source⟩
    | .clear _ => none

theorem Changes.configs (changes : Changes h call h') (name : String) :
    (h'.loaders.get? name).map Loader.config = (h.loaders.get? name).map Loader.config := by
  have same {other : String} {l l' : Loader} (there : h.loaders.get? other = some l)
      (config : l'.config = l.config) :
      ((h.loaders.set other l').get? name).map Loader.config =
        (h.loaders.get? name).map Loader.config := by
    by_cases eq : name = other
    · rw [eq, Table.get?_set_self, there, Option.map_some, Option.map_some, config]
    · rw [Table.get?_set_ne _ _ eq]
  cases changes with
  | nothing loaders _ => rw [loaders]
  | spoils _ _ _ _ loaders _ => rw [loaders]
  | keeps there _ _ loaders _ =>
    rw [loaders]
    exact same there rfl
  | clears there loaders _ =>
    rw [loaders]
    exact same there rfl

theorem Changes.loads_eq (changes : Changes h call h')
    (calls : List LoaderCall) : loads h' calls = loads h calls := by
  unfold loads
  congr 1
  funext call
  cases call with
  | clear _ => rfl
  | load name source _ =>
    have config := changes.configs name
    cases there : h.loaders.get? name <;> cases there' : h'.loaders.get? name <;>
      simp_all

/-- The registry goes with what loaders keep: everything kept is registered, and what is registered
is kept, or is a text that is no code. -/
structure Tidy (all : List Load) (h : Host) : Prop where
  kept : ∀ name l, h.loaders.get? name = some l → ∀ e ∈ l.cache,
    ⟨name, l.config, e.1⟩ ∈ all ∧ Keeps l.config e.1 e.2 ∧ h.registry.get? e.2.file = some e.2.text
  registered : ∀ file text, h.registry.get? file = some text →
    (∃ name l, h.loaders.get? name = some l ∧ ∃ e ∈ l.cache, e.2.file = file) ∨
    ∃ x ∈ all, x.file = file ∧ ∃ r, Generates x.config x.source r ∧ text = r.source ++ "\n" ∧
      NoCode text

section Tidy

variable {all : List Load} {h h' : Host} {call : LoaderCall}

/-- Files tell lists apart: two lists that are asked for under one file name are the same list of
the same loader. -/
def Unshared (all : List Load) : Prop :=
  ∀ x ∈ all, ∀ y ∈ all, x.file = y.file → x.loader = y.loader ∧ x.source = y.source

theorem Tidy.owner (tidy : Tidy all h) (apart : Unshared all) {name : String} {l : Loader}
    (there : h.loaders.get? name = some l) {e : String × Compiled} (mem : e ∈ l.cache) {x : Load}
    (known : x ∈ all) (same : e.2.file = x.file) : name = x.loader ∧ e.1 = x.source := by
  obtain ⟨asked, keeps, -⟩ := tidy.kept name l there e mem
  exact apart ⟨name, l.config, e.1⟩ asked x known (keeps.file.symm.trans same)

theorem Tidy.get?_set (tidy : Tidy all h) (apart : Unshared all) {l : Loader} {source text : String}
    (there : h.loaders.get? name = some l) (fresh : l.cache.get? source = none)
    (known : ⟨name, l.config, source⟩ ∈ all) {name' : String} {l' : Loader}
    (there' : h.loaders.get? name' = some l') {e : String × Compiled} (mem : e ∈ l'.cache) :
    (h.registry.set (Loader.fileName l.config source) text).get? e.2.file = some e.2.text := by
  rw [Table.get?_set_ne]
  · exact (tidy.kept name' l' there' e mem).2.2
  · intro same
    obtain ⟨rfl, eq⟩ := tidy.owner apart there' mem known same
    cases there.symm.trans there'
    exact Table.ne_of_get?_eq_none fresh e mem eq

theorem Tidy.step (tidy : Tidy all h) (apart : Unshared all)
    (known : ∀ x ∈ loads h [call], x ∈ all) (changes : Changes h call h') : Tidy all h' := by
  cases changes with
  | nothing loaders registry =>
    refine ⟨?_, ?_⟩ <;> rw [loaders, registry]
    · exact tidy.kept
    · exact tidy.registered
  | @spoils name source _ l r _ there fresh made wrong loaders registry =>
    have asked : ⟨name, l.config, source⟩ ∈ all := known _ (by simp [loads, there])
    refine ⟨?_, ?_⟩ <;> rw [loaders, registry]
    · intro name' l' there' e mem
      obtain ⟨other, keeps, -⟩ := tidy.kept name' l' there' e mem
      exact ⟨other, keeps, tidy.get?_set apart there fresh asked there' mem⟩
    · intro file text found
      by_cases eq : file = Loader.fileName l.config source
      · rw [eq, Table.get?_set_self] at found
        cases found
        exact .inr ⟨_, asked, eq.symm, r, made, rfl, wrong⟩
      · rw [Table.get?_set_ne _ _ eq] at found
        exact tidy.registered file text found
  | @keeps name source _ l k _ there fresh kept loaders registry =>
    have asked : ⟨name, l.config, source⟩ ∈ all := known _ (by simp [loads, there])
    have others {name' : String} {l' : Loader} (there' : h.loaders.get? name' = some l')
        {e : String × Compiled} (mem : e ∈ l'.cache) :
        (h.registry.set k.file k.text).get? e.2.file = some e.2.text := by
      rw [kept.file]
      exact tidy.get?_set apart there fresh asked there' mem
    refine ⟨?_, ?_⟩ <;> rw [loaders, registry]
    · intro name' l' there' e mem
      by_cases eq : name' = name
      · rw [eq, Table.get?_set_self] at there'
        cases there'
        rw [eq]
        rcases List.mem_append.mp mem with mem | mem
        · obtain ⟨other, keeps, -⟩ := tidy.kept name l there e mem
          exact ⟨other, keeps, others there mem⟩
        · rw [List.mem_singleton.mp mem]
          exact ⟨asked, kept, Table.get?_set_self _ _ _⟩
      · rw [Table.get?_set_ne _ _ eq] at there'
        obtain ⟨other, keeps, -⟩ := tidy.kept name' l' there' e mem
        exact ⟨other, keeps, others there' mem⟩
    · intro file text found
      by_cases eq : file = k.file
      · exact .inl ⟨name, _, Table.get?_set_self _ _ _, (source, k), by simp, eq.symm⟩
      · rw [Table.get?_set_ne _ _ eq] at found
        refine (tidy.registered file text found).imp_left ?_
        rintro ⟨name', l', there', e, mem, same⟩
        by_cases eq : name' = name
        · rw [eq] at there'
          cases there.symm.trans there'
          exact ⟨name, _, Table.get?_set_self _ _ _, e, by simp [mem], same⟩
        · exact ⟨name', l', by rwa [Table.get?_set_ne _ _ eq], e, mem, same⟩
  | @clears name l _ there loaders registry =>
    refine ⟨?_, ?_⟩ <;> rw [loaders, registry]
    · intro name' l' there' e mem
      by_cases eq : name' = name
      · rw [eq, Table.get?_set_self] at there'
        cases there'
        cases mem
      · rw [Table.get?_set_ne _ _ eq] at there'
        obtain ⟨other, keeps, found⟩ := tidy.kept name' l' there' e mem
        refine ⟨other, keeps, Loader.get?_eraseFiles.mpr ⟨found, fun e' mem' same => eq ?_⟩⟩
        exact (tidy.owner apart there mem' other (same.trans keeps.file)).1.symm
    · intro file text found
      obtain ⟨found, erased⟩ := Loader.get?_eraseFiles.mp found
      refine (tidy.registered file text found).imp_left ?_
      rintro ⟨name', l', there', e, mem, same⟩
      by_cases eq : name' = name
      · rw [eq] at there'
        cases there.symm.trans there'
        exact absurd same (erased e mem)
      · exact ⟨name', l', by rwa [Table.get?_set_ne _ _ eq], e, mem, same⟩

variable [Order]

theorem Tidy.call_changes {w : World} (tidy : Tidy all w.host)
    (faithful : ∀ x ∈ all, Faithful x.config x.source)
    (known : ∀ x ∈ loads w.host [call], x ∈ all) :
    ∃ w', Ends call.act w w' ∧ Changes w.host call w'.host := by
  cases call with
  | clear name => exact clear_changes name w
  | load name source scope =>
    refine load_changes (fun l there => ?_) fun l there k found => ?_
    · exact faithful ⟨name, l.config, source⟩ (known _ (by simp [loads, there]))
    · exact (tidy.kept name l there _ (Table.mem_of_get? found)).2.1

theorem Tidy.exists_played {w : World} (tidy : Tidy all w.host)
    (apart : Unshared all) (faithful : ∀ x ∈ all, Faithful x.config x.source)
    (known : ∀ x ∈ loads w.host calls, x ∈ all) : ∃ w', Played w calls w' ∧ Tidy all w'.host := by
  induction calls generalizing w with
  | nil => exact ⟨w, .nil w, tidy⟩
  | cons call calls ih =>
    have split_ : loads w.host (call :: calls) = loads w.host [call] ++ loads w.host calls :=
      List.filterMap_append (l := [call])
    rw [split_] at known
    have first : ∀ x ∈ loads w.host [call], x ∈ all := fun x mem =>
      known x (List.mem_append_left _ mem)
    obtain ⟨w₁, ends, changes⟩ := tidy.call_changes faithful first
    obtain ⟨w', played, tidy'⟩ := ih (tidy.step apart first changes) fun x mem =>
      known x (List.mem_append_right _ (changes.loads_eq calls ▸ mem))
    exact ⟨w', .cons ends played, tidy'⟩

end Tidy

/-- The registry follows the loaders. Whatever calls are made of loaders that have kept nothing yet,
whether they fail or not: what a loader keeps is registered with the text that was generated for its
list and that its code was read from; and what is registered is kept by a loader, or was generated
for a list that a loader was asked for and is no code. So once all loaders are cleared, nothing but
such texts is left. -/
theorem registry_follows_loaders [Order] {w : World} {calls : List LoaderCall}
    (empty : w.host.registry = [])
    (fresh : ∀ name l, w.host.loaders.get? name = some l → l.cache = [])
    (apart : Unshared (loads w.host calls))
    (faithful : ∀ x ∈ loads w.host calls, Faithful x.config x.source) :
    (∃ w', Played w calls w') ∧ ∀ w', Played w calls w' →
      (∀ name l, w'.host.loaders.get? name = some l → ∀ source k, (source, k) ∈ l.cache →
        w'.host.registry.get? k.file = some k.text ∧ Keeps l.config source k) ∧
      ∀ file text, w'.host.registry.get? file = some text →
        (∃ name l, w'.host.loaders.get? name = some l ∧ ∃ e ∈ l.cache, e.2.file = file) ∨
        ∃ x ∈ loads w.host calls, x.file = file ∧ ∃ r, Generates x.config x.source r ∧
          text = r.source ++ "\n" ∧ NoCode text := by
  have tidy : Tidy (loads w.host calls) w.host := by
    refine ⟨fun name l there e mem => ?_, fun file text found => ?_⟩
    · rw [fresh name l there] at mem
      cases mem
    · rw [empty] at found
      cases found
  obtain ⟨w', played, tidy'⟩ := tidy.exists_played apart faithful fun _ mem => mem
  refine ⟨⟨w', played⟩, fun w'' played' => ?_⟩
  obtain rfl := played.unique played'
  refine ⟨fun name l there source k mem => ?_, tidy'.registered⟩
  obtain ⟨-, keeps, found⟩ := tidy'.kept name l there (source, k) mem
  exact ⟨found, keeps⟩

def twoLoaders : World where
  graph := {}
  host := { loaders :=
    [("a", { config := { origin := { file := "a" } } }), ("b", { config := {} })] }

theorem faithful_of_readsBack (good : readsBack c source = true) : Faithful c source := by
  intro r made m read _
  obtain ⟨r', m', made', generated, reads, -⟩ := exists_of_readsBack good
  cases made.unique made'
  rw [generated, ← reads, read]

def twoCalls : List LoaderCall :=
  [.load "a" "(ref=r)" [], .load "b" "(a=x, on:b=f, bind:value=w)" [], .clear "a"]

open Page.Order in
theorem registry_follows_loaders_two :
    ∃ w', Played twoLoaders twoCalls w' ∧
      ∀ name l, w'.host.loaders.get? name = some l → ∀ source k, (source, k) ∈ l.cache →
        w'.host.registry.get? k.file = some k.text := by
  have other : readsBack { origin := { file := "a" } } "(ref=r)" = true := by decide +kernel
  have asked : loads twoLoaders.host twoCalls =
      [⟨"a", { origin := { file := "a" } }, "(ref=r)"⟩, ⟨"b", {}, "(a=x, on:b=f, bind:value=w)"⟩] := rfl
  have fresh : ∀ name l, twoLoaders.host.loaders.get? name = some l → l.cache = [] := by
    intro name l there
    have mem := Table.mem_of_get? there
    simp only [twoLoaders, List.mem_cons, Prod.mk.injEq, List.not_mem_nil, or_false] at mem
    rcases mem with ⟨-, rfl⟩ | ⟨-, rfl⟩ <;> rfl
  have apart : Unshared (loads twoLoaders.host twoCalls) := by
    rw [asked, Unshared]
    decide +kernel
  have faithful : ∀ x ∈ loads twoLoaders.host twoCalls, Faithful x.config x.source := by
    rw [asked, List.forall_mem_cons, List.forall_mem_singleton]
    exact ⟨faithful_of_readsBack other, faithful_of_readsBack readsBack_all⟩
  obtain ⟨⟨w', played⟩, all⟩ := registry_follows_loaders rfl fresh apart faithful
  exact ⟨w', played, fun name l there source k mem =>
    ((all w' played).1 name l there source k mem).1⟩

open Page.Order in
/-- A load that fails because its text is no code leaves the text behind, where no clearing finds
it. -/
theorem failed_load_stays_registered : ∃ c w',
    Config.ofOptions { functionName := .str "class" } = .ok c ∧
    Played (loaderPage c) [.load "b" "(title=1)" [], .clear "b"] w' ∧
    (∀ name l, w'.host.loaders.get? name = some l → l.cache = []) ∧
    (w'.host.registry.get? (Loader.fileName c "(title=1)")).isSome = true := by
  obtain ⟨r, made, unread⟩ := exists_unreadable
  have fails := fails_compileFor_unreadable (w := loaderPage { functionName := "class" })
    (l := { config := { functionName := "class" } }) "b" made unread
  refine ⟨{ functionName := "class" }, _, rfl, .cons (.inr ⟨_, (fails_load_compile rfl rfl rfl
    fails).bind⟩) (.cons (.inl ((runs_loader rfl).bind (runs_modifyHost _ _))) (.nil _)),
    fun name l there => ?_, ?_⟩
  · have mem := Table.mem_of_get? there
    simp only [withText, loaderPage, Table.set, if_true, List.mem_cons, Prod.mk.injEq,
      List.not_mem_nil, or_false] at mem
    rw [mem.2]
  · exact congrArg Option.isSome (Table.get?_set_self _ _ _)

end Page

end AttrBinder
