import Mathlib.Logic.Relation
import Mathlib.Order.Basic
import AttrBinder.Proofs.Reactive.Run

/-!
What derived values are worth, apart from any run. A `Sheet` fixes the wires and the derived values
of a system; `Gives` evaluates a source from the values of the wires alone, with no caches. A source
gives one value at most, and a derived value that gives one does not need itself.

Hosts are ordered: code leaves what it finds on a host and may add to it, and a script is judged for
every host that can stand there by then.
-/

namespace AttrBinder.Reactive

variable {V C H E : Type}

/-- The wires and the derived values of a system, what each wire may hold, the code that effects
run, and the least host on which code runs. -/
structure Sheet (V C H : Type) where
  wires : Nat
  deriveds : Nat
  formula : Nat → C
  holds : Nat → V → Prop
  action : C → Prop
  base : H

/-- A script that only reads sources, with the values that it gets, and returns. It may look at the
host and call code, and it may add to the host. -/
inductive Script.Traces [LE H] (Γ : Setting V C H E) :
    Script V C H E → H → List (Source × V) → Option V → Prop
  | done (r : Option V) (h : H) : Traces Γ (.done r) h [] r
  | look {next : Graph V C → H → Script V C H E} {h : H} {L : List (Source × V)} {r : Option V} :
      (∀ g, Traces Γ (next g h) h L r) → Traces Γ (.look next) h L r
  | replace {next : Script V C H E} {h h' : H} {L : List (Source × V)} {r : Option V} :
      h ≤ h' → Traces Γ next h' L r → Traces Γ (.replace h' next) h L r
  | read {s : Source} {v : V} {next : V → Script V C H E} {h : H} {L : List (Source × V)}
      {r : Option V} : (∀ h', h ≤ h' → Traces Γ (next v) h' L r) →
      Traces Γ (.read s next) h ((s, v) :: L) r
  | call {c : C} {next : Option V → Script V C H E} {h : H} {L K : List (Source × V)}
      {r r' : Option V} : Traces Γ (Γ.body c) h L r →
      (∀ h', h ≤ h' → Traces Γ (next r) h' K r') →
      Traces Γ (.call c next) h (L ++ K) r'

namespace Sheet

variable [Inhabited V] [Preorder H] (S : Sheet V C H) (Γ : Setting V C H E) (σ : Nat → V)

def Formula (d : Nat) (L : List (Source × V)) (r : Option V) : Prop :=
  ∀ h, S.base ≤ h → (Γ.body (S.formula d)).Traces Γ h L r

/-- The value of a source when the wires hold what `σ` says. -/
inductive Gives : Source → V → Prop
  | wire {i : Nat} : i < S.wires → Gives (.wire i) (σ i)
  | derived {d : Nat} {L : List (Source × V)} {r : Option V} : d < S.deriveds →
      S.Formula Γ d L r → (∀ s v, (s, v) ∈ L → Gives s v) →
      Gives (.derived d) (r.getD default)

def Holds : Prop :=
  ∀ i, i < S.wires → S.holds i (σ i)

def Possible (s : Source) (v : V) : Prop :=
  ∃ σ, S.Holds σ ∧ S.Gives Γ σ s v

def Needs (d j : Nat) : Prop :=
  ∃ L r v, S.Formula Γ d L r ∧ (∀ s v, (s, v) ∈ L → S.Gives Γ σ s v) ∧
    (.derived j, v) ∈ L

variable {S Γ σ}

omit [Inhabited V] in
theorem traces_fork {script : Script V C H E} (a : script.Traces Γ h L r)
    (b : script.Traces Γ h L' r') :
    (L = L' ∧ r = r') ∨ ∃ K s v v' M M', v ≠ v' ∧ L = K ++ (s, v) :: M ∧ L' = K ++ (s, v') :: M' := by
  induction a generalizing L' r' with
  | done r h =>
    cases b
    exact .inl ⟨rfl, rfl⟩
  | look _ ih =>
    cases b with
    | look rest => exact ih {} (rest {})
  | replace _ _ ih =>
    cases b with
    | replace _ rest => exact ih rest
  | @read s v next h L r _ ih =>
    cases b with
    | @read _ v' _ _ L1 _ rest =>
      by_cases same : v = v'
      · subst same
        rcases ih h (le_refl h) (rest h (le_refl h)) with
          ⟨rfl, rfl⟩ | ⟨K, s', u, u', M, M', ne, rfl, rfl⟩
        · exact .inl ⟨rfl, rfl⟩
        · exact .inr ⟨(s, v) :: K, s', u, u', M, M', ne, rfl, rfl⟩
      · exact .inr ⟨[], s, v, v', L, L1, same, rfl, rfl⟩
  | @call c next h L K r r1 _ _ ihCode ihNext =>
    cases b with
    | @call _ _ _ _ K1 _ _ code rest =>
      rcases ihCode code with ⟨rfl, rfl⟩ | ⟨K, s, u, u', M, M', ne, rfl, rfl⟩
      · rcases ihNext h (le_refl h) (rest h (le_refl h)) with
          ⟨rfl, rfl⟩ | ⟨K, s, u, u', M, M', ne, rfl, rfl⟩
        · exact .inl ⟨rfl, rfl⟩
        · exact .inr ⟨L ++ K, s, u, u', M, M', ne, by simp, by simp⟩
      · exact .inr ⟨K, s, u, u', M ++ _, M' ++ _, ne, by simp; rfl, by simp; rfl⟩

theorem traces_unique {script : Script V C H E} (a : script.Traces Γ h L r)
    (b : script.Traces Γ h L' r')
    (unique : ∀ s v, (s, v) ∈ L → ∀ v', S.Gives Γ σ s v' → v' = v)
    (given : ∀ s v, (s, v) ∈ L' → S.Gives Γ σ s v) : L = L' ∧ r = r' := by
  refine (traces_fork a b).resolve_right ?_
  rintro ⟨K, s, v, v', M, M', ne, rfl, rfl⟩
  exact ne (unique s v (by simp) v' (given s v' (by simp))).symm

theorem Formula.unique (a : S.Formula Γ d L r) (b : S.Formula Γ d L' r')
    (unique : ∀ s v, (s, v) ∈ L → ∀ v', S.Gives Γ σ s v' → v' = v)
    (given : ∀ s v, (s, v) ∈ L' → S.Gives Γ σ s v) : L = L' ∧ r = r' :=
  traces_unique (a S.base (le_refl _)) (b S.base (le_refl _)) unique given

theorem Gives.unique (h : S.Gives Γ σ s v) (h' : S.Gives Γ σ s v') : v' = v := by
  induction h generalizing v' with
  | wire _ =>
    cases h'
    rfl
  | derived _ traced _ ih =>
    cases h' with
    | derived _ traced' given' =>
      obtain ⟨_, rfl⟩ := traced.unique traced' (fun s v hv v' => ih s v hv) given'
      rfl

theorem Gives.acc (h : S.Gives Γ σ (.derived d) v) :
    Acc (fun j d => S.Needs Γ σ d j) d := by
  generalize hs : Source.derived d = s at h
  induction h generalizing d with
  | wire _ => cases hs
  | @derived e L r _ traced given ih =>
    cases hs
    constructor
    rintro j ⟨L', r', u, traced', given', hu⟩
    obtain ⟨rfl, rfl⟩ := traced.unique traced'
      (fun s v hv v' hv' => (given s v hv).unique hv') given'
    exact ih _ u hu rfl

theorem Gives.not_needed (h : S.Gives Γ σ (.derived d) v)
    (hj : S.Needs Γ σ d j) : ¬ Relation.ReflTransGen (S.Needs Γ σ) j d := by
  intro back
  have irreflexive : ∀ {d}, Acc (Relation.TransGen fun j d => S.Needs Γ σ d j) d →
      ¬ Relation.TransGen (fun j d => S.Needs Γ σ d j) d d := by
    intro d acc
    induction acc with
    | intro d _ ih => exact fun loop => ih d loop loop
  refine irreflexive h.acc.transGen ?_
  rw [Relation.transGen_swap (r := S.Needs Γ σ)]
  exact Relation.TransGen.head' hj back

end Sheet

end AttrBinder.Reactive
