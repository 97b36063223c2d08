import AttrBinder.Value.Equality

/-!
Comparing values. A comparison looks at the page and reads wires, and does nothing else; so whatever
holds of scripts that do no more than that holds of a comparison with what follows it.
-/

namespace AttrBinder.Page

open Reactive (Steps)

/-- A property of all that may follow steps is one of the steps with what follows. -/
def Carries {α : Type} (P : Action → Prop) (m : Act α) : Prop :=
  ∀ next, (∀ a, P (next a)) → P (m next)

/-- A property that scripts keep when they fail, look at the page or read a wire. -/
structure AdmitsReading (P : Action → Prop) : Prop where
  raise : ∀ f, P (.raise f)
  look : ∀ next, (∀ g h, P (next g h)) → P (.look next)
  read : ∀ i next, (∀ v, P (next v)) → P (.read (.wire i) next)

variable {α β : Type} {P : Action → Prop}

theorem carries_pure (a : α) : Carries P (pure a : Act α) :=
  fun _ later => later a

theorem Carries.bind (first : Carries P m)
    (second : ∀ a, Carries P (f a)) : Carries P (m >>= f) :=
  fun next later => first _ fun a => second a next later

theorem AdmitsReading.wire (admits : AdmitsReading P) (i : Nat) :
    Carries P (Steps.read (.wire i) : Act Value) :=
  fun _ later => admits.read i _ later

theorem AdmitsReading.host (admits : AdmitsReading P) : Carries P (Steps.host : Act Host) :=
  fun _ later => admits.look _ fun _ h => later h

section Items

variable {same : Value → Value → Act Bool}

theorem carries_allSame (each : ∀ a b, Carries P (same a b)) (xs ys : List Value) :
    Carries P (Act.allSame same xs ys) := by
  induction xs generalizing ys with
  | nil => exact carries_pure true
  | cons x xs ih =>
    cases ys with
    | nil => exact carries_pure true
    | cons y ys =>
      refine (each x y).bind fun e => ?_
      cases e with
      | true => exact ih ys
      | false => exact carries_pure false

theorem carries_allFound (each : ∀ a b, Carries P (same a b))
    (others entries : List (Value × Value)) :
    Carries P (Act.allFound same others entries) := by
  induction entries with
  | nil => exact carries_pure true
  | cons entry entries ih =>
    obtain ⟨k, v⟩ := entry
    unfold Act.allFound
    cases Value.lookup? others k with
    | none => exact carries_pure false
    | some u =>
      refine (each u v).bind fun e => ?_
      cases e with
      | true => exact ih
      | false => exact carries_pure false

theorem carries_orIdentical (each : ∀ a b, Carries P (same a b)) (a b : Value) :
    Carries P (Act.orIdentical same a b) := by
  unfold Act.orIdentical
  split
  · exact carries_pure true
  · exact each a b

end Items

theorem AdmitsReading.equalWithin (admits : AdmitsReading P) (n : Nat) (a b : Value) :
    Carries P (Act.equalWithin n a b) := by
  induction n generalizing a b with
  | zero => exact fun _ _ => admits.raise _
  | succ n ih =>
    have same := carries_orIdentical ih
    unfold Act.equalWithin
    split
    · exact carries_pure _
    · exact (admits.wire _).bind fun v => ih v _
    · exact (admits.wire _).bind fun v => ih v _
    · refine admits.host.bind fun h => ?_
      split
      · exact carries_pure _
      · split
        · exact carries_allSame same _ _
        · exact carries_pure _
    · exact (carries_allSame same _ _).bind fun _ => carries_pure _
    · split
      · exact carries_allFound same _ _
      · exact carries_pure _
    · exact carries_allSame same _ _
    · exact carries_pure _

end AttrBinder.Page
