import AttrBinder.Proofs.Reactive.Likeness

/-!
Fuel decides nothing but whether a run ends: with more of it, a run that ends comes to the same.
Whatever spends fuel does so by nested tasks, or by the bound on a flush; the parts of a run are
therefore compared for two ways to perform nested tasks of which the second agrees with the first
wherever the first ends.
-/

namespace AttrBinder.Reactive

namespace Run

variable {V C H E α β : Type}

/-- The second run comes to what the first one comes to, wherever the first one ends. -/
def Agrees (m m' : Run V C H E α) : Prop :=
  ∀ w, (m w).ended?.isSome → m' w = m w

theorem Agrees.bind (hm : Agrees m m')
    (hf : ∀ a, Agrees (f a) (f' a)) : Agrees (m >>= f) (m' >>= f') := by
  intro w ends
  have first := hm w
  rw [bind_apply] at ends ⊢
  rw [bind_apply]
  cases hw : m w with
  | ok a w₁ =>
    rw [hw] at ends first
    rw [first rfl]
    exact hf a w₁ ends
  | raised e w₁ =>
    rw [hw] at first
    rw [first rfl]
  | exhausted w₁ =>
    rw [hw] at ends
    cases ends

theorem Agrees.attempt (hm : Agrees m m') : Agrees (attempt m) (attempt m') := by
  intro w ends
  have first := hm w
  unfold Run.attempt at ends ⊢
  cases hw : m w with
  | ok a w₁ =>
    rw [hw] at first
    rw [first rfl]
  | raised e w₁ =>
    rw [hw] at first
    rw [first rfl]
  | exhausted w₁ =>
    rw [hw] at ends
    cases ends

def agreeing (Γ : Setting V C H E) : Likeness Γ Γ where
  like := Agrees
  strict := False
  fault := rfl
  caught := rfl
  arrange := rfl
  pure _ _ _ := rfl
  raise _ _ _ := rfl
  exhausted _ _ ends := nomatch ends
  graph _ _ := rfl
  modify _ _ _ := rfl
  notice _ _ _ := rfl
  bind := Agrees.bind
  attempt := Agrees.attempt

variable [Inhabited V] [Inhabited C] (Γ : Setting V C H E)

theorem agrees_exec {again again' : Task V C H E → Run V C H E (Option V)}
    (h : (agreeing Γ).Nested again again') (s : Script V C H E) :
    Agrees (exec Γ again s) (exec Γ again' s) := by
  let L := agreeing Γ
  induction s with
  | done r => exact L.pure r
  | raise e => exact L.raise e
  | look next ih => exact fun w => ih w.graph w.host w
  | replace h next ih => exact fun w => ih { w with host := h }
  | read s next ih => exact L.bind (h.readSource s) fun v => ih v
  | newWire v next ih => exact L.bind L.graph fun g => L.bind (L.modify _) fun _ => ih _
  | write i v next ih => exact L.bind (h.writeWire i v) fun _ => ih
  | freeze i next ih => exact L.bind (L.modify _) fun _ => ih
  | newDerived l c next ih => exact L.bind L.graph fun g => L.bind (L.modify _) fun _ => ih _
  | newEffect l c next ih =>
    exact L.bind L.graph fun g => L.bind (L.modify _) fun _ =>
      L.bind (h.execute (.effect g.effects.size)) fun _ => ih _
  | execute t next ih => exact L.bind (h.execute t) fun _ => ih
  | dispose i next ih => exact L.bind (L.modify _) fun _ => L.bind (L.notice _) fun _ => ih
  | startBatch next ih => exact L.bind (L.modify _) fun _ => ih
  | endBatch next ih => exact L.bind h.leave fun _ => ih
  | batch body next ihBody ihNext =>
    exact L.bind (L.modify _) fun _ => L.bind (L.ensure ihBody fun _ => h.leave) fun r => ihNext r
  | attempt body next ihBody ihNext => exact L.bind (L.attempt ihBody) fun r => ihNext r
  | call c next ih => exact L.bind (h.body c) fun r => ih r

theorem perform_mono (le : n ≤ k)
    (t : Task V C H E) : Agrees (perform Γ n t) (perform Γ k t) := by
  induction n generalizing k t with
  | zero => exact fun _ ends => nomatch ends
  | succ n ih =>
    obtain ⟨k, rfl⟩ : ∃ l, k = l + 1 := ⟨k - 1, by omega⟩
    have less : n ≤ k := Nat.le_of_succ_le_succ le
    have nested : (agreeing Γ).Nested (perform Γ n) (perform Γ k) :=
      ⟨fun _ => ih less _, fun _ _ => ih less _, fun _ => ih less _, fun _ => ih less _, ih less _⟩
    cases t with
    | script s => exact agrees_exec Γ nested s
    | execute t => exact nested.performWith_execute _ _ t
    | value i => exact nested.performWith_value _ _ i
    | leave => exact nested.performWith_leave (Nat.mul_le_mul less less) nofun

theorem perform_ended {Γ : Setting V C H E} {n k : Nat} (le : n ≤ k)
    {t : Task V C H E} {w w' : World V C H} (ends : (perform Γ n t w).ended? = some w') :
    (perform Γ k t w).ended? = some w' := by
  rw [perform_mono Γ le t w (ends ▸ rfl)]
  exact ends

end Run

end AttrBinder.Reactive
