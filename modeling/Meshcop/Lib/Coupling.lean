/-
  Meshcop.Lib.Coupling — two runs side by side.

  To say that a computation does not depend on a part of its state, one runs it twice, from
  states that differ in that part only, and compares.  `Coupled R V m m'` is the comparison:
  from states related by `R` both computations return, with results related by `V`, or both
  fail, with the same error, and the states they leave are related by `R` again.

  There is one rule for each way a computation is built.  A run may read its whole state, so
  what `get` hands to the rest of the two computations is related by `R` and need not be equal.
-/

import Meshcop.Lib.Computation

namespace Lib

variable {ε ε' σ τ ρ α β γ δ : Type}

/-! ## §1. Coupled runs. -/

/-- Two outcomes of the same kind, with related results and states. -/
inductive Alike (R : σ → τ → Prop) (V : α → β → Prop) :
    EStateM.Result ε σ α → EStateM.Result ε τ β → Prop where
  | ok {a : α} {b : β} {s : σ} {t : τ} (value : V a b) (state : R s t) :
      Alike R V (.ok a s) (.ok b t)
  | error (e : ε) {s : σ} {t : τ} (state : R s t) : Alike R V (.error e s) (.error e t)

/-- From related states the two computations end alike. -/
def Coupled (R : σ → τ → Prop) (V : α → β → Prop) (m : EStateM ε σ α) (m' : EStateM ε τ β) :
    Prop :=
  ∀ s t, R s t → Alike R V (m s) (m' t)

/-- Outcomes that are alike leave related states. -/
theorem Alike.stateOf {R : σ → τ → Prop} {V : α → β → Prop} {x : EStateM.Result ε σ α}
    {y : EStateM.Result ε τ β} (h : Alike R V x y) : R (stateOf x) (stateOf y) := by
  cases h with
  | ok _ state => exact state
  | error _ state => exact state

/-! ## §2. The rules. -/

section Rules

variable {R : σ → τ → Prop}

theorem coupled_pure {V : α → β → Prop} {a : α} {b : β} (h : V a b) :
    Coupled R V (pure a : EStateM ε σ α) (pure b) :=
  fun _ _ hR => .ok h hR

theorem coupled_throw {V : α → β → Prop} (e : ε) :
    Coupled R V (throw e : EStateM ε σ α) (throw e) :=
  fun _ _ hR => .error e hR

theorem coupled_get : Coupled R R (get : EStateM ε σ σ) get := fun _ _ hR => .ok hR hR

theorem coupled_modify {f : σ → σ} {f' : τ → τ} (h : ∀ s t, R s t → R (f s) (f' t)) :
    Coupled R Eq (modify f : EStateM ε σ PUnit) (modify f') :=
  fun s t hR => .ok rfl (h s t hR)

theorem coupled_attempt (conv : ε' → ε) (x : Except ε' α) :
    Coupled R Eq (attempt conv x : EStateM ε σ α) (attempt conv x) := by
  cases x with
  | ok a => exact coupled_pure rfl
  | error e => exact coupled_throw (conv e)

theorem coupled_bind {V : α → β → Prop} {W : γ → δ → Prop} {m : EStateM ε σ α}
    {m' : EStateM ε τ β} {f : α → EStateM ε σ γ} {f' : β → EStateM ε τ δ}
    (hm : Coupled R V m m') (hf : ∀ a b, V a b → Coupled R W (f a) (f' b)) :
    Coupled R W (m >>= f) (m' >>= f') := by
  intro s t hR
  have hfirst := hm s t hR
  show Alike R W (EStateM.bind m f s) (EStateM.bind m' f' t)
  unfold EStateM.bind
  cases hs : m s with
  | ok a s' =>
    cases ht : m' t with
    | ok b t' =>
      rw [hs, ht] at hfirst
      cases hfirst with
      | ok value state => exact hf a b value s' t' state
    | error e t' => rw [hs, ht] at hfirst; cases hfirst
  | error e s' =>
    cases ht : m' t with
    | ok b t' => rw [hs, ht] at hfirst; cases hfirst
    | error e' t' =>
      rw [hs, ht] at hfirst
      cases hfirst with
      | error _ state => exact .error e state

/-- Sequencing after a step whose two results are equal. -/
theorem coupled_seq {W : γ → δ → Prop} {m : EStateM ε σ α} {m' : EStateM ε τ α}
    {f : α → EStateM ε σ γ} {f' : α → EStateM ε τ δ} (hm : Coupled R Eq m m')
    (hf : ∀ a, Coupled R W (f a) (f' a)) : Coupled R W (m >>= f) (m' >>= f') :=
  coupled_bind hm fun a _ h => h ▸ hf a

theorem coupled_attempt_seq {W : γ → δ → Prop} {conv : ε' → ε} {x : Except ε' α}
    {f : α → EStateM ε σ γ} {f' : α → EStateM ε τ δ} (hf : ∀ a, Coupled R W (f a) (f' a)) :
    Coupled R W (attempt conv x >>= f) (attempt conv x >>= f') :=
  coupled_seq (coupled_attempt conv x) hf

theorem coupled_ite {V : α → β → Prop} {condition : Prop} [Decidable condition]
    {m n : EStateM ε σ α} {m' n' : EStateM ε τ β} (hm : Coupled R V m m') (hn : Coupled R V n n') :
    Coupled R V (if condition then m else n) (if condition then m' else n') := by
  split
  · exact hm
  · exact hn

theorem coupled_caught {m : EStateM ε σ α} {m' : EStateM ε τ α} (hm : Coupled R Eq m m') :
    Coupled R Eq (caught m : EStateM ε' σ (Except ε α)) (caught m') := by
  intro s t hR
  have h := hm s t hR
  unfold caught
  cases hs : m s with
  | ok a s' =>
    cases ht : m' t with
    | ok b t' =>
      rw [hs, ht] at h
      cases h with
      | ok value state => exact .ok (congrArg Except.ok value) state
    | error e t' => rw [hs, ht] at h; cases h
  | error e s' =>
    cases ht : m' t with
    | ok b t' => rw [hs, ht] at h; cases h
    | error e' t' =>
      rw [hs, ht] at h
      cases h with
      | error _ state => exact .ok rfl state

theorem coupled_onlyIf {m : EStateM ε σ Unit} {m' : EStateM ε τ Unit} (condition : Bool)
    (hm : Coupled R Eq m m') : Coupled R Eq (onlyIf condition m) (onlyIf condition m') :=
  coupled_ite hm (coupled_pure rfl)

/-- A computation on a component that the two states share; `J` is an invariant of the
    component that `R` may rely on. -/
theorem coupled_zoom {J : ρ → Prop} {view : σ → ρ} {view' : τ → ρ} {put : σ → ρ → σ}
    {put' : τ → ρ → τ} {conv : ε' → ε} {m : EStateM ε' ρ α} (hm : Keeps J m)
    (hview : ∀ s t, R s t → view s = view' t ∧ J (view s))
    (hput : ∀ s t u, R s t → J u → R (put s u) (put' t u)) :
    Coupled R Eq (zoom view put conv m) (zoom view' put' conv m) := by
  intro s t hR
  obtain ⟨hsame, hJ⟩ := hview s t hR
  have hkept := hm (view s) hJ
  unfold wp at hkept
  unfold zoom
  rw [← hsame]
  cases hrun : m (view s) with
  | ok a u =>
    rw [hrun] at hkept
    exact .ok rfl (hput s t u hR hkept)
  | error e u =>
    rw [hrun] at hkept
    exact .error (conv e) (hput s t u hR hkept)

end Rules

end Lib
