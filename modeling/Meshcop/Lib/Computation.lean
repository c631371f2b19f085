/-
  Meshcop.Lib.Computation — reasoning about fallible computations whose state survives a
  failure.

  A method that takes its receiver by mutable reference and returns a result type may fail
  after it has already changed the receiver; the caller then goes on with the half-changed
  value.  `EStateM ε σ α` is that shape: both outcomes carry the state that was reached.
  This file gives

    * `wp m Q E s`   — from `s`, the computation `m` either returns into `Q` or fails into
                       `E`; one rewriting rule for each way a computation is built;
    * `FailsOnly F x` — a result that fails, if at all, in the ways `F` allows;
    * `zoom`         — running a computation on one component of a larger state;
    * `attempt`      — a computation that only fails or returns, on an unchanged state;
    * `caught`       — a computation whose failure is handed back as a value;
    * `onlyIf`       — a computation run under a condition;
    * `after m s`    — the state `m` leaves behind, returned or failed;
    * `Keeps I m`    — `m` never leaves the invariant `I`, with one rule for each construct.

  The rules are equivalences, so a proof runs a computation by `simp only [wp_bind, ...]`
  and is left with the facts about its branches.
-/

import Mathlib.Logic.Relation

namespace Lib

variable {ε ε' σ τ α β : Type}

/-! ## §1. Weakest preconditions. -/

/-- `m`, started in `s`, returns into `Q` or fails into `E`. -/
def wp (m : EStateM ε σ α) (Q : α → σ → Prop) (E : ε → σ → Prop) (s : σ) : Prop :=
  match m s with
  | .ok a s' => Q a s'
  | .error e s' => E e s'

section Rules

variable (Q : α → σ → Prop) (E : ε → σ → Prop) (s : σ)

@[simp] theorem wp_pure (a : α) : wp (pure a) Q E s ↔ Q a s := Iff.rfl

@[simp] theorem wp_throw (e : ε) : wp (throw e) Q E s ↔ E e s := Iff.rfl

@[simp] theorem wp_get (Q : σ → σ → Prop) : wp get Q E s ↔ Q s s := Iff.rfl

@[simp] theorem wp_set (s' : σ) (Q : PUnit → σ → Prop) : wp (set s') Q E s ↔ Q ⟨⟩ s' := Iff.rfl

@[simp] theorem wp_modify (f : σ → σ) (Q : PUnit → σ → Prop) :
    wp (modify f) Q E s ↔ Q ⟨⟩ (f s) := Iff.rfl

@[simp] theorem wp_bind (m : EStateM ε σ β) (f : β → EStateM ε σ α) :
    wp (m >>= f) Q E s ↔ wp m (fun b s' => wp (f b) Q E s') E s := by
  simp only [wp, bind, EStateM.bind]
  cases m s <;> rfl

end Rules

/-- A computation that reads the state first runs on from it. -/
theorem get_bind (f : σ → EStateM ε σ α) (s : σ) : (get >>= f : EStateM ε σ α) s = f s s := rfl

variable {E : ε → σ → Prop} {s : σ}

/-- A change of the state, with the new state under a name of its own. -/
theorem wp_modify_intro {f : σ → σ} {Q : PUnit → σ → Prop} (h : ∀ s', s' = f s → Q ⟨⟩ s') :
    wp (modify f) Q E s :=
  h _ rfl

variable {m : EStateM ε σ α} {Q : α → σ → Prop}

/-- **Consequence.**  Both postconditions may be weakened. -/
theorem wp_mono {Q' : α → σ → Prop} {E' : ε → σ → Prop} (h : wp m Q E s)
    (hQ : ∀ a s', Q a s' → Q' a s') (hE : ∀ e s', E e s' → E' e s') :
    wp m Q' E' s := by
  simp only [wp] at h ⊢
  cases hm : m s with
  | ok a s' => rw [hm] at h; exact hQ a s' h
  | error e s' => rw [hm] at h; exact hE e s' h

/-- Consequence, where a failure may leave anything. -/
theorem wp_mono_ok {Q' : α → σ → Prop} (h : wp m Q E s) (hQ : ∀ a s', Q a s' → Q' a s') :
    wp m Q' (fun _ _ => True) s :=
  wp_mono h hQ fun _ _ _ => trivial

/-- Consequence, where a failure leaves what it left. -/
theorem wp_imp {Q' : α → σ → Prop} (h : wp m Q E s) (hQ : ∀ a s', Q a s' → Q' a s') :
    wp m Q' E s :=
  wp_mono h hQ fun _ _ h => h

variable {R : β → σ → Prop} {first : EStateM ε σ β} {f : β → EStateM ε σ α}

/-- **Sequencing.**  The second part starts where the first returns. -/
theorem wp_seq (h : wp first R E s) (hf : ∀ b s', R b s' → wp (f b) Q E s') :
    wp (first >>= f) Q E s :=
  (wp_bind _ _ _ _ _).mpr (wp_imp h hf)

/-- Sequencing, with a failure of the first part of its own. -/
theorem wp_seq_mono {E' : ε → σ → Prop} (h : wp first R E' s)
    (hf : ∀ b s', R b s' → wp (f b) Q E s') (hE : ∀ e s', E' e s' → E e s') :
    wp (first >>= f) Q E s :=
  (wp_bind _ _ _ _ _).mpr (wp_mono h hf hE)

/-- Sequencing, where a failure may leave anything. -/
theorem wp_seq_ok (h : wp first R E s) (hf : ∀ b s', R b s' → wp (f b) Q (fun _ _ => True) s') :
    wp (first >>= f) Q (fun _ _ => True) s :=
  wp_seq_mono h hf fun _ _ _ => trivial

variable {x : Except ε α}

/-- A sequenced pair of fallible steps returns exactly when both do. -/
theorem bind_eq_ok {f : α → Except ε β} {b : β} :
    (x >>= f) = .ok b ↔ ∃ a, x = .ok a ∧ f a = .ok b := by
  cases x with
  | error e => simp [bind, Except.bind]
  | ok a => simp [bind, Except.bind]

/-- A fallible map over a list gives as many results. -/
theorem length_of_mapM {f : α → Except ε β} {l : List α} {bs : List β}
    (h : l.mapM f = .ok bs) : bs.length = l.length := by
  induction l generalizing bs with
  | nil =>
    cases h
    rfl
  | cons a l ih =>
    rw [List.mapM_cons, bind_eq_ok] at h
    obtain ⟨b, -, h⟩ := h
    obtain ⟨rest, hrest, h⟩ := bind_eq_ok.mp h
    cases h
    rw [List.length_cons, List.length_cons, ih hrest]

/-! ## §2. How a result fails. -/

section Failures

variable {F : ε → Prop}

/-- `x` fails, if at all, with an error that satisfies `F`. -/
def FailsOnly (F : ε → Prop) (x : Except ε α) : Prop := ∀ e, x = .error e → F e

@[simp] theorem failsOnly_ok (a : α) : FailsOnly F (.ok a) := fun _ h => by cases h

@[simp] theorem failsOnly_pure (a : α) : FailsOnly F (pure a) := fun _ h => by cases h

@[simp] theorem failsOnly_error (e : ε) : FailsOnly F (.error e : Except ε α) ↔ F e := by
  simp [FailsOnly]

@[simp] theorem failsOnly_bind {x : Except ε α} {f : α → Except ε β} (hx : FailsOnly F x)
    (hf : ∀ a, FailsOnly F (f a)) : FailsOnly F (x >>= f) := by
  cases x with
  | ok a => exact hf a
  | error e => exact fun e' h => hx e' (by cases h; rfl)

@[simp] theorem failsOnly_map {x : Except ε α} (f : α → β) (hx : FailsOnly F x) :
    FailsOnly F (f <$> x) := by
  cases x with
  | ok a => exact fun _ h => by cases h
  | error e => exact fun e' h => hx e' (by cases h; rfl)

theorem failsOnly_foldlM {f : β → α → Except ε β} (hf : ∀ b a, FailsOnly F (f b a)) (l : List α)
    (b : β) : FailsOnly F (l.foldlM f b) := by
  induction l generalizing b with
  | nil => exact failsOnly_pure b
  | cons a l ih =>
    rw [List.foldlM_cons]
    exact failsOnly_bind (hf b a) ih

theorem failsOnly_mapM {f : α → Except ε β} (hf : ∀ a, FailsOnly F (f a)) (l : List α) :
    FailsOnly F (l.mapM f) := by
  induction l with
  | nil => exact failsOnly_pure []
  | cons a l ih =>
    rw [List.mapM_cons]
    exact failsOnly_bind (hf a) (fun b => failsOnly_bind ih (fun bs => failsOnly_pure _))

end Failures

/-! ## §3. Computations that do not touch the state, and computations on a component. -/

/-- A result that either is there or is an error, converted by `conv`; the state stays. -/
def attempt (conv : ε → ε') (x : Except ε α) : EStateM ε' σ α :=
  match x with
  | .ok a => pure a
  | .error e => throw (conv e)

theorem wp_attempt {conv : ε → ε'} {E : ε' → σ → Prop} : wp (attempt conv x) Q E s ↔
      (∀ a, x = .ok a → Q a s) ∧ (∀ e, x = .error e → E (conv e) s) := by
  cases x <;> simp [attempt]

/-- What follows a result that may not be there. -/
theorem wp_attempt_seq {conv : ε → ε'} {g : α → EStateM ε' σ β} {Q : β → σ → Prop}
    {E : ε' → σ → Prop} (h : ∀ a, x = .ok a → wp (g a) Q E s)
    (hE : ∀ e, x = .error e → E (conv e) s) : wp (attempt conv x >>= g) Q E s :=
  (wp_bind _ _ _ _ _).mpr (wp_attempt.mpr ⟨h, hE⟩)

theorem wp_attempt_ok {conv : ε → ε'} (h : ∀ a, x = .ok a → Q a s) :
    wp (attempt conv x) Q (fun _ _ => True) s :=
  wp_attempt.mpr ⟨h, fun _ _ => trivial⟩

theorem attempt_ok_bind (conv : ε → ε') (a : α) (f : α → EStateM ε' σ β) :
    (attempt conv (.ok a) >>= f) = f a := rfl

variable {a : α}

theorem wp_attempt_of_ok {conv : ε → ε'} {E : ε' → σ → Prop} (hx : x = .ok a) (h : Q a s) :
    wp (attempt conv x) Q E s := by
  rw [hx]
  exact h

/-- Runs `m` on the component of the state that `view` reads and `put` writes back. -/
def zoom (view : σ → τ) (put : σ → τ → σ) (conv : ε → ε') (m : EStateM ε τ α) :
    EStateM ε' σ α := fun s =>
  match m (view s) with
  | .ok a t => .ok a (put s t)
  | .error e t => .error (conv e) (put s t)

@[simp] theorem wp_zoom (view : σ → τ) (put : σ → τ → σ) (conv : ε → ε') (m : EStateM ε τ α)
    (Q : α → σ → Prop) (E : ε' → σ → Prop) (s : σ) : wp (zoom view put conv m) Q E s ↔
      wp m (fun a t => Q a (put s t)) (fun e t => E (conv e) (put s t)) (view s) := by
  simp only [wp, zoom]
  cases m (view s) <;> rfl

/-- Hands a failure back as a value; the state it left is kept. -/
def caught (m : EStateM ε σ α) : EStateM ε' σ (Except ε α) := fun s =>
  match m s with
  | .ok a s' => .ok (.ok a) s'
  | .error e s' => .ok (.error e) s'

@[simp] theorem wp_caught (m : EStateM ε σ α) (Q : Except ε α → σ → Prop) (E : ε' → σ → Prop)
    (s : σ) : wp (caught m) Q E s ↔
      wp m (fun a s' => Q (.ok a) s') (fun e s' => Q (.error e) s') s := by
  simp only [wp, caught]
  cases m s <;> rfl

/-- Runs `m` if the condition holds, and does nothing otherwise. -/
def onlyIf (condition : Bool) (m : EStateM ε σ Unit) : EStateM ε σ Unit :=
  if condition then m else pure ()

/-! ## §4. Where a computation ends. -/

/-- The state `m` leaves behind, whether it returned or failed. -/
def after (m : EStateM ε σ α) (s : σ) : σ :=
  match m s with
  | .ok _ s' => s'
  | .error _ s' => s'

theorem after_of_wp {P : σ → Prop} (h : wp m (fun _ s' => P s') (fun _ s' => P s') s) :
    P (after m s) := by
  simp only [wp] at h
  simp only [after]
  cases hm : m s with
  | ok a s' => rw [hm] at h; exact h
  | error e s' => rw [hm] at h; exact h

/-- The state a result carries, returned or failed. -/
def stateOf : EStateM.Result ε σ α → σ
  | .ok _ s => s
  | .error _ s => s

theorem stateOf_of_wp {P : σ → Prop} (h : wp m (fun _ s' => P s') (fun _ s' => P s') s) :
    P (stateOf (m s)) :=
  after_of_wp h

/-- What is known of a run that returned. -/
theorem of_wp_ok {s' : σ} (h : wp m Q E s) (hm : m s = .ok a s') : Q a s' := by
  simpa only [wp, hm] using h

/-- A run with only one possible outcome. -/
theorem eq_ok_of_wp {s' : σ} (h : wp m (fun b t => b = a ∧ t = s') (fun _ _ => False) s) :
    m s = .ok a s' := by
  unfold wp at h
  cases hm : m s with
  | ok b t =>
    rw [hm] at h
    rw [h.1, h.2]
  | error e t => rw [hm] at h; exact h.elim

/-- A computation that cannot fail returns. -/
theorem exists_ok_of_wp (h : wp m Q (fun _ _ => False) s) : ∃ a s', m s = .ok a s' ∧ Q a s' := by
  unfold wp at h
  cases hm : m s with
  | ok a s' => rw [hm] at h; exact ⟨a, s', rfl, h⟩
  | error e s' => rw [hm] at h; exact h.elim

/-- A computation that cannot return fails. -/
theorem exists_error_of_wp (h : wp m (fun _ _ => False) E s) :
    ∃ e s', m s = .error e s' ∧ E e s' := by
  unfold wp at h
  cases hm : m s with
  | ok a s' => rw [hm] at h; exact h.elim
  | error e s' => rw [hm] at h; exact ⟨e, s', rfl, h⟩

/-! ## §5. Invariants of a computation. -/

/-- `m` never leaves `I`: started inside it, it stops inside it, returned or failed. -/
def Keeps (I : σ → Prop) (m : EStateM ε σ α) : Prop :=
  ∀ s, I s → wp m (fun _ s' => I s') (fun _ s' => I s') s

section

variable {I : σ → Prop} {m : EStateM ε σ α}

theorem keeps_pure (a : α) : Keeps I (pure a : EStateM ε σ α) := fun _ h => h

theorem keeps_throw (e : ε) : Keeps I (throw e : EStateM ε σ α) := fun _ h => h

theorem keeps_get : Keeps I (get : EStateM ε σ σ) := fun _ h => h

theorem keeps_modify {f : σ → σ} (h : ∀ s, I s → I (f s)) :
    Keeps I (modify f : EStateM ε σ PUnit) := h

theorem keeps_attempt (conv : ε' → ε) (x : Except ε' α) : Keeps I (attempt conv x) :=
  fun _ h => wp_attempt.mpr ⟨fun _ _ => h, fun _ _ => h⟩

theorem keeps_bind {f : α → EStateM ε σ β} (hm : Keeps I m) (hf : ∀ a, Keeps I (f a)) :
    Keeps I (m >>= f) := by
  intro s h
  rw [wp_bind]
  exact wp_mono (hm s h) (fun a s' hs' => hf a s' hs') (fun _ _ hs' => hs')

/-- **Sequencing under an invariant.**  The first part keeps `I`, which also covers its
    failures; the second part starts inside `I`. -/
theorem wp_bind_of_keeps {f : α → EStateM ε σ β} {Q : β → σ → Prop} {E : ε → σ → Prop} {s : σ}
    (h : I s) (hm : Keeps I m) (hE : ∀ e s', I s' → E e s')
    (hf : ∀ a s', I s' → wp (f a) Q E s') : wp (m >>= f) Q E s := by
  rw [wp_bind]
  exact wp_mono (hm s h) hf hE

/-- Two invariants are kept together. -/
theorem keeps_and {J : σ → Prop} (hI : Keeps I m) (hJ : Keeps J m) :
    Keeps (fun s => I s ∧ J s) m := by
  intro s h
  have hi := hI s h.1
  have hj := hJ s h.2
  unfold wp at hi hj ⊢
  cases hm : m s with
  | ok a s' => rw [hm] at hi hj; exact ⟨hi, hj⟩
  | error e s' => rw [hm] at hi hj; exact ⟨hi, hj⟩

theorem keeps_caught (hm : Keeps I m) : Keeps I (caught m : EStateM ε' σ (Except ε α)) := by
  intro s h
  rw [wp_caught]
  exact hm s h

theorem keeps_onlyIf {m : EStateM ε σ Unit} (condition : Bool) (hm : Keeps I m) :
    Keeps I (onlyIf condition m) := by
  unfold onlyIf
  split
  · exact hm
  · exact keeps_pure ()

/-- A computation on a component that `I` does not speak about. -/
theorem keeps_zoom {view : σ → τ} {put : σ → τ → σ} {conv : ε → ε'} {m : EStateM ε τ α}
    (h : ∀ s t, I s → I (put s t)) : Keeps I (zoom view put conv m) := by
  intro s hs
  rw [wp_zoom]
  simp only [wp]
  cases m (view s) <;> exact h s _ hs

/-- A computation on a component, where `I` restricts to an invariant of the component. -/
theorem keeps_zoom_of {J : τ → Prop} {view : σ → τ} {put : σ → τ → σ} {conv : ε → ε'}
    {m : EStateM ε τ α} (hm : Keeps J m) (hview : ∀ s, I s → J (view s))
    (hput : ∀ s t, I s → J t → I (put s t)) : Keeps I (zoom view put conv m) := by
  intro s hs
  rw [wp_zoom]
  exact wp_mono (hm _ (hview s hs)) (fun _ t ht => hput s t hs ht) (fun _ t ht => hput s t hs ht)

end

end Lib
