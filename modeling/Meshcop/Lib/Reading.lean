/-
  Meshcop.Lib.Reading — readers that take their value off the front of the input.

  A reader is characterised by the inputs on which it returns, and what it leaves of them; the
  `_eq_ok` rules say so for each way to put readers together.  A decoder that is the inverse of
  an encoder reads back, field by field, what the encoder wrote.  `Reads reader written value
  rest` says this of one reader: in front of `rest` it consumes exactly `written` and returns
  `value`.
-/

import Mathlib.Data.List.Basic
import Meshcop.Lib.Computation

namespace Lib

variable {β ε α γ : Type} {reader : StateT (List β) (Except ε) α}
  {next : α → StateT (List β) (Except ε) γ} {input rest : List β}

/-! ## §1. The inputs on which a reader returns. -/

/-- A sequence of two readers returns exactly if both do. -/
theorem read_bind_eq_ok {result : γ × List β} : (reader >>= next) input = .ok result ↔
      ∃ a rest, reader input = .ok (a, rest) ∧ next a rest = .ok result := by
  show (reader input >>= fun pair => next pair.1 pair.2) = _ ↔ _
  cases reader input with
  | error e =>
    constructor
    · intro h
      cases h
    · rintro ⟨a, rest, hpair, -⟩
      cases hpair
  | ok pair =>
    constructor
    · intro h
      exact ⟨pair.1, pair.2, rfl, h⟩
    · rintro ⟨a, rest, hpair, h⟩
      cases hpair
      exact h

theorem pure_eq_ok {value a : α} : (pure value : StateT (List β) (Except ε) α) input = .ok (a, rest) ↔
    a = value ∧ rest = input := by
  constructor
  · intro h
    cases h
    exact ⟨rfl, rfl⟩
  · rintro ⟨rfl, rfl⟩
    rfl

/-- A step that reads nothing. -/
theorem lift_eq_ok {result : Except ε α} {value : α} :
    (liftM result : StateT (List β) (Except ε) α) input = .ok (value, rest) ↔
      result = .ok value ∧ rest = input := by
  cases result with
  | error e =>
    constructor
    · intro h
      cases h
    · rintro ⟨h, -⟩
      cases h
  | ok found =>
    show Except.ok (found, input) = .ok (value, rest) ↔ Except.ok found = .ok value ∧ rest = input
    rw [Except.ok.injEq, Except.ok.injEq, Prod.mk.injEq, eq_comm (a := input)]

/-- A check before the next read. -/
theorem check_eq_ok {p : Prop} [Decidable p] {error : ε} {result : α × List β} :
    (if p then throw error else reader : StateT (List β) (Except ε) α) input = .ok result ↔
      ¬p ∧ reader input = .ok result := by
  split
  · simp only [*, not_true_eq_false, false_and, iff_false]
    intro h
    cases h
  · simp only [*, not_false_eq_true, true_and]

/-- Taking as many items as asked for takes them off the front. -/
theorem take_eq_ok {error : ε} {len : Nat} {value : List β} :
    (if input.length < len then .error error
      else .ok (input.take len, input.drop len)) = (.ok (value, rest) : Except ε _) ↔
    input = value ++ rest ∧ value.length = len := by
  split
  · rename_i hshort
    simp only [reduceCtorEq, false_iff, not_and]
    rintro rfl hlength
    rw [List.length_append] at hshort
    omega
  · rename_i hlong
    simp only [Except.ok.injEq, Prod.mk.injEq]
    constructor
    · rintro ⟨rfl, rfl⟩
      refine ⟨(List.take_append_drop len input).symm, ?_⟩
      rw [List.length_take]
      omega
    · rintro ⟨rfl, rfl⟩
      exact ⟨List.take_left, List.drop_left⟩

/-- A whole run of a reader, without what it left. -/
theorem run_eq_ok {value : α} : (reader input >>= fun pair => pure pair.1) = .ok value ↔
    ∃ rest, reader input = .ok (value, rest) := by
  rw [bind_eq_ok, Prod.exists]
  constructor
  · rintro ⟨_, rest, hread, hvalue⟩
    cases hvalue
    exact ⟨rest, hread⟩
  · rintro ⟨rest, hread⟩
    exact ⟨value, rest, hread, rfl⟩

/-! ## §2. Reading back. -/

/-- In front of `rest`, the reader consumes exactly `written` and returns `value`. -/
def Reads (reader : StateT (List β) (Except ε) α) (written : List β) (value : α)
    (rest : List β) : Prop :=
  reader (written ++ rest) = .ok (value, rest)

theorem reads_pure (value : α) (rest : List β) :
    Reads (pure value : StateT (List β) (Except ε) α) [] value rest :=
  rfl

theorem reads_lift {result : Except ε α} {value : α} (h : result = .ok value) (rest : List β) :
    Reads (liftM result : StateT (List β) (Except ε) α) [] value rest :=
  lift_eq_ok.mpr ⟨h, rfl⟩

/-- Taking as many items as were written, with the error of a short input. -/
theorem reads_take (error : ε) (written rest : List β) :
    Reads (fun input => if input.length < written.length then .error error
        else .ok (input.take written.length, input.drop written.length)) written written rest :=
  take_eq_ok.mpr ⟨rfl, rfl⟩

/-- Two readers in sequence read two pieces in sequence. -/
theorem reads_bind {first second : List β} {a : α} {c : γ}
    (hfirst : Reads reader first a (second ++ rest)) (hsecond : Reads (next a) second c rest) :
    Reads (reader >>= next) (first ++ second) c rest := by
  unfold Reads at hfirst ⊢
  rw [List.append_assoc]
  exact read_bind_eq_ok.mpr ⟨a, second ++ rest, hfirst, hsecond⟩

/-- A last step that writes nothing. -/
theorem reads_bind_nil {written : List β} {a : α} {c : γ} (hfirst : Reads reader written a rest)
    (hsecond : Reads (next a) [] c rest) : Reads (reader >>= next) written c rest := by
  have h := reads_bind hfirst hsecond
  rwa [List.append_nil] at h

end Lib
