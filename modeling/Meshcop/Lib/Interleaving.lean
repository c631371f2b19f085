/-
  Meshcop.Lib.Interleaving — tasks that interleave over a shared state.

  A pool is a shared state and the local states of the tasks started so far.  One atomic step
  starts a task, moves one task together with the shared state, or changes the shared state
  from outside.  `Holds I J` says that the shared state satisfies `I` and every task, under its
  number, satisfies `J` with respect to it.  Each rule asks for two things: the task that moves
  re-establishes its own part, and the others tolerate what it did.

  Main results: `Holds.spawn`, `Holds.advance`, `Holds.disturb`.
-/

import Mathlib.Data.List.Basic

namespace Lib

variable {σ τ : Type}

/-- A shared state and the local states of the tasks, numbered in the order they started. -/
structure Pool (σ τ : Type) where
  shared : σ
  tasks : List τ

namespace Pool

/-- A task starts, in a local state it reads off the shared one. -/
def spawn (pool : Pool σ τ) (start : σ → τ) : Pool σ τ :=
  { pool with tasks := pool.tasks ++ [start pool.shared] }

/-- Task `i` takes an atomic step; nothing happens if there is no such task. -/
def advance (pool : Pool σ τ) (i : Nat) (move : σ → τ → σ × τ) : Pool σ τ :=
  match pool.tasks[i]? with
  | none => pool
  | some task =>
    let (shared, task) := move pool.shared task
    { shared, tasks := pool.tasks.set i task }

/-- The shared state changes from outside. -/
def disturb (pool : Pool σ τ) (change : σ → σ) : Pool σ τ :=
  { pool with shared := change pool.shared }

/-- What a move of any task makes true of the shared state holds after the step. -/
theorem shared_advance {P : σ → Prop} {pool : Pool σ τ} {i : Nat} {move : σ → τ → σ × τ}
    (hidle : P pool.shared) (hmove : ∀ task, P (move pool.shared task).1) :
    P (pool.advance i move).shared := by
  unfold advance
  cases pool.tasks[i]? with
  | none => exact hidle
  | some task => exact hmove task

/-- The shared state satisfies `I`, and each task satisfies `J` with respect to it. -/
structure Holds (I : σ → Prop) (J : σ → Nat → τ → Prop) (pool : Pool σ τ) : Prop where
  shared : I pool.shared
  tasks : ∀ i task, pool.tasks[i]? = some task → J pool.shared i task

variable {I : σ → Prop} {J : σ → Nat → τ → Prop} {pool : Pool σ τ}

/-- **Starting a task.** -/
theorem Holds.spawn {start : σ → τ} (h : Holds I J pool)
    (hnew : J pool.shared pool.tasks.length (start pool.shared)) :
    Holds I J (pool.spawn start) := by
  refine { shared := h.shared, tasks := ?_ }
  intro i task htask
  have htask : (pool.tasks ++ [start pool.shared])[i]? = some task := htask
  rw [List.getElem?_append] at htask
  by_cases hlt : i < pool.tasks.length
  · rw [if_pos hlt] at htask
    exact h.tasks i task htask
  rw [if_neg hlt, List.getElem?_singleton] at htask
  by_cases hi : i - pool.tasks.length = 0
  · rw [if_pos hi] at htask
    have hlen : i = pool.tasks.length := by omega
    rw [hlen, ← Option.some.inj htask]
    exact hnew
  · rw [if_neg hi] at htask
    cases htask

/-- **Moving a task.**  It re-establishes both parts, and every other task tolerates the new
    shared state. -/
theorem Holds.advance {i : Nat} {move : σ → τ → σ × τ} (h : Holds I J pool)
    (hmove : ∀ task, pool.tasks[i]? = some task → J pool.shared i task →
      I (move pool.shared task).1 ∧ J (move pool.shared task).1 i (move pool.shared task).2 ∧
      ∀ j other, j ≠ i → J pool.shared j other → J (move pool.shared task).1 j other) :
    Holds I J (pool.advance i move) := by
  unfold Pool.advance
  cases htask : pool.tasks[i]? with
  | none => exact h
  | some task =>
    obtain ⟨hshared, hown, hothers⟩ := hmove task htask (h.tasks i task htask)
    refine { shared := hshared, tasks := ?_ }
    intro j other hother
    have hother : (pool.tasks.set i (move pool.shared task).2)[j]? = some other := hother
    rw [List.getElem?_set] at hother
    by_cases hij : i = j
    · subst hij
      have hlt : i < pool.tasks.length := (List.getElem?_eq_some_iff.mp htask).1
      rw [if_pos rfl, if_pos hlt] at hother
      rw [← Option.some.inj hother]
      exact hown
    · rw [if_neg hij] at hother
      exact hothers j other (Ne.symm hij) (h.tasks j other hother)

/-- **A change from outside** that every task tolerates. -/
theorem Holds.disturb {change : σ → σ} (h : Holds I J pool) (hshared : I (change pool.shared))
    (hothers : ∀ j other, J pool.shared j other → J (change pool.shared) j other) :
    Holds I J (pool.disturb change) :=
  { shared := hshared, tasks := fun j other hother => hothers j other (h.tasks j other hother) }

end Pool

end Lib
