/-
  Meshcop.Lib.Runs — runs of a machine whose steps are labelled.

  A step relation with labels says what a machine may do and what of it is visible.  `Run step s
  labels t` is a finite sequence of steps from `s` to `t` that shows `labels`.  What holds of a
  run is proved step by step: an invariant may speak of the state and of everything shown so far.

  Main results: `Run.trans`, and `Run.invariant`, the induction over runs with their history.
-/

import Mathlib.Data.List.Basic

namespace Lib

variable {σ ℓ : Type}

/-- A sequence of steps that shows the given labels. -/
inductive Run (step : σ → ℓ → σ → Prop) : σ → List ℓ → σ → Prop where
  | nil (s : σ) : Run step s [] s
  | snoc {s t u : σ} {labels : List ℓ} {label : ℓ} (run : Run step s labels t)
      (last : step t label u) : Run step s (labels ++ [label]) u

/-- What a history shows with one more label. -/
theorem flatMap_snoc {α : Type} (labels : List ℓ) (label : ℓ) (f : ℓ → List α) :
    (labels ++ [label]).flatMap f = labels.flatMap f ++ f label := by
  rw [List.flatMap_append, List.flatMap_singleton]

/-- A label that shows nothing. -/
theorem flatMap_snoc_of_nil {α : Type} {labels : List ℓ} {label : ℓ} {f : ℓ → List α}
    (h : f label = []) : (labels ++ [label]).flatMap f = labels.flatMap f := by
  rw [flatMap_snoc, h, List.append_nil]

namespace Run

variable {step : σ → ℓ → σ → Prop} {s t u : σ} {labels more : List ℓ} {label : ℓ}

theorem single (h : step s label t) : Run step s [label] t :=
  .snoc (.nil s) h

theorem trans (h : Run step s labels t) (h' : Run step t more u) :
    Run step s (labels ++ more) u := by
  induction h' with
  | nil => rwa [List.append_nil]
  | snoc _ last ih =>
    rw [← List.append_assoc]
    exact .snoc ih last

/-- **Induction over a run** with its history. -/
theorem invariant {I : List ℓ → σ → Prop} (h : Run step s labels t) (hstart : I [] s)
    (hstep : ∀ {labels t label u}, I labels t → step t label u → I (labels ++ [label]) u) :
    I labels t := by
  induction h with
  | nil => exact hstart
  | snoc _ last ih => exact hstep ih last

end Run

end Lib
