/-
  Meshcop.Lib.History — logs whose every entry is justified by what came before it.

  A system that records what it does leaves a log.  A rule such as "nothing is sent before it
  was approved" or "this happens at most once" speaks of one entry and the entries before it.
  `Justified P log` says that every entry of the log satisfies `P` with respect to its own
  past; it is kept by further entries that do.

  Main results:
    * `justified_append`  — the rule for more entries;
    * `countP_le_one`     — an entry that only occurs without another before it occurs once.
-/

import Mathlib.Data.List.Induction

namespace Lib

variable {α : Type}

/-- Every entry of `log` satisfies `P` with respect to the entries before it. -/
def Justified (P : List α → α → Prop) (log : List α) : Prop :=
  ∀ before a after, log = before ++ a :: after → P before a

variable {P : List α → α → Prop} {log : List α}

theorem justified_nil : Justified P [] := by
  intro before a after h
  simp at h

theorem justified_cons {a : α} :
    Justified P (a :: log) ↔ P [] a ∧ Justified (fun before b => P (a :: before) b) log := by
  constructor
  · intro h
    exact ⟨h [] a log rfl, fun before b after hlog => h (a :: before) b after (by rw [hlog]; rfl)⟩
  · rintro ⟨ha, h⟩ before b after hlog
    cases before with
    | nil =>
      obtain ⟨rfl, -⟩ := List.cons.inj hlog
      exact ha
    | cons c before =>
      obtain ⟨rfl, hrest⟩ := List.cons.inj hlog
      exact h before b after hrest

/-- **More entries**, each justified by the log and the new entries before it. -/
theorem justified_append {more : List α} : Justified P (log ++ more) ↔
      Justified P log ∧ Justified (fun before a => P (log ++ before) a) more := by
  induction log generalizing P with
  | nil => simp [justified_nil]
  | cons a log ih => simp only [List.cons_append, justified_cons, ih, and_assoc]

/-- **At most once**: an entry that never has another of its kind before it. -/
theorem Justified.countP_le_one {p : α → Bool}
    (h : Justified (fun before a => p a = true → ∀ b ∈ before, p b = false) log) :
    log.countP p ≤ 1 := by
  induction log using List.reverseRecOn with
  | nil => simp
  | append_singleton log a ih =>
    obtain ⟨hlog, ha⟩ := justified_append.mp h
    have ha : p a = true → ∀ b ∈ log, p b = false := by simpa using (justified_cons.mp ha).1
    rw [List.countP_append]
    cases hp : p a with
    | false => simpa [hp] using ih hlog
    | true =>
      have hnone : log.countP p = 0 := List.countP_eq_zero.mpr fun b hb => by simp [ha hp b hb]
      simp [hnone, hp]

end Lib
