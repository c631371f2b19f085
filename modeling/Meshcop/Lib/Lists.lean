/-
  Meshcop.Lib.Lists — taking a list apart at the place where something is found.

  Code that finds an entry of a table and then removes or changes it does two list operations;
  a proof about it wants one decomposition of the table.  Each lemma here gives the parts
  before and after the entry and says what the operations make of them.
-/

import Mathlib.Data.List.Basic

namespace Lib

variable {α : Type}

/-- An entry found by its index: what removing and changing it give. -/
theorem split_at_index {l : List α} {index : Nat} {a : α} (h : l[index]? = some a) :
    ∃ before after, l = before ++ a :: after ∧ l.eraseIdx index = before ++ after ∧
      ∀ f : α → α, l.modify index f = before ++ f a :: after := by
  induction l generalizing index with
  | nil => simp at h
  | cons b l ih =>
    cases index with
    | zero =>
      obtain rfl : b = a := by simpa using h
      exact ⟨[], l, rfl, rfl, fun f => rfl⟩
    | succ index =>
      obtain ⟨before, after, hl, herase, hmodify⟩ := ih (by simpa using h)
      refine ⟨b :: before, after, ?_, ?_, ?_⟩
      · rw [hl]; rfl
      · rw [List.eraseIdx_cons_succ, herase]; rfl
      · intro f
        rw [List.modify_succ_cons, hmodify]; rfl

/-- The first entry with a property, and what removing it gives. -/
theorem split_at_first {l : List α} {p : α → Bool} {a : α} (h : l.find? p = some a) :
    ∃ before after, l = before ++ a :: after ∧ l.eraseP p = before ++ after ∧
      p a = true ∧ ∀ b ∈ before, p b = false := by
  induction l with
  | nil => cases h
  | cons b l ih =>
    cases hb : p b with
    | true =>
      rw [List.find?_cons_of_pos hb] at h
      cases h
      exact ⟨[], l, rfl, List.eraseP_cons_of_pos hb, hb, List.forall_mem_nil _⟩
    | false =>
      rw [List.find?_cons_of_neg (by simp [hb])] at h
      obtain ⟨before, after, hl, herase, ha, hbefore⟩ := ih h
      refine ⟨b :: before, after, ?_, ?_, ha, ?_⟩
      · rw [hl]; rfl
      · rw [List.eraseP_cons_of_neg (by simp [hb]), herase]; rfl
      · intro c hc
        rcases List.mem_cons.mp hc with rfl | hc
        · exact hb
        · exact hbefore c hc

/-- A table in which some entry has a property has a first such entry. -/
theorem find?_isSome_of_any {l : List α} {p : α → Bool} (h : l.any p = true) :
    ∃ a, l.find? p = some a := by
  obtain ⟨a, ha, hp⟩ := List.any_eq_true.mp h
  exact Option.isSome_iff_exists.mp (List.find?_isSome.mpr ⟨a, ha, hp⟩)

/-- A split of an extended list is a split of the list itself, or lies in the extension. -/
theorem split_append {l extension before after : List α} {a : α}
    (h : l ++ extension = before ++ a :: after) :
    (∃ rest, l = before ++ a :: rest ∧ after = rest ++ extension) ∨
      ∃ first, extension = first ++ a :: after ∧ before = l ++ first := by
  rcases List.append_eq_append_iff.mp h with ⟨rest, hbefore, hextension⟩ | ⟨rest, hl, hafter⟩
  · exact Or.inr ⟨rest, hextension, hbefore⟩
  cases rest with
  | nil => exact Or.inr ⟨[], by simpa using hafter.symm, by simpa using hl.symm⟩
  | cons first rest =>
    cases hafter
    exact Or.inl ⟨rest, hl, rfl⟩

/-- Entries whose images differ from that of any other entry have different images. -/
theorem nodup_map_of_split {β : Type} {l : List α} {f : α → β}
    (h : ∀ before a after, l = before ++ a :: after → ∀ b ∈ before ++ after, f b ≠ f a) :
    (l.map f).Nodup := by
  induction l with
  | nil => exact List.nodup_nil
  | cons a l ih =>
    rw [List.map_cons, List.nodup_cons]
    constructor
    · intro hmem
      obtain ⟨b, hb, hsame⟩ := List.mem_map.mp hmem
      exact h [] a l rfl b hb hsame
    · refine ih fun before b after hl c hc => ?_
      exact h (a :: before) b after (by rw [hl]; rfl) c (List.mem_cons_of_mem _ hc)

/-- A condition that holds at most once in a list, and holds of `a`. -/
theorem filter_eq_singleton {α : Type} {l : List α} {p : α → Bool} {a : α} (hmem : a ∈ l)
    (hp : p a = true) (hcount : l.countP p ≤ 1) : l.filter p = [a] := by
  have hfiltered : a ∈ l.filter p := List.mem_filter.mpr ⟨hmem, hp⟩
  rw [List.countP_eq_length_filter] at hcount
  match hfilter : l.filter p with
  | [] => rw [hfilter] at hfiltered; cases hfiltered
  | [b] => rw [hfilter] at hfiltered; rw [List.mem_singleton.mp hfiltered]
  | _ :: _ :: _ => rw [hfilter] at hcount; simp at hcount

end Lib
