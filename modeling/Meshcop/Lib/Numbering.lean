/-
  Meshcop.Lib.Numbering — logs numbered consecutively from zero.

  A counter that is read, used and then advanced, and only advanced after the use succeeded,
  leaves a log whose entries carry `0, 1, 2, …` in order.  `Numbered num log` says so for any
  way `num` of reading an entry's number; it survives one more entry under the next number,
  and it makes every quantity that determines the number collision-free over the log.

  `countUp n k` is what a 64-bit counter hands out in `k` turns from `n` on.  It wraps; as long
  as what it hands out stays below a bound that 64 bits hold, it does not.
-/

import Mathlib.Algebra.Group.Nat.Defs
import Mathlib.Data.List.Basic
import Mathlib.Data.List.Nodup

namespace Lib

variable {α β : Type}

/-- The entries of `log` carry the numbers `0, 1, …` in order. -/
def Numbered (num : α → Nat) (log : List α) : Prop :=
  log.map num = List.range log.length

namespace Numbered

variable {num : α → Nat} {log : List α}

@[simp] theorem nil : Numbered num [] := rfl

/-- **One more entry** under the next number keeps the log numbered. -/
theorem snoc (h : Numbered num log) {a : α} (ha : num a = log.length) :
    Numbered num (log ++ [a]) := by
  unfold Numbered at h ⊢
  rw [List.map_append, h, List.length_append, List.length_singleton, List.range_succ]
  simp [ha]

/-- Every number is below the length of the log. -/
theorem lt_length (h : Numbered num log) {a : α} (ha : a ∈ log) : num a < log.length := by
  have hmem : num a ∈ List.range log.length := h ▸ List.mem_map_of_mem ha
  exact List.mem_range.mp hmem

/-- **No collision.**  A quantity that determines the number takes no value twice. -/
theorem nodup_map (h : Numbered num log) (f : α → β)
    (hf : ∀ a ∈ log, ∀ b ∈ log, f a = f b → num a = num b) : (log.map f).Nodup := by
  have hnum : (log.map num).Nodup := h ▸ List.nodup_range
  refine List.Nodup.map_on (fun a ha b hb hab => ?_) (List.Nodup.of_map num hnum)
  exact List.inj_on_of_nodup_map hnum ha hb (hf a ha b hb hab)

end Numbered

/-! ## Counters that wrap. -/

/-- `k` numbers in a row from `n` on. -/
def countUp (n : UInt64) : Nat → List UInt64
  | 0 => []
  | k + 1 => n :: countUp (n + 1) k

@[simp] theorem length_countUp (n : UInt64) (k : Nat) : (countUp n k).length = k := by
  induction k generalizing n with
  | zero => rfl
  | succ k ih => rw [countUp, List.length_cons, ih]

/-- The counter goes on where it stopped. -/
theorem countUp_add (n : UInt64) (j k : Nat) :
    countUp n (j + k) = countUp n j ++ countUp (n + UInt64.ofNat j) k := by
  induction j generalizing n with
  | zero =>
    show countUp n (0 + k) = countUp (n + 0) k
    rw [Nat.zero_add, UInt64.add_zero]
  | succ j ih =>
    have hnext : n + 1 + UInt64.ofNat j = n + UInt64.ofNat (j + 1) := by
      rw [UInt64.ofNat_add, UInt64.add_assoc, UInt64.add_comm 1]
      rfl
    rw [Nat.add_right_comm, countUp, countUp, ih, hnext]
    rfl

/-- A number below a bound that 64 bits hold is followed by the next one. -/
theorem toNat_add_one_of_lt {n : UInt64} (h : n.toNat < 2 ^ 48) : (n + 1).toNat = n.toNat + 1 := by
  rw [UInt64.toNat_add]
  have hone : (1 : UInt64).toNat = 1 := rfl
  omega

/-- **No wrap**: from a number below the bound, all `k` numbers are below it exactly if they fit
    between the two. -/
theorem countUp_lt_iff {n : UInt64} (h : n.toNat < 2 ^ 48) {k : Nat} :
    (∀ x ∈ countUp n k, x.toNat < 2 ^ 48) ↔ n.toNat + k ≤ 2 ^ 48 := by
  induction k generalizing n with
  | zero =>
    refine ⟨fun _ => Nat.le_of_lt h, fun _ x hx => ?_⟩
    exact absurd hx List.not_mem_nil
  | succ k ih =>
    rw [countUp, List.forall_mem_cons]
    have hnext := toNat_add_one_of_lt h
    by_cases hlast : (n + 1).toNat < 2 ^ 48
    · rw [ih hlast, hnext]
      omega
    -- the next number is out of bounds, so there must not be one
    cases k with
    | zero =>
      refine ⟨fun _ => by omega, fun _ => ⟨h, fun x hx => ?_⟩⟩
      exact absurd hx List.not_mem_nil
    | succ k =>
      rw [countUp, List.forall_mem_cons]
      constructor
      · exact fun hall => absurd hall.2.1 hlast
      · intro hroom
        omega

/-- **Strictly increasing**, as long as the numbers stay below the bound. -/
theorem countUp_increasing {n : UInt64} {k : Nat} (h : ∀ x ∈ countUp n k, x.toNat < 2 ^ 48) :
    (countUp n k).Pairwise (fun x y => x.toNat < y.toNat) := by
  suffices hfrom : (countUp n k).Pairwise (fun x y => x.toNat < y.toNat) ∧
      ∀ x ∈ countUp n k, n.toNat ≤ x.toNat from hfrom.1
  induction k generalizing n with
  | zero => exact ⟨.nil, List.forall_mem_nil _⟩
  | succ k ih =>
    rw [countUp, List.forall_mem_cons] at h
    obtain ⟨hrest, hfrom⟩ := ih h.2
    rw [toNat_add_one_of_lt h.1] at hfrom
    rw [countUp, List.pairwise_cons, List.forall_mem_cons]
    exact ⟨⟨fun x hx => hfrom x hx, hrest⟩, Nat.le_refl _,
      fun x hx => Nat.le_of_succ_le (hfrom x hx)⟩

end Lib
