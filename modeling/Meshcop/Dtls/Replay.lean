/-
  Meshcop.Dtls.Replay — what the anti-replay window remembers (`meshcop-dtls/src/replay.rs`).

  The window keeps the newest authenticated number and a 64-bit map of the numbers below it.
  Read as a set of numbers it is simple: marking `t` adds `t` and everything 64 or more below
  it, and nothing else ever enters or leaves.

  Main results:
    * `hasSeen_iff`            — the code's bit test decides the set `IsSeen`;
    * `isSeen_markSeen`        — marking adds exactly the number and what falls out of reach;
    * `isSeen_foldl_markSeen`  — after any sequence of marks on a new window, a number is seen
                                 exactly when it was marked or lies 64 below a marked one;
    * `replay_window_exact`    — the same in terms of the code, with its shifts in range.
-/

import Meshcop.Dtls.Protection

namespace Meshcop.Dtls.ReplayWindow

/-! ## §1. Bits of a 64-bit word. -/

/-- The code's test of one bit of a word. -/
theorem shiftRight_and_one_eq_one_iff (word offset : UInt64) (h : offset.toNat < 64) :
    (word >>> offset) &&& 1 = 1 ↔ word.toNat.testBit offset.toNat = true := by
  rw [← UInt64.toNat_inj, UInt64.toNat_and, UInt64.toNat_shiftRight, Nat.mod_eq_of_lt h]
  show (word.toNat >>> offset.toNat) &&& 1 = 1 ↔ _
  rw [Nat.and_one_is_mod, Nat.testBit_eq_decide_div_mod_eq, Nat.shiftRight_eq_div_pow,
    decide_eq_true_iff]

/-- Setting one bit. -/
theorem testBit_or_one_shiftLeft (word offset : UInt64) (h : offset.toNat < 64) (i : Nat) :
    (word ||| (1 <<< offset)).toNat.testBit i = true ↔
      word.toNat.testBit i = true ∨ i = offset.toNat := by
  have hone : ((1 : UInt64) <<< offset).toNat = 2 ^ offset.toNat := by
    rw [UInt64.toNat_shiftLeft, Nat.mod_eq_of_lt h]
    show 1 <<< offset.toNat % 2 ^ 64 = _
    rw [Nat.one_shiftLeft]
    exact Nat.mod_eq_of_lt (Nat.pow_lt_pow_right (by decide) h)
  rw [UInt64.toNat_or, hone, Nat.testBit_or, Nat.testBit_two_pow, Bool.or_eq_true,
    decide_eq_true_iff, eq_comm (a := i)]

/-- Shifting the map up and setting its lowest bit. -/
theorem testBit_shiftLeft_or_one (word shift : UInt64) (h : shift.toNat < 64) (i : Nat)
    (hi : i < 64) : ((word <<< shift) ||| 1).toNat.testBit i = true ↔
      i = 0 ∨ (shift.toNat ≤ i ∧ word.toNat.testBit (i - shift.toNat) = true) := by
  have hone : (1 : UInt64).toNat = 2 ^ 0 := rfl
  rw [UInt64.toNat_or, UInt64.toNat_shiftLeft, Nat.mod_eq_of_lt h, hone, Nat.testBit_or,
    Nat.testBit_mod_two_pow, Nat.testBit_shiftLeft, Nat.testBit_two_pow]
  simp [hi, or_comm, eq_comm (a := i)]

/-! ## §2. The window as a set of numbers. -/

/-- The numbers the window takes for seen: below the newest one and either out of the map's
    reach or set in it. -/
def IsSeen (window : ReplayWindow) (n : Nat) : Prop :=
  match window.newestSequence with
  | none => False
  | some newest =>
    n ≤ newest.toNat ∧
      (n + 64 ≤ newest.toNat ∨ window.seen.toNat.testBit (newest.toNat - n) = true)

theorem not_isSeen_new (n : Nat) : ¬ new.IsSeen n := fun h => h

/-- The distance the code computes, as numbers. -/
private theorem toNat_sub_of_not_gt {newest sequence : UInt64} (h : ¬ sequence > newest) :
    sequence.toNat ≤ newest.toNat ∧
      (newest - sequence).toNat = newest.toNat - sequence.toNat := by
  rw [gt_iff_lt, UInt64.lt_iff_toNat_lt, Nat.not_lt] at h
  exact ⟨h, UInt64.toNat_sub_of_le newest sequence (UInt64.le_iff_toNat_le.mpr h)⟩

/-- **The code's test decides the set.** -/
theorem hasSeen_iff (window : ReplayWindow) (sequence : UInt64) :
    window.hasSeen sequence = true ↔ window.IsSeen sequence.toNat := by
  unfold hasSeen IsSeen
  cases window.newestSequence with
  | none => simp
  | some newest =>
    dsimp only
    by_cases hgt : sequence > newest
    · rw [if_pos hgt]
      rw [gt_iff_lt, UInt64.lt_iff_toNat_lt] at hgt
      simp only [Bool.false_eq_true, false_iff, not_and]
      omega
    rw [if_neg hgt]
    obtain ⟨hle, hoffset⟩ := toNat_sub_of_not_gt hgt
    have hreach : newest - sequence ≥ 64 ↔ sequence.toNat + 64 ≤ newest.toNat := by
      rw [ge_iff_le, UInt64.le_iff_toNat_le, hoffset]
      show 64 ≤ _ ↔ _
      omega
    rw [Bool.or_eq_true, decide_eq_true_iff, decide_eq_true_iff, hreach]
    by_cases hfar : sequence.toNat + 64 ≤ newest.toNat
    · simp [hfar, hle]
    · have hbit := shiftRight_and_one_eq_one_iff window.seen (newest - sequence) (by omega)
      rw [hbit, hoffset]
      simp [hfar, hle]

/-- **Marking adds exactly the number and what falls out of reach.** -/
theorem isSeen_markSeen (window : ReplayWindow) (sequence : UInt64) (n : Nat) :
    (window.markSeen sequence).IsSeen n ↔
      window.IsSeen n ∨ n = sequence.toNat ∨ n + 64 ≤ sequence.toNat := by
  unfold markSeen
  cases hnewest : window.newestSequence with
  | none =>
    have hold : ¬ window.IsSeen n := by simp [IsSeen, hnewest]
    have hone : (1 : UInt64).toNat = 2 ^ 0 := rfl
    simp only [IsSeen, hone, Nat.testBit_two_pow, decide_eq_true_iff]
    simp only [IsSeen] at hold
    simp only [hnewest, false_or]
    omega
  | some newest =>
    have hold : window.IsSeen n ↔ n ≤ newest.toNat ∧
        (n + 64 ≤ newest.toNat ∨ window.seen.toNat.testBit (newest.toNat - n) = true) := by
      simp only [IsSeen, hnewest]
    rw [hold]
    dsimp only
    by_cases hgt : sequence > newest
    · -- the window moves up to the new number
      rw [if_pos hgt]
      have hlt := hgt
      rw [gt_iff_lt, UInt64.lt_iff_toNat_lt] at hlt
      have hshift : (sequence - newest).toNat = sequence.toNat - newest.toNat :=
        UInt64.toNat_sub_of_le sequence newest (UInt64.le_iff_toNat_le.mpr (by omega))
      simp only [IsSeen]
      by_cases hfar : sequence - newest ≥ 64
      · rw [if_pos hfar]
        rw [ge_iff_le, UInt64.le_iff_toNat_le, hshift] at hfar
        have hfar : 64 ≤ sequence.toNat - newest.toNat := hfar
        have hone : (1 : UInt64).toNat = 2 ^ 0 := rfl
        rw [hone, Nat.testBit_two_pow, decide_eq_true_iff]
        omega
      · rw [if_neg hfar]
        rw [ge_iff_le, UInt64.le_iff_toNat_le, hshift, Nat.not_le] at hfar
        have hfar : sequence.toNat - newest.toNat < 64 := hfar
        by_cases hreach : n + 64 ≤ sequence.toNat
        · simp only [hreach, true_or, or_true, and_true, iff_true]
          omega
        by_cases hle : n ≤ sequence.toNat
        · rw [testBit_shiftLeft_or_one _ _ (by omega) _ (by omega), hshift]
          by_cases hbelow : n ≤ newest.toNat
          · have hdist : sequence.toNat - n - (sequence.toNat - newest.toNat)
                = newest.toNat - n := by omega
            rw [hdist]
            have h1 : sequence.toNat - newest.toNat ≤ sequence.toNat - n := by omega
            have h2 : ¬ n + 64 ≤ newest.toNat := by omega
            have h3 : sequence.toNat - n = 0 ↔ n = sequence.toNat := by omega
            simp only [hle, hreach, hbelow, h1, h2, h3, true_and, false_or, or_false]
            exact or_comm
          · omega
        · omega
    · -- the number lies below the newest one: at most its bit is set
      rw [if_neg hgt]
      obtain ⟨hle, hoffset⟩ := toNat_sub_of_not_gt hgt
      by_cases hnear : newest - sequence < 64
      · rw [if_pos hnear]
        rw [UInt64.lt_iff_toNat_lt, hoffset] at hnear
        have hnear : newest.toNat - sequence.toNat < 64 := hnear
        simp only [IsSeen]
        rw [testBit_or_one_shiftLeft _ _ (by omega), hoffset]
        by_cases hset : window.seen.toNat.testBit (newest.toNat - n) = true
        · simp only [hset, true_or, or_true, and_true]
          omega
        · simp only [hset, Bool.false_eq_true, false_or, or_false]
          omega
      · rw [if_neg hnear, hold]
        rw [UInt64.lt_iff_toNat_lt, hoffset, Nat.not_lt] at hnear
        have hnear : 64 ≤ newest.toNat - sequence.toNat := hnear
        constructor
        · exact Or.inl
        · intro h
          cases h with
          | inl hseen => exact hseen
          | inr hnew => exact ⟨by omega, Or.inl (by omega)⟩

/-! ## §3. A window after any sequence of marks. -/

/-- A marked number is seen from then on. -/
theorem hasSeen_markSeen_self (window : ReplayWindow) (sequence : UInt64) :
    (window.markSeen sequence).hasSeen sequence = true := by
  rw [hasSeen_iff, isSeen_markSeen]
  exact Or.inr (Or.inl rfl)

/-- What was seen stays seen. -/
theorem hasSeen_markSeen_of_hasSeen {window : ReplayWindow} {sequence : UInt64}
    (h : window.hasSeen sequence = true) (marked : UInt64) :
    (window.markSeen marked).hasSeen sequence = true := by
  rw [hasSeen_iff] at h ⊢
  rw [isSeen_markSeen]
  exact Or.inl h

/-- **After any sequence of marks** a number is seen exactly when it was seen before, was
    marked, or lies 64 or more below a marked number. -/
theorem isSeen_foldl_markSeen (marks : List UInt64) (window : ReplayWindow) (n : Nat) :
    (marks.foldl markSeen window).IsSeen n ↔
      window.IsSeen n ∨ ∃ m ∈ marks, n = m.toNat ∨ n + 64 ≤ m.toNat := by
  induction marks generalizing window with
  | nil => simp
  | cons m marks ih =>
    rw [List.foldl_cons, ih, isSeen_markSeen]
    simp only [List.exists_mem_cons_iff]
    exact or_assoc

/-! ## §4. Shifts in range. -/

/-- `u64::checked_shl`: no value from the width of the word on. -/
def checkedShl (word amount : UInt64) : Option UInt64 :=
  if amount < 64 then some (word <<< amount) else none

def checkedShr (word amount : UInt64) : Option UInt64 :=
  if amount < 64 then some (word >>> amount) else none

/-- `has_seen` with its shift checked. -/
def hasSeenChecked (window : ReplayWindow) (sequence : UInt64) : Option Bool :=
  match window.newestSequence with
  | none => some false
  | some newest =>
    if sequence > newest then some false
    else
      let offset := newest - sequence
      if offset ≥ 64 then some true
      else (checkedShr window.seen offset).map fun shifted => (shifted &&& 1) = 1

/-- `mark_seen` with its shifts checked. -/
def markSeenChecked (window : ReplayWindow) (sequence : UInt64) : Option ReplayWindow :=
  match window.newestSequence with
  | none => some { newestSequence := some sequence, seen := 1 }
  | some newest =>
    if sequence > newest then
      let shift := sequence - newest
      if shift ≥ 64 then some { newestSequence := some sequence, seen := 1 }
      else (checkedShl window.seen shift).map fun shifted =>
        { newestSequence := some sequence, seen := shifted ||| 1 }
    else
      let offset := newest - sequence
      if offset < 64 then (checkedShl 1 offset).map fun bit =>
        { window with seen := window.seen ||| bit }
      else some window

/-- No test of the window shifts too far. -/
theorem hasSeenChecked_eq (window : ReplayWindow) (sequence : UInt64) :
    window.hasSeenChecked sequence = some (window.hasSeen sequence) := by
  unfold hasSeenChecked hasSeen
  cases window.newestSequence with
  | none => rfl
  | some newest =>
    dsimp only
    split
    · rfl
    by_cases hfar : newest - sequence ≥ 64
    · rw [if_pos hfar, decide_eq_true hfar, Bool.true_or]
    · have hnear : newest - sequence < 64 := UInt64.not_le.mp hfar
      rw [if_neg hfar, checkedShr, if_pos hnear, decide_eq_false hfar, Bool.false_or]
      rfl

/-- No mark shifts too far. -/
theorem markSeenChecked_eq (window : ReplayWindow) (sequence : UInt64) :
    window.markSeenChecked sequence = some (window.markSeen sequence) := by
  unfold markSeenChecked markSeen
  cases window.newestSequence with
  | none => rfl
  | some newest =>
    dsimp only
    split
    · by_cases hfar : sequence - newest ≥ 64
      · rw [if_pos hfar, if_pos hfar]
      · have hnear : sequence - newest < 64 := UInt64.not_le.mp hfar
        rw [if_neg hfar, if_neg hfar, checkedShl, if_pos hnear]
        rfl
    · by_cases hnear : newest - sequence < 64
      · rw [if_pos hnear, if_pos hnear, checkedShl, if_pos hnear]
        rfl
      · rw [if_neg hnear, if_neg hnear]

/-- What a new window has seen after some marks, in terms of their largest number. -/
theorem hasSeen_marks (marks : List UInt64) (sequence : UInt64) :
    (marks.foldl markSeen new).hasSeen sequence = true ↔ sequence ∈ marks ∨
        ∃ m ∈ marks, (∀ k ∈ marks, k ≤ m) ∧ sequence.toNat + 64 ≤ m.toNat := by
  rw [hasSeen_iff, isSeen_foldl_markSeen, or_iff_right (not_isSeen_new _)]
  constructor
  · rintro ⟨m, hm, hsame | hbelow⟩
    · rw [UInt64.toNat_inj.mp hsame]
      exact Or.inl hm
    · -- a number far below some mark is far below the largest one
      obtain ⟨_, hsome⟩ := Option.isSome_iff_exists.mp
        (List.isSome_max?_of_mem (List.mem_map_of_mem (f := UInt64.toNat) hm))
      obtain ⟨hmem, hmax⟩ := List.max?_eq_some_iff.mp hsome
      obtain ⟨top, htop, rfl⟩ := List.mem_map.mp hmem
      have hmax : ∀ k ∈ marks, k.toNat ≤ top.toNat := fun k hk => hmax _ (List.mem_map_of_mem hk)
      exact Or.inr ⟨top, htop, fun k hk => UInt64.le_iff_toNat_le.mpr (hmax k hk),
        Nat.le_trans hbelow (hmax m hm)⟩
  · rintro (hmem | ⟨m, hm, -, hbelow⟩)
    · exact ⟨sequence, hmem, Or.inl rfl⟩
    · exact ⟨m, hm, Or.inr hbelow⟩

/-- **The replay window.**  After any marks on a new window a number is seen exactly when it was
    marked or lies 64 or more below the largest mark, and neither call shifts by 64 or more.
    Another mark leaves an unmarked number within the last 64 unseen, and the order and number
    of the marks do not matter. -/
theorem replay_window_exact (marks : List UInt64) (sequence : UInt64) :
    let window := marks.foldl markSeen new
    (window.hasSeen sequence = true ↔ sequence ∈ marks ∨
        ∃ m ∈ marks, (∀ k ∈ marks, k ≤ m) ∧ sequence.toNat + 64 ≤ m.toNat) ∧
    (window.hasSeenChecked sequence = some (window.hasSeen sequence) ∧
      window.markSeenChecked sequence = some (window.markSeen sequence)) ∧
    (∀ mark, sequence ∉ mark :: marks → (∀ m ∈ mark :: marks, m.toNat < sequence.toNat + 64) →
      (window.markSeen mark).hasSeen sequence = false) ∧
    ∀ marks' : List UInt64, (∀ m, m ∈ marks' ↔ m ∈ marks) →
      (marks'.foldl markSeen new).hasSeen sequence = window.hasSeen sequence := by
  refine ⟨hasSeen_marks marks sequence, ⟨hasSeenChecked_eq _ _, markSeenChecked_eq _ _⟩, ?_, ?_⟩
  · intro mark hunmarked hnear
    have happend : (marks.foldl markSeen new).markSeen mark =
        (marks ++ [mark]).foldl markSeen new := by
      rw [List.foldl_append]
      rfl
    have hperm : ∀ m, m ∈ marks ++ [mark] → m ∈ mark :: marks :=
      fun m hm => (List.perm_append_singleton mark marks).mem_iff.mp hm
    rw [happend, Bool.eq_false_iff]
    intro hseen
    rcases (hasSeen_marks _ _).mp hseen with hmem | ⟨m, hm, -, hbelow⟩
    · exact hunmarked (hperm _ hmem)
    · exact absurd (hnear m (hperm m hm)) (Nat.not_lt.mpr hbelow)
  · intro marks' hsame
    rw [Bool.eq_iff_iff, hasSeen_marks, hasSeen_marks]
    simp only [hsame]

end Meshcop.Dtls.ReplayWindow
