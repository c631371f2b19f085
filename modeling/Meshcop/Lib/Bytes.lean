/-
  Meshcop.Lib.Bytes — byte strings and fixed-width big-endian numbers.

  Every wire format of this development writes its numbers most significant byte first and
  in a fixed number of bytes.  This file gives the two directions once, for any width:

    * `toBE w n`  — the low `w` bytes of `n`, most significant first;
    * `ofBE bs`   — the number whose big-endian digits are `bs`.

  Main results:
    * `ofBE_toBE` — reading back a written number gives it modulo `256 ^ w`;
    * `toBE_ofBE` — writing back a number that was read gives its bytes;
    * `toBE_inj`  — below `256 ^ w` the written bytes determine the number.

  It also has byte strings of a fixed length, the check for UTF-8 text and the two halves of a
  byte.
-/

import Mathlib.Data.List.Nodup
import Mathlib.Data.List.Perm.Subperm
import Mathlib.Data.Nat.ModEq
import Mathlib.Tactic.Ring

namespace Lib

/-- A byte string. -/
abbrev Bytes := List UInt8

/-- The bytes of an ASCII literal. -/
def ascii (text : String) : Bytes := text.toList.map (fun c => UInt8.ofNat c.toNat)

/-! ## §1. Big-endian numbers. -/

/-- The low `w` bytes of `n`, most significant first; higher bytes are cut off, as a machine
    shift followed by a truncating cast does. -/
def toBE : Nat → Nat → Bytes
  | 0, _ => []
  | w + 1, n => UInt8.ofNat (n / 256 ^ w) :: toBE w n

/-- The number whose big-endian digits are the given bytes. -/
def ofBE : Bytes → Nat
  | [] => 0
  | b :: bs => b.toNat * 256 ^ bs.length + ofBE bs

@[simp] theorem length_toBE (w n : Nat) : (toBE w n).length = w := by
  induction w with
  | zero => rfl
  | succ w ih => simp [toBE, ih]

/-- **Reading back.**  The written bytes denote the number modulo `256 ^ w`. -/
theorem ofBE_toBE (w n : Nat) : ofBE (toBE w n) = n % 256 ^ w := by
  induction w with
  | zero => simp [toBE, ofBE, Nat.mod_one]
  | succ w ih =>
    have hdigit : (UInt8.ofNat (n / 256 ^ w)).toNat = n / 256 ^ w % 256 := by simp
    calc ofBE (toBE (w + 1) n)
        = (n / 256 ^ w % 256) * 256 ^ w + n % 256 ^ w := by
          simp only [toBE, ofBE, length_toBE, hdigit, ih]
      _ = n % (256 ^ w * 256) := by rw [Nat.mod_mul]; ring
      _ = n % 256 ^ (w + 1) := by rw [Nat.pow_succ]

/-- **Writing is injective** on the numbers that fit the width. -/
theorem toBE_inj {w m n : Nat} (hm : m < 256 ^ w) (hn : n < 256 ^ w)
    (h : toBE w m = toBE w n) : m = n := by
  have hback := congrArg ofBE h
  rwa [ofBE_toBE, ofBE_toBE, Nat.mod_eq_of_lt hm, Nat.mod_eq_of_lt hn] at hback

/-- Digits beyond the width do not show. -/
theorem toBE_add (w k n : Nat) : toBE w (k * 256 ^ w + n) = toBE w n := by
  induction w generalizing k with
  | zero => rfl
  | succ w ih =>
    have hsplit : k * 256 ^ (w + 1) + n = k * 256 * 256 ^ w + n := by ring
    have hdigit : (k * 256 * 256 ^ w + n) / 256 ^ w = k * 256 + n / 256 ^ w := by
      rw [Nat.add_comm, Nat.add_mul_div_right _ _ (Nat.pow_pos (by decide)), Nat.add_comm]
    have hcut : UInt8.ofNat (k * 256 + n / 256 ^ w) = UInt8.ofNat (n / 256 ^ w) := by
      refine UInt8.toNat_inj.mp ?_
      rw [UInt8.toNat_ofNat', UInt8.toNat_ofNat']
      omega
    rw [toBE, toBE, hsplit, hdigit, hcut, ih]

theorem ofBE_lt (bytes : Bytes) : ofBE bytes < 256 ^ bytes.length := by
  induction bytes with
  | nil => exact Nat.one_pos
  | cons b bytes ih =>
    have hb : b.toNat < 256 := b.toNat_lt
    calc b.toNat * 256 ^ bytes.length + ofBE bytes
        < (b.toNat + 1) * 256 ^ bytes.length := by rw [Nat.add_mul]; omega
      _ ≤ 256 * 256 ^ bytes.length := Nat.mul_le_mul_right _ hb
      _ = 256 ^ (bytes.length + 1) := by rw [Nat.pow_succ, Nat.mul_comm]

/-- **Writing back.**  Bytes are the digits of the number they denote. -/
theorem toBE_ofBE (bytes : Bytes) : toBE bytes.length (ofBE bytes) = bytes := by
  induction bytes with
  | nil => rfl
  | cons b bytes ih =>
    have hdigit : (b.toNat * 256 ^ bytes.length + ofBE bytes) / 256 ^ bytes.length = b.toNat := by
      rw [Nat.add_comm, Nat.add_mul_div_right _ _ (Nat.pow_pos (by decide)),
        Nat.div_eq_of_lt (ofBE_lt bytes), Nat.zero_add]
    rw [ofBE, List.length_cons, toBE, hdigit, UInt8.ofNat_toNat, toBE_add, ih]
/-- Numbers that count up: more than `used.length` of them in a row do not fit into `used`. -/
theorem exists_toBE_not_mem (w draws : Nat) (used : List Bytes) (hfree : used.length < 256 ^ w) :
    ∃ k < used.length + 1, toBE w ((draws + k) % 256 ^ w) ∉ used := by
  by_contra hall
  simp only [not_exists, not_and, not_not] at hall
  let drawn := (List.range (used.length + 1)).map (fun k => toBE w ((draws + k) % 256 ^ w))
  have hnodup : drawn.Nodup := by
    refine List.Nodup.map_on ?_ List.nodup_range
    intro k hk l hl heq
    have hk := List.mem_range.mp hk
    have hl := List.mem_range.mp hl
    have hpos : 0 < 256 ^ w := Nat.lt_of_le_of_lt (Nat.zero_le _) hfree
    have hmod := toBE_inj (Nat.mod_lt _ hpos) (Nat.mod_lt _ hpos) heq
    have hmod : Nat.ModEq (256 ^ w) k l := Nat.ModEq.add_left_cancel' draws hmod
    exact hmod.eq_of_lt_of_lt (by omega) (by omega)
  have hsubset : drawn ⊆ used := by
    intro token hmem
    obtain ⟨k, hk, rfl⟩ := List.mem_map.mp hmem
    exact hall k (List.mem_range.mp hk)
  have hlength := (hnodup.subperm hsubset).length_le
  simp only [drawn, List.length_map, List.length_range] at hlength
  omega

/-! ## §2. Byte strings of a fixed length, and text. -/

/-- A byte string of length `n`. -/
structure FixedBytes (n : Nat) where
  bytes : Bytes
  size : bytes.length = n
  deriving DecidableEq, Repr

/-- The given bytes, if they have the right length. -/
def FixedBytes.ofBytes? {n : Nat} (bytes : Bytes) : Option (FixedBytes n) :=
  if h : bytes.length = n then some ⟨bytes, h⟩ else none

/-- UTF-8 text, as its bytes. -/
abbrev Text := Bytes

/-- Whether the bytes continue a UTF-8 text in which `owed` tail bytes are still to come, the
    next of them between `lo` and `hi`. -/
def validUtf8From : (owed : Nat) → (lo hi : UInt8) → Bytes → Bool
  | owed, _, _, [] => owed = 0
  | 0, _, _, b :: rest =>
    if b ≤ 0x7f then validUtf8From 0 0x80 0xbf rest
    else if 0xc2 ≤ b ∧ b ≤ 0xdf then validUtf8From 1 0x80 0xbf rest
    else if b = 0xe0 then validUtf8From 2 0xa0 0xbf rest
    else if b = 0xed then validUtf8From 2 0x80 0x9f rest
    else if 0xe1 ≤ b ∧ b ≤ 0xef then validUtf8From 2 0x80 0xbf rest
    else if b = 0xf0 then validUtf8From 3 0x90 0xbf rest
    else if 0xf1 ≤ b ∧ b ≤ 0xf3 then validUtf8From 3 0x80 0xbf rest
    else if b = 0xf4 then validUtf8From 3 0x80 0x8f rest
    else false
  | owed + 1, lo, hi, b :: rest => lo ≤ b && b ≤ hi && validUtf8From owed 0x80 0xbf rest

/-- The bytes as text, if they are UTF-8. -/
def fromUtf8 (bytes : Bytes) : Option Text :=
  if validUtf8From 0 0x80 0xbf bytes then some bytes else none

/-- A byte between two characters is refused, or opens a character whose tail bytes are not
    ASCII. -/
theorem validUtf8From_opening (lo hi b : UInt8) :
    (∀ rest, validUtf8From 0 lo hi (b :: rest) = false) ∨ ∃ owed lo' hi', 0x80 ≤ lo' ∧
        ∀ rest, validUtf8From 0 lo hi (b :: rest) = validUtf8From owed lo' hi' rest := by
  by_cases h1 : b ≤ 0x7f
  · exact Or.inr ⟨0, 0x80, 0xbf, by decide, fun rest => by rw [validUtf8From, if_pos h1]⟩
  by_cases h2 : 0xc2 ≤ b ∧ b ≤ 0xdf
  · exact Or.inr ⟨1, 0x80, 0xbf, by decide, fun rest => by rw [validUtf8From, if_neg h1, if_pos h2]⟩
  by_cases h3 : b = 0xe0
  · exact Or.inr ⟨2, 0xa0, 0xbf, by decide, fun rest => by
      rw [validUtf8From, if_neg h1, if_neg h2, if_pos h3]⟩
  by_cases h4 : b = 0xed
  · exact Or.inr ⟨2, 0x80, 0x9f, by decide, fun rest => by
      rw [validUtf8From, if_neg h1, if_neg h2, if_neg h3, if_pos h4]⟩
  by_cases h5 : 0xe1 ≤ b ∧ b ≤ 0xef
  · exact Or.inr ⟨2, 0x80, 0xbf, by decide, fun rest => by
      rw [validUtf8From, if_neg h1, if_neg h2, if_neg h3, if_neg h4, if_pos h5]⟩
  by_cases h6 : b = 0xf0
  · exact Or.inr ⟨3, 0x90, 0xbf, by decide, fun rest => by
      rw [validUtf8From, if_neg h1, if_neg h2, if_neg h3, if_neg h4, if_neg h5, if_pos h6]⟩
  by_cases h7 : 0xf1 ≤ b ∧ b ≤ 0xf3
  · exact Or.inr ⟨3, 0x80, 0xbf, by decide, fun rest => by
      rw [validUtf8From, if_neg h1, if_neg h2, if_neg h3, if_neg h4, if_neg h5, if_neg h6,
        if_pos h7]⟩
  by_cases h8 : b = 0xf4
  · exact Or.inr ⟨3, 0x80, 0x8f, by decide, fun rest => by
      rw [validUtf8From, if_neg h1, if_neg h2, if_neg h3, if_neg h4, if_neg h5, if_neg h6,
        if_neg h7, if_pos h8]⟩
  · exact Or.inl fun rest => by
      rw [validUtf8From, if_neg h1, if_neg h2, if_neg h3, if_neg h4, if_neg h5, if_neg h6,
        if_neg h7, if_neg h8]

/-- An ASCII byte never continues a character, so a text may be cut at it. -/
theorem validUtf8From_append {owed : Nat} {lo hi separator : UInt8} {front rest : Bytes}
    (hlo : 0x80 ≤ lo) (hascii : separator ≤ 0x7f)
    (h : validUtf8From owed lo hi (front ++ separator :: rest) = true) :
    validUtf8From owed lo hi front = true ∧ validUtf8From 0 0x80 0xbf rest = true := by
  induction front generalizing owed lo hi with
  | nil =>
    cases owed with
    | zero =>
      rw [List.nil_append, validUtf8From, if_pos hascii] at h
      exact ⟨rfl, h⟩
    | succ owed =>
      -- a tail byte is still owed, and the separator is none
      rw [List.nil_append, validUtf8From, Bool.and_eq_true, Bool.and_eq_true, decide_eq_true_eq] at h
      exact absurd (UInt8.le_trans hlo (UInt8.le_trans h.1.1 hascii)) (by decide)
  | cons b front ih =>
    rw [List.cons_append] at h
    cases owed with
    | zero =>
      rcases validUtf8From_opening lo hi b with hrefused | ⟨owed, lo', hi', hlo', hopens⟩
      · rw [hrefused] at h
        cases h
      · rw [hopens] at h ⊢
        exact ih hlo' h
    | succ owed =>
      rw [validUtf8From, Bool.and_eq_true] at h ⊢
      obtain ⟨hfront, hrest⟩ := ih (by decide) h.2
      exact ⟨⟨h.1, hfront⟩, hrest⟩

/-- What `from_utf8` returns is the bytes it was given. -/
theorem fromUtf8_eq_some {bytes : Bytes} (h : validUtf8From 0 0x80 0xbf bytes = true) :
    fromUtf8 bytes = some bytes := by
  unfold fromUtf8
  rw [if_pos h]

/-! ## §3. The two halves of a byte. -/

theorem toNat_highNibble (b : UInt8) : (b >>> 4).toNat = b.toNat / 16 := by
  simp [UInt8.toNat_shiftRight, Nat.shiftRight_eq_div_pow]

theorem toNat_lowNibble (b : UInt8) : (b &&& 0x0f).toNat = b.toNat % 16 := by
  rw [UInt8.toNat_and]
  exact Nat.and_two_pow_sub_one_eq_mod b.toNat 4

theorem toNat_nibbles {high low : UInt8} (hhigh : high.toNat < 16) (hlow : low.toNat < 16) :
    ((high <<< 4) ||| low).toNat = 16 * high.toNat + low.toNat := by
  have hshift : high.toNat <<< ((4 : UInt8).toNat % 8) % 2 ^ 8 = high.toNat <<< 4 := by
    rw [Nat.shiftLeft_eq, Nat.shiftLeft_eq]
    show high.toNat * 2 ^ 4 % 2 ^ 8 = _
    omega
  have hlow : low.toNat < 2 ^ 4 := hlow
  rw [UInt8.toNat_or, UInt8.toNat_shiftLeft, hshift, Nat.shiftLeft_eq, Nat.mul_comm,
    ← Nat.two_pow_add_eq_or_of_lt hlow]

/-- A byte read as its two halves. -/
theorem nibbles_eq (b : UInt8) : ((b >>> 4) <<< 4) ||| (b &&& 0x0f) = b := by
  have hbyte : b.toNat < 256 := b.toNat_lt
  refine UInt8.toNat_inj.mp ?_
  rw [toNat_nibbles (by rw [toNat_highNibble]; omega) (by rw [toNat_lowNibble]; omega),
    toNat_highNibble, toNat_lowNibble]
  omega

/-- The halves of a byte put together from two. -/
theorem highNibble_nibbles {high low : UInt8} (hhigh : high.toNat < 16) (hlow : low.toNat < 16) :
    ((high <<< 4) ||| low) >>> 4 = high := by
  refine UInt8.toNat_inj.mp ?_
  rw [toNat_highNibble, toNat_nibbles hhigh hlow]
  omega

theorem lowNibble_nibbles {high low : UInt8} (hhigh : high.toNat < 16) (hlow : low.toNat < 16) :
    ((high <<< 4) ||| low) &&& 0x0f = low := by
  refine UInt8.toNat_inj.mp ?_
  rw [toNat_lowNibble, toNat_nibbles hhigh hlow]
  omega

end Lib
