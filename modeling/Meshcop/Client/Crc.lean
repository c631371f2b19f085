/-
  Meshcop.Client.Crc — the CRC of the Bloom filter as polynomial division
  (`meshcop/src/crypto/pskc.rs`, `crc16`).

  The register is a polynomial over GF(2) of degree below 16.  One shift multiplies it by `X` and
  takes away the modulus when a bit leaves at the top, so the register stays congruent to what
  went in: the bytes read so far, times `X ^ 16`.

  Main results:
    * `modulus_dvd_crcShift`  — one shift, modulo `X ^ 16 + p`;
    * `modulus_dvd_crc`       — the whole loop, from any register;
    * `crc16_is_remainder`.
-/

import Mathlib
import Meshcop.Client.EnableJoiner

namespace Meshcop

open Lib Polynomial

/-! ## §1. Words as polynomials. -/

/-- The polynomial whose coefficients are the lowest bits of a number. -/
noncomputable def bitPolynomial (width n : Nat) : (ZMod 2)[X] :=
  ofFn width fun i => if n.testBit i then 1 else 0

theorem bitPolynomial_coeff (width n i : Nat) :
    (bitPolynomial width n).coeff i = if i < width ∧ n.testBit i = true then 1 else 0 := by
  unfold bitPolynomial
  by_cases hi : i < width
  · rw [ofFn_coeff_eq_val_of_lt _ hi]
    simp [hi]
  · rw [ofFn_coeff_eq_zero_of_ge _ (Nat.le_of_not_lt hi)]
    simp [hi]

theorem bitPolynomial_xor (width m n : Nat) :
    bitPolynomial width (m ^^^ n) = bitPolynomial width m + bitPolynomial width n := by
  ext i
  rw [coeff_add, bitPolynomial_coeff, bitPolynomial_coeff, bitPolynomial_coeff, Nat.testBit_xor]
  by_cases hi : i < width
  · simp only [hi, true_and]
    cases m.testBit i <;> cases n.testBit i <;> decide
  · simp [hi]

/-- A register of 16 bits. -/
noncomputable def wordPolynomial (word : UInt16) : (ZMod 2)[X] := bitPolynomial 16 word.toNat

noncomputable def bytePolynomial (byte : UInt8) : (ZMod 2)[X] := bitPolynomial 8 byte.toNat

/-- The polynomial of a byte string, most significant bit first. -/
noncomputable def messagePolynomial : Bytes → (ZMod 2)[X]
  | [] => 0
  | byte :: rest => bytePolynomial byte * X ^ (8 * rest.length) + messagePolynomial rest

/-- What is divided by. -/
noncomputable def crcModulus (poly : UInt16) : (ZMod 2)[X] := X ^ 16 + wordPolynomial poly

theorem wordPolynomial_xor (a b : UInt16) :
    wordPolynomial (a ^^^ b) = wordPolynomial a + wordPolynomial b := by
  rw [wordPolynomial, UInt16.toNat_xor]
  exact bitPolynomial_xor 16 _ _

theorem wordPolynomial_injective : Function.Injective wordPolynomial := by
  intro a b h
  rw [← UInt16.toNat_inj]
  refine Nat.eq_of_testBit_eq fun i => ?_
  by_cases hi : i < 16
  · have hcoeff := congrArg (coeff · i) h
    simp only [wordPolynomial, bitPolynomial_coeff, hi, true_and] at hcoeff
    cases ha : a.toNat.testBit i <;> cases hb : b.toNat.testBit i <;> simp_all
  · have hpow : 2 ^ 16 ≤ 2 ^ i := Nat.pow_le_pow_right (by decide) (Nat.le_of_not_lt hi)
    rw [Nat.testBit_lt_two_pow (Nat.lt_of_lt_of_le a.toNat_lt hpow),
      Nat.testBit_lt_two_pow (Nat.lt_of_lt_of_le b.toNat_lt hpow)]

theorem wordPolynomial_degree_lt (word : UInt16) : (wordPolynomial word).degree < 16 :=
  ofFn_degree_lt _

theorem crcModulus_monic (poly : UInt16) : (crcModulus poly).Monic :=
  monic_X_pow_add (wordPolynomial_degree_lt poly)

theorem crcModulus_degree (poly : UInt16) : (crcModulus poly).degree = 16 :=
  (degree_add_eq_left_of_degree_lt (by rw [degree_X_pow]; exact wordPolynomial_degree_lt poly)).trans
    (degree_X_pow 16)

/-! ## §2. The loop. -/

variable (poly : UInt16)

/-- The register moved up by one. -/
theorem wordPolynomial_shiftLeft (crc : UInt16) : X * wordPolynomial crc =
      (if crc &&& 0x8000 ≠ 0 then X ^ 16 else 0) + wordPolynomial (crc <<< 1) := by
  have htop : crc &&& 0x8000 ≠ 0 ↔ crc.toNat.testBit 15 = true := by
    rw [ne_eq, ← UInt16.toNat_inj, UInt16.toNat_and]
    show ¬ crc.toNat &&& 2 ^ 15 = 0 ↔ _
    rw [Nat.and_two_pow]
    cases crc.toNat.testBit 15 <;> simp
  have hshift : ∀ i, (crc <<< 1).toNat.testBit i =
      (decide (i < 16) && (decide (1 ≤ i) && crc.toNat.testBit (i - 1))) := by
    intro i
    rw [UInt16.toNat_shiftLeft, Nat.testBit_mod_two_pow, UInt16.toNat_one,
      Nat.mod_eq_of_lt (by decide), Nat.testBit_shiftLeft]
  ext i
  simp only [htop, wordPolynomial, coeff_add, bitPolynomial_coeff, hshift]
  cases i with
  | zero =>
    rw [coeff_X_mul_zero]
    split <;> simp
  | succ i =>
    rw [coeff_X_mul, bitPolynomial_coeff]
    -- the bit that leaves the register is the coefficient of `X ^ 16`
    by_cases hlast : i = 15
    · subst hlast
      cases crc.toNat.testBit 15 <;> simp
    have hlt : i + 1 < 16 ↔ i < 16 := by omega
    have hnone : (if crc.toNat.testBit 15 = true then X ^ 16 else 0 : (ZMod 2)[X]).coeff (i + 1) =
        0 := by
      split <;> simp [coeff_X_pow, hlast]
    rw [hnone]
    simp [hlt]

/-- **One shift** of the register multiplies it by `X`. -/
theorem modulus_dvd_crcShift (crc : UInt16) :
    crcModulus poly ∣ X * wordPolynomial crc - wordPolynomial (crcShift poly crc) := by
  unfold crcShift
  rw [wordPolynomial_shiftLeft]
  split
  · rw [wordPolynomial_xor, CharTwo.sub_eq_add]
    refine Dvd.intro 1 ?_
    rw [crcModulus, mul_one]
    linear_combination -(CharTwo.add_self_eq_zero (wordPolynomial (crc <<< 1)))
  · rw [zero_add, sub_self]
    exact dvd_zero _

theorem modulus_dvd_shifts (n : Nat) (crc : UInt16) :
    crcModulus poly ∣ X ^ n * wordPolynomial crc - wordPolynomial ((crcShift poly)^[n] crc) := by
  induction n with
  | zero => simp
  | succ n ih =>
    rw [Function.iterate_succ_apply']
    have hstep := modulus_dvd_crcShift poly ((crcShift poly)^[n] crc)
    convert dvd_add (ih.mul_left X) hstep using 1
    ring

/-- A byte goes in at the top of the register. -/
theorem wordPolynomial_fed (crc : UInt16) (byte : UInt8) :
    wordPolynomial (crc ^^^ (byte.toUInt16 <<< (8 : UInt16))) =
      wordPolynomial crc + X ^ 8 * bytePolynomial byte := by
  have hbit : ∀ i, (byte.toUInt16 <<< (8 : UInt16)).toNat.testBit i =
      (decide (i < 16) && (decide (8 ≤ i) && byte.toNat.testBit (i - 8))) := by
    intro i
    rw [UInt16.toNat_shiftLeft, Nat.testBit_mod_two_pow, UInt8.toNat_toUInt16,
      Nat.testBit_shiftLeft]
    rfl
  rw [wordPolynomial_xor]
  congr 1
  ext i
  rw [wordPolynomial, bytePolynomial, bitPolynomial_coeff, hbit, coeff_X_pow_mul',
    bitPolynomial_coeff]
  by_cases hi : 8 ≤ i
  · have hlt : i < 16 ↔ i - 8 < 8 := by omega
    simp [hi, hlt]
  · simp [hi]

theorem modulus_dvd_crcByte (crc : UInt16) (byte : UInt8) :
    crcModulus poly ∣ X ^ 8 * wordPolynomial crc + X ^ 16 * bytePolynomial byte -
      wordPolynomial (crcByte poly crc byte) := by
  have hshifts := modulus_dvd_shifts poly 8 (crc ^^^ (byte.toUInt16 <<< (8 : UInt16)))
  rw [wordPolynomial_fed] at hshifts
  convert hshifts using 1
  rw [crcByte]
  ring

/-- **The loop over the bytes**, from any register. -/
theorem modulus_dvd_crc (bytes : Bytes) (crc : UInt16) :
    crcModulus poly ∣ wordPolynomial crc * X ^ (8 * bytes.length) +
      messagePolynomial bytes * X ^ 16 - wordPolynomial (bytes.foldl (crcByte poly) crc) := by
  induction bytes generalizing crc with
  | nil => simp [messagePolynomial]
  | cons byte rest ih =>
    have hbyte := (modulus_dvd_crcByte poly crc byte).mul_left (X ^ (8 * rest.length))
    convert dvd_add hbyte (ih (crcByte poly crc byte)) using 1
    rw [messagePolynomial, List.length_cons, List.foldl_cons]
    ring

theorem wordPolynomial_crc16 (bytes : Bytes) :
    wordPolynomial (crc16 poly bytes) = (messagePolynomial bytes * X ^ 16) %ₘ crcModulus poly := by
  have hdvd := modulus_dvd_crc poly bytes 0
  have hzero : wordPolynomial 0 = 0 := by
    ext i
    simp [wordPolynomial, bitPolynomial_coeff]
  rw [hzero, zero_mul, zero_add] at hdvd
  rw [modByMonic_eq_of_dvd_sub (crcModulus_monic poly) hdvd]
  refine ((modByMonic_eq_self_iff (crcModulus_monic poly)).mpr ?_).symm
  rw [crcModulus_degree]
  exact wordPolynomial_degree_lt _

theorem messagePolynomial_xor {a b : Bytes} (h : a.length = b.length) :
    messagePolynomial (List.zipWith (· ^^^ ·) a b) = messagePolynomial a + messagePolynomial b := by
  induction a generalizing b with
  | nil =>
    cases List.length_eq_zero_iff.mp h.symm
    simp [messagePolynomial]
  | cons x a ih =>
    cases b with
    | nil => cases h
    | cons y b =>
      have hrest : a.length = b.length := Nat.succ.inj h
      have hbyte : bytePolynomial (x ^^^ y) = bytePolynomial x + bytePolynomial y := by
        rw [bytePolynomial, UInt8.toNat_xor]
        exact bitPolynomial_xor 8 _ _
      rw [List.zipWith_cons_cons, messagePolynomial, messagePolynomial, messagePolynomial,
        ih hrest, hbyte, List.length_zipWith, ← hrest, Nat.min_self]
      ring

/-- **The CRC is the remainder** of the bytes, times `X ^ 16`, divided by `X ^ 16 + p`.  So it is
    linear, and a longer input depends on its beginning only through the CRC of that. -/
theorem crc16_is_remainder : (∀ bytes, wordPolynomial (crc16 poly bytes) =
      (messagePolynomial bytes * X ^ 16) %ₘ (X ^ 16 + wordPolynomial poly)) ∧
    (∀ a b : Bytes, a.length = b.length →
      crc16 poly (List.zipWith (· ^^^ ·) a b) = crc16 poly a ^^^ crc16 poly b) ∧
    ∀ a a' b : Bytes, crc16 poly a = crc16 poly a' → crc16 poly (a ++ b) = crc16 poly (a' ++ b) := by
  refine ⟨wordPolynomial_crc16 poly, ?_, ?_⟩
  · intro a b hlength
    refine wordPolynomial_injective ?_
    rw [wordPolynomial_xor, wordPolynomial_crc16, wordPolynomial_crc16, wordPolynomial_crc16,
      messagePolynomial_xor hlength, add_mul, add_modByMonic]
  · intro a a' b hsame
    rw [crc16, List.foldl_append, crc16, List.foldl_append]
    exact congrArg (b.foldl (crcByte poly)) hsame

end Meshcop
