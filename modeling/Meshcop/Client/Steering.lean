/-
  Meshcop.Client.Steering — whom steering data admits
  (`add_joiner_to_steering_data` of `meshcop/src/crypto/pskc.rs`).

  Steering data is a Bloom filter: a joiner is admitted if both of its bits, taken modulo the
  filter's own length, are set.  At sixteen bytes adding a joiner is a union, so a run of additions
  depends on the set of IDs alone.  At any other length `add_joiner_to_steering_data` starts over
  from zeros, and whoever was admitted is shut out unless the new joiner shares its bits.

  Main results:
    * `Startable.foldl_add`         — the bits after a run of additions;
    * `steering_accumulates`;
    * `still_admitted_iff`          — when an addition shuts nobody out.
-/

import Meshcop.Client.EnableJoiner

namespace Meshcop

open Lib

/-! ## §1. Bits and bytes. -/

/-- Bytes of one length are told apart by their bits. -/
theorem eq_of_hasBit {out other : Bytes} (hlength : out.length = other.length)
    (hbits : ∀ bit < out.length * 8, hasBit out bit = hasBit other bit) : out = other := by
  refine List.ext_getElem hlength fun k hk hk' => UInt8.toNat_inj.mp (Nat.eq_of_testBit_eq ?_)
  intro i
  by_cases hi : i < 8
  · have hbit := hbits ((out.length - 1 - k) * 8 + i) (by omega)
    have hbyte : out.length - 1 - ((out.length - 1 - k) * 8 + i) / 8 = k := by omega
    have hplace : ((out.length - 1 - k) * 8 + i) % 8 = i := by omega
    unfold hasBit at hbit
    rw [← hlength, hbyte, hplace, List.getD_eq_getElem?_getD, List.getD_eq_getElem?_getD,
      List.getElem?_eq_getElem hk, List.getElem?_eq_getElem hk'] at hbit
    exact hbit
  · -- a byte has eight bits
    have hsmall : ∀ byte : UInt8, byte.toNat.testBit i = false := by
      intro byte
      refine Nat.testBit_lt_two_pow (Nat.lt_of_lt_of_le byte.toNat_lt ?_)
      exact Nat.pow_le_pow_right (by decide) (Nat.le_of_not_lt hi)
    rw [hsmall, hsmall]

theorem hasBit_replicate_zero (n bit : Nat) : hasBit (List.replicate n 0) bit = false := by
  have hzero : (List.replicate n (0 : UInt8)).getD (n - 1 - bit / 8) 0 = 0 := by
    rw [List.getD_eq_getElem?_getD, List.getElem?_replicate]
    split <;> rfl
  unfold hasBit
  rw [List.length_replicate, hzero]
  exact Nat.zero_testBit _

/-- The bits of a joiner at full length. -/
def joinerBits (joinerId : Bytes) : List Nat :=
  [ccittBit (MAX_STEERING_DATA_LEN * 8) joinerId, ansiBit (MAX_STEERING_DATA_LEN * 8) joinerId]

variable {bit : Nat}

theorem lt_of_mem_joinerBits {joinerId : Bytes} (h : bit ∈ joinerBits joinerId) :
    bit < MAX_STEERING_DATA_LEN * 8 := by
  rcases List.mem_pair.mp h with rfl | rfl
  · exact ccittBit_lt joinerId
  · exact ansiBit_lt joinerId

/-- An addition, by bits: those of data of another length are lost. -/
theorem hasBit_add (steeringData joinerId : Bytes) (hbit : bit < MAX_STEERING_DATA_LEN * 8) :
    hasBit (addJoinerToSteeringData steeringData joinerId) bit = true ↔
      (steeringData.length = MAX_STEERING_DATA_LEN ∧ hasBit steeringData bit = true) ∨
        bit ∈ joinerBits joinerId := by
  by_cases hlength : steeringData.length = MAX_STEERING_DATA_LEN
  · rw [hasBit_addJoinerToSteeringData hlength joinerId bit hbit, joinerBits, List.mem_pair]
    simp [hlength]
  · rw [addJoinerToSteeringData_of_length_ne hlength,
      hasBit_addJoinerToSteeringData List.length_replicate joinerId bit hbit,
      hasBit_replicate_zero, joinerBits, List.mem_pair]
    simp [hlength]

/-! ## §2. Runs of additions. -/

/-- What runs of additions start from here: nothing, or sixteen bytes. -/
def Startable (steeringData : Bytes) : Prop :=
  steeringData = [] ∨ steeringData.length = MAX_STEERING_DATA_LEN

variable {steeringData : Bytes}

theorem Startable.hasBit_add (h : Startable steeringData) (joinerId : Bytes)
    (hbit : bit < MAX_STEERING_DATA_LEN * 8) :
    hasBit (addJoinerToSteeringData steeringData joinerId) bit = true ↔
      hasBit steeringData bit = true ∨ bit ∈ joinerBits joinerId := by
  rw [Meshcop.hasBit_add _ _ hbit]
  rcases h with rfl | hlength
  · rw [show hasBit [] bit = false from hasBit_replicate_zero 0 bit]
    simp
  · simp [hlength]

variable {joinerIds : List Bytes}

/-- **A run of additions**, by induction on the IDs: after the first there are sixteen bytes. -/
theorem Startable.foldl_add (h : Startable steeringData) (hne : joinerIds ≠ []) :
    (joinerIds.foldl addJoinerToSteeringData steeringData).length = MAX_STEERING_DATA_LEN ∧
    ∀ bit < MAX_STEERING_DATA_LEN * 8,
      hasBit (joinerIds.foldl addJoinerToSteeringData steeringData) bit = true ↔
        hasBit steeringData bit = true ∨ ∃ joinerId ∈ joinerIds, bit ∈ joinerBits joinerId := by
  induction joinerIds generalizing steeringData with
  | nil => exact absurd rfl hne
  | cons joinerId joinerIds ih =>
    have hlength := length_addJoinerToSteeringData steeringData joinerId
    rw [List.foldl_cons]
    by_cases hlast : joinerIds = []
    · subst hlast
      refine ⟨hlength, fun bit hbit => ?_⟩
      rw [List.foldl_nil, h.hasBit_add _ hbit]
      simp
    · obtain ⟨hlength, hbits⟩ := ih (Or.inr hlength) hlast
      refine ⟨hlength, fun bit hbit => ?_⟩
      rw [hbits bit hbit, h.hasBit_add _ hbit]
      simp [or_assoc]

/-- Runs with the same bits end in the same data. -/
theorem Startable.foldl_add_eq_iff (h : Startable steeringData) {others : List Bytes}
    (hne : joinerIds ≠ []) (hne' : others ≠ []) : others.foldl addJoinerToSteeringData steeringData
        = joinerIds.foldl addJoinerToSteeringData steeringData ↔
      ∀ bit < MAX_STEERING_DATA_LEN * 8, hasBit steeringData bit = true ∨
          (∃ joinerId ∈ others, bit ∈ joinerBits joinerId) ↔
        hasBit steeringData bit = true ∨ ∃ joinerId ∈ joinerIds, bit ∈ joinerBits joinerId := by
  obtain ⟨hlength, hbits⟩ := h.foldl_add hne
  obtain ⟨hlength', hbits'⟩ := h.foldl_add hne'
  constructor
  · intro heq bit hbit
    rw [← hbits bit hbit, ← hbits' bit hbit, heq]
  · intro hsame
    refine eq_of_hasBit (hlength'.trans hlength.symm) fun bit hbit => ?_
    rw [hlength'] at hbit
    rw [Bool.eq_iff_iff, hbits bit hbit, hbits' bit hbit, hsame bit hbit]

/-- Only the set of IDs matters. -/
theorem Startable.foldl_add_congr (h : Startable steeringData) {others : List Bytes}
    (hne : joinerIds ≠ []) (hsame : ∀ joinerId, joinerId ∈ others ↔ joinerId ∈ joinerIds) :
    others.foldl addJoinerToSteeringData steeringData
      = joinerIds.foldl addJoinerToSteeringData steeringData := by
  obtain ⟨joinerId, hmem⟩ := List.exists_mem_of_ne_nil joinerIds hne
  refine (h.foldl_add_eq_iff hne (List.ne_nil_of_mem ((hsame joinerId).mpr hmem))).mpr ?_
  intro bit _
  simp only [hsame]

/-- **Steering data accumulates joiners.**  From empty or sixteen-byte data, a non-empty run of
    additions gives sixteen bytes whose bits are the original ones and those of the listed joiners,
    whatever the order and the repetitions. -/
theorem steering_accumulates
    (hdata : steeringData = [] ∨ steeringData.length = MAX_STEERING_DATA_LEN)
    (hne : joinerIds ≠ []) :
    (joinerIds.foldl addJoinerToSteeringData steeringData).length = 16 ∧
    (∀ bit < 128, hasBit (joinerIds.foldl addJoinerToSteeringData steeringData) bit = true ↔
      hasBit steeringData bit = true ∨ ∃ joinerId ∈ joinerIds,
        bit = (crc16 0x1021 joinerId).toNat % 128 ∨ bit = (crc16 0x8005 joinerId).toNat % 128) ∧
    ∀ others : List Bytes, (∀ joinerId, joinerId ∈ others ↔ joinerId ∈ joinerIds) →
      others.foldl addJoinerToSteeringData steeringData
        = joinerIds.foldl addJoinerToSteeringData steeringData := by
  have hstart : Startable steeringData := hdata
  obtain ⟨hlength, hbits⟩ := hstart.foldl_add hne
  refine ⟨hlength, fun bit hbit => ?_, fun others hsame => hstart.foldl_add_congr hne hsame⟩
  rw [hbits bit hbit]
  simp only [joinerBits, List.mem_pair]
  rfl

/-- Two joiners added to no data, in either order. -/
theorem steering_accumulates_swapped :
    [[1], [2]].foldl addJoinerToSteeringData [] = [[2], [1]].foldl addJoinerToSteeringData [] := by
  have hne : ([[2], [1]] : List Bytes) ≠ [] := by decide
  exact (steering_accumulates (Or.inl rfl) hne).2.2 [[1], [2]] (by simp [or_comm])

/-! ## §3. Admission. -/

/-- Whether steering data admits a joiner. -/
def admits (steeringData joinerId : Bytes) : Bool :=
  hasBit steeringData (ccittBit (steeringData.length * 8) joinerId) &&
    hasBit steeringData (ansiBit (steeringData.length * 8) joinerId)

/-- At full length: both bits are set. -/
theorem admits_iff (hlength : steeringData.length = MAX_STEERING_DATA_LEN) (joinerId : Bytes) :
    admits steeringData joinerId = true ↔
      ∀ bit ∈ joinerBits joinerId, hasBit steeringData bit = true := by
  unfold admits joinerBits
  rw [hlength, Bool.and_eq_true]
  simp

/-- **When an addition shuts a joiner out.**  A joiner that steering data of any length admits is
    still admitted after an addition exactly when the data has 16 bytes or the added joiner has
    both of its bits. -/
theorem still_admitted_iff (joinerId added : Bytes)
    (hadmitted : admits steeringData joinerId = true) :
    admits (addJoinerToSteeringData steeringData added) joinerId = true ↔
      steeringData.length = MAX_STEERING_DATA_LEN ∨
        ∀ bit ∈ joinerBits joinerId, bit ∈ joinerBits added := by
  rw [admits_iff (length_addJoinerToSteeringData _ _)]
  by_cases hlength : steeringData.length = MAX_STEERING_DATA_LEN
  · have hbits := (admits_iff hlength joinerId).mp hadmitted
    refine iff_of_true (fun bit hbit => ?_) (Or.inl hlength)
    exact (hasBit_add _ _ (lt_of_mem_joinerBits hbit)).mpr (Or.inl ⟨hlength, hbits bit hbit⟩)
  · simp only [hlength, false_or]
    refine forall₂_congr fun bit hbit => ?_
    rw [hasBit_add _ _ (lt_of_mem_joinerBits hbit)]
    simp [hlength]

/-- The data `0xff` admits every joiner; after one is added it admits another one no more. -/
theorem still_admitted_of_all :
    admits [0xff] [0, 0, 0, 0, 0, 0, 0, 1] = true ∧
      admits (addJoinerToSteeringData [0xff] [0, 0, 0, 0, 0, 0, 0, 2]) [0, 0, 0, 0, 0, 0, 0, 1]
        = false := by
  decide +kernel

/-- A joiner stays admitted in sixteen bytes of ones. -/
theorem still_admitted_of_full :
    admits (addJoinerToSteeringData (List.replicate 16 0xff) [2]) [1] = true :=
  (still_admitted_iff [1] [2] (by decide)).mpr (Or.inl (by decide))

end Meshcop
