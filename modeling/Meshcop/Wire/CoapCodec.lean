/-
  Meshcop.Wire.CoapCodec — the CoAP codec is a bijection, up to a marker without payload.

  Numbers have one spelling each, in a nibble and its extension bytes; options are spelled as
  differences, which is why they are sorted first.  So reading back a message gives it with its
  options sorted, and a message that was read is spelled as it came, except that a payload
  marker may stand at the end with nothing after it.

  Main results:
    * `decodeOptions_encodeOptions` — options read back;
    * `encodeOptions_of_decode`     — options that were read are spelled as they came;
    * `coap_codec_exact`            — the same for messages, and which ones can be encoded.
-/

import Meshcop.Wire.Coap

namespace Meshcop

open Lib

namespace CoapMessage

/-! ## §1. Numbers. -/

/-- The nibble of a number is not the reserved one. -/
theorem encodeExtendedNibble_le (value : UInt16) : (encodeExtendedNibble value).1.toNat ≤ 14 := by
  unfold encodeExtendedNibble
  split
  · rename_i hsmall
    have hsmall : value.toNat ≤ 12 := hsmall
    show value.toUInt8.toNat ≤ 14
    rw [UInt16.toNat_toUInt8]
    omega
  · split
    · exact Nat.le_of_ble_eq_true rfl
    · exact Nat.le_refl 14

/-- A number reads back. -/
theorem decodeExtendedNibble_encode (value : UInt16) (rest : Bytes) :
    decodeExtendedNibble (encodeExtendedNibble value).1 ((encodeExtendedNibble value).2 ++ rest) =
      .ok (value, rest) := by
  have hvalue : value.toNat < 65536 := value.toNat_lt
  unfold encodeExtendedNibble
  by_cases hsmall : value ≤ 12
  · rw [if_pos hsmall]
    have hsmall : value.toNat ≤ 12 := hsmall
    have hnibble : value.toUInt8 ≤ 12 := by
      show value.toUInt8.toNat ≤ 12
      rw [UInt16.toNat_toUInt8]
      omega
    have hback : value.toUInt8.toUInt16 = value := by
      refine UInt16.toNat_inj.mp ?_
      rw [UInt8.toNat_toUInt16, UInt16.toNat_toUInt8]
      omega
    simp only [decodeExtendedNibble, hnibble, if_true, hback, List.nil_append]
  rw [if_neg hsmall]
  have hsmall : ¬value.toNat ≤ 12 := hsmall
  by_cases hmiddle : value ≤ 268
  · rw [if_pos hmiddle]
    have hmiddle : value.toNat ≤ 268 := hmiddle
    have hsub : (value - 13).toNat = value.toNat - 13 :=
      UInt16.toNat_sub_of_le _ _ (show 13 ≤ value.toNat by omega)
    have hback : (value - 13).toUInt8.toUInt16 + 13 = value := by
      refine UInt16.toNat_inj.mp ?_
      rw [UInt16.toNat_add, UInt8.toNat_toUInt16, UInt16.toNat_toUInt8, hsub]
      show ((value.toNat - 13) % 256 + 13) % 65536 = value.toNat
      omega
    show Except.ok ((value - 13).toUInt8.toUInt16 + 13, rest) = _
    rw [hback]
  · rw [if_neg hmiddle]
    have hmiddle : ¬value.toNat ≤ 268 := hmiddle
    have hsub : (value - 269).toNat = value.toNat - 269 :=
      UInt16.toNat_sub_of_le _ _ (show 269 ≤ value.toNat by omega)
    have hread : ofBE (toBE 2 (value - 269).toNat) = value.toNat - 269 := by
      rw [ofBE_toBE, hsub]
      exact Nat.mod_eq_of_lt (by omega)
    have hback : UInt16.ofNat (value.toNat - 269 + 269) = value := by
      rw [Nat.sub_add_cancel (by omega)]
      exact UInt16.ofNat_toNat
    show (if ofBE (toBE 2 (value - 269).toNat) + 269 > 65535 then _
      else Except.ok (UInt16.ofNat (ofBE (toBE 2 (value - 269).toNat) + 269), rest)) = _
    rw [hread, if_neg (by omega), hback]

variable {bytes : Bytes}

/-- A number that was read is spelled as it came. -/
theorem encodeExtendedNibble_of_decode {nibble : UInt8} {rest : Bytes} {value : UInt16}
    (h : decodeExtendedNibble nibble bytes = .ok (value, rest)) :
    (encodeExtendedNibble value).1 = nibble ∧ bytes = (encodeExtendedNibble value).2 ++ rest := by
  unfold decodeExtendedNibble at h
  split at h
  · rename_i hsmall
    cases h
    have hnibble : nibble.toNat ≤ 12 := hsmall
    have hvalue : nibble.toUInt16 ≤ 12 := by
      show nibble.toUInt16.toNat ≤ 12
      rw [UInt8.toNat_toUInt16]
      exact hnibble
    rw [encodeExtendedNibble, if_pos hvalue]
    refine ⟨UInt8.toNat_inj.mp ?_, rfl⟩
    show nibble.toUInt16.toUInt8.toNat = _
    rw [UInt16.toNat_toUInt8, UInt8.toNat_toUInt16]
    omega
  split at h
  · rename_i hthirteen
    split at h
    · rename_i byte rest'
      cases h
      have hbyte : byte.toNat < 256 := byte.toNat_lt
      have hvalue : (byte.toUInt16 + 13).toNat = byte.toNat + 13 := by
        rw [UInt16.toNat_add, UInt8.toNat_toUInt16]
        show (byte.toNat + 13) % 65536 = _
        omega
      have hsmall : ¬byte.toUInt16 + 13 ≤ 12 := by
        show ¬(byte.toUInt16 + 13).toNat ≤ 12
        omega
      have hmiddle : byte.toUInt16 + 13 ≤ 268 := by
        show (byte.toUInt16 + 13).toNat ≤ 268
        omega
      rw [encodeExtendedNibble, if_neg hsmall, if_pos hmiddle]
      refine ⟨hthirteen.symm, ?_⟩
      have hback : (byte.toUInt16 + 13 - 13).toUInt8 = byte := by
        refine UInt8.toNat_inj.mp ?_
        rw [UInt16.toNat_toUInt8, UInt16.toNat_sub_of_le _ _ (show 13 ≤ (_ : UInt16).toNat by omega),
          hvalue]
        show (byte.toNat + 13 - 13) % 256 = _
        omega
      rw [hback]
      rfl
    · cases h
  split at h
  · rename_i hfourteen
    split at h
    · rename_i high low rest'
      dsimp only at h
      split at h
      · cases h
      rename_i hfits
      cases h
      have hvalue : (UInt16.ofNat (ofBE [high, low] + 269)).toNat = ofBE [high, low] + 269 :=
        UInt16.toNat_ofNat_of_lt' (show _ < 65536 by omega)
      generalize hnumber : UInt16.ofNat (ofBE [high, low] + 269) = number at hvalue
      have hsmall : ¬number ≤ 12 := by
        show ¬number.toNat ≤ 12
        omega
      have hmiddle : ¬number ≤ 268 := by
        show ¬number.toNat ≤ 268
        omega
      have hsub : (number - 269).toNat = ofBE [high, low] := by
        rw [UInt16.toNat_sub_of_le _ _ (show 269 ≤ number.toNat by omega), hvalue]
        exact Nat.add_sub_cancel _ _
      rw [encodeExtendedNibble, if_neg hsmall, if_neg hmiddle]
      refine ⟨hfourteen.symm, ?_⟩
      show _ = toBE 2 (number - 269).toNat ++ rest
      rw [hsub, show toBE 2 (ofBE [high, low]) = [high, low] from toBE_ofBE [high, low]]
      rfl
    · cases h
  · cases h

/-! ## §2. Options. -/

/-- The header of an option, as its two numbers. -/
def optionHeader (delta length : UInt16) : Bytes :=
  (((encodeExtendedNibble delta).1 <<< 4) ||| (encodeExtendedNibble length).1) ::
    ((encodeExtendedNibble delta).2 ++ (encodeExtendedNibble length).2)

theorem encodeOptionHeader_eq_ok {delta : UInt16} {length : Nat} {header : Bytes} :
    encodeOptionHeader delta length = .ok header ↔
      length ≤ 65535 ∧ header = optionHeader delta (UInt16.ofNat length) := by
  unfold encodeOptionHeader
  split
  · exact ⟨(fun h => by cases h), fun h => by omega⟩
  constructor
  · intro h
    cases h
    exact ⟨by omega, rfl⟩
  · rintro ⟨-, rfl⟩
    rfl

variable {last : UInt16} {options : List CoapOption}

/-- **One option**, spelled after one with number `last`. -/
theorem encodeOptions_cons_eq_ok {option : CoapOption} :
    encodeOptions last (option :: options) = .ok bytes ↔
      last ≤ option.number ∧ option.value.length ≤ 65535 ∧
      ∃ rest, encodeOptions option.number options = .ok rest ∧
        bytes = optionHeader (option.number - last) (UInt16.ofNat option.value.length) ++
          option.value ++ rest := by
  rw [encodeOptions]
  split
  · rename_i hless
    constructor
    · intro h
      cases h
    · intro h
      exact absurd h.1 (UInt16.not_le.mpr hless)
  · rename_i hle
    rw [bind_eq_ok]
    constructor
    · rintro ⟨header, hheader, h⟩
      obtain ⟨rest, hrest, h⟩ := bind_eq_ok.mp h
      cases h
      obtain ⟨hlength, rfl⟩ := encodeOptionHeader_eq_ok.mp hheader
      exact ⟨UInt16.not_lt.mp hle, hlength, rest, hrest, rfl⟩
    · rintro ⟨-, hlength, rest, hrest, rfl⟩
      refine ⟨_, encodeOptionHeader_eq_ok.mpr ⟨hlength, rfl⟩, ?_⟩
      rw [bind_eq_ok]
      exact ⟨rest, hrest, rfl⟩

variable {fuel : Nat}

/-- **Reading one option.** -/
theorem decodeOptions_cons {delta length : UInt16} {value rest : Bytes}
    (hlength : value.length = length.toNat) (hnumber : last.toNat + delta.toNat ≤ 65535) :
    decodeOptions (fuel + 1) last (optionHeader delta length ++ value ++ rest) = (do
        let (options, payload) ← decodeOptions fuel (last + delta) rest
        return ({ number := last + delta, value } :: options, payload)) := by
  have hdelta := encodeExtendedNibble_le delta
  have hlow := encodeExtendedNibble_le length
  generalize hfirst : ((encodeExtendedNibble delta).1 <<< 4) ||| (encodeExtendedNibble length).1 =
    first
  have hpacked := toNat_nibbles (Nat.lt_of_le_of_lt hdelta (by decide))
    (Nat.lt_of_le_of_lt hlow (by decide))
  have hmarker : first ≠ 0xff := by
    intro hmarker
    rw [hfirst, hmarker] at hpacked
    have hpacked : 255 = _ := hpacked
    omega
  have hhigh : first >>> 4 = (encodeExtendedNibble delta).1 := by
    rw [← hfirst]
    exact highNibble_nibbles (Nat.lt_of_le_of_lt hdelta (by decide))
      (Nat.lt_of_le_of_lt hlow (by decide))
  have hlow : first &&& 0x0f = (encodeExtendedNibble length).1 := by
    rw [← hfirst]
    exact lowNibble_nibbles (Nat.lt_of_le_of_lt hdelta (by decide))
      (Nat.lt_of_le_of_lt hlow (by decide))
  have hbytes : optionHeader delta length ++ value ++ rest =
      first :: ((encodeExtendedNibble delta).2 ++
        ((encodeExtendedNibble length).2 ++ (value ++ rest))) := by
    rw [optionHeader, hfirst]
    simp
  have hlong : ¬(value ++ rest).length < length.toNat := by
    rw [List.length_append]
    omega
  have hfits : ¬last.toNat + delta.toNat > 65535 := by omega
  rw [hbytes, decodeOptions, if_neg hmarker, hhigh, hlow]
  simp only [decodeExtendedNibble_encode, bind, Except.bind, hlong, hfits, if_false]
  rw [List.drop_left' hlength, List.take_left' hlength]

/-- The end of a message: a payload after its marker, or nothing. -/
def payloadBytes (payload : Bytes) : Bytes := if payload = [] then [] else 0xff :: payload

/-- **Options read back**, with whatever payload follows. -/
theorem decodeOptions_encodeOptions (h : encodeOptions last options = .ok bytes) (payload : Bytes)
    (hfuel : (bytes ++ payloadBytes payload).length ≤ fuel) :
    decodeOptions fuel last (bytes ++ payloadBytes payload) = .ok (options, payload) := by
  -- induction on the options: each one is read and the rest starts after it
  induction options generalizing last bytes fuel with
  | nil =>
    cases h
    by_cases hempty : payload = []
    · rw [payloadBytes, if_pos hempty, hempty]
      cases fuel <;> rfl
    · rw [payloadBytes, if_neg hempty] at hfuel ⊢
      cases fuel with
      | zero => exact absurd hfuel (Nat.not_succ_le_zero _)
      | succ fuel => rfl
  | cons option options ih =>
    obtain ⟨hle, hlength, rest, hrest, rfl⟩ := encodeOptions_cons_eq_ok.mp h
    have hle : last.toNat ≤ option.number.toNat := hle
    have hnumber : option.number.toNat < 65536 := option.number.toNat_lt
    have hsub : (option.number - last).toNat = option.number.toNat - last.toNat :=
      UInt16.toNat_sub_of_le _ _ hle
    have hsum : last + (option.number - last) = option.number := by
      refine UInt16.toNat_inj.mp ?_
      rw [UInt16.toNat_add, hsub]
      show (last.toNat + (option.number.toNat - last.toNat)) % 65536 = _
      omega
    have hvalue : option.value.length = (UInt16.ofNat option.value.length).toNat :=
      (UInt16.toNat_ofNat_of_lt' (show option.value.length < 65536 by omega)).symm
    cases fuel with
    | zero =>
      rw [optionHeader] at hfuel
      exact absurd hfuel (Nat.not_succ_le_zero _)
    | succ fuel =>
      have hshorter : (rest ++ payloadBytes payload).length ≤ fuel := by
        rw [optionHeader] at hfuel
        simp only [List.cons_append, List.length_cons, List.length_append] at hfuel ⊢
        omega
      rw [List.append_assoc, decodeOptions_cons hvalue (by omega), hsum, ih hrest hshorter]
      rfl

/-- **Options that were read are spelled as they came**, except for a marker without payload. -/
theorem encodeOptions_of_decode {payload : Bytes}
    (h : decodeOptions fuel last bytes = .ok (options, payload)) :
    ∃ spelled, encodeOptions last options = .ok spelled ∧
      (bytes = spelled ++ payloadBytes payload ∨ payload = [] ∧ bytes = spelled ++ [0xff]) := by
  -- induction along the reader
  fun_induction decodeOptions fuel last bytes generalizing options payload with
  | case1 =>
    cases h
    exact ⟨[], rfl, Or.inl rfl⟩
  | case2 => cases h
  | case3 fuel last afterHeader =>
    cases h
    refine ⟨[], rfl, ?_⟩
    by_cases hempty : afterHeader = []
    · exact Or.inr ⟨hempty, by rw [hempty]; rfl⟩
    · refine Or.inl ?_
      rw [payloadBytes, if_neg hempty]
      rfl
  | case4 fuel last first afterHeader hmarker ih =>
    obtain ⟨⟨delta, afterDelta⟩, hdelta, h⟩ := bind_eq_ok.mp h
    obtain ⟨⟨length, afterLength⟩, hlength, h⟩ := bind_eq_ok.mp h
    dsimp only at h
    split at h
    · cases h
    split at h
    · cases h
    rename_i hlong hfits
    obtain ⟨⟨later, rest⟩, hlater, h⟩ := bind_eq_ok.mp h
    cases h
    obtain ⟨spelled, hspelled, hrest⟩ := ih delta length afterLength hlater
    have hvalue : (afterLength.take length.toNat).length = length.toNat := by
      rw [List.length_take]
      omega
    have hsum : (last + delta).toNat = last.toNat + delta.toNat := by
      rw [UInt16.toNat_add]
      show (last.toNat + delta.toNat) % 65536 = _
      omega
    have hle : last ≤ last + delta := by
      show last.toNat ≤ (last + delta).toNat
      omega
    have hlengthNat : length.toNat < 65536 := length.toNat_lt
    refine ⟨_, encodeOptions_cons_eq_ok.mpr ⟨hle, by rw [hvalue]; omega, spelled, hspelled, rfl⟩, ?_⟩
    have hheader : first :: afterHeader =
        optionHeader (last + delta - last) (UInt16.ofNat (afterLength.take length.toNat).length) ++
          (afterLength.take length.toNat ++ afterLength.drop length.toNat) := by
      obtain ⟨hhigh, rfl⟩ := encodeExtendedNibble_of_decode hdelta
      obtain ⟨hlow, rfl⟩ := encodeExtendedNibble_of_decode hlength
      have hdifference : last + delta - last = delta := by
        refine UInt16.toNat_inj.mp ?_
        rw [UInt16.toNat_sub_of_le _ _ hle, hsum]
        omega
      rw [hvalue, UInt16.ofNat_toNat, List.take_append_drop, hdifference, optionHeader, hhigh, hlow,
        nibbles_eq]
      simp
    rw [hheader, ← List.append_assoc]
    rcases hrest with hrest | ⟨hempty, hrest⟩
    · rw [hrest]
      exact Or.inl (List.append_assoc _ _ _).symm
    · rw [hrest]
      exact Or.inr ⟨hempty, (List.append_assoc _ _ _).symm⟩

/-- Options can be spelled only in ascending order. -/
theorem sorted_of_encodeOptions (h : encodeOptions last options = .ok bytes) :
    options.Pairwise (fun a b => a.number ≤ b.number) ∧ ∀ option ∈ options, last ≤ option.number := by
  induction options generalizing last bytes with
  | nil => exact ⟨.nil, List.forall_mem_nil _⟩
  | cons option options ih =>
    obtain ⟨hle, -, rest, hrest, -⟩ := encodeOptions_cons_eq_ok.mp h
    obtain ⟨hsorted, hlater⟩ := ih hrest
    refine ⟨List.pairwise_cons.mpr ⟨hlater, hsorted⟩, ?_⟩
    intro other hmem
    rcases List.mem_cons.mp hmem with rfl | hmem
    · exact hle
    · exact UInt16.le_trans hle (hlater other hmem)

/-- Options in ascending order can be spelled exactly if none is too long. -/
theorem encodeOptions_isOk_iff (hsorted : options.Pairwise (fun a b => a.number ≤ b.number))
    (hlast : ∀ option ∈ options, last ≤ option.number) :
    (∃ bytes, encodeOptions last options = .ok bytes) ↔
      ∀ option ∈ options, option.value.length ≤ 65535 := by
  induction options generalizing last with
  | nil => exact ⟨fun _ _ hmem => absurd hmem List.not_mem_nil, fun _ => ⟨[], rfl⟩⟩
  | cons option options ih =>
    obtain ⟨hfirst, hrest⟩ := List.pairwise_cons.mp hsorted
    rw [List.forall_mem_cons, ← ih hrest hfirst]
    constructor
    · rintro ⟨bytes, hbytes⟩
      obtain ⟨-, hlength, rest, hspelled, -⟩ := encodeOptions_cons_eq_ok.mp hbytes
      exact ⟨hlength, rest, hspelled⟩
    · rintro ⟨hlength, rest, hspelled⟩
      exact ⟨_, encodeOptions_cons_eq_ok.mpr
        ⟨hlast option List.mem_cons_self, hlength, rest, hspelled, rfl⟩⟩

/-! ## §3. Sorting. -/

instance : Std.Total (fun a b : CoapOption => a.number ≤ b.number) where
  total a b := UInt16.le_total a.number b.number

instance : IsTrans CoapOption (fun a b => a.number ≤ b.number) where
  trans _ _ _ := UInt16.le_trans

theorem sortedOptions_sorted (message : CoapMessage) :
    message.sortedOptions.Pairwise (fun a b => a.number ≤ b.number) :=
  List.pairwise_insertionSort _ _

theorem sortedOptions_perm (message : CoapMessage) : message.sortedOptions.Perm message.options :=
  List.perm_insertionSort _ _

/-- Options with one number keep their order. -/
theorem filter_sortedOptions (message : CoapMessage) (number : UInt16) :
    message.sortedOptions.filter (fun option => option.number = number) =
      message.options.filter (fun option => option.number = number) := by
  have hsame : (message.options.filter (fun option => option.number = number)).Pairwise
      (fun a b => a.number ≤ b.number) := by
    refine List.pairwise_of_forall_mem_list ?_
    intro a ha b hb
    have ha := of_decide_eq_true (List.mem_filter.mp ha).2
    have hb := of_decide_eq_true (List.mem_filter.mp hb).2
    rw [ha, hb]
    exact UInt16.le_refl number
  have hsub := List.sublist_insertionSort hsame List.filter_sublist
  have hfiltered := hsub.filter (fun option => option.number = number)
  rw [List.filter_filter] at hfiltered
  simp only [Bool.and_self] at hfiltered
  refine (hfiltered.eq_of_length ?_).symm
  exact ((message.sortedOptions_perm.filter _).length_eq).symm

variable {message : CoapMessage}

theorem sortedOptions_of_sorted (h : message.options.Pairwise (fun a b => a.number ≤ b.number)) :
    message.sortedOptions = message.options :=
  h.insertionSort_eq

/-! ## §4. Messages. -/

theorem tryFrom_toByte (ty : CoapType) : CoapType.tryFrom ty.toByte = .ok ty := by
  cases ty <;> rfl

/-- The first byte: version, type and length of the token. -/
theorem toNat_firstByte (ty : CoapType) {length : Nat} (hlength : length ≤ 8) :
    (((1 : UInt8) <<< 6) ||| (ty.toByte <<< 4) ||| UInt8.ofNat length).toNat =
      64 + 16 * ty.toByte.toNat + length := by
  have hall : ∀ ty : CoapType, ∀ length < 9,
      (((1 : UInt8) <<< 6) ||| (ty.toByte <<< 4) ||| UInt8.ofNat length).toNat =
        64 + 16 * ty.toByte.toNat + length := by
    intro ty
    cases ty <;> decide
  exact hall ty length (by omega)

theorem toByte_of_tryFrom {value : UInt8} {ty : CoapType} (h : CoapType.tryFrom value = .ok ty) :
    ty.toByte = value := by
  unfold CoapType.tryFrom at h
  split at h
  · rename_i hvalue
    cases h
    exact hvalue.symm
  split at h
  · rename_i hvalue
    cases h
    exact hvalue.symm
  split at h
  · rename_i hvalue
    cases h
    exact hvalue.symm
  split at h
  · rename_i hvalue
    cases h
    exact hvalue.symm
  · cases h

/-- **Encoding**, as its parts. -/
theorem encode_eq_ok : message.encode = .ok bytes ↔ message.token.length ≤ 8 ∧
      ∃ options, encodeOptions 0 message.sortedOptions = .ok options ∧
        bytes = (((1 : UInt8) <<< 6) ||| (message.ty.toByte <<< 4) |||
            UInt8.ofNat message.token.length) :: message.code.value ::
          (toBE 2 message.messageId.toNat ++
            (message.token ++ (options ++ payloadBytes message.payload))) := by
  unfold encode
  split
  · exact ⟨(fun h => by cases h), fun h => by omega⟩
  rename_i htoken
  rw [bind_eq_ok]
  constructor
  · rintro ⟨options, hoptions, h⟩
    cases h
    refine ⟨by omega, options, hoptions, ?_⟩
    simp [payloadBytes]
  · rintro ⟨-, options, hoptions, rfl⟩
    refine ⟨options, hoptions, ?_⟩
    simp [payloadBytes, pure, Except.pure]

theorem toNat_version (first : UInt8) : (first >>> 6).toNat = first.toNat / 64 := by
  simp [UInt8.toNat_shiftRight, Nat.shiftRight_eq_div_pow]

theorem toNat_type (first : UInt8) : ((first >>> 4) &&& 0x03).toNat = first.toNat / 16 % 4 := by
  rw [UInt8.toNat_and, toNat_highNibble]
  exact Nat.and_two_pow_sub_one_eq_mod _ 2

/-- **Reading back a message** gives it with its options sorted. -/
theorem decode_of_encode (h : message.encode = .ok bytes) :
    decode bytes = .ok { message with options := message.sortedOptions } := by
  obtain ⟨htoken, options, hoptions, rfl⟩ := encode_eq_ok.mp h
  have hfirst := toNat_firstByte message.ty htoken
  generalize (((1 : UInt8) <<< 6) ||| (message.ty.toByte <<< 4) |||
    UInt8.ofNat message.token.length) = first at hfirst
  have htype : message.ty.toByte.toNat < 4 := by cases message.ty <;> decide
  have hversion : first >>> 6 = 1 := by
    refine UInt8.toNat_inj.mp ?_
    rw [toNat_version]
    show _ = 1
    omega
  have hty : (first >>> 4) &&& 0x03 = message.ty.toByte := by
    refine UInt8.toNat_inj.mp ?_
    rw [toNat_type]
    omega
  have hlength : (first &&& 0x0f).toNat = message.token.length := by
    rw [toNat_lowNibble]
    omega
  have hid : UInt16.ofNat (ofBE (toBE 2 message.messageId.toNat)) = message.messageId := by
    have hsmall : message.messageId.toNat < 256 ^ 2 := message.messageId.toNat_lt
    rw [ofBE_toBE, Nat.mod_eq_of_lt hsmall]
    exact UInt16.ofNat_toNat
  generalize hrest : message.token ++ (options ++ payloadBytes message.payload) = rest
  have hread : decodeOptions rest.length 0 (options ++ payloadBytes message.payload) =
      .ok (message.sortedOptions, message.payload) := by
    refine decodeOptions_encodeOptions hoptions message.payload ?_
    rw [← hrest]
    simp
  have hfits : ¬((first &&& 0x0f).toNat > 8 ∨ rest.length < (first &&& 0x0f).toNat) := by
    rw [hlength, ← hrest, List.length_append]
    omega
  have htaken : rest.take (first &&& 0x0f).toNat = message.token := by
    rw [hlength, ← hrest, List.take_left]
  have hdropped : rest.drop (first &&& 0x0f).toNat = options ++ payloadBytes message.payload := by
    rw [hlength, ← hrest, List.drop_left]
  show decode (first :: message.code.value :: UInt8.ofNat (message.messageId.toNat / 256 ^ 1) ::
    UInt8.ofNat (message.messageId.toNat / 256 ^ 0) :: rest) = _
  rw [decode, if_neg (not_not.mpr hversion)]
  dsimp only
  rw [if_neg hfits, hty, tryFrom_toByte, hdropped, hread, htaken]
  show Except.ok { message with messageId := _, options := _ } = _
  rw [show UInt16.ofNat (ofBE [UInt8.ofNat (message.messageId.toNat / 256 ^ 1),
    UInt8.ofNat (message.messageId.toNat / 256 ^ 0)]) = message.messageId from hid]

/-- **A message that was read is spelled as it came**, except for a marker without payload. -/
theorem encode_of_decode (h : decode bytes = .ok message) : message.encode = .ok bytes ∨
      message.payload = [] ∧ ∃ spelled, message.encode = .ok spelled ∧ bytes = spelled ++ [0xff] := by
  unfold decode at h
  split at h
  swap
  · cases h
  rename_i first code high low rest
  split at h
  · cases h
  rename_i hversion
  dsimp only at h
  split at h
  · cases h
  rename_i hlength
  obtain ⟨ty, hty, h⟩ := bind_eq_ok.mp h
  obtain ⟨⟨options, payload⟩, hoptions, h⟩ := bind_eq_ok.mp h
  cases h
  obtain ⟨spelled, hspelled, hrest⟩ := encodeOptions_of_decode hoptions
  have htoken : (rest.take (first &&& 0x0f).toNat).length = (first &&& 0x0f).toNat := by
    rw [List.length_take]
    omega
  have hsorted : sortedOptions
      { ty, code := ⟨code⟩, messageId := UInt16.ofNat (ofBE [high, low])
        token := rest.take (first &&& 0x0f).toNat, options, payload } = options :=
    sortedOptions_of_sorted (sorted_of_encodeOptions hspelled).1
  have hfirst : ((1 : UInt8) <<< 6) ||| (ty.toByte <<< 4) |||
      UInt8.ofNat (rest.take (first &&& 0x0f).toNat).length = first := by
    refine UInt8.toNat_inj.mp ?_
    have hversion : (first >>> 6).toNat = 1 := congrArg UInt8.toNat (not_not.mp hversion)
    have hty : ty.toByte.toNat = _ := congrArg UInt8.toNat (toByte_of_tryFrom hty)
    rw [toNat_version] at hversion
    rw [toNat_type] at hty
    rw [toNat_firstByte ty (by omega), htoken, hty, toNat_lowNibble]
    omega
  have hid : toBE 2 (UInt16.ofNat (ofBE [high, low])).toNat = [high, low] := by
    have hsmall : ofBE [high, low] < 256 ^ 2 := ofBE_lt [high, low]
    rw [UInt16.toNat_ofNat_of_lt' (show _ < 65536 by omega)]
    exact toBE_ofBE [high, low]
  have hencode : CoapMessage.encode
      { ty, code := ⟨code⟩, messageId := UInt16.ofNat (ofBE [high, low])
        token := rest.take (first &&& 0x0f).toNat, options, payload } =
      .ok (first :: code :: ([high, low] ++
        (rest.take (first &&& 0x0f).toNat ++ (spelled ++ payloadBytes payload)))) := by
    refine encode_eq_ok.mpr ⟨?_, spelled, ?_, ?_⟩
    · show (rest.take _).length ≤ 8
      omega
    · rw [hsorted]
      exact hspelled
    · dsimp only
      rw [hfirst, hid]
  rcases hrest with hrest | ⟨hempty, hrest⟩
  · refine Or.inl ?_
    rw [hencode, ← hrest, List.take_append_drop]
    rfl
  refine Or.inr ⟨hempty, _, hencode, ?_⟩
  rw [hempty]
  show first :: code :: high :: low :: rest = first :: code :: high :: low ::
    ((rest.take (first &&& 0x0f).toNat ++ (spelled ++ [])) ++ [0xff])
  rw [List.append_nil, List.append_assoc, ← hrest, List.take_append_drop]

/-- A message can be encoded exactly if its token and the values of its options are short
    enough. -/
theorem encode_isOk_iff (message : CoapMessage) : (∃ bytes, message.encode = .ok bytes) ↔
      message.token.length ≤ 8 ∧ ∀ option ∈ message.options, option.value.length ≤ 65535 := by
  have hoptions := encodeOptions_isOk_iff message.sortedOptions_sorted
    (fun option _ => (UInt16.zero_le : 0 ≤ option.number))
  have hmem : (∀ option ∈ message.options, option.value.length ≤ 65535) ↔
      ∀ option ∈ message.sortedOptions, option.value.length ≤ 65535 :=
    forall_congr' (fun option => imp_congr_left message.sortedOptions_perm.mem_iff.symm)
  rw [hmem, ← hoptions]
  constructor
  · rintro ⟨bytes, hbytes⟩
    obtain ⟨htoken, options, hoptions, -⟩ := encode_eq_ok.mp hbytes
    exact ⟨htoken, options, hoptions⟩
  · rintro ⟨htoken, options, hoptions⟩
    exact ⟨_, encode_eq_ok.mpr ⟨htoken, options, hoptions, rfl⟩⟩

/-- **The CoAP codec.**  A message can be encoded exactly if its token has at most eight bytes and
    no option value more than 65535; it then reads back with its options sorted by number, equal
    numbers in their own order.  A byte string that reads as a message is the encoding of that
    message, or the encoding followed by a payload marker with nothing after it. -/
theorem coap_codec_exact (message : CoapMessage) :
    ((∃ bytes, message.encode = .ok bytes) ↔
      message.token.length ≤ 8 ∧ ∀ option ∈ message.options, option.value.length ≤ 65535) ∧
    (∀ bytes, message.encode = .ok bytes →
      decode bytes = .ok { message with options := message.sortedOptions }) ∧
    (message.sortedOptions.Perm message.options ∧
      message.sortedOptions.Pairwise (fun a b => a.number ≤ b.number) ∧
      ∀ number, message.sortedOptions.filter (fun option => option.number = number) =
        message.options.filter (fun option => option.number = number)) ∧
    (∀ bytes, decode bytes = .ok message → message.encode = .ok bytes ∨
      message.payload = [] ∧ ∃ spelled, message.encode = .ok spelled ∧ bytes = spelled ++ [0xff]) ∧
    (∀ bytes bytes', decode bytes = .ok message → decode bytes' = .ok message →
      bytes = bytes' ∨ bytes = bytes' ++ [0xff] ∨ bytes' = bytes ++ [0xff]) := by
  refine ⟨message.encode_isOk_iff, fun bytes h => decode_of_encode h, ?_,
    fun bytes h => encode_of_decode h, ?_⟩
  · exact ⟨message.sortedOptions_perm, message.sortedOptions_sorted, message.filter_sortedOptions⟩
  · intro bytes bytes' h h'
    -- both are the one encoding, with or without the marker
    rcases encode_of_decode h with hsame | ⟨-, spelled, hspelled, rfl⟩
    · rcases encode_of_decode h' with hsame' | ⟨-, spelled', hspelled', rfl⟩
      · exact Or.inl (Except.ok.inj (hsame.symm.trans hsame'))
      · cases Except.ok.inj (hsame.symm.trans hspelled')
        exact Or.inr (Or.inr rfl)
    rcases encode_of_decode h' with hsame' | ⟨-, spelled', hspelled', rfl⟩
    · cases Except.ok.inj (hspelled.symm.trans hsame')
      exact Or.inr (Or.inl rfl)
    · cases Except.ok.inj (hspelled.symm.trans hspelled')
      exact Or.inl rfl

end CoapMessage

end Meshcop
