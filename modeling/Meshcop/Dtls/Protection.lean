/-
  Meshcop.Dtls.Protection — AES-128-CCM-8 record protection and the anti-replay window
  (`meshcop-dtls/src/{ccm,record_protection,replay}.rs`).

  A protected record's nonce is the write IV, the epoch and the record's 48-bit sequence
  number; the sealing function refuses a number that does not fit.  What one successful
  sealing hands out is a `Protected` entry: key, IV, record and plaintext.

  Main results:
    * `protect_eq_ok`     — what a successful sealing guarantees about its record;
    * `SealedUpTo`        — a log of sealings numbered by a counter, kept by one more sealing;
    * `ccmNonce_inj`      — under one IV and epoch the nonce determines the sequence number;
    * `protect_failure`, `protect_isOk_iff`, `open_of_protect` — over an AEAD that inverts, how
      sealing fails, what is sealed and that opening gives it back.
-/

import Meshcop.Lib.Computation
import Meshcop.Lib.Numbering
import Meshcop.Dtls.Crypto

namespace Meshcop.Dtls

open Lib

/-! ## §1. Nonces. -/

def TLS_CCM_FIXED_IV_LEN : Nat := 4
def TLS_CCM_EXPLICIT_NONCE_LEN : Nat := 8
def TLS_CCM_8_TAG_LEN : Nat := 8

/-- Fixed IV, epoch, and the low 48 bits of the sequence number. -/
def ccmNonce (fixedIv : Bytes) (epoch : UInt16) (sequenceNumber : UInt64) : Bytes :=
  fixedIv ++ toBE 2 epoch.toNat ++ toBE 6 sequenceNumber.toNat

/-- Builds the AEAD nonce, refusing a sequence number above 48 bits. -/
def dtlsCcmNonce (fixedIv : Bytes) (epoch : UInt16) (sequenceNumber : UInt64) :
    Except Error Bytes :=
  if sequenceNumber > 0x0000ffffffffffff then
    .error (.crypto "DTLS record sequence number exceeds 48 bits")
  else .ok (ccmNonce fixedIv epoch sequenceNumber)

theorem dtlsCcmNonce_eq_ok {fixedIv nonce : Bytes} {epoch : UInt16} {sequenceNumber : UInt64}
    (h : dtlsCcmNonce fixedIv epoch sequenceNumber = .ok nonce) :
    sequenceNumber.toNat < 2 ^ 48 ∧ nonce = ccmNonce fixedIv epoch sequenceNumber := by
  unfold dtlsCcmNonce at h
  split at h
  · cases h
  rename_i hle
  refine ⟨?_, (Except.ok.inj h).symm⟩
  rw [gt_iff_lt, UInt64.lt_iff_toNat_lt] at hle
  have hmax : (0x0000ffffffffffff : UInt64).toNat = 2 ^ 48 - 1 := by decide
  omega

/-- **A 48-bit sequence number can be read off the nonce.** -/
theorem ccmNonce_inj {fixedIv : Bytes} {epoch : UInt16} {m n : UInt64}
    (hm : m.toNat < 2 ^ 48) (hn : n.toNat < 2 ^ 48)
    (h : ccmNonce fixedIv epoch m = ccmNonce fixedIv epoch n) : m.toNat = n.toNat :=
  toBE_inj (w := 6) (by omega) (by omega) (List.append_cancel_left h)

/-! ## §2. Sealing and opening. -/

section Records

variable (C : Crypto)

/-- Seals a plaintext; the payload is the explicit nonce followed by the ciphertext. -/
def protectAes128Ccm8Record (contentType : ContentType) (epoch : UInt16)
    (sequenceNumber : UInt64) (key fixedIv plaintext : Bytes) : Except Error DtlsRecord :=
  if plaintext.length < 65536 then do
    let nonce ← dtlsCcmNonce fixedIv epoch sequenceNumber
    let header : RecordHeader :=
      { contentType, version := DTLS_1_2_VERSION, epoch, sequenceNumber, length := 0 }
    let aad := header.aeadAdditionalData (UInt16.ofNat plaintext.length)
    match C.ccmEncrypt key nonce aad plaintext with
    | none => .error (.crypto "AES-CCM encryption failed")
    | some ciphertext =>
      DtlsRecord.new contentType epoch sequenceNumber
        (nonce.drop TLS_CCM_FIXED_IV_LEN ++ ciphertext)
  else .error (.crypto "DTLS plaintext is too long")

/-- Opens a sealed record.  The nonce's last eight bytes are taken from the payload. -/
def openAes128Ccm8Record (record : DtlsRecord) (key fixedIv : Bytes) : Except Error Bytes :=
  if record.payload.length < TLS_CCM_EXPLICIT_NONCE_LEN + TLS_CCM_8_TAG_LEN then
    .error (.crypto "DTLS AES-CCM record payload is too short")
  else
    let encrypted := record.payload.drop TLS_CCM_EXPLICIT_NONCE_LEN
    let plaintextLen := encrypted.length - TLS_CCM_8_TAG_LEN
    if plaintextLen < 65536 then
      let nonce := fixedIv ++ record.payload.take TLS_CCM_EXPLICIT_NONCE_LEN
      let aad := record.header.aeadAdditionalData (UInt16.ofNat plaintextLen)
      match C.ccmDecrypt key nonce aad encrypted with
      | none => .error (.crypto "AES-CCM authentication failed")
      | some plaintext => .ok plaintext
    else .error (.crypto "DTLS plaintext length exceeds 16 bits")

variable {C}

/-- **What a successful sealing guarantees.**  The number fits 48 bits, and the record
    carries the type, epoch and number it was sealed under and a true length. -/
theorem protect_eq_ok {contentType : ContentType} {epoch : UInt16} {sequenceNumber : UInt64}
    {key fixedIv plaintext : Bytes} {record : DtlsRecord}
    (h : protectAes128Ccm8Record C contentType epoch sequenceNumber key fixedIv plaintext
      = .ok record) :
    sequenceNumber.toNat < 2 ^ 48 ∧ record.header.contentType = contentType ∧
      record.header.epoch = epoch ∧ record.header.sequenceNumber = sequenceNumber ∧
      record.Sized := by
  unfold protectAes128Ccm8Record at h
  split at h
  · obtain ⟨nonce, hnonce, h⟩ := bind_eq_ok.mp h
    obtain ⟨hlt, -⟩ := dtlsCcmNonce_eq_ok hnonce
    dsimp only at h
    split at h
    · cases h
    · have hsized := DtlsRecord.new_sized h
      obtain ⟨-, rfl⟩ := DtlsRecord.new_eq_ok h
      exact ⟨hlt, rfl, rfl, rfl, hsized⟩
  · cases h

end Records

/-- What one successful sealing hands out: the key and IV it used, the record it released
    and the plaintext inside. -/
structure Protected where
  key : Bytes
  fixedIv : Bytes
  record : DtlsRecord
  plaintext : Bytes
  deriving DecidableEq, Repr

/-- The record's sequence number. -/
def Protected.sequence (entry : Protected) : Nat :=
  entry.record.header.sequenceNumber.toNat

/-- The nonce the entry was sealed under. -/
def Protected.nonce (entry : Protected) : Bytes :=
  ccmNonce entry.fixedIv entry.record.header.epoch entry.record.header.sequenceNumber

/-- **Distinct nonces.**  A consecutively numbered log of entries under one IV and in one
    epoch, not longer than the 48-bit range, uses no nonce twice. -/
theorem nodup_nonce_of_numbered {log : List Protected} {fixedIv : Bytes} {epoch : UInt16}
    (hnum : Numbered Protected.sequence log) (hlen : log.length ≤ 2 ^ 48)
    (hiv : ∀ e ∈ log, e.fixedIv = fixedIv) (hep : ∀ e ∈ log, e.record.header.epoch = epoch) :
    (log.map Protected.nonce).Nodup := by
  refine hnum.nodup_map _ (fun a ha b hb hab => ?_)
  have hlta := hnum.lt_length ha
  have hltb := hnum.lt_length hb
  unfold Protected.nonce at hab
  rw [hiv a ha, hiv b hb, hep a ha, hep b hb] at hab
  exact ccmNonce_inj (lt_of_lt_of_le hlta hlen) (lt_of_lt_of_le hltb hlen) hab

/-- The log holds what was sealed under one key and IV so far: its entries carry the numbers
    `0, 1, 2, …` up to the counter `next`, which has not left the 48-bit range, in epoch 1. -/
structure SealedUpTo (writeKey : Bytes × Bytes) (next : UInt64) (log : List Protected) : Prop where
  numbered : Numbered Protected.sequence log
  counter : next.toNat = log.length
  bounded : log.length ≤ 2 ^ 48
  epoch : ∀ e ∈ log, e.record.header.epoch = 1
  sealedUnder : ∀ e ∈ log, (e.key, e.fixedIv) = writeKey

namespace SealedUpTo

variable {C : Crypto} {writeKey : Bytes × Bytes} {next : UInt64} {log : List Protected}

theorem nil (writeKey : Bytes × Bytes) : SealedUpTo writeKey 0 [] :=
  { numbered := Numbered.nil, counter := rfl, bounded := by simp, epoch := by simp
    sealedUnder := by simp }

/-- **One more sealing** under the counter. -/
theorem snoc (h : SealedUpTo writeKey next log) {contentType : ContentType} {entry : Protected}
    (hkey : (entry.key, entry.fixedIv) = writeKey)
    (hsealed : protectAes128Ccm8Record C contentType 1 next entry.key entry.fixedIv entry.plaintext
      = .ok entry.record) :
    SealedUpTo writeKey (next + 1) (log ++ [entry]) := by
  obtain ⟨hlt, -, hepoch, hseq, -⟩ := protect_eq_ok hsealed
  have hcounter := h.counter
  refine { numbered := h.numbered.snoc ?_, counter := ?_, bounded := ?_, epoch := ?_
           sealedUnder := ?_ }
  · show entry.record.header.sequenceNumber.toNat = log.length
    rw [hseq, hcounter]
  · rw [UInt64.toNat_add, List.length_append, List.length_singleton]
    have hone : (1 : UInt64).toNat = 1 := rfl
    omega
  · rw [List.length_append, List.length_singleton]
    omega
  · intro e he
    rcases List.mem_append.mp he with he | he
    · exact h.epoch e he
    · rw [List.mem_singleton.mp he]
      exact hepoch
  · intro e he
    rcases List.mem_append.mp he with he | he
    · exact h.sealedUnder e he
    · rw [List.mem_singleton.mp he]
      exact hkey

/-- No nonce is used twice. -/
theorem nodup_nonce (h : SealedUpTo writeKey next log) : (log.map Protected.nonce).Nodup :=
  nodup_nonce_of_numbered h.numbered h.bounded
    (fun e he => congrArg Prod.snd (h.sealedUnder e he)) h.epoch

end SealedUpTo

/-! ## §3. Opening inverts sealing. -/

/-- The lengths of the arrays that hold keys and IVs. -/
structure Tls12Aes128Ccm8KeyBlock.Sized (keyBlock : Tls12Aes128Ccm8KeyBlock) : Prop where
  clientWriteKey : keyBlock.clientWriteKey.length = 16
  serverWriteKey : keyBlock.serverWriteKey.length = 16
  clientWriteIv : keyBlock.clientWriteIv.length = TLS_CCM_FIXED_IV_LEN
  serverWriteIv : keyBlock.serverWriteIv.length = TLS_CCM_FIXED_IV_LEN

/-- What the AEAD promises two honest sides.  Under a 16-byte key and a 12-byte nonce every
    text of 16-bit length is sealed; sealing adds the tag; opening gives the text back. -/
structure Crypto.AeadInverts (C : Crypto) : Prop where
  encrypts : ∀ key nonce aad plaintext : Bytes, key.length = 16 → nonce.length = 12 →
    plaintext.length < 65536 → ∃ ciphertext, C.ccmEncrypt key nonce aad plaintext = some ciphertext
  tagged : ∀ key nonce aad plaintext ciphertext : Bytes,
    C.ccmEncrypt key nonce aad plaintext = some ciphertext →
    ciphertext.length = plaintext.length + TLS_CCM_8_TAG_LEN
  decrypts : ∀ key nonce aad plaintext ciphertext : Bytes,
    C.ccmEncrypt key nonce aad plaintext = some ciphertext →
    C.ccmDecrypt key nonce aad ciphertext = some plaintext

theorem Crypto.transparent_aeadInverts : Crypto.transparent.AeadInverts where
  encrypts _ _ _ plaintext _ _ _ := ⟨plaintext ++ List.replicate 8 0, rfl⟩
  tagged _ _ _ plaintext ciphertext h := by
    rw [← Option.some.inj h, List.length_append, List.length_replicate]
    rfl
  decrypts _ _ _ plaintext ciphertext h := by
    rw [← Option.some.inj h]
    show some (List.take _ _) = _
    rw [List.length_append, List.length_replicate, Nat.add_sub_cancel, List.take_left]

section Inverts

variable {C : Crypto} {contentType : ContentType} {epoch : UInt16} {sequenceNumber : UInt64}
  {key fixedIv plaintext : Bytes}

theorem length_ccmNonce (hiv : fixedIv.length = TLS_CCM_FIXED_IV_LEN) :
    (ccmNonce fixedIv epoch sequenceNumber).length = 12 := by
  unfold ccmNonce
  rw [List.length_append, List.length_append, length_toBE, length_toBE, hiv]
  rfl

/-- The bytes of the nonce after the fixed IV are the ones a record carries. -/
theorem drop_ccmNonce (hiv : fixedIv.length = TLS_CCM_FIXED_IV_LEN) :
    (ccmNonce fixedIv epoch sequenceNumber).drop TLS_CCM_FIXED_IV_LEN
      = toBE 2 epoch.toNat ++ toBE 6 sequenceNumber.toNat := by
  unfold ccmNonce
  rw [← hiv, List.append_assoc, List.drop_left]

theorem dtlsCcmNonce_ok (hseq : sequenceNumber.toNat < 2 ^ 48) :
    dtlsCcmNonce fixedIv epoch sequenceNumber = .ok (ccmNonce fixedIv epoch sequenceNumber) := by
  unfold dtlsCcmNonce
  have hmax : (0x0000ffffffffffff : UInt64).toNat = 2 ^ 48 - 1 := by decide
  rw [if_neg]
  rw [gt_iff_lt, UInt64.lt_iff_toNat_lt]
  omega

/-- How the sealing of a text of this length fails, if it does. -/
def sealingFailure (length : Nat) : Option Error :=
  if 65535 < length then some (.crypto "DTLS plaintext is too long")
  else if 65519 < length then some (.crypto "DTLS record payload is too long")
  else none

theorem sealingFailure_eq_none_iff (length : Nat) :
    sealingFailure length = none ↔ length ≤ 65519 := by
  unfold sealingFailure
  by_cases hplaintext : 65535 < length
  · rw [if_pos hplaintext]
    exact ⟨(fun h => by cases h), fun _ => by omega⟩
  rw [if_neg hplaintext]
  by_cases hpayload : 65519 < length
  · rw [if_pos hpayload]
    exact ⟨(fun h => by cases h), fun _ => by omega⟩
  · rw [if_neg hpayload]
    exact ⟨fun _ => by omega, fun _ => rfl⟩

/-- **How sealing fails** while the sequence number fits 48 bits: by the length alone. -/
theorem protect_failure (hC : C.AeadInverts) (hkey : key.length = 16)
    (hiv : fixedIv.length = TLS_CCM_FIXED_IV_LEN) (hseq : sequenceNumber.toNat < 2 ^ 48) :
    match protectAes128Ccm8Record C contentType epoch sequenceNumber key fixedIv plaintext with
    | .ok _ => sealingFailure plaintext.length = none
    | .error error => sealingFailure plaintext.length = some error := by
  unfold protectAes128Ccm8Record
  by_cases hplaintext : plaintext.length < 65536
  · rw [if_pos hplaintext, dtlsCcmNonce_ok hseq]
    obtain ⟨ciphertext, hencrypt⟩ := hC.encrypts key (ccmNonce fixedIv epoch sequenceNumber)
      (RecordHeader.aeadAdditionalData
        { contentType, version := DTLS_1_2_VERSION, epoch, sequenceNumber, length := 0 }
        (UInt16.ofNat plaintext.length))
      plaintext hkey (length_ccmNonce hiv) hplaintext
    simp only [bind, Except.bind, hencrypt]
    -- eight bytes of nonce before the ciphertext, eight of tag in it
    have hpayload : ((ccmNonce fixedIv epoch sequenceNumber).drop TLS_CCM_FIXED_IV_LEN
        ++ ciphertext).length = plaintext.length + 16 := by
      rw [drop_ccmNonce hiv, List.length_append, List.length_append, length_toBE, length_toBE,
        hC.tagged _ _ _ _ _ hencrypt]
      have htag : TLS_CCM_8_TAG_LEN = 8 := rfl
      omega
    unfold DtlsRecord.new
    rw [hpayload]
    by_cases hfits : plaintext.length + 16 < 65536
    · rw [if_pos hfits]
      exact (sealingFailure_eq_none_iff _).mpr (by omega)
    · rw [if_neg hfits]
      unfold sealingFailure
      rw [if_neg (by omega), if_pos (by omega)]
  · rw [if_neg hplaintext]
    unfold sealingFailure
    rw [if_pos (by omega)]

/-- **What is sealed**: exactly the texts that leave room for nonce and tag in a 16-bit
    length, while the sequence number fits 48 bits. -/
theorem protect_isOk_iff (hC : C.AeadInverts) (hkey : key.length = 16)
    (hiv : fixedIv.length = TLS_CCM_FIXED_IV_LEN) :
    (∃ record, protectAes128Ccm8Record C contentType epoch sequenceNumber key fixedIv plaintext
      = .ok record) ↔ plaintext.length ≤ 65519 ∧ sequenceNumber.toNat < 2 ^ 48 := by
  constructor
  · rintro ⟨record, h⟩
    obtain ⟨hseq, -⟩ := protect_eq_ok h
    have hfailure := @protect_failure C contentType epoch sequenceNumber key fixedIv plaintext hC
      hkey hiv hseq
    rw [h] at hfailure
    exact ⟨(sealingFailure_eq_none_iff _).mp hfailure, hseq⟩
  · rintro ⟨hlen, hseq⟩
    have hfailure := @protect_failure C contentType epoch sequenceNumber key fixedIv plaintext hC
      hkey hiv hseq
    cases hresult : protectAes128Ccm8Record C contentType epoch sequenceNumber key fixedIv plaintext
    with
    | ok record => exact ⟨record, rfl⟩
    | error error =>
      rw [hresult] at hfailure
      cases ((sealingFailure_eq_none_iff _).mpr hlen).symm.trans hfailure

/-- **Opening gives the text back.**  The opener takes the nonce from the payload and the
    length from the ciphertext, and arrives at what the sealer used. -/
theorem open_of_protect (hC : C.AeadInverts) (hiv : fixedIv.length = TLS_CCM_FIXED_IV_LEN)
    {record : DtlsRecord}
    (h : protectAes128Ccm8Record C contentType epoch sequenceNumber key fixedIv plaintext
      = .ok record) :
    openAes128Ccm8Record C record key fixedIv = .ok plaintext := by
  unfold protectAes128Ccm8Record at h
  split at h
  · rename_i hlen
    obtain ⟨nonce, hnonce, h⟩ := bind_eq_ok.mp h
    obtain ⟨-, rfl⟩ := dtlsCcmNonce_eq_ok hnonce
    dsimp only at h
    split at h
    · cases h
    rename_i ciphertext hencrypt
    obtain ⟨-, rfl⟩ := DtlsRecord.new_eq_ok h
    have htagged := hC.tagged _ _ _ _ _ hencrypt
    have hexplicit : (toBE 2 epoch.toNat ++ toBE 6 sequenceNumber.toNat).length
        = TLS_CCM_EXPLICIT_NONCE_LEN := by
      rw [List.length_append, length_toBE, length_toBE]
      rfl
    have hplaintext : ciphertext.length - TLS_CCM_8_TAG_LEN = plaintext.length := by omega
    unfold openAes128Ccm8Record
    dsimp only
    rw [drop_ccmNonce hiv]
    have hshort : ¬ (toBE 2 epoch.toNat ++ toBE 6 sequenceNumber.toNat ++ ciphertext).length
        < TLS_CCM_EXPLICIT_NONCE_LEN + TLS_CCM_8_TAG_LEN := by
      rw [List.length_append, hexplicit, htagged]
      omega
    rw [if_neg hshort, ← hexplicit, List.drop_left, List.take_left, hplaintext, if_pos hlen,
      ← List.append_assoc]
    have hdecrypt := hC.decrypts _ _ _ _ _ hencrypt
    unfold ccmNonce at hdecrypt
    -- the header's own length field, 0 for the sealer, is not part of the associated data
    have haad (length : UInt16) : RecordHeader.aeadAdditionalData
          { contentType, version := DTLS_1_2_VERSION, epoch, sequenceNumber, length }
          (UInt16.ofNat plaintext.length)
        = RecordHeader.aeadAdditionalData
          { contentType, version := DTLS_1_2_VERSION, epoch, sequenceNumber, length := 0 }
          (UInt16.ofNat plaintext.length) := rfl
    rw [haad, hdecrypt]
  · cases h

end Inverts

/-! ## §4. The anti-replay window. -/

/-- Sliding 64-record window: the newest authenticated number and a bitmap below it. -/
structure ReplayWindow where
  newestSequence : Option UInt64
  seen : UInt64
  deriving DecidableEq, Repr

namespace ReplayWindow

def new : ReplayWindow := { newestSequence := none, seen := 0 }

/-- Whether the number was marked already or is too old to track. -/
def hasSeen (window : ReplayWindow) (sequence : UInt64) : Bool :=
  match window.newestSequence with
  | none => false
  | some newest =>
    if sequence > newest then false
    else
      let offset := newest - sequence
      offset ≥ 64 || ((window.seen >>> offset) &&& 1) = 1

/-- Marks an authenticated record's number. -/
def markSeen (window : ReplayWindow) (sequence : UInt64) : ReplayWindow :=
  match window.newestSequence with
  | none => { newestSequence := some sequence, seen := 1 }
  | some newest =>
    if sequence > newest then
      let shift := sequence - newest
      { newestSequence := some sequence
        seen := if shift ≥ 64 then 1 else (window.seen <<< shift) ||| 1 }
    else
      let offset := newest - sequence
      if offset < 64 then { window with seen := window.seen ||| (1 <<< offset) } else window

end ReplayWindow

end Meshcop.Dtls
