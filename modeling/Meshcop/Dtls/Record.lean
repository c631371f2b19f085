/-
  Meshcop.Dtls.Record — DTLS record framing (`meshcop-dtls/src/{error,record}.rs`).

  A datagram is a sequence of records: a 13-byte header (content type, version, epoch,
  48-bit sequence number, length) and a payload.  `DtlsRecord.new` builds a record whose
  length field is its payload's length; `encodeDatagram` and `parseDatagram` go to and from
  the wire.

  Main results:
    * `DtlsRecord.new_sized`     — a built record's length field is its payload's length;
    * `encodeDatagram_of_sized`  — a datagram of such records always encodes;
    * `parseDatagram_encodeDatagram` — and parses back, when the numbers fit 48 bits;
    * `datagram_codec_exact`     — what parses, and what it was encoded from.
-/

import Meshcop.Lib.Bytes
import Meshcop.Lib.Streams

namespace Meshcop.Dtls

open Lib

/-! ## §1. Errors and constants. -/

/-- The errors of the DTLS crate, with the texts they carry. -/
inductive Error where
  | crypto (message : String)
  | invalidState (message : String)
  | timeout (message : String)
  | peerClosed
  | io (message : String)
  deriving DecidableEq, Repr

/-- The rendered text of an error. -/
def Error.display : Error → String
  | .crypto message => "crypto error: " ++ message
  | .invalidState message => "invalid state: " ++ message
  | .timeout message => "timeout: " ++ message
  | .peerClosed => "peer closed the DTLS session"
  | .io message => "I/O error: " ++ message

/-- DTLS 1.2 as it stands on the wire. -/
def DTLS_1_2_VERSION : UInt16 := 0xfefd

/-! ## §2. Record headers. -/

/-- Record content type. -/
inductive ContentType where
  | changeCipherSpec
  | alert
  | handshake
  | applicationData
  deriving DecidableEq, Repr

def ContentType.toByte : ContentType → UInt8
  | .changeCipherSpec => 20
  | .alert => 21
  | .handshake => 22
  | .applicationData => 23

def ContentType.tryFrom (value : UInt8) : Except Error ContentType :=
  if value = 20 then .ok .changeCipherSpec
  else if value = 21 then .ok .alert
  else if value = 22 then .ok .handshake
  else if value = 23 then .ok .applicationData
  else .error (.crypto "unknown DTLS content type")

/-- Parsed record header.  `sequenceNumber` holds 64 bits; the wire carries the low 48. -/
structure RecordHeader where
  contentType : ContentType
  version : UInt16
  epoch : UInt16
  sequenceNumber : UInt64
  length : UInt16
  deriving DecidableEq, Repr

namespace RecordHeader

/-- Record header length. -/
def LEN : Nat := 13

def parse (bytes : Bytes) : Except Error RecordHeader :=
  match bytes with
  | b0 :: b1 :: b2 :: b3 :: b4 :: b5 :: b6 :: b7 :: b8 :: b9 :: b10 :: b11 :: b12 :: _ => do
    let contentType ← ContentType.tryFrom b0
    return { contentType
             version := UInt16.ofNat (ofBE [b1, b2])
             epoch := UInt16.ofNat (ofBE [b3, b4])
             sequenceNumber := UInt64.ofNat (ofBE [b5, b6, b7, b8, b9, b10])
             length := UInt16.ofNat (ofBE [b11, b12]) }
  | _ => .error (.crypto "DTLS record header is truncated")

def encode (header : RecordHeader) : Bytes :=
  header.contentType.toByte :: toBE 2 header.version.toNat ++ toBE 2 header.epoch.toNat
    ++ toBE 6 header.sequenceNumber.toNat ++ toBE 2 header.length.toNat

/-- The associated data of the AEAD: epoch, sequence number, content type, version and the
    length of the plaintext. -/
def aeadAdditionalData (header : RecordHeader) (plaintextLen : UInt16) : Bytes :=
  toBE 2 header.epoch.toNat ++ toBE 6 header.sequenceNumber.toNat
    ++ [header.contentType.toByte] ++ toBE 2 header.version.toNat ++ toBE 2 plaintextLen.toNat

end RecordHeader

theorem ContentType.tryFrom_toByte (contentType : ContentType) :
    ContentType.tryFrom contentType.toByte = .ok contentType := by
  cases contentType <;> rfl

theorem ContentType.toByte_of_tryFrom {value : UInt8} {contentType : ContentType}
    (h : ContentType.tryFrom value = .ok contentType) : contentType.toByte = value := by
  unfold ContentType.tryFrom at h
  split at h
  · cases h; symm; assumption
  split at h
  · cases h; symm; assumption
  split at h
  · cases h; symm; assumption
  split at h
  · cases h; symm; assumption
  · cases h

/-- **A header reads back**, when its sequence number fits the 48 bits of the wire. -/
theorem RecordHeader.parse_encode (header : RecordHeader)
    (hseq : header.sequenceNumber.toNat < 2 ^ 48) (rest : Bytes) :
    RecordHeader.parse (header.encode ++ rest) = .ok header := by
  have hparse : RecordHeader.parse (header.encode ++ rest) =
      (do let contentType ← ContentType.tryFrom header.contentType.toByte
          return { contentType
                   version := UInt16.ofNat (ofBE (toBE 2 header.version.toNat))
                   epoch := UInt16.ofNat (ofBE (toBE 2 header.epoch.toNat))
                   sequenceNumber := UInt64.ofNat (ofBE (toBE 6 header.sequenceNumber.toNat))
                   length := UInt16.ofNat (ofBE (toBE 2 header.length.toNat)) }) := rfl
  have h16 (value : UInt16) : UInt16.ofNat (ofBE (toBE 2 value.toNat)) = value := by
    have hlt : value.toNat < 256 ^ 2 := value.toNat_lt
    rw [ofBE_toBE, Nat.mod_eq_of_lt hlt, UInt16.ofNat_toNat]
  have h48 : UInt64.ofNat (ofBE (toBE 6 header.sequenceNumber.toNat)) = header.sequenceNumber := by
    have hlt : header.sequenceNumber.toNat < 256 ^ 6 := hseq
    rw [ofBE_toBE, Nat.mod_eq_of_lt hlt, UInt64.ofNat_toNat]
  rw [hparse, ContentType.tryFrom_toByte, h16, h16, h16, h48]
  rfl

/-- What a parsed header came from: its own thirteen bytes, and whatever follows. -/
theorem RecordHeader.parse_eq_ok {bytes : Bytes} {header : RecordHeader}
    (h : RecordHeader.parse bytes = .ok header) :
    header.sequenceNumber.toNat < 2 ^ 48 ∧ ∃ rest, bytes = header.encode ++ rest := by
  unfold RecordHeader.parse at h
  split at h
  · rename_i b0 b1 b2 b3 b4 b5 b6 b7 b8 b9 b10 b11 b12 rest
    obtain ⟨contentType, htype, h⟩ := bind_eq_ok.mp h
    have hbyte := ContentType.toByte_of_tryFrom htype
    cases h
    have h16 (high low : UInt8) : toBE 2 (UInt16.ofNat (ofBE [high, low])).toNat = [high, low] := by
      have hlt : ofBE [high, low] < 256 ^ 2 := ofBE_lt [high, low]
      rw [UInt16.toNat_ofNat_of_lt' (Nat.lt_of_lt_of_le hlt (by decide))]
      exact toBE_ofBE [high, low]
    have hlt : ofBE [b5, b6, b7, b8, b9, b10] < 256 ^ 6 := ofBE_lt [b5, b6, b7, b8, b9, b10]
    have hnumber : (UInt64.ofNat (ofBE [b5, b6, b7, b8, b9, b10])).toNat
        = ofBE [b5, b6, b7, b8, b9, b10] :=
      UInt64.toNat_ofNat_of_lt' (Nat.lt_trans hlt (by decide))
    constructor
    · show (UInt64.ofNat (ofBE [b5, b6, b7, b8, b9, b10])).toNat < 2 ^ 48
      rw [hnumber]
      exact Nat.lt_of_lt_of_le hlt (by decide)
    · refine ⟨rest, ?_⟩
      unfold RecordHeader.encode
      rw [hbyte, h16, h16, h16, hnumber]
      show _ = b0 :: b1 :: b2 :: b3 :: b4 :: (toBE 6 _ ++ [b11, b12]) ++ rest
      rw [show toBE 6 (ofBE [b5, b6, b7, b8, b9, b10]) = [b5, b6, b7, b8, b9, b10] from
        toBE_ofBE [b5, b6, b7, b8, b9, b10]]
      rfl
  · cases h

/-! ## §3. Records and datagrams. -/

/-- One complete record. -/
structure DtlsRecord where
  header : RecordHeader
  payload : Bytes
  deriving DecidableEq, Repr

namespace DtlsRecord

/-- Builds a record from its metadata and payload. -/
def new (contentType : ContentType) (epoch : UInt16) (sequenceNumber : UInt64)
    (payload : Bytes) : Except Error DtlsRecord :=
  if payload.length < 65536 then
    .ok { header := { contentType, version := DTLS_1_2_VERSION, epoch, sequenceNumber
                      length := UInt16.ofNat payload.length }
          payload }
  else .error (.crypto "DTLS record payload is too long")

def encode (record : DtlsRecord) : Except Error Bytes :=
  if record.payload.length ≠ record.header.length.toNat then
    .error (.crypto "DTLS record header length does not match payload")
  else .ok (record.header.encode ++ record.payload)

/-- The loop of `parse_datagram`.  Every turn takes at least a header, so as much fuel as
    there are bytes never runs out. -/
def parseRecords : Nat → Bytes → Except Error (List DtlsRecord)
  | _, [] => .ok []
  | 0, _ :: _ => .ok []
  | fuel + 1, b :: bs => do
    let header ← RecordHeader.parse (b :: bs)
    let stop := RecordHeader.LEN + header.length.toNat
    if (b :: bs).length < stop then
      .error (.crypto "DTLS record payload is truncated")
    else
      let records ← parseRecords fuel ((b :: bs).drop stop)
      return { header
               payload := ((b :: bs).take stop).drop RecordHeader.LEN } :: records

/-- Parses all records contained in one datagram. -/
def parseDatagram (bytes : Bytes) : Except Error (List DtlsRecord) :=
  parseRecords bytes.length bytes

/-- Encodes records back to back into one datagram. -/
def encodeDatagram : List DtlsRecord → Except Error Bytes
  | [] => .ok []
  | record :: records => do
    let first ← record.encode
    let rest ← encodeDatagram records
    return first ++ rest

/-! ## §4. Built records encode. -/

/-- The length field says how long the payload is. -/
def Sized (record : DtlsRecord) : Prop :=
  record.payload.length = record.header.length.toNat

variable {contentType : ContentType} {epoch : UInt16} {sequenceNumber : UInt64}
  {payload : Bytes} {record : DtlsRecord}

/-- What `new` returns, when it returns. -/
theorem new_eq_ok (h : new contentType epoch sequenceNumber payload = .ok record) :
    payload.length < 65536 ∧
      record = { header := { contentType, version := DTLS_1_2_VERSION, epoch, sequenceNumber
                             length := UInt16.ofNat payload.length }
                 payload } := by
  unfold new at h
  split at h
  · rename_i hlen
    exact ⟨hlen, (Except.ok.inj h).symm⟩
  · cases h

/-- **A built record is sized.** -/
theorem new_sized (h : new contentType epoch sequenceNumber payload = .ok record) :
    record.Sized := by
  obtain ⟨hlen, rfl⟩ := new_eq_ok h
  simp [Sized, Nat.mod_eq_of_lt hlen]

theorem encode_of_sized (h : record.Sized) :
    record.encode = .ok (record.header.encode ++ record.payload) := by
  simp only [encode, Sized] at h ⊢
  rw [if_neg (not_not_intro h)]

/-- **A datagram of sized records always encodes.** -/
theorem encodeDatagram_of_sized (records : List DtlsRecord) (h : ∀ r ∈ records, r.Sized) :
    ∃ bytes, encodeDatagram records = .ok bytes := by
  induction records with
  | nil => exact ⟨[], rfl⟩
  | cons record records ih =>
    obtain ⟨rest, hrest⟩ := ih (fun r hr => h r (by simp [hr]))
    refine ⟨record.header.encode ++ record.payload ++ rest, ?_⟩
    simp only [encodeDatagram, encode_of_sized (h record (by simp)), hrest]
    rfl

/-! ## §5. Datagrams parse to what they encode. -/

/-- A record that the wire can carry: its length field says how long the payload is, and its
    number fits 48 bits. -/
structure WellFormed (record : DtlsRecord) : Prop where
  sized : record.Sized
  numbered : record.header.sequenceNumber.toNat < 2 ^ 48

/-- One turn of the parser: the first record and what follows it. -/
def parseRecord (bytes : Bytes) : Except Error (DtlsRecord × Bytes) := do
  let header ← RecordHeader.parse bytes
  let stop := RecordHeader.LEN + header.length.toNat
  if bytes.length < stop then
    .error (.crypto "DTLS record payload is truncated")
  else
    return ({ header, payload := (bytes.take stop).drop RecordHeader.LEN }, bytes.drop stop)

/-- A record as it stands in a datagram. -/
def OnDatagram (record : DtlsRecord) (written : Bytes) : Prop :=
  record.WellFormed ∧ record.encode = .ok written

theorem parseRecords_loop : Loop parseRecord parseRecords where
  stop fuel := by cases fuel <;> rfl
  turn fuel b bs := by
    unfold parseRecord
    rw [parseRecords]
    cases RecordHeader.parse (b :: bs) with
    | error e => rfl
    | ok header =>
      show (if (b :: bs).length < _ then _ else _) = ((if (b :: bs).length < _ then _ else _) >>= _)
      split <;> rfl

/-- The parser takes a record off the front of whatever it stands in. -/
theorem parseRecord_encode (hsized : record.Sized)
    (hseq : record.header.sequenceNumber.toNat < 2 ^ 48) (rest : Bytes) :
    parseRecord (record.header.encode ++ record.payload ++ rest) = .ok (record, rest) := by
  have hlen : record.header.encode.length = RecordHeader.LEN := rfl
  have hparse : RecordHeader.parse (record.header.encode ++ record.payload ++ rest)
      = .ok record.header := by
    rw [List.append_assoc]
    exact RecordHeader.parse_encode _ hseq _
  have hstop : (record.header.encode ++ record.payload).length
      = RecordHeader.LEN + record.header.length.toNat := by
    rw [List.length_append, hlen, hsized]
  have hshort : ¬ (record.header.encode ++ record.payload ++ rest).length
      < RecordHeader.LEN + record.header.length.toNat := by
    rw [List.length_append, hstop]
    omega
  unfold parseRecord
  rw [hparse]
  show (if _ < _ then _ else Except.ok _) = _
  rw [if_neg hshort, ← hstop, List.take_left, List.drop_left, ← hlen, List.drop_left]

/-- Whatever the parser takes off the front is a record that the wire can carry. -/
theorem parseRecord_eq_ok {bytes rest : Bytes} (h : parseRecord bytes = .ok (record, rest)) :
    record.WellFormed ∧ bytes = record.header.encode ++ record.payload ++ rest := by
  obtain ⟨header, hheader, h⟩ := bind_eq_ok.mp h
  obtain ⟨hseq, behind, hbytes⟩ := RecordHeader.parse_eq_ok hheader
  have hlen : header.encode.length = RecordHeader.LEN := rfl
  by_cases hshort : bytes.length < RecordHeader.LEN + header.length.toNat
  · rw [if_pos hshort] at h
    cases h
  rw [if_neg hshort] at h
  cases h
  rw [hbytes, List.length_append, hlen] at hshort
  have hpayload : (bytes.take (RecordHeader.LEN + header.length.toNat)).drop RecordHeader.LEN
      = behind.take header.length.toNat := by
    rw [hbytes, ← hlen, List.take_length_add_append, List.drop_left]
  have hrest : bytes.drop (RecordHeader.LEN + header.length.toNat)
      = behind.drop header.length.toNat := by
    rw [hbytes, ← hlen, List.drop_length_add_append]
  constructor
  · refine ⟨?_, hseq⟩
    show ((bytes.take (RecordHeader.LEN + header.length.toNat)).drop RecordHeader.LEN).length
      = header.length.toNat
    rw [hpayload, List.length_take]
    omega
  · show bytes = header.encode ++ _ ++ _
    rw [hpayload, hrest, List.append_assoc, List.take_append_drop, hbytes]

theorem parseRecord_delimited : Delimited parseRecord OnDatagram where
  reads rest h := by
    obtain ⟨hformed, hencode⟩ := h
    rw [encode_of_sized hformed.sized] at hencode
    cases hencode
    exact parseRecord_encode hformed.sized hformed.numbered rest
  sound h := by
    obtain ⟨hformed, hbytes⟩ := parseRecord_eq_ok h
    exact ⟨_, ⟨hformed, encode_of_sized hformed.sized⟩, hbytes⟩
  nonempty h hnil := by
    have hencode := encode_of_sized h.1.sized
    rw [h.2, hnil] at hencode
    cases hencode

/-- Encoding writes the records one after the other. -/
theorem encodeDatagram_eq_ok_iff {records : List DtlsRecord} {bytes : Bytes} :
    encodeDatagram records = .ok bytes ↔
      Written (fun record written => record.encode = .ok written) records bytes := by
  constructor
  · intro h
    induction records generalizing bytes with
    | nil =>
      cases h
      exact .nil
    | cons record records ih =>
      obtain ⟨first, hfirst, h⟩ := bind_eq_ok.mp h
      obtain ⟨rest, hrest, h⟩ := bind_eq_ok.mp h
      cases h
      exact .cons hfirst (ih hrest)
  · intro h
    induction h with
    | nil => rfl
    | cons head tail ih =>
      rw [encodeDatagram, head, ih]
      rfl

theorem parseDatagram_eq_ok_iff {records : List DtlsRecord} {bytes : Bytes} :
    parseDatagram bytes = .ok records ↔ Written OnDatagram records bytes :=
  parseRecords_loop.eq_ok_iff parseRecord_delimited (Nat.le_refl _)

/-- **An encoded datagram parses back.** -/
theorem parseDatagram_encodeDatagram {records : List DtlsRecord} (hsized : ∀ r ∈ records, r.Sized)
    (hseq : ∀ r ∈ records, r.header.sequenceNumber.toNat < 2 ^ 48) {bytes : Bytes}
    (h : encodeDatagram records = .ok bytes) : parseDatagram bytes = .ok records := by
  rw [parseDatagram_eq_ok_iff]
  exact (encodeDatagram_eq_ok_iff.mp h).mono fun r hr written hwritten =>
    ⟨⟨hsized r hr, hseq r hr⟩, hwritten⟩

/-- **The datagram codec.**  Records that the wire can carry encode and parse back; what parses is
    such records, and encodes back to the bytes it was. -/
theorem datagram_codec_exact :
    (∀ records : List DtlsRecord, (∀ r ∈ records, r.WellFormed) →
      ∃ bytes, encodeDatagram records = .ok bytes ∧ parseDatagram bytes = .ok records) ∧
    (∀ bytes records, parseDatagram bytes = .ok records →
      encodeDatagram records = .ok bytes ∧ ∀ r ∈ records, r.WellFormed) := by
  constructor
  · intro records hrecords
    obtain ⟨bytes, hbytes⟩ := encodeDatagram_of_sized records fun r hr => (hrecords r hr).sized
    exact ⟨bytes, hbytes, parseDatagram_encodeDatagram (fun r hr => (hrecords r hr).sized)
      (fun r hr => (hrecords r hr).numbered) hbytes⟩
  · intro bytes records h
    rw [parseDatagram_eq_ok_iff] at h
    refine ⟨encodeDatagram_eq_ok_iff.mpr (h.mono fun r _ written hr => hr.2), ?_⟩
    exact h.forall_mem fun r written hr => hr.1

end DtlsRecord

end Meshcop.Dtls
