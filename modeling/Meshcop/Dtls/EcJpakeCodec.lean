/-
  Meshcop.Dtls.EcJpakeCodec — the TLS form of the EC J-PAKE messages
  (`meshcop-dtls/src/ecjpake/codec.rs`).

  A point is written in its canonical form under a one-byte length, and a proof as its
  commitment and its response without leading zeros.  The decoder of a first round verifies both
  proofs.

  Main results:
    * `decodeTlsKkpp_encodeTlsKkpp`, `decodeTlsKeyExchange_encodeTlsKeyExchange` — a message of
      either round survives the wire;
    * `ecjpake_agreement` — the whole exchange: two parties with one password derive one key.
-/

import Meshcop.Dtls.EcJpake
import Meshcop.Lib.Reading

namespace Meshcop.Dtls

open Lib

/-! ## §1. Encoding. -/

section Encoding

variable {n : Nat} {Point : Type} [AddCommGroup Point] [DecidableEq Point] (curve : Curve n Point)

/-- Rejects a length that does not fit the one-byte prefix. -/
def validateTlsU8Len (len : Nat) (name : String) : Except Error Unit :=
  if len > 255 then .error (.crypto (name ++ " exceeds 255 bytes")) else .ok ()

/-- The scalar without leading zeros, but at least its last byte. -/
def trimScalarBytes (bytes : FixedBytes 32) : Bytes :=
  bytes.bytes.drop ((bytes.bytes.findIdx? (· ≠ 0)).getD 31)

/-- What `write_tls_point` appends. -/
def writeTlsPoint (point : Bytes) : Except Error Bytes := do
  let parsed ← pointFromBytes curve point
  let canonical := pointToBytes curve parsed
  validateTlsU8Len canonical.length "EC point"
  return toBE 1 canonical.length ++ canonical

def SchnorrProof.encodeTls (proof : SchnorrProof) : Except Error Bytes := do
  let v ← writeTlsPoint curve proof.v
  let r := trimScalarBytes proof.r
  validateTlsU8Len r.length "Schnorr scalar"
  if r = [] then .error (.crypto "Schnorr scalar must not be empty")
  else return v ++ (toBE 1 r.length ++ r)

/-- What `write_key_kp` appends. -/
def writeKeyKp (point : Bytes) (proof : SchnorrProof) : Except Error Bytes := do
  let point ← writeTlsPoint curve point
  let proof ← proof.encodeTls curve
  return point ++ proof

def RoundOne.encodeTlsKkpp (message : RoundOne) : Except Error Bytes := do
  let first ← writeKeyKp curve message.g1 message.proof1
  let second ← writeKeyKp curve message.g2 message.proof2
  return first ++ second

def SECP256R1_CURVE_PARAMS : Bytes := [0x03, 0x00, 0x17]

/-- A server's key exchange carries the named curve before the key proof. -/
def RoundTwo.encodeTlsKeyExchange (message : RoundTwo) (includeCurveParams : Bool) :
    Except Error Bytes := do
  let params := if includeCurveParams then SECP256R1_CURVE_PARAMS else []
  let proof ← writeKeyKp curve message.point message.proof
  return params ++ proof

end Encoding

/-! ## §2. Decoding. -/

/-- A reader over the bytes that are left, checking each length. -/
abbrev TlsEcJpakeCursor := StateT Bytes (Except Error)

namespace TlsEcJpakeCursor

def readExact (len : Nat) : TlsEcJpakeCursor Bytes := fun bytes =>
  if bytes.length < len then .error (.crypto "ECJPAKE structure is truncated")
  else .ok (bytes.take len, bytes.drop len)

def readU8 : TlsEcJpakeCursor UInt8 := do
  let bytes ← readExact 1
  return UInt8.ofNat (ofBE bytes)

def readU16 : TlsEcJpakeCursor UInt16 := do
  let bytes ← readExact 2
  return UInt16.ofNat (ofBE bytes)

def readOpaqueU8 (name : String) : TlsEcJpakeCursor Bytes := do
  let len ← readU8
  if len = 0 then throw (.crypto (name ++ " is empty")) else readExact len.toNat

def readSecp256r1CurveParams : TlsEcJpakeCursor Unit := do
  let curveType ← readU8
  let namedCurve ← readU16
  if curveType ≠ 0x03 ∨ namedCurve ≠ 0x0017 then
    throw (.crypto "ECJPAKE key exchange does not use secp256r1")
  else return ()

/-- The curve parameters, where they are expected. -/
def readCurveParams (expected : Bool) : TlsEcJpakeCursor Unit :=
  if expected then readSecp256r1CurveParams else return ()

def finish : TlsEcJpakeCursor Unit := fun bytes =>
  if bytes = [] then .ok ((), [])
  else .error (.crypto "trailing bytes after ECJPAKE structure")

/-- The response of a proof, filled up with leading zeros. -/
def scalarOfBytes (bytes : Bytes) : Except Error (FixedBytes 32) :=
  if bytes = [] then .error (.crypto "Schnorr scalar must not be empty")
  else if h : bytes.length > 32 then .error (.crypto "Schnorr scalar exceeds 32 bytes")
  else
    .ok { bytes := List.replicate (32 - bytes.length) 0 ++ bytes
          size := by rw [List.length_append, List.length_replicate]; omega }

section Points

variable {n : Nat} {Point : Type} [AddCommGroup Point] [DecidableEq Point] (curve : Curve n Point)

def readTlsPoint : TlsEcJpakeCursor Bytes := do
  let point ← readOpaqueU8 "EC point"
  let parsed ← pointFromBytes curve point
  return pointToBytes curve parsed

def readProof (participantId : Bytes) : TlsEcJpakeCursor SchnorrProof := do
  let v ← readTlsPoint curve
  let rBytes ← readOpaqueU8 "Schnorr scalar"
  let r ← scalarOfBytes rBytes
  let _ ← scalarFromRepr curve r
  return { v, r, proverId := participantId }

def readKeyKp (participantId : Bytes) : TlsEcJpakeCursor (Bytes × SchnorrProof) := do
  let point ← readTlsPoint curve
  let proof ← readProof curve participantId
  return (point, proof)

end Points

end TlsEcJpakeCursor

section Decoding

variable {n : Nat} {Point : Type} [AddCommGroup Point] [Module (ZMod n) Point]
  [DecidableEq Point] (curve : Curve n Point)

/-- The reads of `decode_tls_kkpp`. -/
def RoundOne.readTlsKkpp (participantId : Bytes) : TlsEcJpakeCursor RoundOne := do
  let (g1, proof1) ← TlsEcJpakeCursor.readKeyKp curve participantId
  let (g2, proof2) ← TlsEcJpakeCursor.readKeyKp curve participantId
  TlsEcJpakeCursor.finish
  return { g1, g2, proof1, proof2, participantId }

/-- Decodes a first round and verifies its proofs. -/
def RoundOne.decodeTlsKkpp (bytes participantId : Bytes) : Except Error RoundOne := do
  let (out, _) ← RoundOne.readTlsKkpp curve participantId bytes
  let base := curve.generator
  let g1 ← pointFromBytes curve out.g1
  let g2 ← pointFromBytes curve out.g2
  out.proof1.verify curve base g1 out.participantId []
  out.proof2.verify curve base g2 out.participantId []
  return out

end Decoding

section Decoding

variable {n : Nat} {Point : Type} [AddCommGroup Point] [DecidableEq Point] (curve : Curve n Point)

/-- The reads of `decode_tls_key_exchange`. -/
def RoundTwo.readTlsKeyExchange (participantId : Bytes) (expectCurveParams : Bool) :
    TlsEcJpakeCursor RoundTwo := do
  TlsEcJpakeCursor.readCurveParams expectCurveParams
  let (point, proof) ← TlsEcJpakeCursor.readKeyKp curve participantId
  TlsEcJpakeCursor.finish
  return { point, proof }

def RoundTwo.decodeTlsKeyExchange (bytes participantId : Bytes) (expectCurveParams : Bool) :
    Except Error RoundTwo := do
  let (out, _) ← RoundTwo.readTlsKeyExchange curve participantId expectCurveParams bytes
  return out

end Decoding

/-! ## §3. Scalars on the wire. -/

/-- The bytes before the first that is not zero, or all but the last, are zero. -/
theorem takeWhile_zero (bytes : FixedBytes 32) : (bytes.bytes.findIdx? (· ≠ 0)).getD 31 ≤ 31 ∧
      bytes.bytes.take ((bytes.bytes.findIdx? (· ≠ 0)).getD 31)
        = List.replicate ((bytes.bytes.findIdx? (· ≠ 0)).getD 31) 0 := by
  have hsize := bytes.size
  cases hfind : bytes.bytes.findIdx? (· ≠ 0) with
  | none =>
    have hzero : ∀ byte ∈ bytes.bytes, byte = 0 := by simpa using hfind
    refine ⟨le_refl _, List.eq_replicate_iff.mpr ⟨?_, ?_⟩⟩
    · rw [List.length_take, hsize]
      rfl
    · exact fun byte hbyte => hzero byte (List.mem_of_mem_take hbyte)
  | some index =>
    obtain ⟨hlt, -, hbefore⟩ := List.findIdx?_eq_some_iff_getElem.mp hfind
    show index ≤ 31 ∧ bytes.bytes.take index = List.replicate index 0
    refine ⟨by omega, List.eq_replicate_iff.mpr ⟨?_, ?_⟩⟩
    · rw [List.length_take, hsize]
      omega
    · intro byte hbyte
      obtain ⟨i, hi, rfl⟩ := List.getElem_of_mem hbyte
      rw [List.length_take] at hi
      rw [List.getElem_take]
      simpa using hbefore i (by omega)

theorem length_trimScalarBytes (bytes : FixedBytes 32) :
    0 < (trimScalarBytes bytes).length ∧ (trimScalarBytes bytes).length ≤ 32 := by
  have hle := (takeWhile_zero bytes).1
  have hsize := bytes.size
  unfold trimScalarBytes
  rw [List.length_drop]
  omega

/-- **Filling up undoes trimming.** -/
theorem scalarOfBytes_trimScalarBytes (bytes : FixedBytes 32) :
    TlsEcJpakeCursor.scalarOfBytes (trimScalarBytes bytes) = .ok bytes := by
  obtain ⟨hpos, hle⟩ := length_trimScalarBytes bytes
  obtain ⟨hindex, htake⟩ := takeWhile_zero bytes
  have hsize := bytes.size
  unfold TlsEcJpakeCursor.scalarOfBytes
  rw [if_neg (List.ne_nil_of_length_pos hpos), dif_neg (by omega)]
  congr 1
  cases bytes with
  | mk bytes size =>
    congr 1
    unfold trimScalarBytes
    dsimp only at hindex htake hsize ⊢
    rw [List.length_drop, hsize, Nat.sub_sub_self (by omega), ← htake, List.take_append_drop]

/-! ## §4. Reading back what was written. -/

namespace TlsEcJpakeCursor

theorem reads_readExact (bytes rest : Bytes) : Reads (readExact bytes.length) bytes bytes rest :=
  reads_take _ bytes rest

theorem reads_readU8 (len : Nat) (rest : Bytes) :
    Reads readU8 (toBE 1 len) (UInt8.ofNat len) rest := by
  have hvalue : UInt8.ofNat (ofBE (toBE 1 len)) = UInt8.ofNat len := by
    rw [ofBE_toBE]
    exact UInt8.ofNat_mod_size
  rw [← hvalue]
  exact reads_bind_nil (reads_readExact (toBE 1 len) rest) (reads_pure _ rest)

theorem reads_readOpaqueU8 (name : String) {bytes : Bytes} (hpos : 0 < bytes.length)
    (hlt : bytes.length < 256) (rest : Bytes) :
    Reads (readOpaqueU8 name) (toBE 1 bytes.length ++ bytes) bytes rest := by
  have hlen : (UInt8.ofNat bytes.length).toNat = bytes.length := UInt8.toNat_ofNat_of_lt' hlt
  apply reads_bind (reads_readU8 bytes.length (bytes ++ rest))
  have hne : UInt8.ofNat bytes.length ≠ 0 := by
    intro hzero
    rw [hzero] at hlen
    exact absurd hlen hpos.ne
  rw [if_neg hne, hlen]
  exact reads_readExact bytes rest

theorem reads_readU16 (value : Nat) (rest : Bytes) :
    Reads readU16 (toBE 2 value) (UInt16.ofNat value) rest := by
  have hvalue : UInt16.ofNat (ofBE (toBE 2 value)) = UInt16.ofNat value := by
    rw [ofBE_toBE]
    exact UInt16.ofNat_mod_size
  rw [← hvalue]
  exact reads_bind_nil (reads_readExact (toBE 2 value) rest) (reads_pure _ rest)

theorem reads_readCurveParams (expected : Bool) (rest : Bytes) :
    Reads (readCurveParams expected) (if expected then SECP256R1_CURVE_PARAMS else []) () rest := by
  cases expected with
  | false => exact reads_pure () rest
  | true =>
    show Reads readSecp256r1CurveParams (toBE 1 0x03 ++ toBE 2 0x0017) () rest
    apply reads_bind (reads_readU8 0x03 _)
    exact reads_bind_nil (reads_readU16 0x0017 rest) (reads_pure () rest)

theorem reads_finish : Reads finish [] () [] := rfl

end TlsEcJpakeCursor

theorem validateTlsU8Len_of_lt {len : Nat} (hlt : len < 256) {name : String} :
    validateTlsU8Len len name = .ok () := by
  unfold validateTlsU8Len
  rw [if_neg (by omega)]

section RoundTrip

variable {n : Nat} {Point : Type} [AddCommGroup Point] {curve : Curve n Point}

variable (curve) in
/-- The canonical form of a point other than the identity. -/
def CanonicalPoint (bytes : Bytes) : Prop := ∃ point, point ≠ 0 ∧ bytes = pointToBytes curve point

variable (curve) in
/-- A proof over a canonical point, with a response that is a number of the field. -/
structure SchnorrProof.Canonical (proof : SchnorrProof) : Prop where
  v : CanonicalPoint curve proof.v
  r : ∃ scalar, scalarFromRepr curve proof.r = .ok scalar

variable (curve) in
structure RoundOne.Canonical (message : RoundOne) : Prop where
  g1 : CanonicalPoint curve message.g1
  g2 : CanonicalPoint curve message.g2
  proof1 : message.proof1.Canonical curve
  proof2 : message.proof2.Canonical curve

variable (curve) in
structure RoundTwo.Canonical (message : RoundTwo) : Prop where
  point : CanonicalPoint curve message.point
  proof : message.proof.Canonical curve

variable [DecidableEq Point]

/-- A canonical point is written and read back. -/
theorem writeTlsPoint_spec (hcurve : curve.Sec1) {point : Bytes}
    (hpoint : CanonicalPoint curve point) : ∃ written, writeTlsPoint curve point = .ok written ∧
      ∀ rest, Reads (TlsEcJpakeCursor.readTlsPoint curve) written point rest := by
  obtain ⟨point, hne, rfl⟩ := hpoint
  have hpos : 0 < (pointToBytes curve point).length := (hcurve.length point hne).1
  have hlt : (pointToBytes curve point).length < 256 := (hcurve.length point hne).2
  have hparse := hcurve.pointFromBytes_pointToBytes hne
  refine ⟨toBE 1 (pointToBytes curve point).length ++ pointToBytes curve point, ?_, fun rest => ?_⟩
  · unfold writeTlsPoint
    rw [hparse]
    show (validateTlsU8Len (pointToBytes curve point).length "EC point" >>= fun _ => _) = _
    rw [validateTlsU8Len_of_lt hlt]
    rfl
  · apply reads_bind_nil (TlsEcJpakeCursor.reads_readOpaqueU8 "EC point" hpos hlt rest)
    exact reads_bind_nil (reads_lift hparse rest) (reads_pure _ rest)

/-- A proof is written and read back by whoever knows its prover. -/
theorem encodeTls_spec (hcurve : curve.Sec1) {proof : SchnorrProof}
    (hproof : proof.Canonical curve) : ∃ written, proof.encodeTls curve = .ok written ∧
      ∀ rest, Reads (TlsEcJpakeCursor.readProof curve proof.proverId) written proof rest := by
  obtain ⟨scalar, hscalar⟩ := hproof.r
  obtain ⟨written, hwrite, hread⟩ := writeTlsPoint_spec hcurve hproof.v
  obtain ⟨hpos, hle⟩ := length_trimScalarBytes proof.r
  refine ⟨written ++ (toBE 1 (trimScalarBytes proof.r).length ++ trimScalarBytes proof.r), ?_,
    fun rest => ?_⟩
  · unfold SchnorrProof.encodeTls
    rw [hwrite]
    show (validateTlsU8Len (trimScalarBytes proof.r).length "Schnorr scalar" >>= fun _ =>
      if trimScalarBytes proof.r = [] then _ else _) = _
    rw [validateTlsU8Len_of_lt (by omega), if_neg (List.ne_nil_of_length_pos hpos)]
    rfl
  · apply reads_bind (hread _)
    apply reads_bind_nil (TlsEcJpakeCursor.reads_readOpaqueU8 _ hpos (by omega) rest)
    apply reads_bind_nil (reads_lift (scalarOfBytes_trimScalarBytes proof.r) rest)
    apply reads_bind_nil (reads_lift hscalar rest)
    exact reads_pure _ rest

/-- A point and its proof are written and read back. -/
theorem writeKeyKp_spec (hcurve : curve.Sec1) {point : Bytes} (hpoint : CanonicalPoint curve point)
    {proof : SchnorrProof} (hproof : proof.Canonical curve) :
    ∃ written, writeKeyKp curve point proof = .ok written ∧
      ∀ rest, Reads (TlsEcJpakeCursor.readKeyKp curve proof.proverId) written (point, proof)
        rest := by
  obtain ⟨first, hfirst, hreadFirst⟩ := writeTlsPoint_spec hcurve hpoint
  obtain ⟨second, hsecond, hreadSecond⟩ := encodeTls_spec hcurve hproof
  refine ⟨first ++ second, ?_, fun rest => ?_⟩
  · unfold writeKeyKp
    rw [hfirst, hsecond]
    rfl
  · apply reads_bind (hreadFirst _)
    exact reads_bind_nil (hreadSecond rest) (reads_pure _ rest)

/-- **A second round survives the wire**, with or without the curve's name. -/
theorem RoundTwo.decodeTlsKeyExchange_encodeTlsKeyExchange (hcurve : curve.Sec1)
    {message : RoundTwo} (h : message.Canonical curve) (named : Bool) :
    ∃ written, message.encodeTlsKeyExchange curve named = .ok written ∧
      RoundTwo.decodeTlsKeyExchange curve written message.proof.proverId named = .ok message := by
  obtain ⟨body, hbody, hreadBody⟩ := writeKeyKp_spec hcurve h.point h.proof
  refine ⟨(if named then SECP256R1_CURVE_PARAMS else []) ++ body, ?_, ?_⟩
  · unfold RoundTwo.encodeTlsKeyExchange
    rw [hbody]
    rfl
  · have hread : Reads (RoundTwo.readTlsKeyExchange curve message.proof.proverId named)
        ((if named then SECP256R1_CURVE_PARAMS else []) ++ body) message [] := by
      apply reads_bind (TlsEcJpakeCursor.reads_readCurveParams named _)
      apply reads_bind_nil (hreadBody [])
      apply reads_bind_nil TlsEcJpakeCursor.reads_finish
      exact reads_pure message []
    unfold Reads at hread
    rw [List.append_nil] at hread
    unfold RoundTwo.decodeTlsKeyExchange
    rw [hread]
    rfl

variable [Module (ZMod n) Point]

/-- A proof that verifies names the prover that was expected. -/
theorem SchnorrProof.proverId_of_verify {proof : SchnorrProof} {base publicPoint : Point}
    {expectedProverId otherInfo : Bytes}
    (h : proof.verify curve base publicPoint expectedProverId otherInfo = .ok ()) :
    proof.proverId = expectedProverId := by
  by_contra hne
  unfold SchnorrProof.verify at h
  rw [if_pos hne] at h
  cases h

/-- What a verified first round has passed. -/
theorem EcJpakeParty.verifyRoundOne_eq_ok {message : RoundOne}
    (h : EcJpakeParty.verifyRoundOne curve message = .ok ()) :
    ∃ g1 g2, pointFromBytes curve message.g1 = .ok g1 ∧ pointFromBytes curve message.g2 = .ok g2 ∧
      message.proof1.verify curve curve.generator g1 message.participantId [] = .ok () ∧
      message.proof2.verify curve curve.generator g2 message.participantId [] = .ok () := by
  obtain ⟨g1, hg1, h⟩ := bind_eq_ok.mp h
  obtain ⟨g2, hg2, h⟩ := bind_eq_ok.mp h
  by_cases hzero : g2 = 0
  · rw [if_pos hzero] at h
    cases h
  · rw [if_neg hzero] at h
    obtain ⟨⟨⟩, hproof1, hproof2⟩ := bind_eq_ok.mp h
    exact ⟨g1, g2, hg1, hg2, hproof1, hproof2⟩

/-- **A first round survives the wire**, and its proofs are verified on the way. -/
theorem RoundOne.decodeTlsKkpp_encodeTlsKkpp (hcurve : curve.Sec1) {message : RoundOne}
    (h : message.Canonical curve) (hverified : EcJpakeParty.verifyRoundOne curve message = .ok ()) :
    ∃ written, message.encodeTlsKkpp curve = .ok written ∧
      RoundOne.decodeTlsKkpp curve written message.participantId = .ok message := by
  obtain ⟨g1, g2, hg1, hg2, hproof1, hproof2⟩ := EcJpakeParty.verifyRoundOne_eq_ok hverified
  obtain ⟨first, hfirst, hreadFirst⟩ := writeKeyKp_spec hcurve h.g1 h.proof1
  obtain ⟨second, hsecond, hreadSecond⟩ := writeKeyKp_spec hcurve h.g2 h.proof2
  rw [SchnorrProof.proverId_of_verify hproof1] at hreadFirst
  rw [SchnorrProof.proverId_of_verify hproof2] at hreadSecond
  refine ⟨first ++ second, ?_, ?_⟩
  · unfold RoundOne.encodeTlsKkpp
    rw [hfirst, hsecond]
    rfl
  · have hread : Reads (RoundOne.readTlsKkpp curve message.participantId) (first ++ second)
        message [] := by
      apply reads_bind (hreadFirst _)
      apply reads_bind_nil (hreadSecond [])
      apply reads_bind_nil TlsEcJpakeCursor.reads_finish
      exact reads_pure message []
    unfold Reads at hread
    rw [List.append_nil] at hread
    unfold RoundOne.decodeTlsKkpp
    rw [hread]
    simp only [bind, Except.bind, hg1, hg2, hproof1, hproof2]
    rfl

/-- The proofs of honest parties are canonical. -/
theorem SchnorrProof.Proves.canonical (hcurve : curve.Lawful) {base publicPoint : Point}
    {proverId : Bytes} {proof : SchnorrProof}
    (hproof : proof.Proves curve base publicPoint proverId) : proof.Canonical curve where
  v := hproof.v
  r := by
    obtain ⟨scalar, hr⟩ := hproof.r
    exact ⟨scalar, by rw [hr, hcurve.scalarFromRepr_toRepr]⟩

namespace EcJpakeParty

variable [Fact n.Prime] {own peer : EcJpakeParty n}

theorem Publishes.canonical (hcurve : curve.Lawful) {message : RoundOne}
    (h : own.Publishes curve message) : message.Canonical curve where
  g1 := ⟨_, smul_ne_zero own.x1_ne hcurve.generator_ne, h.g1⟩
  g2 := ⟨_, smul_ne_zero own.x2_ne hcurve.generator_ne, h.g2⟩
  proof1 := h.proof1.canonical hcurve
  proof2 := h.proof2.canonical hcurve

theorem Publishes.survives (hcurve : curve.Lawful) {message : RoundOne}
    (h : own.Publishes curve message) : ∃ written, message.encodeTlsKkpp curve = .ok written ∧
      RoundOne.decodeTlsKkpp curve written own.participantId = .ok message := by
  have hsurvives := RoundOne.decodeTlsKkpp_encodeTlsKkpp hcurve.sec1 (h.canonical hcurve)
    (h.verifyRoundOne hcurve)
  rwa [h.participantId] at hsurvives

theorem Sends.survives (hcurve : curve.Lawful) {message : RoundTwo}
    (hbase : baseScalar own peer ≠ 0) (h : Sends curve own peer message) (named : Bool) :
    ∃ written, message.encodeTlsKeyExchange curve named = .ok written ∧
      RoundTwo.decodeTlsKeyExchange curve written own.participantId named = .ok message := by
  have hpoint : (own.x2 * own.secret) • baseScalar own peer • curve.generator ≠ 0 :=
    smul_ne_zero (mul_ne_zero own.x2_ne own.secret_ne) (smul_ne_zero hbase hcurve.generator_ne)
  have hsurvives := RoundTwo.decodeTlsKeyExchange_encodeTlsKeyExchange hcurve.sec1
    { point := ⟨_, hpoint, h.point⟩, proof := h.proof.canonical hcurve } named
  rwa [h.proof.prover] at hsurvives

/-! ## §5. Agreement. -/

variable (curve) in
/-- What the four messages of an exchange achieve. -/
structure Agreement (client server : EcJpakeParty n) (clientOne serverOne : RoundOne)
    (clientTwo serverTwo : RoundTwo) : Prop where
  /-- The four first-round proofs verify. -/
  firstProofs : verifyRoundOne curve clientOne = .ok () ∧ verifyRoundOne curve serverOne = .ok ()
  /-- Both sides compute one base for each sender, and the sender's proof verifies over it. -/
  clientBase : ∃ base point, client.secondRoundBase curve clientOne serverOne .client = .ok base ∧
    server.secondRoundBase curve serverOne clientOne .client = .ok base ∧
    pointFromBytes curve clientTwo.point = .ok point ∧
    clientTwo.proof.verify curve base point client.participantId [] = .ok ()
  serverBase : ∃ base point, client.secondRoundBase curve clientOne serverOne .server = .ok base ∧
    server.secondRoundBase curve serverOne clientOne .server = .ok base ∧
    pointFromBytes curve serverTwo.point = .ok point ∧
    serverTwo.proof.verify curve base point server.participantId [] = .ok ()
  /-- Both sides finish, with one key. -/
  key : ∃ key, client.finish curve clientOne serverOne serverTwo = .ok key ∧
    server.finish curve serverOne clientOne clientTwo = .ok key

/-- A sender's own view of its base and its peer's view of it, with the proof over it. -/
theorem secondRound_verifies (hcurve : curve.Lawful) {ownRoundOne peerRoundOne : RoundOne}
    {ownRoundTwo : RoundTwo} (hown : own.Publishes curve ownRoundOne)
    (hpeer : peer.Publishes curve peerRoundOne) (hsends : Sends curve own peer ownRoundTwo)
    (hbase : baseScalar own peer ≠ 0) (hroles : own.role ≠ peer.role) :
    ∃ base point, own.secondRoundBase curve ownRoundOne peerRoundOne own.role = .ok base ∧
      peer.secondRoundBase curve peerRoundOne ownRoundOne own.role = .ok base ∧
      pointFromBytes curve ownRoundTwo.point = .ok point ∧
      ownRoundTwo.proof.verify curve base point own.participantId [] = .ok () := by
  have hpoint : (own.x2 * own.secret) • baseScalar own peer • curve.generator ≠ 0 :=
    smul_ne_zero (mul_ne_zero own.x2_ne own.secret_ne) (smul_ne_zero hbase hcurve.generator_ne)
  refine ⟨_, _, ?_, ?_, ?_, hsends.proof.verifies⟩
  · rw [secondRoundBase_eq hcurve hown hpeer, if_pos rfl]
  · rw [secondRoundBase_eq hcurve hpeer hown, if_neg hroles]
  · rw [hsends.point, hcurve.pointFromBytes_pointToBytes hpoint]

theorem agreement_of_messages (hcurve : curve.Lawful) {client server : EcJpakeParty n}
    (hclient : client.role = .client) (hserver : server.role = .server)
    (hsecret : client.secret = server.secret) (hsum : client.x1 + server.x1 ≠ 0)
    (hclientBase : baseScalar client server ≠ 0) (hserverBase : baseScalar server client ≠ 0)
    {clientOne serverOne : RoundOne} {clientTwo serverTwo : RoundTwo}
    (hclientOne : client.Publishes curve clientOne) (hserverOne : server.Publishes curve serverOne)
    (hclientTwo : Sends curve client server clientTwo)
    (hserverTwo : Sends curve server client serverTwo) :
    Agreement curve client server clientOne serverOne clientTwo serverTwo where
  firstProofs := ⟨hclientOne.verifyRoundOne hcurve, hserverOne.verifyRoundOne hcurve⟩
  clientBase := by
    have h := secondRound_verifies hcurve hclientOne hserverOne hclientTwo hclientBase
      (by rw [hclient, hserver]; decide)
    rwa [hclient] at h
  serverBase := by
    obtain ⟨base, point, hown, hpeer, hproof⟩ := secondRound_verifies hcurve hserverOne hclientOne
      hserverTwo hserverBase (by rw [hclient, hserver]; decide)
    rw [hserver] at hown hpeer
    exact ⟨base, point, hpeer, hown, hproof⟩
  key := by
    have hfactor : client.x2 * server.x2 * client.secret ≠ 0 :=
      mul_ne_zero (mul_ne_zero client.x2_ne server.x2_ne) client.secret_ne
    have hshared : sharedPoint curve client server ≠ 0 :=
      smul_ne_zero (mul_ne_zero hsum hfactor) hcurve.generator_ne
    obtain ⟨key, hkey⟩ := hcurve.deriveSessionKey_ok hshared
    refine ⟨key, ?_, ?_⟩
    · rw [finish_spec hcurve hclientOne hserverOne hserverTwo hsecret hserverBase hsum, hkey]
    · rw [finish_spec hcurve hserverOne hclientOne hclientTwo hsecret.symm hclientBase
        (by rwa [add_comm]), sharedPoint_comm hsecret.symm, hkey]

/-- **EC J-PAKE agreement.**  For a client and a server of one password, whatever their secrets
    and nonces, as long as the three sums are not zero: both second rounds succeed, all six
    proofs verify, the sides agree on the bases and on the key, and each of the four messages
    is read back from its TLS form as it was written. -/
theorem ecjpake_agreement (hcurve : curve.Lawful) (source : ScalarSource n)
    (client server : EcJpakeParty n)
    (hclient : client.role = .client) (hserver : server.role = .server)
    (hsecret : client.secret = server.secret)
    (hsum13 : client.x1 + server.x1 ≠ 0)
    (hsum134 : client.x1 + server.x1 + server.x2 ≠ 0)
    (hsum123 : client.x1 + client.x2 + server.x1 ≠ 0)
    (rng1 rng2 rng3 rng4 : source.Rng) (named : Bool) :
    ∃ clientOne serverOne clientTwo serverTwo,
      (client.roundOne curve source rng1).1 = clientOne ∧
      (server.roundOne curve source rng2).1 = serverOne ∧
      (client.roundTwo curve source clientOne serverOne rng3).1 = .ok clientTwo ∧
      (server.roundTwo curve source serverOne clientOne rng4).1 = .ok serverTwo ∧
      Agreement curve client server clientOne serverOne clientTwo serverTwo ∧
      (∃ written, clientOne.encodeTlsKkpp curve = .ok written ∧
        RoundOne.decodeTlsKkpp curve written client.participantId = .ok clientOne) ∧
      (∃ written, serverOne.encodeTlsKkpp curve = .ok written ∧
        RoundOne.decodeTlsKkpp curve written server.participantId = .ok serverOne) ∧
      (∃ written, clientTwo.encodeTlsKeyExchange curve named = .ok written ∧
        RoundTwo.decodeTlsKeyExchange curve written client.participantId named = .ok clientTwo) ∧
      (∃ written, serverTwo.encodeTlsKeyExchange curve named = .ok written ∧
        RoundTwo.decodeTlsKeyExchange curve written server.participantId named
          = .ok serverTwo) := by
  have hclientBase : baseScalar client server ≠ 0 := hsum134
  have hserverBase : baseScalar server client ≠ 0 := by
    unfold baseScalar
    rwa [add_comm, ← add_assoc] at hsum123
  have hclientOne := roundOne_publishes hcurve source client rng1
  have hserverOne := roundOne_publishes hcurve source server rng2
  obtain ⟨clientTwo, hclientRound, hclientTwo⟩ :=
    roundTwo_spec hcurve source hclientOne hserverOne hclientBase rng3
  obtain ⟨serverTwo, hserverRound, hserverTwo⟩ :=
    roundTwo_spec hcurve source hserverOne hclientOne hserverBase rng4
  refine ⟨_, _, clientTwo, serverTwo, rfl, rfl, hclientRound, hserverRound, ?_, ?_, ?_, ?_, ?_⟩
  · exact agreement_of_messages hcurve hclient hserver hsecret hsum13 hclientBase hserverBase
      hclientOne hserverOne hclientTwo hserverTwo
  · exact hclientOne.survives hcurve
  · exact hserverOne.survives hcurve
  · exact hclientTwo.survives hcurve hclientBase named
  · exact hserverTwo.survives hcurve hserverBase named

end EcJpakeParty

end RoundTrip

/-! ## §6. A small curve. -/

instance fact_prime_seven : Fact (Nat.Prime 7) := ⟨by decide⟩

/-- The integers modulo seven as a curve: a point is encoded as its tag and its residue. -/
def Curve.seven : Curve 7 (ZMod 7) where
  generator := 1
  sha256 bytes := { bytes := toBE 32 (ofBE bytes), size := rfl }
  isSec1 bytes := bytes.length = 2
  ofSec1 bytes := some ((bytes.getD 1 0).toNat : ZMod 7)
  toSec1 point := [4, UInt8.ofNat point.val]
  sec1X bytes := bytes[1]?.map ([·])
  toRepr scalar := { bytes := toBE 32 scalar.val, size := rfl }
  ofRepr bytes := if ofBE bytes.bytes < 7 then some (ofBE bytes.bytes : ZMod 7) else none
  reduce bytes := (ofBE bytes.bytes : ZMod 7)

theorem Curve.seven_lawful : Curve.seven.Lawful where
  generator_ne := by decide
  isSec1 := by decide
  ofSec1 := by decide
  length := by decide
  sec1X point _ := ⟨_, rfl⟩
  ofRepr := by decide +kernel

/-- Draws the residues in order. -/
abbrev ScalarSource.counting : ScalarSource 7 where
  Rng := Nat
  random rng := (rng, rng + 1)
  patience _ := 2
  fair rng := by
    by_cases hzero : (rng : ZMod 7) = 0
    · refine ⟨1, by decide, ?_⟩
      show ((rng + 1 : Nat) : ZMod 7) ≠ 0
      rw [Nat.cast_succ, hzero]
      decide
    · exact ⟨0, by decide, hzero⟩

def EcJpakeParty.sevenClient : EcJpakeParty 7 :=
  { role := .client, participantId := THREAD_CLIENT_ID, secret := 5, x1 := 1, x2 := 2
    secret_ne := by decide, x1_ne := by decide, x2_ne := by decide }

def EcJpakeParty.sevenServer : EcJpakeParty 7 :=
  { role := .server, participantId := THREAD_SERVER_ID, secret := 5, x1 := 3, x2 := 4
    secret_ne := by decide, x1_ne := by decide, x2_ne := by decide }

/-- The exchange over the small curve, both sides with the password five. -/
theorem EcJpakeParty.ecjpake_agreement_seven :
    ∃ clientOne serverOne clientTwo serverTwo,
      (sevenClient.roundOne Curve.seven .counting 3).1 = clientOne ∧
      (sevenServer.roundOne Curve.seven .counting 5).1 = serverOne ∧
      (sevenClient.roundTwo Curve.seven .counting clientOne serverOne 6).1 = .ok clientTwo ∧
      (sevenServer.roundTwo Curve.seven .counting serverOne clientOne 1).1 = .ok serverTwo ∧
      Agreement Curve.seven sevenClient sevenServer clientOne serverOne clientTwo serverTwo := by
  obtain ⟨clientOne, serverOne, clientTwo, serverTwo, h1, h2, h3, h4, hagree, -⟩ :=
    ecjpake_agreement Curve.seven_lawful .counting sevenClient sevenServer
      rfl rfl rfl (by decide) (by decide) (by decide) 3 5 6 1 true
  exact ⟨clientOne, serverOne, clientTwo, serverTwo, h1, h2, h3, h4, hagree⟩

end Meshcop.Dtls
