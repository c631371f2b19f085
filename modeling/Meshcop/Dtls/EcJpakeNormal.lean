/-
  Meshcop.Dtls.EcJpakeNormal — EC J-PAKE messages in normal form
  (`meshcop-dtls/src/ecjpake/codec.rs`).

  The decoder takes any SEC1 form of a point and any zero padding of a scalar, but what it hands
  out is canonical: the point was parsed and written again, the scalar filled up to 32 bytes and
  checked against the field.  So a decoded message encodes, and its encoding, the normal form of
  the bytes it came from, decodes to the same message.

  Main results:
    * `RoundOne.canonical_of_decode`, `RoundTwo.canonical_of_decode` — decoded messages are
      canonical;
    * `ecjpake_codecs_normalise` — the two directions for both rounds.
-/

import Meshcop.Dtls.EcJpakeCodec

namespace Meshcop.Dtls

open Lib

/-! ## §1. What the cursor hands out. -/

section Normal

variable {n : Nat} {Point : Type} [AddCommGroup Point] [DecidableEq Point] {curve : Curve n Point}

/-- A parsed point is not the identity. -/
theorem ne_zero_of_pointFromBytes {bytes : Bytes} {point : Point}
    (h : pointFromBytes curve bytes = .ok point) : point ≠ 0 := by
  intro hzero
  unfold pointFromBytes at h
  by_cases hshape : curve.isSec1 bytes = false
  · rw [if_pos hshape] at h
    cases h
  rw [if_neg hshape] at h
  cases hparse : curve.ofSec1 bytes with
  | none =>
    rw [hparse] at h
    cases h
  | some parsed =>
    rw [hparse] at h
    dsimp only at h
    by_cases hidentity : parsed = 0
    · rw [if_pos hidentity] at h
      cases h
    · rw [if_neg hidentity] at h
      cases h
      exact hidentity hzero

namespace TlsEcJpakeCursor

variable {input rest : Bytes}

theorem canonicalPoint_of_read {point : Bytes}
    (h : readTlsPoint curve input = .ok (point, rest)) : CanonicalPoint curve point := by
  obtain ⟨bytes, input₁, -, h⟩ := read_bind_eq_ok.mp h
  obtain ⟨parsed, input₂, hparsed, hreturn⟩ := read_bind_eq_ok.mp h
  cases hreturn
  exact ⟨parsed, ne_zero_of_pointFromBytes (lift_eq_ok.mp hparsed).1, rfl⟩

theorem canonical_of_readProof {participantId : Bytes} {proof : SchnorrProof}
    (h : readProof curve participantId input = .ok (proof, rest)) :
    proof.Canonical curve ∧ proof.proverId = participantId := by
  obtain ⟨v, input₁, hv, h⟩ := read_bind_eq_ok.mp h
  obtain ⟨rBytes, input₂, -, h⟩ := read_bind_eq_ok.mp h
  obtain ⟨r, input₃, -, h⟩ := read_bind_eq_ok.mp h
  obtain ⟨scalar, input₄, hscalar, hreturn⟩ := read_bind_eq_ok.mp h
  cases hreturn
  exact ⟨⟨canonicalPoint_of_read hv, scalar, (lift_eq_ok.mp hscalar).1⟩, rfl⟩

theorem canonical_of_readKeyKp {participantId : Bytes} {pair : Bytes × SchnorrProof}
    (h : readKeyKp curve participantId input = .ok (pair, rest)) :
    CanonicalPoint curve pair.1 ∧ pair.2.Canonical curve ∧ pair.2.proverId = participantId := by
  obtain ⟨point, input₁, hpoint, h⟩ := read_bind_eq_ok.mp h
  obtain ⟨proof, input₂, hproof, hreturn⟩ := read_bind_eq_ok.mp h
  cases hreturn
  exact ⟨canonicalPoint_of_read hpoint, canonical_of_readProof hproof⟩

end TlsEcJpakeCursor

/-! ## §2. Decoded messages. -/

/-- **A decoded second round is canonical**, with a proof of the given prover. -/
theorem RoundTwo.canonical_of_decode {bytes participantId : Bytes} {named : Bool}
    {message : RoundTwo}
    (h : RoundTwo.decodeTlsKeyExchange curve bytes participantId named = .ok message) :
    message.Canonical curve ∧ message.proof.proverId = participantId := by
  obtain ⟨⟨message', rest⟩, hread, hreturn⟩ := bind_eq_ok.mp h
  cases hreturn
  unfold RoundTwo.readTlsKeyExchange at hread
  obtain ⟨_, input₁, -, hread⟩ := read_bind_eq_ok.mp hread
  obtain ⟨pair, input₂, hpair, hread⟩ := read_bind_eq_ok.mp hread
  obtain ⟨_, _, -, hmade⟩ := read_bind_eq_ok.mp hread
  cases hmade
  obtain ⟨hpoint, hproof, hprover⟩ := TlsEcJpakeCursor.canonical_of_readKeyKp hpair
  exact ⟨⟨hpoint, hproof⟩, hprover⟩

theorem RoundOne.canonical_of_read {input rest participantId : Bytes} {message : RoundOne}
    (h : RoundOne.readTlsKkpp curve participantId input = .ok (message, rest)) :
    message.Canonical curve ∧ message.participantId = participantId := by
  unfold RoundOne.readTlsKkpp at h
  obtain ⟨pair1, input₁, hpair1, h⟩ := read_bind_eq_ok.mp h
  obtain ⟨pair2, input₂, hpair2, h⟩ := read_bind_eq_ok.mp h
  obtain ⟨_, _, -, hmade⟩ := read_bind_eq_ok.mp h
  cases hmade
  obtain ⟨hg1, hproof1, -⟩ := TlsEcJpakeCursor.canonical_of_readKeyKp hpair1
  obtain ⟨hg2, hproof2, -⟩ := TlsEcJpakeCursor.canonical_of_readKeyKp hpair2
  exact ⟨⟨hg1, hg2, hproof1, hproof2⟩, rfl⟩

variable [Module (ZMod n) Point]

/-- **A decoded first round is canonical**, of the given participant, and its proofs verify. -/
theorem RoundOne.canonical_of_decode {bytes participantId : Bytes} {message : RoundOne}
    (h : RoundOne.decodeTlsKkpp curve bytes participantId = .ok message) :
    message.Canonical curve ∧ message.participantId = participantId ∧
      EcJpakeParty.verifyRoundOne curve message = .ok () := by
  obtain ⟨⟨out, rest⟩, hread, h⟩ := bind_eq_ok.mp h
  obtain ⟨g1, hg1, h⟩ := bind_eq_ok.mp h
  obtain ⟨g2, hg2, h⟩ := bind_eq_ok.mp h
  obtain ⟨⟨⟩, hproof1, h⟩ := bind_eq_ok.mp h
  obtain ⟨⟨⟩, hproof2, hreturn⟩ := bind_eq_ok.mp h
  cases hreturn
  obtain ⟨hcanonical, hid⟩ := RoundOne.canonical_of_read hread
  refine ⟨hcanonical, hid, ?_⟩
  unfold EcJpakeParty.verifyRoundOne
  dsimp only
  rw [hg1, hg2]
  show (if g2 = 0 then _ else _) = _
  rw [if_neg (ne_zero_of_pointFromBytes hg2), hproof1]
  exact hproof2

/-! ## §3. Both directions. -/

/-- **The J-PAKE codecs return every canonical message and normalise every other spelling.**
    A canonical first round whose proofs verify, and any canonical second round, is read back
    from its TLS form under its own identity; and whatever bytes decode, the message encodes, and
    its encoding decodes to it again. -/
theorem ecjpake_codecs_normalise (hcurve : curve.Sec1) :
    (∀ message : RoundOne, message.Canonical curve →
      EcJpakeParty.verifyRoundOne curve message = .ok () →
      ∃ written, message.encodeTlsKkpp curve = .ok written ∧
        RoundOne.decodeTlsKkpp curve written message.participantId = .ok message) ∧
    (∀ (message : RoundTwo) (named : Bool), message.Canonical curve →
      ∃ written, message.encodeTlsKeyExchange curve named = .ok written ∧
        RoundTwo.decodeTlsKeyExchange curve written message.proof.proverId named
          = .ok message) ∧
    (∀ (bytes participantId : Bytes) (message : RoundOne),
      RoundOne.decodeTlsKkpp curve bytes participantId = .ok message →
      message.Canonical curve ∧ ∃ written, message.encodeTlsKkpp curve = .ok written ∧
        RoundOne.decodeTlsKkpp curve written participantId = .ok message) ∧
    (∀ (bytes participantId : Bytes) (named : Bool) (message : RoundTwo),
      RoundTwo.decodeTlsKeyExchange curve bytes participantId named = .ok message →
      message.Canonical curve ∧ ∃ written, message.encodeTlsKeyExchange curve named = .ok written ∧
        RoundTwo.decodeTlsKeyExchange curve written participantId named = .ok message) := by
  refine ⟨?_, ?_, ?_, ?_⟩
  · intro message hcanonical hverified
    exact RoundOne.decodeTlsKkpp_encodeTlsKkpp hcurve hcanonical hverified
  · intro message named hcanonical
    exact RoundTwo.decodeTlsKeyExchange_encodeTlsKeyExchange hcurve hcanonical named
  · intro bytes participantId message h
    obtain ⟨hcanonical, rfl, hverified⟩ := RoundOne.canonical_of_decode h
    exact ⟨hcanonical, RoundOne.decodeTlsKkpp_encodeTlsKkpp hcurve hcanonical hverified⟩
  · intro bytes participantId named message h
    obtain ⟨hcanonical, rfl⟩ := RoundTwo.canonical_of_decode h
    exact ⟨hcanonical, RoundTwo.decodeTlsKeyExchange_encodeTlsKeyExchange hcurve hcanonical named⟩

/-- Over the small curve: a second round with two points that are not in canonical form and the
    response zero, padded to three bytes. -/
theorem ecjpake_codecs_normalise_seven :
    ∃ message, RoundTwo.decodeTlsKeyExchange Curve.seven [2, 9, 3, 2, 9, 5, 3, 0, 0, 0] [7] false
        = .ok message ∧
      message.encodeTlsKeyExchange Curve.seven false = .ok [2, 4, 3, 2, 4, 5, 1, 0] ∧
      RoundTwo.decodeTlsKeyExchange Curve.seven [2, 4, 3, 2, 4, 5, 1, 0] [7] false
        = .ok message := by
  have hdecode : RoundTwo.decodeTlsKeyExchange Curve.seven [2, 9, 3, 2, 9, 5, 3, 0, 0, 0] [7] false
      = .ok { point := [4, 3]
              proof := { v := [4, 5]
                         r := { bytes := List.replicate 32 0, size := rfl }
                         proverId := [7] } } := by
    decide +kernel
  have hencode : RoundTwo.encodeTlsKeyExchange Curve.seven
      { point := [4, 3]
        proof := { v := [4, 5]
                   r := { bytes := List.replicate 32 0, size := rfl }
                   proverId := [7] } } false = .ok [2, 4, 3, 2, 4, 5, 1, 0] := by
    decide +kernel
  obtain ⟨-, written, hwritten, hagain⟩ :=
    (ecjpake_codecs_normalise Curve.seven_lawful.sec1).2.2.2 _ [7] false _ hdecode
  rw [hencode] at hwritten
  cases hwritten
  exact ⟨_, hdecode, hencode, hagain⟩

end Normal

end Meshcop.Dtls
