/-
  Meshcop.Dtls.EcJpake — EC J-PAKE with Schnorr proofs
  (`meshcop-dtls/src/ecjpake/{mod,schnorr}.rs`).

  The two sides draw the secrets `x1, x2` (client) and `x3, x4` (server) and publish their
  multiples of the generator, each with a proof that it knows the factor.  In the second round
  each multiplies a sum of three of these points by one of its secrets and the password, and
  from the peer's point both arrive at `(x1 + x3) · x2 · x4 · s` times the generator.

  The curve is a parameter: scalars are the integers modulo a prime `n`, points any module over
  them with a generator, and the encodings, the hash and the reduction of a digest are functions
  the code calls.  `Curve.Lawful` says what is needed of them: decoding undoes encoding.

  Main results:
    * `generate_proves` — a generated proof verifies;
    * `roundTwo_spec`   — when the second round succeeds, and with which point;
    * `finish_spec`     — when the exchange finishes, and with which key.
-/

import Mathlib.Algebra.Field.ZMod
import Mathlib.Algebra.Module.Basic
import Mathlib.Tactic.Module
import Meshcop.Dtls.Crypto

namespace Meshcop.Dtls

open Lib

/-! ## §1. The curve and the random source. -/

/-- What the code takes from the curve implementation, with scalars modulo `n`. -/
structure Curve (n : Nat) (Point : Type) where
  generator : Point
  sha256 : Bytes → FixedBytes 32
  /-- `EncodedPoint::from_bytes`: whether the bytes have the shape of a SEC1 point. -/
  isSec1 : Bytes → Bool
  /-- `AffinePoint::from_encoded_point`: the point, if it is on the curve. -/
  ofSec1 : Bytes → Option Point
  /-- The uncompressed SEC1 form. -/
  toSec1 : Point → Bytes
  /-- The X coordinate of an encoded point. -/
  sec1X : Bytes → Option Bytes
  /-- `Scalar::to_bytes`. -/
  toRepr : ZMod n → FixedBytes 32
  /-- `Scalar::from_repr`: `none` for a number outside the field. -/
  ofRepr : FixedBytes 32 → Option (ZMod n)
  /-- `Reduce::reduce_bytes`. -/
  reduce : FixedBytes 32 → ZMod n

/-- Where scalars are drawn from: each draw advances the source, and some draw within the
    source's patience is not zero. -/
structure ScalarSource (n : Nat) where
  Rng : Type
  /-- `Scalar::random`. -/
  random : Rng → ZMod n × Rng
  patience : Rng → Nat
  fair : ∀ rng, ∃ k < patience rng, (random ((fun rng => (random rng).2)^[k] rng)).1 ≠ 0

namespace ScalarSource

variable {n : Nat} (source : ScalarSource n)

/-- Draws until a scalar is allowed.  The fuel is the source's patience, so the first case is
    never met. -/
def randomScalarWithin (allowZero : Bool) : (fuel : Nat) → source.Rng → ZMod n × source.Rng
  | 0, rng => source.random rng
  | fuel + 1, rng =>
    let (scalar, rng) := source.random rng
    if allowZero then (scalar, rng)
    else if scalar = 0 then randomScalarWithin allowZero fuel rng
    else (scalar, rng)

def randomScalar (allowZero : Bool) (rng : source.Rng) : ZMod n × source.Rng :=
  source.randomScalarWithin allowZero (source.patience rng) rng

theorem randomScalarWithin_ne_zero (fuel : Nat) (rng : source.Rng)
    (hfair : ∃ k < fuel, (source.random ((fun rng => (source.random rng).2)^[k] rng)).1 ≠ 0) :
    (source.randomScalarWithin false fuel rng).1 ≠ 0 := by
  induction fuel generalizing rng with
  | zero =>
    obtain ⟨k, hk, -⟩ := hfair
    omega
  | succ fuel ih =>
    unfold randomScalarWithin
    dsimp only
    rw [if_neg (by decide)]
    by_cases hzero : (source.random rng).1 = 0
    · rw [if_pos hzero]
      apply ih
      obtain ⟨k, hk, hne⟩ := hfair
      cases k with
      | zero => exact absurd hzero hne
      | succ k => exact ⟨k, by omega, hne⟩
    · rw [if_neg hzero]
      exact hzero

/-- **A drawn secret or nonce is not zero.** -/
theorem randomScalar_ne_zero (rng : source.Rng) : (source.randomScalar false rng).1 ≠ 0 :=
  source.randomScalarWithin_ne_zero _ rng (source.fair rng)

end ScalarSource

/-! ## §2. Points and scalars. -/

section Scalars

variable {n : Nat} {Point : Type} (curve : Curve n Point)

def pointToBytes (point : Point) : Bytes := curve.toSec1 point

def scalarFromRepr (bytes : FixedBytes 32) : Except Error (ZMod n) :=
  match curve.ofRepr bytes with
  | some scalar => .ok scalar
  | none => .error (.crypto "invalid scalar representation")

/-- A short secret, padded on the left, or the digest of a long one. -/
def secretBytes (secret : Bytes) : FixedBytes 32 :=
  if h : secret.length ≤ 32 then
    { bytes := List.replicate (32 - secret.length) 0 ++ secret
      size := by rw [List.length_append, List.length_replicate]; omega }
  else curve.sha256 secret

/-- The password as a scalar; zero is replaced by one. -/
def scalarFromSecret (secret : Bytes) : ZMod n :=
  let scalar := curve.reduce (secretBytes curve secret)
  if scalar = 0 then 1 else scalar

theorem scalarFromSecret_ne_zero [Fact n.Prime] (secret : Bytes) :
    scalarFromSecret curve secret ≠ 0 := by
  unfold scalarFromSecret
  dsimp only
  by_cases hzero : curve.reduce (secretBytes curve secret) = 0
  · rw [if_pos hzero]
    exact one_ne_zero
  · rw [if_neg hzero]
    exact hzero

/-- One length-prefixed item of a challenge. -/
def hashItem (item : Bytes) : Bytes := toBE 4 item.length ++ item

/-- The Fiat–Shamir challenge over the base, the commitment, the public point and the prover. -/
def challengeScalar (base v publicPoint : Point) (proverId otherInfo : Bytes) : ZMod n :=
  curve.reduce (curve.sha256 (hashItem (pointToBytes curve base) ++ hashItem (pointToBytes curve v)
    ++ hashItem (pointToBytes curve publicPoint) ++ hashItem proverId
    ++ (if otherInfo = [] then [] else hashItem otherInfo)))

end Scalars

/-- Schnorr proof of knowledge. -/
structure SchnorrProof where
  /-- The encoded commitment. -/
  v : Bytes
  /-- The response. -/
  r : FixedBytes 32
  proverId : Bytes
  deriving DecidableEq, Repr

/-- First-round message. -/
structure RoundOne where
  g1 : Bytes
  g2 : Bytes
  proof1 : SchnorrProof
  proof2 : SchnorrProof
  participantId : Bytes
  deriving DecidableEq, Repr

/-- Second-round message. -/
structure RoundTwo where
  point : Bytes
  proof : SchnorrProof
  deriving DecidableEq, Repr

def EcJpakeRole.threadParticipantId : EcJpakeRole → Bytes
  | .client => THREAD_CLIENT_ID
  | .server => THREAD_SERVER_ID

def EcJpakeRole.peerRole : EcJpakeRole → EcJpakeRole
  | .client => .server
  | .server => .client

/-- One side of the exchange; its secrets are not zero. -/
structure EcJpakeParty (n : Nat) where
  role : EcJpakeRole
  participantId : Bytes
  secret : ZMod n
  x1 : ZMod n
  x2 : ZMod n
  secret_ne : secret ≠ 0
  x1_ne : x1 ≠ 0
  x2_ne : x2 ≠ 0

/-! ## §3. Schnorr proofs and the two rounds. -/

section Rounds

variable {n : Nat} {Point : Type} [AddCommGroup Point] [Module (ZMod n) Point]
  [DecidableEq Point] (curve : Curve n Point) (source : ScalarSource n)

/-- Decodes a non-identity SEC1 point. -/
def pointFromBytes (bytes : Bytes) : Except Error Point :=
  if curve.isSec1 bytes = false then .error (.crypto "invalid SEC1 point encoding")
  else
    match curve.ofSec1 bytes with
    | none => .error (.crypto "point is not on P-256")
    | some point =>
      if point = 0 then .error (.crypto "identity point is not allowed") else .ok point

namespace SchnorrProof

/-- Proves knowledge of the private scalar behind a public point. -/
def generate (base : Point) (privateScalar : ZMod n) (publicPoint : Point)
    (proverId otherInfo : Bytes) (rng : source.Rng) : SchnorrProof × source.Rng :=
  let (vScalar, rng) := source.randomScalar false rng
  let vPoint := vScalar • base
  let challenge := challengeScalar curve base vPoint publicPoint proverId otherInfo
  let r := vScalar - privateScalar * challenge
  ({ v := pointToBytes curve vPoint, r := curve.toRepr r, proverId }, rng)

def verify (proof : SchnorrProof) (base publicPoint : Point)
    (expectedProverId otherInfo : Bytes) : Except Error Unit :=
  if proof.proverId ≠ expectedProverId then .error (.crypto "Schnorr proof identity mismatch")
  else if publicPoint = 0 then .error (.crypto "Schnorr public point is identity")
  else do
    let vPoint ← pointFromBytes curve proof.v
    let r ← scalarFromRepr curve proof.r
    let challenge := challengeScalar curve base vPoint publicPoint expectedProverId otherInfo
    let expected := r • base + challenge • publicPoint
    if pointToBytes curve expected ≠ proof.v then
      .error (.crypto "Schnorr proof verification failed")
    else .ok ()

end SchnorrProof

namespace EcJpakeParty

/-- A party with drawn secrets. -/
def newWithRng [Fact n.Prime] (role : EcJpakeRole) (participantId sharedSecret : Bytes)
    (rng : source.Rng) : EcJpakeParty n × source.Rng :=
  let first := source.randomScalar false rng
  let second := source.randomScalar false first.2
  ({ role, participantId, secret := scalarFromSecret curve sharedSecret, x1 := first.1
     x2 := second.1, secret_ne := scalarFromSecret_ne_zero curve sharedSecret
     x1_ne := source.randomScalar_ne_zero rng, x2_ne := source.randomScalar_ne_zero first.2 },
   second.2)

def newThread [Fact n.Prime] (role : EcJpakeRole) (sharedSecret : Bytes) (rng : source.Rng) :
    EcJpakeParty n × source.Rng :=
  newWithRng curve source role role.threadParticipantId sharedSecret rng

/-- A party with given secrets. -/
def newWithScalars [Fact n.Prime] (role : EcJpakeRole) (participantId sharedSecret : Bytes)
    (x1 x2 : FixedBytes 32) : Except Error (EcJpakeParty n) := do
  let x1 ← scalarFromRepr curve x1
  let x2 ← scalarFromRepr curve x2
  if h1 : x1 = 0 then .error (.crypto "x1/x3 must be nonzero")
  else if h2 : x2 = 0 then .error (.crypto "x2/x4 must be nonzero")
  else
    .ok { role, participantId, secret := scalarFromSecret curve sharedSecret, x1, x2
          secret_ne := scalarFromSecret_ne_zero curve sharedSecret, x1_ne := h1, x2_ne := h2 }

/-- Builds the first-round message. -/
def roundOne (party : EcJpakeParty n) (rng : source.Rng) : RoundOne × source.Rng :=
  let base := curve.generator
  let g1 := party.x1 • base
  let g2 := party.x2 • base
  let (proof1, rng) := SchnorrProof.generate curve source base party.x1 g1 party.participantId [] rng
  let (proof2, rng) := SchnorrProof.generate curve source base party.x2 g2 party.participantId [] rng
  ({ g1 := pointToBytes curve g1, g2 := pointToBytes curve g2, proof1, proof2
     participantId := party.participantId }, rng)

/-- Verifies a peer's first-round message. -/
def verifyRoundOne (peer : RoundOne) : Except Error Unit := do
  let base := curve.generator
  let g1 ← pointFromBytes curve peer.g1
  let g2 ← pointFromBytes curve peer.g2
  if g2 = 0 then .error (.crypto "peer x2/x4 point must not be identity")
  else
    peer.proof1.verify curve base g1 peer.participantId []
    peer.proof2.verify curve base g2 peer.participantId []

/-- The base of the second round of the given sender. -/
def secondRoundBase (party : EcJpakeParty n) (own peer : RoundOne) (senderRole : EcJpakeRole) :
    Except Error Point := do
  let ownG1 ← pointFromBytes curve own.g1
  let ownG2 ← pointFromBytes curve own.g2
  let peerG1 ← pointFromBytes curve peer.g1
  let peerG2 ← pointFromBytes curve peer.g2
  return match party.role, senderRole with
    | .client, .client => ownG1 + peerG1 + peerG2
    | .client, .server => ownG1 + ownG2 + peerG1
    | .server, .server => peerG1 + peerG2 + ownG1
    | .server, .client => peerG1 + ownG1 + ownG2

/-- Builds the second-round message. -/
def roundTwo (party : EcJpakeParty n) (ownRoundOne peerRoundOne : RoundOne) (rng : source.Rng) :
    Except Error RoundTwo × source.Rng :=
  let checked : Except Error Point := do
    verifyRoundOne curve peerRoundOne
    let base ← party.secondRoundBase curve ownRoundOne peerRoundOne party.role
    if base = 0 then .error (.crypto "second-round generator is identity") else .ok base
  match checked with
  | .error e => (.error e, rng)
  | .ok base =>
    let exponent := party.x2 * party.secret
    let point := exponent • base
    let (proof, rng) :=
      SchnorrProof.generate curve source base exponent point party.participantId [] rng
    (.ok { point := pointToBytes curve point, proof }, rng)

def pointXBytes (point : Point) : Except Error Bytes :=
  let bytes := pointToBytes curve point
  if curve.isSec1 bytes = false then .error (.crypto "invalid SEC1 point encoding")
  else
    match curve.sec1X bytes with
    | some x => .ok x
    | none => .error (.crypto "SEC1 point has no X coordinate")

/-- The hash of the shared point's X coordinate. -/
def deriveSessionKey (shared : Point) : Except Error (FixedBytes 32) := do
  let sharedX ← pointXBytes curve shared
  return curve.sha256 sharedX

/-- Verifies the peer's second round and derives the session key. -/
def finish (party : EcJpakeParty n) (ownRoundOne peerRoundOne : RoundOne)
    (peerRoundTwo : RoundTwo) : Except Error (FixedBytes 32) := do
  verifyRoundOne curve peerRoundOne
  let peerBase ← party.secondRoundBase curve ownRoundOne peerRoundOne party.role.peerRole
  let peerPoint ← pointFromBytes curve peerRoundTwo.point
  peerRoundTwo.proof.verify curve peerBase peerPoint peerRoundOne.participantId []
  let peerX2Point ← pointFromBytes curve peerRoundOne.g2
  let exponent := party.x2 * party.secret
  let shared := party.x2 • (peerPoint - exponent • peerX2Point)
  if shared = 0 then .error (.crypto "derived J-PAKE point is identity")
  else deriveSessionKey curve shared

end EcJpakeParty

end Rounds

/-! ## §4. What is needed of the curve. -/

section Agreement

variable {n : Nat} {Point : Type} [AddCommGroup Point] {curve : Curve n Point}

/-- Decoding undoes encoding, an encoded point has a length of one byte and an X coordinate,
    and the generator is not the identity. -/
structure Curve.Lawful (curve : Curve n Point) : Prop where
  generator_ne : curve.generator ≠ 0
  isSec1 : ∀ point : Point, point ≠ 0 → curve.isSec1 (curve.toSec1 point) = true
  ofSec1 : ∀ point : Point, point ≠ 0 → curve.ofSec1 (curve.toSec1 point) = some point
  length : ∀ point : Point, point ≠ 0 →
    0 < (curve.toSec1 point).length ∧ (curve.toSec1 point).length < 256
  sec1X : ∀ point : Point, point ≠ 0 → ∃ x, curve.sec1X (curve.toSec1 point) = some x
  ofRepr : ∀ scalar, curve.ofRepr (curve.toRepr scalar) = some scalar

/-- SEC1 decoding inverts the canonical encoding, whose length fits in one byte. -/
structure Curve.Sec1 (curve : Curve n Point) : Prop where
  isSec1 : ∀ point : Point, point ≠ 0 → curve.isSec1 (curve.toSec1 point) = true
  ofSec1 : ∀ point : Point, point ≠ 0 → curve.ofSec1 (curve.toSec1 point) = some point
  length : ∀ point : Point, point ≠ 0 →
    0 < (curve.toSec1 point).length ∧ (curve.toSec1 point).length < 256

theorem Curve.Lawful.sec1 (hcurve : curve.Lawful) : curve.Sec1 where
  isSec1 := hcurve.isSec1
  ofSec1 := hcurve.ofSec1
  length := hcurve.length

theorem Curve.Lawful.scalarFromRepr_toRepr (hcurve : curve.Lawful) (scalar : ZMod n) :
    scalarFromRepr curve (curve.toRepr scalar) = .ok scalar := by
  unfold scalarFromRepr
  rw [hcurve.ofRepr]

theorem Curve.Lawful.deriveSessionKey_ok (hcurve : curve.Lawful) {shared : Point} (hshared : shared ≠ 0) :
    ∃ key, EcJpakeParty.deriveSessionKey curve shared = .ok key := by
  obtain ⟨x, hx⟩ := hcurve.sec1X shared hshared
  unfold EcJpakeParty.deriveSessionKey EcJpakeParty.pointXBytes pointToBytes
  dsimp only
  rw [hcurve.isSec1 shared hshared, hx]
  exact ⟨_, rfl⟩

variable [DecidableEq Point]

theorem Curve.Sec1.pointFromBytes_pointToBytes (hcurve : curve.Sec1) {point : Point}
    (hpoint : point ≠ 0) : pointFromBytes curve (pointToBytes curve point) = .ok point := by
  unfold pointFromBytes pointToBytes
  rw [hcurve.isSec1 point hpoint, hcurve.ofSec1 point hpoint, if_neg (by decide)]
  dsimp only
  rw [if_neg hpoint]

theorem Curve.Lawful.pointFromBytes_pointToBytes (hcurve : curve.Lawful) {point : Point}
    (hpoint : point ≠ 0) : pointFromBytes curve (pointToBytes curve point) = .ok point :=
  hcurve.sec1.pointFromBytes_pointToBytes hpoint

/-! ## §5. A generated proof verifies. -/

variable [Module (ZMod n) Point] [Fact n.Prime]

/-- The response takes the challenge times the private scalar off the nonce, and the verifier
    adds it back. -/
theorem SchnorrProof.verify_response (hcurve : curve.Lawful) {base : Point} (hbase : base ≠ 0)
    {x nonce : ZMod n} (hx : x ≠ 0) (hnonce : nonce ≠ 0) (proverId otherInfo : Bytes) :
    SchnorrProof.verify curve
      { v := pointToBytes curve (nonce • base)
        r := curve.toRepr (nonce -
          x * challengeScalar curve base (nonce • base) (x • base) proverId otherInfo)
        proverId } base (x • base) proverId otherInfo = .ok () := by
  have hv : nonce • base ≠ 0 := smul_ne_zero hnonce hbase
  have hpublic : x • base ≠ 0 := smul_ne_zero hx hbase
  unfold SchnorrProof.verify
  rw [if_neg (not_not_intro rfl), if_neg hpublic, hcurve.pointFromBytes_pointToBytes hv,
    hcurve.scalarFromRepr_toRepr]
  show (if pointToBytes curve _ ≠ pointToBytes curve (nonce • base) then _ else _) = _
  generalize challengeScalar curve base (nonce • base) (x • base) proverId otherInfo = challenge
  have hsum : (nonce - x * challenge) • base + challenge • x • base = nonce • base := by
    module
  rw [hsum, if_neg (not_not_intro rfl)]

variable (curve) in
/-- A proof that verifies, by this prover and over an encoded point and an encoded scalar. -/
structure SchnorrProof.Proves (proof : SchnorrProof) (base publicPoint : Point)
    (proverId : Bytes) : Prop where
  prover : proof.proverId = proverId
  v : ∃ point, point ≠ 0 ∧ proof.v = pointToBytes curve point
  r : ∃ scalar, proof.r = curve.toRepr scalar
  verifies : proof.verify curve base publicPoint proverId [] = .ok ()

/-- **A generated proof verifies** for the base, the public point and the prover it was made
    for, whatever the randomness. -/
theorem SchnorrProof.generate_proves (hcurve : curve.Lawful) (source : ScalarSource n)
    {base : Point} (hbase : base ≠ 0) {x : ZMod n} (hx : x ≠ 0) (proverId : Bytes)
    (rng : source.Rng) :
    (SchnorrProof.generate curve source base x (x • base) proverId [] rng).1.Proves curve base
      (x • base) proverId where
  prover := rfl
  v := ⟨_, smul_ne_zero (source.randomScalar_ne_zero rng) hbase, rfl⟩
  r := ⟨_, rfl⟩
  verifies := verify_response hcurve hbase hx (source.randomScalar_ne_zero rng) proverId []

/-! ## §6. The two rounds. -/

namespace EcJpakeParty

variable (curve) in
/-- A first-round message of this party: its two points, each with a proof that verifies. -/
structure Publishes (party : EcJpakeParty n) (message : RoundOne) : Prop where
  g1 : message.g1 = pointToBytes curve (party.x1 • curve.generator)
  g2 : message.g2 = pointToBytes curve (party.x2 • curve.generator)
  participantId : message.participantId = party.participantId
  proof1 : message.proof1.Proves curve curve.generator (party.x1 • curve.generator)
    party.participantId
  proof2 : message.proof2.Proves curve curve.generator (party.x2 • curve.generator)
    party.participantId

theorem roundOne_publishes (hcurve : curve.Lawful) (source : ScalarSource n)
    (party : EcJpakeParty n) (rng : source.Rng) :
    party.Publishes curve (party.roundOne curve source rng).1 where
  g1 := rfl
  g2 := rfl
  participantId := rfl
  proof1 := SchnorrProof.generate_proves hcurve source hcurve.generator_ne party.x1_ne _ _
  proof2 := SchnorrProof.generate_proves hcurve source hcurve.generator_ne party.x2_ne _ _

section Published

variable {own peer : EcJpakeParty n} {ownRoundOne peerRoundOne : RoundOne}

theorem Publishes.decode_g1 (hcurve : curve.Lawful) (h : own.Publishes curve ownRoundOne) :
    pointFromBytes curve ownRoundOne.g1 = .ok (own.x1 • curve.generator) := by
  rw [h.g1, hcurve.pointFromBytes_pointToBytes (smul_ne_zero own.x1_ne hcurve.generator_ne)]

theorem Publishes.decode_g2 (hcurve : curve.Lawful) (h : own.Publishes curve ownRoundOne) :
    pointFromBytes curve ownRoundOne.g2 = .ok (own.x2 • curve.generator) := by
  rw [h.g2, hcurve.pointFromBytes_pointToBytes (smul_ne_zero own.x2_ne hcurve.generator_ne)]

theorem Publishes.verifyRoundOne (hcurve : curve.Lawful) (h : own.Publishes curve ownRoundOne) :
    verifyRoundOne curve ownRoundOne = .ok () := by
  unfold EcJpakeParty.verifyRoundOne
  rw [h.decode_g1 hcurve, h.decode_g2 hcurve, h.participantId]
  show (if own.x2 • curve.generator = 0 then _ else _) = _
  rw [if_neg (smul_ne_zero own.x2_ne hcurve.generator_ne), h.proof1.verifies]
  exact h.proof2.verifies

/-- The factor of the base of a party's second round: its own first secret and both of its
    peer's. -/
def baseScalar (own peer : EcJpakeParty n) : ZMod n := own.x1 + peer.x1 + peer.x2

/-- **Both sides compute the base of a second round alike.** -/
theorem secondRoundBase_eq (hcurve : curve.Lawful) (hown : own.Publishes curve ownRoundOne)
    (hpeer : peer.Publishes curve peerRoundOne) (sender : EcJpakeRole) :
    own.secondRoundBase curve ownRoundOne peerRoundOne sender = .ok
      ((if sender = own.role then baseScalar own peer else baseScalar peer own)
        • curve.generator) := by
  unfold secondRoundBase
  rw [hown.decode_g1 hcurve, hown.decode_g2 hcurve, hpeer.decode_g1 hcurve, hpeer.decode_g2 hcurve]
  show Except.ok _ = Except.ok _
  congr 1
  unfold baseScalar
  cases own.role <;> cases sender <;> dsimp only
  case client.client => rw [if_pos rfl]; module
  case client.server => rw [if_neg (by decide)]; module
  case server.client => rw [if_neg (by decide)]; module
  case server.server => rw [if_pos rfl]; module

variable (curve) in
/-- A second-round message of `own` to `peer`: its point with a proof that verifies. -/
structure Sends (own peer : EcJpakeParty n) (message : RoundTwo) : Prop where
  point : message.point = pointToBytes curve
    ((own.x2 * own.secret) • baseScalar own peer • curve.generator)
  proof : message.proof.Proves curve (baseScalar own peer • curve.generator)
    ((own.x2 * own.secret) • baseScalar own peer • curve.generator) own.participantId

/-- **The second round succeeds** when its base is not the identity. -/
theorem roundTwo_spec (hcurve : curve.Lawful) (source : ScalarSource n)
    (hown : own.Publishes curve ownRoundOne) (hpeer : peer.Publishes curve peerRoundOne)
    (hbase : baseScalar own peer ≠ 0) (rng : source.Rng) :
    ∃ message, (own.roundTwo curve source ownRoundOne peerRoundOne rng).1 = .ok message ∧
      Sends curve own peer message := by
  have hpoint : baseScalar own peer • curve.generator ≠ 0 := smul_ne_zero hbase hcurve.generator_ne
  have hexponent : own.x2 * own.secret ≠ 0 := mul_ne_zero own.x2_ne own.secret_ne
  unfold roundTwo
  rw [hpeer.verifyRoundOne hcurve, secondRoundBase_eq hcurve hown hpeer, if_pos rfl]
  simp only [bind, Except.bind, if_neg hpoint]
  refine ⟨_, rfl, rfl, ?_⟩
  exact SchnorrProof.generate_proves hcurve source hpoint hexponent _ _

/-- The point both sides arrive at. -/
def sharedPoint (curve : Curve n Point) (own peer : EcJpakeParty n) : Point :=
  ((own.x1 + peer.x1) * (own.x2 * peer.x2 * own.secret)) • curve.generator

omit [DecidableEq Point] in
theorem sharedPoint_comm (hsecret : own.secret = peer.secret) :
    sharedPoint curve own peer = sharedPoint curve peer own := by
  unfold sharedPoint
  rw [hsecret]
  congr 1
  ring

omit [DecidableEq Point] in
/-- The blinding of the peer's point cancels. -/
theorem unblind (hsecret : own.secret = peer.secret) (base : Point) :
    own.x2 • ((peer.x2 * peer.secret) • baseScalar peer own • base
      - (own.x2 * own.secret) • peer.x2 • base)
      = ((own.x1 + peer.x1) * (own.x2 * peer.x2 * own.secret)) • base := by
  unfold baseScalar
  rw [hsecret]
  module

/-- **The exchange finishes** with the key of the shared point. -/
theorem finish_spec (hcurve : curve.Lawful) (hown : own.Publishes curve ownRoundOne)
    (hpeer : peer.Publishes curve peerRoundOne) {peerRoundTwo : RoundTwo}
    (hsends : Sends curve peer own peerRoundTwo) (hsecret : own.secret = peer.secret)
    (hbase : baseScalar peer own ≠ 0) (hsum : own.x1 + peer.x1 ≠ 0) :
    own.finish curve ownRoundOne peerRoundOne peerRoundTwo
      = deriveSessionKey curve (sharedPoint curve own peer) := by
  have hrole : own.role.peerRole ≠ own.role := by cases own.role <;> decide
  have hpoint : (peer.x2 * peer.secret) • baseScalar peer own • curve.generator ≠ 0 :=
    smul_ne_zero (mul_ne_zero peer.x2_ne peer.secret_ne) (smul_ne_zero hbase hcurve.generator_ne)
  have hfactor : own.x2 * peer.x2 * own.secret ≠ 0 :=
    mul_ne_zero (mul_ne_zero own.x2_ne peer.x2_ne) own.secret_ne
  have hshared : ((own.x1 + peer.x1) * (own.x2 * peer.x2 * own.secret)) • curve.generator ≠ 0 :=
    smul_ne_zero (mul_ne_zero hsum hfactor) hcurve.generator_ne
  unfold finish
  rw [hpeer.verifyRoundOne hcurve, secondRoundBase_eq hcurve hown hpeer, if_neg hrole,
    hsends.point, hcurve.pointFromBytes_pointToBytes hpoint, hpeer.participantId,
    hpeer.decode_g2 hcurve]
  simp only [bind, Except.bind, hsends.proof.verifies, unblind hsecret, if_neg hshared]
  rfl

end Published

end EcJpakeParty

end Agreement

end Meshcop.Dtls
