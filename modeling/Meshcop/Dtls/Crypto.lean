/-
  Meshcop.Dtls.Crypto — the cryptography the DTLS profile rests on, as a parameter, and the
  key schedule over it (`meshcop-dtls/src/{key_schedule,ecjpake,ccm}.rs`).

  `Crypto` collects what the session code calls but does not look into: the random source,
  SHA-256, HMAC, the TLS 1.2 PRF, AES-CCM-8 and the EC J-PAKE exchange with its codecs.
  Every result of this development holds for all such functions; where one needs a
  property of them (an injective Finished value, say), the theorem names it.

  The key schedule itself is the source's: which label, which order of the randoms, which
  slice becomes which key.
-/

import Meshcop.Dtls.Record

namespace Meshcop.Dtls

open Lib

/-! ## §1. The parameter. -/

/-- Participant role of the EC J-PAKE exchange. -/
inductive EcJpakeRole where
  | client
  | server
  deriving DecidableEq, Repr

/-- Proof identities of the two sides. -/
def THREAD_CLIENT_ID : Bytes := ascii "client"
def THREAD_SERVER_ID : Bytes := ascii "server"

/-- The primitives under the session code.  A random source is a state that each draw
    advances; a primitive that can refuse its input returns `none` or an error. -/
structure Crypto where
  /-- State of the random number generator. -/
  Rng : Type
  /-- `RngCore::fill_bytes` on a buffer of the given length. -/
  fillBytes : Nat → Rng → Bytes × Rng
  sha256 : Bytes → Bytes
  /-- HMAC-SHA-256; `none` when the key is refused. -/
  hmacSha256 : (key data : Bytes) → Option Bytes
  /-- `tls12_prf`: secret, label, seed and output length. -/
  tls12Prf : (secret label seed : Bytes) → (outLen : Nat) → Except Error Bytes
  /-- AES-128-CCM-8 sealing: key, nonce, associated data, plaintext. -/
  ccmEncrypt : (key nonce aad plaintext : Bytes) → Option Bytes
  /-- AES-128-CCM-8 opening; `none` when authentication fails. -/
  ccmDecrypt : (key nonce aad ciphertext : Bytes) → Option Bytes
  /-- One side of the J-PAKE exchange, with its secrets. -/
  Party : Type
  RoundOne : Type
  RoundTwo : Type
  /-- `EcJpakeParty::new_thread_with_rng`. -/
  newThread : EcJpakeRole → (sharedSecret : Bytes) → Rng → Party × Rng
  /-- `EcJpakeParty::round_one`. -/
  roundOne : Party → Rng → RoundOne × Rng
  /-- `EcJpakeParty::round_two`: own and peer's first round. -/
  roundTwo : Party → RoundOne → RoundOne → Rng → Except Error RoundTwo × Rng
  /-- `EcJpakeParty::finish`: the premaster secret. -/
  finish : Party → RoundOne → RoundOne → RoundTwo → Except Error Bytes
  /-- `RoundOne::encode_tls_kkpp`. -/
  encodeTlsKkpp : RoundOne → Except Error Bytes
  /-- `RoundOne::decode_tls_kkpp`, which also verifies the proofs. -/
  decodeTlsKkpp : (kkpp identity : Bytes) → Except Error RoundOne
  /-- `RoundTwo::encode_tls_key_exchange`. -/
  encodeTlsKeyExchange : RoundTwo → (includeCurve : Bool) → Except Error Bytes
  /-- `RoundTwo::decode_tls_key_exchange`. -/
  decodeTlsKeyExchange : (payload identity : Bytes) → (includeCurve : Bool) → Except Error RoundTwo

/-! ## §2. Key material. -/

/-- AES-128-CCM-8 write keys and fixed IVs. -/
structure Tls12Aes128Ccm8KeyBlock where
  clientWriteKey : Bytes
  serverWriteKey : Bytes
  clientWriteIv : Bytes
  serverWriteIv : Bytes
  deriving DecidableEq, Repr

/-- Master secret and traffic keys of one session. -/
structure ThreadDtlsKeyMaterial where
  masterSecret : Bytes
  keyBlock : Tls12Aes128Ccm8KeyBlock
  deriving DecidableEq, Repr

/-- Sender of a Finished message. -/
inductive FinishedRole where
  | client
  | server
  deriving DecidableEq, Repr

section KeySchedule

variable (C : Crypto)

def deriveMasterSecret (preMasterSecret clientRandom serverRandom : Bytes) :
    Except Error Bytes :=
  C.tls12Prf preMasterSecret (ascii "master secret") (clientRandom ++ serverRandom) 48

/-- The 40-byte expansion, cut into the two keys and the two fixed IVs. -/
def deriveAes128Ccm8KeyBlock (masterSecret clientRandom serverRandom : Bytes) :
    Except Error Tls12Aes128Ccm8KeyBlock := do
  let bytes ← C.tls12Prf masterSecret (ascii "key expansion") (serverRandom ++ clientRandom) 40
  return { clientWriteKey := bytes.take 16
           serverWriteKey := (bytes.drop 16).take 16
           clientWriteIv := (bytes.drop 32).take 4
           serverWriteIv := (bytes.drop 36).take 4 }

/-- The Joiner Router KEK: the hash of the key block, cut to 16 bytes. -/
def deriveJoinerRouterKek (masterSecret clientRandom serverRandom : Bytes) :
    Except Error Bytes := do
  let keyBlock ←
    C.tls12Prf masterSecret (ascii "key expansion") (serverRandom ++ clientRandom) 40
  return (C.sha256 keyBlock).take 16

def FinishedRole.label : FinishedRole → Bytes
  | .client => ascii "client finished"
  | .server => ascii "server finished"

def finishedVerifyData (masterSecret : Bytes) (role : FinishedRole) (handshakeHash : Bytes) :
    Except Error Bytes :=
  C.tls12Prf masterSecret role.label handshakeHash 12

end KeySchedule

/-! ## §3. A transparent instance. -/

/-- Primitives that hide nothing and draw constant bytes: sealing appends an empty tag,
    hashing is the identity, and the Finished value spells out the secret, the role and the
    transcript.  It runs, and it satisfies the injectivity the theorems ask for. -/
def Crypto.transparent : Crypto where
  Rng := Unit
  fillBytes length _ := (List.replicate length 7, ())
  sha256 := id
  hmacSha256 _ data := some data
  tls12Prf secret label seed _ :=
    if label = ascii "master secret" then .ok []
    else if label = ascii "key expansion" then .ok (List.replicate 40 0)
    else .ok (secret.flatMap (fun byte => [1, byte]) ++ 0 :: label.headD 0 :: seed)
  ccmEncrypt _ _ _ plaintext := some (plaintext ++ List.replicate 8 0)
  ccmDecrypt _ _ _ ciphertext := some (ciphertext.take (ciphertext.length - 8))
  Party := Unit
  RoundOne := Unit
  RoundTwo := Unit
  newThread _ _ rng := ((), rng)
  roundOne _ rng := ((), rng)
  roundTwo _ _ _ rng := (.ok (), rng)
  finish _ _ _ _ := .ok []
  encodeTlsKkpp _ := .ok []
  decodeTlsKkpp _ _ := .ok ()
  encodeTlsKeyExchange _ _ := .ok []
  decodeTlsKeyExchange _ _ _ := .ok ()

end Meshcop.Dtls
