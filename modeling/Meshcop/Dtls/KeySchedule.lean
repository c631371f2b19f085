/-
  Meshcop.Dtls.KeySchedule — the TLS 1.2 pseudo-random function
  (`meshcop-dtls/src/key_schedule.rs`).

  `tls12_prf` interleaves the chain `A(i)` with the output blocks and cuts the last block.
  Over any function for HMAC-SHA-256 it returns the front of one infinite stream, the P_hash of
  the secret and of label and seed, so an output is a front of every longer one.  The other
  functions of the key schedule cut their keys from that stream, and the two sides of a handshake
  derive them by separate code from the same inputs.

  Main results:
    * `tls12Prf_eq_ok`   — the function returns the front of the P_hash stream;
    * `tls12Prf_streams` — what follows for shorter outputs and for the two sides' keys.
-/

import Meshcop.Dtls.ClientHandshake
import Meshcop.Dtls.ServerHandshake
import Meshcop.Lib.Blocks

namespace Meshcop.Dtls

open Lib

/-! ## §1. The function. -/

section Prf

variable (hmac : (key data : Bytes) → Option (FixedBytes 32))

/-- `hmac_sha256`, over an HMAC that may refuse a key. -/
def hmacSha256 (key data : Bytes) : Except Error Bytes :=
  match hmac key data with
  | none => .error (.crypto "invalid HMAC key")
  | some out => .ok out.bytes

/-- The loop of `tls12_prf`.  Every turn adds 32 bytes to `out`, so `outLen` turns are enough. -/
def prfLoop (secret labelSeed : Bytes) (outLen : Nat) :
    (fuel : Nat) → (out a : Bytes) → Except Error Bytes
  | 0, out, _ => .ok out
  | fuel + 1, out, a =>
    if out.length < outLen then do
      let block ← hmacSha256 hmac secret (a ++ labelSeed)
      let next ← hmacSha256 hmac secret a
      prfLoop secret labelSeed outLen fuel (out ++ block) next
    else .ok out

def tls12Prf (secret label seed : Bytes) (outLen : Nat) : Except Error Bytes := do
  let labelSeed := label ++ seed
  let a ← hmacSha256 hmac secret labelSeed
  let out ← prfLoop hmac secret labelSeed outLen outLen [] a
  return out.take outLen

end Prf

/-! ## §2. The stream. -/

section Stream

variable (hmac : (key data : Bytes) → FixedBytes 32)

/-- The chain: `A(0)` is label and seed, and each further value the HMAC of the one before. -/
def pHashA (secret labelSeed : Bytes) : Nat → Bytes
  | 0 => labelSeed
  | i + 1 => (hmac secret (pHashA secret labelSeed i)).bytes

/-- The output block under `A(i)`. -/
def pHashBlock (secret labelSeed : Bytes) (i : Nat) : FixedBytes 32 :=
  hmac secret (pHashA hmac secret labelSeed i ++ labelSeed)

/-- The blocks under `A(i + 1)`, `A(i + 2)` and so on. -/
def pHashFrom (secret labelSeed : Bytes) (i : Nat) : Stream' UInt8 :=
  backToBack (fun j => (pHashBlock hmac secret labelSeed (i + j + 1)).bytes) (by decide)
    (fun j => (pHashBlock hmac secret labelSeed (i + j + 1)).size)

/-- The P_hash stream, from `A(1)` on. -/
def pHash (secret labelSeed : Bytes) : Stream' UInt8 := pHashFrom hmac secret labelSeed 0

variable {hmac}

theorem pHashFrom_eq_append (secret labelSeed : Bytes) (i : Nat) :
    pHashFrom hmac secret labelSeed i = (pHashBlock hmac secret labelSeed (i + 1)).bytes ++ₛ
        pHashFrom hmac secret labelSeed (i + 1) := by
  unfold pHashFrom
  rw [backToBack_eq_append]
  congr 2
  funext j
  rw [Nat.add_right_comm i 1 j]
  rfl

/-- The loop, entered with the chain at `A(i + 1)`, puts the blocks from there on behind what it
    has, until that is long enough. -/
theorem prfLoop_eq_ok (secret labelSeed : Bytes) {outLen : Nat} (fuel i : Nat) (out : Bytes)
    (hfuel : outLen ≤ out.length + fuel) :
    ∃ bytes, prfLoop (fun key data => some (hmac key data)) secret labelSeed outLen fuel out
        (pHashA hmac secret labelSeed (i + 1)) = .ok bytes ∧
      bytes.take outLen = (out ++ₛ pHashFrom hmac secret labelSeed i).take outLen := by
  induction fuel generalizing i out with
  | zero =>
    refine ⟨out, rfl, ?_⟩
    rw [Stream'.take_append_of_le_length _ _ _ (by omega)]
  | succ fuel ih =>
    unfold prfLoop
    by_cases hmore : out.length < outLen
    · rw [if_pos hmore]
      -- one block more, and the chain one further
      have hlonger : outLen ≤ (out ++ (pHashBlock hmac secret labelSeed (i + 1)).bytes).length
          + fuel := by
        rw [List.length_append, (pHashBlock hmac secret labelSeed (i + 1)).size]
        omega
      obtain ⟨bytes, hbytes, htake⟩ := ih (i + 1) _ hlonger
      refine ⟨bytes, hbytes, ?_⟩
      rw [htake, pHashFrom_eq_append secret labelSeed i, Stream'.append_append_stream]
    · rw [if_neg hmore]
      refine ⟨out, rfl, ?_⟩
      rw [Stream'.take_append_of_le_length _ _ _ (by omega)]

/-- **The function returns the front of the stream.** -/
theorem tls12Prf_eq_ok (secret label seed : Bytes) (outLen : Nat) :
    tls12Prf (fun key data => some (hmac key data)) secret label seed outLen
      = .ok ((pHash hmac secret (label ++ seed)).take outLen) := by
  have hfuel : outLen ≤ ([] : Bytes).length + outLen := by rw [List.length_nil, Nat.zero_add]
  obtain ⟨bytes, hbytes, htake⟩ := prfLoop_eq_ok secret (label ++ seed) outLen 0 [] hfuel
  unfold tls12Prf
  show (prfLoop _ secret (label ++ seed) outLen outLen []
    (pHashA hmac secret (label ++ seed) 1) >>= fun out => .ok (out.take outLen)) = _
  rw [hbytes]
  exact congrArg Except.ok htake

/-! ## §3. The keys of the two sides. -/

variable (hmac) in
def pHashMasterSecret (preMasterSecret clientRandom serverRandom : Bytes) : Bytes :=
  (pHash hmac preMasterSecret (ascii "master secret" ++ (clientRandom ++ serverRandom))).take 48

variable (hmac) in
/-- The keys and fixed IVs, cut one after another from the stream of the master secret. -/
def pHashKeyBlock (masterSecret clientRandom serverRandom : Bytes) : Tls12Aes128Ccm8KeyBlock :=
  let expansion := pHash hmac masterSecret (ascii "key expansion" ++ (serverRandom ++ clientRandom))
  { clientWriteKey := expansion.take 16
    serverWriteKey := (expansion.drop 16).take 16
    clientWriteIv := (expansion.drop 32).take 4
    serverWriteIv := (expansion.drop 36).take 4 }

variable (hmac) in
def pHashKeyMaterial (preMasterSecret clientRandom serverRandom : Bytes) :
    ThreadDtlsKeyMaterial :=
  let masterSecret := pHashMasterSecret hmac preMasterSecret clientRandom serverRandom
  { masterSecret, keyBlock := pHashKeyBlock hmac masterSecret clientRandom serverRandom }

variable (hmac) in
/-- The Finished value of a role over a transcript. -/
def pHashFinished (masterSecret : Bytes) (role : FinishedRole) (handshakeHash : Bytes) : Bytes :=
  (pHash hmac masterSecret (role.label ++ handshakeHash)).take 12

variable {C : Crypto}

/-- What a client has before it derives its keys: the premaster secret, and both randoms. -/
structure ThreadDtlsHandshake.Holds (handshake : ThreadDtlsHandshake C)
    (preMasterSecret clientRandom serverRandom : Bytes) : Prop where
  exchange : ∃ serverRoundOne serverRoundTwo, handshake.serverRoundOne = some serverRoundOne ∧
    handshake.serverRoundTwo = some serverRoundTwo ∧
    C.finish handshake.ecjpake handshake.clientRoundOne serverRoundOne serverRoundTwo
      = .ok preMasterSecret
  clientRandom : handshake.clientRandom = clientRandom
  serverRandom : handshake.serverRandom = some serverRandom

/-- What a server has before it derives its keys. -/
structure ThreadDtlsServerHandshake.Holds (handshake : ThreadDtlsServerHandshake C)
    (preMasterSecret clientRandom serverRandom : Bytes) : Prop where
  exchange : ∃ clientRoundOne clientRoundTwo, handshake.clientRoundOne = some clientRoundOne ∧
    handshake.clientRoundTwo = some clientRoundTwo ∧
    C.finish handshake.ecjpake handshake.serverRoundOne clientRoundOne clientRoundTwo
      = .ok preMasterSecret
  clientRandom : handshake.clientRandom = some clientRandom
  serverRandom : handshake.serverRandom = serverRandom

/-- A piece of the front of a stream is a piece of the stream. -/
theorem take_drop_take (stream : Stream' UInt8) {len skip size : Nat} (h : skip + size ≤ len) :
    ((stream.take len).drop skip).take size = (stream.drop skip).take size := by
  obtain ⟨rest, rfl⟩ := Nat.exists_eq_add_of_le (Nat.le_trans (Nat.le_add_right skip size) h)
  rw [← Stream'.take_drop, Stream'.take_take, Nat.min_eq_right (by omega)]

section Keys

variable (hprf : C.tls12Prf = tls12Prf fun key data => some (hmac key data))
include hprf

theorem deriveMasterSecret_eq_ok (preMasterSecret clientRandom serverRandom : Bytes) :
    deriveMasterSecret C preMasterSecret clientRandom serverRandom
      = .ok (pHashMasterSecret hmac preMasterSecret clientRandom serverRandom) := by
  unfold deriveMasterSecret
  rw [hprf, tls12Prf_eq_ok]
  rfl

theorem deriveAes128Ccm8KeyBlock_eq_ok (masterSecret clientRandom serverRandom : Bytes) :
    deriveAes128Ccm8KeyBlock C masterSecret clientRandom serverRandom
      = .ok (pHashKeyBlock hmac masterSecret clientRandom serverRandom) := by
  unfold deriveAes128Ccm8KeyBlock pHashKeyBlock
  rw [hprf, tls12Prf_eq_ok]
  show Except.ok _ = _
  rw [take_drop_take _ (by decide), take_drop_take _ (by decide), take_drop_take _ (by decide),
    Stream'.take_take]
  rfl

/-- The two derivations, as both sides make them. -/
theorem deriveKeys_eq_ok (preMasterSecret clientRandom serverRandom : Bytes) : (do
      let masterSecret ← deriveMasterSecret C preMasterSecret clientRandom serverRandom
      let keyBlock ← deriveAes128Ccm8KeyBlock C masterSecret clientRandom serverRandom
      return ({ masterSecret, keyBlock } : ThreadDtlsKeyMaterial))
      = .ok (pHashKeyMaterial hmac preMasterSecret clientRandom serverRandom) := by
  rw [deriveMasterSecret_eq_ok hprf]
  show (deriveAes128Ccm8KeyBlock C _ _ _ >>= fun keyBlock => _) = _
  rw [deriveAes128Ccm8KeyBlock_eq_ok hprf]
  rfl

theorem finishedVerifyData_eq_ok (transcript : HandshakeTranscript) (masterSecret : Bytes)
    (role : FinishedRole) : transcript.finishedVerifyData C masterSecret role
      = .ok (pHashFinished hmac masterSecret role (C.sha256 transcript.bytes)) := by
  show C.tls12Prf masterSecret role.label (C.sha256 transcript.bytes) 12 = _
  rw [hprf, tls12Prf_eq_ok]
  rfl

theorem ThreadDtlsHandshake.Holds.deriveKeyMaterial_eq_ok
    {handshake : ThreadDtlsHandshake C} {preMasterSecret clientRandom serverRandom : Bytes}
    (h : handshake.Holds preMasterSecret clientRandom serverRandom) : handshake.deriveKeyMaterial
      = .ok (pHashKeyMaterial hmac preMasterSecret clientRandom serverRandom) := by
  obtain ⟨serverRoundOne, serverRoundTwo, hone, htwo, hfinish⟩ := h.exchange
  unfold ThreadDtlsHandshake.deriveKeyMaterial
  rw [hone, htwo, h.serverRandom]
  dsimp only
  rw [hfinish, h.clientRandom]
  exact deriveKeys_eq_ok hprf preMasterSecret clientRandom serverRandom

theorem ThreadDtlsServerHandshake.Holds.deriveKeyMaterial_eq_ok
    {handshake : ThreadDtlsServerHandshake C} {preMasterSecret clientRandom serverRandom : Bytes}
    (h : handshake.Holds preMasterSecret clientRandom serverRandom) : handshake.deriveKeyMaterial
      = .ok (pHashKeyMaterial hmac preMasterSecret clientRandom serverRandom) := by
  obtain ⟨clientRoundOne, clientRoundTwo, hone, htwo, hfinish⟩ := h.exchange
  unfold ThreadDtlsServerHandshake.deriveKeyMaterial
  rw [hone, htwo, h.clientRandom]
  dsimp only
  rw [hfinish, h.serverRandom]
  exact deriveKeys_eq_ok hprf preMasterSecret clientRandom serverRandom

end Keys

end Stream

/-- **The PRF is P_hash.**  Whatever the HMAC, the function returns the first `outLen` bytes of
    the stream, so a shorter output is a front of a longer one; and where the PRF of the
    handshake is this function, a client and a server with the same premaster secret and randoms
    derive the same keys, and the same Finished values over the same transcript, each a piece of
    its stream. -/
theorem tls12Prf_streams (hmac : (key data : Bytes) → FixedBytes 32) :
    (∀ (secret label seed : Bytes) (outLen : Nat),
      tls12Prf (fun key data => some (hmac key data)) secret label seed outLen
        = .ok ((pHash hmac secret (label ++ seed)).take outLen)) ∧
    (∀ (secret label seed : Bytes) (short long : Nat), short ≤ long → ∃ front whole,
      tls12Prf (fun key data => some (hmac key data)) secret label seed short = .ok front ∧
      tls12Prf (fun key data => some (hmac key data)) secret label seed long = .ok whole ∧
      front <+: whole) ∧
    (∀ (C : Crypto), C.tls12Prf = tls12Prf (fun key data => some (hmac key data)) →
      ∀ (client : ThreadDtlsHandshake C) (server : ThreadDtlsServerHandshake C)
        (preMasterSecret clientRandom serverRandom : Bytes),
        client.Holds preMasterSecret clientRandom serverRandom →
        server.Holds preMasterSecret clientRandom serverRandom →
        ∃ keyMaterial, keyMaterial = pHashKeyMaterial hmac preMasterSecret clientRandom serverRandom ∧
          client.deriveKeyMaterial = .ok keyMaterial ∧
          server.deriveKeyMaterial = .ok keyMaterial ∧
          (client.transcript.bytes = server.transcript.bytes → ∀ role, ∃ verifyData,
            verifyData = pHashFinished hmac keyMaterial.masterSecret role
              (C.sha256 client.transcript.bytes) ∧
            client.transcript.finishedVerifyData C keyMaterial.masterSecret role = .ok verifyData ∧
            server.transcript.finishedVerifyData C keyMaterial.masterSecret role
              = .ok verifyData)) := by
  refine ⟨tls12Prf_eq_ok, ?_, ?_⟩
  · intro secret label seed short long hle
    exact ⟨_, _, tls12Prf_eq_ok secret label seed short, tls12Prf_eq_ok secret label seed long,
      Stream'.take_prefix_take_left short long _ hle⟩
  · intro C hprf client server preMasterSecret clientRandom serverRandom hclient hserver
    refine ⟨_, rfl, hclient.deriveKeyMaterial_eq_ok hprf, hserver.deriveKeyMaterial_eq_ok hprf, ?_⟩
    intro hsame role
    refine ⟨_, rfl, finishedVerifyData_eq_ok hprf _ _ _, ?_⟩
    rw [hsame]
    exact finishedVerifyData_eq_ok hprf _ _ _

end Meshcop.Dtls
