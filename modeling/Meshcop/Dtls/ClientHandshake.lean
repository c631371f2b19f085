/-
  Meshcop.Dtls.ClientHandshake — the client side of the Thread DTLS handshake
  (`meshcop-dtls/src/thread_handshake.rs`).

  The mirror image of the server object: the client records its own cookie-bearing
  ClientHello, checks and records the server's flight, and builds its key exchange and
  Finished.

  Main results: for each method, what it appends to the transcript, and for the two Finished
  messages which value over which transcript they carry.
-/

import Meshcop.Dtls.Hello

namespace Meshcop.Dtls

open Lib

/-! ## §1. The handshake object. -/

structure ThreadDtlsHandshake (C : Crypto) where
  ecjpake : C.Party
  clientRoundOne : C.RoundOne
  serverRoundOne : Option C.RoundOne
  serverRoundTwo : Option C.RoundTwo
  clientRandom : Bytes
  serverRandom : Option Bytes
  transcript : HandshakeTranscript

namespace ThreadDtlsHandshake

variable {C : Crypto}

def new (pskc : Bytes) (rng : C.Rng) : ThreadDtlsHandshake C × C.Rng :=
  let (clientRandom, rng) := C.fillBytes 32 rng
  let (ecjpake, rng) := C.newThread .client pskc rng
  let (clientRoundOne, rng) := C.roundOne ecjpake rng
  ({ ecjpake, clientRoundOne, serverRoundOne := none, serverRoundTwo := none, clientRandom
     serverRandom := none, transcript := HandshakeTranscript.new }, rng)

/-- The cookie-retry state with the client's KKPP bytes. -/
def clientHelloState (handshake : ThreadDtlsHandshake C) : Except Error DtlsClientHelloState := do
  let kkpp ← C.encodeTlsKkpp handshake.clientRoundOne
  return DtlsClientHelloState.withEcjpakeKkpp handshake.clientRandom kkpp

/-- Methods that change the handshake object. -/
abbrev Method (C : Crypto) := EStateM Error (ThreadDtlsHandshake C)

/-- Appends a message to the transcript. -/
def record (message : HandshakeMessage) : Method C Unit := do
  let handshake ← get
  let transcript ← attempt id (handshake.transcript.push message)
  modify fun handshake => { handshake with transcript }

/-- Records the outgoing ClientHello after the cookie exchange. -/
def recordClientHello (message : HandshakeMessage) : Method C Unit :=
  if message.messageType ≠ .clientHello then throw (.crypto "expected ClientHello message")
  else record message

/-- Parses and records the ServerHello and its KKPP extension. -/
def handleServerHello (message : HandshakeMessage) : Method C ServerHello := do
  if message.messageType ≠ .serverHello then throw (.crypto "expected ServerHello message")
  else
    let hello ← attempt id (ServerHello.decode message.payload)
    attempt id hello.validateThreadProfile
    match hello.ecjpakeKkpp with
    | none => throw (.crypto "ServerHello missing ECJPAKE KKPP")
    | some kkpp =>
      let roundOne ← attempt id (C.decodeTlsKkpp kkpp THREAD_SERVER_ID)
      modify fun handshake => { handshake with serverRoundOne := some roundOne
                                               serverRandom := some hello.random }
      record message
      return hello

/-- Parses and records the ServerKeyExchange. -/
def handleServerKeyExchange (message : HandshakeMessage) : Method C C.RoundTwo := do
  if message.messageType ≠ .serverKeyExchange then
    throw (.crypto "expected ServerKeyExchange message")
  else
    let roundTwo ← attempt id (C.decodeTlsKeyExchange message.payload THREAD_SERVER_ID true)
    modify fun handshake => { handshake with serverRoundTwo := some roundTwo }
    record message
    return roundTwo

/-- Records the empty ServerHelloDone. -/
def handleServerHelloDone (message : HandshakeMessage) : Method C Unit :=
  if message.messageType ≠ .serverHelloDone ∨ message.payload ≠ [] then
    throw (.crypto "expected empty ServerHelloDone message")
  else record message

/-- Builds and records the ClientKeyExchange; the random source is advanced. -/
def buildClientKeyExchange (messageSeq : UInt16) :
    EStateM Error (ThreadDtlsHandshake C × C.Rng) HandshakeMessage := do
  let (handshake, rng) ← get
  match handshake.serverRoundOne with
  | none => throw (.invalidState "server ECJPAKE round one is missing")
  | some serverRoundOne =>
    let (roundTwo, rng) :=
      C.roundTwo handshake.ecjpake handshake.clientRoundOne serverRoundOne rng
    modify fun (handshake, _) => (handshake, rng)
    let clientRoundTwo ← attempt id roundTwo
    let payload ← attempt id (C.encodeTlsKeyExchange clientRoundTwo false)
    let message : HandshakeMessage := { messageType := .clientKeyExchange, messageSeq, payload }
    zoom Prod.fst (fun s handshake => (handshake, s.2)) id (record message)
    return message

/-- Derives the key material after the server's second round was processed. -/
def deriveKeyMaterial (handshake : ThreadDtlsHandshake C) : Except Error ThreadDtlsKeyMaterial :=
  match handshake.serverRoundOne with
  | none => .error (.invalidState "server ECJPAKE round one is missing")
  | some serverRoundOne =>
    match handshake.serverRoundTwo with
    | none => .error (.invalidState "server ECJPAKE round two is missing")
    | some serverRoundTwo =>
      match handshake.serverRandom with
      | none => .error (.invalidState "server random is missing")
      | some serverRandom => do
        let preMasterSecret ←
          C.finish handshake.ecjpake handshake.clientRoundOne serverRoundOne serverRoundTwo
        let masterSecret ←
          deriveMasterSecret C preMasterSecret handshake.clientRandom serverRandom
        let keyBlock ←
          deriveAes128Ccm8KeyBlock C masterSecret handshake.clientRandom serverRandom
        return { masterSecret, keyBlock }

/-- The client's Finished value over the current transcript. -/
def clientFinishedVerifyData (handshake : ThreadDtlsHandshake C) : Except Error Bytes := do
  let keyMaterial ← handshake.deriveKeyMaterial
  handshake.transcript.finishedVerifyData C keyMaterial.masterSecret .client

/-- Builds and records the client's Finished. -/
def buildClientFinished (messageSeq : UInt16) : Method C HandshakeMessage := do
  let handshake ← get
  let payload ← attempt id handshake.clientFinishedVerifyData
  let message : HandshakeMessage := { messageType := .finished, messageSeq, payload }
  record message
  return message

/-- Verifies and records the server's Finished. -/
def verifyServerFinished (message : HandshakeMessage) (keyMaterial : ThreadDtlsKeyMaterial) :
    Method C Unit := do
  if message.messageType ≠ .finished then throw (.crypto "expected Finished message")
  else
    let handshake ← get
    let expected ← attempt id
      (handshake.transcript.finishedVerifyData C keyMaterial.masterSecret .server)
    if expected ≠ message.payload then
      throw (.crypto "server Finished verify_data mismatch")
    else record message

/-! ## §2. What each method does to the transcript. -/

/-- `message` was appended to the transcript. -/
def Appended (message : HandshakeMessage) (h h' : ThreadDtlsHandshake C) : Prop :=
  h'.transcript.messages = h.transcript.messages ++ [message]

variable {message : HandshakeMessage}

theorem record_spec (h : ThreadDtlsHandshake C) :
    wp (record message) (fun _ h' => Appended message h h') (fun _ _ => True) h := by
  simp only [record, wp_bind, wp_get, wp_modify]
  refine wp_attempt_ok fun transcript htranscript => ?_
  exact HandshakeTranscript.push_eq_ok htranscript

theorem recordClientHello_spec (h : ThreadDtlsHandshake C) : wp (recordClientHello message)
      (fun _ h' => message.messageType = .clientHello ∧ Appended message h h')
      (fun _ _ => True) h := by
  unfold recordClientHello
  split
  · trivial
  · rename_i htype
    exact wp_mono_ok (record_spec h) (fun _ _ happ => ⟨not_not.mp htype, happ⟩)

theorem handleServerHello_spec (h : ThreadDtlsHandshake C) : wp (handleServerHello message)
      (fun _ h' => message.messageType = .serverHello ∧ Appended message h h')
      (fun _ _ => True) h := by
  unfold handleServerHello
  split
  · trivial
  rename_i htype
  simp only [wp_bind]
  refine wp_attempt_ok fun hello _ => ?_
  refine wp_attempt_ok fun _ _ => ?_
  split
  · trivial
  · simp only [wp_bind, wp_modify, wp_pure]
    refine wp_attempt_ok fun roundOne _ => ?_
    exact wp_mono_ok (record_spec _) (fun _ _ happ => ⟨not_not.mp htype, happ⟩)

theorem handleServerKeyExchange_spec (h : ThreadDtlsHandshake C) :
    wp (handleServerKeyExchange message)
      (fun _ h' => message.messageType = .serverKeyExchange ∧ Appended message h h')
      (fun _ _ => True) h := by
  unfold handleServerKeyExchange
  split
  · trivial
  · rename_i htype
    simp only [wp_bind, wp_modify, wp_pure]
    refine wp_attempt_ok fun roundTwo _ => ?_
    exact wp_mono_ok (record_spec _) (fun _ _ happ => ⟨not_not.mp htype, happ⟩)

theorem handleServerHelloDone_spec (h : ThreadDtlsHandshake C) : wp (handleServerHelloDone message)
      (fun _ h' => message.messageType = .serverHelloDone ∧ Appended message h h')
      (fun _ _ => True) h := by
  unfold handleServerHelloDone
  split
  · trivial
  rename_i htype
  have hdone : message.messageType = .serverHelloDone := by
    by_contra hne
    exact htype (Or.inl hne)
  exact wp_mono_ok (record_spec h) (fun _ _ happ => ⟨hdone, happ⟩)

theorem buildClientKeyExchange_spec (messageSeq : UInt16) (s : ThreadDtlsHandshake C × C.Rng) :
    wp (buildClientKeyExchange messageSeq)
      (fun message s' => message.messageType = .clientKeyExchange ∧ Appended message s.1 s'.1)
      (fun _ _ => True) s := by
  obtain ⟨h, rng⟩ := s
  simp only [buildClientKeyExchange, wp_bind, wp_get]
  split
  · trivial
  · simp only [wp_bind, wp_modify, wp_zoom, wp_pure]
    refine wp_attempt_ok fun roundTwo _ => ?_
    refine wp_attempt_ok fun payload _ => ?_
    exact wp_mono_ok (record_spec h) (fun _ _ happ => ⟨trivial, happ⟩)

theorem buildClientFinished_spec (messageSeq : UInt16) (h : ThreadDtlsHandshake C) :
    wp (buildClientFinished messageSeq)
      (fun message h' => message.messageType = .finished ∧ Appended message h h')
      (fun _ _ => True) h := by
  simp only [buildClientFinished, wp_bind, wp_get, wp_pure]
  refine wp_attempt_ok fun payload _ => ?_
  exact wp_mono_ok (record_spec h) (fun _ _ happ => ⟨trivial, happ⟩)

/-- An accepted server Finished carries the server's value over the client's transcript. -/
theorem verifyServerFinished_spec (keyMaterial : ThreadDtlsKeyMaterial)
    (h : ThreadDtlsHandshake C) : wp (verifyServerFinished message keyMaterial) (fun _ h' =>
        h.transcript.finishedVerifyData C keyMaterial.masterSecret .server = .ok message.payload ∧
        Appended message h h')
      (fun _ _ => True) h := by
  unfold verifyServerFinished
  split
  · trivial
  simp only [wp_bind, wp_get]
  refine wp_attempt_ok fun expected hexpected => ?_
  split
  · trivial
  · rename_i heq
    rw [not_not.mp heq] at hexpected
    exact wp_mono_ok (record_spec h) (fun _ _ happ => ⟨hexpected, happ⟩)

end ThreadDtlsHandshake

end Meshcop.Dtls
