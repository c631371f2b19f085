/-
  Meshcop.Dtls.ServerHandshake — the server side of the Thread DTLS handshake
  (`meshcop-dtls/src/thread_server_handshake.rs`).

  The handshake object takes complete messages in and hands complete messages out; every
  one of them is recorded in the transcript.  Each method may fail after it has changed the
  object, so the methods are computations whose state survives the failure.

  Main results: for each method, what it appends to the transcript and which of the values
  the keys are derived from it may change.
-/

import Meshcop.Dtls.Hello

namespace Meshcop.Dtls

open Lib

/-! ## §1. Cookies. -/

/-- Stateless HelloVerifyRequest cookies: an HMAC over the ClientHello random. -/
structure DtlsCookieGenerator where
  key : Bytes

def DTLS_COOKIE_LEN : Nat := 16

namespace DtlsCookieGenerator

variable (C : Crypto)

def new (rng : C.Rng) : DtlsCookieGenerator × C.Rng :=
  let (key, rng) := C.fillBytes 32 rng
  ({ key }, rng)

def cookie (generator : DtlsCookieGenerator) (clientRandom : Bytes) : Except Error Bytes :=
  match C.hmacSha256 generator.key clientRandom with
  | none => .error (.crypto "invalid cookie HMAC key")
  | some digest => .ok (digest.take DTLS_COOKIE_LEN)

def verify (generator : DtlsCookieGenerator) (clientRandom cookie : Bytes) : Bool :=
  match generator.cookie C clientRandom with
  | .ok expected => expected = cookie
  | .error _ => false

end DtlsCookieGenerator

/-! ## §2. The handshake object. -/

structure ThreadDtlsServerHandshake (C : Crypto) where
  ecjpake : C.Party
  serverRoundOne : C.RoundOne
  clientRoundOne : Option C.RoundOne
  clientRoundTwo : Option C.RoundTwo
  serverRandom : Bytes
  clientRandom : Option Bytes
  transcript : HandshakeTranscript

namespace ThreadDtlsServerHandshake

variable {C : Crypto}

def new (sharedSecret : Bytes) (rng : C.Rng) : ThreadDtlsServerHandshake C × C.Rng :=
  let (serverRandom, rng) := C.fillBytes 32 rng
  let (ecjpake, rng) := C.newThread .server sharedSecret rng
  let (serverRoundOne, rng) := C.roundOne ecjpake rng
  ({ ecjpake, serverRoundOne, clientRoundOne := none, clientRoundTwo := none, serverRandom
     clientRandom := none, transcript := HandshakeTranscript.new }, rng)

/-- Methods that change the handshake object. -/
abbrev Method (C : Crypto) := EStateM Error (ThreadDtlsServerHandshake C)

/-- Appends a message to the transcript. -/
def record (message : HandshakeMessage) : Method C Unit := do
  let handshake ← get
  let transcript ← attempt id (handshake.transcript.push message)
  modify fun handshake => { handshake with transcript }

/-- Validates and records the cookie-bearing ClientHello. -/
def handleClientHello (message : HandshakeMessage) : Method C ClientHello := do
  if message.messageType ≠ .clientHello then
    throw (.crypto "expected ClientHello message")
  else
    let hello ← attempt id (ClientHello.decode message.payload)
    if TLS_ECJPAKE_WITH_AES_128_CCM_8 ∉ hello.cipherSuites then
      throw (.crypto "ClientHello does not offer TLS_ECJPAKE_WITH_AES_128_CCM_8")
    else if TLS_COMPRESSION_NULL ∉ hello.compressionMethods then
      throw (.crypto "ClientHello does not offer null compression")
    else
      match hello.ecjpakeKkpp with
      | none => throw (.crypto "ClientHello missing ECJPAKE KKPP")
      | some kkpp =>
        let roundOne ← attempt id (C.decodeTlsKkpp kkpp THREAD_CLIENT_ID)
        modify fun handshake => { handshake with clientRoundOne := some roundOne
                                                 clientRandom := some hello.random }
        record message
        return hello

/-- Builds and records the ServerHello carrying the server's KKPP. -/
def buildServerHello (messageSeq : UInt16) : Method C HandshakeMessage := do
  let handshake ← get
  if handshake.clientRandom = none then
    throw (.invalidState "ClientHello has not been accepted")
  else
    let kkpp ← attempt id (C.encodeTlsKkpp handshake.serverRoundOne)
    let hello : ServerHello :=
      { random := handshake.serverRandom, sessionId := []
        cipherSuite := TLS_ECJPAKE_WITH_AES_128_CCM_8
        compressionMethod := TLS_COMPRESSION_NULL
        extensions := [{ extensionType := EXTENSION_ECJPAKE_KKPP, data := kkpp },
                       ecPointFormatsExtension] }
    let payload ← attempt id hello.encode
    let message : HandshakeMessage := { messageType := .serverHello, messageSeq, payload }
    record message
    return message

/-- Builds and records the ServerKeyExchange; the random source is advanced. -/
def buildServerKeyExchange (messageSeq : UInt16) :
    EStateM Error (ThreadDtlsServerHandshake C × C.Rng) HandshakeMessage := do
  let (handshake, rng) ← get
  match handshake.clientRoundOne with
  | none => throw (.invalidState "client ECJPAKE round one is missing")
  | some clientRoundOne =>
    let (roundTwo, rng) :=
      C.roundTwo handshake.ecjpake handshake.serverRoundOne clientRoundOne rng
    modify fun (handshake, _) => (handshake, rng)
    let serverRoundTwo ← attempt id roundTwo
    let payload ← attempt id (C.encodeTlsKeyExchange serverRoundTwo true)
    let message : HandshakeMessage := { messageType := .serverKeyExchange, messageSeq, payload }
    zoom Prod.fst (fun s handshake => (handshake, s.2)) id (record message)
    return message

/-- Builds and records the empty ServerHelloDone. -/
def buildServerHelloDone (messageSeq : UInt16) : Method C HandshakeMessage := do
  let message : HandshakeMessage := { messageType := .serverHelloDone, messageSeq, payload := [] }
  record message
  return message

/-- Parses and records the ClientKeyExchange. -/
def handleClientKeyExchange (message : HandshakeMessage) : Method C Unit := do
  if message.messageType ≠ .clientKeyExchange then
    throw (.crypto "expected ClientKeyExchange message")
  else
    let roundTwo ← attempt id (C.decodeTlsKeyExchange message.payload THREAD_CLIENT_ID false)
    modify fun handshake => { handshake with clientRoundTwo := some roundTwo }
    record message

/-- Derives the key material after the ClientKeyExchange was processed. -/
def deriveKeyMaterial (handshake : ThreadDtlsServerHandshake C) :
    Except Error ThreadDtlsKeyMaterial :=
  match handshake.clientRoundOne with
  | none => .error (.invalidState "client ECJPAKE round one is missing")
  | some clientRoundOne =>
    match handshake.clientRoundTwo with
    | none => .error (.invalidState "client ECJPAKE round two is missing")
    | some clientRoundTwo =>
      match handshake.clientRandom with
      | none => .error (.invalidState "client random is missing")
      | some clientRandom => do
        let preMasterSecret ←
          C.finish handshake.ecjpake handshake.serverRoundOne clientRoundOne clientRoundTwo
        let masterSecret ←
          deriveMasterSecret C preMasterSecret clientRandom handshake.serverRandom
        let keyBlock ←
          deriveAes128Ccm8KeyBlock C masterSecret clientRandom handshake.serverRandom
        return { masterSecret, keyBlock }

/-- Verifies and records the client's Finished. -/
def verifyClientFinished (message : HandshakeMessage) (keyMaterial : ThreadDtlsKeyMaterial) :
    Method C Unit := do
  if message.messageType ≠ .finished then
    throw (.crypto "expected Finished message")
  else
    let handshake ← get
    let expected ← attempt id
      (handshake.transcript.finishedVerifyData C keyMaterial.masterSecret .client)
    if expected ≠ message.payload then
      throw (.crypto "client Finished verify_data mismatch")
    else record message

/-- Builds and records the server's Finished. -/
def buildServerFinished (messageSeq : UInt16) (keyMaterial : ThreadDtlsKeyMaterial) :
    Method C HandshakeMessage := do
  let handshake ← get
  let payload ← attempt id
    (handshake.transcript.finishedVerifyData C keyMaterial.masterSecret .server)
  let message : HandshakeMessage := { messageType := .finished, messageSeq, payload }
  record message
  return message

/-- Derives the Joiner Router KEK of the session. -/
def deriveJoinerRouterKek (handshake : ThreadDtlsServerHandshake C)
    (keyMaterial : ThreadDtlsKeyMaterial) : Except Error Bytes :=
  match handshake.clientRandom with
  | none => .error (.invalidState "client random is missing")
  | some clientRandom =>
    Dtls.deriveJoinerRouterKek C keyMaterial.masterSecret clientRandom handshake.serverRandom

/-! ## §3. What each method does to the transcript and to the randoms. -/

/-- The two randoms the keys and the KEK are derived from are as before. -/
def SameRandoms (h h' : ThreadDtlsServerHandshake C) : Prop :=
  h'.serverRandom = h.serverRandom ∧ h'.clientRandom = h.clientRandom

/-- `message` was appended to the transcript, and the randoms are as before. -/
def Appended (message : HandshakeMessage) (h h' : ThreadDtlsServerHandshake C) : Prop :=
  h'.transcript.messages = h.transcript.messages ++ [message] ∧ SameRandoms h h'

variable {message : HandshakeMessage}

theorem record_spec (h : ThreadDtlsServerHandshake C) :
    wp (record message) (fun _ h' => Appended message h h') (fun _ h' => SameRandoms h h') h := by
  simp only [record, wp_bind, wp_get, wp_modify]
  refine wp_attempt.mpr ⟨fun transcript htranscript => ?_, fun _ _ => ⟨rfl, rfl⟩⟩
  exact ⟨HandshakeTranscript.push_eq_ok htranscript, rfl, rfl⟩

/-- The ClientHello is the one message that may change the client random. -/
theorem handleClientHello_spec (h : ThreadDtlsServerHandshake C) : wp (handleClientHello message)
      (fun _ h' => message.messageType = .clientHello ∧
        h'.transcript.messages = h.transcript.messages ++ [message])
      (fun _ _ => True) h := by
  unfold handleClientHello
  split
  · trivial
  rename_i htype
  simp only [wp_bind]
  refine wp_attempt_ok fun hello _ => ?_
  split
  · trivial
  split
  · trivial
  split
  · trivial
  · simp only [wp_bind, wp_modify, wp_pure]
    refine wp_attempt_ok fun roundOne _ => ?_
    refine wp_mono_ok (record_spec _) (fun _ h' happ => ?_)
    exact ⟨not_not.mp htype, happ.1⟩

theorem buildServerHello_spec (messageSeq : UInt16) (h : ThreadDtlsServerHandshake C) :
    wp (buildServerHello messageSeq)
      (fun message h' => message.messageType = .serverHello ∧ Appended message h h')
      (fun _ h' => SameRandoms h h') h := by
  simp only [buildServerHello, wp_bind, wp_get]
  split
  · exact ⟨rfl, rfl⟩
  · simp only [wp_bind, wp_pure]
    refine wp_attempt.mpr ⟨fun kkpp _ => ?_, fun _ _ => ⟨rfl, rfl⟩⟩
    refine wp_attempt.mpr ⟨fun payload _ => ?_, fun _ _ => ⟨rfl, rfl⟩⟩
    exact wp_imp (record_spec h) (fun _ _ happ => ⟨trivial, happ⟩)

theorem buildServerKeyExchange_spec (messageSeq : UInt16)
    (s : ThreadDtlsServerHandshake C × C.Rng) : wp (buildServerKeyExchange messageSeq)
      (fun message s' => message.messageType = .serverKeyExchange ∧ Appended message s.1 s'.1)
      (fun _ s' => SameRandoms s.1 s'.1) s := by
  obtain ⟨h, rng⟩ := s
  simp only [buildServerKeyExchange, wp_bind, wp_get]
  split
  · exact ⟨rfl, rfl⟩
  · simp only [wp_bind, wp_modify, wp_zoom, wp_pure]
    refine wp_attempt.mpr ⟨fun roundTwo _ => ?_, fun _ _ => ⟨rfl, rfl⟩⟩
    refine wp_attempt.mpr ⟨fun payload _ => ?_, fun _ _ => ⟨rfl, rfl⟩⟩
    exact wp_imp (record_spec h) (fun _ _ happ => ⟨trivial, happ⟩)

theorem buildServerHelloDone_spec (messageSeq : UInt16) (h : ThreadDtlsServerHandshake C) :
    wp (buildServerHelloDone messageSeq)
      (fun message h' => message.messageType = .serverHelloDone ∧ Appended message h h')
      (fun _ h' => SameRandoms h h') h := by
  simp only [buildServerHelloDone, wp_bind, wp_pure]
  exact wp_imp (record_spec h) (fun _ _ happ => ⟨trivial, happ⟩)

theorem handleClientKeyExchange_spec (h : ThreadDtlsServerHandshake C) :
    wp (handleClientKeyExchange message)
      (fun _ h' => message.messageType = .clientKeyExchange ∧ Appended message h h')
      (fun _ h' => SameRandoms h h') h := by
  unfold handleClientKeyExchange
  split
  · exact ⟨rfl, rfl⟩
  · rename_i htype
    simp only [wp_bind, wp_modify]
    refine wp_attempt.mpr ⟨fun roundTwo _ => ?_, fun _ _ => ⟨rfl, rfl⟩⟩
    exact wp_imp (record_spec _) (fun _ _ happ => ⟨not_not.mp htype, happ⟩)

theorem verifyClientFinished_spec (keyMaterial : ThreadDtlsKeyMaterial)
    (h : ThreadDtlsServerHandshake C) : wp (verifyClientFinished message keyMaterial)
      (fun _ h' => message.messageType = .finished ∧
        h.transcript.finishedVerifyData C keyMaterial.masterSecret .client = .ok message.payload ∧
        Appended message h h')
      (fun _ h' => SameRandoms h h') h := by
  unfold verifyClientFinished
  split
  · exact ⟨rfl, rfl⟩
  rename_i htype
  simp only [wp_bind, wp_get]
  refine wp_attempt.mpr ⟨fun expected hexpected => ?_, fun _ _ => ⟨rfl, rfl⟩⟩
  split
  · exact ⟨rfl, rfl⟩
  · rename_i heq
    rw [not_not.mp heq] at hexpected
    exact wp_imp (record_spec h) (fun _ _ happ => ⟨not_not.mp htype, hexpected, happ⟩)

/-- The server's Finished carries the server's value over the transcript it is appended to. -/
theorem buildServerFinished_spec (messageSeq : UInt16) (keyMaterial : ThreadDtlsKeyMaterial)
    (h : ThreadDtlsServerHandshake C) : wp (buildServerFinished messageSeq keyMaterial)
      (fun message h' => message.messageType = .finished ∧
        h.transcript.finishedVerifyData C keyMaterial.masterSecret .server = .ok message.payload ∧
        Appended message h h')
      (fun _ h' => SameRandoms h h') h := by
  simp only [buildServerFinished, wp_bind, wp_get, wp_pure]
  refine wp_attempt.mpr ⟨fun payload hpayload => ?_, fun _ _ => ⟨rfl, rfl⟩⟩
  exact wp_imp (record_spec h) (fun _ _ happ => ⟨trivial, hpayload, happ⟩)

end ThreadDtlsServerHandshake

end Meshcop.Dtls
