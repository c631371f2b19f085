/-
  Meshcop.Dtls.ServerDriver — the asynchronous DTLS server
  (`meshcop-dtls/src/server_driver.rs`).

  `accept` answers ClientHellos without a valid cookie statelessly, commits to the first one
  that carries it, sends the server's flight and waits for the client's key exchange and
  Finished.  `AcceptState` holds what the second wait changes.  After the handshake the
  session retransmits its Finished when the client repeats its own; `ServerOp` lists what a
  server session may be asked to do.
-/

import Meshcop.Dtls.ServerHandshake
import Meshcop.Dtls.Session
import Meshcop.Dtls.Transport

namespace Meshcop.Dtls

open Lib

def ALERT_LEVEL_FATAL : UInt8 := 2
def ALERT_HANDSHAKE_FAILURE : UInt8 := 40

section Accept

variable {C : Crypto} {E : Type}

/-! ## §1. The cookie exchange. -/

/-- The cookie-bearing ClientHello the server commits to. -/
structure CookieHello where
  localAddr : SocketAddr
  peer : SocketAddr
  clientHello : HandshakeMessage
  recordSequence : UInt64

/-- The state of the cookie exchange is the list of datagrams handed to the transport. -/
abbrev CookieM (E : Type) := EStateM (Halt E) (List Bytes)

/-- Answers one ClientHello without a valid cookie. -/
def sendHelloVerify (C : Crypto) (sendFails : Nat → Option E) (cookies : DtlsCookieGenerator)
    (message : HandshakeMessage) (hello : ClientHello) (recordSequence : UInt64) :
    CookieM E Unit := do
  let cookie ← attempt Halt.protocol (cookies.cookie C hello.random)
  let payload ← attempt Halt.protocol
    ({ serverVersion := DTLS_1_2_VERSION, cookie : HelloVerifyRequest }).encode
  let body ← attempt Halt.protocol
    ({ messageType := .helloVerifyRequest, messageSeq := message.messageSeq, payload
       : HandshakeMessage }).encode
  let record ← attempt Halt.protocol (DtlsRecord.new .handshake 0 recordSequence body)
  sendRecords sendFails [record]

/-- One record's messages: the first ClientHello with a valid cookie. -/
def cookieMessages (C : Crypto) (sendFails : Nat → Option E) (cookies : DtlsCookieGenerator)
    (recordSequence : UInt64) : List HandshakeMessage → CookieM E (Option HandshakeMessage)
  | [] => return none
  | message :: messages =>
    if message.messageType ≠ .clientHello then
      cookieMessages C sendFails cookies recordSequence messages
    else
      match ClientHello.decode message.payload with
      | .error _ => cookieMessages C sendFails cookies recordSequence messages
      | .ok hello =>
        if cookies.verify C hello.random hello.cookie then return some message
        else do
          sendHelloVerify C sendFails cookies message hello recordSequence
          cookieMessages C sendFails cookies recordSequence messages

/-- One datagram's records. -/
def cookieRecords (C : Crypto) (sendFails : Nat → Option E) (cookies : DtlsCookieGenerator) :
    List DtlsRecord → CookieM E (Option (HandshakeMessage × UInt64))
  | [] => return none
  | record :: records =>
    if record.header.epoch ≠ 0 ∨ record.header.contentType ≠ .handshake then
      cookieRecords C sendFails cookies records
    else
      match parseUnfragmentedHandshakeMessages record with
      | .error _ => cookieRecords C sendFails cookies records
      | .ok messages => do
        let accepted ←
          cookieMessages C sendFails cookies record.header.sequenceNumber messages
        match accepted with
        | some message => return some (message, record.header.sequenceNumber)
        | none => cookieRecords C sendFails cookies records

/-- Runs until a ClientHello with a valid cookie arrives, from anyone. -/
def awaitCookieHello (C : Crypto) (sendFails : Nat → Option E) (cookies : DtlsCookieGenerator) :
    List (Input E) → CookieM E (CookieHello × List (Input E))
  | [] => throw .pending
  | .expired :: inputs => awaitCookieHello C sendFails cookies inputs
  | .failed error :: _ => throw (.failed (.transport error))
  | .deadline :: _ => throw (.failed .timeout)
  | .datagram localAddr remote bytes :: inputs =>
    match parsedDatagram none remote bytes with
    | none => awaitCookieHello C sendFails cookies inputs
    | some records => do
      let accepted ← cookieRecords C sendFails cookies records
      match accepted with
      | some (clientHello, recordSequence) =>
        return ({ localAddr, peer := remote, clientHello, recordSequence }, inputs)
      | none => awaitCookieHello C sendFails cookies inputs

/-! ## §2. The wait for the client's flight. -/

structure AcceptState (C : Crypto) where
  rng : C.Rng
  handshake : ThreadDtlsServerHandshake C
  nextEpochZeroRecord : UInt64
  serverFlight : List DtlsRecord
  sawChangeCipherSpec : Bool
  keyMaterial : Option ThreadDtlsKeyMaterial
  clientKeyExchange : Option HandshakeMessage
  /-- The session, once the client's Finished is verified. -/
  session : Option SessionState
  /-- Datagrams handed to the transport. -/
  sent : List Bytes

/-- What `accept` returns. -/
structure Accepted where
  localAddr : SocketAddr
  peer : SocketAddr
  state : SessionState
  serverFinished : Bytes
  nextEpochZeroRecord : UInt64

abbrev AcceptM (C : Crypto) (E : Type) := EStateM (Halt E) (AcceptState C)

def onServerHandshake {α : Type} (m : ThreadDtlsServerHandshake.Method C α) : AcceptM C E α :=
  zoom AcceptState.handshake (fun server handshake => { server with handshake }) Halt.protocol m

def sendServer (sendFails : Nat → Option E) (records : List DtlsRecord) : AcceptM C E Unit :=
  zoom AcceptState.sent (fun server sent => { server with sent }) id
    (sendRecords sendFails records)

/-- Gives the flight fresh epoch-0 numbers and sends it. -/
def resendServerFlight (sendFails : Nat → Option E) : AcceptM C E Unit := do
  modify fun server =>
    let (serverFlight, nextEpochZeroRecord) :=
      renumberEpochZeroFlight server.serverFlight server.nextEpochZeroRecord
    { server with serverFlight, nextEpochZeroRecord }
  let server ← get
  sendServer sendFails server.serverFlight

/-- The epoch-0 records of the flight's messages, numbered from the current counter. -/
def serverFlightOf : List HandshakeMessage → AcceptM C E Unit
  | [] => return ()
  | message :: messages => do
    let body ← attempt Halt.protocol message.encode
    let server ← get
    let record ← attempt Halt.protocol
      (DtlsRecord.new .handshake 0 server.nextEpochZeroRecord body)
    modify fun server => { server with serverFlight := server.serverFlight ++ [record]
                                       nextEpochZeroRecord := server.nextEpochZeroRecord + 1 }
    serverFlightOf messages

def containsClientHello (records : List DtlsRecord) (expected : HandshakeMessage) : Bool :=
  records.any fun record =>
    record.header.epoch = 0 && record.header.contentType = .handshake &&
      match parseUnfragmentedHandshakeMessages record with
      | .ok messages => messages.any (fun message => message = expected)
      | .error _ => false

/-- A plaintext handshake record's messages: a new ClientKeyExchange renews the keys. -/
def keyExchangeMessages : List HandshakeMessage → AcceptM C E Unit
  | [] => return ()
  | message :: messages =>
    if message.messageType ≠ .clientKeyExchange then keyExchangeMessages messages
    else do
      let server ← get
      if server.clientKeyExchange = some message then keyExchangeMessages messages
      else
        onServerHandshake (ThreadDtlsServerHandshake.handleClientKeyExchange message)
        let server ← get
        let keyMaterial ← attempt Halt.protocol server.handshake.deriveKeyMaterial
        modify fun server => { server with keyMaterial := some keyMaterial
                                           clientKeyExchange := some message }
        keyExchangeMessages messages

def sendFatalHandshakeAlert (sendFails : Nat → Option E) : AcceptM C E Unit := do
  let server ← get
  let alert ← attempt Halt.protocol
    (DtlsRecord.new .alert 0 server.nextEpochZeroRecord
      [ALERT_LEVEL_FATAL, ALERT_HANDSHAKE_FAILURE])
  sendServer sendFails [alert]

/-- ChangeCipherSpec and a freshly sealed Finished, over the session and the epoch-0 counter. -/
def buildServerFinishedFlight (C : Crypto) (serverFinished : Bytes) :
    EStateM Error (SessionState × UInt64) (List DtlsRecord) := do
  let (_, next) ← get
  let (sequenceNumber, next) := takeRecordSequence next
  modify fun (session, _) => (session, next)
  let changeCipherSpec ← attempt id (DtlsRecord.new .changeCipherSpec 0 sequenceNumber [1])
  let finished ← zoom Prod.fst (fun s session => (session, s.2)) id
    (SessionState.protectRecord C .handshake serverFinished)
  return [changeCipherSpec, finished]

/-- Runs the first flight of a session created now, and keeps the session. -/
def withServerSession {α : Type} (session : SessionState)
    (m : EStateM Error (SessionState × UInt64) α) : AcceptM C E α :=
  zoom (fun server => (session, server.nextEpochZeroRecord))
    (fun server s => { server with session := some s.1, nextEpochZeroRecord := s.2 })
    Halt.protocol m

/-- A protected handshake record after the client's ChangeCipherSpec: its Finished completes
    the handshake; one that does not open or does not verify ends it with an alert. -/
def finishAccept (sendFails : Nat → Option E) (hello : CookieHello) (record : DtlsRecord)
    (keys : ThreadDtlsKeyMaterial) : AcceptM C E Accepted := do
  match openAes128Ccm8Record C record keys.keyBlock.clientWriteKey keys.keyBlock.clientWriteIv with
  | .error error =>
    sendFatalHandshakeAlert sendFails
    throw (.protocol error)
  | .ok plaintext =>
    let plainRecord ← attempt Halt.protocol (DtlsRecord.new .handshake 1 0 plaintext)
    let finished ← attempt Halt.protocol (parseUnfragmentedHandshakeRecord plainRecord .finished)
    let verified ← caught (ε := Halt E)
      (onServerHandshake (ThreadDtlsServerHandshake.verifyClientFinished finished keys))
    match verified with
    | .error error =>
      sendFatalHandshakeAlert sendFails
      throw error
    | .ok _ =>
      let serverFinished ← onServerHandshake
        (ThreadDtlsServerHandshake.buildServerFinished (hello.clientHello.messageSeq + 3) keys)
      let serverFinished ← attempt Halt.protocol serverFinished.encode
      let flight ← withServerSession (SessionState.duringHandshake keys .server)
        (buildServerFinishedFlight C serverFinished)
      sendServer sendFails flight
      let server ← get
      match server.session with
      | none => throw (.protocol (.invalidState "client key material is missing"))
      | some state =>
        return { localAddr := hello.localAddr, peer := hello.peer, state, serverFinished
                 nextEpochZeroRecord := server.nextEpochZeroRecord }

/-- One datagram's records. -/
def acceptRecords (sendFails : Nat → Option E) (hello : CookieHello) :
    List DtlsRecord → AcceptM C E (Option Accepted)
  | [] => return none
  | record :: records => do
    if record.header.epoch = 0 then
      match record.header.contentType with
      | .handshake =>
        match parseUnfragmentedHandshakeMessages record with
        | .error _ => acceptRecords sendFails hello records
        | .ok messages =>
          keyExchangeMessages messages
          acceptRecords sendFails hello records
      | .changeCipherSpec =>
        if record.payload ≠ [1] then
          throw (.protocol (.crypto "invalid ChangeCipherSpec payload"))
        else
          modify fun server => { server with sawChangeCipherSpec := true }
          acceptRecords sendFails hello records
      | .alert => throw (.protocol (decodeAlertError record.header record.payload))
      | _ => acceptRecords sendFails hello records
    else if record.header.epoch = 1 ∧ record.header.contentType = .handshake then
      let server ← get
      if !server.sawChangeCipherSpec then acceptRecords sendFails hello records
      else
        -- without the ClientKeyExchange the record cannot be authenticated yet
        match server.keyMaterial with
        | none => acceptRecords sendFails hello records
        | some keys =>
          let accepted ← finishAccept sendFails hello record keys
          return some accepted
    else acceptRecords sendFails hello records

/-- Runs until the client's Finished is accepted. -/
def awaitClientFlight (sendFails : Nat → Option E) (hello : CookieHello) :
    List (Input E) → DuplicateRetransmitBudget → AcceptM C E Accepted
  | [], _ => throw .pending
  | .expired :: inputs, budget => do
    resendServerFlight sendFails
    awaitClientFlight sendFails hello inputs budget
  | .failed error :: _, _ => throw (.failed (.transport error))
  | .deadline :: _, _ => throw (.failed .timeout)
  | .datagram _ remote bytes :: inputs, budget =>
    match parsedDatagram (some hello.peer) remote bytes with
    | none => awaitClientFlight sendFails hello inputs budget
    | some records =>
      if containsClientHello records hello.clientHello then
        let (allowed, budget) := budget.take
        if allowed then do
          resendServerFlight sendFails
          awaitClientFlight sendFails hello inputs budget
        else awaitClientFlight sendFails hello inputs budget
      else do
        let accepted ← acceptRecords sendFails hello records
        match accepted with
        | some accepted => return accepted
        | none => awaitClientFlight sendFails hello inputs budget

/-! ## §3. The whole handshake. -/

/-- The state after the cookie exchange, before the ClientHello is handled. -/
def AcceptState.start (pskc : Bytes) (rng : C.Rng) (hello : CookieHello) (sent : List Bytes) :
    AcceptState C :=
  let (handshake, rng) := ThreadDtlsServerHandshake.new pskc rng
  { rng, handshake, nextEpochZeroRecord := hello.recordSequence, serverFlight := []
    sawChangeCipherSpec := false, keyMaterial := none, clientKeyExchange := none
    session := none, sent }

/-- The handshake from the committed ClientHello on. -/
def acceptHello (sendFails : Nat → Option E) (hello : CookieHello) (inputs : List (Input E)) :
    AcceptM C E Accepted := do
  let _ ← onServerHandshake (ThreadDtlsServerHandshake.handleClientHello hello.clientHello)
  let sequence := hello.clientHello.messageSeq
  let serverHello ← onServerHandshake (ThreadDtlsServerHandshake.buildServerHello sequence)
  let keyExchange ←
    zoom (fun server => (server.handshake, server.rng))
      (fun server s => { server with handshake := s.1, rng := s.2 }) Halt.protocol
      (ThreadDtlsServerHandshake.buildServerKeyExchange (sequence + 1))
  let helloDone ←
    onServerHandshake (ThreadDtlsServerHandshake.buildServerHelloDone (sequence + 2))
  serverFlightOf [serverHello, keyExchange, helloDone]
  let server ← get
  sendServer sendFails server.serverFlight
  awaitClientFlight sendFails hello inputs DuplicateRetransmitBudget.new

/-- How far an acceptor got: still in the cookie exchange, or committed to a peer. -/
inductive AcceptRun (C : Crypto) (E : Type) where
  | cookies (halt : Halt E)
  | committed (hello : CookieHello)
      (result : EStateM.Result (Halt E) (AcceptState C) Accepted)

/-- Runs an acceptor against the events it meets. -/
def acceptInner (sendFails : Nat → Option E) (pskc : Bytes) (rng : C.Rng)
    (inputs : List (Input E)) : AcceptRun C E :=
  let (cookies, rng) := DtlsCookieGenerator.new C rng
  match awaitCookieHello C sendFails cookies inputs [] with
  | .error halt _ => .cookies halt
  | .ok (hello, inputs) sent =>
    .committed hello
      (acceptHello sendFails hello inputs (AcceptState.start pskc rng hello sent))

/-- Where a committed acceptor's result comes from. -/
theorem acceptInner_committed {sendFails : Nat → Option E} {pskc : Bytes} {rng : C.Rng}
    {inputs : List (Input E)} {hello : CookieHello}
    {result : EStateM.Result (Halt E) (AcceptState C) Accepted}
    (h : acceptInner sendFails pskc rng inputs = .committed hello result) :
    ∃ (rng : C.Rng) (inputs : List (Input E)) (sent : List Bytes),
      acceptHello sendFails hello inputs (AcceptState.start pskc rng hello sent) = result := by
  unfold acceptInner at h
  dsimp only at h
  split at h
  · cases h
  · cases h
    exact ⟨_, _, _, rfl⟩

/-! ## §4. The established session. -/

structure DtlsServerSession where
  state : SessionState
  serverFinished : Bytes
  nextEpochZeroRecord : UInt64
  sent : List Bytes

/-- What a server session may be asked to do. -/
inductive ServerOp (E : Type) where
  /-- `send_application_data`. -/
  | send (plaintext : Bytes)
  /-- `recv_application_data`, run against the events it meets. -/
  | recv (inputs : List (Input E))

namespace DtlsServerSession

variable (C)

def sendSession (sendFails : Nat → Option E) (records : List DtlsRecord) :
    EStateM (Halt E) DtlsServerSession Unit :=
  zoom sent (fun session sent => { session with sent }) id (sendRecords sendFails records)

def sendApplicationData (sendFails : Nat → Option E) (plaintext : Bytes) :
    EStateM (Halt E) DtlsServerSession Unit := do
  let record ← zoom state (fun session state => { session with state }) Halt.protocol
    (SessionState.protectApplicationData C plaintext)
  sendSession sendFails [record]

/-- Whether a datagram asks for the Finished again, and the budget after it. -/
def takeServerFinishedRetry (serverFinished : Bytes) (records : List DtlsRecord)
    (budget : DuplicateRetransmitBudget) : Bool × DuplicateRetransmitBudget :=
  if serverFinished ≠ [] ∧ isClientFinishedFlight records then budget.take else (false, budget)

/-- Rebuilds and sends the Finished flight. -/
def resendServerFinished (sendFails : Nat → Option E) : EStateM (Halt E) DtlsServerSession Unit := do
  let session ← get
  let flight ← zoom (fun session => (session.state, session.nextEpochZeroRecord))
    (fun session s => { session with state := s.1, nextEpochZeroRecord := s.2 }) Halt.protocol
    (buildServerFinishedFlight C session.serverFinished)
  sendSession sendFails flight

/-- One turn of the receive loop: a usable queued record ends it, and proves that the client
    has the Finished; otherwise `wait` runs. -/
def openOr (wait : EStateM (Halt E) DtlsServerSession Bytes) :
    EStateM (Halt E) DtlsServerSession Bytes := do
  let session ← get
  let (result, state) := SessionState.openNextRecord C session.state
  modify fun session => { session with state }
  match result with
  | some result =>
    modify fun session => { session with serverFinished := [] }
    attempt Halt.protocol result
  | none => wait

/-- Waits for the next protected application-data record. -/
def recvApplicationData (sendFails : Nat → Option E) (peer : SocketAddr) :
    List (Input E) → DuplicateRetransmitBudget → EStateM (Halt E) DtlsServerSession Bytes
  | [], _ => openOr C (throw .pending)
  | .expired :: inputs, budget => openOr C (recvApplicationData sendFails peer inputs budget)
  | .failed error :: _, _ => openOr C (throw (.failed (.transport error)))
  | .deadline :: _, _ => openOr C (throw (.failed .timeout))
  | .datagram _ remote bytes :: inputs, budget =>
    openOr C <|
      match parsedDatagram (some peer) remote bytes with
      | none => recvApplicationData sendFails peer inputs budget
      | some records => do
        let session ← get
        let (allowed, budget) := takeServerFinishedRetry session.serverFinished records budget
        onlyIf allowed (resendServerFinished C sendFails)
        modify fun session =>
          { session with state := session.state.receiveDatagram records }
        recvApplicationData sendFails peer inputs budget

/-- One operation; a failed one leaves the session usable. -/
def perform (sendFails : Nat → Option E) (peer : SocketAddr) :
    ServerOp E → EStateM (Halt E) DtlsServerSession Unit
  | .send plaintext => sendApplicationData C sendFails plaintext
  | .recv inputs => do
    let _ ← recvApplicationData C sendFails peer inputs DuplicateRetransmitBudget.new
    return ()

/-- The session an acceptor hands over. -/
def ofAccepted (accepted : Accepted) (sent : List Bytes) : DtlsServerSession :=
  { state := accepted.state, serverFinished := accepted.serverFinished
    nextEpochZeroRecord := accepted.nextEpochZeroRecord, sent }

/-- A session after a sequence of operations, each of which may have failed. -/
def runOps (sendFails : Nat → Option E) (peer : SocketAddr) (session : DtlsServerSession)
    (ops : List (ServerOp E)) : DtlsServerSession :=
  ops.foldl (fun session op => after (perform C sendFails peer op) session) session

end DtlsServerSession

/-! ## §5. What the sending steps leave alone. -/

section Frame

-- a property of the handshake object, the keys and the session alone
variable {P : ThreadDtlsServerHandshake C → Option ThreadDtlsKeyMaterial → Option SessionState → Prop}

theorem sendServer_frame (sendFails : Nat → Option E) (records : List DtlsRecord) :
    Keeps (fun server => P server.handshake server.keyMaterial server.session)
      (sendServer sendFails records) :=
  keeps_zoom fun _ _ h => h

theorem resendServerFlight_frame (sendFails : Nat → Option E) :
    Keeps (fun server => P server.handshake server.keyMaterial server.session)
      (resendServerFlight sendFails) :=
  keeps_bind (keeps_modify fun _ h => h) fun _ => keeps_bind keeps_get fun _ =>
    sendServer_frame sendFails _

theorem serverFlightOf_frame (messages : List HandshakeMessage) :
    Keeps (fun server => P server.handshake server.keyMaterial server.session)
      (serverFlightOf (E := E) messages) := by
  induction messages with
  | nil => exact keeps_pure _
  | cons message messages ih =>
    exact keeps_bind (keeps_attempt _ _) fun _ => keeps_bind keeps_get fun _ =>
      keeps_bind (keeps_attempt _ _) fun _ => keeps_bind (keeps_modify fun _ h => h) fun _ => ih

theorem sendFatalHandshakeAlert_frame (sendFails : Nat → Option E) :
    Keeps (fun server => P server.handshake server.keyMaterial server.session)
      (sendFatalHandshakeAlert sendFails) :=
  keeps_bind keeps_get fun _ => keeps_bind (keeps_attempt _ _) fun _ =>
    sendServer_frame sendFails _

end Frame

/-! ## §6. The rule for the wait. -/

/-- What the steps of the wait for the client's flight have to do for `I` to hold throughout it,
    `Q` of what it returns, and `F` wherever it fails. -/
structure AwaitRule (sendFails : Nat → Option E) (hello : CookieHello) (I F : AcceptState C → Prop)
    (Q : Accepted → AcceptState C → Prop) : Prop where
  fails : ∀ server, I server → F server
  changes : ∀ server, I server → I { server with sawChangeCipherSpec := true }
  remembers : ∀ server keyMaterial clientKeyExchange, I server →
    I { server with keyMaterial, clientKeyExchange }
  resends : ∀ server, I server →
    wp (resendServerFlight sendFails) (fun _ server' => I server') (fun _ server' => F server') server
  exchanges : ∀ message server, I server →
    wp (onServerHandshake (E := E) (ThreadDtlsServerHandshake.handleClientKeyExchange message))
      (fun _ server' => I server') (fun _ server' => F server') server
  finishes : ∀ record keys server, I server →
    wp (finishAccept sendFails hello record keys) (fun accepted server' => Q accepted server')
      (fun _ server' => F server') server

namespace AwaitRule

variable {sendFails : Nat → Option E} {hello : CookieHello} {I F : AcceptState C → Prop}
  {Q : Accepted → AcceptState C → Prop}

theorem keyExchangeMessages (rule : AwaitRule sendFails hello I F Q)
    (messages : List HandshakeMessage) (server : AcceptState C) (h : I server) :
    wp (keyExchangeMessages (E := E) messages) (fun _ server' => I server')
      (fun _ server' => F server') server := by
  induction messages generalizing server with
  | nil => exact h
  | cons message messages ih =>
    unfold Dtls.keyExchangeMessages
    split
    · exact ih server h
    rw [wp_bind, wp_get]
    split
    · exact ih server h
    · refine wp_seq (rule.exchanges message server h) (fun _ server' h' => ?_)
      simp only [wp_bind, wp_get, wp_modify]
      exact wp_attempt.mpr ⟨fun keyMaterial _ => ih _ (rule.remembers server' _ _ h'),
        fun _ _ => rule.fails server' h'⟩

theorem acceptRecords (rule : AwaitRule sendFails hello I F Q) (records : List DtlsRecord)
    (server : AcceptState C) (h : I server) : wp (acceptRecords sendFails hello records)
      (fun result server' => match result with
        | none => I server'
        | some accepted => Q accepted server')
      (fun _ server' => F server') server := by
  induction records generalizing server with
  | nil => exact h
  | cons record records ih =>
    unfold Dtls.acceptRecords
    split
    · split
      · split
        · exact ih server h
        · exact wp_seq (rule.keyExchangeMessages _ server h) (fun _ server h => ih server h)
      · split
        · exact rule.fails server h
        · rw [wp_bind, wp_modify]
          exact ih _ (rule.changes server h)
      · exact rule.fails server h
      · exact ih server h
    · split
      · rw [wp_bind, wp_get]
        split
        · exact ih server h
        · split
          · exact ih server h
          · exact wp_seq (rule.finishes record _ server h) (fun _ _ h => h)
      · exact ih server h

/-- **The rule**, by induction on the events that are left. -/
theorem awaitClientFlight (rule : AwaitRule sendFails hello I F Q) (inputs : List (Input E))
    (budget : DuplicateRetransmitBudget) (server : AcceptState C) (h : I server) :
    wp (awaitClientFlight sendFails hello inputs budget)
      (fun accepted server' => Q accepted server') (fun _ server' => F server') server := by
  induction inputs generalizing budget server with
  | nil => exact rule.fails server h
  | cons input inputs ih =>
    -- the flight again, and then the rest of the wait
    have hagain : ∀ budget server, I server →
        wp (do resendServerFlight sendFails; Dtls.awaitClientFlight sendFails hello inputs budget)
          (fun accepted server' => Q accepted server') (fun _ server' => F server') server := by
      intro budget server h
      exact wp_seq (rule.resends server h) (fun _ server h => ih budget server h)
    cases input with
    | expired => exact hagain budget server h
    | failed error => exact rule.fails server h
    | deadline => exact rule.fails server h
    | datagram localAddr remote bytes =>
      unfold Dtls.awaitClientFlight
      split
      · exact ih budget server h
      split
      · dsimp only
        split
        · exact hagain _ server h
        · exact ih _ server h
      · refine wp_seq (rule.acceptRecords _ server h) (fun result server h => ?_)
        split
        · exact h
        · exact ih budget server h

end AwaitRule

end Accept

end Meshcop.Dtls
