/-
  Meshcop.Dtls.ClientDriver — the asynchronous DTLS client
  (`meshcop-dtls/src/client_driver.rs`).

  `connectInner` runs the handshake: ClientHello, the cookie exchange, the wait for the
  server's flight, ClientKeyExchange and Finished, the wait for the server's Finished.  Each
  wait is a loop over the events of `Transport`, and inside it loops over the records of a
  datagram and the messages of a record.  Everything the future keeps across an await is in
  `ClientState`; a wait's own variables are its arguments.

  After the handshake, `ClientOp` lists what a client session may be asked to do.
-/

import Meshcop.Dtls.ClientHandshake
import Meshcop.Dtls.Session
import Meshcop.Dtls.Transport

namespace Meshcop.Dtls

open Lib

/-! ## §1. State. -/

structure ClientState (C : Crypto) where
  rng : C.Rng
  handshake : ThreadDtlsHandshake C
  helloState : DtlsClientHelloState
  nextEpochZeroRecord : UInt64
  /-- The flight that is retransmitted while waiting. -/
  clientFlight : List DtlsRecord
  /-- The session, once the keys are derived. -/
  session : Option SessionState
  /-- Datagrams handed to the transport. -/
  sent : List Bytes

/-- What stays fixed during one connection attempt: the server's address and the transport's
    answers to the sends. -/
structure ClientSetup (E : Type) where
  peer : SocketAddr
  sendFails : Nat → Option E

section Connect

variable {C : Crypto} {E : Type}

/-- The state before the first ClientHello is built. -/
def ClientState.start (pskc : Bytes) (rng : C.Rng) : Except Error (ClientState C) := do
  let (handshake, rng) := ThreadDtlsHandshake.new pskc rng
  let helloState ← handshake.clientHelloState
  return { rng, handshake, helloState, nextEpochZeroRecord := 0, clientFlight := []
           session := none, sent := [] }

abbrev ClientM (C : Crypto) (E : Type) := EStateM (Halt E) (ClientState C)

def onHandshake {α : Type} (m : ThreadDtlsHandshake.Method C α) : ClientM C E α :=
  zoom ClientState.handshake (fun client handshake => { client with handshake }) Halt.protocol m

def onHelloState {α : Type} (m : EStateM Error DtlsClientHelloState α) : ClientM C E α :=
  zoom ClientState.helloState (fun client helloState => { client with helloState }) Halt.protocol m

/-- Gives the current flight fresh epoch-0 numbers. -/
def renumberClientFlight : ClientM C E Unit :=
  modify fun client =>
    let (clientFlight, nextEpochZeroRecord) :=
      renumberEpochZeroFlight client.clientFlight client.nextEpochZeroRecord
    { client with clientFlight, nextEpochZeroRecord }

/-- Sends the current flight. -/
def sendClientFlight (setup : ClientSetup E) : ClientM C E Unit := do
  let client ← get
  zoom ClientState.sent (fun client sent => { client with sent }) id
    (sendRecords setup.sendFails client.clientFlight)

/-- Builds the next ClientHello as the current flight. -/
def nextClientHelloFlight : ClientM C E Unit := do
  let record ← onHelloState DtlsClientHelloState.nextClientHelloRecord
  modify fun client => { client with clientFlight := [record] }
  renumberClientFlight

/-- The ClientHello message of the current flight. -/
def clientHelloOfFlight : ClientM C E HandshakeMessage := do
  let client ← get
  match client.clientFlight with
  | [] => throw (.protocol (.invalidState "client flight is empty"))
  | first :: _ => attempt Halt.protocol (parseUnfragmentedHandshakeRecord first .clientHello)

/-! ## §2. Waiting for the HelloVerifyRequest. -/

/-- One datagram's records: whether a HelloVerifyRequest was taken up. -/
def helloVerifyRecords : List DtlsRecord → ClientM C E Bool
  | [] => return false
  | record :: records =>
    match record.header.contentType with
    | .handshake =>
      match parseUnfragmentedHandshakeMessages record with
      | .error _ => helloVerifyRecords records
      | .ok messages =>
        if messages.any (fun message => message.messageType = .helloVerifyRequest) then do
          let _ ← onHelloState (DtlsClientHelloState.handleHelloVerifyRequest record)
          return true
        else helloVerifyRecords records
    | .alert => throw (.protocol (decodeAlertError record.header record.payload))
    | _ => helloVerifyRecords records

/-- Runs until a HelloVerifyRequest was taken up; returns the events that are left. -/
def waitForHelloVerify (setup : ClientSetup E) : List (Input E) → ClientM C E (List (Input E))
  | [] => throw .pending
  | .expired :: inputs => do
    renumberClientFlight
    sendClientFlight setup
    waitForHelloVerify setup inputs
  | .failed error :: _ => throw (.failed (.transport error))
  | .deadline :: _ => throw (.failed .timeout)
  | .datagram _ remote bytes :: inputs =>
    match parsedDatagram (some setup.peer) remote bytes with
    | none => waitForHelloVerify setup inputs
    | some records => do
      let found ← helloVerifyRecords records
      if found then return inputs else waitForHelloVerify setup inputs

/-! ## §3. Waiting for the server's flight. -/

/-- The variables of the wait for ServerHello, ServerKeyExchange and ServerHelloDone. -/
structure FlightWait where
  clientHelloMessage : HandshakeMessage
  duplicateRetransmissions : DuplicateRetransmitBudget
  recordedClientHello : Bool
  serverFlight : List HandshakeMessage

/-- How a loop over messages or records ends: go on with what follows, leave the datagram
    and receive again, or return from the wait. -/
inductive Turn where
  | proceed
  | receive
  | done
  deriving DecidableEq, Repr

/-- One record's messages. -/
def serverFlightMessages (setup : ClientSetup E) (record : DtlsRecord) :
    List HandshakeMessage → FlightWait → ClientM C E (Turn × FlightWait)
  | [], wait => return (.proceed, wait)
  | message :: messages, wait =>
    if message ∈ wait.serverFlight then serverFlightMessages setup record messages wait
    else
      match message.messageType with
      | .serverHello => do
        onlyIf (!wait.recordedClientHello)
          (onHandshake (ThreadDtlsHandshake.recordClientHello wait.clientHelloMessage))
        let _ ← onHandshake (ThreadDtlsHandshake.handleServerHello message)
        serverFlightMessages setup record messages
          { wait with recordedClientHello := true
                      serverFlight := wait.serverFlight ++ [message] }
      | .serverKeyExchange =>
        if !wait.recordedClientHello then serverFlightMessages setup record messages wait
        else do
          let _ ← onHandshake (ThreadDtlsHandshake.handleServerKeyExchange message)
          serverFlightMessages setup record messages
            { wait with serverFlight := wait.serverFlight ++ [message] }
      | .serverHelloDone =>
        let hasServerKeyExchange :=
          wait.serverFlight.any (fun message => message.messageType = .serverKeyExchange)
        if !wait.recordedClientHello || !hasServerKeyExchange then
          serverFlightMessages setup record messages wait
        else do
          onHandshake (ThreadDtlsHandshake.handleServerHelloDone message)
          return (.done, { wait with serverFlight := wait.serverFlight ++ [message] })
      | .helloVerifyRequest =>
        -- after a ServerHello a reordered HelloVerifyRequest is stale
        if wait.recordedClientHello then serverFlightMessages setup record messages wait
        else
          let (allowed, duplicateRetransmissions) := wait.duplicateRetransmissions.take
          let wait := { wait with duplicateRetransmissions }
          if !allowed then serverFlightMessages setup record messages wait
          else do
            let taken ← caught (ε := Halt E)
              (onHelloState (DtlsClientHelloState.handleHelloVerifyRequest record))
            match taken with
            | .ok _ =>
              nextClientHelloFlight
              let clientHelloMessage ← clientHelloOfFlight
              sendClientFlight setup
              return (.receive, { wait with clientHelloMessage })
            | .error _ =>
              renumberClientFlight
              sendClientFlight setup
              return (.receive, wait)
      | type => throw (.protocol (.crypto ("unexpected DTLS handshake message " ++ type.debug)))

/-- One datagram's records. -/
def serverFlightRecords (setup : ClientSetup E) :
    List DtlsRecord → FlightWait → ClientM C E (Turn × FlightWait)
  | [], wait => return (.proceed, wait)
  | record :: records, wait =>
    match record.header.contentType with
    | .handshake =>
      match parseUnfragmentedHandshakeMessages record with
      | .error _ => serverFlightRecords setup records wait
      | .ok messages => do
        let (turn, wait) ← serverFlightMessages setup record messages wait
        match turn with
        | .proceed => serverFlightRecords setup records wait
        | turn => return (turn, wait)
    | .alert => throw (.protocol (decodeAlertError record.header record.payload))
    | _ => serverFlightRecords setup records wait

/-- Runs until the server's flight is complete; returns it and the events that are left. -/
def waitForServerFlight (setup : ClientSetup E) :
    List (Input E) → FlightWait → ClientM C E (List HandshakeMessage × List (Input E))
  | [], _ => throw .pending
  | .expired :: inputs, wait => do
    renumberClientFlight
    sendClientFlight setup
    waitForServerFlight setup inputs wait
  | .failed error :: _, _ => throw (.failed (.transport error))
  | .deadline :: _, _ => throw (.failed .timeout)
  | .datagram _ remote bytes :: inputs, wait =>
    match parsedDatagram (some setup.peer) remote bytes with
    | none => waitForServerFlight setup inputs wait
    | some records => do
      let (turn, wait) ← serverFlightRecords setup records wait
      match turn with
      | .done => return (wait.serverFlight, inputs)
      | _ => waitForServerFlight setup inputs wait

/-! ## §4. Waiting for the server's Finished. -/

/-- The last wait also changes the session. -/
abbrev FinishM (C : Crypto) (E : Type) := EStateM (Halt E) (ClientState C × SessionState)

def onSession {α : Type} (m : EStateM Error SessionState α) : FinishM C E α :=
  zoom Prod.snd (fun s session => (s.1, session)) Halt.protocol m

def onClient {α : Type} (m : ClientM C E α) : FinishM C E α :=
  zoom Prod.fst (fun s client => (client, s.2)) id m

/-- Whether a datagram repeats the final message of the server's previous flight. -/
def repeatsFinalServerMessage (records : List DtlsRecord)
    (serverFlight : List HandshakeMessage) : Bool :=
  match serverFlight.getLast? with
  | none => false
  | some final =>
    records.any fun record =>
      record.header.epoch = 0 && record.header.contentType = .handshake &&
        match parseUnfragmentedHandshakeMessages record with
        | .ok messages => messages.contains final
        | .error _ => false

/-- Takes the next epoch-0 record number. -/
def takeEpochZero : FinishM C E UInt64 := do
  let (client, _) ← get
  let (sequenceNumber, nextEpochZeroRecord) := takeRecordSequence client.nextEpochZeroRecord
  modify fun (client, session) => ({ client with nextEpochZeroRecord }, session)
  return sequenceNumber

/-- ClientKeyExchange, ChangeCipherSpec and a freshly sealed Finished. -/
def buildClientFinishedFlight (clientKeyExchange clientFinished : HandshakeMessage) :
    FinishM C E Unit := do
  let first ← takeEpochZero
  let body ← attempt Halt.protocol clientKeyExchange.encode
  let keyExchange ← attempt Halt.protocol (DtlsRecord.new .handshake 0 first body)
  let second ← takeEpochZero
  let changeCipherSpec ← attempt Halt.protocol (DtlsRecord.new .changeCipherSpec 0 second [1])
  let body ← attempt Halt.protocol clientFinished.encode
  let finished ← onSession (SessionState.protectRecord C .handshake body)
  modify fun (client, session) =>
    ({ client with clientFlight := [keyExchange, changeCipherSpec, finished] }, session)

/-- The messages of an opened handshake record: the first Finished is verified and ends the
    wait. -/
def finishedMessages : List HandshakeMessage → FinishM C E Bool
  | [] => return false
  | message :: messages =>
    if message.messageType = .finished then do
      let (_, session) ← get
      onClient (onHandshake
        (ThreadDtlsHandshake.verifyServerFinished message session.keyMaterial))
      return true
    else finishedMessages messages

/-- One datagram's records, with the ChangeCipherSpec flag: whether the Finished was accepted
    and the flag after them. -/
def finishedRecords : List DtlsRecord → Bool → FinishM C E (Bool × Bool)
  | [], sawChangeCipherSpec => return (false, sawChangeCipherSpec)
  | record :: records, sawChangeCipherSpec =>
    if record.header.epoch = 0 then
      match record.header.contentType with
      | .changeCipherSpec =>
        if record.payload ≠ [1] then
          throw (.protocol (.crypto "invalid ChangeCipherSpec payload"))
        else finishedRecords records true
      | .alert => throw (.protocol (decodeAlertError record.header record.payload))
      | _ => finishedRecords records sawChangeCipherSpec
    else if record.header.epoch = 1 then
      match record.header.contentType with
      | .handshake =>
        if !sawChangeCipherSpec then finishedRecords records sawChangeCipherSpec
        else do
          let opened ← onSession (SessionState.openProtectedRecord C record)
          match opened with
          | none => finishedRecords records sawChangeCipherSpec
          | some plaintext =>
            let plainRecord ← attempt Halt.protocol (DtlsRecord.new .handshake 1 0 plaintext)
            let messages ←
              attempt Halt.protocol (parseUnfragmentedHandshakeMessages plainRecord)
            let accepted ← finishedMessages messages
            if accepted then return (true, sawChangeCipherSpec)
            else finishedRecords records sawChangeCipherSpec
      | .alert => do
        -- an alert that does not open is ignored, so the failure is not passed on
        let opened ← caught (ε := Halt E) (onSession (SessionState.openProtectedRecord C record))
        match opened with
        | .ok (some plaintext) => throw (.protocol (decodeAlertError record.header plaintext))
        | _ => finishedRecords records sawChangeCipherSpec
      | _ => finishedRecords records sawChangeCipherSpec
    else finishedRecords records sawChangeCipherSpec

/-- Rebuilds and sends the client's last flight. -/
def resendClientFinished (setup : ClientSetup E)
    (clientKeyExchange clientFinished : HandshakeMessage) : FinishM C E Unit := do
  buildClientFinishedFlight clientKeyExchange clientFinished
  onClient (sendClientFlight setup)

/-- Runs until the server's Finished is accepted. -/
def waitForServerFinished (setup : ClientSetup E)
    (clientKeyExchange clientFinished : HandshakeMessage) (serverFlight : List HandshakeMessage) :
    List (Input E) → DuplicateRetransmitBudget → Bool → FinishM C E Unit
  | [], _, _ => throw .pending
  | .expired :: inputs, budget, sawChangeCipherSpec => do
    resendClientFinished setup clientKeyExchange clientFinished
    waitForServerFinished setup clientKeyExchange clientFinished serverFlight inputs budget
      sawChangeCipherSpec
  | .failed error :: _, _, _ => throw (.failed (.transport error))
  | .deadline :: _, _, _ => throw (.failed .timeout)
  | .datagram _ remote bytes :: inputs, budget, sawChangeCipherSpec =>
    match parsedDatagram (some setup.peer) remote bytes with
    | none =>
      waitForServerFinished setup clientKeyExchange clientFinished serverFlight inputs budget
        sawChangeCipherSpec
    | some records => do
      -- the budget is only drawn on when the datagram does repeat the flight
      let (allowed, budget) :=
        if repeatsFinalServerMessage records serverFlight then budget.take else (false, budget)
      onlyIf allowed (resendClientFinished setup clientKeyExchange clientFinished)
      let (accepted, sawChangeCipherSpec) ← finishedRecords records sawChangeCipherSpec
      if accepted then return ()
      else
        waitForServerFinished setup clientKeyExchange clientFinished serverFlight inputs budget
          sawChangeCipherSpec

/-! ## §5. The whole handshake. -/

/-- Runs `m` on a session created now, and keeps the session. -/
def withSession {α : Type} (session : SessionState) (m : FinishM C E α) : ClientM C E α :=
  zoom (fun client => (client, session))
    (fun _ s => { s.1 with session := some s.2 }) id m

/-- The handshake from the first ClientHello to the accepted server Finished. -/
def connectInner (setup : ClientSetup E) (inputs : List (Input E)) : ClientM C E SessionState := do
  nextClientHelloFlight
  sendClientFlight setup
  let inputs ← waitForHelloVerify setup inputs
  nextClientHelloFlight
  let clientHelloMessage ← clientHelloOfFlight
  sendClientFlight setup
  let (serverFlight, inputs) ← waitForServerFlight setup inputs
    { clientHelloMessage, duplicateRetransmissions := DuplicateRetransmitBudget.new
      recordedClientHello := false, serverFlight := [] }
  let client ← get
  let clientKeyExchangeSeq := client.helloState.nextMessageSequence
  let clientKeyExchange ←
    zoom (fun client => (client.handshake, client.rng))
      (fun client s => { client with handshake := s.1, rng := s.2 }) Halt.protocol
      (ThreadDtlsHandshake.buildClientKeyExchange clientKeyExchangeSeq)
  let client ← get
  let keyMaterial ← attempt Halt.protocol client.handshake.deriveKeyMaterial
  let clientFinished ←
    onHandshake (ThreadDtlsHandshake.buildClientFinished (clientKeyExchangeSeq + 1))
  withSession (SessionState.duringHandshake keyMaterial .client) do
    resendClientFinished setup clientKeyExchange clientFinished
    waitForServerFinished setup clientKeyExchange clientFinished serverFlight inputs
      DuplicateRetransmitBudget.new false
    let (_, session) ← get
    return session

/-! ## §6. The established session. -/

/-- `open_next_record` as a step that keeps the session it leaves. -/
def openNext : EStateM (Halt E) SessionState (Option (Except Error Bytes)) := fun state =>
  let (result, state) := SessionState.openNextRecord C state
  .ok result state

/-- One turn of the receive loop: a usable queued record ends it, otherwise `wait` runs. -/
def openOr (wait : EStateM (Halt E) SessionState Bytes) : EStateM (Halt E) SessionState Bytes := do
  let opened ← openNext (C := C)
  match opened with
  | some result => attempt Halt.protocol result
  | none => wait

/-- Waits for the next protected application-data record. -/
def recvApplicationData (peer : SocketAddr) :
    List (Input E) → EStateM (Halt E) SessionState Bytes
  | [] => openOr (C := C) (throw .pending)
  | .expired :: inputs => openOr (C := C) (recvApplicationData peer inputs)
  | .failed error :: _ => openOr (C := C) (throw (.failed (.transport error)))
  | .deadline :: _ => openOr (C := C) (throw (.failed .timeout))
  | .datagram _ remote bytes :: inputs =>
    openOr (C := C) <|
      match parsedDatagram (some peer) remote bytes with
      | none => recvApplicationData peer inputs
      | some records => do
        modify (SessionState.receiveDatagram · records)
        recvApplicationData peer inputs

structure DtlsClientSession where
  state : SessionState
  sent : List Bytes

/-- What a client session may be asked to do. -/
inductive ClientOp (E : Type) where
  /-- `send_application_data`. -/
  | send (plaintext : Bytes)
  /-- `recv_application_data`, run against the events it meets. -/
  | recv (inputs : List (Input E))

namespace DtlsClientSession

def sendApplicationData (setup : ClientSetup E) (plaintext : Bytes) :
    EStateM (Halt E) DtlsClientSession Unit := do
  let record ← zoom state (fun session state => { session with state }) Halt.protocol
    (SessionState.protectApplicationData C plaintext)
  zoom sent (fun session sent => { session with sent }) id (sendRecords setup.sendFails [record])

/-- One operation; a failed one leaves the session usable. -/
def perform (setup : ClientSetup E) : ClientOp E → EStateM (Halt E) DtlsClientSession Unit
  | .send plaintext => sendApplicationData (C := C) setup plaintext
  | .recv inputs => do
    let _ ← zoom state (fun session state => { session with state }) id
      (recvApplicationData (C := C) setup.peer inputs)
    return ()

/-- A session after a sequence of operations, each of which may have failed. -/
def runOps (setup : ClientSetup E) (session : DtlsClientSession) (ops : List (ClientOp E)) :
    DtlsClientSession :=
  ops.foldl (fun session op => after (perform (C := C) setup op) session) session

end DtlsClientSession

/-! ## §7. What the hello and sending steps leave alone. -/

/-- Reading the ClientHello back changes nothing. -/
theorem clientHelloOfFlight_keeps {I : ClientState C → Prop} :
    Keeps I (clientHelloOfFlight (E := E)) := by
  refine keeps_bind keeps_get fun client => ?_
  split
  · exact keeps_throw _
  · exact keeps_attempt _ _

theorem helloVerifyRecords_keeps {I : ClientState C → Prop} (records : List DtlsRecord)
    (hanswer : ∀ record, Keeps I
      (onHelloState (E := E) (DtlsClientHelloState.handleHelloVerifyRequest record))) :
    Keeps I (helloVerifyRecords (E := E) records) := by
  induction records with
  | nil => exact keeps_pure _
  | cons record records ih =>
    unfold helloVerifyRecords
    split
    · split
      · exact ih
      · split
        · exact keeps_bind (hanswer record) fun _ => keeps_pure _
        · exact ih
    · exact keeps_throw _
    · exact ih

section Frame

-- a property of the handshake object and the session alone
variable {P : ThreadDtlsHandshake C → Option SessionState → Prop}

theorem onHelloState_frame {α : Type} (m : EStateM Error DtlsClientHelloState α) :
    Keeps (fun client => P client.handshake client.session) (onHelloState (E := E) m) :=
  keeps_zoom fun _ _ h => h

theorem renumberClientFlight_frame :
    Keeps (fun client => P client.handshake client.session) (renumberClientFlight (E := E)) :=
  keeps_modify fun _ h => h

theorem sendClientFlight_frame (setup : ClientSetup E) :
    Keeps (fun client => P client.handshake client.session) (sendClientFlight setup) :=
  keeps_bind keeps_get fun _ => keeps_zoom fun _ _ h => h

theorem nextClientHelloFlight_frame :
    Keeps (fun client => P client.handshake client.session) (nextClientHelloFlight (E := E)) :=
  keeps_bind (onHelloState_frame _) fun _ =>
    keeps_bind (keeps_modify fun _ h => h) fun _ => renumberClientFlight_frame

theorem waitForHelloVerify_frame (setup : ClientSetup E) (inputs : List (Input E)) :
    Keeps (fun client => P client.handshake client.session) (waitForHelloVerify setup inputs) := by
  induction inputs with
  | nil => exact keeps_throw _
  | cons input inputs ih =>
    cases input with
    | expired =>
      exact keeps_bind renumberClientFlight_frame fun _ =>
        keeps_bind (sendClientFlight_frame setup) fun _ => ih
    | failed error => exact keeps_throw _
    | deadline => exact keeps_throw _
    | datagram localAddr remote bytes =>
      unfold waitForHelloVerify
      split
      · exact ih
      · refine keeps_bind (helloVerifyRecords_keeps _ fun _ => onHelloState_frame _) fun found => ?_
        split
        · exact keeps_pure _
        · exact ih

end Frame

/-! ## §8. A rule for the wait for the server's flight. -/

/-- How `serverFlightMessages` answers a HelloVerifyRequest within the budget. -/
def answerHelloVerify (setup : ClientSetup E) (record : DtlsRecord) (wait : FlightWait) :
    ClientM C E (Turn × FlightWait) := do
  let taken ← caught (ε := Halt E)
    (onHelloState (DtlsClientHelloState.handleHelloVerifyRequest record))
  match taken with
  | .ok _ =>
    nextClientHelloFlight
    let clientHelloMessage ← clientHelloOfFlight
    sendClientFlight setup
    return (.receive, { wait with clientHelloMessage })
  | .error _ =>
    renumberClientFlight
    sendClientFlight setup
    return (.receive, wait)

/-- What the steps of the wait have to do for `I` to hold throughout it, of the events to come and
    the variables of the wait, and `F` wherever it fails. -/
structure FlightRule (setup : ClientSetup E)
    (I : List (Input E) → FlightWait → ClientState C → Prop) (F : ClientState C → Prop) :
    Prop where
  fails : ∀ {inputs wait client}, I inputs wait client → F client
  skips : ∀ {input inputs wait client}, I (input :: inputs) wait client → I inputs wait client
  takes : ∀ {inputs wait client} recordedClientHello serverFlight, I inputs wait client →
    I inputs { wait with recordedClientHello, serverFlight } client
  handles : ∀ {α : Type} {inputs wait} (m : ThreadDtlsHandshake.Method C α),
    Keeps (I inputs wait) (onHandshake (E := E) m)
  expires : ∀ {inputs wait client}, I (.expired :: inputs) wait client →
    wp (do renumberClientFlight; sendClientFlight setup)
      (fun _ client' => I inputs wait client') (fun _ client' => F client') client
  answers : ∀ {localAddr remote bytes inputs wait client records record budget},
    DtlsRecord.parseDatagram bytes = .ok records → record ∈ records →
    I (.datagram localAddr remote bytes :: inputs) wait client →
    wait.duplicateRetransmissions.take = (true, budget) →
    wp (answerHelloVerify setup record { wait with duplicateRetransmissions := budget })
      (fun result client' => result.1 = .receive ∧ I inputs result.2 client')
      (fun _ client' => F client') client

namespace FlightRule

/-- Where a loop over messages or records leaves the wait: one that answered leaves the datagram. -/
def Leaves (I : List (Input E) → FlightWait → ClientState C → Prop) (input : Input E)
    (inputs : List (Input E)) (result : Turn × FlightWait) (client : ClientState C) : Prop :=
  match result.1 with
  | .receive => I inputs result.2 client
  | _ => I (input :: inputs) result.2 client

variable {setup : ClientSetup E} {I : List (Input E) → FlightWait → ClientState C → Prop}
  {F : ClientState C → Prop} {localAddr remote : SocketAddr} {bytes : Bytes}
  {inputs : List (Input E)} {all : List DtlsRecord} {record : DtlsRecord}

theorem messages (rule : FlightRule setup I F) (hparse : DtlsRecord.parseDatagram bytes = .ok all)
    (hmem : record ∈ all) (messages : List HandshakeMessage) (wait : FlightWait)
    (client : ClientState C) (h : I (.datagram localAddr remote bytes :: inputs) wait client) :
    wp (serverFlightMessages setup record messages wait)
      (Leaves I (.datagram localAddr remote bytes) inputs) (fun _ client' => F client') client := by
  have hout : ∀ (_ : Halt E) client', I (.datagram localAddr remote bytes :: inputs) wait client' →
      F client' := fun _ _ h => rule.fails h
  induction messages generalizing wait client with
  | nil => exact h
  | cons message messages ih =>
    unfold serverFlightMessages
    split
    · exact ih wait client h hout
    split
    · refine wp_bind_of_keeps h (keeps_onlyIf _ (rule.handles _)) hout fun _ client h => ?_
      exact wp_bind_of_keeps h (rule.handles _) hout fun _ client h =>
        ih _ client (rule.takes _ _ h) fun _ _ h => rule.fails h
    · split
      · exact ih wait client h hout
      · exact wp_bind_of_keeps h (rule.handles _) hout fun _ client h =>
          ih _ client (rule.takes _ _ h) fun _ _ h => rule.fails h
    · dsimp only
      split
      · exact ih wait client h hout
      · exact wp_bind_of_keeps h (rule.handles _) hout fun _ client h => rule.takes _ _ h
    · split
      · exact ih wait client h hout
      rcases wait.duplicateRetransmissions.take_cases with hspent | ⟨-, budget, htake, -⟩
      · rw [hspent]
        exact ih wait client h hout
      · rw [htake]
        refine wp_imp (rule.answers hparse hmem h htake) ?_
        rintro ⟨turn, wait'⟩ client' ⟨rfl, h'⟩
        exact h'
    · exact rule.fails h

theorem records (rule : FlightRule setup I F) {records : List DtlsRecord}
    (hparse : DtlsRecord.parseDatagram bytes = .ok all) (hmem : ∀ r ∈ records, r ∈ all)
    (wait : FlightWait) (client : ClientState C)
    (h : I (.datagram localAddr remote bytes :: inputs) wait client) :
    wp (serverFlightRecords setup records wait)
      (Leaves I (.datagram localAddr remote bytes) inputs) (fun _ client' => F client') client := by
  induction records generalizing wait client with
  | nil => exact h
  | cons record records ih =>
    have ih := ih fun r hr => hmem r (List.mem_cons_of_mem _ hr)
    unfold serverFlightRecords
    split
    · split
      · exact ih wait client h
      refine wp_seq (rule.messages hparse (hmem record List.mem_cons_self) _ wait client h) ?_
      rintro ⟨turn, wait'⟩ client' h'
      cases turn with
      | proceed => exact ih wait' client' h'
      | receive => exact h'
      | done => exact h'
    · exact rule.fails h
    · exact ih wait client h

/-- **The rule**, by induction on the events that are left. -/
theorem wait (rule : FlightRule setup I F) (inputs : List (Input E)) (wait : FlightWait)
    (client : ClientState C) (h : I inputs wait client) : wp (waitForServerFlight setup inputs wait)
      (fun result client' => ∃ wait', I result.2 wait' client') (fun _ client' => F client')
      client := by
  induction inputs generalizing wait client with
  | nil => exact rule.fails h
  | cons input inputs ih =>
    cases input with
    | expired =>
      have hsent := rule.expires h
      rw [wp_bind] at hsent
      exact wp_seq hsent fun _ client hsent => wp_seq hsent fun _ client h => ih wait client h
    | failed error => exact rule.fails h
    | deadline => exact rule.fails h
    | datagram localAddr remote bytes =>
      unfold waitForServerFlight
      split
      · exact ih wait client (rule.skips h)
      rename_i hparsed
      refine wp_seq (rule.records (parsedDatagram_eq_some hparsed) (fun _ h => h) wait client h) ?_
      rintro ⟨turn, wait'⟩ client' h'
      cases turn with
      | proceed => exact ih wait' client' (rule.skips h')
      | receive => exact ih wait' client' h'
      | done => exact ⟨wait', rule.skips h'⟩

end FlightRule

/-! ## §9. The rules for the last wait. -/

/-- What the steps of the last wait have to do for `I` to hold throughout it, of the events to come
    and the budget, `Q` where it returns, and `F` wherever it fails. -/
structure FinishedRule (setup : ClientSetup E) (clientKeyExchange clientFinished : HandshakeMessage)
    (I : List (Input E) → DuplicateRetransmitBudget → ClientState C × SessionState → Prop)
    (Q F : ClientState C × SessionState → Prop) : Prop where
  fails : ∀ {inputs budget s}, I inputs budget s → F s
  skips : ∀ {input inputs budget s}, I (input :: inputs) budget s → I inputs budget s
  expires : ∀ {inputs budget s}, I (.expired :: inputs) budget s →
    wp (resendClientFinished setup clientKeyExchange clientFinished)
      (fun _ s' => I inputs budget s') (fun _ s' => F s') s
  repeats : ∀ {localAddr remote bytes inputs budget rest s},
    I (.datagram localAddr remote bytes :: inputs) budget s → budget.take = (true, rest) →
    wp (resendClientFinished setup clientKeyExchange clientFinished)
      (fun _ s' => I inputs rest s') (fun _ s' => F s') s
  reads : ∀ {inputs budget s} records sawChangeCipherSpec, I inputs budget s →
    wp (finishedRecords (E := E) records sawChangeCipherSpec)
      (fun result s' => if result.1 = true then Q s' else I inputs budget s')
      (fun _ s' => F s') s

/-- **The rule**, by induction on the events that are left. -/
theorem FinishedRule.wait {setup : ClientSetup E} {clientKeyExchange clientFinished : HandshakeMessage}
    {I : List (Input E) → DuplicateRetransmitBudget → ClientState C × SessionState → Prop}
    {Q F : ClientState C × SessionState → Prop}
    (rule : FinishedRule setup clientKeyExchange clientFinished I Q F)
    (serverFlight : List HandshakeMessage) (inputs : List (Input E))
    (budget : DuplicateRetransmitBudget) (sawChangeCipherSpec : Bool)
    (s : ClientState C × SessionState) (h : I inputs budget s) :
    wp (waitForServerFinished setup clientKeyExchange clientFinished serverFlight inputs budget
        sawChangeCipherSpec)
      (fun _ s' => Q s') (fun _ s' => F s') s := by
  induction inputs generalizing budget sawChangeCipherSpec s with
  | nil => exact rule.fails h
  | cons input inputs ih =>
    cases input with
    | expired => exact wp_seq (rule.expires h) fun _ s h => ih _ _ s h
    | failed error => exact rule.fails h
    | deadline => exact rule.fails h
    | datagram localAddr remote bytes =>
      unfold waitForServerFinished
      split
      · exact ih _ _ s (rule.skips h)
      rename_i records _
      -- what follows the repetition, if there is one
      have hread : ∀ budget s, I inputs budget s →
          wp (finishedRecords records sawChangeCipherSpec >>= fun result =>
              if result.1 then return ()
              else
                waitForServerFinished setup clientKeyExchange clientFinished serverFlight inputs
                  budget result.2)
            (fun _ s' => Q s') (fun _ s' => F s') s := by
        intro budget s h
        refine wp_seq (rule.reads records _ h) fun result s h => ?_
        split at h
        · rename_i haccepted
          rw [if_pos haccepted]
          exact h
        · rename_i hmore
          rw [if_neg hmore]
          exact ih _ _ s h
      by_cases hrepeats : repeatsFinalServerMessage records serverFlight = true
      · rw [if_pos hrepeats]
        rcases budget.take_cases with hspent | ⟨-, rest, htake, -⟩
        · rw [hspent]
          exact hread budget s (rule.skips h)
        · rw [htake]
          exact wp_seq (rule.repeats h htake) fun _ s h => hread rest s h
      · rw [if_neg hrepeats]
        exact hread budget s (rule.skips h)

section LastWait

variable {I : ClientState C × SessionState → Prop}

theorem finishedMessages_keeps (messages : List HandshakeMessage) (hverify : ∀ message keys, Keeps I
      (onClient (E := E) (onHandshake (ThreadDtlsHandshake.verifyServerFinished message keys)))) :
    Keeps I (finishedMessages (E := E) messages) := by
  induction messages with
  | nil => exact keeps_pure _
  | cons message messages ih =>
    unfold finishedMessages
    split
    · exact keeps_bind keeps_get fun _ => keeps_bind (hverify _ _) fun _ => keeps_pure _
    · exact ih

/-- Reading a datagram opens records and verifies at most one Finished. -/
theorem finishedRecords_keeps (records : List DtlsRecord) (sawChangeCipherSpec : Bool)
    (hopen : ∀ record, Keeps I (onSession (E := E) (SessionState.openProtectedRecord C record)))
    (hverify : ∀ message keys, Keeps I
      (onClient (E := E) (onHandshake (ThreadDtlsHandshake.verifyServerFinished message keys)))) :
    Keeps I (finishedRecords (E := E) records sawChangeCipherSpec) := by
  induction records generalizing sawChangeCipherSpec with
  | nil => exact keeps_pure _
  | cons record records ih =>
    unfold finishedRecords
    split
    · split
      · split
        · exact keeps_throw _
        · exact ih true
      · exact keeps_throw _
      · exact ih _
    · split
      · split
        · split
          · exact ih _
          refine keeps_bind (hopen record) fun opened => ?_
          split
          · exact ih _
          refine keeps_bind (keeps_attempt _ _) fun _ => ?_
          refine keeps_bind (keeps_attempt _ _) fun messages => ?_
          refine keeps_bind (finishedMessages_keeps messages hverify) fun accepted => ?_
          split
          · exact keeps_pure _
          · exact ih _
        · refine keeps_bind (keeps_caught (hopen record)) fun opened => ?_
          split
          · exact keeps_throw _
          · exact ih _
        · exact ih _
      · exact ih _

/-- Rebuilding the last flight takes two numbers and seals one record. -/
theorem resendClientFinished_keeps (setup : ClientSetup E)
    (clientKeyExchange clientFinished : HandshakeMessage) (htake : Keeps I (takeEpochZero (E := E)))
    (hseal : ∀ body, Keeps I (onSession (E := E) (SessionState.protectRecord C .handshake body)))
    (hflight : ∀ client session clientFlight, I (client, session) →
      I ({ client with clientFlight }, session))
    (hsend : Keeps I (onClient (sendClientFlight setup))) :
    Keeps I (resendClientFinished setup clientKeyExchange clientFinished) := by
  refine keeps_bind ?_ fun _ => hsend
  refine keeps_bind htake fun _ => ?_
  refine keeps_bind (keeps_attempt _ _) fun _ => ?_
  refine keeps_bind (keeps_attempt _ _) fun _ => ?_
  refine keeps_bind htake fun _ => ?_
  refine keeps_bind (keeps_attempt _ _) fun _ => ?_
  refine keeps_bind (keeps_attempt _ _) fun _ => ?_
  exact keeps_bind (hseal _) fun _ => keeps_modify fun s h => hflight s.1 s.2 _ h

end LastWait

end Connect

end Meshcop.Dtls
