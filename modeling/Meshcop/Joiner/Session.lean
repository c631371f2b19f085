/-
  Meshcop.Joiner.Session — one joiner's commissioning session
  (`meshcop/src/commissioner/joiner.rs`).

  The commissioner is the DTLS server of a joiner whose records come in relay payloads.
  `receive` takes one payload: it may repeat the Finished, goes over the records of the
  datagram and collects the events to act on.  A failure part-way keeps whatever the session
  has done until then, so the methods are computations whose state survives errors.

  `trace` is a history variable: it records what the session derived, authenticated, sealed,
  asked and emitted, in that order.  No method reads it.
-/

import Meshcop.Dtls.ServerHandshake
import Meshcop.Dtls.Session
import Meshcop.Wire.Messages

namespace Meshcop

open Lib
open Dtls (ContentType DtlsRecord HandshakeMessage HandshakeType ThreadDtlsKeyMaterial
  ThreadDtlsServerHandshake DtlsCookieGenerator ReplayWindow Protected Crypto
  parseUnfragmentedHandshakeMessages)

/-! ## §1. The application's part. -/

abbrev JoinerId := FixedBytes 8

/-- The joiner ID restores the universal/local bit of the relayed IID. -/
def joinerIdFromIid (joinerIid : FixedBytes 8) : JoinerId :=
  { bytes := joinerIid.bytes.modifyHead (· ^^^ 2), size := by simp [joinerIid.size] }

/-- Vendor and provisioning information of a JOIN_FIN.req. -/
structure JoinerFinalizeInfo where
  vendorName : Text
  vendorModel : Text
  vendorSwVersion : Text
  vendorStackVersion : Bytes
  provisioningUrl : Option Text
  vendorData : Option Bytes
  deriving DecidableEq, Repr

/-- The application's decisions, over a state of its own. -/
structure JoinerHandler where
  State : Type
  joinerPskd : JoinerId → State → Option Text × State
  onJoinerConnected : JoinerId → State → State
  onJoinerFinalize : JoinerId → JoinerFinalizeInfo → State → Bool × State

/-- What a session asks its caller to do. -/
inductive JoinerSessionEvent where
  /-- Relay a datagram back, with the Joiner Router KEK or without. -/
  | transmit (datagram : Bytes) (includeKek : Bool)
  | connected
  | finalized (accepted : Bool) (info : JoinerFinalizeInfo)
  deriving DecidableEq, Repr

namespace JoinerFinalizeInfo

def required (tlvs : TlvSet) (ty : UInt8) (name : String) : Except Error Bytes :=
  match tlvs.lastValue ty with
  | some value => .ok value
  | none => .error (.dataset s!"JOIN_FIN.req missing {name} TLV")

def utf8 (value : Bytes) (name : String) : Except Error Text :=
  match fromUtf8 value with
  | some text => .ok text
  | none => .error (.dataset s!"JOIN_FIN.req {name} TLV is not UTF-8")

/-- A mandatory text TLV. -/
def requiredText (tlvs : TlvSet) (ty : UInt8) (name : String) : Except Error Text := do
  let value ← required tlvs ty name
  utf8 value name

/-- The TLVs of a JOIN_FIN.req payload. -/
def fromPayload (payload : Bytes) : Except Error JoinerFinalizeInfo := do
  let tlvs ← liftTlv (TlvSet.parse payload)
  let _ ← required tlvs TLV_STATE "State"
  let vendorName ← requiredText tlvs TLV_VENDOR_NAME "Vendor Name"
  let vendorModel ← requiredText tlvs TLV_VENDOR_MODEL "Vendor Model"
  let vendorSwVersion ← requiredText tlvs TLV_VENDOR_SW_VERSION "Vendor SW Version"
  let vendorStackVersion ← required tlvs TLV_VENDOR_STACK_VERSION "Vendor Stack Version"
  let provisioningUrl ← match tlvs.lastValue TLV_PROVISIONING_URL with
    | some value => some <$> utf8 value "Provisioning URL"
    | none => pure none
  return { vendorName, vendorModel, vendorSwVersion, vendorStackVersion, provisioningUrl
           vendorData := tlvs.lastValue TLV_VENDOR_DATA }

end JoinerFinalizeInfo

def parseJoinFin (request : CoapMessage) : Except Error JoinerFinalizeInfo :=
  JoinerFinalizeInfo.fromPayload request.payload

/-! ## §2. State. -/

inductive JoinerSessionPhase where
  | awaitingClientHello
  | awaitingClientFlight
  | connected
  | finalized
  deriving DecidableEq, Repr

/-- The handshake is complete. -/
def JoinerSessionPhase.established : JoinerSessionPhase → Bool
  | connected | finalized => true
  | _ => false

/-- What the history variable records. -/
inductive JoinerAction where
  /-- Key material was derived. -/
  | keyed (keyMaterial : ThreadDtlsKeyMaterial)
  /-- A protected record of the joiner was authenticated. -/
  | opened (entry : Protected)
  /-- A client Finished was verified. -/
  | verified (message : HandshakeMessage)
  /-- The application was asked about a JOIN_FIN.req. -/
  | asked (info : JoinerFinalizeInfo) (answer : Bool)
  /-- A record was sealed. -/
  | sealed (entry : Protected)
  /-- An event was emitted. -/
  | emitted (event : JoinerSessionEvent)
  deriving DecidableEq, Repr

def MAX_DUPLICATE_FLIGHT_RETRANSMISSIONS : UInt8 := 4

/-- A second, in nanoseconds. -/
def SECOND : Nat := 1000000000

def JOINER_SESSION_TIMEOUT : Nat := (60 + 20) * SECOND

structure JoinerSession (C : Crypto) where
  joinerId : JoinerId
  joinerIid : FixedBytes 8
  joinerUdpPort : UInt16
  joinerRouterLocator : UInt16
  phase : JoinerSessionPhase
  handshake : ThreadDtlsServerHandshake C
  cookie : DtlsCookieGenerator
  keyMaterial : Option ThreadDtlsKeyMaterial
  acceptedClientHello : Option HandshakeMessage
  acceptedClientKeyExchange : Option HandshakeMessage
  serverFlight : List DtlsRecord
  serverFinished : Bytes
  serverFlightRetransmissions : UInt8
  serverFinishedRetransmissions : UInt8
  replayWindow : ReplayWindow
  epoch0Sequence : UInt64
  epoch1Sequence : UInt64
  sawClientChangeCipherSpec : Bool
  finalizeDecision : Option Bool
  expiresAt : Nat
  /-- History variable. -/
  trace : List JoinerAction

namespace JoinerSession

variable {C : Crypto}

/-- A session for one relayed joiner. -/
def new (joinerIid : FixedBytes 8) (joinerUdpPort joinerRouterLocator : UInt16) (pskd : Text)
    (now : Nat) (rng : C.Rng) : JoinerSession C × C.Rng :=
  let (handshake, rng) := ThreadDtlsServerHandshake.new pskd rng
  let (cookie, rng) := DtlsCookieGenerator.new C rng
  ({ joinerId := joinerIdFromIid joinerIid, joinerIid, joinerUdpPort, joinerRouterLocator
     phase := .awaitingClientHello, handshake, cookie, keyMaterial := none
     acceptedClientHello := none, acceptedClientKeyExchange := none, serverFlight := []
     serverFinished := [], serverFlightRetransmissions := 0, serverFinishedRetransmissions := 0
     replayWindow := ReplayWindow.new, epoch0Sequence := 0, epoch1Sequence := 0
     sawClientChangeCipherSpec := false, finalizeDecision := none
     expiresAt := now + JOINER_SESSION_TIMEOUT, trace := [] }, rng)

def expired (session : JoinerSession C) (now : Nat) : Bool := now ≥ session.expiresAt

def keyMaterialRequired (session : JoinerSession C) : Except Error ThreadDtlsKeyMaterial :=
  match session.keyMaterial with
  | some keyMaterial => .ok keyMaterial
  | none => .error (.invalidState "joiner key material is not derived")

/-- The Joiner Router KEK, once the handshake has key material. -/
def joinerRouterKek (session : JoinerSession C) : Except Error Bytes := do
  let keyMaterial ← session.keyMaterialRequired
  match session.handshake.deriveJoinerRouterKek keyMaterial with
  | .ok kek => return kek
  | .error error => .error (.dtls error)

/-- Appends to the history. -/
def log (session : JoinerSession C) (action : JoinerAction) : JoinerSession C :=
  { session with trace := session.trace ++ [action] }

abbrev Method (C : Crypto) := EStateM Error (JoinerSession C)

def onHandshake {α : Type} (m : ThreadDtlsServerHandshake.Method C α) : Method C α :=
  zoom handshake (fun session handshake => { session with handshake }) Error.dtls m

/-! ## §3. Records. -/

/-- Authenticates a protected record; `none` for one seen before. -/
def openRecord (record : DtlsRecord) : Method C (Option Bytes) := do
  let session ← get
  if session.replayWindow.hasSeen record.header.sequenceNumber then return none
  else
    let keyMaterial ← attempt id session.keyMaterialRequired
    let key := keyMaterial.keyBlock.clientWriteKey
    let fixedIv := keyMaterial.keyBlock.clientWriteIv
    let plaintext ← attempt Error.dtls (Dtls.openAes128Ccm8Record C record key fixedIv)
    modify fun session =>
      { session with replayWindow := session.replayWindow.markSeen record.header.sequenceNumber }
    modify (·.log (.opened { key, fixedIv, record, plaintext }))
    return some plaintext

def plaintextRecord (contentType : ContentType) (payload : Bytes) : Method C DtlsRecord := do
  let session ← get
  let record ← attempt Error.dtls (DtlsRecord.new contentType 0 session.epoch0Sequence payload)
  modify fun session => { session with epoch0Sequence := session.epoch0Sequence + 1 }
  return record

def plaintextChangeCipherSpec : Method C DtlsRecord := plaintextRecord .changeCipherSpec [1]

/-- Seals a record under the next epoch-1 number. -/
def sealRecord (contentType : ContentType) (keyMaterial : ThreadDtlsKeyMaterial)
    (plaintext : Bytes) : Method C DtlsRecord := do
  let session ← get
  let key := keyMaterial.keyBlock.serverWriteKey
  let fixedIv := keyMaterial.keyBlock.serverWriteIv
  let record ← attempt Error.dtls
    (Dtls.protectAes128Ccm8Record C contentType 1 session.epoch1Sequence key fixedIv plaintext)
  modify fun session => { session with epoch1Sequence := session.epoch1Sequence + 1 }
  modify (·.log (.sealed { key, fixedIv, record, plaintext }))
  return record

/-- ChangeCipherSpec and a freshly sealed Finished, as one datagram. -/
def buildServerFinishedFlight : Method C Bytes := do
  let session ← get
  let keyMaterial ← attempt id session.keyMaterialRequired
  let changeCipherSpec ← plaintextChangeCipherSpec
  let session ← get
  let finished ← sealRecord .handshake keyMaterial session.serverFinished
  attempt Error.dtls (DtlsRecord.encodeDatagram [changeCipherSpec, finished])

end JoinerSession

/-! ## §4. One payload. -/

/-- The state of a `receive` call: the session, the application's state, the random source
    and the events collected so far. -/
structure Receiving (C : Crypto) (handler : JoinerHandler) where
  session : JoinerSession C
  handlerState : handler.State
  rng : C.Rng
  events : List JoinerSessionEvent

namespace Receiving

variable {C : Crypto} {handler : JoinerHandler}

abbrev ReceiveM (C : Crypto) (handler : JoinerHandler) := EStateM Error (Receiving C handler)

def onSession {α : Type} (m : JoinerSession.Method C α) : ReceiveM C handler α :=
  zoom session (fun r session => { r with session }) id m

def push (event : JoinerSessionEvent) : ReceiveM C handler Unit :=
  modify fun r => { r with events := r.events ++ [event], session := r.session.log (.emitted event) }

/-- Answers a ClientHello without a valid cookie. -/
def sendHelloVerify (message : HandshakeMessage) (recordSequence : UInt64)
    (hello : Dtls.ClientHello) : ReceiveM C handler Unit := do
  let r ← get
  let cookie ← attempt Error.dtls (r.session.cookie.cookie C hello.random)
  let payload ← attempt Error.dtls
    ({ serverVersion := Dtls.DTLS_1_2_VERSION, cookie : Dtls.HelloVerifyRequest }).encode
  let body ← attempt Error.dtls
    ({ messageType := .helloVerifyRequest, messageSeq := message.messageSeq, payload
       : HandshakeMessage }).encode
  let record ← attempt Error.dtls (DtlsRecord.new .handshake 0 recordSequence body)
  let datagram ← attempt Error.dtls record.encode
  push (.transmit datagram false)

/-- Accepts a ClientHello and sends the server's flight. -/
def acceptClientHello (message : HandshakeMessage) (recordSequence : UInt64) :
    ReceiveM C handler Unit := do
  let _ ← onSession
    (JoinerSession.onHandshake (ThreadDtlsServerHandshake.handleClientHello message))
  modify fun r => { r with session := { r.session with acceptedClientHello := some message
                                                       epoch0Sequence := recordSequence } }
  let sequence := message.messageSeq
  let serverHello ← onSession
    (JoinerSession.onHandshake (ThreadDtlsServerHandshake.buildServerHello sequence))
  let keyExchange ←
    zoom (fun r => (r.session.handshake, r.rng))
      (fun r s => { r with session := { r.session with handshake := s.1 }, rng := s.2 })
      Error.dtls (ThreadDtlsServerHandshake.buildServerKeyExchange (sequence + 1))
  let helloDone ← onSession
    (JoinerSession.onHandshake (ThreadDtlsServerHandshake.buildServerHelloDone (sequence + 2)))
  let body ← attempt Error.dtls serverHello.encode
  let first ← onSession (JoinerSession.plaintextRecord .handshake body)
  let body ← attempt Error.dtls keyExchange.encode
  let second ← onSession (JoinerSession.plaintextRecord .handshake body)
  let body ← attempt Error.dtls helloDone.encode
  let third ← onSession (JoinerSession.plaintextRecord .handshake body)
  modify fun r => { r with session := { r.session with serverFlight := [first, second, third] } }
  let datagram ← attempt Error.dtls (DtlsRecord.encodeDatagram [first, second, third])
  modify fun r => { r with session := { r.session with phase := .awaitingClientFlight } }
  push (.transmit datagram false)

/-- Repeats the server's flight for a repeated ClientHello, a few times at most. -/
def repeatServerFlight (message : HandshakeMessage) : ReceiveM C handler Unit := do
  let r ← get
  if r.session.acceptedClientHello = some message ∧
      r.session.serverFlightRetransmissions < MAX_DUPLICATE_FLIGHT_RETRANSMISSIONS then
    let (serverFlight, epoch0Sequence) :=
      Dtls.renumberEpochZeroFlight r.session.serverFlight r.session.epoch0Sequence
    modify fun r => { r with session := { r.session with
      serverFlightRetransmissions := r.session.serverFlightRetransmissions + 1
      serverFlight, epoch0Sequence } }
    let datagram ← attempt Error.dtls (DtlsRecord.encodeDatagram serverFlight)
    push (.transmit datagram false)
  else return ()

/-- Takes a ClientKeyExchange and derives the keys. -/
def acceptClientKeyExchange (message : HandshakeMessage) : ReceiveM C handler Unit := do
  let r ← get
  if r.session.acceptedClientKeyExchange = some message then return ()
  else
    onSession (JoinerSession.onHandshake (ThreadDtlsServerHandshake.handleClientKeyExchange message))
    let r ← get
    let keyMaterial ← attempt Error.dtls r.session.handshake.deriveKeyMaterial
    modify fun r => { r with session := { r.session.log (.keyed keyMaterial) with
      keyMaterial := some keyMaterial, acceptedClientKeyExchange := some message } }

def handlePlaintextHandshake (message : HandshakeMessage) (recordSequence : UInt64) :
    ReceiveM C handler Unit := do
  let r ← get
  match message.messageType, r.session.phase with
  | .clientHello, .awaitingClientHello =>
    let hello ← attempt Error.dtls (Dtls.ClientHello.decode message.payload)
    if r.session.cookie.verify C hello.random hello.cookie then
      acceptClientHello message recordSequence
    else sendHelloVerify message recordSequence hello
  | .clientHello, .awaitingClientFlight => repeatServerFlight message
  | .clientKeyExchange, .awaitingClientFlight => acceptClientKeyExchange message
  | _, _ => throw (.crypto s!"unexpected joiner handshake message {message.messageType.debug}")

/-- The messages of one plaintext handshake record. -/
def plaintextMessages (recordSequence : UInt64) : List HandshakeMessage → ReceiveM C handler Unit
  | [] => return ()
  | message :: messages => do
    handlePlaintextHandshake message recordSequence
    plaintextMessages recordSequence messages

/-- Answers a verified client Finished with the server's, and connects. -/
def answerClientFinished (hello : HandshakeMessage) (keyMaterial : ThreadDtlsKeyMaterial) :
    ReceiveM C handler Unit := do
  let serverFinished ← onSession (JoinerSession.onHandshake
    (ThreadDtlsServerHandshake.buildServerFinished (hello.messageSeq + 3) keyMaterial))
  let body ← attempt Error.dtls serverFinished.encode
  modify fun r => { r with session := { r.session with serverFinished := body } }
  let datagram ← onSession JoinerSession.buildServerFinishedFlight
  modify fun r => { r with session := { r.session with phase := .connected } }
  push (.transmit datagram false)
  push .connected

/-- Verifies a client Finished and answers it. -/
def acceptClientFinished (message : HandshakeMessage) : ReceiveM C handler Unit := do
  let r ← get
  let keyMaterial ← attempt id r.session.keyMaterialRequired
  onSession (JoinerSession.onHandshake
    (ThreadDtlsServerHandshake.verifyClientFinished message keyMaterial))
  modify fun r => { r with session := r.session.log (.verified message) }
  let r ← get
  match r.session.acceptedClientHello with
  | none => throw (.invalidState "accepted ClientHello is missing")
  | some hello => answerClientFinished hello keyMaterial

/-- The messages of one protected handshake record; only a Finished counts. -/
def finishedMessages : List HandshakeMessage → ReceiveM C handler Unit
  | [] => return ()
  | message :: messages => do
    if message.messageType ≠ .finished then finishedMessages messages
    else
      acceptClientFinished message
      finishedMessages messages

def handleEncryptedHandshake (record : DtlsRecord) : ReceiveM C handler Unit := do
  let r ← get
  -- before the joiner's ChangeCipherSpec and ClientKeyExchange the record cannot be
  -- authenticated; it is dropped until the flight is repeated
  if r.session.phase ≠ .awaitingClientFlight ∨ r.session.sawClientChangeCipherSpec = false ∨
      r.session.keyMaterial = none then return ()
  else
    let opened ← onSession (JoinerSession.openRecord record)
    match opened with
    | none => return ()
    | some plaintext =>
      let plainRecord ← attempt Error.dtls (DtlsRecord.new .handshake 1 0 plaintext)
      let messages ← attempt Error.dtls (parseUnfragmentedHandshakeMessages plainRecord)
      finishedMessages messages

/-- The decision about this joiner: made once, by the application, and kept. -/
def decideFinalize (info : JoinerFinalizeInfo) : ReceiveM C handler Bool := do
  let r ← get
  match r.session.finalizeDecision with
  | some accepted => return accepted
  | none =>
    let (accepted, handlerState) := handler.onJoinerFinalize r.session.joinerId info r.handlerState
    modify fun r => { r with handlerState
                             session := { r.session.log (.asked info accepted) with
                               finalizeDecision := some accepted } }
    return accepted

/-- The JOIN_FIN.rsp to a request. -/
def joinFinResponse (request : CoapMessage) (accepted : Bool) : CoapMessage :=
  let state := if accepted then MeshcopState.accept else MeshcopState.reject
  { ty := .acknowledgement, code := .CHANGED, messageId := request.messageId
    token := request.token, options := [], payload := [TLV_STATE, 1, state.toWire] }

/-- Decides on a JOIN_FIN.req and answers it. -/
def answerJoinFin (request : CoapMessage) (info : JoinerFinalizeInfo) :
    ReceiveM C handler Unit := do
  let accepted ← decideFinalize info
  let r ← get
  let keyMaterial ← attempt id r.session.keyMaterialRequired
  let plaintext ← attempt id (joinFinResponse request accepted).encode
  let record ← onSession (JoinerSession.sealRecord .applicationData keyMaterial plaintext)
  let firstDecision := r.session.phase ≠ .finalized
  modify fun r => { r with session := { r.session with phase := .finalized } }
  let datagram ← attempt Error.dtls record.encode
  -- the KEK tells the joiner router to entrust the joiner, so only an acceptance carries it
  push (.transmit datagram accepted)
  onlyIf firstDecision (push (.finalized accepted info))

def handleApplicationData (record : DtlsRecord) : ReceiveM C handler Unit := do
  let r ← get
  if r.session.phase.established = false then return ()
  else
    let opened ← caught (ε := Error) (onSession (JoinerSession.openRecord record))
    match opened with
    | .ok (some plaintext) =>
      modify fun r => { r with session := { r.session with serverFinished := [] } }
      let request ← attempt id (CoapMessage.decode plaintext)
      let path ← attempt id request.uriPath
      if path ≠ some Uri.JOIN_FIN then return ()
      else
        let info ← attempt id (parseJoinFin request)
        answerJoinFin request info
    | _ => return ()

/-- One record; `wasEstablished` is the phase at the start of the payload. -/
def receiveRecord (wasEstablished : Bool) (record : DtlsRecord) : ReceiveM C handler Unit := do
  if record.header.epoch = 0 then
    match record.header.contentType with
    | .handshake =>
      if wasEstablished then return ()
      else
        match parseUnfragmentedHandshakeMessages record with
        | .error _ => return ()
        | .ok messages => plaintextMessages record.header.sequenceNumber messages
    | .changeCipherSpec =>
      if record.payload ≠ [1] then throw (.crypto "invalid ChangeCipherSpec payload")
      else modify fun r => { r with session := { r.session with sawClientChangeCipherSpec := true } }
    | .alert =>
      let r ← get
      if r.session.phase.established then return ()
      else
        throw (.crypto s!"joiner DTLS alert epoch=0 seq={record.header.sequenceNumber}")
    | .applicationData => return ()
  else if record.header.epoch = 1 then
    match record.header.contentType with
    | .handshake => handleEncryptedHandshake record
    | .applicationData => handleApplicationData record
    | .alert =>
      let opened ← caught (ε := Error) (onSession (JoinerSession.openRecord record))
      match opened with
      | .ok (some plaintext) =>
        throw (.crypto (s!"joiner DTLS alert epoch=1 seq={record.header.sequenceNumber} " ++
          s!"level={plaintext.getD 0 0} description={plaintext.getD 1 0}"))
      | _ => return ()
    | .changeCipherSpec => return ()
  else return ()

/-- The records of one datagram. -/
def receiveRecords (wasEstablished : Bool) : List DtlsRecord → ReceiveM C handler Unit
  | [] => return ()
  | record :: records => do
    receiveRecord wasEstablished record
    receiveRecords wasEstablished records

/-- Repeats the Finished when the joiner repeats its own, a few times at most. -/
def repeatServerFinished (records : List DtlsRecord) : ReceiveM C handler Unit := do
  let r ← get
  if r.session.phase.established ∧ r.session.serverFinished ≠ [] ∧
      Dtls.isClientFinishedFlight records ∧
      r.session.serverFinishedRetransmissions < MAX_DUPLICATE_FLIGHT_RETRANSMISSIONS then
    modify fun r => { r with session := { r.session with
      serverFinishedRetransmissions := r.session.serverFinishedRetransmissions + 1 } }
    let datagram ← onSession JoinerSession.buildServerFinishedFlight
    push (.transmit datagram false)
  else return ()

/-- Feeds one relay payload into the session and returns the events to act on. -/
def receive (encapsulated : Bytes) : ReceiveM C handler (List JoinerSessionEvent) := do
  modify fun r => { r with events := [] }
  match DtlsRecord.parseDatagram encapsulated with
  | .error _ => return []
  | .ok records =>
    let r ← get
    repeatServerFinished records
    receiveRecords r.session.phase.established records
    let r ← get
    return r.events

end Receiving

end Meshcop
