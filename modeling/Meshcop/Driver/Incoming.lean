/-
  Meshcop.Driver.Incoming — routing of received messages
  (`commissioner/client/driver/{incoming,duplicates,relay}.rs`, `acknowledge` and
  `take_answered` of `exchange.rs`).

  A message comes from the border agent itself or, inside a UDP_RX, from a device on the mesh.
  A repeated confirmable message gets its first reply again; a response completes the exchange
  it answers; a notification becomes an event; relayed joiner traffic goes to that joiner's
  session.
-/

import Meshcop.Driver.Exchange

namespace Meshcop

open Lib

/-- A Reset ends the exchange at once. -/
def COAP_RESET_ERROR : String := "CoAP request was reset by the peer"

/-- Whether a message is a response (2.xx, 4.xx or 5.xx). -/
def isResponse (message : CoapMessage) : Bool :=
  let codeClass := message.code.value >>> 5
  codeClass = 2 || codeClass = 4 || codeClass = 5

/-- Whether `response`, which came by the given route, answers an exchange. -/
def Pending.isAnsweredBy (response : CoapMessage) (proxied : Bool) (pending : Pending) : Bool :=
  pending.isProxied = proxied &&
    (response.isResetFor pending.request.messageId ||
      (isResponse response && response.token = pending.request.token))

/-- Whether `ack`, which came by the given route, is the empty ACK of an exchange. -/
def Pending.isAcknowledgedBy (ack : CoapMessage) (proxied : Bool) (pending : Pending) : Bool :=
  pending.isProxied = proxied && ack.isEmptyAckFor pending.request.messageId

def notificationToEvent (notification : MeshcopNotification) (peerAddr : Text) :
    CommissionerEvent :=
  match notification with
  | .datasetChanged => .datasetChanged
  | .diagGetAnswer data => .diagnosticAnswer peerAddr data
  | .panIdConflict channelMask panId => .panIdConflict peerAddr channelMask panId
  | .energyReport channelMask energyList => .energyReport peerAddr channelMask energyList
  | .relayRx joinerUdpPort _ joinerIid payload => .joinerMessage joinerIid.bytes joinerUdpPort payload

namespace Driver

variable {env : Env}

/-! ## §1. Answered messages. -/

/-- Drops expired entries from the front; the clock is read for each entry looked at. -/
def forgetExpiredFrom : List Answered → Driver env → Driver env
  | [], d => { d with answered := [] }
  | entry :: entries, d =>
    let d := d.readClock
    if d.world.now - entry.answeredAt ≥ EXCHANGE_LIFETIME then forgetExpiredFrom entries d
    else { d with answered := entry :: entries }

def forgetExpired (d : Driver env) : Driver env := forgetExpiredFrom d.answered d

/-- The reply already sent to a message, if it was answered within the exchange lifetime. -/
def replyTo (d : Driver env) (origin : Destination) (messageId : UInt16) :
    Option CoapMessage × Driver env :=
  let d := d.forgetExpired
  ((d.answered.find? (fun entry => entry.origin = origin ∧ entry.messageId = messageId)).map
    Answered.reply, d)

/-- Records that a message was answered. -/
def remember (d : Driver env) (origin : Destination) (messageId : UInt16) (reply : CoapMessage) :
    Driver env :=
  let d := d.forgetExpired
  let kept := if d.answered.length = MAX_REMEMBERED then d.answered.tail else d.answered
  let d := d.readClock
  let entry := { origin, messageId, reply, answeredAt := d.world.now }
  { d with answered := kept ++ [entry] }.log (.replied origin messageId reply d.world.now)

/-- Forgets the border agent's messages: a reopened DTLS session may reuse their IDs. -/
def forgetBorderAgent (d : Driver env) : Driver env :=
  { d with answered := d.answered.filter (fun entry => entry.origin ≠ .borderAgent) }

/-! ## §2. Replies. -/

/-- Sends a reply directly, or through the UDP proxy. -/
def sendReply (reply : CoapMessage) (origin : Destination) : DriverM env Unit := do
  let wire ← wireMessage reply origin
  send .other wire

/-- Sends a reply to a confirmable message and remembers it for retransmissions. -/
def reply (message reply : CoapMessage) (origin : Destination) : DriverM env Unit := do
  sendReply reply origin
  modify (·.remember origin message.messageId reply)

/-- Repeats the reply to a retransmitted confirmable message; says whether it was one. -/
def answerRetransmission (message : CoapMessage) (origin : Destination) : DriverM env Bool := do
  if message.ty ≠ .confirmable then return false
  else
    let d ← get
    let (reply, d) := d.replyTo origin message.messageId
    set d
    match reply with
    | none => return false
    | some reply =>
      sendReply reply origin
      return true

def ackIfConfirmable (message : CoapMessage) : DriverM env Unit :=
  onlyIf (message.ty = .confirmable)
    (reply message (.emptyAck message.messageId) .borderAgent)

/-! ## §3. Answered exchanges. -/

/-- Stops retransmitting the exchange that an empty ACK acknowledges; says whether there is
    one. -/
def acknowledge (d : Driver env) (ack : CoapMessage) (proxied : Bool) : Option (Driver env) :=
  match d.inFlight.findIdx? (Pending.isAcknowledgedBy ack proxied) with
  | none => none
  | some index =>
    some { d with inFlight := d.inFlight.modify index (fun p => { p with retryAt := none }) }

/-- Takes out the exchange that a message answers. -/
def takeAnswered (d : Driver env) (response : CoapMessage) (proxied : Bool) :
    Option (Pending × Driver env) :=
  match d.inFlight.find? (Pending.isAnsweredBy response proxied) with
  | none => none
  | some pending =>
    some (pending, { d with
      inFlight := d.inFlight.eraseP (Pending.isAnsweredBy response proxied) }.log
        (.taken pending.completion))

/-! ## §4. Joiner relay. -/

/-- What the events of a joiner session ask for. -/
structure Relayed where
  transmissions : List (Bytes × Option Bytes)
  events : List CommissionerEvent
  failed : Bool

/-- The loop over a joiner session's events; a KEK that cannot be derived stops it. -/
def relayEvents (session : JoinerSession env.crypto) (joinerId : JoinerId) :
    List JoinerSessionEvent → env.handler.State → Relayed × env.handler.State
  | [], state => ({ transmissions := [], events := [], failed := false }, state)
  | .transmit datagram includeKek :: events, state =>
    if includeKek then
      match session.joinerRouterKek with
      | .error _ => ({ transmissions := [], events := [], failed := true }, state)
      | .ok kek =>
        let (relayed, state) := relayEvents session joinerId events state
        ({ relayed with transmissions := (datagram, some kek) :: relayed.transmissions }, state)
    else
      let (relayed, state) := relayEvents session joinerId events state
      ({ relayed with transmissions := (datagram, none) :: relayed.transmissions }, state)
  | .connected :: events, state =>
    let state := env.handler.onJoinerConnected joinerId state
    let (relayed, state) := relayEvents session joinerId events state
    ({ relayed with events := .joinerConnected joinerId :: relayed.events }, state)
  | .finalized accepted info :: events, state =>
    let (relayed, state) := relayEvents session joinerId events state
    ({ relayed with events := .joinerFinalized joinerId accepted info :: relayed.events }, state)

/-- Relays datagrams to a joiner, in order, until one cannot be sent. -/
def relayTransmissions (session : JoinerSession env.crypto) :
    List (Bytes × Option Bytes) → DriverM env Unit
  | [] => return ()
  | (datagram, kek) :: transmissions => do
    let relay ← attempt id (relayTxRequestWithKek 0 [] session.joinerIid.bytes
      session.joinerUdpPort session.joinerRouterLocator datagram kek)
    let d ← get
    let (relay, d) := d.assignIdentity relay
    set d
    send .other relay
    relayTransmissions session transmissions

def publishAll (d : Driver env) (events : List CommissionerEvent) : Driver env :=
  events.foldl publish d

def joinerSession? (d : Driver env) (joinerId : JoinerId) : Option (JoinerSession env.crypto) :=
  (d.joinerSessions.find? (fun entry => entry.1 = joinerId)).map Prod.snd

def putJoinerSession (d : Driver env) (joinerId : JoinerId) (session : JoinerSession env.crypto) :
    Driver env :=
  { d with joinerSessions :=
      d.joinerSessions.map (fun entry => if entry.1 = joinerId then (joinerId, session) else entry) }

def removeJoinerSession (d : Driver env) (joinerId : JoinerId) : Driver env :=
  { d with joinerSessions := d.joinerSessions.filter (fun entry => entry.1 ≠ joinerId) }

/-- The session of a joiner, opened if the application enables the joiner. -/
def openJoinerSession (joinerUdpPort joinerRouterLocator : UInt16) (joinerIid : FixedBytes 8)
    (now : Nat) (state : env.handler.State) (d : Driver env) :
    Option (JoinerSession env.crypto) × env.handler.State × Driver env :=
  let joinerId := joinerIdFromIid joinerIid
  match d.joinerSession? joinerId with
  | some session => (some session, state, d)
  | none =>
    match env.handler.joinerPskd joinerId state with
    | (none, state) => (none, state, { d with joinerHandler := some state })
    | (some pskd, state) =>
      let (session, rng) :=
        JoinerSession.new joinerIid joinerUdpPort joinerRouterLocator pskd now d.world.rng
      (some session, state, { d with
        joinerHandler := some state
        joinerSessions := d.joinerSessions ++ [(joinerId, session)]
        world := { d.world with rng } })

/-- Feeds a payload into a joiner's session and acts on its events. -/
def feedJoiner (joinerId : JoinerId) (session : JoinerSession env.crypto)
    (state : env.handler.State) (payload : Bytes) : DriverM env Unit := do
  modify (·.log (.fed joinerId payload))
  let d ← get
  let receiving : Receiving env.crypto env.handler :=
    { session, handlerState := state, rng := d.world.rng, events := [] }
  match Receiving.receive payload receiving with
  | .error _ received =>
    modify fun d => ({ d with joinerHandler := some received.handlerState
                              world := { d.world with rng := received.rng } }
      : Driver env).removeJoinerSession joinerId
  | .ok events received =>
    let (relayed, state) := relayEvents received.session joinerId events received.handlerState
    modify fun d => ({ d with joinerHandler := some state
                              world := { d.world with rng := received.rng } }
      : Driver env).putJoinerSession joinerId received.session
    modify (·.publishAll relayed.events)
    if relayed.failed then modify (·.removeJoinerSession joinerId)
    else relayTransmissions session relayed.transmissions

/-- Drives the joiner session of one RLY_RX payload. -/
def handleRelayRx (joinerUdpPort joinerRouterLocator : UInt16) (joinerIid : FixedBytes 8)
    (payload : Bytes) : DriverM env Unit := do
  modify readClock
  modify fun d => { d with
    joinerSessions := d.joinerSessions.filter (fun entry => !entry.2.expired d.world.now) }
  let d ← get
  match d.joinerHandler with
  | none => return ()
  | some state =>
    let (session, state, d) :=
      openJoinerSession joinerUdpPort joinerRouterLocator joinerIid d.world.now state d
    set d
    match session with
    | none => return ()
    | some session => feedJoiner (joinerIdFromIid joinerIid) session state payload

/-! ## §5. Routing. -/

/-- A dataset change may move the mesh-local prefix. -/
def noteDatasetChange (d : Driver env) (notification : MeshcopNotification) : Driver env :=
  if notification = .datasetChanged then d.invalidateMeshLocalPrefix else d

/-- Routes a notification of the border agent; says whether it was one. -/
def routeUnsolicitedMessage (message : CoapMessage) : DriverM env Bool := do
  let notification ← attempt id (parseNotification message)
  match notification with
  | none => return false
  | some notification =>
    let d ← get
    match notification, d.joinerHandler with
    | .relayRx joinerUdpPort joinerRouterLocator joinerIid payload, some _ =>
      handleRelayRx joinerUdpPort joinerRouterLocator joinerIid payload
      return true
    | _, _ =>
      modify (·.noteDatasetChange notification)
      modify (·.publish (notificationToEvent notification env.borderAgent))
      return true

/-- Routes a notification that came encapsulated in UDP_RX; says whether it was one. -/
def routeUnsolicitedProxied (inner : CoapMessage) (udpRx : UdpRx) (origin : Destination) :
    DriverM env Bool := do
  let notification ← attempt id (parseNotification inner)
  match notification with
  | none => return false
  | some notification =>
    modify (·.noteDatasetChange notification)
    modify (·.publish (notificationToEvent notification (env.ipv6Text udpRx.sourceAddress)))
    onlyIf (inner.ty = .confirmable) (reply inner (.emptyChangedResponse inner) origin)
    return true

/-- Routes a message of the border agent itself. -/
def routeDirect (incoming : CoapMessage) : DriverM env Unit := do
  let repeated ← answerRetransmission incoming .borderAgent
  if repeated then return ()
  else
    let d ← get
    match d.acknowledge incoming false with
    | some d => set d
    | none =>
      match d.takeAnswered incoming false with
      | some (pending, d) =>
        set d
        if incoming.ty = .reset then
          modify (·.complete pending.completion (.error (.invalidState COAP_RESET_ERROR)))
        else
          ackIfConfirmable incoming
          modify (·.complete pending.completion (.ok (some incoming)))
      | none =>
        let unsolicited ← routeUnsolicitedMessage incoming
        if unsolicited then ackIfConfirmable incoming
        else return ()

/-- Routes what a device on the mesh sent through the UDP proxy. -/
def routeProxied (udpRx : UdpRx) (inner : CoapMessage) : DriverM env Unit := do
  let origin := .mesh udpRx.sourceAddress udpRx.sourcePort
  let repeated ← answerRetransmission inner origin
  if repeated then return ()
  else
    let d ← get
    match d.acknowledge inner true with
    | some d => set d
    | none =>
      match d.takeAnswered inner true with
      | some (pending, d) =>
        set d
        if inner.ty = .reset then
          modify (·.complete pending.completion (.error (.invalidState COAP_RESET_ERROR)))
        else
          onlyIf (inner.ty = .confirmable) (reply inner (.emptyAck inner.messageId) origin)
          modify (·.complete pending.completion (.ok (some inner)))
      | none =>
        let _ ← routeUnsolicitedProxied inner udpRx origin
        return ()

/-- Routes one received message. -/
def routeIncoming (incoming : CoapMessage) : DriverM env Unit :=
  match parseUdpRx incoming with
  | .error _ => return ()
  | .ok none => routeDirect incoming
  | .ok (some udpRx) =>
    if udpRx.destinationPort ≠ DEFAULT_MM_PORT then return ()
    else
      match CoapMessage.decode udpRx.payload with
      | .error _ => return ()
      | .ok inner => routeProxied udpRx inner

/-! ## What relaying does. -/

/-- Sending only adds to the history and counts. -/
theorem send_keeps {I : Driver env → Prop} {kind : SendKind} {message : CoapMessage}
    (hlog : ∀ d, I d → I (d.log (.sent kind message))) (hcount : ∀ d : Driver env, I d →
      I { d with world := { d.world with sends := d.world.sends + 1 } }) :
    Keeps I (send kind message) := by
  refine keeps_bind (keeps_modify hlog) fun _ => keeps_bind keeps_get fun d => ?_
  by_cases hclosed : d.linkOpen = false
  · rw [if_pos hclosed]
    exact keeps_throw _
  rw [if_neg hclosed]
  refine keeps_bind (keeps_attempt _ _) fun _ => keeps_bind (keeps_modify hcount) fun _ => ?_
  cases env.sendResult d.world.sends with
  | none => exact keeps_pure ()
  | some error => exact keeps_throw _

/-- Relaying draws an identity for each reply and sends it. -/
theorem relayTransmissions_keeps {I : Driver env → Prop} (session : JoinerSession env.crypto)
    (hassign : ∀ (d : Driver env) (relay : CoapMessage), I d → I (d.assignIdentity relay).2)
    (hlog : ∀ (d : Driver env) (relay : CoapMessage) (datagram : Bytes) (kek : Option Bytes)
      (messageId : UInt16) (token : Bytes),
      relayTxRequestWithKek 0 [] session.joinerIid.bytes session.joinerUdpPort
        session.joinerRouterLocator datagram kek = .ok relay →
      I d → I (d.log (.sent .other { relay with messageId, token })))
    (hcount : ∀ d : Driver env, I d →
      I { d with world := { d.world with sends := d.world.sends + 1 } })
    (transmissions : List (Bytes × Option Bytes)) :
    Keeps I (relayTransmissions session transmissions) := by
  induction transmissions with
  | nil => exact keeps_pure ()
  | cons transmission transmissions ih =>
    obtain ⟨datagram, kek⟩ := transmission
    intro d h
    simp only [relayTransmissions, wp_bind, wp_get, wp_set]
    refine wp_attempt.mpr ⟨fun relay hbuilt => ?_, fun _ _ => h⟩
    have hsend : Keeps I (send .other (d.assignIdentity relay).1) :=
      send_keeps (fun d' h' => hlog d' relay datagram kek _ _ hbuilt h') hcount
    exact wp_imp (hsend _ (hassign d relay h)) (fun _ d' h' => ih d' h')

/-- A joiner session causes events about its joiner only. -/
theorem relayEvents_joiner (session : JoinerSession env.crypto) (joinerId : JoinerId)
    (events : List JoinerSessionEvent) (state : env.handler.State) :
    ∀ event ∈ (relayEvents session joinerId events state).1.events,
      event = .joinerConnected joinerId ∨
        ∃ accepted info, event = .joinerFinalized joinerId accepted info := by
  induction events generalizing state with
  | nil => exact List.forall_mem_nil _
  | cons event events ih =>
    cases event with
    | transmit datagram includeKek =>
      unfold relayEvents
      cases includeKek with
      | true =>
        cases session.joinerRouterKek with
        | error e => exact List.forall_mem_nil _
        | ok kek => exact ih state
      | false => exact ih state
    | connected =>
      intro event hmem
      rcases List.mem_cons.mp hmem with hfirst | hrest
      · exact .inl hfirst
      · exact ih _ event hrest
    | finalized accepted info =>
      intro event hmem
      rcases List.mem_cons.mp hmem with hfirst | hrest
      · exact .inr ⟨accepted, info, hfirst⟩
      · exact ih _ event hrest

end Driver

end Meshcop
