/-
  Meshcop.Driver.State — what the session driver holds and what it asks of the outside
  (`meshcop/src/commissioner/{types,config}.rs`, the records of
  `commissioner/client/driver/{mod,exchange,duplicates,link}.rs`).

  One task owns the connection to the border agent.  It keeps the requests in flight and the
  ones waiting, the confirmable messages it has answered, the joiner sessions and the status
  every handle sees.  The outside is a parameter `Env`: the clock, the random tokens, which
  sends and handshakes fail, the application's joiner handler and the cryptography.

  `trace` and `nextChannel` are history variables: the trace records what the driver did, in
  order, and reply channels are numbered as the driver first uses them.  No method reads the
  trace.
-/

import Meshcop.Joiner.Session

namespace Meshcop

open Lib
open Dtls (Crypto)

/-! ## §1. The types of the commissioner. -/

/-- Where a commissioner session stands. -/
inductive SessionStatus where
  | connected
  | idle
  | petitioning
  | active (sessionId : UInt16)
  | closed (reason : CloseReason)
  deriving DecidableEq, Repr

namespace SessionStatus

def sessionId : SessionStatus → Option UInt16
  | active sessionId => some sessionId
  | _ => none

def isClosed : SessionStatus → Bool
  | closed _ => true
  | _ => false

end SessionStatus

/-- Where a request is sent. -/
inductive Destination where
  | borderAgent
  | mesh (address : Ipv6Addr) (port : UInt16)
  deriving DecidableEq, Repr

inductive ResultCode where
  | accept
  | reject
  | pending
  deriving DecidableEq, Repr

structure PetitionResponse where
  sessionId : UInt16
  existingCommissionerId : Option Text
  deriving DecidableEq, Repr

/-- Events of a session. -/
inductive CommissionerEvent where
  | sessionLost (reason : CloseReason)
  | keepAliveResponse (code : ResultCode)
  | datasetChanged
  | panIdConflict (peerAddr : Text) (channelMask : UInt32) (panId : UInt16)
  | energyReport (peerAddr : Text) (channelMask : UInt32) (energyList : Bytes)
  | joinerMessage (joinerId : Bytes) (port : UInt16) (payload : Bytes)
  | diagnosticAnswer (peerAddr : Text) (data : NetDiagData)
  | joinerConnected (joinerId : JoinerId)
  | joinerFinalized (joinerId : JoinerId) (accepted : Bool) (info : JoinerFinalizeInfo)
  deriving DecidableEq, Repr

def CommissionerEvent.isSessionLost : CommissionerEvent → Bool
  | sessionLost _ => true
  | _ => false

/-- Who sends keep-alives. -/
inductive KeepAlive where
  | automatic
  | manual
  deriving DecidableEq, Repr

/-- The configuration the driver reads. -/
structure CommissionerConfig where
  commissionerId : Text
  keepaliveInterval : Nat
  keepAlive : KeepAlive

def MIN_KEEPALIVE_INTERVAL : Nat := 30 * SECOND
def MAX_KEEPALIVE_INTERVAL : Nat := 45 * SECOND

/-- `Error::Configuration`, which the driver never meets. -/
structure ConfigurationError where
  message : String
  deriving DecidableEq, Repr

/-- Validates the bounded fields of a configuration; the driver itself does not read the event
    capacity. -/
def CommissionerConfig.validate (config : CommissionerConfig) (eventCapacity : Nat) :
    Except ConfigurationError Unit :=
  if ¬(MIN_KEEPALIVE_INTERVAL ≤ config.keepaliveInterval ∧
      config.keepaliveInterval ≤ MAX_KEEPALIVE_INTERVAL) then
    .error ⟨"keepalive interval must be between 30 and 45 seconds"⟩
  else if eventCapacity = 0 then .error ⟨"event capacity must be non-zero"⟩
  else .ok ()

/-! ## §2. Exchanges. -/

def MILLISECOND : Nat := 1000000

def COAP_ACK_TIMEOUT : Nat := 2 * SECOND
def COAP_ACK_RANDOM_WINDOW_MILLIS : Nat := 1000
def COAP_MAX_RETRANSMIT : Nat := 2
def MAX_APPLICATION_IN_FLIGHT : Nat := 1
def TOKEN_LENGTH : Nat := 4
def COAP_EXCHANGE_TIMEOUT : Nat := 12 * SECOND

structure CoapRetransmitSchedule where
  timeout : Nat
  retransmissions : Nat
  deriving DecidableEq, Repr

namespace CoapRetransmitSchedule

/-- The first timeout: two seconds and up to one more, by the drawn number. -/
def randomized (drawn : UInt32) : CoapRetransmitSchedule :=
  let jitter := drawn.toNat % (COAP_ACK_RANDOM_WINDOW_MILLIS + 1)
  { timeout := COAP_ACK_TIMEOUT + jitter * MILLISECOND, retransmissions := 0 }

/-- The time until the next retransmission, if there is one. -/
def nextTimeout (schedule : CoapRetransmitSchedule) : Option Nat :=
  if schedule.retransmissions < COAP_MAX_RETRANSMIT then some schedule.timeout else none

def recordRetransmission (schedule : CoapRetransmitSchedule) : CoapRetransmitSchedule :=
  { timeout := schedule.timeout * 2, retransmissions := min (schedule.retransmissions + 1) 255 }

end CoapRetransmitSchedule

/-- A request waiting to be sent. -/
structure Outbound where
  message : CoapMessage
  destination : Destination
  expectResponse : Bool
  deriving DecidableEq, Repr

/-- Who is waiting for an exchange; reply channels stand by their numbers. -/
inductive Completion where
  /-- A handle's request. -/
  | caller (id : UInt64) (reply : Nat)
  | petition (reply : Nat)
  /-- A keep-alive; nobody waits for one the driver scheduled. -/
  | keepAlive (reply : Option Nat)
  /-- A resignation; nobody waits once every handle was dropped. -/
  | resign (reply : Option Nat)
  deriving DecidableEq, Repr

namespace Completion

def isApplication : Completion → Bool
  | caller _ _ => true
  | _ => false

def isCaller (id : UInt64) : Completion → Bool
  | caller id' _ => id' = id
  | _ => false

def isPetition : Completion → Bool
  | petition _ => true
  | _ => false

def isKeepAlive : Completion → Bool
  | keepAlive _ => true
  | _ => false

def isResign : Completion → Bool
  | resign _ => true
  | _ => false

/-- The waiter's channel. -/
def channel : Completion → Option Nat
  | caller _ reply => some reply
  | petition reply => some reply
  | keepAlive reply => reply
  | resign reply => reply

end Completion

/-- A sent request waiting for its response. -/
structure Pending where
  request : CoapMessage
  destination : Destination
  retransmit : Option CoapRetransmitSchedule
  retryAt : Option Nat
  deadline : Nat
  completion : Completion
  deriving DecidableEq, Repr

/-- Whether answers come through the UDP proxy. -/
def Pending.isProxied (pending : Pending) : Bool :=
  match pending.destination with
  | .mesh _ _ => true
  | .borderAgent => false

/-- Doubles the timeout of a retransmitted exchange, or stops retransmitting it. -/
def Pending.retransmitted (now : Nat) (pending : Pending) : Pending :=
  match pending.retransmit with
  | none => pending
  | some schedule =>
    let schedule := schedule.recordRetransmission
    { pending with retransmit := some schedule
                   retryAt := schedule.nextTimeout.map (now + ·) }

/-- What a waiter is sent. -/
inductive Reply where
  | exchange (outcome : Except Error (Option CoapMessage))
  | petition (outcome : Except Error PetitionResponse)
  | keepAlive (outcome : Except Error ResultCode)
  | resign (outcome : Except Error Unit)

/-- Whether a waiter learns of a failure. -/
def Reply.isError : Reply → Bool
  | exchange (.error _) | petition (.error _) | keepAlive (.error _) | resign (.error _) => true
  | _ => false

/-! ## §3. Answered messages. -/

def EXCHANGE_LIFETIME : Nat := 247 * SECOND
def MAX_REMEMBERED : Nat := 64

/-- A confirmable message that was answered, and when. -/
structure Answered where
  origin : Destination
  messageId : UInt16
  reply : CoapMessage
  answeredAt : Nat
  deriving DecidableEq, Repr

/-! ## §4. The driver and the outside. -/

/-- Why a message is handed to the link. -/
inductive SendKind where
  /-- A request, for the first time. -/
  | request (completion : Completion)
  | retransmission (completion : Completion)
  /-- Acknowledgements, replies and relayed joiner records. -/
  | other
  deriving DecidableEq, Repr

/-- What the trace records. -/
inductive Action where
  | statusSet (status : SessionStatus)
  | published (event : CommissionerEvent)
  /-- A waiter was sent its outcome. -/
  | delivered (waiter : Completion) (reply : Reply)
  /-- A command was answered without an exchange. -/
  | answeredAtOnce (waiter : Completion) (reply : Reply)
  | sent (kind : SendKind) (message : CoapMessage)
  /-- A handle's request was accepted. -/
  | accepted (id : UInt64)
  | withdrawn (id : UInt64)
  /-- A received message answered an exchange, which was taken out. -/
  | taken (completion : Completion)
  /-- A confirmable message was replied to for the first time. -/
  | replied (origin : Destination) (messageId : UInt16) (reply : CoapMessage) (time : Nat)
  | reopened
  /-- The cached mesh-local prefix was dropped. -/
  | invalidated
  /-- A relay payload went into a joiner session. -/
  | fed (joinerId : JoinerId) (payload : Bytes)
  /-- The session ended while these exchanges were in flight or queued. -/
  | ended (reason : CloseReason) (waiters : List Completion)

/-- The outside of the driver: each `Nat` argument counts the uses so far. -/
structure Env where
  crypto : Crypto
  handler : JoinerHandler
  config : CommissionerConfig
  /-- The border agent's address, as text. -/
  borderAgent : Text
  /-- `Ipv6Addr::to_string`. -/
  ipv6Text : Ipv6Addr → Text
  /-- How much time passes before a reading of the clock. -/
  elapsed : Nat → Nat
  /-- The bytes drawn for a token. -/
  draw : Nat → FixedBytes 4
  /-- How many draws it takes to meet a token that is not among the given ones. -/
  patience : Nat → List Bytes → Nat
  /-- As long as not every token is in use, drawing on meets an unused one. -/
  fresh : ∀ (draws : Nat) (used : List Bytes), used.length < 256 ^ TOKEN_LENGTH →
    ∃ k < patience draws used, (draw (draws + k)).bytes ∉ used
  /-- The number drawn for a retransmission schedule. -/
  jitter : Nat → UInt32
  /-- Whether a send fails, and how. -/
  sendResult : Nat → Option Dtls.Error
  /-- Whether opening a new DTLS session fails, and how. -/
  reopenResult : Nat → Option Error

/-- How far the outside has been used. -/
structure World (env : Env) where
  /-- The latest reading of the clock. -/
  now : Nat
  reads : Nat
  draws : Nat
  jitters : Nat
  sends : Nat
  reopens : Nat
  rng : env.crypto.Rng

/-- The cached mesh-local prefix. -/
structure PrefixCache where
  cached : Option (FixedBytes 8)
  generation : UInt64

structure Driver (env : Env) where
  linkOpen : Bool
  meshLocalPrefix : PrefixCache
  status : SessionStatus
  nextMessageId : UInt16
  inFlight : List Pending
  queued : List (Outbound × Completion)
  answered : List Answered
  keepAliveAt : Option Nat
  joinerHandler : Option env.handler.State
  joinerSessions : List (JoinerId × JoinerSession env.crypto)
  handlesDropped : Bool
  world : World env
  /-- History variable: the number of the next reply channel. -/
  nextChannel : Nat
  /-- History variable. -/
  trace : List Action

abbrev DriverM (env : Env) := EStateM Error (Driver env)

namespace Driver

variable {env : Env}

/-- The driver of a freshly connected session. -/
def new (rng : env.crypto.Rng) : Driver env where
  linkOpen := true
  meshLocalPrefix := { cached := none, generation := 0 }
  status := .connected
  nextMessageId := 0
  inFlight := []
  queued := []
  answered := []
  keepAliveAt := none
  joinerHandler := none
  joinerSessions := []
  handlesDropped := false
  world := { now := 0, reads := 0, draws := 0, jitters := 0, sends := 0, reopens := 0, rng }
  nextChannel := 0
  trace := []

/-! ## §5. Single effects. -/

/-- Appends to the history. -/
def log (d : Driver env) (action : Action) : Driver env :=
  { d with trace := d.trace ++ [action] }

def isClosed (d : Driver env) : Bool := d.status.isClosed

def sessionId (d : Driver env) : Option UInt16 := d.status.sessionId

def setStatus (d : Driver env) (status : SessionStatus) : Driver env :=
  { d with status }.log (.statusSet status)

def publish (d : Driver env) (event : CommissionerEvent) : Driver env :=
  d.log (.published event)

/-- Sends the waiter, if there is one, its outcome. -/
def deliver (d : Driver env) (waiter : Completion) (reply : Reply) : Driver env :=
  if waiter.channel.isSome then d.log (.delivered waiter reply) else d

/-- Sends the waiter of the command at hand its outcome at once. -/
def answer (d : Driver env) (waiter : Nat → Completion) (reply : Reply) : Driver env :=
  { d.log (.answeredAtOnce (waiter d.nextChannel) reply) with nextChannel := d.nextChannel + 1 }

def applicationInFlight (d : Driver env) : Nat :=
  d.inFlight.countP (fun pending => pending.completion.isApplication)

def resigning (d : Driver env) : Bool :=
  d.inFlight.any (fun pending => pending.completion.isResign)

def keepAliveOutstanding (d : Driver env) : Bool :=
  d.inFlight.any (fun pending => pending.completion.isKeepAlive)

/-- Reads the clock. -/
def readClock (d : Driver env) : Driver env :=
  { d with world := { d.world with now := d.world.now + env.elapsed d.world.reads
                                   reads := d.world.reads + 1 } }

def invalidateMeshLocalPrefix (d : Driver env) : Driver env :=
  { d with meshLocalPrefix :=
      { cached := none, generation := d.meshLocalPrefix.generation + 1 } }.log .invalidated

/-- The tokens of the exchanges in flight. -/
def tokens (d : Driver env) : List Bytes := d.inFlight.map (fun pending => pending.request.token)

/-- Draws until a token is not in use.  The fuel is the environment's patience, so the first
    case is only met when every token is in use. -/
def drawToken (env : Env) (used : List Bytes) : (fuel : Nat) → (draws : Nat) → Bytes × Nat
  | 0, draws => ((env.draw draws).bytes, draws + 1)
  | fuel + 1, draws =>
    let token := (env.draw draws).bytes
    if token ∈ used then drawToken env used fuel (draws + 1) else (token, draws + 1)

def unusedToken (d : Driver env) : Bytes × Driver env :=
  let (token, draws) := drawToken env d.tokens (env.patience d.world.draws d.tokens) d.world.draws
  (token, { d with world := { d.world with draws } })

/-- Gives a message the next message ID and an unused token. -/
def assignIdentity (d : Driver env) (message : CoapMessage) : CoapMessage × Driver env :=
  let d := { d with nextMessageId := d.nextMessageId + 1 }
  let (token, d) := d.unusedToken
  ({ message with messageId := d.nextMessageId, token }, d)

/-- The message to put on the wire: the request itself, or its UDP_TX encapsulation. -/
def wireMessage (request : CoapMessage) : Destination → DriverM env CoapMessage
  | .borderAgent => return request
  | .mesh address port => do
    let inner ← attempt id request.encode
    let outer ← attempt id (udpTxRequest 0 [] address port inner)
    let d ← get
    let (outer, d) := d.assignIdentity outer
    set d
    return outer

/-- `Link::send` on the live link: nothing is sent without a session or an encoding, and then
    the DTLS layer may fail. -/
def send (kind : SendKind) (message : CoapMessage) : DriverM env Unit := do
  modify (·.log (.sent kind message))
  let d ← get
  if d.linkOpen = false then throw (.invalidState "DTLS session is not established")
  else
    let _ ← attempt id message.encode
    modify fun d => { d with world := { d.world with sends := d.world.sends + 1 } }
    match env.sendResult d.world.sends with
    | none => return ()
    | some error => throw (.dtls error)

end Driver

/-- Whether an error means that the DTLS session or the socket is unusable. -/
def isTransportError : Error → Bool
  | .io _ | .dtls _ => true
  | _ => false

theorem isTransportError_of_isMalformed {error : Error} (h : error.isMalformed = true) :
    isTransportError error = false := by
  cases error with
  | io _ | dtls _ => cases h
  | _ => rfl

/-! ## §6. A transparent outside. -/

/-- An outside that runs: the clock stands, tokens count up, and sends fail as scripted. -/
def Env.transparent (sendResult : Nat → Option Dtls.Error) : Env where
  crypto := Dtls.Crypto.transparent
  handler :=
    { State := Unit
      joinerPskd := fun _ state => (none, state)
      onJoinerConnected := fun _ state => state
      onJoinerFinalize := fun _ _ state => (true, state) }
  config := { commissionerId := [], keepaliveInterval := 40 * SECOND, keepAlive := .automatic }
  borderAgent := []
  ipv6Text _ := []
  elapsed _ := 0
  draw draws := { bytes := toBE 4 (draws % 256 ^ 4), size := length_toBE _ _ }
  patience _ used := used.length + 1
  fresh draws used hfree := exists_toBE_not_mem 4 draws used hfree
  jitter _ := 0
  sendResult
  reopenResult _ := none

/-- A confirmable request to the border agent, without options. -/
def Outbound.bare : Outbound where
  message :=
    { ty := .confirmable, code := .POST, messageId := 0, token := [], options := [], payload := [] }
  destination := .borderAgent
  expectResponse := true

end Meshcop
