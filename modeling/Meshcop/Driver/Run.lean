/-
  Meshcop.Driver.Run — the driver's loop (`commissioner/client/driver/mod.rs`).

  The driver waits for a handle's command, a received datagram, a receive failure or a timer
  and handles it to the end before it waits again.  It takes no commands once every handle was
  dropped, receives nothing while no DTLS session is open, and stops for good when the session
  has ended.
-/

import Meshcop.Driver.Incoming

namespace Meshcop

open Lib

/-- A request from a handle.  The reply channel it carries is numbered when it is used. -/
inductive Command (env : Env) where
  | exchange (id : UInt64) (request : Outbound)
  | withdraw (id : UInt64)
  | petition
  | keepAlive
  | resign
  | setJoinerHandler (handler : Option env.handler.State)

/-- What woke the driver. -/
inductive Wake (env : Env) where
  | command (command : Command env)
  | handlesDropped
  | received (result : Except Error Bytes)
  | timer

/-- Why new work is refused once the session has started resigning. -/
def RESIGNING : String := "commissioner is resigning"

/-- A session-control request for the driver's own exchange. -/
def controlRequest (message : CoapMessage) : Outbound :=
  { message, destination := .borderAgent, expectResponse := true }

namespace Driver

variable {env : Env}

/-! ## §1. Commands. -/

/-- Reopens a connect-only session that the border agent closed. -/
def ensureOpen : DriverM env Unit := do
  let d ← get
  if d.linkOpen then return ()
  else
    modify fun d => { d with world := { d.world with reopens := d.world.reopens + 1 } }
    match env.reopenResult d.world.reopens with
    | some error => throw error
    | none =>
      modify fun d => { d with linkOpen := true }.log .reopened
      modify forgetBorderAgent
      modify (·.setStatus .connected)

/-- Why a petition is refused, if it is. -/
def petitionRefusal : SessionStatus → Option String
  | .connected | .idle => none
  | .petitioning => some "petition is already active"
  | .active _ => some "commissioner is already active"
  | .closed _ => some "commissioner is disconnected"

def petition (d : Driver env) : Driver env :=
  match petitionRefusal d.status with
  | some refusal => d.answer .petition (.petition (.error (.invalidState refusal)))
  | none =>
    match ensureOpen d with
    | .error error d => d.answer .petition (.petition (.error error))
    | .ok _ d =>
      match petitionRequest 0 [] env.config.commissionerId with
      | .error error => d.answer .petition (.petition (.error error))
      | .ok request =>
        let completion := .petition d.nextChannel
        let d := { d with nextChannel := d.nextChannel + 1 }.setStatus .petitioning
        d.start (controlRequest request) completion

def sendKeepAlive (d : Driver env) (completion : Completion) : Driver env :=
  match d.sessionId with
  | none => d.complete completion (.error (.invalidState "commissioner session is not active"))
  | some sessionId =>
    let d := { d with keepAliveAt := none }
    match keepAliveRequest 0 [] sessionId true with
    | .error error => d.complete completion (.error error)
    | .ok request => d.start (controlRequest request) completion

/-- Why a keep-alive command is refused, if it is. -/
def keepAliveRefusal (d : Driver env) : Option String :=
  if d.sessionId = none then some "commissioner session is not active"
  else if d.resigning then some RESIGNING
  else if d.keepAliveOutstanding then some "a keep-alive is already outstanding"
  else none

/-- Resigns an active session; `waiter` is whether somebody waits for it. -/
def resignActive (d : Driver env) (sessionId : UInt16) (waiter : Bool) : Driver env :=
  let completion := .resign (if waiter then some d.nextChannel else none)
  let nextChannel := if waiter then d.nextChannel + 1 else d.nextChannel
  let d := { d with nextChannel, keepAliveAt := none }
  match keepAliveRequest 0 [] sessionId false with
  | .error error => d.complete completion (.error error)
  | .ok request => d.start (controlRequest request) completion

/-- Resigns an active session, or closes an unpetitioned one at once. -/
def resign (d : Driver env) (waiter : Bool) : Driver env :=
  match d.sessionId with
  | none =>
    let d := d.endSession .resigned
    if waiter then d.answer (fun reply => .resign (some reply)) (.resign (.ok ())) else d
  | some sessionId => d.resignActive sessionId waiter

def handleCommand (d : Driver env) : Command env → Driver env
  | .exchange id request =>
    if d.resigning then d.answer (.caller id) (.exchange (.error (.invalidState RESIGNING)))
    else
      match ensureOpen d with
      | .error error d => d.answer (.caller id) (.exchange (.error error))
      | .ok _ d => d.submit id request
  | .withdraw id => d.withdraw id
  | .petition => d.petition
  | .keepAlive =>
    match d.keepAliveRefusal with
    | some refusal =>
      d.answer (fun reply => .keepAlive (some reply)) (.keepAlive (.error (.invalidState refusal)))
    | none =>
      sendKeepAlive { d with nextChannel := d.nextChannel + 1 } (.keepAlive (some d.nextChannel))
  | .resign =>
    if d.resigning then
      d.answer (fun reply => .resign (some reply)) (.resign (.error (.invalidState RESIGNING)))
    else d.resign true
  | .setJoinerHandler handler =>
    { d with joinerHandler := handler
             joinerSessions := if handler.isNone then [] else d.joinerSessions }

def dropHandles (d : Driver env) : Driver env :=
  let d := { d with handlesDropped := true }
  if d.resigning then d else d.resign false

/-! ## §2. The other wakes. -/

def handleDatagram (d : Driver env) (plaintext : Bytes) : Driver env :=
  match CoapMessage.decode plaintext with
  | .error _ => d
  | .ok message =>
    match routeIncoming message d with
    | .ok _ d => d
    | .error error d => if isTransportError error then d.transportFailed error.display else d

/-- The border agent closed a connect-only session, which reopens when a request needs it. -/
def goIdle (d : Driver env) : Driver env :=
  (failAll { d with linkOpen := false } (.sessionLost .peerClosed)).setStatus .idle

def receiveFailed (d : Driver env) (error : Error) : Driver env :=
  if error = .dtls .peerClosed then
    if d.sessionId = none ∧ d.handlesDropped = false then d.goIdle
    else d.endSession .peerClosed
  else d.transportFailed error.display

def runTimers (d : Driver env) : Driver env :=
  let d := d.runExchangeTimers
  if d.isClosed then d
  else
    match d.keepAliveAt with
    | none => d
    | some keepAliveAt =>
      let d := d.readClock
      if keepAliveAt ≤ d.world.now then d.sendKeepAlive (.keepAlive none) else d

/-! ## §3. The loop. -/

/-- The earliest retransmission or deadline among the exchanges in flight. -/
def exchangesDeadline (d : Driver env) : Option Nat :=
  ((d.inFlight.flatMap fun pending => [pending.retryAt, some pending.deadline]).filterMap id).min?

/-- The earliest timer. -/
def nextDeadline (d : Driver env) : Option Nat :=
  ([d.exchangesDeadline, d.keepAliveAt].filterMap id).min?

/-- What the driver's sources hold when it looks at them; a command channel that every handle
    has left holds the end. -/
structure Sources (env : Env) where
  received : Option (Except Error Bytes)
  command : Option (Option (Command env))

/-- What the driver wakes for at a time, if anything: due timers come first, and commands
    last. -/
def nextWake (d : Driver env) (now : Nat) (sources : Sources env) : Option (Wake env) :=
  if d.nextDeadline.any (· ≤ now) then some .timer
  else
    match if d.linkOpen then sources.received else none with
    | some result => some (.received result)
    | none =>
      if d.handlesDropped then none
      else
        match sources.command with
        | none => none
        | some none => some .handlesDropped
        | some (some command) => some (.command command)

/-- Whether the driver can wake in this way. -/
def enabled (d : Driver env) : Wake env → Bool
  | .command _ | .handlesDropped => !d.handlesDropped
  | .received _ => d.linkOpen
  | .timer => true

def dispatch (d : Driver env) : Wake env → Driver env
  | .command command => d.handleCommand command
  | .handlesDropped => d.dropHandles
  | .received (.ok plaintext) => d.handleDatagram plaintext
  | .received (.error error) => d.receiveFailed error
  | .timer => d.runTimers

/-- One iteration of the loop; a driver whose session has ended has left it. -/
def step (d : Driver env) (wake : Wake env) : Driver env :=
  if d.isClosed || !d.enabled wake then d else d.dispatch wake

/-- A run over the given wakes. -/
def run (d : Driver env) (wakes : List (Wake env)) : Driver env := wakes.foldl step d

end Driver

end Meshcop
