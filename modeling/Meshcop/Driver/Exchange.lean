/-
  Meshcop.Driver.Exchange — outstanding exchanges and the end of a session
  (`commissioner/client/driver/exchange.rs`, the outcomes and `end_session` of
  `commissioner/client/driver/mod.rs`).

  Completing an exchange sends the next queued request, which may fail and so complete in
  turn; a failed send ends the session, which completes everything outstanding.  The source
  recurses through boxed futures; here the depth of the recursion is fuel, `depth` is fuel
  enough for any state (`Meshcop.Driver.Sending`), and the methods of the source are the ones
  with that much.
-/

import Meshcop.Driver.State

namespace Meshcop

open Lib

/-! ## §1. Outcomes. -/

/-- Rejects 4.xx and 5.xx responses. -/
def requireSuccessResponse (response : CoapMessage) : Except Error CoapMessage :=
  let responseClass := response.code.value >>> 5
  if responseClass = 4 ∨ responseClass = 5 then
    .error (.invalidState "MeshCoP exchange returned a CoAP error response")
  else .ok response

/-- The successful response of a session-control exchange. -/
def responseRequired (outcome : Except Error (Option CoapMessage)) : Except Error CoapMessage := do
  let response ← outcome
  match response with
  | none => .error (.invalidState "MeshCoP exchange produced no response")
  | some response => requireSuccessResponse response

def resultCodeFromMeshcopState : MeshcopState → ResultCode
  | .accept => .accept
  | .pending => .pending
  | .reject => .reject

/-- What an outcome means for a petition. -/
def petitionResult (outcome : Except Error (Option CoapMessage)) :
    Except Error PetitionResponse := do
  let response ← responseRequired outcome
  let petition ← parsePetitionResponse response
  match petition.state with
  | .accept =>
    match petition.sessionId with
    | none => .error (.invalidState "petition accepted without a session ID")
    | some sessionId =>
      return { sessionId, existingCommissionerId := petition.existingCommissionerId }
  | .pending => .error (.invalidState "petition response is pending")
  | .reject => .error (.petitionRejected petition.existingCommissionerId)

/-- What an outcome means for a keep-alive. -/
def keepAliveResult (outcome : Except Error (Option CoapMessage)) : Except Error ResultCode := do
  let response ← responseRequired outcome
  let state ← parseStateResponse response true
  match state with
  | none => .error (.invalidState "keepalive response did not include state")
  | some state => return resultCodeFromMeshcopState state

/-- What an outcome means for a resignation. -/
def resignResult (outcome : Except Error (Option CoapMessage)) : Except Error Unit := do
  let response ← responseRequired outcome
  let state ← parseStateResponse response true
  if state = some .pending then .error (.invalidState "resign response is pending")
  else return ()

/-- Why a keep-alive's result ends the session, if it does. -/
def keepAliveEnd : Except Error ResultCode → Option CloseReason
  | .ok .accept => none
  | .ok .reject => some .keepAliveRejected
  | .ok .pending => some .keepAlivePending
  | .error error => some (.keepAliveFailed error.display)

namespace Driver

variable {env : Env}

def scheduleKeepAlive (d : Driver env) : Driver env :=
  if env.config.keepAlive = .automatic ∧ d.sessionId.isSome then
    let d := d.readClock
    { d with keepAliveAt := some (d.world.now + env.config.keepaliveInterval) }
  else d

/-- Applies a petition's outcome to the session, unless that has ended. -/
def petitionOutcome (d : Driver env) (outcome : Except Error (Option CoapMessage)) :
    Except Error PetitionResponse × Driver env :=
  let result := petitionResult outcome
  if d.isClosed then (result, d)
  else
    match result with
    | .ok petition => (result, (d.setStatus (.active petition.sessionId)).scheduleKeepAlive)
    | .error _ => (result, d.setStatus .connected)

/-- Removes every in-flight and queued exchange. -/
def drain (d : Driver env) : List Completion × Driver env :=
  (d.inFlight.map Pending.completion ++ d.queued.map Prod.snd
   , { d with inFlight := [], queued := [] })

/-- An exchange whose request was sent at `now`. -/
def sentAt (now : Nat) (retransmit : Option CoapRetransmitSchedule) (request : CoapMessage)
    (destination : Destination) (completion : Completion) : Pending :=
  { request, destination, retransmit
    retryAt := (retransmit.bind CoapRetransmitSchedule.nextTimeout).map (now + ·)
    deadline := now + COAP_EXCHANGE_TIMEOUT, completion }

/-- Tracks the response of a request that was sent; a confirmable one is retransmitted. -/
def track (d : Driver env) (message : CoapMessage) (destination : Destination)
    (completion : Completion) : Driver env :=
  let d := d.readClock
  if message.ty = .confirmable then
    let schedule := CoapRetransmitSchedule.randomized (env.jitter d.world.jitters)
    { d with
      inFlight := d.inFlight ++ [sentAt d.world.now (some schedule) message destination completion]
      world := { d.world with jitters := d.world.jitters + 1 } }
  else
    { d with inFlight := d.inFlight ++ [sentAt d.world.now none message destination completion] }

/-! ## §2. The recursion, with its depth as fuel. -/

mutual

/-- Delivers an exchange's outcome, applying session-control outcomes to the session first. -/
def completeWithin (fuel : Nat) (d : Driver env) (completion : Completion)
    (outcome : Except Error (Option CoapMessage)) : Driver env :=
  match fuel with
  | 0 => d
  | fuel + 1 =>
    match completion with
    | .caller _ _ => sendQueuedWithin fuel (d.deliver completion (.exchange outcome))
    | .petition _ =>
      let (result, d) := d.petitionOutcome outcome
      d.deliver completion (.petition result)
    | .keepAlive reply => keepAliveOutcomeWithin fuel d outcome reply
    | .resign _ =>
      (endSessionWithin fuel d .resigned).deliver completion (.resign (resignResult outcome))

def keepAliveOutcomeWithin (fuel : Nat) (d : Driver env)
    (outcome : Except Error (Option CoapMessage)) (reply : Option Nat) : Driver env :=
  match fuel with
  | 0 => d
  | fuel + 1 =>
    let result := keepAliveResult outcome
    let d := match result with
      | .ok code => d.publish (.keepAliveResponse code)
      | .error _ => d
    let d := d.deliver (.keepAlive reply) (.keepAlive result)
    match keepAliveEnd result with
    | none => d.scheduleKeepAlive
    | some reason => endSessionWithin fuel d reason

/-- Ends the session: fails every outstanding request, publishes the loss unless the
    application ended the session, and closes the link. -/
def endSessionWithin (fuel : Nat) (d : Driver env) (reason : CloseReason) : Driver env :=
  match fuel with
  | 0 => d
  | fuel + 1 =>
    if d.isClosed then d
    else
      let d := d.log (.ended reason d.drain.1)
      let d := d.setStatus (.closed reason)
      let d := { d with keepAliveAt := none, joinerSessions := [], linkOpen := false }
      if reason = .resigned then failAllWithin fuel d .sessionClosed
      else (failAllWithin fuel d (.sessionLost reason)).publish (.sessionLost reason)

/-- Fails every in-flight and queued exchange. -/
def failAllWithin (fuel : Nat) (d : Driver env) (error : Error) : Driver env :=
  match fuel with
  | 0 => d
  | fuel + 1 =>
    let (completions, d) := d.drain
    completions.foldl (fun d completion => completeWithin fuel d completion (.error error)) d

/-- Sends queued application requests while the in-flight limit allows. -/
def sendQueuedWithin (fuel : Nat) (d : Driver env) : Driver env :=
  match fuel with
  | 0 => d
  | fuel + 1 =>
    if d.applicationInFlight < MAX_APPLICATION_IN_FLIGHT then
      match d.queued with
      | [] => d
      | (request, completion) :: queued =>
        let d := startWithin fuel { d with queued } request completion
        if d.isClosed then d else sendQueuedWithin fuel d
    else d

/-- Assigns the request's identity, sends it and tracks its response. -/
def startWithin (fuel : Nat) (d : Driver env) (request : Outbound) (completion : Completion) :
    Driver env :=
  match fuel with
  | 0 => d
  | fuel + 1 =>
    let (message, d) := d.assignIdentity request.message
    match wireMessage message request.destination d with
    | .error error d => completeWithin fuel d completion (.error error)
    | .ok wire d =>
      match send (.request completion) wire d with
      | .error error d => failSendWithin fuel d completion error
      | .ok _ d =>
        if request.expectResponse then d.track message request.destination completion
        else completeWithin fuel d completion (.ok none)

/-- Fails an exchange whose request could not be sent; a transport failure first ends the
    session. -/
def failSendWithin (fuel : Nat) (d : Driver env) (completion : Completion) (error : Error) :
    Driver env :=
  match fuel with
  | 0 => d
  | fuel + 1 =>
    let d := if isTransportError error then endSessionWithin fuel d (.transportFailed error.display)
      else d
    completeWithin fuel d completion (.error error)

end

/-! ## §3. The methods. -/

/-- Fuel enough for every method: a queued request costs at most four calls. -/
def depth (d : Driver env) : Nat := 4 * d.queued.length + 8

def complete (d : Driver env) (completion : Completion)
    (outcome : Except Error (Option CoapMessage)) : Driver env :=
  completeWithin d.depth d completion outcome

def endSession (d : Driver env) (reason : CloseReason) : Driver env :=
  endSessionWithin d.depth d reason

def transportFailed (d : Driver env) (error : Text) : Driver env :=
  d.endSession (.transportFailed error)

def failAll (d : Driver env) (error : Error) : Driver env := failAllWithin d.depth d error

def sendQueued (d : Driver env) : Driver env := sendQueuedWithin d.depth d

def start (d : Driver env) (request : Outbound) (completion : Completion) : Driver env :=
  startWithin d.depth d request completion

/-- Queues a handle's request, sending it when a slot is free. -/
def submit (d : Driver env) (id : UInt64) (request : Outbound) : Driver env :=
  let completion := .caller id d.nextChannel
  sendQueued { d.log (.accepted id) with
    queued := d.queued ++ [(request, completion)], nextChannel := d.nextChannel + 1 }

/-- Forgets the request whose caller stopped waiting: first among the queued, then among the
    ones in flight. -/
def withdraw (d : Driver env) (id : UInt64) : Driver env :=
  let d := d.log (.withdrawn id)
  if d.queued.any (fun entry => entry.2.isCaller id) then
    sendQueued { d with queued := d.queued.eraseP (fun entry => entry.2.isCaller id) }
  else if d.inFlight.any (fun pending => pending.completion.isCaller id) then
    sendQueued { d with
      inFlight := d.inFlight.eraseP (fun pending => pending.completion.isCaller id) }
  else d

/-! ## §4. Timers. -/

/-- Sends a request again. -/
def retransmit (pending : Pending) : DriverM env Unit := do
  let wire ← wireMessage pending.request pending.destination
  send (.retransmission pending.completion) wire

/-- The loop over the exchanges in flight, from an index on.  An iteration removes an exchange
    or passes it, and sending a queued one adds at most one, so their number is fuel enough. -/
def exchangeTimersFrom (now : Nat) : (fuel index : Nat) → Driver env → Driver env
  | 0, _, d => d
  | fuel + 1, index, d =>
    match d.inFlight[index]? with
    | none => d.sendQueued
    | some pending =>
      if pending.deadline ≤ now then
        let d := { d with inFlight := d.inFlight.eraseIdx index }
        let d := d.complete pending.completion (.error (.timeout "MeshCoP exchange timed out"))
        if d.isClosed then d else exchangeTimersFrom now fuel index d
      else if pending.retryAt.any (· ≤ now) then
        match retransmit pending d with
        | .error error d =>
          if isTransportError error then d.transportFailed error.display
          else exchangeTimersFrom now fuel (index + 1)
            { d with inFlight := d.inFlight.modify index (Pending.retransmitted now) }
        | .ok _ d =>
          exchangeTimersFrom now fuel (index + 1)
            { d with inFlight := d.inFlight.modify index (Pending.retransmitted now) }
      else exchangeTimersFrom now fuel (index + 1) d

/-- Retransmits and expires in-flight exchanges whose timers are due. -/
def runExchangeTimers (d : Driver env) : Driver env :=
  let d := d.readClock
  exchangeTimersFrom d.world.now (d.inFlight.length + d.queued.length + 1) 0 d

end Driver

end Meshcop
