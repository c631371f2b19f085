/-
  Meshcop.Driver.Machine — the session as an abstract machine.

  The driver's methods call each other in the middle of their work, and between two calls the
  tables are half updated: an answered exchange is out of the table and its waiter has not
  heard yet.  This file says what a session can do in small moves, over the part of the
  driver's state that the session's rules are about; `hand` is the exchange that the work in
  progress has taken out of the tables.  Every rule of the session is proved once per move,
  and every method of the driver is a sequence of moves (`Meshcop.Driver.RunMoves`).
-/

import Mathlib.Logic.Relation
import Meshcop.Driver.Run

namespace Meshcop

open Lib

/-! ## §1. States. -/

/-- The exchange that the work in progress holds. -/
inductive Hand where
  | empty
  /-- An exchange whose request has not been handed to the link. -/
  | unsent (completion : Completion)
  /-- An exchange that is tracked or completed next. -/
  | held (completion : Completion)
  deriving DecidableEq, Repr

def Hand.completions : Hand → List Completion
  | empty => []
  | unsent completion | held completion => [completion]

/-- What the session's rules are about. -/
structure SessionCore where
  linkOpen : Bool
  status : SessionStatus
  inFlight : List Pending
  queued : List (Outbound × Completion)
  answered : List Answered
  keepAliveAt : Option Nat
  /-- Whether there is a joiner session. -/
  joiners : Bool
  handlesDropped : Bool
  now : Nat
  nextChannel : Nat
  trace : List Action
  hand : Hand

def Driver.core {env : Env} (d : Driver env) (hand : Hand) : SessionCore where
  linkOpen := d.linkOpen
  status := d.status
  inFlight := d.inFlight
  queued := d.queued
  answered := d.answered
  keepAliveAt := d.keepAliveAt
  joiners := !d.joinerSessions.isEmpty
  handlesDropped := d.handlesDropped
  now := d.world.now
  nextChannel := d.nextChannel
  trace := d.trace
  hand

/-- What a waiter is told when its exchange fails. -/
def Completion.failedReply (completion : Completion) (error : Error) : Reply :=
  match completion with
  | .caller _ _ => .exchange (.error error)
  | .petition _ => .petition (.error error)
  | .keepAlive _ => .keepAlive (.error error)
  | .resign _ => .resign (.error error)

/-- Telling a waiter, if there is one. -/
def Completion.tell (completion : Completion) (reply : Reply) : List Action :=
  if completion.channel.isSome then [.delivered completion reply] else []

/-- Telling the waiters of failed exchanges. -/
def tellFailed (error : Error) (completions : List Completion) : List Action :=
  completions.flatMap (fun completion => completion.tell (completion.failedReply error))

/-- The same while the session stays: a failed petition leaves `Petitioning` first. -/
def tellIdle (error : Error) (completions : List Completion) : List Action :=
  completions.flatMap (fun completion =>
    (if completion.isPetition then [.statusSet .connected] else []) ++
      completion.tell (completion.failedReply error))

/-- What the waiters are told when the session ends. -/
def CloseReason.error (reason : CloseReason) : Error :=
  if reason = .resigned then .sessionClosed else .sessionLost reason

/-- The event of a session's end. -/
def CloseReason.loss (reason : CloseReason) : List Action :=
  if reason = .resigned then [] else [.published (.sessionLost reason)]

theorem Completion.mem_tell {completion : Completion} {reply : Reply} {action : Action}
    (h : action ∈ completion.tell reply) : action = .delivered completion reply := by
  unfold Completion.tell at h
  split at h
  · exact List.mem_singleton.mp h
  · cases h

theorem mem_tellFailed {error : Error} {completions : List Completion} {action : Action}
    (h : action ∈ tellFailed error completions) : ∃ completion ∈ completions,
      action = .delivered completion (completion.failedReply error) := by
  obtain ⟨completion, hmem, htell⟩ := List.mem_flatMap.mp h
  exact ⟨completion, hmem, Completion.mem_tell htell⟩

theorem mem_tellIdle {error : Error} {completions : List Completion} {action : Action}
    (h : action ∈ tellIdle error completions) :
    action = .statusSet .connected ∨ ∃ completion ∈ completions,
      action = .delivered completion (completion.failedReply error) := by
  obtain ⟨completion, hmem, haction⟩ := List.mem_flatMap.mp h
  rcases List.mem_append.mp haction with hstatus | htell
  · split at hstatus
    · exact Or.inl (List.mem_singleton.mp hstatus)
    · cases hstatus
  · exact Or.inr ⟨completion, hmem, Completion.mem_tell htell⟩

theorem CloseReason.mem_loss {reason : CloseReason} {action : Action} (h : action ∈ reason.loss) :
    action = .published (.sessionLost reason) := by
  unfold CloseReason.loss at h
  split at h
  · cases h
  · exact List.mem_singleton.mp h

namespace SessionCore

variable (c : SessionCore)

def did (actions : List Action) : SessionCore := { c with trace := c.trace ++ actions }

def isClosed : Bool := c.status.isClosed

/-- The exchanges in flight and queued. -/
def tabled : List Completion := c.inFlight.map Pending.completion ++ c.queued.map Prod.snd

/-- How many exchanges of a kind are at hand or in flight. -/
def live (kind : Completion → Bool) : Nat :=
  c.hand.completions.countP kind + c.inFlight.countP (fun pending => kind pending.completion)

/-- The session after its end. -/
def ended (reason : CloseReason) : SessionCore :=
  { c.did (.ended reason c.tabled :: .statusSet (.closed reason) ::
      (tellFailed reason.error c.tabled ++ reason.loss)) with
    linkOpen := false, status := .closed reason, inFlight := [], queued := []
    keepAliveAt := none, joiners := false }

/-- The session after the border agent closed an unpetitioned one. -/
def idled : SessionCore :=
  { c.did (tellIdle (.sessionLost .peerClosed) c.tabled ++ [.statusSet .idle]) with
    linkOpen := false, status := .idle, inFlight := [], queued := [] }

end SessionCore

/-! ## §2. Moves. -/

/-- Actions that concern no exchange and no status. -/
def Action.neutral : Action → Bool
  | .sent .other _ | .invalidated | .fed _ _ | .taken _ => true
  | .published event => !event.isSessionLost
  | _ => false

def Action.isPublished : Action → Bool
  | .published _ => true
  | _ => false

/-- **What a session does by itself.** -/
inductive Move (c : SessionCore) : SessionCore → Prop
  /-- Time passes. -/
  | tick (now : Nat) : c.now ≤ now → Move c { c with now }
  | note (action : Action) : action.neutral → (action.isPublished → c.isClosed = false) →
      Move c (c.did [action])
  /-- Joiner sessions come and go. -/
  | relay (joiners : Bool) : c.isClosed = false → Move c { c with joiners }
  | retransmit (pending : Pending) (message : CoapMessage) : pending ∈ c.inFlight →
      Move c (c.did [.sent (.retransmission pending.completion) message])
  /-- An exchange's timers change. -/
  | touch (before after : List Pending) (old new : Pending) :
      c.inFlight = before ++ old :: after → new.request = old.request →
      new.destination = old.destination → new.completion = old.completion →
      Move c { c with inFlight := before ++ new :: after }
  | withdrawQueued (id : UInt64) (before after : List (Outbound × Completion))
      (entry : Outbound × Completion) : c.hand = .empty →
      c.queued = before ++ entry :: after → entry.2.isCaller id →
      Move c { c.did [.withdrawn id] with queued := before ++ after }
  | withdrawInFlight (id : UInt64) (before after : List Pending) (pending : Pending) :
      c.hand = .empty → (∀ entry ∈ c.queued, entry.2.isCaller id = false) →
      c.inFlight = before ++ pending :: after → pending.completion.isCaller id →
      Move c { c.did [.withdrawn id] with inFlight := before ++ after }
  | withdrawNothing (id : UInt64) : c.hand = .empty →
      (∀ entry ∈ c.queued, entry.2.isCaller id = false) →
      (∀ pending ∈ c.inFlight, pending.completion.isCaller id = false) →
      Move c (c.did [.withdrawn id])
  /-- The first queued request gets the free slot. -/
  | pop (request : Outbound) (completion : Completion) (queued : List (Outbound × Completion)) :
      c.hand = .empty → c.isClosed = false →
      c.inFlight.countP (fun pending => pending.completion.isApplication) = 0 →
      c.queued = (request, completion) :: queued →
      Move c { c with queued, hand := .unsent completion }
  | transmit (completion : Completion) (message : CoapMessage) : c.hand = .unsent completion →
      Move c { c.did [.sent (.request completion) message] with hand := .held completion }
  /-- The request cannot be put on the wire. -/
  | giveUp (completion : Completion) : c.hand = .unsent completion →
      Move c { c with hand := .held completion }
  | launch (pending : Pending) : c.hand = .held pending.completion → c.isClosed = false →
      (pending.completion.isApplication →
        c.inFlight.countP (fun pending => pending.completion.isApplication) = 0) →
      (pending.isProxied → pending.completion.isApplication) →
      (c.inFlight.length < 256 ^ TOKEN_LENGTH →
        pending.request.token ∉ c.inFlight.map (fun pending => pending.request.token)) →
      Move c { c with inFlight := c.inFlight ++ [pending], hand := .empty }
  /-- An exchange is answered or expires. -/
  | take (before after : List Pending) (pending : Pending) : c.hand = .empty →
      c.inFlight = before ++ pending :: after →
      Move c { c with inFlight := before ++ after, hand := .held pending.completion }
  /-- The waiter hears; a petition's or a resignation's only once the session has ended. -/
  | deliver (completion : Completion) (reply : Reply) : c.hand = .held completion →
      (c.isClosed = false → completion.isApplication ∨ completion.isKeepAlive) →
      Move c { c.did (completion.tell reply) with hand := .empty }
  | petition : c.hand = .empty → c.status = .connected →
      Move c { c.did [.statusSet .petitioning] with
        status := .petitioning, hand := .unsent (.petition c.nextChannel)
        nextChannel := c.nextChannel + 1 }
  | refused (channel : Nat) (reply : Reply) : c.hand = .held (.petition channel) →
      c.isClosed = false →
      Move c { c.did [.statusSet .connected, .delivered (.petition channel) reply] with
        status := .connected, hand := .empty }
  | granted (channel : Nat) (sessionId : UInt16) (keepAliveAt : Option Nat) (reply : Reply) :
      c.hand = .held (.petition channel) → c.isClosed = false →
      Move c { c.did [.statusSet (.active sessionId), .delivered (.petition channel) reply] with
        status := .active sessionId, keepAliveAt, hand := .empty }
  /-- A keep-alive is due or asked for; `waiter` says whether somebody waits for it. -/
  | keepAlive (waiter : Bool) : c.hand = .empty → c.status.sessionId.isSome →
      c.inFlight.countP (fun pending => pending.completion.isKeepAlive) = 0 →
      Move c { c with
        keepAliveAt := none
        hand := .unsent (.keepAlive (if waiter then some c.nextChannel else none))
        nextChannel := if waiter then c.nextChannel + 1 else c.nextChannel }
  /-- A keep-alive was accepted. -/
  | kept (channel : Option Nat) (keepAliveAt : Option Nat) (reply : Reply) :
      c.hand = .held (.keepAlive channel) → c.status.sessionId.isSome →
      Move c { c.did ((Completion.keepAlive channel).tell reply) with
        keepAliveAt, hand := .empty }
  | resign (waiter dropped : Bool) : c.hand = .empty → c.status.sessionId.isSome →
      c.inFlight.countP (fun pending => pending.completion.isResign) = 0 →
      Move c { c with
        keepAliveAt := none
        hand := .unsent (.resign (if waiter then some c.nextChannel else none))
        nextChannel := if waiter then c.nextChannel + 1 else c.nextChannel
        handlesDropped := c.handlesDropped || dropped }
  /-- Every handle was dropped while the session was ending anyway. -/
  | dropped : (c.isClosed ∨ 0 < c.inFlight.countP (fun pending => pending.completion.isResign)) →
      Move c { c with handlesDropped := true }
  | reopen : c.isClosed = false → c.linkOpen = false →
      Move c { c.did [.reopened, .statusSet .connected] with
        linkOpen := true, status := .connected
        answered := c.answered.filter (fun entry => entry.origin ≠ .borderAgent) }
  | idle : c.hand = .empty → c.isClosed = false → c.status.sessionId = none →
      c.handlesDropped = false → c.linkOpen = true → Move c c.idled
  | endSession (reason : CloseReason) : c.isClosed = false → Move c (c.ended reason)
  /-- An answered exchange whose acknowledgement could not be sent is dropped. -/
  | discard (completion : Completion) : c.hand = .held completion → c.isClosed →
      Move c { c with hand := .empty }
  | expire (expired kept : List Answered) : c.answered = expired ++ kept →
      (∀ entry ∈ expired, entry.answeredAt + EXCHANGE_LIFETIME ≤ c.now) →
      Move c { c with answered := kept }
  | remember (origin : Destination) (messageId : UInt16) (reply : CoapMessage) :
      (∀ entry ∈ c.answered, ¬(entry.origin = origin ∧ entry.messageId = messageId)) →
      reply.Plain →
      Move c { c.did [.replied origin messageId reply c.now] with
        answered :=
          (if c.answered.length = MAX_REMEMBERED then c.answered.tail else c.answered) ++
            [{ origin, messageId, reply, answeredAt := c.now }] }

/-- **What a command brings in**: an answer at once, or an exchange that is queued.  The index
    is the id of the request, if the command is one. -/
inductive Intake (id? : Option UInt64) (c : SessionCore) : SessionCore → Prop
  | answer (waiter : Nat → Completion) (reply : Reply) :
      (∀ channel id, (waiter channel).isCaller id = true → id? = some id) →
      Intake id? c { c.did [.answeredAtOnce (waiter c.nextChannel) reply] with
        nextChannel := c.nextChannel + 1 }
  | accept (id : UInt64) (request : Outbound) : id? = some id → c.isClosed = false →
      Intake id? c { c.did [.accepted id] with
        queued := c.queued ++ [(request, .caller id c.nextChannel)]
        nextChannel := c.nextChannel + 1 }

/-- Sequences of moves. -/
abbrev Moves : SessionCore → SessionCore → Prop := Relation.ReflTransGen Move

/-- **What every move keeps, every sequence of moves keeps.** -/
theorem Moves.invariant {I : SessionCore → Prop} (hstep : ∀ c c', I c → Move c c' → I c')
    {c c' : SessionCore} (h : I c) (hmoves : Moves c c') : I c' := by
  induction hmoves with
  | refl => exact h
  | tail _ hlast ih => exact hstep _ _ ih hlast

end Meshcop
