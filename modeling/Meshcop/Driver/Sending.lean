/-
  Meshcop.Driver.Sending — what the recursion of the exchanges computes.

  Completing an exchange and sending the next one call each other; this file says, without
  fuel, what comes out.  Ending the session has a closed form.  `Sends d d'` is one whole run
  of the loop over the queue, and `launch` is what starting an exchange does before that may
  be complete.

  Main results:
    * `endSession_eq`              — the closed form of a session's end;
    * `sendQueuedWithin_sends`     — with fuel enough the loop runs to its end;
    * `complete_caller`, `start_eq` — the same for the methods;
    * `Sends.unique`               — so more fuel makes no difference.
-/

import Meshcop.Driver.Machine

namespace Meshcop

open Lib

namespace Driver

variable {env : Env}

/-! ## §1. The end of a session. -/

def logs (d : Driver env) (actions : List Action) : Driver env :=
  { d with trace := d.trace ++ actions }

theorem logs_logs (d : Driver env) (first second : List Action) :
    (d.logs first).logs second = d.logs (first ++ second) := by
  simp [logs]

theorem deliver_eq_logs (d : Driver env) (waiter : Completion) (reply : Reply) :
    d.deliver waiter reply = d.logs (waiter.tell reply) := by
  unfold deliver Completion.tell
  split
  · rfl
  · simp [logs]

/-- The driver after the end of its session. -/
def atEnd (d : Driver env) (reason : CloseReason) : Driver env :=
  { d.logs (.ended reason d.drain.1 :: .statusSet (.closed reason) ::
      (tellFailed reason.error d.drain.1 ++ reason.loss)) with
    linkOpen := false, status := .closed reason, inFlight := [], queued := []
    keepAliveAt := none, joinerSessions := [] }

variable {d : Driver env}

theorem endSessionWithin_of_closed (h : d.isClosed = true) (fuel : Nat) (reason : CloseReason) :
    endSessionWithin fuel d reason = d := by
  cases fuel with
  | zero => rfl
  | succ fuel => simp only [endSessionWithin, h, if_true]

theorem sendQueuedWithin_of_nil (h : d.queued = []) (fuel : Nat) : sendQueuedWithin fuel d = d := by
  cases fuel with
  | zero => rfl
  | succ fuel =>
    simp only [sendQueuedWithin, h]
    split <;> rfl

/-- Once the session has ended, an exchange that fails only tells its waiter. -/
theorem completeWithin_of_closed (hclosed : d.isClosed = true) (hqueued : d.queued = [])
    (fuel : Nat) (completion : Completion) (error : Error) :
    completeWithin (fuel + 2) d completion (.error error) =
      d.logs (completion.tell (completion.failedReply error)) := by
  cases completion with
  | caller id channel =>
    simp only [completeWithin]
    rw [deliver_eq_logs, sendQueuedWithin_of_nil (d := d.logs _) hqueued]
    rfl
  | petition channel =>
    simp only [completeWithin, petitionOutcome, hclosed, if_true]
    rw [deliver_eq_logs]
    rfl
  | keepAlive channel =>
    have hresult : keepAliveResult (.error error) = .error error := rfl
    simp only [completeWithin, keepAliveOutcomeWithin, hresult, keepAliveEnd]
    rw [deliver_eq_logs, endSessionWithin_of_closed (d := d.logs _) hclosed]
    rfl
  | resign channel =>
    simp only [completeWithin]
    rw [endSessionWithin_of_closed hclosed, deliver_eq_logs]
    rfl

/-- So failing them all tells all the waiters. -/
theorem foldl_complete_of_closed (hclosed : d.isClosed = true) (hqueued : d.queued = [])
    (fuel : Nat) (error : Error) (completions : List Completion) : completions.foldl
        (fun d completion => completeWithin (fuel + 2) d completion (.error error)) d =
      d.logs (tellFailed error completions) := by
  induction completions generalizing d with
  | nil => simp [tellFailed, logs]
  | cons completion completions ih =>
    rw [List.foldl_cons, completeWithin_of_closed hclosed hqueued,
      ih (d := d.logs _) hclosed hqueued, logs_logs]
    rfl

/-- **The end of a session**, in closed form. -/
theorem endSessionWithin_eq (hopen : d.isClosed = false) (fuel : Nat) (reason : CloseReason) :
    endSessionWithin (fuel + 4) d reason = d.atEnd reason := by
  simp only [endSessionWithin, hopen, Bool.false_eq_true, if_false, failAllWithin]
  rw [foldl_complete_of_closed rfl rfl, foldl_complete_of_closed rfl rfl]
  split
  · rename_i hresigned
    simp [atEnd, logs, log, setStatus, drain, CloseReason.error, CloseReason.loss, hresigned]
  · rename_i hresigned
    simp [atEnd, logs, log, setStatus, drain, publish, CloseReason.error, CloseReason.loss, hresigned]

/-! ## §2. Single effects. -/

/-- A token drawn within the environment's patience is not in use. -/
theorem drawToken_not_mem {used : List Bytes} {fuel draws : Nat}
    (h : ∃ k < fuel, (env.draw (draws + k)).bytes ∉ used) :
    (drawToken env used fuel draws).1 ∉ used := by
  induction fuel generalizing draws with
  | zero =>
    obtain ⟨k, hk, -⟩ := h
    omega
  | succ fuel ih =>
    unfold drawToken
    dsimp only
    split
    · rename_i hused
      obtain ⟨k, hk, hfresh⟩ := h
      cases k with
      | zero => exact absurd hused hfresh
      | succ k =>
        refine ih ⟨k, by omega, ?_⟩
        rw [Nat.add_assoc, Nat.add_comm 1 k]
        exact hfresh
    · rename_i hunused
      exact hunused

theorem drawToken_length (used : List Bytes) (fuel draws : Nat) :
    (drawToken env used fuel draws).1.length = 4 := by
  induction fuel generalizing draws with
  | zero => exact (env.draw draws).size
  | succ fuel ih =>
    unfold drawToken
    dsimp only
    split
    · exact ih (draws + 1)
    · exact (env.draw draws).size

/-- An assigned token is not in use, unless every token is. -/
theorem assignIdentity_token (d : Driver env) (message : CoapMessage)
    (h : d.inFlight.length < 256 ^ TOKEN_LENGTH) :
    (d.assignIdentity message).1.token ∉ d.inFlight.map (fun pending => pending.request.token) :=
  drawToken_not_mem (env.fresh _ _ (by simpa [tokens] using h))

/-- What a message to the given destination puts on the wire. -/
def Carries (message : CoapMessage) (destination : Destination) (wire : CoapMessage) : Prop :=
  match destination with
  | .borderAgent => wire = message
  | .mesh address port => ∃ inner outer, message.encode = .ok inner ∧
      udpTxRequest 0 [] address port inner = .ok outer ∧
      wire = { outer with messageId := wire.messageId, token := wire.token }

/-- The driver after numbering messages. -/
def numbered (d : Driver env) (nextMessageId : UInt16) (draws : Nat) : Driver env :=
  { d with nextMessageId, world := { d.world with draws } }

/-- The driver after giving a message its identity. -/
def Identified (d d' : Driver env) : Prop :=
  ∃ nextMessageId draws, d' = d.numbered nextMessageId draws

theorem Identified.trans {d₁ d₂ : Driver env} (h : Identified d d₁) (h' : Identified d₁ d₂) :
    Identified d d₂ := by
  obtain ⟨_, _, rfl⟩ := h
  obtain ⟨_, _, rfl⟩ := h'
  exact ⟨_, _, rfl⟩

/-- The driver after handing a message to the link. -/
def handed (d : Driver env) (kind : SendKind) (message : CoapMessage) : Driver env :=
  { d.log (.sent kind message) with world := { d.world with sends := d.world.sends + 1 } }

/-- What is put on the wire for a message; it fails if there is no such thing. -/
theorem wireMessage_spec (message : CoapMessage) (destination : Destination) (d : Driver env) :
    wp (wireMessage message destination)
      (fun wire d' => Carries message destination wire ∧
        (destination = .borderAgent ∨ wire.token.length = TOKEN_LENGTH) ∧ Identified d d')
      (fun _ d' => (∀ wire, ¬Carries message destination wire) ∧ d' = d) d := by
  cases destination with
  | borderAgent => exact ⟨rfl, Or.inl rfl, d.nextMessageId, d.world.draws, rfl⟩
  | mesh address port =>
    simp only [wireMessage, wp_bind]
    refine wp_attempt.mpr ⟨fun inner hinner => ?_, fun error herror => ⟨?_, rfl⟩⟩
    · refine wp_attempt.mpr ⟨fun outer houter => ?_, fun error herror => ⟨?_, rfl⟩⟩
      · exact ⟨⟨inner, outer, hinner, houter, rfl⟩, Or.inr (drawToken_length _ _ _), _, _, rfl⟩
      · rintro wire ⟨inner', outer, hinner', houter, -⟩
        cases hinner.symm.trans hinner'
        cases herror.symm.trans houter
    · rintro wire ⟨inner, outer, hinner, -⟩
      cases herror.symm.trans hinner

/-- **Handing a message to the link.**  Only the DTLS layer fails in a way that breaks the
    transport; before it is asked, the link must be open and the message must encode. -/
theorem send_spec (kind : SendKind) (message : CoapMessage) (d : Driver env) :
    wp (send kind message)
      (fun _ d' => (d.linkOpen = true ∧ ∃ bytes, message.encode = .ok bytes) ∧
        env.sendResult d.world.sends = none ∧ d' = d.handed kind message)
      (fun error d' =>
        (isTransportError error = false ∧ (d.linkOpen = true → ∃ e, message.encode = .error e) ∧
          d' = d.log (.sent kind message)) ∨
        (isTransportError error = true ∧ (d.linkOpen = true ∧ ∃ bytes, message.encode = .ok bytes) ∧
          env.sendResult d.world.sends ≠ none ∧ d' = d.handed kind message)) d := by
  simp only [send, wp_bind, wp_modify, wp_get]
  split
  · rename_i hclosed
    refine Or.inl ⟨rfl, fun hlink => ?_, rfl⟩
    cases hlink.symm.trans hclosed
  rename_i hlink
  have hlink : d.linkOpen = true := Bool.eq_true_of_not_eq_false hlink
  simp only [wp_bind, wp_modify]
  refine wp_attempt.mpr ⟨fun bytes hbytes => ?_, fun error herror => ?_⟩
  · split
    · rename_i hresult
      exact ⟨⟨hlink, bytes, hbytes⟩, hresult, rfl⟩
    · rename_i failure hresult
      have hresult : env.sendResult d.world.sends = some failure := hresult
      exact Or.inr ⟨rfl, ⟨hlink, bytes, hbytes⟩, by rw [hresult]; exact Option.some_ne_none _, rfl⟩
  · exact Or.inl ⟨isTransportError_of_isMalformed (message.encode_onlyMalformed error herror),
      fun _ => ⟨error, herror⟩, rfl⟩

/-- Tracking a request adds it to the ones in flight, with its timers from the clock. -/
theorem track_eq (d : Driver env) (message : CoapMessage) (destination : Destination)
    (completion : Completion) : ∃ schedule jitters,
      (∀ entry ∈ schedule, ∃ drawn, entry = CoapRetransmitSchedule.randomized drawn) ∧
      d.track message destination completion = { d.readClock with
        inFlight := d.inFlight ++
          [sentAt d.readClock.world.now schedule message destination completion]
        world := { d.readClock.world with jitters } } := by
  unfold track
  dsimp only
  split
  · exact ⟨some _, _, fun _ h => ⟨_, (Option.some.inj h).symm⟩, rfl⟩
  · exact ⟨none, d.world.jitters, fun _ h => absurd h (Option.not_mem_none _), rfl⟩

/-! ## §3. Starting an exchange. -/

/-- Starting an exchange, up to its completion: the driver it leaves, and the outcome if the
    exchange is over already. -/
def launch (d : Driver env) (request : Outbound) (completion : Completion) :
    Driver env × Option (Except Error (Option CoapMessage)) :=
  let (message, d) := d.assignIdentity request.message
  match wireMessage message request.destination d with
  | .error error d => (d, some (.error error))
  | .ok wire d =>
    match send (.request completion) wire d with
    | .error error d =>
      (if isTransportError error then d.atEnd (.transportFailed error.display) else d
       , some (.error error))
    | .ok _ d =>
      if request.expectResponse then (d.track message request.destination completion, none)
      else (d, some (.ok none))

/-- The message that goes out for a request. -/
structure GoesOut (d : Driver env) (request : Outbound) (wire : CoapMessage) : Prop where
  carries : Carries (d.assignIdentity request.message).1 request.destination wire
  token : wire.token.length = TOKEN_LENGTH

/-- **What becomes of a launched exchange.** -/
inductive Launched (d : Driver env) (request : Outbound) (completion : Completion) :
    Driver env × Option (Except Error (Option CoapMessage)) → Prop
  | tracked (wire : CoapMessage) (nextMessageId : UInt16) (draws : Nat)
      (schedule : Option CoapRetransmitSchedule) (jitters : Nat) : GoesOut d request wire →
      (d.linkOpen = true ∧ ∃ bytes, wire.encode = .ok bytes) →
      env.sendResult d.world.sends = none →
      (∀ entry ∈ schedule, ∃ drawn, entry = CoapRetransmitSchedule.randomized drawn) →
      Launched d request completion
        ({ ((d.numbered nextMessageId draws).handed (.request completion) wire).readClock with
          inFlight := d.inFlight ++ [sentAt d.readClock.world.now schedule
            (d.assignIdentity request.message).1 request.destination completion]
          world := { ((d.numbered nextMessageId draws).handed (.request completion)
            wire).readClock.world with jitters } }, none)
  | unsendable (error : Error) (nextMessageId : UInt16) (draws : Nat) :
      (∀ wire, ¬Carries (d.assignIdentity request.message).1 request.destination wire) →
      Launched d request completion (d.numbered nextMessageId draws, some (.error error))
  | finished (outcome : Except Error (Option CoapMessage)) (wire : CoapMessage)
      (nextMessageId : UInt16) (draws sends : Nat) : GoesOut d request wire →
      (d.linkOpen = true → env.sendResult d.world.sends = none ∨ ∃ e, wire.encode = .error e) →
      Launched d request completion
        ({ (d.numbered nextMessageId draws).log (.sent (.request completion) wire) with
          world := { (d.numbered nextMessageId draws).world with sends } }, some outcome)
  | broken (error : Error) (wire : CoapMessage) (nextMessageId : UInt16) (draws : Nat) :
      GoesOut d request wire → (d.linkOpen = true ∧ ∃ bytes, wire.encode = .ok bytes) →
      env.sendResult d.world.sends ≠ none →
      Launched d request completion
        (((d.numbered nextMessageId draws).handed (.request completion) wire).atEnd
          (.transportFailed error.display), some (.error error))

theorem launch_launched (d : Driver env) (request : Outbound) (completion : Completion) :
    Launched d request completion (d.launch request completion) := by
  have hassigned : Identified d (d.assignIdentity request.message).2 := ⟨_, _, rfl⟩
  have htoken : (d.assignIdentity request.message).1.token.length = TOKEN_LENGTH :=
    drawToken_length _ _ _
  unfold launch
  dsimp only
  have hwire := wireMessage_spec (d.assignIdentity request.message).1 request.destination
    (d.assignIdentity request.message).2
  unfold wp at hwire
  split
  · rename_i error d₁ hresult
    rw [hresult] at hwire
    obtain ⟨hnone, rfl⟩ := hwire
    exact .unsendable error _ _ hnone
  rename_i wire d₁ hresult
  rw [hresult] at hwire
  obtain ⟨hcarries, hidentity, hidentified⟩ := hwire
  have hgoes : GoesOut d request wire := by
    refine ⟨hcarries, hidentity.elim (fun hdirect => ?_) id⟩
    rw [hdirect] at hcarries
    rw [show wire = _ from hcarries]
    exact htoken
  obtain ⟨nextMessageId, draws, rfl⟩ := hassigned.trans hidentified
  have hsend := send_spec (.request completion) wire (d.numbered nextMessageId draws)
  unfold wp at hsend
  split
  · rename_i error d₂ hresult
    rw [hresult] at hsend
    rcases hsend with ⟨htransport, hlink, rfl⟩ | ⟨htransport, hlink, hrefused, rfl⟩
    · rw [if_neg (by simp [htransport])]
      exact .finished _ wire nextMessageId draws d.world.sends hgoes fun h => Or.inr (hlink h)
    · rw [if_pos htransport]
      exact .broken error wire _ _ hgoes hlink hrefused
  · rename_i d₂ hresult
    rw [hresult] at hsend
    obtain ⟨hlink, hsent, rfl⟩ := hsend
    split
    · obtain ⟨schedule, jitters, hschedule, htrack⟩ :=
        track_eq ((d.numbered nextMessageId draws).handed (.request completion) wire)
          (d.assignIdentity request.message).1 request.destination completion
      rw [htrack]
      exact .tracked wire _ _ schedule jitters hgoes hlink hsent hschedule
    · exact .finished _ wire _ _ _ hgoes fun _ => Or.inl hsent

/-- Completes an exchange that is over already. -/
def finishWithin (fuel : Nat) (completion : Completion) :
    Driver env × Option (Except Error (Option CoapMessage)) → Driver env
  | (d, none) => d
  | (d, some outcome) => completeWithin fuel d completion outcome

/-- Starting is launching and, if that already ended the exchange, completing. -/
theorem startWithin_eq (hopen : d.isClosed = false) (fuel : Nat) (request : Outbound)
    (completion : Completion) :
    ∃ rest, fuel + 4 ≤ rest ∧ startWithin (fuel + 6) d request completion =
      finishWithin rest completion (d.launch request completion) := by
  unfold startWithin launch
  dsimp only
  have hwire := wireMessage_spec (d.assignIdentity request.message).1 request.destination
    (d.assignIdentity request.message).2
  unfold wp at hwire
  cases hresult : wireMessage (d.assignIdentity request.message).1 request.destination
    (d.assignIdentity request.message).2 with
  | error error d₁ => exact ⟨fuel + 5, by omega, rfl⟩
  | ok wire d₁ =>
    rw [hresult] at hwire
    have hopen₁ : d₁.isClosed = false := by
      obtain ⟨-, -, _, _, rfl⟩ := hwire
      exact hopen
    have hsend := send_spec (.request completion) wire d₁
    unfold wp at hsend
    dsimp only
    cases hresult : send (.request completion) wire d₁ with
    | error error d₂ =>
      rw [hresult] at hsend
      have hopen₂ : d₂.isClosed = false := by
        rcases hsend with ⟨-, -, rfl⟩ | ⟨-, -, -, rfl⟩
        · exact hopen₁
        · exact hopen₁
      refine ⟨fuel + 4, by omega, ?_⟩
      simp only [failSendWithin, finishWithin]
      split
      · rw [endSessionWithin_eq hopen₂]
      · rfl
    | ok _ d₂ =>
      refine ⟨fuel + 5, by omega, ?_⟩
      dsimp only
      split <;> rfl

/-! ## §4. The loop over the queue. -/

/-- The queue waits only for an application exchange in flight. -/
def Settled (d : Driver env) : Prop := 0 < d.applicationInFlight ∨ d.queued = []

/-- **One run of the loop over the queue**, from its first state to its last: each queued
    request in turn is launched, until one of them is tracked or none is left. -/
inductive Sends : Driver env → Driver env → Prop
  | settled (d : Driver env) : d.Settled → Sends d d
  | tracked (d d' : Driver env) (request : Outbound) (completion : Completion)
      (queued : List (Outbound × Completion)) : d.isClosed = false → d.applicationInFlight = 0 →
      d.queued = (request, completion) :: queued →
      launch { d with queued } request completion = (d', none) → Sends d d'
  | next (d d' d'' : Driver env) (request : Outbound) (completion : Completion)
      (queued : List (Outbound × Completion)) (outcome : Except Error (Option CoapMessage)) :
      d.isClosed = false → d.applicationInFlight = 0 →
      d.queued = (request, completion) :: queued →
      launch { d with queued } request completion = (d', some outcome) →
      Sends (d'.deliver completion (.exchange outcome)) d'' → Sends d d''

/-- The queue holds handles' requests only, and nothing once the session has ended. -/
structure Queueing (d : Driver env) : Prop where
  callers : ∀ entry ∈ d.queued, entry.2.isApplication = true
  atEnd : d.isClosed = true → d.queued = []

theorem sendQueuedWithin_of_settled (h : d.Settled) (fuel : Nat) : sendQueuedWithin fuel d = d := by
  rcases h with hbusy | hqueued
  · cases fuel with
    | zero => rfl
    | succ fuel =>
      have hnot : ¬d.applicationInFlight < MAX_APPLICATION_IN_FLIGHT := by
        simp only [MAX_APPLICATION_IN_FLIGHT]
        omega
      simp only [sendQueuedWithin, hnot, if_false]
  · exact sendQueuedWithin_of_nil hqueued fuel

/-- Delivering an outcome touches no table. -/
theorem deliver_core (d : Driver env) (waiter : Completion) (reply : Reply) (hand : Hand) :
    (d.deliver waiter reply).core hand = (d.core hand).did (waiter.tell reply) := by
  rw [deliver_eq_logs]
  rfl

/-- A launch leaves the queue, or ends the session and empties it. -/
theorem launch_queued (d : Driver env) (hopen : d.isClosed = false) (request : Outbound)
    (completion : Completion) : ((d.launch request completion).1.queued = d.queued ∧
      (d.launch request completion).1.isClosed = false) ∨
    ((d.launch request completion).1.queued = [] ∧
      (d.launch request completion).1.isClosed = true) := by
  have hlaunched := d.launch_launched request completion
  generalize d.launch request completion = launched at hlaunched
  cases hlaunched with
  | tracked | unsendable | finished => exact Or.inl ⟨rfl, hopen⟩
  | broken => exact Or.inr ⟨rfl, rfl⟩

variable {d' : Driver env} {completion : Completion}

/-- A tracked request of a handle is in flight. -/
theorem launch_busy {request : Outbound} (happlication : completion.isApplication = true)
    (hlaunch : d.launch request completion = (d', none)) : 0 < d'.applicationInFlight := by
  have hlaunched := d.launch_launched request completion
  rw [hlaunch] at hlaunched
  cases hlaunched with
  | tracked => simp [applicationInFlight, sentAt, happlication]

/-- The next run of the loop starts from a queue that is one shorter. -/
theorem Queueing.next (h : d.Queueing) (hopen : d.isClosed = false) {request : Outbound}
    {queued : List (Outbound × Completion)} (hqueued : d.queued = (request, completion) :: queued)
    {outcome : Option (Except Error (Option CoapMessage))}
    (hlaunch : launch { d with queued } request completion = (d', outcome)) (reply : Reply) :
    (d'.deliver completion reply).Queueing ∧
      (d'.deliver completion reply).queued.length ≤ queued.length := by
  have hafter := launch_queued { d with queued } hopen request completion
  rw [hlaunch] at hafter
  rw [deliver_eq_logs]
  rcases hafter with ⟨hkept, hopen'⟩ | ⟨hnil, hclosed⟩
  · have hkept : d'.queued = queued := hkept
    refine ⟨⟨?_, ?_⟩, ?_⟩
    · intro entry hentry
      have hentry : entry ∈ d'.queued := hentry
      rw [hkept] at hentry
      exact h.callers entry (by rw [hqueued]; exact List.mem_cons_of_mem _ hentry)
    · intro hclosed
      cases hopen'.symm.trans hclosed
    · exact le_of_eq (congrArg List.length hkept)
  · have hnil : d'.queued = [] := hnil
    refine ⟨⟨?_, fun _ => hnil⟩, ?_⟩
    · intro entry hentry
      have hentry : entry ∈ d'.queued := hentry
      rw [hnil] at hentry
      cases hentry
    · show d'.queued.length ≤ queued.length
      rw [hnil]
      exact Nat.zero_le _

/-- The loop ends settled. -/
theorem Sends.isSettled (h : Sends d d') (hqueueing : d.Queueing) : d'.Settled := by
  induction h with
  | settled d hsettled => exact hsettled
  | tracked d d' request completion queued _ _ hqueued hlaunch =>
    exact Or.inl (launch_busy (hqueueing.callers (request, completion) (by simp [hqueued])) hlaunch)
  | next d d' d'' request completion queued outcome hopen _ hqueued hlaunch _ ih =>
    exact ih (hqueueing.next hopen hqueued hlaunch _).1

/-- **With fuel enough the loop runs to its end.** -/
theorem sendQueuedWithin_sends (size fuel : Nat) (hqueueing : d.Queueing)
    (hsize : d.queued.length ≤ size) (hfuel : 4 * size + 5 ≤ fuel) :
    Sends d (sendQueuedWithin fuel d) := by
  -- induction on the length of the queue: a nested run of the loop meets a shorter one
  induction size generalizing d fuel with
  | zero =>
    have hnil : d.queued = [] := List.length_eq_zero_iff.mp (by omega)
    rw [sendQueuedWithin_of_nil hnil]
    exact .settled d (Or.inr hnil)
  | succ size ih =>
    by_cases hsettled : d.Settled
    · rw [sendQueuedWithin_of_settled hsettled]
      exact .settled d hsettled
    unfold Settled at hsettled
    have hfree : d.applicationInFlight = 0 := by omega
    cases hqueued : d.queued with
    | nil => exact absurd (Or.inr hqueued) hsettled
    | cons entry queued =>
      obtain ⟨request, completion⟩ := entry
      have hopen : d.isClosed = false := by
        cases hclosed : d.isClosed with
        | false => rfl
        | true =>
          rw [hqueueing.atEnd hclosed] at hqueued
          cases hqueued
      have happlication : completion.isApplication = true :=
        hqueueing.callers (request, completion) (by simp [hqueued])
      obtain ⟨fuel, rfl⟩ : ∃ k, fuel = k + 7 := ⟨fuel - 7, by omega⟩
      obtain ⟨rest, hrest, hstart⟩ :=
        startWithin_eq (d := { d with queued }) hopen fuel request completion
      have hlt : d.applicationInFlight < MAX_APPLICATION_IN_FLIGHT := by
        rw [hfree]
        exact Nat.zero_lt_one
      have hstep : sendQueuedWithin (fuel + 7) d =
          if (startWithin (fuel + 6) { d with queued } request completion).isClosed then
            startWithin (fuel + 6) { d with queued } request completion
          else sendQueuedWithin (fuel + 6)
            (startWithin (fuel + 6) { d with queued } request completion) := by
        rw [sendQueuedWithin]
        simp only [hlt, if_true, hqueued]
      rw [hstep, hstart]
      cases hlaunch : launch { d with queued } request completion with
      | mk d₁ outcome =>
        cases outcome with
        | none =>
          have hbusy := launch_busy happlication hlaunch
          show Sends d (if d₁.isClosed then d₁ else sendQueuedWithin (fuel + 6) d₁)
          rw [sendQueuedWithin_of_settled (Or.inl hbusy)]
          have hsends := Sends.tracked d d₁ request completion queued hopen hfree hqueued hlaunch
          split <;> exact hsends
        | some outcome =>
          -- the nested run of the loop leaves nothing for the outer one
          obtain ⟨hnext, hshorter⟩ := hqueueing.next hopen hqueued hlaunch (.exchange outcome)
          have hlength : queued.length + 1 ≤ size + 1 := by
            rw [hqueued] at hsize
            exact hsize
          obtain ⟨rest, rfl⟩ : ∃ k, rest = k + 1 := ⟨rest - 1, by omega⟩
          obtain ⟨id, channel, rfl⟩ : ∃ id channel, completion = .caller id channel := by
            cases completion with
            | caller id channel => exact ⟨id, channel, rfl⟩
            | petition _ => cases happlication
            | keepAlive _ => cases happlication
            | resign _ => cases happlication
          have hfuel : 4 * size + 5 ≤ rest := by omega
          have hnested := ih rest hnext (by omega) hfuel
          generalize hd₂ : sendQueuedWithin rest (d₁.deliver (.caller id channel)
            (.exchange outcome)) = d₂ at hnested
          have hfinish : finishWithin (rest + 1) (.caller id channel) (d₁, some outcome) = d₂ := by
            simp only [finishWithin, completeWithin, hd₂]
          rw [hfinish, sendQueuedWithin_of_settled (hnested.isSettled hnext)]
          have hsends :=
            Sends.next d d₁ _ request _ queued outcome hopen hfree hqueued hlaunch hnested
          split <;> exact hsends

/-- The loop has one result, so more fuel makes no difference. -/
theorem Sends.unique {d₁ d₂ : Driver env} (h₁ : Sends d d₁) (h₂ : Sends d d₂) : d₁ = d₂ := by
  have hunsettled : ∀ {d : Driver env} {entry : Outbound × Completion}
      {queued : List (Outbound × Completion)}, d.applicationInFlight = 0 →
      d.queued = entry :: queued → ¬d.Settled := by
    intro d entry queued hfree hqueued hsettled
    rcases hsettled with hbusy | hnil
    · omega
    · cases hqueued.symm.trans hnil
  induction h₁ with
  | settled d hsettled =>
    cases h₂ with
    | settled => rfl
    | tracked _ _ _ _ _ _ hfree hqueued => exact absurd hsettled (hunsettled hfree hqueued)
    | next _ _ _ _ _ _ _ _ hfree hqueued => exact absurd hsettled (hunsettled hfree hqueued)
  | tracked d d' request completion queued _ hfree hqueued hlaunch =>
    cases h₂ with
    | settled _ hsettled => exact absurd hsettled (hunsettled hfree hqueued)
    | tracked _ _ _ _ _ _ _ hqueued' hlaunch' =>
      cases hqueued.symm.trans hqueued'
      cases hlaunch.symm.trans hlaunch'
      rfl
    | next _ _ _ _ _ _ _ _ _ hqueued' hlaunch' =>
      cases hqueued.symm.trans hqueued'
      cases hlaunch.symm.trans hlaunch'
  | next d d' d'' request completion queued outcome _ hfree hqueued hlaunch _ ih =>
    cases h₂ with
    | settled _ hsettled => exact absurd hsettled (hunsettled hfree hqueued)
    | tracked _ _ _ _ _ _ _ hqueued' hlaunch' =>
      cases hqueued.symm.trans hqueued'
      cases hlaunch.symm.trans hlaunch'
    | next _ _ _ _ _ _ _ _ _ hqueued' hlaunch' hrest =>
      cases hqueued.symm.trans hqueued'
      cases hlaunch.symm.trans hlaunch'
      exact ih hrest

/-! ## §5. The methods. -/

theorem sendQueued_sends (h : d.Queueing) : Sends d d.sendQueued :=
  sendQueuedWithin_sends d.queued.length d.depth h (le_refl _) (by unfold depth; omega)

/-- **More fuel than `depth` makes no difference.** -/
theorem sendQueuedWithin_of_depth_le (h : d.Queueing) {fuel : Nat} (hfuel : d.depth ≤ fuel) :
    sendQueuedWithin fuel d = d.sendQueued := by
  have hsends := sendQueuedWithin_sends d.queued.length fuel h (le_refl _)
    (by unfold depth at hfuel; omega)
  exact hsends.unique (sendQueued_sends h)

theorem endSession_eq (hopen : d.isClosed = false) (reason : CloseReason) :
    d.endSession reason = d.atEnd reason := by
  have hdepth : d.depth = (4 * d.queued.length + 4) + 4 := rfl
  rw [endSession, hdepth, endSessionWithin_eq hopen]

theorem endSession_of_closed (hclosed : d.isClosed = true) (reason : CloseReason) :
    d.endSession reason = d :=
  endSessionWithin_of_closed hclosed _ reason

theorem endSessionWithin_eq_endSession (d : Driver env) (fuel : Nat) (reason : CloseReason) :
    endSessionWithin (fuel + 4) d reason = d.endSession reason := by
  cases hclosed : d.isClosed with
  | true => rw [endSessionWithin_of_closed hclosed, endSession_of_closed hclosed]
  | false => rw [endSessionWithin_eq hclosed, endSession_eq hclosed]

/-- A keep-alive's outcome: publish the answer, tell the waiter, then go on or end. -/
def keepAliveOutcome (d : Driver env) (outcome : Except Error (Option CoapMessage))
    (reply : Option Nat) : Driver env :=
  let result := keepAliveResult outcome
  let d := match result with
    | .ok code => d.publish (.keepAliveResponse code)
    | .error _ => d
  let d := d.deliver (.keepAlive reply) (.keepAlive result)
  match keepAliveEnd result with
  | none => d.scheduleKeepAlive
  | some reason => d.endSession reason

/-- What completing a session-control exchange comes to. -/
theorem completeWithin_control (d : Driver env) (fuel : Nat) (completion : Completion)
    (outcome : Except Error (Option CoapMessage)) : completeWithin (fuel + 6) d completion outcome =
      match completion with
      | .caller _ _ => sendQueuedWithin (fuel + 5) (d.deliver completion (.exchange outcome))
      | .petition _ =>
        (d.petitionOutcome outcome).2.deliver completion (.petition (petitionResult outcome))
      | .keepAlive reply => d.keepAliveOutcome outcome reply
      | .resign _ => (d.endSession .resigned).deliver completion (.resign (resignResult outcome)) := by
  cases completion with
  | caller id channel => rfl
  | petition channel =>
    have hresult : (d.petitionOutcome outcome).1 = petitionResult outcome := by
      unfold petitionOutcome
      dsimp only
      split
      · rfl
      · split <;> rfl
    rw [completeWithin]
    dsimp only
    rw [hresult]
  | keepAlive reply =>
    show keepAliveOutcomeWithin (fuel + 5) d outcome reply = d.keepAliveOutcome outcome reply
    rw [keepAliveOutcomeWithin, keepAliveOutcome]
    cases keepAliveEnd (keepAliveResult outcome) with
    | none => rfl
    | some reason => exact endSessionWithin_eq_endSession _ _ reason
  | resign reply =>
    simp only [completeWithin]
    rw [endSessionWithin_eq_endSession d (fuel + 1)]

/-- Completing a handle's request delivers its outcome and runs the loop over the queue. -/
theorem complete_caller (h : d.Queueing) (id : UInt64) (channel : Nat)
    (outcome : Except Error (Option CoapMessage)) :
    Sends (d.deliver (.caller id channel) (.exchange outcome))
      (d.complete (.caller id channel) outcome) := by
  have hdepth : d.depth = (4 * d.queued.length + 2) + 6 := rfl
  rw [complete, hdepth, completeWithin_control]
  have hfuel : 4 * d.queued.length + 5 ≤ 4 * d.queued.length + 2 + 5 := by omega
  rw [deliver_eq_logs]
  exact sendQueuedWithin_sends d.queued.length _ ⟨h.callers, h.atEnd⟩ (le_refl _) hfuel

theorem complete_petition (d : Driver env) (channel : Nat)
    (outcome : Except Error (Option CoapMessage)) : d.complete (.petition channel) outcome =
      (d.petitionOutcome outcome).2.deliver (.petition channel) (.petition (petitionResult outcome)) :=
  completeWithin_control d (4 * d.queued.length + 2) (.petition channel) outcome

theorem complete_keepAlive (d : Driver env) (reply : Option Nat)
    (outcome : Except Error (Option CoapMessage)) :
    d.complete (.keepAlive reply) outcome = d.keepAliveOutcome outcome reply :=
  completeWithin_control d (4 * d.queued.length + 2) (.keepAlive reply) outcome

theorem complete_resign (d : Driver env) (reply : Option Nat)
    (outcome : Except Error (Option CoapMessage)) : d.complete (.resign reply) outcome =
      (d.endSession .resigned).deliver (.resign reply) (.resign (resignResult outcome)) :=
  completeWithin_control d (4 * d.queued.length + 2) (.resign reply) outcome

/-- Completes a session-control exchange that was over as soon as it was launched. -/
def finish (completion : Completion) :
    Driver env × Option (Except Error (Option CoapMessage)) → Driver env
  | (d, none) => d
  | (d, some outcome) => d.complete completion outcome

/-- **Starting a session-control exchange** is launching it and completing it if it is over
    already. -/
theorem start_eq (hopen : d.isClosed = false) (request : Outbound)
    (hcontrol : completion.isApplication = false) :
    d.start request completion = finish completion (d.launch request completion) := by
  obtain ⟨rest, hrest, hstart⟩ := startWithin_eq hopen (4 * d.queued.length + 2) request completion
  have hdepth : d.depth = (4 * d.queued.length + 2) + 6 := rfl
  rw [start, hdepth, hstart]
  obtain ⟨d', outcome⟩ := d.launch request completion
  cases outcome with
  | none => rfl
  | some outcome =>
    obtain ⟨fuel, rfl⟩ : ∃ k, rest = k + 6 := ⟨rest - 6, by omega⟩
    simp only [finishWithin, finish]
    rw [completeWithin_control]
    cases completion with
    | caller id channel => cases hcontrol
    | petition channel => rw [complete_petition]
    | keepAlive reply => rw [complete_keepAlive]
    | resign reply => rw [complete_resign]

end Driver

end Meshcop
