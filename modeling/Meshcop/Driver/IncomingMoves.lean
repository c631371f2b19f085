/-
  Meshcop.Driver.IncomingMoves — routing a received message, as moves of the session.

  Most of what a received message causes concerns no exchange: a reply is sent or repeated, a
  joiner's datagram is relayed, an event is published.  `Quiet` says what such work leaves
  alone.  `Routed` lists what else can come of a message: it acknowledges an exchange, answers
  one, or a send fails and the session ends.

  Main results:
    * `handleDatagram_routed` — the list is complete;
    * `Routed.moves`          — and every item on it is a sequence of moves.
-/

import Meshcop.Driver.ExchangeMoves
import Meshcop.Driver.Record

namespace Meshcop

open Lib

/-- Actions of work that concerns no exchange. -/
def Action.isQuiet : Action → Bool
  | .sent .other _ | .invalidated | .fed _ _ | .replied _ _ _ _ => true
  | .published event => !event.isSessionLost
  | _ => false

namespace Driver

variable {env : Env}

/-! ## §1. Quiet work. -/

/-- Work that may read the clock: while the readings show no time passing, none passes. -/
structure Clocked (d d' : Driver env) : Prop where
  now : d.world.now ≤ d'.world.now
  reads : d.world.reads ≤ d'.world.reads
  still : (∀ n, d.world.reads ≤ n → n < d'.world.reads → env.elapsed n = 0) →
    d'.world.now = d.world.now

section Clocked

variable {d d' d'' : Driver env}

theorem Clocked.of_eq (hreads : d'.world.reads = d.world.reads)
    (hnow : d'.world.now = d.world.now) : Clocked d d' :=
  ⟨Nat.le_of_eq hnow.symm, Nat.le_of_eq hreads.symm, fun _ => hnow⟩

theorem Clocked.refl (d : Driver env) : Clocked d d := .of_eq rfl rfl

theorem Clocked.trans (h : Clocked d d') (h' : Clocked d' d'') : Clocked d d'' where
  now := Nat.le_trans h.now h'.now
  reads := Nat.le_trans h.reads h'.reads
  still := by
    intro hstill
    have hfirst := h.still fun n hlow hhigh => hstill n hlow (Nat.lt_of_lt_of_le hhigh h'.reads)
    have hsecond := h'.still fun n hlow hhigh => hstill n (Nat.le_trans h.reads hlow) hhigh
    exact hsecond.trans hfirst

theorem readClock_clocked (d : Driver env) : Clocked d d.readClock where
  now := Nat.le_add_right _ _
  reads := Nat.le_succ _
  still := by
    intro hstill
    show d.world.now + env.elapsed d.world.reads = d.world.now
    rw [hstill d.world.reads (Nat.le_refl _) (Nat.lt_succ_self _), Nat.add_zero]

end Clocked

/-- **Work that concerns no exchange**, and neither the status nor the link. -/
structure Quiet (d d' : Driver env) : Prop extends Clocked d d' where
  moves : ∀ hand, Moves (d.core hand) (d'.core hand)
  linkOpen : d'.linkOpen = d.linkOpen
  status : d'.status = d.status
  inFlight : d'.inFlight = d.inFlight
  queued : d'.queued = d.queued
  keepAliveAt : d'.keepAliveAt = d.keepAliveAt
  trace : ∃ actions, d'.trace = d.trace ++ actions ∧ ∀ action ∈ actions, action.isQuiet = true

namespace Quiet

variable {d d' d'' : Driver env}

theorem refl (d : Driver env) : Quiet d d where
  toClocked := .refl d
  moves := fun _ => .refl
  linkOpen := rfl
  status := rfl
  inFlight := rfl
  queued := rfl
  keepAliveAt := rfl
  trace := ⟨[], (List.append_nil _).symm, List.forall_mem_nil _⟩

theorem trans (h : Quiet d d') (h' : Quiet d' d'') : Quiet d d'' where
  toClocked := h.toClocked.trans h'.toClocked
  moves := fun hand => (h.moves hand).trans (h'.moves hand)
  linkOpen := h'.linkOpen.trans h.linkOpen
  status := h'.status.trans h.status
  inFlight := h'.inFlight.trans h.inFlight
  queued := h'.queued.trans h.queued
  keepAliveAt := h'.keepAliveAt.trans h.keepAliveAt
  trace := by
    obtain ⟨first, htrace, hfirst⟩ := h.trace
    obtain ⟨second, htrace', hsecond⟩ := h'.trace
    refine ⟨first ++ second, by rw [htrace', htrace, List.append_assoc], ?_⟩
    intro action haction
    rcases List.mem_append.mp haction with haction | haction
    · exact hfirst action haction
    · exact hsecond action haction

theorem isClosed (h : Quiet d d') : d'.isClosed = d.isClosed :=
  congrArg SessionStatus.isClosed h.status

theorem settled (h : Quiet d d') (hsettled : d.Settled) : d'.Settled := by
  unfold Settled applicationInFlight
  rw [h.inFlight, h.queued]
  exact hsettled

/-- What changes nothing of the session. -/
theorem of_core (h : d'.core .empty = d.core .empty)
    (hreads : d'.world.reads = d.world.reads) : Quiet d d' where
  toClocked := .of_eq hreads (congrArg SessionCore.now h)
  moves := fun hand => by
    have hhand : d'.core hand = d.core hand := congrArg (fun c => { c with hand }) h
    rw [hhand]
  linkOpen := congrArg SessionCore.linkOpen h
  status := congrArg SessionCore.status h
  inFlight := congrArg SessionCore.inFlight h
  queued := congrArg SessionCore.queued h
  keepAliveAt := congrArg SessionCore.keepAliveAt h
  trace := ⟨[], by rw [List.append_nil]; exact congrArg SessionCore.trace h, List.forall_mem_nil _⟩

/-- What only goes into the history. -/
theorem log (d : Driver env) (action : Action) (hquiet : action.isQuiet = true)
    (hneutral : action.neutral = true) (hopen : d.isClosed = false) : Quiet d (d.log action) where
  toClocked := .of_eq rfl rfl
  moves := fun _ => .single (.note action hneutral (fun _ => hopen))
  linkOpen := rfl
  status := rfl
  inFlight := rfl
  queued := rfl
  keepAliveAt := rfl
  trace := ⟨[action], rfl, fun _ hmem => by rw [List.mem_singleton.mp hmem]; exact hquiet⟩

theorem readClock (d : Driver env) : Quiet d d.readClock where
  toClocked := readClock_clocked d
  moves := fun _ => .single (.tick _ (Nat.le_add_right _ _))
  linkOpen := rfl
  status := rfl
  inFlight := rfl
  queued := rfl
  keepAliveAt := rfl
  trace := (refl d).trace

end Quiet

/-- Quiet work that also leaves the record of answered messages. -/
structure Relays (d d' : Driver env) : Prop extends Quiet d d' where
  answered : d'.answered = d.answered

theorem Relays.refl (d : Driver env) : Relays d d := ⟨.refl d, rfl⟩

variable {d d' : Driver env}

theorem Relays.trans {d'' : Driver env} (h : Relays d d') (h' : Relays d' d'') :
    Relays d d'' :=
  ⟨h.toQuiet.trans h'.toQuiet, h'.answered.trans h.answered⟩

/-- Joiner sessions come and go. -/
theorem Relays.joiners (hopen : d.isClosed = false) {joiners : Bool}
    (h : d'.core .empty = { d.core .empty with joiners })
    (hreads : d'.world.reads = d.world.reads) : Relays d d' where
  toClocked := .of_eq hreads (congrArg SessionCore.now h)
  moves := fun hand => by
    have hhand : d'.core hand = { d.core hand with joiners } := congrArg (fun c => { c with hand }) h
    rw [hhand]
    exact .single (.relay joiners hopen)
  linkOpen := congrArg SessionCore.linkOpen h
  status := congrArg SessionCore.status h
  inFlight := congrArg SessionCore.inFlight h
  queued := congrArg SessionCore.queued h
  keepAliveAt := congrArg SessionCore.keepAliveAt h
  trace := ⟨[], by rw [List.append_nil]; exact congrArg SessionCore.trace h, List.forall_mem_nil _⟩
  answered := congrArg SessionCore.answered h

/-! ## §2. Sending replies. -/

variable {message : CoapMessage} {destination : Destination}

/-- Whether a message can be encoded does not depend on its identity. -/
theorem encode_identity {bytes : Bytes} (h : message.encode = .ok bytes) (messageId : UInt16)
    {token : Bytes} (htoken : token.length ≤ 8) :
    ∃ bytes', ({ message with messageId, token } : CoapMessage).encode = .ok bytes' := by
  unfold CoapMessage.encode at h
  split at h
  · cases h
  · obtain ⟨options, hoptions, -⟩ := bind_eq_ok.mp h
    have hshort : ({ message with messageId, token } : CoapMessage).token.length ≤ 8 := htoken
    obtain ⟨bytes', hbytes', -⟩ := CoapMessage.encode_ok hshort hoptions
    exact ⟨bytes', hbytes'⟩


/-- A message that can be put on the wire. -/
def Sendable (message : CoapMessage) (destination : Destination) : Prop :=
  ∃ wire bytes, Carries message destination wire ∧ wire.encode = .ok bytes

/-- It can be put there under any identity. -/
theorem wireMessage_of_sendable (h : Sendable message destination) (d : Driver env) :
    wp (wireMessage message destination)
      (fun wire d' => Carries message destination wire ∧ (∃ bytes, wire.encode = .ok bytes) ∧
        Identified d d')
      (fun _ _ => False) d := by
  obtain ⟨sendable, bytes, hsendable, hencode⟩ := h
  refine wp_mono (wireMessage_spec message destination d) ?_ fun _ _ h => h.1 sendable hsendable
  rintro wire d' ⟨hcarries, hidentity, hidentified⟩
  refine ⟨hcarries, ?_, hidentified⟩
  cases destination with
  | borderAgent =>
    cases hcarries
    cases hsendable
    exact ⟨bytes, hencode⟩
  | mesh address port =>
    obtain ⟨inner, outer, hinner, houter, hwire⟩ := hcarries
    obtain ⟨inner', outer', hinner', houter', hwire'⟩ := hsendable
    cases hinner.symm.trans hinner'
    cases houter.symm.trans houter'
    have htoken : wire.token.length = TOKEN_LENGTH := hidentity.resolve_left (fun h => by cases h)
    rw [hwire'] at hencode
    rw [hwire]
    exact encode_identity hencode wire.messageId (Nat.le_trans (Nat.le_of_eq htoken) (by decide))

theorem Sendable.of_plain (hplain : message.Plain) (destination : Destination) :
    Sendable message destination := by
  obtain ⟨inner, hinner, hlength⟩ := hplain.encode_ok
  cases destination with
  | borderAgent => exact ⟨message, inner, rfl, hinner⟩
  | mesh address port =>
    obtain ⟨outer, houter, hencode⟩ := udpTxRequest_ok address port (Nat.le_trans hlength (by decide))
    obtain ⟨bytes, hbytes⟩ := hencode 0 [] (Nat.zero_le _)
    exact ⟨_, bytes, ⟨inner, outer, hinner, houter, rfl⟩, hbytes⟩

/-- The driver after a message was handed to the link. -/
def Transmitted (kind : SendKind) (message : CoapMessage) (destination : Destination)
    (d d' : Driver env) : Prop :=
  ∃ wire d₁, Carries message destination wire ∧ Identified d d₁ ∧ d' = d₁.handed kind wire

variable {reply : CoapMessage}

/-- **Sending on an open link** fails only with the DTLS layer. -/
theorem transmit_of_sendable (h : Sendable message destination) (kind : SendKind)
    (hlink : d.linkOpen = true) : wp (wireMessage message destination >>= send kind)
      (fun _ d' => env.sendResult d.world.sends = none ∧
        Transmitted kind message destination d d')
      (fun error d' => (isTransportError error = true ∧ env.sendResult d.world.sends ≠ none) ∧
        Transmitted kind message destination d d') d := by
  refine wp_seq_mono (wireMessage_of_sendable h d) ?_ (fun _ _ hfalse => hfalse.elim)
  rintro wire _ ⟨hcarries, ⟨bytes, hencode⟩, nextMessageId, draws, rfl⟩
  have hidentified : Identified d (d.numbered nextMessageId draws) := ⟨_, _, rfl⟩
  refine wp_mono (send_spec kind wire (d.numbered nextMessageId draws)) ?_ ?_
  · rintro _ _ ⟨-, hresult, rfl⟩
    exact ⟨hresult, wire, _, hcarries, hidentified, rfl⟩
  · rintro error _ (⟨-, hfails, -⟩ | ⟨htransport, -, hresult, rfl⟩)
    · obtain ⟨e, he⟩ := hfails hlink
      cases hencode.symm.trans he
    · exact ⟨⟨htransport, hresult⟩, wire, _, hcarries, hidentified, rfl⟩

variable {origin : Destination}

theorem Transmitted.relays (h : Transmitted .other reply origin d d') (hopen : d.isClosed = false) :
    Relays d d' := by
  obtain ⟨wire, _, -, ⟨nextMessageId, draws, rfl⟩, rfl⟩ := h
  exact ⟨(Quiet.log d _ rfl rfl hopen).trans (.of_core rfl rfl), rfl⟩

/-! ## §3. The record. -/

/-- The driver after dropping expired replies. -/
structure Forgotten (d d' : Driver env) : Prop where
  past : ∃ expired, d.answered = expired ++ d'.answered ∧
    ∀ entry ∈ expired, entry.answeredAt + EXCHANGE_LIFETIME ≤ d'.world.now
  clock : Clocked d d'
  same : ∃ reads, d' = { d with answered := d'.answered
                                world := { d.world with now := d'.world.now, reads } }

/-- The loop over the record, by induction on what is left of it. -/
theorem forgetExpiredFrom_forgotten {expired entries : List Answered}
    (hanswered : d.answered = expired ++ entries)
    (hexpired : ∀ entry ∈ expired, entry.answeredAt + EXCHANGE_LIFETIME ≤ d.world.now) :
    Forgotten d (forgetExpiredFrom entries d) := by
  induction entries generalizing expired d with
  | nil =>
    exact ⟨⟨expired, hanswered, hexpired⟩, .of_eq rfl rfl, d.world.reads, rfl⟩
  | cons entry entries ih =>
    have hclock := readClock_clocked d
    have hexpired' : ∀ entry ∈ expired,
        entry.answeredAt + EXCHANGE_LIFETIME ≤ d.readClock.world.now :=
      fun entry hentry => Nat.le_trans (hexpired entry hentry) hclock.now
    unfold forgetExpiredFrom
    dsimp only
    split
    · rename_i hold
      have hold : entry.answeredAt + EXCHANGE_LIFETIME ≤ d.readClock.world.now := by
        unfold EXCHANGE_LIFETIME SECOND at *
        omega
      have hsplit : d.readClock.answered = (expired ++ [entry]) ++ entries := by
        rw [List.append_assoc]
        exact hanswered
      have hexpired' : ∀ other ∈ expired ++ [entry],
          other.answeredAt + EXCHANGE_LIFETIME ≤ d.readClock.world.now := by
        intro other hother
        rcases List.mem_append.mp hother with hother | hother
        · exact hexpired' other hother
        · rw [List.mem_singleton.mp hother]
          exact hold
      obtain ⟨hpast, hlater, reads, hsame⟩ := ih hsplit hexpired'
      exact ⟨hpast, hclock.trans hlater, reads, hsame⟩
    · exact ⟨⟨expired, hanswered, hexpired'⟩, hclock.trans (.of_eq rfl rfl), d.world.reads + 1, rfl⟩

theorem forgetExpired_forgotten (d : Driver env) : Forgotten d d.forgetExpired :=
  forgetExpiredFrom_forgotten (List.nil_append _).symm (List.forall_mem_nil _)

namespace Forgotten

variable {d d' : Driver env}

theorem quiet (h : Forgotten d d') : Quiet d d' := by
  obtain ⟨⟨expired, hanswered, hexpired⟩, hclock, reads, hsame⟩ := h
  generalize d'.answered = kept at *
  generalize hnow : d'.world.now = now at *
  have hlater : d.world.now ≤ now := hnow ▸ hclock.now
  subst hsame
  refine { Quiet.refl d with toClocked := hclock, moves := fun hand => ?_ }
  exact .tail (.single (.tick now hlater)) (.expire expired kept hanswered hexpired)

theorem subset (h : Forgotten d d') : d'.answered ⊆ d.answered := by
  obtain ⟨expired, hanswered, -⟩ := h.past
  rw [hanswered]
  exact List.subset_append_right expired _

theorem sends (h : Forgotten d d') : d'.world.sends = d.world.sends := by
  obtain ⟨reads, hsame⟩ := h.same
  rw [hsame]

end Forgotten

/-- Remembering the reply to a message that was not answered before. -/
theorem remember_quiet {messageId : UInt16} (hunanswered : Unanswered origin messageId d.answered)
    (hplain : reply.Plain) : Quiet d (d.remember origin messageId reply) := by
  have hforgotten := d.forgetExpired_forgotten
  have hunanswered := hunanswered.mono hforgotten.subset
  refine hforgotten.quiet.trans ?_
  unfold remember
  generalize d.forgetExpired = d₁ at hunanswered
  refine (Quiet.readClock d₁).trans ?_
  refine { Quiet.refl d₁.readClock with moves := fun hand => ?_, trace := ⟨_, rfl, ?_⟩ }
  · exact .single (.remember origin messageId reply hunanswered hplain)
  · intro action haction
    rw [List.mem_singleton.mp haction]
    rfl

/-- Replying for the first time. -/
theorem reply_quiet (hunanswered : Unanswered origin message.messageId d.answered)
    (hplain : reply.Plain) (hlink : d.linkOpen = true) (hopen : d.isClosed = false) :
    wp (Driver.reply message reply origin)
      (fun _ d' => Quiet d d' ∧ env.sendResult d.world.sends = none)
      (fun error d' => Quiet d d' ∧ isTransportError error = true ∧
        env.sendResult d.world.sends ≠ none) d := by
  rw [Driver.reply]
  refine wp_seq_mono (transmit_of_sendable (.of_plain hplain origin) .other hlink) ?_ ?_
  · rintro _ d₁ ⟨hresult, hreplied⟩
    have hrelays := hreplied.relays hopen
    rw [wp_modify]
    refine ⟨hrelays.toQuiet.trans (remember_quiet ?_ hplain), hresult⟩
    rw [hrelays.answered]
    exact hunanswered
  · rintro error d₁ ⟨hresult, hreplied⟩
    exact ⟨(hreplied.relays hopen).toQuiet, hresult⟩

/-- A reply under a condition. -/
theorem replyIf_quiet
    (hunanswered : message.ty = .confirmable → Unanswered origin message.messageId d.answered)
    (hplain : reply.Plain) (hlink : d.linkOpen = true) (hopen : d.isClosed = false) :
    wp (onlyIf (message.ty = .confirmable) (Driver.reply message reply origin))
      (fun _ d' => Quiet d d' ∧ (message.ty = .confirmable → env.sendResult d.world.sends = none))
      (fun error d' => Quiet d d' ∧ isTransportError error = true ∧
        message.ty = .confirmable ∧ env.sendResult d.world.sends ≠ none) d := by
  unfold onlyIf
  by_cases hconfirmable : message.ty = .confirmable
  · simp only [hconfirmable, decide_true, if_true]
    refine wp_mono (reply_quiet (hunanswered hconfirmable) hplain hlink hopen) ?_ ?_
    · rintro _ d' ⟨hquiet, hresult⟩
      exact ⟨hquiet, fun _ => hresult⟩
    · rintro error d' ⟨hquiet, htransport, hresult⟩
      exact ⟨hquiet, htransport, trivial, hresult⟩
  · simp only [hconfirmable, decide_false, Bool.false_eq_true, if_false]
    exact ⟨.refl d, fun hfalse => hfalse.elim⟩

/-- **A repeated message** gets its reply again; for another one nothing is sent. -/
theorem answerRetransmission_quiet (message : CoapMessage) (origin : Destination)
    (hplain : ∀ entry ∈ d.answered, entry.reply.Plain) (hlink : d.linkOpen = true)
    (hopen : d.isClosed = false) : wp (answerRetransmission message origin)
      (fun repeated d' => Quiet d d' ∧ (repeated = false → d'.world.sends = d.world.sends ∧
        (message.ty = .confirmable → Unanswered origin message.messageId d'.answered)))
      (fun error d' => Quiet d d' ∧ isTransportError error = true ∧
        env.sendResult d.world.sends ≠ none) d := by
  unfold answerRetransmission
  split
  · rename_i hother
    exact ⟨.refl d, fun _ => ⟨rfl, fun hconfirmable => absurd hconfirmable hother⟩⟩
  have hforgotten := d.forgetExpired_forgotten
  simp only [wp_bind, wp_get, replyTo]
  rw [wp_set]
  generalize d.forgetExpired = d₁ at hforgotten
  cases hfind : d₁.answered.find?
      (fun entry => entry.origin = origin ∧ entry.messageId = message.messageId) with
  | none =>
    refine ⟨hforgotten.quiet, fun _ => ⟨hforgotten.sends, fun _ entry hentry hsame => ?_⟩⟩
    have hnot := List.find?_eq_none.mp hfind entry hentry
    exact hnot (decide_eq_true hsame)
  | some entry =>
    have hplain := hplain entry (hforgotten.subset (List.mem_of_find?_eq_some hfind))
    have hquiet := hforgotten.quiet
    have hlink₁ : d₁.linkOpen = true := hquiet.linkOpen.trans hlink
    have hopen₁ : d₁.isClosed = false := hquiet.isClosed.trans hopen
    simp only [Option.map_some, wp_bind]
    refine wp_mono (transmit_of_sendable (.of_plain hplain origin) .other hlink₁) ?_ ?_
    · rintro _ d₂ ⟨-, hreplied⟩
      refine ⟨hquiet.trans (hreplied.relays hopen₁).toQuiet, fun hfalse => ?_⟩
      cases hfalse
    · rintro error d₂ ⟨⟨htransport, hresult⟩, hreplied⟩
      rw [hforgotten.sends] at hresult
      exact ⟨hquiet.trans (hreplied.relays hopen₁).toQuiet, htransport, hresult⟩

/-! ## §4. Relaying. -/

theorem relays_log (d : Driver env) (action : Action) (hquiet : action.isQuiet = true)
    (hneutral : action.neutral = true) (hopen : d.isClosed = false) : Relays d (d.log action) :=
  ⟨.log d action hquiet hneutral hopen, rfl⟩

variable {d₀ : Driver env}

theorem relayTransmissions_relays (hopen : d₀.isClosed = false)
    (session : JoinerSession env.crypto) (transmissions : List (Bytes × Option Bytes)) :
    Keeps (Relays d₀) (relayTransmissions session transmissions) :=
  relayTransmissions_keeps session (fun _ _ h => h.trans ⟨.of_core rfl rfl, rfl⟩)
    (fun d _ _ _ _ _ _ h => h.trans (relays_log d _ rfl rfl (h.isClosed.trans hopen)))
    (fun _ h => h.trans ⟨.of_core rfl rfl, rfl⟩) transmissions

theorem publish_relays (d : Driver env) (hopen : d.isClosed = false) {event : CommissionerEvent}
    (h : event.isSessionLost = false) : Relays d (d.publish event) := by
  refine relays_log d _ ?_ ?_ hopen
  · rw [Action.isQuiet, h]
    rfl
  · rw [Action.neutral, h]
    rfl

theorem publishAll_relays (hopen : d.isClosed = false) {events : List CommissionerEvent}
    (h : ∀ event ∈ events, event.isSessionLost = false) : Relays d (d.publishAll events) := by
  induction events generalizing d with
  | nil => exact .refl d
  | cons event events ih =>
    have hfirst := d.publish_relays hopen (h event List.mem_cons_self)
    exact hfirst.trans (ih (d := d.publish event) hopen
      (fun other hmem => h other (List.mem_cons_of_mem _ hmem)))

theorem feedJoiner_relays (hopen : d₀.isClosed = false) (joinerId : JoinerId)
    (session : JoinerSession env.crypto) (state : env.handler.State) (payload : Bytes) :
    Keeps (Relays d₀) (feedJoiner joinerId session state payload) := by
  intro d h
  have hfed := h.trans (relays_log d (.fed joinerId payload) rfl rfl (h.isClosed.trans hopen))
  simp only [feedJoiner, wp_bind, wp_modify, wp_get]
  generalize d.log (.fed joinerId payload) = d₁ at hfed
  have hopen₁ : d₁.isClosed = false := hfed.isClosed.trans hopen
  split
  · rw [wp_modify]
    exact hfed.trans (.joiners hopen₁ rfl rfl)
  rename_i events received _
  have hevents : ∀ event ∈ (relayEvents received.session joinerId events
      received.handlerState).1.events, event.isSessionLost = false := by
    intro event hmem
    rcases relayEvents_joiner _ _ _ _ event hmem with rfl | ⟨accepted, info, rfl⟩ <;> rfl
  generalize relayEvents received.session joinerId events received.handlerState = relayed at hevents
  obtain ⟨relayed, state⟩ := relayed
  simp only [wp_bind, wp_modify]
  have hput : Relays d₀ (putJoinerSession { d₁ with
      joinerHandler := some state, world := { d₁.world with rng := received.rng } } joinerId
      received.session) := hfed.trans (.joiners hopen₁ rfl rfl)
  have hpublished := hput.trans (publishAll_relays (hput.isClosed.trans hopen) hevents)
  split
  · rw [wp_modify]
    exact hpublished.trans (.joiners (hpublished.isClosed.trans hopen) rfl rfl)
  · exact relayTransmissions_relays hopen session _ _ hpublished

theorem openJoinerSession_relays (hopen : d.isClosed = false)
    (joinerUdpPort joinerRouterLocator : UInt16) (joinerIid : FixedBytes 8) (now : Nat)
    (state : env.handler.State) :
    Relays d (openJoinerSession joinerUdpPort joinerRouterLocator joinerIid now state d).2.2 := by
  unfold openJoinerSession
  dsimp only
  split
  · exact .refl d
  · split
    · exact .joiners hopen rfl rfl
    · exact .joiners hopen rfl rfl

theorem handleRelayRx_relays (hopen : d₀.isClosed = false)
    (joinerUdpPort joinerRouterLocator : UInt16) (joinerIid : FixedBytes 8) (payload : Bytes) :
    Keeps (Relays d₀) (handleRelayRx joinerUdpPort joinerRouterLocator joinerIid payload) := by
  intro d h
  have hread : Relays d₀ d.readClock := h.trans ⟨.readClock d, rfl⟩
  simp only [handleRelayRx, wp_bind, wp_modify, wp_get]
  generalize d.readClock = d₁ at hread
  have hfiltered : Relays d₀ { d₁ with joinerSessions := (d₁.joinerSessions.filter
      (fun entry => !entry.2.expired d₁.world.now)) } :=
    hread.trans (.joiners (hread.isClosed.trans hopen) rfl rfl)
  split
  · exact hfiltered
  rename_i state _
  have hopened := hfiltered.trans (openJoinerSession_relays (hfiltered.isClosed.trans hopen)
    joinerUdpPort joinerRouterLocator joinerIid d₁.world.now state)
  simp only [wp_bind, wp_set]
  generalize openJoinerSession joinerUdpPort joinerRouterLocator joinerIid d₁.world.now state _
    = opened at hopened ⊢
  obtain ⟨session, state', d₂⟩ := opened
  cases session with
  | none => exact hopened
  | some session => exact feedJoiner_relays hopen _ session state' payload d₂ hopened

theorem noteDatasetChange_relays (d : Driver env) (hopen : d.isClosed = false)
    (notification : MeshcopNotification) : Relays d (d.noteDatasetChange notification) := by
  unfold noteDatasetChange
  split
  · have hlogged := relays_log d .invalidated rfl rfl hopen
    exact hlogged.trans ⟨.of_core rfl rfl, rfl⟩
  · exact .refl d

theorem notificationToEvent_not_lost (notification : MeshcopNotification) (peerAddr : Text) :
    (notificationToEvent notification peerAddr).isSessionLost = false := by
  cases notification <;> rfl

/-- Handling a notification, apart from joiner traffic. -/
theorem notify_relays (d : Driver env) (hopen : d.isClosed = false)
    (notification : MeshcopNotification) (peerAddr : Text) :
    Relays d ((d.noteDatasetChange notification).publish
      (notificationToEvent notification peerAddr)) := by
  have hnoted := d.noteDatasetChange_relays hopen notification
  exact hnoted.trans (publish_relays _ (hnoted.isClosed.trans hopen)
    (notificationToEvent_not_lost notification peerAddr))

/-- **A message of the border agent that answers nothing** touches no exchange. -/
theorem routeUnsolicitedMessage_relays (hopen : d₀.isClosed = false) (message : CoapMessage) :
    Keeps (Relays d₀) (routeUnsolicitedMessage message) := by
  intro d h
  have hnotify := fun notification =>
    h.trans (d.notify_relays (h.isClosed.trans hopen) notification env.borderAgent)
  simp only [routeUnsolicitedMessage, wp_bind]
  refine wp_attempt.mpr ⟨fun notification _ => ?_, fun _ _ => h⟩
  cases notification with
  | none => exact h
  | some notification =>
    simp only [wp_bind, wp_get]
    split
    · exact wp_seq (handleRelayRx_relays hopen _ _ _ _ d h) (fun _ _ h' => h')
    · exact hnotify _

/-- **What a mesh device sends that answers nothing** touches no exchange; it fails as malformed
    data, or because its reply cannot be sent. -/
theorem routeUnsolicitedProxied_quiet {inner : CoapMessage}
    (hdecode : CoapMessage.decode bytes = .ok inner) (udpRx : UdpRx)
    (hunanswered : inner.ty = .confirmable → Unanswered origin inner.messageId d.answered)
    (hlink : d.linkOpen = true) (hopen : d.isClosed = false) :
    wp (routeUnsolicitedProxied inner udpRx origin) (fun _ d' => Quiet d d')
      (fun error d' => Quiet d d' ∧
        (isTransportError error = true → ∃ sends, env.sendResult sends ≠ none)) d := by
  simp only [routeUnsolicitedProxied, wp_bind]
  refine wp_attempt.mpr ⟨fun notification _ => ?_, fun error herror => ⟨.refl d, ?_⟩⟩
  · cases notification with
    | none => exact .refl d
    | some notification =>
      simp only [wp_bind, wp_modify]
      have hnotify := d.notify_relays hopen notification (env.ipv6Text udpRx.sourceAddress)
      refine wp_mono (replyIf_quiet (by rw [hnotify.answered]; exact hunanswered)
        (CoapMessage.emptyChangedResponse_plain hdecode) (hnotify.linkOpen.trans hlink)
        (hnotify.isClosed.trans hopen)) ?_ ?_
      · rintro _ d' ⟨hquiet, -⟩
        exact hnotify.toQuiet.trans hquiet
      · rintro error d' ⟨hquiet, -, -, hresult⟩
        exact ⟨hnotify.toQuiet.trans hquiet, fun _ => ⟨_, hresult⟩⟩
  · intro htransport
    have hnot := isTransportError_of_isMalformed (parseNotification_onlyMalformed inner error herror)
    cases hnot.symm.trans htransport

/-! ## §5. Routing. -/

/-- The outcome that an answer is for its exchange. -/
def outcomeOf (message : CoapMessage) : Except Error (Option CoapMessage) :=
  if message.ty = .reset then .error (.invalidState COAP_RESET_ERROR) else .ok (some message)

/-- What the driver does about a failed route. -/
def routeFailed (error : Error) (d : Driver env) : Driver env :=
  if isTransportError error then d.transportFailed error.display else d

/-- **What can come of a received message.** -/
inductive Routed (message : CoapMessage) (proxied : Bool) (d : Driver env) : Driver env → Prop
  | quiet (d' : Driver env) : Quiet d d' → Routed message proxied d d'
  /-- A send fails. -/
  | broken (d' : Driver env) (error : Text) : Quiet d d' →
      (proxied = true → ∃ sends, env.sendResult sends ≠ none) →
      Routed message proxied d (d'.transportFailed error)
  /-- The message acknowledges an exchange. -/
  | acknowledged (d₁ d₂ : Driver env) : Quiet d d₁ → d₁.acknowledge message proxied = some d₂ →
      Routed message proxied d d₂
  /-- The message answers an exchange, which completes. -/
  | answered (d₁ d₂ d₃ : Driver env) (pending : Pending) : Quiet d d₁ →
      d₁.takeAnswered message proxied = some (pending, d₂) → Quiet d₂ d₃ →
      (message.ty = .confirmable → env.sendResult d.world.sends = none) →
      Routed message proxied d (d₃.complete pending.completion (outcomeOf message))
  /-- The message answers an exchange, and its acknowledgement cannot be sent. -/
  | lost (d₁ d₂ d₃ : Driver env) (pending : Pending) (error : Text) : Quiet d d₁ →
      d₁.takeAnswered message proxied = some (pending, d₂) → Quiet d₂ d₃ →
      message.ty = .confirmable → env.sendResult d.world.sends ≠ none →
      Routed message proxied d (d₃.transportFailed error)

variable {proxied : Bool}

/-- A route that failed. -/
theorem routed_of_failed {error : Error} (hquiet : Quiet d d')
    (hbroken : isTransportError error = true → proxied = true →
      ∃ sends, env.sendResult sends ≠ none) :
    Routed message proxied d (routeFailed error d') := by
  unfold routeFailed
  split
  · rename_i htransport
    exact .broken d' _ hquiet (hbroken htransport)
  · exact .quiet d' hquiet

variable {pending : Pending}

/-- Taking an exchange out keeps everything else. -/
theorem takeAnswered_eq (h : d.takeAnswered message proxied = some (pending, d')) :
    d.inFlight.find? (Pending.isAnsweredBy message proxied) = some pending ∧
      d' = { d with inFlight := d.inFlight.eraseP (Pending.isAnsweredBy message proxied) }.log
        (.taken pending.completion) := by
  unfold takeAnswered at h
  split at h
  · cases h
  · rename_i hfind
    cases h
    exact ⟨hfind, rfl⟩

/-- Acknowledging an exchange stops its retransmission and keeps everything else. -/
theorem acknowledge_eq (h : d.acknowledge message proxied = some d') :
    ∃ before p after, d.inFlight = before ++ p :: after ∧
      p.isAcknowledgedBy message proxied = true ∧
      d' = { d with inFlight := before ++ { p with retryAt := none } :: after } := by
  unfold acknowledge at h
  split at h
  · cases h
  rename_i index hindex
  cases h
  obtain ⟨hlt, hmatches, -⟩ := List.findIdx?_eq_some_iff_getElem.mp hindex
  obtain ⟨before, after, hflight, -, hmodify⟩ := split_at_index (List.getElem?_eq_getElem hlt)
  refine ⟨before, d.inFlight[index], after, hflight, hmatches, ?_⟩
  rw [hmodify]

/-- An answered exchange: it is acknowledged if need be, and completes. -/
theorem answered_routed {d₁ d₂ : Driver env} (hquiet : Quiet d d₁)
    (hsends : d₁.world.sends = d.world.sends)
    (hunanswered : message.ty = .confirmable → Unanswered origin message.messageId d₁.answered)
    (htake : d₁.takeAnswered message proxied = some (pending, d₂)) (hlink : d.linkOpen = true)
    (hopen : d.isClosed = false) : wp (if message.ty = .reset then
          modify (·.complete pending.completion (.error (.invalidState COAP_RESET_ERROR)))
        else do
          onlyIf (message.ty = .confirmable)
            (Driver.reply message (.emptyAck message.messageId) origin)
          modify (·.complete pending.completion (.ok (some message))))
      (fun _ d' => Routed message proxied d d')
      (fun error d' => Routed message proxied d (routeFailed error d')) d₂ := by
  obtain ⟨-, hd₂⟩ := takeAnswered_eq htake
  have hsends₂ : d₂.world.sends = d.world.sends := by rw [hd₂]; exact hsends
  have hlink₂ : d₂.linkOpen = true := by rw [hd₂]; exact hquiet.linkOpen.trans hlink
  have hopen₂ : d₂.isClosed = false := by rw [hd₂]; exact hquiet.isClosed.trans hopen
  have hunanswered₂ : message.ty = .confirmable →
      Unanswered origin message.messageId d₂.answered := by rw [hd₂]; exact hunanswered
  by_cases hreset : message.ty = .reset
  · have houtcome : outcomeOf message = .error (.invalidState COAP_RESET_ERROR) := by
      rw [outcomeOf, if_pos hreset]
    rw [if_pos hreset, wp_modify, ← houtcome]
    refine .answered d₁ d₂ d₂ pending hquiet htake (.refl d₂) ?_
    intro hconfirmable
    cases hreset.symm.trans hconfirmable
  · have houtcome : outcomeOf message = .ok (some message) := by
      rw [outcomeOf, if_neg hreset]
    rw [if_neg hreset]
    refine wp_seq_mono (replyIf_quiet hunanswered₂ (CoapMessage.emptyAck_plain _) hlink₂ hopen₂) ?_ ?_
    · rintro _ d₃ ⟨hquiet₃, hresult⟩
      rw [hsends₂] at hresult
      rw [wp_modify, ← houtcome]
      exact .answered d₁ d₂ d₃ pending hquiet htake hquiet₃ hresult
    · rintro error d₃ ⟨hquiet₃, htransport, hconfirmable, hresult⟩
      rw [hsends₂] at hresult
      rw [routeFailed, if_pos htransport]
      exact .lost d₁ d₂ d₃ pending _ hquiet htake hquiet₃ hconfirmable hresult

theorem routeDirect_routed (incoming : CoapMessage)
    (hplain : ∀ entry ∈ d.answered, entry.reply.Plain) (hlink : d.linkOpen = true)
    (hopen : d.isClosed = false) :
    wp (routeDirect incoming) (fun _ d' => Routed incoming false d d')
      (fun error d' => Routed incoming false d (routeFailed error d')) d := by
  -- nothing is asked of the link when a direct route breaks
  have hnever : ∀ {error : Error}, isTransportError error = true → false = true →
      ∃ sends, env.sendResult sends ≠ none := fun _ h => absurd h Bool.false_ne_true
  rw [routeDirect]
  refine wp_seq_mono (answerRetransmission_quiet incoming .borderAgent hplain hlink hopen) ?_ ?_
  · rintro repeated d₁ ⟨hquiet, hnew⟩
    cases repeated with
    | true => exact .quiet d₁ hquiet
    | false =>
      obtain ⟨hsends, hunanswered⟩ := hnew rfl
      have hlink₁ : d₁.linkOpen = true := hquiet.linkOpen.trans hlink
      have hopen₁ : d₁.isClosed = false := hquiet.isClosed.trans hopen
      simp only [Bool.false_eq_true, if_false, wp_bind, wp_get]
      cases hack : d₁.acknowledge incoming false with
      | some d₂ => exact .acknowledged d₁ d₂ hquiet hack
      | none =>
        cases htake : d₁.takeAnswered incoming false with
        | some taken =>
          simp only [wp_bind, wp_set]
          exact answered_routed hquiet hsends hunanswered htake hlink hopen
        | none =>
          simp only [wp_bind]
          refine wp_mono (routeUnsolicitedMessage_relays hopen₁ incoming d₁ (.refl d₁)) ?_ ?_
          · intro unsolicited d₂ hrelays
            cases unsolicited with
            | false => exact .quiet d₂ (hquiet.trans hrelays.toQuiet)
            | true =>
              refine wp_mono (replyIf_quiet (by rw [hrelays.answered]; exact hunanswered)
                (CoapMessage.emptyAck_plain _) (hrelays.linkOpen.trans hlink₁)
                (hrelays.isClosed.trans hopen₁)) ?_ ?_
              · rintro _ d₃ ⟨hquiet₃, -⟩
                exact .quiet d₃ ((hquiet.trans hrelays.toQuiet).trans hquiet₃)
              · rintro error d₃ ⟨hquiet₃, -⟩
                exact routed_of_failed ((hquiet.trans hrelays.toQuiet).trans hquiet₃) hnever
          · intro error d₂ hrelays
            exact routed_of_failed (hquiet.trans hrelays.toQuiet) hnever
  · rintro error d₁ ⟨hquiet, -⟩
    exact routed_of_failed hquiet hnever

theorem routeProxied_routed {inner : CoapMessage} (hdecode : CoapMessage.decode bytes = .ok inner)
    (udpRx : UdpRx) (hplain : ∀ entry ∈ d.answered, entry.reply.Plain) (hlink : d.linkOpen = true)
    (hopen : d.isClosed = false) :
    wp (routeProxied udpRx inner) (fun _ d' => Routed inner true d d')
      (fun error d' => Routed inner true d (routeFailed error d')) d := by
  rw [routeProxied]
  refine wp_seq_mono (answerRetransmission_quiet inner _ hplain hlink hopen) ?_ ?_
  · rintro repeated d₁ ⟨hquiet, hnew⟩
    cases repeated with
    | true => exact .quiet d₁ hquiet
    | false =>
      obtain ⟨hsends, hunanswered⟩ := hnew rfl
      have hlink₁ : d₁.linkOpen = true := hquiet.linkOpen.trans hlink
      have hopen₁ : d₁.isClosed = false := hquiet.isClosed.trans hopen
      simp only [Bool.false_eq_true, if_false, wp_bind, wp_get]
      cases hack : d₁.acknowledge inner true with
      | some d₂ => exact .acknowledged d₁ d₂ hquiet hack
      | none =>
        cases htake : d₁.takeAnswered inner true with
        | some taken =>
          simp only [wp_bind, wp_set]
          exact answered_routed hquiet hsends hunanswered htake hlink hopen
        | none =>
          simp only [wp_bind]
          refine wp_mono (routeUnsolicitedProxied_quiet hdecode udpRx hunanswered hlink₁ hopen₁) ?_ ?_
          · intro _ d₂ hquiet₂
            exact .quiet d₂ (hquiet.trans hquiet₂)
          · rintro error d₂ ⟨hquiet₂, hbroken⟩
            exact routed_of_failed (hquiet.trans hquiet₂) (fun htransport _ => hbroken htransport)
  · rintro error d₁ ⟨hquiet, -, hresult⟩
    exact routed_of_failed hquiet (fun _ _ => ⟨_, hresult⟩)

/-- The message of a datagram that is routed, and whether it came through the UDP proxy. -/
def carried (plaintext : Bytes) : Option (CoapMessage × Bool) :=
  match CoapMessage.decode plaintext with
  | .error _ => none
  | .ok message =>
    match parseUdpRx message with
    | .error _ => none
    | .ok none => some (message, false)
    | .ok (some udpRx) =>
      if udpRx.destinationPort ≠ DEFAULT_MM_PORT then none
      else
        match CoapMessage.decode udpRx.payload with
        | .error _ => none
        | .ok inner => some (inner, true)

/-- What the driver makes of the result of a route. -/
theorem of_route {P : Driver env → Prop} {route : DriverM env Unit}
    (h : wp route (fun _ d' => P d') (fun error d' => P (routeFailed error d')) d) :
    P (match route d with
      | .ok _ d' => d'
      | .error error d' =>
        if isTransportError error then d'.transportFailed error.display else d') := by
  unfold wp at h
  split
  · rename_i hresult
    rw [hresult] at h
    exact h
  · rename_i hresult
    rw [hresult] at h
    exact h

/-- **Handling a datagram**: the message it carries is routed, and nothing else happens. -/
theorem handleDatagram_routed (plaintext : Bytes)
    (hplain : ∀ entry ∈ d.answered, entry.reply.Plain) (hlink : d.linkOpen = true)
    (hopen : d.isClosed = false) :
    match carried plaintext with
    | none => d.handleDatagram plaintext = d
    | some (message, proxied) => Routed message proxied d (d.handleDatagram plaintext) := by
  unfold carried handleDatagram
  cases CoapMessage.decode plaintext with
  | error error => rfl
  | ok message =>
    dsimp only
    unfold routeIncoming
    cases parseUdpRx message with
    | error error => rfl
    | ok parsed =>
      cases parsed with
      | none => exact of_route (routeDirect_routed message hplain hlink hopen)
      | some udpRx =>
        dsimp only
        by_cases hport : udpRx.destinationPort ≠ DEFAULT_MM_PORT
        · rw [if_pos hport, if_pos hport]
          rfl
        · rw [if_neg hport, if_neg hport]
          cases hinner : CoapMessage.decode udpRx.payload with
          | error error => rfl
          | ok inner => exact of_route (routeProxied_routed hinner udpRx hplain hlink hopen)

/-! ## §6. Moves. -/

theorem takeAnswered_moves (h : d.takeAnswered message proxied = some (pending, d')) :
    Moves (d.core .empty) (d'.core (.held pending.completion)) ∧
      (pending.completion.isApplication = false → d.Settled → d'.Settled) := by
  obtain ⟨hfind, hd'⟩ := takeAnswered_eq h
  obtain ⟨before, after, hflight, herase, -⟩ := split_at_first hfind
  rw [herase] at hd'
  subst hd'
  constructor
  · exact .tail (.single (.take before after pending rfl hflight))
      (.note (.taken pending.completion) rfl (fun hfalse => by cases hfalse))
  · intro hkind hsettled
    unfold Settled applicationInFlight at hsettled ⊢
    rw [hflight, List.countP_append, List.countP_cons, hkind] at hsettled
    show 0 < (before ++ after).countP _ ∨ d.queued = []
    rw [List.countP_append]
    exact hsettled

theorem acknowledge_moves (h : d.acknowledge message proxied = some d') (hsettled : d.Settled) :
    Moves (d.core .empty) (d'.core .empty) ∧ d'.Settled := by
  obtain ⟨before, p, after, hflight, -, rfl⟩ := acknowledge_eq h
  refine ⟨.single (.touch before after p _ hflight rfl rfl rfl), ?_⟩
  unfold Settled applicationInFlight at hsettled ⊢
  rw [hflight] at hsettled
  simpa only [List.countP_append, List.countP_cons] using hsettled

theorem transportFailed_settled (d : Driver env) (hopen : d.isClosed = false) (error : Text) :
    (d.transportFailed error).Settled := by
  rw [transportFailed, endSession_eq hopen]
  exact Or.inr rfl

/-- **A routed message, in moves.** -/
theorem Routed.moves (h : Routed message proxied d d') (hcontrol : Controlled (d.core .empty))
    (hsettled : d.Settled) (hopen : d.isClosed = false) :
    Moves (d.core .empty) (d'.core .empty) ∧ d'.Settled := by
  cases h with
  | quiet _ hquiet => exact ⟨hquiet.moves .empty, hquiet.settled hsettled⟩
  | broken d₁ error hquiet _ =>
    obtain ⟨hend, -, -⟩ := endSession_moves d₁ .empty (.transportFailed error)
    exact ⟨(hquiet.moves .empty).trans hend,
      transportFailed_settled d₁ (hquiet.isClosed.trans hopen) error⟩
  | acknowledged d₁ _ hquiet hack =>
    obtain ⟨hmoves, hsettled'⟩ := acknowledge_moves hack (hquiet.settled hsettled)
    exact ⟨(hquiet.moves .empty).trans hmoves, hsettled'⟩
  | answered d₁ d₂ d₃ pending hquiet htake hquiet₃ _ =>
    obtain ⟨htaken, hkept⟩ := takeAnswered_moves htake
    have hheld : Moves (d.core .empty) (d₃.core (.held pending.completion)) :=
      ((hquiet.moves .empty).trans htaken).trans (hquiet₃.moves _)
    have hopen₃ : d₃.isClosed = false := by
      rw [hquiet₃.isClosed, (takeAnswered_eq htake).2]
      exact hquiet.isClosed.trans hopen
    obtain ⟨hmoves, hsettled'⟩ := complete_moves
      (hheld.invariant (fun _ _ => Controlled.step) hcontrol) (outcomeOf message)
      (fun hclosed => by cases hopen₃.symm.trans hclosed)
    refine ⟨hheld.trans hmoves, hsettled' ?_⟩
    cases hkind : pending.completion.isApplication with
    | true => exact Or.inl rfl
    | false => exact Or.inr (hquiet₃.settled (hkept hkind (hquiet.settled hsettled)))
  | lost d₁ d₂ d₃ pending error hquiet htake hquiet₃ _ _ =>
    have hheld := ((hquiet.moves .empty).trans (takeAnswered_moves htake).1).trans (hquiet₃.moves _)
    have hopen₃ : d₃.isClosed = false := by
      rw [hquiet₃.isClosed, (takeAnswered_eq htake).2]
      exact hquiet.isClosed.trans hopen
    obtain ⟨hend, hclosed, -⟩ :=
      endSession_moves d₃ (.held pending.completion) (.transportFailed error)
    exact ⟨(hheld.trans hend).tail (.discard pending.completion rfl hclosed),
      transportFailed_settled d₃ hopen₃ error⟩

end Driver

end Meshcop
