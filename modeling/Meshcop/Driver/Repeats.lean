/-
  Meshcop.Driver.Repeats — retransmitted messages are answered from the record.

  A confirmable message that was replied to is on record until its lifetime is over, 64 newer
  messages have been replied to, or the link is opened again.  As long as it is, another copy of
  the message gets the recorded reply and nothing else comes of it.

  Main results:
    * `answerRetransmission_of_recorded` — what a copy of a recorded message causes;
    * `repeats_answered_from_record`     — over any run;
    * `messages_replied_once`            — and no message is handled twice.
-/

import Meshcop.Driver.RunMoves
import Meshcop.Lib.History

namespace Meshcop

open Lib

namespace Driver

variable {env : Env}

/-! ## §1. A copy of a recorded message. -/

/-- The clock when the record is looked up. -/
def lookupTime (d : Driver env) : Nat := d.forgetExpired.world.now

/-- A young entry survives the removal of the expired ones. -/
theorem mem_forgetExpired {d : Driver env} {entry : Answered} (hmem : entry ∈ d.answered)
    (hyoung : d.lookupTime < entry.answeredAt + EXCHANGE_LIFETIME) :
    entry ∈ d.forgetExpired.answered := by
  obtain ⟨expired, hanswered, hexpired⟩ := d.forgetExpired_forgotten.past
  rw [hanswered] at hmem
  rcases List.mem_append.mp hmem with hold | hkept
  · have hold := hexpired entry hold
    unfold lookupTime at hyoung
    omega
  · exact hkept

/-- The record has one entry for a message. -/
theorem find?_recorded {answered : List Answered} {entry : Answered} {origin : Destination}
    {messageId : UInt16} (hunique : answered.Pairwise
      (fun older newer => ¬(older.origin = newer.origin ∧ older.messageId = newer.messageId)))
    (hmem : entry ∈ answered) (horigin : entry.origin = origin)
    (hid : entry.messageId = messageId) :
    answered.find? (fun entry => entry.origin = origin ∧ entry.messageId = messageId) =
      some entry := by
  induction answered with
  | nil => cases hmem
  | cons first rest ih =>
    obtain ⟨hfirst, hrest⟩ := List.pairwise_cons.mp hunique
    rcases List.mem_cons.mp hmem with rfl | hmem
    · exact List.find?_cons_of_pos (decide_eq_true ⟨horigin, hid⟩)
    rw [List.find?_cons_of_neg]
    · exact ih hrest hmem
    · intro hsame
      obtain ⟨horigin', hid'⟩ := of_decide_eq_true hsame
      exact hfirst entry hmem ⟨horigin'.trans horigin.symm, hid'.trans hid.symm⟩

/-- **What a copy of a recorded message causes**: its reply is sent again. -/
theorem answerRetransmission_of_recorded {d : Driver env} (hrecord : Record (d.core .empty))
    (hlink : d.linkOpen = true) (hsent : env.sendResult d.world.sends = none) {entry : Answered}
    (hmem : entry ∈ d.answered) (hyoung : d.lookupTime < entry.answeredAt + EXCHANGE_LIFETIME)
    {message : CoapMessage} (hconfirmable : message.ty = .confirmable)
    (hid : entry.messageId = message.messageId) : wp (answerRetransmission message entry.origin)
      (fun repeated d' => repeated = true ∧
        Transmitted .other entry.reply entry.origin d.forgetExpired d')
      (fun _ _ => False) d := by
  have hforgotten := d.forgetExpired_forgotten
  have hkept := mem_forgetExpired hmem hyoung
  have hlink₁ : d.forgetExpired.linkOpen = true := hforgotten.quiet.linkOpen.trans hlink
  have hunique : d.forgetExpired.answered.Pairwise
      (fun older newer => ¬(older.origin = newer.origin ∧ older.messageId = newer.messageId)) := by
    obtain ⟨expired, hanswered, -⟩ := hforgotten.past
    have hunique := hrecord.unique
    have hanswered : (d.core .empty).answered = _ := hanswered
    rw [hanswered] at hunique
    exact (List.pairwise_append.mp hunique).2.1
  have hfind := find?_recorded hunique hkept rfl hid
  unfold answerRetransmission
  rw [if_neg (not_not.mpr hconfirmable)]
  simp only [wp_bind, wp_get, replyTo]
  rw [wp_set, hfind]
  simp only [Option.map_some, wp_bind]
  refine wp_mono (transmit_of_sendable (.of_plain (hrecord.plain entry hmem) entry.origin) .other hlink₁) ?_ ?_
  · rintro _ d' ⟨-, hreplied⟩
    exact ⟨rfl, hreplied⟩
  · rintro error d' ⟨⟨-, hfailed⟩, -⟩
    rw [hforgotten.sends] at hfailed
    exact hfailed hsent

/-- Where the message of a datagram comes from, and the message. -/
def sourceOf (plaintext : Bytes) : Option (Destination × CoapMessage) :=
  match CoapMessage.decode plaintext with
  | .error _ => none
  | .ok message =>
    match parseUdpRx message with
    | .error _ => none
    | .ok none => some (.borderAgent, message)
    | .ok (some udpRx) =>
      if udpRx.destinationPort ≠ DEFAULT_MM_PORT then none
      else
        match CoapMessage.decode udpRx.payload with
        | .error _ => none
        | .ok inner => some (.mesh udpRx.sourceAddress udpRx.sourcePort, inner)

/-- A datagram with a repeated message is over once the reply is sent. -/
theorem handleDatagram_of_repeated {d : Driver env} {plaintext : Bytes} {origin : Destination}
    {message : CoapMessage} (hsource : sourceOf plaintext = some (origin, message))
    {P : Driver env → Prop}
    (h : wp (answerRetransmission message origin) (fun repeated d' => repeated = true ∧ P d')
      (fun _ _ => False) d) : P (d.handleDatagram plaintext) := by
  unfold sourceOf at hsource
  unfold handleDatagram
  cases hdecode : CoapMessage.decode plaintext with
  | error error =>
    rw [hdecode] at hsource
    cases hsource
  | ok outer =>
    rw [hdecode] at hsource
    refine of_route ?_
    dsimp only at hsource
    unfold routeIncoming
    cases hparse : parseUdpRx outer with
    | error error =>
      rw [hparse] at hsource
      cases hsource
    | ok parsed =>
      rw [hparse] at hsource
      cases parsed with
      | none =>
        cases hsource
        dsimp only
        rw [routeDirect]
        refine wp_seq_mono h ?_ (fun _ _ hfalse => hfalse.elim)
        rintro repeated d' ⟨rfl, hP⟩
        exact hP
      | some udpRx =>
        dsimp only at hsource ⊢
        by_cases hport : udpRx.destinationPort ≠ DEFAULT_MM_PORT
        · rw [if_pos hport] at hsource
          cases hsource
        rw [if_neg hport] at hsource ⊢
        cases hinner : CoapMessage.decode udpRx.payload with
        | error error =>
          rw [hinner] at hsource
          cases hsource
        | ok inner =>
          rw [hinner] at hsource
          cases hsource
          dsimp only
          rw [routeProxied]
          refine wp_seq_mono h ?_ (fun _ _ hfalse => hfalse.elim)
          rintro repeated d' ⟨rfl, hP⟩
          exact hP

/-! ## §2. Runs. -/

theorem run_retained (rng : env.crypto.Rng) (wakes : List (Wake env)) :
    Retained (((Driver.new rng).run wakes).core .empty) := by
  have hnew : Retained ((Driver.new rng).core .empty) := by
    intro before after entry hsplit
    cases before <;> cases hsplit
  exact (run_invariant (fun _ _ => Retained.step) (fun _ _ _ => Retained.intake) (new_sound rng)
    hnew wakes).2

/-- **Retransmitted messages are answered from the record.**  In every state that a run reaches,
    the record has at most 64 entries, oldest first and one for each message.  A confirmable
    message that was replied to at `time`, when another copy of it is handled within the exchange
    lifetime, with fewer than 64 messages replied to since and, for the border agent, the link not
    reopened: the same reply is sent once more, and nothing else happens. -/
theorem repeats_answered_from_record (rng : env.crypto.Rng) (wakes : List (Wake env)) :
    let d := (Driver.new rng).run wakes
    (d.answered.length ≤ MAX_REMEMBERED ∧
      d.answered.Pairwise (fun older newer => older.answeredAt ≤ newer.answeredAt) ∧
      d.answered.Pairwise
        (fun older newer => ¬(older.origin = newer.origin ∧ older.messageId = newer.messageId))) ∧
    ∀ before after origin messageId reply time,
      d.trace = before ++ .replied origin messageId reply time :: after →
      after.countP Action.isReplied < MAX_REMEMBERED →
      (origin = .borderAgent → .reopened ∉ after) →
      ∀ plaintext message, sourceOf plaintext = some (origin, message) →
        message.ty = .confirmable → message.messageId = messageId →
        d.linkOpen = true → env.sendResult d.world.sends = none →
        d.lookupTime < time + EXCHANGE_LIFETIME →
        let d' := d.step (.received (.ok plaintext))
        (∃ wire, Carries reply origin wire ∧ d'.trace = d.trace ++ [.sent .other wire]) ∧
          d'.inFlight = d.inFlight ∧ d'.queued = d.queued ∧ d'.status = d.status ∧
          d'.joinerSessions = d.joinerSessions ∧ d'.meshLocalPrefix = d.meshLocalPrefix := by
  have hsound := run_sound rng wakes
  have hretained := run_retained rng wakes
  generalize (Driver.new rng).run wakes = d at hsound hretained
  have hrecord := hsound.record
  refine ⟨⟨hrecord.bounded, hrecord.ordered, hrecord.unique⟩, ?_⟩
  intro before after origin messageId reply time htrace hfew hreopened plaintext message hsource
    hconfirmable hid hlink hsent hyoung
  have hopen : d.isClosed = false := (hsound.control.link.mp hlink).2
  have hstep : d.step (.received (.ok plaintext)) = d.handleDatagram plaintext := by
    rw [step, hopen, enabled, hlink]
    rfl
  have hmem : { origin, messageId, reply, answeredAt := time } ∈ d.answered := by
    rcases hretained before after { origin, messageId, reply, answeredAt := time } htrace hfew
      hreopened with hold | ⟨older, newer, hanswered, -⟩
    · -- the clock was not behind before the lookup
      have hclock := d.forgetExpired_forgotten.clock.now
      have hold : time + EXCHANGE_LIFETIME ≤ d.world.now := hold
      unfold lookupTime at hyoung
      omega
    · have hanswered : d.answered = _ := hanswered
      rw [hanswered]
      exact List.mem_append_right _ List.mem_cons_self
  have hrepeated := answerRetransmission_of_recorded hrecord hlink hsent hmem hyoung hconfirmable
    hid.symm
  dsimp only
  rw [hstep]
  obtain ⟨wire, d₁, hcarries, ⟨nextMessageId, draws, rfl⟩, hd'⟩ :=
    handleDatagram_of_repeated hsource hrepeated
  obtain ⟨reads, hsame⟩ := d.forgetExpired_forgotten.same
  rw [hd', hsame]
  exact ⟨⟨wire, hcarries, rfl⟩, rfl, rfl, rfl, rfl, rfl⟩

/-- A confirmable notification of the border agent that the dataset has changed. -/
def datasetChangedNotification : Bytes :=
  [0x40, 0x02, 0x00, 0x09, 0xb1, 0x63, 0x02, 0x64, 0x63]

/-- The notification is acknowledged and, when it comes again, acknowledged once more. -/
theorem repeats_answered_notification :
    let d : Driver (Env.transparent (fun _ => none)) :=
      (Driver.new ()).run [.received (.ok datasetChangedNotification)]
    (d.trace.countP Action.isReplied = 1 ∧ d.meshLocalPrefix.generation = 1) ∧
      (d.step (.received (.ok datasetChangedNotification))).meshLocalPrefix = d.meshLocalPrefix := by
  intro d
  refine ⟨by decide +kernel, ?_⟩
  have hrepeats := @repeats_answered_from_record (Env.transparent (fun _ => none)) ()
    [.received (.ok datasetChangedNotification)]
  let message : CoapMessage :=
    { ty := .confirmable, code := .POST, messageId := 9, token := []
      options := CoapMessage.pathOptions [ascii "c", ascii "dc"], payload := [] }
  have hrepeat := hrepeats.2 (d.trace.take 3) [] .borderAgent 9 (.emptyAck 9) 0 rfl (by decide)
    (fun _ h => absurd h List.not_mem_nil) datasetChangedNotification message
    (by decide +kernel) rfl rfl rfl rfl (by decide +kernel)
  exact hrepeat.2.2.2.2.2

/-! ## §3. No message is handled twice. -/

/-- A message is replied to anew only after its last reply has left the record: its lifetime was
    over, 64 other messages were replied to, or the link to the border agent was reopened. -/
def RepliedAnew (before : List Action) : Action → Prop
  | .replied origin messageId _ time => ∀ first reply earlier since,
      before = first ++ .replied origin messageId reply earlier :: since →
      earlier + EXCHANGE_LIFETIME ≤ time ∨ MAX_REMEMBERED ≤ since.countP Action.isReplied ∨
        origin = .borderAgent ∧ .reopened ∈ since
  | _ => True

theorem repliedAnew_recordStep {c c' : SessionCore}
    (h : Retained c ∧ Justified RepliedAnew c.trace) (hstep : ∃ actions,
      c'.trace = c.trace ++ actions ∧ c.now ≤ c'.now ∧ RecordStep c c' actions) :
    Retained c' ∧ Justified RepliedAnew c'.trace := by
  obtain ⟨actions, htrace, hnow, hstep⟩ := hstep
  rw [htrace, justified_append]
  refine ⟨h.1.recordStep htrace hnow hstep, h.2, ?_⟩
  have hother : (∀ action ∈ actions, action.isReplied = false) →
      Justified (fun before => RepliedAnew (c.trace ++ before)) actions := by
    intro hnone before action after hactions
    have hkind := hnone action (by simp [hactions])
    cases action with
    | replied => simp [Action.isReplied] at hkind
    | _ => trivial
  cases hstep with
  | kept _ hnone => exact hother hnone
  | expired _ hnil => exact hother (by simp [hnil])
  | reopened _ hnone => exact hother hnone
  | remembered origin messageId _ hreply hunanswered =>
    rw [hreply, justified_cons, List.append_nil]
    refine ⟨?_, justified_nil⟩
    intro first reply earlier since hsplit
    by_contra hno
    simp only [not_or, not_and, Nat.not_le] at hno
    -- otherwise the earlier reply is still on record
    rcases h.1 first since ⟨origin, messageId, reply, earlier⟩ hsplit hno.2.1 hno.2.2
      with hold | ⟨older, newer, hanswered, -⟩
    · exact absurd hold (Nat.not_le.mpr hno.1)
    · exact hunanswered ⟨origin, messageId, reply, earlier⟩ (by simp [hanswered]) ⟨rfl, rfl⟩

/-- **No message is handled twice while its reply is on record**, over any run. -/
theorem messages_replied_once (rng : env.crypto.Rng) (wakes : List (Wake env)) :
    Justified RepliedAnew ((Driver.new rng).run wakes).trace :=
  (run_invariant (fun _ _ h hmove => repliedAnew_recordStep h hmove.recordStep)
    (fun _ _ _ h hintake => repliedAnew_recordStep h hintake.recordStep) (new_sound rng)
    ⟨run_retained rng [], justified_nil⟩ wakes).2.2

end Driver

end Meshcop
