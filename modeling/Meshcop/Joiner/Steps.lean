/-
  Meshcop.Joiner.Steps — what a joiner session can do, as a transition relation.

  `JoinerCore` keeps of a session only what entrusting the joiner depends on: the phase, the
  key material, the two randoms, the epoch-1 counter, the decision and the history.
  `JoinerStep` lists the ways these can change together, each with its guard; the session's own
  methods are related to it here, and a whole call in `Moves`.
-/

import Meshcop.Joiner.Session

namespace Meshcop

open Lib
open Dtls (Crypto Protected ThreadDtlsKeyMaterial ThreadDtlsServerHandshake HandshakeMessage
  HandshakeTranscript DtlsRecord ContentType)

/-! ## §1. The abstract machine. -/

structure JoinerCore where
  phase : JoinerSessionPhase
  keyMaterial : Option ThreadDtlsKeyMaterial
  serverRandom : Bytes
  clientRandom : Option Bytes
  nextSequence : UInt64
  decision : Option Bool
  trace : List JoinerAction

namespace JoinerCore

/-- Appends to the history. -/
def did (c : JoinerCore) (actions : List JoinerAction) : JoinerCore :=
  { c with trace := c.trace ++ actions }

end JoinerCore

section Guards

variable (C : Crypto) (keyMaterial : ThreadDtlsKeyMaterial)

/-- The record is an epoch-1 record of the joiner that authenticates under these keys. -/
structure OpensUnder (entry : Protected) : Prop where
  key : entry.key = keyMaterial.keyBlock.clientWriteKey
  fixedIv : entry.fixedIv = keyMaterial.keyBlock.clientWriteIv
  epoch : entry.record.header.epoch = 1
  opens : Dtls.openAes128Ccm8Record C entry.record entry.key entry.fixedIv = .ok entry.plaintext

/-- The message is a Finished with the client's value over some transcript. -/
def VerifiesUnder (message : HandshakeMessage) : Prop :=
  message.messageType = .finished ∧ ∃ transcript : HandshakeTranscript,
    transcript.finishedVerifyData C keyMaterial.masterSecret .client = .ok message.payload

/-- The record was sealed by the server's side of these keys under the given number. -/
structure SealsUnder (sequence : UInt64) (contentType : ContentType) (entry : Protected) :
    Prop where
  key : entry.key = keyMaterial.keyBlock.serverWriteKey
  fixedIv : entry.fixedIv = keyMaterial.keyBlock.serverWriteIv
  sealed : Dtls.protectAes128Ccm8Record C contentType 1 sequence entry.key entry.fixedIv
    entry.plaintext = .ok entry.record

/-- The record is application data that carries a well-formed JOIN_FIN.req. -/
structure CarriesJoinFin (entry : Protected) (request : CoapMessage) (info : JoinerFinalizeInfo) :
    Prop where
  contentType : entry.record.header.contentType = .applicationData
  decodes : CoapMessage.decode entry.plaintext = .ok request
  path : request.uriPath = .ok (some Uri.JOIN_FIN)
  parses : parseJoinFin request = .ok info

end Guards

/-- One step of a joiner session. -/
inductive JoinerStep (C : Crypto) (c : JoinerCore) : JoinerCore → Prop where
  /-- A ClientHello is handled; it may fail at any point. -/
  | hello (serverRandom : Bytes) (clientRandom : Option Bytes) :
      c.phase = .awaitingClientHello → JoinerStep C c { c with serverRandom, clientRandom }
  /-- The server's flight goes out. -/
  | offer : c.phase = .awaitingClientHello →
      JoinerStep C c { c with phase := .awaitingClientFlight }
  /-- A datagram without protected content is sent. -/
  | reply (datagram : Bytes) : JoinerStep C c (c.did [.emitted (.transmit datagram false)])
  /-- A ClientKeyExchange replaces the keys. -/
  | key (keyMaterial : ThreadDtlsKeyMaterial) : c.phase = .awaitingClientFlight →
      JoinerStep C c { c.did [.keyed keyMaterial] with keyMaterial := some keyMaterial }
  /-- A protected record authenticates. -/
  | opened (keyMaterial : ThreadDtlsKeyMaterial) (entry : Protected) :
      c.keyMaterial = some keyMaterial → OpensUnder C keyMaterial entry →
      JoinerStep C c (c.did [.opened entry])
  /-- A client Finished verifies. -/
  | verified (keyMaterial : ThreadDtlsKeyMaterial) (message : HandshakeMessage) :
      c.phase = .awaitingClientFlight ∨ c.phase = .connected →
      c.keyMaterial = some keyMaterial → VerifiesUnder C keyMaterial message →
      JoinerStep C c (c.did [.verified message])
  /-- The server's Finished answers a Finished verified just before. -/
  | finish (keyMaterial : ThreadDtlsKeyMaterial) (message : HandshakeMessage) (entry : Protected)
      (datagram : Bytes) :
      c.phase = .awaitingClientFlight ∨ c.phase = .connected →
      c.keyMaterial = some keyMaterial → c.trace.getLast? = some (.verified message) →
      VerifiesUnder C keyMaterial message →
      SealsUnder C keyMaterial c.nextSequence .handshake entry →
      JoinerStep C c
        { c.did [.sealed entry, .emitted (.transmit datagram false), .emitted .connected] with
          phase := .connected, nextSequence := c.nextSequence + 1 }
  /-- The server's Finished is repeated. -/
  | refinish (keyMaterial : ThreadDtlsKeyMaterial) (entry : Protected) (datagram : Bytes) :
      c.phase.established = true → c.keyMaterial = some keyMaterial →
      SealsUnder C keyMaterial c.nextSequence .handshake entry →
      JoinerStep C c { c.did [.sealed entry, .emitted (.transmit datagram false)] with
        nextSequence := c.nextSequence + 1 }
  /-- The application decides on an authenticated JOIN_FIN.req. -/
  | ask (keyMaterial : ThreadDtlsKeyMaterial) (entry : Protected) (request : CoapMessage)
      (info : JoinerFinalizeInfo) (answer : Bool) :
      c.phase.established = true → c.keyMaterial = some keyMaterial → c.decision = none →
      .opened entry ∈ c.trace → OpensUnder C keyMaterial entry →
      CarriesJoinFin entry request info →
      JoinerStep C c { c.did [.asked info answer] with decision := some answer }
  /-- An authenticated JOIN_FIN.req is answered with the decision. -/
  | respond (keyMaterial : ThreadDtlsKeyMaterial) (entry : Protected) (request : CoapMessage)
      (info : JoinerFinalizeInfo) (accepted : Bool) (response : Protected) (datagram : Bytes) :
      c.phase.established = true → c.keyMaterial = some keyMaterial →
      c.decision = some accepted → .opened entry ∈ c.trace → OpensUnder C keyMaterial entry →
      CarriesJoinFin entry request info →
      (Receiving.joinFinResponse request accepted).encode = .ok response.plaintext →
      SealsUnder C keyMaterial c.nextSequence .applicationData response →
      JoinerStep C c
        { c.did ([.sealed response, .emitted (.transmit datagram accepted)] ++
            if c.phase = .finalized then [] else [.emitted (.finalized accepted info)]) with
          phase := .finalized, nextSequence := c.nextSequence + 1 }

/-- Any number of steps. -/
abbrev JoinerSteps (C : Crypto) := Relation.ReflTransGen (JoinerStep C)

/-! ## §2. The methods of a session. -/

namespace JoinerSession

variable {C : Crypto}

/-- What the abstract machine keeps of a session. -/
def core (s : JoinerSession C) : JoinerCore :=
  { phase := s.phase, keyMaterial := s.keyMaterial, serverRandom := s.handshake.serverRandom
    clientRandom := s.handshake.clientRandom, nextSequence := s.epoch1Sequence
    decision := s.finalizeDecision, trace := s.trace }

theorem keyMaterialRequired_eq_ok {s : JoinerSession C} {keyMaterial : ThreadDtlsKeyMaterial}
    (h : s.keyMaterialRequired = .ok keyMaterial) : s.keyMaterial = some keyMaterial := by
  unfold keyMaterialRequired at h
  split at h
  · cases h
    assumption
  · cases h

/-- An opened record is authenticated under the session's keys, and logged. -/
theorem openRecord_spec {record : DtlsRecord} (hepoch : record.header.epoch = 1)
    (s : JoinerSession C) : wp (openRecord record) (fun result s' => match result with
        | none => s' = s
        | some plaintext => ∃ keyMaterial entry, s.keyMaterial = some keyMaterial ∧
            OpensUnder C keyMaterial entry ∧ entry.record = record ∧ entry.plaintext = plaintext ∧
            s' = { s.log (.opened entry) with
              replayWindow := s.replayWindow.markSeen record.header.sequenceNumber })
      (fun _ s' => s' = s) s := by
  simp only [openRecord, wp_bind, wp_get]
  split
  · rfl
  · simp only [wp_bind]
    refine wp_attempt.mpr ⟨fun keyMaterial hkeys => ?_, fun _ _ => rfl⟩
    refine wp_attempt.mpr ⟨fun plaintext hopen => ?_, fun _ _ => rfl⟩
    exact ⟨keyMaterial, _, keyMaterialRequired_eq_ok hkeys, ⟨rfl, rfl, hepoch, hopen⟩, rfl, rfl, rfl⟩

theorem sealRecord_spec (contentType : ContentType) (keyMaterial : ThreadDtlsKeyMaterial)
    (plaintext : Bytes) (s : JoinerSession C) : wp (sealRecord contentType keyMaterial plaintext)
      (fun record s' => ∃ entry, entry.record = record ∧ entry.plaintext = plaintext ∧
        SealsUnder C keyMaterial s.epoch1Sequence contentType entry ∧
        s' = { s.log (.sealed entry) with epoch1Sequence := s.epoch1Sequence + 1 })
      (fun _ s' => s' = s) s := by
  simp only [sealRecord, wp_bind, wp_get, wp_modify, wp_pure]
  refine wp_attempt.mpr ⟨fun record hrecord => ?_, fun _ _ => rfl⟩
  exact ⟨_, rfl, rfl, ⟨rfl, rfl, hrecord⟩, rfl⟩

/-- Building the Finished flight takes a ChangeCipherSpec under the next plaintext number and a
    freshly sealed Finished, or may use up that number: once sealed, the datagram always encodes. -/
theorem buildServerFinishedFlight_spec (s : JoinerSession C) : wp buildServerFinishedFlight
      (fun datagram s' => ∃ keyMaterial change entry, s.keyMaterial = some keyMaterial ∧
        DtlsRecord.new .changeCipherSpec 0 s.epoch0Sequence [1] = .ok change ∧
        SealsUnder C keyMaterial s.epoch1Sequence .handshake entry ∧
        entry.plaintext = s.serverFinished ∧
        DtlsRecord.encodeDatagram [change, entry.record] = .ok datagram ∧
        s' = { s.log (.sealed entry) with
          epoch0Sequence := s.epoch0Sequence + 1, epoch1Sequence := s.epoch1Sequence + 1 })
      (fun _ s' => ∃ epoch0Sequence, s' = { s with epoch0Sequence }) s := by
  simp only [buildServerFinishedFlight, plaintextChangeCipherSpec, plaintextRecord, wp_bind, wp_get,
    wp_modify, wp_pure]
  refine wp_attempt.mpr ⟨fun keyMaterial hkeys => ?_, fun _ _ => ⟨_, rfl⟩⟩
  refine wp_attempt.mpr ⟨fun change hchange => ?_, fun _ _ => ⟨_, rfl⟩⟩
  refine wp_mono (sealRecord_spec .handshake keyMaterial s.serverFinished
    { s with epoch0Sequence := s.epoch0Sequence + 1 }) ?_ (fun _ s' h => ⟨_, h⟩)
  rintro finished s' ⟨entry, rfl, hplaintext, hseals, rfl⟩
  have hsized : ∀ r ∈ [change, entry.record], r.Sized := by
    have hfinished := (Dtls.protect_eq_ok hseals.sealed).2.2.2.2
    simpa using ⟨DtlsRecord.new_sized hchange, hfinished⟩
  obtain ⟨bytes, hbytes⟩ := Dtls.DtlsRecord.encodeDatagram_of_sized _ hsized
  refine wp_attempt.mpr ⟨fun datagram hdatagram => ?_, fun e he => ?_⟩
  · exact ⟨keyMaterial, change, entry, keyMaterialRequired_eq_ok hkeys, hchange, hseals, hplaintext,
      hdatagram, rfl⟩
  · rw [hbytes] at he
    cases he

end JoinerSession

/-! ## §3. The answer to a JOIN_FIN.req. -/

/-- The datagram is the JOIN_FIN.rsp with this decision, sealed under the given number. -/
def JoinerSession.SealedResponse {C : Crypto} (s : JoinerSession C) (number : UInt64)
    (request : CoapMessage) (accepted : Bool) (datagram : Bytes) : Prop :=
  ∃ keyMaterial plaintext record, s.keyMaterial = some keyMaterial ∧
    (Receiving.joinFinResponse request accepted).encode = .ok plaintext ∧
    Dtls.protectAes128Ccm8Record C .applicationData 1 number keyMaterial.keyBlock.serverWriteKey
      keyMaterial.keyBlock.serverWriteIv plaintext = .ok record ∧
    record.encode = .ok datagram

namespace Receiving

variable {C : Crypto} {handler : JoinerHandler}

/-- The decision on a JOIN_FIN.req: the one made before, or the application's. -/
def decision (r : Receiving C handler) (info : JoinerFinalizeInfo) : Bool × handler.State :=
  match r.session.finalizeDecision with
  | some accepted => (accepted, r.handlerState)
  | none => handler.onJoinerFinalize r.session.joinerId info r.handlerState

/-- The events of an answer; the first one also reports the outcome. -/
def answerEvents (phase : JoinerSessionPhase) (accepted : Bool) (info : JoinerFinalizeInfo)
    (datagram : Bytes) : List JoinerSessionEvent :=
  .transmit datagram accepted :: (if phase = .finalized then [] else [.finalized accepted info])

/-- What the decision adds to the history. -/
def asked (r : Receiving C handler) (info : JoinerFinalizeInfo) : List JoinerAction :=
  if r.session.finalizeDecision = none then [.asked info (r.decision info).1] else []

/-- The decision is made. -/
def decided (r : Receiving C handler) (info : JoinerFinalizeInfo) : Receiving C handler :=
  { r with
    handlerState := (r.decision info).2
    session := { r.session with
      finalizeDecision := some (r.decision info).1, trace := r.session.trace ++ r.asked info } }

/-- A response went out, with its events. -/
def responded (r : Receiving C handler) (response : Protected) (events : List JoinerSessionEvent) :
    Receiving C handler :=
  { r with
    events := r.events ++ events
    session := { r.session with
      epoch1Sequence := r.session.epoch1Sequence + 1, phase := .finalized
      trace := r.session.trace ++ .sealed response :: events.map .emitted } }

theorem decided_core {r : Receiving C handler} {info : JoinerFinalizeInfo}
    (h : r.session.finalizeDecision ≠ none) : (r.decided info).session.core = r.session.core := by
  obtain ⟨accepted, hdecision⟩ := Option.ne_none_iff_exists'.mp h
  simp [decided, asked, decision, hdecision, JoinerSession.core]

theorem decideFinalize_spec (info : JoinerFinalizeInfo) (r : Receiving C handler) :
    wp (decideFinalize info)
      (fun accepted r' => accepted = (r.decision info).1 ∧ r' = r.decided info)
      (fun _ _ => False) r := by
  simp only [decideFinalize, wp_bind, wp_get]
  cases hdecision : r.session.finalizeDecision with
  | some accepted =>
    have hkept : r.decision info = (accepted, r.handlerState) := by simp only [decision, hdecision]
    refine ⟨by rw [hkept], ?_⟩
    rw [decided, asked, hkept, ← hdecision, if_neg (by rw [hdecision]; intro h; cases h),
      List.append_nil]
  | none =>
    have hasked : r.decision info = handler.onJoinerFinalize r.session.joinerId info r.handlerState := by
      simp only [decision, hdecision]
    refine ⟨by rw [hasked], ?_⟩
    rw [decided, asked, hasked, if_pos hdecision]
    rfl

/-- **The answer in full**: once the decision is made, one record is sealed, unless there is no way
    to seal it. -/
theorem answerJoinFin_spec (request : CoapMessage) (info : JoinerFinalizeInfo)
    (r : Receiving C handler) : wp (answerJoinFin request info)
      (fun _ r' => ∃ keyMaterial response datagram, r.session.keyMaterial = some keyMaterial ∧
        (joinFinResponse request (r.decision info).1).encode = .ok response.plaintext ∧
        SealsUnder C keyMaterial r.session.epoch1Sequence .applicationData response ∧
        response.record.encode = .ok datagram ∧ r' = (r.decided info).responded response
          (answerEvents r.session.phase (r.decision info).1 info datagram))
      (fun _ r' => r' = r.decided info ∧ ∀ datagram, ¬ r.session.SealedResponse
        r.session.epoch1Sequence request (r.decision info).1 datagram) r := by
  unfold answerJoinFin
  refine wp_seq_mono (decideFinalize_spec info r) ?_ (fun _ _ h => h.elim)
  rintro _ _ ⟨rfl, rfl⟩
  simp only [JoinerSession.sealRecord, push, wp_bind, wp_get, wp_modify, wp_pure, onSession, wp_zoom]
  refine wp_attempt.mpr ⟨fun keyMaterial hkeys => ?_, fun e he => ⟨rfl, ?_⟩⟩
  swap
  · rintro datagram ⟨keyMaterial, _, _, hkeys, -⟩
    simp [JoinerSession.keyMaterialRequired, decided, hkeys] at he
  have hkeys := JoinerSession.keyMaterialRequired_eq_ok hkeys
  refine wp_attempt.mpr ⟨fun plaintext hplaintext => ?_, fun e he => ⟨rfl, ?_⟩⟩
  swap
  · rintro datagram ⟨_, plaintext, _, -, hplaintext, -⟩
    rw [hplaintext] at he
    cases he
  refine wp_attempt.mpr ⟨fun record hrecord => ?_, fun e he => ⟨rfl, ?_⟩⟩
  swap
  · rintro datagram ⟨other, plaintext', record, hother, hplaintext', hrecord, -⟩
    cases Option.some.inj (hother.symm.trans hkeys)
    cases hplaintext'.symm.trans hplaintext
    cases he.symm.trans hrecord
  have hencode := Dtls.DtlsRecord.encode_of_sized (Dtls.protect_eq_ok hrecord).2.2.2.2
  refine wp_attempt_of_ok hencode ?_
  unfold onlyIf
  by_cases hfinal : r.session.phase = .finalized
  · rw [if_neg (by simp [decided, hfinal]), wp_pure]
    refine ⟨keyMaterial, ⟨_, _, record, plaintext⟩, _, hkeys, hplaintext, ⟨rfl, rfl, hrecord⟩, hencode,
      ?_⟩
    simp [responded, answerEvents, hfinal, JoinerSession.log]
  · rw [if_pos (by simp [decided, hfinal]), wp_modify]
    refine ⟨keyMaterial, ⟨_, _, record, plaintext⟩, _, hkeys, hplaintext, ⟨rfl, rfl, hrecord⟩, hencode,
      ?_⟩
    simp [responded, answerEvents, hfinal, JoinerSession.log]

end Receiving

end Meshcop
