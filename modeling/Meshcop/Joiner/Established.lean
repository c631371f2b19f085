/-
  Meshcop.Joiner.Established — relay traffic that does not authenticate, and a joiner whose
  handshake is complete.

  A relay payload is whatever a joiner router sends on, so anyone near the router can have one
  delivered.  Once a session is established such a payload should not matter: every record that
  does not open under the client's write key is passed over, at most the Finished is repeated,
  and the JOIN_FIN.req that comes later is answered as it would have been.

  There are two exceptions, and `Harmless` excludes exactly them: a ChangeCipherSpec of epoch 0
  whose payload is not the single byte 1 ends the session in every phase, and so does a
  repetition of the Finished that can no longer be sealed.

  Main results:
    * `receive_unauthenticated` — what `receive` does with such a payload;
    * `receive_joinFin`         — how a JOIN_FIN.req is answered, as a function of the session;
    * `tolerates_iff`           — the payload is tolerated exactly if it is harmless.
-/

import Meshcop.Joiner.Steps

namespace Meshcop

open Lib
open Dtls (Crypto Protected ThreadDtlsKeyMaterial DtlsRecord ContentType)

/-! ## §1. What counts as the same session. -/

namespace JoinerSession

variable {C : Crypto}

/-- An epoch-1 record that opens under the session's client write key. -/
def Opens (s : JoinerSession C) (record : DtlsRecord) : Prop :=
  record.header.epoch = 1 ∧ ∃ keyMaterial plaintext, s.keyMaterial = some keyMaterial ∧
    Dtls.openAes128Ccm8Record C record keyMaterial.keyBlock.clientWriteKey
      keyMaterial.keyBlock.clientWriteIv = .ok plaintext

/-- No epoch-1 record of the payload opens under the session's client write key. -/
def Unauthenticated (s : JoinerSession C) (payload : Bytes) : Prop :=
  ∀ records, DtlsRecord.parseDatagram payload = .ok records → ∀ record ∈ records, ¬ s.Opens record

/-- The sessions differ at most in their record counters, the count of repetitions, the
    ChangeCipherSpec flag and the history. -/
def Unaffected (s s' : JoinerSession C) : Prop :=
  s' = { s with serverFinishedRetransmissions := s'.serverFinishedRetransmissions
                epoch0Sequence := s'.epoch0Sequence
                epoch1Sequence := s'.epoch1Sequence
                sawClientChangeCipherSpec := s'.sawClientChangeCipherSpec
                trace := s'.trace }

theorem Unaffected.trans {s t u : JoinerSession C} (hst : Unaffected s t) (htu : Unaffected t u) :
    Unaffected s u := by
  unfold Unaffected at *
  rw [htu, hst]

/-- Whether a record opens depends on the keys only. -/
theorem Opens.congr {s s' : JoinerSession C} (hkeys : s'.keyMaterial = s.keyMaterial)
    {record : DtlsRecord} (h : s'.Opens record) : s.Opens record := by
  unfold Opens at *
  rw [← hkeys]
  exact h

theorem Unaffected.keyMaterial {s s' : JoinerSession C} (h : Unaffected s s') :
    s'.keyMaterial = s.keyMaterial := by
  rw [h]

theorem Unaffected.phase {s s' : JoinerSession C} (h : Unaffected s s') : s'.phase = s.phase := by
  rw [h]

/-! ## §2. Harmless payloads. -/

/-- A plaintext ChangeCipherSpec with another payload than the byte 1. -/
def MalformedChange (record : DtlsRecord) : Prop :=
  record.header.epoch = 0 ∧ record.header.contentType = .changeCipherSpec ∧ record.payload ≠ [1]

/-- The records make an established session repeat its Finished. -/
def Repeats (s : JoinerSession C) (records : List DtlsRecord) : Prop :=
  s.serverFinished ≠ [] ∧ Dtls.isClientFinishedFlight records = true ∧
    s.serverFinishedRetransmissions < MAX_DUPLICATE_FLIGHT_RETRANSMISSIONS

/-- The Finished can be sealed once more: the keys are there, the message leaves room for
    nonce and tag, and an epoch-1 number is left. -/
def FinishedFits (s : JoinerSession C) : Prop :=
  s.keyMaterial.isSome = true ∧ s.serverFinished.length ≤ 65519 ∧ s.epoch1Sequence.toNat < 2 ^ 48

/-- No malformed ChangeCipherSpec, and no repetition that cannot be sealed. -/
def Harmless (s : JoinerSession C) (payload : Bytes) : Prop :=
  ∀ records, DtlsRecord.parseDatagram payload = .ok records →
    (∀ record ∈ records, ¬ MalformedChange record) ∧ (s.Repeats records → s.FinishedFits)

/-- The keys have the lengths of the arrays that hold them. -/
def KeysSized (s : JoinerSession C) : Prop :=
  ∀ keyMaterial, s.keyMaterial = some keyMaterial → keyMaterial.keyBlock.Sized

/-- The datagram is the Finished flight of the session under its current numbers. -/
def FinishedFlight (s : JoinerSession C) (datagram : Bytes) : Prop :=
  ∃ keyMaterial changeCipherSpec finished, s.keyMaterial = some keyMaterial ∧
    DtlsRecord.new .changeCipherSpec 0 s.epoch0Sequence [1] = .ok changeCipherSpec ∧
    Dtls.protectAes128Ccm8Record C .handshake 1 s.epoch1Sequence keyMaterial.keyBlock.serverWriteKey
      keyMaterial.keyBlock.serverWriteIv s.serverFinished = .ok finished ∧
    DtlsRecord.encodeDatagram [changeCipherSpec, finished] = .ok datagram

/-! ## §3. The methods on an established session. -/

/-- A record that does not open leaves the session as it was. -/
theorem openRecord_refuses {s : JoinerSession C} {record : DtlsRecord}
    (hepoch : record.header.epoch = 1) (hrefused : ¬ s.Opens record) :
    wp (openRecord record) (fun result s' => result = none ∧ s' = s) (fun _ s' => s' = s) s := by
  simp only [openRecord, wp_bind, wp_get]
  by_cases hseen : s.replayWindow.hasSeen record.header.sequenceNumber = true
  · rw [if_pos hseen]
    exact ⟨rfl, rfl⟩
  rw [if_neg hseen]
  simp only [wp_bind]
  refine wp_attempt.mpr ⟨fun keyMaterial hkeys => ?_, fun _ _ => rfl⟩
  refine wp_attempt.mpr ⟨fun plaintext hopen => ?_, fun _ _ => rfl⟩
  exact absurd ⟨hepoch, keyMaterial, plaintext, keyMaterialRequired_eq_ok hkeys, hopen⟩ hrefused

/-- **The Finished flight** is built exactly if it fits. -/
theorem buildServerFinishedFlight_iff (hC : C.AeadInverts) {s : JoinerSession C}
    (hkeys : s.KeysSized) : wp buildServerFinishedFlight
      (fun datagram s' => s.FinishedFits ∧ s.FinishedFlight datagram ∧ Unaffected s s' ∧
        s'.epoch1Sequence = s.epoch1Sequence + 1)
      (fun _ _ => ¬ s.FinishedFits) s := by
  simp only [buildServerFinishedFlight, plaintextChangeCipherSpec, plaintextRecord, sealRecord,
    wp_bind, wp_get, wp_modify, wp_pure]
  refine wp_attempt.mpr ⟨fun keyMaterial hrequired => ?_, fun e he hfits => ?_⟩
  · have hkeyMaterial := keyMaterialRequired_eq_ok hrequired
    have hsized := hkeys keyMaterial hkeyMaterial
    have hseals : (∃ record, Dtls.protectAes128Ccm8Record C .handshake 1 s.epoch1Sequence
          keyMaterial.keyBlock.serverWriteKey keyMaterial.keyBlock.serverWriteIv s.serverFinished
          = .ok record) ↔ s.serverFinished.length ≤ 65519 ∧ s.epoch1Sequence.toNat < 2 ^ 48 :=
      Dtls.protect_isOk_iff hC hsized.serverWriteKey hsized.serverWriteIv
    refine wp_attempt.mpr ⟨fun changeCipherSpec hchange => ?_, fun e he => by cases he⟩
    refine wp_attempt.mpr ⟨fun finished hfinished => ?_, fun e he hfits => ?_⟩
    · have hfits : s.FinishedFits := ⟨by rw [hkeyMaterial]; rfl, hseals.mp ⟨finished, hfinished⟩⟩
      have hencodes : ∀ r ∈ [changeCipherSpec, finished], r.Sized := by
        intro r hr
        rcases List.mem_cons.mp hr with rfl | hr
        · exact DtlsRecord.new_sized hchange
        · rw [List.mem_singleton.mp hr]
          exact (Dtls.protect_eq_ok hfinished).2.2.2.2
      obtain ⟨bytes, hbytes⟩ := Dtls.DtlsRecord.encodeDatagram_of_sized _ hencodes
      refine wp_attempt.mpr ⟨fun datagram hdatagram => ?_, fun e he => ?_⟩
      · exact ⟨hfits, ⟨keyMaterial, changeCipherSpec, finished, hkeyMaterial, hchange, hfinished,
          hdatagram⟩, rfl, rfl⟩
      · rw [hbytes] at he
        cases he
    · obtain ⟨finished, hfinished⟩ := hseals.mpr hfits.2
      rw [hfinished] at he
      cases he
  · obtain ⟨keyMaterial, hkeyMaterial⟩ := Option.isSome_iff_exists.mp hfits.1
    unfold keyMaterialRequired at he
    rw [hkeyMaterial] at he
    cases he

end JoinerSession

/-! ## §4. One payload. -/

namespace Receiving

open JoinerSession (MalformedChange)

variable {C : Crypto} {handler : JoinerHandler}

/-- The records were passed over: nothing was emitted, sealed, asked or drawn. -/
structure PassedOver (r r' : Receiving C handler) : Prop where
  session : r.session.Unaffected r'.session
  number : r'.session.epoch1Sequence = r.session.epoch1Sequence
  handlerState : r'.handlerState = r.handlerState
  rng : r'.rng = r.rng
  events : r'.events = r.events

theorem PassedOver.refl (r : Receiving C handler) : PassedOver r r :=
  { session := rfl, number := rfl, handlerState := rfl, rng := rfl, events := rfl }

theorem PassedOver.trans {r s t : Receiving C handler} (h : PassedOver r s) (h' : PassedOver s t) :
    PassedOver r t :=
  { session := h.session.trans h'.session, number := h'.number.trans h.number
    handlerState := h'.handlerState.trans h.handlerState, rng := h'.rng.trans h.rng
    events := h'.events.trans h.events }

theorem receiveRecord_unauthenticated {r : Receiving C handler} {record : DtlsRecord}
    (hphase : r.session.phase.established = true) (hrefused : ¬ r.session.Opens record) :
    wp (receiveRecord true record) (fun _ r' => ¬ MalformedChange record ∧ PassedOver r r')
      (fun _ _ => MalformedChange record) r := by
  -- every branch but the one for a ChangeCipherSpec of epoch 0 passes the record over
  have htyped : record.header.contentType ≠ .changeCipherSpec →
      ¬ MalformedChange record ∧ PassedOver r r :=
    fun hne => ⟨fun h => hne h.2.1, .refl r⟩
  unfold receiveRecord
  by_cases hzero : record.header.epoch = 0
  · rw [if_pos hzero]
    cases htype : record.header.contentType with
    | handshake => exact htyped (by rw [htype]; intro h; cases h)
    | changeCipherSpec =>
      dsimp only
      by_cases hone : record.payload ≠ [1]
      · rw [if_pos hone]
        exact ⟨hzero, htype, hone⟩
      · rw [if_neg hone]
        refine ⟨fun h => hone h.2.2, ?_⟩
        exact { session := rfl, number := rfl, handlerState := rfl, rng := rfl, events := rfl }
    | alert =>
      simp only [wp_bind, wp_get]
      rw [if_pos hphase]
      exact htyped (by rw [htype]; intro h; cases h)
    | applicationData => exact htyped (by rw [htype]; intro h; cases h)
  · have hpassed : ¬ MalformedChange record ∧ PassedOver r r := ⟨fun h => hzero h.1, .refl r⟩
    rw [if_neg hzero]
    by_cases hone : record.header.epoch = 1
    · rw [if_pos hone]
      have hopen := JoinerSession.openRecord_refuses hone hrefused
      cases htype : record.header.contentType with
      | handshake =>
        simp only [handleEncryptedHandshake, wp_bind, wp_get]
        have hlate : r.session.phase ≠ .awaitingClientFlight := by
          intro h
          rw [h] at hphase
          cases hphase
        rw [if_pos (Or.inl hlate)]
        exact hpassed
      | changeCipherSpec => exact hpassed
      | alert =>
        dsimp only
        simp only [onSession, wp_bind, wp_caught, wp_zoom]
        refine wp_mono hopen ?_ ?_
        · intro result s' hresult
          obtain ⟨rfl, rfl⟩ := hresult
          exact hpassed
        · intro e s' hs'
          rw [hs']
          exact hpassed
      | applicationData =>
        simp only [handleApplicationData, onSession, wp_bind, wp_get]
        rw [if_neg (by rw [hphase]; intro h; cases h)]
        simp only [wp_bind, wp_caught, wp_zoom]
        refine wp_mono hopen ?_ ?_
        · intro result s' hresult
          obtain ⟨rfl, rfl⟩ := hresult
          exact hpassed
        · intro e s' hs'
          rw [hs']
          exact hpassed
    · rw [if_neg hone]
      exact hpassed

/-- **The records of an unauthenticated payload** are passed over up to the first malformed
    ChangeCipherSpec. -/
theorem receiveRecords_unauthenticated (records : List DtlsRecord) {r : Receiving C handler}
    (hphase : r.session.phase.established = true)
    (hrefused : ∀ record ∈ records, ¬ r.session.Opens record) : wp (receiveRecords true records)
      (fun _ r' => (∀ record ∈ records, ¬ MalformedChange record) ∧ PassedOver r r')
      (fun _ _ => ∃ record ∈ records, MalformedChange record) r := by
  induction records generalizing r with
  | nil => exact ⟨List.forall_mem_nil _, .refl r⟩
  | cons record records ih =>
    unfold receiveRecords
    refine wp_seq_mono (receiveRecord_unauthenticated hphase (hrefused record List.mem_cons_self)) ?_ ?_
    · intro _ r₁ hfirst
      obtain ⟨hfine, hpassed⟩ := hfirst
      have hphase₁ : r₁.session.phase.established = true := by rw [hpassed.session.phase, hphase]
      have hrefused₁ : ∀ record ∈ records, ¬ r₁.session.Opens record := by
        intro other hother hopens
        exact hrefused other (List.mem_cons_of_mem _ hother)
          (hopens.congr hpassed.session.keyMaterial)
      refine wp_mono (ih hphase₁ hrefused₁) ?_ ?_
      · intro _ r₂ hrest
        refine ⟨?_, hpassed.trans hrest.2⟩
        intro other hother
        rcases List.mem_cons.mp hother with rfl | hother
        · exact hfine
        · exact hrest.1 other hother
      · intro _ _ hbad
        obtain ⟨bad, hmem, hbad⟩ := hbad
        exact ⟨bad, List.mem_cons_of_mem _ hmem, hbad⟩
    · intro _ _ hbad
      exact ⟨record, List.mem_cons_self, hbad⟩

/-- What a tolerated payload leaves behind: the same session up to counters, and at most the
    repeated Finished. -/
structure Tolerated (r : Receiving C handler) (events : List JoinerSessionEvent)
    (r' : Receiving C handler) : Prop where
  session : r.session.Unaffected r'.session
  number : r'.session.epoch1Sequence = r.session.epoch1Sequence ∨
    r.session.epoch1Sequence.toNat < 2 ^ 48 ∧
      r'.session.epoch1Sequence = r.session.epoch1Sequence + 1
  handlerState : r'.handlerState = r.handlerState
  rng : r'.rng = r.rng
  emitted : events = [] ∨
    ∃ datagram, events = [.transmit datagram false] ∧ r.session.FinishedFlight datagram

theorem repeatServerFinished_unauthenticated (hC : C.AeadInverts) (records : List DtlsRecord)
    {r : Receiving C handler} (hphase : r.session.phase.established = true)
    (hkeys : r.session.KeysSized) (hnone : r.events = []) : wp (repeatServerFinished records)
      (fun _ r' => (r.session.Repeats records → r.session.FinishedFits) ∧ Tolerated r r'.events r')
      (fun _ _ => r.session.Repeats records ∧ ¬ r.session.FinishedFits) r := by
  simp only [repeatServerFinished, wp_bind, wp_get]
  by_cases hrepeats : r.session.Repeats records
  · rw [if_pos ⟨hphase, hrepeats⟩]
    simp only [push, onSession, wp_bind, wp_modify, wp_zoom]
    -- the flight is built on the session whose count of repetitions is one higher
    refine wp_mono (JoinerSession.buildServerFinishedFlight_iff hC (s := { r.session with
        serverFinishedRetransmissions := r.session.serverFinishedRetransmissions + 1 }) hkeys) ?_ ?_
    · intro datagram s' hbuilt
      obtain ⟨hfits, hflight, hsame, hnumber⟩ := hbuilt
      refine ⟨fun _ => hfits, ?_⟩
      exact { session := by rw [hsame]; rfl
              number := Or.inr ⟨hfits.2.2, hnumber⟩
              handlerState := rfl
              rng := rfl
              emitted := Or.inr ⟨datagram, by rw [hnone]; rfl, hflight⟩ }
    · intro _ _ hmisfits
      exact ⟨hrepeats, hmisfits⟩
  · rw [if_neg fun h => hrepeats h.2]
    refine ⟨fun h => absurd h hrepeats, ?_⟩
    exact { session := rfl, number := Or.inl rfl, handlerState := rfl, rng := rfl
            emitted := Or.inl hnone }

/-- **An unauthenticated payload** on an established session is tolerated if it is harmless,
    and ends the session if it is not. -/
theorem receive_unauthenticated (hC : C.AeadInverts) {payload : Bytes} {r : Receiving C handler}
    (hphase : r.session.phase.established = true) (hkeys : r.session.KeysSized)
    (hunauthenticated : r.session.Unauthenticated payload) :
    wp (receive payload) (fun events r' => r.session.Harmless payload ∧ Tolerated r events r')
      (fun _ _ => ¬ r.session.Harmless payload) r := by
  unfold receive
  simp only [wp_bind, wp_modify]
  cases hparse : DtlsRecord.parseDatagram payload with
  | error e =>
    refine ⟨fun records hrecords => ?_, ?_⟩
    · rw [hparse] at hrecords
      cases hrecords
    · exact { session := rfl, number := Or.inl rfl, handlerState := rfl, rng := rfl
              emitted := Or.inl rfl }
  | ok records =>
    have hrefused := hunauthenticated records hparse
    simp only [wp_bind, wp_get]
    refine wp_mono (repeatServerFinished_unauthenticated hC records (r := { r with events := [] })
      hphase hkeys rfl) ?_ ?_
    · intro _ r₁ hfirst
      obtain ⟨hfits, hfirst⟩ := hfirst
      have hphase₁ : r₁.session.phase.established = true := by
        rw [hfirst.session.phase]
        exact hphase
      have hrefused₁ : ∀ record ∈ records, ¬ r₁.session.Opens record := by
        intro record hrecord hopens
        exact hrefused record hrecord (hopens.congr hfirst.session.keyMaterial)
      rw [hphase]
      refine wp_mono (receiveRecords_unauthenticated records hphase₁ hrefused₁) ?_ ?_
      · intro _ r₂ hrest
        obtain ⟨hfine, hpassed⟩ := hrest
        refine ⟨fun records' hrecords' => ?_, ?_⟩
        · rw [hparse] at hrecords'
          cases hrecords'
          exact ⟨hfine, hfits⟩
        · exact { session := hfirst.session.trans hpassed.session
                  number := by rw [hpassed.number]; exact hfirst.number
                  handlerState := hpassed.handlerState.trans hfirst.handlerState
                  rng := hpassed.rng.trans hfirst.rng
                  emitted := by rw [hpassed.events]; exact hfirst.emitted }
      · intro _ _ hbad hharmless
        obtain ⟨record, hmem, hbad⟩ := hbad
        exact (hharmless records hparse).1 record hmem hbad
    · intro _ _ hmisfits hharmless
      exact hmisfits.2 ((hharmless records hparse).2 hmisfits.1)

end Receiving

/-! ## §5. The answer to a JOIN_FIN.req. -/

namespace JoinerSession

variable {C : Crypto}

/-- The payload is one new record of the joiner that carries a well-formed JOIN_FIN.req. -/
structure GenuineJoinFin (s : JoinerSession C) (payload : Bytes) (entry : Protected)
    (request : CoapMessage) (info : JoinerFinalizeInfo) : Prop where
  datagram : DtlsRecord.parseDatagram payload = .ok [entry.record]
  fresh : s.replayWindow.hasSeen entry.record.header.sequenceNumber = false
  opens : ∃ keyMaterial, s.keyMaterial = some keyMaterial ∧ OpensUnder C keyMaterial entry
  carries : CarriesJoinFin entry request info

/-- The session after it has answered the record with the given number. -/
def Answered (s : JoinerSession C) (sequenceNumber : UInt64) (accepted : Bool)
    (s' : JoinerSession C) : Prop :=
  s' = { s with replayWindow := s.replayWindow.markSeen sequenceNumber
                serverFinished := []
                finalizeDecision := some accepted
                epoch1Sequence := s.epoch1Sequence + 1
                phase := .finalized
                trace := s'.trace }

/-- A JOIN_FIN.rsp is short. -/
theorem encode_joinFinResponse {request : CoapMessage} (htoken : request.token.length ≤ 8)
    (accepted : Bool) :
    ∃ plaintext, (Receiving.joinFinResponse request accepted).encode = .ok plaintext ∧
      plaintext.length ≤ 16 := by
  have hsame : (Receiving.joinFinResponse request accepted).token.length ≤ 8 := htoken
  have hoptions : CoapMessage.encodeOptions 0
      (Receiving.joinFinResponse request accepted).sortedOptions = .ok [] := rfl
  exact CoapMessage.encode_ok hsame hoptions

/-- What carries over from one session to an unaffected one. -/
theorem GenuineJoinFin.congr {s s' : JoinerSession C} {payload : Bytes} {entry : Protected}
    {request : CoapMessage} {info : JoinerFinalizeInfo}
    (h : s.GenuineJoinFin payload entry request info) (hsame : Unaffected s s') :
    s'.GenuineJoinFin payload entry request info := by
  rw [hsame]
  exact { datagram := h.datagram, fresh := h.fresh, opens := h.opens, carries := h.carries }

/-- Sessions that agree answer alike. -/
theorem Answered.congr {s s' t t' : JoinerSession C} {sequenceNumber : UInt64} {accepted : Bool}
    (hs : s.Answered sequenceNumber accepted s') (ht : t.Answered sequenceNumber accepted t')
    (hsame : Unaffected s t) : Unaffected s' t' := by
  unfold Answered at hs ht
  unfold Unaffected at *
  rw [ht, hs, hsame]

end JoinerSession

namespace Receiving

variable {C : Crypto} {handler : JoinerHandler}

/-- What answering a JOIN_FIN.req does. -/
structure Answers (request : CoapMessage) (info : JoinerFinalizeInfo) (sequenceNumber : UInt64)
    (r : Receiving C handler) (events : List JoinerSessionEvent) (r' : Receiving C handler) :
    Prop where
  session : r.session.Answered sequenceNumber (r.decision info).1 r'.session
  handlerState : r'.handlerState = (r.decision info).2
  rng : r'.rng = r.rng
  emitted : ∃ datagram, events = answerEvents r.session.phase (r.decision info).1 info datagram ∧
    r.session.SealedResponse r.session.epoch1Sequence request (r.decision info).1 datagram

/-- A record with this number was opened: it is marked as seen, and the Finished is dropped. -/
structure Opened (sequenceNumber : UInt64) (r r' : Receiving C handler) : Prop where
  session : r'.session = { r.session with
    replayWindow := r.session.replayWindow.markSeen sequenceNumber
    serverFinished := [], trace := r'.session.trace }
  handlerState : r'.handlerState = r.handlerState
  rng : r'.rng = r.rng
  events : r'.events = []

theorem Opened.decision {sequenceNumber : UInt64} {r r' : Receiving C handler}
    (h : Opened sequenceNumber r r') (info : JoinerFinalizeInfo) :
    r'.decision info = r.decision info := by
  unfold Receiving.decision
  rw [h.session, h.handlerState]

/-- The answer, once the request was read from a record that opened. -/
theorem answerJoinFin_answers (hC : C.AeadInverts) {request : CoapMessage}
    {info : JoinerFinalizeInfo} {sequenceNumber : UInt64} {r₀ r : Receiving C handler}
    (htoken : request.token.length ≤ 8) (hkeys : r₀.session.KeysSized)
    (hsome : r₀.session.keyMaterial.isSome = true)
    (hnumber : r₀.session.epoch1Sequence.toNat < 2 ^ 48) (hopened : Opened sequenceNumber r₀ r) :
    wp (answerJoinFin request info)
      (fun _ r' => Answers request info sequenceNumber r₀ r'.events r') (fun _ _ => False) r := by
  obtain ⟨keyMaterial, hkeyMaterial⟩ := Option.isSome_iff_exists.mp hsome
  have hsized := hkeys keyMaterial hkeyMaterial
  obtain ⟨plaintext, hplaintext, hlength⟩ :=
    JoinerSession.encode_joinFinResponse htoken (r₀.decision info).1
  obtain ⟨record, hrecord⟩ : ∃ record, Dtls.protectAes128Ccm8Record C .applicationData 1
      r₀.session.epoch1Sequence keyMaterial.keyBlock.serverWriteKey
      keyMaterial.keyBlock.serverWriteIv plaintext = .ok record :=
    (Dtls.protect_isOk_iff hC hsized.serverWriteKey hsized.serverWriteIv).mpr ⟨by omega, hnumber⟩
  have hresponse : ∃ datagram, r₀.session.SealedResponse r₀.session.epoch1Sequence request
      (r₀.decision info).1 datagram :=
    ⟨_, keyMaterial, plaintext, record, hkeyMaterial, hplaintext, hrecord,
      Dtls.DtlsRecord.encode_of_sized (Dtls.protect_eq_ok hrecord).2.2.2.2⟩
  have hdecision := hopened.decision info
  refine wp_mono (answerJoinFin_spec request info r) ?_ ?_
  · rintro _ _ ⟨keyMaterial', response, datagram, hkeys', hencodes, hseals, hdatagram, rfl⟩
    rw [hopened.session] at hkeys' hseals
    rw [hdecision] at hencodes
    have hsealed := hseals.sealed
    rw [hseals.key, hseals.fixedIv] at hsealed
    refine { session := ?_, handlerState := congrArg Prod.snd hdecision, rng := hopened.rng
             emitted := ⟨datagram, ?_, keyMaterial', _, _, hkeys', hencodes, hsealed, hdatagram⟩ }
    · rw [← hdecision]
      simp only [JoinerSession.Answered, responded, decided]
      rw [hopened.session]
    · show r.events ++ _ = _
      rw [hopened.events, hdecision, hopened.session]
      rfl
  · rintro _ _ ⟨-, hnone⟩
    rw [hdecision, hopened.session] at hnone
    obtain ⟨datagram, hdatagram⟩ := hresponse
    exact hnone datagram hdatagram

/-- **A JOIN_FIN.req is answered** with the decision, under the next number. -/
theorem receive_joinFin (hC : C.AeadInverts) {payload : Bytes} {entry : Protected}
    {request : CoapMessage} {info : JoinerFinalizeInfo} {r : Receiving C handler}
    (hphase : r.session.phase.established = true) (hkeys : r.session.KeysSized)
    (hnumber : r.session.epoch1Sequence.toNat < 2 ^ 48)
    (hjoinFin : r.session.GenuineJoinFin payload entry request info) : wp (receive payload)
      (fun events r' => Answers request info entry.record.header.sequenceNumber r events r')
      (fun _ _ => False) r := by
  obtain ⟨keyMaterial, hkeyMaterial, hopens⟩ := hjoinFin.opens
  have htype := hjoinFin.carries.contentType
  have hrequired : r.session.keyMaterialRequired = .ok keyMaterial := by
    unfold JoinerSession.keyMaterialRequired
    rw [hkeyMaterial]
  have hopen := hopens.opens
  rw [hopens.key, hopens.fixedIv] at hopen
  have hquiet : Dtls.isClientFinishedFlight [entry.record] = false := by
    unfold Dtls.isClientFinishedFlight
    rw [List.any_cons, List.any_nil, htype]
    rfl
  unfold receive
  simp only [wp_bind, wp_modify, hjoinFin.datagram, wp_get]
  -- application data asks for no repetition of the Finished
  simp only [repeatServerFinished, wp_bind, wp_get]
  rw [if_neg fun h => by rw [hquiet] at h; cases h.2.2.1]
  simp only [receiveRecords, receiveRecord, wp_bind, wp_pure]
  rw [if_neg (by rw [hopens.epoch]; decide), if_pos hopens.epoch, htype]
  simp only [handleApplicationData, wp_bind, wp_get]
  rw [if_neg (by rw [hphase]; intro h; cases h)]
  simp only [onSession, JoinerSession.openRecord, wp_bind, wp_caught, wp_zoom, wp_get]
  rw [if_neg (by rw [hjoinFin.fresh]; intro h; cases h)]
  simp only [wp_bind, wp_modify, wp_pure]
  refine wp_attempt_of_ok hrequired (wp_attempt_of_ok hopen ?_)
  refine wp_attempt_of_ok hjoinFin.carries.decodes (wp_attempt_of_ok hjoinFin.carries.path ?_)
  rw [if_neg (not_not_intro rfl)]
  simp only [wp_bind]
  refine wp_attempt_of_ok hjoinFin.carries.parses ?_
  exact answerJoinFin_answers hC (CoapMessage.decode_token hjoinFin.carries.decodes) hkeys
    (by rw [hkeyMaterial]; rfl) hnumber
    { session := rfl, handlerState := rfl, rng := rfl, events := rfl }

/-! ## §6. What is tolerated. -/

/-- Every genuine JOIN_FIN.req is answered alike from `r` and from `t`: the same decision and
    the same events, the response sealed under the number that is next on each side, and the
    same session and application afterwards. -/
def AnswersAlike (r t : Receiving C handler) : Prop :=
  ∀ payload entry request info, r.session.GenuineJoinFin payload entry request info →
    ∃ accepted datagram datagram' r' t',
      receive payload r = .ok (answerEvents r.session.phase accepted info datagram) r' ∧
      receive payload t = .ok (answerEvents r.session.phase accepted info datagram') t' ∧
      r.session.SealedResponse r.session.epoch1Sequence request accepted datagram ∧
      r.session.SealedResponse t.session.epoch1Sequence request accepted datagram' ∧
      t'.handlerState = r'.handlerState ∧ r'.session.Unaffected t'.session

/-- The payload is tolerated: `receive` returns, nothing but counters has changed, at most the
    Finished was repeated, and while numbers are left a JOIN_FIN.req is answered as before. -/
def Tolerates (payload : Bytes) (r : Receiving C handler) : Prop :=
  ∃ events r', receive payload r = .ok events r' ∧ Tolerated r events r' ∧
    (r.session.epoch1Sequence.toNat + 1 < 2 ^ 48 → AnswersAlike r r')

theorem answersAlike_of_tolerated (hC : C.AeadInverts) {r t : Receiving C handler}
    {events : List JoinerSessionEvent} (hphase : r.session.phase.established = true)
    (hkeys : r.session.KeysSized) (hnumber : r.session.epoch1Sequence.toNat + 1 < 2 ^ 48)
    (h : Tolerated r events t) : AnswersAlike r t := by
  intro payload entry request info hjoinFin
  have hphase' : t.session.phase.established = true := by rw [h.session.phase, hphase]
  have hkeys' : t.session.KeysSized := by
    intro keyMaterial hkeyMaterial
    rw [h.session.keyMaterial] at hkeyMaterial
    exact hkeys keyMaterial hkeyMaterial
  have hnumber' : t.session.epoch1Sequence.toNat < 2 ^ 48 := by
    rcases h.number with hsame | ⟨-, hnext⟩
    · rw [hsame]
      omega
    · have hone : (1 : UInt64).toNat = 1 := rfl
      rw [hnext, UInt64.toNat_add]
      omega
  have hdecision : t.decision info = r.decision info := by
    unfold decision
    rw [h.session, h.handlerState]
  obtain ⟨events, r', hreturned, hr⟩ :=
    exists_ok_of_wp (receive_joinFin hC hphase hkeys (by omega) hjoinFin)
  obtain ⟨events', t', hreturned', ht⟩ :=
    exists_ok_of_wp (receive_joinFin hC hphase' hkeys' hnumber' (hjoinFin.congr h.session))
  obtain ⟨datagram, hevents, hsealed⟩ := hr.emitted
  obtain ⟨datagram', hevents', hsealed'⟩ := ht.emitted
  rw [hevents] at hreturned
  rw [hevents', hdecision, h.session.phase] at hreturned'
  have hanswered' := ht.session
  rw [hdecision] at hsealed' hanswered'
  have hsealed' : r.session.SealedResponse t.session.epoch1Sequence request (r.decision info).1
      datagram' := by
    unfold JoinerSession.SealedResponse at hsealed' ⊢
    rw [h.session.keyMaterial] at hsealed'
    exact hsealed'
  refine ⟨_, datagram, datagram', r', t', hreturned, hreturned', hsealed, hsealed', ?_, ?_⟩
  · rw [ht.handlerState, hr.handlerState, hdecision]
  · exact hr.session.congr hanswered' h.session

/-- **An unauthenticated payload is tolerated exactly if it is harmless.** -/
theorem tolerates_iff (hC : C.AeadInverts) {payload : Bytes} {r : Receiving C handler}
    (hphase : r.session.phase.established = true) (hkeys : r.session.KeysSized)
    (hunauthenticated : r.session.Unauthenticated payload) :
    Tolerates payload r ↔ r.session.Harmless payload := by
  have hreceive := receive_unauthenticated hC hphase hkeys hunauthenticated
  constructor
  · intro h
    obtain ⟨events, r', hreturned, -⟩ := h
    exact (of_wp_ok hreceive hreturned).1
  · intro hharmless
    have hreturns : wp (receive payload) (fun events r' => Tolerated r events r')
        (fun _ _ => False) r :=
      wp_mono hreceive (fun _ _ h => h.2) (fun _ _ h => h hharmless)
    obtain ⟨events, r', hreturned, htolerated⟩ := exists_ok_of_wp hreturns
    exact ⟨events, r', hreturned, htolerated, fun hnumber =>
      answersAlike_of_tolerated hC hphase hkeys hnumber htolerated⟩

end Receiving

end Meshcop
