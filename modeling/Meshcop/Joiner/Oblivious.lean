/-
  Meshcop.Joiner.Oblivious — a session and the memory of the application.

  `receive` is handed the application's handler, whose state is shared by all joiners: what
  the handler has seen of one joiner could come back in its answer about another.  If its
  answers depend on the question only, nothing of that state reaches the session.  The proof
  runs every method twice, from two states that differ in the handler's state only; the same
  induction shows that the session stays the session of its joiner.

  Main result:
    * `Receiving.receive_coupled`.
-/

import Meshcop.Lib.Coupling
import Meshcop.Joiner.Session

namespace Meshcop

open Lib
open Dtls (ContentType DtlsRecord HandshakeMessage ThreadDtlsKeyMaterial
  ThreadDtlsServerHandshake Crypto parseUnfragmentedHandshakeMessages)

/-! ## §1. Answers that depend on the question only. -/

/-- The handler answers by the joiner's ID and the content of its JOIN_FIN.req, whatever it
    remembers. -/
structure JoinerHandler.Oblivious (handler : JoinerHandler) : Prop where
  pskd : ∀ (joinerId : JoinerId) (s s' : handler.State),
    (handler.joinerPskd joinerId s).1 = (handler.joinerPskd joinerId s').1
  finalize : ∀ (joinerId : JoinerId) (info : JoinerFinalizeInfo) (s s' : handler.State),
    (handler.onJoinerFinalize joinerId info s).1 = (handler.onJoinerFinalize joinerId info s').1

/-! ## §2. A session keeps its joiner. -/

namespace JoinerSession

variable {C : Crypto}

/-- Where the session's replies go: the joiner, its port and its joiner router. -/
def target (session : JoinerSession C) : FixedBytes 8 × UInt16 × UInt16 :=
  (session.joinerIid, session.joinerUdpPort, session.joinerRouterLocator)

variable {address : FixedBytes 8 × UInt16 × UInt16}

theorem onHandshake_target {α : Type} (m : ThreadDtlsServerHandshake.Method C α) :
    Keeps (fun session : JoinerSession C => session.target = address) (onHandshake m) :=
  keeps_zoom fun _ _ h => h

theorem openRecord_target (record : DtlsRecord) :
    Keeps (fun session : JoinerSession C => session.target = address) (openRecord record) := by
  refine keeps_bind keeps_get fun session => ?_
  by_cases hseen : session.replayWindow.hasSeen record.header.sequenceNumber = true
  · rw [if_pos hseen]
    exact keeps_pure none
  rw [if_neg hseen]
  refine keeps_bind (keeps_attempt _ _) fun keyMaterial => ?_
  refine keeps_bind (keeps_attempt _ _) fun plaintext => ?_
  refine keeps_bind (keeps_modify fun _ h => h) fun _ => ?_
  exact keeps_bind (keeps_modify fun _ h => h) fun _ => keeps_pure _

theorem plaintextRecord_target (contentType : ContentType) (payload : Bytes) :
    Keeps (fun session : JoinerSession C => session.target = address)
      (plaintextRecord contentType payload) := by
  refine keeps_bind keeps_get fun session => keeps_bind (keeps_attempt _ _) fun record => ?_
  exact keeps_bind (keeps_modify fun _ h => h) fun _ => keeps_pure _

theorem sealRecord_target (contentType : ContentType) (keyMaterial : ThreadDtlsKeyMaterial)
    (plaintext : Bytes) : Keeps (fun session : JoinerSession C => session.target = address)
      (sealRecord contentType keyMaterial plaintext) := by
  refine keeps_bind keeps_get fun session => keeps_bind (keeps_attempt _ _) fun record => ?_
  refine keeps_bind (keeps_modify fun _ h => h) fun _ => ?_
  exact keeps_bind (keeps_modify fun _ h => h) fun _ => keeps_pure _

theorem buildServerFinishedFlight_target :
    Keeps (fun session : JoinerSession C => session.target = address)
      buildServerFinishedFlight := by
  refine keeps_bind keeps_get fun session => keeps_bind (keeps_attempt _ _) fun keyMaterial => ?_
  refine keeps_bind (plaintextRecord_target _ _) fun changeCipherSpec => ?_
  refine keeps_bind keeps_get fun session => ?_
  refine keeps_bind (sealRecord_target _ _ _) fun finished => ?_
  exact keeps_attempt _ _

end JoinerSession

/-! ## §3. Two calls that differ in the handler's state. -/

namespace Receiving

variable {C : Crypto} {handler : JoinerHandler}

/-- The two states of `receive` differ in the handler's state only, and the session is the
    one of the given joiner. -/
def Twins (address : FixedBytes 8 × UInt16 × UInt16) (r r' : Receiving C handler) : Prop :=
  r.session.target = address ∧ ∃ state, r' = { r with handlerState := state }

/-- The handler's state does not reach the method. -/
abbrev Blind {α : Type} (address : FixedBytes 8 × UInt16 × UInt16) (m : ReceiveM C handler α) :
    Prop :=
  Coupled (Twins address) Eq m m

variable {address : FixedBytes 8 × UInt16 × UInt16}

theorem onSession_coupled {α : Type} {m : JoinerSession.Method C α}
    (hm : Keeps (fun session : JoinerSession C => session.target = address) m) :
    Blind address (onSession m : ReceiveM C handler α) := by
  refine coupled_zoom hm ?_ ?_
  · rintro r _ ⟨htarget, state, rfl⟩
    exact ⟨rfl, htarget⟩
  · rintro r _ session ⟨-, state, rfl⟩ htarget
    exact ⟨htarget, state, rfl⟩

theorem onHandshake_coupled {α : Type} (m : ThreadDtlsServerHandshake.Method C α) :
    Blind address (onSession (JoinerSession.onHandshake m) : ReceiveM C handler α) :=
  onSession_coupled (JoinerSession.onHandshake_target m)

/-- A change of the session that does not move it to another joiner. -/
theorem session_coupled {f : Receiving C handler → Receiving C handler}
    (hf : ∀ r state, f { r with handlerState := state } = { f r with handlerState := state })
    (htarget : ∀ r, (f r).session.target = r.session.target) :
    Blind address (modify f : ReceiveM C handler PUnit) := by
  refine coupled_modify ?_
  rintro r _ ⟨h, state, rfl⟩
  exact ⟨(htarget r).trans h, state, hf r state⟩

/-- The rest of a computation that reads its state sees the two handler states only. -/
theorem read_coupled {α : Type} {f : Receiving C handler → ReceiveM C handler α}
    (h : ∀ r state, Coupled (Twins address) Eq (f r) (f { r with handlerState := state })) :
    Coupled (Twins address) Eq (get >>= f) (get >>= f) := by
  refine coupled_bind coupled_get fun r r' htwins => ?_
  obtain ⟨-, state, rfl⟩ := htwins
  exact h r state

theorem changed_coupled {α : Type} {f : Receiving C handler → Receiving C handler}
    {m : ReceiveM C handler α}
    (hf : ∀ r state, f { r with handlerState := state } = { f r with handlerState := state })
    (htarget : ∀ r, (f r).session.target = r.session.target) (hm : Blind address m) :
    Blind address (modify f >>= fun _ => m) :=
  coupled_seq (session_coupled hf htarget) fun _ => hm

theorem push_coupled (event : JoinerSessionEvent) :
    Blind address (push event : ReceiveM C handler Unit) :=
  session_coupled (fun _ _ => rfl) (fun _ => rfl)

theorem sendHelloVerify_coupled (message : HandshakeMessage) (recordSequence : UInt64)
    (hello : Dtls.ClientHello) :
    Blind address (sendHelloVerify message recordSequence hello : ReceiveM C handler Unit) := by
  refine read_coupled fun r state => ?_
  refine coupled_attempt_seq fun cookie => ?_
  refine coupled_attempt_seq fun payload => ?_
  refine coupled_attempt_seq fun body => ?_
  refine coupled_attempt_seq fun record => ?_
  refine coupled_attempt_seq fun datagram => ?_
  exact push_coupled _

/-- The server's key exchange draws from the random source, which the two calls share. -/
theorem buildServerKeyExchange_coupled (sequence : UInt16) :
    Blind address (zoom (fun r => (r.session.handshake, r.rng))
        (fun r s => { r with session := { r.session with handshake := s.1 }, rng := s.2 })
        Error.dtls (ThreadDtlsServerHandshake.buildServerKeyExchange sequence)
        : ReceiveM C handler HandshakeMessage) := by
  have htrivial : Keeps (fun _ => True)
      (ThreadDtlsServerHandshake.buildServerKeyExchange (C := C) sequence) := by
    intro s _
    unfold wp
    split <;> trivial
  refine coupled_zoom htrivial ?_ ?_
  · rintro r _ ⟨-, state, rfl⟩
    exact ⟨rfl, trivial⟩
  · rintro r _ s ⟨htarget, state, rfl⟩ -
    exact ⟨htarget, state, rfl⟩

theorem acceptClientHello_coupled (message : HandshakeMessage) (recordSequence : UInt64) :
    Blind address (acceptClientHello message recordSequence : ReceiveM C handler Unit) := by
  refine coupled_seq (onHandshake_coupled _) fun _ => ?_
  refine changed_coupled (fun _ _ => rfl) (fun _ => rfl) ?_
  refine coupled_seq (onHandshake_coupled _) fun serverHello => ?_
  refine coupled_seq (buildServerKeyExchange_coupled _) fun keyExchange => ?_
  refine coupled_seq (onHandshake_coupled _) fun helloDone => ?_
  -- the three records of the flight
  refine coupled_attempt_seq fun body => ?_
  refine coupled_seq (onSession_coupled (JoinerSession.plaintextRecord_target _ _)) fun first => ?_
  refine coupled_attempt_seq fun body => ?_
  refine coupled_seq (onSession_coupled (JoinerSession.plaintextRecord_target _ _)) fun second => ?_
  refine coupled_attempt_seq fun body => ?_
  refine coupled_seq (onSession_coupled (JoinerSession.plaintextRecord_target _ _)) fun third => ?_
  refine changed_coupled (fun _ _ => rfl) (fun _ => rfl) ?_
  refine coupled_attempt_seq fun datagram => ?_
  exact changed_coupled (fun _ _ => rfl) (fun _ => rfl) (push_coupled _)

theorem repeatServerFlight_coupled (message : HandshakeMessage) :
    Blind address (repeatServerFlight message : ReceiveM C handler Unit) := by
  refine read_coupled fun r state => ?_
  refine coupled_ite ?_ (coupled_pure rfl)
  refine changed_coupled (fun _ _ => rfl) (fun _ => rfl) ?_
  exact coupled_attempt_seq fun datagram => push_coupled _

theorem acceptClientKeyExchange_coupled (message : HandshakeMessage) :
    Blind address (acceptClientKeyExchange message : ReceiveM C handler Unit) := by
  refine read_coupled fun r state => ?_
  refine coupled_ite (coupled_pure rfl) ?_
  refine coupled_seq (onHandshake_coupled _) fun _ => read_coupled fun r state => ?_
  refine coupled_attempt_seq fun keyMaterial => ?_
  exact session_coupled (fun _ _ => rfl) (fun _ => rfl)

theorem handlePlaintextHandshake_coupled (message : HandshakeMessage) (recordSequence : UInt64) :
    Blind address (handlePlaintextHandshake message recordSequence : ReceiveM C handler Unit) := by
  refine read_coupled fun r state => ?_
  dsimp only
  split
  · refine coupled_attempt_seq fun hello => ?_
    exact coupled_ite (acceptClientHello_coupled message recordSequence)
      (sendHelloVerify_coupled message recordSequence hello)
  · exact repeatServerFlight_coupled message
  · exact acceptClientKeyExchange_coupled message
  · exact coupled_throw _

theorem plaintextMessages_coupled (recordSequence : UInt64) (messages : List HandshakeMessage) :
    Blind address (plaintextMessages recordSequence messages : ReceiveM C handler Unit) := by
  induction messages with
  | nil => exact coupled_pure rfl
  | cons message messages ih =>
    exact coupled_seq (handlePlaintextHandshake_coupled message recordSequence) fun _ => ih

theorem answerClientFinished_coupled (hello : HandshakeMessage)
    (keyMaterial : ThreadDtlsKeyMaterial) :
    Blind address (answerClientFinished hello keyMaterial : ReceiveM C handler Unit) := by
  refine coupled_seq (onHandshake_coupled _) fun serverFinished => ?_
  refine coupled_attempt_seq fun body => ?_
  refine changed_coupled (fun _ _ => rfl) (fun _ => rfl) ?_
  refine coupled_seq (onSession_coupled JoinerSession.buildServerFinishedFlight_target) fun _ => ?_
  refine changed_coupled (fun _ _ => rfl) (fun _ => rfl) ?_
  exact coupled_seq (push_coupled _) fun _ => push_coupled _

theorem acceptClientFinished_coupled (message : HandshakeMessage) :
    Blind address (acceptClientFinished message : ReceiveM C handler Unit) := by
  refine read_coupled fun r state => ?_
  refine coupled_attempt_seq fun keyMaterial => ?_
  refine coupled_seq (onHandshake_coupled _) fun _ => ?_
  refine changed_coupled (fun _ _ => rfl) (fun _ => rfl) ?_
  refine read_coupled fun r state => ?_
  dsimp only
  cases r.session.acceptedClientHello with
  | none => exact coupled_throw _
  | some hello => exact answerClientFinished_coupled hello keyMaterial

theorem finishedMessages_coupled (messages : List HandshakeMessage) :
    Blind address (finishedMessages messages : ReceiveM C handler Unit) := by
  induction messages with
  | nil => exact coupled_pure rfl
  | cons message messages ih =>
    exact coupled_ite ih (coupled_seq (acceptClientFinished_coupled message) fun _ => ih)

theorem handleEncryptedHandshake_coupled (record : DtlsRecord) :
    Blind address (handleEncryptedHandshake record : ReceiveM C handler Unit) := by
  refine read_coupled fun r state => ?_
  refine coupled_ite (coupled_pure rfl) ?_
  refine coupled_seq (onSession_coupled (JoinerSession.openRecord_target record)) fun opened => ?_
  cases opened with
  | none => exact coupled_pure rfl
  | some plaintext =>
    refine coupled_attempt_seq fun plainRecord => ?_
    exact coupled_attempt_seq fun messages => finishedMessages_coupled messages

/-- The one place where the application is asked: its answer is the same in both calls. -/
theorem decideFinalize_coupled (hhandler : handler.Oblivious) (info : JoinerFinalizeInfo) :
    Blind address (decideFinalize info : ReceiveM C handler Bool) := by
  refine read_coupled fun r state => ?_
  dsimp only
  cases r.session.finalizeDecision with
  | some accepted => exact coupled_pure rfl
  | none =>
    have hsame := hhandler.finalize r.session.joinerId info r.handlerState state
    dsimp only
    rw [← hsame]
    refine coupled_seq (coupled_modify ?_) fun _ => coupled_pure rfl
    rintro r' _ ⟨htarget, state', rfl⟩
    exact ⟨htarget, _, rfl⟩

theorem answerJoinFin_coupled (hhandler : handler.Oblivious) (request : CoapMessage)
    (info : JoinerFinalizeInfo) :
    Blind address (answerJoinFin request info : ReceiveM C handler Unit) := by
  refine coupled_seq (decideFinalize_coupled hhandler info) fun accepted => ?_
  refine read_coupled fun r state => ?_
  refine coupled_attempt_seq fun keyMaterial => ?_
  refine coupled_attempt_seq fun plaintext => ?_
  refine coupled_seq (onSession_coupled (JoinerSession.sealRecord_target _ _ _)) fun record => ?_
  refine changed_coupled (fun _ _ => rfl) (fun _ => rfl) ?_
  refine coupled_attempt_seq fun datagram => ?_
  exact coupled_seq (push_coupled _) fun _ => coupled_onlyIf _ (push_coupled _)

theorem handleApplicationData_coupled (hhandler : handler.Oblivious) (record : DtlsRecord) :
    Blind address (handleApplicationData record : ReceiveM C handler Unit) := by
  refine read_coupled fun r state => ?_
  refine coupled_ite (coupled_pure rfl) ?_
  refine coupled_seq
    (coupled_caught (onSession_coupled (JoinerSession.openRecord_target record))) fun opened => ?_
  cases opened with
  | error e => exact coupled_pure rfl
  | ok opened =>
    cases opened with
    | none => exact coupled_pure rfl
    | some plaintext =>
      refine changed_coupled (fun _ _ => rfl) (fun _ => rfl) ?_
      refine coupled_attempt_seq fun request => ?_
      refine coupled_attempt_seq fun path => coupled_ite (coupled_pure rfl) ?_
      exact coupled_attempt_seq fun info => answerJoinFin_coupled hhandler request info

theorem receiveRecord_coupled (hhandler : handler.Oblivious) (wasEstablished : Bool)
    (record : DtlsRecord) :
    Blind address (receiveRecord wasEstablished record : ReceiveM C handler Unit) := by
  refine coupled_ite ?_ (coupled_ite ?_ (coupled_pure rfl))
  · cases record.header.contentType with
    | handshake =>
      cases wasEstablished with
      | true => exact coupled_pure rfl
      | false =>
        dsimp only
        rw [if_neg Bool.false_ne_true]
        cases parseUnfragmentedHandshakeMessages record with
        | error e => exact coupled_pure rfl
        | ok messages => exact plaintextMessages_coupled _ messages
    | changeCipherSpec =>
      exact coupled_ite (coupled_throw _) (session_coupled (fun _ _ => rfl) (fun _ => rfl))
    | alert =>
      exact read_coupled fun r state => coupled_ite (coupled_pure rfl) (coupled_throw _)
    | applicationData => exact coupled_pure rfl
  · cases record.header.contentType with
    | handshake => exact handleEncryptedHandshake_coupled record
    | applicationData => exact handleApplicationData_coupled hhandler record
    | alert =>
      refine coupled_seq (coupled_caught
        (onSession_coupled (JoinerSession.openRecord_target record))) fun opened => ?_
      cases opened with
      | error e => exact coupled_pure rfl
      | ok opened =>
        cases opened with
        | none => exact coupled_pure rfl
        | some plaintext => exact coupled_throw _
    | changeCipherSpec => exact coupled_pure rfl

theorem receiveRecords_coupled (hhandler : handler.Oblivious) (wasEstablished : Bool)
    (records : List DtlsRecord) :
    Blind address (receiveRecords wasEstablished records : ReceiveM C handler Unit) := by
  induction records with
  | nil => exact coupled_pure rfl
  | cons record records ih =>
    exact coupled_seq (receiveRecord_coupled hhandler wasEstablished record) fun _ => ih

theorem repeatServerFinished_coupled (records : List DtlsRecord) :
    Blind address (repeatServerFinished records : ReceiveM C handler Unit) := by
  refine read_coupled fun r state => ?_
  refine coupled_ite ?_ (coupled_pure rfl)
  refine changed_coupled (fun _ _ => rfl) (fun _ => rfl) ?_
  exact coupled_seq (onSession_coupled JoinerSession.buildServerFinishedFlight_target) fun _ =>
    push_coupled _

/-- **The application's memory does not reach a session.**  With a handler that answers by the
    question, two calls that start from the same session and the same random source end alike:
    the same events or the same error, the same session, the same random source; and the
    session is still the one of its joiner. -/
theorem receive_coupled (hhandler : handler.Oblivious) (encapsulated : Bytes) :
    Blind address (receive encapsulated : ReceiveM C handler (List JoinerSessionEvent)) := by
  refine changed_coupled (fun _ _ => rfl) (fun _ => rfl) ?_
  cases DtlsRecord.parseDatagram encapsulated with
  | error e => exact coupled_pure rfl
  | ok records =>
    refine read_coupled fun r state => ?_
    refine coupled_seq (repeatServerFinished_coupled records) fun _ => ?_
    refine coupled_seq (receiveRecords_coupled hhandler _ records) fun _ => ?_
    refine read_coupled fun r state => ?_
    exact coupled_pure rfl

end Receiving

end Meshcop
