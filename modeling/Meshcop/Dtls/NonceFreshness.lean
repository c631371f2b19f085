/-
  Meshcop.Dtls.NonceFreshness — no nonce is used twice by a client or server session.

  The counter under which a session seals its epoch-1 records is shared by the handshake
  flight, its timer- and duplicate-triggered rebuilds and the application data.  Every one of
  them goes through `protectRecord`, and every session starts from `duringHandshake`, so the
  numbering of `Session` carries over whole runs:

    * `Handshaking s` — nothing sealed yet, or the Finished first;
    * `Established s` — the Finished was sealed first.

  Both hold along every run of `connectInner` and `acceptInner` and under every later
  operation, whatever events arrive and whatever sends fail.
-/

import Meshcop.Dtls.Conversation

namespace Meshcop.Dtls

open Lib

/-! ## §1. The Finished comes first. -/

/-- The entry seals a Finished message. -/
def SealsFinished (entry : Protected) : Prop :=
  entry.record.header.contentType = .handshake ∧
    ∃ message : HandshakeMessage, message.messageType = .finished ∧
      message.encode = .ok entry.plaintext

/-- The first record the session sealed was a Finished. -/
def Begun (s : SessionState) : Prop :=
  ∃ first rest, s.released = first :: rest ∧ SealsFinished first

/-- A session whose Finished has been sealed. -/
def Established (s : SessionState) : Prop := s.Fresh ∧ Begun s

/-- A session that has sealed nothing, or its Finished first. -/
def Handshaking (s : SessionState) : Prop := s.Fresh ∧ (s.released = [] ∨ Begun s)

theorem Established.handshaking {s : SessionState} (h : Established s) : Handshaking s :=
  ⟨h.1, Or.inr h.2⟩

theorem handshaking_duringHandshake (keyMaterial : ThreadDtlsKeyMaterial) (role : SessionRole) :
    Handshaking (SessionState.duringHandshake keyMaterial role) :=
  ⟨SessionState.fresh_duringHandshake keyMaterial role, Or.inl rfl⟩

theorem SessionState.SameSealing.begun {s s' : SessionState} (h : s.SameSealing s')
    (hs : Begun s) : Begun s' := by
  unfold Begun
  rw [h.released]
  exact hs

theorem SessionState.SameSealing.established {s s' : SessionState} (h : s.SameSealing s')
    (hs : Established s) : Established s' :=
  ⟨h.fresh hs.1, h.begun hs.2⟩

variable {C : Crypto} {E : Type}

/-- Sealing anything once the Finished is out keeps the session established. -/
theorem protectRecord_established (contentType : ContentType) (plaintext : Bytes) :
    Keeps Established (SessionState.protectRecord C contentType plaintext) := by
  intro s hs
  obtain ⟨hfresh, first, rest, hreleased, hfirst⟩ := hs
  have hnum := SessionState.protectRecord_fresh (C := C) contentType plaintext hfresh
  have hspec := SessionState.protectRecord_spec (C := C) contentType plaintext s
  unfold wp at hnum hspec ⊢
  split at hspec
  · rename_i record s' hrun
    rw [hrun] at hnum
    obtain ⟨-, rfl⟩ := hspec
    exact ⟨hnum, first, rest ++ [_], by rw [hreleased]; rfl, hfirst⟩
  · rename_i e s' hrun
    obtain rfl := hspec
    exact ⟨hfresh, first, rest, hreleased, hfirst⟩

/-- Sealing the Finished establishes the session; a failure leaves it as it was. -/
theorem protectFinished_spec {message : HandshakeMessage} {body : Bytes}
    (hmessage : message.messageType = .finished) (hbody : message.encode = .ok body)
    {s : SessionState} (hs : Handshaking s) :
    wp (SessionState.protectRecord C .handshake body) (fun _ s' => Established s')
      (fun _ s' => Handshaking s') s := by
  obtain ⟨hfresh, hbegun⟩ := hs
  have hnum := SessionState.protectRecord_fresh (C := C) .handshake body hfresh
  have hspec := SessionState.protectRecord_spec (C := C) .handshake body s
  unfold wp at hnum hspec ⊢
  split at hspec
  · rename_i record s' hrun
    rw [hrun] at hnum
    obtain ⟨hrecord, rfl⟩ := hspec
    obtain ⟨-, htype, -⟩ := protect_eq_ok hrecord
    refine ⟨hnum, ?_⟩
    rcases hbegun with hnil | ⟨first, rest, hreleased, hfirst⟩
    · refine ⟨_, [], by rw [hnil]; rfl, htype, message, hmessage, hbody⟩
    · exact ⟨first, rest ++ [_], by rw [hreleased]; rfl, hfirst⟩
  · obtain rfl := hspec
    exact ⟨hfresh, hbegun⟩

/-! ## §2. The client's handshake. -/

section Client

def Unsealed (_ : ThreadDtlsHandshake C) (session : Option SessionState) : Prop := session = none

/-- Before the last wait no step of the client touches the session. -/
abbrev NoSession (client : ClientState C) : Prop := Unsealed client.handshake client.session

/-- The wait for the server's flight is one of those steps. -/
theorem noSession_rule (setup : ClientSetup E) :
    FlightRule (C := C) setup (fun _ _ => NoSession) NoSession where
  fails h := h
  skips h := h
  takes _ _ h := h
  handles _ := keeps_zoom fun _ _ h => h
  expires h := keeps_bind renumberClientFlight_frame (fun _ => sendClientFlight_frame setup) _ h
  answers _ _ h _ := by
    refine wp_bind_of_keeps h (keeps_caught (onHelloState_frame _)) (fun _ _ h => h)
      fun taken client h => ?_
    split
    · refine wp_bind_of_keeps h nextClientHelloFlight_frame (fun _ _ h => h) fun _ client h => ?_
      refine wp_bind_of_keeps h clientHelloOfFlight_keeps (fun _ _ h => h) fun _ client h => ?_
      exact wp_bind_of_keeps h (sendClientFlight_frame setup) (fun _ _ h => h)
        fun _ client h => ⟨rfl, h⟩
    · refine wp_bind_of_keeps h renumberClientFlight_frame (fun _ _ h => h) fun _ client h => ?_
      exact wp_bind_of_keeps h (sendClientFlight_frame setup) (fun _ _ h => h)
        fun _ client h => ⟨rfl, h⟩

/-! ## §3. The client's last wait. -/

theorem onClient_keeps {α : Type} {P : SessionState → Prop} (m : ClientM C E α) :
    Keeps (fun s => P s.2) (onClient m) :=
  keeps_zoom fun _ _ h => h

theorem takeEpochZero_keeps {P : SessionState → Prop} :
    Keeps (fun s => P s.2) (takeEpochZero (C := C) (E := E)) :=
  keeps_bind keeps_get fun _ => keeps_bind (keeps_modify fun _ h => h) fun _ => keeps_pure _

/-- Building the flight seals one Finished. -/
theorem buildClientFinishedFlight_spec (clientKeyExchange : HandshakeMessage)
    {clientFinished : HandshakeMessage} (hfinished : clientFinished.messageType = .finished)
    (s : ClientState C × SessionState) (hs : Handshaking s.2) :
    wp (buildClientFinishedFlight (E := E) clientKeyExchange clientFinished)
      (fun _ s' => Established s'.2) (fun _ s' => Handshaking s'.2) s := by
  unfold buildClientFinishedFlight
  refine wp_seq (takeEpochZero_keeps (P := Handshaking) s hs) (fun first s hs => ?_)
  refine wp_attempt_seq (fun body _ => ?_) (fun _ _ => hs)
  refine wp_attempt_seq (fun keyExchange _ => ?_) (fun _ _ => hs)
  refine wp_seq (takeEpochZero_keeps (P := Handshaking) s hs) (fun second s hs => ?_)
  refine wp_attempt_seq (fun changeCipherSpec _ => ?_) (fun _ _ => hs)
  refine wp_attempt_seq (fun body hbody => ?_) (fun _ _ => hs)
  rw [wp_bind]
  simp only [onSession, wp_zoom, wp_modify]
  exact wp_imp (protectFinished_spec hfinished hbody hs) (fun _ _ h => h)

theorem resendClientFinished_spec (setup : ClientSetup E) (clientKeyExchange : HandshakeMessage)
    {clientFinished : HandshakeMessage} (hfinished : clientFinished.messageType = .finished)
    (s : ClientState C × SessionState) (hs : Handshaking s.2) :
    wp (resendClientFinished setup clientKeyExchange clientFinished)
      (fun _ s' => Established s'.2) (fun _ s' => Handshaking s'.2) s := by
  unfold resendClientFinished
  refine wp_seq (buildClientFinishedFlight_spec clientKeyExchange hfinished s hs) (fun _ s hs => ?_)
  exact wp_mono (onClient_keeps (P := Established) _ s hs) (fun _ _ h => h)
    (fun _ _ h => h.handshaking)

/-- Rebuilding the flight of an established session keeps it established. -/
theorem resendClientFinished_established (setup : ClientSetup E)
    (clientKeyExchange clientFinished : HandshakeMessage) : Keeps (fun s => Established s.2)
      (resendClientFinished (C := C) setup clientKeyExchange clientFinished) :=
  resendClientFinished_keeps setup _ _ takeEpochZero_keeps
    (fun _ => keeps_zoom_of (protectRecord_established _ _) (fun _ h => h) (fun _ _ _ h => h))
    (fun _ _ _ h => h) (onClient_keeps _)

theorem openProtectedRecord_keeps (record : DtlsRecord) : Keeps (fun s => Established s.2)
      (onSession (C := C) (E := E) (SessionState.openProtectedRecord C record)) := by
  refine keeps_zoom_of (J := Established) (fun s hs => ?_) (fun _ h => h) (fun _ _ _ h => h)
  exact wp_mono (SessionState.openProtectedRecord_sameSealing record s)
    (fun _ _ h => h.established hs) (fun _ _ h => h.established hs)

theorem established_rule (setup : ClientSetup E)
    (clientKeyExchange clientFinished : HandshakeMessage) :
    FinishedRule (C := C) setup clientKeyExchange clientFinished (fun _ _ s => Established s.2)
      (fun s => Established s.2) (fun s => Established s.2) where
  fails h := h
  skips h := h
  expires h := resendClientFinished_established _ _ _ _ h
  repeats h _ := resendClientFinished_established _ _ _ _ h
  reads records saw h := by
    refine wp_imp (finishedRecords_keeps records saw openProtectedRecord_keeps
      (fun _ _ => onClient_keeps _) _ h) fun result s' h' => ?_
    split <;> exact h'

/-- The session of a client that is still in its handshake. -/
def ClientHandshaking (client : ClientState C) : Prop :=
  ∀ session, client.session = some session → Handshaking session

theorem NoSession.handshaking {client : ClientState C} (h : NoSession client) :
    ClientHandshaking client := by
  intro session hsession
  cases h.symm.trans hsession

/-- A client's session, if it has one: established when the handshake returned it. -/
theorem connectInner_spec (setup : ClientSetup E) (inputs : List (Input E))
    (client : ClientState C) (h : NoSession client) :
    wp (connectInner setup inputs) (fun session client' => client'.session = some session ∧
        Established session)
      (fun _ client' => ClientHandshaking client') client := by
  have hout : ∀ (_ : Halt E) (client' : ClientState C), NoSession client' →
      ClientHandshaking client' := fun _ _ h => h.handshaking
  unfold connectInner
  refine wp_bind_of_keeps h nextClientHelloFlight_frame hout fun _ client h => ?_
  refine wp_bind_of_keeps h (sendClientFlight_frame setup) hout fun _ client h => ?_
  refine wp_bind_of_keeps h (waitForHelloVerify_frame setup inputs) hout fun inputs client h => ?_
  refine wp_bind_of_keeps h nextClientHelloFlight_frame hout fun _ client h => ?_
  refine wp_bind_of_keeps h clientHelloOfFlight_keeps hout fun _ client h => ?_
  refine wp_bind_of_keeps h (sendClientFlight_frame setup) hout fun _ client h => ?_
  refine wp_seq_mono ((noSession_rule setup).wait inputs _ client h) (fun r client h => ?_) hout
  obtain ⟨-, h⟩ := h
  refine wp_bind_of_keeps h keeps_get hout fun _ client h => ?_
  refine wp_bind_of_keeps h (keeps_zoom fun _ _ h => h) hout fun clientKeyExchange client h => ?_
  refine wp_bind_of_keeps h keeps_get hout fun _ client h => ?_
  refine wp_bind_of_keeps h (keeps_attempt _ _) hout fun keyMaterial client h => ?_
  rw [wp_bind, onHandshake, wp_zoom]
  refine wp_mono (ThreadDtlsHandshake.buildClientFinished_spec _ _) ?_
    (fun _ _ _ => NoSession.handshaking h)
  rintro clientFinished handshake ⟨hfinished, -⟩
  simp only [withSession, wp_zoom, wp_bind, wp_get, wp_pure]
  refine wp_mono (resendClientFinished_spec setup clientKeyExchange hfinished _
    (handshaking_duringHandshake _ _)) ?_ ?_
  · intro _ s hs
    refine wp_mono ((established_rule setup clientKeyExchange clientFinished).wait _ _ _ _ s hs)
      (fun _ s hs => ⟨trivial, hs⟩) (fun _ s hs session hsession => ?_)
    cases hsession
    exact hs.handshaking
  · intro _ s hs session hsession
    cases hsession
    exact hs

end Client

/-! ## §4. The server's handshake. -/

section Server

def ServerUnsealed (_ : ThreadDtlsServerHandshake C) (_ : Option ThreadDtlsKeyMaterial)
    (session : Option SessionState) : Prop :=
  session = none

/-- Until the client's Finished is verified no step of the server touches the session. -/
abbrev NoServerSession (server : AcceptState C) : Prop :=
  ServerUnsealed server.handshake server.keyMaterial server.session

/-- The session of a server that is still in its handshake. -/
def ServerHandshaking (server : AcceptState C) : Prop :=
  ∀ session, server.session = some session → Handshaking session

theorem NoServerSession.handshaking {server : AcceptState C} (h : NoServerSession server) :
    ServerHandshaking server := by
  intro session hsession
  cases h.symm.trans hsession

theorem onServerHandshake_noSession {α : Type} (m : ThreadDtlsServerHandshake.Method C α) :
    Keeps NoServerSession (onServerHandshake (E := E) m) :=
  keeps_zoom fun _ _ h => h

/-- Building the flight seals one Finished. -/
theorem buildServerFinishedFlight_spec {message : HandshakeMessage} {body : Bytes}
    (hmessage : message.messageType = .finished) (hbody : message.encode = .ok body)
    (s : SessionState × UInt64) (hs : Handshaking s.1) :
    wp (buildServerFinishedFlight C body) (fun _ s' => Established s'.1)
      (fun _ s' => Handshaking s'.1) s := by
  simp only [buildServerFinishedFlight, wp_bind, wp_get, wp_modify, wp_zoom, wp_pure]
  refine wp_attempt.mpr ⟨fun changeCipherSpec _ => ?_, fun _ _ => hs⟩
  exact wp_imp (protectFinished_spec hmessage hbody hs) (fun _ _ h => h)

/-- Rebuilding the flight of an established session keeps it established. -/
theorem buildServerFinishedFlight_keeps (body : Bytes) :
    Keeps (fun s => Established s.1) (buildServerFinishedFlight C body) := by
  refine keeps_bind keeps_get fun s => ?_
  refine keeps_bind (keeps_modify fun _ h => h) fun _ => ?_
  refine keeps_bind (keeps_attempt _ _) fun _ => keeps_bind ?_ fun _ => keeps_pure _
  exact keeps_zoom_of (protectRecord_established _ _) (fun _ h => h) (fun _ _ _ h => h)

/-- A server that returns has sealed its Finished. -/
theorem finishAccept_spec (sendFails : Nat → Option E) (hello : CookieHello)
    (record : DtlsRecord) (keys : ThreadDtlsKeyMaterial) (server : AcceptState C)
    (h : NoServerSession server) : wp (finishAccept sendFails hello record keys)
      (fun accepted server' => server'.session = some accepted.state ∧ Established accepted.state)
      (fun _ server' => ServerHandshaking server') server := by
  unfold finishAccept
  split
  · exact wp_seq_mono (sendFatalHandshakeAlert_frame sendFails server h)
      (fun _ _ h => NoServerSession.handshaking h) (fun _ _ h => NoServerSession.handshaking h)
  refine wp_attempt_seq (fun plainRecord _ => ?_) (fun _ _ => h.handshaking)
  refine wp_attempt_seq (fun finished _ => ?_) (fun _ _ => h.handshaking)
  refine wp_seq_mono (keeps_caught (onServerHandshake_noSession _) server h)
    (fun verified server h => ?_) (fun _ _ h => h.handshaking)
  split
  · exact wp_seq_mono (sendFatalHandshakeAlert_frame sendFails server h)
      (fun _ _ h => NoServerSession.handshaking h) (fun _ _ h => NoServerSession.handshaking h)
  rw [wp_bind, onServerHandshake, wp_zoom]
  refine wp_mono (ThreadDtlsServerHandshake.buildServerFinished_spec _ _ _) ?_
    (fun _ _ _ => NoServerSession.handshaking h)
  rintro serverFinished handshake ⟨hfinished, -, -⟩
  refine wp_attempt_seq (fun body hbody => ?_) (fun _ _ => NoServerSession.handshaking h)
  simp only [withServerSession, wp_bind, wp_zoom, wp_get]
  refine wp_mono (buildServerFinishedFlight_spec hfinished hbody _
    (handshaking_duringHandshake _ _)) (fun flight s hs => ?_) ?_
  · refine wp_mono (sendServer_frame (P := fun _ _ session => session = some s.1) sendFails _ _ rfl)
      (fun _ server hserver => ?_) (fun _ server hserver session hsession => ?_)
    · rw [hserver]
      exact ⟨hserver, hs⟩
    · cases hserver.symm.trans hsession
      exact hs.handshaking
  · intro _ s hs session hsession
    cases hsession
    exact hs

/-- The wait for the client's flight: no session until the server seals its Finished. -/
theorem unsealed_awaitRule (sendFails : Nat → Option E) (hello : CookieHello) :
    AwaitRule (C := C) sendFails hello NoServerSession ServerHandshaking
      (fun accepted server' => server'.session = some accepted.state ∧
        Established accepted.state) where
  fails _ h := h.handshaking
  changes _ h := h
  remembers _ _ _ h := h
  resends server h := wp_mono (resendServerFlight_frame sendFails server h) (fun _ _ h => h)
    (fun _ _ h => NoServerSession.handshaking h)
  exchanges _ server h := wp_mono (onServerHandshake_noSession _ server h) (fun _ _ h => h)
    (fun _ _ h => h.handshaking)
  finishes record keys server h := finishAccept_spec sendFails hello record keys server h

theorem acceptHello_spec (sendFails : Nat → Option E) (hello : CookieHello)
    (inputs : List (Input E)) (server : AcceptState C) (h : NoServerSession server) :
    wp (acceptHello sendFails hello inputs)
      (fun accepted server' => server'.session = some accepted.state ∧ Established accepted.state)
      (fun _ server' => ServerHandshaking server') server := by
  have hout : ∀ (_ : Halt E) (server' : AcceptState C), NoServerSession server' →
      ServerHandshaking server' := fun _ _ h => h.handshaking
  unfold acceptHello
  refine wp_bind_of_keeps h (onServerHandshake_noSession _) hout fun _ server h => ?_
  refine wp_bind_of_keeps h (onServerHandshake_noSession _) hout fun serverHello server h => ?_
  refine wp_bind_of_keeps h (keeps_zoom fun _ _ h => h) hout fun keyExchange server h => ?_
  refine wp_bind_of_keeps h (onServerHandshake_noSession _) hout fun helloDone server h => ?_
  refine wp_bind_of_keeps h (serverFlightOf_frame _) hout fun _ server h => ?_
  refine wp_bind_of_keeps h keeps_get hout fun _ server h => ?_
  refine wp_bind_of_keeps h (sendServer_frame sendFails _) hout fun _ server h => ?_
  exact (unsealed_awaitRule sendFails hello).awaitClientFlight inputs _ server h

end Server

/-! ## §5. Established sessions. -/

theorem clientOpenOr_established {wait : EStateM (Halt E) SessionState Bytes}
    (hwait : Keeps Established wait) : Keeps Established (openOr (C := C) wait) := by
  refine keeps_bind (fun s hs => ?_) fun opened => ?_
  · exact (SessionState.openNextRecord_sameSealing s).established hs
  · split
    · exact keeps_attempt _ _
    · exact hwait

theorem clientRecv_established (peer : SocketAddr) (inputs : List (Input E)) :
    Keeps Established (recvApplicationData (C := C) peer inputs) := by
  induction inputs with
  | nil => exact clientOpenOr_established (keeps_throw _)
  | cons input inputs ih =>
    cases input with
    | expired => exact clientOpenOr_established ih
    | failed error => exact clientOpenOr_established (keeps_throw _)
    | deadline => exact clientOpenOr_established (keeps_throw _)
    | datagram localAddr remote bytes =>
      refine clientOpenOr_established ?_
      split
      · exact ih
      · refine keeps_bind (keeps_modify fun s hs => ?_) fun _ => ih
        exact (SessionState.receiveDatagram_sameSealing _ s).established hs

/-- One operation of a client session. -/
theorem clientPerform_established (setup : ClientSetup E) (op : ClientOp E) :
    Keeps (fun session => Established session.state)
      (DtlsClientSession.perform (C := C) setup op) := by
  cases op with
  | send plaintext =>
    refine keeps_bind ?_ fun _ => keeps_zoom fun _ _ h => h
    exact keeps_zoom_of (protectRecord_established _ _) (fun _ h => h) (fun _ _ _ h => h)
  | recv inputs =>
    refine keeps_bind ?_ fun _ => keeps_pure _
    exact keeps_zoom_of (clientRecv_established _ _) (fun _ h => h) (fun _ _ _ h => h)

/-- Any sequence of operations of a client session. -/
theorem clientRunOps_established (setup : ClientSetup E) (ops : List (ClientOp E))
    (session : DtlsClientSession) (h : Established session.state) :
    Established (DtlsClientSession.runOps (C := C) setup session ops).state := by
  induction ops generalizing session with
  | nil => exact h
  | cons op ops ih => exact ih _ (after_of_wp (clientPerform_established setup op session h))

theorem serverOpenOr_established {wait : EStateM (Halt E) DtlsServerSession Bytes}
    (hwait : Keeps (fun session => Established session.state) wait) :
    Keeps (fun session => Established session.state) (DtlsServerSession.openOr C wait) := by
  intro session hs
  simp only [DtlsServerSession.openOr, wp_bind, wp_get, wp_modify]
  have hopened := (SessionState.openNextRecord_sameSealing (C := C) session.state).established hs
  split
  · rw [wp_bind, wp_modify]
    exact wp_attempt.mpr ⟨fun _ _ => hopened, fun _ _ => hopened⟩
  · exact hwait _ hopened

theorem resendServerFinished_established (sendFails : Nat → Option E) :
    Keeps (fun session => Established session.state)
      (DtlsServerSession.resendServerFinished C sendFails) := by
  refine keeps_bind keeps_get fun _ => keeps_bind ?_ fun _ => keeps_zoom fun _ _ h => h
  exact keeps_zoom_of (buildServerFinishedFlight_keeps _) (fun _ h => h) (fun _ _ _ h => h)

theorem serverRecv_established (sendFails : Nat → Option E) (peer : SocketAddr)
    (inputs : List (Input E)) (budget : DuplicateRetransmitBudget) :
    Keeps (fun session => Established session.state)
      (DtlsServerSession.recvApplicationData C sendFails peer inputs budget) := by
  induction inputs generalizing budget with
  | nil => exact serverOpenOr_established (keeps_throw _)
  | cons input inputs ih =>
    cases input with
    | expired => exact serverOpenOr_established (ih budget)
    | failed error => exact serverOpenOr_established (keeps_throw _)
    | deadline => exact serverOpenOr_established (keeps_throw _)
    | datagram localAddr remote bytes =>
      refine serverOpenOr_established ?_
      split
      · exact ih budget
      · refine keeps_bind keeps_get fun _ => ?_
        refine keeps_bind (keeps_onlyIf _ (resendServerFinished_established sendFails)) fun _ => ?_
        refine keeps_bind (keeps_modify fun s hs => ?_) fun _ => ih _
        exact (SessionState.receiveDatagram_sameSealing _ s.state).established hs

/-- One operation of a server session. -/
theorem serverPerform_established (sendFails : Nat → Option E) (peer : SocketAddr)
    (op : ServerOp E) : Keeps (fun session => Established session.state)
      (DtlsServerSession.perform C sendFails peer op) := by
  cases op with
  | send plaintext =>
    refine keeps_bind ?_ fun _ => keeps_zoom fun _ _ h => h
    exact keeps_zoom_of (protectRecord_established _ _) (fun _ h => h) (fun _ _ _ h => h)
  | recv inputs => exact keeps_bind (serverRecv_established _ _ _ _) fun _ => keeps_pure _

/-- Any sequence of operations of a server session. -/
theorem serverRunOps_established (sendFails : Nat → Option E) (peer : SocketAddr)
    (ops : List (ServerOp E)) (session : DtlsServerSession) (h : Established session.state) :
    Established (DtlsServerSession.runOps C sendFails peer session ops).state := by
  induction ops generalizing session with
  | nil => exact h
  | cons op ops ih => exact ih _ (after_of_wp (serverPerform_established sendFails peer op session h))

/-! ## §6. Every session of a run. -/

/-- The session states a client or a server can hold: during its handshake, wherever that
    stopped, or after it and any operations. -/
inductive SessionRun (C : Crypto) (E : Type) : SessionState → Prop where
  | connecting (setup : ClientSetup E) (pskc : Bytes) (rng : C.Rng) (client : ClientState C)
      (inputs : List (Input E)) (session : SessionState) :
      ClientState.start pskc rng = .ok client →
      (after (connectInner setup inputs) client).session = some session →
      SessionRun C E session
  | connected (setup : ClientSetup E) (pskc : Bytes) (rng : C.Rng) (client client' : ClientState C)
      (inputs : List (Input E)) (session : SessionState) (ops : List (ClientOp E)) :
      ClientState.start pskc rng = .ok client →
      connectInner setup inputs client = .ok session client' →
      SessionRun C E (DtlsClientSession.runOps (C := C) setup
        { state := session, sent := client'.sent } ops).state
  | accepting (sendFails : Nat → Option E) (pskc : Bytes) (rng : C.Rng) (inputs : List (Input E))
      (hello : CookieHello) (halt : Halt E) (server : AcceptState C) (session : SessionState) :
      acceptInner sendFails pskc rng inputs = .committed hello (.error halt server) →
      server.session = some session →
      SessionRun C E session
  | accepted (sendFails : Nat → Option E) (pskc : Bytes) (rng : C.Rng) (inputs : List (Input E))
      (hello : CookieHello) (accepted : Accepted) (server : AcceptState C)
      (ops : List (ServerOp E)) :
      acceptInner sendFails pskc rng inputs = .committed hello (.ok accepted server) →
      SessionRun C E (DtlsServerSession.runOps C sendFails accepted.peer
        (DtlsServerSession.ofAccepted accepted server.sent) ops).state

theorem clientStart_noSession {pskc : Bytes} {rng : C.Rng} {client : ClientState C}
    (h : ClientState.start pskc rng = .ok client) : NoSession client := by
  obtain ⟨helloState, -, h⟩ := bind_eq_ok.mp h
  cases h
  rfl

/-- **Every session of a run is numbered from its Finished on.** -/
theorem SessionRun.handshaking {s : SessionState} (h : SessionRun C E s) : Handshaking s := by
  cases h with
  | connecting setup pskc rng client inputs _ hstart hsession =>
    have hspec := connectInner_spec setup inputs client (clientStart_noSession hstart)
    have hwhere : ClientHandshaking (after (connectInner setup inputs) client) := by
      refine after_of_wp (wp_mono hspec ?_ (fun _ _ h => h))
      rintro session client' ⟨hsession, hest⟩ session' hsession'
      cases hsession.symm.trans hsession'
      exact hest.handshaking
    exact hwhere s hsession
  | connected setup pskc rng client client' inputs session ops hstart hrun =>
    have hspec := connectInner_spec setup inputs client (clientStart_noSession hstart)
    exact (clientRunOps_established setup ops _ (of_wp_ok hspec hrun).2).handshaking
  | accepting sendFails pskc rng inputs hello halt server _ hrun hsession =>
    obtain ⟨rng', inputs', sent, hrun⟩ := acceptInner_committed hrun
    have hspec := acceptHello_spec sendFails hello inputs' (AcceptState.start pskc rng' hello sent) rfl
    unfold wp at hspec
    rw [hrun] at hspec
    exact hspec s hsession
  | accepted sendFails pskc rng inputs hello accepted server ops hrun =>
    obtain ⟨rng', inputs', sent, hrun⟩ := acceptInner_committed hrun
    have hspec := acceptHello_spec sendFails hello inputs' (AcceptState.start pskc rng' hello sent) rfl
    exact (serverRunOps_established sendFails accepted.peer ops _
      (of_wp_ok hspec hrun).2).handshaking

/-- What it means for a session that it never reuses a nonce: its released records carry the
    sequence numbers `0, 1, 2, …` below `2 ^ 48` in epoch 1, all under the side's write key
    and IV, beginning with its Finished, and no two of them share a nonce. -/
structure NonceSafe (s : SessionState) : Prop where
  sequences : s.released.map Protected.sequence = List.range s.released.length
  counter : s.nextApplicationSequence.toNat = s.released.length
  below : ∀ e ∈ s.released, e.sequence < 2 ^ 48
  sealedUnder : ∀ e ∈ s.released, (e.key, e.fixedIv) = s.writeKey ∧ e.record.header.epoch = 1
  firstFinished : ∀ e, s.released.head? = some e → SealsFinished e
  distinct : (s.released.map Protected.nonce).Nodup

theorem Handshaking.nonceSafe {s : SessionState} (h : Handshaking s) : NonceSafe s := by
  obtain ⟨hfresh, hbegun⟩ := h
  refine { sequences := hfresh.numbered, counter := hfresh.counter, below := fun e he => ?_
           sealedUnder := fun e he => ⟨hfresh.sealedUnder e he, hfresh.epoch e he⟩
           firstFinished := fun e he => ?_, distinct := hfresh.nodup_nonce }
  · exact lt_of_lt_of_le (hfresh.numbered.lt_length he) hfresh.bounded
  · rcases hbegun with hnil | ⟨first, rest, hreleased, hfirst⟩
    · rw [hnil] at he
      cases he
    · rw [hreleased] at he
      cases he
      exact hfirst

/-- **No nonce reuse in client and server sessions.**  Every session a side holds in any run
    is nonce-safe; at `2 ^ 48` its counter stops, since every further sealing fails; and a
    sealing that fails releases nothing and leaves the session as it was. -/
theorem session_never_reuses_a_nonce {s : SessionState} (h : SessionRun C E s) :
    NonceSafe s ∧
      (∀ contentType plaintext, s.nextApplicationSequence.toNat = 2 ^ 48 →
        ∃ e, SessionState.protectRecord C contentType plaintext s = .error e s) ∧
      (∀ contentType plaintext e s',
        SessionState.protectRecord C contentType plaintext s = .error e s' → s' = s) := by
  have hfail : ∀ contentType plaintext e s',
      SessionState.protectRecord C contentType plaintext s = .error e s' → s' = s := by
    intro contentType plaintext e s' hrun
    have hspec := SessionState.protectRecord_spec (C := C) contentType plaintext s
    simpa only [wp, hrun] using hspec
  refine ⟨h.handshaking.nonceSafe, fun contentType plaintext hcounter => ?_, hfail⟩
  have hspec := SessionState.protectRecord_spec (C := C) contentType plaintext s
  cases hrun : SessionState.protectRecord C contentType plaintext s with
  | ok record s' =>
    have hsealed := (of_wp_ok hspec hrun).1
    exact absurd (protect_eq_ok hsealed).1 (by omega)
  | error e s' => exact ⟨e, by rw [hfail contentType plaintext e s' hrun]⟩

/-- The server's session after it accepted its peer and sent one application datagram. -/
def servedSession : Option SessionState :=
  match Conversation.transparent.server (Conversation.transparent.inputs 5).2 with
  | .committed _ (.ok accepted server) =>
    some (DtlsServerSession.runOps Crypto.transparent (E := Empty) (fun _ => none) accepted.peer
      (DtlsServerSession.ofAccepted accepted server.sent) [.send (ascii "ping")]).state
  | _ => none

theorem session_never_reuses_a_nonce_served :
    ∃ s, SessionRun Crypto.transparent Empty s ∧ s.released.length = 2 ∧ NonceSafe s := by
  have hlength : servedSession.map (·.released.length) = some 2 := by decide +kernel
  obtain ⟨s, hs, hlength⟩ := Option.map_eq_some_iff.mp hlength
  have hrun : SessionRun Crypto.transparent Empty s := by
    unfold servedSession at hs
    split at hs
    · rename_i hserver
      cases hs
      exact .accepted _ _ _ _ _ _ _ _ hserver
    · cases hs
  exact ⟨s, hrun, hlength, (session_never_reuses_a_nonce hrun).1⟩

end Meshcop.Dtls
