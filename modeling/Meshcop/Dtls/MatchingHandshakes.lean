/-
  Meshcop.Dtls.MatchingHandshakes — a client and a server that finish with each other agree
  on every handshake message.

  Each side builds its transcript on its own, in loops that drop, repeat and re-send messages
  under whatever the network delivers.  The client ends with

      ClientHello, some ServerHello/ServerKeyExchange messages, ServerHelloDone,
      ClientKeyExchange, Finished, Finished

  and the server with

      ClientHello, ServerHello, ServerKeyExchange, ServerHelloDone,
      some ClientKeyExchange messages, Finished, Finished.

  The server's Finished carries a value over everything before it.  If the client accepted
  the Finished that this server sealed, the two values agree, so the hashed bytes agree, so
  the messages agree; and the two shapes leave exactly the seven messages of the profile.
-/

import Meshcop.Dtls.Conversation
import Meshcop.Dtls.ServerFlight

namespace Meshcop.Dtls

open Lib

variable {C : Crypto} {E : Type}

/-! ## §1. The accepted server Finished at the client. -/

/-- The client accepted a Finished over the transcript `t`: the last record it opened is a
    handshake record whose messages contain it, it carries the server's value over `t`, and
    it was appended. -/
def AcceptedFinished (t : HandshakeTranscript) (s : ClientState C × SessionState) : Prop :=
  ∃ opened messages finished, s.2.opened.getLast? = some opened ∧
    opened.record.header.contentType = .handshake ∧
    parseMessages opened.plaintext.length opened.plaintext = .ok messages ∧
    finished ∈ messages ∧
    t.finishedVerifyData C s.2.keyMaterial.masterSecret .server = .ok finished.payload ∧
    s.1.handshake.transcript.messages = t.messages ++ [finished]

theorem onClient_transcript {α : Type} {t : HandshakeTranscript} {m : ClientM C E α}
    (hm : Keeps (fun client => client.handshake.transcript = t) m) :
    Keeps (fun s => s.1.handshake.transcript = t) (onClient m) :=
  keeps_zoom_of hm (fun _ h => h) (fun _ _ _ h => h)

theorem resendClientFinished_transcript (setup : ClientSetup E)
    (clientKeyExchange clientFinished : HandshakeMessage) (t : HandshakeTranscript) :
    Keeps (fun s => s.1.handshake.transcript = t)
      (resendClientFinished (C := C) setup clientKeyExchange clientFinished) :=
  resendClientFinished_keeps setup _ _
    (keeps_bind keeps_get fun _ => keeps_bind (keeps_modify fun _ h => h) fun _ => keeps_pure _)
    (fun _ => keeps_zoom fun _ _ h => h) (fun _ _ _ h => h) (onClient_transcript
      (sendClientFlight_frame (P := fun handshake _ => handshake.transcript = t) setup))

theorem finishedMessages_spec (messages : List HandshakeMessage)
    (s : ClientState C × SessionState) : wp (finishedMessages (E := E) messages)
      (fun accepted s' => s'.2 = s.2 ∧
        (accepted = false → s'.1.handshake.transcript = s.1.handshake.transcript) ∧
        (accepted = true → ∃ finished ∈ messages,
          s.1.handshake.transcript.finishedVerifyData C s.2.keyMaterial.masterSecret .server
            = .ok finished.payload ∧
          s'.1.handshake.transcript.messages = s.1.handshake.transcript.messages ++ [finished]))
      (fun _ _ => True) s := by
  induction messages with
  | nil => exact ⟨rfl, fun _ => rfl, fun h => absurd h Bool.false_ne_true⟩
  | cons message messages ih =>
    unfold finishedMessages
    split
    · simp only [onClient, onHandshake, wp_bind, wp_get, wp_zoom, wp_pure]
      refine wp_mono_ok (ThreadDtlsHandshake.verifyServerFinished_spec _ _) ?_
      rintro _ handshake ⟨hvalue, happ⟩
      exact ⟨trivial, fun h => absurd h.symm Bool.false_ne_true,
        fun _ => ⟨message, by simp, hvalue, happ⟩⟩
    · refine wp_mono_ok ih ?_
      rintro accepted s' ⟨hsession, hfalse, htrue⟩
      refine ⟨hsession, hfalse, fun hacc => ?_⟩
      obtain ⟨finished, hmem, hrest⟩ := htrue hacc
      exact ⟨finished, by simp [hmem], hrest⟩

/-- A record that opened into handshake messages: either the wait goes on with the same
    transcript, or the Finished was accepted. -/
theorem finishedRecords_transcript (t : HandshakeTranscript) (records : List DtlsRecord)
    (saw : Bool) (s : ClientState C × SessionState) (h : s.1.handshake.transcript = t) :
    wp (finishedRecords (E := E) records saw)
      (fun r s' => if r.1 = true then AcceptedFinished t s' else s'.1.handshake.transcript = t)
      (fun _ _ => True) s := by
  induction records generalizing saw s with
  | nil => exact h
  | cons record records ih =>
    unfold finishedRecords
    split
    · split
      · split
        · trivial
        · exact ih true s h
      · trivial
      · exact ih saw s h
    · split
      · split
        · rename_i htype
          split
          · exact ih saw s h
          rw [wp_bind, onSession, wp_zoom]
          refine wp_mono_ok (SessionState.openProtectedRecord_spec record s.2) ?_
          rintro opened session ⟨hsame, hopened⟩
          cases opened with
          | none => exact ih saw _ h
          | some plaintext =>
            simp only [wp_bind]
            refine wp_attempt_ok fun plainRecord hplain => ?_
            refine wp_attempt_ok fun messages hmessages => ?_
            obtain ⟨-, rfl⟩ := DtlsRecord.new_eq_ok hplain
            refine wp_mono_ok (finishedMessages_spec messages _) ?_
            rintro accepted s' ⟨hsession, hfalse, htrue⟩
            cases accepted with
            | false => exact ih saw s' ((hfalse rfl).trans h)
            | true =>
              obtain ⟨finished, hmem, hvalue, happ⟩ := htrue rfl
              rw [h] at hvalue happ
              have hopened := hopened plaintext rfl
              rw [← show s'.2 = session from hsession] at hopened hvalue
              exact ⟨_, messages, finished, hopened, htype, hmessages, hmem, hvalue, happ⟩
        · rw [wp_bind, wp_caught, onSession, wp_zoom]
          refine wp_mono (SessionState.openProtectedRecord_spec record s.2)
            (fun opened session _ => ?_) (fun _ session _ => ih saw _ h)
          cases opened with
          | none => exact ih saw _ h
          | some plaintext => trivial
        · exact ih saw s h
      · exact ih saw s h

theorem transcript_rule (t : HandshakeTranscript) (setup : ClientSetup E)
    (clientKeyExchange clientFinished : HandshakeMessage) :
    FinishedRule (C := C) setup clientKeyExchange clientFinished
      (fun _ _ s => s.1.handshake.transcript = t) (AcceptedFinished t) (fun _ => True) where
  fails _ := trivial
  skips h := h
  expires h := wp_mono_ok (resendClientFinished_transcript setup _ _ t _ h) (fun _ _ h => h)
  repeats h _ := wp_mono_ok (resendClientFinished_transcript setup _ _ t _ h) (fun _ _ h => h)
  reads records saw h := finishedRecords_transcript t records saw _ h

/-- **The client's transcript at the end**: its shape, and the Finished it accepted. -/
theorem connectInner_transcript (setup : ClientSetup E) (inputs : List (Input E))
    (client : ClientState C) (h : client.handshake.transcript.messages = []) :
    wp (connectInner setup inputs) (fun session client' => ∃ t keyExchange finished messages,
        FlightDone messages ∧ t.messages = messages ++ [keyExchange, finished] ∧
        keyExchange.messageType = .clientKeyExchange ∧ finished.messageType = .finished ∧
        AcceptedFinished t (client', session))
      (fun _ _ => True) client := by
  have hstart : EmptyTranscript client.handshake client.session := h
  have hout : ∀ (e : Halt E) (client' : ClientState C),
      EmptyTranscript client'.handshake client'.session → True := fun _ _ _ => trivial
  unfold connectInner
  refine wp_bind_of_keeps (s := client) hstart nextClientHelloFlight_frame hout fun _ client h => ?_
  refine wp_bind_of_keeps h (sendClientFlight_frame setup) hout fun _ client h => ?_
  refine wp_bind_of_keeps h (waitForHelloVerify_frame setup inputs) hout fun inputs client h => ?_
  refine wp_bind_of_keeps h nextClientHelloFlight_frame hout fun _ client h => ?_
  refine wp_seq_ok (clientHelloOfFlight_current client) ?_
  rintro hello client' ⟨hsame, hcurrent⟩
  rw [hsame] at hcurrent ⊢
  have hboth : EmptyTranscript client.handshake client.session ∧ CurrentHello hello client :=
    ⟨h, hcurrent⟩
  refine wp_bind_of_keeps hboth
    (keeps_and (sendClientFlight_frame setup) (sendClientFlight_current setup hello))
    (fun _ _ _ => trivial) ?_
  rintro _ client ⟨h, hcurrent⟩
  simp only [wp_bind, wp_get, wp_zoom]
  refine wp_mono_ok (waitForServerFlight_spec setup inputs Offer.start _ client
    (Waits.unstarted rfl rfl rfl rfl h hcurrent)) ?_
  rintro ⟨serverFlight, inputs⟩ client ⟨hello, body, done, htaken⟩
  have hdone := htaken.flightDone
  refine wp_mono_ok (ThreadDtlsHandshake.buildClientKeyExchange_spec _ _) ?_
  rintro keyExchange ⟨handshake, rng⟩ ⟨hkeyExchange, happ⟩
  refine wp_attempt_ok fun keyMaterial _ => ?_
  rw [onHandshake, wp_zoom]
  refine wp_mono_ok (ThreadDtlsHandshake.buildClientFinished_spec _ _) ?_
  rintro finished handshake' ⟨hfinished, happ'⟩
  simp only [withSession, wp_zoom, wp_bind, wp_get, wp_pure]
  refine wp_mono_ok (resendClientFinished_transcript setup keyExchange finished handshake'.transcript
    _ rfl) (fun _ s hs => ?_)
  refine wp_mono_ok ((transcript_rule handshake'.transcript setup keyExchange finished).wait
    serverFlight inputs _ _ s hs) (fun _ s hs => ?_)
  refine ⟨handshake'.transcript, keyExchange, finished, _, hdone, ?_, hkeyExchange, hfinished, hs⟩
  show handshake'.transcript.messages = _
  rw [happ', happ, List.append_assoc]
  rfl

/-! ## §2. The server's transcript. -/

/-- The server's transcript once its own flight is out: the ClientHello, the three messages
    of that flight and whatever ClientKeyExchange messages it took. -/
def ServerFlightOut (messages : List HandshakeMessage) : Prop :=
  ∃ hello serverHello keyExchange helloDone exchanges,
    messages = hello :: serverHello :: keyExchange :: helloDone :: exchanges ∧
    hello.messageType = .clientHello ∧ serverHello.messageType = .serverHello ∧
    keyExchange.messageType = .serverKeyExchange ∧ helloDone.messageType = .serverHelloDone ∧
    ∀ m ∈ exchanges, m.messageType = .clientKeyExchange

theorem ServerFlightOut.snoc {messages : List HandshakeMessage} (h : ServerFlightOut messages)
    {message : HandshakeMessage} (hmessage : message.messageType = .clientKeyExchange) :
    ServerFlightOut (messages ++ [message]) := by
  obtain ⟨ch, sh, ske, shd, exchanges, rfl, hch, hsh, hske, hshd, hall⟩ := h
  refine ⟨ch, sh, ske, shd, exchanges ++ [message], rfl, hch, hsh, hske, hshd, fun m hm => ?_⟩
  rcases List.mem_append.mp hm with hm | hm
  · exact hall m hm
  · rw [List.mem_singleton.mp hm]
    exact hmessage

/-- The same of an acceptor's state, of which only the handshake object matters. -/
def FlightOut (handshake : ThreadDtlsServerHandshake C) (_ : Option ThreadDtlsKeyMaterial)
    (_ : Option SessionState) : Prop :=
  ServerFlightOut handshake.transcript.messages

abbrev AwaitingClient (server : AcceptState C) : Prop :=
  FlightOut server.handshake server.keyMaterial server.session

/-- Every handshake record the session sealed carries `body`. -/
def FinishedOnly (body : Bytes) (s : SessionState) : Prop :=
  ∀ e ∈ s.released, e.record.header.contentType = .handshake → e.plaintext = body

theorem SessionState.SameSealing.finishedOnly {body : Bytes} {s s' : SessionState}
    (h : s.SameSealing s') (hs : FinishedOnly body s) : FinishedOnly body s' := by
  unfold FinishedOnly
  rw [h.released]
  exact hs

/-- Sealing `body`, or anything that is not a handshake record. -/
theorem protectRecord_finishedOnly {body plaintext : Bytes} {contentType : ContentType}
    (h : contentType = .handshake → plaintext = body) :
    Keeps (FinishedOnly body) (SessionState.protectRecord C contentType plaintext) := by
  intro s hs
  refine wp_mono (SessionState.protectRecord_spec contentType plaintext s) ?_ ?_
  · rintro record _ ⟨hrecord, rfl⟩ e he htype
    rcases List.mem_append.mp he with he | he
    · exact hs e he htype
    · obtain rfl := List.mem_singleton.mp he
      exact h ((protect_eq_ok hrecord).2.1.symm.trans htype)
  · rintro _ _ rfl
    exact hs

theorem buildServerFinishedFlight_finishedOnly (body : Bytes) :
    Keeps (fun s => FinishedOnly body s.1) (buildServerFinishedFlight C body) := by
  refine keeps_bind keeps_get fun s => keeps_bind (keeps_modify fun _ h => h) fun _ => ?_
  refine keeps_bind (keeps_attempt _ _) fun _ => keeps_bind ?_ fun _ => keeps_pure _
  exact keeps_zoom_of (protectRecord_finishedOnly fun _ => rfl) (fun _ h => h) (fun _ _ _ h => h)

/-- The server finished over the transcript `t`: it took the client's Finished, then built its
    own over everything so far, appended it, and seals nothing else in handshake records. -/
def FinishedOver (t : HandshakeTranscript) (accepted : Accepted) (server : AcceptState C) :
    Prop :=
  ∃ before clientFinished serverFinished masterSecret,
    ServerFlightOut before ∧ t.messages = before ++ [clientFinished] ∧
    clientFinished.messageType = .finished ∧ serverFinished.messageType = .finished ∧
    t.finishedVerifyData C masterSecret .server = .ok serverFinished.payload ∧
    server.handshake.transcript.messages = t.messages ++ [serverFinished] ∧
    serverFinished.encode = .ok accepted.serverFinished ∧
    FinishedOnly accepted.serverFinished accepted.state

theorem finishAccept_transcript (sendFails : Nat → Option E) (hello : CookieHello)
    (record : DtlsRecord) (keys : ThreadDtlsKeyMaterial) (server : AcceptState C)
    (h : AwaitingClient server) : wp (finishAccept sendFails hello record keys)
      (fun accepted server' => ∃ t, FinishedOver t accepted server') (fun _ _ => True) server := by
  have halert : ∀ (error : Halt E) (server : AcceptState C),
      wp (do sendFatalHandshakeAlert sendFails; throw error : AcceptM C E Accepted)
        (fun accepted server' => ∃ t, FinishedOver t accepted server') (fun _ _ => True) server :=
    fun _ server => wp_bind_of_keeps (I := fun _ => True) (s := server) trivial
      (sendFatalHandshakeAlert_frame (P := fun _ _ _ => True) sendFails) (fun _ _ _ => trivial)
      fun _ _ _ => trivial
  unfold finishAccept
  split
  · exact halert _ server
  rw [wp_bind]
  refine wp_attempt_ok fun plainRecord _ => ?_
  rw [wp_bind]
  refine wp_attempt_ok fun clientFinished _ => ?_
  rw [wp_bind, wp_caught, onServerHandshake, wp_zoom]
  refine wp_mono (ThreadDtlsServerHandshake.verifyClientFinished_spec keys server.handshake) ?_
    (fun _ _ _ => halert _ _)
  rintro _ handshake ⟨hclient, -, happ, -⟩
  rw [wp_bind, onServerHandshake, wp_zoom]
  refine wp_mono_ok (ThreadDtlsServerHandshake.buildServerFinished_spec _ keys handshake) ?_
  rintro serverFinished handshake' ⟨hserver, hvalue, happ', -⟩
  rw [wp_bind]
  refine wp_attempt_ok fun body hbody => ?_
  simp only [withServerSession, wp_bind, wp_zoom, wp_get]
  refine wp_mono_ok (buildServerFinishedFlight_finishedOnly body
    (SessionState.duringHandshake keys .server, _) (by simp [FinishedOnly, SessionState.duringHandshake]))
    (fun flight s hs => ?_)
  refine wp_mono_ok (sendServer_frame (P := fun handshake _ session => handshake = handshake' ∧
    session = some s.1) sendFails _ _ ⟨rfl, rfl⟩) ?_
  rintro _ server' ⟨hhandshake, hsession⟩
  rw [hsession]
  refine ⟨handshake.transcript, server.handshake.transcript.messages, clientFinished,
    serverFinished, keys.masterSecret, h, happ, hclient, hserver, hvalue, ?_, hbody, hs⟩
  rw [hhandshake]
  exact happ'

/-- The wait for the client's flight: the transcript only takes client key exchanges, until the
    two Finished close it. -/
theorem transcript_awaitRule (sendFails : Nat → Option E) (hello : CookieHello) :
    AwaitRule (C := C) sendFails hello AwaitingClient (fun _ => True)
      (fun accepted server' => ∃ t, FinishedOver t accepted server') where
  fails _ _ := trivial
  changes _ h := h
  remembers _ _ _ h := h
  resends server h := wp_mono_ok (resendServerFlight_frame sendFails server h) (fun _ _ h => h)
  exchanges message server h := by
    rw [onServerHandshake, wp_zoom]
    refine wp_mono_ok (ThreadDtlsServerHandshake.handleClientKeyExchange_spec server.handshake) ?_
    rintro _ handshake ⟨htype, happ⟩
    show ServerFlightOut handshake.transcript.messages
    rw [happ.1]
    exact h.snoc htype
  finishes record keys server h := finishAccept_transcript sendFails hello record keys server h

/-- **The server's transcript at the end.** -/
theorem acceptHello_transcript (sendFails : Nat → Option E) (hello : CookieHello)
    (inputs : List (Input E)) (server : AcceptState C)
    (h : server.handshake.transcript.messages = []) : wp (acceptHello sendFails hello inputs)
      (fun accepted server' => ∃ t, FinishedOver t accepted server') (fun _ _ => True) server := by
  unfold acceptHello
  simp only [onServerHandshake, wp_bind, wp_zoom]
  refine wp_mono_ok (ThreadDtlsServerHandshake.handleClientHello_spec server.handshake) ?_
  rintro _ handshake ⟨hch, happ⟩
  refine wp_mono_ok (ThreadDtlsServerHandshake.buildServerHello_spec _ handshake) ?_
  rintro serverHello handshake₁ ⟨hsh, happ₁, -⟩
  refine wp_mono_ok (ThreadDtlsServerHandshake.buildServerKeyExchange_spec _ (handshake₁, _)) ?_
  rintro keyExchange ⟨handshake₂, rng⟩ ⟨hske, happ₂, -⟩
  refine wp_mono_ok (ThreadDtlsServerHandshake.buildServerHelloDone_spec _ handshake₂) ?_
  rintro helloDone handshake₃ ⟨hshd, happ₃, -⟩
  have hout : FlightOut handshake₃ server.keyMaterial server.session := by
    refine ⟨_, serverHello, keyExchange, helloDone, [], ?_, hch, hsh, hske, hshd, by simp⟩
    rw [happ₃, happ₂, happ₁, happ, h]
    rfl
  refine wp_mono_ok (serverFlightOf_frame _ _ hout) (fun _ server hout => ?_)
  rw [wp_get]
  refine wp_mono_ok (sendServer_frame sendFails _ server hout) (fun _ server hout => ?_)
  exact (transcript_awaitRule sendFails hello).awaitClientFlight inputs _ server hout

/-! ## §3. What an accepted server seals later. -/

/-- Every handshake record carries `body`, and so will a rebuilt Finished. -/
structure SealsOnly (body : Bytes) (session : DtlsServerSession) : Prop where
  released : FinishedOnly body session.state
  pending : session.serverFinished ≠ [] → session.serverFinished = body

section Operations

variable {body : Bytes}

theorem serverOpenOr_sealsOnly {wait : EStateM (Halt E) DtlsServerSession Bytes}
    (hwait : Keeps (SealsOnly body) wait) :
    Keeps (SealsOnly body) (DtlsServerSession.openOr C wait) := by
  intro session hs
  simp only [DtlsServerSession.openOr, wp_bind, wp_get, wp_modify]
  have hopened := (SessionState.openNextRecord_sameSealing (C := C) session.state).finishedOnly
    hs.released
  split
  · rw [wp_bind, wp_modify]
    refine wp_attempt.mpr ⟨fun _ _ => ⟨hopened, ?_⟩, fun _ _ => ⟨hopened, ?_⟩⟩ <;>
      exact fun hne => absurd rfl hne
  · exact hwait _ ⟨hopened, hs.pending⟩

theorem resendServerFinished_sealsOnly (sendFails : Nat → Option E) (session : DtlsServerSession)
    (hs : SealsOnly body session) (hpending : session.serverFinished ≠ []) :
    wp (DtlsServerSession.resendServerFinished C sendFails) (fun _ s' => SealsOnly body s')
      (fun _ s' => SealsOnly body s') session := by
  obtain rfl : session.serverFinished = body := hs.pending hpending
  simp only [DtlsServerSession.resendServerFinished, wp_bind, wp_get, wp_zoom]
  refine wp_mono (buildServerFinishedFlight_finishedOnly session.serverFinished
    (session.state, session.nextEpochZeroRecord) hs.released) (fun flight s h => ?_)
    (fun _ s h => ⟨h, fun _ => rfl⟩)
  exact keeps_zoom (fun _ _ h => ⟨h.released, h.pending⟩) _ ⟨h, fun _ => rfl⟩

theorem serverRecv_sealsOnly (sendFails : Nat → Option E) (peer : SocketAddr)
    (inputs : List (Input E)) (budget : DuplicateRetransmitBudget) : Keeps (SealsOnly body)
      (DtlsServerSession.recvApplicationData C sendFails peer inputs budget) := by
  induction inputs generalizing budget with
  | nil => exact serverOpenOr_sealsOnly (keeps_throw _)
  | cons input inputs ih =>
    cases input with
    | expired => exact serverOpenOr_sealsOnly (ih budget)
    | failed error => exact serverOpenOr_sealsOnly (keeps_throw _)
    | deadline => exact serverOpenOr_sealsOnly (keeps_throw _)
    | datagram localAddr remote bytes =>
      refine serverOpenOr_sealsOnly ?_
      split
      · exact ih budget
      rename_i records _
      intro session hs
      simp only [wp_bind, wp_get]
      have hretry : wp (onlyIf (DtlsServerSession.takeServerFinishedRetry session.serverFinished
            records budget).1 (DtlsServerSession.resendServerFinished C sendFails))
          (fun _ s' => SealsOnly body s') (fun _ s' => SealsOnly body s') session := by
        unfold onlyIf
        split
        · -- a retry is only granted while the Finished is kept
          rename_i hallowed
          refine resendServerFinished_sealsOnly sendFails session hs fun hnil => ?_
          simp [DtlsServerSession.takeServerFinishedRetry, hnil] at hallowed
        · exact hs
      refine wp_imp hretry (fun _ session hs => ?_)
      rw [wp_modify]
      refine ih _ _ ⟨?_, hs.pending⟩
      exact (SessionState.receiveDatagram_sameSealing _ session.state).finishedOnly hs.released

theorem serverPerform_sealsOnly (sendFails : Nat → Option E) (peer : SocketAddr) (op : ServerOp E) :
    Keeps (SealsOnly body) (DtlsServerSession.perform C sendFails peer op) := by
  cases op with
  | send plaintext =>
    refine keeps_bind (fun session hs => ?_) fun _ =>
      keeps_zoom fun _ _ h => ⟨h.released, h.pending⟩
    rw [wp_zoom, SessionState.protectApplicationData]
    have htype : ContentType.applicationData = .handshake → plaintext = body := fun h => by cases h
    exact wp_mono (protectRecord_finishedOnly htype session.state hs.released)
      (fun _ _ h => ⟨h, hs.pending⟩) (fun _ _ h => ⟨h, hs.pending⟩)
  | recv inputs => exact keeps_bind (serverRecv_sealsOnly _ _ _ _) fun _ => keeps_pure _

theorem serverRunOps_sealsOnly (sendFails : Nat → Option E) (peer : SocketAddr)
    (ops : List (ServerOp E)) (session : DtlsServerSession) (h : SealsOnly body session) :
    SealsOnly body (DtlsServerSession.runOps C sendFails peer session ops) := by
  induction ops generalizing session with
  | nil => exact h
  | cons op ops ih => exact ih _ (after_of_wp (serverPerform_sealsOnly sendFails peer op session h))

end Operations

/-! ## §4. Agreement. -/

/-- The verify data determines the master secret, the role and the transcript bytes. -/
def VerifyDataInjective (C : Crypto) : Prop :=
  ∀ masterSecret masterSecret' role role' bytes bytes' value,
    finishedVerifyData C masterSecret role (C.sha256 bytes) = .ok value →
    finishedVerifyData C masterSecret' role' (C.sha256 bytes') = .ok value →
    masterSecret = masterSecret' ∧ role = role' ∧ bytes = bytes'

/-- Every protected record the session opened was sealed by an honest party under the same
    key and IV; `honest` lists what the honest parties sealed. -/
def OpensOnlyHonest (honest : List Protected) (session : SessionState) : Prop :=
  ∀ e ∈ session.opened, e ∈ honest

/-- The seven messages of the profile, in order. -/
def SevenMessages (messages : List HandshakeMessage) : Prop :=
  ∃ clientHello serverHello serverKeyExchange serverHelloDone clientKeyExchange clientFinished
      serverFinished,
    messages = [clientHello, serverHello, serverKeyExchange, serverHelloDone, clientKeyExchange,
      clientFinished, serverFinished] ∧
    clientHello.messageType = .clientHello ∧ serverHello.messageType = .serverHello ∧
    serverKeyExchange.messageType = .serverKeyExchange ∧
    serverHelloDone.messageType = .serverHelloDone ∧
    clientKeyExchange.messageType = .clientKeyExchange ∧
    clientFinished.messageType = .finished ∧ serverFinished.messageType = .finished

/-- A transcript of both shapes has the seven messages and no others: the place of the
    ServerHelloDone fixes the lengths of the two open runs. -/
theorem sevenMessages_of_shapes {messages before : List HandshakeMessage}
    {keyExchange finished clientFinished serverFinished : HandshakeMessage}
    (hclient : FlightDone messages) (hserver : ServerFlightOut before)
    (hfinished : clientFinished.messageType = .finished)
    (hserverFinished : serverFinished.messageType = .finished)
    (heq : messages ++ [keyExchange, finished] = before ++ [clientFinished]) :
    SevenMessages (before ++ [clientFinished] ++ [serverFinished]) := by
  obtain ⟨hello, body, done, rfl, -, hbody, hdone⟩ := hclient
  obtain ⟨ch, sh, ske, shd, exchanges, rfl, hch, hsh, hske, hshd, hall⟩ := hserver
  simp only [List.cons_append, List.append_assoc, List.cons.injEq] at heq
  replace heq := heq.2
  match body with
  | [] =>
    obtain rfl : done = sh := (List.cons.inj heq).1
    cases hdone.symm.trans hsh
  | [first] =>
    obtain rfl : done = ske := (List.cons.inj (List.cons.inj heq).2).1
    cases hdone.symm.trans hske
  | [first, second] =>
    have hrest : [keyExchange, finished] = exchanges ++ [clientFinished] :=
      (List.cons.inj (List.cons.inj (List.cons.inj heq).2).2).2
    match exchanges with
    | [] => simp at hrest
    | [exchange] =>
      exact ⟨ch, sh, ske, shd, exchange, clientFinished, serverFinished, rfl, hch, hsh, hske, hshd,
        hall exchange (by simp), hfinished, hserverFinished⟩
    | _ :: _ :: _ => simp at hrest
  | first :: second :: third :: body =>
    obtain rfl : third = shd := (List.cons.inj (List.cons.inj (List.cons.inj heq).2).2).1
    rcases hbody third (by simp) with h | h <;> cases h.symm.trans hshd

theorem clientStart_emptyTranscript {pskc : Bytes} {rng : C.Rng} {client : ClientState C}
    (h : ClientState.start pskc rng = .ok client) : client.handshake.transcript.messages = [] := by
  obtain ⟨helloState, -, h⟩ := bind_eq_ok.mp h
  cases h
  rfl

/-- An accepted Finished that a server sealed is that server's Finished. -/
theorem accepted_eq_sealed {body plaintext : Bytes} {messages : List HandshakeMessage}
    {finished serverFinished : HandshakeMessage} (hbody : serverFinished.encode = .ok body)
    (hplaintext : plaintext = body)
    (hparse : parseMessages plaintext.length plaintext = .ok messages)
    (hmem : finished ∈ messages) : finished = serverFinished := by
  have hspell : spell [serverFinished] = .ok body := by
    simp [spell, HandshakeMessage.encode_eq_transcriptBytes hbody, bind, Except.bind, pure,
      Except.pure]
  rw [hplaintext, parseMessages_spell _ body hspell _ (Nat.le_refl _)] at hparse
  cases hparse
  exact List.mem_singleton.mp hmem

/-- **Matching handshakes.**  A client and a server both finish, each against arbitrary
    datagrams, timer expiries and send failures; the record in which the client found the
    Finished was sealed by that server's session, at the end of its handshake or in any
    operation after it.  Then the two transcripts are the same seven messages. -/
theorem matching_handshakes {E E' : Type} {C : Crypto} (hinj : VerifyDataInjective C)
    {setup : ClientSetup E} {pskc : Bytes} {rng : C.Rng} {clientInputs : List (Input E)}
    {client client' : ClientState C} {session : SessionState}
    (hstart : ClientState.start pskc rng = .ok client)
    (hconnect : connectInner setup clientInputs client = .ok session client')
    {sendFails : Nat → Option E'} {serverPskc : Bytes} {serverRng : C.Rng}
    {serverInputs : List (Input E')} {hello : CookieHello} {accepted : Accepted}
    {server : AcceptState C}
    (haccept : acceptInner sendFails serverPskc serverRng serverInputs
      = .committed hello (.ok accepted server))
    {honest : List Protected} (haead : OpensOnlyHonest honest session)
    (ops : List (ServerOp E'))
    (hfrom : ∀ e ∈ honest, session.opened.getLast? = some e →
      e ∈ (DtlsServerSession.runOps C sendFails accepted.peer
        (DtlsServerSession.ofAccepted accepted server.sent) ops).state.released) :
    client'.handshake.transcript.messages = server.handshake.transcript.messages ∧
      SevenMessages client'.handshake.transcript.messages := by
  -- each side's transcript, by its own run
  obtain ⟨t, keyExchange, clientFinished, messages, hflight, hmessages, -, -, opened,
    parsed, finished, hopened, htype, hparse, hmem, hvalue, hclient⟩ :=
    of_wp_ok (connectInner_transcript setup clientInputs client
      (clientStart_emptyTranscript hstart)) hconnect
  obtain ⟨serverRng', serverInputs', sent, hrun⟩ := acceptInner_committed haccept
  obtain ⟨t', before, clientFinished', serverFinished, masterSecret, hbefore, hmessages', hfinished,
    hserverFinished, hvalue', hserver, hbody, honly⟩ :=
    of_wp_ok (acceptHello_transcript sendFails hello serverInputs'
      (AcceptState.start serverPskc serverRng' hello sent) rfl) hrun
  -- the record the client opened is one of the server's Finished records
  have hsealed := hfrom opened (haead opened (List.mem_of_getLast? hopened)) hopened
  have hseals := serverRunOps_sealsOnly (C := C) sendFails accepted.peer ops
    (DtlsServerSession.ofAccepted accepted server.sent) ⟨honly, fun _ => rfl⟩
  obtain rfl := accepted_eq_sealed hbody (hseals.released opened hsealed htype) hparse hmem
  -- so both computed the same value, over the same bytes
  obtain ⟨-, -, hbytes⟩ := hinj _ _ _ _ _ _ _ hvalue hvalue'
  have hsame := HandshakeTranscript.messages_inj hbytes
  refine ⟨by rw [hclient, hserver, hsame], ?_⟩
  rw [hclient, hsame, hmessages']
  exact sevenMessages_of_shapes hflight hbefore hfinished hserverFinished
    (by rw [← hmessages, hsame, hmessages'])

/-- The transparent Finished value can be read back: the secret up to the zero byte, then the
    role, then the transcript. -/
theorem transparent_verifyDataInjective : VerifyDataInjective Crypto.transparent := by
  intro m m' role role' bytes bytes' value h h'
  have hspell : ∀ (m : Bytes) (role : FinishedRole) (bytes : Bytes),
      finishedVerifyData Crypto.transparent m role bytes
        = .ok (m.flatMap (fun byte => [1, byte]) ++ 0 :: role.label.headD 0 :: bytes) := by
    intro m role bytes
    cases role <;> rfl
  rw [hspell] at h h'
  have heq := Except.ok.inj (h.trans h'.symm)
  clear h h'
  induction m generalizing m' with
  | nil =>
    cases m' with
    | nil =>
      obtain ⟨hrole, hbytes⟩ : role.label.headD 0 = role'.label.headD 0 ∧
          Crypto.transparent.sha256 bytes = Crypto.transparent.sha256 bytes' := by simpa using heq
      refine ⟨rfl, ?_, hbytes⟩
      cases role <;> cases role' <;> first | rfl | exact absurd hrole (by decide)
    | cons byte m' => simp at heq
  | cons byte m ih =>
    cases m' with
    | nil => simp at heq
    | cons byte' m' =>
      simp only [List.flatMap_cons, List.cons_append, List.nil_append, List.cons.injEq,
        true_and] at heq
      obtain ⟨rfl, heq⟩ := heq
      obtain ⟨rfl, hrest⟩ := ih m' heq
      exact ⟨rfl, hrest⟩

/-- Whether both ends of the conversation finished, and the client opened nothing but records
    of the server's session. -/
def finishedTogether : Bool :=
  let (toClient, toServer) := Conversation.transparent.inputs 6
  match Conversation.transparent.client toClient, Conversation.transparent.server toServer with
  | .ok (.ok session _), .committed _ (.ok accepted _) =>
    decide (∀ e ∈ session.opened, e ∈ accepted.state.released)
  | _, _ => false

theorem matching_handshakes_transparent :
    ∃ (client client' : ClientState Crypto.transparent) (session : SessionState)
      (hello : CookieHello) (accepted : Accepted) (server : AcceptState Crypto.transparent),
      connectInner Conversation.transparent.setup (Conversation.transparent.inputs 6).1 client
        = .ok session client' ∧
      Conversation.transparent.server (Conversation.transparent.inputs 6).2
        = .committed hello (.ok accepted server) ∧
      client'.handshake.transcript.messages = server.handshake.transcript.messages := by
  have htogether : finishedTogether = true := by decide +kernel
  unfold finishedTogether at htogether
  dsimp only at htogether
  split at htogether
  · rename_i session client' hello accepted server hclient hserver
    obtain ⟨client, hstart, hconnect⟩ := bind_eq_ok.mp hclient
    have hconnect := Except.ok.inj hconnect
    have hopened := of_decide_eq_true htogether
    exact ⟨client, client', session, hello, accepted, server, hconnect, hserver,
      (matching_handshakes transparent_verifyDataInjective hstart hconnect hserver hopened []
        fun e he _ => he).1⟩
  · cases htogether

end Meshcop.Dtls
