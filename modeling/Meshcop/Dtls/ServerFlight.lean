/-
  Meshcop.Dtls.ServerFlight — what the client takes for the server's flight
  (`wait_for_server_flight` of `meshcop-dtls/src/client_driver.rs`).

  While it waits the client keeps every ServerHello and ServerKeyExchange that differs from
  what it has kept, and a ServerHelloDone ends the wait.  `offerInputs` says which messages the
  events offer it, by looking at message types alone; the client's flight is that list without
  repetitions.  So the flight has exactly the three messages of the profile when no second,
  different ServerHello or ServerKeyExchange is offered, and otherwise it has more.

  Main results:
    * `waitForServerFlight_spec`  — flight and transcript at the end of the wait;
    * `server_flight_exact_iff`   — the flight is the profile's exactly when the offer is;
    * `second_server_hello_taken` — a run in which it is not.
-/

import Meshcop.Dtls.ClientDriver

namespace Meshcop.Dtls

open Lib

variable {C : Crypto} {E : Type}

/-! ## §1. The offer. -/

/-- A message of the server's flight before its ServerHelloDone. -/
def FlightBody (message : HandshakeMessage) : Prop :=
  message.messageType = .serverHello ∨ message.messageType = .serverKeyExchange

/-- What the events have offered a wait so far: the ServerHellos, and the ServerKeyExchanges
    after the first of them, in order and with repetitions; and how many HelloVerifyRequests
    were answered. -/
structure Offer where
  body : List HandshakeMessage
  budget : DuplicateRetransmitBudget

def Offer.start : Offer := { body := [], budget := DuplicateRetransmitBudget.new }

/-- Whether a ServerKeyExchange was offered. -/
def Offer.keyed (offer : Offer) : Bool :=
  offer.body.any fun message => message.messageType = .serverKeyExchange

/-- What the messages of one record add, and whether the rest of the datagram is read. -/
def offerMessages : List HandshakeMessage → Offer → Turn × Offer
  | [], offer => (.proceed, offer)
  | message :: messages, offer =>
    match message.messageType with
    | .serverHello => offerMessages messages { offer with body := offer.body ++ [message] }
    | .serverKeyExchange =>
      if offer.body = [] then offerMessages messages offer
      else offerMessages messages { offer with body := offer.body ++ [message] }
    | .serverHelloDone => if offer.keyed then (.done, offer) else offerMessages messages offer
    | .helloVerifyRequest =>
      if offer.body ≠ [] then offerMessages messages offer
      else
        let (allowed, budget) := offer.budget.take
        if allowed then (.receive, { offer with budget })
        else offerMessages messages { offer with budget }
    | _ => offerMessages messages offer

/-- What the records of one datagram add. -/
def offerRecords : List DtlsRecord → Offer → Turn × Offer
  | [], offer => (.proceed, offer)
  | record :: records, offer =>
    match parseUnfragmentedHandshakeMessages record with
    | .error _ => offerRecords records offer
    | .ok messages =>
      let (turn, offer) := offerMessages messages offer
      match turn with
      | .proceed => offerRecords records offer
      | turn => (turn, offer)

/-- What the events offer until the wait is over. -/
def offerInputs (peer : SocketAddr) : List (Input E) → Offer → Offer
  | [], offer => offer
  | .datagram _ remote bytes :: inputs, offer =>
    match parsedDatagram (some peer) remote bytes with
    | none => offerInputs peer inputs offer
    | some records =>
      let (turn, offer) := offerRecords records offer
      match turn with
      | .done => offer
      | _ => offerInputs peer inputs offer
  | _ :: inputs, offer => offerInputs peer inputs offer

/-- No two different messages of one type are offered. -/
def Offer.Single (offer : Offer) : Prop :=
  ∀ m ∈ offer.body, ∀ m' ∈ offer.body, m.messageType = m'.messageType → m = m'

instance (offer : Offer) : Decidable offer.Single :=
  inferInstanceAs (Decidable (∀ m ∈ offer.body, ∀ m' ∈ offer.body,
    m.messageType = m'.messageType → m = m'))

/-! ## §2. The state of the wait. -/

/-- The transcript while the client waits: empty until the ClientHello is recorded, then that
    ClientHello and the messages taken from the server. -/
structure FlightSoFar (wait : FlightWait) (messages : List HandshakeMessage) : Prop where
  unrecorded : wait.recordedClientHello = false → messages = [] ∧ wait.serverFlight = []
  recorded : wait.recordedClientHello = true →
    wait.clientHelloMessage.messageType = .clientHello ∧
      messages = wait.clientHelloMessage :: wait.serverFlight
  body : ∀ m ∈ wait.serverFlight, FlightBody m

/-- The transcript once the server's flight is complete. -/
def FlightDone (messages : List HandshakeMessage) : Prop :=
  ∃ hello body done, messages = hello :: (body ++ [done]) ∧
    hello.messageType = .clientHello ∧ (∀ m ∈ body, FlightBody m) ∧
    done.messageType = .serverHelloDone

/-- Nothing has been recorded yet. -/
def EmptyTranscript (handshake : ThreadDtlsHandshake C) (_ : Option SessionState) : Prop :=
  handshake.transcript.messages = []

/-- `hello` is the ClientHello of the flight the client is sending. -/
def CurrentHello (hello : HandshakeMessage) (client : ClientState C) : Prop :=
  ∃ first rest, client.clientFlight = first :: rest ∧
    parseUnfragmentedHandshakeRecord first .clientHello = .ok hello

/-- `flight` is the offered body with its repetitions dropped. -/
structure Collects (body flight : List HandshakeMessage) : Prop where
  members : ∀ m, m ∈ flight ↔ m ∈ body
  nodup : flight.Nodup
  types : ∀ m ∈ flight, FlightBody m
  first : ∀ m, flight.head? = some m → m.messageType = .serverHello

/-- The wait has taken up what it was offered. -/
structure Waits (offer : Offer) (wait : FlightWait) (client : ClientState C) : Prop where
  transcript : FlightSoFar wait client.handshake.transcript.messages
  collects : Collects offer.body wait.serverFlight
  recorded : wait.recordedClientHello = true ↔ offer.body ≠ []
  budget : wait.duplicateRetransmissions = offer.budget
  current : CurrentHello wait.clientHelloMessage client

/-- The wait is over: the flight is what was offered and a ServerHelloDone, and the transcript
    is the current ClientHello and the flight. -/
structure Taken (offer : Offer) (flight : List HandshakeMessage) (client : ClientState C)
    (hello : HandshakeMessage) (body : List HandshakeMessage) (done : HandshakeMessage) :
    Prop where
  parts : flight = body ++ [done]
  collects : Collects offer.body body
  keyed : ∃ m ∈ body, m.messageType = .serverKeyExchange
  helloDone : done.messageType = .serverHelloDone
  transcript : client.handshake.transcript.messages = hello :: flight
  helloType : hello.messageType = .clientHello
  current : CurrentHello hello client

/-- How a loop over messages or records ends, compared with what it was offered. -/
def WaitTurn (expected : Turn × Offer) (result : Turn × FlightWait) (client : ClientState C) :
    Prop :=
  result.1 = expected.1 ∧
    match result.1 with
    | .done => ∃ hello body done, Taken expected.2 result.2.serverFlight client hello body done
    | _ => Waits expected.2 result.2 client

/-! ## §3. The current ClientHello. -/

theorem renumberClientFlight_current (hello : HandshakeMessage) :
    Keeps (CurrentHello (C := C) hello) (renumberClientFlight (E := E)) := by
  refine keeps_modify ?_
  rintro client ⟨first, rest, hflight, hparse⟩
  unfold CurrentHello
  simp only [hflight, renumberEpochZeroFlight]
  by_cases hepoch : first.header.epoch = 0
  · rw [if_pos hepoch]
    exact ⟨_, _, rfl, hparse⟩
  · rw [if_neg hepoch]
    exact ⟨_, _, rfl, hparse⟩

theorem sendClientFlight_current (setup : ClientSetup E) (hello : HandshakeMessage) :
    Keeps (CurrentHello (C := C) hello) (sendClientFlight setup) :=
  keeps_bind keeps_get fun _ => keeps_zoom fun _ _ h => h

theorem onHelloState_current {α : Type} (m : EStateM Error DtlsClientHelloState α)
    (hello : HandshakeMessage) : Keeps (CurrentHello (C := C) hello) (onHelloState (E := E) m) :=
  keeps_zoom fun _ _ h => h

/-- The ClientHello the client reads back is the current one. -/
theorem clientHelloOfFlight_current (client : ClientState C) : wp (clientHelloOfFlight (E := E))
      (fun hello client' => client' = client ∧ CurrentHello hello client') (fun _ _ => True)
      client := by
  simp only [clientHelloOfFlight, wp_bind, wp_get]
  split
  · trivial
  · rename_i first rest hflight
    exact wp_attempt.mpr ⟨fun hello hparse => ⟨rfl, first, rest, hflight, hparse⟩,
      fun _ _ => trivial⟩

/-! ## §4. One message. -/

variable {body flight : List HandshakeMessage} {message : HandshakeMessage}

/-- A repetition of what was taken changes nothing but the offer. -/
theorem Collects.repeated (h : Collects body flight) (hmem : message ∈ flight) :
    Collects (body ++ [message]) flight := by
  refine { h with members := ?_ }
  intro m
  rw [h.members, List.mem_append, List.mem_singleton]
  constructor
  · exact Or.inl
  · intro hm
    cases hm with
    | inl hold => exact hold
    | inr heq => exact heq ▸ (h.members message).mp hmem

/-- A new message of the body is taken up; the first one has to be a ServerHello. -/
theorem Collects.snoc (h : Collects body flight) (hnew : message ∉ flight)
    (htype : FlightBody message) (hfirst : flight = [] → message.messageType = .serverHello) :
    Collects (body ++ [message]) (flight ++ [message]) := by
  refine { members := ?_, nodup := ?_, types := ?_, first := ?_ }
  · intro m
    rw [List.mem_append, List.mem_append, h.members]
  · exact List.nodup_append.mpr ⟨h.nodup, List.nodup_singleton _, by
      intro a ha b hb heq
      rw [List.mem_singleton.mp hb] at heq
      exact hnew (heq ▸ ha)⟩
  · intro m hm
    cases List.mem_append.mp hm with
    | inl hold => exact h.types m hold
    | inr hlast => rw [List.mem_singleton.mp hlast]; exact htype
  · intro m hm
    cases flight with
    | nil =>
      rw [← Option.some.inj hm]
      exact hfirst rfl
    | cons first rest => exact h.first m hm

variable {wait : FlightWait}

/-- Taking one more message of the body, after the ClientHello was recorded. -/
theorem FlightSoFar.take {messages : List HandshakeMessage} (h : FlightSoFar wait messages)
    (hbody : FlightBody message) (hrec : wait.recordedClientHello = true) :
    FlightSoFar { wait with serverFlight := wait.serverFlight ++ [message] }
      (messages ++ [message]) := by
  obtain ⟨htype, hmessages⟩ := h.recorded hrec
  refine ⟨fun hfalse => ?_, fun _ => ⟨htype, by rw [hmessages]; rfl⟩, fun m hm => ?_⟩
  · cases hrec.symm.trans hfalse
  · rcases List.mem_append.mp hm with hm | hm
    · exact h.body m hm
    · rw [List.mem_singleton.mp hm]
      exact hbody

variable {offer : Offer} {client : ClientState C}

/-- A wait that has taken nothing yet, whatever ClientHello it is on. -/
theorem Waits.unstarted (hoffer : offer.body = []) (hrecorded : wait.recordedClientHello = false)
    (hflight : wait.serverFlight = []) (hbudget : wait.duplicateRetransmissions = offer.budget)
    (hempty : EmptyTranscript client.handshake client.session)
    (hcurrent : CurrentHello wait.clientHelloMessage client) : Waits offer wait client :=
  { transcript := ⟨fun _ => ⟨hempty, hflight⟩,
      fun htrue => absurd (hrecorded.symm.trans htrue) Bool.false_ne_true, by simp [hflight]⟩
    collects := { members := by simp [hoffer, hflight], nodup := by simp [hflight]
                  types := by simp [hflight], first := by simp [hflight] }
    recorded := by simp [hoffer, hrecorded]
    budget := hbudget
    current := hcurrent }

/-- Recording the ClientHello, if it was not recorded yet. -/
theorem recordOnce_spec (wait : FlightWait) (client : ClientState C)
    (h : FlightSoFar wait client.handshake.transcript.messages) :
    wp (onlyIf (!wait.recordedClientHello)
        (onHandshake (E := E) (ThreadDtlsHandshake.recordClientHello wait.clientHelloMessage)))
      (fun _ client' => FlightSoFar { wait with recordedClientHello := true }
          client'.handshake.transcript.messages ∧ client'.clientFlight = client.clientFlight)
      (fun _ _ => True) client := by
  obtain ⟨hunrec, hrec, hbody⟩ := h
  unfold onlyIf
  split
  · rename_i hfalse
    obtain ⟨hempty, hflight⟩ := hunrec (by simpa using hfalse)
    rw [onHandshake, wp_zoom]
    refine wp_mono_ok (ThreadDtlsHandshake.recordClientHello_spec client.handshake) ?_
    rintro _ handshake ⟨htype, happ⟩
    refine ⟨⟨(fun h => by cases h), fun _ => ⟨htype, ?_⟩, hbody⟩, rfl⟩
    show handshake.transcript.messages = _
    rw [happ, hempty, hflight]
    rfl
  · rename_i htrue
    exact ⟨⟨(fun h => by cases h), fun _ => hrec (by simpa using htrue), hbody⟩, rfl⟩

/-- The wait and the offer agree on whether a ServerKeyExchange is there. -/
theorem Waits.any_keyExchange (h : Waits offer wait client) :
    wait.serverFlight.any (fun message => message.messageType = .serverKeyExchange)
      = offer.keyed := by
  unfold Offer.keyed
  rw [Bool.eq_iff_iff, List.any_eq_true, List.any_eq_true]
  constructor
  · rintro ⟨m, hm, htype⟩
    exact ⟨m, (h.collects.members m).mp hm, htype⟩
  · rintro ⟨m, hm, htype⟩
    exact ⟨m, (h.collects.members m).mpr hm, htype⟩

/-- A message that was taken before is offered once more. -/
theorem offerMessages_repeated (h : Waits offer wait client) (hmem : message ∈ wait.serverFlight)
    (messages : List HandshakeMessage) : offerMessages (message :: messages) offer
      = offerMessages messages { offer with body := offer.body ++ [message] } := by
  have hbody : offer.body ≠ [] := List.ne_nil_of_mem ((h.collects.members message).mp hmem)
  cases h.collects.types message hmem with
  | inl htype => simp only [offerMessages, htype]
  | inr htype => simp only [offerMessages, htype, hbody, if_false]

/-- A HelloVerifyRequest before the ServerHello: with its cookie taken up or not, the client
    sends its flight again and has still taken nothing. -/
theorem answerHelloVerify_spec (setup : ClientSetup E) (record : DtlsRecord)
    (hbody : offer.body = []) (hrec : wait.recordedClientHello = false)
    (hflight : wait.serverFlight = []) (hempty : EmptyTranscript client.handshake client.session)
    (hcurrent : CurrentHello wait.clientHelloMessage client) {budget : DuplicateRetransmitBudget} :
    wp (answerHelloVerify setup record { wait with duplicateRetransmissions := budget })
      (fun r client' => WaitTurn (.receive, { offer with budget }) r client')
      (fun _ _ => True) client := by
  have hstart : EmptyTranscript client.handshake client.session ∧
      CurrentHello wait.clientHelloMessage client := ⟨hempty, hcurrent⟩
  refine wp_bind_of_keeps hstart
    (keeps_caught (keeps_and (onHelloState_frame _) (onHelloState_current _ _)))
    (fun _ _ _ => trivial) ?_
  rintro taken client ⟨hempty, hcurrent⟩
  split
  · -- the cookie is taken up: a new ClientHello becomes the current one
    refine wp_bind_of_keeps (I := fun client => EmptyTranscript client.handshake client.session)
      hempty nextClientHelloFlight_frame (fun _ _ _ => trivial) ?_
    intro _ client hempty
    refine wp_seq_ok (clientHelloOfFlight_current client) ?_
    rintro hello client' ⟨hsame, hcurrent⟩
    rw [hsame] at hcurrent ⊢
    have hboth : EmptyTranscript client.handshake client.session ∧ CurrentHello hello client :=
      ⟨hempty, hcurrent⟩
    refine wp_bind_of_keeps hboth
      (keeps_and (sendClientFlight_frame setup) (sendClientFlight_current setup hello))
      (fun _ _ _ => trivial) ?_
    rintro _ client ⟨hempty, hcurrent⟩
    exact ⟨rfl, Waits.unstarted hbody hrec hflight rfl hempty hcurrent⟩
  · have hboth : EmptyTranscript client.handshake client.session ∧
        CurrentHello wait.clientHelloMessage client := ⟨hempty, hcurrent⟩
    refine wp_bind_of_keeps hboth
      (keeps_and renumberClientFlight_frame (renumberClientFlight_current _))
      (fun _ _ _ => trivial) ?_
    intro _ client hboth
    refine wp_bind_of_keeps hboth
      (keeps_and (sendClientFlight_frame setup) (sendClientFlight_current setup _))
      (fun _ _ _ => trivial) ?_
    rintro _ client ⟨hempty, hcurrent⟩
    exact ⟨rfl, Waits.unstarted hbody hrec hflight rfl hempty hcurrent⟩

section Taking

variable {offer : Offer} {wait : FlightWait} {client : ClientState C} {message : HandshakeMessage}

/-- A ServerHello is taken, behind the ClientHello. -/
theorem Waits.serverHello (h : Waits offer wait client) (hnew : message ∉ wait.serverFlight)
    (htype : message.messageType = .serverHello) : wp (onlyIf (!wait.recordedClientHello)
        (onHandshake (E := E) (ThreadDtlsHandshake.recordClientHello wait.clientHelloMessage)))
      (fun _ client' => wp (onHandshake (E := E) (ThreadDtlsHandshake.handleServerHello message))
        (fun _ client'' => Waits { offer with body := offer.body ++ [message] }
          { wait with recordedClientHello := true, serverFlight := wait.serverFlight ++ [message] }
          client'')
        (fun _ _ => True) client')
      (fun _ _ => True) client := by
  refine wp_mono_ok (recordOnce_spec wait client h.transcript) ?_
  rintro _ client' ⟨htranscript, hflight⟩
  rw [onHandshake, wp_zoom]
  refine wp_mono_ok (ThreadDtlsHandshake.handleServerHello_spec client'.handshake) ?_
  rintro _ handshake ⟨-, happ⟩
  refine { transcript := ?_, collects := ?_, recorded := ?_, budget := h.budget, current := ?_ }
  · show FlightSoFar _ handshake.transcript.messages
    rw [happ]
    exact htranscript.take (Or.inl htype) rfl
  · exact h.collects.snoc hnew (Or.inl htype) (fun _ => htype)
  · simp
  · obtain ⟨first, rest, hclient, hparse⟩ := h.current
    exact ⟨first, rest, hflight.trans hclient, hparse⟩

/-- A ServerKeyExchange is taken after a ServerHello. -/
theorem Waits.serverKeyExchange (h : Waits offer wait client) (hnew : message ∉ wait.serverFlight)
    (htype : message.messageType = .serverKeyExchange) (hbody : offer.body ≠ []) :
    wp (onHandshake (E := E) (ThreadDtlsHandshake.handleServerKeyExchange message))
      (fun _ client' => Waits { offer with body := offer.body ++ [message] }
        { wait with serverFlight := wait.serverFlight ++ [message] } client')
      (fun _ _ => True) client := by
  have hrec : wait.recordedClientHello = true := h.recorded.mpr hbody
  rw [onHandshake, wp_zoom]
  refine wp_mono_ok (ThreadDtlsHandshake.handleServerKeyExchange_spec client.handshake) ?_
  rintro _ handshake ⟨-, happ⟩
  refine { transcript := ?_, collects := ?_, recorded := ?_, budget := h.budget
           current := h.current }
  · show FlightSoFar _ handshake.transcript.messages
    rw [happ]
    exact h.transcript.take (Or.inr htype) hrec
  · refine h.collects.snoc hnew (Or.inr htype) fun hnil => absurd ?_ hbody
    have hnone : ∀ m, m ∉ offer.body := by
      intro m hm
      rw [← h.collects.members, hnil] at hm
      exact List.not_mem_nil hm
    exact List.eq_nil_iff_forall_not_mem.mpr hnone
  · simp [hrec]

/-- Where a ServerKeyExchange was taken, the ClientHello is recorded. -/
theorem Waits.isRecorded (h : Waits offer wait client) (hkeyed : offer.keyed = true) :
    wait.recordedClientHello = true := by
  obtain ⟨exchange, hexchange, -⟩ := List.any_eq_true.mp hkeyed
  exact h.recorded.mpr (List.ne_nil_of_mem hexchange)

/-- A ServerHelloDone ends the wait once a ServerKeyExchange was taken. -/
theorem Waits.serverHelloDone (h : Waits offer wait client) (hkeyed : offer.keyed = true) :
    wp (onHandshake (E := E) (ThreadDtlsHandshake.handleServerHelloDone message))
      (fun _ client' => WaitTurn (.done, offer)
        (.done, { wait with serverFlight := wait.serverFlight ++ [message] }) client')
      (fun _ _ => True) client := by
  obtain ⟨exchange, hexchange, hexchangeType⟩ := List.any_eq_true.mp hkeyed
  rw [onHandshake, wp_zoom]
  refine wp_mono_ok (ThreadDtlsHandshake.handleServerHelloDone_spec client.handshake) ?_
  rintro _ handshake ⟨hdone, happ⟩
  obtain ⟨hhello, hmessages⟩ := h.transcript.recorded (h.isRecorded hkeyed)
  refine ⟨rfl, wait.clientHelloMessage, wait.serverFlight, message,
    { parts := rfl, collects := h.collects, keyed := ?_, helloDone := hdone
      transcript := ?_, helloType := hhello, current := h.current }⟩
  · exact ⟨exchange, (h.collects.members exchange).mpr hexchange, of_decide_eq_true hexchangeType⟩
  · show handshake.transcript.messages = _
    rw [happ, hmessages]
    rfl

end Taking

/-- **The messages of one record** are taken up as they are offered. -/
theorem serverFlightMessages_spec (setup : ClientSetup E) (record : DtlsRecord)
    (messages : List HandshakeMessage) (offer : Offer) (wait : FlightWait)
    (client : ClientState C) (h : Waits offer wait client) :
    wp (serverFlightMessages setup record messages wait)
      (fun r client' => WaitTurn (offerMessages messages offer) r client')
      (fun _ _ => True) client := by
  induction messages generalizing offer wait client with
  | nil => exact ⟨rfl, h⟩
  | cons message messages ih =>
    unfold serverFlightMessages
    split
    · rename_i hmem
      rw [offerMessages_repeated h hmem]
      refine ih _ wait client { h with collects := h.collects.repeated hmem, recorded := ?_ }
      have hbody : offer.body ≠ [] := List.ne_nil_of_mem ((h.collects.members message).mp hmem)
      simp [h.recorded, hbody]
    · rename_i hnew
      split
      · -- ServerHello: the ClientHello is recorded first
        rename_i htype
        simp only [offerMessages, htype]
        refine wp_seq_ok (h.serverHello hnew htype) (fun _ client' htaken => ?_)
        exact wp_seq_ok htaken (fun _ client h => ih _ _ client h)
      · -- ServerKeyExchange: only after a ServerHello
        rename_i htype
        by_cases hbody : offer.body = []
        · have hrec : wait.recordedClientHello = false :=
            Bool.eq_false_iff.mpr fun htrue => h.recorded.mp htrue hbody
          have hoffer : offerMessages (message :: messages) offer = offerMessages messages offer := by
            simp only [offerMessages, htype, hbody, if_true]
          rw [if_pos (by simp [hrec]), hoffer]
          exact ih offer wait client h
        · have hrec : wait.recordedClientHello = true := h.recorded.mpr hbody
          have hoffer : offerMessages (message :: messages) offer
              = offerMessages messages { offer with body := offer.body ++ [message] } := by
            simp only [offerMessages, htype, hbody, if_false]
          rw [if_neg (by simp [hrec]), hoffer]
          exact wp_seq_ok (h.serverKeyExchange hnew htype hbody) (fun _ client h => ih _ _ client h)
      · -- ServerHelloDone ends the wait once a ServerKeyExchange was taken
        rename_i htype
        dsimp only
        rw [h.any_keyExchange]
        by_cases hkeyed : offer.keyed = true
        · have hoffer : offerMessages (message :: messages) offer = (.done, offer) := by
            simp only [offerMessages, htype, hkeyed, if_true]
          rw [if_neg (by simp [h.isRecorded hkeyed, hkeyed]), hoffer]
          exact wp_seq_ok (h.serverHelloDone hkeyed) (fun _ _ h => h)
        · have hoffer : offerMessages (message :: messages) offer = offerMessages messages offer := by
            simp only [offerMessages, htype, hkeyed, Bool.false_eq_true, if_false]
          rw [if_pos (by simp [hkeyed]), hoffer]
          exact ih offer wait client h
      · -- HelloVerifyRequest: only before the ServerHello, and the transcript stays empty
        rename_i htype
        by_cases hbody : offer.body = []
        · have hrec : wait.recordedClientHello = false :=
            Bool.eq_false_iff.mpr fun htrue => h.recorded.mp htrue hbody
          obtain ⟨hempty, hflight⟩ :
            EmptyTranscript client.handshake client.session ∧ wait.serverFlight = [] :=
              h.transcript.unrecorded hrec
          rw [if_neg (by simp [hrec])]
          dsimp only
          rw [h.budget]
          by_cases hallowed : offer.budget.take.1 = true
          · have hoffer : offerMessages (message :: messages) offer
                = (.receive, { offer with budget := offer.budget.take.2 }) := by
              simp only [offerMessages, htype, hbody, ne_eq, not_true, if_false, hallowed, if_true]
            rw [if_neg (by simp [hallowed]), hoffer]
            exact answerHelloVerify_spec setup record hbody hrec hflight hempty h.current
          · have hoffer : offerMessages (message :: messages) offer
                = offerMessages messages { offer with budget := offer.budget.take.2 } := by
              simp only [offerMessages, htype, hbody, ne_eq, not_true, if_false, hallowed,
                Bool.false_eq_true]
            rw [if_pos (by simp [hallowed]), hoffer]
            exact ih _ _ client (Waits.unstarted hbody hrec hflight rfl hempty h.current)
        · have hrec : wait.recordedClientHello = true := h.recorded.mpr hbody
          have hoffer : offerMessages (message :: messages) offer = offerMessages messages offer := by
            simp only [offerMessages, htype, ne_eq, hbody, not_false_iff, if_true]
          rw [if_pos hrec, hoffer]
          exact ih offer wait client h
      · trivial

/-! ## §5. Records and events. -/

/-- **The records of one datagram.** -/
theorem serverFlightRecords_spec (setup : ClientSetup E) (records : List DtlsRecord)
    (offer : Offer) (wait : FlightWait) (client : ClientState C) (h : Waits offer wait client) :
    wp (serverFlightRecords setup records wait)
      (fun r client' => WaitTurn (offerRecords records offer) r client')
      (fun _ _ => True) client := by
  induction records generalizing offer wait client with
  | nil => exact ⟨rfl, h⟩
  | cons record records ih =>
    -- a record of another type offers nothing
    have hother : record.header.contentType ≠ .handshake →
        offerRecords (record :: records) offer = offerRecords records offer := by
      intro htype
      simp only [offerRecords, parseUnfragmentedHandshakeMessages, htype, ne_eq, not_false_iff,
        if_true]
    unfold serverFlightRecords
    split
    · split
      · rename_i e hparse
        have hoffer : offerRecords (record :: records) offer = offerRecords records offer := by
          simp only [offerRecords, hparse]
        rw [hoffer]
        exact ih offer wait client h
      · rename_i messages hparse
        refine wp_seq_ok (serverFlightMessages_spec setup record messages offer wait client h) ?_
        rintro ⟨turn, wait⟩ client ⟨hturn, hrest⟩
        have hoffer : offerRecords (record :: records) offer
            = match (offerMessages messages offer).1 with
              | .proceed => offerRecords records (offerMessages messages offer).2
              | turn => (turn, (offerMessages messages offer).2) := by
          simp only [offerRecords, hparse]
        rw [hoffer, ← hturn]
        cases turn with
        | proceed => exact ih _ wait client hrest
        | receive => exact ⟨rfl, hrest⟩
        | done => exact ⟨rfl, hrest⟩
    · trivial
    · rename_i hhandshake halert
      rw [hother hhandshake]
      exact ih offer wait client h

/-- **The wait for the server's flight.**  Whatever the events, a wait that ends has taken
    exactly what it was offered, and the transcript is the current ClientHello followed by
    the flight. -/
theorem waitForServerFlight_spec (setup : ClientSetup E) (inputs : List (Input E))
    (offer : Offer) (wait : FlightWait) (client : ClientState C) (h : Waits offer wait client) :
    wp (waitForServerFlight setup inputs wait) (fun r client' => ∃ hello body done,
        Taken (offerInputs setup.peer inputs offer) r.1 client' hello body done)
      (fun _ _ => True) client := by
  induction inputs generalizing offer wait client with
  | nil => trivial
  | cons input inputs ih =>
    cases input with
    | expired =>
      unfold waitForServerFlight
      -- a retransmission touches neither the transcript nor the current ClientHello
      have hkept : ∀ client' : ClientState C,
          client'.handshake.transcript = client.handshake.transcript ∧
            CurrentHello wait.clientHelloMessage client' → Waits offer wait client' := by
        rintro client' ⟨htranscript, hcurrent⟩
        exact { h with transcript := htranscript ▸ h.transcript, current := hcurrent }
      refine wp_bind_of_keeps (s := client) ⟨rfl, h.current⟩ (keeps_and (renumberClientFlight_frame
          (P := fun handshake _ => handshake.transcript = client.handshake.transcript))
          (renumberClientFlight_current _))
        (fun _ _ _ => trivial) ?_
      intro _ client₁ h₁
      refine wp_bind_of_keeps h₁ (keeps_and (sendClientFlight_frame
          (P := fun handshake _ => handshake.transcript = client.handshake.transcript) setup)
          (sendClientFlight_current setup _))
        (fun _ _ _ => trivial) ?_
      intro _ client₂ h₂
      exact ih offer wait client₂ (hkept client₂ h₂)
    | failed error => trivial
    | deadline => trivial
    | datagram localAddr remote bytes =>
      unfold waitForServerFlight
      split
      · rename_i hparse
        have hoffer : offerInputs setup.peer (.datagram localAddr remote bytes :: inputs) offer
            = offerInputs setup.peer inputs offer := by
          simp only [offerInputs, hparse]
        rw [hoffer]
        exact ih offer wait client h
      · rename_i records hparse
        refine wp_seq_ok (serverFlightRecords_spec setup records offer wait client h) ?_
        rintro ⟨turn, wait⟩ client ⟨hturn, hrest⟩
        have hoffer : offerInputs setup.peer (.datagram localAddr remote bytes :: inputs) offer
            = match (offerRecords records offer).1 with
              | .done => (offerRecords records offer).2
              | _ => offerInputs setup.peer inputs (offerRecords records offer).2 := by
          simp only [offerInputs, hparse]
        rw [hoffer, ← hturn]
        cases turn with
        | proceed => exact ih _ wait client hrest
        | receive => exact ih _ wait client hrest
        | done => exact hrest

/-- The shape of the transcript once the wait is over. -/
theorem Taken.flightDone {hello done : HandshakeMessage}
    (h : Taken offer flight client hello body done) :
    FlightDone client.handshake.transcript.messages :=
  ⟨hello, body, done, h.transcript.trans (congrArg _ h.parts), h.helloType, h.collects.types,
    h.helloDone⟩

/-! ## §6. When the flight is the profile's. -/

/-- A flight without repetitions that starts with a ServerHello and has a ServerKeyExchange
    consists of just these two exactly when no type occurs twice. -/
theorem Collects.pair_iff (h : Collects body flight)
    (hkeyed : ∃ m ∈ flight, m.messageType = .serverKeyExchange) :
    (∃ serverHello keyExchange, flight = [serverHello, keyExchange] ∧
        serverHello.messageType = .serverHello ∧ keyExchange.messageType = .serverKeyExchange) ↔
      ∀ m ∈ body, ∀ m' ∈ body, m.messageType = m'.messageType → m = m' := by
  constructor
  · rintro ⟨serverHello, keyExchange, hflight, hhello, hexchange⟩ m hm m' hm' hsame
    rw [← h.members, hflight, List.mem_pair] at hm hm'
    rcases hm with rfl | rfl <;> rcases hm' with rfl | rfl
    · rfl
    · rw [hhello, hexchange] at hsame
      cases hsame
    · rw [hhello, hexchange] at hsame
      cases hsame
    · rfl
  · intro hsingle
    obtain ⟨keyExchange, hmem, hexchange⟩ := hkeyed
    cases flight with
    | nil => cases hmem
    | cons serverHello rest =>
      have hhello : serverHello.messageType = .serverHello := h.first serverHello rfl
      have hsame : ∀ m ∈ serverHello :: rest, ∀ m' ∈ serverHello :: rest,
          m.messageType = m'.messageType → m = m' := by
        intro m hm m' hm'
        exact hsingle m ((h.members m).mp hm) m' ((h.members m').mp hm')
      obtain ⟨hfresh, hnodup⟩ := List.nodup_cons.mp h.nodup
      -- what follows the ServerHello can only be the one ServerKeyExchange
      have hrest : ∀ m ∈ rest, m = keyExchange := by
        intro m hm
        have hm' := List.mem_cons_of_mem serverHello hm
        cases h.types m hm' with
        | inl htype =>
          have heq := hsame m hm' serverHello List.mem_cons_self (htype.trans hhello.symm)
          exact absurd (heq ▸ hm) hfresh
        | inr htype => exact hsame m hm' keyExchange hmem (htype.trans hexchange.symm)
      have hlater : keyExchange ∈ rest := by
        cases List.mem_cons.mp hmem with
        | inl heq =>
          rw [heq, hhello] at hexchange
          cases hexchange
        | inr hlater => exact hlater
      refine ⟨serverHello, keyExchange, ?_, hhello, hexchange⟩
      rw [List.eq_replicate_of_mem hrest] at hnodup hlater ⊢
      have hlen : rest.length = 1 := by
        have hpos : rest.length ≠ 0 := by
          intro hzero
          rw [hzero] at hlater
          cases hlater
        have hle := List.nodup_replicate.mp hnodup
        omega
      rw [hlen]
      rfl

/-- The flight is one ServerHello, one ServerKeyExchange and one ServerHelloDone, and the
    transcript is the current ClientHello and these three. -/
def ExactFlight (flight : List HandshakeMessage) (client : ClientState C) : Prop :=
  ∃ hello serverHello keyExchange helloDone,
    flight = [serverHello, keyExchange, helloDone] ∧
    serverHello.messageType = .serverHello ∧ keyExchange.messageType = .serverKeyExchange ∧
    helloDone.messageType = .serverHelloDone ∧
    CurrentHello hello client ∧ hello.messageType = .clientHello ∧
    client.handshake.transcript.messages = [hello, serverHello, keyExchange, helloDone]

/-- The wait as the handshake starts it. -/
def FlightWait.start (hello : HandshakeMessage) : FlightWait :=
  { clientHelloMessage := hello, duplicateRetransmissions := DuplicateRetransmitBudget.new
    recordedClientHello := false, serverFlight := [] }

/-- **When the client's flight is the profile's.**  Started, as the handshake starts it, with
    an empty transcript and on the ClientHello it has sent, a wait that returns has the exact
    flight and transcript if and only if the events offer no second, different ServerHello
    and no second, different ServerKeyExchange before the flight is complete. -/
theorem server_flight_exact_iff (setup : ClientSetup E) (inputs : List (Input E))
    {client client' : ClientState C} {hello : HandshakeMessage} {flight : List HandshakeMessage}
    {rest : List (Input E)} (hempty : client.handshake.transcript.messages = [])
    (hhello : CurrentHello hello client)
    (hok : waitForServerFlight setup inputs (FlightWait.start hello) client
      = .ok (flight, rest) client') :
    ExactFlight flight client' ↔ (offerInputs setup.peer inputs Offer.start).Single := by
  have hwaits : Waits Offer.start (FlightWait.start hello) client :=
    Waits.unstarted rfl rfl rfl rfl hempty hhello
  obtain ⟨current, body, done, htaken⟩ :=
    of_wp_ok (waitForServerFlight_spec setup inputs Offer.start _ client hwaits) hok
  have hflight : flight = body ++ [done] := htaken.parts
  unfold Offer.Single
  rw [← htaken.collects.pair_iff htaken.keyed]
  constructor
  · rintro ⟨_, serverHello, keyExchange, helloDone, hexact, hserver, hexchange, -⟩
    rw [hflight] at hexact
    have hsplit : body ++ [done] = [serverHello, keyExchange] ++ [helloDone] := hexact
    exact ⟨serverHello, keyExchange, (List.append_inj' hsplit rfl).1, hserver, hexchange⟩
  · rintro ⟨serverHello, keyExchange, hbody, hserver, hexchange⟩
    have hexact : flight = [serverHello, keyExchange, done] := by
      rw [hflight, hbody]
      rfl
    refine ⟨current, serverHello, keyExchange, done, hexact, hserver, hexchange,
      htaken.helloDone, htaken.current, htaken.helloType, ?_⟩
    rw [← hexact]
    exact htaken.transcript

/-! ## §7. A second ServerHello. -/

/-- A client that has sent its ClientHello. -/
def helloSentClient : ClientState Crypto.transparent :=
  after (nextClientHelloFlight (E := Unit))
    { rng := (), handshake := (ThreadDtlsHandshake.new [] ()).1
      helloState := DtlsClientHelloState.withEcjpakeKkpp (List.replicate 32 7) []
      nextEpochZeroRecord := 0, clientFlight := [], session := none, sent := [] }

def helloSent : HandshakeMessage :=
  { messageType := .clientHello, messageSeq := 0
    payload := (ClientHello.threadProfileWithEcjpake (List.replicate 32 7) [] []).encode.toOption.getD
      [] }

/-- A ServerHello whose random repeats one byte. -/
def serverHelloWith (byte : UInt8) : HandshakeMessage :=
  { messageType := .serverHello, messageSeq := 1
    payload := (ServerHello.encode
      { random := List.replicate 32 byte, sessionId := []
        cipherSuite := TLS_ECJPAKE_WITH_AES_128_CCM_8, compressionMethod := TLS_COMPRESSION_NULL
        extensions := [{ extensionType := EXTENSION_ECJPAKE_KKPP, data := [] }] }).toOption.getD [] }

/-- A datagram with the messages in one record, as an input. -/
def flightInput (messages : List HandshakeMessage) : Input Unit :=
  let payload := messages.flatMap fun message => message.encode.toOption.getD []
  let bytes := (DtlsRecord.new .handshake 0 1 payload).toOption.bind fun record =>
    (DtlsRecord.encodeDatagram [record]).toOption
  .datagram { ip := [], port := 2 } { ip := [], port := 1 } (bytes.getD [])

/-- The client's setup with the server at the address the inputs come from. -/
def flightSetup : ClientSetup Unit :=
  { peer := { ip := [], port := 1 }, sendFails := fun _ => none }

theorem helloSent_current : CurrentHello helloSent helloSentClient := by
  have hparse : (helloSentClient.clientFlight.head?.map fun first =>
      parseUnfragmentedHandshakeRecord first .clientHello) = some (.ok helloSent) := by
    decide +kernel
  unfold CurrentHello
  cases hflight : helloSentClient.clientFlight with
  | nil =>
    rw [hflight] at hparse
    cases hparse
  | cons first rest =>
    rw [hflight] at hparse
    exact ⟨first, rest, rfl, Option.some.inj hparse⟩

/-- What a wait returned, as message types: the flight and the transcript. -/
def waitTypes (inputs : List (Input Unit)) : Option (List HandshakeType × List HandshakeType) :=
  match waitForServerFlight flightSetup inputs (FlightWait.start helloSent) helloSentClient with
  | .ok (flight, _) client =>
    some (flight.map HandshakeMessage.messageType,
      client.handshake.transcript.messages.map HandshakeMessage.messageType)
  | .error _ _ => none

/-- A wait whose types are known did return. -/
theorem exists_of_waitTypes {inputs : List (Input Unit)} {flightTypes types : List HandshakeType}
    (h : waitTypes inputs = some (flightTypes, types)) :
    ∃ flight rest client, waitForServerFlight flightSetup inputs (FlightWait.start helloSent)
        helloSentClient = .ok (flight, rest) client ∧
      flight.map HandshakeMessage.messageType = flightTypes ∧
      client.handshake.transcript.messages.map HandshakeMessage.messageType = types := by
  unfold waitTypes at h
  split at h
  · rename_i flight rest client hrun
    obtain ⟨hflight, htypes⟩ := Prod.mk.inj (Option.some.inj h)
    exact ⟨flight, rest, client, hrun, hflight, htypes⟩
  · cases h

/-- **A second ServerHello is taken up.**  Two ServerHellos with different randoms, a
    ServerKeyExchange and a ServerHelloDone in one datagram: the wait returns a flight of four
    messages and the transcript has both ServerHellos. -/
theorem second_server_hello_taken :
    ∃ flight rest client,
      waitForServerFlight flightSetup
          [flightInput [serverHelloWith 8, serverHelloWith 9, ⟨.serverKeyExchange, 2, [3]⟩,
            ⟨.serverHelloDone, 3, []⟩]] (FlightWait.start helloSent) helloSentClient
        = .ok (flight, rest) client ∧
      client.handshake.transcript.messages.map HandshakeMessage.messageType
        = [.clientHello, .serverHello, .serverHello, .serverKeyExchange, .serverHelloDone] ∧
      ¬ ExactFlight flight client := by
  have hreturned : waitTypes
      [flightInput [serverHelloWith 8, serverHelloWith 9, ⟨.serverKeyExchange, 2, [3]⟩,
        ⟨.serverHelloDone, 3, []⟩]]
      = some ([.serverHello, .serverHello, .serverKeyExchange, .serverHelloDone],
        [.clientHello, .serverHello, .serverHello, .serverKeyExchange, .serverHelloDone]) := by
    decide +kernel
  obtain ⟨flight, rest, client, hrun, hflight, htypes⟩ := exists_of_waitTypes hreturned
  refine ⟨flight, rest, client, hrun, htypes, ?_⟩
  rintro ⟨_, serverHello, keyExchange, helloDone, rfl, -⟩
  have hlen := congrArg List.length hflight
  cases hlen

/-- A repeated ServerHello is not a second one: the flight is exact. -/
theorem server_flight_exact_iff_repeated :
    ∃ flight rest client,
      waitForServerFlight flightSetup
          [flightInput [serverHelloWith 8, serverHelloWith 8, ⟨.serverKeyExchange, 2, [3]⟩],
            .expired, flightInput [⟨.serverKeyExchange, 2, [3]⟩, ⟨.serverHelloDone, 3, []⟩]]
          (FlightWait.start helloSent) helloSentClient = .ok (flight, rest) client ∧
      ExactFlight flight client := by
  have hreturned : waitTypes
      [flightInput [serverHelloWith 8, serverHelloWith 8, ⟨.serverKeyExchange, 2, [3]⟩],
        .expired, flightInput [⟨.serverKeyExchange, 2, [3]⟩, ⟨.serverHelloDone, 3, []⟩]]
      = some ([.serverHello, .serverKeyExchange, .serverHelloDone],
        [.clientHello, .serverHello, .serverKeyExchange, .serverHelloDone]) := by
    decide +kernel
  obtain ⟨flight, rest, client, hrun, -, -⟩ := exists_of_waitTypes hreturned
  have hempty : helloSentClient.handshake.transcript.messages = [] := by decide +kernel
  exact ⟨flight, rest, client, hrun,
    (server_flight_exact_iff flightSetup _ hempty helloSent_current hrun).mpr (by decide +kernel)⟩

end Meshcop.Dtls
