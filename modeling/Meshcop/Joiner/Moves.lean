/-
  Meshcop.Joiner.Moves — what a joiner session does with a payload, move by move
  (`meshcop/src/commissioner/joiner.rs`).

  A session lives as long as its calls of `receive` return: the driver drops a session whose call
  fails.  `JoinerWork` keeps of a session what the handshake and its repetitions depend on;
  `JoinerDoes` lists the moves of a call that returns, each with what it built, sent and recorded.

  Main result: `receive_moves` — a call that returns is a sequence of moves; the events are those
  of the moves, the ClientKeyExchanges handled are those of the payload, and the Finished messages
  verified are those of the protected records that were opened.
-/

import Meshcop.Lib.History
import Meshcop.Lib.Runs
import Meshcop.Dtls.Flights
import Meshcop.Joiner.Steps

namespace Meshcop

open Lib
open Dtls (Crypto Protected ThreadDtlsKeyMaterial ThreadDtlsServerHandshake HandshakeMessage
  DtlsRecord Built parseUnfragmentedHandshakeMessages)

/-! ## §1. The moves of a session. -/

/-- What of a session the handshake and its repetitions depend on. -/
structure JoinerWork where
  phase : JoinerSessionPhase
  messages : List HandshakeMessage
  keyMaterial : Option ThreadDtlsKeyMaterial
  keyExchange : Option HandshakeMessage
  serverFlight : List DtlsRecord
  serverFinished : Bytes
  flightRepeats : UInt8
  finishedRepeats : UInt8
  number : UInt64
  trace : List JoinerAction

def JoinerSession.work {C : Crypto} (s : JoinerSession C) : JoinerWork :=
  { phase := s.phase, messages := s.handshake.transcript.messages, keyMaterial := s.keyMaterial
    keyExchange := s.acceptedClientKeyExchange, serverFlight := s.serverFlight
    serverFinished := s.serverFinished, flightRepeats := s.serverFlightRetransmissions
    finishedRepeats := s.serverFinishedRetransmissions, number := s.epoch0Sequence
    trace := s.trace }

/-- Appends to the history. -/
def JoinerWork.did (w : JoinerWork) (actions : List JoinerAction) : JoinerWork :=
  { w with trace := w.trace ++ actions }

/-- The four messages that open a handshake. -/
structure Greeting where
  hello : HandshakeMessage
  serverHello : HandshakeMessage
  keyExchange : HandshakeMessage
  helloDone : HandshakeMessage

def Greeting.messages (greeting : Greeting) : List HandshakeMessage :=
  [greeting.hello, greeting.serverHello, greeting.keyExchange, greeting.helloDone]

structure Greeting.Typed (greeting : Greeting) : Prop where
  hello : greeting.hello.messageType = .clientHello
  serverHello : greeting.serverHello.messageType = .serverHello
  keyExchange : greeting.keyExchange.messageType = .serverKeyExchange
  helloDone : greeting.helloDone.messageType = .serverHelloDone

/-- The two Finished messages that close a handshake, and what carries the server's. -/
structure Closing where
  client : HandshakeMessage
  server : HandshakeMessage
  change : DtlsRecord
  sealed : Protected

/-- One move. -/
inductive JoinerMove where
  /-- A ClientHello without a valid cookie is answered with one. -/
  | verify (record : DtlsRecord) (datagram : Bytes)
  /-- A ClientHello is accepted, in a record of the given number, and the flight goes out. -/
  | offer (recordSequence : UInt64) (greeting : Greeting) (flight : List DtlsRecord)
      (datagram : Bytes)
  /-- The flight is repeated. -/
  | reoffer (flight : List DtlsRecord) (datagram : Bytes)
  /-- A ClientKeyExchange is taken. -/
  | key (message : HandshakeMessage) (keyMaterial : ThreadDtlsKeyMaterial)
  /-- A ClientKeyExchange is the one accepted last. -/
  | rekey (message : HandshakeMessage)
  /-- A protected handshake record authenticates. -/
  | opened (entry : Protected)
  /-- A client Finished verifies and is answered; the joiner is connected. -/
  | finish (closing : Closing) (datagram : Bytes)
  /-- The server's Finished is repeated. -/
  | refinish (change : DtlsRecord) (entry : Protected) (datagram : Bytes)
  /-- An application record authenticates and is not answered. -/
  | taken (entry : Protected)
  /-- An application record authenticates and is answered. -/
  | answered (entry : Protected) (asked : List JoinerAction) (response : Protected)
      (datagram : Bytes) (accepted : Bool) (final : List JoinerSessionEvent)

namespace JoinerMove

/-- The datagram a move sends, with the records it was built from. -/
def built : JoinerMove → List Built
  | verify record datagram => [⟨[record], datagram⟩]
  | offer _ _ flight datagram => [⟨flight, datagram⟩]
  | reoffer flight datagram => [⟨flight, datagram⟩]
  | finish closing datagram => [⟨[closing.change, closing.sealed.record], datagram⟩]
  | refinish change entry datagram => [⟨[change, entry.record], datagram⟩]
  | answered _ _ response datagram _ _ => [⟨[response.record], datagram⟩]
  | _ => []

/-- The events a move emits. -/
def events : JoinerMove → List JoinerSessionEvent
  | verify _ datagram => [.transmit datagram false]
  | offer _ _ _ datagram => [.transmit datagram false]
  | reoffer _ datagram => [.transmit datagram false]
  | finish _ datagram => [.transmit datagram false, .connected]
  | refinish _ _ datagram => [.transmit datagram false]
  | answered _ _ _ datagram accepted final => .transmit datagram accepted :: final
  | _ => []

/-- What a move adds to the session's history. -/
def actions : JoinerMove → List JoinerAction
  | key _ keyMaterial => [.keyed keyMaterial]
  | opened entry => [.opened entry]
  | finish closing datagram =>
    [.verified closing.client, .sealed closing.sealed, .emitted (.transmit datagram false),
      .emitted .connected]
  | refinish _ entry datagram => [.sealed entry, .emitted (.transmit datagram false)]
  | taken entry => [.opened entry]
  | answered entry asked response datagram accepted final =>
    .opened entry :: asked ++ .sealed response :: .emitted (.transmit datagram accepted) ::
      final.map .emitted
  | move => move.events.map .emitted

/-- The ClientKeyExchange a move handles. -/
def handled : JoinerMove → List HandshakeMessage
  | key message _ => [message]
  | rekey message => [message]
  | _ => []

/-- The ClientKeyExchange a move takes into the transcript. -/
def keys : JoinerMove → List HandshakeMessage
  | key message _ => [message]
  | _ => []

/-- The client Finished a move verifies. -/
def verified : JoinerMove → List HandshakeMessage
  | finish closing _ => [closing.client]
  | _ => []

end JoinerMove

/-- The Finished messages of a protected record's plaintext. -/
def finishedIn (plaintext : Bytes) : List HandshakeMessage :=
  match Dtls.parseMessages plaintext.length plaintext with
  | .ok messages => messages.filter fun message => message.messageType = .finished
  | .error _ => []

/-- The ClientKeyExchanges of a record, if it is a plaintext handshake record. -/
def keyExchangesOf (record : DtlsRecord) : List HandshakeMessage :=
  if record.header.epoch = 0 ∧ record.header.contentType = .handshake then
    match parseUnfragmentedHandshakeMessages record with
    | .ok messages => messages.filter fun message => message.messageType = .clientKeyExchange
    | .error _ => []
  else []

/-- The ClientKeyExchanges a payload carries in the clear. -/
def keyExchangesIn (payload : Bytes) : List HandshakeMessage :=
  match DtlsRecord.parseDatagram payload with
  | .ok records => records.flatMap keyExchangesOf
  | .error _ => []

/-- The Finished messages of the protected handshake record a move opens. -/
def JoinerMove.carried : JoinerMove → List HandshakeMessage
  | opened entry => finishedIn entry.plaintext
  | _ => []

/-- The move completes a handshake. -/
def JoinerMove.closes : JoinerMove → Bool
  | finish _ _ => true
  | _ => false

/-- The move neither opens a protected handshake record nor verifies a Finished. -/
def JoinerMove.Quiet (move : JoinerMove) : Prop :=
  move.verified = [] ∧ move.carried = []

/-- The records of a flight stand under the given numbers and carry the given payloads. -/
structure FlightAt (number : UInt64) (bodies : List Bytes) (flight : List DtlsRecord) : Prop where
  payloads : flight.map DtlsRecord.payload = bodies
  epoch : ∀ r ∈ flight, r.header.epoch = 0
  sized : ∀ r ∈ flight, r.Sized
  numbers : flight.map (fun r => r.header.sequenceNumber) = countUp number flight.length

/-- A record sealed by the session: protected, sized, under a number that fits the wire. -/
structure SealedRecord (entry : Protected) : Prop where
  epoch : entry.record.header.epoch = 1
  sized : entry.record.Sized
  number : entry.record.header.sequenceNumber.toNat < 2 ^ 48

/-- One move and its guard. -/
inductive JoinerDoes (w : JoinerWork) : JoinerMove → JoinerWork → Prop where
  | verify {record : DtlsRecord} {datagram : Bytes} :
      w.phase = .awaitingClientHello → record.WellFormed →
      DtlsRecord.encodeDatagram [record] = .ok datagram →
      JoinerDoes w (.verify record datagram)
        (w.did (JoinerMove.verify record datagram).actions)
  | offer {recordSequence : UInt64} {greeting : Greeting} {flight : List DtlsRecord}
      {datagram : Bytes} {bodies : List Bytes} :
      w.phase = .awaitingClientHello → recordSequence.toNat < 2 ^ 48 → greeting.Typed →
      [greeting.serverHello, greeting.keyExchange, greeting.helloDone].mapM HandshakeMessage.encode
        = .ok bodies →
      FlightAt recordSequence bodies flight → DtlsRecord.encodeDatagram flight = .ok datagram →
      JoinerDoes w (.offer recordSequence greeting flight datagram)
        { w.did (JoinerMove.offer recordSequence greeting flight datagram).actions with
          phase := .awaitingClientFlight, messages := w.messages ++ greeting.messages
          serverFlight := flight, number := recordSequence + 3 }
  | reoffer {datagram : Bytes} :
      w.phase = .awaitingClientFlight →
      w.flightRepeats < MAX_DUPLICATE_FLIGHT_RETRANSMISSIONS →
      DtlsRecord.encodeDatagram (Dtls.renumberEpochZeroFlight w.serverFlight w.number).1
        = .ok datagram →
      JoinerDoes w
        (.reoffer (Dtls.renumberEpochZeroFlight w.serverFlight w.number).1 datagram)
        { w.did [.emitted (.transmit datagram false)] with
          flightRepeats := w.flightRepeats + 1
          serverFlight := (Dtls.renumberEpochZeroFlight w.serverFlight w.number).1
          number := (Dtls.renumberEpochZeroFlight w.serverFlight w.number).2 }
  | key {message : HandshakeMessage} {keyMaterial : ThreadDtlsKeyMaterial} :
      w.phase = .awaitingClientFlight → w.keyExchange ≠ some message →
      message.messageType = .clientKeyExchange →
      JoinerDoes w (.key message keyMaterial)
        { w.did [.keyed keyMaterial] with
          messages := w.messages ++ [message], keyMaterial := some keyMaterial
          keyExchange := some message }
  | rekey {message : HandshakeMessage} :
      w.phase = .awaitingClientFlight → w.keyExchange = some message →
      JoinerDoes w (.rekey message) w
  | opened {entry : Protected} :
      w.phase = .awaitingClientFlight → w.keyMaterial ≠ none →
      entry.record.header.contentType = .handshake →
      JoinerDoes w (.opened entry) (w.did [.opened entry])
  | finish {closing : Closing} {datagram : Bytes} :
      w.phase = .awaitingClientFlight ∨ w.phase = .connected → w.keyMaterial ≠ none →
      closing.client.messageType = .finished → closing.server.messageType = .finished →
      closing.server.encode = .ok closing.sealed.plaintext →
      FlightAt w.number [[1]] [closing.change] → SealedRecord closing.sealed →
      DtlsRecord.encodeDatagram [closing.change, closing.sealed.record] = .ok datagram →
      JoinerDoes w (.finish closing datagram)
        { w.did (JoinerMove.finish closing datagram).actions with
          phase := .connected, messages := w.messages ++ [closing.client, closing.server]
          serverFinished := closing.sealed.plaintext, number := w.number + 1 }
  | refinish {change : DtlsRecord} {entry : Protected} {datagram : Bytes} :
      w.phase.established = true → w.serverFinished ≠ [] →
      w.finishedRepeats < MAX_DUPLICATE_FLIGHT_RETRANSMISSIONS →
      entry.plaintext = w.serverFinished → FlightAt w.number [[1]] [change] →
      SealedRecord entry → DtlsRecord.encodeDatagram [change, entry.record] = .ok datagram →
      JoinerDoes w (.refinish change entry datagram)
        { w.did [.sealed entry, .emitted (.transmit datagram false)] with
          finishedRepeats := w.finishedRepeats + 1, number := w.number + 1 }
  | taken {entry : Protected} :
      w.phase.established = true → entry.record.header.contentType = .applicationData →
      JoinerDoes w (.taken entry) { w.did [.opened entry] with serverFinished := [] }
  | answered {entry response : Protected} {asked : List JoinerAction} {datagram : Bytes}
      {accepted : Bool} {final : List JoinerSessionEvent} :
      w.phase.established = true → entry.record.header.contentType = .applicationData →
      (∀ action ∈ asked, ∃ info answer, action = .asked info answer) →
      (∀ event ∈ final, ∃ info, event = .finalized accepted info) →
      response.record.header.contentType = .applicationData → SealedRecord response →
      DtlsRecord.encodeDatagram [response.record] = .ok datagram →
      JoinerDoes w (.answered entry asked response datagram accepted final)
        { w.did (JoinerMove.answered entry asked response datagram accepted final).actions with
          phase := .finalized, serverFinished := [] }

/-! ## §2. The session's methods. -/

theorem FlightAt.single {contentType : Dtls.ContentType} {number : UInt64} {payload : Bytes}
    {record : DtlsRecord} (h : DtlsRecord.new contentType 0 number payload = .ok record) :
    FlightAt number [payload] [record] := by
  have hsized := DtlsRecord.new_sized h
  obtain ⟨-, rfl⟩ := DtlsRecord.new_eq_ok h
  refine ⟨rfl, ?_, ?_, rfl⟩
  · intro r hr
    rw [List.mem_singleton.mp hr]
  · intro r hr
    rw [List.mem_singleton.mp hr]
    exact hsized

/-- A flight continued under the next numbers. -/
theorem FlightAt.append {number : UInt64} {bodies more : List Bytes}
    {flight rest : List DtlsRecord} (h : FlightAt number bodies flight)
    (h' : FlightAt (number + UInt64.ofNat flight.length) more rest) :
    FlightAt number (bodies ++ more) (flight ++ rest) := by
  refine ⟨?_, ?_, ?_, ?_⟩
  · rw [List.map_append, h.payloads, h'.payloads]
  · intro r hr
    exact (List.mem_append.mp hr).elim (h.epoch r) (h'.epoch r)
  · intro r hr
    exact (List.mem_append.mp hr).elim (h.sized r) (h'.sized r)
  · rw [List.map_append, h.numbers, h'.numbers, List.length_append, countUp_add]

theorem SealsUnder.sealedRecord {C : Crypto} {keyMaterial : ThreadDtlsKeyMaterial}
    {number : UInt64} {contentType : Dtls.ContentType} {entry : Protected}
    (h : SealsUnder C keyMaterial number contentType entry) :
    SealedRecord entry ∧ entry.record.header.contentType = contentType := by
  obtain ⟨hnumber, htype, hepoch, hsequence, hsized⟩ := Dtls.protect_eq_ok h.sealed
  refine ⟨⟨hepoch, hsized, ?_⟩, htype⟩
  rw [hsequence]
  exact hnumber

/-! ## §3. A call takes moves. -/

namespace Receiving

variable {C : Crypto} {handler : JoinerHandler}

/-- The session has come here from `c` by steps. -/
abbrev From (c : JoinerCore) (r : Receiving C handler) : Prop := JoinerSteps C c r.session.core

/-- From `r` the given moves led to `r'`, and their events were emitted. -/
structure Did (r : Receiving C handler) (moves : List JoinerMove) (r' : Receiving C handler) :
    Prop where
  run : Run JoinerDoes r.session.work moves r'.session.work
  events : r'.events = r.events ++ moves.flatMap JoinerMove.events

/-- The computation takes moves of the given kind, by steps; where it fails, it has taken steps. -/
def Takes (kind : List JoinerMove → Prop) (m : ReceiveM C handler Unit)
    (r : Receiving C handler) : Prop :=
  wp m (fun _ r' => ∃ moves, Did r moves r' ∧ From r.session.core r' ∧ kind moves)
    (fun _ r' => From r.session.core r') r

variable {r : Receiving C handler}

theorem Did.idle {r' : Receiving C handler} (hwork : r'.session.work = r.session.work)
    (hevents : r'.events = r.events) : Did r [] r' := by
  refine ⟨?_, by rw [hevents, List.flatMap_nil, List.append_nil]⟩
  rw [hwork]
  exact .nil _

theorem Did.one {r' : Receiving C handler} {move : JoinerMove}
    (hwork : JoinerDoes r.session.work move r'.session.work)
    (hevents : r'.events = r.events ++ move.events) : Did r [move] r' :=
  ⟨.single hwork, by rw [hevents, List.flatMap_singleton]⟩

variable {more moves : List JoinerMove} {kind kind' : List JoinerMove → Prop}

theorem Did.trans {s t : Receiving C handler} (h : Did r moves s) (h' : Did s more t) :
    Did r (moves ++ more) t := by
  refine ⟨h.run.trans h'.run, ?_⟩
  rw [h'.events, h.events, List.flatMap_append, List.append_assoc]

/-- Nothing is done. -/
theorem takes_nothing (h : kind []) : Takes kind (pure ()) r :=
  ⟨[], Did.idle rfl rfl, .refl, h⟩

/-- One computation after the other. -/
theorem Takes.append {m m' : ReceiveM C handler Unit} {both : List JoinerMove → Prop}
    (h : Takes kind m r) (h' : ∀ r', Takes kind' m' r')
    (hboth : ∀ moves more, kind moves → kind' more → both (moves ++ more)) :
    Takes both (m >>= fun _ => m') r := by
  rw [Takes]
  refine wp_seq h ?_
  rintro _ r₁ ⟨moves, hdid, hfrom, hkind⟩
  refine wp_mono (h' r₁) ?_ (fun _ _ hfrom' => hfrom.trans hfrom')
  rintro _ r₂ ⟨more, hdid', hfrom', hkind'⟩
  exact ⟨moves ++ more, hdid.trans hdid', hfrom.trans hfrom', hboth moves more hkind hkind'⟩

/-- Half-way through a call: by steps from `c` the session has come to the work `w`, and the given
    events were emitted. -/
structure Stands (c : JoinerCore) (w : JoinerWork) (events : List JoinerSessionEvent)
    (r : Receiving C handler) : Prop where
  steps : From c r
  work : r.session.work = w
  events : r.events = events

variable {c : JoinerCore} {w : JoinerWork} {events : List JoinerSessionEvent}
  {message : HandshakeMessage} {recordSequence : UInt64}

/-- The core stays as long as the randoms do. -/
theorem Stands.still {handshake : ThreadDtlsServerHandshake C} (h : Stands c w events r)
    (hsame : r.session.handshake.SameRandoms handshake) :
    JoinerSteps C c ({ r.session with handshake } : JoinerSession C).core := by
  have hcore : ({ r.session with handshake } : JoinerSession C).core = r.session.core := by
    simp only [JoinerSession.core, hsame.1, hsame.2]
  rw [hcore]
  exact h.steps

/-- A message is recorded, and the randoms are as before. -/
theorem Stands.recorded {handshake : ThreadDtlsServerHandshake C} (h : Stands c w events r)
    (happended : ThreadDtlsServerHandshake.Appended message r.session.handshake handshake)
    (rng : C.Rng) : Stands c { w with messages := w.messages ++ [message] } events
      { r with session := { r.session with handshake }, rng } := by
  obtain rfl := h.work
  refine ⟨h.still happended.2, ?_, h.events⟩
  exact congrArg (fun messages => { r.session.work with messages }) happended.1

/-- A handshake method that records one message. -/
theorem Stands.records {α : Type} {m : ThreadDtlsServerHandshake.Method C α}
    {F : α → Prop} {M : α → HandshakeMessage} {P : α → Receiving C handler → Prop}
    (h : Stands c w events r) (hm : wp m (fun a h' => F a ∧
        ThreadDtlsServerHandshake.Appended (M a) r.session.handshake h')
      (fun _ h' => r.session.handshake.SameRandoms h') r.session.handshake)
    (hnext : ∀ a r', F a → Stands c { w with messages := w.messages ++ [M a] } events r' → P a r') :
    wp (onSession (JoinerSession.onHandshake m)) P (fun _ r' => From c r') r := by
  simp only [onSession, JoinerSession.onHandshake, wp_zoom]
  refine wp_mono hm (fun a handshake hend => ?_) (fun _ handshake hsame => h.still hsame)
  exact hnext a _ hend.1 (h.recorded hend.2 r.rng)

theorem Stands.plaintextRecord {contentType : Dtls.ContentType} {payload : Bytes}
    {P : DtlsRecord → Receiving C handler → Prop} (h : Stands c w events r)
    (hnext : ∀ record r', DtlsRecord.new contentType 0 w.number payload = .ok record →
      Stands c { w with number := w.number + 1 } events r' → P record r') :
    wp (onSession (JoinerSession.plaintextRecord contentType payload)) P
      (fun _ r' => From c r') r := by
  obtain rfl := h.work
  simp only [onSession, JoinerSession.plaintextRecord, wp_zoom, wp_bind, wp_get, wp_modify, wp_pure]
  refine wp_attempt.mpr ⟨fun record hrecord => ?_, fun _ _ => h.steps⟩
  exact hnext record _ hrecord ⟨h.steps, rfl, h.events⟩

theorem sendHelloVerify_moves {hello : Dtls.ClientHello}
    (hphase : r.session.phase = .awaitingClientHello) (hn : recordSequence.toNat < 2 ^ 48)
    (hkind : ∀ record datagram, kind [.verify record datagram]) :
    Takes kind (sendHelloVerify message recordSequence hello) r := by
  simp only [Takes, sendHelloVerify, push, wp_bind, wp_get, wp_modify]
  refine wp_attempt.mpr ⟨fun cookie _ => ?_, fun _ _ => .refl⟩
  refine wp_attempt.mpr ⟨fun payload _ => ?_, fun _ _ => .refl⟩
  refine wp_attempt.mpr ⟨fun body _ => ?_, fun _ _ => .refl⟩
  refine wp_attempt.mpr ⟨fun record hrecord => ?_, fun _ _ => .refl⟩
  refine wp_attempt.mpr ⟨fun datagram hdatagram => ?_, fun _ _ => .refl⟩
  have hformed : record.WellFormed := by
    refine ⟨DtlsRecord.new_sized hrecord, ?_⟩
    obtain ⟨-, rfl⟩ := DtlsRecord.new_eq_ok hrecord
    exact hn
  refine ⟨[.verify record datagram], Did.one (.verify hphase hformed ?_) rfl,
    .single (.reply datagram), hkind record datagram⟩
  rw [DtlsRecord.encodeDatagram, hdatagram]
  show Except.ok (datagram ++ []) = _
  rw [List.append_nil]

theorem add_three (number : UInt64) : number + 1 + 1 + 1 = number + 3 := by
  rw [UInt64.add_assoc, UInt64.add_assoc]
  rfl

/-- Three records, one after the other, carry the flight. -/
theorem JoinerDoes.offer_of_records {number : UInt64} {greeting : Greeting}
    {body₁ body₂ body₃ datagram : Bytes} {first second third : DtlsRecord}
    (hphase : w.phase = .awaitingClientHello) (hn : number.toNat < 2 ^ 48)
    (htyped : greeting.Typed) (hbody₁ : greeting.serverHello.encode = .ok body₁)
    (hbody₂ : greeting.keyExchange.encode = .ok body₂)
    (hbody₃ : greeting.helloDone.encode = .ok body₃)
    (hfirst : DtlsRecord.new .handshake 0 number body₁ = .ok first)
    (hsecond : DtlsRecord.new .handshake 0 (number + 1) body₂ = .ok second)
    (hthird : DtlsRecord.new .handshake 0 (number + 1 + 1) body₃ = .ok third)
    (hdatagram : DtlsRecord.encodeDatagram [first, second, third] = .ok datagram) :
    JoinerDoes w (.offer number greeting [first, second, third] datagram)
      { w.did (JoinerMove.offer number greeting [first, second, third] datagram).actions with
        phase := .awaitingClientFlight, messages := w.messages ++ greeting.messages
        serverFlight := [first, second, third], number := number + 3 } := by
  have htwo : number + 1 + 1 = number + UInt64.ofNat 2 := UInt64.add_assoc ..
  rw [htwo] at hthird
  have hflight : FlightAt number [body₁, body₂, body₃] [first, second, third] :=
    ((FlightAt.single hfirst).append (FlightAt.single hsecond)).append (FlightAt.single hthird)
  have hbodies : [greeting.serverHello, greeting.keyExchange, greeting.helloDone].mapM
      HandshakeMessage.encode = .ok [body₁, body₂, body₃] := by
    simp only [List.mapM_cons, List.mapM_nil, hbody₁, hbody₂, hbody₃]
    rfl
  exact .offer hphase hn htyped hbodies hflight hdatagram

/-- Accepting a ClientHello: the four messages are recorded, the flight is built under the record's
    number and the two that follow, and goes out. -/
theorem acceptClientHello_moves (hphase : r.session.phase = .awaitingClientHello)
    (hn : recordSequence.toNat < 2 ^ 48)
    (hkind : ∀ greeting flight datagram, kind [.offer recordSequence greeting flight datagram]) :
    Takes kind (acceptClientHello message recordSequence) r := by
  obtain ⟨w, hw⟩ : ∃ w, r.session.work = w := ⟨_, rfl⟩
  have hwait : w.phase = .awaitingClientHello := by rw [← hw]; exact hphase
  simp only [Takes, acceptClientHello, wp_bind]
  rw [onSession, JoinerSession.onHandshake, wp_zoom, wp_zoom]
  -- the ClientHello is the one message that may change the randoms
  have hhello (handshake : ThreadDtlsServerHandshake C) :
      JoinerStep C r.session.core ({ r.session with handshake } : JoinerSession C).core :=
    .hello handshake.serverRandom handshake.clientRandom hphase
  refine wp_mono (ThreadDtlsServerHandshake.handleClientHello_spec _) ?_
    (fun _ handshake _ => .single (hhello handshake))
  rintro _ handshake ⟨hmessage, hmessages⟩
  refine wp_modify_intro fun r₂ hr₂ => ?_
  have h₂ : Stands r.session.core { w with
      messages := w.messages ++ [message], number := recordSequence } r.events r₂ := by
    subst hr₂ hw
    refine ⟨.single (hhello handshake), ?_, rfl⟩
    exact congrArg (fun messages =>
      { r.session.work with messages, number := recordSequence }) hmessages
  refine h₂.records (ThreadDtlsServerHandshake.buildServerHello_spec _ _)
    fun serverHello r₃ hserverHello h₃ => ?_
  rw [wp_zoom]
  refine wp_mono (ThreadDtlsServerHandshake.buildServerKeyExchange_spec _ _) ?_
    (fun _ _ hsame => h₃.still hsame)
  rintro keyExchange ⟨handshake₄, rng₄⟩ ⟨hkeyExchange, hrecorded⟩
  have h₄ := h₃.recorded hrecorded rng₄
  generalize ({ r₃ with session := _, rng := rng₄ } : Receiving C handler) = r₄ at h₄ ⊢
  refine h₄.records (ThreadDtlsServerHandshake.buildServerHelloDone_spec _ _)
    fun helloDone r₅ hhelloDone h₅ => ?_
  -- the four messages are recorded; the counter stands at the record's number
  refine wp_attempt.mpr ⟨fun body₁ hbody₁ => ?_, fun _ _ => h₅.steps⟩
  refine h₅.plaintextRecord fun first r₆ hfirst h₆ => ?_
  refine wp_attempt.mpr ⟨fun body₂ hbody₂ => ?_, fun _ _ => h₆.steps⟩
  refine h₆.plaintextRecord fun second r₇ hsecond h₇ => ?_
  refine wp_attempt.mpr ⟨fun body₃ hbody₃ => ?_, fun _ _ => h₇.steps⟩
  refine h₇.plaintextRecord fun third r₈ hthird h₈ => ?_
  rw [wp_modify]
  refine wp_attempt.mpr ⟨fun datagram hdatagram => ?_, fun _ _ => h₈.steps⟩
  rw [wp_modify, push, wp_modify]
  have hend : r₈.session.work = { w with
      messages := w.messages ++ [message, serverHello, keyExchange, helloDone]
      number := recordSequence + 3 } := by
    rw [h₈.work]
    simp only [List.append_assoc, List.cons_append, List.nil_append, add_three]
  refine ⟨[.offer recordSequence ⟨message, serverHello, keyExchange, helloDone⟩
    [first, second, third] datagram], Did.one ?_ ?_, ?_, hkind _ _ _⟩
  · rw [hw]
    have hdoes := JoinerDoes.offer_of_records hwait hn
      (⟨hmessage, hserverHello, hkeyExchange, hhelloDone⟩ :
        Greeting.Typed ⟨message, serverHello, keyExchange, helloDone⟩)
      hbody₁ hbody₂ hbody₃ hfirst hsecond hthird hdatagram
    convert hdoes using 1
    exact congrArg (fun work : JoinerWork =>
      { work.did [.emitted (.transmit datagram false)] with
        phase := .awaitingClientFlight, serverFlight := [first, second, third] }) hend
  · show r₈.events ++ _ = _
    rw [h₈.events]
    rfl
  · have hphase₈ : r₈.session.phase = .awaitingClientHello :=
      (congrArg JoinerWork.phase hend).trans hwait
    exact (h₈.steps.tail (.offer hphase₈)).tail (.reply datagram)

/-- The moves handle the given ClientKeyExchanges, and no protected record. -/
structure Plain (messages : List HandshakeMessage) (moves : List JoinerMove) : Prop where
  handled : moves.flatMap JoinerMove.handled
    = messages.filter fun message => message.messageType = .clientKeyExchange
  quiet : ∀ move ∈ moves, move.Quiet

theorem quiet_one {move : JoinerMove} (h : move.Quiet) : ∀ other ∈ [move], other.Quiet := by
  intro other hother
  rw [List.mem_singleton.mp hother]
  exact h

theorem Plain.append {messages rest : List HandshakeMessage} (h : Plain messages moves)
    (h' : Plain rest more) : Plain (messages ++ rest) (moves ++ more) := by
  refine ⟨?_, ?_⟩
  · rw [List.flatMap_append, h.handled, h'.handled, List.filter_append]
  · intro move hmove
    exact (List.mem_append.mp hmove).elim (h.quiet move) (h'.quiet move)

theorem repeatServerFlight_moves (hphase : r.session.phase = .awaitingClientFlight)
    (htype : message.messageType = .clientHello) :
    Takes (Plain [message]) (repeatServerFlight message) r := by
  have hfilter : [message].filter (fun m => m.messageType = .clientKeyExchange) = [] := by
    simp [htype]
  simp only [Takes, repeatServerFlight, push, wp_bind, wp_get]
  split
  · rename_i hrepeat
    simp only [wp_bind, wp_modify]
    refine wp_attempt.mpr ⟨fun datagram hdatagram => ?_, fun _ _ => .refl⟩
    exact ⟨_, Did.one (.reoffer hphase hrepeat.2 hdatagram) rfl, .single (.reply datagram),
      hfilter.symm, quiet_one ⟨rfl, rfl⟩⟩
  · exact takes_nothing ⟨hfilter.symm, List.forall_mem_nil _⟩

theorem acceptClientKeyExchange_moves (hphase : r.session.phase = .awaitingClientFlight)
    (htype : message.messageType = .clientKeyExchange) :
    Takes (Plain [message]) (acceptClientKeyExchange message) r := by
  have hfilter : [message].filter (fun m => m.messageType = .clientKeyExchange) = [message] := by
    simp [htype]
  simp only [Takes, acceptClientKeyExchange, wp_bind, wp_get]
  split
  · rename_i hsame
    exact ⟨[.rekey message], Did.one (.rekey hphase hsame) (List.append_nil _).symm, .refl,
      hfilter.symm, quiet_one ⟨rfl, rfl⟩⟩
  rename_i hnew
  simp only [wp_bind, wp_get, wp_modify]
  have hstart : Stands r.session.core r.session.work r.events r := ⟨.refl, rfl, rfl⟩
  refine hstart.records (ThreadDtlsServerHandshake.handleClientKeyExchange_spec _)
    fun _ r₁ _ h₁ => ?_
  refine wp_attempt.mpr ⟨fun keyMaterial _ => ?_, fun _ _ => h₁.steps⟩
  have hphase₁ : r₁.session.phase = .awaitingClientFlight :=
    (congrArg JoinerWork.phase h₁.work).trans hphase
  refine ⟨[.key message keyMaterial], Did.one ?_ ?_, h₁.steps.tail (.key keyMaterial hphase₁),
    hfilter.symm, quiet_one ⟨rfl, rfl⟩⟩
  · have hdoes : JoinerDoes r.session.work (.key message keyMaterial) _ := .key hphase hnew htype
    convert hdoes using 1
    exact congrArg (fun work : JoinerWork => { work.did [.keyed keyMaterial] with
      keyMaterial := some keyMaterial, keyExchange := some message }) h₁.work
  · show r₁.events = _
    rw [h₁.events]
    exact (List.append_nil _).symm

theorem handlePlaintextHandshake_moves (message : HandshakeMessage)
    (hn : recordSequence.toNat < 2 ^ 48) (r : Receiving C handler) :
    Takes (Plain [message]) (handlePlaintextHandshake message recordSequence) r := by
  simp only [Takes, handlePlaintextHandshake, wp_bind, wp_get]
  split
  · rename_i htype hphase
    have hplain (move : JoinerMove) (hhandled : move.handled = []) (hquiet : move.Quiet) :
        Plain [message] [move] := by
      refine ⟨?_, quiet_one hquiet⟩
      rw [List.flatMap_singleton, hhandled]
      simp [htype]
    refine wp_attempt_seq (fun hello _ => ?_) (fun _ _ => .refl)
    split
    · exact acceptClientHello_moves hphase hn fun _ _ _ => hplain _ rfl ⟨rfl, rfl⟩
    · exact sendHelloVerify_moves hphase hn fun _ _ => hplain _ rfl ⟨rfl, rfl⟩
  · rename_i htype hphase
    exact repeatServerFlight_moves hphase htype
  · rename_i htype hphase
    exact acceptClientKeyExchange_moves hphase htype
  · exact .refl

theorem plaintextMessages_moves (hn : recordSequence.toNat < 2 ^ 48)
    (messages : List HandshakeMessage) (r : Receiving C handler) :
    Takes (Plain messages) (plaintextMessages recordSequence messages) r := by
  induction messages generalizing r with
  | nil => exact takes_nothing ⟨rfl, List.forall_mem_nil _⟩
  | cons message messages ih =>
    exact (handlePlaintextHandshake_moves message hn r).append ih fun _ _ => Plain.append

/-- A client Finished that verifies is answered, and connects. -/
theorem acceptClientFinished_moves
    (hphase : r.session.phase = .awaitingClientFlight ∨ r.session.phase = .connected) :
    wp (acceptClientFinished message) (fun _ r' => ∃ closing datagram, closing.client = message ∧
        Did r [.finish closing datagram] r' ∧ From r.session.core r' ∧
        r'.session.phase = .connected)
      (fun _ r' => From r.session.core r') r := by
  obtain ⟨w, hw⟩ : ∃ w, r.session.work = w := ⟨_, rfl⟩
  have hphase : w.phase = .awaitingClientFlight ∨ w.phase = .connected := by
    rw [← hw]
    exact hphase
  simp only [acceptClientFinished, wp_bind, wp_get]
  refine wp_attempt.mpr ⟨fun keyMaterial hrequired => ?_, fun _ _ => .refl⟩
  have hkeys : w.keyMaterial = some keyMaterial := by
    rw [← hw]
    exact JoinerSession.keyMaterialRequired_eq_ok hrequired
  have hstart : Stands r.session.core w r.events r := ⟨.refl, hw, rfl⟩
  refine hstart.records (F := fun _ => VerifiesUnder C keyMaterial message)
    (wp_mono (ThreadDtlsServerHandshake.verifyClientFinished_spec keyMaterial _)
      (fun _ _ h => ⟨⟨h.1, _, h.2.1⟩, h.2.2⟩) (fun _ _ h => h)) fun _ r₁ hverifies h₁ => ?_
  refine wp_modify_intro fun r₂ hr₂ => ?_
  have h₂ : Stands r.session.core { w with
      messages := w.messages ++ [message], trace := w.trace ++ [.verified message] } r.events r₂ := by
    subst hr₂
    refine ⟨h₁.steps.tail (.verified keyMaterial message ?_ ?_ hverifies), ?_, h₁.events⟩
    · show r₁.session.work.phase = _ ∨ r₁.session.work.phase = _
      rw [h₁.work]
      exact hphase
    · exact (congrArg JoinerWork.keyMaterial h₁.work).trans hkeys
    · exact congrArg (fun work : JoinerWork => work.did [.verified message]) h₁.work
  split
  · exact h₂.steps
  rename_i hello _
  simp only [answerClientFinished, wp_bind]
  refine h₂.records (F := fun server => server.messageType = .finished)
    (wp_mono (ThreadDtlsServerHandshake.buildServerFinished_spec _ keyMaterial _)
      (fun _ _ h => ⟨h.1, h.2.2⟩) (fun _ _ h => h)) fun server r₃ hserver h₃ => ?_
  refine wp_attempt.mpr ⟨fun body hbody => ?_, fun _ _ => h₃.steps⟩
  refine wp_modify_intro fun r₄ hr₄ => ?_
  have h₄ : Stands r.session.core { w with
      messages := w.messages ++ [message] ++ [server], trace := w.trace ++ [.verified message]
      serverFinished := body } r.events r₄ := by
    subst hr₄
    exact ⟨h₃.steps, congrArg (fun work : JoinerWork => { work with serverFinished := body }) h₃.work,
      h₃.events⟩
  simp only [onSession, push, wp_zoom, wp_modify]
  refine wp_mono (JoinerSession.buildServerFinishedFlight_spec r₄.session) ?_
    (by rintro _ _ ⟨_, rfl⟩; exact h₄.steps)
  rintro datagram s ⟨keyMaterial', change, entry, hkeys', hchange, hseals, hplaintext, hdatagram, rfl⟩
  have hkeys₄ : r₄.session.keyMaterial = some keyMaterial :=
    (congrArg JoinerWork.keyMaterial h₄.work).trans hkeys
  obtain rfl : keyMaterial' = keyMaterial := Option.some.inj (hkeys'.symm.trans hkeys₄)
  have hbody' : r₄.session.serverFinished = body := congrArg JoinerWork.serverFinished h₄.work
  rw [hbody'] at hplaintext
  refine ⟨⟨message, server, change, entry⟩, datagram, rfl, Did.one ?_ ?_, h₄.steps.tail ?_, rfl⟩
  · rw [hw]
    have hnumber : r₄.session.epoch0Sequence = w.number := congrArg JoinerWork.number h₄.work
    rw [hnumber] at hchange
    have hdoes : JoinerDoes w (.finish ⟨message, server, change, entry⟩ datagram) _ :=
      .finish hphase (fun h => by rw [h] at hkeys; cases hkeys) hverifies.1 hserver
        (hplaintext.symm ▸ hbody) (FlightAt.single hchange) hseals.sealedRecord.1 hdatagram
    convert hdoes using 1
    have hend := congrArg (fun work : JoinerWork =>
      { work.did [.sealed entry, .emitted (.transmit datagram false), .emitted .connected] with
        phase := .connected, number := work.number + 1 }) h₄.work
    refine Eq.trans ?_ (hend.trans ?_)
    · simp [JoinerSession.work, JoinerSession.log, JoinerWork.did]
    · simp [JoinerWork.did, JoinerMove.actions, hplaintext]
  · show r₄.events ++ _ ++ _ = _
    rw [h₄.events, List.append_assoc]
    rfl
  · have htrace : r₄.session.trace = w.trace ++ [.verified message] :=
      congrArg JoinerWork.trace h₄.work
    have hphase₄ : r₄.session.phase = w.phase := congrArg JoinerWork.phase h₄.work
    have hstep := JoinerStep.finish (c := r₄.session.core) keyMaterial' message entry datagram
      (by rw [← hphase₄] at hphase; exact hphase) hkeys₄
      (by rw [JoinerSession.core, htrace]; simp) hverifies hseals
    simpa [JoinerCore.did, JoinerSession.core, JoinerSession.log] using hstep

/-- The moves verify the given Finished messages, and open nothing. -/
structure Closes (messages : List HandshakeMessage) (moves : List JoinerMove) : Prop where
  handled : moves.flatMap JoinerMove.handled = []
  verified : moves.flatMap JoinerMove.verified
    = messages.filter fun message => message.messageType = .finished
  closes : ∀ move ∈ moves, move.closes = true

theorem finishedMessages_moves (messages : List HandshakeMessage) (r : Receiving C handler)
    (hphase : r.session.phase = .awaitingClientFlight ∨ r.session.phase = .connected) :
    Takes (Closes messages) (finishedMessages messages) r := by
  induction messages generalizing r with
  | nil => exact takes_nothing ⟨rfl, rfl, List.forall_mem_nil _⟩
  | cons message messages ih =>
    unfold finishedMessages
    split
    · rename_i htype
      refine wp_imp (ih r hphase) ?_
      rintro _ r' ⟨moves, hdid, hfrom, hcloses⟩
      refine ⟨moves, hdid, hfrom, hcloses.handled, ?_, hcloses.closes⟩
      rw [hcloses.verified, List.filter_cons_of_neg (by simpa using htype)]
    · rename_i htype
      rw [Takes]
      refine wp_seq (acceptClientFinished_moves hphase) ?_
      rintro _ r₁ ⟨closing, datagram, rfl, hdid, hfrom, hconnected⟩
      refine wp_mono (ih r₁ (Or.inr hconnected)) ?_ (fun _ _ hfrom' => hfrom.trans hfrom')
      rintro _ r₂ ⟨moves, hdid', hfrom', hcloses⟩
      refine ⟨[.finish closing datagram] ++ moves, hdid.trans hdid', hfrom.trans hfrom',
        hcloses.handled, ?_, ?_⟩
      · rw [List.filter_cons_of_pos (by simpa using htype), ← hcloses.verified]
        rfl
      · exact List.forall_mem_cons.mpr ⟨rfl, hcloses.closes⟩

/-- A handshake that is completed opens nothing. -/
theorem carried_of_closes (h : ∀ move ∈ moves, move.closes = true) :
    moves.flatMap JoinerMove.carried = [] := by
  refine List.flatMap_eq_nil_iff.mpr fun move hmove => ?_
  have hcloses := h move hmove
  cases move with
  | opened entry => cases hcloses
  | _ => rfl

/-- What the moves of one record amount to: the ClientKeyExchanges of the record are handled, and
    of every protected handshake record that is opened all Finished messages are verified before
    anything else happens. -/
structure Accounts (keyExchanges : List HandshakeMessage) (moves : List JoinerMove) : Prop where
  handled : moves.flatMap JoinerMove.handled = keyExchanges
  verified : moves.flatMap JoinerMove.verified = moves.flatMap JoinerMove.carried
  settled : Justified (fun before move => move.closes = false →
    before.flatMap JoinerMove.verified = before.flatMap JoinerMove.carried) moves

theorem Accounts.append {keyExchanges others : List HandshakeMessage}
    (h : Accounts keyExchanges moves) (h' : Accounts others more) :
    Accounts (keyExchanges ++ others) (moves ++ more) := by
  refine ⟨?_, ?_, ?_⟩
  · rw [List.flatMap_append, h.handled, h'.handled]
  · rw [List.flatMap_append, List.flatMap_append, h.verified, h'.verified]
  · refine justified_append.mpr ⟨h.settled, ?_⟩
    intro before move after hmore hopen
    rw [List.flatMap_append, List.flatMap_append, h.verified,
      h'.settled before move after hmore hopen]

/-- Moves that open nothing and verify nothing. -/
theorem accounts_of_quiet {keyExchanges : List HandshakeMessage}
    (hhandled : moves.flatMap JoinerMove.handled = keyExchanges) (h : ∀ move ∈ moves, move.Quiet) :
    Accounts keyExchanges moves := by
  have hbalanced : ∀ part : List JoinerMove, (∀ move ∈ part, move ∈ moves) →
      part.flatMap JoinerMove.verified = part.flatMap JoinerMove.carried := by
    intro part hpart
    rw [List.flatMap_eq_nil_iff.mpr fun move hmove => (h move (hpart move hmove)).1,
      List.flatMap_eq_nil_iff.mpr fun move hmove => (h move (hpart move hmove)).2]
  refine ⟨hhandled, hbalanced moves fun _ hmove => hmove, ?_⟩
  intro before move after hmoves _
  refine hbalanced before fun other hother => ?_
  rw [hmoves]
  exact List.mem_append_left _ hother

theorem accounts_nil : Accounts [] [] := accounts_of_quiet rfl (List.forall_mem_nil _)

/-- One move that opens nothing and verifies nothing. -/
theorem accounts_one {move : JoinerMove} (hhandled : move.handled = []) (h : move.Quiet) :
    Accounts [] [move] :=
  accounts_of_quiet (by rw [List.flatMap_singleton, hhandled]) (quiet_one h)

variable {record : DtlsRecord}

theorem handleEncryptedHandshake_moves (hepoch : record.header.epoch = 1)
    (htype : record.header.contentType = .handshake) (r : Receiving C handler) :
    Takes (Accounts []) (handleEncryptedHandshake record) r := by
  simp only [Takes, handleEncryptedHandshake, wp_bind, wp_get]
  split
  · exact takes_nothing accounts_nil
  rename_i hguard
  have hphase : r.session.phase = .awaitingClientFlight := by tauto
  have hkeys : r.session.keyMaterial ≠ none := by tauto
  simp only [onSession, wp_bind, wp_zoom]
  refine wp_mono (JoinerSession.openRecord_spec hepoch r.session) (fun opened s hs => ?_)
    (fun _ s hs => by rw [From, hs])
  cases opened with
  | none =>
    obtain rfl := hs
    exact takes_nothing accounts_nil
  | some plaintext =>
    obtain ⟨keyMaterial, entry, hkeyed, hopens, rfl, rfl, rfl⟩ := hs
    have hfrom : JoinerSteps C r.session.core _ := .single (.opened keyMaterial entry hkeyed hopens)
    refine wp_attempt_seq (fun plainRecord hplain => ?_) (fun _ _ => hfrom)
    refine wp_attempt_seq (fun messages hmessages => ?_) (fun _ _ => hfrom)
    refine wp_mono (finishedMessages_moves messages _ (Or.inl hphase)) ?_
      (fun _ _ hfrom' => hfrom.trans hfrom')
    rintro _ r' ⟨moves, hdid, hfrom', hcloses⟩
    refine ⟨[JoinerMove.opened entry] ++ moves, Did.trans ?_ hdid, hfrom.trans hfrom',
      hcloses.handled, ?_, ?_⟩
    · exact Did.one (.opened hphase hkeys htype) (List.append_nil _).symm
    rotate_left
    · -- nothing but the Finished messages of the record comes behind it
      refine justified_cons.mpr ⟨fun _ => rfl, ?_⟩
      intro before move after hsplit hopen
      have hmoves : moves = before ++ move :: after := hsplit
      have hmem : move ∈ moves := by
        rw [hmoves]
        exact List.mem_append_right _ List.mem_cons_self
      rw [hcloses.closes move hmem] at hopen
      cases hopen
    -- the messages are those of the opened record
    have hparse : Dtls.parseMessages entry.plaintext.length entry.plaintext = .ok messages := by
      obtain ⟨-, rfl⟩ := DtlsRecord.new_eq_ok hplain
      exact hmessages
    have hcarried : finishedIn entry.plaintext
        = messages.filter fun message => message.messageType = .finished := by
      unfold finishedIn
      rw [hparse]
    show moves.flatMap JoinerMove.verified
      = finishedIn entry.plaintext ++ moves.flatMap JoinerMove.carried
    rw [hcarried, hcloses.verified, carried_of_closes hcloses.closes, List.append_nil]

/-- The answer to an authenticated JOIN_FIN.req is one move; the application is asked in a step of
    its own. -/
theorem answerJoinFin_moves {keyMaterial : ThreadDtlsKeyMaterial} {entry : Protected}
    {request : CoapMessage} {info : JoinerFinalizeInfo} (hphase : w.phase.established = true)
    (h : Stands c { w.did [.opened entry] with serverFinished := [] } events r)
    (hkeys : r.session.keyMaterial = some keyMaterial) (hopens : OpensUnder C keyMaterial entry)
    (hcarries : CarriesJoinFin entry request info) : wp (answerJoinFin request info)
      (fun _ r' => ∃ move, JoinerDoes w move r'.session.work ∧
        r'.events = events ++ move.events ∧ From c r' ∧ Accounts [] [move])
      (fun _ r' => From c r') r := by
  have hestablished : r.session.phase.established = true := by
    rw [show r.session.phase = w.phase from congrArg JoinerWork.phase h.work]
    exact hphase
  have hopened : .opened entry ∈ r.session.trace := by
    rw [show r.session.trace = w.trace ++ [.opened entry] from congrArg JoinerWork.trace h.work]
    exact List.mem_append_right _ (List.mem_singleton_self _)
  have hdecided : From c (r.decided info) := by
    by_cases hnone : r.session.finalizeDecision = none
    · refine h.steps.tail ?_
      have hstep := JoinerStep.ask (c := r.session.core) keyMaterial entry request info
        (r.decision info).1 hestablished hkeys hnone hopened hopens hcarries
      rw [decided, asked, if_pos hnone]
      exact hstep
    · rw [From, decided_core hnone]
      exact h.steps
  refine wp_mono (answerJoinFin_spec request info r) ?_ (fun _ r' hr' => hr'.1 ▸ hdecided)
  rintro _ _ ⟨keyMaterial', response, datagram, hkeys', hencodes, hseals, hdatagram, rfl⟩
  obtain rfl : keyMaterial' = keyMaterial := Option.some.inj (hkeys'.symm.trans hkeys)
  have hwire : DtlsRecord.encodeDatagram [response.record] = .ok datagram := by
    rw [DtlsRecord.encodeDatagram, hdatagram]
    show Except.ok (datagram ++ []) = _
    rw [List.append_nil]
  obtain ⟨final, hfinal⟩ : ∃ final : List JoinerSessionEvent, final =
      if r.session.phase = .finalized then [] else [.finalized (r.decision info).1 info] := ⟨_, rfl⟩
  refine ⟨.answered entry (r.asked info) response datagram (r.decision info).1 final, ?_, ?_,
    hdecided.tail ?_, accounts_one rfl ⟨rfl, rfl⟩⟩
  · have hasked : ∀ action ∈ r.asked info, ∃ info answer, action = .asked info answer := by
      intro action haction
      unfold asked at haction
      split at haction
      · exact ⟨_, _, List.mem_singleton.mp haction⟩
      · cases haction
    have hreports : ∀ event ∈ final, ∃ other, event = .finalized (r.decision info).1 other := by
      intro event hevent
      rw [hfinal] at hevent
      split at hevent
      · cases hevent
      · exact ⟨_, List.mem_singleton.mp hevent⟩
    have hdoes := JoinerDoes.answered hphase hcarries.contentType hasked hreports
      hseals.sealedRecord.2 hseals.sealedRecord.1 hwire
    convert hdoes using 1
    have hend := congrArg (fun work : JoinerWork =>
      { work.did (r.asked info ++ .sealed response ::
          (answerEvents r.session.phase (r.decision info).1 info datagram).map .emitted) with
        phase := .finalized }) h.work
    refine Eq.trans ?_ (hend.trans ?_)
    · simp [JoinerSession.work, JoinerWork.did, decided, responded]
    · simp [JoinerWork.did, JoinerMove.actions, answerEvents, hfinal]
  · show r.events ++ answerEvents _ _ _ _ = _
    rw [h.events, hfinal]
    rfl
  · have hstep := JoinerStep.respond (c := (r.decided info).session.core) keyMaterial' entry request
      info (r.decision info).1 response datagram hestablished hkeys rfl
      (List.mem_append_left _ hopened) hopens hcarries hencodes hseals
    by_cases hphase : r.session.phase = .finalized
    · simpa [JoinerCore.did, JoinerSession.core, decided, responded, answerEvents, hphase] using hstep
    · simpa [JoinerCore.did, JoinerSession.core, decided, responded, answerEvents, hphase] using hstep

theorem handleApplicationData_moves (hepoch : record.header.epoch = 1)
    (htype : record.header.contentType = .applicationData) (r : Receiving C handler) :
    Takes (Accounts []) (handleApplicationData record) r := by
  simp only [Takes, handleApplicationData, wp_bind, wp_get]
  split
  · exact takes_nothing accounts_nil
  rename_i hphase
  have hphase : r.session.phase.established = true := by simpa using hphase
  simp only [wp_caught, onSession, wp_bind, wp_zoom]
  refine wp_mono (JoinerSession.openRecord_spec hepoch r.session) (fun opened s hs => ?_)
    (fun _ s hs => ?_)
  · cases opened with
    | none =>
      obtain rfl := hs
      exact takes_nothing accounts_nil
    | some plaintext =>
      obtain ⟨keyMaterial, entry, hkeys, hopens, rfl, rfl, rfl⟩ := hs
      have hfrom : JoinerSteps C r.session.core _ :=
        .single (.opened keyMaterial entry hkeys hopens)
      simp only [wp_bind, wp_modify]
      refine wp_attempt.mpr ⟨fun request hrequest => ?_, fun _ _ => hfrom⟩
      refine wp_attempt.mpr ⟨fun path hpath => ?_, fun _ _ => hfrom⟩
      split
      · exact ⟨[.taken entry], Did.one (.taken hphase htype) (List.append_nil _).symm, hfrom,
          accounts_one rfl ⟨rfl, rfl⟩⟩
      rename_i hjoin
      rw [not_not.mp hjoin] at hpath
      refine wp_attempt_seq (fun info hinfo => ?_) (fun _ _ => hfrom)
      refine wp_imp (answerJoinFin_moves (w := r.session.work) hphase ⟨hfrom, rfl, rfl⟩ hkeys
        hopens ⟨htype, hrequest, hpath, hinfo⟩) ?_
      rintro _ r' ⟨move, hdoes, hevents, hfrom, haccounts⟩
      exact ⟨[move], Did.one hdoes hevents, hfrom, haccounts⟩
  · rw [hs]
    exact takes_nothing accounts_nil

/-- The ClientKeyExchanges of a record that are looked at: none once the handshake was complete
    when the payload arrived. -/
def offered (wasEstablished : Bool) (record : DtlsRecord) : List HandshakeMessage :=
  if wasEstablished then [] else keyExchangesOf record

theorem offered_of_not {wasEstablished : Bool}
    (h : ¬ (record.header.epoch = 0 ∧ record.header.contentType = .handshake)) :
    offered wasEstablished record = [] := by
  unfold offered keyExchangesOf
  rw [if_neg h, ite_self]

theorem receiveRecord_moves (wasEstablished : Bool) (hformed : record.WellFormed)
    (r : Receiving C handler) :
    Takes (Accounts (offered wasEstablished record)) (receiveRecord wasEstablished record) r := by
  unfold receiveRecord
  split
  · rename_i hepoch
    split
    · rename_i htype
      unfold offered
      split
      · exact takes_nothing accounts_nil
      unfold keyExchangesOf
      rw [if_pos ⟨hepoch, htype⟩]
      cases hmessages : parseUnfragmentedHandshakeMessages record with
      | error e => exact takes_nothing accounts_nil
      | ok messages =>
        refine wp_imp (plaintextMessages_moves hformed.numbered messages r) ?_
        rintro _ r' ⟨moves, hdid, hfrom, hplain⟩
        exact ⟨moves, hdid, hfrom, accounts_of_quiet hplain.handled hplain.quiet⟩
    · rename_i htype
      rw [offered_of_not (by simp [htype])]
      split
      · exact .refl
      · exact ⟨[], Did.idle rfl rfl, .refl, accounts_nil⟩
    · rename_i htype
      rw [offered_of_not (by simp [htype]), Takes, wp_bind, wp_get]
      split
      · exact takes_nothing accounts_nil
      · exact .refl
    · rename_i htype
      rw [offered_of_not (by simp [htype])]
      exact takes_nothing accounts_nil
  · rename_i hplain
    rw [offered_of_not fun h => hplain h.1]
    split
    · rename_i hepoch
      split
      · rename_i htype
        exact handleEncryptedHandshake_moves hepoch htype r
      · rename_i htype
        exact handleApplicationData_moves hepoch htype r
      · simp only [Takes, wp_bind, wp_caught, onSession, wp_zoom]
        refine wp_mono (JoinerSession.openRecord_spec hepoch r.session) (fun opened s hs => ?_)
          (fun _ s hs => ?_)
        · cases opened with
          | none =>
            obtain rfl := hs
            exact takes_nothing accounts_nil
          | some plaintext =>
            obtain ⟨keyMaterial, entry, hkeys, hopens, -, -, rfl⟩ := hs
            exact .single (.opened keyMaterial entry hkeys hopens)
        · rw [hs]
          exact takes_nothing accounts_nil
      · exact takes_nothing accounts_nil
    · exact takes_nothing accounts_nil

theorem receiveRecords_moves (wasEstablished : Bool) {records : List DtlsRecord}
    (hformed : ∀ record ∈ records, record.WellFormed) (r : Receiving C handler) :
    Takes (Accounts (records.flatMap (offered wasEstablished)))
      (receiveRecords wasEstablished records) r := by
  induction records generalizing r with
  | nil => exact takes_nothing accounts_nil
  | cons record records ih =>
    obtain ⟨hfirst, hrest⟩ := List.forall_mem_cons.mp hformed
    exact (receiveRecord_moves _ hfirst r).append (ih hrest) fun _ _ => Accounts.append

theorem repeatServerFinished_moves (records : List DtlsRecord) (r : Receiving C handler) :
    Takes (Accounts []) (repeatServerFinished records) r := by
  simp only [Takes, repeatServerFinished, wp_bind, wp_get]
  split
  · rename_i hguard
    simp only [push, onSession, wp_bind, wp_modify, wp_zoom]
    refine wp_mono (JoinerSession.buildServerFinishedFlight_spec _) ?_
      (by rintro _ _ ⟨_, rfl⟩; exact .refl)
    rintro datagram s ⟨keyMaterial, change, entry, hkeys, hchange, hseals, hplaintext, hdatagram, rfl⟩
    refine ⟨[.refinish change entry datagram], Did.one ?_ rfl, .single ?_, accounts_one rfl ⟨rfl, rfl⟩⟩
    · have hdoes : JoinerDoes r.session.work (.refinish change entry datagram) _ :=
        .refinish hguard.1 hguard.2.1 hguard.2.2.2 hplaintext (FlightAt.single hchange)
          hseals.sealedRecord.1 hdatagram
      simpa [JoinerSession.work, JoinerSession.log, JoinerWork.did] using hdoes
    · have hstep := JoinerStep.refinish (c := r.session.core) keyMaterial entry datagram hguard.1
        hkeys hseals
      simpa [JoinerSession.core, JoinerSession.log, JoinerCore.did] using hstep
  · exact takes_nothing accounts_nil

/-- A call is a sequence of moves, taken by steps. -/
theorem receive_takes (payload : Bytes) (r : Receiving C handler) : wp (receive payload)
      (fun events r' => (∃ moves, Run JoinerDoes r.session.work moves r'.session.work ∧
        events = moves.flatMap JoinerMove.events ∧
        Accounts (if r.session.phase.established then [] else keyExchangesIn payload) moves) ∧
        From r.session.core r')
      (fun _ r' => From r.session.core r') r := by
  unfold receive
  rw [wp_bind, wp_modify]
  split
  · rename_i hparse
    refine ⟨⟨[], .nil _, rfl, ?_⟩, .refl⟩
    unfold keyExchangesIn
    rw [hparse, ite_self]
    exact accounts_nil
  · rename_i records hparse
    have hformed := (DtlsRecord.parseDatagram_eq_ok_iff.mp hparse).forall_mem
      (P := DtlsRecord.WellFormed) fun _ _ hwritten => hwritten.1
    have hoffered : records.flatMap (offered r.session.phase.established)
        = if r.session.phase.established then [] else keyExchangesIn payload := by
      unfold keyExchangesIn
      rw [hparse]
      cases r.session.phase.established with
      | true => exact List.flatMap_eq_nil_iff.mpr fun _ _ => rfl
      | false => rfl
    rw [← hoffered, wp_bind, wp_get]
    have hboth := (repeatServerFinished_moves records { r with events := [] }).append
      (receiveRecords_moves r.session.phase.established hformed) fun _ _ => Accounts.append
    rw [Takes, wp_bind] at hboth
    simp only [wp_bind]
    refine wp_imp hboth ?_
    intro _ r₁ h₁
    refine wp_imp h₁ ?_
    rintro _ r₂ ⟨moves, hdid, hfrom, haccounts⟩
    exact ⟨⟨moves, hdid.run, hdid.events, haccounts⟩, hfrom⟩

/-- **Refinement.**  A call of `receive` is a sequence of steps of the abstract machine,
    whatever it is given and whether it returns or fails. -/
theorem receive_steps (encapsulated : Bytes) (r : Receiving C handler) :
    wp (receive encapsulated) (fun _ r' => From r.session.core r')
      (fun _ r' => From r.session.core r') r :=
  wp_mono (receive_takes encapsulated r) (fun _ _ h => h.2) (fun _ _ h => h)

/-- **A call that returns is a sequence of moves.**  Its events are theirs; unless the handshake
    was complete before, they handle the payload's ClientKeyExchanges one by one. -/
theorem receive_moves (payload : Bytes) (r : Receiving C handler) : wp (receive payload)
      (fun events r' => ∃ moves, Run JoinerDoes r.session.work moves r'.session.work ∧
        events = moves.flatMap JoinerMove.events ∧
        Accounts (if r.session.phase.established then [] else keyExchangesIn payload) moves)
      (fun _ _ => True) r :=
  wp_mono_ok (receive_takes payload r) (fun _ _ h => h.1)

end Receiving

end Meshcop
