/-
  Meshcop.Joiner.Reflection — what a joiner can make its session send.

  A relayed joiner is not authenticated until its Finished verifies, so a session must not be
  usable as a reflector.  It repeats its flight at most four times and its Finished at most four
  times; every repetition carries the messages of the original in fresh records, and nothing is
  repeated once the joiner has shown that it has the Finished.

  Main results:
    * `JoinerRun.flown`             — the flights of a run and the numbers of its plaintext records;
    * `JoinerRun.refinished`        — the repetitions of the Finished;
    * `joiner_reflection_bounded`   — both, for every life of a session.
-/

import Meshcop.Joiner.Completion

namespace Meshcop

open Lib
open Dtls (Crypto HandshakeMessage Protected DtlsRecord Built)

variable {C : Crypto} {handler : JoinerHandler}

/-! ## §1. What is sent. -/

namespace JoinerMove

/-- The greeting a move offers. -/
def greetings : JoinerMove → List Greeting
  | offer _ greeting _ _ => [greeting]
  | _ => []

/-- The number of the record with the ClientHello that a move accepts. -/
def accepts : JoinerMove → List UInt64
  | offer recordSequence _ _ _ => [recordSequence]
  | _ => []

/-- The server flight a move sends. -/
def flights : JoinerMove → List (List DtlsRecord)
  | offer _ _ flight _ => [flight]
  | reoffer flight _ => [flight]
  | _ => []

/-- The Finished a move repeats. -/
def repeated : JoinerMove → List Protected
  | refinish _ entry _ => [entry]
  | _ => []

/-- The application record a move authenticates. -/
def authenticated : JoinerMove → List Protected
  | taken entry => [entry]
  | answered entry _ _ _ _ _ => [entry]
  | _ => []

/-- The response a move sends. -/
def responses : JoinerMove → List Protected
  | answered _ _ response _ _ _ => [response]
  | _ => []

/-- What a move builds once a ClientHello is accepted: all but the cookie exchange. -/
def builtAfter : JoinerMove → List Built
  | verify _ _ => []
  | move => move.built

end JoinerMove

/-- The records of a flight carry the three messages that answer the ClientHello. -/
def Greeting.SpelledBy (greeting : Greeting) (flight : List DtlsRecord) : Prop :=
  [greeting.serverHello, greeting.keyExchange, greeting.helloDone].mapM HandshakeMessage.encode
    = .ok (flight.map DtlsRecord.payload)

/-- The numbers of the plaintext records built since the ClientHello was accepted. -/
def epochZeroNumbers (moves : List JoinerMove) : List UInt64 :=
  Dtls.numbers ((moves.flatMap JoinerMove.builtAfter).flatMap Built.records)

/-! ## §2. Flights. -/

/-- The flights so far, after the ClientHello in record `number` was answered with `greeting`. -/
structure InFlight (greeting : Greeting) (number : UInt64) (moves : List JoinerMove)
    (w : JoinerWork) : Prop where
  typed : greeting.Typed
  greetings : moves.flatMap JoinerMove.greetings = [greeting]
  accepts : moves.flatMap JoinerMove.accepts = [number]
  number_lt : number.toNat < 2 ^ 48
  spelled : ∀ flight ∈ moves.flatMap JoinerMove.flights, greeting.SpelledBy flight
  kept : greeting.SpelledBy w.serverFlight
  epoch : ∀ r ∈ w.serverFlight, r.header.epoch = 0
  sized : ∀ r ∈ w.serverFlight, r.Sized
  count : (moves.flatMap JoinerMove.flights).length = 1 + w.flightRepeats.toNat
  budget : w.flightRepeats.toNat ≤ 4
  numbered : ∃ k, epochZeroNumbers moves = countUp number k ∧ w.number = number + UInt64.ofNat k

/-- What is true of the flights after any moves of a new session. -/
structure Flown (moves : List JoinerMove) (w : JoinerWork) : Prop where
  before : w.phase = .awaitingClientHello → moves.flatMap JoinerMove.greetings = [] ∧
    moves.flatMap JoinerMove.accepts = [] ∧ moves.flatMap JoinerMove.flights = [] ∧
    epochZeroNumbers moves = [] ∧ w.flightRepeats = 0
  after : w.phase ≠ .awaitingClientHello → ∃ greeting number, InFlight greeting number moves w
  encoded : ∀ built ∈ moves.flatMap JoinerMove.built, built.Encoded
  early : ∀ move ∈ moves, ∀ record datagram, move = .verify record datagram → record.WellFormed

theorem Flown.fresh : Flown [] JoinerWork.fresh where
  before _ := ⟨rfl, rfl, rfl, rfl, rfl⟩
  after h := absurd rfl h
  encoded _ h := absurd h List.not_mem_nil
  early _ h := absurd h List.not_mem_nil

/-- A move beside the flights: it may build more plaintext records, under the next numbers. -/
structure Beside (w : JoinerWork) (move : JoinerMove) (w' : JoinerWork) : Prop where
  phase : w'.phase = .awaitingClientHello ↔ w.phase = .awaitingClientHello
  greetings : move.greetings = []
  accepts : move.accepts = []
  flights : move.flights = []
  serverFlight : w'.serverFlight = w.serverFlight
  flightRepeats : w'.flightRepeats = w.flightRepeats
  waiting : w.phase = .awaitingClientHello → epochZeroNumbers [move] = []
  numbered : ∃ k, epochZeroNumbers [move] = countUp w.number k ∧
    w'.number = w.number + UInt64.ofNat k

section Step

variable {w w' : JoinerWork} {move : JoinerMove} {moves : List JoinerMove}

theorem epochZeroNumbers_snoc :
    epochZeroNumbers (moves ++ [move]) = epochZeroNumbers moves ++ epochZeroNumbers [move] := by
  unfold epochZeroNumbers
  rw [List.flatMap_append, List.flatMap_append, Dtls.numbers_append]

variable {number : UInt64}

theorem numbered_snoc {k j : Nat} (h : epochZeroNumbers moves = countUp number k)
    (hw : w.number = number + UInt64.ofNat k) (hmove : epochZeroNumbers [move] = countUp w.number j)
    (hw' : w'.number = w.number + UInt64.ofNat j) :
    epochZeroNumbers (moves ++ [move]) = countUp number (k + j) ∧
      w'.number = number + UInt64.ofNat (k + j) := by
  constructor
  · rw [epochZeroNumbers_snoc, h, hmove, hw, countUp_add]
  · rw [hw', hw, UInt64.ofNat_add, UInt64.add_assoc]

theorem Flown.encoded_snoc (h : Flown moves w) (hencoded : ∀ built ∈ move.built, built.Encoded) :
    ∀ built ∈ (moves ++ [move]).flatMap JoinerMove.built, built.Encoded := by
  intro built hmem
  rw [flatMap_snoc] at hmem
  exact (List.mem_append.mp hmem).elim (h.encoded built) (hencoded built)

theorem Flown.early_snoc (h : Flown moves w)
    (hearly : ∀ record datagram, move = .verify record datagram → record.WellFormed) :
    ∀ other ∈ moves ++ [move], ∀ record datagram, other = .verify record datagram →
      record.WellFormed := by
  intro other hmem
  rcases List.mem_append.mp hmem with hmem | hmem
  · exact h.early other hmem
  · rw [List.mem_singleton.mp hmem]
    exact hearly

theorem Flown.beside (h : Flown moves w) (hbeside : Beside w move w')
    (hencoded : ∀ built ∈ move.built, built.Encoded)
    (hearly : ∀ record datagram, move = .verify record datagram → record.WellFormed) :
    Flown (moves ++ [move]) w' := by
  refine ⟨fun hphase => ?_, fun hphase => ?_, ?_, ?_⟩
  · have hwaiting := hbeside.phase.mp hphase
    obtain ⟨hgreetings, haccepts, hflights, hnumbers, hrepeats⟩ := h.before hwaiting
    rw [flatMap_snoc_of_nil hbeside.greetings, flatMap_snoc_of_nil hbeside.accepts, flatMap_snoc_of_nil hbeside.flights,
      epochZeroNumbers_snoc, hnumbers, hbeside.waiting hwaiting, hbeside.flightRepeats]
    exact ⟨hgreetings, haccepts, hflights, rfl, hrepeats⟩
  · obtain ⟨greeting, number, hflight⟩ := h.after fun hw => hphase (hbeside.phase.mpr hw)
    obtain ⟨k, hnumbers, hnumber⟩ := hflight.numbered
    obtain ⟨j, hmore, hnext⟩ := hbeside.numbered
    refine ⟨greeting, number, hflight.typed, ?_, ?_, hflight.number_lt, ?_, ?_, ?_, ?_, ?_, ?_,
      k + j, numbered_snoc hnumbers hnumber hmore hnext⟩
    · rw [flatMap_snoc_of_nil hbeside.greetings]
      exact hflight.greetings
    · rw [flatMap_snoc_of_nil hbeside.accepts]
      exact hflight.accepts
    · rw [flatMap_snoc_of_nil hbeside.flights]
      exact hflight.spelled
    · rw [hbeside.serverFlight]
      exact hflight.kept
    · rw [hbeside.serverFlight]
      exact hflight.epoch
    · rw [hbeside.serverFlight]
      exact hflight.sized
    · rw [flatMap_snoc_of_nil hbeside.flights, hbeside.flightRepeats]
      exact hflight.count
    · rw [hbeside.flightRepeats]
      exact hflight.budget
  · exact h.encoded_snoc hencoded
  · exact h.early_snoc hearly

variable {greeting : Greeting}

/-- A move that sends the flight. -/
theorem Flown.flying (h : Flown moves w) {built : Built}
    (hflight : InFlight greeting number (moves ++ [move]) w')
    (hphase : w'.phase ≠ .awaitingClientHello) (hbuilt : move.built = [built])
    (hencoded : built.Encoded) (hmove : ∀ record datagram, move ≠ .verify record datagram) :
    Flown (moves ++ [move]) w' := by
  refine ⟨fun hw => absurd hw hphase, fun _ => ⟨greeting, number, hflight⟩, h.encoded_snoc ?_,
    h.early_snoc fun record datagram heq => absurd heq (hmove record datagram)⟩
  intro other hmem
  rw [hbuilt] at hmem
  rw [List.mem_singleton.mp hmem]
  exact hencoded

variable {bodies : List Bytes} {flight : List DtlsRecord} {datagram : Bytes}

/-- A flight as it was built first. -/
theorem FlightAt.built (h : FlightAt number bodies flight)
    (hdatagram : DtlsRecord.encodeDatagram flight = .ok datagram) :
    (Built.mk flight datagram).Encoded :=
  ⟨hdatagram, h.sized, fun r hr hepoch => absurd (h.epoch r hr) hepoch⟩

theorem FlightAt.numbers_eq (h : FlightAt number bodies flight) :
    Dtls.numbers flight = countUp number flight.length := by
  have hall : Dtls.epochZero flight = flight :=
    List.filter_eq_self.mpr fun r hr => decide_eq_true (h.epoch r hr)
  unfold Dtls.numbers
  rw [hall]
  exact h.numbers

/-- A ChangeCipherSpec and a sealed Finished. -/
theorem FlightAt.builtFinished {change : DtlsRecord} {entry : Protected}
    (h : FlightAt number [[1]] [change]) (hentry : SealedRecord entry)
    (hdatagram : DtlsRecord.encodeDatagram [change, entry.record] = .ok datagram) :
    (Built.mk [change, entry.record] datagram).Encoded ∧
      Dtls.numbers [change, entry.record] = countUp number 1 := by
  have hchange : change ∈ [change] := List.mem_singleton.mpr rfl
  refine ⟨⟨hdatagram, ?_, ?_⟩, ?_⟩
  · intro r hr
    rcases List.mem_cons.mp hr with rfl | hr
    · exact h.sized r hchange
    · rw [List.mem_singleton.mp hr]
      exact hentry.sized
  · intro r hr hepoch
    rcases List.mem_cons.mp hr with rfl | hr
    · exact absurd (h.epoch r hchange) hepoch
    · rw [List.mem_singleton.mp hr]
      exact hentry.number
  · have hnone : Dtls.numbers [entry.record] = [] := by
      simp [Dtls.numbers, Dtls.epochZero, hentry.epoch]
    have hone : Dtls.numbers [change] = countUp number 1 := by
      have hall : Dtls.epochZero [change] = [change] :=
        List.filter_eq_self.mpr fun r hr => decide_eq_true (h.epoch r hr)
      unfold Dtls.numbers
      rw [hall]
      exact h.numbers
    rw [show [change, entry.record] = [change] ++ [entry.record] from rfl, Dtls.numbers_append,
      hone, hnone, List.append_nil]

/-- A flight under fresh numbers. -/
theorem renumbered_flight (next : UInt64) (hepoch : ∀ r ∈ flight, r.header.epoch = 0)
    (hsized : ∀ r ∈ flight, r.Sized) :
    let again := Dtls.renumberEpochZeroFlight flight next
    again.1.map DtlsRecord.payload = flight.map DtlsRecord.payload ∧
      (∀ r ∈ again.1, r.header.epoch = 0) ∧ (∀ r ∈ again.1, r.Sized) ∧
      Dtls.numbers again.1 = countUp next flight.length ∧
      again.2 = next + UInt64.ofNat flight.length := by
  intro again
  have hall : Dtls.epochZero flight = flight :=
    List.filter_eq_self.mpr fun r hr => decide_eq_true (hepoch r hr)
  obtain ⟨hnumbers, hnext⟩ := Dtls.numbers_renumber flight next
  rw [hall] at hnumbers hnext
  refine ⟨Dtls.payloads_renumber flight next, ?_, ?_, hnumbers, hnext⟩
  · exact Dtls.forall_mem_renumber (P := fun r => r.header.epoch = 0)
      (fun _ _ hsame h => hsame.epoch.trans h) hepoch
  · exact Dtls.forall_mem_renumber (fun _ _ hsame => hsame.sized) hsized

/-- A move that sends nothing. -/
theorem Flown.silent (h : Flown moves w) (hsilent : move.built = [])
    (hphase : w'.phase = w.phase) (hflight : w'.serverFlight = w.serverFlight)
    (hrepeats : w'.flightRepeats = w.flightRepeats) (hnumber : w'.number = w.number) :
    Flown (moves ++ [move]) w' := by
  have hnone : epochZeroNumbers [move] = [] := by
    cases move <;> first | rfl | cases hsilent
  refine h.beside ⟨by rw [hphase], ?_, ?_, ?_, hflight, hrepeats, fun _ => hnone, 0, hnone, ?_⟩
    ?_ ?_
  · cases move <;> first | rfl | cases hsilent
  · cases move <;> first | rfl | cases hsilent
  · cases move <;> first | rfl | cases hsilent
  · rw [hnumber]
    exact (UInt64.add_zero _).symm
  · rw [hsilent]
    exact List.forall_mem_nil _
  · rintro record datagram rfl
    cases hsilent

/-- A move that sends a Finished. -/
theorem Flown.finished (h : Flown moves w) {change : DtlsRecord} {entry : Protected}
    (hchange : FlightAt w.number [[1]] [change]) (hentry : SealedRecord entry)
    (hdatagram : DtlsRecord.encodeDatagram [change, entry.record] = .ok datagram)
    (hmove : (∃ closing, closing.change = change ∧ closing.sealed = entry ∧
      move = .finish closing datagram) ∨ move = .refinish change entry datagram)
    (hphase : w.phase ≠ .awaitingClientHello) (hphase' : w'.phase ≠ .awaitingClientHello)
    (hflight : w'.serverFlight = w.serverFlight) (hrepeats : w'.flightRepeats = w.flightRepeats)
    (hnumber : w'.number = w.number + 1) : Flown (moves ++ [move]) w' := by
  obtain ⟨hencoded, hnumbers⟩ := hchange.builtFinished hentry hdatagram
  have hbuilt : move.built = [⟨[change, entry.record], datagram⟩] := by
    rcases hmove with ⟨closing, rfl, rfl, rfl⟩ | rfl <;> rfl
  have hmine : epochZeroNumbers [move] = countUp w.number 1 := by
    rcases hmove with ⟨closing, rfl, rfl, rfl⟩ | rfl <;> exact hnumbers
  refine h.beside ⟨?_, ?_, ?_, ?_, hflight, hrepeats, fun hw => absurd hw hphase, 1, hmine, hnumber⟩
    ?_ ?_
  · exact ⟨fun hw => absurd hw hphase', fun hw => absurd hw hphase⟩
  · rcases hmove with ⟨_, -, -, rfl⟩ | rfl <;> rfl
  · rcases hmove with ⟨_, -, -, rfl⟩ | rfl <;> rfl
  · rcases hmove with ⟨_, -, -, rfl⟩ | rfl <;> rfl
  · intro built hmem
    rw [hbuilt] at hmem
    rw [List.mem_singleton.mp hmem]
    exact hencoded
  · rintro record other rfl
    rcases hmove with ⟨_, -, -, heq⟩ | heq <;> cases heq

theorem ne_waiting_of_established {phase : JoinerSessionPhase} (h : phase.established = true) :
    phase ≠ .awaitingClientHello := by
  rintro rfl
  cases h

/-- The flight goes out for the first time. -/
theorem Flown.offered (h : Flown moves w) (hphase : w.phase = .awaitingClientHello)
    (hlt : number.toNat < 2 ^ 48) (htyped : greeting.Typed)
    (hbodies : [greeting.serverHello, greeting.keyExchange, greeting.helloDone].mapM
      HandshakeMessage.encode = .ok bodies) (hflight : FlightAt number bodies flight) :
    InFlight greeting number (moves ++ [.offer number greeting flight datagram])
      { w.did (JoinerMove.offer number greeting flight datagram).actions with
        phase := .awaitingClientFlight, messages := w.messages ++ greeting.messages
        serverFlight := flight, number := number + 3 } := by
  obtain ⟨hgreetings, haccepts, hflights, hnumbers, hrepeats⟩ := h.before hphase
  have hspelled : greeting.SpelledBy flight := by
    unfold Greeting.SpelledBy
    rw [hflight.payloads]
    exact hbodies
  have hthree : flight.length = 3 := by
    have hlength := congrArg List.length hflight.payloads
    rw [List.length_map] at hlength
    rw [hlength]
    exact length_of_mapM hbodies
  refine ⟨htyped, ?_, ?_, hlt, ?_, hspelled, hflight.epoch, hflight.sized, ?_, ?_, 3, ?_, rfl⟩
  · rw [flatMap_snoc, hgreetings]
    rfl
  · rw [flatMap_snoc, haccepts]
    rfl
  · intro other hmem
    rw [flatMap_snoc, hflights] at hmem
    rw [List.mem_singleton.mp hmem]
    exact hspelled
  · rw [flatMap_snoc, hflights]
    show 1 = 1 + w.flightRepeats.toNat
    rw [hrepeats]
    rfl
  · show w.flightRepeats.toNat ≤ 4
    rw [hrepeats]
    decide
  · rw [epochZeroNumbers_snoc, hnumbers, ← hthree, ← hflight.numbers_eq]
    show Dtls.numbers (flight ++ []) = _
    rw [List.append_nil]

/-- The flight goes out again, under the next numbers. -/
theorem InFlight.reoffered (h : InFlight greeting number moves w)
    (hrepeat : w.flightRepeats < MAX_DUPLICATE_FLIGHT_RETRANSMISSIONS) :
    let again := Dtls.renumberEpochZeroFlight w.serverFlight w.number
    InFlight greeting number (moves ++ [.reoffer again.1 datagram])
      { w.did [.emitted (.transmit datagram false)] with
        flightRepeats := w.flightRepeats + 1, serverFlight := again.1, number := again.2 } := by
  obtain ⟨k, hnumbers, hnumber⟩ := h.numbered
  obtain ⟨hpayloads, hepoch, hsized, hfresh, hnext⟩ := renumbered_flight w.number h.epoch h.sized
  have hspelled : greeting.SpelledBy (Dtls.renumberEpochZeroFlight w.serverFlight w.number).1 := by
    unfold Greeting.SpelledBy
    rw [hpayloads]
    exact h.kept
  have hroom : w.flightRepeats.toNat < 4 := hrepeat
  have hcount : (w.flightRepeats + 1).toNat = w.flightRepeats.toNat + 1 := by
    rw [UInt8.toNat_add]
    have hone : (1 : UInt8).toNat = 1 := rfl
    omega
  refine ⟨h.typed, ?_, ?_, h.number_lt, ?_, hspelled, hepoch, hsized, ?_, ?_,
    k + w.serverFlight.length, ?_⟩
  · rw [flatMap_snoc_of_nil rfl]
    exact h.greetings
  · rw [flatMap_snoc_of_nil rfl]
    exact h.accepts
  · intro other hmem
    rw [flatMap_snoc] at hmem
    rcases List.mem_append.mp hmem with hmem | hmem
    · exact h.spelled other hmem
    · rw [List.mem_singleton.mp hmem]
      exact hspelled
  · rw [flatMap_snoc, List.length_append, h.count]
    show 1 + w.flightRepeats.toNat + 1 = 1 + (w.flightRepeats + 1).toNat
    rw [hcount]
    omega
  · show (w.flightRepeats + 1).toNat ≤ 4
    omega
  · refine numbered_snoc hnumbers hnumber ?_ hnext
    rw [← hfresh]
    show Dtls.numbers ((Dtls.renumberEpochZeroFlight w.serverFlight w.number).1 ++ []) = _
    rw [List.append_nil]

/-- **One move** keeps the account of the flights. -/
theorem Flown.step (h : Flown moves w) (hdoes : JoinerDoes w move w') :
    Flown (moves ++ [move]) w' := by
  cases hdoes with
  | @verify record datagram hphase hformed hdatagram =>
    refine h.beside ⟨Iff.rfl, rfl, rfl, rfl, rfl, rfl, fun _ => rfl, 0, rfl, ?_⟩ ?_ ?_
    · exact (UInt64.add_zero _).symm
    · intro built hmem
      rw [List.mem_singleton.mp hmem]
      refine ⟨hdatagram, ?_, ?_⟩
      · intro r hr
        rw [List.mem_singleton.mp hr]
        exact hformed.sized
      · intro r hr _
        rw [List.mem_singleton.mp hr]
        exact hformed.numbered
    · intro record' datagram' heq
      cases heq
      exact hformed
  | @offer recordSequence greeting flight datagram bodies hphase hlt htyped hbodies hflight
      hdatagram =>
    exact h.flying (h.offered hphase hlt htyped hbodies hflight) (fun h => by cases h) rfl
      (hflight.built hdatagram) (fun _ _ h => by cases h)
  | @reoffer datagram hphase hrepeat hdatagram =>
    have hwaiting : w.phase ≠ .awaitingClientHello := by
      rw [hphase]
      decide
    obtain ⟨greeting, number, hflight⟩ := h.after hwaiting
    obtain ⟨-, hepoch, hsized, -⟩ := renumbered_flight w.number hflight.epoch hflight.sized
    exact h.flying (hflight.reoffered hrepeat) hwaiting rfl
      ⟨hdatagram, hsized, fun r hr hne => absurd (hepoch r hr) hne⟩ (fun _ _ h => by cases h)
  | key => exact h.silent rfl rfl rfl rfl rfl
  | rekey => exact h.silent rfl rfl rfl rfl rfl
  | opened => exact h.silent rfl rfl rfl rfl rfl
  | taken => exact h.silent rfl rfl rfl rfl rfl
  | @finish closing datagram hphase _ _ _ _ hchange hentry hdatagram =>
    refine h.finished hchange hentry hdatagram (Or.inl ⟨closing, rfl, rfl, rfl⟩) ?_ (fun h => by cases h)
      rfl rfl rfl
    rcases hphase with hphase | hphase <;> rw [hphase] <;> decide
  | @refinish change entry datagram hphase _ _ _ hchange hentry hdatagram =>
    have hwaiting := ne_waiting_of_established hphase
    exact h.finished hchange hentry hdatagram (Or.inr rfl) hwaiting hwaiting rfl rfl rfl
  | @answered entry response asked datagram accepted final hphase _ _ _ _ hresponse hdatagram =>
    have hnone : epochZeroNumbers [.answered entry asked response datagram accepted final] = [] := by
      show Dtls.numbers [response.record] = []
      simp [Dtls.numbers, Dtls.epochZero, hresponse.epoch]
    have hwaiting := ne_waiting_of_established hphase
    refine h.beside ⟨⟨(fun h => by cases h), fun hw => absurd hw hwaiting⟩, rfl, rfl, rfl, rfl, rfl,
      fun _ => hnone, 0, hnone, (UInt64.add_zero _).symm⟩ ?_ (fun _ _ h => by cases h)
    intro built hmem
    rw [List.mem_singleton.mp hmem]
    refine ⟨hdatagram, ?_, ?_⟩
    · intro r hr
      rw [List.mem_singleton.mp hr]
      exact hresponse.sized
    · intro r hr _
      rw [List.mem_singleton.mp hr]
      exact hresponse.number

theorem JoinerRun.flown (h : JoinerRun .fresh moves w) : Flown moves w :=
  h.invariant (I := Flown) .fresh fun h hdoes => h.step hdoes

end Step

/-! ## §3. The Finished, again. -/

/-- A repeated Finished is the one last sent, and no application record came before it. -/
def Current (before : List JoinerMove) (move : JoinerMove) : Prop :=
  ∀ entry ∈ move.repeated, before.flatMap JoinerMove.authenticated = [] ∧
    ∃ closing, (before.flatMap JoinerMove.closings).getLast? = some closing ∧
      entry.plaintext = closing.sealed.plaintext

/-- What is true of the repetitions after any moves of a new session. -/
structure Refinished (moves : List JoinerMove) (w : JoinerWork) : Prop where
  count : (moves.flatMap JoinerMove.repeated).length = w.finishedRepeats.toNat
  budget : w.finishedRepeats.toNat ≤ 4
  last : w.serverFinished ≠ [] → ∃ closing,
    (moves.flatMap JoinerMove.closings).getLast? = some closing ∧
      w.serverFinished = closing.sealed.plaintext
  spent : moves.flatMap JoinerMove.authenticated ≠ [] → w.phase.established = true ∧
    (moves.flatMap JoinerMove.carried).length ≤ (moves.flatMap JoinerMove.verified).length ∧
    ((moves.flatMap JoinerMove.carried).length = (moves.flatMap JoinerMove.verified).length →
      w.serverFinished = [])
  current : Justified Current moves

theorem Refinished.fresh : Refinished [] JoinerWork.fresh where
  count := rfl
  budget := by decide
  last h := absurd rfl h
  spent h := absurd rfl h
  current := justified_nil

section Step

variable {w w' : JoinerWork} {move : JoinerMove} {moves : List JoinerMove}

theorem current_snoc (h : Justified Current moves) (hmove : Current moves move) :
    Justified Current (moves ++ [move]) := by
  refine justified_append.mpr ⟨h, justified_cons.mpr ⟨?_, justified_nil⟩⟩
  rw [List.append_nil]
  exact hmove

/-- A move that leaves the Finished alone. -/
theorem Refinished.pass (h : Refinished moves w) (hdoes : JoinerDoes w move w')
    (hrepeated : move.repeated = []) (hclosings : move.closings = [])
    (hauthenticated : move.authenticated = [])
    (hcarried : w.phase.established = true → move.carried = [])
    (hfinished : w'.serverFinished = w.serverFinished)
    (hrepeats : w'.finishedRepeats = w.finishedRepeats) : Refinished (moves ++ [move]) w' := by
  have hverified : move.verified = [] := by
    rw [move.verified_eq, hclosings]
    rfl
  refine ⟨?_, ?_, ?_, ?_, current_snoc h.current ?_⟩
  · rw [flatMap_snoc_of_nil hrepeated, hrepeats]
    exact h.count
  · rw [hrepeats]
    exact h.budget
  · rw [flatMap_snoc_of_nil hclosings, hfinished]
    exact h.last
  · rw [flatMap_snoc_of_nil hauthenticated]
    intro hne
    obtain ⟨hestablished, hle, hspent⟩ := h.spent hne
    rw [flatMap_snoc_of_nil (hcarried hestablished), flatMap_snoc_of_nil hverified, hfinished]
    exact ⟨hdoes.established_iff.mpr (Or.inl hestablished), hle, hspent⟩
  · intro entry hmem
    rw [hrepeated] at hmem
    exact absurd hmem List.not_mem_nil

/-- A move that authenticates application data drops the Finished. -/
theorem Refinished.drop (h : Refinished moves w) (hrepeated : move.repeated = [])
    (hcarried : move.carried = []) (hverified : move.verified = [])
    (hsettled : moves.flatMap JoinerMove.verified = moves.flatMap JoinerMove.carried)
    (hestablished : w'.phase.established = true) (hfinished : w'.serverFinished = [])
    (hrepeats : w'.finishedRepeats = w.finishedRepeats) : Refinished (moves ++ [move]) w' := by
  refine ⟨?_, ?_, fun hne => absurd hfinished hne, fun _ => ?_, current_snoc h.current ?_⟩
  · rw [flatMap_snoc_of_nil hrepeated, hrepeats]
    exact h.count
  · rw [hrepeats]
    exact h.budget
  · rw [flatMap_snoc_of_nil hcarried, flatMap_snoc_of_nil hverified, hsettled]
    exact ⟨hestablished, Nat.le_refl _, fun _ => hfinished⟩
  · intro entry hmem
    rw [hrepeated] at hmem
    exact absurd hmem List.not_mem_nil

/-- **One move** keeps the account of the repetitions. -/
theorem Refinished.step (h : Refinished moves w) (hsettled : Settled (moves ++ [move]))
    (hdoes : JoinerDoes w move w') : Refinished (moves ++ [move]) w' := by
  have hbalanced : move.closes = false →
      moves.flatMap JoinerMove.verified = moves.flatMap JoinerMove.carried :=
    hsettled moves move [] rfl
  cases hdoes with
  | @finish closing datagram hphase hkeyed hclient hserver hbody hchange hentry hdatagram =>
    refine ⟨?_, h.budget, fun _ => ⟨closing, ?_, rfl⟩, fun hne => ?_, current_snoc h.current ?_⟩
    · rw [flatMap_snoc_of_nil rfl]
      exact h.count
    · rw [flatMap_snoc]
      exact List.getLast?_concat
    · -- one more Finished was verified than carried, until the next one settles it
      rw [flatMap_snoc_of_nil rfl] at hne
      obtain ⟨-, hle, -⟩ := h.spent hne
      rw [flatMap_snoc_of_nil (f := JoinerMove.carried) rfl, flatMap_snoc, List.length_append]
      refine ⟨rfl, Nat.le_add_right_of_le hle, fun heq => ?_⟩
      have hone : (JoinerMove.finish closing datagram).verified.length = 1 := rfl
      omega
    · exact List.forall_mem_nil _
  | @refinish change entry datagram hphase hcached hrepeat hbody hchange hentry hdatagram =>
    have hsame := hbalanced rfl
    have hnone : moves.flatMap JoinerMove.authenticated = [] := by
      by_contra hne
      exact hcached ((h.spent hne).2.2 (congrArg List.length hsame.symm))
    have hroom : w.finishedRepeats.toNat < 4 := hrepeat
    have hcount : (w.finishedRepeats + 1).toNat = w.finishedRepeats.toNat + 1 := by
      rw [UInt8.toNat_add]
      have hone : (1 : UInt8).toNat = 1 := rfl
      omega
    obtain ⟨closing, hlast, hplaintext⟩ := h.last hcached
    refine ⟨?_, ?_, ?_, ?_, current_snoc h.current ?_⟩
    · rw [flatMap_snoc, List.length_append, h.count]
      exact hcount.symm
    · show (w.finishedRepeats + 1).toNat ≤ 4
      omega
    · rw [flatMap_snoc_of_nil rfl]
      exact h.last
    · rw [flatMap_snoc_of_nil rfl]
      exact fun hne => absurd hnone hne
    · intro other hmem
      rw [List.mem_singleton.mp hmem]
      exact ⟨hnone, closing, hlast, hbody.trans hplaintext⟩
  | taken hphase => exact h.drop rfl rfl rfl (hbalanced rfl) hphase rfl rfl
  | answered hphase => exact h.drop rfl rfl rfl (hbalanced rfl) rfl rfl rfl
  | opened hphase hkeyed htype =>
    refine h.pass (.opened hphase hkeyed htype) rfl rfl rfl (fun hestablished => ?_) rfl rfl
    rw [hphase] at hestablished
    cases hestablished
  | _ => exact h.pass (by constructor <;> assumption) rfl rfl rfl (fun _ => rfl) rfl rfl

theorem JoinerRun.refinished (h : JoinerRun .fresh moves w) (hsettled : Settled moves) :
    Refinished moves w := by
  refine h.invariant (I := fun moves w => Settled moves → Refinished moves w) (fun _ => .fresh) ?_
    hsettled
  intro moves w move w' ih hdoes hsettled
  exact (ih (justified_append.mp hsettled).1).step hsettled hdoes

end Step

/-! ## §4. Every life. -/

/-- The application record an action authenticates. -/
def JoinerAction.openedApplication : JoinerAction → Option Protected
  | opened entry => if entry.record.header.contentType = .applicationData then some entry else none
  | _ => none

section Step

variable {w w' : JoinerWork} {move : JoinerMove} {moves : List JoinerMove}

theorem JoinerDoes.datagrams (h : JoinerDoes w move w') :
    move.events.filterMap JoinerSessionEvent.datagram = move.built.map Built.datagram := by
  cases h with
  | @answered _ _ _ datagram accepted final _ _ _ hfinal =>
    have hnone : final.filterMap JoinerSessionEvent.datagram = [] := by
      refine List.filterMap_eq_nil_iff.mpr fun event hmem => ?_
      obtain ⟨info, rfl⟩ := hfinal event hmem
      rfl
    exact congrArg (datagram :: ·) hnone
  | _ => rfl

theorem JoinerRun.datagrams (h : JoinerRun w moves w') :
    (moves.flatMap JoinerMove.events).filterMap JoinerSessionEvent.datagram
      = (moves.flatMap JoinerMove.built).map Built.datagram := by
  refine h.invariant (I := fun moves _ =>
    (moves.flatMap JoinerMove.events).filterMap JoinerSessionEvent.datagram
      = (moves.flatMap JoinerMove.built).map Built.datagram) rfl ?_
  intro moves t move u ih hdoes
  rw [flatMap_snoc, flatMap_snoc, List.filterMap_append, List.map_append, ih, hdoes.datagrams]

theorem JoinerDoes.openedApplications (h : JoinerDoes w move w') :
    move.actions.filterMap JoinerAction.openedApplication = move.authenticated := by
  cases h with
  | @opened entry _ _ htype =>
    show [JoinerAction.opened entry].filterMap _ = []
    simp [JoinerAction.openedApplication, htype]
  | @taken entry _ htype =>
    show [JoinerAction.opened entry].filterMap _ = [entry]
    simp [JoinerAction.openedApplication, htype]
  | @answered entry response asked datagram accepted final _ htype hasked hfinal =>
    have hnone : asked.filterMap JoinerAction.openedApplication = [] := by
      refine List.filterMap_eq_nil_iff.mpr fun action hmem => ?_
      obtain ⟨info, answer, rfl⟩ := hasked action hmem
      rfl
    have hlast : (final.map JoinerAction.emitted).filterMap JoinerAction.openedApplication = [] := by
      rw [List.filterMap_map]
      exact List.filterMap_eq_nil_iff.mpr fun _ _ => rfl
    have hhead : [JoinerAction.opened entry].filterMap JoinerAction.openedApplication = [entry] := by
      simp [JoinerAction.openedApplication, htype]
    have hparts : (JoinerMove.answered entry asked response datagram accepted final).actions
        = [.opened entry] ++ asked ++ [.sealed response, .emitted (.transmit datagram accepted)] ++
          final.map .emitted := by
      simp [JoinerMove.actions]
    rw [hparts]
    simp only [List.filterMap_append, hhead, hnone, hlast]
    rfl
  | _ => rfl

theorem JoinerRun.openedApplications (h : JoinerRun .fresh moves w) :
    w.trace.filterMap JoinerAction.openedApplication = moves.flatMap JoinerMove.authenticated := by
  refine h.invariant (I := fun moves w => w.trace.filterMap JoinerAction.openedApplication
    = moves.flatMap JoinerMove.authenticated) rfl ?_
  intro moves t move u ih hdoes
  rw [hdoes.trace, flatMap_snoc, List.filterMap_append, ih, hdoes.openedApplications]

end Step

/-- Every record in the history of a session was sealed by the server's side of its keys. -/
theorem sealed_of_steps {c c' : JoinerCore} (h : JoinerSteps C c c') (hstart : c.trace = [])
    {entry : Protected} (hmem : .sealed entry ∈ c'.trace) :
    ∃ keyMaterial sequence contentType, SealsUnder C keyMaterial sequence contentType entry := by
  induction h with
  | refl =>
    rw [hstart] at hmem
    exact absurd hmem List.not_mem_nil
  | tail _ hstep ih =>
    cases hstep with
    | finish keyMaterial message other datagram hphase hkeys hlast hverifies hseals =>
      rcases List.mem_append.mp hmem with hmem | hmem
      · exact ih hmem
      · obtain rfl : entry = other := by simpa using hmem
        exact ⟨keyMaterial, _, _, hseals⟩
    | refinish keyMaterial other datagram hphase hkeys hseals =>
      rcases List.mem_append.mp hmem with hmem | hmem
      · exact ih hmem
      · obtain rfl : entry = other := by simpa using hmem
        exact ⟨keyMaterial, _, _, hseals⟩
    | respond keyMaterial opened request info accepted response datagram _ _ _ _ _ _ _ hseals =>
      rcases List.mem_append.mp hmem with hmem | hmem
      · exact ih hmem
      · rcases List.mem_append.mp hmem with hmem | hmem
        · obtain rfl : entry = response := by simpa using hmem
          exact ⟨keyMaterial, _, _, hseals⟩
        · split at hmem <;> simp at hmem
    | hello | offer => exact ih hmem
    | _ =>
      rcases List.mem_append.mp hmem with hmem | hmem
      · exact ih hmem
      · simp at hmem

theorem JoinerLife.steps {s t : JoinerSession C} {calls : List Served}
    (h : JoinerLife handler s calls t) : JoinerSteps C s.core t.core := by
  induction h with
  | start => exact .refl
  | @served calls r r' payload events _ returned ih =>
    have hcall := of_wp_ok (Receiving.receive_steps payload r) returned
    exact ih.trans hcall

/-- A response answers the application record of its own move. -/
theorem JoinerMove.responses_le (move : JoinerMove) :
    move.responses.length ≤ move.authenticated.length := by
  cases move with
  | answered => exact Nat.le_refl _
  | _ => exact Nat.zero_le _

/-- The moves account for a life: they are a run of the session's machine, and they show its
    events, its datagrams with the records these were built from, the application records it
    authenticated and the records it sealed. -/
structure AccountsFor (moves : List JoinerMove) (calls : List Served) (s : JoinerSession C) :
    Prop where
  run : JoinerRun .fresh moves s.work
  events : emitted calls = moves.flatMap JoinerMove.events
  datagrams : relayedBack calls = (moves.flatMap JoinerMove.built).map Built.datagram
  encoded : ∀ built ∈ moves.flatMap JoinerMove.built, built.Encoded
  authenticated : s.trace.filterMap JoinerAction.openedApplication
    = moves.flatMap JoinerMove.authenticated
  sealed : ∀ entry ∈ moves.flatMap JoinerMove.repeated, ∃ keyMaterial sequence contentType,
    SealsUnder C keyMaterial sequence contentType entry
  settled : Settled moves

/-- **Every life has an account.** -/
theorem JoinerLife.accountsFor {joinerIid : FixedBytes 8}
    {joinerUdpPort joinerRouterLocator : UInt16} {pskd : Text} {now : Nat} {rng : C.Rng}
    {calls : List Served} {s : JoinerSession C} (hlife : JoinerLife handler
      (JoinerSession.new joinerIid joinerUdpPort joinerRouterLocator pskd now rng).1 calls s) :
    ∃ moves, AccountsFor moves calls s := by
  obtain ⟨moves, hmoves, hevents, haccounts⟩ := hlife.moves rfl
  have hrun : JoinerRun .fresh moves s.work := hmoves
  refine ⟨moves, hrun, hevents, ?_, hrun.flown.encoded, hrun.openedApplications, ?_,
    haccounts.settled⟩
  · unfold relayedBack
    rw [hevents, hrun.datagrams]
  · intro entry hmem
    refine sealed_of_steps hlife.steps rfl ?_
    show .sealed entry ∈ s.work.trace
    rw [hrun.handshaken.trace]
    obtain ⟨move, hmove, hentry⟩ := List.mem_flatMap.mp hmem
    refine List.mem_flatMap.mpr ⟨move, hmove, ?_⟩
    cases move with
    | refinish change other datagram =>
      rw [List.mem_singleton.mp hentry]
      exact List.mem_cons_self
    | _ => exact absurd hentry List.not_mem_nil

/-- Reflection is bounded and faithful: at most five server flights, all of one greeting; at most
    four repetitions of the Finished, each current; at most one response to an application record;
    and plaintext numbers that go up while they fit the wire. -/
structure ReflectsFaithfully (moves : List JoinerMove) : Prop where
  flights : (moves.flatMap JoinerMove.flights).length ≤ 1 + 4
  faithful : ∀ flight ∈ moves.flatMap JoinerMove.flights, ∃ greeting,
    moves.flatMap JoinerMove.greetings = [greeting] ∧ greeting.Typed ∧ greeting.SpelledBy flight
  repeats : (moves.flatMap JoinerMove.repeated).length ≤ 4
  current : Justified Current moves
  responses : ∀ move ∈ moves, move.responses.length ≤ move.authenticated.length
  numbers : (∀ x ∈ epochZeroNumbers moves, x.toNat < 2 ^ 48) →
    (epochZeroNumbers moves).Pairwise fun x y => x.toNat < y.toNat

/-- **What a joiner can make its session send is bounded and faithful**, in every life. -/
theorem joiner_reflection_bounded (joinerIid : FixedBytes 8)
    (joinerUdpPort joinerRouterLocator : UInt16) (pskd : Text) (now : Nat) (rng : C.Rng)
    {calls : List Served} {s : JoinerSession C}
    (hlife : JoinerLife handler
      (JoinerSession.new joinerIid joinerUdpPort joinerRouterLocator pskd now rng).1 calls s) :
    ∃ moves, AccountsFor moves calls s ∧ ReflectsFaithfully moves := by
  obtain ⟨moves, haccount⟩ := hlife.accountsFor
  have hflown := haccount.run.flown
  have hrefinished := haccount.run.refinished haccount.settled
  refine ⟨moves, haccount, ?_⟩
  by_cases hphase : s.work.phase = .awaitingClientHello
  · obtain ⟨-, -, hflights, hnumbers, -⟩ := hflown.before hphase
    refine ⟨?_, ?_, ?_, hrefinished.current, ?_, ?_⟩
    · rw [hflights]
      exact Nat.zero_le _
    · rw [hflights]
      exact List.forall_mem_nil _
    · rw [hrefinished.count]
      exact hrefinished.budget
    · exact fun move _ => move.responses_le
    · rw [hnumbers]
      exact fun _ => .nil
  · obtain ⟨greeting, number, hflight⟩ := hflown.after hphase
    obtain ⟨k, hnumbers, -⟩ := hflight.numbered
    refine ⟨?_, ?_, ?_, hrefinished.current, ?_, ?_⟩
    · rw [hflight.count]
      exact Nat.add_le_add_left hflight.budget 1
    · intro flight hmem
      exact ⟨greeting, hflight.greetings, hflight.typed, hflight.spelled flight hmem⟩
    · rw [hrefinished.count]
      exact hrefinished.budget
    · exact fun move _ => move.responses_le
    · rw [hnumbers]
      exact countUp_increasing

/-- The life of a session whose joiner sends everything twice. -/
def repeatedLife : List Served × Receiving Crypto.transparent willing :=
  Receiving.serve ((joinerPayloads 3).flatMap fun payload => [payload, payload]) freshJoiner

/-- Two cookies, the flight twice and the Finished twice. -/
theorem joiner_reflection_bounded_repeated : (relayedBack repeatedLife.1).length = 6 ∧
    JoinerLife willing freshJoiner.session repeatedLife.1 repeatedLife.2.session ∧
    ∃ moves, AccountsFor moves repeatedLife.1 repeatedLife.2.session ∧
      ReflectsFaithfully moves := by
  have hlife : JoinerLife willing freshJoiner.session repeatedLife.1 repeatedLife.2.session := by
    unfold repeatedLife
    exact Receiving.serve_life _ freshJoiner
  exact ⟨by decide +kernel, hlife, joiner_reflection_bounded soleIid 1000 0xfc00 [] 0 () hlife⟩

end Meshcop
