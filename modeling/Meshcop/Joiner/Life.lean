/-
  Meshcop.Joiner.Life — the life of a joiner session.

  The driver feeds a session one payload after the other and drops it as soon as a call of
  `receive` fails, so a session lives through calls that return.  Between two calls the
  application's state and the random source may have become anything.

  Main results:
    * `receive_forward`   — no call takes the phase back, whether it returns or fails;
    * `JoinerLife.moves`  — a life is one run of `JoinerDoes`, with the events of its calls.
-/

import Meshcop.Dtls.Conversation
import Meshcop.Joiner.Moves

namespace Meshcop

open Lib JoinerMove
open Dtls (Crypto HandshakeMessage)

variable {C : Crypto} {handler : JoinerHandler}

/-! ## §1. Calls that return. -/

/-- A call: what arrived, and the events it returned. -/
structure Served where
  payload : Bytes
  events : List JoinerSessionEvent

/-- The life of a session, from `s` on. -/
inductive JoinerLife (handler : JoinerHandler) (s : JoinerSession C) :
    List Served → JoinerSession C → Prop where
  | start : JoinerLife handler s [] s
  | served {calls : List Served} {r r' : Receiving C handler} {payload : Bytes}
      {events : List JoinerSessionEvent} (life : JoinerLife handler s calls r.session)
      (returned : Receiving.receive payload r = .ok events r') :
      JoinerLife handler s (calls ++ [⟨payload, events⟩]) r'.session

/-- All events of a life. -/
def emitted (calls : List Served) : List JoinerSessionEvent :=
  calls.flatMap Served.events

theorem emitted_append (calls more : List Served) :
    emitted (calls ++ more) = emitted calls ++ emitted more :=
  List.flatMap_append

/-- The ClientKeyExchanges that reach a session: those in the clear, up to the call that
    connects it. -/
def keyExchangesOffered : List Served → List HandshakeMessage
  | [] => []
  | call :: calls =>
    keyExchangesIn call.payload ++
      if .connected ∈ call.events then [] else keyExchangesOffered calls

theorem keyExchangesOffered_snoc (calls : List Served) (call : Served) :
    keyExchangesOffered (calls ++ [call]) = keyExchangesOffered calls ++
      if .connected ∈ emitted calls then [] else keyExchangesIn call.payload := by
  induction calls with
  | nil => simp [keyExchangesOffered, emitted]
  | cons first calls ih =>
    rw [List.cons_append]
    unfold keyExchangesOffered
    by_cases hfirst : .connected ∈ first.events
    · have hall : .connected ∈ emitted (first :: calls) := List.mem_append_left _ hfirst
      rw [if_pos hfirst, if_pos hfirst, if_pos hall, List.append_nil, List.append_nil]
    have hiff : .connected ∈ emitted (first :: calls) ↔ .connected ∈ emitted calls := by
      show .connected ∈ first.events ++ emitted calls ↔ _
      rw [List.mem_append]
      exact or_iff_right hfirst
    rw [if_neg hfirst, if_neg hfirst, ih, List.append_assoc]
    simp only [hiff]

/-- What a new session starts with. -/
def JoinerWork.fresh : JoinerWork :=
  { phase := .awaitingClientHello, messages := [], keyMaterial := none, keyExchange := none
    serverFlight := [], serverFinished := [], flightRepeats := 0, finishedRepeats := 0
    number := 0, trace := [] }

/-! ## §2. The phases. -/

/-- The phases in their order. -/
def JoinerSessionPhase.rank : JoinerSessionPhase → Nat
  | awaitingClientHello => 0
  | awaitingClientFlight => 1
  | connected => 2
  | finalized => 3

theorem JoinerSessionPhase.rank_le (phase : JoinerSessionPhase) : phase.rank ≤ 3 := by
  cases phase <;> decide

theorem JoinerStep.forward {c c' : JoinerCore} (h : JoinerStep C c c') :
    c.phase.rank ≤ c'.phase.rank := by
  cases h with
  | offer hphase =>
    show c.phase.rank ≤ 1
    rw [hphase]
    decide
  | finish _ _ _ _ hphase =>
    show c.phase.rank ≤ 2
    rcases hphase with hphase | hphase <;> rw [hphase] <;> decide
  | respond => exact c.phase.rank_le
  | _ => exact Nat.le_refl _

/-- **The phase only moves forward**, whether a call returns or fails. -/
theorem receive_forward (payload : Bytes) (r : Receiving C handler) :
    r.session.phase.rank ≤ (after (Receiving.receive payload) r).session.phase.rank := by
  have hsteps := after_of_wp (Receiving.receive_steps payload r)
  have hrank : ∀ {c c' : JoinerCore}, JoinerSteps C c c' → c.phase.rank ≤ c'.phase.rank := by
    intro c c' h
    induction h with
    | refl => exact Nat.le_refl _
    | tail _ hstep ih => exact ih.trans hstep.forward
  exact hrank hsteps

/-! ## §3. The moves of a life. -/

/-- Moves one after the other. -/
abbrev JoinerRun := Run JoinerDoes

/-- The handshake a move completes. -/
def JoinerMove.closings : JoinerMove → List Closing
  | finish closing _ => [closing]
  | _ => []

theorem JoinerMove.verified_eq (move : JoinerMove) :
    move.verified = move.closings.map Closing.client := by
  cases move <;> rfl

theorem verified_eq_closings (moves : List JoinerMove) :
    moves.flatMap verified = (moves.flatMap closings).map Closing.client := by
  rw [List.map_flatMap]
  exact congrArg (moves.flatMap ·) (funext verified_eq)

section Step

variable {w w' : JoinerWork} {move : JoinerMove} {moves : List JoinerMove}

/-- `Connected` is the event of a completed handshake. -/
theorem JoinerDoes.count_connected (h : JoinerDoes w move w') :
    move.events.count .connected = move.closings.length := by
  cases h with
  | answered _ _ _ hfinal =>
    refine List.count_eq_zero.mpr fun hmem => ?_
    rcases List.mem_cons.mp hmem with h | h
    · cases h
    · obtain ⟨_, heq⟩ := hfinal _ h
      cases heq
  | _ => rfl

theorem JoinerRun.count_connected (h : JoinerRun w moves w') :
    (moves.flatMap JoinerMove.events).count .connected = (moves.flatMap closings).length := by
  refine h.invariant (I := fun moves _ => (moves.flatMap JoinerMove.events).count .connected
    = (moves.flatMap closings).length) rfl ?_
  intro moves t move u ih hdoes
  rw [flatMap_snoc, flatMap_snoc, List.count_append, List.length_append, ih, hdoes.count_connected]

/-- A session is established once it has completed a handshake. -/
theorem JoinerDoes.established_iff (h : JoinerDoes w move w') :
    w'.phase.established = true ↔ w.phase.established = true ∨ move.closings ≠ [] := by
  cases h with
  | offer hphase =>
    have hbefore : w.phase.established = false := by rw [hphase]; rfl
    rw [hbefore]
    show false = true ↔ false = true ∨ ([] : List Closing) ≠ []
    simp
  | finish => exact ⟨fun _ => Or.inr (by simp [closings]), fun _ => rfl⟩
  | answered hphase => exact ⟨fun _ => Or.inl hphase, fun _ => rfl⟩
  | _ => exact ⟨Or.inl, fun h => h.resolve_right fun hne => hne rfl⟩

theorem JoinerRun.established_iff (h : JoinerRun w moves w')
    (hstart : w.phase.established = false) :
    w'.phase.established = true ↔ moves.flatMap closings ≠ [] := by
  refine h.invariant (I := fun moves w' => w'.phase.established = true ↔
    moves.flatMap closings ≠ []) ?_ ?_
  · simp [hstart]
  · intro moves t move u ih hdoes
    rw [hdoes.established_iff, ih, flatMap_snoc]
    by_cases hmoves : moves.flatMap closings = [] <;> simp [hmoves]

theorem JoinerRun.connected_mem_iff (h : JoinerRun w moves w')
    (hstart : w.phase.established = false) :
    .connected ∈ moves.flatMap JoinerMove.events ↔ w'.phase.established = true := by
  rw [h.established_iff hstart, ← List.count_pos_iff, h.count_connected, List.length_pos_iff]

end Step

/-- **A life is one run**: its events are those of the moves, the ClientKeyExchanges handled are
    those that reached the session, and every Finished of a protected record was verified. -/
theorem JoinerLife.moves {s t : JoinerSession C} {calls : List Served}
    (h : JoinerLife handler s calls t) (hstart : s.phase.established = false) :
    ∃ moves, JoinerRun s.work moves t.work ∧ emitted calls = moves.flatMap JoinerMove.events ∧
      Receiving.Accounts (keyExchangesOffered calls) moves := by
  induction h with
  | start => exact ⟨[], .nil _, rfl, Receiving.accounts_nil⟩
  | @served calls r r' payload events life returned ih =>
    obtain ⟨moves, hrun, hevents, haccounts⟩ := ih
    obtain ⟨more, hmore, hnew, hsettled⟩ := of_wp_ok (Receiving.receive_moves payload r) returned
    have hestablished : .connected ∈ emitted calls ↔ r.session.phase.established = true := by
      rw [hevents]
      exact hrun.connected_mem_iff hstart
    refine ⟨moves ++ more, hrun.trans hmore, ?_, ?_⟩
    · rw [emitted_append, List.flatMap_append, hevents, ← hnew]
      exact congrArg (_ ++ ·) (List.append_nil _)
    · have hall := haccounts.append hsettled
      rw [keyExchangesOffered_snoc]
      simp only [hestablished]
      exact hall

/-! ## §4. A joiner that runs the client driver. -/

/-- Feeds payloads into a session, in order, until a call fails. -/
def Receiving.serve : List Bytes → Receiving C handler → List Served × Receiving C handler
  | [], r => ([], r)
  | payload :: payloads, r =>
    match receive payload r with
    | .error _ _ => ([], r)
    | .ok events r' =>
      let (calls, last) := serve payloads r'
      (⟨payload, events⟩ :: calls, last)

theorem JoinerLife.serve {s : JoinerSession C} {calls : List Served} (payloads : List Bytes)
    {r : Receiving C handler} (h : JoinerLife handler s calls r.session) :
    JoinerLife handler s (calls ++ (Receiving.serve payloads r).1)
      (Receiving.serve payloads r).2.session := by
  induction payloads generalizing calls r with
  | nil =>
    rw [show (Receiving.serve [] r).1 = [] from rfl, List.append_nil]
    exact h
  | cons payload payloads ih =>
    unfold Receiving.serve
    cases hreceive : Receiving.receive payload r with
    | error error r' =>
      rw [List.append_nil]
      exact h
    | ok events r' =>
      have hnext := ih (h.served hreceive)
      rw [List.append_assoc] at hnext
      exact hnext

theorem Receiving.serve_life (payloads : List Bytes) (r : Receiving C handler) :
    JoinerLife handler r.session (serve payloads r).1 (serve payloads r).2.session :=
  JoinerLife.serve payloads .start

/-- An application that admits every joiner, with an empty password. -/
def willing : JoinerHandler where
  State := Unit
  joinerPskd _ state := (some [], state)
  onJoinerConnected _ state := state
  onJoinerFinalize _ _ state := (true, state)

def soleIid : FixedBytes 8 := ⟨[2, 0, 0, 0, 0, 0, 0, 3], rfl⟩

/-- A new session over the transparent primitives. -/
def freshJoiner : Receiving Crypto.transparent willing :=
  { session := (JoinerSession.new soleIid 1000 0xfc00 [] 0 ()).1
    handlerState := (), rng := (), events := [] }

/-- The datagram of an event. -/
def JoinerSessionEvent.datagram : JoinerSessionEvent → Option Bytes
  | transmit datagram _ => some datagram
  | _ => none

/-- The datagrams a session sent back. -/
def relayedBack (calls : List Served) : List Bytes :=
  (emitted calls).filterMap JoinerSessionEvent.datagram

/-- What a joiner has sent after the given number of rounds, each against everything the session
    has sent back so far. -/
def joinerPayloads : Nat → List Bytes
  | 0 => []
  | rounds + 1 =>
    let talk := Dtls.Conversation.transparent
    talk.clientSent ((relayedBack (Receiving.serve (joinerPayloads rounds) freshJoiner).1).map
      (.datagram talk.clientAddr talk.serverAddr))

end Meshcop
