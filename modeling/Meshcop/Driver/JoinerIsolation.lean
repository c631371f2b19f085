/-
  Meshcop.Driver.JoinerIsolation — joiners do not meet in the driver
  (`commissioner/client/driver/relay.rs`).

  All relayed joiners share one driver: its table of sessions, the sweep that drops expired
  ones, the application's handler, the message ids and tokens of the replies.  This file
  compares two runs of the driver, one over the notifications of all joiners and one over the
  notifications of a single joiner, at the same times.  Of what is shared nothing reaches the
  joiner but the sweep, and that only takes what the joiner's own next notification would have
  taken.

  A source of randomness that all sessions draw from in turn would hand different bytes to the
  same session in the two runs, so every joiner is given a source of its own.

  Main results:
    * `Relaying.receive_agrees`  — the joiner's own notification: equal outputs;
    * `Relaying.receive_other`   — another joiner's notification: nothing changes;
    * `joiners_isolated`.
-/

import Meshcop.Driver.IncomingMoves
import Meshcop.Driver.JoinerRelay
import Meshcop.Joiner.Oblivious

namespace Meshcop

open Lib

/-! ## §1. What a joiner gets to see. -/

/-- A reply relayed to a joiner, without the CoAP message id and token, or an event published
    about one. -/
inductive JoinerOutput where
  | replied (reply : CoapMessage)
  | published (event : CommissionerEvent)

def Action.joinerOutput? : Action → Option JoinerOutput
  | .sent _ message => some (.replied { message with messageId := 0, token := [] })
  | .published event => some (.published event)
  | _ => none

/-- The output is an event about this joiner or a RLY_TX.ntf to it. -/
def JoinerOutput.IsFor (joinerIid : FixedBytes 8) : JoinerOutput → Prop
  | .replied reply => ∃ joinerUdpPort joinerRouterLocator datagram kek,
      relayTxRequestWithKek 0 [] joinerIid.bytes joinerUdpPort joinerRouterLocator datagram kek =
        .ok reply
  | .published event => event = .joinerConnected (joinerIdFromIid joinerIid) ∨
      ∃ accepted info, event = .joinerFinalized (joinerIdFromIid joinerIid) accepted info

namespace Driver

variable {env : Env}

/-- The replies and events so far. -/
def outputs (d : Driver env) : List JoinerOutput := d.trace.filterMap Action.joinerOutput?

/-- A RLY_RX.ntf of the border agent, and when the driver handles it. -/
structure RelayArrival where
  time : Nat
  message : CoapMessage
  joinerUdpPort : UInt16
  joinerRouterLocator : UInt16
  joinerIid : FixedBytes 8
  payload : Bytes
  parsed : parseNotification message =
    .ok (some (.relayRx joinerUdpPort joinerRouterLocator joinerIid payload))

def RelayArrival.joinerId (arrival : RelayArrival) : JoinerId := joinerIdFromIid arrival.joinerIid

/-- `handleRelayRx` on the content of the notification. -/
def RelayArrival.handle (arrival : RelayArrival) : DriverM env Unit :=
  handleRelayRx arrival.joinerUdpPort arrival.joinerRouterLocator arrival.joinerIid arrival.payload

/-- A driver, and one source of randomness for each joiner. -/
structure Relaying (env : Env) where
  driver : Driver env
  rngs : JoinerId → env.crypto.Rng

namespace Relaying

/-- The driver at the time of the notification, with the randomness of its joiner. -/
def ready (r : Relaying env) (arrival : RelayArrival) : Driver env :=
  { r.driver with
    world := { r.driver.world with now := arrival.time, rng := r.rngs arrival.joinerId } }

/-- Routes one notification; a failure leaves the driver as it is then. -/
def receive (r : Relaying env) (arrival : RelayArrival) : Relaying env :=
  let d := stateOf (routeUnsolicitedMessage arrival.message (r.ready arrival))
  { driver := d
    rngs := fun joinerId => if joinerId = arrival.joinerId then d.world.rng else r.rngs joinerId }

def run (r : Relaying env) (arrivals : List RelayArrival) : Relaying env := arrivals.foldl receive r

/-- What the notification makes the driver send and publish. -/
def produced (r : Relaying env) (arrival : RelayArrival) : List JoinerOutput :=
  (r.receive arrival).driver.outputs.drop r.driver.outputs.length

/-- What each notification of the joiner makes the driver send and publish. -/
def outputsOf (joinerId : JoinerId) : Relaying env → List RelayArrival → List (List JoinerOutput)
  | _, [] => []
  | r, arrival :: arrivals =>
    if arrival.joinerId = joinerId then
      r.produced arrival :: outputsOf joinerId (r.receive arrival) arrivals
    else outputsOf joinerId (r.receive arrival) arrivals

end Relaying

/-! ## §2. The table, one joiner at a time. -/

section Table

variable (d : Driver env) (joinerId : JoinerId)

/-- The part of the table that belongs to one joiner. -/
def entriesOf : List (JoinerId × JoinerSession env.crypto) :=
  d.joinerSessions.filter (fun entry => entry.1 = joinerId)

theorem joinerSession?_eq_head? :
    d.joinerSession? joinerId = (d.entriesOf joinerId).head?.map Prod.snd := by
  unfold joinerSession? entriesOf
  rw [List.head?_filter]

theorem entriesOf_putJoinerSession (session : JoinerSession env.crypto) :
    (d.putJoinerSession joinerId session).entriesOf joinerId =
      (d.entriesOf joinerId).map (fun _ => (joinerId, session)) := by
  unfold entriesOf putJoinerSession
  dsimp only
  induction d.joinerSessions with
  | nil => rfl
  | cons entry sessions ih =>
    by_cases hkey : entry.1 = joinerId
    · rw [List.map_cons, if_pos hkey, List.filter_cons_of_pos (by simp),
        List.filter_cons_of_pos (by simpa using hkey), List.map_cons, ih]
    · rw [List.map_cons, if_neg hkey, List.filter_cons_of_neg (by simpa using hkey),
        List.filter_cons_of_neg (by simpa using hkey), ih]

theorem entriesOf_putJoinerSession_other {other : JoinerId} (h : other ≠ joinerId)
    (session : JoinerSession env.crypto) :
    (d.putJoinerSession other session).entriesOf joinerId = d.entriesOf joinerId := by
  unfold entriesOf putJoinerSession
  dsimp only
  induction d.joinerSessions with
  | nil => rfl
  | cons entry sessions ih =>
    rw [List.map_cons, List.filter_cons, List.filter_cons, ih]
    by_cases hkey : entry.1 = other
    · have hentry : entry.1 ≠ joinerId := by
        rw [hkey]
        exact h
      rw [if_pos hkey, if_neg (by simpa using h), if_neg (by simpa using hentry)]
    · rw [if_neg hkey]

theorem entriesOf_removeJoinerSession : (d.removeJoinerSession joinerId).entriesOf joinerId = [] := by
  unfold entriesOf removeJoinerSession
  rw [List.filter_filter, List.filter_eq_nil_iff]
  intro entry _
  simp

theorem entriesOf_removeJoinerSession_other {other : JoinerId} (h : other ≠ joinerId) :
    (d.removeJoinerSession other).entriesOf joinerId = d.entriesOf joinerId := by
  unfold entriesOf removeJoinerSession
  rw [List.filter_filter]
  refine List.filter_congr fun entry _ => ?_
  by_cases hkey : entry.1 = joinerId
  · simp [hkey, h.symm]
  · simp [hkey]

end Table

/-- The sessions that have expired are dropped. -/
def sweep (d : Driver env) : Driver env :=
  { d with joinerSessions := d.joinerSessions.filter (fun entry => !entry.2.expired d.world.now) }

/-- `handleRelayRx` after the sweep. -/
def attend (joinerUdpPort joinerRouterLocator : UInt16) (joinerIid : FixedBytes 8)
    (payload : Bytes) : DriverM env Unit := do
  let d ← get
  match d.joinerHandler with
  | none => return ()
  | some state =>
    let (session, state, d) :=
      openJoinerSession joinerUdpPort joinerRouterLocator joinerIid d.world.now state d
    set d
    match session with
    | none => return ()
    | some session => feedJoiner (joinerIdFromIid joinerIid) session state payload

theorem handleRelayRx_eq (joinerUdpPort joinerRouterLocator : UInt16) (joinerIid : FixedBytes 8)
    (payload : Bytes) (d : Driver env) :
    handleRelayRx joinerUdpPort joinerRouterLocator joinerIid payload d =
      attend joinerUdpPort joinerRouterLocator joinerIid payload d.readClock.sweep := rfl

theorem entriesOf_sweep (d : Driver env) (joinerId : JoinerId) : d.sweep.entriesOf joinerId =
      (d.entriesOf joinerId).filter (fun entry => !entry.2.expired d.world.now) := by
  unfold entriesOf sweep
  rw [List.filter_filter, List.filter_filter]
  exact List.filter_congr fun entry _ => Bool.and_comm _ _

/-! ## §3. One joiner's notification, in two runs. -/

section Coupling

/-- The driver has a handler for joiners and an open link. -/
def Attends (d : Driver env) : Prop := d.joinerHandler.isSome = true ∧ d.linkOpen = true

/-- Two drivers that are the same to one joiner: same sessions, same randomness, same time,
    and the same outputs since the given points of their histories.  If sessions are `filed`
    rightly, these are the joiner's sessions and outputs for the joiner. -/
structure Paired (joinerIid : FixedBytes 8) (filed : Prop) (before before' : List JoinerOutput)
    (d d' : Driver env) : Prop where
  entries : d.entriesOf (joinerIdFromIid joinerIid) = d'.entriesOf (joinerIdFromIid joinerIid)
  own : filed → ∀ entry ∈ d.entriesOf (joinerIdFromIid joinerIid), entry.2.joinerIid = joinerIid
  rng : d.world.rng = d'.world.rng
  now : d.world.now = d'.world.now
  attends : d.Attends ∧ d'.Attends
  outputs : ∃ new, d.outputs = before ++ new ∧ d'.outputs = before' ++ new ∧
    (filed → ∀ output ∈ new, output.IsFor joinerIid)

theorem outputs_log (d : Driver env) (action : Action) :
    (d.log action).outputs = d.outputs ++ (action.joinerOutput?).toList := by
  unfold outputs log
  rw [List.filterMap_append]
  cases h : action.joinerOutput? <;> simp [h]

theorem outputs_publishAll (events : List CommissionerEvent) (d : Driver env) :
    (d.publishAll events).outputs = d.outputs ++ events.map .published := by
  induction events generalizing d with
  | nil => exact (List.append_nil _).symm
  | cons event events ih =>
    show ((d.publish event).publishAll events).outputs = _
    rw [ih, publish, outputs_log, List.append_assoc]
    rfl

/-- Publishing touches the history only. -/
theorem publishAll_eq (events : List CommissionerEvent) (d : Driver env) :
    d.publishAll events = { d with trace := d.trace ++ events.map .published } := by
  induction events generalizing d with
  | nil => simp [publishAll]
  | cons event events ih =>
    show (d.publish event).publishAll events = _
    rw [ih]
    simp [publish, log]

variable {joinerIid : FixedBytes 8} {filed : Prop} {before before' : List JoinerOutput}
  {d d' : Driver env}

/-- Both drivers put the same out. -/
theorem Paired.extend (h : Paired joinerIid filed before before' d d') {d₁ d₁' : Driver env}
    (hsessions : d₁.joinerSessions = d.joinerSessions ∧ d₁'.joinerSessions = d'.joinerSessions)
    (hworld : (d₁.world.rng = d.world.rng ∧ d₁.world.now = d.world.now) ∧
      d₁'.world.rng = d'.world.rng ∧ d₁'.world.now = d'.world.now)
    (hattends : d₁.Attends ∧ d₁'.Attends) {new : List JoinerOutput}
    (houtputs : d₁.outputs = d.outputs ++ new) (houtputs' : d₁'.outputs = d'.outputs ++ new)
    (hnew : filed → ∀ output ∈ new, output.IsFor joinerIid) :
    Paired joinerIid filed before before' d₁ d₁' where
  entries := by
    unfold entriesOf
    rw [hsessions.1, hsessions.2]
    exact h.entries
  own := by
    unfold entriesOf
    rw [hsessions.1]
    exact h.own
  rng := by rw [hworld.1.1, hworld.2.1, h.rng]
  now := by rw [hworld.1.2, hworld.2.2, h.now]
  attends := hattends
  outputs := by
    obtain ⟨earlier, hearlier, hearlier', hfor⟩ := h.outputs
    refine ⟨earlier ++ new, ?_, ?_, fun hfiled output hmem => ?_⟩
    · rw [houtputs, hearlier, List.append_assoc]
    · rw [houtputs', hearlier', List.append_assoc]
    · rcases List.mem_append.mp hmem with hmem | hmem
      · exact hfor hfiled output hmem
      · exact hnew hfiled output hmem

/-- The joiner's sessions change alike, and nothing is put out. -/
theorem Paired.update (h : Paired joinerIid filed before before' d d') {d₁ d₁' : Driver env}
    (hentries : d₁.entriesOf (joinerIdFromIid joinerIid) =
      d₁'.entriesOf (joinerIdFromIid joinerIid))
    (hown : filed → ∀ entry ∈ d₁.entriesOf (joinerIdFromIid joinerIid),
      entry.2.joinerIid = joinerIid)
    (hrng : d₁.world.rng = d₁'.world.rng)
    (hnow : d₁.world.now = d.world.now ∧ d₁'.world.now = d'.world.now)
    (hattends : d₁.Attends ∧ d₁'.Attends) (htrace : d₁.trace = d.trace ∧ d₁'.trace = d'.trace) :
    Paired joinerIid filed before before' d₁ d₁' where
  entries := hentries
  own := hown
  rng := hrng
  now := by rw [hnow.1, hnow.2, h.now]
  attends := hattends
  outputs := by
    unfold Driver.outputs
    rw [htrace.1, htrace.2]
    exact h.outputs

/-- The joiner's session is removed. -/
theorem Paired.removed (h : Paired joinerIid filed before before' d d') :
    Paired joinerIid filed before before' (d.removeJoinerSession (joinerIdFromIid joinerIid))
      (d'.removeJoinerSession (joinerIdFromIid joinerIid)) := by
  refine h.update ?_ ?_ h.rng ⟨rfl, rfl⟩ h.attends ⟨rfl, rfl⟩
  · rw [entriesOf_removeJoinerSession, entriesOf_removeJoinerSession]
  · rw [entriesOf_removeJoinerSession]
    exact fun _ => List.forall_mem_nil _

/-- Both drivers go on with a handler and the same randomness. -/
theorem Paired.handled (h : Paired joinerIid filed before before' d d')
    (state state' : env.handler.State) (rng : env.crypto.Rng) :
    Paired joinerIid filed before before'
      { d with joinerHandler := some state, world := { d.world with rng } }
      { d' with joinerHandler := some state', world := { d'.world with rng } } :=
  h.update h.entries h.own rfl ⟨rfl, rfl⟩ ⟨⟨rfl, h.attends.1.2⟩, rfl, h.attends.2.2⟩ ⟨rfl, rfl⟩

/-- On an open link whose sends succeed, a message that encodes is sent. -/
theorem send_succeeds (hsends : ∀ n, env.sendResult n = none) {d : Driver env}
    (hlink : d.linkOpen = true) {message : CoapMessage} {bytes : Bytes}
    (hencode : message.encode = .ok bytes) (kind : SendKind) :
    send kind message d = .ok () (d.handed kind message) := by
  have hsend := send_spec kind message d
  unfold wp at hsend
  cases hresult : send kind message d with
  | ok _ d' =>
    rw [hresult] at hsend
    rw [hsend.2.2]
  | error e d' =>
    rw [hresult] at hsend
    rcases hsend with ⟨-, hfails, -⟩ | ⟨-, -, hrefused, -⟩
    · obtain ⟨e, he⟩ := hfails hlink
      cases hencode.symm.trans he
    · exact absurd (hsends _) hrefused

/-- A reply that can be built is sent, under an identity of the driver's. -/
theorem sendAssigned_eq (hsends : ∀ n, env.sendResult n = none) {joinerIid datagram : Bytes}
    {joinerUdpPort joinerRouterLocator : UInt16} {kek : Option Bytes} {relay : CoapMessage}
    (hbuilt : relayTxRequestWithKek 0 [] joinerIid joinerUdpPort joinerRouterLocator datagram kek =
      .ok relay) {d : Driver env} (hlink : d.linkOpen = true) :
    send .other (d.assignIdentity relay).1 (d.assignIdentity relay).2 =
      .ok () ((d.assignIdentity relay).2.handed .other (d.assignIdentity relay).1) := by
  have htoken : (d.assignIdentity relay).1.token.length ≤ 8 :=
    Nat.le_trans (Nat.le_of_eq (drawToken_length _ _ _)) (by decide)
  obtain ⟨bytes, hbytes⟩ := relayTxRequestWithKek_encodes hbuilt
    (d.assignIdentity relay).1.messageId htoken
  have hlink' : (d.assignIdentity relay).2.linkOpen = true := hlink
  exact send_succeeds hsends hlink' hbytes .other

theorem outputs_sendAssigned (d : Driver env) (relay : CoapMessage) :
    ((d.assignIdentity relay).2.handed .other (d.assignIdentity relay).1).outputs =
      d.outputs ++ [.replied { relay with messageId := 0, token := [] }] :=
  outputs_log _ (.sent .other (d.assignIdentity relay).1)

variable {session : JoinerSession env.crypto}

theorem relayTransmissions_coupled (hsends : ∀ n, env.sendResult n = none)
    (hsession : filed → session.joinerIid = joinerIid)
    (transmissions : List (Bytes × Option Bytes)) :
    Coupled (Paired joinerIid filed before before') Eq (relayTransmissions session transmissions)
      (relayTransmissions session transmissions : DriverM env Unit) := by
  induction transmissions with
  | nil => exact coupled_pure rfl
  | cons transmission transmissions ih =>
    obtain ⟨datagram, kek⟩ := transmission
    unfold relayTransmissions
    cases hbuilt : relayTxRequestWithKek 0 [] session.joinerIid.bytes session.joinerUdpPort
      session.joinerRouterLocator datagram kek with
    | error e => exact coupled_throw e
    | ok relay =>
      -- the two drivers give the reply their own message id and token, and both send it
      intro d d' h
      have hsent := sendAssigned_eq hsends hbuilt h.attends.1.2
      have hsent' := sendAssigned_eq hsends hbuilt h.attends.2.2
      have hpaired : Paired joinerIid filed before before'
          ((d.assignIdentity relay).2.handed .other (d.assignIdentity relay).1)
          ((d'.assignIdentity relay).2.handed .other (d'.assignIdentity relay).1) := by
        refine h.extend ⟨rfl, rfl⟩ ⟨⟨rfl, rfl⟩, rfl, rfl⟩ h.attends (outputs_sendAssigned d relay)
          (outputs_sendAssigned d' relay) fun hfiled => List.forall_mem_singleton.mpr ?_
        refine ⟨session.joinerUdpPort, session.joinerRouterLocator, datagram, kek, ?_⟩
        rw [relayTxRequestWithKek_identity hbuilt, ← hsession hfiled]
        exact hbuilt
      show Alike _ _ (EStateM.bind (send .other (d.assignIdentity relay).1)
          (fun _ => relayTransmissions session transmissions) (d.assignIdentity relay).2)
        (EStateM.bind (send .other (d'.assignIdentity relay).1)
          (fun _ => relayTransmissions session transmissions) (d'.assignIdentity relay).2)
      unfold EStateM.bind
      rw [hsent, hsent']
      exact ih _ _ hpaired

/-- What the events of a session ask for does not depend on the handler's state. -/
theorem relayEvents_state (session : JoinerSession env.crypto) (joinerId : JoinerId)
    (events : List JoinerSessionEvent) (state state' : env.handler.State) :
    (relayEvents session joinerId events state).1 =
      (relayEvents session joinerId events state').1 := by
  induction events generalizing state state' with
  | nil => rfl
  | cons event events ih =>
    cases event with
    | transmit datagram includeKek =>
      unfold relayEvents
      cases includeKek with
      | true =>
        dsimp only
        cases session.joinerRouterKek with
        | error e => rfl
        | ok kek =>
          dsimp only
          rw [if_pos rfl, if_pos rfl, ih state state']
      | false =>
        dsimp only
        rw [if_neg (by decide), if_neg (by decide), ih state state']
    | connected =>
      unfold relayEvents
      dsimp only
      rw [ih (env.handler.onJoinerConnected joinerId state)
        (env.handler.onJoinerConnected joinerId state')]
    | finalized accepted info =>
      unfold relayEvents
      dsimp only
      rw [ih state state']

theorem feedJoiner_coupled (hhandler : env.handler.Oblivious)
    (hsends : ∀ n, env.sendResult n = none) (hsession : filed → session.joinerIid = joinerIid)
    (state state' : env.handler.State) (payload : Bytes) :
    Coupled (Paired joinerIid filed before before') Eq
      (feedJoiner (joinerIdFromIid joinerIid) session state payload)
      (feedJoiner (joinerIdFromIid joinerIid) session state' payload) := by
  refine coupled_seq (coupled_modify fun d d' h => ?_) fun _ => ?_
  · exact h.extend ⟨rfl, rfl⟩ ⟨⟨rfl, rfl⟩, rfl, rfl⟩ h.attends (outputs_log d (.fed _ payload))
      (outputs_log d' (.fed _ payload)) fun _ => List.forall_mem_nil _
  refine coupled_bind coupled_get fun d d' h => ?_
  have hreceive := Receiving.receive_coupled hhandler payload
    { session, handlerState := state, rng := d.world.rng, events := [] }
    { session, handlerState := state', rng := d'.world.rng, events := [] }
    ⟨rfl, state', by rw [h.rng]⟩
  dsimp only
  generalize Receiving.receive payload
    ({ session, handlerState := state, rng := d.world.rng, events := [] }
      : Receiving env.crypto env.handler) = outcome at hreceive ⊢
  generalize Receiving.receive payload
    ({ session, handlerState := state', rng := d'.world.rng, events := [] }
      : Receiving env.crypto env.handler) = outcome' at hreceive ⊢
  cases hreceive with
  | error e hstate =>
    obtain ⟨-, handlerState, rfl⟩ := hstate
    exact coupled_modify fun d d' h => (h.handled _ _ _).removed
  | @ok events _ received _ hevents hstate =>
    subst hevents
    obtain ⟨htarget, handlerState, rfl⟩ := hstate
    have hrelayed := relayEvents_state received.session (joinerIdFromIid joinerIid) events
      received.handlerState handlerState
    have hjoiner := relayEvents_joiner received.session (joinerIdFromIid joinerIid) events
      received.handlerState
    dsimp only
    generalize relayEvents received.session _ events received.handlerState = relayed
      at hrelayed hjoiner ⊢
    generalize relayEvents received.session _ events handlerState = relayed' at hrelayed ⊢
    obtain ⟨relayed, finalState⟩ := relayed
    obtain ⟨relayed', finalState'⟩ := relayed'
    dsimp only at hrelayed hjoiner ⊢
    subst hrelayed
    -- the session is put back, its events are published, and then it is removed or answered
    refine coupled_seq (coupled_modify fun d d' h => ?_) fun _ => ?_
    · have hhandled := h.handled finalState finalState' received.rng
      refine hhandled.update ?_ (fun hfiled => ?_) rfl ⟨rfl, rfl⟩ hhandled.attends ⟨rfl, rfl⟩
      · rw [entriesOf_putJoinerSession, entriesOf_putJoinerSession, hhandled.entries]
      · rw [entriesOf_putJoinerSession]
        intro entry hmem
        obtain ⟨_, -, rfl⟩ := List.mem_map.mp hmem
        exact (congrArg Prod.fst htarget).trans (hsession hfiled)
    refine coupled_seq (coupled_modify fun d d' h => ?_) fun _ => ?_
    · have houtputs := outputs_publishAll relayed.events d
      have houtputs' := outputs_publishAll relayed.events d'
      rw [publishAll_eq] at houtputs houtputs'
      rw [publishAll_eq, publishAll_eq]
      refine h.extend ⟨rfl, rfl⟩ ⟨⟨rfl, rfl⟩, rfl, rfl⟩ h.attends houtputs houtputs' fun _ => ?_
      intro output hmem
      obtain ⟨event, hevent, rfl⟩ := List.mem_map.mp hmem
      exact hjoiner event hevent
    by_cases hfailed : relayed.failed = true
    · rw [if_pos hfailed]
      exact coupled_modify fun d d' h => h.removed
    · rw [if_neg hfailed]
      exact relayTransmissions_coupled hsends hsession relayed.transmissions

/-- The session is found or opened alike, and it is the joiner's. -/
theorem openJoinerSession_paired (hhandler : env.handler.Oblivious)
    (joinerUdpPort joinerRouterLocator : UInt16) (now : Nat) (state state' : env.handler.State)
    (h : Paired joinerIid filed before before' d d') :
    (openJoinerSession joinerUdpPort joinerRouterLocator joinerIid now state d).1 =
        (openJoinerSession joinerUdpPort joinerRouterLocator joinerIid now state' d').1 ∧
      (filed → ∀ session,
        (openJoinerSession joinerUdpPort joinerRouterLocator joinerIid now state d).1 =
          some session → session.joinerIid = joinerIid) ∧
      Paired joinerIid filed before before'
        (openJoinerSession joinerUdpPort joinerRouterLocator joinerIid now state d).2.2
        (openJoinerSession joinerUdpPort joinerRouterLocator joinerIid now state' d').2.2 := by
  have hfound : d.joinerSession? (joinerIdFromIid joinerIid) =
      d'.joinerSession? (joinerIdFromIid joinerIid) := by
    rw [joinerSession?_eq_head?, joinerSession?_eq_head?, h.entries]
  have hpskd := hhandler.pskd (joinerIdFromIid joinerIid) state state'
  unfold openJoinerSession
  dsimp only
  rw [← hfound]
  cases hsession : d.joinerSession? (joinerIdFromIid joinerIid) with
  | some session =>
    refine ⟨rfl, fun hfiled session' hsame => ?_, h⟩
    cases hsame
    rw [joinerSession?_eq_head?, Option.map_eq_some_iff] at hsession
    obtain ⟨entry, hentry, rfl⟩ := hsession
    exact h.own hfiled entry (List.mem_of_head? hentry)
  | none =>
    generalize env.handler.joinerPskd (joinerIdFromIid joinerIid) state = answer at hpskd ⊢
    generalize env.handler.joinerPskd (joinerIdFromIid joinerIid) state' = answer' at hpskd ⊢
    obtain ⟨pskd, state⟩ := answer
    obtain ⟨pskd', state'⟩ := answer'
    dsimp only at hpskd ⊢
    subst hpskd
    cases pskd with
    | none =>
      refine ⟨rfl, fun _ session hnone => ?_,
        h.update h.entries h.own h.rng ⟨rfl, rfl⟩ ⟨⟨rfl, h.attends.1.2⟩, rfl, h.attends.2.2⟩
          ⟨rfl, rfl⟩⟩
      cases hnone
    | some pskd =>
      -- both sessions are made from the same draws
      have hmade : (JoinerSession.new joinerIid joinerUdpPort joinerRouterLocator pskd now
        d.world.rng).1.joinerIid = joinerIid := rfl
      dsimp only
      rw [← h.rng]
      generalize JoinerSession.new joinerIid joinerUdpPort joinerRouterLocator pskd now
        d.world.rng = made at hmade ⊢
      refine ⟨rfl, fun _ session hsame => ?_,
        h.update ?_ (fun hfiled entry hmem => ?_) rfl ⟨rfl, rfl⟩
          ⟨⟨rfl, h.attends.1.2⟩, rfl, h.attends.2.2⟩ ⟨rfl, rfl⟩⟩
      · cases hsame
        exact hmade
      · unfold entriesOf
        rw [List.filter_append, List.filter_append]
        exact congrArg (· ++ _) h.entries
      · unfold entriesOf at hmem
        rw [List.filter_append] at hmem
        rcases List.mem_append.mp hmem with hmem | hmem
        · exact h.own hfiled entry hmem
        · rw [List.mem_singleton.mp (List.mem_of_mem_filter hmem)]
          exact hmade

/-- **One joiner's notification, in two runs**, after the sweep. -/
theorem attend_coupled (hhandler : env.handler.Oblivious) (hsends : ∀ n, env.sendResult n = none)
    (joinerUdpPort joinerRouterLocator : UInt16) (joinerIid : FixedBytes 8) (payload : Bytes) :
    Coupled (Paired joinerIid filed before before') Eq
      (attend joinerUdpPort joinerRouterLocator joinerIid payload : DriverM env Unit)
      (attend joinerUdpPort joinerRouterLocator joinerIid payload) := by
  refine coupled_bind coupled_get fun d d' h => ?_
  obtain ⟨state, hstate⟩ := Option.isSome_iff_exists.mp h.attends.1.1
  obtain ⟨state', hstate'⟩ := Option.isSome_iff_exists.mp h.attends.2.1
  rw [hstate, hstate', ← h.now]
  have hopened := openJoinerSession_paired hhandler joinerUdpPort joinerRouterLocator d.world.now
    state state' h
  dsimp only
  generalize openJoinerSession joinerUdpPort joinerRouterLocator joinerIid d.world.now state d =
    opened at hopened ⊢
  generalize openJoinerSession joinerUdpPort joinerRouterLocator joinerIid d.world.now state' d' =
    opened' at hopened ⊢
  obtain ⟨session, state₁, d₁⟩ := opened
  obtain ⟨session', state₁', d₁'⟩ := opened'
  obtain ⟨hsession, hown, hpaired⟩ := hopened
  dsimp only at hsession hown hpaired ⊢
  subst hsession
  refine coupled_seq (fun _ _ _ => .ok rfl hpaired) fun _ => ?_
  cases session with
  | none => exact coupled_pure rfl
  | some session =>
    exact feedJoiner_coupled hhandler hsends (fun hfiled => hown hfiled session rfl) state₁ state₁'
      payload

end Coupling

/-! ## §4. Another joiner's notification. -/

section Frame

/-- The joiner's entries are these, and the driver still serves joiners. -/
structure Apart (joinerId : JoinerId) (entries : List (JoinerId × JoinerSession env.crypto))
    (d : Driver env) : Prop where
  entries : d.entriesOf joinerId = entries
  handler : d.joinerHandler.isSome = true
  link : d.linkOpen = true

variable {joinerId other : JoinerId} {entries : List (JoinerId × JoinerSession env.crypto)}
  {d : Driver env}

theorem feedJoiner_apart (hother : other ≠ joinerId) (session : JoinerSession env.crypto)
    (state : env.handler.State) (payload : Bytes) :
    Keeps (Apart joinerId entries) (feedJoiner other session state payload : DriverM env _) := by
  have hremove : ∀ d : Driver env, Apart joinerId entries d →
      Apart joinerId entries (d.removeJoinerSession other) := by
    intro d h
    exact ⟨(entriesOf_removeJoinerSession_other d joinerId hother).trans h.entries, h.handler,
      h.link⟩
  refine keeps_bind (keeps_modify fun _ h => ⟨h.entries, h.handler, h.link⟩) fun _ => ?_
  refine keeps_bind keeps_get fun d => ?_
  dsimp only
  cases Receiving.receive payload
    ({ session, handlerState := state, rng := d.world.rng, events := [] }
      : Receiving env.crypto env.handler) with
  | error e received =>
    exact keeps_modify fun d h => hremove _ ⟨h.entries, rfl, h.link⟩
  | ok events received =>
    refine keeps_bind (keeps_modify fun d h => ?_) fun _ => ?_
    · exact ⟨(entriesOf_putJoinerSession_other _ joinerId hother _).trans h.entries, rfl, h.link⟩
    refine keeps_bind (keeps_modify fun d h => ?_) fun _ => ?_
    · rw [publishAll_eq]
      exact ⟨h.entries, h.handler, h.link⟩
    by_cases hfailed : (relayEvents received.session other events received.handlerState).1.failed =
        true
    · rw [if_pos hfailed]
      exact keeps_modify hremove
    · rw [if_neg hfailed]
      exact relayTransmissions_keeps session (fun _ _ h => ⟨h.entries, h.handler, h.link⟩)
        (fun _ _ _ _ _ _ _ h => ⟨h.entries, h.handler, h.link⟩)
        (fun _ h => ⟨h.entries, h.handler, h.link⟩) _

/-- The notification opens or finds a session of its joiner and feeds it. -/
theorem attend_eq {state : env.handler.State} (hstate : d.joinerHandler = some state)
    (joinerUdpPort joinerRouterLocator : UInt16) (joinerIid : FixedBytes 8) (payload : Bytes) :
    attend joinerUdpPort joinerRouterLocator joinerIid payload d =
      let opened :=
        openJoinerSession joinerUdpPort joinerRouterLocator joinerIid d.world.now state d
      match opened.1 with
      | none => .ok () opened.2.2
      | some session =>
        feedJoiner (joinerIdFromIid joinerIid) session opened.2.1 payload opened.2.2 := by
  show (match d.joinerHandler with | none => _ | some state => _ : DriverM env Unit) d = _
  rw [hstate]
  dsimp only
  generalize openJoinerSession joinerUdpPort joinerRouterLocator joinerIid d.world.now state d =
    opened
  obtain ⟨session, state₁, d₁⟩ := opened
  cases session with
  | none => rfl
  | some session => rfl

theorem openJoinerSession_apart {joinerIid : FixedBytes 8} (hother : joinerIdFromIid joinerIid ≠ joinerId)
    (h : Apart joinerId entries d) (joinerUdpPort joinerRouterLocator : UInt16) (now : Nat)
    (state : env.handler.State) : Apart joinerId entries
      (openJoinerSession joinerUdpPort joinerRouterLocator joinerIid now state d).2.2 := by
  unfold openJoinerSession
  dsimp only
  split
  · exact h
  split
  · exact ⟨h.entries, rfl, h.link⟩
  refine ⟨?_, rfl, h.link⟩
  unfold entriesOf
  rw [List.filter_append, List.filter_cons_of_neg (by simpa using hother), List.filter_nil,
    List.append_nil]
  exact h.entries

theorem attend_apart {joinerIid : FixedBytes 8} (hother : joinerIdFromIid joinerIid ≠ joinerId)
    (joinerUdpPort joinerRouterLocator : UInt16) (payload : Bytes) : Keeps (Apart joinerId entries)
      (attend joinerUdpPort joinerRouterLocator joinerIid payload : DriverM env Unit) := by
  intro d h
  obtain ⟨state, hstate⟩ := Option.isSome_iff_exists.mp h.handler
  have hopened := openJoinerSession_apart hother h joinerUdpPort joinerRouterLocator d.world.now state
  unfold wp
  rw [attend_eq hstate]
  dsimp only
  generalize openJoinerSession joinerUdpPort joinerRouterLocator joinerIid d.world.now state d =
    opened at hopened ⊢
  cases opened.1 with
  | none => exact hopened
  | some session => exact feedJoiner_apart hother session opened.2.1 payload opened.2.2 hopened

/-- **A notification leaves the other joiners alone**: their sessions stay, unless they have
    expired. -/
theorem handleRelayRx_apart {joinerIid : FixedBytes 8} (hother : joinerIdFromIid joinerIid ≠ joinerId)
    (joinerUdpPort joinerRouterLocator : UInt16) (payload : Bytes)
    (hhandler : d.joinerHandler.isSome = true) (hlink : d.linkOpen = true) : Apart joinerId
      ((d.entriesOf joinerId).filter (fun entry => !entry.2.expired d.readClock.world.now))
      (stateOf (handleRelayRx joinerUdpPort joinerRouterLocator joinerIid payload d)) := by
  rw [handleRelayRx_eq]
  refine stateOf_of_wp (attend_apart hother joinerUdpPort joinerRouterLocator payload
    d.readClock.sweep ⟨?_, hhandler, hlink⟩)
  exact entriesOf_sweep d.readClock joinerId

end Frame

/-! ## §5. Whom the sessions belong to. -/

/-- Every session is filed under the ID of its joiner. -/
def Filed (d : Driver env) : Prop :=
  ∀ entry ∈ d.joinerSessions, joinerIdFromIid entry.2.joinerIid = entry.1

/-- Restoring the universal/local bit loses nothing. -/
theorem joinerIdFromIid_injective {joinerIid joinerIid' : FixedBytes 8}
    (h : joinerIdFromIid joinerIid = joinerIdFromIid joinerIid') : joinerIid = joinerIid' := by
  obtain ⟨bytes, size⟩ := joinerIid
  obtain ⟨bytes', size'⟩ := joinerIid'
  have hbytes : bytes.modifyHead (· ^^^ 2) = bytes'.modifyHead (· ^^^ 2) :=
    congrArg FixedBytes.bytes h
  cases bytes with
  | nil => cases size
  | cons byte rest =>
    cases bytes' with
    | nil => cases size'
    | cons byte' rest' =>
      have hparts := List.cons.inj hbytes
      have hbyte : byte = byte' := UInt8.xor_left_inj 2 |>.mp hparts.1
      have hrest : rest = rest' := hparts.2
      subst hbyte hrest
      rfl

/-! ## §6. Runs. -/

namespace Relaying

variable {r r' : Relaying env} {arrival : RelayArrival}

/-- The driver has a handler for joiners and an open link. -/
def Serves (r : Relaying env) : Prop :=
  r.driver.joinerHandler.isSome = true ∧ r.driver.linkOpen = true

/-- With a handler installed the notification goes to `handleRelayRx`. -/
theorem receive_driver (h : r.Serves) (arrival : RelayArrival) :
    (r.receive arrival).driver = stateOf (arrival.handle (r.ready arrival)) := by
  obtain ⟨state, hstate⟩ := Option.isSome_iff_exists.mp h.1
  have hroute : routeUnsolicitedMessage arrival.message (r.ready arrival) =
      EStateM.bind arrival.handle (fun _ => pure true) (r.ready arrival) := by
    have hready : (r.ready arrival).joinerHandler = some state := hstate
    rw [routeUnsolicitedMessage, arrival.parsed, attempt_ok_bind]
    dsimp only
    rw [get_bind, hready]
    rfl
  show stateOf (routeUnsolicitedMessage arrival.message (r.ready arrival)) = _
  rw [hroute]
  unfold EStateM.bind
  cases arrival.handle (r.ready arrival) <;> rfl

/-- Two runs that agree on a joiner at a time: its sessions are the same up to those that have
    expired by then. -/
structure Agrees (joinerId : JoinerId) (time : Nat) (r r' : Relaying env) : Prop where
  entries : (r.driver.entriesOf joinerId).filter (fun entry => !entry.2.expired time) =
    (r'.driver.entriesOf joinerId).filter (fun entry => !entry.2.expired time)
  rng : r.rngs joinerId = r'.rngs joinerId
  serves : r.Serves
  serves' : r'.Serves

theorem Agrees.refl (joinerId : JoinerId) (time : Nat) (h : r.Serves) :
    Agrees joinerId time r r := ⟨rfl, rfl, h, h⟩

/-- What has expired stays expired. -/
theorem filter_unexpired_later {C : Dtls.Crypto} {time later : Nat} (h : time ≤ later)
    (entries : List (JoinerId × JoinerSession C)) :
    (entries.filter (fun entry => !entry.2.expired time)).filter
        (fun entry => !entry.2.expired later) =
      entries.filter (fun entry => !entry.2.expired later) := by
  rw [List.filter_filter]
  refine List.filter_congr fun entry _ => ?_
  by_cases hlater : entry.2.expired later = true
  · simp [hlater]
  · have hlive : entry.2.expired time = false := by
      simp only [JoinerSession.expired, decide_eq_true_eq, decide_eq_false_iff_not] at hlater ⊢
      omega
    simp [hlive]

theorem Agrees.later {joinerId : JoinerId} {time later : Nat} (h : Agrees joinerId time r r')
    (htime : time ≤ later) : Agrees joinerId later r r' where
  entries := by
    rw [← filter_unexpired_later htime (r.driver.entriesOf joinerId), h.entries,
      filter_unexpired_later htime]
  rng := h.rng
  serves := h.serves
  serves' := h.serves'

section Steps

variable (hhandler : env.handler.Oblivious) (hsends : ∀ n, env.sendResult n = none)
  (hstill : ∀ n, env.elapsed n = 0)

include hstill in
theorem ready_now (r : Relaying env) (arrival : RelayArrival) :
    (r.ready arrival).readClock.world.now = arrival.time := by
  show arrival.time + env.elapsed _ = arrival.time
  rw [hstill, Nat.add_zero]

include hhandler hsends hstill in
/-- **The joiner's own notification**, in two runs that agree on the joiner. -/
theorem receive_paired {time : Nat} {filed : Prop} (h : Agrees arrival.joinerId time r r')
    (htime : time ≤ arrival.time) (hfiled : filed → r.driver.Filed) :
    Paired arrival.joinerIid filed r.driver.outputs r'.driver.outputs (r.receive arrival).driver
      (r'.receive arrival).driver := by
  have hswept : ∀ r : Relaying env, (r.ready arrival).readClock.sweep.entriesOf arrival.joinerId =
      (r.driver.entriesOf arrival.joinerId).filter
        (fun entry => !entry.2.expired arrival.time) := by
    intro r
    rw [entriesOf_sweep, ready_now hstill]
    rfl
  have hpaired : Paired arrival.joinerIid filed r.driver.outputs r'.driver.outputs
      (r.ready arrival).readClock.sweep (r'.ready arrival).readClock.sweep :=
    { entries := (hswept r).trans ((h.later htime).entries.trans (hswept r').symm)
      own := by
        intro hright entry hmem
        rw [entriesOf_sweep] at hmem
        have hentry := List.mem_filter.mp (List.mem_of_mem_filter hmem)
        have hkey : entry.1 = arrival.joinerId := of_decide_eq_true hentry.2
        exact joinerIdFromIid_injective ((hfiled hright entry hentry.1).trans hkey)
      rng := h.rng
      now := (ready_now hstill r arrival).trans (ready_now hstill r' arrival).symm
      attends := ⟨h.serves, h.serves'⟩
      outputs := ⟨[], (List.append_nil _).symm, (List.append_nil _).symm,
        fun _ => List.forall_mem_nil _⟩ }
  have hafter := (attend_coupled hhandler hsends arrival.joinerUdpPort arrival.joinerRouterLocator
    arrival.joinerIid arrival.payload _ _ hpaired).stateOf
  rw [← handleRelayRx_eq, ← handleRelayRx_eq] at hafter
  rw [receive_driver h.serves arrival, receive_driver h.serves' arrival]
  exact hafter

include hhandler hsends hstill in
/-- The same replies and events in both runs, which still agree afterwards. -/
theorem receive_agrees {time : Nat} (h : Agrees arrival.joinerId time r r')
    (htime : time ≤ arrival.time) : r.produced arrival = r'.produced arrival ∧
      Agrees arrival.joinerId arrival.time (r.receive arrival) (r'.receive arrival) := by
  have hafter := receive_paired hhandler hsends hstill h htime False.elim
  refine ⟨?_, ?_, ?_, hafter.attends.1, hafter.attends.2⟩
  · obtain ⟨new, hnew, hnew', -⟩ := hafter.outputs
    unfold produced
    rw [hnew, hnew', List.drop_left, List.drop_left]
  · have hentries : (r.receive arrival).driver.entriesOf arrival.joinerId =
        (r'.receive arrival).driver.entriesOf arrival.joinerId := hafter.entries
    rw [hentries]
  · show (if arrival.joinerId = arrival.joinerId then _ else _) =
      (if arrival.joinerId = arrival.joinerId then _ else _)
    rw [if_pos rfl, if_pos rfl]
    exact hafter.rng

include hstill in
theorem receive_apart {joinerId : JoinerId} (h : r.Serves) (hother : arrival.joinerId ≠ joinerId) :
    Apart joinerId
      ((r.driver.entriesOf joinerId).filter (fun entry => !entry.2.expired arrival.time))
      (r.receive arrival).driver := by
  have hready : (r.ready arrival).entriesOf joinerId = r.driver.entriesOf joinerId := rfl
  have hafter := handleRelayRx_apart (d := r.ready arrival) hother arrival.joinerUdpPort
    arrival.joinerRouterLocator arrival.payload h.1 h.2
  rw [ready_now hstill, hready] at hafter
  rw [receive_driver h arrival]
  exact hafter

include hstill in
/-- **Another joiner's notification** changes nothing for the joiner. -/
theorem receive_other {joinerId : JoinerId} {time : Nat} (h : Agrees joinerId time r r')
    (htime : time ≤ arrival.time) (hother : arrival.joinerId ≠ joinerId) :
    Agrees joinerId arrival.time (r.receive arrival) r' := by
  have hafter := receive_apart hstill h.serves hother
  refine ⟨?_, ?_, ⟨hafter.handler, hafter.link⟩, h.serves'⟩
  · rw [hafter.entries, filter_unexpired_later (Nat.le_refl _)]
    exact (h.later htime).entries
  · show (if joinerId = arrival.joinerId then _ else r.rngs joinerId) = r'.rngs joinerId
    rw [if_neg (Ne.symm hother)]
    exact h.rng

include hhandler hsends hstill in
/-- The notifications of all joiners, and those of one joiner alone. -/
theorem outputsOf_filter {joinerId : JoinerId} (arrivals : List RelayArrival)
    (hordered : arrivals.Pairwise (fun first second => first.time ≤ second.time)) :
    ∀ {r r' : Relaying env} {time : Nat}, (∀ arrival ∈ arrivals, time ≤ arrival.time) →
      Agrees joinerId time r r' → r.outputsOf joinerId arrivals =
        r'.outputsOf joinerId (arrivals.filter (fun arrival => arrival.joinerId = joinerId)) := by
  induction arrivals with
  | nil =>
    intro r r' time _ _
    rfl
  | cons arrival arrivals ih =>
    intro r r' time htime h
    have hfirst : time ≤ arrival.time := htime arrival List.mem_cons_self
    have hrest : ∀ later ∈ arrivals, arrival.time ≤ later.time := (List.pairwise_cons.mp hordered).1
    have htail := (List.pairwise_cons.mp hordered).2
    by_cases hown : arrival.joinerId = joinerId
    · subst hown
      obtain ⟨hproduced, hagrees⟩ := receive_agrees hhandler hsends hstill h hfirst
      rw [List.filter_cons_of_pos (by simp), outputsOf, outputsOf, if_pos rfl, if_pos rfl, hproduced,
        ih htail hrest hagrees]
    · rw [List.filter_cons_of_neg (by simpa using hown), outputsOf, if_neg hown]
      exact ih htail hrest (receive_other hstill h hfirst hown)

include hhandler hsends hstill in
theorem receive_serves (h : r.Serves) (arrival : RelayArrival) : (r.receive arrival).Serves :=
  (receive_agrees hhandler hsends hstill (.refl arrival.joinerId arrival.time h)
    (Nat.le_refl _)).2.serves

include hhandler hsends hstill in
theorem receive_own (h : r.Serves) (hfiled : r.driver.Filed) (arrival : RelayArrival) :
    Paired arrival.joinerIid True r.driver.outputs r.driver.outputs (r.receive arrival).driver
      (r.receive arrival).driver :=
  receive_paired hhandler hsends hstill (.refl arrival.joinerId arrival.time h) (Nat.le_refl _)
    fun _ => hfiled

include hhandler hsends hstill in
theorem receive_filed (h : r.Serves) (hfiled : r.driver.Filed) (arrival : RelayArrival) :
    (r.receive arrival).driver.Filed := by
  intro entry hmem
  by_cases hown : entry.1 = arrival.joinerId
  · have hiid := (receive_own hhandler hsends hstill h hfiled arrival).own trivial entry
      (List.mem_filter.mpr ⟨hmem, decide_eq_true hown⟩)
    rw [hiid, hown]
    rfl
  -- the entries of another joiner were there before
  have hfound : entry ∈ (r.receive arrival).driver.entriesOf entry.1 :=
    List.mem_filter.mpr ⟨hmem, decide_eq_true rfl⟩
  rw [(receive_apart hstill h (Ne.symm hown)).entries] at hfound
  exact hfiled entry (List.mem_of_mem_filter (List.mem_of_mem_filter hfound))

include hhandler hsends hstill in
theorem run_filed (h : r.Serves) (hfiled : r.driver.Filed) (arrivals : List RelayArrival) :
    (r.run arrivals).Serves ∧ (r.run arrivals).driver.Filed := by
  induction arrivals generalizing r with
  | nil => exact ⟨h, hfiled⟩
  | cons arrival arrivals ih =>
    exact ih (receive_serves hhandler hsends hstill h arrival)
      (receive_filed hhandler hsends hstill h hfiled arrival)

include hhandler hsends hstill in
/-- Whatever came before, a notification makes the driver reply to its joiner only and publish
    events about its joiner only. -/
theorem produced_isFor (h : r.Serves) (hfiled : r.driver.Filed) (earlier : List RelayArrival)
    (arrival : RelayArrival) :
    ∀ output ∈ (r.run earlier).produced arrival, output.IsFor arrival.joinerIid := by
  obtain ⟨hserves, hstored⟩ := run_filed hhandler hsends hstill h hfiled earlier
  obtain ⟨new, hnew, -, hfor⟩ :=
    (receive_own hhandler hsends hstill hserves hstored arrival).outputs
  unfold produced
  rw [hnew, List.drop_left]
  exact hfor trivial

end Steps

end Relaying

/-! ## §7. A session that fails. -/

/-- The session that the notification finds or opens rejects the payload, or the key for its
    joiner router cannot be derived. -/
def SessionFails (arrival : RelayArrival) (d : Driver env) : Prop :=
  ∃ state session state' d₁, d.joinerHandler = some state ∧
    openJoinerSession arrival.joinerUdpPort arrival.joinerRouterLocator arrival.joinerIid
      d.readClock.world.now state d.readClock.sweep = (some session, state', d₁) ∧
    match Receiving.receive arrival.payload ({ session, handlerState := state'
                                               rng := d₁.world.rng, events := [] }
      : Receiving env.crypto env.handler) with
    | .error _ _ => True
    | .ok events received =>
      (relayEvents received.session arrival.joinerId events received.handlerState).1.failed = true

theorem feedJoiner_fails {joinerId : JoinerId} {session : JoinerSession env.crypto}
    {state : env.handler.State} {payload : Bytes} {d : Driver env}
    (h : match Receiving.receive payload
        ({ session, handlerState := state, rng := d.world.rng, events := [] }
          : Receiving env.crypto env.handler) with
      | .error _ _ => True
      | .ok events received =>
        (relayEvents received.session joinerId events received.handlerState).1.failed = true) :
    wp (feedJoiner joinerId session state payload) (fun _ d' => d'.entriesOf joinerId = [])
      (fun _ _ => False) d := by
  simp only [feedJoiner, wp_bind, wp_modify, wp_get]
  have hlogged : (d.log (.fed joinerId payload)).world.rng = d.world.rng := rfl
  rw [hlogged]
  cases hreceived : Receiving.receive payload
    ({ session, handlerState := state, rng := d.world.rng, events := [] }
      : Receiving env.crypto env.handler) with
  | error e received => exact entriesOf_removeJoinerSession _ joinerId
  | ok events received =>
    rw [hreceived] at h
    simp only [wp_bind, wp_modify]
    rw [if_pos h]
    exact entriesOf_removeJoinerSession _ joinerId

/-- A session that fails is removed, and the caller is not told. -/
theorem handle_of_sessionFails {arrival : RelayArrival} {d : Driver env}
    (h : SessionFails arrival d) :
    ∃ d', arrival.handle d = .ok () d' ∧ d'.entriesOf arrival.joinerId = [] := by
  obtain ⟨state, session, state', d₁, hstate, hopened, hfails⟩ := h
  have hswept : d.readClock.sweep.joinerHandler = some state := hstate
  have hfound : openJoinerSession arrival.joinerUdpPort arrival.joinerRouterLocator
      arrival.joinerIid d.readClock.sweep.world.now state d.readClock.sweep =
      (some session, state', d₁) := hopened
  rw [RelayArrival.handle, handleRelayRx_eq, attend_eq hswept, hfound]
  obtain ⟨_, d', hfed, hremoved⟩ := exists_ok_of_wp (feedJoiner_fails hfails)
  exact ⟨d', hfed, hremoved⟩

/-! ## §8. Isolation. -/

/-- An outside whose handler enables every joiner. -/
def enablingEnv : Env :=
  { Env.transparent (fun _ => none) with
    handler :=
      { State := Unit
        joinerPskd := fun _ state => (some (ascii "J01NME"), state)
        onJoinerConnected := fun _ state => state
        onJoinerFinalize := fun _ _ state => (true, state) } }

set_option maxRecDepth 4000 in
/-- A RLY_RX.ntf that carries one stray byte. -/
def strayArrival (time : Nat) (last : UInt8) : RelayArrival where
  time
  message :=
    { ty := .nonConfirmable, code := .POST, messageId := 7, token := []
      options := CoapMessage.pathOptions [ascii "c", ascii "rx"]
      payload := [TLV_JOINER_UDP_PORT, 2, 0x03, 0xe8, TLV_JOINER_ROUTER_LOCATOR, 2, 0xfc, 0x00,
        TLV_JOINER_IID, 8, 2, 0, 0, 0, 0, 0, 0, last, TLV_JOINER_DTLS_ENCAPSULATION, 1, 9] }
  joinerUdpPort := 1000
  joinerRouterLocator := 0xfc00
  joinerIid := ⟨[2, 0, 0, 0, 0, 0, 0, last], rfl⟩
  payload := [9]
  parsed := by rfl

end Driver

end Meshcop
