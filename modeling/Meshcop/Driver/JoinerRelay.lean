/-
  Meshcop.Driver.JoinerRelay — what the driver does with relay traffic that does not
  authenticate (`commissioner/client/driver/relay.rs`).

  The driver keeps one session for each joiner and removes it as soon as `receive` fails.  An
  unauthenticated payload therefore costs an established joiner its session exactly if the
  session does not tolerate it; otherwise the session that is put back is the old one up to
  counters.

  Main results:
    * `handleRelayRx_unauthenticated` — kept if the payload is harmless, removed if it is not;
    * `established_joiner_undisturbed_iff`.
-/

import Meshcop.Driver.Incoming
import Meshcop.Dtls.Conversation
import Meshcop.Joiner.Established

namespace Meshcop

open Lib
open Dtls (DtlsRecord)

namespace Driver

section Relay

variable {env : Env}

/-! ## §1. The table of joiner sessions. -/

variable {joinerId : JoinerId} {session : JoinerSession env.crypto}

/-- A session that has not expired is still found after the expired ones are dropped. -/
theorem find?_filter_unexpired {sessions : List (JoinerId × JoinerSession env.crypto)} {now : Nat}
    (hfound : (sessions.find? (fun entry => entry.1 = joinerId)).map Prod.snd = some session)
    (hlive : session.expired now = false) :
    ((sessions.filter (fun entry => !entry.2.expired now)).find?
      (fun entry => entry.1 = joinerId)).map Prod.snd = some session := by
  induction sessions with
  | nil => cases hfound
  | cons entry sessions ih =>
    by_cases hkey : entry.1 = joinerId
    · rw [List.find?_cons_of_pos (by simpa using hkey)] at hfound
      have hentry : entry.2 = session := Option.some.inj hfound
      rw [List.filter_cons_of_pos (by simp [hentry, hlive]),
        List.find?_cons_of_pos (by simpa using hkey)]
      exact hfound
    · rw [List.find?_cons_of_neg (by simpa using hkey)] at hfound
      by_cases hexpired : entry.2.expired now = true
      · rw [List.filter_cons_of_neg (by simp [hexpired])]
        exact ih hfound
      · rw [List.filter_cons_of_pos (by simp [hexpired]),
          List.find?_cons_of_neg (by simpa using hkey)]
        exact ih hfound

variable {d : Driver env}

/-- The session put back for a joiner is the one that is found. -/
theorem joinerSession?_putJoinerSession (h : d.joinerSession? joinerId = some session)
    (s : JoinerSession env.crypto) :
    (d.putJoinerSession joinerId s).joinerSession? joinerId = some s := by
  unfold joinerSession? putJoinerSession at *
  dsimp only at h ⊢
  generalize d.joinerSessions = sessions at h
  induction sessions with
  | nil => cases h
  | cons entry sessions ih =>
    rw [List.map_cons]
    by_cases hkey : entry.1 = joinerId
    · rw [if_pos hkey, List.find?_cons_of_pos (by simp)]
      rfl
    · rw [List.find?_cons_of_neg (by simpa using hkey)] at h
      rw [if_neg hkey, List.find?_cons_of_neg (by simpa using hkey)]
      exact ih h

/-- A removed session is not found. -/
theorem joinerSession?_removeJoinerSession (d : Driver env) (joinerId : JoinerId) :
    (d.removeJoinerSession joinerId).joinerSession? joinerId = none := by
  unfold joinerSession? removeJoinerSession
  rw [Option.map_eq_none_iff, List.find?_eq_none]
  intro entry hentry
  have hne := (List.mem_filter.mp hentry).2
  simpa using hne

theorem relayTransmissions_sessions {sessions : List (JoinerId × JoinerSession env.crypto)}
    (session : JoinerSession env.crypto) (transmissions : List (Bytes × Option Bytes)) :
    Keeps (fun d : Driver env => d.joinerSessions = sessions)
      (relayTransmissions session transmissions) :=
  relayTransmissions_keeps session (fun _ _ h => h) (fun _ _ _ _ _ _ _ h => h) (fun _ h => h)
    transmissions

/-! ## §2. Unauthenticated relay traffic. -/

/-- What becomes of the session of an established joiner. -/
def Fate (session : JoinerSession env.crypto) (joinerId : JoinerId) (payload : Bytes)
    (d : Driver env) : Prop :=
  (session.Harmless payload →
    ∃ session', d.joinerSession? joinerId = some session' ∧ session.Unaffected session') ∧
  (¬ session.Harmless payload → d.joinerSession? joinerId = none)

/-- A tolerated payload publishes nothing and fails nothing. -/
theorem relayEvents_tolerated {r r' : Receiving env.crypto env.handler}
    {events : List JoinerSessionEvent} (h : Receiving.Tolerated r events r')
    (session : JoinerSession env.crypto) (joinerId : JoinerId) (state : env.handler.State) :
    (relayEvents session joinerId events state).1.events = [] ∧
      (relayEvents session joinerId events state).1.failed = false := by
  rcases h.emitted with hnone | ⟨datagram, hflight, -⟩
  · rw [hnone]
    exact ⟨rfl, rfl⟩
  · rw [hflight]
    exact ⟨rfl, rfl⟩

theorem feedJoiner_unauthenticated (hC : env.crypto.AeadInverts) {payload : Bytes}
    (hphase : session.phase.established = true) (hkeys : session.KeysSized)
    (hunauthenticated : session.Unauthenticated payload) (state : env.handler.State)
    (hfound : d.joinerSession? joinerId = some session) :
    wp (feedJoiner joinerId session state payload) (fun _ d' => Fate session joinerId payload d')
      (fun _ d' => Fate session joinerId payload d') d := by
  simp only [feedJoiner, wp_bind, wp_modify, wp_get]
  have hreceive := Receiving.receive_unauthenticated (r := (
    { session, handlerState := state, rng := (d.log (.fed joinerId payload)).world.rng, events := [] }
      : Receiving env.crypto env.handler)) hC hphase hkeys hunauthenticated
  cases hreceived : Receiving.receive payload
    ({ session, handlerState := state, rng := (d.log (.fed joinerId payload)).world.rng
       events := [] } : Receiving env.crypto env.handler) with
  | error e received =>
    unfold wp at hreceive
    rw [hreceived] at hreceive
    exact ⟨fun h => absurd h hreceive, fun _ => joinerSession?_removeJoinerSession _ _⟩
  | ok events received =>
    obtain ⟨hharmless, htolerated⟩ := of_wp_ok hreceive hreceived
    obtain ⟨hevents, hfailed⟩ :=
      relayEvents_tolerated htolerated received.session joinerId received.handlerState
    dsimp only
    generalize relayEvents received.session joinerId events received.handlerState = relayed
      at hevents hfailed
    obtain ⟨relayed, state'⟩ := relayed
    dsimp only at hevents hfailed
    simp only [wp_bind, wp_modify]
    rw [hfailed, hevents]
    -- the session put back stays in the table while the datagrams are relayed
    have hfate : ∀ d' d'' : Driver env, d'.joinerSessions = d.joinerSessions →
        d''.joinerSessions = (d'.putJoinerSession joinerId received.session).joinerSessions →
        Fate session joinerId payload d'' := by
      intro d' d'' hsame hsessions
      have hfound' : d'.joinerSession? joinerId = some session := by
        unfold joinerSession?
        rw [hsame]
        exact hfound
      have hput := joinerSession?_putJoinerSession hfound' received.session
      refine ⟨fun _ => ⟨received.session, ?_, htolerated.session⟩, fun h => absurd hharmless h⟩
      unfold joinerSession? at hput ⊢
      rw [hsessions]
      exact hput
    exact wp_mono (relayTransmissions_sessions session relayed.transmissions _ rfl)
      (fun _ d'' h => hfate _ d'' rfl h) (fun _ d'' h => hfate _ d'' rfl h)

/-- **The driver and an unauthenticated payload**: the session is kept, unaffected, if the
    payload is harmless, and removed if it is not. -/
theorem handleRelayRx_unauthenticated (hC : env.crypto.AeadInverts) {joinerIid : FixedBytes 8}
    {payload : Bytes} (hphase : session.phase.established = true) (hkeys : session.KeysSized)
    (hunauthenticated : session.Unauthenticated payload)
    (joinerUdpPort joinerRouterLocator : UInt16) {state : env.handler.State}
    (hhandler : d.joinerHandler = some state)
    (hfound : d.joinerSession? (joinerIdFromIid joinerIid) = some session)
    (hlive : session.expired d.readClock.world.now = false) :
    wp (handleRelayRx joinerUdpPort joinerRouterLocator joinerIid payload)
      (fun _ d' => Fate session (joinerIdFromIid joinerIid) payload d')
      (fun _ d' => Fate session (joinerIdFromIid joinerIid) payload d') d := by
  have hswept : ({ d.readClock with
        joinerSessions := (d.readClock.joinerSessions.filter
          fun entry => !entry.2.expired d.readClock.world.now) } : Driver env).joinerSession?
      (joinerIdFromIid joinerIid) = some session := find?_filter_unexpired hfound hlive
  simp only [handleRelayRx, wp_bind, wp_modify, wp_get]
  split
  · rename_i hnone
    cases hhandler.symm.trans hnone
  rename_i state' hsome
  cases hhandler.symm.trans hsome
  unfold openJoinerSession
  dsimp only
  rw [hswept]
  simp only [wp_bind, wp_set]
  exact feedJoiner_unauthenticated hC hphase hkeys hunauthenticated state hswept

/-- The driver keeps the session when the payload is relayed to its joiner. -/
def KeepsJoiner (session : JoinerSession env.crypto) (payload : Bytes) : Prop :=
  ∀ (joinerUdpPort joinerRouterLocator : UInt16) (joinerIid : FixedBytes 8) (d : Driver env),
    d.joinerHandler.isSome = true → d.joinerSession? (joinerIdFromIid joinerIid) = some session →
    session.expired d.readClock.world.now = false →
    wp (handleRelayRx joinerUdpPort joinerRouterLocator joinerIid payload)
      (fun _ d' => ∃ session', d'.joinerSession? (joinerIdFromIid joinerIid) = some session' ∧
        session.Unaffected session')
      (fun _ d' => ∃ session', d'.joinerSession? (joinerIdFromIid joinerIid) = some session' ∧
        session.Unaffected session') d

/-- **When relay traffic cannot end an established joiner.**  For every session whose handshake
    is complete and every payload in which no epoch-1 record opens under the client's write key:
    `receive` returns, repeats at most the Finished, leaves everything but counters unchanged
    and answers a later JOIN_FIN.req as before, and the driver keeps the session, exactly if the
    payload has no epoch-0 ChangeCipherSpec other than the byte 1 and no repetition is asked for
    that cannot be sealed any more. -/
theorem established_joiner_undisturbed_iff (hC : env.crypto.AeadInverts) (payload : Bytes)
    (r : Receiving env.crypto env.handler) (hphase : r.session.phase.established = true)
    (hkeys : r.session.KeysSized) (hunauthenticated : r.session.Unauthenticated payload) :
    Receiving.Tolerates payload r ∧ KeepsJoiner r.session payload ↔ r.session.Harmless payload := by
  have htolerates := Receiving.tolerates_iff hC hphase hkeys hunauthenticated
  constructor
  · intro h
    exact htolerates.mp h.1
  · intro hharmless
    refine ⟨htolerates.mpr hharmless, ?_⟩
    intro joinerUdpPort joinerRouterLocator joinerIid d hhandler hfound hlive
    obtain ⟨state, hstate⟩ := Option.isSome_iff_exists.mp hhandler
    exact wp_mono (handleRelayRx_unauthenticated hC hphase hkeys hunauthenticated joinerUdpPort
        joinerRouterLocator hstate hfound hlive)
      (fun _ _ h => h.1 hharmless) (fun _ _ h => h.1 hharmless)

end Relay

/-! ## §3. A commissioned joiner. -/

/-- Feeds payloads into a session, in order: the datagrams it sends back, and where it ends. -/
def relayAll {C : Dtls.Crypto} {handler : JoinerHandler} :
    List Bytes → Receiving C handler → List Bytes × Receiving C handler
  | [], r => ([], r)
  | payload :: payloads, r =>
    match Receiving.receive payload r with
    | .error _ r => ([], r)
    | .ok events r =>
      let datagrams := events.filterMap fun
        | .transmit datagram _ => some datagram
        | _ => none
      let (sent, r) := relayAll payloads r
      (datagrams ++ sent, r)

abbrev relayEnv : Env := Env.transparent fun _ => none

def relayIid : FixedBytes 8 := ⟨[2, 0, 0, 0, 0, 0, 0, 1], rfl⟩

/-- A new session over the transparent primitives. -/
def relayStart : Receiving relayEnv.crypto relayEnv.handler :=
  { session := (JoinerSession.new relayIid 1000 0xfc00 [] 0 ()).1
    handlerState := (), rng := (), events := [] }

/-- What a joiner that runs the client driver has sent, having received these datagrams. -/
def joinerSent (received : List Bytes) : List Bytes :=
  let talk := Dtls.Conversation.transparent
  talk.clientSent (received.map (.datagram talk.clientAddr talk.serverAddr))

/-- What the session has sent back after the given number of rounds. -/
def relaySent : Nat → List Bytes
  | 0 => []
  | rounds + 1 => (relayAll (joinerSent (relaySent rounds)) relayStart).1

/-- The session after the handshake. -/
def commissioned : Receiving relayEnv.crypto relayEnv.handler :=
  (relayAll (joinerSent (relaySent 2)) relayStart).2

/-- The keys the transparent primitives derive. -/
def zeroKeys : Dtls.ThreadDtlsKeyMaterial :=
  { masterSecret := []
    keyBlock := { clientWriteKey := List.replicate 16 0, serverWriteKey := List.replicate 16 0
                  clientWriteIv := List.replicate 4 0, serverWriteIv := List.replicate 4 0 } }

theorem commissioned_session : commissioned.session.phase = .connected ∧
    commissioned.session.keyMaterial = some zeroKeys ∧
    commissioned.session.serverFinished.length = 434 ∧ commissioned.session.epoch1Sequence = 1 := by
  decide +kernel

theorem commissioned_keysSized : commissioned.session.KeysSized := by
  intro keyMaterial hkeyMaterial
  rw [commissioned_session.2.1] at hkeyMaterial
  cases hkeyMaterial
  exact { clientWriteKey := rfl, serverWriteKey := rfl, clientWriteIv := rfl, serverWriteIv := rfl }

/-- A record of DTLS 1.2. -/
def relayRecord (contentType : Dtls.ContentType) (epoch : UInt16) (payload : Bytes) : DtlsRecord :=
  { header := { contentType, version := Dtls.DTLS_1_2_VERSION, epoch, sequenceNumber := 9
                length := UInt16.ofNat payload.length }
    payload }

/-- Records of epoch 1 that are shorter than a nonce and a tag do not open. -/
theorem unauthenticated_of_short {s : JoinerSession relayEnv.crypto} {payload : Bytes}
    {records : List DtlsRecord} (hparse : DtlsRecord.parseDatagram payload = .ok records)
    (hshort : ∀ record ∈ records, record.header.epoch = 1 → record.payload.length < 16) :
    s.Unauthenticated payload := by
  intro records' hparse' record hmem hopens
  rw [hparse] at hparse'
  cases hparse'
  obtain ⟨hepoch, keyMaterial, plaintext, -, hopen⟩ := hopens
  unfold Dtls.openAes128Ccm8Record at hopen
  rw [if_pos (show _ < Dtls.TLS_CCM_EXPLICIT_NONCE_LEN + Dtls.TLS_CCM_8_TAG_LEN from
    hshort record hmem hepoch)] at hopen
  cases hopen

/-- A plaintext alert, a ChangeCipherSpec, and a record of epoch 1 too short to be sealed. -/
def strayRecords : List DtlsRecord :=
  [relayRecord .alert 0 [2, 40], relayRecord .changeCipherSpec 0 [1],
    relayRecord .handshake 1 [1, 2, 3]]

def strayPayload : Bytes := strayRecords.flatMap fun record => record.header.encode ++ record.payload

/-- Stray records only make the commissioned joiner's session repeat its Finished. -/
theorem established_joiner_undisturbed_iff_stray :
    commissioned.session.phase = .connected ∧
      commissioned.session.Unauthenticated strayPayload ∧
      Receiving.Tolerates strayPayload commissioned ∧
      KeepsJoiner commissioned.session strayPayload := by
  have hparse : DtlsRecord.parseDatagram strayPayload = .ok strayRecords := by decide +kernel
  obtain ⟨hphase, hkeyMaterial, hlength, hnumber⟩ := commissioned_session
  have hunauthenticated : commissioned.session.Unauthenticated strayPayload :=
    unauthenticated_of_short hparse (by decide)
  have hharmless : commissioned.session.Harmless strayPayload := by
    intro records hparse'
    rw [hparse] at hparse'
    cases hparse'
    refine ⟨?_, fun _ => ⟨?_, ?_, ?_⟩⟩
    · unfold JoinerSession.MalformedChange
      decide
    · rw [hkeyMaterial]
      rfl
    · rw [hlength]
      decide
    · rw [hnumber]
      decide
  have hestablished : commissioned.session.phase.established = true := by
    rw [hphase]
    rfl
  exact ⟨hphase, hunauthenticated,
    (established_joiner_undisturbed_iff Dtls.Crypto.transparent_aeadInverts strayPayload commissioned
      hestablished commissioned_keysSized hunauthenticated).mpr hharmless⟩

/-- A plaintext ChangeCipherSpec whose payload is the byte 2. -/
def malformedChange : DtlsRecord := relayRecord .changeCipherSpec 0 [2]

def malformedPayload : Bytes := malformedChange.header.encode ++ malformedChange.payload

theorem parseDatagram_malformedPayload :
    DtlsRecord.parseDatagram malformedPayload = .ok [malformedChange] := by
  decide +kernel

/-- It ends every session, in every phase. -/
theorem receive_malformedPayload {C : Dtls.Crypto} {handler : JoinerHandler}
    (r : Receiving C handler) : ∃ r', Receiving.receive malformedPayload r
      = .error (.crypto "invalid ChangeCipherSpec payload") r' := by
  have hquiet : Dtls.isClientFinishedFlight [malformedChange] = false := rfl
  have hfails : wp (Receiving.receive malformedPayload) (fun _ _ => False)
      (fun e _ => e = .crypto "invalid ChangeCipherSpec payload") r := by
    unfold Receiving.receive
    simp only [wp_bind, wp_modify, parseDatagram_malformedPayload, wp_get,
      Receiving.repeatServerFinished]
    rw [if_neg fun h => by rw [hquiet] at h; cases h.2.2.1]
    exact rfl
  obtain ⟨e, r', hfailed, he⟩ := exists_error_of_wp hfails
  rw [he] at hfailed
  exact ⟨r', hfailed⟩

theorem not_harmless_malformedPayload {C : Dtls.Crypto} (s : JoinerSession C) :
    ¬ s.Harmless malformedPayload := by
  intro h
  exact (h _ parseDatagram_malformedPayload).1 malformedChange List.mem_cons_self
    ⟨rfl, rfl, by decide⟩

/-- A driver with one joiner session. -/
def relayDriver (s : JoinerSession relayEnv.crypto) : Driver relayEnv :=
  { Driver.new () with
    joinerHandler := some ()
    joinerSessions := [(joinerIdFromIid relayIid, s)] }

theorem joinerSession?_relayDriver (s : JoinerSession relayEnv.crypto) :
    (relayDriver s).joinerSession? (joinerIdFromIid relayIid) = some s := by
  unfold joinerSession? relayDriver
  rw [List.find?_cons_of_pos (by simp)]
  rfl

/-- The driver does not keep an established session that receives it. -/
theorem not_keepsJoiner_malformedPayload {s : JoinerSession relayEnv.crypto}
    (hphase : s.phase.established = true) (hkeys : s.KeysSized)
    (hlive : s.expired (relayDriver s).readClock.world.now = false) :
    ¬ KeepsJoiner s malformedPayload := by
  intro hkeeps
  have hunauthenticated : s.Unauthenticated malformedPayload :=
    unauthenticated_of_short parseDatagram_malformedPayload (by decide)
  have hfound := joinerSession?_relayDriver s
  have hkept := after_of_wp (hkeeps 1000 0xfc00 relayIid (relayDriver s) rfl hfound hlive)
  have hhandler : (relayDriver s).joinerHandler = some () := rfl
  have hgone := after_of_wp (handleRelayRx_unauthenticated Dtls.Crypto.transparent_aeadInverts
    hphase hkeys hunauthenticated 1000 0xfc00 hhandler hfound hlive)
  obtain ⟨session', hsession', -⟩ := hkept
  rw [hgone.2 (not_harmless_malformedPayload s)] at hsession'
  cases hsession'

/-- **One unauthenticated record ends the session** of the commissioned joiner, and the driver
    removes it. -/
theorem malformed_change_ends_joiner :
    commissioned.session.phase = .connected ∧
      commissioned.session.Unauthenticated malformedPayload ∧
      (∃ r', Receiving.receive malformedPayload commissioned
        = .error (.crypto "invalid ChangeCipherSpec payload") r') ∧
      ¬ KeepsJoiner commissioned.session malformedPayload := by
  have hphase := commissioned_session.1
  have hestablished : commissioned.session.phase.established = true :=
    congrArg JoinerSessionPhase.established hphase
  have hlive : commissioned.session.expired 0 = false := by decide +kernel
  exact ⟨hphase, unauthenticated_of_short parseDatagram_malformedPayload (by decide),
    receive_malformedPayload commissioned,
    not_keepsJoiner_malformedPayload hestablished commissioned_keysSized hlive⟩

end Driver

end Meshcop
