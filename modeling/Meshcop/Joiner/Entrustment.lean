/-
  Meshcop.Joiner.Entrustment — what holds of a joiner session along every run.

  A run feeds payloads to `receive`, one after another, whether the calls before returned or
  failed, with any state of the application and of the random source at each call.  By
  refinement a run is a sequence of the steps of `Steps`, so an invariant is shown step by
  step there.

    * `SealsOnce`  — until the handshake is complete nothing is sealed; from then on all
                     records are sealed under one key and IV, numbered by the counter;
    * `Entrusts`   — until the handshake is complete nothing is asked, answered or entrusted;
                     from then on each such action has its reason before it in the history.

  Main results: `joiner_never_reuses_a_nonce`, `entrustment_is_safe`.
-/

import Meshcop.Joiner.Moves
import Meshcop.Lib.History

namespace Meshcop

open Lib
open Dtls (Crypto Protected ThreadDtlsKeyMaterial HandshakeMessage SealedUpTo)

/-! ## §1. Runs. -/

/-- One call of `receive`: the payload, and what the application and the random source are
    at that time. -/
structure JoinerCall (C : Crypto) (handler : JoinerHandler) where
  payload : Bytes
  handlerState : handler.State
  rng : C.Rng

namespace JoinerSession

variable {C : Crypto} {handler : JoinerHandler}

/-- The session after one call, returned or failed. -/
def feed (s : JoinerSession C) (call : JoinerCall C handler) : JoinerSession C :=
  (after (Receiving.receive call.payload)
    { session := s, handlerState := call.handlerState, rng := call.rng, events := [] }).session

/-- The session after a sequence of calls. -/
def run (s : JoinerSession C) (calls : List (JoinerCall C handler)) : JoinerSession C :=
  calls.foldl feed s

/-- **A run is a sequence of steps.** -/
theorem run_steps (s : JoinerSession C) (calls : List (JoinerCall C handler)) :
    JoinerSteps C s.core (s.run calls).core := by
  induction calls generalizing s with
  | nil => exact .refl
  | cons call calls ih =>
    have hcall : JoinerSteps C s.core (s.feed call).core :=
      after_of_wp (P := fun r : Receiving C handler => JoinerSteps C s.core r.session.core)
        (Receiving.receive_steps call.payload _)
    exact hcall.trans (ih (s.feed call))

end JoinerSession

variable {C : Crypto} {c c' : JoinerCore}

/-- An invariant of the steps that holds at the start holds after every run. -/
theorem JoinerSteps.invariant {I : JoinerCore → Prop}
    (hstep : ∀ c c', I c → JoinerStep C c c' → I c') (h : I c) (hsteps : JoinerSteps C c c') :
    I c' := by
  induction hsteps with
  | refl => exact h
  | tail _ hlast ih => exact hstep _ _ ih hlast

/-- A session that has done nothing yet. -/
structure JoinerCore.Fresh (c : JoinerCore) : Prop where
  phase : c.phase = .awaitingClientHello
  nextSequence : c.nextSequence = 0
  decision : c.decision = none
  trace : c.trace = []

theorem JoinerSession.new_fresh (joinerIid : FixedBytes 8)
    (joinerUdpPort joinerRouterLocator : UInt16) (pskd : Text) (now : Nat) (rng : C.Rng) :
    (JoinerSession.new joinerIid joinerUdpPort joinerRouterLocator pskd now rng).1.core.Fresh :=
  ⟨rfl, rfl, rfl, rfl⟩

/-! ## §2. One key, distinct numbers. -/

/-- The sealed records of a history, in order. -/
def sealedOf (trace : List JoinerAction) : List Protected :=
  trace.filterMap fun action => match action with
    | .sealed entry => some entry
    | _ => none

/-- The server's write key and IV. -/
def serverWriteKey (keyMaterial : ThreadDtlsKeyMaterial) : Bytes × Bytes :=
  (keyMaterial.keyBlock.serverWriteKey, keyMaterial.keyBlock.serverWriteIv)

/-- Nothing is sealed before the handshake is complete; then all under the session's keys. -/
structure SealsOnce (c : JoinerCore) : Prop where
  early : c.phase.established = false → c.nextSequence = 0 ∧ sealedOf c.trace = []
  late : c.phase.established = true → ∃ keyMaterial, c.keyMaterial = some keyMaterial ∧
    SealedUpTo (serverWriteKey keyMaterial) c.nextSequence (sealedOf c.trace)

namespace SealsOnce

variable {C : Crypto} {c : JoinerCore}

/-- Whatever the phase, the next sealing continues the log of the current keys. -/
theorem sealedUpTo (h : SealsOnce c) {keyMaterial : ThreadDtlsKeyMaterial}
    (hkeys : c.keyMaterial = some keyMaterial) :
    SealedUpTo (serverWriteKey keyMaterial) c.nextSequence (sealedOf c.trace) := by
  cases hphase : c.phase.established with
  | false =>
    obtain ⟨hnext, hnone⟩ := h.early hphase
    rw [hnext, hnone]
    exact SealedUpTo.nil _
  | true =>
    obtain ⟨keyMaterial', hkeys', hsealed⟩ := h.late hphase
    cases hkeys.symm.trans hkeys'
    exact hsealed

variable {c' : JoinerCore}

/-- A step that seals one record and ends in a completed handshake. -/
theorem sealing (h : SealsOnce c) {keyMaterial : ThreadDtlsKeyMaterial}
    {contentType : Dtls.ContentType} {entry : Protected} (hkeys : c.keyMaterial = some keyMaterial)
    (hseals : SealsUnder C keyMaterial c.nextSequence contentType entry)
    (hphase : c'.phase.established = true) (hkeys' : c'.keyMaterial = some keyMaterial)
    (hnext : c'.nextSequence = c.nextSequence + 1)
    (htrace : sealedOf c'.trace = sealedOf c.trace ++ [entry]) : SealsOnce c' := by
  refine ⟨fun hfalse => ?_, fun _ => ⟨keyMaterial, hkeys', ?_⟩⟩
  · rw [hphase] at hfalse
    cases hfalse
  · rw [hnext, htrace]
    refine (h.sealedUpTo hkeys).snoc ?_ hseals.sealed
    rw [hseals.key, hseals.fixedIv]
    rfl

/-- A step that seals nothing and keeps the phase and the keys. -/
theorem quiet (h : SealsOnce c) (hphase : c'.phase = c.phase)
    (hkeys : c'.keyMaterial = c.keyMaterial) (hnext : c'.nextSequence = c.nextSequence)
    (htrace : sealedOf c'.trace = sealedOf c.trace) : SealsOnce c' := by
  refine ⟨fun hearly => ?_, fun hlate => ?_⟩
  · rw [hnext, htrace]
    exact h.early (hphase ▸ hearly)
  · rw [hnext, htrace, hkeys]
    exact h.late (hphase ▸ hlate)

theorem start (h : c.Fresh) : SealsOnce c := by
  refine ⟨fun _ => ⟨h.nextSequence, by rw [h.trace]; rfl⟩, fun hlate => ?_⟩
  rw [h.phase] at hlate
  cases hlate

/-- **Every step keeps it.** -/
theorem step (h : SealsOnce c) (hstep : JoinerStep C c c') : SealsOnce c' := by
  cases hstep with
  | hello serverRandom clientRandom _ => exact h.quiet rfl rfl rfl rfl
  | offer hphase =>
    have hearly := h.early (by rw [hphase]; rfl)
    exact ⟨fun _ => hearly, fun h => by cases h⟩
  | reply datagram => exact h.quiet rfl rfl rfl (by simp [sealedOf, JoinerCore.did])
  | key keyMaterial hphase =>
    -- keys are only replaced while nothing has been sealed
    obtain ⟨hnext, hnone⟩ := h.early (by rw [hphase]; rfl)
    refine ⟨fun _ => ⟨hnext, ?_⟩, fun hlate => ?_⟩
    · simpa [sealedOf, JoinerCore.did] using hnone
    · have hlate : c.phase.established = true := hlate
      rw [hphase] at hlate
      cases hlate
  | opened keyMaterial entry _ _ => exact h.quiet rfl rfl rfl (by simp [sealedOf, JoinerCore.did])
  | verified keyMaterial message _ _ _ =>
    exact h.quiet rfl rfl rfl (by simp [sealedOf, JoinerCore.did])
  | finish keyMaterial message entry datagram _ hkeys _ _ hseals =>
    exact h.sealing hkeys hseals rfl hkeys rfl (by simp [sealedOf, JoinerCore.did])
  | refinish keyMaterial entry datagram hphase hkeys hseals =>
    exact h.sealing hkeys hseals hphase hkeys rfl (by simp [sealedOf, JoinerCore.did])
  | ask keyMaterial entry request info answer _ _ _ _ _ _ =>
    exact h.quiet rfl rfl rfl (by simp [sealedOf, JoinerCore.did])
  | respond keyMaterial entry request info accepted response datagram _ hkeys _ _ _ _ _ hseals =>
    refine h.sealing hkeys hseals rfl hkeys rfl ?_
    split <;> simp [sealedOf, JoinerCore.did]

end SealsOnce

/-- **No nonce reuse in a joiner session.**  After any calls, all records the session ever
    sealed were sealed under one key and IV, in epoch 1, with pairwise distinct sequence
    numbers, and so with pairwise distinct nonces. -/
theorem joiner_never_reuses_a_nonce {C : Crypto} {handler : JoinerHandler}
    (joinerIid : FixedBytes 8) (joinerUdpPort joinerRouterLocator : UInt16) (pskd : Text)
    (now : Nat) (rng : C.Rng) (calls : List (JoinerCall C handler)) :
    let s := (JoinerSession.new joinerIid joinerUdpPort joinerRouterLocator pskd now rng).1.run calls
    (∃ writeKey, ∀ e ∈ sealedOf s.trace, (e.key, e.fixedIv) = writeKey ∧
      e.record.header.epoch = 1 ∧ s.keyMaterial.map serverWriteKey = some writeKey) ∧
    ((sealedOf s.trace).map Protected.sequence).Nodup ∧
    ((sealedOf s.trace).map Protected.nonce).Nodup := by
  intro s
  have hsafe : SealsOnce s.core := JoinerSteps.invariant (fun _ _ h hstep => SealsOnce.step h hstep)
      (.start (JoinerSession.new_fresh ..)) (JoinerSession.run_steps _ calls)
  cases hphase : s.core.phase.established with
  | false =>
    have hnone : sealedOf s.trace = [] := (hsafe.early hphase).2
    rw [hnone]
    exact ⟨⟨([], []), by simp⟩, List.nodup_nil, List.nodup_nil⟩
  | true =>
    obtain ⟨keyMaterial, hkeys, hsealed⟩ := hsafe.late hphase
    have hkeys : s.keyMaterial = some keyMaterial := hkeys
    refine ⟨⟨serverWriteKey keyMaterial, fun e he => ?_⟩, ?_, hsealed.nodup_nonce⟩
    · exact ⟨hsealed.sealedUnder e he, hsealed.epoch e he, by rw [hkeys]; rfl⟩
    · exact hsealed.numbered.nodup_map _ fun _ _ _ _ h => h

/-! ## §3. Entrusting a joiner. -/

/-- Actions that only a completed handshake allows. -/
def JoinerAction.late : JoinerAction → Bool
  | .asked _ _ => true
  | .sealed _ => true
  | .emitted (.transmit _ includeKek) => includeKek
  | .emitted .connected => true
  | .emitted (.finalized _ _) => true
  | _ => false

def JoinerAction.isAsked : JoinerAction → Bool
  | .asked _ _ => true
  | _ => false

def JoinerAction.isFinalized : JoinerAction → Bool
  | .emitted (.finalized _ _) => true
  | _ => false

/-- A JOIN_FIN.req was authenticated under these keys. -/
def JoinFinOpened (C : Crypto) (keyMaterial : ThreadDtlsKeyMaterial)
    (before : List JoinerAction) : Prop :=
  ∃ entry request info, .opened entry ∈ before ∧ OpensUnder C keyMaterial entry ∧
    CarriesJoinFin entry request info

/-- A client Finished was verified under these keys. -/
def FinishedVerified (C : Crypto) (keyMaterial : ThreadDtlsKeyMaterial)
    (before : List JoinerAction) : Prop :=
  ∃ message, .verified message ∈ before ∧ VerifiesUnder C keyMaterial message

theorem FinishedVerified.append {keyMaterial : ThreadDtlsKeyMaterial} {before : List JoinerAction}
    (h : FinishedVerified C keyMaterial before) (actions : List JoinerAction) :
    FinishedVerified C keyMaterial (before ++ actions) := by
  obtain ⟨message, hmem, hverifies⟩ := h
  exact ⟨message, List.mem_append_left _ hmem, hverifies⟩

/-- The reason each action needs in the history before it. -/
def Reason (C : Crypto) (keyMaterial : ThreadDtlsKeyMaterial) (before : List JoinerAction) :
    JoinerAction → Prop
  | .keyed _ => .emitted .connected ∉ before
  | .asked _ _ => JoinFinOpened C keyMaterial before ∧ ∀ a ∈ before, a.isAsked = false
  | .sealed entry => entry.record.header.contentType = .applicationData →
      ∃ request info answer, .asked info answer ∈ before ∧
        (Receiving.joinFinResponse request answer).encode = .ok entry.plaintext
  | .emitted (.transmit _ true) => FinishedVerified C keyMaterial before ∧
      JoinFinOpened C keyMaterial before ∧ ∃ info, .asked info true ∈ before
  | .emitted (.finalized accepted _) => (∃ info, .asked info accepted ∈ before) ∧
      ∀ a ∈ before, a.isFinalized = false
  | _ => True

/-- The invariant: no late action before the handshake is complete; from then on the keys
    stand, a Finished was verified under them, and every action has its reason. -/
structure Entrusts (C : Crypto) (c : JoinerCore) : Prop where
  early : c.phase.established = false → c.decision = none ∧ ∀ a ∈ c.trace, a.late = false
  late : c.phase.established = true → ∃ keyMaterial, c.keyMaterial = some keyMaterial ∧
    FinishedVerified C keyMaterial c.trace ∧ Justified (Reason C keyMaterial) c.trace
  undecided : c.decision = none → ∀ a ∈ c.trace, a.isAsked = false
  decided : ∀ answer, c.decision = some answer → ∃ info, .asked info answer ∈ c.trace
  unfinalized : c.phase ≠ .finalized → ∀ a ∈ c.trace, a.isFinalized = false

namespace Entrusts

variable {C : Crypto} {c c' : JoinerCore}

theorem start (h : c.Fresh) : Entrusts C c := by
  have hphase : c.phase.established = false := by rw [h.phase]; rfl
  refine ⟨fun _ => ⟨h.decision, by simp [h.trace]⟩, fun hlate => ?_, fun _ => by simp [h.trace],
    fun answer hanswer => ?_, fun _ => by simp [h.trace]⟩
  · rw [hphase] at hlate
    cases hlate
  · rw [h.decision] at hanswer
    cases hanswer

variable {keyMaterial : ThreadDtlsKeyMaterial}

/-- While no action is late, every action has its reason. -/
theorem justified_of_early {trace : List JoinerAction} (h : ∀ a ∈ trace, a.late = false) :
    Justified (Reason C keyMaterial) trace := by
  rintro before a after rfl
  have ha : a.late = false := h a (by simp)
  cases a with
  | keyed keyMaterial' =>
    intro hconnected
    cases h (.emitted .connected) (List.mem_append_left _ hconnected)
  | asked info answer => cases ha
  | «sealed» entry => cases ha
  | emitted event =>
    cases event with
    | transmit datagram includeKek =>
      obtain rfl : includeKek = false := ha
      trivial
    | connected => trivial
    | finalized accepted info => cases ha
  | opened entry => trivial
  | verified message => trivial

theorem justified (h : Entrusts C c) (hkeys : c.keyMaterial = some keyMaterial) :
    Justified (Reason C keyMaterial) c.trace := by
  cases hphase : c.phase.established with
  | false => exact justified_of_early (h.early hphase).2
  | true =>
    obtain ⟨keyMaterial', hkeys', -, hreasons⟩ := h.late hphase
    cases hkeys.symm.trans hkeys'
    exact hreasons

/-- A step that does nothing late and keeps the phase, the keys and the decision. -/
theorem quiet (h : Entrusts C c) {action : JoinerAction} (hlate : action.late = false)
    (hasked : action.isAsked = false) (hfinal : action.isFinalized = false)
    (hreason : ∀ keyMaterial, Reason C keyMaterial c.trace action) :
    Entrusts C (c.did [action]) := by
  refine ⟨fun hphase => ⟨(h.early hphase).1, ?_⟩, fun hphase => ?_, fun hnone => ?_,
    fun answer hanswer => ?_, fun hphase => ?_⟩
  · simpa [JoinerCore.did, or_imp, forall_and] using ⟨(h.early hphase).2, hlate⟩
  · obtain ⟨keyMaterial, hkeys, hverified, hreasons⟩ := h.late hphase
    refine ⟨keyMaterial, hkeys, hverified.append _, justified_append.mpr ⟨hreasons, ?_⟩⟩
    simpa [justified_cons, justified_nil] using hreason keyMaterial
  · simpa [JoinerCore.did, or_imp, forall_and] using ⟨h.undecided hnone, hasked⟩
  · obtain ⟨info, hmem⟩ := h.decided answer hanswer
    exact ⟨info, List.mem_append_left _ hmem⟩
  · simpa [JoinerCore.did, or_imp, forall_and] using ⟨h.unfinalized hphase, hfinal⟩

/-- A step of a completed handshake: its actions have their reasons, and the decision and the
    outcome are accounted for. -/
theorem acting (h : Entrusts C c) {actions : List JoinerAction}
    (hkeys : c.keyMaterial = some keyMaterial)
    (hverified : FinishedVerified C keyMaterial c.trace) (hphase' : c'.phase.established = true)
    (hkeys' : c'.keyMaterial = some keyMaterial) (htrace : c'.trace = c.trace ++ actions)
    (hreasons : Justified (fun before a => Reason C keyMaterial (c.trace ++ before) a) actions)
    (hundecided : c'.decision = none → c.decision = none ∧ ∀ a ∈ actions, a.isAsked = false)
    (hdecided : ∀ answer, c'.decision = some answer → c.decision = some answer ∨
      ∃ info, .asked info answer ∈ actions) (hunfinalized : c'.phase ≠ .finalized →
      c.phase ≠ .finalized ∧ ∀ a ∈ actions, a.isFinalized = false) : Entrusts C c' := by
  refine ⟨fun hearly => ?_, fun _ => ⟨keyMaterial, hkeys', ?_, ?_⟩, fun hnone => ?_,
    fun answer hanswer => ?_, fun hphase => ?_⟩
  · rw [hphase'] at hearly
    cases hearly
  · rw [htrace]
    exact hverified.append actions
  · rw [htrace]
    exact justified_append.mpr ⟨h.justified hkeys, hreasons⟩
  · obtain ⟨hnone, hactions⟩ := hundecided hnone
    rw [htrace]
    exact fun a ha => (List.mem_append.mp ha).elim (h.undecided hnone a) (hactions a)
  · rw [htrace]
    rcases hdecided answer hanswer with hanswer | ⟨info, hmem⟩
    · obtain ⟨info, hmem⟩ := h.decided answer hanswer
      exact ⟨info, List.mem_append_left _ hmem⟩
    · exact ⟨info, List.mem_append_right _ hmem⟩
  · obtain ⟨hphase, hactions⟩ := hunfinalized hphase
    rw [htrace]
    exact fun a ha => (List.mem_append.mp ha).elim (h.unfinalized hphase a) (hactions a)

/-- What a completed handshake knows. -/
theorem verified (h : Entrusts C c) (hphase : c.phase.established = true)
    (hkeys : c.keyMaterial = some keyMaterial) : FinishedVerified C keyMaterial c.trace := by
  obtain ⟨keyMaterial', hkeys', hverified, -⟩ := h.late hphase
  cases hkeys.symm.trans hkeys'
  exact hverified

/-- A sealed Finished needs no reason. -/
theorem reason_sealed_handshake {keyMaterial' : ThreadDtlsKeyMaterial}
    {before : List JoinerAction} {sequence : UInt64} {entry : Protected}
    (h : SealsUnder C keyMaterial' sequence .handshake entry) :
    Reason C keyMaterial before (.sealed entry) := by
  intro happlication
  cases (Dtls.protect_eq_ok h.sealed).2.1.symm.trans happlication

/-- **Every step keeps it.** -/
theorem step (h : Entrusts C c) (hstep : JoinerStep C c c') : Entrusts C c' := by
  cases hstep with
  | hello serverRandom clientRandom _ =>
    exact ⟨h.early, h.late, h.undecided, h.decided, h.unfinalized⟩
  | offer hphase =>
    have hearly := h.early (by rw [hphase]; rfl)
    exact ⟨fun _ => hearly, (fun h => by cases h), h.undecided, h.decided,
      fun _ => h.unfinalized (by rw [hphase]; intro h; cases h)⟩
  | reply datagram => exact h.quiet rfl rfl rfl fun _ => trivial
  | key keyMaterial hphase =>
    -- before the handshake is complete nothing depends on the keys
    obtain ⟨hnone, hquiet⟩ := h.early (by rw [hphase]; rfl)
    have hlate : ∀ a ∈ c.trace ++ [.keyed keyMaterial], a.late = false := by
      simpa [or_imp, forall_and] using ⟨hquiet, rfl⟩
    refine ⟨fun _ => ⟨hnone, hlate⟩, fun hestablished => ?_, fun _ => ?_, fun answer hanswer => ?_,
      fun _ => ?_⟩
    · have hestablished : c.phase.established = true := hestablished
      rw [hphase] at hestablished
      cases hestablished
    · simpa [JoinerCore.did, or_imp, forall_and] using ⟨h.undecided hnone, rfl⟩
    · cases hnone.symm.trans hanswer
    · simpa [JoinerCore.did, or_imp, forall_and] using
        ⟨h.unfinalized (by rw [hphase]; intro h; cases h), rfl⟩
  | opened keyMaterial entry _ _ => exact h.quiet rfl rfl rfl fun _ => trivial
  | verified keyMaterial message _ _ _ => exact h.quiet rfl rfl rfl fun _ => trivial
  | finish keyMaterial message entry datagram hphase hkeys hlast hverifies hseals =>
    refine h.acting hkeys ⟨message, List.mem_of_getLast? hlast, hverifies⟩ rfl hkeys rfl ?_
      (fun hnone => ⟨hnone, ?_⟩) (fun _ hanswer => Or.inl hanswer) (fun _ => ⟨?_, ?_⟩)
    · simp only [justified_cons, justified_nil, and_true]
      exact ⟨reason_sealed_handshake hseals, trivial, trivial⟩
    · simp [JoinerAction.isAsked]
    · rcases hphase with hphase | hphase <;> rw [hphase] <;> (intro h; cases h)
    · simp [JoinerAction.isFinalized]
  | refinish keyMaterial entry datagram hphase hkeys hseals =>
    refine h.acting hkeys (h.verified hphase hkeys) hphase hkeys rfl ?_
      (fun hnone => ⟨hnone, ?_⟩) (fun _ hanswer => Or.inl hanswer) (fun hfinal => ⟨hfinal, ?_⟩)
    · simp only [justified_cons, justified_nil, and_true]
      exact ⟨reason_sealed_handshake hseals, trivial⟩
    · simp [JoinerAction.isAsked]
    · simp [JoinerAction.isFinalized]
  | ask keyMaterial entry request info answer hphase hkeys hnone hopened hopens hjoin =>
    refine h.acting hkeys (h.verified hphase hkeys) hphase hkeys rfl ?_ (fun h => by cases h)
      (fun _ hanswer => Or.inr ⟨info, ?_⟩) (fun hfinal => ⟨hfinal, ?_⟩)
    · simp only [justified_cons, justified_nil, and_true, List.append_nil]
      exact ⟨⟨entry, request, info, hopened, hopens, hjoin⟩, h.undecided hnone⟩
    · cases hanswer
      exact List.mem_singleton.mpr rfl
    · simp [JoinerAction.isFinalized]
  | respond keyMaterial entry request info accepted response datagram hphase hkeys hdecision
      hopened hopens hjoin hplaintext hseals =>
    obtain ⟨asked, hasked⟩ := h.decided accepted hdecision
    have hverified := h.verified hphase hkeys
    refine h.acting hkeys hverified rfl hkeys rfl ?_ (fun hnone => ?_)
      (fun _ hanswer => Or.inl hanswer) (fun hfinal => absurd rfl hfinal)
    · refine justified_append.mpr ⟨?_, ?_⟩
      · simp only [justified_cons, justified_nil, and_true, List.append_nil]
        refine ⟨fun _ => ⟨request, asked, accepted, hasked, hplaintext⟩, ?_⟩
        cases accepted with
        | false => trivial
        | true =>
          exact ⟨hverified.append _, ⟨entry, request, info, List.mem_append_left _ hopened, hopens,
            hjoin⟩, asked, List.mem_append_left _ hasked⟩
      · split
        · exact justified_nil
        rename_i hphase'
        simp only [justified_cons, justified_nil, and_true, List.append_nil]
        refine ⟨⟨asked, List.mem_append_left _ hasked⟩, fun a ha => ?_⟩
        rcases List.mem_append.mp ha with ha | ha
        · exact h.unfinalized hphase' a ha
        · rcases List.mem_cons.mp ha with rfl | ha
          · rfl
          · rw [List.mem_singleton.mp ha]
            rfl
    · cases hdecision.symm.trans hnone

end Entrusts

/-! ## §4. The keys stand. -/

/-- From a completed handshake on, no step touches the keys or the randoms. -/
theorem JoinerStep.keys_stand (hphase : c.phase.established = true) (hstep : JoinerStep C c c') :
    c'.phase.established = true ∧ c'.keyMaterial = c.keyMaterial ∧
      c'.serverRandom = c.serverRandom ∧ c'.clientRandom = c.clientRandom := by
  cases hstep with
  | hello _ _ hhello => rw [hhello] at hphase; cases hphase
  | offer hhello => rw [hhello] at hphase; cases hphase
  | key _ hflight => rw [hflight] at hphase; cases hphase
  | finish => exact ⟨rfl, rfl, rfl, rfl⟩
  | respond => exact ⟨rfl, rfl, rfl, rfl⟩
  | _ => exact ⟨hphase, rfl, rfl, rfl⟩

theorem JoinerSteps.keys_stand (hphase : c.phase.established = true) (hsteps : JoinerSteps C c c') :
    c'.phase.established = true ∧ c'.keyMaterial = c.keyMaterial ∧
      c'.serverRandom = c.serverRandom ∧ c'.clientRandom = c.clientRandom := by
  induction hsteps with
  | refl => exact ⟨hphase, rfl, rfl, rfl⟩
  | tail _ hlast ih =>
    obtain ⟨hphase, hkeys, hserver, hclient⟩ := ih
    obtain ⟨hphase', hkeys', hserver', hclient'⟩ := hlast.keys_stand hphase
    exact ⟨hphase', hkeys'.trans hkeys, hserver'.trans hserver, hclient'.trans hclient⟩

/-- The KEK is a function of what the abstract machine keeps. -/
theorem JoinerSession.joinerRouterKek_congr {s s' : JoinerSession C}
    (hkeys : s'.core.keyMaterial = s.core.keyMaterial)
    (hserver : s'.core.serverRandom = s.core.serverRandom)
    (hclient : s'.core.clientRandom = s.core.clientRandom) :
    s'.joinerRouterKek = s.joinerRouterKek := by
  simp only [JoinerSession.core] at hkeys hserver hclient
  simp only [JoinerSession.joinerRouterKek, JoinerSession.keyMaterialRequired,
    Dtls.ThreadDtlsServerHandshake.deriveJoinerRouterKek, hkeys, hserver, hclient]

/-- **Entrustment is safe.**  After any calls: the application was asked at most once and at
    most one outcome was emitted; a datagram with the KEK went out only after a client
    Finished was verified and a JOIN_FIN.req authenticated under the session's keys, and only
    if the application had accepted; every response sealed carries the application's answer;
    and once the handshake was reported complete the keys and the KEK never change. -/
theorem entrustment_is_safe {C : Crypto} {handler : JoinerHandler}
    (joinerIid : FixedBytes 8) (joinerUdpPort joinerRouterLocator : UInt16) (pskd : Text)
    (now : Nat) (rng : C.Rng) (calls : List (JoinerCall C handler)) :
    let s := (JoinerSession.new joinerIid joinerUdpPort joinerRouterLocator pskd now rng).1.run calls
    s.trace.countP JoinerAction.isAsked ≤ 1 ∧ s.trace.countP JoinerAction.isFinalized ≤ 1 ∧
    (∀ before datagram after, s.trace = before ++ .emitted (.transmit datagram true) :: after →
      ∃ keyMaterial, s.keyMaterial = some keyMaterial ∧ FinishedVerified C keyMaterial before ∧
        JoinFinOpened C keyMaterial before ∧ ∃ info, .asked info true ∈ before) ∧
    (∀ before response after, s.trace = before ++ .sealed response :: after →
      response.record.header.contentType = .applicationData →
      ∃ request info answer, .asked info answer ∈ before ∧
        (Receiving.joinFinResponse request answer).encode = .ok response.plaintext) ∧
    (∀ before keyMaterial after, s.trace = before ++ .keyed keyMaterial :: after →
      .emitted .connected ∉ before) ∧
    (∀ more : List (JoinerCall C handler), .emitted .connected ∈ s.trace →
      (s.run more).keyMaterial = s.keyMaterial ∧
        (s.run more).joinerRouterKek = s.joinerRouterKek) := by
  intro s
  have hsafe : Entrusts C s.core := JoinerSteps.invariant (fun _ _ h hstep => Entrusts.step h hstep)
      (.start (JoinerSession.new_fresh ..)) (JoinerSession.run_steps _ calls)
  -- a late action shows that the handshake is complete
  have hlate : ∀ a ∈ s.trace, a.late = true → s.core.phase.established = true := by
    intro a ha hlate
    by_contra hphase
    cases hlate.symm.trans ((hsafe.early (Bool.eq_false_iff.mpr hphase)).2 a ha)
  -- and then every action has its reason
  have hreason : ∀ before a after, s.trace = before ++ a :: after → a.late = true →
      ∃ keyMaterial, s.keyMaterial = some keyMaterial ∧ Reason C keyMaterial before a := by
    intro before a after htrace ha
    obtain ⟨keyMaterial, hkeys, -, hreasons⟩ := hsafe.late (hlate a (by simp [htrace]) ha)
    exact ⟨keyMaterial, hkeys, hreasons before a after htrace⟩
  refine ⟨?_, ?_, ?_, ?_, ?_, ?_⟩
  · refine Justified.countP_le_one fun before a after htrace ha => ?_
    cases a with
    | asked info answer =>
      obtain ⟨_, -, -, hfirst⟩ := hreason before _ after htrace rfl
      exact hfirst
    | _ => cases ha
  · refine Justified.countP_le_one fun before a after htrace ha => ?_
    match a, ha with
    | .emitted (.finalized accepted info), _ =>
      obtain ⟨_, -, -, hfirst⟩ := hreason before _ after htrace rfl
      exact hfirst
  · intro before datagram after htrace
    exact hreason before _ after htrace rfl
  · intro before response after htrace happlication
    obtain ⟨_, -, hresponse⟩ := hreason before _ after htrace rfl
    exact hresponse happlication
  · intro before keyMaterial after htrace hconnected
    obtain ⟨_, _, _, hreasons⟩ := hsafe.late
      (hlate (.emitted .connected) (by simp [htrace, hconnected]) rfl)
    exact hreasons before _ after htrace hconnected
  · intro more hconnected
    obtain ⟨-, hkeys, hserver, hclient⟩ :=
      (JoinerSession.run_steps s more).keys_stand (hlate _ hconnected rfl)
    exact ⟨hkeys, JoinerSession.joinerRouterKek_congr hkeys hserver hclient⟩

end Meshcop
