/-
  Meshcop.Driver.ExchangeMoves — the methods on exchanges, as moves of the session.

  Each method is a sequence of moves from what it is handed: an exchange to start is `unsent`,
  one to complete is `held`, and at the end the hand is empty.  The methods that run the loop
  over the queue also leave it settled.

  Main results:
    * `Sends.moves`, `complete_moves`, `start_moves` — the recursion of the exchanges;
    * `runExchangeTimers_moves`                     — the timers.
-/

import Meshcop.Lib.Lists
import Meshcop.Driver.Control
import Meshcop.Driver.Sending

namespace Meshcop

open Lib

namespace Driver

variable {env : Env}

/-! ## §1. Launching. -/

variable {d : Driver env}

theorem queueing_of_controlled {hand : Hand} (h : Controlled (d.core hand)) : d.Queueing :=
  ⟨h.callers, fun hclosed => (h.atEnd hclosed).2.1⟩

variable {d' : Driver env} {request : Outbound} {completion : Completion}

/-- A launched exchange that is tracked. -/
theorem launch_tracked (hopen : d.isClosed = false)
    (hfree : completion.isApplication = true → d.applicationInFlight = 0)
    (hproxied : request.destination = .borderAgent ∨ completion.isApplication = true)
    (hlaunch : d.launch request completion = (d', none)) :
    Moves (d.core (.unsent completion)) (d'.core .empty) := by
  have hlaunched := d.launch_launched request completion
  rw [hlaunch] at hlaunched
  cases hlaunched with
  | tracked wire _ _ schedule _ hgoes _ _ _ =>
    refine .tail (.tail (.single (.transmit _ wire rfl)) (.tick d.readClock.world.now (Nat.le_add_right _ _))) ?_
    refine .launch _ rfl hopen hfree ?_ (d.assignIdentity_token request.message)
    intro hmesh
    rcases hproxied with hdirect | happlication
    · rw [Pending.isProxied, sentAt, hdirect] at hmesh
      cases hmesh
    · exact happlication

/-- A launched exchange that is over already. -/
theorem launch_finished {outcome : Except Error (Option CoapMessage)} (hopen : d.isClosed = false)
    (hlaunch : d.launch request completion = (d', some outcome)) :
    Moves (d.core (.unsent completion)) (d'.core (.held completion)) ∧
      (d'.isClosed = true → ∃ error, outcome = .error error) := by
  have hlaunched := d.launch_launched request completion
  rw [hlaunch] at hlaunched
  cases hlaunched with
  | unsendable error => exact ⟨.single (.giveUp completion rfl), fun _ => ⟨error, rfl⟩⟩
  | finished _ wire =>
    exact ⟨.single (.transmit completion wire rfl), fun hclosed => by cases hopen.symm.trans hclosed⟩
  | broken error wire =>
    refine ⟨.tail (.single (.transmit completion wire rfl)) ?_, fun _ => ⟨error, rfl⟩⟩
    exact .endSession _ hopen

/-- **The loop over the queue, in moves.** -/
theorem Sends.moves (h : Sends d d') (hcontrol : Controlled (d.core .empty)) :
    Moves (d.core .empty) (d'.core .empty) := by
  induction h with
  | settled d _ => exact .refl
  | tracked d d' request completion queued hopen hfree hqueued hlaunch =>
    have happlication : completion.isApplication = true :=
      hcontrol.callers (request, completion) (by rw [core, hqueued]; exact List.mem_cons_self)
    have hpop : Move (d.core .empty) (({ d with queued } : Driver env).core (.unsent completion)) :=
      .pop request completion queued rfl hopen hfree hqueued
    exact .head hpop (launch_tracked (d := { d with queued }) hopen (fun _ => hfree)
      (Or.inr happlication) hlaunch)
  | next d d' d'' request completion queued outcome hopen hfree hqueued hlaunch hrest ih =>
    have happlication : completion.isApplication = true :=
      hcontrol.callers (request, completion) (by rw [core, hqueued]; exact List.mem_cons_self)
    have hpop : Move (d.core .empty) (({ d with queued } : Driver env).core (.unsent completion)) :=
      .pop request completion queued rfl hopen hfree hqueued
    have hheld := (launch_finished (d := { d with queued }) hopen hlaunch).1
    have htell : Move (d'.core (.held completion))
        ((d'.deliver completion (.exchange outcome)).core .empty) := by
      rw [deliver_core]
      exact .deliver completion _ rfl (fun _ => Or.inl happlication)
    have hmoves : Moves (d.core .empty) ((d'.deliver completion (.exchange outcome)).core .empty) :=
      .tail (.head hpop hheld) htell
    exact hmoves.trans (ih (hmoves.invariant (fun _ _ => Controlled.step) hcontrol))

/-! ## §2. Completing. -/

theorem endSession_moves (d : Driver env) (hand : Hand) (reason : CloseReason) :
    Moves (d.core hand) ((d.endSession reason).core hand) ∧
      (d.endSession reason).isClosed = true ∧ (d.Settled → (d.endSession reason).Settled) := by
  cases hclosed : d.isClosed with
  | true =>
    rw [endSession_of_closed hclosed]
    exact ⟨.refl, hclosed, fun hsettled => hsettled⟩
  | false =>
    rw [endSession_eq hclosed]
    exact ⟨.single (.endSession reason hclosed), rfl, fun _ => Or.inr rfl⟩

/-- A petition's outcome, in moves. -/
theorem complete_petition_moves (d : Driver env) (channel : Nat)
    (outcome : Except Error (Option CoapMessage)) : Moves (d.core (.held (.petition channel)))
        ((d.complete (.petition channel) outcome).core .empty) ∧
      (d.Settled → (d.complete (.petition channel) outcome).Settled) := by
  rw [complete_petition, deliver_core, deliver_eq_logs]
  unfold petitionOutcome
  dsimp only
  split
  · -- the session has ended: only the waiter hears
    rename_i hclosed
    refine ⟨.single (.deliver _ _ rfl ?_), fun hsettled => hsettled⟩
    intro hopen
    cases hclosed.symm.trans hopen
  · rename_i hopen
    have hopen : d.isClosed = false := Bool.eq_false_iff.mpr hopen
    cases hresult : petitionResult outcome with
    | error error =>
      refine ⟨?_, fun hsettled => hsettled⟩
      have hmove := Move.refused (c := d.core (.held (.petition channel))) channel
        (.petition (.error error)) rfl hopen
      simpa [core, SessionCore.did, setStatus, log, Completion.tell, Completion.channel]
        using Relation.ReflTransGen.single hmove
    | ok petition =>
      dsimp only
      unfold scheduleKeepAlive
      dsimp only
      split
      · refine ⟨?_, fun hsettled => hsettled⟩
        have htick := Move.tick (c := d.core (.held (.petition channel)))
          (d.world.now + env.elapsed d.world.reads) (Nat.le_add_right _ _)
        have hmove := Move.granted (c := { d.core (.held (.petition channel)) with
            now := d.world.now + env.elapsed d.world.reads }) channel petition.sessionId
          (some (d.world.now + env.elapsed d.world.reads + env.config.keepaliveInterval))
          (.petition (.ok petition)) rfl hopen
        simpa [core, SessionCore.did, setStatus, log, readClock, Completion.tell, Completion.channel]
          using (Relation.ReflTransGen.single htick).tail hmove
      · refine ⟨?_, fun hsettled => hsettled⟩
        have hmove := Move.granted (c := d.core (.held (.petition channel))) channel
          petition.sessionId d.keepAliveAt (.petition (.ok petition)) rfl hopen
        simpa [core, SessionCore.did, setStatus, log, Completion.tell, Completion.channel]
          using Relation.ReflTransGen.single hmove

/-- A keep-alive that was accepted: the waiter hears and the next one is scheduled. -/
theorem keptAlive_moves (d : Driver env) (reply : Option Nat) (result : Reply) :
    Moves (d.core (.held (.keepAlive reply)))
      ((d.deliver (.keepAlive reply) result).scheduleKeepAlive.core .empty) := by
  rw [deliver_eq_logs]
  unfold scheduleKeepAlive
  split
  · rename_i hcondition
    have htick : Move (d.core (.held (.keepAlive reply))) _ :=
      .tick (d.world.now + env.elapsed d.world.reads) (Nat.le_add_right _ _)
    exact (Relation.ReflTransGen.single htick).tail (.kept reply _ result rfl hcondition.2)
  · exact .single (.deliver _ result rfl (fun _ => Or.inr rfl))

/-- A keep-alive's outcome, in moves. -/
theorem complete_keepAlive_moves (d : Driver env) (reply : Option Nat)
    (outcome : Except Error (Option CoapMessage))
    (hlast : d.isClosed = true → ∃ error, outcome = .error error) :
    Moves (d.core (.held (.keepAlive reply)))
        ((d.complete (.keepAlive reply) outcome).core .empty) ∧
      (d.Settled → (d.complete (.keepAlive reply) outcome).Settled) := by
  have hend : ∀ (d : Driver env) (result : Reply) (reason : CloseReason),
      Moves (d.core (.held (.keepAlive reply)))
        (((d.deliver (.keepAlive reply) result).endSession reason).core .empty) ∧
      (d.Settled → ((d.deliver (.keepAlive reply) result).endSession reason).Settled) := by
    intro d result reason
    rw [deliver_eq_logs]
    obtain ⟨hmoves, -, hsettled⟩ :=
      endSession_moves (d.logs ((Completion.keepAlive reply).tell result)) .empty reason
    exact ⟨.head (.deliver _ result rfl (fun _ => Or.inr rfl)) hmoves, hsettled⟩
  rw [complete_keepAlive]
  unfold keepAliveOutcome
  cases hresult : keepAliveResult outcome with
  | error error => exact hend d _ _
  | ok code =>
    -- an answer came, so the session has not ended
    have hopen : d.isClosed = false := by
      cases hclosed : d.isClosed with
      | false => rfl
      | true =>
        obtain ⟨error, rfl⟩ := hlast hclosed
        cases hresult
    have hpublish : Move (d.core (.held (.keepAlive reply)))
        ((d.publish (.keepAliveResponse code)).core (.held (.keepAlive reply))) :=
      .note (.published (.keepAliveResponse code)) rfl (fun _ => hopen)
    cases code with
    | accept =>
      refine ⟨.head hpublish (keptAlive_moves _ reply _), ?_⟩
      intro hsettled
      dsimp only [keepAliveEnd]
      rw [deliver_eq_logs]
      unfold scheduleKeepAlive
      split
      · exact hsettled
      · exact hsettled
    | reject =>
      obtain ⟨hmoves, hsettled⟩ := hend (d.publish (.keepAliveResponse .reject))
        (.keepAlive (.ok .reject)) .keepAliveRejected
      exact ⟨.head hpublish hmoves, hsettled⟩
    | pending =>
      obtain ⟨hmoves, hsettled⟩ := hend (d.publish (.keepAliveResponse .pending))
        (.keepAlive (.ok .pending)) .keepAlivePending
      exact ⟨.head hpublish hmoves, hsettled⟩

/-- **Completing an exchange, in moves.** -/
theorem complete_moves (hcontrol : Controlled (d.core (.held completion)))
    (outcome : Except Error (Option CoapMessage))
    (hlast : d.isClosed = true → ∃ error, outcome = .error error) :
    Moves (d.core (.held completion)) ((d.complete completion outcome).core .empty) ∧
      (completion.isApplication = true ∨ d.Settled → (d.complete completion outcome).Settled) := by
  cases completion with
  | caller id channel =>
    have hqueueing := queueing_of_controlled hcontrol
    have hsends := complete_caller hqueueing id channel outcome
    have htell : Move (d.core (.held (.caller id channel)))
        ((d.deliver (.caller id channel) (.exchange outcome)).core .empty) := by
      rw [deliver_core]
      exact .deliver _ _ rfl (fun _ => Or.inl rfl)
    refine ⟨.head htell (hsends.moves (hcontrol.step htell)), ?_⟩
    intro _
    refine hsends.isSettled ?_
    rw [deliver_eq_logs]
    exact ⟨hqueueing.callers, hqueueing.atEnd⟩
  | petition channel =>
    obtain ⟨hmoves, hsettled⟩ := complete_petition_moves d channel outcome
    exact ⟨hmoves, fun h => hsettled (h.resolve_left (fun h => by cases h))⟩
  | keepAlive reply =>
    obtain ⟨hmoves, hsettled⟩ := complete_keepAlive_moves d reply outcome hlast
    exact ⟨hmoves, fun h => hsettled (h.resolve_left (fun h => by cases h))⟩
  | resign reply =>
    obtain ⟨hmoves, hclosed, hsettled⟩ := endSession_moves d (.held (.resign reply)) .resigned
    rw [complete_resign, deliver_core, deliver_eq_logs]
    refine ⟨.tail hmoves (.deliver _ _ rfl ?_), fun h => hsettled (h.resolve_left (fun h => by cases h))⟩
    intro hopen
    cases hclosed.symm.trans hopen

/-! ## §3. Starting. -/

/-- A launch leaves the queue waiting as it did. -/
theorem launch_settled {outcome : Option (Except Error (Option CoapMessage))}
    (hlaunch : d.launch request completion = (d', outcome)) (hsettled : d.Settled) :
    d'.Settled := by
  have hlaunched := d.launch_launched request completion
  rw [hlaunch] at hlaunched
  cases hlaunched with
  | tracked =>
    unfold Settled applicationInFlight at hsettled ⊢
    rw [List.countP_append]
    exact hsettled.imp_left (fun hbusy => by omega)
  | unsendable => exact hsettled
  | finished => exact hsettled
  | broken => exact Or.inr rfl

/-- **Starting a session-control exchange, in moves.** -/
theorem start_moves (hcontrol : Controlled (d.core (.unsent completion)))
    (hopen : d.isClosed = false) (hkind : completion.isApplication = false)
    (message : CoapMessage) : Moves (d.core (.unsent completion))
        ((d.start (controlRequest message) completion).core .empty) ∧
      (d.Settled → (d.start (controlRequest message) completion).Settled) := by
  rw [start_eq hopen _ hkind]
  cases hlaunch : d.launch (controlRequest message) completion with
  | mk d' outcome =>
    cases outcome with
    | none =>
      refine ⟨launch_tracked hopen ?_ (Or.inl rfl) hlaunch, launch_settled hlaunch⟩
      intro happlication
      cases hkind.symm.trans happlication
    | some outcome =>
      obtain ⟨hheld, hlast⟩ := launch_finished hopen hlaunch
      obtain ⟨hmoves, hsettled⟩ :=
        complete_moves (hheld.invariant (fun _ _ => Controlled.step) hcontrol) outcome hlast
      exact ⟨hheld.trans hmoves, fun h => hsettled (Or.inr (launch_settled hlaunch h))⟩

/-! ## §4. Requests of handles. -/

/-- Running the loop from a reachable state. -/
theorem sendQueued_moves (hcontrol : Controlled (d.core .empty)) :
    Moves (d.core .empty) (d.sendQueued.core .empty) ∧ d.sendQueued.Settled := by
  have hqueueing := queueing_of_controlled hcontrol
  have hsends := sendQueued_sends hqueueing
  exact ⟨hsends.moves hcontrol, hsends.isSettled hqueueing⟩

theorem submit_moves (hcontrol : Controlled (d.core .empty)) (hopen : d.isClosed = false)
    (id : UInt64) (request : Outbound) :
    ∃ c, Intake (some id) (d.core .empty) c ∧ Moves c ((d.submit id request).core .empty) ∧
      (d.submit id request).Settled := by
  have haccept : Intake (some id) (d.core .empty) (({ d.log (.accepted id) with
      queued := d.queued ++ [(request, .caller id d.nextChannel)]
      nextChannel := d.nextChannel + 1 } : Driver env).core .empty) :=
    .accept id request rfl hopen
  obtain ⟨hmoves, hsettled⟩ := sendQueued_moves (hcontrol.intake haccept)
  exact ⟨_, haccept, hmoves, hsettled⟩

theorem withdraw_moves (hcontrol : Controlled (d.core .empty)) (hsettled : d.Settled)
    (id : UInt64) : (∃ c, Move (d.core .empty) c ∧ c.trace = d.trace ++ [.withdrawn id] ∧
      Moves c ((d.withdraw id).core .empty)) ∧ (d.withdraw id).Settled := by
  have hnone : ∀ {α : Type} {l : List α} {p : α → Bool}, ¬l.any p = true →
      ∀ a ∈ l, p a = false := by
    intro α l p h a ha
    cases hp : p a with
    | false => rfl
    | true => exact absurd (List.any_eq_true.mpr ⟨a, ha, hp⟩) h
  unfold withdraw
  dsimp only
  split
  · rename_i hany
    have hany : d.queued.any (fun entry => entry.2.isCaller id) = true := hany
    obtain ⟨entry, hfind⟩ := find?_isSome_of_any hany
    obtain ⟨before, after, hqueued, herase, hcaller, -⟩ := split_at_first hfind
    have hwithdraw : Move (d.core .empty) (({ d.log (.withdrawn id) with
        queued := d.queued.eraseP (fun entry => entry.2.isCaller id) } : Driver env).core .empty) := by
      rw [herase]
      exact .withdrawQueued id before after entry rfl hqueued hcaller
    obtain ⟨hmoves, hsettled⟩ := sendQueued_moves (hcontrol.step hwithdraw)
    exact ⟨⟨_, hwithdraw, rfl, hmoves⟩, hsettled⟩
  · rename_i hqueued
    have hqueued := hnone hqueued
    split
    · rename_i hany
      have hany : d.inFlight.any (fun pending => pending.completion.isCaller id) = true := hany
      obtain ⟨pending, hfind⟩ := find?_isSome_of_any hany
      obtain ⟨before, after, hflight, herase, hcaller, -⟩ := split_at_first hfind
      have hwithdraw : Move (d.core .empty) (({ d.log (.withdrawn id) with
          inFlight := d.inFlight.eraseP (fun pending => pending.completion.isCaller id)
          } : Driver env).core .empty) := by
        rw [herase]
        exact .withdrawInFlight id before after pending rfl hqueued hflight hcaller
      obtain ⟨hmoves, hsettled⟩ := sendQueued_moves (hcontrol.step hwithdraw)
      exact ⟨⟨_, hwithdraw, rfl, hmoves⟩, hsettled⟩
    · rename_i hflight
      exact ⟨⟨_, .withdrawNothing id rfl hqueued (hnone hflight), rfl, .refl⟩, hsettled⟩

/-! ## §5. Timers. -/

variable {pending : Pending}

/-- Sending a request again leaves the tables. -/
theorem retransmit_moves (hmem : pending ∈ d.inFlight) : wp (retransmit pending)
      (fun _ d' => Moves (d.core .empty) (d'.core .empty) ∧ d'.inFlight = d.inFlight ∧
        d'.queued = d.queued)
      (fun _ d' => Moves (d.core .empty) (d'.core .empty) ∧ d'.inFlight = d.inFlight ∧
        d'.queued = d.queued) d := by
  rw [retransmit]
  refine wp_seq_mono (wireMessage_spec pending.request pending.destination d) ?_ ?_
  · rintro wire _ ⟨-, -, _, _, rfl⟩
    refine wp_mono (send_spec _ wire _) ?_ ?_
    · rintro _ _ ⟨-, -, rfl⟩
      exact ⟨.single (.retransmit pending wire hmem), rfl, rfl⟩
    · rintro error _ (⟨-, -, rfl⟩ | ⟨-, -, -, rfl⟩)
      · exact ⟨.single (.retransmit pending wire hmem), rfl, rfl⟩
      · exact ⟨.single (.retransmit pending wire hmem), rfl, rfl⟩
  · rintro error _ ⟨-, rfl⟩
    exact ⟨.refl, rfl, rfl⟩

/-- An expired exchange is taken out and its waiter hears. -/
theorem expire_moves (hcontrol : Controlled (d.core .empty)) (hsettled : d.Settled) {index : Nat}
    (hindex : d.inFlight[index]? = some pending) (error : Error) :
    Moves (d.core .empty) ((complete { d with inFlight := d.inFlight.eraseIdx index }
        pending.completion (.error error)).core .empty) ∧
      (complete { d with inFlight := d.inFlight.eraseIdx index } pending.completion
        (.error error)).Settled := by
  obtain ⟨before, after, hflight, herase, -⟩ := split_at_index hindex
  have htake : Move (d.core .empty) (({ d with
      inFlight := d.inFlight.eraseIdx index } : Driver env).core (.held pending.completion)) := by
    rw [herase]
    exact .take before after pending rfl hflight
  have hkept : pending.completion.isApplication = false →
      Settled { d with inFlight := d.inFlight.eraseIdx index } := by
    intro hkind
    unfold Settled applicationInFlight at hsettled ⊢
    rw [hflight, List.countP_append, List.countP_cons, hkind] at hsettled
    rw [herase, List.countP_append]
    exact hsettled
  obtain ⟨hmoves, hafter⟩ := complete_moves (hcontrol.step htake) (.error error) (fun _ => ⟨_, rfl⟩)
  refine ⟨.head htake hmoves, hafter ?_⟩
  cases hkind : pending.completion.isApplication with
  | true => exact Or.inl rfl
  | false => exact Or.inr (hkept hkind)

/-- The timers of an exchange change after its request was sent again. -/
theorem touch_moves (hsettled : d.Settled) {index : Nat}
    (hindex : d.inFlight[index]? = some pending) (now : Nat)
    (hmoves : Moves (d.core .empty) (d'.core .empty)) (hflight' : d'.inFlight = d.inFlight)
    (hqueued' : d'.queued = d.queued) : Moves (d.core .empty) (({ d' with
        inFlight := d'.inFlight.modify index (Pending.retransmitted now)
        } : Driver env).core .empty) ∧
      Settled { d' with inFlight := d'.inFlight.modify index (Pending.retransmitted now) } := by
  obtain ⟨before, after, hflight, -, hmodify⟩ := split_at_index hindex
  have hsame : (pending.retransmitted now).request = pending.request ∧
      (pending.retransmitted now).destination = pending.destination ∧
      (pending.retransmitted now).completion = pending.completion := by
    unfold Pending.retransmitted
    split <;> exact ⟨rfl, rfl, rfl⟩
  rw [hflight', hmodify]
  refine ⟨hmoves.tail (.touch before after pending _ (hflight'.trans hflight) hsame.1
    hsame.2.1 hsame.2.2), ?_⟩
  unfold Settled applicationInFlight at hsettled ⊢
  rw [hflight] at hsettled
  dsimp only
  rw [hqueued']
  simpa only [List.countP_append, List.countP_cons, hsame.2.2] using hsettled

/-- **The loop over the exchanges in flight**, by induction on its fuel. -/
theorem exchangeTimersFrom_moves (now fuel index : Nat) (hcontrol : Controlled (d.core .empty))
    (hsettled : d.Settled) :
    Moves (d.core .empty) ((exchangeTimersFrom now fuel index d).core .empty) ∧
      (exchangeTimersFrom now fuel index d).Settled := by
  induction fuel generalizing index d with
  | zero => exact ⟨.refl, hsettled⟩
  | succ fuel ih =>
    have hgo : ∀ (index : Nat) (d' : Driver env), Moves (d.core .empty) (d'.core .empty) →
        d'.Settled → Moves (d.core .empty) ((exchangeTimersFrom now fuel index d').core .empty) ∧
          (exchangeTimersFrom now fuel index d').Settled := by
      intro index d' hmoves hsettled'
      obtain ⟨hmore, hlast⟩ :=
        ih index (hmoves.invariant (fun _ _ => Controlled.step) hcontrol) hsettled'
      exact ⟨hmoves.trans hmore, hlast⟩
    unfold exchangeTimersFrom
    cases hindex : d.inFlight[index]? with
    | none => exact sendQueued_moves hcontrol
    | some pending =>
      dsimp only
      split
      · -- expired: the exchange is taken out and its waiter hears
        obtain ⟨hmoves, hafter⟩ := expire_moves hcontrol hsettled hindex
          (.timeout "MeshCoP exchange timed out")
        split
        · exact ⟨hmoves, hafter⟩
        · exact hgo index _ hmoves hafter
      · split
        · -- due: the request is sent again, and then its timers change
          have hsent := retransmit_moves (List.mem_of_getElem? hindex)
          unfold wp at hsent
          cases hresult : retransmit pending d with
          | ok _ d' =>
            rw [hresult] at hsent
            obtain ⟨hmoves, hflight', hqueued'⟩ := hsent
            obtain ⟨hmoves, hsettled'⟩ := touch_moves hsettled hindex now hmoves hflight' hqueued'
            exact hgo (index + 1) _ hmoves hsettled'
          | error error d' =>
            rw [hresult] at hsent
            obtain ⟨hmoves, hflight', hqueued'⟩ := hsent
            dsimp only
            split
            · obtain ⟨hend, -, hsettled'⟩ :=
                endSession_moves d' .empty (.transportFailed error.display)
              refine ⟨hmoves.trans hend, hsettled' ?_⟩
              unfold Settled applicationInFlight
              rw [hflight', hqueued']
              exact hsettled
            · obtain ⟨hmoves, hsettled'⟩ := touch_moves hsettled hindex now hmoves hflight' hqueued'
              exact hgo (index + 1) _ hmoves hsettled'
        · exact hgo (index + 1) d .refl hsettled

theorem runExchangeTimers_moves (hcontrol : Controlled (d.core .empty)) (hsettled : d.Settled) :
    Moves (d.core .empty) (d.runExchangeTimers.core .empty) ∧ d.runExchangeTimers.Settled := by
  have htick : Move (d.core .empty) (d.readClock.core .empty) := .tick _ (Nat.le_add_right _ _)
  obtain ⟨hmoves, hlast⟩ := exchangeTimersFrom_moves d.readClock.world.now
    (d.readClock.inFlight.length + d.readClock.queued.length + 1) 0 (hcontrol.step htick) hsettled
  exact ⟨.head htick hmoves, hlast⟩

end Driver

end Meshcop
