/-
  Meshcop.Driver.Resigning — nothing new starts while a session resigns.

  Nothing in the driver's state forbids a keep-alive while a resignation is in flight: the answer
  to an earlier keep-alive arms the timer again.  What forbids it is time.  The timer is armed at
  least thirty seconds ahead, a resignation times out after twelve, and the exchange timers run
  before the keep-alive timer is looked at.

  Main results:
    * `Stride.winding`               — the resignation times out before the next keep-alive;
    * `step_calm_of_winding`         — so no step starts a session-control exchange;
    * `nothing_new_while_resigning`  — over any run.
-/

import Meshcop.Driver.Timers

namespace Meshcop

open Lib

/-- A validated interval is longer than an exchange may take. -/
theorem CommissionerConfig.interval_of_validate {config : CommissionerConfig} {eventCapacity : Nat}
    (h : config.validate eventCapacity = .ok ()) :
    COAP_EXCHANGE_TIMEOUT < config.keepaliveInterval := by
  unfold validate at h
  split at h
  · cases h
  · rename_i hbounds
    have hlow := (not_not.mp hbounds).1
    exact Nat.lt_of_lt_of_le (by decide) hlow

namespace Driver

variable {env : Env}

/-! ## §1. The race of the two timers. -/

/-- A session that is winding down: it has ended, or a resignation is in flight that times out
    before the next keep-alive. -/
def Winding (d : Driver env) : Prop :=
  d.isClosed = true ∨ ∃ p ∈ d.inFlight, p.completion.isResign = true ∧
    ∀ time ∈ d.keepAliveAt, p.deadline < time

variable {d d' : Driver env} {actions : List Action}

/-- **Every stride leaves the session winding down.** -/
theorem Stride.winding (hinterval : COAP_EXCHANGE_TIMEOUT < env.config.keepaliveInterval)
    (h : Stride d actions d') (htimed : d.Timed) (hwinding : d.Winding) : d'.Winding := by
  cases h with
  | passage hpassage =>
    rcases hwinding with hclosed | ⟨p, hp, hresign, hlater⟩
    · exact Or.inl (hpassage.closed hclosed)
    rcases hpassage.resigning with hclosed | hkept
    · exact Or.inl hclosed
    obtain ⟨p', hp', heases⟩ := hkept p hp hresign
    have hsame : p'.completion = p.completion ∧ p'.deadline = p.deadline := by
      cases heases <;> exact ⟨rfl, rfl⟩
    refine Or.inr ⟨p', hp', by rw [hsame.1]; exact hresign, fun time htime => ?_⟩
    rw [hsame.2]
    rcases hpassage.keepAliveAt time htime with htime | ⟨reading, hreading, rfl⟩
    · exact hlater time htime
    · -- armed anew, from a reading after the resignation was sent
      have hdeadline := htimed.deadlines p hp
      omega
  | again before after p now wire hflight _ _ _ _ _ hflight' _ _ hat hstatus =>
    rcases hwinding with hclosed | ⟨q, hq, hresign, hlater⟩
    · exact Or.inl ((congrArg SessionStatus.isClosed hstatus).trans hclosed)
    refine Or.inr ?_
    have hkept : ∃ q' ∈ d'.inFlight, q'.completion = q.completion ∧ q'.deadline = q.deadline := by
      obtain ⟨hp', hcases⟩ := mem_replaced hflight' hflight
      rcases hcases q hq with rfl | ⟨-, hq⟩
      · obtain ⟨-, -, hdeadline, hcompletion⟩ := Pending.retransmitted_same now q
        exact ⟨_, hp', hcompletion, hdeadline⟩
      · exact ⟨q, hq, rfl, rfl⟩
    obtain ⟨q', hq', hcompletion, hdeadline⟩ := hkept
    refine ⟨q', hq', by rw [hcompletion]; exact hresign, ?_⟩
    rw [hat, hdeadline]
    exact hlater

theorem Strides.winding {labels : List (List Action)}
    (hinterval : COAP_EXCHANGE_TIMEOUT < env.config.keepaliveInterval) (h : Strides d labels d')
    (htimed : d.Timed) (hwinding : d.Winding) : d'.Winding := by
  refine (Run.invariant (I := fun _ d' => d'.Timed ∧ d'.Winding) h ⟨htimed, hwinding⟩ ?_).2
  intro labels d₁ actions d₂ hkept hstride
  exact ⟨hstride.timed hkept.1, hstride.winding hinterval hkept.1 hkept.2⟩

theorem resigning_of_winding (h : d.Winding) (hopen : d.isClosed = false) : d.resigning = true := by
  rcases h with hclosed | ⟨p, hp, hresign, -⟩
  · cases hopen.symm.trans hclosed
  · exact List.any_eq_true.mpr ⟨p, hp, hresign⟩

/-! ## §2. Commands are refused. -/

/-- A session that resigns is active. -/
theorem active_of_resigning (h : Sound d) (hopen : d.isClosed = false)
    (hresigning : d.resigning = true) : ∃ sessionId, d.status = .active sessionId := by
  refine isSome_sessionId (h.control.active hopen ?_)
  rw [Controlled.live_of_empty rfl, Controlled.live_of_empty rfl]
  have hpositive : 0 < d.inFlight.countP (fun pending => pending.completion.isResign) := by
    rw [List.countP_pos_iff]
    exact List.any_eq_true.mp hresigning
  exact Nat.lt_of_lt_of_le hpositive (Nat.le_add_left _ _)

/-- **Every command that would start an exchange is refused.** -/
theorem refused_of_resigning (h : Sound d) (hopen : d.isClosed = false)
    (hresigning : d.resigning = true) : (∀ id request, d.handleCommand (.exchange id request) =
        d.answer (.caller id) (.exchange (.error (.invalidState RESIGNING)))) ∧
      d.handleCommand .petition =
        d.answer .petition (.petition (.error (.invalidState "commissioner is already active"))) ∧
      d.handleCommand .keepAlive = d.answer (fun reply => .keepAlive (some reply))
        (.keepAlive (.error (.invalidState RESIGNING))) ∧
      d.handleCommand .resign = d.answer (fun reply => .resign (some reply))
        (.resign (.error (.invalidState RESIGNING))) := by
  obtain ⟨sessionId, hstatus⟩ := active_of_resigning h hopen hresigning
  refine ⟨fun id request => ?_, ?_, ?_, ?_⟩
  · rw [handleCommand, if_pos hresigning]
  · rw [handleCommand, petition, hstatus]
    rfl
  · have hrefusal : d.keepAliveRefusal = some RESIGNING := by
      have hsession : d.sessionId ≠ none := by
        rw [Driver.sessionId, hstatus]
        exact Option.some_ne_none sessionId
      rw [keepAliveRefusal, if_neg hsession, if_pos hresigning]
    rw [handleCommand, hrefusal]
  · rw [handleCommand, if_pos hresigning]

theorem handleCommand_calmly (h : Sound d) (hopen : d.isClosed = false)
    (hresigning : d.resigning = true) (command : Command env) :
    Calmly d (d.handleCommand command) := by
  obtain ⟨hexchange, hpetition, hkeepAlive, hresign⟩ := refused_of_resigning h hopen hresigning
  cases command with
  | exchange id request =>
    rw [hexchange]
    exact answer_calmly d _ _
  | withdraw id => exact withdraw_calmly (queueing_of_controlled h.control) hopen id
  | petition =>
    rw [hpetition]
    exact answer_calmly d _ _
  | keepAlive =>
    rw [hkeepAlive]
    exact answer_calmly d _ _
  | resign =>
    rw [hresign]
    exact answer_calmly d _ _
  | setJoinerHandler handler =>
    exact .of_eq (.of_eq rfl rfl) (List.append_nil _).symm (List.forall_mem_nil _)
      rfl rfl rfl rfl

/-! ## §3. One step. -/

/-- The clock is read once in a step: what is read again is the same time. -/
def ReadsOnce (d : Driver env) (wake : Wake env) : Prop :=
  ∀ n, d.world.reads < n → n < (d.step wake).world.reads → env.elapsed n = 0

/-- The timers of a session that is winding down start nothing. -/
theorem runTimers_calm_of_winding
    (hinterval : COAP_EXCHANGE_TIMEOUT < env.config.keepaliveInterval) (h : Sound d)
    (htimed : d.Timed) (hwinding : d.Winding)
    (honce : ∀ n, d.world.reads < n → n < d.runTimers.world.reads → env.elapsed n = 0) :
    ∃ labels, Strides d labels d.runTimers ∧ Calm labels.flatten := by
  obtain ⟨labels, hstrides, hcalm, hswept⟩ := runExchangeTimers_swept h htimed
  obtain ⟨hmoves, -⟩ := runExchangeTimers_moves h.control h.settled
  have hqueueing := queueing_of_controlled (hmoves.invariant (fun _ _ => Controlled.step) h.control)
  have hclocked := hstrides.clocked
  replace hstrides : Strides d ([[]] ++ labels) d.runExchangeTimers :=
    (readClock_passage d).strides.trans hstrides
  have hwinding₁ := hstrides.winding hinterval htimed hwinding
  unfold runTimers at honce ⊢
  dsimp only at honce ⊢
  generalize d.runExchangeTimers = d₁ at hstrides hclocked hswept hqueueing hwinding₁ honce
  by_cases hclosed : d₁.isClosed = true
  · rw [if_pos hclosed]
    exact ⟨_, hstrides, hcalm⟩
  have hopen : d₁.isClosed = false := Bool.eq_false_of_not_eq_true hclosed
  rw [if_neg hclosed] at honce ⊢
  cases hat : d₁.keepAliveAt with
  | none => exact ⟨_, hstrides, hcalm⟩
  | some time =>
    rw [hat] at honce
    dsimp only at honce ⊢
    have hread := (readClock_passage d₁).strides
    have hlate : ¬time ≤ d₁.readClock.world.now := by
      intro hdue
      rw [if_pos hdue] at honce
      -- the resignation is in flight, so it is not due; the timer was armed for later
      rcases hwinding₁ with hclosed' | ⟨p, hp, -, hlater⟩
      · exact hclosed hclosed'
      have halive : d.readClock.world.now < p.deadline := ((hswept hopen).isLater htimed p hp).1
      have hbefore : p.deadline < time := hlater time hat
      have hqueueing' : d₁.readClock.Queueing := ⟨hqueueing.callers, hqueueing.atEnd⟩
      obtain ⟨_, hpassage, -⟩ := sendKeepAlive_opens hqueueing' hopen none
      have hsame : d₁.readClock.world.now = d.readClock.world.now := by
        refine (hclocked.trans (readClock_clocked d₁)).still fun n hlow hhigh => ?_
        exact honce n hlow (Nat.lt_of_lt_of_le hhigh hpassage.reads)
      omega
    rw [if_neg hlate]
    refine ⟨_, hstrides.trans hread, ?_⟩
    rw [List.flatten_append]
    exact Calm.append hcalm calm_nil

/-- **No step of a session that is winding down starts a session-control exchange.** -/
theorem step_calm_of_winding (hinterval : COAP_EXCHANGE_TIMEOUT < env.config.keepaliveInterval)
    (h : Sound d) (htimed : d.Timed) (hwinding : d.Winding) {wake : Wake env}
    (honce : d.ReadsOnce wake) :
    ∃ labels, Strides d labels (d.step wake) ∧ Calm labels.flatten := by
  unfold ReadsOnce at honce
  unfold step at honce ⊢
  split
  · exact ⟨[], .nil d, calm_nil⟩
  rename_i henabled
  rw [if_neg henabled] at honce
  simp only [Bool.or_eq_true, not_or, Bool.not_eq_true, Bool.not_eq_false'] at henabled
  obtain ⟨hopen, henabled⟩ := henabled
  have hresigning := resigning_of_winding hwinding hopen
  cases wake with
  | command command => exact (handleCommand_calmly h hopen hresigning command).strides
  | handlesDropped =>
    have hkept : d.dropHandles = { d with handlesDropped := true } := if_pos hresigning
    have hcalmly : Calmly d d.dropHandles := by
      rw [hkept]
      exact .of_eq (.of_eq rfl rfl) (List.append_nil _).symm (List.forall_mem_nil _) rfl rfl rfl rfl
    exact hcalmly.strides
  | received result =>
    cases result with
    | ok plaintext => exact (handleDatagram_calmly h hopen henabled plaintext).strides
    | error error => exact (receiveFailed_calmly h hopen error).strides
  | timer => exact runTimers_calm_of_winding hinterval h htimed hwinding honce

/-! ## §4. The start of a resignation. -/

/-- Resigning puts the keep-alive timer off and a resignation in flight, or ends the session. -/
theorem resign_winding (hopen : d.isClosed = false) (waiter : Bool) :
    (d.resign waiter).Winding := by
  unfold resign
  cases d.sessionId with
  | none =>
    refine Or.inl ?_
    have hended := isClosed_endSession d .resigned
    dsimp only
    split
    · exact hended
    · exact hended
  | some sessionId =>
    dsimp only
    unfold resignActive
    dsimp only
    generalize hd₁ : ({ d with
      nextChannel := if waiter then d.nextChannel + 1 else d.nextChannel, keepAliveAt := none } :
        Driver env) = d₁
    generalize hwaiter : (if waiter then some d.nextChannel else none : Option Nat) = reply
    have hopen₁ : d₁.isClosed = false := by
      rw [← hd₁]
      exact hopen
    have hat : d₁.keepAliveAt = none := by rw [← hd₁]
    cases keepAliveRequest 0 [] sessionId false with
    | error error => exact Or.inl (isClosed_complete_resign rfl _)
    | ok request =>
      dsimp only
      rw [start_eq hopen₁ _ rfl]
      cases hlaunch : d₁.launch (controlRequest request) (.resign reply) with
      | mk d₂ outcome =>
        cases outcome with
        | none =>
          have hlaunched := d₁.launch_launched (controlRequest request) (.resign reply)
          rw [hlaunch] at hlaunched
          cases hlaunched with
          | tracked =>
            refine Or.inr ⟨_, List.mem_append_right _ (List.mem_singleton_self _), rfl, ?_⟩
            intro time htime
            cases hat.symm.trans htime
        | some outcome => exact Or.inl (isClosed_complete_resign rfl _)

/-- Where a session-control exchange starts among actions that start at most one. -/
theorem Begins.later {completion other : Completion} {before later : List Action}
    {wire : CoapMessage} (h : Begins completion actions)
    (hsplit : actions = before ++ .sent (.request other) wire :: later)
    (hcontrol : other.isApplication = false) : other = completion ∧ Calm later := by
  obtain ⟨first, request, last, rfl, hfirst, hlast, hrequest⟩ := h
  have hnot : ∀ {part : List Action}, Calm part → .sent (.request other) wire ∉ part := by
    intro part hcalm hmem
    cases hcontrol.symm.trans (hcalm other wire hmem)
  rcases split_append hsplit with ⟨rest, hrest, rfl⟩ | ⟨rest, hrest, -⟩
  · rcases split_append hrest with ⟨more, hmore, -⟩ | ⟨more, hmore, -⟩
    · exact absurd (by rw [hmore]; simp) (hnot hfirst)
    rcases hrequest with rfl | ⟨sent, rfl⟩
    · simp at hmore
    cases more with
    | nil =>
      cases hmore
      exact ⟨rfl, hlast⟩
    | cons action more => simp at hmore
  · exact absurd (by rw [hrest]; simp) (hnot hlast)

/-! ## §5. Whole runs. -/

/-- A resignation was sent. -/
def Resigned (actions : List Action) : Prop :=
  ∃ completion wire, completion.isResign = true ∧ .sent (.request completion) wire ∈ actions

instance (actions : List Action) : Decidable (Resigned actions) :=
  decidable_of_iff (∃ action ∈ actions, (match action with
      | .sent (.request completion) _ => completion.isResign
      | _ => false) = true) (by
    constructor
    · rintro ⟨action, hmem, hresign⟩
      split at hresign
      · exact ⟨_, _, hresign, hmem⟩
      · cases hresign
    · rintro ⟨completion, wire, hresign, hmem⟩
      exact ⟨_, hmem, hresign⟩)

theorem isApplication_of_isResign {completion : Completion} (h : completion.isResign = true) :
    completion.isApplication = false := by
  cases completion with
  | resign reply => rfl
  | caller | petition | keepAlive => cases h

theorem not_resigned_of_calm (h : Calm actions) : ¬Resigned actions := by
  rintro ⟨completion, wire, hresign, hmem⟩
  cases (isApplication_of_isResign hresign).symm.trans (h completion wire hmem)

/-- The history of a session that may have resigned. -/
structure Halting (d : Driver env) : Prop where
  later : ∀ before completion wire later,
    d.trace = before ++ .sent (.request completion) wire :: later → completion.isResign = true →
      Calm later
  winding : Resigned d.trace → d.Winding

/-- A calm step after a resignation. -/
theorem Halting.calm (h : d.Halting) (htrace : d'.trace = d.trace ++ actions)
    (hcalm : Calm actions) (hwinding : d'.Winding) : d'.Halting := by
  refine ⟨?_, fun _ => hwinding⟩
  intro before completion wire later hsplit hresign
  rw [htrace] at hsplit
  rcases split_append hsplit with ⟨rest, hrest, rfl⟩ | ⟨first, hfirst, -⟩
  · exact (h.later before completion wire rest hrest hresign).append hcalm
  · refine absurd ⟨completion, wire, hresign, ?_⟩ (not_resigned_of_calm hcalm)
    rw [hfirst]
    exact List.mem_append_right _ List.mem_cons_self

/-- **Every step keeps the history in order.** -/
theorem Halting.step (hinterval : COAP_EXCHANGE_TIMEOUT < env.config.keepaliveInterval)
    (hsound : Sound d) (htimed : d.Timed) (h : d.Halting) {wake : Wake env}
    (honce : d.ReadsOnce wake) : (d.step wake).Halting := by
  by_cases hresigned : Resigned d.trace
  · have hwinding := h.winding hresigned
    obtain ⟨labels, hstrides, hcalm⟩ := step_calm_of_winding hinterval hsound htimed hwinding honce
    exact h.calm hstrides.trace hcalm (hstrides.winding hinterval htimed hwinding)
  -- no resignation so far, and the step starts at most one session-control exchange
  obtain ⟨started, labels, hstrides, hbegins, hresigns⟩ := step_strides hsound htimed wake
  have hsplits : ∀ {before completion wire later},
      (d.step wake).trace = before ++ .sent (.request completion) wire :: later →
      completion.isResign = true → completion = started ∧ Calm later := by
    intro before completion wire later hsplit hresign
    rw [hstrides.trace] at hsplit
    rcases split_append hsplit with ⟨rest, hrest, -⟩ | ⟨first, hfirst, -⟩
    · refine absurd ⟨completion, wire, hresign, ?_⟩ hresigned
      rw [hrest]
      exact List.mem_append_right _ List.mem_cons_self
    · exact hbegins.later hfirst (isApplication_of_isResign hresign)
  refine ⟨fun before completion wire later hsplit hresign => (hsplits hsplit hresign).2, ?_⟩
  rintro ⟨completion, wire, hresign, hmem⟩
  obtain ⟨before, later, hsplit⟩ := List.append_of_mem hmem
  have hkind : started.isResign = true := by
    rw [← (hsplits hsplit hresign).1]
    exact hresign
  obtain ⟨hopen, hnot, hstep | hstep⟩ := hresigns hkind
  · rw [hstep]
    exact resign_winding hopen true
  have hdrop : d.dropHandles = resign { d with handlesDropped := true } false := by
    have hnot' : ¬resigning { d with handlesDropped := true } = true := Bool.eq_false_iff.mp hnot
    exact if_neg hnot'
  have hopen' : isClosed { d with handlesDropped := true } = false := hopen
  rw [hstep, hdrop]
  exact resign_winding hopen' false

/-- The clock is read once in every step of a run. -/
def ReadsOnceEach (d : Driver env) : List (Wake env) → Prop
  | [] => True
  | wake :: wakes => d.ReadsOnce wake ∧ ReadsOnceEach (d.step wake) wakes

theorem run_halting (hinterval : COAP_EXCHANGE_TIMEOUT < env.config.keepaliveInterval)
    (hsound : Sound d) (htimed : d.Timed) (h : d.Halting) {wakes : List (Wake env)}
    (honce : d.ReadsOnceEach wakes) : (d.run wakes).Halting := by
  induction wakes generalizing d with
  | nil => exact h
  | cons wake wakes ih =>
    obtain ⟨-, labels, hstrides, -⟩ := step_strides hsound htimed wake
    exact ih (hsound.served (step_serves hsound wake)) (hstrides.timed htimed)
      (h.step hinterval hsound htimed honce.1) honce.2

/-- **Nothing new starts while resigning.**  With a validated configuration and a clock that is read
    once in every step, however late the timers run: after a resignation was sent no petition, no
    keep-alive and no other resignation is; and until the session has ended the resignation stays in
    flight and every command that would start an exchange is refused. -/
theorem nothing_new_while_resigning {eventCapacity : Nat}
    (hvalid : env.config.validate eventCapacity = .ok ()) (rng : env.crypto.Rng)
    (wakes : List (Wake env)) (honce : (Driver.new rng).ReadsOnceEach wakes) :
    let d := (Driver.new rng).run wakes
    (∀ before completion wire later,
      d.trace = before ++ .sent (.request completion) wire :: later → completion.isResign = true →
      ∀ other message, .sent (.request other) message ∈ later → other.isApplication = true) ∧
    (Resigned d.trace → d.isClosed = false →
      d.resigning = true ∧
      (∀ id request, d.handleCommand (.exchange id request) =
        d.answer (.caller id) (.exchange (.error (.invalidState RESIGNING)))) ∧
      d.handleCommand .petition =
        d.answer .petition (.petition (.error (.invalidState "commissioner is already active"))) ∧
      d.handleCommand .keepAlive = d.answer (fun reply => .keepAlive (some reply))
        (.keepAlive (.error (.invalidState RESIGNING))) ∧
      d.handleCommand .resign = d.answer (fun reply => .resign (some reply))
        (.resign (.error (.invalidState RESIGNING)))) := by
  have hnew : (Driver.new rng : Driver env).Halting := by
    refine ⟨?_, ?_⟩
    · intro before completion wire later hsplit
      exact absurd hsplit.symm (by simp [Driver.new])
    · rintro ⟨completion, wire, -, hmem⟩
      cases hmem
  have hhalting := run_halting (CommissionerConfig.interval_of_validate hvalid) (new_sound rng)
    (new_timed rng) hnew honce
  refine ⟨hhalting.later, fun hresigned hopen => ?_⟩
  have hresigning := resigning_of_winding (hhalting.winding hresigned) hopen
  exact ⟨hresigning, refused_of_resigning (run_sound rng wakes) hopen hresigning⟩

/-- A clock that stands is read once. -/
theorem readsOnceEach_of_still (hstill : ∀ n, env.elapsed n = 0) (d : Driver env)
    (wakes : List (Wake env)) : d.ReadsOnceEach wakes := by
  induction wakes generalizing d with
  | nil => trivial
  | cons wake wakes ih => exact ⟨fun n _ _ => hstill n, ih _⟩

/-- A petition that is accepted, a keep-alive, a resignation, and the answer to the keep-alive. -/
def rearming : List (Wake (Env.transparent fun _ => none)) :=
  [.command .petition,
    .received (.ok [0x54, 0x44, 0x00, 0x09, 0x00, 0x00, 0x00, 0x00, 0xff,
      0x10, 0x01, 0x01, 0x0b, 0x02, 0x00, 0x01]),
    .command .keepAlive, .command .resign,
    .received (.ok [0x54, 0x44, 0x00, 0x0a, 0x00, 0x00, 0x00, 0x01, 0xff, 0x10, 0x01, 0x01])]

/-- While the session resigns the answer to a keep-alive arms the timer again, and a new
    keep-alive is refused. -/
theorem nothing_new_while_resigning_rearmed :
    let d : Driver (Env.transparent fun _ => none) := (Driver.new ()).run rearming
    Resigned d.trace ∧ d.isClosed = false ∧ d.keepAliveAt = some (40 * SECOND) ∧
      d.resigning = true ∧
      d.handleCommand .keepAlive = d.answer (fun reply => .keepAlive (some reply))
        (.keepAlive (.error (.invalidState RESIGNING))) := by
  intro d
  have hresigned : Resigned d.trace := by decide +kernel
  have hopen : d.isClosed = false := by decide +kernel
  obtain ⟨-, hrefused⟩ := @nothing_new_while_resigning (Env.transparent fun _ => none) 64 rfl ()
    rearming (readsOnceEach_of_still (fun _ => rfl) _ _)
  obtain ⟨hresigning, -, -, hkeepAlive, -⟩ := hrefused hresigned hopen
  exact ⟨hresigned, hopen, by decide +kernel, hresigning, hkeepAlive⟩

end Driver

end Meshcop
