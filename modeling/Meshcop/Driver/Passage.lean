/-
  Meshcop.Driver.Passage — exchanges and their timers outside `run_exchange_timers`.

  Whatever the driver does, it retransmits nothing outside its timers: an exchange in flight stays
  as it is, is acknowledged, or leaves, and one that is started gets its deadline and its schedule
  from the clock at that time.  `Passage d d' actions` says so of the work from `d` to `d'`, with
  what the work adds to the history.

  Main results:
    * `Sends.passage`        — the loop over the queue;
    * `complete_passage`     — completing an exchange;
    * `handleDatagram_passage`, `handleCommand_passage`, … — every wake but the timers.
-/

import Meshcop.Driver.Lifecycle

namespace Meshcop

open Lib

/-! ## §1. Exchanges from state to state. -/

/-- An exchange after such work: the same, or acknowledged. -/
inductive Pending.Eases (p : Pending) : Pending → Prop
  | same : Eases p p
  | acknowledged : Eases p { p with retryAt := none }

variable {p : Pending}

theorem Pending.Eases.trans {q r : Pending} (h : p.Eases q) (h' : q.Eases r) : p.Eases r := by
  cases h with
  | same => exact h'
  | acknowledged =>
    cases h' with
    | same => exact .acknowledged
    | acknowledged => exact .acknowledged

/-- Whether a request can be put on the wire. -/
def Pending.Sendable (p : Pending) : Prop := Driver.Sendable p.request p.destination

/-- An exchange that was started between two times; its request is among the actions. -/
structure Pending.Begun (low high : Nat) (actions : List Action) (p : Pending) : Prop where
  after : low + COAP_EXCHANGE_TIMEOUT ≤ p.deadline
  before : p.deadline ≤ high + COAP_EXCHANGE_TIMEOUT
  retry : ∀ time ∈ p.retryAt, low < time
  schedule : ∀ schedule ∈ p.retransmit, schedule.retransmissions = 0 ∧ 0 < schedule.timeout
  armed : p.retryAt.isSome = true → p.retransmit.isSome = true
  sent : ∃ wire, .sent (.request p.completion) wire ∈ actions ∧
    Driver.Carries p.request p.destination wire
  sendable : p.Sendable

theorem Pending.Begun.mono {low high low' high' : Nat} {actions actions' : List Action}
    (h : p.Begun low high actions) (hlow : low' ≤ low) (hhigh : high ≤ high')
    (hactions : ∀ action ∈ actions, action ∈ actions') : p.Begun low' high' actions' where
  after := Nat.le_trans (Nat.add_le_add_right hlow _) h.after
  before := Nat.le_trans h.before (Nat.add_le_add_right hhigh _)
  retry := fun time htime => Nat.lt_of_le_of_lt hlow (h.retry time htime)
  schedule := h.schedule
  armed := h.armed
  sent := by
    obtain ⟨wire, hmem, hcarries⟩ := h.sent
    exact ⟨wire, hactions _ hmem, hcarries⟩
  sendable := h.sendable

theorem Pending.Begun.eases {low high : Nat} {actions : List Action} {q : Pending}
    (h : p.Begun low high actions) (heases : p.Eases q) : q.Begun low high actions := by
  cases heases with
  | same => exact h
  | acknowledged =>
    exact { h with
      retry := fun _ hmem => absurd hmem (Option.not_mem_none _)
      armed := fun hsome => by cases hsome }

/-- Actions that take no exchange out and hand no retransmission and no session-control request to
    the link. -/
def Action.isMild : Action → Bool
  | .sent (.request completion) _ => completion.isApplication
  | .sent (.retransmission _) _ | .taken _ => false
  | _ => true

namespace Driver

variable {env : Env}

/-- **Work outside the timers**, with the actions it adds to the history. -/
structure Passage (d d' : Driver env) (actions : List Action) : Prop extends Clocked d d' where
  trace : d'.trace = d.trace ++ actions
  unrepeated : ∀ completion message, .sent (.retransmission completion) message ∉ actions
  inFlight : ∀ p' ∈ d'.inFlight, (∃ p ∈ d.inFlight, p.Eases p') ∨
    p'.Begun d.world.now d'.world.now actions
  linked : (d.inFlight ≠ [] → d.linkOpen = true) → d'.inFlight ≠ [] → d'.linkOpen = true
  keepAliveAt : ∀ time ∈ d'.keepAliveAt, time ∈ d.keepAliveAt ∨
    ∃ reading, d.world.now ≤ reading ∧ time = reading + env.config.keepaliveInterval
  closed : d.isClosed = true → d'.isClosed = true
  /-- A resignation stays in flight until the session ends. -/
  resigning : d'.isClosed = true ∨ ∀ p ∈ d.inFlight, p.completion.isResign = true →
    ∃ p' ∈ d'.inFlight, p.Eases p'

theorem Passage.refl (d : Driver env) : Passage d d [] where
  toClocked := .refl d
  trace := (List.append_nil _).symm
  unrepeated := fun _ _ => List.not_mem_nil
  inFlight := fun p hp => Or.inl ⟨p, hp, .same⟩
  linked := fun h => h
  keepAliveAt := fun _ h => Or.inl h
  closed := fun h => h
  resigning := Or.inr fun p hp _ => ⟨p, hp, .same⟩

variable {d d' d'' : Driver env} {first second : List Action}

theorem Passage.trans (h : Passage d d' first) (h' : Passage d' d'' second) :
    Passage d d'' (first ++ second) where
  toClocked := h.toClocked.trans h'.toClocked
  trace := by rw [h'.trace, h.trace, List.append_assoc]
  unrepeated := by
    intro completion message hmem
    rcases List.mem_append.mp hmem with hmem | hmem
    · exact h.unrepeated completion message hmem
    · exact h'.unrepeated completion message hmem
  inFlight := by
    intro p'' hp''
    rcases h'.inFlight p'' hp'' with ⟨p', hp', heases⟩ | hbegun
    · rcases h.inFlight p' hp' with ⟨p, hp, heases'⟩ | hbegun
      · exact Or.inl ⟨p, hp, heases'.trans heases⟩
      · exact Or.inr ((hbegun.eases heases).mono (Nat.le_refl _) h'.now
          fun _ hmem => List.mem_append_left _ hmem)
    · exact Or.inr (hbegun.mono h.now (Nat.le_refl _) fun _ hmem => List.mem_append_right _ hmem)
  linked := fun hlinked => h'.linked (h.linked hlinked)
  keepAliveAt := by
    intro time htime
    rcases h'.keepAliveAt time htime with htime | ⟨reading, hreading, heq⟩
    · exact h.keepAliveAt time htime
    · exact Or.inr ⟨reading, Nat.le_trans h.now hreading, heq⟩
  closed := fun hclosed => h'.closed (h.closed hclosed)
  resigning := by
    rcases h'.resigning with hclosed | hkept'
    · exact Or.inl hclosed
    rcases h.resigning with hclosed | hkept
    · exact Or.inl (h'.closed hclosed)
    refine Or.inr fun p hp hresign => ?_
    obtain ⟨p', hp', heases⟩ := hkept p hp hresign
    have hresign' : p'.completion.isResign = true := by
      cases heases <;> exact hresign
    obtain ⟨p'', hp'', heases'⟩ := hkept' p' hp' hresign'
    exact ⟨p'', hp'', heases.trans heases'⟩

variable {actions : List Action}

/-- Work that leaves the exchanges, the link and the keep-alive timer. -/
theorem Passage.of_eq (hclocked : Clocked d d') (htrace : d'.trace = d.trace ++ actions)
    (hunrepeated : ∀ completion message, .sent (.retransmission completion) message ∉ actions)
    (hflight : d'.inFlight = d.inFlight) (hlink : d'.linkOpen = d.linkOpen)
    (hat : d'.keepAliveAt = d.keepAliveAt) (hclosed : d'.isClosed = d.isClosed) :
    Passage d d' actions where
  toClocked := hclocked
  trace := htrace
  unrepeated := hunrepeated
  inFlight := fun p hp => Or.inl ⟨p, hflight ▸ hp, .same⟩
  linked := by
    rw [hflight, hlink]
    exact fun h => h
  keepAliveAt := fun time htime => Or.inl (hat ▸ htime)
  closed := fun h => hclosed.trans h
  resigning := Or.inr fun p hp _ => ⟨p, hflight.symm ▸ hp, .same⟩

/-- No session-control exchange is started among the actions. -/
def Calm (actions : List Action) : Prop :=
  ∀ completion message, .sent (.request completion) message ∈ actions →
    completion.isApplication = true

theorem Calm.append (h : Calm first) (h' : Calm second) : Calm (first ++ second) := by
  intro completion message hmem
  rcases List.mem_append.mp hmem with hmem | hmem
  · exact h completion message hmem
  · exact h' completion message hmem

theorem calm_nil : Calm [] := fun _ _ h => absurd h List.not_mem_nil

/-- At most one session-control exchange is started among the actions, for this waiter. -/
def Begins (completion : Completion) (actions : List Action) : Prop :=
  ∃ before request after, actions = before ++ request ++ after ∧ Calm before ∧ Calm after ∧
    (request = [] ∨ ∃ wire, request = [.sent (.request completion) wire])

theorem Begins.of_calm (h : Calm actions) (completion : Completion) :
    Begins completion actions :=
  ⟨actions, [], [], by rw [List.append_nil, List.append_nil], h, calm_nil, Or.inl rfl⟩

theorem Begins.single (completion : Completion) (wire : CoapMessage) :
    Begins completion [.sent (.request completion) wire] :=
  ⟨[], _, [], rfl, calm_nil, calm_nil, Or.inr ⟨wire, rfl⟩⟩

variable {completion : Completion}

theorem Begins.append (h : Begins completion first) (h' : Calm second) :
    Begins completion (first ++ second) := by
  obtain ⟨before, request, after, rfl, hbefore, hafter, hrequest⟩ := h
  exact ⟨before, request, after ++ second, List.append_assoc _ _ _, hbefore, hafter.append h',
    hrequest⟩

theorem Begins.after (h : Begins completion second) (h' : Calm first) :
    Begins completion (first ++ second) := by
  obtain ⟨before, request, after, rfl, hbefore, hafter, hrequest⟩ := h
  refine ⟨first ++ before, request, after, ?_, h'.append hbefore, hafter, hrequest⟩
  simp only [List.append_assoc]

variable {message : CoapMessage}

/-- Work outside the timers that starts no session-control exchange. -/
def Calmly (d d' : Driver env) : Prop := ∃ actions, Passage d d' actions ∧ Calm actions

theorem Calmly.refl (d : Driver env) : Calmly d d :=
  ⟨[], .refl d, fun _ _ h => absurd h List.not_mem_nil⟩

theorem Calmly.trans (h : Calmly d d') (h' : Calmly d' d'') :
    Calmly d d'' := by
  obtain ⟨first, hfirst, hcalm⟩ := h
  obtain ⟨second, hsecond, hcalm'⟩ := h'
  exact ⟨first ++ second, hfirst.trans hsecond, hcalm.append hcalm'⟩

theorem calm_of_isMild (h : ∀ action ∈ actions, action.isMild = true) : Calm actions :=
  fun _ _ hmem => h _ hmem

theorem unrepeated_of_isMild (h : ∀ action ∈ actions, action.isMild = true) :
    ∀ completion message, .sent (.retransmission completion) message ∉ actions := by
  intro completion message hmem
  cases h _ hmem

/-- Work that only leaves such actions behind. -/
theorem Calmly.of_eq (hclocked : Clocked d d') (htrace : d'.trace = d.trace ++ actions)
    (hmild : ∀ action ∈ actions, action.isMild = true) (hflight : d'.inFlight = d.inFlight)
    (hlink : d'.linkOpen = d.linkOpen) (hat : d'.keepAliveAt = d.keepAliveAt)
    (hclosed : d'.isClosed = d.isClosed) : Calmly d d' :=
  ⟨actions, .of_eq hclocked htrace (unrepeated_of_isMild hmild) hflight hlink hat hclosed,
    calm_of_isMild hmild⟩

/-- Work that ends the session. -/
theorem Passage.of_ended (hclocked : Clocked d d')
    (htrace : d'.trace = d.trace ++ actions)
    (hunrepeated : ∀ completion message, .sent (.retransmission completion) message ∉ actions)
    (hflight : d'.inFlight = []) (hat : d'.keepAliveAt = none) (hclosed : d'.isClosed = true) :
    Passage d d' actions where
  toClocked := hclocked
  trace := htrace
  unrepeated := hunrepeated
  inFlight := fun _ hp => absurd (hflight ▸ hp) List.not_mem_nil
  linked := fun _ hne => absurd hflight hne
  keepAliveAt := fun _ htime => absurd (hat ▸ htime) (Option.not_mem_none _)
  closed := fun _ => hclosed
  resigning := Or.inl hclosed

theorem isMild_tell (completion : Completion) (reply : Reply) :
    ∀ action ∈ completion.tell reply, action.isMild = true := by
  intro action hmem
  rw [Completion.mem_tell hmem]
  rfl

theorem delivered_mem_tell (h : completion.channel.isSome = true) (reply : Reply) :
    .delivered completion reply ∈ completion.tell reply := by
  rw [Completion.tell, if_pos h]
  exact List.mem_singleton_self _

theorem isMild_endActions (c : SessionCore) (reason : CloseReason) :
    ∀ action ∈ c.endActions reason, action.isMild = true := by
  intro action hmem
  rcases List.mem_cons.mp hmem with rfl | hmem
  · rfl
  rcases List.mem_cons.mp hmem with rfl | hmem
  · rfl
  rcases List.mem_append.mp hmem with hmem | hmem
  · obtain ⟨completion, -, rfl⟩ := mem_tellFailed hmem
    rfl
  · rw [CloseReason.mem_loss hmem]
    rfl

theorem endSession_passage (d : Driver env) (reason : CloseReason) :
    ∃ actions, Passage d (d.endSession reason) actions ∧ ∀ action ∈ actions, action.isMild = true := by
  cases hclosed : d.isClosed with
  | true =>
    rw [endSession_of_closed hclosed]
    exact ⟨[], .refl d, List.forall_mem_nil _⟩
  | false =>
    rw [endSession_eq hclosed]
    have hmild := isMild_endActions (d.core .empty) reason
    exact ⟨(d.core .empty).endActions reason, .of_ended (.of_eq rfl rfl) rfl
      (unrepeated_of_isMild hmild) rfl rfl rfl, hmild⟩

/-- The end of the session is calm. -/
theorem endSession_calmly (d : Driver env) (reason : CloseReason) :
    Calmly d (d.endSession reason) := by
  obtain ⟨actions, hpassage, hmild⟩ := endSession_passage d reason
  exact ⟨actions, hpassage, calm_of_isMild hmild⟩

/-! ## §2. Starting an exchange. -/

/-- The timers of a tracked exchange. -/
theorem begun_sentAt {low now : Nat} (hlow : low ≤ now) {retransmit : Option CoapRetransmitSchedule}
    (hretransmit : ∀ schedule ∈ retransmit, ∃ drawn, schedule = .randomized drawn)
    {request wire : CoapMessage} {destination : Destination}
    (hcarries : Carries request destination wire) {bytes : Bytes}
    (hencode : wire.encode = .ok bytes) :
    (sentAt now retransmit request destination completion).Begun low now
      [.sent (.request completion) wire] where
  after := Nat.add_le_add_right hlow _
  before := Nat.le_refl _
  retry := by
    intro time htime
    cases hschedule : retransmit with
    | none =>
      rw [sentAt, hschedule] at htime
      cases htime
    | some schedule =>
      obtain ⟨drawn, rfl⟩ := hretransmit schedule hschedule
      rw [sentAt, hschedule] at htime
      obtain rfl : now + (CoapRetransmitSchedule.randomized drawn).timeout = time :=
        Option.some.inj htime
      have hpositive : 0 < (CoapRetransmitSchedule.randomized drawn).timeout :=
        Nat.lt_of_lt_of_le (by decide : 0 < COAP_ACK_TIMEOUT) (Nat.le_add_right _ _)
      omega
  schedule := by
    intro schedule hschedule
    obtain ⟨drawn, rfl⟩ := hretransmit schedule hschedule
    exact ⟨rfl, Nat.lt_of_lt_of_le (by decide : 0 < COAP_ACK_TIMEOUT) (Nat.le_add_right _ _)⟩
  armed := by
    intro hsome
    cases hschedule : retransmit with
    | none =>
      rw [sentAt, hschedule] at hsome
      cases hsome
    | some schedule => rfl
  sent := ⟨wire, List.mem_singleton_self _, hcarries⟩
  sendable := ⟨wire, bytes, hcarries, hencode⟩

variable {request : Outbound}

/-- **A tracked exchange** has its timers from the clock, and the link is open. -/
theorem launch_passage (hlaunch : d.launch request completion = (d', none)) :
    ∃ p wire, p.completion = completion ∧ d'.inFlight = d.inFlight ++ [p] ∧
      p.Begun d.world.now d'.world.now [.sent (.request completion) wire] ∧
      d'.queued = d.queued ∧ Passage d d' [.sent (.request completion) wire] := by
  have hlaunched := d.launch_launched request completion
  rw [hlaunch] at hlaunched
  cases hlaunched with
  | tracked wire _ _ schedule _ hgoes hsent _ hschedule =>
    obtain ⟨hlink, bytes, hencode⟩ := hsent
    have hbegun : Pending.Begun d.world.now _ [.sent (.request completion) wire] _ :=
      begun_sentAt (readClock_clocked d).now hschedule hgoes.carries hencode
    refine ⟨_, wire, rfl, rfl, hbegun, rfl, (readClock_clocked d).trans (.of_eq rfl rfl), rfl, ?_,
      ?_, fun _ _ => hlink, fun _ htime => Or.inl htime, fun h => h, Or.inr ?_⟩
    · intro other message hmem
      cases List.mem_singleton.mp hmem
    · intro p' hp'
      rcases List.mem_append.mp hp' with hp' | hp'
      · exact Or.inl ⟨p', hp', .same⟩
      · rw [List.mem_singleton.mp hp']
        exact Or.inr hbegun
    · exact fun p' hp' _ => ⟨p', List.mem_append_left _ hp', .same⟩

/-- A launch that is over already leaves the tables, or ends the session. -/
theorem launch_over {outcome : Except Error (Option CoapMessage)}
    (hlaunch : d.launch request completion = (d', some outcome)) :
    ∃ actions, Passage d d' actions ∧ Begins completion actions ∧
      (completion.isApplication = true → ∀ action ∈ actions, action.isMild = true) ∧
      (d'.isClosed = true ∨ d'.inFlight = d.inFlight ∧ d'.queued = d.queued) := by
  have hlaunched := d.launch_launched request completion
  rw [hlaunch] at hlaunched
  cases hlaunched with
  | unsendable =>
    exact ⟨[], .of_eq (.of_eq rfl rfl) (List.append_nil _).symm (fun _ _ => List.not_mem_nil) rfl rfl
      rfl rfl, .of_calm calm_nil completion, fun _ => List.forall_mem_nil _, Or.inr ⟨rfl, rfl⟩⟩
  | finished _ wire =>
    refine ⟨_, .of_eq (.of_eq rfl rfl) rfl ?_ rfl rfl rfl rfl, .single completion wire,
      fun happlication => List.forall_mem_singleton.mpr happlication, Or.inr ⟨rfl, rfl⟩⟩
    intro other message hmem
    cases List.mem_singleton.mp hmem
  | broken error wire nextMessageId draws =>
    have hmild := isMild_endActions (((d.numbered nextMessageId draws).handed
      (.request completion) wire).core .empty) (.transportFailed error.display)
    refine ⟨_, .of_ended (.of_eq rfl rfl) (List.append_assoc _ _ _) ?_ rfl rfl rfl,
      (Begins.single completion wire).append (calm_of_isMild hmild), fun happlication =>
        List.forall_mem_append.mpr ⟨List.forall_mem_singleton.mpr happlication, hmild⟩, Or.inl rfl⟩
    intro other message hmem
    rcases List.mem_append.mp hmem with hmem | hmem
    · cases List.mem_singleton.mp hmem
    · cases hmild _ hmem

/-! ## §3. The loop over the queue. -/

/-- What the loop over the queue does: it starts queued requests behind those in flight, or ends
    the session. -/
structure Fills (d d' : Driver env) (actions : List Action) : Prop where
  passage : Passage d d' actions
  mild : ∀ action ∈ actions, action.isMild = true
  table : d'.isClosed = true ∨ ∃ started, d'.inFlight = d.inFlight ++ started ∧
    started.length + d'.queued.length ≤ d.queued.length ∧
    ∀ p ∈ started, p.Begun d.world.now d'.world.now actions ∧
      p.completion ∈ d.queued.map Prod.snd

theorem deliver_calmly (d : Driver env) (waiter : Completion) (reply : Reply) :
    Passage d (d.deliver waiter reply) (waiter.tell reply) := by
  rw [deliver_eq_logs]
  exact .of_eq (.of_eq rfl rfl) rfl (unrepeated_of_isMild (isMild_tell waiter reply)) rfl rfl rfl
    rfl

/-- **The loop over the queue.** -/
theorem Sends.fills (h : Sends d d') (hqueueing : d.Queueing) : ∃ actions, Fills d d' actions := by
  induction h with
  | settled d _ =>
    exact ⟨[], .refl d, List.forall_mem_nil _, Or.inr ⟨[], by simp⟩⟩
  | tracked d d' request completion queued _ _ hqueued hlaunch =>
    have happlication := hqueueing.callers (request, completion) (by simp [hqueued])
    obtain ⟨p, wire, hcompletion, hflight, hbegun, hkept, hpassage⟩ := launch_passage hlaunch
    have hpassage : Passage d d' [.sent (.request completion) wire] := { hpassage with }
    refine ⟨_, hpassage, List.forall_mem_singleton.mpr happlication,
      Or.inr ⟨[p], hflight, ?_, ?_⟩⟩
    · have hkept : d'.queued = queued := hkept
      rw [hkept, hqueued, List.length_singleton, List.length_cons]
      omega
    · intro p' hp'
      rw [List.mem_singleton.mp hp', hcompletion, hqueued]
      exact ⟨hbegun, List.mem_cons_self⟩
  | next d d' d'' request completion queued outcome hopen _ hqueued hlaunch hrest ih =>
    have happlication := hqueueing.callers (request, completion) (by simp [hqueued])
    obtain ⟨hnext, hshorter⟩ := hqueueing.next hopen hqueued hlaunch (.exchange outcome)
    obtain ⟨actions, hfills⟩ := ih hnext
    obtain ⟨first, hpassage, -, hmild, htable⟩ := launch_over hlaunch
    have hpassage : Passage d d' first := { hpassage with }
    have hdeliver := deliver_calmly d' completion (.exchange outcome)
    have hwhole := (hpassage.trans hdeliver).trans hfills.passage
    refine ⟨_, hwhole, ?_, ?_⟩
    · simp only [List.forall_mem_append]
      exact ⟨⟨hmild happlication, isMild_tell _ _⟩, hfills.mild⟩
    · rcases hfills.table with hclosed | ⟨started, hflight, hlength, hbegun⟩
      · exact Or.inl hclosed
      rcases htable with hclosed | ⟨hkept, hkeptQueue⟩
      · refine Or.inl (hfills.passage.closed ?_)
        rw [deliver_eq_logs]
        exact hclosed
      refine Or.inr ⟨started, ?_, ?_, ?_⟩
      · rw [hflight, deliver_eq_logs]
        exact congrArg (· ++ started) hkept
      · rw [hqueued, List.length_cons]
        omega
      · intro p hp
        obtain ⟨hp, hmem⟩ := hbegun p hp
        refine ⟨hp.mono (hpassage.trans hdeliver).now (Nat.le_refl _)
          fun _ h => List.mem_append_right _ h, ?_⟩
        rw [deliver_eq_logs] at hmem
        have hmem : p.completion ∈ d'.queued.map Prod.snd := hmem
        rw [hkeptQueue] at hmem
        rw [hqueued]
        exact List.mem_cons_of_mem _ hmem

/-- Filling behind work that left the tables. -/
theorem Fills.after (h : Fills d' d'' second) (hpassage : Passage d d' first)
    (hmild : ∀ action ∈ first, action.isMild = true) (hflight : d'.inFlight = d.inFlight)
    (hqueued : d'.queued = d.queued) : Fills d d'' (first ++ second) where
  passage := hpassage.trans h.passage
  mild := List.forall_mem_append.mpr ⟨hmild, h.mild⟩
  table := by
    rcases h.table with hclosed | ⟨started, htable, hlength, hbegun⟩
    · exact Or.inl hclosed
    rw [hflight] at htable
    rw [hqueued] at hlength hbegun
    refine Or.inr ⟨started, htable, hlength, fun p hp => ?_⟩
    exact ⟨(hbegun p hp).1.mono hpassage.now (Nat.le_refl _)
      fun _ hmem => List.mem_append_right _ hmem, (hbegun p hp).2⟩

/-- Work that leaves the tables fills nothing. -/
theorem Fills.of_passage (h : Passage d d' actions)
    (hmild : ∀ action ∈ actions, action.isMild = true) (hflight : d'.inFlight = d.inFlight)
    (hqueued : d'.queued = d.queued) : Fills d d' actions :=
  ⟨h, hmild, Or.inr ⟨[], by rw [hflight, List.append_nil], by rw [hqueued]; simp,
    List.forall_mem_nil _⟩⟩

/-! ## §4. Completing an exchange. -/

/-- The next keep-alive is scheduled from the clock. -/
theorem scheduleKeepAlive_passage (d : Driver env) : Passage d d.scheduleKeepAlive [] := by
  unfold scheduleKeepAlive
  split
  · exact { Passage.refl d with
      toClocked := (readClock_clocked d).trans (.of_eq rfl rfl)
      inFlight := fun p hp => Or.inl ⟨p, hp, .same⟩
      keepAliveAt := fun time htime =>
        Or.inr ⟨_, Nat.le_add_right _ _, (Option.some.inj htime).symm⟩ }
  · exact .refl d

theorem scheduleKeepAlive_tables (d : Driver env) :
    d.scheduleKeepAlive.inFlight = d.inFlight ∧ d.scheduleKeepAlive.queued = d.queued ∧
      d.scheduleKeepAlive.status = d.status := by
  unfold scheduleKeepAlive
  split <;> exact ⟨rfl, rfl, rfl⟩

theorem setStatus_passage {status : SessionStatus} (hopen : d.isClosed = false)
    (hstatus : status.isClosed = false) : Passage d (d.setStatus status) [.statusSet status] := by
  exact .of_eq (.of_eq rfl rfl) rfl (unrepeated_of_isMild (List.forall_mem_singleton.mpr rfl)) rfl
    rfl rfl (hstatus.trans hopen.symm)

/-- A petition's outcome leaves the tables. -/
theorem petitionOutcome_passage (d : Driver env) (outcome : Except Error (Option CoapMessage)) :
    ∃ actions, Passage d (d.petitionOutcome outcome).2 actions ∧
      (∀ action ∈ actions, action.isMild = true) ∧
      (d.petitionOutcome outcome).2.inFlight = d.inFlight ∧
      (d.petitionOutcome outcome).2.queued = d.queued := by
  unfold petitionOutcome
  dsimp only
  split
  · exact ⟨[], .refl d, List.forall_mem_nil _, rfl, rfl⟩
  rename_i hopen
  have hopen : d.isClosed = false := Bool.eq_false_of_not_eq_true hopen
  split
  · rename_i petition _
    obtain ⟨hflight, hqueued, -⟩ :=
      scheduleKeepAlive_tables (d.setStatus (.active petition.sessionId))
    exact ⟨_, (setStatus_passage hopen rfl).trans (scheduleKeepAlive_passage _),
      List.forall_mem_singleton.mpr rfl, hflight, hqueued⟩
  · exact ⟨_, setStatus_passage hopen rfl, List.forall_mem_singleton.mpr rfl, rfl, rfl⟩

theorem isClosed_endSession (d : Driver env) (reason : CloseReason) :
    (d.endSession reason).isClosed = true := by
  cases hclosed : d.isClosed with
  | true => rw [endSession_of_closed hclosed, hclosed]
  | false =>
    rw [endSession_eq hclosed]
    rfl

/-- After a keep-alive the waiter hears, and the next one is scheduled or the session ends. -/
theorem keepAliveEnd_fills (d : Driver env) (result : Except Error ResultCode)
    (reply : Option Nat) : ∃ actions, Fills d (match keepAliveEnd result with
      | none => (d.deliver (.keepAlive reply) (.keepAlive result)).scheduleKeepAlive
      | some reason => (d.deliver (.keepAlive reply) (.keepAlive result)).endSession reason)
      ((Completion.keepAlive reply).tell (.keepAlive result) ++ actions) := by
  have hdeliver := deliver_calmly d (.keepAlive reply) (.keepAlive result)
  have htold := isMild_tell (.keepAlive reply) (.keepAlive result)
  have htables : (d.deliver (.keepAlive reply) (.keepAlive result)).inFlight = d.inFlight ∧
      (d.deliver (.keepAlive reply) (.keepAlive result)).queued = d.queued := by
    rw [deliver_eq_logs]
    exact ⟨rfl, rfl⟩
  split
  · obtain ⟨hflight, hqueued, -⟩ :=
      scheduleKeepAlive_tables (d.deliver (.keepAlive reply) (.keepAlive result))
    exact ⟨[], .of_passage (hdeliver.trans (scheduleKeepAlive_passage _))
      (List.forall_mem_append.mpr ⟨htold, List.forall_mem_nil _⟩) (hflight.trans htables.1) (hqueued.trans htables.2)⟩
  · rename_i reason _
    obtain ⟨last, hlast, hmild⟩ := endSession_passage
      (d.deliver (.keepAlive reply) (.keepAlive result)) reason
    exact ⟨last, hdeliver.trans hlast, List.forall_mem_append.mpr ⟨htold, hmild⟩,
      Or.inl (isClosed_endSession _ reason)⟩

/-- A keep-alive's outcome. -/
theorem keepAliveOutcome_fills (d : Driver env) (outcome : Except Error (Option CoapMessage))
    (reply : Option Nat) : ∃ first actions, Fills d (d.keepAliveOutcome outcome reply)
      (first ++ ((Completion.keepAlive reply).tell (.keepAlive (keepAliveResult outcome)) ++
        actions)) := by
  unfold keepAliveOutcome
  cases keepAliveResult outcome with
  | error error => exact ⟨[], keepAliveEnd_fills d (.error error) reply⟩
  | ok code =>
    obtain ⟨actions, hfills⟩ :=
      keepAliveEnd_fills (d.publish (.keepAliveResponse code)) (.ok code) reply
    have hmild : ∀ action ∈ [.published (.keepAliveResponse code)],
        Action.isMild action = true := List.forall_mem_singleton.mpr rfl
    have hpublish : Passage d (d.publish (.keepAliveResponse code)) _ :=
      .of_eq (.of_eq rfl rfl) rfl (unrepeated_of_isMild hmild) rfl rfl rfl rfl
    exact ⟨_, actions, hfills.after hpublish hmild rfl rfl⟩

/-- **Completing an exchange** that was taken out: queued requests may start, a waiter hears, and if
    the exchange failed it hears of that or the session ends. -/
theorem complete_fills (hqueueing : d.Queueing) (completion : Completion)
    (outcome : Except Error (Option CoapMessage)) :
    ∃ actions, Fills d (d.complete completion outcome) actions ∧
      (completion.channel.isSome = true → ∃ reply, .delivered completion reply ∈ actions) ∧
      ∀ error, outcome = .error error → (d.complete completion outcome).isClosed = false →
        completion.channel.isSome = true ∧
          .delivered completion (completion.failedReply error) ∈ actions := by
  cases completion with
  | caller id channel =>
    have hsends := complete_caller hqueueing id channel outcome
    have hdeliver := deliver_calmly d (.caller id channel) (.exchange outcome)
    obtain ⟨actions, hfills⟩ := hsends.fills (by
      rw [deliver_eq_logs]
      exact ⟨hqueueing.callers, hqueueing.atEnd⟩)
    have htold := List.mem_append_left actions
      (@delivered_mem_tell (.caller id channel) rfl (.exchange outcome))
    refine ⟨_, hfills.after hdeliver (isMild_tell _ _) ?_ ?_, fun _ => ⟨_, htold⟩, ?_⟩
    · rw [deliver_eq_logs]
      rfl
    · rw [deliver_eq_logs]
      rfl
    · rintro error rfl -
      exact ⟨rfl, htold⟩
  | petition channel =>
    obtain ⟨first, hfirst, hmild, hflight, hqueued⟩ := petitionOutcome_passage d outcome
    rw [complete_petition]
    have hdeliver := deliver_calmly (d.petitionOutcome outcome).2 (.petition channel)
      (.petition (petitionResult outcome))
    have htold := List.mem_append_right first
      (@delivered_mem_tell (.petition channel) rfl (.petition (petitionResult outcome)))
    refine ⟨_, .of_passage (hfirst.trans hdeliver)
      (List.forall_mem_append.mpr ⟨hmild, isMild_tell _ _⟩) ?_ ?_, fun _ => ⟨_, htold⟩, ?_⟩
    · rw [deliver_eq_logs]
      exact hflight
    · rw [deliver_eq_logs]
      exact hqueued
    · rintro error rfl -
      exact ⟨rfl, htold⟩
  | keepAlive reply =>
    rw [complete_keepAlive]
    obtain ⟨first, actions, hfills⟩ := keepAliveOutcome_fills d outcome reply
    refine ⟨_, hfills, fun hchannel => ⟨_, List.mem_append_right _
      (List.mem_append_left _ (delivered_mem_tell hchannel _))⟩, ?_⟩
    rintro error rfl hopen
    -- a failed keep-alive ends the session
    have hclosed : (d.keepAliveOutcome (.error error) reply).isClosed = true :=
      isClosed_endSession _ _
    cases hopen.symm.trans hclosed
  | resign reply =>
    rw [complete_resign]
    obtain ⟨first, hfirst, hmild⟩ := endSession_passage d .resigned
    have hdeliver := deliver_calmly (d.endSession .resigned) (.resign reply)
      (.resign (resignResult outcome))
    have hclosed := hdeliver.closed (isClosed_endSession d .resigned)
    refine ⟨_, ⟨hfirst.trans hdeliver, List.forall_mem_append.mpr ⟨hmild, isMild_tell _ _⟩,
      Or.inl hclosed⟩, fun hchannel => ⟨_, List.mem_append_right _ (delivered_mem_tell hchannel _)⟩, ?_⟩
    intro error _ hopen
    cases hopen.symm.trans hclosed

theorem isClosed_complete_resign (h : completion.isResign = true)
    (outcome : Except Error (Option CoapMessage)) :
    (d.complete completion outcome).isClosed = true := by
  cases completion with
  | resign reply =>
    rw [complete_resign, deliver_eq_logs]
    exact isClosed_endSession d .resigned
  | caller | petition | keepAlive => cases h

variable {d₁ : Driver env}

/-- An exchange is taken out, and more work follows. -/
theorem Passage.taken {before after : List Pending} {p : Pending} (h : Passage d₁ d' second)
    (hflight : d.inFlight = before ++ p :: after) (hflight₁ : d₁.inFlight = before ++ after)
    (hclocked : Clocked d d₁) (htrace : d₁.trace = d.trace ++ first)
    (hunrepeated : ∀ completion message, .sent (.retransmission completion) message ∉ first)
    (hlink : d₁.linkOpen = d.linkOpen) (hat : d₁.keepAliveAt = d.keepAliveAt)
    (hclosed : d₁.isClosed = d.isClosed)
    (hresign : p.completion.isResign = true → d'.isClosed = true) :
    Passage d d' (first ++ second) where
  toClocked := hclocked.trans h.toClocked
  trace := by rw [h.trace, htrace, List.append_assoc]
  unrepeated := by
    intro completion message hmem
    rcases List.mem_append.mp hmem with hmem | hmem
    · exact hunrepeated completion message hmem
    · exact h.unrepeated completion message hmem
  inFlight := by
    intro p' hp'
    rcases h.inFlight p' hp' with ⟨q, hq, heases⟩ | hbegun
    · refine Or.inl ⟨q, ?_, heases⟩
      rw [hflight₁] at hq
      rw [hflight]
      rcases List.mem_append.mp hq with hq | hq
      · exact List.mem_append_left _ hq
      · exact List.mem_append_right _ (List.mem_cons_of_mem _ hq)
    · exact Or.inr (hbegun.mono hclocked.now (Nat.le_refl _) fun _ hmem => List.mem_append_right _ hmem)
  linked := by
    intro hlinked
    refine h.linked fun _ => hlink.trans (hlinked ?_)
    rw [hflight]
    exact List.append_ne_nil_of_right_ne_nil _ (List.cons_ne_nil _ _)
  keepAliveAt := by
    intro time htime
    rcases h.keepAliveAt time htime with htime | ⟨reading, hreading, heq⟩
    · exact Or.inl (hat ▸ htime)
    · exact Or.inr ⟨reading, Nat.le_trans hclocked.now hreading, heq⟩
  closed := fun hover => h.closed (hclosed.trans hover)
  resigning := by
    rcases h.resigning with hover | hkept
    · exact Or.inl hover
    by_cases hkind : p.completion.isResign = true
    · exact Or.inl (hresign hkind)
    refine Or.inr fun q hq hq' => hkept q ?_ hq'
    rw [hflight] at hq
    rw [hflight₁]
    rcases List.mem_append.mp hq with hq | hq
    · exact List.mem_append_left _ hq
    · rcases List.mem_cons.mp hq with rfl | hq
      · exact absurd hq' hkind
      · exact List.mem_append_right _ hq

/-! ## §5. Received messages. -/

theorem isMild_of_isQuiet {action : Action} (h : action.isQuiet = true) :
    action.isMild = true := by
  cases action with
  | sent kind message =>
    cases kind with
    | other => rfl
    | request | retransmission => cases h
  | taken => cases h
  | _ => rfl

/-- Quiet work leaves the exchanges. -/
theorem Quiet.calmly (h : Quiet d d') : Calmly d d' := by
  obtain ⟨actions, htrace, hquiet⟩ := h.trace
  exact .of_eq h.toClocked htrace (fun action hmem => isMild_of_isQuiet
    (hquiet action hmem)) h.inFlight h.linkOpen h.keepAliveAt h.isClosed

variable {proxied : Bool}

/-- An acknowledged exchange is not retransmitted any more. -/
theorem acknowledge_calmly (h : d.acknowledge message proxied = some d') : Calmly d d' := by
  obtain ⟨before, p, after, hflight, -, rfl⟩ := acknowledge_eq h
  refine ⟨[], { Passage.refl d with
    inFlight := ?_, linked := ?_, resigning := Or.inr ?_ }, calm_nil⟩
  · intro p' hp'
    rw [hflight]
    rcases List.mem_append.mp hp' with hp' | hp'
    · exact Or.inl ⟨p', List.mem_append_left _ hp', .same⟩
    · rcases List.mem_cons.mp hp' with rfl | hp'
      · exact Or.inl ⟨p, List.mem_append_right _ List.mem_cons_self, .acknowledged⟩
      · exact Or.inl ⟨p', List.mem_append_right _ (List.mem_cons_of_mem _ hp'), .same⟩
  · intro hlinked _
    refine hlinked ?_
    rw [hflight]
    exact List.append_ne_nil_of_right_ne_nil _ (List.cons_ne_nil _ _)
  · intro q hq _
    rw [hflight] at hq
    rcases List.mem_append.mp hq with hq | hq
    · exact ⟨q, List.mem_append_left _ hq, .same⟩
    · rcases List.mem_cons.mp hq with rfl | hq
      · exact ⟨_, List.mem_append_right _ List.mem_cons_self, .acknowledged⟩
      · exact ⟨q, List.mem_append_right _ (List.mem_cons_of_mem _ hq), .same⟩

/-- A received message takes an exchange out, and more work follows. -/
theorem takeAnswered_calmly {pending : Pending}
    (htake : d.takeAnswered message proxied = some (pending, d₁)) (h : Calmly d₁ d')
    (hresign : pending.completion.isResign = true → d'.isClosed = true) :
    Calmly d d' := by
  obtain ⟨actions, hpassage, hcalm⟩ := h
  obtain ⟨hfind, rfl⟩ := takeAnswered_eq htake
  obtain ⟨before, after, hflight, herase, -⟩ := split_at_first hfind
  refine ⟨[.taken pending.completion] ++ actions, hpassage.taken hflight herase (.of_eq rfl rfl) rfl
    ?_ rfl rfl rfl hresign, Calm.append ?_ hcalm⟩
  · intro completion message hmem
    cases List.mem_singleton.mp hmem
  · intro completion message hmem
    cases List.mem_singleton.mp hmem

theorem Fills.calmly (h : Fills d d' actions) :
    Calmly d d' := ⟨actions, h.passage, calm_of_isMild h.mild⟩

theorem complete_calmly (hqueueing : d.Queueing) (completion : Completion)
    (outcome : Except Error (Option CoapMessage)) : Calmly d (d.complete completion outcome) := by
  obtain ⟨actions, hfills, -⟩ := complete_fills hqueueing completion outcome
  exact hfills.calmly

/-- The queue of a driver that quiet work leaves. -/
theorem Queueing.of_quiet (h : d.Queueing) (hquiet : Quiet d d') : d'.Queueing where
  callers := by
    rw [hquiet.queued]
    exact h.callers
  atEnd := by
    rw [hquiet.queued, hquiet.isClosed]
    exact h.atEnd

/-- **A routed message** is calm work. -/
theorem Routed.calmly (h : Routed message proxied d d') (hqueueing : d.Queueing) : Calmly d d' := by
  cases h with
  | quiet _ hquiet => exact hquiet.calmly
  | broken d₁ error hquiet _ => exact hquiet.calmly.trans (endSession_calmly d₁ _)
  | acknowledged d₁ _ hquiet hack => exact hquiet.calmly.trans (acknowledge_calmly hack)
  | answered d₁ d₂ d₃ pending hquiet htake hquiet₃ _ =>
    have hqueueing₃ : d₃.Queueing := by
      refine Queueing.of_quiet ?_ hquiet₃
      rw [(takeAnswered_eq htake).2]
      exact ⟨(hqueueing.of_quiet hquiet).callers, (hqueueing.of_quiet hquiet).atEnd⟩
    exact hquiet.calmly.trans (takeAnswered_calmly htake
      (hquiet₃.calmly.trans (complete_calmly hqueueing₃ pending.completion (outcomeOf message)))
      fun hresign => isClosed_complete_resign hresign _)
  | lost d₁ d₂ d₃ pending error hquiet htake hquiet₃ _ _ =>
    exact hquiet.calmly.trans (takeAnswered_calmly htake
      (hquiet₃.calmly.trans (endSession_calmly d₃ (.transportFailed error)))
      fun _ => isClosed_endSession d₃ (.transportFailed error))

/-- A received datagram is calm work. -/
theorem handleDatagram_calmly (h : Sound d) (hopen : d.isClosed = false)
    (hlink : d.linkOpen = true) (plaintext : Bytes) : Calmly d (d.handleDatagram plaintext) := by
  have hrouted := handleDatagram_routed plaintext h.record.plain hlink hopen
  split at hrouted
  · rw [hrouted]
    exact .refl d
  · exact hrouted.calmly (queueing_of_controlled h.control)

/-! ## §6. The other wakes. -/

theorem sendQueued_fills (h : d.Queueing) : ∃ actions, Fills d d.sendQueued actions :=
  (sendQueued_sends h).fills h

theorem sendQueued_calmly (h : d.Queueing) : Calmly d d.sendQueued := by
  obtain ⟨actions, hfills⟩ := sendQueued_fills h
  exact hfills.calmly

/-- Work outside the timers that starts at most this one session-control exchange. -/
def Opens (completion : Completion) (d d' : Driver env) : Prop :=
  ∃ actions, Passage d d' actions ∧ Begins completion actions

theorem Calmly.opens (h : Calmly d d') (completion : Completion) :
    Opens completion d d' := by
  obtain ⟨actions, hpassage, hcalm⟩ := h
  exact ⟨actions, hpassage, .of_calm hcalm completion⟩

theorem Opens.after (h : Opens completion d' d'') (h' : Calmly d d') : Opens completion d d'' := by
  obtain ⟨second, hsecond, hbegins⟩ := h
  obtain ⟨first, hfirst, hcalm⟩ := h'
  exact ⟨first ++ second, hfirst.trans hsecond, hbegins.after hcalm⟩

/-- The queue after a launch that is over already. -/
theorem launch_queueing (hqueueing : d.Queueing) (hopen : d.isClosed = false)
    {outcome : Except Error (Option CoapMessage)}
    (hlaunch : d.launch request completion = (d₁, some outcome)) : d₁.Queueing := by
  have hafter := launch_queued d hopen request completion
  rw [hlaunch] at hafter
  rcases hafter with ⟨hkept, hopen'⟩ | ⟨hnil, hclosed⟩
  · have hkept : d₁.queued = d.queued := hkept
    have hopen' : d₁.isClosed = false := hopen'
    refine ⟨?_, fun hclosed => ?_⟩
    · rw [hkept]
      exact hqueueing.callers
    · cases hopen'.symm.trans hclosed
  · have hnil : d₁.queued = [] := hnil
    refine ⟨?_, fun _ => hnil⟩
    rw [hnil]
    exact List.forall_mem_nil _

/-- A session-control exchange is started. -/
theorem start_opens (hqueueing : d.Queueing) (hopen : d.isClosed = false) (request : Outbound)
    (hcontrol : completion.isApplication = false) :
    Opens completion d (d.start request completion) := by
  rw [start_eq hopen request hcontrol]
  cases hlaunch : d.launch request completion with
  | mk d₁ outcome =>
    cases outcome with
    | none =>
      obtain ⟨p, wire, -, -, -, -, hpassage⟩ := launch_passage hlaunch
      exact ⟨_, hpassage, .single completion wire⟩
    | some outcome =>
      obtain ⟨first, hpassage, hbegins, -, -⟩ := launch_over hlaunch
      obtain ⟨second, hsecond, hcalm⟩ :=
        complete_calmly (launch_queueing hqueueing hopen hlaunch) completion outcome
      exact ⟨first ++ second, hpassage.trans hsecond, hbegins.append hcalm⟩

/-- An answer at once. -/
theorem answer_calmly (d : Driver env) (waiter : Nat → Completion) (reply : Reply) :
    Calmly d (d.answer waiter reply) :=
  .of_eq (.of_eq rfl rfl) rfl (List.forall_mem_singleton.mpr rfl) rfl rfl rfl rfl

/-- The keep-alive timer is put off, and a channel may be numbered. -/
theorem postponed_calmly (hworld : d'.world = d.world) (htrace : d'.trace = d.trace)
    (hflight : d'.inFlight = d.inFlight) (hlink : d'.linkOpen = d.linkOpen)
    (hat : d'.keepAliveAt = none) (hclosed : d'.isClosed = d.isClosed) : Calmly d d' := by
  refine ⟨[], ⟨.of_eq (by rw [hworld]) (by rw [hworld]), by rw [htrace, List.append_nil],
    fun _ _ => List.not_mem_nil, fun p hp => Or.inl ⟨p, hflight ▸ hp, .same⟩, ?_,
    fun _ htime => absurd (hat ▸ htime) (Option.not_mem_none _), fun h => hclosed.trans h,
    Or.inr fun p hp _ => ⟨p, hflight.symm ▸ hp, .same⟩⟩, calm_nil⟩
  rw [hflight, hlink]
  exact fun h => h

/-- Reopening the link, if it is closed. -/
theorem ensureOpen_calmly (hopen : d.isClosed = false) :
    wp ensureOpen (fun _ d' => Calmly d d') (fun _ d' => Calmly d d') d := by
  simp only [ensureOpen, wp_bind, wp_get]
  split
  · exact .refl d
  simp only [wp_bind, wp_modify]
  split
  · exact .of_eq (.of_eq rfl rfl) (List.append_nil _).symm (List.forall_mem_nil _) rfl rfl rfl rfl
  simp only [wp_bind, wp_modify]
  have hmild : ∀ action ∈ [.reopened, .statusSet .connected],
      Action.isMild action = true := by simp [Action.isMild]
  refine ⟨_, ⟨.of_eq rfl rfl, List.append_assoc _ _ _, unrepeated_of_isMild hmild,
    fun p hp => Or.inl ⟨p, hp, .same⟩, fun _ _ => rfl, fun _ h => Or.inl h, ?_,
    Or.inr fun p hp _ => ⟨p, hp, .same⟩⟩, calm_of_isMild hmild⟩
  intro hclosed
  cases hopen.symm.trans hclosed

/-- A handle's request is queued, and the queue is looked at. -/
theorem submit_calmly (hqueueing : d.Queueing) (hopen : d.isClosed = false) (id : UInt64)
    (request : Outbound) : Calmly d (d.submit id request) := by
  unfold submit
  dsimp only
  refine Calmly.trans ?_ (sendQueued_calmly ⟨?_, ?_⟩)
  · exact .of_eq (.of_eq rfl rfl) (rfl : _ = d.trace ++ [.accepted id])
      (List.forall_mem_singleton.mpr rfl) rfl rfl rfl rfl
  · intro entry hentry
    rcases List.mem_append.mp hentry with hentry | hentry
    · exact hqueueing.callers entry hentry
    · cases List.mem_singleton.mp hentry
      rfl
  · intro hclosed
    cases hopen.symm.trans hclosed

/-- A handle's request is forgotten, and the queue is looked at. -/
theorem withdraw_calmly (hqueueing : d.Queueing) (hopen : d.isClosed = false) (id : UInt64) :
    Calmly d (d.withdraw id) := by
  have hlogged : ∀ d' : Driver env, d'.world = d.world → d'.trace = d.trace ++ [.withdrawn id] →
      d'.inFlight = d.inFlight → d'.linkOpen = d.linkOpen → d'.keepAliveAt = d.keepAliveAt →
      d'.status = d.status → Calmly d d' := by
    intro d' hworld htrace hflight hlink hat hstatus
    exact .of_eq (.of_eq (by rw [hworld]) (by rw [hworld])) htrace (List.forall_mem_singleton.mpr rfl) hflight
      hlink hat (congrArg SessionStatus.isClosed hstatus)
  have hstays : ∀ d' : Driver env, d'.status = d.status →
      (∀ entry ∈ d'.queued, entry ∈ d.queued) → d'.Queueing := by
    intro d' hstatus hsub
    refine ⟨fun entry hentry => hqueueing.callers entry (hsub entry hentry), fun hclosed => ?_⟩
    cases hopen.symm.trans ((congrArg SessionStatus.isClosed hstatus).symm.trans hclosed)
  unfold withdraw
  dsimp only
  split
  · have hfirst := hlogged ({ d.log (.withdrawn id) with
      queued := d.queued.eraseP (fun entry => entry.2.isCaller id) } : Driver env)
      rfl rfl rfl rfl rfl rfl
    refine hfirst.trans (sendQueued_calmly (hstays _ rfl ?_))
    exact fun entry hentry => List.mem_of_mem_eraseP hentry
  · split
    · rename_i hany
      have hany : d.inFlight.any (fun pending => pending.completion.isCaller id) = true := hany
      obtain ⟨pending, hfind⟩ := find?_isSome_of_any hany
      obtain ⟨before, after, hflight, herase, hcaller, -⟩ := split_at_first hfind
      show Calmly d (sendQueued { d.log (.withdrawn id) with
        inFlight := d.inFlight.eraseP (fun pending => pending.completion.isCaller id) })
      obtain ⟨actions, hpassage, hcalm⟩ := sendQueued_calmly (hstays ({ d.log (.withdrawn id) with
        inFlight := d.inFlight.eraseP (fun pending => pending.completion.isCaller id) } :
          Driver env) rfl fun _ hentry => hentry)
      have hmild : ∀ action ∈ [Action.withdrawn id], action.isMild = true :=
        List.forall_mem_singleton.mpr rfl
      refine ⟨[.withdrawn id] ++ actions, hpassage.taken hflight herase (.of_eq rfl rfl) rfl
        (unrepeated_of_isMild hmild) rfl rfl rfl ?_, (calm_of_isMild hmild).append hcalm⟩
      intro hresign
      have hcaller : pending.completion.isCaller id = true := hcaller
      cases hkind : pending.completion <;> rw [hkind] at hcaller hresign <;>
        first | cases hcaller | cases hresign
    · exact hlogged _ rfl rfl rfl rfl rfl rfl

/-- A session-control request is started, or fails before. -/
theorem control_opens (hqueueing : d.Queueing) (hopen : d.isClosed = false)
    (hcontrol : completion.isApplication = false) (request : Except Error CoapMessage) :
    Opens completion d (match request with
      | .error error => d.complete completion (.error error)
      | .ok request => d.start (controlRequest request) completion) := by
  cases request with
  | error error => exact (complete_calmly hqueueing completion (.error error)).opens completion
  | ok request => exact start_opens hqueueing hopen _ hcontrol

theorem petition_opens (h : Sound d) (hopen : d.isClosed = false) :
    ∃ reply, Opens (.petition reply) d d.petition := by
  unfold petition
  cases petitionRefusal d.status with
  | some refusal => exact ⟨0, (answer_calmly d _ _).opens _⟩
  | none =>
    have hreopened := ensureOpen_calmly hopen
    have hmoves := ensureOpen_moves h hopen
    unfold wp at hreopened hmoves
    dsimp only
    cases hresult : ensureOpen d with
    | error error d₁ =>
      rw [hresult] at hreopened
      exact ⟨0, (hreopened.trans (answer_calmly d₁ _ _)).opens _⟩
    | ok _ d₁ =>
      rw [hresult] at hreopened hmoves
      obtain ⟨hworks, hopen₁, -⟩ := hmoves
      dsimp only
      cases petitionRequest 0 [] env.config.commissionerId with
      | error error => exact ⟨0, (hreopened.trans (answer_calmly d₁ _ _)).opens _⟩
      | ok request =>
        have hqueueing := queueing_of_controlled (h.after hworks).control
        have hset : Calmly d₁ (({ d₁ with nextChannel := d₁.nextChannel + 1 } :
            Driver env).setStatus .petitioning) :=
          .of_eq (.of_eq rfl rfl) rfl (List.forall_mem_singleton.mpr rfl) rfl rfl rfl hopen₁.symm
        have hqueueing' : Queueing (({ d₁ with nextChannel := d₁.nextChannel + 1 } :
            Driver env).setStatus .petitioning) := ⟨hqueueing.callers, fun hclosed => by cases hclosed⟩
        exact ⟨_, (start_opens hqueueing' rfl _ rfl).after (hreopened.trans hset)⟩

theorem sendKeepAlive_opens (hqueueing : d.Queueing) (hopen : d.isClosed = false)
    (reply : Option Nat) : Opens (.keepAlive reply) d (d.sendKeepAlive (.keepAlive reply)) := by
  unfold sendKeepAlive
  cases d.sessionId with
  | none => exact (complete_calmly hqueueing _ _).opens _
  | some sessionId =>
    have hfirst : Calmly d { d with keepAliveAt := none } :=
      postponed_calmly rfl rfl rfl rfl rfl rfl
    have hqueueing' : Queueing { d with keepAliveAt := none } :=
      ⟨hqueueing.callers, hqueueing.atEnd⟩
    exact (control_opens hqueueing' hopen rfl (keepAliveRequest 0 [] sessionId true)).after hfirst

theorem resignActive_opens (hqueueing : d.Queueing) (hopen : d.isClosed = false)
    (sessionId : UInt16) (waiter : Bool) :
    ∃ reply, Opens (.resign reply) d (d.resignActive sessionId waiter) := by
  unfold resignActive
  dsimp only
  have hfirst : Calmly d { d with
      nextChannel := if waiter then d.nextChannel + 1 else d.nextChannel, keepAliveAt := none } :=
    postponed_calmly rfl rfl rfl rfl rfl rfl
  have hqueueing' : Queueing { d with
      nextChannel := if waiter then d.nextChannel + 1 else d.nextChannel, keepAliveAt := none } :=
    ⟨hqueueing.callers, hqueueing.atEnd⟩
  exact ⟨_, (control_opens hqueueing' hopen rfl (keepAliveRequest 0 [] sessionId false)).after
    hfirst⟩

theorem resign_opens (hqueueing : d.Queueing) (hopen : d.isClosed = false) (waiter : Bool) :
    ∃ reply, Opens (.resign reply) d (d.resign waiter) := by
  unfold resign
  cases d.sessionId with
  | none =>
    have hended := endSession_calmly d .resigned
    dsimp only
    split
    · exact ⟨none, (hended.trans (answer_calmly _ _ _)).opens _⟩
    · exact ⟨none, hended.opens _⟩
  | some sessionId => exact resignActive_opens hqueueing hopen sessionId waiter

theorem isMild_tellIdle (error : Error) (completions : List Completion) :
    ∀ action ∈ tellIdle error completions, action.isMild = true := by
  intro action hmem
  obtain ⟨completion, -, hmem⟩ := List.mem_flatMap.mp hmem
  rcases List.mem_append.mp hmem with hmem | hmem
  · split at hmem
    · cases List.mem_singleton.mp hmem
      rfl
    · exact absurd hmem List.not_mem_nil
  · exact isMild_tell _ _ action hmem

/-- A connect-only session that goes idle has nothing in flight any more. -/
theorem goIdle_calmly (h : Sound d) (hopen : d.isClosed = false) (hsession : d.sessionId = none) :
    Calmly d d.goIdle := by
  obtain ⟨status, hgone⟩ := goIdle_eq h hopen hsession
  have hmild : ∀ action ∈ tellIdle (.sessionLost .peerClosed) d.drain.1 ++ [.statusSet .idle],
      action.isMild = true := by
    intro action hmem
    rcases List.mem_append.mp hmem with hmem | hmem
    · exact isMild_tellIdle _ _ action hmem
    · cases List.mem_singleton.mp hmem
      rfl
  rw [hgone]
  refine ⟨_, ⟨.of_eq rfl rfl, ?_, unrepeated_of_isMild hmild, List.forall_mem_nil _,
    fun _ hne => absurd rfl hne, fun _ h => Or.inl h, ?_, Or.inr ?_⟩, calm_of_isMild hmild⟩
  · exact List.append_assoc _ _ _
  · intro hclosed
    cases hopen.symm.trans hclosed
  · intro p hp hresign
    have hnone := h.unpetitioned hopen hsession p.completion
      (List.mem_append_left _ (List.mem_map_of_mem hp))
    cases hresign.symm.trans hnone.2

theorem receiveFailed_calmly (h : Sound d) (hopen : d.isClosed = false) (error : Error) :
    Calmly d (d.receiveFailed error) := by
  unfold receiveFailed
  split
  · split
    · rename_i hidle
      exact goIdle_calmly h hopen hidle.1
    · exact endSession_calmly d _
  · exact endSession_calmly d _

/-- Every command starts at most one session-control exchange, and only a command to resign
    starts a resignation. -/
theorem handleCommand_opens (h : Sound d) (hopen : d.isClosed = false) (command : Command env) :
    ∃ completion, Opens completion d (d.handleCommand command) ∧
      (completion.isResign = true → d.resigning = false ∧ d.handleCommand command = d.resign true) := by
  have hqueueing := queueing_of_controlled h.control
  have hcalmly : Calmly d (d.handleCommand command) →
      ∃ completion, Opens completion d (d.handleCommand command) ∧ (completion.isResign = true →
          d.resigning = false ∧ d.handleCommand command = d.resign true) :=
    fun hcalm => ⟨.petition 0, hcalm.opens _, fun hresign => by cases hresign⟩
  cases command with
  | exchange id request =>
    refine hcalmly ?_
    rw [handleCommand]
    split
    · exact answer_calmly d _ _
    have hreopened := ensureOpen_calmly hopen
    have hmoves := ensureOpen_moves h hopen
    unfold wp at hreopened hmoves
    cases hresult : ensureOpen d with
    | error error d₁ =>
      rw [hresult] at hreopened
      exact hreopened.trans (answer_calmly d₁ _ _)
    | ok _ d₁ =>
      rw [hresult] at hreopened hmoves
      obtain ⟨hworks, hopen₁, -⟩ := hmoves
      have hqueueing₁ := queueing_of_controlled (h.after hworks).control
      exact hreopened.trans (submit_calmly hqueueing₁ hopen₁ id request)
  | withdraw id => exact hcalmly (withdraw_calmly hqueueing hopen id)
  | petition =>
    obtain ⟨reply, hopens⟩ := petition_opens h hopen
    exact ⟨_, hopens, fun hresign => by cases hresign⟩
  | keepAlive =>
    cases hrefusal : d.keepAliveRefusal with
    | some refusal =>
      refine hcalmly ?_
      rw [handleCommand, hrefusal]
      exact answer_calmly d _ _
    | none =>
      have hfirst : Calmly d { d with nextChannel := d.nextChannel + 1 } :=
        .of_eq (.of_eq rfl rfl) (List.append_nil _).symm (List.forall_mem_nil _)
          rfl rfl rfl rfl
      have hqueueing' : Queueing { d with nextChannel := d.nextChannel + 1 } :=
        ⟨hqueueing.callers, hqueueing.atEnd⟩
      rw [handleCommand, hrefusal]
      exact ⟨_, (sendKeepAlive_opens hqueueing' hopen _).after hfirst,
        fun hresign => by cases hresign⟩
  | resign =>
    by_cases hresigning : d.resigning = true
    · refine hcalmly ?_
      rw [handleCommand, if_pos hresigning]
      exact answer_calmly d _ _
    · obtain ⟨reply, hopens⟩ := resign_opens hqueueing hopen true
      rw [handleCommand, if_neg hresigning]
      exact ⟨_, hopens, fun _ => ⟨Bool.eq_false_of_not_eq_true hresigning, rfl⟩⟩
  | setJoinerHandler handler =>
    exact hcalmly (.of_eq (.of_eq rfl rfl) (List.append_nil _).symm
      (List.forall_mem_nil _) rfl rfl rfl rfl)

/-- Dropping the last handle resigns, unless the session does so already. -/
theorem dropHandles_opens (h : Sound d) (hopen : d.isClosed = false) :
    ∃ reply, Opens (.resign reply) d d.dropHandles := by
  have hqueueing := queueing_of_controlled h.control
  have hfirst : Calmly d { d with handlesDropped := true } :=
    .of_eq (.of_eq rfl rfl) (List.append_nil _).symm (List.forall_mem_nil _)
      rfl rfl rfl rfl
  unfold dropHandles
  dsimp only
  split
  · exact ⟨none, hfirst.opens _⟩
  · have hqueueing' : Queueing { d with handlesDropped := true } :=
      ⟨hqueueing.callers, hqueueing.atEnd⟩
    obtain ⟨reply, hopens⟩ := resign_opens hqueueing' hopen false
    exact ⟨reply, hopens.after hfirst⟩

end Driver

end Meshcop
