/-
  Meshcop.Driver.Lifecycle — the life of a session.

  The status takes only the allowed turns, and once the session has ended nothing of it is
  left.  A reply channel is a resource that is spent once: it waits at hand, in flight or in the
  queue, or its waiter has been told.  So whoever was waiting at the end hears of it once.

  Main results:
    * `Move.load_le`      — no move uses a reply channel twice;
    * `Move.traceStep`    — what a move adds to the history of the status and of the events;
    * `session_lifecycle` — the life of a session, over any run.
-/

import Mathlib.Data.List.Chain
import Meshcop.Driver.Accounts
import Meshcop.Driver.RunMoves

namespace Meshcop

open Lib SessionCore Completion

/-! ## §1. What a history says. -/

namespace Action

def status? : Action → Option SessionStatus
  | .statusSet status => some status
  | _ => none

def event? : Action → Option CommissionerEvent
  | .published event => some event
  | _ => none

/-- Whether a waiter was told on this channel. -/
def isDeliveredOn (channel : Nat) : Action → Bool
  | .delivered waiter _ => waiter.channel = some channel
  | _ => false

/-- Actions that set no status, publish nothing and end nothing. -/
def isPlain : Action → Bool
  | .statusSet _ | .published _ | .ended _ _ => false
  | _ => true

end Action

/-- The statuses that were set, in order. -/
def statuses (trace : List Action) : List SessionStatus := trace.filterMap Action.status?

/-- The events that were published, in order. -/
def events (trace : List Action) : List CommissionerEvent := trace.filterMap Action.event?

@[simp] theorem statuses_append (first second : List Action) :
    statuses (first ++ second) = statuses first ++ statuses second := List.filterMap_append

@[simp] theorem events_append (first second : List Action) :
    events (first ++ second) = events first ++ events second := List.filterMap_append

/-- Plain actions leave no trace of status, events or an end. -/
theorem of_plain {actions : List Action} (h : ∀ action ∈ actions, action.isPlain = true) :
    statuses actions = [] ∧ events actions = [] ∧
      ∀ reason waiters, Action.ended reason waiters ∉ actions := by
  refine ⟨?_, ?_, ?_⟩
  · refine List.filterMap_eq_nil_iff.mpr ?_
    intro action hmem
    have hplain := h action hmem
    cases action with
    | statusSet => cases hplain
    | _ => rfl
  · refine List.filterMap_eq_nil_iff.mpr ?_
    intro action hmem
    have hplain := h action hmem
    cases action with
    | published => cases hplain
    | _ => rfl
  · intro reason waiters hmem
    cases h _ hmem

theorem plain_tell (completion : Completion) (reply : Reply) :
    ∀ action ∈ completion.tell reply, action.isPlain = true := by
  intro action hmem
  rw [mem_tell hmem]
  rfl

theorem plain_tellFailed (error : Error) (completions : List Completion) :
    ∀ action ∈ tellFailed error completions, action.isPlain = true := by
  intro action hmem
  obtain ⟨completion, -, rfl⟩ := mem_tellFailed hmem
  rfl

/-- Failing the exchanges of an unpetitioned session sets the status once for each petition. -/
theorem statuses_tellIdle (error : Error) (completions : List Completion) :
    statuses (tellIdle error completions) =
      List.replicate (completions.countP isPetition) .connected := by
  induction completions with
  | nil => rfl
  | cons completion completions ih =>
    have hsplit : tellIdle error (completion :: completions) =
        ((if completion.isPetition then [.statusSet .connected] else []) ++
          completion.tell (completion.failedReply error)) ++ tellIdle error completions := rfl
    have htell := (of_plain (plain_tell completion (completion.failedReply error))).1
    rw [hsplit, statuses_append, statuses_append, htell, ih, List.countP_cons]
    by_cases hpetition : completion.isPetition = true
    · rw [if_pos hpetition, if_pos hpetition, List.replicate_succ]
      rfl
    · rw [if_neg hpetition, if_neg hpetition]
      rfl

/-! ## §2. What a move adds to a history. -/

/-- The turns a status can take. -/
inductive SessionStatus.Follows : SessionStatus → SessionStatus → Prop
  | petition : Follows .connected .petitioning
  | refuse : Follows .petitioning .connected
  | grant (sessionId : UInt16) : Follows .petitioning (.active sessionId)
  | idle : Follows .connected .idle
  | idlePetition : Follows .petitioning .idle
  | reopen : Follows .idle .connected
  | close (status : SessionStatus) (reason : CloseReason) : status.isClosed = false →
      Follows status (.closed reason)

/-- What the end of a session adds to the history. -/
def SessionCore.endActions (c : SessionCore) (reason : CloseReason) : List Action :=
  .ended reason c.tabled :: .statusSet (.closed reason) ::
    (tellFailed reason.error c.tabled ++ reason.loss)

/-- The effect of a move on the status, with the actions it logs. -/
inductive TraceStep (c c' : SessionCore) (actions : List Action) : Prop
  | plain : (∀ action ∈ actions, action.isPlain = true) → c'.status = c.status →
      TraceStep c c' actions
  | event (event : CommissionerEvent) : actions = [.published event] →
      event.isSessionLost = false → c.isClosed = false → c'.status = c.status →
      TraceStep c c' actions
  | turned (first second : List Action) (status : SessionStatus) :
      actions = first ++ .statusSet status :: second →
      (∀ action ∈ first ++ second, action.isPlain = true) → c.status.Follows status →
      status.isClosed = false → c'.status = status → TraceStep c c' actions
  /-- The border agent closed the session under a petition. -/
  | gaveUp : actions = tellIdle (.sessionLost .peerClosed) c.tabled ++ [.statusSet .idle] →
      statuses actions = [.connected, .idle] → c.status = .petitioning → c'.status = .idle →
      TraceStep c c' actions
  | ended (reason : CloseReason) : actions = c.endActions reason → c.isClosed = false →
      c'.status = .closed reason → TraceStep c c' actions

/-- A petition at hand is the one that the status speaks of. -/
theorem Controlled.petitioning_of_held {c : SessionCore} (h : Controlled c) {channel : Nat}
    (hhand : c.hand = .held (.petition channel)) (hopen : c.isClosed = false) :
    c.status = .petitioning := by
  refine (h.petitioning hopen).mp ?_
  have hle := h.petitions
  rw [Controlled.live_of_held hhand] at hle ⊢
  simp only [isPetition, if_true] at hle ⊢
  omega

/-- Closing an unpetitioned session. -/
theorem Controlled.idleStep {c : SessionCore} (h : Controlled c) (hhand : c.hand = .empty)
    (hopen : c.isClosed = false) (hsession : c.status.sessionId = none)
    (hlink : c.linkOpen = true) :
    TraceStep c c.idled (tellIdle (.sessionLost .peerClosed) c.tabled ++ [.statusSet .idle]) := by
  have hnotIdle : c.status ≠ .idle := (h.link.mp hlink).1
  have hcount : c.tabled.countP isPetition = c.live isPetition := by
    have hqueued : (c.queued.map Prod.snd).countP isPetition = 0 := by
      rw [List.countP_eq_zero]
      intro completion hmem hpetition
      obtain ⟨entry, hentry, rfl⟩ := List.mem_map.mp hmem
      have hcaller := h.callers entry hentry
      rw [controlKind_isPetition _ hcaller] at hpetition
      cases hpetition
    rw [tabled, List.countP_append, hqueued, List.countP_map, Controlled.live_of_empty hhand]
    rfl
  have hstatuses := statuses_tellIdle (.sessionLost .peerClosed) c.tabled
  rw [hcount] at hstatuses
  have hpetitioning := h.petitioning hopen
  have hle := h.petitions
  cases hstatus : c.status with
  | connected =>
    have hnone : c.live isPetition = 0 := by
      by_contra hlive
      have hone : c.live isPetition = 1 := by omega
      cases hstatus.symm.trans (hpetitioning.mp hone)
    refine .turned (tellIdle (.sessionLost .peerClosed) c.tabled) [] .idle rfl ?_ ?_ rfl rfl
    · intro action hmem
      rw [List.append_nil] at hmem
      rcases mem_tellIdle hmem with rfl | ⟨completion, -, rfl⟩
      · -- no petition is outstanding, so no status is set on the way
        rw [hnone] at hstatuses
        have hset : SessionStatus.connected ∈
            statuses (tellIdle (.sessionLost .peerClosed) c.tabled) :=
          List.mem_filterMap.mpr ⟨_, hmem, rfl⟩
        rw [hstatuses] at hset
        cases hset
      · rfl
    · rw [hstatus]
      exact .idle
  | petitioning =>
    refine .gaveUp rfl ?_ hstatus rfl
    rw [statuses_append, hstatuses, hpetitioning.mpr hstatus]
    rfl
  | idle => exact absurd hstatus hnotIdle
  | active sessionId =>
    rw [hstatus] at hsession
    cases hsession
  | closed reason =>
    rw [isClosed, hstatus] at hopen
    cases hopen

/-- **What a move adds to the history of the status and of the events.** -/
theorem Move.traceStep {c c' : SessionCore} (hcontrol : Controlled c) (h : Move c c') :
    ∃ actions, c'.trace = c.trace ++ actions ∧ TraceStep c c' actions := by
  have hnil : c.trace = c.trace ++ [] := (List.append_nil _).symm
  have hnone : ∀ action ∈ ([] : List Action), action.isPlain = true := List.forall_mem_nil _
  have hone : ∀ {action : Action}, action.isPlain = true →
      ∀ other ∈ [action], other.isPlain = true := by
    intro action hplain other hmem
    rw [List.mem_singleton.mp hmem]
    exact hplain
  cases h with
  | tick | relay | touch | pop | giveUp | launch | take | keepAlive | resign | dropped | discard
  | expire => exact ⟨[], hnil, .plain hnone rfl⟩
  | retransmit | withdrawQueued | withdrawInFlight | withdrawNothing | transmit | remember =>
    exact ⟨[_], rfl, .plain (hone rfl) rfl⟩
  | note action hneutral hopen =>
    refine ⟨[action], rfl, ?_⟩
    cases action with
    | published event =>
      have hevent : event.isSessionLost = false := by simpa [Action.neutral] using hneutral
      exact .event event rfl hevent (hopen rfl) rfl
    | statusSet | ended => cases hneutral
    | _ => exact .plain (hone rfl) rfl
  | deliver completion reply _ _ => exact ⟨_, rfl, .plain (plain_tell completion reply) rfl⟩
  | kept channel keepAliveAt reply _ _ => exact ⟨_, rfl, .plain (plain_tell _ reply) rfl⟩
  | petition _ hstatus =>
    refine ⟨[.statusSet .petitioning], rfl, .turned [] [] .petitioning rfl hnone ?_ rfl rfl⟩
    rw [hstatus]
    exact .petition
  | refused channel reply hhand hopen =>
    refine ⟨_, rfl, .turned [] [.delivered (.petition channel) reply] .connected rfl (hone rfl)
      ?_ rfl rfl⟩
    rw [hcontrol.petitioning_of_held hhand hopen]
    exact .refuse
  | granted channel sessionId keepAliveAt reply hhand hopen =>
    refine ⟨_, rfl, .turned [] [.delivered (.petition channel) reply] (.active sessionId) rfl
      (hone rfl) ?_ rfl rfl⟩
    rw [hcontrol.petitioning_of_held hhand hopen]
    exact .grant sessionId
  | reopen hopen hlink =>
    refine ⟨_, rfl, .turned [.reopened] [] .connected rfl (hone rfl) ?_ rfl rfl⟩
    have hidle : c.status = .idle := by
      by_contra hbusy
      cases hlink.symm.trans (hcontrol.link.mpr ⟨hbusy, hopen⟩)
    rw [hidle]
    exact .reopen
  | idle hhand hopen hsession _ hlink =>
    exact ⟨_, rfl, hcontrol.idleStep hhand hopen hsession hlink⟩
  | endSession reason hopen => exact ⟨_, rfl, .ended reason rfl hopen rfl⟩

theorem Intake.traceStep {id? : Option UInt64} {c c' : SessionCore} (h : Intake id? c c') :
    ∃ actions, c'.trace = c.trace ++ actions ∧ TraceStep c c' actions := by
  cases h with
  | answer | accept =>
    refine ⟨[_], rfl, .plain ?_ rfl⟩
    intro action hmem
    rw [List.mem_singleton.mp hmem]
    rfl

/-! ## §3. The history of a session. -/

theorem SessionStatus.Follows.isOpen {status status' : SessionStatus} (h : status.Follows status') :
    status.isClosed = false := by
  cases h with
  | close _ _ hopen => exact hopen
  | _ => rfl

/-- What a waiter hears when the session ends is an error. -/
theorem Completion.isError_failedReply (completion : Completion) (error : Error) :
    (completion.failedReply error).isError = true := by
  cases completion <;> rfl

/-- The events at the end: the loss, unless the application resigned. -/
def CloseReason.lossEvents (reason : CloseReason) : List CommissionerEvent :=
  if reason = .resigned then [] else [.sessionLost reason]

theorem CloseReason.events_loss (reason : CloseReason) : events reason.loss = reason.lossEvents := by
  unfold CloseReason.loss CloseReason.lossEvents
  split <;> rfl

theorem SessionCore.events_endActions (c : SessionCore) (reason : CloseReason) :
    events (c.endActions reason) = reason.lossEvents := by
  have htold := (of_plain (plain_tellFailed reason.error c.tabled)).2.1
  show events (tellFailed reason.error c.tabled ++ reason.loss) = _
  rw [events_append, htold, reason.events_loss]
  rfl

theorem SessionCore.statuses_endActions (c : SessionCore) (reason : CloseReason) :
    statuses (c.endActions reason) = [.closed reason] := by
  have htold := (of_plain (plain_tellFailed reason.error c.tabled)).1
  have hloss : statuses reason.loss = [] := by
    unfold CloseReason.loss
    split <;> rfl
  show .closed reason :: statuses (tellFailed reason.error c.tabled ++ reason.loss) = _
  rw [statuses_append, htold, hloss]
  rfl

/-- The history agrees with the status. -/
structure Chronicle (c : SessionCore) : Prop where
  chain : List.IsChain SessionStatus.Follows (.connected :: statuses c.trace)
  last : (.connected :: statuses c.trace).getLast? = some c.status
  running : c.isClosed = false → ∀ event ∈ events c.trace, event.isSessionLost = false
  ended : ∀ reason, c.status = .closed reason →
    (∃ waiters, .ended reason waiters ∈ c.trace) ∧ ∃ before,
      events c.trace = before ++ reason.lossEvents ∧
        ∀ event ∈ before, event.isSessionLost = false
  told : ∀ reason waiters, .ended reason waiters ∈ c.trace → ∀ waiter ∈ waiters,
    waiter.channel.isSome = true →
      ∃ reply, .delivered waiter reply ∈ c.trace ∧ reply.isError = true

namespace Chronicle

variable {c c' : SessionCore} {actions : List Action}

/-- The status turns as allowed. -/
theorem chain_append (h : Chronicle c) {turns : List SessionStatus}
    (hturns : List.IsChain SessionStatus.Follows (c.status :: turns)) :
    List.IsChain SessionStatus.Follows (.connected :: (statuses c.trace ++ turns)) := by
  rw [← List.cons_append, List.isChain_append]
  refine ⟨h.chain, hturns.tail, ?_⟩
  intro last hlast next hnext
  have hlast : last = c.status := by
    rw [h.last] at hlast
    exact (Option.mem_some_iff.mp hlast).symm
  rw [hlast]
  cases turns with
  | nil => cases hnext
  | cons turn turns =>
    cases hnext
    exact hturns.rel

/-- The waiters of an earlier end stay told, and those of a new one are told. -/
theorem told_append (h : Chronicle c) (htrace : c'.trace = c.trace ++ actions)
    (hnew : ∀ reason waiters, .ended reason waiters ∈ actions → ∀ waiter ∈ waiters,
      waiter.channel.isSome = true →
        ∃ reply, .delivered waiter reply ∈ actions ∧ reply.isError = true) :
    ∀ reason waiters, .ended reason waiters ∈ c'.trace → ∀ waiter ∈ waiters,
      waiter.channel.isSome = true →
        ∃ reply, .delivered waiter reply ∈ c'.trace ∧ reply.isError = true := by
  intro reason waiters hmem waiter hwaiter hchannel
  rw [htrace] at hmem ⊢
  rcases List.mem_append.mp hmem with hold | hnewly
  · obtain ⟨reply, hdelivered, herror⟩ := h.told reason waiters hold waiter hwaiter hchannel
    exact ⟨reply, List.mem_append_left _ hdelivered, herror⟩
  · obtain ⟨reply, hdelivered, herror⟩ := hnew reason waiters hnewly waiter hwaiter hchannel
    exact ⟨reply, List.mem_append_right _ hdelivered, herror⟩

/-- A move that publishes nothing and does not end the session. -/
theorem turn (h : Chronicle c) (htrace : c'.trace = c.trace ++ actions)
    (hevents : events actions = []) (hnotEnded : ∀ reason waiters, .ended reason waiters ∉ actions)
    (turns : List SessionStatus) (hstatuses : statuses actions = turns)
    (hturns : List.IsChain SessionStatus.Follows (c.status :: turns))
    (hlast : (c.status :: turns).getLast? = some c'.status)
    (hstays : c'.isClosed = c.isClosed) (hreason : c.isClosed = true → c'.status = c.status) :
    Chronicle c' := by
  have hall : events c'.trace = events c.trace := by rw [htrace, events_append, hevents, List.append_nil]
  constructor
  · rw [htrace, statuses_append, hstatuses]
    exact h.chain_append hturns
  · rw [htrace, statuses_append, hstatuses]
    cases turns with
    | nil => rw [List.append_nil, h.last, ← hlast]; rfl
    | cons turn turns =>
      rw [← hlast, ← List.cons_append, List.getLast?_append, List.getLast?_cons_cons]
      rw [List.getLast?_cons]
      rfl
  · intro hopen event hmem
    rw [hall] at hmem
    exact h.running (hstays.symm.trans hopen) event hmem
  · intro reason hstatus
    have hclosed : c.isClosed = true := by
      rw [← hstays, isClosed, hstatus]
      rfl
    obtain ⟨⟨waiters, hlogged⟩, hbefore⟩ := h.ended reason ((hreason hclosed).symm.trans hstatus)
    rw [hall, htrace]
    exact ⟨⟨waiters, List.mem_append_left _ hlogged⟩, hbefore⟩
  · exact h.told_append htrace (fun reason waiters hmem => absurd hmem (hnotEnded reason waiters))

theorem traceStep (h : Chronicle c) (htrace : c'.trace = c.trace ++ actions)
    (hstep : TraceStep c c' actions) : Chronicle c' := by
  cases hstep with
  | plain hplain hstatus =>
    obtain ⟨hstatuses, hevents, hnotEnded⟩ := of_plain hplain
    refine h.turn htrace hevents hnotEnded [] hstatuses (List.isChain_singleton _) ?_ ?_
      (fun _ => hstatus)
    · rw [hstatus]
      rfl
    · exact congrArg SessionStatus.isClosed hstatus
  | event event hactions hnotLost hopen hstatus =>
    subst hactions
    have hstays : c'.isClosed = c.isClosed := congrArg SessionStatus.isClosed hstatus
    constructor
    · rw [htrace, statuses_append]
      exact h.chain_append (List.isChain_singleton _)
    · rw [htrace, statuses_append, hstatus]
      exact (congrArg List.getLast? (List.append_nil _)).trans h.last
    · intro _ other hmem
      rw [htrace, events_append] at hmem
      rcases List.mem_append.mp hmem with hmem | hmem
      · exact h.running hopen other hmem
      · rw [List.mem_singleton.mp hmem]
        exact hnotLost
    · intro reason hclosed
      rw [← hstays, isClosed, hclosed] at hopen
      cases hopen
    · refine h.told_append htrace ?_
      intro reason waiters hmem
      cases List.mem_singleton.mp hmem
  | turned first second status hactions hplain hfollows hopen hstatus =>
    obtain ⟨hfirst, hfirst', hfirstEnd⟩ :=
      of_plain (fun action hmem => hplain action (List.mem_append_left _ hmem))
    obtain ⟨hsecond, hsecond', hsecondEnd⟩ :=
      of_plain (fun action hmem => hplain action (List.mem_append_right _ hmem))
    have hwas : c.isClosed = false := hfollows.isOpen
    have hstays : c'.isClosed = c.isClosed := by
      rw [hwas, isClosed, hstatus, hopen]
    refine h.turn htrace ?_ ?_ [status] ?_ (List.isChain_pair.mpr hfollows) ?_ hstays ?_
    · rw [hactions, events_append, hfirst']
      exact hsecond'
    · intro reason waiters hmem
      rw [hactions] at hmem
      rcases List.mem_append.mp hmem with hmem | hmem
      · exact hfirstEnd reason waiters hmem
      · rcases List.mem_cons.mp hmem with hfalse | hmem
        · cases hfalse
        · exact hsecondEnd reason waiters hmem
    · rw [hactions, statuses_append, hfirst]
      exact congrArg (status :: ·) hsecond
    · rw [hstatus]
      rfl
    · intro hclosed
      cases hwas.symm.trans hclosed
  | gaveUp hactions hstatuses hpetitioning hstatus =>
    have hstays : c'.isClosed = c.isClosed := by
      rw [isClosed, isClosed, hstatus, hpetitioning]
      rfl
    have hmem : ∀ action ∈ actions, (∃ status, action = .statusSet status) ∨
        ∃ completion reply, action = .delivered completion reply := by
      intro action hmem
      rw [hactions] at hmem
      rcases List.mem_append.mp hmem with htold | hidle
      · rcases mem_tellIdle htold with hset | ⟨completion, -, hdelivered⟩
        · exact Or.inl ⟨_, hset⟩
        · exact Or.inr ⟨completion, _, hdelivered⟩
      · exact Or.inl ⟨_, List.mem_singleton.mp hidle⟩
    refine h.turn htrace ?_ ?_ _ hstatuses ?_ ?_ hstays ?_
    · refine List.filterMap_eq_nil_iff.mpr ?_
      intro action haction
      rcases hmem action haction with ⟨status, rfl⟩ | ⟨completion, reply, rfl⟩ <;> rfl
    · intro reason waiters hended
      rcases hmem _ hended with ⟨status, hfalse⟩ | ⟨completion, reply, hfalse⟩ <;> cases hfalse
    · rw [hpetitioning]
      exact List.isChain_cons_cons.mpr ⟨.refuse, List.isChain_pair.mpr .idle⟩
    · rw [hstatus]
      rfl
    · intro hclosed
      rw [isClosed, hpetitioning] at hclosed
      cases hclosed
  | ended reason hactions hopen hstatus =>
    subst hactions
    constructor
    · rw [htrace, statuses_append, c.statuses_endActions]
      exact h.chain_append (List.isChain_pair.mpr (.close _ reason hopen))
    · rw [htrace, statuses_append, c.statuses_endActions, hstatus, ← List.cons_append,
        List.getLast?_append]
      rfl
    · intro hfalse
      rw [isClosed, hstatus] at hfalse
      cases hfalse
    · intro reason' hstatus'
      cases hstatus.symm.trans hstatus'
      refine ⟨⟨c.tabled, ?_⟩, events c.trace, ?_, h.running hopen⟩
      · rw [htrace]
        exact List.mem_append_right _ List.mem_cons_self
      · rw [htrace, events_append, c.events_endActions]
    · refine h.told_append htrace ?_
      intro reason' waiters hmem waiter hwaiter hchannel
      rcases List.mem_cons.mp hmem with hended | hmem
      · cases hended
        refine ⟨waiter.failedReply reason.error, ?_, waiter.isError_failedReply _⟩
        refine List.mem_cons_of_mem _ (List.mem_cons_of_mem _ (List.mem_append_left _ ?_))
        refine List.mem_flatMap.mpr ⟨waiter, hwaiter, ?_⟩
        rw [Completion.tell, if_pos hchannel]
        exact List.mem_singleton.mpr rfl
      · rcases List.mem_cons.mp hmem with hfalse | hmem
        · cases hfalse
        · rcases List.mem_append.mp hmem with htold | hloss
          · obtain ⟨completion, -, hfalse⟩ := mem_tellFailed htold
            cases hfalse
          · cases CloseReason.mem_loss hloss

/-- **Every move keeps the history in agreement with the status.** -/
theorem step (h : Controlled c ∧ Chronicle c) (hmove : Move c c') :
    Controlled c' ∧ Chronicle c' := by
  obtain ⟨actions, htrace, hstep⟩ := hmove.traceStep h.1
  exact ⟨h.1.step hmove, h.2.traceStep htrace hstep⟩

theorem intake {id? : Option UInt64} (h : Controlled c ∧ Chronicle c)
    (hintake : Intake id? c c') : Controlled c' ∧ Chronicle c' := by
  obtain ⟨actions, htrace, hstep⟩ := hintake.traceStep
  exact ⟨h.1.intake hintake, h.2.traceStep htrace hstep⟩

end Chronicle

/-! ## §4. Reply channels are spent once. -/

def Completion.waitsOn (channel : Nat) (completion : Completion) : Bool :=
  completion.channel = some channel

namespace SessionCore

variable (c : SessionCore) (channel : Nat)

/-- How many outstanding exchanges answer on this channel. -/
def waiting : Nat :=
  c.hand.completions.countP (waitsOn channel) +
    c.inFlight.countP (fun pending => pending.completion.waitsOn channel) +
    c.queued.countP (fun entry => entry.2.waitsOn channel)

/-- How often the waiter on this channel was told. -/
def told : Nat := c.trace.countP (Action.isDeliveredOn channel)

/-- The uses of a channel, made and to come; a channel not yet handed out has one to come. -/
def load : Nat := c.waiting channel + c.told channel + if channel < c.nextChannel then 0 else 1

/-- The uses of a channel are the account of those who wait on it. -/
theorem load_eq : c.load channel =
      c.account (waitsOn channel) + if channel < c.nextChannel then 0 else 1 := by
  have htold : Action.isDeliveredOn channel = Action.isDeliveredTo (waitsOn channel) := by
    funext action
    cases action <;> rfl
  rw [load, told, htold]
  rfl

variable {c channel} {c' : SessionCore}

/-- No channel is handed out, and no new exchange waits on this one. -/
theorem load_le_of_kept {started : List Completion} (haccount : c'.account (waitsOn channel) ≤
      c.account (waitsOn channel) + started.countP (waitsOn channel))
    (hstarted : started.countP (waitsOn channel) = 0)
    (hnext : c'.nextChannel = c.nextChannel) : c'.load channel ≤ c.load channel := by
  rw [load_eq, load_eq, hnext]
  omega

/-- The next channel is handed out to the one new exchange. -/
theorem load_le_of_next {started : List Completion} (haccount : c'.account (waitsOn channel) ≤
      c.account (waitsOn channel) + started.countP (waitsOn channel))
    (hlength : started.length ≤ 1)
    (hstarted : ∀ completion ∈ started, completion.channel = some c.nextChannel)
    (hnext : c'.nextChannel = c.nextChannel + 1) : c'.load channel ≤ c.load channel := by
  rw [load_eq, load_eq, hnext]
  by_cases hchannel : channel = c.nextChannel
  · -- the one use that was to come
    have hone := Nat.le_trans (List.countP_le_length (p := waitsOn channel)) hlength
    rw [if_pos (by omega), if_neg (by omega)]
    omega
  have hnone : started.countP (waitsOn channel) = 0 := by
    rw [List.countP_eq_zero]
    intro completion hmem hwaits
    rw [waitsOn, hstarted completion hmem] at hwaits
    exact hchannel (Option.some.inj (of_decide_eq_true hwaits)).symm
  split <;> split <;> omega

end SessionCore

/-- **No move uses a reply channel twice**: a waiter goes from table to table, is told, or is
    dropped, and a new one gets a new channel. -/
theorem Move.load_le {c c' : SessionCore} (h : Move c c') (channel : Nat) :
    c'.load channel ≤ c.load channel := by
  obtain ⟨started, hstarted, haccount⟩ := h.account
  cases hstarted with
  | none hnext => exact load_le_of_kept (haccount _) rfl hnext
  | control completion waiter _ hchannel hnext =>
    cases waiter with
    | false =>
      refine load_le_of_kept (haccount _) ?_ hnext
      rw [List.countP_singleton, waitsOn, hchannel]
      rfl
    | true =>
      refine load_le_of_next (haccount _) (Nat.le_refl _) ?_ hnext
      intro started hmem
      rw [List.mem_singleton.mp hmem]
      exact hchannel

theorem Intake.load_le {id? : Option UInt64} {c c' : SessionCore} (h : Intake id? c c')
    (channel : Nat) : c'.load channel ≤ c.load channel := by
  obtain ⟨hnext, accepted, haccepted, hlength, haccount⟩ := h.account
  refine load_le_of_next (haccount _) hlength ?_ hnext
  intro completion hmem
  obtain ⟨id, _, rfl, _⟩ := haccepted completion hmem
  rfl

/-! ## §5. The life of a session. -/

namespace Driver

variable {env : Env}

theorem run_chronicle (rng : env.crypto.Rng) (wakes : List (Wake env)) :
    Chronicle (((Driver.new rng).run wakes).core .empty) := by
  have hnew : Chronicle ((Driver.new rng).core .empty) := by
    constructor
    · exact List.isChain_singleton _
    · rfl
    · intro _ event hmem
      cases hmem
    · intro reason hfalse
      cases hfalse
    · intro reason waiters hmem
      cases hmem
  exact (run_invariant (fun _ _ => Chronicle.step) (fun _ _ _ => Chronicle.intake) (new_sound rng)
    ⟨(new_sound rng).control, hnew⟩ wakes).2.2

/-- In any run a reply channel is used at most once. -/
theorem run_load_le (rng : env.crypto.Rng) (wakes : List (Wake env)) (channel : Nat) :
    (((Driver.new rng).run wakes).core .empty).load channel ≤ 1 := by
  have hnew : ((Driver.new rng).core .empty).load channel ≤ 1 := by
    show 0 + 0 + 0 + 0 + (if channel < 0 then 0 else 1) ≤ 1
    rw [if_neg (Nat.not_lt_zero channel)]
  exact (run_invariant (I := fun c => c.load channel ≤ 1)
    (fun _ _ h hmove => Nat.le_trans (Move.load_le hmove channel) h)
    (fun _ _ _ h hintake => Nat.le_trans (Intake.load_le hintake channel) h) (new_sound rng) hnew
    wakes).2

/-- The driver has left its loop once the session has ended. -/
theorem run_of_closed {d : Driver env} (h : d.isClosed = true) (wakes : List (Wake env)) :
    d.run wakes = d := by
  induction wakes with
  | nil => rfl
  | cons wake wakes ih =>
    have hstep : d.step wake = d := by
      rw [step, h]
      rfl
    show (d.step wake).run wakes = d
    rw [hstep]
    exact ih

/-- **The life of a session.**  Over any run the status takes only the allowed turns, ends for
    good, and leaves nothing behind; whoever was waiting at the end hears of it once, by an
    error; and the loss is the last event, unless the application resigned. -/
theorem session_lifecycle (rng : env.crypto.Rng) (wakes : List (Wake env)) :
    let d := (Driver.new rng).run wakes
    (List.IsChain SessionStatus.Follows (.connected :: statuses d.trace) ∧
      (.connected :: statuses d.trace).getLast? = some d.status) ∧
    (∀ reason, d.status = .closed reason →
      (∀ more, (d.run more).status = .closed reason) ∧
      d.inFlight = [] ∧ d.queued = [] ∧ d.keepAliveAt = none ∧ d.joinerSessions = [] ∧
      d.linkOpen = false ∧
      (∃ waiters, .ended reason waiters ∈ d.trace) ∧
      ∃ before, events d.trace = before ++ reason.lossEvents ∧
        ∀ event ∈ before, event.isSessionLost = false) ∧
    (d.isClosed = false → ∀ event ∈ events d.trace, event.isSessionLost = false) ∧
    (∀ reason waiters, .ended reason waiters ∈ d.trace → ∀ waiter ∈ waiters, ∀ channel,
      waiter.channel = some channel → ∃ reply, reply.isError = true ∧
        d.trace.filter (Action.isDeliveredOn channel) = [.delivered waiter reply]) := by
  have hcontrol := (run_sound rng wakes).control
  have hchronicle := run_chronicle rng wakes
  have hload := run_load_le rng wakes
  generalize (Driver.new rng).run wakes = d at hcontrol hchronicle hload
  dsimp only
  refine ⟨⟨hchronicle.chain, hchronicle.last⟩, ?_, hchronicle.running, ?_⟩
  · intro reason hstatus
    have hclosed : d.isClosed = true := by
      rw [isClosed, hstatus]
      rfl
    obtain ⟨hflight, hqueued, hjoiners⟩ := hcontrol.atEnd hclosed
    obtain ⟨hlogged, hevents⟩ := hchronicle.ended reason hstatus
    refine ⟨?_, hflight, hqueued, ?_, ?_, ?_, hlogged, hevents⟩
    · intro more
      rw [run_of_closed hclosed]
      exact hstatus
    · cases hat : d.keepAliveAt with
      | none => rfl
      | some keepAliveAt =>
        have hactive := (hcontrol.scheduled (congrArg Option.isSome hat)).1
        have hactive : d.status.sessionId.isSome = true := hactive
        rw [hstatus] at hactive
        cases hactive
    · have hjoiners : (!d.joinerSessions.isEmpty) = false := hjoiners
      simpa using hjoiners
    · cases hlink : d.linkOpen with
      | false => rfl
      | true => cases (hcontrol.link.mp hlink).2.symm.trans hclosed
  · intro reason waiters hended waiter hwaiter channel hchannel
    obtain ⟨reply, hdelivered, herror⟩ :=
      hchronicle.told reason waiters hended waiter hwaiter (congrArg Option.isSome hchannel)
    refine ⟨reply, herror, filter_eq_singleton hdelivered (decide_eq_true hchannel) ?_⟩
    have hload : _ + d.trace.countP (Action.isDeliveredOn channel) + _ ≤ 1 := hload channel
    omega

end Driver

end Meshcop
