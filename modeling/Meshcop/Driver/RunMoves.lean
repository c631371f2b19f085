/-
  Meshcop.Driver.RunMoves — the driver's loop, as moves of the session.

  Every iteration of the loop is a sequence of moves from an empty hand to an empty hand, with
  at most one intake among them, and leaves the queue settled.  So what every move keeps holds
  in every state that the driver is in between two wakes, whatever woke it and whatever the
  outside did.

  Main results:
    * `step_serves`            — one iteration;
    * `run_invariant`          — what moves keep, runs keep;
    * `run_sound`              — what holds between two wakes;
    * `session_control_agrees` — the session-control exchanges, the status, the keep-alive timer,
      the link and the flag for dropped handles agree.
-/

import Meshcop.Driver.IncomingMoves

namespace Meshcop

open Lib

/-- The id of the request that a command is. -/
def Command.requestId? {env : Env} : Command env → Option UInt64
  | .exchange id _ => some id
  | _ => none

/-- The id of the request that a wake brings. -/
def Wake.requestId? {env : Env} : Wake env → Option UInt64
  | .command request => request.requestId?
  | _ => none

namespace Driver

variable {env : Env}

/-- What holds of a driver between two wakes. -/
structure Sound (d : Driver env) : Prop where
  control : Controlled (d.core .empty)
  record : Record (d.core .empty)
  settled : d.Settled

/-- One piece of work of the driver, from an empty hand to an empty hand. -/
structure Works (d d' : Driver env) : Prop where
  moves : Moves (d.core .empty) (d'.core .empty)
  settled : d'.Settled

variable {d : Driver env}

theorem Works.refl (hsettled : d.Settled) : Works d d := ⟨.refl, hsettled⟩

variable {d' : Driver env}

theorem Sound.after (h : Sound d) (hworks : Works d d') : Sound d' where
  control := hworks.moves.invariant (fun _ _ => Controlled.step) h.control
  record := hworks.moves.invariant (fun _ _ => Record.step) h.record
  settled := hworks.settled

/-- One iteration of the loop: work, at most one intake, and work again. -/
structure Serves (id? : Option UInt64) (d d' : Driver env) : Prop where
  moves : ∃ c₁ c₂, Moves (d.core .empty) c₁ ∧ (c₂ = c₁ ∨ Intake id? c₁ c₂) ∧
    Moves c₂ (d'.core .empty)
  settled : d'.Settled

theorem Works.serves (h : Works d d') (id? : Option UInt64) : Serves id? d d' :=
  ⟨⟨_, _, h.moves, Or.inl rfl, .refl⟩, h.settled⟩

variable {id? : Option UInt64}

/-- Work that ends with an answer at once. -/
theorem Works.answer (h : Works d d') {waiter : Nat → Completion} (reply : Reply)
    (hid : ∀ channel id, (waiter channel).isCaller id = true → id? = some id) :
    Serves id? d (d'.answer waiter reply) :=
  ⟨⟨_, _, h.moves, Or.inr (.answer waiter reply hid), .refl⟩, h.settled⟩

/-- **What every move and every intake keeps, every iteration keeps.** -/
theorem Serves.invariant {I : SessionCore → Prop} (h : Serves id? d d')
    (hmove : ∀ c c', I c → Move c c' → I c') (hintake : ∀ c c', I c → Intake id? c c' → I c')
    (hstart : I (d.core .empty)) : I (d'.core .empty) := by
  obtain ⟨⟨c₁, c₂, hbefore, hmiddle, hafter⟩, -⟩ := h
  have hc₁ : I c₁ := hbefore.invariant hmove hstart
  refine hafter.invariant hmove ?_
  rcases hmiddle with rfl | hintaken
  · exact hc₁
  · exact hintake c₁ c₂ hc₁ hintaken

theorem Sound.served (h : Sound d) (hserves : Serves id? d d') : Sound d' where
  control := hserves.invariant (fun _ _ => Controlled.step) (fun _ _ => Controlled.intake) h.control
  record := hserves.invariant (fun _ _ => Record.step) (fun _ _ => Record.intake) h.record
  settled := hserves.settled

/-! ## §1. Commands. -/

/-- Reopening the link, if it is closed. -/
theorem ensureOpen_moves (h : Sound d) (hopen : d.isClosed = false) : wp ensureOpen
      (fun _ d' => Works d d' ∧ d'.isClosed = false ∧ (d.status = .idle → d'.status = .connected) ∧
        (d.status ≠ .idle → d'.status = d.status))
      (fun _ d' => Works d d') d := by
  have hlinked := h.control.link
  simp only [ensureOpen, wp_bind, wp_get]
  split
  · rename_i hlink
    refine ⟨.refl h.settled, hopen, fun hidle => ?_, fun _ => rfl⟩
    exact absurd hidle (hlinked.mp hlink).1
  rename_i hlink
  have hlink : d.linkOpen = false := Bool.eq_false_iff.mpr hlink
  have hidle : d.status = .idle := by
    by_contra hbusy
    cases hlink.symm.trans (hlinked.mpr ⟨hbusy, hopen⟩)
  simp only [wp_bind, wp_modify]
  split
  · exact ⟨.refl, h.settled⟩
  simp only [wp_bind, wp_modify]
  refine ⟨⟨?_, h.settled⟩, rfl, fun _ => rfl, fun hbusy => absurd hidle hbusy⟩
  have hmove := Move.reopen (c := d.core .empty) hopen hlink
  simpa [core, SessionCore.did, setStatus, forgetBorderAgent, log] using
    Relation.ReflTransGen.single hmove

/-- The request of a session-control exchange is started; if it cannot be built, the exchange
    fails. -/
theorem control_works {d₀ : Driver env} {completion : Completion} (h : Sound d₀)
    (hmove : Move (d₀.core .empty) (d.core (.unsent completion))) (hopen : d.isClosed = false)
    (hkind : completion.isApplication = false) (hsettled : d.Settled)
    (request : Except Error CoapMessage) : Works d₀ (match request with
        | .error error => d.complete completion (.error error)
        | .ok request => d.start (controlRequest request) completion) := by
  have hcontrol := h.control.step hmove
  cases request with
  | error error =>
    have hgiveUp : Move (d.core (.unsent completion)) (d.core (.held completion)) :=
      .giveUp completion rfl
    obtain ⟨hmoves, hafter⟩ :=
      complete_moves (hcontrol.step hgiveUp) (.error error) (fun _ => ⟨error, rfl⟩)
    exact ⟨.head hmove (.head hgiveUp hmoves), hafter (Or.inr hsettled)⟩
  | ok request =>
    obtain ⟨hmoves, hafter⟩ := start_moves hcontrol hopen hkind request
    exact ⟨.head hmove hmoves, hafter hsettled⟩

theorem petition_serves (h : Sound d) (hopen : d.isClosed = false) : Serves none d d.petition := by
  have hnobody : ∀ channel id, (Completion.petition channel).isCaller id = true →
      (none : Option UInt64) = some id := by
    intro channel id hfalse
    cases hfalse
  unfold petition
  cases hrefusal : petitionRefusal d.status with
  | some refusal => exact (Works.refl h.settled).answer _ hnobody
  | none =>
    have hreopened := ensureOpen_moves h hopen
    unfold wp at hreopened
    dsimp only
    cases hresult : ensureOpen d with
    | error error d₁ =>
      rw [hresult] at hreopened
      exact hreopened.answer _ hnobody
    | ok _ d₁ =>
      rw [hresult] at hreopened
      obtain ⟨hworks, hopen₁, hidle, hbusy⟩ := hreopened
      have hconnected : d₁.status = .connected := by
        cases hstatus : d.status with
        | connected => exact (hbusy (by rw [hstatus]; intro h; cases h)).trans hstatus
        | idle => exact hidle hstatus
        | petitioning => rw [hstatus] at hrefusal; cases hrefusal
        | active sessionId => rw [hstatus] at hrefusal; cases hrefusal
        | closed reason => rw [hstatus] at hrefusal; cases hrefusal
      have hsound := h.after hworks
      dsimp only
      cases petitionRequest 0 [] env.config.commissionerId with
      | error error => exact hworks.answer _ hnobody
      | ok request =>
        have hmove : Move (d₁.core .empty) ((({ d₁ with
            nextChannel := d₁.nextChannel + 1 } : Driver env).setStatus .petitioning).core
              (.unsent (.petition d₁.nextChannel))) := .petition rfl hconnected
        have hstarted := control_works hsound hmove rfl rfl hsound.settled (.ok request)
        exact Works.serves ⟨hworks.moves.trans hstarted.moves, hstarted.settled⟩ none

/-- Sending a keep-alive when none is outstanding; `waiter` is whether somebody waits for it. -/
theorem sendKeepAlive_works (h : Sound d) (hactive : d.sessionId.isSome = true)
    (hnone : d.inFlight.countP (fun pending => pending.completion.isKeepAlive) = 0)
    (waiter : Bool) : Works d (sendKeepAlive
      { d with nextChannel := if waiter then d.nextChannel + 1 else d.nextChannel }
      (.keepAlive (if waiter then some d.nextChannel else none))) := by
  have hopen : d.isClosed = false := by
    unfold sessionId at hactive
    unfold isClosed
    cases hstatus : d.status <;> rw [hstatus] at hactive <;> first | rfl | cases hactive
  obtain ⟨sessionId, hsession⟩ := Option.isSome_iff_exists.mp hactive
  have hmove : Move (d.core .empty) (({ d with
      keepAliveAt := none
      nextChannel := if waiter then d.nextChannel + 1 else d.nextChannel } : Driver env).core
        (.unsent (.keepAlive (if waiter then some d.nextChannel else none)))) :=
    .keepAlive waiter rfl hactive hnone
  have hsession' : sessionId ∈ (({ d with
      nextChannel := if waiter then d.nextChannel + 1 else d.nextChannel } : Driver env).sessionId) :=
    hsession
  unfold sendKeepAlive
  rw [hsession']
  exact control_works h hmove hopen rfl h.settled (keepAliveRequest 0 [] sessionId true)

/-- Resigning an active session; `dropped` is whether every handle was dropped. -/
theorem resignActive_works (h : Sound d) {sessionId : UInt16}
    (hsession : d.sessionId = some sessionId) (hnone : d.resigning = false)
    (waiter dropped : Bool) :
    Works d (resignActive { d with handlesDropped := d.handlesDropped || dropped } sessionId
      waiter) := by
  have hopen : d.isClosed = false := by
    unfold Driver.sessionId at hsession
    unfold isClosed
    cases hstatus : d.status <;> rw [hstatus] at hsession <;> first | rfl | cases hsession
  have hcount : d.inFlight.countP (fun pending => pending.completion.isResign) = 0 := by
    rw [List.countP_eq_zero]
    intro pending hmem hresign
    exact Bool.eq_false_iff.mp hnone (List.any_eq_true.mpr ⟨pending, hmem, hresign⟩)
  have hactive : d.status.sessionId.isSome = true := by
    rw [Driver.sessionId] at hsession
    rw [hsession]
    rfl
  have hmove : Move (d.core .empty) (({ d with
      keepAliveAt := none
      nextChannel := if waiter then d.nextChannel + 1 else d.nextChannel
      handlesDropped := d.handlesDropped || dropped } : Driver env).core
        (.unsent (.resign (if waiter then some d.nextChannel else none)))) :=
    .resign waiter dropped rfl hactive hcount
  exact control_works h hmove hopen rfl h.settled (keepAliveRequest 0 [] sessionId false)

/-- Ending the session, whatever is outstanding. -/
theorem endSession_works (h : Sound d) (reason : CloseReason) : Works d (d.endSession reason) := by
  obtain ⟨hmoves, -, hsettled⟩ := endSession_moves d .empty reason
  exact ⟨hmoves, hsettled h.settled⟩

theorem handleCommand_serves (h : Sound d) (hopen : d.isClosed = false) (command : Command env) :
    Serves command.requestId? d (d.handleCommand command) := by
  have hidle : Works d d := .refl h.settled
  cases command with
  | exchange id request =>
    have hown : ∀ channel id', (Completion.caller id channel).isCaller id' = true →
        some id = some id' := by
      intro channel id' hcaller
      exact congrArg some (of_decide_eq_true hcaller)
    rw [handleCommand]
    split
    · exact hidle.answer _ hown
    have hreopened := ensureOpen_moves h hopen
    unfold wp at hreopened
    cases hresult : ensureOpen d with
    | error error d₁ =>
      rw [hresult] at hreopened
      exact hreopened.answer _ hown
    | ok _ d₁ =>
      rw [hresult] at hreopened
      obtain ⟨hworks, hopen₁, -, -⟩ := hreopened
      obtain ⟨c, hintake, hmoves, hsettled⟩ :=
        submit_moves (h.after hworks).control hopen₁ id request
      exact ⟨⟨_, c, hworks.moves, Or.inr hintake, hmoves⟩, hsettled⟩
  | withdraw id =>
    obtain ⟨⟨c, hwithdraw, -, hmoves⟩, hsettled⟩ := withdraw_moves h.control h.settled id
    exact Works.serves ⟨.head hwithdraw hmoves, hsettled⟩ none
  | petition => exact petition_serves h hopen
  | keepAlive =>
    rw [handleCommand]
    cases hrefusal : d.keepAliveRefusal with
    | some refusal => exact hidle.answer _ (fun channel id hfalse => by cases hfalse)
    | none =>
      unfold keepAliveRefusal at hrefusal
      split at hrefusal
      · cases hrefusal
      rename_i hactive
      split at hrefusal
      · cases hrefusal
      split at hrefusal
      · cases hrefusal
      rename_i hnone
      refine (sendKeepAlive_works h (Option.isSome_iff_ne_none.mpr hactive) ?_ true).serves none
      rw [List.countP_eq_zero]
      intro pending hmem hkeepAlive
      exact hnone (List.any_eq_true.mpr ⟨pending, hmem, hkeepAlive⟩)
  | resign =>
    rw [handleCommand]
    split
    · exact hidle.answer _ (fun channel id hfalse => by cases hfalse)
    rename_i hresigning
    unfold resign
    cases hsession : d.sessionId with
    | none =>
      have hnobody : ∀ channel id, (Completion.resign (some channel)).isCaller id = true →
          (none : Option UInt64) = some id := by
        intro channel id hfalse
        cases hfalse
      exact (endSession_works h .resigned).answer (.resign (.ok ())) hnobody
    | some sessionId =>
      have hworks := resignActive_works h hsession (Bool.eq_false_iff.mpr hresigning) true false
      rw [Bool.or_false] at hworks
      exact hworks.serves none
  | setJoinerHandler handler =>
    have hworks : Works d (d.handleCommand (.setJoinerHandler handler)) :=
      ⟨.single (.relay _ hopen), h.settled⟩
    exact hworks.serves none

theorem dropHandles_works (h : Sound d) (hopen : d.isClosed = false) : Works d d.dropHandles := by
  unfold dropHandles
  dsimp only
  split
  · rename_i hresigning
    refine ⟨.single (.dropped (Or.inr ?_)), h.settled⟩
    rw [List.countP_pos_iff]
    obtain ⟨pending, hmem, hresign⟩ := List.any_eq_true.mp hresigning
    exact ⟨pending, hmem, hresign⟩
  · rename_i hresigning
    unfold resign
    cases hsession : d.sessionId with
    | none =>
      have hsession' : sessionId { d with handlesDropped := true } = none := hsession
      rw [hsession', endSession_eq (d := { d with handlesDropped := true }) hopen]
      exact ⟨.tail (.single (.endSession .resigned hopen)) (.dropped (Or.inl rfl)), Or.inr rfl⟩
    | some sessionId =>
      have hsession' : Driver.sessionId { d with handlesDropped := true } = some sessionId :=
        hsession
      have hworks := resignActive_works h hsession (Bool.eq_false_iff.mpr hresigning) false true
      rw [Bool.or_true] at hworks
      rw [hsession']
      exact hworks

/-! ## §2. The other wakes. -/

/-- Failing the outstanding exchanges of an unpetitioned session tells their waiters, and a
    failed petition leaves `Petitioning`. -/
theorem foldl_complete_idle (hopen : d.isClosed = false) (hqueued : d.queued = []) (fuel : Nat)
    (error : Error) {completions : List Completion} (hkinds : ∀ completion ∈ completions,
      completion.isKeepAlive = false ∧ completion.isResign = false) :
    ∃ status : SessionStatus, status.isClosed = false ∧ completions.foldl
        (fun d completion => completeWithin (fuel + 2) d completion (.error error)) d =
      { d.logs (tellIdle error completions) with status } := by
  induction completions generalizing d with
  | nil => exact ⟨d.status, hopen, by simp [tellIdle, logs]⟩
  | cons completion completions ih =>
    have hrest : ∀ other ∈ completions, other.isKeepAlive = false ∧ other.isResign = false :=
      fun other hmem => hkinds other (List.mem_cons_of_mem _ hmem)
    obtain ⟨hkeepAlive, hresign⟩ := hkinds completion List.mem_cons_self
    rw [List.foldl_cons]
    cases completion with
    | keepAlive reply => cases hkeepAlive
    | resign reply => cases hresign
    | caller id channel =>
      have hfirst : completeWithin (fuel + 2) d (.caller id channel) (.error error) =
          d.logs ((Completion.caller id channel).tell (.exchange (.error error))) := by
        simp only [completeWithin]
        rw [deliver_eq_logs, sendQueuedWithin_of_nil (d := d.logs _) hqueued]
      obtain ⟨status, hstatus, hfold⟩ := ih
        (d := d.logs ((Completion.caller id channel).tell (.exchange (.error error)))) hopen hqueued
        hrest
      refine ⟨status, hstatus, ?_⟩
      rw [hfirst, hfold, logs_logs]
      rfl
    | petition channel =>
      have hfirst : completeWithin (fuel + 2) d (.petition channel) (.error error) =
          { d.logs ([.statusSet .connected] ++
              (Completion.petition channel).tell (.petition (.error error))) with
            status := .connected } := by
        simp only [completeWithin, petitionOutcome, hopen, Bool.false_eq_true, if_false]
        rw [deliver_eq_logs]
        show logs (logs { d with status := .connected } [.statusSet .connected]) _ = _
        rw [logs_logs]
        rfl
      obtain ⟨status, hstatus, hfold⟩ := ih (d := { d.logs ([.statusSet .connected] ++
          (Completion.petition channel).tell (.petition (.error error))) with
            status := .connected }) rfl hqueued hrest
      refine ⟨status, hstatus, ?_⟩
      rw [hfirst, hfold]
      show ({ logs (logs d _) (tellIdle error completions) with status } : Driver env) = _
      rw [logs_logs]
      rfl

/-- The session control exchanges of an unpetitioned session are petitions. -/
theorem Sound.unpetitioned (h : Sound d) (hopen : d.isClosed = false)
    (hsession : d.sessionId = none) : ∀ completion ∈ d.drain.1,
      completion.isKeepAlive = false ∧ completion.isResign = false := by
  have hidle : (d.core .empty).live Completion.isKeepAlive = 0 ∧
      (d.core .empty).live Completion.isResign = 0 := by
    by_contra hlive
    have hactive : d.sessionId.isSome = true := h.control.active hopen (by omega)
    rw [hsession] at hactive
    cases hactive
  rw [Controlled.live_of_empty rfl, Controlled.live_of_empty rfl] at hidle
  intro completion hmem
  rcases List.mem_append.mp hmem with hmem | hmem
  · obtain ⟨pending, hpending, rfl⟩ := List.mem_map.mp hmem
    exact ⟨Bool.eq_false_iff.mpr (List.countP_eq_zero.mp hidle.1 pending hpending),
      Bool.eq_false_iff.mpr (List.countP_eq_zero.mp hidle.2 pending hpending)⟩
  · obtain ⟨entry, hentry, rfl⟩ := List.mem_map.mp hmem
    have hcaller := h.control.callers entry hentry
    cases hkind : entry.2 <;> rw [hkind] at hcaller <;> first | exact ⟨rfl, rfl⟩ | cases hcaller

/-- A connect-only session that goes idle fails what is outstanding and closes the link. -/
theorem goIdle_eq (h : Sound d) (hopen : d.isClosed = false) (hsession : d.sessionId = none) :
    ∃ status, d.goIdle = setStatus { d.logs (tellIdle (.sessionLost .peerClosed) d.drain.1) with
      linkOpen := false, inFlight := [], queued := [], status } .idle := by
  obtain ⟨status, -, hfold⟩ := foldl_complete_idle (d := { d with
    linkOpen := false, inFlight := [], queued := [] }) hopen rfl (4 * d.queued.length + 5)
    (.sessionLost .peerClosed) (h.unpetitioned hopen hsession)
  refine ⟨status, ?_⟩
  unfold goIdle failAll
  have hdepth : depth { d with linkOpen := false } = 4 * d.queued.length + 7 + 1 := rfl
  rw [hdepth, failAllWithin]
  exact congrArg (fun d => setStatus d .idle) hfold

/-- The border agent closed a connect-only session. -/
theorem goIdle_works (h : Sound d) (hopen : d.isClosed = false) (hsession : d.sessionId = none)
    (hhandles : d.handlesDropped = false) (hlink : d.linkOpen = true) : Works d d.goIdle := by
  obtain ⟨status, hgone⟩ := goIdle_eq h hopen hsession
  rw [hgone]
  refine ⟨?_, Or.inr rfl⟩
  have hmove := Move.idle (c := d.core .empty) rfl hopen hsession hhandles hlink
  simpa [core, SessionCore.idled, SessionCore.did, SessionCore.tabled, setStatus, log, logs, drain]
    using Relation.ReflTransGen.single hmove

theorem receiveFailed_works (h : Sound d) (hopen : d.isClosed = false) (hlink : d.linkOpen = true)
    (error : Error) : Works d (d.receiveFailed error) := by
  unfold receiveFailed
  split
  · split
    · rename_i hidle
      exact goIdle_works h hopen hidle.1 hidle.2 hlink
    · exact endSession_works h _
  · exact endSession_works h _

theorem handleDatagram_works (h : Sound d) (hopen : d.isClosed = false)
    (hlink : d.linkOpen = true) (plaintext : Bytes) : Works d (d.handleDatagram plaintext) := by
  have hrouted := handleDatagram_routed plaintext h.record.plain hlink hopen
  split at hrouted
  · rw [hrouted]
    exact .refl h.settled
  · obtain ⟨hmoves, hsettled⟩ := hrouted.moves h.control h.settled hopen
    exact ⟨hmoves, hsettled⟩

theorem runTimers_works (h : Sound d) : Works d d.runTimers := by
  obtain ⟨hmoves, hsettled⟩ := runExchangeTimers_moves h.control h.settled
  have hworks : Works d d.runExchangeTimers := ⟨hmoves, hsettled⟩
  unfold runTimers
  dsimp only
  generalize d.runExchangeTimers = d₁ at hworks
  split
  · exact hworks
  cases hat : d₁.keepAliveAt with
  | none => exact hworks
  | some keepAliveAt =>
    have hread : Works d d₁.readClock :=
      ⟨hworks.moves.tail (.tick _ (Nat.le_add_right _ _)), hworks.settled⟩
    dsimp only
    split
    · obtain ⟨hactive, hlive⟩ := (h.after hworks).control.scheduled (by
        show d₁.keepAliveAt.isSome = true
        rw [hat]
        rfl)
      rw [Controlled.live_of_empty rfl] at hlive
      have hsent := sendKeepAlive_works (h.after hread) hactive hlive false
      exact ⟨hread.moves.trans hsent.moves, hsent.settled⟩
    · exact hread

/-! ## §3. The loop. -/

/-- **One iteration of the loop, in moves.** -/
theorem step_serves (h : Sound d) (wake : Wake env) : Serves wake.requestId? d (d.step wake) := by
  unfold step
  split
  · exact (Works.refl h.settled).serves _
  rename_i henabled
  simp only [Bool.or_eq_true, not_or, Bool.not_eq_true, Bool.not_eq_false'] at henabled
  obtain ⟨hopen, henabled⟩ := henabled
  cases wake with
  | command command => exact handleCommand_serves h hopen command
  | handlesDropped => exact (dropHandles_works h hopen).serves none
  | received result =>
    cases result with
    | ok plaintext => exact (handleDatagram_works h hopen henabled plaintext).serves none
    | error error => exact (receiveFailed_works h hopen henabled error).serves none
  | timer => exact (runTimers_works h).serves none

theorem new_sound (rng : env.crypto.Rng) : Sound (Driver.new rng) where
  control := by constructor <;> simp [core, Driver.new, SessionCore.live, Hand.completions,
    SessionCore.isClosed, SessionStatus.isClosed]
  record := by constructor <;> simp [core, Driver.new, MAX_REMEMBERED]
  settled := Or.inr rfl

/-- **What every move and every intake keeps holds in any run.** -/
theorem run_invariant {I : SessionCore → Prop} (hmove : ∀ c c', I c → Move c c' → I c')
    (hintake : ∀ id? c c', I c → Intake id? c c' → I c') (hsound : Sound d)
    (hstart : I (d.core .empty)) (wakes : List (Wake env)) :
    Sound (d.run wakes) ∧ I ((d.run wakes).core .empty) := by
  induction wakes generalizing d with
  | nil => exact ⟨hsound, hstart⟩
  | cons wake wakes ih =>
    have hserves := step_serves hsound wake
    exact ih (hsound.served hserves) (hserves.invariant hmove (hintake _) hstart)

/-- What holds in every state between two wakes. -/
theorem run_sound (rng : env.crypto.Rng) (wakes : List (Wake env)) :
    Sound ((Driver.new rng).run wakes) :=
  (run_invariant (fun _ _ => Controlled.step) (fun _ _ _ => Controlled.intake) (new_sound rng)
    (new_sound rng).control wakes).1

theorem isSome_sessionId {status : SessionStatus} (h : status.sessionId.isSome = true) :
    ∃ sessionId, status = .active sessionId := by
  cases status with
  | active sessionId => exact ⟨sessionId, rfl⟩
  | _ => cases h

theorem isClosed_eq_true_iff (status : SessionStatus) :
    status.isClosed = true ↔ ∃ reason, status = .closed reason := by
  cases status <;> simp [SessionStatus.isClosed]

theorem isClosed_eq_false_iff (status : SessionStatus) :
    status.isClosed = false ↔ ∀ reason, status ≠ .closed reason := by
  cases status <;> simp [SessionStatus.isClosed]

/-- **Session control.**  In every state that a run reaches between two wakes, each of the
    session-control exchanges is in flight at most once, and the status, the keep-alive timer,
    the link and the flag for dropped handles agree with them. -/
theorem session_control_agrees (rng : env.crypto.Rng) (wakes : List (Wake env)) :
    let d := (Driver.new rng).run wakes
    let inFlight := fun kind : Completion → Bool =>
      d.inFlight.countP (fun pending => kind pending.completion)
    (inFlight Completion.isPetition ≤ 1 ∧ inFlight Completion.isKeepAlive ≤ 1 ∧
      inFlight Completion.isResign ≤ 1) ∧
    (0 < inFlight Completion.isPetition ↔ d.status = .petitioning) ∧
    (0 < inFlight Completion.isKeepAlive ∨ 0 < inFlight Completion.isResign →
      ∃ sessionId, d.status = .active sessionId) ∧
    (d.keepAliveAt.isSome = true →
      (∃ sessionId, d.status = .active sessionId) ∧ inFlight Completion.isKeepAlive = 0) ∧
    (d.linkOpen = true ↔ d.status ≠ .idle ∧ ∀ reason, d.status ≠ .closed reason) ∧
    (d.handlesDropped = true →
      (∃ reason, d.status = .closed reason) ∨ 0 < inFlight Completion.isResign) := by
  have h := (run_sound rng wakes).control
  generalize (Driver.new rng).run wakes = d at h
  have hpetitions := h.petitions
  have hkeepAlives := h.keepAlives
  have hresigns := h.resigns
  have hscheduled := h.scheduled
  have hdropped := h.dropped
  have hpetitioning := h.petitioning
  have hactive := h.active
  rw [Controlled.live_of_empty rfl] at hpetitions hkeepAlives hresigns hscheduled hdropped hpetitioning
  rw [Controlled.live_of_empty rfl, Controlled.live_of_empty rfl] at hactive
  dsimp only
  refine ⟨⟨hpetitions, hkeepAlives, hresigns⟩, ?_, ?_, ?_, ?_, ?_⟩
  · cases hclosed : d.isClosed with
    | false =>
      refine Iff.trans ?_ (hpetitioning hclosed)
      exact ⟨fun hpos => Nat.le_antisymm hpetitions hpos,
        fun hone => Nat.lt_of_lt_of_eq Nat.one_pos hone.symm⟩
    | true =>
      -- after the end nothing is in flight
      have hnone : d.inFlight = [] := (h.atEnd hclosed).1
      rw [hnone]
      refine ⟨fun hfalse => absurd hfalse (Nat.lt_irrefl 0), fun hstatus => ?_⟩
      rw [isClosed, hstatus] at hclosed
      cases hclosed
  · intro hlive
    refine isSome_sessionId (hactive ?_ ?_)
    · cases hclosed : d.isClosed with
      | false => exact hclosed
      | true =>
        have hnone : d.inFlight = [] := (h.atEnd hclosed).1
        rw [hnone] at hlive
        exact absurd (hlive.elim id id) (Nat.lt_irrefl 0)
    · have hpos : 0 < d.inFlight.countP (fun pending => pending.completion.isKeepAlive) +
          d.inFlight.countP (fun pending => pending.completion.isResign) := by omega
      exact hpos
  · intro hat
    exact ⟨isSome_sessionId (hscheduled hat).1, (hscheduled hat).2⟩
  · exact h.link.trans (and_congr_right (fun _ => isClosed_eq_false_iff d.status))
  · intro hhandles
    exact (hdropped hhandles).imp_left (isClosed_eq_true_iff d.status).mp

end Driver

end Meshcop
