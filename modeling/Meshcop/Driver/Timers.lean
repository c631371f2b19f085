/-
  Meshcop.Driver.Timers — the timers of the exchanges in flight.

  A run of the driver is a sequence of strides: work outside the timers, or one request that is
  sent again because its retry time has come.  What an exchange's timers do over its life is read
  off the strides; what one pass of `run_exchange_timers` does to the whole table is an induction
  over its loop, whose table loses entries and gains others while it is walked.

  Main results:
    * `exchangeTimersFrom_swept` — one pass: what stays, what times out, what is sent again;
    * `run_strides`              — every run is a sequence of strides;
    * `exchange_timers`          — the timers of every exchange, over any run.
-/

import Meshcop.Driver.Outcomes
import Meshcop.Driver.Passage
import Meshcop.Lib.Runs

namespace Meshcop

open Lib

/-! ## §1. The timers of one exchange. -/

namespace Pending

/-- An exchange whose timers can run: while it is to be sent again it has a schedule with a
    timeout, and its request can be put on the wire. -/
structure Timed (p : Pending) : Prop where
  armed : p.retryAt.isSome = true → ∃ schedule, p.retransmit = some schedule ∧
    schedule.retransmissions < COAP_MAX_RETRANSMIT ∧ 0 < schedule.timeout
  sendable : p.Sendable

/-- How often the request was sent again. -/
def spent (p : Pending) : Nat :=
  match p.retransmit with
  | none => 0
  | some schedule => schedule.retransmissions

variable {p : Pending}

theorem Begun.timed {low high : Nat} {actions : List Action} (h : p.Begun low high actions) :
    p.Timed where
  armed := by
    intro hsome
    obtain ⟨schedule, hschedule⟩ := Option.isSome_iff_exists.mp (h.armed hsome)
    obtain ⟨hnone, hpositive⟩ := h.schedule schedule hschedule
    exact ⟨schedule, hschedule, by rw [hnone]; decide, hpositive⟩
  sendable := h.sendable

theorem Timed.eases {q : Pending} (h : p.Timed) (heases : p.Eases q) : q.Timed := by
  cases heases with
  | same => exact h
  | acknowledged =>
    refine ⟨?_, h.sendable⟩
    intro hsome
    cases hsome

theorem retransmitted_same (now : Nat) (p : Pending) : (p.retransmitted now).request = p.request ∧
      (p.retransmitted now).destination = p.destination ∧
      (p.retransmitted now).deadline = p.deadline ∧
      (p.retransmitted now).completion = p.completion := by
  unfold retransmitted
  split <;> exact ⟨rfl, rfl, rfl, rfl⟩

/-- Sending a request again spends one retransmission; the next one, if any, is later. -/
theorem Timed.retransmitted (h : p.Timed) (hsome : p.retryAt.isSome = true) (now : Nat) :
    (p.retransmitted now).Timed ∧ (p.retransmitted now).spent = p.spent + 1 ∧
      p.spent < COAP_MAX_RETRANSMIT ∧ ∀ time ∈ (p.retransmitted now).retryAt, now < time := by
  obtain ⟨schedule, hschedule, hspent, hpositive⟩ := h.armed hsome
  have hcount : schedule.recordRetransmission.retransmissions = schedule.retransmissions + 1 := by
    show min (schedule.retransmissions + 1) 255 = _
    have hmax : COAP_MAX_RETRANSMIT = 2 := rfl
    omega
  have hretransmitted : p.retransmitted now = { p with
      retransmit := some schedule.recordRetransmission
      retryAt := schedule.recordRetransmission.nextTimeout.map (now + ·) } := by
    rw [Pending.retransmitted, hschedule]
  have hlonger : 0 < schedule.recordRetransmission.timeout := Nat.mul_pos hpositive (by decide)
  rw [hretransmitted]
  refine ⟨⟨?_, h.sendable⟩, ?_, ?_, ?_⟩
  · intro harmed
    refine ⟨_, rfl, ?_, hlonger⟩
    by_contra hover
    simp [CoapRetransmitSchedule.nextTimeout, hover] at harmed
  · rw [spent, spent, hschedule]
    exact hcount
  · rw [spent, hschedule]
    exact hspent
  · intro time htime
    obtain ⟨timeout, hnext, rfl⟩ := Option.map_eq_some_iff.mp htime
    unfold CoapRetransmitSchedule.nextTimeout at hnext
    split at hnext
    · cases hnext
      omega
    · cases hnext

/-- An exchange whose retry time has come. -/
def isDue (now : Nat) (p : Pending) : Bool := p.retryAt.any (· ≤ now)

/-- An exchange that a pass of the timers leaves in flight. -/
def passed (now : Nat) (p : Pending) : Pending :=
  if p.isDue now then p.retransmitted now else p

/-- An exchange whose deadline and retry time are later. -/
def IsLater (now : Nat) (p : Pending) : Prop := now < p.deadline ∧ ∀ time ∈ p.retryAt, now < time

variable {now : Nat}

theorem isSome_of_isDue (h : p.isDue now = true) : p.retryAt.isSome = true := by
  unfold isDue at h
  cases hretry : p.retryAt with
  | none =>
    rw [hretry] at h
    cases h
  | some time => rfl

theorem IsLater.isDue (h : p.IsLater now) : p.isDue now = false := by
  unfold Pending.isDue
  cases hretry : p.retryAt with
  | none => rfl
  | some time => exact decide_eq_false (Nat.not_le.mpr (h.2 time hretry))

theorem IsLater.passed (h : p.IsLater now) : p.passed now = p := by
  rw [Pending.passed, h.isDue]
  rfl

theorem Begun.isLater {low high : Nat} {actions : List Action} (h : p.Begun low high actions) :
    p.IsLater low :=
  ⟨Nat.lt_of_lt_of_le (Nat.lt_add_of_pos_right (by decide)) h.after, h.retry⟩

theorem Timed.passed_isLater (h : p.Timed) (halive : now < p.deadline) :
    (p.passed now).IsLater now := by
  unfold Pending.passed
  split
  · rename_i hdue
    refine ⟨?_, (h.retransmitted (isSome_of_isDue hdue) now).2.2.2⟩
    rw [(retransmitted_same now p).2.2.1]
    exact halive
  · rename_i hdue
    refine ⟨halive, fun time htime => ?_⟩
    by_contra hlate
    exact hdue (by rw [isDue, htime]; exact decide_eq_true (Nat.not_lt.mp hlate))

end Pending

/-- Whether an action sends a waiter's request again. -/
def Action.isRetransmissionOf (completion : Completion) : Action → Bool
  | .sent (.retransmission other) _ => other = completion
  | _ => false

namespace Driver

variable {env : Env}

/-! ## §2. Strides. -/

/-- **One stride of a run**, with what it adds to the history. -/
inductive Stride (d : Driver env) (actions : List Action) (d' : Driver env) : Prop
  /-- Work outside the timers. -/
  | passage : Passage d d' actions → Stride d actions d'
  /-- The request of an exchange is sent again. -/
  | again (before after : List Pending) (p : Pending) (now : Nat) (wire : CoapMessage) :
      d.inFlight = before ++ p :: after → p.retryAt.isSome = true →
      (∀ q ∈ before ++ after, q.completion ≠ p.completion) →
      Carries p.request p.destination wire →
      actions = [.sent (.retransmission p.completion) wire] → d'.trace = d.trace ++ actions →
      d'.inFlight = before ++ p.retransmitted now :: after → Clocked d d' →
      d'.linkOpen = d.linkOpen → d'.keepAliveAt = d.keepAliveAt → d'.status = d.status →
      Stride d actions d'

/-- A sequence of strides. -/
def Strides (d : Driver env) (labels : List (List Action)) (d' : Driver env) : Prop :=
  Run Stride d labels d'

variable {d d' : Driver env} {actions : List Action}

theorem Passage.strides (h : Passage d d' actions) :
    Strides d [actions] d' := Run.single (.passage h)

theorem Stride.trace (h : Stride d actions d') : d'.trace = d.trace ++ actions := by
  cases h with
  | passage hpassage => exact hpassage.trace
  | again _ _ _ _ _ _ _ _ _ _ htrace => exact htrace

theorem Stride.clocked (h : Stride d actions d') : Clocked d d' := by
  cases h with
  | passage hpassage => exact hpassage.toClocked
  | again _ _ _ _ _ _ _ _ _ _ _ _ hclocked => exact hclocked

variable {labels : List (List Action)}

theorem Strides.trace (h : Strides d labels d') : d'.trace = d.trace ++ labels.flatten := by
  refine Run.invariant (I := fun labels d' => d'.trace = d.trace ++ labels.flatten) h
    (List.append_nil _).symm ?_
  intro labels d₁ actions d₂ htrace hstride
  rw [hstride.trace, htrace, List.append_assoc, List.flatten_append, List.flatten_singleton]

theorem Strides.clocked (h : Strides d labels d') : Clocked d d' :=
  Run.invariant (I := fun _ d' => Clocked d d') h (.refl d) fun hclocked hstride =>
    hclocked.trans hstride.clocked

/-- The timers of all exchanges in flight. -/
structure Timed (d : Driver env) : Prop where
  exchanges : ∀ p ∈ d.inFlight, p.Timed
  deadlines : ∀ p ∈ d.inFlight, p.deadline ≤ d.world.now + COAP_EXCHANGE_TIMEOUT
  linked : d.inFlight ≠ [] → d.linkOpen = true
  sent : ∀ p ∈ d.inFlight, ∃ wire, .sent (.request p.completion) wire ∈ d.trace ∧
    Carries p.request p.destination wire

/-- A table in which one exchange changed. -/
theorem mem_replaced {table table' before after : List Pending} {p p' : Pending}
    (h : table = before ++ p :: after) (h' : table' = before ++ p' :: after) :
    p ∈ table ∧ ∀ q ∈ table', q = p' ∨ q ∈ before ++ after ∧ q ∈ table := by
  subst h h'
  refine ⟨List.mem_append_cons_self, fun q hq => ?_⟩
  rcases List.mem_cons.mp (List.perm_middle.mem_iff.mp hq) with hq | hq
  · exact Or.inl hq
  · exact Or.inr ⟨hq, List.perm_middle.mem_iff.mpr (List.mem_cons_of_mem _ hq)⟩

/-- Every stride keeps the timers in order. -/
theorem Stride.timed (h : Stride d actions d') (htimed : d.Timed) : d'.Timed := by
  have htrace := h.trace
  cases h with
  | passage hpassage =>
    refine ⟨?_, ?_, hpassage.linked htimed.linked, ?_⟩
    · intro p' hp'
      rcases hpassage.inFlight p' hp' with ⟨p, hp, heases⟩ | hbegun
      · exact (htimed.exchanges p hp).eases heases
      · exact hbegun.timed
    · intro p' hp'
      rcases hpassage.inFlight p' hp' with ⟨p, hp, heases⟩ | hbegun
      · have hdeadline : p'.deadline = p.deadline := by cases heases <;> rfl
        have hp := htimed.deadlines p hp
        have hnow := hpassage.now
        omega
      · exact hbegun.before
    · intro p' hp'
      rw [htrace]
      rcases hpassage.inFlight p' hp' with ⟨p, hp, heases⟩ | hbegun
      · obtain ⟨wire, hsent, hcarries⟩ := htimed.sent p hp
        refine ⟨wire, List.mem_append_left _ ?_, ?_⟩
        · cases heases <;> exact hsent
        · cases heases <;> exact hcarries
      · obtain ⟨wire, hsent, hcarries⟩ := hbegun.sent
        exact ⟨wire, List.mem_append_right _ hsent, hcarries⟩
  | again before after p now wire hflight hsome _ _ _ _ hflight' hclocked hlink _ _ =>
    obtain ⟨hp, hcases⟩ := mem_replaced hflight hflight'
    refine ⟨?_, ?_, ?_, ?_⟩
    · intro q hq
      rcases hcases q hq with rfl | ⟨-, hq⟩
      · exact ((htimed.exchanges p hp).retransmitted hsome now).1
      · exact htimed.exchanges q hq
    · intro q hq
      refine Nat.le_trans ?_ (Nat.add_le_add_right hclocked.now _)
      rcases hcases q hq with rfl | ⟨-, hq⟩
      · rw [(Pending.retransmitted_same now p).2.2.1]
        exact htimed.deadlines p hp
      · exact htimed.deadlines q hq
    · intro _
      rw [hlink]
      exact htimed.linked (List.ne_nil_of_mem hp)
    · intro q hq
      have hsent : ∃ wire, .sent (.request q.completion) wire ∈ d.trace ∧
          Carries q.request q.destination wire := by
        rcases hcases q hq with rfl | ⟨-, hq⟩
        · obtain ⟨hrequest, hdestination, -, hcompletion⟩ := Pending.retransmitted_same now p
          rw [hrequest, hdestination, hcompletion]
          exact htimed.sent p hp
        · exact htimed.sent q hq
      obtain ⟨wire, hsent, hcarries⟩ := hsent
      rw [htrace]
      exact ⟨wire, List.mem_append_left _ hsent, hcarries⟩

theorem Strides.timed (h : Strides d labels d') (htimed : d.Timed) : d'.Timed :=
  Run.invariant (I := fun _ d' => d'.Timed) h htimed fun htimed hstride => hstride.timed htimed

/-! ## §3. Exchanges that are sent again. -/

variable {p : Pending}

/-- The requests that were sent again. -/
def retransmissions (actions : List Action) : List (Completion × CoapMessage) :=
  actions.filterMap fun
    | .sent (.retransmission completion) message => some (completion, message)
    | _ => none

theorem retransmissions_append (first second : List Action) :
    retransmissions (first ++ second) = retransmissions first ++ retransmissions second :=
  List.filterMap_append

theorem retransmissions_eq_nil
    (h : ∀ completion message, .sent (.retransmission completion) message ∉ actions) :
    retransmissions actions = [] := by
  unfold retransmissions
  rw [List.filterMap_eq_nil_iff]
  intro action hmem
  split
  · rename_i completion message
    exact absurd hmem (h completion message)
  · rfl

/-- At most one exchange of a waiter is in flight. -/
theorem alone_of_controlled (h : Controlled (d.core .empty)) {before after : List Pending}
    (hflight : d.inFlight = before ++ p :: after) :
    ∀ q ∈ before ++ after, q.completion ≠ p.completion := by
  have hfew : ∀ kind : Completion → Bool,
      d.inFlight.countP (fun pending => kind pending.completion) ≤ 1 →
      kind p.completion = true → ∀ q ∈ before ++ after, q.completion ≠ p.completion := by
    intro kind hcount hkind q hq hsame
    rw [hflight, List.countP_append, List.countP_cons, if_pos hkind] at hcount
    have hnone : (before ++ after).countP (fun pending => kind pending.completion) = 0 := by
      rw [List.countP_append]
      omega
    have hfalse := List.countP_eq_zero.mp hnone q hq
    rw [hsame] at hfalse
    exact hfalse hkind
  have hpetitions := h.petitions
  have hkeepAlives := h.keepAlives
  have hresigns := h.resigns
  rw [Controlled.live_of_empty rfl] at hpetitions hkeepAlives hresigns
  cases hkind : p.completion with
  | caller => exact hkind ▸ hfew Completion.isApplication h.applications (by rw [hkind]; rfl)
  | petition => exact hkind ▸ hfew Completion.isPetition hpetitions (by rw [hkind]; rfl)
  | keepAlive => exact hkind ▸ hfew Completion.isKeepAlive hkeepAlives (by rw [hkind]; rfl)
  | resign => exact hkind ▸ hfew Completion.isResign hresigns (by rw [hkind]; rfl)

/-! ## §4. One pass. -/

/-- The error of an exchange that timed out. -/
def TIMED_OUT : Error := .timeout "MeshCoP exchange timed out"

/-- What a pass does to the exchanges that it has still to look at. -/
structure Swept (now : Nat) (done rest : List Pending) (d' : Driver env)
    (actions : List Action) : Prop where
  table : ∃ started, d'.inFlight =
      done ++ (rest.filter (now < ·.deadline)).map (Pending.passed now) ++ started ∧
    ∀ q ∈ started, q.Begun now d'.world.now actions
  expired : ∀ p ∈ rest, p.deadline ≤ now → p.completion.channel.isSome = true ∧
    .delivered p.completion (p.completion.failedReply TIMED_OUT) ∈ actions
  again : List.Forall₂ (fun p sent => sent.1 = p.completion ∧
      Carries p.request p.destination sent.2)
    (rest.filter fun p => now < p.deadline && p.isDue now) (retransmissions actions)

variable {now : Nat} {done rest : List Pending}

/-- The pass goes on behind an exchange that stays, sent again or not. -/
theorem Swept.keep {first : List Action} (h : Swept now (done ++ [p.passed now]) rest d' actions)
    (halive : now < p.deadline)
    (hagain : List.Forall₂ (fun p sent => sent.1 = p.completion ∧
        Carries p.request p.destination sent.2)
      ([p].filter (·.isDue now)) (retransmissions first)) :
    Swept now done (p :: rest) d' (first ++ actions) where
  table := by
    obtain ⟨started, htable, hbegun⟩ := h.table
    refine ⟨started, ?_, fun q hq => (hbegun q hq).mono (Nat.le_refl _) (Nat.le_refl _)
      fun _ hmem => List.mem_append_right _ hmem⟩
    rw [htable, List.filter_cons_of_pos (by simpa using halive), List.map_cons,
      List.append_assoc done [p.passed now]]
    rfl
  expired := by
    intro q hq hlate
    rcases List.mem_cons.mp hq with rfl | hq
    · exact absurd hlate (Nat.not_le.mpr halive)
    · obtain ⟨hchannel, hdelivered⟩ := h.expired q hq hlate
      exact ⟨hchannel, List.mem_append_right _ hdelivered⟩
  again := by
    have hfilter : (p :: rest).filter (fun p => now < p.deadline && p.isDue now) =
        [p].filter (·.isDue now) ++ rest.filter (fun p => now < p.deadline && p.isDue now) := by
      cases hdue : p.isDue now <;> simp [hdue, halive]
    rw [hfilter, retransmissions_append]
    exact List.rel_append hagain h.again

/-- The pass goes on behind an exchange that timed out and made room for others. -/
theorem Swept.expire {started : List Pending} {d₁ : Driver env} {first : List Action}
    (h : Swept now done (rest ++ started) d' actions) (hlate : p.deadline ≤ now)
    (hbegun : ∀ q ∈ started, q.Begun now d₁.world.now first) (hnow : d₁.world.now ≤ d'.world.now)
    (hdelivered : p.completion.channel.isSome = true ∧
      .delivered p.completion (p.completion.failedReply TIMED_OUT) ∈ first)
    (hunrepeated : ∀ completion message, .sent (.retransmission completion) message ∉ first) :
    Swept now done (p :: rest) d' (first ++ actions) where
  table := by
    obtain ⟨more, htable, hmore⟩ := h.table
    have hlater : ∀ q ∈ started, q.IsLater now := fun q hq => (hbegun q hq).isLater
    have hstarted : (started.filter (now < ·.deadline)).map (Pending.passed now) = started := by
      rw [List.filter_eq_self.mpr fun q hq => decide_eq_true (hlater q hq).1]
      exact (List.map_congr_left (g := id) fun q hq => (hlater q hq).passed).trans (List.map_id _)
    refine ⟨started ++ more, ?_, ?_⟩
    · rw [htable, List.filter_append, List.map_append, hstarted,
        List.filter_cons_of_neg (by simp [hlate])]
      simp only [List.append_assoc]
    · intro q hq
      rcases List.mem_append.mp hq with hq | hq
      · exact (hbegun q hq).mono (Nat.le_refl _) hnow fun _ hmem => List.mem_append_left _ hmem
      · exact (hmore q hq).mono (Nat.le_refl _) (Nat.le_refl _)
          fun _ hmem => List.mem_append_right _ hmem
  expired := by
    intro q hq hexpired
    rcases List.mem_cons.mp hq with rfl | hq
    · exact ⟨hdelivered.1, List.mem_append_left _ hdelivered.2⟩
    · obtain ⟨hchannel, hmem⟩ := h.expired q (List.mem_append_left _ hq) hexpired
      exact ⟨hchannel, List.mem_append_right _ hmem⟩
  again := by
    have hnone : (started.filter fun q => now < q.deadline && q.isDue now) = [] := by
      rw [List.filter_eq_nil_iff]
      intro q hq
      simp [(hbegun q hq).isLater.isDue]
    have hagain := h.again
    rw [List.filter_append, hnone, List.append_nil] at hagain
    rw [retransmissions_append, retransmissions_eq_nil hunrepeated, List.nil_append,
      List.filter_cons_of_neg (by simp [hlate])]
    exact hagain

/-- An expired exchange is taken out and completes, which may start others. -/
theorem expire_fills (hcontrol : Controlled (d.core .empty))
    (hflight : d.inFlight = done ++ p :: rest) (error : Error) :
    let d₁ := complete { d with inFlight := d.inFlight.eraseIdx done.length } p.completion
      (.error error)
    ∃ actions, Passage d d₁ actions ∧ Calm actions ∧ (d₁.isClosed = false →
      (∃ started, d₁.inFlight = done ++ (rest ++ started) ∧
        started.length + d₁.queued.length ≤ d.queued.length ∧
        ∀ q ∈ started, q.Begun d.world.now d₁.world.now actions) ∧
      p.completion.channel.isSome = true ∧
        .delivered p.completion (p.completion.failedReply error) ∈ actions) := by
  have herase : d.inFlight.eraseIdx done.length = done ++ rest := by
    rw [hflight, List.eraseIdx_append_of_length_le (Nat.le_refl _), Nat.sub_self]
    rfl
  have hqueueing : Queueing { d with inFlight := d.inFlight.eraseIdx done.length } :=
    ⟨(queueing_of_controlled hcontrol).callers, (queueing_of_controlled hcontrol).atEnd⟩
  obtain ⟨actions, hfills, -, hdelivered⟩ := complete_fills hqueueing p.completion (.error error)
  have hresign : p.completion.isResign = true → (complete { d with
      inFlight := d.inFlight.eraseIdx done.length } p.completion (.error error)).isClosed = true :=
    fun hkind => isClosed_complete_resign hkind _
  dsimp only
  generalize complete { d with inFlight := d.inFlight.eraseIdx done.length } p.completion
    (.error error) = d₁ at hfills hdelivered hresign
  have hpassage : Passage d d₁ actions :=
    hfills.passage.taken hflight herase (.of_eq rfl rfl) (List.append_nil _).symm
      (fun _ _ => List.not_mem_nil) rfl rfl rfl hresign
  refine ⟨actions, hpassage, calm_of_isMild hfills.mild, fun hopen => ⟨?_, hdelivered error rfl hopen⟩⟩
  rcases hfills.table with hclosed | ⟨started, htable, hlength, hbegun⟩
  · cases hopen.symm.trans hclosed
  · refine ⟨started, ?_, hlength, fun q hq => (hbegun q hq).1⟩
    rw [htable]
    show d.inFlight.eraseIdx done.length ++ started = _
    rw [herase, List.append_assoc]

theorem calm_again (completion : Completion) (wire : CoapMessage) :
    Calm [.sent (.retransmission completion) wire] := by
  intro other message hmem
  cases List.mem_singleton.mp hmem

/-- A due exchange is sent again, and its timers change; or the link fails. -/
theorem retransmit_strides (hcontrol : Controlled (d.core .empty)) (htimed : d.Timed)
    (hflight : d.inFlight = done ++ p :: rest) (hsome : p.retryAt.isSome = true) (now : Nat) :
    wp (retransmit p) (fun _ d' => ∃ wire, Carries p.request p.destination wire ∧
        Stride d [.sent (.retransmission p.completion) wire]
          { d' with inFlight := d'.inFlight.modify done.length (Pending.retransmitted now) } ∧
        d'.inFlight.modify done.length (Pending.retransmitted now) =
          done ++ p.retransmitted now :: rest)
      (fun error d' => isTransportError error = true ∧ ∃ labels,
        Strides d labels (d'.transportFailed error.display) ∧ Calm labels.flatten) d := by
  have hmem : p ∈ d.inFlight := by
    rw [hflight]
    exact List.mem_append_right _ List.mem_cons_self
  have hmodify : d.inFlight.modify done.length (Pending.retransmitted now) =
      done ++ p.retransmitted now :: rest := by
    rw [hflight, List.modify_eq_take_cons_drop (by simp)]
    simp
  have hagain : ∀ wire nextMessageId draws, Carries p.request p.destination wire →
      Stride d [.sent (.retransmission p.completion) wire]
        { (d.numbered nextMessageId draws).handed (.retransmission p.completion) wire with
          inFlight := done ++ p.retransmitted now :: rest } := by
    intro wire nextMessageId draws hcarries
    exact .again done rest p now wire hflight hsome (alone_of_controlled hcontrol hflight) hcarries
      rfl rfl rfl (.of_eq rfl rfl) rfl rfl rfl
  refine wp_mono (transmit_of_sendable (htimed.exchanges p hmem).sendable
    (.retransmission p.completion) (htimed.linked (List.ne_nil_of_mem hmem))) ?_ ?_
  · rintro _ _ ⟨-, wire, _, hcarries, ⟨nextMessageId, draws, rfl⟩, rfl⟩
    refine ⟨wire, hcarries, ?_, hmodify⟩
    show Stride d _ { (d.numbered nextMessageId draws).handed _ wire with
      inFlight := d.inFlight.modify done.length (Pending.retransmitted now) }
    rw [hmodify]
    exact hagain wire nextMessageId draws hcarries
  · rintro error _ ⟨⟨htransport, -⟩, wire, _, hcarries, ⟨nextMessageId, draws, rfl⟩, rfl⟩
    refine ⟨htransport, ?_⟩
    -- the session ends, so its timers may as well have changed before
    generalize hd₁ : (d.numbered nextMessageId draws).handed (.retransmission p.completion) wire = d₁
    have hopen : d₁.isClosed = false := by
      rw [← hd₁]
      by_contra hclosed
      have hnone := (hcontrol.atEnd (Bool.eq_true_of_not_eq_false hclosed)).1
      exact List.ne_nil_of_mem hmem hnone
    have hmild := isMild_endActions (d₁.core .empty) (.transportFailed error.display)
    have hended := hagain wire nextMessageId draws hcarries
    rw [hd₁] at hended
    have hends : Passage { d₁ with inFlight := done ++ p.retransmitted now :: rest }
        (d₁.transportFailed error.display)
        ((d₁.core .empty).endActions (.transportFailed error.display)) := by
      rw [transportFailed, endSession_eq hopen]
      exact .of_ended (.of_eq rfl rfl) rfl (unrepeated_of_isMild hmild) rfl rfl rfl
    refine ⟨_, (Run.single hended).trans hends.strides, ?_⟩
    rw [List.flatten_append, List.flatten_singleton, List.flatten_singleton]
    exact (calm_again _ _).append (calm_of_isMild hmild)

/-- Where a pass stands: `done` was looked at and `rest` is left, within the fuel. -/
structure Sweeping (now fuel : Nat) (done rest : List Pending) (d : Driver env) : Prop where
  inFlight : d.inFlight = done ++ rest
  control : Controlled (d.core .empty)
  settled : d.Settled
  timed : d.Timed
  now : now ≤ d.world.now
  fuel : rest.length + d.queued.length < fuel

/-- What the pass does from there. -/
def Sweeps (now : Nat) (done rest : List Pending) (d d' : Driver env) : Prop :=
  ∃ labels, Strides d labels d' ∧ Calm labels.flatten ∧
    (d'.isClosed = false → Swept now done rest d' labels.flatten)

/-- The pass ends the session. -/
theorem Strides.sweeps (h : Strides d labels d') (hcalm : Calm labels.flatten)
    (hclosed : d'.isClosed = true) : Sweeps now done rest d d' := by
  refine ⟨labels, h, hcalm, fun hopen => ?_⟩
  cases hopen.symm.trans hclosed

section Sweep

variable {now fuel : Nat} {done rest : List Pending} {p : Pending} {d : Driver env}

theorem Sweeping.next (h : Sweeping now fuel done (p :: rest) d) :
    d.inFlight[done.length]? = some p := by
  rw [h.inFlight, List.getElem?_append_right (Nat.le_refl _), Nat.sub_self]
  rfl

/-- At the end of the table the queue is looked at. -/
theorem Sweeping.last (h : Sweeping now fuel done [] d) : Sweeps now done [] d d.sendQueued := by
  have hqueueing := queueing_of_controlled h.control
  obtain ⟨actions, hfills⟩ := sendQueued_fills hqueueing
  refine ⟨[actions], hfills.passage.strides, ?_, fun hopen => ?_⟩
  · rw [List.flatten_singleton]
    exact calm_of_isMild hfills.mild
  · rw [List.flatten_singleton]
    rcases hfills.table with hclosed | ⟨started, htable, -, hbegun⟩
    · cases hopen.symm.trans hclosed
    refine ⟨⟨started, ?_, ?_⟩, List.forall_mem_nil _, ?_⟩
    · rw [htable, h.inFlight]
      rfl
    · exact fun q hq => (hbegun q hq).1.mono h.now (Nat.le_refl _) fun _ hmem => hmem
    · rw [retransmissions_eq_nil hfills.passage.unrepeated]
      exact .nil

/-- An exchange that is late leaves, its waiter hears, and others may start. -/
theorem Sweeping.expire (h : Sweeping now (fuel + 1) done (p :: rest) d)
    (hlate : p.deadline ≤ now) :
    let d₁ := complete { d with inFlight := d.inFlight.eraseIdx done.length } p.completion
      (.error TIMED_OUT)
    (d₁.isClosed = true → Sweeps now done (p :: rest) d d₁) ∧
      (d₁.isClosed = false → ∃ started, Sweeping now fuel done (rest ++ started) d₁ ∧
        ∀ d', Sweeps now done (rest ++ started) d₁ d' → Sweeps now done (p :: rest) d d') := by
  obtain ⟨hmoves, hsettled⟩ := expire_moves h.control h.settled h.next TIMED_OUT
  obtain ⟨actions, hpassage, hcalm, hafter⟩ := expire_fills h.control h.inFlight TIMED_OUT
  dsimp only
  generalize complete { d with inFlight := d.inFlight.eraseIdx done.length } p.completion
    (.error TIMED_OUT) = d₁ at hmoves hsettled hpassage hafter ⊢
  refine ⟨hpassage.strides.sweeps (by rwa [List.flatten_singleton]), fun hopen => ?_⟩
  obtain ⟨⟨started, hflight, hlength, hbegun⟩, hdelivered⟩ := hafter hopen
  have hfuel : (rest ++ started).length + d₁.queued.length < fuel := by
    have hfuel := h.fuel
    rw [List.length_cons] at hfuel
    rw [List.length_append]
    omega
  refine ⟨started, ⟨hflight, hmoves.invariant (fun _ _ => Controlled.step) h.control, hsettled,
    (Stride.passage hpassage).timed h.timed, Nat.le_trans h.now hpassage.now, hfuel⟩, ?_⟩
  rintro d' ⟨labels, hstrides, hcalm', hswept⟩
  refine ⟨[actions] ++ labels, hpassage.strides.trans hstrides, hcalm.append hcalm',
    fun hopen => ?_⟩
  exact (hswept hopen).expire hlate
    (fun q hq => (hbegun q hq).mono h.now (Nat.le_refl _) fun _ hmem => hmem)
    hstrides.clocked.now hdelivered hpassage.unrepeated

/-- An exchange that is due is sent again and then its timers change; or the link fails. -/
theorem Sweeping.resend (h : Sweeping now (fuel + 1) done (p :: rest) d)
    (halive : now < p.deadline) (hdue : p.isDue now = true) : wp (retransmit p) (fun _ d₁ =>
        let d₂ := { d₁ with
          inFlight := d₁.inFlight.modify done.length (Pending.retransmitted now) }
        Sweeping now fuel (done ++ [p.retransmitted now]) rest d₂ ∧
          ∀ d', Sweeps now (done ++ [p.retransmitted now]) rest d₂ d' →
            Sweeps now done (p :: rest) d d')
      (fun error d₁ => isTransportError error = true ∧
        Sweeps now done (p :: rest) d (d₁.transportFailed error.display)) d := by
  have hpassed : p.passed now = p.retransmitted now := if_pos hdue
  have hmoves := retransmit_moves (List.mem_of_getElem? h.next)
  have hsent := retransmit_strides h.control h.timed h.inFlight (Pending.isSome_of_isDue hdue) now
  unfold wp at hmoves hsent ⊢
  cases hresult : retransmit p d with
  | ok _ d₁ =>
    rw [hresult] at hmoves hsent
    obtain ⟨hmoves, hflight, hqueued⟩ := hmoves
    obtain ⟨wire, hcarries, hstride, hmodify⟩ := hsent
    obtain ⟨hmoves, hsettled⟩ := touch_moves h.settled h.next now hmoves hflight hqueued
    have hfuel : rest.length + d₁.queued.length < fuel := by
      have hfuel := h.fuel
      rw [List.length_cons] at hfuel
      rw [hqueued]
      omega
    refine ⟨⟨hmodify.trans (List.append_cons done (p.retransmitted now) rest),
      hmoves.invariant (fun _ _ => Controlled.step) h.control, hsettled, hstride.timed h.timed,
      Nat.le_trans h.now hstride.clocked.now, hfuel⟩, ?_⟩
    rintro d' ⟨labels, hstrides, hcalm, hswept⟩
    refine ⟨[[Action.sent (.retransmission p.completion) wire]] ++ labels,
      (Run.single hstride).trans hstrides, (calm_again _ _).append hcalm,
      fun hopen => ?_⟩
    have hswept := hswept hopen
    rw [← hpassed] at hswept
    refine hswept.keep halive ?_
    rw [List.filter_cons_of_pos hdue]
    exact .cons ⟨rfl, hcarries⟩ .nil
  | error error d₁ =>
    rw [hresult] at hsent
    obtain ⟨htransport, labels, hstrides, hcalm⟩ := hsent
    exact ⟨htransport, hstrides.sweeps hcalm (isClosed_endSession d₁ _)⟩

/-- Any other exchange stays as it is. -/
theorem Sweeping.pass (h : Sweeping now (fuel + 1) done (p :: rest) d) :
    Sweeping now fuel (done ++ [p]) rest d where
  inFlight := h.inFlight.trans (List.append_cons done p rest)
  control := h.control
  settled := h.settled
  timed := h.timed
  now := h.now
  fuel := by
    have hfuel := h.fuel
    rw [List.length_cons] at hfuel
    omega

theorem Sweeps.pass {d' : Driver env} (h : Sweeps now (done ++ [p]) rest d d')
    (halive : now < p.deadline) (hdue : p.isDue now = false) :
    Sweeps now done (p :: rest) d d' := by
  obtain ⟨labels, hstrides, hcalm, hswept⟩ := h
  refine ⟨labels, hstrides, hcalm, fun hopen => ?_⟩
  have hpassed : p.passed now = p := if_neg (by rw [hdue]; exact Bool.false_ne_true)
  have hswept := hswept hopen
  rw [← hpassed] at hswept
  refine @Swept.keep _ _ _ _ _ _ _ [] hswept halive ?_
  rw [List.filter_cons_of_neg (by rw [hdue]; exact Bool.false_ne_true)]
  exact .nil

end Sweep

/-- **One pass over the exchanges in flight**, by induction on the fuel: `done` was looked at, and
    what an expired exchange makes room for is added behind `rest`. -/
theorem exchangeTimersFrom_swept {fuel : Nat} (h : Sweeping now fuel done rest d) :
    Sweeps now done rest d (exchangeTimersFrom now fuel done.length d) := by
  induction fuel generalizing d done rest with
  | zero => exact absurd h.fuel (Nat.not_lt_zero _)
  | succ fuel ih =>
    cases rest with
    | nil =>
      have hindex : d.inFlight[done.length]? = none := by
        rw [h.inFlight, List.append_nil]
        exact List.getElem?_eq_none (Nat.le_refl _)
      rw [exchangeTimersFrom, hindex]
      exact h.last
    | cons p rest =>
      have hlength : ∀ q, done.length + 1 = (done ++ [q]).length := by
        intro q
        rw [List.length_append, List.length_singleton]
      rw [exchangeTimersFrom, h.next]
      dsimp only
      split
      · rename_i hlate
        obtain ⟨hended, hnext⟩ := h.expire hlate
        split
        · rename_i hclosed
          exact hended hclosed
        · rename_i hopen
          obtain ⟨started, hsweeping, hsweeps⟩ := hnext (Bool.eq_false_of_not_eq_true hopen)
          exact hsweeps _ (ih hsweeping)
      · rename_i hlate
        have halive : now < p.deadline := Nat.lt_of_not_le hlate
        split
        · rename_i hdue
          have hsent := h.resend halive hdue
          unfold wp at hsent
          cases hresult : retransmit p d with
          | ok _ d₁ =>
            rw [hresult] at hsent
            rw [hlength (p.retransmitted now)]
            exact hsent.2 _ (ih hsent.1)
          | error error d₁ =>
            rw [hresult] at hsent
            dsimp only
            rw [if_pos hsent.1]
            exact hsent.2
        · rename_i hdue
          rw [hlength p]
          exact (ih h.pass).pass halive (Bool.eq_false_of_not_eq_true hdue)

/-- What a pass leaves in flight has its timers to come. -/
theorem Swept.isLater (h : Swept now [] d.inFlight d' actions) (htimed : d.Timed) :
    ∀ p ∈ d'.inFlight, p.IsLater now := by
  obtain ⟨started, htable, hbegun⟩ := h.table
  intro p hp
  rw [htable, List.nil_append] at hp
  rcases List.mem_append.mp hp with hp | hp
  · obtain ⟨q, hq, rfl⟩ := List.mem_map.mp hp
    obtain ⟨hq, halive⟩ := List.mem_filter.mp hq
    exact (htimed.exchanges q hq).passed_isLater (of_decide_eq_true halive)
  · exact (hbegun p hp).isLater

theorem readClock_passage (d : Driver env) : Passage d d.readClock [] :=
  .of_eq (readClock_clocked d) (List.append_nil _).symm (fun _ _ => List.not_mem_nil) rfl rfl rfl
    rfl

/-- **`run_exchange_timers`**, from the reading of the clock. -/
theorem runExchangeTimers_swept (h : Sound d) (htimed : d.Timed) :
    Sweeps d.readClock.world.now [] d.inFlight d.readClock d.runExchangeTimers := by
  have htick : Move (d.core .empty) (d.readClock.core .empty) := .tick _ (Nat.le_add_right _ _)
  exact exchangeTimersFrom_swept ⟨rfl, h.control.step htick, h.settled,
    (Stride.passage (readClock_passage d)).timed htimed, Nat.le_refl _, Nat.lt_succ_self _⟩

/-! ## §5. Whole runs. -/

variable {completion : Completion}

theorem Opens.strides (h : Opens completion d d') :
    ∃ labels, Strides d labels d' ∧ Begins completion labels.flatten := by
  obtain ⟨actions, hpassage, hbegins⟩ := h
  refine ⟨[actions], hpassage.strides, ?_⟩
  rw [List.flatten_singleton]
  exact hbegins

theorem Calmly.strides (h : Calmly d d') : ∃ labels, Strides d labels d' ∧ Calm labels.flatten := by
  obtain ⟨actions, hpassage, hcalm⟩ := h
  refine ⟨[actions], hpassage.strides, ?_⟩
  rw [List.flatten_singleton]
  exact hcalm

/-- The timers: the exchanges first, and then the keep-alive. -/
theorem runTimers_strides (h : Sound d) (htimed : d.Timed) :
    ∃ labels, Strides d labels d.runTimers ∧ Begins (.keepAlive none) labels.flatten := by
  obtain ⟨labels, hstrides, hcalm, -⟩ := runExchangeTimers_swept h htimed
  replace hstrides := (readClock_passage d).strides.trans hstrides
  obtain ⟨hmoves, hsettled⟩ := runExchangeTimers_moves h.control h.settled
  have hcontrol := hmoves.invariant (fun _ _ => Controlled.step) h.control
  unfold runTimers
  dsimp only
  generalize d.runExchangeTimers = d₁ at hstrides hcontrol
  split
  · exact ⟨_, hstrides, .of_calm hcalm _⟩
  rename_i hopen
  split
  · exact ⟨_, hstrides, .of_calm hcalm _⟩
  have hread := readClock_passage d₁
  have hcalm' : Calm ([[]] ++ labels ++ [[]]).flatten := by
    rw [List.flatten_append]
    exact hcalm.append calm_nil
  split
  · have hqueueing := queueing_of_controlled hcontrol
    have hqueueing' : d₁.readClock.Queueing := ⟨hqueueing.callers, hqueueing.atEnd⟩
    obtain ⟨more, hmore, hbegins⟩ := (sendKeepAlive_opens hqueueing'
      (Bool.eq_false_of_not_eq_true hopen) none).strides
    refine ⟨_, (hstrides.trans hread.strides).trans hmore, ?_⟩
    rw [List.flatten_append]
    exact hbegins.after hcalm'
  · exact ⟨_, hstrides.trans hread.strides, .of_calm hcalm' _⟩

/-- **Every iteration of the loop** is a sequence of strides, among which at most one starts a
    session-control exchange; only a command to resign and the last handle's end resign. -/
theorem step_strides (h : Sound d) (htimed : d.Timed) (wake : Wake env) :
    ∃ completion labels, Strides d labels (d.step wake) ∧ Begins completion labels.flatten ∧
      (completion.isResign = true → d.isClosed = false ∧ d.resigning = false ∧
        (d.step wake = d.resign true ∨ d.step wake = d.dropHandles)) := by
  unfold step
  split
  · exact ⟨.petition 0, [], .nil d, .of_calm calm_nil _, fun hresign => by cases hresign⟩
  rename_i henabled
  simp only [Bool.or_eq_true, not_or, Bool.not_eq_true, Bool.not_eq_false'] at henabled
  obtain ⟨hopen, henabled⟩ := henabled
  have hcalmly : ∀ {d' : Driver env}, Calmly d d' → ∃ completion labels, Strides d labels d' ∧
      Begins completion labels.flatten ∧ (completion.isResign = true →
        d.isClosed = false ∧ d.resigning = false ∧ (d' = d.resign true ∨ d' = d.dropHandles)) := by
    intro d' hcalmly
    obtain ⟨labels, hstrides, hcalm⟩ := hcalmly.strides
    exact ⟨.petition 0, labels, hstrides, .of_calm hcalm _, fun hresign => by cases hresign⟩
  cases wake with
  | command command =>
    obtain ⟨completion, hopens, hresign⟩ := handleCommand_opens h hopen command
    obtain ⟨labels, hstrides, hbegins⟩ := hopens.strides
    refine ⟨completion, labels, hstrides, hbegins, fun hkind => ?_⟩
    exact ⟨hopen, (hresign hkind).1, Or.inl (hresign hkind).2⟩
  | handlesDropped =>
    by_cases hresigning : d.resigning = true
    · refine hcalmly ?_
      show Calmly d d.dropHandles
      have hfirst : d.dropHandles = { d with handlesDropped := true } := if_pos hresigning
      rw [hfirst]
      exact .of_eq (.of_eq rfl rfl) (List.append_nil _).symm (List.forall_mem_nil _) rfl rfl rfl rfl
    · obtain ⟨reply, hopens⟩ := dropHandles_opens h hopen
      obtain ⟨labels, hstrides, hbegins⟩ := hopens.strides
      exact ⟨_, labels, hstrides, hbegins, fun _ =>
        ⟨hopen, Bool.eq_false_of_not_eq_true hresigning, Or.inr rfl⟩⟩
  | received result =>
    cases result with
    | ok plaintext => exact hcalmly (handleDatagram_calmly h hopen henabled plaintext)
    | error error => exact hcalmly (receiveFailed_calmly h hopen error)
  | timer =>
    obtain ⟨labels, hstrides, hbegins⟩ := runTimers_strides h htimed
    exact ⟨_, labels, hstrides, hbegins, fun hresign => by cases hresign⟩

/-- **Every run is a sequence of strides.** -/
theorem run_strides (h : Sound d) (htimed : d.Timed) (wakes : List (Wake env)) :
    ∃ labels, Strides d labels (d.run wakes) := by
  induction wakes generalizing d with
  | nil => exact ⟨[], .nil d⟩
  | cons wake wakes ih =>
    obtain ⟨-, first, hfirst, -⟩ := step_strides h htimed wake
    obtain ⟨rest, hrest⟩ := ih (h.served (step_serves h wake)) (hfirst.timed htimed)
    exact ⟨first ++ rest, hfirst.trans hrest⟩

theorem new_timed (rng : env.crypto.Rng) : (Driver.new rng : Driver env).Timed :=
  ⟨List.forall_mem_nil _, List.forall_mem_nil _, fun hne => absurd rfl hne, List.forall_mem_nil _⟩

theorem run_timed (rng : env.crypto.Rng) (wakes : List (Wake env)) :
    ((Driver.new rng : Driver env).run wakes).Timed := by
  obtain ⟨labels, hstrides⟩ := run_strides (new_sound rng) (new_timed rng) wakes
  exact hstrides.timed (new_timed rng)

/-! ## §6. How often a request is put on the wire. -/

/-- Retransmissions for a waiter since its last request, one more action. -/
def metered (completion : Completion) (count : Nat) : Action → Nat
  | .sent (.request other) _ => if other = completion then 0 else count
  | .sent (.retransmission other) _ => if other = completion then count + 1 else count
  | _ => count

/-- Retransmissions for a waiter since its last request. -/
def repeats (completion : Completion) (actions : List Action) : Nat :=
  actions.foldl (metered completion) 0

theorem repeats_append (completion : Completion) (first second : List Action) :
    repeats completion (first ++ second) =
      second.foldl (metered completion) (repeats completion first) :=
  List.foldl_append

/-- Actions without a retransmission do not count up. -/
theorem foldl_metered_le (completion : Completion)
    (h : ∀ message, .sent (.retransmission completion) message ∉ actions) (count : Nat) :
    actions.foldl (metered completion) count ≤ count := by
  induction actions generalizing count with
  | nil => exact Nat.le_refl _
  | cons action actions ih =>
    have hrest : ∀ message, .sent (.retransmission completion) message ∉ actions :=
      fun message hmem => h message (List.mem_cons_of_mem _ hmem)
    have hfirst : metered completion count action ≤ count := by
      unfold metered
      split
      · split
        · exact Nat.zero_le _
        · exact Nat.le_refl _
      · rename_i other message
        split
        · rename_i hsame
          subst hsame
          exact absurd List.mem_cons_self (h message)
        · exact Nat.le_refl _
      · exact Nat.le_refl _
    exact Nat.le_trans (ih hrest _) hfirst

/-- A request starts the count anew. -/
theorem foldl_metered_eq_zero (h : ∀ message, .sent (.retransmission completion) message ∉ actions)
    (hmem : .sent (.request completion) wire ∈ actions) (count : Nat) :
    actions.foldl (metered completion) count = 0 := by
  obtain ⟨before, after, rfl⟩ := List.append_of_mem hmem
  have hafter : ∀ message, .sent (.retransmission completion) message ∉ after :=
    fun message hsent => h message (List.mem_append_right _ (List.mem_cons_of_mem _ hsent))
  rw [List.foldl_append, List.foldl_cons]
  have hzero : metered completion (before.foldl (metered completion) count)
      (.sent (.request completion) wire) = 0 := if_pos rfl
  rw [hzero]
  exact Nat.le_zero.mp (foldl_metered_le completion hafter 0)

/-- The counts of all exchanges: no request was sent again more often than it may be. -/
structure Metered (d : Driver env) : Prop where
  bounded : ∀ completion, ∀ history, history <+: d.trace →
    repeats completion history ≤ COAP_MAX_RETRANSMIT
  spent : ∀ p ∈ d.inFlight, repeats p.completion d.trace ≤ p.spent

/-- A history that grows. -/
theorem bounded_append {trace : List Action} {bound : Nat}
    (hbefore : ∀ history, history <+: trace → repeats completion history ≤ bound)
    (hafter : ∀ first, first <+: actions →
      first.foldl (metered completion) (repeats completion trace) ≤ bound) :
    ∀ history, history <+: trace ++ actions → repeats completion history ≤ bound := by
  intro history hstart
  obtain ⟨rest, hsplit⟩ := hstart
  rcases List.append_eq_append_iff.mp hsplit with ⟨more, htrace, -⟩ | ⟨first, hhistory, hactions⟩
  · exact hbefore history ⟨more, htrace.symm⟩
  · rw [hhistory, repeats_append]
    exact hafter first ⟨rest, hactions.symm⟩

/-- A retransmission counts for its own waiter. -/
theorem metered_again_le {other : Completion} {count bound : Nat} (wire : CoapMessage)
    (hcount : count ≤ bound) (hown : other = completion → count < bound) :
    metered completion count (.sent (.retransmission other) wire) ≤ bound := by
  show (if other = completion then count + 1 else count) ≤ bound
  split
  · rename_i hsame
    exact hown hsame
  · exact hcount

/-- **Every stride keeps the counts.** -/
theorem Stride.metered (h : Stride d actions d') (htimed : d.Timed) (hmetered : d.Metered) :
    d'.Metered := by
  have htrace := h.trace
  cases h with
  | passage hpassage =>
    have hsilent : ∀ completion : Completion, ∀ first, first <+: actions →
        ∀ message, .sent (.retransmission completion) message ∉ first :=
      fun completion first hfirst message hmem =>
        hpassage.unrepeated completion message (hfirst.subset hmem)
    refine ⟨?_, ?_⟩
    · intro completion
      rw [htrace]
      refine bounded_append (hmetered.bounded completion) fun first hfirst => ?_
      exact Nat.le_trans (foldl_metered_le completion (hsilent completion first hfirst) _)
        (hmetered.bounded completion d.trace (List.prefix_refl _))
    · intro p' hp'
      rw [htrace, repeats_append]
      rcases hpassage.inFlight p' hp' with ⟨p, hp, heases⟩ | hbegun
      · have hsame : p'.completion = p.completion ∧ p'.spent = p.spent := by
          cases heases <;> exact ⟨rfl, rfl⟩
        rw [hsame.1, hsame.2]
        exact Nat.le_trans (foldl_metered_le p.completion (hpassage.unrepeated p.completion) _)
          (hmetered.spent p hp)
      · obtain ⟨wire, hsent, -⟩ := hbegun.sent
        rw [foldl_metered_eq_zero (hpassage.unrepeated p'.completion) hsent]
        exact Nat.zero_le _
  | again before after p now wire hflight hsome halone _ hactions _ hflight' _ _ _ _ =>
    obtain ⟨hp, hcases⟩ := mem_replaced hflight hflight'
    rw [hactions] at htrace
    refine ⟨?_, ?_⟩
    · intro completion
      have hbound := hmetered.bounded completion d.trace (List.prefix_refl _)
      rw [htrace]
      refine bounded_append (hmetered.bounded completion) fun first hfirst => ?_
      cases first with
      | nil => exact hbound
      | cons action first =>
        obtain ⟨rfl, hrest⟩ := List.cons_prefix_cons.mp hfirst
        rw [List.prefix_nil.mp hrest]
        refine metered_again_le wire hbound fun hsame => ?_
        rw [← hsame]
        exact Nat.lt_of_le_of_lt (hmetered.spent p hp)
          ((htimed.exchanges p hp).retransmitted hsome now).2.2.1
    · intro q hq
      rw [htrace, repeats_append]
      rcases hcases q hq with rfl | ⟨hother, hq⟩
      · have hspent := (htimed.exchanges p hp).retransmitted hsome now
        rw [hspent.2.1, (Pending.retransmitted_same now p).2.2.2]
        exact metered_again_le wire (Nat.le_succ_of_le (hmetered.spent p hp))
          fun _ => Nat.lt_succ_of_le (hmetered.spent p hp)
      · exact metered_again_le wire (hmetered.spent q hq)
          fun hsame => absurd hsame.symm (halone q hother)

theorem run_metered (rng : env.crypto.Rng) (wakes : List (Wake env)) :
    ((Driver.new rng : Driver env).run wakes).Metered := by
  obtain ⟨labels, hstrides⟩ := run_strides (new_sound rng) (new_timed rng) wakes
  have hnew : (Driver.new rng : Driver env).Metered := by
    refine ⟨?_, List.forall_mem_nil _⟩
    intro completion history hstart
    rw [List.prefix_nil.mp hstart]
    exact Nat.zero_le _
  refine (Run.invariant (I := fun _ d => d.Timed ∧ d.Metered) hstrides ⟨new_timed rng, hnew⟩ ?_).2
  intro labels d actions d' hkept hstride
  exact ⟨hstride.timed hkept.1, hstride.metered hkept.1 hkept.2⟩

/-- Without another request the count is the number of retransmissions. -/
theorem foldl_metered_eq {life : List Action}
    (h : ∀ wire, .sent (.request completion) wire ∉ life) (count : Nat) :
    life.foldl (metered completion) count =
      count + life.countP (Action.isRetransmissionOf completion) := by
  induction life generalizing count with
  | nil => rfl
  | cons action life ih =>
    have hrest : ∀ wire, .sent (.request completion) wire ∉ life :=
      fun wire hmem => h wire (List.mem_cons_of_mem _ hmem)
    have hfirst : metered completion count action =
        count + if Action.isRetransmissionOf completion action then 1 else 0 := by
      cases action with
      | sent kind message =>
        cases kind with
        | request other =>
          have hother : other ≠ completion := by
            rintro rfl
            exact h message List.mem_cons_self
          exact if_neg hother
        | retransmission other =>
          show (if other = completion then count + 1 else count) =
            count + if decide (other = completion) = true then 1 else 0
          simp only [decide_eq_true_eq]
          split <;> rfl
        | other => rfl
      | _ => rfl
    rw [List.foldl_cons, ih hrest, hfirst, List.countP_cons]
    omega

/-- **A request is sent again at most twice**, in any history that counts. -/
theorem Metered.life (h : d.Metered) {before life after : List Action}
    (htrace : d.trace = before ++ .sent (.request completion) wire :: (life ++ after))
    (hlife : ∀ other, .sent (.request completion) other ∉ life) :
    life.countP (Action.isRetransmissionOf completion) ≤ COAP_MAX_RETRANSMIT := by
  have hhistory : before ++ .sent (.request completion) wire :: life <+: d.trace := by
    refine ⟨after, ?_⟩
    rw [htrace, List.append_assoc]
    rfl
  have hbound := h.bounded completion _ hhistory
  rw [repeats_append, List.foldl_cons] at hbound
  have hzero : metered completion (repeats completion before) (.sent (.request completion) wire) = 0 :=
    if_pos rfl
  rw [hzero, foldl_metered_eq hlife, Nat.zero_add] at hbound
  exact hbound

/-! ## §7. Acknowledged exchanges. -/

/-- No retransmission for this waiter before another request of its own. -/
def Muted (completion : Completion) (actions : List Action) : Prop :=
  ∀ first rest, actions = first ++ rest → (∀ wire, .sent (.request completion) wire ∉ first) →
    ∀ wire, .sent (.retransmission completion) wire ∉ first

theorem Muted.of_silent (h : ∀ wire, .sent (.retransmission completion) wire ∉ actions) :
    Muted completion actions := by
  intro first rest hsplit _ wire hmem
  refine h wire ?_
  rw [hsplit]
  exact List.mem_append_left _ hmem

theorem Muted.append {first second : List Action} (h : Muted completion first)
    (h' : (∃ wire, .sent (.request completion) wire ∈ first) ∨
      Muted completion second) : Muted completion (first ++ second) := by
  intro start rest hsplit hnone wire hmem
  rcases List.append_eq_append_iff.mp hsplit.symm with ⟨more, hfirst, -⟩ | ⟨more, hstart, hsecond⟩
  · exact h start more hfirst hnone wire hmem
  rw [hstart] at hnone hmem
  rcases h' with ⟨sent, hsent⟩ | hsilent
  · exact hnone sent (List.mem_append_left _ hsent)
  rcases List.mem_append.mp hmem with hmem | hmem
  · exact h first [] (List.append_nil _).symm
      (fun wire hsent => hnone wire (List.mem_append_left _ hsent)) wire hmem
  · exact hsilent more rest hsecond
      (fun wire hsent => hnone wire (List.mem_append_right _ hsent)) wire hmem

/-- The exchanges of a waiter are not to be sent again. -/
def Stilled (completion : Completion) (d : Driver env) : Prop :=
  ∀ p ∈ d.inFlight, p.completion = completion → p.retryAt = none

/-- One stride from a state in which nothing is to be sent again for a waiter. -/
theorem Stride.muted (h : Stride d actions d') (hstilled : Stilled completion d) :
    Muted completion actions ∧
      ((∃ wire, .sent (.request completion) wire ∈ actions) ∨ Stilled completion d') := by
  have hother : ∀ p ∈ d.inFlight, p.retryAt.isSome = true → p.completion ≠ completion := by
    intro p hp hsome hsame
    rw [hstilled p hp hsame] at hsome
    cases hsome
  cases h with
  | passage hpassage =>
    refine ⟨.of_silent (hpassage.unrepeated completion), ?_⟩
    by_cases hsent : ∃ wire, .sent (.request completion) wire ∈ actions
    · exact Or.inl hsent
    refine Or.inr fun p' hp' hsame => ?_
    rcases hpassage.inFlight p' hp' with ⟨p, hp, heases⟩ | hbegun
    · cases heases with
      | same => exact hstilled p' hp hsame
      | acknowledged => rfl
    · obtain ⟨wire, hmem, -⟩ := hbegun.sent
      rw [hsame] at hmem
      exact absurd ⟨wire, hmem⟩ hsent
  | again before after p now wire hflight hsome _ _ hactions _ hflight' _ _ _ _ =>
    obtain ⟨hp, hcases⟩ := mem_replaced hflight hflight'
    refine ⟨.of_silent ?_, Or.inr ?_⟩
    · intro message hmem
      rw [hactions] at hmem
      cases List.mem_singleton.mp hmem
      exact hother p hp hsome rfl
    · intro q hq hsame
      rcases hcases q hq with rfl | ⟨-, hq⟩
      · rw [(Pending.retransmitted_same now p).2.2.2] at hsame
        exact absurd hsame (hother p hp hsome)
      · exact hstilled q hq hsame

/-- **An exchange that is not to be sent again is not sent again.** -/
theorem Strides.muted (h : Strides d labels d') (hstilled : Stilled completion d) :
    Muted completion labels.flatten := by
  refine (Run.invariant (I := fun labels d' => Muted completion labels.flatten ∧
    ((∃ wire, .sent (.request completion) wire ∈ labels.flatten) ∨ Stilled completion d')) h
    ⟨.of_silent fun _ => List.not_mem_nil, Or.inr hstilled⟩ ?_).1
  intro labels d₁ actions d₂ hkept hstride
  obtain ⟨hmuted, hkept⟩ := hkept
  rw [List.flatten_append, List.flatten_singleton]
  rcases hkept with ⟨wire, hsent⟩ | hstilled
  · exact ⟨hmuted.append (Or.inl ⟨wire, hsent⟩), Or.inl ⟨wire, List.mem_append_left _ hsent⟩⟩
  obtain ⟨hmuted', hkept⟩ := hstride.muted hstilled
  refine ⟨hmuted.append (Or.inr hmuted'), ?_⟩
  rcases hkept with ⟨wire, hsent⟩ | hstilled
  · exact Or.inl ⟨wire, List.mem_append_right _ hsent⟩
  · exact Or.inr hstilled

variable {plaintext : Bytes}

/-- An acknowledgement that matches an exchange is all its datagram is about. -/
theorem handleDatagram_of_acknowledge {ack : CoapMessage} {proxied : Bool}
    (hcarried : carried plaintext = some (ack, proxied)) (h : d.acknowledge ack proxied = some d') :
    d.handleDatagram plaintext = d' := by
  have htype : ¬ack.ty = .confirmable := by
    obtain ⟨before, p, after, -, hmatches, -⟩ := acknowledge_eq h
    unfold Pending.isAcknowledgedBy CoapMessage.isEmptyAckFor at hmatches
    simp only [Bool.and_eq_true, decide_eq_true_eq] at hmatches
    rw [hmatches.2.1.1.1.1.1]
    intro h
    cases h
  have hroute : ∀ origin, answerRetransmission ack origin d = .ok false d := by
    intro origin
    unfold answerRetransmission
    rw [if_pos htype]
    rfl
  have hdirect : proxied = false → routeDirect ack d = .ok () d' := by
    rintro rfl
    unfold routeDirect
    show EStateM.bind (answerRetransmission ack .borderAgent) _ d = _
    rw [EStateM.bind, hroute]
    dsimp only
    rw [if_neg Bool.false_ne_true, get_bind, h]
    rfl
  have hproxied : proxied = true → ∀ udpRx, routeProxied udpRx ack d = .ok () d' := by
    rintro rfl udpRx
    unfold routeProxied
    show EStateM.bind (answerRetransmission ack _) _ d = _
    rw [EStateM.bind, hroute]
    dsimp only
    rw [if_neg Bool.false_ne_true, get_bind, h]
    rfl
  unfold carried at hcarried
  unfold handleDatagram
  cases hdecode : CoapMessage.decode plaintext with
  | error error =>
    rw [hdecode] at hcarried
    cases hcarried
  | ok message =>
    rw [hdecode] at hcarried
    dsimp only at hcarried ⊢
    unfold routeIncoming
    cases hparse : parseUdpRx message with
    | error error =>
      rw [hparse] at hcarried
      cases hcarried
    | ok parsed =>
      rw [hparse] at hcarried
      cases parsed with
      | none =>
        cases hcarried
        dsimp only
        rw [hdirect rfl]
      | some udpRx =>
        dsimp only at hcarried ⊢
        by_cases hport : udpRx.destinationPort ≠ DEFAULT_MM_PORT
        · rw [if_pos hport] at hcarried
          cases hcarried
        rw [if_neg hport] at hcarried ⊢
        cases hinner : CoapMessage.decode udpRx.payload with
        | error error =>
          rw [hinner] at hcarried
          cases hcarried
        | ok inner =>
          rw [hinner] at hcarried
          cases hcarried
          dsimp only
          rw [hproxied rfl udpRx]

/-- Once acknowledged, an exchange is not sent again. -/
theorem acknowledged_muted (h : Sound d) (htimed : d.Timed) {ack : CoapMessage} {proxied : Bool}
    (hcarried : carried plaintext = some (ack, proxied))
    (hack : d.acknowledge ack proxied = some d') : d.step (.received (.ok plaintext)) = d' ∧
      ∃ p ∈ d.inFlight, p.isAcknowledgedBy ack proxied = true ∧
        ∀ more, ∃ later, (d'.run more).trace = d'.trace ++ later ∧ Muted p.completion later := by
  obtain ⟨before, p, after, hflight, hmatches, hd'⟩ := acknowledge_eq hack
  have hflight' : d'.inFlight = before ++ { p with retryAt := none } :: after := by rw [hd']
  obtain ⟨hp, hcases⟩ := mem_replaced hflight hflight'
  have hlink : d.linkOpen = true := htimed.linked (List.ne_nil_of_mem hp)
  have hopen : d.isClosed = false := (h.control.link.mp hlink).2
  have hstep : d.step (.received (.ok plaintext)) = d' := by
    have henabled : (d.isClosed || !d.enabled (.received (.ok plaintext))) = false := by
      rw [hopen]
      show (!d.linkOpen) = false
      rw [hlink]
      rfl
    rw [step, henabled]
    exact handleDatagram_of_acknowledge hcarried hack
  refine ⟨hstep, p, hp, hmatches, fun more => ?_⟩
  have hsound' : Sound d' := by
    rw [← hstep]
    exact h.served (step_serves h _)
  have htimed' : d'.Timed := by
    rw [← hstep]
    obtain ⟨-, labels, hstrides, -⟩ := step_strides h htimed (.received (.ok plaintext))
    exact hstrides.timed htimed
  have hstilled : Stilled p.completion d' := by
    intro q hq hsame
    rcases hcases q hq with rfl | ⟨hother, -⟩
    · rfl
    · exact absurd hsame (alone_of_controlled hsound'.control hflight' q hother)
  obtain ⟨labels, hstrides⟩ := run_strides hsound' htimed' more
  exact ⟨labels.flatten, hstrides.trace, hstrides.muted hstilled⟩

/-! ## §8. Late responses. -/

theorem any_min?_le {times : List Nat} {time : Nat} (hmem : time ∈ times) (hdue : time ≤ now) :
    times.min?.any (· ≤ now) = true := by
  cases hmin : times.min? with
  | none =>
    rw [List.min?_eq_none_iff.mp hmin] at hmem
    exact absurd hmem List.not_mem_nil
  | some least =>
    have hleast : least ≤ time := (List.min?_eq_some_iff.mp hmin).2 time hmem
    exact decide_eq_true (Nat.le_trans hleast hdue)

/-- A due deadline wakes the driver before anything else. -/
theorem nextWake_of_late (hp : p ∈ d.inFlight) (hlate : p.deadline ≤ now) (sources : Sources env) :
    d.nextWake now sources = some .timer := by
  have hexchanges : d.exchangesDeadline.any (· ≤ now) = true := by
    have hmem : p.deadline ∈ (d.inFlight.flatMap fun pending =>
        [pending.retryAt, some pending.deadline]).filterMap id := by
      rw [List.mem_filterMap]
      exact ⟨some p.deadline, List.mem_flatMap.mpr ⟨p, hp, by simp⟩, rfl⟩
    exact any_min?_le hmem hlate
  have hdue : d.nextDeadline.any (· ≤ now) = true := by
    cases hdeadline : d.exchangesDeadline with
    | none =>
      rw [hdeadline] at hexchanges
      cases hexchanges
    | some time =>
      rw [hdeadline] at hexchanges
      unfold nextDeadline
      rw [hdeadline]
      exact any_min?_le List.mem_cons_self (of_decide_eq_true hexchanges)
  rw [nextWake, if_pos hdue]

/-- An exchange that a received message completes was in flight, and its deadline is to come. -/
theorem taken_in_time (h : Sound d) {sources : Sources env}
    (hwake : d.nextWake now sources = some (.received (.ok plaintext)))
    (htaken : .taken completion ∈ (d.step (.received (.ok plaintext))).trace.drop d.trace.length) :
    ∃ p ∈ d.inFlight, p.completion = completion ∧ now < p.deadline := by
  rcases step_received_carried h plaintext with hsame | ⟨message, proxied, -, hrouted⟩
  · rw [hsame, List.drop_length] at htaken
    exact absurd htaken List.not_mem_nil
  obtain ⟨-, p, hp, hcompletion⟩ := hrouted.takenOut h.control htaken
  refine ⟨p, hp, hcompletion, ?_⟩
  by_contra hlate
  cases (nextWake_of_late hp (Nat.not_lt.mp hlate) sources).symm.trans hwake

/-! ## §9. The timers of every exchange. -/

/-- The waiter of an exchange that timed out hears exactly that. -/
theorem Swept.told (h : Sound d) {channel : Nat} {reply : Reply}
    (hload : (d.core .empty).load channel ≤ 1) (hchannel : completion.channel = some channel)
    (hdelivered : .delivered completion reply ∈ d.runExchangeTimers.trace) :
    d.runExchangeTimers.trace.filter (Action.isDeliveredOn channel) =
      [.delivered completion reply] := by
  obtain ⟨hmoves, -⟩ := runExchangeTimers_moves h.control h.settled
  have hload' : (d.runExchangeTimers.core .empty).load channel ≤ 1 :=
    hmoves.invariant (I := fun c => c.load channel ≤ 1)
      (fun _ _ hle hmove => Nat.le_trans (hmove.load_le channel) hle) hload
  refine filter_eq_singleton hdelivered (decide_eq_true hchannel) ?_
  have hload' : _ + d.runExchangeTimers.trace.countP (Action.isDeliveredOn channel) + _ ≤ 1 := hload'
  omega

/-- **Exchange timers.**  In every state that a run reaches and at every time: a pass of the timers
    that leaves the session open leaves only later timers behind, times out each exchange whose
    deadline has come and sends each other one that is due again, once and as it was.  Over its
    life a request is put on the wire at most three times, and not again once it is acknowledged.
    Due timers are taken before a response is read. -/
theorem exchange_timers (rng : env.crypto.Rng) (wakes : List (Wake env)) :
    let d := (Driver.new rng).run wakes
    -- one pass
    (let now := d.readClock.world.now
      let d' := d.runExchangeTimers
      d'.isClosed = false →
      (∀ p ∈ d'.inFlight, p.IsLater now) ∧
      ∃ actions started, d'.trace = d.trace ++ actions ∧
        d'.inFlight =
          (d.inFlight.filter (now < ·.deadline)).map (Pending.passed now) ++ started ∧
        (∀ q ∈ started, ∃ wire, .sent (.request q.completion) wire ∈ actions) ∧
        (∀ p ∈ d.inFlight, p.deadline ≤ now → ∃ channel, p.completion.channel = some channel ∧
          .delivered p.completion (p.completion.failedReply TIMED_OUT) ∈ actions ∧
          d'.trace.filter (Action.isDeliveredOn channel) =
            [.delivered p.completion (p.completion.failedReply TIMED_OUT)]) ∧
        List.Forall₂ (fun p sent => sent.1 = p.completion ∧
            Carries p.request p.destination sent.2)
          (d.inFlight.filter fun p => now < p.deadline && p.isDue now)
          (retransmissions actions)) ∧
    -- what is in flight was sent as it is, and at most one exchange of a waiter is
    ((∀ p ∈ d.inFlight, ∃ wire, .sent (.request p.completion) wire ∈ d.trace ∧
        Carries p.request p.destination wire) ∧
      (d.inFlight.map Pending.completion).Nodup) ∧
    -- a whole life
    (∀ completion wire before life after,
      d.trace = before ++ .sent (.request completion) wire :: (life ++ after) →
      (∀ other, .sent (.request completion) other ∉ life) →
      1 + life.countP (Action.isRetransmissionOf completion) ≤ 3) ∧
    -- acknowledged
    (∀ plaintext ack proxied d', carried plaintext = some (ack, proxied) →
      d.acknowledge ack proxied = some d' →
      d.step (.received (.ok plaintext)) = d' ∧
        ∃ p ∈ d.inFlight, p.isAcknowledgedBy ack proxied = true ∧
          ∀ more, ∃ later, (d'.run more).trace = d'.trace ++ later ∧ Muted p.completion later) ∧
    -- late
    (∀ now sources, (∀ p ∈ d.inFlight, p.deadline ≤ now → d.nextWake now sources = some .timer) ∧
      ∀ plaintext, d.nextWake now sources = some (.received (.ok plaintext)) →
        ∀ completion, .taken completion ∈
          (d.step (.received (.ok plaintext))).trace.drop d.trace.length →
        ∃ p ∈ d.inFlight, p.completion = completion ∧ now < p.deadline) := by
  have hsound := run_sound rng wakes
  have htimed := run_timed rng wakes
  have hmetered := run_metered rng wakes
  have hload := run_load_le rng wakes
  generalize (Driver.new rng).run wakes = d at hsound htimed hmetered hload
  dsimp only
  refine ⟨fun hopen => ?_, ⟨htimed.sent, ?_⟩, ?_, ?_, ?_⟩
  · obtain ⟨labels, hstrides, -, hswept⟩ := runExchangeTimers_swept hsound htimed
    have hswept := hswept hopen
    obtain ⟨started, htable, hbegun⟩ := hswept.table
    rw [List.nil_append] at htable
    refine ⟨hswept.isLater htimed, labels.flatten, started, hstrides.trace, htable, ?_, ?_,
      hswept.again⟩
    · intro q hq
      obtain ⟨wire, hsent, -⟩ := (hbegun q hq).sent
      exact ⟨wire, hsent⟩
    · intro p hp hlate
      obtain ⟨hwaits, hdelivered⟩ := hswept.expired p hp hlate
      obtain ⟨channel, hchannel⟩ := Option.isSome_iff_exists.mp hwaits
      refine ⟨channel, hchannel, hdelivered, Swept.told hsound (hload channel) hchannel ?_⟩
      rw [hstrides.trace]
      exact List.mem_append_right _ hdelivered
  · exact nodup_map_of_split fun before p after hflight =>
      alone_of_controlled hsound.control hflight
  · intro completion wire before life after htrace hlife
    have hcount := hmetered.life htrace hlife
    have hmax : COAP_MAX_RETRANSMIT = 2 := rfl
    omega
  · intro plaintext ack proxied d' hcarried hack
    exact acknowledged_muted hsound htimed hcarried hack
  · intro now sources
    refine ⟨fun p hp hlate => nextWake_of_late hp hlate sources, ?_⟩
    intro plaintext hwake completion htaken
    exact taken_in_time hsound hwake htaken

end Driver

end Meshcop
