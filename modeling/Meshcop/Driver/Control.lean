/-
  Meshcop.Driver.Control — the session-control exchanges.

  A petition, a keep-alive and a resignation are each outstanding at most once, at hand or in
  flight, and the status, the keep-alive timer, the link and the flag for dropped handles agree
  with them.  After the end nothing is left.

  Main result:
    * `Controlled.step` — every move keeps these rules.
-/

import Meshcop.Driver.Machine

namespace Meshcop

open SessionCore Completion

/-- Kinds of exchanges that are not a handle's request. -/
def Completion.ControlKind (kind : Completion → Bool) : Prop :=
  ∀ completion : Completion, completion.isApplication = true → kind completion = false

theorem Completion.controlKind_isPetition : ControlKind isPetition := by
  intro completion h
  cases completion <;> first | rfl | cases h

theorem Completion.controlKind_isKeepAlive : ControlKind isKeepAlive := by
  intro completion h
  cases completion <;> first | rfl | cases h

theorem Completion.controlKind_isResign : ControlKind isResign := by
  intro completion h
  cases completion <;> first | rfl | cases h

/-- The rules of session control. -/
structure Controlled (c : SessionCore) : Prop where
  petitions : c.live isPetition ≤ 1
  keepAlives : c.live isKeepAlive ≤ 1
  resigns : c.live isResign ≤ 1
  applications : c.inFlight.countP (fun pending => pending.completion.isApplication) ≤ 1
  callers : ∀ entry ∈ c.queued, entry.2.isApplication = true
  petitioning : c.isClosed = false →
    (c.live isPetition = 1 ↔ c.status = .petitioning)
  active : c.isClosed = false → 0 < c.live isKeepAlive + c.live isResign →
    c.status.sessionId.isSome = true
  scheduled : c.keepAliveAt.isSome = true →
    c.status.sessionId.isSome = true ∧ c.live isKeepAlive = 0
  link : c.linkOpen = true ↔ c.status ≠ .idle ∧ c.isClosed = false
  dropped : c.handlesDropped = true → c.isClosed = true ∨ 0 < c.live isResign
  atEnd : c.isClosed = true → c.inFlight = [] ∧ c.queued = [] ∧ c.joiners = false

namespace Controlled

variable {c c' : SessionCore}

/-! ## §1. Moves between the tables. -/

/-- A move that only carries exchanges around, or takes a handle's request away. -/
theorem carry (h : Controlled c) (hstatus : c'.status = c.status)
    (hlink : c'.linkOpen = c.linkOpen) (hat : c'.keepAliveAt = c.keepAliveAt)
    (hdropped : c'.handlesDropped = c.handlesDropped)
    (hlive : ∀ kind, Completion.ControlKind kind → c'.live kind = c.live kind)
    (happlications : c'.inFlight.countP (fun pending => pending.completion.isApplication) ≤ 1)
    (hcallers : ∀ entry ∈ c'.queued, entry.2.isApplication = true)
    (hover : c.isClosed = true → c'.inFlight = [] ∧ c'.queued = [] ∧ c'.joiners = false) :
    Controlled c' := by
  have hpetition := hlive _ controlKind_isPetition
  have hkeepAlive := hlive _ controlKind_isKeepAlive
  have hresign := hlive _ controlKind_isResign
  have hclosed : c'.isClosed = c.isClosed := by rw [isClosed, hstatus]; rfl
  constructor
  · rw [hpetition]; exact h.petitions
  · rw [hkeepAlive]; exact h.keepAlives
  · rw [hresign]; exact h.resigns
  · exact happlications
  · exact hcallers
  · rw [hpetition, hclosed, hstatus]; exact h.petitioning
  · rw [hkeepAlive, hresign, hclosed, hstatus]; exact h.active
  · rw [hkeepAlive, hat, hstatus]; exact h.scheduled
  · rw [hlink, hclosed, hstatus]; exact h.link
  · rw [hresign, hdropped, hclosed]; exact h.dropped
  · rw [hclosed]; exact hover

/-- What is known when nothing is at hand. -/
theorem live_of_empty (hhand : c.hand = .empty) (kind : Completion → Bool) :
    c.live kind = c.inFlight.countP (fun pending => kind pending.completion) := by
  simp [live, hhand, Hand.completions]

theorem live_of_held {completion : Completion} (hhand : c.hand = .held completion)
    (kind : Completion → Bool) : c.live kind = (if kind completion then 1 else 0) +
      c.inFlight.countP (fun pending => kind pending.completion) := by
  simp [live, hhand, Hand.completions, List.countP_cons]

/-- An exchange of the table has its share in every count. -/
theorem countP_split {before after : List Pending} {pending : Pending}
    (hflight : c.inFlight = before ++ pending :: after) (kind : Completion → Bool) :
    c.inFlight.countP (fun pending => kind pending.completion) =
      (if kind pending.completion then 1 else 0) +
        (before ++ after).countP (fun pending => kind pending.completion) := by
  rw [hflight]
  simp only [List.countP_append, List.countP_cons]
  omega

/-- A request in flight means that the session has not ended. -/
theorem open_of_inFlight (h : Controlled c) {before after : List Pending} {pending : Pending}
    (hflight : c.inFlight = before ++ pending :: after) : c.isClosed ≠ true := by
  intro hclosed
  have hnone := (h.atEnd hclosed).1
  rw [hflight] at hnone
  simp at hnone

/-! ## §2. Moves that change what the session is. -/

/-- Without a session ID no keep-alive or resignation is outstanding, the timer is off and
    the handles are there. -/
theorem unpetitioned (h : Controlled c) (hopen : c.isClosed = false)
    (hnone : c.status.sessionId = none) : c.live isKeepAlive = 0 ∧ c.live isResign = 0 ∧
      c.keepAliveAt = none ∧ c.handlesDropped = false := by
  have hzero : ¬0 < c.live isKeepAlive + c.live isResign := by
    intro hpos
    have hsome := h.active hopen hpos
    rw [hnone] at hsome
    cases hsome
  refine ⟨by omega, by omega, ?_, ?_⟩
  · cases hat : c.keepAliveAt with
    | none => rfl
    | some keepAliveAt =>
      have hsome := (h.scheduled (by rw [hat]; rfl)).1
      rw [hnone] at hsome
      cases hsome
  · cases hdropped : c.handlesDropped with
    | false => rfl
    | true =>
      rcases h.dropped hdropped with hclosed | hpos
      · rw [hopen] at hclosed
        cases hclosed
      · omega

/-- The end of the session. -/
theorem ended (h : Controlled c) (reason : CloseReason) : Controlled (c.ended reason) := by
  have hkind : ∀ kind, c.live kind ≤ 1 → (c.ended reason).live kind ≤ 1 := by
    intro kind hle
    have heq : (c.ended reason).live kind = c.hand.completions.countP kind := by
      simp [live, SessionCore.ended, did]
    rw [heq]
    simp only [live] at hle
    omega
  constructor
  · exact hkind _ h.petitions
  · exact hkind _ h.keepAlives
  · exact hkind _ h.resigns
  · simp [SessionCore.ended]
  · simp [SessionCore.ended]
  · intro hopen; cases hopen
  · intro hopen; cases hopen
  · intro hat; cases hat
  · simp [SessionCore.ended, isClosed, SessionStatus.isClosed]
  · intro _; exact Or.inl rfl
  · intro _; exact ⟨rfl, rfl, rfl⟩

/-- The border agent closes an unpetitioned session. -/
theorem idled (h : Controlled c) (hhand : c.hand = .empty) (hopen : c.isClosed = false)
    (hnone : c.status.sessionId = none) : Controlled c.idled := by
  obtain ⟨-, -, hat, hdropped⟩ := h.unpetitioned hopen hnone
  have hzero : ∀ kind, c.idled.live kind = 0 := by
    intro kind
    rw [live_of_empty (c := c.idled) hhand]
    rfl
  constructor
  · rw [hzero]; omega
  · rw [hzero]; omega
  · rw [hzero]; omega
  · simp [SessionCore.idled]
  · simp [SessionCore.idled]
  · intro _
    rw [hzero]
    simp [SessionCore.idled]
  · rw [hzero, hzero]
    intro _ hpos
    omega
  · intro hsome
    have hsome : c.keepAliveAt.isSome = true := hsome
    rw [hat] at hsome
    cases hsome
  · simp [SessionCore.idled]
  · intro htrue
    have htrue : c.handlesDropped = true := htrue
    rw [hdropped] at htrue
    cases htrue
  · intro hclosed; cases hclosed

/-- A petition gets its answer: the session leaves `Petitioning`. -/
theorem petitionSettled (h : Controlled c) {channel : Nat}
    (hhand : c.hand = .held (.petition channel)) (hopen : c.isClosed = false)
    {status : SessionStatus} (hstatus : status = .connected ∨ ∃ sessionId, status = .active sessionId)
    {keepAliveAt : Option Nat}
    (hat : keepAliveAt = c.keepAliveAt ∨ status.sessionId.isSome = true) (actions : List Action) :
    Controlled { c.did actions with status, keepAliveAt, hand := .empty } := by
  -- with a petition at hand the status is `Petitioning`, so nothing else is outstanding
  have hpetition : c.live isPetition =
      1 + c.inFlight.countP (fun pending => pending.completion.isPetition) :=
    live_of_held hhand isPetition
  have hle := h.petitions
  have hstatusNow : c.status = .petitioning := (h.petitioning hopen).mp (by omega)
  obtain ⟨hkeepAlive, hresign, hnone, hdropped⟩ := h.unpetitioned hopen (by rw [hstatusNow]; rfl)
  have hopen' : status.isClosed = false := by rcases hstatus with rfl | ⟨_, rfl⟩ <;> rfl
  have hnotPetitioning : status ≠ .petitioning := by rcases hstatus with rfl | ⟨_, rfl⟩ <;> (intro h; cases h)
  have hnotIdle : status ≠ .idle := by rcases hstatus with rfl | ⟨_, rfl⟩ <;> (intro h; cases h)
  have hlinkOpen : c.linkOpen = true := h.link.mpr ⟨(by rw [hstatusNow]; intro h; cases h), hopen⟩
  simp only [live_of_held hhand] at hkeepAlive hresign
  constructor
  · rw [live_of_empty rfl]; simp only [did]; omega
  · rw [live_of_empty rfl]; simp only [did]; omega
  · rw [live_of_empty rfl]; simp only [did]; omega
  · exact h.applications
  · exact h.callers
  · intro _
    rw [live_of_empty rfl]
    simp only [did, hnotPetitioning, iff_false]
    omega
  · rw [live_of_empty rfl, live_of_empty rfl]
    simp only [did]
    intro _ hpos
    omega
  · intro hsome
    rw [live_of_empty rfl]
    simp only [did]
    refine ⟨?_, by omega⟩
    rcases hat with hat | hat
    · rw [hat, hnone] at hsome
      cases hsome
    · exact hat
  · simp [did, isClosed, hlinkOpen, hnotIdle, hopen']
  · intro htrue
    have htrue : c.handlesDropped = true := htrue
    rw [hdropped] at htrue
    cases htrue
  · intro hclosed
    have hclosed : status.isClosed = true := hclosed
    rw [hopen'] at hclosed
    cases hclosed

/-- An exchange leaves the hand: its waiter heard, or never will. -/
theorem putDown (h : Controlled c) {completion : Completion} (hhand : c.hand = .held completion)
    (hkind : c.isClosed = false → completion.isPetition = false ∧ completion.isResign = false)
    {keepAliveAt : Option Nat} (hat : keepAliveAt = c.keepAliveAt ∨
      c.status.sessionId.isSome = true ∧ completion.isKeepAlive = true) (trace : List Action) :
    Controlled { c with trace, keepAliveAt, hand := .empty } := by
  have hlive : ∀ kind, c.live kind = (if kind completion then 1 else 0) +
      live { c with trace, keepAliveAt, hand := .empty } kind := by
    intro kind
    rw [live_of_held hhand, live_of_empty rfl]
  have hpetition := hlive isPetition
  have hkeepAlive := hlive isKeepAlive
  have hresign := hlive isResign
  have hpetitions := h.petitions
  have hkeepAlives := h.keepAlives
  have hresigns := h.resigns
  constructor
  · omega
  · omega
  · omega
  · exact h.applications
  · exact h.callers
  · intro hopen
    simp only [(hkind hopen).1, Bool.false_eq_true, if_false, Nat.zero_add] at hpetition
    rw [← hpetition]
    exact h.petitioning hopen
  · intro hopen hpos
    exact h.active hopen (by omega)
  · intro hsome
    rcases hat with hat | ⟨hactive, hkept⟩
    · obtain ⟨hactive, hzero⟩ := h.scheduled (by rw [← hat]; exact hsome)
      exact ⟨hactive, by omega⟩
    · rw [hkept] at hkeepAlive
      exact ⟨hactive, by simp only [if_true] at hkeepAlive; omega⟩
  · exact h.link
  · intro hdropped
    rcases h.dropped hdropped with hclosed | hpos
    · exact Or.inl hclosed
    cases hopen : c.isClosed with
    | true => exact Or.inl hopen
    | false =>
      simp only [(hkind hopen).2, Bool.false_eq_true, if_false, Nat.zero_add] at hresign
      right
      omega
  · exact h.atEnd

/-- A connected session petitions. -/
theorem petitioned (h : Controlled c) (hhand : c.hand = .empty) (hstatus : c.status = .connected)
    (channel nextChannel : Nat) (actions : List Action) :
    Controlled { c.did actions with status := .petitioning, hand := .unsent (.petition channel)
                                    nextChannel } := by
  have hopen : c.isClosed = false := by rw [isClosed, hstatus]; rfl
  obtain ⟨hkeepAlive, hresign, hnone, hdropped⟩ := h.unpetitioned hopen (by rw [hstatus]; rfl)
  have hpetition : c.live isPetition ≠ 1 := by
    intro hone
    cases hstatus.symm.trans ((h.petitioning hopen).mp hone)
  have hlive : ∀ kind, live { c.did actions with
      status := .petitioning, hand := .unsent (.petition channel), nextChannel } kind =
      (if kind (.petition channel) then 1 else 0) + c.live kind := by
    intro kind
    simp [live, did, hhand, Hand.completions, List.countP_cons]
  have hpetitions := h.petitions
  constructor
  · rw [hlive]; simp only [isPetition, if_true]; omega
  · rw [hlive, hkeepAlive]; simp [isKeepAlive]
  · rw [hlive, hresign]; simp [isResign]
  · exact h.applications
  · exact h.callers
  · intro _
    rw [hlive]
    simp only [isPetition, if_true, iff_true]
    omega
  · rw [hlive, hlive, hkeepAlive, hresign]
    simp [isKeepAlive, isResign]
  · intro hsome
    have hsome : c.keepAliveAt.isSome = true := hsome
    rw [hnone] at hsome
    cases hsome
  · have hlinkOpen : c.linkOpen = true := h.link.mpr ⟨(by rw [hstatus]; intro h; cases h), hopen⟩
    simp [did, isClosed, SessionStatus.isClosed, hlinkOpen]
  · intro htrue
    have htrue : c.handlesDropped = true := htrue
    rw [hdropped] at htrue
    cases htrue
  · intro hclosed; cases hclosed

/-- An idle session is opened again. -/
theorem reopened (h : Controlled c) (hopen : c.isClosed = false) (hlink : c.linkOpen = false)
    (answered : List Answered) (actions : List Action) :
    Controlled { c.did actions with linkOpen := true, status := .connected, answered } := by
  have hidle : c.status = .idle := by
    by_contra hnot
    cases hlink.symm.trans (h.link.mpr ⟨hnot, hopen⟩)
  obtain ⟨hkeepAlive, hresign, hnone, hdropped⟩ := h.unpetitioned hopen (by rw [hidle]; rfl)
  have hpetition : c.live isPetition ≠ 1 := by
    intro hone
    cases hidle.symm.trans ((h.petitioning hopen).mp hone)
  constructor
  · exact h.petitions
  · exact h.keepAlives
  · exact h.resigns
  · exact h.applications
  · exact h.callers
  · intro _
    exact ⟨fun hone => absurd hone hpetition, fun h => by cases h⟩
  · intro _ hpos
    have hpos : 0 < c.live isKeepAlive + c.live isResign := hpos
    omega
  · intro hsome
    have hsome : c.keepAliveAt.isSome = true := hsome
    rw [hnone] at hsome
    cases hsome
  · simp [isClosed, SessionStatus.isClosed]
  · intro htrue
    have htrue : c.handlesDropped = true := htrue
    rw [hdropped] at htrue
    cases htrue
  · intro hclosed; cases hclosed

/-- A session-control exchange of an active session is taken up. -/
theorem taken (h : Controlled c) (hhand : c.hand = .empty)
    (hactive : c.status.sessionId.isSome = true) {completion : Completion}
    (hkind : completion.isKeepAlive = true ∨ completion.isResign = true)
    (hkeepAlive : completion.isKeepAlive = true → c.live isKeepAlive = 0)
    (hresign : completion.isResign = true → c.live isResign = 0) {handlesDropped : Bool}
    (hdropped : handlesDropped = true → c.handlesDropped = true ∨ completion.isResign = true)
    (nextChannel : Nat) :
    Controlled { c with keepAliveAt := none, hand := .unsent completion, nextChannel
                        handlesDropped } := by
  have hlive : ∀ kind, live { c with keepAliveAt := none, hand := .unsent completion
                                     nextChannel, handlesDropped } kind =
      (if kind completion then 1 else 0) + c.live kind := by
    intro kind
    simp [live, hhand, Hand.completions, List.countP_cons]
  have hpetition : completion.isPetition = false := by
    cases completion <;> simp_all [isPetition, isKeepAlive, isResign]
  have hpetitions := h.petitions
  have hkeepAlives := h.keepAlives
  have hresigns := h.resigns
  constructor
  · rw [hlive, hpetition]; simpa using hpetitions
  · rw [hlive]
    split
    · rw [hkeepAlive (by assumption)]
    · omega
  · rw [hlive]
    split
    · rw [hresign (by assumption)]
    · omega
  · exact h.applications
  · exact h.callers
  · intro hopen
    rw [hlive, hpetition]
    simpa using h.petitioning hopen
  · intro _ _; exact hactive
  · intro hat; cases hat
  · exact h.link
  · intro htrue
    rw [hlive]
    rcases hdropped htrue with hdropped | hresigning
    · rcases h.dropped hdropped with hclosed | hpos
      · exact Or.inl hclosed
      · right; omega
    · right; rw [hresigning]; simp
  · exact h.atEnd

/-! ## §3. Every move. -/

/-- **Every move keeps the rules.** -/
theorem step (h : Controlled c) (hmove : Move c c') : Controlled c' := by
  cases hmove with
  | tick now _ => exact { h with }
  | note action _ _ => exact { h with }
  | retransmit pending message _ => exact { h with }
  | expire expired kept _ _ => exact { h with }
  | remember origin messageId reply _ _ => exact { h with }
  | relay joiners hopen =>
    refine { h with atEnd := ?_ }
    intro hclosed
    cases hopen.symm.trans hclosed
  | touch before after old new hflight _ _ hcompletion =>
    have hcount : ∀ kind : Completion → Bool,
        (before ++ new :: after).countP (fun pending => kind pending.completion) =
          c.inFlight.countP (fun pending => kind pending.completion) := by
      intro kind
      rw [hflight]
      simp only [List.countP_append, List.countP_cons, hcompletion]
    refine h.carry rfl rfl rfl rfl ?_ ?_ h.callers ?_
    · intro kind _
      simp only [live, hcount]
    · rw [hcount]
      exact h.applications
    · intro hclosed
      exact absurd hclosed (h.open_of_inFlight hflight)
  | withdrawQueued id before after entry _ hqueued _ =>
    refine { h with callers := ?_, atEnd := ?_ }
    · intro other hother
      refine h.callers other ?_
      rw [hqueued]
      exact (List.Sublist.append_left (List.sublist_cons_self entry after) before).subset hother
    · intro hclosed
      have hnone := (h.atEnd hclosed).2.1
      rw [hqueued] at hnone
      simp at hnone
  | withdrawInFlight id before after pending hhand _ hflight hcaller =>
    have happlication : pending.completion.isApplication = true := by
      cases hcompletion : pending.completion <;>
        simp_all [isCaller, isApplication]
    have hsplit := countP_split hflight
    refine h.carry rfl rfl rfl rfl ?_ ?_ h.callers ?_
    · intro kind hkind
      have hkind := hkind _ happlication
      simp [live, did, hsplit kind, hkind]
    · have hle := h.applications
      rw [hsplit isApplication] at hle
      simp only
      omega
    · intro hclosed
      exact absurd hclosed (h.open_of_inFlight hflight)
  | withdrawNothing id _ _ _ => exact { h with }
  | pop request completion queued hhand hopen hfree hqueued =>
    have happlication : completion.isApplication = true :=
      h.callers (request, completion) (by rw [hqueued]; exact List.mem_cons_self)
    refine h.carry rfl rfl rfl rfl ?_ h.applications ?_ ?_
    · intro kind hkind
      have hkind := hkind _ happlication
      simp [live, hhand, Hand.completions, hkind]
    · intro entry hentry
      exact h.callers entry (by rw [hqueued]; exact List.mem_cons_of_mem _ hentry)
    · intro hclosed
      cases hopen.symm.trans hclosed
  | transmit completion message hhand =>
    refine h.carry rfl rfl rfl rfl ?_ h.applications h.callers h.atEnd
    intro kind _
    simp [live, did, hhand, Hand.completions]
  | giveUp completion hhand =>
    refine h.carry rfl rfl rfl rfl ?_ h.applications h.callers h.atEnd
    intro kind _
    simp [live, hhand, Hand.completions]
  | launch pending hhand hopen hfree _ _ =>
    refine h.carry rfl rfl rfl rfl ?_ ?_ h.callers ?_
    · intro kind _
      rw [live_of_held hhand, live_of_empty rfl]
      simp only [List.countP_append, List.countP_singleton]
      omega
    · have hle := h.applications
      simp only [List.countP_append, List.countP_singleton]
      split
      · rw [hfree (by assumption)]
      · omega
    · intro hclosed
      cases hopen.symm.trans hclosed
  | take before after pending hhand hflight =>
    have hsplit := countP_split hflight
    refine h.carry rfl rfl rfl rfl ?_ ?_ h.callers ?_
    · intro kind _
      rw [live_of_empty hhand, live_of_held rfl, hsplit]
    · have hle := h.applications
      rw [hsplit isApplication] at hle
      simp only
      omega
    · intro hclosed
      exact absurd hclosed (h.open_of_inFlight hflight)
  | deliver completion reply hhand hkind =>
    refine h.putDown hhand ?_ (Or.inl rfl) _
    intro hopen
    cases completion with
    | caller id channel => exact ⟨rfl, rfl⟩
    | keepAlive channel => exact ⟨rfl, rfl⟩
    | petition channel => rcases hkind hopen with hfalse | hfalse <;> cases hfalse
    | resign channel => rcases hkind hopen with hfalse | hfalse <;> cases hfalse
  | petition hhand hstatus => exact h.petitioned hhand hstatus _ _ _
  | refused channel reply hhand hopen =>
    exact h.petitionSettled hhand hopen (Or.inl rfl) (Or.inl rfl) _
  | granted channel sessionId keepAliveAt reply hhand hopen =>
    exact h.petitionSettled hhand hopen (Or.inr ⟨sessionId, rfl⟩) (Or.inr rfl) _
  | keepAlive waiter hhand hactive hnone =>
    refine h.taken hhand hactive (Or.inl rfl) ?_ ?_ (fun hdropped => Or.inl hdropped) _
    · intro _
      rw [live_of_empty hhand]
      exact hnone
    · intro hfalse; cases hfalse
  | kept channel keepAliveAt reply hhand hactive =>
    exact h.putDown hhand (fun _ => ⟨rfl, rfl⟩) (Or.inr ⟨hactive, rfl⟩) _
  | resign waiter dropped hhand hactive hnone =>
    refine h.taken hhand hactive (Or.inr rfl) ?_ ?_ (fun _ => Or.inr rfl) _
    · intro hfalse; cases hfalse
    · intro _
      rw [live_of_empty hhand]
      exact hnone
  | dropped hend =>
    refine { h with dropped := ?_ }
    intro _
    rcases hend with hclosed | hpos
    · exact Or.inl hclosed
    · right
      simp only [live]
      omega
  | reopen hopen hlink => exact h.reopened hopen hlink _ _
  | idle hhand hopen hnone _ _ => exact h.idled hhand hopen hnone
  | endSession reason _ => exact h.ended reason
  | discard completion hhand hclosed =>
    refine h.putDown hhand ?_ (Or.inl rfl) _
    intro hopen
    cases hopen.symm.trans hclosed

theorem intake {id? : Option UInt64} (h : Controlled c) (hintake : Intake id? c c') :
    Controlled c' := by
  cases hintake with
  | answer waiter reply _ => exact { h with }
  | accept id request _ hopen =>
    refine { h with callers := ?_, atEnd := ?_ }
    · intro entry hentry
      rcases List.mem_append.mp hentry with hentry | hentry
      · exact h.callers entry hentry
      · rw [List.mem_singleton.mp hentry]
        rfl
    · intro hclosed
      cases hopen.symm.trans hclosed

end Controlled

end Meshcop
