/-
  Meshcop.Driver.Ordering — the order and the place of the handles' requests.

  A handle's request is accepted into the queue, sent when its turn comes, and leaves the tables
  when its waiter is told or the handle withdraws it.  The line of those not yet sent only moves
  forward: what was sent, followed by the line, is a part of what was accepted.

  Main results:
    * `Move.queueStep`      — what a move does to the line and to a request that is in no table;
    * `Orderly.step`        — order and place, kept by every move;
    * `requests_keep_order` — order, place, outcome and withdrawal, over any run.
-/

import Meshcop.Driver.Accounts
import Meshcop.Driver.RunMoves

namespace Meshcop

open Lib SessionCore Completion

/-! ## §1. What a history says of a request. -/

/-- The id of a handle's request. -/
def Completion.callerId? : Completion → Option UInt64
  | .caller id _ => some id
  | _ => none

namespace Action

def acceptedId? : Action → Option UInt64
  | .accepted id => some id
  | _ => none

/-- The id of a handle's request that is sent for the first time. -/
def launchedId? : Action → Option UInt64
  | .sent (.request completion) _ => completion.callerId?
  | _ => none

/-- Whether a request is sent, sent again, or gets its outcome. -/
def concerns (id : UInt64) : Action → Bool
  | .sent (.request completion) _ | .sent (.retransmission completion) _ => completion.isCaller id
  | .delivered waiter _ => waiter.isCaller id
  | _ => false

/-- Whether a request gets an outcome. -/
def isOutcomeFor (id : UInt64) : Action → Bool
  | .delivered waiter _ | .answeredAtOnce waiter _ => waiter.isCaller id
  | _ => false

/-- Whether a command with this request was taken: into the queue, or answered at once. -/
def isTakenFor (id : UInt64) : Action → Bool
  | .accepted id' => id' = id
  | .answeredAtOnce waiter _ => waiter.isCaller id
  | _ => false

/-- Actions that say nothing of a request in the tables. -/
def isInert : Action → Bool
  | .sent .other _ => true
  | .sent _ _ | .accepted _ | .withdrawn _ | .delivered _ _ | .answeredAtOnce _ _ => false
  | _ => true

end Action

/-- The requests that were accepted, in order. -/
def acceptedIds (trace : List Action) : List UInt64 := trace.filterMap Action.acceptedId?

/-- The requests that were sent, in the order of their first transmissions. -/
def launchedIds (trace : List Action) : List UInt64 := trace.filterMap Action.launchedId?

namespace SessionCore

variable (c : SessionCore)

/-- The requests that were accepted and have not been sent. -/
def line : List UInt64 :=
  (match c.hand with
    | .unsent completion => completion.callerId?.toList
    | _ => []) ++ c.queued.filterMap (fun entry => entry.2.callerId?)

theorem placed_eq (kind : Completion → Bool) :
    c.placed kind = (c.hand.completions ++ c.tabled).countP kind := by
  rw [List.countP_append, countP_tabled, placed, live, Nat.add_assoc]

theorem placed_pos {kind : Completion → Bool} {completion : Completion}
    (hmem : completion ∈ c.hand.completions ++ c.tabled) (hkind : kind completion = true) :
    0 < c.placed kind := by
  rw [placed_eq, List.countP_pos_iff]
  exact ⟨completion, hmem, hkind⟩

end SessionCore

variable {completion : Completion}

theorem Completion.isCaller_of_control (h : completion.isApplication = false) (id : UInt64) :
    completion.isCaller id = false := by
  cases completion with
  | caller => cases h
  | _ => rfl

/-! ## §2. One move. -/

/-- What a move says of the requests in the tables. -/
structure QueueStep (c c' : SessionCore) (actions : List Action) : Prop where
  trace : c'.trace = c.trace ++ actions
  accepted : acceptedIds actions = []
  line : (launchedIds actions ++ c'.line).Sublist c.line
  concerned : ∀ id, ∀ action ∈ actions, action.concerns id = true →
    0 < c.placed (isCaller id)
  withdrawn : ∀ id, .withdrawn id ∈ actions → actions = [.withdrawn id] ∧
    (c'.placed (isCaller id) = 0 ∨
      c'.placed (isCaller id) < c.placed (isCaller id))
  answered : ∀ waiter reply, .answeredAtOnce waiter reply ∉ actions

variable {c c' : SessionCore} {actions : List Action}

/-- A move that tells of nothing but outcomes of exchanges in the tables. -/
theorem QueueStep.of_told (htrace : c'.trace = c.trace ++ actions)
    (hline : c'.line.Sublist c.line) (htold : ∀ action ∈ actions, action.isInert = true ∨
      ∃ completion ∈ c.hand.completions ++ c.tabled, ∃ reply,
        action = .delivered completion reply) : QueueStep c c' actions := by
  have haccepted : acceptedIds actions = [] := by
    refine List.filterMap_eq_nil_iff.mpr ?_
    intro action hmem
    rcases htold action hmem with hinert | ⟨completion, -, reply, rfl⟩
    · cases action with
      | accepted => cases hinert
      | _ => rfl
    · rfl
  have hlaunched : launchedIds actions = [] := by
    refine List.filterMap_eq_nil_iff.mpr ?_
    intro action hmem
    rcases htold action hmem with hinert | ⟨completion, -, reply, rfl⟩
    · cases action with
      | sent kind =>
        cases kind with
        | other | retransmission => rfl
        | request => cases hinert
      | _ => rfl
    · rfl
  refine ⟨htrace, haccepted, ?_, ?_, ?_, ?_⟩
  · rw [hlaunched]
    exact hline
  · intro id action hmem hconcerns
    rcases htold action hmem with hinert | ⟨completion, hplaced, reply, rfl⟩
    · cases action with
      | sent kind =>
        cases kind with
        | other => cases hconcerns
        | _ => cases hinert
      | delivered => cases hinert
      | _ => cases hconcerns
    · exact c.placed_pos hplaced hconcerns
  · intro id hmem
    rcases htold _ hmem with hinert | ⟨_, -, _, hfalse⟩
    · cases hinert
    · cases hfalse
  · intro waiter reply hmem
    rcases htold _ hmem with hinert | ⟨_, -, _, hfalse⟩
    · cases hinert
    · cases hfalse

/-- A move that tells of nothing. -/
theorem QueueStep.of_silent (htrace : c'.trace = c.trace) (hline : c'.line.Sublist c.line) :
    QueueStep c c' [] :=
  .of_told (htrace.trans (List.append_nil _).symm) hline (List.forall_mem_nil _)

/-- A move that tells of one inert action. -/
theorem QueueStep.of_inert (htrace : c'.trace = c.trace ++ actions)
    (hline : c'.line.Sublist c.line) (hinert : ∀ action ∈ actions, action.isInert = true) :
    QueueStep c c' actions :=
  .of_told htrace hline (fun action hmem => Or.inl (hinert action hmem))

/-- A move that sends a request of the tables. -/
theorem QueueStep.of_sent {kind : SendKind} {message : CoapMessage}
    (hkind : kind = .request completion ∨ kind = .retransmission completion)
    (htrace : c'.trace = c.trace ++ [.sent kind message])
    (hline : (launchedIds [.sent kind message] ++ c'.line).Sublist c.line)
    (hplaced : completion ∈ c.hand.completions ++ c.tabled) :
    QueueStep c c' [.sent kind message] := by
  refine ⟨htrace, rfl, hline, ?_, ?_, ?_⟩
  · intro id action hmem hconcerns
    rw [List.mem_singleton.mp hmem] at hconcerns
    rcases hkind with rfl | rfl
    · exact c.placed_pos hplaced hconcerns
    · exact c.placed_pos hplaced hconcerns
  · intro id hmem
    cases List.mem_singleton.mp hmem
  · intro waiter reply hmem
    cases List.mem_singleton.mp hmem

/-- A move that withdraws a request. -/
theorem QueueStep.of_withdrawn {id : UInt64} (htrace : c'.trace = c.trace ++ [.withdrawn id])
    (hline : c'.line.Sublist c.line) (hplaced : c'.placed (isCaller id) = 0 ∨
      c'.placed (isCaller id) < c.placed (isCaller id)) :
    QueueStep c c' [.withdrawn id] := by
  refine ⟨htrace, rfl, hline, ?_, ?_, ?_⟩
  · intro id' action hmem hconcerns
    rw [List.mem_singleton.mp hmem] at hconcerns
    cases hconcerns
  · intro id' hmem
    cases List.mem_singleton.mp hmem
    exact ⟨rfl, hplaced⟩
  · intro waiter reply hmem
    cases List.mem_singleton.mp hmem

theorem Completion.told_hand {reply : Reply} {action : Action} (hhand : c.hand = .held completion)
    (h : action ∈ completion.tell reply) : ∃ completion ∈ c.hand.completions ++ c.tabled, ∃ reply,
      action = .delivered completion reply := by
  refine ⟨completion, List.mem_append_left _ ?_, reply, mem_tell h⟩
  rw [hhand]
  exact List.mem_singleton_self completion

/-- **What a move does to the line of requests and tells of those in the tables.** -/
theorem Move.queueStep (h : Move c c') : ∃ actions, QueueStep c c' actions := by
  cases h with
  | tick | relay | touch | dropped | expire => exact ⟨[], .of_silent rfl (.refl _)⟩
  | note action hneutral _ =>
    refine ⟨[action], .of_inert rfl (.refl _) ?_⟩
    intro action' hmem
    rw [List.mem_singleton.mp hmem]
    cases action with
    | sent kind =>
      cases kind with
      | other => rfl
      | _ => cases hneutral
    | accepted | withdrawn | delivered | answeredAtOnce => cases hneutral
    | _ => rfl
  | retransmit pending message hmem =>
    refine ⟨_, .of_sent (Or.inr rfl) rfl (.refl _) (List.mem_append_right _ ?_)⟩
    exact List.mem_append_left _ (List.mem_map_of_mem hmem)
  | withdrawQueued id before after entry _ hqueued hcaller =>
    refine ⟨_, .of_withdrawn rfl ?_ (Or.inr ?_)⟩
    · refine List.Sublist.append (.refl _) ?_
      rw [hqueued]
      exact (List.Sublist.append (.refl _) (List.sublist_cons_self _ _)).filterMap _
    · simp only [placed, live, did, hqueued, List.countP_append, List.countP_cons, hcaller, if_true]
      omega
  | withdrawInFlight id before after pending _ _ hflight hcaller =>
    refine ⟨_, .of_withdrawn rfl (.refl _) (Or.inr ?_)⟩
    simp only [placed, live, did, hflight, List.countP_append, List.countP_cons, hcaller, if_true]
    omega
  | withdrawNothing id hhand hqueued hflight =>
    refine ⟨_, .of_withdrawn rfl (.refl _) (Or.inl ?_)⟩
    have hflight : c.inFlight.countP (fun pending => pending.completion.isCaller id) = 0 :=
      List.countP_eq_zero.mpr (fun pending hmem => by rw [hflight pending hmem]; intro h; cases h)
    have hqueued : c.queued.countP (fun entry => entry.2.isCaller id) = 0 :=
      List.countP_eq_zero.mpr (fun entry hmem => by rw [hqueued entry hmem]; intro h; cases h)
    simp only [placed, live, did, hflight, hqueued, hhand, Hand.completions, List.countP_nil]
  | pop request completion queued hhand _ _ hqueued =>
    -- the first of the queue is now the unsent request at hand
    refine ⟨[], .of_silent rfl ?_⟩
    simp only [line, hhand, hqueued, List.filterMap_cons]
    cases completion.callerId? with
    | none => exact .refl _
    | some id => exact .refl _
  | transmit completion message hhand =>
    refine ⟨_, .of_sent (Or.inl rfl) rfl ?_ (List.mem_append_left _ ?_)⟩
    · simp only [line, did, hhand, launchedIds, List.filterMap_cons,
        List.filterMap_nil, Action.launchedId?]
      cases completion.callerId? with
      | none => exact .refl _
      | some id => exact .refl _
    · rw [hhand]
      exact List.mem_singleton_self completion
  | giveUp completion hhand =>
    refine ⟨[], .of_silent rfl ?_⟩
    simp only [line, hhand]
    exact List.sublist_append_right _ _
  | launch pending hhand _ _ _ _ =>
    refine ⟨[], .of_silent rfl ?_⟩
    simp only [line, hhand]
    exact .refl _
  | take before after pending hhand hflight =>
    refine ⟨[], .of_silent rfl ?_⟩
    simp only [line, hhand]
    exact .refl _
  | discard completion hhand _ =>
    refine ⟨[], .of_silent rfl ?_⟩
    simp only [line, hhand]
    exact .refl _
  | deliver completion reply hhand _ =>
    refine ⟨_, .of_told rfl ?_ (fun _ hmem => Or.inr (told_hand hhand hmem))⟩
    simp only [line, did, hhand]
    exact .refl _
  | kept channel keepAliveAt reply hhand _ =>
    refine ⟨_, .of_told rfl ?_ (fun _ hmem => Or.inr (told_hand hhand hmem))⟩
    simp only [line, did, hhand]
    exact .refl _
  | refused channel reply hhand _ =>
    refine ⟨_, .of_told rfl ?_ ?_⟩
    · simp only [line, did, hhand]
      exact .refl _
    · intro action hmem
      rcases List.mem_cons.mp hmem with rfl | htell
      · exact Or.inl rfl
      · exact Or.inr (told_hand hhand htell)
  | granted channel sessionId keepAliveAt reply hhand _ =>
    refine ⟨_, .of_told rfl ?_ ?_⟩
    · simp only [line, did, hhand]
      exact .refl _
    · intro action hmem
      rcases List.mem_cons.mp hmem with rfl | htell
      · exact Or.inl rfl
      · exact Or.inr (told_hand hhand htell)
  | petition hhand _ =>
    refine ⟨_, .of_inert rfl ?_ ?_⟩
    · simp only [line, did, hhand]
      exact .refl _
    · intro action hmem
      rw [List.mem_singleton.mp hmem]
      rfl
  | keepAlive waiter hhand _ _ =>
    refine ⟨[], .of_silent rfl ?_⟩
    simp only [line, hhand]
    exact .refl _
  | resign waiter dropped hhand _ _ =>
    refine ⟨[], .of_silent rfl ?_⟩
    simp only [line, hhand]
    exact .refl _
  | reopen =>
    refine ⟨_, .of_inert rfl (.refl _) ?_⟩
    intro action hmem
    rcases List.mem_cons.mp hmem with rfl | hmem
    · rfl
    · rw [List.mem_singleton.mp hmem]
      rfl
  | remember =>
    refine ⟨_, .of_inert rfl (.refl _) ?_⟩
    intro action hmem
    rw [List.mem_singleton.mp hmem]
    rfl
  | idle hhand _ _ _ _ =>
    refine ⟨_, .of_told rfl ?_ ?_⟩
    · simp only [line, idled, did, List.filterMap_nil, List.append_nil]
      exact List.sublist_append_left _ _
    · intro action hmem
      rcases List.mem_append.mp hmem with htell | hstatus
      · rcases mem_tellIdle htell with rfl | ⟨completion, htabled, rfl⟩
        · exact Or.inl rfl
        · exact Or.inr ⟨completion, List.mem_append_right _ htabled, _, rfl⟩
      · rw [List.mem_singleton.mp hstatus]
        exact Or.inl rfl
  | endSession reason _ =>
    refine ⟨_, .of_told rfl ?_ ?_⟩
    · simp only [line, ended, did, List.filterMap_nil, List.append_nil]
      exact List.sublist_append_left _ _
    · intro action hmem
      rcases List.mem_cons.mp hmem with rfl | hmem
      · exact Or.inl rfl
      rcases List.mem_cons.mp hmem with rfl | hmem
      · exact Or.inl rfl
      rcases List.mem_append.mp hmem with htell | hloss
      · obtain ⟨completion, htabled, rfl⟩ := mem_tellFailed htell
        exact Or.inr ⟨completion, List.mem_append_right _ htabled, _, rfl⟩
      · rw [CloseReason.mem_loss hloss]
        exact Or.inl rfl

/-! ## §3. Order and place. -/

/-- What was sent and the line are a part of what was accepted, in order; each accepted request
    is in one place or has had its outcome; and a withdrawn one is gone. -/
structure Orderly (c : SessionCore) : Prop where
  order : (launchedIds c.trace ++ c.line).Sublist (acceptedIds c.trace)
  placed : ∀ id, c.account (isCaller id) ≤ (acceptedIds c.trace).count id
  withdrawn : (acceptedIds c.trace).Nodup → ∀ id before after,
    c.trace = before ++ .withdrawn id :: after → id ∈ acceptedIds before →
      c.placed (isCaller id) = 0 ∧ ∀ action ∈ after, action.concerns id = false

namespace Orderly

variable {c c' : SessionCore} {actions : List Action}

/-- A request that is in no table stays out, and nothing is told of it. -/
theorem still_gone {id : UInt64} (hgone : c.placed (isCaller id) = 0)
    (htrace : c'.trace = c.trace ++ actions)
    (haccount : c'.account (isCaller id) ≤ c.account (isCaller id)) :
    c'.placed (isCaller id) = 0 := by
  have hmore : c.delivered (isCaller id) ≤ c'.delivered (isCaller id) := by
    rw [delivered, delivered, htrace, List.countP_append]
    exact Nat.le_add_right _ _
  unfold account at haccount
  omega

theorem queueStep (h : Orderly c) (hstep : QueueStep c c' actions)
    (haccount : ∀ id, c'.account (isCaller id) ≤ c.account (isCaller id)) :
    Orderly c' := by
  have haccepted : acceptedIds c'.trace = acceptedIds c.trace := by
    rw [hstep.trace]
    show (c.trace ++ actions).filterMap _ = _
    rw [List.filterMap_append]
    show acceptedIds c.trace ++ acceptedIds actions = _
    rw [hstep.accepted, List.append_nil]
  refine ⟨?_, ?_, ?_⟩
  · rw [haccepted, hstep.trace]
    show ((c.trace ++ actions).filterMap _ ++ _).Sublist _
    rw [List.filterMap_append, List.append_assoc]
    exact (List.Sublist.append (.refl _) hstep.line).trans h.order
  · intro id
    rw [haccepted]
    exact Nat.le_trans (haccount id) (h.placed id)
  · intro hnodup id before after hsplit hid
    rw [haccepted] at hnodup
    rw [hstep.trace] at hsplit
    rcases split_append hsplit with ⟨rest, hbefore, rfl⟩ | ⟨first, hactions, hbefore⟩
    · obtain ⟨hgone, hsilent⟩ := h.withdrawn hnodup id before rest hbefore hid
      refine ⟨still_gone hgone hstep.trace (haccount id), ?_⟩
      intro action hmem
      rcases List.mem_append.mp hmem with hold | hnew
      · exact hsilent action hold
      · refine Bool.eq_false_iff.mpr (fun hconcerns => ?_)
        have hpos := hstep.concerned id action hnew hconcerns
        omega
    · -- the withdrawal itself: at most one place was taken, and it is given up
      have hmem : .withdrawn id ∈ actions := by
        rw [hactions]
        exact List.mem_append_right _ List.mem_cons_self
      obtain ⟨hsingle, hplaced⟩ := hstep.withdrawn id hmem
      have hafter : after = [] := by
        have hlength := congrArg List.length (hactions.symm.trans hsingle)
        simp only [List.length_append, List.length_cons, List.length_nil] at hlength
        exact List.eq_nil_of_length_eq_zero (by omega)
      have hone := List.nodup_iff_count_le_one.mp hnodup id
      have haccounted := h.placed id
      unfold account at haccounted
      subst hafter
      exact ⟨by omega, List.forall_mem_nil _⟩

/-- **Every move keeps order and place.** -/
theorem step (h : Orderly c) (hmove : Move c c') : Orderly c' := by
  obtain ⟨actions, hstep⟩ := hmove.queueStep
  obtain ⟨started, hstarted, haccount⟩ := hmove.account
  refine h.queueStep hstep (fun id => ?_)
  have haccount := haccount (isCaller id)
  cases hstarted with
  | none => exact haccount
  | control completion _ hcontrol _ _ =>
    rw [List.countP_singleton, isCaller_of_control hcontrol] at haccount
    exact haccount

/-- **An intake keeps order and place**: an accepted request goes to the end of the line. -/
theorem intake {id? : Option UInt64} (h : Orderly c) (hintake : Intake id? c c') : Orderly c' := by
  cases hintake with
  | answer waiter reply _ =>
    have haccepted : acceptedIds (c.trace ++ [.answeredAtOnce (waiter c.nextChannel) reply]) =
        acceptedIds c.trace := by
      simp [acceptedIds, Action.acceptedId?]
    have hlaunched : launchedIds (c.trace ++ [.answeredAtOnce (waiter c.nextChannel) reply]) =
        launchedIds c.trace := by
      simp [launchedIds, Action.launchedId?]
    refine ⟨?_, ?_, ?_⟩
    · show (launchedIds (_ ++ _) ++ c.line).Sublist (acceptedIds (_ ++ _))
      rw [haccepted, hlaunched]
      exact h.order
    · intro id
      show c.placed _ + List.countP _ (_ ++ _) ≤ (acceptedIds (_ ++ _)).count id
      rw [haccepted, List.countP_append]
      exact h.placed id
    · intro hnodup id before after hsplit hid
      have hnodup : (acceptedIds (_ ++ _)).Nodup := hnodup
      rw [haccepted] at hnodup
      rcases split_append hsplit with ⟨rest, hbefore, rfl⟩ | ⟨first, hactions, -⟩
      · obtain ⟨hgone, hsilent⟩ := h.withdrawn hnodup id before rest hbefore hid
        refine ⟨hgone, fun action hmem => ?_⟩
        rcases List.mem_append.mp hmem with hold | hnew
        · exact hsilent action hold
        · rw [List.mem_singleton.mp hnew]
          rfl
      · have hmem : Action.withdrawn id ∈ [.answeredAtOnce (waiter c.nextChannel) reply] := by
          rw [hactions]
          exact List.mem_append_right _ List.mem_cons_self
        cases List.mem_singleton.mp hmem
  | accept id request _ _ =>
    have haccepted : acceptedIds (c.trace ++ [.accepted id]) = acceptedIds c.trace ++ [id] := by
      simp [acceptedIds, Action.acceptedId?]
    have hlaunched : launchedIds (c.trace ++ [.accepted id]) = launchedIds c.trace := by
      simp [launchedIds, Action.launchedId?]
    refine ⟨?_, ?_, ?_⟩
    · show (launchedIds (_ ++ _) ++ (_ ++ (c.queued ++ _).filterMap _)).Sublist
        (acceptedIds (_ ++ _))
      rw [haccepted, hlaunched, List.filterMap_append, ← List.append_assoc, ← List.append_assoc]
      exact List.Sublist.append (by rw [List.append_assoc]; exact h.order) (.refl [id])
    · intro id'
      show c.live _ + (c.queued ++ _).countP _ + (c.trace ++ _).countP _ ≤
        (acceptedIds (_ ++ _)).count id'
      have hplaced : c.live (isCaller id') + _ + c.trace.countP _ ≤ _ := h.placed id'
      have hqueued : [(request, caller id c.nextChannel)].countP
          (fun entry => entry.2.isCaller id') = [id].count id' := rfl
      have hquiet : [Action.accepted id].countP (Action.isDeliveredTo (isCaller id')) = 0 := rfl
      rw [haccepted, List.countP_append, List.countP_append, List.count_append, hqueued, hquiet]
      omega
    · intro hnodup id' before after hsplit hid'
      have hnodup : (acceptedIds (_ ++ _)).Nodup := hnodup
      rw [haccepted] at hnodup
      obtain ⟨hbefore, -, hdisjoint⟩ := List.nodup_append.mp hnodup
      rcases split_append hsplit with ⟨rest, htrace, rfl⟩ | ⟨first, hactions, -⟩
      · obtain ⟨hgone, hsilent⟩ := h.withdrawn hbefore id' before rest htrace hid'
        have hother : id' ≠ id := by
          refine hdisjoint id' ?_ id (List.mem_singleton_self id)
          rw [htrace]
          show id' ∈ List.filterMap _ (_ ++ _)
          rw [List.filterMap_append]
          exact List.mem_append_left _ hid'
        refine ⟨?_, fun action hmem => ?_⟩
        · show c.live _ + (c.queued ++ [_]).countP _ = 0
          rw [List.countP_append, List.countP_singleton, if_neg]
          · exact hgone
          · exact fun hcaller => hother (of_decide_eq_true hcaller).symm
        · rcases List.mem_append.mp hmem with hold | hnew
          · exact hsilent action hold
          · rw [List.mem_singleton.mp hnew]
            rfl
      · have hmem : Action.withdrawn id' ∈ [Action.accepted id] := by
          rw [hactions]
          exact List.mem_append_right _ List.mem_cons_self
        cases List.mem_singleton.mp hmem

end Orderly

/-! ## §4. Runs. -/

/-- A move takes no command. -/
theorem QueueStep.countP_isTakenFor (h : QueueStep c c' actions) (id : UInt64) :
    c'.trace.countP (Action.isTakenFor id) = c.trace.countP (Action.isTakenFor id) := by
  have hnone : actions.countP (Action.isTakenFor id) = 0 := by
    rw [List.countP_eq_zero]
    intro action hmem htaken
    cases action with
    | accepted id' =>
      have haccepted : id' ∈ acceptedIds actions := List.mem_filterMap.mpr ⟨_, hmem, rfl⟩
      rw [h.accepted] at haccepted
      cases haccepted
    | answeredAtOnce waiter reply => exact h.answered waiter reply hmem
    | _ => cases htaken
  rw [h.trace, List.countP_append, hnone, Nat.add_zero]

/-- An intake takes the command that it serves, once. -/
theorem Intake.countP_isTakenFor_le {id? : Option UInt64} (h : Intake id? c c') (id : UInt64) :
    c'.trace.countP (Action.isTakenFor id) ≤
      c.trace.countP (Action.isTakenFor id) + id?.toList.count id := by
  cases h with
  | answer waiter reply hid =>
    show (c.trace ++ [_]).countP _ ≤ _
    rw [List.countP_append, List.countP_singleton]
    refine Nat.add_le_add_left ?_ _
    split
    · rename_i hcaller
      rw [hid _ id hcaller]
      show 1 ≤ [id].count id
      rw [List.count_singleton_self]
    · exact Nat.zero_le _
  | accept id' request hid _ =>
    show (c.trace ++ [_]).countP _ ≤ _
    rw [List.countP_append, hid]
    exact Nat.le_refl _

namespace Driver

variable {env : Env}

variable {d : Driver env}

theorem Serves.countP_isTakenFor_le {id? : Option UInt64} {d' : Driver env} (h : Serves id? d d')
    (id : UInt64) : d'.trace.countP (Action.isTakenFor id) ≤
      d.trace.countP (Action.isTakenFor id) + id?.toList.count id := by
  have hmoves : ∀ {c c' : SessionCore}, Moves c c' →
      c'.trace.countP (Action.isTakenFor id) = c.trace.countP (Action.isTakenFor id) := by
    intro c c' hmoves
    refine hmoves.invariant (I := fun c' => c'.trace.countP (Action.isTakenFor id) =
      c.trace.countP (Action.isTakenFor id)) ?_ rfl
    intro c₁ c₂ h hmove
    obtain ⟨actions, hstep⟩ := hmove.queueStep
    exact (hstep.countP_isTakenFor id).trans h
  obtain ⟨⟨c₁, c₂, hbefore, hmiddle, hafter⟩, -⟩ := h
  have hbefore : c₁.trace.countP _ = d.trace.countP _ := hmoves hbefore
  have hafter : d'.trace.countP _ = c₂.trace.countP _ := hmoves hafter
  rw [hafter, ← hbefore]
  rcases hmiddle with rfl | hintake
  · exact Nat.le_add_right _ _
  · exact hintake.countP_isTakenFor_le id

/-- In any run a request is taken at most as often as a command brought it. -/
theorem run_countP_isTakenFor_le (hsound : Sound d) (wakes : List (Wake env)) (id : UInt64) :
    (d.run wakes).trace.countP (Action.isTakenFor id) ≤
      d.trace.countP (Action.isTakenFor id) + (wakes.filterMap Wake.requestId?).count id := by
  induction wakes generalizing d with
  | nil => exact Nat.le_refl _
  | cons wake wakes ih =>
    have hserves := step_serves hsound wake
    have hstep := hserves.countP_isTakenFor_le id
    have hrest := ih (hsound.served hserves)
    have hcount : ((wake :: wakes).filterMap Wake.requestId?).count id =
        wake.requestId?.toList.count id + (wakes.filterMap Wake.requestId?).count id := by
      rw [List.filterMap_cons]
      cases wake.requestId? with
      | none => exact (Nat.zero_add _).symm
      | some id' =>
        show ([id'] ++ wakes.filterMap Wake.requestId?).count id = _
        rw [List.count_append]
        rfl
    show ((d.step wake).run wakes).trace.countP _ ≤ _
    omega

theorem run_orderly (rng : env.crypto.Rng) (wakes : List (Wake env)) :
    Orderly (((Driver.new rng).run wakes).core .empty) := by
  have hnew : Orderly ((Driver.new rng).core .empty) := by
    constructor
    · exact .refl _
    · intro id
      exact Nat.le_refl _
    · intro _ id before after hsplit
      cases before <;> cases hsplit
  exact (run_invariant (fun _ _ => Orderly.step) (fun _ _ _ => Orderly.intake) (new_sound rng) hnew
    wakes).2

theorem Moves.trace {c c' : SessionCore} (h : Moves c c') : c.trace <+: c'.trace := by
  refine h.invariant (I := fun c' => c.trace <+: c'.trace) ?_ (List.prefix_refl _)
  intro c₁ c₂ hgrown hmove
  obtain ⟨actions, hstep⟩ := hmove.queueStep
  rw [hstep.trace]
  exact hgrown.trans (List.prefix_append _ _)

/-- A history only grows. -/
theorem Serves.trace {id? : Option UInt64} {d' : Driver env} (h : Serves id? d d') :
    d.trace <+: d'.trace := by
  refine h.invariant (I := fun c => d.trace <+: c.trace) ?_ ?_ (List.prefix_refl _)
  · intro c c' hgrown hmove
    exact hgrown.trans (Moves.trace (.single hmove))
  · intro c c' hgrown hintake
    cases hintake with
    | answer => exact hgrown.trans (List.prefix_append _ _)
    | accept => exact hgrown.trans (List.prefix_append _ _)

theorem run_trace (hsound : Sound d) (wakes : List (Wake env)) :
    d.trace <+: (d.run wakes).trace := by
  induction wakes generalizing d with
  | nil => exact List.prefix_refl _
  | cons wake wakes ih =>
    have hserves := step_serves hsound wake
    exact hserves.trace.trans (ih (hsound.served hserves))

/-- Handling a withdrawal starts with its record. -/
theorem withdraw_recorded (h : Sound d) (hopen : d.isClosed = false)
    (hhandles : d.handlesDropped = false) (id : UInt64) :
    d.trace ++ [.withdrawn id] <+: (d.step (.command (.withdraw id))).trace := by
  have hstep : d.step (.command (.withdraw id)) = d.withdraw id := by
    rw [step, enabled, hopen, hhandles]
    rfl
  obtain ⟨⟨c, -, htrace, hmoves⟩, -⟩ := withdraw_moves h.control h.settled id
  rw [hstep, ← htrace]
  exact Moves.trace hmoves

/-- A request is in flight, queued, or has had its outcome, once for each time it was accepted. -/
theorem run_placed (rng : env.crypto.Rng) (wakes : List (Wake env)) (id : UInt64) :
    let d := (Driver.new rng).run wakes
    d.inFlight.countP (fun pending => pending.completion.isCaller id) +
        d.queued.countP (fun entry => entry.2.isCaller id) +
        d.trace.countP (Action.isDeliveredTo (isCaller id)) ≤
      (acceptedIds d.trace).count id := by
  have hplaced := (run_orderly rng wakes).placed id
  rw [account, placed, Controlled.live_of_empty rfl] at hplaced
  exact hplaced

/-- With distinct request ids every request is taken at most once. -/
theorem run_taken_once (rng : env.crypto.Rng) {wakes : List (Wake env)}
    (hdistinct : (wakes.filterMap Wake.requestId?).Nodup) (id : UInt64) :
    ((Driver.new rng).run wakes).trace.countP (Action.isTakenFor id) ≤ 1 := by
  have hone := List.nodup_iff_count_le_one.mp hdistinct id
  have hcount := run_countP_isTakenFor_le (new_sound rng) wakes id
  have hnew : (Driver.new rng).trace.countP (Action.isTakenFor id) = 0 := rfl
  omega

end Driver

/-- What was taken of a request was accepted or answered at once. -/
theorem countP_isTakenFor (trace : List Action) (id : UInt64) :
    trace.countP (Action.isTakenFor id) + trace.countP (Action.isDeliveredTo (isCaller id))
      = (acceptedIds trace).count id + trace.countP (Action.isOutcomeFor id) := by
  induction trace with
  | nil => rfl
  | cons action trace ih =>
    have haccepted : acceptedIds (action :: trace) =
        action.acceptedId?.toList ++ acceptedIds trace := by
      show (action :: trace).filterMap _ = _
      rw [List.filterMap_cons]
      cases action.acceptedId? <;> rfl
    rw [haccepted, List.count_append, List.countP_cons, List.countP_cons, List.countP_cons]
    have hhead : (if action.isTakenFor id = true then 1 else 0) +
        (if action.isDeliveredTo (isCaller id) = true then 1 else 0) =
          action.acceptedId?.toList.count id + if action.isOutcomeFor id = true then 1 else 0 := by
      cases action with
      | accepted id' => simp [Action.isTakenFor, Action.isDeliveredTo, Action.acceptedId?,
          Action.isOutcomeFor, List.count_singleton]
      | answeredAtOnce waiter reply =>
        show _ + 0 = 0 + _
        rw [Nat.add_zero, Nat.zero_add]
        rfl
      | _ => rfl
    omega

theorem isOutcomeFor_of_isDeliveredTo (action : Action) (id : UInt64)
    (h : action.isDeliveredTo (isCaller id) = true) : action.isOutcomeFor id = true := by
  cases action with
  | delivered => exact h
  | _ => cases h

namespace Driver

variable {env : Env}

/-- **Order and place of the handles' requests.**  In any run with distinct request ids, one
    request is in flight at a time and the queue waits only for it; the requests are first sent
    in the order in which they were accepted; each is in one place at a time and gets one outcome
    at most; and from a withdrawal on, nothing is sent for the request or told to its waiter. -/
theorem requests_keep_order (rng : env.crypto.Rng) (wakes : List (Wake env))
    (hdistinct : (wakes.filterMap Wake.requestId?).Nodup) :
    let d := (Driver.new rng).run wakes
    (d.applicationInFlight ≤ 1 ∧ (d.queued ≠ [] → 0 < d.applicationInFlight)) ∧
    (launchedIds d.trace).Sublist (acceptedIds d.trace) ∧
    (∀ id,
      d.inFlight.countP (fun pending => pending.completion.isCaller id) +
        d.queued.countP (fun entry => entry.2.isCaller id) ≤ 1 ∧
      d.trace.countP (Action.isOutcomeFor id) ≤ 1) ∧
    (∀ first more id, wakes = first ++ .command (.withdraw id) :: more →
      let d₁ := (Driver.new rng).run first
      d₁.isClosed = false → d₁.handlesDropped = false → id ∈ acceptedIds d₁.trace →
      ∃ rest, d.trace = d₁.trace ++ .withdrawn id :: rest ∧
        ∀ action ∈ rest, action.concerns id = false) := by
  have hsound := run_sound rng wakes
  have horderly := run_orderly rng wakes
  have htaken := run_taken_once rng hdistinct
  dsimp only
  have hcounts : ∀ id,
      ((Driver.new rng).run wakes).trace.countP (Action.isTakenFor id) + _ = _ + _ :=
    countP_isTakenFor _
  have haccepted : ∀ id, (acceptedIds ((Driver.new rng).run wakes).trace).count id ≤ 1 := by
    intro id
    have htaken := htaken id
    have hcounts := hcounts id
    have htold := List.countP_mono_left (l := ((Driver.new rng).run wakes).trace)
      (fun action _ => isOutcomeFor_of_isDeliveredTo action id)
    omega
  refine ⟨⟨hsound.control.applications, ?_⟩, ?_, ?_, ?_⟩
  · intro hwaiting
    exact hsound.settled.resolve_right hwaiting
  · exact (List.sublist_append_left _ _).trans horderly.order
  · intro id
    have hplaced := run_placed rng wakes id
    have haccepted := haccepted id
    have htaken := htaken id
    have hcounts := hcounts id
    refine ⟨by omega, by omega⟩
  · intro first more id hwakes hopen hhandles haccept
    have hrun : (Driver.new rng).run wakes =
        (((Driver.new rng).run first).step (.command (.withdraw id))).run more := by
      rw [hwakes, run, List.foldl_append]
      rfl
    have hsound₁ := run_sound rng first
    generalize (Driver.new rng).run first = d₁ at hrun hopen hhandles haccept hsound₁
    have hrecorded := withdraw_recorded hsound₁ hopen hhandles id
    have hgrown := run_trace (hsound₁.served (step_serves hsound₁ (.command (.withdraw id)))) more
    rw [← hrun] at hgrown
    obtain ⟨rest, htrace⟩ := hrecorded.trans hgrown
    rw [List.append_assoc] at htrace
    have hnodup := List.nodup_iff_count_le_one.mpr haccepted
    refine ⟨rest, htrace.symm, ?_⟩
    exact (horderly.withdrawn hnodup id d₁.trace rest htrace.symm haccept).2

/-- Two requests of which the second is withdrawn before its turn. -/
theorem requests_keep_order_withdrawn :
    let first : List (Wake (Env.transparent (fun _ => none))) :=
      [.command (.exchange 7 .bare), .command (.exchange 8 .bare)]
    let d₁ := (Driver.new ()).run first
    let d := (Driver.new ()).run (first ++ [.command (.withdraw 8), .timer])
    launchedIds d.trace = [7] ∧ acceptedIds d.trace = [7, 8] ∧
      ∃ rest, d.trace = d₁.trace ++ .withdrawn 8 :: rest ∧
        ∀ action ∈ rest, action.concerns 8 = false := by
  intro first d₁ d
  refine ⟨by decide +kernel, by decide +kernel, ?_⟩
  have horder := requests_keep_order () (first ++ [.command (.withdraw 8), .timer])
    (by decide +kernel)
  exact horder.2.2.2 first [.timer] 8 rfl (by decide +kernel) (by decide +kernel)
    (by decide +kernel)

end Driver

end Meshcop
