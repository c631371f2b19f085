/-
  Meshcop.Driver.Accounts — exchanges as resources.

  An exchange is at hand, in flight or queued until its waiter is told or it is dropped.  A move
  carries exchanges from place to place and spends them; it never doubles one.  The account of
  a kind of exchanges counts those in place and those whose waiter was told.

  Main result:
    * `Move.account` — a move adds to the accounts at most the exchange it starts.
-/

import Meshcop.Driver.Machine

namespace Meshcop

open SessionCore

/-- Whether a waiter of the given kind was told. -/
def Action.isDeliveredTo (kind : Completion → Bool) : Action → Bool
  | .delivered waiter _ => kind waiter
  | _ => false

namespace SessionCore

variable (c : SessionCore) (kind : Completion → Bool)

/-- How many exchanges of a kind are at hand, in flight or queued. -/
def placed : Nat := c.live kind + c.queued.countP (fun entry => kind entry.2)

/-- How many waiters of a kind were told. -/
def delivered : Nat := c.trace.countP (Action.isDeliveredTo kind)

def account : Nat := c.placed kind + c.delivered kind

theorem countP_tabled :
    c.tabled.countP kind = c.inFlight.countP (fun pending => kind pending.completion) +
      c.queued.countP (fun entry => kind entry.2) := by
  rw [tabled, List.countP_append, List.countP_map, List.countP_map]
  rfl

end SessionCore

/-! ## §1. Telling. -/

variable (kind : Completion → Bool)

theorem delivered_tell_le (completion : Completion) (reply : Reply) :
    (completion.tell reply).countP (Action.isDeliveredTo kind) ≤ [completion].countP kind := by
  unfold Completion.tell
  split
  · exact Nat.le_refl _
  · exact Nat.zero_le _

theorem delivered_tellFailed_le (error : Error) (completions : List Completion) :
    (tellFailed error completions).countP (Action.isDeliveredTo kind) ≤ completions.countP kind := by
  induction completions with
  | nil => exact Nat.le_refl _
  | cons completion completions ih =>
    have hfirst := delivered_tell_le kind completion (completion.failedReply error)
    show (completion.tell _ ++ tellFailed error completions).countP _ ≤ ([completion] ++ _).countP _
    rw [List.countP_append, List.countP_append]
    exact Nat.add_le_add hfirst ih

theorem delivered_tellIdle_le (error : Error) (completions : List Completion) :
    (tellIdle error completions).countP (Action.isDeliveredTo kind) ≤ completions.countP kind := by
  induction completions with
  | nil => exact Nat.le_refl _
  | cons completion completions ih =>
    have hset : (if completion.isPetition then [Action.statusSet .connected] else []).countP
        (Action.isDeliveredTo kind) = 0 := by
      split <;> rfl
    have hfirst := delivered_tell_le kind completion (completion.failedReply error)
    show (((if completion.isPetition then [Action.statusSet .connected] else []) ++
      completion.tell _) ++ tellIdle error completions).countP _ ≤ ([completion] ++ _).countP _
    rw [List.countP_append, List.countP_append, List.countP_append, hset, Nat.zero_add]
    exact Nat.add_le_add hfirst ih

/-! ## §2. Moves. -/

/-- The exchange that a move starts, if it starts one: a session-control exchange, which gets
    the next reply channel if somebody waits for it. -/
inductive Started (c c' : SessionCore) : List Completion → Prop
  | none : c'.nextChannel = c.nextChannel → Started c c' []
  | control (completion : Completion) (waiter : Bool) : completion.isApplication = false →
      completion.channel = (if waiter then some c.nextChannel else Option.none) →
      c'.nextChannel = (if waiter then c.nextChannel + 1 else c.nextChannel) →
      Started c c' [completion]

/-- A move that puts down the exchange at hand and tells its waiter. -/
theorem SessionCore.account_put_down {c c' : SessionCore} {completion : Completion}
    {actions : List Action} (hhand : c.hand = .held completion)
    (htold : actions.countP (Action.isDeliveredTo kind) ≤ [completion].countP kind)
    (htrace : c'.trace = c.trace ++ actions) (hflight : c'.inFlight = c.inFlight)
    (hqueued : c'.queued = c.queued) (hempty : c'.hand = .empty) :
    c'.account kind ≤ c.account kind := by
  simp only [account, placed, live, delivered, htrace, hflight, hqueued, hempty, hhand,
    Hand.completions, List.countP_append, List.countP_nil]
  omega

/-- A move that takes up a new exchange. -/
theorem SessionCore.account_take_up {c c' : SessionCore} {completion : Completion}
    (hhand : c.hand = .empty) (hstarted : c'.hand = .unsent completion)
    (hflight : c'.inFlight = c.inFlight) (hqueued : c'.queued = c.queued)
    (htold : c'.delivered kind = c.delivered kind) :
    c'.account kind ≤ c.account kind + [completion].countP kind := by
  simp only [account, placed, live, htold, hflight, hqueued, hstarted, hhand, Hand.completions,
    List.countP_nil]
  omega

/-- **A move adds to the accounts at most the exchange it starts.** -/
theorem Move.account {c c' : SessionCore} (h : Move c c') : ∃ started, Started c c' started ∧
      ∀ kind, c'.account kind ≤ c.account kind + started.countP kind := by
  cases h with
  | tick | relay | dropped | expire => exact ⟨[], .none rfl, fun kind => Nat.le_refl _⟩
  | note action hneutral _ =>
    refine ⟨[], .none rfl, fun kind => ?_⟩
    have hnot : [action].countP (Action.isDeliveredTo kind) = 0 := by
      rw [List.countP_singleton]
      cases action with
      | delivered => cases hneutral
      | _ => rfl
    show _ + (c.trace ++ [action]).countP _ ≤ _
    rw [List.countP_append, hnot]
    exact Nat.le_refl _
  | retransmit | withdrawNothing | reopen | remember =>
    refine ⟨[], .none rfl, fun kind => ?_⟩
    simp [SessionCore.account, placed, live, delivered, did, Action.isDeliveredTo]
  | touch before after old new hflight _ _ hcompletion =>
    refine ⟨[], .none rfl, fun kind => Nat.le_of_eq ?_⟩
    simp [SessionCore.account, placed, live, delivered, hflight,
      List.countP_append, List.countP_cons, hcompletion]
  | withdrawQueued id before after entry _ hqueued _ =>
    refine ⟨[], .none rfl, fun kind => ?_⟩
    simp [SessionCore.account, placed, live, delivered, did, Action.isDeliveredTo, hqueued,
      List.countP_append, List.countP_cons]
  | withdrawInFlight id before after pending _ _ hflight _ =>
    refine ⟨[], .none rfl, fun kind => ?_⟩
    simp [SessionCore.account, placed, live, delivered, did, Action.isDeliveredTo, hflight,
      List.countP_append, List.countP_cons]
  | pop request completion queued hhand _ _ hqueued =>
    refine ⟨[], .none rfl, fun kind => ?_⟩
    simp [SessionCore.account, placed, live, delivered, hhand,
      hqueued, Hand.completions, List.countP_cons]
    omega
  | transmit completion message hhand =>
    refine ⟨[], .none rfl, fun kind => ?_⟩
    simp [SessionCore.account, placed, live, delivered, did, Action.isDeliveredTo, hhand,
      Hand.completions]
  | giveUp completion hhand =>
    refine ⟨[], .none rfl, fun kind => ?_⟩
    simp [SessionCore.account, placed, live, delivered, hhand, Hand.completions]
  | launch pending hhand _ _ _ _ =>
    refine ⟨[], .none rfl, fun kind => ?_⟩
    simp [SessionCore.account, placed, live, delivered, hhand,
      Hand.completions, List.countP_append, List.countP_cons]
    omega
  | take before after pending hhand hflight =>
    refine ⟨[], .none rfl, fun kind => ?_⟩
    simp [SessionCore.account, placed, live, delivered, hhand,
      hflight, Hand.completions, List.countP_append, List.countP_cons]
    omega
  | deliver completion reply hhand _ =>
    refine ⟨[], .none rfl, fun kind => ?_⟩
    exact account_put_down kind hhand (delivered_tell_le kind _ _) rfl rfl rfl rfl
  | kept channel keepAliveAt reply hhand _ =>
    refine ⟨[], .none rfl, fun kind => ?_⟩
    exact account_put_down kind hhand (delivered_tell_le kind _ _) rfl rfl rfl rfl
  | refused channel reply hhand _ =>
    refine ⟨[], .none rfl, fun kind => ?_⟩
    exact account_put_down kind hhand (Nat.le_refl _) rfl rfl rfl rfl
  | granted channel sessionId keepAliveAt reply hhand _ =>
    refine ⟨[], .none rfl, fun kind => ?_⟩
    exact account_put_down kind hhand (Nat.le_refl _) rfl rfl rfl rfl
  | discard completion hhand _ =>
    refine ⟨[], .none rfl, fun kind => ?_⟩
    simp [SessionCore.account, placed, live, delivered, hhand, Hand.completions]
  | petition hhand _ =>
    refine ⟨_, .control (.petition c.nextChannel) true rfl rfl rfl, fun kind => ?_⟩
    exact account_take_up kind hhand rfl rfl rfl List.countP_append
  | keepAlive waiter hhand _ _ =>
    refine ⟨_, .control (.keepAlive _) waiter rfl rfl rfl, fun kind => ?_⟩
    exact account_take_up kind hhand rfl rfl rfl rfl
  | resign waiter dropped hhand _ _ =>
    refine ⟨_, .control (.resign _) waiter rfl rfl rfl, fun kind => ?_⟩
    exact account_take_up kind hhand rfl rfl rfl rfl
  | idle hhand _ _ _ _ =>
    refine ⟨[], .none rfl, fun kind => ?_⟩
    have htold := delivered_tellIdle_le kind (.sessionLost .peerClosed) c.tabled
    rw [c.countP_tabled] at htold
    simp [SessionCore.account, placed, live, idled, delivered, did, Action.isDeliveredTo]
    omega
  | endSession reason _ =>
    refine ⟨[], .none rfl, fun kind => ?_⟩
    have htold := delivered_tellFailed_le kind reason.error c.tabled
    rw [c.countP_tabled] at htold
    have hloss : reason.loss.countP (Action.isDeliveredTo kind) = 0 := by
      unfold CloseReason.loss
      split <;> rfl
    simp [SessionCore.account, placed, live, ended, delivered, did, Action.isDeliveredTo, hloss]
    omega

/-- **An intake adds the exchange it accepts**, on the next reply channel. -/
theorem Intake.account {id? : Option UInt64} {c c' : SessionCore} (h : Intake id? c c') :
    c'.nextChannel = c.nextChannel + 1 ∧
      ∃ accepted : List Completion, (∀ completion ∈ accepted, ∃ id, id? = some id ∧
          completion = .caller id c.nextChannel ∧ c'.trace = c.trace ++ [.accepted id]) ∧
        accepted.length ≤ 1 ∧ ∀ kind, c'.account kind ≤ c.account kind + accepted.countP kind := by
  cases h with
  | answer waiter reply _ =>
    refine ⟨rfl, [], List.forall_mem_nil _, Nat.zero_le _, fun kind => ?_⟩
    simp [SessionCore.account, placed, live, delivered, did, Action.isDeliveredTo]
  | accept id request hid _ =>
    refine ⟨rfl, [.caller id c.nextChannel], ?_, Nat.le_refl _, fun kind => ?_⟩
    · intro completion hmem
      exact ⟨id, hid, List.mem_singleton.mp hmem, rfl⟩
    · simp [SessionCore.account, placed, live, delivered, did, Action.isDeliveredTo,
        List.countP_append, List.countP_singleton]
      omega

end Meshcop
