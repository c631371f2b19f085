/-
  Meshcop.Driver.Outcomes — what the waiter of an answered exchange hears.

  An answered exchange leaves the tables before its answer is acknowledged.  If the message is
  confirmable and the acknowledgement cannot be sent, routing stops there: the session ends, the
  waiters in the tables are told, and the one whose answer had come is not among them.

  Main results:
    * `complete_trace`      — completing an exchange tells its waiter;
    * `answered_told_iff`   — an answered exchange's waiter is told, once, exactly if the answer
      needs no acknowledgement or that can be sent;
    * `answered_exchange_untold` — a run in which the waiter hears nothing.
-/

import Meshcop.Driver.Isolation

namespace Meshcop

open Lib

def Action.taken? : Action → Option Completion
  | .taken completion => some completion
  | _ => none

/-- The exchanges that were taken out for an answer. -/
theorem mem_of_mem_taken {actions : List Action} {completion : Completion}
    (h : completion ∈ actions.filterMap Action.taken?) : .taken completion ∈ actions := by
  obtain ⟨action, hmem, htaken⟩ := List.mem_filterMap.mp h
  cases action with
  | taken =>
    cases htaken
    exact hmem
  | _ => cases htaken

namespace Driver

variable {env : Env}

/-! ## §1. Completing an exchange. -/

/-- Work that takes no exchange out for an answer. -/
def Untaking (d d' : Driver env) : Prop :=
  ∃ actions, d'.trace = d.trace ++ actions ∧ ∀ action ∈ actions, action.isMild = true

namespace Untaking

variable {d d' d'' : Driver env}

theorem trans (h : Untaking d d') (h' : Untaking d' d'') : Untaking d d'' := by
  obtain ⟨first, htrace, hfirst⟩ := h
  obtain ⟨second, htrace', hsecond⟩ := h'
  exact ⟨first ++ second, by rw [htrace', htrace, List.append_assoc],
    List.forall_mem_append.mpr ⟨hfirst, hsecond⟩⟩

theorem of_quiet (h : Quiet d d') : Untaking d d' := by
  obtain ⟨actions, htrace, hquiet⟩ := h.trace
  exact ⟨actions, htrace, fun action hmem => isMild_of_isQuiet (hquiet action hmem)⟩

theorem endSession (d : Driver env) (reason : CloseReason) : Untaking d (d.endSession reason) := by
  obtain ⟨actions, hpassage, hmild⟩ := endSession_passage d reason
  exact ⟨actions, hpassage.trace, hmild⟩

end Untaking

/-- **Completing an exchange** takes no other one out, and tells its waiter, if there is one. -/
theorem complete_trace {d : Driver env} (hqueueing : d.Queueing) (completion : Completion)
    (outcome : Except Error (Option CoapMessage)) : Untaking d (d.complete completion outcome) ∧
      (completion.channel.isSome = true →
        ∃ reply, .delivered completion reply ∈ (d.complete completion outcome).trace) := by
  obtain ⟨actions, hfills, htold, -⟩ := complete_fills hqueueing completion outcome
  refine ⟨⟨actions, hfills.passage.trace, hfills.mild⟩, fun hchannel => ?_⟩
  obtain ⟨reply, hmem⟩ := htold hchannel
  rw [hfills.passage.trace]
  exact ⟨reply, List.mem_append_right _ hmem⟩

/-! ## §2. Answered exchanges. -/

/-- The one exchange that a routed message can take out, with the rest of the story: its waiter is
    told, or the session ends while it is held. -/
inductive TakenOut (message : CoapMessage) (d d' : Driver env) (completion : Completion) : Prop
  | told : (completion.channel.isSome = true → ∃ reply, .delivered completion reply ∈ d'.trace) →
      (message.ty = .confirmable → env.sendResult d.world.sends = none) →
      TakenOut message d d' completion
  | dropped : Moves (d.core .empty) (d'.core (.held completion)) →
      message.ty = .confirmable → env.sendResult d.world.sends ≠ none →
      TakenOut message d d' completion

/-- Taking an exchange out, between quiet work and work that takes out no other. -/
theorem taken_eq {message : CoapMessage} {proxied : Bool} {d d₁ d₂ d₃ d' : Driver env}
    {pending : Pending} {completion : Completion} (hquiet : Quiet d d₁)
    (htake : d₁.takeAnswered message proxied = some (pending, d₂)) (hquiet₃ : Quiet d₂ d₃)
    (hrest : Untaking d₃ d') (htaken : .taken completion ∈ d'.trace.drop d.trace.length) :
    completion = pending.completion := by
  obtain ⟨first, hfirst, hnone₁⟩ := Untaking.of_quiet hquiet
  obtain ⟨second, hsecond, hnone₂⟩ := (Untaking.of_quiet hquiet₃).trans hrest
  have hd₂ : d₂.trace = d₁.trace ++ [.taken pending.completion] := by
    rw [(takeAnswered_eq htake).2]
    rfl
  rw [hsecond, hd₂, hfirst, List.append_assoc, List.append_assoc, List.drop_left] at htaken
  rcases List.mem_append.mp htaken with hmem | hmem
  · cases hnone₁ _ hmem
  rcases List.mem_append.mp hmem with hmem | hmem
  · cases List.mem_singleton.mp hmem
    rfl
  · cases hnone₂ _ hmem

/-- **What becomes of an exchange that a routed message takes out.** -/
theorem Routed.takenOut {message : CoapMessage} {proxied : Bool} {d d' : Driver env}
    (h : Routed message proxied d d') (hcontrol : Controlled (d.core .empty)) {completion : Completion}
    (htaken : .taken completion ∈ d'.trace.drop d.trace.length) :
    TakenOut message d d' completion ∧ ∃ pending ∈ d.inFlight, pending.completion = completion := by
  have huntaken : ∀ {d' : Driver env}, Untaking d d' →
      .taken completion ∈ d'.trace.drop d.trace.length → False := by
    intro d' huntaking hmem
    obtain ⟨actions, htrace, hnone⟩ := huntaking
    rw [htrace, List.drop_left] at hmem
    cases hnone _ hmem
  have hflying : ∀ {d₁ d₂ : Driver env} {pending : Pending}, Quiet d d₁ →
      d₁.takeAnswered message proxied = some (pending, d₂) → pending ∈ d.inFlight := by
    intro d₁ d₂ pending hquiet htake
    rw [← hquiet.inFlight]
    exact List.mem_of_find?_eq_some (takeAnswered_eq htake).1
  cases h with
  | quiet _ hquiet => exact (huntaken (.of_quiet hquiet) htaken).elim
  | broken d₁ error hquiet _ =>
    exact (huntaken ((Untaking.of_quiet hquiet).trans (.endSession d₁ _)) htaken).elim
  | acknowledged d₁ _ hquiet hack =>
    have hsame : d'.trace = d₁.trace := by
      obtain ⟨before, p, after, -, -, rfl⟩ := acknowledge_eq hack
      rfl
    rw [hsame] at htaken
    exact (huntaken (.of_quiet hquiet) htaken).elim
  | answered d₁ d₂ d₃ pending hquiet htake hquiet₃ hsent =>
    have hmoves : Moves (d.core .empty) (d₃.core (.held pending.completion)) :=
      ((hquiet.moves .empty).trans (takeAnswered_moves htake).1).trans (hquiet₃.moves _)
    have hqueueing := queueing_of_controlled
      (hmoves.invariant (fun _ _ => Controlled.step) hcontrol)
    obtain ⟨hrest, htold⟩ := complete_trace hqueueing pending.completion (outcomeOf message)
    rw [taken_eq hquiet htake hquiet₃ hrest htaken]
    exact ⟨.told htold hsent, pending, hflying hquiet htake, rfl⟩
  | lost d₁ d₂ d₃ pending error hquiet htake hquiet₃ hconfirmable hfailed =>
    have hmoves : Moves (d.core .empty) (d₃.core (.held pending.completion)) :=
      ((hquiet.moves .empty).trans (takeAnswered_moves htake).1).trans (hquiet₃.moves _)
    rw [taken_eq hquiet htake hquiet₃ (.endSession d₃ _) htaken]
    exact ⟨.dropped (hmoves.trans (endSession_moves d₃ _ _).1) hconfirmable hfailed, pending,
      hflying hquiet htake, rfl⟩

/-- A waiter whose exchange is still held has not been told. -/
theorem untold_of_held {c : SessionCore} {completion : Completion} {channel : Nat}
    (hload : c.load channel ≤ 1) (hhand : c.hand = .held completion)
    (hchannel : completion.channel = some channel) :
    c.trace.filter (Action.isDeliveredOn channel) = [] := by
  have hwaits : c.hand.completions.countP (Completion.waitsOn channel) = 1 := by
    rw [hhand]
    show [completion].countP _ = 1
    rw [List.countP_singleton, Completion.waitsOn, hchannel, decide_eq_true rfl]
    rfl
  unfold SessionCore.load SessionCore.waiting SessionCore.told at hload
  refine List.eq_nil_of_length_eq_zero ?_
  rw [← List.countP_eq_length_filter]
  omega

/-- **An answered exchange's waiter is told exactly once, unless its answer is confirmable and
    cannot be acknowledged.**  In every state that a run reaches and for every datagram that takes
    an exchange out for an answer. -/
theorem answered_told_iff (rng : env.crypto.Rng) (wakes : List (Wake env)) (plaintext : Bytes)
    {message : CoapMessage} {proxied : Bool} (hcarried : carried plaintext = some (message, proxied))
    {completion : Completion} {channel : Nat} (hchannel : completion.channel = some channel) :
    let d := (Driver.new rng).run wakes
    let d' := d.step (.received (.ok plaintext))
    .taken completion ∈ d'.trace.drop d.trace.length →
    ((∃ reply, d'.trace.filter (Action.isDeliveredOn channel) = [.delivered completion reply]) ↔
      (message.ty = .confirmable → env.sendResult d.world.sends = none)) := by
  intro d d' htaken
  have hsound := run_sound rng wakes
  have hload : (d.core .empty).load channel ≤ 1 := run_load_le rng wakes channel
  have hload' : (d'.core .empty).load channel ≤ 1 := by
    have hrun : d' = (Driver.new rng).run (wakes ++ [.received (.ok plaintext)]) := by
      rw [run, List.foldl_append]
      rfl
    rw [hrun]
    exact run_load_le rng _ channel
  have hrouted : Routed message proxied d d' := by
    rcases step_received_carried hsound plaintext with hsame | ⟨message', proxied', hsame, hrouted⟩
    · have hnone : d'.trace.drop d.trace.length = [] := by
        rw [show d' = d from hsame, List.drop_length]
      rw [hnone] at htaken
      cases htaken
    · cases hcarried.symm.trans hsame
      exact hrouted
  cases (hrouted.takenOut hsound.control htaken).1 with
  | told htold hsent =>
    obtain ⟨reply, hmem⟩ := htold (congrArg Option.isSome hchannel)
    refine iff_of_true ⟨reply, filter_eq_singleton hmem (decide_eq_true hchannel) ?_⟩ hsent
    have hload' : _ + d'.trace.countP (Action.isDeliveredOn channel) + _ ≤ 1 := hload'
    omega
  | dropped hmoves hconfirmable hfailed =>
    have hheld : (d'.core (.held completion)).load channel ≤ 1 :=
      hmoves.invariant (I := fun c => c.load channel ≤ 1)
        (fun _ _ h hmove => Nat.le_trans (hmove.load_le channel) h) hload
    have huntold : d'.trace.filter (Action.isDeliveredOn channel) = [] :=
      untold_of_held hheld rfl hchannel
    rw [huntold]
    refine iff_of_false ?_ (fun hsent => hfailed (hsent hconfirmable))
    rintro ⟨reply, hfalse⟩
    cases hfalse

/-- A response to the first request of a run, confirmable. -/
def confirmableAnswer : Bytes := [0x44, 0x44, 0x00, 0x09, 0x00, 0x00, 0x00, 0x00]

/-- With working sends the waiter is told once. -/
theorem answered_told_acknowledged :
    let d : Driver (Env.transparent (fun _ => none)) :=
      (Driver.new ()).run [.command (.exchange 7 .bare)]
    let d' := d.step (.received (.ok confirmableAnswer))
    .taken (.caller 7 0) ∈ d'.trace.drop d.trace.length ∧
      ∃ reply, d'.trace.filter (Action.isDeliveredOn 0) = [.delivered (.caller 7 0) reply] := by
  intro d d'
  have htaken : .taken (.caller 7 0) ∈ d'.trace.drop d.trace.length :=
    mem_of_mem_taken (by decide +kernel)
  let message : CoapMessage :=
    { ty := .confirmable, code := ⟨0x44⟩, messageId := 9, token := [0, 0, 0, 0], options := []
      payload := [] }
  have hcarried : carried confirmableAnswer = some (message, false) := by decide +kernel
  have hiff := @answered_told_iff (Env.transparent (fun _ => none)) ()
    [.command (.exchange 7 .bare)] confirmableAnswer message false hcarried (.caller 7 0) 0 rfl htaken
  exact ⟨htaken, hiff.mpr (fun _ => rfl)⟩

/-- **An answered exchange whose waiter hears nothing**: the second send, which is the
    acknowledgement, fails, and with the session the exchange is gone. -/
theorem answered_exchange_untold :
    let d : Driver (Env.transparent (fun sends => if sends = 1 then some .peerClosed else none)) :=
      (Driver.new ()).run [.command (.exchange 7 .bare)]
    let d' := d.step (.received (.ok confirmableAnswer))
    .taken (.caller 7 0) ∈ d'.trace.drop d.trace.length ∧ d'.isClosed = true ∧
      d'.inFlight = [] ∧ d'.queued = [] ∧
      ¬∃ reply, d'.trace.filter (Action.isDeliveredOn 0) = [.delivered (.caller 7 0) reply] := by
  intro d d'
  refine ⟨mem_of_mem_taken (by decide +kernel), by decide +kernel, by decide +kernel,
    by decide +kernel, ?_⟩
  have huntold : d'.trace.countP (Action.isDeliveredOn 0) = 0 := by decide +kernel
  rintro ⟨reply, htold⟩
  rw [List.countP_eq_length_filter, htold] at huntold
  cases huntold

end Driver

end Meshcop
