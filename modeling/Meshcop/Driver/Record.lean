/-
  Meshcop.Driver.Record — the record of answered messages, as a bounded queue.

  The record keeps at most 64 replies in the order of their times, one for each message of an
  origin.  A reply leaves it when its lifetime is over, when 64 newer ones have pushed it out,
  or when the link to the border agent is opened again.

  Main results:
    * `Record.step`   — every move keeps the record well formed;
    * `Retained.step` — and keeps every reply that is young enough.
-/

import Meshcop.Driver.Machine
import Meshcop.Lib.Lists

namespace Meshcop

open Lib

/-- Whether an action is the first reply to a message. -/
def Action.isReplied : Action → Bool
  | .replied _ _ _ _ => true
  | _ => false

/-- No entry is the reply to this message. -/
def Unanswered (origin : Destination) (messageId : UInt16) (entries : List Answered) : Prop :=
  ∀ entry ∈ entries, ¬(entry.origin = origin ∧ entry.messageId = messageId)

theorem Unanswered.mono {origin : Destination} {messageId : UInt16}
    {entries entries' : List Answered} (h : Unanswered origin messageId entries)
    (hsub : entries' ⊆ entries) : Unanswered origin messageId entries' :=
  fun entry hentry => h entry (hsub hentry)

/-! ## §1. What a move does to the record. -/

/-- The effect of a move on the record, with the actions it logs. -/
inductive RecordStep (c c' : SessionCore) (actions : List Action) : Prop
  | kept : c'.answered = c.answered → (∀ action ∈ actions, action.isReplied = false) →
      RecordStep c c' actions
  | expired (expired : List Answered) : actions = [] → c.answered = expired ++ c'.answered →
      (∀ entry ∈ expired, entry.answeredAt + EXCHANGE_LIFETIME ≤ c.now) → RecordStep c c' actions
  | reopened : .reopened ∈ actions → (∀ action ∈ actions, action.isReplied = false) →
      c'.answered = c.answered.filter (fun entry => entry.origin ≠ .borderAgent) →
      RecordStep c c' actions
  | remembered (origin : Destination) (messageId : UInt16) (reply : CoapMessage) :
      actions = [.replied origin messageId reply c.now] →
      Unanswered origin messageId c.answered → reply.Plain →
      c'.answered =
        (if c.answered.length = MAX_REMEMBERED then c.answered.tail else c.answered) ++
          [{ origin, messageId, reply, answeredAt := c.now }] →
      RecordStep c c' actions

/-- **What a move does to the record.** -/
theorem Move.recordStep {c c' : SessionCore} (h : Move c c') :
    ∃ actions, c'.trace = c.trace ++ actions ∧ c.now ≤ c'.now ∧ RecordStep c c' actions := by
  have hnil : c.trace = c.trace ++ [] := (List.append_nil _).symm
  have hnone : ∀ action ∈ ([] : List Action), action.isReplied = false := List.forall_mem_nil _
  cases h with
  | tick now hnow => exact ⟨[], hnil, hnow, .kept rfl hnone⟩
  | relay | touch | pop | giveUp | launch | take | keepAlive | resign | dropped | discard =>
    exact ⟨[], hnil, Nat.le_refl _, .kept rfl hnone⟩
  | note action hneutral _ =>
    refine ⟨[action], rfl, Nat.le_refl _, .kept rfl ?_⟩
    intro other hother
    rw [List.mem_singleton.mp hother]
    cases action with
    | replied => cases hneutral
    | _ => rfl
  | retransmit | withdrawQueued | withdrawInFlight | withdrawNothing | transmit
  | petition =>
    refine ⟨[_], rfl, Nat.le_refl _, .kept rfl ?_⟩
    intro action haction
    rw [List.mem_singleton.mp haction]
    rfl
  | deliver completion reply _ _ =>
    refine ⟨completion.tell reply, rfl, Nat.le_refl _, .kept rfl ?_⟩
    intro action haction
    rw [Completion.mem_tell haction]
    rfl
  | kept channel keepAliveAt reply _ _ =>
    refine ⟨(Completion.keepAlive channel).tell reply, rfl, Nat.le_refl _, .kept rfl ?_⟩
    intro action haction
    rw [Completion.mem_tell haction]
    rfl
  | refused | granted =>
    refine ⟨[_, _], rfl, Nat.le_refl _, .kept rfl ?_⟩
    intro action haction
    rcases List.mem_pair.mp haction with rfl | rfl <;> rfl
  | reopen _ _ =>
    refine ⟨[.reopened, .statusSet .connected], rfl, Nat.le_refl _, ?_⟩
    refine .reopened List.mem_cons_self ?_ rfl
    intro action haction
    rcases List.mem_pair.mp haction with rfl | rfl <;> rfl
  | idle _ _ _ _ _ =>
    refine ⟨tellIdle (.sessionLost .peerClosed) c.tabled ++ [.statusSet .idle], rfl,
      Nat.le_refl _, .kept rfl ?_⟩
    intro action haction
    rcases List.mem_append.mp haction with htold | hstatus
    · rcases mem_tellIdle htold with rfl | ⟨completion, -, rfl⟩ <;> rfl
    · rw [List.mem_singleton.mp hstatus]
      rfl
  | endSession reason _ =>
    refine ⟨.ended reason c.tabled :: .statusSet (.closed reason) ::
      (tellFailed reason.error c.tabled ++ reason.loss), rfl, Nat.le_refl _, .kept rfl ?_⟩
    intro action haction
    rcases List.mem_cons.mp haction with rfl | haction
    · rfl
    rcases List.mem_cons.mp haction with rfl | haction
    · rfl
    rcases List.mem_append.mp haction with htold | hloss
    · obtain ⟨completion, -, rfl⟩ := mem_tellFailed htold
      rfl
    · rw [CloseReason.mem_loss hloss]
      rfl
  | expire expired kept hanswered hexpired =>
    exact ⟨[], hnil, Nat.le_refl _, .expired expired rfl hanswered hexpired⟩
  | remember origin messageId reply hunanswered hplain =>
    exact ⟨_, rfl, Nat.le_refl _, .remembered origin messageId reply rfl hunanswered hplain rfl⟩

theorem Intake.recordStep {id? : Option UInt64} {c c' : SessionCore} (h : Intake id? c c') :
    ∃ actions, c'.trace = c.trace ++ actions ∧ c.now ≤ c'.now ∧ RecordStep c c' actions := by
  cases h with
  | answer | accept =>
    refine ⟨[_], rfl, Nat.le_refl _, .kept rfl ?_⟩
    intro action haction
    rw [List.mem_singleton.mp haction]
    rfl

/-! ## §2. The record is well formed. -/

/-- A well-formed record. -/
structure Record (c : SessionCore) : Prop where
  bounded : c.answered.length ≤ MAX_REMEMBERED
  ordered : c.answered.Pairwise (fun older newer => older.answeredAt ≤ newer.answeredAt)
  unique : c.answered.Pairwise
    (fun older newer => ¬(older.origin = newer.origin ∧ older.messageId = newer.messageId))
  past : ∀ entry ∈ c.answered, entry.answeredAt ≤ c.now
  plain : ∀ entry ∈ c.answered, entry.reply.Plain

namespace Record

variable {c c' : SessionCore}

/-- Leaving entries out keeps the record well formed. -/
theorem sublist (h : Record c) (hsub : c'.answered.Sublist c.answered) (hnow : c.now ≤ c'.now) :
    Record c' where
  bounded := Nat.le_trans hsub.length_le h.bounded
  ordered := h.ordered.sublist hsub
  unique := h.unique.sublist hsub
  past := fun entry hentry => Nat.le_trans (h.past entry (hsub.subset hentry)) hnow
  plain := fun entry hentry => h.plain entry (hsub.subset hentry)

/-- The newest entry goes to the end. -/
theorem push {entry : Answered} {c₁ : SessionCore} (h : Record c₁)
    (hroom : c₁.answered.length < MAX_REMEMBERED)
    (hunanswered : Unanswered entry.origin entry.messageId c₁.answered)
    (hplain : entry.reply.Plain) (htime : entry.answeredAt = c₁.now) (hnow : c₁.now ≤ c'.now)
    (hanswered : c'.answered = c₁.answered ++ [entry]) : Record c' := by
  constructor
  · rw [hanswered, List.length_append]
    exact hroom
  · rw [hanswered, List.pairwise_append]
    refine ⟨h.ordered, List.pairwise_singleton _ _, ?_⟩
    intro older holder newer hnewer
    rw [List.mem_singleton.mp hnewer, htime]
    exact h.past older holder
  · rw [hanswered, List.pairwise_append]
    refine ⟨h.unique, List.pairwise_singleton _ _, ?_⟩
    intro older holder newer hnewer
    rw [List.mem_singleton.mp hnewer]
    exact hunanswered older holder
  · intro other hother
    rw [hanswered] at hother
    rcases List.mem_append.mp hother with hother | hother
    · exact Nat.le_trans (h.past other hother) hnow
    · rw [List.mem_singleton.mp hother, htime]
      exact hnow
  · intro other hother
    rw [hanswered] at hother
    rcases List.mem_append.mp hother with hother | hother
    · exact h.plain other hother
    · rw [List.mem_singleton.mp hother]
      exact hplain

theorem recordStep (h : Record c) {actions : List Action} (hnow : c.now ≤ c'.now)
    (hstep : RecordStep c c' actions) : Record c' := by
  cases hstep with
  | kept hanswered _ => exact h.sublist (by rw [hanswered]) hnow
  | expired expired _ hanswered _ =>
    refine h.sublist ?_ hnow
    rw [hanswered]
    exact List.sublist_append_right expired _
  | reopened _ _ hanswered =>
    refine h.sublist ?_ hnow
    rw [hanswered]
    exact List.filter_sublist
  | remembered origin messageId reply _ hunanswered hplain hanswered =>
    -- a full record first loses its oldest entry
    have hkept : (if c.answered.length = MAX_REMEMBERED then c.answered.tail else
        c.answered).Sublist c.answered := by
      split
      · exact List.tail_sublist _
      · exact List.Sublist.refl _
    have hroom : (if c.answered.length = MAX_REMEMBERED then c.answered.tail else
        c.answered).length < MAX_REMEMBERED := by
      have hbounded := h.bounded
      split
      · rw [List.length_tail]
        simp only [MAX_REMEMBERED] at *
        omega
      · omega
    have hshrunk : Record { c with
        answered := if c.answered.length = MAX_REMEMBERED then c.answered.tail else c.answered } :=
      h.sublist hkept (Nat.le_refl _)
    exact hshrunk.push hroom (hunanswered.mono hkept.subset) hplain rfl hnow hanswered

/-- **Every move keeps the record well formed.** -/
theorem step (h : Record c) (hmove : Move c c') : Record c' := by
  obtain ⟨actions, -, hnow, hstep⟩ := hmove.recordStep
  exact h.recordStep hnow hstep

theorem intake {id? : Option UInt64} (h : Record c) (hintake : Intake id? c c') : Record c' := by
  obtain ⟨actions, -, hnow, hstep⟩ := hintake.recordStep
  exact h.recordStep hnow hstep

end Record

/-! ## §3. Young replies stay. -/

/-- Every reply is on record until its lifetime is over, unless 64 newer ones came, or the link
    was opened again and the reply was to the border agent. -/
def Retained (c : SessionCore) : Prop :=
  ∀ (before after : List Action) (entry : Answered),
    c.trace = before ++ .replied entry.origin entry.messageId entry.reply entry.answeredAt :: after →
    after.countP Action.isReplied < MAX_REMEMBERED →
    (entry.origin = .borderAgent → .reopened ∉ after) →
    entry.answeredAt + EXCHANGE_LIFETIME ≤ c.now ∨
      ∃ older newer, c.answered = older ++ entry :: newer ∧
        newer.length ≤ after.countP Action.isReplied

namespace Retained

variable {c c' : SessionCore}

/-- The split when no new action is a reply. -/
theorem split_of_not_replied {trace actions before after : List Action} {entry : Answered}
    (hnone : ∀ action ∈ actions, action.isReplied = false) (h : trace ++ actions = before ++
      .replied entry.origin entry.messageId entry.reply entry.answeredAt :: after) :
    ∃ rest, trace = before ++
        .replied entry.origin entry.messageId entry.reply entry.answeredAt :: rest ∧
      after = rest ++ actions ∧ after.countP Action.isReplied = rest.countP Action.isReplied := by
  rcases split_append h with ⟨rest, htrace, hafter⟩ | ⟨first, hactions, -⟩
  · refine ⟨rest, htrace, hafter, ?_⟩
    have hzero : actions.countP Action.isReplied = 0 := by
      rw [List.countP_eq_zero]
      intro action haction hreplied
      cases (hnone action haction).symm.trans hreplied
    rw [hafter, List.countP_append, hzero, Nat.add_zero]
  · have hfalse := hnone _ (by rw [hactions]; exact List.mem_append_right _ List.mem_cons_self)
    cases hfalse

theorem recordStep (h : Retained c) {actions : List Action} (htrace : c'.trace = c.trace ++ actions)
    (hnow : c.now ≤ c'.now) (hstep : RecordStep c c' actions) : Retained c' := by
  intro before after entry hsplit hcount hlink
  rw [htrace] at hsplit
  cases hstep with
  | kept hanswered hnone =>
    obtain ⟨rest, hsplit, hafter, hsame⟩ := split_of_not_replied hnone hsplit
    rw [hsame] at hcount ⊢
    have hlink' : entry.origin = .borderAgent → .reopened ∉ rest := fun horigin hmem =>
      hlink horigin (by rw [hafter]; exact List.mem_append_left _ hmem)
    rcases h before rest entry hsplit hcount hlink' with hold | ⟨older, newer, hmem, hlength⟩
    · exact Or.inl (Nat.le_trans hold hnow)
    · exact Or.inr ⟨older, newer, hanswered.trans hmem, hlength⟩
  | expired expired hnil hanswered hexpired =>
    subst hnil
    rw [List.append_nil] at hsplit
    rcases h before after entry hsplit hcount hlink with hold | ⟨older, newer, hmem, hlength⟩
    · exact Or.inl (Nat.le_trans hold hnow)
    rw [hanswered] at hmem
    rcases List.append_eq_append_iff.mp hmem with ⟨rest, -, hrest⟩ | ⟨rest, hrest, hkept⟩
    · exact Or.inr ⟨rest, newer, hrest, hlength⟩
    cases rest with
    | nil => exact Or.inr ⟨[], newer, by simpa using hkept.symm, hlength⟩
    | cons first rest =>
      cases hkept
      exact Or.inl (Nat.le_trans (hexpired entry (by rw [hrest]; simp)) hnow)
  | reopened hreopened hnone hanswered =>
    obtain ⟨rest, hsplit, hafter, hsame⟩ := split_of_not_replied hnone hsplit
    have hmesh : entry.origin ≠ .borderAgent := fun horigin =>
      hlink horigin (by rw [hafter]; exact List.mem_append_right _ hreopened)
    rw [hsame] at hcount ⊢
    rcases h before rest entry hsplit hcount (fun horigin => absurd horigin hmesh)
      with hold | ⟨older, newer, hmem, hlength⟩
    · exact Or.inl (Nat.le_trans hold hnow)
    · refine Or.inr ⟨older.filter (fun entry => entry.origin ≠ .borderAgent),
        newer.filter (fun entry => entry.origin ≠ .borderAgent), ?_, ?_⟩
      · rw [hanswered, hmem, List.filter_append, List.filter_cons_of_pos (by simpa using hmesh)]
      · exact Nat.le_trans (List.length_filter_le _ _) hlength
  | remembered origin messageId reply hactions _ _ hanswered =>
    subst hactions
    rcases split_append hsplit with ⟨rest, hsplit, hafter⟩ | ⟨first, hfirst, -⟩
    · -- an earlier reply: the new one takes one place behind it
      have hsame : after.countP Action.isReplied = rest.countP Action.isReplied + 1 := by
        rw [hafter, List.countP_append]
        rfl
      have hlink' : entry.origin = .borderAgent → .reopened ∉ rest := fun horigin hmem =>
        hlink horigin (by rw [hafter]; exact List.mem_append_left _ hmem)
      rw [hsame] at hcount ⊢
      rcases h before rest entry hsplit (by omega) hlink' with hold | ⟨older, newer, hmem, hlength⟩
      · exact Or.inl (Nat.le_trans hold hnow)
      refine Or.inr ⟨if c.answered.length = MAX_REMEMBERED then older.tail else older,
        newer ++ [{ origin, messageId, reply, answeredAt := c.now }], ?_, ?_⟩
      · rw [hanswered]
        split
        · -- the record is full, so something older is pushed out
          rename_i hfull
          rw [hmem] at hfull ⊢
          cases older with
          | nil =>
            simp only [List.nil_append, List.length_cons] at hfull
            omega
          | cons oldest older => simp
        · rw [hmem, List.append_assoc, List.cons_append]
      · rw [List.length_append, List.length_singleton]
        omega
    · -- the new reply itself
      have hlast : first = [] ∧ after = [] := by
        cases first with
        | nil => exact ⟨rfl, by simpa using (List.cons.inj hfirst).2.symm⟩
        | cons _ first => simp at hfirst
      obtain ⟨rfl, rfl⟩ := hlast
      rw [List.nil_append, List.cons.injEq] at hfirst
      obtain ⟨hentry, -⟩ := hfirst
      cases entry
      cases hentry
      exact Or.inr ⟨_, [], hanswered, Nat.le_refl _⟩

/-- **Every move keeps the young replies.** -/
theorem step (h : Retained c) (hmove : Move c c') : Retained c' := by
  obtain ⟨actions, htrace, hnow, hstep⟩ := hmove.recordStep
  exact h.recordStep htrace hnow hstep

theorem intake {id? : Option UInt64} (h : Retained c) (hintake : Intake id? c c') : Retained c' := by
  obtain ⟨actions, htrace, hnow, hstep⟩ := hintake.recordStep
  exact h.recordStep htrace hnow hstep

end Retained

end Meshcop
