/-
  Meshcop.Joiner.Completion — how often a joiner session completes its handshake.

  A session is meant to complete one handshake: one ClientKeyExchange, one Finished from each
  side.  The code recognises a repeated ClientKeyExchange by comparing it with the one accepted
  last, and it looks at the phase once per protected record.  A joiner that knows the password can
  therefore have a second, different ClientKeyExchange taken into the transcript, and can complete
  the handshake twice with two Finished messages in one record.

  Main results:
    * `receive_frozen`       — once established, no call changes the handshake;
    * `Handshaken`           — what the transcript holds after any run;
    * `completes_once_iff`   — a life completes exactly one handshake iff all ClientKeyExchanges
      that reached the session are equal and no protected record carried two Finished messages.
-/

import Mathlib.Data.List.Chain
import Meshcop.Joiner.Life

namespace Meshcop

open Lib JoinerMove
open Dtls (Crypto HandshakeMessage Protected DtlsRecord)

variable {C : Crypto} {handler : JoinerHandler}

/-! ## §1. An established session leaves its handshake alone. -/

/-- The session is established and its handshake is the given one. -/
def JoinerSession.Frozen (handshake : Dtls.ThreadDtlsServerHandshake C) (s : JoinerSession C) :
    Prop :=
  s.phase.established = true ∧ s.handshake = handshake

namespace Receiving

def Frozen (handshake : Dtls.ThreadDtlsServerHandshake C) (r : Receiving C handler) : Prop :=
  r.session.Frozen handshake

variable {handshake : Dtls.ThreadDtlsServerHandshake C}

theorem openRecord_frozen {record : DtlsRecord} (hepoch : record.header.epoch = 1) :
    Keeps (Frozen handshake)
      (onSession (JoinerSession.openRecord record) : ReceiveM C handler (Option Bytes)) := by
  intro r hr
  rw [onSession, wp_zoom]
  refine wp_mono (JoinerSession.openRecord_spec hepoch r.session) (fun opened s hs => ?_)
    (fun _ s hs => by rw [hs]; exact hr)
  cases opened with
  | none =>
    obtain rfl := hs
    exact hr
  | some plaintext =>
    obtain ⟨_, _, -, -, -, -, rfl⟩ := hs
    exact hr

theorem repeatServerFinished_frozen (records : List DtlsRecord) :
    Keeps (Frozen handshake) (repeatServerFinished records : ReceiveM C handler Unit) := by
  intro r hr
  simp only [repeatServerFinished, wp_bind, wp_get]
  split
  · simp only [push, onSession, wp_bind, wp_modify, wp_zoom]
    refine wp_mono (JoinerSession.buildServerFinishedFlight_spec _) ?_ ?_
    · rintro _ _ ⟨_, _, _, -, -, -, -, -, rfl⟩
      exact hr
    · rintro _ _ ⟨_, rfl⟩
      exact hr
  · exact hr

theorem answerJoinFin_frozen (request : CoapMessage) (info : JoinerFinalizeInfo) :
    Keeps (Frozen handshake) (answerJoinFin request info : ReceiveM C handler Unit) := by
  intro r hr
  refine wp_mono (answerJoinFin_spec request info r) ?_ ?_
  · rintro _ _ ⟨_, _, _, -, -, -, -, rfl⟩
    exact ⟨rfl, hr.2⟩
  · rintro _ _ ⟨rfl, -⟩
    exact hr

theorem handleApplicationData_frozen {record : DtlsRecord} (hepoch : record.header.epoch = 1) :
    Keeps (Frozen handshake) (handleApplicationData record : ReceiveM C handler Unit) := by
  unfold handleApplicationData
  refine keeps_bind keeps_get fun r => ?_
  split
  · exact keeps_pure ()
  refine keeps_bind (keeps_caught (openRecord_frozen hepoch)) fun opened => ?_
  split
  · refine keeps_bind (keeps_modify fun _ h => h) fun _ => ?_
    refine keeps_bind (keeps_attempt _ _) fun request => ?_
    refine keeps_bind (keeps_attempt _ _) fun path => ?_
    split
    · exact keeps_pure ()
    · exact keeps_bind (keeps_attempt _ _) fun info => answerJoinFin_frozen request info
  · exact keeps_pure ()

/-- A protected handshake record is not even opened. -/
theorem handleEncryptedHandshake_frozen (record : DtlsRecord) :
    Keeps (Frozen handshake) (handleEncryptedHandshake record : ReceiveM C handler Unit) := by
  intro r hr
  have hphase : r.session.phase ≠ .awaitingClientFlight := by
    intro hphase
    have hestablished := hr.1
    rw [hphase] at hestablished
    cases hestablished
  simp only [handleEncryptedHandshake, wp_bind, wp_get]
  rw [if_pos (Or.inl hphase)]
  exact hr

theorem receiveRecord_frozen (record : DtlsRecord) :
    Keeps (Frozen handshake) (receiveRecord true record : ReceiveM C handler Unit) := by
  unfold receiveRecord
  split
  · split
    · exact keeps_pure ()
    · split
      · exact keeps_throw _
      · exact keeps_modify fun _ h => h
    · refine keeps_bind keeps_get fun r => ?_
      split
      · exact keeps_pure ()
      · exact keeps_throw _
    · exact keeps_pure ()
  · split
    · rename_i hepoch
      split
      · exact handleEncryptedHandshake_frozen record
      · exact handleApplicationData_frozen hepoch
      · refine keeps_bind (keeps_caught (openRecord_frozen hepoch)) fun opened => ?_
        split
        · exact keeps_throw _
        · exact keeps_pure ()
      · exact keeps_pure ()
    · exact keeps_pure ()

theorem receiveRecords_frozen (records : List DtlsRecord) :
    Keeps (Frozen handshake) (receiveRecords true records : ReceiveM C handler Unit) := by
  induction records with
  | nil => exact keeps_pure ()
  | cons record records ih => exact keeps_bind (receiveRecord_frozen record) fun _ => ih

/-- **Once established, no call changes the handshake**, whether it returns or fails. -/
theorem receive_frozen (payload : Bytes) : Keeps (Frozen handshake)
      (receive payload : ReceiveM C handler (List JoinerSessionEvent)) := by
  intro r hr
  unfold receive
  rw [wp_bind, wp_modify]
  split
  · exact hr
  rename_i records hparse
  simp only [wp_bind, wp_get, hr.1]
  refine wp_imp (repeatServerFinished_frozen records _ hr) ?_
  intro _ r₁ hr₁
  exact wp_imp (receiveRecords_frozen records r₁ hr₁) (fun _ _ h => h)

end Receiving

/-! ## §2. What the transcript holds. -/

def Closing.messages (closing : Closing) : List HandshakeMessage :=
  [closing.client, closing.server]

/-- A completed handshake is typed, and the server's Finished is the one that was sealed. -/
structure Closing.Sound (closing : Closing) : Prop where
  client : closing.client.messageType = .finished
  server : closing.server.messageType = .finished
  sealed : closing.server.encode = .ok closing.sealed.plaintext

/-- The transcript of a session, put together from its moves. -/
def Composed (moves : List JoinerMove) (messages : List HandshakeMessage) : Prop :=
  ∃ greeting : Greeting, greeting.Typed ∧
    messages = greeting.messages ++ moves.flatMap keys ++
      (moves.flatMap closings).flatMap Closing.messages

/-- What is true after any moves of a new session. -/
structure Handshaken (moves : List JoinerMove) (w : JoinerWork) : Prop where
  untouched : w.phase = .awaitingClientHello → w.messages = [] ∧
    moves.flatMap keys = []
  composed : w.phase ≠ .awaitingClientHello → Composed moves w.messages
  established : w.phase.established = true ↔ moves.flatMap closings ≠ []
  keyed : w.keyMaterial ≠ none → moves.flatMap keys ≠ []
  finished : moves.flatMap closings ≠ [] → moves.flatMap keys ≠ []
  keyTypes : ∀ message ∈ moves.flatMap keys, message.messageType = .clientKeyExchange
  sound : ∀ closing ∈ moves.flatMap closings, closing.Sound
  last : w.keyExchange = (moves.flatMap keys).getLast?
  distinct : (moves.flatMap keys).IsChain (· ≠ ·)
  handled : ∀ message, message ∈ moves.flatMap handled ↔
    message ∈ moves.flatMap keys
  trace : w.trace = moves.flatMap actions

theorem Handshaken.fresh : Handshaken [] JoinerWork.fresh where
  untouched _ := ⟨rfl, rfl⟩
  composed h := absurd rfl h
  established := by decide
  keyed h := absurd rfl h
  finished h := absurd rfl h
  keyTypes _ h := absurd h List.not_mem_nil
  sound _ h := absurd h List.not_mem_nil
  last := rfl
  distinct := .nil
  handled _ := Iff.rfl
  trace := rfl

/-- The move adds nothing to the transcript. -/
structure Passing (w : JoinerWork) (move : JoinerMove) (w' : JoinerWork) : Prop where
  handled : ∀ message ∈ move.handled, w.keyExchange = some message
  keys : move.keys = []
  closings : move.closings = []
  messages : w'.messages = w.messages
  phase : w'.phase = w.phase ∨ w.phase.established = true ∧ w'.phase = .finalized
  keyMaterial : w'.keyMaterial = w.keyMaterial
  keyExchange : w'.keyExchange = w.keyExchange

theorem JoinerDoes.trace {w w' : JoinerWork} {move : JoinerMove} (h : JoinerDoes w move w') :
    w'.trace = w.trace ++ move.actions := by
  cases h with
  | rekey => exact (List.append_nil _).symm
  | _ => rfl

section Step

variable {w w' : JoinerWork} {move : JoinerMove} {moves : List JoinerMove}

theorem Handshaken.pass (h : Handshaken moves w) (hdoes : JoinerDoes w move w')
    (hpass : Passing w move w') : Handshaken (moves ++ [move]) w' := by
  have hkeys : (moves ++ [move]).flatMap keys = moves.flatMap keys := flatMap_snoc_of_nil hpass.keys
  have hclosings : (moves ++ [move]).flatMap closings = moves.flatMap closings :=
    flatMap_snoc_of_nil hpass.closings
  have hwaiting : w'.phase = .awaitingClientHello ↔ w.phase = .awaitingClientHello := by
    rcases hpass.phase with hphase | ⟨hphase, hphase'⟩
    · rw [hphase]
    rw [hphase']
    constructor
    · intro h
      cases h
    · intro h
      rw [h] at hphase
      cases hphase
  refine ⟨?_, ?_, ?_, ?_, ?_, ?_, ?_, ?_, ?_, ?_, ?_⟩
  · intro hphase
    rw [hkeys, hpass.messages]
    exact h.untouched (hwaiting.mp hphase)
  · intro hphase
    obtain ⟨greeting, htyped, hmessages⟩ := h.composed fun h => hphase (hwaiting.mpr h)
    exact ⟨greeting, htyped, by rw [hpass.messages, hkeys, hclosings, hmessages]⟩
  · rw [hclosings, hdoes.established_iff, h.established, hpass.closings]
    simp
  · rw [hkeys, hpass.keyMaterial]
    exact h.keyed
  · rw [hclosings, hkeys]
    exact h.finished
  · rw [hkeys]
    exact h.keyTypes
  · rw [hclosings]
    exact h.sound
  · rw [hkeys, hpass.keyExchange]
    exact h.last
  · rw [hkeys]
    exact h.distinct
  · intro message
    rw [hkeys, flatMap_snoc, List.mem_append, h.handled]
    refine or_iff_left_of_imp fun hmem => ?_
    -- a repeated ClientKeyExchange is the one taken last
    exact List.mem_of_getLast? (h.last.symm.trans (hpass.handled message hmem))
  · rw [hdoes.trace, h.trace, flatMap_snoc]

/-- **One move** keeps the account of the transcript. -/
theorem Handshaken.step (h : Handshaken moves w) (hdoes : JoinerDoes w move w') :
    Handshaken (moves ++ [move]) w' := by
  have htrace : w'.trace = (moves ++ [move]).flatMap actions := by
    rw [hdoes.trace, h.trace, flatMap_snoc]
  have hestablished : w'.phase.established = true ↔ (moves ++ [move]).flatMap closings ≠ [] := by
    rw [hdoes.established_iff, h.established, flatMap_snoc]
    by_cases hmoves : moves.flatMap closings = [] <;> simp [hmoves]
  have hpast : ∀ {α : Type} (f : JoinerMove → List α), f move = [] →
      (moves ++ [move]).flatMap f = moves.flatMap f :=
    fun _ hnil => flatMap_snoc_of_nil hnil
  cases hdoes with
  | @offer recordSequence greeting flight datagram bodies hphase _ htyped _ _ _ =>
    obtain ⟨hmessages, hkeys⟩ := h.untouched hphase
    have hclosings : moves.flatMap closings = [] := by
      by_contra hne
      have hyes := h.established.mpr hne
      rw [hphase] at hyes
      cases hyes
    have hkeys' := (hpast keys rfl).trans hkeys
    have hclosings' := (hpast closings rfl).trans hclosings
    refine ⟨fun h => (by cases h), fun _ => ⟨greeting, htyped, ?_⟩, hestablished, ?_, ?_, ?_, ?_,
      ?_, ?_, ?_, htrace⟩
    · rw [hkeys', hclosings']
      show w.messages ++ greeting.messages = greeting.messages ++ [] ++ []
      rw [hmessages, List.append_nil, List.append_nil]
      rfl
    · intro hkeyed
      exact absurd hkeys (h.keyed hkeyed)
    · intro hne
      exact absurd hclosings' hne
    · rw [hkeys']
      exact List.forall_mem_nil _
    · rw [hclosings']
      exact List.forall_mem_nil _
    · rw [hpast keys rfl]
      exact h.last
    · rw [hkeys']
      exact .nil
    · intro message
      rw [hpast JoinerMove.handled rfl, hpast keys rfl]
      exact h.handled message
  | @key message keyMaterial hphase hnew htype =>
    have hwaiting : w.phase ≠ .awaitingClientHello := by
      rw [hphase]
      decide
    have hclosings : moves.flatMap closings = [] := by
      by_contra hne
      have hyes := h.established.mpr hne
      rw [hphase] at hyes
      cases hyes
    have hclosings' := (hpast closings rfl).trans hclosings
    have hkeys : (moves ++ [key message keyMaterial]).flatMap keys
        = moves.flatMap keys ++ [message] := by
      rw [flatMap_snoc]
      rfl
    refine ⟨fun hphase' => absurd hphase' hwaiting, fun _ => ?_, hestablished, ?_, ?_, ?_, ?_,
      ?_, ?_, ?_, htrace⟩
    · -- nothing was closed yet, so the message comes behind the keys
      obtain ⟨greeting, htyped, hmessages⟩ := h.composed hwaiting
      refine ⟨greeting, htyped, ?_⟩
      show w.messages ++ [message] = _
      rw [hmessages, hclosings, hclosings', hkeys]
      simp
    · intro _
      rw [hkeys]
      simp
    · intro hne
      exact absurd hclosings' hne
    · intro other hmem
      rw [hkeys] at hmem
      rcases List.mem_append.mp hmem with hmem | hmem
      · exact h.keyTypes other hmem
      · rw [List.mem_singleton.mp hmem]
        exact htype
    · rw [hclosings']
      exact List.forall_mem_nil _
    · rw [hkeys]
      exact List.getLast?_concat.symm
    · rw [hkeys]
      refine List.isChain_append.mpr ⟨h.distinct, List.isChain_singleton _, ?_⟩
      intro x hx y hy
      -- the message differs from the one taken last
      rw [← h.last] at hx
      obtain rfl : message = y := Option.some.inj hy
      intro heq
      exact hnew (heq ▸ hx)
    · intro other
      rw [hkeys, flatMap_snoc, List.mem_append, List.mem_append, h.handled other]
      rfl
  | @finish closing datagram hphase hkeyed hclient hserver hsealed _ _ _ =>
    have hwaiting : w.phase ≠ .awaitingClientHello := by
      rcases hphase with hphase | hphase <;> rw [hphase] <;> decide
    have hclosings : (moves ++ [finish closing datagram]).flatMap closings
        = moves.flatMap closings ++ [closing] := by
      rw [flatMap_snoc]
      rfl
    have hkeys := hpast keys rfl
    refine ⟨fun h => (by cases h), fun _ => ?_, hestablished, ?_, ?_, ?_, ?_, ?_, ?_, ?_, htrace⟩
    · obtain ⟨greeting, htyped, hmessages⟩ := h.composed hwaiting
      refine ⟨greeting, htyped, ?_⟩
      show w.messages ++ [closing.client, closing.server] = _
      rw [hmessages, hkeys, hclosings, flatMap_snoc, List.append_assoc]
      rfl
    · rw [hkeys]
      exact h.keyed
    · rw [hkeys]
      exact fun _ => h.keyed hkeyed
    · rw [hkeys]
      exact h.keyTypes
    · intro other hmem
      rw [hclosings] at hmem
      rcases List.mem_append.mp hmem with hmem | hmem
      · exact h.sound other hmem
      · rw [List.mem_singleton.mp hmem]
        exact ⟨hclient, hserver, hsealed⟩
    · rw [hkeys]
      exact h.last
    · rw [hkeys]
      exact h.distinct
    · intro message
      rw [hpast JoinerMove.handled rfl, hkeys]
      exact h.handled message
  | rekey hphase hsame =>
    refine h.pass (.rekey hphase hsame) ⟨?_, rfl, rfl, rfl, Or.inl rfl, rfl, rfl⟩
    intro message hmem
    rw [List.mem_singleton.mp hmem]
    exact hsame
  | answered hphase =>
    refine h.pass (by constructor <;> assumption) ⟨?_, rfl, rfl, rfl, ?_, rfl, rfl⟩
    · exact List.forall_mem_nil _
    · exact Or.inr ⟨hphase, rfl⟩
  | _ =>
    refine h.pass (by constructor <;> assumption) ⟨?_, rfl, rfl, rfl, Or.inl rfl, rfl, rfl⟩
    exact List.forall_mem_nil _

theorem JoinerRun.handshaken (h : JoinerRun .fresh moves w) : Handshaken moves w :=
  h.invariant (I := Handshaken) .fresh fun h hdoes => h.step hdoes

end Step

/-! ## §3. Finished messages. -/

/-- Of every protected handshake record all Finished messages were verified before the next move. -/
abbrev Settled (moves : List JoinerMove) : Prop :=
  Justified (fun before move => move.closes = false →
    before.flatMap verified = before.flatMap carried) moves

/-- The record was opened and is a handshake record. -/
def JoinerWork.Opened (w : JoinerWork) (entry : Protected) : Prop :=
  .opened entry ∈ w.trace ∧ entry.record.header.contentType = .handshake

/-- The Finished messages that were carried came in one record. -/
structure CarriedOnce (moves : List JoinerMove) (w : JoinerWork) : Prop where
  one : moves.flatMap carried = [] ∨
    ∃ entry, w.Opened entry ∧ moves.flatMap carried = finishedIn entry.plaintext
  all : ∀ entry, w.Opened entry →
    (finishedIn entry.plaintext).length ≤ (moves.flatMap carried).length

section Step

variable {w w' : JoinerWork} {move : JoinerMove} {moves : List JoinerMove}

/-- A handshake record in the history of a move is the one the move opens. -/
theorem JoinerDoes.opened_mem (h : JoinerDoes w move w') {entry : Protected}
    (hmem : .opened entry ∈ move.actions) (htype : entry.record.header.contentType = .handshake) :
    move = .opened entry := by
  cases h with
  | opened =>
    obtain rfl := JoinerAction.opened.inj (List.mem_singleton.mp hmem)
    rfl
  | taken _ happlication =>
    obtain rfl := JoinerAction.opened.inj (List.mem_singleton.mp hmem)
    rw [htype] at happlication
    cases happlication
  | answered _ happlication hasked =>
    -- only application data is answered
    rcases List.mem_append.mp hmem with hmem | hmem
    · rcases List.mem_cons.mp hmem with heq | hmem
      · obtain rfl := JoinerAction.opened.inj heq
        rw [htype] at happlication
        cases happlication
      · obtain ⟨_, _, heq⟩ := hasked _ hmem
        cases heq
    · simp at hmem
  | _ => simp [actions, JoinerMove.events] at hmem

theorem CarriedOnce.step (h : CarriedOnce moves w) (hshake : Handshaken moves w)
    (hsettled : Settled (moves ++ [move])) (hdoes : JoinerDoes w move w') :
    CarriedOnce (moves ++ [move]) w' := by
  have hmem : ∀ entry, w'.Opened entry → w.Opened entry ∨ move = .opened entry := by
    rintro entry ⟨hmem, htype⟩
    rw [hdoes.trace] at hmem
    rcases List.mem_append.mp hmem with hmem | hmem
    · exact Or.inl ⟨hmem, htype⟩
    · exact Or.inr (hdoes.opened_mem hmem htype)
  have hkept : ∀ entry, w.Opened entry → w'.Opened entry := by
    rintro entry ⟨hmem, htype⟩
    rw [JoinerWork.Opened, hdoes.trace]
    exact ⟨List.mem_append_left _ hmem, htype⟩
  by_cases hopens : ∃ entry, move = .opened entry
  · obtain ⟨entry, rfl⟩ := hopens
    -- no handshake is complete while records are opened, so nothing was carried before
    have hnone : moves.flatMap carried = [] := by
      have hopen : w.phase = .awaitingClientFlight := by
        cases hdoes with
        | opened hphase => exact hphase
      have hclosings : moves.flatMap closings = [] := by
        by_contra hne
        have hyes := hshake.established.mpr hne
        rw [hopen] at hyes
        cases hyes
      rw [← hsettled moves (.opened entry) [] rfl rfl, verified_eq_closings, hclosings]
      rfl
    have hcarried : (moves ++ [opened entry]).flatMap carried = finishedIn entry.plaintext := by
      rw [flatMap_snoc, hnone]
      rfl
    have hentry : w'.Opened entry := by
      cases hdoes with
      | opened _ _ htype => exact ⟨List.mem_append_right _ (List.mem_singleton.mpr rfl), htype⟩
    refine ⟨Or.inr ⟨entry, hentry, hcarried⟩, fun other hother => ?_⟩
    rcases hmem other hother with hold | heq
    · have hzero := h.all other hold
      rw [hnone] at hzero
      exact (Nat.le_zero.mp hzero) ▸ Nat.zero_le _
    · obtain rfl := opened.inj heq
      exact Nat.le_of_eq (congrArg List.length hcarried.symm)
  · have hcarried : (moves ++ [move]).flatMap carried = moves.flatMap carried := by
      have hnone : move.carried = [] := by
        cases move with
        | opened entry => exact absurd ⟨entry, rfl⟩ hopens
        | _ => rfl
      rw [flatMap_snoc, hnone, List.append_nil]
    refine ⟨?_, fun other hother => ?_⟩
    · rw [hcarried]
      rcases h.one with hnone | ⟨entry, hentry, heq⟩
      · exact Or.inl hnone
      · exact Or.inr ⟨entry, hkept entry hentry, heq⟩
    · rw [hcarried]
      refine h.all other ((hmem other hother).resolve_right fun heq => ?_)
      exact hopens ⟨other, heq⟩

theorem JoinerRun.carriedOnce (h : JoinerRun .fresh moves w) (hsettled : Settled moves) :
    CarriedOnce moves w := by
  refine (h.invariant (I := fun moves w => Handshaken moves w ∧
    (Settled moves → CarriedOnce moves w)) ⟨.fresh, fun _ => ?_⟩ ?_).2 hsettled
  · exact ⟨Or.inl rfl, fun _ hopened => absurd hopened.1 List.not_mem_nil⟩
  · intro moves w move w' ih hdoes
    exact ⟨ih.1.step hdoes, fun hsettled =>
      (ih.2 (justified_append.mp hsettled).1).step ih.1 hsettled hdoes⟩

end Step

/-! ## §4. One handshake. -/

/-- The transcript is one ClientHello, ServerHello, ServerKeyExchange, ServerHelloDone,
    ClientKeyExchange, the client's Finished that was verified and the server's that was sealed. -/
def CompleteHandshake (s : JoinerSession C) : Prop :=
  ∃ (greeting : Greeting) (keyExchange : HandshakeMessage) (closing : Closing),
    greeting.Typed ∧ keyExchange.messageType = .clientKeyExchange ∧ closing.Sound ∧
    .verified closing.client ∈ s.trace ∧ .sealed closing.sealed ∈ s.trace ∧
    s.handshake.transcript.messages = greeting.messages ++ [keyExchange] ++ closing.messages

/-- A session completes its handshake at most once: its phase never moves back, it connects at
    most once, and then with the transcript of one handshake, which never changes again. -/
structure CompletesOnce (handler : JoinerHandler) (calls : List Served) (s : JoinerSession C) :
    Prop where
  forward : ∀ payload (r : Receiving C handler), r.session = s →
    s.phase.rank ≤ (after (Receiving.receive payload) r).session.phase.rank
  once : (emitted calls).count .connected ≤ 1
  complete : .connected ∈ emitted calls → CompleteHandshake s
  frozen : .connected ∈ emitted calls → ∀ payload (r : Receiving C handler), r.session = s →
    (after (Receiving.receive payload) r).session.handshake.transcript.messages
      = s.handshake.transcript.messages

/-- What the joiner has to keep to: one ClientKeyExchange, if often, and no protected record with
    more than one Finished. -/
structure OneHandshake (calls : List Served) (s : JoinerSession C) : Prop where
  keyExchange : .connected ∈ emitted calls → ∀ message ∈ keyExchangesOffered calls,
    ∀ other ∈ keyExchangesOffered calls, message = other
  finished : ∀ entry, .opened entry ∈ s.trace → entry.record.header.contentType = .handshake →
    (finishedIn entry.plaintext).length ≤ 1

/-- A list without equal neighbours whose elements are all equal. -/
theorem length_le_one_of_distinct {α : Type} {l : List α} (hdistinct : l.IsChain (· ≠ ·))
    (hsame : ∀ x ∈ l, ∀ y ∈ l, x = y) : l.length ≤ 1 := by
  match l with
  | [] => exact Nat.zero_le _
  | [_] => exact Nat.le_refl _
  | x :: y :: rest =>
    have hne : x ≠ y := (List.isChain_cons_cons.mp hdistinct).1
    exact absurd (hsame x (by simp) y (by simp)) hne

theorem length_composed {moves : List JoinerMove} {messages : List HandshakeMessage}
    (h : Composed moves messages) : messages.length = 4 +
      (moves.flatMap keys).length + 2 * (moves.flatMap closings).length := by
  obtain ⟨greeting, -, rfl⟩ := h
  have hclosings : ∀ closings : List Closing,
      (closings.flatMap Closing.messages).length = 2 * closings.length := by
    intro closings
    induction closings with
    | nil => rfl
    | cons closing closings ih =>
      rw [List.flatMap_cons, List.length_append, ih, List.length_cons]
      show 2 + _ = _
      omega
  rw [List.length_append, List.length_append, hclosings]
  rfl

/-- What a run of a new session says about completion. -/
theorem JoinerRun.complete {moves : List JoinerMove} {s : JoinerSession C}
    (h : JoinerRun .fresh moves s.work) (hclosings : (moves.flatMap closings).length = 1)
    (hkeys : (moves.flatMap keys).length = 1) : CompleteHandshake s := by
  have hshake := h.handshaken
  obtain ⟨closing, hclosing⟩ := List.length_eq_one_iff.mp hclosings
  obtain ⟨keyExchange, hkey⟩ := List.length_eq_one_iff.mp hkeys
  have hmem : closing ∈ moves.flatMap closings := by
    rw [hclosing]
    exact List.mem_singleton.mpr rfl
  have hwaiting : s.work.phase ≠ .awaitingClientHello := by
    intro hphase
    have hyes := hshake.established.mpr (List.ne_nil_of_mem hmem)
    rw [hphase] at hyes
    cases hyes
  obtain ⟨greeting, htyped, hmessages⟩ := hshake.composed hwaiting
  -- the move that completed the handshake left its traces
  obtain ⟨move, hmove, hof⟩ := List.mem_flatMap.mp hmem
  have hactions : ∀ action ∈ move.actions, action ∈ s.trace := by
    intro action haction
    show action ∈ s.work.trace
    rw [hshake.trace]
    exact List.mem_flatMap.mpr ⟨move, hmove, haction⟩
  have hfinish : ∃ datagram, move = .finish closing datagram := by
    cases move with
    | finish _ datagram =>
      obtain rfl := List.mem_singleton.mp hof
      exact ⟨datagram, rfl⟩
    | _ => exact absurd hof List.not_mem_nil
  obtain ⟨datagram, rfl⟩ := hfinish
  refine ⟨greeting, keyExchange, closing, htyped, ?_, hshake.sound closing hmem, ?_, ?_, ?_⟩
  · refine hshake.keyTypes keyExchange ?_
    rw [hkey]
    exact List.mem_singleton.mpr rfl
  · exact hactions _ (by simp [actions])
  · exact hactions _ (by simp [actions])
  · show s.work.messages = _
    rw [hmessages, hkey, hclosing, List.flatMap_singleton]

/-- **A session completes one handshake exactly if its joiner keeps to one**: all
    ClientKeyExchanges that reach it before it connects are equal, and no protected record that it
    authenticates carries more than one Finished.  The phase only moves forward in any case. -/
theorem completes_once_iff (joinerIid : FixedBytes 8) (joinerUdpPort joinerRouterLocator : UInt16)
    (pskd : Text) (now : Nat) (rng : C.Rng) {calls : List Served} {s : JoinerSession C}
    (hlife : JoinerLife handler
      (JoinerSession.new joinerIid joinerUdpPort joinerRouterLocator pskd now rng).1 calls s) :
    CompletesOnce handler calls s ↔ OneHandshake calls s := by
  obtain ⟨moves, hmoves, hevents, haccounts⟩ := hlife.moves rfl
  have hrun : JoinerRun .fresh moves s.work := hmoves
  have hshake := hrun.handshaken
  have hcarried := hrun.carriedOnce haccounts.settled
  have hclosings : (moves.flatMap closings).length = (moves.flatMap carried).length := by
    rw [← haccounts.verified, verified_eq_closings, List.length_map]
  have hcount : (emitted calls).count .connected = (moves.flatMap closings).length := by
    rw [hevents, hrun.count_connected]
  have hconnected : .connected ∈ emitted calls ↔ s.phase.established = true := by
    rw [hevents]
    exact hrun.connected_mem_iff rfl
  have hhandled : ∀ message, message ∈ keyExchangesOffered calls ↔
      message ∈ moves.flatMap keys := by
    rw [← haccounts.handled]
    exact hshake.handled
  have hsome : .connected ∈ emitted calls → 1 ≤ (moves.flatMap closings).length ∧
      1 ≤ (moves.flatMap keys).length := by
    intro h
    have hne := hshake.established.mp (hconnected.mp h)
    exact ⟨List.length_pos_iff.mpr hne, List.length_pos_iff.mpr (hshake.finished hne)⟩
  constructor
  · intro h
    refine ⟨fun hmem => ?_, fun entry hopened htype => ?_⟩
    · -- seven messages leave room for one ClientKeyExchange
      obtain ⟨greeting, keyExchange, closing, -, -, -, -, -, hmessages⟩ := h.complete hmem
      have hwaiting : s.work.phase ≠ .awaitingClientHello := by
        intro hphase
        have hyes := hconnected.mp hmem
        rw [show s.phase = .awaitingClientHello from hphase] at hyes
        cases hyes
      have hlength := length_composed (hshake.composed hwaiting)
      have hseven : s.work.messages.length = 7 := by
        show s.handshake.transcript.messages.length = 7
        rw [hmessages]
        rfl
      obtain ⟨hclosed, hkeyed⟩ := hsome hmem
      have hone : (moves.flatMap keys).length = 1 := by omega
      obtain ⟨taken, htaken⟩ := List.length_eq_one_iff.mp hone
      intro message hmessage other hother
      rw [hhandled, htaken, List.mem_singleton] at hmessage hother
      rw [hmessage, hother]
    · have hall := hcarried.all entry ⟨hopened, htype⟩
      have honce := h.once
      omega
  · intro h
    have honce : (moves.flatMap closings).length ≤ 1 := by
      rw [hclosings]
      rcases hcarried.one with hnone | ⟨entry, hentry, heq⟩
      · rw [hnone]
        exact Nat.zero_le _
      · rw [heq]
        exact h.finished entry hentry.1 hentry.2
    refine ⟨fun payload r hr => ?_, hcount ▸ honce, fun hmem => ?_, fun hmem payload r hr => ?_⟩
    · rw [← hr]
      exact receive_forward payload r
    · obtain ⟨hclosed, hkeyed⟩ := hsome hmem
      have hkeys : (moves.flatMap keys).length ≤ 1 := by
        refine length_le_one_of_distinct hshake.distinct fun message hmessage other hother => ?_
        exact h.keyExchange hmem message ((hhandled message).mpr hmessage) other
          ((hhandled other).mpr hother)
      exact hrun.complete (by omega) (by omega)
    · subst hr
      have hfrozen := after_of_wp (Receiving.receive_frozen payload r ⟨hconnected.mp hmem, rfl⟩)
      rw [hfrozen.2]

/-- The life of a session whose joiner runs the client driver. -/
def plainLife : List Served × Receiving Crypto.transparent willing :=
  Receiving.serve (joinerPayloads 3) freshJoiner

/-- Such a joiner keeps to one handshake, and the session completes one. -/
theorem completes_once_iff_plain : .connected ∈ emitted plainLife.1 ∧
    JoinerLife willing freshJoiner.session plainLife.1 plainLife.2.session ∧
    CompletesOnce willing plainLife.1 plainLife.2.session := by
  have hlife : JoinerLife willing freshJoiner.session plainLife.1 plainLife.2.session := by
    unfold plainLife
    exact Receiving.serve_life (joinerPayloads 3) freshJoiner
  obtain ⟨hconnected, hkeys, hopened⟩ : .connected ∈ emitted plainLife.1 ∧
      (∀ message ∈ keyExchangesOffered plainLife.1,
        ∀ other ∈ keyExchangesOffered plainLife.1, message = other) ∧
      plainLife.2.session.trace.all (fun
        | .opened entry => decide ((finishedIn entry.plaintext).length ≤ 1)
        | _ => true) = true := by
    decide +kernel
  refine ⟨hconnected, hlife,
    (completes_once_iff soleIid 1000 0xfc00 [] 0 () hlife).mpr ⟨fun _ => hkeys, ?_⟩⟩
  intro entry hmem _
  exact of_decide_eq_true (List.all_eq_true.mp hopened (.opened entry) hmem)

/-- The last flight of that joiner, with a second Finished over the longer transcript in the same
    protected record. -/
def doubledFlight : Except Dtls.Error Bytes := do
  let transcript := plainLife.2.session.handshake.transcript
  let first ← (transcript.messages.drop 5).head?.elim (.ok []) HandshakeMessage.encode
  let payload ← transcript.finishedVerifyData Crypto.transparent [] .client
  let second ← ({ messageType := .finished, messageSeq := 4, payload } : HandshakeMessage).encode
  let protectedRecord ← Dtls.protectAes128Ccm8Record Crypto.transparent .handshake 1 0
    (List.replicate 16 0) (List.replicate 4 0) (first ++ second)
  let records ← DtlsRecord.parseDatagram ((joinerPayloads 3).getLastD [])
  DtlsRecord.encodeDatagram (records.take 2 ++ [protectedRecord])

/-- The life of a session whose joiner closes with that flight. -/
def doubledLife : List Served × Receiving Crypto.transparent willing :=
  Receiving.serve ((joinerPayloads 3).take 2 ++ [doubledFlight.toOption.getD []]) freshJoiner

/-- **Two Finished messages in one record connect a joiner twice**, and the transcript ends with
    four Finished messages. -/
theorem two_finished_connect_twice :
    JoinerLife willing freshJoiner.session doubledLife.1 doubledLife.2.session ∧
    (emitted doubledLife.1).count .connected = 2 ∧
    doubledLife.2.session.handshake.transcript.messages.map (·.messageType)
      = [.clientHello, .serverHello, .serverKeyExchange, .serverHelloDone, .clientKeyExchange,
        .finished, .finished, .finished, .finished] ∧
    ¬ CompletesOnce willing doubledLife.1 doubledLife.2.session := by
  have hlife : JoinerLife willing freshJoiner.session doubledLife.1 doubledLife.2.session := by
    unfold doubledLife
    exact Receiving.serve_life _ freshJoiner
  obtain ⟨htwice, htypes⟩ : (emitted doubledLife.1).count .connected = 2 ∧
      doubledLife.2.session.handshake.transcript.messages.map (·.messageType)
        = [.clientHello, .serverHello, .serverKeyExchange, .serverHelloDone, .clientKeyExchange,
          .finished, .finished, .finished, .finished] := by
    decide +kernel
  refine ⟨hlife, htwice, htypes, fun h => ?_⟩
  have honce := h.once
  rw [htwice] at honce
  omega

end Meshcop
