/-
  Meshcop.Dtls.Session — the state of an established session and the flight helpers the
  drivers share (`meshcop-dtls/src/{driver,flight}.rs`).

  `SessionState` seals this side's epoch-1 records under one counter and opens the peer's
  through the anti-replay window.  Two history variables, `released` and `opened`, list what
  was sealed and what was opened so far; no function reads them.

  Main results:
    * `protectRecord_spec` — a sealing that succeeds releases one record under the current
      counter and advances it; one that fails changes nothing;
    * `Fresh`, `protectRecord_fresh` — the released records are numbered `0, 1, 2, …` below
      `2 ^ 48` under one key and IV, and sealing keeps them so;
    * `openNextRecord_sameSealing` — receiving changes nothing the sealing side uses.
-/

import Meshcop.Dtls.Handshake
import Meshcop.Dtls.Protection

namespace Meshcop.Dtls

open Lib

/-! ## §1. Flight helpers. -/

/-- The next record number and the advanced counter. -/
def takeRecordSequence (nextSequence : UInt64) : UInt64 × UInt64 :=
  (nextSequence, nextSequence + 1)

/-- Gives the epoch-0 records of a flight fresh numbers; protected records are left alone. -/
def renumberEpochZeroFlight : List DtlsRecord → UInt64 → List DtlsRecord × UInt64
  | [], next => ([], next)
  | record :: records, next =>
    if record.header.epoch = 0 then
      let (sequenceNumber, next) := takeRecordSequence next
      let (records, next) := renumberEpochZeroFlight records next
      ({ record with header := { record.header with sequenceNumber } } :: records, next)
    else
      let (records, next) := renumberEpochZeroFlight records next
      (record :: records, next)

/-- Whether a datagram carries part of a client's key-exchange-and-Finished flight. -/
def isClientFinishedFlight (records : List DtlsRecord) : Bool :=
  records.any fun record =>
    match record.header.contentType with
    | .handshake =>
      if record.header.epoch = 0 then
        match parseUnfragmentedHandshakeMessages record with
        | .ok messages => messages.any (fun message => message.messageType = .clientKeyExchange)
        | .error _ => false
      else record.header.epoch = 1
    | _ => false

def MAX_DUPLICATE_RETRANSMISSIONS : UInt8 := 4

/-- How many retransmissions a peer's duplicates may still trigger in one wait. -/
structure DuplicateRetransmitBudget where
  used : UInt8

namespace DuplicateRetransmitBudget

def new : DuplicateRetransmitBudget := { used := 0 }

/-- Takes one retransmission from the budget, if one is left. -/
def take (budget : DuplicateRetransmitBudget) : Bool × DuplicateRetransmitBudget :=
  if budget.used ≥ MAX_DUPLICATE_RETRANSMISSIONS then (false, budget)
  else (true, { used := budget.used + 1 })

/-- The budget allows a repetition while fewer than four were made. -/
theorem take_cases (budget : DuplicateRetransmitBudget) :
    budget.take = (false, budget) ∨ (budget.used.toNat < 4 ∧
      ∃ rest, budget.take = (true, rest) ∧ rest.used.toNat = budget.used.toNat + 1) := by
  unfold take
  by_cases hspent : budget.used ≥ MAX_DUPLICATE_RETRANSMISSIONS
  · exact Or.inl (if_pos hspent)
  have hlt : budget.used.toNat < MAX_DUPLICATE_RETRANSMISSIONS.toNat :=
    UInt8.lt_iff_toNat_lt.mp (UInt8.not_le.mp hspent)
  refine Or.inr ⟨hlt, _, if_neg hspent, ?_⟩
  show (budget.used + 1).toNat = _
  rw [UInt8.toNat_add]
  exact Nat.mod_eq_of_lt (Nat.lt_of_le_of_lt hlt (by decide))

theorem take_eq_true {budget rest : DuplicateRetransmitBudget} (h : budget.take = (true, rest)) :
    budget.used.toNat < 4 ∧ rest.used.toNat = budget.used.toNat + 1 := by
  rcases budget.take_cases with hspent | ⟨hlt, left, htake, hleft⟩
  · cases hspent.symm.trans h
  · cases htake.symm.trans h
    exact ⟨hlt, hleft⟩

end DuplicateRetransmitBudget

/-! ## §2. Session state. -/

inductive SessionRole where
  | client
  | server
  deriving DecidableEq, Repr

structure SessionState where
  keyMaterial : ThreadDtlsKeyMaterial
  role : SessionRole
  nextApplicationSequence : UInt64
  applicationReplay : ReplayWindow
  /-- Records received but not yet opened. -/
  unreadRecords : List DtlsRecord
  /-- History: what this side has sealed, in order. -/
  released : List Protected
  /-- History: the peer's records this side has opened, in order. -/
  opened : List Protected

namespace SessionState

/-- A session that starts to count at the given number. -/
def withNextApplicationSequence (keyMaterial : ThreadDtlsKeyMaterial) (role : SessionRole)
    (nextApplicationSequence : UInt64) : SessionState :=
  { keyMaterial, role, nextApplicationSequence, applicationReplay := ReplayWindow.new
    unreadRecords := [], released := [], opened := [] }

/-- A session whose own Finished already used number 0. -/
def new (keyMaterial : ThreadDtlsKeyMaterial) (role : SessionRole) : SessionState :=
  withNextApplicationSequence keyMaterial role 1

/-- A session that still has its Finished to seal. -/
def duringHandshake (keyMaterial : ThreadDtlsKeyMaterial) (role : SessionRole) : SessionState :=
  { keyMaterial, role, nextApplicationSequence := 0, applicationReplay := ReplayWindow.new
    unreadRecords := [], released := [], opened := [] }

/-- The key and IV this side seals under. -/
def writeKey (state : SessionState) : Bytes × Bytes :=
  match state.role with
  | .client => (state.keyMaterial.keyBlock.clientWriteKey, state.keyMaterial.keyBlock.clientWriteIv)
  | .server => (state.keyMaterial.keyBlock.serverWriteKey, state.keyMaterial.keyBlock.serverWriteIv)

/-- The key and IV the peer seals under. -/
def readKey (state : SessionState) : Bytes × Bytes :=
  match state.role with
  | .client => (state.keyMaterial.keyBlock.serverWriteKey, state.keyMaterial.keyBlock.serverWriteIv)
  | .server => (state.keyMaterial.keyBlock.clientWriteKey, state.keyMaterial.keyBlock.clientWriteIv)

variable (C : Crypto)

/-- Seals one epoch-1 record under the session's counter. -/
def protectRecord (contentType : ContentType) (plaintext : Bytes) :
    EStateM Error SessionState DtlsRecord := do
  let state ← get
  let (key, fixedIv) := state.writeKey
  let record ← attempt id
    (protectAes128Ccm8Record C contentType 1 state.nextApplicationSequence key fixedIv plaintext)
  modify fun state =>
    { state with nextApplicationSequence := state.nextApplicationSequence + 1
                 released := state.released ++ [{ key, fixedIv, record, plaintext }] }
  return record

def protectApplicationData (plaintext : Bytes) : EStateM Error SessionState DtlsRecord :=
  protectRecord C .applicationData plaintext

/-- Opens one epoch-1 record of the peer: `none` for a replayed one. -/
def openProtectedRecord (record : DtlsRecord) : EStateM Error SessionState (Option Bytes) := do
  let state ← get
  if state.applicationReplay.hasSeen record.header.sequenceNumber then return none
  else
    let (key, fixedIv) := state.readKey
    let plaintext ← attempt id (openAes128Ccm8Record C record key fixedIv)
    modify fun state =>
      { state with
        applicationReplay := state.applicationReplay.markSeen record.header.sequenceNumber
        opened := state.opened ++ [{ key, fixedIv, record, plaintext }] }
    return some plaintext

/-- Queues the records of one datagram. -/
def receiveDatagram (state : SessionState) (records : List DtlsRecord) : SessionState :=
  { state with unreadRecords := state.unreadRecords ++ records }

end SessionState

/-! ## §3. Alerts and the receive loop. -/

def ALERT_CLOSE_NOTIFY : UInt8 := 0

/-- The error for a received alert. -/
def decodeAlertError (header : RecordHeader) (payload : Bytes) : Error :=
  match payload with
  | level :: description :: _ =>
    .crypto ("DTLS alert epoch=" ++ toString header.epoch.toNat ++ " seq="
      ++ toString header.sequenceNumber.toNat ++ " level=" ++ toString level.toNat
      ++ " description=" ++ toString description.toNat)
  | _ =>
    .crypto ("DTLS alert epoch=" ++ toString header.epoch.toNat ++ " seq="
      ++ toString header.sequenceNumber.toNat ++ " received")

/-- The error for an authenticated alert; an orderly `close_notify` is `peerClosed`. -/
def decodeAuthenticatedAlert (header : RecordHeader) (payload : Bytes) : Error :=
  match payload with
  | _ :: description :: _ =>
    if description = ALERT_CLOSE_NOTIFY then .peerClosed else decodeAlertError header payload
  | _ => decodeAlertError header payload

namespace SessionState

variable (C : Crypto)

/-- The turns of `open_next_record` over the queued records: the result of the first usable
    one, with the session and the queue that is left. -/
def openFrom : List DtlsRecord → SessionState → Option (Except Error Bytes) × SessionState
  | [], state => (none, { state with unreadRecords := [] })
  | record :: records, state =>
    if record.header.epoch ≠ 1 then openFrom records state
    else
      match record.header.contentType with
      | .applicationData =>
        match openProtectedRecord C record { state with unreadRecords := records } with
        | .ok (some plaintext) state => (some (.ok plaintext), state)
        | .ok none state => openFrom records state
        | .error _ state => openFrom records state
      | .alert =>
        match openProtectedRecord C record { state with unreadRecords := records } with
        | .ok (some plaintext) state =>
          (some (.error (decodeAuthenticatedAlert record.header plaintext)), state)
        | .ok none state => openFrom records state
        | .error _ state => openFrom records state
      | _ => openFrom records state

/-- Opens the next usable queued record, dropping unusable ones. -/
def openNextRecord (state : SessionState) : Option (Except Error Bytes) × SessionState :=
  openFrom C state.unreadRecords state

/-! ## §4. Sealing keeps the released records numbered. -/

variable {C}

/-- **One sealing.**  Success releases exactly one record, under the current counter, key and
    IV, and advances the counter; failure leaves the session as it was. -/
theorem protectRecord_spec (contentType : ContentType) (plaintext : Bytes) (s : SessionState) :
    wp (protectRecord C contentType plaintext) (fun record s' =>
        protectAes128Ccm8Record C contentType 1 s.nextApplicationSequence s.writeKey.1 s.writeKey.2
          plaintext = .ok record ∧
        s' = { s with nextApplicationSequence := s.nextApplicationSequence + 1
                      released := s.released ++ [{ key := s.writeKey.1, fixedIv := s.writeKey.2
                                                   record, plaintext }] })
      (fun _ s' => s' = s) s := by
  simp only [protectRecord, wp_bind, wp_get, wp_modify, wp_pure]
  exact wp_attempt.mpr ⟨fun record hrecord => ⟨hrecord, rfl⟩, fun _ _ => rfl⟩

/-- The released records were sealed under this side's own write key and IV, numbered by the
    counter. -/
abbrev Fresh (s : SessionState) : Prop :=
  SealedUpTo s.writeKey s.nextApplicationSequence s.released

theorem fresh_duringHandshake (keyMaterial : ThreadDtlsKeyMaterial) (role : SessionRole) :
    Fresh (duringHandshake keyMaterial role) :=
  SealedUpTo.nil _

/-- **Sealing keeps the numbering**, whether it succeeds or fails. -/
theorem protectRecord_fresh (contentType : ContentType) (plaintext : Bytes) {s : SessionState}
    (h : Fresh s) :
    wp (protectRecord C contentType plaintext) (fun _ s' => Fresh s') (fun _ s' => Fresh s') s := by
  refine wp_mono (protectRecord_spec contentType plaintext s) ?_ (fun _ s' hs' => hs' ▸ h)
  rintro record _ ⟨hrecord, rfl⟩
  exact h.snoc rfl hrecord

/-! ## §5. Opening leaves the sealing side alone. -/

/-- Keys, role, counter and released records are as before. -/
structure SameSealing (s s' : SessionState) : Prop where
  keyMaterial : s'.keyMaterial = s.keyMaterial
  role : s'.role = s.role
  counter : s'.nextApplicationSequence = s.nextApplicationSequence
  released : s'.released = s.released

theorem SameSealing.refl (s : SessionState) : SameSealing s s := ⟨rfl, rfl, rfl, rfl⟩

theorem SameSealing.trans {s s' s'' : SessionState} (h : SameSealing s s')
    (h' : SameSealing s' s'') : SameSealing s s'' :=
  ⟨h'.keyMaterial.trans h.keyMaterial, h'.role.trans h.role, h'.counter.trans h.counter,
    h'.released.trans h.released⟩

theorem SameSealing.fresh {s s' : SessionState} (h : SameSealing s s') (hs : Fresh s) :
    Fresh s' := by
  have hkey : s'.writeKey = s.writeKey := by unfold writeKey; rw [h.keyMaterial, h.role]
  unfold Fresh
  rw [hkey, h.counter, h.released]
  exact hs

/-- Opening a record: the sealing side stays, and an opened record is logged with the key it
    opened under. -/
theorem openProtectedRecord_spec (record : DtlsRecord) (s : SessionState) :
    wp (openProtectedRecord C record)
      (fun result s' => SameSealing s s' ∧ ∀ plaintext, result = some plaintext →
        s'.opened.getLast? = some { key := s.readKey.1, fixedIv := s.readKey.2
                                    record, plaintext })
      (fun _ s' => s' = s) s := by
  simp only [openProtectedRecord, wp_bind, wp_get]
  split
  · exact ⟨SameSealing.refl s, by simp⟩
  · simp only [wp_bind, wp_modify, wp_pure]
    refine wp_attempt.mpr ⟨fun plaintext _ => ⟨⟨rfl, rfl, rfl, rfl⟩, ?_⟩, fun _ _ => rfl⟩
    rintro _ ⟨rfl⟩
    simp

/-- However a record is opened, the sealing side stays. -/
theorem openProtectedRecord_sameSealing (record : DtlsRecord) (s : SessionState) :
    wp (openProtectedRecord C record) (fun _ s' => SameSealing s s')
      (fun _ s' => SameSealing s s') s :=
  wp_mono (openProtectedRecord_spec record s) (fun _ _ h => h.1)
    (fun _ _ h => h ▸ SameSealing.refl s)

theorem openFrom_sameSealing (records : List DtlsRecord) (s : SessionState) :
    SameSealing s (openFrom C records s).2 := by
  induction records generalizing s with
  | nil => exact ⟨rfl, rfl, rfl, rfl⟩
  | cons record records ih =>
    -- popping the record changes the queue only, and opening it keeps the sealing side
    have hstep := openProtectedRecord_sameSealing (C := C) record { s with unreadRecords := records }
    have hpop : SameSealing s { s with unreadRecords := records } := ⟨rfl, rfl, rfl, rfl⟩
    unfold wp at hstep
    unfold openFrom
    split
    · exact ih s
    split
    · split at hstep <;> rename_i result _ hopen <;> rw [hopen]
      · cases result with
        | none => exact (hpop.trans hstep).trans (ih _)
        | some plaintext => exact hpop.trans hstep
      · exact (hpop.trans hstep).trans (ih _)
    · split at hstep <;> rename_i result _ hopen <;> rw [hopen]
      · cases result with
        | none => exact (hpop.trans hstep).trans (ih _)
        | some plaintext => exact hpop.trans hstep
      · exact (hpop.trans hstep).trans (ih _)
    · exact ih s

theorem openNextRecord_sameSealing (s : SessionState) : SameSealing s (openNextRecord C s).2 :=
  openFrom_sameSealing s.unreadRecords s

theorem receiveDatagram_sameSealing (records : List DtlsRecord) (s : SessionState) :
    SameSealing s (s.receiveDatagram records) := ⟨rfl, rfl, rfl, rfl⟩

end SessionState

end Meshcop.Dtls
