/-
  Meshcop.Dtls.Delivery — what an established session yields for the records it is handed
  (`meshcop-dtls/src/driver.rs`).

  `SessionState` queues whole datagrams and opens them one result at a time.  Seen from
  outside only the order of the records matters: `drain` computes from the read key, the
  anti-replay window and the records in arrival order what will ever be opened, and every
  interleaving of receiving, reading and sealing yields an initial part of it.

  Main results:
    * `openFrom_cases`, `perform_yields`, `performAll_yields` — one read, one operation and a
      whole run take their results off the front of `drain`;
    * `drain_filter_authentic` — records that do not authenticate leave no trace in it;
    * `nodup_drain`            — no sequence number occurs in it twice;
    * `established_session_undisturbed` — both, for runs of a session.
-/

import Meshcop.Dtls.Replay
import Meshcop.Dtls.Session

namespace Meshcop.Dtls

open Lib

/-! ## §1. From records to results. -/

/-- What the owner of a session is handed for an opened record: application data as it is,
    an alert as the error it stands for. -/
def Protected.result (entry : Protected) : Except Error Bytes :=
  if entry.record.header.contentType = .alert then
    .error (decodeAuthenticatedAlert entry.record.header entry.plaintext)
  else .ok entry.plaintext

/-- The records the receive loop looks into: epoch 1, application data or alert. -/
def DtlsRecord.readable (record : DtlsRecord) : Bool :=
  record.header.epoch = 1 &&
    (record.header.contentType = .applicationData || record.header.contentType = .alert)

section Drain

variable (C : Crypto) (readKey : Bytes × Bytes)

/-- A readable record that authenticates under the peer's key, with its plaintext. -/
def opens (record : DtlsRecord) : Option Protected :=
  if record.readable then
    match openAes128Ccm8Record C record readKey.1 readKey.2 with
    | .ok plaintext => some { key := readKey.1, fixedIv := readKey.2, record, plaintext }
    | .error _ => none
  else none

/-- The records an authentication under the peer's key tells from all others. -/
def authentic (record : DtlsRecord) : Bool :=
  (opens C readKey record).isSome

/-- A record that opens and whose number the window has not seen. -/
def admits (window : ReplayWindow) (record : DtlsRecord) : Option Protected :=
  if window.hasSeen record.header.sequenceNumber then none else opens C readKey record

/-- What is opened from a sequence of records, in order. -/
def drain : ReplayWindow → List DtlsRecord → List Protected
  | _, [] => []
  | window, record :: records =>
    match admits C readKey window record with
    | none => drain window records
    | some entry => entry :: drain (window.markSeen record.header.sequenceNumber) records

variable {C readKey}

theorem opens_eq_some {record : DtlsRecord} {entry : Protected}
    (h : opens C readKey record = some entry) : entry.record = record ∧ record.readable = true ∧
      openAes128Ccm8Record C record readKey.1 readKey.2 = .ok entry.plaintext := by
  unfold opens at h
  split at h
  · rename_i hreadable
    split at h
    · rename_i plaintext hopen
      rw [← Option.some.inj h]
      exact ⟨rfl, hreadable, hopen⟩
    · cases h
  · cases h

theorem admits_eq_some {window : ReplayWindow} {record : DtlsRecord} {entry : Protected}
    (h : admits C readKey window record = some entry) :
    window.hasSeen record.header.sequenceNumber = false ∧ opens C readKey record = some entry := by
  unfold admits at h
  split at h
  · cases h
  · rename_i hseen
    exact ⟨Bool.not_eq_true _ ▸ hseen, h⟩

/-- Only readable records are admitted. -/
theorem admits_of_not_readable {record : DtlsRecord} (h : record.readable = false)
    (window : ReplayWindow) : admits C readKey window record = none := by
  unfold admits opens
  rw [h, if_neg Bool.false_ne_true, ite_self]

theorem drain_cons_of_none {window : ReplayWindow} {record : DtlsRecord}
    (h : admits C readKey window record = none) (records : List DtlsRecord) :
    drain C readKey window (record :: records) = drain C readKey window records := by
  rw [drain, h]

theorem drain_cons_of_some {window : ReplayWindow} {record : DtlsRecord} {entry : Protected}
    (h : admits C readKey window record = some entry) (records : List DtlsRecord) :
    drain C readKey window (record :: records)
      = entry :: drain C readKey (window.markSeen record.header.sequenceNumber) records := by
  rw [drain, h]

/-- **Records that do not open leave no trace.** -/
theorem drain_filter_authentic (window : ReplayWindow) (records : List DtlsRecord) :
    drain C readKey window (records.filter (authentic C readKey))
      = drain C readKey window records := by
  induction records generalizing window with
  | nil => rfl
  | cons record records ih =>
    by_cases hopens : authentic C readKey record = true
    · rw [List.filter_cons_of_pos hopens]
      cases hadmits : admits C readKey window record with
      | none => rw [drain_cons_of_none hadmits, drain_cons_of_none hadmits, ih]
      | some entry => rw [drain_cons_of_some hadmits, drain_cons_of_some hadmits, ih]
    rw [List.filter_cons_of_neg hopens, ih]
    have hnone : opens C readKey record = none := Option.not_isSome_iff_eq_none.mp hopens
    have hadmits : admits C readKey window record = none := by
      unfold admits
      rw [hnone, ite_self]
    rw [drain_cons_of_none hadmits]

/-- An opened record was handed in and opens. -/
theorem opens_of_mem_drain {window : ReplayWindow} {records : List DtlsRecord}
    {entry : Protected} (h : entry ∈ drain C readKey window records) :
    entry.record ∈ records ∧ opens C readKey entry.record = some entry := by
  induction records generalizing window with
  | nil => cases h
  | cons record records ih =>
    cases hadmits : admits C readKey window record with
    | none =>
      rw [drain_cons_of_none hadmits] at h
      obtain ⟨hmem, hopens⟩ := ih h
      exact ⟨List.mem_cons_of_mem _ hmem, hopens⟩
    | some first =>
      rw [drain_cons_of_some hadmits, List.mem_cons] at h
      cases h with
      | inl hfirst =>
        obtain ⟨-, hopens⟩ := admits_eq_some hadmits
        rw [hfirst, (opens_eq_some hopens).1]
        exact ⟨List.mem_cons_self, hopens⟩
      | inr hlater =>
        obtain ⟨hmem, hopens⟩ := ih hlater
        exact ⟨List.mem_cons_of_mem _ hmem, hopens⟩

/-- Nothing the window has seen is opened. -/
theorem not_hasSeen_of_mem_drain {window : ReplayWindow} {records : List DtlsRecord}
    {entry : Protected} (h : entry ∈ drain C readKey window records) :
    window.hasSeen entry.record.header.sequenceNumber = false := by
  induction records generalizing window with
  | nil => cases h
  | cons record records ih =>
    cases hadmits : admits C readKey window record with
    | none =>
      rw [drain_cons_of_none hadmits] at h
      exact ih h
    | some first =>
      obtain ⟨hseen, hopens⟩ := admits_eq_some hadmits
      rw [drain_cons_of_some hadmits, List.mem_cons] at h
      cases h with
      | inl hfirst =>
        rw [hfirst, (opens_eq_some hopens).1]
        exact hseen
      | inr hlater =>
        -- a number seen now would still be seen after the mark
        have hunseen := ih hlater
        cases hnow : window.hasSeen entry.record.header.sequenceNumber with
        | false => rfl
        | true =>
          rw [ReplayWindow.hasSeen_markSeen_of_hasSeen hnow] at hunseen
          cases hunseen

/-- **No sequence number is opened twice.** -/
theorem nodup_drain (window : ReplayWindow) (records : List DtlsRecord) :
    ((drain C readKey window records).map Protected.sequence).Nodup := by
  induction records generalizing window with
  | nil => exact List.nodup_nil
  | cons record records ih =>
    cases hadmits : admits C readKey window record with
    | none =>
      rw [drain_cons_of_none hadmits]
      exact ih window
    | some first =>
      rw [drain_cons_of_some hadmits, List.map_cons, List.nodup_cons]
      refine ⟨?_, ih _⟩
      intro hmem
      obtain ⟨later, hlater, hsame⟩ := List.mem_map.mp hmem
      have hfirst := (opens_eq_some (admits_eq_some hadmits).2).1
      -- the first record's number is marked, so a later one with it is not opened
      have hunseen := not_hasSeen_of_mem_drain hlater
      have hnumber : later.record.header.sequenceNumber = record.header.sequenceNumber := by
        apply UInt64.toNat_inj.mp
        rw [← hfirst]
        exact hsame
      rw [hnumber, ReplayWindow.hasSeen_markSeen_self] at hunseen
      cases hunseen

end Drain

/-! ## §2. One read. -/

namespace SessionState

variable {C : Crypto}

/-- The session after opening a record: the number is marked, the entry logged. -/
def accept (s : SessionState) (entry : Protected) : SessionState :=
  { s with applicationReplay := s.applicationReplay.markSeen entry.record.header.sequenceNumber
           opened := s.opened ++ [entry] }

/-- Opening one record, as a case distinction. -/
theorem openProtectedRecord_eq (record : DtlsRecord) (s : SessionState) :
    openProtectedRecord C record s =
      if s.applicationReplay.hasSeen record.header.sequenceNumber then .ok none s
      else
        match openAes128Ccm8Record C record s.readKey.1 s.readKey.2 with
        | .ok plaintext =>
          .ok (some plaintext)
            (s.accept { key := s.readKey.1, fixedIv := s.readKey.2, record, plaintext })
        | .error e => .error e s := by
  rw [openProtectedRecord, get_bind]
  dsimp only
  by_cases hseen : s.applicationReplay.hasSeen record.header.sequenceNumber = true
  · rw [if_pos hseen, if_pos hseen]
    rfl
  · rw [if_neg hseen, if_neg hseen]
    cases hopen : openAes128Ccm8Record C record s.readKey.1 s.readKey.2 with
    | ok plaintext => rfl
    | error e => rfl

/-- Opening a readable record either admits it, or leaves the session as it is. -/
theorem openProtectedRecord_cases {record : DtlsRecord} (hreadable : record.readable = true)
    (s : SessionState) : (∃ entry, admits C s.readKey s.applicationReplay record = some entry ∧
      entry.record = record ∧
      openProtectedRecord C record s = .ok (some entry.plaintext) (s.accept entry)) ∨
    (admits C s.readKey s.applicationReplay record = none ∧
      (openProtectedRecord C record s = .ok none s ∨
        ∃ e, openProtectedRecord C record s = .error e s)) := by
  rw [openProtectedRecord_eq]
  unfold admits opens
  rw [hreadable, if_pos rfl]
  by_cases hseen : s.applicationReplay.hasSeen record.header.sequenceNumber = true
  · rw [if_pos hseen, if_pos hseen]
    exact Or.inr ⟨rfl, Or.inl rfl⟩
  · rw [if_neg hseen, if_neg hseen]
    cases openAes128Ccm8Record C record s.readKey.1 s.readKey.2 with
    | ok plaintext => exact Or.inl ⟨_, rfl, rfl, rfl⟩
    | error e => exact Or.inr ⟨rfl, Or.inr ⟨e, rfl⟩⟩

/-- The loop overwrites the queue, so what it held does not matter. -/
theorem openFrom_unreadRecords (records queue : List DtlsRecord) (s : SessionState) :
    openFrom C records { s with unreadRecords := queue } = openFrom C records s := by
  induction records with
  | nil => rfl
  | cons record records ih =>
    rw [openFrom, openFrom]
    by_cases hepoch : record.header.epoch ≠ 1
    · rw [if_pos hepoch, if_pos hepoch, ih]
    rw [if_neg hepoch, if_neg hepoch]
    cases record.header.contentType with
    | applicationData => rfl
    | alert => rfl
    | changeCipherSpec => exact ih
    | handshake => exact ih

/-- **One turn of the read loop.** -/
theorem openFrom_cons (record : DtlsRecord) (records : List DtlsRecord) (s : SessionState) :
    openFrom C (record :: records) s =
      match admits C s.readKey s.applicationReplay record with
      | none => openFrom C records s
      | some entry => (some entry.result, { s.accept entry with unreadRecords := records }) := by
  rw [openFrom]
  by_cases hepoch : record.header.epoch ≠ 1
  · have hskip : record.readable = false := by simp [DtlsRecord.readable, hepoch]
    rw [if_pos hepoch, admits_of_not_readable hskip]
  rw [if_neg hepoch]
  have hepoch : record.header.epoch = 1 := Decidable.not_not.mp hepoch
  have hskipped := openFrom_unreadRecords (C := C) records records s
  have hcases := fun hreadable =>
    @openProtectedRecord_cases C record hreadable { s with unreadRecords := records }
  cases htype : record.header.contentType with
  | applicationData =>
    have hreadable : record.readable = true := by simp [DtlsRecord.readable, hepoch, htype]
    rcases hcases hreadable with ⟨entry, hadmits, hrecord, hopen⟩ | ⟨hadmits, hopen | ⟨e, hopen⟩⟩
    · have hresult : entry.result = .ok entry.plaintext := by
        simp [Protected.result, hrecord, htype]
      rw [hopen, show admits C s.readKey s.applicationReplay record = _ from hadmits]
      simp only [hresult]
      rfl
    · rw [hopen, show admits C s.readKey s.applicationReplay record = _ from hadmits]
      exact hskipped
    · rw [hopen, show admits C s.readKey s.applicationReplay record = _ from hadmits]
      exact hskipped
  | alert =>
    have hreadable : record.readable = true := by simp [DtlsRecord.readable, hepoch, htype]
    rcases hcases hreadable with ⟨entry, hadmits, hrecord, hopen⟩ | ⟨hadmits, hopen | ⟨e, hopen⟩⟩
    · have hresult : entry.result
          = .error (decodeAuthenticatedAlert record.header entry.plaintext) := by
        simp [Protected.result, hrecord, htype]
      rw [hopen, show admits C s.readKey s.applicationReplay record = _ from hadmits]
      simp only [hresult]
      rfl
    · rw [hopen, show admits C s.readKey s.applicationReplay record = _ from hadmits]
      exact hskipped
    · rw [hopen, show admits C s.readKey s.applicationReplay record = _ from hadmits]
      exact hskipped
  | changeCipherSpec =>
    have hskip : record.readable = false := by simp [DtlsRecord.readable, htype]
    rw [admits_of_not_readable hskip]
  | handshake =>
    have hskip : record.readable = false := by simp [DtlsRecord.readable, htype]
    rw [admits_of_not_readable hskip]

/-! ## §3. Runs of a session. -/

/-- `s'` follows `s` after `received` was queued and `entries` were opened: the entries are
    logged and marked, keys and role stand, and what is still to come, with anything that
    arrives later, is what was to come without the entries. -/
structure Yields (C : Crypto) (s : SessionState) (received : List DtlsRecord)
    (entries : List Protected) (s' : SessionState) : Prop where
  opened : s'.opened = s.opened ++ entries
  window : s'.applicationReplay
    = (entries.map fun entry => entry.record.header.sequenceNumber).foldl ReplayWindow.markSeen
        s.applicationReplay
  keyMaterial : s'.keyMaterial = s.keyMaterial
  role : s'.role = s.role
  drained : ∀ later, drain C s.readKey s.applicationReplay (s.unreadRecords ++ received ++ later)
    = entries ++ drain C s.readKey s'.applicationReplay (s'.unreadRecords ++ later)

theorem Yields.refl (s : SessionState) : Yields C s [] [] s :=
  { opened := (List.append_nil _).symm, window := rfl, keyMaterial := rfl, role := rfl
    drained := fun later => by rw [List.append_nil, List.nil_append] }

theorem Yields.readKey {s s' : SessionState} {received : List DtlsRecord}
    {entries : List Protected} (h : Yields C s received entries s') : s'.readKey = s.readKey := by
  unfold SessionState.readKey
  rw [h.keyMaterial, h.role]

theorem Yields.trans {s s' s'' : SessionState} {received received' : List DtlsRecord}
    {entries entries' : List Protected} (h : Yields C s received entries s')
    (h' : Yields C s' received' entries' s'') :
    Yields C s (received ++ received') (entries ++ entries') s'' := by
  refine { opened := ?_, window := ?_, keyMaterial := h'.keyMaterial.trans h.keyMaterial
           role := h'.role.trans h.role, drained := ?_ }
  · rw [h'.opened, h.opened, List.append_assoc]
  · rw [h'.window, h.window, List.map_append, List.foldl_append]
  · intro later
    have hrest := h'.drained later
    rw [h.readKey] at hrest
    have hfirst := h.drained (received' ++ later)
    rw [← List.append_assoc s'.unreadRecords, hrest] at hfirst
    rw [← List.append_assoc s.unreadRecords, List.append_assoc _ received' later, hfirst,
      List.append_assoc]

/-- **A read** takes the first entry off what is to come, if there is one. -/
theorem openFrom_yields (records : List DtlsRecord) (s : SessionState) : ∃ entries : List Protected,
      (openFrom C records s).1.toList = entries.map Protected.result ∧
      Yields C { s with unreadRecords := records } [] entries (openFrom C records s).2 := by
  induction records with
  | nil => exact ⟨[], rfl, Yields.refl _⟩
  | cons record records ih =>
    rw [openFrom_cons]
    cases hadmits : admits C s.readKey s.applicationReplay record with
    | none =>
      obtain ⟨entries, hresult, hyields⟩ := ih
      refine ⟨entries, hresult, { opened := hyields.opened, window := hyields.window
                                  keyMaterial := hyields.keyMaterial, role := hyields.role
                                  drained := ?_ }⟩
      intro later
      show drain C s.readKey s.applicationReplay (record :: (records ++ [] ++ later)) = _
      rw [drain_cons_of_none hadmits]
      exact hyields.drained later
    | some entry =>
      have hrecord := (opens_eq_some (admits_eq_some hadmits).2).1
      refine ⟨[entry], rfl, { opened := rfl, window := rfl, keyMaterial := rfl, role := rfl, drained := ?_ }⟩
      intro later
      show drain C s.readKey s.applicationReplay (record :: (records ++ [] ++ later))
        = entry :: drain C s.readKey (s.applicationReplay.markSeen _) (records ++ later)
      rw [drain_cons_of_some hadmits, List.append_nil, hrecord]

/-- What the owner of a session can do with it. -/
inductive Op where
  /-- Queue the records of one datagram. -/
  | receive (records : List DtlsRecord)
  /-- Ask for the next result. -/
  | read
  /-- Seal a record for the peer. -/
  | protect (contentType : ContentType) (plaintext : Bytes)

/-- The records an operation hands to the session. -/
def Op.received : Op → List DtlsRecord
  | .receive records => records
  | .read => []
  | .protect _ _ => []

variable (C)

/-- One operation: the result it yields, if any, and the session after it. -/
def perform (op : Op) (s : SessionState) : List (Except Error Bytes) × SessionState :=
  match op with
  | .receive records => ([], s.receiveDatagram records)
  | .read =>
    let (result, s') := s.openNextRecord C
    (result.toList, s')
  | .protect contentType plaintext =>
    match protectRecord C contentType plaintext s with
    | .ok _ s' => ([], s')
    | .error _ s' => ([], s')

/-- Any sequence of operations: all results in order, and the session at the end. -/
def performAll : List Op → SessionState → List (Except Error Bytes) × SessionState
  | [], s => ([], s)
  | op :: ops, s =>
    let (results, s') := s.perform C op
    let (later, s'') := performAll ops s'
    (results ++ later, s'')

variable {C}

/-- **One operation** takes its result off what is to come. -/
theorem perform_yields (op : Op) (s : SessionState) : ∃ entries : List Protected,
      (s.perform C op).1 = entries.map Protected.result ∧
      Yields C s op.received entries (s.perform C op).2 := by
  cases op with
  | receive records =>
    refine ⟨[], rfl, { opened := (List.append_nil _).symm, window := rfl, keyMaterial := rfl, role := rfl
                       drained := ?_ }⟩
    intro later
    rfl
  | read => exact openFrom_yields s.unreadRecords s
  | protect contentType plaintext =>
    -- sealing touches neither the window nor the queue
    have hspec := protectRecord_spec (C := C) contentType plaintext s
    unfold wp at hspec
    refine ⟨[], ?_, ?_⟩
    · unfold perform
      dsimp only
      split <;> rfl
    · unfold perform
      dsimp only
      split
      · rename_i record s' hresult
        rw [hresult] at hspec
        rw [hspec.2]
        exact { opened := (List.append_nil _).symm, window := rfl, keyMaterial := rfl, role := rfl
                drained := (Yields.refl s).drained }
      · rename_i e s' hresult
        rw [hresult] at hspec
        rw [hspec]
        exact Yields.refl s

/-- **A run** yields the front of what its records determine. -/
theorem performAll_yields (ops : List Op) (s : SessionState) : ∃ entries : List Protected,
      (s.performAll C ops).1 = entries.map Protected.result ∧
      Yields C s (ops.flatMap Op.received) entries (s.performAll C ops).2 := by
  induction ops generalizing s with
  | nil => exact ⟨[], rfl, Yields.refl s⟩
  | cons op ops ih =>
    obtain ⟨entries, hresults, hyields⟩ := perform_yields (C := C) op s
    obtain ⟨later, hlater, hyields'⟩ := ih (s.perform C op).2
    refine ⟨entries ++ later, ?_, ?_⟩
    · show (s.perform C op).1 ++ ((s.perform C op).2.performAll C ops).1 = _
      rw [hresults, hlater, List.map_append]
    · rw [List.flatMap_cons]
      exact hyields.trans hyields'

/-! ## §4. Unauthenticated records do not disturb a session. -/

/-- Two runs that receive the same authentic records have the same results to come. -/
theorem drain_eq_of_filter_eq {readKey : Bytes × Bytes} {received received' : List DtlsRecord}
    (h : received.filter (authentic C readKey) = received'.filter (authentic C readKey))
    (window : ReplayWindow) (queue : List DtlsRecord) :
    drain C readKey window (queue ++ received) = drain C readKey window (queue ++ received') := by
  rw [← drain_filter_authentic window (queue ++ received),
    ← drain_filter_authentic window (queue ++ received'), List.filter_append, List.filter_append, h]

/-- **An established session is not disturbed by what does not authenticate.**  For every
    session: whatever is received, read and sealed, each result belongs to a received epoch-1
    record that opened under the peer's key, and no sequence number yields two; and two runs
    whose received records differ only by records that are not epoch 1, not application data
    or alert, or do not open, yield the same results, however the records were grouped: one
    run's results continue the other's, and once both have read everything they are equal. -/
theorem established_session_undisturbed (s : SessionState) :
    (∀ ops, ∃ entries : List Protected,
      (s.performAll C ops).1 = entries.map Protected.result ∧
      (∀ entry ∈ entries, entry.record ∈ s.unreadRecords ++ ops.flatMap Op.received ∧
        entry.record.header.epoch = 1 ∧
        openAes128Ccm8Record C entry.record s.readKey.1 s.readKey.2 = .ok entry.plaintext) ∧
      (entries.map Protected.sequence).Nodup) ∧
    (∀ ops ops' : List Op,
      (ops.flatMap Op.received).filter (authentic C s.readKey)
        = (ops'.flatMap Op.received).filter (authentic C s.readKey) →
      ((s.performAll C ops).1 <+: (s.performAll C ops').1 ∨
        (s.performAll C ops').1 <+: (s.performAll C ops).1) ∧
      ((s.performAll C ops).2.unreadRecords = [] → (s.performAll C ops').2.unreadRecords = [] →
        (s.performAll C ops).1 = (s.performAll C ops').1)) := by
  constructor
  · intro ops
    obtain ⟨entries, hresults, hyields⟩ := performAll_yields (C := C) ops s
    have hdrained := hyields.drained []
    rw [List.append_nil] at hdrained
    refine ⟨entries, hresults, ?_, ?_⟩
    · intro entry hentry
      obtain ⟨hmem, hopens⟩ := opens_of_mem_drain (hdrained ▸ List.mem_append_left _ hentry)
      obtain ⟨-, hreadable, hopen⟩ := opens_eq_some hopens
      simp only [DtlsRecord.readable, Bool.and_eq_true, decide_eq_true_iff] at hreadable
      exact ⟨hmem, hreadable.1, hopen⟩
    · have hnodup : ((drain C s.readKey s.applicationReplay
          (s.unreadRecords ++ ops.flatMap Op.received)).map Protected.sequence).Nodup :=
        nodup_drain _ _
      rw [hdrained, List.map_append] at hnodup
      exact hnodup.of_append_left
  · intro ops ops' hsame
    obtain ⟨entries, hresults, hyields⟩ := performAll_yields (C := C) ops s
    obtain ⟨entries', hresults', hyields'⟩ := performAll_yields (C := C) ops' s
    have hdrained := hyields.drained []
    have hdrained' := hyields'.drained []
    rw [List.append_nil, List.append_nil] at hdrained hdrained'
    rw [drain_eq_of_filter_eq hsame, hdrained'] at hdrained
    rw [hresults, hresults']
    constructor
    · -- both runs' entries start the same list
      have hfront : entries <+: entries' ++ drain C s.readKey
          (s.performAll C ops').2.applicationReplay (s.performAll C ops').2.unreadRecords :=
        ⟨_, hdrained.symm⟩
      cases List.prefix_or_prefix_of_prefix hfront (List.prefix_append entries' _) with
      | inl h => exact Or.inl (h.map _)
      | inr h => exact Or.inr (h.map _)
    · intro hread hread'
      rw [hread, hread'] at hdrained
      simp only [drain, List.append_nil] at hdrained
      rw [hdrained]

/-- A forged handshake record and an epoch-0 copy around a genuine record change nothing. -/
theorem established_session_undisturbed_forged :
    let keyMaterial : ThreadDtlsKeyMaterial :=
      { masterSecret := [], keyBlock := ⟨[1], [2], [3, 3, 3, 3], [4, 4, 4, 4]⟩ }
    let s := SessionState.duringHandshake keyMaterial .server
    let genuine : DtlsRecord :=
      { header := { contentType := .applicationData, version := DTLS_1_2_VERSION, epoch := 1
                    sequenceNumber := 0, length := 17 }
        payload := List.replicate 17 9 }
    let forged : DtlsRecord :=
      { genuine with header := { genuine.header with contentType := .handshake } }
    let stale : DtlsRecord := { genuine with header := { genuine.header with epoch := 0 } }
    (s.performAll .transparent [.receive [genuine], .read]).1 = (s.performAll .transparent
            [.receive [forged, stale], .read, .receive [genuine, stale], .read, .read]).1 ∧
      (s.performAll .transparent [.receive [genuine], .read]).1 = [.ok [9]] :=
  ⟨((established_session_undisturbed _).2 _ _ (by decide)).2 (by decide) (by decide), by decide⟩

end SessionState

end Meshcop.Dtls
