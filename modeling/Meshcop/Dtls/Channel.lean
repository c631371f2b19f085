/-
  Meshcop.Dtls.Channel — one direction of an established session as a channel
  (`meshcop-dtls/src/{driver,record,record_protection,replay}.rs`).

  A sender seals plaintexts into records; the network drops, repeats and reorders their
  encodings and packs them into datagrams as it likes; a receiver with the same keys parses,
  opens and reads.  `Paired` is what ties the two sessions together, and it holds again
  whenever the receiver has read all it was handed.

  Main results:
    * `protectAll_sent`  — what a sequence of sealings releases;
    * `mem_drain`        — a record that is unseen and within reach of the window is opened;
    * `record_channel_delivers_once` — results are sent plaintexts, no record twice, and a
      record within reach exactly once.
-/

import Meshcop.Dtls.Delivery

namespace Meshcop.Dtls

open Lib

/-! ## §1. Two sessions of one handshake. -/

namespace SessionState

/-- The two ends of one direction: the same keys in opposite roles, nothing left to read, and
    nothing seen that the sender has yet to number. -/
structure Paired (sender receiver : SessionState) : Prop where
  keyMaterial : receiver.keyMaterial = sender.keyMaterial
  role : receiver.role ≠ sender.role
  keyBlock : sender.keyMaterial.keyBlock.Sized
  unread : receiver.unreadRecords = []
  window : ∀ n, receiver.applicationReplay.IsSeen n → n < sender.nextApplicationSequence.toNat

/-- Sessions of one handshake start out paired. -/
theorem paired_withNextApplicationSequence {keyMaterial : ThreadDtlsKeyMaterial}
    (hkeys : keyMaterial.keyBlock.Sized) {role role' : SessionRole} (hrole : role' ≠ role)
    (next next' : UInt64) : Paired (withNextApplicationSequence keyMaterial role next)
      (withNextApplicationSequence keyMaterial role' next') :=
  { keyMaterial := rfl, role := hrole, keyBlock := hkeys, unread := rfl
    window := fun n hseen => absurd hseen (ReplayWindow.not_isSeen_new n) }

/-- The receiver reads under the sender's write key. -/
theorem Paired.readKey {sender receiver : SessionState} (h : Paired sender receiver) :
    receiver.readKey = sender.writeKey := by
  have hrole := h.role
  unfold SessionState.readKey SessionState.writeKey
  rw [h.keyMaterial]
  cases hs : sender.role <;> cases hr : receiver.role <;> simp_all

theorem length_writeKey {s : SessionState} (h : s.keyMaterial.keyBlock.Sized) :
    s.writeKey.1.length = 16 ∧ s.writeKey.2.length = TLS_CCM_FIXED_IV_LEN := by
  unfold writeKey
  cases s.role with
  | client => exact ⟨h.clientWriteKey, h.clientWriteIv⟩
  | server => exact ⟨h.serverWriteKey, h.serverWriteIv⟩

/-! ## §2. The sender. -/

variable (C : Crypto)

/-- Seals plaintexts one after the other: the records released, each with its plaintext.  A
    plaintext that is refused is passed over. -/
def protectAll : List Bytes → SessionState → List (DtlsRecord × Bytes) × SessionState
  | [], s => ([], s)
  | plaintext :: plaintexts, s =>
    match protectApplicationData C plaintext s with
    | .ok record s' =>
      let (sent, s'') := protectAll plaintexts s'
      ((record, plaintext) :: sent, s'')
    | .error _ s' => protectAll plaintexts s'

/-- `sent` is what a session releases from `s` to `s'`. -/
structure Sent (s : SessionState) (sent : List (DtlsRecord × Bytes)) (s' : SessionState) :
    Prop where
  keyMaterial : s'.keyMaterial = s.keyMaterial
  role : s'.role = s.role
  counter : s.nextApplicationSequence.toNat ≤ s'.nextApplicationSequence.toNat
  /-- The records are numbered between the two counters. -/
  numbers : ∀ y ∈ sent, s.nextApplicationSequence.toNat ≤ y.1.header.sequenceNumber.toNat ∧
    y.1.header.sequenceNumber.toNat < s'.nextApplicationSequence.toNat
  increasing : sent.Pairwise fun y z =>
    y.1.header.sequenceNumber.toNat < z.1.header.sequenceNumber.toNat
  isSealed : ∀ y ∈ sent, protectAes128Ccm8Record C .applicationData 1 y.1.header.sequenceNumber
    s.writeKey.1 s.writeKey.2 y.2 = .ok y.1

variable {C}

/-- One sealing: the record carries the counter, which moves on. -/
theorem protectApplicationData_ok {plaintext : Bytes} {s s' : SessionState} {record : DtlsRecord}
    (h : protectApplicationData C plaintext s = .ok record s') :
    protectAes128Ccm8Record C .applicationData 1 record.header.sequenceNumber s.writeKey.1
        s.writeKey.2 plaintext = .ok record ∧
      record.header.sequenceNumber = s.nextApplicationSequence ∧
      s'.nextApplicationSequence.toNat = s.nextApplicationSequence.toNat + 1 ∧
      s'.keyMaterial = s.keyMaterial ∧ s'.role = s.role := by
  have hspec := protectRecord_spec (C := C) .applicationData plaintext s
  unfold wp at hspec
  unfold protectApplicationData at h
  rw [h] at hspec
  obtain ⟨hsealed, rfl⟩ := hspec
  obtain ⟨hlt, -, -, hnumber, -⟩ := protect_eq_ok hsealed
  refine ⟨hnumber ▸ hsealed, hnumber, ?_, rfl, rfl⟩
  show (s.nextApplicationSequence + 1).toNat = _
  rw [UInt64.toNat_add]
  have hone : (1 : UInt64).toNat = 1 := rfl
  omega

/-- A session seals exactly what the record layer seals under its counter. -/
theorem protectApplicationData_isOk_iff (plaintext : Bytes) (s : SessionState) :
    (∃ record s', protectApplicationData C plaintext s = .ok record s') ↔
      ∃ record, protectAes128Ccm8Record C .applicationData 1 s.nextApplicationSequence
        s.writeKey.1 s.writeKey.2 plaintext = .ok record := by
  constructor
  · rintro ⟨record, s', hok⟩
    obtain ⟨hsealed, hnumber, -⟩ := protectApplicationData_ok hok
    exact ⟨record, hnumber ▸ hsealed⟩
  · rintro ⟨record, hsealed⟩
    refine ⟨record, { s with nextApplicationSequence := s.nextApplicationSequence + 1
                             released := s.released ++ [{ key := s.writeKey.1
                                                          fixedIv := s.writeKey.2
                                                          record, plaintext }] }, ?_⟩
    rw [protectApplicationData, protectRecord, get_bind]
    dsimp only
    rw [hsealed]
    rfl

/-- A refused plaintext changes nothing. -/
theorem protectApplicationData_error {plaintext : Bytes} {s s' : SessionState} {e : Error}
    (h : protectApplicationData C plaintext s = .error e s') : s' = s := by
  have hspec := protectRecord_spec (C := C) .applicationData plaintext s
  unfold wp at hspec
  unfold protectApplicationData at h
  rw [h] at hspec
  exact hspec

/-- **What a sequence of sealings releases.** -/
theorem protectAll_sent (plaintexts : List Bytes) (s : SessionState) :
    Sent C s (protectAll C plaintexts s).1 (protectAll C plaintexts s).2 := by
  induction plaintexts generalizing s with
  | nil =>
    exact { keyMaterial := rfl, role := rfl, counter := Nat.le_refl _, numbers := by simp [protectAll]
            increasing := List.Pairwise.nil, isSealed := by simp [protectAll] }
  | cons plaintext plaintexts ih =>
    rw [protectAll]
    cases hresult : protectApplicationData C plaintext s with
    | error e s' =>
      rw [protectApplicationData_error hresult]
      exact ih s
    | ok record s' =>
      obtain ⟨hsealed, hnumber, hnext, hkeys, hrole⟩ := protectApplicationData_ok hresult
      have hrest := ih s'
      have hcounter := hrest.counter
      have hwrite : s'.writeKey = s.writeKey := by unfold writeKey; rw [hkeys, hrole]
      refine { keyMaterial := hrest.keyMaterial.trans hkeys, role := hrest.role.trans hrole
               counter := ?_, numbers := ?_, increasing := ?_, isSealed := ?_ }
      · show _ ≤ (protectAll C plaintexts s').2.nextApplicationSequence.toNat
        omega
      · intro y hy
        show _ ∧ _ < (protectAll C plaintexts s').2.nextApplicationSequence.toNat
        cases List.mem_cons.mp hy with
        | inl hfirst =>
          rw [hfirst]
          show _ ≤ record.header.sequenceNumber.toNat ∧ record.header.sequenceNumber.toNat < _
          rw [hnumber]
          omega
        | inr hlater =>
          have hrange := hrest.numbers y hlater
          omega
      · refine List.pairwise_cons.mpr ⟨?_, hrest.increasing⟩
        intro y hy
        have hrange := hrest.numbers y hy
        show record.header.sequenceNumber.toNat < _
        rw [hnumber]
        omega
      · intro y hy
        cases List.mem_cons.mp hy with
        | inl hfirst =>
          rw [hfirst]
          exact hsealed
        | inr hlater =>
          rw [← hwrite]
          exact hrest.isSealed y hlater

/-- A sent record is determined by its number. -/
theorem Sent.eq_of_number {s s' : SessionState} {sent : List (DtlsRecord × Bytes)}
    (h : Sent C s sent s') {y z : DtlsRecord × Bytes} (hy : y ∈ sent) (hz : z ∈ sent)
    (hnumber : y.1.header.sequenceNumber = z.1.header.sequenceNumber) : y = z := by
  have hnodup : (sent.map fun y => y.1.header.sequenceNumber).Nodup := by
    refine List.pairwise_map.mpr (h.increasing.imp ?_)
    intro y z hlt heq
    rw [heq] at hlt
    exact Nat.lt_irrefl _ hlt
  exact List.inj_on_of_nodup_map hnodup hy hz hnumber

/-- A sent record survives the wire and opens at the other end. -/
theorem Sent.opens {s s' : SessionState} {sent : List (DtlsRecord × Bytes)} (h : Sent C s sent s')
    (hC : C.AeadInverts) (hkeys : s.keyMaterial.keyBlock.Sized) {y : DtlsRecord × Bytes}
    (hy : y ∈ sent) : y.1.Sized ∧ y.1.header.sequenceNumber.toNat < 2 ^ 48 ∧
      y.1.header.contentType = .applicationData ∧ opens C s.writeKey y.1
        = some { key := s.writeKey.1, fixedIv := s.writeKey.2, record := y.1, plaintext := y.2 } := by
  have hsealed := h.isSealed y hy
  obtain ⟨hlt, htype, hepoch, -, hsized⟩ := protect_eq_ok hsealed
  refine ⟨hsized, hlt, htype, ?_⟩
  have hreadable : y.1.readable = true := by simp [DtlsRecord.readable, hepoch, htype]
  unfold Dtls.opens
  rw [if_pos hreadable, open_of_protect hC (length_writeKey hkeys).2 hsealed]

/-! ## §3. The receiver. -/

/-- What happens at the receiver: a datagram with the encodings of some records arrives, or
    the next result is read. -/
inductive Delivery where
  | datagram (records : List DtlsRecord)
  | read

/-- The records a step delivers. -/
def Delivery.records : Delivery → List DtlsRecord
  | .datagram records => records
  | .read => []

/-- The step as the session sees it once the datagram is parsed. -/
def Delivery.op : Delivery → Op
  | .datagram records => .receive records
  | .read => .read

variable (C)

/-- One step at the receiver, from the bytes on the wire.  A datagram that does not parse is
    dropped. -/
def deliver (step : Delivery) (s : SessionState) : List (Except Error Bytes) × SessionState :=
  match step with
  | .datagram records =>
    match DtlsRecord.encodeDatagram records with
    | .error _ => ([], s)
    | .ok bytes =>
      match DtlsRecord.parseDatagram bytes with
      | .error _ => ([], s)
      | .ok records => ([], s.receiveDatagram records)
  | .read =>
    let (result, s') := s.openNextRecord C
    (result.toList, s')

/-- All results of a delivery schedule, in order, and the receiver at its end. -/
def deliverAll : List Delivery → SessionState → List (Except Error Bytes) × SessionState
  | [], s => ([], s)
  | step :: steps, s =>
    let (results, s') := s.deliver C step
    let (later, s'') := deliverAll steps s'
    (results ++ later, s'')

variable {C}

/-- Datagrams of well-formed records come through as they were sent. -/
theorem deliverAll_eq {steps : List Delivery}
    (hsized : ∀ record ∈ steps.flatMap Delivery.records, record.Sized)
    (hnumber : ∀ record ∈ steps.flatMap Delivery.records,
      record.header.sequenceNumber.toNat < 2 ^ 48) (s : SessionState) :
    s.deliverAll C steps = s.performAll C (steps.map Delivery.op) := by
  induction steps generalizing s with
  | nil => rfl
  | cons step steps ih =>
    rw [List.flatMap_cons] at hsized hnumber
    have hrest := ih (fun r hr => hsized r (List.mem_append_right _ hr))
      (fun r hr => hnumber r (List.mem_append_right _ hr))
    have hstep : s.deliver C step = s.perform C step.op := by
      cases step with
      | read => rfl
      | datagram records =>
        have hrecords := fun r hr => hsized r (List.mem_append_left _ hr)
        obtain ⟨bytes, hbytes⟩ := DtlsRecord.encodeDatagram_of_sized records hrecords
        have hparse := DtlsRecord.parseDatagram_encodeDatagram hrecords
          (fun r hr => hnumber r (List.mem_append_left _ hr)) hbytes
        unfold deliver
        simp only [hbytes, hparse]
        rfl
    rw [deliverAll, List.map_cons, performAll, hstep]
    simp only [hrest]

end SessionState

/-! ## §4. What is within reach of the window is opened. -/

section Reach

variable {C : Crypto} {readKey : Bytes × Bytes}

/-- Draining two stretches of records one after the other. -/
theorem drain_append (window : ReplayWindow) (records later : List DtlsRecord) :
    drain C readKey window (records ++ later) = drain C readKey window records ++ drain C readKey
          (((drain C readKey window records).map fun entry =>
            entry.record.header.sequenceNumber).foldl ReplayWindow.markSeen window) later := by
  induction records generalizing window with
  | nil => rfl
  | cons record records ih =>
    rw [List.cons_append]
    cases hadmits : admits C readKey window record with
    | none => rw [drain_cons_of_none hadmits, drain_cons_of_none hadmits, ih]
    | some entry =>
      have hrecord := (opens_eq_some (admits_eq_some hadmits).2).1
      rw [drain_cons_of_some hadmits, drain_cons_of_some hadmits, ih, List.map_cons,
        List.foldl_cons, hrecord]
      rfl

/-- **A record is opened** when it opens, its number is unseen, and nothing opened from the
    records before it has its number or is 64 or more ahead. -/
theorem mem_drain {window : ReplayWindow} {before after : List DtlsRecord} {record : DtlsRecord}
    {entry : Protected} (hopens : opens C readKey record = some entry)
    (hunseen : ¬ window.IsSeen record.header.sequenceNumber.toNat)
    (hreach : ∀ e ∈ drain C readKey window before,
      e.record.header.sequenceNumber ≠ record.header.sequenceNumber ∧
      e.record.header.sequenceNumber.toNat < record.header.sequenceNumber.toNat + 64) :
    entry ∈ drain C readKey window (before ++ record :: after) := by
  rw [drain_append]
  refine List.mem_append_right _ ?_
  have hadmits : ∀ later : ReplayWindow, ¬ later.IsSeen record.header.sequenceNumber.toNat →
      admits C readKey later record = some entry := by
    intro later hlater
    unfold admits
    rw [if_neg (mt (ReplayWindow.hasSeen_iff _ _).mp hlater), hopens]
  rw [drain_cons_of_some (hadmits _ _)]
  · exact List.mem_cons_self
  · rw [ReplayWindow.isSeen_foldl_markSeen]
    intro hseen
    cases hseen with
    | inl hold => exact hunseen hold
    | inr hmarked =>
      obtain ⟨m, hm, hcovers⟩ := hmarked
      obtain ⟨e, he, rfl⟩ := List.mem_map.mp hm
      obtain ⟨hne, hlt⟩ := hreach e he
      cases hcovers with
      | inl heq => exact hne (UInt64.toNat_inj.mp heq.symm)
      | inr hfar => omega

end Reach

/-! ## §5. The channel. -/

namespace SessionState

variable {C : Crypto}

theorem flatMap_received_op (steps : List Delivery) :
    (steps.map Delivery.op).flatMap Op.received = steps.flatMap Delivery.records := by
  induction steps with
  | nil => rfl
  | cons step steps ih =>
    rw [List.map_cons, List.flatMap_cons, List.flatMap_cons, ih]
    cases step <;> rfl

/-- What a receiver opens of a sender's records are those records, with their plaintexts. -/
theorem Sent.eq_of_opens {s s' : SessionState} {sent : List (DtlsRecord × Bytes)}
    (h : Sent C s sent s') (hC : C.AeadInverts) (hkeys : s.keyMaterial.keyBlock.Sized)
    {entry : Protected} (hmem : entry.record ∈ sent.map Prod.fst)
    (hopens : Dtls.opens C s.writeKey entry.record = some entry) :
    (entry.record, entry.plaintext) ∈ sent ∧ entry.result = .ok entry.plaintext := by
  obtain ⟨y, hy, hrecord⟩ := List.mem_map.mp hmem
  obtain ⟨-, -, htype, hopen⟩ := h.opens hC hkeys hy
  rw [← hrecord, hopen] at hopens
  have hentry := Option.some.inj hopens
  rw [← hentry]
  refine ⟨hy, ?_⟩
  simp [Protected.result, htype]

/-- No record is opened twice. -/
theorem nodup_records_of_drain {readKey : Bytes × Bytes} {window : ReplayWindow}
    {records : List DtlsRecord} {entries rest : List Protected}
    (h : drain C readKey window records = entries ++ rest) :
    (entries.map Protected.record).Nodup := by
  have hnumbers : ((drain C readKey window records).map Protected.sequence).Nodup :=
    nodup_drain window records
  rw [h, List.map_append] at hnumbers
  have hsequence : entries.map Protected.sequence
      = (entries.map Protected.record).map (fun r => r.header.sequenceNumber.toNat) := by
    rw [List.map_map]
    rfl
  have hleft := hnumbers.of_append_left
  rw [hsequence] at hleft
  exact hleft.of_map

/-- A sent record is opened where it arrives first, if nothing opened before it is 64 or more
    ahead of it: the sender had not used its number when the window was last looked at. -/
theorem Sent.mem_drain {s s' : SessionState} {sent : List (DtlsRecord × Bytes)}
    (h : Sent C s sent s') (hC : C.AeadInverts) (hkeys : s.keyMaterial.keyBlock.Sized)
    {window : ReplayWindow} (hwindow : ∀ n, window.IsSeen n → n < s.nextApplicationSequence.toNat)
    {before after : List DtlsRecord} {y : DtlsRecord × Bytes} (hy : y ∈ sent)
    (hfirst : y.1 ∉ before)
    (hreach : ∀ e ∈ drain C s.writeKey window before, (e.record, e.plaintext) ∈ sent ∧
      e.record.header.sequenceNumber.toNat < y.1.header.sequenceNumber.toNat + 64) :
    y.1 ∈ (drain C s.writeKey window (before ++ y.1 :: after)).map Protected.record := by
  obtain ⟨-, -, -, hopens⟩ := h.opens hC hkeys hy
  have hunseen : ¬ window.IsSeen y.1.header.sequenceNumber.toNat := by
    intro hseen
    have hlt := hwindow _ hseen
    have hle := (h.numbers y hy).1
    omega
  have hclear : ∀ e ∈ drain C s.writeKey window before,
      e.record.header.sequenceNumber ≠ y.1.header.sequenceNumber ∧
      e.record.header.sequenceNumber.toNat < y.1.header.sequenceNumber.toNat + 64 := by
    intro e he
    obtain ⟨hmem, hlt⟩ := hreach e he
    refine ⟨fun hsame => hfirst ?_, hlt⟩
    rw [← h.eq_of_number hmem hy hsame]
    exact (opens_of_mem_drain he).1
  exact List.mem_map.mpr ⟨_, Dtls.mem_drain hopens hunseen hclear, rfl⟩

/-- What the window has seen after a run lies below the sender's counter. -/
theorem isSeen_lt_of_marked {window : ReplayWindow} {entries : List Protected} {bound : Nat}
    (hold : ∀ n, window.IsSeen n → n < bound)
    (hentries : ∀ e ∈ entries, e.record.header.sequenceNumber.toNat < bound) (n : Nat)
    (hseen : ((entries.map fun entry => entry.record.header.sequenceNumber).foldl
      ReplayWindow.markSeen window).IsSeen n) : n < bound := by
  rw [ReplayWindow.isSeen_foldl_markSeen] at hseen
  cases hseen with
  | inl h => exact hold n h
  | inr h =>
    obtain ⟨m, hm, hcovers⟩ := h
    obtain ⟨e, he, rfl⟩ := List.mem_map.mp hm
    have hlt := hentries e he
    omega

/-- **The protected channel delivers each record once.**  Between paired sessions, over an
    AEAD that inverts: a plaintext is sealed exactly when it has at most 65519 bytes and
    fewer than `2 ^ 48` numbers are used; and for all plaintexts and every schedule of
    datagrams made of the released records, what the receiver yields are plaintexts of sent
    records, no record is yielded twice, and once all is read a record is yielded exactly
    once if nothing yielded from what arrived before it is 64 or more ahead of it.  The two
    sessions are then paired again. -/
theorem record_channel_delivers_once (hC : C.AeadInverts) {sender receiver : SessionState}
    (h : Paired sender receiver) :
    (∀ plaintext, (∃ record sender', protectApplicationData C plaintext sender = .ok record sender')
      ↔ plaintext.length ≤ 65519 ∧ sender.nextApplicationSequence.toNat < 2 ^ 48) ∧
    ∀ (plaintexts : List Bytes) (steps : List Delivery),
      (∀ record ∈ steps.flatMap Delivery.records,
        record ∈ (protectAll C plaintexts sender).1.map Prod.fst) →
      ∃ yielded : List (DtlsRecord × Bytes),
        (deliverAll C steps receiver).1 = yielded.map (fun y => .ok y.2) ∧
        (∀ y ∈ yielded, y ∈ (protectAll C plaintexts sender).1) ∧
        (yielded.map Prod.fst).Nodup ∧
        ((deliverAll C steps receiver).2.unreadRecords = [] →
          (∀ before record after,
            steps.flatMap Delivery.records = before ++ record :: after → record ∉ before →
            (∀ y ∈ yielded, y.1 ∈ before →
              y.1.header.sequenceNumber.toNat < record.header.sequenceNumber.toNat + 64) →
            (yielded.map Prod.fst).count record = 1) ∧
          Paired (protectAll C plaintexts sender).2 (deliverAll C steps receiver).2) := by
  obtain ⟨hkey, hiv⟩ := length_writeKey h.keyBlock
  constructor
  · intro plaintext
    rw [protectApplicationData_isOk_iff]
    exact protect_isOk_iff hC hkey hiv
  · intro plaintexts steps hdelivered
    have hsent := protectAll_sent (C := C) plaintexts sender
    generalize (protectAll C plaintexts sender).1 = sent at hsent hdelivered ⊢
    generalize (protectAll C plaintexts sender).2 = sender' at hsent ⊢
    -- what is delivered survives the wire, so the schedule is a run of the session
    have hwire : ∀ record ∈ steps.flatMap Delivery.records,
        record.Sized ∧ record.header.sequenceNumber.toNat < 2 ^ 48 := by
      intro record hrecord
      obtain ⟨y, hy, rfl⟩ := List.mem_map.mp (hdelivered record hrecord)
      obtain ⟨hsized, hlt, -⟩ := hsent.opens hC h.keyBlock hy
      exact ⟨hsized, hlt⟩
    rw [deliverAll_eq (fun r hr => (hwire r hr).1) (fun r hr => (hwire r hr).2)]
    obtain ⟨entries, hresults, hyields⟩ :=
      performAll_yields (C := C) (steps.map Delivery.op) receiver
    rw [flatMap_received_op] at hyields
    generalize (performAll C (steps.map Delivery.op) receiver).2 = receiver' at hyields ⊢
    have hdrained := hyields.drained []
    rw [List.append_nil, List.append_nil, h.unread, List.nil_append, h.readKey] at hdrained
    have hentry : ∀ e ∈ entries, (e.record, e.plaintext) ∈ sent ∧ e.result = .ok e.plaintext := by
      intro e he
      obtain ⟨hmem, hopens⟩ := opens_of_mem_drain (hdrained ▸ List.mem_append_left _ he)
      exact hsent.eq_of_opens hC h.keyBlock (hdelivered _ hmem) hopens
    have hnodup := nodup_records_of_drain hdrained
    refine ⟨entries.map fun e => (e.record, e.plaintext), ?_, ?_, ?_, ?_⟩
    · rw [hresults, List.map_map]
      exact List.map_congr_left fun e he => (hentry e he).2
    · intro y hy
      obtain ⟨e, he, rfl⟩ := List.mem_map.mp hy
      exact (hentry e he).1
    · rw [List.map_map]
      exact hnodup
    · intro hread
      rw [hread] at hdrained
      simp only [drain, List.append_nil] at hdrained
      refine ⟨?_, ?_⟩
      · intro before record after hsplit hfirst hreach
        rw [List.map_map]
        refine List.count_eq_one_of_mem hnodup ?_
        have hmem : record ∈ steps.flatMap Delivery.records := by
          rw [hsplit]
          exact List.mem_append_right _ List.mem_cons_self
        obtain ⟨y, hy, rfl⟩ := List.mem_map.mp (hdelivered record hmem)
        rw [hsplit] at hdrained
        rw [← hdrained]
        refine hsent.mem_drain hC h.keyBlock h.window hy hfirst fun e he => ?_
        have hyielded : e ∈ entries := by
          rw [← hdrained, drain_append]
          exact List.mem_append_left _ he
        exact ⟨(hentry e hyielded).1,
          hreach _ (List.mem_map_of_mem hyielded) (opens_of_mem_drain he).1⟩
      · refine { keyMaterial := by rw [hyields.keyMaterial, h.keyMaterial, hsent.keyMaterial]
                 role := by rw [hyields.role, hsent.role]; exact h.role
                 keyBlock := by rw [hsent.keyMaterial]; exact h.keyBlock
                 unread := hread
                 window := ?_ }
        rw [hyields.window]
        refine isSeen_lt_of_marked ?_ ?_
        · intro n hseen
          exact Nat.lt_of_lt_of_le (h.window n hseen) hsent.counter
        · intro e he
          exact (hsent.numbers _ (hentry e he).1).2

/-- Two records delivered out of order, the second one twice, are yielded once each. -/
theorem record_channel_delivers_once_reordered :
    let keyMaterial : ThreadDtlsKeyMaterial :=
      { masterSecret := []
        keyBlock := ⟨List.replicate 16 1, List.replicate 16 2, [3, 3, 3, 3], [4, 4, 4, 4]⟩ }
    let sender := SessionState.new keyMaterial .client
    let receiver := SessionState.new keyMaterial .server
    let sent := (protectAll .transparent [[5], [6]] sender).1
    let records := sent.map Prod.fst
    Paired (protectAll .transparent [[5], [6]] sender).2 (deliverAll .transparent
          [.datagram (records.drop 1), .read, .datagram (records ++ records.drop 1), .read, .read]
          receiver).2 ∧
      (deliverAll .transparent
        [.datagram (records.drop 1), .read, .datagram (records ++ records.drop 1), .read, .read]
        receiver).1 = [.ok [6], .ok [5]] := by
  intro keyMaterial sender receiver sent records
  have hpaired : Paired sender receiver :=
    paired_withNextApplicationSequence ⟨by decide, by decide, by decide, by decide⟩ (by decide) 1 1
  obtain ⟨yielded, -, -, -, hread⟩ :=
    (record_channel_delivers_once Crypto.transparent_aeadInverts hpaired).2 [[5], [6]]
      [.datagram (records.drop 1), .read, .datagram (records ++ records.drop 1), .read, .read]
      (by decide +kernel)
  exact ⟨(hread (by decide +kernel)).2, by decide +kernel⟩

/-! ## §6. The counter runs out. -/

/-- While numbers are left, every empty plaintext is sealed and takes one. -/
theorem counter_protectAll_replicate (hC : C.AeadInverts) (n : Nat) (s : SessionState)
    (hkeys : s.keyMaterial.keyBlock.Sized) (hroom : s.nextApplicationSequence.toNat + n ≤ 2 ^ 48) :
    (protectAll C (List.replicate n []) s).2.nextApplicationSequence.toNat
      = s.nextApplicationSequence.toNat + n := by
  induction n generalizing s with
  | zero => rfl
  | succ n ih =>
    obtain ⟨hkey, hiv⟩ := length_writeKey hkeys
    obtain ⟨record, s', hok⟩ := (protectApplicationData_isOk_iff (C := C) [] s).mpr
      ((protect_isOk_iff hC hkey hiv).mpr ⟨by simp, by omega⟩)
    obtain ⟨-, -, hnext, hsame, -⟩ := protectApplicationData_ok hok
    rw [List.replicate_succ, protectAll, hok]
    show (protectAll C (List.replicate n []) s').2.nextApplicationSequence.toNat = _
    rw [ih s' (hsame ▸ hkeys) (by omega), hnext]
    omega

/-- With all numbers used, the session seals nothing more. -/
theorem protectApplicationData_exhausted {s : SessionState} {plaintext : Bytes}
    (hlen : plaintext.length < 65536) (hused : 2 ^ 48 ≤ s.nextApplicationSequence.toNat) :
    protectApplicationData C plaintext s
      = .error (.crypto "DTLS record sequence number exceeds 48 bits") s := by
  have hnonce : dtlsCcmNonce s.writeKey.2 1 s.nextApplicationSequence
      = .error (.crypto "DTLS record sequence number exceeds 48 bits") := by
    unfold dtlsCcmNonce
    have hmax : (0x0000ffffffffffff : UInt64).toNat = 2 ^ 48 - 1 := by decide
    rw [if_pos]
    rw [gt_iff_lt, UInt64.lt_iff_toNat_lt]
    omega
  have hrefused : protectAes128Ccm8Record C .applicationData 1 s.nextApplicationSequence
      s.writeKey.1 s.writeKey.2 plaintext
      = .error (.crypto "DTLS record sequence number exceeds 48 bits") := by
    unfold protectAes128Ccm8Record
    rw [if_pos hlen, hnonce]
    rfl
  rw [protectApplicationData, protectRecord, get_bind]
  dsimp only
  rw [hrefused]
  rfl

/-- **An empty plaintext is refused** by a session that has sealed `2 ^ 48` records. -/
theorem empty_plaintext_refused_when_exhausted :
    let keyMaterial : ThreadDtlsKeyMaterial :=
      { masterSecret := []
        keyBlock := ⟨List.replicate 16 1, List.replicate 16 2, [3, 3, 3, 3], [4, 4, 4, 4]⟩ }
    ∃ s, (protectAll .transparent (List.replicate (2 ^ 48) [])
        (SessionState.duringHandshake keyMaterial .client)).2 = s ∧
      protectApplicationData .transparent [] s
        = .error (.crypto "DTLS record sequence number exceeds 48 bits") s := by
  intro keyMaterial
  have hkeys : keyMaterial.keyBlock.Sized := ⟨by decide, by decide, by decide, by decide⟩
  have hcounter := counter_protectAll_replicate Crypto.transparent_aeadInverts (2 ^ 48)
    (SessionState.duringHandshake keyMaterial .client) hkeys (by decide)
  refine ⟨_, rfl, protectApplicationData_exhausted (by decide) ?_⟩
  rw [hcounter]
  exact Nat.le_add_left _ _

end SessionState

end Meshcop.Dtls
