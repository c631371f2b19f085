/-
  Meshcop.Dtls.Flights — the numbers of plaintext records, as built and on the wire
  (`meshcop-dtls/src/{flight,record}.rs`).

  A driver numbers its epoch-0 records from one 64-bit counter: each built record takes the next
  number, and a repeated flight is renumbered.  The wire carries 48 bits.  What was built is what
  is read, and the numbers go up, exactly as long as the counter stays below `2^48`.

  Main results:
    * `numbers_renumber`, `renumbered_renumber` — a renumbered flight takes the next numbers and
      is otherwise the same;
    * `parses_back_iff` — a datagram parses back to its records exactly if the numbers fit;
    * `survives_iff`    — the same for a log of datagrams under one counter, with the order of the
      numbers on the wire.
-/

import Meshcop.Lib.Numbering
import Meshcop.Dtls.Session

namespace Meshcop.Dtls

open Lib

/-! ## §1. Plaintext records and their numbers. -/

/-- The plaintext records among some. -/
def epochZero (records : List DtlsRecord) : List DtlsRecord :=
  records.filter fun record => record.header.epoch = 0

/-- The numbers of the plaintext records among some. -/
def numbers (records : List DtlsRecord) : List UInt64 :=
  (epochZero records).map fun record => record.header.sequenceNumber

theorem numbers_append (records more : List DtlsRecord) :
    numbers (records ++ more) = numbers records ++ numbers more := by
  unfold numbers epochZero
  rw [List.filter_append, List.map_append]

/-- The same record, or for a plaintext record the same up to its number. -/
structure Renumbered (r r' : DtlsRecord) : Prop where
  payload : r'.payload = r.payload
  contentType : r'.header.contentType = r.header.contentType
  epoch : r'.header.epoch = r.header.epoch
  sized : r.Sized → r'.Sized
  number : r.header.epoch ≠ 0 → r'.header.sequenceNumber = r.header.sequenceNumber

theorem Renumbered.refl (r : DtlsRecord) : Renumbered r r :=
  ⟨rfl, rfl, rfl, fun h => h, fun _ => rfl⟩

/-- Renumbering changes numbers only. -/
theorem renumbered_renumber (records : List DtlsRecord) (next : UInt64) :
    List.Forall₂ Renumbered records (renumberEpochZeroFlight records next).1 := by
  induction records generalizing next with
  | nil => exact .nil
  | cons record records ih =>
    unfold renumberEpochZeroFlight
    split
    · rename_i hepoch
      exact .cons ⟨rfl, rfl, rfl, fun h => h, fun hne => absurd hepoch hne⟩ (ih _)
    · exact .cons (.refl record) (ih _)

/-- The payloads stay. -/
theorem payloads_renumber (records : List DtlsRecord) (next : UInt64) :
    (renumberEpochZeroFlight records next).1.map DtlsRecord.payload
      = records.map DtlsRecord.payload := by
  have hsame := renumbered_renumber records next
  generalize (renumberEpochZeroFlight records next).1 = again at hsame ⊢
  induction hsame with
  | nil => rfl
  | cons hrecord _ ih => rw [List.map_cons, List.map_cons, hrecord.payload, ih]

/-- What does not depend on the number holds of the renumbered records. -/
theorem forall_mem_renumber {P : DtlsRecord → Prop}
    (hP : ∀ r r', Renumbered r r' → P r → P r') {records : List DtlsRecord} {next : UInt64}
    (h : ∀ r ∈ records, P r) : ∀ r ∈ (renumberEpochZeroFlight records next).1, P r := by
  have hsame := renumbered_renumber records next
  generalize (renumberEpochZeroFlight records next).1 = again at hsame ⊢
  induction hsame with
  | nil => exact h
  | cons hrecord _ ih =>
    rw [List.forall_mem_cons] at h ⊢
    exact ⟨hP _ _ hrecord h.1, ih h.2⟩

/-- **A renumbered flight takes the next numbers.** -/
theorem numbers_renumber (records : List DtlsRecord) (next : UInt64) :
    numbers (renumberEpochZeroFlight records next).1 = countUp next (epochZero records).length ∧
      (renumberEpochZeroFlight records next).2
        = next + UInt64.ofNat (epochZero records).length := by
  induction records generalizing next with
  | nil => exact ⟨rfl, (UInt64.add_zero next).symm⟩
  | cons record records ih =>
    unfold renumberEpochZeroFlight
    by_cases hepoch : record.header.epoch = 0
    · have hcount : (epochZero (record :: records)).length = (epochZero records).length + 1 := by
        unfold epochZero
        rw [List.filter_cons_of_pos (by simpa using hepoch), List.length_cons]
      rw [if_pos hepoch, hcount]
      obtain ⟨hnumbers, hnext⟩ := ih (next + 1)
      constructor
      · show numbers ({ record with header := { record.header with sequenceNumber := next } }
          :: (renumberEpochZeroFlight records (next + 1)).1) = _
        unfold numbers epochZero at hnumbers ⊢
        rw [List.filter_cons_of_pos (by simpa using hepoch), List.map_cons, hnumbers]
        rfl
      · show (renumberEpochZeroFlight records (next + 1)).2 = _
        rw [hnext, UInt64.ofNat_add, UInt64.add_assoc, UInt64.add_comm 1]
        rfl
    · have hcount : epochZero (record :: records) = epochZero records := by
        unfold epochZero
        rw [List.filter_cons_of_neg (by simpa using hepoch)]
      rw [if_neg hepoch, hcount]
      obtain ⟨hnumbers, hnext⟩ := ih next
      refine ⟨?_, hnext⟩
      show numbers (record :: (renumberEpochZeroFlight records next).1) = _
      unfold numbers epochZero at hnumbers ⊢
      rw [List.filter_cons_of_neg (by simpa using hepoch), hnumbers]

/-! ## §2. What the wire shows. -/

/-- The plaintext numbers a datagram shows. -/
def wireNumbers (datagram : Bytes) : List UInt64 :=
  match DtlsRecord.parseDatagram datagram with
  | .ok records => numbers records
  | .error _ => []

/-- A datagram and the records it was built from. -/
structure Built where
  records : List DtlsRecord
  datagram : Bytes

/-- The datagram is the records, encoded; a protected record's number fits the wire. -/
structure Built.Encoded (built : Built) : Prop where
  encoded : DtlsRecord.encodeDatagram built.records = .ok built.datagram
  sized : ∀ r ∈ built.records, r.Sized
  protected_lt : ∀ r ∈ built.records, r.header.epoch ≠ 0 →
    r.header.sequenceNumber.toNat < 2 ^ 48

/-- The wire gives back what was built. -/
def Built.ParsesBack (built : Built) : Prop :=
  DtlsRecord.parseDatagram built.datagram = .ok built.records

/-- **A datagram parses back** to its records exactly if the plaintext numbers fit the wire. -/
theorem parses_back_iff {built : Built} (h : built.Encoded) :
    built.ParsesBack ↔ ∀ x ∈ numbers built.records, x.toNat < 2 ^ 48 := by
  constructor
  · intro hparse x hx
    obtain ⟨r, hr, rfl⟩ := List.mem_map.mp hx
    have hmem := (List.mem_filter.mp hr).1
    have hformed := (DtlsRecord.parseDatagram_eq_ok_iff.mp hparse).forall_mem
      (P := DtlsRecord.WellFormed) fun _ _ hwritten => hwritten.1
    exact (hformed r hmem).numbered
  · intro hnumbers
    refine DtlsRecord.parseDatagram_encodeDatagram h.sized ?_ h.encoded
    intro r hr
    by_cases hepoch : r.header.epoch = 0
    · refine hnumbers _ (List.mem_map_of_mem (List.mem_filter.mpr ⟨hr, ?_⟩))
      simpa using hepoch
    · exact h.protected_lt r hr hepoch

/-- A log of datagrams whose plaintext records took `k` numbers from `number` on. -/
structure Logged (number : UInt64) (log : List Built) (k : Nat) : Prop where
  encoded : ∀ built ∈ log, built.Encoded
  numbered : numbers (log.flatMap Built.records) = countUp number k

theorem Logged.nil (number : UInt64) : Logged number [] 0 :=
  ⟨List.forall_mem_nil _, rfl⟩

/-- One more datagram, under the next numbers. -/
theorem Logged.snoc {number : UInt64} {log : List Built} {built : Built} {k j : Nat}
    (h : Logged number log k) (hbuilt : built.Encoded)
    (hnumbers : numbers built.records = countUp (number + UInt64.ofNat k) j) :
    Logged number (log ++ [built]) (k + j) := by
  refine ⟨fun other hmem => ?_, ?_⟩
  · rcases List.mem_append.mp hmem with hmem | hmem
    · exact h.encoded other hmem
    · rw [List.mem_singleton.mp hmem]
      exact hbuilt
  · rw [List.flatMap_append, List.flatMap_singleton, numbers_append, h.numbered, hnumbers,
      countUp_add]

/-- The datagrams sent behind the early ones are those of the log. -/
structure SentLog (early : List Bytes) (number : UInt64) (log : List Built) (k : Nat)
    (sent : List Bytes) : Prop where
  sent : sent = early ++ log.map Built.datagram
  logged : Logged number log k

theorem SentLog.snoc {early sent : List Bytes} {number : UInt64} {log : List Built} {built : Built}
    {k j : Nat} (h : SentLog early number log k sent) (hbuilt : built.Encoded)
    (hnumbers : numbers built.records = countUp (number + UInt64.ofNat k) j) :
    SentLog early number (log ++ [built]) (k + j) (sent ++ [built.datagram]) := by
  refine ⟨?_, h.logged.snoc hbuilt hnumbers⟩
  rw [h.sent, List.map_append, List.append_assoc]
  rfl

/-- Every datagram parses back to the records it was built from, and on the wire the plaintext
    numbers of the later ones go up. -/
structure Survives (all later : List Built) : Prop where
  parses : ∀ built ∈ all, built.ParsesBack
  increasing : (later.flatMap fun built => wireNumbers built.datagram).Pairwise
    fun x y => x.toNat < y.toNat

/-- **A log survives the wire** exactly if its counter does not pass `2^48`. -/
theorem survives_iff {all log : List Built} {n : UInt64} {k : Nat} (h : Logged n log k)
    (hall : ∀ built ∈ log, built ∈ all) (hearly : ∀ built ∈ all, built ∉ log → built.ParsesBack)
    (hn : n.toNat < 2 ^ 48) : Survives all log ↔ n.toNat + k ≤ 2 ^ 48 := by
  have hsplit : numbers (log.flatMap Built.records)
      = log.flatMap fun built => numbers built.records := by
    unfold numbers epochZero
    rw [List.filter_flatMap, List.map_flatMap]
  rw [← countUp_lt_iff hn, ← h.numbered, hsplit]
  constructor
  · intro hsurvives x hx
    obtain ⟨built, hbuilt, hx⟩ := List.mem_flatMap.mp hx
    exact (parses_back_iff (h.encoded built hbuilt)).mp
      (hsurvives.parses built (hall built hbuilt)) x hx
  · intro hfits
    have hparse : ∀ built ∈ log, built.ParsesBack := by
      intro built hbuilt
      refine (parses_back_iff (h.encoded built hbuilt)).mpr fun x hx => hfits x ?_
      exact List.mem_flatMap.mpr ⟨built, hbuilt, hx⟩
    refine ⟨fun built hbuilt => ?_, ?_⟩
    · by_cases hlog : built ∈ log
      · exact hparse built hlog
      · exact hearly built hbuilt hlog
    -- on the wire the numbers are the built ones
    have hwire : (log.flatMap fun built => wireNumbers built.datagram) = countUp n k := by
      rw [← h.numbered, hsplit]
      refine List.flatMap_congr fun built hbuilt => ?_
      unfold wireNumbers
      rw [hparse built hbuilt]
    rw [hwire]
    refine countUp_increasing ?_
    rw [← h.numbered, hsplit]
    exact hfits

end Meshcop.Dtls
