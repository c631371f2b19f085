/-
  Meshcop.Wire.TlvCodec — the TLV codec in both directions (`meshcop/src/tlv.rs`).

  A TLV has two written forms: a length of at most 254 in one byte, and any length up to 65535 in
  two bytes behind the marker.  The parser takes both; the encoder writes the shorter one.  So a
  parsed stream encodes to itself unless it spells a short length the long way.

  Main results:
    * `parseOne_delimited`  — the parser of one TLV takes exactly a written TLV;
    * `TlvSet.encode_eq_ok_iff`, `TlvSet.parse_eq_ok_iff` — the two directions over whole streams;
    * `TlvSet.tlv_codec_exact` — the round trips, the canonical form and concatenation.
-/

import Meshcop.Lib.Streams
import Meshcop.Wire.Tlv

namespace Meshcop

open Lib

/-! ## §1. The written forms of one TLV. -/

/-- How the length of a TLV is written. -/
inductive LengthForm where
  | standard
  | extended
  deriving DecidableEq, Repr

/-- The longest value whose length the form can write. -/
def LengthForm.limit : LengthForm → Nat
  | .standard => MAX_STANDARD_TLV_LENGTH
  | .extended => MAX_EXTENDED_TLV_LENGTH

namespace TlvEntry

variable {entry : TlvEntry} {form : LengthForm} {bytes rest : Bytes}

/-- Type and length as the form writes them. -/
def header (entry : TlvEntry) : LengthForm → Bytes
  | .standard => [entry.ty, UInt8.ofNat entry.value.length]
  | .extended => entry.ty :: EXTENDED_TLV_MARKER :: toBE 2 entry.value.length

/-- The entry as it stands on the wire in the given form. -/
def written (entry : TlvEntry) (form : LengthForm) : Bytes := entry.header form ++ entry.value

/-- The bytes are the entry, in a form that can write its length. -/
def IsWritten (entry : TlvEntry) (bytes : Bytes) : Prop :=
  ∃ form : LengthForm, entry.value.length ≤ form.limit ∧ bytes = entry.written form

/-- The form the encoder chooses. -/
def shortestForm (entry : TlvEntry) : LengthForm :=
  if entry.value.length ≤ MAX_STANDARD_TLV_LENGTH then .standard else .extended

theorem shortestForm_of_le (h : entry.value.length ≤ MAX_STANDARD_TLV_LENGTH) :
    entry.shortestForm = .standard := if_pos h

theorem shortestForm_of_not_le (h : ¬ entry.value.length ≤ MAX_STANDARD_TLV_LENGTH) :
    entry.shortestForm = .extended := if_neg h

theorem encode_eq_ok_iff : entry.encode = .ok bytes ↔
      entry.value.length ≤ MAX_EXTENDED_TLV_LENGTH ∧ bytes = entry.written entry.shortestForm := by
  unfold TlvEntry.encode encodeHeader
  by_cases hshort : entry.value.length ≤ MAX_STANDARD_TLV_LENGTH
  · have hlong : entry.value.length ≤ MAX_EXTENDED_TLV_LENGTH := Nat.le_trans hshort (by decide)
    rw [if_pos hshort, shortestForm_of_le hshort]
    show Except.ok (entry.written .standard) = .ok bytes ↔ _
    rw [Except.ok.injEq]
    exact ⟨fun h => ⟨hlong, h.symm⟩, fun h => h.2.symm⟩
  · rw [if_neg hshort, shortestForm_of_not_le hshort]
    by_cases hlong : entry.value.length ≤ MAX_EXTENDED_TLV_LENGTH
    · rw [if_pos hlong]
      show Except.ok (entry.written .extended) = .ok bytes ↔ _
      rw [Except.ok.injEq]
      exact ⟨fun h => ⟨hlong, h.symm⟩, fun h => h.2.symm⟩
    · rw [if_neg hlong]
      exact ⟨(fun h => by cases h), fun h => absurd h.1 hlong⟩

/-- The encoder's form is one that can write the length. -/
theorem isWritten_of_encode (h : entry.encode = .ok bytes) : entry.IsWritten bytes := by
  obtain ⟨hlong, rfl⟩ := encode_eq_ok_iff.mp h
  refine ⟨entry.shortestForm, ?_, rfl⟩
  unfold shortestForm
  split
  · assumption
  · exact hlong

/-- The encoder's form is the shortest. -/
theorem length_written_shortestForm (hfits : entry.value.length ≤ form.limit) :
    (entry.written entry.shortestForm).length ≤ (entry.written form).length := by
  unfold written
  rw [List.length_append, List.length_append]
  refine Nat.add_le_add_right ?_ _
  cases form with
  | standard => rw [shortestForm_of_le hfits]
  | extended =>
    show _ ≤ 4
    cases entry.shortestForm with
    | standard => exact Nat.le_add_right 2 2
    | extended => exact Nat.le_refl 4

/-! ## §2. The parser of one TLV. -/

theorem takeValue_value (ty : UInt8) (value rest : Bytes) :
    takeValue ty value.length (value ++ rest) = .ok ({ ty, value }, rest) := by
  unfold takeValue
  rw [if_neg (by rw [List.length_append]; omega), List.take_left, List.drop_left]

theorem takeValue_eq_ok {ty : UInt8} {length : Nat}
    (h : takeValue ty length bytes = .ok (entry, rest)) :
    entry.ty = ty ∧ entry.value.length = length ∧ bytes = entry.value ++ rest := by
  unfold takeValue at h
  split at h
  · cases h
  · rename_i hlong
    cases h
    exact ⟨rfl, by rw [List.length_take]; omega, (List.take_append_drop length bytes).symm⟩

/-- A one-byte length is not the marker. -/
theorem ofNat_ne_marker {length : Nat} (h : length ≤ MAX_STANDARD_TLV_LENGTH) :
    UInt8.ofNat length ≠ EXTENDED_TLV_MARKER := by
  intro heq
  have hnat := congrArg UInt8.toNat heq
  unfold MAX_STANDARD_TLV_LENGTH at h
  rw [UInt8.toNat_ofNat'] at hnat
  have hmarker : EXTENDED_TLV_MARKER.toNat = 255 := rfl
  omega

/-- A written TLV is taken off the front of whatever it stands in. -/
theorem parseOne_written (hfits : entry.value.length ≤ form.limit) (rest : Bytes) :
    parseOne (entry.written form ++ rest) = .ok (entry, rest) := by
  cases form with
  | standard =>
    have hlength : (UInt8.ofNat entry.value.length).toNat = entry.value.length := by
      have hfits : entry.value.length ≤ 254 := hfits
      rw [UInt8.toNat_ofNat']
      omega
    show (if UInt8.ofNat entry.value.length = EXTENDED_TLV_MARKER then _
      else takeValue entry.ty (UInt8.ofNat entry.value.length).toNat (entry.value ++ rest)) = _
    rw [if_neg (ofNat_ne_marker hfits), hlength, takeValue_value]
  | extended =>
    have hlength : ofBE (toBE 2 entry.value.length) = entry.value.length := by
      have hfits : entry.value.length < 256 ^ 2 := Nat.lt_succ_of_le hfits
      rw [ofBE_toBE, Nat.mod_eq_of_lt hfits]
    show takeValue entry.ty (ofBE (toBE 2 entry.value.length)) (entry.value ++ rest) = _
    rw [hlength, takeValue_value]

/-- Whatever the parser takes off the front is a written TLV. -/
theorem isWritten_of_parseOne (h : parseOne bytes = .ok (entry, rest)) :
    ∃ written, entry.IsWritten written ∧ bytes = written ++ rest := by
  unfold parseOne at h
  split at h
  · rename_i ty lengthByte behind
    split at h
    · rename_i hmarker
      split at h
      · rename_i high low behind
        obtain ⟨rfl, hlength, rfl⟩ := takeValue_eq_ok h
        have hlt : ofBE [high, low] < 256 ^ 2 := ofBE_lt [high, low]
        refine ⟨_, ⟨.extended, ?_, rfl⟩, ?_⟩
        · rw [hlength]
          exact Nat.le_of_lt_succ hlt
        · show _ = entry.ty :: EXTENDED_TLV_MARKER :: toBE 2 entry.value.length ++ _ ++ _
          rw [hlength, show toBE 2 (ofBE [high, low]) = [high, low] from toBE_ofBE [high, low],
            hmarker]
          rfl
      · cases h
    · rename_i hmarker
      obtain ⟨rfl, hlength, rfl⟩ := takeValue_eq_ok h
      have hlt : lengthByte.toNat < 256 := lengthByte.toNat_lt
      have hne : lengthByte.toNat ≠ 255 := fun heq => hmarker (UInt8.toNat_inj.mp heq)
      refine ⟨_, ⟨.standard, ?_, rfl⟩, ?_⟩
      · show entry.value.length ≤ 254
        omega
      · show _ = [entry.ty, UInt8.ofNat entry.value.length] ++ _ ++ _
        rw [hlength, UInt8.ofNat_toNat]
        rfl
  · cases h

theorem parseOne_delimited : Delimited parseOne IsWritten where
  reads rest h := by
    obtain ⟨form, hfits, rfl⟩ := h
    exact parseOne_written hfits rest
  sound h := isWritten_of_parseOne h
  nonempty h hnil := by
    obtain ⟨form, -, rfl⟩ := h
    cases form <;> cases hnil

end TlvEntry

/-! ## §3. Streams. -/

namespace TlvSet

variable {set : TlvSet} {bytes : Bytes}

theorem parseEntries_loop : Loop parseOne parseEntries where
  stop fuel := by cases fuel <;> rfl
  turn fuel b bs := rfl

theorem parse_eq_ok_iff : parse bytes = .ok set ↔ Written TlvEntry.IsWritten set.entries bytes := by
  rw [← parseEntries_loop.eq_ok_iff TlvEntry.parseOne_delimited (Nat.le_refl bytes.length)]
  unfold parse
  constructor
  · intro h
    obtain ⟨entries, hentries, h⟩ := bind_eq_ok.mp h
    cases h
    exact hentries
  · intro h
    rw [h]
    rfl

theorem encode_eq_ok_iff :
    set.encode = .ok bytes ↔
      Written (fun entry written => entry.encode = .ok written) set.entries bytes :=
  foldlM_nil_eq_ok_iff

/-- Entries that all fit can be written. -/
theorem exists_encode_of_le (h : ∀ entry ∈ set.entries,
    entry.value.length ≤ MAX_EXTENDED_TLV_LENGTH) : ∃ bytes, set.encode = .ok bytes := by
  obtain ⟨entries⟩ := set
  induction entries with
  | nil => exact ⟨[], rfl⟩
  | cons entry entries ih =>
    obtain ⟨rest, hrest⟩ := ih fun e he => h e (List.mem_cons_of_mem _ he)
    have hentry := TlvEntry.encode_eq_ok_iff.mpr ⟨h entry List.mem_cons_self, rfl⟩
    exact ⟨_, encode_eq_ok_iff.mpr (.cons hentry (encode_eq_ok_iff.mp hrest))⟩

theorem parse_of_encode (h : set.encode = .ok bytes) : parse bytes = .ok set := by
  rw [parse_eq_ok_iff]
  exact (encode_eq_ok_iff.mp h).mono fun _ _ _ hentry => TlvEntry.isWritten_of_encode hentry

theorem encode_fails_iff : (∃ error, set.encode = .error error) ↔
      ∃ entry ∈ set.entries, MAX_EXTENDED_TLV_LENGTH < entry.value.length := by
  constructor
  · rintro ⟨error, herror⟩
    by_contra hnone
    have hfits : ∀ entry ∈ set.entries, entry.value.length ≤ MAX_EXTENDED_TLV_LENGTH := by
      intro entry hentry
      by_contra hlong
      exact hnone ⟨entry, hentry, Nat.lt_of_not_le hlong⟩
    obtain ⟨bytes, hbytes⟩ := exists_encode_of_le hfits
    rw [herror] at hbytes
    cases hbytes
  · rintro ⟨entry, hentry, hlong⟩
    cases hencode : set.encode with
    | error error => exact ⟨error, rfl⟩
    | ok bytes =>
      have hfits := (encode_eq_ok_iff.mp hencode).forall_mem
        fun _ _ h => (TlvEntry.encode_eq_ok_iff.mp h).1
      exact absurd hlong (Nat.not_lt.mpr (hfits entry hentry))

/-! ## §4. The canonical form. -/

/-- Some TLV of the stream spells a length of at most 254 in the extended form.  The TLVs of a
    stream start where the bytes before them are a stream themselves. -/
def NeedlesslyExtended (bytes : Bytes) : Prop :=
  ∃ (front : Bytes) (entry : TlvEntry) (rest : Bytes), (∃ before, parse front = .ok before) ∧
    entry.value.length ≤ MAX_STANDARD_TLV_LENGTH ∧
      bytes = front ++ (entry.written .extended ++ rest)

/-- A stream is never shorter than the encoding of its entries. -/
theorem length_encode_le {entries : List TlvEntry} {encoded : Bytes}
    (hwritten : Written TlvEntry.IsWritten entries bytes)
    (hencoded : Written (fun entry written => entry.encode = .ok written) entries encoded) :
    encoded.length ≤ bytes.length := by
  induction hwritten generalizing encoded with
  | nil =>
    cases hencoded
    exact Nat.le_refl _
  | cons head tail ih =>
    cases hencoded with
    | cons head' tail' =>
      obtain ⟨form, hfits, rfl⟩ := head
      obtain ⟨-, rfl⟩ := TlvEntry.encode_eq_ok_iff.mp head'
      rw [List.length_append, List.length_append]
      exact Nat.add_le_add (TlvEntry.length_written_shortestForm hfits) (ih tail')

/-- A stream with no needlessly extended length is what the encoder writes. -/
theorem written_encode_of_not_needlesslyExtended {entries : List TlvEntry}
    (hwritten : Written TlvEntry.IsWritten entries bytes) (h : ¬ NeedlesslyExtended bytes) :
    Written (fun entry written => entry.encode = .ok written) entries bytes := by
  induction hwritten with
  | nil => exact .nil
  | @cons entry written entries rest head tail ih =>
    refine .cons ?_ (ih ?_)
    · obtain ⟨form, hfits, rfl⟩ := head
      rw [TlvEntry.encode_eq_ok_iff]
      cases form with
      | standard =>
        exact ⟨Nat.le_trans hfits (by decide), by rw [TlvEntry.shortestForm_of_le hfits]⟩
      | extended =>
        refine ⟨hfits, ?_⟩
        -- a short value in this form would be the one the hypothesis excludes
        rw [TlvEntry.shortestForm_of_not_le fun hshort =>
          h ⟨[], entry, rest, ⟨⟨[]⟩, rfl⟩, hshort, rfl⟩]
    · rintro ⟨front, short, rest', ⟨before, hbefore⟩, hshort, rfl⟩
      refine h ⟨written ++ front, short, rest', ⟨⟨entry :: before.entries⟩, ?_⟩, hshort, ?_⟩
      · exact parse_eq_ok_iff.mpr (.cons head (parse_eq_ok_iff.mp hbefore))
      · rw [List.append_assoc]

/-- What the encoder writes has no needlessly extended length. -/
theorem not_needlesslyExtended_of_encode (h : set.encode = .ok bytes) :
    ¬ NeedlesslyExtended bytes := by
  rintro ⟨front, entry, rest, ⟨before, hbefore⟩, hshort, rfl⟩
  obtain ⟨behind, -, hbehind⟩ := TlvEntry.parseOne_delimited.cancel
    (fun _ _ hentry => TlvEntry.isWritten_of_encode hentry) (parse_eq_ok_iff.mp hbefore)
    (encode_eq_ok_iff.mp h)
  have hfits : entry.value.length ≤ LengthForm.extended.limit := Nat.le_trans hshort (by decide)
  have hread := TlvEntry.parseOne_written hfits rest
  generalize hwhole : entry.written .extended ++ rest = whole at hbehind hread
  cases hbehind with
  | nil => cases hwhole
  | @cons first written _ rest' head tail =>
    -- the first TLV behind the front is the entry, in the encoder's form
    rw [TlvEntry.parseOne_delimited.reads rest' (TlvEntry.isWritten_of_encode head)] at hread
    cases hread
    obtain ⟨-, rfl⟩ := TlvEntry.encode_eq_ok_iff.mp head
    rw [TlvEntry.shortestForm_of_le hshort] at hwhole
    have hforms := List.append_cancel_right hwhole
    have hmarker := congrArg (fun written => written[1]?) hforms
    exact TlvEntry.ofNat_ne_marker hshort (Option.some.inj hmarker).symm

theorem encode_of_parse (h : parse bytes = .ok set) :
    ∃ encoded, set.encode = .ok encoded ∧ parse encoded = .ok set ∧
      encoded.length ≤ bytes.length ∧ (encoded = bytes ↔ ¬ NeedlesslyExtended bytes) := by
  have hwritten := parse_eq_ok_iff.mp h
  have hfits : ∀ entry ∈ set.entries, entry.value.length ≤ MAX_EXTENDED_TLV_LENGTH := by
    refine hwritten.forall_mem fun entry written hentry => ?_
    obtain ⟨form, hform, -⟩ := hentry
    cases form with
    | standard => exact Nat.le_trans hform (by decide)
    | extended => exact hform
  obtain ⟨encoded, hencoded⟩ := exists_encode_of_le hfits
  refine ⟨encoded, hencoded, parse_of_encode hencoded,
    length_encode_le hwritten (encode_eq_ok_iff.mp hencoded), ?_⟩
  constructor
  · rintro rfl
    exact not_needlesslyExtended_of_encode hencoded
  · intro hnot
    have hsame := encode_eq_ok_iff.mpr (written_encode_of_not_needlesslyExtended hwritten hnot)
    exact Except.ok.inj (hencoded.symm.trans hsame)

/-- **Concatenation.**  Behind a stream, bytes parse exactly if they parse alone. -/
theorem parse_append_iff {front rest : Bytes} {before : TlvSet} (h : parse front = .ok before)
    {whole : TlvSet} : parse (front ++ rest) = .ok whole ↔
      ∃ behind, parse rest = .ok behind ∧ whole = ⟨before.entries ++ behind.entries⟩ := by
  constructor
  · intro hwhole
    obtain ⟨behind, hentries, hbehind⟩ := TlvEntry.parseOne_delimited.cancel
      (fun _ _ hentry => hentry) (parse_eq_ok_iff.mp h) (parse_eq_ok_iff.mp hwhole)
    exact ⟨⟨behind⟩, parse_eq_ok_iff.mpr hbehind, by rw [← hentries]⟩
  · rintro ⟨behind, hbehind, rfl⟩
    exact parse_eq_ok_iff.mpr ((parse_eq_ok_iff.mp h).append (parse_eq_ok_iff.mp hbehind))

/-- **The TLV codec.**  A set encodes exactly if no value is longer than 65535 bytes, and then
    parses back.  A parsed stream encodes to one that parses to the same set, is no longer, and is
    the stream itself exactly if no TLV spells a short length in the extended form.  Behind a
    stream, bytes parse exactly if they parse alone, to the entries of both. -/
theorem tlv_codec_exact :
    (∀ set : TlvSet, (∀ entry ∈ set.entries, entry.value.length ≤ 65535) →
      ∃ bytes, set.encode = .ok bytes ∧ parse bytes = .ok set) ∧
    (∀ set : TlvSet, (∃ error, set.encode = .error error) ↔
      ∃ entry ∈ set.entries, 65535 < entry.value.length) ∧
    (∀ bytes set, parse bytes = .ok set →
      ∃ encoded, set.encode = .ok encoded ∧ parse encoded = .ok set ∧
        encoded.length ≤ bytes.length ∧ (encoded = bytes ↔ ¬ NeedlesslyExtended bytes)) ∧
    (∀ front rest before, parse front = .ok before →
      ((∃ whole, parse (front ++ rest) = .ok whole) ↔ ∃ behind, parse rest = .ok behind) ∧
        ∀ behind, parse rest = .ok behind →
          parse (front ++ rest) = .ok ⟨before.entries ++ behind.entries⟩) := by
  refine ⟨?_, fun set => encode_fails_iff, fun bytes set h => encode_of_parse h, ?_⟩
  · intro set hfits
    obtain ⟨bytes, hbytes⟩ := exists_encode_of_le hfits
    exact ⟨bytes, hbytes, parse_of_encode hbytes⟩
  · intro front rest before hfront
    constructor
    · constructor
      · rintro ⟨whole, hwhole⟩
        obtain ⟨behind, hbehind, -⟩ := (parse_append_iff hfront).mp hwhole
        exact ⟨behind, hbehind⟩
      · rintro ⟨behind, hbehind⟩
        exact ⟨_, (parse_append_iff hfront).mpr ⟨behind, hbehind, rfl⟩⟩
    · intro behind hbehind
      exact (parse_append_iff hfront).mpr ⟨behind, hbehind, rfl⟩

end TlvSet

end Meshcop
