/-
  Meshcop.Wire.ChannelMask — channel masks on the wire
  (`meshcop/src/dataset.rs`, `meshcop/src/meshcop/{builders,parsers}.rs`).

  A channel-mask value is a row of entries: a page, the length of a mask in one byte and the
  mask.  Reading and writing such rows are inverse to each other.  The notifications ask for one
  32-bit mask, the bitwise or of all masks of page 0.

  Main results:
    * `ChannelMaskEntry.parseAll_eq_ok_iff` — a value parses to the entries it is the encoding of;
    * `channelMaskFromValue_eq` — the mask of a value depends on its page-0 entries alone;
    * `channel_masks_exact` — both, with the round trip of a single mask.
-/

import Meshcop.Lib.Streams
import Meshcop.Wire.Messages

namespace Meshcop

open Lib

/-! ## §1. Entries. -/

namespace ChannelMaskEntry

/-- What `encode_all` appends for one entry. -/
def encode (entry : ChannelMaskEntry) : Except Error Bytes :=
  if entry.mask.length > 255 then .error (.dataset "channel mask entry too long")
  else .ok (entry.page :: UInt8.ofNat entry.mask.length :: entry.mask)

def encodeAll (entries : List ChannelMaskEntry) : Except Error Bytes :=
  entries.foldlM (fun out entry => do
    let written ← entry.encode
    return out ++ written) []

theorem encode_eq_ok_iff {entry : ChannelMaskEntry} {bytes : Bytes} :
    entry.encode = .ok bytes ↔ entry.mask.length ≤ 255 ∧
      bytes = entry.page :: UInt8.ofNat entry.mask.length :: entry.mask := by
  unfold encode
  by_cases hlong : entry.mask.length > 255
  · rw [if_pos hlong]
    exact ⟨(fun h => by cases h), fun h => absurd h.1 (by omega)⟩
  · rw [if_neg hlong, Except.ok.injEq]
    exact ⟨fun h => ⟨by omega, h.symm⟩, fun h => h.2.symm⟩

/-- One turn of the loop of `parse_all`. -/
def parseEntry : Bytes → Except Error (ChannelMaskEntry × Bytes)
  | page :: length :: rest =>
    if rest.length < length.toNat then .error (.dataset "channel mask entry value is truncated")
    else .ok ({ page, mask := rest.take length.toNat }, rest.drop length.toNat)
  | _ => .error (.dataset "channel mask entry header is truncated")

theorem parseEntry_delimited :
    Delimited parseEntry (fun entry written => entry.encode = .ok written) where
  reads {entry written} rest h := by
    obtain ⟨hfits, rfl⟩ := encode_eq_ok_iff.mp h
    have hlength : (UInt8.ofNat entry.mask.length).toNat = entry.mask.length :=
      UInt8.toNat_ofNat_of_lt' (Nat.lt_succ_of_le hfits)
    show parseEntry (entry.page :: UInt8.ofNat entry.mask.length :: (entry.mask ++ rest)) = _
    rw [parseEntry, hlength, if_neg (by rw [List.length_append]; omega), List.take_left,
      List.drop_left]
  sound {input entry rest} h := by
    match input, h with
    | page :: length :: tail, h =>
      rw [parseEntry] at h
      by_cases hshort : tail.length < length.toNat
      · rw [if_pos hshort] at h
        cases h
      rw [if_neg hshort] at h
      cases h
      have hlength : (tail.take length.toNat).length = length.toNat := by
        rw [List.length_take]
        omega
      have hbyte := length.toNat_lt
      refine ⟨page :: length :: tail.take length.toNat, encode_eq_ok_iff.mpr ⟨?_, ?_⟩, ?_⟩
      · show (tail.take length.toNat).length ≤ 255
        omega
      · show _ = page :: UInt8.ofNat (tail.take length.toNat).length :: _
        rw [hlength, UInt8.ofNat_toNat]
      · rw [List.cons_append, List.cons_append, List.take_append_drop]
  nonempty {entry written} h hnil := by
    obtain ⟨-, rfl⟩ := encode_eq_ok_iff.mp h
    cases hnil

theorem parseEntries_loop : Loop parseEntry parseEntries where
  stop fuel := by cases fuel <;> rfl
  turn fuel b bs := by
    cases bs with
    | nil => rfl
    | cons length rest =>
      rw [parseEntries, parseEntry]
      by_cases hshort : rest.length < length.toNat
      · rw [if_pos hshort, if_pos hshort]
        rfl
      · rw [if_neg hshort, if_neg hshort]
        rfl

/-- **A value parses to exactly the entries it is the encoding of.** -/
theorem parseAll_eq_ok_iff {value : Bytes} {entries : List ChannelMaskEntry} :
    parseAll value = .ok entries ↔ encodeAll entries = .ok value := by
  unfold parseAll encodeAll
  rw [parseEntries_loop.eq_ok_iff parseEntry_delimited (Nat.le_refl value.length),
    foldlM_nil_eq_ok_iff]

/-- Entries whose masks fit a one-byte length can be written. -/
theorem exists_encodeAll {entries : List ChannelMaskEntry}
    (h : ∀ entry ∈ entries, entry.mask.length ≤ 255) : ∃ value, encodeAll entries = .ok value := by
  unfold encodeAll
  simp only [foldlM_nil_eq_ok_iff]
  induction entries with
  | nil => exact ⟨[], .nil⟩
  | cons entry entries ih =>
    obtain ⟨rest, hrest⟩ := ih fun e he => h e (List.mem_cons_of_mem _ he)
    exact ⟨_, .cons (encode_eq_ok_iff.mpr ⟨h entry List.mem_cons_self, rfl⟩) hrest⟩

end ChannelMaskEntry

/-! ## §2. The mask of page 0. -/

/-- The value of a single page-0 mask; a mask without channels is refused. -/
def channelMaskValue (channelMask : UInt32) : Except Error Bytes :=
  if channelMask = 0 then .error (.dataset "channel mask must not be zero")
  else ChannelMaskEntry.encodeAll [{ page := 0, mask := toBE 4 channelMask.toNat }]

/-- The entries of page 0. -/
def pageZeroEntries (entries : List ChannelMaskEntry) : List ChannelMaskEntry :=
  entries.filter (fun entry => entry.page = 0)

theorem pageZeroEntries_cons_of_eq {entry : ChannelMaskEntry} (h : entry.page = 0)
    (entries : List ChannelMaskEntry) :
    pageZeroEntries (entry :: entries) = entry :: pageZeroEntries entries :=
  List.filter_cons_of_pos (by simpa using h)

theorem pageZeroEntries_cons_of_ne {entry : ChannelMaskEntry} (h : entry.page ≠ 0)
    (entries : List ChannelMaskEntry) :
    pageZeroEntries (entry :: entries) = pageZeroEntries entries :=
  List.filter_cons_of_neg (by simpa using h)

/-- The bitwise or of the masks. -/
def combinedMask (entries : List ChannelMaskEntry) : UInt32 :=
  (entries.map (fun entry => UInt32.ofNat (ofBE entry.mask))).foldr (· ||| ·) 0

/-- What the loop has after the page-0 entries: its mask stays as it was if there are none. -/
def combineWith (mask : Option UInt32) (entries : List ChannelMaskEntry) : Option UInt32 :=
  if entries = [] then mask else some (mask.getD 0 ||| combinedMask entries)

/-- The loop combines the page-0 masks, all of four bytes, with what it has. -/
theorem pageZeroMask_eq_ok {entries : List ChannelMaskEntry}
    (h : ∀ entry ∈ pageZeroEntries entries, entry.mask.length = 4) (mask : Option UInt32) :
    pageZeroMask entries mask = .ok (combineWith mask (pageZeroEntries entries)) := by
  induction entries generalizing mask with
  | nil => rfl
  | cons entry entries ih =>
    unfold pageZeroMask
    by_cases hpage : entry.page = 0
    · rw [pageZeroEntries_cons_of_eq hpage] at h ⊢
      have hlength : entry.mask.length = 4 := h entry List.mem_cons_self
      rw [if_pos hpage, if_neg (not_not_intro hlength),
        ih fun e he => h e (List.mem_cons_of_mem _ he)]
      congr 1
      unfold combineWith
      rw [if_neg (List.cons_ne_nil _ _)]
      -- the entries behind this one, if there are any, are combined with it
      by_cases hlast : pageZeroEntries entries = []
      · rw [if_pos hlast, hlast]
        show some (mask.getD 0 ||| UInt32.ofNat (ofBE entry.mask))
          = some (mask.getD 0 ||| (UInt32.ofNat (ofBE entry.mask) ||| 0))
        rw [UInt32.or_zero]
      rw [if_neg hlast]
      show some ((mask.getD 0 ||| UInt32.ofNat (ofBE entry.mask)) ||| _)
        = some (mask.getD 0 ||| (UInt32.ofNat (ofBE entry.mask) ||| _))
      rw [UInt32.or_assoc]
      rfl
    · rw [pageZeroEntries_cons_of_ne hpage] at h ⊢
      rw [if_neg hpage, ih h]

/-- A page-0 mask of another length ends the loop. -/
theorem pageZeroMask_eq_error {entries : List ChannelMaskEntry}
    (h : ∃ entry ∈ pageZeroEntries entries, entry.mask.length ≠ 4) (mask : Option UInt32) :
    pageZeroMask entries mask = .error (.dataset "page-0 channel mask must be 4 bytes") := by
  obtain ⟨bad, hbad, hlength⟩ := h
  induction entries generalizing mask with
  | nil => exact absurd hbad List.not_mem_nil
  | cons entry entries ih =>
    unfold pageZeroMask
    by_cases hpage : entry.page = 0
    · rw [pageZeroEntries_cons_of_eq hpage] at hbad
      rw [if_pos hpage]
      by_cases hhere : entry.mask.length = 4
      · rw [if_neg (not_not_intro hhere)]
        rcases List.mem_cons.mp hbad with rfl | hlater
        · exact absurd hhere hlength
        · exact ih _ hlater
      · rw [if_pos hhere]
    · rw [pageZeroEntries_cons_of_ne hpage] at hbad
      rw [if_neg hpage]
      exact ih _ hbad

/-- What `channel_mask_from_value` returns for the entries of page 0. -/
def maskOfPageZero (entries : List ChannelMaskEntry) : Except Error UInt32 :=
  if ∃ entry ∈ entries, entry.mask.length ≠ 4 then
    .error (.dataset "page-0 channel mask must be 4 bytes")
  else if entries = [] then .error (.dataset "no page-0 channel mask entry")
  else .ok (combinedMask entries)

/-- **The mask of a value depends on its page-0 entries alone.** -/
theorem channelMaskFromValue_eq {value : Bytes} {entries : List ChannelMaskEntry}
    (h : ChannelMaskEntry.parseAll value = .ok entries) :
    channelMaskFromValue value = maskOfPageZero (pageZeroEntries entries) := by
  unfold channelMaskFromValue maskOfPageZero
  rw [h]
  show (pageZeroMask entries none >>= fun mask => _) = _
  by_cases hbad : ∃ entry ∈ pageZeroEntries entries, entry.mask.length ≠ 4
  · rw [if_pos hbad, pageZeroMask_eq_error hbad]
    rfl
  rw [if_neg hbad]
  push Not at hbad
  rw [pageZeroMask_eq_ok hbad]
  unfold combineWith
  by_cases hnone : pageZeroEntries entries = []
  · rw [if_pos hnone, if_pos hnone]
    rfl
  · rw [if_neg hnone, if_neg hnone]
    show Except.ok ((0 : UInt32) ||| combinedMask _) = _
    rw [UInt32.zero_or]

/-- The order of the page-0 entries does not matter. -/
theorem maskOfPageZero_perm {entries entries' : List ChannelMaskEntry}
    (h : entries.Perm entries') : maskOfPageZero entries = maskOfPageZero entries' := by
  have hbad : (∃ entry ∈ entries, entry.mask.length ≠ 4) ↔
      ∃ entry ∈ entries', entry.mask.length ≠ 4 := by
    simp only [h.mem_iff]
  have hnil : entries = [] ↔ entries' = [] := by
    rw [← List.length_eq_zero_iff, ← List.length_eq_zero_iff, h.length_eq]
  have hmask : combinedMask entries = combinedMask entries' := (h.map _).foldr_op_eq
  unfold maskOfPageZero
  simp only [hbad, hnil, hmask]

/-! ## §3. The codec and the mask. -/

/-- A single mask is read back from its value. -/
theorem channelMaskFromValue_channelMaskValue {channelMask : UInt32} (hmask : channelMask ≠ 0) :
    ∃ value, channelMaskValue channelMask = .ok value ∧
      channelMaskFromValue value = .ok channelMask := by
  have hfits : ∀ entry ∈ [({ page := 0, mask := toBE 4 channelMask.toNat } : ChannelMaskEntry)],
      entry.mask.length ≤ 255 := by
    intro entry hentry
    rw [List.mem_singleton.mp hentry, length_toBE]
    decide
  obtain ⟨value, hvalue⟩ := ChannelMaskEntry.exists_encodeAll hfits
  refine ⟨value, ?_, ?_⟩
  · unfold channelMaskValue
    rw [if_neg hmask, hvalue]
  · rw [channelMaskFromValue_eq (ChannelMaskEntry.parseAll_eq_ok_iff.mpr hvalue)]
    have hlt : channelMask.toNat < 256 ^ 4 := channelMask.toNat_lt
    have hback : UInt32.ofNat (ofBE (toBE 4 channelMask.toNat)) = channelMask := by
      rw [ofBE_toBE, Nat.mod_eq_of_lt hlt, UInt32.ofNat_toNat]
    show Except.ok (UInt32.ofNat (ofBE (toBE 4 channelMask.toNat)) ||| 0) = _
    rw [hback, UInt32.or_zero]

/-- **Channel masks are read as they were written.**  Entries whose masks fit a one-byte length
    are parsed from their encoding, and what parses is the encoding of its entries; a mask with
    some channel comes back from its value.  For every well-formed value the mask is the bitwise
    or of the page-0 masks, an error exactly if there is none or one of them has not four bytes,
    and the same for every value with the same page-0 entries in whatever order. -/
theorem channel_masks_exact :
    (∀ entries : List ChannelMaskEntry, (∀ entry ∈ entries, entry.mask.length ≤ 255) →
      ∃ value, ChannelMaskEntry.encodeAll entries = .ok value ∧
        ChannelMaskEntry.parseAll value = .ok entries) ∧
    (∀ (value : Bytes) (entries : List ChannelMaskEntry),
      ChannelMaskEntry.parseAll value = .ok entries →
      ChannelMaskEntry.encodeAll entries = .ok value) ∧
    (∀ channelMask : UInt32, channelMask ≠ 0 →
      ∃ value, channelMaskValue channelMask = .ok value ∧
        channelMaskFromValue value = .ok channelMask) ∧
    (∀ (value : Bytes) (entries : List ChannelMaskEntry),
      ChannelMaskEntry.parseAll value = .ok entries →
      ((∃ error, channelMaskFromValue value = .error error) ↔
        pageZeroEntries entries = [] ∨
          ∃ entry ∈ pageZeroEntries entries, entry.mask.length ≠ 4) ∧
      (∀ mask, channelMaskFromValue value = .ok mask →
        mask = combinedMask (pageZeroEntries entries)) ∧
      ∀ (value' : Bytes) (entries' : List ChannelMaskEntry),
        ChannelMaskEntry.parseAll value' = .ok entries' →
        (pageZeroEntries entries).Perm (pageZeroEntries entries') →
        channelMaskFromValue value' = channelMaskFromValue value) := by
  refine ⟨?_, ?_, ?_, ?_⟩
  · intro entries hfits
    obtain ⟨value, hvalue⟩ := ChannelMaskEntry.exists_encodeAll hfits
    exact ⟨value, hvalue, ChannelMaskEntry.parseAll_eq_ok_iff.mpr hvalue⟩
  · intro value entries h
    exact ChannelMaskEntry.parseAll_eq_ok_iff.mp h
  · intro channelMask hmask
    exact channelMaskFromValue_channelMaskValue hmask
  · intro value entries h
    rw [channelMaskFromValue_eq h]
    refine ⟨?_, ?_, ?_⟩
    · unfold maskOfPageZero
      by_cases hbad : ∃ entry ∈ pageZeroEntries entries, entry.mask.length ≠ 4
      · rw [if_pos hbad]
        exact ⟨fun _ => Or.inr hbad, fun _ => ⟨_, rfl⟩⟩
      rw [if_neg hbad]
      by_cases hnone : pageZeroEntries entries = []
      · rw [if_pos hnone]
        exact ⟨fun _ => Or.inl hnone, fun _ => ⟨_, rfl⟩⟩
      rw [if_neg hnone]
      constructor
      · intro herror
        obtain ⟨error, herror⟩ := herror
        cases herror
      · intro hcause
        exact absurd hcause (not_or.mpr ⟨hnone, hbad⟩)
    · intro mask hmask
      unfold maskOfPageZero at hmask
      split at hmask
      · cases hmask
      · split at hmask
        · cases hmask
        · cases hmask
          rfl
    · intro value' entries' h' hperm
      rw [channelMaskFromValue_eq h', maskOfPageZero_perm hperm]

end Meshcop
