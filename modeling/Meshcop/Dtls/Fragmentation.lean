/-
  Meshcop.Dtls.Fragmentation — handshake messages in fragments and their reassembly
  (`meshcop-dtls/src/handshake.rs`).

  A reassembler keeps the bytes of one message and a map of the positions that have arrived.  A
  fragment is written byte by byte; a byte that differs from one already there is refused.  The
  message is handed out whenever the map is full.

  Main results:
    * `HandshakeReassembler.push_spec` — what one push does, from any set of fragments so far;
    * `pushAll_spec`                   — and what a sequence of pushes reports, push by push;
    * `HandshakeMessage.fragment_spec` — cutting gives slices that cover the message;
    * `fragments_reassemble`           — any fragments, in any order, overlapping or repeated.
-/

import Meshcop.Dtls.Handshake

namespace Meshcop.Dtls

open Lib

/-! ## §1. The reassembler. -/

/-- Upper bound on a reassembled message. -/
def MAX_HANDSHAKE_MESSAGE_LEN : Nat := 64 * 1024

/-- The fragments of one message, as far as they have arrived. -/
structure HandshakeReassembler where
  messageType : Option HandshakeType
  messageSeq : Option UInt16
  bytes : Bytes
  filled : List Bool
  deriving DecidableEq, Repr

namespace HandshakeReassembler

/-- The reassembler before its first fragment. -/
def new : HandshakeReassembler :=
  { messageType := none, messageSeq := none, bytes := [], filled := [] }

/-- The first header sets up the buffer; later ones have to agree with it. -/
def initializeOrValidate (header : HandshakeHeader) : EStateM Error HandshakeReassembler Unit := do
  let r ← get
  match r.messageType, r.messageSeq with
  | none, none =>
    if header.length > MAX_HANDSHAKE_MESSAGE_LEN then
      throw (.crypto (s!"DTLS handshake message length {header.length} exceeds the " ++
        s!"{MAX_HANDSHAKE_MESSAGE_LEN}-byte limit"))
    else
      set { messageType := some header.messageType
            messageSeq := some header.messageSeq
            bytes := List.replicate header.length 0
            filled := List.replicate header.length false : HandshakeReassembler }
  | some messageType, some messageSeq =>
    if messageType = header.messageType ∧ messageSeq = header.messageSeq
        ∧ r.bytes.length = header.length then
      pure ()
    else throw (.crypto "DTLS handshake fragment metadata mismatch")
  | _, _ => throw (.crypto "DTLS handshake fragment metadata mismatch")

/-- One turn of the copying loop. -/
def writeByte (position : Nat) (byte : UInt8) : EStateM Error HandshakeReassembler Unit := do
  let r ← get
  if r.filled.getD position false = true ∧ r.bytes.getD position 0 ≠ byte then
    throw (.crypto "DTLS handshake fragment overlaps with different data")
  else
    set { r with bytes := r.bytes.set position byte, filled := r.filled.set position true }

/-- The copying loop, from a position on. -/
def writeBytes : Nat → Bytes → EStateM Error HandshakeReassembler Unit
  | _, [] => pure ()
  | position, byte :: bytes => do
    writeByte position byte
    writeBytes (position + 1) bytes

/-- Adds a fragment and returns the message once all of its bytes have arrived. -/
def push (fragment : HandshakeFragment) :
    EStateM Error HandshakeReassembler (Option HandshakeMessage) := do
  initializeOrValidate fragment.header
  let r ← get
  let start := fragment.header.fragmentOffset
  if start + fragment.fragment.length > r.bytes.length then
    throw (.crypto "DTLS handshake fragment exceeds message length")
  else
    writeBytes start fragment.fragment
    let r ← get
    if r.filled.all id then
      match r.messageType, r.messageSeq with
      | some messageType, some messageSeq =>
        return some { messageType, messageSeq, payload := r.bytes }
      | none, _ => throw (.crypto "missing handshake type")
      | _, none => throw (.crypto "missing handshake sequence")
    else return none

/-- Pushes of one fragment after the other, with what each returned. -/
def pushAll : List HandshakeFragment →
    EStateM Error HandshakeReassembler (List (Option HandshakeMessage))
  | [] => pure []
  | fragment :: fragments => do
    let result ← push fragment
    let results ← pushAll fragments
    return result :: results

end HandshakeReassembler

/-! ## §2. Slices of a message and what they cover. -/

/-- A slice of the message under the header that belongs to it. -/
structure IsFragmentOf (message : HandshakeMessage) (f : HandshakeFragment) : Prop where
  messageType : f.header.messageType = message.messageType
  messageSeq : f.header.messageSeq = message.messageSeq
  length : f.header.length = message.payload.length
  fragmentLength : f.header.fragmentLength = f.fragment.length
  inside : f.header.fragmentOffset + f.fragment.length ≤ message.payload.length
  slice : f.fragment = (message.payload.drop f.header.fragmentOffset).take f.fragment.length

/-- The fragment holds the byte at the position. -/
def HandshakeFragment.Holds (f : HandshakeFragment) (position : Nat) : Prop :=
  f.header.fragmentOffset ≤ position ∧ position < f.header.fragmentOffset + f.fragment.length

instance (f : HandshakeFragment) (position : Nat) : Decidable (f.Holds position) :=
  inferInstanceAs (Decidable (_ ∧ _))

/-- Some pushed fragment holds the byte at the position. -/
def Covered (pushed : List HandshakeFragment) (position : Nat) : Prop :=
  ∃ f ∈ pushed, f.Holds position

instance (pushed : List HandshakeFragment) (position : Nat) : Decidable (Covered pushed position) :=
  inferInstanceAs (Decidable (∃ f ∈ pushed, _))

/-- The union of the pushed fragments is the whole payload. -/
def Covers (message : HandshakeMessage) (pushed : List HandshakeFragment) : Prop :=
  ∀ position < message.payload.length, Covered pushed position

instance (message : HandshakeMessage) (pushed : List HandshakeFragment) :
    Decidable (Covers message pushed) :=
  inferInstanceAs (Decidable (∀ position < message.payload.length, _))

theorem covered_snoc {pushed : List HandshakeFragment} {f : HandshakeFragment} {position : Nat} :
    Covered (pushed ++ [f]) position ↔ Covered pushed position ∨ f.Holds position := by
  constructor
  · rintro ⟨g, hg, hholds⟩
    rcases List.mem_append.mp hg with hg | hg
    · exact Or.inl ⟨g, hg, hholds⟩
    · rw [List.mem_singleton.mp hg] at hholds
      exact Or.inr hholds
  · rintro (⟨g, hg, hholds⟩ | hholds)
    · exact ⟨g, List.mem_append_left _ hg, hholds⟩
    · exact ⟨f, List.mem_append_right _ List.mem_cons_self, hholds⟩

/-! ## §3. One push. -/

namespace HandshakeReassembler

variable {message : HandshakeMessage} {P : Nat → Prop} {r : HandshakeReassembler}

/-- The reassembler has the message's bytes at exactly the positions of `P`. -/
structure Filled (message : HandshakeMessage) (P : Nat → Prop) (r : HandshakeReassembler) :
    Prop where
  messageType : r.messageType = some message.messageType
  messageSeq : r.messageSeq = some message.messageSeq
  size : r.bytes.length = message.payload.length
  mapSize : r.filled.length = message.payload.length
  filled : ∀ position < message.payload.length, r.filled.getD position false = true ↔ P position
  bytes : ∀ position < message.payload.length, P position →
    r.bytes[position]? = message.payload[position]?

theorem Filled.congr {Q : Nat → Prop} (h : Filled message P r)
    (hPQ : ∀ position, P position ↔ Q position) : Filled message Q r := by
  refine ⟨h.messageType, h.messageSeq, h.size, h.mapSize, ?_, ?_⟩
  · intro position hposition
    rw [h.filled position hposition, hPQ]
  · intro position hposition hQ
    exact h.bytes position hposition ((hPQ position).mpr hQ)

/-- A fresh buffer has nothing. -/
theorem filled_replicate (message : HandshakeMessage) : Filled message (fun _ => False)
      { messageType := some message.messageType
        messageSeq := some message.messageSeq
        bytes := List.replicate message.payload.length 0
        filled := List.replicate message.payload.length false } := by
  refine ⟨rfl, rfl, List.length_replicate, List.length_replicate, ?_, fun _ _ h => h.elim⟩
  intro position _
  have hmap : (List.replicate message.payload.length false).getD position false = false := by
    rw [List.getD_eq_getElem?_getD, List.getElem?_replicate]
    split <;> rfl
  rw [hmap]
  simp

/-- **A byte of the message is written**, whether it was there or not. -/
theorem writeByte_spec (h : Filled message P r) {position : Nat} {byte : UInt8}
    (hbyte : message.payload[position]? = some byte) : wp (writeByte position byte)
      (fun _ r' => Filled message (fun p => P p ∨ p = position) r') (fun _ _ => False) r := by
  have hposition : position < message.payload.length := by
    by_contra hout
    rw [List.getElem?_eq_none (Nat.le_of_not_lt hout)] at hbyte
    cases hbyte
  have hagrees : ¬ (r.filled.getD position false = true ∧ r.bytes.getD position 0 ≠ byte) := by
    rintro ⟨hfilled, hdiffers⟩
    have hsame := h.bytes position hposition ((h.filled position hposition).mp hfilled)
    rw [List.getD_eq_getElem?_getD, hsame, hbyte] at hdiffers
    exact hdiffers rfl
  simp only [writeByte, wp_bind, wp_get]
  rw [if_neg hagrees, wp_set]
  have hmap (p : Nat) : (r.filled.set position true).getD p false
      = if p = position then true else r.filled.getD p false := by
    rw [List.getD_eq_getElem?_getD, List.getElem?_set, List.getD_eq_getElem?_getD]
    by_cases hp : position = p
    · rw [if_pos hp, if_pos hp.symm, h.mapSize, if_pos hposition]
      rfl
    · rw [if_neg hp, if_neg (Ne.symm hp)]
  refine ⟨h.messageType, h.messageSeq, ?_, ?_, ?_, ?_⟩
  · rw [List.length_set, h.size]
  · rw [List.length_set, h.mapSize]
  · intro p hp
    show (r.filled.set position true).getD p false = true ↔ _
    rw [hmap]
    by_cases heq : p = position
    · simp [heq]
    · rw [if_neg heq, h.filled p hp]
      simp [heq]
  · intro p hp hP
    show (r.bytes.set position byte)[p]? = _
    rw [List.getElem?_set]
    by_cases heq : position = p
    · rw [if_pos heq, h.size, if_pos hposition, ← heq, hbyte]
    · rw [if_neg heq]
      exact h.bytes p hp (hP.resolve_right (Ne.symm heq))

/-- **A slice of the message is written.** -/
theorem writeBytes_spec (h : Filled message P r) {start : Nat} {bytes : Bytes}
    (hslice : bytes = (message.payload.drop start).take bytes.length) : wp (writeBytes start bytes)
      (fun _ r' => Filled message
        (fun p => P p ∨ (start ≤ p ∧ p < start + bytes.length)) r') (fun _ _ => False) r := by
  induction bytes generalizing start P r with
  | nil =>
    refine h.congr fun p => ?_
    have hnone : ¬ (start ≤ p ∧ p < start + 0) := by omega
    rw [List.length_nil, or_iff_left hnone]
  | cons byte bytes ih =>
    rw [List.length_cons] at hslice
    -- the slice is its first byte and a slice that starts one position later
    obtain ⟨tail, htail⟩ : ∃ tail, message.payload.drop start = byte :: tail := by
      cases hdrop : message.payload.drop start with
      | nil => rw [hdrop] at hslice; cases hslice
      | cons b tail => rw [hdrop] at hslice; exact ⟨tail, by rw [List.head_eq_of_cons_eq hslice]⟩
    have hfirst : message.payload[start]? = some byte := by
      rw [← List.head?_drop, htail]
      rfl
    have hrest : bytes = (message.payload.drop (start + 1)).take bytes.length := by
      rw [htail] at hslice
      rw [← List.tail_drop, htail]
      exact List.tail_eq_of_cons_eq hslice
    simp only [writeBytes, wp_bind]
    refine wp_imp (writeByte_spec h hfirst) (fun _ r₁ h₁ => ?_)
    refine wp_imp (ih h₁ hrest) (fun _ r₂ h₂ => ?_)
    refine h₂.congr fun p => ?_
    rw [List.length_cons, or_assoc]
    refine or_congr_right ?_
    omega

/-- What the reassembler is after the given pushes. -/
def Reached (message : HandshakeMessage) (pushed : List HandshakeFragment)
    (r : HandshakeReassembler) : Prop :=
  (pushed = [] ∧ r = new) ∨ Filled message (Covered pushed) r

theorem initializeOrValidate_spec {pushed : List HandshakeFragment} {f : HandshakeFragment}
    (hsize : message.payload.length ≤ MAX_HANDSHAKE_MESSAGE_LEN) (hf : IsFragmentOf message f)
    (h : Reached message pushed r) :
    wp (initializeOrValidate f.header) (fun _ r' => Filled message (Covered pushed) r')
      (fun _ _ => False) r := by
  rcases h with ⟨rfl, rfl⟩ | h
  · have hfits : ¬ f.header.length > MAX_HANDSHAKE_MESSAGE_LEN := by
      rw [hf.length]
      omega
    simp only [initializeOrValidate, wp_bind, wp_get, new]
    rw [if_neg hfits, wp_set, hf.length, hf.messageType, hf.messageSeq]
    refine (filled_replicate message).congr fun position => ?_
    simp [Covered]
  · simp only [initializeOrValidate, wp_bind, wp_get, h.messageType, h.messageSeq]
    rw [if_pos ⟨hf.messageType.symm, hf.messageSeq.symm, h.size.trans hf.length.symm⟩]
    exact h

/-- The map is full exactly if every position has arrived. -/
theorem Filled.all_iff (h : Filled message P r) :
    r.filled.all id = true ↔ ∀ position < message.payload.length, P position := by
  rw [List.all_eq_true]
  constructor
  · intro hall position hposition
    rw [← h.filled position hposition]
    have hlt : position < r.filled.length := by rw [h.mapSize]; exact hposition
    rw [List.getD_eq_getElem?_getD, List.getElem?_eq_getElem hlt]
    exact hall _ (List.getElem_mem hlt)
  · intro hall b hb
    obtain ⟨position, hposition, rfl⟩ := List.getElem_of_mem hb
    have hlt : position < message.payload.length := by rw [← h.mapSize]; exact hposition
    have hfilled := (h.filled position hlt).mpr (hall position hlt)
    rwa [List.getD_eq_getElem?_getD, List.getElem?_eq_getElem hposition] at hfilled

theorem Filled.bytes_eq (h : Filled message P r)
    (hall : ∀ position < message.payload.length, P position) : r.bytes = message.payload := by
  apply List.ext_getElem?
  intro position
  by_cases hposition : position < message.payload.length
  · exact h.bytes position hposition (hall position hposition)
  · have hout := Nat.le_of_not_lt hposition
    rw [List.getElem?_eq_none hout, List.getElem?_eq_none (by rw [h.size]; exact hout)]

/-- **One push.**  It succeeds, and returns the message exactly if everything is there now. -/
theorem push_spec {pushed : List HandshakeFragment} {f : HandshakeFragment}
    (hsize : message.payload.length ≤ MAX_HANDSHAKE_MESSAGE_LEN) (hf : IsFragmentOf message f)
    (h : Reached message pushed r) : wp (push f) (fun result r' =>
        result = (if Covers message (pushed ++ [f]) then some message else none) ∧
          Filled message (Covered (pushed ++ [f])) r') (fun _ _ => False) r := by
  unfold push
  refine wp_seq (initializeOrValidate_spec hsize hf h) (fun _ r₁ h₁ => ?_)
  rw [wp_bind, wp_get]
  have hinside : ¬ f.header.fragmentOffset + f.fragment.length > r₁.bytes.length := by
    have hle := hf.inside
    rw [h₁.size]
    omega
  rw [if_neg hinside]
  refine wp_seq (writeBytes_spec h₁ hf.slice) (fun _ r₂ h₂ => ?_)
  have h₂ : Filled message (Covered (pushed ++ [f])) r₂ := h₂.congr fun p => covered_snoc.symm
  rw [wp_bind, wp_get]
  by_cases hcovers : Covers message (pushed ++ [f])
  · rw [if_pos (h₂.all_iff.mpr hcovers), if_pos hcovers, h₂.messageType, h₂.messageSeq,
      h₂.bytes_eq hcovers]
    exact ⟨rfl, h₂⟩
  · rw [if_neg (mt h₂.all_iff.mp hcovers), if_neg hcovers]
    exact ⟨rfl, h₂⟩

/-! ## §4. Any number of pushes. -/

/-- **Push after push.**  All succeed; each returns the message exactly if the fragments pushed up
    to and including it cover the payload. -/
theorem pushAll_spec (hsize : message.payload.length ≤ MAX_HANDSHAKE_MESSAGE_LEN)
    {fragments pushed : List HandshakeFragment}
    (hfragments : ∀ f ∈ fragments, IsFragmentOf message f) (h : Reached message pushed r) :
    wp (pushAll fragments) (fun results _ => results.length = fragments.length ∧
        ∀ i < fragments.length, results[i]? = some
          (if Covers message (pushed ++ fragments.take (i + 1)) then some message else none))
      (fun _ _ => False) r := by
  induction fragments generalizing pushed r with
  | nil => exact ⟨rfl, fun i hi => absurd hi (Nat.not_lt_zero i)⟩
  | cons f fragments ih =>
    simp only [pushAll, wp_bind, wp_pure]
    refine wp_imp (push_spec hsize (hfragments f List.mem_cons_self) h) ?_
    rintro result r₁ ⟨rfl, h₁⟩
    refine wp_imp (ih (fun g hg => hfragments g (List.mem_cons_of_mem _ hg)) (Or.inr h₁)) ?_
    rintro results _ ⟨hlength, hresults⟩
    refine ⟨by rw [List.length_cons, hlength, List.length_cons], ?_⟩
    intro i hi
    cases i with
    | zero => rfl
    | succ i =>
      rw [List.getElem?_cons_succ, hresults i (Nat.lt_of_succ_lt_succ hi), List.take_succ_cons,
        List.append_assoc]
      rfl

end HandshakeReassembler

/-! ## §5. Cutting a message. -/

namespace HandshakeMessage

variable {message : HandshakeMessage}

/-- The pieces cut from an offset on are slices, and leave no position from there on out. -/
theorem fragmentsFrom_spec {max : Nat} (hmax : 0 < max) (fuel : Nat) :
    ∀ (offset : Nat), offset ≤ message.payload.length → message.payload.length - offset ≤ fuel →
      (∀ f ∈ fragmentsFrom message max fuel offset (message.payload.drop offset),
        IsFragmentOf message f) ∧
      ∀ position, offset ≤ position → position < message.payload.length →
        Covered (fragmentsFrom message max fuel offset (message.payload.drop offset)) position := by
  induction fuel with
  | zero =>
    intro offset hoffset hfuel
    rw [List.drop_eq_nil_of_le (by omega)]
    refine ⟨List.forall_mem_nil _, fun position hlow hhigh => ?_⟩
    omega
  | succ fuel ih =>
    intro offset hoffset hfuel
    cases hdrop : message.payload.drop offset with
    | nil =>
      have hend := List.drop_eq_nil_iff.mp hdrop
      refine ⟨List.forall_mem_nil _, fun position hlow hhigh => ?_⟩
      omega
    | cons b bs =>
      have hlength : (b :: bs).length = message.payload.length - offset := by
        rw [← hdrop, List.length_drop]
      rw [fragmentsFrom]
      by_cases hlast : message.payload.length ≤ offset + max
      · -- this piece reaches the end
        have hnone : (b :: bs).drop max = [] := List.drop_eq_nil_of_le (by omega)
        have hstop : fragmentsFrom message max fuel (offset + max) [] = [] := by
          cases fuel <;> rfl
        have htake : (b :: bs).take max = b :: bs := List.take_of_length_le (by omega)
        rw [hnone, hstop, htake]
        constructor
        · intro f hf
          rw [List.mem_singleton.mp hf]
          refine ⟨rfl, rfl, rfl, rfl, ?_, ?_⟩
          · show offset + (b :: bs).length ≤ _
            omega
          · show b :: bs = (message.payload.drop offset).take (b :: bs).length
            rw [hdrop, List.take_length]
        · intro position hlow hhigh
          refine ⟨_, List.mem_cons_self, hlow, ?_⟩
          show position < offset + (b :: bs).length
          omega
      · have hrest : (b :: bs).drop max = message.payload.drop (offset + max) := by
          rw [← hdrop, List.drop_drop]
        have htake : ((b :: bs).take max).length = max := by
          rw [List.length_take]
          omega
        obtain ⟨hslices, hcovered⟩ := ih (offset + max) (by omega) (by omega)
        rw [hrest]
        constructor
        · intro f hf
          rcases List.mem_cons.mp hf with rfl | hf
          · refine ⟨rfl, rfl, rfl, rfl, ?_, ?_⟩
            · show offset + ((b :: bs).take max).length ≤ _
              omega
            · show (b :: bs).take max = (message.payload.drop offset).take _
              rw [htake, hdrop]
          · exact hslices f hf
        · intro position hlow hhigh
          by_cases hfirst : position < offset + max
          · refine ⟨_, List.mem_cons_self, hlow, ?_⟩
            show position < offset + ((b :: bs).take max).length
            omega
          · obtain ⟨f, hf, hholds⟩ := hcovered position (by omega) hhigh
            exact ⟨f, List.mem_cons_of_mem _ hf, hholds⟩

/-- **Cutting a message** gives at least one fragment; all are slices, and together they are the
    message. -/
theorem fragment_spec {max : Nat} (hmax : 0 < max) (hsize : message.payload.length ≤ MAX_U24) :
    ∃ fragments, message.fragment max = .ok fragments ∧ fragments ≠ [] ∧
      (∀ f ∈ fragments, IsFragmentOf message f) ∧ Covers message fragments := by
  obtain ⟨hslices, hcovered⟩ := fragmentsFrom_spec hmax message.payload.length 0
    (Nat.zero_le message.payload.length) (Nat.le_refl _)
  rw [List.drop_zero] at hslices hcovered
  unfold fragment
  rw [if_neg (by omega), if_neg (by omega)]
  cases hcut : fragmentsFrom message max message.payload.length 0 message.payload with
  | nil =>
    rw [hcut] at hcovered
    have hempty : message.payload.length = 0 := by
      by_contra hsome
      obtain ⟨f, hf, -⟩ := hcovered 0 (Nat.le_refl 0) (by omega)
      exact absurd hf List.not_mem_nil
    refine ⟨[emptyFragment message], rfl, List.cons_ne_nil _ _, ?_, ?_⟩
    · intro f hf
      rw [List.mem_singleton.mp hf]
      exact ⟨rfl, rfl, hempty.symm, rfl, Nat.zero_le _, rfl⟩
    · intro position hposition
      omega
  | cons f fragments =>
    rw [hcut] at hslices hcovered
    exact ⟨f :: fragments, rfl, List.cons_ne_nil _ _, hslices,
      fun position hposition => hcovered position (Nat.zero_le _) hposition⟩

end HandshakeMessage

/-- **A fragment survives the wire.** -/
theorem IsFragmentOf.parse_encode {message : HandshakeMessage} {f : HandshakeFragment}
    (h : IsFragmentOf message f) (hsize : message.payload.length ≤ MAX_U24) :
    ∃ bytes, f.encode = .ok bytes ∧ HandshakeFragment.parse bytes = .ok f := by
  have hinside := h.inside
  have hvalid : f.header.validate = .ok () := by
    unfold HandshakeHeader.validate
    rw [h.length, h.fragmentLength, if_neg (by omega), if_neg (by omega)]
  refine ⟨f.header.bytes ++ f.fragment, ?_, ?_⟩
  · unfold HandshakeFragment.encode HandshakeHeader.encode
    rw [if_neg (not_not_intro h.fragmentLength.symm), hvalid]
    rfl
  · have hparse := HandshakeFragment.parse_bytes hvalid h.fragmentLength.symm []
    rwa [List.append_nil] at hparse

/-! ## §6. Fragmentation and reassembly. -/

open HandshakeReassembler in
/-- **Fragmentation and reassembly.**  Slices of a message of at most 65536 bytes may be pushed in
    any order, overlapping, repeated or empty: no push fails, and a push returns the message
    exactly if the slices pushed so far cover the payload.  So the fragments of the message under
    any positive limit, each pushed at least once, reassemble; and they survive the wire. -/
theorem fragments_reassemble (message : HandshakeMessage)
    (hsize : message.payload.length ≤ 65536) :
    (∀ fragments, (∀ f ∈ fragments, IsFragmentOf message f) →
      ∃ results r, pushAll fragments new = .ok results r ∧ results.length = fragments.length ∧
        ∀ i < fragments.length, results[i]? = some
          (if Covers message (fragments.take (i + 1)) then some message else none)) ∧
    (∀ max > 0, ∃ fragments, message.fragment max = .ok fragments ∧
      (∀ pushed, (∀ f, f ∈ pushed ↔ f ∈ fragments) →
        ∃ results r, pushAll pushed new = .ok results r ∧
          results.getLast? = some (some message)) ∧
      ∀ f ∈ fragments, ∃ bytes, f.encode = .ok bytes ∧ HandshakeFragment.parse bytes = .ok f) := by
  have hpush : ∀ fragments, (∀ f ∈ fragments, IsFragmentOf message f) →
      ∃ results r, pushAll fragments new = .ok results r ∧ results.length = fragments.length ∧
        ∀ i < fragments.length, results[i]? = some
          (if Covers message (fragments.take (i + 1)) then some message else none) := by
    intro fragments hfragments
    exact exists_ok_of_wp (pushAll_spec hsize hfragments (Or.inl ⟨rfl, rfl⟩))
  refine ⟨hpush, ?_⟩
  intro max hmax
  have hu24 : message.payload.length ≤ MAX_U24 := Nat.le_trans hsize (by decide)
  obtain ⟨fragments, hcut, hne, hslices, hcovers⟩ := message.fragment_spec hmax hu24
  refine ⟨fragments, hcut, ?_, fun f hf => (hslices f hf).parse_encode hu24⟩
  intro pushed hpushed
  obtain ⟨results, r, hrun, hlength, hresults⟩ :=
    hpush pushed fun f hf => hslices f ((hpushed f).mp hf)
  refine ⟨results, r, hrun, ?_⟩
  obtain ⟨f, hf⟩ := List.exists_mem_of_ne_nil fragments hne
  have hpos := List.length_pos_of_mem ((hpushed f).mpr hf)
  -- the last push is the one after which every fragment is there
  have hall : Covers message pushed := by
    intro position hposition
    obtain ⟨g, hg, hholds⟩ := hcovers position hposition
    exact ⟨g, (hpushed g).mpr hg, hholds⟩
  have hlast := hresults (pushed.length - 1) (by omega)
  rw [Nat.sub_add_cancel hpos, List.take_length, if_pos hall] at hlast
  rw [List.getLast?_eq_getElem?, hlength, hlast]

open HandshakeReassembler in
/-- A message in two overlapping slices, the later one first and repeated. -/
theorem fragments_reassemble_overlapping :
    ([1, 2, 3] : Bytes).length ≤ 65536 ∧
      ∃ fragments, (HandshakeMessage.mk .finished 4 [1, 2, 3]).fragment 2 = .ok fragments ∧
        ∃ results r, pushAll (fragments.reverse ++ fragments) new = .ok results r ∧
          results.getLast? = some (some ⟨.finished, 4, [1, 2, 3]⟩) := by
  refine ⟨by decide, ?_⟩
  obtain ⟨fragments, hcut, hpush, -⟩ :=
    (fragments_reassemble ⟨.finished, 4, [1, 2, 3]⟩ (by decide)).2 2 (by decide)
  refine ⟨fragments, hcut, hpush _ fun f => ?_⟩
  simp

end Meshcop.Dtls
