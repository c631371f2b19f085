/-
  Meshcop.Dtls.RejectedFragments — what a refused fragment leaves behind in the reassembler
  (`meshcop-dtls/src/handshake.rs`).

  `push` sets up its buffers before it has checked where the fragment lies, and writes byte by
  byte before it has checked them all.  A fragment that is refused late therefore has an
  effect.  Two states with different maps or metadata are told apart by one more push, so the
  effect is visible exactly if the state has changed.

  Main results:
    * `writeBytes_error`      — the copying loop, stopped by a conflict;
    * `push_error`            — the state a refused push leaves;
    * `rejected_fragment_iff` — when a refused push is as if it had not happened.
-/

import Meshcop.Dtls.Fragmentation

namespace Meshcop.Dtls

open Lib

namespace HandshakeReassembler

/-! ## §1. Pushes that may fail. -/

/-- The reassembler after pushes of any fragments, accepted or refused. -/
def reassembled (pushed : List HandshakeFragment) : HandshakeReassembler :=
  pushed.foldl (fun r fragment => stateOf (push fragment r)) new

/-- What each of a sequence of pushes returns; the sequence goes on after an error. -/
def outcomes : HandshakeReassembler → List HandshakeFragment →
    List (Except Error (Option HandshakeMessage))
  | _, [] => []
  | r, fragment :: fragments =>
    match push fragment r with
    | .ok result r => .ok result :: outcomes r fragments
    | .error e r => .error e :: outcomes r fragments

/-! ## §2. The parts of a push. -/

/-- The header is one that the reassembler goes on with. -/
def HeaderFits (r : HandshakeReassembler) (header : HandshakeHeader) : Prop :=
  match r.messageType, r.messageSeq with
  | none, none => header.length ≤ MAX_HANDSHAKE_MESSAGE_LEN
  | some messageType, some messageSeq =>
    messageType = header.messageType ∧ messageSeq = header.messageSeq ∧
      r.bytes.length = header.length
  | _, _ => False

/-- A byte that has arrived with another value. -/
def Conflicts (r : HandshakeReassembler) (position : Nat) (byte : UInt8) : Prop :=
  r.filled.getD position false = true ∧ r.bytes.getD position 0 ≠ byte

instance (r : HandshakeReassembler) (position : Nat) (byte : UInt8) :
    Decidable (r.Conflicts position byte) := inferInstanceAs (Decidable (_ ∧ _))

/-- Every byte in front of the first conflict has arrived before. -/
def KnownUntilConflict (r : HandshakeReassembler) : Nat → Bytes → Prop
  | _, [] => True
  | position, byte :: bytes =>
    r.Conflicts position byte ∨
      (r.filled.getD position false = true ∧ KnownUntilConflict r (position + 1) bytes)

/-- The fragment is refused before anything is written: by its header, or, once the buffers are
    set up, because it does not fit in them or because all it holds up to the first conflict is
    there already. -/
def LeavesNoTrace (r : HandshakeReassembler) (fragment : HandshakeFragment) : Prop :=
  ¬ r.HeaderFits fragment.header ∨
    (r.messageType.isSome = true ∧
      (r.bytes.length < fragment.header.fragmentOffset + fragment.fragment.length ∨
        r.KnownUntilConflict fragment.header.fragmentOffset fragment.fragment))

/-- The buffers for a message of this header. -/
def opened (header : HandshakeHeader) : HandshakeReassembler :=
  { messageType := some header.messageType, messageSeq := some header.messageSeq
    bytes := List.replicate header.length 0, filled := List.replicate header.length false }

/-- The buffers are not set up, or they have one map entry for each byte. -/
inductive Sized : HandshakeReassembler → Prop where
  | new : Sized new
  | begun (messageType : HandshakeType) (messageSeq : UInt16) {bytes : Bytes} {filled : List Bool}
      (h : filled.length = bytes.length) :
      Sized { messageType := some messageType, messageSeq := some messageSeq, bytes, filled }

/-! ## §3. The copying loop. -/

variable {r r' : HandshakeReassembler}

/-- The two states are buffers for the same message. -/
structure SameMessage (r r' : HandshakeReassembler) : Prop where
  messageType : r'.messageType = r.messageType
  messageSeq : r'.messageSeq = r.messageSeq
  bytes : r'.bytes.length = r.bytes.length
  filled : r'.filled.length = r.filled.length
  arrived : ∀ position, r.filled.getD position false = true → r'.filled.getD position false = true

theorem SameMessage.refl (r : HandshakeReassembler) : SameMessage r r :=
  ⟨rfl, rfl, rfl, rfl, fun _ h => h⟩

theorem SameMessage.trans {r'' : HandshakeReassembler} (h : SameMessage r r')
    (h' : SameMessage r' r'') : SameMessage r r'' :=
  ⟨h'.messageType.trans h.messageType, h'.messageSeq.trans h.messageSeq, h'.bytes.trans h.bytes,
    h'.filled.trans h.filled, fun position hfilled => h'.arrived position (h.arrived position hfilled)⟩

/-- One more position of the map is marked. -/
theorem getD_set_true (filled : List Bool) (position p : Nat) :
    (filled.set position true).getD p false =
      if p = position ∧ position < filled.length then true else filled.getD p false := by
  rw [List.getD_eq_getElem?_getD, List.getElem?_set, List.getD_eq_getElem?_getD]
  by_cases hp : position = p
  · subst hp
    by_cases hlt : position < filled.length
    · simp [hlt]
    · simp [hlt]
  · simp [hp, Ne.symm hp]

/-- The state after a byte was written. -/
def written (r : HandshakeReassembler) (position : Nat) (byte : UInt8) : HandshakeReassembler :=
  { r with bytes := r.bytes.set position byte, filled := r.filled.set position true }

theorem sameMessage_written (r : HandshakeReassembler) (position : Nat) (byte : UInt8) :
    SameMessage r (r.written position byte) := by
  refine ⟨rfl, rfl, List.length_set, List.length_set, ?_⟩
  intro p hfilled
  show (r.filled.set position true).getD p false = true
  rw [getD_set_true, hfilled]
  exact ite_self true

theorem writeByte_eq (r : HandshakeReassembler) (position : Nat) (byte : UInt8) :
    writeByte position byte r =
      if r.Conflicts position byte then
        .error (.crypto "DTLS handshake fragment overlaps with different data") r
      else .ok () (r.written position byte) := by
  show (if r.Conflicts position byte then _ else _ : EStateM Error HandshakeReassembler Unit) r = _
  by_cases hconflict : r.Conflicts position byte
  · rw [if_pos hconflict, if_pos hconflict]
    rfl
  · rw [if_neg hconflict, if_neg hconflict]
    rfl

theorem writeBytes_cons_eq (r : HandshakeReassembler) (position : Nat) (byte : UInt8)
    (bytes : Bytes) : writeBytes position (byte :: bytes) r =
      if r.Conflicts position byte then
        .error (.crypto "DTLS handshake fragment overlaps with different data") r
      else writeBytes (position + 1) bytes (r.written position byte) := by
  show EStateM.bind (writeByte position byte) (fun _ => writeBytes (position + 1) bytes) r = _
  unfold EStateM.bind
  rw [writeByte_eq]
  by_cases hconflict : r.Conflicts position byte
  · rw [if_pos hconflict, if_pos hconflict]
  · rw [if_neg hconflict, if_neg hconflict]

theorem writeBytes_sameMessage (bytes : Bytes) : ∀ (position : Nat) (r : HandshakeReassembler),
      SameMessage r (stateOf (writeBytes position bytes r)) := by
  induction bytes with
  | nil => exact fun _ r => SameMessage.refl r
  | cons byte bytes ih =>
    intro position r
    rw [writeBytes_cons_eq]
    by_cases hconflict : r.Conflicts position byte
    · rw [if_pos hconflict]
      exact SameMessage.refl r
    · rw [if_neg hconflict]
      exact (sameMessage_written r position byte).trans (ih (position + 1) _)

/-- A byte that is there with the same value is written in place. -/
theorem written_of_arrived {position : Nat} {byte : UInt8} (hsize : position < r.bytes.length)
    (hfilled : r.filled.getD position false = true) (hbyte : r.bytes.getD position 0 = byte) :
    r.written position byte = r := by
  have hmap : position < r.filled.length := by
    by_contra hout
    rw [List.getD_eq_getElem?_getD, List.getElem?_eq_none (by omega)] at hfilled
    cases hfilled
  have hb : r.bytes.set position byte = r.bytes := by
    rw [← hbyte, List.getD_eq_getElem?_getD, List.getElem?_eq_getElem hsize]
    exact List.set_getElem_self hsize
  have hf : r.filled.set position true = r.filled := by
    rw [List.getD_eq_getElem?_getD, List.getElem?_eq_getElem hmap] at hfilled
    conv_lhs => rw [← (show r.filled[position] = true from hfilled)]
    exact List.set_getElem_self hmap
  unfold written
  rw [hb, hf]

/-- **The copying loop, stopped by a conflict.**  Either all bytes in front of the conflict were
    there and the state is the old one, or a position is marked that was not. -/
theorem writeBytes_error {bytes : Bytes} {e : Error} :
    ∀ {position : Nat} {r r' : HandshakeReassembler}, r.filled.length = r.bytes.length →
      position + bytes.length ≤ r.bytes.length → writeBytes position bytes r = .error e r' →
      (r.KnownUntilConflict position bytes ∧ r' = r) ∨
        (¬ r.KnownUntilConflict position bytes ∧ ∃ p < r.bytes.length,
          r.filled.getD p false = false ∧ r'.filled.getD p false = true) := by
  induction bytes with
  | nil =>
    intro position r r' _ _ h
    cases h
  | cons byte bytes ih =>
    intro position r r' hmap hsize h
    rw [List.length_cons] at hsize
    have hposition : position < r.bytes.length := by omega
    rw [writeBytes_cons_eq] at h
    by_cases hconflict : r.Conflicts position byte
    · rw [if_pos hconflict] at h
      cases h
      exact Or.inl ⟨Or.inl hconflict, rfl⟩
    rw [if_neg hconflict] at h
    by_cases hfilled : r.filled.getD position false = true
    · -- the byte is there already, so the loop goes on from the same state
      have hbyte : r.bytes.getD position 0 = byte := by
        by_contra hdiffers
        exact hconflict ⟨hfilled, hdiffers⟩
      rw [written_of_arrived hposition hfilled hbyte] at h
      have hknown : r.KnownUntilConflict position (byte :: bytes) ↔
          r.KnownUntilConflict (position + 1) bytes := by
        constructor
        · intro hknown
          exact (hknown.resolve_left hconflict).2
        · intro hknown
          exact Or.inr ⟨hfilled, hknown⟩
      rw [hknown]
      exact ih hmap (by omega) h
    · -- the byte is new: it stays marked, whatever follows
      right
      have hnew : r.filled.getD position false = false := by simpa using hfilled
      refine ⟨?_, position, hposition, hnew, ?_⟩
      · intro hknown
        rcases hknown with hknown | hknown
        · exact hconflict hknown
        · exact hfilled hknown.1
      · have hsame := writeBytes_sameMessage bytes (position + 1) (r.written position byte)
        rw [h] at hsame
        apply hsame.arrived
        show (r.filled.set position true).getD position false = true
        rw [getD_set_true, if_pos ⟨rfl, by omega⟩]

/-! ## §4. A push that is refused. -/

/-- The state `initializeOrValidate` goes on with. -/
def prepared (r : HandshakeReassembler) (header : HandshakeHeader) : HandshakeReassembler :=
  if r.messageType.isSome then r else opened header

theorem initializeOrValidate_of_fits (hr : Sized r) {header : HandshakeHeader}
    (h : r.HeaderFits header) : initializeOrValidate header r = .ok () (r.prepared header) := by
  apply eq_ok_of_wp
  simp only [initializeOrValidate, wp_bind, wp_get]
  cases hr with
  | new =>
    have hlength : ¬ header.length > MAX_HANDSHAKE_MESSAGE_LEN := Nat.not_lt.mpr h
    simp only [new]
    rw [if_neg hlength]
    exact ⟨trivial, rfl⟩
  | begun messageType messageSeq hsize =>
    simp only [HeaderFits] at h
    dsimp only
    rw [if_pos h]
    exact ⟨trivial, rfl⟩

theorem initializeOrValidate_of_not_fits (hr : Sized r) {header : HandshakeHeader}
    (h : ¬ r.HeaderFits header) : ∃ e, initializeOrValidate header r = .error e r := by
  have hfails : wp (initializeOrValidate header) (fun _ _ => False) (fun _ r' => r' = r) r := by
    simp only [initializeOrValidate, wp_bind, wp_get]
    cases hr with
    | new =>
      have hlength : header.length > MAX_HANDSHAKE_MESSAGE_LEN := Nat.not_le.mp h
      simp only [new]
      rw [if_pos hlength]
      rfl
    | begun messageType messageSeq hsize =>
      simp only [HeaderFits] at h
      dsimp only
      rw [if_neg h]
      rfl
  obtain ⟨e, _, he, rfl⟩ := exists_error_of_wp hfails
  exact ⟨e, he⟩

theorem sized_prepared (hr : Sized r) (header : HandshakeHeader) :
    Sized (r.prepared header) ∧ (r.prepared header).messageType.isSome = true := by
  cases hr with
  | new =>
    refine ⟨.begun header.messageType header.messageSeq ?_, rfl⟩
    rw [List.length_replicate, List.length_replicate]
  | begun messageType messageSeq hsize => exact ⟨.begun messageType messageSeq hsize, rfl⟩

/-- Buffers that are set up have a type and a number, and one map entry for each byte. -/
theorem Sized.begun_of_isSome (hr : Sized r) (h : r.messageType.isSome = true) :
    ∃ messageType messageSeq, r.messageType = some messageType ∧
      r.messageSeq = some messageSeq ∧ r.filled.length = r.bytes.length := by
  cases hr with
  | new => cases h
  | begun messageType messageSeq hsize => exact ⟨messageType, messageSeq, rfl, rfl, hsize⟩

theorem Sized.of_sameMessage (hr : Sized r) (hbegun : r.messageType.isSome = true)
    (h : SameMessage r r') : Sized r' := by
  obtain ⟨messageType, messageSeq, htype, hseq, hsize⟩ := hr.begun_of_isSome hbegun
  obtain ⟨type', seq', bytes', filled'⟩ := r'
  have htype' : type' = some messageType := h.messageType.trans htype
  have hseq' : seq' = some messageSeq := h.messageSeq.trans hseq
  subst htype' hseq'
  exact .begun messageType messageSeq (h.filled.trans (hsize.trans h.bytes.symm))

/-- The end of a push: the message is handed out once the map is full. -/
def handOut : EStateM Error HandshakeReassembler (Option HandshakeMessage) := do
  let r ← get
  if r.filled.all id then
    match r.messageType, r.messageSeq with
    | some messageType, some messageSeq =>
      return some { messageType, messageSeq, payload := r.bytes }
    | none, _ => throw (.crypto "missing handshake type")
    | _, none => throw (.crypto "missing handshake sequence")
  else return none

/-- A push after its header was accepted. -/
def place (fragment : HandshakeFragment) :
    EStateM Error HandshakeReassembler (Option HandshakeMessage) := do
  let r ← get
  let start := fragment.header.fragmentOffset
  if start + fragment.fragment.length > r.bytes.length then
    throw (.crypto "DTLS handshake fragment exceeds message length")
  else
    writeBytes start fragment.fragment
    handOut

theorem push_of_fits (hr : Sized r) {fragment : HandshakeFragment}
    (h : r.HeaderFits fragment.header) :
    push fragment r = place fragment (r.prepared fragment.header) := by
  show EStateM.bind (initializeOrValidate fragment.header) (fun _ => place fragment) r = _
  unfold EStateM.bind
  rw [initializeOrValidate_of_fits hr h]

theorem push_of_not_fits (hr : Sized r) {fragment : HandshakeFragment}
    (h : ¬ r.HeaderFits fragment.header) : ∃ e, push fragment r = .error e r := by
  obtain ⟨e, he⟩ := initializeOrValidate_of_not_fits hr h
  refine ⟨e, ?_⟩
  show EStateM.bind (initializeOrValidate fragment.header) (fun _ => place fragment) r = _
  unfold EStateM.bind
  rw [he]

/-- A fragment that does not fit in the buffers is refused at once. -/
theorem place_outside {fragment : HandshakeFragment}
    (h : fragment.header.fragmentOffset + fragment.fragment.length > r.bytes.length) :
    place fragment r = .error (.crypto "DTLS handshake fragment exceeds message length") r := by
  show (if _ then _ else _ : EStateM Error HandshakeReassembler (Option HandshakeMessage)) r = _
  rw [if_pos h]
  rfl

/-- A fragment that fits is refused exactly by the copying loop. -/
theorem place_inside (hr : Sized r) (hbegun : r.messageType.isSome = true)
    {fragment : HandshakeFragment}
    (h : ¬ fragment.header.fragmentOffset + fragment.fragment.length > r.bytes.length) :
    match writeBytes fragment.header.fragmentOffset fragment.fragment r with
    | .ok _ r₁ => ∃ result, place fragment r = .ok result r₁
    | .error e r₁ => place fragment r = .error e r₁ := by
  have hplace : place fragment r =
      EStateM.bind (writeBytes fragment.header.fragmentOffset fragment.fragment)
        (fun _ => handOut) r := by
    show (if _ then _ else _ : EStateM Error HandshakeReassembler (Option HandshakeMessage)) r = _
    rw [if_neg h]
    rfl
  have hsame := writeBytes_sameMessage fragment.fragment fragment.header.fragmentOffset r
  obtain ⟨messageType, messageSeq, htype, hseq, -⟩ := hr.begun_of_isSome hbegun
  rw [hplace]
  unfold EStateM.bind
  cases hwrite : writeBytes fragment.header.fragmentOffset fragment.fragment r with
  | error e r₁ => rfl
  | ok _ r₁ =>
    rw [hwrite] at hsame
    have htype₁ : r₁.messageType = some messageType := hsame.messageType.trans htype
    have hseq₁ : r₁.messageSeq = some messageSeq := hsame.messageSeq.trans hseq
    -- the type and the number are there, so the message can be handed out
    have hreturns : wp handOut (fun _ r₂ => r₂ = r₁) (fun _ _ => False) r₁ := by
      simp only [handOut, wp_bind, wp_get, htype₁, hseq₁]
      split
      · rfl
      · rfl
    obtain ⟨result, _, hresult, rfl⟩ := exists_ok_of_wp hreturns
    exact ⟨result, hresult⟩

/-- A fragment whose header fits is refused because it lies outside, or by the copying loop. -/
theorem place_error (hr : Sized r) (hbegun : r.messageType.isSome = true)
    {fragment : HandshakeFragment} {e : Error} (h : place fragment r = .error e r') :
    (r.bytes.length < fragment.header.fragmentOffset + fragment.fragment.length ∧ r' = r) ∨
      (fragment.header.fragmentOffset + fragment.fragment.length ≤ r.bytes.length ∧
        writeBytes fragment.header.fragmentOffset fragment.fragment r = .error e r') := by
  by_cases houtside : fragment.header.fragmentOffset + fragment.fragment.length > r.bytes.length
  · rw [place_outside houtside] at h
    cases h
    exact Or.inl ⟨houtside, rfl⟩
  have hplace := place_inside hr hbegun houtside
  cases hwrite : writeBytes fragment.header.fragmentOffset fragment.fragment r with
  | ok _ r₁ =>
    rw [hwrite] at hplace
    obtain ⟨result, hresult⟩ := hplace
    cases hresult.symm.trans h
  | error e₁ r₁ =>
    rw [hwrite] at hplace
    dsimp only at hplace
    cases hplace.symm.trans h
    exact Or.inr ⟨Nat.not_lt.mp houtside, rfl⟩

/-- Placing a fragment keeps the buffers those of the message. -/
theorem place_sameMessage (hr : Sized r) (hbegun : r.messageType.isSome = true)
    (fragment : HandshakeFragment) : SameMessage r (stateOf (place fragment r)) := by
  by_cases houtside : fragment.header.fragmentOffset + fragment.fragment.length > r.bytes.length
  · rw [place_outside houtside]
    exact SameMessage.refl r
  have hplace := place_inside hr hbegun houtside
  have hsame := writeBytes_sameMessage fragment.fragment fragment.header.fragmentOffset r
  cases hwrite : writeBytes fragment.header.fragmentOffset fragment.fragment r with
  | ok _ r₁ =>
    rw [hwrite] at hplace hsame
    obtain ⟨result, hresult⟩ := hplace
    rw [hresult]
    exact hsame
  | error e r₁ =>
    rw [hwrite] at hplace hsame
    dsimp only at hplace
    rw [hplace]
    exact hsame

theorem push_sized (hr : Sized r) (fragment : HandshakeFragment) :
    Sized (stateOf (push fragment r)) := by
  by_cases hfits : r.HeaderFits fragment.header
  · rw [push_of_fits hr hfits]
    obtain ⟨hprepared, hbegun⟩ := sized_prepared hr fragment.header
    exact hprepared.of_sameMessage hbegun (place_sameMessage hprepared hbegun fragment)
  · obtain ⟨e, he⟩ := push_of_not_fits hr hfits
    rw [he]
    exact hr

theorem sized_reassembled (pushed : List HandshakeFragment) : Sized (reassembled pushed) := by
  have hfold : ∀ r, Sized r →
      Sized (pushed.foldl (fun r fragment => stateOf (push fragment r)) r) := by
    induction pushed with
    | nil => exact fun _ h => h
    | cons fragment pushed ih => exact fun r h => ih _ (push_sized h fragment)
  exact hfold new .new

/-! ## §5. Telling two states apart. -/

/-- Buffers that are set up refuse the empty message with the next number; a new reassembler
    returns it. -/
theorem outcomes_ne_of_begun (hr : Sized r) {messageSeq : UInt16}
    (hbegun : r.messageType.isSome = true) (hseq : r.messageSeq = some messageSeq) :
    ∃ later, outcomes r later ≠ outcomes new later := by
  let probe : HandshakeFragment :=
    { header := { messageType := .finished, length := 0, messageSeq := messageSeq + 1
                  fragmentOffset := 0, fragmentLength := 0 }
      fragment := [] }
  have hrefused : ¬ r.HeaderFits probe.header := by
    obtain ⟨messageType, messageSeq', htype, hseq', -⟩ := hr.begun_of_isSome hbegun
    have hsame : messageSeq' = messageSeq := Option.some.inj (hseq'.symm.trans hseq)
    unfold HeaderFits
    rw [htype, hseq']
    intro hfits
    have hnext : messageSeq' = messageSeq + 1 := hfits.2.1
    rw [hsame] at hnext
    have hvalues := congrArg UInt16.toNat hnext
    have hbound := messageSeq.toNat_lt
    rw [UInt16.toNat_add, show (1 : UInt16).toNat = 1 from rfl] at hvalues
    omega
  obtain ⟨e, he⟩ := push_of_not_fits hr hrefused
  have hnew : outcomes new [probe] = [.ok (some ⟨.finished, messageSeq + 1, []⟩)] := rfl
  refine ⟨[probe], ?_⟩
  rw [hnew]
  unfold outcomes
  rw [he]
  intro hequal
  cases hequal

/-- A fragment of one byte for the message that the buffers are set up for. -/
def oneByte (r : HandshakeReassembler) (messageType : HandshakeType) (messageSeq : UInt16)
    (position : Nat) (byte : UInt8) : HandshakeFragment where
  header := { messageType, length := r.bytes.length, messageSeq, fragmentOffset := position
              fragmentLength := 1 }
  fragment := [byte]

/-- One byte is refused if another has arrived in its place, and taken otherwise. -/
theorem push_oneByte (hr : Sized r) {messageType : HandshakeType} {messageSeq : UInt16}
    (htype : r.messageType = some messageType) (hseq : r.messageSeq = some messageSeq)
    {position : Nat} (hposition : position < r.bytes.length) (byte : UInt8) :
    if r.Conflicts position byte then
      ∃ e, push (r.oneByte messageType messageSeq position byte) r = .error e r
    else
      ∃ result r₁, push (r.oneByte messageType messageSeq position byte) r = .ok result r₁ := by
  have hbegun : r.messageType.isSome = true := by
    rw [htype]
    rfl
  have hfits : r.HeaderFits (r.oneByte messageType messageSeq position byte).header := by
    unfold HeaderFits
    rw [htype, hseq]
    exact ⟨rfl, rfl, rfl⟩
  have hprepared : r.prepared (r.oneByte messageType messageSeq position byte).header = r :=
    if_pos hbegun
  have hplace := place_inside hr hbegun
    (show ¬ (r.oneByte messageType messageSeq position byte).header.fragmentOffset +
        (r.oneByte messageType messageSeq position byte).fragment.length > r.bytes.length from
      Nat.not_lt.mpr hposition)
  rw [push_of_fits hr hfits, hprepared]
  have hwrite : writeBytes position [byte] r = _ := writeBytes_cons_eq r position byte []
  have hplace : match writeBytes position [byte] r with
      | .ok _ r₁ => ∃ result,
        place (r.oneByte messageType messageSeq position byte) r = .ok result r₁
      | .error e r₁ => place (r.oneByte messageType messageSeq position byte) r = .error e r₁ :=
    hplace
  rw [hwrite] at hplace
  by_cases hconflict : r.Conflicts position byte
  · rw [if_pos hconflict] at hplace ⊢
    exact ⟨_, hplace⟩
  · rw [if_neg hconflict] at hplace ⊢
    obtain ⟨result, hresult⟩ := hplace
    exact ⟨result, _, hresult⟩

/-- A byte other than the one that has arrived is refused, and is taken where none has. -/
theorem outcomes_ne_of_arrived (hr : Sized r) (hbegun : r.messageType.isSome = true)
    (hsame : SameMessage r r') {position : Nat} (hposition : position < r.bytes.length)
    (hempty : r.filled.getD position false = false)
    (harrived : r'.filled.getD position false = true) :
    ∃ later, outcomes r' later ≠ outcomes r later := by
  obtain ⟨messageType, messageSeq, htype, hseq, -⟩ := hr.begun_of_isSome hbegun
  have hfree : ¬ r.Conflicts position (r'.bytes.getD position 0 + 1) := by
    intro hconflict
    exact absurd (hempty.symm.trans hconflict.1) Bool.false_ne_true
  have hconflict : r'.Conflicts position (r'.bytes.getD position 0 + 1) := by
    refine ⟨harrived, fun hequal => ?_⟩
    generalize r'.bytes.getD position 0 = byte at hequal
    have hvalues := congrArg UInt8.toNat hequal
    have hbound := byte.toNat_lt
    rw [UInt8.toNat_add, show (1 : UInt8).toNat = 1 from rfl] at hvalues
    omega
  have htaken := push_oneByte hr htype hseq hposition (r'.bytes.getD position 0 + 1)
  have hrefused := push_oneByte (hr.of_sameMessage hbegun hsame) (hsame.messageType.trans htype)
    (hsame.messageSeq.trans hseq) (hsame.bytes.symm ▸ hposition) (r'.bytes.getD position 0 + 1)
  rw [if_neg hfree] at htaken
  rw [if_pos hconflict] at hrefused
  have hprobe : r'.oneByte messageType messageSeq position (r'.bytes.getD position 0 + 1) =
      r.oneByte messageType messageSeq position (r'.bytes.getD position 0 + 1) := by
    unfold oneByte
    rw [hsame.bytes]
  rw [hprobe] at hrefused
  obtain ⟨result, r₁, htaken⟩ := htaken
  obtain ⟨e, hrefused⟩ := hrefused
  refine ⟨[r.oneByte messageType messageSeq position (r'.bytes.getD position 0 + 1)], ?_⟩
  unfold outcomes
  rw [htaken, hrefused]
  intro hequal
  cases hequal

/-! ## §6. When a refused fragment has no effect. -/

/-- **A refused fragment.**  After pushes of any fragments, accepted or refused, a push that
    returns an error is as if it had not happened (every later sequence of pushes gives the
    same results) exactly if the fragment was refused before anything was written. -/
theorem rejected_fragment_iff (pushed : List HandshakeFragment) (fragment : HandshakeFragment)
    {e : Error} {r' : HandshakeReassembler}
    (h : push fragment (reassembled pushed) = .error e r') :
    (∀ later, outcomes r' later = outcomes (reassembled pushed) later) ↔
      (reassembled pushed).LeavesNoTrace fragment := by
  have hr := sized_reassembled pushed
  generalize reassembled pushed = r at hr h ⊢
  by_cases hfits : r.HeaderFits fragment.header
  · rw [push_of_fits hr hfits] at h
    obtain ⟨hprepared, hbegun⟩ := sized_prepared hr fragment.header
    have hsame := place_sameMessage hprepared hbegun fragment
    rw [h] at hsame
    by_cases hset : r.messageType.isSome = true
    · have hunchanged : r.prepared fragment.header = r := if_pos hset
      rw [hunchanged] at h hsame
      rcases place_error hr hset h with ⟨houtside, rfl⟩ | ⟨hinside, hwrite⟩
      · exact ⟨fun _ => Or.inr ⟨hset, Or.inl houtside⟩, fun _ _ => rfl⟩
      obtain ⟨-, -, -, -, hsize⟩ := hr.begun_of_isSome hset
      rcases writeBytes_error hsize hinside hwrite with
        ⟨hknown, rfl⟩ | ⟨hunknown, position, hposition, hempty, harrived⟩
      · exact ⟨fun _ => Or.inr ⟨hset, Or.inr hknown⟩, fun _ _ => rfl⟩
      obtain ⟨later, hlater⟩ := outcomes_ne_of_arrived hr hset hsame hposition hempty harrived
      constructor
      · intro hall
        exact absurd (hall later) hlater
      · intro htrace
        rcases htrace with hrefused | ⟨-, houtside | hknown⟩
        · exact absurd hfits hrefused
        · omega
        · exact absurd hknown hunknown
    · -- the refused fragment was the first one, and the buffers are set up for its message now
      have hopened : r.prepared fragment.header = opened fragment.header := if_neg hset
      have hfresh : r = new := by
        cases hr with
        | new => rfl
        | begun messageType messageSeq hsize => exact absurd rfl hset
      rw [hopened] at hsame hprepared hbegun
      obtain ⟨later, hlater⟩ := outcomes_ne_of_begun (hprepared.of_sameMessage hbegun hsame)
        (by rw [hsame.messageType]; rfl) hsame.messageSeq
      constructor
      · intro hall
        rw [← hfresh] at hlater
        exact absurd (hall later) hlater
      · intro htrace
        rcases htrace with hrefused | ⟨hsome, -⟩
        · exact absurd hfits hrefused
        · exact absurd hsome hset
  · obtain ⟨e', he'⟩ := push_of_not_fits hr hfits
    cases he'.symm.trans h
    exact ⟨fun _ => Or.inl hfits, fun _ _ => rfl⟩

/-- A slice of a message of three bytes. -/
def slice (offset : Nat) (bytes : Bytes) : HandshakeFragment where
  header := { messageType := .finished, length := 3, messageSeq := 4, fragmentOffset := offset
              fragmentLength := bytes.length }
  fragment := bytes

/-- After the last byte has arrived, a forged slice that disagrees with it is refused; its two
    other bytes stay, and the rest of the message is refused too. -/
theorem rejected_fragment_stays :
    outcomes new [slice 2 [3], slice 0 [9, 9, 9], slice 0 [1, 2]] =
        [.ok none, .error (.crypto "DTLS handshake fragment overlaps with different data"),
          .error (.crypto "DTLS handshake fragment overlaps with different data")] ∧
      outcomes new [slice 2 [3], slice 0 [1, 2]] =
        [.ok none, .ok (some ⟨.finished, 4, [1, 2, 3]⟩)] := by
  decide

/-- A slice whose first byte is the conflicting one changes nothing. -/
theorem rejected_fragment_iff_first :
    ∃ e r', push (slice 2 [9]) (reassembled [slice 2 [3]]) = .error e r' ∧
      ∀ later, outcomes r' later = outcomes (reassembled [slice 2 [3]]) later := by
  have hrefused : push (slice 2 [9]) (reassembled [slice 2 [3]]) =
      .error (.crypto "DTLS handshake fragment overlaps with different data")
        (reassembled [slice 2 [3]]) := rfl
  refine ⟨_, _, hrefused, (rejected_fragment_iff [slice 2 [3]] (slice 2 [9]) hrefused).mpr ?_⟩
  exact Or.inr ⟨rfl, Or.inr (Or.inl (by decide))⟩

end HandshakeReassembler

end Meshcop.Dtls
