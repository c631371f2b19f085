/-
  Meshcop.Dtls.HandshakeCodec — handshake messages packed into records, and transcripts
  (`meshcop-dtls/src/handshake.rs`).

  Three parsers read handshake messages: one for a fragment, one for a record with a single
  message, one for a record with several; two encoders write them, one for the wire and one for
  the transcript.  A message that is written whole is a delimited item of a byte stream, so the
  parser of several messages is exact, the parser of a single message is its special case, and
  the transcript can be read in one way only.

  Main results:
    * `parseMessage_delimited`    — one message off the front of the input;
    * `parseMessages_eq_ok_iff`   — the messages of a record;
    * `handshake_packing_exact`.
-/

import Meshcop.Dtls.Handshake
import Meshcop.Lib.Streams

namespace Meshcop.Dtls

open Lib

/-! ## §1. Headers and fragments. -/

theorem HandshakeType.toByte_of_tryFrom {value : UInt8} {type : HandshakeType}
    (h : tryFrom value = .ok type) : type.toByte = value := by
  unfold tryFrom at h
  repeat' split at h
  all_goals cases h
  all_goals (rename_i hvalue; exact hvalue.symm)

/-- A header that was read is the twelve bytes at the front of the input. -/
theorem HandshakeHeader.bytes_of_parse {input : Bytes} {header : HandshakeHeader}
    (h : HandshakeHeader.parse input = .ok header) :
    header.validate = .ok () ∧ ∃ rest, input = header.bytes ++ rest := by
  unfold HandshakeHeader.parse at h
  split at h
  · rename_i t l0 l1 l2 s0 s1 o0 o1 o2 f0 f1 f2 rest
    obtain ⟨type, htype, h⟩ := bind_eq_ok.mp h
    obtain ⟨⟨⟩, hvalid, h⟩ := bind_eq_ok.mp h
    cases h
    have hlt : ofBE [s0, s1] < 256 ^ 2 := ofBE_lt [s0, s1]
    have hseq : (UInt16.ofNat (ofBE [s0, s1])).toNat = ofBE [s0, s1] := by
      rw [UInt16.toNat_ofNat', Nat.mod_eq_of_lt (Nat.lt_of_lt_of_eq hlt (by decide))]
    refine ⟨hvalid, rest, ?_⟩
    show _ = type.toByte :: (toBE 3 (ofBE [l0, l1, l2]) ++
      (toBE 2 (UInt16.ofNat (ofBE [s0, s1])).toNat ++
        (toBE 3 (ofBE [o0, o1, o2]) ++ toBE 3 (ofBE [f0, f1, f2])))) ++ rest
    rw [HandshakeType.toByte_of_tryFrom htype, hseq,
      show toBE 3 (ofBE [l0, l1, l2]) = [l0, l1, l2] from toBE_ofBE [l0, l1, l2],
      show toBE 2 (ofBE [s0, s1]) = [s0, s1] from toBE_ofBE [s0, s1],
      show toBE 3 (ofBE [o0, o1, o2]) = [o0, o1, o2] from toBE_ofBE [o0, o1, o2],
      show toBE 3 (ofBE [f0, f1, f2]) = [f0, f1, f2] from toBE_ofBE [f0, f1, f2]]
    rfl
  · cases h

/-- A fragment that was read is its header and as many bytes as the header says. -/
theorem HandshakeFragment.bytes_of_parse {input : Bytes} {fragment : HandshakeFragment}
    (h : HandshakeFragment.parse input = .ok fragment) : fragment.header.validate = .ok () ∧
      fragment.fragment.length = fragment.header.fragmentLength ∧
      ∃ rest, input = fragment.header.bytes ++ (fragment.fragment ++ rest) := by
  obtain ⟨header, hheader, h⟩ := bind_eq_ok.mp h
  obtain ⟨hvalid, behind, rfl⟩ := HandshakeHeader.bytes_of_parse hheader
  by_cases hshort : (header.bytes ++ behind).length < HandshakeHeader.LEN + header.fragmentLength
  · rw [if_pos hshort] at h
    cases h
  rw [if_neg hshort] at h
  cases h
  have hlong : header.fragmentLength ≤ behind.length := by
    rw [List.length_append, HandshakeHeader.length_bytes] at hshort
    omega
  have hcut : ((header.bytes ++ behind).take
      (HandshakeHeader.LEN + header.fragmentLength)).drop HandshakeHeader.LEN =
      behind.take header.fragmentLength := by
    rw [← HandshakeHeader.length_bytes header, List.take_length_add_append, List.drop_left]
  refine ⟨hvalid, ?_, behind.drop header.fragmentLength, ?_⟩
  · show (List.drop _ (List.take _ _)).length = header.fragmentLength
    rw [hcut, List.length_take]
    omega
  · show _ = header.bytes ++ (List.drop _ (List.take _ _) ++ _)
    rw [hcut, List.take_append_drop]

/-! ## §2. One message. -/

namespace HandshakeMessage

variable {message : HandshakeMessage}

theorem wholeHeader_validate_iff :
    message.wholeHeader.validate = .ok () ↔ message.payload.length ≤ MAX_U24 := by
  have hinside : ¬ 0 + message.payload.length > message.payload.length := by omega
  unfold HandshakeHeader.validate wholeHeader
  dsimp only
  by_cases hsize : message.payload.length ≤ MAX_U24
  · rw [if_neg (by omega), if_neg hinside]
    exact ⟨fun _ => hsize, fun _ => rfl⟩
  · rw [if_pos (by omega)]
    exact ⟨(fun h => by cases h), fun h => absurd h hsize⟩

theorem not_cut (message : HandshakeMessage) : ¬ (message.wholeHeader.fragmentOffset ≠ 0
      ∨ message.wholeHeader.fragmentLength ≠ message.wholeHeader.length) := by
  simp [wholeHeader]

/-- **Both encoders** write the whole header and the body, if the body fits. -/
theorem transcriptBytes_eq_ok_iff {bytes : Bytes} : message.transcriptBytes = .ok bytes ↔
      message.payload.length ≤ MAX_U24 ∧ bytes = message.wholeHeader.bytes ++ message.payload := by
  constructor
  · intro h
    obtain ⟨hvalid, hbytes⟩ := transcriptBytes_eq_ok h
    exact ⟨wholeHeader_validate_iff.mp hvalid, hbytes⟩
  · rintro ⟨hsize, rfl⟩
    have hlength : message.payload.length < 2 ^ 32 := Nat.lt_of_le_of_lt hsize (by decide)
    unfold transcriptBytes HandshakeHeader.encode
    rw [if_pos hlength, wholeHeader_validate_iff.mpr hsize]
    rfl

/-- A body that fits can be cut. -/
theorem fragment_of_le (hsize : message.payload.length ≤ MAX_U24) :
    ∃ fragments, message.fragment (max message.payload.length 1) = .ok fragments := by
  unfold fragment
  rw [if_neg (by omega), if_neg (by omega)]
  cases fragmentsFrom message (max message.payload.length 1) message.payload.length 0
    message.payload with
  | nil => exact ⟨_, rfl⟩
  | cons first rest => exact ⟨_, rfl⟩

theorem encode_eq_ok_iff {bytes : Bytes} : message.encode = .ok bytes ↔
      message.payload.length ≤ MAX_U24 ∧ bytes = message.wholeHeader.bytes ++ message.payload := by
  constructor
  · intro h
    exact transcriptBytes_eq_ok_iff.mp (encode_eq_transcriptBytes h)
  · rintro ⟨hsize, rfl⟩
    obtain ⟨fragments, hfragments⟩ := fragment_of_le hsize
    obtain ⟨-, rest, rfl⟩ := fragment_whole hfragments
    unfold encode HandshakeFragment.encode HandshakeHeader.encode
    rw [hfragments]
    show (if message.payload.length ≠ message.payload.length then _ else _) = _
    rw [if_neg (not_not_intro rfl), wholeHeader_validate_iff.mpr hsize]
    rfl

end HandshakeMessage

/-- One turn of the loop of `parse_unfragmented_handshake_messages`. -/
def parseMessage (input : Bytes) : Except Error (HandshakeMessage × Bytes) := do
  let fragment ← HandshakeFragment.parse input
  if fragment.header.fragmentOffset ≠ 0
      ∨ fragment.header.fragmentLength ≠ fragment.header.length then
    .error (.crypto "DTLS handshake message is fragmented")
  else
    return ({ messageType := fragment.header.messageType
              messageSeq := fragment.header.messageSeq
              payload := fragment.fragment },
      input.drop (HandshakeHeader.LEN + fragment.fragment.length))

/-- A fragment that is the whole of its message. -/
theorem wholeHeader_of_unfragmented {fragment : HandshakeFragment}
    (hlength : fragment.fragment.length = fragment.header.fragmentLength)
    (h : ¬ (fragment.header.fragmentOffset ≠ 0 ∨
      fragment.header.fragmentLength ≠ fragment.header.length)) :
    HandshakeMessage.wholeHeader ⟨fragment.header.messageType, fragment.header.messageSeq,
      fragment.fragment⟩ = fragment.header := by
  obtain ⟨⟨type, length, seq, offset, fragmentLength⟩, bytes⟩ := fragment
  simp only [not_or, not_not] at h
  dsimp only at hlength h
  obtain ⟨rfl, rfl⟩ := h
  unfold HandshakeMessage.wholeHeader
  rw [hlength]

/-- **One message off the front of the input.** -/
theorem parseMessage_delimited :
    Delimited parseMessage (fun message written => message.encode = .ok written) where
  reads := by
    intro message written rest h
    obtain ⟨hsize, rfl⟩ := HandshakeMessage.encode_eq_ok_iff.mp h
    have hparse := HandshakeMessage.parse_whole
      (HandshakeMessage.wholeHeader_validate_iff.mpr hsize) rest
    have hdrop : (message.wholeHeader.bytes ++ (message.payload ++ rest)).drop
        (HandshakeHeader.LEN + message.payload.length) = rest := by
      rw [← List.append_assoc, ← HandshakeHeader.length_bytes message.wholeHeader,
        ← List.length_append, List.drop_left]
    unfold parseMessage
    rw [List.append_assoc, hparse]
    show (if message.wholeHeader.fragmentOffset ≠ 0
      ∨ message.wholeHeader.fragmentLength ≠ message.wholeHeader.length then _ else _) = _
    rw [if_neg message.not_cut]
    exact congrArg (fun behind => Except.ok (message, behind)) hdrop
  sound := by
    intro input message rest h
    obtain ⟨fragment, hfragment, h⟩ := bind_eq_ok.mp h
    obtain ⟨hvalid, hlength, behind, rfl⟩ := HandshakeFragment.bytes_of_parse hfragment
    by_cases hcut : fragment.header.fragmentOffset ≠ 0
        ∨ fragment.header.fragmentLength ≠ fragment.header.length
    · rw [if_pos hcut] at h
      cases h
    rw [if_neg hcut] at h
    cases h
    have hwhole := wholeHeader_of_unfragmented hlength hcut
    refine ⟨fragment.header.bytes ++ fragment.fragment, ?_, ?_⟩
    · refine HandshakeMessage.encode_eq_ok_iff.mpr ⟨?_, ?_⟩
      · rw [← HandshakeMessage.wholeHeader_validate_iff, hwhole]
        exact hvalid
      · rw [hwhole]
    · rw [List.append_assoc]
      congr 2
      rw [← List.append_assoc, ← HandshakeHeader.length_bytes fragment.header,
        ← List.length_append, List.drop_left]
  nonempty := by
    intro message written h hnil
    obtain ⟨-, rfl⟩ := HandshakeMessage.encode_eq_ok_iff.mp h
    exact absurd (List.append_eq_nil_iff.mp hnil).1 (List.cons_ne_nil _ _)

/-! ## §3. The messages of a record. -/

theorem parseMessages_loop : Loop parseMessage parseMessages where
  stop fuel := by cases fuel <;> rfl
  turn fuel b bs := by
    unfold parseMessage
    rw [parseMessages]
    cases HandshakeFragment.parse (b :: bs) with
    | error e => rfl
    | ok fragment =>
      show (if _ then _ else _) = ((if _ then _ else _) >>= _)
      by_cases hcut : fragment.header.fragmentOffset ≠ 0
          ∨ fragment.header.fragmentLength ≠ fragment.header.length
      · rw [if_pos hcut, if_pos hcut]
        rfl
      · rw [if_neg hcut, if_neg hcut]
        rfl

/-- **The messages of a record** are those whose encodings make up its payload. -/
theorem parseMessages_eq_ok_iff {record : DtlsRecord} {messages : List HandshakeMessage} :
    parseUnfragmentedHandshakeMessages record = .ok messages ↔
      record.header.contentType = .handshake ∧
        ∃ encodings, messages.mapM HandshakeMessage.encode = .ok encodings ∧
          record.payload = encodings.flatten := by
  unfold parseUnfragmentedHandshakeMessages
  by_cases htype : record.header.contentType ≠ .handshake
  · rw [if_pos htype]
    exact ⟨(fun h => by cases h), fun h => absurd h.1 htype⟩
  · rw [if_neg htype,
      parseMessages_loop.eq_ok_iff parseMessage_delimited (Nat.le_refl record.payload.length),
      written_iff_mapM]
    exact ⟨fun h => ⟨not_not.mp htype, h⟩, fun h => h.2⟩

/-- **The parser of a single message** is the parser of several, with one result. -/
theorem parseRecord_eq_ok_iff {record : DtlsRecord} {expectedType : HandshakeType}
    {message : HandshakeMessage} :
    parseUnfragmentedHandshakeRecord record expectedType = .ok message ↔
      parseUnfragmentedHandshakeMessages record = .ok [message] ∧
        message.messageType = expectedType := by
  rw [parseMessages_eq_ok_iff]
  constructor
  · intro h
    unfold parseUnfragmentedHandshakeRecord at h
    split at h
    · cases h
    rename_i htype
    obtain ⟨fragment, hfragment, h⟩ := bind_eq_ok.mp h
    obtain ⟨hvalid, hlength, rest, hpayload⟩ := HandshakeFragment.bytes_of_parse hfragment
    split at h
    · cases h
    rename_i hconsumed
    split at h
    · cases h
    rename_i hexpected
    split at h
    · cases h
    rename_i hcut
    cases h
    -- the fragment fills the record, so it is the record's one message
    have hrest : rest = [] := by
      rw [hpayload, List.length_append, List.length_append,
        HandshakeHeader.length_bytes] at hconsumed
      exact List.eq_nil_of_length_eq_zero (by omega)
    have hwhole := wholeHeader_of_unfragmented hlength hcut
    refine ⟨⟨not_not.mp htype, [fragment.header.bytes ++ fragment.fragment], ?_, ?_⟩,
      not_not.mp hexpected⟩
    · rw [List.mapM_cons, HandshakeMessage.encode_eq_ok_iff.mpr ⟨?_, rfl⟩, hwhole]
      · rfl
      · rw [← HandshakeMessage.wholeHeader_validate_iff, hwhole]
        exact hvalid
    · rw [hpayload, hrest, List.append_nil, List.flatten_singleton]
  · rintro ⟨⟨htype, encodings, hencodings, hpayload⟩, hexpected⟩
    rw [List.mapM_cons] at hencodings
    obtain ⟨encoding, hencoding, hencodings⟩ := bind_eq_ok.mp hencodings
    cases hencodings
    obtain ⟨hsize, rfl⟩ := HandshakeMessage.encode_eq_ok_iff.mp hencoding
    rw [List.reverse_nil, List.flatten_singleton] at hpayload
    have hparse := HandshakeMessage.parse_whole
      (HandshakeMessage.wholeHeader_validate_iff.mpr hsize) []
    rw [List.append_nil, ← hpayload] at hparse
    have hconsumed : HandshakeHeader.LEN + message.payload.length = record.payload.length := by
      rw [hpayload, List.length_append, HandshakeHeader.length_bytes]
    unfold parseUnfragmentedHandshakeRecord
    rw [if_neg (not_not_intro htype), hparse]
    show (if HandshakeHeader.LEN + message.payload.length ≠ record.payload.length then _ else
      if message.messageType ≠ expectedType then _ else
      if message.wholeHeader.fragmentOffset ≠ 0
        ∨ message.wholeHeader.fragmentLength ≠ message.wholeHeader.length then _ else _) = _
    rw [if_neg (not_not_intro hconsumed), if_neg (not_not_intro hexpected), if_neg message.not_cut]
    rfl

/-! ## §4. Transcripts. -/

/-- Pushes record their messages. -/
theorem HandshakeTranscript.messages_of_pushes {messages : List HandshakeMessage} :
    ∀ {transcript transcript' : HandshakeTranscript},
      messages.foldlM HandshakeTranscript.push transcript = .ok transcript' →
      transcript'.messages = transcript.messages ++ messages := by
  induction messages with
  | nil =>
    intro transcript transcript' h
    cases h
    exact (List.append_nil _).symm
  | cons message messages ih =>
    intro transcript transcript' h
    rw [List.foldlM_cons] at h
    obtain ⟨next, hnext, h⟩ := bind_eq_ok.mp h
    rw [ih h, HandshakeTranscript.push_eq_ok hnext, List.append_assoc]
    rfl

theorem HandshakeTranscript.pushes_of_lt {messages : List HandshakeMessage}
    (h : ∀ message ∈ messages, message.payload.length < 2 ^ 24) :
    ∀ transcript, ∃ transcript', messages.foldlM HandshakeTranscript.push transcript =
      .ok transcript' := by
  induction messages with
  | nil => exact fun transcript => ⟨transcript, rfl⟩
  | cons message messages ih =>
    intro transcript
    have hsize : message.payload.length ≤ MAX_U24 :=
      Nat.le_of_lt_succ (h message List.mem_cons_self)
    have hbytes := HandshakeMessage.transcriptBytes_eq_ok_iff.mpr ⟨hsize, rfl⟩
    have hpush : ∃ next, transcript.push message = .ok next := by
      unfold HandshakeTranscript.push
      split
      · rename_i e he
        cases hbytes.symm.trans he
      · exact ⟨_, rfl⟩
    obtain ⟨next, hnext⟩ := hpush
    obtain ⟨transcript', hrest⟩ := ih (fun m hm => h m (List.mem_cons_of_mem _ hm)) next
    exact ⟨transcript', by rw [List.foldlM_cons, hnext]; exact hrest⟩

/-! ## §5. Packing. -/

/-- **Handshake packing and transcripts.**  The messages of a handshake record are read back from
    their encodings, and what is read is encodings; a record with a single message of the
    expected type is one whose messages are that message; and lists of messages of less than 24
    bits of length can be pushed into an empty transcript, whose bytes tell the lists apart. -/
theorem handshake_packing_exact :
    (∀ (record : DtlsRecord) (messages : List HandshakeMessage) (encodings : List Bytes),
      messages.mapM HandshakeMessage.encode = .ok encodings →
      record.header.contentType = .handshake → record.payload = encodings.flatten →
      parseUnfragmentedHandshakeMessages record = .ok messages) ∧
    (∀ (record : DtlsRecord) (messages : List HandshakeMessage),
      parseUnfragmentedHandshakeMessages record = .ok messages →
      ∃ encodings, messages.mapM HandshakeMessage.encode = .ok encodings ∧
        record.payload = encodings.flatten) ∧
    (∀ (record : DtlsRecord) (expectedType : HandshakeType) (message : HandshakeMessage),
      parseUnfragmentedHandshakeRecord record expectedType = .ok message ↔
        parseUnfragmentedHandshakeMessages record = .ok [message] ∧
          message.messageType = expectedType) ∧
    (∀ messages messages' : List HandshakeMessage,
      (∀ message ∈ messages ++ messages', message.payload.length < 2 ^ 24) →
      ∃ transcript transcript',
        messages.foldlM HandshakeTranscript.push .new = .ok transcript ∧
        messages'.foldlM HandshakeTranscript.push .new = .ok transcript' ∧
        (transcript.bytes = transcript'.bytes → messages = messages')) := by
  refine ⟨?_, ?_, fun _ _ _ => parseRecord_eq_ok_iff, ?_⟩
  · intro record messages encodings hencodings htype hpayload
    exact parseMessages_eq_ok_iff.mpr ⟨htype, encodings, hencodings, hpayload⟩
  · intro record messages h
    exact (parseMessages_eq_ok_iff.mp h).2
  · intro messages messages' hsizes
    obtain ⟨transcript, hpushed⟩ := HandshakeTranscript.pushes_of_lt
      (fun m hm => hsizes m (List.mem_append_left _ hm)) .new
    obtain ⟨transcript', hpushed'⟩ := HandshakeTranscript.pushes_of_lt
      (fun m hm => hsizes m (List.mem_append_right _ hm)) .new
    refine ⟨transcript, transcript', hpushed, hpushed', fun hbytes => ?_⟩
    have hmessages := HandshakeTranscript.messages_of_pushes hpushed
    have hmessages' := HandshakeTranscript.messages_of_pushes hpushed'
    rw [HandshakeTranscript.messages_inj hbytes, hmessages'] at hmessages
    exact hmessages.symm

end Meshcop.Dtls
