/-
  Meshcop.Dtls.Handshake — handshake message framing and the transcript
  (`meshcop-dtls/src/{handshake,util}.rs`).

  A handshake message travels in fragments, each under a 12-byte header; the messages of
  this profile are sent whole.  The transcript hashed by the Finished messages is the
  concatenation of the messages in their single-fragment form.

  Main results:
    * `HandshakeMessage.encode_eq_transcriptBytes` — the wire form of a message is the form
      the transcript hashes;
    * `parseMessages_spell`            — parsing a concatenation of messages gives them back;
    * `HandshakeTranscript.messages_inj` — **transcript bytes are unambiguous**: equal bytes,
      equal messages.
-/

import Meshcop.Lib.Computation
import Meshcop.Dtls.Crypto

namespace Meshcop.Dtls

open Lib

/-! ## §1. Message types and fragment headers. -/

inductive HandshakeType where
  | helloRequest
  | clientHello
  | serverHello
  | helloVerifyRequest
  | certificate
  | serverKeyExchange
  | certificateRequest
  | serverHelloDone
  | certificateVerify
  | clientKeyExchange
  | finished
  deriving DecidableEq, Repr

namespace HandshakeType

def toByte : HandshakeType → UInt8
  | helloRequest => 0
  | clientHello => 1
  | serverHello => 2
  | helloVerifyRequest => 3
  | certificate => 11
  | serverKeyExchange => 12
  | certificateRequest => 13
  | serverHelloDone => 14
  | certificateVerify => 15
  | clientKeyExchange => 16
  | finished => 20

def tryFrom (value : UInt8) : Except Error HandshakeType :=
  if value = 0 then .ok helloRequest
  else if value = 1 then .ok clientHello
  else if value = 2 then .ok serverHello
  else if value = 3 then .ok helloVerifyRequest
  else if value = 11 then .ok certificate
  else if value = 12 then .ok serverKeyExchange
  else if value = 13 then .ok certificateRequest
  else if value = 14 then .ok serverHelloDone
  else if value = 15 then .ok certificateVerify
  else if value = 16 then .ok clientKeyExchange
  else if value = 20 then .ok finished
  else .error (.crypto "unknown DTLS handshake type")

/-- The name the type is printed under. -/
def debug : HandshakeType → String
  | helloRequest => "HelloRequest"
  | clientHello => "ClientHello"
  | serverHello => "ServerHello"
  | helloVerifyRequest => "HelloVerifyRequest"
  | certificate => "Certificate"
  | serverKeyExchange => "ServerKeyExchange"
  | certificateRequest => "CertificateRequest"
  | serverHelloDone => "ServerHelloDone"
  | certificateVerify => "CertificateVerify"
  | clientKeyExchange => "ClientKeyExchange"
  | finished => "Finished"

@[simp] theorem tryFrom_toByte (type : HandshakeType) : tryFrom type.toByte = .ok type := by
  cases type <;> rfl

end HandshakeType

def MAX_U24 : Nat := 0x00ffffff

/-- Fragment header.  The three lengths are 32-bit fields that every reader and writer
    checks against 24 bits. -/
structure HandshakeHeader where
  messageType : HandshakeType
  length : Nat
  messageSeq : UInt16
  fragmentOffset : Nat
  fragmentLength : Nat
  deriving DecidableEq, Repr

namespace HandshakeHeader

def LEN : Nat := 12

def validate (header : HandshakeHeader) : Except Error Unit :=
  if header.length > MAX_U24 ∨ header.fragmentOffset > MAX_U24 ∨ header.fragmentLength > MAX_U24
  then .error (.crypto "DTLS handshake length exceeds 24-bit field")
  else if header.fragmentOffset + header.fragmentLength > header.length then
    .error (.crypto "DTLS handshake fragment exceeds message length")
  else .ok ()

def parse (bytes : Bytes) : Except Error HandshakeHeader :=
  match bytes with
  | t :: l0 :: l1 :: l2 :: s0 :: s1 :: o0 :: o1 :: o2 :: f0 :: f1 :: f2 :: _ => do
    let messageType ← HandshakeType.tryFrom t
    let header : HandshakeHeader :=
      { messageType
        length := ofBE [l0, l1, l2]
        messageSeq := UInt16.ofNat (ofBE [s0, s1])
        fragmentOffset := ofBE [o0, o1, o2]
        fragmentLength := ofBE [f0, f1, f2] }
    header.validate
    return header
  | _ => .error (.crypto "DTLS handshake header is truncated")

/-- The twelve bytes of a header. -/
def bytes (header : HandshakeHeader) : Bytes :=
  header.messageType.toByte :: (toBE 3 header.length ++ (toBE 2 header.messageSeq.toNat
    ++ (toBE 3 header.fragmentOffset ++ toBE 3 header.fragmentLength)))

/-- Encodes a header.  A valid header's lengths fit the three-byte fields, so `write_u24`
    does not fail after `validate`. -/
def encode (header : HandshakeHeader) : Except Error Bytes := do
  header.validate
  return header.bytes

end HandshakeHeader

/-! ## §2. Fragments and messages. -/

structure HandshakeFragment where
  header : HandshakeHeader
  fragment : Bytes
  deriving DecidableEq, Repr

namespace HandshakeFragment

def parse (bytes : Bytes) : Except Error HandshakeFragment := do
  let header ← HandshakeHeader.parse bytes
  let stop := HandshakeHeader.LEN + header.fragmentLength
  if bytes.length < stop then .error (.crypto "DTLS handshake fragment is truncated")
  else return { header, fragment := (bytes.take stop).drop HandshakeHeader.LEN }

def encode (fragment : HandshakeFragment) : Except Error Bytes :=
  if fragment.fragment.length ≠ fragment.header.fragmentLength then
    .error (.crypto "DTLS handshake fragment header length does not match payload")
  else do
    let header ← fragment.header.encode
    return header ++ fragment.fragment

end HandshakeFragment

/-- One complete handshake message. -/
structure HandshakeMessage where
  messageType : HandshakeType
  messageSeq : UInt16
  payload : Bytes
  deriving DecidableEq, Repr

namespace HandshakeMessage

/-- The fragments of a payload, cut every `max` bytes from `offset` on.  A payload that is
    not empty loses at least one byte a turn, so its length is enough fuel. -/
def fragmentsFrom (message : HandshakeMessage) (max : Nat) :
    Nat → Nat → Bytes → List HandshakeFragment
  | _, _, [] => []
  | 0, _, _ :: _ => []
  | fuel + 1, offset, b :: bs =>
    { header := { messageType := message.messageType
                  length := message.payload.length
                  messageSeq := message.messageSeq
                  fragmentOffset := offset
                  fragmentLength := ((b :: bs).take max).length }
      fragment := (b :: bs).take max }
      :: fragmentsFrom message max fuel (offset + max) ((b :: bs).drop max)

/-- The single fragment of an empty message. -/
def emptyFragment (message : HandshakeMessage) : HandshakeFragment :=
  { header := { messageType := message.messageType, length := 0
                messageSeq := message.messageSeq, fragmentOffset := 0, fragmentLength := 0 }
    fragment := [] }

/-- Splits a message into fragments of at most `max` bytes. -/
def fragment (message : HandshakeMessage) (max : Nat) : Except Error (List HandshakeFragment) :=
  if max = 0 then .error (.crypto "maximum handshake fragment length must be nonzero")
  else if message.payload.length > MAX_U24 then
    .error (.crypto "DTLS handshake message exceeds 24-bit length")
  else
    match fragmentsFrom message max message.payload.length 0 message.payload with
    | [] => .ok [emptyFragment message]
    | fragments => .ok fragments

/-- Encodes a message as one unfragmented handshake message. -/
def encode (message : HandshakeMessage) : Except Error Bytes := do
  let fragments ← message.fragment (max message.payload.length 1)
  match fragments with
  | [] => .error (.crypto "missing handshake fragment")
  | first :: _ => first.encode

/-- The header of a message that travels in one fragment. -/
def wholeHeader (message : HandshakeMessage) : HandshakeHeader :=
  { messageType := message.messageType
    length := message.payload.length
    messageSeq := message.messageSeq
    fragmentOffset := 0
    fragmentLength := message.payload.length }

/-- The canonical form hashed by the Finished messages: one header, one fragment. -/
def transcriptBytes (message : HandshakeMessage) : Except Error Bytes :=
  if message.payload.length < 2 ^ 32 then do
    let header ← message.wholeHeader.encode
    return header ++ message.payload
  else .error (.crypto "DTLS handshake message exceeds 24-bit length")

end HandshakeMessage

/-! ## §3. Reading messages out of records. -/

/-- The loop of `parse_unfragmented_handshake_messages`.  Every turn takes at least a header,
    so as much fuel as there are bytes never runs out. -/
def parseMessages : Nat → Bytes → Except Error (List HandshakeMessage)
  | _, [] => .ok []
  | 0, _ :: _ => .ok []
  | fuel + 1, b :: bs => do
    let fragment ← HandshakeFragment.parse (b :: bs)
    if fragment.header.fragmentOffset ≠ 0
        ∨ fragment.header.fragmentLength ≠ fragment.header.length then
      .error (.crypto "DTLS handshake message is fragmented")
    else
      let messages ←
        parseMessages fuel ((b :: bs).drop (HandshakeHeader.LEN + fragment.fragment.length))
      return { messageType := fragment.header.messageType
               messageSeq := fragment.header.messageSeq
               payload := fragment.fragment } :: messages

/-- All unfragmented handshake messages packed into one record. -/
def parseUnfragmentedHandshakeMessages (record : DtlsRecord) :
    Except Error (List HandshakeMessage) :=
  if record.header.contentType ≠ .handshake then
    .error (.crypto "DTLS record is not a handshake record")
  else parseMessages record.payload.length record.payload

/-- The one unfragmented message of the expected type that fills a record. -/
def parseUnfragmentedHandshakeRecord (record : DtlsRecord) (expectedType : HandshakeType) :
    Except Error HandshakeMessage :=
  if record.header.contentType ≠ .handshake then
    .error (.crypto "DTLS record is not a handshake record")
  else do
    let fragment ← HandshakeFragment.parse record.payload
    if HandshakeHeader.LEN + fragment.fragment.length ≠ record.payload.length then
      .error (.crypto "DTLS record contains trailing handshake bytes")
    else if fragment.header.messageType ≠ expectedType then
      .error (.crypto "unexpected DTLS handshake type")
    else if fragment.header.fragmentOffset ≠ 0
        ∨ fragment.header.fragmentLength ≠ fragment.header.length then
      .error (.crypto "DTLS handshake message is fragmented")
    else return { messageType := fragment.header.messageType
                  messageSeq := fragment.header.messageSeq
                  payload := fragment.fragment }

/-! ## §4. A whole message reads back. -/

theorem HandshakeHeader.validate_eq_ok {header : HandshakeHeader} (h : header.validate = .ok ()) :
    header.length < 256 ^ 3 ∧ header.fragmentOffset < 256 ^ 3 ∧
      header.fragmentLength < 256 ^ 3 := by
  unfold HandshakeHeader.validate at h
  split at h
  · cases h
  · rename_i hlens
    simp only [MAX_U24] at hlens
    omega

/-- A valid header is read back from its twelve bytes, whatever follows. -/
theorem HandshakeHeader.parse_bytes {header : HandshakeHeader} (h : header.validate = .ok ())
    (rest : Bytes) : HandshakeHeader.parse (header.bytes ++ rest) = .ok header := by
  obtain ⟨hlen, hoff, hflen⟩ := HandshakeHeader.validate_eq_ok h
  have hseq : UInt16.ofNat (ofBE (toBE 2 header.messageSeq.toNat)) = header.messageSeq := by
    have hlt : header.messageSeq.toNat < 256 ^ 2 := header.messageSeq.toNat_lt
    rw [ofBE_toBE, Nat.mod_eq_of_lt hlt, UInt16.ofNat_toNat]
  -- the fields of the parsed header are the written bytes read back, one by one
  have hfields : ({ messageType := header.messageType
                    length := ofBE (toBE 3 header.length)
                    messageSeq := UInt16.ofNat (ofBE (toBE 2 header.messageSeq.toNat))
                    fragmentOffset := ofBE (toBE 3 header.fragmentOffset)
                    fragmentLength := ofBE (toBE 3 header.fragmentLength) } : HandshakeHeader)
      = header := by
    rw [hseq, ofBE_toBE, ofBE_toBE, ofBE_toBE, Nat.mod_eq_of_lt hlen, Nat.mod_eq_of_lt hoff,
      Nat.mod_eq_of_lt hflen]
  show (do
    let messageType ← HandshakeType.tryFrom header.messageType.toByte
    let parsed : HandshakeHeader :=
      { messageType
        length := ofBE (toBE 3 header.length)
        messageSeq := UInt16.ofNat (ofBE (toBE 2 header.messageSeq.toNat))
        fragmentOffset := ofBE (toBE 3 header.fragmentOffset)
        fragmentLength := ofBE (toBE 3 header.fragmentLength) }
    parsed.validate
    return parsed : Except Error HandshakeHeader) = .ok header
  rw [HandshakeType.tryFrom_toByte]
  show (do
    let _ ← HandshakeHeader.validate _
    return _ : Except Error HandshakeHeader) = .ok header
  rw [hfields, h]
  rfl

@[simp] theorem HandshakeHeader.length_bytes (header : HandshakeHeader) :
    header.bytes.length = HandshakeHeader.LEN := by
  simp [HandshakeHeader.bytes, HandshakeHeader.LEN]

/-- A valid fragment is read back, whatever follows it. -/
theorem HandshakeFragment.parse_bytes {header : HandshakeHeader} {fragment : Bytes}
    (h : header.validate = .ok ()) (hlength : fragment.length = header.fragmentLength)
    (rest : Bytes) :
    HandshakeFragment.parse (header.bytes ++ (fragment ++ rest)) = .ok { header, fragment } := by
  unfold HandshakeFragment.parse
  rw [HandshakeHeader.parse_bytes h]
  have hstop : ¬ (header.bytes ++ (fragment ++ rest)).length
      < HandshakeHeader.LEN + header.fragmentLength := by
    simp only [List.length_append, HandshakeHeader.length_bytes, ← hlength]
    omega
  have hcut : ((header.bytes ++ (fragment ++ rest)).take
      (HandshakeHeader.LEN + header.fragmentLength)).drop HandshakeHeader.LEN = fragment := by
    rw [← hlength, ← HandshakeHeader.length_bytes header, List.take_length_add_append,
      List.drop_left, List.take_left]
  show (if _ then _ else _) = _
  rw [if_neg hstop]
  exact congrArg (fun payload => Except.ok (HandshakeFragment.mk header payload)) hcut

namespace HandshakeMessage

variable {message : HandshakeMessage}

theorem transcriptBytes_eq_ok {bytes : Bytes} (h : message.transcriptBytes = .ok bytes) :
    message.wholeHeader.validate = .ok () ∧
      bytes = message.wholeHeader.bytes ++ message.payload := by
  unfold transcriptBytes at h
  split at h
  · obtain ⟨header, hheader, h⟩ := bind_eq_ok.mp h
    obtain ⟨⟨⟩, hvalid, hbytes⟩ := bind_eq_ok.mp hheader
    cases hbytes
    exact ⟨hvalid, (Except.ok.inj h).symm⟩
  · cases h

/-- A whole message's fragment is read back, whatever follows it. -/
theorem parse_whole (h : message.wholeHeader.validate = .ok ()) (rest : Bytes) :
    HandshakeFragment.parse (message.wholeHeader.bytes ++ (message.payload ++ rest))
      = .ok { header := message.wholeHeader, fragment := message.payload } :=
  HandshakeFragment.parse_bytes h rfl rest

/-- The first fragment of an unsplit message holds the whole message. -/
theorem fragment_whole {fragments : List HandshakeFragment}
    (h : message.fragment (max message.payload.length 1) = .ok fragments) :
    message.payload.length < 2 ^ 32 ∧
      ∃ rest, fragments = { header := message.wholeHeader, fragment := message.payload } :: rest := by
  obtain ⟨type, seq, payload⟩ := message
  unfold fragment at h
  split at h
  · cases h
  split at h
  · cases h
  rename_i hlen
  simp only [MAX_U24] at hlen
  refine ⟨by show payload.length < 2 ^ 32; omega, ?_⟩
  cases payload with
  | nil => exact ⟨[], (Except.ok.inj h).symm⟩
  | cons b bs =>
    have hmax : max (b :: bs).length 1 = (b :: bs).length := by
      simp only [List.length_cons]; omega
    simp only [hmax] at h
    have hfirst := (Except.ok.inj h).symm
    simp only [List.length_cons, fragmentsFrom] at hfirst
    have htake : (b :: bs).take (bs.length + 1) = b :: bs := by simp
    refine ⟨_, hfirst.trans (congrArg₂ _ ?_ rfl)⟩
    simp only [wholeHeader, htake, List.length_cons]

/-- **The wire form of a message is the form the transcript hashes.** -/
theorem encode_eq_transcriptBytes {bytes : Bytes} (h : message.encode = .ok bytes) :
    message.transcriptBytes = .ok bytes := by
  obtain ⟨fragments, hfragments, h⟩ := bind_eq_ok.mp h
  obtain ⟨hlen, rest, rfl⟩ := fragment_whole hfragments
  unfold transcriptBytes
  rw [if_pos hlen]
  simpa [HandshakeFragment.encode, wholeHeader] using h

end HandshakeMessage

/-! ## §5. The transcript. -/

/-- The canonical forms of a list of messages, back to back. -/
def spell : List HandshakeMessage → Except Error Bytes
  | [] => .ok []
  | message :: messages => do
    let first ← message.transcriptBytes
    let rest ← spell messages
    return first ++ rest

theorem spell_snoc {messages : List HandshakeMessage} {message : HandshakeMessage}
    {bytes last : Bytes} (h : spell messages = .ok bytes) (hlast : message.transcriptBytes = .ok last) :
    spell (messages ++ [message]) = .ok (bytes ++ last) := by
  induction messages generalizing bytes with
  | nil =>
    cases h
    simp [spell, hlast, bind, Except.bind, pure, Except.pure]
  | cons m messages ih =>
    obtain ⟨first, hfirst, h⟩ := bind_eq_ok.mp h
    obtain ⟨rest, hrest, h⟩ := bind_eq_ok.mp h
    cases h
    simp only [List.cons_append, spell, hfirst, ih hrest, bind, Except.bind, pure, Except.pure,
      List.append_assoc]

/-- **Parsing a concatenation of messages gives them back.** -/
theorem parseMessages_spell (messages : List HandshakeMessage) :
    ∀ (bytes : Bytes), spell messages = .ok bytes →
      ∀ fuel, bytes.length ≤ fuel → parseMessages fuel bytes = .ok messages := by
  induction messages with
  | nil =>
    intro bytes h fuel _
    cases h
    cases fuel <;> rfl
  | cons m messages ih =>
    intro bytes h fuel hfuel
    obtain ⟨first, hfirst, h⟩ := bind_eq_ok.mp h
    obtain ⟨rest, hrest, h⟩ := bind_eq_ok.mp h
    cases h
    obtain ⟨hvalid, rfl⟩ := HandshakeMessage.transcriptBytes_eq_ok hfirst
    have hlen : (m.wholeHeader.bytes ++ m.payload ++ rest).length
        = HandshakeHeader.LEN + m.payload.length + rest.length := by simp [Nat.add_assoc]
    obtain ⟨fuel, rfl⟩ : ∃ k, fuel = k + 1 :=
      ⟨fuel - 1, by simp only [HandshakeHeader.LEN] at hlen; omega⟩
    have htail := ih rest hrest fuel (by simp only [HandshakeHeader.LEN] at hlen; omega)
    have hparse := HandshakeMessage.parse_whole hvalid rest
    rw [← List.append_assoc] at hparse
    have hdrop : (m.wholeHeader.bytes ++ m.payload ++ rest).drop
        (HandshakeHeader.LEN + m.payload.length) = rest := by
      rw [← HandshakeHeader.length_bytes m.wholeHeader, ← List.length_append, List.drop_left]
    -- the input is not empty, so the loop takes a turn
    obtain ⟨b, bs, hbs⟩ : ∃ b bs, m.wholeHeader.bytes ++ m.payload ++ rest = b :: bs := by
      cases hcase : m.wholeHeader.bytes ++ m.payload ++ rest with
      | nil => simp [HandshakeHeader.bytes] at hcase
      | cons b bs => exact ⟨b, bs, rfl⟩
    rw [hbs] at hparse hdrop ⊢
    simp only [parseMessages, hparse, hdrop, htail, HandshakeMessage.wholeHeader, bind, Except.bind,
      pure, Except.pure, ne_eq, not_true_eq_false, or_self, if_false]

/-- The transcript of a handshake: the hashed bytes, together with the messages they spell
    and the proof that they do.  The program keeps the bytes only. -/
structure HandshakeTranscript where
  bytes : Bytes
  messages : List HandshakeMessage
  spelled : spell messages = .ok bytes

namespace HandshakeTranscript

def new : HandshakeTranscript := { bytes := [], messages := [], spelled := rfl }

/-- Appends one message in canonical form. -/
def push (transcript : HandshakeTranscript) (message : HandshakeMessage) :
    Except Error HandshakeTranscript :=
  match h : message.transcriptBytes with
  | .error e => .error e
  | .ok bytes =>
    .ok { bytes := transcript.bytes ++ bytes
          messages := transcript.messages ++ [message]
          spelled := spell_snoc transcript.spelled h }

/-- The Finished value of a role over the transcript so far. -/
def finishedVerifyData (C : Crypto) (transcript : HandshakeTranscript) (masterSecret : Bytes)
    (role : FinishedRole) : Except Error Bytes :=
  Dtls.finishedVerifyData C masterSecret role (C.sha256 transcript.bytes)

theorem push_eq_ok {transcript transcript' : HandshakeTranscript} {message : HandshakeMessage}
    (h : transcript.push message = .ok transcript') :
    transcript'.messages = transcript.messages ++ [message] := by
  unfold push at h
  split at h
  · cases h
  · cases h
    rfl

/-- **Transcript bytes are unambiguous**: they determine the messages. -/
theorem messages_inj {t t' : HandshakeTranscript} (h : t.bytes = t'.bytes) :
    t.messages = t'.messages := by
  have ht := parseMessages_spell _ _ t.spelled _ (Nat.le_refl _)
  have ht' := parseMessages_spell _ _ t'.spelled _ (Nat.le_refl _)
  rw [h, ht'] at ht
  exact (Except.ok.inj ht).symm

end HandshakeTranscript

end Meshcop.Dtls
