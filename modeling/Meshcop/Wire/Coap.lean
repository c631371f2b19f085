/-
  Meshcop.Wire.Coap — the CoAP message codec (`meshcop/src/meshcop/coap.rs`).

  A message is a four-byte header, a token, options in ascending order of their numbers and a
  payload after the marker `0xff`.  Option numbers and lengths are written as differences and
  in nibbles with one or two extension bytes.
-/

import Mathlib.Data.List.Sort
import Meshcop.Lib.Computation
import Meshcop.Wire.Tlv

namespace Meshcop

open Lib

/-! ## §1. Messages. -/

inductive CoapType where
  | confirmable
  | nonConfirmable
  | acknowledgement
  | reset
  deriving DecidableEq, Repr

namespace CoapType

def toByte : CoapType → UInt8
  | confirmable => 0
  | nonConfirmable => 1
  | acknowledgement => 2
  | reset => 3

def tryFrom (value : UInt8) : Except Error CoapType :=
  if value = 0 then .ok confirmable
  else if value = 1 then .ok nonConfirmable
  else if value = 2 then .ok acknowledgement
  else if value = 3 then .ok reset
  else .error (.dataset "invalid CoAP type")

end CoapType

/-- Method or response code. -/
structure CoapCode where
  value : UInt8
  deriving DecidableEq, Repr

def CoapCode.EMPTY : CoapCode := ⟨0x00⟩
def CoapCode.POST : CoapCode := ⟨0x02⟩
def CoapCode.CHANGED : CoapCode := ⟨0x44⟩

structure CoapOption where
  number : UInt16
  value : Bytes
  deriving DecidableEq, Repr

/-- CoAP Uri-Path option number. -/
def COAP_OPTION_URI_PATH : UInt16 := 11

structure CoapMessage where
  ty : CoapType
  code : CoapCode
  messageId : UInt16
  token : Bytes
  options : List CoapOption
  payload : Bytes
  deriving DecidableEq, Repr

namespace CoapMessage

/-- An empty acknowledgement of a confirmable message. -/
def emptyAck (messageId : UInt16) : CoapMessage :=
  { ty := .acknowledgement, code := .EMPTY, messageId, token := [], options := [], payload := [] }

/-- A 2.04 Changed acknowledgement without payload. -/
def emptyChangedResponse (request : CoapMessage) : CoapMessage :=
  { ty := .acknowledgement, code := .CHANGED, messageId := request.messageId
    token := request.token, options := [], payload := [] }

/-- A Reset that rejects the message with the given id; it has to be empty. -/
def isResetFor (message : CoapMessage) (messageId : UInt16) : Bool :=
  message.ty = .reset && message.code = .EMPTY && message.messageId = messageId &&
    message.token = [] && message.options = [] && message.payload = []

def isEmptyAckFor (message : CoapMessage) (messageId : UInt16) : Bool :=
  message.ty = .acknowledgement && message.code = .EMPTY && message.messageId = messageId &&
    message.token = [] && message.options = [] && message.payload = []

/-! ## §2. Uri-Path. -/

/-- The segments between slashes; a text without one is a single segment. -/
def splitPath : Text → List Text
  | [] => [[]]
  | b :: rest =>
    if b = 0x2f then [] :: splitPath rest
    else
      match splitPath rest with
      | [] => [[b]]
      | segment :: segments => (b :: segment) :: segments

/-- Pushes one option per segment; an empty segment is an error, and the segments before it
    stay behind. -/
def pushSegments : List Text → EStateM Error CoapMessage Unit
  | [] => return ()
  | segment :: segments => do
    if segment = [] then throw (.dataset "CoAP Uri-Path has an empty segment")
    else
      modify fun message => { message with
        options := message.options ++ [{ number := COAP_OPTION_URI_PATH, value := segment }] }
      pushSegments segments

/-- Replaces the Uri-Path options. -/
def setUriPath (uriPath : Text) : EStateM Error CoapMessage Unit := do
  modify fun message => { message with
    options := message.options.filter (fun option => option.number ≠ COAP_OPTION_URI_PATH) }
  let trimmed := match uriPath with
    | 0x2f :: rest => rest
    | _ => uriPath
  if trimmed = [] then return ()
  else pushSegments (splitPath trimmed)

/-- A POST request for a resource. -/
def postRequest (ty : CoapType) (messageId : UInt16) (token : Bytes) (uriPath : Text)
    (payload : Bytes) : Except Error CoapMessage :=
  let message := { ty, code := .POST, messageId, token, options := [], payload }
  match setUriPath uriPath message with
  | .ok _ message => .ok message
  | .error error _ => .error error

/-- The options of a path. -/
def pathOptions (segments : List Text) : List CoapOption :=
  segments.map (fun value => { number := COAP_OPTION_URI_PATH, value })

theorem pushSegments_ok {segments : List Text} (h : ∀ segment ∈ segments, segment ≠ [])
    (message : CoapMessage) : pushSegments segments message =
      .ok () { message with options := message.options ++ pathOptions segments } := by
  induction segments generalizing message with
  | nil =>
    rw [pathOptions, List.map_nil, List.append_nil]
    rfl
  | cons segment segments ih =>
    have hsegment : segment ≠ [] := h segment List.mem_cons_self
    unfold pushSegments
    simp only [hsegment, if_false]
    show pushSegments segments _ = _
    rw [ih (fun s hs => h s (List.mem_cons_of_mem _ hs))]
    simp [pathOptions]

/-- A request for a path of non-empty segments can always be built. -/
theorem postRequest_ok {path : Text} {segments : List Text} (hpath : path ≠ [])
    (hsplit : splitPath path = segments) (h : ∀ segment ∈ segments, segment ≠ [])
    (ty : CoapType) (messageId : UInt16) (token payload : Bytes) :
    postRequest ty messageId token (0x2f :: path) payload =
      .ok { ty, code := .POST, messageId, token, options := pathOptions segments, payload } := by
  have hset : setUriPath (0x2f :: path)
      { ty, code := .POST, messageId, token, options := [], payload } =
      .ok () { ty, code := .POST, messageId, token, options := pathOptions segments, payload } := by
    unfold setUriPath
    simp only [hpath, if_false, hsplit]
    exact pushSegments_ok h _
  simp only [postRequest, hset]

/-- The Uri-Path segments; one that is not UTF-8 is an error. -/
def uriSegments : List CoapOption → Except Error (List Text)
  | [] => .ok []
  | option :: options =>
    if option.number = COAP_OPTION_URI_PATH then
      match fromUtf8 option.value with
      | none => .error (.dataset "CoAP Uri-Path is not UTF-8")
      | some segment => do
        let segments ← uriSegments options
        return segment :: segments
    else uriSegments options

/-- The Uri-Path rebuilt from the options. -/
def uriPath (message : CoapMessage) : Except Error (Option Text) := do
  let segments ← uriSegments message.options
  return if segments = [] then none else some (segments.flatMap (fun segment => 0x2f :: segment))

@[simp] theorem uriSegments_onlyMalformed (options : List CoapOption) :
    OnlyMalformed (uriSegments options) := by
  induction options with
  | nil => simp [uriSegments]
  | cons option options ih =>
    unfold uriSegments
    split
    · split
      · simp
      · simp [ih]
    · exact ih

@[simp] theorem uriPath_onlyMalformed (message : CoapMessage) : OnlyMalformed message.uriPath := by
  simp [uriPath]

/-! ## §3. Encoding. -/

/-- A number as a nibble and its extension bytes. -/
def encodeExtendedNibble (value : UInt16) : UInt8 × Bytes :=
  if value ≤ 12 then (value.toUInt8, [])
  else if value ≤ 268 then (13, [(value - 13).toUInt8])
  else (14, toBE 2 (value - 269).toNat)

def encodeOptionHeader (delta : UInt16) (length : Nat) : Except Error Bytes :=
  if length > 65535 then .error (.dataset "CoAP option too long")
  else
    let (deltaNibble, deltaExtra) := encodeExtendedNibble delta
    let (lengthNibble, lengthExtra) := encodeExtendedNibble (UInt16.ofNat length)
    .ok (((deltaNibble <<< 4) ||| lengthNibble) :: (deltaExtra ++ lengthExtra))

/-- Options after one with number `last`. -/
def encodeOptions (last : UInt16) : List CoapOption → Except Error Bytes
  | [] => .ok []
  | option :: options =>
    if option.number < last then .error (.dataset "CoAP option numbers decreased")
    else do
      let header ← encodeOptionHeader (option.number - last) option.value.length
      let rest ← encodeOptions option.number options
      return header ++ option.value ++ rest

/-- The options in ascending order of their numbers, equal numbers in their own order. -/
def sortedOptions (message : CoapMessage) : List CoapOption :=
  message.options.insertionSort (fun a b => a.number ≤ b.number)

def encode (message : CoapMessage) : Except Error Bytes :=
  if message.token.length > 8 then .error (.dataset "CoAP token length > 8")
  else do
    let first : UInt8 :=
      ((1 : UInt8) <<< 6) ||| (message.ty.toByte <<< 4) ||| UInt8.ofNat message.token.length
    let options ← encodeOptions 0 message.sortedOptions
    return first :: message.code.value :: toBE 2 message.messageId.toNat ++ message.token ++
      options ++ (if message.payload = [] then [] else 0xff :: message.payload)

@[simp] theorem encodeOptionHeader_onlyMalformed (delta : UInt16) (length : Nat) :
    OnlyMalformed (encodeOptionHeader delta length) := by
  unfold encodeOptionHeader
  split <;> simp

@[simp] theorem encodeOptions_onlyMalformed (last : UInt16) (options : List CoapOption) :
    OnlyMalformed (encodeOptions last options) := by
  induction options generalizing last with
  | nil => simp [encodeOptions]
  | cons option options ih =>
    unfold encodeOptions
    split
    · simp
    · simp [ih]

/-- A message that cannot be encoded is reported as malformed. -/
theorem encode_onlyMalformed (message : CoapMessage) : OnlyMalformed message.encode := by
  unfold encode
  split <;> simp

/-- Whether a message can be encoded depends on its options and the length of its token. -/
theorem encode_ok {message : CoapMessage} {options : Bytes} (htoken : message.token.length ≤ 8)
    (hoptions : encodeOptions 0 message.sortedOptions = .ok options) :
    ∃ bytes, message.encode = .ok bytes ∧
      bytes.length ≤ 13 + options.length + message.payload.length := by
  have hshort : ¬message.token.length > 8 := by omega
  simp only [encode, hshort, if_false, hoptions]
  refine ⟨_, rfl, ?_⟩
  split <;> simp <;> omega

/-- A message of a header and a token only, such as an acknowledgement. -/
structure Plain (message : CoapMessage) : Prop where
  options : message.options = []
  payload : message.payload = []
  token : message.token.length ≤ 8

theorem Plain.encode_ok {message : CoapMessage} (h : message.Plain) :
    ∃ bytes, message.encode = .ok bytes ∧ bytes.length ≤ 13 := by
  have hoptions : encodeOptions 0 message.sortedOptions = .ok [] := by
    rw [sortedOptions, h.options]
    rfl
  obtain ⟨bytes, hbytes, hlength⟩ := CoapMessage.encode_ok h.token hoptions
  rw [h.payload] at hlength
  exact ⟨bytes, hbytes, hlength⟩

theorem emptyAck_plain (messageId : UInt16) : (emptyAck messageId).Plain :=
  ⟨rfl, rfl, Nat.zero_le 8⟩

/-! ## §4. Decoding. -/

/-- A nibble with its extension bytes: the number and what follows. -/
def decodeExtendedNibble (nibble : UInt8) (bytes : Bytes) : Except Error (UInt16 × Bytes) :=
  if nibble ≤ 12 then .ok (nibble.toUInt16, bytes)
  else if nibble = 13 then
    match bytes with
    | byte :: rest => .ok (byte.toUInt16 + 13, rest)
    | [] => .error (.dataset "CoAP option extension is truncated")
  else if nibble = 14 then
    match bytes with
    | high :: low :: rest =>
      let value := ofBE [high, low] + 269
      if value > 65535 then .error (.dataset "CoAP option extension overflow")
      else .ok (UInt16.ofNat value, rest)
    | _ => .error (.dataset "CoAP option extension is truncated")
  else .error (.dataset "reserved CoAP option nibble")

/-- Options and payload after an option with number `last`.  Every option takes at least one
    byte, so the length of the input is fuel enough. -/
def decodeOptions : (fuel : Nat) → (last : UInt16) → Bytes → Except Error (List CoapOption × Bytes)
  | _, _, [] => .ok ([], [])
  | 0, _, _ => .error (.dataset "CoAP option value is truncated")
  | fuel + 1, last, first :: afterHeader =>
    if first = 0xff then .ok ([], afterHeader)
    else do
      let (delta, afterDelta) ← decodeExtendedNibble (first >>> 4) afterHeader
      let (length, afterLength) ← decodeExtendedNibble (first &&& 0x0f) afterDelta
      if afterLength.length < length.toNat then .error (.dataset "CoAP option value is truncated")
      else if last.toNat + delta.toNat > 65535 then .error (.dataset "CoAP option number overflow")
      else
        let number := last + delta
        let (options, payload) ← decodeOptions fuel number (afterLength.drop length.toNat)
        return ({ number, value := afterLength.take length.toNat } :: options, payload)

def decode : Bytes → Except Error CoapMessage
  | first :: code :: high :: low :: rest =>
    if first >>> 6 ≠ 1 then .error (.dataset "unsupported CoAP version")
    else
      let tokenLength := (first &&& 0x0f).toNat
      if tokenLength > 8 ∨ rest.length < tokenLength then
        .error (.dataset "invalid CoAP token length")
      else do
        let ty ← CoapType.tryFrom ((first >>> 4) &&& 0x03)
        let (options, payload) ← decodeOptions rest.length 0 (rest.drop tokenLength)
        return { ty, code := ⟨code⟩, messageId := UInt16.ofNat (ofBE [high, low])
                 token := rest.take tokenLength, options, payload }
  | _ => .error (.dataset "CoAP header is truncated")

/-- A received message's token has at most eight bytes. -/
theorem decode_token {bytes : Bytes} {message : CoapMessage} (h : decode bytes = .ok message) :
    message.token.length ≤ 8 := by
  unfold decode at h
  split at h
  · rename_i first code high low rest
    split at h
    · cases h
    dsimp only at h
    split at h
    · cases h
    rename_i hlength
    obtain ⟨ty, -, h⟩ := bind_eq_ok.mp h
    obtain ⟨decoded, -, h⟩ := bind_eq_ok.mp h
    cases h
    show (rest.take (first &&& 0x0f).toNat).length ≤ 8
    rw [List.length_take]
    omega
  · cases h

/-- So the reply to it that carries its token is plain. -/
theorem emptyChangedResponse_plain {bytes : Bytes} {message : CoapMessage}
    (h : decode bytes = .ok message) : (emptyChangedResponse message).Plain := by
  have htoken : message.token.length ≤ 8 := decode_token h
  exact ⟨rfl, rfl, htoken⟩

end CoapMessage

end Meshcop
