/-
  Meshcop.Wire.Tlv — Thread-style TLVs and the errors of the crate
  (`meshcop/src/{tlv,error}.rs`, the close reasons of `commissioner/types.rs`).

  A TLV is a type byte, a length in one byte or, after the marker `0xff`, in two, and a value.
  A set keeps its entries in order, unknown and repeated ones included; a lookup takes the
  last entry of a type.
-/

import Meshcop.Lib.Bytes
import Meshcop.Lib.Computation
import Meshcop.Dtls.Record

namespace Meshcop

open Lib

/-! ## §1. Errors. -/

inductive TlvError where
  | bufferTooSmall
  | invalidLength
  | invalidValue
  | valueTooLarge (length : Nat)
  deriving DecidableEq, Repr

def TlvError.display : TlvError → String
  | .bufferTooSmall => "buffer too small"
  | .invalidLength => "invalid TLV length"
  | .invalidValue => "invalid TLV value"
  | .valueTooLarge length => s!"TLV value too large: {length} bytes"

/-- Why a commissioner session ended. -/
inductive CloseReason where
  | resigned
  | keepAliveRejected
  | keepAlivePending
  | keepAliveFailed (error : Text)
  | peerClosed
  | transportFailed (error : Text)
  deriving DecidableEq, Repr

def CloseReason.display : CloseReason → Text
  | .resigned => ascii "the application ended the session"
  | .keepAliveRejected => ascii "a keep-alive was rejected"
  | .keepAlivePending => ascii "a keep-alive was answered with Pending"
  | .keepAliveFailed error => ascii "a keep-alive failed: " ++ error
  | .peerClosed => ascii "the border agent closed the DTLS session"
  | .transportFailed error => ascii "the transport failed: " ++ error

/-- The crate's errors, with what they carry. -/
inductive Error where
  | tlv (error : TlvError)
  | dataset (message : String)
  | crypto (message : String)
  | dtls (error : Dtls.Error)
  | io (message : String)
  | timeout (message : String)
  | invalidState (message : String)
  | petitionRejected (existingCommissionerId : Option Text)
  | sessionClosed
  | sessionLost (reason : CloseReason)
  deriving DecidableEq, Repr

/-- The rendered text of an error. -/
def Error.display : Error → Text
  | .tlv error => ascii ("TLV error: " ++ error.display)
  | .dataset message => ascii ("dataset error: " ++ message)
  | .crypto message => ascii ("crypto error: " ++ message)
  | .dtls error => ascii error.display
  | .io message => ascii ("I/O error: " ++ message)
  | .timeout message => ascii ("timeout: " ++ message)
  | .invalidState message => ascii ("invalid state: " ++ message)
  | .petitionRejected none => ascii "petition was rejected"
  | .petitionRejected (some id) =>
    ascii "petition was rejected by existing commissioner " ++ [0x60] ++ id ++ [0x60]
  | .sessionClosed => ascii "commissioner session is closed"
  | .sessionLost reason => ascii "commissioner session was lost: " ++ reason.display

/-- The TLV errors inside the crate's. -/
def liftTlv {α : Type} : Except TlvError α → Except Error α
  | .ok a => .ok a
  | .error error => .error (.tlv error)

/-- Whether an error says that data is malformed. -/
def Error.isMalformed : Error → Bool
  | .tlv _ | .dataset _ => true
  | _ => false

/-- A codec fails on malformed data only. -/
abbrev OnlyMalformed {α : Type} (x : Except Error α) : Prop :=
  FailsOnly (fun error => error.isMalformed = true) x

@[simp] theorem Error.isMalformed_tlv (error : TlvError) : (Error.tlv error).isMalformed = true :=
  rfl

@[simp] theorem Error.isMalformed_dataset (message : String) :
    (Error.dataset message).isMalformed = true := rfl

@[simp] theorem liftTlv_onlyMalformed {α : Type} (x : Except TlvError α) :
    OnlyMalformed (liftTlv x) := by
  cases x <;> simp [liftTlv]

/-! ## §2. TLVs. -/

def MAX_STANDARD_TLV_LENGTH : Nat := 254
def EXTENDED_TLV_MARKER : UInt8 := 0xff
def MAX_EXTENDED_TLV_LENGTH : Nat := 65535

structure TlvEntry where
  ty : UInt8
  value : Bytes
  deriving DecidableEq, Repr

/-- Type and length of a TLV. -/
def encodeHeader (ty : UInt8) (length : Nat) : Except TlvError Bytes :=
  if length ≤ MAX_STANDARD_TLV_LENGTH then .ok [ty, UInt8.ofNat length]
  else if length ≤ MAX_EXTENDED_TLV_LENGTH then .ok (ty :: EXTENDED_TLV_MARKER :: toBE 2 length)
  else .error (.valueTooLarge length)

def TlvEntry.encode (entry : TlvEntry) : Except TlvError Bytes := do
  let header ← encodeHeader entry.ty entry.value.length
  return header ++ entry.value

/-- The value of the given length and what follows it. -/
def takeValue (ty : UInt8) (length : Nat) (bytes : Bytes) : Except TlvError (TlvEntry × Bytes) :=
  if bytes.length < length then .error .bufferTooSmall
  else .ok ({ ty, value := bytes.take length }, bytes.drop length)

/-- The first TLV and what follows it. -/
def parseOne : Bytes → Except TlvError (TlvEntry × Bytes)
  | ty :: lengthByte :: rest =>
    if lengthByte = EXTENDED_TLV_MARKER then
      match rest with
      | high :: low :: rest => takeValue ty (ofBE [high, low]) rest
      | _ => .error .bufferTooSmall
    else takeValue ty lengthByte.toNat rest
  | _ => .error .bufferTooSmall

/-- Ordered TLV collection. -/
structure TlvSet where
  entries : List TlvEntry
  deriving DecidableEq, Repr

namespace TlvSet

/-- Every TLV takes at least two bytes, so the length of the input is fuel enough. -/
def parseEntries : (fuel : Nat) → Bytes → Except TlvError (List TlvEntry)
  | _, [] => .ok []
  | 0, _ => .error .bufferTooSmall
  | fuel + 1, bytes => do
    let (entry, rest) ← parseOne bytes
    let entries ← parseEntries fuel rest
    return entry :: entries

def parse (bytes : Bytes) : Except TlvError TlvSet := do
  let entries ← parseEntries bytes.length bytes
  return { entries }

/-- Encodes all entries in their order. -/
def encode (set : TlvSet) : Except TlvError Bytes :=
  set.entries.foldlM (fun out entry => do
    let bytes ← entry.encode
    return out ++ bytes) []

/-- The value of the last entry of a type. -/
def lastValue (set : TlvSet) (ty : UInt8) : Option Bytes :=
  (set.entries.reverse.find? (fun entry => entry.ty = ty)).map TlvEntry.value

end TlvSet

/-- A two-byte value. -/
def readU16 (value : Bytes) : Except TlvError UInt16 :=
  if value.length = 2 then .ok (UInt16.ofNat (ofBE value)) else .error .invalidLength

/-- An eight-byte value. -/
def readU64 (value : Bytes) : Except TlvError UInt64 :=
  if value.length = 8 then .ok (UInt64.ofNat (ofBE value)) else .error .invalidLength

/-! ## §3. TLV assembly. -/

def appendTlv (out : Bytes) (ty : UInt8) (value : Bytes) : Except Error Bytes := do
  let entry ← liftTlv (TlvEntry.encode { ty, value })
  return out ++ entry

def appendU16 (out : Bytes) (ty : UInt8) (value : UInt16) : Except Error Bytes :=
  appendTlv out ty (toBE 2 value.toNat)

end Meshcop
