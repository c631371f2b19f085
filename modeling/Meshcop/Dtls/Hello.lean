/-
  Meshcop.Dtls.Hello — hello-message codecs and the client's cookie-retry state
  (`meshcop-dtls/src/{hello,constants}.rs`).

  The three hello bodies are read by a cursor over the remaining bytes and written field by
  field, every length checked against the width of its prefix.  `DtlsClientHelloState` hands
  out the client's successive ClientHello records and takes up a HelloVerifyRequest's cookie.
-/

import Meshcop.Dtls.Handshake

namespace Meshcop.Dtls

open Lib

/-! ## §1. Constants. -/

def TLS_ECJPAKE_WITH_AES_128_CCM_8 : UInt16 := 0xc0ff
def TLS_EMPTY_RENEGOTIATION_INFO_SCSV : UInt16 := 0x00ff
def TLS_COMPRESSION_NULL : UInt8 := 0
def EXTENSION_SUPPORTED_GROUPS : UInt16 := 10
def EXTENSION_MAX_FRAGMENT_LENGTH : UInt16 := 1
def EXTENSION_EC_POINT_FORMATS : UInt16 := 11
def EXTENSION_SIGNATURE_ALGORITHMS : UInt16 := 13
def EXTENSION_ECJPAKE_KKPP : UInt16 := 256
def NAMED_GROUP_SECP256R1 : UInt16 := 23
def EC_POINT_FORMAT_UNCOMPRESSED : UInt8 := 0

/-! ## §2. The cursor. -/

/-- A reader over the bytes that are left. -/
abbrev Cursor := StateT Bytes (Except Error)

namespace Cursor

def readExact (len : Nat) : Cursor Bytes := fun bytes =>
  if bytes.length < len then .error (.crypto "DTLS structure is truncated")
  else .ok (bytes.take len, bytes.drop len)

def readU8 : Cursor UInt8 := do
  let bytes ← readExact 1
  return UInt8.ofNat (ofBE bytes)

def readU16 : Cursor UInt16 := do
  let bytes ← readExact 2
  return UInt16.ofNat (ofBE bytes)

def readArray32 : Cursor Bytes := readExact 32

def readVecU8 : Cursor Bytes := do
  let len ← readU8
  readExact len.toNat

def readVecU16 : Cursor Bytes := do
  let len ← readU16
  readExact len.toNat

def finish : Cursor Unit := fun bytes =>
  if bytes = [] then .ok ((), [])
  else .error (.crypto "trailing bytes after DTLS structure")

end Cursor

/-! ## §3. Extensions. -/

structure TlsExtension where
  extensionType : UInt16
  data : Bytes
  deriving DecidableEq, Repr

def supportedGroupsExtension : TlsExtension :=
  { extensionType := EXTENSION_SUPPORTED_GROUPS
    data := [0x00, 0x02] ++ toBE 2 NAMED_GROUP_SECP256R1.toNat }

def signatureAlgorithmsExtension : TlsExtension :=
  { extensionType := EXTENSION_SIGNATURE_ALGORITHMS, data := [0x00, 0x02, 0x04, 0x03] }

def ecPointFormatsExtension : TlsExtension :=
  { extensionType := EXTENSION_EC_POINT_FORMATS, data := [0x01, EC_POINT_FORMAT_UNCOMPRESSED] }

def maxFragmentLengthExtension : TlsExtension :=
  { extensionType := EXTENSION_MAX_FRAGMENT_LENGTH, data := [0x02] }

def findExtension (extensions : List TlsExtension) (extensionType : UInt16) : Option Bytes :=
  (extensions.find? (fun extension => extension.extensionType = extensionType)).map (·.data)

def validateU8Len (len : Nat) (field : String) : Except Error Unit :=
  if len > 255 then .error (.crypto (field ++ " exceeds 255 bytes")) else .ok ()

def validateU16Len (len : Nat) (field : String) : Except Error Unit :=
  if len > 65535 then .error (.crypto (field ++ " exceeds 65535 bytes")) else .ok ()

/-- The extensions back to back, each data length checked. -/
def encodeExtensions : List TlsExtension → Except Error Bytes
  | [] => .ok []
  | extension :: extensions => do
    validateU16Len extension.data.length "TLS extension"
    let rest ← encodeExtensions extensions
    return toBE 2 extension.extensionType.toNat ++ toBE 2 extension.data.length
      ++ extension.data ++ rest

/-- Appends the extension block under its two-byte length. -/
def appendExtensions (out : Bytes) (extensions : List TlsExtension) : Except Error Bytes := do
  let encoded ← encodeExtensions extensions
  validateU16Len encoded.length "TLS extensions"
  return out ++ toBE 2 encoded.length ++ encoded

/-- The loop of `read_extensions`; an extension takes at least four bytes. -/
def readExtensionList : Nat → Cursor (List TlsExtension)
  | 0 => return []
  | fuel + 1 => do
    let bytes ← get
    if bytes = [] then return []
    else
      let extensionType ← Cursor.readU16
      let data ← Cursor.readVecU16
      let rest ← readExtensionList fuel
      return { extensionType, data } :: rest

/-- An absent extension block reads as no extensions. -/
def readExtensions : Cursor (List TlsExtension) := do
  let bytes ← get
  if bytes = [] then return []
  else
    let block ← Cursor.readVecU16
    let (extensions, _) ← readExtensionList block.length block
    return extensions

/-! ## §4. ClientHello. -/

structure ClientHello where
  random : Bytes
  sessionId : Bytes
  cookie : Bytes
  cipherSuites : List UInt16
  compressionMethods : Bytes
  extensions : List TlsExtension
  deriving DecidableEq, Repr

namespace ClientHello

def threadProfile (random cookie : Bytes) : ClientHello :=
  { random, sessionId := [], cookie
    cipherSuites := [TLS_ECJPAKE_WITH_AES_128_CCM_8, TLS_EMPTY_RENEGOTIATION_INFO_SCSV]
    compressionMethods := [TLS_COMPRESSION_NULL]
    extensions := [supportedGroupsExtension, signatureAlgorithmsExtension,
                   ecPointFormatsExtension] }

/-- Replaces or appends the KKPP extension, and the fragment-length one after it. -/
def setEcjpakeKkpp (hello : ClientHello) (kkpp : Bytes) : ClientHello :=
  { hello with
    extensions :=
      hello.extensions.filter (fun extension =>
        !(extension.extensionType = EXTENSION_ECJPAKE_KKPP
          || extension.extensionType = EXTENSION_MAX_FRAGMENT_LENGTH))
      ++ [{ extensionType := EXTENSION_ECJPAKE_KKPP, data := kkpp }, maxFragmentLengthExtension] }

def threadProfileWithEcjpake (random cookie kkpp : Bytes) : ClientHello :=
  (threadProfile random cookie).setEcjpakeKkpp kkpp

def ecjpakeKkpp (hello : ClientHello) : Option Bytes :=
  findExtension hello.extensions EXTENSION_ECJPAKE_KKPP

def encode (hello : ClientHello) : Except Error Bytes := do
  validateU8Len hello.sessionId.length "ClientHello session_id"
  validateU8Len hello.cookie.length "ClientHello cookie"
  validateU8Len hello.compressionMethods.length "ClientHello compression methods"
  let cipherLen := hello.cipherSuites.length * 2
  validateU16Len cipherLen "ClientHello cipher suites"
  let out := toBE 2 DTLS_1_2_VERSION.toNat ++ hello.random
    ++ toBE 1 hello.sessionId.length ++ hello.sessionId
    ++ toBE 1 hello.cookie.length ++ hello.cookie
    ++ toBE 2 cipherLen ++ hello.cipherSuites.flatMap (fun suite => toBE 2 suite.toNat)
    ++ toBE 1 hello.compressionMethods.length ++ hello.compressionMethods
  appendExtensions out hello.extensions

/-- The suites of a vector of even length, two bytes each. -/
def pairs : Bytes → List UInt16
  | a :: b :: rest => UInt16.ofNat (ofBE [a, b]) :: pairs rest
  | _ => []

def read : Cursor ClientHello := do
  let version ← Cursor.readU16
  if version ≠ DTLS_1_2_VERSION then
    throw (.crypto "ClientHello version is not DTLS 1.2")
  else
    let random ← Cursor.readArray32
    let sessionId ← Cursor.readVecU8
    let cookie ← Cursor.readVecU8
    let cipherBytes ← Cursor.readVecU16
    if cipherBytes.length % 2 ≠ 0 then
      throw (.crypto "ClientHello cipher-suite vector has odd length")
    else
      let compressionMethods ← Cursor.readVecU8
      let extensions ← readExtensions
      Cursor.finish
      return { random, sessionId, cookie, cipherSuites := pairs cipherBytes
               compressionMethods, extensions }

def decode (bytes : Bytes) : Except Error ClientHello := do
  let (hello, _) ← read bytes
  return hello

end ClientHello

/-! ## §5. HelloVerifyRequest and ServerHello. -/

structure HelloVerifyRequest where
  serverVersion : UInt16
  cookie : Bytes
  deriving DecidableEq, Repr

namespace HelloVerifyRequest

def encode (hello : HelloVerifyRequest) : Except Error Bytes := do
  validateU8Len hello.cookie.length "HelloVerifyRequest cookie"
  return toBE 2 hello.serverVersion.toNat ++ toBE 1 hello.cookie.length ++ hello.cookie

def read : Cursor HelloVerifyRequest := do
  let serverVersion ← Cursor.readU16
  let cookie ← Cursor.readVecU8
  Cursor.finish
  return { serverVersion, cookie }

def decode (bytes : Bytes) : Except Error HelloVerifyRequest := do
  let (hello, _) ← read bytes
  return hello

end HelloVerifyRequest

structure ServerHello where
  random : Bytes
  sessionId : Bytes
  cipherSuite : UInt16
  compressionMethod : UInt8
  extensions : List TlsExtension
  deriving DecidableEq, Repr

namespace ServerHello

def validateThreadProfile (hello : ServerHello) : Except Error Unit :=
  if hello.cipherSuite ≠ TLS_ECJPAKE_WITH_AES_128_CCM_8 then
    .error (.crypto "ServerHello selected an unsupported cipher suite")
  else if hello.compressionMethod ≠ TLS_COMPRESSION_NULL then
    .error (.crypto "ServerHello selected an unsupported compression method")
  else .ok ()

def ecjpakeKkpp (hello : ServerHello) : Option Bytes :=
  findExtension hello.extensions EXTENSION_ECJPAKE_KKPP

def encode (hello : ServerHello) : Except Error Bytes := do
  validateU8Len hello.sessionId.length "ServerHello session_id"
  let out := toBE 2 DTLS_1_2_VERSION.toNat ++ hello.random
    ++ toBE 1 hello.sessionId.length ++ hello.sessionId
    ++ toBE 2 hello.cipherSuite.toNat ++ [hello.compressionMethod]
  appendExtensions out hello.extensions

def read : Cursor ServerHello := do
  let version ← Cursor.readU16
  if version ≠ DTLS_1_2_VERSION then
    throw (.crypto "ServerHello version is not DTLS 1.2")
  else
    let random ← Cursor.readArray32
    let sessionId ← Cursor.readVecU8
    let cipherSuite ← Cursor.readU16
    let compressionMethod ← Cursor.readU8
    let extensions ← readExtensions
    Cursor.finish
    return { random, sessionId, cipherSuite, compressionMethod, extensions }

def decode (bytes : Bytes) : Except Error ServerHello := do
  let (hello, _) ← read bytes
  return hello

end ServerHello

/-! ## §6. The client's hello state. -/

/-- Cookie, cached KKPP body and counters of the client's hello flights. -/
structure DtlsClientHelloState where
  random : Bytes
  cookie : Bytes
  ecjpakeKkpp : Option Bytes
  nextRecordSequence : UInt64
  nextMessageSequence : UInt16
  lastClientHelloSequence : Option UInt16

namespace DtlsClientHelloState

def withEcjpakeKkpp (random kkpp : Bytes) : DtlsClientHelloState :=
  { random, cookie := [], ecjpakeKkpp := some kkpp, nextRecordSequence := 0
    nextMessageSequence := 0, lastClientHelloSequence := none }

/-- The ClientHello under the current cookie. -/
def clientHello (state : DtlsClientHelloState) : ClientHello :=
  match state.ecjpakeKkpp with
  | some kkpp => ClientHello.threadProfileWithEcjpake state.random state.cookie kkpp
  | none => ClientHello.threadProfile state.random state.cookie

/-- Builds the next ClientHello record; the message number is taken even if a later step
    fails. -/
def nextClientHelloRecord : EStateM Error DtlsClientHelloState DtlsRecord := do
  let state ← get
  let messageSeq := state.nextMessageSequence
  modify fun state => { state with nextMessageSequence := messageSeq + 1
                                   lastClientHelloSequence := some messageSeq }
  let payload ← attempt id state.clientHello.encode
  let body ← attempt id
    ({ messageType := .clientHello, messageSeq, payload : HandshakeMessage }).encode
  let record ← attempt id (DtlsRecord.new .handshake 0 state.nextRecordSequence body)
  modify fun state => { state with nextRecordSequence := state.nextRecordSequence + 1 }
  return record

/-- Takes up the cookie of a HelloVerifyRequest that answers the last ClientHello. -/
def handleHelloVerifyRequest (record : DtlsRecord) :
    EStateM Error DtlsClientHelloState HelloVerifyRequest := do
  let handshake ← attempt id (parseUnfragmentedHandshakeRecord record .helloVerifyRequest)
  let state ← get
  if some handshake.messageSeq ≠ state.lastClientHelloSequence then
    throw (.crypto "HelloVerifyRequest sequence does not match ClientHello")
  else
    let helloVerify ← attempt id (HelloVerifyRequest.decode handshake.payload)
    if helloVerify.serverVersion ≠ DTLS_1_2_VERSION then
      throw (.crypto "HelloVerifyRequest version is not DTLS 1.2")
    else
      modify fun state => { state with cookie := helloVerify.cookie }
      return helloVerify

end DtlsClientHelloState

end Meshcop.Dtls
