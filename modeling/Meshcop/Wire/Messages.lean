/-
  Meshcop.Wire.Messages — the MeshCoP messages of a commissioner session
  (`meshcop/src/meshcop/{constants,types,builders,parsers,util}.rs`, the channel masks of
  `meshcop/src/dataset.rs`).

  Requests the session driver builds itself, responses it interprets and notifications it
  turns into events.
-/

import Meshcop.Wire.Coap
import Meshcop.Wire.NetDiag

namespace Meshcop

open Lib

/-! ## §1. Constants. -/

def TLV_PAN_ID : UInt8 := 1
def TLV_COMMISSIONER_ID : UInt8 := 10
def TLV_COMMISSIONER_SESSION_ID : UInt8 := 11
def TLV_STATE : UInt8 := 16
def TLV_JOINER_DTLS_ENCAPSULATION : UInt8 := 17
def TLV_JOINER_UDP_PORT : UInt8 := 18
def TLV_JOINER_IID : UInt8 := 19
def TLV_JOINER_ROUTER_LOCATOR : UInt8 := 20
def TLV_JOINER_ROUTER_KEK : UInt8 := 21
def TLV_PROVISIONING_URL : UInt8 := 32
def TLV_VENDOR_NAME : UInt8 := 33
def TLV_VENDOR_MODEL : UInt8 := 34
def TLV_VENDOR_SW_VERSION : UInt8 := 35
def TLV_VENDOR_DATA : UInt8 := 36
def TLV_VENDOR_STACK_VERSION : UInt8 := 37
def TLV_UDP_ENCAPSULATION : UInt8 := 48
def TLV_IPV6_ADDRESS : UInt8 := 49
def TLV_CHANNEL_MASK : UInt8 := 53
def TLV_ENERGY_LIST : UInt8 := 57

/-- Default Thread Management UDP port of proxied requests. -/
def DEFAULT_MM_PORT : UInt16 := 61631

namespace Uri

def PETITIONING : Text := ascii "/c/cp"
def KEEP_ALIVE : Text := ascii "/c/ca"
def MGMT_COMMISSIONER_SET : Text := ascii "/c/cs"
def MGMT_DATASET_CHANGED : Text := ascii "/c/dc"
def MGMT_PANID_CONFLICT : Text := ascii "/c/pc"
def MGMT_ED_REPORT : Text := ascii "/c/er"
def RELAY_TX : Text := ascii "/c/tx"
def RELAY_RX : Text := ascii "/c/rx"
def UDP_TX : Text := ascii "/c/ut"
def UDP_RX : Text := ascii "/c/ur"
def JOIN_FIN : Text := ascii "/c/jf"
def DIAG_GET_ANSWER : Text := ascii "/d/da"

end Uri

/-! ## §2. State values. -/

/-- Value of a State TLV. -/
inductive MeshcopState where
  | reject
  | pending
  | accept
  deriving DecidableEq, Repr

namespace MeshcopState

def toWire : MeshcopState → UInt8
  | reject => 0xff
  | pending => 0x00
  | accept => 0x01

def fromWire (value : UInt8) : Except Error MeshcopState :=
  if value = 0xff then .ok reject
  else if value = 0x00 then .ok pending
  else if value = 0x01 then .ok accept
  else .error (.dataset "invalid MeshCoP State TLV value")

end MeshcopState

/-! ## §3. Requests. -/

/-- COMM_PET.req. -/
def petitionRequest (messageId : UInt16) (token : Bytes) (commissionerId : Text) :
    Except Error CoapMessage := do
  let payload ← appendTlv [] TLV_COMMISSIONER_ID commissionerId
  CoapMessage.postRequest .confirmable messageId token Uri.PETITIONING payload

/-- COMM_KA.req: a keep-alive, or with `keepAlive = false` the resignation. -/
def keepAliveRequest (messageId : UInt16) (token : Bytes) (sessionId : UInt16)
    (keepAlive : Bool) : Except Error CoapMessage := do
  let state := if keepAlive then MeshcopState.accept else MeshcopState.reject
  let payload ← appendTlv [] TLV_STATE [state.toWire]
  let payload ← appendU16 payload TLV_COMMISSIONER_SESSION_ID sessionId
  CoapMessage.postRequest .confirmable messageId token Uri.KEEP_ALIVE payload

/-- RLY_TX.ntf, with the Joiner Router KEK when one is given. -/
def relayTxRequestWithKek (messageId : UInt16) (token joinerIid : Bytes) (joinerUdpPort : UInt16)
    (joinerRouterLocator : UInt16) (payload : Bytes) (joinerRouterKek : Option Bytes) :
    Except Error CoapMessage :=
  if joinerIid.length ≠ 8 then .error (.dataset "joiner IID must be 8 bytes")
  else do
    let body ← appendU16 [] TLV_JOINER_UDP_PORT joinerUdpPort
    let body ← appendU16 body TLV_JOINER_ROUTER_LOCATOR joinerRouterLocator
    let body ← appendTlv body TLV_JOINER_IID joinerIid
    let body ← appendTlv body TLV_JOINER_DTLS_ENCAPSULATION payload
    let body ← match joinerRouterKek with
      | some kek => appendTlv body TLV_JOINER_ROUTER_KEK kek
      | none => pure body
    CoapMessage.postRequest .nonConfirmable messageId token Uri.RELAY_TX body

/-- UDP_TX.ntf encapsulating `inner` for a mesh address. -/
def udpTxRequest (messageId : UInt16) (token : Bytes) (destination : Ipv6Addr)
    (destinationPort : UInt16) (inner : Bytes) : Except Error CoapMessage := do
  let encapsulation := toBE 2 DEFAULT_MM_PORT.toNat ++ toBE 2 destinationPort.toNat ++ inner
  let payload ← appendTlv [] TLV_IPV6_ADDRESS destination.bytes
  let payload ← appendTlv payload TLV_UDP_ENCAPSULATION encapsulation
  CoapMessage.postRequest .nonConfirmable messageId token Uri.UDP_TX payload

/-- The encapsulation of a short message can always be built, and encoded under any
    identity. -/
theorem udpTxRequest_ok (destination : Ipv6Addr) (destinationPort : UInt16) {inner : Bytes}
    (h : inner.length ≤ 250) :
    ∃ outer, udpTxRequest 0 [] destination destinationPort inner = .ok outer ∧
      ∀ (messageId : UInt16) (token : Bytes), token.length ≤ 8 →
        ∃ bytes, ({ outer with messageId, token } : CoapMessage).encode = .ok bytes := by
  have hencapsulation :
      (toBE 2 DEFAULT_MM_PORT.toNat ++ toBE 2 destinationPort.toNat ++ inner).length ≤ 254 := by
    simp
    omega
  have haddress : destination.bytes.length ≤ 254 := by
    rw [destination.size]
    omega
  have hpost := fun payload =>
    @CoapMessage.postRequest_ok (ascii "c/ut") [ascii "c", ascii "ut"] (by decide) (by decide)
      (by decide) .nonConfirmable 0 [] payload
  have huri : Uri.UDP_TX = 0x2f :: ascii "c/ut" := by decide
  have hoptions : CoapMessage.encodeOptions 0
      ((CoapMessage.pathOptions [ascii "c", ascii "ut"]).insertionSort
        (fun a b => a.number ≤ b.number)) =
      .ok [0xb1, 0x63, 0x02, 0x75, 0x74] := by decide
  have hencode : ∀ (messageId : UInt16) (token payload : Bytes), token.length ≤ 8 →
      ∃ bytes, ({ ty := .nonConfirmable, code := .POST, messageId, token
                  options := CoapMessage.pathOptions [ascii "c", ascii "ut"], payload
                  } : CoapMessage).encode = .ok bytes := by
    intro messageId token payload htoken
    have hencode := @CoapMessage.encode_ok
      { ty := .nonConfirmable, code := .POST, messageId, token
        options := CoapMessage.pathOptions [ascii "c", ascii "ut"], payload } _ htoken hoptions
    obtain ⟨bytes, hbytes, -⟩ := hencode
    exact ⟨bytes, hbytes⟩
  simp only [udpTxRequest, appendTlv, TlvEntry.encode, encodeHeader, MAX_STANDARD_TLV_LENGTH,
    hencapsulation, haddress, if_true, liftTlv, bind, Except.bind, pure, Except.pure, huri, hpost]
  exact ⟨_, rfl, fun messageId token htoken => hencode messageId token _ htoken⟩

variable {joinerRouterLocator joinerUdpPort messageId : UInt16} {joinerIid payload token : Bytes}
  {kek : Option Bytes} {relay : CoapMessage}

/-- A RLY_TX.ntf that can be built is a post to the relay resource. -/
theorem relayTxRequestWithKek_posted
    (h : relayTxRequestWithKek messageId token joinerIid joinerUdpPort joinerRouterLocator payload
      kek = .ok relay) :
    ∃ body, relay = { ty := .nonConfirmable, code := .POST, messageId, token
                      options := CoapMessage.pathOptions [ascii "c", ascii "tx"]
                      payload := body } := by
  have huri : Uri.RELAY_TX = 0x2f :: ascii "c/tx" := by decide
  have hposted : ∃ body,
      CoapMessage.postRequest .nonConfirmable messageId token Uri.RELAY_TX body = .ok relay := by
    unfold relayTxRequestWithKek at h
    split at h
    · cases h
    simp only [Lib.bind_eq_ok] at h
    obtain ⟨_, -, _, -, _, -, encapsulated, -, h⟩ := h
    cases kek with
    | none => exact ⟨encapsulated, h⟩
    | some kek =>
      obtain ⟨body, -, hpost⟩ := Lib.bind_eq_ok.mp h
      exact ⟨body, hpost⟩
  obtain ⟨body, hpost⟩ := hposted
  rw [huri, @CoapMessage.postRequest_ok (ascii "c/tx") [ascii "c", ascii "tx"] (by decide)
    (by decide) (by decide)] at hpost
  cases hpost
  exact ⟨body, rfl⟩

/-- A RLY_TX.ntf that can be built can be encoded under any identity. -/
theorem relayTxRequestWithKek_encodes
    (h : relayTxRequestWithKek messageId token joinerIid joinerUdpPort joinerRouterLocator payload
      kek = .ok relay) (messageId' : UInt16) {token' : Bytes} (htoken : token'.length ≤ 8) :
    ∃ bytes, ({ relay with messageId := messageId', token := token' } : CoapMessage).encode =
      .ok bytes := by
  have hoptions : CoapMessage.encodeOptions 0
      ((CoapMessage.pathOptions [ascii "c", ascii "tx"]).insertionSort
        (fun a b => a.number ≤ b.number)) =
      .ok [0xb1, 0x63, 0x02, 0x74, 0x78] := by decide
  obtain ⟨body, rfl⟩ := relayTxRequestWithKek_posted h
  have hencode := @CoapMessage.encode_ok
    { ty := .nonConfirmable, code := .POST, messageId := messageId', token := token'
      options := CoapMessage.pathOptions [ascii "c", ascii "tx"], payload := body } _
    htoken hoptions
  obtain ⟨bytes, hbytes, -⟩ := hencode
  exact ⟨bytes, hbytes⟩

/-- A RLY_TX.ntf has the identity it was built with. -/
theorem relayTxRequestWithKek_identity
    (h : relayTxRequestWithKek messageId token joinerIid joinerUdpPort joinerRouterLocator payload
      kek = .ok relay) : { relay with messageId, token } = relay := by
  obtain ⟨body, rfl⟩ := relayTxRequestWithKek_posted h
  rfl

/-! ## §4. Responses. -/

/-- Decoded UDP_RX.ntf payload. -/
structure UdpRx where
  sourceAddress : Ipv6Addr
  sourcePort : UInt16
  destinationPort : UInt16
  payload : Bytes
  deriving DecidableEq, Repr

def requiredTlv (tlvs : TlvSet) (ty : UInt8) (name : String) : Except Error Bytes :=
  match tlvs.lastValue ty with
  | some value => .ok value
  | none => .error (.dataset s!"missing {name} TLV")

/-- A UDP_RX.ntf; `none` for other resources. -/
def parseUdpRx (message : CoapMessage) : Except Error (Option UdpRx) := do
  let path ← message.uriPath
  if path ≠ some Uri.UDP_RX then return none
  else
    let tlvs ← liftTlv (TlvSet.parse message.payload)
    let address ← requiredTlv tlvs TLV_IPV6_ADDRESS "IPv6 Address"
    match FixedBytes.ofBytes? address with
    | none => .error (.dataset "IPv6 Address TLV must be 16 bytes")
    | some sourceAddress =>
      let encapsulation ← requiredTlv tlvs TLV_UDP_ENCAPSULATION "UDP Encapsulation"
      match encapsulation with
      | s0 :: s1 :: d0 :: d1 :: payload =>
        return some { sourceAddress, sourcePort := UInt16.ofNat (ofBE [s0, s1])
                      destinationPort := UInt16.ofNat (ofBE [d0, d1]), payload }
      | _ =>
        .error (.dataset "UDP Encapsulation TLV must carry source and destination ports")

/-- The State TLV of a response payload. -/
def parseState (payload : Bytes) : Except Error (Option MeshcopState) := do
  let tlvs ← liftTlv (TlvSet.parse payload)
  match tlvs.lastValue TLV_STATE with
  | none => return none
  | some [value] => do
    let state ← MeshcopState.fromWire value
    return some state
  | some _ => .error (.dataset "State TLV must be 1 byte")

/-- Two lowercase hex digits. -/
def hexByte (byte : UInt8) : String :=
  String.ofList [Nat.digitChar (byte.toNat / 16), Nat.digitChar (byte.toNat % 16)]

/-- Checks a Changed response and reads its State TLV. -/
def parseStateResponse (response : CoapMessage) (stateMandatory : Bool) :
    Except Error (Option MeshcopState) :=
  if response.code ≠ .CHANGED then
    .error (.dataset ("expected CoAP Changed response, got 0x" ++ hexByte response.code.value))
  else do
    let state ← parseState response.payload
    if stateMandatory ∧ state = none then .error (.dataset "missing MeshCoP State TLV")
    else return state

structure MeshcopPetitionResponse where
  state : MeshcopState
  sessionId : Option UInt16
  existingCommissionerId : Option Text
  deriving DecidableEq, Repr

/-- COMM_PET.rsp. -/
def parsePetitionResponse (response : CoapMessage) : Except Error MeshcopPetitionResponse := do
  let _ ← parseStateResponse response true
  let tlvs ← liftTlv (TlvSet.parse response.payload)
  let state ← parseState response.payload
  match state with
  | none => .error (.dataset "missing petition State TLV")
  | some state =>
    let sessionId ← match tlvs.lastValue TLV_COMMISSIONER_SESSION_ID with
      | none => pure none
      | some value => do
        let id ← liftTlv (readU16 value)
        pure (some id)
    let existingCommissionerId ← match tlvs.lastValue TLV_COMMISSIONER_ID with
      | none => pure none
      | some value =>
        match fromUtf8 value with
        | some id => pure (some id)
        | none => .error (.dataset "Commissioner ID TLV is not UTF-8")
    return { state, sessionId, existingCommissionerId }

/-! ## §5. Notifications. -/

structure ChannelMaskEntry where
  page : UInt8
  mask : Bytes
  deriving DecidableEq, Repr

/-- All channel-mask entries of a value; every entry takes at least two bytes. -/
def ChannelMaskEntry.parseEntries : (fuel : Nat) → Bytes → Except Error (List ChannelMaskEntry)
  | _, [] => .ok []
  | fuel + 1, page :: length :: rest =>
    if rest.length < length.toNat then .error (.dataset "channel mask entry value is truncated")
    else do
      let entries ← parseEntries fuel (rest.drop length.toNat)
      return { page, mask := rest.take length.toNat } :: entries
  | _, _ => .error (.dataset "channel mask entry header is truncated")

def ChannelMaskEntry.parseAll (value : Bytes) : Except Error (List ChannelMaskEntry) :=
  parseEntries value.length value

/-- The page-0 masks of the entries, combined. -/
def pageZeroMask : List ChannelMaskEntry → Option UInt32 → Except Error (Option UInt32)
  | [], mask => .ok mask
  | entry :: entries, mask =>
    if entry.page = 0 then
      if entry.mask.length ≠ 4 then .error (.dataset "page-0 channel mask must be 4 bytes")
      else pageZeroMask entries (some (mask.getD 0 ||| UInt32.ofNat (ofBE entry.mask)))
    else pageZeroMask entries mask

def channelMaskFromValue (value : Bytes) : Except Error UInt32 := do
  let entries ← ChannelMaskEntry.parseAll value
  let mask ← pageZeroMask entries none
  match mask with
  | some mask => return mask
  | none => .error (.dataset "no page-0 channel mask entry")

def readArray8 (value : Bytes) : Except Error (FixedBytes 8) :=
  match FixedBytes.ofBytes? value with
  | some array => .ok array
  | none => .error (.dataset s!"expected 8 bytes, got {value.length}")

/-- Unsolicited notification or answer. -/
inductive MeshcopNotification where
  | datasetChanged
  | diagGetAnswer (data : NetDiagData)
  | panIdConflict (channelMask : UInt32) (panId : UInt16)
  | energyReport (channelMask : UInt32) (energyList : Bytes)
  | relayRx (joinerUdpPort joinerRouterLocator : UInt16) (joinerIid : FixedBytes 8)
      (payload : Bytes)
  deriving DecidableEq, Repr

def parsePanIdConflict (payload : Bytes) : Except Error MeshcopNotification := do
  let tlvs ← liftTlv (TlvSet.parse payload)
  let mask ← requiredTlv tlvs TLV_CHANNEL_MASK "Channel Mask"
  let channelMask ← channelMaskFromValue mask
  let panId ← requiredTlv tlvs TLV_PAN_ID "PAN ID"
  let panId ← liftTlv (readU16 panId)
  return .panIdConflict channelMask panId

def parseEnergyReport (payload : Bytes) : Except Error MeshcopNotification := do
  let tlvs ← liftTlv (TlvSet.parse payload)
  let channelMask ← match tlvs.lastValue TLV_CHANNEL_MASK with
    | some value => channelMaskFromValue value
    | none => pure 0
  return .energyReport channelMask ((tlvs.lastValue TLV_ENERGY_LIST).getD [])

def parseRelayRx (payload : Bytes) : Except Error MeshcopNotification := do
  let tlvs ← liftTlv (TlvSet.parse payload)
  let port ← requiredTlv tlvs TLV_JOINER_UDP_PORT "Joiner UDP Port"
  let joinerUdpPort ← liftTlv (readU16 port)
  let locator ← requiredTlv tlvs TLV_JOINER_ROUTER_LOCATOR "Joiner Router Locator"
  let joinerRouterLocator ← liftTlv (readU16 locator)
  let iid ← requiredTlv tlvs TLV_JOINER_IID "Joiner IID"
  let joinerIid ← readArray8 iid
  let payload ← requiredTlv tlvs TLV_JOINER_DTLS_ENCAPSULATION "Joiner DTLS Encapsulation"
  return .relayRx joinerUdpPort joinerRouterLocator joinerIid payload

/-- The notification a request is, when its resource is known. -/
def parseNotification (message : CoapMessage) : Except Error (Option MeshcopNotification) := do
  let path ← message.uriPath
  match path with
  | none => return none
  | some path =>
    if path = Uri.MGMT_DATASET_CHANGED then return some .datasetChanged
    else if path = Uri.MGMT_PANID_CONFLICT then some <$> parsePanIdConflict message.payload
    else if path = Uri.MGMT_ED_REPORT then some <$> parseEnergyReport message.payload
    else if path = Uri.DIAG_GET_ANSWER then
      (fun data => some (.diagGetAnswer data)) <$> NetDiagData.decode message.payload
    else if path = Uri.RELAY_RX then some <$> parseRelayRx message.payload
    else return none

@[simp] theorem requiredTlv_onlyMalformed (tlvs : TlvSet) (ty : UInt8) (name : String) :
    OnlyMalformed (requiredTlv tlvs ty name) := by
  unfold requiredTlv
  split <;> simp

theorem parseEntries_onlyMalformed (fuel : Nat) (bytes : Bytes) :
    OnlyMalformed (ChannelMaskEntry.parseEntries fuel bytes) := by
  fun_induction ChannelMaskEntry.parseEntries fuel bytes with
  | case1 | case2 | case4 => simp
  | case3 fuel page length rest _ ih => exact failsOnly_bind ih (fun _ => failsOnly_pure _)

@[simp] theorem channelMaskFromValue_onlyMalformed (value : Bytes) :
    OnlyMalformed (channelMaskFromValue value) := by
  have hmask : ∀ (entries : List ChannelMaskEntry) (mask : Option UInt32),
      OnlyMalformed (pageZeroMask entries mask) := by
    intro entries
    induction entries with
    | nil => simp [pageZeroMask]
    | cons entry entries ih =>
      intro mask
      unfold pageZeroMask
      split
      · split
        · simp
        · exact ih _
      · exact ih _
  refine failsOnly_bind (parseEntries_onlyMalformed _ _) (fun entries => ?_)
  refine failsOnly_bind (hmask entries none) (fun mask => ?_)
  cases mask <;> simp

@[simp] theorem parsePanIdConflict_onlyMalformed (payload : Bytes) :
    OnlyMalformed (parsePanIdConflict payload) := by
  refine failsOnly_bind (liftTlv_onlyMalformed _) (fun tlvs => ?_)
  refine failsOnly_bind (requiredTlv_onlyMalformed _ _ _) (fun mask => ?_)
  refine failsOnly_bind (channelMaskFromValue_onlyMalformed _) (fun channelMask => ?_)
  refine failsOnly_bind (requiredTlv_onlyMalformed _ _ _) (fun panId => ?_)
  exact failsOnly_bind (liftTlv_onlyMalformed _) (fun _ => failsOnly_pure _)

@[simp] theorem parseEnergyReport_onlyMalformed (payload : Bytes) :
    OnlyMalformed (parseEnergyReport payload) := by
  refine failsOnly_bind (liftTlv_onlyMalformed _) (fun tlvs => ?_)
  dsimp only
  split <;> simp

@[simp] theorem parseRelayRx_onlyMalformed (payload : Bytes) :
    OnlyMalformed (parseRelayRx payload) := by
  have hiid : ∀ value, OnlyMalformed (readArray8 value) := by
    intro value
    unfold readArray8
    split <;> simp
  refine failsOnly_bind (liftTlv_onlyMalformed _) (fun tlvs => ?_)
  refine failsOnly_bind (requiredTlv_onlyMalformed _ _ _) (fun port => ?_)
  refine failsOnly_bind (liftTlv_onlyMalformed _) (fun joinerUdpPort => ?_)
  refine failsOnly_bind (requiredTlv_onlyMalformed _ _ _) (fun locator => ?_)
  refine failsOnly_bind (liftTlv_onlyMalformed _) (fun joinerRouterLocator => ?_)
  refine failsOnly_bind (requiredTlv_onlyMalformed _ _ _) (fun iid => ?_)
  refine failsOnly_bind (hiid _) (fun joinerIid => ?_)
  exact failsOnly_bind (requiredTlv_onlyMalformed _ _ _) (fun _ => failsOnly_pure _)

/-- **Whatever bytes a request carries, parsing it fails as malformed data only.** -/
theorem parseNotification_onlyMalformed (message : CoapMessage) :
    OnlyMalformed (parseNotification message) := by
  refine failsOnly_bind (CoapMessage.uriPath_onlyMalformed message) (fun path => ?_)
  cases path with
  | none => simp
  | some path =>
    dsimp only
    repeat' split
    all_goals simp

end Meshcop
