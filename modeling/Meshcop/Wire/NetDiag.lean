/-
  Meshcop.Wire.NetDiag — network-diagnostic payloads (`meshcop/src/meshcop/diag/*.rs`).

  A payload is a TLV set; `NetDiagData.decode` goes over its entries in order, each known type
  overwriting its field (the child address lists accumulate), unknown types ignored.
-/

import Meshcop.Wire.Tlv

namespace Meshcop

open Lib

abbrev Ipv6Addr := FixedBytes 16

/-! ## §1. The data. -/

structure ModeData where
  rxOnWhenIdle : Bool
  isMtd : Bool
  requiresFullNetworkData : Bool
  deriving DecidableEq, Repr

structure ChildTableEntry where
  timeoutExponent : UInt8
  incomingLinkQuality : UInt8
  childId : UInt16
  mode : ModeData
  deriving DecidableEq, Repr

structure LeaderData where
  partitionId : UInt32
  weighting : UInt8
  dataVersion : UInt8
  stableDataVersion : UInt8
  routerId : UInt8
  deriving DecidableEq, Repr

structure RouteDataEntry where
  routerId : UInt8
  outgoingLinkQuality : UInt8
  incomingLinkQuality : UInt8
  routeCost : UInt8
  deriving DecidableEq, Repr

structure Route64 where
  idSequence : UInt8
  mask : Bytes
  routeData : List RouteDataEntry
  deriving DecidableEq, Repr

structure ChildIpv6AddrInfo where
  rloc16 : UInt16
  childId : UInt16
  addresses : List Ipv6Addr
  deriving DecidableEq, Repr

structure MacCounters where
  ifInUnknownProtos : UInt32
  ifInErrors : UInt32
  ifOutErrors : UInt32
  ifInUcastPkts : UInt32
  ifInBroadcastPkts : UInt32
  ifInDiscards : UInt32
  ifOutUcastPkts : UInt32
  ifOutBroadcastPkts : UInt32
  ifOutDiscards : UInt32
  deriving DecidableEq, Repr

structure Connectivity where
  parentPriority : Int
  linkQuality3 : UInt8
  linkQuality2 : UInt8
  linkQuality1 : UInt8
  leaderCost : UInt8
  idSequence : UInt8
  activeRouters : UInt8
  rxOffChildBufferSize : Option UInt16
  rxOffChildDatagramCount : Option UInt8
  deriving DecidableEq, Repr

structure HasRouteEntry where
  rloc16 : UInt16
  routerPreference : UInt8
  isNat64 : Bool
  deriving DecidableEq, Repr

structure BorderRouterEntry where
  rloc16 : UInt16
  prefixPreference : UInt8
  isPreferred : Bool
  isSlaac : Bool
  isDhcp : Bool
  isConfigure : Bool
  isDefaultRoute : Bool
  isOnMesh : Bool
  isNdDns : Bool
  isDp : Bool
  deriving DecidableEq, Repr

structure SixLowPanContext where
  isCompress : Bool
  contextId : UInt8
  contextLength : UInt8
  deriving DecidableEq, Repr

structure PrefixEntry where
  domainId : UInt8
  prefixBitLength : UInt8
  prefixBytes : Bytes
  sixLowPanContext : Option SixLowPanContext := none
  hasRoute : List HasRouteEntry := []
  borderRouters : List BorderRouterEntry := []
  deriving DecidableEq, Repr

structure NetworkData where
  prefixes : List PrefixEntry
  deriving DecidableEq, Repr

structure NetDiagData where
  extMacAddr : Option Bytes := none
  macAddr : Option UInt16 := none
  mode : Option ModeData := none
  timeout : Option UInt32 := none
  connectivity : Option Connectivity := none
  route64 : Option Route64 := none
  leaderData : Option LeaderData := none
  networkData : Option NetworkData := none
  addresses : Option (List Ipv6Addr) := none
  macCounters : Option MacCounters := none
  batteryLevel : Option UInt8 := none
  supplyVoltage : Option UInt16 := none
  childTable : Option (List ChildTableEntry) := none
  channelPages : Option Bytes := none
  typeList : Option Bytes := none
  eui64 : Option (FixedBytes 8) := none
  childIpv6Addresses : Option (List ChildIpv6AddrInfo) := none
  deriving DecidableEq, Repr

/-! ## §2. Values. -/

namespace NetDiag

/-- Whether the given bit of a byte is set. -/
def flag (byte : UInt8) (bit : UInt8) : Bool := (byte >>> bit) &&& 0x01 ≠ 0

def u16 (high low : UInt8) : UInt16 := UInt16.ofNat (ofBE [high, low])

/-- A value of `width` bytes. -/
def readNumber (value : Bytes) (width : Nat) (name : String) (unit : String) : Except Error Nat :=
  if value.length = width then .ok (ofBE value)
  else .error (.dataset s!"{name} must be {width} {unit}, got {value.length}")

def readU8 (value : Bytes) (name : String) : Except Error UInt8 := do
  let n ← readNumber value 1 name "byte"
  return UInt8.ofNat n

def readU16 (value : Bytes) (name : String) : Except Error UInt16 := do
  let n ← readNumber value 2 name "bytes"
  return UInt16.ofNat n

def readU32 (value : Bytes) (name : String) : Except Error UInt32 := do
  let n ← readNumber value 4 name "bytes"
  return UInt32.ofNat n

def decodeMode : Bytes → Except Error ModeData
  | [mode] =>
    .ok { rxOnWhenIdle := mode &&& 0x08 ≠ 0, isMtd := mode &&& 0x02 = 0
          requiresFullNetworkData := mode &&& 0x01 ≠ 0 }
  | value => .error (.dataset s!"Mode value must be 1 byte, got {value.length}")

/-- The pieces of `size` bytes of a value whose length is a multiple of `size`. -/
def chunks (size : Nat) (value : Bytes) : List Bytes :=
  (List.range (value.length / size)).map fun i => (value.drop (i * size)).take size

/-- One network-data TLV (type in the upper seven bits) and what follows. -/
def networkDataTlv : Bytes → Except Error ((UInt8 × Bytes) × Bytes)
  | ty :: length :: rest =>
    if rest.length < length.toNat then .error (.dataset "network data TLV value is truncated")
    else .ok ((ty >>> 1, rest.take length.toNat), rest.drop length.toNat)
  | _ => .error (.dataset "network data TLV header is truncated")

/-- Folds `step` over the network-data TLVs of a value, stopping at the first error. -/
def foldNetworkData {α : Type} (step : α → UInt8 → Bytes → Except Error α) :
    (fuel : Nat) → α → Bytes → Except Error α
  | _, acc, [] => .ok acc
  | 0, _, _ => .error (.dataset "network data TLV header is truncated")
  | fuel + 1, acc, bytes => do
    let ((ty, value), rest) ← networkDataTlv bytes
    let acc ← step acc ty value
    foldNetworkData step fuel acc rest

def decodeHasRoute (value : Bytes) : Except Error (List HasRouteEntry) :=
  if value.length % 3 ≠ 0 then
    .error (.dataset s!"HasRoute length {value.length} is not a multiple of 3")
  else
    .ok ((chunks 3 value).map fun chunk =>
      let flags : UInt8 := chunk.getD 2 0
      { rloc16 := u16 (chunk.getD 0 0) (chunk.getD 1 0), routerPreference := flags >>> 6
        isNat64 := flag flags 5 })

def decodeBorderRouter (value : Bytes) : Except Error (List BorderRouterEntry) :=
  if value.length % 4 ≠ 0 then
    .error (.dataset s!"BorderRouter length {value.length} is not a multiple of 4")
  else
    .ok ((chunks 4 value).map fun chunk =>
      let flags : UInt8 := chunk.getD 2 0
      let more : UInt8 := chunk.getD 3 0
      { rloc16 := u16 (chunk.getD 0 0) (chunk.getD 1 0), prefixPreference := flags >>> 6
        isPreferred := flag flags 5, isSlaac := flag flags 4, isDhcp := flag flags 3
        isConfigure := flag flags 2, isDefaultRoute := flag flags 1, isOnMesh := flag flags 0
        isNdDns := flag more 7, isDp := flag more 6 })

def decodeSixLowPanContext : Bytes → Except Error SixLowPanContext
  | [flags, contextLength] =>
    .ok { isCompress := flag flags 4, contextId := flags &&& 0x0f, contextLength }
  | value => .error (.dataset s!"6LoWPAN context must be 2 bytes, got {value.length}")

/-- One sub-TLV of a prefix entry. -/
def prefixSubTlv (entry : PrefixEntry) (ty : UInt8) (value : Bytes) : Except Error PrefixEntry :=
  if ty = 0 then do
    let routes ← decodeHasRoute value
    return { entry with hasRoute := entry.hasRoute ++ routes }
  else if ty = 2 then do
    let routers ← decodeBorderRouter value
    return { entry with borderRouters := entry.borderRouters ++ routers }
  else if ty = 3 then do
    let context ← decodeSixLowPanContext value
    return { entry with sixLowPanContext := some context }
  else .ok entry

def decodePrefixEntry : Bytes → Except Error PrefixEntry
  | domainId :: prefixBitLength :: rest =>
    let prefixLength := (prefixBitLength.toNat + 7) / 8
    if rest.length < prefixLength then .error (.dataset "Prefix bytes are truncated")
    else
      let entry := { domainId, prefixBitLength, prefixBytes := rest.take prefixLength }
      foldNetworkData prefixSubTlv rest.length entry (rest.drop prefixLength)
  | _ => .error (.dataset "Prefix entry is truncated")

def decodeNetworkData (value : Bytes) : Except Error NetworkData :=
  foldNetworkData (fun data ty value =>
      if ty = 1 then do
        let entry ← decodePrefixEntry value
        return { data with prefixes := data.prefixes ++ [entry] }
      else .ok data)
    value.length { prefixes := [] } value

/-- The 2-bit signed parent priority: 01 high, 00 medium, 11 low, 10 reserved. -/
def parentPriority (first : UInt8) : Int :=
  if first >>> 6 = 1 then 1 else if first >>> 6 = 0 then 0 else if first >>> 6 = 3 then -1 else -2

def decodeConnectivity : Bytes → Except Error Connectivity
  | first :: lq3 :: lq2 :: lq1 :: leaderCost :: idSequence :: activeRouters :: rest =>
    let (bufferSize, datagramCount) := match rest with
      | high :: low :: count :: _ => (some (u16 high low), some count)
      | _ => (none, none)
    .ok { parentPriority := parentPriority first, linkQuality3 := lq3, linkQuality2 := lq2
          linkQuality1 := lq1, leaderCost, idSequence, activeRouters
          rxOffChildBufferSize := bufferSize, rxOffChildDatagramCount := datagramCount }
  | value => .error (.dataset s!"Connectivity must be at least 7 bytes, got {value.length}")

/-- Bit positions set in a router mask, counted from its first byte's high bit. -/
def routerIds (mask : Bytes) : List Nat :=
  (List.range 64).filter fun bit =>
    mask.getD (bit / 8) 0 &&& ((0x80 : UInt8) >>> UInt8.ofNat (bit % 8)) ≠ 0

def decodeRoute64 (value : Bytes) : Except Error Route64 :=
  if value.length < 9 then
    .error (.dataset s!"Route64 must be at least 9 bytes, got {value.length}")
  else
    let mask := (value.drop 1).take 8
    let ids := routerIds mask
    let routeBytes := value.drop 9
    if routeBytes.length ≠ ids.length then
      .error (.dataset (s!"Route64 route data has {routeBytes.length} entries but the mask " ++
        s!"assigns {ids.length} router IDs"))
    else
      .ok { idSequence := value.getD 0 0, mask
            routeData := (ids.zip routeBytes).map fun (id, byte) =>
              { routerId := UInt8.ofNat id, outgoingLinkQuality := byte >>> 6
                incomingLinkQuality := (byte >>> 4) &&& 0x03, routeCost := byte &&& 0x0f } }

def decodeLeaderData : Bytes → Except Error LeaderData
  | [p0, p1, p2, p3, weighting, dataVersion, stableDataVersion, routerId] =>
    .ok { partitionId := UInt32.ofNat (ofBE [p0, p1, p2, p3]), weighting, dataVersion
          stableDataVersion, routerId }
  | value => .error (.dataset s!"Leader Data must be 8 bytes, got {value.length}")

def decodeIpv6AddressList (value : Bytes) : Except Error (List Ipv6Addr) :=
  if value.length % 16 ≠ 0 then
    .error (.dataset s!"IPv6 address list length {value.length} is not a multiple of 16")
  else .ok ((chunks 16 value).filterMap FixedBytes.ofBytes?)

def decodeMacCounters (value : Bytes) : Except Error MacCounters :=
  if value.length ≠ 36 then
    .error (.dataset s!"MAC Counters must be 36 bytes, got {value.length}")
  else
    let counter (i : Nat) : UInt32 := UInt32.ofNat (ofBE ((value.drop i).take 4))
    .ok { ifInUnknownProtos := counter 0, ifInErrors := counter 4, ifOutErrors := counter 8
          ifInUcastPkts := counter 12, ifInBroadcastPkts := counter 16, ifInDiscards := counter 20
          ifOutUcastPkts := counter 24, ifOutBroadcastPkts := counter 28
          ifOutDiscards := counter 32 }

/-- One child: the low bit of the first byte is the high bit of the nine-bit child id. -/
def decodeChild (chunk : Bytes) : Except Error ChildTableEntry := do
  let first := chunk.getD 0 0
  let mode ← decodeMode ((chunk.drop 2).take 1)
  return { timeoutExponent := first >>> 3, incomingLinkQuality := (first >>> 1) &&& 0x03
           childId := UInt16.ofNat ((first &&& 0x01).toNat * 256 + (chunk.getD 1 0).toNat), mode }

def decodeChildTable (value : Bytes) : Except Error (List ChildTableEntry) :=
  if value.length % 3 ≠ 0 then
    .error (.dataset s!"Child Table length {value.length} is not a multiple of 3")
  else (chunks 3 value).mapM decodeChild

def decodeChildIpv6Addresses : Bytes → Except Error ChildIpv6AddrInfo
  | high :: low :: rest =>
    if rest.length % 16 ≠ 0 then
      .error (.dataset "Child IPv6 Address List must be an RLOC16 followed by whole addresses")
    else do
      let addresses ← decodeIpv6AddressList rest
      return { rloc16 := u16 high low, childId := u16 high low &&& 0x01ff, addresses }
  | _ => .error (.dataset "Child IPv6 Address List must be an RLOC16 followed by whole addresses")

/-! ## §3. The payload. -/

/-- One TLV of the payload. -/
def decodeEntry (out : NetDiagData) (entry : TlvEntry) : Except Error NetDiagData :=
  let value := entry.value
  match entry.ty.toNat with
  | 0 => .ok { out with extMacAddr := some value }
  | 1 => do return { out with macAddr := some (← readU16 value "MAC Address") }
  | 2 => do return { out with mode := some (← decodeMode value) }
  | 3 => do return { out with timeout := some (← readU32 value "Timeout") }
  | 4 => do return { out with connectivity := some (← decodeConnectivity value) }
  | 5 => do return { out with route64 := some (← decodeRoute64 value) }
  | 6 => do return { out with leaderData := some (← decodeLeaderData value) }
  | 7 => do return { out with networkData := some (← decodeNetworkData value) }
  | 8 => do return { out with addresses := some (← decodeIpv6AddressList value) }
  | 9 => do return { out with macCounters := some (← decodeMacCounters value) }
  | 14 => do return { out with batteryLevel := some (← readU8 value "Battery Level") }
  | 15 => do return { out with supplyVoltage := some (← readU16 value "Supply Voltage") }
  | 16 => do return { out with childTable := some (← decodeChildTable value) }
  | 17 => .ok { out with channelPages := some value }
  | 18 => .ok { out with typeList := some value }
  | 23 =>
    match FixedBytes.ofBytes? value with
    | some eui64 => .ok { out with eui64 := some eui64 }
    | none => .error (.dataset s!"EUI-64 must be 8 bytes, got {value.length}")
  | 30 => do
    let info ← decodeChildIpv6Addresses value
    return { out with childIpv6Addresses := some (out.childIpv6Addresses.getD [] ++ [info]) }
  | _ => .ok out

end NetDiag

def NetDiagData.decode (payload : Bytes) : Except Error NetDiagData := do
  let tlvs ← liftTlv (TlvSet.parse payload)
  tlvs.entries.foldlM NetDiag.decodeEntry {}

/-! ## §4. A payload is refused only as malformed. -/

namespace NetDiag

@[simp] theorem readNumber_onlyMalformed (value : Bytes) (width : Nat) (name unit : String) :
    OnlyMalformed (readNumber value width name unit) := by
  unfold readNumber
  split <;> simp

@[simp] theorem readU8_onlyMalformed (value : Bytes) (name : String) :
    OnlyMalformed (readU8 value name) := by
  simp [readU8]

@[simp] theorem readU16_onlyMalformed (value : Bytes) (name : String) :
    OnlyMalformed (readU16 value name) := by
  simp [readU16]

@[simp] theorem readU32_onlyMalformed (value : Bytes) (name : String) :
    OnlyMalformed (readU32 value name) := by
  simp [readU32]

@[simp] theorem decodeMode_onlyMalformed (value : Bytes) : OnlyMalformed (decodeMode value) := by
  unfold decodeMode
  split <;> simp

@[simp] theorem decodeIpv6AddressList_onlyMalformed (value : Bytes) :
    OnlyMalformed (decodeIpv6AddressList value) := by
  unfold decodeIpv6AddressList
  split <;> simp

@[simp] theorem decodeChildIpv6Addresses_onlyMalformed (value : Bytes) :
    OnlyMalformed (decodeChildIpv6Addresses value) := by
  unfold decodeChildIpv6Addresses
  split
  · split <;> simp
  · simp

@[simp] theorem decodeChildTable_onlyMalformed (value : Bytes) :
    OnlyMalformed (decodeChildTable value) := by
  unfold decodeChildTable
  split
  · simp
  · exact failsOnly_mapM (fun chunk => by simp [decodeChild]) _

theorem foldNetworkData_onlyMalformed {α : Type} {step : α → UInt8 → Bytes → Except Error α}
    (hstep : ∀ acc ty value, OnlyMalformed (step acc ty value)) (fuel : Nat) (acc : α) (bytes : Bytes) :
    OnlyMalformed (foldNetworkData step fuel acc bytes) := by
  have htlv : ∀ bytes, OnlyMalformed (networkDataTlv bytes) := by
    intro bytes
    unfold networkDataTlv
    split
    · split <;> simp
    · simp
  induction fuel generalizing acc bytes with
  | zero => cases bytes <;> simp [foldNetworkData]
  | succ fuel ih =>
    cases bytes with
    | nil => simp [foldNetworkData]
    | cons byte bytes =>
      exact failsOnly_bind (htlv _) (fun _ => failsOnly_bind (hstep _ _ _) (fun _ => ih _ _))

@[simp] theorem prefixSubTlv_onlyMalformed (entry : PrefixEntry) (ty : UInt8) (value : Bytes) :
    OnlyMalformed (prefixSubTlv entry ty value) := by
  unfold prefixSubTlv decodeHasRoute decodeBorderRouter decodeSixLowPanContext
  split
  · split <;> simp
  split
  · split <;> simp
  · split
    · split <;> simp
    · simp

@[simp] theorem decodePrefixEntry_onlyMalformed (value : Bytes) :
    OnlyMalformed (decodePrefixEntry value) := by
  unfold decodePrefixEntry
  split
  · dsimp only
    split
    · simp
    · exact foldNetworkData_onlyMalformed (fun _ _ _ => prefixSubTlv_onlyMalformed _ _ _) _ _ _
  · simp

@[simp] theorem decodeNetworkData_onlyMalformed (value : Bytes) :
    OnlyMalformed (decodeNetworkData value) := by
  refine foldNetworkData_onlyMalformed ?_ _ _ _
  intro data ty value
  split <;> simp

@[simp] theorem decodeConnectivity_onlyMalformed (value : Bytes) :
    OnlyMalformed (decodeConnectivity value) := by
  unfold decodeConnectivity
  split <;> simp

@[simp] theorem decodeRoute64_onlyMalformed (value : Bytes) :
    OnlyMalformed (decodeRoute64 value) := by
  unfold decodeRoute64
  split
  · simp
  · dsimp only
    split <;> simp

@[simp] theorem decodeLeaderData_onlyMalformed (value : Bytes) :
    OnlyMalformed (decodeLeaderData value) := by
  unfold decodeLeaderData
  split <;> simp

@[simp] theorem decodeMacCounters_onlyMalformed (value : Bytes) :
    OnlyMalformed (decodeMacCounters value) := by
  unfold decodeMacCounters
  split <;> simp

theorem decodeEntry_onlyMalformed (out : NetDiagData) (entry : TlvEntry) :
    OnlyMalformed (decodeEntry out entry) := by
  unfold decodeEntry
  dsimp only
  split
  case h_16 => split <;> simp
  all_goals simp

end NetDiag

@[simp] theorem NetDiagData.decode_onlyMalformed (payload : Bytes) :
    OnlyMalformed (NetDiagData.decode payload) :=
  failsOnly_bind (liftTlv_onlyMalformed _)
    (fun _ => failsOnly_foldlM NetDiag.decodeEntry_onlyMalformed _ _)

end Meshcop
