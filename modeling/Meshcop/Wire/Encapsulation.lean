/-
  Meshcop.Wire.Encapsulation — proxied and relayed datagrams survive the wire
  (`meshcop/src/meshcop/{builders,parsers}.rs`, `meshcop/src/tlv.rs`).

  The border agent takes the datagram of a UDP_TX.ntf to the mesh and brings the answer back as
  a UDP_RX.ntf; a joiner's datagrams come as RLY_RX.ntf and leave as RLY_TX.ntf.  Builders and
  parsers are written apart.  Here the payload of a built request is put under the path of the
  parser: what was wrapped is what is unwrapped, through the TLVs and through CoAP.

  Main results:
    * `parseUdpRx_udpTxRequest`   — a proxied datagram comes back with its address and port;
    * `parseNotification_relayTx` — a relayed datagram comes back with its joiner's address;
    * `encapsulation_lossless`    — both, after encoding and decoding the carrier.
-/

import Meshcop.Wire.Messages
import Meshcop.Wire.TlvCodec
import Meshcop.Wire.UriPath

namespace Meshcop

open Lib

/-! ## §1. Appending TLVs. -/

/-- A TLV that fits is read back behind those before it. -/
theorem appendTlv_of_parse {out : Bytes} {entries : List TlvEntry} (ty : UInt8) {value : Bytes}
    (hout : TlvSet.parse out = .ok { entries }) (hfits : value.length ≤ 65535) :
    ∃ out', appendTlv out ty value = .ok out' ∧
      TlvSet.parse out' = .ok { entries := entries ++ [{ ty, value }] } := by
  have hencode : TlvEntry.encode { ty, value } = .ok _ := TlvEntry.encode_eq_ok_iff.mpr ⟨hfits, rfl⟩
  refine ⟨out ++ ({ ty, value } : TlvEntry).written ({ ty, value } : TlvEntry).shortestForm, ?_, ?_⟩
  · unfold appendTlv
    rw [hencode]
    rfl
  · rw [TlvSet.parse_eq_ok_iff] at hout ⊢
    have hlast : Written TlvEntry.IsWritten [{ ty, value }]
        (({ ty, value } : TlvEntry).written ({ ty, value } : TlvEntry).shortestForm ++ []) :=
      .cons (TlvEntry.isWritten_of_encode hencode) .nil
    rw [List.append_nil] at hlast
    exact hout.append hlast

theorem appendU16_of_parse {out : Bytes} {entries : List TlvEntry} (ty : UInt8) (value : UInt16)
    (hout : TlvSet.parse out = .ok { entries }) : ∃ out', appendU16 out ty value = .ok out' ∧
      TlvSet.parse out' = .ok { entries := entries ++ [{ ty, value := toBE 2 value.toNat }] } :=
  appendTlv_of_parse ty hout (by rw [length_toBE]; decide)

/-- A two-byte number is read back. -/
theorem ofNat_ofBE_toBE (value : UInt16) : UInt16.ofNat (ofBE (toBE 2 value.toNat)) = value := by
  have hlt : value.toNat < 256 ^ 2 := value.toNat_lt
  rw [ofBE_toBE, Nat.mod_eq_of_lt hlt, UInt16.ofNat_toNat]

theorem readU16_toBE (value : UInt16) : readU16 (toBE 2 value.toNat) = .ok value := by
  unfold readU16
  rw [if_pos (length_toBE 2 value.toNat), ofNat_ofBE_toBE]

/-! ## §2. Proxied datagrams. -/

/-- The value of a UDP Encapsulation TLV. -/
def encapsulated (destinationPort : UInt16) (inner : Bytes) : Bytes :=
  toBE 2 DEFAULT_MM_PORT.toNat ++ toBE 2 destinationPort.toNat ++ inner

/-- A UDP_TX.ntf for a datagram that fits: a post whose payload is the address and the datagram
    behind its ports. -/
theorem udpTxRequest_eq_ok (messageId : UInt16) (token : Bytes) (destination : Ipv6Addr)
    (destinationPort : UInt16) {inner : Bytes} (hfits : inner.length ≤ 65531) :
    ∃ payload, udpTxRequest messageId token destination destinationPort inner =
        .ok { ty := .nonConfirmable, code := .POST, messageId, token
              options := CoapMessage.pathOptions [ascii "c", ascii "ut"], payload } ∧
      TlvSet.parse payload = .ok { entries :=
        [{ ty := TLV_IPV6_ADDRESS, value := destination.bytes },
         { ty := TLV_UDP_ENCAPSULATION, value := encapsulated destinationPort inner }] } := by
  have hnone : TlvSet.parse [] = .ok { entries := [] } := rfl
  obtain ⟨front, hfront, hparseFront⟩ := appendTlv_of_parse TLV_IPV6_ADDRESS hnone
    (show destination.bytes.length ≤ 65535 by rw [destination.size]; decide)
  obtain ⟨payload, hpayload, hparse⟩ := appendTlv_of_parse TLV_UDP_ENCAPSULATION hparseFront
    (show (encapsulated destinationPort inner).length ≤ 65535 by
      unfold encapsulated
      rw [List.length_append, List.length_append, length_toBE, length_toBE]
      omega)
  have huri : Uri.UDP_TX = 0x2f :: ascii "c/ut" := by decide
  refine ⟨payload, ?_, hparse⟩
  unfold udpTxRequest
  rw [hfront]
  show (appendTlv front TLV_UDP_ENCAPSULATION (encapsulated destinationPort inner) >>= _) = _
  rw [hpayload, huri]
  exact @CoapMessage.postRequest_ok (ascii "c/ut") [ascii "c", ascii "ut"] (by decide) (by decide)
    (by decide) _ _ _ _

/-- What the parser of UDP_RX.ntf makes of those TLVs. -/
theorem parseUdpRx_of_parse {message : CoapMessage} {address : Ipv6Addr} {port : UInt16}
    {inner : Bytes} (hpath : message.uriPath = .ok (some Uri.UDP_RX))
    (hparse : TlvSet.parse message.payload = .ok { entries :=
      [{ ty := TLV_IPV6_ADDRESS, value := address.bytes },
       { ty := TLV_UDP_ENCAPSULATION, value := encapsulated port inner }] }) :
    parseUdpRx message = .ok (some { sourceAddress := address, sourcePort := DEFAULT_MM_PORT
                                     destinationPort := port, payload := inner }) := by
  have haddress : FixedBytes.ofBytes? address.bytes = some address := dif_pos address.size
  unfold parseUdpRx
  refine bind_eq_ok.mpr ⟨some Uri.UDP_RX, hpath, ?_⟩
  rw [if_neg (not_not_intro rfl), hparse]
  refine bind_eq_ok.mpr ⟨_, rfl, ?_⟩
  refine bind_eq_ok.mpr ⟨address.bytes, rfl, ?_⟩
  rw [haddress]
  refine bind_eq_ok.mpr ⟨encapsulated port inner, rfl, ?_⟩
  show Except.ok (some ({ sourceAddress := address
                          sourcePort := UInt16.ofNat (ofBE (toBE 2 DEFAULT_MM_PORT.toNat))
                          destinationPort := UInt16.ofNat (ofBE (toBE 2 port.toNat))
                          payload := inner } : UdpRx)) = _
  rw [ofNat_ofBE_toBE, ofNat_ofBE_toBE]

/-! ## §3. Relayed datagrams. -/

/-- The TLVs of a relayed datagram, the KEK behind them when there is one. -/
def relayEntries (joinerIid : FixedBytes 8) (joinerUdpPort joinerRouterLocator : UInt16)
    (payload : Bytes) (kek : Option (FixedBytes 16)) : List TlvEntry :=
  [{ ty := TLV_JOINER_UDP_PORT, value := toBE 2 joinerUdpPort.toNat },
   { ty := TLV_JOINER_ROUTER_LOCATOR, value := toBE 2 joinerRouterLocator.toNat },
   { ty := TLV_JOINER_IID, value := joinerIid.bytes },
   { ty := TLV_JOINER_DTLS_ENCAPSULATION, value := payload }]
    ++ kek.toList.map (fun kek => { ty := TLV_JOINER_ROUTER_KEK, value := kek.bytes })

/-- A RLY_TX.ntf for a datagram that fits. -/
theorem relayTxRequestWithKek_eq_ok (messageId : UInt16) (token : Bytes) (joinerIid : FixedBytes 8)
    (joinerUdpPort joinerRouterLocator : UInt16) {payload : Bytes} (kek : Option (FixedBytes 16))
    (hfits : payload.length ≤ 65535) :
    ∃ body, relayTxRequestWithKek messageId token joinerIid.bytes joinerUdpPort joinerRouterLocator
        payload (kek.map FixedBytes.bytes) =
        .ok { ty := .nonConfirmable, code := .POST, messageId, token
              options := CoapMessage.pathOptions [ascii "c", ascii "tx"], payload := body } ∧
      TlvSet.parse body =
        .ok ⟨relayEntries joinerIid joinerUdpPort joinerRouterLocator payload kek⟩ := by
  have hnone : TlvSet.parse [] = .ok { entries := [] } := rfl
  obtain ⟨body₁, hport, hparse₁⟩ := appendU16_of_parse TLV_JOINER_UDP_PORT joinerUdpPort hnone
  obtain ⟨body₂, hlocator, hparse₂⟩ :=
    appendU16_of_parse TLV_JOINER_ROUTER_LOCATOR joinerRouterLocator hparse₁
  obtain ⟨body₃, hiid, hparse₃⟩ := appendTlv_of_parse TLV_JOINER_IID hparse₂
    (show joinerIid.bytes.length ≤ 65535 by rw [joinerIid.size]; decide)
  obtain ⟨body₄, hpayload, hparse₄⟩ :=
    appendTlv_of_parse TLV_JOINER_DTLS_ENCAPSULATION hparse₃ hfits
  have hpost : ∀ body, CoapMessage.postRequest .nonConfirmable messageId token Uri.RELAY_TX body =
      .ok { ty := .nonConfirmable, code := .POST, messageId, token
            options := CoapMessage.pathOptions [ascii "c", ascii "tx"], payload := body } := by
    have huri : Uri.RELAY_TX = 0x2f :: ascii "c/tx" := by decide
    intro body
    rw [huri]
    exact @CoapMessage.postRequest_ok (ascii "c/tx") [ascii "c", ascii "tx"] (by decide)
      (by decide) (by decide) _ _ _ _
  unfold relayTxRequestWithKek
  rw [if_neg (not_not_intro joinerIid.size)]
  -- the first four TLVs are the same with and without a KEK
  cases kek with
  | none =>
    refine ⟨body₄, ?_, hparse₄⟩
    refine bind_eq_ok.mpr ⟨body₁, hport, bind_eq_ok.mpr ⟨body₂, hlocator, ?_⟩⟩
    exact bind_eq_ok.mpr ⟨body₃, hiid, bind_eq_ok.mpr ⟨body₄, hpayload, hpost body₄⟩⟩
  | some kek =>
    obtain ⟨body₅, hkek, hparse₅⟩ := appendTlv_of_parse TLV_JOINER_ROUTER_KEK hparse₄
      (show kek.bytes.length ≤ 65535 by rw [kek.size]; decide)
    refine ⟨body₅, ?_, hparse₅⟩
    refine bind_eq_ok.mpr ⟨body₁, hport, bind_eq_ok.mpr ⟨body₂, hlocator, ?_⟩⟩
    refine bind_eq_ok.mpr ⟨body₃, hiid, bind_eq_ok.mpr ⟨body₄, hpayload, ?_⟩⟩
    exact bind_eq_ok.mpr ⟨body₅, hkek, hpost body₅⟩

/-- What the parser of RLY_RX.ntf makes of those TLVs. -/
theorem parseRelayRx_of_parse {body payload : Bytes} {joinerIid : FixedBytes 8}
    {joinerUdpPort joinerRouterLocator : UInt16} {kek : Option (FixedBytes 16)}
    (hparse : TlvSet.parse body =
      .ok ⟨relayEntries joinerIid joinerUdpPort joinerRouterLocator payload kek⟩) :
    parseRelayRx body = .ok (.relayRx joinerUdpPort joinerRouterLocator joinerIid payload) := by
  have hiid : readArray8 joinerIid.bytes = .ok joinerIid := by
    unfold readArray8 FixedBytes.ofBytes?
    rw [dif_pos joinerIid.size]
  -- a KEK comes last and is of another type than all that are asked for
  have hlast : ∀ name, requiredTlv
      ⟨relayEntries joinerIid joinerUdpPort joinerRouterLocator payload kek⟩
      TLV_JOINER_UDP_PORT name = .ok (toBE 2 joinerUdpPort.toNat) ∧ requiredTlv
      ⟨relayEntries joinerIid joinerUdpPort joinerRouterLocator payload kek⟩
      TLV_JOINER_ROUTER_LOCATOR name = .ok (toBE 2 joinerRouterLocator.toNat) ∧ requiredTlv
      ⟨relayEntries joinerIid joinerUdpPort joinerRouterLocator payload kek⟩
      TLV_JOINER_IID name = .ok joinerIid.bytes ∧ requiredTlv
      ⟨relayEntries joinerIid joinerUdpPort joinerRouterLocator payload kek⟩
      TLV_JOINER_DTLS_ENCAPSULATION name = .ok payload := by
    intro name
    cases kek <;> exact ⟨rfl, rfl, rfl, rfl⟩
  unfold parseRelayRx
  rw [hparse]
  refine bind_eq_ok.mpr ⟨_, rfl, bind_eq_ok.mpr ⟨_, (hlast _).1, ?_⟩⟩
  rw [readU16_toBE]
  refine bind_eq_ok.mpr ⟨_, rfl, bind_eq_ok.mpr ⟨_, (hlast _).2.1, ?_⟩⟩
  rw [readU16_toBE]
  refine bind_eq_ok.mpr ⟨_, rfl, bind_eq_ok.mpr ⟨_, (hlast _).2.2.1, ?_⟩⟩
  refine bind_eq_ok.mpr ⟨_, hiid, bind_eq_ok.mpr ⟨_, (hlast _).2.2.2, rfl⟩⟩

theorem parseNotification_of_parse {message : CoapMessage} {payload : Bytes}
    {joinerIid : FixedBytes 8} {joinerUdpPort joinerRouterLocator : UInt16}
    {kek : Option (FixedBytes 16)} (hpath : message.uriPath = .ok (some Uri.RELAY_RX))
    (hparse : TlvSet.parse message.payload =
      .ok ⟨relayEntries joinerIid joinerUdpPort joinerRouterLocator payload kek⟩) :
    parseNotification message =
      .ok (some (.relayRx joinerUdpPort joinerRouterLocator joinerIid payload)) := by
  unfold parseNotification
  refine bind_eq_ok.mpr ⟨some Uri.RELAY_RX, hpath, ?_⟩
  show (if Uri.RELAY_RX = Uri.MGMT_DATASET_CHANGED then _ else _) = _
  rw [if_neg (by decide), if_neg (by decide), if_neg (by decide), if_neg (by decide), if_pos rfl,
    parseRelayRx_of_parse hparse]
  rfl

/-! ## §4. Through CoAP. -/

namespace CoapMessage

/-- A decoded carrier has the path and the payload it was encoded with. -/
theorem decode_carrier {carrier : CoapMessage} {bytes : Bytes} (h : carrier.encode = .ok bytes) :
    ∃ received, decode bytes = .ok received ∧ received.uriPath = carrier.uriPath ∧
      received.payload = carrier.payload :=
  ⟨_, decode_of_encode h, uriPath_sortedOptions carrier, rfl⟩

end CoapMessage

/-- The border agent passes the payload of a built request on under another path. -/
structure PassedOn (carrier built : CoapMessage) (path : Text) (bytes : Bytes) : Prop where
  path : carrier.uriPath = .ok (some path)
  payload : carrier.payload = built.payload
  encoded : carrier.encode = .ok bytes

/-- Such a carrier is made by setting the path of the built message. -/
theorem exists_carrier {built : CoapMessage} {path : Text}
    (hutf8 : validUtf8From 0 0x80 0xbf path = true)
    (hsegments : ∀ segment ∈ CoapMessage.splitPath path, segment ≠ [] ∧ segment.length ≤ 65535)
    (htoken : built.token.length ≤ 8) (hothers : built.otherOptions = []) :
    ∃ carrier bytes, CoapMessage.setUriPath (0x2f :: path) built = .ok () carrier ∧
      PassedOn carrier built (0x2f :: path) bytes := by
  have hset := CoapMessage.setUriPath_eq_ok
    (show ∀ segment ∈ CoapMessage.splitPath (CoapMessage.trimmedPath (0x2f :: path)), segment ≠ []
      from fun segment hmem => (hsegments segment hmem).1) built
  have hfilter := CoapMessage.filter_append_pathOptions built (CoapMessage.splitPath path)
  have hencodes : ∃ bytes, ({ built with
      options := built.otherOptions ++ CoapMessage.pathOptions (CoapMessage.splitPath path)
      } : CoapMessage).encode = .ok bytes := by
    rw [CoapMessage.encode_isOk_iff]
    refine ⟨htoken, fun option hoption => ?_⟩
    rw [hothers, List.nil_append] at hoption
    obtain ⟨segment, hsegment, rfl⟩ := List.mem_map.mp hoption
    exact (hsegments segment hsegment).2
  obtain ⟨bytes, hbytes⟩ := hencodes
  exact ⟨_, bytes, hset, CoapMessage.uriPath_of_segments hutf8 hfilter, rfl, hbytes⟩

/-- **A proxied datagram comes back.** -/
theorem parseUdpRx_udpTxRequest (messageId : UInt16) (token : Bytes) (destination : Ipv6Addr)
    (destinationPort : UInt16) {inner : Bytes} (hfits : inner.length ≤ 65531) :
    ∃ outer, udpTxRequest messageId token destination destinationPort inner = .ok outer ∧
      (token.length ≤ 8 → ∃ carrier bytes,
        CoapMessage.setUriPath Uri.UDP_RX outer = .ok () carrier ∧
        PassedOn carrier outer Uri.UDP_RX bytes) ∧
      ∀ carrier bytes, PassedOn carrier outer Uri.UDP_RX bytes →
        ∃ received, CoapMessage.decode bytes = .ok received ∧ parseUdpRx received =
            .ok (some { sourceAddress := destination, sourcePort := DEFAULT_MM_PORT
                        destinationPort, payload := inner }) := by
  have huri : Uri.UDP_RX = 0x2f :: ascii "c/ur" := by decide
  obtain ⟨payload, hbuilt, hparse⟩ :=
    udpTxRequest_eq_ok messageId token destination destinationPort hfits
  refine ⟨_, hbuilt, ?_, ?_⟩
  · intro htoken
    rw [huri]
    exact exists_carrier (by decide) (by decide) htoken rfl
  · intro carrier bytes h
    obtain ⟨received, hdecode, hpath, hpayload⟩ := CoapMessage.decode_carrier h.encoded
    have hsame : received.payload = payload := hpayload.trans h.payload
    rw [← hsame] at hparse
    exact ⟨received, hdecode, parseUdpRx_of_parse (hpath.trans h.path) hparse⟩

/-- **A relayed datagram comes back**, with or without a KEK. -/
theorem parseNotification_relayTx (messageId : UInt16) (token : Bytes) (joinerIid : FixedBytes 8)
    (joinerUdpPort joinerRouterLocator : UInt16) {payload : Bytes} (kek : Option (FixedBytes 16))
    (hfits : payload.length ≤ 65535) :
    ∃ relay, relayTxRequestWithKek messageId token joinerIid.bytes joinerUdpPort
        joinerRouterLocator payload (kek.map FixedBytes.bytes) = .ok relay ∧
      (token.length ≤ 8 → ∃ carrier bytes,
        CoapMessage.setUriPath Uri.RELAY_RX relay = .ok () carrier ∧
        PassedOn carrier relay Uri.RELAY_RX bytes) ∧
      ∀ carrier bytes, PassedOn carrier relay Uri.RELAY_RX bytes →
        ∃ received, CoapMessage.decode bytes = .ok received ∧ parseNotification received =
            .ok (some (.relayRx joinerUdpPort joinerRouterLocator joinerIid payload)) := by
  have huri : Uri.RELAY_RX = 0x2f :: ascii "c/rx" := by decide
  obtain ⟨body, hbuilt, hparse⟩ := relayTxRequestWithKek_eq_ok messageId token joinerIid
    joinerUdpPort joinerRouterLocator kek hfits
  refine ⟨_, hbuilt, ?_, ?_⟩
  · intro htoken
    rw [huri]
    exact exists_carrier (by decide) (by decide) htoken rfl
  · intro carrier bytes h
    obtain ⟨received, hdecode, hpath, hpayload⟩ := CoapMessage.decode_carrier h.encoded
    have hsame : received.payload = body := hpayload.trans h.payload
    rw [← hsame] at hparse
    exact ⟨received, hdecode, parseNotification_of_parse (hpath.trans h.path) hparse⟩

/-- **Proxy and relay encapsulation are lossless.**  Whatever message carries the payload of a
    built UDP_TX.ntf under the path of UDP_RX.ntf, the parser finds the address, the port and the
    datagram in it once it was encoded and decoded; a CoAP request in that datagram decodes with
    only its options reordered; and the payload of a RLY_TX.ntf gives its fields back under the
    path of RLY_RX.ntf. -/
theorem encapsulation_lossless :
    (∀ (messageId : UInt16) (token : Bytes) (destination : Ipv6Addr) (destinationPort : UInt16)
        (inner : Bytes), inner.length ≤ 65531 →
      ∃ outer, udpTxRequest messageId token destination destinationPort inner = .ok outer ∧
        (token.length ≤ 8 → ∃ carrier bytes,
          CoapMessage.setUriPath Uri.UDP_RX outer = .ok () carrier ∧
          PassedOn carrier outer Uri.UDP_RX bytes) ∧
        ∀ carrier bytes, PassedOn carrier outer Uri.UDP_RX bytes →
          ∃ received, CoapMessage.decode bytes = .ok received ∧
            parseUdpRx received =
              .ok (some { sourceAddress := destination, sourcePort := DEFAULT_MM_PORT
                          destinationPort, payload := inner })) ∧
    (∀ (request : CoapMessage) (inner : Bytes), request.encode = .ok inner →
      inner.length ≤ 65531 →
      ∀ (messageId : UInt16) (token : Bytes) (destination : Ipv6Addr) (destinationPort : UInt16),
      ∃ outer, udpTxRequest messageId token destination destinationPort inner = .ok outer ∧
        ∀ carrier bytes, PassedOn carrier outer Uri.UDP_RX bytes →
          ∃ received datagram, CoapMessage.decode bytes = .ok received ∧
            parseUdpRx received = .ok (some datagram) ∧
            CoapMessage.decode datagram.payload =
              .ok { request with options := request.sortedOptions } ∧
            request.sortedOptions.Perm request.options) ∧
    (∀ (messageId : UInt16) (token : Bytes) (joinerIid : FixedBytes 8)
        (joinerUdpPort joinerRouterLocator : UInt16) (payload : Bytes)
        (kek : Option (FixedBytes 16)), payload.length ≤ 65535 →
      ∃ relay, relayTxRequestWithKek messageId token joinerIid.bytes joinerUdpPort
          joinerRouterLocator payload (kek.map FixedBytes.bytes) = .ok relay ∧
        (token.length ≤ 8 → ∃ carrier bytes,
          CoapMessage.setUriPath Uri.RELAY_RX relay = .ok () carrier ∧
          PassedOn carrier relay Uri.RELAY_RX bytes) ∧
        ∀ carrier bytes, PassedOn carrier relay Uri.RELAY_RX bytes →
          ∃ received, CoapMessage.decode bytes = .ok received ∧
            parseNotification received =
              .ok (some (.relayRx joinerUdpPort joinerRouterLocator joinerIid payload))) := by
  refine ⟨?_, ?_, ?_⟩
  · intro messageId token destination destinationPort inner hfits
    exact parseUdpRx_udpTxRequest messageId token destination destinationPort hfits
  · intro request inner hencode hfits messageId token destination destinationPort
    obtain ⟨outer, hbuilt, -, hcarried⟩ :=
      parseUdpRx_udpTxRequest messageId token destination destinationPort hfits
    refine ⟨outer, hbuilt, fun carrier bytes h => ?_⟩
    obtain ⟨received, hdecode, hparse⟩ := hcarried carrier bytes h
    exact ⟨received, _, hdecode, hparse, CoapMessage.decode_of_encode hencode,
      request.sortedOptions_perm⟩
  · intro messageId token joinerIid joinerUdpPort joinerRouterLocator payload kek hfits
    exact parseNotification_relayTx messageId token joinerIid joinerUdpPort joinerRouterLocator kek
      hfits

end Meshcop
