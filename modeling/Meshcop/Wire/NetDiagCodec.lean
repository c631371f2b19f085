/-
  Meshcop.Wire.NetDiagCodec — the two diagnostic values with a grammar of their own
  (`meshcop/src/meshcop/diag/decode.rs`).

  A Route64 value is a mask of router ids followed by one byte for each bit that is set.  Network
  data is a concatenation of TLVs whose prefix TLVs hold sub-TLVs; both levels are read by one
  fold, so its account over `Written` serves both.

  Main results:
    * `route64_exact`       — when a route table is taken, what it says, and that it packs back;
    * `network_data_exact`  — network data is taken exactly when it follows the grammar, and the
      result lists its prefixes.
-/

import Mathlib.Data.Nat.Bitwise
import Meshcop.Lib.Streams
import Meshcop.Wire.NetDiag

namespace Meshcop

open Lib

namespace NetDiag

/-! ## §1. Route tables. -/

/-- How many bits of some bytes are set. -/
def popcount (bytes : Bytes) : Nat :=
  (bytes.map fun byte => (List.range 8).countP fun bit => byte.toNat.testBit bit).sum

/-- A bit of a mask, counted from its first byte's high bit. -/
def maskBit (mask : Bytes) (bit : Nat) : Bool :=
  (mask.getD (bit / 8) 0).toNat.testBit (7 - bit % 8)

theorem and_highBit (byte : Fin 256) (bit : Fin 8) :
    decide (UInt8.ofFin byte &&& ((0x80 : UInt8) >>> UInt8.ofNat bit) ≠ 0)
      = byte.val.testBit (7 - bit) := by
  revert byte bit
  decide +kernel

theorem countP_highBit (byte : Fin 256) :
    ((List.range 8).countP fun bit => byte.val.testBit (7 - bit))
      = (List.range 8).countP fun bit => byte.val.testBit bit := by
  revert byte
  decide +kernel

theorem routerIds_eq (mask : Bytes) : routerIds mask = (List.range 64).filter (maskBit mask) := by
  unfold routerIds
  refine List.filter_congr fun bit _ => ?_
  exact and_highBit (mask.getD (bit / 8) 0).toFin ⟨bit % 8, Nat.mod_lt bit (by decide)⟩

/-- Counted byte by byte. -/
theorem countP_maskBit (mask : Bytes) :
    (List.range (8 * mask.length)).countP (maskBit mask) = popcount mask := by
  induction mask with
  | nil => rfl
  | cons byte mask ih =>
    have hrange : List.range (8 * (mask.length + 1))
        = List.range 8 ++ (List.range (8 * mask.length)).map (8 + ·) := by
      rw [Nat.mul_add, Nat.add_comm, List.range_add]
    have hfirst : (List.range 8).countP (maskBit (byte :: mask))
        = (List.range 8).countP fun bit => byte.toNat.testBit bit := by
      refine Eq.trans (List.countP_congr fun bit hbit => ?_) (countP_highBit byte.toFin)
      have hlt : bit < 8 := List.mem_range.mp hbit
      unfold maskBit
      rw [Nat.div_eq_of_lt hlt, Nat.mod_eq_of_lt hlt]
      rfl
    have hrest : maskBit (byte :: mask) ∘ (8 + ·) = maskBit mask := by
      funext bit
      show ((byte :: mask).getD ((8 + bit) / 8) 0).toNat.testBit (7 - (8 + bit) % 8) = _
      rw [show (8 + bit) / 8 = bit / 8 + 1 by omega, show (8 + bit) % 8 = bit % 8 by omega]
      rfl
    show (List.range (8 * (mask.length + 1))).countP _ = _
    rw [hrange, List.countP_append, List.countP_map, hrest, ih, hfirst]
    rfl

theorem length_routerIds {mask : Bytes} (h : mask.length = 8) :
    (routerIds mask).length = popcount mask := by
  rw [routerIds_eq, ← List.countP_eq_length_filter, ← countP_maskBit, h]

/-- The byte of a route entry. -/
def packEntry (entry : RouteDataEntry) : UInt8 :=
  entry.outgoingLinkQuality <<< 6 ||| entry.incomingLinkQuality <<< 4 ||| entry.routeCost

/-- The bytes of a route table. -/
def packRoute64 (route : Route64) : Bytes :=
  route.idSequence :: route.mask ++ route.routeData.map packEntry

/-- What `decode_route64` makes of an id and its byte. -/
def routeEntry (route : Nat × UInt8) : RouteDataEntry :=
  { routerId := UInt8.ofNat route.1, outgoingLinkQuality := route.2 >>> 6
    incomingLinkQuality := (route.2 >>> 4) &&& 0x03, routeCost := route.2 &&& 0x0f }

theorem bitFields (byte : Fin 256) : ((UInt8.ofFin byte >>> 6).toNat = byte.val / 64 ∧
      ((UInt8.ofFin byte >>> 4) &&& 0x03).toNat = byte.val / 16 % 4 ∧
      (UInt8.ofFin byte &&& 0x0f).toNat = byte.val % 16) ∧
    packEntry (routeEntry (0, UInt8.ofFin byte)) = UInt8.ofFin byte := by
  revert byte
  decide +kernel

/-- **When a route table is taken, and what it is.** -/
theorem decodeRoute64_eq_ok_iff {value : Bytes} {route : Route64} :
    decodeRoute64 value = .ok route ↔ value.length = 9 + popcount ((value.drop 1).take 8) ∧
      route = { idSequence := value.getD 0 0, mask := (value.drop 1).take 8
                routeData := ((routerIds ((value.drop 1).take 8)).zip (value.drop 9)).map
                  routeEntry } := by
  unfold decodeRoute64
  by_cases hshort : value.length < 9
  · rw [if_pos hshort]
    exact iff_of_false (fun h => by cases h) fun h => by omega
  rw [if_neg hshort]
  have hmask : ((value.drop 1).take 8).length = 8 := by
    rw [List.length_take, List.length_drop]
    omega
  have hids := length_routerIds hmask
  dsimp only
  rw [hids, List.length_drop]
  by_cases hcount : value.length - 9 = popcount ((value.drop 1).take 8)
  · rw [if_neg (not_not_intro hcount), Except.ok.injEq, eq_comm]
    exact ⟨fun h => ⟨by omega, h⟩, fun h => h.2⟩
  · rw [if_pos hcount]
    exact iff_of_false (fun h => by cases h) fun h => by omega

/-- The router ids of a route table. -/
theorem map_routerId {ids : List Nat} {bytes : Bytes} (h : ids.length ≤ bytes.length)
    (hids : ∀ id ∈ ids, id < 64) :
    ((ids.zip bytes).map routeEntry).map (·.routerId.toNat) = ids := by
  have hnat : ∀ id ∈ ids, (UInt8.ofNat id).toNat = id := by
    intro id hid
    have hlt := hids id hid
    rw [UInt8.toNat_ofNat']
    omega
  rw [List.map_map]
  show (ids.zip bytes).map ((fun id => (UInt8.ofNat id).toNat) ∘ Prod.fst) = ids
  rw [← List.map_map, List.map_fst_zip h]
  exact (List.map_congr_left hnat).trans ids.map_id

/-- The bytes of its entries. -/
theorem map_packEntry {ids : List Nat} {bytes : Bytes} (h : bytes.length ≤ ids.length) :
    ((ids.zip bytes).map routeEntry).map packEntry = bytes := by
  rw [List.map_map]
  refine Eq.trans (List.map_congr_left fun pair _ => ?_) (List.map_snd_zip h)
  exact (bitFields pair.2.toFin).2

/-- **The route table codec.**  A value is taken exactly when it has nine bytes and one more for
    each bit of the mask; then the router ids are the positions of these bits in order, each
    entry's fields are the bit fields of its byte, and the packed result is the value. -/
theorem route64_exact (value : Bytes) :
    ((∃ route, decodeRoute64 value = .ok route) ↔
      value.length = 9 + popcount ((value.drop 1).take 8)) ∧
    ∀ route, decodeRoute64 value = .ok route →
      (route.routeData.map (·.routerId.toNat)).Pairwise (· < ·) ∧
      (∀ id, id ∈ route.routeData.map (·.routerId.toNat) ↔
        id < 64 ∧ (value.getD (1 + id / 8) 0).toNat.testBit (7 - id % 8) = true) ∧
      (∀ i entry, route.routeData[i]? = some entry → ∃ byte, value[9 + i]? = some byte ∧
        entry.outgoingLinkQuality.toNat = byte.toNat / 64 ∧
        entry.incomingLinkQuality.toNat = byte.toNat / 16 % 4 ∧
        entry.routeCost.toNat = byte.toNat % 16) ∧
      packRoute64 route = value := by
  constructor
  · constructor
    · rintro ⟨route, h⟩
      exact (decodeRoute64_eq_ok_iff.mp h).1
    · exact fun h => ⟨_, decodeRoute64_eq_ok_iff.mpr ⟨h, rfl⟩⟩
  · intro route h
    obtain ⟨hlength, rfl⟩ := decodeRoute64_eq_ok_iff.mp h
    have hmask : ((value.drop 1).take 8).length = 8 := by
      rw [List.length_take, List.length_drop]
      omega
    have hbytes : (value.drop 9).length = (routerIds ((value.drop 1).take 8)).length := by
      rw [length_routerIds hmask, List.length_drop]
      omega
    have hids : ∀ id ∈ routerIds ((value.drop 1).take 8), id < 64 :=
      fun id hid => List.mem_range.mp (List.mem_filter.mp hid).1
    refine ⟨?_, fun id => ?_, fun i entry hentry => ?_, ?_⟩
    · rw [map_routerId hbytes.ge hids]
      exact List.pairwise_lt_range.filter _
    · rw [map_routerId hbytes.ge hids, routerIds_eq, List.mem_filter, List.mem_range]
      refine and_congr_right fun hid => ?_
      unfold maskBit
      rw [List.getD_eq_getElem?_getD, List.getD_eq_getElem?_getD, List.getElem?_take_of_lt (by omega),
        List.getElem?_drop]
    · rw [List.getElem?_map] at hentry
      obtain ⟨pair, hpair, rfl⟩ := Option.map_eq_some_iff.mp hentry
      have hbyte := (List.getElem?_zip_eq_some.mp hpair).2
      rw [List.getElem?_drop] at hbyte
      exact ⟨pair.2, hbyte, (bitFields pair.2.toFin).1⟩
    · unfold packRoute64
      rw [map_packEntry hbytes.le]
      cases value with
      | nil => cases hmask
      | cons first rest =>
        show first :: ((rest.take 8) ++ rest.drop 8) = _
        rw [List.take_append_drop]

/-! ## §2. Network data. -/

/-- A network-data TLV on the wire: seven bits of type and the stable bit, the length, the value. -/
def IsNetworkDataTlv (tlv : UInt8 × Bytes) (bytes : Bytes) : Prop :=
  ∃ head : UInt8, head >>> 1 = tlv.1 ∧ tlv.2.length < 256 ∧
    bytes = head :: UInt8.ofNat tlv.2.length :: tlv.2

theorem networkDataTlv_delimited : Delimited networkDataTlv IsNetworkDataTlv where
  reads := by
    rintro ⟨ty, value⟩ _ rest ⟨head, rfl, hlength, rfl⟩
    have hnat : (UInt8.ofNat value.length).toNat = value.length := by
      rw [UInt8.toNat_ofNat']
      exact Nat.mod_eq_of_lt hlength
    show (if (value ++ rest).length < (UInt8.ofNat value.length).toNat then _
      else Except.ok ((head >>> 1, (value ++ rest).take (UInt8.ofNat value.length).toNat),
        (value ++ rest).drop (UInt8.ofNat value.length).toNat)) = _
    rw [hnat, if_neg (by rw [List.length_append]; omega), List.take_left, List.drop_left]
  sound := by
    intro input tlv rest h
    unfold networkDataTlv at h
    split at h
    · rename_i head length behind
      split at h
      · cases h
      rename_i hlong
      cases h
      have htake : (behind.take length.toNat).length = length.toNat := by
        rw [List.length_take]
        omega
      refine ⟨_, ⟨head, rfl, ?_, rfl⟩, ?_⟩
      · rw [htake]
        exact length.toNat_lt
      · show _ = head :: UInt8.ofNat (behind.take length.toNat).length :: (_ ++ _)
        rw [htake, UInt8.ofNat_toNat, List.take_append_drop]
    · cases h
  nonempty := by
    rintro tlv _ ⟨head, -, -, rfl⟩
    exact List.cons_ne_nil _ _

/-- **The fold over network data** goes over the TLVs it is made of. -/
theorem foldNetworkData_eq_ok_iff {α : Type} {step : α → UInt8 → Bytes → Except Error α}
    {fuel : Nat} {bytes : Bytes} (hfuel : bytes.length ≤ fuel) {acc result : α} :
    foldNetworkData step fuel acc bytes = .ok result ↔ ∃ tlvs, Written IsNetworkDataTlv tlvs bytes ∧
        tlvs.foldlM (fun acc tlv => step acc tlv.1 tlv.2) acc = .ok result := by
  constructor
  · intro h
    induction fuel generalizing bytes acc with
    | zero =>
      obtain rfl := List.length_eq_zero_iff.mp (Nat.le_zero.mp hfuel)
      exact ⟨[], .nil, h⟩
    | succ fuel ih =>
      cases bytes with
      | nil => exact ⟨[], .nil, h⟩
      | cons byte bytes =>
        obtain ⟨⟨tlv, rest⟩, htlv, h⟩ := bind_eq_ok.mp h
        obtain ⟨acc', hstep, h⟩ := bind_eq_ok.mp h
        obtain ⟨written, hitem, hbytes⟩ := networkDataTlv_delimited.sound htlv
        have hpos := List.length_pos_iff.mpr (networkDataTlv_delimited.nonempty hitem)
        rw [hbytes, List.length_append] at hfuel
        obtain ⟨tlvs, hwritten, hfold⟩ := ih (by omega) h
        refine ⟨tlv :: tlvs, hbytes ▸ .cons hitem hwritten, ?_⟩
        rw [List.foldlM_cons, hstep]
        exact hfold
  · rintro ⟨tlvs, hwritten, hfold⟩
    induction hwritten generalizing fuel acc with
    | nil =>
      cases fuel <;> exact hfold
    | @cons tlv written tlvs rest head tail ih =>
      have hpos := List.length_pos_iff.mpr (networkDataTlv_delimited.nonempty head)
      rw [List.length_append] at hfuel
      obtain ⟨fuel, rfl⟩ : ∃ k, fuel = k + 1 := ⟨fuel - 1, by omega⟩
      rw [List.foldlM_cons] at hfold
      obtain ⟨acc', hstep, hfold⟩ := bind_eq_ok.mp hfold
      have hread := networkDataTlv_delimited.reads rest head
      generalize hwhole : written ++ rest = whole at hread ⊢
      cases whole with
      | nil => cases hread
      | cons byte bytes =>
        show (networkDataTlv (byte :: bytes) >>= _) = _
        rw [hread]
        show (step acc tlv.1 tlv.2 >>= _) = _
        rw [hstep]
        exact ih (by omega) hfold

/-- A sub-TLV of a prefix has a length its type allows. -/
def FitsPrefix (tlv : UInt8 × Bytes) : Prop :=
  (tlv.1 = 0 → tlv.2.length % 3 = 0) ∧ (tlv.1 = 2 → tlv.2.length % 4 = 0) ∧
    (tlv.1 = 3 → tlv.2.length = 2)

/-- What a list of sub-TLVs says, by a reader of the values of one type. -/
def subValues {β : Type} (ty : UInt8) (decode : Bytes → Except Error β)
    (tlvs : List (UInt8 × Bytes)) : List β :=
  (tlvs.filter (·.1 = ty)).filterMap fun tlv => (decode tlv.2).toOption

/-- What sub-TLVs make of a prefix entry: routes and border routers accumulate, the last context
    counts. -/
def absorb (entry : PrefixEntry) (subs : List (UInt8 × Bytes)) : PrefixEntry :=
  { entry with
    hasRoute := entry.hasRoute ++ (subValues 0 decodeHasRoute subs).flatten
    borderRouters := entry.borderRouters ++ (subValues 2 decodeBorderRouter subs).flatten
    sixLowPanContext := (subValues 3 decodeSixLowPanContext subs).getLast?.or
      entry.sixLowPanContext }

theorem prefixSubTlv_eq_ok_iff {entry entry' : PrefixEntry} {tlv : UInt8 × Bytes} :
    prefixSubTlv entry tlv.1 tlv.2 = .ok entry' ↔ FitsPrefix tlv ∧ absorb entry [tlv] = entry' := by
  obtain ⟨ty, value⟩ := tlv
  unfold prefixSubTlv FitsPrefix absorb subValues
  by_cases hroute : ty = 0
  · subst hroute
    unfold decodeHasRoute
    by_cases hlength : value.length % 3 = 0 <;> simp [hlength, Except.toOption]
  by_cases hrouter : ty = 2
  · subst hrouter
    unfold decodeBorderRouter
    by_cases hlength : value.length % 4 = 0 <;> simp [hlength, Except.toOption]
  by_cases hcontext : ty = 3
  · subst hcontext
    unfold decodeSixLowPanContext
    rcases value with _ | ⟨flags, _ | ⟨length, _ | ⟨more, value⟩⟩⟩ <;> simp [Except.toOption]
  · simp [hroute, hrouter, hcontext]

theorem absorb_cons (entry : PrefixEntry) (tlv : UInt8 × Bytes) (subs : List (UInt8 × Bytes)) :
    absorb (absorb entry [tlv]) subs = absorb entry (tlv :: subs) := by
  have hvalues : ∀ {β : Type} (ty : UInt8) (decode : Bytes → Except Error β),
      subValues ty decode (tlv :: subs) = subValues ty decode [tlv] ++ subValues ty decode subs := by
    intro β ty decode
    unfold subValues
    rw [← List.filterMap_append, ← List.filter_append]
    rfl
  unfold absorb
  simp only [hvalues, List.flatten_append, List.append_assoc, List.getLast?_append, Option.or_assoc]

/-- **The sub-TLVs of a prefix.** -/
theorem foldlM_prefixSubTlv {subs : List (UInt8 × Bytes)} {entry entry' : PrefixEntry} :
    subs.foldlM (fun entry tlv => prefixSubTlv entry tlv.1 tlv.2) entry = .ok entry' ↔
      (∀ tlv ∈ subs, FitsPrefix tlv) ∧ absorb entry subs = entry' := by
  induction subs generalizing entry with
  | nil => simp [absorb, subValues, pure, Except.pure]
  | cons tlv subs ih =>
    rw [List.foldlM_cons, bind_eq_ok, List.forall_mem_cons, ← absorb_cons]
    simp only [prefixSubTlv_eq_ok_iff, ih]
    constructor
    · rintro ⟨_, ⟨hfits, rfl⟩, hrest, hentry⟩
      exact ⟨⟨hfits, hrest⟩, hentry⟩
    · rintro ⟨⟨hfits, hrest⟩, hentry⟩
      exact ⟨_, ⟨hfits, rfl⟩, hrest, hentry⟩

/-- **A prefix TLV's value**: domain id, bit length, as many bytes as these bits need, and
    sub-TLVs. -/
def IsPrefixValue (value : Bytes) (entry : PrefixEntry) : Prop :=
  ∃ domainId prefixBitLength prefixBytes rest subs,
    value = domainId :: prefixBitLength :: (prefixBytes ++ rest) ∧
    prefixBytes.length = (prefixBitLength.toNat + 7) / 8 ∧
    Written IsNetworkDataTlv subs rest ∧ (∀ tlv ∈ subs, FitsPrefix tlv) ∧
    absorb { domainId, prefixBitLength, prefixBytes } subs = entry

theorem decodePrefixEntry_eq_ok_iff {value : Bytes} {entry : PrefixEntry} :
    decodePrefixEntry value = .ok entry ↔ IsPrefixValue value entry := by
  constructor
  · intro h
    unfold decodePrefixEntry at h
    split at h
    · rename_i domainId prefixBitLength rest
      dsimp only at h
      split at h
      · cases h
      rename_i hlong
      obtain ⟨subs, hwritten, hfold⟩ := (foldNetworkData_eq_ok_iff (by simp)).mp h
      refine ⟨domainId, prefixBitLength, rest.take ((prefixBitLength.toNat + 7) / 8), _, subs, ?_,
        ?_, hwritten, foldlM_prefixSubTlv.mp hfold⟩
      · rw [List.take_append_drop]
      · rw [List.length_take]
        omega
    · cases h
  · rintro ⟨domainId, prefixBitLength, prefixBytes, rest, subs, rfl, hlength, hwritten, hsubs⟩
    unfold decodePrefixEntry
    dsimp only
    rw [← hlength, if_neg (by rw [List.length_append]; omega), List.take_left, List.drop_left]
    refine (foldNetworkData_eq_ok_iff ?_).mpr ⟨subs, hwritten, foldlM_prefixSubTlv.mpr hsubs⟩
    rw [List.length_append]
    omega

/-- The prefix TLVs among the TLVs of network data. -/
theorem foldlM_prefixes {tlvs : List (UInt8 × Bytes)} {data result : NetworkData} :
    tlvs.foldlM (fun data tlv => if tlv.1 = 1 then do
        let entry ← decodePrefixEntry tlv.2
        return { data with prefixes := data.prefixes ++ [entry] }
      else .ok data) data = .ok result ↔
      ∃ entries, List.Forall₂ (fun tlv entry => IsPrefixValue tlv.2 entry) (tlvs.filter (·.1 = 1))
        entries ∧ result = ⟨data.prefixes ++ entries⟩ := by
  induction tlvs generalizing data with
  | nil =>
    simp [pure, Except.pure, eq_comm]
  | cons tlv tlvs ih =>
    rw [List.foldlM_cons]
    by_cases hone : tlv.1 = 1
    · rw [if_pos hone, List.filter_cons_of_pos (by simpa using hone)]
      constructor
      · intro h
        obtain ⟨data', hdata, hrest⟩ := bind_eq_ok.mp h
        obtain ⟨entry, hentry, hdata⟩ := bind_eq_ok.mp hdata
        cases hdata
        obtain ⟨entries, hentries, rfl⟩ := ih.mp hrest
        refine ⟨entry :: entries, .cons (decodePrefixEntry_eq_ok_iff.mp hentry) hentries, ?_⟩
        rw [List.append_assoc]
        rfl
      · rintro ⟨_, hentries, rfl⟩
        cases hentries with
        | @cons _ entry _ entries hentry hrest =>
          rw [decodePrefixEntry_eq_ok_iff.mpr hentry]
          refine ih.mpr ⟨entries, hrest, ?_⟩
          rw [List.append_assoc]
          rfl
    · rw [if_neg hone, List.filter_cons_of_neg (by simpa using hone)]
      exact ih

/-- **Network data matches its grammar.**  It is a concatenation of TLVs whose prefix TLVs (type 1)
    are well formed, and the result lists the prefixes in order. -/
theorem network_data_exact (value : Bytes) (data : NetworkData) :
    decodeNetworkData value = .ok data ↔ ∃ tlvs, Written IsNetworkDataTlv tlvs value ∧
      List.Forall₂ (fun tlv entry => IsPrefixValue tlv.2 entry) (tlvs.filter (·.1 = 1))
        data.prefixes := by
  unfold decodeNetworkData
  rw [foldNetworkData_eq_ok_iff (Nat.le_refl _)]
  refine exists_congr fun tlvs => and_congr_right fun _ => ?_
  rw [foldlM_prefixes]
  constructor
  · rintro ⟨entries, hentries, rfl⟩
    exact hentries
  · exact fun h => ⟨data.prefixes, h, rfl⟩

end NetDiag

end Meshcop
