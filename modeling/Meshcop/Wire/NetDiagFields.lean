/-
  Meshcop.Wire.NetDiagFields — diagnostic answers, field by field
  (`meshcop/src/meshcop/diag/decode.rs`).

  `NetDiagData::decode` folds over the TLVs of a payload.  `DiagField.slot` lists, for each field,
  its TLV type, its reader and what a further value makes of it; the fold then says of every field
  only what the TLVs of its own type say.

  Main results:
    * `DiagField.foldlM_eq_ok_iff`   — the fold is the same as a fold for each field;
    * `NetDiagData.decode_by_field`  — neither TLVs of unknown types nor the order of TLVs of
      different types matter; the last TLV of a type counts, child address lists accumulate.
-/

import Meshcop.Wire.NetDiag
import Meshcop.Wire.TlvCodec

namespace Meshcop

open Lib

/-! ## §1. Fields. -/

/-- The fields of a diagnostic answer. -/
inductive DiagField where
  | extMacAddr | macAddr | mode | timeout | connectivity | route64 | leaderData | networkData
  | addresses | macCounters | batteryLevel | supplyVoltage | childTable | channelPages | typeList
  | eui64 | childIpv6Addresses
  deriving DecidableEq, Repr

/-- What `NetDiagData::decode` does with one TLV type: the field, how a value is read, and what a
    further value makes of the field. -/
structure DiagSlot where
  Value : Type
  ty : UInt8
  get : NetDiagData → Option Value
  set : NetDiagData → Value → NetDiagData
  read : Bytes → Except Error Value
  join : Option Value → Value → Value

namespace DiagField

open NetDiag

/-- A field whose last TLV counts. -/
def last {α : Type} (ty : UInt8) (get : NetDiagData → Option α) (set : NetDiagData → α → NetDiagData)
    (read : Bytes → Except Error α) : DiagSlot :=
  ⟨α, ty, get, set, read, fun _ v => v⟩

/-- The last TLV counts, except that child address lists accumulate. -/
def slot : DiagField → DiagSlot
  | extMacAddr => last 0 (·.extMacAddr) (fun d v => { d with extMacAddr := some v }) .ok
  | macAddr => last 1 (·.macAddr) (fun d v => { d with macAddr := some v })
      (NetDiag.readU16 · "MAC Address")
  | mode => last 2 (·.mode) (fun d v => { d with mode := some v }) decodeMode
  | timeout => last 3 (·.timeout) (fun d v => { d with timeout := some v }) (readU32 · "Timeout")
  | connectivity => last 4 (·.connectivity) (fun d v => { d with connectivity := some v })
      decodeConnectivity
  | route64 => last 5 (·.route64) (fun d v => { d with route64 := some v }) decodeRoute64
  | leaderData => last 6 (·.leaderData) (fun d v => { d with leaderData := some v })
      decodeLeaderData
  | networkData => last 7 (·.networkData) (fun d v => { d with networkData := some v })
      decodeNetworkData
  | addresses => last 8 (·.addresses) (fun d v => { d with addresses := some v })
      decodeIpv6AddressList
  | macCounters => last 9 (·.macCounters) (fun d v => { d with macCounters := some v })
      decodeMacCounters
  | batteryLevel => last 14 (·.batteryLevel) (fun d v => { d with batteryLevel := some v })
      (readU8 · "Battery Level")
  | supplyVoltage => last 15 (·.supplyVoltage) (fun d v => { d with supplyVoltage := some v })
      (NetDiag.readU16 · "Supply Voltage")
  | childTable => last 16 (·.childTable) (fun d v => { d with childTable := some v })
      decodeChildTable
  | channelPages => last 17 (·.channelPages) (fun d v => { d with channelPages := some v }) .ok
  | typeList => last 18 (·.typeList) (fun d v => { d with typeList := some v }) .ok
  | eui64 => last 23 (·.eui64) (fun d v => { d with eui64 := some v })
      fun value => (FixedBytes.ofBytes? value).elim
        (.error (.dataset s!"EUI-64 must be 8 bytes, got {value.length}")) .ok
  | childIpv6Addresses => ⟨_, 30, (·.childIpv6Addresses),
      fun d v => { d with childIpv6Addresses := some v },
      fun value => (decodeChildIpv6Addresses value).map ([·]), fun old new => old.getD [] ++ new⟩

theorem ty_inj : ∀ {f g : DiagField}, f.slot.ty = g.slot.ty → f = g := by
  intro f g
  revert f
  cases g <;> intro f <;> cases f <;> first | exact fun _ => rfl | decide

theorem get_set (f : DiagField) (d : NetDiagData) (v : f.slot.Value) :
    f.slot.get (f.slot.set d v) = some v := by
  cases f <;> rfl

theorem get_set_of_ne {f g : DiagField} (h : g ≠ f) (d : NetDiagData) (v : f.slot.Value) :
    g.slot.get (f.slot.set d v) = g.slot.get d := by
  cases f <;> cases g <;> first | rfl | exact absurd rfl h

theorem eq_of_get {d d' : NetDiagData} (h : ∀ f : DiagField, f.slot.get d = f.slot.get d') :
    d = d' := by
  cases d
  cases d'
  rw [NetDiagData.mk.injEq]
  exact ⟨h extMacAddr, h macAddr, h mode, h timeout, h connectivity, h route64, h leaderData,
    h networkData, h addresses, h macCounters, h batteryLevel, h supplyVoltage, h childTable,
    h channelPages, h typeList, h eui64, h childIpv6Addresses⟩

/-- **One TLV of a field.** -/
theorem decodeEntry_eq (f : DiagField) (d : NetDiagData) (value : Bytes) :
    decodeEntry d ⟨f.slot.ty, value⟩
      = (f.slot.read value).map fun v => f.slot.set d (f.slot.join (f.slot.get d) v) := by
  cases f
  case eui64 =>
    unfold slot last decodeEntry
    dsimp only
    cases FixedBytes.ofBytes? (n := 8) value <;> rfl
  case childIpv6Addresses =>
    show (decodeChildIpv6Addresses value >>= _) = ((decodeChildIpv6Addresses value).map _).map _
    cases decodeChildIpv6Addresses value <;> rfl
  all_goals rfl

/-- A TLV of no field is skipped. -/
theorem decodeEntry_of_unknown {entry : TlvEntry} (h : ∀ f : DiagField, entry.ty ≠ f.slot.ty)
    (d : NetDiagData) : decodeEntry d entry = .ok d := by
  have hne : ∀ f : DiagField, entry.ty.toNat ≠ f.slot.ty.toNat :=
    fun f heq => h f (UInt8.toNat_inj.mp heq)
  unfold decodeEntry
  dsimp only
  split
  case h_18 => rfl
  all_goals rename_i heq
  exacts [absurd heq (hne extMacAddr), absurd heq (hne macAddr), absurd heq (hne mode),
    absurd heq (hne timeout), absurd heq (hne connectivity), absurd heq (hne route64),
    absurd heq (hne leaderData), absurd heq (hne networkData), absurd heq (hne addresses),
    absurd heq (hne macCounters), absurd heq (hne batteryLevel), absurd heq (hne supplyVoltage),
    absurd heq (hne childTable), absurd heq (hne channelPages), absurd heq (hne typeList),
    absurd heq (hne eui64), absurd heq (hne childIpv6Addresses)]

/-! ## §2. The whole payload. -/

/-- The TLVs of a field. -/
def entriesOf (f : DiagField) (entries : List TlvEntry) : List TlvEntry :=
  entries.filter fun entry => entry.ty = f.slot.ty

/-- What they hold, in order. -/
def values (f : DiagField) (entries : List TlvEntry) : List f.slot.Value :=
  (f.entriesOf entries).filterMap fun entry => (f.slot.read entry.value).toOption

/-- All of them can be read. -/
def Readable (f : DiagField) (entries : List TlvEntry) : Prop :=
  ∀ entry ∈ f.entriesOf entries, ∃ v, f.slot.read entry.value = .ok v

/-- A field with further values. -/
def gather (f : DiagField) (old : Option f.slot.Value) (vs : List f.slot.Value) :
    Option f.slot.Value :=
  vs.foldl (fun old v => some (f.slot.join old v)) old

variable {f : DiagField} {entry : TlvEntry} {entries : List TlvEntry}

theorem entriesOf_cons_of_ne (h : entry.ty ≠ f.slot.ty) :
    f.entriesOf (entry :: entries) = f.entriesOf entries :=
  List.filter_cons_of_neg (by simpa using h)

theorem entriesOf_cons (f : DiagField) (value : Bytes) :
    f.entriesOf (⟨f.slot.ty, value⟩ :: entries) = ⟨f.slot.ty, value⟩ :: f.entriesOf entries :=
  List.filter_cons_of_pos (by simp)

/-- **The fold over the TLVs**, field by field. -/
theorem foldlM_eq_ok_iff {d d' : NetDiagData} :
    entries.foldlM decodeEntry d = .ok d' ↔ ∀ f : DiagField, f.Readable entries ∧
      f.slot.get d' = f.gather (f.slot.get d) (f.values entries) := by
  induction entries generalizing d with
  | nil =>
    refine ⟨fun h f => ?_, fun h => ?_⟩
    · cases h
      exact ⟨List.forall_mem_nil _, rfl⟩
    · exact congrArg Except.ok (eq_of_get fun f => (h f).2.symm)
  | cons entry entries ih =>
    rw [List.foldlM_cons]
    by_cases hknown : ∃ f : DiagField, entry.ty = f.slot.ty
    · obtain ⟨g, hg⟩ := hknown
      obtain ⟨ty, value⟩ := entry
      obtain rfl : ty = g.slot.ty := hg
      rw [decodeEntry_eq g]
      cases hread : g.slot.read value with
      | error error =>
        refine iff_of_false (fun h => by cases h) fun h => ?_
        have hmem : ⟨g.slot.ty, value⟩ ∈ g.entriesOf (⟨g.slot.ty, value⟩ :: entries) := by
          rw [entriesOf_cons]
          exact List.mem_cons_self
        obtain ⟨v, hv⟩ := (h g).1 _ hmem
        cases hread.symm.trans hv
      | ok v =>
        show entries.foldlM decodeEntry (g.slot.set d (g.slot.join (g.slot.get d) v)) = .ok d' ↔ _
        rw [ih]
        refine forall_congr' fun f => ?_
        unfold Readable values
        by_cases hf : f = g
        · subst hf
          rw [entriesOf_cons, get_set, List.forall_mem_cons, List.filterMap_cons, hread]
          exact and_congr_left fun _ => (and_iff_right ⟨v, rfl⟩).symm
        · rw [entriesOf_cons_of_ne fun heq => hf (ty_inj heq.symm), get_set_of_ne hf]
    · have hne : ∀ f : DiagField, entry.ty ≠ f.slot.ty := fun f heq => hknown ⟨f, heq⟩
      rw [decodeEntry_of_unknown hne]
      show entries.foldlM decodeEntry d = .ok d' ↔ _
      rw [ih]
      refine forall_congr' fun f => ?_
      unfold Readable values
      rw [entriesOf_cons_of_ne (hne f)]

/-- A field whose last TLV counts. -/
theorem gather_of_last (hf : f ≠ childIpv6Addresses) (old : Option f.slot.Value)
    (vs : List f.slot.Value) : f.gather old vs = vs.getLast?.or old := by
  have hjoin : f.slot.join = fun _ v => v := by
    cases f <;> first | rfl | exact absurd rfl hf
  induction vs generalizing old with
  | nil => rfl
  | cons v vs ih =>
    show f.gather (some (f.slot.join old v)) vs = _
    rw [ih, hjoin, List.getLast?_cons]
    cases vs.getLast? <;> rfl

/-- The field whose TLVs accumulate. -/
theorem gather_children (old : List ChildIpv6AddrInfo) (vs : List (List ChildIpv6AddrInfo)) :
    childIpv6Addresses.gather (some old) vs = some (old ++ vs.flatten) := by
  induction vs generalizing old with
  | nil => rw [List.flatten_nil, List.append_nil]; rfl
  | cons v vs ih =>
    rw [List.flatten_cons, ← List.append_assoc]
    exact ih (old ++ v)

theorem get_default (f : DiagField) : f.slot.get {} = none := by
  cases f <;> rfl

end DiagField

theorem NetDiagData.decode_of_encode {entries : List TlvEntry} {bytes : Bytes}
    (h : TlvSet.encode ⟨entries⟩ = .ok bytes) :
    NetDiagData.decode bytes = entries.foldlM NetDiag.decodeEntry {} := by
  unfold NetDiagData.decode
  rw [TlvSet.parse_of_encode h]
  rfl

/-- **Diagnostic decoding** depends on the TLVs of each field only -- not on TLVs of unknown types
    and not on the order of TLVs of different types -- and each field comes from the last of its
    TLVs, except that the child address lists accumulate. -/
theorem NetDiagData.decode_by_field {entries : List TlvEntry} {bytes : Bytes}
    (hencode : TlvSet.encode ⟨entries⟩ = .ok bytes) :
    (∀ entries' bytes', TlvSet.encode ⟨entries'⟩ = .ok bytes' →
      (∀ f : DiagField, f.entriesOf entries' = f.entriesOf entries) →
      ∀ data, NetDiagData.decode bytes' = .ok data ↔ NetDiagData.decode bytes = .ok data) ∧
    ∀ data, NetDiagData.decode bytes = .ok data →
      (∀ f : DiagField, f.Readable entries) ∧
      (∀ f : DiagField, f ≠ .childIpv6Addresses →
        f.slot.get data = (f.values entries).getLast?) ∧
      data.childIpv6Addresses = if DiagField.childIpv6Addresses.values entries = [] then none
        else some (DiagField.childIpv6Addresses.values entries).flatten := by
  rw [decode_of_encode hencode]
  constructor
  · intro entries' bytes' hencode' hsame data
    rw [decode_of_encode hencode', DiagField.foldlM_eq_ok_iff, DiagField.foldlM_eq_ok_iff]
    refine forall_congr' fun f => ?_
    unfold DiagField.Readable DiagField.values
    rw [hsame f]
  · intro data hdecode
    have hfields := DiagField.foldlM_eq_ok_iff.mp hdecode
    refine ⟨fun f => (hfields f).1, fun f hf => ?_, ?_⟩
    · rw [(hfields f).2, f.get_default, DiagField.gather_of_last hf, Option.or_none]
    · have hchildren := (hfields .childIpv6Addresses).2
      generalize DiagField.childIpv6Addresses.values entries = vs at hchildren ⊢
      cases vs with
      | nil => exact hchildren
      | cons v vs => exact hchildren.trans (DiagField.gather_children v vs)

/-- A Mode TLV between two MAC addresses: the last address counts. -/
theorem NetDiagData.decode_by_field_twice :
    TlvSet.encode ⟨[⟨1, [4, 0]⟩, ⟨2, [9]⟩, ⟨1, [8, 0]⟩]⟩
      = .ok [1, 2, 4, 0, 2, 1, 9, 1, 2, 8, 0] ∧
    ∀ data, NetDiagData.decode [1, 2, 4, 0, 2, 1, 9, 1, 2, 8, 0] = .ok data →
      data.macAddr = some 0x0800 := by
  have hencode : TlvSet.encode ⟨[⟨1, [4, 0]⟩, ⟨2, [9]⟩, ⟨1, [8, 0]⟩]⟩
      = .ok [1, 2, 4, 0, 2, 1, 9, 1, 2, 8, 0] := by decide
  refine ⟨hencode, fun data hdata => ?_⟩
  exact ((decode_by_field hencode).2 data hdata).2.1 .macAddr (fun h => by cases h)

end Meshcop
