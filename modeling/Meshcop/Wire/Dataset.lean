/-
  Meshcop.Wire.Dataset — Thread datasets as ordered TLV sets
  (`meshcop/src/dataset.rs`, the fields that the client's own operations read and write).

  A dataset keeps all its TLVs in wire order; reading a field takes the last TLV of its type,
  setting one drops the earlier ones.

  Main results:
    * `Timestamp.lt_nextSecond_iff` — when the next second is a later time;
    * `Dataset.raw_setRaw`          — a field reads back as it was set.
-/

import Meshcop.Wire.Tlv

namespace Meshcop

open Lib

/-! ## §1. TLV types and values. -/

def TLV_CHANNEL : UInt8 := 0x00
def TLV_EXTENDED_PAN_ID : UInt8 := 0x02
def TLV_NETWORK_NAME : UInt8 := 0x03
def TLV_PSKC : UInt8 := 0x04
def TLV_NETWORK_KEY : UInt8 := 0x05
def TLV_MESH_LOCAL_PREFIX : UInt8 := 0x07
def TLV_SECURITY_POLICY : UInt8 := 0x0c
def TLV_ACTIVE_TIMESTAMP : UInt8 := 0x0e

/-- Thread timestamp value, ordered by its bits: 48 of seconds, 15 of ticks, one for authority. -/
structure Timestamp where
  raw : UInt64
  deriving DecidableEq, Repr

namespace Timestamp

/-- Builds a timestamp from components. -/
def fromComponents (seconds : UInt64) (ticks : UInt16) (authoritative : Bool) : Timestamp :=
  { raw := (seconds <<< 16) ||| ((ticks.toUInt64 &&& 0x7fff) <<< 1) |||
      (if authoritative then 1 else 0) }

def parse (value : Bytes) : Except Error Timestamp := do
  let raw ← liftTlv (readU64 value)
  return { raw }

def seconds (ts : Timestamp) : UInt64 := ts.raw >>> 16

def toValue (ts : Timestamp) : Bytes := toBE 8 ts.raw.toNat

theorem toNat_seconds (ts : Timestamp) : ts.seconds.toNat = ts.raw.toNat / 2 ^ 16 := by
  rw [seconds, UInt64.toNat_shiftRight, Nat.shiftRight_eq_div_pow]
  rfl

/-- The seconds above 48 bits are shifted out, and the ticks above 15 masked. -/
theorem toNat_fromComponents (seconds : UInt64) (ticks : UInt16) (authoritative : Bool) :
    (fromComponents seconds ticks authoritative).raw.toNat =
      2 ^ 16 * (seconds.toNat % 2 ^ 48) + (2 ^ 1 * (ticks.toNat % 2 ^ 15) + authoritative.toNat) := by
  have hseconds : (seconds <<< 16).toNat = 2 ^ 16 * (seconds.toNat % 2 ^ 48) := by
    rw [UInt64.toNat_shiftLeft]
    simp only [UInt64.reduceToNat, Nat.reduceMod, Nat.shiftLeft_eq]
    omega
  have hticks : ((ticks.toUInt64 &&& 0x7fff) <<< 1).toNat = 2 ^ 1 * (ticks.toNat % 2 ^ 15) := by
    rw [UInt64.toNat_shiftLeft, UInt64.toNat_and,
      show (0x7fff : UInt64).toNat = 2 ^ 15 - 1 from rfl, Nat.and_two_pow_sub_one_eq_mod]
    simp only [UInt64.reduceToNat, Nat.reduceMod, Nat.shiftLeft_eq, UInt16.toNat_toUInt64]
    omega
  have hauthority : (if authoritative then (1 : UInt64) else 0).toNat = authoritative.toNat := by
    cases authoritative <;> rfl
  have hbit : authoritative.toNat < 2 ^ 1 := authoritative.toNat_lt
  have hlow : 2 ^ 1 * (ticks.toNat % 2 ^ 15) + authoritative.toNat < 2 ^ 16 := by omega
  rw [fromComponents, UInt64.toNat_or, UInt64.toNat_or, hseconds, hticks, hauthority, Nat.or_assoc,
    ← Nat.two_pow_add_eq_or_of_lt hbit, ← Nat.two_pow_add_eq_or_of_lt hlow]

/-- A value parses to exactly the timestamp that it is the value of. -/
theorem parse_eq_ok_iff {value : Bytes} {ts : Timestamp} :
    parse value = .ok ts ↔ ts.toValue = value := by
  unfold parse readU64
  constructor
  · intro h
    split at h
    · rename_i hlength
      cases h
      have hlt := ofBE_lt value
      have hvalue := toBE_ofBE value
      rw [hlength] at hlt hvalue
      rw [toValue, UInt64.toNat_ofNat_of_lt' hlt, hvalue]
    · cases h
  · rintro rfl
    have hlength : ts.toValue.length = 8 := length_toBE _ _
    have hword : UInt64.ofNat (ofBE ts.toValue) = ts.raw := by
      rw [toValue, ofBE_toBE, Nat.mod_eq_of_lt (show _ < 256 ^ 8 from ts.raw.toNat_lt),
        UInt64.ofNat_toNat]
    rw [if_pos hlength, hword]
    rfl

/-- The next second is a later time, unless it is the first again. -/
theorem lt_nextSecond_iff (ts : Timestamp) :
    ts.raw < (fromComponents (ts.seconds + 1) 0 false).raw ↔ ts.seconds.toNat < 2 ^ 48 - 1 := by
  have hraw := ts.raw.toNat_lt
  have hnext : (ts.seconds + 1).toNat = ts.seconds.toNat + 1 := by
    rw [UInt64.toNat_add, toNat_seconds]
    exact Nat.mod_eq_of_lt (by show _ + 1 < _; omega)
  rw [UInt64.lt_iff_toNat_lt, toNat_fromComponents, hnext, toNat_seconds]
  show _ < 2 ^ 16 * (_ % 2 ^ 48) + 0 ↔ _
  omega

end Timestamp

/-- Thread channel dataset value. -/
structure Channel where
  page : UInt8
  channel : UInt16

namespace Channel

def toValue (channel : Channel) : Bytes := channel.page :: toBE 2 channel.channel.toNat

end Channel

/-- Thread security policy value. -/
structure SecurityPolicy where
  rotationTime : UInt16
  flags : UInt16

namespace SecurityPolicy

def toValue (policy : SecurityPolicy) : Bytes :=
  toBE 2 policy.rotationTime.toNat ++ toBE 2 policy.flags.toNat

end SecurityPolicy

/-! ## §2. Datasets. -/

/-- A generic dataset. -/
structure Dataset where
  tlvs : TlvSet
  deriving DecidableEq, Repr

namespace Dataset

/-- The dataset without TLVs. -/
def empty : Dataset := { tlvs := { entries := [] } }

def fromBytes (bytes : Bytes) : Except Error Dataset := do
  let tlvs ← liftTlv (TlvSet.parse bytes)
  return { tlvs }

def toBytes (dataset : Dataset) : Except Error Bytes := liftTlv dataset.tlvs.encode

def entries (dataset : Dataset) : List TlvEntry := dataset.tlvs.entries

/-- The last raw value for a TLV type. -/
def raw (dataset : Dataset) (ty : UInt8) : Option Bytes := dataset.tlvs.lastValue ty

/-- Removes every TLV of the given type. -/
def removeAll (dataset : Dataset) (ty : UInt8) : Dataset :=
  { tlvs := { entries := dataset.entries.filter fun entry => !(entry.ty = ty) } }

/-- Sets a TLV value, removing previous values of the same type. -/
def setRaw (dataset : Dataset) (ty : UInt8) (value : Bytes) : Dataset :=
  { tlvs := { entries := (dataset.removeAll ty).entries ++ [{ ty, value }] } }

/-- A value of a fixed length. -/
def readArray (n : Nat) (value : Bytes) : Except Error (FixedBytes n) :=
  match FixedBytes.ofBytes? value with
  | some bytes => .ok bytes
  | none => .error (.dataset s!"expected {n} bytes, got {value.length}")

/-- The mesh-local prefix, if present. -/
def meshLocalPrefix (dataset : Dataset) : Except Error (Option (FixedBytes 8)) :=
  match dataset.raw TLV_MESH_LOCAL_PREFIX with
  | none => .ok none
  | some value => do
    let bytes ← readArray 8 value
    return some bytes

/-- The last value of a type, read if present. -/
def read {α : Type} (dataset : Dataset) (ty : UInt8) (parse : Bytes → Except Error α) :
    Except Error (Option α) :=
  match dataset.raw ty with
  | none => .ok none
  | some value => some <$> parse value

/-- The active timestamp, if present. -/
def activeTimestamp (dataset : Dataset) : Except Error (Option Timestamp) :=
  dataset.read TLV_ACTIVE_TIMESTAMP Timestamp.parse

/-- **A field reads back as it was set.** -/
@[simp] theorem raw_setRaw (dataset : Dataset) (ty : UInt8) (value : Bytes) :
    (dataset.setRaw ty value).raw ty = some value := by
  unfold raw setRaw TlvSet.lastValue
  simp

/-- Removing a type takes its value out of the map. -/
theorem raw_removeAll (dataset : Dataset) (ty : UInt8) :
    (dataset.removeAll ty).raw = Function.update dataset.raw ty none := by
  funext other
  unfold raw removeAll TlvSet.lastValue
  rw [← List.filter_reverse, List.find?_filter]
  by_cases hother : other = ty
  · simp [hother]
  · rw [Function.update_of_ne hother]
    congr 2
    funext entry
    by_cases hentry : entry.ty = other <;> simp [hentry, hother]

/-- An entry in front counts if no other has its type. -/
theorem raw_cons {entry : TlvEntry} {dataset : Dataset} (h : dataset.raw entry.ty = none) :
    (Dataset.mk ⟨entry :: dataset.entries⟩).raw =
      Function.update dataset.raw entry.ty (some entry.value) := by
  funext ty
  unfold raw TlvSet.lastValue at h ⊢
  rw [Option.map_eq_none_iff] at h
  rw [List.reverse_cons, List.find?_append]
  by_cases hty : ty = entry.ty
  · simp [hty, entries, h]
  · simp [hty, entries, Ne.symm hty]

end Dataset

end Meshcop
