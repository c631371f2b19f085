/-
  Meshcop.Cli.DatasetField — setting one field of the Active Operational Dataset
  (`ot-commissioner-cli/src/cli/interpreter/datasets.rs`, `op_dataset_field_set`).

  The command parses the field's text, asks the leader for the Active Timestamp, and sends the one
  field with a timestamp of the next second.  Trimming, the parsing of integers and addresses and
  `hex` are parameters.

  Main results:
    * `opDatasetFieldSet_sent` — the timestamp of the update;
    * `field_update_newer_iff` — when it is newer than the reported one.
-/

import Meshcop.Cli.Joiner
import Meshcop.Wire.Dataset

namespace Meshcop

open Lib

/-! ## §1. Texts. -/

/-- What the commands take from the standard library and from `hex`.  An integer parses as its
    value in the radix, whatever width the caller wants. -/
structure CliText where
  trim : String → String
  fromStrRadix : Nat → String → Option Nat
  hexDecode : String → Except String Bytes
  parseIpv6 : String → Option (FixedBytes 16)

def stripLiteral (literal s : String) : Option String :=
  if literal.toList.isPrefixOf s.toList then some (.ofList (s.toList.drop literal.length)) else none

/-- The digits behind `0x` or `0X`. -/
def hexDigits (s : String) : Option String := stripLiteral "0x" s <|> stripLiteral "0X" s

namespace CliText

variable (cli : CliText)

def parseUnsigned (bits radix : Nat) (s : String) : Option Nat :=
  (cli.fromStrRadix radix s).filter (· < 2 ^ bits)

def parseU64 (s : String) : Option UInt64 :=
  let s := cli.trim s
  UInt64.ofNat <$> match hexDigits s with
    | some hex => cli.parseUnsigned 64 16 hex
    | none => cli.parseUnsigned 64 10 s

def parsePanid (s : String) : Except Error UInt16 :=
  let s := cli.trim s
  let parsed := match hexDigits s with
    | some hex => cli.parseUnsigned 16 16 hex
    | none => cli.parseUnsigned 16 16 s <|> cli.parseUnsigned 16 10 s
  match parsed with
  | some panid => .ok (UInt16.ofNat panid)
  | none => .error (.dataset s!"invalid PAN ID '{s}'")

def parseMeshLocalPrefix (s : String) : Except Error (FixedBytes 8) :=
  match cli.parseIpv6 (cli.trim (.ofList (s.toList.takeWhile (· ≠ '/')))) with
  | some address => .ok { bytes := address.bytes.take 8, size := by simp [address.size] }
  | none => .error (.dataset s!"invalid mesh-local prefix '{s}'")

end CliText

/-- The flags of a security policy: a lone byte is the high one. -/
def policyFlags : Bytes → Option UInt16
  | hi :: lo :: _ => some (UInt16.ofNat (ofBE [hi, lo]))
  | [only] => some (only.toUInt16 <<< 8)
  | [] => none

/-! ## §2. The command. -/

/-- The calls on the commissioner: the reported Active Timestamp and the update. -/
structure DatasetCalls where
  getActive : Except Error Dataset
  setActive : Dataset → Except Error Unit

/-- The dataset with the one field; none if the field cannot be set. -/
def fieldDataset (cli : CliText) (field : String) (tokens : List String) :
    Except CliFailure (Option Dataset) := do
  let token i := tokens.getD i ""
  let hex i := (cli.hexDecode (cli.trim (token i))).mapError .text
  let only ty value := return some (Dataset.empty.setRaw ty value)
  match field with
  | "channel" =>
    let some page := cli.parseU64 (token 3) | throw (.text "invalid page")
    let some number := cli.parseU64 (token 4) | throw (.text "invalid channel")
    only TLV_CHANNEL (Channel.toValue { page := page.toUInt8, channel := number.toUInt16 })
  | "xpanid" => only TLV_EXTENDED_PAN_ID (← hex 3)
  | "networkmasterkey" => only TLV_NETWORK_KEY (← hex 3)
  | "networkname" => only TLV_NETWORK_NAME (token 3).toUTF8.data.toList
  | "panid" =>
    let panid ← (cli.parsePanid (token 3)).mapError .error
    only TLV_PAN_ID (toBE 2 panid.toNat)
  | "pskc" => only TLV_PSKC (← hex 3)
  | "meshlocalprefix" =>
    let address ← (cli.parseMeshLocalPrefix (token 3)).mapError .error
    only TLV_MESH_LOCAL_PREFIX address.bytes
  | "securitypolicy" =>
    let some rotation := (tokens[3]?).bind (cli.parseUnsigned 16 10)
      | throw (.text "invalid rotation time")
    let some flags := policyFlags (← hex 4) | throw (.text "flags must not be empty")
    only TLV_SECURITY_POLICY
      (SecurityPolicy.toValue { rotationTime := UInt16.ofNat rotation, flags })
  | _ => return none

/-- A second more than the reported timestamp has. -/
def nextSeconds (reported : Except Error Dataset) : Except Error UInt64 := do
  let current ← reported
  match ← current.activeTimestamp with
  | some ts => return ts.seconds + 1
  | none => return 1

/-- How the command ends, and the update that it sends. -/
def opDatasetFieldSet (cli : CliText) (commissioner : Option DatasetCalls) (field : String)
    (tokens : List String) : Except CliFailure Unit × Option Dataset :=
  match fieldDataset cli field tokens with
  | .error failure => (.error failure, none)
  | .ok none => (.error (.text s!"{field} cannot be set"), none)
  | .ok (some dataset) =>
    match commissioner with
    | none => (.error (.text "commissioner is not started; run 'start' first"), none)
    | some calls =>
      match nextSeconds calls.getActive with
      | .error error => (.error (.error error), none)
      | .ok seconds =>
        let update := dataset.setRaw TLV_ACTIVE_TIMESTAMP
          (Timestamp.fromComponents seconds 0 false).toValue
        ((calls.setActive update).mapError .error, some update)

/-- An update that is sent carries the reported second and one more. -/
theorem opDatasetFieldSet_sent {cli : CliText} {calls : DatasetCalls} {field : String}
    {tokens : List String} {current update : Dataset} {ts : Timestamp}
    (hreported : calls.getActive = .ok current)
    (hts : current.activeTimestamp = .ok (some ts))
    (hsent : (opDatasetFieldSet cli (some calls) field tokens).2 = some update) :
    update.activeTimestamp =
      .ok (some (Timestamp.fromComponents (ts.seconds + 1) 0 false)) := by
  have hnext : nextSeconds calls.getActive = .ok (ts.seconds + 1) := by
    unfold nextSeconds
    rw [hreported]
    show current.activeTimestamp >>= _ = _
    rw [hts]
    rfl
  unfold opDatasetFieldSet at hsent
  split at hsent
  case h_1 => cases hsent
  case h_2 => cases hsent
  case h_3 dataset _ =>
    simp only [hnext] at hsent
    rw [← Option.some.inj hsent, Dataset.activeTimestamp, Dataset.read, Dataset.raw_setRaw]
    show some <$> Timestamp.parse _ = _
    rw [Timestamp.parse_eq_ok_iff.mpr rfl]
    rfl

/-- **A per-field update is newer than the reported timestamp exactly if that one's seconds are not
    the highest**, for every field, text and reported timestamp: the highest second is followed by
    zero, and the update by the time it replaces. -/
theorem field_update_newer_iff {cli : CliText} {calls : DatasetCalls} {field : String}
    {tokens : List String} {current update : Dataset} {ts : Timestamp}
    (hreported : calls.getActive = .ok current)
    (hts : current.activeTimestamp = .ok (some ts))
    (hrun : opDatasetFieldSet cli (some calls) field tokens = (.ok (), some update)) :
    (∃ new, update.activeTimestamp = .ok (some new) ∧ ts.raw < new.raw) ↔
      ts.seconds.toNat < 2 ^ 48 - 1 := by
  have hsent := opDatasetFieldSet_sent hreported hts (congrArg Prod.snd hrun)
  rw [← ts.lt_nextSecond_iff, hsent]
  constructor
  · rintro ⟨new, hnew, hlt⟩
    cases hnew
    exact hlt
  · intro hlt
    exact ⟨_, rfl, hlt⟩

/-- Texts of hex digits alone. -/
def CliText.plain : CliText where
  trim := id
  fromStrRadix _ _ := none
  hexDecode _ := .ok []
  parseIpv6 _ := none

/-- A leader that reports a timestamp and takes every update. -/
def DatasetCalls.reporting (raw : UInt64) : DatasetCalls where
  getActive := .ok (Dataset.empty.setRaw TLV_ACTIVE_TIMESTAMP (Timestamp.toValue ⟨raw⟩))
  setActive _ := .ok ()

/-- The network's name set under a reported timestamp. -/
def renamed (raw : UInt64) : Except CliFailure Unit × Option Dataset :=
  opDatasetFieldSet .plain (some (.reporting raw)) "networkname" ["opdataset", "set", "networkname"]

/-- In the first second the update is newer. -/
theorem field_update_newer_first :
    ∃ update, renamed 0x10003 = (.ok (), some update) ∧
      ∃ new, update.activeTimestamp = .ok (some new) ∧ 0x10003 < new.raw := by
  obtain ⟨update, hrun⟩ : ∃ update, renamed 0x10003 = (.ok (), some update) := ⟨_, rfl⟩
  exact ⟨update, hrun, (@field_update_newer_iff .plain (.reporting 0x10003) _ _ _ update ⟨0x10003⟩
    rfl rfl hrun).mpr (by decide)⟩

/-- **In the last second the update is older than what it replaces**: it carries time zero. -/
theorem last_second_update_older :
    ∃ update, renamed 0xffffffffffff0000 = (.ok (), some update) ∧
      update.activeTimestamp = .ok (some ⟨0⟩) ∧ (0 : UInt64) < 0xffffffffffff0000 :=
  ⟨_, rfl, rfl, by decide⟩

end Meshcop
