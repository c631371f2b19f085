/-
  Meshcop.Client.DatasetWrite — a commissioner dataset, from the call to what the leader reads
  (`meshcop/src/commissioner/client/datasets.rs`, `meshcop/src/meshcop/builders.rs`).

  For its users a dataset is a map from types to values.  A write first takes out the TLVs that
  the protocol manages, and puts the session's own ID before the rest.

  Main result: `commissioner_dataset_read_back`.
-/

import Meshcop.Client.EnableJoiner
import Meshcop.Wire.Encapsulation

namespace Meshcop

open Lib

/-- `dataset_set_request`, at the path of its operation. -/
def datasetSetRequest (uriPath : Text) (messageId : UInt16) (token : Bytes) (sessionId : UInt16)
    (dataset : Dataset) : Except Error CoapMessage := do
  let payload ← appendU16 [] TLV_COMMISSIONER_SESSION_ID sessionId
  let bytes ← dataset.toBytes
  CoapMessage.postRequest .confirmable messageId token uriPath (payload ++ bytes)

/-- The request of `write_commissioner_dataset`. -/
def commissionerSetRequest (messageId : UInt16) (token : Bytes) (sessionId : UInt16)
    (dataset : Dataset) : Except Error CoapMessage := do
  let dataset ← datasetToWrite (some sessionId) dataset
  datasetSetRequest Uri.MGMT_COMMISSIONER_SET messageId token sessionId dataset

/-- **A commissioner dataset write.**  If something settable is left and every value fits a TLV, a
    request is built.  Once it was encoded and decoded, the leader reads the caller's values, with
    the session's own ID and no locator. -/
theorem commissioner_dataset_read_back (messageId : UInt16) {token : Bytes}
    (htoken : token.length ≤ 8) (sessionId : UInt16) {dataset : Dataset}
    (hsettable : (stripManagedCommissionerTlvs dataset).entries ≠ [])
    (hfits : ∀ entry ∈ (stripManagedCommissionerTlvs dataset).entries,
      entry.value.length ≤ 65535) :
    ∃ request bytes received read,
      commissionerSetRequest messageId token sessionId dataset = .ok request ∧
      request.encode = .ok bytes ∧ CoapMessage.decode bytes = .ok received ∧
      received.uriPath = .ok (some Uri.MGMT_COMMISSIONER_SET) ∧
      Dataset.fromBytes received.payload = .ok read ∧ read.raw =
        Function.update (Function.update dataset.raw TLV_BORDER_AGENT_LOCATOR none)
          TLV_COMMISSIONER_SESSION_ID (some (toBE 2 sessionId.toNat)) := by
  obtain ⟨encoded, hencoded⟩ := TlvSet.exists_encode_of_le hfits
  obtain ⟨front, hfront, hparse⟩ :=
    @appendU16_of_parse [] [] TLV_COMMISSIONER_SESSION_ID sessionId rfl
  have hwhole := (TlvSet.parse_append_iff hparse).mpr ⟨_, TlvSet.parse_of_encode hencoded, rfl⟩
  -- a post is a message without options whose path is set
  obtain ⟨request, bytes, hset, hbuilt⟩ := @exists_carrier
    ⟨.confirmable, .POST, messageId, token, [], front ++ encoded⟩ (ascii "c/cs") (by decide)
    (by decide) htoken rfl
  obtain ⟨received, hdecode, huri, hpayload⟩ := CoapMessage.decode_carrier hbuilt.encoded
  have hraw : (stripManagedCommissionerTlvs dataset).raw = Function.update (Function.update
      dataset.raw TLV_BORDER_AGENT_LOCATOR none) TLV_COMMISSIONER_SESSION_ID none := by
    rw [stripManagedCommissionerTlvs, Dataset.raw_removeAll, Dataset.raw_removeAll]
    exact Function.update_comm (by decide) _ _ _
  refine ⟨request, bytes, received, ⟨⟨⟨TLV_COMMISSIONER_SESSION_ID, toBE 2 sessionId.toNat⟩ ::
    (stripManagedCommissionerTlvs dataset).entries⟩⟩, ?_, hbuilt.encoded, hdecode,
    huri.trans hbuilt.path, ?_, ?_⟩
  · simp only [commissionerSetRequest, datasetToWrite, if_neg hsettable]
    show datasetSetRequest _ _ _ _ _ = _
    simp only [datasetSetRequest, hfront, Dataset.toBytes, hencoded]
    show CoapMessage.postRequest _ _ _ (0x2f :: ascii "c/cs") _ = _
    simp only [CoapMessage.postRequest, hset]
  · rw [hpayload, hbuilt.payload, Dataset.fromBytes, hwhole]
    rfl
  · rw [Dataset.raw_cons (by rw [hraw, Function.update_self]), hraw, Function.update_idem]

/-- Steering data beside a locator and another session's ID. -/
theorem commissioner_dataset_read_back_steering :
    let dataset : Dataset := ⟨⟨[⟨TLV_BORDER_AGENT_LOCATOR, [1]⟩, ⟨TLV_STEERING_DATA, [0xff]⟩,
      ⟨TLV_COMMISSIONER_SESSION_ID, [2]⟩]⟩⟩
    ∃ request bytes, commissionerSetRequest 1 [] 0x1234 dataset = .ok request ∧
      request.encode = .ok bytes := by
  intro dataset
  obtain ⟨request, bytes, -, -, hrequest, hbytes, -⟩ :=
    @commissioner_dataset_read_back 1 [] (by decide) 0x1234 dataset (by decide) (by decide)
  exact ⟨request, bytes, hrequest, hbytes⟩

end Meshcop
