/-
  Meshcop.Client.EnableJoiner — steering data under concurrent `enable_joiner` calls
  (`meshcop/src/commissioner/client/{datasets,mod}.rs`, the Bloom filter of
  `meshcop/src/crypto/pskc.rs`).

  `enable_joiner` takes the write lock, reads the steering data from the leader, sets the two
  Bloom bits of a joiner ID in it and writes it back; the lock is given up when the call
  returns or its future is dropped.  Calls from any number of handles interleave at every await,
  and each may fail or be dropped at any of them.

  The leader is not part of the code.  What is assumed of it stands in the guards of `serve`,
  `apply` and `reply`: a dataset it reports carries its steering data, a write takes effect
  before its call returns or is dropped or not at all, and it accepts only what it has taken
  over.

  Main results:
    * `enabled_add`, `Enabled.add` — adding a joiner sets its bits and clears none;
    * `step_sound`           — every step keeps each finished call's bits set;
    * `no_enabled_joiner_is_lost`.
-/

import Mathlib.Data.List.Induction
import Meshcop.Lib.Interleaving
import Meshcop.Driver.Exchange
import Meshcop.Wire.Dataset

namespace Meshcop

open Lib

/-! ## §1. The Bloom filter. -/

def MAX_STEERING_DATA_LEN : Nat := 16

/-- One shift of the CRC register. -/
def crcShift (poly crc : UInt16) : UInt16 :=
  if crc &&& 0x8000 ≠ 0 then (crc <<< 1) ^^^ poly else crc <<< 1

/-- One byte into the CRC register: eight shifts. -/
def crcByte (poly crc : UInt16) (byte : UInt8) : UInt16 :=
  let fed : UInt16 := crc ^^^ (byte.toUInt16 <<< (8 : UInt16))
  (crcShift poly)^[8] fed

def crc16 (poly : UInt16) (bytes : Bytes) : UInt16 := bytes.foldl (crcByte poly) 0

/-- Sets a bit, counted from the end of the bytes. -/
def setBit (out : Bytes) (bit : Nat) : Bytes :=
  out.modify (out.length - 1 - bit / 8) fun byte => byte ||| (1 <<< UInt8.ofNat (bit % 8))

/-- The two bits of an input in a filter of `numBits` bits. -/
def ccittBit (numBits : Nat) (input : Bytes) : Nat := (crc16 0x1021 input).toNat % numBits
def ansiBit (numBits : Nat) (input : Bytes) : Nat := (crc16 0x8005 input).toNat % numBits

def computeBloomFilter (out input : Bytes) : Bytes :=
  let numBits := out.length * 8
  setBit (setBit out (ccittBit numBits input)) (ansiBit numBits input)

/-- Adds a joiner ID; steering data of another length starts over. -/
def addJoinerToSteeringData (steeringData joinerId : Bytes) : Bytes :=
  computeBloomFilter
    (if steeringData.length ≠ MAX_STEERING_DATA_LEN then List.replicate MAX_STEERING_DATA_LEN 0
      else steeringData)
    joinerId

/-- Whether a bit, counted from the end of the bytes, is set. -/
def hasBit (out : Bytes) (bit : Nat) : Bool :=
  (out.getD (out.length - 1 - bit / 8) 0).toNat.testBit (bit % 8)

@[simp] theorem length_setBit (out : Bytes) (bit : Nat) : (setBit out bit).length = out.length := by
  unfold setBit
  rw [List.length_modify]

/-- The bits of a byte after one is set. -/
theorem testBit_or_one_shiftLeft (byte : UInt8) {k : Nat} (hk : k < 8) (i : Nat) :
    (byte ||| (1 <<< UInt8.ofNat k)).toNat.testBit i = true ↔
      byte.toNat.testBit i = true ∨ i = k := by
  have hone : ((1 : UInt8) <<< UInt8.ofNat k).toNat = 2 ^ k := by
    have hk' : (UInt8.ofNat k).toNat = k := by
      rw [UInt8.toNat_ofNat']
      omega
    rw [UInt8.toNat_shiftLeft, hk', Nat.mod_eq_of_lt hk]
    show 1 <<< k % 2 ^ 8 = _
    rw [Nat.one_shiftLeft]
    exact Nat.mod_eq_of_lt (Nat.pow_lt_pow_right (by decide) hk)
  rw [UInt8.toNat_or, hone, Nat.testBit_or, Nat.testBit_two_pow, Bool.or_eq_true,
    decide_eq_true_iff, eq_comm (a := i)]

/-- **Setting a bit** sets it and leaves the others. -/
theorem hasBit_setBit {out : Bytes} {bit : Nat} (hbit : bit < out.length * 8) (other : Nat)
    (hother : other < out.length * 8) :
    hasBit (setBit out bit) other = true ↔ hasBit out other = true ∨ other = bit := by
  unfold hasBit
  rw [length_setBit]
  unfold setBit
  rw [List.getD_eq_getElem?_getD, List.getD_eq_getElem?_getD, List.getElem?_modify]
  have hin : out.length - 1 - other / 8 < out.length := by omega
  rw [List.getElem?_eq_getElem hin, Option.map_eq_map, Option.map_some, Option.getD_some,
    Option.getD_some]
  by_cases hsame : out.length - 1 - bit / 8 = out.length - 1 - other / 8
  · rw [if_pos hsame, testBit_or_one_shiftLeft _ (Nat.mod_lt _ (by decide))]
    -- in one byte a bit is told by its place
    have hplace : other % 8 = bit % 8 ↔ other = bit := by
      constructor
      · intro h
        omega
      · intro h
        rw [h]
    rw [hplace]
  · rw [if_neg hsame]
    have hne : other ≠ bit := by
      intro h
      rw [h] at hsame
      exact hsame rfl
    simp [hne]

/-- The bits of the filter after one more input. -/
theorem hasBit_computeBloomFilter {out : Bytes} (hpos : 0 < out.length) (input : Bytes)
    (bit : Nat) (hbit : bit < out.length * 8) : hasBit (computeBloomFilter out input) bit = true ↔
      hasBit out bit = true ∨ bit = ccittBit (out.length * 8) input ∨
        bit = ansiBit (out.length * 8) input := by
  have hccitt : ccittBit (out.length * 8) input < out.length * 8 := Nat.mod_lt _ (by omega)
  have hansi : ansiBit (out.length * 8) input < out.length * 8 := Nat.mod_lt _ (by omega)
  unfold computeBloomFilter
  rw [hasBit_setBit (by rw [length_setBit]; exact hansi) bit (by rw [length_setBit]; exact hbit),
    hasBit_setBit hccitt bit hbit, or_assoc]

theorem length_addJoinerToSteeringData (steeringData joinerId : Bytes) :
    (addJoinerToSteeringData steeringData joinerId).length = MAX_STEERING_DATA_LEN := by
  unfold addJoinerToSteeringData computeBloomFilter
  rw [length_setBit, length_setBit]
  by_cases hlen : steeringData.length ≠ MAX_STEERING_DATA_LEN
  · rw [if_pos hlen, List.length_replicate]
  · rw [if_neg hlen]
    exact Decidable.not_not.mp hlen

/-- The leader's steering data has 16 bytes and both bits of the joiner ID. -/
def Enabled (steering : Option Bytes) (joinerId : Bytes) : Prop :=
  ∃ data, steering = some data ∧ data.length = MAX_STEERING_DATA_LEN ∧
    hasBit data (ccittBit (MAX_STEERING_DATA_LEN * 8) joinerId) = true ∧
    hasBit data (ansiBit (MAX_STEERING_DATA_LEN * 8) joinerId) = true

/-- The bits of steering data after a joiner was added. -/
theorem hasBit_addJoinerToSteeringData {steeringData : Bytes}
    (hlen : steeringData.length = MAX_STEERING_DATA_LEN) (joinerId : Bytes) (bit : Nat)
    (hbit : bit < MAX_STEERING_DATA_LEN * 8) :
    hasBit (addJoinerToSteeringData steeringData joinerId) bit = true ↔
      hasBit steeringData bit = true ∨ bit = ccittBit (MAX_STEERING_DATA_LEN * 8) joinerId ∨
        bit = ansiBit (MAX_STEERING_DATA_LEN * 8) joinerId := by
  unfold addJoinerToSteeringData
  rw [if_neg (not_not_intro hlen), ← hlen]
  exact hasBit_computeBloomFilter (by rw [hlen]; decide) joinerId bit (by rw [hlen]; exact hbit)

/-- Steering data of another length is replaced by zeros of the right one. -/
theorem addJoinerToSteeringData_of_length_ne {steeringData : Bytes}
    (hlen : steeringData.length ≠ MAX_STEERING_DATA_LEN) (joinerId : Bytes) :
    addJoinerToSteeringData steeringData joinerId
      = addJoinerToSteeringData (List.replicate MAX_STEERING_DATA_LEN 0) joinerId := by
  unfold addJoinerToSteeringData
  rw [if_pos hlen, if_neg (not_not_intro (List.length_replicate))]

theorem ccittBit_lt (joinerId : Bytes) :
    ccittBit (MAX_STEERING_DATA_LEN * 8) joinerId < MAX_STEERING_DATA_LEN * 8 :=
  Nat.mod_lt _ (by decide)

theorem ansiBit_lt (joinerId : Bytes) :
    ansiBit (MAX_STEERING_DATA_LEN * 8) joinerId < MAX_STEERING_DATA_LEN * 8 :=
  Nat.mod_lt _ (by decide)

/-- **An added joiner is enabled**, whatever the data was. -/
theorem enabled_add (steeringData joinerId : Bytes) :
    Enabled (some (addJoinerToSteeringData steeringData joinerId)) joinerId := by
  refine ⟨_, rfl, length_addJoinerToSteeringData _ _, ?_⟩
  have hset : ∀ data : Bytes, data.length = MAX_STEERING_DATA_LEN →
      hasBit (addJoinerToSteeringData data joinerId)
          (ccittBit (MAX_STEERING_DATA_LEN * 8) joinerId) = true ∧
        hasBit (addJoinerToSteeringData data joinerId)
          (ansiBit (MAX_STEERING_DATA_LEN * 8) joinerId) = true := by
    intro data hdata
    exact ⟨(hasBit_addJoinerToSteeringData hdata _ _ (ccittBit_lt _)).mpr (Or.inr (Or.inl rfl)),
      (hasBit_addJoinerToSteeringData hdata _ _ (ansiBit_lt _)).mpr (Or.inr (Or.inr rfl))⟩
  by_cases hlen : steeringData.length = MAX_STEERING_DATA_LEN
  · exact hset steeringData hlen
  · rw [addJoinerToSteeringData_of_length_ne hlen]
    exact hset _ List.length_replicate

/-- **Adding a joiner disables none.** -/
theorem Enabled.add {steering : Option Bytes} {joinerId : Bytes} (h : Enabled steering joinerId)
    (added : Bytes) : Enabled (some (addJoinerToSteeringData (steering.getD []) added)) joinerId := by
  obtain ⟨data, rfl, hlen, hccitt, hansi⟩ := h
  refine ⟨_, rfl, length_addJoinerToSteeringData _ _, ?_, ?_⟩
  · exact (hasBit_addJoinerToSteeringData hlen _ _ (ccittBit_lt _)).mpr (Or.inl hccitt)
  · exact (hasBit_addJoinerToSteeringData hlen _ _ (ansiBit_lt _)).mpr (Or.inl hansi)

/-! ## §2. The pieces of a call. -/

def TLV_STEERING_DATA : UInt8 := 8
def TLV_BORDER_AGENT_LOCATOR : UInt8 := 9

/-- An accepted, or absent, State TLV is success. -/
def checkStateResponse (response : CoapMessage) (stateMandatory : Bool) : Except Error Unit := do
  let state ← parseStateResponse response stateMandatory
  match state with
  | none => .ok ()
  | some .accept => .ok ()
  | some .pending => .error (.invalidState "MeshCoP response is pending")
  | some .reject => .error (.invalidState "MeshCoP request was rejected")

/-- The dataset in a leader's answer to MGMT_COMMISSIONER_GET. -/
def datasetOfResponse (response : CoapMessage) : Except Error Dataset := do
  let response ← requireSuccessResponse response
  Dataset.fromBytes response.payload

/-- The dataset with the joiner added to the steering data that was read. -/
def datasetEnabling (current : Dataset) (joinerId : Bytes) : Dataset :=
  let steeringData := (current.raw TLV_STEERING_DATA).getD []
  Dataset.empty.setRaw TLV_STEERING_DATA (addJoinerToSteeringData steeringData joinerId)

/-- Removes the TLVs the protocol manages itself. -/
def stripManagedCommissionerTlvs (dataset : Dataset) : Dataset :=
  (dataset.removeAll TLV_COMMISSIONER_SESSION_ID).removeAll TLV_BORDER_AGENT_LOCATOR

/-- The checks of `write_commissioner_dataset` before the request is built. -/
def datasetToWrite (sessionId : Option UInt16) (dataset : Dataset) : Except Error Dataset :=
  match sessionId with
  | none => .error (.invalidState "commissioner session is not active")
  | some _ =>
    let dataset := stripManagedCommissionerTlvs dataset
    if dataset.entries = [] then .error (.dataset "commissioner dataset has no settable TLVs")
    else .ok dataset

/-- Stripping leaves the new steering data alone. -/
theorem raw_datasetToWrite {sessionId : Option UInt16} {current written : Dataset}
    {joinerId : Bytes}
    (h : datasetToWrite sessionId (datasetEnabling current joinerId) = .ok written) :
    written.raw TLV_STEERING_DATA
      = some (addJoinerToSteeringData ((current.raw TLV_STEERING_DATA).getD []) joinerId) := by
  unfold datasetToWrite at h
  split at h
  · cases h
  dsimp only at h
  split at h
  · cases h
  · rw [← Except.ok.inj h]
    rfl

/-! ## §3. Interleaved calls. -/

namespace EnableJoiner

/-- The write lock and the leader. -/
structure Shared where
  holder : Option Nat
  /-- The leader's steering data. -/
  steering : Option Bytes

/-- How far a call is, with what it holds across its awaits. -/
inductive Phase where
  /-- Waiting for the write lock. -/
  | waiting
  /-- The lock is held and the dataset is requested. -/
  | reading
  /-- The leader has answered; the answer is under way. -/
  | served (response : CoapMessage)
  | updated (dataset : Dataset)
  /-- The write is under way and has not taken effect. -/
  | writing (dataset : Dataset)
  /-- The write has taken effect at the leader. -/
  | written
  | returned (result : Except Error Unit)
  /-- The caller dropped the future. -/
  | dropped
  deriving DecidableEq

structure Call where
  joinerId : FixedBytes 8
  phase : Phase
  deriving DecidableEq

abbrev State := Pool Shared Call

def State.start (steering : Option Bytes) : State :=
  { shared := { holder := none, steering }, tasks := [] }

def Call.enter (joinerId : FixedBytes 8) : Call := { joinerId, phase := .waiting }

/-- Returns, which gives up the lock. -/
def leave (s : Shared) (call : Call) (result : Except Error Unit) : Shared × Call :=
  ({ s with holder := none }, { call with phase := .returned result })

/-- Takes the lock if it is free. -/
def acquire (i : Nat) (s : Shared) (call : Call) : Shared × Call :=
  match call.phase with
  | .waiting =>
    if s.holder = none then ({ s with holder := some i }, { call with phase := .reading })
    else (s, call)
  | _ => (s, call)

/-- Whether an answer of the leader, if it is read as a dataset, carries its steering data. -/
def reports (response : CoapMessage) (steering : Option Bytes) : Bool :=
  match datasetOfResponse response with
  | .ok dataset => dataset.raw TLV_STEERING_DATA = steering
  | .error _ => true

/-- The leader answers the request for its dataset. -/
def serve (response : CoapMessage) (s : Shared) (call : Call) : Shared × Call :=
  match call.phase with
  | .reading =>
    if reports response s.steering then (s, { call with phase := .served response }) else (s, call)
  | _ => (s, call)

/-- The answer arrives. -/
def answer (s : Shared) (call : Call) : Shared × Call :=
  match call.phase with
  | .served response =>
    match datasetOfResponse response with
    | .error e => leave s call (.error e)
    | .ok current =>
      (s, { call with phase := .updated (datasetEnabling current call.joinerId.bytes) })
  | _ => (s, call)

/-- The write is sent, if the session has an ID. -/
def write (sessionId : Option UInt16) (s : Shared) (call : Call) : Shared × Call :=
  match call.phase with
  | .updated dataset =>
    match datasetToWrite sessionId dataset with
    | .error e => leave s call (.error e)
    | .ok dataset => (s, { call with phase := .writing dataset })
  | _ => (s, call)

/-- The write takes effect at the leader. -/
def apply (s : Shared) (call : Call) : Shared × Call :=
  match call.phase with
  | .writing dataset =>
    ({ s with steering := (dataset.raw TLV_STEERING_DATA).or s.steering }
      , { call with phase := .written })
  | _ => (s, call)

/-- The leader's response to the write arrives; it accepts only what has taken effect. -/
def reply (response : CoapMessage) (s : Shared) (call : Call) : Shared × Call :=
  let result := requireSuccessResponse response >>= (checkStateResponse · true)
  match call.phase with
  | .writing _ =>
    match result with
    | .ok _ => (s, call)
    | .error e => leave s call (.error e)
  | .written => leave s call result
  | _ => (s, call)

/-- An exchange, a lookup of the leader's address or a request's assembly fails. -/
def fail (e : Error) (s : Shared) (call : Call) : Shared × Call :=
  match call.phase with
  | .reading | .served _ | .updated _ | .writing _ | .written => leave s call (.error e)
  | _ => (s, call)

/-- The future is dropped, and with it the lock if it is held. -/
def abandon (s : Shared) (call : Call) : Shared × Call :=
  match call.phase with
  | .waiting => (s, { call with phase := .dropped })
  | .reading | .served _ | .updated _ | .writing _ | .written =>
    ({ s with holder := none }, { call with phase := .dropped })
  | _ => (s, call)

/-- One atomic piece of an interleaving. -/
inductive Op where
  /-- Some handle calls `enable_joiner`. -/
  | call (joinerId : FixedBytes 8)
  | acquire (i : Nat)
  | serve (i : Nat) (response : CoapMessage)
  | answer (i : Nat)
  | write (i : Nat) (sessionId : Option UInt16)
  | apply (i : Nat)
  | reply (i : Nat) (response : CoapMessage)
  | fail (i : Nat) (error : Error)
  | abandon (i : Nat)

def step (state : State) : Op → State
  | .call joinerId => state.spawn fun _ => Call.enter joinerId
  | .acquire i => state.advance i (acquire i)
  | .serve i response => state.advance i (serve response)
  | .answer i => state.advance i answer
  | .write i sessionId => state.advance i (write sessionId)
  | .apply i => state.advance i apply
  | .reply i response => state.advance i (reply response)
  | .fail i e => state.advance i (fail e)
  | .abandon i => state.advance i abandon

def run (steering : Option Bytes) (ops : List Op) : State :=
  ops.foldl step (State.start steering)

/-! ## §4. What a call may rely on. -/

/-- Between taking the lock and giving it up a call is the holder, and what it has read or is
    about to write is up to date; a call that returned `Ok` finds its joiner enabled. -/
def Follows (s : Shared) (i : Nat) (call : Call) : Prop :=
  match call.phase with
  | .waiting => True
  | .reading => s.holder = some i
  | .served response => s.holder = some i ∧ reports response s.steering = true
  | .updated dataset =>
    s.holder = some i ∧ ∃ current, dataset = datasetEnabling current call.joinerId.bytes ∧
      current.raw TLV_STEERING_DATA = s.steering
  | .writing dataset =>
    s.holder = some i ∧ dataset.raw TLV_STEERING_DATA
      = some (addJoinerToSteeringData (s.steering.getD []) call.joinerId.bytes)
  | .written => s.holder = some i ∧ Enabled s.steering call.joinerId.bytes
  | .returned (.ok _) => Enabled s.steering call.joinerId.bytes
  | .returned (.error _) => True
  | .dropped => True

variable {s : Shared} {call : Call}

/-- **What the others tolerate**: a call that does not hold the lock is not disturbed by any
    change that disables no joiner. -/
theorem Follows.tolerates {s' : Shared} {j : Nat} (h : Follows s j call)
    (hother : s.holder ≠ some j)
    (hkept : ∀ joinerId, Enabled s.steering joinerId → Enabled s'.steering joinerId) :
    Follows s' j call := by
  obtain ⟨joinerId, phase⟩ := call
  cases phase with
  | waiting => trivial
  | reading => exact absurd h hother
  | served response => exact absurd h.1 hother
  | updated dataset => exact absurd h.1 hother
  | writing dataset => exact absurd h.1 hother
  | written => exact absurd h.1 hother
  | returned result =>
    cases result with
    | ok _ => exact hkept _ h
    | error e => trivial
  | dropped => trivial

/-- A move of call `i` from `s`: it follows its own rules afterwards, and the others theirs. -/
def Good (s : Shared) (i : Nat) (result : Shared × Call) : Prop :=
  Follows result.1 i result.2 ∧
    ∀ j other, j ≠ i → Follows s j other → Follows result.1 j other

variable {i : Nat}

/-- A move that leaves the shared state alone. -/
theorem good_local (h : Follows s i call) : Good s i (s, call) :=
  ⟨h, fun _ _ _ hother => hother⟩

/-- A move of the holder that disables no joiner. -/
theorem good_holder {s' : Shared} (hholder : s.holder = some i) (hown : Follows s' i call)
    (hkept : ∀ joinerId, Enabled s.steering joinerId → Enabled s'.steering joinerId) :
    Good s i (s', call) := by
  refine ⟨hown, fun j other hne hother => hother.tolerates ?_ hkept⟩
  rw [hholder]
  intro heq
  exact hne (Option.some.inj heq).symm

/-- The holder returns. -/
theorem good_leave (hholder : s.holder = some i) {result : Except Error Unit}
    (hresult : ∀ u, result = .ok u → Enabled s.steering call.joinerId.bytes) :
    Good s i (leave s call result) := by
  refine good_holder hholder ?_ (fun _ h => h)
  cases result with
  | ok u => exact hresult u rfl
  | error e => trivial

theorem acquire_good (h : Follows s i call) : Good s i (acquire i s call) := by
  obtain ⟨joinerId, phase⟩ := call
  cases phase with
  | waiting =>
    unfold acquire
    dsimp only
    by_cases hfree : s.holder = none
    · rw [if_pos hfree]
      refine ⟨rfl, fun j other _ hother => hother.tolerates ?_ (fun _ h => h)⟩
      rw [hfree]
      exact fun h => by cases h
    · rw [if_neg hfree]
      exact good_local h
  | _ => exact good_local h

theorem serve_good (response : CoapMessage) (h : Follows s i call) :
    Good s i (serve response s call) := by
  obtain ⟨joinerId, phase⟩ := call
  cases phase with
  | reading =>
    unfold serve
    dsimp only
    by_cases hreports : reports response s.steering = true
    · rw [if_pos hreports]
      exact good_local ⟨h, hreports⟩
    · rw [if_neg hreports]
      exact good_local h
  | _ => exact good_local h

theorem answer_good (h : Follows s i call) : Good s i (answer s call) := by
  obtain ⟨joinerId, phase⟩ := call
  cases phase with
  | served response =>
    obtain ⟨hholder, hreports⟩ := h
    unfold answer
    dsimp only
    unfold reports at hreports
    cases hdataset : datasetOfResponse response with
    | error e => exact good_leave hholder (fun _ h => by cases h)
    | ok current =>
      rw [hdataset] at hreports
      exact good_local ⟨hholder, current, rfl, of_decide_eq_true hreports⟩
  | _ => exact good_local h

theorem write_good (sessionId : Option UInt16) (h : Follows s i call) :
    Good s i (write sessionId s call) := by
  obtain ⟨joinerId, phase⟩ := call
  cases phase with
  | updated dataset =>
    obtain ⟨hholder, current, hdataset, hcurrent⟩ := h
    unfold write
    dsimp only
    cases hwrite : datasetToWrite sessionId dataset with
    | error e => exact good_leave hholder (fun _ h => by cases h)
    | ok written =>
      refine good_local ⟨hholder, ?_⟩
      rw [hdataset] at hwrite
      rw [raw_datasetToWrite hwrite, hcurrent]
  | _ => exact good_local h

/-- The one step that changes the steering data. -/
theorem apply_good (h : Follows s i call) : Good s i (apply s call) := by
  obtain ⟨joinerId, phase⟩ := call
  cases phase with
  | writing dataset =>
    obtain ⟨hholder, hdata⟩ := h
    unfold apply
    dsimp only
    rw [hdata]
    exact good_holder hholder ⟨hholder, enabled_add _ _⟩ (fun id henabled => henabled.add _)
  | _ => exact good_local h

theorem reply_good (response : CoapMessage) (h : Follows s i call) :
    Good s i (reply response s call) := by
  obtain ⟨joinerId, phase⟩ := call
  unfold reply
  generalize requireSuccessResponse response >>= (checkStateResponse · true) = result
  cases phase with
  | writing dataset =>
    cases result with
    | ok u => exact good_local h
    | error e => exact good_leave h.1 (fun _ h => by cases h)
  | written => exact good_leave h.1 (fun _ _ => h.2)
  | _ => exact good_local h

theorem fail_good (e : Error) (h : Follows s i call) : Good s i (fail e s call) := by
  obtain ⟨joinerId, phase⟩ := call
  cases phase with
  | reading => exact good_leave h (fun _ h => by cases h)
  | served response => exact good_leave h.1 (fun _ h => by cases h)
  | updated dataset => exact good_leave h.1 (fun _ h => by cases h)
  | writing dataset => exact good_leave h.1 (fun _ h => by cases h)
  | written => exact good_leave h.1 (fun _ h => by cases h)
  | _ => exact good_local h

theorem abandon_good (h : Follows s i call) : Good s i (abandon s call) := by
  obtain ⟨joinerId, phase⟩ := call
  cases phase with
  | waiting => exact good_local trivial
  | reading => exact good_holder h trivial (fun _ h => h)
  | served response => exact good_holder h.1 trivial (fun _ h => h)
  | updated dataset => exact good_holder h.1 trivial (fun _ h => h)
  | writing dataset => exact good_holder h.1 trivial (fun _ h => h)
  | written => exact good_holder h.1 trivial (fun _ h => h)
  | _ => exact good_local h

/-! ## §5. No enabled joiner is lost. -/

abbrev Sound (state : State) : Prop := Pool.Holds (fun _ => True) Follows state

theorem sound_advance {state : State} (h : Sound state) (i : Nat)
    {move : Shared → Call → Shared × Call}
    (hmove : ∀ call, Follows state.shared i call → Good state.shared i (move state.shared call)) :
    Sound (state.advance i move) := by
  refine h.advance fun call _ hcall => ?_
  obtain ⟨hown, hothers⟩ := hmove call hcall
  exact ⟨trivial, hown, hothers⟩

/-- **Every step keeps the state sound.** -/
theorem step_sound {state : State} (h : Sound state) (op : Op) : Sound (step state op) := by
  cases op with
  | call joinerId =>
    show Sound (state.spawn fun _ => Call.enter joinerId)
    exact h.spawn trivial
  | acquire i => exact sound_advance h i fun _ => acquire_good
  | serve i response => exact sound_advance h i fun _ => serve_good response
  | answer i => exact sound_advance h i fun _ => answer_good
  | write i sessionId => exact sound_advance h i fun _ => write_good sessionId
  | apply i => exact sound_advance h i fun _ => apply_good
  | reply i response => exact sound_advance h i fun _ => reply_good response
  | fail i e => exact sound_advance h i fun _ => fail_good e
  | abandon i => exact sound_advance h i fun _ => abandon_good

theorem run_sound (steering : Option Bytes) (ops : List Op) : Sound (run steering ops) := by
  unfold run
  induction ops using List.reverseRecOn with
  | nil => exact { shared := trivial, tasks := by simp [State.start] }
  | append_singleton ops op ih =>
    rw [List.foldl_append]
    exact step_sound ih op

/-- **No enabled joiner is lost.**  Whatever steering data the leader starts with, for every
    interleaving of `enable_joiner` calls, failed and dropped ones included, the leader's
    16-byte steering data has both Bloom bits of every joiner ID whose call returned `Ok`. -/
theorem no_enabled_joiner_is_lost (steering : Option Bytes) (ops : List Op) (i : Nat) (call : Call)
    (hcall : (run steering ops).tasks[i]? = some call) (hok : call.phase = .returned (.ok ())) :
    ∃ data, (run steering ops).shared.steering = some data ∧
      data.length = MAX_STEERING_DATA_LEN ∧
      hasBit data (ccittBit (MAX_STEERING_DATA_LEN * 8) call.joinerId.bytes) = true ∧
      hasBit data (ansiBit (MAX_STEERING_DATA_LEN * 8) call.joinerId.bytes) = true := by
  have hfollows := (run_sound steering ops).tasks i call hcall
  unfold Follows at hfollows
  rw [hok] at hfollows
  exact hfollows

/-- A response of the leader with a payload. -/
def responseWith (payload : Bytes) : CoapMessage :=
  { ty := .nonConfirmable, code := .CHANGED, messageId := 1, token := [], options := [], payload }

def accepted : CoapMessage := responseWith [TLV_STATE, 1, 1]

/-- A leader's dataset with the steering data of these joiners. -/
def steeringOf (joinerIds : List Bytes) : Bytes :=
  joinerIds.foldl addJoinerToSteeringData []

def reporting (joinerIds : List Bytes) : CoapMessage :=
  responseWith (TLV_STEERING_DATA :: 16 :: steeringOf joinerIds)

def joiner (k : UInt8) : FixedBytes 8 := ⟨[0, 0, 0, 0, 0, 0, 0, k], rfl⟩

/-- Three handles: the second waits for the first, and is dropped after its write took effect;
    the third finds both joiners in the data. -/
def threeHandles : List Op :=
  [.call (joiner 1), .call (joiner 2), .acquire 0, .acquire 1, .serve 0 (responseWith []),
    .answer 0, .write 0 (some 7), .apply 0, .reply 0 accepted, .acquire 1, .call (joiner 3),
    .serve 1 (reporting [(joiner 1).bytes]), .answer 1, .write 1 (some 7), .apply 1, .abandon 1,
    .acquire 2, .serve 2 (reporting [(joiner 1).bytes, (joiner 2).bytes]), .answer 2,
    .write 2 (some 7), .apply 2, .reply 2 accepted]

theorem no_enabled_joiner_is_lost_threeHandles :
    (run none threeHandles).shared.steering
        = some (steeringOf [(joiner 1).bytes, (joiner 2).bytes, (joiner 3).bytes]) ∧
      ∃ data, (run none threeHandles).shared.steering = some data ∧
        data.length = MAX_STEERING_DATA_LEN ∧
        hasBit data (ccittBit (MAX_STEERING_DATA_LEN * 8) (joiner 1).bytes) = true ∧
        hasBit data (ansiBit (MAX_STEERING_DATA_LEN * 8) (joiner 1).bytes) = true :=
  ⟨by decide +kernel, no_enabled_joiner_is_lost none threeHandles 0
      { joinerId := joiner 1, phase := .returned (.ok ()) } (by decide +kernel) rfl⟩

end EnableJoiner

end Meshcop
