/-
  Meshcop.Client.Pskc — key derivation from a passphrase (`meshcop/src/crypto/pskc.rs`).

  `pbkdf2_aes_cmac_prf_128` fills a buffer block by block.  Over any keyed function for AES-CMAC
  the blocks are those of PBKDF2, back to back.  The block counter has 32 bits and is counted up
  after every block, also after the last one: a buffer that takes the last value of the counter
  is filled, but the call fails.

  Main results:
    * `prfRounds_eq_ok`    — the inner loop is the running XOR of the chain `U(1), U(2), …`;
    * `pbkdf2Blocks_eq`    — the outer loop, from any block on;
    * `pbkdf2_fills_front`.
-/

import Meshcop.Lib.Blocks
import Meshcop.Lib.Computation
import Meshcop.Wire.Tlv

namespace Meshcop

open Lib

/-! ## §1. The function. -/

/-- The XOR of two byte strings of one length. -/
def xorBytes {n : Nat} (a b : FixedBytes n) : FixedBytes n where
  bytes := List.zipWith (· ^^^ ·) a.bytes b.bytes
  size := by rw [List.length_zipWith, a.size, b.size, Nat.min_self]

def zeroKey : FixedBytes 16 := ⟨List.replicate 16 0, List.length_replicate⟩

section Pbkdf2

variable (cmac : (key : FixedBytes 16) → (message : Bytes) → Option (FixedBytes 16))

/-- `aes_cmac`, over a CMAC that may refuse a key. -/
def aesCmac (key : FixedBytes 16) (message : Bytes) : Except Error (FixedBytes 16) :=
  match cmac key message with
  | none => .error (.crypto "invalid AES-CMAC key")
  | some out => .ok out

/-- `aes_cmac_prf_128`: a key of another length is replaced by its CMAC under the zero key. -/
def aesCmacPrf128 (key message : Bytes) : Except Error (FixedBytes 16) := do
  let prfKey ← if h : key.length = 16 then .ok ⟨key, h⟩ else aesCmac cmac zeroKey key
  aesCmac cmac prfKey message

/-- The inner loop: `u` is the last value of the chain and `t` the XOR so far. -/
def prfRounds (password : Bytes) :
    (rounds : Nat) → (u t : FixedBytes 16) → Except Error (FixedBytes 16)
  | 0, _, t => .ok t
  | rounds + 1, u, t => do
    let u ← aesCmacPrf128 cmac password u.bytes
    prfRounds password rounds u (xorBytes t u)

/-- The outer loop over the output.  Every turn fills at least one byte, so the length of the
    output is fuel enough. -/
def pbkdf2Blocks (password salt : Bytes) (iterations : UInt32) :
    (fuel : Nat) → (blockCounter : UInt32) → (offset : Nat) → EStateM Error Bytes Unit
  | 0, _, _ => pure ()
  | fuel + 1, blockCounter, offset => do
    let out ← get
    if offset < out.length then
      let u ← attempt id (aesCmacPrf128 cmac password (salt ++ toBE 4 blockCounter.toNat))
      let t ← attempt id (prfRounds cmac password (iterations.toNat - 1) u u)
      let len := min (out.length - offset) t.bytes.length
      set (out.take offset ++ t.bytes.take len ++ out.drop (offset + len))
      if blockCounter.toNat + 1 < 2 ^ 32 then
        pbkdf2Blocks password salt iterations fuel (blockCounter + 1) (offset + len)
      else throw (.crypto "PBKDF2 block counter overflow")
    else pure ()

/-- `pbkdf2_aes_cmac_prf_128` on the output that is the state. -/
def pbkdf2AesCmacPrf128 (password salt : Bytes) (iterations : UInt32) :
    EStateM Error Bytes Unit := do
  if iterations = 0 then throw (.crypto "PBKDF2 iteration count must be nonzero")
  else
    let out ← get
    pbkdf2Blocks cmac password salt iterations out.length 1 0

end Pbkdf2

/-! ## §2. The blocks. -/

section Blocks

variable (cmac : (key : FixedBytes 16) → (message : Bytes) → FixedBytes 16)
variable (password salt : Bytes)

/-- AES-CMAC-PRF-128. -/
def prf128 (message : Bytes) : FixedBytes 16 :=
  if h : password.length = 16 then cmac ⟨password, h⟩ message
  else cmac (cmac zeroKey password) message

/-- The chain `U(1), U(2), …` of a block, counted from zero. -/
def pbkdf2U (block : Nat) : Nat → FixedBytes 16
  | 0 => prf128 cmac password (salt ++ toBE 4 block)
  | j + 1 => prf128 cmac password (pbkdf2U block j).bytes

/-- The XOR of the chain's values up to and with number `last`. -/
def pbkdf2T (block : Nat) : (last : Nat) → FixedBytes 16
  | 0 => pbkdf2U cmac password salt block 0
  | last + 1 => xorBytes (pbkdf2T block last) (pbkdf2U cmac password salt block (last + 1))

/-- The blocks of `iterations` values each, from a number on, back to back. -/
def pbkdf2From (iterations : UInt32) (block : Nat) : Stream' UInt8 :=
  backToBack (fun i => (pbkdf2T cmac password salt (block + i) (iterations.toNat - 1)).bytes)
    (by decide) (fun i => (pbkdf2T cmac password salt (block + i) (iterations.toNat - 1)).size)

variable {cmac password salt}

theorem pbkdf2From_eq_append (iterations : UInt32) (block : Nat) :
    pbkdf2From cmac password salt iterations block =
      (pbkdf2T cmac password salt block (iterations.toNat - 1)).bytes ++ₛ
        pbkdf2From cmac password salt iterations (block + 1) := by
  unfold pbkdf2From
  rw [backToBack_eq_append]
  congr 2
  funext i
  rw [Nat.add_right_comm block 1 i]
  rfl

theorem aesCmacPrf128_eq_ok (message : Bytes) :
    aesCmacPrf128 (fun key data => some (cmac key data)) password message =
      .ok (prf128 cmac password message) := by
  unfold aesCmacPrf128 prf128
  split <;> rfl

/-- **The inner loop** goes on with the running XOR. -/
theorem prfRounds_eq_ok (block rounds last : Nat) :
    prfRounds (fun key data => some (cmac key data)) password rounds
        (pbkdf2U cmac password salt block last) (pbkdf2T cmac password salt block last) =
      .ok (pbkdf2T cmac password salt block (last + rounds)) := by
  induction rounds generalizing last with
  | zero => rfl
  | succ rounds ih =>
    rw [prfRounds, aesCmacPrf128_eq_ok]
    show prfRounds _ password rounds (pbkdf2U cmac password salt block (last + 1))
      (pbkdf2T cmac password salt block (last + 1)) = _
    rw [ih (last + 1), Nat.add_right_comm last 1 rounds]
    rfl

/-- What the call leaves in a buffer whose unwritten rest is `rest`, from a block on. -/
def pbkdf2Rest (cmac : (key : FixedBytes 16) → (message : Bytes) → FixedBytes 16)
    (password salt : Bytes) (iterations : UInt32) (block : Nat) (rest : Bytes) : Bytes :=
  (pbkdf2From cmac password salt iterations block).take (min rest.length (16 * (2 ^ 32 - block))) ++
    rest.drop (16 * (2 ^ 32 - block))

/-- One block in front of the rest. -/
theorem pbkdf2Rest_eq_append {iterations : UInt32} {block : Nat} (hblock : block < 2 ^ 32)
    (rest : Bytes) :
    pbkdf2Rest cmac password salt iterations block rest =
      (pbkdf2T cmac password salt block (iterations.toNat - 1)).bytes.take (min rest.length 16) ++
        pbkdf2Rest cmac password salt iterations (block + 1) (rest.drop (min rest.length 16)) := by
  have hsize := (pbkdf2T cmac password salt block (iterations.toNat - 1)).size
  have hleft : 16 * (2 ^ 32 - block) = 16 + 16 * (2 ^ 32 - (block + 1)) := by omega
  rw [pbkdf2Rest, pbkdf2Rest, pbkdf2From_eq_append, hleft]
  generalize 16 * (2 ^ 32 - (block + 1)) = left
  by_cases hlast : rest.length ≤ 16
  · -- the last block is cut
    have hmin : min rest.length (16 + left) = rest.length := by omega
    rw [hmin, Nat.min_eq_left hlast, List.drop_length, List.length_nil, Nat.zero_min,
      Stream'.take_zero, List.drop_nil, Stream'.take_append_of_le_length _ _ _ (by omega),
      List.drop_eq_nil_of_le (by omega)]
    rfl
  · have hmin : min rest.length (16 + left) = 16 + min (rest.length - 16) left := by omega
    have htake := Stream'.append_take (min (rest.length - 16) left)
      (pbkdf2T cmac password salt block (iterations.toNat - 1)).bytes
      (pbkdf2From cmac password salt iterations (block + 1))
    rw [hsize] at htake
    have hwhole : min rest.length 16 = 16 := by omega
    rw [hmin, ← htake, hwhole, List.take_of_length_le (by omega), List.length_drop, List.drop_drop,
      List.append_assoc]

/-- One turn of the outer loop. -/
theorem pbkdf2Blocks_succ {iterations blockCounter : UInt32} (fuel : Nat) (written : Bytes)
    {rest : Bytes} (hrest : rest ≠ []) :
    let front := (pbkdf2T cmac password salt blockCounter.toNat (iterations.toNat - 1)).bytes.take
      (min rest.length 16)
    let out := written ++ front ++ rest.drop (min rest.length 16)
    pbkdf2Blocks (fun key data => some (cmac key data)) password salt iterations (fuel + 1)
        blockCounter written.length (written ++ rest) =
      if blockCounter.toNat + 1 < 2 ^ 32 then
        pbkdf2Blocks (fun key data => some (cmac key data)) password salt iterations fuel
          (blockCounter + 1) (written ++ front).length out
      else .error (.crypto "PBKDF2 block counter overflow") out := by
  have hsize := (pbkdf2T cmac password salt blockCounter.toNat (iterations.toNat - 1)).size
  have hmore : written.length < (written ++ rest).length := by
    rw [List.length_append]
    exact Nat.lt_add_of_pos_right (List.length_pos_iff.mpr hrest)
  have hlen : min ((written ++ rest).length - written.length) 16 = min rest.length 16 := by
    rw [List.length_append, Nat.add_sub_cancel_left]
  have hlength : (written ++ (pbkdf2T cmac password salt blockCounter.toNat
      (iterations.toNat - 1)).bytes.take (min rest.length 16)).length =
        written.length + min rest.length 16 := by
    rw [List.length_append, List.length_take, hsize]
    omega
  dsimp only
  rw [pbkdf2Blocks, get_bind, if_pos hmore, aesCmacPrf128_eq_ok, attempt_ok_bind]
  show (attempt id (prfRounds _ password (iterations.toNat - 1)
    (pbkdf2U cmac password salt blockCounter.toNat 0)
    (pbkdf2T cmac password salt blockCounter.toNat 0)) >>= _) _ = _
  rw [prfRounds_eq_ok, attempt_ok_bind, Nat.zero_add, hsize, hlen, hlength, List.take_left,
    List.drop_length_add_append]
  show (if blockCounter.toNat + 1 < 2 ^ 32 then _ else _ : EStateM Error Bytes Unit) _ = _
  split <;> rfl

theorem pbkdf2Blocks_nil {iterations blockCounter : UInt32} (fuel : Nat) (out : Bytes) :
    pbkdf2Blocks (fun key data => some (cmac key data)) password salt iterations fuel blockCounter
      out.length out = .ok () out := by
  cases fuel with
  | zero => rfl
  | succ fuel =>
    rw [pbkdf2Blocks, get_bind, if_neg (Nat.lt_irrefl _)]
    rfl

/-- **The outer loop**, entered with `written` filled and `rest` to fill. -/
theorem pbkdf2Blocks_eq {iterations blockCounter : UInt32} {fuel : Nat} (written : Bytes)
    {rest : Bytes} (hfuel : rest.length ≤ fuel) :
    let out := written ++ pbkdf2Rest cmac password salt iterations blockCounter.toNat rest
    pbkdf2Blocks (fun key data => some (cmac key data)) password salt iterations fuel blockCounter
        written.length (written ++ rest) =
      if rest.length ≤ 16 * (2 ^ 32 - 1 - blockCounter.toNat) then .ok () out
      else .error (.crypto "PBKDF2 block counter overflow") out := by
  induction fuel generalizing blockCounter written rest with
  | zero =>
    cases List.eq_nil_of_length_eq_zero (Nat.le_zero.mp hfuel)
    simp [pbkdf2Rest, pbkdf2Blocks_nil]
  | succ fuel ih =>
    by_cases hrest : rest = []
    · simp [hrest, pbkdf2Rest, pbkdf2Blocks_nil]
    have hlt := blockCounter.toNat_lt
    have hleft : (rest.drop (min rest.length 16)).length ≤ fuel := by
      rw [List.length_drop]
      have hpos := List.length_pos_iff.mpr hrest
      omega
    dsimp only
    rw [pbkdf2Blocks_succ fuel written hrest, pbkdf2Rest_eq_append hlt, ← List.append_assoc]
    split
    · rename_i hnext
      have hcounter : (blockCounter + 1).toNat = blockCounter.toNat + 1 := by
        rw [UInt32.toNat_add]
        exact Nat.mod_eq_of_lt hnext
      have hfits : (rest.drop (min rest.length 16)).length ≤
            16 * (2 ^ 32 - 1 - (blockCounter.toNat + 1)) ↔
          rest.length ≤ 16 * (2 ^ 32 - 1 - blockCounter.toNat) := by
        rw [List.length_drop]
        omega
      rw [ih _ hleft, hcounter]
      simp only [hfits]
    · -- the counter has its last value
      have hlast : 2 ^ 32 - 1 - blockCounter.toNat = 0 := by omega
      have hnone : 2 ^ 32 - (blockCounter.toNat + 1) = 0 := by omega
      have hmore : ¬ rest.length ≤ 16 * 0 := by
        rw [Nat.mul_zero, Nat.le_zero, List.length_eq_zero_iff]
        exact hrest
      rw [hlast, if_neg hmore, pbkdf2Rest, hnone, Nat.mul_zero, Nat.min_zero, Stream'.take_zero,
        List.drop_zero]
      rfl

/-- The call on a whole output. -/
theorem pbkdf2_eq {iterations : UInt32} (h : iterations ≠ 0) (out : Bytes) :
    let filled := (pbkdf2From cmac password salt iterations 1).take
      (min out.length (16 * (2 ^ 32 - 1))) ++ out.drop (16 * (2 ^ 32 - 1))
    pbkdf2AesCmacPrf128 (fun key data => some (cmac key data)) password salt iterations out =
      if out.length ≤ 16 * (2 ^ 32 - 2) then .ok () filled
      else .error (.crypto "PBKDF2 block counter overflow") filled := by
  unfold pbkdf2AesCmacPrf128
  rw [if_neg h, get_bind]
  exact pbkdf2Blocks_eq [] (Nat.le_refl _)

theorem pbkdf2_eq_ok {iterations : UInt32} (h : iterations ≠ 0) {out : Bytes}
    (hfits : out.length ≤ 16 * (2 ^ 32 - 2)) :
    pbkdf2AesCmacPrf128 (fun key data => some (cmac key data)) password salt iterations out =
      .ok () ((pbkdf2From cmac password salt iterations 1).take out.length) := by
  have hall : out.length ≤ 16 * (2 ^ 32 - 1) := by omega
  rw [pbkdf2_eq h]
  rw [if_pos hfits, Nat.min_eq_left hall, List.drop_eq_nil_of_le hall, List.append_nil]

end Blocks

/-- **PBKDF2.**  With at least one iteration, an output that the block counter can number is filled
    with the front of `T(1), T(2), …`, so a shorter output is a front of a longer one.  On any other
    output the call fails once the counter has its last value. -/
theorem pbkdf2_fills_front (cmac : (key : FixedBytes 16) → (message : Bytes) → FixedBytes 16)
    (password salt : Bytes) (iterations : UInt32) (out : Bytes) :
    let run := pbkdf2AesCmacPrf128 (fun key data => some (cmac key data)) password salt iterations
    let blocks := pbkdf2From cmac password salt iterations 1
    (iterations = 0 →
      run out = .error (.crypto "PBKDF2 iteration count must be nonzero") out) ∧
    (iterations ≠ 0 →
      (out.length ≤ 16 * (2 ^ 32 - 2) → run out = .ok () (blocks.take out.length) ∧
        ∀ shorter : Bytes, shorter.length ≤ out.length →
          ∃ front, run shorter = .ok () front ∧ front <+: blocks.take out.length) ∧
      (16 * (2 ^ 32 - 2) < out.length →
        run out = .error (.crypto "PBKDF2 block counter overflow")
          (blocks.take (min out.length (16 * (2 ^ 32 - 1))) ++ out.drop (16 * (2 ^ 32 - 1))))) := by
  refine ⟨?_, fun hsome => ⟨fun hfits => ⟨pbkdf2_eq_ok hsome hfits, ?_⟩, ?_⟩⟩
  · rintro rfl
    rfl
  · intro shorter hshorter
    refine ⟨_, pbkdf2_eq_ok hsome (Nat.le_trans hshorter hfits), ?_⟩
    exact Stream'.take_prefix_take_left _ _ _ hshorter
  · intro hover
    exact (pbkdf2_eq hsome out).trans (if_neg (Nat.not_le.mpr hover))

/-- An output of the last length that the counter could number is refused. -/
theorem pbkdf2_refuses_last_block : ∃ out bytes : Bytes, out.length = 16 * (2 ^ 32 - 1) ∧
    pbkdf2AesCmacPrf128 (fun _ _ => some zeroKey) [] [] 1 out =
      .error (.crypto "PBKDF2 block counter overflow") bytes := by
  have hlength : (List.replicate (16 * (2 ^ 32 - 1)) (0 : UInt8)).length = 16 * (2 ^ 32 - 1) :=
    List.length_replicate
  have hover : ¬ (List.replicate (16 * (2 ^ 32 - 1)) (0 : UInt8)).length ≤ 16 * (2 ^ 32 - 2) := by
    rw [hlength]
    decide
  exact ⟨_, _, hlength, (@pbkdf2_eq (fun _ _ => zeroKey) [] [] 1 (by decide) _).trans (if_neg hover)⟩

end Meshcop
