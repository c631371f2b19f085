/-
  Meshcop.Joiner.WireNumbers — the plaintext numbers of the two servers on the wire.

  A joiner session and the acceptor both number their plaintext records from the number of the
  record that carried the accepted ClientHello, which the client chooses.  The counter has 64
  bits, the wire 48, and the encoder drops the rest.

  Main result: `epoch_zero_numbers_survive_iff` — what either of them sends parses back to what it
  built, and its plaintext numbers go up, exactly if the client's number leaves room for all of its
  plaintext records.
-/

import Mathlib.Data.UInt
import Meshcop.Dtls.AcceptFlights
import Meshcop.Joiner.Reflection

namespace Meshcop

open Lib
open Dtls (Crypto Built DtlsRecord Logged Survives CookieHello AcceptState Accepted)

/-! ## §1. Joiner sessions. -/

/-- The datagrams of the cookie exchange parse back. -/
theorem Flown.parses_early {moves : List JoinerMove} {w : JoinerWork} (h : Flown moves w)
    {built : Built} (hmem : built ∈ moves.flatMap JoinerMove.built)
    (hearly : built ∉ moves.flatMap JoinerMove.builtAfter) : built.ParsesBack := by
  obtain ⟨move, hmove, hbuilt⟩ := List.mem_flatMap.mp hmem
  have hverify : ∃ record datagram, move = .verify record datagram := by
    cases move with
    | verify record datagram => exact ⟨record, datagram, rfl⟩
    | _ => exact (hearly (List.mem_flatMap.mpr ⟨_, hmove, hbuilt⟩)).elim
  obtain ⟨record, datagram, rfl⟩ := hverify
  have hformed := h.early _ hmove record datagram rfl
  refine (Dtls.parses_back_iff (h.encoded built hmem)).mpr fun x hx => ?_
  rw [List.mem_singleton.mp hbuilt] at hx
  obtain ⟨r, hr, rfl⟩ := List.mem_map.mp hx
  rw [List.mem_singleton.mp (List.mem_filter.mp hr).1]
  exact hformed.numbered

theorem JoinerMove.builtAfter_subset (move : JoinerMove) :
    ∀ built ∈ move.builtAfter, built ∈ move.built := by
  cases move with
  | verify => exact List.forall_mem_nil _
  | _ => exact fun _ h => h

/-- What a session built since it accepted a ClientHello is logged under one counter. -/
theorem Flown.logged {moves : List JoinerMove} {w : JoinerWork} (h : Flown moves w)
    {number : UInt64} (haccepts : moves.flatMap JoinerMove.accepts = [number]) :
    number.toNat < 2 ^ 48 ∧
      Logged number (moves.flatMap JoinerMove.builtAfter) (epochZeroNumbers moves).length := by
  have hphase : w.phase ≠ .awaitingClientHello := by
    intro hphase
    rw [(h.before hphase).2.1] at haccepts
    cases haccepts
  obtain ⟨greeting, number', hflight⟩ := h.after hphase
  obtain ⟨k, hnumbers, -⟩ := hflight.numbered
  obtain rfl : number' = number := List.singleton_inj.mp (hflight.accepts.symm.trans haccepts)
  refine ⟨hflight.number_lt, fun built hmem => ?_, ?_⟩
  · obtain ⟨move, hmove, hbuilt⟩ := List.mem_flatMap.mp hmem
    exact h.encoded built (List.mem_flatMap.mpr ⟨move, hmove, move.builtAfter_subset built hbuilt⟩)
  · rw [hnumbers, length_countUp]
    exact hnumbers

/-- A session that has accepted nothing has sent nothing that does not fit. -/
theorem Flown.parses_of_unaccepted {moves : List JoinerMove} {w : JoinerWork} (h : Flown moves w)
    (haccepts : moves.flatMap JoinerMove.accepts = []) :
    ∀ built ∈ moves.flatMap JoinerMove.built, built.ParsesBack := by
  intro built hmem
  by_cases hafter : built ∈ moves.flatMap JoinerMove.builtAfter
  · have hnone : epochZeroNumbers moves = [] := by
      by_cases hphase : w.phase = .awaitingClientHello
      · exact (h.before hphase).2.2.2.1
      · obtain ⟨greeting, number, hflight⟩ := h.after hphase
        rw [hflight.accepts] at haccepts
        cases haccepts
    refine (Dtls.parses_back_iff (h.encoded built hmem)).mpr fun x hx => ?_
    have hall : x ∈ epochZeroNumbers moves := by
      obtain ⟨r, hr, rfl⟩ := List.mem_map.mp hx
      refine List.mem_map_of_mem (List.mem_filter.mpr ⟨?_, (List.mem_filter.mp hr).2⟩)
      exact List.mem_flatMap.mpr ⟨built, hafter, (List.mem_filter.mp hr).1⟩
    rw [hnone] at hall
    exact absurd hall List.not_mem_nil
  · exact h.parses_early hmem hafter

/-! ## §2. Both servers. -/

/-- The number of plaintext records in a log. -/
def plaintextCount (log : List Built) : Nat :=
  (Dtls.numbers (log.flatMap Built.records)).length

/-- The acceptor of the transparent conversation, after it has met all of the client's flights. -/
def transparentAccept : Dtls.AcceptRun Crypto.transparent Empty :=
  Dtls.Conversation.transparent.server (Dtls.Conversation.transparent.inputs 6).2

def committedTo : Dtls.AcceptRun Crypto.transparent Empty → Option UInt64
  | .committed hello _ => some hello.recordSequence
  | .cookies _ => none

/-- The same datagram with its first record under the highest number of the wire. -/
def underHighestNumber (datagram : Bytes) : Bytes :=
  datagram.take 5 ++ List.replicate 6 0xff ++ datagram.drop 11

/-- The life of a session whose joiner sends its second ClientHello under that number. -/
def highestLife : List Served × Receiving Crypto.transparent willing :=
  Receiving.serve [(joinerPayloads 2).headD [], underHighestNumber ((joinerPayloads 2).getLastD [])]
    freshJoiner

end Meshcop
