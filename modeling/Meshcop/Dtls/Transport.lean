/-
  Meshcop.Dtls.Transport — the datagram transport under the asynchronous drivers
  (`meshcop-dtls/src/driver.rs`).

  A driver future is run against the events it meets at its await points, in order: a
  datagram from some address, its retransmission timer, a failed receive, or the deadline of
  the whole operation.  Nothing is assumed about the events, so an adversary that drops,
  reorders, replays, alters and injects datagrams is one choice of them.  A future that has
  consumed all events is `pending`.

  The retransmission schedule only decides when the timer fires; here it may fire at any
  await point.
-/

import Meshcop.Lib.Computation
import Meshcop.Dtls.Record

namespace Meshcop.Dtls

open Lib

/-- Maximum datagram accepted by the drivers. -/
def MAX_DATAGRAM_SIZE : Nat := 4096

structure SocketAddr where
  ip : Bytes
  port : UInt16
  deriving DecidableEq, Repr

/-- Errors of a driver over a transport whose own errors are `E`. -/
inductive DriverError (E : Type) where
  | protocol (error : Error)
  | transport (error : E)
  | timeout
  deriving Repr

/-- Why a driver future has not returned a value: it failed, or it waits for more events. -/
inductive Halt (E : Type) where
  | failed (error : DriverError E)
  | pending
  deriving Repr

/-- A protocol error ends the future. -/
def Halt.protocol {E : Type} (error : Error) : Halt E := .failed (.protocol error)

/-- What an await point can meet. -/
inductive Input (E : Type) where
  /-- A datagram of the given content arrived at `local` from `remote`. -/
  | datagram (localAddr remote : SocketAddr) (bytes : Bytes)
  /-- The retransmission timer of the last transmitted flight fired. -/
  | expired
  /-- The transport's receive failed. -/
  | failed (error : E)
  /-- The deadline of the whole operation passed. -/
  | deadline
  deriving Repr

variable {E : Type}

/-- The records of a datagram, if it comes from `peer` (when one is set), fits the buffer and
    parses; everything else is discarded. -/
def parsedDatagram (peer : Option SocketAddr) (remote : SocketAddr) (bytes : Bytes) :
    Option (List DtlsRecord) :=
  if peer.any (· ≠ remote) then none
  else if bytes.length > MAX_DATAGRAM_SIZE then none
  else
    match DtlsRecord.parseDatagram bytes with
    | .ok records => some records
    | .error _ => none

theorem parsedDatagram_eq_some {peer : Option SocketAddr} {remote : SocketAddr} {bytes : Bytes}
    {records : List DtlsRecord} (h : parsedDatagram peer remote bytes = some records) :
    DtlsRecord.parseDatagram bytes = .ok records := by
  unfold parsedDatagram at h
  split at h
  · cases h
  split at h
  · cases h
  split at h
  · rename_i found hfound
    cases h
    exact hfound
  · cases h

/-- Sends records as one datagram.  The state lists the datagrams handed to the transport so
    far; `sendFails n` says how the transport answers the `n`-th one. -/
def sendRecords (sendFails : Nat → Option E) (records : List DtlsRecord) :
    EStateM (Halt E) (List Bytes) Unit := do
  let datagram ← attempt Halt.protocol (DtlsRecord.encodeDatagram records)
  let sent ← get
  modify (· ++ [datagram])
  match sendFails sent.length with
  | none => return ()
  | some error => throw (.failed (.transport error))

/-- A send hands over the encoded records, also when the transport then fails; records that do
    not encode are not handed over. -/
theorem sendRecords_spec (sendFails : Nat → Option E) (records : List DtlsRecord)
    (sent : List Bytes) : wp (sendRecords sendFails records)
      (fun _ sent' => ∃ datagram, DtlsRecord.encodeDatagram records = .ok datagram ∧
        sent' = sent ++ [datagram])
      (fun _ sent' => sent' = sent ∨ ∃ datagram,
        DtlsRecord.encodeDatagram records = .ok datagram ∧ sent' = sent ++ [datagram]) sent := by
  unfold sendRecords
  refine wp_attempt_seq (fun datagram hdatagram => ?_) (fun _ _ => Or.inl rfl)
  simp only [wp_bind, wp_get, wp_modify]
  split
  · exact ⟨datagram, hdatagram, rfl⟩
  · exact Or.inr ⟨datagram, hdatagram, rfl⟩

end Meshcop.Dtls
