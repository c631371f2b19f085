/-
  Meshcop.Dtls.AcceptFlights — the plaintext records of the asynchronous server
  (`meshcop-dtls/src/server_driver.rs`).

  Once it has committed to a ClientHello, the server numbers its plaintext records from the number
  of the record that carried it: its flight, every repetition of it, the ChangeCipherSpec before
  its Finished, and the alert that ends a failed handshake all take the next numbers.

  Main results:
    * `awaitCookieHello_sent`  — the cookie exchange sends records that fit the wire;
    * `acceptHello_sent`       — what is sent afterwards is logged under one counter.
-/

import Meshcop.Dtls.Flights
import Meshcop.Dtls.ServerDriver

namespace Meshcop.Dtls

open Lib

variable {C : Crypto} {E : Type}

/-! ## §1. The cookie exchange. -/

/-- Everything sent so far parses back to the records it was built from. -/
def CookiesSent (sent : List Bytes) : Prop :=
  ∃ log : List Built, sent = log.map Built.datagram ∧
    ∀ built ∈ log, built.Encoded ∧ built.ParsesBack

theorem CookiesSent.snoc {sent : List Bytes} (h : CookiesSent sent) {built : Built}
    (hbuilt : built.Encoded ∧ built.ParsesBack) : CookiesSent (sent ++ [built.datagram]) := by
  obtain ⟨log, rfl, hlog⟩ := h
  refine ⟨log ++ [built], by rw [List.map_append]; rfl, fun other hmem => ?_⟩
  rcases List.mem_append.mp hmem with hmem | hmem
  · exact hlog other hmem
  · rw [List.mem_singleton.mp hmem]
    exact hbuilt

theorem sendHelloVerify_sent (sendFails : Nat → Option E) (cookies : DtlsCookieGenerator)
    (message : HandshakeMessage) (hello : ClientHello) {recordSequence : UInt64}
    (hnumber : recordSequence.toNat < 2 ^ 48) :
    Keeps CookiesSent (sendHelloVerify C sendFails cookies message hello recordSequence) := by
  intro sent hsent
  unfold sendHelloVerify
  refine wp_attempt_seq (fun cookie _ => ?_) (fun _ _ => hsent)
  refine wp_attempt_seq (fun payload _ => ?_) (fun _ _ => hsent)
  refine wp_attempt_seq (fun body _ => ?_) (fun _ _ => hsent)
  refine wp_attempt_seq (fun record hrecord => ?_) (fun _ _ => hsent)
  have hparses : ∀ datagram, DtlsRecord.encodeDatagram [record] = .ok datagram →
      (Built.mk [record] datagram).Encoded ∧ (Built.mk [record] datagram).ParsesBack := by
    intro datagram hdatagram
    have hsized : ∀ r ∈ [record], r.Sized :=
      List.forall_mem_singleton.mpr (DtlsRecord.new_sized hrecord)
    have hfits : ∀ r ∈ [record], r.header.sequenceNumber.toNat < 2 ^ 48 := by
      refine List.forall_mem_singleton.mpr ?_
      obtain ⟨-, rfl⟩ := DtlsRecord.new_eq_ok hrecord
      exact hnumber
    exact ⟨⟨hdatagram, hsized, fun r hr _ => hfits r hr⟩,
      DtlsRecord.parseDatagram_encodeDatagram hsized hfits hdatagram⟩
  refine wp_mono (sendRecords_spec sendFails [record] sent) ?_ ?_
  · rintro _ sent' ⟨datagram, hdatagram, rfl⟩
    exact hsent.snoc (hparses datagram hdatagram)
  · rintro _ sent' (rfl | ⟨datagram, hdatagram, rfl⟩)
    · exact hsent
    · exact hsent.snoc (hparses datagram hdatagram)

theorem cookieMessages_sent (sendFails : Nat → Option E) (cookies : DtlsCookieGenerator)
    {recordSequence : UInt64} (hnumber : recordSequence.toNat < 2 ^ 48)
    (messages : List HandshakeMessage) :
    Keeps CookiesSent (cookieMessages C sendFails cookies recordSequence messages) := by
  induction messages with
  | nil => exact keeps_pure _
  | cons message messages ih =>
    unfold cookieMessages
    split
    · exact ih
    split
    · exact ih
    · split
      · exact keeps_pure _
      · exact keeps_bind (sendHelloVerify_sent sendFails cookies message _ hnumber) fun _ => ih

/-- The accepted ClientHello came in a record that was read from the wire. -/
theorem cookieRecords_sent (sendFails : Nat → Option E) (cookies : DtlsCookieGenerator)
    {records : List DtlsRecord} (hformed : ∀ r ∈ records, r.WellFormed) (sent : List Bytes)
    (hsent : CookiesSent sent) : wp (cookieRecords C sendFails cookies records)
      (fun accepted sent' => CookiesSent sent' ∧
        ∀ message number, accepted = some (message, number) → number.toNat < 2 ^ 48)
      (fun _ sent' => CookiesSent sent') sent := by
  induction records generalizing sent with
  | nil => exact ⟨hsent, fun _ _ h => by cases h⟩
  | cons record records ih =>
    have hnumber := (hformed record List.mem_cons_self).numbered
    have hrest : ∀ r ∈ records, r.WellFormed := fun r hr => hformed r (List.mem_cons_of_mem _ hr)
    unfold cookieRecords
    split
    · exact ih hrest sent hsent
    split
    · exact ih hrest sent hsent
    rename_i messages _
    refine wp_seq (cookieMessages_sent sendFails cookies hnumber messages sent hsent) ?_
    intro accepted sent' hsent'
    cases accepted with
    | none => exact ih hrest sent' hsent'
    | some message =>
      refine ⟨hsent', fun message' number heq => ?_⟩
      cases heq
      exact hnumber

/-- **The cookie exchange** sends records that fit the wire, and commits to a record number that
    does. -/
theorem awaitCookieHello_sent (sendFails : Nat → Option E) (cookies : DtlsCookieGenerator)
    (inputs : List (Input E)) (sent : List Bytes) (hsent : CookiesSent sent) :
    wp (awaitCookieHello C sendFails cookies inputs)
      (fun result sent' => CookiesSent sent' ∧ result.1.recordSequence.toNat < 2 ^ 48)
      (fun _ sent' => CookiesSent sent') sent := by
  induction inputs generalizing sent with
  | nil => exact hsent
  | cons input inputs ih =>
    cases input with
    | expired => exact ih sent hsent
    | failed error => exact hsent
    | deadline => exact hsent
    | datagram localAddr remote bytes =>
      unfold awaitCookieHello
      split
      · exact ih sent hsent
      rename_i records hparsed
      have hformed := (DtlsRecord.parseDatagram_eq_ok_iff.mp
        (parsedDatagram_eq_some hparsed)).forall_mem
        (P := DtlsRecord.WellFormed) fun _ _ hwritten => hwritten.1
      refine wp_seq (cookieRecords_sent sendFails cookies hformed sent hsent) ?_
      rintro accepted sent' ⟨hsent', hnumber⟩
      match accepted with
      | none => exact ih sent' hsent'
      | some (message, number) => exact ⟨hsent', hnumber message number rfl⟩

/-! ## §2. The handshake. -/

/-- The server stopped somewhere. -/
def Halted (early : List Bytes) (number : UInt64) (server : AcceptState C) : Prop :=
  ∃ log k, SentLog early number log k server.sent

/-- The server goes on: its counter stands behind what was sent, and its flight is plaintext. -/
structure Ready (early : List Bytes) (number : UInt64) (server : AcceptState C) : Prop where
  log : ∃ log k, SentLog early number log k server.sent ∧
    server.nextEpochZeroRecord = number + UInt64.ofNat k
  epoch : ∀ r ∈ server.serverFlight, r.header.epoch = 0
  sized : ∀ r ∈ server.serverFlight, r.Sized

section Server

variable {early : List Bytes} {number : UInt64}

theorem Ready.halted {server : AcceptState C} (h : Ready early number server) :
    Halted early number server := by
  obtain ⟨log, k, hlog, -⟩ := h.log
  exact ⟨log, k, hlog⟩

/-- A send adds one datagram to the log. -/
theorem sendServer_sent (sendFails : Nat → Option E) {records : List DtlsRecord}
    {server : AcceptState C} {log : List Built} {k j : Nat}
    (h : SentLog early number log k server.sent) (hsized : ∀ r ∈ records, r.Sized)
    (hprotected : ∀ r ∈ records, r.header.epoch ≠ 0 → r.header.sequenceNumber.toNat < 2 ^ 48)
    (hnumbers : numbers records = countUp (number + UInt64.ofNat k) j) :
    wp (sendServer sendFails records)
      (fun _ server' => ∃ built, SentLog early number (log ++ [built]) (k + j) server'.sent ∧
        server' = { server with sent := server'.sent })
      (fun _ server' => Halted early number server') server := by
  have hmore : ∀ datagram, DtlsRecord.encodeDatagram records = .ok datagram →
      SentLog early number (log ++ [⟨records, datagram⟩]) (k + j) (server.sent ++ [datagram]) :=
    fun datagram hdatagram => h.snoc ⟨hdatagram, hsized, hprotected⟩ hnumbers
  unfold sendServer
  rw [wp_zoom]
  refine wp_mono (sendRecords_spec sendFails records server.sent) ?_ ?_
  · rintro _ sent' ⟨datagram, hdatagram, rfl⟩
    exact ⟨_, hmore datagram hdatagram, rfl⟩
  · rintro _ sent' (rfl | ⟨datagram, hdatagram, rfl⟩)
    · exact ⟨log, k, h⟩
    · exact ⟨_, _, hmore datagram hdatagram⟩

/-- A repeated flight goes out under fresh numbers. -/
theorem resendServerFlight_sent (sendFails : Nat → Option E) (server : AcceptState C)
    (h : Ready early number server) :
    wp (resendServerFlight sendFails) (fun _ server' => Ready early number server')
      (fun _ server' => Halted early number server') server := by
  obtain ⟨log, k, hlog, hnext⟩ := h.log
  unfold resendServerFlight
  rw [wp_bind]
  refine wp_modify_intro fun renumbered hrenumbered => ?_
  rw [wp_bind, wp_get]
  have hflight : renumbered.serverFlight
      = (renumberEpochZeroFlight server.serverFlight server.nextEpochZeroRecord).1 := by
    rw [hrenumbered]
  obtain ⟨hnumbers, hcounter⟩ := numbers_renumber server.serverFlight server.nextEpochZeroRecord
  have hepoch : ∀ r ∈ renumbered.serverFlight, r.header.epoch = 0 := by
    rw [hflight]
    exact forall_mem_renumber (P := fun r => r.header.epoch = 0)
      (fun _ _ hsame h => hsame.epoch.trans h) h.epoch
  have hsized : ∀ r ∈ renumbered.serverFlight, r.Sized := by
    rw [hflight]
    exact forall_mem_renumber (fun _ _ hsame => hsame.sized) h.sized
  have hlog' : SentLog early number log k renumbered.sent := by
    rw [hrenumbered]
    exact hlog
  rw [← hflight, hnext] at hnumbers
  refine wp_imp (sendServer_sent sendFails hlog' hsized
    (fun r hr hne => absurd (hepoch r hr) hne) hnumbers) ?_
  rintro _ server' ⟨built, hsent, heq⟩
  refine ⟨⟨_, _, hsent, ?_⟩, ?_, ?_⟩
  · rw [heq, hrenumbered]
    show (renumberEpochZeroFlight server.serverFlight server.nextEpochZeroRecord).2 = _
    rw [hcounter, hnext, UInt64.ofNat_add, UInt64.add_assoc]
  · rw [heq]
    exact hepoch
  · rw [heq]
    exact hsized

theorem onServerHandshake_ready {α : Type} (m : ThreadDtlsServerHandshake.Method C α) :
    Keeps (Ready early number) (onServerHandshake (E := E) m) :=
  keeps_zoom fun _ _ h => ⟨h.log, h.epoch, h.sized⟩

/-- The alert takes the next number. -/
theorem sendFatalHandshakeAlert_sent (sendFails : Nat → Option E) (server : AcceptState C)
    (h : Ready early number server) :
    wp (sendFatalHandshakeAlert sendFails) (fun _ server' => Halted early number server')
      (fun _ server' => Halted early number server') server := by
  obtain ⟨log, k, hlog, hnext⟩ := h.log
  unfold sendFatalHandshakeAlert
  simp only [wp_bind, wp_get]
  refine wp_attempt.mpr ⟨fun alert halert => ?_, fun _ _ => h.halted⟩
  have hsized := DtlsRecord.new_sized halert
  obtain ⟨-, rfl⟩ := DtlsRecord.new_eq_ok halert
  refine wp_mono (sendServer_sent sendFails hlog (j := 1) ?_ ?_ ?_) ?_ (fun _ _ h => h)
  · intro r hr
    rw [List.mem_singleton.mp hr]
    exact hsized
  · intro r hr hne
    rw [List.mem_singleton.mp hr] at hne
    exact absurd rfl hne
  · rw [← hnext]
    rfl
  · rintro _ server' ⟨built, hsent, -⟩
    exact ⟨_, _, hsent⟩

/-- The Finished flight: a ChangeCipherSpec under the next number and a sealed record. -/
theorem buildServerFinishedFlight_records (body : Bytes) (s : SessionState × UInt64) :
    wp (buildServerFinishedFlight C body) (fun flight s' => (∀ r ∈ flight, r.Sized) ∧
        (∀ r ∈ flight, r.header.epoch ≠ 0 → r.header.sequenceNumber.toNat < 2 ^ 48) ∧
        numbers flight = countUp s.2 1 ∧ s'.2 = s.2 + 1)
      (fun _ _ => True) s := by
  simp only [buildServerFinishedFlight, SessionState.protectRecord, takeRecordSequence, wp_bind,
    wp_get, wp_modify, wp_zoom, wp_pure]
  refine wp_attempt_ok fun change hchange => ?_
  refine wp_attempt_ok fun record hrecord => ?_
  have hsized := DtlsRecord.new_sized hchange
  obtain ⟨-, rfl⟩ := DtlsRecord.new_eq_ok hchange
  obtain ⟨hlt, -, hepoch, hsequence, hsized'⟩ := protect_eq_ok hrecord
  refine ⟨?_, ?_, ?_, rfl⟩
  · intro r hr
    rcases List.mem_cons.mp hr with rfl | hr
    · exact hsized
    · rw [List.mem_singleton.mp hr]
      exact hsized'
  · intro r hr hne
    rcases List.mem_cons.mp hr with rfl | hr
    · exact absurd rfl hne
    · rw [List.mem_singleton.mp hr, hsequence]
      exact hlt
  · simp [numbers, epochZero, hepoch, countUp]

theorem finishAccept_sent (sendFails : Nat → Option E) (hello : CookieHello)
    (record : DtlsRecord) (keys : ThreadDtlsKeyMaterial) (server : AcceptState C)
    (h : Ready early number server) : wp (finishAccept sendFails hello record keys)
      (fun _ server' => Halted early number server') (fun _ server' => Halted early number server')
      server := by
  unfold finishAccept
  split
  · exact wp_seq (sendFatalHandshakeAlert_sent sendFails server h) (fun _ _ h => h)
  refine wp_attempt_seq (fun plainRecord _ => ?_) (fun _ _ => h.halted)
  refine wp_attempt_seq (fun finished _ => ?_) (fun _ _ => h.halted)
  refine wp_seq_mono (keeps_caught (onServerHandshake_ready _) server h)
    (fun verified server h => ?_) (fun _ _ h => h.halted)
  split
  · exact wp_seq (sendFatalHandshakeAlert_sent sendFails server h) (fun _ _ h => h)
  refine wp_bind_of_keeps h (onServerHandshake_ready _) (fun _ _ h => h.halted)
    fun serverFinished server h => ?_
  refine wp_attempt_seq (fun body _ => ?_) (fun _ _ => h.halted)
  obtain ⟨log, k, hlog, hnext⟩ := h.log
  simp only [withServerSession, wp_bind, wp_zoom, wp_get]
  refine wp_mono (buildServerFinishedFlight_records body _) ?_ ?_
  · rintro flight ⟨session, next⟩ ⟨hsized, hprotected, hnumbers, -⟩
    have hnumbers' : numbers flight = countUp server.nextEpochZeroRecord 1 := hnumbers
    rw [hnext] at hnumbers'
    obtain ⟨withSession, hwith⟩ : ∃ withSession : AcceptState C, withSession =
      { server with session := some session, nextEpochZeroRecord := next } := ⟨_, rfl⟩
    have hlog' : SentLog early number log k withSession.sent := by
      rw [hwith]
      exact hlog
    rw [← hwith]
    refine wp_imp (sendServer_sent sendFails hlog' hsized hprotected hnumbers') ?_
    rintro _ server' ⟨built, hsent, -⟩
    split
    · exact ⟨_, _, hsent⟩
    · exact ⟨_, _, hsent⟩
  · intro _ s _
    exact ⟨log, k, hlog⟩

/-- The wait for the client's flight: whatever goes out takes the numbers that come next. -/
theorem sent_awaitRule (sendFails : Nat → Option E) (hello : CookieHello) :
    AwaitRule (C := C) sendFails hello (Ready early number) (Halted early number)
      (fun _ server' => Halted early number server') where
  fails _ h := h.halted
  changes _ h := ⟨h.log, h.epoch, h.sized⟩
  remembers _ _ _ h := ⟨h.log, h.epoch, h.sized⟩
  resends server h := resendServerFlight_sent sendFails server h
  exchanges _ server h := wp_mono (onServerHandshake_ready _ server h) (fun _ _ h => h)
    (fun _ _ h => h.halted)
  finishes record keys server h := finishAccept_sent sendFails hello record keys server h

/-- The flight as it is built first: nothing is sent yet. -/
structure Building (early : List Bytes) (number : UInt64) (server : AcceptState C) : Prop where
  sent : server.sent = early
  numbers : numbers server.serverFlight = countUp number server.serverFlight.length
  next : server.nextEpochZeroRecord = number + UInt64.ofNat server.serverFlight.length
  epoch : ∀ r ∈ server.serverFlight, r.header.epoch = 0
  sized : ∀ r ∈ server.serverFlight, r.Sized

theorem Building.halted {server : AcceptState C} (h : Building early number server) :
    Halted early number server :=
  ⟨[], 0, by rw [h.sent]; exact (List.append_nil _).symm, .nil number⟩

theorem onServerHandshake_building {α : Type} (m : ThreadDtlsServerHandshake.Method C α) :
    Keeps (Building early number) (onServerHandshake (E := E) m) :=
  keeps_zoom fun _ _ h => ⟨h.sent, h.numbers, h.next, h.epoch, h.sized⟩

theorem serverFlightOf_building (messages : List HandshakeMessage) :
    Keeps (Building early number) (serverFlightOf (C := C) (E := E) messages) := by
  induction messages with
  | nil => exact keeps_pure _
  | cons message messages ih =>
    intro server h
    unfold serverFlightOf
    refine wp_attempt_seq (fun body _ => ?_) (fun _ _ => h)
    simp only [wp_bind, wp_get]
    refine wp_attempt.mpr ⟨fun record hrecord => ?_, fun _ _ => h⟩
    have hsized := DtlsRecord.new_sized hrecord
    obtain ⟨-, rfl⟩ := DtlsRecord.new_eq_ok hrecord
    refine wp_modify_intro fun server' hserver' => ih server' ?_
    rw [hserver']
    refine ⟨h.sent, ?_, ?_, ?_, ?_⟩
    · rw [numbers_append, h.numbers, List.length_append, countUp_add, h.next]
      rfl
    · show server.nextEpochZeroRecord + 1 = _
      rw [h.next, List.length_append, UInt64.ofNat_add, UInt64.add_assoc]
      rfl
    · intro r hr
      rcases List.mem_append.mp hr with hr | hr
      · exact h.epoch r hr
      · rw [List.mem_singleton.mp hr]
    · intro r hr
      rcases List.mem_append.mp hr with hr | hr
      · exact h.sized r hr
      · rw [List.mem_singleton.mp hr]
        exact hsized

/-- **The handshake** is logged under one counter, however it ends. -/
theorem acceptHello_sent (sendFails : Nat → Option E) (hello : CookieHello)
    (inputs : List (Input E)) (server : AcceptState C) (h : Building early number server) :
    wp (acceptHello sendFails hello inputs) (fun _ server' => Halted early number server')
      (fun _ server' => Halted early number server') server := by
  have hout : ∀ (_ : Halt E) (server' : AcceptState C), Building early number server' →
      Halted early number server' := fun _ _ h => h.halted
  unfold acceptHello
  refine wp_bind_of_keeps h (onServerHandshake_building _) hout fun _ server h => ?_
  refine wp_bind_of_keeps h (onServerHandshake_building _) hout fun serverHello server h => ?_
  refine wp_bind_of_keeps h
    (keeps_zoom fun _ _ h => ⟨h.sent, h.numbers, h.next, h.epoch, h.sized⟩) hout
    fun keyExchange server h => ?_
  refine wp_bind_of_keeps h (onServerHandshake_building _) hout fun helloDone server h => ?_
  refine wp_bind_of_keeps h (serverFlightOf_building _) hout fun _ server h => ?_
  simp only [wp_bind, wp_get]
  have hlog : SentLog early number [] 0 server.sent :=
    ⟨by rw [h.sent]; exact (List.append_nil _).symm, .nil number⟩
  have hnumbers : numbers server.serverFlight
      = countUp (number + UInt64.ofNat 0) server.serverFlight.length := by
    show _ = countUp (number + 0) _
    rw [UInt64.add_zero]
    exact h.numbers
  refine wp_imp (sendServer_sent sendFails hlog h.sized
    (fun r hr hne => absurd (h.epoch r hr) hne) hnumbers) ?_
  rintro _ server' ⟨built, hsent, heq⟩
  refine (sent_awaitRule sendFails hello).awaitClientFlight inputs _ server' ⟨⟨_, _, hsent, ?_⟩, ?_, ?_⟩
  · rw [heq, Nat.zero_add]
    exact h.next
  · rw [heq]
    exact h.epoch
  · rw [heq]
    exact h.sized

/-- **The acceptor.**  What it sent before it committed parses back; what it sent afterwards is
    logged under the number of the record with the accepted ClientHello. -/
theorem acceptInner_sent {sendFails : Nat → Option E} {pskc : Bytes} {rng : C.Rng}
    {inputs : List (Input E)} {hello : CookieHello}
    {result : EStateM.Result (Halt E) (AcceptState C) Accepted}
    (h : acceptInner sendFails pskc rng inputs = .committed hello result) :
    ∃ cookies log k, (∀ built ∈ cookies, built.Encoded ∧ built.ParsesBack) ∧
      Logged hello.recordSequence log k ∧ hello.recordSequence.toNat < 2 ^ 48 ∧
      (stateOf result).sent = (cookies ++ log).map Built.datagram := by
  unfold acceptInner at h
  dsimp only at h
  split at h
  · cases h
  rename_i rest sent hcookies
  cases h
  obtain ⟨⟨cookies, rfl, hparses⟩, hnumber⟩ := of_wp_ok
    (awaitCookieHello_sent sendFails _ inputs [] ⟨[], rfl, List.forall_mem_nil _⟩) hcookies
  have hstart : Building (cookies.map Built.datagram) hello.recordSequence
      (AcceptState.start pskc (DtlsCookieGenerator.new C rng).2 hello
        (cookies.map Built.datagram)) :=
    ⟨rfl, rfl, (UInt64.add_zero _).symm, List.forall_mem_nil _, List.forall_mem_nil _⟩
  obtain ⟨log, k, hlog⟩ := stateOf_of_wp (acceptHello_sent sendFails hello rest _ hstart)
  refine ⟨cookies, log, k, hparses, hlog.logged, hnumber, ?_⟩
  rw [hlog.sent, List.map_append]

end Server

end Meshcop.Dtls
