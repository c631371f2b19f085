/-
  Meshcop.Dtls.ClientFlights — what the asynchronous client sends
  (`meshcop-dtls/src/{client_driver,hello,flight}.rs`).

  Three waits share one counter for plaintext records and repeat their flight when the timer fires
  or when a datagram asks for it.  A run is described by the log of its transmissions: in which wait
  each was made, what triggered it, the handshake messages it carries before protection, and the
  records it was built from.

  Main results:
    * `Faithful.snoc`             — one more transmission;
    * `waitForHelloVerify_log`, `waitForServerFlight_log`, `waitForServerFinished_log` — the waits;
    * `client_flights_faithful`   — every run of `connectInner` has a faithful log.
-/

import Mathlib.Data.List.Chain
import Meshcop.Dtls.Conversation
import Meshcop.Dtls.Flights

namespace Meshcop.Dtls

open Lib

variable {C : Crypto} {E : Type}

/-! ## §1. Transmissions. -/

/-- The waits of a connection attempt. -/
inductive Wait where
  | helloVerify
  | serverFlight
  | serverFinished
  deriving DecidableEq, Repr

/-- The order of the waits. -/
def Wait.rank : Wait → Nat
  | .helloVerify => 0
  | .serverFlight => 1
  | .serverFinished => 2

/-- One flight handed to the transport. -/
structure Transmission (E : Type) where
  wait : Wait
  /-- The event of the wait that triggered it; none for the flight sent before the wait. -/
  trigger : Option (Input E)
  /-- Its handshake messages, before protection. -/
  messages : List HandshakeMessage
  built : Built

/-- The transmission was triggered by a received datagram. -/
def Transmission.onDatagram (t : Transmission E) : Bool :=
  match t.trigger with
  | some (.datagram _ _ _) => true
  | _ => false

/-- The record carries the ClientHello. -/
structure HelloRecord (hello : HandshakeMessage) (record : DtlsRecord) : Prop where
  type : hello.messageType = .clientHello
  contentType : record.header.contentType = .handshake
  epoch : record.header.epoch = 0
  sized : record.Sized
  payload : hello.encode = .ok record.payload

/-- The records carry the ClientKeyExchange, a ChangeCipherSpec and the sealed Finished. -/
structure FinishedRecords (C : Crypto) (keyExchange finished : HandshakeMessage)
    (first change last : DtlsRecord) : Prop where
  keyExchangeType : keyExchange.messageType = .clientKeyExchange
  finishedType : finished.messageType = .finished
  epoch : first.header.epoch = 0 ∧ change.header.epoch = 0 ∧ last.header.epoch = 1
  contentTypes : first.header.contentType = .handshake ∧
    change.header.contentType = .changeCipherSpec ∧ last.header.contentType = .handshake
  keyExchange : keyExchange.encode = .ok first.payload
  change : change.payload = [1]
  finished : ∃ body key fixedIv sequence, finished.encode = .ok body ∧
    protectAes128Ccm8Record C .handshake 1 sequence key fixedIv body = .ok last

/-- The records of a transmission carry its messages. -/
inductive Transmission.Carries (C : Crypto) (t : Transmission E) : Prop where
  | hello {hello : HandshakeMessage} {record : DtlsRecord} : t.wait ≠ .serverFinished →
      t.messages = [hello] → t.built.records = [record] → HelloRecord hello record →
      Carries C t
  | finished {keyExchange finished : HandshakeMessage} {first change last : DtlsRecord} :
      t.wait = .serverFinished → t.messages = [keyExchange, finished] →
      t.built.records = [first, change, last] →
      FinishedRecords C keyExchange finished first change last → Carries C t

/-- A record of the datagram is a HelloVerifyRequest that answers the ClientHello. -/
structure AnswersHello (hello : HandshakeMessage) (bytes cookie : Bytes) : Prop where
  answer : ∃ records record verify request, DtlsRecord.parseDatagram bytes = .ok records ∧
    record ∈ records ∧ parseUnfragmentedHandshakeRecord record .helloVerifyRequest = .ok verify ∧
    verify.messageSeq = hello.messageSeq ∧ HelloVerifyRequest.decode verify.payload = .ok request ∧
    request.cookie = cookie

/-- The ClientHello carries the cookie. -/
def CarriesCookie (hello : HandshakeMessage) (cookie : Bytes) : Prop :=
  ∃ body : ClientHello, body.cookie = cookie ∧ body.encode = .ok hello.payload

/-- What may follow a transmission. -/
inductive Follows (a b : Transmission E) : Prop where
  /-- The same flight again. -/
  | again : b.wait = a.wait → b.messages = a.messages → b.trigger.isSome = true → Follows a b
  /-- The ClientHello after the cookie exchange. -/
  | second {hello next : HandshakeMessage} : a.wait = .helloVerify → b.wait = .serverFlight →
      b.trigger = none → a.messages = [hello] → b.messages = [next] →
      next.messageSeq.toNat = hello.messageSeq.toNat + 1 → Follows a b
  /-- A new ClientHello, because a HelloVerifyRequest that answers the last one replaced the
      cookie. -/
  | renewed {hello next : HandshakeMessage} {localAddr remote : SocketAddr}
      {bytes cookie : Bytes} : a.wait = .serverFlight → b.wait = .serverFlight →
      b.trigger = some (.datagram localAddr remote bytes) → AnswersHello hello bytes cookie →
      a.messages = [hello] → b.messages = [next] → CarriesCookie next cookie →
      next.messageSeq.toNat = hello.messageSeq.toNat + 1 → Follows a b
  /-- The last flight. -/
  | last {hello keyExchange finished : HandshakeMessage} : a.wait = .serverFlight →
      b.wait = .serverFinished → b.trigger = none → a.messages = [hello] →
      b.messages = [keyExchange, finished] →
      keyExchange.messageSeq.toNat = hello.messageSeq.toNat + 1 →
      finished.messageSeq.toNat = keyExchange.messageSeq.toNat + 1 → Follows a b

/-- How many transmissions of a wait were triggered by datagrams. -/
def datagramCount (wait : Wait) (log : List (Transmission E)) : Nat :=
  log.countP fun t => t.wait = wait && t.onDatagram

/-- The log of a run over `inputs`: every transmission carries its messages, the first is the
    first ClientHello, each follows the one before, they are triggered by different events in
    order, by timers and datagrams only, and in each wait by at most four datagrams. -/
structure Faithful (C : Crypto) (inputs : List (Input E)) (log : List (Transmission E)) :
    Prop where
  carries : ∀ t ∈ log, t.Carries C
  first : ∀ t ∈ log.head?, t.wait = .helloVerify ∧ t.trigger = none ∧
    ∃ hello, t.messages = [hello] ∧ hello.messageSeq = 0
  chain : log.IsChain Follows
  triggers : (log.filterMap Transmission.trigger).Sublist inputs
  kinds : ∀ t ∈ log, t.trigger = none ∨ t.trigger = some .expired ∨ t.onDatagram = true
  budget : ∀ wait, datagramCount wait log ≤ 4

theorem Faithful.nil : Faithful (E := E) C [] [] where
  carries _ h := absurd h List.not_mem_nil
  first _ h := absurd h (Option.not_mem_none _)
  chain := .nil
  triggers := .slnil
  kinds _ h := absurd h List.not_mem_nil
  budget _ := Nat.zero_le _

variable {inputs : List (Input E)} {log : List (Transmission E)}

/-- More events change nothing. -/
theorem Faithful.mono (h : Faithful C inputs log) (more : List (Input E)) :
    Faithful C (inputs ++ more) log :=
  { h with triggers := h.triggers.trans (List.sublist_append_left inputs more) }

theorem datagramCount_snoc (wait : Wait) (log : List (Transmission E)) (t : Transmission E) :
    datagramCount wait (log ++ [t]) = datagramCount wait log +
      if t.wait = wait ∧ t.onDatagram = true then 1 else 0 := by
  unfold datagramCount
  rw [List.countP_append, List.countP_singleton]
  simp only [Bool.and_eq_true, decide_eq_true_eq]

variable {t : Transmission E}

/-- **One more transmission**, on an event behind those of the log or on none. -/
theorem Faithful.snoc (h : Faithful C inputs log) (hcarries : t.Carries C)
    (hfirst : log = [] → t.wait = .helloVerify ∧ t.trigger = none ∧
      ∃ hello, t.messages = [hello] ∧ hello.messageSeq = 0)
    (hfollows : ∀ last ∈ log.getLast?, Follows last t)
    (hkind : t.trigger = none ∨ t.trigger = some .expired ∨ t.onDatagram = true)
    (hroom : t.onDatagram = true → datagramCount t.wait log < 4) :
    Faithful C (inputs ++ t.trigger.toList) (log ++ [t]) := by
  refine ⟨?_, ?_, ?_, ?_, ?_, ?_⟩
  · intro other hmem
    rcases List.mem_append.mp hmem with hmem | hmem
    · exact h.carries other hmem
    · rw [List.mem_singleton.mp hmem]
      exact hcarries
  · cases log with
    | nil =>
      intro other hmem
      obtain rfl : t = other := Option.some.inj hmem
      exact hfirst rfl
    | cons head rest => exact h.first
  · refine List.isChain_append.mpr ⟨h.chain, List.isChain_singleton _, ?_⟩
    intro last hlast other hother
    obtain rfl : t = other := Option.some.inj hother
    exact hfollows last hlast
  · rw [List.filterMap_append]
    refine h.triggers.append ?_
    cases htrigger : t.trigger with
    | none => rw [List.filterMap_cons_none htrigger]; exact .slnil
    | some input =>
      rw [List.filterMap_cons_some htrigger]
      exact List.Sublist.refl _
  · intro other hmem
    rcases List.mem_append.mp hmem with hmem | hmem
    · exact h.kinds other hmem
    · rw [List.mem_singleton.mp hmem]
      exact hkind
  · intro wait
    rw [datagramCount_snoc]
    have hbudget := h.budget wait
    split
    · rename_i hcounted
      have hless := hroom hcounted.2
      rw [hcounted.1] at hless
      omega
    · exact hbudget

/-! ## §2. Where a log stands. -/

/-- The log has reached the wait while `rest` of the events are to come, and the messages are those
    of its last transmission. -/
structure InWait (C : Crypto) (events rest : List (Input E)) (wait : Wait)
    (messages : List HandshakeMessage) (log : List (Transmission E)) : Prop where
  past : ∃ past, events = past ++ rest ∧ Faithful C past log
  last : ∃ t, log.getLast? = some t ∧ t.wait = wait ∧ t.messages = messages
  ahead : ∀ later, wait.rank < later.rank → datagramCount later log = 0

variable {events rest : List (Input E)} {wait : Wait} {messages : List HandshakeMessage}
  {input : Input E}

theorem InWait.faithful (h : InWait C events rest wait messages log) : Faithful C events log := by
  obtain ⟨past, rfl, hfaithful⟩ := h.past
  exact hfaithful.mono rest

/-- An event that triggers nothing. -/
theorem InWait.skip (h : InWait C events (input :: rest) wait messages log) :
    InWait C events rest wait messages log := by
  obtain ⟨past, rfl, hfaithful⟩ := h.past
  exact { h with past := ⟨past ++ [input], List.append_cons .., hfaithful.mono [input]⟩ }

variable {hello : HandshakeMessage}

/-- The first ClientHello. -/
theorem InWait.first (hcarries : t.Carries C) (hwait : t.wait = .helloVerify)
    (htrigger : t.trigger = none) (hmessages : t.messages = [hello]) (hseq : hello.messageSeq = 0) :
    InWait C events events .helloVerify [hello] [t] := by
  have hquiet : t.onDatagram = false := by
    unfold Transmission.onDatagram
    rw [htrigger]
  have hfaithful := Faithful.nil.snoc (C := C) hcarries
    (fun _ => ⟨hwait, htrigger, hello, hmessages, hseq⟩)
    (fun _ h => absurd h (Option.not_mem_none _)) (Or.inl htrigger)
    (fun h => absurd h (by rw [hquiet]; exact Bool.false_ne_true))
  rw [htrigger] at hfaithful
  refine ⟨⟨[], rfl, hfaithful⟩, ⟨t, rfl, hwait, hmessages⟩, fun later _ => ?_⟩
  show datagramCount later ([] ++ [t]) = 0
  rw [datagramCount_snoc, hquiet, if_neg (fun h => Bool.false_ne_true h.2)]
  rfl

/-- One more transmission, in the same wait or a later one. -/
theorem InWait.snoc {left : List (Input E)} (h : InWait C events left wait messages log)
    (hleft : left = t.trigger.toList ++ rest) (hcarries : t.Carries C)
    (hfollows : ∀ last : Transmission E, last.wait = wait → last.messages = messages →
      Follows last t) (hrank : wait.rank ≤ t.wait.rank)
    (hkind : t.trigger = none ∨ t.trigger = some .expired ∨ t.onDatagram = true)
    (hroom : t.onDatagram = true → datagramCount t.wait log < 4) :
    InWait C events rest t.wait t.messages (log ++ [t]) := by
  obtain ⟨last, hlast, hwait, hmessages⟩ := h.last
  obtain ⟨past, rfl, hfaithful⟩ := h.past
  refine ⟨⟨past ++ t.trigger.toList, by rw [hleft, List.append_assoc],
    hfaithful.snoc hcarries ?_ ?_ hkind hroom⟩, ⟨t, List.getLast?_concat .., rfl, rfl⟩, ?_⟩
  · intro hnil
    rw [hnil] at hlast
    cases hlast
  · intro other hother
    obtain rfl : last = other := Option.some.inj (hlast.symm.trans hother)
    exact hfollows last hwait hmessages
  · intro later hlater
    rw [datagramCount_snoc, h.ahead later (by omega), if_neg]
    rintro ⟨heq, -⟩
    rw [heq] at hlater
    omega

/-- What may make the client repeat its flight: the timer, or a datagram while the wait has sent
    fewer than four times on datagrams. -/
inductive Repeats (wait : Wait) (log : List (Transmission E)) : Input E → Prop where
  | expired : Repeats wait log .expired
  | datagram (localAddr remote : SocketAddr) (bytes : Bytes) :
      datagramCount wait log < 4 → Repeats wait log (.datagram localAddr remote bytes)

/-- The same messages again. -/
theorem InWait.repeated {built : Built} (h : InWait C events (input :: rest) wait messages log)
    (hinput : Repeats wait log input)
    (hcarries : Transmission.Carries C ⟨wait, some input, messages, built⟩) :
    InWait C events rest wait messages (log ++ [⟨wait, some input, messages, built⟩]) := by
  refine h.snoc rfl hcarries ?_ le_rfl ?_ ?_
  · intro last hwait hmessages
    exact .again hwait.symm hmessages.symm rfl
  · cases hinput with
    | expired => exact Or.inr (Or.inl rfl)
    | datagram localAddr remote bytes _ => exact Or.inr (Or.inr rfl)
  · intro hdatagram
    cases hinput with
    | expired => cases hdatagram
    | datagram localAddr remote bytes hroom => exact hroom

/-! ## §3. The client between its steps. -/

/-- What was sent has a log that is faithful to the events. -/
def Accounted (inputs : List (Input E)) (client : ClientState C) : Prop :=
  ∃ log k, SentLog [] 0 (log.map Transmission.built) k client.sent ∧ Faithful C inputs log

variable {client : ClientState C}

/-- The log is what was sent, and the counter stands behind it. -/
def Counted (log : List (Transmission E)) (client : ClientState C) : Prop :=
  ∃ k, SentLog [] 0 (log.map Transmission.built) k client.sent ∧
    client.nextEpochZeroRecord = UInt64.ofNat k

theorem Counted.accounted (h : Counted log client) (hfaithful : Faithful C events log) :
    Accounted events client := by
  obtain ⟨k, hsent, -⟩ := h
  exact ⟨log, k, hsent, hfaithful⟩

/-- The flight has the numbers behind the log and has not been sent. -/
structure Loaded (log : List (Transmission E)) (client : ClientState C) : Prop where
  numbered : ∃ k j, SentLog [] 0 (log.map Transmission.built) k client.sent ∧
    numbers client.clientFlight = countUp (UInt64.ofNat k) j ∧
    client.nextEpochZeroRecord = UInt64.ofNat (k + j)
  sized : ∀ r ∈ client.clientFlight, r.Sized
  protected_lt : ∀ r ∈ client.clientFlight, r.header.epoch ≠ 0 →
    r.header.sequenceNumber.toNat < 2 ^ 48

theorem Loaded.accounted (h : Loaded log client) (hfaithful : Faithful C events log) :
    Accounted events client := by
  obtain ⟨k, j, hsent, -⟩ := h.numbered
  exact ⟨log, k, hsent, hfaithful⟩

/-- **A send** adds one transmission to the log. -/
theorem sendClientFlight_log (setup : ClientSetup E) (hload : Loaded log client)
    (t : Built → Transmission E) (ht : ∀ built, (t built).built = built)
    (hbefore : Faithful C events log)
    (hafter : ∀ datagram, Faithful C events (log ++ [t ⟨client.clientFlight, datagram⟩])) :
    wp (sendClientFlight setup)
      (fun _ client' => ∃ datagram, Counted (log ++ [t ⟨client.clientFlight, datagram⟩]) client' ∧
        client' = { client with sent := client'.sent })
      (fun _ client' => Accounted events client') client := by
  obtain ⟨k, j, hsent, hnumbers, hnext⟩ := hload.numbered
  have hmore : ∀ datagram, DtlsRecord.encodeDatagram client.clientFlight = .ok datagram →
      SentLog [] 0 ((log ++ [t ⟨client.clientFlight, datagram⟩]).map Transmission.built) (k + j)
        (client.sent ++ [datagram]) := by
    intro datagram hdatagram
    rw [List.map_append, List.map_singleton, ht]
    refine hsent.snoc ⟨hdatagram, hload.sized, hload.protected_lt⟩ ?_
    rw [UInt64.zero_add]
    exact hnumbers
  unfold sendClientFlight
  rw [wp_bind, wp_get, wp_zoom]
  refine wp_mono (sendRecords_spec setup.sendFails client.clientFlight client.sent) ?_ ?_
  · rintro _ sent' ⟨datagram, hdatagram, rfl⟩
    exact ⟨datagram, ⟨k + j, hmore datagram hdatagram, hnext⟩, rfl⟩
  · rintro _ sent' (rfl | ⟨datagram, hdatagram, rfl⟩)
    · exact ⟨log, k, hsent, hbefore⟩
    · exact ⟨_, _, hmore datagram hdatagram, hafter datagram⟩

/-! ## §4. ClientHellos. -/

theorem HelloRecord.renumbered {record again : DtlsRecord} (h : HelloRecord hello record)
    (hsame : Renumbered record again) : HelloRecord hello again where
  type := h.type
  contentType := hsame.contentType.trans h.contentType
  epoch := hsame.epoch.trans h.epoch
  sized := hsame.sized h.sized
  payload := h.payload.trans (congrArg Except.ok hsame.payload.symm)

/-- The client's flight is the ClientHello, the latest it has built. -/
structure Offers (hello : HandshakeMessage) (client : ClientState C) : Prop where
  flight : ∃ record, client.clientFlight = [record] ∧ HelloRecord hello record
  latest : client.helloState.lastClientHelloSequence = some hello.messageSeq
  next : client.helloState.nextMessageSequence = hello.messageSeq + 1

/-- The client waits for an answer to the ClientHello. -/
structure Greeting (events rest : List (Input E)) (wait : Wait) (log : List (Transmission E))
    (hello : HandshakeMessage) (client : ClientState C) : Prop where
  inWait : InWait C events rest wait [hello] log
  counted : Counted log client
  offers : Offers hello client
  /-- The first hello has number 0, and each datagram of the second wait renews it at most
      once. -/
  bound : hello.messageSeq.toNat ≤ wait.rank + datagramCount .serverFlight log

theorem Greeting.accounted (h : Greeting events rest wait log hello client) :
    Accounted events client :=
  h.counted.accounted h.inWait.faithful

theorem Greeting.skip (h : Greeting events (input :: rest) wait log hello client) :
    Greeting events rest wait log hello client :=
  { h with inWait := h.inWait.skip }

/-- Renumbering loads the ClientHello again. -/
theorem renumberClientFlight_loaded (hcounted : Counted log client)
    (hoffers : Offers hello client) : wp (renumberClientFlight (E := E))
      (fun _ client' => Loaded log client' ∧ Offers hello client') (fun _ _ => False) client := by
  obtain ⟨k, hsent, hnext⟩ := hcounted
  obtain ⟨record, hflight, hrecord⟩ := hoffers.flight
  unfold renumberClientFlight
  refine wp_modify_intro fun client' hclient' => ?_
  have hfirst : client'.clientFlight = [{ record with
            header := { record.header with sequenceNumber := UInt64.ofNat k } }] := by
    rw [hclient', hflight, hnext]
    unfold renumberEpochZeroFlight
    rw [if_pos hrecord.epoch]
    rfl
  have hcounter : client'.nextEpochZeroRecord = UInt64.ofNat (k + 1) := by
    rw [hclient', hflight, hnext]
    unfold renumberEpochZeroFlight
    rw [if_pos hrecord.epoch, UInt64.ofNat_add]
    rfl
  have hagain : HelloRecord hello { record with
      header := { record.header with sequenceNumber := UInt64.ofNat k } } :=
    hrecord.renumbered ⟨rfl, rfl, rfl, fun h => h, fun hne => absurd hrecord.epoch hne⟩
  refine ⟨⟨⟨k, 1, ?_, ?_, hcounter⟩, ?_, ?_⟩, ⟨⟨_, hfirst, hagain⟩, ?_, ?_⟩⟩
  · rw [hclient']
    exact hsent
  · rw [hfirst]
    unfold numbers epochZero
    rw [List.filter_cons_of_pos (by simpa using hrecord.epoch)]
    rfl
  · rw [hfirst]
    exact List.forall_mem_singleton.mpr hagain.sized
  · rw [hfirst]
    exact List.forall_mem_singleton.mpr fun hne => absurd hagain.epoch hne
  · rw [hclient']
    exact hoffers.latest
  · rw [hclient']
    exact hoffers.next

theorem DtlsClientHelloState.cookie_clientHello (state : DtlsClientHelloState) :
    state.clientHello.cookie = state.cookie := by
  unfold clientHello
  split <;> rfl

/-- The next ClientHello takes the next message number and the current cookie. -/
theorem nextClientHelloRecord_spec (s : DtlsClientHelloState) :
    wp DtlsClientHelloState.nextClientHelloRecord
      (fun record s' => ∃ hello, HelloRecord hello record ∧
        hello.messageSeq = s.nextMessageSequence ∧ CarriesCookie hello s.cookie ∧
        s'.lastClientHelloSequence = some hello.messageSeq ∧
        s'.nextMessageSequence = hello.messageSeq + 1)
      (fun _ _ => True) s := by
  unfold DtlsClientHelloState.nextClientHelloRecord
  simp only [wp_bind, wp_get, wp_modify, wp_pure]
  refine wp_attempt_ok fun payload hpayload => ?_
  refine wp_attempt_ok fun body hbody => ?_
  refine wp_attempt_ok fun record hrecord => ?_
  have hsized := DtlsRecord.new_sized hrecord
  obtain ⟨-, rfl⟩ := DtlsRecord.new_eq_ok hrecord
  exact ⟨_, ⟨rfl, rfl, rfl, hsized, hbody⟩, rfl, ⟨_, s.cookie_clientHello, hpayload⟩, rfl, rfl⟩

/-- The next ClientHello becomes the flight. -/
theorem nextClientHelloFlight_loaded (hcounted : Counted log client) :
    wp (nextClientHelloFlight (E := E))
      (fun _ client' => ∃ hello, Loaded log client' ∧ Offers hello client' ∧
        hello.messageSeq = client.helloState.nextMessageSequence ∧
        CarriesCookie hello client.helloState.cookie)
      (fun _ client' => Counted log client') client := by
  unfold nextClientHelloFlight onHelloState
  rw [wp_bind, wp_zoom]
  refine wp_mono (nextClientHelloRecord_spec client.helloState) ?_ (fun _ _ _ => hcounted)
  rintro record helloState ⟨hello, hrecord, hseq, hcookie, hlatest, hnext⟩
  rw [wp_bind]
  refine wp_modify_intro fun client' hclient' => ?_
  have hcounted' : Counted log client' := by
    rw [hclient']
    exact hcounted
  have hoffers : Offers hello client' := by
    rw [hclient']
    exact ⟨⟨record, rfl, hrecord⟩, hlatest, hnext⟩
  refine wp_mono (renumberClientFlight_loaded hcounted' hoffers) ?_ (fun _ _ h => h.elim)
  rintro _ client'' ⟨hloaded, hoffers⟩
  exact ⟨hello, hloaded, hoffers, hseq, hcookie⟩

/-- A loaded ClientHello is sent. -/
theorem sendHello_log (setup : ClientSetup E) (wait : Wait) (trigger : Option (Input E))
    (hloaded : Loaded log client) (hoffers : Offers hello client) (hwait : wait ≠ .serverFinished)
    (hbefore : Faithful C events log)
    (hafter : ∀ built, Transmission.Carries C ⟨wait, trigger, [hello], built⟩ →
      InWait C events rest wait [hello] (log ++ [⟨wait, trigger, [hello], built⟩]))
    (hbound : ∀ built, hello.messageSeq.toNat
      ≤ wait.rank + datagramCount .serverFlight (log ++ [⟨wait, trigger, [hello], built⟩])) :
    wp (sendClientFlight setup) (fun _ client' => ∃ built,
        Greeting events rest wait (log ++ [⟨wait, trigger, [hello], built⟩]) hello client')
      (fun _ client' => Accounted events client') client := by
  obtain ⟨record, hflight, hrecord⟩ := hoffers.flight
  have hinWait : ∀ datagram, InWait C events rest wait [hello]
      (log ++ [⟨wait, trigger, [hello], ⟨client.clientFlight, datagram⟩⟩]) :=
    fun datagram => hafter _ (.hello hwait rfl hflight hrecord)
  refine wp_imp (sendClientFlight_log setup hloaded (fun built => ⟨wait, trigger, [hello], built⟩)
    (fun _ => rfl) hbefore fun datagram => (hinWait datagram).faithful) ?_
  rintro _ client' ⟨datagram, hcounted, heq⟩
  refine ⟨_, hinWait datagram, hcounted, ?_, hbound _⟩
  rw [heq]
  exact ⟨⟨record, hflight, hrecord⟩, hoffers.latest, hoffers.next⟩

/-- The client repeats its ClientHello. -/
theorem repeatHello_log (setup : ClientSetup E)
    (h : Greeting events (input :: rest) wait log hello client) (hwait : wait ≠ .serverFinished)
    (hinput : Repeats wait log input) : wp (do renumberClientFlight; sendClientFlight setup)
      (fun _ client' => ∃ built, Greeting events rest wait
        (log ++ [⟨wait, some input, [hello], built⟩]) hello client')
      (fun _ client' => Accounted events client') client := by
  refine wp_seq_mono (renumberClientFlight_loaded h.counted h.offers) ?_ (fun _ _ h => h.elim)
  rintro _ loaded ⟨hloaded, hoffers⟩
  refine sendHello_log setup wait _ hloaded hoffers hwait h.inWait.faithful
    (fun built hcarries => h.inWait.repeated hinput hcarries) (fun built => ?_)
  have hbound := h.bound
  rw [datagramCount_snoc]
  omega

/-! ## §5. The wait for the HelloVerifyRequest. -/

/-- A HelloVerifyRequest that is taken up answers the latest ClientHello; it changes the cookie
    only. -/
theorem handleHelloVerifyRequest_spec (record : DtlsRecord) (s : DtlsClientHelloState) :
    wp (DtlsClientHelloState.handleHelloVerifyRequest record) (fun request s' => ∃ verify,
        parseUnfragmentedHandshakeRecord record .helloVerifyRequest = .ok verify ∧
        some verify.messageSeq = s.lastClientHelloSequence ∧
        HelloVerifyRequest.decode verify.payload = .ok request ∧
        s' = { s with cookie := request.cookie })
      (fun _ s' => s' = s) s := by
  unfold DtlsClientHelloState.handleHelloVerifyRequest
  refine wp_attempt_seq (fun verify hverify => ?_) (fun _ _ => rfl)
  rw [wp_bind, wp_get]
  split
  · rfl
  rename_i hseq
  refine wp_attempt_seq (fun request hrequest => ?_) (fun _ _ => rfl)
  split
  · rfl
  · exact ⟨verify, hverify, not_not.mp hseq, hrequest, rfl⟩

theorem handleHelloVerifyRequest_greeting (record : DtlsRecord) :
    Keeps (Greeting events rest wait log hello)
      (onHelloState (C := C) (E := E) (DtlsClientHelloState.handleHelloVerifyRequest record)) := by
  intro client h
  unfold onHelloState
  rw [wp_zoom]
  refine wp_mono (handleHelloVerifyRequest_spec record client.helloState) ?_ ?_
  · rintro request helloState ⟨verify, -, -, -, rfl⟩
    exact ⟨h.inWait, h.counted, ⟨h.offers.flight, h.offers.latest, h.offers.next⟩, h.bound⟩
  · rintro _ helloState rfl
    exact h

/-- **The first wait** repeats the first ClientHello on the timer only. -/
theorem waitForHelloVerify_log (setup : ClientSetup E) (inputs : List (Input E))
    (h : Greeting events inputs .helloVerify log hello client) :
    wp (waitForHelloVerify setup inputs)
      (fun rest client' => ∃ log, Greeting events rest .helloVerify log hello client')
      (fun _ client' => Accounted events client') client := by
  induction inputs generalizing log client with
  | nil => exact h.accounted
  | cons input inputs ih =>
    cases input with
    | expired =>
      have hsent := repeatHello_log setup h (fun h => by cases h) .expired
      rw [wp_bind] at hsent
      refine wp_seq hsent fun _ loaded hsent => wp_seq hsent ?_
      rintro _ client' ⟨built, h'⟩
      exact ih h'
    | failed error => exact h.accounted
    | deadline => exact h.accounted
    | datagram localAddr remote bytes =>
      unfold waitForHelloVerify
      split
      · exact ih h.skip
      refine wp_bind_of_keeps h (helloVerifyRecords_keeps _ handleHelloVerifyRequest_greeting)
        (fun _ _ h => h.accounted) fun found client' h' => ?_
      split
      · exact ⟨log, h'.skip⟩
      · exact ih h'.skip

/-! ## §6. The wait for the server's flight. -/

/-- The client waits for the server's flight, under the budget of the wait. -/
def AwaitsFlight (events rest : List (Input E)) (wait : FlightWait) (client : ClientState C) :
    Prop :=
  ∃ log hello, Greeting events rest .serverFlight log hello client ∧
    datagramCount .serverFlight log = wait.duplicateRetransmissions.used.toNat

variable {localAddr remote : SocketAddr} {bytes : Bytes}

/-- The next message number does not wrap. -/
theorem Greeting.next_toNat (h : Greeting events rest wait log hello client) :
    (hello.messageSeq + 1).toNat = hello.messageSeq.toNat + 1 := by
  have hbound := h.bound
  have hbudget := h.inWait.faithful.budget .serverFlight
  have hrank : wait.rank ≤ 2 := by cases wait <;> decide
  rw [UInt16.toNat_add]
  exact Nat.mod_eq_of_lt (by
    show hello.messageSeq.toNat + 1 < 65536
    omega)

/-- A new cookie: the next ClientHello is sent. -/
theorem sendRenewed_log (setup : ClientSetup E) {cookie : Bytes} {loaded : ClientState C}
    {next : HandshakeMessage}
    (h : Greeting events (.datagram localAddr remote bytes :: rest) .serverFlight log hello client)
    (hroom : datagramCount .serverFlight log < 4) (hanswer : AnswersHello hello bytes cookie)
    (hloaded : Loaded log loaded) (hoffers : Offers next loaded)
    (hseq : next.messageSeq = hello.messageSeq + 1) (hcookie : CarriesCookie next cookie) :
    wp (sendClientFlight setup) (fun _ client' => ∃ built, Greeting events rest .serverFlight
          (log ++ [⟨.serverFlight, some (.datagram localAddr remote bytes), [next], built⟩])
          next client')
      (fun _ client' => Accounted events client')
      loaded := by
  have hnext : next.messageSeq.toNat = hello.messageSeq.toNat + 1 := by
    rw [hseq, h.next_toNat]
  refine sendHello_log setup .serverFlight _ hloaded hoffers (fun h => by cases h)
    h.inWait.faithful (fun built hcarries => ?_) (fun built => ?_)
  · refine h.inWait.snoc rfl hcarries ?_ le_rfl (Or.inr (Or.inr rfl)) (fun _ => hroom)
    intro last hwait hmessages
    exact .renewed hwait rfl rfl hanswer hmessages rfl hcookie hnext
  · have hbound := h.bound
    rw [datagramCount_snoc, if_pos ⟨rfl, rfl⟩]
    omega

/-- A HelloVerifyRequest within the budget: a renewed ClientHello if it answers the latest, the
    same again otherwise. -/
theorem answerHelloVerify_log (setup : ClientSetup E) {records : List DtlsRecord}
    {record : DtlsRecord} (hparse : DtlsRecord.parseDatagram bytes = .ok records)
    (hmem : record ∈ records) {wait : FlightWait}
    (h : Greeting events (.datagram localAddr remote bytes :: rest) .serverFlight log hello client)
    (hroom : datagramCount .serverFlight log < 4)
    (hused : datagramCount .serverFlight log + 1 = wait.duplicateRetransmissions.used.toNat) :
    wp (answerHelloVerify setup record wait)
      (fun result client' => result.1 = .receive ∧ AwaitsFlight events rest result.2 client')
      (fun _ client' => Accounted events client') client := by
  -- either way the transmission counts
  have hcount : ∀ message built, datagramCount .serverFlight
      (log ++ [⟨.serverFlight, some (.datagram localAddr remote bytes), [message], built⟩])
        = wait.duplicateRetransmissions.used.toNat := by
    intro message built
    rw [datagramCount_snoc, if_pos ⟨rfl, rfl⟩, hused]
  unfold answerHelloVerify onHelloState
  rw [wp_bind, wp_caught, wp_zoom]
  refine wp_mono (handleHelloVerifyRequest_spec record client.helloState) ?_ ?_
  · rintro request helloState ⟨verify, hverify, hlatest, hrequest, rfl⟩
    have hanswer : AnswersHello hello bytes request.cookie := by
      refine ⟨records, record, verify, request, hparse, hmem, hverify, ?_, hrequest, rfl⟩
      rw [h.offers.latest] at hlatest
      exact Option.some.inj hlatest
    refine wp_seq_mono (nextClientHelloFlight_loaded (E := E) h.counted) ?_
      (fun _ _ h' => h'.accounted h.inWait.faithful)
    rintro _ loaded ⟨next, hloaded, hoffers, hseq, hcookie⟩
    refine wp_bind_of_keeps (I := fun loaded => Loaded log loaded ∧ Offers next loaded)
      ⟨hloaded, hoffers⟩ clientHelloOfFlight_keeps (fun _ _ h' => h'.1.accounted h.inWait.faithful)
      fun clientHelloMessage loaded' hboth => ?_
    refine wp_seq (sendRenewed_log setup h hroom hanswer hboth.1 hboth.2
      (hseq.trans h.offers.next) hcookie) ?_
    rintro _ client' ⟨built, h'⟩
    exact ⟨rfl, _, next, h', hcount next built⟩
  · rintro _ helloState rfl
    have hsent := repeatHello_log setup h (fun h => by cases h)
      (.datagram localAddr remote bytes hroom)
    rw [wp_bind] at hsent
    refine wp_seq hsent fun _ loaded hsent => wp_seq hsent ?_
    rintro _ client' ⟨built, h'⟩
    exact ⟨rfl, _, hello, h', hcount hello built⟩

/-- **The second wait** repeats or renews its ClientHello. -/
theorem awaitsFlight_rule (setup : ClientSetup E) (events : List (Input E)) :
    FlightRule (C := C) setup (AwaitsFlight events) (Accounted events) where
  fails h := by
    obtain ⟨log, hello, hgreeting, -⟩ := h
    exact hgreeting.accounted
  skips h := by
    obtain ⟨log, hello, hgreeting, hused⟩ := h
    exact ⟨log, hello, hgreeting.skip, hused⟩
  takes _ _ h := h
  handles m := by
    refine keeps_zoom fun client _ h => ?_
    obtain ⟨log, hello, hgreeting, hused⟩ := h
    exact ⟨log, hello, ⟨hgreeting.inWait, hgreeting.counted,
      ⟨hgreeting.offers.flight, hgreeting.offers.latest, hgreeting.offers.next⟩,
      hgreeting.bound⟩, hused⟩
  expires h := by
    obtain ⟨log, hello, hgreeting, hused⟩ := h
    refine wp_imp (repeatHello_log setup hgreeting (fun h => by cases h) .expired) ?_
    rintro _ client' ⟨built, h'⟩
    refine ⟨_, hello, h', ?_⟩
    rw [datagramCount_snoc, hused]
    rfl
  answers hparse hmem h htake := by
    obtain ⟨log, hello, hgreeting, hused⟩ := h
    obtain ⟨hlt, hrest⟩ := DuplicateRetransmitBudget.take_eq_true htake
    refine answerHelloVerify_log setup hparse hmem hgreeting (by omega) ?_
    rw [hused]
    exact hrest.symm

/-! ## §7. The wait for the server's Finished. -/

variable {finished keyExchange : HandshakeMessage}

/-- The last flight as it is built: two plaintext records under the next numbers and the sealed
    Finished. -/
theorem buildClientFinishedFlight_records
    (hkeyExchange : keyExchange.messageType = .clientKeyExchange)
    (hfinished : finished.messageType = .finished) (s : ClientState C × SessionState) :
    wp (buildClientFinishedFlight (E := E) keyExchange finished)
      (fun _ s' => ∃ first change last, s'.1.clientFlight = [first, change, last] ∧
        FinishedRecords C keyExchange finished first change last ∧
        (∀ r ∈ [first, change, last], r.Sized) ∧ (∀ r ∈ [first, change, last], r.header.epoch ≠ 0 →
          r.header.sequenceNumber.toNat < 2 ^ 48) ∧
        numbers [first, change, last] = countUp s.1.nextEpochZeroRecord 2 ∧
        s'.1.nextEpochZeroRecord = s.1.nextEpochZeroRecord + 1 + 1 ∧ s'.1.sent = s.1.sent)
      (fun _ s' => s'.1.sent = s.1.sent) s := by
  obtain ⟨client, session⟩ := s
  simp only [buildClientFinishedFlight, takeEpochZero, takeRecordSequence, onSession, wp_bind,
    wp_get, wp_modify, wp_zoom, wp_pure]
  refine wp_attempt.mpr ⟨fun body hbody => ?_, fun _ _ => rfl⟩
  refine wp_attempt.mpr ⟨fun first hfirst => ?_, fun _ _ => rfl⟩
  refine wp_attempt.mpr ⟨fun change hchange => ?_, fun _ _ => rfl⟩
  refine wp_attempt.mpr ⟨fun plain hplain => ?_, fun _ _ => rfl⟩
  refine wp_mono (SessionState.protectRecord_spec .handshake plain session) ?_ (fun _ _ _ => rfl)
  rintro last session' ⟨hlast, -⟩
  obtain ⟨hlt, htype, hepoch, hnumber, hsized⟩ := protect_eq_ok hlast
  have hfirstSized := DtlsRecord.new_sized hfirst
  have hchangeSized := DtlsRecord.new_sized hchange
  obtain ⟨-, rfl⟩ := DtlsRecord.new_eq_ok hfirst
  obtain ⟨-, rfl⟩ := DtlsRecord.new_eq_ok hchange
  refine ⟨_, _, last, rfl, ⟨hkeyExchange, hfinished, ⟨rfl, rfl, hepoch⟩, ⟨rfl, rfl, htype⟩, hbody,
    rfl, plain, _, _, _, hplain, hlast⟩, ?_, ?_, ?_, rfl, rfl⟩
  · intro r hr
    rcases List.mem_cons.mp hr with rfl | hr
    · exact hfirstSized
    · rcases List.mem_cons.mp hr with rfl | hr
      · exact hchangeSized
      · rw [List.mem_singleton.mp hr]
        exact hsized
  · intro r hr hne
    rcases List.mem_cons.mp hr with rfl | hr
    · exact absurd rfl hne
    · rcases List.mem_cons.mp hr with rfl | hr
      · exact absurd rfl hne
      · rw [List.mem_singleton.mp hr, hnumber]
        exact hlt
  · simp [numbers, epochZero, hepoch, countUp]

/-- The last flight is built and sent. -/
theorem resendClientFinished_log (setup : ClientSetup E) (trigger : Option (Input E))
    (hkeyExchange : keyExchange.messageType = .clientKeyExchange)
    (hfinished : finished.messageType = .finished) {s : ClientState C × SessionState}
    (hcounted : Counted log s.1) (hbefore : Faithful C events log) (hafter : ∀ built,
      Transmission.Carries C ⟨.serverFinished, trigger, [keyExchange, finished], built⟩ →
      InWait C events rest .serverFinished [keyExchange, finished]
        (log ++ [⟨.serverFinished, trigger, [keyExchange, finished], built⟩])) :
    wp (resendClientFinished setup keyExchange finished)
      (fun _ s' => ∃ built, InWait C events rest .serverFinished [keyExchange, finished]
          (log ++ [⟨.serverFinished, trigger, [keyExchange, finished], built⟩]) ∧
        Counted (log ++ [⟨.serverFinished, trigger, [keyExchange, finished], built⟩]) s'.1)
      (fun _ s' => Accounted events s'.1) s := by
  obtain ⟨k, hsent, hnext⟩ := hcounted
  unfold resendClientFinished onClient
  refine wp_seq_mono (buildClientFinishedFlight_records hkeyExchange hfinished s) ?_ ?_
  · rintro _ ⟨client, session⟩
      ⟨first, change, last, hflight, hrecords, hsized, hprotected, hnumbers, hcounter, hsame⟩
    rw [hnext] at hnumbers hcounter
    have hloaded : Loaded log client := by
      refine ⟨⟨k, 2, ?_, ?_, ?_⟩, ?_, ?_⟩
      · rw [hsame]
        exact hsent
      · rw [hflight]
        exact hnumbers
      · rw [hcounter, UInt64.ofNat_add, UInt64.add_assoc]
        rfl
      · rw [hflight]
        exact hsized
      · rw [hflight]
        exact hprotected
    have hinWait := fun datagram => hafter ⟨client.clientFlight, datagram⟩
      (.finished rfl rfl hflight hrecords)
    rw [wp_zoom]
    refine wp_imp (sendClientFlight_log setup hloaded
      (fun built => ⟨.serverFinished, trigger, [keyExchange, finished], built⟩) (fun _ => rfl)
      hbefore fun datagram => (hinWait datagram).faithful) ?_
    rintro _ client' ⟨datagram, hcounted, -⟩
    exact ⟨_, hinWait datagram, hcounted⟩
  · intro _ s' hsame
    refine ⟨log, k, ?_, hbefore⟩
    rw [hsame]
    exact hsent

/-- The client waits for the server's Finished, under the budget. -/
def AwaitsFinished (events : List (Input E)) (keyExchange finished : HandshakeMessage)
    (rest : List (Input E)) (budget : DuplicateRetransmitBudget) (client : ClientState C) : Prop :=
  ∃ log, InWait C events rest .serverFinished [keyExchange, finished] log ∧ Counted log client ∧
    datagramCount .serverFinished log = budget.used.toNat

section Finished

variable {budget budget' : DuplicateRetransmitBudget}

theorem AwaitsFinished.accounted
    (h : AwaitsFinished events keyExchange finished rest budget client) :
    Accounted events client := by
  obtain ⟨log, hinWait, hcounted, -⟩ := h
  exact hcounted.accounted hinWait.faithful

/-- The last flight again, on an event. -/
theorem AwaitsFinished.repeated (setup : ClientSetup E)
    (hkeyExchange : keyExchange.messageType = .clientKeyExchange)
    (hfinished : finished.messageType = .finished) {s : ClientState C × SessionState}
    (h : AwaitsFinished events keyExchange finished (input :: rest) budget s.1)
    (hinput : ∀ log, datagramCount .serverFinished log = budget.used.toNat →
      Repeats .serverFinished log input ∧ ∀ built, datagramCount .serverFinished
        (log ++ [⟨.serverFinished, some input, [keyExchange, finished], built⟩])
          = budget'.used.toNat) :
    wp (resendClientFinished setup keyExchange finished)
      (fun _ s' => AwaitsFinished events keyExchange finished rest budget' s'.1)
      (fun _ s' => Accounted events s'.1) s := by
  obtain ⟨log, hinWait, hcounted, hused⟩ := h
  obtain ⟨hrepeats, hcount⟩ := hinput log hused
  refine wp_imp (resendClientFinished_log setup _ hkeyExchange hfinished hcounted hinWait.faithful
    fun _ hcarries => hinWait.repeated hrepeats hcarries) ?_
  rintro _ s' ⟨built, hinWait', hcounted'⟩
  exact ⟨_, hinWait', hcounted', hcount built⟩

end Finished

/-- **The third wait** repeats the last flight. -/
theorem awaitsFinished_rule (setup : ClientSetup E) (events : List (Input E))
    (hkeyExchange : keyExchange.messageType = .clientKeyExchange)
    (hfinished : finished.messageType = .finished) :
    FinishedRule (C := C) setup keyExchange finished
      (fun rest budget s => AwaitsFinished events keyExchange finished rest budget s.1)
      (fun s => Accounted events s.1) (fun s => Accounted events s.1) where
  fails h := h.accounted
  skips h := by
    obtain ⟨log, hinWait, hcounted, hused⟩ := h
    exact ⟨log, hinWait.skip, hcounted, hused⟩
  expires h := h.repeated setup hkeyExchange hfinished fun log hused =>
    ⟨.expired, fun built => by rw [datagramCount_snoc, hused]; rfl⟩
  repeats h htake := by
    obtain ⟨hlt, hrest⟩ := DuplicateRetransmitBudget.take_eq_true htake
    refine h.repeated setup hkeyExchange hfinished fun log hused => ⟨.datagram _ _ _ (by omega), ?_⟩
    intro built
    rw [datagramCount_snoc, if_pos ⟨rfl, rfl⟩, hused, hrest]
  reads {inputs budget _} records saw h := by
    -- reading a datagram sends nothing
    have hverify : ∀ {α : Type} (m : ThreadDtlsHandshake.Method C α),
        Keeps (fun s => AwaitsFinished events keyExchange finished inputs budget s.1)
          (onClient (E := E) (onHandshake m)) := fun m =>
      keeps_zoom_of (J := AwaitsFinished events keyExchange finished inputs budget)
        (keeps_zoom fun _ _ h => h) (fun _ h => h) (fun _ _ _ h => h)
    refine wp_mono (finishedRecords_keeps records saw (fun _ => keeps_zoom fun _ _ h => h)
      (fun _ _ => hverify _) _ h) (fun result s' h' => ?_) (fun _ _ h' => h'.accounted)
    split
    · exact h'.accounted
    · exact h'

/-! ## §8. The whole handshake. -/

theorem buildClientKeyExchange_numbered (messageSeq : UInt16) (s : ThreadDtlsHandshake C × C.Rng) :
    wp (ThreadDtlsHandshake.buildClientKeyExchange messageSeq)
      (fun message _ => message.messageType = .clientKeyExchange ∧ message.messageSeq = messageSeq)
      (fun _ _ => True) s := by
  obtain ⟨handshake, rng⟩ := s
  simp only [ThreadDtlsHandshake.buildClientKeyExchange, wp_bind, wp_get]
  split
  · trivial
  · simp only [wp_bind, wp_modify, wp_zoom, wp_pure]
    refine wp_attempt_ok fun roundTwo _ => ?_
    refine wp_attempt_ok fun payload _ => ?_
    exact wp_mono_ok (ThreadDtlsHandshake.record_spec handshake) (fun _ _ _ => ⟨trivial, trivial⟩)

theorem buildClientFinished_numbered (messageSeq : UInt16) (handshake : ThreadDtlsHandshake C) :
    wp (ThreadDtlsHandshake.buildClientFinished messageSeq)
      (fun message _ => message.messageType = .finished ∧ message.messageSeq = messageSeq)
      (fun _ _ => True) handshake := by
  simp only [ThreadDtlsHandshake.buildClientFinished, wp_bind, wp_get, wp_pure]
  refine wp_attempt_ok fun payload _ => ?_
  exact wp_mono_ok (ThreadDtlsHandshake.record_spec handshake) (fun _ _ _ => ⟨trivial, trivial⟩)

/-- The last flight and its wait, after the server's flight. -/
theorem finishClient_log (setup : ClientSetup E) (session : SessionState)
    (serverFlight : List HandshakeMessage)
    (hinWait : InWait C events rest .serverFlight [hello] log) (hcounted : Counted log client)
    (hkeyExchange : keyExchange.messageType = .clientKeyExchange)
    (hfinished : finished.messageType = .finished)
    (hsecond : keyExchange.messageSeq.toNat = hello.messageSeq.toNat + 1)
    (hthird : finished.messageSeq.toNat = keyExchange.messageSeq.toNat + 1) :
    wp (withSession session do
        resendClientFinished setup keyExchange finished
        waitForServerFinished setup keyExchange finished serverFlight rest
          DuplicateRetransmitBudget.new false
        let (_, session) ← get
        return session)
      (fun _ client' => Accounted events client')
      (fun _ client' => Accounted events client') client := by
  unfold withSession
  rw [wp_zoom]
  refine wp_seq (resendClientFinished_log setup none hkeyExchange hfinished hcounted
    hinWait.faithful fun built hcarries => hinWait.snoc rfl hcarries (fun last hwait hmessages =>
      .last hwait rfl rfl hmessages rfl hsecond hthird) (Nat.le_succ 1) (Or.inl rfl)
      (fun h => by cases h)) ?_
  rintro _ s ⟨built, hinWait', hcounted'⟩
  refine wp_seq ((awaitsFinished_rule setup events hkeyExchange hfinished).wait serverFlight rest
    _ false s ⟨_, hinWait', hcounted', ?_⟩) (fun _ _ h => h)
  rw [datagramCount_snoc, hinWait.ahead .serverFinished (by decide)]
  rfl

/-- The second ClientHello and its wait, with what follows them. -/
theorem continueClient_log {α : Type} (setup : ClientSetup E)
    (h : Greeting events rest .helloVerify log hello client)
    {more : List HandshakeMessage × List (Input E) → ClientM C E α}
    (hmore : ∀ result log hello client', Greeting events result.2 .serverFlight log hello client' →
      wp (more result) (fun _ client' => Accounted events client')
        (fun _ client' => Accounted events client') client') :
    wp (do
        nextClientHelloFlight
        let clientHelloMessage ← clientHelloOfFlight
        sendClientFlight setup
        let result ← waitForServerFlight setup rest
          { clientHelloMessage, duplicateRetransmissions := DuplicateRetransmitBudget.new
            recordedClientHello := false, serverFlight := [] }
        more result)
      (fun _ client' => Accounted events client')
      (fun _ client' => Accounted events client') client := by
  refine wp_seq_mono (nextClientHelloFlight_loaded h.counted) ?_
    (fun _ _ h' => h'.accounted h.inWait.faithful)
  rintro _ loaded ⟨next, hloaded, hoffers, hseq, -⟩
  rw [h.offers.next] at hseq
  have hnext : next.messageSeq.toNat = hello.messageSeq.toNat + 1 := by
    rw [hseq, h.next_toNat]
  refine wp_bind_of_keeps (I := fun loaded => Loaded log loaded ∧ Offers next loaded)
    ⟨hloaded, hoffers⟩ clientHelloOfFlight_keeps (fun _ _ h' => h'.1.accounted h.inWait.faithful)
    fun clientHelloMessage loaded' hboth => ?_
  have hquiet : ∀ built, datagramCount .serverFlight
      (log ++ [⟨.serverFlight, none, [next], built⟩]) = 0 := by
    intro built
    rw [datagramCount_snoc, h.inWait.ahead .serverFlight (by decide)]
    rfl
  refine wp_seq (sendHello_log setup .serverFlight none hboth.1 hboth.2 (fun h => by cases h)
    h.inWait.faithful (fun built hcarries => h.inWait.snoc rfl hcarries (fun last hwait hmessages =>
      .second hwait rfl rfl hmessages rfl hnext) (Nat.le_succ 0) (Or.inl rfl) (fun h => by cases h))
    (fun built => ?_)) ?_
  · have hbound := h.bound
    rw [h.inWait.ahead .serverFlight (by decide)] at hbound
    rw [hnext, hquiet]
    exact Nat.add_le_add_right hbound 1
  · rintro _ client' ⟨built, h'⟩
    refine wp_seq ((awaitsFlight_rule setup events).wait rest _ client' ⟨_, next, h', hquiet built⟩) ?_
    rintro result client'' ⟨-, log', hello', h'', -⟩
    exact hmore result log' hello' client'' h''

/-- **The whole handshake** from a fresh client. -/
theorem connectInner_log (setup : ClientSetup E) (inputs : List (Input E))
    (hsent : client.sent = []) (hcounter : client.nextEpochZeroRecord = 0)
    (hseq : client.helloState.nextMessageSequence = 0) :
    wp (connectInner setup inputs) (fun _ client' => Accounted inputs client')
      (fun _ client' => Accounted inputs client') client := by
  have hcounted : Counted (E := E) [] client := ⟨0, ⟨hsent, .nil 0⟩, hcounter⟩
  have hnone : Faithful C inputs [] := Faithful.nil.mono inputs
  unfold connectInner
  refine wp_seq_mono (nextClientHelloFlight_loaded hcounted) ?_ (fun _ _ h => h.accounted hnone)
  rintro _ loaded ⟨hello, hloaded, hoffers, hnumber, -⟩
  rw [hseq] at hnumber
  refine wp_seq (sendHello_log setup .helloVerify none hloaded hoffers (fun h => by cases h) hnone
    (fun built hcarries => .first hcarries rfl rfl rfl hnumber) (fun built => ?_)) ?_
  · rw [hnumber]
    exact Nat.zero_le _
  rintro _ client ⟨built, hgreeting⟩
  refine wp_seq (waitForHelloVerify_log setup inputs hgreeting) ?_
  rintro rest client ⟨log, hgreeting⟩
  refine continueClient_log setup hgreeting ?_
  rintro ⟨serverFlight, rest⟩ log hello client h
  -- the key exchange and the Finished take the next two message numbers
  have hsecond := h.next_toNat
  have hthird : (hello.messageSeq + 1 + 1).toNat = (hello.messageSeq + 1).toNat + 1 := by
    have hbound := h.bound
    have hbudget := h.inWait.faithful.budget .serverFlight
    rw [UInt16.toNat_add, hsecond]
    refine Nat.mod_eq_of_lt ?_
    show hello.messageSeq.toNat + 1 + 1 < 65536
    have hrank : Wait.serverFlight.rank = 1 := rfl
    omega
  rw [wp_bind, wp_get]
  dsimp only
  rw [h.offers.next, wp_bind, wp_zoom]
  refine wp_mono (buildClientKeyExchange_numbered _ _) ?_ (fun _ _ _ => h.accounted)
  rintro keyExchange ⟨handshake, rng⟩ ⟨hkeyExchange, hkeySeq⟩
  rw [wp_bind, wp_get]
  refine wp_attempt_seq (fun keyMaterial _ => ?_) (fun _ _ => h.accounted)
  unfold onHandshake
  rw [wp_bind, wp_zoom]
  refine wp_mono (buildClientFinished_numbered _ _) ?_ (fun _ _ _ => h.accounted)
  rintro finished handshake ⟨hfinished, hfinishedSeq⟩
  refine finishClient_log setup _ serverFlight h.inWait h.counted hkeyExchange hfinished ?_ ?_
  · rw [hkeySeq, hsecond]
  · rw [hfinishedSeq, hkeySeq, hthird]

theorem ClientState.start_eq_ok {pskc : Bytes} {rng : C.Rng}
    (h : ClientState.start pskc rng = .ok client) :
    client.sent = [] ∧ client.nextEpochZeroRecord = 0 ∧
      client.helloState.nextMessageSequence = 0 := by
  unfold start at h
  obtain ⟨helloState, hhello, h⟩ := bind_eq_ok.mp h
  unfold ThreadDtlsHandshake.clientHelloState at hhello
  obtain ⟨kkpp, -, hhello⟩ := bind_eq_ok.mp hhello
  cases hhello
  cases h
  exact ⟨rfl, rfl, rfl⟩

/-- **The client's flights.**  Whatever datagrams and timer expiries a connection attempt meets,
    what it sends has a faithful log whose plaintext records are numbered `0, 1, 2, …`; as long as
    the numbers fit the wire, each datagram shows its records and the numbers go up. -/
theorem client_flights_faithful (setup : ClientSetup E) (inputs : List (Input E)) {pskc : Bytes}
    {rng : C.Rng} {client : ClientState C} (hstart : ClientState.start pskc rng = .ok client) :
    ∃ (log : List (Transmission E)) (k : Nat),
      (stateOf (connectInner setup inputs client)).sent
        = log.map (fun t => t.built.datagram) ∧
      (∀ t ∈ log, t.built.Encoded) ∧
      numbers (log.flatMap fun t => t.built.records) = countUp 0 k ∧
      (k ≤ 2 ^ 48 → Survives (log.map Transmission.built) (log.map Transmission.built)) ∧
      Faithful C inputs log := by
  obtain ⟨hsent, hcounter, hseq⟩ := ClientState.start_eq_ok hstart
  obtain ⟨log, k, hlog, hfaithful⟩ :=
    stateOf_of_wp (connectInner_log setup inputs hsent hcounter hseq)
  refine ⟨log, k, ?_, ?_, ?_, ?_, hfaithful⟩
  · rw [hlog.sent, List.nil_append, List.map_map]
    rfl
  · intro t ht
    exact hlog.logged.encoded t.built (List.mem_map_of_mem ht)
  · rw [← hlog.logged.numbered, List.flatMap_map]
  · intro hfits
    refine (survives_iff hlog.logged (fun _ h => h) (fun _ h hnot => absurd h hnot) (by decide)).mpr ?_
    rw [UInt64.toNat_zero, Nat.zero_add]
    exact hfits

/-- A conversation in which the client's timer fires once before the server is heard. -/
def delayedInputs : List (Input Empty) := .expired :: (Conversation.transparent.inputs 6).1

/-- How many datagrams the client sends in it. -/
def delayedSends : Nat :=
  match Conversation.transparent.client delayedInputs with
  | .ok result => (stateOf result).sent.length
  | .error _ => 0

theorem client_flights_faithful_delayed :
    ∃ (client : ClientState Crypto.transparent) (log : List (Transmission Empty)),
      ClientState.start [] () = .ok client ∧ log.length = 4 ∧
      (stateOf (connectInner Conversation.transparent.setup delayedInputs client)).sent
        = log.map (fun t => t.built.datagram) ∧
      Faithful Crypto.transparent delayedInputs log := by
  have hsends : delayedSends = 4 := by decide +kernel
  unfold delayedSends at hsends
  split at hsends
  · rename_i result hclient
    obtain ⟨client, hstart, hconnect⟩ := bind_eq_ok.mp hclient
    have hconnect := Except.ok.inj hconnect
    obtain ⟨log, k, hsent, -, -, -, hfaithful⟩ :=
      client_flights_faithful Conversation.transparent.setup delayedInputs hstart
    rw [← hconnect, hsent, List.length_map] at hsends
    exact ⟨client, log, hstart, hsends, hsent, hfaithful⟩
  · cases hsends

end Meshcop.Dtls
