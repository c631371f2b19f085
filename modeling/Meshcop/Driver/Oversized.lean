/-
  Meshcop.Driver.Oversized — what a request that is too large for a DTLS record does to the
  session (`Driver::start`, `Driver::fail_send`, `is_transport_error`, `Link::send`).

  Sealing refuses more than 65519 bytes and leaves the DTLS session as it was.  The refusal
  reaches the driver as a DTLS error, the driver takes every DTLS error for a broken transport,
  and so the session ends with everything outstanding.  Nothing before that looks at the size
  of a request: only a mesh request whose own encoding does not fit the UDP encapsulation
  fails earlier, and alone.

  How long a request is on the wire does not depend on the identity it is given, so the
  condition can be read off the request: `Outbound.wireLength`.

  Main results:
    * `launch_isClosed_iff`      — when starting an exchange ends the session;
    * `sendQueued_of_oversized`  — an oversized request ends it whenever its turn comes;
    * `oversized_request_iff`    — which requests are dealt with alone.
-/

import Meshcop.Driver.Isolation

namespace Meshcop

open Lib

/-! ## §1. The length of a message on the wire. -/

namespace CoapMessage

/-- How long the encoding is, if there is one. -/
def encodedLength (message : CoapMessage) : Option Nat := message.encode.toOption.map List.length

/-- The message under a blank identity. -/
def blank (message : CoapMessage) : CoapMessage :=
  { message with messageId := 0, token := List.replicate TOKEN_LENGTH 0 }

/-- Two messages that are equally long field by field. -/
structure Alike (m n : CoapMessage) : Prop where
  token : m.token.length = n.token.length
  options : m.options = n.options
  payload : m.payload.length = n.payload.length

/-- **The length is made up of the lengths of the fields.** -/
theorem encodedLength_eq (message : CoapMessage) : message.encodedLength =
      if message.token.length > 8 then none
      else (encodeOptions 0 message.sortedOptions).toOption.map fun options =>
        4 + message.token.length + options.length +
          if message.payload.length = 0 then 0 else 1 + message.payload.length := by
  unfold encodedLength encode
  by_cases hlong : message.token.length > 8
  · rw [if_pos hlong, if_pos hlong]
    rfl
  rw [if_neg hlong, if_neg hlong]
  cases encodeOptions 0 message.sortedOptions with
  | error error => rfl
  | ok options =>
    show some _ = some _
    by_cases hempty : message.payload = []
    · simp [hempty]
      omega
    · simp [hempty]
      omega

theorem Alike.encodedLength {m n : CoapMessage} (h : Alike m n) :
    m.encodedLength = n.encodedLength := by
  have hsorted : m.sortedOptions = n.sortedOptions := by
    unfold sortedOptions
    rw [h.options]
  rw [encodedLength_eq, encodedLength_eq, h.token, hsorted, h.payload]

end CoapMessage

/-- Two codecs that both fail, or give related results. -/
def SameShape {α β : Type} (R : α → β → Prop) (x : Except Error α) (y : Except Error β) : Prop :=
  (∃ a b, x = .ok a ∧ y = .ok b ∧ R a b) ∨ ((∃ e, x = .error e) ∧ ∃ e, y = .error e)

/-- Equally long values make equally long TLVs. -/
theorem appendTlv_sameShape (out : Bytes) (ty : UInt8) {value value' : Bytes}
    (h : value.length = value'.length) :
    SameShape (fun a b => a.length = b.length) (appendTlv out ty value) (appendTlv out ty value') := by
  unfold appendTlv TlvEntry.encode
  dsimp only
  rw [h]
  cases encodeHeader ty value'.length with
  | error error => exact Or.inr ⟨⟨_, rfl⟩, ⟨_, rfl⟩⟩
  | ok header =>
    refine Or.inl ⟨_, _, rfl, rfl, ?_⟩
    simp [h]

/-- Equally long messages have equally long encapsulations. -/
theorem udpTxRequest_sameShape (address : Ipv6Addr) (port : UInt16) {inner inner' : Bytes}
    (h : inner.length = inner'.length) :
    SameShape CoapMessage.Alike (udpTxRequest 0 [] address port inner)
      (udpTxRequest 0 [] address port inner') := by
  have huri : Uri.UDP_TX = 0x2f :: ascii "c/ut" := by decide
  have hpost := fun payload =>
    @CoapMessage.postRequest_ok (ascii "c/ut") [ascii "c", ascii "ut"] (by decide) (by decide)
      (by decide) .nonConfirmable 0 [] payload
  have hlength : (toBE 2 DEFAULT_MM_PORT.toNat ++ toBE 2 port.toNat ++ inner).length =
      (toBE 2 DEFAULT_MM_PORT.toNat ++ toBE 2 port.toNat ++ inner').length := by
    simp [h]
  unfold udpTxRequest
  dsimp only
  cases appendTlv [] TLV_IPV6_ADDRESS address.bytes with
  | error error => exact Or.inr ⟨⟨error, rfl⟩, ⟨error, rfl⟩⟩
  | ok front =>
    show SameShape _ ((appendTlv front _ _) >>= _) ((appendTlv front _ _) >>= _)
    rcases appendTlv_sameShape front TLV_UDP_ENCAPSULATION hlength with
      ⟨payload, payload', hpayload, hpayload', hsize⟩ | ⟨⟨error, herror⟩, ⟨error', herror'⟩⟩
    · rw [hpayload, hpayload', huri]
      refine Or.inl ⟨_, _, hpost payload, hpost payload', ?_⟩
      exact ⟨rfl, rfl, hsize⟩
    · rw [herror, herror']
      exact Or.inr ⟨⟨error, rfl⟩, ⟨error', rfl⟩⟩

/-- **How long a request is on the wire**, by itself or in its encapsulation, under any
    identity the driver can give it. -/
def Outbound.wireLength (request : Outbound) : Option Nat :=
  match request.destination with
  | .borderAgent => request.message.blank.encodedLength
  | .mesh address port =>
    match request.message.blank.encode with
    | .error _ => none
    | .ok inner =>
      match udpTxRequest 0 [] address port inner with
      | .error _ => none
      | .ok outer => outer.blank.encodedLength

/-- A request that no DTLS record can hold. -/
def Outbound.Oversized (request : Outbound) : Prop :=
  ∃ length, request.wireLength = some length ∧ 65519 < length

namespace Driver

variable {env : Env}

/-! ## §2. Starting an exchange. -/

/-- The identity a message is given is as long as the blank one. -/
theorem assignIdentity_alike (d : Driver env) (message : CoapMessage) :
    (d.assignIdentity message).1.Alike message.blank where
  token := by
    show (drawToken env _ _ _).1.length = (List.replicate TOKEN_LENGTH (0 : UInt8)).length
    rw [drawToken_length, List.length_replicate]
    rfl
  options := rfl
  payload := rfl

variable {request : Outbound}

/-- What goes out for a request is as long as the request says. -/
theorem wireLength_of_alike {message : CoapMessage} (h : message.Alike request.message.blank) :
    (∀ wire, Carries message request.destination wire → wire.token.length = TOKEN_LENGTH →
      wire.encodedLength = request.wireLength) ∧
    ((∀ wire, ¬Carries message request.destination wire) → request.wireLength = none) := by
  unfold Outbound.wireLength
  cases request.destination with
  | borderAgent =>
    refine ⟨fun wire hcarries _ => ?_, fun hnone => absurd rfl (hnone message)⟩
    cases hcarries
    exact h.encodedLength
  | mesh address port =>
    have hlength := h.encodedLength
    unfold CoapMessage.encodedLength at hlength
    cases hinner : message.encode with
    | error error =>
      refine ⟨?_, fun _ => ?_⟩
      · rintro wire ⟨inner, outer, hok, -⟩
        cases hinner.symm.trans hok
      · rw [hinner] at hlength
        cases hblank : request.message.blank.encode with
        | error error' => rfl
        | ok inner' =>
          rw [hblank] at hlength
          cases hlength
    | ok inner =>
      rw [hinner] at hlength
      cases hblank : request.message.blank.encode with
      | error error =>
        rw [hblank] at hlength
        cases hlength
      | ok inner' =>
        rw [hblank] at hlength
        dsimp only
        -- the encapsulations of the message and of the blank one are built alike
        rcases udpTxRequest_sameShape address port (Option.some.inj hlength) with
          ⟨outer, outer', houter, houter', halike⟩ | ⟨⟨error, herror⟩, ⟨error', herror'⟩⟩
        · rw [houter']
          refine ⟨?_, fun hnone => absurd ⟨inner, outer, hinner, houter, rfl⟩ (hnone outer)⟩
          rintro wire ⟨inner₁, outer₁, hinner₁, houter₁, hwire⟩ htoken
          cases hinner.symm.trans hinner₁
          cases houter.symm.trans houter₁
          refine CoapMessage.Alike.encodedLength ⟨htoken.trans List.length_replicate.symm, ?_, ?_⟩
          · rw [hwire]
            exact halike.options
          · rw [hwire]
            exact halike.payload
        · rw [herror']
          refine ⟨?_, fun _ => rfl⟩
          rintro wire ⟨inner₁, outer₁, hinner₁, houter₁, -⟩
          cases hinner.symm.trans hinner₁
          cases herror.symm.trans houter₁

variable {d : Driver env}

/-- **When starting an exchange ends the session**: its request has an encoding, and the DTLS
    layer refuses it. -/
theorem launch_isClosed_iff (hopen : d.isClosed = false) (hlink : d.linkOpen = true)
    (request : Outbound) (completion : Completion) :
    (d.launch request completion).1.isClosed = true ↔
      request.wireLength ≠ none ∧ env.sendResult d.world.sends ≠ none := by
  have hstays : ¬d.isClosed = true := Bool.eq_false_iff.mp hopen
  obtain ⟨hlength, hnone⟩ := wireLength_of_alike (d.assignIdentity_alike request.message)
  have hlaunched := d.launch_launched request completion
  generalize d.launch request completion = launched at hlaunched
  cases hlaunched with
  | tracked wire _ _ _ _ _ _ hsent =>
    exact ⟨fun h => absurd h hstays, fun h => absurd hsent h.2⟩
  | unsendable _ _ _ hnever =>
    exact ⟨fun h => absurd h hstays, fun h => absurd (hnone hnever) h.1⟩
  | finished _ wire _ _ _ hgoes hover =>
    refine ⟨fun h => absurd h hstays, fun h => ?_⟩
    rcases hover hlink with hsent | ⟨error, herror⟩
    · exact absurd hsent h.2
    · rw [← hlength wire hgoes.carries hgoes.token, CoapMessage.encodedLength, herror] at h
      exact absurd rfl h.1
  | broken _ wire _ _ hgoes hencodes hrefused =>
    obtain ⟨-, bytes, hbytes⟩ := hencodes
    refine ⟨fun _ => ⟨?_, hrefused⟩, fun _ => rfl⟩
    rw [← hlength wire hgoes.carries hgoes.token, CoapMessage.encodedLength, hbytes]
    exact Option.some_ne_none _

/-! ## §3. The queue's turn. -/

variable {completion : Completion}

/-- The loop over the queue sends nothing once the session has ended. -/
theorem Sends.of_closed {d' : Driver env} (h : Sends d d') (hclosed : d.isClosed = true) : d' = d := by
  cases h with
  | settled => rfl
  | tracked _ _ _ _ _ hopen => cases hopen.symm.trans hclosed
  | next _ _ _ _ _ _ _ hopen => cases hopen.symm.trans hclosed

/-- A launch that is tracked did not end the session. -/
theorem isOpen_of_launch {d' : Driver env} (hopen : d.isClosed = false)
    (hlaunch : d.launch request completion = (d', none)) : d'.isClosed = false := by
  have hlaunched := d.launch_launched request completion
  rw [hlaunch] at hlaunched
  cases hlaunched with
  | tracked => exact hopen

/-- **An oversized request ends the session when its turn comes**, whoever queued it and
    whatever made room for it. -/
theorem sendQueued_of_oversized (hqueueing : d.Queueing) (hopen : d.isClosed = false)
    (hlink : d.linkOpen = true) (hfree : d.applicationInFlight = 0)
    {queued : List (Outbound × Completion)} (hqueued : d.queued = (request, completion) :: queued)
    (hlength : request.wireLength ≠ none) (hrefused : env.sendResult d.world.sends ≠ none) :
    d.sendQueued.isClosed = true := by
  have hlaunch := (launch_isClosed_iff (d := { d with queued }) hopen hlink request completion).mpr
    ⟨hlength, hrefused⟩
  have hsends := sendQueued_sends hqueueing
  generalize d.sendQueued = d' at hsends
  cases hsends with
  | settled _ hsettled =>
    rcases hsettled with hbusy | hnil
    · omega
    · cases hqueued.symm.trans hnil
  | tracked _ _ _ _ _ _ _ hqueued' hlaunch' =>
    cases hqueued.symm.trans hqueued'
    rw [hlaunch'] at hlaunch
    cases (isOpen_of_launch (d := { d with queued }) hopen hlaunch').symm.trans hlaunch
  | next _ d₁ _ _ _ _ outcome _ _ hqueued' hlaunch' hrest =>
    cases hqueued.symm.trans hqueued'
    rw [hlaunch'] at hlaunch
    have hclosed : (d₁.deliver completion (.exchange outcome)).isClosed = true := by
      rw [deliver_eq_logs]
      exact hlaunch
    rw [hrest.of_closed hclosed]
    exact hclosed

/-- With one request in the queue and the slot free, the loop launches that request and is
    done. -/
theorem sendQueued_of_single (hqueueing : d.Queueing) (hopen : d.isClosed = false)
    (hfree : d.applicationInFlight = 0) (hqueued : d.queued = [(request, completion)]) :
    d.sendQueued =
      match launch { d with queued := [] } request completion with
      | (d', none) => d'
      | (d', some outcome) => d'.deliver completion (.exchange outcome) := by
  have hsends := sendQueued_sends hqueueing
  generalize d.sendQueued = d' at hsends
  cases hsends with
  | settled _ hsettled =>
    rcases hsettled with hbusy | hnil
    · omega
    · cases hqueued.symm.trans hnil
  | tracked _ _ _ _ _ _ _ hqueued' hlaunch =>
    cases hqueued.symm.trans hqueued'
    rw [hlaunch]
  | next _ d₁ _ _ _ _ outcome _ _ hqueued' hlaunch hrest =>
    cases hqueued.symm.trans hqueued'
    rw [hlaunch]
    -- nothing is left for the next turn of the loop
    have hnil : (d₁.deliver completion (.exchange outcome)).queued = [] := by
      have hshorter := (hqueueing.next hopen hqueued hlaunch (.exchange outcome)).2
      exact List.length_eq_zero_iff.mp (Nat.le_zero.mp hshorter)
    cases hrest with
    | settled => rfl
    | tracked _ _ _ _ _ _ _ hcons => cases hcons.symm.trans hnil
    | next _ _ _ _ _ _ _ _ _ hcons => cases hcons.symm.trans hnil

end Driver

/-! ## §4. A request dealt with alone. -/

/-- The outcome that an action hands to a waiter. -/
def Action.outcome? : Action → Option (Completion × Reply)
  | .delivered waiter reply | .answeredAtOnce waiter reply => some (waiter, reply)
  | _ => none

/-- The outcomes handed out, in order. -/
def outcomes (trace : List Action) : List (Completion × Reply) := trace.filterMap Action.outcome?

namespace Driver

variable {env : Env}

/-- **A request is dealt with alone.**  The session stays open; what was in flight, queued or
    scheduled still is.  Among the tables and the outcomes one entry is new: the request is
    outstanding, or its waiter has its one outcome.  An oversized request is not in flight, and
    its outcome is an error. -/
structure Alone (id : UInt64) (request : Outbound) (d d' : Driver env) : Prop where
  isOpen : d'.isClosed = false
  handlesDropped : d'.handlesDropped = d.handlesDropped
  keepAliveAt : d'.keepAliveAt = d.keepAliveAt
  account : ∃ sent waiting actions,
    d'.inFlight = d.inFlight ++ sent ∧ d'.queued = d.queued ++ waiting ∧
    d'.trace = d.trace ++ actions ∧
    sent.length + waiting.length + (outcomes actions).length = 1 ∧
    (∀ pending ∈ sent, pending.completion = .caller id d.nextChannel) ∧
    (∀ entry ∈ waiting, entry = (request, .caller id d.nextChannel)) ∧
    (∀ outcome ∈ outcomes actions, outcome.1 = .caller id d.nextChannel) ∧
    (request.Oversized → sent = [] ∧ ∀ outcome ∈ outcomes actions, outcome.2.isError = true)

/-- The driver after something that concerns no exchange. -/
structure Aside (d d' : Driver env) : Prop where
  isOpen : d'.isClosed = false
  handlesDropped : d'.handlesDropped = d.handlesDropped
  keepAliveAt : d'.keepAliveAt = d.keepAliveAt
  inFlight : d'.inFlight = d.inFlight
  queued : d'.queued = d.queued
  nextChannel : d'.nextChannel = d.nextChannel
  sends : d'.world.sends = d.world.sends
  trace : ∃ actions, d'.trace = d.trace ++ actions ∧ outcomes actions = []

variable {d d' : Driver env} {id : UInt64} {request : Outbound}

theorem Alone.of_aside {d₁ : Driver env} (haside : Aside d d₁) (h : Alone id request d₁ d') :
    Alone id request d d' where
  isOpen := h.isOpen
  handlesDropped := h.handlesDropped.trans haside.handlesDropped
  keepAliveAt := h.keepAliveAt.trans haside.keepAliveAt
  account := by
    obtain ⟨before, hbefore, hnone⟩ := haside.trace
    obtain ⟨sent, waiting, actions, hsent, hwaiting, hactions, hone, hrest⟩ := h.account
    rw [haside.inFlight] at hsent
    rw [haside.queued] at hwaiting
    rw [hbefore, List.append_assoc] at hactions
    rw [haside.nextChannel] at hrest
    have houtcomes : outcomes (before ++ actions) = outcomes actions := by
      unfold outcomes at hnone ⊢
      rw [List.filterMap_append, hnone, List.nil_append]
    refine ⟨sent, waiting, before ++ actions, hsent, hwaiting, hactions, ?_, ?_⟩
    · rw [houtcomes]
      exact hone
    · rw [houtcomes]
      exact hrest

/-- A refused request has its outcome, an error. -/
theorem Alone.refused (hopen : d.isClosed = false) (id : UInt64) (request : Outbound)
    (error : Error) : Alone id request d (d.answer (.caller id) (.exchange (.error error))) where
  isOpen := hopen
  handlesDropped := rfl
  keepAliveAt := rfl
  account := by
    refine ⟨[], [], [.answeredAtOnce (.caller id d.nextChannel) (.exchange (.error error))],
      ?_, ?_, rfl, rfl, List.forall_mem_nil _, List.forall_mem_nil _, ?_, ?_⟩
    · rw [List.append_nil]
      rfl
    · rw [List.append_nil]
      rfl
    · intro outcome hmem
      cases List.mem_singleton.mp hmem
      rfl
    · intro _
      refine ⟨rfl, fun outcome hmem => ?_⟩
      cases List.mem_singleton.mp hmem
      rfl

/-- A request that has to wait is queued. -/
theorem Alone.waits (hopen : d.isClosed = false) (id : UInt64) (request : Outbound) :
    Alone id request d { d.log (.accepted id) with
      queued := d.queued ++ [(request, .caller id d.nextChannel)]
      nextChannel := d.nextChannel + 1 } where
  isOpen := hopen
  handlesDropped := rfl
  keepAliveAt := rfl
  account := by
    refine ⟨[], [(request, .caller id d.nextChannel)], [.accepted id],
      ?_, rfl, rfl, rfl, List.forall_mem_nil _, ?_, List.forall_mem_nil _, ?_⟩
    · rw [List.append_nil]
      rfl
    · intro entry hmem
      exact List.mem_singleton.mp hmem
    · intro _
      exact ⟨rfl, List.forall_mem_nil _⟩

/-- The driver to which a request was accepted, with the request in its hand. -/
def accepting (d : Driver env) (id : UInt64) : Driver env :=
  { d.log (.accepted id) with queued := [], nextChannel := d.nextChannel + 1 }

/-- What the loop makes of a launch. -/
def concluded (completion : Completion) :
    Driver env × Option (Except Error (Option CoapMessage)) → Driver env
  | (d, none) => d
  | (d, some outcome) => d.deliver completion (.exchange outcome)

/-- A launched request is alone if the session is as it was but for the request's own entry. -/
theorem Alone.of_core (hopen : d.isClosed = false) (hqueued : d.queued = [])
    (hfits : ¬request.Oversized) {sent : List Pending} {actions : List Action} {now : Nat}
    (hcore : d'.core .empty = { ((d.accepting id).core .empty).did actions with
      inFlight := d.inFlight ++ sent, now }) (hone : sent.length + (outcomes actions).length = 1)
    (hsent : ∀ pending ∈ sent, pending.completion = .caller id d.nextChannel)
    (houtcomes : ∀ outcome ∈ outcomes actions, outcome.1 = .caller id d.nextChannel) :
    Alone id request d d' where
  isOpen := (congrArg SessionCore.isClosed hcore).trans hopen
  handlesDropped := congrArg SessionCore.handlesDropped hcore
  keepAliveAt := congrArg SessionCore.keepAliveAt hcore
  account := by
    have hnone : d'.queued = [] := congrArg SessionCore.queued hcore
    have htrace : d'.trace = (d.trace ++ [.accepted id]) ++ actions :=
      congrArg SessionCore.trace hcore
    rw [List.append_assoc] at htrace
    refine ⟨sent, [], [.accepted id] ++ actions, congrArg SessionCore.inFlight hcore, ?_, htrace,
      hone, hsent, List.forall_mem_nil _, houtcomes, fun hover => absurd hover hfits⟩
    rw [hnone, hqueued]
    rfl

/-- A request that was launched, and did not end the session with it. -/
theorem Alone.launched (hopen : d.isClosed = false) (hqueued : d.queued = [])
    (hfits : ¬request.Oversized)
    (hstays : ((d.accepting id).launch request (.caller id d.nextChannel)).1.isClosed = false) :
    Alone id request d (concluded (.caller id d.nextChannel)
      ((d.accepting id).launch request (.caller id d.nextChannel))) := by
  have hlaunched := (d.accepting id).launch_launched request (.caller id d.nextChannel)
  generalize (d.accepting id).launch request (.caller id d.nextChannel) = result at hstays hlaunched
  -- the waiter is told once, and nobody else is
  have htold : ∀ (log : List Action) (reply : Reply), outcomes log = [] →
      outcomes (log ++ (Completion.caller id d.nextChannel).tell reply) =
        [(.caller id d.nextChannel, reply)] := by
    intro log reply hlog
    unfold outcomes at hlog ⊢
    rw [List.filterMap_append, hlog]
    rfl
  have hdone : ∀ (d' : Driver env) (log : List Action) (outcome : Except Error (Option CoapMessage)),
      outcomes log = [] → d'.core .empty = ((d.accepting id).core .empty).did log →
      Alone id request d (d'.deliver (.caller id d.nextChannel) (.exchange outcome)) := by
    intro d' log outcome hlog hcore
    have hcore' : (d'.deliver (.caller id d.nextChannel) (.exchange outcome)).core .empty =
        { ((d.accepting id).core .empty).did
            (log ++ (Completion.caller id d.nextChannel).tell (.exchange outcome)) with
          inFlight := d.inFlight ++ [], now := d.world.now } := by
      rw [deliver_core, hcore, List.append_nil]
      simp only [SessionCore.did, List.append_assoc]
      rfl
    refine Alone.of_core hopen hqueued hfits hcore' ?_ (List.forall_mem_nil _) ?_
    · rw [htold log _ hlog]
      rfl
    · rw [htold log _ hlog]
      intro told hmem
      cases List.mem_singleton.mp hmem
      rfl
  cases hlaunched with
  | tracked wire =>
    refine Alone.of_core hopen hqueued hfits rfl rfl ?_ (List.forall_mem_nil _)
    intro other hmem
    cases List.mem_singleton.mp hmem
    rfl
  | unsendable error =>
    refine hdone _ [] (.error error) rfl ?_
    simp [SessionCore.did, numbered, core]
  | finished outcome wire => exact hdone _ [.sent _ wire] outcome rfl rfl
  | broken => cases hstays

/-! ## §5. The command. -/

/-- Whether a request that arrives now is sent at once: the session has not ended and is not
    resigning, the link is open or opens again, and no other application request is in
    flight. -/
structure SendsAtOnce (d : Driver env) : Prop where
  isOpen : d.isClosed = false
  staying : d.resigning = false
  linked : d.linkOpen = true ∨ env.reopenResult d.world.reopens = none
  free : d.applicationInFlight = 0

/-- **The link is healthy**: to a request that is sent at once it answers as the sealing of a
    record does, which depends on nothing but the length. -/
def Healthy (d : Driver env) (request : Outbound) : Prop :=
  d.SendsAtOnce → ∀ length, request.wireLength = some length →
    env.sendResult d.world.sends = Dtls.sealingFailure length

/-- Opening the link again concerns no exchange. -/
theorem ensureOpen_aside (hopen : d.isClosed = false) : wp ensureOpen
      (fun _ d' => Aside d d' ∧ d'.linkOpen = true ∧
        (d.linkOpen = true ∨ env.reopenResult d.world.reopens = none))
      (fun _ d' => Aside d d' ∧
        ¬(d.linkOpen = true ∨ env.reopenResult d.world.reopens = none)) d := by
  simp only [ensureOpen, wp_bind, wp_get]
  by_cases hlink : d.linkOpen = true
  · rw [if_pos hlink]
    refine ⟨⟨hopen, rfl, rfl, rfl, rfl, rfl, rfl, [], ?_, rfl⟩, hlink, Or.inl hlink⟩
    rw [List.append_nil]
  rw [if_neg hlink]
  simp only [wp_bind, wp_modify]
  cases hreopen : env.reopenResult d.world.reopens with
  | some error =>
    refine ⟨⟨hopen, rfl, rfl, rfl, rfl, rfl, rfl, [], ?_, rfl⟩, ?_⟩
    · rw [List.append_nil]
    · rintro (hyes | hyes)
      · exact hlink hyes
      · cases hyes
  | none =>
    refine ⟨⟨rfl, rfl, rfl, rfl, rfl, rfl, rfl, [.reopened, .statusSet .connected], ?_, rfl⟩, rfl,
      Or.inr rfl⟩
    simp [setStatus, forgetBorderAgent, log]

theorem step_exchange_eq (hopen : d.isClosed = false) (hhandles : d.handlesDropped = false)
    (id : UInt64) (request : Outbound) :
    d.step (.command (.exchange id request)) = d.handleCommand (.exchange id request) := by
  unfold step
  rw [if_neg (by simp [hopen, enabled, hhandles])]
  rfl

/-- A request that reaches the queue of a settled driver with an open link. -/
theorem submit_alone (hsettled : d.Settled) (hopen : d.isClosed = false)
    (hlink : d.linkOpen = true) (id : UInt64)
    (hhealthy : d.applicationInFlight = 0 → ∀ length, request.wireLength = some length →
      env.sendResult d.world.sends = Dtls.sealingFailure length) :
    (d.applicationInFlight = 0 ∧ request.Oversized → (d.submit id request).isClosed = true) ∧
      (¬(d.applicationInFlight = 0 ∧ request.Oversized) →
        Alone id request d (d.submit id request)) := by
  unfold submit
  dsimp only
  generalize hd₁ : ({ d.log (.accepted id) with
      queued := d.queued ++ [(request, .caller id d.nextChannel)]
      nextChannel := d.nextChannel + 1 } : Driver env) = d₁
  have hflight : d₁.inFlight = d.inFlight := by rw [← hd₁]; rfl
  have hbusy₁ : d₁.applicationInFlight = d.applicationInFlight := by
    unfold applicationInFlight
    rw [hflight]
  by_cases hfree : d.applicationInFlight = 0
  · -- a free slot means an empty queue, so the request is the only one there
    have hnil : d.queued = [] := by
      rcases hsettled with hbusy | hnil
      · omega
      · exact hnil
    have hqueued₁ : d₁.queued = [(request, .caller id d.nextChannel)] := by
      rw [← hd₁, hnil]
      rfl
    have hopen₁ : d₁.isClosed = false := by rw [← hd₁]; exact hopen
    have hqueueing₁ : d₁.Queueing := by
      refine ⟨fun entry hmem => ?_, fun hclosed => ?_⟩
      · rw [hqueued₁] at hmem
        cases List.mem_singleton.mp hmem
        rfl
      · cases hopen₁.symm.trans hclosed
    have hlaunch : d₁.sendQueued = concluded (.caller id d.nextChannel)
        ((d.accepting id).launch request (.caller id d.nextChannel)) := by
      rw [sendQueued_of_single hqueueing₁ hopen₁ (hbusy₁.trans hfree) hqueued₁]
      have haccepting : ({ d₁ with queued := [] } : Driver env) = d.accepting id := by
        rw [← hd₁]
        rfl
      rw [haccepting]
      rfl
    have hcloses : ((d.accepting id).launch request (.caller id d.nextChannel)).1.isClosed = true ↔
        request.Oversized := by
      rw [launch_isClosed_iff (d := d.accepting id) hopen hlink]
      show request.wireLength ≠ none ∧ env.sendResult d.world.sends ≠ none ↔ _
      unfold Outbound.Oversized
      cases hlength : request.wireLength with
      | none => simp
      | some length =>
        rw [hhealthy hfree length hlength, ne_eq, ne_eq, Dtls.sealingFailure_eq_none_iff]
        simp
    refine ⟨fun hboth => ?_, fun hnot => ?_⟩
    · refine sendQueued_of_oversized hqueueing₁ hopen₁ ?_ (hbusy₁.trans hfree) hqueued₁ ?_ ?_
      · rw [← hd₁]
        exact hlink
      · obtain ⟨length, hlength, -⟩ := hboth.2
        rw [hlength]
        intro h
        cases h
      · obtain ⟨length, hlength, hlong⟩ := hboth.2
        have hsends : d₁.world.sends = d.world.sends := by rw [← hd₁]; rfl
        rw [hsends, hhealthy hfree length hlength, ne_eq, Dtls.sealingFailure_eq_none_iff]
        omega
    · have hfits : ¬request.Oversized := fun hover => hnot ⟨hfree, hover⟩
      rw [hlaunch]
      refine Alone.launched hopen hnil hfits ?_
      exact Bool.eq_false_iff.mpr (fun hclosed => hfits (hcloses.mp hclosed))
  · refine ⟨fun hboth => absurd hboth.1 hfree, fun _ => ?_⟩
    have hsettled₁ : d₁.Settled := Or.inl (by omega)
    rw [sendQueued, sendQueuedWithin_of_settled hsettled₁, ← hd₁]
    exact Alone.waits hopen id request

/-- **One request.**  It is dealt with alone, or it is oversized, sent at once and ends the
    session. -/
theorem step_exchange (h : Sound d) (hopen : d.isClosed = false)
    (hhandles : d.handlesDropped = false) (id : UInt64) (hhealthy : d.Healthy request) :
    (d.SendsAtOnce ∧ request.Oversized →
      (d.step (.command (.exchange id request))).isClosed = true) ∧
    (¬(d.SendsAtOnce ∧ request.Oversized) →
      Alone id request d (d.step (.command (.exchange id request)))) := by
  rw [step_exchange_eq hopen hhandles, handleCommand]
  by_cases hresigning : d.resigning = true
  · rw [if_pos hresigning]
    refine ⟨fun hboth => ?_, fun _ => Alone.refused hopen id request _⟩
    cases hboth.1.staying.symm.trans hresigning
  rw [if_neg hresigning]
  have hresigning : d.resigning = false := Bool.eq_false_iff.mpr hresigning
  have hensured := ensureOpen_aside hopen
  unfold wp at hensured
  cases hresult : ensureOpen d with
  | error error d₁ =>
    rw [hresult] at hensured
    obtain ⟨haside, hunreachable⟩ := hensured
    refine ⟨fun hboth => absurd hboth.1.linked hunreachable, fun _ => ?_⟩
    exact (Alone.refused haside.isOpen id request error).of_aside haside
  | ok _ d₁ =>
    rw [hresult] at hensured
    obtain ⟨haside, hlink₁, hreachable⟩ := hensured
    have hbusy₁ : d₁.applicationInFlight = d.applicationInFlight := by
      unfold applicationInFlight
      rw [haside.inFlight]
    have hatOnce : d.SendsAtOnce ↔ d₁.applicationInFlight = 0 := by
      rw [hbusy₁]
      exact ⟨fun honce => honce.free, fun hfree => ⟨hopen, hresigning, hreachable, hfree⟩⟩
    have hsettled₁ : d₁.Settled := by
      unfold Settled
      rw [hbusy₁, haside.queued]
      exact h.settled
    have hsubmitted := submit_alone hsettled₁ haside.isOpen hlink₁ id
      (fun hfree length hlength => by
        rw [haside.sends]
        exact hhealthy (hatOnce.mpr hfree) length hlength)
    rw [hatOnce]
    exact ⟨hsubmitted.1, fun hnot => (hsubmitted.2 hnot).of_aside haside⟩

/-! ## §6. Sequences of requests. -/

/-- The commands of a sequence of requests. -/
def exchanges (env : Env) (requests : List (UInt64 × Outbound)) : List (Wake env) :=
  requests.map (fun request => .command (.exchange request.1 request.2))

/-- A request of a sequence meets the driver that the ones before it leave. -/
def Meets (d : Driver env) (requests : List (UInt64 × Outbound)) (d' : Driver env)
    (request : Outbound) : Prop :=
  ∃ before id after, requests = before ++ (id, request) :: after ∧
    d' = d.run (exchanges env before)

theorem meets_cons {first : Outbound} {requests : List (UInt64 × Outbound)} :
    d.Meets ((id, first) :: requests) d' request ↔ (d' = d ∧ request = first) ∨
        (d.step (.command (.exchange id first))).Meets requests d' request := by
  constructor
  · rintro ⟨before, id', after, hsplit, hstate⟩
    cases before with
    | nil =>
      cases hsplit
      exact Or.inl ⟨hstate, rfl⟩
    | cons head before =>
      cases hsplit
      exact Or.inr ⟨before, id', after, rfl, hstate⟩
  · rintro (⟨rfl, rfl⟩ | ⟨before, id', after, rfl, hstate⟩)
    · exact ⟨[], id, requests, rfl, rfl⟩
    · exact ⟨(id, first) :: before, id', after, rfl, hstate⟩

/-- **A sequence of requests** ends the session exactly if one of them is oversized when it is
    sent at once. -/
theorem run_exchanges (h : Sound d) (hopen : d.isClosed = false)
    (hhandles : d.handlesDropped = false) {requests : List (UInt64 × Outbound)}
    (hhealthy : ∀ d' request, d.Meets requests d' request → d'.Healthy request) :
    (d.run (exchanges env requests)).isClosed = false ↔
      ∀ d' request, d.Meets requests d' request → ¬(d'.SendsAtOnce ∧ request.Oversized) := by
  induction requests generalizing d with
  | nil =>
    refine ⟨fun _ d' request hmeets => ?_, fun _ => hopen⟩
    obtain ⟨before, id, after, hsplit, -⟩ := hmeets
    cases before <;> cases hsplit
  | cons first requests ih =>
    obtain ⟨id, first⟩ := first
    have hfirst := step_exchange h hopen hhandles id (hhealthy d first (meets_cons.mpr
      (Or.inl ⟨rfl, rfl⟩)))
    show ((d.step (.command (.exchange id first))).run (exchanges env requests)).isClosed = false ↔ _
    by_cases hends : d.SendsAtOnce ∧ first.Oversized
    · rw [run_of_closed (hfirst.1 hends), hfirst.1 hends]
      refine ⟨(fun h => by cases h), fun hnone => ?_⟩
      exact absurd hends (hnone d first (meets_cons.mpr (Or.inl ⟨rfl, rfl⟩)))
    have halone := hfirst.2 hends
    rw [ih (h.served (step_serves h _)) halone.isOpen (halone.handlesDropped.trans hhandles)
      (fun d' request hmeets => hhealthy d' request (meets_cons.mpr (Or.inr hmeets)))]
    constructor
    · intro hrest d' request hmeets
      rcases meets_cons.mp hmeets with ⟨rfl, rfl⟩ | hlater
      · exact hends
      · exact hrest d' request hlater
    · intro hall d' request hmeets
      exact hall d' request (meets_cons.mpr (Or.inr hmeets))

/-- A request to the border agent with 65520 bytes of payload. -/
def large : Outbound :=
  { Outbound.bare with message := { Outbound.bare.message with payload := List.replicate 65520 0 } }

theorem wireLength_large : large.wireLength = some 65529 := by
  have hoptions : CoapMessage.encodeOptions 0 large.message.blank.sortedOptions = .ok [] := rfl
  have htoken : large.message.blank.token.length = 4 := rfl
  have hpayload : large.message.blank.payload.length = 65520 := List.length_replicate
  show large.message.blank.encodedLength = some 65529
  rw [CoapMessage.encodedLength_eq, hoptions, htoken, hpayload]
  rfl

/-- A link that sends the petition and then, as it must, refuses the large request. -/
def refusing : Env :=
  .transparent fun sends =>
    if sends = 0 then none else some (.crypto "DTLS record payload is too long")

end Driver

end Meshcop
