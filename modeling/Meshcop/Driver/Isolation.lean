/-
  Meshcop.Driver.Isolation — mesh devices and the border agent do not answer for each other.

  A message that came through the UDP proxy is matched against proxied exchanges only, and a
  direct one against exchanges with the border agent only.  Proxied exchanges are handles'
  requests, and completing one sends the next requests of the queue and touches nothing else.

  Main results:
    * `Move.flightStep`      — what a move does to the exchanges in flight;
    * `Addressed.step`       — tokens are distinct, and only handles' requests are proxied;
    * `Routed.keeps`         — what a routed message leaves in flight;
    * `mesh_devices_isolated` — over any run.
-/

import Meshcop.Driver.Passage

namespace Meshcop

open Lib

/-! ## §1. The exchanges in flight. -/

/-- What of an exchange stands while it is in flight. -/
def Pending.address (pending : Pending) : CoapMessage × Destination × Completion :=
  (pending.request, pending.destination, pending.completion)

/-- Whether answers come by the given route. -/
def Pending.comesBy (proxied : Bool) (pending : Pending) : Bool := pending.isProxied == proxied

theorem Pending.not_comesBy {pending : Pending} {proxied : Bool}
    (h : pending.isProxied = proxied) : ¬pending.comesBy (!proxied) = true := by
  rw [comesBy, h]
  cases proxied <;> decide

/-- What a move does to the exchanges in flight. -/
inductive FlightStep (c c' : SessionCore) : Prop
  | fewer : c'.inFlight.Sublist c.inFlight → FlightStep c c'
  | touched : c'.inFlight.map Pending.address = c.inFlight.map Pending.address → FlightStep c c'
  | launched (pending : Pending) : c'.inFlight = c.inFlight ++ [pending] →
      (pending.isProxied = true → pending.completion.isApplication = true) →
      (c.inFlight.length < 256 ^ TOKEN_LENGTH →
        pending.request.token ∉ c.inFlight.map (fun pending => pending.request.token)) →
      FlightStep c c'

variable {c : SessionCore}

theorem Move.flightStep {c' : SessionCore} (h : Move c c') : FlightStep c c' := by
  cases h with
  | touch before after old new hflight hrequest hdestination hcompletion =>
    refine .touched ?_
    simp only [hflight, List.map_append, List.map_cons, Pending.address, hrequest, hdestination,
      hcompletion]
  | withdrawInFlight id before after pending _ _ hflight _ =>
    refine .fewer ?_
    rw [hflight]
    exact List.Sublist.append (.refl _) (List.sublist_cons_self _ _)
  | take before after pending _ hflight =>
    refine .fewer ?_
    rw [hflight]
    exact List.Sublist.append (.refl _) (List.sublist_cons_self _ _)
  | launch pending _ _ _ hproxied htoken => exact .launched pending rfl hproxied htoken
  | idle => exact .fewer (List.nil_sublist _)
  | endSession => exact .fewer (List.nil_sublist _)
  | _ => exact .fewer (.refl _)

/-- An intake touches nothing in flight. -/
theorem Intake.flightStep {id? : Option UInt64} {c' : SessionCore} (h : Intake id? c c') :
    FlightStep c c' := by
  cases h with
  | answer => exact .fewer (.refl _)
  | accept => exact .fewer (.refl _)

/-- At most one exchange of each kind is in flight. -/
theorem Controlled.length_inFlight_le (h : Controlled c) : c.inFlight.length ≤ 4 := by
  have hone : ∀ completion : Completion, (if completion.isApplication = true then 1 else 0) +
        (if completion.isPetition = true then 1 else 0) +
        (if completion.isKeepAlive = true then 1 else 0) +
        (if completion.isResign = true then 1 else 0) = 1 := by
    intro completion
    cases completion <;> rfl
  have hkinds : ∀ flight : List Pending, flight.length =
      flight.countP (fun pending => pending.completion.isApplication) +
        flight.countP (fun pending => pending.completion.isPetition) +
        flight.countP (fun pending => pending.completion.isKeepAlive) +
        flight.countP (fun pending => pending.completion.isResign) := by
    intro flight
    induction flight with
    | nil => rfl
    | cons pending flight ih =>
      have hone := hone pending.completion
      simp only [List.length_cons, List.countP_cons]
      omega
  have hlive : ∀ kind : Completion → Bool,
      c.inFlight.countP (fun pending => kind pending.completion) ≤ c.live kind :=
    fun kind => Nat.le_add_left _ _
  have happlications := h.applications
  have hpetitions := Nat.le_trans (hlive _) h.petitions
  have hkeepAlives := Nat.le_trans (hlive _) h.keepAlives
  have hresigns := Nat.le_trans (hlive _) h.resigns
  rw [hkinds]
  omega

/-- Tokens tell the exchanges in flight apart, and only handles' requests are proxied. -/
structure Addressed (c : SessionCore) : Prop where
  tokens : (c.inFlight.map (fun pending => pending.request.token)).Nodup
  proxied : ∀ pending ∈ c.inFlight, pending.isProxied = true →
    pending.completion.isApplication = true

namespace Addressed

variable {c c' : SessionCore}

theorem flightStep (h : Addressed c) (hcontrol : Controlled c) (hstep : FlightStep c c') :
    Addressed c' := by
  cases hstep with
  | fewer hsub =>
    refine ⟨(hsub.map _).nodup h.tokens, ?_⟩
    intro pending hmem
    exact h.proxied pending (hsub.subset hmem)
  | touched haddress =>
    have htokens : c'.inFlight.map (fun pending => pending.request.token) =
        c.inFlight.map (fun pending => pending.request.token) := by
      have hmap := congrArg (List.map (fun address => address.1.token)) haddress
      rw [List.map_map, List.map_map] at hmap
      exact hmap
    refine ⟨by rw [htokens]; exact h.tokens, ?_⟩
    intro pending hmem hproxied
    have hmem : pending.address ∈ c'.inFlight.map Pending.address := List.mem_map_of_mem hmem
    rw [haddress] at hmem
    obtain ⟨old, hold, heq⟩ := List.mem_map.mp hmem
    have hdestination : old.destination = pending.destination :=
      congrArg (fun address => address.2.1) heq
    have hcompletion : old.completion = pending.completion :=
      congrArg (fun address => address.2.2) heq
    rw [← hcompletion]
    refine h.proxied old hold ?_
    unfold Pending.isProxied at hproxied ⊢
    rw [hdestination]
    exact hproxied
  | launched pending hflight hproxied htoken =>
    have hfew : c.inFlight.length < 256 ^ TOKEN_LENGTH :=
      Nat.lt_of_le_of_lt hcontrol.length_inFlight_le (by decide)
    refine ⟨?_, ?_⟩
    · rw [hflight, List.map_append, List.map_singleton]
      refine List.nodup_append.mpr ⟨h.tokens, List.nodup_singleton _, ?_⟩
      intro token hmem token' hmem' heq
      rw [List.mem_singleton.mp hmem'] at heq
      rw [heq] at hmem
      exact htoken hfew hmem
    · intro pending' hmem
      rw [hflight] at hmem
      rcases List.mem_append.mp hmem with hold | hnew
      · exact h.proxied pending' hold
      · rw [List.mem_singleton.mp hnew]
        exact hproxied

theorem step (h : Controlled c ∧ Addressed c) (hmove : Move c c') : Controlled c' ∧ Addressed c' :=
  ⟨h.1.step hmove, h.2.flightStep h.1 hmove.flightStep⟩

theorem intake {id? : Option UInt64} (h : Controlled c ∧ Addressed c) (hintake : Intake id? c c') :
    Controlled c' ∧ Addressed c' :=
  ⟨h.1.intake hintake, h.2.flightStep h.1 hintake.flightStep⟩

/-- A token is matched by one exchange at most. -/
theorem countP_token_le (h : Addressed c) {kind : Pending → Bool} {token : Bytes}
    (hkind : ∀ pending, kind pending = true → pending.request.token = token) :
    c.inFlight.countP kind ≤ 1 := by
  have hcount := List.nodup_iff_count_le_one.mp h.tokens token
  refine Nat.le_trans ?_ hcount
  rw [List.count_eq_countP, List.countP_map]
  refine List.countP_mono_left ?_
  intro pending _ hmatches
  exact beq_iff_eq.mpr (hkind pending hmatches)

end Addressed

namespace Driver

variable {env : Env}

/-! ## §2. Sending the next requests. -/

/-- What was in flight still is, and the status and the keep-alive timer are as before. -/
structure Untouched (d d' : Driver env) : Prop where
  inFlight : d.inFlight <+: d'.inFlight
  status : d'.status = d.status
  keepAliveAt : d'.keepAliveAt = d.keepAliveAt

variable {d d' : Driver env}

theorem Untouched.trans {d'' : Driver env} (h : Untouched d d') (h' : Untouched d' d'') :
    Untouched d d'' where
  inFlight := h.inFlight.trans h'.inFlight
  status := h'.status.trans h.status
  keepAliveAt := h'.keepAliveAt.trans h.keepAliveAt

theorem deliver_untouched (d : Driver env) (waiter : Completion) (reply : Reply) :
    Untouched d (d.deliver waiter reply) := by
  rw [deliver_eq_logs]
  exact ⟨List.prefix_refl _, rfl, rfl⟩

/-- A launch touches no other exchange when sends succeed. -/
theorem launch_untouched (hsends : ∀ sends, env.sendResult sends = none) (d : Driver env)
    (request : Outbound) (completion : Completion) :
    Untouched d (d.launch request completion).1 := by
  have hlaunched := d.launch_launched request completion
  generalize d.launch request completion = launched at hlaunched
  cases hlaunched with
  | tracked => exact ⟨List.prefix_append _ _, rfl, rfl⟩
  | unsendable | finished => exact ⟨List.prefix_refl _, rfl, rfl⟩
  | broken _ _ _ _ _ _ hrefused => exact absurd (hsends _) hrefused

/-- **Sending the next requests touches no exchange in flight** when sends succeed. -/
theorem Sends.untouched (hsends : ∀ sends, env.sendResult sends = none) (h : Sends d d') :
    Untouched d d' := by
  induction h with
  | settled d _ => exact ⟨List.prefix_refl _, rfl, rfl⟩
  | tracked d d' request completion queued _ _ _ hlaunch =>
    have huntouched := launch_untouched hsends { d with queued } request completion
    rw [hlaunch] at huntouched
    exact { huntouched with }
  | next d d' d'' request completion queued outcome _ _ _ hlaunch _ ih =>
    have huntouched := launch_untouched hsends { d with queued } request completion
    rw [hlaunch] at huntouched
    have huntouched : Untouched d d' := { huntouched with }
    exact (huntouched.trans (d'.deliver_untouched completion (.exchange outcome))).trans ih

/-! ## §3. Routed messages. -/

/-- Completing an exchange touches no other one, unless it ends the session. -/
theorem complete_inFlight (hqueueing : d.Queueing) (completion : Completion)
    (outcome : Except Error (Option CoapMessage)) :
    (d.complete completion outcome).isClosed = true ∨
      d.inFlight <+: (d.complete completion outcome).inFlight := by
  obtain ⟨actions, hfills, -⟩ := complete_fills hqueueing completion outcome
  refine hfills.table.imp_right ?_
  rintro ⟨started, htable, -⟩
  exact ⟨started, htable.symm⟩

variable {message : CoapMessage} {proxied : Bool}

/-- The exchanges by the other route stay when one is acknowledged. -/
theorem acknowledge_other (h : d.acknowledge message proxied = some d') :
    d'.inFlight.filter (Pending.comesBy !proxied) = d.inFlight.filter (Pending.comesBy !proxied) ∧
      d'.status = d.status ∧ d'.keepAliveAt = d.keepAliveAt := by
  obtain ⟨before, p, after, hflight, hmatches, rfl⟩ := acknowledge_eq h
  have hroute : p.isProxied = proxied := by
    unfold Pending.isAcknowledgedBy at hmatches
    exact of_decide_eq_true (Bool.and_eq_true_iff.mp hmatches).1
  have htouched : ({ p with retryAt := none } : Pending).isProxied = proxied := hroute
  refine ⟨?_, rfl, rfl⟩
  rw [hflight, List.filter_append, List.filter_append,
    List.filter_cons_of_neg (Pending.not_comesBy hroute),
    List.filter_cons_of_neg (Pending.not_comesBy htouched)]

/-- The exchanges by the other route stay when one is answered. -/
theorem takeAnswered_other {pending : Pending}
    (h : d.takeAnswered message proxied = some (pending, d')) :
    pending ∈ d.inFlight ∧ pending.isProxied = proxied ∧
      d'.inFlight.filter (Pending.comesBy !proxied) =
        d.inFlight.filter (Pending.comesBy !proxied) := by
  obtain ⟨hfind, hd'⟩ := takeAnswered_eq h
  obtain ⟨before, after, hflight, herase, hmatches, -⟩ := split_at_first hfind
  have hroute : pending.isProxied = proxied := by
    unfold Pending.isAnsweredBy at hmatches
    exact of_decide_eq_true (Bool.and_eq_true_iff.mp hmatches).1
  refine ⟨List.mem_of_find?_eq_some hfind, hroute, ?_⟩
  have hremoved : d'.inFlight = before ++ after := by
    rw [hd']
    exact herase
  rw [hremoved, hflight, List.filter_append, List.filter_append,
    List.filter_cons_of_neg (Pending.not_comesBy hroute)]

theorem transportFailed_isClosed (d : Driver env) (error : Text) :
    (d.transportFailed error).isClosed = true :=
  (endSession_moves d .empty (.transportFailed error)).2.1

/-- **A routed message leaves the exchanges by the other route in flight**, unless it ends the
    session. -/
theorem Routed.keeps (h : Routed message proxied d d') (hcontrol : Controlled (d.core .empty)) :
    d'.isClosed = true ∨ (d.inFlight.filter (Pending.comesBy !proxied)).Sublist d'.inFlight := by
  cases h with
  | quiet _ hquiet =>
    rw [hquiet.inFlight]
    exact Or.inr List.filter_sublist
  | broken d₁ error _ _ => exact Or.inl (d₁.transportFailed_isClosed error)
  | acknowledged d₁ _ hquiet hack =>
    rw [← hquiet.inFlight, ← (acknowledge_other hack).1]
    exact Or.inr List.filter_sublist
  | answered d₁ d₂ d₃ pending hquiet htake hquiet₃ _ =>
    have hmoves : Moves (d.core .empty) (d₃.core (.held pending.completion)) :=
      ((hquiet.moves .empty).trans (takeAnswered_moves htake).1).trans (hquiet₃.moves _)
    have hqueueing := queueing_of_controlled
      (hmoves.invariant (fun _ _ => Controlled.step) hcontrol)
    refine (complete_inFlight hqueueing pending.completion (outcomeOf message)).imp_right ?_
    intro hkept
    rw [← hquiet.inFlight, ← (takeAnswered_other htake).2.2, ← hquiet₃.inFlight]
    exact List.filter_sublist.trans hkept.sublist
  | lost d₁ d₂ d₃ pending error _ _ _ _ _ => exact Or.inl (d₃.transportFailed_isClosed error)

/-- **A proxied message leaves the session alone**, when sends succeed. -/
theorem Routed.session (h : Routed message true d d') (hcontrol : Controlled (d.core .empty))
    (haddressed : Addressed (d.core .empty))
    (hsends : ∀ sends, env.sendResult sends = none) :
    (d.inFlight.filter (Pending.comesBy false)).Sublist d'.inFlight ∧ d'.status = d.status ∧
      d'.keepAliveAt = d.keepAliveAt := by
  have hworks : ¬∃ sends, env.sendResult sends ≠ none := by
    rintro ⟨sends, hfails⟩
    exact hfails (hsends sends)
  cases h with
  | quiet _ hquiet =>
    rw [hquiet.inFlight]
    exact ⟨List.filter_sublist, hquiet.status, hquiet.keepAliveAt⟩
  | broken _ _ _ hfailed => exact absurd (hfailed rfl) hworks
  | acknowledged d₁ _ hquiet hack =>
    obtain ⟨hother, hstatus, hat⟩ := acknowledge_other hack
    rw [← hquiet.inFlight, ← hquiet.status, ← hquiet.keepAliveAt]
    exact ⟨hother ▸ List.filter_sublist, hstatus, hat⟩
  | answered d₁ d₂ d₃ pending hquiet htake hquiet₃ _ =>
    obtain ⟨hmem, hproxied, hother⟩ := takeAnswered_other htake
    have hother : d₂.inFlight.filter (Pending.comesBy false) =
        d₁.inFlight.filter (Pending.comesBy false) := hother
    have hd₂ := (takeAnswered_eq htake).2
    rw [hquiet.inFlight] at hmem
    -- only a handle's request is proxied
    obtain ⟨id, channel, hcaller⟩ : ∃ id channel, pending.completion = .caller id channel := by
      have happlication := haddressed.proxied pending hmem hproxied
      cases hcompletion : pending.completion with
      | caller id channel => exact ⟨id, channel, rfl⟩
      | _ =>
        rw [hcompletion] at happlication
        cases happlication
    have hmoves : Moves (d.core .empty) (d₃.core (.held pending.completion)) :=
      ((hquiet.moves .empty).trans (takeAnswered_moves htake).1).trans (hquiet₃.moves _)
    have hqueueing := queueing_of_controlled
      (hmoves.invariant (fun _ _ => Controlled.step) hcontrol)
    have huntouched := (d₃.deliver_untouched (.caller id channel) _).trans
      ((complete_caller hqueueing id channel (outcomeOf message)).untouched hsends)
    rw [hcaller]
    refine ⟨?_, ?_, ?_⟩
    · rw [← hquiet.inFlight, ← hother, ← hquiet₃.inFlight]
      exact List.filter_sublist.trans huntouched.inFlight.sublist
    · rw [huntouched.status, hquiet₃.status, hd₂]
      exact hquiet.status
    · rw [huntouched.keepAliveAt, hquiet₃.keepAliveAt, hd₂]
      exact hquiet.keepAliveAt
  | lost _ _ _ _ _ _ _ _ _ hresult => exact absurd ⟨_, hresult⟩ hworks

/-! ## §4. Runs. -/

theorem run_addressed (rng : env.crypto.Rng) (wakes : List (Wake env)) :
    Addressed (((Driver.new rng).run wakes).core .empty) := by
  have hnew : Addressed ((Driver.new rng).core .empty) := ⟨List.nodup_nil, List.forall_mem_nil _⟩
  exact (run_invariant (fun _ _ => Addressed.step) (fun _ _ _ => Addressed.intake) (new_sound rng)
    ⟨(new_sound rng).control, hnew⟩ wakes).2.2

/-- A received datagram is handled while a DTLS session is open. -/
theorem step_received (hopen : d.isClosed = false) (plaintext : Bytes) :
    d.step (.received (.ok plaintext)) = if d.linkOpen then d.handleDatagram plaintext else d := by
  rw [step, hopen, enabled]
  cases d.linkOpen <;> rfl

end Driver

/-- Whether a datagram is a UDP_RX message. -/
def isUdpRx (plaintext : Bytes) : Bool :=
  match CoapMessage.decode plaintext with
  | .error _ => false
  | .ok message =>
    match message.uriPath with
    | .error _ => false
    | .ok path => path = some Uri.UDP_RX

theorem parseUdpRx_isSome {message : CoapMessage} {parsed : Option UdpRx}
    (h : parseUdpRx message = .ok parsed) :
    ∃ path, message.uriPath = .ok path ∧ parsed.isSome = decide (path = some Uri.UDP_RX) := by
  obtain ⟨path, hpath, h⟩ := bind_eq_ok.mp h
  refine ⟨path, hpath, ?_⟩
  split at h
  · rename_i hother
    cases h
    exact (decide_eq_false hother).symm
  rename_i hudpRx
  rw [decide_eq_true (not_not.mp hudpRx)]
  obtain ⟨tlvs, -, h⟩ := bind_eq_ok.mp h
  obtain ⟨address, -, h⟩ := bind_eq_ok.mp h
  split at h
  · cases h
  obtain ⟨encapsulation, -, h⟩ := bind_eq_ok.mp h
  split at h
  · cases h
    rfl
  · cases h

/-- The message of a UDP_RX datagram came through the proxy, and no other did. -/
theorem proxied_of_carried {plaintext : Bytes} {message : CoapMessage} {proxied : Bool}
    (h : Driver.carried plaintext = some (message, proxied)) : proxied = isUdpRx plaintext := by
  unfold Driver.carried at h
  unfold isUdpRx
  cases hdecode : CoapMessage.decode plaintext with
  | error error =>
    rw [hdecode] at h
    cases h
  | ok outer =>
    rw [hdecode] at h
    dsimp only at h ⊢
    cases hparse : parseUdpRx outer with
    | error error =>
      rw [hparse] at h
      cases h
    | ok parsed =>
      obtain ⟨path, hpath, hsome⟩ := parseUdpRx_isSome hparse
      rw [hparse] at h
      rw [hpath]
      show proxied = decide (path = some Uri.UDP_RX)
      rw [← hsome]
      cases parsed with
      | none =>
        cases h
        rfl
      | some udpRx =>
        dsimp only at h
        split at h
        · cases h
        · split at h
          · cases h
          · cases h
            rfl

namespace Driver

variable {env : Env}

/-- A received datagram changes nothing, or the message it carries is routed. -/
theorem step_received_carried {d : Driver env} (h : Sound d) (plaintext : Bytes) :
    d.step (.received (.ok plaintext)) = d ∨
      ∃ message proxied, carried plaintext = some (message, proxied) ∧
        Routed message proxied d (d.step (.received (.ok plaintext))) := by
  cases hclosed : d.isClosed with
  | true =>
    refine Or.inl ?_
    rw [step, hclosed]
    rfl
  | false =>
    rw [step_received hclosed]
    cases hlink : d.linkOpen with
    | false => exact Or.inl rfl
    | true =>
      have hrouted := handleDatagram_routed plaintext h.record.plain hlink hclosed
      cases hcarried : carried plaintext with
      | none =>
        rw [hcarried] at hrouted
        exact Or.inl hrouted
      | some carried =>
        rw [hcarried] at hrouted
        exact Or.inr ⟨_, _, rfl, hrouted⟩

theorem step_received_routed {d : Driver env} (h : Sound d) (plaintext : Bytes) :
    d.step (.received (.ok plaintext)) = d ∨ ∃ message,
      Routed message (isUdpRx plaintext) d (d.step (.received (.ok plaintext))) := by
  refine (step_received_carried h plaintext).imp_right ?_
  rintro ⟨message, proxied, hcarried, hrouted⟩
  rw [← proxied_of_carried hcarried]
  exact ⟨message, hrouted⟩

/-- **Mesh devices and the border agent do not answer for each other.**  In every state that a
    run reaches: while sends succeed, a UDP_RX message, whatever it carries, leaves the exchanges
    with the border agent, the status and the keep-alive timer as they are; any other datagram
    leaves the proxied exchanges in flight, unless it ends the session; and the tokens in flight
    are distinct, so that a response matches one exchange at most. -/
theorem mesh_devices_isolated (rng : env.crypto.Rng) (wakes : List (Wake env)) :
    let d := (Driver.new rng).run wakes
    (∀ plaintext, isUdpRx plaintext = true → (∀ sends, env.sendResult sends = none) →
      let d' := d.step (.received (.ok plaintext))
      (d.inFlight.filter (fun pending => pending.destination = .borderAgent)).Sublist d'.inFlight ∧
        d'.status = d.status ∧ d'.keepAliveAt = d.keepAliveAt) ∧
    (∀ plaintext, isUdpRx plaintext = false →
      let d' := d.step (.received (.ok plaintext))
      d'.isClosed = true ∨ (d.inFlight.filter Pending.isProxied).Sublist d'.inFlight) ∧
    (d.inFlight.map (fun pending => pending.request.token)).Nodup ∧
    ∀ (message : CoapMessage) (proxied : Bool), message.ty ≠ .reset →
      d.inFlight.countP (Pending.isAnsweredBy message proxied) ≤ 1 := by
  have hsound := run_sound rng wakes
  have haddressed := run_addressed rng wakes
  generalize (Driver.new rng).run wakes = d at hsound haddressed
  dsimp only
  refine ⟨?_, ?_, haddressed.tokens, ?_⟩
  · intro plaintext hudpRx hsends
    have hroute : (fun pending : Pending => decide (pending.destination = .borderAgent)) =
        Pending.comesBy false := by
      funext pending
      unfold Pending.comesBy Pending.isProxied
      cases pending.destination <;> rfl
    rw [hroute]
    rcases step_received_routed hsound plaintext with hsame | ⟨message, hrouted⟩
    · rw [hsame]
      exact ⟨List.filter_sublist, rfl, rfl⟩
    · rw [hudpRx] at hrouted
      exact hrouted.session hsound.control haddressed hsends
  · intro plaintext hudpRx
    have hroute : Pending.isProxied = Pending.comesBy true := by
      funext pending
      unfold Pending.comesBy
      cases pending.isProxied <;> rfl
    rw [hroute]
    rcases step_received_routed hsound plaintext with hsame | ⟨message, hrouted⟩
    · rw [hsame]
      exact Or.inr List.filter_sublist
    · rw [hudpRx] at hrouted
      exact hrouted.keeps hsound.control
  · intro message proxied hreset
    have htoken : ∀ pending : Pending, pending.isAnsweredBy message proxied = true →
        pending.request.token = message.token := by
      intro pending hmatches
      simp only [Pending.isAnsweredBy, CoapMessage.isResetFor, hreset, decide_false,
        Bool.false_and, Bool.false_or, Bool.and_eq_true, decide_eq_true_eq] at hmatches
      exact hmatches.2.2.symm
    exact haddressed.countP_token_le htoken

/-- A UDP_RX message whose inner message has the token of a request to the border agent. -/
def forgedAnswer : Bytes :=
  [0x50, 0x02, 0x00, 0x00, 0xb1, 0x63, 0x02, 0x75, 0x72, 0xff] ++
    [49, 16] ++ List.replicate 16 0xfd ++
    [48, 12, 0xf0, 0xbf, 0xf0, 0xbf] ++ [0x64, 0x44, 0x00, 0x01, 0x00, 0x00, 0x00, 0x00]

/-- The forged answer is routed as a proxied message and leaves the request in flight. -/
theorem mesh_devices_isolated_forged :
    let d : Driver (Env.transparent (fun _ => none)) :=
      (Driver.new ()).run [.command (.exchange 7 .bare)]
    d.tokens = [[0, 0, 0, 0]] ∧ (carried forgedAnswer).isSome = true ∧
      (d.inFlight.filter (fun pending => pending.destination = .borderAgent)).Sublist
        (d.step (.received (.ok forgedAnswer))).inFlight := by
  intro d
  refine ⟨by decide +kernel, by decide +kernel, ?_⟩
  have hisolated := @mesh_devices_isolated (Env.transparent (fun _ => none)) ()
    [.command (.exchange 7 .bare)]
  exact (hisolated.1 forgedAnswer (by decide +kernel) (fun _ => rfl)).1

end Driver

end Meshcop
