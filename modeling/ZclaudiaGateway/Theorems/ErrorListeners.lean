import ZclaudiaGateway.Lemmas.ChannelLife
import ZclaudiaGateway.Lemmas.RelayRun
import ZclaudiaGateway.Lemmas.Sample

/-!
# Error listeners

An `error` event of a socket without a listener for it ends the process. Control connections that are admitted, relayed legs and
bridged legs listen. What does not is a control connection that is refused, and a leg that waits for the other end of its channel:
it is held, but what its last read left over is parsed as its connection closes.
-/

namespace ZclaudiaGateway

namespace Gateway

variable {Γ : Ctx} {e : Event} {s t u : Gateway}

/-- A socket that may still parse inbound bytes listens for errors. -/
def Guarded (s : Gateway) : Prop :=
  ∀ ws k, s.net.sockets.get ws = some k → k.parses = true → k.errorListener = true

/-- The event attaches its socket to a leg of the channel: a dial with the unexpired ticket of that leg. -/
def Attaches (Γ : Ctx) (s : Gateway) (e : Event) (ch : ChannelRecord) (role : ChannelRole) : Prop :=
  ∃ ip target url issued, e = .upgrade ip target true ∧ Γ.newURL target = some url ∧
    url.pathname.startsWith "/channel/" = true ∧ s.channelTickets.get (url.ticket.getD "") = some issued ∧
    (url.pathname.drop "/channel/".length).toString = issued.channelId ∧ s.now ≤ issued.expiresAt ∧
    s.channels.get issued.channelId = some ch ∧ issued.role = role

/-- The event refuses no control connection, and attaches no leg that has to wait: the gateway itself is the other end, or the
other leg is there. -/
structure Spares (Γ : Ctx) (s : Gateway) (e : Event) : Prop where
  connect : ∀ ip, e.Connects Γ ip → (s.wsConnectionsPerIp.get ip).getD 0 < MAX_WS_CONNECTIONS_PER_IP
  dial : ∀ ch role, s.Attaches Γ e ch role → ch.onBackendSocket.isSome ∨ (ch.leg role.other).isSome

/-! ## Sockets without listeners -/

/-- A socket that has no listener is closed. -/
def Heard (s : Gateway) : Prop :=
  ∀ ws k, s.net.sockets.get ws = some k → k.listener = .none → k.readyState = .closed

theorem Heard.guarded (h : s.Heard) (hL : s.Legs) : s.Guarded := by
  intro ws k hk hparses
  exact hL.listens ws k hk fun hl => of_decide_eq_true hparses (h ws k hk hl)

/-- The sockets without listeners that are not closed are some of those of before. -/
def Unheard (s t : Gateway) : Prop :=
  ∀ ws k', t.net.sockets.get ws = some k' → k'.listener = .none → k'.readyState ≠ .closed →
    ∃ k, s.net.sockets.get ws = some k ∧ k.listener = .none ∧ k.readyState ≠ .closed

theorem Unheard.trans (h : s.Unheard t) (h' : t.Unheard u) : s.Unheard u := by
  intro ws k'' hk'' hl hopen
  obtain ⟨k', hk', hl', hopen'⟩ := h' ws k'' hk'' hl hopen
  exact h ws k' hk' hl' hopen'

theorem Unheard.of_pointwise (h : s.net.sockets.Pointwise (fun k k' => k'.listener = .none → k'.readyState ≠ .closed →
    k.listener = .none ∧ k.readyState ≠ .closed) t.net.sockets) : s.Unheard t := by
  intro ws k' hk' hl hopen
  obtain ⟨k, hk, hk''⟩ := h.some_get hk'
  obtain ⟨hl0, hopen0⟩ := hk'' hl hopen
  exact ⟨k, hk, hl0, hopen0⟩

theorem Unheard.of_eq (h : t.net.sockets = s.net.sockets) : s.Unheard t :=
  .of_pointwise (h ▸ .refl (fun _ hl hopen => ⟨hl, hopen⟩) _)

theorem Heard.of_unheard (h : s.Heard) (ht : s.Unheard t) : t.Heard := by
  intro ws k' hk' hl
  by_contra hopen
  obtain ⟨k, hk, hl0, hopen0⟩ := ht ws k' hk' hl hopen
  exact hopen0 (h ws k hk hl0)

theorem Unheard.turns (h : s.DataTurns t) : s.Unheard t := by
  refine .of_pointwise (h.net.sockets.mono fun k k' hturn hl hopen => ?_)
  exact ⟨hturn.listener.none_iff.mp hl, fun hc => hopen (hturn.closed_of hc)⟩

/-- A leg that is torn down may wait on without a listener, but did so before. -/
theorem Unheard.teardown (reason : ChannelClosedReason) (channelId : String) (s : Gateway) :
    s.Unheard (s.teardownChannel reason channelId) := by
  rcases hc : s.channels.get channelId with _ | ch
  · rw [teardownChannel_of_none _ _ _ hc]
    exact .of_eq rfl
  · intro ws k' hk' hl hopen
    rw [teardownChannel_socket _ _ _ hc] at hk'
    split at hk'
    · obtain ⟨k, hk, rfl⟩ := Option.map_eq_some_iff.mp hk'
      refine ⟨k, hk, by rwa [WsSocket.torn_listener] at hl, fun hclosed => ?_⟩
      rw [WsSocket.torn, if_pos hclosed] at hopen
      exact hopen hclosed
    · exact ⟨k', hk', hl, hopen⟩

theorem Unheard.resume (ws : SocketId) (s : Gateway) : s.Unheard (s.onNet (Net.resume ws)) := by
  unfold onNet Net.resume
  split
  · exact .of_eq rfl
  · exact .of_pointwise (.modify (fun _ hl hopen => ⟨hl, hopen⟩) fun _ _ hl hopen => ⟨hl, hopen⟩)

/-- Only an upgrade makes a socket. -/
theorem DataStep.unheard (h : DataStep Γ e s t) (hno : ∀ ip target handshakeOk, e ≠ .upgrade ip target handshakeOk) :
    s.Unheard t := by
  cases h with
  | close h =>
    cases h with
    | turn h => exact .turns h
    | teardown reason channelId => exact .teardown _ _ _
  | dropTickets keep => exact .of_eq rfl
  | openChannel fresh peer backendPeer lease target kind =>
    refine .of_eq ?_
    unfold Gateway.openChannel
    simp
  | proxyViaChannel fresh hr epoch backendPeer =>
    refine .of_eq ?_
    unfold Gateway.proxyViaChannel
    split
    · rfl
    · exact Net.sendToWs_sockets _ _ _
  | connect fresh ip hact =>
    obtain ⟨target, url, rfl, -⟩ := hact
    exact absurd rfl (hno _ _ _)
  | dial fresh channelId ticket handshakeOk hact =>
    obtain ⟨ip, target, ok, url, rfl, -⟩ := hact
    exact absurd rfl (hno _ _ _)
  | responseHead hx hm meta_ => exact .of_eq (responseHead_speaks _ _ _ _).sockets
  | responseBody hx hm data => exact .of_eq (callResponse_speaks _ _ _).sockets
  | @bridgeClose ws k channelId ex hk hl hact =>
    unfold Gateway.bridgeClose
    split
    · exact .of_eq rfl
    · rename_i x _
      obtain ⟨-, -, hsockets, -⟩ := finishResponse_tables channelId ex x s
      exact (Unheard.of_eq hsockets).trans (.teardown _ _ _)
  | responseClose ex =>
    unfold Gateway.responseClose
    split
    · exact .of_eq rfl
    · split
      · exact .of_eq rfl
      · refine Unheard.trans (.of_eq ?_) (.teardown _ _ _)
        rfl
  | responseDrain ex =>
    unfold Gateway.responseDrain
    split
    · rename_i ws _ _ _ _ _ _
      split
      · have hdrained : s.Unheard (s.onNet (Net.modifyExchange ex (fun x => { x with responseDrains := 0 }))) := .of_eq rfl
        exact hdrained.trans (.resume ws _)
      · exact .of_eq rfl
    · exact .of_eq rfl
  | clock hact => exact .of_eq rfl
  | relay h hact =>
    refine .of_pointwise (h.sockets (fun k hl hopen => ⟨hl, hopen⟩) ?_)
    intro k leg leg' paused _ _ hl
    cases hl

/-! ## One event -/

/-- A control connection that learns its session has a listener. -/
theorem Unheard.authenticate (h : s.Unheard t) (ws : SocketId) (p : Option String) : s.Unheard (authenticated ws p t) := by
  refine h.trans (.of_pointwise (.modify (fun k hl hopen => ⟨hl, hopen⟩) fun k _ => ?_))
  rcases hk : k.listener with _ | conn | leg | ⟨channelId, ex⟩
  · exact fun _ hopen => ⟨rfl, hopen⟩
  · intro hl
    cases hl
  · exact fun hl => absurd (hk.symm.trans hl) (by simp)
  · exact fun hl => absurd (hk.symm.trans hl) (by simp)

/-- A dial that is no handshake is refused. -/
theorem handleChannelUpgrade_refused (channelId : String) (ticket : Option String) (s : Gateway) :
    s.handleChannelUpgrade channelId ticket false = (s.consumeTicket (ticket.getD "")).onNet (Net.emit .refused) := by
  unfold handleChannelUpgrade
  dsimp only
  split
  · rfl
  · split <;> rfl

/-- A leg that is dialed is wired, unless it has to wait. -/
theorem Heard.dial (h : s.Heard) (hA : s.Admission) (hL : s.Legs) (fresh : s.Fresh Γ) (channelId : String)
    (ticket : Option String) (handshakeOk : Bool)
    (hwired : ∀ issued ch, handshakeOk = true → s.channelTickets.get (ticket.getD "") = some issued → channelId = issued.channelId →
      s.now ≤ issued.expiresAt → s.channels.get issued.channelId = some ch →
        ch.onBackendSocket.isSome ∨ (ch.leg issued.role.other).isSome) :
    (s.handleChannelUpgrade channelId ticket handshakeOk).Heard := by
  have hlegs := hL.dial hA fresh channelId ticket handshakeOk
  have hadmission := hA.dial channelId ticket handshakeOk
  by_cases hok : handshakeOk = true
  case neg =>
    rw [Bool.not_eq_true] at hok
    rw [hok, handleChannelUpgrade_refused]
    exact h
  rcases handleChannelUpgrade_cases s channelId ticket handshakeOk with he | ⟨issued, ch, ht, rfl, hc, hnow, he⟩
  · rw [he]
    exact h
  · rw [he] at hlegs hadmission ⊢
    obtain ⟨hp, hfree, hrole⟩ := hA.not_piped ht hc
    have hfresh : (s.consumeTicket (ticket.getD "")).Fresh Γ := FreshUpTo.consumeTicket fresh _
    have hconsumed : (s.consumeTicket (ticket.getD "")).Legs :=
      hL.keeps (fun _ => rfl) (.refl WsSocket.Keeps.refl _) (.refl HttpExchange.SameBridge.refl _)
    have hchannel := attachLeg_channel issued.channelId issued.role (s.consumeTicket (ticket.getD "")) hc issued.channelId
    rw [if_pos rfl] at hchannel
    intro ws k' hk' hl
    rcases attachLeg_socket hconsumed hfresh hc hp hfree hk' with ⟨rfl, -, -⟩ | ⟨k, hk, -, hsame⟩
    · -- The channel has all its legs now, so they are wired.
      have hready : (ch.dialed issued.role s.drawn).ready = true := by
        rw [ChannelRecord.dialed_ready, ChannelRecord.ready]
        rcases hwired issued ch hok ht rfl hnow hc with hint | hother
        · rw [hrole hint]
          simp [setLegSocket, hint]
        · cases hr : issued.role with
          | client =>
            rw [hr] at hother
            have hb : ch.backendSocket.isSome = true := hother
            simp [setLegSocket, hb]
          | backend =>
            rw [hr] at hother
            have hclient : ch.clientSocket.isSome = true := hother
            simp [setLegSocket, hclient]
      have hpiped := (hadmission.piped _ _ hchannel).trans hready
      obtain ⟨k0, hk0, hwires⟩ := hlegs.leg issued.channelId _ issued.role s.drawn hchannel
        (by rw [ChannelRecord.dialed_leg, if_pos rfl]; rfl)
      obtain rfl := Option.some.inj (hk0.symm.trans hk')
      rw [ChannelRecord.Wires, if_pos hpiped] at hwires
      split at hwires
      · exact absurd (hl.symm.trans hwires) (by simp)
      · obtain ⟨leg, hleg, -⟩ := hwires
        exact absurd (hl.symm.trans hleg) (by simp)
    · obtain rfl := hsame.unheard hl
      exact h ws k' hk hl

/-- A control connection that is admitted listens. -/
theorem Heard.connect (h : s.Heard) {ip : String} (hroom : (s.wsConnectionsPerIp.get ip).getD 0 < MAX_WS_CONNECTIONS_PER_IP) :
    (s.controlConnection ip).Heard := by
  intro ws k' hk' hl
  unfold controlConnection at hk'
  dsimp only at hk'
  rw [if_neg (by omega)] at hk'
  rcases InsertionMap.get_set_eq_some.mp hk' with ⟨-, rfl⟩ | ⟨-, hk'⟩
  · cases hl
  · exact h ws k' hk' hl

theorem handle_heard (h : s.Heard) (hA : s.Admission) (hL : s.Legs) (fresh : s.Fresh Γ) (hspares : s.Spares Γ e) :
    (s.handle Γ e).Heard := by
  by_cases hupgrade : ∃ ip target handshakeOk, e = .upgrade ip target handshakeOk
  · obtain ⟨ip, target, handshakeOk, rfl⟩ := hupgrade
    change (s.upgrade Γ ip target handshakeOk).Heard
    unfold upgrade
    split
    · exact h
    · rename_i url hurl
      split
      · rename_i hpath
        split
        · rename_i hok
          exact h.connect (hspares.connect ip ⟨target, url, hok ▸ rfl, hurl, hpath⟩)
        · exact h
      · split
        · rename_i hpath
          refine h.dial hA hL fresh _ _ _ fun issued ch hok ht hid hnow hc => ?_
          exact hspares.dial ch issued.role ⟨ip, target, url, issued, hok ▸ rfl, hurl, hpath, ht, hid, hnow, hc, rfl⟩
        · exact h
  · have hno (ip target : String) (handshakeOk : Bool) : e ≠ .upgrade ip target handshakeOk :=
      fun he => hupgrade ⟨ip, target, handshakeOk, he⟩
    exact h.of_unheard (handle_preserves (I := fun t => s.Unheard t) e (fun t u hstep ht => ht.trans (hstep.unheard hno))
      (fun t ws p ht => ht.authenticate ws p) fresh (.of_eq rfl))

theorem step_heard (h : s.Heard) (hA : s.Admission) (hL : s.Legs) (fresh : s.Fresh Γ) (hspares : s.Spares Γ e) :
    (s.step Γ e).Heard := by
  have hquiet : s.quiet.Heard := h.of_unheard (.turns (quiet_turns s))
  rcases hrun : s.uncaught with _ | error
  · rw [step_running hrun]
    exact handle_heard (s := s.quiet) hquiet (hA.turns (quiet_turns s)) (hL.turns (quiet_turns s)) (fresh.turns (quiet_turns s))
      ⟨hspares.connect, hspares.dial⟩
  · rw [step_stopped hrun]
    exact hquiet

end Gateway

/-- In a run that refuses no control connection and attaches no leg that has to wait, every socket that may still parse inbound
bytes listens for errors. -/
theorem sockets_guarded {Γ : Ctx} {storage : Storage} {es : List Event}
    (h : (gateway Γ storage).Meets (Gateway.Spares Γ) es) : ((gateway Γ storage).run es).Guarded := by
  have hheard : ((gateway Γ storage).run es).Heard :=
    EventMachine.Meets.invariant (I := fun s => s.Heard) (J := fun s => s.Admission ∧ s.Legs ∧ s.Fresh Γ)
      (fun es => ⟨(channels_run es).1, (channels_run es).2, fresh_run es⟩) (fun _ _ hk => (nomatch hk))
      (fun s e hI hs hspares => Gateway.step_heard hs hI.1 hI.2.1 hI.2.2 hspares) es h
  exact hheard.guarded (channels_run es).2

/-- A request to the proxy whose backend has dialed its channel. -/
def sampleBridged : List Event :=
  [.connect, .text 0 (sampleHello "zgb_old" true), .proxy sampleRequest (some "Bearer zgd_device"),
    .upgrade "127.0.0.1" "/channel/ccc?ticket=tttttt" true]

theorem sockets_guarded_sample : ((gateway (Ctx.sample [sampleHello "zgb_old" true]) sampleStorage).run sampleBridged).Guarded := by
  refine sockets_guarded (EventMachine.meets_iff_take.mpr fun i hi => ?_)
  match i, hi with
  | 0, _ => exact ⟨fun _ _ => (by decide : 0 < MAX_WS_CONNECTIONS_PER_IP), fun _ _ ⟨_, _, _, _, _, _, _, ht, _⟩ => (nomatch ht)⟩
  | 1, _ => exact ⟨fun _ ⟨_, _, he, _⟩ => (nomatch he), fun _ _ ⟨_, _, _, _, he, _⟩ => (nomatch he)⟩
  | 2, _ => exact ⟨fun _ ⟨_, _, he, _⟩ => (nomatch he), fun _ _ ⟨_, _, _, _, he, _⟩ => (nomatch he)⟩
  | 3, _ =>
    refine ⟨fun ip ⟨target, url, he, hurl, hpath⟩ => ?_, fun ch role ⟨ip, target, url, issued, he, hurl, _, ht, _, _, hc, _⟩ => ?_⟩
    · cases he
      cases hurl
      exact absurd hpath (by decide)
    · cases he
      cases hurl
      have hinternal : ((((gateway (Ctx.sample [sampleHello "zgb_old" true]) sampleStorage).run
          (sampleBridged.take 3)).channelTickets.get "tttttt").bind fun issued =>
            ((gateway (Ctx.sample [sampleHello "zgb_old" true]) sampleStorage).run (sampleBridged.take 3)).channels.get
              issued.channelId).all (fun ch => ch.onBackendSocket.isSome) = true := by decide +kernel
      have hissued : ((gateway (Ctx.sample [sampleHello "zgb_old" true]) sampleStorage).run
          (sampleBridged.take 3)).channelTickets.get "tttttt" = some issued := ht
      rw [hissued, Option.bind_some, hc, Option.all_some] at hinternal
      exact Or.inl hinternal

/-- A control connection that is refused reads on, and the connection of a leg that waits may end on a malformed frame: either way
the process ends. -/
theorem waiting_leg_unguarded :
    (¬ ∀ (Γ : Ctx) (storage : Storage) es, ((gateway Γ storage).run es).Guarded) ∧
      ((gateway (Ctx.sample []) sampleStorage).run (List.replicate 11 .connect ++ [.socketError 10])).uncaught =
        some .unhandledErrorEvent ∧
      ((gateway sampleRateCtx sampleStorage).run (samplePaired.take 6 ++ [.socketError 5])).uncaught =
        some .unhandledErrorEvent := by
  refine ⟨fun h => ?_, by decide +kernel, by decide +kernel⟩
  have hguarded := h (Ctx.sample []) sampleStorage (List.replicate 11 .connect) 10
    { readyState := .closing, paused := false, errorListener := false, listener := .none, replacedGrace := false }
    (by decide +kernel) (by decide)
  cases hguarded

end ZclaudiaGateway
