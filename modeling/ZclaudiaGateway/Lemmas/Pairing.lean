import ZclaudiaGateway.Lemmas.RelayRun

/-!
# The lives of the sockets

A socket gets what it is for once: a leg that waits for its pair, held, is wired to the other leg or to an exchange, and after
that it stays with it. Two sockets that are wired to each other had no pair before, so that neither has carried a frame.
-/

namespace ZclaudiaGateway

/-- What the events do to a socket: it keeps what it is for, or it is held and is wired. -/
structure WsSocket.Lives (k k' : WsSocket) : Prop where
  opens : k'.readyState = .open_ → k.readyState = .open_
  held : k'.listener = .none → k'.paused = true → k.listener = .none ∧ k.paused = true
  listener : k.listener.SameLeg k'.listener ∨ k.listener = .none ∧ k'.listener.channel? ≠ none

theorem Listener.SameLeg.trans {l l' l'' : Listener} (h : l.SameLeg l') (h' : l'.SameLeg l'') : l.SameLeg l'' := by
  cases l <;> cases l' <;> cases l'' <;> simp_all [Listener.SameLeg]

theorem WsSocket.Keeps.lives {k k' : WsSocket} (h : k.Keeps k') : k.Lives k' := by
  refine ⟨h.opens, fun hl hp => ?_, Or.inl h.listener⟩
  have hnone := h.listener.none_iff.mp hl
  exact ⟨hnone, (h.held hnone).symm.trans hp⟩

theorem WsSocket.Lives.refl (k : WsSocket) : k.Lives k := (WsSocket.Keeps.refl k).lives

theorem WsSocket.Lives.trans {k k' k'' : WsSocket} (h : k.Lives k') (h' : k'.Lives k'') : k.Lives k'' := by
  refine ⟨fun ho => h.opens (h'.opens ho), fun hl hp => ?_, ?_⟩
  · obtain ⟨hl', hp'⟩ := h'.held hl hp
    exact h.held hl' hp'
  · rcases h.listener with hsame | ⟨hnone, hdata⟩
    · rcases h'.listener with hsame' | ⟨hnone', hdata'⟩
      · exact Or.inl (hsame.trans hsame')
      · exact Or.inr ⟨hsame.none_iff.mp hnone', hdata'⟩
    · refine Or.inr ⟨hnone, ?_⟩
      rcases h'.listener with hsame' | ⟨hnone', -⟩
      · rwa [hsame'.channel?_eq]
      · rw [hnone'] at hdata
        exact absurd rfl hdata

/-- A socket that relays relays on. -/
theorem WsSocket.Lives.relay {k k' : WsSocket} (h : k.Lives k') {leg : RelayLeg} (hl : k.listener = .relay leg) :
    ∃ leg', k'.listener = .relay leg' ∧ leg'.dst = leg.dst := by
  rcases h.listener with hsame | ⟨hnone, -⟩
  · rw [hl] at hsame
    obtain ⟨leg', hl', -, hdst⟩ := hsame.relay
    exact ⟨leg', hl', hdst⟩
  · rw [hl] at hnone
    cases hnone

theorem WsSocket.Lives.torn (k : WsSocket) : k.Lives k.torn := by
  have hlistener : k.listener.SameLeg k.torn.listener := by
    rw [torn_listener]
    exact (WsSocket.Keeps.refl k).listener
  refine ⟨fun ho => absurd ho k.torn_readyState, fun hl hp => ?_, Or.inl hlistener⟩
  rw [torn_listener] at hl
  refine ⟨hl, ?_⟩
  unfold WsSocket.torn at hp
  split at hp
  · exact hp
  · cases hp

namespace Gateway

variable {Γ : Ctx} {e : Event} {s t u : Gateway}

/-- Nothing has been wired to the socket yet, and it reads nothing. -/
def Unpaired (s : Gateway) (d : SocketId) : Prop :=
  ∀ k, s.net.sockets.get d = some k → k.listener = .none ∧ k.paused = true

/-- What the events do to the sockets. -/
structure Pairs (s t : Gateway) : Prop where
  forth : ∀ d k, s.net.sockets.get d = some k → ∃ k', t.net.sockets.get d = some k' ∧ k.Lives k'
  relay : ∀ w k' leg, t.net.sockets.get w = some k' → k'.listener = .relay leg →
    (∃ k leg0, s.net.sockets.get w = some k ∧ k.listener = .relay leg0 ∧ leg0.dst = leg.dst) ∨ s.Unpaired w ∧ s.Unpaired leg.dst

theorem Pairs.unpaired (h : s.Pairs t) {d : SocketId} (hd : t.Unpaired d) : s.Unpaired d := by
  intro k hk
  obtain ⟨k', hk', hlives⟩ := h.forth d k hk
  obtain ⟨hl, hp⟩ := hd k' hk'
  exact hlives.held hl hp

/-- A socket that is there and open was open before. -/
theorem Pairs.open_of (h : s.Pairs t) {d : SocketId} {k : WsSocket} (hk : s.net.sockets.get d = some k)
    (hopen : t.net.readyState d = .open_) : s.net.readyState d = .open_ := by
  obtain ⟨k', hk', hlives⟩ := h.forth d k hk
  rw [Net.readyState_eq hk'] at hopen
  rw [Net.readyState_eq hk]
  exact hlives.opens hopen

theorem Pairs.trans (h : s.Pairs t) (h' : t.Pairs u) : s.Pairs u := by
  refine ⟨fun d k hk => ?_, fun w k'' leg hk'' hl'' => ?_⟩
  · obtain ⟨k', hk', hlives⟩ := h.forth d k hk
    obtain ⟨k'', hk'', hlives'⟩ := h'.forth d k' hk'
    exact ⟨k'', hk'', hlives.trans hlives'⟩
  · rcases h'.relay w k'' leg hk'' hl'' with ⟨k', leg', hk', hl', hdst'⟩ | ⟨hw, hd⟩
    · rcases h.relay w k' leg' hk' hl' with ⟨k, leg0, hk, hl, hdst⟩ | ⟨hw, hd⟩
      · exact Or.inl ⟨k, leg0, hk, hl, hdst.trans hdst'⟩
      · exact Or.inr ⟨hw, hdst' ▸ hd⟩
    · exact Or.inr ⟨h.unpaired hw, h.unpaired hd⟩

/-- The same sockets, each for what it was for. -/
theorem Pairs.of_lives (h : s.net.sockets.Pointwise (fun k k' => k.Lives k' ∧ k.listener.SameLeg k'.listener) t.net.sockets) :
    s.Pairs t := by
  refine ⟨fun d k hk => ?_, fun w k' leg hk' hl' => Or.inl ?_⟩
  · obtain ⟨k', hk', hlives, -⟩ := h.get_some hk
    exact ⟨k', hk', hlives⟩
  · obtain ⟨k, hk, -, hsame⟩ := h.some_get hk'
    rw [hl'] at hsame
    obtain ⟨leg0, hl, -, hdst⟩ := hsame.of_relay
    exact ⟨k, leg0, hk, hl, hdst.symm⟩

theorem Pairs.of_keeps (h : s.net.sockets.Pointwise WsSocket.Keeps t.net.sockets) : s.Pairs t :=
  .of_lives (h.mono fun _ _ hk => ⟨hk.lives, hk.listener⟩)

theorem Pairs.of_eq (h : t.net.sockets = s.net.sockets) : s.Pairs t := by
  refine .of_keeps ?_
  rw [h]
  exact .refl WsSocket.Keeps.refl _

theorem Pairs.refl (s : Gateway) : s.Pairs s := .of_eq rfl

theorem Pairs.turns (h : s.DataTurns t) : s.Pairs t := .of_keeps (h.net.sockets.mono fun _ _ hk => hk.keeps)

theorem Pairs.teardown (reason : ChannelClosedReason) (channelId : String) (s : Gateway) :
    s.Pairs (s.teardownChannel reason channelId) := by
  rcases hc : s.channels.get channelId with _ | ch
  · rw [teardownChannel_of_none _ _ _ hc]
    exact .refl s
  · refine .of_lives fun ws => ?_
    rw [teardownChannel_socket reason s channelId hc]
    rcases s.net.sockets.get ws with _ | k
    · simp only [Option.map_none, ite_self]
      exact .none
    · split
      · refine .some ⟨.torn k, ?_⟩
        rw [WsSocket.torn_listener]
        exact (WsSocket.Keeps.refl k).listener
      · exact .some ⟨.refl k, (WsSocket.Keeps.refl k).listener⟩

theorem Pairs.close (h : CloseStep s t) : s.Pairs t := by
  cases h with
  | turn ht => exact .turns ht
  | teardown reason channelId => exact .teardown _ _ _

/-- The socket that a dial wires had no pair. -/
theorem attachLeg_unpaired (hL : s.Legs) (fresh : s.Fresh Γ) {channelId : String} {role : ChannelRole} {ch : ChannelRecord}
    (hc : s.channels.get channelId = some ch) (hp : ch.piped = false) (hlegs : (s.attachLeg channelId role).Legs)
    {w : SocketId} {k' : WsSocket} (hk' : (s.attachLeg channelId role).net.sockets.get w = some k')
    (hl : k'.listener.channel? = some channelId) : s.Unpaired w := by
  intro k hk
  rcases hlegs.carries w k' channelId hk' hl with ⟨ch', role', hc', hleg⟩ | ⟨hn, -⟩
  · rw [attachLeg_channel _ _ _ hc, if_pos rfl, Option.some.injEq] at hc'
    rw [← hc', ChannelRecord.dialed_leg] at hleg
    split at hleg
    · exact absurd (Option.some.inj hleg).symm (ne_of_lt (fresh.sockets w k hk))
    · obtain ⟨k0, hk0, hw⟩ := hL.leg channelId ch role' w hc hleg
      rw [ChannelRecord.Wires, hp] at hw
      obtain rfl := Option.some.inj (hk.symm.trans hk0)
      exact hw
  · rw [attachLeg_channel _ _ _ hc, if_pos rfl] at hn
    cases hn

theorem Pairs.attach (hL : s.Legs) (fresh : s.Fresh Γ) {channelId : String} {role : ChannelRole} {ch : ChannelRecord}
    (hc : s.channels.get channelId = some ch) (hp : ch.piped = false) (hfree : ch.leg role = none)
    (hlegs : (s.attachLeg channelId role).Legs) : s.Pairs (s.attachLeg channelId role) := by
  have hunpaired {w : SocketId} {k' : WsSocket} (hk' : (s.attachLeg channelId role).net.sockets.get w = some k')
      (hl : k'.listener.channel? = some channelId) : s.Unpaired w :=
    attachLeg_unpaired hL fresh hc hp hlegs hk' hl
  have hwired {w : SocketId} {k' : WsSocket} {leg : RelayLeg}
      (hk' : (s.attachLeg channelId role).net.sockets.get w = some k') (hl' : k'.listener = .relay leg)
      (hstart : ∃ dst, leg = .start channelId dst) : s.Unpaired w ∧ s.Unpaired leg.dst := by
    obtain ⟨dst, rfl⟩ := hstart
    obtain ⟨kd, legd, hkd, hld, hid⟩ := hlegs.pair w k' _ hk' hl'
    refine ⟨hunpaired hk' (by rw [hl']; rfl), hunpaired hkd ?_⟩
    rw [hld, Listener.channel?, hid]
    rfl
  refine ⟨fun d k hk => ?_, fun w k' leg hk' hl' => ?_⟩
  · obtain ⟨k', hk', hlistener⟩ := attachLeg_forth channelId role fresh hk
    refine ⟨k', hk', ?_⟩
    rcases attachLeg_socket hL fresh hc hp hfree hk' with ⟨hd, -⟩ | ⟨k0, hk0, hstate, hold⟩
    · exact absurd hd (ne_of_lt (fresh.sockets _ _ hk))
    · obtain rfl := Option.some.inj (hk.symm.trans hk0)
      refine ⟨fun ho => hstate ▸ ho, fun hl hpaused => ?_, ?_⟩
      · obtain rfl := hold.unheard hl
        exact ⟨hl, hpaused⟩
      · rcases hlistener with hsame | hdata
        · rw [hsame]
          exact Or.inl (WsSocket.Keeps.refl k).listener
        · exact Or.inr ⟨(hunpaired hk' hdata k hk).1, by simp [hdata]⟩
  · rcases attachLeg_socket hL fresh hc hp hfree hk' with ⟨-, -, hnew⟩ | ⟨k, hk, -, hold⟩
    · exact Or.inr (hwired hk' hl' (hnew leg hl'))
    · rcases hold.relay hl' with rfl | hstart
      · exact Or.inl ⟨k', leg, hk, hl', rfl⟩
      · exact Or.inr (hwired hk' hl' hstart)

theorem Pairs.dial (hA : s.Admission) (hL : s.Legs) (fresh : s.Fresh Γ) (channelId : String) (ticket : Option String)
    (handshakeOk : Bool) : s.Pairs (s.handleChannelUpgrade channelId ticket handshakeOk) := by
  have hlegs := hL.dial hA fresh channelId ticket handshakeOk
  rcases handleChannelUpgrade_cases s channelId ticket handshakeOk with he | ⟨found, ch, ht, rfl, hc, -, he⟩
  · rw [he]
    exact .of_eq rfl
  · rw [he] at hlegs ⊢
    obtain ⟨hp, hfree, -⟩ := hA.not_piped ht hc
    have hfresh : (s.consumeTicket (ticket.getD "")).Fresh Γ := FreshUpTo.consumeTicket fresh _
    have hconsumed : (s.consumeTicket (ticket.getD "")).Legs :=
      hL.keeps (fun _ => rfl) (.refl WsSocket.Keeps.refl _) (.refl HttpExchange.SameBridge.refl _)
    have hs : s.Pairs (s.consumeTicket (ticket.getD "")) := .of_eq rfl
    exact hs.trans (.attach hconsumed hfresh hc hp hfree hlegs)

/-- A control connection is for nothing else. -/
theorem Pairs.connect (fresh : s.Fresh Γ) (ip : String) : s.Pairs (s.controlConnection ip) := by
  obtain ⟨k0, hk0, hget⟩ := controlConnection_socket s ip
  refine ⟨fun d k hk => ⟨k, ?_, .refl k⟩, fun w k' leg hk' hl' => Or.inl ?_⟩
  · rw [hget, if_neg (ne_of_lt (fresh.sockets _ _ hk)), hk]
  · rw [hget] at hk'
    split at hk'
    · obtain rfl := Option.some.inj hk'
      rcases hk0 with ⟨-, -, -, hl⟩ | ⟨-, -, -, hl⟩
      · rw [hl] at hl'
        cases hl'
      · rw [hl] at hl'
        cases hl'
    · exact ⟨k', leg, hk', hl', rfl⟩

theorem DataStep.pairs (h : DataStep Γ e s t) (hA : s.Admission) (hL : s.Legs) : s.Pairs t := by
  cases h with
  | close h => exact .close h
  | dropTickets keep => exact .of_eq rfl
  | openChannel fresh peer backendPeer lease target kind => exact .of_eq (by simp [Gateway.openChannel])
  | proxyViaChannel fresh hr epoch backendPeer =>
    unfold Gateway.proxyViaChannel
    split
    · exact .of_eq rfl
    · exact .of_eq (Net.sendToWs_sockets _ _ _)
  | connect fresh ip hact => exact .connect fresh ip
  | dial fresh channelId ticket handshakeOk hact => exact .dial hA hL fresh _ _ _
  | responseHead hx hm meta_ => exact .of_eq (responseHead_speaks _ _ _ _).sockets
  | responseBody hx hm data => exact .of_eq (callResponse_speaks _ _ _).sockets
  | bridgeClose hk hl hact =>
    rename_i ws k channelId ex
    unfold Gateway.bridgeClose
    split
    · exact .refl s
    · rename_i x _
      have hfinish : s.Pairs (s.finishResponse channelId ex x) := .of_eq (finishResponse_tables channelId ex x s).2.2.1
      exact hfinish.trans (.teardown _ _ _)
  | responseClose ex =>
    unfold Gateway.responseClose
    split
    · exact .refl s
    · split
      · exact .refl s
      · have hclosed : s.Pairs (s.onNet (Net.modifyExchange ex (fun x => { x with closed := true, destroyed := true }))) :=
          .of_eq rfl
        exact hclosed.trans (.teardown _ _ _)
  | responseDrain ex => exact .turns (responseDrain_turns hL ex)
  | clock hact => exact .of_eq rfl
  | relay h hact =>
    refine .of_keeps (h.sockets WsSocket.Keeps.refl fun k leg leg' paused hl hends => ?_)
    refine ⟨id, rfl, ?_, fun hnone => ?_⟩
    · rw [hl]
      exact hends
    · rw [hl] at hnone
      cases hnone

/-- A control connection that learns its session is for what it was for. -/
theorem Pairs.authenticate (ws : SocketId) (peerSessionId : Option String) (s : Gateway) :
    s.Pairs (authenticated ws peerSessionId s) := by
  refine .of_keeps (.modify WsSocket.Keeps.refl fun k _ => ?_)
  rcases hl : k.listener with _ | conn | leg | ⟨id, ex⟩
  · exact .refl k
  · exact ⟨fun ho => ho, rfl, by rw [hl]; trivial, fun hnone => by simp [hl] at hnone⟩
  · exact .refl k
  · exact .refl k

/-- Every event lets the sockets be what they are for, or pairs two that had no pair. -/
theorem handle_pairs (e : Event) (fresh : s.Fresh Γ) (hA : s.Admission) (hL : s.Legs) : s.Pairs (s.handle Γ e) := by
  have hsteps {e' : Event} {u : Gateway} (h : DataSteps Γ e' s u) : s.Pairs u :=
    (h.invariant (I := fun u => u.Admission ∧ u.Legs ∧ s.Pairs u)
      (fun _ _ hstep hu => ⟨hstep.admission hu.1, hstep.legs hu.1 hu.2.1, hu.2.2.trans (hstep.pairs hu.1 hu.2.1)⟩)
      ⟨hA, hL, .refl s⟩).2.2
  rcases hh : s.helloOf Γ e with _ | ⟨ws, conn, hello⟩
  · exact hsteps (handle_data fresh hh)
  · obtain ⟨u, peerSessionId, hcloses, hgreet⟩ := greet_closes (Γ := Γ) ws conn hello s
    have hu : DataSteps Γ .pingInterval s u := hcloses.steps
    rw [handle_hello hh, hgreet]
    exact (hsteps hu).trans (.authenticate ws peerSessionId u)

theorem step_pairs (e : Event) (fresh : s.Fresh Γ) (hA : s.Admission) (hL : s.Legs) : s.Pairs (s.step Γ e) := by
  have hquiet := quiet_turns s
  rcases hrun : s.uncaught with _ | error
  · have hhandle := handle_pairs (Γ := Γ) e (fresh.turns hquiet) (hA.turns hquiet) (hL.turns hquiet)
    have hdrawn (n : Nat) : (s.quiet.handle Γ e).Pairs { s.quiet.handle Γ e with drawn := n } := .of_eq rfl
    rw [step_running hrun]
    exact ((Pairs.turns hquiet).trans hhandle).trans (hdrawn _)
  · rw [step_stopped hrun]
    exact .turns hquiet

end Gateway

end ZclaudiaGateway
