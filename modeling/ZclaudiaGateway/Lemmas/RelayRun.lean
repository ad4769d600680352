import ZclaudiaGateway.Lemmas.Connections

/-!
# A direction over a run

The counters of a relayed leg, and whether its socket is paused, move with the frames, rate timers and drain polls of that
socket alone. Every other event leaves the leg as it is, tears its channel down, or wires it (`LegStays`). So what these three
kinds preserve of a leg holds of it as long as the other leg is open (`LegKept`).
-/

namespace ZclaudiaGateway

/-- A leg as it is wired. -/
def RelayLeg.start (channelId : String) (dst : SocketId) : RelayLeg :=
  { channelId, dst, used := 0, resetAt := 0, rateTimers := [], drains := 0 }

namespace Gateway

variable {Γ : Ctx} {e : Event}

/-- A socket that is open is there. -/
theorem Net.socket_of_open {net : Net} {ws : SocketId} (h : net.readyState ws = .open_) :
    ∃ k, net.sockets.get ws = some k ∧ k.readyState = .open_ := by
  unfold Net.readyState at h
  split at h
  · rename_i k hk
    exact ⟨k, hk, h⟩
  · cases h

/-- What the events of others leave of the leg on a socket: it is as before, or its channel is gone and the other leg is no
longer open, or it has just been wired. -/
structure LegStays (w : SocketId) (s t : Gateway) : Prop where
  forth : ∀ k leg, s.net.sockets.get w = some k → k.listener = .relay leg →
    ∃ k' leg', t.net.sockets.get w = some k' ∧ k'.listener = .relay leg' ∧ leg.SameEnds leg'
  back : ∀ k' leg, t.net.sockets.get w = some k' → k'.listener = .relay leg →
    (t.channels.get leg.channelId = none ∧ t.net.readyState leg.dst ≠ .open_) ∨
      (∃ k, s.net.sockets.get w = some k ∧ k.listener = .relay leg ∧ k'.paused = k.paused ∧
        (s.channels.get leg.channelId = none → t.channels.get leg.channelId = none) ∧
        (t.net.readyState leg.dst = .open_ → s.net.readyState leg.dst = .open_)) ∨
      (∀ k leg, s.net.sockets.get w = some k → k.listener ≠ .relay leg) ∧ ∃ channelId dst, leg = .start channelId dst

section Steps

variable {w : SocketId} {s t u : Gateway}

/-- No channel is new, no socket is new or opens, and the leg is as before. -/
theorem LegStays.of_sockets (channels : ∀ id, s.channels.get id = none → t.channels.get id = none)
    (opens : ∀ d, t.net.readyState d = .open_ → s.net.readyState d = .open_)
    (back : ∀ k' leg, t.net.sockets.get w = some k' → k'.listener = .relay leg →
      ∃ k, s.net.sockets.get w = some k ∧ k.listener = .relay leg ∧ k'.paused = k.paused)
    (forth : ∀ k leg, s.net.sockets.get w = some k → k.listener = .relay leg →
      ∃ k' leg', t.net.sockets.get w = some k' ∧ k'.listener = .relay leg' ∧ leg.SameEnds leg') : s.LegStays w t := by
  refine ⟨forth, fun k' leg hk' hl' => Or.inr (Or.inl ?_)⟩
  obtain ⟨k, hk, hl, hp⟩ := back k' leg hk' hl'
  exact ⟨k, hk, hl, hp, channels _, opens _⟩

theorem LegStays.of_eq (channels : ∀ id, s.channels.get id = none → t.channels.get id = none)
    (he : t.net.sockets = s.net.sockets) : s.LegStays w t := by
  refine .of_sockets channels (fun d hd => ?_) (fun k' leg hk' hl' => ⟨k', he ▸ hk', hl', rfl⟩)
    (fun k leg hk hl => ⟨k, leg, he.symm ▸ hk, hl, rfl, rfl⟩)
  unfold Net.readyState at hd ⊢
  rwa [he] at hd

theorem LegStays.refl (s : Gateway) : s.LegStays w s := .of_eq (fun _ => id) rfl

theorem LegStays.trans (h : s.LegStays w t) (h' : t.LegStays w u) : s.LegStays w u := by
  refine ⟨fun k leg hk hl => ?_, fun k2 leg hk2 hl2 => ?_⟩
  · obtain ⟨k1, leg1, hk1, hl1, hends⟩ := h.forth k leg hk hl
    obtain ⟨k2, leg2, hk2, hl2, hends'⟩ := h'.forth k1 leg1 hk1 hl1
    exact ⟨k2, leg2, hk2, hl2, hends'.1.trans hends.1, hends'.2.trans hends.2⟩
  · rcases h'.back k2 leg hk2 hl2 with hgone | ⟨k1, hk1, hl1, hp1, hchannel1, hopen1⟩ | ⟨hno, hstart⟩
    · exact Or.inl hgone
    · rcases h.back k1 leg hk1 hl1 with ⟨hgone, hdst⟩ | ⟨k, hk, hl, hp, hchannel, hopen⟩ | hwired
      · exact Or.inl ⟨hchannel1 hgone, fun hd => hdst (hopen1 hd)⟩
      · exact Or.inr (Or.inl ⟨k, hk, hl, hp1.trans hp, fun hn => hchannel1 (hchannel hn), fun hd => hopen (hopen1 hd)⟩)
      · exact Or.inr (Or.inr hwired)
    · refine Or.inr (Or.inr ⟨fun k leg hk hl => ?_, hstart⟩)
      obtain ⟨k1, leg1, hk1, hl1, -⟩ := h.forth k leg hk hl
      exact hno k1 leg1 hk1 hl1

theorem LegStays.turns (ht : s.DataTurns t) : s.LegStays w t := by
  refine .of_sockets (fun id hn => by rw [ht.channels, hn]) (fun d hd => ?_) (fun k' leg hk' hl' => ?_)
    (fun k leg hk hl => ?_)
  · obtain ⟨k', hk', ho⟩ := Net.socket_of_open hd
    obtain ⟨k, hk, hturn⟩ := ht.net.sockets.some_get hk'
    rw [Net.readyState_eq hk]
    exact hturn.open_of ho
  · obtain ⟨k, hk, hturn⟩ := ht.net.sockets.some_get hk'
    have hrole := hturn.listener
    rw [hl'] at hrole
    rcases hl : k.listener with _ | conn | leg0 | ⟨id, ex⟩ <;> rw [hl] at hrole
    · exact hrole.elim
    · exact hrole.elim
    · obtain ⟨hsame, hp⟩ := hturn.leg leg0 hl
      obtain rfl := Listener.relay.inj (hl'.symm.trans hsame)
      exact ⟨k, hk, hl, hp⟩
    · exact hrole.elim
  · obtain ⟨k', hk', hturn⟩ := ht.net.sockets.get_some hk
    exact ⟨k', leg, hk', (hturn.leg leg hl).1, rfl, rfl⟩

/-- The legs of a channel that is torn down relay no more. -/
theorem LegStays.teardown (hL : s.Legs) (reason : ChannelClosedReason) (channelId : String) :
    s.LegStays w (s.teardownChannel reason channelId) := by
  rcases hc : s.channels.get channelId with _ | ch
  · rw [teardownChannel_of_none _ _ _ hc]
    exact .refl s
  · have hsocket := teardownChannel_socket reason s channelId hc
    have hopen (d : SocketId) (hd : (s.teardownChannel reason channelId).net.readyState d = .open_) :
        ch.isLeg d = false ∧ s.net.readyState d = .open_ := by
      obtain ⟨k', hk', ho⟩ := Net.socket_of_open hd
      rw [hsocket] at hk'
      split at hk'
      · obtain ⟨k, -, rfl⟩ := Option.map_eq_some_iff.mp hk'
        exact absurd ho k.torn_readyState
      · rename_i hleg
        exact ⟨by simpa using hleg, (Net.readyState_eq hk').trans ho⟩
    refine ⟨fun k leg hk hl => ?_, fun k' leg hk' hl' => ?_⟩
    · rw [hsocket, hk]
      split
      · exact ⟨k.torn, leg, rfl, by rw [WsSocket.torn_listener, hl], rfl, rfl⟩
      · exact ⟨k, leg, rfl, hl, rfl, rfl⟩
    · rw [hsocket] at hk'
      split at hk'
      · rename_i hleg
        -- The other leg is torn down too.
        obtain ⟨k, hk, rfl⟩ := Option.map_eq_some_iff.mp hk'
        rw [WsSocket.torn_listener] at hl'
        obtain ⟨role, hrole⟩ := ChannelRecord.isLeg_iff.mp hleg
        obtain ⟨k0, hk0, hwires⟩ := hL.leg channelId ch role w hc hrole
        obtain rfl := Option.some.inj (hk.symm.trans hk0)
        obtain ⟨hid, hother⟩ : leg.channelId = channelId ∧ ch.leg role.other = some leg.dst := by
          unfold ChannelRecord.Wires at hwires
          split at hwires
          · split at hwires
            · exact absurd (hl'.symm.trans hwires) (by simp)
            · obtain ⟨leg0, hl0, hid0, hdst0⟩ := hwires
              obtain rfl := Listener.relay.inj (hl'.symm.trans hl0)
              exact ⟨hid0, hdst0⟩
          · exact absurd (hl'.symm.trans hwires.1) (by simp)
        refine Or.inl ⟨?_, fun hdst => ?_⟩
        · rw [teardownChannel_channel, if_pos hid]
        · have hisleg := ChannelRecord.isLeg_iff.mpr ⟨role.other, hother⟩
          rw [(hopen _ hdst).1] at hisleg
          cases hisleg
      · refine Or.inr (Or.inl ⟨k', hk', hl', rfl, fun hn => ?_, fun hd => (hopen _ hd).2⟩)
        rw [teardownChannel_channel, hn]
        split <;> rfl

theorem CloseStep.legStays (hL : s.Legs) (hstep : CloseStep s t) : s.LegStays w t := by
  cases hstep with
  | turn ht => exact .turns ht
  | teardown reason channelId => exact .teardown hL _ _

end Steps

/-! ## Wiring -/

/-- The socket is as before, or wired anew for the channel. -/
def Wired (channelId : String) (k k' : WsSocket) : Prop :=
  k' = k ∨ (∃ ex, k'.listener = .bridge channelId ex) ∨ ∃ dst, k'.listener = .relay (.start channelId dst)

theorem Wired.relay {channelId : String} {k k' : WsSocket} {leg : RelayLeg} (h : Wired channelId k k')
    (hl : k'.listener = .relay leg) : k' = k ∨ ∃ dst, leg = .start channelId dst := by
  rcases h with he | ⟨ex, hbridge⟩ | ⟨dst, hstart⟩
  · exact Or.inl he
  · exact absurd (hl.symm.trans hbridge) nofun
  · exact Or.inr ⟨dst, Listener.relay.inj (hl.symm.trans hstart)⟩

theorem Wired.unheard {channelId : String} {k k' : WsSocket} (h : Wired channelId k k') (hl : k'.listener = .none) : k' = k := by
  rcases h with he | ⟨ex, hbridge⟩ | ⟨dst, hstart⟩
  · exact he
  · exact absurd (hl.symm.trans hbridge) nofun
  · exact absurd (hl.symm.trans hstart) nofun

/-- Pairing wires the legs of the channel anew, and leaves the other sockets as they are. -/
theorem pairLegs_socket {s : Gateway} (hL : s.Legs) {channelId : String} {ch : ChannelRecord}
    (hc : s.channels.get channelId = some ch) {w : SocketId} {k' : WsSocket}
    (hk' : (s.pairLegs channelId ch).net.sockets.get w = some k') :
    ∃ k, s.net.sockets.get w = some k ∧ k'.readyState = k.readyState ∧ Wired channelId k k' := by
  unfold pairLegs at hk'
  split at hk'
  · rename_i ex b hex hb hp
    obtain ⟨x, hx, -⟩ := hL.internal channelId ch ex hc hex
    simp only [onNet_net, onChannel] at hk'
    rw [bridge_socket _ _ _ _ hx] at hk'
    split at hk'
    · obtain ⟨k, hk, rfl⟩ := Option.map_eq_some_iff.mp hk'
      exact ⟨k, hk, by rw [WsSocket.resumed_readyState]; rfl, Or.inr (Or.inl ⟨ex, WsSocket.resumed_listener _⟩)⟩
    · exact ⟨k', hk', rfl, Or.inl rfl⟩
  · rename_i b a _ _ _ _
    have hwire (net : Net) (ws dst : SocketId) : (wireLeg channelId ws dst net).sockets.get w =
        if w = ws then (net.sockets.get w).map (WsSocket.relaying channelId dst) else net.sockets.get w :=
      InsertionMap.get_modify _ _ _ _
    simp only [wireChannel, onNet_net, onChannel, Net.resume_get, hwire] at hk'
    -- A socket that is one of the two legs ends as a wired one, whichever it is.
    have hwired (f : WsSocket → WsSocket) (hf : ∀ k, (f k).readyState = k.readyState ∧
        ∃ dst, (f k).listener = .relay (.start channelId dst)) (hmap : (s.net.sockets.get w).map f = some k') :
        ∃ k, s.net.sockets.get w = some k ∧ k'.readyState = k.readyState ∧ Wired channelId k k' := by
      obtain ⟨k, hk, rfl⟩ := Option.map_eq_some_iff.mp hmap
      obtain ⟨hstate, hdst⟩ := hf k
      exact ⟨k, hk, hstate, Or.inr (Or.inr hdst)⟩
    by_cases hwa : w = a <;> by_cases hwb : w = b
    · simp only [if_pos hwa, if_pos hwb, Option.map_map] at hk'
      exact hwired _ (fun k => ⟨by simp [WsSocket.relaying], a, by simp [WsSocket.relaying, RelayLeg.start]⟩) hk'
    · simp only [if_pos hwa, if_neg hwb, Option.map_map] at hk'
      exact hwired _ (fun k => ⟨by simp [WsSocket.relaying], b, by simp [WsSocket.relaying, RelayLeg.start]⟩) hk'
    · simp only [if_neg hwa, if_pos hwb, Option.map_map] at hk'
      exact hwired _ (fun k => ⟨by simp [WsSocket.relaying], a, by simp [WsSocket.relaying, RelayLeg.start]⟩) hk'
    · simp only [if_neg hwa, if_neg hwb] at hk'
      exact ⟨k', hk', rfl, Or.inl rfl⟩
  · exact ⟨k', hk', rfl, Or.inl rfl⟩

/-- The sockets after a dial. -/
theorem attachLeg_socket {s : Gateway} (hL : s.Legs) (fresh : s.Fresh Γ) {channelId : String} {role : ChannelRole}
    {ch : ChannelRecord} (hc : s.channels.get channelId = some ch) (hp : ch.piped = false) (hfree : ch.leg role = none)
    {w : SocketId} {k' : WsSocket} (hk' : (s.attachLeg channelId role).net.sockets.get w = some k') :
    w = s.drawn ∧ (k'.listener = .none → k'.paused = true) ∧ (∀ leg, k'.listener = .relay leg → ∃ dst, leg = .start channelId dst) ∨
      ∃ k, s.net.sockets.get w = some k ∧ k'.readyState = k.readyState ∧ Wired channelId k k' := by
  have hdialed : ∃ u : Gateway, u.Legs ∧
      u.channels.get channelId = some (setLegSocket role s.drawn ch) ∧
      (∀ d, u.net.sockets.get d = if d = s.drawn then
        some { readyState := .open_, paused := true, errorListener := false, listener := .none, replacedGrace := false }
        else s.net.sockets.get d) ∧
      s.attachLeg channelId role = u.pairLegs channelId (setLegSocket role s.drawn ch) := by
    unfold attachLeg
    dsimp only
    rw [hc]
    refine ⟨_, ?_, ?_, ?_, rfl⟩
    · exact hL.attach fresh hc hp hfree rfl rfl rfl (fun ws => InsertionMap.get_set _ _ _ _) rfl
    · simp [onChannel, hc]
    · exact fun ws => InsertionMap.get_set _ _ _ _
  obtain ⟨u, hlegs, hchannel, hget, he⟩ := hdialed
  rw [he] at hk'
  obtain ⟨k, hk, hstate, hwired⟩ := pairLegs_socket hlegs hchannel hk'
  rw [hget] at hk
  split at hk
  · rename_i hw
    obtain rfl := Option.some.inj hk
    refine Or.inl ⟨hw, fun hl => ?_, fun leg hl => ?_⟩
    · rw [hwired.unheard hl]
    · rcases hwired.relay hl with rfl | hstart
      · cases hl
      · exact hstart
  · exact Or.inr ⟨k, hk, hstate, hwired⟩

/-! ## Events of others -/

section Steps

variable {w : SocketId} {s t : Gateway}

theorem LegStays.dial (hA : s.Admission) (hL : s.Legs) (fresh : s.Fresh Γ) (channelId : String) (ticket : Option String)
    (handshakeOk : Bool) : s.LegStays w (s.handleChannelUpgrade channelId ticket handshakeOk) := by
  have hlegs := hL.dial hA fresh channelId ticket handshakeOk
  rcases handleChannelUpgrade_cases s channelId ticket handshakeOk with he | ⟨found, ch, ht, rfl, hc, -, he⟩
  · rw [he]
    exact .of_eq (fun _ => id) rfl
  · rw [he] at hlegs ⊢
    obtain ⟨hp, hfree, -⟩ := hA.not_piped ht hc
    have hfresh : (s.consumeTicket (ticket.getD "")).Fresh Γ := FreshUpTo.consumeTicket fresh _
    have hconsumed : (s.consumeTicket (ticket.getD "")).Legs :=
      hL.keeps (fun _ => rfl) (.refl WsSocket.Keeps.refl _) (.refl HttpExchange.SameBridge.refl _)
    have hs : s.LegStays w (s.consumeTicket (ticket.getD "")) := .of_eq (fun _ => id) rfl
    have hc' : (s.consumeTicket (ticket.getD "")).channels.get found.channelId = some ch := hc
    refine hs.trans ?_
    generalize s.consumeTicket (ticket.getD "") = u at hlegs hfresh hconsumed hc'
    refine ⟨fun k leg hk hl => ?_, fun k' leg hk' hl' => ?_⟩
    · obtain ⟨k', hk', hsame | hdata⟩ := attachLeg_forth found.channelId found.role hfresh hk
      · exact ⟨k', leg, hk', hsame.trans hl, rfl, rfl⟩
      · exact absurd (hl.symm.trans (attachLeg_unheard hconsumed hfresh hc' hp hlegs hk hk' hdata)) nofun
    · have hwired (hstart : ∃ dst, leg = .start found.channelId dst) :
          (∀ k leg, u.net.sockets.get w = some k → k.listener ≠ .relay leg) ∧ ∃ channelId dst, leg = .start channelId dst := by
        obtain ⟨dst, rfl⟩ := hstart
        refine ⟨fun k leg hk hl => ?_, _, dst, rfl⟩
        have hnone := attachLeg_unheard hconsumed hfresh hc' hp hlegs hk hk' (by rw [hl']; rfl)
        exact absurd (hl.symm.trans hnone) nofun
      rcases attachLeg_socket hconsumed hfresh hc' hp hfree hk' with ⟨-, -, hnew⟩ | ⟨k, hk, -, hold⟩
      · exact Or.inr (Or.inr (hwired (hnew leg hl')))
      · rcases hold.relay hl' with rfl | hstart
        · refine Or.inr (Or.inl ⟨k', hk, hl', rfl, fun hn => ?_, fun hdst => ?_⟩)
          · rw [attachLeg_channel _ _ _ hc', if_neg, hn]
            rintro hid
            rw [hid, hc'] at hn
            cases hn
          · obtain ⟨k2, leg2, hk2, -⟩ := hconsumed.pair w k' leg hk hl'
            obtain ⟨k2', hk2', hopen⟩ := Net.socket_of_open hdst
            rcases attachLeg_socket hconsumed hfresh hc' hp hfree hk2' with ⟨hd, -⟩ | ⟨k3, hk3, hstate, -⟩
            · exact absurd hd (ne_of_lt (hfresh.sockets _ _ hk2))
            · rw [Net.readyState_eq hk3, ← hstate]
              exact hopen
        · exact Or.inr (Or.inr (hwired hstart))

/-- A channel that is opened has an identifier no leg carries. -/
theorem LegStays.newChannel (fresh : s.Fresh Γ) (he : t.net.sockets = s.net.sockets) {ch : ChannelRecord}
    (channels : t.channels = s.channels.set (Γ.channelIds.draw s.drawn) ch) : s.LegStays w t := by
  refine ⟨fun k leg hk hl => ⟨k, leg, he.symm ▸ hk, hl, rfl, rfl⟩, fun k' leg hk' hl' => Or.inr (Or.inl ?_)⟩
  rw [he] at hk'
  refine ⟨k', hk', hl', rfl, fun hn => ?_, fun hd => ?_⟩
  · have hne : leg.channelId ≠ Γ.channelIds.draw s.drawn := ne_draw (fresh.listeners w k' _ hk' (by rw [hl']; rfl))
    rw [channels, InsertionMap.get_set_of_ne hne, hn]
  · unfold Net.readyState at hd ⊢
    rwa [he] at hd

theorem DataStep.legStays (h : DataStep Γ e s t) (he : ¬ e.Drives w) (hA : s.Admission) (hL : s.Legs) :
    s.LegStays w t := by
  cases h with
  | close h => exact h.legStays hL
  | dropTickets keep => exact .of_eq (fun _ => id) rfl
  | openChannel fresh peer backendPeer lease target kind =>
    exact .newChannel fresh (by simp [Gateway.openChannel]) rfl
  | proxyViaChannel fresh hr epoch backendPeer =>
    unfold Gateway.proxyViaChannel
    split
    · exact .of_eq (fun _ => id) rfl
    · exact .newChannel fresh (Net.sendToWs_sockets _ _ _) rfl
  | connect fresh ip hact =>
    obtain ⟨k0, hk0, hget⟩ := controlConnection_socket s ip
    have hnone (leg : RelayLeg) : k0.listener ≠ .relay leg := by
      rcases hk0 with ⟨-, -, -, hl⟩ | ⟨-, -, -, hl⟩ <;> rw [hl] <;> simp
    have hold (ws : SocketId) (k : WsSocket) (hk : s.net.sockets.get ws = some k) :
        (s.controlConnection ip).net.sockets.get ws = some k := by
      rw [hget, if_neg (ne_of_lt (fresh.sockets _ _ hk)), hk]
    refine ⟨fun k leg hk hl => ⟨k, leg, hold w k hk, hl, rfl, rfl⟩, fun k' leg hk' hl' => Or.inr (Or.inl ?_)⟩
    rw [hget] at hk'
    split at hk'
    · obtain rfl := Option.some.inj hk'
      exact absurd hl' (hnone leg)
    · refine ⟨k', hk', hl', rfl, fun hn => by rw [(controlConnection_tables s ip).1, hn], fun hdst => ?_⟩
      obtain ⟨k2, leg2, hk2, -⟩ := hL.pair w k' leg hk' hl'
      obtain ⟨k2', hk2', hopen⟩ := Net.socket_of_open hdst
      rw [hold _ k2 hk2, Option.some.injEq] at hk2'
      rw [Net.readyState_eq hk2, hk2', hopen]
  | dial fresh channelId ticket handshakeOk hact => exact .dial hA hL fresh _ _ _
  | responseHead hx hm meta_ =>
    exact .of_eq (fun id hn => by rw [(responseHead_speaks _ _ _ _).channels, hn]) (responseHead_speaks _ _ _ _).sockets
  | responseBody hx hm data =>
    exact .of_eq (fun id hn => by rw [(callResponse_speaks _ _ _).channels, hn]) (callResponse_speaks _ _ _).sockets
  | bridgeClose hk hl hact =>
    rename_i ws k channelId ex
    unfold Gateway.bridgeClose
    split
    · exact .refl s
    · rename_i x _
      obtain ⟨hchannels, -, hsockets, hexchanges, -⟩ := finishResponse_tables channelId ex x s
      have hlegs : (s.finishResponse channelId ex x).Legs :=
        hL.keeps hchannels (hsockets ▸ .refl WsSocket.Keeps.refl _) hexchanges
      have hfinish : s.LegStays w (s.finishResponse channelId ex x) := by
        refine .of_eq (fun id hn => ?_) hsockets
        have hcore := hchannels id
        rw [hn, Option.map_none] at hcore
        exact Option.map_eq_none_iff.mp hcore
      exact hfinish.trans (.teardown hlegs _ _)
  | responseClose ex =>
    unfold Gateway.responseClose
    split
    · exact .refl s
    · split
      · exact .refl s
      · have hclosed : s.LegStays w
            (s.onNet (Net.modifyExchange ex (fun x => { x with closed := true, destroyed := true }))) :=
          .of_eq (fun _ => id) rfl
        refine hclosed.trans (.teardown ?_ _ _)
        exact hL.keeps (fun _ => rfl) (.refl WsSocket.Keeps.refl _)
          (.modify HttpExchange.SameBridge.refl fun x _ => ⟨rfl, rfl⟩)
  | responseDrain ex => exact .turns (responseDrain_turns hL ex)
  | clock hact => exact .of_eq (fun _ => id) rfl
  | relay h hact =>
    rename_i ws
    have hne : w ≠ ws := by
      rintro rfl
      exact he hact
    exact .of_sockets (fun id hn => by rw [h.channels, hn]) (fun d hd => (h.readyState d).symm.trans hd)
      (fun k' leg hk' hl' => ⟨k', h.others w hne ▸ hk', hl', rfl⟩)
      (fun k leg hk hl => ⟨k, leg, (h.others w hne).trans hk, hl, rfl, rfl⟩)

/-- A control connection that learns its session is no leg. -/
theorem LegStays.authenticate (ws : SocketId) (peerSessionId : Option String) (s : Gateway) :
    s.LegStays w (authenticated ws peerSessionId s) := by
  have hsockets : s.net.sockets.Pointwise (fun k k' => k'.readyState = k.readyState ∧ k'.paused = k.paused ∧
      ∀ leg, k'.listener = .relay leg ↔ k.listener = .relay leg) (authenticated ws peerSessionId s).net.sockets := by
    refine .modify (fun k => ⟨rfl, rfl, fun _ => Iff.rfl⟩) fun k _ => ?_
    rcases hl : k.listener with _ | conn | leg | ⟨id, ex⟩
    · exact ⟨rfl, rfl, fun _ => by rw [hl]⟩
    · exact ⟨rfl, rfl, fun _ => iff_of_false nofun nofun⟩
    · exact ⟨rfl, rfl, fun _ => by rw [hl]⟩
    · exact ⟨rfl, rfl, fun _ => by rw [hl]⟩
  refine .of_sockets (fun _ => id) (fun d hd => ?_) (fun k' leg hk' hl' => ?_) (fun k leg hk hl => ?_)
  · obtain ⟨k', hk', hopen⟩ := Net.socket_of_open hd
    obtain ⟨k, hk, hstate, -⟩ := hsockets.some_get hk'
    rw [Net.readyState_eq hk, ← hstate]
    exact hopen
  · obtain ⟨k, hk, -, hpaused, hleg⟩ := hsockets.some_get hk'
    exact ⟨k, hk, (hleg leg).mp hl', hpaused⟩
  · obtain ⟨k', hk', -, -, hleg⟩ := hsockets.get_some hk
    exact ⟨k', leg, hk', (hleg leg).mpr hl, rfl, rfl⟩

/-- An event that does not drive a leg leaves it as it is, tears its channel down, or wires it. -/
theorem handle_legStays (he : e.Drives w → ∀ k leg, s.net.sockets.get w = some k → k.listener ≠ .relay leg)
    (fresh : s.Fresh Γ) (hA : s.Admission) (hL : s.Legs) : s.LegStays w (s.handle Γ e) := by
  have hsteps {e' : Event} {u : Gateway} (he' : ¬ e'.Drives w) (h : DataSteps Γ e' s u) : s.LegStays w u :=
    (h.invariant (I := fun u => u.Admission ∧ u.Legs ∧ s.LegStays w u)
      (fun _ _ hstep hu => ⟨hstep.admission hu.1, hstep.legs hu.1 hu.2.1, hu.2.2.trans (hstep.legStays he' hu.1 hu.2.1)⟩)
      ⟨hA, hL, .refl s⟩).2.2
  have hidle : ¬ Event.pingInterval.Drives w := by rintro (⟨_, _, _, h⟩ | h | ⟨_, h⟩) <;> cases h
  rcases hh : s.helloOf Γ e with _ | ⟨ws, conn, hello⟩
  · by_cases hdrives : e.Drives w
    · have hunwired := he hdrives
      rcases hdrives with ⟨frame, buffered, writable, rfl⟩ | rfl | ⟨buffered, rfl⟩
      · change s.LegStays w (s.socketMessage Γ w frame buffered writable)
        unfold socketMessage
        split
        · exact .refl s
        · rename_i k hk
          split
          · rename_i hr
            split
            · exact .refl s
            · rename_i conn hl
              exact hsteps hidle (controlMessage_data fresh hh hk hl hr)
            · rename_i leg hl
              exact absurd hl (hunwired k leg hk)
            · rename_i channelId ex hl
              exact hsteps hidle (bridgeMessage_data _ _ hk hl)
          · exact .refl s
      · change s.LegStays w (s.rateTimerFires w)
        unfold rateTimerFires
        split
        · rename_i leg _ hk
          exact absurd rfl (hunwired _ leg hk)
        · exact .refl s
      · change s.LegStays w (s.drainPoll w buffered)
        unfold drainPoll
        split
        · rename_i leg _ hk
          exact absurd rfl (hunwired _ leg hk)
        · exact .refl s
    · exact hsteps hdrives (handle_data fresh hh)
  · obtain ⟨u, peerSessionId, hcloses, hgreet⟩ := greet_closes (Γ := Γ) ws conn hello s
    rw [handle_hello hh, hgreet]
    exact (hsteps hidle hcloses.steps).trans (.authenticate ws peerSessionId u)

end Steps

/-! ## What is kept of a leg -/

/-- While the socket relays to an open one, `P` holds of its leg and of its being paused; if it has never relayed, `Q` holds. -/
structure LegKept (P : RelayLeg → Bool → Prop) (Q : Prop) (w : SocketId) (s : Gateway) : Prop where
  holds : ∀ k leg, s.net.sockets.get w = some k → k.listener = .relay leg → s.net.readyState leg.dst = .open_ →
    P leg k.paused
  start : (∀ k leg, s.net.sockets.get w = some k → k.listener ≠ .relay leg) → Q

section Kept

variable {P : RelayLeg → Bool → Prop} {Q : Prop} {w : SocketId} {s t : Gateway}

theorem LegKept.mono {P' : RelayLeg → Bool → Prop} (h : s.LegKept P Q w) (hP : ∀ leg paused, P leg paused → P' leg paused) :
    s.LegKept P' Q w :=
  ⟨fun k leg hk hl hdst => hP _ _ (h.holds k leg hk hl hdst), h.start⟩

theorem LegKept.of_eq (h : s.LegKept P Q w) (he : t.net.sockets = s.net.sockets) : t.LegKept P Q w := by
  refine ⟨fun k leg hk hl hdst => h.holds k leg (he ▸ hk) hl ?_, fun hno => h.start fun k leg hk => hno k leg (he.symm ▸ hk)⟩
  unfold Net.readyState at hdst ⊢
  rwa [he] at hdst

/-- What a leg is after an event decides what is kept of it. -/
theorem LegKept.of_own {k : WsSocket} {leg : RelayLeg} (hk : s.net.sockets.get w = some k) (hl : k.listener = .relay leg)
    (hP : s.net.readyState leg.dst = .open_ → P leg k.paused) : s.LegKept P Q w := by
  refine ⟨fun k' leg' hk' hl' hdst => ?_, fun hno => absurd hl (hno k leg hk)⟩
  obtain rfl := Option.some.inj (hk.symm.trans hk')
  obtain rfl := Listener.relay.inj (hl.symm.trans hl')
  exact hP hdst

/-- What is kept of a leg stays so as long as its channel's other leg is open, if it holds of a leg that is wired. -/
theorem LegKept.stays (h : s.LegKept P Q w) (hstays : s.LegStays w t)
    (hwired : Q → ∀ channelId dst paused, P (.start channelId dst) paused) : t.LegKept P Q w := by
  refine ⟨fun k' leg hk' hl' hdst => ?_, fun hno => h.start fun k leg hk hl => ?_⟩
  · rcases hstays.back k' leg hk' hl' with ⟨-, hclosed⟩ | ⟨k, hk, hl, hp, -, hopen⟩ | ⟨hno, channelId, dst, rfl⟩
    · exact absurd hdst hclosed
    · rw [hp]
      exact h.holds k leg hk hl (hopen hdst)
    · exact hwired (h.start hno) channelId dst _
  · obtain ⟨k', leg', hk', hl', -⟩ := hstays.forth k leg hk hl
    exact hno k' leg' hk' hl'

end Kept

/-- The channel of a leg lives as long as the other leg is open. -/
theorem Legs.lives_of_open {s : Gateway} (hL : s.Legs) {w : SocketId} {k : WsSocket} {leg : RelayLeg}
    (hk : s.net.sockets.get w = some k) (hl : k.listener = .relay leg) (hdst : s.net.readyState leg.dst = .open_) :
    s.channels.has leg.channelId = true := by
  obtain ⟨k', leg', hk', hl', hid⟩ := hL.pair w k leg hk hl
  rcases hL.carries leg.dst k' leg.channelId hk' (by rw [hl', ← hid]; rfl) with ⟨ch, role, hc, -⟩ | ⟨-, hclosed⟩
  · simp [InsertionMap.has, hc]
  · exact absurd ((Net.readyState_eq hk').symm.trans hdst) hclosed

/-! ## Frames -/

/-- A frame that is relayed: the leg it arrives on, whether that leg is paused, and what the receiver's send buffer holds
after it. -/
structure Relayed where
  leg : RelayLeg
  paused : Bool
  frame : Frame
  buffered : Nat

/-- The frame an event relays from a socket. -/
def relays (w : SocketId) (s : Gateway) (e : Event) : Option Relayed :=
  match e, s.uncaught, s.net.sockets.get w with
  | .message ws frame buffered _, none, some k =>
    match k.listener with
    | .relay leg =>
      if ws = w ∧ k.reads = true ∧ s.net.readyState leg.dst = .open_ then
        some { leg, paused := k.paused, frame, buffered }
      else none
    | _ => none
  | _, _, _ => none

theorem relays_eq_some {w : SocketId} {s : Gateway} {r : Relayed} (h : s.relays w e = some r) :
    ∃ k writable, e = .message w r.frame r.buffered writable ∧ s.uncaught = none ∧ s.net.sockets.get w = some k ∧
      k.listener = .relay r.leg ∧ k.paused = r.paused ∧ k.reads = true ∧ s.net.readyState r.leg.dst = .open_ := by
  unfold relays at h
  split at h
  · rename_i ws frame buffered writable k hrun hk
    split at h
    · rename_i leg hl
      split at h
      · rename_i hrelays
        obtain ⟨rfl, hreads, hdst⟩ := hrelays
        obtain rfl := Option.some.inj h
        exact ⟨k, writable, rfl, hrun, hk, hl, rfl, hreads, hdst⟩
      · cases h
    · cases h
  · cases h

/-- A frame on a leg is relayed, or it comes to nothing. -/
theorem handle_frame {w : SocketId} {s : Gateway} {k : WsSocket} {leg : RelayLeg} (hrun : s.uncaught = none)
    (hk : s.net.sockets.get w = some k) (hl : k.listener = .relay leg) (frame : Frame) (buffered : Nat) (writable : Bool) :
    (s.relays w (.message w frame buffered writable) = some { leg, paused := k.paused, frame, buffered } ∧
        k.readyState ≠ .closed ∧ s.net.readyState leg.dst = .open_ ∧
        s.handle Γ (.message w frame buffered writable) = s.relayMessage Γ w leg frame buffered) ∨
      s.relays w (.message w frame buffered writable) = none ∧ s.handle Γ (.message w frame buffered writable) = s := by
  have hmessage : s.handle Γ (.message w frame buffered writable) =
      if k.reads = true then s.relayMessage Γ w leg frame buffered else s := by
    change s.socketMessage Γ w frame buffered writable = _
    unfold socketMessage
    rw [hk]
    dsimp only
    rw [hl]
  by_cases hrelays : k.reads = true ∧ s.net.readyState leg.dst = .open_
  · obtain ⟨hreads, hdst⟩ := hrelays
    have hstate : k.readyState ≠ .closed := by
      simp only [WsSocket.reads, Bool.and_eq_true, decide_eq_true_eq] at hreads
      exact hreads.1
    refine Or.inl ⟨by simp [relays, hrun, hk, hl, hreads, hdst], hstate, hdst, ?_⟩
    rw [hmessage, if_pos hreads]
  · refine Or.inr ⟨by simp [relays, hrun, hk, hl, hrelays], ?_⟩
    rw [hmessage]
    split
    · rename_i hreads
      unfold relayMessage
      rw [if_pos fun hdst => hrelays ⟨hreads, hdst⟩]
    · rfl

/-- The event resumes the leg: a rate timer that is due, or a drain poll that finds the receiver drained or gone. -/
def Resumes (w : SocketId) (leg : RelayLeg) (s : Gateway) (e : Event) : Prop :=
  e = .rateTimer w ∧ (∃ due ∈ leg.rateTimers, due ≤ s.now) ∨
    ∃ buffered, e = .drainPoll w buffered ∧ leg.drains > 0 ∧
      (buffered ≤ HIGH_WATER / 4 ∨ s.net.readyState leg.dst ≠ .open_)

/-- What an event does to the leg on a socket: it relays a frame and may pause it, it resumes it, or it is an event of others. -/
theorem handle_leg {w : SocketId} {s : Gateway} (e : Event) (hrun : s.uncaught = none) (fresh : s.Fresh Γ) (hA : s.Admission)
    (hL : s.Legs) :
    (∃ r k, s.relays w e = some r ∧ s.net.sockets.get w = some k ∧ k.listener = .relay r.leg ∧ r.paused = k.paused ∧
        s.net.readyState r.leg.dst = .open_ ∧ s.LegMoves w (s.handle Γ e) ∧
        (s.handle Γ e).net.sockets.get w = some { k with
          listener := .relay (r.leg.relayed Γ.config.channelByteRateLimit s.now r.frame.data.length r.buffered).1
          paused := k.paused || (r.leg.relayed Γ.config.channelByteRateLimit s.now r.frame.data.length r.buffered).2 }) ∨
      (∃ k leg leg', s.relays w e = none ∧ s.net.sockets.get w = some k ∧ k.listener = .relay leg ∧ s.Resumes w leg e ∧
        leg.SameEnds leg' ∧ s.LegMoves w (s.handle Γ e) ∧
        (s.handle Γ e).net.sockets.get w = some { k with
          listener := .relay leg', paused := if k.readyState = .closed then k.paused else false }) ∨
      s.relays w e = none ∧ s.LegStays w (s.handle Γ e) := by
  have hnone (he : ¬ ∃ frame buffered writable, e = .message w frame buffered writable) : s.relays w e = none := by
    rcases hr : s.relays w e with _ | r
    · rfl
    · obtain ⟨k, writable, rfl, -⟩ := relays_eq_some hr
      exact absurd ⟨_, _, _, rfl⟩ he
  by_cases hown : e.Drives w ∧ ∃ k leg, s.net.sockets.get w = some k ∧ k.listener = .relay leg
  · obtain ⟨hdrives, k, leg, hk, hl⟩ := hown
    rcases hdrives with ⟨frame, buffered, writable, rfl⟩ | rfl | ⟨buffered, rfl⟩
    · rcases handle_frame (Γ := Γ) hrun hk hl frame buffered writable with
        ⟨hrelays, hstate, hdst, hmessage⟩ | ⟨hrelays, hsame⟩
      · refine Or.inl ⟨_, k, hrelays, hk, hl, rfl, hdst, ?_, ?_⟩
        · rw [hmessage]
          exact relayMessage_legMoves frame buffered hk hl hstate hdst
        · rw [hmessage, relayMessage_get frame buffered hk hl hstate hdst, if_pos rfl]
      · exact Or.inr (Or.inr ⟨hrelays, by rw [hsame]; exact .refl s⟩)
    · have hno : s.relays w (.rateTimer w) = none := hnone (by simp)
      have hfires : s.handle Γ (.rateTimer w) = _ := rateTimerFires_get hk hl
      rw [hfires]
      split
      · rename_i due hdue
        have hget := resumeLeg_get hk { leg with rateTimers := leg.rateTimers.erase due } w
        rw [if_pos rfl] at hget
        refine Or.inr (Or.inl ⟨k, leg, { leg with rateTimers := leg.rateTimers.erase due }, hno, hk, hl,
          Or.inl ⟨rfl, due, List.mem_of_find?_eq_some hdue, ?_⟩, ⟨rfl, rfl⟩, resumeLeg_moves hk hl _ ⟨rfl, rfl⟩, hget⟩)
        simpa using List.find?_some hdue
      · exact Or.inr (Or.inr ⟨hno, .refl s⟩)
    · have hno : s.relays w (.drainPoll w buffered) = none := hnone (by simp)
      have hfires : s.handle Γ (.drainPoll w buffered) = _ := drainPoll_get buffered hk hl
      rw [hfires]
      split
      · rename_i hdrained
        have hget := resumeLeg_get hk { leg with drains := leg.drains - 1 } w
        rw [if_pos rfl] at hget
        exact Or.inr (Or.inl ⟨k, leg, { leg with drains := leg.drains - 1 }, hno, hk, hl, Or.inr ⟨buffered, rfl, hdrained⟩,
          ⟨rfl, rfl⟩, resumeLeg_moves hk hl _ ⟨rfl, rfl⟩, hget⟩)
      · exact Or.inr (Or.inr ⟨hno, .refl s⟩)
  · refine Or.inr (Or.inr ⟨?_, handle_legStays (fun hdrives k leg hk hl => hown ⟨hdrives, k, leg, hk, hl⟩) fresh hA hL⟩)
    rcases hr : s.relays w e with _ | r
    · rfl
    · obtain ⟨k, writable, rfl, -, hk, hl, -⟩ := relays_eq_some hr
      exact absurd ⟨Or.inl ⟨_, _, writable, rfl⟩, k, r.leg, hk, hl⟩ hown

theorem relays_quiet (w : SocketId) (s : Gateway) (e : Event) : s.quiet.relays w e = s.relays w e := rfl

/-! ## The clock -/

theorem attachLeg_now (channelId : String) (role : ChannelRole) (s : Gateway) : (s.attachLeg channelId role).now = s.now := by
  have hpaired (ch : ChannelRecord) (u : Gateway) : (u.pairLegs channelId ch).now = u.now := by
    unfold pairLegs
    split
    · simp [onChannel]
    · simp [wireChannel, onChannel]
    · rfl
  unfold attachLeg
  dsimp only
  split
  · rfl
  · rw [hpaired]
    rfl

theorem DataStep.now {s t : Gateway} (h : DataStep Γ e s t) (he : ∀ now, e ≠ .clock now) : t.now = s.now := by
  cases h with
  | close h =>
    cases h with
    | turn h => exact h.now
    | teardown reason channelId => exact teardownChannel_now _ _ _
  | dropTickets keep => rfl
  | openChannel fresh peer backendPeer lease target kind => rfl
  | proxyViaChannel fresh hr epoch backendPeer =>
    unfold Gateway.proxyViaChannel
    split <;> rfl
  | connect fresh ip hact =>
    unfold Gateway.controlConnection
    dsimp only
    split <;> rfl
  | dial fresh channelId ticket handshakeOk hact =>
    rcases handleChannelUpgrade_cases s channelId ticket handshakeOk with hd | ⟨found, ch, -, -, hc, -, hd⟩
    · rw [hd]
      rfl
    · rw [hd, attachLeg_now]
      rfl
  | responseHead hx hm meta_ => exact (responseHead_speaks _ _ _ _).now
  | responseBody hx hm data => exact (callResponse_speaks _ _ _).now
  | bridgeClose hk hl hact =>
    unfold Gateway.bridgeClose
    split
    · rfl
    · rw [teardownChannel_now]
      unfold finishResponse
      dsimp only
      split
      · split <;> rfl
      · rfl
  | responseClose ex =>
    unfold Gateway.responseClose
    split
    · rfl
    · split
      · rfl
      · exact teardownChannel_now _ _ _
  | responseDrain ex =>
    unfold Gateway.responseDrain
    split
    · split <;> rfl
    · rfl
  | clock hact => exact absurd hact (he _)
  | relay h hact => exact h.now

/-- Only the clock moves the clock. -/
theorem handle_now {s : Gateway} (fresh : s.Fresh Γ) (he : ∀ now, e ≠ .clock now) : (s.handle Γ e).now = s.now := by
  refine handle_preserves (I := fun u => u.now = s.now) e (fun u v hstep hu => ?_) (fun u ws p hu => hu) fresh rfl
  exact (hstep.now he).trans hu

end Gateway

end ZclaudiaGateway
