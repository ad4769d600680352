import ZclaudiaGateway.Lemmas.Sessions

/-!
# Control connections

A control connection is authenticated by one hello and stays on the session that hello opened; that session sends to no other
socket.
-/

namespace ZclaudiaGateway

/-- The session of a control connection, once it is authenticated. -/
def Listener.session? : Listener → Option (Option String)
  | .control conn => some conn.peerSessionId
  | _ => Option.none

theorem Listener.SameRole.session?_eq {l l' : Listener} (h : l.SameRole l') : l'.session? = l.session? := by
  cases l <;> cases l' <;> simp_all [Listener.SameRole, Listener.session?]

namespace Gateway

variable {Γ : Ctx} {e : Event}

/-- Sockets stay, and none is a connection of another session; a new one is a connection of none. -/
structure ConnsKeep (s t : Gateway) : Prop where
  forth : ∀ ws k, s.net.sockets.get ws = some k →
    ∃ k', t.net.sockets.get ws = some k' ∧ k'.listener.session? = k.listener.session?
  back : ∀ ws k', t.net.sockets.get ws = some k' →
    (∃ k, s.net.sockets.get ws = some k) ∨ ws = s.drawn ∧ k'.listener.session?.join = none

theorem ConnsKeep.of_pointwise {s t : Gateway}
    (h : s.net.sockets.Pointwise (fun k k' => k'.listener.session? = k.listener.session?) t.net.sockets) :
    s.ConnsKeep t := by
  refine ⟨fun ws k hk => ?_, fun ws k' hk' => ?_⟩
  · obtain ⟨k', hk', he⟩ := h.get_some hk
    exact ⟨k', hk', he⟩
  · obtain ⟨k, hk, -⟩ := h.some_get hk'
    exact Or.inl ⟨k, hk⟩

theorem ConnsKeep.of_eq {s t : Gateway} (h : t.net.sockets = s.net.sockets) : s.ConnsKeep t := by
  refine ⟨fun ws k hk => ⟨k, h ▸ hk, rfl⟩, fun ws k' hk' => Or.inl ⟨k', h ▸ hk'⟩⟩

theorem ConnsKeep.trans {s t u : Gateway} (h : s.ConnsKeep t) (h' : t.ConnsKeep u) (hd : t.drawn = s.drawn) :
    s.ConnsKeep u := by
  refine ⟨fun ws k hk => ?_, fun ws k'' hk'' => ?_⟩
  · obtain ⟨k', hk', he⟩ := h.forth ws k hk
    obtain ⟨k'', hk'', he'⟩ := h'.forth ws k' hk'
    exact ⟨k'', hk'', he'.trans he⟩
  · rcases h'.back ws k'' hk'' with ⟨k', hk'⟩ | ⟨hw, hn⟩
    · rcases h.back ws k' hk' with ⟨k, hk⟩ | ⟨hw, hn⟩
      · exact Or.inl ⟨k, hk⟩
      · obtain ⟨k3, hk3, he⟩ := h'.forth ws k' hk'
        rw [hk'', Option.some.injEq] at hk3
        exact Or.inr ⟨hw, by rw [hk3, he, hn]⟩
    · exact Or.inr ⟨hd ▸ hw, hn⟩

theorem ConnsKeep.teardown (reason : ChannelClosedReason) (channelId : String) (s : Gateway) :
    s.ConnsKeep (s.teardownChannel reason channelId) := by
  have hl (ws : SocketId) := teardownChannel_listener reason s channelId ws
  refine ⟨fun ws k hk => ?_, fun ws k' hk' => ?_⟩
  · have he := hl ws
    rw [hk, Option.map_some] at he
    obtain ⟨k', hk', he'⟩ := Option.map_eq_some_iff.mp he
    exact ⟨k', hk', by rw [he']⟩
  · have he := hl ws
    rw [hk', Option.map_some] at he
    obtain ⟨k, hk, -⟩ := Option.map_eq_some_iff.mp he.symm
    exact Or.inl ⟨k, hk⟩

theorem ConnsKeep.connect {s : Gateway} (fresh : s.Fresh Γ) (ip : String) : s.ConnsKeep (s.controlConnection ip) := by
  obtain ⟨k0, hk0, hget⟩ := controlConnection_socket s ip
  refine ⟨fun ws k hk => ⟨k, ?_, rfl⟩, fun ws k' hk' => ?_⟩
  · rw [hget, if_neg (ne_of_lt (fresh.sockets ws k hk)), hk]
  · rw [hget] at hk'
    split at hk'
    · rename_i hw
      obtain rfl := Option.some.inj hk'
      refine Or.inr ⟨hw, ?_⟩
      rcases hk0 with ⟨-, -, -, hl⟩ | ⟨-, -, -, hl⟩
      · rw [hl]
        rfl
      · rw [hl]
        rfl
    · exact Or.inl ⟨k', hk'⟩

/-- The sockets that were there are there after a dial. -/
theorem attachLeg_forth (channelId : String) (role : ChannelRole) {s : Gateway} (fresh : s.Fresh Γ) {ws : SocketId}
    {k : WsSocket} (hk : s.net.sockets.get ws = some k) :
    ∃ k', (s.attachLeg channelId role).net.sockets.get ws = some k' ∧
      (k'.listener = k.listener ∨ k'.listener.channel? = some channelId) := by
  unfold Gateway.attachLeg
  dsimp only
  split
  · exact ⟨k, hk, Or.inl rfl⟩
  · refine (pairLegs_net _ _ _).1.get_some ?_
    exact (InsertionMap.get_set_of_ne (ne_of_lt (fresh.sockets ws k hk))).trans hk

/-- The socket that a dial wires has carried no data before. -/
theorem attachLeg_unheard {s : Gateway} (hL : s.Legs) (fresh : s.Fresh Γ) {channelId : String} {role : ChannelRole}
    {ch : ChannelRecord} (hc : s.channels.get channelId = some ch) (hp : ch.piped = false)
    (hlegs : (s.attachLeg channelId role).Legs) {w : SocketId} {k k' : WsSocket} (hk : s.net.sockets.get w = some k)
    (hk' : (s.attachLeg channelId role).net.sockets.get w = some k') (hl : k'.listener.channel? = some channelId) :
    k.listener = .none := by
  rcases hlegs.carries w k' channelId hk' hl with ⟨ch', role', hc', hleg⟩ | ⟨hn, -⟩
  · rw [attachLeg_channel _ _ _ hc, if_pos rfl, Option.some.injEq] at hc'
    rw [← hc', ChannelRecord.dialed_leg] at hleg
    split at hleg
    · exact absurd (Option.some.inj hleg).symm (ne_of_lt (fresh.sockets w k hk))
    · obtain ⟨k0, hk0, hw⟩ := hL.leg channelId ch role' w hc hleg
      rw [ChannelRecord.Wires, hp] at hw
      obtain rfl := Option.some.inj (hk.symm.trans hk0)
      exact hw.1
  · rw [attachLeg_channel _ _ _ hc, if_pos rfl] at hn
    cases hn

theorem ConnsKeep.dial {s : Gateway} (hA : s.Admission) (hL : s.Legs) (fresh : s.Fresh Γ) (channelId : String)
    (ticket : Option String) (handshakeOk : Bool) : s.ConnsKeep (s.handleChannelUpgrade channelId ticket handshakeOk) := by
  have hlegs := hL.dial hA fresh channelId ticket handshakeOk
  rcases handleChannelUpgrade_cases s channelId ticket handshakeOk with he | ⟨found, ch, ht, rfl, hc, -, he⟩
  · rw [he]
    exact .of_eq rfl
  · rw [he] at hlegs ⊢
    obtain ⟨hp, hfree, -⟩ := hA.not_piped ht hc
    have hfresh : (s.consumeTicket (ticket.getD "")).Fresh Γ := FreshUpTo.consumeTicket fresh _
    have hconsumed : (s.consumeTicket (ticket.getD "")).Legs :=
      hL.keeps (fun _ => rfl) (.refl WsSocket.Keeps.refl _) (.refl HttpExchange.SameBridge.refl _)
    have hc' : (s.consumeTicket (ticket.getD "")).channels.get found.channelId = some ch := hc
    refine ⟨fun ws k hk => ?_, fun ws k' hk' => ?_⟩
    · obtain ⟨k', hk', hl | hl⟩ := attachLeg_forth found.channelId found.role hfresh hk
      · exact ⟨k', hk', by rw [hl]⟩
      · -- The socket is a leg of the channel now; it was one before, waiting and without listeners.
        refine ⟨k', hk', ?_⟩
        have hnone : k.listener = .none := attachLeg_unheard hconsumed hfresh hc' hp hlegs hk hk' hl
        rw [hnone]
        rcases hl' : k'.listener with _ | conn | leg | ⟨id, ex⟩
        · rfl
        · rw [hl'] at hl
          cases hl
        · rfl
        · rfl
    · rcases (attachLeg_listener _ _ _ hk').1 with hw | ⟨k, hk⟩
      · rcases (attachLeg_listener _ _ _ hk').2 with hl | hl | ⟨k0, hk0, -⟩
        · exact Or.inr ⟨hw, by rw [hl]; rfl⟩
        · refine Or.inr ⟨hw, ?_⟩
          rcases hl' : k'.listener with _ | conn | leg | ⟨id, ex⟩
          · rfl
          · rw [hl'] at hl
            cases hl
          · rfl
          · rfl
        · exact Or.inl ⟨k0, hk0⟩
      · exact Or.inl ⟨k, hk⟩

theorem DataStep.conns {s t : Gateway} (h : DataStep Γ e s t) (hA : s.Admission) (hL : s.Legs) : s.ConnsKeep t := by
  cases h with
  | close h =>
    cases h with
    | turn h => exact .of_pointwise (h.net.sockets.mono fun _ _ hk => hk.listener.session?_eq)
    | teardown reason channelId => exact .teardown _ _ s
  | dropTickets keep => exact .of_eq rfl
  | openChannel fresh peer backendPeer lease target kind =>
    exact .of_eq (by simp [Gateway.openChannel])
  | proxyViaChannel fresh hr epoch backendPeer =>
    unfold Gateway.proxyViaChannel
    split
    · exact .of_eq rfl
    · exact .of_eq (Net.sendToWs_sockets _ _ _)
  | connect fresh ip hact => exact .connect fresh ip
  | dial fresh channelId ticket handshakeOk hact => exact .dial hA hL fresh _ _ _
  | responseHead hx hm meta_ => exact .of_eq (responseHead_speaks _ _ _ _).sockets
  | responseBody hx hm data => exact .of_eq (callResponse_speaks _ _ _).sockets
  | bridgeClose hk hl hact =>
    rename_i ws k channelId ex
    unfold Gateway.bridgeClose
    split
    · exact .of_eq rfl
    · rename_i x _
      obtain ⟨-, -, hsockets, -, hdrawn⟩ := finishResponse_tables channelId ex x s
      exact (ConnsKeep.of_eq hsockets).trans (.teardown _ _ _) hdrawn
  | responseClose ex =>
    unfold Gateway.responseClose
    split
    · exact .of_eq rfl
    · split
      · exact .of_eq rfl
      · have hclosed : s.ConnsKeep (s.onNet (Net.modifyExchange ex (fun x => { x with closed := true, destroyed := true }))) :=
          .of_eq rfl
        exact hclosed.trans (.teardown _ _ _) rfl
  | responseDrain ex =>
    exact .of_pointwise ((responseDrain_turns hL ex).net.sockets.mono fun _ _ hk => hk.listener.session?_eq)
  | clock hact => exact .of_eq rfl
  | relay h hact =>
    refine .of_pointwise (h.sockets (R := fun k k' => k'.listener.session? = k.listener.session?) (fun k => rfl)
      fun k leg leg' paused hl hends => ?_)
    rw [hl]
    rfl

theorem DataSteps.conns {s t : Gateway} (h : DataSteps Γ e s t) (fresh : s.Fresh Γ) (hA : s.Admission) (hL : s.Legs) :
    s.ConnsKeep t := by
  have hall : t.FreshUpTo Γ (s.drawn + 1) ∧ t.drawn = s.drawn ∧ t.Admission ∧ t.Legs ∧ s.ConnsKeep t := by
    induction h with
    | refl => exact ⟨fresh.mono (Nat.le_succ _), rfl, hA, hL, .of_eq rfl⟩
    | tail _ hstep ih =>
      obtain ⟨hfresh, hdrawn, hA', hL', hkeep⟩ := ih
      obtain ⟨hfresh', hdrawn'⟩ := hstep.fresh (hdrawn ▸ Nat.lt_succ_self _) hfresh
      exact ⟨hfresh', hdrawn'.trans hdrawn, hstep.admission hA', hstep.legs hA' hL',
        hkeep.trans (hstep.conns hA' hL') hdrawn⟩
  exact hall.2.2.2.2

theorem Closes.conns {s t : Gateway} (h : s.Closes t) : s.ConnsKeep t :=
  .of_pointwise (h.roles.mono fun _ _ hk => hk.session?_eq)

/-- Authentication changes one connection. -/
theorem authenticated_socket (ws : SocketId) (peerSessionId : Option String) (s : Gateway) (w : SocketId) :
    ((authenticated ws peerSessionId s).net.sockets.get w).map (fun k => k.listener.session?) =
      (s.net.sockets.get w).map (fun k =>
        if w = ws ∧ k.listener.session?.isSome then some peerSessionId else k.listener.session?) := by
  simp only [authenticated, modifyConn, onNet_net, Net.modifySocket, InsertionMap.get_modify]
  by_cases hw : w = ws
  · subst hw
    rw [if_pos rfl, Option.map_map]
    congr 1
    funext k
    rcases hl : k.listener with _ | conn | leg | ⟨id, ex⟩ <;> simp [Listener.session?, hl]
  · simp [hw]

/-! ## The session of a connection -/

/-- The session a control socket is authenticated on. -/
def sessionOf (s : Gateway) (ws : SocketId) : Option String :=
  ((s.net.sockets.get ws).bind (fun k => k.listener.session?)).join

/-- A session was opened by an event before, and sends to the connection that is authenticated on it. -/
def Seated (Γ : Ctx) (s : Gateway) : Prop :=
  ∀ ws p, s.sessionOf ws = some p →
    (∃ m < s.drawn, p = Γ.sessionIds.draw m) ∧ ∀ peer, s.state.peers.get p = some peer → peer.ws = ws

theorem sessionOf_eq {s : Gateway} {ws : SocketId} {k : WsSocket} (hk : s.net.sockets.get ws = some k) :
    s.sessionOf ws = k.listener.session?.join := by
  rw [sessionOf, hk, Option.bind_some]

theorem sessionOf_none {s : Gateway} {ws : SocketId} (hk : s.net.sockets.get ws = none) : s.sessionOf ws = none := by
  rw [sessionOf, hk]
  rfl

theorem ConnsKeep.sessionOf_eq {s t : Gateway} (h : s.ConnsKeep t) (ws : SocketId) : t.sessionOf ws = s.sessionOf ws := by
  rcases hk : s.net.sockets.get ws with _ | k
  · rw [sessionOf_none hk]
    rcases hk' : t.net.sockets.get ws with _ | k'
    · exact sessionOf_none hk'
    · rcases h.back ws k' hk' with ⟨k, hk''⟩ | ⟨-, hn⟩
      · rw [hk] at hk''
        cases hk''
      · rw [Gateway.sessionOf_eq hk', hn]
  · obtain ⟨k', hk', he⟩ := h.forth ws k hk
    rw [Gateway.sessionOf_eq hk', Gateway.sessionOf_eq hk, he]

/-- A control connection that is not authenticated learns its session, the others keep theirs. -/
theorem authenticated_sessionOf {s : Gateway} {ws : SocketId} {k : WsSocket} {conn : ControlConn}
    (hk : s.net.sockets.get ws = some k) (hl : k.listener = .control conn) (peerSessionId : Option String) (w : SocketId) :
    (authenticated ws peerSessionId s).sessionOf w = if w = ws then peerSessionId else s.sessionOf w := by
  have h := authenticated_socket ws peerSessionId s w
  unfold sessionOf
  by_cases hw : w = ws
  · subst hw
    rw [hk, Option.map_some] at h
    obtain ⟨k', hk', hs⟩ := Option.map_eq_some_iff.mp h
    rw [if_pos rfl, hk', Option.bind_some, hs, hl]
    simp [Listener.session?]
  · rw [if_neg hw]
    rcases hk0 : s.net.sockets.get w with _ | k0
    · rw [hk0] at h
      rw [Option.map_eq_none_iff.mp h]
    · rw [hk0, Option.map_some] at h
      obtain ⟨k', hk', hs⟩ := Option.map_eq_some_iff.mp h
      rw [hk', Option.bind_some, Option.bind_some, hs, if_neg (fun h => hw h.1)]

/-- The session a hello opens is that of the credential that admits it. -/
theorem handlePeerHello_session (ws : SocketId) (hello : PeerHello) (ip : String) (s : Gateway) :
    ((s.onNet (clearAuthTimeout ws)).handlePeerHello Γ ws hello ip).1 =
      (s.admittedAs Γ hello).map (fun _ => Γ.sessionIds.draw s.drawn) := by
  have hdrawn := (resolveToken_control (Γ := Γ) hello.gatewaySecret (s.onNet (clearAuthTimeout ws))).drawn
  have hcredential : ((s.onNet (clearAuthTimeout ws)).resolveToken Γ hello.gatewaySecret).1 =
      (s.resolveToken Γ hello.gatewaySecret).1 := by
    unfold resolveToken
    split <;> rfl
  unfold handlePeerHello admittedAs
  rw [← hcredential]
  rcases hr : (s.onNet (clearAuthTimeout ws)).resolveToken Γ hello.gatewaySecret with ⟨credential, s'⟩
  rw [hr] at hdrawn
  rcases credential with _ | credential
  · rfl
  · dsimp only at hdrawn ⊢
    rw [Option.filter_some]
    rcases refuseHello Γ credential hello with _ | ⟨code, message⟩
    · dsimp only
      rw [hdrawn]
      rfl
    · rfl

/-- A hello leaves every connection but its own on its session. -/
theorem greet_sessionOf {s : Gateway} {ws : SocketId} {conn : ControlConn} (hello : PeerHello)
    (hc : s.net.unauthenticated ws = some conn) (w : SocketId) :
    (s.greet Γ ws conn hello).sessionOf w =
      if w = ws then (s.admittedAs Γ hello).map (fun _ => Γ.sessionIds.draw s.drawn) else s.sessionOf w := by
  obtain ⟨k, hk, hl, -, -⟩ := unauthenticated_eq hc
  have hcleared : s.Closes (s.onNet (clearAuthTimeout ws)) := (DataTurns.onNet (.clearAuthTimeout ws _)).closes
  have hcloses := hcleared.trans (handlePeerHello_closes (Γ := Γ) ws hello conn.ip _)
  obtain ⟨k', hk', hrole⟩ := hcloses.roles.get_some hk
  have hs := hrole.session?_eq
  rw [hl] at hs
  rcases hl' : k'.listener with _ | conn' | leg | ⟨id, ex⟩ <;> rw [hl'] at hs
  · cases hs
  · have hw := authenticated_sessionOf hk' hl'
      ((s.onNet (clearAuthTimeout ws)).handlePeerHello Γ ws hello conn.ip).1 w
    rw [hcloses.conns.sessionOf_eq w, handlePeerHello_session] at hw
    rw [← hw, ← handlePeerHello_session (Γ := Γ) ws hello conn.ip s]
    rfl
  · cases hs
  · cases hs

/-- What a frame on an authenticated connection comes to: nothing, an error, or a message that the router gets. -/
theorem message_cases {s : Gateway} {ws : SocketId} {p : String} (hs : s.sessionOf ws = some p) (frame : Frame)
    (buffered : Nat) (writable : Bool) :
    s.handle Γ (.message ws frame buffered writable) = s ∨
      (∃ w code text, s.handle Γ (.message ws frame buffered writable) = s.sendError w code text) ∨
      ∃ peer m, s.state.peers.get p = some peer ∧
        s.handle Γ (.message ws frame buffered writable) = s.routeMessage Γ peer m := by
  change s.socketMessage Γ ws frame buffered writable = s ∨
    (∃ w code text, s.socketMessage Γ ws frame buffered writable = s.sendError w code text) ∨
    ∃ peer m, s.state.peers.get p = some peer ∧ s.socketMessage Γ ws frame buffered writable = s.routeMessage Γ peer m
  unfold socketMessage
  split
  · exact Or.inl rfl
  · rename_i k hk
    rw [Gateway.sessionOf_eq hk] at hs
    split
    · split
      · exact Or.inl rfl
      · rename_i conn hl
        have hn : conn.peerSessionId = some p := by
          rw [hl] at hs
          exact hs
        unfold controlMessage
        rw [hn]
        split
        · rename_i hnone
          cases hnone
        · exact Or.inr (Or.inl ⟨_, _, _, rfl⟩)
        · rename_i hnone
          cases hnone
        · rename_i q _ hq
          obtain rfl := Option.some.inj hq
          unfold handlePeerMessage
          rcases hp : s.state.peers.get p with _ | peer
          · exact Or.inl rfl
          · dsimp only
            rcases validateGatewayMessage _ with _ | error
            · dsimp only
              rcases readGatewayMessage _ with _ | m
              · exact Or.inr (Or.inl ⟨_, _, _, rfl⟩)
              · exact Or.inr (Or.inr ⟨peer, m, rfl, rfl⟩)
            · dsimp only
              split
              · rename_i hok
                split at hok
                · cases hok
                  exact Or.inr (Or.inl ⟨_, _, _, rfl⟩)
                · cases hok
              · exact Or.inr (Or.inl ⟨_, _, _, rfl⟩)
      · rename_i leg hl
        rw [hl] at hs
        cases hs
      · rename_i channelId ex hl
        rw [hl] at hs
        cases hs
    · exact Or.inl rfl

end Gateway

/-! ## Runs -/

section Runs

open Gateway

variable {Γ : Ctx} {storage : Storage}

/-- What an event does to the connections: a hello may authenticate its own, every other keeps its session. -/
theorem handle_sessionOf (e : Event) {s : Gateway} (fresh : s.Fresh Γ) (hA : s.Admission) (hL : s.Legs) :
    (∀ w, (s.handle Γ e).sessionOf w = s.sessionOf w) ∨
      ∃ ws conn hello, s.helloOf Γ e = some (ws, conn, hello) ∧ s.sessionOf ws = none ∧
        ∀ w, (s.handle Γ e).sessionOf w = if w = ws then some (Γ.sessionIds.draw s.drawn) else s.sessionOf w := by
  rcases hh : s.helloOf Γ e with _ | ⟨ws, conn, hello⟩
  · exact Or.inl fun w => ((handle_data fresh hh).conns fresh hA hL).sessionOf_eq w
  · obtain ⟨hc, -⟩ := helloOf_frame hh
    obtain ⟨k, hk, hl, -, hn⟩ := unauthenticated_eq hc
    have hnone : s.sessionOf ws = none := by
      rw [Gateway.sessionOf_eq hk, hl]
      exact hn
    have hs := greet_sessionOf (Γ := Γ) hello hc
    rw [handle_hello hh]
    rcases hadm : s.admittedAs Γ hello with _ | credential
    · refine Or.inl fun w => ?_
      rw [hs w, hadm]
      split
      · rename_i hw
        rw [hw, hnone]
        rfl
      · rfl
    · rw [hadm] at hs
      exact Or.inr ⟨ws, conn, hello, rfl, hnone, hs⟩

theorem seated_step (e : Event) {s : Gateway} (fresh : s.Fresh Γ) (hA : s.Admission) (hL : s.Legs) (ho : s.Owned Γ)
    (h : s.Seated Γ) : (s.handle Γ e).drawn = s.drawn ∧ ∀ ws p, (s.handle Γ e).sessionOf ws = some p →
      (∃ m < s.drawn + 1, p = Γ.sessionIds.draw m) ∧
        ∀ peer, (s.handle Γ e).state.peers.get p = some peer → peer.ws = ws := by
  obtain ⟨-, hdrawn⟩ := handle_owned e ho
  refine ⟨hdrawn, fun ws p hp => ?_⟩
  -- A session of before keeps its socket.
  have hold (hs : s.sessionOf ws = some p) : (∃ m < s.drawn + 1, p = Γ.sessionIds.draw m) ∧
      ∀ peer, (s.handle Γ e).state.peers.get p = some peer → peer.ws = ws := by
    obtain ⟨⟨m, hm, rfl⟩, hws⟩ := h ws p hs
    refine ⟨⟨m, Nat.lt_succ_of_lt hm, rfl⟩, fun peer hpeer => ?_⟩
    obtain ⟨w, hg⟩ := handle_greets (Γ := Γ) e ho
    rcases hg.peers _ peer hpeer with ⟨peer0, hp0, _, _, _, rfl⟩ | ⟨he, -⟩
    · exact hws peer0 hp0
    · exact absurd (Γ.sessionIds.injective he) (by omega)
  rcases handle_sessionOf (Γ := Γ) e fresh hA hL with hs | ⟨ws', conn, hello, hh, -, hs⟩
  · rw [hs] at hp
    exact hold hp
  · rw [hs] at hp
    split at hp
    · rename_i hw
      obtain rfl := Option.some.inj hp
      refine ⟨⟨s.drawn, Nat.lt_succ_self _, rfl⟩, fun peer hpeer => ?_⟩
      rw [handle_hello hh] at hpeer
      rcases (greet_greets ho ws' conn hello).peers _ peer hpeer with ⟨peer0, hp0, -⟩ | ⟨-, hws⟩
      · rw [FreshSessions.session ho.2] at hp0
        cases hp0
      · exact hws.trans hw.symm
    · exact hold hp

/-- After every run a session that an authenticated connection is on sends to that connection. -/
theorem seated_run (es : List Event) : ((gateway Γ storage).run es).Seated Γ := by
  induction es using List.reverseRecOn with
  | nil =>
    intro ws p hp
    cases hp
  | append_singleton es e ih =>
    rw [EventMachine.run_snoc]
    change (Gateway.step Γ _ e).Seated Γ
    have hfresh : ((gateway Γ storage).run es).quiet.Fresh Γ := (fresh_run es).turns (quiet_turns _)
    obtain ⟨hA, hL⟩ : ((gateway Γ storage).run es).Admission ∧ ((gateway Γ storage).run es).Legs := channels_run es
    have howned : ((gateway Γ storage).run es).Owned Γ := owned_run es
    unfold Gateway.step
    split
    · exact ih
    · obtain ⟨hdrawn, hseats⟩ := seated_step e hfresh (hA.turns (quiet_turns _)) (hL.turns (quiet_turns _))
        ⟨howned.1.only rfl rfl rfl rfl, howned.2⟩ ih
      intro ws p hp
      dsimp only
      rw [hdrawn]
      exact hseats ws p hp

/-- An authenticated connection stays on its session. -/
theorem authenticated_once {es es' : List Event} (h : es <+: es') {ws : SocketId} {p : String}
    (hp : ((gateway Γ storage).run es).sessionOf ws = some p) : ((gateway Γ storage).run es').sessionOf ws = some p := by
  obtain ⟨mid, rfl⟩ := h
  induction mid using List.reverseRecOn with
  | nil => simpa using hp
  | append_singleton mid e ih =>
    rw [← List.append_assoc, EventMachine.run_snoc]
    change (Gateway.step Γ _ e).sessionOf ws = some p
    have hfresh : ((gateway Γ storage).run (es ++ mid)).quiet.Fresh Γ := (fresh_run _).turns (quiet_turns _)
    obtain ⟨hA, hL⟩ : ((gateway Γ storage).run (es ++ mid)).Admission ∧ ((gateway Γ storage).run (es ++ mid)).Legs :=
      channels_run _
    unfold Gateway.step
    split
    · exact ih
    · rcases handle_sessionOf e hfresh (hA.turns (quiet_turns _)) (hL.turns (quiet_turns _)) with
        hs | ⟨ws', -, -, -, hnone, hs⟩
      · exact (hs ws).trans ih
      · refine (hs ws).trans ?_
        rw [if_neg]
        · exact ih
        · rintro rfl
          have hnone' : ((gateway Γ storage).run (es ++ mid)).sessionOf ws = none := hnone
          rw [ih] at hnone'
          cases hnone'

/-- Every session is on the connection it sends to. -/
def OnItsSocket (s : Gateway) : Prop := ∀ p peer, s.state.peers.get p = some peer → s.sessionOf peer.ws = some p

theorem onItsSocket_step (e : Event) {s : Gateway} (fresh : s.Fresh Γ) (hA : s.Admission) (hL : s.Legs) (ho : s.Owned Γ)
    (h : OnItsSocket s) : OnItsSocket (s.handle Γ e) := by
  intro p peer hp
  rcases hh : s.helloOf Γ e with _ | ⟨ws, conn, hello⟩
  · obtain ⟨peer0, hp0, isAlive, backendId, epoch, rfl⟩ := (handle_keeps ho.1 hh).peers p peer hp
    rw [((handle_data fresh hh).conns fresh hA hL).sessionOf_eq]
    exact h p peer0 hp0
  · obtain ⟨hc, -⟩ := helloOf_frame hh
    obtain ⟨k, hk, hl, -, hn⟩ := unauthenticated_eq hc
    have hnone : s.sessionOf ws = none := by
      rw [Gateway.sessionOf_eq hk, hl]
      exact hn
    rw [handle_hello hh] at hp ⊢
    rw [greet_sessionOf hello hc]
    rcases (greet_greets ho ws conn hello).peers p peer hp with ⟨peer0, hp0, isAlive, backendId, epoch, rfl⟩ | ⟨rfl, hws⟩
    · have hold := h p peer0 hp0
      rw [if_neg, hold]
      intro he
      dsimp only at he
      rw [he, hnone] at hold
      cases hold
    · rw [if_pos hws]
      rcases greet_control (Γ := Γ) ws conn hello s with ⟨hrefused, ht, -⟩ | ⟨u, credential, hadm, -⟩
      · -- A hello that is refused opens no session.
        obtain ⟨peer0, hp0, -⟩ := ht.keeps.peers _ peer hp
        rw [FreshSessions.session ho.2] at hp0
        cases hp0
      · rw [hadm]
        rfl

/-- After every run a session is on the connection it sends to. -/
theorem onItsSocket_run (es : List Event) : OnItsSocket ((gateway Γ storage).run es) := by
  induction es using List.reverseRecOn with
  | nil =>
    intro p peer hp
    cases hp
  | append_singleton es e ih =>
    rw [EventMachine.run_snoc]
    change OnItsSocket (Gateway.step Γ _ e)
    have hfresh : ((gateway Γ storage).run es).quiet.Fresh Γ := (fresh_run es).turns (quiet_turns _)
    obtain ⟨hA, hL⟩ : ((gateway Γ storage).run es).Admission ∧ ((gateway Γ storage).run es).Legs := channels_run es
    have howned : ((gateway Γ storage).run es).Owned Γ := owned_run es
    unfold Gateway.step
    split
    · exact ih
    · exact onItsSocket_step e hfresh (hA.turns (quiet_turns _)) (hL.turns (quiet_turns _))
        ⟨howned.1.only rfl rfl rfl rfl, howned.2⟩ ih

end Runs

end ZclaudiaGateway
