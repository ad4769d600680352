import ZclaudiaGateway.Lemmas.Responses

/-!
# Hellos

The one event that opens sessions is the delivery of an acceptable hello on a control connection that is not authenticated.
-/

namespace ZclaudiaGateway

/-- The hello a frame holds, if the validator accepts it. -/
def acceptableHello (Γ : Ctx) (frame : Frame) : Option PeerHello :=
  match Γ.jsonParse frame.data with
  | none => none
  | some message =>
    match validatePeerHelloV4 message, readPeerHello message with
    | none, some hello => some hello
    | _, _ => none

/-- The control connection of a socket that still reads, before it is authenticated. -/
def Net.unauthenticated (net : Net) (ws : SocketId) : Option ControlConn :=
  match net.sockets.get ws with
  | some { listener := .control conn, readyState, .. } =>
    if readyState ≠ .closed ∧ conn.peerSessionId = none then some conn else none
  | _ => none

/-- The session of a control socket that still reads, once it is authenticated. -/
def Net.authenticatedAs (net : Net) (ws : SocketId) : Option String :=
  match net.sockets.get ws with
  | some { listener := .control conn, readyState, .. } => if readyState ≠ .closed then conn.peerSessionId else none
  | _ => none

namespace Gateway

variable {Γ : Ctx}

/-- The message that the event brings to the router, with the peer it is from. -/
def routed (Γ : Ctx) (s : Gateway) (e : Event) : Option (PeerSession × GatewayMessage) :=
  match e with
  | .message ws frame _ _ =>
    match s.net.authenticatedAs ws, Γ.jsonParse frame.data with
    | some peerSessionId, some message =>
      match s.state.peers.get peerSessionId, validateGatewayMessage message with
      | some peer, none => (readGatewayMessage message).map (fun m => (peer, m))
      | _, _ => none
    | _, _ => none
  | _ => none

/-- What an event asks the gateway for. -/
inductive Request where
  | message (peer : PeerSession) (message : GatewayMessage)
  | registry (token : String)

/-- What the event asks for: what its message asks the router, or the registry for a recovery token. -/
def requested (Γ : Ctx) (s : Gateway) (e : Event) : Option Request :=
  match e with
  | .message _ _ _ _ => (s.routed Γ e).map (fun r => .message r.1 r.2)
  | .syncRegistry _ authorization => (bearerToken authorization).map .registry
  | _ => none

theorem requested_message {s : Gateway} {e : Event} {peer : PeerSession} {m : GatewayMessage}
    (h : s.requested Γ e = some (.message peer m)) : s.routed Γ e = some (peer, m) := by
  unfold requested at h
  split at h
  · obtain ⟨r, hr, he⟩ := Option.map_eq_some_iff.mp h
    cases he
    exact hr
  · obtain ⟨token, -, he⟩ := Option.map_eq_some_iff.mp h
    cases he
  · cases h

theorem requested_registry {s : Gateway} {e : Event} {token : String} (h : s.requested Γ e = some (.registry token)) :
    ∃ ip authorization, e = .syncRegistry ip authorization ∧ bearerToken authorization = some token := by
  unfold requested at h
  split at h
  · obtain ⟨r, -, he⟩ := Option.map_eq_some_iff.mp h
    cases he
  · obtain ⟨token', ht, he⟩ := Option.map_eq_some_iff.mp h
    cases he
    exact ⟨_, _, rfl, ht⟩
  · cases h

/-- The event delivers an acceptable hello on a connection that is not authenticated. -/
def helloOf (Γ : Ctx) (s : Gateway) (e : Event) : Option (SocketId × ControlConn × PeerHello) :=
  match e with
  | .message ws frame _ _ =>
    match s.net.unauthenticated ws, acceptableHello Γ frame with
    | some conn, some hello => some (ws, conn, hello)
    | _, _ => none
  | _ => none

/-- The live credential that admits a hello. -/
def admittedAs (Γ : Ctx) (s : Gateway) (hello : PeerHello) : Option CredentialRecord :=
  (s.resolveToken Γ hello.gatewaySecret).1.filter (fun credential => (refuseHello Γ credential hello).isNone)

/-- What a hello makes of the gateway. -/
def greet (Γ : Ctx) (ws : SocketId) (conn : ControlConn) (hello : PeerHello) (s : Gateway) : Gateway :=
  let (peerSessionId, s) := (s.onNet (clearAuthTimeout ws)).handlePeerHello Γ ws hello conn.ip
  s.onNet (modifyConn ws (fun conn => { conn with peerSessionId }))

theorem authenticatedAs_eq {net : Net} {ws : SocketId} {p : String} (h : net.authenticatedAs ws = some p) :
    ∃ k conn, net.sockets.get ws = some k ∧ k.listener = .control conn ∧ k.reads = true ∧ conn.peerSessionId = some p := by
  unfold Net.authenticatedAs at h
  split at h
  · rename_i hk
    split at h
    · rename_i hopen
      exact ⟨_, _, hk, rfl, by simp [WsSocket.reads, hopen], h⟩
    · cases h
  · cases h

theorem authenticatedAs_of {net : Net} {ws : SocketId} {k : WsSocket} {conn : ControlConn}
    (hk : net.sockets.get ws = some k) (hl : k.listener = .control conn) (hr : k.reads = true) :
    net.authenticatedAs ws = conn.peerSessionId := by
  obtain ⟨readyState, paused, errorListener, listener, replacedGrace⟩ := k
  simp only at hl
  subst hl
  have hopen : readyState ≠ .closed := by
    simp only [WsSocket.reads, Bool.and_eq_true, decide_eq_true_eq] at hr
    exact hr.1
  unfold Net.authenticatedAs
  rw [hk]
  exact if_pos hopen

theorem unauthenticated_eq {net : Net} {ws : SocketId} {conn : ControlConn} (h : net.unauthenticated ws = some conn) :
    ∃ k, net.sockets.get ws = some k ∧ k.listener = .control conn ∧ k.reads = true ∧ conn.peerSessionId = none := by
  unfold Net.unauthenticated at h
  split at h
  · rename_i hk
    split at h
    · rename_i hc
      obtain rfl := Option.some.inj h
      exact ⟨_, hk, rfl, by simp [WsSocket.reads, hc.1], hc.2⟩
    · cases h
  · cases h

theorem unauthenticated_of {net : Net} {ws : SocketId} {k : WsSocket} {conn : ControlConn} (hk : net.sockets.get ws = some k)
    (hl : k.listener = .control conn) (hr : k.reads = true) (hn : conn.peerSessionId = none) :
    net.unauthenticated ws = some conn := by
  obtain ⟨readyState, paused, errorListener, listener, replacedGrace⟩ := k
  simp only at hl
  subst hl
  have hopen : readyState ≠ .closed := by
    simp only [WsSocket.reads, Bool.and_eq_true, decide_eq_true_eq] at hr
    exact hr.1
  unfold Net.unauthenticated
  rw [hk]
  exact if_pos ⟨hopen, hn⟩

theorem helloOf_frame {s : Gateway} {e : Event} {ws : SocketId} {conn : ControlConn} {hello : PeerHello}
    (h : s.helloOf Γ e = some (ws, conn, hello)) :
    s.net.unauthenticated ws = some conn ∧
      ∃ frame buffered writable, e = .message ws frame buffered writable ∧ acceptableHello Γ frame = some hello := by
  cases e with
  | message ws' frame buffered writable =>
    unfold helloOf at h
    dsimp only at h
    split at h
    · rename_i hc hh
      simp only [Option.some.injEq, Prod.mk.injEq] at h
      obtain ⟨rfl, rfl, rfl⟩ := h
      exact ⟨hc, frame, buffered, writable, rfl, hh⟩
    · cases h
  | _ => cases h

theorem handle_hello {s : Gateway} {e : Event} {ws : SocketId} {conn : ControlConn} {hello : PeerHello}
    (h : s.helloOf Γ e = some (ws, conn, hello)) : s.handle Γ e = s.greet Γ ws conn hello := by
  obtain ⟨hc, frame, buffered, writable, rfl, hh⟩ := helloOf_frame h
  obtain ⟨k, hk, hl, hr, hn⟩ := unauthenticated_eq hc
  change s.socketMessage Γ ws frame buffered writable = _
  unfold acceptableHello at hh
  split at hh
  · cases hh
  · rename_i message hparse
    split at hh
    · rename_i hvalid hread
      obtain rfl := Option.some.inj hh
      unfold socketMessage controlMessage handleFirstMessage greet
      simp only [hk, hr, hl, hparse, hn, hvalid, hread, if_true]
    · cases hh

/-- A message that the router gets. -/
theorem handle_routed {s : Gateway} {e : Event} {peer : PeerSession} {m : GatewayMessage} (h : s.routed Γ e = some (peer, m)) :
    s.handle Γ e = s.routeMessage Γ peer m ∧ ∃ p ws frame buffered writable, e = .message ws frame buffered writable ∧
      s.net.authenticatedAs ws = some p ∧ s.state.peers.get p = some peer := by
  unfold routed at h
  split at h
  · rename_i ws frame buffered writable
    split at h
    · rename_i p message hp hparse
      split at h
      · rename_i peer' hpeer hvalid
        obtain ⟨m', hread, hm⟩ := Option.map_eq_some_iff.mp h
        cases hm
        obtain ⟨k, conn, hk, hl, hr, hn⟩ := authenticatedAs_eq hp
        refine ⟨?_, p, ws, frame, buffered, writable, rfl, hp, hpeer⟩
        change s.socketMessage Γ ws frame buffered writable = _
        unfold socketMessage controlMessage handlePeerMessage
        simp only [hk, hr, hl, hparse, hn, hpeer, hvalid, hread, if_true]
      · cases h
    · cases h
  · cases h

theorem helloOf_quiet (s : Gateway) (e : Event) : s.quiet.helloOf Γ e = s.helloOf Γ e := by
  cases e <;> rfl

theorem routed_quiet (s : Gateway) (e : Event) : s.quiet.routed Γ e = s.routed Γ e := by
  cases e <;> rfl

theorem admittedAs_quiet (s : Gateway) (hello : PeerHello) : s.quiet.admittedAs Γ hello = s.admittedAs Γ hello := by
  unfold admittedAs resolveToken
  split <;> rfl

/-- A first message that is no acceptable hello ends the connection. -/
theorem handleFirstMessage_refused {s : Gateway} {ws : SocketId} {k : WsSocket} {conn : ControlConn} {frame : Frame}
    {buffered : Nat} {writable : Bool} {message : JsonValue} (h : s.helloOf Γ (.message ws frame buffered writable) = none)
    (hk : s.net.sockets.get ws = some k) (hl : k.listener = .control conn) (hr : k.reads = true)
    (hn : conn.peerSessionId = none) (hparse : Γ.jsonParse frame.data = some message) :
    ∃ error, s.handleFirstMessage Γ ws conn message =
      (s.sendError ws .invalidMessage error).onNet (Net.close ws 1008 "Invalid peer_hello") := by
  unfold helloOf at h
  simp only [unauthenticated_of hk hl hr hn, acceptableHello, hparse] at h
  unfold handleFirstMessage
  split
  · rename_i hvalid hread
    simp [hvalid, hread] at h
  · exact ⟨_, rfl⟩

end Gateway

end ZclaudiaGateway
