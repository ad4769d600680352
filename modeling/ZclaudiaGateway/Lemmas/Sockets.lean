import ZclaudiaGateway.Server

/-!
# What the operations on sockets and responses leave alone

Most of what a handler does to the network sends messages, starts to close sockets, pauses and resumes them, or moves a timer.
None of it reopens a socket, changes what its listeners are for, or touches the state of a response or of a relayed leg.
`Net.Turns` is that relation between the network before and after.
-/

namespace ZclaudiaGateway

/-! ## Turns of a socket and of a response -/

/-- The listeners are for the same: the same leg of the same channel, the same bridge, the same connection. -/
def Listener.SameRole : Listener → Listener → Prop
  | .none, .none => True
  | .control conn, .control conn' => conn'.ip = conn.ip ∧ conn'.peerSessionId = conn.peerSessionId
  | .relay leg, .relay leg' => leg'.channelId = leg.channelId ∧ leg'.dst = leg.dst
  | .bridge channelId ex, .bridge channelId' ex' => channelId' = channelId ∧ ex' = ex
  | _, _ => False

theorem Listener.SameRole.refl (l : Listener) : l.SameRole l := by
  cases l <;> simp [Listener.SameRole]

theorem Listener.SameRole.trans {l l' l'' : Listener} (h : l.SameRole l') (h' : l'.SameRole l'') : l.SameRole l'' := by
  cases l <;> cases l' <;> cases l'' <;> simp_all [Listener.SameRole]

/-- The channel whose data a socket carries. -/
def Listener.channel? : Listener → Option String
  | .relay leg => some leg.channelId
  | .bridge channelId _ => some channelId
  | _ => Option.none

theorem Listener.SameRole.channel?_eq {l l' : Listener} (h : l.SameRole l') : l'.channel? = l.channel? := by
  cases l <;> cases l' <;> simp_all [Listener.SameRole, Listener.channel?]

/-- A socket without listeners stays without them. -/
theorem Listener.SameRole.none_iff {l l' : Listener} (h : l.SameRole l') : l' = .none ↔ l = .none := by
  cases l <;> cases l' <;> simp_all [Listener.SameRole]

/-- What may happen to a socket in passing. A socket that waits to be paired stays held, and a relayed leg as it is. -/
structure WsSocket.Turns (k k' : WsSocket) : Prop where
  readyState : k'.readyState = k.readyState ∨ (k.readyState ≠ .closed ∧ k'.readyState ≠ .open_)
  errorListener : k'.errorListener = k.errorListener
  listener : k.listener.SameRole k'.listener
  held : k.listener = .none → k'.paused = k.paused
  leg : ∀ leg, k.listener = .relay leg → k'.listener = .relay leg ∧ k'.paused = k.paused

theorem WsSocket.Turns.refl (k : WsSocket) : k.Turns k := ⟨Or.inl rfl, rfl, .refl _, fun _ => rfl, fun _ hl => ⟨hl, rfl⟩⟩

theorem WsSocket.Turns.trans {k k' k'' : WsSocket} (h : k.Turns k') (h' : k'.Turns k'') : k.Turns k'' := by
  refine ⟨?_, h'.errorListener.trans h.errorListener, h.listener.trans h'.listener, fun hl => ?_, fun leg hl => ?_⟩
  · rcases h.readyState with he | ⟨hc, ho⟩
    · rcases h'.readyState with he' | ⟨hc', ho'⟩
      · exact Or.inl (he'.trans he)
      · exact Or.inr ⟨he ▸ hc', ho'⟩
    · rcases h'.readyState with he' | ⟨_, ho'⟩
      · exact Or.inr ⟨hc, he' ▸ ho⟩
      · exact Or.inr ⟨hc, ho'⟩
  · exact (h'.held (h.listener.none_iff.mpr hl)).trans (h.held hl)
  · obtain ⟨hl', hp⟩ := h.leg leg hl
    obtain ⟨hl'', hp'⟩ := h'.leg leg hl'
    exact ⟨hl'', hp'.trans hp⟩

/-- A socket that is not closed starts to close. -/
theorem WsSocket.Turns.closing {k : WsSocket} (h : k.readyState ≠ .closed) :
    k.Turns { k with readyState := .closing } :=
  ⟨Or.inr ⟨h, by simp⟩, rfl, .refl _, fun _ => rfl, fun _ hl => ⟨hl, rfl⟩⟩

/-- The data socket of an HTTP channel is paused or resumed. -/
theorem WsSocket.Turns.paused {k : WsSocket} {channelId : String} {ex : ExchangeId} (h : k.listener = .bridge channelId ex)
    (paused : Bool) : k.Turns { k with paused } :=
  ⟨Or.inl rfl, rfl, .refl _, fun hn => absurd (h.symm.trans hn) nofun, fun _ hl => absurd (h.symm.trans hl) nofun⟩

/-- A socket that turned is open only if it was. -/
theorem WsSocket.Turns.open_of {k k' : WsSocket} (h : k.Turns k') (ho : k'.readyState = .open_) :
    k.readyState = .open_ := by
  rcases h.readyState with he | ⟨_, hn⟩
  · rw [← he, ho]
  · exact absurd ho hn

/-- A socket that turned is closed if it was. -/
theorem WsSocket.Turns.closed_of {k k' : WsSocket} (h : k.Turns k') (hc : k.readyState = .closed) :
    k'.readyState = .closed := by
  rcases h.readyState with he | ⟨hn, _⟩
  · rw [he, hc]
  · exact absurd hc hn

/-- What may happen to an exchange in passing: its timers and polls move, its response is not touched. -/
structure HttpExchange.Turns (x x' : HttpExchange) : Prop where
  channelId : x'.channelId = x.channelId
  request : x'.request = x.request
  targetPath : x'.targetPath = x.targetPath
  headersSent : x'.headersSent = x.headersSent
  writableEnded : x'.writableEnded = x.writableEnded
  destroyed : x'.destroyed = x.destroyed
  ws : x'.ws = x.ws
  metaReceived : x'.metaReceived = x.metaReceived

theorem HttpExchange.Turns.refl (x : HttpExchange) : x.Turns x :=
  ⟨rfl, rfl, rfl, rfl, rfl, rfl, rfl, rfl⟩

theorem HttpExchange.Turns.trans {x x' x'' : HttpExchange} (h : x.Turns x') (h' : x'.Turns x'') : x.Turns x'' :=
  ⟨h'.channelId.trans h.channelId, h'.request.trans h.request, h'.targetPath.trans h.targetPath,
    h'.headersSent.trans h.headersSent, h'.writableEnded.trans h.writableEnded, h'.destroyed.trans h.destroyed, h'.ws.trans h.ws,
    h'.metaReceived.trans h.metaReceived⟩

/-- The output is no part of a proxied response, does not start a proxied request, and admits no socket. -/
def Output.passing : Output → Bool
  | .call _ _ | .head _ _ _ | .body _ _ | .endResponse _ | .destroyResponse _ | .replyProxy _ _ => false
  | .upgraded _ | .attached _ _ _ | .sendHttp _ (.request _ _ _) => false
  | _ => true

/-- The output is the head of a proxied request. -/
def Output.isRequest : Output → Bool
  | .sendHttp _ (.request _ _ _) => true
  | _ => false

theorem Output.passing_of_isRequest {o : Output} (h : o.isRequest = true) : o.passing = false := by
  cases o with
  | sendHttp ws frame => cases frame <;> first | rfl | cases h
  | _ => cases h

namespace Net

/-- The heads of proxied requests that have gone out. -/
def requests (net : Net) : List Output := net.outbox.filter Output.isRequest

/-- What has gone out to proxied responses, the requests that were passed on, and the sockets that were admitted. -/
def staged (net : Net) : List Output := net.outbox.filter (fun o => !o.passing)

/-- Every socket and every exchange at most turns, none is new, and no request and no part of a response is passed on. -/
structure Turns (net net' : Net) : Prop where
  sockets : net.sockets.Pointwise WsSocket.Turns net'.sockets
  exchanges : net.exchanges.Pointwise HttpExchange.Turns net'.exchanges
  staged : net'.staged.Sublist net.staged

theorem Turns.refl (net : Net) : net.Turns net :=
  ⟨.refl WsSocket.Turns.refl _, .refl HttpExchange.Turns.refl _, .refl _⟩

theorem Turns.trans {net net' net'' : Net} (h : net.Turns net') (h' : net'.Turns net'') : net.Turns net'' :=
  ⟨h.sockets.trans (fun _ _ _ => .trans) h'.sockets, h.exchanges.trans (fun _ _ _ => .trans) h'.exchanges,
    h'.staged.trans h.staged⟩

/-- The network with the same sockets and exchanges. -/
theorem Turns.of_eq {net net' : Net} (hs : net'.sockets = net.sockets) (hx : net'.exchanges = net.exchanges)
    (hout : net'.staged.Sublist net.staged) : net.Turns net' :=
  ⟨by rw [hs]; exact .refl WsSocket.Turns.refl _, by rw [hx]; exact .refl HttpExchange.Turns.refl _, hout⟩

theorem requests_emit (o : Output) (net : Net) :
    (net.emit o).requests = if o.isRequest then net.requests ++ [o] else net.requests := by
  simp only [requests, emit, List.filter_append]
  cases h : o.isRequest <;> simp [h]

/-- No request goes out in passing. -/
theorem Turns.requests {net net' : Net} (h : net.Turns net') : net'.requests.Sublist net.requests := by
  have hof (n : Net) : n.requests = n.staged.filter Output.isRequest := by
    rw [Net.requests, Net.staged, List.filter_filter]
    refine List.filter_congr fun o _ => ?_
    by_cases ho : o.isRequest = true
    · simp [ho, Output.passing_of_isRequest ho]
    · simp [ho]
  rw [hof, hof]
  exact h.staged.filter _

theorem staged_emit (o : Output) (net : Net) :
    (net.emit o).staged = if o.passing then net.staged else net.staged ++ [o] := by
  simp only [staged, emit, List.filter_append]
  cases h : o.passing <;> simp [h]

/-! ## The operations -/

theorem Turns.modifySocket {ws : SocketId} {f : WsSocket → WsSocket} {net : Net}
    (hf : ∀ k, net.sockets.get ws = some k → k.Turns (f k)) : net.Turns (net.modifySocket ws f) :=
  ⟨.modify WsSocket.Turns.refl hf, .refl HttpExchange.Turns.refl _, .refl _⟩

theorem Turns.modifyExchange {ex : ExchangeId} {f : HttpExchange → HttpExchange} {net : Net}
    (hf : ∀ x, net.exchanges.get ex = some x → x.Turns (f x)) : net.Turns (net.modifyExchange ex f) :=
  ⟨.refl WsSocket.Turns.refl _, .modify HttpExchange.Turns.refl hf, .refl _⟩

theorem Turns.emit {o : Output} (ho : o.passing = true) (net : Net) : net.Turns (net.emit o) :=
  .of_eq rfl rfl (by rw [staged_emit, if_pos ho])

theorem Turns.sendToWs (ws : SocketId) (m : GatewayToPeer) (net : Net) : net.Turns (net.sendToWs ws m) := by
  unfold Net.sendToWs
  split
  · exact .emit rfl _
  · exact .refl _

theorem Turns.ping (ws : SocketId) (net : Net) : net.Turns (net.ping ws) := by
  unfold Net.ping
  split
  · exact .emit rfl _
  · exact .refl _

theorem readyState_eq {net : Net} {ws : SocketId} {k : WsSocket} (h : net.sockets.get ws = some k) :
    net.readyState ws = k.readyState := by
  rw [readyState, h]

theorem Turns.close (ws : SocketId) (code : Nat) (reason : String) (net : Net) : net.Turns (net.close ws code reason) := by
  unfold Net.close
  split
  · rename_i ho
    refine Turns.trans ?_ (.emit rfl _)
    refine .modifySocket fun k hk => .closing ?_
    rw [readyState_eq hk] at ho
    simp [ho]
  · exact .refl _

theorem Turns.terminate (ws : SocketId) (net : Net) : net.Turns (net.terminate ws) := by
  unfold Net.terminate
  split
  · exact .refl _
  · rename_i hc
    refine Turns.trans ?_ (.emit rfl _)
    refine .modifySocket fun k hk => .closing ?_
    rwa [readyState_eq hk] at hc

/-- Pausing the data socket of an HTTP channel. -/
theorem Turns.pause {ws : SocketId} {channelId : String} {ex : ExchangeId} {net : Net}
    (hl : ∀ k, net.sockets.get ws = some k → k.listener = .bridge channelId ex) : net.Turns (net.pause ws) := by
  unfold Net.pause
  split
  · exact .refl _
  · refine Turns.trans ?_ (.emit rfl _)
    exact .modifySocket fun k hk => .paused (hl k hk) true

/-- Resuming the data socket of an HTTP channel. -/
theorem Turns.resume {ws : SocketId} {channelId : String} {ex : ExchangeId} {net : Net}
    (hl : ∀ k, net.sockets.get ws = some k → k.listener = .bridge channelId ex) : net.Turns (net.resume ws) := by
  unfold Net.resume
  split
  · exact .refl _
  · exact .modifySocket fun k hk => .paused (hl k hk) false

theorem Turns.broadcast (st : GatewayState) (peers : List PeerSession)
    (perScope : InsertionMap String (List BackendPresence)) (net : Net) :
    net.Turns (ZclaudiaGateway.broadcastTo st peers perScope net) := by
  induction peers generalizing perScope net with
  | nil => exact .refl _
  | cons peer rest ih =>
    unfold ZclaudiaGateway.broadcastTo
    exact (Turns.sendToWs _ _ _).trans (ih _ _)

/-- A list of operations, each of which at most turns. -/
theorem Turns.foldl {α : Type} {f : Net → α → Net} (hf : ∀ (net : Net) a, net.Turns (f net a)) (l : List α) (net : Net) :
    net.Turns (l.foldl f net) := by
  induction l generalizing net with
  | nil => exact .refl _
  | cons a l ih => exact (hf net a).trans (ih _)

theorem Turns.fanOut (peers : InsertionMap String PeerSession) (subs : List String) (m : GatewayToPeer) (net : Net) :
    net.Turns (Gateway.fanOut peers subs m net) := by
  refine .foldl (fun net subId => ?_) subs net
  split
  · exact .sendToWs _ _ _
  · exact .refl _

/-- The authentication timer of a control socket. -/
theorem Turns.clearAuthTimeout (ws : SocketId) (net : Net) : net.Turns (Gateway.clearAuthTimeout ws net) := by
  refine .modifySocket fun k _ => ?_
  rcases hl : k.listener with _ | conn | leg | ⟨channelId, ex⟩ <;> simp only
  · exact .refl _
  · exact ⟨Or.inl rfl, rfl, by rw [hl]; exact ⟨rfl, rfl⟩, fun _ => rfl, fun leg hr => absurd (hl.symm.trans hr) nofun⟩
  · exact .refl _
  · exact .refl _

end Net

/-! ## Projections -/

namespace Gateway

section Projections

variable (s : Gateway) (f : Net → Net)

@[simp] theorem onNet_storage : (s.onNet f).storage = s.storage := rfl

@[simp] theorem onNet_state : (s.onNet f).state = s.state := rfl

@[simp] theorem onNet_recoveryTokens : (s.onNet f).recoveryTokens = s.recoveryTokens := rfl

@[simp] theorem onNet_channels : (s.onNet f).channels = s.channels := rfl

@[simp] theorem onNet_channelTickets : (s.onNet f).channelTickets = s.channelTickets := rfl

@[simp] theorem onNet_topicSubs : (s.onNet f).topicSubs = s.topicSubs := rfl

@[simp] theorem onNet_retainedTopics : (s.onNet f).retainedTopics = s.retainedTopics := rfl

@[simp] theorem onNet_net : (s.onNet f).net = f s.net := rfl

@[simp] theorem onNet_now : (s.onNet f).now = s.now := rfl

@[simp] theorem onNet_drawn : (s.onNet f).drawn = s.drawn := rfl

@[simp] theorem onNet_uncaught : (s.onNet f).uncaught = s.uncaught := rfl

@[simp] theorem onNet_wsConnectionsPerIp : (s.onNet f).wsConnectionsPerIp = s.wsConnectionsPerIp := rfl

end Projections

end Gateway

end ZclaudiaGateway
