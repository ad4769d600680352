import ZclaudiaGateway.Lemmas.DataPlane

/-!
# The operations of an event, one by one

`Gateway.Op` lists the single operations that an event does to the network and to the channels: a message to one socket, the
start of one close, one call on a response, one teardown. Every event, a hello included, is a sequence of them (`handle_ops`).
What relates the gateway before and after every single operation so relates it before and after every event (`handle_rel`).
-/

namespace ZclaudiaGateway

/-- The channel that a message opens or closes at one of its ends. -/
def GatewayToPeer.channel? : GatewayToPeer → Option String
  | .channelReady channelId _ _ => some channelId
  | .channelOffer channelId _ _ _ _ => some channelId
  | .channelClosed channelId _ => some channelId
  | _ => none

/-- The output goes to no socket of the gateway and to no proxied response. -/
def Output.apart : Output → Bool
  | .reply _ | .notified _ | .refused => true
  | _ => false

/-- The event is one of those on which the timers and flow control of a proxied exchange move. -/
def Event.Paces (e : Event) : Prop :=
  (∃ ws frame buffered writable, e = .message ws frame buffered writable) ∨ (∃ ws, e = .socketClosed ws) ∨
    (∃ ex chunk buffered, e = .requestData ex chunk buffered) ∨ (∃ ex buffered, e = .requestDrainPoll ex buffered) ∨
    (∃ ex, e = .responseDrain ex) ∨ (∃ ex, e = .responseTimeout ex) ∨ ∃ ex, e = .idleTimeout ex

/-- Timers and polls of an exchange move, and nothing else of it. -/
structure HttpExchange.Paced (x x' : HttpExchange) : Prop extends x.Turns x' where
  statusCode : x'.statusCode = x.statusCode
  headers : x'.headers = x.headers
  closed : x'.closed = x.closed

namespace Net

/-- A single operation on the network that is neither part of a relay or a response nor about a channel. -/
inductive Op : Net → Net → Prop
  | send (ws : SocketId) {m : GatewayToPeer} (hm : m.channel? = none) (net : Net) : Op net (net.sendToWs ws m)
  | ping (ws : SocketId) (net : Net) : Op net (net.ping ws)
  | close (ws : SocketId) (code : Nat) (reason : String) (net : Net) : Op net (net.close ws code reason)
  | terminate (ws : SocketId) (net : Net) : Op net (net.terminate ws)
  | pause (ws : SocketId) (net : Net) : Op net (net.pause ws)
  | resume (ws : SocketId) (net : Net) : Op net (net.resume ws)
  | closing (ws : SocketId) {net : Net} (h : net.readyState ws ≠ .closed) :
    Op net (net.modifySocket ws (fun k => { k with readyState := .closing }))
  | grace (ws : SocketId) (replacedGrace : Bool) (net : Net) :
    Op net (net.modifySocket ws (fun k => { k with replacedGrace }))
  | conn (ws : SocketId) {f : ControlConn → ControlConn} (hf : ∀ conn, (f conn).ip = conn.ip) (net : Net) :
    Op net (Gateway.modifyConn ws f net)
  | emit {o : Output} (ho : o.apart = true) (net : Net) : Op net (net.emit o)

def Ops : Net → Net → Prop := Relation.ReflTransGen Op

theorem Ops.refl (net : Net) : net.Ops net := Relation.ReflTransGen.refl

theorem Ops.trans {net net' net'' : Net} (h : net.Ops net') (h' : net'.Ops net'') : net.Ops net'' :=
  Relation.ReflTransGen.trans h h'

theorem Op.ops {net net' : Net} (h : net.Op net') : net.Ops net' := .single h

theorem Ops.foldl {α : Type} {f : Net → α → Net} (hf : ∀ net a, Net.Ops net (f net a)) (l : List α) (net : Net) :
    net.Ops (l.foldl f net) := by
  induction l generalizing net with
  | nil => exact .refl net
  | cons a l ih => exact (hf net a).trans (ih _)

theorem Ops.broadcastTo (st : GatewayState) (peers : List PeerSession)
    (perScope : InsertionMap String (List BackendPresence)) (net : Net) :
    net.Ops (ZclaudiaGateway.broadcastTo st peers perScope net) := by
  induction peers generalizing perScope net with
  | nil => exact .refl net
  | cons peer rest ih =>
    unfold ZclaudiaGateway.broadcastTo
    exact (Op.send peer.ws rfl net).ops.trans (ih _ _)

theorem Ops.fanOut (peers : InsertionMap String PeerSession) (subs : List String) {m : GatewayToPeer} (hm : m.channel? = none)
    (net : Net) : net.Ops (Gateway.fanOut peers subs m net) := by
  refine .foldl (fun net subId => ?_) subs net
  split
  · exact (Op.send _ hm net).ops
  · exact .refl net

end Net

namespace Gateway

/-- The event is a frame on the data socket of the exchange. -/
def Answering (σ : Gateway) (e : Event) (ex : ExchangeId) : Prop :=
  ∃ ws k channelId frame buffered writable, e = .message ws frame buffered writable ∧ σ.net.sockets.get ws = some k ∧
    k.listener = .bridge channelId ex

theorem Answering.paces {σ : Gateway} {e : Event} {ex : ExchangeId} (h : σ.Answering e ex) : e.Paces := by
  obtain ⟨ws, k, channelId, frame, buffered, writable, rfl, -⟩ := h
  exact Or.inl ⟨ws, frame, buffered, writable, rfl⟩

/-- A single operation in the course of the event `e`, which found the gateway as `σ`. -/
inductive Op (Γ : Ctx) (e : Event) (σ : Gateway) : Gateway → Gateway → Prop
  /-- Tables that are neither channels nor connections change, or an exception is thrown. -/
  | tables {s t : Gateway} (net : t.net = s.net) (channels : t.channels = s.channels)
    (connections : t.wsConnectionsPerIp = s.wsConnectionsPerIp) (now : t.now = s.now) (drawn : t.drawn = s.drawn)
    (running : t.uncaught = none → s.uncaught = none) : Op Γ e σ s t
  | clock {s : Gateway} {now : Nat} (hact : e = .clock now) : Op Γ e σ s { s with now }
  | net {s : Gateway} {net : Net} (h : s.net.Op net) : Op Γ e σ s { s with net }
  | pace {s : Gateway} {ex : ExchangeId} {f : HttpExchange → HttpExchange} (hf : ∀ x : HttpExchange, x.Paced (f x)) (hact : e.Paces) :
    Op Γ e σ s (s.onNet (Net.modifyExchange ex f))
  | teardown {s : Gateway} (reason : ChannelClosedReason) (channelId : String) :
    Op Γ e σ s (s.teardownChannel reason channelId)
  | openChannel {s : Gateway} (fresh : s.Fresh Γ) (peer backendPeer : PeerSession) (lease : BackendLease) (target : String)
    (kind : Option String) : Op Γ e σ s (s.openChannel Γ peer backendPeer lease target kind)
  | proxyViaChannel {s : Gateway} (fresh : s.Fresh Γ) (request : ProxyRequest) (epoch : Nat) (backendPeer : PeerSession) :
    Op Γ e σ s (s.proxyViaChannel Γ request epoch backendPeer)
  | connect (ip : String) : Op Γ e σ σ (σ.controlConnection ip)
  | dial (channelId : String) (ticket : Option String) (handshakeOk : Bool) :
    Op Γ e σ σ (σ.handleChannelUpgrade channelId ticket handshakeOk)
  /-- A control socket is closed, and its connection is no longer counted. -/
  | hangUp {ws : SocketId} {k : WsSocket} {conn : ControlConn} (hk : σ.net.sockets.get ws = some k)
    (hl : k.listener = .control conn) (hopen : k.readyState ≠ .closed) (hact : e = .socketClosed ws) :
    Op Γ e σ σ
      { σ with
        wsConnectionsPerIp :=
          if (σ.wsConnectionsPerIp.get conn.ip).getD 1 ≤ 1 then σ.wsConnectionsPerIp.delete conn.ip
          else σ.wsConnectionsPerIp.set conn.ip ((σ.wsConnectionsPerIp.get conn.ip).getD 1 - 1)
        net := clearAuthTimeout ws (σ.net.modifySocket ws (fun k => { k with readyState := .closed })) }
  /-- Another socket is closed. -/
  | shut {ws : SocketId} {k : WsSocket} (hk : σ.net.sockets.get ws = some k) (hl : ∀ conn, k.listener ≠ .control conn)
    (hopen : k.readyState ≠ .closed) (hact : e = .socketClosed ws) :
    Op Γ e σ σ (σ.onNet (Net.modifySocket ws (fun k => { k with readyState := .closed })))
  | relay {ws : SocketId} {k : WsSocket} {leg : RelayLeg} {frame : Frame} {buffered : Nat} {writable : Bool}
    (hk : σ.net.sockets.get ws = some k) (hr : k.reads = true) (hl : k.listener = .relay leg)
    (hact : e = .message ws frame buffered writable) : Op Γ e σ σ (σ.relayMessage Γ ws leg frame buffered)
  | rateTimer {ws : SocketId} (hact : e = .rateTimer ws) : Op Γ e σ σ (σ.rateTimerFires ws)
  | drainPoll {ws : SocketId} {buffered : Nat} (hact : e = .drainPoll ws buffered) : Op Γ e σ σ (σ.drainPoll ws buffered)
  | requestData {ex : ExchangeId} {chunk : Bytes} {buffered : Nat} (hact : e = .requestData ex chunk buffered) :
    Op Γ e σ σ (σ.requestData ex chunk buffered)
  | requestEnd {ex : ExchangeId} (hact : e = .requestEnd ex) : Op Γ e σ σ (σ.requestEnd ex)
  | responseHead {s : Gateway} {ex : ExchangeId} {x : HttpExchange} (hx : s.net.exchanges.get ex = some x)
    (hm : x.metaReceived = false) (meta_ : JsonValue) (hact : σ.Answering e ex) : Op Γ e σ s (s.responseHead ex x.request meta_)
  | responseBody {s : Gateway} {ex : ExchangeId} {x : HttpExchange} (hx : s.net.exchanges.get ex = some x)
    (hm : x.metaReceived = true) (data : Bytes) (hact : σ.Answering e ex) : Op Γ e σ s (s.callResponse ex (.write data))
  | finishResponse {s : Gateway} {channelId : String} {ex : ExchangeId} {x : HttpExchange} (running : s.uncaught = none)
    (hx : s.net.exchanges.get ex = some x) (hact : e.Paces) : Op Γ e σ s (s.finishResponse channelId ex x)
  | abort {s : Gateway} {ex : ExchangeId} (hact : e = .responseClose ex) :
    Op Γ e σ s (s.onNet (Net.modifyExchange ex (fun x => { x with closed := true, destroyed := true })))

/-- The operations of an event, up to some point of it. -/
def Ops (Γ : Ctx) (e : Event) (σ : Gateway) : Gateway → Gateway → Prop := Relation.ReflTransGen (Op Γ e σ)

variable {Γ : Ctx} {e : Event} {σ : Gateway}

theorem Ops.refl (s : Gateway) : Ops Γ e σ s s := Relation.ReflTransGen.refl

theorem Ops.trans {s t u : Gateway} (h : Ops Γ e σ s t) (h' : Ops Γ e σ t u) : Ops Γ e σ s u := Relation.ReflTransGen.trans h h'

theorem Op.ops {s t : Gateway} (h : Op Γ e σ s t) : Ops Γ e σ s t := .single h

theorem Ops.foldl {α : Type} {f : Gateway → α → Gateway} (hf : ∀ s a, Ops Γ e σ s (f s a)) (l : List α) (s : Gateway) :
    Ops Γ e σ s (l.foldl f s) := by
  induction l generalizing s with
  | nil => exact .refl s
  | cons a l ih => exact (hf s a).trans (ih _)

/-- The network, the channels, the connections, the clock and the exception of the gateway. -/
def core (s : Gateway) :
    Net × InsertionMap String ChannelRecord × InsertionMap String Nat × Nat × Nat × Option JsError :=
  (s.net, s.channels, s.wsConnectionsPerIp, s.now, s.drawn, s.uncaught)

theorem Op.of_core {s t : Gateway} (h : t.core = s.core) : Op Γ e σ s t := by
  simp only [core, Prod.mk.injEq] at h
  obtain ⟨hn, hc, hw, hnow, hd, hu⟩ := h
  exact .tables hn hc hw hnow hd (fun hrun => hu ▸ hrun)

theorem Ops.of_core {s t : Gateway} (h : t.core = s.core) : Ops Γ e σ s t := (Op.of_core h).ops

theorem Ops.onState (f : GatewayState → GatewayState) (s : Gateway) : Ops Γ e σ s (s.onState f) := .of_core rfl

theorem Ops.onStorage (f : Storage → Storage) (s : Gateway) : Ops Γ e σ s (s.onStorage f) := .of_core rfl

theorem Ops.unregister (peer : PeerSession) (s : Gateway) : Ops Γ e σ s (s.unregisterRecoveryToken peer) := .of_core rfl

theorem Ops.removeSubscriptions (peerSessionId : String) (s : Gateway) :
    Ops Γ e σ s (s.removeTopicSubscriptionsForPeer peerSessionId) := .of_core rfl

theorem Ops.removeTopics (backendId : String) (s : Gateway) : Ops Γ e σ s (s.removeTopicsForBackend backendId) := .of_core rfl

theorem Ops.throw (error : JsError) (s : Gateway) : Ops Γ e σ s (s.throw error) := by
  refine Op.ops (.tables rfl rfl rfl rfl rfl ?_)
  intro hrun
  cases hrun

theorem Ops.of_net {s : Gateway} {net : Net} (h : s.net.Ops net) : Ops Γ e σ s { s with net } := by
  induction h with
  | refl => exact .refl s
  | tail _ hop ih => exact ih.trans (Op.net (s := { s with net := _ }) hop).ops

theorem Ops.onNet {s : Gateway} {f : Net → Net} (h : s.net.Ops (f s.net)) : Ops Γ e σ s (s.onNet f) := .of_net h

theorem Ops.send (ws : SocketId) {m : GatewayToPeer} (hm : m.channel? = none) (s : Gateway) :
    Ops Γ e σ s (s.onNet (Net.sendToWs ws m)) :=
  .onNet (Net.Op.send ws hm s.net).ops

theorem Ops.sendError (ws : SocketId) (code : GatewayErrorCode) (message : String) (s : Gateway) :
    Ops Γ e σ s (s.sendError ws code message) :=
  .send ws rfl s

theorem Ops.reply (r : HttpReply) (s : Gateway) : Ops Γ e σ s (s.reply r) := .onNet (Net.Op.emit rfl s.net).ops

theorem Ops.broadcast (exclude : Option String) (s : Gateway) : Ops Γ e σ s (s.broadcastRegistrySnapshot exclude) :=
  .onNet (.broadcastTo _ _ _ _)

/-! ## Losing channels, backends and peers -/

theorem teardownChannel_ops (reason : ChannelClosedReason) (s : Gateway) (channelId : String) :
    Ops Γ e σ s (s.teardownChannel reason channelId) :=
  (Op.teardown reason channelId).ops

theorem teardownWhere_ops (test : ChannelRecord → Bool) (reason : ChannelClosedReason) (s : Gateway) :
    Ops Γ e σ s (s.teardownWhere test reason) :=
  .foldl (teardownChannel_ops reason) _ s

theorem closeChannelsForBackend_ops (backendId : String) (reason : ChannelClosedReason) (s : Gateway) :
    Ops Γ e σ s (s.closeChannelsForBackend backendId reason) :=
  teardownWhere_ops _ _ s

theorem terminate_ops (ws : SocketId) (s : Gateway) : Ops Γ e σ s (s.onNet (Net.terminate ws)) :=
  .onNet (Net.Op.terminate ws s.net).ops

theorem close_ops (ws : SocketId) (code : Nat) (reason : String) (s : Gateway) :
    Ops Γ e σ s (s.onNet (Net.close ws code reason)) :=
  .onNet (Net.Op.close ws code reason s.net).ops

theorem handleBackendLeaseExpired_ops (backendId : String) (s : Gateway) :
    Ops Γ e σ s (s.handleBackendLeaseExpired backendId) := by
  unfold handleBackendLeaseExpired
  split
  · exact .refl s
  · have hremoved := (((((closeChannelsForBackend_ops (Γ := Γ) (e := e) (σ := σ) backendId .backendOffline s).trans
      (.removeTopics backendId _)).trans (.onState (.registryRemove backendId) _)).trans (.broadcast none _)).trans
      (.onState (.removeBackend backendId) _)).trans (.onStorage (.touchBackendIdentity s.now backendId none none) _)
    dsimp only
    split
    · exact hremoved
    · exact (((hremoved.trans (.onState _ _)).trans (terminate_ops _ _)).trans (.unregister _ _)).trans (.onState _ _)

theorem disconnectOwner_ops (peer : PeerSession) (backendId : String) (s : Gateway) :
    Ops Γ e σ s (s.disconnectOwner peer backendId) := by
  unfold disconnectOwner
  split
  · exact ((((closeChannelsForBackend_ops _ _ s).trans (.onState _ _)).trans (.broadcast _ _)).trans (.onState _ _)).trans
      (.onStorage _ _)
  · exact .refl s

theorem handlePeerDisconnect_ops (peerSessionId : String) (s : Gateway) :
    Ops Γ e σ s (s.handlePeerDisconnect peerSessionId) := by
  unfold handlePeerDisconnect
  split
  · exact .refl s
  · rename_i peer _
    rcases peer.backendId with _ | backendId
    · have hclosed := (teardownWhere_ops (Γ := Γ) (e := e) (σ := σ) (isEndOf peerSessionId) .closed s).trans
        (.removeSubscriptions peerSessionId _)
      exact ((hclosed.trans (terminate_ops _ _)).trans (.unregister _ _)).trans (.onState _ _)
    · have hclosed := ((disconnectOwner_ops (Γ := Γ) (e := e) (σ := σ) peer backendId s).trans
        (teardownWhere_ops (isEndOf peerSessionId) .closed _)).trans (.removeSubscriptions peerSessionId _)
      exact (((hclosed.trans (.removeTopics backendId _)).trans (terminate_ops _ _)).trans (.unregister _ _)).trans
        (.onState _ _)

theorem handleBackendOwnerReplaced_ops (backendId previousPeerSessionId : String) (s : Gateway) :
    Ops Γ e σ s (s.handleBackendOwnerReplaced backendId previousPeerSessionId) := by
  unfold handleBackendOwnerReplaced
  have hclosed := ((closeChannelsForBackend_ops (Γ := Γ) (e := e) (σ := σ) backendId .epochChanged s).trans
    (.removeTopics backendId _)).trans (.onState (.removeLease backendId) _)
  dsimp only
  split
  · exact hclosed
  · refine ((hclosed.trans (.onState _ _)).trans (close_ops _ _ _ _)).trans (.onNet ?_)
    exact (Net.Op.grace _ true _).ops

/-! ## Handshake -/

theorem registerBackend_ops (credential : CredentialRecord) (hello : PeerHello) (backend : BackendHello) (backendId : String)
    (epoch : Nat) (peer : PeerSession) (s : Gateway) :
    Ops Γ e σ s (s.registerBackend Γ credential hello backend backendId epoch peer) := by
  have hreplaced : Ops Γ e σ s (s.replaceOwner backendId peer.peerSessionId epoch) := by
    unfold replaceOwner
    split
    · exact .refl s
    · split
      · exact handleBackendOwnerReplaced_ops _ _ s
      · exact .refl s
  exact ((hreplaced.trans (.onState _ _)).trans (.onStorage _ _)).trans (.onState _ _)

theorem addSession_ops (peer : PeerSession) (grant : Option BackendGrant) (s : Gateway) :
    Ops Γ e σ s (s.addSession peer grant) := by
  have hadded : Ops Γ e σ s { (s.onState (.addPeer peer)) with
      recoveryTokens := s.recoveryTokens.set peer.recoveryToken peer.peerSessionId } := .of_core rfl
  unfold addSession
  split
  · exact (hadded.trans (.send _ rfl _)).trans (.broadcast _ _)
  · exact hadded.trans (.send _ rfl _)

theorem openSession_ops (ws : SocketId) (credential : CredentialRecord) (hello : PeerHello) (s : Gateway) :
    Ops Γ e σ s (s.openSession Γ ws credential hello) := by
  unfold openSession
  split
  · refine Ops.trans ?_ (addSession_ops _ _ _)
    refine Ops.trans ?_ (registerBackend_ops _ _ _ _ _ _ _)
    exact .of_core rfl
  · exact addSession_ops _ _ s

theorem resolveToken_ops (token : String) (s : Gateway) : Ops Γ e σ s (s.resolveToken Γ token).2 := by
  unfold resolveToken
  split
  · exact .of_core rfl
  · exact .refl s

theorem recordAuthFailure_ops (ip : String) (s : Gateway) : Ops Γ e σ s (s.recordAuthFailure Γ ip).2 := .of_core rfl

theorem refuse_ops (ws : SocketId) (code : GatewayErrorCode) (message : String) (s : Gateway) :
    Ops Γ e σ s (s.refuse ws code message) :=
  (Ops.sendError ws code message s).trans (close_ops ws 1005 "" _)

theorem handlePeerHello_ops (ws : SocketId) (hello : PeerHello) (ip : String) (s : Gateway) :
    Ops Γ e σ s (s.handlePeerHello Γ ws hello ip).2 := by
  have hresolved := resolveToken_ops (Γ := Γ) (e := e) (σ := σ) hello.gatewaySecret s
  unfold handlePeerHello
  rcases hr : s.resolveToken Γ hello.gatewaySecret with ⟨credential, s'⟩
  rw [hr] at hresolved
  rcases credential with _ | credential
  · have hfailed := hresolved.trans (recordAuthFailure_ops ip s')
    dsimp only
    split
    · exact hfailed.trans (refuse_ops _ _ _ _)
    · exact hfailed.trans (refuse_ops _ _ _ _)
  · dsimp only
    split
    · exact hresolved.trans (refuse_ops _ _ _ _)
    · exact hresolved.trans (openSession_ops _ _ _ _)

theorem modifyConn_ops (ws : SocketId) (f : ControlConn → ControlConn) (hf : ∀ conn, (f conn).ip = conn.ip) (s : Gateway) :
    Ops Γ e σ s (s.onNet (modifyConn ws f)) :=
  .onNet (Net.Op.conn ws hf s.net).ops

theorem clearAuthTimeout_ops (ws : SocketId) (s : Gateway) : Ops Γ e σ s (s.onNet (clearAuthTimeout ws)) :=
  modifyConn_ops ws _ (by intro; rfl) s

/-! ## Messages -/

theorem handleBackendHeartbeat_ops (peer : PeerSession) (epoch : JsNumber) (s : Gateway) :
    Ops Γ e σ s (s.handleBackendHeartbeat peer epoch) := by
  unfold handleBackendHeartbeat
  split
  · exact .refl s
  · split
    · exact .refl s
    · exact (Ops.onState _ s).trans (.send _ rfl _)

theorem handleBackendServerMessage_ops (peer : PeerSession) (backendId : String) (target : Option String)
    (raw : JsonValue) (s : Gateway) : Ops Γ e σ s (s.handleBackendServerMessage peer backendId target raw) := by
  unfold handleBackendServerMessage
  split
  · exact .refl s
  · split
    · exact .refl s
    · split
      · exact .refl s
      · split
        · exact .send _ rfl s
        · exact .refl s

theorem handlePushNotificationRequest_ops (peer : PeerSession) (event : JsonValue) (s : Gateway) :
    Ops Γ e σ s (s.handlePushNotificationRequest Γ peer event) := by
  unfold handlePushNotificationRequest
  split
  · exact .sendError _ _ _ s
  · split
    · exact .refl s
    · exact .onNet (Net.Op.emit rfl s.net).ops
    · exact .throw _ s

theorem handleTopicSubscribe_ops (peer : PeerSession) (backendId topic : String) (s : Gateway) :
    Ops Γ e σ s (s.handleTopicSubscribe peer backendId topic) := by
  unfold handleTopicSubscribe
  split
  · exact .sendError _ _ _ s
  · split
    · exact .sendError _ _ _ s
    · split
      · exact .sendError _ _ _ s
      · have hsubscribed (topicSubs) : Ops Γ e σ s { s with topicSubs } := .of_core rfl
        dsimp only
        split
        · exact ((hsubscribed _).trans (.send _ rfl _)).trans (.send _ rfl _)
        · exact (hsubscribed _).trans (.send _ rfl _)

theorem handleTopicUnsubscribe_ops (peer : PeerSession) (backendId topic : String) (s : Gateway) :
    Ops Γ e σ s (s.handleTopicUnsubscribe peer backendId topic) := by
  have hunsubscribed (topicSubs) : Ops Γ e σ s { s with topicSubs } := .of_core rfl
  exact (hunsubscribed _).trans (.send _ rfl _)

theorem handleTopicPublish_ops (peer : PeerSession) (topic : String) (payload : Option JsonValue) (retained : Bool)
    (s : Gateway) : Ops Γ e σ s (s.handleTopicPublish peer topic payload retained) := by
  unfold handleTopicPublish
  split
  · exact .refl s
  · split
    · exact .refl s
    · dsimp only
      split
      · split
        · exact .of_core rfl
        · exact .refl s
      · refine Ops.trans ?_ (.onNet (.fanOut _ _ rfl _))
        split
        · exact .of_core rfl
        · exact .refl s

theorem handleChannelOpen_ops (peer : PeerSession) (target : String) (kind : Option String) (s : Gateway)
    (fresh : s.Fresh Γ) : Ops Γ e σ s (s.handleChannelOpen Γ peer target kind) := by
  unfold handleChannelOpen
  split
  · exact .sendError _ _ _ s
  · dsimp only
    split
    · split
      · exact .sendError _ _ _ s
      · split
        · exact .sendError _ _ _ s
        · split
          · exact .sendError _ _ _ s
          · exact (Op.openChannel fresh _ _ _ _ _).ops
    · exact .sendError _ _ _ s

theorem handleChannelReject_ops (peer : PeerSession) (channelId : String) (s : Gateway) :
    Ops Γ e σ s (s.handleChannelReject peer channelId) := by
  unfold handleChannelReject
  split
  · exact .refl s
  · split
    · exact teardownChannel_ops _ s _
    · exact .refl s

theorem handleChannelClose_ops (peer : PeerSession) (channelId : String) (s : Gateway) :
    Ops Γ e σ s (s.handleChannelClose peer channelId) := by
  unfold handleChannelClose
  split
  · exact .refl s
  · split
    · exact teardownChannel_ops _ s _
    · exact .refl s

theorem routeMessage_ops (peer : PeerSession) (message : GatewayMessage) (s : Gateway) (fresh : s.Fresh Γ) :
    Ops Γ e σ s (s.routeMessage Γ peer message) := by
  cases message with
  | backendHeartbeat epoch => exact handleBackendHeartbeat_ops _ _ s
  | requestRegistrySnapshot => exact .send _ rfl s
  | backendServerMessage backendId target raw => exact handleBackendServerMessage_ops _ _ _ _ s
  | pushNotificationRequest event => exact handlePushNotificationRequest_ops _ _ s
  | ping ts => exact .send _ rfl s
  | channelOpen target kind => exact handleChannelOpen_ops _ _ _ s fresh
  | channelReject channelId => exact handleChannelReject_ops _ _ s
  | channelClose channelId => exact handleChannelClose_ops _ _ s
  | topicSubscribe backendId topic => exact handleTopicSubscribe_ops _ _ _ s
  | topicUnsubscribe backendId topic => exact handleTopicUnsubscribe_ops _ _ _ s
  | topicPublish topic payload retained => exact handleTopicPublish_ops _ _ _ _ s
  | unknown type => exact .sendError _ _ _ s

theorem handlePeerMessage_ops (peerSessionId : String) (message : JsonValue) {s t : Gateway} (fresh : s.Fresh Γ)
    (h : s.handlePeerMessage Γ peerSessionId message = .ok t) : Ops Γ e σ s t := by
  unfold handlePeerMessage at h
  split at h
  · cases h
    exact .refl s
  · split at h
    · split at h
      · cases h
        exact .sendError _ _ _ s
      · cases h
    · split at h
      · cases h
      · cases h
        exact routeMessage_ops _ _ s fresh

theorem handleFirstMessage_ops (ws : SocketId) (conn : ControlConn) (message : JsonValue) (s : Gateway) :
    Ops Γ e σ s (s.handleFirstMessage Γ ws conn message) := by
  unfold handleFirstMessage
  split
  · exact ((clearAuthTimeout_ops ws s).trans (handlePeerHello_ops ws _ conn.ip _)).trans (modifyConn_ops ws _ (by intro; rfl) _)
  · exact (Ops.sendError _ _ _ s).trans (close_ops ws 1008 _ _)

theorem controlMessage_ops (ws : SocketId) (conn : ControlConn) (data : Bytes) {s : Gateway} (fresh : s.Fresh Γ) :
    Ops Γ e σ s (s.controlMessage Γ ws conn data) := by
  unfold controlMessage
  split
  · exact (Ops.sendError _ _ _ s).trans (close_ops ws 1008 _ _)
  · exact .sendError _ _ _ s
  · exact handleFirstMessage_ops ws conn _ s
  · split
    · rename_i h
      exact handlePeerMessage_ops _ _ fresh h
    · exact .sendError _ _ _ s

/-! ## Control sockets -/

theorem authTimeoutFires_ops (ws : SocketId) (s : Gateway) : Ops Γ e σ s (s.authTimeoutFires ws) := by
  have hcleared := clearAuthTimeout_ops (Γ := Γ) (e := e) (σ := σ) ws s
  unfold authTimeoutFires
  split
  · split
    · dsimp only
      split
      · exact hcleared.trans (close_ops ws 1008 _ _)
      · exact hcleared
    · exact .refl s
  · exact .refl s

theorem replacedGraceFires_ops (ws : SocketId) (s : Gateway) : Ops Γ e σ s (s.replacedGraceFires ws) := by
  unfold replacedGraceFires
  split
  · exact .refl s
  · split
    · exact .onNet ((Net.Op.grace ws false s.net).ops.trans (Net.Op.terminate ws _).ops)
    · exact .refl s

theorem controlPong_ops (ws : SocketId) (s : Gateway) : Ops Γ e σ s (s.controlPong ws) := by
  unfold controlPong
  split
  · exact .onState _ s
  · exact .refl s

/-! ## Exchanges -/

theorem pace_ops (hact : e.Paces) (ex : ExchangeId) (f : HttpExchange → HttpExchange) (hf : ∀ x : HttpExchange, x.Paced (f x))
    (s : Gateway) : Ops Γ e σ s (s.onNet (Net.modifyExchange ex f)) :=
  (Op.pace hf hact).ops

theorem bridgeMessage_ops {ex : ExchangeId} (hact : σ.Answering e ex) (ws : SocketId) (channelId : String) (frame : Frame)
    (writable : Bool) (s : Gateway) : Ops Γ e σ s (s.bridgeMessage Γ ws channelId ex frame writable) := by
  unfold bridgeMessage
  split
  · exact .refl s
  · rename_i x hx
    split
    · rename_i hm
      have htimer := pace_ops (Γ := Γ) (σ := σ) hact.paces ex (fun x => { x with responseTimer := false })
        (by intro x; exact ⟨by constructor <;> rfl, rfl, rfl, rfl⟩) s
      have hx' : (s.onNet (Net.modifyExchange ex (fun x => { x with responseTimer := false }))).net.exchanges.get ex =
          some { x with responseTimer := false } := by
        simp [Net.modifyExchange, hx]
      dsimp only
      split
      · exact htimer.trans (teardownChannel_ops _ _ _)
      · split
        · exact htimer.trans (teardownChannel_ops _ _ _)
        · exact htimer.trans (Op.responseHead hx' (by simpa using hm) _ hact).ops
    · rename_i hm
      split
      · have htimer := pace_ops (Γ := Γ) (σ := σ) hact.paces ex (fun x => { x with idleTimer := true })
          (by intro x; exact ⟨by constructor <;> rfl, rfl, rfl, rfl⟩) s
        have hx' : (s.onNet (Net.modifyExchange ex (fun x => { x with idleTimer := true }))).net.exchanges.get ex =
            some { x with idleTimer := true } := by
          simp [Net.modifyExchange, hx]
        have hbody := htimer.trans (Op.responseBody hx' (by simpa using hm) frame.data hact).ops
        dsimp only
        split
        · exact hbody
        · refine (hbody.trans (Ops.onNet (Net.Op.pause ws _).ops)).trans
            (pace_ops hact.paces ex _ (by intro x; exact ⟨by constructor <;> rfl, rfl, rfl, rfl⟩) _)
      · exact .refl s

theorem requestDrainPoll_ops (ex : ExchangeId) (buffered : Nat) (s : Gateway) :
    Ops Γ (.requestDrainPoll ex buffered) σ s (s.requestDrainPoll ex buffered) := by
  have hact : (Event.requestDrainPoll ex buffered).Paces := Or.inr (Or.inr (Or.inr (Or.inl ⟨ex, buffered, rfl⟩)))
  unfold requestDrainPoll
  split
  · split
    · exact pace_ops hact ex _ (by intro x; exact ⟨by constructor <;> rfl, rfl, rfl, rfl⟩) s
    · exact .refl s
  · exact .refl s

theorem responseDrain_ops (ex : ExchangeId) (s : Gateway) : Ops Γ (.responseDrain ex) σ s (s.responseDrain ex) := by
  have hact : (Event.responseDrain ex).Paces := Or.inr (Or.inr (Or.inr (Or.inr (Or.inl ⟨ex, rfl⟩))))
  unfold responseDrain
  split
  · split
    · refine (pace_ops hact ex _ (by intro x; exact ⟨by constructor <;> rfl, rfl, rfl, rfl⟩) s).trans (.onNet ?_)
      exact (Net.Op.resume _ _).ops
    · exact .refl s
  · exact .refl s

theorem responseTimeoutFires_ops (ex : ExchangeId) (s : Gateway) :
    Ops Γ (.responseTimeout ex) σ s (s.responseTimeoutFires ex) := by
  have hact : (Event.responseTimeout ex).Paces := Or.inr (Or.inr (Or.inr (Or.inr (Or.inr (Or.inl ⟨ex, rfl⟩)))))
  unfold responseTimeoutFires
  split
  · exact .refl s
  · split
    · exact (pace_ops hact ex _ (by intro x; exact ⟨by constructor <;> rfl, rfl, rfl, rfl⟩) s).trans (teardownChannel_ops _ _ _)
    · exact .refl s

theorem idleTimeoutFires_ops (ex : ExchangeId) (s : Gateway) : Ops Γ (.idleTimeout ex) σ s (s.idleTimeoutFires ex) := by
  have hact : (Event.idleTimeout ex).Paces := Or.inr (Or.inr (Or.inr (Or.inr (Or.inr (Or.inr ⟨ex, rfl⟩)))))
  unfold idleTimeoutFires
  split
  · exact .refl s
  · split
    · exact (pace_ops hact ex _ (by intro x; exact ⟨by constructor <;> rfl, rfl, rfl, rfl⟩) s).trans (teardownChannel_ops _ _ _)
    · exact .refl s

theorem bridgeClose_ops (hact : e.Paces) (channelId : String) (ex : ExchangeId) {s : Gateway} (running : s.uncaught = none) :
    Ops Γ e σ s (s.bridgeClose channelId ex) := by
  unfold bridgeClose
  split
  · exact .refl s
  · rename_i x hx
    exact (Op.finishResponse running hx hact).ops.trans (teardownChannel_ops _ _ _)

theorem responseClose_ops (ex : ExchangeId) (s : Gateway) : Ops Γ (.responseClose ex) σ s (s.responseClose ex) := by
  unfold responseClose
  split
  · exact .refl s
  · split
    · exact .refl s
    · exact (Op.abort rfl).ops.trans (teardownChannel_ops _ _ _)

/-! ## Socket events -/

theorem socketMessage_ops (ws : SocketId) (frame : Frame) (buffered : Nat) (writable : Bool) (fresh : σ.Fresh Γ) :
    Ops Γ (.message ws frame buffered writable) σ σ (σ.socketMessage Γ ws frame buffered writable) := by
  unfold socketMessage
  split
  · exact .refl σ
  · rename_i k hk
    split
    · rename_i hr
      split
      · exact .refl σ
      · exact controlMessage_ops _ _ _ fresh
      · rename_i leg hl
        exact (Op.relay hk hr hl rfl).ops
      · rename_i channelId ex hl
        exact bridgeMessage_ops ⟨_, k, channelId, _, _, _, rfl, hk, hl⟩ _ _ _ _ σ
    · exact .refl σ

theorem parses_closing {s : Gateway} {ws : SocketId} {k : WsSocket} (hk : s.net.sockets.get ws = some k) (hp : k.parses = true) :
    Ops Γ e σ s (s.onNet (Net.modifySocket ws (fun k => { k with readyState := .closing }))) := by
  refine .onNet (Net.Op.closing ws ?_).ops
  rw [Net.readyState_eq hk]
  exact of_decide_eq_true hp

theorem socketError_ops (ws : SocketId) (s : Gateway) : Ops Γ e σ s (s.socketError ws) := by
  unfold socketError
  split
  · exact .refl s
  · rename_i k hk
    split
    · rename_i hp
      have hclosing := parses_closing (Γ := Γ) (e := e) (σ := σ) hk hp
      dsimp only
      split
      · exact hclosing.trans (.throw _ _)
      · split
        · exact hclosing.trans (teardownChannel_ops _ _ _)
        · exact hclosing.trans (teardownChannel_ops _ _ _)
        · exact hclosing
    · exact .refl s

theorem socketClosing_ops (ws : SocketId) (s : Gateway) : Ops Γ e σ s (s.socketClosing ws) := by
  unfold socketClosing
  split
  · exact .refl s
  · rename_i k hk
    split
    · rename_i hr
      exact parses_closing hk (WsSocket.parses_of_reads hr)
    · exact .refl s

theorem socketClosed_ops (ws : SocketId) (running : σ.uncaught = none) : Ops Γ (.socketClosed ws) σ σ (σ.socketClosed ws) := by
  unfold socketClosed
  split
  · exact .refl σ
  · rename_i k hk
    split
    · exact .refl σ
    · rename_i hopen
      dsimp only
      split
      · rename_i hl
        exact (Op.shut hk (by simp [hl]) hopen rfl).ops
      · rename_i conn hl
        have hhung := (Op.hangUp (Γ := Γ) hk hl hopen rfl).ops
        unfold controlClose
        dsimp only
        split
        · exact hhung.trans (handlePeerDisconnect_ops _ _)
        · exact hhung
      · rename_i leg hl
        exact (Op.shut hk (by simp [hl]) hopen rfl).ops.trans (teardownChannel_ops _ _ _)
      · rename_i channelId ex hl
        exact (Op.shut hk (by simp [hl]) hopen rfl).ops.trans
          (bridgeClose_ops (Or.inr (Or.inl ⟨ws, rfl⟩)) _ _ running)

/-! ## Routes -/

theorem upgrade_ops (ip target : String) (handshakeOk : Bool) : Ops Γ e σ σ (σ.upgrade Γ ip target handshakeOk) := by
  have hrefused : Ops Γ e σ σ (σ.onNet (Net.emit .refused)) := .onNet (Net.Op.emit rfl σ.net).ops
  unfold upgrade
  split
  · exact .throw _ σ
  · split
    · split
      · exact (Op.connect ip).ops
      · exact hrefused
    · split
      · exact (Op.dial _ _ _).ops
      · exact hrefused

theorem denyUnauthorized_ops (ip message : String) (s : Gateway) : Ops Γ e σ s (s.denyUnauthorized Γ ip message) := by
  have hcounted := recordAuthFailure_ops (Γ := Γ) (e := e) (σ := σ) ip s
  unfold denyUnauthorized
  dsimp only
  split
  · exact hcounted.trans (.reply _ _)
  · exact hcounted.trans (.reply _ _)

theorem checkProxyIp_ops (ip : String) (s : Gateway) : Ops Γ e σ s (s.checkProxyIp Γ ip).2 := by
  unfold checkProxyIp
  split
  · exact .of_core rfl
  · exact .refl s

theorem refuseProxyRequest_ops (credentialId ip : String) (s : Gateway) :
    Ops Γ e σ s (s.refuseProxyRequest Γ credentialId ip).2 := by
  have hip := checkProxyIp_ops (Γ := Γ) (e := e) (σ := σ) ip s
  unfold refuseProxyRequest
  dsimp only
  split
  · exact hip
  · have hcounted (proxyRequests) : Ops Γ e σ s { (s.checkProxyIp Γ ip).2 with proxyRequests } := hip.trans (.of_core rfl)
    split
    · exact hcounted _
    · exact hcounted _

theorem proxyRoute_ops (request : ProxyRequest) (authorization : Option String) {s : Gateway} (fresh : s.Fresh Γ) :
    Ops Γ e σ s (s.proxyRoute Γ request authorization) := by
  unfold proxyRoute
  split
  · exact denyUnauthorized_ops _ _ s
  · rename_i token _
    have hresolved := resolveToken_ops (Γ := Γ) (e := e) (σ := σ) token s
    have hfresh := fresh.turns (resolveToken_turns (Γ := Γ) token s)
    rcases hr : s.resolveToken Γ token with ⟨credential, s'⟩
    rw [hr] at hresolved hfresh
    rcases credential with _ | credential
    · exact hresolved.trans (denyUnauthorized_ops _ _ s')
    · have hcounted := hresolved.trans (refuseProxyRequest_ops credential.id request.ip s')
      have hfresh' := hfresh.turns (refuseProxyRequest_turns (Γ := Γ) credential.id request.ip s')
      dsimp only
      rcases hp : s'.refuseProxyRequest Γ credential.id request.ip with ⟨refused, s''⟩
      rw [hp] at hcounted hfresh'
      have hreply (r : HttpReply) : Ops Γ e σ s (s''.reply r) := hcounted.trans (.reply _ _)
      dsimp only
      split
      · exact hreply _
      · split
        · exact hreply _
        · split
          · exact hreply _
          · split
            · exact hreply _
            · split
              · exact hreply _
              · exact hcounted.trans (Op.proxyViaChannel hfresh' _ _ _).ops

theorem syncRegistryRoute_ops (ip : String) (authorization : Option String) (s : Gateway) :
    Ops Γ e σ s (s.syncRegistryRoute Γ ip authorization) := by
  unfold syncRegistryRoute
  split
  · exact denyUnauthorized_ops _ _ s
  · split
    · exact denyUnauthorized_ops _ _ s
    · exact .reply _ s

theorem discoveryRoute_ops (ip : String) (authorization : Option String) (s : Gateway) :
    Ops Γ e σ s (s.discoveryRoute Γ ip authorization) := by
  unfold discoveryRoute
  split
  · exact denyUnauthorized_ops _ _ s
  · rename_i token _
    have hresolved := resolveToken_ops (Γ := Γ) (e := e) (σ := σ) token s
    dsimp only
    split
    · exact hresolved.trans (denyUnauthorized_ops _ _ _)
    · exact hresolved.trans (.reply _ _)

theorem backendTokenRoute_ops (ip : String) (authorization : Option String) (s : Gateway) :
    Ops Γ e σ s (s.backendTokenRoute Γ ip authorization) := by
  unfold backendTokenRoute
  rcases bearerToken authorization with _ | token
  · exact denyUnauthorized_ops _ _ _
  · have hresolved := resolveToken_ops (Γ := Γ) (e := e) (σ := σ) token s
    dsimp only
    split
    · exact hresolved.trans (denyUnauthorized_ops _ _ _)
    · split
      · exact hresolved.trans (.reply _ _)
      · refine (hresolved.trans ?_).trans (.reply _ _)
        exact .of_core rfl

theorem closePeersOf_ops (ids : List String) (reason : String) (s : Gateway) : Ops Γ e σ s (s.closePeersOf ids reason) :=
  .onNet (.foldl (fun net _ => (Net.Op.close _ 1008 reason net).ops) _ _)

theorem adminRoute_ops (ip : String) (auth : AdminAuth) (request : AdminRequest) (s : Gateway) :
    Ops Γ e σ s (s.adminRoute Γ ip auth request) := by
  have herror (status : Nat) (code message : String) : Ops Γ e σ s (s.replyError status code message) := .reply _ s
  have hstore (storage : Storage) : Ops Γ e σ s { s with storage } := .of_core rfl
  have hstored (storage : Storage) (r : HttpReply) : Ops Γ e σ s ({ s with storage }.reply r) :=
    (hstore storage).trans (.reply _ _)
  have hclosed (storage : Storage) (ids : List String) (reason : String) (r : HttpReply) :
      Ops Γ e σ s (({ s with storage }.closePeersOf ids reason).reply r) :=
    ((hstore storage).trans (closePeersOf_ops _ _ _)).trans (.reply _ _)
  cases auth with
  | denied => exact denyUnauthorized_ops _ _ s
  | foreignOrigin => exact herror _ _ _
  | granted =>
    cases request with
    | overview => exact .reply _ s
    | listBackends => exact .reply _ s
    | listCredentials => exact .reply _ s
    | issueCredential body =>
      unfold adminRoute issueCredentialRoute
      dsimp only
      split
      · exact herror _ _ _
      · exact hstored _ _
    | deleteBackend backendId =>
      unfold adminRoute deleteBackendRoute
      dsimp only
      repeat' split
      all_goals first | exact herror _ _ _ | exact hstored _ _
    | bindCredential id body =>
      unfold adminRoute bindCredentialRoute
      dsimp only
      repeat' split
      all_goals first | exact herror _ _ _ | exact hstored _ _
    | changeScope id body =>
      unfold adminRoute changeScopeRoute
      dsimp only
      repeat' split
      all_goals first | exact herror _ _ _ | exact hclosed _ _ _ _
    | revokeCredential id =>
      unfold adminRoute revokeCredentialRoute
      dsimp only
      split
      · exact hstored _ _
      · exact hclosed _ _ _ _
    | revokeCredentials body =>
      unfold adminRoute revokeCredentialsRoute
      dsimp only
      repeat' split
      all_goals first | exact herror _ _ _ | exact hclosed _ _ _ _
    | purgeCredentials body =>
      unfold adminRoute purgeCredentialsRoute
      dsimp only
      repeat' split
      all_goals first | exact herror _ _ _ | exact hstored _ _

theorem adminLoginRoute_ops (ip : String) (expiresAt : Option Nat) (s : Gateway) :
    Ops Γ e σ s (s.adminLoginRoute Γ ip expiresAt) := by
  cases expiresAt with
  | none => exact denyUnauthorized_ops _ _ s
  | some expiresAt => exact .reply _ s

theorem adminSessionRoute_ops (expiresAt : Option Nat) (s : Gateway) : Ops Γ e σ s (s.adminSessionRoute expiresAt) := by
  cases expiresAt with
  | none => exact .reply _ s
  | some expiresAt => exact .reply _ s

/-! ## Intervals -/

theorem pingPeer_ops (s : Gateway) (peerSessionId : String) : Ops Γ e σ s (s.pingPeer peerSessionId) := by
  unfold pingPeer
  split
  · exact .refl s
  · split
    · exact handlePeerDisconnect_ops _ s
    · exact (Ops.onState _ s).trans (.onNet (Net.Op.ping _ _).ops)

theorem checkLease_ops (s : Gateway) (backendId : String) : Ops Γ e σ s (s.checkLease backendId) := by
  unfold checkLease
  split
  · exact .refl s
  · split
    · exact handleBackendLeaseExpired_ops _ s
    · exact .refl s

theorem registryPollInterval_ops (s : Gateway) : Ops Γ e σ s s.registryPollInterval := by
  unfold registryPollInterval
  split
  · exact .broadcast _ s
  · exact .refl s

theorem pairingTimeoutFires_ops (channelId : String) (s : Gateway) : Ops Γ e σ s (s.pairingTimeoutFires channelId) := by
  unfold pairingTimeoutFires
  split
  · exact .refl s
  · split
    · exact teardownChannel_ops _ s _
    · exact .refl s

/-- Every event is a sequence of single operations. -/
theorem handle_ops (e : Event) {s : Gateway} (running : s.uncaught = none) (fresh : s.Fresh Γ) : Ops Γ e s s (s.handle Γ e) := by
  cases e with
  | clock now => exact (Op.clock rfl).ops
  | upgrade ip target handshakeOk => exact upgrade_ops _ _ _
  | message ws frame buffered writable => exact socketMessage_ops _ _ _ _ fresh
  | socketError ws => exact socketError_ops _ s
  | socketClosing ws => exact socketClosing_ops _ s
  | socketClosed ws => exact socketClosed_ops _ running
  | pong ws => exact controlPong_ops _ s
  | authTimeout ws => exact authTimeoutFires_ops _ s
  | replacedGrace ws => exact replacedGraceFires_ops _ s
  | rateTimer ws => exact (Op.rateTimer rfl).ops
  | drainPoll ws buffered => exact (Op.drainPoll rfl).ops
  | pairingTimeout channelId => exact pairingTimeoutFires_ops _ s
  | pingInterval => exact .foldl pingPeer_ops _ s
  | leaseCheckInterval => exact .foldl checkLease_ops _ s
  | registryPollInterval => exact registryPollInterval_ops s
  | rateLimitCleanup => exact .of_core rfl
  | proxy request authorization => exact proxyRoute_ops _ _ fresh
  | requestData ex chunk buffered => exact (Op.requestData rfl).ops
  | requestEnd ex => exact (Op.requestEnd rfl).ops
  | requestDrainPoll ex buffered => exact requestDrainPoll_ops _ _ s
  | responseDrain ex => exact responseDrain_ops _ s
  | responseClose ex => exact responseClose_ops _ s
  | responseTimeout ex => exact responseTimeoutFires_ops _ s
  | idleTimeout ex => exact idleTimeoutFires_ops _ s
  | syncRegistry ip authorization => exact syncRegistryRoute_ops _ _ s
  | discovery ip authorization => exact discoveryRoute_ops _ _ s
  | backendToken ip authorization => exact backendTokenRoute_ops _ _ s
  | admin ip auth request => exact adminRoute_ops _ _ _ s
  | adminLogin ip expiresAt => exact adminLoginRoute_ops _ _ s
  | adminSession ip expiresAt => exact adminSessionRoute_ops _ s

/-- What relates the gateway before and after every single operation relates it before and after the event. -/
theorem handle_rel {R : Gateway → Gateway → Prop} (hrefl : ∀ s, R s s) (htrans : ∀ {s t u}, R s t → R t u → R s u)
    (e : Event) {s : Gateway} (running : s.uncaught = none) (fresh : s.Fresh Γ)
    (hop : ∀ t u, Op Γ e s t u → R t u) : R s (s.handle Γ e) := by
  have hops := handle_ops e running fresh
  generalize s.handle Γ e = t at hops
  induction hops with
  | refl => exact hrefl s
  | tail _ hlast ih => exact htrans ih (hop _ _ hlast)

end Gateway

end ZclaudiaGateway
