import Mathlib.Logic.Relation
import ZclaudiaGateway.Lemmas.Hello
import ZclaudiaGateway.Lemmas.Relay

/-!
# What an event does to channels, tickets, sockets and responses

`DataStep` lists the operations that do more to the data plane than turn a socket or a timer; every event but a hello is a
sequence of them (`handle_data`), and a hello closes channels and authenticates its connection.
-/

namespace ZclaudiaGateway

/-- The errors of the handler of a proxied response. -/
def JsError.ofResponse : JsError → Bool
  | .typeError | .headersSent | .invalidHeaderValue | .writeAfterEnd => true
  | .invalidUrl | .unhandledErrorEvent | .unhandledRejection => false

/-- The event is this request to the proxy. -/
def Event.Proxies (e : Event) (request : ProxyRequest) : Prop := ∃ authorization, e = .proxy request authorization

/-- The event is a handshake of a control connection from this address. -/
def Event.Connects (Γ : Ctx) (e : Event) (ip : String) : Prop :=
  ∃ target url, e = .upgrade ip target true ∧ Γ.newURL target = some url ∧ url.pathname = "/ws"

/-- The event is a dial of the channel with this ticket. -/
def Event.Dials (Γ : Ctx) (e : Event) (channelId : String) (ticket : Option String) : Prop :=
  ∃ ip target handshakeOk url, e = .upgrade ip target handshakeOk ∧ Γ.newURL target = some url ∧
    url.pathname.startsWith "/channel/" = true ∧ (url.pathname.drop "/channel/".length).toString = channelId ∧
    url.ticket = ticket

/-- The event is a frame, a rate timer or a drain poll of this socket. -/
def Event.Drives (e : Event) (ws : SocketId) : Prop :=
  (∃ frame buffered writable, e = .message ws frame buffered writable) ∨ e = .rateTimer ws ∨
    ∃ buffered, e = .drainPoll ws buffered

namespace Gateway

/-! ## Turns of the gateway -/

/-- Channels, tickets and the position in the sources of identifiers are the same, sockets and exchanges at most turn, and no
call on a response throws. -/
structure DataTurns (s t : Gateway) : Prop where
  channels : t.channels = s.channels
  channelTickets : t.channelTickets = s.channelTickets
  now : t.now = s.now
  drawn : t.drawn = s.drawn
  net : s.net.Turns t.net
  uncaught : t.uncaught = s.uncaught ∨ ∃ error, t.uncaught = some error ∧ error.ofResponse = false

/-- The tables of the data plane. -/
def dataPlane (s : Gateway) :
    InsertionMap String ChannelRecord × InsertionMap String ChannelTicket × Nat × Nat × Net × Option JsError :=
  (s.channels, s.channelTickets, s.now, s.drawn, s.net, s.uncaught)

/-- Only tables of the control plane differ. -/
theorem DataTurns.control {s t : Gateway} (h : t.dataPlane = s.dataPlane) : s.DataTurns t := by
  simp only [dataPlane, Prod.mk.injEq] at h
  obtain ⟨hc, ht, hnow, hd, hn, hu⟩ := h
  exact ⟨hc, ht, hnow, hd, hn ▸ .refl _, Or.inl hu⟩

/-- A process that still runs after a turn did before. -/
theorem DataTurns.running {s t : Gateway} (h : s.DataTurns t) (ht : t.uncaught = none) : s.uncaught = none := by
  rcases h.uncaught with he | ⟨error, he, -⟩
  · rw [← he, ht]
  · rw [he] at ht
    cases ht

theorem DataTurns.refl (s : Gateway) : s.DataTurns s := .control rfl

theorem DataTurns.trans {s t u : Gateway} (h : s.DataTurns t) (h' : t.DataTurns u) : s.DataTurns u :=
  ⟨h'.channels.trans h.channels, h'.channelTickets.trans h.channelTickets, h'.now.trans h.now, h'.drawn.trans h.drawn, h.net.trans h'.net,
    h'.uncaught.elim (fun he => by rw [he]; exact h.uncaught) Or.inr⟩

theorem DataTurns.onNet {s : Gateway} {f : Net → Net} (hf : s.net.Turns (f s.net)) : s.DataTurns (s.onNet f) :=
  ⟨rfl, rfl, rfl, rfl, hf, Or.inl rfl⟩

theorem DataTurns.onState (f : GatewayState → GatewayState) (s : Gateway) : s.DataTurns (s.onState f) := .control rfl

theorem DataTurns.onStorage (f : Storage → Storage) (s : Gateway) : s.DataTurns (s.onStorage f) := .control rfl

theorem DataTurns.unregister (peer : PeerSession) (s : Gateway) : s.DataTurns (s.unregisterRecoveryToken peer) := .control rfl

theorem DataTurns.removeSubscriptions (peerSessionId : String) (s : Gateway) :
    s.DataTurns (s.removeTopicSubscriptionsForPeer peerSessionId) := .control rfl

theorem DataTurns.removeTopics (backendId : String) (s : Gateway) : s.DataTurns (s.removeTopicsForBackend backendId) :=
  .control rfl

theorem DataTurns.throw {error : JsError} (he : error.ofResponse = false) (s : Gateway) :
    s.DataTurns (s.throw error) :=
  ⟨rfl, rfl, rfl, rfl, .refl _, Or.inr ⟨error, rfl, he⟩⟩

theorem DataTurns.send (ws : SocketId) (m : GatewayToPeer) (s : Gateway) : s.DataTurns (s.onNet (Net.sendToWs ws m)) :=
  .onNet (.sendToWs ws m _)

theorem DataTurns.sendError (ws : SocketId) (code : GatewayErrorCode) (message : String) (s : Gateway) :
    s.DataTurns (s.sendError ws code message) :=
  .send _ _ _

theorem DataTurns.emit {o : Output} (ho : o.passing = true) (s : Gateway) : s.DataTurns (s.onNet (Net.emit o)) :=
  .onNet (.emit ho _)

theorem DataTurns.reply (r : HttpReply) (s : Gateway) : s.DataTurns (s.reply r) := .emit rfl _

theorem DataTurns.broadcast (exclude : Option String) (s : Gateway) :
    s.DataTurns (s.broadcastRegistrySnapshot exclude) :=
  .onNet (.broadcast _ _ _ _)

/-! ## Operations on the data plane -/

/-- Every identifier in use was drawn before the `n`-th event. -/
structure FreshUpTo (Γ : Ctx) (n : Nat) (s : Gateway) : Prop where
  sockets : ∀ ws k, s.net.sockets.get ws = some k → ws < n
  listeners : ∀ ws k channelId, s.net.sockets.get ws = some k → k.listener.channel? = some channelId →
    ∃ m < n, channelId = Γ.channelIds.draw m
  exchanges : ∀ ex x, s.net.exchanges.get ex = some x → ex < n ∧ ∃ m < n, x.channelId = Γ.channelIds.draw m
  channels : ∀ channelId ch, s.channels.get channelId = some ch → ∃ m < n, channelId = Γ.channelIds.draw m
  tickets : ∀ token ticket, s.channelTickets.get token = some ticket → ∃ m < 2 * n, token = Γ.tickets.draw m

/-- Every identifier in use was drawn by an event before. -/
abbrev Fresh (Γ : Ctx) (s : Gateway) : Prop := s.FreshUpTo Γ s.drawn

/-- A turn, or the teardown of a channel. -/
inductive CloseStep : Gateway → Gateway → Prop
  | turn {s t : Gateway} (h : s.DataTurns t) : CloseStep s t
  | teardown {s : Gateway} (reason : ChannelClosedReason) (channelId : String) :
    CloseStep s (s.teardownChannel reason channelId)

/-- Turns and teardowns, in any order. -/
def Closes : Gateway → Gateway → Prop := Relation.ReflTransGen CloseStep

/-- An operation on the data plane in the course of the event `e`. -/
inductive DataStep (Γ : Ctx) (e : Event) : Gateway → Gateway → Prop
  | close {s t : Gateway} (h : CloseStep s t) : DataStep Γ e s t
  | dropTickets {s : Gateway} (keep : String → ChannelTicket → Bool) :
    DataStep Γ e s { s with channelTickets := s.channelTickets.filter keep }
  | openChannel {s : Gateway} (fresh : s.Fresh Γ) (peer backendPeer : PeerSession) (lease : BackendLease) (target : String)
    (kind : Option String) : DataStep Γ e s (s.openChannel Γ peer backendPeer lease target kind)
  | proxyViaChannel {s : Gateway} (fresh : s.Fresh Γ) {request : ProxyRequest} (hr : e.Proxies request) (epoch : Nat)
    (backendPeer : PeerSession) :
    DataStep Γ e s (s.proxyViaChannel Γ request epoch backendPeer)
  | connect {s : Gateway} (fresh : s.Fresh Γ) (ip : String) (hact : e.Connects Γ ip) : DataStep Γ e s (s.controlConnection ip)
  | dial {s : Gateway} (fresh : s.Fresh Γ) (channelId : String) (ticket : Option String) (handshakeOk : Bool)
    (hact : e.Dials Γ channelId ticket) :
    DataStep Γ e s (s.handleChannelUpgrade channelId ticket handshakeOk)
  | responseHead {s : Gateway} {ex : ExchangeId} {x : HttpExchange} (hx : s.net.exchanges.get ex = some x)
    (hm : x.metaReceived = false) (meta_ : JsonValue) : DataStep Γ e s (s.responseHead ex x.request meta_)
  | responseBody {s : Gateway} {ex : ExchangeId} {x : HttpExchange} (hx : s.net.exchanges.get ex = some x)
    (hm : x.metaReceived = true) (data : Bytes) : DataStep Γ e s (s.callResponse ex (.write data))
  | bridgeClose {s : Gateway} {ws : SocketId} {k : WsSocket} {channelId : String} {ex : ExchangeId}
    (hk : s.net.sockets.get ws = some k) (hl : k.listener = .bridge channelId ex) (hact : e = .socketClosed ws) :
    DataStep Γ e s (s.bridgeClose channelId ex)
  | responseClose {s : Gateway} (ex : ExchangeId) : DataStep Γ e s (s.responseClose ex)
  | responseDrain {s : Gateway} (ex : ExchangeId) : DataStep Γ e s (s.responseDrain ex)
  | clock {s : Gateway} {now : Nat} (hact : e = .clock now) : DataStep Γ e s { s with now }
  | relay {s t : Gateway} {ws : SocketId} (h : s.LegMoves ws t) (hact : e.Drives ws) : DataStep Γ e s t

/-- A sequence of operations on the data plane. -/
def DataSteps (Γ : Ctx) (e : Event) : Gateway → Gateway → Prop := Relation.ReflTransGen (DataStep Γ e)

theorem Closes.refl (s : Gateway) : s.Closes s := Relation.ReflTransGen.refl

theorem Closes.trans {s t u : Gateway} (h : s.Closes t) (h' : t.Closes u) : s.Closes u := Relation.ReflTransGen.trans h h'

theorem DataTurns.closes {s t : Gateway} (h : s.DataTurns t) : s.Closes t := .single (.turn h)

theorem Closes.then {s t u : Gateway} (h : s.Closes t) (h' : t.DataTurns u) : s.Closes u := h.trans h'.closes

theorem teardownChannel_closes (reason : ChannelClosedReason) (s : Gateway) (channelId : String) :
    s.Closes (s.teardownChannel reason channelId) :=
  .single (.teardown reason channelId)

theorem Closes.foldl {α : Type} {f : Gateway → α → Gateway} (hf : ∀ s a, Closes s (f s a)) (l : List α) (s : Gateway) :
    s.Closes (l.foldl f s) := by
  induction l generalizing s with
  | nil => exact .refl s
  | cons a l ih => exact (hf s a).trans (ih _)

theorem DataSteps.refl {Γ : Ctx} {e : Event} (s : Gateway) : DataSteps Γ e s s := Relation.ReflTransGen.refl

theorem DataSteps.trans {Γ : Ctx} {e : Event} {s t u : Gateway} (h : DataSteps Γ e s t) (h' : DataSteps Γ e t u) :
    DataSteps Γ e s u :=
  Relation.ReflTransGen.trans h h'

theorem DataStep.steps {Γ : Ctx} {e : Event} {s t : Gateway} (h : DataStep Γ e s t) : DataSteps Γ e s t := .single h

theorem Closes.steps {Γ : Ctx} {e : Event} {s t : Gateway} (h : s.Closes t) : DataSteps Γ e s t := by
  induction h with
  | refl => exact .refl s
  | tail _ hstep ih => exact ih.trans (DataStep.close hstep).steps

theorem DataTurns.steps {Γ : Ctx} {e : Event} {s t : Gateway} (h : s.DataTurns t) : DataSteps Γ e s t := h.closes.steps

/-- Turning changes no identifier. -/
theorem FreshUpTo.turns {Γ : Ctx} {n : Nat} {s t : Gateway} (h : s.FreshUpTo Γ n) (ht : s.DataTurns t) :
    t.FreshUpTo Γ n := by
  refine ⟨fun ws k hk => ?_, fun ws k channelId hk hl => ?_, fun ex x hx => ?_, ?_, ?_⟩
  · obtain ⟨k0, hk0, -⟩ := ht.net.sockets.some_get hk
    exact h.sockets ws k0 hk0
  · obtain ⟨k0, hk0, hturn⟩ := ht.net.sockets.some_get hk
    exact h.listeners ws k0 channelId hk0 (hturn.listener.channel?_eq ▸ hl)
  · obtain ⟨x0, hx0, hturn⟩ := ht.net.exchanges.some_get hx
    rw [hturn.channelId]
    exact h.exchanges ex x0 hx0
  · rw [ht.channels]
    exact h.channels
  · rw [ht.channelTickets]
    exact h.tickets

theorem Fresh.turns {Γ : Ctx} {s t : Gateway} (h : s.Fresh Γ) (ht : s.DataTurns t) : t.Fresh Γ := by
  rw [Fresh, ht.drawn]
  exact FreshUpTo.turns h ht

/-! ## Losing channels, backends and peers -/

variable {Γ : Ctx} {e : Event}

theorem teardownWhere_closes (test : ChannelRecord → Bool) (reason : ChannelClosedReason) (s : Gateway) :
    s.Closes (s.teardownWhere test reason) :=
  .foldl (teardownChannel_closes reason) _ s

theorem closeChannelsForBackend_closes (backendId : String) (reason : ChannelClosedReason) (s : Gateway) :
    s.Closes (s.closeChannelsForBackend backendId reason) :=
  teardownWhere_closes _ _ s

theorem closeChannelsForPeer_closes (peerSessionId : String) (s : Gateway) :
    s.Closes (s.closeChannelsForPeer peerSessionId) :=
  teardownWhere_closes _ _ s

theorem handleBackendLeaseExpired_closes (backendId : String) (s : Gateway) :
    s.Closes (s.handleBackendLeaseExpired backendId) := by
  unfold handleBackendLeaseExpired
  split
  · exact .refl s
  · have hremoved := (((((closeChannelsForBackend_closes backendId .backendOffline s).then (.removeTopics backendId _)).then
      (.onState (.registryRemove backendId) _)).then (.broadcast none _)).then
      (.onState (.removeBackend backendId) _)).then (.onStorage (.touchBackendIdentity s.now backendId none none) _)
    dsimp only
    split
    · exact hremoved
    · exact (((hremoved.then (.onState _ _)).then (.onNet (.terminate _ _))).then (.unregister _ _)).then (.onState _ _)

theorem disconnectOwner_closes (peer : PeerSession) (backendId : String) (s : Gateway) :
    s.Closes (s.disconnectOwner peer backendId) := by
  unfold disconnectOwner
  split
  · exact ((((closeChannelsForBackend_closes _ _ s).then (.onState _ _)).then (.broadcast _ _)).then (.onState _ _)).then
      (.onStorage _ _)
  · exact .refl s

theorem handlePeerDisconnect_closes (peerSessionId : String) (s : Gateway) :
    s.Closes (s.handlePeerDisconnect peerSessionId) := by
  unfold handlePeerDisconnect
  split
  · exact .refl s
  · rename_i peer _
    rcases peer.backendId with _ | backendId
    · have hclosed := (closeChannelsForPeer_closes peerSessionId s).then
        (.removeSubscriptions peerSessionId _)
      exact ((hclosed.then (.onNet (.terminate _ _))).then (.unregister _ _)).then (.onState _ _)
    · have hclosed := ((disconnectOwner_closes peer backendId s).trans
        (closeChannelsForPeer_closes peerSessionId _)).then (.removeSubscriptions peerSessionId _)
      exact (((hclosed.then (.removeTopics backendId _)).then (.onNet (.terminate _ _))).then (.unregister _ _)).then
        (.onState _ _)

theorem handleBackendOwnerReplaced_closes (backendId previousPeerSessionId : String) (s : Gateway) :
    s.Closes (s.handleBackendOwnerReplaced backendId previousPeerSessionId) := by
  unfold handleBackendOwnerReplaced
  have hclosed := ((closeChannelsForBackend_closes backendId .epochChanged s).then
    (.removeTopics backendId _)).then (.onState (.removeLease backendId) _)
  dsimp only
  split
  · exact hclosed
  · refine ((hclosed.then (.onState _ _)).then (.onNet (.close _ _ _ _))).then (.onNet (.modifySocket fun k _ => ?_))
    exact ⟨Or.inl rfl, rfl, .refl _, fun _ => rfl, fun _ hl => ⟨hl, rfl⟩⟩

/-! ## Handshake -/

theorem registerBackend_closes (credential : CredentialRecord) (hello : PeerHello) (backend : BackendHello)
    (backendId : String) (epoch : Nat) (peer : PeerSession) (s : Gateway) :
    s.Closes (s.registerBackend Γ credential hello backend backendId epoch peer) := by
  have hreplaced : s.Closes (s.replaceOwner backendId peer.peerSessionId epoch) := by
    unfold replaceOwner
    split
    · exact .refl s
    · split
      · exact handleBackendOwnerReplaced_closes _ _ s
      · exact .refl s
  exact ((hreplaced.then (.onState _ _)).then (.onStorage _ _)).then (.onState _ _)

theorem addSession_turns (peer : PeerSession) (grant : Option BackendGrant) (s : Gateway) :
    s.DataTurns (s.addSession peer grant) := by
  have hadded : s.DataTurns { (s.onState (.addPeer peer)) with
      recoveryTokens := s.recoveryTokens.set peer.recoveryToken peer.peerSessionId } := .control rfl
  unfold addSession
  split
  · exact (hadded.trans (.send _ _ _)).trans (.broadcast _ _)
  · exact hadded.trans (.send _ _ _)

theorem openSession_closes (ws : SocketId) (credential : CredentialRecord) (hello : PeerHello) (s : Gateway) :
    s.Closes (s.openSession Γ ws credential hello) := by
  unfold openSession
  split
  · refine Closes.then ?_ (addSession_turns _ _ _)
    refine Closes.trans ?_ (registerBackend_closes _ _ _ _ _ _ _)
    exact DataTurns.closes (.control rfl)
  · exact (addSession_turns _ _ s).closes

theorem resolveToken_turns (token : String) (s : Gateway) : s.DataTurns (s.resolveToken Γ token).2 := by
  unfold resolveToken
  split
  · exact .control rfl
  · exact .refl s

theorem recordAuthFailure_turns (ip : String) (s : Gateway) : s.DataTurns (s.recordAuthFailure Γ ip).2 := .control rfl

theorem refuse_turns (ws : SocketId) (code : GatewayErrorCode) (message : String) (s : Gateway) :
    s.DataTurns (s.refuse ws code message) :=
  (DataTurns.sendError _ _ _ s).trans (.onNet (.close _ _ _ _))

theorem handlePeerHello_closes (ws : SocketId) (hello : PeerHello) (ip : String) (s : Gateway) :
    s.Closes (s.handlePeerHello Γ ws hello ip).2 := by
  have hresolved := resolveToken_turns (Γ := Γ) hello.gatewaySecret s
  unfold handlePeerHello
  rcases hr : s.resolveToken Γ hello.gatewaySecret with ⟨credential, s'⟩
  rw [hr] at hresolved
  rcases credential with _ | credential
  · have hfailed := hresolved.trans (recordAuthFailure_turns (Γ := Γ) ip s')
    dsimp only
    split
    · exact (hfailed.trans (refuse_turns _ _ _ _)).closes
    · exact (hfailed.trans (refuse_turns _ _ _ _)).closes
  · dsimp only
    split
    · exact (hresolved.trans (refuse_turns _ _ _ _)).closes
    · exact hresolved.closes.trans (openSession_closes _ _ _ _)

/-- What a hello does to the data plane before its connection is authenticated. -/
theorem greet_closes (ws : SocketId) (conn : ControlConn) (hello : PeerHello) (s : Gateway) :
    ∃ u peerSessionId, s.Closes u ∧
      s.greet Γ ws conn hello = u.onNet (modifyConn ws (fun conn => { conn with peerSessionId })) := by
  have hcleared : s.Closes (s.onNet (clearAuthTimeout ws)) := (DataTurns.onNet (.clearAuthTimeout ws _)).closes
  exact ⟨_, _, hcleared.trans (handlePeerHello_closes (Γ := Γ) ws hello conn.ip _), rfl⟩

/-! ## Messages -/

theorem handleBackendHeartbeat_turns (peer : PeerSession) (epoch : JsNumber) (s : Gateway) :
    s.DataTurns (s.handleBackendHeartbeat peer epoch) := by
  unfold handleBackendHeartbeat
  split
  · exact .refl s
  · split
    · exact .refl s
    · exact (DataTurns.onState _ s).trans (.send _ _ _)

theorem handleBackendServerMessage_turns (peer : PeerSession) (backendId : String) (target : Option String)
    (raw : JsonValue) (s : Gateway) : s.DataTurns (s.handleBackendServerMessage peer backendId target raw) := by
  unfold handleBackendServerMessage
  split
  · exact .refl s
  · split
    · exact .refl s
    · split
      · exact .refl s
      · split
        · exact .send _ _ s
        · exact .refl s

theorem handlePushNotificationRequest_turns (peer : PeerSession) (event : JsonValue) (s : Gateway) :
    s.DataTurns (s.handlePushNotificationRequest Γ peer event) := by
  unfold handlePushNotificationRequest
  split
  · exact .sendError _ _ _ s
  · split
    · exact .refl s
    · exact .emit rfl s
    · exact .throw rfl s

theorem handleTopicSubscribe_turns (peer : PeerSession) (backendId topic : String) (s : Gateway) :
    s.DataTurns (s.handleTopicSubscribe peer backendId topic) := by
  unfold handleTopicSubscribe
  split
  · exact .sendError _ _ _ s
  · split
    · exact .sendError _ _ _ s
    · split
      · exact .sendError _ _ _ s
      · have hsubscribed (topicSubs) : s.DataTurns { s with topicSubs } := .control rfl
        dsimp only
        split
        · exact ((hsubscribed _).trans (.send _ _ _)).trans (.send _ _ _)
        · exact (hsubscribed _).trans (.send _ _ _)

theorem handleTopicUnsubscribe_turns (peer : PeerSession) (backendId topic : String) (s : Gateway) :
    s.DataTurns (s.handleTopicUnsubscribe peer backendId topic) := by
  have hunsubscribed (topicSubs) : s.DataTurns { s with topicSubs } := .control rfl
  exact (hunsubscribed _).trans (.send _ _ _)

theorem handleTopicPublish_turns (peer : PeerSession) (topic : String) (payload : Option JsonValue) (retained : Bool)
    (s : Gateway) : s.DataTurns (s.handleTopicPublish peer topic payload retained) := by
  unfold handleTopicPublish
  split
  · exact .refl s
  · split
    · exact .refl s
    · rename_i backendId _
      dsimp only
      split
      · split
        · exact .control rfl
        · exact .refl s
      · refine DataTurns.trans ?_ (.onNet (.fanOut _ _ _ _))
        split
        · exact .control rfl
        · exact .refl s

theorem handleChannelOpen_data (peer : PeerSession) (target : String) (kind : Option String) (s : Gateway)
    (fresh : s.Fresh Γ) : DataSteps Γ e s (s.handleChannelOpen Γ peer target kind) := by
  unfold handleChannelOpen
  split
  · exact (DataTurns.sendError _ _ _ s).steps
  · dsimp only
    split
    · split
      · exact (DataTurns.sendError _ _ _ s).steps
      · split
        · exact (DataTurns.sendError _ _ _ s).steps
        · split
          · exact (DataTurns.sendError _ _ _ s).steps
          · exact (DataStep.openChannel fresh _ _ _ _ _).steps
    · exact (DataTurns.sendError _ _ _ s).steps

theorem handleChannelReject_data (peer : PeerSession) (channelId : String) (s : Gateway) :
    DataSteps Γ e s (s.handleChannelReject peer channelId) := by
  unfold handleChannelReject
  split
  · exact .refl s
  · split
    · exact (teardownChannel_closes _ s _).steps
    · exact .refl s

theorem handleChannelClose_data (peer : PeerSession) (channelId : String) (s : Gateway) :
    DataSteps Γ e s (s.handleChannelClose peer channelId) := by
  unfold handleChannelClose
  split
  · exact .refl s
  · split
    · exact (teardownChannel_closes _ s _).steps
    · exact .refl s

theorem routeMessage_data (peer : PeerSession) (message : GatewayMessage) (s : Gateway) (fresh : s.Fresh Γ) :
    DataSteps Γ e s (s.routeMessage Γ peer message) := by
  cases message with
  | backendHeartbeat epoch => exact (handleBackendHeartbeat_turns _ _ s).steps
  | requestRegistrySnapshot => exact (DataTurns.send _ _ s).steps
  | backendServerMessage backendId target raw => exact (handleBackendServerMessage_turns _ _ _ _ s).steps
  | pushNotificationRequest event => exact (handlePushNotificationRequest_turns _ _ s).steps
  | ping ts => exact (DataTurns.send _ _ s).steps
  | channelOpen target kind => exact handleChannelOpen_data _ _ _ s fresh
  | channelReject channelId => exact handleChannelReject_data _ _ s
  | channelClose channelId => exact handleChannelClose_data _ _ s
  | topicSubscribe backendId topic => exact (handleTopicSubscribe_turns _ _ _ s).steps
  | topicUnsubscribe backendId topic => exact (handleTopicUnsubscribe_turns _ _ _ s).steps
  | topicPublish topic payload retained => exact (handleTopicPublish_turns _ _ _ _ s).steps
  | unknown type => exact (DataTurns.sendError _ _ _ s).steps

theorem handlePeerMessage_data (peerSessionId : String) (message : JsonValue) {s t : Gateway} (fresh : s.Fresh Γ)
    (h : s.handlePeerMessage Γ peerSessionId message = .ok t) : DataSteps Γ e s t := by
  unfold handlePeerMessage at h
  split at h
  · cases h
    exact .refl s
  · split at h
    · split at h
      · cases h
        exact (DataTurns.sendError _ _ _ s).steps
      · cases h
    · split at h
      · cases h
      · cases h
        exact routeMessage_data _ _ s fresh

/-! ## Control sockets -/

/-- Turns and teardowns leave every listener what it is for. -/
theorem Closes.roles {s t : Gateway} (h : s.Closes t) :
    s.net.sockets.Pointwise (fun k k' => k.listener.SameRole k'.listener) t.net.sockets := by
  induction h with
  | refl => exact .refl (fun k => .refl _) _
  | tail _ hstep ih =>
    refine ih.trans (fun _ _ _ => .trans) ?_
    cases hstep with
    | turn h => exact h.net.sockets.mono (fun _ _ hk => hk.listener)
    | @teardown reason channelId =>
      rename_i t _
      intro ws
      have hl := teardownChannel_listener reason t channelId ws
      revert hl
      rcases t.net.sockets.get ws with _ | k <;>
        rcases (t.teardownChannel reason channelId).net.sockets.get ws with _ | k' <;> intro hl
      · exact .none
      · cases hl
      · cases hl
      · rw [Option.map_some, Option.map_some, Option.some.injEq] at hl
        exact .some (hl ▸ .refl _)

theorem controlMessage_data {ws : SocketId} {k : WsSocket} {conn : ControlConn} {frame : Frame} {buffered : Nat}
    {writable : Bool} {s : Gateway} (fresh : s.Fresh Γ) (hno : s.helloOf Γ (.message ws frame buffered writable) = none)
    (hk : s.net.sockets.get ws = some k) (hl : k.listener = .control conn) (hr : k.reads = true) :
    DataSteps Γ e s (s.controlMessage Γ ws conn frame.data) := by
  unfold controlMessage
  split
  · exact ((DataTurns.sendError _ _ _ s).trans (.onNet (.close _ _ _ _))).steps
  · exact (DataTurns.sendError _ _ _ s).steps
  · rename_i hparse hn
    obtain ⟨error, he⟩ := handleFirstMessage_refused hno hk hl hr hn hparse
    rw [he]
    exact ((DataTurns.sendError _ _ _ s).trans (.onNet (.close _ _ _ _))).steps
  · split
    · rename_i h
      exact handlePeerMessage_data _ _ fresh h
    · exact (DataTurns.sendError _ _ _ s).steps

theorem controlClose_closes (ws : SocketId) (conn : ControlConn) (s : Gateway) : s.Closes (s.controlClose ws conn) := by
  have hcounted (wsConnectionsPerIp) : s.DataTurns { (s.onNet (clearAuthTimeout ws)) with wsConnectionsPerIp } :=
    (DataTurns.onNet (.clearAuthTimeout ws _)).trans (.control rfl)
  unfold controlClose
  dsimp only
  split
  · exact (hcounted _).closes.trans (handlePeerDisconnect_closes _ _)
  · exact (hcounted _).closes

theorem authTimeoutFires_turns (ws : SocketId) (s : Gateway) : s.DataTurns (s.authTimeoutFires ws) := by
  have hcleared : s.DataTurns (s.onNet (clearAuthTimeout ws)) :=
    .onNet (.clearAuthTimeout ws _)
  unfold authTimeoutFires
  split
  · split
    · dsimp only
      split
      · exact hcleared.trans (.onNet (.close _ _ _ _))
      · exact hcleared
    · exact .refl s
  · exact .refl s

theorem replacedGraceFires_turns (ws : SocketId) (s : Gateway) : s.DataTurns (s.replacedGraceFires ws) := by
  unfold replacedGraceFires
  split
  · exact .refl s
  · split
    · refine .onNet (Net.Turns.trans (.modifySocket fun k _ => ?_) (.terminate _ _))
      exact ⟨Or.inl rfl, rfl, .refl _, fun _ => rfl, fun _ hl => ⟨hl, rfl⟩⟩
    · exact .refl s

theorem controlPong_turns (ws : SocketId) (s : Gateway) : s.DataTurns (s.controlPong ws) := by
  unfold controlPong
  split
  · exact .onState _ s
  · exact .refl s

/-! ## Exchanges -/

theorem requestData_turns (ex : ExchangeId) (chunk : Bytes) (buffered : Nat) (s : Gateway) :
    s.DataTurns (s.requestData ex chunk buffered) := by
  unfold requestData
  split
  · split
    · exact .refl s
    · refine .onNet ?_
      dsimp only
      split
      · exact (Net.Turns.emit rfl _).trans (.modifyExchange fun x _ => ⟨rfl, rfl, rfl, rfl, rfl, rfl, rfl, rfl⟩)
      · exact .emit rfl _
  · exact .refl s

theorem requestDrainPoll_turns (ex : ExchangeId) (buffered : Nat) (s : Gateway) :
    s.DataTurns (s.requestDrainPoll ex buffered) := by
  unfold requestDrainPoll
  split
  · split
    · exact .onNet (.modifyExchange fun x _ => ⟨rfl, rfl, rfl, rfl, rfl, rfl, rfl, rfl⟩)
    · exact .refl s
  · exact .refl s

theorem requestEnd_turns (ex : ExchangeId) (s : Gateway) : s.DataTurns (s.requestEnd ex) := by
  unfold requestEnd
  split
  · split
    · exact .emit rfl s
    · exact .refl s
  · exact .refl s
theorem bridgeMessage_data {ws : SocketId} {k : WsSocket} {channelId : String} {ex : ExchangeId} (frame : Frame)
    (writable : Bool) {s : Gateway} (hk : s.net.sockets.get ws = some k) (hl : k.listener = .bridge channelId ex) :
    DataSteps Γ e s (s.bridgeMessage Γ ws channelId ex frame writable) := by
  unfold bridgeMessage
  split
  · exact .refl s
  · rename_i x hx
    split
    · rename_i hm
      have htimer : s.DataTurns (s.onNet (Net.modifyExchange ex (fun x => { x with responseTimer := false }))) :=
        .onNet (.modifyExchange fun x _ => ⟨rfl, rfl, rfl, rfl, rfl, rfl, rfl, rfl⟩)
      have hx' : (s.onNet (Net.modifyExchange ex (fun x => { x with responseTimer := false }))).net.exchanges.get ex =
          some { x with responseTimer := false } := by
        simp [Net.modifyExchange, hx]
      dsimp only
      split
      · exact (htimer.closes.trans (teardownChannel_closes _ _ _)).steps
      · split
        · exact (htimer.closes.trans (teardownChannel_closes _ _ _)).steps
        · exact htimer.steps.trans (DataStep.responseHead hx' (by simpa using hm) _).steps
    · rename_i hm
      split
      · have htimer : s.DataTurns (s.onNet (Net.modifyExchange ex (fun x => { x with idleTimer := true }))) :=
          .onNet (.modifyExchange fun x _ => ⟨rfl, rfl, rfl, rfl, rfl, rfl, rfl, rfl⟩)
        have hx' : (s.onNet (Net.modifyExchange ex (fun x => { x with idleTimer := true }))).net.exchanges.get ex =
            some { x with idleTimer := true } := by
          simp [Net.modifyExchange, hx]
        have hbody := htimer.steps.trans (DataStep.responseBody (Γ := Γ) (e := e) hx' (by simpa using hm) frame.data).steps
        dsimp only
        split
        · exact hbody
        · have hbridge (u : Gateway) (hu : u.net.sockets = s.net.sockets) (k' : WsSocket)
              (hk' : u.net.sockets.get ws = some k') : k'.listener = .bridge channelId ex := by
            rw [hu, hk, Option.some.injEq] at hk'
            exact hk' ▸ hl
          refine hbody.trans (DataTurns.onNet ?_).steps
          exact Net.Turns.trans (.pause (hbridge _ (callResponse_speaks _ _ _).sockets))
            (.modifyExchange fun x _ => ⟨rfl, rfl, rfl, rfl, rfl, rfl, rfl, rfl⟩)
      · exact .refl s

theorem responseTimeoutFires_closes (ex : ExchangeId) (s : Gateway) : s.Closes (s.responseTimeoutFires ex) := by
  unfold responseTimeoutFires
  split
  · exact .refl s
  · split
    · have htimer : s.DataTurns (s.onNet (Net.modifyExchange ex (fun x => { x with responseTimer := false }))) :=
        .onNet (.modifyExchange fun x _ => ⟨rfl, rfl, rfl, rfl, rfl, rfl, rfl, rfl⟩)
      exact htimer.closes.trans (teardownChannel_closes _ _ _)
    · exact .refl s

theorem idleTimeoutFires_closes (ex : ExchangeId) (s : Gateway) : s.Closes (s.idleTimeoutFires ex) := by
  unfold idleTimeoutFires
  split
  · exact .refl s
  · split
    · have htimer : s.DataTurns (s.onNet (Net.modifyExchange ex (fun x => { x with idleTimer := false }))) :=
        .onNet (.modifyExchange fun x _ => ⟨rfl, rfl, rfl, rfl, rfl, rfl, rfl, rfl⟩)
      exact htimer.closes.trans (teardownChannel_closes _ _ _)
    · exact .refl s

/-! ## Socket events -/

theorem socketMessage_data {ws : SocketId} {frame : Frame} {buffered : Nat} {writable : Bool} {s : Gateway}
    (fresh : s.Fresh Γ) (hno : s.helloOf Γ (.message ws frame buffered writable) = none) :
    DataSteps Γ (.message ws frame buffered writable) s (s.socketMessage Γ ws frame buffered writable) := by
  unfold socketMessage
  split
  · exact .refl s
  · rename_i k hk
    split
    · rename_i hr
      split
      · exact .refl s
      · rename_i conn hl
        exact controlMessage_data fresh hno hk hl hr
      · rename_i leg hl
        have hopen : k.readyState ≠ .closed := by
          simp only [WsSocket.reads, Bool.and_eq_true, decide_eq_true_eq] at hr
          exact hr.1
        rcases relayMessage_moves (Γ := Γ) frame buffered hk hl hopen with he | hmoves
        · rw [he]
          exact .refl s
        · exact (DataStep.relay hmoves (Or.inl ⟨_, _, _, rfl⟩)).steps
      · rename_i channelId ex hl
        exact bridgeMessage_data _ _ hk hl
    · exact .refl s

theorem socketError_closes (ws : SocketId) (s : Gateway) : s.Closes (s.socketError ws) := by
  unfold socketError
  split
  · exact .refl s
  · rename_i k hk
    split
    · rename_i hparses
      have hopen : k.readyState ≠ .closed := of_decide_eq_true hparses
      have hclosing : s.DataTurns (s.onNet (Net.modifySocket ws (fun k => { k with readyState := .closing }))) :=
        .onNet (.modifySocket fun k' hk' => .closing (by rw [hk, Option.some.injEq] at hk'; exact hk' ▸ hopen))
      dsimp only
      split
      · exact (hclosing.trans (.throw rfl _)).closes
      · split
        · exact hclosing.closes.trans (teardownChannel_closes _ _ _)
        · exact hclosing.closes.trans (teardownChannel_closes _ _ _)
        · exact hclosing.closes
    · exact .refl s

theorem socketClosing_turns (ws : SocketId) (s : Gateway) : s.DataTurns (s.socketClosing ws) := by
  unfold socketClosing
  split
  · exact .refl s
  · rename_i k hk
    split
    · rename_i hreads
      have hopen : k.readyState ≠ .closed := by
        simp only [WsSocket.reads, Bool.and_eq_true, decide_eq_true_eq] at hreads
        exact hreads.1
      exact .onNet (.modifySocket fun k' hk' => .closing (by rw [hk, Option.some.injEq] at hk'; exact hk' ▸ hopen))
    · exact .refl s

theorem socketClosed_data (ws : SocketId) (s : Gateway) : DataSteps Γ (.socketClosed ws) s (s.socketClosed ws) := by
  unfold socketClosed
  split
  · exact .refl s
  · rename_i k hk
    split
    · exact .refl s
    · rename_i hopen
      have hclosed : s.DataTurns (s.onNet (Net.modifySocket ws (fun k => { k with readyState := .closed }))) := by
        refine .onNet (.modifySocket fun k' hk' => ⟨Or.inr ⟨?_, by simp⟩, rfl, .refl _, fun _ => rfl, fun _ hl => ⟨hl, rfl⟩⟩)
        rw [hk, Option.some.injEq] at hk'
        exact hk' ▸ hopen
      dsimp only
      split
      · exact hclosed.steps
      · exact (hclosed.closes.trans (controlClose_closes _ _ _)).steps
      · exact (hclosed.closes.trans (teardownChannel_closes _ _ _)).steps
      · rename_i channelId ex hl
        have hk' : (s.onNet (Net.modifySocket ws (fun k => { k with readyState := .closed }))).net.sockets.get ws =
            some { k with readyState := .closed } := by
          simp [Net.modifySocket, hk]
        exact hclosed.steps.trans (DataStep.bridgeClose hk' hl rfl).steps

/-! ## Routes -/

/-- An upgrade is one operation. -/
theorem upgrade_step (ip target : String) (handshakeOk : Bool) {s : Gateway} (fresh : s.Fresh Γ) :
    DataStep Γ (.upgrade ip target handshakeOk) s (s.upgrade Γ ip target handshakeOk) := by
  unfold upgrade
  split
  · exact .close (.turn (.throw rfl s))
  · rename_i url hurl
    split
    · rename_i hpath
      split
      · rename_i hok
        exact .connect fresh ip ⟨target, url, hok ▸ rfl, hurl, hpath⟩
      · exact .close (.turn (.emit rfl s))
    · split
      · rename_i hpath
        exact .dial fresh _ _ _ ⟨ip, target, handshakeOk, url, rfl, hurl, hpath, rfl, rfl⟩
      · exact .close (.turn (.emit rfl s))

theorem denyUnauthorized_turns (ip message : String) (s : Gateway) : s.DataTurns (s.denyUnauthorized Γ ip message) := by
  have hcounted := recordAuthFailure_turns (Γ := Γ) ip s
  unfold denyUnauthorized
  dsimp only
  split
  · exact hcounted.trans (.reply _ _)
  · exact hcounted.trans (.reply _ _)

theorem checkProxyIp_turns (ip : String) (s : Gateway) : s.DataTurns (s.checkProxyIp Γ ip).2 := by
  unfold checkProxyIp
  split
  · exact .control rfl
  · exact .refl s

theorem refuseProxyRequest_turns (credentialId ip : String) (s : Gateway) :
    s.DataTurns (s.refuseProxyRequest Γ credentialId ip).2 := by
  have hip := checkProxyIp_turns (Γ := Γ) ip s
  unfold refuseProxyRequest
  dsimp only
  split
  · exact hip
  · have hcounted (proxyRequests) : s.DataTurns { (s.checkProxyIp Γ ip).2 with proxyRequests } := hip.trans (.control rfl)
    split
    · exact hcounted _
    · exact hcounted _

theorem proxyRoute_data {request : ProxyRequest} (hrequest : e.Proxies request) (authorization : Option String) {s : Gateway}
    (fresh : s.Fresh Γ) : DataSteps Γ e s (s.proxyRoute Γ request authorization) := by
  unfold proxyRoute
  split
  · exact (denyUnauthorized_turns _ _ s).steps
  · rename_i token _
    have hresolved := resolveToken_turns (Γ := Γ) token s
    rcases hr : s.resolveToken Γ token with ⟨credential, s'⟩
    rw [hr] at hresolved
    rcases credential with _ | credential
    · exact (hresolved.trans (denyUnauthorized_turns _ _ s')).steps
    · have hcounted := hresolved.trans (refuseProxyRequest_turns (Γ := Γ) credential.id request.ip s')
      dsimp only
      rcases hp : s'.refuseProxyRequest Γ credential.id request.ip with ⟨refused, s''⟩
      rw [hp] at hcounted
      have hreply (r : HttpReply) : DataSteps Γ e s (s''.reply r) := (hcounted.trans (.reply _ _)).steps
      dsimp only
      split
      · exact hreply _
      · split
        · exact hreply _
        · split
          · exact hreply _
          · split
            · exact hreply _
            · split
              · exact hreply _
              · exact hcounted.steps.trans (DataStep.proxyViaChannel (fresh.turns hcounted) hrequest _ _).steps

theorem syncRegistryRoute_turns (ip : String) (authorization : Option String) (s : Gateway) :
    s.DataTurns (s.syncRegistryRoute Γ ip authorization) := by
  unfold syncRegistryRoute
  split
  · exact denyUnauthorized_turns _ _ s
  · split
    · exact denyUnauthorized_turns _ _ s
    · exact .reply _ s

theorem discoveryRoute_turns (ip : String) (authorization : Option String) (s : Gateway) :
    s.DataTurns (s.discoveryRoute Γ ip authorization) := by
  unfold discoveryRoute
  split
  · exact denyUnauthorized_turns _ _ s
  · rename_i token _
    have hresolved := resolveToken_turns (Γ := Γ) token s
    dsimp only
    split
    · exact hresolved.trans (denyUnauthorized_turns _ _ _)
    · exact hresolved.trans (.reply _ _)

theorem backendTokenRoute_turns (ip : String) (authorization : Option String) (s : Gateway) :
    s.DataTurns (s.backendTokenRoute Γ ip authorization) := by
  unfold backendTokenRoute
  rcases bearerToken authorization with _ | token
  · exact denyUnauthorized_turns _ _ _
  · have hresolved := resolveToken_turns (Γ := Γ) token s
    dsimp only
    split
    · exact hresolved.trans (denyUnauthorized_turns _ _ _)
    · split
      · exact hresolved.trans (.reply _ _)
      · refine (hresolved.trans ?_).trans (.reply _ _)
        exact .control rfl

theorem closePeersOf_turns (ids : List String) (reason : String) (s : Gateway) : s.DataTurns (s.closePeersOf ids reason) :=
  .onNet (.foldl (fun _ _ => .close _ _ _ _) _ _)

theorem adminLoginRoute_turns (ip : String) (expiresAt : Option Nat) (s : Gateway) :
    s.DataTurns (s.adminLoginRoute Γ ip expiresAt) := by
  cases expiresAt with
  | none => exact denyUnauthorized_turns _ _ s
  | some expiresAt => exact .reply _ s

theorem adminSessionRoute_turns (expiresAt : Option Nat) (s : Gateway) : s.DataTurns (s.adminSessionRoute expiresAt) := by
  cases expiresAt with
  | none => exact .reply _ s
  | some expiresAt => exact .reply _ s

theorem adminRoute_turns (ip : String) (auth : AdminAuth) (request : AdminRequest) (s : Gateway) :
    s.DataTurns (s.adminRoute Γ ip auth request) := by
  have herror (status : Nat) (code message : String) : s.DataTurns (s.replyError status code message) := .reply _ s
  have hstore (storage : Storage) : s.DataTurns { s with storage } := .control rfl
  have hstored (storage : Storage) (r : HttpReply) : s.DataTurns ({ s with storage }.reply r) :=
    (hstore storage).trans (.reply _ _)
  have hclosed (storage : Storage) (ids : List String) (reason : String) (r : HttpReply) :
      s.DataTurns (({ s with storage }.closePeersOf ids reason).reply r) :=
    ((hstore storage).trans (closePeersOf_turns _ _ _)).trans (.reply _ _)
  cases auth with
  | denied => exact denyUnauthorized_turns _ _ s
  | foreignOrigin => exact herror _ _ _
  | granted =>
    cases request with
    | overview => exact .reply _ s
    | listBackends => exact .reply _ s
    | listCredentials => exact .reply _ s
    | issueCredential body =>
      unfold adminRoute issueCredentialRoute
      dsimp only
      split
      · exact herror _ _ _
      · exact hstored _ _
    | deleteBackend backendId =>
      unfold adminRoute deleteBackendRoute
      dsimp only
      repeat' split
      all_goals first | exact herror _ _ _ | exact hstored _ _
    | bindCredential id body =>
      unfold adminRoute bindCredentialRoute
      dsimp only
      repeat' split
      all_goals first | exact herror _ _ _ | exact hstored _ _
    | changeScope id body =>
      unfold adminRoute changeScopeRoute
      dsimp only
      split
      · exact herror _ _ _
      · split
        · exact herror _ _ _
        · split
          · exact herror _ _ _
          · split
            · exact herror _ _ _
            · exact hclosed _ _ _ _
    | revokeCredential id =>
      unfold adminRoute revokeCredentialRoute
      dsimp only
      split
      · exact hstored _ _
      · exact hclosed _ _ _ _
    | revokeCredentials body =>
      unfold adminRoute revokeCredentialsRoute
      dsimp only
      split
      · exact herror _ _ _
      · exact herror _ _ _
      · exact hclosed _ _ _ _
    | purgeCredentials body =>
      unfold adminRoute purgeCredentialsRoute
      dsimp only
      split
      · split
        · exact herror _ _ _
        · exact hstored _ _
      · exact hstored _ _

/-! ## Intervals -/

theorem pingPeer_closes (s : Gateway) (peerSessionId : String) : s.Closes (s.pingPeer peerSessionId) := by
  unfold pingPeer
  split
  · exact .refl s
  · split
    · exact handlePeerDisconnect_closes _ s
    · exact ((DataTurns.onState _ s).trans (.onNet (.ping _ _))).closes

theorem checkLease_closes (s : Gateway) (backendId : String) : s.Closes (s.checkLease backendId) := by
  unfold checkLease
  split
  · exact .refl s
  · split
    · exact handleBackendLeaseExpired_closes _ s
    · exact .refl s

theorem registryPollInterval_turns (s : Gateway) : s.DataTurns s.registryPollInterval := by
  unfold registryPollInterval
  split
  · exact .broadcast _ s
  · exact .refl s

theorem rateLimitCleanup_data (s : Gateway) : DataSteps Γ e s s.rateLimitCleanup := by
  refine DataSteps.trans (DataStep.dropTickets (fun _ ticket => s.now ≤ ticket.expiresAt)).steps ?_
  exact DataTurns.steps (.control rfl)

theorem pairingTimeoutFires_closes (channelId : String) (s : Gateway) : s.Closes (s.pairingTimeoutFires channelId) := by
  unfold pairingTimeoutFires
  split
  · exact .refl s
  · split
    · exact teardownChannel_closes _ s _
    · exact .refl s

/-- Every event but a hello is a sequence of operations on the data plane; a request that is passed on is that of the event. -/
theorem handle_data {e : Event} {s : Gateway} (fresh : s.Fresh Γ) (hno : s.helloOf Γ e = none) :
    DataSteps Γ e s (s.handle Γ e) := by
  cases e with
  | clock now => exact (DataStep.clock rfl).steps
  | upgrade ip target handshakeOk => exact (upgrade_step _ _ _ fresh).steps
  | message ws frame buffered writable => exact socketMessage_data fresh hno
  | socketError ws => exact (socketError_closes _ s).steps
  | socketClosing ws => exact (socketClosing_turns _ s).steps
  | socketClosed ws => exact socketClosed_data _ s
  | pong ws => exact (controlPong_turns _ s).steps
  | authTimeout ws => exact (authTimeoutFires_turns _ s).steps
  | replacedGrace ws => exact (replacedGraceFires_turns _ s).steps
  | rateTimer ws =>
    rcases rateTimerFires_moves ws s with he | hmoves
    · change DataSteps Γ _ s (s.rateTimerFires ws)
      rw [he]
      exact .refl s
    · exact (DataStep.relay hmoves (Or.inr (Or.inl rfl))).steps
  | drainPoll ws buffered =>
    rcases drainPoll_moves ws buffered s with he | hmoves
    · change DataSteps Γ _ s (s.drainPoll ws buffered)
      rw [he]
      exact .refl s
    · exact (DataStep.relay hmoves (Or.inr (Or.inr ⟨buffered, rfl⟩))).steps
  | pairingTimeout channelId => exact (pairingTimeoutFires_closes _ s).steps
  | pingInterval => exact (Closes.foldl pingPeer_closes _ s).steps
  | leaseCheckInterval => exact (Closes.foldl checkLease_closes _ s).steps
  | registryPollInterval => exact (registryPollInterval_turns s).steps
  | rateLimitCleanup => exact rateLimitCleanup_data s
  | proxy request authorization => exact proxyRoute_data ⟨authorization, rfl⟩ _ fresh
  | requestData ex chunk buffered => exact (requestData_turns _ _ _ s).steps
  | requestEnd ex => exact (requestEnd_turns _ s).steps
  | requestDrainPoll ex buffered => exact (requestDrainPoll_turns _ _ s).steps
  | responseDrain ex => exact (DataStep.responseDrain ex).steps
  | responseClose ex => exact (DataStep.responseClose ex).steps
  | responseTimeout ex => exact (responseTimeoutFires_closes _ s).steps
  | idleTimeout ex => exact (idleTimeoutFires_closes _ s).steps
  | syncRegistry ip authorization => exact (syncRegistryRoute_turns _ _ s).steps
  | discovery ip authorization => exact (discoveryRoute_turns _ _ s).steps
  | backendToken ip authorization => exact (backendTokenRoute_turns _ _ s).steps
  | admin ip auth request => exact (adminRoute_turns _ _ _ s).steps
  | adminLogin ip expiresAt => exact (adminLoginRoute_turns _ _ s).steps
  | adminSession ip expiresAt => exact (adminSessionRoute_turns _ s).steps

end Gateway

end ZclaudiaGateway
