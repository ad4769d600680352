import ZclaudiaGateway.Lemmas.Legs

/-!
# What an event does to peers, leases and topics

Most events leave the control plane alone but for a heartbeat's time, a pong and channels that go. `ControlStep` lists the
operations that do more; every event but a hello and the lease check is a sequence of them (`handle_control`). A hello opens a
session, and the lease check is a sequence of expiries.
-/

namespace ZclaudiaGateway

/-! ## Turns of the control plane -/

/-- The same session, but for its last pong. -/
def PeerSession.Same (peer peer' : PeerSession) : Prop := ∃ isAlive, peer' = { peer with isAlive }

/-- The same lease, but for its last heartbeat. -/
def BackendLease.Same (lease lease' : BackendLease) : Prop := ∃ lastHeartbeatAt, lease' = { lease with lastHeartbeatAt }

/-- The same registry item, but for its last heartbeat. -/
def BackendPresence.Same (item item' : BackendPresence) : Prop := ∃ lastSeenAt, item' = { item with lastSeenAt }

/-- The same channel with the same ends: its backend's lease and its two sessions. -/
structure ChannelRecord.SameEnds (ch ch' : ChannelRecord) : Prop where
  channelId : ch'.channelId = ch.channelId
  backendId : ch'.backendId = ch.backendId
  epoch : ch'.epoch = ch.epoch
  client : ch'.clientPeerSessionId = ch.clientPeerSessionId
  backend : ch'.backendPeerSessionId = ch.backendPeerSessionId

theorem PeerSession.Same.refl (peer : PeerSession) : peer.Same peer := ⟨peer.isAlive, rfl⟩

theorem PeerSession.Same.trans {p p' p'' : PeerSession} (h : p.Same p') (h' : p'.Same p'') : p.Same p'' := by
  obtain ⟨a, rfl⟩ := h
  obtain ⟨a', rfl⟩ := h'
  exact ⟨a', rfl⟩

theorem BackendLease.Same.refl (lease : BackendLease) : lease.Same lease := ⟨lease.lastHeartbeatAt, rfl⟩

theorem BackendLease.Same.trans {l l' l'' : BackendLease} (h : l.Same l') (h' : l'.Same l'') : l.Same l'' := by
  obtain ⟨a, rfl⟩ := h
  obtain ⟨a', rfl⟩ := h'
  exact ⟨a', rfl⟩

theorem BackendPresence.Same.refl (item : BackendPresence) : item.Same item := ⟨item.lastSeenAt, rfl⟩

theorem BackendPresence.Same.trans {i i' i'' : BackendPresence} (h : i.Same i') (h' : i'.Same i'') : i.Same i'' := by
  obtain ⟨a, rfl⟩ := h
  obtain ⟨a', rfl⟩ := h'
  exact ⟨a', rfl⟩

theorem ChannelRecord.SameEnds.refl (ch : ChannelRecord) : ch.SameEnds ch := ⟨rfl, rfl, rfl, rfl, rfl⟩

theorem ChannelRecord.SameEnds.trans {ch ch' ch'' : ChannelRecord} (h : ch.SameEnds ch') (h' : ch'.SameEnds ch'') :
    ch.SameEnds ch'' :=
  ⟨h'.channelId.trans h.channelId, h'.backendId.trans h.backendId, h'.epoch.trans h.epoch, h'.client.trans h.client,
    h'.backend.trans h.backend⟩

/-- Peers, leases and registry are the same, but for times and pongs. -/
structure GatewayState.Turns (st st' : GatewayState) : Prop where
  peers : st.peers.Pointwise PeerSession.Same st'.peers
  registry : st.registry.Pointwise BackendPresence.Same st'.registry
  leases : st.leases.Pointwise BackendLease.Same st'.leases

theorem GatewayState.Turns.refl (st : GatewayState) : st.Turns st :=
  ⟨.refl PeerSession.Same.refl _, .refl BackendPresence.Same.refl _, .refl BackendLease.Same.refl _⟩

theorem GatewayState.Turns.trans {st st' st'' : GatewayState} (h : st.Turns st') (h' : st'.Turns st'') : st.Turns st'' :=
  ⟨h.peers.trans (fun _ _ _ => .trans) h'.peers, h.registry.trans (fun _ _ _ => .trans) h'.registry,
    h.leases.trans (fun _ _ _ => .trans) h'.leases⟩

/-- A message of the topic protocol. -/
def GatewayMessage.isTopic : GatewayMessage → Bool
  | .topicSubscribe _ _ | .topicUnsubscribe _ _ | .topicPublish _ _ _ => true
  | _ => false

namespace Gateway

/-- No channel is new, and none has other ends. -/
def ChannelsGo (s t : Gateway) : Prop :=
  ∀ id ch, t.channels.get id = some ch → ∃ ch0, s.channels.get id = some ch0 ∧ ch0.SameEnds ch

theorem ChannelsGo.refl (s : Gateway) : s.ChannelsGo s := fun _ ch hc => ⟨ch, hc, .refl ch⟩

theorem ChannelsGo.trans {s t u : Gateway} (h : s.ChannelsGo t) (h' : t.ChannelsGo u) : s.ChannelsGo u := by
  intro id ch hc
  obtain ⟨ch1, hc1, he1⟩ := h' id ch hc
  obtain ⟨ch0, hc0, he0⟩ := h id ch1 hc1
  exact ⟨ch0, hc0, he0.trans he1⟩

/-- The control plane is the same, but for times, pongs and channels that go. -/
structure ControlTurns (s t : Gateway) : Prop where
  state : s.state.Turns t.state
  recoveryTokens : t.recoveryTokens = s.recoveryTokens
  topicSubs : t.topicSubs = s.topicSubs
  retainedTopics : t.retainedTopics = s.retainedTopics
  channels : s.ChannelsGo t
  maxEpoch : t.storage.maxEpoch = s.storage.maxEpoch
  drawn : t.drawn = s.drawn
  emits : s.net.Discreet t.net

/-- The tables of the control plane, the storage apart. -/
def controlPlane (s : Gateway) :
    GatewayState × InsertionMap String String × InsertionMap String (InsertionMap String (InsertionMap String Unit)) ×
      InsertionMap String (InsertionMap String JsonValue) × InsertionMap String ChannelRecord × Nat :=
  (s.state, s.recoveryTokens, s.topicSubs, s.retainedTopics, s.channels, s.drawn)

/-- Only other tables differ. -/
theorem ControlTurns.same {s t : Gateway} (h : t.controlPlane = s.controlPlane)
    (maxEpoch : t.storage.maxEpoch = s.storage.maxEpoch) (emits : s.net.Discreet t.net) : s.ControlTurns t := by
  simp only [controlPlane, Prod.mk.injEq] at h
  obtain ⟨hs, hr, ht, hm, hc, hd⟩ := h
  refine ⟨?_, hr, ht, hm, fun id ch hch => ⟨ch, hc ▸ hch, .refl ch⟩, maxEpoch, hd, emits⟩
  rw [hs]
  exact .refl _

theorem ControlTurns.refl (s : Gateway) : s.ControlTurns s := .same rfl rfl (.of_eq rfl)

theorem ControlTurns.trans {s t u : Gateway} (h : s.ControlTurns t) (h' : t.ControlTurns u) : s.ControlTurns u :=
  ⟨h.state.trans h'.state, h'.recoveryTokens.trans h.recoveryTokens, h'.topicSubs.trans h.topicSubs,
    h'.retainedTopics.trans h.retainedTopics, h.channels.trans h'.channels, h'.maxEpoch.trans h.maxEpoch,
    h'.drawn.trans h.drawn, h.emits.trans h'.emits⟩

theorem ControlTurns.onNet {f : Net → Net} {s : Gateway} (h : s.net.Discreet (f s.net)) : s.ControlTurns (s.onNet f) :=
  .same rfl rfl h

theorem ControlTurns.throw (error : JsError) (s : Gateway) : s.ControlTurns (s.throw error) := .same rfl rfl (.of_eq rfl)

theorem ControlTurns.onState {f : GatewayState → GatewayState} {s : Gateway} (hf : s.state.Turns (f s.state)) :
    s.ControlTurns (s.onState f) :=
  ⟨hf, rfl, rfl, rfl, .refl s, rfl, rfl, .of_eq rfl⟩

theorem ControlTurns.teardown (reason : ChannelClosedReason) (channelId : String) (s : Gateway) :
    s.ControlTurns (s.teardownChannel reason channelId) := by
  refine ⟨?_, by simp, by simp, by simp, fun id ch hc => ?_, by simp, by simp,
    .of_tears (teardownChannel_emits reason s channelId)⟩
  · rw [teardownChannel_state]
    exact .refl _
  · rw [teardownChannel_channel] at hc
    split at hc
    · cases hc
    · exact ⟨ch, hc, .refl ch⟩

/-- A channel's fields that are not its ends. -/
theorem ControlTurns.onChannel {f : ChannelRecord → ChannelRecord} (hf : ∀ ch : ChannelRecord, ch.SameEnds (f ch))
    (channelId : String) (s : Gateway) : s.ControlTurns (s.onChannel channelId f) := by
  refine ⟨.refl _, rfl, rfl, rfl, fun id ch hc => ?_, rfl, rfl, .of_eq rfl⟩
  simp only [Gateway.onChannel, InsertionMap.get_modify] at hc
  split at hc
  · obtain ⟨ch0, hc0, rfl⟩ := Option.map_eq_some_iff.mp hc
    exact ⟨ch0, hc0, hf ch0⟩
  · exact ⟨ch, hc, .refl ch⟩

theorem ResponseSpeaks.control {s t : Gateway} (h : s.ResponseSpeaks t) : s.ControlTurns t :=
  .same (by simp only [controlPlane, h.state, h.recoveryTokens, h.topicSubs, h.retainedTopics, h.channels, h.drawn])
    (by rw [h.storage]) h.emits

/-! ## Handlers that leave the control plane alone -/

variable {Γ : Ctx}

theorem handleBackendHeartbeat_control (peer : PeerSession) (epoch : JsNumber) (s : Gateway) :
    s.ControlTurns (s.handleBackendHeartbeat peer epoch) := by
  unfold handleBackendHeartbeat
  split
  · exact .refl s
  · split
    · exact .refl s
    · rename_i backendId _
      refine ControlTurns.trans (.onState ⟨.refl PeerSession.Same.refl _, ?_, ?_⟩) (.onNet (.sendToWs rfl _ _))
      · exact .modify BackendPresence.Same.refl fun item _ => ⟨s.now, rfl⟩
      · exact .modify BackendLease.Same.refl fun lease _ => ⟨s.now, rfl⟩

theorem handlePushNotificationRequest_control (peer : PeerSession) (event : JsonValue) (s : Gateway) :
    s.ControlTurns (s.handlePushNotificationRequest Γ peer event) := by
  unfold handlePushNotificationRequest
  split
  · exact .onNet (.sendToWs rfl _ _)
  · split
    · exact .refl s
    · exact .onNet (.emit rfl _)
    · exact .throw _ s

theorem relayRate_emits (limit : Option Nat) (now size : Nat) (ws : SocketId) (leg : RelayLeg) (net : Net) :
    net.Discreet (relayRate limit now size ws leg net).2 := by
  unfold relayRate
  split
  · exact .refl net
  · split
    · exact .refl net
    · dsimp only
      split
      · exact (Net.Discreet.modifySocket ws _ net).trans (.pause _ _)
      · exact .modifySocket ws _ net

theorem relayMessage_control (ws : SocketId) (leg : RelayLeg) (frame : Frame) (buffered : Nat) (s : Gateway) :
    s.ControlTurns (s.relayMessage Γ ws leg frame buffered) := by
  unfold relayMessage
  dsimp only
  split
  · exact .refl s
  · have hspent : s.net.Discreet (relayRate Γ.config.channelByteRateLimit s.now frame.data.length ws leg
        (s.net.emit (.sendFrame leg.dst frame))).2 := (Net.Discreet.emit rfl _).trans (relayRate_emits _ _ _ _ _ _)
    refine .same rfl rfl ?_
    dsimp only
    split
    · exact (hspent.trans (.modifySocket ws _ _)).trans (.pause _ _)
    · exact hspent

theorem bridgeMessage_control (ws : SocketId) (channelId : String) (ex : ExchangeId) (frame : Frame) (writable : Bool)
    (s : Gateway) : s.ControlTurns (s.bridgeMessage Γ ws channelId ex frame writable) := by
  unfold bridgeMessage
  split
  · exact .refl s
  · dsimp only
    split
    · split
      · exact (ControlTurns.onNet (.modifyExchange ex _ _)).trans (.teardown _ _ _)
      · split
        · exact (ControlTurns.onNet (.modifyExchange ex _ _)).trans (.teardown _ _ _)
        · exact (ControlTurns.onNet (.modifyExchange ex _ _)).trans (responseHead_speaks _ _ _ _).control
    · split
      · have hbody := (ControlTurns.onNet (s := s) (.modifyExchange ex (fun x => { x with idleTimer := true }) _)).trans
          (callResponse_speaks ex _ (.write frame.data)).control
        split
        · exact hbody
        · exact hbody.trans (.onNet ((Net.Discreet.pause _ _).trans (.modifyExchange ex _ _)))
      · exact .refl s

theorem finishResponse_control (channelId : String) (ex : ExchangeId) (x : HttpExchange) (s : Gateway) :
    s.ControlTurns (s.finishResponse channelId ex x) := by
  have hforget (t : Gateway) : t.ControlTurns (t.onChannel channelId (fun ch => { ch with internalRes := none })) :=
    .onChannel (f := fun ch => { ch with internalRes := none }) (fun ch => ⟨rfl, rfl, rfl, rfl, rfl⟩) channelId t
  have hcleared : s.ControlTurns (s.onNet (Net.modifyExchange ex (fun x =>
      { x with responseTimer := false, idleTimer := false }))) := .onNet (.modifyExchange ex _ _)
  have hended (t : Gateway) : t.ControlTurns (t.onNet (Net.endResponse ex)) :=
    .onNet ((Net.Discreet.modifyExchange ex _ _).trans (.emit rfl _))
  unfold finishResponse
  dsimp only
  split
  · split
    · exact (hcleared.trans (hended _)).trans (hforget _)
    · exact hcleared.trans (hforget _)
  · exact hcleared

theorem bridgeClose_control (channelId : String) (ex : ExchangeId) (s : Gateway) :
    s.ControlTurns (s.bridgeClose channelId ex) := by
  unfold Gateway.bridgeClose
  split
  · exact .refl s
  · exact (finishResponse_control channelId ex _ s).trans (.teardown _ _ _)

theorem responseTimeoutFires_control (ex : ExchangeId) (s : Gateway) : s.ControlTurns (s.responseTimeoutFires ex) := by
  unfold responseTimeoutFires
  split
  · exact .refl s
  · split
    · exact (ControlTurns.onNet (.modifyExchange ex _ _)).trans (.teardown _ _ _)
    · exact .refl s

theorem idleTimeoutFires_control (ex : ExchangeId) (s : Gateway) : s.ControlTurns (s.idleTimeoutFires ex) := by
  unfold idleTimeoutFires
  split
  · exact .refl s
  · split
    · exact (ControlTurns.onNet (.modifyExchange ex _ _)).trans (.teardown _ _ _)
    · exact .refl s

theorem responseClose_control (ex : ExchangeId) (s : Gateway) : s.ControlTurns (s.responseClose ex) := by
  unfold Gateway.responseClose
  split
  · exact .refl s
  · split
    · exact .refl s
    · exact (ControlTurns.onNet (.modifyExchange ex _ _)).trans (.teardown _ _ _)

theorem bridgeHttpChannel_emits (channelId : String) (ex : ExchangeId) (ws : SocketId) (net : Net) :
    net.Discreet (bridgeHttpChannel channelId ex ws net) := by
  unfold bridgeHttpChannel
  split
  · exact .refl net
  · exact ((Net.Discreet.emit rfl net).trans (.modifySocket ws _ _)).trans (.modifyExchange ex _ _)

theorem pairLegs_control (channelId : String) (ch : ChannelRecord) (s : Gateway) :
    s.ControlTurns (s.pairLegs channelId ch) := by
  unfold Gateway.pairLegs
  split
  · have hpiped := ControlTurns.onChannel (f := fun ch => { ch with piped := true, pairingTimeout := false })
      (fun ch => ⟨rfl, rfl, rfl, rfl, rfl⟩) channelId s
    exact (hpiped.trans (.onNet (bridgeHttpChannel_emits _ _ _ _))).trans (.onNet (.resume _ _))
  · have htimer := ControlTurns.onChannel (f := fun ch => { ch with pairingTimeout := false })
      (fun ch => ⟨rfl, rfl, rfl, rfl, rfl⟩) channelId s
    have hpiped (t : Gateway) := ControlTurns.onChannel (f := fun ch => { ch with piped := true })
      (fun ch => ⟨rfl, rfl, rfl, rfl, rfl⟩) channelId t
    unfold wireChannel
    exact ((((htimer.trans (hpiped _)).trans (.onNet (.modifySocket _ _ _))).trans (.onNet (.modifySocket _ _ _))).trans
      (.onNet (.resume _ _))).trans (.onNet (.resume _ _))
  · exact .refl s

theorem handleChannelUpgrade_control (channelId : String) (ticket : Option String) (handshakeOk : Bool) (s : Gateway) :
    s.ControlTurns (s.handleChannelUpgrade channelId ticket handshakeOk) := by
  have hconsumed : s.ControlTurns (s.consumeTicket (ticket.getD "")) := .same rfl rfl (.of_eq rfl)
  rcases handleChannelUpgrade_cases s channelId ticket handshakeOk with he | ⟨found, ch, -, -, hc, -, he⟩
  · rw [he]
    exact hconsumed.trans (.onNet (.emit rfl _))
  · rw [he]
    refine hconsumed.trans ?_
    have hc' : (s.consumeTicket (ticket.getD "")).channels.get channelId = some ch := hc
    unfold attachLeg
    dsimp only
    rw [hc']
    have hattached (u : Gateway) (sockets : InsertionMap SocketId WsSocket) :
        u.ControlTurns (u.onNet (fun net => { net with sockets }.emit (.attached channelId found.role u.drawn))) :=
      .onNet (.attach rfl sockets _)
    refine ((hattached _ _).trans (.onChannel (fun ch => ?_) _ _)).trans (pairLegs_control _ _ _)
    cases found.role <;> exact ⟨rfl, rfl, rfl, rfl, rfl⟩

theorem controlConnection_control (ip : String) (s : Gateway) : s.ControlTurns (s.controlConnection ip) := by
  unfold controlConnection
  dsimp only
  split
  · exact .onNet ((Net.Discreet.emit rfl _).trans (.close _ _ _ _))
  · exact .same rfl rfl (.emit rfl _)

theorem upgrade_control (ip target : String) (handshakeOk : Bool) (s : Gateway) :
    s.ControlTurns (s.upgrade Γ ip target handshakeOk) := by
  unfold upgrade
  split
  · exact .throw _ s
  · split
    · split
      · exact controlConnection_control _ s
      · exact .onNet (.emit rfl _)
    · split
      · exact handleChannelUpgrade_control _ _ _ s
      · exact .onNet (.emit rfl _)

/-! ## Credentials -/

theorem findValidCredential_maxEpoch (hash : String → String) (now : Nat) (token : String) (st : Storage) :
    (st.findValidCredential hash now token).2.maxEpoch = st.maxEpoch := by
  unfold Storage.findValidCredential
  repeat' split
  all_goals rfl

theorem resolveToken_control (token : String) (s : Gateway) : s.ControlTurns (s.resolveToken Γ token).2 := by
  unfold resolveToken
  split
  · exact .same rfl (findValidCredential_maxEpoch _ _ _ _) (.of_eq rfl)
  · exact .refl s

theorem denyUnauthorized_control (ip message : String) (s : Gateway) :
    s.ControlTurns (s.denyUnauthorized Γ ip message) := by
  unfold denyUnauthorized
  dsimp only
  split
  · exact .same rfl rfl (.emit rfl _)
  · exact .same rfl rfl (.emit rfl _)

theorem refuseProxyRequest_control (credentialId ip : String) (s : Gateway) :
    s.ControlTurns (s.refuseProxyRequest Γ credentialId ip).2 := by
  have hip : s.ControlTurns (s.checkProxyIp Γ ip).2 := by
    unfold checkProxyIp
    split
    · exact .same rfl rfl (.of_eq rfl)
    · exact .refl s
  unfold refuseProxyRequest
  dsimp only
  split
  · exact hip
  · have hcounted (proxyRequests) : s.ControlTurns { (s.checkProxyIp Γ ip).2 with proxyRequests } := hip.trans (.same rfl rfl (.of_eq rfl))
    split
    · exact hcounted _
    · exact hcounted _

/-! ## What the routes do to the epoch counter -/

theorem createCredential_maxEpoch (hash : String → String) (fresh : Storage.CredentialDraw) (now : Nat)
    (input : Storage.CredentialInput) (st : Storage) :
    (st.createCredential hash fresh now input).2.2.maxEpoch = st.maxEpoch := by
  unfold Storage.createCredential
  dsimp only
  split <;> rfl

theorem exchangeAccessCredential_maxEpoch (hash : String → String) (fresh : Storage.CredentialDraw) (now : Nat)
    (parent : CredentialRecord) (ttlMs : Option (Option ℚ)) (st : Storage) :
    (st.exchangeAccessCredential hash fresh now parent ttlMs).2.2.maxEpoch = st.maxEpoch := by
  unfold Storage.exchangeAccessCredential
  split
  · exact createCredential_maxEpoch _ _ _ _ _
  · rfl

theorem bindBackendCredential_maxEpoch (id backendId : String) (st : Storage) :
    (st.bindBackendCredential id backendId).maxEpoch = st.maxEpoch := by
  unfold Storage.bindBackendCredential
  split <;> rfl

theorem revokeCredential_maxEpoch (now : Nat) (id : String) (st : Storage) :
    (st.revokeCredential now id).2.maxEpoch = st.maxEpoch := by
  unfold Storage.revokeCredential
  split
  · rfl
  · split <;> rfl

theorem revokeCredentials_maxEpoch (now : Nat) (ids : List String) (st : Storage) :
    (st.revokeCredentials now ids).2.maxEpoch = st.maxEpoch := by
  have hfold (acc : List String × Storage) : (ids.foldl (fun acc id =>
      let r := acc.2.revokeCredential now id
      (acc.1 ++ r.1, r.2)) acc).2.maxEpoch = acc.2.maxEpoch := by
    induction ids generalizing acc with
    | nil => rfl
    | cons id ids ih =>
      rw [List.foldl_cons, ih]
      exact revokeCredential_maxEpoch now id acc.2
  exact hfold ([], st)

theorem discoveryRoute_control (ip : String) (authorization : Option String) (s : Gateway) :
    s.ControlTurns (s.discoveryRoute Γ ip authorization) := by
  unfold discoveryRoute
  split
  · exact denyUnauthorized_control _ _ s
  · rename_i token _
    have hresolved := resolveToken_control (Γ := Γ) token s
    dsimp only
    split
    · exact hresolved.trans (denyUnauthorized_control _ _ _)
    · exact hresolved.trans (.onNet (.emit rfl _))

theorem backendTokenRoute_control (ip : String) (authorization : Option String) (s : Gateway) :
    s.ControlTurns (s.backendTokenRoute Γ ip authorization) := by
  unfold backendTokenRoute
  rcases bearerToken authorization with _ | token
  · exact denyUnauthorized_control _ _ _
  · have hresolved := resolveToken_control (Γ := Γ) token s
    dsimp only
    split
    · exact hresolved.trans (denyUnauthorized_control _ _ _)
    · split
      · exact hresolved.trans (.onNet (.emit rfl _))
      · exact hresolved.trans (.same rfl (exchangeAccessCredential_maxEpoch _ _ _ _ _ _) (.emit rfl _))

theorem closePeersOf_emits (ids : List String) (reason : String) (s : Gateway) :
    s.net.Discreet (s.closePeersOf ids reason).net :=
  Net.Emits.foldl _ (fun net (peer : PeerSession) _ => Net.Discreet.close peer.ws 1008 reason net) s.net

theorem adminLoginRoute_control (ip : String) (expiresAt : Option Nat) (s : Gateway) :
    s.ControlTurns (s.adminLoginRoute Γ ip expiresAt) := by
  cases expiresAt with
  | none => exact denyUnauthorized_control _ _ s
  | some expiresAt => exact .onNet (.emit rfl _)

theorem adminSessionRoute_control (expiresAt : Option Nat) (s : Gateway) :
    s.ControlTurns (s.adminSessionRoute expiresAt) := by
  cases expiresAt with
  | none => exact .onNet (.emit rfl _)
  | some expiresAt => exact .onNet (.emit rfl _)

theorem adminRoute_control (ip : String) (auth : AdminAuth) (request : AdminRequest) (s : Gateway) :
    s.ControlTurns (s.adminRoute Γ ip auth request) := by
  have herror (status : Nat) (code message : String) : s.ControlTurns (s.replyError status code message) :=
    .onNet (.emit rfl _)
  have hstored {storage : Storage} (h : storage.maxEpoch = s.storage.maxEpoch) {r : HttpReply} (hr : r.names = false) :
      s.ControlTurns ({ s with storage }.reply r) := .same rfl h (.reply hr _)
  have hclosed {storage : Storage} (h : storage.maxEpoch = s.storage.maxEpoch) (ids : List String) (reason : String)
      {r : HttpReply} (hr : r.names = false) :
      s.ControlTurns (({ s with storage }.closePeersOf ids reason).reply r) :=
    .same rfl h ((closePeersOf_emits ids reason { s with storage }).trans (.reply hr _))
  cases auth with
  | denied => exact denyUnauthorized_control _ _ s
  | foreignOrigin => exact herror _ _ _
  | granted =>
    cases request with
    | overview => exact .onNet (.emit rfl _)
    | listBackends => exact .onNet (.emit rfl _)
    | listCredentials => exact .onNet (.emit rfl _)
    | issueCredential body =>
      unfold adminRoute issueCredentialRoute
      dsimp only
      split
      · exact herror _ _ _
      · exact hstored (createCredential_maxEpoch _ _ _ _ _) rfl
    | deleteBackend backendId =>
      unfold adminRoute deleteBackendRoute
      dsimp only
      repeat' split
      all_goals exact .same rfl rfl (.emit rfl _)
    | bindCredential id body =>
      unfold adminRoute bindCredentialRoute
      dsimp only
      repeat' split
      all_goals first | exact herror _ _ _ | exact hstored (bindBackendCredential_maxEpoch _ _ _) (HttpReply.names_credential _ _)
    | changeScope id body =>
      unfold adminRoute changeScopeRoute
      dsimp only
      split
      · exact herror _ _ _
      · split
        · exact herror _ _ _
        · split
          · exact herror _ _ _
          · split
            · exact herror _ _ _
            · refine hclosed ?_ _ _ (HttpReply.names_credential _ _)
              rfl
    | revokeCredential id =>
      unfold adminRoute revokeCredentialRoute
      dsimp only
      split
      · exact hstored (revokeCredential_maxEpoch _ _ _) rfl
      · exact hclosed (revokeCredential_maxEpoch _ _ _) _ _ rfl
    | revokeCredentials body =>
      unfold adminRoute revokeCredentialsRoute
      dsimp only
      split
      · exact herror _ _ _
      · exact herror _ _ _
      · exact hclosed (revokeCredentials_maxEpoch _ _ _) _ _ rfl
    | purgeCredentials body =>
      unfold adminRoute purgeCredentialsRoute
      dsimp only
      split
      · split
        · exact herror _ _ _
        · refine hstored ?_ rfl
          rfl
      · refine hstored ?_ rfl
        rfl

/-! ## Teardown of several channels -/

/-- Everything a teardown of several channels leaves alone. -/
structure OnlyChannels (s t : Gateway) : Prop where
  storage : t.storage = s.storage
  state : t.state = s.state
  recoveryTokens : t.recoveryTokens = s.recoveryTokens
  topicSubs : t.topicSubs = s.topicSubs
  retainedTopics : t.retainedTopics = s.retainedTopics
  now : t.now = s.now
  drawn : t.drawn = s.drawn
  uncaught : t.uncaught = s.uncaught

theorem OnlyChannels.teardowns (reason : ChannelClosedReason) (ids : List String) (s : Gateway) :
    s.OnlyChannels (ids.foldl (teardownChannel reason) s) := by
  induction ids generalizing s with
  | nil => exact ⟨rfl, rfl, rfl, rfl, rfl, rfl, rfl, rfl⟩
  | cons id ids ih =>
    have h := ih (s.teardownChannel reason id)
    exact ⟨by simpa using h.storage, by simpa using h.state, by simpa using h.recoveryTokens, by simpa using h.topicSubs,
      by simpa using h.retainedTopics, by simpa using h.now, by simpa using h.drawn, by simpa using h.uncaught⟩

theorem teardowns_channel (reason : ChannelClosedReason) (ids : List String) (s : Gateway) (id : String) :
    (ids.foldl (teardownChannel reason) s).channels.get id = if id ∈ ids then none else s.channels.get id := by
  induction ids generalizing s with
  | nil => simp
  | cons i ids ih =>
    rw [List.foldl_cons, ih, teardownChannel_channel]
    by_cases hi : id = i <;> simp [hi]

theorem teardownWhere_only (test : ChannelRecord → Bool) (reason : ChannelClosedReason) (s : Gateway) :
    s.OnlyChannels (s.teardownWhere test reason) :=
  .teardowns _ _ s

/-- The channels that satisfy the test are gone, the others are not. -/
theorem teardownWhere_channel (test : ChannelRecord → Bool) (reason : ChannelClosedReason) {s : Gateway}
    (hid : ∀ id ch, s.channels.get id = some ch → ch.channelId = id) (id : String) :
    (s.teardownWhere test reason).channels.get id = (s.channels.get id).filter (fun ch => !test ch) := by
  unfold teardownWhere
  rw [teardowns_channel]
  have hmem : id ∈ (s.channels.values.filter test).map (·.channelId) ↔ ∃ ch, s.channels.get id = some ch ∧ test ch := by
    simp only [List.mem_map, List.mem_filter, InsertionMap.mem_values_iff]
    constructor
    · rintro ⟨ch, ⟨⟨k, hk⟩, ht⟩, rfl⟩
      exact ⟨ch, hid k ch hk ▸ hk, ht⟩
    · rintro ⟨ch, hc, ht⟩
      exact ⟨ch, ⟨⟨id, hc⟩, ht⟩, hid id ch hc⟩
  rcases hc : s.channels.get id with _ | ch
  · simp
  · by_cases ht : test ch = true
    · rw [if_pos (hmem.mpr ⟨ch, hc, ht⟩), Option.filter_some, ht]
      rfl
    · rw [if_neg, Option.filter_some, Bool.not_eq_true _ |>.mp ht]
      · rfl
      · intro hm
        obtain ⟨ch', hc', ht'⟩ := hmem.mp hm
        rw [hc, Option.some.injEq] at hc'
        exact ht (hc' ▸ ht')

/-! ## Losing a backend or a peer -/

section Projections

variable (s : Gateway) (f : GatewayState → GatewayState) (g : Storage → Storage)

@[simp] theorem onState_state : (s.onState f).state = f s.state := rfl

@[simp] theorem onStorage_state : (s.onStorage g).state = s.state := rfl

@[simp] theorem broadcast_state (exclude : Option String) : (s.broadcastRegistrySnapshot exclude).state = s.state := rfl

end Projections

/-- The backend whose lease a session holds. -/
def ownedBackend (s : Gateway) (peer : PeerSession) : Option String :=
  if s.isCurrentBackendOwner peer none then peer.backendId else none

/-- What is left once a session has lost its backend's lease. -/
structure BackendLost (s t : Gateway) (backendId : Option String) : Prop where
  state : t.state = { s.state with
    registry := backendId.elim s.state.registry s.state.registry.delete
    leases := backendId.elim s.state.leases s.state.leases.delete }
  recoveryTokens : t.recoveryTokens = s.recoveryTokens
  topicSubs : t.topicSubs = s.topicSubs
  retainedTopics : t.retainedTopics = s.retainedTopics
  channels : ∀ id, t.channels.get id = (s.channels.get id).filter (fun ch => some ch.backendId ≠ backendId)
  maxEpoch : t.storage.maxEpoch = s.storage.maxEpoch
  drawn : t.drawn = s.drawn

theorem BackendLost.none (s : Gateway) : s.BackendLost s none := by
  refine ⟨rfl, rfl, rfl, rfl, fun id => ?_, rfl, rfl⟩
  rcases s.channels.get id with _ | ch
  · rfl
  · rw [Option.filter_some, if_pos (by simp)]

theorem closeChannelsForBackend_channel (backendId : String) (reason : ChannelClosedReason) {s : Gateway}
    (hid : ∀ id ch, s.channels.get id = some ch → ch.channelId = id) (id : String) :
    (s.closeChannelsForBackend backendId reason).channels.get id =
      (s.channels.get id).filter (fun ch => some ch.backendId ≠ some backendId) := by
  rw [closeChannelsForBackend, teardownWhere_channel _ _ hid]
  simp [decide_not]

theorem disconnectOwner_lost {s : Gateway} (hid : ∀ id ch, s.channels.get id = some ch → ch.channelId = id)
    {peer : PeerSession} {backendId : String} (hb : peer.backendId = some backendId) :
    s.BackendLost (s.disconnectOwner peer backendId) (s.ownedBackend peer) := by
  unfold disconnectOwner ownedBackend
  split
  · have honly := teardownWhere_only (fun ch => ch.backendId = backendId) .backendOffline s
    rw [hb]
    refine ⟨?_, honly.recoveryTokens, honly.topicSubs, honly.retainedTopics, ?_, ?_, honly.drawn⟩
    · change GatewayState.removeBackend backendId (GatewayState.registryRemove backendId (s.teardownWhere _ _).state) = _
      rw [honly.state]
      rfl
    · exact closeChannelsForBackend_channel backendId .backendOffline hid
    · change (s.teardownWhere _ _).storage.maxEpoch = _
      rw [honly.storage]
  · exact .none s

/-- What is left once a session is gone. -/
structure Disconnected (s t : Gateway) (peerSessionId : String) (peer : PeerSession) : Prop where
  peers : t.state.peers = s.state.peers.delete peerSessionId
  registry : t.state.registry = (s.ownedBackend peer).elim s.state.registry s.state.registry.delete
  leases : t.state.leases = (s.ownedBackend peer).elim s.state.leases s.state.leases.delete
  recoveryTokens : t.recoveryTokens = s.recoveryTokens.delete peer.recoveryToken
  topicSubs : t.topicSubs = peer.backendId.elim id (fun b (m : InsertionMap _ _) => m.delete b)
    (s.topicSubs.mapValues (fun _ topics => topics.mapValues (fun _ subs => subs.delete peerSessionId)))
  retainedTopics : t.retainedTopics = peer.backendId.elim id (fun b (m : InsertionMap _ _) => m.delete b) s.retainedTopics
  channels : ∀ id, t.channels.get id =
    (s.channels.get id).filter (fun ch => some ch.backendId ≠ s.ownedBackend peer && !isEndOf peerSessionId ch)
  maxEpoch : t.storage.maxEpoch = s.storage.maxEpoch
  drawn : t.drawn = s.drawn

/-- Closing a session's channels after its backend's. -/
theorem closeChannelsForPeer_lost {s t : Gateway} (hid : ∀ id ch, s.channels.get id = some ch → ch.channelId = id)
    {backendId : Option String} (hlost : s.BackendLost t backendId) (peerSessionId : String) :
    t.OnlyChannels (t.closeChannelsForPeer peerSessionId) ∧
      ∀ id, (t.closeChannelsForPeer peerSessionId).channels.get id =
        (s.channels.get id).filter (fun ch => some ch.backendId ≠ backendId && !isEndOf peerSessionId ch) := by
  have hid' : ∀ id ch, t.channels.get id = some ch → ch.channelId = id := by
    intro id ch hc
    rw [hlost.channels, Option.filter_eq_some_iff] at hc
    exact hid id ch hc.1
  refine ⟨teardownWhere_only _ _ t, fun id => ?_⟩
  rw [closeChannelsForPeer, teardownWhere_channel _ _ hid', hlost.channels, Option.filter_filter]

theorem handlePeerDisconnect_disconnected {s : Gateway} (hid : ∀ id ch, s.channels.get id = some ch → ch.channelId = id)
    {peerSessionId : String} {peer : PeerSession} (hp : s.state.peers.get peerSessionId = some peer) :
    s.Disconnected (s.handlePeerDisconnect peerSessionId) peerSessionId peer := by
  unfold handlePeerDisconnect
  rw [hp]
  dsimp only
  rcases hb : peer.backendId with _ | backendId
  · have hnone : s.ownedBackend peer = none := by
      unfold ownedBackend
      rw [hb]
      split <;> rfl
    obtain ⟨honly, hchannel⟩ := closeChannelsForPeer_lost hid (BackendLost.none s) peerSessionId
    have hregistry := congrArg GatewayState.registry honly.state
    have hleases := congrArg GatewayState.leases honly.state
    have hepoch := congrArg Storage.maxEpoch honly.storage
    dsimp only [onNet, Gateway.onState, unregisterRecoveryToken, removeTopicSubscriptionsForPeer]
    refine ⟨?_, ?_, ?_, ?_, ?_, ?_, fun id => ?_, hepoch, honly.drawn⟩
    · exact congrArg (fun st => st.peers.delete peerSessionId) honly.state
    · rw [hnone]
      exact hregistry
    · rw [hnone]
      exact hleases
    · exact congrArg (fun m => m.delete peer.recoveryToken) honly.recoveryTokens
    · rw [hb, ← honly.topicSubs]
      rfl
    · rw [hb]
      exact honly.retainedTopics
    · rw [hnone]
      exact hchannel id
  · have hlost := disconnectOwner_lost hid hb
    obtain ⟨honly, hchannel⟩ := closeChannelsForPeer_lost hid hlost peerSessionId
    have hstate := honly.state.trans hlost.state
    have hregistry := congrArg GatewayState.registry hstate
    have hleases := congrArg GatewayState.leases hstate
    have hepoch := (congrArg Storage.maxEpoch honly.storage).trans hlost.maxEpoch
    dsimp only [onNet, Gateway.onState, unregisterRecoveryToken, removeTopicSubscriptionsForPeer, removeTopicsForBackend]
    refine ⟨?_, hregistry, hleases, ?_, ?_, ?_, hchannel, hepoch, honly.drawn.trans hlost.drawn⟩
    · exact congrArg (fun st => st.peers.delete peerSessionId) hstate
    · exact congrArg (fun m => m.delete peer.recoveryToken) (honly.recoveryTokens.trans hlost.recoveryTokens)
    · rw [hb, ← hlost.topicSubs, ← honly.topicSubs]
      rfl
    · rw [hb, ← hlost.retainedTopics, ← honly.retainedTopics]
      rfl

/-- What is left once a backend's lease is over: its owner's session is removed, but not what the session holds of others. -/
structure Expired (s t : Gateway) (backendId : String) (lease : BackendLease) : Prop where
  peers : ∀ p, t.state.peers.get p = if p = lease.peerSessionId then none else s.state.peers.get p
  registry : t.state.registry = s.state.registry.delete backendId
  leases : t.state.leases = s.state.leases.delete backendId
  recoveryTokens : t.recoveryTokens = (s.state.peers.get lease.peerSessionId).elim s.recoveryTokens
    (fun peer => s.recoveryTokens.delete peer.recoveryToken)
  topicSubs : t.topicSubs = s.topicSubs.delete backendId
  retainedTopics : t.retainedTopics = s.retainedTopics.delete backendId
  channels : ∀ id, t.channels.get id = (s.channels.get id).filter (fun ch => some ch.backendId ≠ some backendId)
  maxEpoch : t.storage.maxEpoch = s.storage.maxEpoch
  drawn : t.drawn = s.drawn
  now : t.now = s.now

theorem handleBackendLeaseExpired_expired {s : Gateway}
    (hid : ∀ id ch, s.channels.get id = some ch → ch.channelId = id)
    (hkey : ∀ p peer, s.state.peers.get p = some peer → peer.peerSessionId = p) {backendId : String} {lease : BackendLease}
    (hl : s.state.leases.get backendId = some lease) :
    s.Expired (s.handleBackendLeaseExpired backendId) backendId lease := by
  have honly := teardownWhere_only (fun ch => ch.backendId = backendId) .backendOffline s
  have hchannel := closeChannelsForBackend_channel backendId .backendOffline hid
  unfold handleBackendLeaseExpired
  rw [hl]
  dsimp only
  have hstate : (s.closeChannelsForBackend backendId .backendOffline).state = s.state := honly.state
  have hsubs : (s.closeChannelsForBackend backendId .backendOffline).topicSubs = s.topicSubs := honly.topicSubs
  have hretained : (s.closeChannelsForBackend backendId .backendOffline).retainedTopics = s.retainedTopics :=
    honly.retainedTopics
  have htokens : (s.closeChannelsForBackend backendId .backendOffline).recoveryTokens = s.recoveryTokens :=
    honly.recoveryTokens
  have hepoch : (s.closeChannelsForBackend backendId .backendOffline).storage.maxEpoch = s.storage.maxEpoch :=
    congrArg Storage.maxEpoch honly.storage
  have hdrawn : (s.closeChannelsForBackend backendId .backendOffline).drawn = s.drawn := honly.drawn
  have hnow : (s.closeChannelsForBackend backendId .backendOffline).now = s.now := honly.now
  generalize s.closeChannelsForBackend backendId .backendOffline = u
    at hchannel hstate hsubs hretained htokens hepoch hdrawn hnow
  rcases hp : s.state.peers.get lease.peerSessionId with _ | peer
  · dsimp only
    refine ⟨fun p => ?_, ?_, ?_, ?_, ?_, ?_, hchannel, hepoch, hdrawn, hnow⟩
    · change u.state.peers.get p = _
      rw [hstate]
      split
      · rename_i he
        rw [he, hp]
      · rfl
    · exact congrArg (fun st => st.registry.delete backendId) hstate
    · exact congrArg (fun st => st.leases.delete backendId) hstate
    · rw [hp]
      exact htokens
    · exact congrArg (fun m => m.delete backendId) hsubs
    · exact congrArg (fun m => m.delete backendId) hretained
  · dsimp only
    refine ⟨fun p => ?_, ?_, ?_, ?_, ?_, ?_, hchannel, hepoch, hdrawn, hnow⟩
    · change ((u.state.peers.modify peer.peerSessionId disown).delete peer.peerSessionId).get p = _
      rw [InsertionMap.get_delete, InsertionMap.get_modify, hkey _ _ hp, hstate]
      split <;> rfl
    · exact congrArg (fun st => st.registry.delete backendId) hstate
    · exact congrArg (fun st => st.leases.delete backendId) hstate
    · rw [hp]
      exact congrArg (fun m => m.delete peer.recoveryToken) htokens
    · exact congrArg (fun m => m.delete backendId) hsubs
    · exact congrArg (fun m => m.delete backendId) hretained

/-! ## Opening a session -/

/-- What is left once a backend's owner is replaced: the owner is only disowned. -/
structure Replaced (s t : Gateway) (backendId : String) : Prop where
  peers : ∀ p, t.state.peers.get p = (s.state.peers.get p).map (fun peer =>
    if (s.state.leases.get backendId).any (fun lease => lease.peerSessionId = p) then disown peer else peer)
  registry : t.state.registry = s.state.registry
  leases : ∀ b, b ≠ backendId → t.state.leases.get b = s.state.leases.get b
  recoveryTokens : t.recoveryTokens = s.recoveryTokens
  topicSubs : t.topicSubs = if (s.state.leases.get backendId).isSome then s.topicSubs.delete backendId else s.topicSubs
  retainedTopics : t.retainedTopics =
    if (s.state.leases.get backendId).isSome then s.retainedTopics.delete backendId else s.retainedTopics
  channels : ∀ id, t.channels.get id = (s.channels.get id).filter (fun ch =>
    !((s.state.leases.get backendId).isSome && decide (ch.backendId = backendId)))
  maxEpoch : t.storage.maxEpoch = s.storage.maxEpoch
  drawn : t.drawn = s.drawn
  now : t.now = s.now

theorem replaceOwner_replaced {s : Gateway} (hid : ∀ id ch, s.channels.get id = some ch → ch.channelId = id)
    {backendId peerSessionId : String} (epoch : Nat)
    (hnew : ∀ lease, s.state.leases.get backendId = some lease → lease.peerSessionId ≠ peerSessionId) :
    s.Replaced (s.replaceOwner backendId peerSessionId epoch) backendId := by
  unfold replaceOwner
  rcases hl : s.state.leases.get backendId with _ | lease
  · refine ⟨fun p => ?_, rfl, fun _ _ => rfl, rfl, by rw [hl]; rfl, by rw [hl]; rfl, fun id => ?_, rfl, rfl, rfl⟩
    · rw [hl]
      cases s.state.peers.get p <;> rfl
    · rw [hl]
      cases s.channels.get id <;> rfl
  · dsimp only
    rw [if_pos (Or.inl (hnew lease hl))]
    have honly := teardownWhere_only (fun ch => ch.backendId = backendId) .epochChanged s
    have hchannel := teardownWhere_channel (fun ch => ch.backendId = backendId) .epochChanged hid
    have hchannel' (id : String) : (s.closeChannelsForBackend backendId .epochChanged).channels.get id =
        (s.channels.get id).filter (fun ch =>
          !((s.state.leases.get backendId).isSome && decide (ch.backendId = backendId))) := by
      simp only [hl, Option.isSome_some, Bool.true_and]
      exact hchannel id
    have hstate : (s.closeChannelsForBackend backendId .epochChanged).state = s.state := honly.state
    have htokens : (s.closeChannelsForBackend backendId .epochChanged).recoveryTokens = s.recoveryTokens :=
      honly.recoveryTokens
    have hsubs : (s.closeChannelsForBackend backendId .epochChanged).topicSubs = s.topicSubs := honly.topicSubs
    have hretained : (s.closeChannelsForBackend backendId .epochChanged).retainedTopics = s.retainedTopics :=
      honly.retainedTopics
    have hepoch : (s.closeChannelsForBackend backendId .epochChanged).storage.maxEpoch = s.storage.maxEpoch :=
      congrArg Storage.maxEpoch honly.storage
    have hdrawn : (s.closeChannelsForBackend backendId .epochChanged).drawn = s.drawn := honly.drawn
    have hnow : (s.closeChannelsForBackend backendId .epochChanged).now = s.now := honly.now
    unfold handleBackendOwnerReplaced
    generalize s.closeChannelsForBackend backendId .epochChanged = u
      at hchannel' hstate htokens hsubs hretained hepoch hdrawn hnow
    have hregistry := congrArg GatewayState.registry hstate
    have hleases (b : String) (hb : b ≠ backendId) : (u.state.leases.delete backendId).get b = s.state.leases.get b := by
      rw [InsertionMap.get_delete_of_ne hb, hstate]
    have htopics : u.topicSubs.delete backendId =
        if (s.state.leases.get backendId).isSome then s.topicSubs.delete backendId else s.topicSubs := by
      rw [hsubs, hl]
      rfl
    have hkept : u.retainedTopics.delete backendId =
        if (s.state.leases.get backendId).isSome then s.retainedTopics.delete backendId else s.retainedTopics := by
      rw [hretained, hl]
      rfl
    dsimp only [onNet, Gateway.onState, removeTopicsForBackend, GatewayState.removeLease]
    rcases hp : u.state.peers.get lease.peerSessionId with _ | previousPeer
    · dsimp only
      refine ⟨fun p => ?_, hregistry, hleases, htokens, htopics, hkept, hchannel', hepoch, hdrawn, hnow⟩
      rw [hl, ← hstate]
      by_cases he : lease.peerSessionId = p
      · rw [← he, hp]
        rfl
      · cases u.state.peers.get p <;> simp [he]
    · dsimp only [GatewayState.modifyPeer]
      refine ⟨fun p => ?_, hregistry, hleases, htokens, htopics, hkept, hchannel', hepoch, hdrawn, hnow⟩
      rw [hl, ← hstate, InsertionMap.get_modify]
      by_cases he : p = lease.peerSessionId
      · subst he
        rw [if_pos rfl, hp]
        simp
      · rw [if_neg he]
        cases u.state.peers.get p <;> simp [Ne.symm he]

/-- What is there once a session has registered its backend. -/
structure Registered (Γ : Ctx) (s t : Gateway) (backendId : String) (epoch : Nat) (peer : PeerSession) : Prop where
  peers : ∀ p, t.state.peers.get p = (s.state.peers.get p).map (fun peer =>
    if (s.state.leases.get backendId).any (fun lease => lease.peerSessionId = p) then disown peer else peer)
  registry : ∃ item : BackendPresence, (item.epoch = epoch ∧ item.backendId = backendId) ∧ item.ns = peer.ns ∧
    ∀ b, t.state.registry.get b = if b = backendId then some item else s.state.registry.get b
  leases : ∀ b, t.state.leases.get b =
    if b = backendId then some (newLease Γ s.now peer.peerSessionId backendId epoch) else s.state.leases.get b
  recoveryTokens : t.recoveryTokens = s.recoveryTokens
  topicSubs : t.topicSubs = if (s.state.leases.get backendId).isSome then s.topicSubs.delete backendId else s.topicSubs
  retainedTopics : t.retainedTopics =
    if (s.state.leases.get backendId).isSome then s.retainedTopics.delete backendId else s.retainedTopics
  channels : ∀ id, t.channels.get id = (s.channels.get id).filter (fun ch =>
    !((s.state.leases.get backendId).isSome && decide (ch.backendId = backendId)))
  maxEpoch : t.storage.maxEpoch = s.storage.maxEpoch
  drawn : t.drawn = s.drawn

theorem registerBackend_registered {s : Gateway} (hid : ∀ id ch, s.channels.get id = some ch → ch.channelId = id)
    (credential : CredentialRecord) (hello : PeerHello) (backend : BackendHello) {backendId : String} (epoch : Nat)
    {peer : PeerSession}
    (hnew : ∀ lease, s.state.leases.get backendId = some lease → lease.peerSessionId ≠ peer.peerSessionId) :
    Registered Γ s (s.registerBackend Γ credential hello backend backendId epoch peer) backendId epoch peer := by
  have h := replaceOwner_replaced hid epoch hnew
  unfold registerBackend
  generalize s.replaceOwner backendId peer.peerSessionId epoch = u at h
  refine ⟨h.peers, ⟨newPresence s.now peer backend backendId epoch, ⟨rfl, rfl⟩, rfl, fun b => ?_⟩, fun b => ?_, h.recoveryTokens,
    h.topicSubs, h.retainedTopics, h.channels, h.maxEpoch, h.drawn⟩
  · change (u.state.registry.set backendId _).get b = _
    rw [InsertionMap.get_set, h.registry]
  · change (u.state.leases.set backendId _).get b = _
    rw [InsertionMap.get_set]
    split
    · rfl
    · rename_i hb
      exact h.leases b hb

/-- Adding a session touches peers and recovery tokens only. -/
theorem addSession_tables (peer : PeerSession) (grant : Option BackendGrant) (s : Gateway) :
    ((s.addSession peer grant).state = s.state.addPeer peer ∧
      (s.addSession peer grant).recoveryTokens = s.recoveryTokens.set peer.recoveryToken peer.peerSessionId) ∧
      ((s.addSession peer grant).topicSubs = s.topicSubs ∧
        (s.addSession peer grant).retainedTopics = s.retainedTopics) ∧
      (s.addSession peer grant).channels = s.channels ∧ (s.addSession peer grant).storage = s.storage ∧
      (s.addSession peer grant).drawn = s.drawn := by
  unfold addSession
  dsimp only
  split
  · exact ⟨⟨rfl, rfl⟩, ⟨rfl, rfl⟩, rfl, rfl, rfl⟩
  · exact ⟨⟨rfl, rfl⟩, ⟨rfl, rfl⟩, rfl, rfl, rfl⟩

theorem resolveBackendIdentity_maxEpoch (fresh : String) (now : Nat) (credential : CredentialRecord) (hello : PeerHello)
    (st : Storage) : (resolveBackendIdentity fresh now credential hello st).2.maxEpoch = st.maxEpoch := by
  unfold resolveBackendIdentity
  split
  · rfl
  · unfold Storage.getOrCreateBackendIdV4
    dsimp only
    split <;> rfl

/-! ## Operations on the control plane -/

/-- Every session and its recovery token were drawn by the same event, before the `n`-th. -/
def SessionsUpTo (Γ : Ctx) (n : Nat) (s : Gateway) : Prop :=
  ∀ p peer, s.state.peers.get p = some peer →
    ∃ m < n, p = Γ.sessionIds.draw m ∧ peer.recoveryToken = Γ.recoveryTokens.draw m

/-- Every session was opened by an event before. -/
abbrev FreshSessions (Γ : Ctx) (s : Gateway) : Prop := s.SessionsUpTo Γ s.drawn

theorem SessionsUpTo.turns {s t : Gateway} {n : Nat} (h : s.SessionsUpTo Γ n) (ht : s.ControlTurns t) :
    t.SessionsUpTo Γ n := by
  intro p peer hp
  obtain ⟨peer0, hp0, isAlive, rfl⟩ := ht.state.peers.some_get hp
  exact h p peer0 hp0

theorem FreshSessions.turns {s t : Gateway} (h : s.FreshSessions Γ) (ht : s.ControlTurns t) : t.FreshSessions Γ := by
  rw [FreshSessions, ht.drawn]
  exact SessionsUpTo.turns h ht

/-- What the event asks for goes out, or every peer gets its part of the registry, and the tables stay. -/
inductive Delivers (act : Option Request) : Gateway → Gateway → Prop
  | snapshot {s : Gateway} {peerSessionId : String} {peer : PeerSession} (hp : s.state.peers.get peerSessionId = some peer) :
    Delivers act s (s.handleRequestRegistrySnapshot peer)
  | broadcast (s : Gateway) : Delivers act s (s.broadcastRegistrySnapshot none)
  | serverMessage {s : Gateway} {peerSessionId : String} {peer : PeerSession} {backendId : String} {target : Option String}
    {raw : JsonValue} (hp : s.state.peers.get peerSessionId = some peer)
    (hact : act = some (.message peer (.backendServerMessage backendId target raw))) :
    Delivers act s (s.handleBackendServerMessage peer backendId target raw)
  | sync {s : Gateway} {token peerSessionId : String} {peer : PeerSession} (hact : act = some (.registry token))
    (ht : s.recoveryTokens.get token = some peerSessionId) (hp : s.state.peers.get peerSessionId = some peer) :
    Delivers act s (s.reply { status := 200, body := .registry (visibleRegistry s.state peer) })

variable {act : Option Request}

theorem Delivers.onNet {s t : Gateway} (h : Delivers act s t) : ∃ f, t = s.onNet f := by
  cases h with
  | snapshot hp => exact ⟨_, rfl⟩
  | broadcast => exact ⟨_, rfl⟩
  | sync hact ht hp => exact ⟨_, rfl⟩
  | serverMessage hp hact =>
    unfold handleBackendServerMessage
    repeat' split
    all_goals first | exact ⟨id, rfl⟩ | exact ⟨_, rfl⟩

/-- Everything that the topic protocol leaves alone. -/
structure OnlyTopics (s t : Gateway) : Prop where
  storage : t.storage = s.storage
  state : t.state = s.state
  recoveryTokens : t.recoveryTokens = s.recoveryTokens
  channels : t.channels = s.channels
  now : t.now = s.now
  drawn : t.drawn = s.drawn
  uncaught : t.uncaught = s.uncaught

theorem handleTopicSubscribe_only (peer : PeerSession) (backendId topic : String) (s : Gateway) :
    s.OnlyTopics (s.handleTopicSubscribe peer backendId topic) := by
  unfold handleTopicSubscribe
  dsimp only
  repeat' split
  all_goals exact ⟨rfl, rfl, rfl, rfl, rfl, rfl, rfl⟩

theorem handleTopicPublish_only (peer : PeerSession) (topic : String) (payload : Option JsonValue) (retained : Bool)
    (s : Gateway) : s.OnlyTopics (s.handleTopicPublish peer topic payload retained) := by
  unfold handleTopicPublish
  split
  · exact ⟨rfl, rfl, rfl, rfl, rfl, rfl, rfl⟩
  · split
    · exact ⟨rfl, rfl, rfl, rfl, rfl, rfl, rfl⟩
    · cases retained <;> cases payload <;> dsimp only <;> split <;> exact ⟨rfl, rfl, rfl, rfl, rfl, rfl, rfl⟩

theorem routeMessage_topic (peer : PeerSession) {message : GatewayMessage} (h : message.isTopic = true) (s : Gateway) :
    s.OnlyTopics (s.routeMessage Γ peer message) := by
  cases message with
  | topicSubscribe backendId topic => exact handleTopicSubscribe_only peer backendId topic s
  | topicUnsubscribe backendId topic => exact ⟨rfl, rfl, rfl, rfl, rfl, rfl, rfl⟩
  | topicPublish topic payload retained => exact handleTopicPublish_only peer topic payload retained s
  | _ => cases h

/-- An operation on the control plane; one on topics is what the message of the event asks for. -/
inductive ControlStep (Γ : Ctx) (act : Option Request) : Gateway → Gateway → Prop
  | turn {s t : Gateway} (h : s.ControlTurns t) : ControlStep Γ act s t
  | deliver {s t : Gateway} (h : Delivers act s t) : ControlStep Γ act s t
  | topic {s : Gateway} {peerSessionId : String} {peer : PeerSession} {message : GatewayMessage}
    (hp : s.state.peers.get peerSessionId = some peer) (hact : act = some (.message peer message)) (ht : message.isTopic = true) :
    ControlStep Γ act s (s.routeMessage Γ peer message)
  | openChannel {s : Gateway} {peerSessionId target : String} {peer backendPeer : PeerSession} {lease : BackendLease}
    {presence : BackendPresence} {kind : Option String} (hp : s.state.peers.get peerSessionId = some peer)
    (hact : act = some (.message peer (.channelOpen target kind)))
    (hl : s.state.leases.get target = some lease) (hb : s.state.peers.get lease.peerSessionId = some backendPeer)
    (hi : s.state.registry.get target = some presence) (hreach : peer.canReach presence.ns presence.backendId = true)
    (hroom : s.countChannelsForPeer peer.peerSessionId < Γ.config.maxChannelsPerPeer) :
    ControlStep Γ act s (s.openChannel Γ peer backendPeer lease target kind)
  | proxyViaChannel {s : Gateway} {request : ProxyRequest} {backendPeer : PeerSession} {lease : BackendLease}
    (hl : s.state.leases.get request.backendId = some lease)
    (hb : s.state.peers.get lease.peerSessionId = some backendPeer) :
    ControlStep Γ act s (s.proxyViaChannel Γ request lease.epoch backendPeer)
  | disconnect {s : Gateway} (peerSessionId : String) : ControlStep Γ act s (s.handlePeerDisconnect peerSessionId)

/-- A sequence of operations on the control plane. -/
def ControlSteps (Γ : Ctx) (act : Option Request) : Gateway → Gateway → Prop :=
  Relation.ReflTransGen (ControlStep Γ act)

theorem ControlSteps.refl (s : Gateway) : ControlSteps Γ act s s := Relation.ReflTransGen.refl

theorem ControlSteps.trans {s t u : Gateway} (h : ControlSteps Γ act s t) (h' : ControlSteps Γ act t u) :
    ControlSteps Γ act s u :=
  Relation.ReflTransGen.trans h h'

theorem ControlStep.steps {s t : Gateway} (h : ControlStep Γ act s t) : ControlSteps Γ act s t := .single h

theorem ControlTurns.steps {s t : Gateway} (h : s.ControlTurns t) : ControlSteps Γ act s t := (ControlStep.turn h).steps

theorem ControlSteps.foldl {α : Type} {f : Gateway → α → Gateway} (hf : ∀ s a, ControlSteps Γ act s (f s a)) (l : List α)
    (s : Gateway) : ControlSteps Γ act s (l.foldl f s) := by
  induction l generalizing s with
  | nil => exact .refl s
  | cons a l ih => exact (hf s a).trans (ih _)

theorem ControlSteps.invariant {I : Gateway → Prop} (hstep : ∀ s t, ControlStep Γ act s t → I s → I t) {s t : Gateway}
    (h : ControlSteps Γ act s t) (hs : I s) : I t := by
  induction h with
  | refl => exact hs
  | tail _ h ih => exact hstep _ _ h ih

/-! ## Events -/

theorem refuse_control (ws : SocketId) (code : GatewayErrorCode) (message : String) (s : Gateway) :
    s.ControlTurns (s.refuse ws code message) :=
  (ControlTurns.onNet (.sendToWs rfl ws _)).trans (.onNet (.close ws _ _ _))

theorem sendError_control (ws : SocketId) (code : GatewayErrorCode) (message : String) (s : Gateway) :
    s.ControlTurns (s.sendError ws code message) :=
  .onNet (.sendToWs rfl ws _)

/-- What a hello makes of the control plane: it is refused, or opens the session its credential admits. -/
theorem greet_control (ws : SocketId) (conn : ControlConn) (hello : PeerHello) (s : Gateway) :
    (s.admittedAs Γ hello = none ∧ s.ControlTurns (s.greet Γ ws conn hello) ∧
        ∃ u : Gateway, s.greet Γ ws conn hello = u.onNet (modifyConn ws (fun conn => { conn with peerSessionId := none }))) ∨
      ∃ u credential, s.admittedAs Γ hello = some credential ∧ s.ControlTurns u ∧
        s.greet Γ ws conn hello = (u.openSession Γ ws credential hello).onNet (modifyConn ws
          (fun conn => { conn with peerSessionId := some (Γ.sessionIds.draw s.drawn) })) ∧
        u = (s.resolveToken Γ hello.gatewaySecret).2.onNet (clearAuthTimeout ws) := by
  have hresolve : (s.onNet (clearAuthTimeout ws)).resolveToken Γ hello.gatewaySecret =
      ((s.resolveToken Γ hello.gatewaySecret).1,
        (s.resolveToken Γ hello.gatewaySecret).2.onNet (clearAuthTimeout ws)) := by
    unfold resolveToken
    split <;> rfl
  have hresolved : s.ControlTurns ((s.resolveToken Γ hello.gatewaySecret).2.onNet (clearAuthTimeout ws)) :=
    (resolveToken_control hello.gatewaySecret s).trans (.onNet (.of_eq rfl))
  have hrefused {u : Gateway} (hu : s.ControlTurns u) (code : GatewayErrorCode) (message : String) :
      s.ControlTurns ((u.refuse ws code message).onNet (modifyConn ws (fun conn => { conn with peerSessionId := none }))) :=
    (hu.trans (refuse_control ws code message u)).trans (.onNet (.of_eq rfl))
  unfold greet handlePeerHello admittedAs
  rw [hresolve]
  generalize hu : (s.resolveToken Γ hello.gatewaySecret).2.onNet (clearAuthTimeout ws) = u at hresolved
  rcases (s.resolveToken Γ hello.gatewaySecret).1 with _ | credential
  · have hfailed : s.ControlTurns (u.recordAuthFailure Γ conn.ip).2 := hresolved.trans (.same rfl rfl (.of_eq rfl))
    dsimp only
    split
    · exact Or.inl ⟨rfl, hrefused hfailed _ _, _, rfl⟩
    · exact Or.inl ⟨rfl, hrefused hfailed _ _, _, rfl⟩
  · dsimp only
    rw [Option.filter_some]
    rcases refuseHello Γ credential hello with _ | ⟨code, message⟩
    · have hdrawn : u.drawn = s.drawn := hresolved.drawn
      refine Or.inr ⟨u, credential, rfl, hresolved, ?_, rfl⟩
      dsimp only
      rw [hdrawn]
    · exact Or.inl ⟨rfl, hrefused hresolved _ _, _, rfl⟩

theorem syncRegistryRoute_control (ip : String) (authorization : Option String) (s : Gateway) :
    ControlSteps Γ (s.requested Γ (.syncRegistry ip authorization)) s (s.syncRegistryRoute Γ ip authorization) := by
  unfold syncRegistryRoute
  split
  · exact (denyUnauthorized_control _ _ s).steps
  · rename_i token hbearer
    split
    · exact (denyUnauthorized_control _ _ s).steps
    · rename_i peer hpeer
      obtain ⟨peerSessionId, ht, hp⟩ := Option.bind_eq_some_iff.mp hpeer
      exact (ControlStep.deliver (.sync (congrArg (Option.map Request.registry) hbearer) ht hp)).steps

theorem handleChannelOpen_control {peerSessionId : String} {peer : PeerSession} (target : String) (kind : Option String)
    {s : Gateway} (hp : s.state.peers.get peerSessionId = some peer) :
    ControlSteps Γ (some (.message peer (.channelOpen target kind))) s (s.handleChannelOpen Γ peer target kind) := by
  have herror (code : GatewayErrorCode) (message : String) :
      ControlSteps Γ (some (.message peer (.channelOpen target kind))) s (s.sendError peer.ws code message) :=
    (sendError_control _ _ _ s).steps
  unfold handleChannelOpen
  split
  · exact herror _ _
  · dsimp only
    split
    · rename_i presence lease hi hl
      split
      · exact herror _ _
      · rename_i backendPeer hb
        split
        · exact herror _ _
        · rename_i hreach
          split
          · exact herror _ _
          · rename_i hroom
            exact (ControlStep.openChannel hp rfl hl hb hi (by simpa using hreach) (by simpa using hroom)).steps
    · exact herror _ _

theorem routeMessage_control {peerSessionId : String} {peer : PeerSession} (message : GatewayMessage) {s : Gateway}
    (hp : s.state.peers.get peerSessionId = some peer) :
    ControlSteps Γ (some (.message peer message)) s (s.routeMessage Γ peer message) := by
  cases message with
  | backendHeartbeat epoch => exact (handleBackendHeartbeat_control _ _ s).steps
  | requestRegistrySnapshot => exact (ControlStep.deliver (.snapshot hp)).steps
  | backendServerMessage backendId target raw => exact (ControlStep.deliver (.serverMessage hp rfl)).steps
  | pushNotificationRequest event => exact (handlePushNotificationRequest_control _ _ s).steps
  | ping ts => exact (ControlTurns.onNet (.sendToWs rfl peer.ws _)).steps
  | channelOpen target kind => exact handleChannelOpen_control _ _ hp
  | channelReject channelId =>
    change ControlSteps Γ _ s (s.handleChannelReject peer channelId)
    unfold handleChannelReject
    split
    · exact .refl s
    · split
      · exact (ControlTurns.teardown _ _ s).steps
      · exact .refl s
  | channelClose channelId =>
    change ControlSteps Γ _ s (s.handleChannelClose peer channelId)
    unfold handleChannelClose
    split
    · exact .refl s
    · split
      · exact (ControlTurns.teardown _ _ s).steps
      · exact .refl s
  | topicSubscribe backendId topic => exact (ControlStep.topic hp rfl rfl).steps
  | topicUnsubscribe backendId topic => exact (ControlStep.topic hp rfl rfl).steps
  | topicPublish topic payload retained => exact (ControlStep.topic hp rfl rfl).steps
  | unknown type => exact (sendError_control _ _ _ s).steps

/-- A message of an authenticated connection reaches the router, or is answered with an error. -/
theorem controlMessage_control {ws : SocketId} {k : WsSocket} {conn : ControlConn} {frame : Frame} {buffered : Nat}
    {writable : Bool} {s : Gateway} (hno : s.helloOf Γ (.message ws frame buffered writable) = none)
    (hk : s.net.sockets.get ws = some k) (hl : k.listener = .control conn) (hr : k.reads = true) :
    ControlSteps Γ (s.requested Γ (.message ws frame buffered writable)) s (s.controlMessage Γ ws conn frame.data) := by
  have hinvalid {act : Option Request} (code : GatewayErrorCode) (message reason : String) :
      ControlSteps Γ act s ((s.sendError ws code message).onNet (Net.close ws 1008 reason)) :=
    ((sendError_control ws code message s).trans (.onNet (.close ws 1008 reason _))).steps
  unfold controlMessage
  split
  · exact hinvalid _ _ _
  · exact (sendError_control _ _ _ s).steps
  · rename_i hparse hn
    obtain ⟨error, he⟩ := handleFirstMessage_refused hno hk hl hr hn hparse
    rw [he]
    exact hinvalid _ _ _
  · rename_i message peerSessionId hparse hn
    split
    · rename_i t ht
      unfold handlePeerMessage at ht
      split at ht
      · cases ht
        exact .refl s
      · rename_i peer hp
        split at ht
        · split at ht
          · cases ht
            exact (sendError_control _ _ _ s).steps
          · cases ht
        · rename_i hvalid
          split at ht
          · cases ht
          · rename_i m hread
            cases ht
            have hrouted : s.requested Γ (.message ws frame buffered writable) = some (.message peer m) := by
              unfold requested routed
              simp only [authenticatedAs_of hk hl hr, hn, hparse, hp, hvalid, hread, Option.map_some]
            rw [hrouted]
            exact routeMessage_control m hp
    · exact (sendError_control _ _ _ s).steps

theorem socketMessage_control {ws : SocketId} {frame : Frame} {buffered : Nat} {writable : Bool} {s : Gateway}
    (hno : s.helloOf Γ (.message ws frame buffered writable) = none) :
    ControlSteps Γ (s.requested Γ (.message ws frame buffered writable)) s (s.socketMessage Γ ws frame buffered writable) := by
  unfold socketMessage
  split
  · exact .refl s
  · rename_i k hk
    split
    · rename_i hr
      split
      · exact .refl s
      · rename_i conn hl
        exact controlMessage_control hno hk hl hr
      · exact (relayMessage_control _ _ _ _ s).steps
      · exact (bridgeMessage_control _ _ _ _ _ s).steps
    · exact .refl s

theorem socketError_control (ws : SocketId) (s : Gateway) : s.ControlTurns (s.socketError ws) := by
  have hclosing : s.ControlTurns (s.onNet (Net.modifySocket ws (fun k => { k with readyState := .closing }))) :=
    .onNet (.modifySocket ws _ _)
  unfold socketError
  split
  · exact .refl s
  · split
    · dsimp only
      split
      · exact hclosing.trans (.throw _ _)
      · split
        · exact hclosing.trans (.teardown _ _ _)
        · exact hclosing.trans (.teardown _ _ _)
        · exact hclosing
    · exact .refl s

theorem controlClose_control (ws : SocketId) (conn : ControlConn) (s : Gateway) :
    ControlSteps Γ act s (s.controlClose ws conn) := by
  have hcounted (wsConnectionsPerIp) : s.ControlTurns { (s.onNet (clearAuthTimeout ws)) with wsConnectionsPerIp } :=
    .same rfl rfl (.of_eq rfl)
  unfold controlClose
  dsimp only
  split
  · exact (hcounted _).steps.trans (ControlStep.disconnect _).steps
  · exact (hcounted _).steps

theorem socketClosed_control (ws : SocketId) (s : Gateway) : ControlSteps Γ act s (s.socketClosed ws) := by
  have hclosed : s.ControlTurns (s.onNet (Net.modifySocket ws (fun k => { k with readyState := .closed }))) :=
    .onNet (.modifySocket ws _ _)
  unfold socketClosed
  split
  · exact .refl s
  · split
    · exact .refl s
    · dsimp only
      split
      · exact hclosed.steps
      · exact hclosed.steps.trans (controlClose_control _ _ _)
      · exact (hclosed.trans (.teardown _ _ _)).steps
      · exact (hclosed.trans (bridgeClose_control _ _ _)).steps

theorem proxyRoute_control (request : ProxyRequest) (authorization : Option String) (s : Gateway) :
    ControlSteps Γ act s (s.proxyRoute Γ request authorization) := by
  unfold proxyRoute
  split
  · exact (denyUnauthorized_control _ _ s).steps
  · rename_i token _
    have hresolved := resolveToken_control (Γ := Γ) token s
    rcases hr : s.resolveToken Γ token with ⟨credential, s'⟩
    rw [hr] at hresolved
    rcases credential with _ | credential
    · exact (hresolved.trans (denyUnauthorized_control _ _ s')).steps
    · have hcounted := hresolved.trans (refuseProxyRequest_control (Γ := Γ) credential.id request.ip s')
      dsimp only
      rcases hp : s'.refuseProxyRequest Γ credential.id request.ip with ⟨refused, s''⟩
      rw [hp] at hcounted
      have hreply {r : HttpReply} (hr : r.names = false) : ControlSteps Γ act s (s''.reply r) :=
        (hcounted.trans (.onNet (.reply hr _))).steps
      dsimp only
      split
      · exact hreply rfl
      · split
        · exact hreply rfl
        · rename_i hl
          split
          · exact hreply rfl
          · split
            · exact hreply rfl
            · split
              · exact hreply rfl
              · rename_i hb
                exact hcounted.steps.trans (ControlStep.proxyViaChannel hl hb).steps

theorem pingPeer_control (s : Gateway) (peerSessionId : String) : ControlSteps Γ act s (s.pingPeer peerSessionId) := by
  unfold pingPeer
  split
  · exact .refl s
  · split
    · exact (ControlStep.disconnect _).steps
    · refine (ControlTurns.trans (.onState ⟨?_, .refl BackendPresence.Same.refl _, .refl BackendLease.Same.refl _⟩)
        (.onNet (.ping _ _))).steps
      exact .modify PeerSession.Same.refl fun peer _ => ⟨false, rfl⟩

theorem controlPong_control (ws : SocketId) (s : Gateway) : s.ControlTurns (s.controlPong ws) := by
  unfold controlPong
  split
  · refine .onState ⟨?_, .refl BackendPresence.Same.refl _, .refl BackendLease.Same.refl _⟩
    exact .modify PeerSession.Same.refl fun peer _ => ⟨true, rfl⟩
  · exact .refl s

theorem authTimeoutFires_control (ws : SocketId) (s : Gateway) : s.ControlTurns (s.authTimeoutFires ws) := by
  have hcleared : s.ControlTurns (s.onNet (clearAuthTimeout ws)) := .onNet (.of_eq rfl)
  unfold authTimeoutFires
  dsimp only
  split
  · split
    · split
      · exact hcleared.trans (.onNet (.close ws _ _ _))
      · exact hcleared
    · exact .refl s
  · exact .refl s

theorem replacedGraceFires_control (ws : SocketId) (s : Gateway) : s.ControlTurns (s.replacedGraceFires ws) := by
  unfold replacedGraceFires
  split
  · exact .refl s
  · split
    · exact .onNet ((Net.Discreet.modifySocket ws _ _).trans (.terminate ws _))
    · exact .refl s

theorem rateTimerFires_control (ws : SocketId) (s : Gateway) : s.ControlTurns (s.rateTimerFires ws) := by
  unfold rateTimerFires
  split
  · split
    · exact .onNet ((Net.Discreet.modifySocket ws _ _).trans (.resume ws _))
    · exact .refl s
  · exact .refl s

theorem drainPoll_control (ws : SocketId) (buffered : Nat) (s : Gateway) : s.ControlTurns (s.drainPoll ws buffered) := by
  unfold drainPoll
  split
  · split
    · exact .onNet ((Net.Discreet.modifySocket ws _ _).trans (.resume ws _))
    · exact .refl s
  · exact .refl s

theorem requestData_control (ex : ExchangeId) (chunk : Bytes) (buffered : Nat) (s : Gateway) :
    s.ControlTurns (s.requestData ex chunk buffered) := by
  unfold requestData
  split
  · split
    · exact .refl s
    · refine .onNet ?_
      dsimp only
      split
      · exact (Net.Discreet.emit rfl _).trans (.modifyExchange ex _ _)
      · exact .emit rfl _
  · exact .refl s

theorem requestEnd_control (ex : ExchangeId) (s : Gateway) : s.ControlTurns (s.requestEnd ex) := by
  unfold requestEnd
  split
  · split
    · exact .onNet (.emit rfl _)
    · exact .refl s
  · exact .refl s

theorem requestDrainPoll_control (ex : ExchangeId) (buffered : Nat) (s : Gateway) :
    s.ControlTurns (s.requestDrainPoll ex buffered) := by
  unfold requestDrainPoll
  split
  · split
    · exact .onNet (.modifyExchange ex _ _)
    · exact .refl s
  · exact .refl s

theorem responseDrain_control (ex : ExchangeId) (s : Gateway) : s.ControlTurns (s.responseDrain ex) := by
  unfold Gateway.responseDrain
  split
  · split
    · exact .onNet ((Net.Discreet.modifyExchange ex _ _).trans (.resume _ _))
    · exact .refl s
  · exact .refl s

/-- An event but the lease check and a hello is a sequence of operations on the control plane. -/
theorem handle_control {e : Event} {s : Gateway} (he : e ≠ .leaseCheckInterval) (hno : s.helloOf Γ e = none) :
    ControlSteps Γ (s.requested Γ e) s (s.handle Γ e) := by
  cases e with
  | clock now => exact ControlTurns.steps (.same rfl rfl (.of_eq rfl))
  | upgrade ip target handshakeOk => exact (upgrade_control _ _ _ s).steps
  | message ws frame buffered writable => exact socketMessage_control hno
  | socketError ws => exact (socketError_control _ s).steps
  | socketClosing ws =>
    change ControlSteps Γ _ s (s.socketClosing ws)
    unfold socketClosing
    repeat' split
    all_goals exact ControlTurns.steps (.same rfl rfl (.of_eq rfl))
  | socketClosed ws => exact socketClosed_control _ s
  | pong ws => exact (controlPong_control _ s).steps
  | authTimeout ws => exact (authTimeoutFires_control _ s).steps
  | replacedGrace ws => exact (replacedGraceFires_control _ s).steps
  | rateTimer ws => exact (rateTimerFires_control _ s).steps
  | drainPoll ws buffered => exact (drainPoll_control _ _ s).steps
  | pairingTimeout channelId =>
    change ControlSteps Γ _ s (s.pairingTimeoutFires channelId)
    unfold pairingTimeoutFires
    split
    · exact .refl s
    · split
      · exact (ControlTurns.teardown _ _ s).steps
      · exact .refl s
  | pingInterval => exact ControlSteps.foldl pingPeer_control _ s
  | leaseCheckInterval => exact absurd rfl he
  | registryPollInterval =>
    change ControlSteps Γ _ s s.registryPollInterval
    unfold registryPollInterval
    split
    · exact (ControlStep.deliver (.broadcast s)).steps
    · exact .refl s
  | rateLimitCleanup => exact ControlTurns.steps (.same rfl rfl (.of_eq rfl))
  | proxy request authorization => exact proxyRoute_control _ _ s
  | requestData ex chunk buffered => exact (requestData_control _ _ _ s).steps
  | requestEnd ex => exact (requestEnd_control _ s).steps
  | requestDrainPoll ex buffered => exact (requestDrainPoll_control _ _ s).steps
  | responseDrain ex => exact (responseDrain_control _ s).steps
  | responseClose ex => exact (responseClose_control _ s).steps
  | responseTimeout ex => exact (responseTimeoutFires_control _ s).steps
  | idleTimeout ex => exact (idleTimeoutFires_control _ s).steps
  | syncRegistry ip authorization => exact syncRegistryRoute_control _ _ s
  | discovery ip authorization => exact (discoveryRoute_control _ _ s).steps
  | backendToken ip authorization => exact (backendTokenRoute_control _ _ s).steps
  | admin ip auth request => exact (adminRoute_control _ _ _ s).steps
  | adminLogin ip expiresAt => exact (adminLoginRoute_control _ _ s).steps
  | adminSession ip expiresAt => exact (adminSessionRoute_control _ s).steps

end Gateway

end ZclaudiaGateway
