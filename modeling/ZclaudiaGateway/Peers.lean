import ZclaudiaGateway.Channels

/-!
# Peers, leases and topics

The control plane of `src/server.ts`: registry snapshots, topics, the handshake, and the paths on which a backend is lost.
-/

namespace ZclaudiaGateway

/-! ## Reachability -/

/-- Namespace isolation, narrowed by a device credential's backend scope. -/
def canReach (ns : String) (allowedBackends : Option (List String)) (targetNs backendId : String) : Bool :=
  decide (targetNs = ns) && (allowedBackends.all (fun allowed => backendId ∈ allowed))

/-- `canReach(peer, ...)`. -/
def PeerSession.canReach (peer : PeerSession) (targetNs backendId : String) : Bool :=
  ZclaudiaGateway.canReach peer.ns peer.allowedBackends targetNs backendId

def visibleRegistry (st : GatewayState) (peer : PeerSession) : List BackendPresence :=
  (st.getRegistrySnapshot peer.ns).filter (fun item => peer.canReach item.ns item.backendId)

/-- The key under which `broadcastRegistrySnapshot` shares a message. -/
def scopeKey (peer : PeerSession) : String :=
  peer.ns ++ "\x1f" ++
    (match peer.allowedBackends with
     | some allowed => ",".intercalate allowed
     | none => "*")

/-- The message of a peer's scope, from the cache or computed and cached. -/
def scopedSnapshot (st : GatewayState) (peer : PeerSession) (perScope : InsertionMap String (List BackendPresence)) :
    List BackendPresence × InsertionMap String (List BackendPresence) :=
  match perScope.get (scopeKey peer) with
  | some items => (items, perScope)
  | none => (visibleRegistry st peer, perScope.set (scopeKey peer) (visibleRegistry st peer))

/-- The loop of `broadcastRegistrySnapshot`. -/
def broadcastTo (st : GatewayState) : List PeerSession → InsertionMap String (List BackendPresence) → Net → Net
  | [], _, net => net
  | peer :: rest, perScope, net =>
    let (items, perScope) := scopedSnapshot st peer perScope
    broadcastTo st rest perScope (net.sendToWs peer.ws (.registrySnapshot items))

namespace Gateway

/-- Each peer sees its own namespace's slice of the registry, narrowed by its scope. -/
def broadcastRegistrySnapshot (excludePeerSessionId : Option String) (s : Gateway) : Gateway :=
  s.onNet (broadcastTo s.state
    (s.state.peers.values.filter (fun peer => some peer.peerSessionId ≠ excludePeerSessionId)) .empty)

/-! ## Ownership -/

/-- The peer holds the current lease of its backend, in its own epoch (and in the one it names). -/
def isCurrentBackendOwner (s : Gateway) (peer : PeerSession) (expectedEpoch : Option JsNumber) : Bool :=
  match peer.backendId, peer.epoch with
  | some backendId, some epoch =>
    (expectedEpoch.all (fun expected => JsNumber.finite epoch = expected)) &&
      (s.state.leases.get backendId).any (fun lease => lease.peerSessionId = peer.peerSessionId ∧ lease.epoch = epoch)
  | _, _ => false

/-! ## Topics -/

def handleTopicSubscribe (peer : PeerSession) (backendId topic : String) (s : Gateway) : Gateway :=
  if peer.protocolVersion ≠ 4 then s.sendError peer.ws .invalidMessage "topic_subscribe requires protocol v4"
  else
    match s.state.registry.get backendId with
    | none => s.sendError peer.ws .backendOffline ("Backend " ++ backendId ++ " not found or offline")
    | some presence =>
      if peer.canReach presence.ns presence.backendId = false then
        s.sendError peer.ws .backendOffline ("Backend " ++ backendId ++ " not found or offline")
      else
        let topics := (s.topicSubs.get backendId).getD .empty
        let subs := (topics.get topic).getD .empty
        let s :=
          { s with topicSubs := s.topicSubs.set backendId (topics.set topic (subs.set peer.peerSessionId ())) }
        let s := s.onNet (Net.sendToWs peer.ws (.topicSubscribed backendId topic))
        match (s.retainedTopics.get backendId).bind (fun retained => retained.get topic) with
        | some payload => s.onNet (Net.sendToWs peer.ws (.topicMessage backendId topic (some payload)))
        | none => s

def handleTopicUnsubscribe (peer : PeerSession) (backendId topic : String) (s : Gateway) : Gateway :=
  { s with
    topicSubs := s.topicSubs.modify backendId (fun topics =>
      topics.modify topic (fun subs => subs.delete peer.peerSessionId)) }.onNet
    (Net.sendToWs peer.ws (.topicUnsubscribed backendId topic))

/-- Keep a payload as the topic's current state, unless the backend retains as many topics as it may. -/
def retain (backendId topic : String) (payload : JsonValue) (s : Gateway) : Gateway :=
  let retained := (s.retainedTopics.get backendId).getD .empty
  let retained :=
    if retained.size ≥ MAX_RETAINED_TOPICS_PER_BACKEND ∧ retained.has topic = false then retained
    else retained.set topic payload
  { s with retainedTopics := s.retainedTopics.set backendId retained }

/-- Send a message to every subscriber that is connected. -/
def fanOut (peers : InsertionMap String PeerSession) (subs : List String) (message : GatewayToPeer) (net : Net) : Net :=
  subs.foldl (fun net subId =>
    match peers.get subId with
    | some subscriber => net.sendToWs subscriber.ws message
    | none => net) net

/-- Backend publishes once; the gateway fans out. -/
def handleTopicPublish (peer : PeerSession) (topic : String) (payload : Option JsonValue) (retained : Bool)
    (s : Gateway) : Gateway :=
  if s.isCurrentBackendOwner peer none = false then s
  else
    match peer.backendId with
    | none => s
    | some backendId =>
      let s :=
        match retained, payload with
        | true, some payload => s.retain backendId topic payload
        | _, _ => s
      match (s.topicSubs.get backendId).bind (fun topics => topics.get topic) with
      | none => s
      | some subs => s.onNet (fanOut s.state.peers subs.keys (.topicMessage backendId topic payload))

def removeTopicSubscriptionsForPeer (peerSessionId : String) (s : Gateway) : Gateway :=
  { s with
    topicSubs := s.topicSubs.mapValues (fun _ topics => topics.mapValues (fun _ subs => subs.delete peerSessionId)) }

def removeTopicsForBackend (backendId : String) (s : Gateway) : Gateway :=
  { s with topicSubs := s.topicSubs.delete backendId, retainedTopics := s.retainedTopics.delete backendId }

/-! ## Losing a backend or a peer -/

def unregisterRecoveryToken (peer : PeerSession) (s : Gateway) : Gateway :=
  { s with recoveryTokens := s.recoveryTokens.delete peer.recoveryToken }

/-- A session stops being its backend's owner. -/
def disown (peer : PeerSession) : PeerSession := { peer with backendId := none, epoch := none }

def handleBackendLeaseExpired (backendId : String) (s : Gateway) : Gateway :=
  match s.state.leases.get backendId with
  | none => s
  | some lease =>
    let peer := s.state.peers.get lease.peerSessionId
    let s := s.closeChannelsForBackend backendId .backendOffline
      |>.removeTopicsForBackend backendId
      |>.onState (.registryRemove backendId)
      |>.broadcastRegistrySnapshot none
      |>.onState (.removeBackend backendId)
      |>.onStorage (.touchBackendIdentity s.now backendId none none)
    match peer with
    | none => s
    | some peer =>
      s.onState (.modifyPeer peer.peerSessionId disown)
        |>.onNet (.terminate peer.ws)
        |>.unregisterRecoveryToken peer
        |>.onState (.removePeer peer.peerSessionId)

/-- The part of `handlePeerDisconnect` for a session that holds its backend's lease. Its backend-side channels go first, so that
they carry the reason. -/
def disconnectOwner (peer : PeerSession) (backendId : String) (s : Gateway) : Gateway :=
  if s.isCurrentBackendOwner peer none then
    s.closeChannelsForBackend backendId .backendOffline
      |>.onState (.registryRemove backendId)
      |>.broadcastRegistrySnapshot (some peer.peerSessionId)
      |>.onState (.removeBackend backendId)
      |>.onStorage (.touchBackendIdentity s.now backendId none none)
  else s

def handlePeerDisconnect (peerSessionId : String) (s : Gateway) : Gateway :=
  match s.state.peers.get peerSessionId with
  | none => s
  | some peer =>
    let s :=
      match peer.backendId with
      | some backendId => s.disconnectOwner peer backendId
      | none => s
    let s := s.closeChannelsForPeer peerSessionId |>.removeTopicSubscriptionsForPeer peerSessionId
    let s :=
      match peer.backendId with
      | some backendId => s.removeTopicsForBackend backendId
      | none => s
    s.onNet (.terminate peer.ws)
      |>.unregisterRecoveryToken peer
      |>.onState (.removePeer peerSessionId)

/-- The gateway is the authority on epoch invalidation: the previous owner loses its channels, topics and lease, and its
socket is closed with a code that tells it not to come back. -/
def handleBackendOwnerReplaced (backendId previousPeerSessionId : String) (s : Gateway) : Gateway :=
  let s := s.closeChannelsForBackend backendId .epochChanged
    |>.removeTopicsForBackend backendId
    |>.onState (.removeLease backendId)
  match s.state.peers.get previousPeerSessionId with
  | none => s
  | some previousPeer =>
    s.onState (.modifyPeer previousPeerSessionId disown)
      |>.onNet (.close previousPeer.ws GATEWAY_CLOSE_BACKEND_REPLACED "Backend replaced by a newer connection")
      |>.onNet (.modifySocket previousPeer.ws (fun k => { k with replacedGrace := true }))

/-! ## Handshake -/

/-- `isCredentialToken`. -/
def isCredentialToken (token : String) : Bool :=
  [CredentialType.device, .backend, .backendAccess].any (fun type => token.startsWith type.tokenPrefix)

/-- `resolveToken`: the only authentication is an issued, live credential. -/
def resolveToken (Γ : Ctx) (token : String) (s : Gateway) : Option CredentialRecord × Gateway :=
  if isCredentialToken token then
    let (credential, storage) := s.storage.findValidCredential Γ.hashCredentialToken s.now token
    (credential, { s with storage })
  else (none, s)

/-- Count an unauthenticated attempt against the client IP; false once spent. -/
def recordAuthFailure (Γ : Ctx) (ip : String) (s : Gateway) : Bool × Gateway :=
  let (ok, authFailures) := checkLimit s.authFailures ip Γ.config.authFailRateLimit AUTH_FAIL_WINDOW s.now
  (ok, { s with authFailures })

/-- The hello registers a backend. -/
def isBackendHello (hello : PeerHello) : Bool := hello.peerType = .clientAndBackend && hello.backend.isSome

/-- What a valid credential does not let a hello do, in the order of the source's checks. -/
def refuseHello (Γ : Ctx) (credential : CredentialRecord) (hello : PeerHello) : Option (GatewayErrorCode × String) :=
  if credential.ns ≠ hello.ns then some (.unauthorized, "Namespace not permitted by credential")
  else if hello.peerType = .clientAndBackend ∧ credential.type = .device then
    some (.unauthorized, "This credential cannot register a backend")
  else if hello.protocolVersion ≠ .finite 4 then
    some (.protocolVersionMismatch, "Expected protocol version 4, got " ++ Γ.numberToString hello.protocolVersion)
  else if isBackendHello hello ∧ credential.backendId = none ∧ hello.identity.instanceId = none then
    some (.invalidMessage, "peer_hello.identity.instanceId is required for legacy (unbound) backend credentials")
  else none

/-- `identity.channel || 'prod'`. -/
def helloChannel (identity : PeerIdentity) : String := (identity.channel.filter (· ≠ "")).getD "prod"

/-- A bound credential is its backend; a legacy one keeps the mapping of what its hello says. -/
def resolveBackendIdentity (fresh : String) (now : Nat) (credential : CredentialRecord) (hello : PeerHello)
    (storage : Storage) : String × Storage :=
  match credential.backendId with
  | some backendId => (backendId, storage)
  | none =>
    storage.getOrCreateBackendIdV4 fresh now hello.ns (hello.identity.instanceId.getD "") (helloChannel hello.identity)
      hello.identity.name

/-- The session a hello opens, before it registers a backend. -/
def newPeer (peerSessionId recoveryToken : String) (ws : SocketId) (credential : CredentialRecord) (hello : PeerHello) :
    PeerSession :=
  { peerSessionId
    ws
    protocolVersion := 4
    peerType := hello.peerType
    ns := hello.ns
    credentialId := credential.id
    allowedBackends := if credential.type = .device then credential.allowedBackends else none
    deviceId := hello.identity.deviceId.getD ""
    instanceId := hello.identity.instanceId.getD ""
    channel := helloChannel hello.identity
    name := hello.identity.name.getD ""
    recoveryToken
    isAlive := true
    backendId := none
    epoch := none }

/-- The registry item of a backend that registers. -/
def newPresence (now : Nat) (peer : PeerSession) (backend : BackendHello) (backendId : String) (epoch : Nat) :
    BackendPresence :=
  { ns := peer.ns
    backendId
    instanceId := peer.instanceId
    deviceId := peer.deviceId
    name := peer.name
    channel := peer.channel
    visible := backend.visible
    capabilities := backend.capabilities
    backendProtocolVersion := backend.backendProtocolVersion
    minClientProtocolVersion := backend.minClientProtocolVersion
    epoch
    connectedAt := now
    lastSeenAt := now
    gatewayProtocolVersion := peer.protocolVersion }

/-- Whoever held the lease of the backend is replaced: the newest connection wins. -/
def replaceOwner (backendId peerSessionId : String) (epoch : Nat) (s : Gateway) : Gateway :=
  match s.state.leases.get backendId with
  | none => s
  | some lease =>
    if lease.peerSessionId ≠ peerSessionId ∨ lease.epoch ≠ epoch then
      s.handleBackendOwnerReplaced backendId lease.peerSessionId
    else s

/-- The lease of a backend that registers. -/
def newLease (Γ : Ctx) (now : Nat) (peerSessionId backendId : String) (epoch : Nat) : BackendLease :=
  { backendId, epoch, peerSessionId, leaseTtlMs := Γ.config.defaultLeaseTtlMs, lastHeartbeatAt := now }

/-- Register a session's backend under a new epoch. -/
def registerBackend (Γ : Ctx) (credential : CredentialRecord) (hello : PeerHello) (backend : BackendHello)
    (backendId : String) (epoch : Nat) (peer : PeerSession) (s : Gateway) : Gateway :=
  s.replaceOwner backendId peer.peerSessionId epoch
    |>.onState (.addLease (newLease Γ s.now peer.peerSessionId backendId epoch))
    |>.onStorage (.touchBackendIdentity s.now backendId (some (credential.parentId.getD credential.id))
      hello.identity.name)
    |>.onState (.registryUpsert (newPresence s.now peer backend backendId epoch))

/-- Add the session of an admitted hello and tell it. -/
def addSession (peer : PeerSession) (grant : Option BackendGrant) (s : Gateway) : Gateway :=
  let s := s.onState (.addPeer peer)
  let s := { s with recoveryTokens := s.recoveryTokens.set peer.recoveryToken peer.peerSessionId }
  let ready := .peerReady peer.protocolVersion peer.peerSessionId peer.recoveryToken grant (visibleRegistry s.state peer)
  let s := s.onNet (Net.sendToWs peer.ws ready)
  if peer.backendId.isSome then s.broadcastRegistrySnapshot (some peer.peerSessionId) else s

/-- Open the session of an admitted hello. -/
def openSession (Γ : Ctx) (ws : SocketId) (credential : CredentialRecord) (hello : PeerHello) (s : Gateway) : Gateway :=
  let peer := newPeer (Γ.sessionIds.draw s.drawn) (Γ.recoveryTokens.draw s.drawn) ws credential hello
  match hello.peerType, hello.backend with
  | .clientAndBackend, some backend =>
    let (backendId, storage) :=
      resolveBackendIdentity (Γ.backendIds.draw s.drawn) s.now credential hello s.storage
    let (epoch, storage) := storage.allocateEpoch
    let peer := { peer with backendId := some backendId, epoch := some epoch }
    { s with storage }.registerBackend Γ credential hello backend backendId epoch peer
      |>.addSession peer (some { backendId, epoch, leaseTtlMs := Γ.config.defaultLeaseTtlMs })
  | _, _ => s.addSession peer none

/-- Answer a refused hello and close its socket. -/
def refuse (ws : SocketId) (code : GatewayErrorCode) (message : String) (s : Gateway) : Gateway :=
  (s.sendError ws code message).onNet (Net.close ws 1005 "")

/-- The handshake: the session it opened, if any. -/
def handlePeerHello (Γ : Ctx) (ws : SocketId) (hello : PeerHello) (ip : String) (s : Gateway) :
    Option String × Gateway :=
  let (credential, s) := s.resolveToken Γ hello.gatewaySecret
  match credential with
  | none =>
    let (ok, s) := s.recordAuthFailure Γ ip
    (none,
     if ok then s.refuse ws .unauthorized "Invalid gateway secret" else s.refuse ws .rateLimited "Too many failed attempts")
  | some credential =>
    match refuseHello Γ credential hello with
    | some (code, message) => (none, s.refuse ws code message)
    | none => (some (Γ.sessionIds.draw s.drawn), s.openSession Γ ws credential hello)

end Gateway

end ZclaudiaGateway
