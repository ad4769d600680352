import ZclaudiaGateway.Lib.EventMachine
import ZclaudiaGateway.Routes

/-!
# The server

The message router, the listeners and the intervals of `createGatewayServer`, and the machine they make: one event at a time,
each handled to its end. What an event reads of the outside (a buffered amount, whether a write may go on, the clock) comes
with it. A timer is state that says it is armed; the event of its firing may come at any time. After an exception that nothing
catches the process is gone and nothing happens.
-/

namespace ZclaudiaGateway

namespace Gateway

/-! ## Backend and client messages -/

def handleBackendHeartbeat (peer : PeerSession) (epoch : JsNumber) (s : Gateway) : Gateway :=
  if s.isCurrentBackendOwner peer (some epoch) = false then s
  else
    match peer.backendId with
    | none => s
    | some backendId =>
      s.onState (.heartbeat s.now backendId)
        |>.onNet (.sendToWs peer.ws (.heartbeatAck epoch false))

def handleRequestRegistrySnapshot (peer : PeerSession) (s : Gateway) : Gateway :=
  s.onNet (Net.sendToWs peer.ws (.registrySnapshot (visibleRegistry s.state peer)))

/-- Targeted fallback path: a backend cannot message peers outside its namespace. -/
def handleBackendServerMessage (peer : PeerSession) (backendId : String) (targetPeerSessionId : Option String)
    (raw : JsonValue) (s : Gateway) : Gateway :=
  if s.isCurrentBackendOwner peer none = false then s
  else if peer.backendId ≠ some backendId then s
  else
    match targetPeerSessionId.bind (fun target => s.state.peers.get target) with
    | none => s
    | some targetPeer =>
      if targetPeer.canReach peer.ns backendId then s.onNet (Net.sendToWs targetPeer.ws (.backendServerMessage raw))
      else s

/-- `void pushNotificationService.notify(...)`: nothing handles a rejection. -/
def handlePushNotificationRequest (Γ : Ctx) (peer : PeerSession) (event : JsonValue) (s : Gateway) : Gateway :=
  match peer.backendId with
  | none => s.sendError peer.ws .invalidMessage "push_notification_request is only allowed from backends"
  | some backendId =>
    match notify Γ.stack Γ.config.notifications event (some backendId) with
    | .skipped => s
    | .sent request => s.onNet (Net.emit (.notified request))
    | .rejected => s.throw .unhandledRejection

/-! ## Channel messages -/

/-- The channel of a `channel_open`, with its two tickets issued and both ends told. -/
def openChannel (Γ : Ctx) (peer backendPeer : PeerSession) (lease : BackendLease) (target : String)
    (kind : Option String) (s : Gateway) : Gateway :=
  let channelId := Γ.channelIds.draw s.drawn
  let clientTicket := Γ.tickets.draw (2 * s.drawn)
  let backendTicket := Γ.tickets.draw (2 * s.drawn + 1)
  let expiresAt := s.now + Γ.config.channelTicketTtlMs
  let ch : ChannelRecord :=
    { channelId
      backendId := target
      epoch := lease.epoch
      kind
      clientPeerSessionId := peer.peerSessionId
      backendPeerSessionId := lease.peerSessionId
      clientSocket := none
      backendSocket := none
      piped := false
      ticketTokens := [clientTicket, backendTicket]
      pairingTimeout := true
      onBackendSocket := none
      internalRes := none }
  let dataPath := "/channel/" ++ channelId
  { s with
    channelTickets := (s.channelTickets.set clientTicket { channelId, role := .client, expiresAt }).set backendTicket
      { channelId, role := .backend, expiresAt }
    channels := s.channels.set channelId ch }.onNet (fun net =>
      (net.sendToWs backendPeer.ws
        (.channelOffer channelId kind (some peer.peerSessionId) backendTicket dataPath)).sendToWs peer.ws
        (.channelReady channelId clientTicket dataPath))

def handleChannelOpen (Γ : Ctx) (peer : PeerSession) (target : String) (kind : Option String) (s : Gateway) : Gateway :=
  if peer.protocolVersion ≠ 4 then s.sendError peer.ws .invalidMessage "channel_open requires protocol v4"
  else
    -- Same non-oracle answer for nonexistent, offline and cross-namespace.
    let offline := s.sendError peer.ws .backendOffline ("Backend " ++ target ++ " not found or offline")
    match s.state.registry.get target, s.state.leases.get target with
    | some presence, some lease =>
      match s.state.peers.get lease.peerSessionId with
      | none => offline
      | some backendPeer =>
        if peer.canReach presence.ns presence.backendId = false then offline
        else if s.countChannelsForPeer peer.peerSessionId ≥ Γ.config.maxChannelsPerPeer then
          s.sendError peer.ws .rateLimited "Too many open channels"
        else s.openChannel Γ peer backendPeer lease target kind
    | _, _ => offline

def handleChannelReject (peer : PeerSession) (channelId : String) (s : Gateway) : Gateway :=
  match s.channels.get channelId with
  | none => s
  | some ch => if ch.backendPeerSessionId = peer.peerSessionId then s.teardownChannel .rejected channelId else s

def handleChannelClose (peer : PeerSession) (channelId : String) (s : Gateway) : Gateway :=
  match s.channels.get channelId with
  | none => s
  | some ch => if isEndOf peer.peerSessionId ch then s.teardownChannel .closed channelId else s

/-! ## Message router -/

/-- The `switch` of `handlePeerMessage`. -/
def routeMessage (Γ : Ctx) (peer : PeerSession) (message : GatewayMessage) (s : Gateway) : Gateway :=
  match message with
  | .backendHeartbeat epoch => s.handleBackendHeartbeat peer epoch
  | .requestRegistrySnapshot => s.handleRequestRegistrySnapshot peer
  | .backendServerMessage backendId target raw => s.handleBackendServerMessage peer backendId target raw
  | .pushNotificationRequest event => s.handlePushNotificationRequest Γ peer event
  | .channelOpen target kind => s.handleChannelOpen Γ peer target kind
  | .channelReject channelId => s.handleChannelReject peer channelId
  | .channelClose channelId => s.handleChannelClose peer channelId
  | .topicSubscribe backendId topic => s.handleTopicSubscribe peer backendId topic
  | .topicUnsubscribe backendId topic => s.handleTopicUnsubscribe peer backendId topic
  | .topicPublish topic payload retained => s.handleTopicPublish peer topic payload retained
  | .ping ts => s.onNet (Net.sendToWs peer.ws (.pong ts))
  | .unknown type => s.sendError peer.ws .invalidMessage ("Unknown message type: " ++ type)

/-- `handlePeerMessage`. An invalid message is written to the audit log with its type, which throws for a type that does not
convert to a string; so would a handler that found a field of another type than it declares. -/
def handlePeerMessage (Γ : Ctx) (peerSessionId : String) (message : JsonValue) (s : Gateway) : Except JsError Gateway :=
  match s.state.peers.get peerSessionId with
  | none => .ok s
  | some peer =>
    match validateGatewayMessage message with
    | some error =>
      if (message.member "type").all (JsonValue.convertsToString Γ.stack) then
        .ok (s.sendError peer.ws .invalidMessage error)
      else .error .typeError
    | none =>
      match readGatewayMessage message with
      | none => .error .typeError
      | some message => .ok (s.routeMessage Γ peer message)

/-! ## Control sockets -/

/-- Change what the listeners of a control socket close over. -/
def modifyConn (ws : SocketId) (f : ControlConn → ControlConn) (net : Net) : Net :=
  net.modifySocket ws (fun k =>
    match k.listener with
    | .control conn => { k with listener := .control (f conn) }
    | _ => k)

/-- `clearTimeout(authTimeout)`. -/
def clearAuthTimeout (ws : SocketId) : Net → Net := modifyConn ws (fun conn => { conn with authTimeout := false })

/-- The first message of a connection: a hello or the end of it. -/
def handleFirstMessage (Γ : Ctx) (ws : SocketId) (conn : ControlConn) (message : JsonValue) (s : Gateway) : Gateway :=
  match validatePeerHelloV4 message, readPeerHello message with
  | none, some hello =>
    let s := s.onNet (clearAuthTimeout ws)
    let (peerSessionId, s) := s.handlePeerHello Γ ws hello conn.ip
    s.onNet (modifyConn ws (fun conn => { conn with peerSessionId }))
  | error, _ =>
    (s.sendError ws .invalidMessage (error.getD "")).onNet (Net.close ws 1008 "Invalid peer_hello")

/-- The `message` listener of a control socket. The `catch` answers what does not parse and what a handler throws. -/
def controlMessage (Γ : Ctx) (ws : SocketId) (conn : ControlConn) (data : Bytes) (s : Gateway) : Gateway :=
  match Γ.jsonParse data, conn.peerSessionId with
  | none, none =>
    (s.sendError ws .invalidMessage "Invalid message format").onNet (Net.close ws 1008 "Invalid message format")
  | none, some _ => s.sendError ws .invalidMessage "Invalid message format"
  | some message, none => s.handleFirstMessage Γ ws conn message
  | some message, some peerSessionId =>
    match s.handlePeerMessage Γ peerSessionId message with
    | .ok s => s
    | .error _ => s.sendError ws .invalidMessage "Invalid message format"

/-- The `connection` listener of the control server. -/
def controlConnection (ip : String) (s : Gateway) : Gateway :=
  let ws : SocketId := s.drawn
  let socket : WsSocket :=
    { readyState := .open_, paused := false, errorListener := false, listener := .none, replacedGrace := false }
  let currentCount := (s.wsConnectionsPerIp.get ip).getD 0
  if currentCount ≥ MAX_WS_CONNECTIONS_PER_IP then
    s.onNet (fun net =>
      ({ net with sockets := net.sockets.set ws socket }.emit (.upgraded ws)).close ws 1008 "Too many connections")
  else
    { s with wsConnectionsPerIp := s.wsConnectionsPerIp.set ip (currentCount + 1) }.onNet (fun net =>
      { net with
        sockets := net.sockets.set ws
          { socket with
            errorListener := true
            listener := .control { ip, peerSessionId := none, authTimeout := true } } }.emit (.upgraded ws))

/-- The `close` listener of a control socket. -/
def controlClose (ws : SocketId) (conn : ControlConn) (s : Gateway) : Gateway :=
  let s := s.onNet (clearAuthTimeout ws)
  let count := (s.wsConnectionsPerIp.get conn.ip).getD 1
  let s :=
    { s with
      wsConnectionsPerIp :=
        if count ≤ 1 then s.wsConnectionsPerIp.delete conn.ip else s.wsConnectionsPerIp.set conn.ip (count - 1) }
  match conn.peerSessionId with
  | some peerSessionId => s.handlePeerDisconnect peerSessionId
  | none => s

/-- The authentication timer of a control socket fires. -/
def authTimeoutFires (ws : SocketId) (s : Gateway) : Gateway :=
  match s.net.sockets.get ws with
  | some { listener := .control conn, .. } =>
    if conn.authTimeout then
      let s := s.onNet (clearAuthTimeout ws)
      if conn.peerSessionId.isNone then s.onNet (Net.close ws 1008 "Authentication timeout") else s
    else s
  | _ => s

/-- The grace of a replaced backend's socket is over. -/
def replacedGraceFires (ws : SocketId) (s : Gateway) : Gateway :=
  match s.net.sockets.get ws with
  | none => s
  | some k =>
    if k.replacedGrace then
      s.onNet (fun net => (net.modifySocket ws (fun k => { k with replacedGrace := false })).terminate ws)
    else s

/-- The `pong` listener of a control socket. -/
def controlPong (ws : SocketId) (s : Gateway) : Gateway :=
  match s.net.sockets.get ws with
  | some { listener := .control { peerSessionId := some peerSessionId, .. }, .. } =>
    s.onState (.modifyPeer peerSessionId (fun peer => { peer with isAlive := true }))
  | _ => s

/-! ## Socket events -/

end Gateway

/-- The socket may still parse inbound bytes: a socket that is paused does so too, since `ws` hands what is left in its buffer
to the parser as the connection closes. -/
def WsSocket.parses (k : WsSocket) : Bool := decide (k.readyState ≠ .closed)

/-- A frame may be delivered to the socket's listeners: it is not closed, and not held since it was dialed. A socket paused
later may still deliver what its last read left over. -/
def WsSocket.reads (k : WsSocket) : Bool :=
  decide (k.readyState ≠ .closed) && (!k.paused || decide (k.listener ≠ .none))

theorem WsSocket.parses_of_reads {k : WsSocket} (h : k.reads = true) : k.parses = true := (Bool.and_eq_true_iff.mp h).1

namespace Gateway

/-- A frame is delivered on a socket. -/
def socketMessage (Γ : Ctx) (ws : SocketId) (frame : Frame) (buffered : Nat) (writable : Bool) (s : Gateway) : Gateway :=
  match s.net.sockets.get ws with
  | none => s
  | some k =>
    if k.reads then
      match k.listener with
      | .none => s
      | .control conn => s.controlMessage Γ ws conn frame.data
      | .relay leg => s.relayMessage Γ ws leg frame buffered
      | .bridge channelId ex => s.bridgeMessage Γ ws channelId ex frame writable
    else s

/-- A malformed frame: the library starts to close the socket and emits `error`. -/
def socketError (ws : SocketId) (s : Gateway) : Gateway :=
  match s.net.sockets.get ws with
  | none => s
  | some k =>
    if k.parses then
      let s := s.onNet (Net.modifySocket ws (fun k => { k with readyState := .closing }))
      if !k.errorListener then s.throw .unhandledErrorEvent
      else
        match k.listener with
        | .relay leg => s.teardownChannel .closed leg.channelId
        | .bridge channelId _ => s.teardownChannel .closed channelId
        | _ => s
    else s

/-- The remote starts the close handshake. -/
def socketClosing (ws : SocketId) (s : Gateway) : Gateway :=
  match s.net.sockets.get ws with
  | none => s
  | some k => if k.reads then s.onNet (Net.modifySocket ws (fun k => { k with readyState := .closing })) else s

/-- The socket's `close` event, once. -/
def socketClosed (ws : SocketId) (s : Gateway) : Gateway :=
  match s.net.sockets.get ws with
  | none => s
  | some k =>
    if k.readyState = .closed then s
    else
      let s := s.onNet (Net.modifySocket ws (fun k => { k with readyState := .closed }))
      match k.listener with
      | .none => s
      | .control conn => s.controlClose ws conn
      | .relay leg => s.teardownChannel .closed leg.channelId
      | .bridge channelId ex => s.bridgeClose channelId ex

/-! ## Upgrade -/

/-- The `upgrade` listener of the HTTP server. The target is parsed here and once more on the way to a channel, to the same
end. -/
def upgrade (Γ : Ctx) (ip target : String) (handshakeOk : Bool) (s : Gateway) : Gateway :=
  match Γ.newURL target with
  | none => s.throw .invalidUrl
  | some url =>
    if url.pathname = "/ws" then
      if handshakeOk then s.controlConnection ip else s.onNet (Net.emit .refused)
    else if url.pathname.startsWith "/channel/" then
      s.handleChannelUpgrade (url.pathname.drop "/channel/".length).toString url.ticket handshakeOk
    else s.onNet (Net.emit .refused)

/-! ## Intervals and timers -/

/-- `pingInterval` on one peer. -/
def pingPeer (s : Gateway) (peerSessionId : String) : Gateway :=
  match s.state.peers.get peerSessionId with
  | none => s
  | some peer =>
    if !peer.isAlive then s.handlePeerDisconnect peerSessionId
    else
      s.onState (.modifyPeer peerSessionId (fun peer => { peer with isAlive := false }))
        |>.onNet (.ping peer.ws)

def pingInterval (s : Gateway) : Gateway := s.state.peers.keys.foldl pingPeer s

/-- `leaseCheckInterval` on one backend. -/
def checkLease (s : Gateway) (backendId : String) : Gateway :=
  match s.state.leases.get backendId with
  | none => s
  | some lease => if s.now - lease.lastHeartbeatAt > lease.leaseTtlMs then s.handleBackendLeaseExpired backendId else s

def leaseCheckInterval (s : Gateway) : Gateway := s.state.leases.keys.foldl checkLease s

def registryPollInterval (s : Gateway) : Gateway :=
  if s.state.peers.size > 0 then s.broadcastRegistrySnapshot none else s

/-- The windows that are not over. -/
def unexpired (now : Nat) (map : RateMap) : RateMap := map.filter (fun _ entry => now ≤ entry.resetAt)

def rateLimitCleanup (s : Gateway) : Gateway :=
  { s with
    authFailures := unexpired s.now s.authFailures
    proxyRequests := unexpired s.now s.proxyRequests
    proxyIpRequests := unexpired s.now s.proxyIpRequests
    channelTickets := s.channelTickets.filter (fun _ ticket => s.now ≤ ticket.expiresAt) }

/-- The pairing timer of a channel fires. -/
def pairingTimeoutFires (channelId : String) (s : Gateway) : Gateway :=
  match s.channels.get channelId with
  | none => s
  | some ch => if ch.pairingTimeout then s.teardownChannel .timeout channelId else s

end Gateway

/-! ## The machine -/

/-- What can happen to the gateway. -/
inductive Event where
  | clock (now : Nat)
  | upgrade (ip target : String) (handshakeOk : Bool)
  | message (ws : SocketId) (frame : Frame) (buffered : Nat) (writable : Bool)
  | socketError (ws : SocketId)
  | socketClosing (ws : SocketId)
  | socketClosed (ws : SocketId)
  | pong (ws : SocketId)
  | authTimeout (ws : SocketId)
  | replacedGrace (ws : SocketId)
  | rateTimer (ws : SocketId)
  | drainPoll (ws : SocketId) (buffered : Nat)
  | pairingTimeout (channelId : String)
  | pingInterval
  | leaseCheckInterval
  | registryPollInterval
  | rateLimitCleanup
  | proxy (request : ProxyRequest) (authorization : Option String)
  | requestData (exchange : ExchangeId) (chunk : Bytes) (buffered : Nat)
  | requestEnd (exchange : ExchangeId)
  | requestDrainPoll (exchange : ExchangeId) (buffered : Nat)
  | responseDrain (exchange : ExchangeId)
  | responseClose (exchange : ExchangeId)
  | responseTimeout (exchange : ExchangeId)
  | idleTimeout (exchange : ExchangeId)
  | syncRegistry (ip : String) (authorization : Option String)
  | discovery (ip : String) (authorization : Option String)
  | backendToken (ip : String) (authorization : Option String)
  | admin (ip : String) (auth : AdminAuth) (request : AdminRequest)
  | adminLogin (ip : String) (expiresAt : Option Nat)
  | adminSession (ip : String) (expiresAt : Option Nat)

namespace Gateway

def handle (Γ : Ctx) (e : Event) (s : Gateway) : Gateway :=
  match e with
  | .clock now => { s with now }
  | .upgrade ip target handshakeOk => s.upgrade Γ ip target handshakeOk
  | .message ws frame buffered writable => s.socketMessage Γ ws frame buffered writable
  | .socketError ws => s.socketError ws
  | .socketClosing ws => s.socketClosing ws
  | .socketClosed ws => s.socketClosed ws
  | .pong ws => s.controlPong ws
  | .authTimeout ws => s.authTimeoutFires ws
  | .replacedGrace ws => s.replacedGraceFires ws
  | .rateTimer ws => s.rateTimerFires ws
  | .drainPoll ws buffered => s.drainPoll ws buffered
  | .pairingTimeout channelId => s.pairingTimeoutFires channelId
  | .pingInterval => s.pingInterval
  | .leaseCheckInterval => s.leaseCheckInterval
  | .registryPollInterval => s.registryPollInterval
  | .rateLimitCleanup => s.rateLimitCleanup
  | .proxy request authorization => s.proxyRoute Γ request authorization
  | .requestData ex chunk buffered => s.requestData ex chunk buffered
  | .requestEnd ex => s.requestEnd ex
  | .requestDrainPoll ex buffered => s.requestDrainPoll ex buffered
  | .responseDrain ex => s.responseDrain ex
  | .responseClose ex => s.responseClose ex
  | .responseTimeout ex => s.responseTimeoutFires ex
  | .idleTimeout ex => s.idleTimeoutFires ex
  | .syncRegistry ip authorization => s.syncRegistryRoute Γ ip authorization
  | .discovery ip authorization => s.discoveryRoute Γ ip authorization
  | .backendToken ip authorization => s.backendTokenRoute Γ ip authorization
  | .admin ip auth request => s.adminRoute Γ ip auth request
  | .adminLogin ip expiresAt => s.adminLoginRoute Γ ip expiresAt
  | .adminSession _ expiresAt => s.adminSessionRoute expiresAt

/-- The gateway before it handles an event: nothing sent in the course of it yet. -/
def quiet (s : Gateway) : Gateway := s.onNet (fun net => { net with outbox := [] })

/-- One event. A process that is gone handles none. -/
def step (Γ : Ctx) (s : Gateway) (e : Event) : Gateway :=
  if s.uncaught.isSome then s.quiet
  else
    let s := s.quiet.handle Γ e
    { s with drawn := s.drawn + 1 }

end Gateway

/-- The gateway as a machine, started on a store that may hold rows of an earlier process. -/
def gateway (Γ : Ctx) (storage : Storage) : EventMachine Gateway Event :=
  { init := Gateway.init storage, step := Gateway.step Γ }

end ZclaudiaGateway
