import ZclaudiaGateway.Sockets

/-!
# Channels

Section "v4 Channels" of `src/server.ts`: teardown, the relay between two legs, the HTTP bridge, and the dial that attaches a
leg. `close` and `resume` of a socket are asynchronous towards its listeners, so no listener runs inside a teardown.
-/

namespace ZclaudiaGateway

namespace Gateway

/-! ## Teardown -/

/-- The answer of an internal channel's response to the teardown reason; a response mid-stream is truncated. -/
def teardownResponse (reason : ChannelClosedReason) (internalRes : Option ExchangeId) (net : Net) : Net :=
  match internalRes with
  | none => net
  | some ex =>
    match net.exchanges.get ex with
    | none => net
    | some x =>
      if !x.headersSent then
        let status := if reason = .timeout then 504 else 502
        let code := if reason = .timeout then "GATEWAY_TIMEOUT" else "BACKEND_OFFLINE"
        net.statusJson ex x.headers { status, body := .error code ("Proxy channel " ++ reason.text) }
      else if !x.writableEnded && !x.destroyed then net.destroyResponse ex
      else net

/-- Resume a leg, so that the close handshake is read, and close it. -/
def teardownSocket (reason : ChannelClosedReason) (socket : Option SocketId) (net : Net) : Net :=
  match socket with
  | none => net
  | some ws =>
    let net := net.resume ws
    if net.readyState ws = .open_ then net.close ws 1000 reason.text else net.terminate ws

/-- `channel_closed` to an end's control connection, if the session is still there. -/
def notifyClosed (peers : InsertionMap String PeerSession) (channelId : String) (reason : ChannelClosedReason)
    (sessionId : String) (net : Net) : Net :=
  match peers.get sessionId with
  | none => net
  | some peer => net.sendToWs peer.ws (.channelClosed channelId reason)

/-- What teardown does to the sockets and the response of a channel. -/
def teardownNet (peers : InsertionMap String PeerSession) (reason : ChannelClosedReason) (ch : ChannelRecord) (net : Net) :
    Net :=
  net |> teardownResponse reason ch.internalRes
    |> teardownSocket reason ch.clientSocket
    |> teardownSocket reason ch.backendSocket
    |> notifyClosed peers ch.channelId reason ch.clientPeerSessionId
    |> notifyClosed peers ch.channelId reason ch.backendPeerSessionId

def teardownChannel (reason : ChannelClosedReason) (s : Gateway) (channelId : String) : Gateway :=
  match s.channels.get channelId with
  | none => s
  | some ch =>
    { s with
      channels := s.channels.delete channelId
      channelTickets := ch.ticketTokens.foldl InsertionMap.delete s.channelTickets
      net := teardownNet s.state.peers reason ch s.net }

/-- Tear down every channel that satisfies a test, taking the channels as they are before the first teardown. -/
def teardownWhere (test : ChannelRecord → Bool) (reason : ChannelClosedReason) (s : Gateway) : Gateway :=
  ((s.channels.values.filter test).map (·.channelId)).foldl (teardownChannel reason) s

def closeChannelsForBackend (backendId : String) (reason : ChannelClosedReason) (s : Gateway) : Gateway :=
  s.teardownWhere (fun ch => ch.backendId = backendId) reason

/-- The session is one of the channel's ends. -/
def isEndOf (peerSessionId : String) (ch : ChannelRecord) : Bool :=
  ch.clientPeerSessionId = peerSessionId || ch.backendPeerSessionId = peerSessionId

def closeChannelsForPeer (peerSessionId : String) (s : Gateway) : Gateway :=
  s.teardownWhere (isEndOf peerSessionId) .closed

def countChannelsForPeer (s : Gateway) (peerSessionId : String) : Nat :=
  (s.channels.values.filter (isEndOf peerSessionId)).length

/-! ## Relay -/

/-- The token bucket of one direction after a frame of `size` bytes: one-second windows, overshoot carried over. -/
def spend (limit size now : Nat) (leg : RelayLeg) : RelayLeg :=
  if now ≥ leg.resetAt then { leg with used := (leg.used - limit) + size, resetAt := now + 1000 }
  else { leg with used := leg.used + size }

def setLeg (ws : SocketId) (leg : RelayLeg) (net : Net) : Net :=
  net.modifySocket ws (fun k => { k with listener := .relay leg })

/-- The byte rate limit's part of the relay: a sender past its window's budget is paused until the window resets. -/
def relayRate (limit : Option Nat) (now size : Nat) (ws : SocketId) (leg : RelayLeg) (net : Net) : RelayLeg × Net :=
  match limit with
  | none => (leg, net)
  | some limit =>
    if limit = 0 then (leg, net)
    else
      let leg := spend limit size now leg
      if leg.used > limit then
        let leg := { leg with rateTimers := leg.rateTimers ++ [leg.resetAt] }
        (leg, (setLeg ws leg net).pause ws)
      else (leg, setLeg ws leg net)

/-- The `message` listener of a relayed leg. `buffered` is `to.bufferedAmount` after the send. -/
def relayMessage (Γ : Ctx) (ws : SocketId) (leg : RelayLeg) (frame : Frame) (buffered : Nat) (s : Gateway) : Gateway :=
  if s.net.readyState leg.dst ≠ .open_ then s
  else
    let (leg, net) := relayRate Γ.config.channelByteRateLimit s.now frame.data.length ws leg
      (s.net.emit (.sendFrame leg.dst frame))
    { s with
      net := if buffered > HIGH_WATER then (setLeg ws { leg with drains := leg.drains + 1 } net).pause ws else net }

/-- A rate timer that is due resumes its leg. -/
def rateTimerFires (ws : SocketId) (s : Gateway) : Gateway :=
  match s.net.sockets.get ws with
  | some { listener := .relay leg, .. } =>
    match leg.rateTimers.find? (fun due => due ≤ s.now) with
    | some due =>
      s.onNet (fun net => (setLeg ws { leg with rateTimers := leg.rateTimers.erase due } net).resume ws)
    | none => s
  | _ => s

/-- A drain poll of a relayed leg, with the receiver's buffered amount. -/
def drainPoll (ws : SocketId) (buffered : Nat) (s : Gateway) : Gateway :=
  match s.net.sockets.get ws with
  | some { listener := .relay leg, .. } =>
    if leg.drains > 0 ∧ (buffered ≤ HIGH_WATER / 4 ∨ s.net.readyState leg.dst ≠ .open_) then
      s.onNet (fun net => (setLeg ws { leg with drains := leg.drains - 1 } net).resume ws)
    else s
  | _ => s

/-- Attach the relay listeners to one leg. -/
def wireLeg (channelId : String) (ws dst : SocketId) (net : Net) : Net :=
  net.modifySocket ws (fun k =>
    { k with
      errorListener := true
      listener := .relay { channelId, dst, used := 0, resetAt := 0, rateTimers := [], drains := 0 } })

/-- `wireChannel`, on the two legs `a` and `b`. -/
def wireChannel (channelId : String) (a b : SocketId) (s : Gateway) : Gateway :=
  s.onChannel channelId (fun ch => { ch with piped := true })
    |>.onNet (wireLeg channelId a b)
    |>.onNet (wireLeg channelId b a)
    |>.onNet (Net.resume a)
    |>.onNet (Net.resume b)

/-! ## HTTP bridge -/

/-- The request headers that go to the backend. -/
def forwardedHeaders (headers : RequestHeaders) : List (String × String) :=
  PROXY_REQUEST_HEADER_ALLOWLIST.filterMap (fun name => (headers.values.get name).map (fun value => (name, value)))

/-- `bridgeHttpChannel` up to its listeners: sends the request frame, attaches the listeners and arms the response timer. -/
def bridgeHttpChannel (channelId : String) (ex : ExchangeId) (ws : SocketId) (net : Net) : Net :=
  match net.exchanges.get ex with
  | none => net
  | some x =>
    (net.emit (.sendHttp ws (.request x.request.method x.targetPath (forwardedHeaders x.request.headers))))
      |> Net.modifySocket ws (fun k => { k with errorListener := true, listener := .bridge channelId ex })
      |> Net.modifyExchange ex (fun x => { x with ws := some ws, responseTimer := true })

/-- The request stream's `data` event. `buffered` is `ws.bufferedAmount` after the send. -/
def requestData (ex : ExchangeId) (chunk : Bytes) (buffered : Nat) (s : Gateway) : Gateway :=
  match s.net.exchanges.get ex with
  | some { ws := some ws, .. } =>
    if s.net.readyState ws ≠ .open_ then s
    else
      s.onNet (fun net =>
        let net := net.emit (.sendFrame ws { data := chunk, isBinary := true })
        if buffered > HIGH_WATER then
          net.modifyExchange ex (fun x => { x with requestDrains := x.requestDrains + 1 })
        else net)
  | _ => s

/-- A drain poll of the request direction. -/
def requestDrainPoll (ex : ExchangeId) (buffered : Nat) (s : Gateway) : Gateway :=
  match s.net.exchanges.get ex with
  | some { ws := some ws, requestDrains, .. } =>
    if requestDrains > 0 ∧ (buffered ≤ HIGH_WATER / 4 ∨ s.net.readyState ws ≠ .open_) then
      s.onNet (Net.modifyExchange ex (fun x => { x with requestDrains := x.requestDrains - 1 }))
    else s
  | _ => s

/-- The request stream's `end` event. -/
def requestEnd (ex : ExchangeId) (s : Gateway) : Gateway :=
  match s.net.exchanges.get ex with
  | some { ws := some ws, .. } =>
    if s.net.readyState ws = .open_ then s.onNet (Net.emit (.sendHttp ws .requestEnd)) else s
  | _ => s

/-- The status the gateway answers with: the backend's if it is one, otherwise 502. -/
def responseStatus (meta_ : JsonValue) : Nat :=
  match ((meta_.member "status").bind JsonValue.asNumber).bind JsNumber.toInt? with
  | some n => if 100 ≤ n ∧ n ≤ 599 then n.toNat else 502
  | none => 502

/-- The calls the response head makes on the response, in order. -/
def headCalls (headers : RequestHeaders) (meta_ : JsonValue) : List ResponseCall :=
  (filterProxyResponseHeaders (meta_.member "headers")).map (fun h => .setHeader h.1 h.2)
    ++ ((headers.values.get "x-request-id").map (ResponseCall.setHeader "x-request-id")).toList
    ++ [.status (responseStatus meta_), .write []]

/-- The first frame of a response that parses: its head. `null` has no `status` to read. -/
def responseHead (ex : ExchangeId) (request : ProxyRequest) (meta_ : JsonValue) (s : Gateway) : Gateway :=
  let s := s.onNet (Net.modifyExchange ex (fun x => { x with metaReceived := true }))
  match meta_ with
  | .null => s.throw .typeError
  | _ =>
    let s := (headCalls request.headers meta_).foldl (callResponse ex) s
    if s.uncaught.isSome then s else s.onNet (Net.modifyExchange ex (fun x => { x with idleTimer := true }))

/-- The `message` listener of the data socket of an HTTP channel. `writable` is what `res.write` returns. -/
def bridgeMessage (Γ : Ctx) (ws : SocketId) (channelId : String) (ex : ExchangeId) (frame : Frame) (writable : Bool)
    (s : Gateway) : Gateway :=
  match s.net.exchanges.get ex with
  | none => s
  | some x =>
    if !x.metaReceived then
      let s := s.onNet (Net.modifyExchange ex (fun x => { x with responseTimer := false }))
      if frame.isBinary then s.teardownChannel .closed channelId
      else
        match Γ.jsonParse frame.data with
        | none => s.teardownChannel .closed channelId
        | some meta_ => s.responseHead ex x.request meta_
    else if frame.isBinary then
      let s := s.onNet (Net.modifyExchange ex (fun x => { x with idleTimer := true }))
      let s := s.callResponse ex (.write frame.data)
      if writable then s
      else
        s.onNet (fun net =>
          (net.pause ws).modifyExchange ex (fun x => { x with responseDrains := x.responseDrains + 1 }))
    else s

/-- The response's `drain` event resumes the data socket. -/
def responseDrain (ex : ExchangeId) (s : Gateway) : Gateway :=
  match s.net.exchanges.get ex with
  | some { ws := some ws, responseDrains, .. } =>
    if responseDrains > 0 then
      s.onNet (fun net => (net.modifyExchange ex (fun x => { x with responseDrains := 0 })).resume ws)
    else s
  | _ => s

/-- The `close` listener of the data socket up to the teardown: normal completion ends the response. -/
def finishResponse (channelId : String) (ex : ExchangeId) (x : HttpExchange) (s : Gateway) : Gateway :=
  let s := s.onNet (Net.modifyExchange ex (fun x => { x with responseTimer := false, idleTimer := false }))
  if x.metaReceived then
    let s := if !x.writableEnded && !x.destroyed then s.onNet (Net.endResponse ex) else s
    s.onChannel channelId (fun ch => { ch with internalRes := none })
  else s

/-- The `close` listener of the data socket. -/
def bridgeClose (channelId : String) (ex : ExchangeId) (s : Gateway) : Gateway :=
  match s.net.exchanges.get ex with
  | none => s
  | some x => (s.finishResponse channelId ex x).teardownChannel .closed channelId

/-- The response timer fires. -/
def responseTimeoutFires (ex : ExchangeId) (s : Gateway) : Gateway :=
  match s.net.exchanges.get ex with
  | none => s
  | some x =>
    if x.responseTimer then
      (s.onNet (Net.modifyExchange ex (fun x => { x with responseTimer := false }))).teardownChannel .timeout x.channelId
    else s

/-- The idle timer fires. -/
def idleTimeoutFires (ex : ExchangeId) (s : Gateway) : Gateway :=
  match s.net.exchanges.get ex with
  | none => s
  | some x =>
    if x.idleTimer then
      (s.onNet (Net.modifyExchange ex (fun x => { x with idleTimer := false }))).teardownChannel .timeout x.channelId
    else s

/-- The response's `close` event, once: a client abort propagates end to end. -/
def responseClose (ex : ExchangeId) (s : Gateway) : Gateway :=
  match s.net.exchanges.get ex with
  | none => s
  | some x =>
    if x.closed then s
    else
      (s.onNet (Net.modifyExchange ex (fun x => { x with closed := true, destroyed := true }))).teardownChannel .closed
        x.channelId

/-! ## Dialing -/

/-- Put a dialed socket on its leg, held until the channel is wired. -/
def setLegSocket (role : ChannelRole) (ws : SocketId) (ch : ChannelRecord) : ChannelRecord :=
  match role with
  | .client => { ch with clientSocket := some ws }
  | .backend => { ch with backendSocket := some ws }

/-- Wire a channel that has all its legs, once. -/
def pairLegs (channelId : String) (ch : ChannelRecord) (s : Gateway) : Gateway :=
  match ch.onBackendSocket, ch.backendSocket, ch.clientSocket, ch.piped with
  | some ex, some b, _, false =>
    -- Internal HTTP channel: the gateway itself is the client end.
    s.onChannel channelId (fun ch => { ch with piped := true, pairingTimeout := false })
      |>.onNet (bridgeHttpChannel channelId ex b)
      |>.onNet (Net.resume b)
  | _, some b, some a, false =>
    (s.onChannel channelId (fun ch => { ch with pairingTimeout := false })).wireChannel channelId a b
  | _, _, _, _ => s

/-- The callback of `channelWss.handleUpgrade`. -/
def attachLeg (channelId : String) (role : ChannelRole) (s : Gateway) : Gateway :=
  let ws : SocketId := s.drawn
  let socket : WsSocket :=
    { readyState := .open_, paused := true, errorListener := false, listener := .none, replacedGrace := false }
  match s.channels.get channelId with
  | none => s
  | some ch =>
    s.onNet (fun net => { net with sockets := net.sockets.set ws socket }.emit (.attached channelId role ws))
      |>.onChannel channelId (setLegSocket role ws)
      |>.pairLegs channelId (setLegSocket role ws ch)

/-- A ticket is one-time. -/
def consumeTicket (token : String) (s : Gateway) : Gateway :=
  { s with channelTickets := s.channelTickets.delete token }

/-- A dial of `/channel/:channelId?ticket=...`. The ticket is consumed before any further check; `handshakeOk` is whether the
`ws` library accepts the request as a WebSocket handshake. -/
def handleChannelUpgrade (channelId : String) (ticket : Option String) (handshakeOk : Bool) (s : Gateway) : Gateway :=
  let token := ticket.getD ""
  let found := s.channelTickets.get token
  let s := s.consumeTicket token
  match found with
  | none => s.onNet (Net.emit .refused)
  | some ticket =>
    if channelId = "" ∨ s.channels.has channelId = false ∨ ticket.channelId ≠ channelId ∨ s.now > ticket.expiresAt then
      s.onNet (Net.emit .refused)
    else if !handshakeOk then s.onNet (Net.emit .refused)
    else s.attachLeg channelId ticket.role

end Gateway

end ZclaudiaGateway
