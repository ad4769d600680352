import ZclaudiaGateway.Sdk.Client

/-!
# The backend SDK

`packages/backend/src`: `GatewayBackend` over the sockets its factory makes, in the manner of the client SDK. `establish` awaits
`resolveCredential` and then the handshake of a socket; the end of either reaches it in an event of its own (`resumeExchange`,
`resume`), so that several events may be dispatched before. An interval is named by the socket whose handshake started it.

A frame that is not text, not JSON or of a type the backend does not read is `none`. The taps of the application on the state
and on the raw messages see what happens and change nothing.
-/

namespace ZclaudiaGateway

/-! ## Failures -/

inductive BackendErrorCode where
  | authFailed
  | gatewayRejected
  | gatewayUnreachable
  | handshakeTimeout
  | protocolError
  | connectFailed
  | replaced
deriving DecidableEq

/-- `ERROR_MESSAGES`. -/
def BackendErrorCode.text : BackendErrorCode → String
  | authFailed => "The gateway refused the credential."
  | gatewayRejected => "The gateway rejected the handshake."
  | gatewayUnreachable => "The gateway could not be reached."
  | handshakeTimeout => "The gateway did not complete the handshake in time."
  | protocolError => "The gateway sent an unexpected handshake response."
  | connectFailed => "Connecting to the gateway failed."
  | replaced => "Another connection using the same backend credential replaced this one."

/-- The wire text of the code. The codes are those of `KNOWN_GATEWAY_ERROR_CODES`. -/
def GatewayErrorCode.text : GatewayErrorCode → String
  | invalidMessage => "INVALID_MESSAGE"
  | protocolVersionMismatch => "PROTOCOL_VERSION_MISMATCH"
  | unauthorized => "UNAUTHORIZED"
  | backendOffline => "BACKEND_OFFLINE"
  | rateLimited => "RATE_LIMITED"

/-- A failure of an attempt, with the text the callers of `connect` see. -/
structure AttemptError where
  code : BackendErrorCode
  message : String
  gatewayCode : Option GatewayErrorCode
deriving DecidableEq

/-- `GatewayBackend.lastError`. -/
structure BackendErrorInfo where
  code : BackendErrorCode
  message : String
  gatewayCode : Option GatewayErrorCode
  occurredAt : Nat
deriving DecidableEq

def describeFailure (error : AttemptError) (now : Nat) : BackendErrorInfo :=
  { code := error.code
    message := match error.code, error.gatewayCode with
      | .gatewayRejected, some gatewayCode => "The gateway rejected the handshake (" ++ gatewayCode.text ++ ")."
      | code, _ => code.text
    gatewayCode := error.gatewayCode
    occurredAt := now }

/-! ## Sockets -/

/-- Where an attempt on a control socket stands. -/
inductive BackendAttempt where
  /-- The promise of `open` is pending. -/
  | opening
  /-- It has resolved. -/
  | opened
  /-- The hello is sent; `ready` is pending and its timer armed. -/
  | awaitingReady
  /-- `ready` has resolved. -/
  | ready (backend : Option BackendGrant)
  /-- The listeners for offers and for the close are attached. -/
  | established
  /-- What is awaited has been rejected. -/
  | failed (error : AttemptError)
  /-- The rejection has reached `establish`. -/
  | ended

/-- The fields of `channel_offer` that `handleOffer` reads. -/
structure ChannelOffer where
  channelId : String
  kind : Option String
  sourcePeerSessionId : Option String
  ticket : String
  dataPath : String
deriving DecidableEq

structure ResolvedCredential where
  credential : String
  cached : Bool
deriving DecidableEq

/-- A call of `establish` with the credential of its attempt; `second` after a refused cached token. -/
structure Establish where
  trigger : Trigger
  second : Bool
  resolved : ResolvedCredential
deriving DecidableEq

inductive BackendSocketUse where
  | control (attempt : BackendAttempt) (call : Establish)
  | data (offer : ChannelOffer) (handler : HandlerId) (dial : Dial)

structure BackendSocket where
  readyState : WebSocketState
  use : BackendSocketUse

/-! ## The backend -/

inductive GatewayBackendState where
  | idle
  | connecting
  | connected
  | closed
deriving DecidableEq

/-- A call of `establish` that awaits `resolveCredential`. The outcome is there once the promise has settled. -/
structure Resolving where
  trigger : Trigger
  second : Bool
  outcome : Option (Except AttemptError ResolvedCredential)

/-- What the enrollment exchange brings. -/
inductive ExchangeResponse where
  /-- `fetch` throws. -/
  | unreachable (message : String)
  /-- The response is not `ok`. -/
  | refused (status : Nat)
  /-- `data.token` if it is a string, `data.expiresAt` if it is a number. -/
  | body (token : Option String) (expiresAt : Option JsNumber)

structure AccessToken where
  token : String
  expiresAt : Option JsNumber

def ACCESS_TOKEN_REFRESH_MARGIN_MS : Nat := 60000

/-- `held.expiresAt === null || Date.now() < held.expiresAt - ACCESS_TOKEN_REFRESH_MARGIN_MS`. -/
def AccessToken.usable (held : AccessToken) (now : Nat) : Bool :=
  match held.expiresAt with
  | none => true
  | some (.finite q) => decide ((now : ℚ) < q - ACCESS_TOKEN_REFRESH_MARGIN_MS)
  | some (.infinity negative) => !negative

/-- What the exchange yields, or throws. -/
def ExchangeResponse.accessToken : ExchangeResponse → Except AttemptError AccessToken
  | .unreachable message => .error ⟨.gatewayUnreachable, message, none⟩
  | .refused status =>
    .error
      { code := if status = 401 ∨ status = 403 then .authFailed else .gatewayUnreachable
        message := "Enrollment exchange failed: HTTP " ++ toString status
        gatewayCode := none }
  | .body token expiresAt =>
    match token with
    | none | some "" => .error ⟨.protocolError, "Enrollment exchange returned no token", none⟩
    | some token => .ok ⟨token, expiresAt⟩

structure GatewayBackendOptions where
  credential : String
  exchangeEnrollment : Bool
  ns : String
  identity : PeerIdentity
  visible : Bool
  capabilities : List JsonValue
  backendProtocolVersion : JsNumber
  reconnect : Bool
  reconnectMinMs : Nat
  reconnectMaxMs : Nat

/-- What the backend does to the outside in the course of an event. -/
inductive BackendOutput where
  /-- `send` of a socket is called and does not throw. -/
  | send (ws : SocketId) (message : PeerToGateway)
  /-- A handler of the application gets its channel. -/
  | channel (handler : HandlerId) (offer : ChannelOffer)
  /-- `connect` resolves or is rejected. -/
  | connect (outcome : Except AttemptError (String × Nat))

structure GatewayBackend where
  sockets : InsertionMap SocketId BackendSocket
  nextSocket : SocketId
  socket : Option SocketId
  /-- The calls of `establish` that await `resolveCredential`. -/
  exchanges : List Resolving
  backendId : String
  epoch : Nat
  /-- The intervals that run. -/
  heartbeatTimers : List SocketId
  heartbeatTimer : Option SocketId
  channelHandlers : InsertionMap String HandlerId
  defaultChannelHandler : Option HandlerId
  isClosed : Bool
  state : GatewayBackendState
  failure : Option BackendErrorInfo
  reconnectAttempt : Nat
  /-- The delays of the reconnect timers that are armed. -/
  reconnectTimers : List Nat
  accessToken : Option AccessToken
  now : Nat
  outbox : List BackendOutput

namespace GatewayBackend

def init : GatewayBackend :=
  { sockets := .empty
    nextSocket := 0
    socket := none
    exchanges := []
    backendId := ""
    epoch := 0
    heartbeatTimers := []
    heartbeatTimer := none
    channelHandlers := .empty
    defaultChannelHandler := none
    isClosed := false
    state := .idle
    failure := none
    reconnectAttempt := 0
    reconnectTimers := []
    accessToken := none
    now := 0
    outbox := [] }

def emit (o : BackendOutput) (b : GatewayBackend) : GatewayBackend := { b with outbox := b.outbox ++ [o] }

def setState (state : GatewayBackendState) (b : GatewayBackend) : GatewayBackend := { b with state }

/-! ## Operations on sockets -/

def onSocket (ws : SocketId) (f : BackendSocket → BackendSocket) (b : GatewayBackend) : GatewayBackend :=
  { b with sockets := b.sockets.modify ws f }

def setReadyState (ws : SocketId) (readyState : WebSocketState) : GatewayBackend → GatewayBackend :=
  onSocket ws (fun k => { k with readyState })

def setUse (ws : SocketId) (use : BackendSocketUse) : GatewayBackend → GatewayBackend := onSocket ws (fun k => { k with use })

/-- `socket.close()`. -/
def closeSocket (ws : SocketId) : GatewayBackend → GatewayBackend :=
  onSocket ws (fun k => { k with readyState := k.readyState.close })

/-- The factory makes a socket. -/
def create (use : BackendSocketUse) (b : GatewayBackend) : GatewayBackend :=
  { b with
    sockets := b.sockets.set b.nextSocket { readyState := .connecting, use }
    nextSocket := b.nextSocket + 1 }

/-- `socket.send(...)`: a socket that is not open yet throws. -/
def send (ws : SocketId) (message : PeerToGateway) (b : GatewayBackend) : GatewayBackend :=
  match b.sockets.get ws with
  | some { readyState := .connecting, .. } | none => b
  | _ => b.emit (.send ws message)

/-- `channel_reject` on the current socket. -/
def reject (offer : ChannelOffer) (b : GatewayBackend) : GatewayBackend :=
  match b.socket with
  | some ws => b.send ws (.message (.channelReject offer.channelId))
  | none => b

def clearHeartbeat (b : GatewayBackend) : GatewayBackend :=
  { b with
    heartbeatTimers := b.heartbeatTimers.filter (fun ws => b.heartbeatTimer ≠ some ws)
    heartbeatTimer := none }

/-! ## Credentials -/

/-- The credential for the next handshake, and whether it came from the cache. -/
def resolveCredential (o : GatewayBackendOptions) (trigger : Trigger) (second : Bool) (b : GatewayBackend) : GatewayBackend :=
  if !o.exchangeEnrollment || !o.credential.startsWith "zgb_" then
    { b with exchanges := b.exchanges ++ [⟨trigger, second, some (.ok ⟨o.credential, false⟩)⟩] }
  else match b.accessToken.filter (fun held => held.usable b.now) with
    | some held => { b with exchanges := b.exchanges ++ [⟨trigger, second, some (.ok ⟨held.token, true⟩)⟩] }
    | none => { b with accessToken := none, exchanges := b.exchanges ++ [⟨trigger, second, none⟩] }

/-- The exchange brings its response. -/
def exchanged (i : Nat) (response : ExchangeResponse) (b : GatewayBackend) : GatewayBackend :=
  match b.exchanges[i]? with
  | some { trigger, second, outcome := none } =>
    match response.accessToken with
    | .ok held =>
      { b with
        accessToken := some held
        exchanges := b.exchanges.set i ⟨trigger, second, some (.ok ⟨held.token, false⟩)⟩ }
    | .error error => { b with exchanges := b.exchanges.set i ⟨trigger, second, some (.error error)⟩ }
  | _ => b

/-! ## Connecting -/

def establish (o : GatewayBackendOptions) (trigger : Trigger) (b : GatewayBackend) : GatewayBackend :=
  (b.setState .connecting).resolveCredential o trigger false

def connect (o : GatewayBackendOptions) (b : GatewayBackend) : GatewayBackend :=
  { b with isClosed := false, failure := none }.establish o .connectCall

/-- A late failure does not change what `close()` left. -/
def recordFailure (error : AttemptError) (b : GatewayBackend) : GatewayBackend :=
  if b.isClosed then b else { b with failure := some (describeFailure error b.now) }

def scheduleReconnect (o : GatewayBackendOptions) (b : GatewayBackend) : GatewayBackend :=
  { b with
    reconnectTimers := b.reconnectTimers ++ [min (o.reconnectMinMs * 2 ^ b.reconnectAttempt) o.reconnectMaxMs]
    reconnectAttempt := b.reconnectAttempt + 1 }

/-- The reconnect timer at a position fires. -/
def reconnectTimer (o : GatewayBackendOptions) (i : Nat) (b : GatewayBackend) : GatewayBackend :=
  if i < b.reconnectTimers.length then
    let b := { b with reconnectTimers := b.reconnectTimers.eraseIdx i }
    if b.isClosed then b else b.establish o .reconnectTimer
  else b

/-- `establish` throws. -/
def establishFailed (o : GatewayBackendOptions) (trigger : Trigger) (error : AttemptError) (b : GatewayBackend) :
    GatewayBackend :=
  match trigger with
  | .connectCall => (b.recordFailure error).emit (.connect (.error error))
  | .reconnectTimer => (b.recordFailure error).scheduleReconnect o

def attempt (call : Establish) (b : GatewayBackend) : GatewayBackend :=
  { b.create (.control .opening call) with socket := some b.nextSocket }

/-- `resolveCredential` has settled and `establish` goes on. -/
def resumeExchange (o : GatewayBackendOptions) (i : Nat) (b : GatewayBackend) : GatewayBackend :=
  match b.exchanges[i]? with
  | some { trigger, second, outcome := some outcome } =>
    let b := { b with exchanges := b.exchanges.eraseIdx i }
    match outcome with
    | .ok resolved => b.attempt ⟨trigger, second, resolved⟩
    | .error error => b.establishFailed o trigger error
  | _ => b

/-- The handshake of the socket throws. -/
def attemptFailed (o : GatewayBackendOptions) (ws : SocketId) (call : Establish) (error : AttemptError)
    (b : GatewayBackend) : GatewayBackend :=
  let b := if b.socket = some ws then { b with socket := none } else b
  let b := (b.setUse ws (.control .ended call)).closeSocket ws
  if call.resolved.cached ∧ ¬ call.second ∧ error.gatewayCode = some .unauthorized then
    { b with accessToken := none }.resolveCredential o call.trigger true
  else b.establishFailed o call.trigger error

def hello (o : GatewayBackendOptions) (credential : String) : PeerHello :=
  { gatewaySecret := credential
    protocolVersion := .finite 4
    ns := o.ns
    peerType := .clientAndBackend
    identity := o.identity
    backend := some
      { visible := o.visible
        capabilities := o.capabilities
        backendProtocolVersion := o.backendProtocolVersion
        minClientProtocolVersion := none } }

/-- The handshake has its `peer_ready`. -/
def connected (ws : SocketId) (grant : BackendGrant) (call : Establish) (b : GatewayBackend) : GatewayBackend :=
  let b := { b.setUse ws (.control .established call) with
    backendId := grant.backendId
    epoch := grant.epoch
    heartbeatTimers := b.heartbeatTimers ++ [ws]
    heartbeatTimer := some ws
    reconnectAttempt := 0
    failure := none
    state := .connected }
  if call.trigger = .connectCall then b.emit (.connect (.ok (grant.backendId, grant.epoch))) else b

def handleClose (o : GatewayBackendOptions) (ws : SocketId) (code : Nat) (b : GatewayBackend) : GatewayBackend :=
  if b.socket ≠ some ws then b
  else
    let b := { b with socket := none }.clearHeartbeat
    if code = GATEWAY_CLOSE_BACKEND_REPLACED ∧ ¬ b.isClosed then
      -- Replaced, not dropped: the newer connection is not replaced back.
      { b with failure := some ⟨.replaced, BackendErrorCode.replaced.text, none, b.now⟩ }.setState .closed
    else if b.isClosed || !o.reconnect then b.setState .closed
    else (b.setState .connecting).scheduleReconnect o

def close (b : GatewayBackend) : GatewayBackend :=
  let b := { b with isClosed := true, state := .closed }.clearHeartbeat
  match b.socket with
  | some ws => { b.closeSocket ws with socket := none }
  | none => b

/-! ## Offers -/

/-- `(offer.kind && this.channelHandlers.get(offer.kind)) ?? this.defaultChannelHandler`: an empty kind has no handler. -/
def handlerFor (offer : ChannelOffer) (b : GatewayBackend) : Option HandlerId :=
  match offer.kind with
  | none => b.defaultChannelHandler
  | some kind => if kind = "" then none else (b.channelHandlers.get kind).or b.defaultChannelHandler

def handleOffer (offer : ChannelOffer) (b : GatewayBackend) : GatewayBackend :=
  if b.isClosed then b
  else match b.handlerFor offer with
    | some handler => b.create (.data offer handler .opening)
    | none => b.reject offer

/-! ## Events of a socket -/

/-- `open`. -/
def socketOpened (ws : SocketId) (b : GatewayBackend) : GatewayBackend :=
  match b.sockets.get ws with
  | some { readyState := .connecting, use } =>
    let b := b.setReadyState ws .open_
    match use with
    | .control .opening call => b.setUse ws (.control .opened call)
    | .data offer handler .opening => b.setUse ws (.data offer handler .opened)
    | _ => b
  | _ => b

/-- `error`: the socket closes. -/
def socketError (ws : SocketId) (b : GatewayBackend) : GatewayBackend :=
  match b.sockets.get ws with
  | some { readyState := .closed, .. } => b
  | some { use, .. } =>
    let b := b.closeSocket ws
    match use with
    | .control .opening call => b.setUse ws (.control (.failed ⟨.gatewayUnreachable, "WebSocket error", none⟩) call)
    | .data offer handler .opening => b.setUse ws (.data offer handler .failed)
    | _ => b
  | none => b

/-- The listener of `ready` reads what comes before `peer_ready`, the permanent one what comes once the handshake has gone
on. -/
def readMessage (ws : SocketId) (attempt : BackendAttempt) (call : Establish) (message : GatewayToPeer) (b : GatewayBackend) :
    GatewayBackend :=
  match attempt, message with
  | .awaitingReady, .peerReady _ _ _ backend _ => b.setUse ws (.control (.ready backend) call)
  | .awaitingReady, .gatewayError code text =>
    b.setUse ws (.control (.failed
      { code := if code = .unauthorized then .authFailed else .gatewayRejected
        message := code.text ++ ": " ++ text
        gatewayCode := some code }) call)
  | .established, .channelOffer channelId kind sourcePeerSessionId ticket dataPath =>
    b.handleOffer { channelId, kind, sourcePeerSessionId, ticket, dataPath }
  | _, _ => b

/-- `message`: a socket that closes may still deliver what was on its way. -/
def socketMessage (ws : SocketId) (message : Option GatewayToPeer) (b : GatewayBackend) : GatewayBackend :=
  match b.sockets.get ws, message with
  | some { readyState := .open_, use := .control attempt call }, some message
  | some { readyState := .closing, use := .control attempt call }, some message => b.readMessage ws attempt call message
  | _, _ => b

/-- `close`. Nothing listens while the handshake has `peer_ready` and has not gone on. -/
def socketClosed (o : GatewayBackendOptions) (ws : SocketId) (code : Nat) (b : GatewayBackend) : GatewayBackend :=
  match b.sockets.get ws with
  | some { readyState := .closed, .. } => b
  | some { use, .. } =>
    let b := b.setReadyState ws .closed
    match use with
    | .control .awaitingReady call =>
      b.setUse ws (.control (.failed ⟨.gatewayUnreachable, "Connection closed before peer_ready", none⟩) call)
    | .control .established _ => b.handleClose o ws code
    | _ => b
  | none => b

/-- The timer of `ready` fires. -/
def readyTimeout (ws : SocketId) (b : GatewayBackend) : GatewayBackend :=
  match b.sockets.get ws with
  | some { use := .control .awaitingReady call, .. } =>
    b.setUse ws (.control (.failed ⟨.handshakeTimeout, "peer_ready timeout", none⟩) call)
  | _ => b

/-- What follows an `await` of the handshake, or of the `dialChannel` that made the socket. -/
def resume (o : GatewayBackendOptions) (ws : SocketId) (b : GatewayBackend) : GatewayBackend :=
  match b.sockets.get ws with
  | some { use := .control .opened call, .. } =>
    (b.setUse ws (.control .awaitingReady call)).send ws (.hello (hello o call.resolved.credential))
  | some { use := .control (.ready none) call, .. } =>
    b.setUse ws (.control (.failed ⟨.protocolError, "Gateway did not assign a backend identity", none⟩) call)
  | some { use := .control (.ready (some grant)) call, .. } => b.connected ws grant call
  | some { use := .control (.failed error) call, .. } => b.attemptFailed o ws call error
  | some { use := .data offer handler .opened, .. } =>
    (b.setUse ws (.data offer handler .up)).emit (.channel handler offer)
  | some { use := .data offer handler .failed, .. } => (b.setUse ws (.data offer handler .ended)).reject offer
  | _ => b

/-- An interval fires. -/
def heartbeat (ws : SocketId) (b : GatewayBackend) : GatewayBackend :=
  if ws ∈ b.heartbeatTimers then
    match b.socket with
    | some current =>
      match b.sockets.get current with
      | some { readyState := .open_, .. } => b.send current (.message (.backendHeartbeat (.finite b.epoch)))
      | _ => b
    | none => b
  else b

/-! ## The event machine -/

end GatewayBackend

inductive BackendEvent where
  | connect
  | close
  | onChannel (kind : String) (handler : HandlerId)
  | onAnyChannel (handler : HandlerId)
  /-- Time passes. -/
  | advance (ms : Nat)
  | exchanged (i : Nat) (response : ExchangeResponse)
  | resumeExchange (i : Nat)
  | opened (ws : SocketId)
  | error (ws : SocketId)
  | message (ws : SocketId) (message : Option GatewayToPeer)
  | closed (ws : SocketId) (code : Nat)
  | readyTimeout (ws : SocketId)
  | resume (ws : SocketId)
  | reconnectTimer (i : Nat)
  | heartbeat (ws : SocketId)

namespace GatewayBackend

def handle (o : GatewayBackendOptions) (e : BackendEvent) (b : GatewayBackend) : GatewayBackend :=
  match e with
  | .connect => b.connect o
  | .close => b.close
  | .onChannel kind handler => { b with channelHandlers := b.channelHandlers.set kind handler }
  | .onAnyChannel handler => { b with defaultChannelHandler := some handler }
  | .advance ms => { b with now := b.now + ms }
  | .exchanged i response => b.exchanged i response
  | .resumeExchange i => b.resumeExchange o i
  | .opened ws => b.socketOpened ws
  | .error ws => b.socketError ws
  | .message ws message => b.socketMessage ws message
  | .closed ws code => b.socketClosed o ws code
  | .readyTimeout ws => b.readyTimeout ws
  | .resume ws => b.resume o ws
  | .reconnectTimer i => b.reconnectTimer o i
  | .heartbeat ws => b.heartbeat ws

def quiet (b : GatewayBackend) : GatewayBackend := { b with outbox := [] }

def step (o : GatewayBackendOptions) (b : GatewayBackend) (e : BackendEvent) : GatewayBackend := b.quiet.handle o e

end GatewayBackend

/-- The backend as an event machine. -/
def backend (o : GatewayBackendOptions) : EventMachine GatewayBackend BackendEvent := ⟨.init, GatewayBackend.step o⟩

end ZclaudiaGateway
