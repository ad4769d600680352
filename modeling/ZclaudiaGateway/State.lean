import ZclaudiaGateway.PushNotification
import ZclaudiaGateway.Storage
import ZclaudiaGateway.Validation

/-!
# State

The gateway's state: `src/state.ts`, the tables `createGatewayServer` closes over, and what it holds of its sockets and of the
HTTP exchanges it proxies. A socket's record carries the variables its listeners close over; it keeps `readyState` and
`paused` as the `ws` library does. What the gateway hands to the network during one event is the `outbox`.

`Ctx` is what a run does not change: the configuration, the sources of random identifiers and the runtime's parsers.
-/

namespace ZclaudiaGateway

/-! ## Context -/

/-- A source of identifiers that never repeats a value. -/
structure IdSource where
  draw : Nat → String
  injective : Function.Injective draw
  nonempty : ∀ n, draw n ≠ ""

/-- What `new URL(target, 'http://localhost')` gives of a request target. -/
structure RequestUrl where
  pathname : String
  /-- `searchParams.get('ticket')`. -/
  ticket : Option String

/-- The resolved `GatewayConfig`. -/
structure Config where
  /-- The origins that may read across; `none` allows every origin. -/
  allowedOrigins : Option (List String) := none
  backendAccessTokenTtlMs : Option ℚ := none
  channelTicketTtlMs : Nat := 30000
  maxChannelsPerPeer : Nat := 32
  /-- Bytes a second and direction; `none` and `0` are unlimited. -/
  channelByteRateLimit : Option Nat := none
  proxyRateLimit : Nat := 1200
  /-- `0` disables the ceiling. -/
  proxyIpRateLimit : Nat := 0
  authFailRateLimit : Nat := 10
  defaultLeaseTtlMs : Nat := 30000
  notifications : NotificationConfig := {}

structure Ctx where
  config : Config
  /-- `uuidv4()`, for sessions. -/
  sessionIds : IdSource
  /-- `crypto.randomBytes(32).toString('hex')`, for recovery tokens. -/
  recoveryTokens : IdSource
  /-- `crypto.randomBytes(16).toString('hex')`, for channels. -/
  channelIds : IdSource
  /-- `crypto.randomBytes(24).toString('base64url')`, for tickets. -/
  tickets : IdSource
  /-- `crypto.randomUUID()`, for backend identities. -/
  backendIds : IdSource
  /-- `crypto.randomUUID()`, for credentials. -/
  credentialIds : IdSource
  /-- `crypto.randomBytes(32).toString('base64url')`, for token secrets. -/
  secrets : IdSource
  /-- The hex SHA-256 of a token. -/
  hashCredentialToken : String → String
  /-- The text of a number. -/
  numberToString : JsNumber → String
  /-- `JSON.parse(data.toString())`, `none` where it throws. -/
  jsonParse : Bytes → Option JsonValue
  /-- The call stack of the engine, where a message is handled. -/
  stack : JsonValue.CallStack
  /-- `new URL(target, 'http://localhost')`, `none` where it throws. -/
  newURL : String → Option RequestUrl
  /-- The WHATWG parser takes what follows `//` for a host, and a host may not be empty. -/
  newURL_slashes : newURL "//" = none

/-! ## Rate limits -/

structure RateEntry where
  count : Nat
  resetAt : Nat
deriving DecidableEq

abbrev RateMap := InsertionMap String RateEntry

/-- One attempt against a fixed window: whether it is within the limit, and the map after it. -/
def checkLimit (map : RateMap) (key : String) (limit window now : Nat) : Bool × RateMap :=
  match map.get key with
  | none => (true, map.set key { count := 1, resetAt := now + window })
  | some entry =>
    if now > entry.resetAt then (true, map.set key { count := 1, resetAt := now + window })
    else (decide (entry.count + 1 ≤ limit), map.modify key (fun e => { e with count := e.count + 1 }))

/-- `Retry-After` of a 429: the seconds left in the key's window, at least one. -/
def retryAfter (map : RateMap) (key : String) (windowMs now : Nat) : Nat :=
  match map.get key with
  | some entry => max 1 ((entry.resetAt - now + 999) / 1000)
  | none => (windowMs + 999) / 1000

def AUTH_FAIL_WINDOW : Nat := 60000

def PROXY_RATE_WINDOW : Nat := 60000

def MAX_WS_CONNECTIONS_PER_IP : Nat := 10

def MAX_RETAINED_TOPICS_PER_BACKEND : Nat := 64

/-- The send-buffer mark above which a sender is paused. -/
def HIGH_WATER : Nat := 4 * 1024 * 1024

/-! ## Peers, registry and leases -/

structure PeerSession where
  peerSessionId : String
  ws : SocketId
  protocolVersion : Nat
  peerType : PeerType
  ns : String
  credentialId : String
  /-- Device credential backend scope; `none` is the whole namespace. -/
  allowedBackends : Option (List String)
  deviceId : String
  instanceId : String
  channel : String
  name : String
  recoveryToken : String
  isAlive : Bool
  backendId : Option String
  epoch : Option Nat

structure BackendLease where
  backendId : String
  epoch : Nat
  peerSessionId : String
  leaseTtlMs : Nat
  lastHeartbeatAt : Nat
deriving DecidableEq

/-- `GatewayState`; `registry` is `registry.items`. -/
structure GatewayState where
  peers : InsertionMap String PeerSession
  registry : InsertionMap String BackendPresence
  leases : InsertionMap String BackendLease

namespace GatewayState

def empty : GatewayState := ⟨.empty, .empty, .empty⟩

def addPeer (peer : PeerSession) (st : GatewayState) : GatewayState :=
  { st with peers := st.peers.set peer.peerSessionId peer }

def removePeer (peerSessionId : String) (st : GatewayState) : GatewayState :=
  { st with peers := st.peers.delete peerSessionId }

def modifyPeer (peerSessionId : String) (f : PeerSession → PeerSession) (st : GatewayState) : GatewayState :=
  { st with peers := st.peers.modify peerSessionId f }

def registryUpsert (item : BackendPresence) (st : GatewayState) : GatewayState :=
  { st with registry := st.registry.set item.backendId item }

def registryRemove (backendId : String) (st : GatewayState) : GatewayState :=
  { st with registry := st.registry.delete backendId }

/-- The registry items of a namespace. -/
def getRegistrySnapshot (st : GatewayState) (ns : String) : List BackendPresence :=
  st.registry.values.filter (fun item => item.ns = ns)

def addLease (lease : BackendLease) (st : GatewayState) : GatewayState :=
  { st with leases := st.leases.set lease.backendId lease }

def removeLease (backendId : String) (st : GatewayState) : GatewayState :=
  { st with leases := st.leases.delete backendId }

/-- A heartbeat of a backend's owner. -/
def heartbeat (now : Nat) (backendId : String) (st : GatewayState) : GatewayState :=
  { st with
    leases := st.leases.modify backendId (fun lease => { lease with lastHeartbeatAt := now })
    registry := st.registry.modify backendId (fun item => { item with lastSeenAt := now }) }

/-- Remove a backend completely: its lease. The registry is up to the caller. -/
def removeBackend (backendId : String) (st : GatewayState) : GatewayState := st.removeLease backendId

end GatewayState

/-! ## Channels -/

inductive ChannelRole where
  | client
  | backend
deriving DecidableEq

structure ChannelRecord where
  channelId : String
  backendId : String
  epoch : Nat
  kind : Option String
  /-- The empty string for an internal channel. -/
  clientPeerSessionId : String
  backendPeerSessionId : String
  clientSocket : Option SocketId
  backendSocket : Option SocketId
  piped : Bool
  /-- Ticket tokens, kept so teardown can invalidate unused ones. -/
  ticketTokens : List String
  /-- The pairing timer is armed. -/
  pairingTimeout : Bool
  /-- Internal HTTP channel: the exchange `onBackendSocket` bridges to. -/
  onBackendSocket : Option ExchangeId
  /-- Internal HTTP channel: the exchange whose response teardown still has to answer. -/
  internalRes : Option ExchangeId
deriving DecidableEq

structure ChannelTicket where
  channelId : String
  role : ChannelRole
  expiresAt : Nat
deriving DecidableEq

/-! ## Sockets -/

inductive ReadyState where
  | open_
  | closing
  | closed
deriving DecidableEq

/-- What the listeners of a control socket close over. -/
structure ControlConn where
  ip : String
  peerSessionId : Option String
  /-- The authentication timer is armed. -/
  authTimeout : Bool
deriving DecidableEq

/-- What the listeners of a relayed leg close over: the other leg and this direction's token bucket. -/
structure RelayLeg where
  channelId : String
  dst : SocketId
  used : Nat
  resetAt : Nat
  /-- The times at which the rate timers will resume the leg. -/
  rateTimers : List Nat
  /-- The number of drain polls that will resume the leg. -/
  drains : Nat
deriving DecidableEq

/-- The listeners of a socket. -/
inductive Listener where
  /-- None yet: a refused control connection, a leg that waits to be paired. -/
  | none
  | control (conn : ControlConn)
  | relay (leg : RelayLeg)
  | bridge (channelId : String) (exchange : ExchangeId)
deriving DecidableEq

structure WsSocket where
  readyState : ReadyState
  paused : Bool
  /-- An `error` listener is attached. -/
  errorListener : Bool
  listener : Listener
  /-- The timer that terminates a replaced backend's socket is armed. -/
  replacedGrace : Bool
deriving DecidableEq

/-! ## Proxied exchanges -/

/-- The headers of an incoming request under their lower-case names; the HTTP parser delivers no value outside the grammar. -/
structure RequestHeaders where
  values : InsertionMap String String
  valid : ∀ name value, values.get name = some value → validHeaderValue value = true

/-- A request to `/api/proxy/:backendId/*`: `suffix` is `req.params[0]`, `url` the raw target. -/
structure ProxyRequest where
  ip : String
  method : String
  headers : RequestHeaders
  backendId : String
  suffix : String
  url : String

/-- A proxied request, its response, and the variables `bridgeHttpChannel` closes over. -/
structure HttpExchange where
  channelId : String
  request : ProxyRequest
  targetPath : String
  statusCode : Nat := 200
  /-- Response headers set so far, under lower-case names. -/
  headers : InsertionMap String String := .empty
  headersSent : Bool := false
  writableEnded : Bool := false
  destroyed : Bool := false
  /-- The response has emitted `close`. -/
  closed : Bool := false
  /-- The data socket, once bridged. -/
  ws : Option SocketId := none
  metaReceived : Bool := false
  responseTimer : Bool := false
  idleTimer : Bool := false
  /-- The number of drain polls that will resume the request stream. -/
  requestDrains : Nat := 0
  /-- The number of `drain` listeners that will resume the data socket. -/
  responseDrains : Nat := 0

/-! ## Output -/

/-- A backend that a pairing client may address. -/
structure DiscoveredBackend where
  backendId : String
  name : String
  online : Bool
  lastSeenAt : Option Nat
deriving DecidableEq

/-- How many credentials there are, by what the overview makes of their rows. -/
structure CredentialCounters where
  total : Nat
  active : Nat
  revoked : Nat
  expired : Nat
  byType : InsertionMap CredentialType Nat

/-- A session as the overview shows it. -/
structure PeerOverview where
  peerSessionId : String
  ns : String
  peerType : PeerType
  name : String
  deviceId : String
  protocolVersion : Nat
  backendId : Option String

/-- A backend identity as the admin API shows it. -/
structure BackendIdentityOverview where
  backendId : String
  ns : String
  name : String
  instanceId : String
  environment : String
  createdAt : Nat
  lastSeenAt : Option Nat
  lastCredentialId : Option String
  boundCredentials : Nat
  /-- Its epoch, and since when it has been connected. -/
  online : Option (Nat × Nat)

/-- What the admin API shows at a glance, less the uptime of the process. -/
structure AdminOverview where
  backends : Nat
  backendIdentities : Nat
  legacyBackendCredentials : Nat
  peers : List PeerOverview
  credentials : CredentialCounters

inductive HttpBody where
  | error (code message : String)
  | registry (items : List BackendPresence)
  | credential (record : CredentialRecord)
  | credentials (records : List CredentialRecord)
  | identities (items : List BackendIdentityOverview)
  | issued (record : CredentialRecord) (token : String)
  | accessToken (token : String) (expiresAt : Option ℚ) (ns : String)
  | revoked (revoked skipped : List String)
  | deleted (ids : List String)
  | discovered (items : List DiscoveredBackend)
  | overview (data : AdminOverview)
  | session (expiresAt : Nat)
  | null

/-- The answer to a request that is not proxied. -/
structure HttpReply where
  status : Nat
  retryAfter : Option Nat := none
  body : HttpBody

/-- A call on the response of a proxied exchange. -/
inductive ResponseCall where
  | setHeader (name value : String)
  | status (code : Nat)
  | write (data : Bytes)
deriving DecidableEq

/-- What the gateway does to the outside in the course of an event. -/
inductive Output where
  | send (ws : SocketId) (message : GatewayToPeer)
  | sendFrame (ws : SocketId) (frame : Frame)
  | sendHttp (ws : SocketId) (frame : HttpRequestFrame)
  | ping (ws : SocketId)
  | close (ws : SocketId) (code : Nat) (reason : String)
  | terminate (ws : SocketId)
  | pause (ws : SocketId)
  /-- A call on a response, whether or not it has an effect. -/
  | call (exchange : ExchangeId) (c : ResponseCall)
  /-- The head of a response is made out. Without a body it leaves with the end of the response. -/
  | head (exchange : ExchangeId) (status : Nat) (headers : List (String × String))
  /-- Body bytes go out. -/
  | body (exchange : ExchangeId) (data : Bytes)
  | endResponse (exchange : ExchangeId)
  | destroyResponse (exchange : ExchangeId)
  | reply (r : HttpReply)
  /-- The JSON answer of a proxied response, with which it ends. -/
  | replyProxy (exchange : ExchangeId) (r : HttpReply)
  | notified (request : NtfyRequest)
  /-- An upgrade request is handed to the control server. -/
  | upgraded (ws : SocketId)
  /-- An upgrade request is attached to a leg of a channel. -/
  | attached (channelId : String) (role : ChannelRole) (ws : SocketId)
  /-- An upgrade request is refused and its socket destroyed. -/
  | refused

/-- What ends the process when nothing catches it. -/
inductive JsError where
  /-- A `TypeError` of the language. -/
  | typeError
  /-- `new URL` on a target it cannot parse. -/
  | invalidUrl
  /-- `ERR_HTTP_HEADERS_SENT`. -/
  | headersSent
  /-- `ERR_INVALID_CHAR`: a header value outside the grammar. -/
  | invalidHeaderValue
  /-- `ERR_STREAM_WRITE_AFTER_END`. -/
  | writeAfterEnd
  /-- An `error` event without a listener. -/
  | unhandledErrorEvent
  /-- A rejected promise nobody handles. -/
  | unhandledRejection
deriving DecidableEq

/-- Sockets, exchanges and output. -/
structure Net where
  sockets : InsertionMap SocketId WsSocket
  exchanges : InsertionMap ExchangeId HttpExchange
  outbox : List Output

/-! ## The gateway -/

structure Gateway where
  storage : Storage
  state : GatewayState
  recoveryTokens : InsertionMap String String
  authFailures : RateMap
  proxyRequests : RateMap
  proxyIpRequests : RateMap
  wsConnectionsPerIp : InsertionMap String Nat
  channels : InsertionMap String ChannelRecord
  channelTickets : InsertionMap String ChannelTicket
  /-- backendId, topic, subscribing peerSessionIds. -/
  topicSubs : InsertionMap String (InsertionMap String (InsertionMap String Unit))
  /-- backendId, topic, last payload published with `retain`. -/
  retainedTopics : InsertionMap String (InsertionMap String JsonValue)
  net : Net
  /-- `Date.now()`. -/
  now : Nat
  /-- The number of events handled: the position in every source of identifiers. -/
  drawn : Nat
  /-- What ended the process. -/
  uncaught : Option JsError

/-- The gateway as it starts, on a store that may hold rows of an earlier process. -/
def Gateway.init (storage : Storage) : Gateway :=
  { storage
    state := .empty
    recoveryTokens := .empty
    authFailures := .empty
    proxyRequests := .empty
    proxyIpRequests := .empty
    wsConnectionsPerIp := .empty
    channels := .empty
    channelTickets := .empty
    topicSubs := .empty
    retainedTopics := .empty
    net := ⟨.empty, .empty, []⟩
    now := 0
    drawn := 0
    uncaught := none }

namespace Gateway

def onStorage (s : Gateway) (f : Storage → Storage) : Gateway := { s with storage := f s.storage }

def onState (s : Gateway) (f : GatewayState → GatewayState) : Gateway := { s with state := f s.state }

def onChannel (s : Gateway) (channelId : String) (f : ChannelRecord → ChannelRecord) : Gateway :=
  { s with channels := s.channels.modify channelId f }

/-- Apply an operation to the sockets and responses. -/
def onNet (s : Gateway) (f : Net → Net) : Gateway := { s with net := f s.net }

end Gateway

end ZclaudiaGateway
