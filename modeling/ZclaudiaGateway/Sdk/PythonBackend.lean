import ZclaudiaGateway.Lib.Binary64
import ZclaudiaGateway.Lib.EventMachine
import ZclaudiaGateway.Sdk.Backend

/-!
# The Python backend

`packages/python/src/zclaudia_gateway/backend.py`: the connection of `GatewayBackend`. A coroutine of the SDK is a task with
the `await` it stands at; an event lets one `await` end and the task run on to the next one. Once a task is cancelled the next
thing it meets is `CancelledError`. The callers of `connect` are tasks too; a call of `close` is a list of steps of its own.

Offers, channels and raw messages have no place here. Handlers of the application do not raise.
-/

namespace ZclaudiaGateway

namespace Python

/-! ## Failures -/

/-- An `Exception` that ends an attempt. -/
inductive Failure where
  /-- `GatewayError`. -/
  | gateway (code message : String)
  /-- `_AttemptError`. -/
  | attempt (code : BackendErrorCode) (detail : String)
  /-- `OSError`, `ConnectionClosed` or `InvalidHandshake`. -/
  | link
  | other
deriving DecidableEq

/-- The member of `GATEWAY_ERROR_CODES`. -/
def knownCode (code : String) : Option GatewayErrorCode :=
  [.invalidMessage, .protocolVersionMismatch, .unauthorized, .backendOffline, .rateLimited].find?
    (fun known => known.text = code)

/-- `_describe_failure`. -/
def describeFailure (failure : Failure) (now : Nat) : BackendErrorInfo :=
  match failure with
  | .gateway code _ =>
    if code = "UNAUTHORIZED" then ⟨.authFailed, BackendErrorCode.authFailed.text, knownCode code, now⟩
    else match knownCode code with
      | some known => ⟨.gatewayRejected, "The gateway rejected the handshake (" ++ known.text ++ ").", some known, now⟩
      | none => ⟨.gatewayRejected, BackendErrorCode.gatewayRejected.text, none, now⟩
  | .attempt code _ => ⟨code, code.text, none, now⟩
  | .link => ⟨.gatewayUnreachable, BackendErrorCode.gatewayUnreachable.text, none, now⟩
  | .other => ⟨.connectFailed, BackendErrorCode.connectFailed.text, none, now⟩

/-! ## Options -/

/-- `ms / 1000.0`, unless `ms` is too large for a `float`. -/
def seconds (ms : Nat) : Option PyFloat := (PyFloat.ofInt ms).map (fun x => x.div 1000)

/-- What the constructor is given and what it makes of the two delays. -/
structure GatewayBackendOptions where
  credential : String
  exchangeEnrollment : Bool
  ns : String
  identity : PeerIdentity
  visible : Bool
  capabilities : List JsonValue
  backendProtocolVersion : JsNumber
  reconnect : Bool
  reconnectMinMs : Nat
  reconnectMaxMs : Nat
  reconnectMin : PyFloat
  reconnectMax : PyFloat
  reconnectMin_eq : seconds reconnectMinMs = some reconnectMin
  reconnectMax_eq : seconds reconnectMaxMs = some reconnectMax

/-! ## Tasks -/

/-- The coroutine that awaits `_establish`. -/
inductive Owner where
  | connect
  /-- `_connect_until_up`. -/
  | start
  /-- `_supervise`. -/
  | supervise
deriving DecidableEq

/-- A call of `_handshake`: its credential, whether that came from the cache, and whether it follows a refused one. -/
structure Handshake where
  credential : String
  cached : Bool
  second : Bool
deriving DecidableEq

/-- The exception gives the attempt another chance: the gateway no longer accepts the cached token. -/
def Handshake.again (call : Handshake) (failure : Failure) : Bool :=
  call.cached && !call.second && match failure with
    | .gateway code _ => decide (code = "UNAUTHORIZED")
    | _ => false

abbrev TaskId := Nat

/-- How a coroutine ends. -/
inductive Ended where
  | returned
  /-- With the exception of the attempt. -/
  | raised (failure : Failure)
  /-- With the `OverflowError` of `_next_backoff`. -/
  | overflow
  | cancelled
deriving DecidableEq

/-- The `await` a task stands at. -/
inductive Stage where
  /-- It has not begun. -/
  | created
  /-- The enrollment exchange. -/
  | resolving (second : Bool)
  /-- `ws_connect`. -/
  | opening (ws : SocketId) (call : Handshake)
  /-- `ws.send` of the hello. -/
  | greeting (ws : SocketId) (call : Handshake)
  /-- `_await_peer_ready`. -/
  | awaitingReady (ws : SocketId) (call : Handshake)
  /-- `ws.close` of a handshake that raises the failure, or `CancelledError`. -/
  | leaving (ws : SocketId) (call : Handshake) (failure : Option Failure)
  | sleeping (delay : PyFloat)
  /-- The reader of a socket. -/
  | reading (ws : Option SocketId) (reader : SocketId)
  | ended (how : Ended)
deriving DecidableEq

def Stage.done : Stage → Bool
  | .ended _ => true
  | _ => false

structure Task where
  owner : Owner
  stage : Stage
  cancelling : Bool
deriving DecidableEq

/-- A call of `close` awaits this. -/
inductive Closing where
  /-- `ws.close`. -/
  | socket (supervisor starter : Option TaskId)
  | tasks (supervisor starter : Option TaskId)
  /-- `channel.close` of the channels. -/
  | channels
deriving DecidableEq

/-! ## The backend -/

/-- The task of `_read_control`. -/
inductive Reader where
  | running
  | returned
  | cancelled
deriving DecidableEq

/-- A connection, with its `close_code`. -/
structure Link where
  readyState : WebSocketState
  closeCode : Option Nat
deriving DecidableEq

/-- `_access_token` and `_access_expires_at_ms`. -/
structure AccessToken where
  token : String
  expiresAt : Option ℤ
deriving DecidableEq

/-- `_access_token_fresh`. -/
def AccessToken.fresh (held : AccessToken) (now : Nat) : Bool :=
  match held.expiresAt with
  | none => true
  | some expiresAt => decide ((now : ℤ) < expiresAt - ACCESS_TOKEN_REFRESH_MARGIN_MS)

/-- What the enrollment exchange brings. -/
inductive Exchange where
  /-- `data.token`, and `data.expiresAt` if it is a number. -/
  | granted (token : String) (expiresAt : Option ℤ)
  /-- `data.expiresAt` is a number that `int` does not take. -/
  | badExpiry (token : String)
  | noToken
  | httpError (status : Nat)
  | notObject
  /-- The request or the decoding of its body raises something else. -/
  | raised (failure : Failure)

/-- What `_resolve_credential` returns or raises then. -/
def Exchange.outcome : Exchange → Except Failure String
  | .granted token _ => .ok token
  | .badExpiry _ => .error .other
  | .noToken => .error (.attempt .protocolError "Enrollment exchange returned no token")
  | .httpError status =>
    .error (.attempt (if status = 401 ∨ status = 403 then .authFailed else .gatewayUnreachable)
      ("Enrollment exchange failed: HTTP " ++ toString status))
  | .notObject => .error (.attempt .protocolError "Enrollment exchange returned a non-object body")
  | .raised failure => .error failure

inductive Output where
  | send (ws : SocketId) (message : PeerToGateway)
  /-- `connect` returns or raises. -/
  | connect (outcome : Except Failure (String × Nat))
  /-- `connect` or `start` raises `RuntimeError` at once. -/
  | refused

structure GatewayBackend where
  sockets : InsertionMap SocketId Link
  nextSocket : SocketId
  ws : Option SocketId
  tasks : InsertionMap TaskId Task
  nextTask : TaskId
  supervisorTask : Option TaskId
  startTask : Option TaskId
  readers : InsertionMap SocketId Reader
  readerTask : Option SocketId
  /-- The loops of `_heartbeat_loop` that run. -/
  heartbeats : List SocketId
  heartbeatTask : Option SocketId
  closings : List Closing
  backendId : String
  epoch : Nat
  isClosed : Bool
  /-- `_closed_event`, once there is one. -/
  closedEvent : Option Bool
  state : GatewayBackendState
  failure : Option BackendErrorInfo
  reconnectAttempt : Nat
  accessToken : Option AccessToken
  usedConnect : Bool
  usedStart : Bool
  now : Nat
  outbox : List Output

namespace GatewayBackend

def init : GatewayBackend :=
  { sockets := .empty
    nextSocket := 0
    ws := none
    tasks := .empty
    nextTask := 0
    supervisorTask := none
    startTask := none
    readers := .empty
    readerTask := none
    heartbeats := []
    heartbeatTask := none
    closings := []
    backendId := ""
    epoch := 0
    isClosed := false
    closedEvent := none
    state := .idle
    failure := none
    reconnectAttempt := 0
    accessToken := none
    usedConnect := false
    usedStart := false
    now := 0
    outbox := [] }

def emit (o : Output) (b : GatewayBackend) : GatewayBackend := { b with outbox := b.outbox ++ [o] }

def setState (state : GatewayBackendState) (b : GatewayBackend) : GatewayBackend := { b with state }

/-! ### Tasks and sockets -/

def createTask (owner : Owner) (b : GatewayBackend) : GatewayBackend :=
  { b with tasks := b.tasks.set b.nextTask ⟨owner, .created, false⟩, nextTask := b.nextTask + 1 }

def setStage (t : TaskId) (stage : Stage) (b : GatewayBackend) : GatewayBackend :=
  { b with tasks := b.tasks.modify t (fun task => { task with stage }) }

def endTask (t : TaskId) (how : Ended) : GatewayBackend → GatewayBackend := setStage t (.ended how)

/-- `task is not None and not task.done()`. -/
def running (task : Option TaskId) (b : GatewayBackend) : Bool :=
  match task.bind b.tasks.get with
  | some task => !task.stage.done
  | none => false

/-- `task.cancel()`: a reader that the task awaits is cancelled with it. -/
def cancelTask (task : Option TaskId) (b : GatewayBackend) : GatewayBackend :=
  match task with
  | none => b
  | some t =>
    match b.tasks.get t with
    | some { stage := .ended _, .. } | none => b
    | some { stage, .. } =>
      let b := { b with tasks := b.tasks.modify t (fun task => { task with cancelling := true }) }
      match stage with
      | .reading _ reader =>
        { b with readers := b.readers.modify reader (fun r => if r = .running then .cancelled else r) }
      | _ => b

/-- `ws.close()`. -/
def closeSocket (ws : SocketId) (b : GatewayBackend) : GatewayBackend :=
  { b with sockets := b.sockets.modify ws (fun k => { k with readyState := k.readyState.close }) }

def isOpen (ws : SocketId) (b : GatewayBackend) : Bool :=
  match b.sockets.get ws with
  | some { readyState := .open_, .. } => true
  | _ => false

/-! ### Attempts -/

/-- A late failure does not change what `close()` left. -/
def recordFailure (failure : Failure) (b : GatewayBackend) : GatewayBackend :=
  if b.isClosed then b else { b with failure := some (describeFailure failure b.now) }

/-- `_next_backoff`, or nothing when it raises `OverflowError`. -/
def nextBackoff (o : GatewayBackendOptions) (b : GatewayBackend) : Option (PyFloat × GatewayBackend) :=
  (PyFloat.ofInt (2 ^ b.reconnectAttempt)).map (fun factor =>
    ((o.reconnectMin.mul factor).min o.reconnectMax, { b with reconnectAttempt := b.reconnectAttempt + 1 }))

/-- `_handshake` begins. -/
def handshake (t : TaskId) (call : Handshake) (b : GatewayBackend) : GatewayBackend :=
  { b with
    sockets := b.sockets.set b.nextSocket ⟨.connecting, none⟩
    nextSocket := b.nextSocket + 1 }.setStage t (.opening b.nextSocket call)

/-- `_resolve_credential`, and the handshake at once when there is nothing to await. -/
def resolveCredential (o : GatewayBackendOptions) (t : TaskId) (second : Bool) (b : GatewayBackend) : GatewayBackend :=
  if !o.exchangeEnrollment || !o.credential.startsWith "zgb_" then b.handshake t ⟨o.credential, false, second⟩
  else match b.accessToken.filter (fun held => held.fresh b.now) with
    | some held => b.handshake t ⟨held.token, true, second⟩
    | none => { b with accessToken := none }.setStage t (.resolving second)

def establish (o : GatewayBackendOptions) (t : TaskId) (b : GatewayBackend) : GatewayBackend :=
  (b.setState .connecting).resolveCredential o t false

/-- `_establish` has raised. -/
def attemptFailed (o : GatewayBackendOptions) (t : TaskId) (owner : Owner) (failure : Failure) (b : GatewayBackend) :
    GatewayBackend :=
  let b := b.recordFailure failure
  match owner with
  | .connect => (b.endTask t (.raised failure)).emit (.connect (.error failure))
  | .start | .supervise =>
    match b.nextBackoff o with
    | some (delay, b) => b.setStage t (.sleeping delay)
    | none => b.endTask t .overflow

/-- `_handshake` has raised. -/
def handshakeFailed (o : GatewayBackendOptions) (t : TaskId) (owner : Owner) (call : Handshake) (failure : Failure)
    (b : GatewayBackend) : GatewayBackend :=
  if call.again failure then { b with accessToken := none }.resolveCredential o t true
  else b.attemptFailed o t owner failure

/-- `_handshake` gives its socket up. -/
def abandon (t : TaskId) (ws : SocketId) (call : Handshake) (failure : Option Failure) (b : GatewayBackend) : GatewayBackend :=
  ({ b with ws := none }.closeSocket ws).setStage t (.leaving ws call failure)

def hello (o : GatewayBackendOptions) (credential : String) : PeerHello :=
  { gatewaySecret := credential
    protocolVersion := .finite 4
    ns := o.ns
    peerType := .clientAndBackend
    identity := o.identity
    backend := some
      { visible := o.visible
        capabilities := o.capabilities
        backendProtocolVersion := o.backendProtocolVersion
        minClientProtocolVersion := none } }

/-! ### The loops -/

/-- The state becomes `closed` for good. -/
def standDown (t : TaskId) (b : GatewayBackend) : GatewayBackend :=
  { b.setState .closed with closedEvent := b.closedEvent.map (fun _ => true) }.endTask t .returned

/-- The loop of `_supervise` or `_connect_until_up` tries once more. -/
def retry (o : GatewayBackendOptions) (t : TaskId) (owner : Owner) (b : GatewayBackend) : GatewayBackend :=
  if b.isClosed then
    match owner with
    | .supervise => b.standDown t
    | _ => b.endTask t .returned
  else b.establish o t

/-- `_teardown_connection`. -/
def teardownConnection (b : GatewayBackend) : GatewayBackend :=
  { b with
    heartbeats := b.heartbeats.filter (fun ws => b.heartbeatTask ≠ some ws)
    heartbeatTask := none
    readerTask := none
    ws := none }

/-- The reader that `_supervise` awaited has returned. -/
def readerReturned (o : GatewayBackendOptions) (t : TaskId) (ws : Option SocketId) (b : GatewayBackend) : GatewayBackend :=
  let b := b.teardownConnection
  if !b.isClosed && (ws.bind b.sockets.get).bind Link.closeCode = some GATEWAY_CLOSE_BACKEND_REPLACED then
    -- Replaced, not dropped: the newer connection is not replaced back.
    { b with failure := some ⟨.replaced, BackendErrorCode.replaced.text, none, b.now⟩ }.standDown t
  else if b.isClosed || !o.reconnect then b.standDown t
  else (b.setState .connecting).retry o t .supervise

/-- The top of the loop of `_supervise`. -/
def supervise (o : GatewayBackendOptions) (t : TaskId) (b : GatewayBackend) : GatewayBackend :=
  match b.readerTask with
  | some reader => b.setStage t (.reading b.ws reader)
  | none => b.readerReturned o t b.ws

def createSupervisor (b : GatewayBackend) : GatewayBackend := { b.createTask .supervise with supervisorTask := some b.nextTask }

/-- `_establish` has returned. -/
def attemptSucceeded (o : GatewayBackendOptions) (t : TaskId) (owner : Owner) (b : GatewayBackend) : GatewayBackend :=
  match owner with
  | .connect =>
    (({ b with usedConnect := true }.createSupervisor).endTask t .returned).emit (.connect (.ok (b.backendId, b.epoch)))
  | .start => if b.isClosed then b.endTask t .returned else b.createSupervisor.endTask t .returned
  | .supervise => b.supervise o t

/-- The handshake has its `peer_ready`. -/
def connected (o : GatewayBackendOptions) (t : TaskId) (owner : Owner) (ws : SocketId) (grant : BackendGrant)
    (b : GatewayBackend) : GatewayBackend :=
  { b with
    backendId := grant.backendId
    epoch := grant.epoch
    readers := b.readers.set ws .running
    readerTask := some ws
    heartbeats := b.heartbeats ++ [ws]
    heartbeatTask := some ws
    reconnectAttempt := 0
    failure := none
    state := .connected }.attemptSucceeded o t owner

/-! ### Calls of the application -/

/-- What `connect` and `start` begin with. -/
def begin (b : GatewayBackend) : GatewayBackend :=
  { b with isClosed := false, closedEvent := some false, reconnectAttempt := 0, failure := none }

def connect (o : GatewayBackendOptions) (b : GatewayBackend) : GatewayBackend :=
  if b.usedStart then b.emit .refused
  else if b.ws.isSome || b.running b.supervisorTask then b.emit .refused
  else (b.begin.createTask .connect).establish o b.nextTask

def start (b : GatewayBackend) : GatewayBackend :=
  if b.usedConnect then b.emit .refused
  else if b.running b.startTask then b
  else if b.ws.isSome || b.running b.supervisorTask then b
  else { { b with usedStart := true }.begin.createTask .start with startTask := some b.nextTask }

/-- `close` after its first `await`: the heartbeat and the reader are cancelled. -/
def cancelLoops (b : GatewayBackend) : GatewayBackend :=
  { b with
    heartbeats := b.heartbeats.filter (fun ws => b.heartbeatTask ≠ some ws)
    readers := match b.readerTask with
      | some reader => b.readers.modify reader (fun r => if r = .running then .cancelled else r)
      | none => b.readers }

def close (b : GatewayBackend) : GatewayBackend :=
  let supervisor := b.supervisorTask
  let starter := b.startTask
  let b :=
    { b with
      isClosed := true
      closedEvent := b.closedEvent.map (fun _ => true)
      supervisorTask := none
      startTask := none }
  let b := (b.cancelTask supervisor).cancelTask starter
  match b.ws with
  | some ws =>
    let b := b.closeSocket ws
    { b with closings := b.closings ++ [.socket supervisor starter] }
  | none =>
    let b := b.cancelLoops
    { b with closings := b.closings ++ [.tasks supervisor starter] }

/-- A call of `close` goes on. -/
def closeGoesOn (i : Nat) (b : GatewayBackend) : GatewayBackend :=
  match b.closings[i]? with
  | some (.socket supervisor starter) =>
    let b := b.cancelLoops
    { b with closings := b.closings.set i (.tasks supervisor starter) }
  | some (.tasks supervisor starter) =>
    if b.running supervisor || b.running starter then b
    else { b with heartbeatTask := none, readerTask := none, ws := none, closings := b.closings.set i .channels }
  | some .channels => { b with closings := b.closings.eraseIdx i }.setState .closed
  | none => b

/-! ### The ends of an `await` -/

/-- `CancelledError` reaches the task. -/
def cancelled (t : TaskId) (b : GatewayBackend) : GatewayBackend :=
  match b.tasks.get t with
  | some { stage, cancelling := true, .. } =>
    let b := { b with tasks := b.tasks.modify t (fun task => { task with cancelling := false }) }
    match stage with
    | .opening ws _ => (b.closeSocket ws).endTask t .cancelled
    | .greeting ws call | .awaitingReady ws call => b.abandon t ws call none
    | .ended _ => b
    | _ => b.endTask t .cancelled
  | _ => b

/-- The enrollment exchange ends. -/
def exchanged (o : GatewayBackendOptions) (t : TaskId) (owner : Owner) (second : Bool) (exchange : Exchange)
    (b : GatewayBackend) : GatewayBackend :=
  -- The token is stored before its expiry is read.
  let b := match exchange with
    | .granted token expiresAt => { b with accessToken := some ⟨token, expiresAt⟩ }
    | .badExpiry token => { b with accessToken := some ⟨token, b.accessToken.bind AccessToken.expiresAt⟩ }
    | _ => b
  match exchange.outcome with
  | .ok token => b.handshake t ⟨token, false, second⟩
  | .error failure => b.attemptFailed o t owner failure

end GatewayBackend

/-- How the `await` of a task ends. -/
inductive Wake where
  /-- A created task begins. -/
  | begins
  | exchanged (exchange : Exchange)
  /-- `ws_connect` returns the connection or raises. -/
  | dialed (failure : Option Failure)
  | greeted (failure : Option Failure)
  /-- `_await_peer_ready` returns `peer_ready`. -/
  | ready (backend : Option BackendGrant)
  /-- It raises: a `gateway_error`, the timeout, the end of the connection. -/
  | refused (failure : Failure)
  /-- `ws.close` of a handshake ends. -/
  | left
  | slept
  | readerEnded

inductive BackendEvent where
  | connect
  | start
  | close
  /-- Time passes. -/
  | advance (ms : Nat)
  | wake (t : TaskId) (wake : Wake)
  | cancelled (t : TaskId)
  | closeGoesOn (i : Nat)
  /-- The connection closes. -/
  | dropped (ws : SocketId) (code : Nat)
  /-- `_read_control` returns. -/
  | readerReturns (ws : SocketId)
  /-- A heartbeat loop wakes up. -/
  | heartbeat (ws : SocketId)

namespace GatewayBackend

/-- The task runs on to its next `await`. -/
def woken (o : GatewayBackendOptions) (t : TaskId) (owner : Owner) (stage : Stage) (wake : Wake) (b : GatewayBackend) :
    GatewayBackend :=
  match stage, wake with
  | .created, .begins =>
    match owner with
    | .supervise => b.supervise o t
    | _ => b.retry o t owner
  | .resolving second, .exchanged exchange => b.exchanged o t owner second exchange
  | .opening ws call, .dialed none =>
    ({ b with
      sockets := b.sockets.modify ws (fun k => { k with readyState := .open_ })
      ws := some ws }.emit (.send ws (.hello (hello o call.credential)))).setStage t (.greeting ws call)
  | .opening ws call, .dialed (some failure) => (b.closeSocket ws).handshakeFailed o t owner call failure
  | .greeting ws call, .greeted none => b.setStage t (.awaitingReady ws call)
  | .greeting ws call, .greeted (some failure) => b.abandon t ws call (some failure)
  | .awaitingReady ws _, .ready (some grant) => b.connected o t owner ws grant
  | .awaitingReady ws call, .ready none =>
    b.abandon t ws call (some (.attempt .protocolError "Gateway did not assign a backend identity"))
  | .awaitingReady ws call, .refused failure => b.abandon t ws call (some failure)
  | .leaving _ call (some failure), .left => b.handshakeFailed o t owner call failure
  | .leaving _ _ none, .left => b.endTask t .cancelled
  | .sleeping _, .slept => b.retry o t owner
  | .reading ws reader, .readerEnded =>
    match b.readers.get reader with
    | some .returned => b.readerReturned o t ws
    | some .cancelled => b.endTask t .cancelled
    | _ => b
  | _, _ => b

/-- `ws_connect` gives up a connection that it does not return. -/
def dropped (ws : SocketId) (code : Nat) (b : GatewayBackend) : GatewayBackend :=
  { b with sockets := b.sockets.modify ws (fun k =>
      if k.readyState = .closed ∨ k.readyState = .connecting then k else ⟨.closed, some code⟩) }

/-- The reader ends when the connection has closed. -/
def readerReturns (ws : SocketId) (b : GatewayBackend) : GatewayBackend :=
  match b.sockets.get ws with
  | some { readyState := .closed, .. } =>
    { b with readers := b.readers.modify ws (fun r => if r = .running then .returned else r) }
  | _ => b

def heartbeat (ws : SocketId) (b : GatewayBackend) : GatewayBackend :=
  if ws ∈ b.heartbeats then
    if b.isOpen ws then b.emit (.send ws (.message (.backendHeartbeat (.finite b.epoch))))
    else { b with heartbeats := b.heartbeats.filter (· ≠ ws) }
  else b

def handle (o : GatewayBackendOptions) (e : BackendEvent) (b : GatewayBackend) : GatewayBackend :=
  match e with
  | .connect => b.connect o
  | .start => b.start
  | .close => b.close
  | .advance ms => { b with now := b.now + ms }
  | .wake t wake =>
    match b.tasks.get t with
    | some { owner, stage, cancelling := false } => b.woken o t owner stage wake
    | _ => b
  | .cancelled t => b.cancelled t
  | .closeGoesOn i => b.closeGoesOn i
  | .dropped ws code => b.dropped ws code
  | .readerReturns ws => b.readerReturns ws
  | .heartbeat ws => b.heartbeat ws

def quiet (b : GatewayBackend) : GatewayBackend := { b with outbox := [] }

def step (o : GatewayBackendOptions) (b : GatewayBackend) (e : BackendEvent) : GatewayBackend := b.quiet.handle o e

end GatewayBackend

/-- The backend as an event machine. -/
def backend (o : GatewayBackendOptions) : EventMachine GatewayBackend BackendEvent := ⟨.init, GatewayBackend.step o⟩

end Python

end ZclaudiaGateway
