import Mathlib.Algebra.Ring.Nat
import ZclaudiaGateway.Lib.EventMachine
import ZclaudiaGateway.Protocol

/-!
# The client SDK

`packages/client/src`: `GatewayClient` over the sockets its factory makes. The event loop hands the client one event at a time;
what follows an `await` is an event of its own (`resume`, `runOp`, `resumeOp`), so that several events of a socket may be
dispatched before it. Handlers of the application run to their end and do not call the client back at once.

The URL of a socket is the factory's affair and has no place here. A frame that is not text, not JSON or of a type the client
does not read is `none`.
-/

namespace ZclaudiaGateway

/-! ## Sockets -/

/-- `readyState` of a WHATWG WebSocket. -/
inductive WebSocketState where
  | connecting
  | open_
  | closing
  | closed
deriving DecidableEq

/-- `close()`: a socket that is not open yet closes too. -/
def WebSocketState.close : WebSocketState → WebSocketState
  | .connecting | .open_ => .closing
  | s => s

/-- Who awaits an `establish`. -/
inductive Trigger where
  | connectCall
  | reconnectTimer
deriving DecidableEq

/-- Where the `establish` that made a socket stands. -/
inductive Attempt where
  /-- `waitForSocketOpen` is pending. -/
  | opening
  /-- It has resolved. -/
  | opened
  /-- The hello is sent; `ready` is pending and its timer armed. -/
  | awaitingReady
  /-- `ready` has resolved. -/
  | ready (peerSessionId : String) (items : List BackendPresence)
  /-- The events of the socket are routed. -/
  | established
  /-- What is awaited has been rejected. -/
  | failed
  /-- The rejection has reached whoever awaits. -/
  | ended

/-- Where the `dialChannel` that made a data socket stands. -/
inductive Dial where
  | opening
  | opened
  /-- The `GatewayChannel` exists. -/
  | up
  | failed
  | ended
deriving DecidableEq

inductive SocketUse where
  | control (attempt : Attempt) (trigger : Trigger)
  | data (target channelId : String) (dial : Dial)

structure ClientSocket where
  readyState : WebSocketState
  use : SocketUse

/-! ## Control operations -/

/-- A handler of the application, by its identity. -/
abbrev HandlerId := Nat

/-- The reply types a control operation may expect. -/
inductive ReplyType where
  | channelReady
  | topicSubscribed
  | topicUnsubscribed
deriving DecidableEq

def GatewayToPeer.replyType : GatewayToPeer → Option ReplyType
  | .channelReady _ _ _ => some .channelReady
  | .topicSubscribed _ _ => some .topicSubscribed
  | .topicUnsubscribed _ _ => some .topicUnsubscribed
  | _ => none

/-- The messages that answer requests. -/
def GatewayToPeer.isAnswer (message : GatewayToPeer) : Bool :=
  message.replyType.isSome || match message with
    | .gatewayError _ _ => true
    | _ => false

/-- Who called `controlOp`. -/
inductive OpCaller where
  | openChannel (target : String) (kind : Option String)
  | subscribeTopic (backendId topic : String) (handler : HandlerId)
  | unsubscribe (backendId topic : String)
  /-- `resubscribeTopics` of an `establish`, at the entry of `topicHandlers` with that stamp. -/
  | resubscribeTopics (trigger : Trigger) (stamp : Nat) (backendId topic : String)
deriving DecidableEq

namespace OpCaller

def request : OpCaller → GatewayMessage
  | openChannel target kind => .channelOpen target kind
  | subscribeTopic backendId topic _ => .topicSubscribe backendId topic
  | unsubscribe backendId topic => .topicUnsubscribe backendId topic
  | resubscribeTopics _ _ backendId topic => .topicSubscribe backendId topic

def expect : OpCaller → ReplyType
  | openChannel _ _ => .channelReady
  | subscribeTopic _ _ _ => .topicSubscribed
  | unsubscribe _ _ => .topicUnsubscribed
  | resubscribeTopics _ _ _ _ => .topicSubscribed

end OpCaller

/-- A call of `controlOp`, by its number. -/
structure ControlOp where
  id : Nat
  caller : OpCaller
deriving DecidableEq

inductive OpError where
  | notConnected
  /-- `send` on a socket that is still connecting throws. -/
  | invalidState
  | timeout
  | connectionClosed
  | gateway (code : GatewayErrorCode) (message : String)
deriving DecidableEq

/-- How the promise of a control operation settles. -/
inductive OpOutcome where
  | resolved (reply : GatewayToPeer)
  | rejected (error : OpError)

/-! ## The client -/

inductive GatewayClientState where
  | idle
  | connecting
  | connected
  | closed
deriving DecidableEq

/-- A value of `topicHandlers`, stamped in the order in which the keys were inserted. -/
structure TopicHandlers where
  stamp : Nat
  handlers : List HandlerId
deriving DecidableEq

inductive PeerToGateway where
  | hello (hello : PeerHello)
  | message (message : GatewayMessage)

/-- What the client does to the outside in the course of an event. -/
inductive ClientOutput where
  | send (ws : SocketId) (message : PeerToGateway)
  | deliver (handler : HandlerId) (payload : Option JsonValue)
  | settle (op : ControlOp) (outcome : OpOutcome)
  /-- `openChannel` resolves. -/
  | channel (target channelId : String)
  /-- `connect` resolves or is rejected. -/
  | connect (resolved : Bool)

structure GatewayClientOptions where
  credential : String
  ns : String
  identity : PeerIdentity
  reconnect : Bool
  reconnectMinMs : Nat
  reconnectMaxMs : Nat

structure GatewayClient where
  sockets : InsertionMap SocketId ClientSocket
  nextSocket : SocketId
  socket : Option SocketId
  state : GatewayClientState
  peerSessionId : String
  registryItems : List BackendPresence
  reconnectAttempt : Nat
  userClosed : Bool
  /-- The delays of the reconnect timers that are armed. -/
  reconnectTimers : List Nat
  /-- The calls of `controlOp` whose `run` has not been called. -/
  opQueue : List ControlOp
  nextOp : Nat
  pendingOp : Option ControlOp
  /-- The operation whose promise `run` returned and that has not settled. -/
  runningOp : Option ControlOp
  /-- The operation that has settled and whose caller has not gone on. -/
  settledOp : Option (ControlOp × OpOutcome)
  /-- The operations whose timer is armed. -/
  opTimers : List ControlOp
  topicHandlers : InsertionMap String TopicHandlers
  nextStamp : Nat
  /-- channelId, data socket. -/
  channels : InsertionMap String SocketId
  outbox : List ClientOutput

namespace GatewayClient

def init : GatewayClient :=
  { sockets := .empty
    nextSocket := 0
    socket := none
    state := .idle
    peerSessionId := ""
    registryItems := []
    reconnectAttempt := 0
    userClosed := false
    reconnectTimers := []
    opQueue := []
    nextOp := 0
    pendingOp := none
    runningOp := none
    settledOp := none
    opTimers := []
    topicHandlers := .empty
    nextStamp := 0
    channels := .empty
    outbox := [] }

def emit (o : ClientOutput) (c : GatewayClient) : GatewayClient := { c with outbox := c.outbox ++ [o] }

def setState (state : GatewayClientState) (c : GatewayClient) : GatewayClient := { c with state }

/-! ## Operations on sockets -/

def onSocket (ws : SocketId) (f : ClientSocket → ClientSocket) (c : GatewayClient) : GatewayClient :=
  { c with sockets := c.sockets.modify ws f }

def setReadyState (ws : SocketId) (readyState : WebSocketState) : GatewayClient → GatewayClient :=
  onSocket ws (fun k => { k with readyState })

def setAttempt (ws : SocketId) (attempt : Attempt) (trigger : Trigger) : GatewayClient → GatewayClient :=
  onSocket ws (fun k => { k with use := .control attempt trigger })

def setDial (ws : SocketId) (target channelId : String) (dial : Dial) : GatewayClient → GatewayClient :=
  onSocket ws (fun k => { k with use := .data target channelId dial })

/-- `socket.close(1000)`. -/
def closeSocket (ws : SocketId) : GatewayClient → GatewayClient :=
  onSocket ws (fun k => { k with readyState := k.readyState.close })

/-- The factory makes a socket. -/
def create (use : SocketUse) (c : GatewayClient) : GatewayClient :=
  { c with
    sockets := c.sockets.set c.nextSocket { readyState := .connecting, use }
    nextSocket := c.nextSocket + 1 }

/-- `socket.send(...)`: a socket that closes drops the frame. -/
def send (ws : SocketId) (message : PeerToGateway) (c : GatewayClient) : GatewayClient :=
  match c.sockets.get ws with
  | some { readyState := .open_, .. } => c.emit (.send ws message)
  | _ => c

def closeChannels (c : GatewayClient) : GatewayClient :=
  { c.channels.values.foldl (fun c ws => c.closeSocket ws) c with channels := .empty }

/-! ## Control operations -/

/-- The promise of an operation settles, unless it has. -/
def settleOp (op : ControlOp) (outcome : OpOutcome) (c : GatewayClient) : GatewayClient :=
  let c := { c with opTimers := c.opTimers.filter (· ≠ op) }
  if c.runningOp = some op then
    { c with runningOp := none, settledOp := some (op, outcome) }.emit (.settle op outcome)
  else c

def settlePending (type : ReplyType) (reply : GatewayToPeer) (c : GatewayClient) : GatewayClient :=
  match c.pendingOp with
  | some op => if op.caller.expect = type then { c with pendingOp := none }.settleOp op (.resolved reply) else c
  | none => c

def failPending (error : OpError) (c : GatewayClient) : GatewayClient :=
  match c.pendingOp with
  | some op => { c with pendingOp := none }.settleOp op (.rejected error)
  | none => c

def controlOp (caller : OpCaller) (c : GatewayClient) : GatewayClient :=
  { c with opQueue := c.opQueue ++ [⟨c.nextOp, caller⟩], nextOp := c.nextOp + 1 }

/-- `run` of the operation at the head of the queue. It is called once the operation before it has settled, and what awaited
that one goes on first. -/
def runOp (c : GatewayClient) : GatewayClient :=
  match c.opQueue, c.runningOp, c.settledOp with
  | op :: rest, none, none =>
    let c := { c with opQueue := rest, runningOp := some op }
    match c.socket with
    | some ws =>
      if c.state ≠ .connected then c.settleOp op (.rejected .notConnected)
      else
        let c := { c with pendingOp := some op, opTimers := c.opTimers ++ [op] }
        match c.sockets.get ws with
        | some { readyState := .connecting, .. } =>
          -- The promise is rejected by the exception; the slot and the timer stay.
          { c with runningOp := none, settledOp := some (op, .rejected .invalidState) }.emit
            (.settle op (.rejected .invalidState))
        | _ => c.send ws (.message op.caller.request)
    | none => c.settleOp op (.rejected .notConnected)
  | _, _, _ => c

/-- The timer of an operation fires. -/
def opTimeout (op : ControlOp) (c : GatewayClient) : GatewayClient :=
  if op ∈ c.opTimers then
    let c := if c.pendingOp = some op then { c with pendingOp := none } else c
    c.settleOp op (.rejected .timeout)
  else c

/-! ## Topics -/

def topicKey (backendId topic : String) : String := backendId ++ "\x1f" ++ topic

/-- The first two parts of `key.split('\x1f')`; a key has a separator. -/
def splitKey (key : String) : String × String :=
  let parts := key.toList.span (· ≠ '\x1f')
  (String.ofList parts.1, String.ofList ((parts.2.drop 1).takeWhile (· ≠ '\x1f')))

def addHandler (backendId topic : String) (handler : HandlerId) (c : GatewayClient) : GatewayClient :=
  let key := topicKey backendId topic
  match c.topicHandlers.get key with
  | some entry =>
    if handler ∈ entry.handlers then c
    else { c with topicHandlers := c.topicHandlers.set key { entry with handlers := entry.handlers ++ [handler] } }
  | none =>
    { c with
      topicHandlers := c.topicHandlers.set key { stamp := c.nextStamp, handlers := [handler] }
      nextStamp := c.nextStamp + 1 }

/-- What `subscribeTopic` returns is called. -/
def unsubscribe (backendId topic : String) (handler : HandlerId) (c : GatewayClient) : GatewayClient :=
  let key := topicKey backendId topic
  match c.topicHandlers.get key with
  | some entry =>
    let handlers := entry.handlers.filter (· ≠ handler)
    if handlers = [] then
      { c with topicHandlers := c.topicHandlers.delete key }.controlOp (.unsubscribe backendId topic)
    else { c with topicHandlers := c.topicHandlers.set key { entry with handlers } }
  | none => c

/-- `resubscribeTopics` goes to the next key of `topicHandlers`: the iterator of a `Map` sees the entries added behind it and
skips the entries deleted ahead of it. `establish` ends with the last one. -/
def resubscribeFrom (trigger : Trigger) (stamp : Nat) (c : GatewayClient) : GatewayClient :=
  match c.topicHandlers.entries.find? (fun p => stamp ≤ p.2.stamp) with
  | some (key, entry) =>
    c.controlOp (.resubscribeTopics trigger entry.stamp (splitKey key).1 (splitKey key).2)
  | none => if trigger = .connectCall then c.emit (.connect true) else c

/-! ## Connecting -/

def establish (trigger : Trigger) (c : GatewayClient) : GatewayClient :=
  let c := c.setState .connecting
  { c.create (.control .opening trigger) with socket := some c.nextSocket }

def connect (c : GatewayClient) : GatewayClient :=
  if c.state = .connected ∨ c.state = .connecting then c.emit (.connect true)
  else { c with userClosed := false }.establish .connectCall

def scheduleReconnect (o : GatewayClientOptions) (c : GatewayClient) : GatewayClient :=
  { c with
    reconnectTimers := c.reconnectTimers ++ [min (o.reconnectMinMs * 2 ^ c.reconnectAttempt) o.reconnectMaxMs]
    reconnectAttempt := c.reconnectAttempt + 1 }

/-- The reconnect timer at a position fires. -/
def reconnectTimer (i : Nat) (c : GatewayClient) : GatewayClient :=
  if i < c.reconnectTimers.length then
    let c := { c with reconnectTimers := c.reconnectTimers.eraseIdx i }
    if c.userClosed then c else c.establish .reconnectTimer
  else c

def handleClose (o : GatewayClientOptions) (c : GatewayClient) : GatewayClient :=
  let wasConnected := c.state = .connected
  let c := ({ c with socket := none }.failPending .connectionClosed).closeChannels
  if c.userClosed || !o.reconnect then c.setState .closed
  else if wasConnected ∨ c.state = .connecting then (c.setState .connecting).scheduleReconnect o
  else c

def close (c : GatewayClient) : GatewayClient :=
  let c := { (c.setState .closed) with userClosed := true }.closeChannels
  match c.socket with
  | some ws => { c.closeSocket ws with socket := none }
  | none => c

def GatewayClientOptions.hello (o : GatewayClientOptions) : PeerHello :=
  { gatewaySecret := o.credential
    protocolVersion := .finite 4
    ns := o.ns
    peerType := .clientOnly
    identity := o.identity
    backend := none }

/-! ## Messages -/

def routeMessage (message : GatewayToPeer) (c : GatewayClient) : GatewayClient :=
  match message with
  | .registrySnapshot items => { c with registryItems := items }
  | .topicMessage backendId topic payload =>
    match c.topicHandlers.get (topicKey backendId topic) with
    | some entry => entry.handlers.foldl (fun c handler => c.emit (.deliver handler payload)) c
    | none => c
  | .channelClosed channelId _ =>
    match c.channels.get channelId with
    | some ws => { c with channels := c.channels.delete channelId }.closeSocket ws
    | none => c
  | .channelReady _ _ _ => c.settlePending .channelReady message
  | .topicSubscribed _ _ => c.settlePending .topicSubscribed message
  | .topicUnsubscribed _ _ => c.settlePending .topicUnsubscribed message
  | .gatewayError code text => c.failPending (.gateway code text)
  | _ => c

/-! ## Events of a socket -/

/-- `open`. -/
def socketOpened (ws : SocketId) (c : GatewayClient) : GatewayClient :=
  match c.sockets.get ws with
  | some { readyState := .connecting, use } =>
    let c := c.setReadyState ws .open_
    match use with
    | .control .opening trigger => c.setAttempt ws .opened trigger
    | .data target channelId .opening => c.setDial ws target channelId .opened
    | _ => c
  | _ => c

/-- `error`: the socket closes. -/
def socketError (ws : SocketId) (c : GatewayClient) : GatewayClient :=
  match c.sockets.get ws with
  | some { readyState := .closed, .. } => c
  | some { use, .. } =>
    let c := c.closeSocket ws
    match use with
    | .control .opening trigger => c.setAttempt ws .failed trigger
    | .data target channelId .opening => c.setDial ws target channelId .failed
    | _ => c
  | none => c

/-- `message`: a socket that closes may still deliver what was on its way. -/
def socketMessage (ws : SocketId) (message : Option GatewayToPeer) (c : GatewayClient) : GatewayClient :=
  match c.sockets.get ws, message with
  | some { readyState := .open_, use := .control attempt trigger }, some message
  | some { readyState := .closing, use := .control attempt trigger }, some message =>
    match attempt, message with
    | .awaitingReady, .peerReady _ peerSessionId _ _ items => c.setAttempt ws (.ready peerSessionId items) trigger
    | .awaitingReady, .gatewayError _ _ => c.setAttempt ws .failed trigger
    | .established, message => c.routeMessage message
    | _, _ => c
  | _, _ => c

/-- `close`. -/
def socketClosed (o : GatewayClientOptions) (ws : SocketId) (c : GatewayClient) : GatewayClient :=
  match c.sockets.get ws with
  | some { readyState := .closed, .. } => c
  | some { use, .. } =>
    let c := c.setReadyState ws .closed
    match use with
    | .control .established _ => c.handleClose o
    | .data _ channelId .up => { c with channels := c.channels.delete channelId }
    | _ => c
  | none => c

/-- The timer of `ready` fires. -/
def readyTimeout (ws : SocketId) (c : GatewayClient) : GatewayClient :=
  match c.sockets.get ws with
  | some { use := .control .awaitingReady trigger, .. } => c.setAttempt ws .failed trigger
  | _ => c

/-- What follows an `await` of the `establish` or the `dialChannel` that made the socket. -/
def resume (o : GatewayClientOptions) (ws : SocketId) (c : GatewayClient) : GatewayClient :=
  match c.sockets.get ws with
  | some { use := .control .opened trigger, .. } =>
    (c.setAttempt ws .awaitingReady trigger).send ws (.hello (GatewayClientOptions.hello o))
  | some { use := .control (.ready peerSessionId items) trigger, .. } =>
    { c.setAttempt ws .established trigger with
      peerSessionId
      registryItems := items
      reconnectAttempt := 0
      state := .connected }.resubscribeFrom trigger 0
  | some { use := .control .failed trigger, .. } =>
    let c := c.setAttempt ws .ended trigger
    match trigger with
    | .connectCall => c.emit (.connect false)
    | .reconnectTimer => c.scheduleReconnect o
  | some { use := .data target channelId .opened, .. } =>
    { c.setDial ws target channelId .up with channels := c.channels.set channelId ws }.emit (.channel target channelId)
  | some { use := .data target channelId .failed, .. } => c.setDial ws target channelId .ended
  | _ => c

/-- The caller of the settled operation goes on. -/
def resumeOp (c : GatewayClient) : GatewayClient :=
  match c.settledOp with
  | some (op, outcome) =>
    let c := { c with settledOp := none }
    match op.caller, outcome with
    | .openChannel target _, .resolved (.channelReady channelId _ _) => c.create (.data target channelId .opening)
    | .subscribeTopic backendId topic handler, .resolved _ => c.addHandler backendId topic handler
    | .resubscribeTopics trigger stamp _ _, _ => c.resubscribeFrom trigger (stamp + 1)
    | _, _ => c
  | none => c

/-! ## The event machine -/

end GatewayClient

inductive ClientEvent where
  | connect
  | close
  | openChannel (target : String) (kind : Option String)
  | subscribeTopic (backendId topic : String) (handler : HandlerId)
  | unsubscribe (backendId topic : String) (handler : HandlerId)
  | opened (ws : SocketId)
  | error (ws : SocketId)
  | message (ws : SocketId) (message : Option GatewayToPeer)
  | closed (ws : SocketId)
  | readyTimeout (ws : SocketId)
  | resume (ws : SocketId)
  | reconnectTimer (i : Nat)
  | runOp
  | opTimeout (op : ControlOp)
  | resumeOp

namespace GatewayClient

def handle (o : GatewayClientOptions) (e : ClientEvent) (c : GatewayClient) : GatewayClient :=
  match e with
  | .connect => c.connect
  | .close => c.close
  | .openChannel target kind => c.controlOp (.openChannel target kind)
  | .subscribeTopic backendId topic handler => c.controlOp (.subscribeTopic backendId topic handler)
  | .unsubscribe backendId topic handler => c.unsubscribe backendId topic handler
  | .opened ws => c.socketOpened ws
  | .error ws => c.socketError ws
  | .message ws message => c.socketMessage ws message
  | .closed ws => c.socketClosed o ws
  | .readyTimeout ws => c.readyTimeout ws
  | .resume ws => c.resume o ws
  | .reconnectTimer i => c.reconnectTimer i
  | .runOp => c.runOp
  | .opTimeout op => c.opTimeout op
  | .resumeOp => c.resumeOp

def quiet (c : GatewayClient) : GatewayClient := { c with outbox := [] }

def step (o : GatewayClientOptions) (c : GatewayClient) (e : ClientEvent) : GatewayClient := c.quiet.handle o e

end GatewayClient

/-- The client as an event machine. -/
def client (o : GatewayClientOptions) : EventMachine GatewayClient ClientEvent := ⟨.init, GatewayClient.step o⟩

end ZclaudiaGateway
