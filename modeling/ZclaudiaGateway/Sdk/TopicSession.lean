import ZclaudiaGateway.Sdk.Client
import ZclaudiaGateway.Server

/-!
# One topic over one connection

A client that subscribes to a topic and unsubscribes from it, and the gateway at the other end of its connection. What either
sends is on its way until the other reads it, in the order it was sent. The socket dispatches one message at a time and may
dispatch several before what awaits the first goes on.
-/

namespace ZclaudiaGateway

/-- A topic and the connection a client subscribes to it over. The texts are those `JSON.stringify` makes of the two requests. -/
structure TopicLink where
  Γ : Ctx
  options : GatewayClientOptions
  /-- The client's end of the connection. -/
  ws : SocketId
  /-- The gateway's end. -/
  gatewaySocket : SocketId
  peerSessionId : String
  backendId : String
  topic : String
  subscribeText : Bytes
  unsubscribeText : Bytes
  backendId_ne : backendId ≠ ""
  topic_ne : topic ≠ ""
  subscribe_parses : Γ.jsonParse subscribeText =
    some (.obj [("type", .str "topic_subscribe"), ("backendId", .str backendId), ("topic", .str topic)])
  unsubscribe_parses : Γ.jsonParse unsubscribeText =
    some (.obj [("type", .str "topic_unsubscribe"), ("backendId", .str backendId), ("topic", .str topic)])

namespace TopicLink

def subscribe (l : TopicLink) (handler : HandlerId) : OpCaller := .subscribeTopic l.backendId l.topic handler

def unsubscribe (l : TopicLink) : OpCaller := .unsubscribe l.backendId l.topic

def key (l : TopicLink) : String := GatewayClient.topicKey l.backendId l.topic

/-- The gateway's event in which it reads the request of an operation. -/
def reads (l : TopicLink) (op : ControlOp) : Event :=
  .message l.gatewaySocket
    { data := if op.caller = l.unsubscribe then l.unsubscribeText else l.subscribeText, isBinary := false } 0 true

end TopicLink

/-- A message on its way to the client, with the handlers it is owed to. -/
structure Delivery where
  message : GatewayToPeer
  owed : List HandlerId

structure TopicSession where
  client : GatewayClient
  gateway : Gateway
  /-- The operations whose requests are on their way, the oldest first. -/
  requests : List ControlOp
  /-- What is on its way to the client, the oldest first. -/
  answers : List Delivery
  /-- The handlers whose subscription the gateway has acknowledged and that no call has unsubscribed since. -/
  owed : List HandlerId

inductive TopicSessionEvent where
  /-- `subscribeTopic` is called. -/
  | subscribe (handler : HandlerId)
  /-- What `subscribeTopic` returned for a handler is called. -/
  | unsubscribe (handler : HandlerId)
  | runOp
  | resumeOp
  | opTimeout (op : ControlOp)
  /-- The gateway reads the oldest request. -/
  | request
  /-- Another event of the gateway. -/
  | gateway (e : Event)
  /-- The client's socket dispatches the oldest message. -/
  | dispatch

namespace TopicSession

/-- What an event of the gateway sends on a socket. -/
def sentTo (ws : SocketId) (g : Gateway) : List GatewayToPeer :=
  g.net.outbox.filterMap (fun
    | .send ws' message => if ws' = ws then some message else none
    | _ => none)

/-- The operations whose requests go out on a socket in the course of an event. -/
def sends (ws : SocketId) (c : GatewayClient) : List ControlOp :=
  c.outbox.filterMap (fun
    | .send ws' (.message _) => if ws' = ws then c.pendingOp else none
    | _ => none)

def onClient (l : TopicLink) (e : ClientEvent) (s : TopicSession) : TopicSession :=
  let client := s.client.step l.options e
  { s with client, requests := s.requests ++ sends l.ws client }

def onGateway (l : TopicLink) (e : Event) (owed : List GatewayToPeer → List HandlerId) (s : TopicSession) : TopicSession :=
  let gateway := s.gateway.step l.Γ e
  let sent := sentTo l.gatewaySocket gateway
  { s with
    gateway
    owed := owed sent
    answers := s.answers ++ sent.map (fun message => ⟨message, owed sent⟩) }

/-- From the acknowledgement on, what is sent is owed to the handler too. -/
def owing (s : TopicSession) (op : ControlOp) (sent : List GatewayToPeer) : List HandlerId :=
  match op.caller with
  | .subscribeTopic _ _ handler =>
    if sent.any (fun message => message.replyType = some .topicSubscribed) then handler :: s.owed else s.owed
  | _ => s.owed

/-- Nothing is owed to a handler that has unsubscribed. -/
def forgive (handler : HandlerId) (s : TopicSession) : TopicSession :=
  { s with
    owed := s.owed.filter (· ≠ handler)
    answers := s.answers.map (fun d => { d with owed := d.owed.filter (· ≠ handler) }) }

def step (l : TopicLink) (s : TopicSession) : TopicSessionEvent → TopicSession
  | .subscribe handler => s.onClient l (.subscribeTopic l.backendId l.topic handler)
  | .unsubscribe handler => (s.onClient l (.unsubscribe l.backendId l.topic handler)).forgive handler
  | .runOp => s.onClient l .runOp
  | .resumeOp => s.onClient l .resumeOp
  | .opTimeout op => s.onClient l (.opTimeout op)
  | .request =>
    match s.requests with
    | [] => s
    | op :: rest => { s with requests := rest }.onGateway l (l.reads op) (s.owing op)
  | .gateway e => s.onGateway l e (fun _ => s.owed)
  | .dispatch =>
    match s.answers with
    | [] => s
    | d :: rest => { s with answers := rest }.onClient l (.message l.ws (some d.message))

end TopicSession

/-- The topic's session as a machine, from a state on. -/
def topicSession (l : TopicLink) (s : TopicSession) : EventMachine TopicSession TopicSessionEvent := ⟨s, TopicSession.step l⟩

end ZclaudiaGateway
