import ZclaudiaGateway.State

/-!
# Sockets and responses

The operations of the `ws` library and of `http.ServerResponse` that the gateway calls, on the state it holds of each. A call
on a socket that is gone does nothing. `close` only starts the handshake: the socket is `closing` and its `message` events go
on until its `close` event; `terminate` leaves it `closing` too.
-/

namespace ZclaudiaGateway

namespace Net

/-! ## WebSockets -/

def emit (o : Output) (net : Net) : Net := { net with outbox := net.outbox ++ [o] }

def modifySocket (ws : SocketId) (f : WsSocket → WsSocket) (net : Net) : Net :=
  { net with sockets := net.sockets.modify ws f }

def modifyExchange (ex : ExchangeId) (f : HttpExchange → HttpExchange) (net : Net) : Net :=
  { net with exchanges := net.exchanges.modify ex f }

/-- `ws.readyState`. -/
def readyState (net : Net) (ws : SocketId) : ReadyState :=
  match net.sockets.get ws with
  | some k => k.readyState
  | none => .closed

/-- `sendToWs`: a message to a socket that is not open is dropped. The text of a message is taken to exist: that `JSON.stringify`
overflows the stack on a payload of some thousand levels is left out. -/
def sendToWs (ws : SocketId) (message : GatewayToPeer) (net : Net) : Net :=
  if net.readyState ws = .open_ then net.emit (.send ws message) else net

def ping (ws : SocketId) (net : Net) : Net := if net.readyState ws = .open_ then net.emit (.ping ws) else net

def close (ws : SocketId) (code : Nat) (reason : String) (net : Net) : Net :=
  if net.readyState ws = .open_ then
    (net.modifySocket ws (fun k => { k with readyState := .closing })).emit (.close ws code reason)
  else net

def terminate (ws : SocketId) (net : Net) : Net :=
  if net.readyState ws = .closed then net
  else (net.modifySocket ws (fun k => { k with readyState := .closing })).emit (.terminate ws)

def pause (ws : SocketId) (net : Net) : Net :=
  if net.readyState ws = .closed then net
  else (net.modifySocket ws (fun k => { k with paused := true })).emit (.pause ws)

def resume (ws : SocketId) (net : Net) : Net :=
  if net.readyState ws = .closed then net else net.modifySocket ws (fun k => { k with paused := false })

/-! ## Responses -/

/-- `res.status(status).json(body)` on a response without a content type: sends the head and ends the response. The length and
the tag that Express makes of the text are left out. -/
def statusJson (ex : ExchangeId) (headers : InsertionMap String String) (r : HttpReply) (net : Net) : Net :=
  ((net.modifyExchange ex (fun x => { x with statusCode := r.status, headersSent := true, writableEnded := true })).emit
    (.head ex r.status (headers.entries ++ [("content-type", "application/json; charset=utf-8")]))).emit (.replyProxy ex r)

/-- Body bytes. What is written to a response that has no body is dropped. -/
def writeBody (ex : ExchangeId) (hasBody : Bool) (data : Bytes) (net : Net) : Net :=
  if hasBody then net.emit (.body ex data) else net

/-- `res.destroy(...)`. -/
def destroyResponse (ex : ExchangeId) (net : Net) : Net :=
  (net.modifyExchange ex (fun x => { x with destroyed := true })).emit (.destroyResponse ex)

/-- `res.end()`. -/
def endResponse (ex : ExchangeId) (net : Net) : Net :=
  (net.modifyExchange ex (fun x => { x with writableEnded := true })).emit (.endResponse ex)

end Net

namespace Gateway

/-- An exception nothing catches. -/
def throw (error : JsError) (s : Gateway) : Gateway := { s with uncaught := some error }

/-- `gateway_error` to a socket. -/
def sendError (ws : SocketId) (code : GatewayErrorCode) (message : String) (s : Gateway) : Gateway :=
  s.onNet (Net.sendToWs ws (.gatewayError code message))

/-- The answer to a request. -/
def reply (r : HttpReply) (s : Gateway) : Gateway := s.onNet (Net.emit (.reply r))

/-- The answer that carries an error. -/
def replyError (status : Nat) (code message : String) (s : Gateway) : Gateway :=
  s.reply { status, body := .error code message }

/-! ## Calls on a proxied response -/

end Gateway

/-- `_hasBody`. The status is that of the head, the last one set. -/
def HttpExchange.hasBody (x : HttpExchange) : Bool :=
  decide (x.request.method ≠ "HEAD" ∧ ¬ (100 ≤ x.statusCode ∧ x.statusCode ≤ 199) ∧ x.statusCode ≠ 204 ∧ x.statusCode ≠ 304)

namespace Gateway

/-- A call on the response of an exchange. `setHeader` throws once the head is out and on a value outside the grammar; a write
after the end is an `error` event of a response that nothing listens to, unless the response is destroyed. Nothing runs after
an exception. -/
def callResponse (ex : ExchangeId) (s : Gateway) (c : ResponseCall) : Gateway :=
  match s.uncaught, s.net.exchanges.get ex with
  | none, some x =>
    let s := s.onNet (Net.emit (.call ex c))
    match c with
    | .setHeader name value =>
      if x.headersSent then s.throw .headersSent
      else if validHeaderValue value = false then s.throw .invalidHeaderValue
      else s.onNet (Net.modifyExchange ex (fun x => { x with headers := x.headers.set name.toLower value }))
    | .status code => s.onNet (Net.modifyExchange ex (fun x => { x with statusCode := code }))
    | .write data =>
      if x.destroyed then s
      else if x.writableEnded then s.throw .writeAfterEnd
      else
        let s :=
          if x.headersSent then s
          else
            s.onNet (fun net => (net.modifyExchange ex (fun x => { x with headersSent := true })).emit
              (.head ex x.statusCode x.headers.entries))
        s.onNet (Net.writeBody ex x.hasBody data)
  | _, _ => s

end Gateway

end ZclaudiaGateway
