import ZclaudiaGateway.Lib.AsyncQueue
import ZclaudiaGateway.Lib.EventMachine
import ZclaudiaGateway.Lib.InsertionMap
import ZclaudiaGateway.Lib.PythonValue
import ZclaudiaGateway.Protocol

/-!
# HTTP over a channel

`packages/python/src/zclaudia_gateway/http.py`: `HttpExchange` and `serve_http_channel`, the machine that serves one `http`
channel. Its events are what the event loop of Python runs to the next `await`: the channel iterator hands over a message or
ends, the channel closes, a task of the handler calls a method of the exchange or has its turn after a wait, the handler
finishes. `cancelled` tells that the task is cancelled while the frame it sends waits to be written.
-/

namespace ZclaudiaGateway

namespace Python

/-! ## Messages -/

/-- `HttpStreamRequest`. -/
structure HttpStreamRequest where
  method : String
  path : String
  headers : InsertionMap String String

/-- What `serve_http_channel` reads of an `http_request` frame: an empty method or path is replaced. -/
def HttpStreamRequest.ofFrame (method path : String) (headers : List (String × String)) : HttpStreamRequest :=
  { method := if method = "" then "GET" else method
    path := if path = "" then "/" else path
    headers := headers.foldl (fun m h => m.set h.1 h.2) .empty }

/-- What the model takes of the standard library: `json.loads`, and `str` of a value that is not a string. -/
structure Library where
  loads : String → PyLoads
  str : PyValue → String

/-- `str(v)`. -/
def Library.text (L : Library) : PyValue → String
  | .str s => s
  | v => L.str v

/-- `str(v or '')` of what `frame.get` returned. -/
def Library.textOr (L : Library) : Option PyValue → String
  | some v => if v.truthy then L.text v else ""
  | none => ""

/-- A message of the channel iterator. -/
inductive Message where
  | bytes (data : Bytes)
  | text (s : String)

/-- What `serve_http_channel` makes of a message; `error` is an exception of `json.loads` other than `ValueError`. -/
inductive Frame where
  | chunk (data : Bytes)
  | request (request : HttpStreamRequest)
  | requestEnd
  | ignored
  | error

/-- The frame of a message, less whether the exchange has begun. -/
def frameOf (L : Library) : Message → Frame
  | .bytes data => .chunk data
  | .text s =>
    match L.loads s with
    | .valueError => .ignored
    | .error => .error
    | .value frame =>
      match frame.get "type" with
      | some (.str "http_request") =>
        .request (.ofFrame (L.textOr (frame.get "method")) (L.textOr (frame.get "path"))
          (match frame.get "headers" with
            | some (.dict items) => items.map (fun p => (L.text p.1, L.text p.2))
            | _ => []))
      | some (.str "http_request_end") => .requestEnd
      | _ => .ignored

/-! ## The exchange -/

/-- An exception, by what catches it: `ChannelClosedError`, another `Exception`, or none of these, as `CancelledError`. -/
inductive PyException where
  | channelClosedError
  | exception
  | baseException
deriving DecidableEq

/-- A frame sent on the channel. -/
inductive Sent where
  | response (status headers : PyValue)
  | bytes (data : Bytes)

/-- A chunk as a handler passes it to `write`. -/
inductive Chunk where
  | bytes (data : Bytes)
  | text (s : String)

/-- The bytes that are sent for a chunk. -/
def Chunk.encode : Chunk → Bytes
  | bytes data => data
  | text s => s.toUTF8.toList

/-- `HttpExchange`, less the channel. -/
structure HttpExchange where
  request : HttpStreamRequest
  disconnected : Bool
  started : Bool
  body : AsyncQueue (Option Bytes)

namespace HttpExchange

/-- `HttpExchange(request, channel)`. -/
def new (request : HttpStreamRequest) : HttpExchange :=
  { request, disconnected := false, started := false, body := .empty }

/-- `_feed`. -/
def feed (ex : HttpExchange) (chunk : Bytes) : HttpExchange := { ex with body := ex.body.putNowait (some chunk) }

/-- `_end_body`. -/
def endBody (ex : HttpExchange) : HttpExchange := { ex with body := ex.body.putNowait none }

/-- `_abort`. -/
def abort (ex : HttpExchange) : HttpExchange := { ex with disconnected := true, body := ex.body.putNowait none }

/-- The call of `read_chunk` of a reader, its turn after a wait, or the end of its wait. -/
inductive Reading where
  | read (r : Nat)
  | resume (r : Nat)
  | cancel (r : Nat)

/-- The rest of `read_chunk` after `get`: the end marker is put back. -/
def putBack : Option (Option Bytes) × AsyncQueue (Option Bytes) → Option (Option Bytes) × AsyncQueue (Option Bytes)
  | (some none, q) => (some none, q.putNowait none)
  | (result, q) => (result, q)

/-- `read_chunk`: the chunk or the end marker that it returns, nothing while it waits. A reader makes one call at a time. -/
def readChunk (ex : HttpExchange) : Reading → Option (Option Bytes) × HttpExchange
  | .read r =>
    if ex.body.Waits r then (none, ex)
    else ((putBack (ex.body.get r)).1, { ex with body := (putBack (ex.body.get r)).2 })
  | .resume r => ((putBack (ex.body.resume r)).1, { ex with body := (putBack (ex.body.resume r)).2 })
  | .cancel r => (none, { ex with body := ex.body.cancel r })

/-- `_send`: what goes out, and the exception it raises. -/
def send (ex : HttpExchange) (closed cancelled : Bool) (data : Sent) : HttpExchange × List Sent × Option PyException :=
  if ex.disconnected then (ex, [], some .channelClosedError)
  else if closed then ({ ex with disconnected := true }, [], some .channelClosedError)
  else if cancelled then (ex, [], some .baseException)
  else (ex, [data], none)

/-- The head frame of a response. -/
def headFrame (status headers : PyValue) : PyValue :=
  .dict [(.str "type", .str "http_response"), (.str "status", status),
    (.str "headers", if headers.truthy then headers else .dict [])]

/-- `start`. -/
def start (ex : HttpExchange) (closed cancelled : Bool) (status headers : PyValue) :
    HttpExchange × List Sent × Option PyException :=
  if ex.started then (ex, [], some .exception)
  else if (headFrame status headers).serialises then
    send { ex with started := true } closed cancelled
      (.response status (if headers.truthy then headers else .dict []))
  else ({ ex with started := true }, [], some .exception)

/-- `write`. -/
def write (ex : HttpExchange) (closed cancelled : Bool) (chunk : Chunk) : HttpExchange × List Sent × Option PyException :=
  if !ex.started then (ex, [], some .exception)
  else if chunk.encode = [] then (ex, [], none)
  else ex.send closed cancelled (.bytes chunk.encode)

end HttpExchange

/-! ## Serving a channel -/

/-- What happens on the channel. -/
inductive ChannelEvent where
  | message (m : Message)
  | closed
  | ended

/-- A call of the handler that answers. -/
inductive HandlerCall where
  | start (status headers : PyValue) (cancelled : Bool)
  | write (chunk : Chunk) (cancelled : Bool)

/-- An event of the service of one channel. -/
inductive HttpEvent where
  | channel (e : ChannelEvent)
  | reading (e : HttpExchange.Reading)
  | call (c : HandlerCall)
  | finished (outcome : Option PyException)

/-- The service of one `http` channel: the exchange once its head has come, whether the channel iterator goes on, whether the
channel is closed, whether the handler runs and what was sent. -/
structure HttpServing where
  exchange : Option HttpExchange
  iterating : Bool
  closed : Bool
  handling : Bool
  sent : List Sent

namespace HttpServing

/-- The service before the first message. -/
def init : HttpServing := { exchange := none, iterating := true, closed := false, handling := false, sent := [] }

/-- The `finally` of `serve_http_channel`, as far as its first `await`. -/
def abort (s : HttpServing) : HttpServing := { s with iterating := false, exchange := s.exchange.map HttpExchange.abort }

/-- The body of the `async for` of `serve_http_channel`. -/
def receive (L : Library) (s : HttpServing) (m : Message) : HttpServing :=
  match frameOf L m, s.exchange with
  | .chunk data, some ex => { s with exchange := some (ex.feed data) }
  | .request request, none => { s with exchange := some (.new request), handling := true }
  | .requestEnd, some ex => { s with exchange := some ex.endBody }
  | .error, _ => s.abort
  | _, _ => s

/-- An event of the channel. The iterator ends once the channel is closed and its messages are read. -/
def channel (L : Library) (s : HttpServing) : ChannelEvent → HttpServing
  | .message m => if s.iterating then s.receive L m else s
  | .closed => { s with closed := true }
  | .ended => if s.iterating then { s.abort with closed := true } else s

/-- What the exchange and the frames become in a call of the handler. -/
def answered (s : HttpServing) (p : HttpExchange × List Sent × Option PyException) : HttpServing :=
  { s with exchange := some p.1, sent := s.sent ++ p.2.1 }

/-- A call of the handler. -/
def call (s : HttpServing) (c : HandlerCall) : HttpServing :=
  match s.exchange with
  | none => s
  | some ex =>
    match c with
    | .start status headers cancelled => s.answered (ex.start s.closed cancelled status headers)
    | .write chunk cancelled => s.answered (ex.write s.closed cancelled chunk)

/-- The exception a call of the handler raises. -/
def raised (s : HttpServing) (c : HandlerCall) : Option PyException :=
  match s.exchange with
  | none => none
  | some ex =>
    match c with
    | .start status headers cancelled => (ex.start s.closed cancelled status headers).2.2
    | .write chunk cancelled => (ex.write s.closed cancelled chunk).2.2

/-- `_run_handler` after the handler: a response without a head gets one, unless the channel is gone or the handler was
cancelled, and the channel is closed. -/
def finish (s : HttpServing) (outcome : Option PyException) : HttpServing :=
  match s.exchange with
  | none => s
  | some ex =>
    let p := if ex.started then (ex, [], none) else ex.start s.closed false (.int 500) .none
    match outcome with
    | none | some .exception => { s.answered p with handling := false, closed := true }
    | some .channelClosedError | some .baseException => { s with handling := false, closed := true }

/-- One event of the service. -/
def step (L : Library) (s : HttpServing) : HttpEvent → HttpServing
  | .channel e => s.channel L e
  | .reading e => { s with exchange := s.exchange.map (fun ex => (ex.readChunk e).2) }
  | .call c => s.call c
  | .finished outcome => if s.handling then s.finish outcome else s

/-- What a call of `read_chunk` returns in an event. -/
def returned (s : HttpServing) : HttpEvent → List (Option Bytes)
  | .reading e => (s.exchange.bind (fun ex => (ex.readChunk e).1)).toList
  | _ => []

end HttpServing

/-- The machine that serves one `http` channel. -/
def httpService (L : Library) : EventMachine HttpServing HttpEvent := ⟨.init, HttpServing.step L⟩

/-! ## Buffered handlers -/

/-- What the handler of `build_http_handler` comes to: a response, another value or an exception. -/
inductive HandlerResult where
  | response (status headers : PyValue) (body : Option Chunk)
  | other
  | raised (e : PyException)

/-- The exception is one that `serve` answers. -/
def HandlerResult.failed : HandlerResult → Bool
  | response _ _ _ => false
  | other => true
  | raised e => decide (e ≠ .baseException)

/-- The calls of the handler in a run. -/
def handlerCalls (es : List HttpEvent) : List HandlerCall :=
  es.filterMap (fun e => match e with | .call c => some c | _ => none)

/-- The head `serve` passes to `start`. -/
def HandlerResult.head (status headers : PyValue) : HandlerCall :=
  .start status (if headers.truthy then headers else .dict []) false

/-- The run has begun the handler and it has made no call. -/
def Waiting (L : Library) (es : List HttpEvent) : Prop := ((httpService L).run es).handling ∧ handlerCalls es = []

/-- The runs of `serve` with the outcome of each: the frames and the reads of the body come between its calls in any way. Its
task is cancelled only once the iterator has ended. -/
inductive Serves (L : Library) : HandlerResult → List HttpEvent → Option PyException → Prop where
  | gone (result es pre) : Waiting L es → pre <+: es →
      (∃ ex ∈ ((httpService L).run pre).exchange, ex.disconnected) → Serves L result es none
  | interrupted (es) : Waiting L es → Serves L (.raised .baseException) es (some .baseException)
  | failed (result es es') : result.failed → Waiting L es → handlerCalls es' = [] →
      Serves L result (es ++ .call (.start (.int 500) .none false) :: es')
        (((httpService L).run es).raised (.start (.int 500) .none false))
  | refused (status headers body es es' e) : Waiting L es → handlerCalls es' = [] →
      ((httpService L).run es).raised (HandlerResult.head status headers) = some e →
      Serves L (.response status headers body) (es ++ .call (HandlerResult.head status headers) :: es') (some e)
  | empty (status headers body es es') : Waiting L es → handlerCalls es' = [] →
      ((httpService L).run es).raised (HandlerResult.head status headers) = none →
      (∀ chunk ∈ body, chunk.encode = []) →
      Serves L (.response status headers body) (es ++ .call (HandlerResult.head status headers) :: es') none
  | answered (status headers chunk es es' es'') : Waiting L es → handlerCalls es' = [] → handlerCalls es'' = [] →
      ((httpService L).run es).raised (HandlerResult.head status headers) = none → chunk.encode ≠ [] →
      Serves L (.response status headers (some chunk))
        (es ++ .call (HandlerResult.head status headers) :: (es' ++ .call (.write chunk false) :: es''))
        (((httpService L).run (es ++ .call (HandlerResult.head status headers) :: es')).raised (.write chunk false))

end Python

end ZclaudiaGateway
