import ZclaudiaGateway.Lib.PercentEncoding
import ZclaudiaGateway.Sdk.HttpExchange

/-!
# The ASGI adapter

`packages/python/src/zclaudia_gateway/asgi.py`: the scope `asgi_http_handler` builds for the application from the head of a
proxied request. The names of headers are ASCII.
-/

namespace ZclaudiaGateway

namespace Python

/-- `path.partition('?')`, less the separator. -/
def partitionQuery (path : String) : String × String :=
  (String.ofList (path.toList.takeWhile (· ≠ '?')), String.ofList (path.toList.dropWhile (· ≠ '?')).tail)

/-- `s.encode('latin-1', 'replace')`. -/
def encodeLatin1 (s : String) : Bytes := s.toList.map (fun c => if c.toNat < 256 then c.toNat.toUInt8 else '?'.toNat.toUInt8)

/-- `s.encode('latin-1')`, `none` where it raises. -/
def encodeLatin1Strict (s : String) : Option Bytes :=
  if s.toList.all (fun c => c.toNat < 256) then some (encodeLatin1 s) else none

/-- The scope of a request, less what is the same for every request. -/
structure AsgiScope where
  method : String
  path : String
  raw_path : Bytes
  query_string : Bytes
  headers : List (Bytes × Bytes)

/-- `asgi_http_handler(app, extra_headers=...)`: the scope of a request, `none` where the handler raises. -/
def asgiScope (extraHeaders : InsertionMap String String) (request : HttpStreamRequest) : Option AsgiScope :=
  let (rawPath, query) := partitionQuery request.path
  let lowered (headers base : InsertionMap String String) :=
    headers.entries.foldl (fun m h => m.set h.1.toLower h.2) base
  let headers := lowered request.headers .empty
  let headers := if headers.has "host" then headers else headers.set "host" "localhost"
  let headers := (lowered extraHeaders .empty).entries.foldl (fun m h => m.set h.1 h.2) headers
  let encoded (h : String × String) := (encodeLatin1Strict h.1).bind (fun name => (encodeLatin1Strict h.2).map (fun v => (name, v)))
  (headers.entries.mapM encoded).map (fun headers =>
    { method := request.method.toUpper
      path := PercentEncoding.unquote rawPath
      raw_path := encodeLatin1 rawPath
      query_string := encodeLatin1 query
      headers })

/-! ## The calls of the application -/

/-- A message `receive` returns to the application. -/
inductive AsgiMessage where
  | request (body : Bytes) (more_body : Bool)
  | disconnect

/-- A message the application passes to `send`. -/
inductive AsgiSend where
  | responseStart (status : ℤ) (headers : List (Bytes × Bytes))
  | responseBody (body : Bytes)
  | other

/-- `b.decode('latin-1')`. -/
def decodeLatin1 (b : Bytes) : String := String.ofList (b.map (fun u => Char.ofNat u.toNat))

/-- The headers of a response: a repeated header is folded into one value. -/
def mergedHeaders (headers : List (Bytes × Bytes)) : InsertionMap String String :=
  headers.foldl
    (fun merged h =>
      let name := (decodeLatin1 h.1).toLower
      let value := decodeLatin1 h.2
      merged.set name (match merged.get name with | some before => before ++ ", " ++ value | none => value))
    .empty

/-- The call of the exchange that a message of the application makes. -/
def AsgiSend.call (cancelled : Bool) : AsgiSend → Option HandlerCall
  | responseStart status headers =>
    some (.start (.int status) (.dict ((mergedHeaders headers).entries.map (fun h => (.str h.1, .str h.2)))) cancelled)
  | responseBody body => some (.write (.bytes body) cancelled)
  | other => none

/-- An event of an application that serves one channel. A caller of `receive` has its turn after it waited for the body
(`resume`) or for the disconnect (`wake`). -/
inductive AsgiEvent where
  | channel (e : ChannelEvent)
  | receive (r : Nat)
  | resume (r : Nat)
  | wake (r : Nat)
  | cancel (r : Nat)
  | send (message : AsgiSend) (cancelled : Bool)
  | finished (outcome : Option PyException)

/-- An application that serves one channel: the exchange, `body_done` and the callers of `receive` that wait for the
disconnect. -/
structure AsgiServing where
  serving : HttpServing
  body_done : Bool
  watchers : List Nat

namespace AsgiServing

/-- The service before the first message. -/
def init : AsgiServing := { serving := .init, body_done := false, watchers := [] }

/-- `exchange.disconnected.is_set()`. -/
def disconnected (s : AsgiServing) : Bool := s.serving.exchange.any HttpExchange.disconnected

/-- The caller waits for the body or for the disconnect. -/
def Busy (s : AsgiServing) (r : Nat) : Prop := r ∈ s.watchers ∨ ∃ ex ∈ s.serving.exchange, ex.body.Waits r

instance (s : AsgiServing) (r : Nat) : Decidable (s.Busy r) :=
  match h : s.serving.exchange with
  | none => decidable_of_iff (r ∈ s.watchers) (by simp [Busy, h])
  | some ex => decidable_of_iff (r ∈ s.watchers ∨ ex.body.Waits r) (by simp [Busy, h])

/-- What the event is to the exchange. -/
def httpEvent (s : AsgiServing) : AsgiEvent → Option HttpEvent
  | .channel e => some (.channel e)
  | .receive r => if s.Busy r ∨ s.body_done then none else some (.reading (.read r))
  | .resume r => some (.reading (.resume r))
  | .wake _ => none
  | .cancel r => some (.reading (.cancel r))
  | .send message cancelled => if s.disconnected then none else (message.call cancelled).map .call
  | .finished outcome => some (.finished outcome)

/-- The event changes the exchange only. -/
def forward (L : Library) (s : AsgiServing) (e : AsgiEvent) : AsgiServing :=
  { s with serving := (s.httpEvent e).elim s.serving (s.serving.step L) }

/-- The end of `receive`: the wait for the disconnect. -/
def watch (s : AsgiServing) (r : Nat) : AsgiServing × List AsgiMessage :=
  if s.disconnected then (s, [.disconnect]) else ({ s with watchers := s.watchers ++ [r] }, [])

/-- `receive` once `read_chunk` has returned, if it has. -/
def afterRead (s : AsgiServing) (r : Nat) : List (Option Bytes) → AsgiServing × List AsgiMessage
  | [] => (s, [])
  | some chunk :: _ => (s, [.request chunk true])
  | none :: _ => if s.body_done then s.watch r else ({ s with body_done := true }, [.request [] false])

/-- One event: the state after it and the messages that `receive` returns in it. -/
def handle (L : Library) (s : AsgiServing) (e : AsgiEvent) : AsgiServing × List AsgiMessage :=
  match e with
  | .receive r =>
    if s.Busy r then (s, [])
    else if s.body_done then s.watch r
    else (s.forward L e).afterRead r (s.serving.returned (.reading (.read r)))
  | .resume r => (s.forward L e).afterRead r (s.serving.returned (.reading (.resume r)))
  | .wake r =>
    if r ∈ s.watchers ∧ s.disconnected then ({ s with watchers := s.watchers.erase r }, [.disconnect]) else (s, [])
  | .cancel r => ({ s.forward L e with watchers := s.watchers.erase r }, [])
  | .channel _ | .send _ _ | .finished _ => (s.forward L e, [])

end AsgiServing

/-- The machine of an application that serves one channel. -/
def asgiService (L : Library) : EventMachine AsgiServing AsgiEvent := ⟨.init, fun s e => (s.handle L e).1⟩

end Python

end ZclaudiaGateway
