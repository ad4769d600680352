import ZclaudiaGateway.Lib.PercentEncoding
import ZclaudiaGateway.Server

/-!
# Access to the admin API

`src/admin-session.ts`, and of `src/server.ts` the session routes and `requireAdmin`, in front of the gateway. A request brings
the admin token, or the cookie of a session that a login has opened with it. What the gateway itself answers is an event of its
own; the answer of a logout and the page of an exception say nothing of the gateway and are left out.
-/

namespace ZclaudiaGateway

/-! ## Sessions -/

/-- `AdminSessionStore`: when each session expires. -/
structure AdminSessionStore where
  sessions : InsertionMap String Nat

namespace AdminSessionStore

def create (id : String) (expiresAt : Nat) (store : AdminSessionStore) : AdminSessionStore :=
  { sessions := store.sessions.set id expiresAt }

/-- An expired session is deleted when it is met. -/
def validate (now : Nat) (id : String) (store : AdminSessionStore) : Bool × AdminSessionStore :=
  match store.sessions.get id with
  | none => (false, store)
  | some expiresAt => if now > expiresAt then (false, { sessions := store.sessions.delete id }) else (true, store)

def expiresAt (id : String) (store : AdminSessionStore) : Option Nat := store.sessions.get id

def destroy (id : String) (store : AdminSessionStore) : AdminSessionStore := { sessions := store.sessions.delete id }

def sweep (now : Nat) (store : AdminSessionStore) : AdminSessionStore :=
  { sessions := store.sessions.filter (fun _ expiresAt => !decide (now > expiresAt)) }

/-- `sessionId && adminSessions.validate(sessionId)`: no session has the empty id. -/
def holds (now : Nat) (id : String) (store : AdminSessionStore) : Bool × AdminSessionStore :=
  if id = "" then (false, store) else store.validate now id

end AdminSessionStore

/-! ## Cookies -/

/-- What `trim` takes off: white space and line terminators. -/
def isJsSpace (c : Char) : Bool :=
  c ∈ ['\t', '\n', '\x0b', '\x0c', '\r', ' ', '\u00a0', '\u1680', '\u2028', '\u2029', '\u202f', '\u205f', '\u3000', '\ufeff'] ||
    decide (0x2000 ≤ c.toNat ∧ c.toNat ≤ 0x200a)

/-- `trim`. -/
def jsTrim (cs : List Char) : List Char := ((cs.dropWhile isJsSpace).reverse.dropWhile isJsSpace).reverse

def ADMIN_SESSION_COOKIE : String := "zclaudia_admin_session"

/-- The value of a pair of a `Cookie` header, if it is of that name. -/
def cookieValue (name : String) (pair : List Char) : Option (List Char) :=
  if '=' ∈ pair ∧ jsTrim (pair.takeWhile (· ≠ '=')) = name.toList then some (jsTrim ((pair.dropWhile (· ≠ '=')).drop 1))
  else none

/-- `readSessionCookie`: `none` where `decodeURIComponent` throws; a cookie that is not there is the empty one. -/
def readSessionCookie (cookie : Option String) (name : String) : Option String :=
  match ((cookie.getD "").toList.splitOn ';').findSome? (cookieValue name) with
  | none => some ""
  | some value => PercentEncoding.decodeURIComponent (String.ofList value)

/-! ## Requests -/

/-- What the admin routes take from the configuration and the world. -/
structure AdminCtx where
  gateway : Ctx
  adminToken : String
  trustProxy : Bool := false
  adminSessionTtlMs : Nat := 12 * 60 * 60 * 1000
  /-- `crypto.randomBytes(32).toString('base64url')`. -/
  sessionIds : IdSource
  /-- `new URL(origin).host`, `none` where it throws. -/
  originHost : String → Option String

/-- What the admin routes read of a request. -/
structure AdminHead where
  authorization : Option String := none
  cookie : Option String := none
  origin : Option String := none
  host : Option String := none
  forwardedFor : Option String := none
  forwardedProto : Option String := none
  /-- `req.socket.remoteAddress`. -/
  remoteAddress : Option String := none
  /-- `req.secure`. -/
  secure : Bool := false

def safeCompare (a b : String) : Bool := decide (a.toUTF8.data = b.toUTF8.data)

namespace AdminHead

/-- `extractIp`. -/
def extractIp (Γ : AdminCtx) (head : AdminHead) : String :=
  let forwarded := jsTrim ((head.forwardedFor.getD "").toList.takeWhile (· ≠ ','))
  if Γ.trustProxy ∧ forwarded ≠ [] then String.ofList forwarded
  else if head.remoteAddress.getD "" = "" then "unknown"
  else head.remoteAddress.getD ""

def requestIsSecure (Γ : AdminCtx) (head : AdminHead) : Bool :=
  if Γ.trustProxy then decide (head.forwardedProto = some "https") else head.secure

def isTrustedOrigin (Γ : AdminCtx) (head : AdminHead) : Bool :=
  match head.origin, Γ.gateway.config.allowedOrigins with
  | none, _ => false
  | some "", _ => false
  | some origin, some (allowed :: rest) => decide (origin ∈ allowed :: rest)
  | some origin, _ =>
    match Γ.originHost origin with
    | none => false
    | some host => decide (some host = head.host)

def bearerOk (Γ : AdminCtx) (head : AdminHead) : Bool :=
  match bearerToken head.authorization with
  | none => false
  | some token => safeCompare token Γ.adminToken

end AdminHead

/-- The request changes something: its method is neither `GET`, `HEAD` nor `OPTIONS`. -/
def AdminRequest.isMutating : AdminRequest → Bool
  | .overview | .listBackends | .listCredentials => false
  | _ => true

inductive AdminHttp where
  /-- `POST /api/admin/session`. -/
  | login (body : JsonValue)
  /-- `GET /api/admin/session`. -/
  | probe
  /-- `DELETE /api/admin/session`. -/
  | logout
  | api (request : AdminRequest)

/-- What an answer does to the session cookie. -/
inductive SetCookie where
  | session (id : String) (secure : Bool) (maxAge : Nat)
  | clear
deriving DecidableEq

/-- The gateway with its admin sessions. `drawn` is the position in the source of their ids, `cookie` what the last answer set. -/
structure AdminGateway where
  gateway : Gateway
  sessions : AdminSessionStore
  drawn : Nat
  cookie : Option SetCookie

inductive AdminEvent where
  | http (head : AdminHead) (request : AdminHttp)
  /-- The interval of the session store. -/
  | sweep
  /-- Any other event of the gateway. -/
  | other (e : Event)

/-- The event is one of the admin routes. -/
def Event.isAdmin : Event → Bool
  | .admin _ _ _ | .adminLogin _ _ | .adminSession _ _ => true
  | _ => false

namespace AdminGateway

def init (storage : Storage) : AdminGateway :=
  { gateway := .init storage, sessions := { sessions := .empty }, drawn := 0, cookie := none }

/-- `requireAdmin`: what it finds, and the sessions after it; `none` where reading the cookie throws. -/
def requireAdmin (Γ : AdminCtx) (head : AdminHead) (mutating : Bool) (s : AdminGateway) :
    Option (AdminAuth × AdminSessionStore) :=
  if head.bearerOk Γ then some (.granted, s.sessions)
  else
    match readSessionCookie head.cookie ADMIN_SESSION_COOKIE with
    | none => none
    | some id =>
      match s.sessions.holds s.gateway.now id with
      | (false, sessions) => some (.denied, sessions)
      | (true, sessions) =>
        some (if mutating && !head.isTrustedOrigin Γ then .foreignOrigin else .granted, sessions)

/-- The token of a login. -/
def loginToken (body : JsonValue) : String :=
  match body.member "token" with
  | some (.str token) => token
  | _ => ""

/-- The gateway handles an event of its own. -/
def onGateway (Γ : AdminCtx) (e : Event) (s : AdminGateway) : AdminGateway := { s with gateway := s.gateway.step Γ.gateway e }

/-- An answer that the gateway has no part in. -/
def apart (s : AdminGateway) : AdminGateway := { s with gateway := s.gateway.quiet }

def login (Γ : AdminCtx) (head : AdminHead) (body : JsonValue) (s : AdminGateway) : AdminGateway :=
  let ip := head.extractIp Γ
  if loginToken body = "" ∨ safeCompare (loginToken body) Γ.adminToken = false then s.onGateway Γ (.adminLogin ip none)
  else
    let id := Γ.sessionIds.draw s.drawn
    let expiresAt := s.gateway.now + Γ.adminSessionTtlMs
    { s.onGateway Γ (.adminLogin ip (some expiresAt)) with
      sessions := s.sessions.create id expiresAt
      drawn := s.drawn + 1
      cookie := some (.session id (head.requestIsSecure Γ) Γ.adminSessionTtlMs) }

def probe (Γ : AdminCtx) (head : AdminHead) (s : AdminGateway) : AdminGateway :=
  let ip := head.extractIp Γ
  match readSessionCookie head.cookie ADMIN_SESSION_COOKIE with
  | none => s.apart
  | some id =>
    match s.sessions.holds s.gateway.now id with
    | (false, sessions) => { s.onGateway Γ (.adminSession ip none) with sessions }
    | (true, sessions) => { s.onGateway Γ (.adminSession ip (sessions.expiresAt id)) with sessions }

def logout (head : AdminHead) (s : AdminGateway) : AdminGateway :=
  match readSessionCookie head.cookie ADMIN_SESSION_COOKIE with
  | none => s.apart
  | some id =>
    match s.sessions.holds s.gateway.now id with
    | (false, sessions) => { s.apart with sessions, cookie := some .clear }
    | (true, sessions) => { s.apart with sessions := sessions.destroy id, cookie := some .clear }

def http (Γ : AdminCtx) (head : AdminHead) (request : AdminHttp) (s : AdminGateway) : AdminGateway :=
  match request with
  | .login body => s.login Γ head body
  | .probe => s.probe Γ head
  | .logout => s.logout head
  | .api request =>
    match s.requireAdmin Γ head request.isMutating with
    | none => s.apart
    | some (auth, sessions) => { s.onGateway Γ (.admin (head.extractIp Γ) auth request) with sessions }

/-- One event. A process that is gone handles none. -/
def step (Γ : AdminCtx) (s : AdminGateway) (e : AdminEvent) : AdminGateway :=
  if s.gateway.uncaught.isSome then { s.apart with cookie := none }
  else
    match e with
    | .http head request => { s with cookie := none }.http Γ head request
    | .sweep => { s.apart with sessions := s.sessions.sweep s.gateway.now, cookie := none }
    | .other e => if e.isAdmin then { s.apart with cookie := none } else { s.onGateway Γ e with cookie := none }

end AdminGateway

/-- The gateway behind its admin routes, as a machine. -/
def adminGateway (Γ : AdminCtx) (storage : Storage) : EventMachine AdminGateway AdminEvent :=
  { init := AdminGateway.init storage, step := AdminGateway.step Γ }

end ZclaudiaGateway
