import ZclaudiaGateway.Peers

/-!
# HTTP routes

The Express routes of `src/server.ts` that change the gateway or read the registry for a session: the proxy, recovery, the token
exchange and the admin API. Who may call the admin API is settled before (`AdminAuth`); the session store behind it is left
out. A body is what `express.json` parsed.
-/

namespace ZclaudiaGateway

/-! ## Authorization -/

/-- The token of an `Authorization: Bearer` header. -/
def bearerToken (authorization : Option String) : Option String :=
  match authorization with
  | none => none
  | some header => if header.startsWith "Bearer " then some (header.drop 7).toString else none

namespace Gateway

/-- 429 whose `Retry-After` carries the window's remaining seconds. -/
def rateLimited (map : RateMap) (key : String) (windowMs : Nat) (s : Gateway) : Gateway :=
  s.reply
    { status := 429
      retryAfter := some (retryAfter map key windowMs s.now)
      body := .error "RATE_LIMITED" "Too many requests" }

/-- Answer an unauthenticated request: 429 once the IP's failure quota is spent, otherwise 401. -/
def denyUnauthorized (Γ : Ctx) (ip message : String) (s : Gateway) : Gateway :=
  let (ok, s) := s.recordAuthFailure Γ ip
  if ok then s.replyError 401 "UNAUTHORIZED" message else s.rateLimited s.authFailures ip AUTH_FAIL_WINDOW

/-! ## Proxy -/

/-- The optional ceiling across all tenants of an IP. -/
def checkProxyIp (Γ : Ctx) (ip : String) (s : Gateway) : Bool × Gateway :=
  if Γ.config.proxyIpRateLimit > 0 then
    let (ok, proxyIpRequests) := checkLimit s.proxyIpRequests ip Γ.config.proxyIpRateLimit PROXY_RATE_WINDOW s.now
    (ok, { s with proxyIpRequests })
  else (true, s)

/-- The bucket that refuses an authenticated proxy request, with its key; `none` is admitted. -/
def refuseProxyRequest (Γ : Ctx) (credentialId ip : String) (s : Gateway) : Option (RateMap × String) × Gateway :=
  let (ipOk, s) := s.checkProxyIp Γ ip
  if !ipOk then (some (s.proxyIpRequests, ip), s)
  else
    let (ok, proxyRequests) := checkLimit s.proxyRequests credentialId Γ.config.proxyRateLimit PROXY_RATE_WINDOW s.now
    let s := { s with proxyRequests }
    if ok then (none, s) else (some (s.proxyRequests, credentialId), s)

/-- The path and query the backend is asked for. -/
def targetPath (request : ProxyRequest) : String :=
  "/" ++ request.suffix ++ String.ofList (request.url.toList.dropWhile (· ≠ '?'))

/-- The headers that the CORS middleware puts on every response. Origins outside the allowlist get none that lets them read. -/
def corsHeaders (allowedOrigins : Option (List String)) (origin : Option String) : InsertionMap String String :=
  let allowed :=
    match allowedOrigins, origin with
    | none, _ => InsertionMap.empty.set "access-control-allow-origin" "*"
    | some origins, some origin =>
      if origin ≠ "" ∧ origin ∈ origins then
        ((InsertionMap.empty.set "access-control-allow-origin" origin).set "access-control-allow-credentials" "true").set "vary"
          "Origin"
      else .empty
    | some _, none => .empty
  (allowed.set "access-control-allow-methods" "GET, POST, PUT, DELETE, PATCH, OPTIONS").set "access-control-allow-headers"
    "Content-Type, Authorization, X-Request-Id"

/-- A request to the proxy and its response as they come to the handler. -/
def newExchange (Γ : Ctx) (channelId : String) (request : ProxyRequest) : HttpExchange :=
  { channelId
    request
    targetPath := targetPath request
    headers := corsHeaders Γ.config.allowedOrigins (request.headers.values.get "origin") }

/-- Bridge a request onto an internal channel: the gateway's end is the request and its response. -/
def proxyViaChannel (Γ : Ctx) (request : ProxyRequest) (epoch : Nat) (backendPeer : PeerSession) (s : Gateway) :
    Gateway :=
  if s.countChannelsForPeer backendPeer.peerSessionId ≥ Γ.config.maxChannelsPerPeer then
    s.replyError 429 "RATE_LIMITED" "Too many open channels"
  else
    let channelId := Γ.channelIds.draw s.drawn
    let backendTicket := Γ.tickets.draw (2 * s.drawn + 1)
    let exchange : ExchangeId := s.drawn
    let ch : ChannelRecord :=
      { channelId
        backendId := request.backendId
        epoch
        kind := some "http"
        clientPeerSessionId := ""
        backendPeerSessionId := backendPeer.peerSessionId
        clientSocket := none
        backendSocket := none
        piped := false
        ticketTokens := [backendTicket]
        pairingTimeout := true
        onBackendSocket := some exchange
        internalRes := some exchange }
    { s with
      channelTickets := s.channelTickets.set backendTicket
        { channelId, role := .backend, expiresAt := s.now + Γ.config.channelTicketTtlMs }
      channels := s.channels.set channelId ch
      net :=
        { s.net with
          exchanges := s.net.exchanges.set exchange (newExchange Γ channelId request) }.sendToWs
          backendPeer.ws (.channelOffer channelId (some "http") none backendTicket ("/channel/" ++ channelId)) }

/-- `/api/proxy/:backendId/*`. Callers may only reach backends in their scope, answered like an offline backend. -/
def proxyRoute (Γ : Ctx) (request : ProxyRequest) (authorization : Option String) (s : Gateway) : Gateway :=
  match bearerToken authorization with
  | none => s.denyUnauthorized Γ request.ip "Authorization required"
  | some token =>
    let (credential, s) := s.resolveToken Γ token
    match credential with
    | none => s.denyUnauthorized Γ request.ip "Invalid credentials"
    | some credential =>
      let (refused, s) := s.refuseProxyRequest Γ credential.id request.ip
      match refused with
      | some (map, key) => s.rateLimited map key PROXY_RATE_WINDOW
      | none =>
        match s.state.leases.get request.backendId with
        | none => s.replyError 502 "BACKEND_OFFLINE" "Backend not found or offline"
        | some lease =>
          match s.state.registry.get request.backendId with
          | none => s.replyError 502 "BACKEND_OFFLINE" "Backend not found or offline"
          | some presence =>
            if canReach credential.ns credential.allowedBackends presence.ns presence.backendId = false then
              s.replyError 502 "BACKEND_OFFLINE" "Backend not found or offline"
            else
              match s.state.peers.get lease.peerSessionId with
              | none => s.replyError 502 "BACKEND_OFFLINE" "Backend peer not found"
              | some backendPeer => s.proxyViaChannel Γ request lease.epoch backendPeer

/-! ## Recovery and exchange -/

/-- `GET /sync/registry`: the registry as the session of a recovery token sees it. -/
def syncRegistryRoute (Γ : Ctx) (ip : String) (authorization : Option String) (s : Gateway) : Gateway :=
  match bearerToken authorization with
  | none => s.denyUnauthorized Γ ip "Authorization required"
  | some token =>
    match (s.recoveryTokens.get token).bind (fun peerSessionId => s.state.peers.get peerSessionId) with
    | none => s.denyUnauthorized Γ ip "Invalid recovery token"
    | some peer => s.reply { status := 200, body := .registry (visibleRegistry s.state peer) }

/-- `Number(b.online) - Number(a.online) || (b.lastSeenAt ?? 0) - (a.lastSeenAt ?? 0)` is not positive: the first is not
listed after the second. -/
def listedBefore (a b : DiscoveredBackend) : Bool :=
  if a.online = b.online then b.lastSeenAt.getD 0 ≤ a.lastSeenAt.getD 0 else a.online

/-- What a credential may address: the known identities in its scope, the online ones first, then the most recently seen. -/
def discoverBackends (credential : CredentialRecord) (s : Gateway) : List DiscoveredBackend :=
  ((s.storage.listBackendIdentities.filter (fun identity =>
    canReach credential.ns credential.allowedBackends identity.ns identity.backendId)).map (fun identity =>
      let presence := s.state.registry.get identity.backendId
      { backendId := identity.backendId
        name := identity.name
        online := presence.isSome
        lastSeenAt := presence.elim identity.lastSeenAt (fun presence => some presence.lastSeenAt) })).mergeSort listedBefore

/-- `GET /api/discovery/backends`, behind `requireGatewayAuth`. -/
def discoveryRoute (Γ : Ctx) (ip : String) (authorization : Option String) (s : Gateway) : Gateway :=
  match bearerToken authorization with
  | none => s.denyUnauthorized Γ ip "Authorization required"
  | some token =>
    let (credential, s) := s.resolveToken Γ token
    match credential with
    | none => s.denyUnauthorized Γ ip "Invalid credentials"
    | some credential => s.reply { status := 200, body := .discovered (s.discoverBackends credential) }

/-- The random values an issue of a credential draws. -/
def credentialDraw (Γ : Ctx) (s : Gateway) : Storage.CredentialDraw :=
  { id := Γ.credentialIds.draw s.drawn, secret := Γ.secrets.draw s.drawn, backendId := Γ.backendIds.draw s.drawn }

/-- `POST /api/backend/token`: only enrollment credentials may be exchanged. -/
def backendTokenRoute (Γ : Ctx) (ip : String) (authorization : Option String) (s : Gateway) : Gateway :=
  let (credential, s) :=
    match bearerToken authorization with
    | none => (none, s)
    | some token => s.resolveToken Γ token
  match credential with
  | none => s.denyUnauthorized Γ ip "Invalid credentials"
  | some credential =>
    if credential.type ≠ .backend then
      s.replyError 403 "FORBIDDEN" "Only backend enrollment credentials can be exchanged"
    else
      let (record, token, storage) :=
        s.storage.exchangeAccessCredential Γ.hashCredentialToken (s.credentialDraw Γ) s.now credential
          (Γ.config.backendAccessTokenTtlMs.map some)
      { s with storage }.reply { status := 201, body := .accessToken token record.expiresAt record.ns }

/-! ## Admin API -/

def isKnownBackend (s : Gateway) (backendId ns : String) : Bool :=
  (s.storage.getBackendIdentity backendId).any (fun identity => identity.ns = ns)

/-- The strings of an array that holds nothing else. -/
def stringArray (value : JsonValue) : Option (List String) :=
  value.asArray.bind (fun elems => elems.mapM JsonValue.asString)

/-- `null` is the whole namespace; otherwise a non-empty list of known backends in the namespace. -/
def parseBackendScope (s : Gateway) (value : JsonValue) (ns : String) : Except String (Option (List String)) :=
  match value with
  | .null => .ok none
  | value =>
    match stringArray value with
    | none | some [] => .error "allowedBackends must be null or a non-empty array of backend ids"
    | some ids =>
      let ids := ids.eraseDups
      let unknown := ids.filter (fun id => !s.isKnownBackend id ns)
      if unknown = [] then .ok (some ids)
      else .error ("Unknown backends in this namespace: " ++ ", ".intercalate unknown)

/-- `ttlDays * 24 * 60 * 60 * 1000`. A product beyond the largest number is left as it is. -/
def daysToMs (days : ℚ) : ℚ := [24, 60, 60, 1000].foldl (fun product factor => Binary64.rounded (product * factor)) days

/-- `ttlDays` of a request, as a lifetime in milliseconds. -/
def parseTtlDays (value : Option JsonValue) : Except String (Option (Option ℚ)) :=
  match value with
  | none => .ok none
  | some .null => .ok (some none)
  | some (.num (.finite days)) =>
    if 0 < days then .ok (some (some (daysToMs days)))
    else .error "ttlDays must be a positive number or null"
  | some _ => .error "ttlDays must be a positive number or null"

/-- `backendId` of a request to issue a credential. -/
def parseBoundBackend (s : Gateway) (value : Option JsonValue) (type : CredentialType) (ns : String) :
    Except String (Option String) :=
  match value with
  | none => .ok none
  | some value =>
    if type ≠ .backend then .error "backendId only applies to backend credentials"
    else
      match value.asString with
      | none => .error "backendId must be a known backend in the same namespace"
      | some backendId =>
        if s.isKnownBackend backendId ns then .ok (some backendId)
        else .error "backendId must be a known backend in the same namespace"

/-- `allowedBackends` of a request to issue a credential. -/
def parseIssuedScope (s : Gateway) (value : Option JsonValue) (type : CredentialType) (ns : String) :
    Except String (Option (List String)) :=
  match value with
  | none => .ok none
  | some value =>
    if type ≠ .device then .error "allowedBackends only applies to device credentials" else s.parseBackendScope value ns

/-- What a request to issue a credential asks for. -/
def parseCredential (s : Gateway) (body : JsonValue) : Except String Storage.CredentialInput := do
  let type ←
    match stringField body "type" with
    | some "device" => pure CredentialType.device
    | some "backend" => pure CredentialType.backend
    | _ => .error "type must be device or backend"
  let ns := (stringField body "namespace").getD ""
  if ns = "" then .error "namespace must be a non-empty string"
  if (body.member "name").any (fun name => name.asString.isNone) then .error "name must be a string"
  let ttlMs ← parseTtlDays (body.member "ttlDays")
  let backendId ← s.parseBoundBackend (body.member "backendId") type ns
  let allowedBackends ← s.parseIssuedScope (body.member "allowedBackends") type ns
  return { type, ns, name := stringField body "name", ttlMs, backendId, allowedBackends }

def issueCredentialRoute (Γ : Ctx) (body : JsonValue) (s : Gateway) : Gateway :=
  match s.parseCredential body with
  | .error message => s.replyError 400 "INVALID_REQUEST" message
  | .ok input =>
    let (record, token, storage) :=
      s.storage.createCredential Γ.hashCredentialToken (s.credentialDraw Γ) s.now input
    { s with storage }.reply { status := 201, body := .issued record token }

/-- An unrevoked backend credential is bound to the backend. -/
def boundToBackend (backendId : String) (c : CredentialRecord) : Bool :=
  c.type = .backend && c.revokedAt.isNone && c.backendId = some backendId

/-- An identity's last credential, when it is an unrevoked one that still resolves by instanceId. -/
def activeLegacyCredential (s : Gateway) (identity : BackendIdentity) : Bool :=
  (identity.lastCredentialId.bind s.storage.getCredential).any (fun c => c.revokedAt.isNone && c.backendId.isNone)

/-- `DELETE /api/admin/backends/:backendId`: refused while something may still resolve to the identity. -/
def deleteBackendRoute (backendId : String) (s : Gateway) : Gateway :=
  match s.storage.getBackendIdentity backendId with
  | none => s.replyError 404 "NOT_FOUND" "Backend identity not found"
  | some identity =>
    if s.state.registry.has backendId then s.replyError 409 "CONFLICT" "Backend is online"
    else if s.storage.credentials.values.any (boundToBackend backendId) then
      s.replyError 409 "CONFLICT" "Unrevoked backend credentials are bound to this backend; revoke them first"
    else if s.activeLegacyCredential identity then
      s.replyError 409 "CONFLICT"
        "The legacy credential last seen registering this backend is still active; bind or revoke it first"
    else { s with storage := s.storage.deleteBackendIdentity backendId }.reply { status := 200, body := .null }

/-- Answer with a credential's row. -/
def replyCredential (id : String) (s : Gateway) : Gateway :=
  s.reply { status := 200, body := (s.storage.getCredential id).elim .null .credential }

/-- `POST /api/admin/credentials/:id/bind`. -/
def bindCredentialRoute (id : String) (body : JsonValue) (s : Gateway) : Gateway :=
  match s.storage.getCredential id with
  | none => s.replyError 404 "NOT_FOUND" "Credential not found"
  | some credential =>
    if !Storage.isUnboundBackend credential then
      s.replyError 409 "CONFLICT" "Only unrevoked, unbound backend credentials can be bound"
    else
      match (stringField body "backendId").filter (fun backendId => s.isKnownBackend backendId credential.ns) with
      | none => s.replyError 400 "INVALID_REQUEST" "backendId must be a known backend in the same namespace"
      | some backendId =>
        { s with storage := s.storage.bindBackendCredential id backendId }.replyCredential id

/-- Close the control socket of every session on one of the credentials. -/
def closePeersOf (ids : List String) (reason : String) (s : Gateway) : Gateway :=
  s.onNet (fun net =>
    (s.state.peers.values.filter (fun peer => peer.credentialId ∈ ids)).foldl
      (fun net peer => net.close peer.ws 1008 reason) net)

/-- `PATCH /api/admin/credentials/:id`: replace a device credential's backend scope. -/
def changeScopeRoute (id : String) (body : JsonValue) (s : Gateway) : Gateway :=
  match s.storage.getCredential id with
  | none => s.replyError 404 "NOT_FOUND" "Credential not found"
  | some credential =>
    if credential.type ≠ .device ∨ credential.revokedAt.isSome then
      s.replyError 409 "CONFLICT" "Only unrevoked device credentials have a backend scope"
    else
      match body.member "allowedBackends" with
      | none => s.replyError 400 "INVALID_REQUEST" "allowedBackends is required (null = whole namespace)"
      | some value =>
        match s.parseBackendScope value credential.ns with
        | .error message => s.replyError 400 "INVALID_REQUEST" message
        | .ok scope =>
          ({ s with storage := s.storage.setAllowedBackends id scope }.closePeersOf [id] "Credential scope changed")
            |>.replyCredential id

/-- Disconnect live peers on the revoked credentials. -/
def afterRevoke (revokedIds : List String) (s : Gateway) : Gateway := s.closePeersOf revokedIds "Credential revoked"

/-- `DELETE /api/admin/credentials/:id`. -/
def revokeCredentialRoute (id : String) (s : Gateway) : Gateway :=
  let (revokedIds, storage) := s.storage.revokeCredential s.now id
  let s := { s with storage }
  if revokedIds = [] then s.replyError 404 "NOT_FOUND" "Credential not found or already revoked"
  else (s.afterRevoke revokedIds).reply { status := 200, body := .revoked revokedIds [] }

/-- `POST /api/admin/credentials/revoke`: unknown or already revoked ids are reported, not an error. -/
def revokeCredentialsRoute (body : JsonValue) (s : Gateway) : Gateway :=
  match (body.member "ids").bind stringArray with
  | none | some [] => s.replyError 400 "INVALID_REQUEST" "ids must be a non-empty array of strings"
  | some ids =>
    let requested := ids.eraseDups
    let (revokedIds, storage) := s.storage.revokeCredentials s.now requested
    ({ s with storage }.afterRevoke revokedIds).reply
      { status := 200, body := .revoked revokedIds (requested.filter (fun id => !(id ∈ revokedIds))) }

/-- `POST /api/admin/credentials/purge`. -/
def purgeCredentialsRoute (body : JsonValue) (s : Gateway) : Gateway :=
  match body.member "ids" with
  | some value =>
    match stringArray value with
    | none => s.replyError 400 "INVALID_REQUEST" "ids must be an array of strings"
    | some ids =>
      let (deleted, storage) := s.storage.purgeRevokedCredentials (some ids)
      { s with storage }.reply { status := 200, body := .deleted deleted }
  | none =>
    let (deleted, storage) := s.storage.purgeRevokedCredentials none
    { s with storage }.reply { status := 200, body := .deleted deleted }

/-- One more credential in the counters: a row is active unless it is revoked or its expiry is not after now. -/
def countCredential (now : Nat) (counters : CredentialCounters) (credential : CredentialRecord) : CredentialCounters :=
  let counters :=
    if credential.revokedAt.any (· ≠ 0) then { counters with revoked := counters.revoked + 1 }
    else if credential.expiresAt.any (fun expiresAt => expiresAt ≤ (now : ℚ)) then { counters with expired := counters.expired + 1 }
    else { counters with active := counters.active + 1 }
  { counters with
    byType := counters.byType.set credential.type ((counters.byType.get credential.type).getD 0 + 1) }

def credentialCounters (now : Nat) (credentials : List CredentialRecord) : CredentialCounters :=
  credentials.foldl (countCredential now)
    { total := credentials.length, active := 0, revoked := 0, expired := 0, byType := .empty }

def PeerSession.overview (peer : PeerSession) : PeerOverview :=
  { peerSessionId := peer.peerSessionId
    ns := peer.ns
    peerType := peer.peerType
    name := peer.name
    deviceId := peer.deviceId
    protocolVersion := peer.protocolVersion
    backendId := peer.backendId }

/-- `GET /api/admin/overview`. -/
def overviewRoute (s : Gateway) : Gateway :=
  s.reply
    { status := 200
      body := .overview
        { backends := s.state.registry.entries.length
          backendIdentities := s.storage.listBackendIdentities.length
          legacyBackendCredentials := (s.storage.listCredentials.filter Storage.isUnboundBackend).length
          peers := s.state.peers.values.map PeerSession.overview
          credentials := credentialCounters s.now s.storage.listCredentials } }

def identityOverview (s : Gateway) (identity : BackendIdentity) : BackendIdentityOverview :=
  { backendId := identity.backendId
    ns := identity.ns
    name := identity.name
    instanceId := identity.instanceId
    environment := identity.environment
    createdAt := identity.createdAt
    lastSeenAt := identity.lastSeenAt
    lastCredentialId := identity.lastCredentialId
    boundCredentials := (s.storage.listCredentials.filter (boundToBackend identity.backendId)).length
    online := (s.state.registry.get identity.backendId).map (fun presence => (presence.epoch, presence.connectedAt)) }

/-- `GET /api/admin/backends`. -/
def listBackendsRoute (s : Gateway) : Gateway :=
  s.reply { status := 200, body := .identities (s.storage.listBackendIdentities.map s.identityOverview) }

/-- `GET /api/admin/credentials`. -/
def listCredentialsRoute (s : Gateway) : Gateway :=
  s.reply { status := 200, body := .credentials s.storage.listCredentials }

end Gateway

/-- A request to the admin API. -/
inductive AdminRequest where
  | overview
  | listBackends
  | listCredentials
  | issueCredential (body : JsonValue)
  | deleteBackend (backendId : String)
  | bindCredential (id : String) (body : JsonValue)
  | changeScope (id : String) (body : JsonValue)
  | revokeCredential (id : String)
  | revokeCredentials (body : JsonValue)
  | purgeCredentials (body : JsonValue)

/-- What `requireAdmin` finds: the admin token or a session cookie, a cookie with a foreign origin, or neither. -/
inductive AdminAuth where
  | granted
  | foreignOrigin
  | denied
deriving DecidableEq

namespace Gateway

/-- A request to the admin API, behind `requireAdmin`. -/
def adminRoute (Γ : Ctx) (ip : String) (auth : AdminAuth) (request : AdminRequest) (s : Gateway) : Gateway :=
  match auth with
  | .denied => s.denyUnauthorized Γ ip "Invalid admin token"
  | .foreignOrigin => s.replyError 403 "FORBIDDEN" "Origin check failed"
  | .granted =>
    match request with
    | .overview => s.overviewRoute
    | .listBackends => s.listBackendsRoute
    | .listCredentials => s.listCredentialsRoute
    | .issueCredential body => s.issueCredentialRoute Γ body
    | .deleteBackend backendId => s.deleteBackendRoute backendId
    | .bindCredential id body => s.bindCredentialRoute id body
    | .changeScope id body => s.changeScopeRoute id body
    | .revokeCredential id => s.revokeCredentialRoute id
    | .revokeCredentials body => s.revokeCredentialsRoute body
    | .purgeCredentials body => s.purgeCredentialsRoute body

/-- `POST /api/admin/session`: the admin token is exchanged for a session, whose expiry the session store gives. -/
def adminLoginRoute (Γ : Ctx) (ip : String) (expiresAt : Option Nat) (s : Gateway) : Gateway :=
  match expiresAt with
  | none => s.denyUnauthorized Γ ip "Invalid admin token"
  | some expiresAt => s.reply { status := 200, body := .session expiresAt }

/-- `GET /api/admin/session`: the expiry of the session whose cookie the request carries, if the store knows it. -/
def adminSessionRoute (expiresAt : Option Nat) (s : Gateway) : Gateway :=
  match expiresAt with
  | none => s.replyError 401 "UNAUTHORIZED" "No active session"
  | some expiresAt => s.reply { status := 200, body := .session expiresAt }

end Gateway

end ZclaudiaGateway
