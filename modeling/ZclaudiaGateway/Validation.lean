import ZclaudiaGateway.Protocol

/-!
# Inbound validation and proxy header hygiene

`src/validation.ts`, and `validatePeerHelloV4` of `src/server.ts`. Only the fields the gateway itself reads are checked. The
`read` functions are what the handlers see of a message: they return `none` where a handler would find a value of another
type than it declares.
-/

namespace ZclaudiaGateway

/-! ## Control messages -/

inductive FieldKind where
  | string
  | nonEmptyString
  | number
  | statusCode
  | object
  | array
  | present
deriving DecidableEq

structure FieldSpec where
  kind : FieldKind
  optional : Bool := false
  /-- Restrict a string field to specific values. -/
  oneOf : Option (List String) := none
deriving DecidableEq

abbrev MessageSpec := List (String × FieldSpec)

def MESSAGE_SPECS : List (String × MessageSpec) := [
  ("backend_heartbeat", [
    ("epoch", { kind := .number }),
    ("observedAt", { kind := .number, optional := true })]),
  ("request_registry_snapshot", []),
  ("backend_server_message", [
    ("backendId", { kind := .nonEmptyString }),
    ("targetPeerSessionId", { kind := .string, optional := true })]),
  ("push_notification_request", [("event", { kind := .present })]),
  ("ping", [("ts", { kind := .number, optional := true })]),
  ("channel_open", [
    ("target", { kind := .nonEmptyString }),
    ("kind", { kind := .string, optional := true })]),
  ("channel_reject", [
    ("channelId", { kind := .nonEmptyString }),
    ("reason", { kind := .string, optional := true })]),
  ("channel_close", [("channelId", { kind := .nonEmptyString })]),
  ("topic_subscribe", [
    ("backendId", { kind := .nonEmptyString }),
    ("topic", { kind := .nonEmptyString })]),
  ("topic_unsubscribe", [
    ("backendId", { kind := .nonEmptyString }),
    ("topic", { kind := .nonEmptyString })]),
  ("topic_publish", [("topic", { kind := .nonEmptyString })])]

/-- The `switch` of `checkField`. -/
def checkKind (value : JsonValue) : FieldKind → Option String
  | .string => if value.asString.isSome then none else some "must be a string"
  | .nonEmptyString =>
    match value.asString with
    | some s => if s = "" then some "must be a non-empty string" else none
    | none => some "must be a non-empty string"
  | .number =>
    match value.asNumber with
    | some n => if n.isFinite then none else some "must be a finite number"
    | none => some "must be a finite number"
  | .statusCode =>
    match value.asNumber.bind JsNumber.toInt? with
    | some n => if n < 100 ∨ n > 599 then some "must be an integer HTTP status code (100-599)" else none
    | none => some "must be an integer HTTP status code (100-599)"
  | .object => if value.isObject ∧ value.asArray.isNone then none else some "must be an object"
  | .array => if value.asArray.isSome then none else some "must be an array"
  | .present => none

def checkField (value : JsonValue) (spec : FieldSpec) : Option String :=
  match checkKind value spec.kind with
  | some error => some error
  | none =>
    match spec.oneOf, value.asString with
    | some allowed, some s => if s ∈ allowed then none else some ("must be one of: " ++ ", ".intercalate allowed)
    | _, _ => none

/-- The loop of `validateGatewayMessage` over the fields of a spec. -/
def validateFields (type : String) (message : JsonValue) : MessageSpec → Option String
  | [] => none
  | (field, spec) :: rest =>
    match message.member field with
    | none =>
      if spec.optional ∧ spec.kind ≠ .present then validateFields type message rest
      else some (type ++ "." ++ field ++ " is required")
    | some value =>
      match checkField value spec with
      | some error => some (type ++ "." ++ field ++ " " ++ error)
      | none => validateFields type message rest

/-- Validate a post-hello message: an error text, or `none` when valid. Types without a spec are left to the router. -/
def validateGatewayMessage (message : JsonValue) : Option String :=
  if !message.isObject then some "message must be an object"
  else
    match (message.member "type").bind JsonValue.asString with
    | none => some "message.type must be a string"
    | some type =>
      match MESSAGE_SPECS.lookup type with
      | none => none
      | some spec => validateFields type message spec

/-- A field the handlers read as a string. -/
def stringField (message : JsonValue) (field : String) : Option String := (message.member field).bind JsonValue.asString

/-- The message as the handlers read it. -/
def readGatewayMessage (message : JsonValue) : Option GatewayMessage :=
  match stringField message "type" with
  | none => none
  | some type =>
    match type with
    | "backend_heartbeat" => ((message.member "epoch").bind JsonValue.asNumber).map .backendHeartbeat
    | "request_registry_snapshot" => some .requestRegistrySnapshot
    | "backend_server_message" =>
      (stringField message "backendId").map (fun backendId =>
        .backendServerMessage backendId (stringField message "targetPeerSessionId") message)
    | "push_notification_request" => (message.member "event").map .pushNotificationRequest
    | "ping" => some (.ping ((message.member "ts").bind JsonValue.asNumber))
    | "channel_open" =>
      (stringField message "target").map (fun target => .channelOpen target (stringField message "kind"))
    | "channel_reject" => (stringField message "channelId").map .channelReject
    | "channel_close" => (stringField message "channelId").map .channelClose
    | "topic_subscribe" =>
      (stringField message "backendId").bind (fun backendId =>
        (stringField message "topic").map (.topicSubscribe backendId))
    | "topic_unsubscribe" =>
      (stringField message "backendId").bind (fun backendId =>
        (stringField message "topic").map (.topicUnsubscribe backendId))
    | "topic_publish" =>
      (stringField message "topic").map (fun topic =>
        .topicPublish topic (message.member "payload") (((message.member "retain").bind JsonValue.asBool).getD false))
    | type => some (.unknown type)

/-! ## Handshake -/

/-- The loop of `validatePeerHelloV4` over the fields of the identity. -/
def validateIdentityFields (identity : JsonValue) : List String → Option String
  | [] => none
  | field :: rest =>
    match identity.member field with
    | none => validateIdentityFields identity rest
    | some v =>
      if v.asString.isNone then some ("peer_hello.identity." ++ field ++ " must be a string")
      else validateIdentityFields identity rest

def validateIdentity (message : JsonValue) : Option String :=
  match message.member "identity" with
  | none => none
  | some identity =>
    if !identity.isObject then some "peer_hello.identity must be an object"
    else validateIdentityFields identity ["deviceId", "instanceId", "channel", "name"]

def validateBackendHello (message : JsonValue) : Option String :=
  match message.member "backend" with
  | none => some "peer_hello.backend is required for client+backend peers"
  | some backend =>
    if !backend.isObject then some "peer_hello.backend is required for client+backend peers"
    else if ((backend.member "visible").bind JsonValue.asBool).isNone then
      some "peer_hello.backend.visible must be a boolean"
    else if ((backend.member "capabilities").bind JsonValue.asArray).isNone then
      some "peer_hello.backend.capabilities must be an array"
    else if ((backend.member "backendProtocolVersion").bind JsonValue.asNumber).isNone then
      some "peer_hello.backend.backendProtocolVersion must be a number"
    else none

/-- `peer_hello.peerType`, when it is one of the two. -/
def readPeerType (message : JsonValue) : Option PeerType :=
  match stringField message "peerType" with
  | some "client-only" => some .clientOnly
  | some "client+backend" => some .clientAndBackend
  | _ => none

def validatePeerHelloV4 (message : JsonValue) : Option String :=
  if !message.isObject then some "peer_hello must be an object"
  else if stringField message "type" ≠ some "peer_hello" then some "First message must be peer_hello"
  else if (stringField message "gatewaySecret").isNone then some "peer_hello.gatewaySecret must be a string"
  else if ((message.member "protocolVersion").bind JsonValue.asNumber).isNone then
    some "peer_hello.protocolVersion must be a number"
  else if ((stringField message "namespace").getD "") = "" then some "peer_hello.namespace must be a non-empty string"
  else if ((message.member "clientProtocolVersion").bind JsonValue.asNumber).isNone then
    some "peer_hello.clientProtocolVersion must be a number"
  else
    match readPeerType message with
    | none => some "peer_hello.peerType must be client-only or client+backend"
    | some peerType =>
      match validateIdentity message with
      | some error => some error
      | none => if peerType = .clientAndBackend then validateBackendHello message else none

/-- `message.identity ?? {}`. -/
def readIdentity (message : JsonValue) : PeerIdentity :=
  let field name := (message.member "identity").bind (fun identity => stringField identity name)
  { deviceId := field "deviceId", instanceId := field "instanceId", channel := field "channel", name := field "name" }

def readBackendHello (message : JsonValue) : Option BackendHello :=
  (message.member "backend").bind fun backend =>
    match (backend.member "visible").bind JsonValue.asBool, (backend.member "capabilities").bind JsonValue.asArray,
      (backend.member "backendProtocolVersion").bind JsonValue.asNumber with
    | some visible, some capabilities, some backendProtocolVersion =>
      some { visible, capabilities, backendProtocolVersion,
             minClientProtocolVersion := backend.member "minClientProtocolVersion" }
    | _, _, _ => none

/-- The hello as the handshake reads it. -/
def readPeerHello (message : JsonValue) : Option PeerHello :=
  match stringField message "gatewaySecret", (message.member "protocolVersion").bind JsonValue.asNumber,
    stringField message "namespace", readPeerType message with
  | some gatewaySecret, some protocolVersion, some ns, some peerType =>
    some { gatewaySecret, protocolVersion, ns, peerType, identity := readIdentity message,
           backend := readBackendHello message }
  | _, _, _, _ => none

/-! ## Proxy headers -/

/-- Client request headers forwarded to the backend. Everything else is dropped. -/
def PROXY_REQUEST_HEADER_ALLOWLIST : List String :=
  ["content-type", "accept", "x-request-id", "range", "if-none-match", "if-modified-since"]

/-- Backend response headers forwarded to the client. -/
def PROXY_RESPONSE_HEADER_ALLOWLIST : List String :=
  ["content-type", "content-length", "content-disposition", "content-encoding", "content-range", "accept-ranges",
   "cache-control", "etag", "last-modified", "expires", "vary", "location", "x-request-id"]

/-- One entry of `filterProxyResponseHeaders`. -/
def allowedResponseHeader (entry : String × JsonValue) : Option (String × String) :=
  match entry.2.asString with
  | none => none
  | some value => if entry.1.toLower ∈ PROXY_RESPONSE_HEADER_ALLOWLIST then some (entry.1, value) else none

def filterProxyResponseHeaders (headers : Option JsonValue) : List (String × String) :=
  match headers with
  | none => []
  | some headers => if headers.truthy then headers.entries.filterMap allowedResponseHeader else []

/-- A header value of the grammar `ServerResponse.setHeader` accepts: tab, visible ASCII, space and Latin-1. -/
def validHeaderValue (value : String) : Bool :=
  value.toList.all (fun c => c = '\t' || (0x20 ≤ c.toNat && c.toNat ≤ 0x7E) || (0x80 ≤ c.toNat && c.toNat ≤ 0xFF))

end ZclaudiaGateway
