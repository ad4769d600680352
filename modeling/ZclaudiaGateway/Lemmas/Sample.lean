import ZclaudiaGateway.Sdk.Client
import ZclaudiaGateway.Server

/-!
# A concrete gateway

The context and the store of the runs that show a theorem's hypotheses satisfiable or a claim of the documentation false:
identifiers are repetitions of a letter, `JSON.parse` knows the texts of a list of values, and `new URL` takes a target apart at
its question mark. The store holds two backend credentials bound to one backend and a device credential.
-/

namespace JsonValue

mutual

/-- `JSON.stringify`, of strings that need no escape and of integral numbers. -/
def text : JsonValue → String
  | null => "null"
  | bool b => if b then "true" else "false"
  | num (.finite q) => toString q.num
  | num (.infinity negative) => if negative then "-1e999" else "1e999"
  | str s => "\"" ++ s ++ "\""
  | arr elems => "[" ++ ",".intercalate (textElems elems) ++ "]"
  | obj members => "\x7b" ++ ",".intercalate (textMembers members) ++ "\x7d"

def textElems : List JsonValue → List String
  | [] => []
  | v :: vs => text v :: textElems vs

def textMembers : List (String × JsonValue) → List String
  | [] => []
  | (name, v) :: rest => ("\"" ++ name ++ "\":" ++ text v) :: textMembers rest

end

mutual

/-- How deep a value is nested. -/
def depth : JsonValue → Nat
  | arr elems => depths elems + 1
  | obj members => depthMembers members + 1
  | _ => 0

def depths : List JsonValue → Nat
  | [] => 0
  | v :: vs => max (depth v) (depths vs)

def depthMembers : List (String × JsonValue) → Nat
  | [] => 0
  | (_, v) :: rest => max (depth v) (depthMembers rest)

end

end JsonValue

namespace ZclaudiaGateway

/-- The text frame of a value. -/
def textFrame (v : JsonValue) : Frame := { data := v.text.toUTF8.data.toList, isBinary := false }

/-! ## The context -/

/-- Identifiers that repeat one letter, a longer one for each draw. -/
def IdSource.letters (c : Char) : IdSource where
  draw n := String.ofList (List.replicate (n + 1) c)
  injective := by
    intro m n h
    have hlength := congrArg List.length (String.ofList_injective h)
    simpa using hlength
  nonempty := by
    intro n h
    have hnil : List.replicate (n + 1) c = [] := String.ofList_injective (h.trans rfl)
    simp at hnil

/-- A path and its ticket; a target that starts with `//` has no host. -/
def sampleURL (target : String) : Option RequestUrl :=
  match target.toList with
  | '/' :: '/' :: _ => none
  | cs =>
    some
      { pathname := String.ofList (cs.takeWhile (· ≠ '?'))
        ticket :=
          match cs.dropWhile (· ≠ '?') with
          | [] => none
          | query => some (String.ofList (query.drop "?ticket=".length)) }

/-- A call stack of a hundred frames, each level of a value taking one. -/
def sampleStack : JsonValue.CallStack where
  joins elems := decide (JsonValue.depths elems < 100)

/-- The context whose parser knows the given values. -/
def Ctx.sample (values : List JsonValue) : Ctx where
  config := {}
  sessionIds := .letters 's'
  recoveryTokens := .letters 'r'
  channelIds := .letters 'c'
  tickets := .letters 't'
  backendIds := .letters 'b'
  credentialIds := .letters 'i'
  secrets := .letters 'x'
  hashCredentialToken := id
  numberToString _ := "0"
  jsonParse data := values.find? (fun v => v.text.toUTF8.data.toList = data)
  stack := sampleStack
  newURL := sampleURL
  newURL_slashes := rfl

/-! ## The store -/

/-- A credential of the namespace `n` that never expires. -/
def sampleCredential (id token : String) (type : CredentialType) (backendId : Option String) : CredentialRecord :=
  { id, type, tokenHash := token, ns := "n", name := "", parentId := none, createdAt := 0, expiresAt := none,
    revokedAt := none, lastUsedAt := none, backendId, allowedBackends := none }

def sampleStorage : Storage :=
  { credentials :=
      ((InsertionMap.empty.set "old" (sampleCredential "old" "zgb_old" .backend (some "B"))).set "new"
        (sampleCredential "new" "zgb_new" .backend (some "B"))).set "device" (sampleCredential "device" "zgd_device" .device none)
    backendIdentities := .empty
    maxEpoch := 0 }

/-- A hello with the given token, of a backend or of a client. -/
def sampleHello (token : String) (isBackend : Bool) : JsonValue :=
  .obj
    ([("type", .str "peer_hello"), ("gatewaySecret", .str token), ("protocolVersion", .num (.finite 4)),
      ("namespace", .str "n"), ("clientProtocolVersion", .num (.finite 4)),
      ("peerType", .str (if isBackend then "client+backend" else "client-only"))] ++
      if isBackend then
        [("backend", .obj
          [("visible", .bool true), ("capabilities", .arr []), ("backendProtocolVersion", .num (.finite 4))])]
      else [])

/-- The message that opens a channel to the backend `B`. -/
def sampleOpen : JsonValue := .obj [("type", .str "channel_open"), ("target", .str "B")]

/-- A text message on a socket. -/
def Event.text (ws : SocketId) (v : JsonValue) : Event := .message ws (textFrame v) 0 true

/-- A connection, on the socket of the event's number. -/
def Event.connect : Event := .upgrade "127.0.0.1" "/ws" true

/-- One byte each second. -/
def sampleRateCtx : Ctx :=
  { Ctx.sample [sampleHello "zgb_old" true, sampleHello "zgd_device" false, sampleOpen] with
    config := { channelByteRateLimit := some 1 } }

/-- A channel is opened and paired: the socket 5 is its client, the socket 6 its backend. -/
def samplePaired : List Event :=
  [.connect, .text 0 (sampleHello "zgb_old" true), .connect, .text 2 (sampleHello "zgd_device" false), .text 2 sampleOpen,
    .upgrade "127.0.0.1" "/channel/ccccc?ticket=ttttttttt" true,
    .upgrade "127.0.0.1" "/channel/ccccc?ticket=tttttttttt" true]

/-- A device's request to the backend `B`. -/
def sampleRequest : ProxyRequest :=
  { ip := "127.0.0.1"
    method := "GET"
    headers := { values := .empty, valid := fun _ _ h => nomatch h }
    backendId := "B"
    suffix := "log"
    url := "/api/proxy/B/log" }

/-! ## A client -/

def sampleClientOptions : GatewayClientOptions :=
  { credential := "zgd_sample"
    ns := "home"
    identity := ⟨none, none, none, none⟩
    reconnect := true
    reconnectMinMs := 1000
    reconnectMaxMs := 30000 }

/-- The first session of a client, up to its `peer_ready`. -/
def sampleConnect : List ClientEvent :=
  [.connect, .opened 0, .resume 0, .message 0 (some (.peerReady 4 "session" "recovery" none [])), .resume 0]

end ZclaudiaGateway
