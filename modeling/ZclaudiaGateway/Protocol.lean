import ZclaudiaGateway.Lib.InsertionMap
import ZclaudiaGateway.Lib.JsonValue

/-!
# Wire types

The messages of protocol v4 (`packages/protocol/src/index.ts`) as the gateway reads and sends them. Opaque payloads are
`JsonValue`. A field that the gateway neither reads nor forwards has no place here.
-/

namespace ZclaudiaGateway

/-- A WebSocket the gateway has accepted. -/
abbrev SocketId := Nat

/-- An HTTP request with its response, proxied over an internal channel. -/
abbrev ExchangeId := Nat

abbrev Bytes := List UInt8

/-- A WebSocket data frame: `data` and `isBinary` of the `message` event. -/
structure Frame where
  data : Bytes
  isBinary : Bool
deriving DecidableEq

/-! ## Handshake -/

inductive PeerType where
  | clientOnly
  | clientAndBackend
deriving DecidableEq

/-- Self-reported peer description. -/
structure PeerIdentity where
  deviceId : Option String
  instanceId : Option String
  channel : Option String
  name : Option String

/-- `peer_hello.backend`. -/
structure BackendHello where
  visible : Bool
  capabilities : List JsonValue
  backendProtocolVersion : JsNumber
  minClientProtocolVersion : Option JsonValue

/-- The fields of `peer_hello` that the handshake reads. `ns` is `namespace`. -/
structure PeerHello where
  gatewaySecret : String
  protocolVersion : JsNumber
  ns : String
  peerType : PeerType
  identity : PeerIdentity
  backend : Option BackendHello

/-- An online backend (`BackendPresenceV4`). -/
structure BackendPresence where
  ns : String
  backendId : String
  instanceId : String
  deviceId : String
  name : String
  channel : String
  visible : Bool
  capabilities : List JsonValue
  backendProtocolVersion : JsNumber
  minClientProtocolVersion : Option JsonValue
  epoch : Nat
  connectedAt : Nat
  lastSeenAt : Nat
  gatewayProtocolVersion : Nat

/-- `peer_ready.backend`. -/
structure BackendGrant where
  backendId : String
  epoch : Nat
  leaseTtlMs : Nat

/-! ## Control messages -/

/-- A control message from a peer, after validation. -/
inductive GatewayMessage where
  | backendHeartbeat (epoch : JsNumber)
  | requestRegistrySnapshot
  | backendServerMessage (backendId : String) (targetPeerSessionId : Option String) (raw : JsonValue)
  | pushNotificationRequest (event : JsonValue)
  | ping (ts : Option JsNumber)
  | channelOpen (target : String) (kind : Option String)
  | channelReject (channelId : String)
  | channelClose (channelId : String)
  | topicSubscribe (backendId topic : String)
  | topicUnsubscribe (backendId topic : String)
  | topicPublish (topic : String) (payload : Option JsonValue) (retain : Bool)
  /-- A type the router does not know. -/
  | unknown (type : String)

/-- `gateway_error.code`. -/
inductive GatewayErrorCode where
  | invalidMessage
  | protocolVersionMismatch
  | unauthorized
  | backendOffline
  | rateLimited
deriving DecidableEq

/-- `channel_closed.reason`. -/
inductive ChannelClosedReason where
  | closed
  | rejected
  | timeout
  | epochChanged
  | backendOffline
deriving DecidableEq

/-- The reason's wire text, which is also the close reason of the data sockets. -/
def ChannelClosedReason.text : ChannelClosedReason → String
  | closed => "closed"
  | rejected => "rejected"
  | timeout => "timeout"
  | epochChanged => "epoch_changed"
  | backendOffline => "backend_offline"

/-- A control message to a peer. -/
inductive GatewayToPeer where
  | peerReady (protocolVersion : Nat) (peerSessionId recoveryToken : String) (backend : Option BackendGrant)
      (registrySync : List BackendPresence)
  | registrySnapshot (items : List BackendPresence)
  | gatewayError (code : GatewayErrorCode) (message : String)
  | heartbeatAck (epoch : JsNumber) (streamDemand : Bool)
  | pong (ts : Option JsNumber)
  | channelReady (channelId ticket dataPath : String)
  | channelOffer (channelId : String) (kind sourcePeerSessionId : Option String) (ticket dataPath : String)
  | channelClosed (channelId : String) (reason : ChannelClosedReason)
  | topicSubscribed (backendId topic : String)
  | topicUnsubscribed (backendId topic : String)
  | topicMessage (backendId topic : String) (payload : Option JsonValue)
  | backendServerMessage (raw : JsonValue)

/-- A text frame the gateway sends on the data socket of an HTTP channel. -/
inductive HttpRequestFrame where
  | request (method path : String) (headers : List (String × String))
  | requestEnd
deriving DecidableEq

/-- Close code of a backend's control connection that a newer connection for the same backendId replaced. -/
def GATEWAY_CLOSE_BACKEND_REPLACED : Nat := 4001

end ZclaudiaGateway
