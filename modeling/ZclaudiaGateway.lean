import ZclaudiaGateway.Lemmas.Connections
import ZclaudiaGateway.Lemmas.Sample
import ZclaudiaGateway.Theorems.Upgrade
import ZclaudiaGateway.Theorems.Handshake
import ZclaudiaGateway.Theorems.Messages
import ZclaudiaGateway.Lemmas.Outputs
import ZclaudiaGateway.Theorems.Ownership
import ZclaudiaGateway.Lemmas.Identities
import ZclaudiaGateway.Theorems.Identities
import ZclaudiaGateway.Lemmas.Credentials
import ZclaudiaGateway.Theorems.Credentials
import ZclaudiaGateway.Lemmas.Lineage
import ZclaudiaGateway.Theorems.Lineage
import ZclaudiaGateway.Lemmas.Registrations
import ZclaudiaGateway.Theorems.Deletion
import ZclaudiaGateway.Lemmas.Topics
import ZclaudiaGateway.Lemmas.TopicHistory
import ZclaudiaGateway.Lemmas.Scopes
import ZclaudiaGateway.Lemmas.Reach
import ZclaudiaGateway.Lemmas.Deliveries
import ZclaudiaGateway.Theorems.Isolation
import ZclaudiaGateway.Theorems.Topics
import ZclaudiaGateway.Lib.PercentEncoding
import ZclaudiaGateway.Theorems.Quota
import ZclaudiaGateway.Lemmas.Answers
import ZclaudiaGateway.Theorems.Truncation
import ZclaudiaGateway.Lemmas.Relay
import ZclaudiaGateway.Lemmas.RelayRun
import ZclaudiaGateway.Theorems.ByteRate
import ZclaudiaGateway.Theorems.Pauses
import ZclaudiaGateway.Database
import ZclaudiaGateway.Theorems.Migration
import ZclaudiaGateway.Lemmas.Client
import ZclaudiaGateway.Theorems.ClientSession
import ZclaudiaGateway.Lemmas.ClientOps
import ZclaudiaGateway.Theorems.Replies
import ZclaudiaGateway.Lemmas.Buckets
import ZclaudiaGateway.Theorems.RateLimits
import ZclaudiaGateway.Http
import ZclaudiaGateway.Theorems.Http
import ZclaudiaGateway.Lemmas.Presence
import ZclaudiaGateway.Theorems.Registry
import ZclaudiaGateway.Theorems.Overview
import ZclaudiaGateway.Theorems.Revocation
import ZclaudiaGateway.Lemmas.TopicSession
import ZclaudiaGateway.Theorems.Subscriptions
import ZclaudiaGateway.Lemmas.Backend
import ZclaudiaGateway.Theorems.BackendSession
import ZclaudiaGateway.Theorems.References
import ZclaudiaGateway.Theorems.Fencing
import ZclaudiaGateway.Sdk.Asgi
import ZclaudiaGateway.Theorems.ProxyTarget
import ZclaudiaGateway.Theorems.ErrorListeners
import ZclaudiaGateway.Lemmas.RequestBody
import ZclaudiaGateway.Theorems.RequestBody
import ZclaudiaGateway.Theorems.Receive
import ZclaudiaGateway.Theorems.ResponseHead
import ZclaudiaGateway.Lemmas.ClientIssues
import ZclaudiaGateway.Lemmas.ClientStages
import ZclaudiaGateway.Theorems.Connecting
import ZclaudiaGateway.Lemmas.ClientTopics
import ZclaudiaGateway.Theorems.Resubscription
import ZclaudiaGateway.Lib.Binary64
import ZclaudiaGateway.Sdk.PythonBackend
import ZclaudiaGateway.Lemmas.PythonBackend
import ZclaudiaGateway.Theorems.Backoff
import ZclaudiaGateway.Lib.SqlTable
import ZclaudiaGateway.SqliteStorage
import ZclaudiaGateway.StorageOps
import ZclaudiaGateway.Lemmas.SqliteStorage
import ZclaudiaGateway.Theorems.Fallback
import ZclaudiaGateway.Lemmas.Ops
import ZclaudiaGateway.Lib.Protocol
import ZclaudiaGateway.Lemmas.Acts
import ZclaudiaGateway.Lemmas.Exchanges
import ZclaudiaGateway.Lemmas.Pairing
import ZclaudiaGateway.Theorems.ResponseProtocol
import ZclaudiaGateway.Theorems.ResponseFidelity
import ZclaudiaGateway.Theorems.RelayFidelity
import ZclaudiaGateway.Theorems.AdminAccess
import ZclaudiaGateway.Theorems.ConnectionLimit
import ZclaudiaGateway.Theorems.ExchangeFidelity
import ZclaudiaGateway.Theorems.Timeouts
