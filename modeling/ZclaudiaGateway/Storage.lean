import ZclaudiaGateway.Lib.Binary64
import ZclaudiaGateway.Lib.InsertionMap
import Mathlib.Algebra.Order.Ring.Rat

/-!
# Storage

`src/storage.ts`: backend identities, issued credentials and the epoch counter. The tables are keyed as the source keys them:
credentials by id, identities by their identity key. Random values (ids, token secrets) and the clock are arguments. Lifetimes
are rationals, since an admin may issue a credential for a fraction of a day; what is computed with them is rounded to the format
of the language's numbers. Backend ids are the UUIDs minted here, never the empty string, so `!credential.backendId` is `none`.
-/

namespace ZclaudiaGateway

inductive CredentialType where
  | device
  | backend
  | backendAccess
deriving DecidableEq

/-- `CREDENTIAL_TOKEN_PREFIXES`. -/
def CredentialType.tokenPrefix : CredentialType → String
  | device => "zgd_"
  | backend => "zgb_"
  | backendAccess => "zga_"

/-- `DEFAULT_DEVICE_TTL_MS`. -/
def DEFAULT_DEVICE_TTL_MS : ℚ := 180 * 24 * 60 * 60 * 1000

/-- `DEFAULT_BACKEND_ACCESS_TTL_MS`. -/
def DEFAULT_BACKEND_ACCESS_TTL_MS : ℚ := 24 * 60 * 60 * 1000

structure CredentialRecord where
  id : String
  type : CredentialType
  tokenHash : String
  ns : String
  name : String
  /-- Issuing credential for exchanged tokens. -/
  parentId : Option String
  createdAt : Nat
  expiresAt : Option ℚ
  revokedAt : Option Nat
  lastUsedAt : Option Nat
  /-- The backend this credential is; `none` for a legacy backend credential and for devices. -/
  backendId : Option String
  /-- Backends a device credential may reach; `none` is the whole namespace. -/
  allowedBackends : Option (List String)
deriving DecidableEq

structure BackendIdentity where
  backendId : String
  tenant : String
  ns : String
  instanceId : String
  environment : String
  name : String
  createdAt : Nat
  updatedAt : Nat
  lastCredentialId : Option String
  lastSeenAt : Option Nat
deriving DecidableEq

structure Storage where
  credentials : InsertionMap String CredentialRecord
  backendIdentities : InsertionMap String BackendIdentity
  maxEpoch : Nat

def backendIdentityKey (ns instanceId environment : String) (tenant : String := "") : String :=
  "\x1f".intercalate [tenant, ns, instanceId, environment]

/-- Identity key for a credential-bound backend. -/
def boundIdentityKey (backendId : String) : String := "bound:" ++ backendId

namespace Storage

/-! ## Epochs -/

/-- Allocate a new epoch: the counter before it moves is the greatest epoch handed out. -/
def allocateEpoch (st : Storage) : Nat × Storage := (st.maxEpoch + 1, { st with maxEpoch := st.maxEpoch + 1 })

/-! ## Backend identities -/

/-- `name` replaces the stored one when it is given, not empty and different. -/
def renameIdentity (name : Option String) (now : Nat) (identity : BackendIdentity) : BackendIdentity :=
  match name with
  | some name => if name ≠ "" ∧ name ≠ identity.name then { identity with name, updatedAt := now } else identity
  | none => identity

def getOrCreateBackendIdV4 (fresh : String) (now : Nat) (ns instanceId environment : String) (name : Option String)
    (st : Storage) : String × Storage :=
  let key := backendIdentityKey ns instanceId environment
  match st.backendIdentities.get key with
  | some existing =>
    (existing.backendId, { st with backendIdentities := st.backendIdentities.modify key (renameIdentity name now) })
  | none =>
    (fresh, { st with
      backendIdentities := st.backendIdentities.set key
        { backendId := fresh, tenant := "", ns, instanceId, environment, name := name.getD "", createdAt := now,
          updatedAt := now, lastCredentialId := none, lastSeenAt := none } })

def createBoundBackendIdentity (fresh : String) (now : Nat) (ns name : String) (st : Storage) : Storage :=
  { st with
    backendIdentities := st.backendIdentities.set (boundIdentityKey fresh)
      { backendId := fresh, tenant := "", ns, instanceId := "", environment := "", name, createdAt := now,
        updatedAt := now, lastCredentialId := none, lastSeenAt := none } }

def getBackendIdentity (st : Storage) (backendId : String) : Option BackendIdentity :=
  st.backendIdentities.values.find? (fun identity => identity.backendId = backendId)

/-- The newest first. -/
def listBackendIdentities (st : Storage) : List BackendIdentity :=
  st.backendIdentities.values.mergeSort (fun a b => b.createdAt ≤ a.createdAt)

def deleteBackendIdentity (backendId : String) (st : Storage) : Storage :=
  { st with backendIdentities := st.backendIdentities.filter (fun _ identity => identity.backendId ≠ backendId) }

/-- Record that a backend identity was seen: on registration with the root credential, on going offline with none. -/
def touchBackendIdentity (now : Nat) (backendId : String) (rootCredentialId name : Option String) (st : Storage) :
    Storage :=
  let touch (identity : BackendIdentity) : BackendIdentity :=
    { identity with
      lastSeenAt := some now
      lastCredentialId := rootCredentialId.or identity.lastCredentialId
      name := (name.filter (· ≠ "")).getD identity.name }
  { st with
    backendIdentities := st.backendIdentities.mapValues (fun _ identity =>
      if identity.backendId = backendId then touch identity else identity) }

/-! ## Credentials -/

/-- The input of `createCredential`. `ttlMs`: `none` is undefined, `some none` never expires. -/
structure CredentialInput where
  type : CredentialType
  ns : String
  name : Option String := none
  ttlMs : Option (Option ℚ) := none
  parentId : Option String := none
  backendId : Option String := none
  allowedBackends : Option (List String) := none

/-- Random values one issue of a credential may draw. -/
structure CredentialDraw where
  id : String
  secret : String
  backendId : String

/-- The lifetime of an issued credential: the default of its type when none is given. -/
def lifetime (type : CredentialType) : Option (Option ℚ) → Option ℚ
  | some ttlMs => ttlMs
  | none =>
    match type with
    | .device => some DEFAULT_DEVICE_TTL_MS
    | .backend => none
    | .backendAccess => some DEFAULT_BACKEND_ACCESS_TTL_MS

/-- `now + ttlMs`. A sum beyond the largest number is left as it is. -/
def expiry (now : Nat) (ttlMs : ℚ) : ℚ := Binary64.rounded (now + ttlMs)

/-- Issue a credential. Returns the record and the plaintext token. -/
def createCredential (hash : String → String) (fresh : CredentialDraw) (now : Nat) (input : CredentialInput)
    (st : Storage) : CredentialRecord × String × Storage :=
  let token := input.type.tokenPrefix ++ fresh.secret
  let bindsNew : Bool := input.type = .backend && input.backendId.isNone
  let record : CredentialRecord :=
    { id := fresh.id
      type := input.type
      tokenHash := hash token
      ns := input.ns
      name := input.name.getD ""
      parentId := input.parentId
      createdAt := now
      expiresAt := (lifetime input.type input.ttlMs).map (expiry now)
      revokedAt := none
      lastUsedAt := none
      backendId :=
        match input.type with
        | .backend => some (input.backendId.getD fresh.backendId)
        | .backendAccess => input.backendId
        | .device => none
      allowedBackends := if input.type = .device then input.allowedBackends else none }
  let st := if bindsNew then st.createBoundBackendIdentity fresh.backendId now input.ns (input.name.getD "") else st
  (record, token, { st with credentials := st.credentials.set record.id record })

def getCredentialByHash (st : Storage) (tokenHash : String) : Option CredentialRecord :=
  st.credentials.values.find? (fun c => c.tokenHash = tokenHash)

/-- The newest first. -/
def listCredentials (st : Storage) : List CredentialRecord :=
  st.credentials.values.mergeSort (fun a b => b.createdAt ≤ a.createdAt)

def getCredential (st : Storage) (id : String) : Option CredentialRecord := st.credentials.get id

/-- Neither revoked nor past its expiry. -/
def live (now : Nat) (record : CredentialRecord) : Bool :=
  record.revokedAt.isNone && (record.expiresAt.all (fun expiresAt => (now : ℚ) ≤ expiresAt))

/-- A credential authenticates while it is live and, if it was exchanged, its parent is there and live. -/
def authenticates (st : Storage) (now : Nat) (record : CredentialRecord) : Bool :=
  live now record &&
    match record.parentId with
    | none => true
    | some parentId => (st.getCredential parentId).any (live now)

/-- Resolve a presented token to its credential if it is valid, and record the use: the row is read before it is touched. -/
def findValidCredential (hash : String → String) (now : Nat) (token : String) (st : Storage) :
    Option CredentialRecord × Storage :=
  match st.getCredentialByHash (hash token) with
  | none => (none, st)
  | some record =>
    if st.authenticates now record then
      (some record,
       { st with credentials := st.credentials.modify record.id (fun c => { c with lastUsedAt := some now }) })
    else (none, st)

/-- An unrevoked backend credential that is not bound to an identity yet. -/
def isUnboundBackend (record : CredentialRecord) : Bool :=
  record.type = .backend && record.revokedAt.isNone && record.backendId.isNone

/-- Bind a legacy backend credential and its live access tokens to an identity. -/
def bindBackendCredential (id backendId : String) (st : Storage) : Storage :=
  if (st.getCredential id).any isUnboundBackend then
    { st with
      credentials := st.credentials.mapValues (fun _ c =>
        if (c.id = id ∨ c.parentId = some id) ∧ c.revokedAt = none then { c with backendId := some backendId } else c) }
  else st

/-- Replace a device credential's backend scope. -/
def setAllowedBackends (id : String) (allowedBackends : Option (List String)) (st : Storage) : Storage :=
  { st with
    credentials := st.credentials.modify id (fun c =>
      if c.type = .device ∧ c.revokedAt = none then { c with allowedBackends } else c) }

/-- The unrevoked credentials exchanged from a credential. -/
def unrevokedChildren (st : Storage) (id : String) : List String :=
  (st.credentials.values.filter (fun c => c.parentId = some id ∧ c.revokedAt = none)).map (·.id)

/-- Revoke a credential, cascading to credentials exchanged from it. Returns the ids actually revoked. -/
def revokeCredential (now : Nat) (id : String) (st : Storage) : List String × Storage :=
  match st.getCredential id with
  | none => ([], st)
  | some record =>
    if record.revokedAt.isSome then ([], st)
    else
      let revokeSelf := st.credentials.modify id (fun c => { c with revokedAt := some now })
      let st' : Storage := { st with credentials := revokeSelf }
      (id :: st'.unrevokedChildren id,
       { st' with
         credentials := revokeSelf.mapValues (fun _ c =>
           if c.parentId = some id ∧ c.revokedAt = none then { c with revokedAt := some now } else c) })

/-- Revoke several credentials, each cascading. -/
def revokeCredentials (now : Nat) (ids : List String) (st : Storage) : List String × Storage :=
  ids.foldl (fun acc id =>
    let r := acc.2.revokeCredential now id
    (acc.1 ++ r.1, r.2)) ([], st)

/-- `access:` and the parent's name, or its id when it has none. -/
def accessCredentialName (parent : CredentialRecord) : String :=
  "access:" ++ (if parent.name = "" then parent.id else parent.name)

def findAccessCredential (st : Storage) (parentId : String) : Option CredentialRecord :=
  st.credentials.values.find? (fun c => c.type = .backendAccess ∧ c.parentId = some parentId)

/-- Exchange an enrollment credential for its access credential: one row per enrollment, rotated in place. -/
def exchangeAccessCredential (hash : String → String) (fresh : CredentialDraw) (now : Nat) (parent : CredentialRecord)
    (ttlMs : Option (Option ℚ)) (st : Storage) : CredentialRecord × String × Storage :=
  match st.findAccessCredential parent.id with
  | none =>
    st.createCredential hash fresh now
      { type := .backendAccess, ns := parent.ns, name := some (accessCredentialName parent), parentId := some parent.id,
        ttlMs, backendId := parent.backendId }
  | some existing =>
    let token := CredentialType.backendAccess.tokenPrefix ++ fresh.secret
    let rotate (c : CredentialRecord) : CredentialRecord :=
      { c with
        tokenHash := hash token
        ns := parent.ns
        name := accessCredentialName parent
        createdAt := now
        expiresAt := (lifetime .backendAccess ttlMs).map (expiry now)
        revokedAt := none
        backendId := parent.backendId }
    (rotate existing, token, { st with credentials := st.credentials.modify existing.id rotate })

/-- Permanently delete revoked credentials, all of them or only the ids given. -/
def purgeRevokedCredentials (ids : Option (List String)) (st : Storage) : List String × Storage :=
  let purged (c : CredentialRecord) : Bool := c.revokedAt.isSome && ids.all (fun ids => c.id ∈ ids)
  ((st.credentials.values.filter purged).map (·.id),
   { st with credentials := st.credentials.filter (fun _ c => !purged c) })

end Storage

end ZclaudiaGateway
