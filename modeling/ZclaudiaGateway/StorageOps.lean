import ZclaudiaGateway.SqliteStorage

/-!
# The operations of the storage

What the gateway calls on its storage, with the values the call draws and the time it reads, and what the call returns. A
storage without a database does with maps in memory what `Storage` does, but for the operations below: a record that is
returned may be the one in the map.
-/

namespace ZclaudiaGateway

open Storage (CredentialInput CredentialDraw)

/-! ## Calls and results -/

/-- The public view of a credential. -/
structure CredentialInfo where
  id : String
  type : CredentialType
  ns : String
  name : String
  parentId : Option String
  createdAt : Nat
  expiresAt : Option ℚ
  revokedAt : Option Nat
  lastUsedAt : Option Nat
  backendId : Option String
  allowedBackends : Option (List String)
deriving DecidableEq

def CredentialRecord.info (record : CredentialRecord) : CredentialInfo where
  id := record.id
  type := record.type
  ns := record.ns
  name := record.name
  parentId := record.parentId
  createdAt := record.createdAt
  expiresAt := record.expiresAt
  revokedAt := record.revokedAt
  lastUsedAt := record.lastUsedAt
  backendId := record.backendId
  allowedBackends := record.allowedBackends

inductive StorageOp where
  | allocateEpoch
  | getMaxEpoch
  | getOrCreateBackendIdV4 (fresh : String) (now : Nat) (ns instanceId environment : String) (name : Option String)
  | getBackendIdentity (backendId : String)
  | deleteBackendIdentity (backendId : String)
  | touchBackendIdentity (now : Nat) (backendId : String) (rootCredentialId name : Option String)
  | listBackendIdentities
  | createCredential (fresh : CredentialDraw) (now : Nat) (input : CredentialInput)
  | findValidCredential (now : Nat) (token : String)
  | listCredentials
  | getCredential (id : String)
  | bindBackendCredential (id backendId : String)
  | setAllowedBackends (id : String) (allowedBackends : Option (List String))
  | revokeCredential (now : Nat) (id : String)
  | revokeCredentials (now : Nat) (ids : List String)
  | exchangeAccessCredential (fresh : CredentialDraw) (now : Nat) (parent : CredentialRecord) (ttlMs : Option (Option ℚ))
  | purgeRevokedCredentials (ids : Option (List String))

inductive StorageResult where
  | done
  | epoch (n : Nat)
  | backendId (id : String)
  | flag (b : Bool)
  | identity (identity : Option BackendIdentity)
  | identities (l : List BackendIdentity)
  | issued (credential : CredentialInfo) (token : String)
  | exchanged (credential : Option CredentialInfo) (token : String) (rotated : Bool)
  | credential (credential : Option CredentialInfo)
  | credentials (l : List CredentialInfo)
  | ids (l : List String)
deriving DecidableEq

namespace StorageResult

/-- Equal results, lists compared as sets. -/
def Same : StorageResult → StorageResult → Prop
  | identities l, identities l' => ∀ identity, identity ∈ l ↔ identity ∈ l'
  | credentials l, credentials l' => ∀ credential, credential ∈ l ↔ credential ∈ l'
  | ids l, ids l' => ∀ id, id ∈ l ↔ id ∈ l'
  | r, r' => r = r'

/-- Equal results but for the last use of a credential that was found. -/
def SameButUse : StorageResult → StorageResult → Prop
  | credential (some c), credential (some c') => { c with lastUsedAt := none } = { c' with lastUsedAt := none }
  | r, r' => Same r r'

end StorageResult

/-! ## In memory -/

namespace MemoryStorage

def getBackendIdentity (st : Storage) (backendId : String) : Option BackendIdentity :=
  st.listBackendIdentities.find? (fun identity => identity.backendId = backendId)

def deleteBackendIdentity (backendId : String) (st : Storage) : Bool × Storage :=
  match st.backendIdentities.entries.find? (fun p => p.2.backendId = backendId) with
  | some (key, _) => (true, { st with backendIdentities := st.backendIdentities.delete key })
  | none => (false, st)

def touchBackendIdentity (now : Nat) (backendId : String) (rootCredentialId name : Option String) (st : Storage) :
    Storage :=
  let touch (identity : BackendIdentity) : BackendIdentity :=
    { identity with
      lastSeenAt := some now
      lastCredentialId := (rootCredentialId.filter (· ≠ "")).or identity.lastCredentialId
      name := (name.filter (· ≠ "")).getD identity.name }
  { st with
    backendIdentities := st.backendIdentities.mapValues (fun _ identity =>
      if identity.backendId = backendId then touch identity else identity) }

def findValidCredential (hash : String → String) (now : Nat) (token : String) (st : Storage) :
    Option CredentialRecord × Storage :=
  match st.getCredentialByHash (hash token) with
  | none => (none, st)
  | some record =>
    if st.authenticates now record then
      -- The record is the one in the map: it is returned as the touch leaves it.
      let touch (c : CredentialRecord) : CredentialRecord := { c with lastUsedAt := some now }
      (some (touch record), { st with credentials := st.credentials.modify record.id touch })
    else (none, st)

def perform (hash : String → String) (op : StorageOp) (st : Storage) : StorageResult × Storage :=
  match op with
  | .allocateEpoch => st.allocateEpoch.map .epoch id
  | .getMaxEpoch => (.epoch st.maxEpoch, st)
  | .getOrCreateBackendIdV4 fresh now ns instanceId environment name =>
    (st.getOrCreateBackendIdV4 fresh now ns instanceId environment name).map .backendId id
  | .getBackendIdentity backendId => (.identity (getBackendIdentity st backendId), st)
  | .deleteBackendIdentity backendId => (deleteBackendIdentity backendId st).map .flag id
  | .touchBackendIdentity now backendId rootCredentialId name =>
    (.done, touchBackendIdentity now backendId rootCredentialId name st)
  | .listBackendIdentities => (.identities st.listBackendIdentities, st)
  | .createCredential fresh now input =>
    let (credential, token, st) := st.createCredential hash fresh now input
    (.issued credential.info token, st)
  | .findValidCredential now token =>
    (findValidCredential hash now token st).map (fun found => .credential (found.map CredentialRecord.info)) id
  | .listCredentials => (.credentials (st.listCredentials.map CredentialRecord.info), st)
  | .getCredential id => (.credential ((st.getCredential id).map CredentialRecord.info), st)
  | .bindBackendCredential id backendId =>
    (.flag ((st.getCredential id).any Storage.isUnboundBackend), st.bindBackendCredential id backendId)
  | .setAllowedBackends id allowedBackends =>
    (.flag ((st.getCredential id).any (fun c => c.type = .device ∧ c.revokedAt = none)),
      st.setAllowedBackends id allowedBackends)
  | .revokeCredential now credentialId => (st.revokeCredential now credentialId).map .ids id
  | .revokeCredentials now ids => (st.revokeCredentials now ids).map .ids id
  | .exchangeAccessCredential fresh now parent ttlMs =>
    let rotated := (st.findAccessCredential parent.id).isSome
    let (credential, token, st) := st.exchangeAccessCredential hash fresh now parent ttlMs
    (.exchanged (some credential.info) token rotated, st)
  | .purgeRevokedCredentials ids => (st.purgeRevokedCredentials ids).map .ids id

def run (hash : String → String) (st : Storage) : List StorageOp → List StorageResult × Storage
  | [] => ([], st)
  | op :: ops =>
    let (result, st) := perform hash op st
    (run hash st ops).map (result :: ·) id

end MemoryStorage

/-! ## In SQLite -/

namespace SqliteStorage

def perform (hash : String → String) (op : StorageOp) (db : SqliteStorage) :
    Except StorageError (StorageResult × SqliteStorage) :=
  match op with
  | .allocateEpoch => db.allocateEpoch.map (Prod.map .epoch id)
  | .getMaxEpoch => db.getMaxEpoch.map (fun n => (.epoch n, db))
  | .getOrCreateBackendIdV4 fresh now ns instanceId environment name =>
    (db.getOrCreateBackendIdV4 fresh now ns instanceId environment name).map (Prod.map .backendId id)
  | .getBackendIdentity backendId => .ok (.identity (db.getBackendIdentity backendId), db)
  | .deleteBackendIdentity backendId => (db.deleteBackendIdentity backendId).map (Prod.map .flag id)
  | .touchBackendIdentity now backendId rootCredentialId name =>
    (db.touchBackendIdentity now backendId rootCredentialId name).map (fun db => (.done, db))
  | .listBackendIdentities => .ok (.identities db.listBackendIdentities, db)
  | .createCredential fresh now input =>
    (db.createCredential hash fresh now input).map (fun (credential, token, db) => (.issued credential.info token, db))
  | .findValidCredential now token =>
    (db.findValidCredential hash now token).map
      (Prod.map (fun found => .credential (found.map CredentialRecord.info)) id)
  | .listCredentials => .ok (.credentials (db.listCredentials.map CredentialRecord.info), db)
  | .getCredential id => .ok (.credential ((db.getCredential id).map CredentialRecord.info), db)
  | .bindBackendCredential credentialId backendId =>
    (db.bindBackendCredential credentialId backendId).map (Prod.map .flag id)
  | .setAllowedBackends credentialId allowedBackends =>
    (db.setAllowedBackends credentialId allowedBackends).map (Prod.map .flag id)
  | .revokeCredential now credentialId => (db.revokeCredential now credentialId).map (Prod.map .ids id)
  | .revokeCredentials now ids => (db.revokeCredentials now ids).map (Prod.map .ids id)
  | .exchangeAccessCredential fresh now parent ttlMs =>
    (db.exchangeAccessCredential hash fresh now parent ttlMs).map (fun ((credential, token, rotated), db) =>
      (.exchanged (credential.map CredentialRecord.info) token rotated, db))
  | .purgeRevokedCredentials ids => (db.purgeRevokedCredentials ids).map (Prod.map .ids id)

def run (hash : String → String) (db : SqliteStorage) :
    List StorageOp → Except StorageError (List StorageResult × SqliteStorage)
  | [] => .ok ([], db)
  | op :: ops =>
    (db.perform hash op).bind (fun (result, db) => (run hash db ops).map (Prod.map (result :: ·) id))

end SqliteStorage

end ZclaudiaGateway
