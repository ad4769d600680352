import ZclaudiaGateway.Database
import ZclaudiaGateway.Lib.JsonValue
import ZclaudiaGateway.Lib.SqlTable

/-!
# The storage in SQLite

`src/storage.ts` with a database: every operation of the storage as the statements it runs. A statement that breaks a constraint
of its table fails and ends the operation. A JSON text is the value it stands for, and a column that holds one is read back as
the value that was written.
-/

namespace ZclaudiaGateway

open Storage (CredentialInput CredentialDraw lifetime live accessCredentialName)

/-! ## Rows -/

/-- A row of `credentials`. -/
structure CredentialRow where
  id : String
  type : CredentialType
  tokenHash : String
  ns : String
  name : String
  parentId : Option String
  createdAt : Nat
  expiresAt : Option ℚ
  revokedAt : Option Nat
  lastUsedAt : Option Nat
  backendId : Option String
  allowedBackendsJson : Option JsonValue

/-- `JSON.stringify` of a list of strings. -/
def stringifyStrings (l : List String) : JsonValue := .arr (l.map .str)

/-- `JSON.parse(...) as string[]`. -/
def parseStrings : JsonValue → List String
  | .arr elems => elems.filterMap JsonValue.asString
  | _ => []

/-- The columns of an `INSERT`. -/
def CredentialRow.ofRecord (record : CredentialRecord) : CredentialRow where
  id := record.id
  type := record.type
  tokenHash := record.tokenHash
  ns := record.ns
  name := record.name
  parentId := record.parentId
  createdAt := record.createdAt
  expiresAt := record.expiresAt
  revokedAt := record.revokedAt
  lastUsedAt := record.lastUsedAt
  backendId := record.backendId
  allowedBackendsJson := record.allowedBackends.map stringifyStrings

def credentialFromRow (row : CredentialRow) : CredentialRecord where
  id := row.id
  type := row.type
  tokenHash := row.tokenHash
  ns := row.ns
  name := row.name
  parentId := row.parentId
  createdAt := row.createdAt
  expiresAt := row.expiresAt
  revokedAt := row.revokedAt
  lastUsedAt := row.lastUsedAt
  backendId := row.backendId
  allowedBackends := row.allowedBackendsJson.map parseStrings

/-- A row of `backend_identities` under its `identity_key`. -/
abbrev IdentityRow := String × BackendIdentity

/-- What the index on the access credentials holds of a row; NULL is not equal to NULL. -/
def CredentialRow.accessParent (row : CredentialRow) : Option String :=
  if row.type = .backendAccess then row.parentId else none

/-- The primary key, the unique token hashes and the unique index on the parents of access credentials. -/
structure CredentialConstraints (rows : List CredentialRow) : Prop where
  ids : (rows.map (·.id)).Nodup
  tokenHashes : (rows.map (·.tokenHash)).Nodup
  accessPerParent : (rows.filterMap CredentialRow.accessParent).Nodup

instance (rows : List CredentialRow) : Decidable (CredentialConstraints rows) :=
  decidable_of_iff
    ((rows.map (·.id)).Nodup ∧ (rows.map (·.tokenHash)).Nodup ∧ (rows.filterMap CredentialRow.accessParent).Nodup)
    ⟨fun h => ⟨h.1, h.2.1, h.2.2⟩, fun h => ⟨h.ids, h.tokenHashes, h.accessPerParent⟩⟩

/-- The primary key and the unique backend ids. -/
structure IdentityConstraints (rows : List IdentityRow) : Prop where
  keys : (rows.map Prod.fst).Nodup
  backendIds : (rows.map (·.2.backendId)).Nodup

instance (rows : List IdentityRow) : Decidable (IdentityConstraints rows) :=
  decidable_of_iff ((rows.map Prod.fst).Nodup ∧ (rows.map (·.2.backendId)).Nodup)
    ⟨fun h => ⟨h.1, h.2⟩, fun h => ⟨h.keys, h.backendIds⟩⟩

/-- An open database. -/
structure SqliteStorage where
  counters : InsertionMap String Nat
  identities : List IdentityRow
  credentials : List CredentialRow
  identitiesHold : IdentityConstraints identities
  credentialsHold : CredentialConstraints credentials

/-- How an operation fails. -/
inductive StorageError where
  | sqlite (error : SqliteError)
  /-- A property of `undefined` is read. -/
  | typeError
deriving DecidableEq

namespace SqliteStorage

/-- A new database. -/
def init : SqliteStorage where
  counters := (InsertionMap.empty.set "max_epoch" 0).set "registry_revision" 0
  identities := []
  credentials := []
  identitiesHold := ⟨List.nodup_nil, List.nodup_nil⟩
  credentialsHold := ⟨List.nodup_nil, List.nodup_nil, List.nodup_nil⟩

def withIdentities (db : SqliteStorage) (identities : List IdentityRow) (h : IdentityConstraints identities) : SqliteStorage :=
  { db with identities, identitiesHold := h }

def withCredentials (db : SqliteStorage) (credentials : List CredentialRow) (h : CredentialConstraints credentials) :
    SqliteStorage := { db with credentials, credentialsHold := h }

/-- What a statement leaves in `backend_identities`, if its constraints hold. -/
def writeIdentities (rows : List IdentityRow) (db : SqliteStorage) : Except StorageError SqliteStorage :=
  if h : IdentityConstraints rows then .ok (db.withIdentities rows h) else .error (.sqlite .constraintUnique)

/-- What a statement leaves in `credentials`, if its constraints hold. -/
def writeCredentials (rows : List CredentialRow) (db : SqliteStorage) : Except StorageError SqliteStorage :=
  if h : CredentialConstraints rows then .ok (db.withCredentials rows h) else .error (.sqlite .constraintUnique)

/-! ## Epochs -/

/-- `SELECT value FROM counters WHERE key = 'max_epoch'`. -/
def getMaxEpoch (db : SqliteStorage) : Except StorageError Nat :=
  match db.counters.get "max_epoch" with
  | some value => .ok value
  | none => .error .typeError

def allocateEpoch (db : SqliteStorage) : Except StorageError (Nat × SqliteStorage) :=
  let db := { db with counters := db.counters.modify "max_epoch" (· + 1) }
  db.getMaxEpoch.map (fun value => (value, db))

/-! ## Backend identities -/

def insertIdentity (key backendId : String) (now : Nat) (ns instanceId environment name : String) (db : SqliteStorage) :
    Except StorageError SqliteStorage :=
  db.writeIdentities (db.identities ++
    [(key, { backendId, tenant := "", ns, instanceId, environment, name, createdAt := now, updatedAt := now,
             lastCredentialId := none, lastSeenAt := none })])

/-- `identity_key = ?`. -/
def keyIs (key : String) (r : IdentityRow) : Sql.Truth := Sql.eq (some r.1) (some key)

/-- `backend_id = ?`. -/
def backendIs (backendId : String) (r : IdentityRow) : Sql.Truth := Sql.eq (some r.2.backendId) (some backendId)

def getOrCreateBackendIdV4 (fresh : String) (now : Nat) (ns instanceId environment : String) (name : Option String)
    (db : SqliteStorage) : Except StorageError (String × SqliteStorage) :=
  let key := backendIdentityKey ns instanceId environment
  match (Sql.select (keyIs key) db.identities).head? with
  | some (_, existing) =>
    match name.filter (fun name => name ≠ "" ∧ name ≠ existing.name) with
    | some name =>
      let rename (r : IdentityRow) : IdentityRow := (r.1, { r.2 with name, updatedAt := now })
      (db.writeIdentities (Sql.update rename (keyIs key) db.identities)).map (fun db => (existing.backendId, db))
    | none => .ok (existing.backendId, db)
  | none =>
    (db.insertIdentity key fresh now ns instanceId environment (name.getD "")).map (fun db => (fresh, db))

def createBoundBackendIdentity (fresh : String) (now : Nat) (ns name : String) (db : SqliteStorage) :
    Except StorageError SqliteStorage := db.insertIdentity (boundIdentityKey fresh) fresh now ns "" "" name

/-- The newest first. -/
def listBackendIdentities (db : SqliteStorage) : List BackendIdentity :=
  (db.identities.map Prod.snd).mergeSort (fun a b => b.createdAt ≤ a.createdAt)

def getBackendIdentity (db : SqliteStorage) (backendId : String) : Option BackendIdentity :=
  db.listBackendIdentities.find? (fun identity => identity.backendId = backendId)

def deleteBackendIdentity (backendId : String) (db : SqliteStorage) : Except StorageError (Bool × SqliteStorage) :=
  (db.writeIdentities (Sql.delete (backendIs backendId) db.identities)).map (fun db' =>
    (decide (0 < Sql.changes (backendIs backendId) db.identities), db'))

def touchBackendIdentity (now : Nat) (backendId : String) (rootCredentialId name : Option String) (db : SqliteStorage) :
    Except StorageError SqliteStorage :=
  let touch (r : IdentityRow) : IdentityRow :=
    (r.1, { r.2 with
      lastSeenAt := some now
      lastCredentialId := Sql.coalesce rootCredentialId r.2.lastCredentialId
      name := (Sql.coalesce (Sql.nullif (some (name.getD "")) (some "")) (some r.2.name)).getD "" })
  db.writeIdentities (Sql.update touch (backendIs backendId) db.identities)

/-! ## Credentials -/

/-- `id = ?`. -/
def idIs (id : String) (r : CredentialRow) : Sql.Truth := Sql.eq (some r.id) (some id)

/-- `parent_id = ?`. -/
def parentIs (id : String) (r : CredentialRow) : Sql.Truth := Sql.eq r.parentId (some id)

/-- `type = ?`. -/
def typeIs (type : CredentialType) (r : CredentialRow) : Sql.Truth := Sql.eq (some r.type) (some type)

/-- `revoked_at IS NULL`. -/
def unrevoked (r : CredentialRow) : Sql.Truth := Sql.isNull r.revokedAt

/-- The record that `createCredential` makes. -/
def credentialRecord (hash : String → String) (fresh : CredentialDraw) (now : Nat) (input : CredentialInput)
    (backendId : Option String) : CredentialRecord where
  id := fresh.id
  type := input.type
  tokenHash := hash (input.type.tokenPrefix ++ fresh.secret)
  ns := input.ns
  name := input.name.getD ""
  parentId := input.parentId
  createdAt := now
  expiresAt := (lifetime input.type input.ttlMs).map (Storage.expiry now)
  revokedAt := none
  lastUsedAt := none
  backendId
  allowedBackends := if input.type = .device then input.allowedBackends else none

def createCredential (hash : String → String) (fresh : CredentialDraw) (now : Nat) (input : CredentialInput)
    (db : SqliteStorage) : Except StorageError (CredentialRecord × String × SqliteStorage) :=
  let issue (backendId : Option String) (db : SqliteStorage) :
      Except StorageError (CredentialRecord × String × SqliteStorage) :=
    let record := credentialRecord hash fresh now input backendId
    (db.writeCredentials (db.credentials ++ [.ofRecord record])).map (fun db =>
      (record, input.type.tokenPrefix ++ fresh.secret, db))
  match input.type with
  | .backend =>
    match input.backendId with
    | some backendId => issue (some backendId) db
    | none =>
      (db.createBoundBackendIdentity fresh.backendId now input.ns (input.name.getD "")).bind (issue (some fresh.backendId))
  | .backendAccess => issue input.backendId db
  | .device => issue none db

def getCredentialByHash (db : SqliteStorage) (tokenHash : String) : Option CredentialRecord :=
  (Sql.select (fun r => Sql.eq (some r.tokenHash) (some tokenHash)) db.credentials).head?.map credentialFromRow

def getCredential (db : SqliteStorage) (id : String) : Option CredentialRecord :=
  (Sql.select (idIs id) db.credentials).head?.map credentialFromRow

/-- The newest first. -/
def listCredentials (db : SqliteStorage) : List CredentialRecord :=
  (db.credentials.mergeSort (fun a b => b.createdAt ≤ a.createdAt)).map credentialFromRow

/-- A credential authenticates while it is live and, if it was exchanged, its parent is there and live. -/
def authenticates (db : SqliteStorage) (now : Nat) (record : CredentialRecord) : Bool :=
  live now record &&
    match record.parentId with
    | none => true
    | some parentId => (db.getCredential parentId).any (live now)

def findValidCredential (hash : String → String) (now : Nat) (token : String) (db : SqliteStorage) :
    Except StorageError (Option CredentialRecord × SqliteStorage) :=
  match db.getCredentialByHash (hash token) with
  | none => .ok (none, db)
  | some record =>
    if db.authenticates now record then
      -- The record stays as the row was before it is touched.
      (db.writeCredentials (Sql.update (fun r => { r with lastUsedAt := some now }) (idIs record.id) db.credentials)).map
        (fun db => (some record, db))
    else .ok (none, db)

def bindBackendCredential (id backendId : String) (db : SqliteStorage) : Except StorageError (Bool × SqliteStorage) :=
  let bind (r : CredentialRow) : CredentialRow := { r with backendId := some backendId }
  let unbound (r : CredentialRow) : Sql.Truth :=
    Sql.and (Sql.and (Sql.and (idIs id r) (typeIs .backend r)) (unrevoked r)) (Sql.isNull r.backendId)
  (db.writeCredentials (Sql.update bind unbound db.credentials)).bind (fun db' =>
    if Sql.changes unbound db.credentials = 0 then .ok (false, db')
    else
      (db'.writeCredentials (Sql.update bind (fun r => Sql.and (parentIs id r) (unrevoked r)) db'.credentials)).map
        (fun db => (true, db)))

def setAllowedBackends (id : String) (allowedBackends : Option (List String)) (db : SqliteStorage) :
    Except StorageError (Bool × SqliteStorage) :=
  let unrevokedDevice (r : CredentialRow) : Sql.Truth := Sql.and (Sql.and (idIs id r) (typeIs .device r)) (unrevoked r)
  let set (r : CredentialRow) : CredentialRow := { r with allowedBackendsJson := allowedBackends.map stringifyStrings }
  (db.writeCredentials (Sql.update set unrevokedDevice db.credentials)).map (fun db' =>
    (decide (0 < Sql.changes unrevokedDevice db.credentials), db'))

def revokeCredential (now : Nat) (id : String) (db : SqliteStorage) :
    Except StorageError (List String × SqliteStorage) :=
  let revoke (r : CredentialRow) : CredentialRow := { r with revokedAt := some now }
  let self (r : CredentialRow) : Sql.Truth := Sql.and (idIs id r) (unrevoked r)
  let child (r : CredentialRow) : Sql.Truth := Sql.and (parentIs id r) (unrevoked r)
  (db.writeCredentials (Sql.update revoke self db.credentials)).bind (fun db' =>
    if Sql.changes self db.credentials = 0 then .ok ([], db')
    else
      let children := (Sql.select child db'.credentials).map (·.id)
      (db'.writeCredentials (Sql.update revoke child db'.credentials)).map (fun db => (id :: children, db)))

/-- One after the other, in a transaction. -/
def revokeCredentials (now : Nat) (ids : List String) (db : SqliteStorage) :
    Except StorageError (List String × SqliteStorage) :=
  match ids with
  | [] => .ok ([], db)
  | id :: ids =>
    (db.revokeCredential now id).bind (fun first =>
      (first.2.revokeCredentials now ids).map (fun rest => (first.1 ++ rest.1, rest.2)))

def findAccessCredential (db : SqliteStorage) (parentId : String) : Option CredentialRecord :=
  (Sql.select (fun r => Sql.and (typeIs .backendAccess r) (parentIs parentId r)) db.credentials).head?.map credentialFromRow

/-- Returns the credential, if it is found again, its token, and whether it was there before. -/
def exchangeAccessCredential (hash : String → String) (fresh : CredentialDraw) (now : Nat) (parent : CredentialRecord)
    (ttlMs : Option (Option ℚ)) (db : SqliteStorage) :
    Except StorageError ((Option CredentialRecord × String × Bool) × SqliteStorage) :=
  match db.findAccessCredential parent.id with
  | none =>
    (db.createCredential hash fresh now
      { type := .backendAccess
        ns := parent.ns
        name := some (accessCredentialName parent)
        parentId := some parent.id
        ttlMs
        backendId := parent.backendId }).map (fun created => ((some created.1, created.2.1, false), created.2.2))
  | some existing =>
    let token := CredentialType.backendAccess.tokenPrefix ++ fresh.secret
    let rotate (r : CredentialRow) : CredentialRow :=
      { r with
        tokenHash := hash token
        ns := parent.ns
        name := accessCredentialName parent
        createdAt := now
        expiresAt := (lifetime .backendAccess ttlMs).map (Storage.expiry now)
        revokedAt := none
        backendId := parent.backendId }
    (db.writeCredentials (Sql.update rotate (idIs existing.id) db.credentials)).map (fun db =>
      ((db.getCredential existing.id, token, true), db))

def purgeRevokedCredentials (ids : Option (List String)) (db : SqliteStorage) :
    Except StorageError (List String × SqliteStorage) :=
  let purged (r : CredentialRow) : Sql.Truth :=
    match ids with
    | some ids => Sql.and (Sql.isNotNull r.revokedAt) (Sql.member (some r.id) ids)
    | none => Sql.isNotNull r.revokedAt
  (db.writeCredentials (Sql.delete purged db.credentials)).map (fun db' =>
    ((Sql.select purged db.credentials).map (·.id), db'))

end SqliteStorage

end ZclaudiaGateway
