import ZclaudiaGateway.Lib.RowNumber
import ZclaudiaGateway.Storage
import Mathlib.Data.Prod.Lex
import Mathlib.Data.String.Basic

/-!
# Opening the database

`initDatabase` of `src/storage.ts`: the tables are created if they are not there, columns that an old version of the schema
lacks are added, and the access credentials that an old version left are collapsed to one for each enrollment before a unique
index keeps it so. The rows of a table are in the order of their insertion; a column that is missing reads as NULL.
-/

namespace ZclaudiaGateway

/-! ## Tables -/

/-- A table of an old version: what its missing columns hold is NULL. -/
structure Table (ρ κ : Type) (IsNull : κ → ρ → Prop) where
  rows : List ρ
  columns : List κ
  missing : ∀ c, c ∉ columns → ∀ r ∈ rows, IsNull c r

namespace Table

variable {ρ κ : Type} {IsNull : κ → ρ → Prop}

def empty : Table ρ κ IsNull := ⟨[], [], fun _ _ _ h => nomatch h⟩

/-- `ALTER TABLE ... ADD COLUMN`, whose failure means that the column is there. -/
def addColumnIfMissing [DecidableEq κ] (c : κ) (t : Table ρ κ IsNull) : Table ρ κ IsNull :=
  if c ∈ t.columns then t
  else
    { t with
      columns := t.columns ++ [c]
      missing := fun c' h => t.missing c' fun h' => h (List.mem_append_left _ h') }

/-- `DELETE FROM ... WHERE ...`. -/
def deleteWhere (p : ρ → Bool) (t : Table ρ κ IsNull) : Table ρ κ IsNull :=
  { t with
    rows := t.rows.filter (fun r => !p r)
    missing := fun c h r hr => t.missing c h r (List.mem_filter.mp hr).1 }

@[simp] theorem addColumnIfMissing_rows [DecidableEq κ] (c : κ) (t : Table ρ κ IsNull) :
    (t.addColumnIfMissing c).rows = t.rows := by
  unfold addColumnIfMissing
  split <;> rfl

end Table

/-- The columns of `credentials` that were added later. -/
inductive CredentialColumn where
  | parentId
  | backendId
  | allowedBackends
deriving DecidableEq

def CredentialColumn.IsNull : CredentialColumn → CredentialRecord → Prop
  | parentId, r => r.parentId = none
  | backendId, r => r.backendId = none
  | allowedBackends, r => r.allowedBackends = none

/-- The columns of `backend_identities` that were added later. -/
inductive IdentityColumn where
  | lastCredentialId
  | lastSeenAt
deriving DecidableEq

def IdentityColumn.IsNull : IdentityColumn → String × BackendIdentity → Prop
  | lastCredentialId, r => r.2.lastCredentialId = none
  | lastSeenAt, r => r.2.lastSeenAt = none

/-- `credentials`: the primary key and the token hashes are unique. -/
structure CredentialsTable where
  table : Table CredentialRecord CredentialColumn CredentialColumn.IsNull
  ids : (table.rows.map (·.id)).Nodup
  tokenHashes : (table.rows.map (·.tokenHash)).Nodup

/-- `backend_identities` under their identity keys, the primary key. -/
structure IdentitiesTable where
  table : Table (String × BackendIdentity) IdentityColumn IdentityColumn.IsNull
  keys : (table.rows.map Prod.fst).Nodup

/-- The unique index on the parents of access credentials holds: NULL is not equal to NULL. -/
def UniqueAccess (rows : List CredentialRecord) : Prop :=
  ((rows.filter (·.type = .backendAccess)).filterMap (·.parentId)).Nodup

instance (rows : List CredentialRecord) : Decidable (UniqueAccess rows) :=
  inferInstanceAs (Decidable (List.Nodup _))

/-- A database file as any version left it. -/
structure DatabaseFile where
  counters : Option (InsertionMap String Nat)
  identities : Option IdentitiesTable
  credentials : Option CredentialsTable
  /-- The index `idx_credentials_access_per_parent` is there. -/
  accessIndex : Bool
  indexed : accessIndex = true → ∃ t, credentials = some t ∧ UniqueAccess t.table.rows

/-- A database whose tables are there. -/
structure Database where
  counters : InsertionMap String Nat
  identities : IdentitiesTable
  credentials : CredentialsTable
  accessIndex : Bool
  indexed : accessIndex = true → UniqueAccess credentials.table.rows

inductive SqliteError where
  | constraintUnique
deriving DecidableEq

namespace CredentialsTable

def empty : CredentialsTable := ⟨.empty, List.nodup_nil, List.nodup_nil⟩

def addColumnIfMissing (c : CredentialColumn) (t : CredentialsTable) : CredentialsTable where
  table := t.table.addColumnIfMissing c
  ids := by simpa using t.ids
  tokenHashes := by simpa using t.tokenHashes

def deleteWhere (p : CredentialRecord → Bool) (t : CredentialsTable) : CredentialsTable where
  table := t.table.deleteWhere p
  ids := t.ids.sublist (List.filter_sublist.map _)
  tokenHashes := t.tokenHashes.sublist (List.filter_sublist.map _)

end CredentialsTable

namespace IdentitiesTable

def empty : IdentitiesTable := ⟨.empty, List.nodup_nil⟩

def addColumnIfMissing (c : IdentityColumn) (t : IdentitiesTable) : IdentitiesTable where
  table := t.table.addColumnIfMissing c
  keys := by simpa using t.keys

end IdentitiesTable

/-! ## Migrations -/

/-- `CREATE TABLE IF NOT EXISTS`, and `INSERT OR IGNORE` of the counters. -/
def createTables (file : DatabaseFile) : Database where
  counters :=
    let insertOrIgnore (key : String) (m : InsertionMap String Nat) := if m.has key then m else m.set key 0
    insertOrIgnore "registry_revision" (insertOrIgnore "max_epoch" (file.counters.getD ∅))
  identities := file.identities.getD .empty
  credentials := file.credentials.getD .empty
  accessIndex := file.accessIndex
  indexed := by
    intro h
    obtain ⟨t, ht, hunique⟩ := file.indexed h
    rw [ht]
    exact hunique

def addColumns (db : Database) : Database where
  counters := db.counters
  identities := (db.identities.addColumnIfMissing .lastCredentialId).addColumnIfMissing .lastSeenAt
  credentials :=
    ((db.credentials.addColumnIfMissing .parentId).addColumnIfMissing .backendId).addColumnIfMissing .allowedBackends
  accessIndex := db.accessIndex
  indexed := by
    intro h
    simpa [CredentialsTable.addColumnIfMissing] using db.indexed h

/-- An access credential that was exchanged from another one. -/
def isExchanged (r : CredentialRecord) : Bool := r.type = .backendAccess && r.parentId.isSome

/-- `(revoked_at IS NULL) DESC, created_at DESC, id`. -/
def accessOrder (r : CredentialRecord) : Boolᵒᵈ ×ₗ Natᵒᵈ ×ₗ String :=
  toLex (OrderDual.toDual r.revokedAt.isNone, toLex (OrderDual.toDual r.createdAt, r.id))

/-- The ids of the access credentials that come first among those of their parent. -/
def firstAccessIds (rows : List CredentialRecord) : List String :=
  let access := rows.filter isExchanged
  (access.filter (fun r => Ranking.rowNumber (·.parentId) accessOrder access r = 1)).map (·.id)

/-- The condition of the `DELETE`: an exchanged access credential that is not the first of its parent. -/
def isDuplicate (rows : List CredentialRecord) (r : CredentialRecord) : Bool :=
  isExchanged r && r.id ∉ firstAccessIds rows

/-- At most one access credential for each enrollment stays: the unrevoked, newest one. -/
def collapseAccess (db : Database) : Database where
  counters := db.counters
  identities := db.identities
  credentials := db.credentials.deleteWhere (isDuplicate db.credentials.table.rows)
  accessIndex := db.accessIndex
  indexed := fun h => (db.indexed h).sublist ((List.filter_sublist.filter _).filterMap _)

/-- `CREATE UNIQUE INDEX IF NOT EXISTS`, which fails on rows it does not hold for. -/
def createAccessIndex (db : Database) : Except SqliteError Database :=
  if db.accessIndex then .ok db
  else if h : UniqueAccess db.credentials.table.rows then .ok { db with accessIndex := true, indexed := fun _ => h }
  else .error .constraintUnique

def initDatabase (file : DatabaseFile) : Except SqliteError Database :=
  createAccessIndex (collapseAccess (addColumns (createTables file)))

/-! ## Reading -/

/-- The database as a file. -/
def Database.file (db : Database) : DatabaseFile where
  counters := some db.counters
  identities := some db.identities
  credentials := some db.credentials
  accessIndex := db.accessIndex
  indexed := fun h => ⟨_, rfl, db.indexed h⟩

/-- What the storage reads of a database. -/
def Database.storage (db : Database) : Storage where
  credentials :=
    ⟨db.credentials.table.rows.map (fun r => (r.id, r)), by simpa [Function.comp_def] using db.credentials.ids⟩
  backendIdentities := ⟨db.identities.table.rows, db.identities.keys⟩
  maxEpoch := (db.counters.get "max_epoch").getD 0

/-- The credentials a database file holds. -/
def DatabaseFile.rows (file : DatabaseFile) : List CredentialRecord := (createTables file).credentials.table.rows

/-- What the storage reads of a database file before it is migrated. -/
def DatabaseFile.storage (file : DatabaseFile) : Storage := (createTables file).storage

end ZclaudiaGateway
