import ZclaudiaGateway.Lemmas.Credentials
import ZclaudiaGateway.StorageOps

/-!
# The database and the maps

A database and the maps of a storage hold the same credentials, identities and epoch. Every operation finds the same rows as
the maps have values, changes them alike and leaves the two in agreement; no constraint of a table fails, for the values an
operation draws are new.
-/

namespace ZclaudiaGateway

open Storage (live lifetime accessCredentialName CredentialDraw CredentialInput)

/-! ## Rows of credentials -/

theorem parseStrings_stringifyStrings (l : List String) : parseStrings (stringifyStrings l) = l := by
  rw [stringifyStrings, parseStrings, List.filterMap_map]
  exact List.filterMap_some

@[simp] theorem credentialFromRow_ofRecord (c : CredentialRecord) : credentialFromRow (.ofRecord c) = c := by
  obtain ⟨id, type, tokenHash, ns, name, parentId, createdAt, expiresAt, revokedAt, lastUsedAt, backendId, allowed⟩ := c
  cases allowed with
  | none => rfl
  | some l => simp [credentialFromRow, CredentialRow.ofRecord, parseStrings_stringifyStrings]

namespace SqliteStorage

@[simp] theorem holds_idIs (id : String) (c : CredentialRecord) :
    Sql.holds (idIs id (.ofRecord c)) = decide (c.id = id) := by
  simp [idIs, CredentialRow.ofRecord]

@[simp] theorem holds_parentIs (id : String) (c : CredentialRecord) :
    Sql.holds (parentIs id (.ofRecord c)) = decide (c.parentId = some id) := Sql.holds_eq_some _ _

@[simp] theorem holds_typeIs (type : CredentialType) (c : CredentialRecord) :
    Sql.holds (typeIs type (.ofRecord c)) = decide (c.type = type) := by
  simp [typeIs, CredentialRow.ofRecord]

@[simp] theorem holds_unrevoked (c : CredentialRecord) :
    Sql.holds (unrevoked (.ofRecord c)) = decide (c.revokedAt = none) := by
  rw [unrevoked, Sql.holds_isNull, Bool.eq_iff_iff, decide_eq_true_eq, Option.isNone_iff_eq_none]
  rfl

end SqliteStorage

section Statements

variable {condition : CredentialRow → Sql.Truth} {p : CredentialRecord → Prop} [DecidablePred p] (l : List CredentialRecord)

theorem select_ofRecord (hp : ∀ c, Sql.holds (condition (.ofRecord c)) = decide (p c)) :
    Sql.select condition (l.map .ofRecord) = (l.filter p).map .ofRecord := by
  rw [Sql.select, List.filter_map]
  congr 1
  exact List.filter_congr (fun c _ => hp c)

theorem head_select_ofRecord (hp : ∀ c, Sql.holds (condition (.ofRecord c)) = decide (p c)) :
    (Sql.select condition (l.map .ofRecord)).head?.map credentialFromRow = l.find? p := by
  rw [select_ofRecord l hp, List.head?_map, Option.map_map, List.head?_filter]
  simp [Function.comp_def]

theorem delete_ofRecord (hp : ∀ c, Sql.holds (condition (.ofRecord c)) = decide (p c)) :
    Sql.delete condition (l.map .ofRecord) = (l.filter (fun c => !p c)).map .ofRecord := by
  rw [Sql.delete, List.filter_map]
  congr 1
  exact List.filter_congr (fun c _ => by rw [Function.comp_apply, hp])

theorem update_ofRecord {set : CredentialRow → CredentialRow} {f : CredentialRecord → CredentialRecord}
    (hp : ∀ c, Sql.holds (condition (.ofRecord c)) = decide (p c)) (hset : ∀ c, set (.ofRecord c) = .ofRecord (f c)) :
    Sql.update set condition (l.map .ofRecord) = (l.map (fun c => if p c then f c else c)).map .ofRecord := by
  rw [Sql.update, List.map_map, List.map_map]
  refine List.map_congr_left (fun c _ => ?_)
  rw [Function.comp_apply, Function.comp_apply, hp, hset]
  by_cases hc : p c
  · rw [if_pos (decide_eq_true hc), if_pos hc]
  · rw [if_neg (by simpa using hc), if_neg hc]

end Statements

/-! ## Draws -/

/-- The values drawn for a credential are new, and an access credential is the first of its parent. -/
structure NewCredential (hash : String → String) (fresh : CredentialDraw) (input : CredentialInput)
    (st : Storage) : Prop where
  id : st.credentials.get fresh.id = none
  token : ∀ c ∈ st.credentials.values, c.tokenHash ≠ hash (input.type.tokenPrefix ++ fresh.secret)
  backendId : input.type = .backend → ∀ identity ∈ st.backendIdentities.values, identity.backendId ≠ fresh.backendId
  parent : input.type = .backendAccess → ∀ p, input.parentId = some p → st.findAccessCredential p = none

/-- The values drawn for an exchange are new. -/
structure NewAccess (hash : String → String) (fresh : CredentialDraw) (st : Storage) : Prop where
  id : st.credentials.get fresh.id = none
  token : ∀ c ∈ st.credentials.values, c.tokenHash ≠ hash (CredentialType.backendAccess.tokenPrefix ++ fresh.secret)

/-! ## Constraints -/

namespace CredentialConstraints

variable {rows : List CredentialRow}

theorem update (h : CredentialConstraints rows) {set : CredentialRow → CredentialRow} (hid : ∀ r, (set r).id = r.id)
    (hhash : ∀ r, (set r).tokenHash = r.tokenHash) (hparent : ∀ r, (set r).accessParent = r.accessParent)
    (condition : CredentialRow → Sql.Truth) : CredentialConstraints (Sql.update set condition rows) where
  ids := by
    rw [Sql.map_update hid]
    exact h.ids
  tokenHashes := by
    rw [Sql.map_update hhash]
    exact h.tokenHashes
  accessPerParent := by
    rw [Sql.filterMap_update hparent]
    exact h.accessPerParent

theorem delete (h : CredentialConstraints rows) (condition : CredentialRow → Sql.Truth) :
    CredentialConstraints (Sql.delete condition rows) where
  ids := h.ids.sublist (List.filter_sublist.map _)
  tokenHashes := h.tokenHashes.sublist (List.filter_sublist.map _)
  accessPerParent := h.accessPerParent.sublist (List.filter_sublist.filterMap _)

theorem insert (h : CredentialConstraints rows) {row : CredentialRow} (hid : ∀ r ∈ rows, r.id ≠ row.id)
    (hhash : ∀ r ∈ rows, r.tokenHash ≠ row.tokenHash)
    (hparent : ∀ p, row.accessParent = some p → ∀ r ∈ rows, r.accessParent ≠ some p) :
    CredentialConstraints (rows ++ [row]) where
  ids := by
    rw [List.map_append, List.map_singleton, ← List.concat_eq_append, List.nodup_concat]
    refine ⟨fun hmem => ?_, h.ids⟩
    obtain ⟨r, hr, he⟩ := List.mem_map.mp hmem
    exact hid r hr he
  tokenHashes := by
    rw [List.map_append, List.map_singleton, ← List.concat_eq_append, List.nodup_concat]
    refine ⟨fun hmem => ?_, h.tokenHashes⟩
    obtain ⟨r, hr, he⟩ := List.mem_map.mp hmem
    exact hhash r hr he
  accessPerParent := by
    rw [List.filterMap_append]
    cases hrow : row.accessParent with
    | none =>
      rw [List.filterMap_cons_none hrow, List.filterMap_nil, List.append_nil]
      exact h.accessPerParent
    | some p =>
      rw [List.filterMap_cons_some hrow, List.filterMap_nil, ← List.concat_eq_append, List.nodup_concat]
      refine ⟨fun hmem => ?_, h.accessPerParent⟩
      obtain ⟨r, hr, he⟩ := List.mem_filterMap.mp hmem
      exact hparent p hrow r hr he

/-- One row takes a token hash that no row has. -/
theorem rehash (h : CredentialConstraints rows) {set : CredentialRow → CredentialRow} {id hash : String}
    (hid : ∀ r, (set r).id = r.id) (hhash : ∀ r, (set r).tokenHash = hash)
    (hparent : ∀ r, (set r).accessParent = r.accessParent) (hnew : ∀ r ∈ rows, r.tokenHash ≠ hash) :
    CredentialConstraints (Sql.update set (SqliteStorage.idIs id) rows) where
  ids := by
    rw [Sql.map_update hid]
    exact h.ids
  tokenHashes := by
    rw [Sql.update, List.map_map]
    refine List.Nodup.map_on ?_ (List.Nodup.of_map _ h.ids)
    intro r hr r' hr' he
    simp only [Function.comp_apply, SqliteStorage.idIs, Sql.holds_eq_some, Option.some.injEq, decide_eq_true_eq] at he
    split at he <;> split at he
    · rename_i hrid hrid'
      exact List.inj_on_of_nodup_map h.ids hr hr' (hrid.trans hrid'.symm)
    · rw [hhash] at he
      exact absurd he.symm (hnew r' hr')
    · rw [hhash] at he
      exact absurd he (hnew r hr)
    · exact List.inj_on_of_nodup_map h.tokenHashes hr hr' he
  accessPerParent := by
    rw [Sql.filterMap_update hparent]
    exact h.accessPerParent

end CredentialConstraints

namespace SqliteStorage

/-- The database holds what the maps hold, in the same order. -/
structure Holds (db : SqliteStorage) (st : Storage) : Prop where
  credentials : db.credentials = st.credentials.values.map .ofRecord
  keyed : st.credentials.Keyed (·.id)
  identities : db.identities = st.backendIdentities.entries
  keys : ∀ key identity, st.backendIdentities.get key = some identity →
    key = boundIdentityKey identity.backendId ∨ key = backendIdentityKey identity.ns identity.instanceId identity.environment
  maxEpoch : db.counters.get "max_epoch" = some st.maxEpoch

theorem writeCredentials_ok {rows : List CredentialRow} (h : CredentialConstraints rows) (db : SqliteStorage) :
    db.writeCredentials rows = .ok (db.withCredentials rows h) := dif_pos h

theorem writeIdentities_ok {rows : List IdentityRow} (h : IdentityConstraints rows) (db : SqliteStorage) :
    db.writeIdentities rows = .ok (db.withIdentities rows h) := dif_pos h

namespace Holds

variable {db : SqliteStorage} {st : Storage}

theorem init : SqliteStorage.init.Holds .new where
  credentials := rfl
  keyed := fun _ _ h => nomatch h
  identities := rfl
  keys := fun _ _ h => nomatch h
  maxEpoch := rfl

/-! ## Statements -/

theorem holdsCredentials (h : db.Holds st) {rows : List CredentialRow} (hrows : CredentialConstraints rows)
    {credentials : InsertionMap String CredentialRecord} (hvalues : rows = credentials.values.map .ofRecord)
    (hkeyed : credentials.Keyed (·.id)) : (db.withCredentials rows hrows).Holds { st with credentials } where
  credentials := hvalues
  keyed := hkeyed
  identities := h.identities
  keys := h.keys
  maxEpoch := h.maxEpoch

section

variable {condition : CredentialRow → Sql.Truth} {p : CredentialRecord → Prop} [DecidablePred p]

/-- An `UPDATE` of columns that no constraint is about. -/
theorem update (h : db.Holds st) (hp : ∀ c, Sql.holds (condition (.ofRecord c)) = decide (p c))
    (set : CredentialRow → CredentialRow) (f : CredentialRecord → CredentialRecord)
    (hset : ∀ c, set (.ofRecord c) = .ofRecord (f c)) (hid : ∀ r, (set r).id = r.id)
    (hhash : ∀ r, (set r).tokenHash = r.tokenHash) (hparent : ∀ r, (set r).accessParent = r.accessParent) :
    ∃ db', db.writeCredentials (Sql.update set condition db.credentials) = .ok db' ∧
      db'.Holds { st with credentials := st.credentials.mapValues (fun _ c => if p c then f c else c) } := by
  refine ⟨_, writeCredentials_ok (db.credentialsHold.update hid hhash hparent condition) db,
    h.holdsCredentials _ ?_ (h.keyed.mapValues fun _ c => ?_)⟩
  · rw [h.credentials, update_ofRecord _ hp hset, InsertionMap.values_mapValues]
  · split
    · exact (congrArg CredentialRow.id (hset c)).symm.trans (hid (.ofRecord c))
    · rfl

theorem delete (h : db.Holds st) (hp : ∀ c, Sql.holds (condition (.ofRecord c)) = decide (p c)) :
    ∃ db', db.writeCredentials (Sql.delete condition db.credentials) = .ok db' ∧
      db'.Holds { st with credentials := st.credentials.filter (fun _ c => !p c) } := by
  refine ⟨_, writeCredentials_ok (db.credentialsHold.delete condition) db, h.holdsCredentials _ ?_ (h.keyed.filter _)⟩
  rw [h.credentials, delete_ofRecord _ hp, InsertionMap.values_filter]

end

/-- An `INSERT` of a new credential. -/
theorem insert (h : db.Holds st) {c : CredentialRecord} (hid : st.credentials.get c.id = none)
    (hhash : ∀ c' ∈ st.credentials.values, c'.tokenHash ≠ c.tokenHash)
    (hparent : ∀ p, (CredentialRow.ofRecord c).accessParent = some p →
      ∀ c' ∈ st.credentials.values, (CredentialRow.ofRecord c').accessParent ≠ some p) :
    ∃ db', db.writeCredentials (db.credentials ++ [.ofRecord c]) = .ok db' ∧
      db'.Holds { st with credentials := st.credentials.set c.id c } := by
  have hrows : CredentialConstraints (db.credentials ++ [.ofRecord c]) := by
    have hmem {r : CredentialRow} (hr : r ∈ db.credentials) : ∃ c' ∈ st.credentials.values, .ofRecord c' = r := by
      rw [h.credentials] at hr
      exact List.mem_map.mp hr
    refine db.credentialsHold.insert (fun r hr => ?_) (fun r hr => ?_) (fun p hp r hr => ?_)
    · obtain ⟨c', hc', rfl⟩ := hmem hr
      intro he
      obtain ⟨k, hk⟩ := InsertionMap.mem_values_iff.mp hc'
      have hkey : c.id = k := he.symm.trans (h.keyed k c' hk)
      rw [← hkey, hid] at hk
      cases hk
    · obtain ⟨c', hc', rfl⟩ := hmem hr
      exact hhash c' hc'
    · obtain ⟨c', hc', rfl⟩ := hmem hr
      exact hparent p hp c' hc'
  refine ⟨_, writeCredentials_ok hrows db, h.holdsCredentials _ ?_ (h.keyed.set c)⟩
  rw [InsertionMap.values_set_new hid, List.map_append, ← h.credentials]
  rfl

/-! ## Lookups -/

theorem getCredential (h : db.Holds st) (id : String) : db.getCredential id = st.getCredential id := by
  rw [SqliteStorage.getCredential, h.credentials, Storage.getCredential, h.keyed.get]
  exact head_select_ofRecord _ (holds_idIs id)

theorem getCredentialByHash (h : db.Holds st) (tokenHash : String) :
    db.getCredentialByHash tokenHash = st.getCredentialByHash tokenHash := by
  rw [SqliteStorage.getCredentialByHash, h.credentials, Storage.getCredentialByHash]
  refine head_select_ofRecord _ (fun c => ?_)
  rw [Sql.holds_eq_some]
  simp [CredentialRow.ofRecord]

theorem findAccessCredential (h : db.Holds st) (parentId : String) :
    db.findAccessCredential parentId = st.findAccessCredential parentId := by
  rw [SqliteStorage.findAccessCredential, h.credentials, Storage.findAccessCredential]
  refine head_select_ofRecord _ (fun c => ?_)
  simp

/-- The statement changes a row exactly if the credential is there and as the condition says. -/
theorem changes_pos_iff (h : db.Holds st) {condition : CredentialRow → Sql.Truth} {id : String}
    {q : CredentialRecord → Prop} [DecidablePred q]
    (hp : ∀ c, Sql.holds (condition (.ofRecord c)) = decide (c.id = id ∧ q c)) :
    0 < Sql.changes condition db.credentials ↔ ∃ c, st.getCredential id = some c ∧ q c := by
  rw [Sql.changes_pos_iff, h.credentials]
  simp only [List.mem_map, exists_exists_and_eq_and, hp, decide_eq_true_eq]
  exact h.keyed.exists_iff id q

theorem listBackendIdentities (h : db.Holds st) : db.listBackendIdentities = st.listBackendIdentities := by
  rw [SqliteStorage.listBackendIdentities, h.identities, Storage.listBackendIdentities]
  rfl

theorem mem_listCredentials (h : db.Holds st) (c : CredentialRecord) : c ∈ db.listCredentials ↔ c ∈ st.listCredentials := by
  rw [SqliteStorage.listCredentials, Storage.listCredentials, List.mem_map, List.mem_mergeSort]
  simp only [List.mem_mergeSort]
  rw [h.credentials]
  simp

/-! ## Operations on credentials -/

theorem allocateEpoch (h : db.Holds st) :
    ∃ db', db.allocateEpoch = .ok (st.allocateEpoch.1, db') ∧ db'.Holds st.allocateEpoch.2 := by
  have hget : (db.counters.modify "max_epoch" (· + 1)).get "max_epoch" = some (st.maxEpoch + 1) := by
    rw [InsertionMap.get_modify_self, h.maxEpoch]
    rfl
  refine ⟨{ db with counters := db.counters.modify "max_epoch" (· + 1) }, ?_,
    ⟨h.credentials, h.keyed, h.identities, h.keys, hget⟩⟩
  simp only [SqliteStorage.allocateEpoch, getMaxEpoch, hget]
  rfl

theorem authenticates (h : db.Holds st) (now : Nat) (record : CredentialRecord) :
    db.authenticates now record = st.authenticates now record := by
  unfold SqliteStorage.authenticates Storage.authenticates
  cases record.parentId with
  | none => rfl
  | some parentId =>
    dsimp only
    rw [h.getCredential]

theorem findValidCredential (h : db.Holds st) (hash : String → String) (now : Nat) (token : String) :
    ∃ db', db.findValidCredential hash now token = .ok ((st.findValidCredential hash now token).1, db') ∧
      db'.Holds (st.findValidCredential hash now token).2 := by
  unfold SqliteStorage.findValidCredential Storage.findValidCredential
  rw [h.getCredentialByHash]
  cases st.getCredentialByHash (hash token) with
  | none => exact ⟨db, rfl, h⟩
  | some record =>
    dsimp only
    rw [h.authenticates]
    by_cases hauth : st.authenticates now record
    · obtain ⟨db', hdb', hholds⟩ := h.update (holds_idIs record.id) (fun r => { r with lastUsedAt := some now })
        (fun c => { c with lastUsedAt := some now }) (fun _ => rfl) (fun _ => rfl) (fun _ => rfl) (fun _ => rfl)
      rw [if_pos hauth, if_pos hauth, hdb', h.keyed.modify_eq]
      exact ⟨db', rfl, hholds⟩
    · rw [if_neg hauth, if_neg hauth]
      exact ⟨db, rfl, h⟩

theorem setAllowedBackends (h : db.Holds st) (id : String) (allowedBackends : Option (List String)) :
    ∃ db', db.setAllowedBackends id allowedBackends =
        .ok ((st.getCredential id).any (fun c => c.type = .device ∧ c.revokedAt = none), db') ∧
      db'.Holds (st.setAllowedBackends id allowedBackends) := by
  let unrevokedDevice (r : CredentialRow) : Sql.Truth := Sql.and (Sql.and (idIs id r) (typeIs .device r)) (unrevoked r)
  have hp (c : CredentialRecord) : Sql.holds (unrevokedDevice (.ofRecord c)) =
      decide (c.id = id ∧ c.type = .device ∧ c.revokedAt = none) := by
    simp [unrevokedDevice, Bool.and_assoc]
  obtain ⟨db', hdb', hholds⟩ := h.update hp (fun r => { r with allowedBackendsJson := allowedBackends.map stringifyStrings })
    (fun c => { c with allowedBackends }) (fun _ => rfl) (fun _ => rfl) (fun _ => rfl) (fun _ => rfl)
  refine ⟨db', ?_, ?_⟩
  · have hflag : decide (0 < Sql.changes unrevokedDevice db.credentials) =
        (st.getCredential id).any (fun c => c.type = .device ∧ c.revokedAt = none) := by
      rw [Bool.eq_iff_iff, decide_eq_true_eq, h.changes_pos_iff hp, Option.any_eq_true]
      simp only [decide_eq_true_eq]
    rw [← hflag]
    change (db.writeCredentials (Sql.update _ unrevokedDevice db.credentials)).map _ = _
    rw [hdb']
    rfl
  · rw [Storage.setAllowedBackends, h.keyed.modify_eq]
    simp only [ite_and] at hholds ⊢
    exact hholds

theorem bindBackendCredential (h : db.Holds st) (id backendId : String) :
    ∃ db', db.bindBackendCredential id backendId = .ok ((st.getCredential id).any Storage.isUnboundBackend, db') ∧
      db'.Holds (st.bindBackendCredential id backendId) := by
  let bind (r : CredentialRow) : CredentialRow := { r with backendId := some backendId }
  let bindRecord (c : CredentialRecord) : CredentialRecord := { c with backendId := some backendId }
  let unbound (r : CredentialRow) : Sql.Truth :=
    Sql.and (Sql.and (Sql.and (idIs id r) (typeIs .backend r)) (unrevoked r)) (Sql.isNull r.backendId)
  let child (r : CredentialRow) : Sql.Truth := Sql.and (parentIs id r) (unrevoked r)
  have hp (c : CredentialRecord) : Sql.holds (unbound (.ofRecord c)) =
      decide (c.id = id ∧ Storage.isUnboundBackend c = true) := by
    have hnull : Sql.holds (Sql.isNull (CredentialRow.ofRecord c).backendId) = c.backendId.isNone := Sql.holds_isNull _
    have hrevoked : decide (c.revokedAt = none) = c.revokedAt.isNone := by
      cases c.revokedAt <;> rfl
    simp only [unbound, Sql.holds_and, holds_idIs, holds_typeIs, holds_unrevoked, hnull, hrevoked, Bool.decide_and,
      Bool.decide_eq_true, Storage.isUnboundBackend, Bool.and_assoc]
  have hchild (c : CredentialRecord) : Sql.holds (child (.ofRecord c)) =
      decide (c.parentId = some id ∧ c.revokedAt = none) := by
    simp [child]
  obtain ⟨db₁, hdb₁, hholds₁⟩ := h.update hp bind bindRecord (fun _ => rfl) (fun _ => rfl) (fun _ => rfl) (fun _ => rfl)
  have hchanges := h.changes_pos_iff hp
  have hrun : db.bindBackendCredential id backendId =
      if Sql.changes unbound db.credentials = 0 then .ok (false, db₁)
      else (db₁.writeCredentials (Sql.update bind child db₁.credentials)).map (fun db => (true, db)) := by
    change (db.writeCredentials (Sql.update bind unbound db.credentials)).bind _ = _
    rw [hdb₁]
    rfl
  rw [hrun]
  by_cases hany : (st.getCredential id).any Storage.isUnboundBackend = true
  · obtain ⟨c, hc, hunbound⟩ := (Option.any_eq_true _ _).mp hany
    have hpos : Sql.changes unbound db.credentials ≠ 0 := (hchanges.mpr ⟨c, hc, hunbound⟩).ne'
    obtain ⟨db₂, hdb₂, hholds₂⟩ := hholds₁.update hchild bind bindRecord (fun _ => rfl) (fun _ => rfl) (fun _ => rfl)
      (fun _ => rfl)
    rw [if_neg hpos, hdb₂, hany, Storage.bindBackendCredential, if_pos hany]
    refine ⟨db₂, rfl, ?_⟩
    have hsame :
        (st.credentials.mapValues (fun _ c => if c.id = id ∧ Storage.isUnboundBackend c = true then bindRecord c else c)
          ).mapValues (fun _ c => if c.parentId = some id ∧ c.revokedAt = none then bindRecord c else c) =
        st.credentials.mapValues (fun _ c =>
          if (c.id = id ∨ c.parentId = some id) ∧ c.revokedAt = none then bindRecord c else c) := by
      rw [InsertionMap.mapValues_mapValues]
      refine InsertionMap.mapValues_congr (fun k c' hk => ?_)
      by_cases hid : c'.id = id
      · -- The credential itself is unrevoked, and bound by the first statement.
        have hkey : id = k := hid.symm.trans (h.keyed k c' hk)
        obtain rfl : c = c' := Option.some.inj (hc.symm.trans (hkey ▸ hk))
        have hrevoked : c.revokedAt = none := by
          simp only [Storage.isUnboundBackend, Bool.and_eq_true, Option.isNone_iff_eq_none] at hunbound
          exact hunbound.1.2
        have hself : (if c.id = id ∧ Storage.isUnboundBackend c = true then bindRecord c else c) = bindRecord c :=
          if_pos ⟨hid, hunbound⟩
        have hboth : (if (c.id = id ∨ c.parentId = some id) ∧ c.revokedAt = none then bindRecord c else c) = bindRecord c :=
          if_pos ⟨Or.inl hid, hrevoked⟩
        rw [hself, hboth]
        split <;> rfl
      · have hother : (if c'.id = id ∧ Storage.isUnboundBackend c' = true then bindRecord c' else c') = c' :=
          if_neg (fun hself => hid hself.1)
        rw [hother]
        simp only [hid, false_or]
    rw [← hsame]
    exact hholds₂
  · have hnone : Sql.changes unbound db.credentials = 0 := by
      by_contra hpos
      obtain ⟨c, hc, hunbound⟩ := hchanges.mp (Nat.pos_of_ne_zero hpos)
      exact hany ((Option.any_eq_true _ _).mpr ⟨c, hc, hunbound⟩)
    rw [if_pos hnone, Storage.bindBackendCredential, if_neg hany, Bool.not_eq_true _ |>.mp hany]
    refine ⟨db₁, rfl, ?_⟩
    have hsame : st.credentials.mapValues (fun _ c =>
        if c.id = id ∧ Storage.isUnboundBackend c = true then bindRecord c else c) = st.credentials := by
      refine InsertionMap.mapValues_id (fun k c hk => if_neg ?_)
      rintro ⟨hid, hunbound⟩
      have hkey : id = k := hid.symm.trans (h.keyed k c hk)
      exact hany ((Option.any_eq_true _ _).mpr ⟨c, hkey ▸ hk, hunbound⟩)
    rw [hsame] at hholds₁
    exact hholds₁

theorem revokeCredential (h : db.Holds st) (now : Nat) (id : String) :
    ∃ db', db.revokeCredential now id = .ok ((st.revokeCredential now id).1, db') ∧
      db'.Holds (st.revokeCredential now id).2 := by
  let revoke (r : CredentialRow) : CredentialRow := { r with revokedAt := some now }
  let revokeRecord (c : CredentialRecord) : CredentialRecord := { c with revokedAt := some now }
  let self (r : CredentialRow) : Sql.Truth := Sql.and (idIs id r) (unrevoked r)
  let child (r : CredentialRow) : Sql.Truth := Sql.and (parentIs id r) (unrevoked r)
  have hself (c : CredentialRecord) : Sql.holds (self (.ofRecord c)) = decide (c.id = id ∧ c.revokedAt = none) := by
    simp [self]
  have hchild (c : CredentialRecord) : Sql.holds (child (.ofRecord c)) =
      decide (c.parentId = some id ∧ c.revokedAt = none) := by
    simp [child]
  obtain ⟨db₁, hdb₁, hholds₁⟩ := h.update hself revoke revokeRecord (fun _ => rfl) (fun _ => rfl) (fun _ => rfl)
    (fun _ => rfl)
  have hchanges := h.changes_pos_iff hself
  have hrun : db.revokeCredential now id =
      if Sql.changes self db.credentials = 0 then .ok ([], db₁)
      else (db₁.writeCredentials (Sql.update revoke child db₁.credentials)).map
        (fun db => (id :: (Sql.select child db₁.credentials).map (·.id), db)) := by
    change (db.writeCredentials (Sql.update revoke self db.credentials)).bind _ = _
    rw [hdb₁]
    rfl
  rw [hrun]
  by_cases hnone : Sql.changes self db.credentials = 0
  · have hskip : st.revokeCredential now id = ([], st) := by
      unfold Storage.revokeCredential
      cases hc : st.getCredential id with
      | none => rfl
      | some c =>
        have hrevoked : c.revokedAt ≠ none := fun hnull => (hchanges.mpr ⟨c, hc, hnull⟩).ne' hnone
        exact if_pos (Option.isSome_iff_ne_none.mpr hrevoked)
    have hsame : st.credentials.mapValues (fun _ c => if c.id = id ∧ c.revokedAt = none then revokeRecord c else c) =
        st.credentials := by
      refine InsertionMap.mapValues_id (fun k c hk => if_neg ?_)
      rintro ⟨hid, hnull⟩
      have hkey : id = k := hid.symm.trans (h.keyed k c hk)
      exact (hchanges.mpr ⟨c, hkey ▸ hk, hnull⟩).ne' hnone
    rw [if_pos hnone, hskip]
    rw [hsame] at hholds₁
    exact ⟨db₁, rfl, hholds₁⟩
  · obtain ⟨c, hc, hnull⟩ := hchanges.mp (Nat.pos_of_ne_zero hnone)
    obtain ⟨db₂, hdb₂, hholds₂⟩ := hholds₁.update hchild revoke revokeRecord (fun _ => rfl) (fun _ => rfl) (fun _ => rfl)
      (fun _ => rfl)
    have hmodify : st.credentials.mapValues (fun _ c => if c.id = id ∧ c.revokedAt = none then revokeRecord c else c) =
        st.credentials.modify id revokeRecord := by
      rw [h.keyed.modify_eq]
      refine InsertionMap.mapValues_congr (fun k c' hk => ?_)
      by_cases hid : c'.id = id
      · have hkey : id = k := hid.symm.trans (h.keyed k c' hk)
        obtain rfl : c = c' := Option.some.inj (hc.symm.trans (hkey ▸ hk))
        rw [if_pos ⟨hid, hnull⟩, if_pos hid]
      · rw [if_neg (fun hboth => hid hboth.1), if_neg hid]
    rw [hmodify] at hholds₁ hholds₂
    have hrevoke : st.revokeCredential now id =
        (id :: ({ st with credentials := st.credentials.modify id revokeRecord } : Storage).unrevokedChildren id,
          { st with credentials := (st.credentials.modify id revokeRecord).mapValues (fun _ c =>
              if c.parentId = some id ∧ c.revokedAt = none then revokeRecord c else c) }) := by
      unfold Storage.revokeCredential
      rw [hc]
      exact if_neg (by rw [hnull]; nofun)
    have hchildren : (Sql.select child db₁.credentials).map (·.id) =
        ({ st with credentials := st.credentials.modify id revokeRecord } : Storage).unrevokedChildren id := by
      rw [hholds₁.credentials, select_ofRecord _ hchild, List.map_map]
      rfl
    rw [if_neg hnone, hrevoke, hdb₂, hchildren]
    exact ⟨db₂, rfl, hholds₂⟩

theorem revokeCredentials (h : db.Holds st) (now : Nat) (ids : List String) :
    ∃ db', db.revokeCredentials now ids = .ok ((st.revokeCredentials now ids).1, db') ∧
      db'.Holds (st.revokeCredentials now ids).2 := by
  induction ids generalizing db st with
  | nil => exact ⟨db, rfl, h⟩
  | cons id ids ih =>
    obtain ⟨db₁, hdb₁, hholds₁⟩ := h.revokeCredential now id
    obtain ⟨db₂, hdb₂, hholds₂⟩ := ih hholds₁
    rw [Storage.revokeCredentials_cons, SqliteStorage.revokeCredentials, hdb₁]
    refine ⟨db₂, ?_, hholds₂⟩
    change (db₁.revokeCredentials now ids).map _ = _
    rw [hdb₂]
    rfl

theorem purgeRevokedCredentials (h : db.Holds st) (ids : Option (List String)) :
    ∃ db', db.purgeRevokedCredentials ids = .ok ((st.purgeRevokedCredentials ids).1, db') ∧
      db'.Holds (st.purgeRevokedCredentials ids).2 := by
  let purged (r : CredentialRow) : Sql.Truth :=
    ids.elim (Sql.isNotNull r.revokedAt) (fun ids => Sql.and (Sql.isNotNull r.revokedAt) (Sql.member (some r.id) ids))
  have hp (c : CredentialRecord) : Sql.holds (purged (.ofRecord c)) =
      decide ((c.revokedAt.isSome && ids.all (fun ids => c.id ∈ ids)) = true) := by
    cases ids <;> simp [purged, CredentialRow.ofRecord]
  obtain ⟨db', hdb', hholds⟩ := h.delete hp
  have hids : (Sql.select purged db.credentials).map (·.id) = (st.purgeRevokedCredentials ids).1 := by
    rw [h.credentials, select_ofRecord _ hp, List.map_map]
    simp only [Bool.decide_eq_true]
    rfl
  refine ⟨db', ?_, ?_⟩
  · have hpurge : db.purgeRevokedCredentials ids = (db.writeCredentials (Sql.delete purged db.credentials)).map
        (fun db' => ((Sql.select purged db.credentials).map (·.id), db')) := by
      cases ids <;> rfl
    rw [hpurge, hdb', ← hids]
    rfl
  · simp only [Bool.decide_eq_true] at hholds
    exact hholds

/-! ## Operations on identities -/

theorem holdsIdentities (h : db.Holds st) {rows : List IdentityRow} (hrows : IdentityConstraints rows)
    {backendIdentities : InsertionMap String BackendIdentity} (hentries : rows = backendIdentities.entries)
    (hkeys : ∀ key identity, backendIdentities.get key = some identity →
      key = boundIdentityKey identity.backendId ∨
        key = backendIdentityKey identity.ns identity.instanceId identity.environment) :
    (db.withIdentities rows hrows).Holds { st with backendIdentities } where
  credentials := h.credentials
  keyed := h.keyed
  identities := hentries
  keys := hkeys
  maxEpoch := h.maxEpoch

/-- An `UPDATE` that leaves alone what identities are known by. -/
theorem updateIdentities (h : db.Holds st) {condition : IdentityRow → Sql.Truth} (p : String → BackendIdentity → Prop)
    [∀ key identity, Decidable (p key identity)] (hp : ∀ r, Sql.holds (condition r) = decide (p r.1 r.2))
    (set : IdentityRow → IdentityRow) (f : BackendIdentity → BackendIdentity) (hset : ∀ r, set r = (r.1, f r.2))
    (hid : ∀ identity, (f identity).backendId = identity.backendId)
    (hkey : ∀ identity, backendIdentityKey (f identity).ns (f identity).instanceId (f identity).environment =
      backendIdentityKey identity.ns identity.instanceId identity.environment) :
    ∃ db', db.writeIdentities (Sql.update set condition db.identities) = .ok db' ∧
      db'.Holds { st with
        backendIdentities := st.backendIdentities.mapValues (fun key identity =>
          if p key identity then f identity else identity) } := by
  have hrows : IdentityConstraints (Sql.update set condition db.identities) := by
    refine ⟨?_, ?_⟩
    · rw [Sql.map_update (fun r => by rw [hset])]
      exact db.identitiesHold.keys
    · rw [Sql.map_update (fun r => by rw [hset, hid])]
      exact db.identitiesHold.backendIds
  refine ⟨_, writeIdentities_ok hrows db, h.holdsIdentities _ ?_ (fun key identity hget => ?_)⟩
  · rw [h.identities, Sql.update, InsertionMap.mapValues]
    refine List.map_congr_left (fun r _ => ?_)
    rw [hp, hset]
    by_cases hr : p r.1 r.2
    · rw [if_pos (decide_eq_true hr), if_pos hr]
    · rw [if_neg (by simpa using hr), if_neg hr]
  · rw [InsertionMap.get_mapValues] at hget
    obtain ⟨identity', hget', rfl⟩ := Option.map_eq_some_iff.mp hget
    have hkeys := h.keys key identity' hget'
    split
    · rw [hid, hkey]
      exact hkeys
    · exact hkeys

/-- An `INSERT` of a new identity. -/
theorem insertIdentity (h : db.Holds st) {key backendId : String} (hkey : st.backendIdentities.get key = none)
    (hnew : ∀ identity ∈ st.backendIdentities.values, identity.backendId ≠ backendId) (now : Nat)
    (ns instanceId environment name : String)
    (hshape : key = boundIdentityKey backendId ∨ key = backendIdentityKey ns instanceId environment) :
    ∃ db', db.insertIdentity key backendId now ns instanceId environment name = .ok db' ∧
      db'.Holds { st with
        backendIdentities := st.backendIdentities.set key
          { backendId, tenant := "", ns, instanceId, environment, name, createdAt := now, updatedAt := now,
            lastCredentialId := none, lastSeenAt := none } } := by
  let identity : BackendIdentity :=
    { backendId, tenant := "", ns, instanceId, environment, name, createdAt := now, updatedAt := now,
      lastCredentialId := none, lastSeenAt := none }
  have hrows : IdentityConstraints (db.identities ++ [(key, identity)]) := by
    refine ⟨?_, ?_⟩
    · rw [List.map_append, List.map_singleton, ← List.concat_eq_append, List.nodup_concat]
      refine ⟨?_, db.identitiesHold.keys⟩
      rw [h.identities]
      exact InsertionMap.not_mem_keys_of_get_none hkey
    · rw [List.map_append, List.map_singleton, ← List.concat_eq_append, List.nodup_concat]
      refine ⟨fun hmem => ?_, db.identitiesHold.backendIds⟩
      obtain ⟨r, hr, he⟩ := List.mem_map.mp hmem
      rw [h.identities] at hr
      exact hnew r.2 (List.mem_map_of_mem hr) he
  refine ⟨_, writeIdentities_ok hrows db, h.holdsIdentities _ ?_ (fun key' identity' hget => ?_)⟩
  · rw [InsertionMap.entries_set_new hkey, ← h.identities]
  · rw [InsertionMap.get_set] at hget
    split at hget
    · rename_i heq
      rw [Option.some.injEq] at hget
      rw [← hget, heq]
      exact hshape
    · exact h.keys key' identity' hget

theorem head_select_keyIs (h : db.Holds st) (key : String) :
    (Sql.select (keyIs key) db.identities).head? = (st.backendIdentities.get key).map (fun identity => (key, identity)) := by
  have hcondition : (fun r : IdentityRow => Sql.holds (keyIs key r)) = fun r => decide (r.1 = key) := by
    funext r
    simp [keyIs]
  rw [Sql.select, List.head?_filter, h.identities, hcondition, InsertionMap.get, Option.map_map]
  cases hfind : st.backendIdentities.entries.find? (fun r => decide (r.1 = key)) with
  | none => rfl
  | some r =>
    have hr : r.1 = key := by simpa using List.find?_some hfind
    rw [Option.map_some, Function.comp_apply, ← hr]

theorem getOrCreateBackendIdV4 (h : db.Holds st) {fresh : String}
    (hnew : ∀ identity ∈ st.backendIdentities.values, identity.backendId ≠ fresh) (now : Nat)
    (ns instanceId environment : String) (name : Option String) :
    ∃ db', db.getOrCreateBackendIdV4 fresh now ns instanceId environment name =
        .ok ((st.getOrCreateBackendIdV4 fresh now ns instanceId environment name).1, db') ∧
      db'.Holds (st.getOrCreateBackendIdV4 fresh now ns instanceId environment name).2 := by
  unfold SqliteStorage.getOrCreateBackendIdV4 Storage.getOrCreateBackendIdV4
  dsimp only
  rw [h.head_select_keyIs]
  generalize hkey : backendIdentityKey ns instanceId environment = key
  cases hget : st.backendIdentities.get key with
  | none =>
    obtain ⟨db', hdb', hholds⟩ := h.insertIdentity hget hnew now ns instanceId environment (name.getD "") (Or.inr hkey.symm)
    rw [Option.map_none]
    dsimp only
    rw [hdb']
    exact ⟨db', rfl, hholds⟩
  | some existing =>
    rw [Option.map_some]
    dsimp only
    cases hname : name.filter (fun name => decide (name ≠ "" ∧ name ≠ existing.name)) with
    | none =>
      have hsame : st.backendIdentities.modify key (Storage.renameIdentity name now) = st.backendIdentities := by
        refine InsertionMap.mapValues_id (fun k identity hk => ?_)
        split
        · rename_i heq
          obtain rfl : existing = identity := Option.some.inj (hget.symm.trans (heq ▸ hk))
          cases name with
          | none => rfl
          | some name =>
            rw [Option.filter_eq_none_iff] at hname
            exact if_neg (by simpa using hname name rfl)
        · rfl
      rw [hsame]
      exact ⟨db, rfl, h⟩
    | some name' =>
      obtain ⟨rfl, hchange⟩ := Option.filter_eq_some_iff.mp hname
      rw [decide_eq_true_eq] at hchange
      have hp (r : IdentityRow) : Sql.holds (keyIs key r) = decide (r.1 = key) := by
        simp [keyIs]
      obtain ⟨db', hdb', hholds⟩ := h.updateIdentities (fun key' _ => key' = key) hp
        (fun r => (r.1, { r.2 with name := name', updatedAt := now }))
        (fun identity => { identity with name := name', updatedAt := now }) (fun _ => rfl) (fun _ => rfl) (fun _ => rfl)
      dsimp only
      rw [hdb']
      refine ⟨db', rfl, ?_⟩
      have hsame : st.backendIdentities.modify key (Storage.renameIdentity (some name') now) =
          st.backendIdentities.modify key (fun identity => { identity with name := name', updatedAt := now }) := by
        refine InsertionMap.mapValues_congr (fun k identity hk => ?_)
        split
        · rename_i heq
          obtain rfl : existing = identity := Option.some.inj (hget.symm.trans (heq ▸ hk))
          exact if_pos hchange
        · rfl
      rw [hsame]
      exact hholds

theorem deleteBackendIdentity (h : db.Holds st) (backendId : String) :
    ∃ db', db.deleteBackendIdentity backendId = .ok ((MemoryStorage.deleteBackendIdentity backendId st).1, db') ∧
      db'.Holds (MemoryStorage.deleteBackendIdentity backendId st).2 := by
  have hholds (r : IdentityRow) : Sql.holds (backendIs backendId r) = decide (r.2.backendId = backendId) := by
    simp [backendIs]
  have hrows : IdentityConstraints (Sql.delete (backendIs backendId) db.identities) :=
    ⟨db.identitiesHold.keys.sublist (List.filter_sublist.map _),
      db.identitiesHold.backendIds.sublist (List.filter_sublist.map _)⟩
  have hrun : db.deleteBackendIdentity backendId =
      .ok (decide (0 < Sql.changes (backendIs backendId) db.identities), db.withIdentities _ hrows) := by
    rw [SqliteStorage.deleteBackendIdentity, writeIdentities_ok hrows]
    rfl
  rw [hrun]
  unfold MemoryStorage.deleteBackendIdentity
  cases hfind : st.backendIdentities.entries.find? (fun p => decide (p.2.backendId = backendId)) with
  | none =>
    have hnone : ∀ r ∈ db.identities, r.2.backendId ≠ backendId := by
      rw [h.identities]
      simpa using hfind
    have hchanges : Sql.changes (backendIs backendId) db.identities = 0 := by
      rw [Sql.changes_eq_zero_iff]
      intro r hr
      rw [hholds]
      exact decide_eq_false (hnone r hr)
    refine ⟨_, by rw [hchanges]; rfl, h.holdsIdentities hrows ?_ h.keys⟩
    rw [Sql.delete, ← h.identities, List.filter_eq_self]
    intro r hr
    rw [hholds]
    simpa using hnone r hr
  | some r =>
    obtain ⟨key, identity⟩ := r
    have hmem : (key, identity) ∈ st.backendIdentities.entries := List.mem_of_find?_eq_some hfind
    have hid : identity.backendId = backendId := by simpa using List.find?_some hfind
    have hchanges : 0 < Sql.changes (backendIs backendId) db.identities := by
      rw [Sql.changes_pos_iff, h.identities]
      exact ⟨_, hmem, (hholds _).trans (decide_eq_true hid)⟩
    refine ⟨_, by rw [decide_eq_true hchanges], h.holdsIdentities hrows ?_ (fun key' identity' hget => ?_)⟩
    · rw [Sql.delete, h.identities]
      refine List.filter_congr (fun r hr => ?_)
      -- Backend ids and keys are unique, so that one row has both.
      have hiff : r.2.backendId = backendId ↔ r.1 = key := by
        constructor
        · intro he
          have hnodup := db.identitiesHold.backendIds
          rw [h.identities] at hnodup
          rw [List.inj_on_of_nodup_map hnodup hr hmem (he.trans hid.symm)]
        · intro he
          rw [List.inj_on_of_nodup_map st.backendIdentities.nodup hr hmem he]
          exact hid
      rw [hholds]
      simp [hiff]
    · exact h.keys key' identity' (InsertionMap.get_delete_eq_some.mp hget).2

theorem touchBackendIdentity (h : db.Holds st) (now : Nat) (backendId : String) {rootCredentialId : Option String}
    (hroot : rootCredentialId ≠ some "") (name : Option String) :
    ∃ db', db.touchBackendIdentity now backendId rootCredentialId name = .ok db' ∧
      db'.Holds (MemoryStorage.touchBackendIdentity now backendId rootCredentialId name st) := by
  have hp (r : IdentityRow) : Sql.holds (backendIs backendId r) = decide (r.2.backendId = backendId) := by
    simp [backendIs]
  have hfilter : rootCredentialId.filter (fun id => decide (id ≠ "")) = rootCredentialId := by
    cases rootCredentialId with
    | none => rfl
    | some id =>
      have hid : id ≠ "" := fun he => hroot (congrArg some he)
      simp [Option.filter, hid]
  have hname (r : IdentityRow) : (Sql.coalesce (Sql.nullif (some (name.getD "")) (some "")) (some r.2.name)).getD "" =
      (name.filter (fun name => decide (name ≠ ""))).getD r.2.name := by
    cases name with
    | none => simp [Sql.nullif, Sql.eq, Sql.coalesce]
    | some name => by_cases hempty : name = "" <;> simp [Sql.nullif, Sql.eq, Sql.coalesce, Option.filter, hempty]
  obtain ⟨db', hdb', hholds⟩ := h.updateIdentities (fun _ identity => identity.backendId = backendId) hp
    (fun r => (r.1, { r.2 with
      lastSeenAt := some now
      lastCredentialId := Sql.coalesce rootCredentialId r.2.lastCredentialId
      name := (Sql.coalesce (Sql.nullif (some (name.getD "")) (some "")) (some r.2.name)).getD "" }))
    (fun identity => { identity with
      lastSeenAt := some now
      lastCredentialId := (rootCredentialId.filter (· ≠ "")).or identity.lastCredentialId
      name := (name.filter (· ≠ "")).getD identity.name })
    (fun r => by rw [hname, hfilter]; rfl) (fun _ => rfl) (fun _ => rfl)
  exact ⟨db', hdb', hholds⟩

/-! ## Issuing credentials -/

theorem createBoundBackendIdentity (h : db.Holds st) {fresh : String}
    (hnew : ∀ identity ∈ st.backendIdentities.values, identity.backendId ≠ fresh) (now : Nat) (ns name : String) :
    ∃ db', db.createBoundBackendIdentity fresh now ns name = .ok db' ∧
      db'.Holds (st.createBoundBackendIdentity fresh now ns name) := by
  have hkey : st.backendIdentities.get (boundIdentityKey fresh) = none := by
    by_contra hsome
    obtain ⟨identity, hget⟩ := Option.ne_none_iff_exists'.mp hsome
    rcases h.keys _ identity hget with hbound | hlegacy
    · exact hnew identity (InsertionMap.mem_values_iff.mpr ⟨_, hget⟩) (boundIdentityKey_injective hbound).symm
    · exact key_ne_boundIdentityKey ⟨identity.ns, identity.instanceId, identity.environment⟩ fresh hlegacy.symm
  exact h.insertIdentity hkey hnew now ns "" "" name (Or.inl rfl)

theorem insertRecord (h : db.Holds st) {hash : String → String} {fresh : CredentialDraw} {input : CredentialInput}
    {st' : Storage} (hnew : NewCredential hash fresh input st') (hsame : st.credentials = st'.credentials) (now : Nat)
    (backendId : Option String) :
    ∃ db', db.writeCredentials (db.credentials ++ [.ofRecord (credentialRecord hash fresh now input backendId)]) = .ok db' ∧
      db'.Holds { st with
        credentials := st.credentials.set fresh.id (credentialRecord hash fresh now input backendId) } := by
  refine h.insert (by rw [hsame]; exact hnew.id) (by rw [hsame]; exact hnew.token) (fun p hp c hc hparent => ?_)
  rw [hsame] at hc
  unfold CredentialRow.accessParent at hp hparent
  by_cases htype : input.type = .backendAccess
  · by_cases hctype : c.type = .backendAccess
    · have hnone := hnew.parent htype p ((if_pos htype).symm.trans hp)
      rw [Storage.findAccessCredential, List.find?_eq_none] at hnone
      have hcparent : c.parentId = some p := (if_pos hctype).symm.trans hparent
      exact hnone c hc (by simp [hctype, hcparent])
    · cases (if_neg hctype).symm.trans hparent
  · cases (if_neg htype).symm.trans hp

theorem createCredential (h : db.Holds st) {hash : String → String} {fresh : CredentialDraw} {input : CredentialInput}
    (hnew : NewCredential hash fresh input st) (now : Nat) :
    ∃ db', db.createCredential hash fresh now input =
        .ok ((st.createCredential hash fresh now input).1, (st.createCredential hash fresh now input).2.1, db') ∧
      db'.Holds (st.createCredential hash fresh now input).2.2 := by
  obtain ⟨type, ns, name, ttlMs, parentId, backendId, allowedBackends⟩ := input
  cases type with
  | device =>
    obtain ⟨db', hdb', hholds⟩ := h.insertRecord hnew rfl now none
    exact ⟨db', congrArg (Except.map _) hdb', hholds⟩
  | backendAccess =>
    obtain ⟨db', hdb', hholds⟩ := h.insertRecord hnew rfl now backendId
    exact ⟨db', congrArg (Except.map _) hdb', hholds⟩
  | backend =>
    cases backendId with
    | some backendId =>
      obtain ⟨db', hdb', hholds⟩ := h.insertRecord hnew rfl now (some backendId)
      exact ⟨db', congrArg (Except.map _) hdb', hholds⟩
    | none =>
      obtain ⟨db₁, hdb₁, hholds₁⟩ := h.createBoundBackendIdentity (hnew.backendId rfl) now ns (name.getD "")
      obtain ⟨db', hdb', hholds⟩ := hholds₁.insertRecord hnew rfl now (some fresh.backendId)
      refine ⟨db', ?_, hholds⟩
      change (db.createBoundBackendIdentity fresh.backendId now ns (name.getD "")).bind _ = _
      rw [hdb₁]
      exact congrArg (Except.map _) hdb'

theorem exchangeAccessCredential (h : db.Holds st) {hash : String → String} {fresh : CredentialDraw}
    (hnew : NewAccess hash fresh st) (now : Nat) (parent : CredentialRecord) (ttlMs : Option (Option ℚ)) :
    ∃ db', db.exchangeAccessCredential hash fresh now parent ttlMs =
        .ok ((some (st.exchangeAccessCredential hash fresh now parent ttlMs).1,
          (st.exchangeAccessCredential hash fresh now parent ttlMs).2.1, (st.findAccessCredential parent.id).isSome), db') ∧
      db'.Holds (st.exchangeAccessCredential hash fresh now parent ttlMs).2.2 := by
  unfold SqliteStorage.exchangeAccessCredential Storage.exchangeAccessCredential
  rw [h.findAccessCredential]
  cases hfind : st.findAccessCredential parent.id with
  | none =>
    dsimp only
    let input : CredentialInput :=
      { type := .backendAccess
        ns := parent.ns
        name := some (accessCredentialName parent)
        parentId := some parent.id
        ttlMs
        backendId := parent.backendId }
    have hfirst : input.type = .backendAccess → ∀ p, input.parentId = some p → st.findAccessCredential p = none := by
      rintro - p ⟨⟩
      exact hfind
    have hissuable : NewCredential hash fresh input st := ⟨hnew.id, hnew.token, (nomatch ·), hfirst⟩
    obtain ⟨db', hdb', hholds⟩ := h.createCredential hissuable now
    refine ⟨db', ?_, hholds⟩
    rw [hdb']
    rfl
  | some existing =>
    let token := CredentialType.backendAccess.tokenPrefix ++ fresh.secret
    let rotate (r : CredentialRow) : CredentialRow :=
      { r with
        tokenHash := hash token
        ns := parent.ns
        name := accessCredentialName parent
        createdAt := now
        expiresAt := (lifetime .backendAccess ttlMs).map (Storage.expiry now)
        revokedAt := none
        backendId := parent.backendId }
    let rotateRecord (c : CredentialRecord) : CredentialRecord :=
      { c with
        tokenHash := hash token
        ns := parent.ns
        name := accessCredentialName parent
        createdAt := now
        expiresAt := (lifetime .backendAccess ttlMs).map (Storage.expiry now)
        revokedAt := none
        backendId := parent.backendId }
    have hget : st.credentials.get existing.id = some existing := by
      obtain ⟨k, hk⟩ := InsertionMap.mem_values_iff.mp (List.mem_of_find?_eq_some hfind)
      have hkey : existing.id = k := h.keyed k existing hk
      rw [hkey]
      exact hk
    have hrows : CredentialConstraints (Sql.update rotate (idIs existing.id) db.credentials) := by
      refine db.credentialsHold.rehash (fun _ => rfl) (fun _ => rfl) (fun _ => rfl) (fun r hr => ?_)
      rw [h.credentials] at hr
      obtain ⟨c, hc, rfl⟩ := List.mem_map.mp hr
      exact hnew.token c hc
    have hholds : (db.withCredentials _ hrows).Holds
        { st with credentials := st.credentials.modify existing.id rotateRecord } := by
      refine h.holdsCredentials hrows ?_ ?_
      · have hrotate (c : CredentialRecord) : rotate (.ofRecord c) = .ofRecord (rotateRecord c) := rfl
        rw [h.credentials, update_ofRecord _ (holds_idIs existing.id) hrotate, h.keyed.modify_eq,
          InsertionMap.values_mapValues]
      · rw [h.keyed.modify_eq]
        refine h.keyed.mapValues (fun _ c => ?_)
        split <;> rfl
    refine ⟨db.withCredentials _ hrows, ?_, hholds⟩
    have hafter : (db.withCredentials _ hrows).getCredential existing.id = some (rotateRecord existing) := by
      rw [hholds.getCredential]
      change (st.credentials.modify existing.id rotateRecord).get existing.id = _
      rw [InsertionMap.get_modify_self, hget]
      rfl
    change (db.writeCredentials (Sql.update rotate (idIs existing.id) db.credentials)).map _ = _
    rw [writeCredentials_ok hrows]
    change Except.ok (((db.withCredentials _ hrows).getCredential existing.id, _, _), _) = _
    rw [hafter]
    rfl

end Holds

end SqliteStorage

end ZclaudiaGateway
