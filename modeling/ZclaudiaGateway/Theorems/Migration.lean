import ZclaudiaGateway.Database

/-!
# The migration of access credentials

Opening a database of any version succeeds. Of the access credentials exchanged from one enrollment the unrevoked, newest one
stays and the others go; no other row goes, and what is gone only takes tokens away. Opening it again changes nothing.
-/

namespace ZclaudiaGateway

/-! ## First access credentials -/

theorem isExchanged_iff {r : CredentialRecord} : isExchanged r = true ↔ r.type = .backendAccess ∧ ∃ p, r.parentId = some p := by
  simp [isExchanged, Option.isSome_iff_exists]

theorem mem_firstAccessIds {rows : List CredentialRecord} {id : String} :
    id ∈ firstAccessIds rows ↔ ∃ r ∈ rows, isExchanged r = true ∧ r.id = id ∧
      Ranking.rowNumber (·.parentId) accessOrder (rows.filter isExchanged) r = 1 := by
  simp only [firstAccessIds, List.mem_map, List.mem_filter, decide_eq_true_eq]
  constructor
  · rintro ⟨r, ⟨⟨hr, hx⟩, hone⟩, rfl⟩
    exact ⟨r, hr, hx, rfl, hone⟩
  · rintro ⟨r, hr, hx, rfl, hone⟩
    exact ⟨r, ⟨⟨hr, hx⟩, hone⟩, rfl⟩

/-- A row that comes before another one is unrevoked if that one is, and no older if both or neither are. -/
theorem accessOrder_le {r r' : CredentialRecord} (h : accessOrder r ≤ accessOrder r') :
    (r'.revokedAt = none → r.revokedAt = none) ∧
      (r'.revokedAt.isNone = r.revokedAt.isNone → r'.createdAt ≤ r.createdAt) := by
  rw [accessOrder, accessOrder, Prod.Lex.toLex_le_toLex] at h
  rcases h with hlt | ⟨heq, hle⟩
  · have hlt' : r'.revokedAt.isNone < r.revokedAt.isNone := hlt
    obtain ⟨hrevoked, hunrevoked⟩ := Bool.lt_iff.mp hlt'
    refine ⟨fun hn => ?_, fun he => ?_⟩
    · rw [hn] at hrevoked
      cases hrevoked
    · rw [hrevoked, hunrevoked] at he
      cases he
  · have heq' : r.revokedAt.isNone = r'.revokedAt.isNone := heq
    refine ⟨fun hn => ?_, fun _ => ?_⟩
    · rw [hn] at heq'
      exact Option.isNone_iff_eq_none.mp heq'
    · rw [Prod.Lex.toLex_le_toLex] at hle
      rcases hle with hlt | ⟨hsame, -⟩
      · exact le_of_lt (OrderDual.toDual_lt_toDual.mp hlt)
      · exact le_of_eq (OrderDual.toDual_inj.mp hsame).symm

/-! ## Collapsing -/

theorem eq_of_id {t : CredentialsTable} {r r' : CredentialRecord} (hr : r ∈ t.table.rows) (hr' : r' ∈ t.table.rows)
    (h : r.id = r'.id) : r = r' :=
  List.inj_on_of_nodup_map t.ids hr hr' h

/-- A row stays if and only if it is the first of its parent. -/
theorem not_isDuplicate_iff {t : CredentialsTable} {r : CredentialRecord} (hr : r ∈ t.table.rows) (hx : isExchanged r = true) :
    isDuplicate t.table.rows r = false ↔
      Ranking.rowNumber (·.parentId) accessOrder (t.table.rows.filter isExchanged) r = 1 := by
  rw [isDuplicate, hx, Bool.true_and, decide_eq_false_iff_not, not_not, mem_firstAccessIds]
  constructor
  · rintro ⟨r', hr', -, hid, hone⟩
    rwa [eq_of_id hr' hr hid] at hone
  · intro hone
    exact ⟨r, hr, hx, rfl, hone⟩

/-- The rows that stay. -/
def keptRows (rows : List CredentialRecord) : List CredentialRecord := rows.filter (fun r => !isDuplicate rows r)

theorem mem_keptRows {rows : List CredentialRecord} {r : CredentialRecord} :
    r ∈ keptRows rows ↔ r ∈ rows ∧ isDuplicate rows r = false := by
  simp [keptRows]

/-- No two access credentials that stay have one parent. -/
theorem kept_unique (t : CredentialsTable) {r r' : CredentialRecord} (hr : r ∈ keptRows t.table.rows)
    (hr' : r' ∈ keptRows t.table.rows) (hx : isExchanged r = true) (hx' : isExchanged r' = true)
    (h : r.parentId = r'.parentId) : r = r' := by
  obtain ⟨hmem, hfirst⟩ := mem_keptRows.mp hr
  obtain ⟨hmem', hfirst'⟩ := mem_keptRows.mp hr'
  rw [not_isDuplicate_iff hmem hx] at hfirst
  rw [not_isDuplicate_iff hmem' hx'] at hfirst'
  exact Ranking.eq_of_rowNumber_one (·.parentId) accessOrder (List.mem_filter.mpr ⟨hmem, hx⟩)
    (List.mem_filter.mpr ⟨hmem', hx'⟩) h hfirst hfirst'

/-- Of the access credentials of a parent one stays, and it comes first. -/
theorem kept_first (t : CredentialsTable) {r : CredentialRecord} (hr : r ∈ t.table.rows) (hx : isExchanged r = true) :
    ∃ r' ∈ keptRows t.table.rows, isExchanged r' = true ∧ r'.parentId = r.parentId ∧
      ∀ r'' ∈ t.table.rows, isExchanged r'' = true → r''.parentId = r.parentId → accessOrder r' ≤ accessOrder r'' := by
  obtain ⟨r', hr', hparent, hone⟩ := Ranking.exists_rowNumber_one (·.parentId) accessOrder
    (List.mem_filter.mpr ⟨hr, hx⟩)
  obtain ⟨hmem, hx'⟩ := List.mem_filter.mp hr'
  refine ⟨r', mem_keptRows.mpr ⟨hmem, (not_isDuplicate_iff hmem hx').mpr hone⟩, hx', hparent, fun r'' hr'' hx'' hp => ?_⟩
  exact Ranking.key_le_of_rowNumber_one hr' (List.mem_filter.mpr ⟨hr'', hx''⟩) (hp.trans hparent.symm) hone

/-- The unique index holds for the rows that stay. -/
theorem unique_kept (t : CredentialsTable) : UniqueAccess (keptRows t.table.rows) := by
  have hnodup : (keptRows t.table.rows).Nodup := t.ids.of_map.filter _
  unfold UniqueAccess List.Nodup
  rw [List.pairwise_filterMap, List.pairwise_filter]
  refine hnodup.imp_of_mem fun {r r'} hr hr' hne htype htype' p hp p' hp' he => hne ?_
  have hx : isExchanged r = true := isExchanged_iff.mpr ⟨by simpa using htype, p, by simpa using hp⟩
  have hx' : isExchanged r' = true := isExchanged_iff.mpr ⟨by simpa using htype', p', by simpa using hp'⟩
  refine kept_unique t hr hr' hx hx' ?_
  rw [Option.mem_def.mp hp, Option.mem_def.mp hp', he]

/-- The rows that stay, stay. -/
theorem kept_kept (t : CredentialsTable) : keptRows (keptRows t.table.rows) = keptRows t.table.rows := by
  refine List.filter_eq_self.mpr fun r hr => ?_
  rw [Bool.not_eq_true', isDuplicate]
  rcases hx : isExchanged r with _ | _
  · rfl
  · rw [Bool.true_and, decide_eq_false_iff_not, not_not, mem_firstAccessIds]
    obtain ⟨r', hr', hparent, hone⟩ := Ranking.exists_rowNumber_one (·.parentId) accessOrder
      (List.mem_filter.mpr ⟨hr, hx⟩)
    obtain ⟨hmem, hx'⟩ := List.mem_filter.mp hr'
    rw [kept_unique t hmem hr hx' hx hparent] at hone
    exact ⟨r, hr, hx, rfl, hone⟩

/-! ## A database that is migrated -/

/-- Everything `initDatabase` sees to is there. -/
structure Database.Migrated (db : Database) : Prop where
  maxEpoch : db.counters.has "max_epoch" = true
  registryRevision : db.counters.has "registry_revision" = true
  identityColumns : ∀ c, c ∈ db.identities.table.columns
  credentialColumns : ∀ c, c ∈ db.credentials.table.columns
  kept : keptRows db.credentials.table.rows = db.credentials.table.rows
  accessIndex : db.accessIndex = true

theorem Table.addColumnIfMissing_of_mem {ρ κ : Type} {IsNull : κ → ρ → Prop} [DecidableEq κ] {c : κ} {t : Table ρ κ IsNull}
    (h : c ∈ t.columns) : t.addColumnIfMissing c = t := by
  unfold addColumnIfMissing
  rw [if_pos h]

theorem CredentialsTable.addColumnIfMissing_of_mem {c : CredentialColumn} {t : CredentialsTable} (h : c ∈ t.table.columns) :
    t.addColumnIfMissing c = t := by
  unfold addColumnIfMissing
  congr 1
  exact Table.addColumnIfMissing_of_mem h

theorem IdentitiesTable.addColumnIfMissing_of_mem {c : IdentityColumn} {t : IdentitiesTable} (h : c ∈ t.table.columns) :
    t.addColumnIfMissing c = t := by
  unfold addColumnIfMissing
  congr 1
  exact Table.addColumnIfMissing_of_mem h

theorem CredentialsTable.deleteWhere_of_none {p : CredentialRecord → Bool} {t : CredentialsTable}
    (h : t.table.rows.filter (fun r => !p r) = t.table.rows) : t.deleteWhere p = t := by
  obtain ⟨⟨rows, columns, missing⟩, ids, tokenHashes⟩ := t
  unfold deleteWhere Table.deleteWhere
  congr 2

/-- Opening a migrated database changes nothing. -/
theorem Database.Migrated.again {db : Database} (h : db.Migrated) : initDatabase db.file = .ok db := by
  have htables : createTables db.file = db := by
    unfold createTables Database.file
    simp [h.maxEpoch, h.registryRevision]
  have hcolumns : addColumns db = db := by
    unfold addColumns
    congr 1
    · rw [IdentitiesTable.addColumnIfMissing_of_mem (h.identityColumns _),
        IdentitiesTable.addColumnIfMissing_of_mem (h.identityColumns _)]
    · rw [CredentialsTable.addColumnIfMissing_of_mem (h.credentialColumns _),
        CredentialsTable.addColumnIfMissing_of_mem (h.credentialColumns _),
        CredentialsTable.addColumnIfMissing_of_mem (h.credentialColumns _)]
  have hcollapse : collapseAccess db = db := by
    unfold collapseAccess
    congr 1
    exact CredentialsTable.deleteWhere_of_none h.kept
  unfold initDatabase
  rw [htables, hcolumns, hcollapse, createAccessIndex, if_pos h.accessIndex]

/-! ## Opening a database -/

theorem Table.columns_addColumnIfMissing {ρ κ : Type} {IsNull : κ → ρ → Prop} [DecidableEq κ] {c c' : κ}
    {t : Table ρ κ IsNull} (h : c' = c ∨ c' ∈ t.columns) : c' ∈ (t.addColumnIfMissing c).columns := by
  unfold addColumnIfMissing
  split
  · rcases h with rfl | h
    · assumption
    · exact h
  · rcases h with rfl | h
    · exact List.mem_append_right _ (List.mem_singleton_self _)
    · exact List.mem_append_left _ h

theorem createTables_counters (file : DatabaseFile) :
    (createTables file).counters.has "max_epoch" = true ∧ (createTables file).counters.has "registry_revision" = true := by
  have hset (key key' : String) (m : InsertionMap String Nat) (h : key' = key ∨ m.has key' = true) :
      (if m.has key then m else m.set key 0).has key' = true := by
    split
    · rename_i hkey
      rcases h with rfl | h
      · exact hkey
      · exact h
    · rw [InsertionMap.has_set]
      rcases h with rfl | h
      · simp
      · simp [h]
  exact ⟨hset _ _ _ (Or.inr (hset _ _ _ (Or.inl rfl))), hset _ _ _ (Or.inl rfl)⟩

/-- Opening a database succeeds; what stays of its credentials are the rows that are kept. -/
theorem initDatabase_ok (file : DatabaseFile) :
    ∃ db, initDatabase file = .ok db ∧ db.credentials.table.rows = keptRows file.rows ∧ db.Migrated := by
  have hrows : (addColumns (createTables file)).credentials.table.rows = file.rows := by
    simp [addColumns, CredentialsTable.addColumnIfMissing, DatabaseFile.rows]
  have hkept : (collapseAccess (addColumns (createTables file))).credentials.table.rows = keptRows file.rows := by
    rw [← hrows]
    rfl
  have hmigrated (db : Database) (hcounters : db.counters = (createTables file).counters)
      (hidentities : db.identities = (addColumns (createTables file)).identities)
      (hcredentials : db.credentials = (collapseAccess (addColumns (createTables file))).credentials)
      (hindex : db.accessIndex = true) : db.Migrated := by
    refine ⟨?_, ?_, fun c => ?_, fun c => ?_, ?_, hindex⟩
    · rw [hcounters]
      exact (createTables_counters file).1
    · rw [hcounters]
      exact (createTables_counters file).2
    · rw [hidentities]
      cases c with
      | lastCredentialId => exact Table.columns_addColumnIfMissing (Or.inr (Table.columns_addColumnIfMissing (Or.inl rfl)))
      | lastSeenAt => exact Table.columns_addColumnIfMissing (Or.inl rfl)
    · rw [hcredentials]
      cases c with
      | parentId =>
        exact Table.columns_addColumnIfMissing
          (Or.inr (Table.columns_addColumnIfMissing (Or.inr (Table.columns_addColumnIfMissing (Or.inl rfl)))))
      | backendId => exact Table.columns_addColumnIfMissing (Or.inr (Table.columns_addColumnIfMissing (Or.inl rfl)))
      | allowedBackends => exact Table.columns_addColumnIfMissing (Or.inl rfl)
    · rw [hcredentials, hkept]
      exact kept_kept (createTables file).credentials
  have hunique : UniqueAccess (collapseAccess (addColumns (createTables file))).credentials.table.rows := by
    rw [hkept]
    exact unique_kept (createTables file).credentials
  unfold initDatabase createAccessIndex
  by_cases hindex : (collapseAccess (addColumns (createTables file))).accessIndex = true
  · rw [if_pos hindex]
    exact ⟨_, rfl, hkept, hmigrated _ rfl rfl rfl hindex⟩
  · rw [if_neg hindex, dif_pos hunique]
    exact ⟨_, rfl, hkept, hmigrated _ rfl rfl rfl rfl⟩

/-! ## Tokens -/

theorem find_unique {rows : List CredentialRecord} (hnodup : (rows.map (·.tokenHash)).Nodup) {tokenHash : String}
    {r : CredentialRecord} (hr : r ∈ rows) (h : r.tokenHash = tokenHash) :
    rows.find? (fun c => c.tokenHash = tokenHash) = some r := by
  rcases hfind : rows.find? (fun c => c.tokenHash = tokenHash) with _ | r'
  · have hnone := List.find?_eq_none.mp hfind r hr
    simp [h] at hnone
  · have hsome := List.find?_some hfind
    rw [decide_eq_true_eq] at hsome
    exact hfind.trans (congrArg some (List.inj_on_of_nodup_map hnodup (List.mem_of_find?_eq_some hfind) hr (hsome.trans h.symm)))

theorem Database.storage_values (db : Database) : db.storage.credentials.values = db.credentials.table.rows := by
  simp [Database.storage, InsertionMap.values, Function.comp_def]

theorem Database.storage_get (db : Database) {id : String} {r : CredentialRecord} :
    db.storage.getCredential id = some r ↔ r ∈ db.credentials.table.rows ∧ r.id = id := by
  unfold Storage.getCredential
  rw [InsertionMap.get_eq_some_iff]
  simp [Database.storage]

/-- A token that authenticates against some of the rows authenticates against all of them. -/
theorem findValidCredential_mono {db db' : Database}
    (hsub : ∀ r ∈ db'.credentials.table.rows, r ∈ db.credentials.table.rows) (hash : String → String) (now : Nat)
    (token : String) {r : CredentialRecord} (h : (db'.storage.findValidCredential hash now token).1 = some r) :
    (db.storage.findValidCredential hash now token).1 = some r := by
  unfold Storage.findValidCredential at h ⊢
  split at h
  · cases h
  · rename_i r0 hfind
    split at h
    · rename_i hauth
      obtain rfl := Option.some.inj h
      unfold Storage.getCredentialByHash at hfind ⊢
      rw [Database.storage_values] at hfind ⊢
      have hhash := List.find?_some hfind
      rw [decide_eq_true_eq] at hhash
      rw [find_unique db.credentials.tokenHashes (hsub r0 (List.mem_of_find?_eq_some hfind)) hhash]
      dsimp only
      rw [if_pos]
      unfold Storage.authenticates at hauth ⊢
      rw [Bool.and_eq_true] at hauth ⊢
      refine ⟨hauth.1, ?_⟩
      have hparent := hauth.2
      revert hparent
      rcases r0.parentId with _ | parentId
      · exact id
      · intro hparent
        obtain ⟨parent, hget, hlive⟩ := (Option.any_eq_true _ _).mp hparent
        obtain ⟨hmem, hid⟩ := (Database.storage_get db').mp hget
        exact (Option.any_eq_true _ _).mpr ⟨parent, (Database.storage_get db).mpr ⟨hsub parent hmem, hid⟩, hlive⟩
    · cases h

/-- Opening a database of any version succeeds and leaves of the access credentials of each enrollment exactly one, which is
unrevoked if any of them was and is the newest of those that are or are not revoked as it is. It deletes no other row, no token
authenticates that did not before, and opening the database again changes nothing. -/
theorem initDatabase_migrates (file : DatabaseFile) :
    ∃ db, initDatabase file = .ok db ∧
      (∀ parent, (∃ r ∈ file.rows, r.type = .backendAccess ∧ r.parentId = some parent) →
        ∃ r ∈ db.credentials.table.rows, (r.type = .backendAccess ∧ r.parentId = some parent) ∧
          (∀ r' ∈ db.credentials.table.rows, r'.type = .backendAccess → r'.parentId = some parent → r' = r) ∧
          ∀ r' ∈ file.rows, r'.type = .backendAccess → r'.parentId = some parent →
            (r'.revokedAt = none → r.revokedAt = none) ∧
              (r'.revokedAt.isNone = r.revokedAt.isNone → r'.createdAt ≤ r.createdAt)) ∧
      db.credentials.table.rows.Sublist file.rows ∧
      (∀ r ∈ file.rows, r.type ≠ .backendAccess ∨ r.parentId = none → r ∈ db.credentials.table.rows) ∧
      (∀ hash now token r, (db.storage.findValidCredential hash now token).1 = some r →
        (file.storage.findValidCredential hash now token).1 = some r) ∧
      initDatabase db.file = .ok db := by
  obtain ⟨db, hok, hrows, hmigrated⟩ := initDatabase_ok file
  have hsublist : db.credentials.table.rows.Sublist file.rows := by
    rw [hrows]
    exact List.filter_sublist
  refine ⟨db, hok, ?_, hsublist, ?_, fun hash now token r hr => ?_, hmigrated.again⟩
  · rintro parent ⟨r0, hr0, htype0, hparent0⟩
    have hx0 : isExchanged r0 = true := isExchanged_iff.mpr ⟨htype0, parent, hparent0⟩
    obtain ⟨r, hr, hx, hparent, hfirst⟩ := kept_first (createTables file).credentials hr0 hx0
    have hkept : r ∈ keptRows file.rows := hr
    rw [hrows]
    refine ⟨r, hkept, ⟨(isExchanged_iff.mp hx).1, hparent.trans hparent0⟩, fun r' hr' htype' hparent' => ?_,
      fun r' hr' htype' hparent' => ?_⟩
    · have hx' : isExchanged r' = true := isExchanged_iff.mpr ⟨htype', parent, hparent'⟩
      exact kept_unique (createTables file).credentials hr' hr hx' hx (hparent'.trans (hparent.trans hparent0).symm)
    · have hx' : isExchanged r' = true := isExchanged_iff.mpr ⟨htype', parent, hparent'⟩
      exact accessOrder_le (hfirst r' hr' hx' (hparent'.trans hparent0.symm))
  · intro r hr hother
    rw [hrows]
    refine mem_keptRows.mpr ⟨hr, ?_⟩
    have hx : isExchanged r = false := by
      rcases hother with htype | hparent
      · simp [isExchanged, htype]
      · simp [isExchanged, hparent]
    rw [isDuplicate, hx, Bool.false_and]
  · exact findValidCredential_mono (fun r' hr' => hsublist.subset hr') hash now token hr

end ZclaudiaGateway
