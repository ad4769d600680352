import ZclaudiaGateway.Lemmas.SqliteStorage

/-!
# The storage without a database

A storage that cannot open its database keeps its rows in memory. On one sequence of operations the two give equal results, but
that memory returns a credential it finds as the touch leaves it, and SQLite as the row was before.
-/

namespace ZclaudiaGateway

variable {hash : String → String}

/-! ## One operation -/

/-- The values that a call draws are new, and a credential that is named has an id. -/
def StorageOp.Given (hash : String → String) (st : Storage) : StorageOp → Prop
  | .getOrCreateBackendIdV4 fresh .. => ∀ identity ∈ st.backendIdentities.values, identity.backendId ≠ fresh
  | .touchBackendIdentity _ _ rootCredentialId _ => rootCredentialId ≠ some ""
  | .createCredential fresh _ input => NewCredential hash fresh input st
  | .exchangeAccessCredential fresh .. => NewAccess hash fresh st
  | _ => True

/-- If the call finds a credential, that was last used at the time of the call. -/
def StorageOp.FindsUsed (hash : String → String) (st : Storage) : StorageOp → Prop
  | .findValidCredential now token =>
    ∀ record, st.getCredentialByHash (hash token) = some record → st.authenticates now record = true →
      record.lastUsedAt = some now
  | _ => True

namespace StorageResult

theorem Same.refl (r : StorageResult) : r.Same r := by
  cases r with
  | identities | credentials | ids => exact fun _ => Iff.rfl
  | done | epoch | backendId | flag | identity | issued | exchanged | credential => rfl

theorem Same.sameButUse {r r' : StorageResult} (h : r.Same r') : r.SameButUse r' := by
  unfold SameButUse
  split
  · rw [Same] at h
    · cases h
      rfl
    all_goals nofun
  · exact h

end StorageResult

/-- The results of an operation on both storages. -/
structure Agrees (hash : String → String) (db : SqliteStorage) (st : Storage) (op : StorageOp) (result : StorageResult)
    (db' : SqliteStorage) : Prop where
  run : db.perform hash op = .ok (result, db')
  holds : db'.Holds (MemoryStorage.perform hash op st).2
  sameButUse : (MemoryStorage.perform hash op st).1.SameButUse result
  same_iff : (MemoryStorage.perform hash op st).1.Same result ↔ op.FindsUsed hash st

namespace Agrees

variable {db db' : SqliteStorage} {st : Storage} {op : StorageOp} {result : StorageResult}

theorem of_same (hrun : db.perform hash op = .ok (result, db')) (hholds : db'.Holds (MemoryStorage.perform hash op st).2)
    (hsame : (MemoryStorage.perform hash op st).1.Same result) (hfinds : op.FindsUsed hash st) :
    Agrees hash db st op result db' := ⟨hrun, hholds, hsame.sameButUse, iff_of_true hsame hfinds⟩

theorem of_eq (hrun : db.perform hash op = .ok ((MemoryStorage.perform hash op st).1, db'))
    (hholds : db'.Holds (MemoryStorage.perform hash op st).2) (hfinds : op.FindsUsed hash st) :
    ∃ result db', Agrees hash db st op result db' := ⟨_, db', of_same hrun hholds (.refl _) hfinds⟩

/-- The record as the touch leaves it. -/
def touched (now : Nat) (record : CredentialRecord) : CredentialRecord := { record with lastUsedAt := some now }

theorem memory_find (now : Nat) (token : String) (st : Storage) :
    MemoryStorage.findValidCredential hash now token st =
      ((st.findValidCredential hash now token).1.map (touched now), (st.findValidCredential hash now token).2) := by
  unfold MemoryStorage.findValidCredential Storage.findValidCredential
  cases st.getCredentialByHash (hash token) with
  | none => rfl
  | some record =>
    dsimp only
    split <;> rfl

theorem findsUsed_iff (now : Nat) (token : String) (st : Storage) :
    (StorageOp.findValidCredential now token).FindsUsed hash st ↔
      ∀ record, (st.findValidCredential hash now token).1 = some record → record.lastUsedAt = some now := by
  change (∀ record, st.getCredentialByHash (hash token) = some record → st.authenticates now record = true →
    record.lastUsedAt = some now) ↔ _
  unfold Storage.findValidCredential
  cases st.getCredentialByHash (hash token) with
  | none => simp
  | some record =>
    by_cases hauth : st.authenticates now record <;> simp [hauth]

theorem info_touched_iff (now : Nat) (record : CredentialRecord) :
    (touched now record).info = record.info ↔ record.lastUsedAt = some now := by
  simp [CredentialRecord.info, touched, eq_comm]

/-- Memory returns the record after the touch, SQLite as it was before. -/
theorem find {db : SqliteStorage} {st : Storage} (h : db.Holds st) (now : Nat) (token : String) :
    ∃ result db', Agrees hash db st (.findValidCredential now token) result db' := by
  obtain ⟨db', hdb', hholds⟩ := h.findValidCredential hash now token
  let result (found : Option CredentialRecord) := StorageResult.credential (found.map CredentialRecord.info)
  have hrun : db.perform hash (.findValidCredential now token) =
      .ok (result (st.findValidCredential hash now token).1, db') :=
    congrArg (Except.map (Prod.map result id)) hdb'
  have hmemory : MemoryStorage.perform hash (.findValidCredential now token) st =
      (result ((st.findValidCredential hash now token).1.map (touched now)),
        (st.findValidCredential hash now token).2) := by
    rw [MemoryStorage.perform, memory_find]
    rfl
  refine ⟨_, db', hrun, ?_, ?_, ?_⟩
  · rw [hmemory]
    exact hholds
  · rw [hmemory]
    cases (st.findValidCredential hash now token).1 with
    | none => exact (StorageResult.Same.refl _).sameButUse
    | some record => rfl
  · rw [hmemory, findsUsed_iff]
    cases (st.findValidCredential hash now token).1 with
    | none => exact iff_of_true (StorageResult.Same.refl _) nofun
    | some record =>
      have hsame : (StorageResult.credential (some (touched now record).info)).Same (.credential (some record.info)) ↔
          (touched now record).info = record.info := by
        simp [StorageResult.Same]
      simp only [Option.map_some, Option.some.injEq, forall_eq']
      exact hsame.trans (info_touched_iff now record)

end Agrees

theorem perform_agrees {db : SqliteStorage} {st : Storage} (h : db.Holds st) {op : StorageOp} (hgiven : op.Given hash st) :
    ∃ result db', Agrees hash db st op result db' := by
  cases op with
  | allocateEpoch =>
    obtain ⟨db', hdb', hholds⟩ := h.allocateEpoch
    exact Agrees.of_eq (congrArg (Except.map (Prod.map StorageResult.epoch id)) hdb') hholds trivial
  | getMaxEpoch =>
    have hmax : db.getMaxEpoch = .ok st.maxEpoch := by
      rw [SqliteStorage.getMaxEpoch, h.maxEpoch]
    exact Agrees.of_eq (congrArg (Except.map (fun n => (StorageResult.epoch n, db))) hmax) h trivial
  | getOrCreateBackendIdV4 fresh now ns instanceId environment name =>
    obtain ⟨db', hdb', hholds⟩ := h.getOrCreateBackendIdV4 hgiven now ns instanceId environment name
    exact Agrees.of_eq (congrArg (Except.map (Prod.map StorageResult.backendId id)) hdb') hholds trivial
  | getBackendIdentity backendId =>
    have hget : db.getBackendIdentity backendId = MemoryStorage.getBackendIdentity st backendId := by
      rw [SqliteStorage.getBackendIdentity, h.listBackendIdentities, MemoryStorage.getBackendIdentity]
    exact Agrees.of_eq (congrArg (fun o => Except.ok (StorageResult.identity o, db)) hget) h trivial
  | deleteBackendIdentity backendId =>
    obtain ⟨db', hdb', hholds⟩ := h.deleteBackendIdentity backendId
    exact Agrees.of_eq (congrArg (Except.map (Prod.map StorageResult.flag id)) hdb') hholds trivial
  | touchBackendIdentity now backendId rootCredentialId name =>
    obtain ⟨db', hdb', hholds⟩ := h.touchBackendIdentity now backendId hgiven name
    exact Agrees.of_eq (congrArg (Except.map (fun db => (StorageResult.done, db))) hdb') hholds trivial
  | listBackendIdentities =>
    exact Agrees.of_eq (congrArg (fun l => Except.ok (StorageResult.identities l, db)) h.listBackendIdentities) h trivial
  | createCredential fresh now input =>
    obtain ⟨db', hdb', hholds⟩ := h.createCredential hgiven now
    let issued (r : CredentialRecord × String × SqliteStorage) := (StorageResult.issued r.1.info r.2.1, r.2.2)
    exact Agrees.of_eq (congrArg (Except.map issued) hdb') hholds trivial
  | findValidCredential now token => exact Agrees.find h now token
  | listCredentials =>
    refine ⟨_, db, Agrees.of_same rfl h (fun c => ?_) trivial⟩
    simp only [List.mem_map, h.mem_listCredentials]
  | getCredential id =>
    have hget := h.getCredential id
    let result (o : Option CredentialRecord) := (StorageResult.credential (o.map CredentialRecord.info), db)
    exact Agrees.of_eq (congrArg (fun o => Except.ok (result o)) hget) h trivial
  | bindBackendCredential id backendId =>
    obtain ⟨db', hdb', hholds⟩ := h.bindBackendCredential id backendId
    exact Agrees.of_eq (congrArg (Except.map (Prod.map StorageResult.flag _)) hdb') hholds trivial
  | setAllowedBackends id allowedBackends =>
    obtain ⟨db', hdb', hholds⟩ := h.setAllowedBackends id allowedBackends
    exact Agrees.of_eq (congrArg (Except.map (Prod.map StorageResult.flag _)) hdb') hholds trivial
  | revokeCredential now id =>
    obtain ⟨db', hdb', hholds⟩ := h.revokeCredential now id
    exact Agrees.of_eq (congrArg (Except.map (Prod.map StorageResult.ids _)) hdb') hholds trivial
  | revokeCredentials now ids =>
    obtain ⟨db', hdb', hholds⟩ := h.revokeCredentials now ids
    exact Agrees.of_eq (congrArg (Except.map (Prod.map StorageResult.ids id)) hdb') hholds trivial
  | exchangeAccessCredential fresh now parent ttlMs =>
    obtain ⟨db', hdb', hholds⟩ := h.exchangeAccessCredential hgiven now parent ttlMs
    let exchanged (r : (Option CredentialRecord × String × Bool) × SqliteStorage) :=
      (StorageResult.exchanged (r.1.1.map CredentialRecord.info) r.1.2.1 r.1.2.2, r.2)
    exact Agrees.of_eq (congrArg (Except.map exchanged) hdb') hholds trivial
  | purgeRevokedCredentials ids =>
    obtain ⟨db', hdb', hholds⟩ := h.purgeRevokedCredentials ids
    exact Agrees.of_eq (congrArg (Except.map (Prod.map StorageResult.ids id)) hdb') hholds trivial

/-! ## A sequence of operations -/

/-- Every operation meets the condition on the storage it is called on. -/
def MemoryStorage.Along (hash : String → String) (condition : Storage → StorageOp → Prop) (st : Storage) :
    List StorageOp → Prop
  | [] => True
  | op :: ops => condition st op ∧ Along hash condition (MemoryStorage.perform hash op st).2 ops

open MemoryStorage (Along)

/-- A new database is what `initDatabase` makes of a file without tables. -/
theorem initDatabase_new :
    ∃ db, initDatabase ⟨none, none, none, false, nofun⟩ = .ok db ∧ db.counters = SqliteStorage.init.counters ∧
      db.identities.table.rows = SqliteStorage.init.identities ∧ db.credentials.table.rows = [] ∧ db.storage = .new := by
  refine ⟨_, rfl, rfl, rfl, rfl, rfl⟩

theorem run_agrees {db : SqliteStorage} {st : Storage} (h : db.Holds st) {ops : List StorageOp}
    (hgiven : Along hash (StorageOp.Given hash) st ops) :
    ∃ results db', db.run hash ops = .ok (results, db') ∧ db'.Holds (MemoryStorage.run hash st ops).2 ∧
      List.Forall₂ StorageResult.SameButUse (MemoryStorage.run hash st ops).1 results ∧
      (List.Forall₂ StorageResult.Same (MemoryStorage.run hash st ops).1 results ↔
        Along hash (StorageOp.FindsUsed hash) st ops) := by
  induction ops generalizing db st with
  | nil => exact ⟨[], db, rfl, h, .nil, iff_of_true .nil trivial⟩
  | cons op ops ih =>
    obtain ⟨result, db₁, hone⟩ := perform_agrees h hgiven.1
    obtain ⟨results, db₂, hrun, hholds, hbut, hsame⟩ := ih hone.holds hgiven.2
    refine ⟨result :: results, db₂, ?_, hholds, .cons hone.sameButUse hbut, ?_⟩
    · change (db.perform hash op).bind _ = _
      rw [hone.run]
      change (db₁.run hash ops).map _ = _
      rw [hrun]
      rfl
    · change List.Forall₂ StorageResult.Same
        ((MemoryStorage.perform hash op st).1 :: (MemoryStorage.run hash (MemoryStorage.perform hash op st).2 ops).1) _ ↔ _
      rw [List.forall₂_cons, hone.same_iff, hsame]
      rfl

/-- On a sequence of operations whose draws are new SQLite never fails. Its results are those of memory but for the last use of
the credentials that are found, and equal to them exactly if every credential that is found was last used at the time of the
call. -/
theorem fallback_agrees_iff (hash : String → String) (ops : List StorageOp)
    (hgiven : Along hash (StorageOp.Given hash) .new ops) :
    ∃ results db, SqliteStorage.init.run hash ops = .ok (results, db) ∧
      List.Forall₂ StorageResult.SameButUse (MemoryStorage.run hash .new ops).1 results ∧
      (List.Forall₂ StorageResult.Same (MemoryStorage.run hash .new ops).1 results ↔
        Along hash (StorageOp.FindsUsed hash) .new ops) := by
  obtain ⟨results, db, hrun, -, hbut, hsame⟩ := run_agrees SqliteStorage.Holds.init hgiven
  exact ⟨results, db, hrun, hbut, hsame⟩

/-- A device credential is issued and used. -/
def firstUse : List StorageOp :=
  [.createCredential ⟨"c1", "secret", "b1"⟩ 0 { type := .device, ns := "app" }, .findValidCredential 5 "zgd_secret"]

theorem fallback_agrees_iff_firstUse :
    ∃ results db, SqliteStorage.init.run id firstUse = .ok (results, db) ∧
      List.Forall₂ StorageResult.SameButUse (MemoryStorage.run id .new firstUse).1 results := by
  have hgiven : Along id (StorageOp.Given id) .new firstUse :=
    ⟨⟨rfl, (fun _ h => nomatch h), (nomatch ·), (nomatch ·)⟩, trivial, trivial⟩
  obtain ⟨results, db, hrun, hbut, -⟩ := fallback_agrees_iff id firstUse hgiven
  exact ⟨results, db, hrun, hbut⟩

/-- The credential that memory finds was used just now, the one that SQLite finds was never used. -/
theorem first_use_differs :
    let info (lastUsedAt : Option Nat) : CredentialInfo :=
      ⟨"c1", .device, "app", "", none, 0, some DEFAULT_DEVICE_TTL_MS, none, lastUsedAt, none, none⟩
    (MemoryStorage.run id .new firstUse).1 = [.issued (info none) "zgd_secret", .credential (some (info (some 5)))] ∧
      (SqliteStorage.init.run id firstUse).map Prod.fst =
        .ok [.issued (info none) "zgd_secret", .credential (some (info none))] ∧
      ¬ (StorageResult.credential (some (info (some 5)))).Same (.credential (some (info none))) := by
  refine ⟨by decide +kernel, by decide +kernel, ?_⟩
  simp [StorageResult.Same]

end ZclaudiaGateway
