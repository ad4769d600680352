import ZclaudiaGateway.Lib.EventMachine
import ZclaudiaGateway.Lemmas.Identities

/-!
# The credential table

The credential table under every call that changes it, from a new database on. The history keeps which secret was written to
which row, newest first. A call writes one fresh secret to one row or leaves every digest and every lifetime as they are, and
only a write clears a revocation.
-/

namespace ZclaudiaGateway

open Storage

namespace Storage

/-- The unique index: an enrollment has its access row already. -/
def accessTaken (st : Storage) (input : CredentialInput) : Bool :=
  input.type = .backendAccess && input.parentId.any (fun parentId => (st.findAccessCredential parentId).isSome)

end Storage

/-- A call on the credential table. -/
inductive CredentialCall where
  | create (input : CredentialInput)
  | exchange (parent : CredentialRecord) (ttlMs : Option (Option ℚ))
  | revoke (id : String)
  | revokeMany (ids : List String)
  | purge (ids : Option (List String))
  | bind (id backendId : String)
  | setAllowedBackends (id : String) (allowedBackends : Option (List String))
  | find (token : String)

namespace CredentialCall

/-- The record and the token of a call that writes a secret, and the store after it. An insert the index refuses throws. -/
def issue (hash : String → String) (fresh : CredentialDraw) (now : Nat) (call : CredentialCall) (st : Storage) :
    Option (CredentialRecord × String × Storage) :=
  match call with
  | create input => if st.accessTaken input then none else some (st.createCredential hash fresh now input)
  | exchange parent ttlMs => some (st.exchangeAccessCredential hash fresh now parent ttlMs)
  | _ => none

/-- The store after a call that writes no secret. -/
def change (hash : String → String) (now : Nat) (call : CredentialCall) (st : Storage) : Storage :=
  match call with
  | revoke id => (st.revokeCredential now id).2
  | revokeMany ids => (st.revokeCredentials now ids).2
  | purge ids => (st.purgeRevokedCredentials ids).2
  | bind id backendId => st.bindBackendCredential id backendId
  | setAllowedBackends id allowedBackends => st.setAllowedBackends id allowedBackends
  | find token => (st.findValidCredential hash now token).2
  | _ => st

end CredentialCall

/-- The credential table with its clock and its history. -/
structure CredentialTable where
  storage : Storage
  now : Nat
  drawn : Nat
  /-- Row and secret of every write, newest first. -/
  issued : List (String × String)

namespace CredentialTable

/-- The secret last written to a row. -/
def lastSecret (t : CredentialTable) (id : String) : Option String :=
  (t.issued.find? (fun w => w.1 = id)).map Prod.snd

/-- The random values of the next call. -/
def draw (Γ : Ctx) (t : CredentialTable) : CredentialDraw :=
  { id := Γ.credentialIds.draw t.drawn, secret := Γ.secrets.draw t.drawn, backendId := Γ.backendIds.draw t.drawn }

/-- One call, some time after the one before. -/
def step (Γ : Ctx) (t : CredentialTable) (e : Nat × CredentialCall) : CredentialTable :=
  let now := t.now + e.1
  match e.2.issue Γ.hashCredentialToken (t.draw Γ) now t.storage with
  | some (record, token, storage) =>
    { storage, now, drawn := t.drawn + 1, issued := (record.id, token) :: t.issued }
  | none =>
    { storage := e.2.change Γ.hashCredentialToken now t.storage, now, drawn := t.drawn + 1, issued := t.issued }

end CredentialTable

/-- The credential table as a machine; a call comes with the time that has passed since the call before. -/
def credentialTable (Γ : Ctx) : EventMachine CredentialTable (Nat × CredentialCall) where
  init := { storage := .new, now := 0, drawn := 0, issued := [] }
  step := CredentialTable.step Γ

/-! ## One call -/

namespace CredentialRecord

/-- A row after a call that writes no secret to it. -/
structure Aged (c c' : CredentialRecord) : Prop where
  id : c'.id = c.id
  tokenHash : c'.tokenHash = c.tokenHash
  parentId : c'.parentId = c.parentId
  expiresAt : c'.expiresAt = c.expiresAt
  revokedAt : c.revokedAt.isSome = true → c'.revokedAt.isSome = true

/-- A row accepts its secret: it is neither revoked nor past its expiry. -/
def Valid (c : CredentialRecord) (now : Nat) : Prop :=
  c.revokedAt = none ∧ ∀ expiresAt, c.expiresAt = some expiresAt → (now : ℚ) ≤ expiresAt

theorem Aged.refl (c : CredentialRecord) : c.Aged c := ⟨rfl, rfl, rfl, rfl, fun h => h⟩

theorem Aged.trans {a b c : CredentialRecord} (h : a.Aged b) (h' : b.Aged c) : a.Aged c :=
  ⟨h'.id.trans h.id, h'.tokenHash.trans h.tokenHash, h'.parentId.trans h.parentId, h'.expiresAt.trans h.expiresAt,
    fun hr => h'.revokedAt (h.revokedAt hr)⟩

end CredentialRecord

namespace Storage

/-- Every row was there before and has only aged. -/
def Ages (st st' : Storage) : Prop :=
  ∀ id c', st'.getCredential id = some c' → ∃ c, st.getCredential id = some c ∧ c.Aged c'

theorem Ages.refl (st : Storage) : st.Ages st := fun _ c h => ⟨c, h, .refl c⟩

theorem Ages.trans {a b c : Storage} (h : a.Ages b) (h' : b.Ages c) : a.Ages c := by
  intro id c₂ h₂
  obtain ⟨c₁, h₁, ha₁⟩ := h' id c₂ h₂
  obtain ⟨c₀, h₀, ha₀⟩ := h id c₁ h₁
  exact ⟨c₀, h₀, ha₀.trans ha₁⟩

theorem Ages.of_mapValues (st : Storage) {f : String → CredentialRecord → CredentialRecord}
    (hf : ∀ id (c : CredentialRecord), c.Aged (f id c)) :
    st.Ages { st with credentials := st.credentials.mapValues f } := by
  intro id c' hc'
  unfold getCredential at hc'
  rw [InsertionMap.get_mapValues, Option.map_eq_some_iff] at hc'
  obtain ⟨c, hc, rfl⟩ := hc'
  exact ⟨c, hc, hf id c⟩

theorem Ages.of_modify (st : Storage) (id : String) {f : CredentialRecord → CredentialRecord}
    (hf : ∀ c : CredentialRecord, c.Aged (f c)) : st.Ages { st with credentials := st.credentials.modify id f } := by
  refine .of_mapValues st (fun id' c => ?_)
  split
  · exact hf c
  · exact .refl c

theorem revokeCredential_ages (now : Nat) (id : String) (st : Storage) : st.Ages (st.revokeCredential now id).2 := by
  unfold revokeCredential
  split
  · exact .refl st
  · split
    · exact .refl st
    · have self : st.Ages
          { st with credentials := st.credentials.modify id (fun c => { c with revokedAt := some now }) } :=
        .of_modify st id (fun c => ⟨rfl, rfl, rfl, rfl, fun _ => rfl⟩)
      refine self.trans (.of_mapValues _ (fun _ c => ?_))
      split
      · exact ⟨rfl, rfl, rfl, rfl, fun _ => rfl⟩
      · exact .refl c

theorem revokeCredentials_ages (now : Nat) (ids : List String) (st : Storage) :
    st.Ages (st.revokeCredentials now ids).2 := by
  unfold revokeCredentials
  suffices h : ∀ (acc : List String × Storage), st.Ages acc.2 → st.Ages (ids.foldl (fun acc id =>
      (acc.1 ++ (acc.2.revokeCredential now id).1, (acc.2.revokeCredential now id).2)) acc).2 from h ([], st) (.refl st)
  induction ids with
  | nil => exact fun _ h => h
  | cons id ids ih => exact fun acc h => ih _ (h.trans (revokeCredential_ages now id acc.2))

theorem purgeRevokedCredentials_ages (ids : Option (List String)) (st : Storage) :
    st.Ages (st.purgeRevokedCredentials ids).2 := by
  intro id c h
  exact ⟨c, (InsertionMap.get_filter_eq_some.mp h).1, .refl c⟩

theorem bindBackendCredential_ages (id backendId : String) (st : Storage) : st.Ages (st.bindBackendCredential id backendId) := by
  unfold bindBackendCredential
  split
  · refine .of_mapValues st (fun _ c => ?_)
    split
    · exact ⟨rfl, rfl, rfl, rfl, fun h => h⟩
    · exact .refl c
  · exact .refl st

theorem setAllowedBackends_ages (id : String) (allowedBackends : Option (List String)) (st : Storage) :
    st.Ages (st.setAllowedBackends id allowedBackends) := by
  unfold setAllowedBackends
  refine .of_modify st id (fun c => ?_)
  split
  · exact ⟨rfl, rfl, rfl, rfl, fun h => h⟩
  · exact .refl c

theorem findValidCredential_ages (hash : String → String) (now : Nat) (token : String) (st : Storage) :
    st.Ages (st.findValidCredential hash now token).2 := by
  unfold findValidCredential
  split
  · exact .refl st
  · split
    · exact .of_modify st _ (fun c => ⟨rfl, rfl, rfl, rfl, fun h => h⟩)
    · exact .refl st

theorem change_ages (hash : String → String) (now : Nat) (call : CredentialCall) (st : Storage) :
    st.Ages (call.change hash now st) := by
  cases call with
  | create input => exact .refl st
  | exchange parent ttlMs => exact .refl st
  | revoke id => exact revokeCredential_ages now id st
  | revokeMany ids => exact revokeCredentials_ages now ids st
  | purge ids => exact purgeRevokedCredentials_ages ids st
  | bind id backendId => exact bindBackendCredential_ages id backendId st
  | setAllowedBackends id allowedBackends => exact setAllowedBackends_ages id allowedBackends st
  | find token => exact findValidCredential_ages hash now token st

/-- What a write makes of the table: its row has the digest of the secret, and every other row is as it was. -/
structure Wrote (hash : String → String) (fresh : CredentialDraw) (record : CredentialRecord) (token : String)
    (st st' : Storage) : Prop where
  prefixed : ∃ type : CredentialType, token = type.tokenPrefix ++ fresh.secret
  row : record.id = fresh.id ∨ (st.getCredential record.id).isSome = true
  written : st'.getCredential record.id = some record
  tokenHash : record.tokenHash = hash token
  other : ∀ id, id ≠ record.id → st'.getCredential id = st.getCredential id

/-- An issued credential's row is set under its id. -/
theorem createCredential_credentials (hash : String → String) (fresh : CredentialDraw) (now : Nat) (input : CredentialInput)
    (st : Storage) : (st.createCredential hash fresh now input).2.2.credentials =
      st.credentials.set fresh.id (st.createCredential hash fresh now input).1 := by
  unfold createCredential
  dsimp only
  split <;> rfl

theorem createCredential_wrote (hash : String → String) (fresh : CredentialDraw) (now : Nat) (input : CredentialInput)
    (st : Storage) :
    Wrote hash fresh (st.createCredential hash fresh now input).1 (st.createCredential hash fresh now input).2.1 st
      (st.createCredential hash fresh now input).2.2 := by
  have hset := createCredential_credentials hash fresh now input st
  refine ⟨⟨input.type, rfl⟩, Or.inl rfl, ?_, rfl, ?_⟩
  · unfold getCredential
    rw [hset]
    exact InsertionMap.get_set_self _ _ _
  · intro id hid
    unfold getCredential
    rw [hset]
    exact InsertionMap.get_set_of_ne hid

/-- The rows are kept under their ids. -/
def Keyed (st : Storage) : Prop := ∀ id c, st.getCredential id = some c → c.id = id

theorem findAccessCredential_eq_some {st : Storage} (hk : st.Keyed) {parentId : String} {c : CredentialRecord}
    (h : st.findAccessCredential parentId = some c) :
    st.getCredential c.id = some c ∧ c.type = .backendAccess ∧ c.parentId = some parentId := by
  unfold findAccessCredential at h
  have hc := List.find?_some h
  have hmem := List.mem_of_find?_eq_some h
  obtain ⟨id, hid⟩ := InsertionMap.mem_values_iff.mp hmem
  obtain rfl := hk id c hid
  simp only [decide_eq_true_eq] at hc
  exact ⟨hid, hc⟩

theorem exchangeAccessCredential_wrote (hash : String → String) (fresh : CredentialDraw) (now : Nat)
    (parent : CredentialRecord) (ttlMs : Option (Option ℚ)) {st : Storage} (hk : st.Keyed) :
    Wrote hash fresh (st.exchangeAccessCredential hash fresh now parent ttlMs).1
      (st.exchangeAccessCredential hash fresh now parent ttlMs).2.1 st
      (st.exchangeAccessCredential hash fresh now parent ttlMs).2.2 := by
  unfold exchangeAccessCredential
  split
  · exact createCredential_wrote hash fresh now _ st
  · rename_i existing hfind
    obtain ⟨hget, -, -⟩ := findAccessCredential_eq_some hk hfind
    dsimp only
    refine ⟨⟨.backendAccess, rfl⟩, Or.inr (by rw [hget]; rfl), ?_, rfl, ?_⟩
    · unfold getCredential at hget ⊢
      rw [InsertionMap.get_modify_self, hget]
      rfl
    · intro id hid
      exact InsertionMap.get_modify_of_ne hid

theorem issue_wrote {hash : String → String} {fresh : CredentialDraw} {now : Nat} {call : CredentialCall} {st st' : Storage}
    {record : CredentialRecord} {token : String} (hk : st.Keyed)
    (h : call.issue hash fresh now st = some (record, token, st')) : Wrote hash fresh record token st st' := by
  cases call with
  | create input =>
    unfold CredentialCall.issue at h
    dsimp only at h
    split at h
    · cases h
    · have hw := createCredential_wrote hash fresh now input st
      rw [Option.some.inj h] at hw
      exact hw
  | exchange parent ttlMs =>
    have hw := exchangeAccessCredential_wrote hash fresh now parent ttlMs hk
    rw [Option.some.inj h] at hw
    exact hw
  | _ => cases h

/-! ## Revoking a list -/

/-- What a list of revocations reports does not depend on what was reported before. -/
theorem revokeCredentials_foldl (now : Nat) (ids : List String) (acc : List String × Storage) :
    ids.foldl (fun acc id => (acc.1 ++ (acc.2.revokeCredential now id).1, (acc.2.revokeCredential now id).2)) acc =
      (acc.1 ++ (acc.2.revokeCredentials now ids).1, (acc.2.revokeCredentials now ids).2) := by
  unfold revokeCredentials
  induction ids generalizing acc with
  | nil => simp
  | cons id ids ih =>
    rw [List.foldl_cons, List.foldl_cons, ih, ih ([] ++ _, _)]
    simp only [List.nil_append, List.append_assoc]

theorem revokeCredentials_cons (now : Nat) (id : String) (ids : List String) (st : Storage) :
    st.revokeCredentials now (id :: ids) =
      ((st.revokeCredential now id).1 ++ ((st.revokeCredential now id).2.revokeCredentials now ids).1,
        ((st.revokeCredential now id).2.revokeCredentials now ids).2) := by
  have h := revokeCredentials_foldl now ids (st.revokeCredential now id)
  rw [← h]
  unfold revokeCredentials
  rw [List.foldl_cons]
  rfl

end Storage

/-! ## Runs -/

/-- The prefixes have one length, so a token shows its secret. -/
theorem tokenPrefix_append_inj {type type' : CredentialType} {a b : String}
    (h : type.tokenPrefix ++ a = type'.tokenPrefix ++ b) : a = b := by
  have hlists := congrArg String.toList h
  rw [String.toList_append, String.toList_append] at hlists
  have hlength (type : CredentialType) : type.tokenPrefix.toList.length = 4 := by
    cases type <;> decide
  exact String.toList_injective (List.append_inj_right hlists ((hlength type).trans (hlength type').symm))

namespace CredentialTable

/-- What the calls of a run keep of the table and its history. -/
structure Holds (Γ : Ctx) (t : CredentialTable) : Prop where
  keyed : t.storage.Keyed
  rowIds : ∀ id, (t.storage.getCredential id).isSome = true → ∃ i, i < t.drawn ∧ id = Γ.credentialIds.draw i
  tokens : ∀ id token, (id, token) ∈ t.issued →
    ∃ (type : CredentialType) (i : Nat), i < t.drawn ∧ token = type.tokenPrefix ++ Γ.secrets.draw i
  nodup : (t.issued.map Prod.snd).Nodup
  digests : ∀ id c, t.storage.getCredential id = some c →
    ∃ token, t.lastSecret id = some token ∧ c.tokenHash = Γ.hashCredentialToken token

theorem lastSecret_mem {t : CredentialTable} {id token : String} (h : t.lastSecret id = some token) :
    (id, token) ∈ t.issued := by
  unfold lastSecret at h
  rw [Option.map_eq_some_iff] at h
  obtain ⟨⟨id', token'⟩, hfind, rfl⟩ := h
  have hid := List.find?_some hfind
  simp only [decide_eq_true_eq] at hid
  rw [← hid]
  exact List.mem_of_find?_eq_some hfind

variable {Γ : Ctx} {t : CredentialTable}

/-- A secret was written to one row only. -/
theorem Holds.row_unique (h : t.Holds Γ) {id id' token : String} (hid : (id, token) ∈ t.issued)
    (hid' : (id', token) ∈ t.issued) : id = id' := by
  have heq := List.inj_on_of_nodup_map h.nodup hid hid' rfl
  exact (Prod.mk.inj heq).1

theorem Holds.fresh_token (h : t.Holds Γ) (type : CredentialType) :
    type.tokenPrefix ++ Γ.secrets.draw t.drawn ∉ t.issued.map Prod.snd := by
  intro hmem
  obtain ⟨⟨id, token⟩, hw, rfl⟩ := List.mem_map.mp hmem
  obtain ⟨type', i, hi, he⟩ := h.tokens id _ hw
  have := Γ.secrets.injective (tokenPrefix_append_inj he)
  omega

/-- One call: a secret written to a row, or a change that only ages rows. -/
theorem step_cases (Γ : Ctx) (h : t.storage.Keyed) (e : Nat × CredentialCall) :
    (∃ record token st', Wrote Γ.hashCredentialToken (t.draw Γ) record token t.storage st' ∧
        t.step Γ e = { storage := st', now := t.now + e.1, drawn := t.drawn + 1, issued := (record.id, token) :: t.issued }) ∨
      ∃ st', t.storage.Ages st' ∧
        t.step Γ e = { storage := st', now := t.now + e.1, drawn := t.drawn + 1, issued := t.issued } := by
  unfold step
  dsimp only
  split
  · rename_i record token st' hissue
    exact Or.inl ⟨record, token, st', issue_wrote h hissue, rfl⟩
  · exact Or.inr ⟨_, change_ages _ _ e.2 t.storage, rfl⟩

theorem lastSecret_cons_self {id token : String} {st : Storage} {now drawn : Nat} {issued : List (String × String)} :
    lastSecret { storage := st, now, drawn, issued := (id, token) :: issued } id = some token := by
  simp [lastSecret]

theorem lastSecret_cons_of_ne {id id' token : String} {st : Storage} {now drawn : Nat} (hne : id' ≠ id) :
    lastSecret { storage := st, now, drawn, issued := (id, token) :: t.issued } id' = t.lastSecret id' := by
  simp [lastSecret, Ne.symm hne]

theorem Holds.step (h : t.Holds Γ) (e : Nat × CredentialCall) : (t.step Γ e).Holds Γ := by
  rcases step_cases Γ h.keyed e with ⟨record, token, st', hw, heq⟩ | ⟨st', ha, heq⟩ <;> rw [heq]
  · obtain ⟨type, htoken⟩ := hw.prefixed
    refine ⟨?_, ?_, ?_, ?_, ?_⟩
    · intro id c hc
      by_cases hid : id = record.id
      · rw [hid, hw.written] at hc
        rw [hid, ← Option.some.inj hc]
      · exact h.keyed id c ((hw.other id hid).symm.trans hc)
    · intro id hc
      by_cases hid : id = record.id
      · rcases hw.row with hfresh | hrow
        · exact ⟨t.drawn, Nat.lt_succ_self _, hid.trans hfresh⟩
        · obtain ⟨i, hi, he⟩ := h.rowIds _ hrow
          exact ⟨i, Nat.lt_succ_of_lt hi, hid.trans he⟩
      · rw [hw.other id hid] at hc
        obtain ⟨i, hi, he⟩ := h.rowIds id hc
        exact ⟨i, Nat.lt_succ_of_lt hi, he⟩
    · intro id token' hmem
      rcases List.mem_cons.mp hmem with heq | hmem
      · cases heq
        exact ⟨type, t.drawn, Nat.lt_succ_self _, htoken⟩
      · obtain ⟨type', i, hi, he⟩ := h.tokens id token' hmem
        exact ⟨type', i, Nat.lt_succ_of_lt hi, he⟩
    · rw [List.map_cons, List.nodup_cons]
      refine ⟨?_, h.nodup⟩
      rw [htoken]
      exact h.fresh_token type
    · intro id c hc
      by_cases hid : id = record.id
      · rw [hid, hw.written] at hc
        obtain rfl := Option.some.inj hc
        exact ⟨token, by rw [hid]; exact lastSecret_cons_self, hw.tokenHash⟩
      · obtain ⟨token', hlast, hhash⟩ := h.digests id c ((hw.other id hid).symm.trans hc)
        exact ⟨token', (lastSecret_cons_of_ne hid).trans hlast, hhash⟩
  · refine ⟨?_, ?_, ?_, h.nodup, ?_⟩
    · intro id c' hc'
      obtain ⟨c, hc, haged⟩ := ha id c' hc'
      exact haged.id.trans (h.keyed id c hc)
    · intro id hc'
      obtain ⟨c', hc'⟩ := Option.isSome_iff_exists.mp hc'
      obtain ⟨c, hc, -⟩ := ha id c' hc'
      obtain ⟨i, hi, he⟩ := h.rowIds id (by rw [hc]; rfl)
      exact ⟨i, Nat.lt_succ_of_lt hi, he⟩
    · intro id token hmem
      obtain ⟨type, i, hi, he⟩ := h.tokens id token hmem
      exact ⟨type, i, Nat.lt_succ_of_lt hi, he⟩
    · intro id c' hc'
      obtain ⟨c, hc, haged⟩ := ha id c' hc'
      obtain ⟨token, hlast, hhash⟩ := h.digests id c hc
      exact ⟨token, hlast, haged.tokenHash.trans hhash⟩

theorem holds_run (Γ : Ctx) (es : List (Nat × CredentialCall)) : ((credentialTable Γ).run es).Holds Γ := by
  refine (credentialTable Γ).invariant ⟨?_, ?_, ?_, List.nodup_nil, ?_⟩ (fun t e h => h.step e) es
  · intro id c h
    cases h
  · intro id h
    cases h
  · intro id token h
    cases h
  · intro id c h
    cases h

/-! ## Presenting a token -/

theorem live_eq_true_iff (now : Nat) (c : CredentialRecord) : live now c = true ↔ c.Valid now := by
  unfold live CredentialRecord.Valid
  rw [Bool.and_eq_true, Option.isNone_iff_eq_none]
  rcases c.expiresAt with _ | expiresAt <;> simp

theorem authenticates_eq_true_iff (st : Storage) (now : Nat) (c : CredentialRecord) :
    st.authenticates now c = true ↔ c.Valid now ∧ ∀ parentId, c.parentId = some parentId →
      ∃ parent, st.getCredential parentId = some parent ∧ parent.Valid now := by
  unfold authenticates
  rw [Bool.and_eq_true, live_eq_true_iff]
  refine and_congr_right (fun _ => ?_)
  rcases c.parentId with _ | parentId
  · simp
  · simp only [Option.any_eq_true, live_eq_true_iff, Option.some.injEq, forall_eq']

/-- A token is accepted as the credential whose row it was last written to. -/
theorem Holds.findValidCredential_eq_some_iff (h : t.Holds Γ) (hinj : Function.Injective Γ.hashCredentialToken)
    (now : Nat) (token : String) (c : CredentialRecord) :
    (t.storage.findValidCredential Γ.hashCredentialToken now token).1 = some c ↔
      ∃ id, t.lastSecret id = some token ∧ t.storage.getCredential id = some c ∧
        t.storage.authenticates now c = true := by
  have found {c' : CredentialRecord} (hc' : t.storage.getCredentialByHash (Γ.hashCredentialToken token) = some c') :
      t.storage.getCredential c'.id = some c' ∧ t.lastSecret c'.id = some token := by
    unfold getCredentialByHash at hc'
    have hhash := List.find?_some hc'
    obtain ⟨id, hid⟩ := InsertionMap.mem_values_iff.mp (List.mem_of_find?_eq_some hc')
    obtain rfl := h.keyed id c' hid
    obtain ⟨token', hlast, htoken'⟩ := h.digests _ c' hid
    simp only [decide_eq_true_eq] at hhash
    rw [hinj (htoken'.symm.trans hhash)] at hlast
    exact ⟨hid, hlast⟩
  unfold findValidCredential
  constructor
  · intro hfind
    split at hfind
    · cases hfind
    · rename_i c' hc'
      split at hfind
      · rename_i hauth
        obtain rfl := Option.some.inj hfind
        exact ⟨c'.id, (found hc').2, (found hc').1, hauth⟩
      · cases hfind
  · rintro ⟨id, hlast, hc, hauth⟩
    split
    · rename_i hnone
      obtain ⟨token', hlast', hhash⟩ := h.digests id c hc
      obtain rfl := Option.some.inj (hlast'.symm.trans hlast)
      unfold getCredentialByHash at hnone
      rw [List.find?_eq_none] at hnone
      have hmem : c ∈ t.storage.credentials.values := InsertionMap.mem_values_iff.mpr ⟨id, hc⟩
      exact absurd hhash (by simpa using hnone c hmem)
    · rename_i c' hc'
      obtain ⟨hget, hlast'⟩ := found hc'
      obtain rfl := h.row_unique (lastSecret_mem hlast) (lastSecret_mem hlast')
      obtain rfl : c = c' := Option.some.inj (hc.symm.trans hget)
      rw [if_pos hauth]

/-! ## Spent secrets -/

/-- The secret was written to a row that does not carry it any more, is gone, is revoked or has expired. -/
def Spent (t : CredentialTable) (token : String) : Prop :=
  ∃ id, (id, token) ∈ t.issued ∧
    ∀ c, t.storage.getCredential id = some c → t.lastSecret id = some token → ¬ c.Valid t.now

theorem not_valid_mono {c c' : CredentialRecord} {now now' : Nat} (haged : c.Aged c') (hnow : now ≤ now')
    (h : ¬ c.Valid now) : ¬ c'.Valid now' := by
  rintro ⟨hrevoked, hexpires⟩
  refine h ⟨?_, ?_⟩
  · rcases hc : c.revokedAt with _ | at_
    · rfl
    · have := haged.revokedAt (by rw [hc]; rfl)
      rw [hrevoked] at this
      cases this
  · intro expiresAt he
    have := hexpires expiresAt (haged.expiresAt.trans he)
    have hcast : (now : ℚ) ≤ now' := by exact_mod_cast hnow
    exact hcast.trans this

/-- A spent secret stays spent: only a write revives a row, and it writes another secret. -/
theorem Spent.step (h : t.Holds Γ) {token : String} (hs : t.Spent token) (e : Nat × CredentialCall) :
    (t.step Γ e).Spent token := by
  obtain ⟨id, hid, hnot⟩ := hs
  rcases step_cases Γ h.keyed e with ⟨record, token', st', hw, heq⟩ | ⟨st', ha, heq⟩ <;> rw [heq]
  · refine ⟨id, List.mem_cons_of_mem _ hid, ?_⟩
    intro c hc hlast
    by_cases hrow : id = record.id
    · rw [hrow, lastSecret_cons_self] at hlast
      obtain rfl := Option.some.inj hlast
      obtain ⟨type, htoken⟩ := hw.prefixed
      have hmem : token' ∈ t.issued.map Prod.snd := List.mem_map.mpr ⟨_, hid, rfl⟩
      rw [htoken] at hmem
      exact absurd hmem (h.fresh_token type)
    · rw [lastSecret_cons_of_ne hrow] at hlast
      exact not_valid_mono (.refl c) (Nat.le_add_right _ _) (hnot c ((hw.other id hrow).symm.trans hc) hlast)
  · refine ⟨id, hid, ?_⟩
    intro c' hc' hlast
    obtain ⟨c, hc, haged⟩ := ha id c' hc'
    exact not_valid_mono haged (Nat.le_add_right _ _) (hnot c hc hlast)

theorem Spent.run (es es' : List (Nat × CredentialCall)) {token : String} (h : ((credentialTable Γ).run es).Spent token) :
    ((credentialTable Γ).run (es ++ es')).Spent token :=
  EventMachine.run_rel (I := Holds Γ) (R := fun a b => a.Spent token → b.Spent token) (M := credentialTable Γ) (holds_run Γ)
    (fun _ h => h) (fun h h' ha => h' (h ha)) (fun _ e hI hs => Spent.step hI hs e) es es' h

/-- A spent secret is not accepted. -/
theorem Spent.refused (h : t.Holds Γ) (hinj : Function.Injective Γ.hashCredentialToken) {token : String} (hs : t.Spent token)
    {now : Nat} (hnow : t.now ≤ now) : (t.storage.findValidCredential Γ.hashCredentialToken now token).1 = none := by
  rw [Option.eq_none_iff_forall_ne_some]
  intro c hc
  obtain ⟨id, hlast, hget, hauth⟩ := (h.findValidCredential_eq_some_iff hinj now token c).mp hc
  obtain ⟨id', hid', hnot⟩ := hs
  obtain rfl := h.row_unique (lastSecret_mem hlast) hid'
  have hvalid := ((authenticates_eq_true_iff _ _ _).mp hauth).1
  exact not_valid_mono (.refl c) hnow (hnot c hget hlast) hvalid

/-! ## Revoking and purging -/

/-- Revoking a credential revokes every row exchanged from it. -/
theorem revokeCredential_cascades {st : Storage} {now : Nat} {id : String} {c : CredentialRecord}
    (hc : st.getCredential id = some c) (hrevoked : c.revokedAt = none) {id' : String} {c' : CredentialRecord}
    (hc' : (st.revokeCredential now id).2.getCredential id' = some c') (hrow : id' = id ∨ c'.parentId = some id) :
    c'.revokedAt.isSome = true := by
  unfold revokeCredential at hc'
  simp only [hc, hrevoked, Option.isSome_none, Bool.false_eq_true, if_false] at hc'
  simp only [getCredential, InsertionMap.get_mapValues, InsertionMap.get_modify, Option.map_eq_some_iff] at hc'
  obtain ⟨a, ha, rfl⟩ := hc'
  by_cases hchild : a.parentId = some id ∧ a.revokedAt = none
  · rw [if_pos hchild]
    rfl
  · rw [if_neg hchild] at hrow ⊢
    by_cases hid : id' = id
    · rw [if_pos hid, Option.map_eq_some_iff] at ha
      obtain ⟨a₀, -, rfl⟩ := ha
      rfl
    · have hparent : a.parentId = some id := hrow.resolve_left hid
      rw [Option.isSome_iff_ne_none]
      exact fun hnone => hchild ⟨hparent, hnone⟩

/-- Purging takes nothing from a token: what it deletes was revoked. -/
theorem Holds.purge_authenticates (ids : Option (List String)) (st : Storage) (now : Nat) (id : String)
    (c : CredentialRecord) :
    ((st.purgeRevokedCredentials ids).2.getCredential id = some c ∧
        (st.purgeRevokedCredentials ids).2.authenticates now c = true) ↔
      (st.getCredential id = some c ∧ st.authenticates now c = true) := by
  have hget (id : String) (c : CredentialRecord) : (st.purgeRevokedCredentials ids).2.getCredential id = some c ↔
      st.getCredential id = some c ∧ (!(c.revokedAt.isSome && ids.all (fun ids => c.id ∈ ids))) = true :=
    InsertionMap.get_filter_eq_some
  have hvalid {c : CredentialRecord} (h : c.Valid now) :
      (!(c.revokedAt.isSome && ids.all (fun ids => c.id ∈ ids))) = true := by
    rw [h.1]
    rfl
  rw [authenticates_eq_true_iff, authenticates_eq_true_iff]
  constructor
  · rintro ⟨hc, hv, hparent⟩
    refine ⟨((hget id c).mp hc).1, hv, ?_⟩
    intro parentId hp
    obtain ⟨parent, hpget, hpv⟩ := hparent parentId hp
    exact ⟨parent, ((hget parentId parent).mp hpget).1, hpv⟩
  · rintro ⟨hc, hv, hparent⟩
    refine ⟨(hget id c).mpr ⟨hc, hvalid hv⟩, hv, ?_⟩
    intro parentId hp
    obtain ⟨parent, hpget, hpv⟩ := hparent parentId hp
    exact ⟨parent, (hget parentId parent).mpr ⟨hpget, hvalid hpv⟩, hpv⟩

/-- The table after a purge, its history as it was. -/
theorem Holds.purge (h : t.Holds Γ) (ids : Option (List String)) :
    { t with storage := (t.storage.purgeRevokedCredentials ids).2 }.Holds Γ := by
  have ha := purgeRevokedCredentials_ages ids t.storage
  refine ⟨?_, ?_, h.tokens, h.nodup, ?_⟩
  · intro id c' hc'
    obtain ⟨c, hc, haged⟩ := ha id c' hc'
    exact haged.id.trans (h.keyed id c hc)
  · intro id hc'
    obtain ⟨c', hc'⟩ := Option.isSome_iff_exists.mp hc'
    obtain ⟨c, hc, -⟩ := ha id c' hc'
    exact h.rowIds id (by rw [hc]; rfl)
  · intro id c' hc'
    obtain ⟨c, hc, haged⟩ := ha id c' hc'
    obtain ⟨token, hlast, hhash⟩ := h.digests id c hc
    exact ⟨token, hlast, haged.tokenHash.trans hhash⟩

theorem Holds.findValidCredential_purge (h : t.Holds Γ) (hinj : Function.Injective Γ.hashCredentialToken)
    (ids : Option (List String)) (now : Nat) (token : String) :
    ((t.storage.purgeRevokedCredentials ids).2.findValidCredential Γ.hashCredentialToken now token).1 =
      (t.storage.findValidCredential Γ.hashCredentialToken now token).1 := by
  refine Option.ext (fun c => ?_)
  have hafter := (h.purge ids).findValidCredential_eq_some_iff hinj now token c
  have hbefore := h.findValidCredential_eq_some_iff hinj now token c
  refine hafter.trans (Iff.trans ?_ hbefore.symm)
  refine exists_congr (fun id => and_congr_right (fun _ => ?_))
  exact Holds.purge_authenticates ids t.storage now id c

end CredentialTable

end ZclaudiaGateway
