import ZclaudiaGateway.Lemmas.Lineage
import ZclaudiaGateway.Lemmas.Sample

/-!
# Bulk revocation

Which rows a list of ids revokes: one revocation first, then the list, over a store that changes under it.
-/

namespace ZclaudiaGateway

namespace Storage

/-! ## The rows that are revoked -/

/-- A row is unrevoked. -/
def unrevoked (st : Storage) (id : String) : Bool := (st.getCredential id).any (·.revokedAt.isNone)

/-- An unrevoked row that is requested, or was exchanged from an unrevoked row that is. -/
def Doomed (st : Storage) (ids : List String) (id : String) (c : CredentialRecord) : Prop :=
  c.revokedAt = none ∧ (id ∈ ids ∨ ∃ parentId ∈ ids, c.parentId = some parentId ∧ st.unrevoked parentId = true)

instance (st : Storage) (ids : List String) (id : String) (c : CredentialRecord) : Decidable (st.Doomed ids id c) :=
  inferInstanceAs (Decidable (_ ∧ (_ ∨ ∃ parentId ∈ ids, _)))

/-- The table with the rows revoked that some ids ask for. -/
def revoking (now : Nat) (ids : List String) (st : Storage) : Storage :=
  { st with
    credentials := st.credentials.mapValues (fun id c =>
      if st.Doomed ids id c then { c with revokedAt := some now } else c) }

/-- No unrevoked row was exchanged from a row that was itself exchanged from another. -/
def Flat (st : Storage) : Prop :=
  ∀ id c parentId parent, st.getCredential id = some c → c.revokedAt = none → c.parentId = some parentId →
    st.getCredential parentId = some parent → parent.parentId = none

/-- The lineage of the credentials has two generations. -/
theorem Lineage.flat {st : Storage} (h : st.Lineage) : st.Flat := by
  intro id c p parent hc hrevoked hp hparent
  have htype : c.type = .backendAccess := by
    by_contra hne
    rw [h.root id c hc hne] at hp
    cases hp
  obtain ⟨p', parent', hp', hparent', hbackend, -⟩ := h.access id c hc htype hrevoked
  obtain rfl := Option.some.inj (hp.symm.trans hp')
  obtain rfl := Option.some.inj (hparent.symm.trans hparent')
  exact h.root p parent hparent (by rw [hbackend]; simp)

/-- The stores a gateway reaches from legacy credentials have two generations. -/
theorem flat_run {Γ : Ctx} {storage : Storage} (hlegacy : storage.Legacy) (hfresh : storage.FreshFrom Γ 0)
    (es : List Event) : ((gateway Γ storage).run es).storage.Keyed ∧ ((gateway Γ storage).run es).storage.Flat :=
  have h := (lineage_run hlegacy hfresh es).2
  ⟨h.keyed, h.flat⟩

theorem getCredential_revoking (now : Nat) (ids : List String) (st : Storage) (id : String) :
    (st.revoking now ids).getCredential id =
      (st.getCredential id).map (fun c => if st.Doomed ids id c then { c with revokedAt := some now } else c) :=
  InsertionMap.get_mapValues _ _ _

theorem unrevoked_eq_true_iff {st : Storage} {id : String} :
    st.unrevoked id = true ↔ ∃ c, st.getCredential id = some c ∧ c.revokedAt = none := by
  unfold unrevoked
  rw [Option.any_eq_true]
  simp only [Option.isNone_iff_eq_none]

/-- A row stays unrevoked exactly when it was and no id asks for it. -/
theorem unrevoked_revoking (now : Nat) (ids : List String) (st : Storage) (id : String) :
    (st.revoking now ids).unrevoked id = true ↔
      ∃ c, st.getCredential id = some c ∧ c.revokedAt = none ∧ ¬st.Doomed ids id c := by
  rw [unrevoked_eq_true_iff, getCredential_revoking]
  simp only [Option.map_eq_some_iff]
  constructor
  · rintro ⟨_, ⟨c, hc, rfl⟩, hrevoked⟩
    split at hrevoked
    · cases hrevoked
    · rename_i hno
      exact ⟨c, hc, hrevoked, hno⟩
  · rintro ⟨c, hc, hrevoked, hno⟩
    exact ⟨c, ⟨c, hc, by rw [if_neg hno]⟩, hrevoked⟩

theorem Keyed.revoking {st : Storage} (h : st.Keyed) (now : Nat) (ids : List String) : (st.revoking now ids).Keyed := by
  intro id c' hc'
  rw [getCredential_revoking, Option.map_eq_some_iff] at hc'
  obtain ⟨c, hc, rfl⟩ := hc'
  split <;> exact h id c hc

theorem Flat.revoking {st : Storage} (h : st.Flat) (now : Nat) (ids : List String) : (st.revoking now ids).Flat := by
  intro id c' p parent' hc' hrevoked hp hparent'
  rw [getCredential_revoking, Option.map_eq_some_iff] at hc' hparent'
  obtain ⟨c, hc, rfl⟩ := hc'
  obtain ⟨parent, hparent, rfl⟩ := hparent'
  split at hrevoked
  · cases hrevoked
  · rename_i hno
    rw [if_neg hno] at hp
    have hroot := h id c p parent hc hrevoked hp hparent
    split <;> exact hroot

/-! ## One revocation -/

theorem doomed_singleton {st : Storage} {id id' : String} {c : CredentialRecord} :
    st.Doomed [id] id' c ↔ c.revokedAt = none ∧ (id' = id ∨ c.parentId = some id ∧ st.unrevoked id = true) := by
  unfold Doomed
  simp only [List.mem_singleton, exists_eq_left]

/-- An unknown or revoked id dooms no row. -/
theorem not_doomed_singleton {st : Storage} {id id' : String} {c : CredentialRecord} (h : st.unrevoked id = false)
    (hc : st.getCredential id' = some c) : ¬st.Doomed [id] id' c := by
  rw [doomed_singleton, h]
  rintro ⟨hrevoked, rfl | ⟨-, hno⟩⟩
  · rw [unrevoked_eq_true_iff.mpr ⟨c, hc, hrevoked⟩] at h
    cases h
  · cases hno

/-- Revoking an unknown or revoked id does nothing. -/
theorem revokeCredential_of_revoked {st : Storage} {id : String} (now : Nat) (h : st.unrevoked id = false) :
    st.revokeCredential now id = ([], st) := by
  unfold revokeCredential
  unfold unrevoked at h
  split
  · rfl
  · rename_i record hrecord
    rw [hrecord, Option.any_some, Option.isNone_eq_false_iff] at h
    rw [if_pos h]

/-- The table between the two updates of a revocation. -/
def selfRevoked (now : Nat) (id : String) (st : Storage) : Storage :=
  { st with credentials := st.credentials.modify id (fun c => { c with revokedAt := some now }) }

theorem revokeCredential_of_unrevoked {st : Storage} {id : String} (now : Nat) (h : st.unrevoked id = true) :
    st.revokeCredential now id =
      (id :: (st.selfRevoked now id).unrevokedChildren id,
        { st with
          credentials := (st.selfRevoked now id).credentials.mapValues (fun _ c =>
            if c.parentId = some id ∧ c.revokedAt = none then { c with revokedAt := some now } else c) }) := by
  obtain ⟨record, hrecord, hlive⟩ := unrevoked_eq_true_iff.mp h
  unfold revokeCredential
  rw [hrecord]
  dsimp only
  rw [hlive, if_neg (by simp)]
  rfl

/-- A revocation revokes the row and the rows exchanged from it, when the row is unrevoked. -/
theorem revokeCredential_storage (now : Nat) (id : String) (st : Storage) :
    (st.revokeCredential now id).2 = st.revoking now [id] := by
  cases h : st.unrevoked id with
  | false =>
    rw [revokeCredential_of_revoked now h]
    unfold revoking
    rw [InsertionMap.mapValues_id (fun id' c hc => if_neg (not_doomed_singleton h hc))]
  | true =>
    obtain ⟨record, hrecord, hlive⟩ := unrevoked_eq_true_iff.mp h
    rw [revokeCredential_of_unrevoked now h]
    unfold revoking selfRevoked InsertionMap.modify
    dsimp only
    rw [InsertionMap.mapValues_mapValues]
    congr 1
    refine InsertionMap.mapValues_congr (fun id' c hc => ?_)
    by_cases hid : id' = id
    · subst hid
      obtain rfl := Option.some.inj (hrecord.symm.trans hc)
      rw [if_pos rfl, if_pos (doomed_singleton.mpr ⟨hlive, Or.inl rfl⟩), if_neg (fun h => nomatch h.2)]
    · rw [if_neg hid]
      refine if_congr ?_ rfl rfl
      rw [doomed_singleton]
      simp only [hid, false_or, h, and_true]
      exact and_comm

/-- The ids of the rows of a table that pass a test, each once. -/
theorem Keyed.nodup_ids {st : Storage} (h : st.Keyed) (p : CredentialRecord → Bool) :
    ((st.credentials.values.filter p).map (·.id)).Nodup := by
  have hids : st.credentials.values.map (·.id) = st.credentials.keys := by
    unfold InsertionMap.values InsertionMap.keys
    rw [List.map_map]
    exact List.map_congr_left (fun e he => h e.1 e.2 (InsertionMap.get_eq_some_iff.mpr he))
  refine (List.filter_sublist.map _).nodup ?_
  rw [hids]
  exact st.credentials.nodup

/-- The ids a revocation reports are those of the rows it revokes, each once. -/
theorem revokeCredential_ids {st : Storage} (hkeyed : st.Keyed) (now : Nat) (id : String) :
    (∀ id', id' ∈ (st.revokeCredential now id).1 ↔ ∃ c, st.getCredential id' = some c ∧ st.Doomed [id] id' c) ∧
      (st.revokeCredential now id).1.Nodup := by
  cases h : st.unrevoked id with
  | false =>
    rw [revokeCredential_of_revoked now h]
    refine ⟨fun id' => ?_, List.nodup_nil⟩
    simp only [List.not_mem_nil, false_iff, not_exists, not_and]
    exact fun c hc => not_doomed_singleton h hc
  | true =>
    obtain ⟨record, hrecord, hlive⟩ := unrevoked_eq_true_iff.mp h
    have hget (id' : String) : (st.selfRevoked now id).getCredential id' =
        if id' = id then (st.getCredential id').map (fun c => { c with revokedAt := some now }) else st.getCredential id' :=
      InsertionMap.get_modify _ _ _ _
    have hkeyed' : (st.selfRevoked now id).Keyed := by
      intro id' c' hc'
      rw [hget] at hc'
      split at hc'
      · obtain ⟨c, hc, rfl⟩ := Option.map_eq_some_iff.mp hc'
        exact hkeyed id' c hc
      · exact hkeyed id' c' hc'
    have hchildren (id' : String) : id' ∈ (st.selfRevoked now id).unrevokedChildren id ↔
        id' ≠ id ∧ ∃ c, st.getCredential id' = some c ∧ c.revokedAt = none ∧ c.parentId = some id := by
      unfold unrevokedChildren
      simp only [List.mem_map, List.mem_filter, decide_eq_true_eq]
      constructor
      · rintro ⟨c', ⟨hmem, hp, hrevoked⟩, rfl⟩
        obtain ⟨k, hk⟩ := InsertionMap.mem_values_iff.mp hmem
        have hk' : (st.selfRevoked now id).getCredential k = some c' := hk
        obtain rfl := hkeyed' k c' hk'
        rw [hget] at hk'
        split at hk'
        · obtain ⟨c, -, rfl⟩ := Option.map_eq_some_iff.mp hk'
          cases hrevoked
        · rename_i hne
          exact ⟨hne, c', hk', hrevoked, hp⟩
      · rintro ⟨hne, c, hc, hrevoked, hp⟩
        have hc' : (st.selfRevoked now id).getCredential id' = some c := by rw [hget, if_neg hne, hc]
        exact ⟨c, ⟨InsertionMap.mem_values_iff.mpr ⟨id', hc'⟩, hp, hrevoked⟩, hkeyed id' c hc⟩
    rw [revokeCredential_of_unrevoked now h]
    refine ⟨fun id' => ?_, ?_⟩
    · rw [List.mem_cons, hchildren]
      simp only [doomed_singleton, h, and_true]
      constructor
      · rintro (rfl | ⟨-, c, hc, hrevoked, hp⟩)
        · exact ⟨record, hrecord, hlive, Or.inl rfl⟩
        · exact ⟨c, hc, hrevoked, Or.inr hp⟩
      · rintro ⟨c, hc, hrevoked, hid⟩
        by_cases heq : id' = id
        · exact Or.inl heq
        · exact Or.inr ⟨heq, c, hc, hrevoked, hid.resolve_left heq⟩
    · rw [List.nodup_cons]
      exact ⟨fun hmem => ((hchildren id).mp hmem).1 rfl, hkeyed'.nodup_ids _⟩

/-! ## A list of revocations -/

/-- With two generations, a row is doomed by a list when the first id dooms it or the others do after the first. -/
theorem Flat.doomed_cons {st : Storage} (hflat : st.Flat) (now : Nat) {id : String} {ids : List String} {id' : String}
    {c : CredentialRecord} (hc : st.getCredential id' = some c) :
    st.Doomed (id :: ids) id' c ↔ st.Doomed [id] id' c ∨ (st.revoking now [id]).Doomed ids id' c ∧ ¬st.Doomed [id] id' c := by
  by_cases hfirst : st.Doomed [id] id' c
  · refine iff_of_true ⟨hfirst.1, ?_⟩ (Or.inl hfirst)
    obtain hid | ⟨p, hp, hparent⟩ := hfirst.2
    · exact Or.inl (List.mem_cons.mpr (Or.inl (List.mem_singleton.mp hid)))
    · exact Or.inr ⟨p, List.mem_cons.mpr (Or.inl (List.mem_singleton.mp hp)), hparent⟩
  · simp only [hfirst, false_or, not_false_eq_true, and_true]
    unfold Doomed
    refine and_congr_right (fun hrevoked => ?_)
    have hno := fun h => hfirst (doomed_singleton.mpr ⟨hrevoked, h⟩)
    have hne : id' ≠ id := fun h => hno (Or.inl h)
    -- The parent of the row is the first id only when that is revoked, and the first id revokes no other parent.
    have hparent (p : String) (hp : c.parentId = some p) :
        (st.revoking now [id]).unrevoked p = true ↔ p ≠ id ∧ st.unrevoked p = true := by
      rw [unrevoked_revoking]
      constructor
      · rintro ⟨parent, hget, hprevoked, hkept⟩
        refine ⟨?_, unrevoked_eq_true_iff.mpr ⟨parent, hget, hprevoked⟩⟩
        rintro rfl
        exact hkept (doomed_singleton.mpr ⟨hprevoked, Or.inl rfl⟩)
      · rintro ⟨hpne, hlive⟩
        obtain ⟨parent, hget, hprevoked⟩ := unrevoked_eq_true_iff.mp hlive
        refine ⟨parent, hget, hprevoked, fun hdoomed => ?_⟩
        obtain heq | ⟨hroot, -⟩ := (doomed_singleton.mp hdoomed).2
        · exact hpne heq
        · rw [hflat id' c p parent hc hrevoked hp hget] at hroot
          cases hroot
    constructor
    · rintro (hid | ⟨p, hmem, hp, hlive⟩)
      · exact Or.inl ((List.mem_cons.mp hid).resolve_left hne)
      · have hpne : p ≠ id := by
          rintro rfl
          exact hno (Or.inr ⟨hp, hlive⟩)
        exact Or.inr ⟨p, (List.mem_cons.mp hmem).resolve_left hpne, hp, (hparent p hp).mpr ⟨hpne, hlive⟩⟩
    · rintro (hid | ⟨p, hmem, hp, hlive⟩)
      · exact Or.inl (List.mem_cons_of_mem _ hid)
      · exact Or.inr ⟨p, List.mem_cons_of_mem _ hmem, hp, ((hparent p hp).mp hlive).2⟩

/-- A list of revocations revokes the rows it asks for in the table it starts from. -/
theorem Flat.revokeCredentials_storage {st : Storage} (hflat : st.Flat) (now : Nat) (ids : List String) :
    (st.revokeCredentials now ids).2 = st.revoking now ids := by
  induction ids generalizing st with
  | nil =>
    unfold Storage.revoking
    rw [InsertionMap.mapValues_id]
    · rfl
    · intro id c _
      rw [if_neg]
      rintro ⟨-, h | ⟨p, h, -⟩⟩ <;> cases h
  | cons id ids ih =>
    rw [revokeCredentials_cons]
    dsimp only
    rw [revokeCredential_storage, ih (hflat.revoking now [id])]
    change ({ st with credentials := ((st.revoking now [id]).credentials.mapValues _) } : Storage) = st.revoking now (id :: ids)
    unfold Storage.revoking
    dsimp only
    rw [InsertionMap.mapValues_mapValues]
    congr 1
    refine InsertionMap.mapValues_congr (fun id' c hc => ?_)
    have hcons : st.Doomed (id :: ids) id' c ↔
        st.Doomed [id] id' c ∨ (st.revoking now [id]).Doomed ids id' c ∧ ¬st.Doomed [id] id' c :=
      hflat.doomed_cons now hc
    by_cases hfirst : st.Doomed [id] id' c
    · rw [if_pos hfirst, if_pos (hcons.mpr (Or.inl hfirst)), if_neg (fun h => nomatch h.1)]
    · rw [if_neg hfirst]
      refine if_congr ?_ rfl rfl
      rw [hcons]
      simp only [hfirst, false_or, not_false_eq_true, and_true]
      exact Iff.rfl

/-- A list of revocations reports the rows it asks for, each once. -/
theorem Flat.revokeCredentials_ids {st : Storage} (hflat : st.Flat) (hkeyed : st.Keyed) (now : Nat) (ids : List String) :
    (∀ id, id ∈ (st.revokeCredentials now ids).1 ↔ ∃ c, st.getCredential id = some c ∧ st.Doomed ids id c) ∧
      (st.revokeCredentials now ids).1.Nodup := by
  induction ids generalizing st with
  | nil =>
    refine ⟨fun id => ?_, List.nodup_nil⟩
    refine iff_of_false (fun h => by cases h) ?_
    rintro ⟨c, -, -, h | ⟨p, h, -⟩⟩ <;> cases h
  | cons id ids ih =>
    obtain ⟨hfirst, hfirstNodup⟩ := revokeCredential_ids hkeyed now id
    obtain ⟨hrest, hrestNodup⟩ := ih (hflat.revoking now [id]) (hkeyed.revoking now [id])
    rw [revokeCredentials_cons]
    dsimp only
    rw [revokeCredential_storage]
    -- The others find a row as the first revocation left it.
    have hlater (id' : String) : id' ∈ ((st.revoking now [id]).revokeCredentials now ids).1 ↔
        ∃ c, st.getCredential id' = some c ∧ (st.revoking now [id]).Doomed ids id' c ∧ ¬st.Doomed [id] id' c := by
      rw [hrest, getCredential_revoking]
      simp only [Option.map_eq_some_iff]
      constructor
      · rintro ⟨_, ⟨c, hc, rfl⟩, hdoomed⟩
        split at hdoomed
        · exact (nomatch hdoomed.1)
        · rename_i hno
          exact ⟨c, hc, hdoomed, hno⟩
      · rintro ⟨c, hc, hdoomed, hno⟩
        exact ⟨c, ⟨c, hc, if_neg hno⟩, hdoomed⟩
    refine ⟨fun id' => ?_, ?_⟩
    · rw [List.mem_append, hfirst, hlater]
      constructor
      · rintro (⟨c, hc, hdoomed⟩ | ⟨c, hc, hdoomed⟩)
        · exact ⟨c, hc, (hflat.doomed_cons now hc).mpr (Or.inl hdoomed)⟩
        · exact ⟨c, hc, (hflat.doomed_cons now hc).mpr (Or.inr hdoomed)⟩
      · rintro ⟨c, hc, hdoomed⟩
        rcases (hflat.doomed_cons now hc).mp hdoomed with hdoomed | hdoomed
        · exact Or.inl ⟨c, hc, hdoomed⟩
        · exact Or.inr ⟨c, hc, hdoomed⟩
    · refine List.nodup_append.mpr ⟨hfirstNodup, hrestNodup, fun a ha b hb => ?_⟩
      rintro rfl
      obtain ⟨c, hc, hdoomed⟩ := (hfirst a).mp ha
      obtain ⟨c', hc', -, hno⟩ := (hlater a).mp hb
      obtain rfl := Option.some.inj (hc.symm.trans hc')
      exact hno hdoomed

/-- Lists of the same ids ask for the same rows. -/
theorem doomed_congr {st : Storage} {ids ids' : List String} (hsame : ∀ id, id ∈ ids ↔ id ∈ ids') (id : String)
    (c : CredentialRecord) : st.Doomed ids id c ↔ st.Doomed ids' id c := by
  unfold Doomed
  simp only [hsame]

theorem revoking_congr {st : Storage} {ids ids' : List String} (now : Nat) (hsame : ∀ id, id ∈ ids ↔ id ∈ ids') :
    st.revoking now ids = st.revoking now ids' := by
  unfold revoking
  congr 2
  funext id c
  exact if_congr (doomed_congr hsame id c) rfl rfl

end Storage

/-! ## The route -/

namespace Gateway

/-- What the bulk route does with the ids of a well-formed request. -/
theorem revokeCredentialsRoute_reply {body : JsonValue} {ids : List String}
    (hids : (body.member "ids").bind stringArray = some ids) (hne : ids ≠ []) (s : Gateway) :
    (s.revokeCredentialsRoute body).storage = (s.storage.revokeCredentials s.now ids.eraseDups).2 ∧
      (s.revokeCredentialsRoute body).net.outbox.getLast? = some (.reply
        { status := 200
          body := .revoked (s.storage.revokeCredentials s.now ids.eraseDups).1
            (ids.eraseDups.filter (fun id => !(id ∈ (s.storage.revokeCredentials s.now ids.eraseDups).1))) }) := by
  unfold revokeCredentialsRoute
  rw [hids]
  rcases ids with _ | ⟨id, ids⟩
  · exact absurd rfl hne
  · exact ⟨rfl, List.getLast?_concat⟩

end Gateway

/-! ## Bulk revocation -/

open Storage in
/-- Lists of the same ids leave the same table: revoked are the unrevoked rows requested and the unrevoked rows exchanged from
one of them, each reported once, and what the route reports as revoked and as skipped is apart and covers the request. -/
theorem bulk_revocation (now : Nat) {st : Storage} (hkeyed : st.Keyed) (hflat : st.Flat) :
    (∀ ids ids', (∀ id, id ∈ ids ↔ id ∈ ids') →
      (st.revokeCredentials now ids).2 = (st.revokeCredentials now ids').2 ∧
        ∀ id, id ∈ (st.revokeCredentials now ids).1 ↔ id ∈ (st.revokeCredentials now ids').1) ∧
    (∀ ids, (st.revokeCredentials now ids).2 = st.revoking now ids ∧
      (∀ id, id ∈ (st.revokeCredentials now ids).1 ↔ ∃ c, st.getCredential id = some c ∧ st.Doomed ids id c) ∧
      (st.revokeCredentials now ids).1.Nodup) ∧
    ∀ (s : Gateway) (body : JsonValue) (ids : List String), s.storage = st →
      (body.member "ids").bind Gateway.stringArray = some ids → ids ≠ [] →
      (s.revokeCredentialsRoute body).storage = st.revoking s.now ids ∧
      ∃ revoked skipped, (s.revokeCredentialsRoute body).net.outbox.getLast? =
          some (.reply { status := 200, body := .revoked revoked skipped }) ∧
        (∀ id, id ∈ revoked ↔ ∃ c, st.getCredential id = some c ∧ st.Doomed ids id c) ∧ revoked.Nodup ∧
        (∀ id, id ∈ skipped ↔ id ∈ ids ∧ id ∉ revoked) ∧ ∀ id ∈ ids, id ∈ revoked ∨ id ∈ skipped := by
  have hstorage (now : Nat) (ids : List String) := hflat.revokeCredentials_storage now ids
  have hids (now : Nat) (ids : List String) := hflat.revokeCredentials_ids hkeyed now ids
  refine ⟨?_, fun ids => ⟨hstorage now ids, (hids now ids).1, (hids now ids).2⟩, ?_⟩
  · intro ids ids' hsame
    refine ⟨?_, fun id => ?_⟩
    · rw [hstorage, hstorage, revoking_congr now hsame]
    · rw [(hids now ids).1, (hids now ids').1]
      simp only [doomed_congr hsame]
  · rintro s body ids rfl hbody hne
    obtain ⟨hstore, hreply⟩ := Gateway.revokeCredentialsRoute_reply hbody hne s
    have hdups (id : String) : id ∈ ids.eraseDups ↔ id ∈ ids := List.mem_eraseDups
    have hskipped (id : String) :
        id ∈ ids.eraseDups.filter (fun id => !(id ∈ (s.storage.revokeCredentials s.now ids.eraseDups).1)) ↔
          id ∈ ids ∧ id ∉ (s.storage.revokeCredentials s.now ids.eraseDups).1 := by
      rw [List.mem_filter, hdups, Bool.not_eq_true', decide_eq_false_iff_not]
    refine ⟨?_, _, _, hreply, ?_, (hids s.now _).2, hskipped, ?_⟩
    · rw [hstore, hstorage, revoking_congr s.now hdups]
    · intro id
      rw [(hids s.now _).1]
      simp only [doomed_congr hdups]
    · intro id hid
      by_cases hrevoked : id ∈ (s.storage.revokeCredentials s.now ids.eraseDups).1
      · exact Or.inl hrevoked
      · exact Or.inr ((hskipped id).mpr ⟨hid, hrevoked⟩)

/-- An enrollment and its access credential. -/
def sampleFamily : Storage :=
  { Storage.new with
    credentials :=
      ⟨[("i", sampleCredential "i" "zgb_x" .backend (some "b")),
        ("j", { sampleCredential "j" "zga_x" .backendAccess (some "b") with parentId := some "i" })], by decide⟩ }

theorem sampleFamily_rows {id : String} {c : CredentialRecord} (hc : sampleFamily.getCredential id = some c) :
    id = "i" ∧ c = sampleCredential "i" "zgb_x" .backend (some "b") ∨
      id = "j" ∧ c = { sampleCredential "j" "zga_x" .backendAccess (some "b") with parentId := some "i" } := by
  have hmem : (id, c) ∈ sampleFamily.credentials.entries := InsertionMap.get_eq_some_iff.mp hc
  simpa only [sampleFamily, List.mem_cons, Prod.mk.injEq, List.not_mem_nil, or_false] using hmem

theorem sampleFamily_keyed : sampleFamily.Keyed := by
  intro id c hc
  rcases sampleFamily_rows hc with ⟨rfl, rfl⟩ | ⟨rfl, rfl⟩ <;> rfl

theorem sampleFamily_flat : sampleFamily.Flat := by
  intro id c p parent hc _ hp hparent
  rcases sampleFamily_rows hc with ⟨rfl, rfl⟩ | ⟨rfl, rfl⟩
  · cases hp
  · obtain rfl := Option.some.inj hp
    obtain rfl := Option.some.inj hparent
    rfl

/-- The access credential is revoked once, whether it is asked for before its enrollment or after it. -/
theorem bulk_revocation_sample :
    (sampleFamily.revokeCredentials 1 ["j", "i", "x", "j"]).2 = (sampleFamily.revokeCredentials 1 ["x", "i", "j", "i"]).2 :=
  ((bulk_revocation 1 sampleFamily_keyed sampleFamily_flat).1 ["j", "i", "x", "j"] ["x", "i", "j", "i"]
    (by simp only [List.mem_cons, List.not_mem_nil]; tauto)).1

/-- An enrollment is exchanged, and the access credential is exchanged once more. -/
def sampleGenerations : List (Nat × CredentialCall) :=
  [(0, .create { type := .backend, ns := "n" }),
    (0, .exchange (sampleCredential "i" "zgb_x" .backend (some "b")) none),
    (0, .exchange (sampleCredential "ii" "zga_xx" .backendAccess (some "b")) none)]

/-- With three generations the order counts: the youngest is revoked when its parent is revoked before its grandparent. -/
theorem bulk_revocation_order :
    let st := ((credentialTable (Ctx.sample [])).run sampleGenerations).storage
    (st.revokeCredentials 1 ["i", "ii"]).1 = ["i", "ii"] ∧ (st.revokeCredentials 1 ["ii", "i"]).1 = ["ii", "iii", "i"] := by
  decide +kernel

end ZclaudiaGateway
