import ZclaudiaGateway.Lemmas.Ownership
import ZclaudiaGateway.Lemmas.Store

/-!
# Credential lineage

What holds between the rows of the credential table and of the identity table, and that every change of the store keeps it.
-/

namespace ZclaudiaGateway

namespace Storage

/-- A backend has an identity row in a namespace. -/
def HasIdentity (st : Storage) (ns backendId : String) : Prop :=
  ∃ key row, st.identity key = some row ∧ row.backendId = backendId ∧ row.ns = ns

theorem Known.hasIdentity {st : Storage} {ns backendId : String} (h : st.Known ns backendId) :
    st.HasIdentity ns backendId := by
  obtain ⟨row, hget, hns⟩ := h
  unfold getBackendIdentity at hget
  obtain ⟨key, hkey⟩ := InsertionMap.mem_values_iff.mp (List.mem_of_find?_eq_some hget)
  have hid := List.find?_some hget
  exact ⟨key, row, hkey, by simpa using hid, hns⟩

theorem HasIdentity.of_eq {st st' : Storage} {ns backendId : String} (h : st.HasIdentity ns backendId)
    (hsame : st'.backendIdentities = st.backendIdentities) : st'.HasIdentity ns backendId := by
  obtain ⟨key, row, hrow, hrest⟩ := h
  unfold identity at hrow
  rw [← hsame] at hrow
  exact ⟨key, row, hrow, hrest⟩

/-- The lineage of the credentials: whom an access row descends from, and what identity a bound row stands for. -/
structure Lineage (st : Storage) : Prop where
  keyed : st.Keyed
  access : ∀ id c, st.getCredential id = some c → c.type = .backendAccess → c.revokedAt = none →
    ∃ parentId parent, c.parentId = some parentId ∧ st.getCredential parentId = some parent ∧ parent.type = .backend ∧
      parent.revokedAt = none ∧ parent.ns = c.ns ∧ parent.backendId = c.backendId
  oneAccess : ∀ id c id' c' parentId, st.getCredential id = some c → st.getCredential id' = some c' →
    c.type = .backendAccess → c'.type = .backendAccess → c.parentId = some parentId → c'.parentId = some parentId → id = id'
  identity : ∀ id c b, st.getCredential id = some c → c.type ≠ .device → c.revokedAt = none → c.backendId = some b →
    st.HasIdentity c.ns b
  device : ∀ id c, st.getCredential id = some c → c.type = .device → c.backendId = none
  scope : ∀ id c, st.getCredential id = some c → c.type ≠ .device → c.allowedBackends = none
  root : ∀ id c, st.getCredential id = some c → c.type ≠ .backendAccess → c.parentId = none

/-- The random values of the events to come are not in the store. -/
def FreshFrom (Γ : Ctx) (n : Nat) (st : Storage) : Prop :=
  ∀ m, n ≤ m → st.getCredential (Γ.credentialIds.draw m) = none ∧
    st.identity (boundIdentityKey (Γ.backendIds.draw m)) = none

end Storage

/-- A row that a change of the store leaves what it is: it may be revoked, and a device may get another scope. -/
structure CredentialRecord.Stays (c c' : CredentialRecord) : Prop where
  id : c'.id = c.id
  type : c'.type = c.type
  ns : c'.ns = c.ns
  parentId : c'.parentId = c.parentId
  backendId : c'.backendId = c.backendId
  allowedBackends : c.type ≠ .device → c'.allowedBackends = c.allowedBackends
  revokedAt : c'.revokedAt = none → c.revokedAt = none

theorem CredentialRecord.Stays.refl (c : CredentialRecord) : c.Stays c :=
  ⟨rfl, rfl, rfl, rfl, rfl, fun _ => rfl, fun h => h⟩

namespace Storage

/-! ## Rows that stay what they are -/

/-- The rows after a change were there before. -/
def RowsStay (st st' : Storage) : Prop :=
  ∀ id c', st'.getCredential id = some c' → ∃ c, st.getCredential id = some c ∧ c.Stays c'

theorem RowsStay.refl (st : Storage) : st.RowsStay st := fun _ c h => ⟨c, h, .refl c⟩

theorem RowsStay.fresh {st st' : Storage} (h : st.RowsStay st') {id : String} (hid : st.getCredential id = none) :
    st'.getCredential id = none := by
  rcases hc : st'.getCredential id with _ | c'
  · rfl
  · obtain ⟨c, hget, -⟩ := h id c' hc
    rw [hid] at hget
    cases hget

/-- Rows that stay keep the lineage, as long as no unrevoked row loses its parent or its identity. -/
theorem Lineage.of_stays {st st' : Storage} (h : st.Lineage) (hrows : st.RowsStay st')
    (hparent : ∀ id c' parentId parent, st'.getCredential id = some c' → c'.type = .backendAccess → c'.revokedAt = none →
      c'.parentId = some parentId → st.getCredential parentId = some parent → parent.type = .backend →
      parent.revokedAt = none →
      ∃ parent', st'.getCredential parentId = some parent' ∧ parent.Stays parent' ∧ parent'.revokedAt = none)
    (hidentity : ∀ id c' b, st'.getCredential id = some c' → c'.type ≠ .device → c'.revokedAt = none →
      c'.backendId = some b → st.HasIdentity c'.ns b → st'.HasIdentity c'.ns b) : st'.Lineage := by
  refine ⟨?_, ?_, ?_, ?_, ?_, ?_, ?_⟩
  · intro id c' hc'
    obtain ⟨c, hc, hstays⟩ := hrows id c' hc'
    exact hstays.id.trans (h.keyed id c hc)
  · intro id c' hc' htype hrevoked
    obtain ⟨c, hc, hstays⟩ := hrows id c' hc'
    obtain ⟨p, parent, hp, hget, hptype, hprevoked, hns, hb⟩ :=
      h.access id c hc (hstays.type.symm.trans htype) (hstays.revokedAt hrevoked)
    have hp' : c'.parentId = some p := hstays.parentId.trans hp
    obtain ⟨parent', hget', hstays', hrevoked'⟩ := hparent id c' p parent hc' htype hrevoked hp' hget hptype hprevoked
    refine ⟨p, parent', hp', hget', hstays'.type.trans hptype, hrevoked', ?_, ?_⟩
    · rw [hstays'.ns, hns, hstays.ns]
    · rw [hstays'.backendId, hb, hstays.backendId]
  · intro id c' id₂ c₂' p hc' hc₂' htype htype₂ hp hp₂
    obtain ⟨c, hc, hstays⟩ := hrows id c' hc'
    obtain ⟨c₂, hc₂, hstays₂⟩ := hrows id₂ c₂' hc₂'
    exact h.oneAccess id c id₂ c₂ p hc hc₂ (hstays.type.symm.trans htype) (hstays₂.type.symm.trans htype₂)
      (hstays.parentId.symm.trans hp) (hstays₂.parentId.symm.trans hp₂)
  · intro id c' b hc' htype hrevoked hb
    obtain ⟨c, hc, hstays⟩ := hrows id c' hc'
    have hold := h.identity id c b hc (by rw [← hstays.type]; exact htype) (hstays.revokedAt hrevoked)
      (hstays.backendId.symm.trans hb)
    exact hidentity id c' b hc' htype hrevoked hb (by rw [hstays.ns]; exact hold)
  · intro id c' hc' htype
    obtain ⟨c, hc, hstays⟩ := hrows id c' hc'
    exact hstays.backendId.trans (h.device id c hc (hstays.type.symm.trans htype))
  · intro id c' hc' htype
    obtain ⟨c, hc, hstays⟩ := hrows id c' hc'
    have htype' : c.type ≠ .device := by rw [← hstays.type]; exact htype
    exact (hstays.allowedBackends htype').trans (h.scope id c hc htype')
  · intro id c' hc' htype
    obtain ⟨c, hc, hstays⟩ := hrows id c' hc'
    exact hstays.parentId.trans (h.root id c hc (by rw [← hstays.type]; exact htype))

/-- Rows changed in place, each unrevoked if it was. -/
theorem Lineage.of_pointwise {st st' : Storage} (h : st.Lineage)
    (hrows : st.credentials.Pointwise (fun c c' => c.Stays c' ∧ c'.revokedAt = c.revokedAt) st'.credentials)
    (hidentity : ∀ ns b, st.HasIdentity ns b → st'.HasIdentity ns b) : st'.Lineage := by
  refine h.of_stays ?_ ?_ ?_
  · intro id c' hc'
    obtain ⟨c, hc, hstays, -⟩ := hrows.some_get hc'
    exact ⟨c, hc, hstays⟩
  · intro id c' p parent _ _ _ _ hget _ hrevoked
    obtain ⟨parent', hget', hstays, hsame⟩ := hrows.get_some hget
    exact ⟨parent', hget', hstays, hsame.trans hrevoked⟩
  · intro id c' b _ _ _ _ hold
    exact hidentity _ _ hold

theorem Lineage.of_identities {st st' : Storage} (h : st.Lineage) (hcredentials : st'.credentials = st.credentials)
    (hidentity : ∀ ns b, st.HasIdentity ns b → st'.HasIdentity ns b) : st'.Lineage := by
  refine h.of_pointwise ?_ hidentity
  rw [hcredentials]
  exact .refl (fun c => ⟨.refl c, rfl⟩) _

theorem HasIdentity.kept {fresh : String} {call : IdentityCall} {st st' : Storage} (h : IdentityStep fresh call st st')
    {ns b : String} (hid : st.HasIdentity ns b) : st'.HasIdentity ns b := by
  obtain ⟨key, row, hrow, hb, hns⟩ := hid
  obtain ⟨row', hrow', hsame⟩ := h.kept key row hrow
  exact ⟨key, row', hrow', hsame.1.trans hb, hsame.2.trans hns⟩

/-! ## Changes that draw nothing -/

/-- The row of a credential after a revocation that took effect. -/
def revokedRow (now : Nat) (id : String) (id' : String) (c : CredentialRecord) : CredentialRecord :=
  if id' = id ∨ (c.parentId = some id ∧ c.revokedAt = none) then { c with revokedAt := some now } else c

/-- A revocation does nothing, or revokes a row and the rows exchanged from it. -/
theorem revokeCredential_cases (now : Nat) (id : String) (st : Storage) :
    (st.revokeCredential now id).2.backendIdentities = st.backendIdentities ∧
      ((st.revokeCredential now id).2.credentials = st.credentials ∨
        ∀ id', (st.revokeCredential now id).2.getCredential id' = (st.getCredential id').map (revokedRow now id id')) := by
  unfold revokeCredential
  split
  · exact ⟨rfl, Or.inl rfl⟩
  · split
    · exact ⟨rfl, Or.inl rfl⟩
    · refine ⟨rfl, Or.inr (fun id' => ?_)⟩
      simp only [getCredential, InsertionMap.get_mapValues, InsertionMap.get_modify]
      by_cases hid : id' = id
      · rw [if_pos hid]
        rcases st.credentials.get id' with _ | c <;> simp [hid, revokedRow]
      · rw [if_neg hid]
        rcases st.credentials.get id' with _ | c <;> simp [hid, revokedRow]

theorem revokedRow_stays (now : Nat) (id id' : String) (c : CredentialRecord) : c.Stays (revokedRow now id id' c) := by
  unfold revokedRow
  split
  · exact ⟨rfl, rfl, rfl, rfl, rfl, fun _ => rfl, fun h => by cases h⟩
  · exact .refl c

theorem revokedRow_unrevoked {now : Nat} {id id' : String} {c : CredentialRecord}
    (h : (revokedRow now id id' c).revokedAt = none) :
    revokedRow now id id' c = c ∧ id' ≠ id ∧ (c.parentId = some id → c.revokedAt ≠ none) := by
  unfold revokedRow at h ⊢
  split at h
  · cases h
  · rename_i hno
    rw [if_neg hno]
    exact ⟨rfl, fun he => hno (Or.inl he), fun hp hr => hno (Or.inr ⟨hp, hr⟩)⟩

theorem Lineage.revoke {st : Storage} (h : st.Lineage) (now : Nat) (id : String) : (st.revokeCredential now id).2.Lineage := by
  obtain ⟨hidentities, hsame | hrows⟩ := revokeCredential_cases now id st
  · exact h.of_identities hsame (fun ns b hb => hb.of_eq hidentities)
  · refine h.of_stays ?_ ?_ ?_
    · intro id' c' hc'
      rw [hrows, Option.map_eq_some_iff] at hc'
      obtain ⟨c, hc, rfl⟩ := hc'
      exact ⟨c, hc, revokedRow_stays now id id' c⟩
    · -- The parent of an unrevoked row is not the credential revoked, and no parent is exchanged from it.
      intro id' c' p parent hc' _ hrevoked hp hget hptype hprevoked
      rw [hrows, Option.map_eq_some_iff] at hc'
      obtain ⟨c, -, rfl⟩ := hc'
      obtain ⟨hc, -, hchild⟩ := revokedRow_unrevoked hrevoked
      rw [hc] at hp hrevoked
      have hne : p ≠ id := by
        rintro rfl
        exact hchild hp hrevoked
      have hroot : parent.parentId = none := h.root p parent hget (by rw [hptype]; simp)
      have hkept : revokedRow now id p parent = parent := by
        unfold revokedRow
        rw [if_neg]
        simp [hne, hroot]
      exact ⟨parent, by rw [hrows, hget, Option.map_some, hkept], .refl parent, hprevoked⟩
    · intro id' c' b _ _ _ _ hb
      exact hb.of_eq hidentities

theorem Lineage.purge {st : Storage} (h : st.Lineage) (ids : Option (List String)) :
    (st.purgeRevokedCredentials ids).2.Lineage := by
  have hget (id : String) (c : CredentialRecord) : (st.purgeRevokedCredentials ids).2.getCredential id = some c ↔
      st.getCredential id = some c ∧ (!(c.revokedAt.isSome && ids.all (fun ids => c.id ∈ ids))) = true :=
    InsertionMap.get_filter_eq_some
  refine h.of_stays ?_ ?_ (fun _ _ _ _ _ _ _ hb => hb)
  · intro id c hc
    exact ⟨c, ((hget id c).mp hc).1, .refl c⟩
  · intro id c p parent _ _ _ _ hparent _ hrevoked
    exact ⟨parent, (hget p parent).mpr ⟨hparent, by rw [hrevoked]; rfl⟩, .refl parent, hrevoked⟩

/-- A bind makes the row and its live access tokens the same backend. -/
theorem Lineage.bind {st : Storage} (h : st.Lineage) {id backendId : String} {c : CredentialRecord}
    (hc : st.getCredential id = some c) (hunbound : isUnboundBackend c = true) (hknown : st.HasIdentity c.ns backendId) :
    (st.bindBackendCredential id backendId).Lineage := by
  have hunbound' := hunbound
  simp only [isUnboundBackend, Bool.and_eq_true, decide_eq_true_eq, Option.isNone_iff_eq_none] at hunbound'
  obtain ⟨⟨htype, hrevoked⟩, -⟩ := hunbound'
  unfold bindBackendCredential
  rw [if_pos (by rw [hc]; exact hunbound)]
  have hrow (id' : String) (c' : CredentialRecord) :
      Storage.getCredential { st with credentials := st.credentials.mapValues (fun _ c =>
        if (c.id = id ∨ c.parentId = some id) ∧ c.revokedAt = none then { c with backendId := some backendId } else c) }
          id' = some c' →
        ∃ r, st.getCredential id' = some r ∧
          ((r.id = id ∨ r.parentId = some id) ∧ r.revokedAt = none ∧ c' = { r with backendId := some backendId } ∨
            ¬ ((r.id = id ∨ r.parentId = some id) ∧ r.revokedAt = none) ∧ c' = r) := by
    intro hc'
    unfold getCredential at hc'
    rw [InsertionMap.get_mapValues, Option.map_eq_some_iff] at hc'
    obtain ⟨r, hr, rfl⟩ := hc'
    refine ⟨r, hr, ?_⟩
    split
    · rename_i hcond
      exact Or.inl ⟨hcond.1, hcond.2, rfl⟩
    · rename_i hcond
      exact Or.inr ⟨hcond, rfl⟩
  have hback (id' : String) (r : CredentialRecord) (hr : st.getCredential id' = some r) :
      Storage.getCredential { st with credentials := st.credentials.mapValues (fun _ c =>
        if (c.id = id ∨ c.parentId = some id) ∧ c.revokedAt = none then { c with backendId := some backendId } else c) }
          id' = some (if (r.id = id ∨ r.parentId = some id) ∧ r.revokedAt = none then
            { r with backendId := some backendId } else r) := by
    unfold getCredential
    rw [InsertionMap.get_mapValues]
    unfold getCredential at hr
    rw [hr]
    rfl
  -- The rows that change are the credential, which is no device and no access row, and access rows exchanged from it.
  have changed {id' : String} {r : CredentialRecord} (hr : st.getCredential id' = some r)
      (hcond : (r.id = id ∨ r.parentId = some id) ∧ r.revokedAt = none) :
      r.type ≠ .device ∧ r.ns = c.ns := by
    obtain ⟨hid | hp, hrrevoked⟩ := hcond
    · have hid' : id' = id := (h.keyed id' r hr).symm.trans hid
      rw [hid', hc] at hr
      rw [← Option.some.inj hr, htype]
      exact ⟨by simp, rfl⟩
    · have haccess : r.type = .backendAccess := by
        by_contra hno
        rw [h.root id' r hr hno] at hp
        cases hp
      obtain ⟨p, parent, hp', hget, -, -, hns, -⟩ := h.access id' r hr haccess hrrevoked
      rw [hp] at hp'
      rw [← Option.some.inj hp', hc] at hget
      rw [haccess]
      exact ⟨by simp, by rw [← hns, Option.some.inj hget]⟩
  refine ⟨?_, ?_, ?_, ?_, ?_, ?_, ?_⟩
  · intro id' c' hc'
    obtain ⟨r, hr, ⟨-, -, rfl⟩ | ⟨-, rfl⟩⟩ := hrow id' c' hc'
    · exact h.keyed id' r hr
    · exact h.keyed id' _ hr
  · intro id' c' hc' hatype harevoked
    obtain ⟨r, hr, hcase⟩ := hrow id' c' hc'
    have hr' : r.type = .backendAccess ∧ r.revokedAt = none ∧ c'.parentId = r.parentId ∧ c'.ns = r.ns := by
      rcases hcase with ⟨-, hrrevoked, rfl⟩ | ⟨-, rfl⟩
      · exact ⟨hatype, hrrevoked, rfl, rfl⟩
      · exact ⟨hatype, harevoked, rfl, rfl⟩
    obtain ⟨hrtype, hrrevoked, hparentId, hcns⟩ := hr'
    obtain ⟨p, parent, hp, hget, hptype, hprevoked, hns, hb⟩ := h.access id' r hr hrtype hrrevoked
    refine ⟨p, _, hparentId.trans hp, hback p parent hget, ?_⟩
    have hroot : parent.parentId = none := h.root p parent hget (by rw [hptype]; simp)
    have hpid : parent.id = p := h.keyed p parent hget
    by_cases hpc : p = id
    · -- The parent is the credential that is bound, and the row changes with it.
      have hcond : (r.id = id ∨ r.parentId = some id) ∧ r.revokedAt = none := ⟨Or.inr (hpc ▸ hp), hrrevoked⟩
      rw [if_pos ⟨Or.inl (hpid.trans hpc), hprevoked⟩]
      rcases hcase with ⟨-, -, rfl⟩ | ⟨hno, -⟩
      · exact ⟨hptype, hprevoked, hns, rfl⟩
      · exact absurd hcond hno
    · rw [if_neg (by simp [hpid, hpc, hroot])]
      rcases hcase with ⟨hor, -, -⟩ | ⟨-, rfl⟩
      · rcases hor with hid | hp'
        · have hid' : id' = id := (h.keyed id' r hr).symm.trans hid
          rw [hid', hc] at hr
          rw [← Option.some.inj hr, htype] at hrtype
          cases hrtype
        · rw [hp] at hp'
          exact absurd (Option.some.inj hp') hpc
      · exact ⟨hptype, hprevoked, hns, hb⟩
  · intro id₁ c₁ id₂ c₂ p hc₁ hc₂ ht₁ ht₂ hp₁ hp₂
    obtain ⟨r₁, hr₁, hcase₁⟩ := hrow id₁ c₁ hc₁
    obtain ⟨r₂, hr₂, hcase₂⟩ := hrow id₂ c₂ hc₂
    refine h.oneAccess id₁ r₁ id₂ r₂ p hr₁ hr₂ ?_ ?_ ?_ ?_
    · rcases hcase₁ with ⟨-, -, rfl⟩ | ⟨-, rfl⟩ <;> exact ht₁
    · rcases hcase₂ with ⟨-, -, rfl⟩ | ⟨-, rfl⟩ <;> exact ht₂
    · rcases hcase₁ with ⟨-, -, rfl⟩ | ⟨-, rfl⟩ <;> exact hp₁
    · rcases hcase₂ with ⟨-, -, rfl⟩ | ⟨-, rfl⟩ <;> exact hp₂
  · intro id' c' b hc' hctype hcrevoked hb
    obtain ⟨r, hr, ⟨hor, hrrevoked, rfl⟩ | ⟨-, rfl⟩⟩ := hrow id' c' hc'
    · obtain ⟨-, hns⟩ := changed hr ⟨hor, hrrevoked⟩
      obtain rfl := Option.some.inj hb
      dsimp only
      rw [hns]
      exact hknown
    · exact h.identity id' _ b hr hctype hcrevoked hb
  · intro id' c' hc' hctype
    obtain ⟨r, hr, ⟨hor, hrrevoked, rfl⟩ | ⟨-, rfl⟩⟩ := hrow id' c' hc'
    · exact absurd hctype (changed hr ⟨hor, hrrevoked⟩).1
    · exact h.device id' _ hr hctype
  · intro id' c' hc' hctype
    obtain ⟨r, hr, ⟨-, -, rfl⟩ | ⟨-, rfl⟩⟩ := hrow id' c' hc'
    · exact h.scope id' r hr hctype
    · exact h.scope id' _ hr hctype
  · intro id' c' hc' hctype
    obtain ⟨r, hr, ⟨-, -, rfl⟩ | ⟨-, rfl⟩⟩ := hrow id' c' hc'
    · exact h.root id' r hr hctype
    · exact h.root id' _ hr hctype

/-- Deleting an identity that no unrevoked enrollment is bound to. -/
theorem Lineage.delete {st : Storage} (h : st.Lineage) {backendId : String}
    (hbound : st.credentials.values.any (Gateway.boundToBackend backendId) = false) :
    (st.deleteBackendIdentity backendId).Lineage := by
  have unbound {id : String} {c : CredentialRecord} (hc : st.getCredential id = some c) (htype : c.type = .backend)
      (hrevoked : c.revokedAt = none) : c.backendId ≠ some backendId := by
    intro hb
    rw [List.any_eq_false] at hbound
    refine hbound c (InsertionMap.mem_values_iff.mpr ⟨id, hc⟩) ?_
    simp [Gateway.boundToBackend, htype, hrevoked, hb]
  refine h.of_stays (.refl st) ?_ ?_
  · intro id c p parent _ _ _ _ hparent _ hrevoked
    exact ⟨parent, hparent, .refl parent, hrevoked⟩
  · intro id c b hc htype hrevoked hb hold
    have hne : b ≠ backendId := by
      rintro rfl
      rcases hctype : c.type with _ | _ | _
      · exact htype hctype
      · exact unbound hc hctype hrevoked hb
      · obtain ⟨p, parent, -, hget, hptype, hprevoked, -, hpb⟩ := h.access id c hc hctype hrevoked
        exact unbound hget hptype hprevoked (hpb.trans hb)
    obtain ⟨key, row, hrow, hid, hns⟩ := hold
    refine ⟨key, row, InsertionMap.get_filter_eq_some.mpr ⟨hrow, ?_⟩, hid, hns⟩
    rw [hid]
    simpa using hne

/-- An identity row after a touch. -/
def touchedRow (now : Nat) (backendId : String) (rootCredentialId name : Option String) (row : BackendIdentity) :
    BackendIdentity :=
  if row.backendId = backendId then
    { row with
      lastSeenAt := some now
      lastCredentialId := rootCredentialId.or row.lastCredentialId
      name := (name.filter (· ≠ "")).getD row.name }
  else row

theorem touchBackendIdentity_identity (now : Nat) (backendId : String) (rootCredentialId name : Option String)
    (st : Storage) (key : String) :
    (st.touchBackendIdentity now backendId rootCredentialId name).identity key =
      (st.identity key).map (touchedRow now backendId rootCredentialId name) :=
  InsertionMap.get_mapValues _ _ key

theorem touchedRow_same (now : Nat) (backendId : String) (rootCredentialId name : Option String) (row : BackendIdentity) :
    SameIdentity row (touchedRow now backendId rootCredentialId name row) := by
  unfold touchedRow
  split <;> exact ⟨rfl, rfl⟩

theorem HasIdentity.touched {st : Storage} {ns b : String} (h : st.HasIdentity ns b) (now : Nat) (backendId : String)
    (rootCredentialId name : Option String) :
    (st.touchBackendIdentity now backendId rootCredentialId name).HasIdentity ns b := by
  obtain ⟨key, row, hrow, hid, hns⟩ := h
  obtain ⟨hid', hns'⟩ := touchedRow_same now backendId rootCredentialId name row
  refine ⟨key, touchedRow now backendId rootCredentialId name row, ?_, hid'.trans hid, hns'.trans hns⟩
  rw [touchBackendIdentity_identity, hrow]
  rfl

theorem QuietStep.lineage {a b : Storage} (hstep : QuietStep a b) (h : a.Lineage) : b.Lineage := by
  cases hstep with
  | used hash now token =>
    unfold findValidCredential
    split
    · exact h
    · split
      · refine h.of_pointwise ?_ (fun ns b hb => hb)
        exact .modify (fun c => ⟨.refl c, rfl⟩) (fun c _ => ⟨⟨rfl, rfl, rfl, rfl, rfl, fun _ => rfl, fun h => h⟩, rfl⟩)
      · exact h
  | epoch => exact h.of_identities rfl (fun ns b hb => hb)
  | seen now backendId =>
    exact h.of_identities rfl (fun ns b hb => hb.touched now backendId none none)
  | bind hc hunbound hknown => exact h.bind hc hunbound hknown.hasIdentity
  | scope hc _ =>
    refine h.of_pointwise ?_ (fun ns b hb => hb)
    refine .modify (fun c => ⟨.refl c, rfl⟩) (fun c _ => ?_)
    split
    · rename_i hdevice
      exact ⟨⟨rfl, rfl, rfl, rfl, rfl, fun hno => absurd hdevice.1 hno, fun h => h⟩, rfl⟩
    · exact ⟨.refl c, rfl⟩
  | revoke now id => exact h.revoke now id
  | purge ids => exact h.purge ids

/-! ## Changes that draw random values -/

/-- A row is set under a fresh id. -/
theorem Lineage.insert {st st' : Storage} (h : st.Lineage) {c : CredentialRecord} (hfresh : st.getCredential c.id = none)
    (hcredentials : st'.credentials = st.credentials.set c.id c)
    (hidentities : ∀ ns b, st.HasIdentity ns b → st'.HasIdentity ns b)
    (haccess : c.type = .backendAccess → ∃ parentId parent, c.parentId = some parentId ∧
      st.getCredential parentId = some parent ∧ parent.type = .backend ∧ parent.revokedAt = none ∧ parent.ns = c.ns ∧
      parent.backendId = c.backendId)
    (hone : c.type = .backendAccess → ∀ id c' parentId, st.getCredential id = some c' → c'.type = .backendAccess →
      c.parentId = some parentId → c'.parentId ≠ some parentId)
    (hidentity : ∀ b, c.type ≠ .device → c.backendId = some b → st'.HasIdentity c.ns b)
    (hdevice : c.type = .device → c.backendId = none) (hscope : c.type ≠ .device → c.allowedBackends = none)
    (hroot : c.type ≠ .backendAccess → c.parentId = none) : st'.Lineage := by
  have hget (id : String) (r : CredentialRecord) : st'.getCredential id = some r ↔
      (id = c.id ∧ r = c) ∨ (id ≠ c.id ∧ st.getCredential id = some r) := by
    unfold getCredential
    rw [hcredentials, InsertionMap.get_set_eq_some]
    constructor
    · rintro (⟨h1, h2⟩ | h1)
      · exact Or.inl ⟨h1, h2.symm⟩
      · exact Or.inr h1
    · rintro (⟨h1, h2⟩ | h1)
      · exact Or.inl ⟨h1, h2.symm⟩
      · exact Or.inr h1
  have hkeep {id : String} {r : CredentialRecord} (hr : st.getCredential id = some r) : st'.getCredential id = some r := by
    refine (hget id r).mpr (Or.inr ⟨?_, hr⟩)
    rintro rfl
    rw [hfresh] at hr
    cases hr
  refine ⟨?_, ?_, ?_, ?_, ?_, ?_, ?_⟩
  · intro id r hr
    rcases (hget id r).mp hr with ⟨rfl, rfl⟩ | ⟨-, hr⟩
    · rfl
    · exact h.keyed id r hr
  · intro id r hr htype hrevoked
    rcases (hget id r).mp hr with ⟨rfl, rfl⟩ | ⟨-, hr⟩
    · obtain ⟨p, parent, hp, hparent, hrest⟩ := haccess htype
      exact ⟨p, parent, hp, hkeep hparent, hrest⟩
    · obtain ⟨p, parent, hp, hparent, hrest⟩ := h.access id r hr htype hrevoked
      exact ⟨p, parent, hp, hkeep hparent, hrest⟩
  · intro id₁ r₁ id₂ r₂ p hr₁ hr₂ ht₁ ht₂ hp₁ hp₂
    rcases (hget id₁ r₁).mp hr₁ with ⟨rfl, rfl⟩ | ⟨-, hr₁⟩ <;> rcases (hget id₂ r₂).mp hr₂ with ⟨rfl, rfl⟩ | ⟨-, hr₂⟩
    · rfl
    · exact absurd hp₂ (hone ht₁ id₂ r₂ p hr₂ ht₂ hp₁)
    · exact absurd hp₁ (hone ht₂ id₁ r₁ p hr₁ ht₁ hp₂)
    · exact h.oneAccess id₁ r₁ id₂ r₂ p hr₁ hr₂ ht₁ ht₂ hp₁ hp₂
  · intro id r b hr htype hrevoked hb
    rcases (hget id r).mp hr with ⟨rfl, rfl⟩ | ⟨-, hr⟩
    · exact hidentity b htype hb
    · exact hidentities _ _ (h.identity id r b hr htype hrevoked hb)
  · intro id r hr htype
    rcases (hget id r).mp hr with ⟨rfl, rfl⟩ | ⟨-, hr⟩
    · exact hdevice htype
    · exact h.device id r hr htype
  · intro id r hr htype
    rcases (hget id r).mp hr with ⟨rfl, rfl⟩ | ⟨-, hr⟩
    · exact hscope htype
    · exact h.scope id r hr htype
  · intro id r hr htype
    rcases (hget id r).mp hr with ⟨rfl, rfl⟩ | ⟨-, hr⟩
    · exact hroot htype
    · exact h.root id r hr htype

variable {Γ : Ctx} {n : Nat}

theorem createCredential_identities (hash : String → String) (fresh : CredentialDraw) (now : Nat) (input : CredentialInput)
    (st : Storage) (hfresh : st.identity (boundIdentityKey fresh.backendId) = none) :
    (∀ ns b, st.HasIdentity ns b → (st.createCredential hash fresh now input).2.2.HasIdentity ns b) ∧
      (input.type = .backend → input.backendId = none →
        (st.createCredential hash fresh now input).2.2.HasIdentity input.ns fresh.backendId) := by
  have hstep := IdentityCall.apply_step fresh.backendId now (.createBound input.ns (input.name.getD "")) st hfresh
  unfold createCredential
  dsimp only
  split
  · refine ⟨fun ns b hb => (HasIdentity.kept hstep hb).of_eq rfl, fun _ _ => ?_⟩
    exact ⟨boundIdentityKey fresh.backendId, _, InsertionMap.get_set_self _ _ _, rfl, rfl⟩
  · rename_i hold
    refine ⟨fun ns b hb => hb, fun htype hnone => ?_⟩
    simp [htype, hnone] at hold

theorem Lineage.issue {st : Storage} (h : st.Lineage) (hfresh : st.FreshFrom Γ n) (now : Nat) {input : CredentialInput}
    (hinput : st.Issuable input) :
    (st.createCredential Γ.hashCredentialToken
      { id := Γ.credentialIds.draw n, secret := Γ.secrets.draw n, backendId := Γ.backendIds.draw n } now input).2.2.Lineage := by
  obtain ⟨hid, hkey⟩ := hfresh n (le_refl n)
  obtain ⟨hkept, hbound⟩ := createCredential_identities Γ.hashCredentialToken
    { id := Γ.credentialIds.draw n, secret := Γ.secrets.draw n, backendId := Γ.backendIds.draw n } now input st hkey
  refine h.insert (c := (st.createCredential Γ.hashCredentialToken
    { id := Γ.credentialIds.draw n, secret := Γ.secrets.draw n, backendId := Γ.backendIds.draw n } now input).1) hid
    (createCredential_credentials _ _ _ _ _) hkept ?_ ?_ ?_ ?_ ?_ ?_
  · exact fun htype => absurd htype hinput.type
  · exact fun htype => absurd htype hinput.type
  · intro b htype hb
    have hbackend : input.type = .backend := by
      rcases hty : input.type with _ | _ | _
      · exact absurd hty htype
      · rfl
      · exact absurd hty hinput.type
    simp only [createCredential, hbackend, Option.some.injEq] at hb
    rcases hgiven : input.backendId with _ | given
    · rw [hgiven] at hb
      rw [← hb]
      exact hbound hbackend hgiven
    · rw [hgiven] at hb
      obtain rfl : given = b := hb
      exact hkept _ _ (hinput.backendId given hgiven).2.hasIdentity
  · intro htype
    have hdevice : input.type = .device := htype
    simp only [createCredential, hdevice]
  · intro htype
    have hno : input.type ≠ .device := htype
    simp only [createCredential, if_neg hno]
  · exact fun _ => hinput.parentId

/-- A credential that was just found is a live row, touched. -/
theorem findValidCredential_row {st : Storage} (hk : st.Keyed) {hash : String → String} {now : Nat} {token : String}
    {c : CredentialRecord} (hfind : (st.findValidCredential hash now token).1 = some c) :
    st.getCredential c.id = some c ∧ c.revokedAt = none ∧
      (st.findValidCredential hash now token).2.getCredential c.id = some { c with lastUsedAt := some now } := by
  unfold findValidCredential at hfind ⊢
  split at hfind
  · cases hfind
  · rename_i record hrecord
    split at hfind
    · rename_i hauth
      obtain rfl : record = c := Option.some.inj hfind
      unfold getCredentialByHash at hrecord
      obtain ⟨id, hid⟩ := InsertionMap.mem_values_iff.mp (List.mem_of_find?_eq_some hrecord)
      obtain rfl := hk id record hid
      refine ⟨hid, ((CredentialTable.authenticates_eq_true_iff st now record).mp hauth).1.1, ?_⟩
      rw [if_pos hauth]
      unfold getCredential
      rw [InsertionMap.get_modify_self]
      exact congrArg (Option.map _) hid
    · cases hfind

/-- The access row of an enrollment is rewritten as the enrollment's. -/
theorem Lineage.rotate {st : Storage} (h : st.Lineage) {e parent : CredentialRecord} {p : String}
    (he : st.getCredential e.id = some e) (htype : e.type = .backendAccess) (hp : e.parentId = some p)
    (hparent : st.getCredential p = some parent) (hptype : parent.type = .backend) (hprevoked : parent.revokedAt = none)
    {f : CredentialRecord → CredentialRecord} (hfid : (f e).id = e.id) (hftype : (f e).type = e.type)
    (hfparent : (f e).parentId = e.parentId) (hfscope : (f e).allowedBackends = e.allowedBackends)
    (hfns : (f e).ns = parent.ns) (hfbackend : (f e).backendId = parent.backendId) :
    Lineage { st with credentials := st.credentials.modify e.id f } := by
  have hget (id : String) (c : CredentialRecord)
      (hc : getCredential { st with credentials := st.credentials.modify e.id f } id = some c) :
      (id = e.id ∧ c = f e) ∨ (id ≠ e.id ∧ st.getCredential id = some c) := by
    unfold getCredential at hc
    rw [InsertionMap.get_modify] at hc
    split at hc
    · rename_i hid
      subst hid
      unfold getCredential at he
      rw [he] at hc
      exact Or.inl ⟨rfl, (Option.some.inj hc).symm⟩
    · rename_i hid
      exact Or.inr ⟨hid, hc⟩
  have hkeep {id : String} (hid : id ≠ e.id) :
      getCredential { st with credentials := st.credentials.modify e.id f } id = st.getCredential id :=
    InsertionMap.get_modify_of_ne hid
  -- A row that is no access row is not the one rewritten.
  have hother {id : String} {c : CredentialRecord} (hc : st.getCredential id = some c) (hctype : c.type = .backend) :
      id ≠ e.id := by
    rintro rfl
    rw [he] at hc
    rw [← Option.some.inj hc, htype] at hctype
    cases hctype
  have haccess : (f e).type = .backendAccess := hftype.trans htype
  refine ⟨?_, ?_, ?_, ?_, ?_, ?_, ?_⟩
  · intro id c hc
    rcases hget id c hc with ⟨rfl, rfl⟩ | ⟨-, hc⟩
    · exact hfid
    · exact h.keyed id c hc
  · intro id c hc hctype hcrevoked
    rcases hget id c hc with ⟨rfl, rfl⟩ | ⟨-, hc⟩
    · exact ⟨p, parent, hfparent.trans hp, (hkeep (hother hparent hptype)).trans hparent, hptype, hprevoked, hfns.symm,
        hfbackend.symm⟩
    · obtain ⟨q, qparent, hq, hqget, hqtype, hrest⟩ := h.access id c hc hctype hcrevoked
      exact ⟨q, qparent, hq, (hkeep (hother hqget hqtype)).trans hqget, hqtype, hrest⟩
  · intro id₁ c₁ id₂ c₂ q hc₁ hc₂ ht₁ ht₂ hp₁ hp₂
    rcases hget id₁ c₁ hc₁ with ⟨rfl, rfl⟩ | ⟨-, hc₁⟩ <;> rcases hget id₂ c₂ hc₂ with ⟨rfl, rfl⟩ | ⟨-, hc₂⟩
    · rfl
    · exact h.oneAccess e.id e id₂ c₂ q he hc₂ htype ht₂ (hfparent.symm.trans hp₁) hp₂
    · exact h.oneAccess id₁ c₁ e.id e q hc₁ he ht₁ htype hp₁ (hfparent.symm.trans hp₂)
    · exact h.oneAccess id₁ c₁ id₂ c₂ q hc₁ hc₂ ht₁ ht₂ hp₁ hp₂
  · intro id c b hc hctype hcrevoked hb
    rcases hget id c hc with ⟨rfl, rfl⟩ | ⟨-, hc⟩
    · have hold := h.identity p parent b hparent (by rw [hptype]; simp) hprevoked (hfbackend.symm.trans hb)
      rw [hfns]
      exact hold
    · exact h.identity id c b hc hctype hcrevoked hb
  · intro id c hc hctype
    rcases hget id c hc with ⟨rfl, rfl⟩ | ⟨-, hc⟩
    · rw [haccess] at hctype
      cases hctype
    · exact h.device id c hc hctype
  · intro id c hc hctype
    rcases hget id c hc with ⟨rfl, rfl⟩ | ⟨-, hc⟩
    · exact hfscope.trans (h.scope e.id e he (by rw [htype]; simp))
    · exact h.scope id c hc hctype
  · intro id c hc hctype
    rcases hget id c hc with ⟨rfl, rfl⟩ | ⟨-, hc⟩
    · exact absurd haccess hctype
    · exact h.root id c hc hctype

/-- An exchange writes the one access row of an enrollment that was just found. -/
theorem Lineage.exchange {st : Storage} (h : st.Lineage) (hfresh : st.FreshFrom Γ n) {now : Nat} {token : String}
    {credential : CredentialRecord} (ttlMs : Option (Option ℚ))
    (hfind : (st.findValidCredential Γ.hashCredentialToken now token).1 = some credential)
    (htype : credential.type = .backend) :
    ((st.findValidCredential Γ.hashCredentialToken now token).2.exchangeAccessCredential Γ.hashCredentialToken
      { id := Γ.credentialIds.draw n, secret := Γ.secrets.draw n, backendId := Γ.backendIds.draw n } now credential
      ttlMs).2.2.Lineage := by
  obtain ⟨-, hrevoked, hparent⟩ := findValidCredential_row h.keyed hfind
  have h' := (QuietStep.used Γ.hashCredentialToken now token st).lineage h
  have hfresh' : (st.findValidCredential Γ.hashCredentialToken now token).2.getCredential (Γ.credentialIds.draw n) =
      none := by
    rcases hc : (st.findValidCredential Γ.hashCredentialToken now token).2.getCredential (Γ.credentialIds.draw n) with
      _ | c'
    · rfl
    · obtain ⟨c, hget, -⟩ := findValidCredential_ages _ _ _ _ _ c' hc
      rw [(hfresh n (le_refl n)).1] at hget
      cases hget
  generalize (st.findValidCredential Γ.hashCredentialToken now token).2 = u at hparent h' hfresh'
  unfold exchangeAccessCredential
  split
  · rename_i hnone
    refine h'.insert (c := (u.createCredential Γ.hashCredentialToken
      { id := Γ.credentialIds.draw n, secret := Γ.secrets.draw n, backendId := Γ.backendIds.draw n } now
      { type := .backendAccess, ns := credential.ns, name := some (accessCredentialName credential),
        parentId := some credential.id, ttlMs, backendId := credential.backendId }).1) hfresh'
      (createCredential_credentials _ _ _ _ _) (fun ns b hb => hb) ?_ ?_ ?_ ?_ ?_ ?_
    · exact fun _ => ⟨credential.id, _, rfl, hparent, htype, hrevoked, rfl, rfl⟩
    · intro _ id c' p hc' hctype hp hp'
      obtain rfl : credential.id = p := Option.some.inj hp
      unfold findAccessCredential at hnone
      rw [List.find?_eq_none] at hnone
      have := hnone c' (InsertionMap.mem_values_iff.mpr ⟨id, hc'⟩)
      simp [hctype, hp'] at this
    · intro b _ hb
      have hold := h'.identity credential.id _ b hparent (by rw [htype]; simp) hrevoked hb
      exact hold
    · intro hno
      cases hno
    · exact fun _ => rfl
    · exact fun hno => absurd rfl hno
  · rename_i existing hexisting
    obtain ⟨hget, hetype, hep⟩ := findAccessCredential_eq_some h'.keyed hexisting
    exact h'.rotate hget hetype hep hparent htype hrevoked rfl rfl rfl rfl rfl rfl

theorem DrawStep.lineage {a b : Storage} (hstep : DrawStep Γ n a b) (hfresh : a.FreshFrom Γ n) (h : a.Lineage) :
    b.Lineage := by
  cases hstep with
  | issue now hinput => exact h.issue hfresh now hinput
  | exchange ttlMs hfind htype => exact h.exchange hfresh ttlMs hfind htype

/-! ## Random values stay fresh -/

/-- A change that makes no row and no identity. -/
theorem FreshFrom.of_kept {st st' : Storage} (h : st.FreshFrom Γ n)
    (hrows : ∀ id, st.getCredential id = none → st'.getCredential id = none)
    (hkeys : ∀ key, st.identity key = none → st'.identity key = none) : st'.FreshFrom Γ n :=
  fun m hm => ⟨hrows _ (h m hm).1, hkeys _ (h m hm).2⟩

theorem Ages.fresh {st st' : Storage} (h : st.Ages st') {id : String} (hid : st.getCredential id = none) :
    st'.getCredential id = none := by
  rcases hc : st'.getCredential id with _ | c'
  · rfl
  · obtain ⟨c, hget, -⟩ := h id c' hc
    rw [hid] at hget
    cases hget

theorem QuietStep.fresh {a b : Storage} (hstep : QuietStep a b) (h : a.FreshFrom Γ n) : b.FreshFrom Γ n := by
  cases hstep with
  | used hash now token =>
    refine h.of_kept (fun id hid => (findValidCredential_ages hash now token a).fresh hid) (fun key hkey => ?_)
    unfold findValidCredential
    split
    · exact hkey
    · split <;> exact hkey
  | epoch => exact h
  | seen now backendId =>
    refine h.of_kept (fun id hid => hid) (fun key hkey => ?_)
    rw [touchBackendIdentity_identity, hkey]
    rfl
  | @bind _ id backendId =>
    refine h.of_kept (fun _ hid => (bindBackendCredential_ages id backendId a).fresh hid) (fun key hkey => ?_)
    unfold bindBackendCredential
    split <;> exact hkey
  | @scope _ id _ scope =>
    exact h.of_kept (fun _ hid => (setAllowedBackends_ages id scope a).fresh hid) (fun _ hkey => hkey)
  | revoke now id =>
    refine h.of_kept (fun _ hid => (revokeCredential_ages now id a).fresh hid) (fun key hkey => ?_)
    unfold identity
    rw [(revokeCredential_cases now id a).1]
    exact hkey
  | purge ids => exact h.of_kept (fun _ hid => (purgeRevokedCredentials_ages ids a).fresh hid) (fun _ hkey => hkey)

theorem FreshFrom.delete {st : Storage} (h : st.FreshFrom Γ n) (backendId : String) :
    (st.deleteBackendIdentity backendId).FreshFrom Γ n := by
  refine h.of_kept (fun _ hid => hid) (fun key hkey => ?_)
  unfold identity at hkey ⊢
  unfold deleteBackendIdentity
  rw [InsertionMap.get_filter, hkey]
  rfl

theorem DrawStep.fresh {a b : Storage} (hstep : DrawStep Γ n a b) (h : a.FreshFrom Γ n) : b.FreshFrom Γ (n + 1) := by
  have later {m : Nat} (hm : n + 1 ≤ m) : n ≠ m := by omega
  have hid {m : Nat} (hm : n + 1 ≤ m) : Γ.credentialIds.draw m ≠ Γ.credentialIds.draw n := fun he =>
    later hm (Γ.credentialIds.injective he).symm
  have hkey {m : Nat} (hm : n + 1 ≤ m) : boundIdentityKey (Γ.backendIds.draw m) ≠ boundIdentityKey (Γ.backendIds.draw n) :=
    fun he => later hm (Γ.backendIds.injective (boundIdentityKey_injective he)).symm
  have created (st : Storage) (hst : st.FreshFrom Γ n) (now : Nat) (input : CredentialInput) :
      (st.createCredential Γ.hashCredentialToken
        { id := Γ.credentialIds.draw n, secret := Γ.secrets.draw n, backendId := Γ.backendIds.draw n } now
        input).2.2.FreshFrom Γ (n + 1) := by
    intro m hm
    obtain ⟨hrow, hidentity⟩ := hst m (by omega)
    constructor
    · unfold getCredential
      rw [createCredential_credentials, InsertionMap.get_set_of_ne (hid hm)]
      exact hrow
    · unfold createCredential
      dsimp only
      split
      · exact (InsertionMap.get_set_of_ne (hkey hm)).trans hidentity
      · exact hidentity
  cases hstep with
  | issue now _ => exact created a h now _
  | @exchange now token credential ttlMs _ _ =>
    have h' := (QuietStep.used Γ.hashCredentialToken now token a).fresh h
    unfold exchangeAccessCredential
    split
    · exact created _ h' now _
    · rename_i existing _
      intro m hm
      obtain ⟨hrow, hidentity⟩ := h' m (by omega)
      refine ⟨?_, hidentity⟩
      unfold getCredential
      rw [InsertionMap.get_modify]
      split
      · unfold getCredential at hrow
        rw [hrow]
        rfl
      · exact hrow

theorem FreshFrom.mono {st : Storage} (h : st.FreshFrom Γ n) {m : Nat} (hm : n ≤ m) : st.FreshFrom Γ m :=
  fun k hk => h k (hm.trans hk)

/-! ## Registrations -/

/-- A bound credential is its backend, and an unbound one is looked up. -/
theorem resolveBackendIdentity_cases (fresh : String) (now : Nat) (credential : CredentialRecord) (hello : PeerHello)
    (st : Storage) :
    (∃ b, credential.backendId = some b ∧ Gateway.resolveBackendIdentity fresh now credential hello st = (b, st)) ∨
      credential.backendId = none ∧ Gateway.resolveBackendIdentity fresh now credential hello st =
        st.getOrCreateBackendIdV4 fresh now (helloComponents hello).ns (helloComponents hello).instanceId
          (helloComponents hello).environment hello.identity.name := by
  unfold Gateway.resolveBackendIdentity
  rcases credential.backendId with _ | b
  · exact Or.inr ⟨rfl, rfl⟩
  · exact Or.inl ⟨b, rfl, rfl⟩

theorem getOrCreate_credentials (fresh : String) (now : Nat) (c : IdentityComponents) (name : Option String)
    (st : Storage) : (st.getOrCreateBackendIdV4 fresh now c.ns c.instanceId c.environment name).2.credentials =
      st.credentials := by
  unfold getOrCreateBackendIdV4
  dsimp only
  split <;> rfl

theorem registeredStore_credentials (n now : Nat) (credential : CredentialRecord) (hello : PeerHello) (st : Storage) :
    (Gateway.registeredStore Γ n now credential hello st).credentials = st.credentials := by
  unfold Gateway.registeredStore
  rcases resolveBackendIdentity_cases (Γ.backendIds.draw n) now credential hello st with ⟨b, -, he⟩ | ⟨-, he⟩
  · rw [he]
    rfl
  · rw [he]
    exact getOrCreate_credentials _ _ _ _ st

/-- A registration touches the rows that its identity is found or made among. -/
theorem registeredStore_identity (n now : Nat) (credential : CredentialRecord) (hello : PeerHello) (st : Storage)
    (key : String) :
    (Gateway.registeredStore Γ n now credential hello st).identity key =
      ((Gateway.resolveBackendIdentity (Γ.backendIds.draw n) now credential hello st).2.identity key).map
        (touchedRow now (Gateway.resolveBackendIdentity (Γ.backendIds.draw n) now credential hello st).1
          (some (Gateway.rootCredential credential)) hello.identity.name) :=
  touchBackendIdentity_identity _ _ _ _ _ key

theorem FreshFrom.register {st : Storage} (h : st.FreshFrom Γ n) (now : Nat) (credential : CredentialRecord)
    (hello : PeerHello) : (Gateway.registeredStore Γ n now credential hello st).FreshFrom Γ n := by
  refine fun m hm => ⟨?_, ?_⟩
  · unfold getCredential
    rw [registeredStore_credentials]
    exact (h m hm).1
  · rw [registeredStore_identity, Option.map_eq_none_iff]
    have hkey := (h m hm).2
    rcases resolveBackendIdentity_cases (Γ.backendIds.draw n) now credential hello st with ⟨b, -, he⟩ | ⟨-, he⟩
    · rw [he]
      exact hkey
    · rw [he]
      unfold identity at hkey ⊢
      rcases getOrCreate_cases (Γ.backendIds.draw n) now (helloComponents hello) hello.identity.name st with
        ⟨row, -, he⟩ | ⟨-, row, -, -, he⟩
      · rw [he, InsertionMap.get_modify_of_ne (key_ne_boundIdentityKey _ _).symm]
        exact hkey
      · rw [he, InsertionMap.get_set_of_ne (key_ne_boundIdentityKey _ _).symm]
        exact hkey

/-- A registration keeps the identity of every row. -/
theorem registeredStore_kept {st : Storage} (h : st.FreshFrom Γ n) (now : Nat) (credential : CredentialRecord)
    (hello : PeerHello) {key : String} {row : BackendIdentity} (hrow : st.identity key = some row) :
    ∃ row', (Gateway.registeredStore Γ n now credential hello st).identity key = some row' ∧ SameIdentity row row' := by
  have hresolved : ∃ row', (Gateway.resolveBackendIdentity (Γ.backendIds.draw n) now credential hello st).2.identity key =
      some row' ∧ SameIdentity row row' := by
    rcases resolveBackendIdentity_cases (Γ.backendIds.draw n) now credential hello st with ⟨b, -, he⟩ | ⟨-, he⟩
    · rw [he]
      exact ⟨row, hrow, .refl row⟩
    · rw [he]
      exact (IdentityCall.apply_step (Γ.backendIds.draw n) now (.getOrCreate (helloComponents hello) hello.identity.name) st
        (h n le_rfl).2).kept key row hrow
  obtain ⟨row', hrow', hid, hns⟩ := hresolved
  obtain ⟨hid', hns'⟩ := touchedRow_same now (Gateway.resolveBackendIdentity (Γ.backendIds.draw n) now credential hello st).1
    (some (Gateway.rootCredential credential)) hello.identity.name row'
  refine ⟨_, ?_, hid'.trans hid, hns'.trans hns⟩
  rw [registeredStore_identity, hrow']
  rfl

theorem Lineage.register {st : Storage} (h : st.Lineage) (hfresh : st.FreshFrom Γ n) (now : Nat)
    (credential : CredentialRecord) (hello : PeerHello) :
    (Gateway.registeredStore Γ n now credential hello st).Lineage := by
  refine h.of_identities (registeredStore_credentials n now credential hello st) ?_
  rintro ns b ⟨key, row, hrow, hid, hns⟩
  obtain ⟨row', hrow', hid', hns'⟩ := registeredStore_kept hfresh now credential hello hrow
  exact ⟨key, row', hrow', hid'.trans hid, hns'.trans hns⟩

/-! ## Runs -/

/-- What every change of the store keeps, each event keeps. -/
theorem handle_keeps {I : Nat → Storage → Prop} (hquiet : ∀ m a b, QuietStep a b → I m a → I m b)
    (hdraw : ∀ a b, DrawStep Γ n a b → I n a → I (n + 1) b) (hlater : ∀ a, I n a → I (n + 1) a)
    (hregister : ∀ now credential hello a, I n a → I (n + 1) (Gateway.registeredStore Γ n now credential hello a))
    (hdelete : ∀ backendId a, a.credentials.values.any (Gateway.boundToBackend backendId) = false → I n a →
      I n (a.deleteBackendIdentity backendId)) (e : Event) {s : Gateway} (hn : s.drawn = n) (h : I n s.storage) : I (n + 1) (s.handle Γ e).storage := by
  subst hn
  rcases Gateway.handle_cases (Γ := Γ) e s with ⟨⟨c, d, hc, hd, hb⟩, -, -⟩ |
    ⟨hello, credential, a, -, ha, -, -, -, hb⟩ | ⟨backendId, -, hb⟩
  · have hcI := hc.invariant (hquiet _) h
    have hdI : I (s.drawn + 1) d := by
      rcases hd with rfl | hd
      · exact hlater d hcI
      · exact hdraw c d hd hcI
    exact hb.invariant (hquiet _) hdI
  · rw [hb]
    exact hregister s.now credential hello a (ha.invariant (hquiet _) h)
  · rw [hb]
    split
    · rename_i hdeletable
      exact hlater _ (hdelete backendId _ (Gateway.deletable_unbound hdeletable) h)
    · exact hlater _ h

/-- What the store of every run keeps, from what every change of it keeps. -/
theorem store_run {I : Nat → Storage → Prop} {storage : Storage} (h0 : I 0 storage)
    (hquiet : ∀ n a b, QuietStep a b → I n a → I n b) (hdraw : ∀ n a b, DrawStep Γ n a b → I n a → I (n + 1) b)
    (hlater : ∀ n a, I n a → I (n + 1) a)
    (hregister : ∀ n now credential hello a, I n a → I (n + 1) (Gateway.registeredStore Γ n now credential hello a))
    (hdelete : ∀ n backendId a, a.credentials.values.any (Gateway.boundToBackend backendId) = false → I n a →
      I n (a.deleteBackendIdentity backendId)) (es : List Event) : I ((gateway Γ storage).run es).drawn ((gateway Γ storage).run es).storage := by
  induction es using List.reverseRecOn with
  | nil => exact h0
  | append_singleton es e ih =>
    have howned := @owned_run Γ storage es
    rw [EventMachine.run_snoc]
    generalize (gateway Γ storage).run es = s at ih howned
    change I (s.step Γ e).drawn (s.step Γ e).storage
    unfold Gateway.step
    split
    · exact ih
    · have hquieted : s.quiet.Owned Γ := ⟨howned.1.only rfl rfl rfl rfl, howned.2⟩
      have hdrawn := (Gateway.handle_owned e hquieted).2
      have hstep := handle_keeps hquiet (hdraw _) (hlater _) (hregister _) (hdelete _) e (s := s.quiet) rfl ih
      dsimp only
      rw [hdrawn]
      exact hstep

/-- A store with nothing but legacy backend credentials, bound to no backend. -/
def Legacy (st : Storage) : Prop :=
  ∀ id c, st.getCredential id = some c →
    c.id = id ∧ c.type = .backend ∧ c.backendId = none ∧ c.allowedBackends = none ∧ c.parentId = none

theorem Legacy.lineage {st : Storage} (h : st.Legacy) : st.Lineage := by
  have hno {id : String} {c : CredentialRecord} (hc : st.getCredential id = some c) : c.type ≠ .backendAccess := by
    rw [(h id c hc).2.1]
    simp
  refine ⟨fun id c hc => (h id c hc).1, ?_, ?_, ?_, ?_, ?_, ?_⟩
  · exact fun id c hc htype => absurd htype (hno hc)
  · exact fun id c id' c' p hc _ htype => absurd htype (hno hc)
  · intro id c b hc _ _ hb
    rw [(h id c hc).2.2.1] at hb
    cases hb
  · exact fun id c hc _ => (h id c hc).2.2.1
  · exact fun id c hc _ => (h id c hc).2.2.2.1
  · exact fun id c hc _ => (h id c hc).2.2.2.2

/-- The lineage holds after every run on a store of legacy credentials. -/
theorem lineage_run {storage : Storage} (hlegacy : storage.Legacy) (hfresh : storage.FreshFrom Γ 0) (es : List Event) :
    ((gateway Γ storage).run es).storage.FreshFrom Γ ((gateway Γ storage).run es).drawn ∧
      ((gateway Γ storage).run es).storage.Lineage :=
  store_run (I := fun n st => st.FreshFrom Γ n ∧ st.Lineage) ⟨hfresh, hlegacy.lineage⟩
    (fun _ _ _ hstep h => ⟨hstep.fresh h.1, hstep.lineage h.2⟩)
    (fun _ _ _ hstep h => ⟨hstep.fresh h.1, hstep.lineage h.1 h.2⟩)
    (fun n _ h => ⟨h.1.mono (Nat.le_succ n), h.2⟩)
    (fun n now credential hello _ h =>
      ⟨(h.1.register now credential hello).mono (Nat.le_succ n), h.2.register h.1 now credential hello⟩)
    (fun _ backendId _ hbound h => ⟨h.1.delete backendId, h.2.delete hbound⟩) es

end Storage

end ZclaudiaGateway
