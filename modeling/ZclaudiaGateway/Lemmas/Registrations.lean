import ZclaudiaGateway.Lemmas.Lineage

/-!
# Registrations

What the backends of a run registered as, and what the identity table remembers of it: the last credential of an identity is the
one that registered it last.
-/

namespace ZclaudiaGateway

open Storage Gateway

/-- The registrations of a run, the oldest first. -/
def registrations (Γ : Ctx) (storage : Storage) (es : List Event) : List Registration :=
  (gateway Γ storage).history (fun s e => (registration Γ s e).toList) es

/-- The credential that registered a backend last. -/
def lastRegistrant (rs : List Registration) (backendId : String) : Option String :=
  ((rs.filter (fun r => r.backendId = backendId)).getLast?).map (·.credentialId)

@[simp] theorem lastRegistrant_snoc_self (rs : List Registration) (r : Registration) :
    lastRegistrant (rs ++ [r]) r.backendId = some r.credentialId := by
  simp [lastRegistrant, List.filter_append]

theorem lastRegistrant_snoc_of_ne {rs : List Registration} {r : Registration} {b : String} (h : r.backendId ≠ b) :
    lastRegistrant (rs ++ [r]) b = lastRegistrant rs b := by
  simp [lastRegistrant, List.filter_append, h]

theorem lastRegistrant_eq_none {rs : List Registration} {b : String} (h : ∀ r ∈ rs, r.backendId ≠ b) :
    lastRegistrant rs b = none := by
  have hempty : rs.filter (fun r => r.backendId = b) = [] := by
    rw [List.filter_eq_nil_iff]
    intro r hr
    simpa using h r hr
  rw [lastRegistrant, hempty]
  rfl

namespace Storage

variable {Γ : Ctx} {n : Nat}

/-! ## Legacy credentials -/

/-- The credential is an unrevoked backend credential that is not bound. -/
def stillLegacy (st : Storage) (credentialId : String) : Bool := (st.getCredential credentialId).any isUnboundBackend

/-- A change of rows that makes none an unbound backend credential. -/
theorem stillLegacy_of_mapped {a b : Storage} {id : String} {f : CredentialRecord → CredentialRecord}
    (hf : ∀ c, isUnboundBackend (f c) = true → isUnboundBackend c = true)
    (hget : b.getCredential id = (a.getCredential id).map f) (h : b.stillLegacy id = true) : a.stillLegacy id = true := by
  unfold stillLegacy at h ⊢
  rw [hget, Option.any_map, Option.any_eq_true] at h
  obtain ⟨c, hc, hunbound⟩ := h
  rw [hc]
  exact hf c hunbound

theorem stillLegacy_of_mapValues {st : Storage} {id : String} {f : String → CredentialRecord → CredentialRecord}
    (hf : ∀ id c, isUnboundBackend (f id c) = true → isUnboundBackend c = true)
    (h : stillLegacy { st with credentials := st.credentials.mapValues f } id = true) : st.stillLegacy id = true := by
  refine stillLegacy_of_mapped (hf id) ?_ h
  exact InsertionMap.get_mapValues f st.credentials id

theorem stillLegacy_of_modified {st : Storage} {id key : String} {f : CredentialRecord → CredentialRecord}
    (hf : ∀ c, isUnboundBackend (f c) = true → isUnboundBackend c = true)
    (h : stillLegacy { st with credentials := st.credentials.modify key f } id = true) : st.stillLegacy id = true := by
  refine stillLegacy_of_mapped (f := fun c => if id = key then f c else c) (fun c hc => ?_) ?_ h
  · split at hc
    · exact hf c hc
    · exact hc
  · unfold getCredential
    rw [InsertionMap.get_modify]
    split <;> simp

/-- A credential that is legacy still was so before. -/
theorem QuietStep.legacy {a b : Storage} (hstep : QuietStep a b) {id : String} (h : b.stillLegacy id = true) :
    a.stillLegacy id = true := by
  cases hstep with
  | used hash now token =>
    unfold findValidCredential at h
    split at h
    · exact h
    · split at h
      · refine stillLegacy_of_modified ?_ h
        exact fun c hc => hc
      · exact h
  | epoch => exact h
  | seen now backendId => exact h
  | bind =>
    unfold bindBackendCredential at h
    split at h
    · refine stillLegacy_of_mapValues ?_ h
      intro _ c hc
      split at hc
      · simp [isUnboundBackend] at hc
      · exact hc
    · exact h
  | scope =>
    refine stillLegacy_of_modified ?_ h
    intro c hc
    split at hc
    · exact hc
    · exact hc
  | revoke now id' =>
    obtain ⟨-, hsame | hrows⟩ := revokeCredential_cases now id' a
    · unfold stillLegacy getCredential at h ⊢
      rw [hsame] at h
      exact h
    · refine stillLegacy_of_mapped (f := revokedRow now id' id) ?_ (hrows id) h
      intro c hc
      unfold revokedRow at hc
      split at hc
      · simp [isUnboundBackend] at hc
      · exact hc
  | purge ids =>
    unfold stillLegacy at h ⊢
    rw [Option.any_eq_true] at h
    obtain ⟨c, hc, hunbound⟩ := h
    rw [show a.getCredential id = some c from (InsertionMap.get_filter_eq_some.mp hc).1]
    exact hunbound

/-- A credential that is written is bound or no backend credential. -/
theorem DrawStep.legacy {a b : Storage} (hstep : DrawStep Γ n a b) (hk : a.Keyed) {id : String}
    (h : b.stillLegacy id = true) : a.stillLegacy id = true := by
  have created (st : Storage) (now : Nat) (input : CredentialInput) (h : (st.createCredential Γ.hashCredentialToken
      { id := Γ.credentialIds.draw n, secret := Γ.secrets.draw n, backendId := Γ.backendIds.draw n } now
      input).2.2.stillLegacy id = true) : st.stillLegacy id = true := by
    unfold stillLegacy getCredential at h ⊢
    rw [createCredential_credentials, InsertionMap.get_set] at h
    split at h
    · unfold createCredential isUnboundBackend at h
      rcases htype : input.type with _ | _ | _ <;> simp [htype] at h
    · exact h
  cases hstep with
  | issue now _ => exact created a now _ h
  | @exchange now token credential ttlMs _ _ =>
    refine (QuietStep.used Γ.hashCredentialToken now token a).legacy ?_
    have hk' : (a.findValidCredential Γ.hashCredentialToken now token).2.Keyed := by
      intro id c' hc'
      obtain ⟨c, hc, haged⟩ := findValidCredential_ages _ _ _ _ id c' hc'
      exact haged.id.trans (hk id c hc)
    generalize (a.findValidCredential Γ.hashCredentialToken now token).2 = u at h hk'
    unfold exchangeAccessCredential at h
    split at h
    · exact created u now _ h
    · rename_i existing hexisting
      obtain ⟨hget, htype, -⟩ := findAccessCredential_eq_some hk' hexisting
      unfold stillLegacy getCredential at h ⊢
      rw [InsertionMap.get_modify] at h
      split at h
      · rename_i hid
        unfold getCredential at hget
        rw [hid, hget] at h
        simp [isUnboundBackend, htype] at h
      · exact h

/-- The credential a registration is counted to is bound to what the credential of the hello is bound to. -/
theorem Lineage.root_row {st : Storage} (h : st.Lineage) {c : CredentialRecord} (hc : st.getCredential c.id = some c)
    (hrevoked : c.revokedAt = none) :
    ∃ root, st.getCredential (rootCredential c) = some root ∧ root.revokedAt = none ∧ root.backendId = c.backendId := by
  unfold rootCredential
  by_cases htype : c.type = .backendAccess
  · obtain ⟨p, parent, hp, hget, -, hprevoked, -, hb⟩ := h.access c.id c hc htype hrevoked
    rw [hp]
    exact ⟨parent, hget, hprevoked, hb⟩
  · rw [h.root c.id c hc htype]
    exact ⟨c, hc, hrevoked, rfl⟩

/-! ## Identity rows -/

/-- The backend and the last credential of a row. -/
def SameRegistrant (row row' : BackendIdentity) : Prop :=
  row'.backendId = row.backendId ∧ row'.lastCredentialId = row.lastCredentialId

theorem SameRegistrant.refl (row : BackendIdentity) : SameRegistrant row row := ⟨rfl, rfl⟩

theorem QuietStep.identities {a b : Storage} (hstep : QuietStep a b) :
    a.backendIdentities.Pointwise SameRegistrant b.backendIdentities := by
  have same : a.backendIdentities.Pointwise SameRegistrant a.backendIdentities := .refl .refl _
  cases hstep with
  | used hash now token =>
    unfold findValidCredential
    split
    · exact same
    · split <;> exact same
  | epoch => exact same
  | seen now backendId =>
    refine .mapValues (fun key row _ => ?_)
    change SameRegistrant row (touchedRow now backendId none none row)
    unfold touchedRow
    split <;> exact ⟨rfl, rfl⟩
  | bind =>
    unfold bindBackendCredential
    split <;> exact same
  | scope => exact same
  | revoke now id =>
    rw [(revokeCredential_cases now id a).1]
    exact same
  | purge => exact same

theorem QuietSteps.identities {a b : Storage} (h : QuietSteps a b) :
    a.backendIdentities.Pointwise SameRegistrant b.backendIdentities := by
  induction h with
  | refl => exact .refl .refl _
  | tail _ hstep ih =>
    exact ih.trans (fun _ _ _ h h' => ⟨h'.1.trans h.1, h'.2.trans h.2⟩) hstep.identities

/-- A credential that is written is bound to a new identity, or there is none. -/
theorem DrawStep.identities {a b : Storage} (hstep : DrawStep Γ n a b) :
    b.backendIdentities = a.backendIdentities ∨
      ∃ row, row.backendId = Γ.backendIds.draw n ∧ row.lastCredentialId = none ∧
        b.backendIdentities = a.backendIdentities.set (boundIdentityKey (Γ.backendIds.draw n)) row := by
  cases hstep with
  | issue now _ =>
    unfold createCredential
    dsimp only
    split
    · exact Or.inr ⟨_, rfl, rfl, rfl⟩
    · exact Or.inl rfl
  | exchange =>
    left
    unfold exchangeAccessCredential
    split <;> unfold findValidCredential <;> split <;> (try split) <;> rfl

/-! ## What the table remembers -/

/-- The last credential of an identity is the one that registered it last, and no identity has an id of the future. -/
structure Remembers (Γ : Ctx) (n : Nat) (st : Storage) (rs : List Registration) : Prop where
  fresh : st.FreshFrom Γ n
  lineage : st.Lineage
  ids : ∀ key row, st.identity key = some row → ∀ m, n ≤ m → row.backendId ≠ Γ.backendIds.draw m
  registered : ∀ r ∈ rs, ∀ m, n ≤ m → r.backendId ≠ Γ.backendIds.draw m
  last : ∀ key row, st.identity key = some row → row.lastCredentialId = lastRegistrant rs row.backendId

variable {rs : List Registration}

theorem Remembers.later {st : Storage} (h : st.Remembers Γ n rs) : st.Remembers Γ (n + 1) rs where
  fresh := h.fresh.mono (Nat.le_succ n)
  lineage := h.lineage
  ids key row hrow m hm := h.ids key row hrow m (by omega)
  registered r hr m hm := h.registered r hr m (by omega)
  last := h.last

/-- Rows that were there before with the same last credential. -/
theorem Remembers.of_rows {a b : Storage} (h : a.Remembers Γ n rs) (hfresh : b.FreshFrom Γ n) (hlineage : b.Lineage)
    (hrows : ∀ key row', b.identity key = some row' → ∃ row, a.identity key = some row ∧ SameRegistrant row row') :
    b.Remembers Γ n rs := by
  refine ⟨hfresh, hlineage, ?_, h.registered, ?_⟩
  · intro key row' hrow' m hm
    obtain ⟨row, hrow, hb, -⟩ := hrows key row' hrow'
    rw [hb]
    exact h.ids key row hrow m hm
  · intro key row' hrow'
    obtain ⟨row, hrow, hb, hlast⟩ := hrows key row' hrow'
    rw [hb, hlast]
    exact h.last key row hrow

theorem Remembers.quiet {a b : Storage} (h : a.Remembers Γ n rs) (hstep : QuietStep a b) : b.Remembers Γ n rs :=
  h.of_rows (hstep.fresh h.fresh) (hstep.lineage h.lineage) (fun _ _ hrow' => hstep.identities.some_get hrow')

theorem Remembers.delete {st : Storage} (h : st.Remembers Γ n rs) {backendId : String}
    (hbound : st.credentials.values.any (boundToBackend backendId) = false) :
    (st.deleteBackendIdentity backendId).Remembers Γ n rs := by
  refine h.of_rows (h.fresh.delete backendId) (h.lineage.delete hbound) (fun key row hrow => ?_)
  exact ⟨row, (InsertionMap.get_filter_eq_some.mp hrow).1, .refl row⟩

theorem Remembers.draw {a b : Storage} (h : a.Remembers Γ n rs) (hstep : DrawStep Γ n a b) : b.Remembers Γ (n + 1) rs := by
  have hfresh := hstep.fresh h.fresh
  have hlineage := hstep.lineage h.fresh h.lineage
  have hnew : lastRegistrant rs (Γ.backendIds.draw n) = none :=
    lastRegistrant_eq_none (fun r hr => h.registered r hr n le_rfl)
  rcases hstep.identities with hsame | ⟨new, hid, hlast, hset⟩
  · refine h.later.of_rows hfresh hlineage (fun key row hrow => ⟨row, ?_, .refl row⟩)
    unfold identity at hrow ⊢
    rw [← hsame]
    exact hrow
  · have hrows (key : String) (row : BackendIdentity) (hrow : b.identity key = some row) :
        row = new ∨ a.identity key = some row := by
      unfold identity at hrow
      rw [hset, InsertionMap.get_set_eq_some] at hrow
      rcases hrow with ⟨-, rfl⟩ | ⟨-, hrow⟩
      · exact Or.inl rfl
      · exact Or.inr hrow
    refine ⟨hfresh, hlineage, ?_, h.later.registered, ?_⟩
    · intro key row hrow m hm
      rcases hrows key row hrow with rfl | hrow
      · rw [hid]
        intro he
        have := Γ.backendIds.injective he
        omega
      · exact h.later.ids key row hrow m hm
    · intro key row hrow
      rcases hrows key row hrow with rfl | hrow
      · rw [hid, hlast, hnew]
      · exact h.last key row hrow

/-- The identity that a credential resolves to, and the rows it is found or made among. -/
structure Resolved (Γ : Ctx) (n : Nat) (st : Storage) (c : CredentialRecord) (hello : PeerHello) (backendId : String)
    (st' : Storage) : Prop where
  rows : ∀ key row', st'.identity key = some row' →
    (∃ row, st.identity key = some row ∧ SameRegistrant row row') ∨
      row'.backendId = Γ.backendIds.draw n ∧ backendId = Γ.backendIds.draw n
  known : backendId = Γ.backendIds.draw n ∨ (∃ key row, st.identity key = some row ∧ row.backendId = backendId) ∨
    c.backendId = some backendId
  legacy : c.backendId = none → ∃ row', st'.identity (helloComponents hello).key = some row' ∧ row'.backendId = backendId

theorem resolveBackendIdentity_resolved (n now : Nat) (c : CredentialRecord) (hello : PeerHello) (st : Storage) :
    Resolved Γ n st c hello (resolveBackendIdentity (Γ.backendIds.draw n) now c hello st).1
      (resolveBackendIdentity (Γ.backendIds.draw n) now c hello st).2 := by
  rcases resolveBackendIdentity_cases (Γ.backendIds.draw n) now c hello st with ⟨b, hb, he⟩ | ⟨hnone, he⟩
  · rw [he]
    refine ⟨fun key row hrow => Or.inl ⟨row, hrow, .refl row⟩, Or.inr (Or.inr hb), fun hnone => ?_⟩
    rw [hb] at hnone
    cases hnone
  · rw [he]
    rcases getOrCreate_cases (Γ.backendIds.draw n) now (helloComponents hello) hello.identity.name st with
      ⟨row, hrow, he⟩ | ⟨hkey, new, hid, -, he⟩
    · rw [he]
      refine ⟨fun key row' hrow' => Or.inl ?_, Or.inr (Or.inl ⟨_, row, hrow, rfl⟩), fun _ => ?_⟩
      · unfold identity at hrow'
        rw [InsertionMap.get_modify] at hrow'
        split at hrow'
        · rw [Option.map_eq_some_iff] at hrow'
          obtain ⟨r, hr, rfl⟩ := hrow'
          refine ⟨r, hr, renameIdentity_backendId _ _ _, ?_⟩
          unfold renameIdentity
          split
          · split <;> rfl
          · rfl
        · exact ⟨row', hrow', .refl row'⟩
      · refine ⟨renameIdentity hello.identity.name now row, ?_, renameIdentity_backendId _ _ _⟩
        unfold identity at hrow ⊢
        rw [InsertionMap.get_modify_self, hrow]
        rfl
    · rw [he]
      refine ⟨fun key row' hrow' => ?_, Or.inl rfl, fun _ => ⟨new, InsertionMap.get_set_self _ _ _, hid⟩⟩
      unfold identity at hrow'
      rw [InsertionMap.get_set_eq_some] at hrow'
      rcases hrow' with ⟨-, rfl⟩ | ⟨-, hrow'⟩
      · exact Or.inr ⟨hid, rfl⟩
      · exact Or.inl ⟨row', hrow', .refl row'⟩

/-- A registration is remembered. -/
theorem Remembers.register {st : Storage} (h : st.Remembers Γ n rs) (now : Nat) {c : CredentialRecord} (hello : PeerHello)
    (hbound : ∀ b, c.backendId = some b → st.HasIdentity c.ns b) :
    (registeredStore Γ n now c hello st).Remembers Γ (n + 1)
      (rs ++ [⟨rootCredential c, helloComponents hello, (resolveBackendIdentity (Γ.backendIds.draw n) now c hello st).1⟩]) := by
  have hresolved := resolveBackendIdentity_resolved (Γ := Γ) n now c hello st
  have hidentity := registeredStore_identity (Γ := Γ) n now c hello st
  have hfresh := (h.fresh.register now c hello).mono (Nat.le_succ n)
  have hlineage := h.lineage.register h.fresh now c hello
  generalize registeredStore Γ n now c hello st = st' at hidentity hfresh hlineage ⊢
  generalize (resolveBackendIdentity (Γ.backendIds.draw n) now c hello st).1 = backendId at hresolved hidentity ⊢
  generalize (resolveBackendIdentity (Γ.backendIds.draw n) now c hello st).2 = u at hresolved hidentity ⊢
  have hnew {m : Nat} (hm : n + 1 ≤ m) : Γ.backendIds.draw n ≠ Γ.backendIds.draw m := by
    intro he
    have := Γ.backendIds.injective he
    omega
  have hrows (key : String) (row' : BackendIdentity) (hrow' : st'.identity key = some row') :
      ∃ row, u.identity key = some row ∧
        row' = touchedRow now backendId (some (rootCredential c)) hello.identity.name row := by
    rw [hidentity, Option.map_eq_some_iff] at hrow'
    obtain ⟨row, hrow, rfl⟩ := hrow'
    exact ⟨row, hrow, rfl⟩
  refine ⟨hfresh, hlineage, ?_, ?_, ?_⟩
  · intro key row' hrow' m hm
    obtain ⟨row, hrow, rfl⟩ := hrows key row' hrow'
    rw [(touchedRow_same _ _ _ _ row).1]
    rcases hresolved.rows key row hrow with ⟨row₀, hrow₀, hb, -⟩ | ⟨hb, -⟩
    · rw [hb]
      exact h.later.ids key row₀ hrow₀ m hm
    · rw [hb]
      exact hnew hm
  · intro r hr m hm
    rcases List.mem_append.mp hr with hr | hr
    · exact h.later.registered r hr m hm
    · obtain rfl := List.mem_singleton.mp hr
      rcases hresolved.known with hb | ⟨key, row, hrow, hb⟩ | hb
      · exact hb ▸ hnew hm
      · exact hb ▸ h.later.ids key row hrow m hm
      · obtain ⟨key, row, hrow, hid, -⟩ := hbound backendId hb
        exact hid ▸ h.later.ids key row hrow m hm
  · intro key row' hrow'
    obtain ⟨row, hrow, rfl⟩ := hrows key row' hrow'
    by_cases hid : row.backendId = backendId
    · subst hid
      have hlast : (touchedRow now row.backendId (some (rootCredential c)) hello.identity.name row).lastCredentialId =
          some (rootCredential c) := by
        unfold touchedRow
        rw [if_pos rfl]
        rfl
      rw [hlast, (touchedRow_same _ _ _ _ row).1]
      exact (lastRegistrant_snoc_self rs
        ⟨rootCredential c, helloComponents hello, row.backendId⟩).symm
    · have hsame : touchedRow now backendId (some (rootCredential c)) hello.identity.name row = row := by
        unfold touchedRow
        rw [if_neg hid]
      rw [hsame, lastRegistrant_snoc_of_ne (Ne.symm hid)]
      rcases hresolved.rows key row hrow with ⟨row₀, hrow₀, hb, hlast⟩ | ⟨hb, hb'⟩
      · rw [hlast, hb]
        exact h.last key row₀ hrow₀
      · exact absurd (hb.trans hb'.symm) hid

/-! ## Legacy credentials resolve to what they registered -/

/-- Every legacy credential still has the identity that it registered. -/
def Resolves (st : Storage) (rs : List Registration) : Prop :=
  ∀ r ∈ rs, st.stillLegacy r.credentialId = true →
    ∃ row, st.identity r.components.key = some row ∧ row.backendId = r.backendId

theorem Resolves.quiet {a b : Storage} (h : a.Resolves rs) (hstep : QuietStep a b) : b.Resolves rs := by
  intro r hr hlegacy
  obtain ⟨row, hrow, hid⟩ := h r hr (hstep.legacy hlegacy)
  obtain ⟨row', hrow', hid', -⟩ := hstep.identities.get_some hrow
  exact ⟨row', hrow', hid'.trans hid⟩

theorem Resolves.draw {a b : Storage} (h : a.Resolves rs) (hk : a.Keyed) (hstep : DrawStep Γ n a b) : b.Resolves rs := by
  intro r hr hlegacy
  obtain ⟨row, hrow, hid⟩ := h r hr (hstep.legacy hk hlegacy)
  refine ⟨row, ?_, hid⟩
  unfold identity at hrow ⊢
  rcases hstep.identities with hsame | ⟨new, -, -, hset⟩
  · rw [hsame]
    exact hrow
  · rw [hset, InsertionMap.get_set_of_ne (key_ne_boundIdentityKey _ _)]
    exact hrow

theorem Resolves.delete {st : Storage} (h : st.Resolves rs) {backendId : String}
    (hno : ∀ r ∈ rs, r.backendId = backendId → st.stillLegacy r.credentialId = false) :
    (st.deleteBackendIdentity backendId).Resolves rs := by
  intro r hr hlegacy
  obtain ⟨row, hrow, hid⟩ := h r hr hlegacy
  refine ⟨row, InsertionMap.get_filter_eq_some.mpr ⟨hrow, ?_⟩, hid⟩
  rw [hid]
  simp only [decide_eq_true_eq, ne_eq]
  intro he
  have hgone := hno r hr he
  have hlegacy' : st.stillLegacy r.credentialId = true := hlegacy
  rw [hgone] at hlegacy'
  cases hlegacy'

theorem Resolves.register {st : Storage} (h : st.Resolves rs) (hfresh : st.FreshFrom Γ n) (now : Nat) {c : CredentialRecord}
    (hello : PeerHello) (hroot : st.stillLegacy (rootCredential c) = true → c.backendId = none) :
    (registeredStore Γ n now c hello st).Resolves
      (rs ++ [⟨rootCredential c, helloComponents hello, (resolveBackendIdentity (Γ.backendIds.draw n) now c hello st).1⟩]) := by
  intro r hr hlegacy
  have hlegacy' : st.stillLegacy r.credentialId = true := by
    unfold stillLegacy getCredential at hlegacy ⊢
    rw [registeredStore_credentials] at hlegacy
    exact hlegacy
  rcases List.mem_append.mp hr with hr | hr
  · obtain ⟨row, hrow, hid⟩ := h r hr hlegacy'
    obtain ⟨row', hrow', hid', -⟩ := registeredStore_kept hfresh now c hello hrow
    exact ⟨row', hrow', hid'.trans hid⟩
  · obtain rfl := List.mem_singleton.mp hr
    obtain ⟨row, hrow, hid⟩ := (resolveBackendIdentity_resolved (Γ := Γ) n now c hello st).legacy (hroot hlegacy')
    have hsame := touchedRow_same now (resolveBackendIdentity (Γ.backendIds.draw n) now c hello st).1
      (some (rootCredential c)) hello.identity.name row
    refine ⟨_, ?_, hsame.1.trans hid⟩
    rw [registeredStore_identity, hrow]
    rfl

end Storage

/-! ## Events -/

namespace Gateway

variable {Γ : Ctx} {rs : List Registration}

/-- The credential that admits a hello is a live row, touched. -/
theorem admittedAs_row {s : Gateway} (hk : s.storage.Keyed) {hello : PeerHello} {c : CredentialRecord}
    (h : s.admittedAs Γ hello = some c) :
    s.storage.getCredential c.id = some c ∧ c.revokedAt = none ∧
      (s.resolveToken Γ hello.gatewaySecret).2.storage.getCredential c.id = some { c with lastUsedAt := some s.now } := by
  have hfound := (Option.filter_eq_some_iff.mp h).1
  unfold resolveToken at hfound ⊢
  split at hfound
  · rename_i htoken
    rw [if_pos htoken]
    exact findValidCredential_row hk hfound
  · cases hfound

/-- The backend of the credential that a registration is counted to is what a bound credential registers as. -/
theorem admittedAs_root {s : Gateway} (h : s.storage.Lineage) {hello : PeerHello} {c : CredentialRecord}
    (hc : s.admittedAs Γ hello = some c) :
    ∃ root, s.storage.getCredential (rootCredential c) = some root ∧ root.revokedAt = none ∧
      root.backendId = c.backendId := by
  obtain ⟨hrow, hrevoked, -⟩ := admittedAs_row h.keyed hc
  exact h.root_row hrow hrevoked

theorem legacy_unbound {s : Gateway} (h : s.storage.Lineage) {hello : PeerHello} {c : CredentialRecord}
    (hc : s.admittedAs Γ hello = some c) (hlegacy : s.storage.stillLegacy (rootCredential c) = true) :
    c.backendId = none := by
  obtain ⟨root, hroot, -, hb⟩ := admittedAs_root h hc
  unfold stillLegacy at hlegacy
  rw [hroot, Option.any_some] at hlegacy
  simp only [isUnboundBackend, Bool.and_eq_true, Option.isNone_iff_eq_none] at hlegacy
  exact hb.symm.trans hlegacy.2

theorem QuietSteps.legacy {a b : Storage} (h : QuietSteps a b) {id : String} (hlegacy : b.stillLegacy id = true) :
    a.stillLegacy id = true := by
  induction h with
  | refl => exact hlegacy
  | tail _ hstep ih => exact ih (hstep.legacy hlegacy)

theorem registration_eq_some {s : Gateway} {e : Event} {r : Registration} (h : registration Γ s e = some r) :
    ∃ hello credential, s.admittedAs Γ hello = some credential ∧ r.credentialId = rootCredential credential ∧
      r.components = helloComponents hello ∧
      r.backendId = (resolveBackendIdentity (Γ.backendIds.draw s.drawn) s.now credential hello s.storage).1 := by
  unfold registration at h
  split at h
  · cases h
  · split at h
    · cases h
    · rename_i hello _
      split at h
      · cases h
      · rename_i credential hadmitted
        split at h
        · cases h
          exact ⟨hello, credential, hadmitted, rfl, rfl, rfl⟩
        · cases h

theorem handle_remembers {s : Gateway} (hrun : s.uncaught = none) (h : s.storage.Remembers Γ s.drawn rs) (e : Event) :
    (s.handle Γ e).storage.Remembers Γ (s.drawn + 1) (rs ++ (registration Γ s e).toList) := by
  rcases handle_cases (Γ := Γ) e s with ⟨⟨c, d, hc, hd, hb⟩, -, hnone⟩ | ⟨hello, c, a, hr, ha, rfl, hadmitted, -, hb⟩ |
    ⟨backendId, ⟨-, hnone⟩, hb⟩
  · rw [hnone, Option.toList_none, List.append_nil]
    have hcI := hc.invariant (fun _ _ hstep h => Remembers.quiet h hstep) h
    have hdI : d.Remembers Γ (s.drawn + 1) rs := by
      rcases hd with rfl | hd
      · exact hcI.later
      · exact hcI.draw hd
    exact hb.invariant (fun _ _ hstep h => Remembers.quiet h hstep) hdI
  · rw [hr hrun, hb, Option.toList_some]
    have haI := ha.invariant (fun _ _ hstep h => Remembers.quiet h hstep) h
    obtain ⟨-, hrevoked, hrow⟩ := admittedAs_row h.lineage.keyed hadmitted
    refine haI.register s.now hello (fun b hbound => ?_)
    have htype : c.type ≠ .device := by
      intro htype
      have hno := haI.lineage.device _ _ hrow htype
      have hno' : c.backendId = none := hno
      rw [hbound] at hno'
      cases hno'
    exact haI.lineage.identity _ { c with lastUsedAt := some s.now } b hrow htype hrevoked hbound
  · rw [hnone, hb, Option.toList_none, List.append_nil]
    split
    · rename_i hdeletable
      exact (h.delete (deletable_unbound hdeletable)).later
    · exact h.later

/-- Legacy credentials keep their identities through every event that deletes none of these. -/
theorem handle_resolves {s : Gateway} (hrun : s.uncaught = none) (hI : s.storage.Remembers Γ s.drawn rs)
    (h : s.storage.Resolves rs) (e : Event)
    (hdelete : ∀ b, e.deletion = some b → s.deletable b = true →
      ∀ r ∈ rs, r.backendId = b → s.storage.stillLegacy r.credentialId = false) :
    (s.handle Γ e).storage.Resolves (rs ++ (registration Γ s e).toList) := by
  rcases handle_cases (Γ := Γ) e s with ⟨⟨c, d, hc, hd, hb⟩, -, hnone⟩ | ⟨hello, c, a, hr, ha, rfl, hadmitted, -, hb⟩ |
    ⟨backendId, ⟨hd, hnone⟩, hb⟩
  · rw [hnone, Option.toList_none, List.append_nil]
    have hcI := hc.invariant (fun _ _ hstep h => Remembers.quiet h hstep) hI
    have hcR := hc.invariant (fun _ _ hstep h => Resolves.quiet h hstep) h
    have hdR : d.Resolves rs := by
      rcases hd with rfl | hd
      · exact hcR
      · exact hcR.draw hcI.lineage.keyed hd
    exact hb.invariant (fun _ _ hstep h => Resolves.quiet h hstep) hdR
  · rw [hr hrun, hb, Option.toList_some]
    have haI := ha.invariant (fun _ _ hstep h => Remembers.quiet h hstep) hI
    have haR := ha.invariant (fun _ _ hstep h => Resolves.quiet h hstep) h
    exact haR.register haI.fresh s.now hello (fun hlegacy => legacy_unbound hI.lineage hadmitted (QuietSteps.legacy ha hlegacy))
  · rw [hnone, hb, Option.toList_none, List.append_nil]
    split
    · rename_i hdeletable
      exact h.delete (hdelete backendId hd hdeletable)
    · exact h

end Gateway

/-! ## Runs -/

variable {Γ : Ctx} {storage : Storage}

theorem registrations_snoc (es : List Event) (e : Event) :
    registrations Γ storage (es ++ [e]) =
      registrations Γ storage es ++ (registration Γ ((gateway Γ storage).run es) e).toList :=
  EventMachine.history_snoc _ _ es e

/-- A store in which nothing has registered, and whose identities are none that will be drawn. -/
structure Storage.Unregistered (Γ : Ctx) (st : Storage) : Prop where
  legacy : st.Legacy
  fresh : st.FreshFrom Γ 0
  identities : ∀ key row, st.identity key = some row →
    row.lastCredentialId = none ∧ ∀ m, row.backendId ≠ Γ.backendIds.draw m

theorem Storage.Unregistered.remembers {st : Storage} (h : st.Unregistered Γ) : st.Remembers Γ 0 [] where
  fresh := h.fresh
  lineage := h.legacy.lineage
  ids key row hrow m _ := (h.identities key row hrow).2 m
  registered _ hr := nomatch hr
  last key row hrow := (h.identities key row hrow).1

theorem remembers_run (h : storage.Unregistered Γ) (es : List Event) :
    ((gateway Γ storage).run es).storage.Remembers Γ ((gateway Γ storage).run es).drawn (registrations Γ storage es) := by
  induction es using List.reverseRecOn with
  | nil => exact h.remembers
  | append_singleton es e ih =>
    have howned := @owned_run Γ storage es
    rw [registrations_snoc, EventMachine.run_snoc]
    generalize (gateway Γ storage).run es = s at ih howned
    change (s.step Γ e).storage.Remembers Γ (s.step Γ e).drawn _
    rcases hrun : s.uncaught with _ | error
    · have hquiet : s.quiet.Owned Γ := ⟨howned.1.only rfl rfl rfl rfl, howned.2⟩
      have hdrawn := (Gateway.handle_owned e hquiet).2
      have hstep := handle_remembers (s := s.quiet) hrun ih e
      rw [registration_quiet] at hstep
      rw [step_running hrun]
      dsimp only
      rw [hdrawn]
      exact hstep
    · have hnone : registration Γ s e = none := by
        unfold registration
        rw [hrun]
        rfl
      rw [step_stopped hrun, hnone, Option.toList_none, List.append_nil]
      exact ih

end ZclaudiaGateway
