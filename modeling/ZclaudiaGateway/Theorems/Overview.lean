import ZclaudiaGateway.Lemmas.Credentials
import ZclaudiaGateway.Lemmas.Sample
import ZclaudiaGateway.Routes

/-!
# The counters of the overview

What the overview calls an active credential, next to the credentials whose tokens the table accepts.
-/

namespace ZclaudiaGateway

open Storage Gateway CredentialTable

/-! ## Counting rows -/

/-- The overview counts a row as revoked. -/
def CredentialRecord.listedRevoked (c : CredentialRecord) : Bool := c.revokedAt.any (· ≠ 0)

/-- The overview counts a row as expired, when it does not count it as revoked. -/
def CredentialRecord.listedExpired (now : Nat) (c : CredentialRecord) : Bool :=
  c.expiresAt.any (fun expiresAt => expiresAt ≤ (now : ℚ))

/-- The overview counts a row as active. -/
def CredentialRecord.listedActive (now : Nat) (c : CredentialRecord) : Bool := !c.listedRevoked && !c.listedExpired now

namespace Gateway

/-- Each row is counted once: as revoked, as expired or as active. -/
theorem countCredential_counts (now : Nat) (counters : CredentialCounters) (c : CredentialRecord) :
    (countCredential now counters c).total = counters.total ∧
      (countCredential now counters c).active = counters.active + (if c.listedActive now then 1 else 0) ∧
      (countCredential now counters c).revoked = counters.revoked + (if c.listedRevoked then 1 else 0) ∧
      (countCredential now counters c).expired =
        counters.expired + (if !c.listedRevoked && c.listedExpired now then 1 else 0) := by
  unfold countCredential CredentialRecord.listedActive CredentialRecord.listedRevoked CredentialRecord.listedExpired
  generalize c.revokedAt.any (· ≠ 0) = revoked
  generalize c.expiresAt.any (fun expiresAt => expiresAt ≤ (now : ℚ)) = expired
  cases revoked <;> cases expired <;> exact ⟨rfl, rfl, rfl, rfl⟩

/-- The counters after some rows. -/
theorem foldl_countCredential (now : Nat) (rows : List CredentialRecord) (counters : CredentialCounters) :
    (rows.foldl (countCredential now) counters).total = counters.total ∧
      (rows.foldl (countCredential now) counters).active = counters.active + rows.countP (·.listedActive now) ∧
      (rows.foldl (countCredential now) counters).revoked = counters.revoked + rows.countP (·.listedRevoked) ∧
      (rows.foldl (countCredential now) counters).expired =
        counters.expired + rows.countP (fun c => !c.listedRevoked && c.listedExpired now) := by
  induction rows generalizing counters with
  | nil => simp
  | cons c rows ih =>
    obtain ⟨htotal, hactive, hrevoked, hexpired⟩ := ih (countCredential now counters c)
    obtain ⟨htotal', hactive', hrevoked', hexpired'⟩ := countCredential_counts now counters c
    rw [List.foldl_cons, htotal, hactive, hrevoked, hexpired, htotal', hactive', hrevoked', hexpired']
    simp only [List.countP_cons]
    refine ⟨trivial, ?_, ?_, ?_⟩ <;> omega

end Gateway

/-- A row is counted under one heading only. -/
theorem countP_listed (now : Nat) (rows : List CredentialRecord) :
    rows.countP (·.listedActive now) + rows.countP (·.listedRevoked) +
      rows.countP (fun c => !c.listedRevoked && c.listedExpired now) = rows.length := by
  induction rows with
  | nil => rfl
  | cons c rows ih =>
    simp only [List.countP_cons, List.length_cons, CredentialRecord.listedActive] at ih ⊢
    cases c.listedRevoked <;> cases c.listedExpired now <;> simp <;> omega

/-- What one test counts more than another, the other counts less. -/
theorem countP_add_countP_not {α : Type} (p q : α → Bool) (l : List α) :
    l.countP p + l.countP (fun a => q a && !p a) = l.countP q + l.countP (fun a => p a && !q a) := by
  induction l with
  | nil => rfl
  | cons a l ih =>
    simp only [List.countP_cons]
    cases p a <;> cases q a <;> simp <;> omega

namespace Storage

/-- The rows in the order they are listed in are the rows of the table. -/
theorem countP_listCredentials (st : Storage) (p : CredentialRecord → Bool) :
    st.listCredentials.countP p = st.credentials.values.countP p :=
  (List.mergeSort_perm st.credentials.values _).countP_eq p

/-- The counters the overview shows for a table. -/
theorem credentialCounters_eq (st : Storage) (now : Nat) :
    (credentialCounters now st.listCredentials).total = st.credentials.values.length ∧
      (credentialCounters now st.listCredentials).active = st.credentials.values.countP (·.listedActive now) ∧
      (credentialCounters now st.listCredentials).revoked = st.credentials.values.countP (·.listedRevoked) ∧
      (credentialCounters now st.listCredentials).expired =
        st.credentials.values.countP (fun c => !c.listedRevoked && c.listedExpired now) := by
  obtain ⟨htotal, hactive, hrevoked, hexpired⟩ := foldl_countCredential now st.listCredentials
    { total := st.listCredentials.length, active := 0, revoked := 0, expired := 0, byType := .empty }
  unfold credentialCounters
  rw [htotal, hactive, hrevoked, hexpired, countP_listCredentials, countP_listCredentials, countP_listCredentials,
    listCredentials, List.length_mergeSort]
  simp only [Nat.zero_add, and_self]

/-! ## Where the two tests differ -/

/-- The parent of a row is gone, revoked or past its expiry. -/
def parentDead (st : Storage) (now : Nat) (c : CredentialRecord) : Bool :=
  c.parentId.any (fun parentId => !(st.getCredential parentId).any (live now))

/-- An unrevoked row in the millisecond it expires in, its parent alive. -/
def expiring (st : Storage) (now : Nat) (c : CredentialRecord) : Bool :=
  c.revokedAt.isNone && (c.expiresAt = some (now : ℚ)) && !st.parentDead now c

/-- A row that is neither revoked nor expired as the overview reads it, with a dead parent or a revocation at the epoch. -/
def orphaned (st : Storage) (now : Nat) (c : CredentialRecord) : Bool :=
  c.listedActive now && (c.revokedAt = some 0 || st.parentDead now c)

/-- A row authenticates while it is live and its parent is not dead. -/
theorem authenticates_eq (st : Storage) (now : Nat) (c : CredentialRecord) :
    st.authenticates now c = (live now c && !st.parentDead now c) := by
  unfold authenticates parentDead
  cases c.parentId <;> simp

/-- A row authenticates and is not called active only in the millisecond it expires in. -/
theorem authenticates_not_listed (st : Storage) (now : Nat) (c : CredentialRecord) :
    (st.authenticates now c && !c.listedActive now) = st.expiring now c := by
  rw [authenticates_eq]
  unfold expiring live CredentialRecord.listedActive CredentialRecord.listedRevoked CredentialRecord.listedExpired
  cases st.parentDead now c with
  | true => simp
  | false =>
    cases c.revokedAt with
    | some at_ => rfl
    | none =>
      cases c.expiresAt with
      | none => rfl
      | some expiresAt =>
        have hboundary : (now : ℚ) ≤ expiresAt ∧ expiresAt ≤ now ↔ expiresAt = now :=
          ⟨fun h => le_antisymm h.2 h.1, fun h => ⟨h.ge, h.le⟩⟩
        rw [Bool.eq_iff_iff]
        simpa using hboundary

/-- A row is called active and does not authenticate only when its parent or a revocation at the epoch stops it. -/
theorem listed_not_authenticates (st : Storage) (now : Nat) (c : CredentialRecord) :
    (c.listedActive now && !st.authenticates now c) = st.orphaned now c := by
  rw [authenticates_eq]
  unfold orphaned live CredentialRecord.listedActive CredentialRecord.listedRevoked CredentialRecord.listedExpired
  cases st.parentDead now c with
  | true => simp
  | false =>
    cases c.revokedAt with
    | some at_ =>
      rw [Bool.eq_iff_iff]
      simp +contextual
    | none =>
      cases c.expiresAt with
      | none => rfl
      | some expiresAt =>
        have hpast : ¬expiresAt ≤ (now : ℚ) → (now : ℚ) ≤ expiresAt := fun h => (not_le.mp h).le
        rw [Bool.eq_iff_iff]
        simpa using hpast

end Storage

namespace CredentialTable

/-- The current token of a row is accepted. -/
def accepts (Γ : Ctx) (t : CredentialTable) (now : Nat) (c : CredentialRecord) : Bool :=
  (t.lastSecret c.id).any (fun token => (t.storage.findValidCredential Γ.hashCredentialToken now token).1.isSome)

variable {Γ : Ctx} {t : CredentialTable}

/-- The current token of a row is accepted exactly when the row authenticates. -/
theorem Holds.accepts_eq (h : t.Holds Γ) (hinj : Function.Injective Γ.hashCredentialToken) (now : Nat)
    {c : CredentialRecord} (hc : c ∈ t.storage.credentials.values) :
    t.accepts Γ now c = t.storage.authenticates now c := by
  obtain ⟨id, hid⟩ := InsertionMap.mem_values_iff.mp hc
  have hkey : c.id = id := h.keyed id c hid
  obtain ⟨token, hlast, -⟩ := h.digests id c hid
  unfold accepts
  rw [hkey, hlast, Option.any_some, Bool.eq_iff_iff, Option.isSome_iff_exists]
  constructor
  · rintro ⟨c', hfind⟩
    obtain ⟨id', hlast', hget, hauth⟩ := (h.findValidCredential_eq_some_iff hinj now token c').mp hfind
    obtain rfl : id' = id := h.row_unique (lastSecret_mem hlast') (lastSecret_mem hlast)
    rw [Option.some.inj (hid.symm.trans hget)]
    exact hauth
  · intro hauth
    exact ⟨c, (h.findValidCredential_eq_some_iff hinj now token c).mpr ⟨id, hlast, hid, hauth⟩⟩

/-- How many rows have a current token that is accepted. -/
def accepted (Γ : Ctx) (t : CredentialTable) (now : Nat) : Nat := t.storage.credentials.values.countP (t.accepts Γ now)

end CredentialTable

/-! ## The overview -/

/-- The overview files every row under one heading. It calls as many rows active as there are rows whose current token is
accepted, exactly when as many rows are in the millisecond they expire in as are cut off by their parent. -/
theorem overview_counts_accepted_iff (Γ : Ctx) (hash_injective : Function.Injective Γ.hashCredentialToken)
    (es : List (Nat × CredentialCall)) (now : Nat) :
    let t := (credentialTable Γ).run es
    let rows := t.storage.credentials.values
    let counters := credentialCounters now t.storage.listCredentials
    (counters.active + counters.revoked + counters.expired = counters.total ∧ counters.total = rows.length) ∧
      (counters.active = t.accepted Γ now ↔ rows.countP (t.storage.expiring now) = rows.countP (t.storage.orphaned now)) := by
  intro t rows counters
  have hold : t.Holds Γ := holds_run Γ es
  obtain ⟨htotal, hactive, hrevoked, hexpired⟩ := credentialCounters_eq t.storage now
  refine ⟨⟨?_, htotal⟩, ?_⟩
  · calc counters.active + counters.revoked + counters.expired
        = rows.length := by rw [hactive, hrevoked, hexpired]; exact countP_listed now rows
      _ = counters.total := htotal.symm
  · have haccepted : t.accepted Γ now = rows.countP (t.storage.authenticates now) :=
      List.countP_congr (fun c hc => by rw [hold.accepts_eq hash_injective now hc])
    have hdiffer : rows.countP (t.storage.authenticates now) + rows.countP (t.storage.orphaned now) =
        rows.countP (·.listedActive now) + rows.countP (t.storage.expiring now) := by
      have h := countP_add_countP_not (t.storage.authenticates now) (·.listedActive now) rows
      simp only [authenticates_not_listed, listed_not_authenticates] at h
      exact h
    rw [haccepted, show counters.active = rows.countP (·.listedActive now) from hactive]
    constructor <;> intro heq <;> omega

/-- A device whose credential lives for five milliseconds. -/
def sampleShortLived : List (Nat × CredentialCall) :=
  [(0, .create { type := .device, ns := "n", ttlMs := some (some 5) })]

/-- Before its last millisecond the device is counted as it is accepted. -/
theorem overview_counts_accepted_sample :
    let t := (credentialTable (Ctx.sample [])).run sampleShortLived
    (credentialCounters 4 t.storage.listCredentials).active = t.accepted (Ctx.sample []) 4 :=
  (overview_counts_accepted_iff (Ctx.sample []) Function.injective_id sampleShortLived 4).2.mpr (by decide +kernel)

/-- In the millisecond it expires in, the device is accepted and the overview calls it expired. -/
theorem overview_expiry_boundary :
    let t := (credentialTable (Ctx.sample [])).run sampleShortLived
    (credentialCounters 5 t.storage.listCredentials).active = 0 ∧ t.accepted (Ctx.sample []) 5 = 1 := by
  decide +kernel

end ZclaudiaGateway
