import ZclaudiaGateway.Lemmas.Registrations
import ZclaudiaGateway.Lemmas.Sample

/-!
# Deleting a backend identity

A deletion is refused while something may still resolve to the identity, as far as the credential that registered it last tells.
-/

namespace ZclaudiaGateway

open Storage Gateway

section Runs

variable {Γ : Ctx} {storage : Storage}

/-- A request to delete a backend identity succeeds. -/
def Deletes (Γ : Ctx) (s : Gateway) (e : Event) (backendId : String) : Prop :=
  e.deletion = some backendId ∧ ∃ r, .reply r ∈ (s.step Γ e).net.outbox ∧ r.status = 200

/-- What a deletion that succeeds leaves behind resolves as before. -/
structure IdentitiesKept (Γ : Ctx) (storage : Storage) (es : List Event) : Prop where
  /-- No unrevoked credential is bound to a deleted backend, and no unrevoked legacy one has ever registered it. -/
  deletion : ∀ pre e b, pre ++ [e] <+: es → Deletes Γ ((gateway Γ storage).run pre) e b →
    (∀ id c, ((gateway Γ storage).run pre).storage.getCredential id = some c → c.type = .backend → c.revokedAt = none →
      c.backendId ≠ some b) ∧
    ∀ r ∈ registrations Γ storage pre, r.backendId = b →
      ((gateway Γ storage).run pre).storage.stillLegacy r.credentialId = false
  /-- A bound credential registers as the backend that it is bound to. -/
  bound : ∀ pre e r c b, pre ++ [e] <+: es → registration Γ ((gateway Γ storage).run pre) e = some r →
    ((gateway Γ storage).run pre).storage.getCredential r.credentialId = some c → c.backendId = some b → r.backendId = b
  /-- A legacy credential registers with the same identity fields as the same backend. -/
  legacy : ∀ pre e r r', pre ++ [e] <+: es → registration Γ ((gateway Γ storage).run pre) e = some r' →
    r ∈ registrations Γ storage pre → ((gateway Γ storage).run pre).storage.stillLegacy r.credentialId = true →
    r'.credentialId = r.credentialId → r'.components = r.components → r'.backendId = r.backendId

/-- The credential that registered a backend last is unrevoked and unbound. -/
def lastActive (rs : List Registration) (st : Storage) (backendId : String) : Bool :=
  ((lastRegistrant rs backendId).bind st.getCredential).any (fun c => c.revokedAt.isNone && c.backendId.isNone)

/-! ## One deletion -/

theorem deletes_iff {s : Gateway} {e : Event} {b : String} :
    Deletes Γ s e b ↔ e.deletion = some b ∧ s.uncaught = none ∧ s.deletable b = true := by
  unfold Deletes
  refine and_congr_right (fun hd => ?_)
  rcases hrun : s.uncaught with _ | error
  · have hreply (status : Nat) (body : HttpBody) :
        (∃ r, .reply r ∈ (s.quiet.reply { status, body }).net.outbox ∧ r.status = 200) ↔ status = 200 := by
      change (∃ r, Output.reply r ∈ [Output.reply { status, body }] ∧ r.status = 200) ↔ status = 200
      simp
    rw [step_running hrun, handle_deletion hd]
    change (∃ r, .reply r ∈ (s.quiet.deleteBackendRoute b).net.outbox ∧ r.status = 200) ↔
      none = none ∧ s.quiet.deletable b = true
    unfold deleteBackendRoute deletable replyError
    rcases s.quiet.storage.getBackendIdentity b with _ | identity
    · simp [hreply]
    · rw [Option.any_some]
      dsimp only
      rcases s.quiet.state.registry.has b with _ | _
      · rcases s.quiet.storage.credentials.values.any (boundToBackend b) with _ | _
        · rcases s.quiet.activeLegacyCredential identity with _ | _
          · simp only [Bool.false_eq_true, if_false, Bool.not_false, Bool.and_self, true_and, iff_true]
            exact (hreply 200 .null).mpr rfl
          · simp [hreply]
        · simp [hreply]
      · simp [hreply]
  · rw [step_stopped hrun]
    simp [quiet]

/-- The credential that the row of an identity remembers is the one that registered it last. -/
theorem activeLegacyCredential_eq {s : Gateway} {n : Nat} {rs : List Registration} (h : s.storage.Remembers Γ n rs)
    {b : String} {identity : BackendIdentity} (hget : s.storage.getBackendIdentity b = some identity) :
    s.activeLegacyCredential identity = lastActive rs s.storage b := by
  obtain ⟨key, hrow⟩ := InsertionMap.mem_values_iff.mp (List.mem_of_find?_eq_some hget)
  have hid : identity.backendId = b := by simpa using List.find?_some hget
  unfold activeLegacyCredential lastActive
  rw [h.last key identity hrow, hid]

/-! ## Runs -/

/-- Whenever a deletion gets as far as the check of the last credential, and an unrevoked legacy credential has registered the
backend, the credential that did so last is itself unrevoked and unbound. -/
def LastIsActive (Γ : Ctx) (storage : Storage) (es : List Event) : Prop :=
  ∀ pre e b, pre ++ [e] <+: es → e.deletion = some b →
    let s := (gateway Γ storage).run pre
    s.uncaught = none → (s.storage.getBackendIdentity b).isSome = true → s.state.registry.has b = false →
    s.storage.credentials.values.any (boundToBackend b) = false →
    (∃ r ∈ registrations Γ storage pre, r.backendId = b ∧ s.storage.stillLegacy r.credentialId = true) →
    lastActive (registrations Γ storage pre) s.storage b = true

theorem LastIsActive.of_prefix {es es' : List Event} (h : LastIsActive Γ storage es') (hp : es <+: es') :
    LastIsActive Γ storage es :=
  fun pre e b he => h pre e b (he.trans hp)

/-- No unrevoked legacy credential has registered a backend that a deletion of such a run finds deletable. -/
theorem LastIsActive.not_registered (hst : storage.Unregistered Γ) {es : List Event} (h : LastIsActive Γ storage es)
    {pre : List Event} {e : Event} {b : String} (hp : pre ++ [e] <+: es) (hd : e.deletion = some b)
    (hrun : ((gateway Γ storage).run pre).uncaught = none) (hdeletable : ((gateway Γ storage).run pre).deletable b = true) :
    ∀ r ∈ registrations Γ storage pre, r.backendId = b →
      ((gateway Γ storage).run pre).storage.stillLegacy r.credentialId = false := by
  have hremembers := remembers_run hst pre
  have hactive := h pre e b hp hd hrun
  generalize (gateway Γ storage).run pre = s at hremembers hactive hdeletable ⊢
  unfold deletable at hdeletable
  rw [Option.any_eq_true] at hdeletable
  obtain ⟨identity, hget, hchecks⟩ := hdeletable
  simp only [Bool.and_eq_true, Bool.not_eq_true'] at hchecks
  obtain ⟨⟨honline, hbound⟩, hlast⟩ := hchecks
  intro r hr hid
  by_contra hlegacy
  rw [Bool.not_eq_false] at hlegacy
  have hyes := hactive (by rw [hget]; rfl) honline hbound ⟨r, hr, hid, hlegacy⟩
  rw [activeLegacyCredential_eq hremembers hget, hyes] at hlast
  cases hlast

theorem LastIsActive.resolves (hst : storage.Unregistered Γ) {es : List Event} (h : LastIsActive Γ storage es) :
    ((gateway Γ storage).run es).storage.Resolves (registrations Γ storage es) := by
  induction es using List.reverseRecOn with
  | nil => exact fun r hr => nomatch hr
  | append_singleton es e ih =>
    have hkept := ih (h.of_prefix (List.prefix_append _ _))
    have hremembers := remembers_run hst es
    have hnot {b : String} := h.not_registered hst (List.prefix_refl (es ++ [e])) (b := b)
    rw [registrations_snoc, EventMachine.run_snoc]
    generalize (gateway Γ storage).run es = s at hkept hremembers hnot ⊢
    change (s.step Γ e).storage.Resolves _
    rcases hrun : s.uncaught with _ | error
    · rw [step_running hrun, ← registration_quiet]
      exact handle_resolves (s := s.quiet) hrun hremembers hkept e (fun b hd hdeletable => hnot hd hrun hdeletable)
    · have hnone : registration Γ s e = none := by
        unfold registration
        rw [hrun]
        rfl
      rw [step_stopped hrun, hnone, Option.toList_none, List.append_nil]
      exact hkept

/-- A store with two legacy credentials of one namespace. -/
def sampleDriftStorage : Storage :=
  { credentials :=
      (InsertionMap.empty.set "one" (sampleCredential "one" "zgb_one" .backend none)).set "two"
        (sampleCredential "two" "zgb_two" .backend none)
    backendIdentities := .empty
    maxEpoch := 0 }

theorem sampleDriftStorage_unregistered (values : List JsonValue) : sampleDriftStorage.Unregistered (.sample values) where
  legacy id c hc := by
    rcases InsertionMap.get_set_eq_some.mp hc with ⟨rfl, rfl⟩ | ⟨-, hc⟩
    · exact ⟨rfl, rfl, rfl, rfl, rfl⟩
    · rcases InsertionMap.get_set_eq_some.mp hc with ⟨rfl, rfl⟩ | ⟨-, hc⟩
      · exact ⟨rfl, rfl, rfl, rfl, rfl⟩
      · cases hc
  fresh m _ := by
    have hfirst (id : String) (hid : id.toList.head? ≠ some 'i') : (Ctx.sample values).credentialIds.draw m ≠ id := by
      rintro rfl
      simp [Ctx.sample, IdSource.letters, List.replicate_succ] at hid
    refine ⟨?_, rfl⟩
    unfold getCredential sampleDriftStorage
    rw [InsertionMap.get_set_of_ne (hfirst "two" (by decide)), InsertionMap.get_set_of_ne (hfirst "one" (by decide))]
    rfl
  identities key row hrow := nomatch hrow

/-- The hello of a legacy backend. -/
def sampleLegacyHello (token : String) : JsonValue :=
  match sampleHello token true with
  | .obj members => .obj (members ++ [("identity", .obj [("instanceId", .str "x")])])
  | v => v

/-- The context of the runs on that store. -/
abbrev driftContext : Ctx := .sample [sampleLegacyHello "zgb_one", sampleLegacyHello "zgb_two"]

/-- A legacy backend registers and goes, and its identity is asked to be deleted. -/
def refusedDeletion : List Event :=
  [.connect, .text 0 (sampleLegacyHello "zgb_one"), .socketClosed 0, .admin "127.0.0.1" .granted (.deleteBackend "bb")]

/-- Two legacy backends register as one, the second one's credential is revoked, and the identity is deleted. -/
def driftedDeletion : List Event :=
  [.connect, .text 0 (sampleLegacyHello "zgb_one"), .socketClosed 0, .connect, .text 3 (sampleLegacyHello "zgb_two"),
    .socketClosed 3, .admin "127.0.0.1" .granted (.revokeCredential "two"),
    .admin "127.0.0.1" .granted (.deleteBackend "bb")]

/-- Deletions leave what may still resolve in the runs in which the last credential stands for all that registered the
backend, and in these only. -/
theorem identities_kept_iff (hst : storage.Unregistered Γ) (es : List Event) :
    IdentitiesKept Γ storage es ↔ LastIsActive Γ storage es := by
  constructor
  · intro h pre e b hp hd s hrun hknown honline hbound hregistered
    obtain ⟨r, hr, hid, hlegacy⟩ := hregistered
    by_contra hno
    rw [Bool.not_eq_true] at hno
    obtain ⟨identity, hget⟩ := Option.isSome_iff_exists.mp hknown
    have hdeletable : s.deletable b = true := by
      unfold deletable
      rw [hget, Option.any_some, honline, hbound, activeLegacyCredential_eq (remembers_run hst pre) hget, hno]
      rfl
    have hgone := (h.deletion pre e b hp (deletes_iff.mpr ⟨hd, hrun, hdeletable⟩)).2 r hr hid
    rw [hgone] at hlegacy
    cases hlegacy
  · intro h
    refine ⟨?_, ?_, ?_⟩
    · intro pre e b hp hdeletes
      obtain ⟨hd, hrun, hdeletable⟩ := deletes_iff.mp hdeletes
      refine ⟨fun id c hc htype hrevoked hb => ?_, h.not_registered hst hp hd hrun hdeletable⟩
      have hunbound := deletable_unbound hdeletable
      rw [List.any_eq_false] at hunbound
      have hno := hunbound c (InsertionMap.mem_values_iff.mpr ⟨id, hc⟩)
      simp [boundToBackend, htype, hrevoked, hb] at hno
    · intro pre e r c b _ hr hc hb
      obtain ⟨hello, credential, hadmitted, hroot, -, hid⟩ := registration_eq_some hr
      obtain ⟨root, hget, -, hsame⟩ := admittedAs_root (remembers_run hst pre).lineage hadmitted
      rw [hroot, hget] at hc
      obtain rfl := Option.some.inj hc
      rw [hb] at hsame
      rw [hid]
      unfold resolveBackendIdentity
      rw [← hsame]
    · intro pre e r r' hp hr' hr hlegacy hcredential hcomponents
      have hpre : pre <+: es := (List.prefix_append pre [e]).trans hp
      obtain ⟨row, hrow, hrid⟩ := (h.of_prefix hpre).resolves hst r hr hlegacy
      obtain ⟨hello, credential, hadmitted, hroot, hfields, hid⟩ := registration_eq_some hr'
      rw [← hcredential, hroot] at hlegacy
      have hnone := legacy_unbound (remembers_run hst pre).lineage hadmitted hlegacy
      rw [← hcomponents, hfields] at hrow
      rw [hid, ← hrid]
      unfold resolveBackendIdentity
      rw [hnone]
      unfold getOrCreateBackendIdV4
      unfold identity IdentityComponents.key helloComponents at hrow
      dsimp only at hrow ⊢
      rw [hrow]

theorem refused_deletion_kept : IdentitiesKept driftContext sampleDriftStorage refusedDeletion := by
  refine (identities_kept_iff (sampleDriftStorage_unregistered _) refusedDeletion).mpr ?_
  intro pre e b hp hd
  obtain ⟨hpre, he⟩ : pre = refusedDeletion.take 3 ∧ b = "bb" := by
    rcases pre with _ | ⟨e₀, _ | ⟨e₁, _ | ⟨e₂, _ | ⟨e₃, pre⟩⟩⟩⟩ <;>
      simp only [refusedDeletion, List.nil_append, List.cons_append, List.cons_prefix_cons, List.prefix_nil,
        List.append_eq_nil_iff, List.cons_ne_self, and_false] at hp
    · rw [hp.1] at hd
      cases hd
    · rw [hp.2.1] at hd
      cases hd
    · rw [hp.2.2.1] at hd
      cases hd
    · obtain ⟨rfl, rfl, rfl, rfl, -⟩ := hp
      cases hd
      exact ⟨rfl, rfl⟩
  subst hpre he
  decide +kernel

/-- The identity is deleted although the first backend's credential is neither revoked nor bound. -/
theorem drifted_identity_deleted : ¬ ∀ es, IdentitiesKept driftContext sampleDriftStorage es := by
  intro h
  have hdeletes : Deletes driftContext ((gateway driftContext sampleDriftStorage).run (driftedDeletion.take 7))
      (.admin "127.0.0.1" .granted (.deleteBackend "bb")) "bb" :=
    deletes_iff.mpr ⟨rfl, by decide +kernel, by decide +kernel⟩
  have hgone := ((h driftedDeletion).deletion (driftedDeletion.take 7) _ "bb" List.prefix_rfl hdeletes).2
  have hregistered : (registrations driftContext sampleDriftStorage (driftedDeletion.take 7)).any (fun r =>
      r.backendId = "bb" && ((gateway driftContext sampleDriftStorage).run
        (driftedDeletion.take 7)).storage.stillLegacy r.credentialId) = true := by
    decide +kernel
  obtain ⟨r, hr, hid⟩ := List.any_eq_true.mp hregistered
  rw [Bool.and_eq_true, decide_eq_true_eq] at hid
  rw [hgone r hr hid.1] at hid
  cases hid.2

end Runs

end ZclaudiaGateway
