import ZclaudiaGateway.Lemmas.Reach
import ZclaudiaGateway.Lemmas.Registrations

/-!
# Online backends and their identities

A backend that is online has a row in the identity table, and the row is of the namespace that the backend is present in,
unless a legacy backend was let register under the row of another namespace.
-/

namespace ZclaudiaGateway

variable {Γ : Ctx} {n : Nat}

namespace Storage

/-! ## Namespaces of backends -/

/-- The rows of one backend are of one namespace, and no row is of a backend that is yet to be drawn. -/
structure Namespaced (Γ : Ctx) (n : Nat) (st : Storage) : Prop where
  fresh : st.FreshFrom Γ n
  lineage : st.Lineage
  drawn : ∀ key row, st.identity key = some row → ∀ m, n ≤ m → row.backendId ≠ Γ.backendIds.draw m
  one : ∀ key row key' row', st.identity key = some row → st.identity key' = some row' → row.backendId = row'.backendId →
    row.ns = row'.ns

theorem Namespaced.later {st : Storage} (h : st.Namespaced Γ n) : st.Namespaced Γ (n + 1) :=
  ⟨h.fresh.mono (Nat.le_succ n), h.lineage, fun key row hrow m hm => h.drawn key row hrow m (by omega), h.one⟩

/-- A row that was there, as the same identity, or the row of a backend that was just drawn. -/
theorem Namespaced.of_rows {a b : Storage} (h : a.Namespaced Γ n) {m : Nat} (hm : n ≤ m) (hfresh : b.FreshFrom Γ m)
    (hlineage : b.Lineage) (ns : String)
    (hrows : ∀ key row', b.identity key = some row' →
      (∃ row, a.identity key = some row ∧ SameIdentity row row') ∨
        n < m ∧ row'.backendId = Γ.backendIds.draw n ∧ row'.ns = ns) : b.Namespaced Γ m := by
  refine ⟨hfresh, hlineage, fun key row' hrow' i hi => ?_, fun key row₁ key' row₂ hrow₁ hrow₂ hsame => ?_⟩
  · rcases hrows key row' hrow' with ⟨row, hrow, hid, -⟩ | ⟨hlt, hid, -⟩
    · rw [hid]
      exact h.drawn key row hrow i (by omega)
    · rw [hid]
      intro he
      have := Γ.backendIds.injective he
      omega
  · rcases hrows key row₁ hrow₁ with ⟨old₁, hold₁, hid₁, hns₁⟩ | ⟨-, hid₁, hns₁⟩ <;>
      rcases hrows key' row₂ hrow₂ with ⟨old₂, hold₂, hid₂, hns₂⟩ | ⟨-, hid₂, hns₂⟩
    · rw [hns₁, hns₂]
      exact h.one key old₁ key' old₂ hold₁ hold₂ (by rw [← hid₁, ← hid₂, hsame])
    · exact absurd (hid₁.symm.trans (hsame.trans hid₂)) (h.drawn key old₁ hold₁ n le_rfl)
    · exact absurd (hid₂.symm.trans (hsame.symm.trans hid₁)) (h.drawn key' old₂ hold₂ n le_rfl)
    · rw [hns₁, hns₂]

/-- A change of the store that draws nothing keeps every identity what it is. -/
theorem QuietStep.sameIdentities {a b : Storage} (hstep : QuietStep a b) :
    a.backendIdentities.Pointwise SameIdentity b.backendIdentities := by
  have same : a.backendIdentities.Pointwise SameIdentity a.backendIdentities := .refl .refl _
  cases hstep with
  | used hash now token =>
    unfold findValidCredential
    split
    · exact same
    · split <;> exact same
  | epoch => exact same
  | seen now backendId => exact .mapValues (fun key row _ => touchedRow_same now backendId none none row)
  | bind =>
    unfold bindBackendCredential
    split <;> exact same
  | scope => exact same
  | revoke now id =>
    rw [(revokeCredential_cases now id a).1]
    exact same
  | purge => exact same

theorem QuietStep.namespaced {a b : Storage} (hstep : QuietStep a b) (h : a.Namespaced Γ n) : b.Namespaced Γ n := by
  refine h.of_rows le_rfl (hstep.fresh h.fresh) (hstep.lineage h.lineage) "" (fun key row' hrow' => Or.inl ?_)
  exact hstep.sameIdentities.some_get hrow'

theorem QuietStep.hasIdentity {a b : Storage} (hstep : QuietStep a b) {ns backendId : String}
    (h : a.HasIdentity ns backendId) : b.HasIdentity ns backendId := by
  obtain ⟨key, row, hrow, hid, hns⟩ := h
  obtain ⟨row', hrow', hid', hns'⟩ := hstep.sameIdentities.get_some hrow
  exact ⟨key, row', hrow', hid'.trans hid, hns'.trans hns⟩

/-- A row under a key that had none. -/
theorem DrawStep.identityRows {a b : Storage} (hstep : DrawStep Γ n a b) :
    ∃ ns, ∀ key row', b.identity key = some row' → a.identity key = some row' ∨
      row'.backendId = Γ.backendIds.draw n ∧ row'.ns = ns := by
  rcases hstep.identities with hsame | ⟨new, hid, -, hset⟩
  · refine ⟨"", fun key row' hrow' => Or.inl ?_⟩
    unfold identity at hrow' ⊢
    rwa [← hsame]
  · refine ⟨new.ns, fun key row' hrow' => ?_⟩
    unfold identity at hrow' ⊢
    rw [hset, InsertionMap.get_set_eq_some] at hrow'
    rcases hrow' with ⟨-, rfl⟩ | ⟨-, hrow'⟩
    · exact Or.inr ⟨hid, rfl⟩
    · exact Or.inl hrow'

theorem DrawStep.namespaced {a b : Storage} (hstep : DrawStep Γ n a b) (h : a.Namespaced Γ n) :
    b.Namespaced Γ (n + 1) := by
  obtain ⟨ns, hrows⟩ := hstep.identityRows
  refine h.of_rows (Nat.le_succ n) (hstep.fresh h.fresh) (hstep.lineage h.fresh h.lineage) ns
    (fun key row' hrow' => ?_)
  rcases hrows key row' hrow' with hrow | ⟨hid, hns⟩
  · exact Or.inl ⟨row', hrow, .refl row'⟩
  · exact Or.inr ⟨Nat.lt_succ_self n, hid, hns⟩

theorem DrawStep.hasIdentity {a b : Storage} (hstep : DrawStep Γ n a b) (hfresh : a.FreshFrom Γ n)
    {ns backendId : String} (h : a.HasIdentity ns backendId) : b.HasIdentity ns backendId := by
  rcases hstep.identities with hsame | ⟨new, hid, -, hset⟩
  · exact h.of_eq hsame
  · obtain ⟨key, row, hrow, hid', hns⟩ := h
    refine ⟨key, row, ?_, hid', hns⟩
    have hne : key ≠ boundIdentityKey (Γ.backendIds.draw n) := by
      rintro rfl
      rw [(hfresh n le_rfl).2] at hrow
      cases hrow
    unfold identity at hrow ⊢
    rw [hset, InsertionMap.get_set_of_ne hne]
    exact hrow

/-- A registration keeps every identity what it is, and may make one of the hello's namespace. -/
theorem registeredStore_rows (now : Nat) (credential : CredentialRecord) (hello : PeerHello) (st : Storage) (key : String)
    (row' : BackendIdentity) (hrow' : (Gateway.registeredStore Γ n now credential hello st).identity key = some row') :
    (∃ row, st.identity key = some row ∧ SameIdentity row row') ∨
      row'.backendId = Γ.backendIds.draw n ∧ row'.ns = hello.ns := by
  rw [registeredStore_identity, Option.map_eq_some_iff] at hrow'
  obtain ⟨row, hrow, rfl⟩ := hrow'
  obtain ⟨hid, hns⟩ := touchedRow_same now
    (Gateway.resolveBackendIdentity (Γ.backendIds.draw n) now credential hello st).1
    (some (Gateway.rootCredential credential)) hello.identity.name row
  rcases resolveBackendIdentity_cases (Γ.backendIds.draw n) now credential hello st with ⟨b, -, he⟩ | ⟨-, he⟩
  · rw [he] at hrow hid hns
    rw [he]
    exact Or.inl ⟨row, hrow, hid, hns⟩
  · rcases getOrCreate_cases (Γ.backendIds.draw n) now (helloComponents hello) hello.identity.name st with
      ⟨row0, hrow0, hg⟩ | ⟨hkey, new, hnew, hnewns, hg⟩
    · rw [he, hg] at hrow hid hns
      rw [he, hg]
      unfold identity at hrow
      dsimp only at hrow
      rw [InsertionMap.get_modify] at hrow
      split at hrow
      · obtain ⟨row1, hrow1, rfl⟩ := Option.map_eq_some_iff.mp hrow
        have hrenamed : (renameIdentity hello.identity.name now row1).ns = row1.ns := by
          unfold renameIdentity
          split
          · split <;> rfl
          · rfl
        exact Or.inl ⟨row1, hrow1, hid.trans (renameIdentity_backendId _ _ row1), hns.trans hrenamed⟩
      · exact Or.inl ⟨row, hrow, hid, hns⟩
    · rw [he, hg] at hrow hid hns
      rw [he, hg]
      rcases InsertionMap.get_set_eq_some.mp hrow with ⟨-, rfl⟩ | ⟨-, hrow⟩
      · exact Or.inr ⟨hid.trans hnew, hns.trans hnewns⟩
      · exact Or.inl ⟨row, hrow, hid, hns⟩

theorem Namespaced.register {st : Storage} (h : st.Namespaced Γ n) (now : Nat) (credential : CredentialRecord)
    (hello : PeerHello) : (Gateway.registeredStore Γ n now credential hello st).Namespaced Γ (n + 1) := by
  refine h.of_rows (Nat.le_succ n) ((h.fresh.register now credential hello).mono (Nat.le_succ n))
    (h.lineage.register h.fresh now credential hello) hello.ns (fun key row' hrow' => ?_)
  rcases registeredStore_rows now credential hello st key row' hrow' with hrow | ⟨hid, hns⟩
  · exact Or.inl hrow
  · exact Or.inr ⟨Nat.lt_succ_self n, hid, hns⟩

theorem registeredStore_hasIdentity {st : Storage} (hfresh : st.FreshFrom Γ n) (now : Nat) (credential : CredentialRecord)
    (hello : PeerHello) {ns backendId : String} (h : st.HasIdentity ns backendId) :
    (Gateway.registeredStore Γ n now credential hello st).HasIdentity ns backendId := by
  obtain ⟨key, row, hrow, hid, hns⟩ := h
  obtain ⟨row', hrow', hid', hns'⟩ := registeredStore_kept hfresh now credential hello hrow
  exact ⟨key, row', hrow', hid'.trans hid, hns'.trans hns⟩

theorem Namespaced.delete {st : Storage} (h : st.Namespaced Γ n) {backendId : String}
    (hbound : st.credentials.values.any (Gateway.boundToBackend backendId) = false) :
    (st.deleteBackendIdentity backendId).Namespaced Γ n := by
  refine h.of_rows le_rfl (h.fresh.delete backendId) (h.lineage.delete hbound) "" (fun key row hrow => Or.inl ?_)
  exact ⟨row, (InsertionMap.get_filter_eq_some.mp hrow).1, .refl row⟩

/-- Deleting an identity leaves the others. -/
theorem HasIdentity.undeleted {st : Storage} {ns b : String} (h : st.HasIdentity ns b) {backendId : String}
    (hne : b ≠ backendId) : (st.deleteBackendIdentity backendId).HasIdentity ns b := by
  obtain ⟨key, row, hrow, hid, hns⟩ := h
  refine ⟨key, row, InsertionMap.get_filter_eq_some.mpr ⟨hrow, ?_⟩, hid, hns⟩
  rw [hid]
  simpa using hne

/-- Every run keeps the rows of a backend in one namespace. -/
theorem namespaced_run {storage : Storage} (h : storage.Namespaced Γ 0) (es : List Event) :
    ((gateway Γ storage).run es).storage.Namespaced Γ ((gateway Γ storage).run es).drawn :=
  store_run (I := Namespaced Γ) h (fun _ _ _ hstep h => hstep.namespaced h) (fun _ _ _ hstep h => hstep.namespaced h)
    (fun _ _ h => h.later) (fun _ now credential hello _ h => h.register now credential hello)
    (fun _ _ _ hbound h => h.delete hbound) es

end Storage

namespace Gateway

open Storage

/-! ## Presences -/

/-- A legacy hello is let register under the row of another namespace. -/
def ResolvesForeign (Γ : Ctx) (s : Gateway) (e : Event) : Prop :=
  ∃ ws conn hello credential row, s.helloOf Γ e = some (ws, conn, hello) ∧ s.admittedAs Γ hello = some credential ∧
    isBackendHello hello = true ∧ credential.backendId = none ∧
    s.storage.identity (helloComponents hello).key = some row ∧ row.ns ≠ hello.ns

/-- Every backend in the registry has an identity of the namespace that it is present in. -/
def Attested (s : Gateway) : Prop :=
  ∀ b item, s.state.registry.get b = some item → item.backendId = b ∧ s.storage.HasIdentity item.ns b

/-- The identity that a hello registers under is of the hello's namespace. -/
theorem registeredStore_registrant {st : Storage} (h : st.FreshFrom Γ n) (now : Nat) {credential : CredentialRecord}
    {hello : PeerHello} (hbound : ∀ b, credential.backendId = some b → st.HasIdentity hello.ns b)
    (hlegacy : credential.backendId = none → ∀ row, st.identity (helloComponents hello).key = some row → row.ns = hello.ns) :
    (registeredStore Γ n now credential hello st).HasIdentity hello.ns
      (resolveBackendIdentity (Γ.backendIds.draw n) now credential hello st).1 := by
  rcases resolveBackendIdentity_cases (Γ.backendIds.draw n) now credential hello st with ⟨b, hb, he⟩ | ⟨hnone, he⟩
  · rw [he]
    exact registeredStore_hasIdentity h now credential hello (hbound b hb)
  · rcases getOrCreate_cases (Γ.backendIds.draw n) now (helloComponents hello) hello.identity.name st with
      ⟨row, hrow, hg⟩ | ⟨hkey, new, hid, hns, hg⟩
    · rw [he, hg]
      exact registeredStore_hasIdentity h now credential hello ⟨_, row, hrow, rfl, hlegacy hnone row hrow⟩
    · obtain ⟨hid', hns'⟩ := touchedRow_same now
        (resolveBackendIdentity (Γ.backendIds.draw n) now credential hello st).1
        (some (rootCredential credential)) hello.identity.name new
      refine ⟨(helloComponents hello).key, _, ?_, ?_, hns'.trans hns⟩
      · rw [registeredStore_identity, Option.map_eq_some_iff]
        refine ⟨new, ?_, rfl⟩
        rw [he, hg]
        exact InsertionMap.get_set_self _ _ _
      · rw [hid', hid, he, hg]

theorem turn_hasIdentity {a b : Storage} (h : Turn Γ n a b) (hfresh : a.FreshFrom Γ n) {ns backendId : String}
    (hid : a.HasIdentity ns backendId) : b.HasIdentity ns backendId := by
  obtain ⟨c, d, hc, hd, hb⟩ := h
  obtain ⟨hcfresh, hcid⟩ := hc.invariant (I := fun st => st.FreshFrom Γ n ∧ st.HasIdentity ns backendId)
    (fun _ _ hstep h => ⟨hstep.fresh h.1, hstep.hasIdentity h.2⟩) ⟨hfresh, hid⟩
  have hdid : d.HasIdentity ns backendId := by
    rcases hd with rfl | hd
    · exact hcid
    · exact hd.hasIdentity hcfresh hcid
  exact hb.invariant (fun _ _ hstep h => hstep.hasIdentity h) hdid

theorem deletable_offline {s : Gateway} {backendId : String} (h : s.deletable backendId = true) :
    s.state.registry.has backendId = false := by
  unfold deletable at h
  rw [Option.any_eq_true] at h
  obtain ⟨identity, -, h⟩ := h
  simp only [Bool.and_eq_true, Bool.not_eq_true'] at h
  exact h.1.1

/-- What happens besides hellos takes backends out of the registry, and no identity of one that stays. -/
theorem Attested.handle {s : Gateway} (h : s.Attested) (ho : s.Owned Γ) (hstore : s.storage.Namespaced Γ s.drawn)
    {e : Event} (hh : s.helloOf Γ e = none) : (s.handle Γ e).Attested := by
  intro b item hitem
  obtain ⟨item0, hitem0, lastSeenAt, rfl⟩ := (handle_keeps ho.1 hh).registry b item hitem
  obtain ⟨hkey, hid⟩ := h b item0 hitem0
  refine ⟨hkey, ?_⟩
  change (s.handle Γ e).storage.HasIdentity item0.ns b
  rcases hd : e.deletion with _ | backendId
  · exact turn_hasIdentity (handle_store hh hd) hstore.fresh hid
  · rw [handle_deletion hd, deleteBackendRoute_store]
    split
    · rename_i hdeletable
      refine hid.undeleted ?_
      rintro rfl
      have hoffline := deletable_offline hdeletable
      rw [InsertionMap.has, hitem0] at hoffline
      cases hoffline
    · exact hid

/-- A hello puts at most its own backend in the registry. -/
theorem Attested.greet {s : Gateway} (h : s.Attested) (ho : s.Owned Γ) (hstore : s.storage.Namespaced Γ s.drawn)
    {e : Event} {ws : SocketId} {conn : ControlConn} {hello : PeerHello} (hh : s.helloOf Γ e = some (ws, conn, hello))
    (hno : ¬ s.ResolvesForeign Γ e) : (s.greet Γ ws conn hello).Attested := by
  have hused := resolveToken_store (Γ := Γ) hello.gatewaySecret s
  have hgreeted := greet_store (Γ := Γ) ws conn hello s
  have hkept {ns b : String} (hid : s.storage.HasIdentity ns b) :
      (s.resolveToken Γ hello.gatewaySecret).2.storage.HasIdentity ns b :=
    hused.invariant (fun _ _ hstep h => hstep.hasIdentity h) hid
  have hregistry {u : Gateway} (hk : s.ControlKeeps u) {b : String} {item : BackendPresence}
      (hi : u.state.registry.get b = some item) : item.backendId = b ∧ s.storage.HasIdentity item.ns b := by
    obtain ⟨item0, hitem0, lastSeenAt, rfl⟩ := hk.registry b item hi
    exact h b item0 hitem0
  rcases greet_control (Γ := Γ) ws conn hello s with ⟨hnone, ht, -⟩ | ⟨u, credential, hadmitted, ht, he, hu⟩
  · intro b item hitem
    rw [hgreeted, hnone]
    exact ⟨(hregistry ht.keeps hitem).1, hkept (hregistry ht.keeps hitem).2⟩
  · rw [hadmitted] at hgreeted
    dsimp only at hgreeted
    have howned : u.Ownership := ho.1.turns ht
    have hfresh : u.FreshSessions Γ := FreshSessions.turns ho.2 ht
    have husedfresh : (s.resolveToken Γ hello.gatewaySecret).2.storage.FreshFrom Γ s.drawn :=
      hused.invariant (fun _ _ hstep h => hstep.fresh h) hstore.fresh
    intro b item hitem
    rw [hgreeted]
    rw [he] at hitem
    have hitem : (u.openSession Γ ws credential hello).state.registry.get b = some item := hitem
    rcases openSession_cases howned hfresh ws credential hello with ⟨hclient, ho'⟩ | ⟨hbackend, v, storage, b', grant, hb', -, hr, ho'⟩
    · rw [ho', (addSession_tables _ _ _).1.1] at hitem
      rw [hclient, if_neg Bool.false_ne_true]
      exact ⟨(hregistry ht.keeps hitem).1, hkept (hregistry ht.keeps hitem).2⟩
    · rw [ho', (addSession_tables _ _ _).1.1] at hitem
      have hitem : v.state.registry.get b = some item := hitem
      obtain ⟨presence, ⟨-, hid⟩, hns, hget⟩ := hr.registry
      rw [hget] at hitem
      rw [hbackend, if_pos rfl]
      split at hitem
      · rename_i hb
        obtain rfl := Option.some.inj hitem
        refine ⟨hid.trans hb.symm, ?_⟩
        rw [hns]
        have hunow : u.now = s.now := by
          rw [hu]
          change (s.resolveToken Γ hello.gatewaySecret).2.now = _
          unfold resolveToken
          split <;> rfl
        have hresolved : b = (resolveBackendIdentity (Γ.backendIds.draw s.drawn) s.now credential hello
            (s.resolveToken Γ hello.gatewaySecret).2.storage).1 := by
          rw [hb, hb', ht.drawn, hunow, hu]
          rfl
        rw [hresolved]
        refine registeredStore_registrant husedfresh s.now (fun b hbound => ?_) (fun hnone row hrow => ?_)
        · obtain ⟨-, hrevoked, hrow⟩ := admittedAs_row hstore.lineage.keyed hadmitted
          have hlineage := hused.invariant (fun _ _ hstep h => hstep.lineage h) hstore.lineage
          have htype : credential.type ≠ .device := by
            intro htype
            have hdevice := hlineage.device _ _ hrow htype
            have hdevice : credential.backendId = none := hdevice
            rw [hbound] at hdevice
            cases hdevice
          have hsame : hello.ns = credential.ns := by
            have hadmit := (Option.filter_eq_some_iff.mp hadmitted).2
            by_contra hne
            unfold refuseHello at hadmit
            rw [if_pos (Ne.symm hne)] at hadmit
            cases hadmit
          rw [hsame]
          exact hlineage.identity _ { credential with lastUsedAt := some s.now } b hrow htype hrevoked hbound
        · by_contra hne
          refine hno ⟨ws, conn, hello, credential, row, hh, hadmitted, hbackend, hnone, ?_, hne⟩
          unfold Storage.identity at hrow ⊢
          rwa [resolveToken_identities] at hrow
      · obtain ⟨hkey, hid⟩ := hregistry ht.keeps hitem
        exact ⟨hkey, registeredStore_hasIdentity husedfresh s.now credential hello (hkept hid)⟩

end Gateway

/-! ## Runs -/

/-- While no hello resolves to a row of another namespace, every run leaves the registry attested. -/
theorem attested_run {storage : Storage} (h : storage.Namespaced Γ 0) (es : List Event)
    (hmeets : (gateway Γ storage).Meets (fun s e => ¬ s.ResolvesForeign Γ e) es) :
    ((gateway Γ storage).run es).Attested := by
  induction es using List.reverseRecOn with
  | nil => exact fun b item hitem => (nomatch hitem)
  | append_singleton es e ih =>
    obtain ⟨hmeets, hno⟩ := EventMachine.meets_snoc_iff.mp hmeets
    have ih := ih hmeets
    have howned := @owned_run Γ storage es
    have hstore := Storage.namespaced_run h es
    rw [EventMachine.run_snoc]
    generalize (gateway Γ storage).run es = s at ih hno howned hstore
    change (s.step Γ e).Attested
    rcases hrun : s.uncaught with _ | error
    · have hquiet : s.quiet.Owned Γ := ⟨howned.1.only rfl rfl rfl rfl, howned.2⟩
      rw [step_running hrun]
      rcases hh : s.quiet.helloOf Γ e with _ | ⟨ws, conn, hello⟩
      · exact Gateway.Attested.handle (s := s.quiet) ih hquiet hstore hh
      · rw [Gateway.handle_hello hh]
        refine Gateway.Attested.greet (s := s.quiet) ih hquiet hstore hh ?_
        rintro ⟨ws, conn, hello, credential, row, hh, hadmitted, hrest⟩
        rw [Gateway.helloOf_quiet] at hh
        rw [Gateway.admittedAs_quiet] at hadmitted
        exact hno ⟨ws, conn, hello, credential, row, hh, hadmitted, hrest⟩
    · rw [step_stopped hrun]
      exact ih

end ZclaudiaGateway
