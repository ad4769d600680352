import ZclaudiaGateway.Lemmas.Lineage

/-!
# Scopes

A registry broadcast shares one message among the peers of one namespace and scope, under a text of both. The text tells scopes
apart because a scope lists backend ids the gateway drew, so every peer gets what it would see by itself.
-/

namespace ZclaudiaGateway

/-- The id is no joined text: it is not empty and not the sign of a whole namespace, and it holds no separator. -/
structure PlainId (id : String) : Prop where
  nonempty : id ≠ ""
  star : id ≠ "*"
  comma : ',' ∉ id.toList
  separator : '\x1f' ∉ id.toList

/-- A scope of plain ids. -/
def PlainScope (scope : Option (List String)) : Prop := ∀ allowed, scope = some allowed → ∀ id ∈ allowed, PlainId id

theorem PlainScope.none : PlainScope none := fun _ h => (nomatch h)

/-! ## The text of a scope -/

/-- The scope's part of the key of a shared message. -/
def scopeText : Option (List String) → String
  | some allowed => ",".intercalate allowed
  | none => "*"

theorem scopeKey_eq (peer : PeerSession) :
    scopeKey peer = peer.ns ++ String.singleton '\x1f' ++ scopeText peer.allowedBackends := by
  unfold scopeKey scopeText
  cases peer.allowedBackends <;> rfl

theorem scopeText_separator {scope : Option (List String)} (h : PlainScope scope) : '\x1f' ∉ (scopeText scope).toList := by
  rcases scope with _ | allowed
  · decide
  · intro hmem
    rcases @JoinedText.mem_intercalate ',' _ _ hmem with hc | ⟨id, hid, hc⟩
    · exact absurd hc (by decide)
    · exact (h allowed rfl id hid).separator hc

/-- Ids that are not empty join to nothing only if there are none. -/
theorem intercalate_plain_nonempty {id : String} {rest : List String} (h : PlainId id) :
    ",".intercalate (id :: rest) ≠ "" := by
  intro he
  have hlist := congrArg String.toList he
  rw [String.toList_intercalate] at hlist
  have hnonempty : id.toList ≠ [] := fun hnil => h.nonempty (String.toList_injective hnil)
  rcases rest with _ | ⟨id', rest⟩
  · exact hnonempty (by simpa using hlist)
  · simp [List.intercalate_cons_cons] at hlist

/-- A list of plain ids is not read as a whole namespace. -/
theorem intercalate_plain_ne_star {allowed : List String} (h : ∀ id ∈ allowed, PlainId id) :
    ",".intercalate allowed ≠ "*" := by
  intro he
  have hlist := congrArg String.toList he
  rw [String.toList_intercalate] at hlist
  rcases allowed with _ | ⟨id, rest⟩
  · simp at hlist
  · rcases rest with _ | ⟨id', rest⟩
    · refine (h id (by simp)).star (String.toList_injective ?_)
      simpa using hlist
    · have hcomma : ',' ∈ "*".toList := by
        rw [← hlist]
        simp [List.intercalate_cons_cons]
      exact absurd hcomma (by decide)

theorem scopeText_injective {scope scope' : Option (List String)} (h : PlainScope scope) (h' : PlainScope scope')
    (he : scopeText scope = scopeText scope') : scope = scope' := by
  rcases scope with _ | allowed <;> rcases scope' with _ | allowed'
  · rfl
  · exact absurd he.symm (intercalate_plain_ne_star (h' allowed' rfl))
  · exact absurd he (intercalate_plain_ne_star (h allowed rfl))
  · rcases allowed with _ | ⟨id, rest⟩ <;> rcases allowed' with _ | ⟨id', rest'⟩
    · rfl
    · exact absurd he.symm (intercalate_plain_nonempty (h' _ rfl id' (by simp)))
    · exact absurd he (intercalate_plain_nonempty (h _ rfl id (by simp)))
    · have hlists := @JoinedText.intercalate_injective ',' _ _ (fun s hs => (h _ rfl s hs).comma)
        (fun s hs => (h' _ rfl s hs).comma) (by simp) (by simp) he
      rw [hlists]

/-- Peers share a message only if they have one namespace and one scope. -/
theorem scopeKey_injective {peer peer' : PeerSession} (h : PlainScope peer.allowedBackends)
    (h' : PlainScope peer'.allowedBackends) (he : scopeKey peer = scopeKey peer') :
    peer.ns = peer'.ns ∧ peer.allowedBackends = peer'.allowedBackends := by
  rw [scopeKey_eq, scopeKey_eq] at he
  obtain ⟨hns, htext⟩ := JoinedText.append_separator_injective (scopeText_separator h) (scopeText_separator h') he
  exact ⟨hns, scopeText_injective h h' htext⟩

theorem visibleRegistry_congr {peer peer' : PeerSession} (st : GatewayState) (hns : peer.ns = peer'.ns)
    (hscope : peer.allowedBackends = peer'.allowedBackends) : visibleRegistry st peer = visibleRegistry st peer' := by
  unfold visibleRegistry PeerSession.canReach
  rw [hns, hscope]

/-! ## Broadcasts -/

/-- The messages a broadcast has cached are what the peers that have their keys see. -/
def CachedScopes (st : GatewayState) (perScope : InsertionMap String (List BackendPresence)) : Prop :=
  ∀ key items, perScope.get key = some items →
    ∃ peer, PlainScope peer.allowedBackends ∧ key = scopeKey peer ∧ items = visibleRegistry st peer

theorem scopedSnapshot_eq {st : GatewayState} {peer : PeerSession} (hp : PlainScope peer.allowedBackends)
    {perScope : InsertionMap String (List BackendPresence)} (h : CachedScopes st perScope) :
    (scopedSnapshot st peer perScope).1 = visibleRegistry st peer ∧ CachedScopes st (scopedSnapshot st peer perScope).2 := by
  unfold scopedSnapshot
  split
  · rename_i items hget
    obtain ⟨peer', hp', hkey, hitems⟩ := h _ items hget
    obtain ⟨hns, hscope⟩ := scopeKey_injective hp hp' hkey
    exact ⟨hitems.trans (visibleRegistry_congr st hns hscope).symm, h⟩
  · refine ⟨rfl, fun key items hget => ?_⟩
    rcases InsertionMap.get_set_eq_some.mp hget with ⟨rfl, rfl⟩ | ⟨-, hget⟩
    · exact ⟨peer, hp, rfl, rfl⟩
    · exact h key items hget

/-- A broadcast sends every peer what it sees of the registry: sharing messages makes no difference. -/
theorem broadcastTo_eq {st : GatewayState} (peers : List PeerSession)
    (hplain : ∀ peer ∈ peers, PlainScope peer.allowedBackends) {perScope : InsertionMap String (List BackendPresence)}
    (h : CachedScopes st perScope) (net : Net) :
    broadcastTo st peers perScope net =
      peers.foldl (fun net peer => net.sendToWs peer.ws (.registrySnapshot (visibleRegistry st peer))) net := by
  induction peers generalizing perScope net with
  | nil => rfl
  | cons peer peers ih =>
    obtain ⟨hitems, hcached⟩ := scopedSnapshot_eq (hplain peer (by simp)) h
    unfold broadcastTo
    rcases hs : scopedSnapshot st peer perScope with ⟨items, perScope'⟩
    rw [hs] at hitems hcached
    dsimp only at hitems hcached ⊢
    rw [ih (fun peer' hp => hplain peer' (List.mem_cons_of_mem _ hp)) hcached, hitems, List.foldl_cons]

/-! ## The scopes in the store -/

namespace Storage

/-- Every identity has a plain id, and every credential a plain scope. -/
structure Plain (st : Storage) : Prop where
  identities : ∀ key row, st.identity key = some row → PlainId row.backendId
  scopes : ∀ id c, st.getCredential id = some c → PlainScope c.allowedBackends

theorem Plain.known {st : Storage} (h : st.Plain) {ns b : String} (hb : st.Known ns b) : PlainId b := by
  obtain ⟨key, row, hrow, rfl, -⟩ := hb.hasIdentity
  exact h.identities key row hrow

/-- Rows that keep their scopes, next to new ones with plain scopes, and identities that keep their ids. -/
theorem Plain.of_rows {st st' : Storage} (h : st.Plain)
    (hidentities : ∀ key row', st'.identity key = some row' →
      PlainId row'.backendId ∨ ∃ row, st.identity key = some row ∧ row'.backendId = row.backendId)
    (hrows : ∀ id c', st'.getCredential id = some c' →
      PlainScope c'.allowedBackends ∨ ∃ c, st.getCredential id = some c ∧ c'.allowedBackends = c.allowedBackends) :
    st'.Plain := by
  refine ⟨fun key row' hrow' => ?_, fun id c' hc' => ?_⟩
  · rcases hidentities key row' hrow' with hplain | ⟨row, hrow, hid⟩
    · exact hplain
    · rw [hid]
      exact h.identities key row hrow
  · rcases hrows id c' hc' with hplain | ⟨c, hc, hscope⟩
    · exact hplain
    · rw [hscope]
      exact h.scopes id c hc

/-- Rows changed in place, each with the scope it had. -/
theorem Plain.of_mapped {st st' : Storage} (h : st.Plain) (hidentities : st'.backendIdentities = st.backendIdentities)
    {f : String → CredentialRecord → CredentialRecord} (hf : ∀ id c, (f id c).allowedBackends = c.allowedBackends)
    (hrows : ∀ id, st'.getCredential id = (st.getCredential id).map (f id)) : st'.Plain := by
  refine h.of_rows (fun key row hrow => Or.inr ⟨row, ?_, rfl⟩) (fun id c' hc' => ?_)
  · unfold identity at hrow ⊢
    rwa [← hidentities]
  · rw [hrows, Option.map_eq_some_iff] at hc'
    obtain ⟨c, hc, rfl⟩ := hc'
    exact Or.inr ⟨c, hc, hf id c⟩

theorem QuietStep.plain {a b : Storage} (hstep : QuietStep a b) (h : a.Plain) : b.Plain := by
  cases hstep with
  | used hash now token =>
    unfold findValidCredential
    split
    · exact h
    · split
      · rename_i record _ _
        refine h.of_mapped (f := fun id c => if id = record.id then { c with lastUsedAt := some now } else c) rfl ?_ ?_
        · intro id c
          split <;> rfl
        · exact fun id => InsertionMap.get_mapValues _ _ id
      · exact h
  | epoch => exact ⟨h.identities, h.scopes⟩
  | seen now backendId =>
    refine ⟨fun key row hrow => ?_, h.scopes⟩
    rw [touchBackendIdentity_identity, Option.map_eq_some_iff] at hrow
    obtain ⟨row0, hrow0, rfl⟩ := hrow
    rw [(touchedRow_same now backendId none none row0).1]
    exact h.identities key row0 hrow0
  | @bind _ id backendId =>
    unfold bindBackendCredential
    split
    · refine h.of_mapped (f := fun _ c =>
        if (c.id = id ∨ c.parentId = some id) ∧ c.revokedAt = none then { c with backendId := some backendId } else c)
        rfl ?_ ?_
      · intro id c
        split <;> rfl
      · exact fun id => InsertionMap.get_mapValues _ _ id
    · exact h
  | @scope _ id c scope hc hknown =>
    refine h.of_rows (fun key row hrow => Or.inr ⟨row, hrow, rfl⟩) (fun id' c' hc' => ?_)
    unfold getCredential setAllowedBackends at hc'
    rw [InsertionMap.get_modify] at hc'
    split at hc'
    · obtain ⟨c0, hc0, rfl⟩ := Option.map_eq_some_iff.mp hc'
      split
      · exact Or.inl fun allowed hallowed b hb => h.known (hknown allowed hallowed b hb)
      · exact Or.inr ⟨c0, hc0, rfl⟩
    · exact Or.inr ⟨c', hc', rfl⟩
  | revoke now id =>
    obtain ⟨hidentities, hsame | hrows⟩ := revokeCredential_cases now id a
    · refine h.of_mapped (f := fun _ c => c) hidentities (fun _ _ => rfl) (fun id' => ?_)
      unfold getCredential
      rw [hsame]
      simp
    · refine h.of_mapped hidentities (fun id' c => ?_) hrows
      unfold revokedRow
      split <;> rfl
  | purge ids =>
    refine ⟨h.identities, fun id c hc => ?_⟩
    exact h.scopes id c (InsertionMap.get_filter_eq_some.mp hc).1

variable {Γ : Ctx} {n : Nat}

theorem Plain.create {st : Storage} (h : st.Plain) (hids : ∀ m, PlainId (Γ.backendIds.draw m)) (now : Nat)
    {input : CredentialInput} (hinput : PlainScope input.allowedBackends) :
    (st.createCredential Γ.hashCredentialToken
      { id := Γ.credentialIds.draw n, secret := Γ.secrets.draw n, backendId := Γ.backendIds.draw n } now input).2.2.Plain := by
  refine h.of_rows (fun key row hrow => ?_) (fun id c hc => ?_)
  · unfold createCredential at hrow
    dsimp only at hrow
    split at hrow
    · rcases InsertionMap.get_set_eq_some.mp hrow with ⟨-, rfl⟩ | ⟨-, hrow⟩
      · exact Or.inl (hids n)
      · exact Or.inr ⟨row, hrow, rfl⟩
    · exact Or.inr ⟨row, hrow, rfl⟩
  · unfold getCredential at hc
    rw [createCredential_credentials] at hc
    rcases InsertionMap.get_set_eq_some.mp hc with ⟨-, rfl⟩ | ⟨-, hc⟩
    · refine Or.inl ?_
      change PlainScope (if input.type = .device then input.allowedBackends else none)
      split
      · exact hinput
      · exact .none
    · exact Or.inr ⟨c, hc, rfl⟩

theorem DrawStep.plain {a b : Storage} (hids : ∀ m, PlainId (Γ.backendIds.draw m)) (hstep : DrawStep Γ n a b)
    (h : a.Plain) : b.Plain := by
  cases hstep with
  | issue now hinput =>
    exact h.create hids now fun allowed hallowed id hid => h.known ((hinput.scope allowed hallowed).2 id hid)
  | @exchange now token credential ttlMs _ _ =>
    have h' := (QuietStep.used Γ.hashCredentialToken now token a).plain h
    unfold exchangeAccessCredential
    split
    · exact h'.create hids now .none
    · refine h'.of_rows (fun key row hrow => Or.inr ⟨row, hrow, rfl⟩) (fun id c hc => ?_)
      unfold getCredential at hc
      dsimp only at hc
      rw [InsertionMap.get_modify] at hc
      split at hc
      · obtain ⟨c0, hc0, rfl⟩ := Option.map_eq_some_iff.mp hc
        exact Or.inr ⟨c0, hc0, rfl⟩
      · exact Or.inr ⟨c, hc, rfl⟩

theorem Plain.register {st : Storage} (h : st.Plain) (hids : ∀ m, PlainId (Γ.backendIds.draw m)) (now : Nat)
    (credential : CredentialRecord) (hello : PeerHello) :
    (Gateway.registeredStore Γ n now credential hello st).Plain := by
  refine h.of_rows (fun key row' hrow' => ?_) (fun id c hc => ?_)
  · rw [registeredStore_identity, Option.map_eq_some_iff] at hrow'
    obtain ⟨row, hrow, rfl⟩ := hrow'
    rw [(touchedRow_same _ _ _ _ row).1]
    rcases resolveBackendIdentity_cases (Γ.backendIds.draw n) now credential hello st with ⟨b, -, he⟩ | ⟨-, he⟩
    · rw [he] at hrow
      exact Or.inr ⟨row, hrow, rfl⟩
    · rw [he] at hrow
      rcases getOrCreate_cases (Γ.backendIds.draw n) now (helloComponents hello) hello.identity.name st with
        ⟨row0, hrow0, he⟩ | ⟨-, row0, hid, -, he⟩
      · rw [he] at hrow
        unfold identity at hrow
        dsimp only at hrow
        rw [InsertionMap.get_modify] at hrow
        split at hrow
        · obtain ⟨row1, hrow1, rfl⟩ := Option.map_eq_some_iff.mp hrow
          exact Or.inr ⟨row1, hrow1, renameIdentity_backendId _ _ row1⟩
        · exact Or.inr ⟨row, hrow, rfl⟩
      · rw [he] at hrow
        rcases InsertionMap.get_set_eq_some.mp hrow with ⟨-, rfl⟩ | ⟨-, hrow⟩
        · rw [hid]
          exact Or.inl (hids n)
        · exact Or.inr ⟨row, hrow, rfl⟩
  · unfold getCredential at hc ⊢
    rw [registeredStore_credentials] at hc
    exact Or.inr ⟨c, hc, rfl⟩

/-- Scopes stay plain over every run. -/
theorem plain_run {storage : Storage} (hids : ∀ m, PlainId (Γ.backendIds.draw m)) (h : storage.Plain) (es : List Event) :
    ((gateway Γ storage).run es).storage.Plain :=
  store_run (I := fun _ st => st.Plain) h (fun _ _ _ hstep h => hstep.plain h) (fun _ _ _ hstep h => hstep.plain hids h)
    (fun _ _ h => h) (fun _ now credential hello _ h => h.register hids now credential hello)
    (fun _ _ _ _ h => ⟨fun key row hrow => h.identities key row (InsertionMap.get_filter_eq_some.mp hrow).1,
      h.scopes⟩) es

theorem findValidCredential_stored {st : Storage} {hash : String → String} {now : Nat} {token : String}
    {c : CredentialRecord} (h : (st.findValidCredential hash now token).1 = some c) :
    ∃ id, st.getCredential id = some c := by
  unfold findValidCredential at h
  split at h
  · cases h
  · rename_i record hrecord
    split at h
    · obtain rfl : record = c := Option.some.inj h
      exact InsertionMap.mem_values_iff.mp (List.mem_of_find?_eq_some hrecord)
    · cases h

end Storage

/-- A credential that admits a hello is in the store. -/
theorem admittedAs_stored {Γ : Ctx} {s : Gateway} {hello : PeerHello} {c : CredentialRecord}
    (h : s.admittedAs Γ hello = some c) : ∃ id, s.storage.getCredential id = some c := by
  have hfound := (Option.filter_eq_some_iff.mp h).1
  unfold Gateway.resolveToken at hfound
  split at hfound
  · exact Storage.findValidCredential_stored hfound
  · cases hfound

end ZclaudiaGateway
