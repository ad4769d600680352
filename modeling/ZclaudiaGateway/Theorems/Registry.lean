import ZclaudiaGateway.Lemmas.Buckets
import ZclaudiaGateway.Lemmas.Presence
import ZclaudiaGateway.Theorems.Isolation

/-!
# Views of the registry

A session is told of the registry by broadcasts that share messages, a pairing client by the discovery route. Both show what
the session or the credential sees of the registry itself.
-/

namespace ZclaudiaGateway

open Gateway

/-! ## Broadcasts -/

/-- A broadcast that shares nothing: each session is sent what it sees of the registry. -/
def directBroadcast (st : GatewayState) (peers : List PeerSession) (net : Net) : Net :=
  peers.foldl (fun net peer => net.sendToWs peer.ws (.registrySnapshot (visibleRegistry st peer))) net

/-- Some run has opened a session of the peer's namespace and scope. -/
def Opened (Γ : Ctx) (storage : Storage) (peer : PeerSession) : Prop :=
  ∃ es p session, ((gateway Γ storage).run es).state.peers.get p = some session ∧ session.ns = peer.ns ∧
    session.allowedBackends = peer.allowedBackends

section Broadcast

variable {Γ : Ctx} {storage : Storage}

theorem Opened.plain (hids : ∀ m, PlainId (Γ.backendIds.draw m)) (hstorage : storage.Plain) {peer : PeerSession}
    (h : Opened Γ storage peer) : PlainScope peer.allowedBackends := by
  obtain ⟨es, p, session, hp, -, hscope⟩ := h
  have hplain := ((reach_run hids hstorage es).admitted p session hp).1
  rwa [hscope] at hplain

end Broadcast

/-- A broadcast sends each session what it sees of the registry, in every reachable state as in any other state with sessions
like those of some run; and whatever the registry is, two such sessions that share a message see the same of it. -/
theorem broadcast_direct {Γ : Ctx} {storage : Storage} (hids : ∀ m, PlainId (Γ.backendIds.draw m))
    (hstorage : storage.Plain) :
    (∀ es exclude, ((gateway Γ storage).run es).broadcastRegistrySnapshot exclude =
      ((gateway Γ storage).run es).onNet (directBroadcast ((gateway Γ storage).run es).state
        (((gateway Γ storage).run es).state.peers.values.filter (fun peer => some peer.peerSessionId ≠ exclude)))) ∧
    (∀ st peers net, (∀ peer ∈ peers, Opened Γ storage peer) →
      broadcastTo st peers .empty net = directBroadcast st peers net) ∧
    ∀ st peer peer', Opened Γ storage peer → Opened Γ storage peer' → scopeKey peer = scopeKey peer' →
      visibleRegistry st peer = visibleRegistry st peer' := by
  have hdirect (st : GatewayState) (peers : List PeerSession) (net : Net) (hpeers : ∀ peer ∈ peers, Opened Γ storage peer) :
      broadcastTo st peers .empty net = directBroadcast st peers net := by
    have hcached : CachedScopes st .empty := fun key items hk => (nomatch hk)
    exact broadcastTo_eq peers (fun peer hp => (hpeers peer hp).plain hids hstorage) hcached net
  refine ⟨fun es exclude => ?_, hdirect, fun st peer peer' hp hp' hkey => ?_⟩
  · unfold broadcastRegistrySnapshot onNet
    rw [hdirect]
    intro peer hp
    obtain ⟨p, hp⟩ := InsertionMap.mem_values_iff.mp (List.mem_filter.mp hp).1
    exact ⟨es, p, peer, hp, rfl, rfl⟩
  · obtain ⟨hns, hscope⟩ := scopeKey_injective (hp.plain hids hstorage) (hp'.plain hids hstorage) hkey
    exact visibleRegistry_congr st hns hscope

/-- A backend and a device are connected, both of which a broadcast reaches. -/
theorem broadcast_direct_sample :
    ((gateway sampleVisitCtx sampleStorage).run (sampleVisit ++ [.text 2 (sampleHello "zgd_device" false)])).broadcastRegistrySnapshot
        none =
      ((gateway sampleVisitCtx sampleStorage).run (sampleVisit ++ [.text 2 (sampleHello "zgd_device" false)])).onNet
        (directBroadcast
          ((gateway sampleVisitCtx sampleStorage).run (sampleVisit ++ [.text 2 (sampleHello "zgd_device" false)])).state
          (((gateway sampleVisitCtx sampleStorage).run
            (sampleVisit ++ [.text 2 (sampleHello "zgd_device" false)])).state.peers.values.filter
              (fun peer => some peer.peerSessionId ≠ none))) :=
  (broadcast_direct (IdSource.letters_plain 'b' (by decide) (by decide) (by decide)) sampleStorage_plain).1 _ none

/-! ## Discovery -/

section Discovery

variable {Γ : Ctx} {s : Gateway}

/-- What discovery lists are the rows in the credential's scope. -/
theorem discoverBackends_perm (credential : CredentialRecord) (s : Gateway) :
    ((s.discoverBackends credential).map (·.backendId)).Perm
      ((s.storage.backendIdentities.values.filter (fun row =>
        canReach credential.ns credential.allowedBackends row.ns row.backendId)).map (·.backendId)) := by
  unfold discoverBackends Storage.listBackendIdentities
  refine ((List.mergeSort_perm _ _).map _).trans ?_
  rw [List.map_map]
  exact ((List.mergeSort_perm _ _).filter _).map _

/-- A backend is listed, as online or not, if there is a row of it in the credential's scope. -/
theorem mem_discoverBackends {credential : CredentialRecord} {b : String} {online : Bool} :
    (∃ item ∈ s.discoverBackends credential, item.backendId = b ∧ item.online = online) ↔
      (s.state.registry.get b).isSome = online ∧ ∃ key row, s.storage.identity key = some row ∧ row.backendId = b ∧
        canReach credential.ns credential.allowedBackends row.ns b = true := by
  unfold discoverBackends Storage.listBackendIdentities
  simp only [List.mem_mergeSort, List.mem_map, List.mem_filter]
  constructor
  · rintro ⟨_, ⟨row, ⟨hrow, hreach⟩, rfl⟩, rfl, rfl⟩
    obtain ⟨key, hkey⟩ := InsertionMap.mem_values_iff.mp hrow
    exact ⟨rfl, key, row, hkey, rfl, hreach⟩
  · rintro ⟨rfl, key, row, hkey, rfl, hreach⟩
    exact ⟨_, ⟨row, ⟨InsertionMap.mem_values_iff.mpr ⟨key, hkey⟩, hreach⟩, rfl⟩, rfl, rfl⟩

theorem mem_visibleRegistry {peer : PeerSession} {item : BackendPresence} :
    item ∈ visibleRegistry s.state peer ↔
      item ∈ s.state.registry.values ∧ canReach peer.ns peer.allowedBackends item.ns item.backendId = true := by
  unfold visibleRegistry GatewayState.getRegistrySnapshot PeerSession.canReach
  rw [List.mem_filter, List.mem_filter]
  constructor
  · rintro ⟨⟨hitem, -⟩, hreach⟩
    exact ⟨hitem, hreach⟩
  · rintro ⟨hitem, hreach⟩
    refine ⟨⟨hitem, ?_⟩, hreach⟩
    unfold canReach at hreach
    rw [Bool.and_eq_true] at hreach
    exact hreach.1

theorem discoveryRoute_answer {credential : CredentialRecord} {authorization : Option String}
    (h : s.bearer Γ authorization = some credential) (ip : String) :
    (s.discoveryRoute Γ ip authorization).net.outbox =
      s.net.outbox ++ [.reply { status := 200, body := .discovered (s.discoverBackends credential) }] := by
  unfold discoveryRoute
  unfold bearer at h
  rcases hb : bearerToken authorization with _ | token
  · rw [hb] at h
    cases h
  · rw [hb, Option.bind_some] at h
    have hidentities := resolveToken_identities (Γ := Γ) token s
    have hstate : (s.resolveToken Γ token).2.state = s.state ∧ (s.resolveToken Γ token).2.net = s.net := by
      unfold resolveToken
      split <;> exact ⟨rfl, rfl⟩
    dsimp only
    generalize s.resolveToken Γ token = resolved at h hidentities hstate
    obtain ⟨found, u⟩ := resolved
    dsimp only at h hidentities hstate
    subst h
    have hlisted : u.discoverBackends credential = s.discoverBackends credential := by
      unfold discoverBackends Storage.listBackendIdentities
      rw [hidentities, hstate.1]
    dsimp only
    rw [hlisted]
    change u.net.outbox ++ _ = _
    rw [hstate.2]

end Discovery

/-- In a run in which no legacy hello is let register under a row of another namespace, discovery lists the identities in a
credential's scope, and lists as online what a session of the credential's namespace and scope sees of the registry. -/
theorem discovery_agrees {Γ : Ctx} {storage : Storage} (hstorage : storage.Namespaced Γ 0) {es : List Event}
    (hmeets : (gateway Γ storage).Meets (fun s e => ¬ s.ResolvesForeign Γ e) es) (credential : CredentialRecord)
    {peer : PeerSession} (hns : peer.ns = credential.ns) (hscope : peer.allowedBackends = credential.allowedBackends) :
    let s := (gateway Γ storage).run es
    (∀ b, (∃ item ∈ s.discoverBackends credential, item.backendId = b ∧ item.online = true) ↔
      ∃ presence ∈ visibleRegistry s.state peer, presence.backendId = b) ∧
    ((s.discoverBackends credential).map (·.backendId)).Perm
      ((s.storage.backendIdentities.values.filter (fun row =>
        canReach credential.ns credential.allowedBackends row.ns row.backendId)).map (·.backendId)) ∧
    ∀ ip authorization, s.uncaught = none → s.bearer Γ authorization = some credential →
      ((gateway Γ storage).run (es ++ [.discovery ip authorization])).net.outbox =
        [.reply { status := 200, body := .discovered (s.discoverBackends credential) }] := by
  dsimp only
  have hattested := attested_run hstorage es hmeets
  have hone := (Storage.namespaced_run hstorage es).one
  simp only [EventMachine.run_snoc]
  generalize (gateway Γ storage).run es = s at hattested hone
  refine ⟨fun b => ?_, discoverBackends_perm credential s, fun ip authorization hup hbearer => ?_⟩
  · rw [mem_discoverBackends]
    simp only [mem_visibleRegistry, hns, hscope]
    constructor
    · rintro ⟨honline, key, row, hrow, rfl, hreach⟩
      obtain ⟨item, hitem⟩ := Option.isSome_iff_exists.mp honline
      obtain ⟨hid, key', row', hrow', hid', hns'⟩ := hattested _ item hitem
      refine ⟨item, ⟨InsertionMap.mem_values_iff.mpr ⟨_, hitem⟩, ?_⟩, hid⟩
      rw [hid, ← hns', hone key' row' key row hrow' hrow hid']
      exact hreach
    · rintro ⟨item, ⟨hitem, hreach⟩, rfl⟩
      obtain ⟨b, hb⟩ := InsertionMap.mem_values_iff.mp hitem
      obtain ⟨rfl, key, row, hrow, hid, hns'⟩ := hattested b item hb
      refine ⟨by rw [hb]; rfl, key, row, hrow, hid, ?_⟩
      rw [hns']
      exact hreach
  · change (s.step Γ (.discovery ip authorization)).net.outbox = _
    have hquiet : s.quiet.bearer Γ authorization = some credential := (bearer_quiet s authorization).trans hbearer
    unfold Gateway.step
    rw [hup, if_neg (by simp)]
    exact discoveryRoute_answer hquiet ip

/-- An identity row of a store before any run. -/
def sampleIdentity (backendId ns instanceId environment : String) : BackendIdentity :=
  { backendId, tenant := "", ns, instanceId, environment, name := "", createdAt := 0, updatedAt := 0,
    lastCredentialId := none, lastSeenAt := none }

/-- A backend `B` of the namespace `n`, whose instance identifier holds a separator, and a backend `C` of the namespace that is
joined of `n` and the first part of that identifier. The credential `bound` is `B`'s, and `legacy`, of the other namespace, is
bound to nothing yet. -/
def sampleJoined : Storage :=
  { credentials :=
      ((InsertionMap.empty.set "bound" (sampleCredential "bound" "zgb_bound" .backend (some "B"))).set "legacy"
        { sampleCredential "legacy" "zgb_legacy" .backend none with ns := "n\x1fx" })
    backendIdentities :=
      (InsertionMap.empty.set (backendIdentityKey "n" "x\x1fy" "prod") (sampleIdentity "B" "n" "x\x1fy" "prod")).set
        (boundIdentityKey "C") (sampleIdentity "C" "n\x1fx" "" "")
    maxEpoch := 0 }

/-- Repeated letters are no text with another letter in it. -/
theorem IdSource.letters_ne {c : Char} {s : String} (h : s.toList.any (fun d => d ≠ c) = true) (n : Nat) :
    (IdSource.letters c).draw n ≠ s := by
  rintro rfl
  simp [IdSource.letters] at h

theorem sampleJoined_rows {id : String} {c : CredentialRecord} (h : sampleJoined.getCredential id = some c) :
    id = "legacy" ∧ c = { sampleCredential "legacy" "zgb_legacy" .backend none with ns := "n\x1fx" } ∨
      id = "bound" ∧ c = sampleCredential "bound" "zgb_bound" .backend (some "B") := by
  rcases InsertionMap.get_set_eq_some.mp h with ⟨rfl, rfl⟩ | ⟨-, h⟩
  · exact Or.inl ⟨rfl, rfl⟩
  · rcases InsertionMap.get_set_eq_some.mp h with ⟨rfl, rfl⟩ | ⟨-, h⟩
    · exact Or.inr ⟨rfl, rfl⟩
    · cases h

theorem sampleJoined_identities {key : String} {row : BackendIdentity} (h : sampleJoined.identity key = some row) :
    key = boundIdentityKey "C" ∧ row = sampleIdentity "C" "n\x1fx" "" "" ∨
      key = backendIdentityKey "n" "x\x1fy" "prod" ∧ row = sampleIdentity "B" "n" "x\x1fy" "prod" := by
  rcases InsertionMap.get_set_eq_some.mp h with ⟨rfl, rfl⟩ | ⟨-, h⟩
  · exact Or.inl ⟨rfl, rfl⟩
  · rcases InsertionMap.get_set_eq_some.mp h with ⟨rfl, rfl⟩ | ⟨-, h⟩
    · exact Or.inr ⟨rfl, rfl⟩
    · cases h

theorem sampleJoined_lineage : sampleJoined.Lineage := by
  refine ⟨fun id c hc => ?_, fun id c hc htype => ?_, fun id c id' c' p hc _ htype => ?_, fun id c b hc _ _ hb => ?_,
    fun id c hc htype => ?_, fun id c hc _ => ?_, fun id c hc _ => ?_⟩
  · rcases sampleJoined_rows hc with ⟨rfl, rfl⟩ | ⟨rfl, rfl⟩ <;> rfl
  · rcases sampleJoined_rows hc with ⟨rfl, rfl⟩ | ⟨rfl, rfl⟩ <;> cases htype
  · rcases sampleJoined_rows hc with ⟨rfl, rfl⟩ | ⟨rfl, rfl⟩ <;> cases htype
  · rcases sampleJoined_rows hc with ⟨rfl, rfl⟩ | ⟨rfl, rfl⟩
    · cases hb
    · obtain rfl := Option.some.inj hb
      exact ⟨backendIdentityKey "n" "x\x1fy" "prod", sampleIdentity "B" "n" "x\x1fy" "prod", by decide, rfl, rfl⟩
  · rcases sampleJoined_rows hc with ⟨rfl, rfl⟩ | ⟨rfl, rfl⟩ <;> cases htype
  · rcases sampleJoined_rows hc with ⟨rfl, rfl⟩ | ⟨rfl, rfl⟩ <;> rfl
  · rcases sampleJoined_rows hc with ⟨rfl, rfl⟩ | ⟨rfl, rfl⟩ <;> rfl

theorem sampleJoined_namespaced {Γ : Ctx} (hcredentials : Γ.credentialIds = .letters 'i')
    (hbackends : Γ.backendIds = .letters 'b') : sampleJoined.Namespaced Γ 0 := by
  refine ⟨fun m _ => ⟨?_, ?_⟩, sampleJoined_lineage, fun key row hrow m _ => ?_, fun key row key' row' hrow hrow' hsame => ?_⟩
  · rw [hcredentials]
    rcases hc : sampleJoined.getCredential ((IdSource.letters 'i').draw m) with _ | c
    · rfl
    · rcases sampleJoined_rows hc with ⟨he, -⟩ | ⟨he, -⟩
      · exact absurd he (IdSource.letters_ne (by decide) m)
      · exact absurd he (IdSource.letters_ne (by decide) m)
  · rw [hbackends]
    rcases hr : sampleJoined.identity (boundIdentityKey ((IdSource.letters 'b').draw m)) with _ | row
    · rfl
    · rcases sampleJoined_identities hr with ⟨he, -⟩ | ⟨he, -⟩
      · exact absurd (boundIdentityKey_injective he) (IdSource.letters_ne (by decide) m)
      · exact absurd he.symm (key_ne_boundIdentityKey ⟨"n", "x\x1fy", "prod"⟩ _)
  · rw [hbackends]
    rcases sampleJoined_identities hrow with ⟨rfl, rfl⟩ | ⟨rfl, rfl⟩
    · exact (IdSource.letters_ne (by decide) m).symm
    · exact (IdSource.letters_ne (by decide) m).symm
  · rcases sampleJoined_identities hrow with ⟨rfl, rfl⟩ | ⟨rfl, rfl⟩ <;>
      rcases sampleJoined_identities hrow' with ⟨rfl, rfl⟩ | ⟨rfl, rfl⟩
    · rfl
    · exact absurd hsame (by decide)
    · exact absurd hsame (by decide)
    · rfl

/-- A session of the namespace `n`. -/
def sampleViewer : PeerSession :=
  { peerSessionId := "", ws := 0, protocolVersion := 4, peerType := .clientOnly, ns := "n", credentialId := "",
    allowedBackends := none, deviceId := "", instanceId := "", channel := "", name := "", recoveryToken := "",
    isAlive := true, backendId := none, epoch := none }

/-- A hello of a bound credential resolves to the credential's backend. -/
theorem not_resolvesForeign {Γ : Ctx} {s : Gateway} {e : Event}
    (h : ((s.helloOf Γ e).all fun found => (s.admittedAs Γ found.2.2).all fun c => c.backendId.isSome) = true) :
    ¬ s.ResolvesForeign Γ e := by
  rintro ⟨ws, conn, hello, credential, row, hh, hadmitted, -, hnone, -⟩
  rw [hh, Option.all_some, hadmitted, Option.all_some, hnone] at h
  cases h

/-- The bound backend is online, and listed as such. -/
theorem discovery_agrees_sample :
    ∃ presence ∈ visibleRegistry ((gateway (Ctx.sample [sampleHello "zgb_bound" true]) sampleJoined).run
      [.connect, .text 0 (sampleHello "zgb_bound" true)]).state sampleViewer, presence.backendId = "B" := by
  have hmeets : (gateway (Ctx.sample [sampleHello "zgb_bound" true]) sampleJoined).Meets
      (fun s e => ((s.helloOf (Ctx.sample [sampleHello "zgb_bound" true]) e).all fun found =>
        (s.admittedAs (Ctx.sample [sampleHello "zgb_bound" true]) found.2.2).all fun c => c.backendId.isSome) = true)
      [.connect, .text 0 (sampleHello "zgb_bound" true)] := by
    decide +kernel
  have hagree := (@discovery_agrees _ _ (sampleJoined_namespaced rfl rfl) _
    (fun pre e hp => not_resolvesForeign (hmeets pre e hp)) (sampleCredential "bound" "zgb_bound" .backend (some "B"))
    sampleViewer rfl rfl).1 "B"
  refine hagree.mp (mem_discoverBackends.mpr ⟨by decide +kernel, ?_⟩)
  have hlisted : ((((gateway (Ctx.sample [sampleHello "zgb_bound" true]) sampleJoined).run
      [.connect, .text 0 (sampleHello "zgb_bound" true)]).storage.identity (backendIdentityKey "n" "x\x1fy" "prod")).any
        fun row => row.backendId = "B" ∧ canReach "n" none row.ns "B") = true := by
    decide +kernel
  obtain ⟨row, hrow, hreach⟩ := (Option.any_eq_true _ _).mp hlisted
  have hreach := of_decide_eq_true hreach
  exact ⟨_, row, hrow, hreach⟩

/-- The hello of the legacy backend, as the parser reads it. -/
def sampleJoinedHello : JsonValue :=
  .obj
    [("type", .str "peer_hello"), ("gatewaySecret", .str "zgb_legacy"), ("protocolVersion", .num (.finite 4)),
      ("namespace", .str "n\x1fx"), ("clientProtocolVersion", .num (.finite 4)), ("peerType", .str "client+backend"),
      ("identity", .obj [("instanceId", .str "y")]),
      ("backend", .obj
        [("visible", .bool true), ("capabilities", .arr []), ("backendProtocolVersion", .num (.finite 4))])]

/-- The text of a value, its separators escaped. -/
def escapedText (v : JsonValue) : Bytes :=
  v.text.toUTF8.data.toList.flatMap (fun b => if b = 0x1f then "\\u001f".toUTF8.data.toList else [b])

/-- The context whose parser knows that hello. -/
def sampleJoinedCtx : Ctx :=
  { Ctx.sample [] with
    jsonParse := fun data => if data = escapedText sampleJoinedHello then some sampleJoinedHello else none }

def sampleBinding : JsonValue := .obj [("backendId", .str "C")]

/-- The legacy backend connects, and its credential is then bound to `C`. -/
def sampleJoinedRun : List Event :=
  [.connect, .message 0 { data := escapedText sampleJoinedHello, isBinary := false } 0 true, .admin "127.0.0.1" .granted (.bindCredential "legacy" sampleBinding)]

/-- All backend credentials are bound; discovery lists `B` as online in a namespace whose registry is empty. -/
theorem discovery_disagrees : ¬ ∀ (Γ : Ctx) (storage : Storage), storage.Namespaced Γ 0 → ∀ (es : List Event),
    (∀ c ∈ ((gateway Γ storage).run es).storage.credentials.values, c.type = .backend → c.backendId ≠ none) →
    ∀ (credential : CredentialRecord) (peer : PeerSession), peer.ns = credential.ns →
      peer.allowedBackends = credential.allowedBackends → ∀ b,
        ((∃ item ∈ ((gateway Γ storage).run es).discoverBackends credential, item.backendId = b ∧ item.online = true) ↔
          ∃ presence ∈ visibleRegistry ((gateway Γ storage).run es).state peer, presence.backendId = b) := by
  intro h
  have hagree := h sampleJoinedCtx sampleJoined (sampleJoined_namespaced rfl rfl) sampleJoinedRun
    (by decide +kernel) (sampleCredential "bound" "zgb_bound" .backend (some "B")) sampleViewer rfl rfl "B"
  have hlisted : ((((gateway sampleJoinedCtx sampleJoined).run sampleJoinedRun).storage.identity
      (backendIdentityKey "n" "x\x1fy" "prod")).any fun row => row.backendId = "B" ∧ canReach "n" none row.ns "B") = true := by
    decide +kernel
  obtain ⟨row, hrow, hreach⟩ := (Option.any_eq_true _ _).mp hlisted
  have hreach := of_decide_eq_true hreach
  have hseen := hagree.mp (mem_discoverBackends.mpr ⟨by decide +kernel, _, row, hrow, hreach⟩)
  have hnone : visibleRegistry ((gateway sampleJoinedCtx sampleJoined).run sampleJoinedRun).state
      sampleViewer = [] := by
    rw [← List.isEmpty_iff]
    decide +kernel
  obtain ⟨presence, hmem, -⟩ := hseen
  rw [hnone] at hmem
  cases hmem

end ZclaudiaGateway
