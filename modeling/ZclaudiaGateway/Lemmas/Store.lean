import ZclaudiaGateway.Lemmas.Control
import ZclaudiaGateway.Lemmas.Credentials

/-!
# What events do to the store

Every event changes the store by calls of the storage module, each behind the checks of the route that makes it. A credential
is issued or exchanged, which draws random values, at most once in an event; the other calls are steps of one relation. The
registration of a backend and the deletion of an identity are described exactly.
-/

namespace ZclaudiaGateway

open Storage

namespace Storage

/-- A backend of the namespace has an identity row. -/
def Known (st : Storage) (ns backendId : String) : Prop :=
  ∃ identity, st.getBackendIdentity backendId = some identity ∧ identity.ns = ns

/-- A change of the store that draws no random value, behind its route's checks. -/
inductive QuietStep : Storage → Storage → Prop
  | used (hash : String → String) (now : Nat) (token : String) (st : Storage) :
    QuietStep st (st.findValidCredential hash now token).2
  | epoch (st : Storage) : QuietStep st st.allocateEpoch.2
  | seen (now : Nat) (backendId : String) (st : Storage) :
    QuietStep st (st.touchBackendIdentity now backendId none none)
  | bind {st : Storage} {id backendId : String} {c : CredentialRecord} (hc : st.getCredential id = some c)
    (hunbound : isUnboundBackend c = true) (hknown : st.Known c.ns backendId) :
    QuietStep st (st.bindBackendCredential id backendId)
  | scope {st : Storage} {id : String} {c : CredentialRecord} {scope : Option (List String)}
    (hc : st.getCredential id = some c) (hknown : ∀ ids, scope = some ids → ∀ b ∈ ids, st.Known c.ns b) :
    QuietStep st (st.setAllowedBackends id scope)
  | revoke (now : Nat) (id : String) (st : Storage) : QuietStep st (st.revokeCredential now id).2
  | purge (ids : Option (List String)) (st : Storage) : QuietStep st (st.purgeRevokedCredentials ids).2

/-- A sequence of changes that draw no random value. -/
def QuietSteps : Storage → Storage → Prop := Relation.ReflTransGen QuietStep

theorem QuietSteps.refl (st : Storage) : QuietSteps st st := Relation.ReflTransGen.refl

theorem QuietSteps.trans {a b c : Storage} (h : QuietSteps a b) (h' : QuietSteps b c) : QuietSteps a c :=
  Relation.ReflTransGen.trans h h'

theorem QuietStep.steps {a b : Storage} (h : QuietStep a b) : QuietSteps a b := .single h

theorem QuietSteps.invariant {I : Storage → Prop} (hstep : ∀ a b, QuietStep a b → I a → I b) {a b : Storage}
    (h : QuietSteps a b) (ha : I a) : I b := by
  induction h with
  | refl => exact ha
  | tail _ h ih => exact hstep _ _ h ih

theorem revokeCredentials_steps (now : Nat) (ids : List String) (st : Storage) :
    QuietSteps st (st.revokeCredentials now ids).2 := by
  unfold revokeCredentials
  suffices h : ∀ acc : List String × Storage, QuietSteps acc.2 (ids.foldl (fun acc id =>
      (acc.1 ++ (acc.2.revokeCredential now id).1, (acc.2.revokeCredential now id).2)) acc).2 from h ([], st)
  induction ids with
  | nil => exact fun acc => .refl acc.2
  | cons id ids ih =>
    intro acc
    exact (QuietStep.revoke now id acc.2).steps.trans
      (ih (acc.1 ++ (acc.2.revokeCredential now id).1, (acc.2.revokeCredential now id).2))

/-- What a request to issue a credential is let through with. -/
structure Issuable (st : Storage) (input : CredentialInput) : Prop where
  type : input.type ≠ .backendAccess
  parentId : input.parentId = none
  backendId : ∀ b, input.backendId = some b → input.type = .backend ∧ st.Known input.ns b
  scope : ∀ ids, input.allowedBackends = some ids → input.type = .device ∧ ∀ b ∈ ids, st.Known input.ns b

/-- A credential is written with the random values of an event, behind its route's checks. -/
inductive DrawStep (Γ : Ctx) (n : Nat) : Storage → Storage → Prop
  | issue {st : Storage} (now : Nat) {input : CredentialInput} (h : st.Issuable input) :
    DrawStep Γ n st (st.createCredential Γ.hashCredentialToken
      { id := Γ.credentialIds.draw n, secret := Γ.secrets.draw n, backendId := Γ.backendIds.draw n } now input).2.2
  | exchange {st : Storage} {now : Nat} {token : String} {credential : CredentialRecord} (ttlMs : Option (Option ℚ))
    (hfind : (st.findValidCredential Γ.hashCredentialToken now token).1 = some credential)
    (htype : credential.type = .backend) :
    DrawStep Γ n st ((st.findValidCredential Γ.hashCredentialToken now token).2.exchangeAccessCredential
      Γ.hashCredentialToken { id := Γ.credentialIds.draw n, secret := Γ.secrets.draw n, backendId := Γ.backendIds.draw n }
      now credential ttlMs).2.2

/-- What one event does to the store, unless it is a hello or a deletion. -/
def Turn (Γ : Ctx) (n : Nat) (a b : Storage) : Prop :=
  ∃ c d, QuietSteps a c ∧ (d = c ∨ DrawStep Γ n c d) ∧ QuietSteps d b

theorem Turn.quiet {Γ : Ctx} {n : Nat} {a b : Storage} (h : QuietSteps a b) : Turn Γ n a b :=
  ⟨b, b, h, Or.inl rfl, .refl b⟩

theorem Turn.draw {Γ : Ctx} {n : Nat} {a b : Storage} (h : DrawStep Γ n a b) : Turn Γ n a b :=
  ⟨a, b, .refl a, Or.inr h, .refl b⟩

end Storage

/-- A backend registered: the credential it is counted to, the components its hello gave and the backend it became. -/
structure Registration where
  credentialId : String
  components : IdentityComponents
  backendId : String

/-- The components a hello gives a legacy identity. -/
def helloComponents (hello : PeerHello) : IdentityComponents :=
  { ns := hello.ns, instanceId := hello.identity.instanceId.getD "", environment := Gateway.helloChannel hello.identity }

/-- The identity that a request, let through to the admin API, asks to delete. -/
def Event.deletion : Event → Option String
  | .admin _ .granted (.deleteBackend backendId) => some backendId
  | _ => none

namespace Gateway

variable {Γ : Ctx}

/-! ## Handlers that leave the store alone -/

theorem handleTopicSubscribe_store (peer : PeerSession) (backendId topic : String) (s : Gateway) :
    (s.handleTopicSubscribe peer backendId topic).storage = s.storage := by
  unfold handleTopicSubscribe
  dsimp only
  repeat' split
  all_goals rfl

theorem handleTopicPublish_store (peer : PeerSession) (topic : String) (payload : Option JsonValue) (retained : Bool)
    (s : Gateway) : (s.handleTopicPublish peer topic payload retained).storage = s.storage := by
  unfold handleTopicPublish
  dsimp only
  repeat' split
  all_goals rfl

theorem handleChannelOpen_store (peer : PeerSession) (target : String) (kind : Option String) (s : Gateway) :
    (s.handleChannelOpen Γ peer target kind).storage = s.storage := by
  unfold handleChannelOpen
  dsimp only
  repeat' split
  all_goals rfl

theorem routeMessage_store (peer : PeerSession) (message : GatewayMessage) (s : Gateway) :
    (s.routeMessage Γ peer message).storage = s.storage := by
  cases message with
  | backendHeartbeat epoch =>
    change (s.handleBackendHeartbeat peer epoch).storage = _
    unfold handleBackendHeartbeat
    repeat' split
    all_goals rfl
  | requestRegistrySnapshot => rfl
  | backendServerMessage backendId target raw =>
    change (s.handleBackendServerMessage peer backendId target raw).storage = _
    unfold handleBackendServerMessage
    repeat' split
    all_goals rfl
  | pushNotificationRequest event =>
    change (s.handlePushNotificationRequest Γ peer event).storage = _
    unfold handlePushNotificationRequest
    repeat' split
    all_goals rfl
  | ping ts => rfl
  | channelOpen target kind => exact handleChannelOpen_store peer target kind s
  | channelReject channelId =>
    change (s.handleChannelReject peer channelId).storage = _
    unfold handleChannelReject
    repeat' split
    all_goals simp
  | channelClose channelId =>
    change (s.handleChannelClose peer channelId).storage = _
    unfold handleChannelClose
    repeat' split
    all_goals simp
  | topicSubscribe backendId topic => exact handleTopicSubscribe_store peer backendId topic s
  | topicUnsubscribe backendId topic => rfl
  | topicPublish topic payload retained => exact handleTopicPublish_store peer topic payload retained s
  | unknown type => rfl

theorem bridgeMessage_store (ws : SocketId) (channelId : String) (ex : ExchangeId) (frame : Frame) (writable : Bool)
    (s : Gateway) : (s.bridgeMessage Γ ws channelId ex frame writable).storage = s.storage := by
  unfold bridgeMessage
  split
  · rfl
  · dsimp only
    split
    · split
      · simp
      · split
        · simp
        · exact (responseHead_speaks _ _ _ _).storage
    · split
      · have hbody : (callResponse ex (s.onNet (Net.modifyExchange ex (fun x => { x with idleTimer := true })))
            (.write frame.data)).storage = s.storage := (callResponse_speaks ex _ (.write frame.data)).storage
        split
        · exact hbody
        · exact hbody
      · rfl

theorem relayMessage_store (ws : SocketId) (leg : RelayLeg) (frame : Frame) (buffered : Nat) (s : Gateway) :
    (s.relayMessage Γ ws leg frame buffered).storage = s.storage := by
  unfold relayMessage
  dsimp only
  split <;> rfl

theorem controlMessage_store {ws : SocketId} {k : WsSocket} {conn : ControlConn} {frame : Frame} {buffered : Nat}
    {writable : Bool} {s : Gateway} (hno : s.helloOf Γ (.message ws frame buffered writable) = none)
    (hk : s.net.sockets.get ws = some k) (hl : k.listener = .control conn) (hr : k.reads = true) :
    (s.controlMessage Γ ws conn frame.data).storage = s.storage := by
  unfold controlMessage
  split
  · rfl
  · rfl
  · rename_i hparse hn
    obtain ⟨error, he⟩ := handleFirstMessage_refused hno hk hl hr hn hparse
    rw [he]
    rfl
  · split
    · rename_i h
      unfold handlePeerMessage at h
      split at h
      · cases h
        rfl
      · split at h
        · split at h
          · cases h
            rfl
          · cases h
        · split at h
          · cases h
          · cases h
            exact routeMessage_store _ _ s
    · rfl

theorem socketMessage_store {ws : SocketId} {frame : Frame} {buffered : Nat} {writable : Bool} {s : Gateway}
    (hno : s.helloOf Γ (.message ws frame buffered writable) = none) :
    (s.socketMessage Γ ws frame buffered writable).storage = s.storage := by
  unfold socketMessage
  split
  · rfl
  · rename_i k hk
    split
    · rename_i hr
      split
      · rfl
      · rename_i conn hl
        exact controlMessage_store hno hk hl hr
      · exact relayMessage_store _ _ _ _ s
      · exact bridgeMessage_store _ _ _ _ _ s
    · rfl

theorem pairLegs_store (channelId : String) (ch : ChannelRecord) (s : Gateway) :
    (s.pairLegs channelId ch).storage = s.storage := by
  unfold pairLegs wireChannel
  split <;> rfl

theorem handleChannelUpgrade_store (channelId : String) (ticket : Option String) (handshakeOk : Bool) (s : Gateway) :
    (s.handleChannelUpgrade channelId ticket handshakeOk).storage = s.storage := by
  rcases handleChannelUpgrade_cases s channelId ticket handshakeOk with he | ⟨found, ch, -, -, -, -, he⟩
  · rw [he]
    rfl
  · rw [he]
    unfold attachLeg
    dsimp only
    split
    · rfl
    · exact pairLegs_store _ _ _

theorem upgrade_store (ip target : String) (handshakeOk : Bool) (s : Gateway) :
    (s.upgrade Γ ip target handshakeOk).storage = s.storage := by
  unfold upgrade
  split
  · rfl
  · split
    · split
      · unfold controlConnection
        dsimp only
        split <;> rfl
      · rfl
    · split
      · exact handleChannelUpgrade_store _ _ _ s
      · rfl

/-! ## Losing a backend or a peer -/

theorem teardownWhere_store (test : ChannelRecord → Bool) (reason : ChannelClosedReason) (s : Gateway) :
    (s.teardownWhere test reason).storage = s.storage := (teardownWhere_only test reason s).storage

theorem disconnectOwner_store (peer : PeerSession) (backendId : String) (s : Gateway) :
    QuietSteps s.storage (s.disconnectOwner peer backendId).storage := by
  unfold disconnectOwner
  split
  · have hseen := QuietStep.seen s.now backendId (s.closeChannelsForBackend backendId .backendOffline).storage
    rw [closeChannelsForBackend, teardownWhere_store] at hseen
    have hstore : (s.closeChannelsForBackend backendId .backendOffline).storage = s.storage := teardownWhere_store _ _ s
    change QuietSteps s.storage
      ((s.closeChannelsForBackend backendId .backendOffline).storage.touchBackendIdentity _ backendId none none)
    rw [hstore]
    exact hseen.steps
  · exact .refl _

theorem handlePeerDisconnect_store (peerSessionId : String) (s : Gateway) :
    QuietSteps s.storage (s.handlePeerDisconnect peerSessionId).storage := by
  unfold handlePeerDisconnect
  split
  · exact .refl _
  · rename_i peer _
    dsimp only [onNet, Gateway.onState, unregisterRecoveryToken, removeTopicSubscriptionsForPeer]
    rcases peer.backendId with _ | backendId
    · dsimp only
      rw [closeChannelsForPeer, teardownWhere_store]
      exact .refl _
    · dsimp only [removeTopicsForBackend]
      rw [closeChannelsForPeer, teardownWhere_store]
      exact disconnectOwner_store peer backendId s

theorem controlClose_store (ws : SocketId) (conn : ControlConn) (s : Gateway) :
    QuietSteps s.storage (s.controlClose ws conn).storage := by
  have hgone (u : Gateway) (hu : u.storage = s.storage) (p : String) :
      QuietSteps s.storage (u.handlePeerDisconnect p).storage := by
    rw [← hu]
    exact handlePeerDisconnect_store p u
  unfold controlClose
  dsimp only
  split
  · refine hgone _ ?_ _
    rfl
  · exact .refl _

theorem handleBackendLeaseExpired_store (backendId : String) (s : Gateway) :
    QuietSteps s.storage (s.handleBackendLeaseExpired backendId).storage := by
  unfold handleBackendLeaseExpired
  split
  · exact .refl _
  · rename_i lease _
    have hstore : (s.closeChannelsForBackend backendId .backendOffline).storage = s.storage := teardownWhere_store _ _ s
    have hseen (now : Nat) : QuietSteps s.storage
        ((s.closeChannelsForBackend backendId .backendOffline).storage.touchBackendIdentity now backendId none none) := by
      rw [hstore]
      exact (QuietStep.seen now backendId s.storage).steps
    dsimp only
    split
    · exact hseen _
    · exact hseen _

theorem pingInterval_store (s : Gateway) : QuietSteps s.storage s.pingInterval.storage := by
  have hpeer (s : Gateway) (p : String) : QuietSteps s.storage (s.pingPeer p).storage := by
    unfold pingPeer
    split
    · exact .refl _
    · split
      · exact handlePeerDisconnect_store p s
      · exact .refl _
  unfold pingInterval
  generalize s.state.peers.keys = l
  induction l generalizing s with
  | nil => exact .refl _
  | cons p l ih => exact (hpeer s p).trans (ih _)

theorem leaseCheckInterval_store (s : Gateway) : QuietSteps s.storage s.leaseCheckInterval.storage := by
  have hlease (s : Gateway) (b : String) : QuietSteps s.storage (s.checkLease b).storage := by
    unfold checkLease
    split
    · exact .refl _
    · split
      · exact handleBackendLeaseExpired_store b s
      · exact .refl _
  unfold leaseCheckInterval
  generalize s.state.leases.keys = l
  induction l generalizing s with
  | nil => exact .refl _
  | cons b l ih => exact (hlease s b).trans (ih _)

/-! ## Credentials -/

theorem resolveToken_store (token : String) (s : Gateway) :
    QuietSteps s.storage (s.resolveToken Γ token).2.storage := by
  unfold resolveToken
  split
  · exact (QuietStep.used _ _ _ _).steps
  · exact .refl _

theorem denyUnauthorized_store (ip message : String) (s : Gateway) :
    (s.denyUnauthorized Γ ip message).storage = s.storage := by
  unfold denyUnauthorized
  dsimp only
  split <;> rfl

theorem refuseProxyRequest_store (credentialId ip : String) (s : Gateway) :
    (s.refuseProxyRequest Γ credentialId ip).2.storage = s.storage := by
  unfold refuseProxyRequest checkProxyIp
  dsimp only
  repeat' split
  all_goals rfl

theorem proxyRoute_store (request : ProxyRequest) (authorization : Option String) (s : Gateway) :
    QuietSteps s.storage (s.proxyRoute Γ request authorization).storage := by
  unfold proxyRoute
  split
  · rw [denyUnauthorized_store]
    exact .refl _
  · rename_i token _
    have hresolved := resolveToken_store (Γ := Γ) token s
    rcases hr : s.resolveToken Γ token with ⟨credential, s'⟩
    rw [hr] at hresolved
    rcases credential with _ | credential
    · dsimp only
      rw [denyUnauthorized_store]
      exact hresolved
    · have hcounted := refuseProxyRequest_store (Γ := Γ) credential.id request.ip s'
      dsimp only
      rcases hp : s'.refuseProxyRequest Γ credential.id request.ip with ⟨refused, s''⟩
      rw [hp] at hcounted
      dsimp only at hcounted ⊢
      have hend (t : Gateway) (h : t.storage = s''.storage) : QuietSteps s.storage t.storage := by
        rw [h, hcounted]
        exact hresolved
      repeat' split
      all_goals first
        | exact hend _ rfl
        | (unfold proxyViaChannel; split <;> exact hend _ rfl)

theorem syncRegistryRoute_store (ip : String) (authorization : Option String) (s : Gateway) :
    (s.syncRegistryRoute Γ ip authorization).storage = s.storage := by
  unfold syncRegistryRoute
  repeat' split
  all_goals first | exact denyUnauthorized_store _ _ s | rfl

theorem discoveryRoute_store (ip : String) (authorization : Option String) (s : Gateway) :
    QuietSteps s.storage (s.discoveryRoute Γ ip authorization).storage := by
  unfold discoveryRoute
  split
  · rw [denyUnauthorized_store]
    exact .refl _
  · rename_i token _
    have hresolved := resolveToken_store (Γ := Γ) token s
    dsimp only
    split
    · rw [denyUnauthorized_store]
      exact hresolved
    · exact hresolved

theorem backendTokenRoute_store (ip : String) (authorization : Option String) (s : Gateway) :
    Turn Γ s.drawn s.storage (s.backendTokenRoute Γ ip authorization).storage := by
  unfold backendTokenRoute
  rcases hb : bearerToken authorization with _ | token
  · dsimp only
    rw [denyUnauthorized_store]
    exact .quiet (.refl _)
  · have hresolved := resolveToken_store (Γ := Γ) token s
    dsimp only
    rcases hr : s.resolveToken Γ token with ⟨credential, s'⟩
    rw [hr] at hresolved
    rcases credential with _ | credential
    · dsimp only
      rw [denyUnauthorized_store]
      exact .quiet hresolved
    · dsimp only
      split
      · exact .quiet hresolved
      · rename_i htype
        unfold resolveToken at hr
        split at hr
        · simp only [Prod.mk.injEq] at hr
          obtain ⟨hfind, rfl⟩ := hr
          exact .draw (.exchange _ hfind (by simpa using htype))
        · simp at hr

/-! ## The admin API -/

theorem known_of_isKnownBackend {s : Gateway} {backendId ns : String} (h : s.isKnownBackend backendId ns = true) :
    s.storage.Known ns backendId := by
  unfold isKnownBackend at h
  rw [Option.any_eq_true] at h
  obtain ⟨identity, hget, hns⟩ := h
  exact ⟨identity, hget, by simpa using hns⟩

theorem parseBackendScope_known {s : Gateway} {value : JsonValue} {ns : String} {scope : Option (List String)}
    (h : s.parseBackendScope value ns = .ok scope) : ∀ ids, scope = some ids → ∀ b ∈ ids, s.storage.Known ns b := by
  rintro ids rfl b hb
  unfold parseBackendScope at h
  split at h
  · cases h
  · split at h
    · cases h
    · cases h
    · dsimp only at h
      split at h
      · rename_i hunknown
        cases h
        by_contra hno
        have hmem : b ∈ [] := by
          rw [← hunknown, List.mem_filter]
          refine ⟨hb, ?_⟩
          rw [Bool.not_eq_true', Bool.eq_false_iff]
          exact fun hk => hno (known_of_isKnownBackend hk)
        cases hmem
      · cases h

theorem parseBoundBackend_known {s : Gateway} {value : Option JsonValue} {type : CredentialType} {ns : String}
    {backendId : Option String} (h : s.parseBoundBackend value type ns = .ok backendId) :
    ∀ b, backendId = some b → type = .backend ∧ s.storage.Known ns b := by
  rintro b rfl
  unfold parseBoundBackend at h
  split at h
  · cases h
  · split at h
    · cases h
    · rename_i htype
      split at h
      · cases h
      · split at h
        · rename_i hknown
          cases h
          exact ⟨by simpa using htype, known_of_isKnownBackend hknown⟩
        · cases h

theorem parseIssuedScope_known {s : Gateway} {value : Option JsonValue} {type : CredentialType} {ns : String}
    {scope : Option (List String)} (h : s.parseIssuedScope value type ns = .ok scope) :
    ∀ ids, scope = some ids → type = .device ∧ ∀ b ∈ ids, s.storage.Known ns b := by
  intro ids hids
  unfold parseIssuedScope at h
  split at h
  · cases h
    cases hids
  · split at h
    · cases h
    · rename_i htype
      exact ⟨by simpa using htype, parseBackendScope_known h ids hids⟩

/-- What gets through the checks of a request to issue a credential. -/
theorem parseCredential_issuable {s : Gateway} {body : JsonValue} {input : CredentialInput}
    (h : s.parseCredential body = .ok input) : s.storage.Issuable input := by
  unfold parseCredential at h
  simp only [bind, Except.bind, pure, Except.pure] at h
  -- One branch for each type a request may ask for, with the same checks.
  split at h
  case h_3 => cases h
  all_goals
    split at h
    · cases h
    · split at h
      · cases h
      · split at h
        · cases h
        · split at h
          · cases h
          · rename_i backendId hbackend
            split at h
            · cases h
            · rename_i scope hscope
              cases h
              exact ⟨by simp, rfl, parseBoundBackend_known hbackend, parseIssuedScope_known hscope⟩

/-- A request to delete a backend identity succeeds. -/
def deletable (backendId : String) (s : Gateway) : Bool :=
  (s.storage.getBackendIdentity backendId).any (fun identity =>
    !s.state.registry.has backendId && !s.storage.credentials.values.any (boundToBackend backendId) &&
      !s.activeLegacyCredential identity)

theorem deleteBackendRoute_store (backendId : String) (s : Gateway) :
    (s.deleteBackendRoute backendId).storage =
      if s.deletable backendId then s.storage.deleteBackendIdentity backendId else s.storage := by
  unfold deleteBackendRoute deletable
  rcases s.storage.getBackendIdentity backendId with _ | identity
  · rfl
  · rw [Option.any_some]
    dsimp only
    rcases s.state.registry.has backendId with _ | _
    · rcases s.storage.credentials.values.any (boundToBackend backendId) with _ | _
      · rcases s.activeLegacyCredential identity with _ | _ <;> rfl
      · rfl
    · rfl

theorem deletable_unbound {backendId : String} {s : Gateway} (h : s.deletable backendId = true) :
    s.storage.credentials.values.any (boundToBackend backendId) = false := by
  unfold deletable at h
  rw [Option.any_eq_true] at h
  obtain ⟨identity, -, h⟩ := h
  simp only [Bool.and_eq_true, Bool.not_eq_true'] at h
  exact h.1.2

theorem handle_deletion {e : Event} {backendId : String} (h : e.deletion = some backendId) (s : Gateway) :
    s.handle Γ e = s.deleteBackendRoute backendId := by
  unfold Event.deletion at h
  split at h
  · cases h
    rfl
  · cases h

theorem adminRoute_store (ip : String) {auth : AdminAuth} {request : AdminRequest} {s : Gateway}
    (hno : (Event.admin ip auth request).deletion = none) :
    Turn Γ s.drawn s.storage (s.adminRoute Γ ip auth request).storage := by
  have same {st : Storage} (h : st = s.storage) : Turn Γ s.drawn s.storage st := by
    rw [h]
    exact .quiet (.refl _)
  cases auth with
  | denied => exact same (denyUnauthorized_store _ _ s)
  | foreignOrigin => exact same rfl
  | granted =>
    cases request with
    | overview => exact same rfl
    | listBackends => exact same rfl
    | listCredentials => exact same rfl
    | issueCredential body =>
      unfold adminRoute issueCredentialRoute
      dsimp only
      split
      · exact same rfl
      · rename_i input hinput
        exact .draw (.issue s.now (parseCredential_issuable hinput))
    | deleteBackend backendId => cases hno
    | bindCredential id body =>
      unfold adminRoute bindCredentialRoute
      dsimp only
      split
      · exact same rfl
      · rename_i credential hcredential
        split
        · exact same rfl
        · rename_i hunbound
          split
          · exact same rfl
          · rename_i backendId hfilter
            have hknown := (Option.filter_eq_some_iff.mp hfilter).2
            exact .quiet (QuietStep.bind hcredential (by simpa using hunbound) (known_of_isKnownBackend hknown)).steps
    | changeScope id body =>
      unfold adminRoute changeScopeRoute
      dsimp only
      split
      · exact same rfl
      · rename_i credential hcredential
        split
        · exact same rfl
        · split
          · exact same rfl
          · split
            · exact same rfl
            · rename_i scope hscope
              exact .quiet (QuietStep.scope hcredential (parseBackendScope_known hscope)).steps
    | revokeCredential id =>
      unfold adminRoute revokeCredentialRoute
      dsimp only
      split
      · exact .quiet (QuietStep.revoke s.now id s.storage).steps
      · exact .quiet (QuietStep.revoke s.now id s.storage).steps
    | revokeCredentials body =>
      unfold adminRoute revokeCredentialsRoute
      dsimp only
      split
      · exact same rfl
      · exact same rfl
      · exact .quiet (revokeCredentials_steps s.now _ s.storage)
    | purgeCredentials body =>
      unfold adminRoute purgeCredentialsRoute
      dsimp only
      split
      · split
        · exact same rfl
        · exact .quiet (QuietStep.purge _ s.storage).steps
      · exact .quiet (QuietStep.purge none s.storage).steps

/-! ## Hellos -/

theorem replaceOwner_store (backendId peerSessionId : String) (epoch : Nat) (s : Gateway) :
    (s.replaceOwner backendId peerSessionId epoch).storage = s.storage := by
  unfold replaceOwner
  split
  · rfl
  · split
    · rename_i lease _ _
      have hstore : (s.closeChannelsForBackend backendId .epochChanged).storage = s.storage := teardownWhere_store _ _ s
      unfold handleBackendOwnerReplaced
      dsimp only
      split
      · exact hstore
      · exact hstore
    · rfl

/-- The credential that a registration is counted to: an exchanged one counts as its parent. -/
def rootCredential (credential : CredentialRecord) : String := credential.parentId.getD credential.id

/-- The store after a backend has registered. -/
def registeredStore (Γ : Ctx) (n now : Nat) (credential : CredentialRecord) (hello : PeerHello) (st : Storage) : Storage :=
  let resolved := resolveBackendIdentity (Γ.backendIds.draw n) now credential hello st
  resolved.2.allocateEpoch.2.touchBackendIdentity now resolved.1 (some (rootCredential credential)) hello.identity.name

theorem openSession_store (ws : SocketId) (credential : CredentialRecord) (hello : PeerHello) (s : Gateway) :
    (s.openSession Γ ws credential hello).storage =
      if isBackendHello hello then registeredStore Γ s.drawn s.now credential hello s.storage else s.storage := by
  have hadd (peer : PeerSession) (grant : Option BackendGrant) (u : Gateway) :
      (u.addSession peer grant).storage = u.storage := (addSession_tables peer grant u).2.2.2.1
  unfold openSession
  split
  · rename_i backend hpt hbk
    have hbackend : isBackendHello hello = true := by simp [isBackendHello, hpt, hbk]
    rw [if_pos hbackend]
    dsimp only
    rw [hadd]
    unfold registerBackend registeredStore
    dsimp only [Gateway.onState, onStorage]
    rw [replaceOwner_store]
    rfl
  · rename_i hno
    have hclient : isBackendHello hello = false := by
      rw [isBackendHello, Bool.and_eq_false_iff]
      by_cases hpt : hello.peerType = .clientAndBackend
      · right
        rcases hbk : hello.backend with _ | backend
        · rfl
        · exact absurd hbk (hno backend hpt)
      · left
        simpa using hpt
    rw [if_neg (by rw [hclient]; exact Bool.false_ne_true)]
    exact hadd _ _ _

/-- What a hello does to the store: its token is used, and an admitted backend registers. -/
theorem greet_store (ws : SocketId) (conn : ControlConn) (hello : PeerHello) (s : Gateway) :
    (s.greet Γ ws conn hello).storage =
      match s.admittedAs Γ hello with
      | some credential =>
        if isBackendHello hello then
          registeredStore Γ s.drawn s.now credential hello (s.resolveToken Γ hello.gatewaySecret).2.storage
        else (s.resolveToken Γ hello.gatewaySecret).2.storage
      | none => (s.resolveToken Γ hello.gatewaySecret).2.storage := by
  have hresolve : (s.onNet (clearAuthTimeout ws)).resolveToken Γ hello.gatewaySecret =
      ((s.resolveToken Γ hello.gatewaySecret).1,
        (s.resolveToken Γ hello.gatewaySecret).2.onNet (clearAuthTimeout ws)) := by
    unfold resolveToken
    split <;> rfl
  have hkept : (s.resolveToken Γ hello.gatewaySecret).2.now = s.now ∧
      (s.resolveToken Γ hello.gatewaySecret).2.drawn = s.drawn := by
    unfold resolveToken
    split <;> exact ⟨rfl, rfl⟩
  unfold greet handlePeerHello admittedAs
  rw [hresolve]
  rcases hr : s.resolveToken Γ hello.gatewaySecret with ⟨credential, s'⟩
  rw [hr] at hkept
  obtain ⟨hnow, hdrawn⟩ := hkept
  rcases credential with _ | credential
  · dsimp only
    split <;> rfl
  · dsimp only
    rw [Option.filter_some]
    rcases hrefuse : refuseHello Γ credential hello with _ | ⟨code, message⟩
    · dsimp only [Option.isNone_none, if_true, onNet_storage]
      rw [openSession_store]
      dsimp only [onNet_storage, onNet_now, onNet_drawn] at hnow hdrawn ⊢
      rw [hnow, hdrawn]
      rfl
    · rfl

/-! ## Events -/

/-- Every event but a hello and a deletion changes the store by calls of the storage module, each behind its route's checks. -/
theorem handle_store {e : Event} {s : Gateway} (hh : s.helloOf Γ e = none) (hno : e.deletion = none) :
    Turn Γ s.drawn s.storage (s.handle Γ e).storage := by
  have same {st : Storage} (h : st = s.storage) : Turn Γ s.drawn s.storage st := by
    rw [h]
    exact .quiet (.refl _)
  cases e with
  | clock now => exact same rfl
  | upgrade ip target handshakeOk => exact same (upgrade_store _ _ _ s)
  | message ws frame buffered writable => exact same (socketMessage_store hh)
  | socketError ws =>
    refine same ?_
    change (s.socketError ws).storage = _
    unfold socketError
    repeat' split
    all_goals simp [throw]
  | socketClosing ws =>
    refine same ?_
    change (s.socketClosing ws).storage = _
    unfold socketClosing
    repeat' split
    all_goals rfl
  | socketClosed ws =>
    change Turn Γ s.drawn s.storage (s.socketClosed ws).storage
    unfold socketClosed
    split
    · exact same rfl
    · split
      · exact same rfl
      · dsimp only
        split
        · exact same rfl
        · rename_i conn _
          exact .quiet (controlClose_store ws conn (s.onNet _))
        · exact same (by simp)
        · refine same ?_
          unfold Gateway.bridgeClose
          split
          · rfl
          · rw [teardownChannel_storage]
            unfold finishResponse
            dsimp only
            repeat' split
            all_goals rfl
  | pong ws =>
    refine same ?_
    change (s.controlPong ws).storage = _
    unfold controlPong
    split <;> rfl
  | authTimeout ws =>
    refine same ?_
    change (s.authTimeoutFires ws).storage = _
    unfold authTimeoutFires
    dsimp only
    repeat' split
    all_goals rfl
  | replacedGrace ws =>
    refine same ?_
    change (s.replacedGraceFires ws).storage = _
    unfold replacedGraceFires
    repeat' split
    all_goals rfl
  | rateTimer ws =>
    refine same ?_
    change (s.rateTimerFires ws).storage = _
    unfold rateTimerFires
    repeat' split
    all_goals rfl
  | drainPoll ws buffered =>
    refine same ?_
    change (s.drainPoll ws buffered).storage = _
    unfold drainPoll
    repeat' split
    all_goals rfl
  | pairingTimeout channelId =>
    refine same ?_
    change (s.pairingTimeoutFires channelId).storage = _
    unfold pairingTimeoutFires
    repeat' split
    all_goals simp
  | pingInterval => exact .quiet (pingInterval_store s)
  | leaseCheckInterval => exact .quiet (leaseCheckInterval_store s)
  | registryPollInterval =>
    refine same ?_
    change s.registryPollInterval.storage = _
    unfold registryPollInterval
    split <;> rfl
  | rateLimitCleanup => exact same rfl
  | proxy request authorization => exact .quiet (proxyRoute_store _ _ s)
  | requestData ex chunk buffered =>
    refine same ?_
    change (s.requestData ex chunk buffered).storage = _
    unfold requestData
    repeat' split
    all_goals rfl
  | requestEnd ex =>
    refine same ?_
    change (s.requestEnd ex).storage = _
    unfold requestEnd
    repeat' split
    all_goals rfl
  | requestDrainPoll ex buffered =>
    refine same ?_
    change (s.requestDrainPoll ex buffered).storage = _
    unfold requestDrainPoll
    repeat' split
    all_goals rfl
  | responseDrain ex =>
    refine same ?_
    change (s.responseDrain ex).storage = _
    unfold Gateway.responseDrain
    repeat' split
    all_goals rfl
  | responseClose ex =>
    refine same ?_
    change (s.responseClose ex).storage = _
    unfold Gateway.responseClose
    repeat' split
    all_goals simp
  | responseTimeout ex =>
    refine same ?_
    change (s.responseTimeoutFires ex).storage = _
    unfold responseTimeoutFires
    repeat' split
    all_goals simp
  | idleTimeout ex =>
    refine same ?_
    change (s.idleTimeoutFires ex).storage = _
    unfold idleTimeoutFires
    repeat' split
    all_goals simp
  | syncRegistry ip authorization => exact same (syncRegistryRoute_store _ _ s)
  | discovery ip authorization => exact .quiet (discoveryRoute_store _ _ s)
  | backendToken ip authorization => exact backendTokenRoute_store _ _ s
  | admin ip auth request => exact adminRoute_store ip hno
  | adminLogin ip expiresAt =>
    refine same ?_
    cases expiresAt with
    | none => exact denyUnauthorized_store _ _ s
    | some expiresAt => rfl
  | adminSession ip expiresAt => exact same (by cases expiresAt <;> rfl)

/-- The registration that an event makes. -/
def registration (Γ : Ctx) (s : Gateway) (e : Event) : Option Registration :=
  if s.uncaught.isSome then none
  else
    match s.helloOf Γ e with
    | none => none
    | some (_, _, hello) =>
      match s.admittedAs Γ hello with
      | none => none
      | some credential =>
        if isBackendHello hello then
          some
            { credentialId := rootCredential credential
              components := helloComponents hello
              backendId := (resolveBackendIdentity (Γ.backendIds.draw s.drawn) s.now credential hello s.storage).1 }
        else none

theorem registration_quiet (s : Gateway) (e : Event) : registration Γ s.quiet e = registration Γ s e := by
  unfold registration
  simp only [helloOf_quiet, admittedAs_quiet]
  rfl

theorem resolveBackendIdentity_congr (fresh : String) (now : Nat) (credential : CredentialRecord) (hello : PeerHello)
    {a b : Storage} (h : a.backendIdentities = b.backendIdentities) :
    (resolveBackendIdentity fresh now credential hello a).1 = (resolveBackendIdentity fresh now credential hello b).1 := by
  unfold resolveBackendIdentity
  split
  · rfl
  · unfold getOrCreateBackendIdV4
    dsimp only
    rw [h]
    split <;> rfl

theorem resolveToken_identities (token : String) (s : Gateway) :
    (s.resolveToken Γ token).2.storage.backendIdentities = s.storage.backendIdentities := by
  unfold resolveToken
  split
  · dsimp only
    unfold findValidCredential
    split
    · rfl
    · split <;> rfl
  · rfl

/-- What an event does to the store: a registration and a deletion are described exactly. -/
theorem handle_cases (e : Event) (s : Gateway) :
    (Turn Γ s.drawn s.storage (s.handle Γ e).storage ∧ e.deletion = none ∧ registration Γ s e = none) ∨
      (∃ hello credential a, (s.uncaught = none → registration Γ s e = some ⟨rootCredential credential, helloComponents hello,
          (resolveBackendIdentity (Γ.backendIds.draw s.drawn) s.now credential hello a).1⟩) ∧
        QuietSteps s.storage a ∧ a = (s.resolveToken Γ hello.gatewaySecret).2.storage ∧
        s.admittedAs Γ hello = some credential ∧ e.deletion = none ∧
        (s.handle Γ e).storage = registeredStore Γ s.drawn s.now credential hello a) ∨
      ∃ backendId, (e.deletion = some backendId ∧ registration Γ s e = none) ∧
        (s.handle Γ e).storage =
          if s.deletable backendId then s.storage.deleteBackendIdentity backendId else s.storage := by
  rcases hh : s.helloOf Γ e with _ | ⟨ws, conn, hello⟩
  · have hnone : registration Γ s e = none := by
      unfold registration
      rw [hh]
      split <;> rfl
    rcases hd : e.deletion with _ | backendId
    · exact Or.inl ⟨handle_store hh hd, rfl, hnone⟩
    · exact Or.inr (Or.inr ⟨backendId, ⟨rfl, hnone⟩, by rw [handle_deletion hd, deleteBackendRoute_store]⟩)
  · have hd : e.deletion = none := by
      obtain ⟨-, frame, buffered, writable, rfl, -⟩ := helloOf_frame hh
      rfl
    have hused := resolveToken_store (Γ := Γ) hello.gatewaySecret s
    have hstore := greet_store (Γ := Γ) ws conn hello s
    rw [handle_hello hh]
    rcases hadmitted : s.admittedAs Γ hello with _ | credential
    · left
      rw [hadmitted] at hstore
      rw [hstore]
      refine ⟨.quiet hused, hd, ?_⟩
      unfold registration
      rw [hh]
      dsimp only
      rw [hadmitted]
      split <;> rfl
    · rw [hadmitted] at hstore
      dsimp only at hstore
      by_cases hbackend : isBackendHello hello = true
      · rw [if_pos hbackend] at hstore
        refine Or.inr (Or.inl ⟨hello, credential, _, fun hrun => ?_, hused, rfl, hadmitted, hd, hstore⟩)
        unfold registration
        rw [hh, hrun]
        dsimp only
        rw [hadmitted]
        dsimp only
        rw [if_pos hbackend, resolveBackendIdentity_congr _ _ _ _ (resolveToken_identities (Γ := Γ) hello.gatewaySecret s)]
        rfl
      · rw [if_neg hbackend] at hstore
        left
        rw [hstore]
        refine ⟨.quiet hused, hd, ?_⟩
        unfold registration
        rw [hh]
        dsimp only
        rw [hadmitted]
        dsimp only
        rw [if_neg hbackend]
        split <;> rfl

end Gateway

end ZclaudiaGateway
