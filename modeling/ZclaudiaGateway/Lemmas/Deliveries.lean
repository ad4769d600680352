import ZclaudiaGateway.Lemmas.Broadcasts
import ZclaudiaGateway.Lemmas.Reach

/-!
# Who is told of a backend

Every output that names a backend goes to a session that reaches the backend: registry items are what the session sees of the
registry (`Shown`), and the rest answers a message of the session or of the backend's owner (`Told`).
-/

namespace ZclaudiaGateway

namespace Gateway

variable {Γ : Ctx}

/-- What goes out whatever the event asks for: outputs that name no backend, registry items that their receiver sees, and the
gateway's own offers. -/
inductive Shown (s : Gateway) : Output → Prop
  | discreet {o : Output} (h : o.names = false) : Shown s o
  | registry {p : String} {peer : PeerSession} {m : GatewayToPeer} {items : List BackendPresence}
    (hp : s.state.peers.get p = some peer) (hm : m.registryItems = some items)
    (hsees : ∀ item ∈ items, s.Sees peer item.backendId) : Shown s (.send peer.ws m)
  | proxied {p : String} {peer : PeerSession} {channelId ticket dataPath : String} {kind : Option String}
    (hp : s.state.peers.get p = some peer) : Shown s (.send peer.ws (.channelOffer channelId kind none ticket dataPath))

/-- Everything that goes out in the course of an event, by what the event asks for. -/
inductive Told (act : Option Request) (s : Gateway) : Output → Prop
  | shown {o : Output} (h : s.Shown o) : Told act s o
  | subscribed {p b topic : String} {peer : PeerSession} (hp : s.state.peers.get p = some peer)
    (hact : act = some (.message peer (.topicSubscribe b topic))) (hsees : s.Sees peer b) :
    Told act s (.send peer.ws (.topicSubscribed b topic))
  | retained {p b topic : String} {peer : PeerSession} {payload : JsonValue} (hp : s.state.peers.get p = some peer)
    (hact : act = some (.message peer (.topicSubscribe b topic))) (hsees : s.Sees peer b)
    (hretained : s.retainedPayload b topic = some payload) :
    Told act s (.send peer.ws (.topicMessage b topic (some payload)))
  | published {p b topic : String} {owner peer : PeerSession} {payload : Option JsonValue} {retained : Bool}
    (hp : s.state.peers.get p = some peer) (hact : act = some (.message owner (.topicPublish topic payload retained)))
    (howned : s.ownedBackend owner = some b) (hsees : s.Sees peer b) :
    Told act s (.send peer.ws (.topicMessage b topic payload))
  | ready {p b channelId ticket dataPath : String} {kind : Option String} {peer : PeerSession}
    (hp : s.state.peers.get p = some peer) (hact : act = some (.message peer (.channelOpen b kind)))
    (hsees : s.Sees peer b) : Told act s (.send peer.ws (.channelReady channelId ticket dataPath))
  | offered {p b channelId ticket dataPath : String} {kind : Option String} {asker owner : PeerSession}
    {lease : BackendLease} (hp : s.state.peers.get p = some asker)
    (hact : act = some (.message asker (.channelOpen b kind))) (hl : s.state.leases.get b = some lease)
    (howner : s.state.peers.get lease.peerSessionId = some owner) (hsees : s.Sees asker b) :
    Told act s (.send owner.ws (.channelOffer channelId kind (some asker.peerSessionId) ticket dataPath))
  | serverMessage {p b : String} {target : Option String} {sender peer : PeerSession} {raw : JsonValue}
    (hp : s.state.peers.get p = some peer) (hact : act = some (.message sender (.backendServerMessage b target raw)))
    (howned : s.ownedBackend sender = some b) (hsees : s.Sees peer b) :
    Told act s (.send peer.ws (.backendServerMessage raw))
  | sync {token p : String} {peer : PeerSession} {items : List BackendPresence} (hact : act = some (.registry token))
    (ht : s.recoveryTokens.get token = some p) (hp : s.state.peers.get p = some peer)
    (hsees : ∀ item ∈ items, s.Sees peer item.backendId) :
    Told act s (.reply { status := 200, body := .registry items })

variable {act : Option Request} {n : Nat} {h : List (String × CredentialRecord)} {s t : Gateway}

/-- What was shown later could be shown before: sessions and backends only go. -/
theorem Shown.before (hk : s.ControlKeeps t) {o : Output} (ho : t.Shown o) : s.Shown o := by
  cases ho with
  | discreet ho => exact .discreet ho
  | registry hp hm hsees =>
    obtain ⟨peer0, hp0, hkin⟩ := hk.peers _ _ hp
    have hsees0 := fun item hi => hk.sees hkin (hsees item hi)
    obtain ⟨isAlive, backendId, epoch, rfl⟩ := hkin
    change Shown _ (.send peer0.ws _)
    exact .registry hp0 hm hsees0
  | proxied hp =>
    obtain ⟨peer0, hp0, isAlive, backendId, epoch, rfl⟩ := hk.peers _ _ hp
    change Shown _ (.send peer0.ws _)
    exact .proxied hp0

theorem shown_discreet {net net' : Net} (he : net.Discreet net') : net.Emits s.Shown net' := he.mono fun _ => .discreet

theorem told_shown {net net' : Net} (he : net.Emits s.Shown net') : net.Emits (s.Told act) net' := he.mono fun _ => .shown

/-- A session sees what its part of the registry shows. -/
theorem visibleRegistry_sees (hs : ∀ b item, s.state.registry.get b = some item → item.backendId = b)
    (peer : PeerSession) : ∀ item ∈ visibleRegistry s.state peer, s.Sees peer item.backendId := by
  intro item hi
  obtain ⟨hmem, hreach⟩ := List.mem_filter.mp hi
  obtain ⟨b, hb⟩ := InsertionMap.mem_values_iff.mp (List.mem_filter.mp hmem).1
  exact ⟨item, (hs b item hb).symm ▸ hb, hreach⟩

/-- A broadcast shows every session its part of the registry. -/
theorem broadcast_shown (hpresence : ∀ b item, s.state.registry.get b = some item → item.backendId = b)
    (hplain : ∀ p peer, s.state.peers.get p = some peer → PlainScope peer.allowedBackends) (exclude : Option String) :
    s.net.Emits s.Shown (s.broadcastRegistrySnapshot exclude).net := by
  have hpeers (peer : PeerSession)
      (hp : peer ∈ s.state.peers.values.filter (fun peer => some peer.peerSessionId ≠ exclude)) :
      ∃ p, s.state.peers.get p = some peer :=
    InsertionMap.mem_values_iff.mp (List.mem_filter.mp hp).1
  have hscopes (peer : PeerSession)
      (hp : peer ∈ s.state.peers.values.filter (fun peer => some peer.peerSessionId ≠ exclude)) :
      PlainScope peer.allowedBackends := by
    obtain ⟨p, hp⟩ := hpeers peer hp
    exact hplain p peer hp
  have hcached : CachedScopes s.state .empty := fun key items hk => (nomatch hk)
  have hbroadcast := broadcastTo_eq _ hscopes hcached s.net
  change s.net.Emits s.Shown (broadcastTo s.state _ .empty s.net)
  rw [hbroadcast]
  refine Net.Emits.foldl _ (fun net peer hp => ?_) s.net
  obtain ⟨p, hp⟩ := hpeers peer hp
  exact .sendToWs (.registry hp rfl (visibleRegistry_sees hpresence peer)) net

/-- What a session is shown of the registry, it sees. -/
theorem shown_permits (hs : s.WithinReach Γ n h) : Permits s.Shown s := by
  have hpresence {t : Gateway} (hk : s.ControlKeeps t) (b : String) (item : BackendPresence)
      (hi : t.state.registry.get b = some item) : item.backendId = b := by
    obtain ⟨item0, hi0, lastSeenAt, rfl⟩ := hk.registry b item hi
    exact hs.presence b item0 hi0
  have hplain {t : Gateway} (hk : s.ControlKeeps t) (p : String) (peer : PeerSession)
      (hp : t.state.peers.get p = some peer) : PlainScope peer.allowedBackends := by
    obtain ⟨peer0, hp0, isAlive, backendId, epoch, rfl⟩ := hk.peers p peer hp
    exact (hs.admitted p peer0 hp0).1
  refine ⟨fun _ => .discreet, fun t hk p peer m hp hm => ?_, fun t hk exclude => ?_⟩
  · exact Shown.before hk (.registry hp hm (visibleRegistry_sees (hpresence hk) peer))
  · exact (broadcast_shown (hpresence hk) (hplain hk) exclude).mono fun _ => .before hk

/-! ## Events that ask for nothing -/

theorem ControlStep.shown (hstep : ControlStep Γ none s t) (hs : s.WithinReach Γ n h) :
    s.net.Emits s.Shown t.net := by
  cases hstep with
  | turn ht => exact shown_discreet ht.emits
  | deliver hd =>
    cases hd with
    | snapshot hp => exact .sendToWs (.registry hp rfl (visibleRegistry_sees hs.presence _)) _
    | broadcast => exact (shown_permits hs).broadcast s (.refl s) none
    | serverMessage hp hact => cases hact
    | sync hact ht hp => cases hact
  | topic hp hact ht => cases hact
  | openChannel hp hact hl hb hi hreach hroom => cases hact
  | proxyViaChannel hl hb =>
    unfold Gateway.proxyViaChannel
    split
    · exact shown_discreet (.reply rfl _)
    · exact .sendToWs (.proxied hb) _
  | disconnect p => exact handlePeerDisconnect_emits (shown_permits hs) p

theorem ControlSteps.shown (hsteps : ControlSteps Γ none s t) (ho : s.OwnedUpTo Γ n) (hs : s.WithinReach Γ n h) :
    s.net.Emits s.Shown t.net := by
  induction hsteps with
  | refl => exact .refl _
  | tail hsteps hstep ih =>
    exact ih.trans ((hstep.shown (ControlSteps.reach hsteps ho hs)).mono fun _ => .before (ControlSteps.keeps hsteps ho.1))

/-! ## Messages -/

theorem acceptsSubscribe_told (hs : s.WithinReach Γ n h) {p : String} {peer : PeerSession}
    (hp : s.state.peers.get p = some peer) {b topic : String} (ha : s.acceptsSubscribe peer b = true)
    (hact : act = some (.message peer (.topicSubscribe b topic))) (net : Net) :
    net.Emits (s.Told act) (s.subscribeAnswer peer b topic net) := by
  have hsees := acceptsSubscribe_sees hs ha
  have hsubscribed : net.Emits (s.Told act) (net.sendToWs peer.ws (.topicSubscribed b topic)) :=
    .sendToWs (.subscribed hp hact hsees) net
  unfold subscribeAnswer
  split
  · rename_i payload hpayload
    exact hsubscribed.trans (.sendToWs (.retained hp hact hsees hpayload) _)
  · exact hsubscribed

theorem handleTopicSubscribe_told (hs : s.WithinReach Γ n h) {p : String} {peer : PeerSession}
    (hp : s.state.peers.get p = some peer) (b topic : String) :
    s.net.Emits (s.Told (some (.message peer (.topicSubscribe b topic)))) (s.handleTopicSubscribe peer b topic).net := by
  rcases ha : s.acceptsSubscribe peer b with _ | _
  · obtain ⟨code, text, he⟩ := handleTopicSubscribe_refused ha topic
    rw [he]
    exact told_shown (shown_discreet (sendError_control _ _ _ s).emits)
  · rw [handleTopicSubscribe_accepted ha]
    exact acceptsSubscribe_told hs hp ha rfl s.net

theorem fanOut_told (hs : s.WithinReach Γ n h) {owner : PeerSession} {b topic : String} {payload : Option JsonValue}
    {retained : Bool} (hact : act = some (.message owner (.topicPublish topic payload retained)))
    (howned : s.ownedBackend owner = some b) (net : Net) :
    net.Emits (s.Told act) (fanOut s.state.peers
      (((s.topicSubs.get b).bind (fun topics => topics.get topic)).elim [] InsertionMap.keys)
      (.topicMessage b topic payload) net) := by
  refine Net.Emits.foldl _ (fun net p hp => ?_) net
  have hsubscribed : s.subscribed b topic p = true := by
    unfold subscribed
    rcases hsubs : (s.topicSubs.get b).bind (fun topics => topics.get topic) with _ | subs
    · rw [hsubs] at hp
      simp at hp
    · rw [hsubs] at hp
      exact InsertionMap.has_iff_mem_keys.mpr hp
  split
  · rename_i peer hpeer
    exact .sendToWs (.published hpeer hact howned (hs.subscribers b topic p peer hsubscribed hpeer)) net
  · exact .refl net

theorem handleTopicPublish_told (hs : s.WithinReach Γ n h) (owner : PeerSession) (topic : String)
    (payload : Option JsonValue) (retained : Bool) :
    s.net.Emits (s.Told (some (.message owner (.topicPublish topic payload retained))))
      (s.handleTopicPublish owner topic payload retained).net := by
  rcases handleTopicPublish_cases s owner topic payload retained with ⟨-, he⟩ | ⟨b, howned, he⟩
  · rw [he]
    exact .refl _
  · have hnet := publishRetained_net s b topic payload retained
    rw [he]
    exact Net.Emits.trans (.of_eq (congrArg Net.outbox hnet)) (fanOut_told hs rfl howned _)

theorem openChannel_told {p target : String} {peer backendPeer : PeerSession} {lease : BackendLease}
    {kind : Option String} (hp : s.state.peers.get p = some peer)
    (hl : s.state.leases.get target = some lease) (hb : s.state.peers.get lease.peerSessionId = some backendPeer)
    (hsees : s.Sees peer target) :
    s.net.Emits (s.Told (some (.message peer (.channelOpen target kind))))
      (s.openChannel Γ peer backendPeer lease target kind).net :=
  Net.Emits.trans (.sendToWs (.offered hp rfl hl hb hsees) _) (.sendToWs (.ready hp rfl hsees) _)

theorem handleChannelOpen_told (hs : s.WithinReach Γ n h) {p : String} {peer : PeerSession}
    (hp : s.state.peers.get p = some peer) (target : String) (kind : Option String) :
    s.net.Emits (s.Told (some (.message peer (.channelOpen target kind)))) (s.handleChannelOpen Γ peer target kind).net := by
  have herror (code : GatewayErrorCode) (text : String) :
      s.net.Emits (s.Told (some (.message peer (.channelOpen target kind)))) (s.sendError peer.ws code text).net :=
    told_shown (shown_discreet (sendError_control _ _ _ s).emits)
  unfold handleChannelOpen
  split
  · exact herror _ _
  · dsimp only
    split
    · rename_i presence lease hi hl
      split
      · exact herror _ _
      · rename_i backendPeer hb
        split
        · exact herror _ _
        · rename_i hreach
          split
          · exact herror _ _
          · rw [Bool.not_eq_false, hs.presence target presence hi] at hreach
            exact openChannel_told hp hl hb ⟨presence, hi, hreach⟩
    · exact herror _ _

/-- A backend's message goes to a session that reaches it. -/
theorem handleBackendServerMessage_told (ho : s.Ownership) {q : String} {sender : PeerSession}
    (hq : s.state.peers.get q = some sender) (b : String) (target : Option String) (raw : JsonValue) :
    s.net.Emits (s.Told (some (.message sender (.backendServerMessage b target raw))))
      (s.handleBackendServerMessage sender b target raw).net := by
  unfold handleBackendServerMessage
  split
  · exact .refl _
  · rename_i hcurrent
    split
    · exact .refl _
    · rename_i hb
      rw [not_not] at hb
      split
      · exact .refl _
      · rename_i peer htarget
        obtain ⟨p, -, hp⟩ := Option.bind_eq_some_iff.mp htarget
        split
        · rename_i hreach
          have howned : s.ownedBackend sender = some b := by
            rw [ownedBackend, if_pos (by simpa using hcurrent), hb]
          -- The backend is registered in its owner's namespace.
          obtain ⟨lease, hl, howner⟩ := ho.owner q sender b hq hb
          obtain ⟨-, -, sender', item, hq', -, -, hi, -, hns⟩ := ho.lease b lease hl
          rw [howner, hq, Option.some.injEq] at hq'
          subst hq'
          exact .sendToWs (.serverMessage hp rfl howned ⟨item, hi, hns ▸ hreach⟩) _
        · exact .refl _

/-- What the router puts out for a message of a session. -/
theorem routeMessage_told (ho : s.Ownership) (hs : s.WithinReach Γ n h) {p : String} {peer : PeerSession}
    (hp : s.state.peers.get p = some peer) (message : GatewayMessage) :
    s.net.Emits (s.Told (some (.message peer message))) (s.routeMessage Γ peer message).net := by
  have hteardown (reason : ChannelClosedReason) (channelId : String) :
      s.net.Emits (s.Told (some (.message peer message))) (s.teardownChannel reason channelId).net :=
    told_shown (shown_discreet (ControlTurns.teardown reason channelId s).emits)
  cases message with
  | backendHeartbeat epoch => exact told_shown (shown_discreet (handleBackendHeartbeat_control _ _ s).emits)
  | requestRegistrySnapshot =>
    exact told_shown (.sendToWs (.registry hp rfl (visibleRegistry_sees hs.presence peer)) _)
  | backendServerMessage b target raw => exact handleBackendServerMessage_told ho hp b target raw
  | pushNotificationRequest event => exact told_shown (shown_discreet (handlePushNotificationRequest_control _ _ s).emits)
  | ping ts => exact told_shown (shown_discreet (.sendToWs rfl peer.ws _))
  | channelOpen target kind => exact handleChannelOpen_told hs hp target kind
  | channelReject channelId =>
    change s.net.Emits _ (s.handleChannelReject peer channelId).net
    unfold handleChannelReject
    split
    · exact .refl _
    · split
      · exact hteardown _ _
      · exact .refl _
  | channelClose channelId =>
    change s.net.Emits _ (s.handleChannelClose peer channelId).net
    unfold handleChannelClose
    split
    · exact .refl _
    · split
      · exact hteardown _ _
      · exact .refl _
  | topicSubscribe b topic => exact handleTopicSubscribe_told hs hp b topic
  | topicUnsubscribe b topic =>
    exact told_shown (shown_discreet (.sendToWs rfl peer.ws _))
  | topicPublish topic payload retained => exact handleTopicPublish_told hs peer topic payload retained
  | unknown type => exact told_shown (shown_discreet (sendError_control _ _ _ s).emits)

/-! ## Recovery -/

theorem syncRegistryRoute_told (hs : s.WithinReach Γ n h) (ip : String) (authorization : Option String) :
    s.net.Emits (s.Told ((bearerToken authorization).map .registry)) (s.syncRegistryRoute Γ ip authorization).net := by
  unfold syncRegistryRoute
  split
  · exact told_shown (shown_discreet (denyUnauthorized_control _ _ s).emits)
  · rename_i token hbearer
    split
    · exact told_shown (shown_discreet (denyUnauthorized_control _ _ s).emits)
    · rename_i peer hpeer
      obtain ⟨p, ht, hp⟩ := Option.bind_eq_some_iff.mp hpeer
      exact .emit (.sync (congrArg (Option.map Request.registry) hbearer) ht hp (visibleRegistry_sees hs.presence peer)) _

/-- What an event but a hello puts out. -/
theorem handle_told (e : Event) (ho : s.Owned Γ) (hs : s.WithinReach Γ s.drawn h) (hno : s.helloOf Γ e = none) :
    s.net.Emits (s.Told (s.requested Γ e)) (s.handle Γ e).net := by
  have hquiet (hact : s.requested Γ e = none) : s.net.Emits (s.Told (s.requested Γ e)) (s.handle Γ e).net := by
    by_cases he : e = .leaseCheckInterval
    · subst he
      exact told_shown (leaseChecks_emits _ ho.1 (shown_permits hs))
    · have hsteps := handle_control he hno
      rw [hact] at hsteps
      exact told_shown (hsteps.shown ho hs)
  rcases hact : s.requested Γ e with _ | (⟨peer, message⟩ | token)
  · exact hact ▸ hquiet hact
  · obtain ⟨hhandle, p, -, -, -, -, -, -, hp⟩ := handle_routed (requested_message hact)
    rw [hhandle]
    exact routeMessage_told ho.1 hs hp message
  · obtain ⟨ip, authorization, rfl, hbearer⟩ := requested_registry hact
    have htold := syncRegistryRoute_told hs ip authorization
    rw [hbearer] at htold
    exact htold

end Gateway

end ZclaudiaGateway
