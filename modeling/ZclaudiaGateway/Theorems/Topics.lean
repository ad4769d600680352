import ZclaudiaGateway.Lemmas.Broadcasts
import ZclaudiaGateway.Lemmas.TopicHistory
import ZclaudiaGateway.Lemmas.Sample

/-!
# Topics

A publish of a backend's owner goes to every connected session whose last word on the topic since the owner's epoch began is a
subscription, once, and to no other; a subscription is answered with the payload last retained in the epoch. All of this is
about payloads that `JSON.stringify` gets through.
-/

namespace ZclaudiaGateway

open Gateway

/-- No message of a topic. -/
def GatewayToPeer.untopical : GatewayToPeer → Bool
  | .topicMessage _ _ _ => false
  | _ => true

/-- The output is no message of a topic. -/
def Output.untopical : Output → Bool
  | .send _ m => m.untopical
  | _ => true

theorem Output.untopical_of_quiet (o : Output) (h : o.names = false) : o.untopical = true := by
  cases o with
  | send ws m => cases m <;> first | rfl | cases h
  | _ => rfl

/-- No message of a topic goes out in between. -/
def Net.Untopical (net net' : Net) : Prop := net.Emits (fun o => o.untopical = true) net'

theorem Net.Untopical.sendToWs {m : GatewayToPeer} (hm : m.untopical = true) (ws : SocketId) (net : Net) :
    net.Untopical (net.sendToWs ws m) := by
  have hsent : (Output.send ws m).untopical = true := hm
  exact Emits.sendToWs hsent net

theorem Net.Untopical.reply (r : HttpReply) (net : Net) : net.Untopical (net.emit (.reply r)) := by
  have hreply : (Output.reply r).untopical = true := rfl
  exact Emits.emit hreply net

namespace Gateway

variable {Γ : Ctx} {s t : Gateway}

/-! ## Where topic messages come from -/

/-- A broadcast is no message of a topic. -/
theorem broadcastTo_untopical (st : GatewayState) (peers : List PeerSession)
    (perScope : InsertionMap String (List BackendPresence)) (net : Net) :
    net.Untopical (broadcastTo st peers perScope net) := by
  induction peers generalizing perScope net with
  | nil => exact Net.Emits.refl net
  | cons peer peers ih =>
    unfold broadcastTo
    rcases scopedSnapshot st peer perScope with ⟨items, perScope'⟩
    exact (Net.Untopical.sendToWs rfl peer.ws net).trans (ih perScope' _)

theorem untopical_permits (s : Gateway) : Permits (fun o => o.untopical = true) s := by
  refine ⟨Output.untopical_of_quiet, fun t hk p peer m hp hm => ?_, fun t hk exclude => broadcastTo_untopical _ _ _ _⟩
  cases m <;> first | rfl | cases hm

theorem ControlStep.untopical {act : Option Request} (hstep : ControlStep Γ act s t) (hact : NoTopicMessage act) :
    s.net.Untopical t.net := by
  cases hstep with
  | turn ht => exact (untopical_permits s).quiet ht.emits
  | deliver hd =>
    cases hd with
    | snapshot hp => exact .sendToWs rfl _ _
    | broadcast => exact (untopical_permits s).broadcast s (.refl s) none
    | serverMessage hp hreq =>
      unfold handleBackendServerMessage
      repeat' split
      all_goals first | exact Net.Emits.refl _ | exact .sendToWs rfl _ _
    | sync hreq ht hp => exact .reply _ _
  | topic hp hreq ht =>
    rw [hact _ _ hreq] at ht
    cases ht
  | openChannel hp hreq hl hb hi hreach hroom => exact (Net.Untopical.sendToWs rfl _ _).trans (Net.Untopical.sendToWs rfl _ _)
  | proxyViaChannel hl hb =>
    unfold Gateway.proxyViaChannel
    split
    · exact .reply _ _
    · exact .sendToWs rfl _ _
  | disconnect p => exact handlePeerDisconnect_emits (untopical_permits s) p

theorem ControlSteps.untopical {act : Option Request} (hsteps : ControlSteps Γ act s t) (hact : NoTopicMessage act) :
    s.net.Untopical t.net := by
  induction hsteps with
  | refl => exact Net.Emits.refl _
  | tail _ hstep ih => exact ih.trans (hstep.untopical hact)

/-- An event that brings no message of the topic protocol puts out no message of a topic. -/
theorem handle_untopical (e : Event) (ho : s.Ownership) (hact : NoTopicMessage (s.requested Γ e)) :
    s.net.Untopical (s.handle Γ e).net := by
  rcases hh : s.helloOf Γ e with _ | ⟨ws, conn, hello⟩
  · by_cases he : e = .leaseCheckInterval
    · subst he
      exact leaseChecks_emits _ ho (untopical_permits s)
    · exact (handle_control he hh).untopical hact
  · rw [handle_hello hh]
    exact greet_emits ws conn hello (untopical_permits _)

/-! ## Fan-out -/

theorem readyState_sendToWs (net : Net) (ws : SocketId) (m : GatewayToPeer) (w : SocketId) :
    (net.sendToWs ws m).readyState w = net.readyState w := by
  unfold Net.sendToWs
  split <;> rfl

/-- A fan-out sends the message once to every subscriber that is connected. -/
theorem fanOut_outbox (peers : InsertionMap String PeerSession) (subs : List String) (m : GatewayToPeer) (net : Net) :
    (fanOut peers subs m net).outbox = net.outbox ++
      ((subs.filterMap peers.get).filter (fun peer => net.readyState peer.ws = .open_)).map
        (fun peer => .send peer.ws m) := by
  induction subs generalizing net with
  | nil => simp [fanOut]
  | cons p subs ih =>
    rcases hp : peers.get p with _ | peer
    · have hhead : fanOut peers (p :: subs) m net = fanOut peers subs m net := by
        simp [fanOut, hp]
      rw [hhead, ih, List.filterMap_cons, hp]
    · have hhead : fanOut peers (p :: subs) m net = fanOut peers subs m (net.sendToWs peer.ws m) := by
        simp [fanOut, hp]
      rw [hhead, ih, List.filterMap_cons, hp]
      simp only [readyState_sendToWs]
      by_cases hopen : net.readyState peer.ws = .open_
      · simp [Net.sendToWs, Net.emit, hopen]
      · simp [Net.sendToWs, hopen]

/-- The session is there and its connection is open. -/
def Connected (s : Gateway) (peer : PeerSession) : Prop :=
  s.state.peers.get peer.peerSessionId = some peer ∧ s.net.readyState peer.ws = .open_

/-- Sessions on connections of their own, each listed once. -/
theorem connections_nodup (hsocket : OnItsSocket s) {ids : List String} (hids : ids.Nodup) :
    ((ids.filterMap s.state.peers.get).map (·.ws)).Nodup := by
  refine List.Nodup.map_on (fun peer hp peer' hp' he => ?_) ?_
  · obtain ⟨p, -, hp⟩ := List.mem_filterMap.mp hp
    obtain ⟨p', -, hp'⟩ := List.mem_filterMap.mp hp'
    have hsession := hsocket p peer hp
    rw [he, hsocket p' peer' hp', Option.some.injEq] at hsession
    rw [hsession, hp] at hp'
    exact Option.some.inj hp'
  · refine hids.filterMap (fun p p' peer hp hp' => ?_)
    have hsession := hsocket p peer hp
    rw [hsocket p' peer hp', Option.some.injEq] at hsession
    exact hsession.symm

/-! ## One event -/

/-- What an event comes to for the topics, after the history `h`. -/
structure TopicsServed (Γ : Ctx) (h : List TopicEntry) (s t : Gateway) (e : Event) : Prop where
  /-- A publish of a backend's owner reaches the connected subscribers, each once. -/
  published : ∀ owner topic payload retained backendId,
    s.routed Γ e = some (owner, .topicPublish topic payload retained) → s.ownedBackend owner = some backendId →
    ∃ peers : List PeerSession, (peers.map (·.ws)).Nodup ∧
      (∀ peer, peer ∈ peers ↔ s.Connected peer ∧ Subscribed h peer.peerSessionId backendId topic) ∧
      t.net.outbox = peers.map (fun peer => .send peer.ws (.topicMessage backendId topic payload))
  /-- A publish of any other session reaches nobody. -/
  ignored : ∀ peer topic payload retained, s.routed Γ e = some (peer, .topicPublish topic payload retained) →
    s.ownedBackend peer = none → t.net.outbox = []
  /-- A subscription is answered with the payload that is retained, if there is one. -/
  subscribed : ∀ peer backendId topic, s.routed Γ e = some (peer, .topicSubscribe backendId topic) →
    s.acceptsSubscribe peer backendId = true → s.net.readyState peer.ws = .open_ →
    ∃ payload : Option JsonValue, (∀ v, payload = some v ↔ Retained h backendId topic v) ∧
      t.net.outbox = .send peer.ws (.topicSubscribed backendId topic) ::
        (payload.map (fun v => Output.send peer.ws (.topicMessage backendId topic (some v)))).toList
  /-- Topics have no other messages. -/
  only : ∀ ws backendId topic payload, .send ws (.topicMessage backendId topic payload) ∈ t.net.outbox →
    (∃ owner retained, s.routed Γ e = some (owner, .topicPublish topic payload retained) ∧
      s.ownedBackend owner = some backendId) ∨
    ∃ peer v, s.routed Γ e = some (peer, .topicSubscribe backendId topic) ∧ peer.ws = ws ∧
      s.acceptsSubscribe peer backendId = true ∧ payload = some v ∧ Retained h backendId topic v
  /-- A publish that the cap refuses leaves every retained payload as it was. -/
  full : ∀ owner topic payload backendId, s.routed Γ e = some (owner, .topicPublish topic (some payload) true) →
    s.ownedBackend owner = some backendId → s.acceptsRetain backendId topic = false →
    ∀ b topic', t.retainedPayload b topic' = s.retainedPayload b topic'

variable {n : Nat} {h : List TopicEntry}

/-- The sessions that a publish reaches. -/
theorem publish_peers (hs : s.TopicsHold Γ n h) (ho : s.Ownership) (hsocket : OnItsSocket s) {b : String}
    (hl : s.state.leases.has b = true) (topic : String) :
    ∃ peers : List PeerSession, (peers.map (·.ws)).Nodup ∧
      (∀ peer, peer ∈ peers ↔ s.Connected peer ∧ Subscribed h peer.peerSessionId b topic) ∧
      ∀ m, (fanOut s.state.peers (((s.topicSubs.get b).bind (fun topics => topics.get topic)).elim [] InsertionMap.keys) m
        s.net).outbox = s.net.outbox ++ peers.map (fun peer => .send peer.ws m) := by
  set subs := ((s.topicSubs.get b).bind (fun topics => topics.get topic)).elim [] InsertionMap.keys with hsubs
  have hmem (p : String) : p ∈ subs ↔ s.subscribed b topic p = true := by
    rw [hsubs, Gateway.subscribed]
    rcases (s.topicSubs.get b).bind (fun topics => topics.get topic) with _ | topics
    · simp
    · exact InsertionMap.has_iff_mem_keys.symm
  have hnodup : subs.Nodup := by
    rw [hsubs]
    rcases (s.topicSubs.get b).bind (fun topics => topics.get topic) with _ | topics
    · exact List.nodup_nil
    · exact topics.nodup
  refine ⟨_, ?_, fun peer => ?_, fun m => fanOut_outbox s.state.peers subs m s.net⟩
  · exact (connections_nodup hsocket hnodup).sublist (List.filter_sublist.map _)
  · rw [List.mem_filter, List.mem_filterMap, decide_eq_true_eq]
    constructor
    · rintro ⟨⟨p, hp, hpeer⟩, hopen⟩
      have hkey := ho.key p peer hpeer
      refine ⟨⟨hkey.symm ▸ hpeer, hopen⟩, ?_⟩
      rw [hkey, ← hs.subscribers b topic p hl (InsertionMap.has_iff.mpr ⟨peer, hpeer⟩)]
      exact (hmem p).mp hp
    · rintro ⟨⟨hpeer, hopen⟩, hsubscribed⟩
      refine ⟨⟨peer.peerSessionId, ?_, hpeer⟩, hopen⟩
      rw [hmem]
      exact (hs.subscribers b topic _ hl (InsertionMap.has_iff.mpr ⟨peer, hpeer⟩)).mpr hsubscribed

/-- A subscription is answered with a message of the topic only if it is accepted and a payload is retained. -/
theorem subscribe_message (hquiet : s.net.outbox = []) {peer : PeerSession} {b' topic' : String} {ws : SocketId}
    {b topic : String} {payload : Option JsonValue}
    (hm : .send ws (.topicMessage b topic payload) ∈ (s.handleTopicSubscribe peer b' topic').net.outbox) :
    ((b = b' ∧ topic = topic') ∧ peer.ws = ws) ∧ s.acceptsSubscribe peer b = true ∧
      ∃ v, payload = some v ∧ s.retainedPayload b topic = some v := by
  rcases ha : s.acceptsSubscribe peer b' with _ | _
  · obtain ⟨code, text, he⟩ := handleTopicSubscribe_refused ha topic'
    rw [he] at hm
    have huntopical := Net.Emits.of_quiet (Net.Untopical.sendToWs rfl peer.ws s.net) hquiet _ hm
    cases huntopical
  · rw [handleTopicSubscribe_accepted ha] at hm
    unfold subscribeAnswer at hm
    rcases hv : s.retainedPayload b' topic' with _ | v
    · rw [hv] at hm
      have huntopical := Net.Emits.of_quiet (Net.Untopical.sendToWs rfl peer.ws s.net) hquiet _ hm
      cases huntopical
    · rw [hv] at hm
      have hsubscribed : s.net.Emits (fun o => o.untopical = true ∨ o = .send peer.ws (.topicMessage b' topic' (some v)))
          (s.net.sendToWs peer.ws (.topicSubscribed b' topic')) := .sendToWs (Or.inl rfl) _
      rcases (hsubscribed.trans (.sendToWs (Or.inr rfl) _)).of_quiet hquiet _ hm with huntopical | he
      · cases huntopical
      · cases he
        exact ⟨⟨⟨rfl, rfl⟩, rfl⟩, ha, v, rfl, hv⟩

/-- A publish puts out messages of its topic only if its session owns the backend. -/
theorem publish_message (hquiet : s.net.outbox = []) {owner : PeerSession} {topic' : String} {payload' : Option JsonValue}
    {retained : Bool} {ws : SocketId} {b topic : String} {payload : Option JsonValue}
    (hm : .send ws (.topicMessage b topic payload) ∈ (s.handleTopicPublish owner topic' payload' retained).net.outbox) :
    (topic = topic' ∧ payload = payload') ∧ s.ownedBackend owner = some b := by
  rcases handleTopicPublish_cases s owner topic' payload' retained with ⟨-, he⟩ | ⟨b', howned, he⟩
  · rw [he, hquiet] at hm
    cases hm
  · rw [he] at hm
    dsimp only [onNet] at hm
    rw [publishRetained_net, fanOut_outbox, hquiet, List.nil_append] at hm
    obtain ⟨peer, -, hpeer⟩ := List.mem_map.mp hm
    cases hpeer
    exact ⟨⟨rfl, rfl⟩, howned⟩

/-- What an event of a running gateway comes to, from what the topic tables hold. -/
theorem TopicsServed.handle (hs : s.TopicsHold Γ n h) (ho : s.Ownership) (hsocket : OnItsSocket s)
    (hquiet : s.net.outbox = []) (e : Event) : TopicsServed Γ h s (s.handle Γ e) e := by
  have hpublish {owner : PeerSession} {topic : String} {payload : Option JsonValue} {retained : Bool}
      (hr : s.routed Γ e = some (owner, .topicPublish topic payload retained)) :
      s.handle Γ e = s.handleTopicPublish owner topic payload retained := (handle_routed hr).1
  have hsubscribe {peer : PeerSession} {b topic : String} (hr : s.routed Γ e = some (peer, .topicSubscribe b topic)) :
      s.handle Γ e = s.handleTopicSubscribe peer b topic := (handle_routed hr).1
  have hretained {peer : PeerSession} {b topic : String} (ha : s.acceptsSubscribe peer b = true) (v : JsonValue) :
      s.retainedPayload b topic = some v ↔ Retained h b topic v :=
    hs.retained b topic v (acceptsSubscribe_leased ho ha)
  refine ⟨fun owner topic payload retained b hr howned => ?_, fun peer topic payload retained hr hnone => ?_,
    fun peer b topic hr ha hopen => ?_, fun ws b topic payload hm => ?_, fun owner topic payload b hr howned hno => ?_⟩
  · rcases handleTopicPublish_cases s owner topic payload retained with ⟨hnone, -⟩ | ⟨b', howned', he⟩
    · rw [hnone] at howned
      cases howned
    · rw [howned, Option.some.injEq] at howned'
      subst howned'
      obtain ⟨peers, hnodup, hpeers, hout⟩ := publish_peers hs ho hsocket (ownedBackend_leased howned) topic
      refine ⟨peers, hnodup, hpeers, ?_⟩
      rw [hpublish hr, he]
      dsimp only [onNet]
      rw [publishRetained_net, hout, hquiet, List.nil_append]
  · rcases handleTopicPublish_cases s peer topic payload retained with ⟨-, he⟩ | ⟨b, howned, -⟩
    · rw [hpublish hr, he, hquiet]
    · rw [hnone] at howned
      cases howned
  · refine ⟨s.retainedPayload b topic, hretained ha, ?_⟩
    rw [hsubscribe hr, handleTopicSubscribe_accepted ha]
    unfold subscribeAnswer
    rcases s.retainedPayload b topic with _ | payload
    · simp [Net.sendToWs, Net.emit, hopen, hquiet]
    · have hopen' := (readyState_sendToWs s.net peer.ws (.topicSubscribed b topic) peer.ws).trans hopen
      dsimp only
      rw [Net.sendToWs, if_pos hopen']
      simp [Net.sendToWs, Net.emit, hopen, hquiet]
  · have huntopical (hno : ∀ peer m, s.routed Γ e = some (peer, m) → m.isTopic = false) : False := by
      have hout := (handle_untopical e ho (noTopicMessage_of_routed hno)).of_quiet hquiet _ hm
      cases hout
    rcases hr : s.routed Γ e with _ | ⟨peer, m⟩
    · exact (huntopical fun peer m hp => by rw [hr] at hp; cases hp).elim
    · have hother (hno : m.isTopic = false) : False := huntopical fun peer' m' hp => by
        rw [hr] at hp
        cases hp
        exact hno
      cases m with
      | topicSubscribe b' topic' =>
        rw [hsubscribe hr] at hm
        obtain ⟨⟨⟨rfl, rfl⟩, hws⟩, ha, v, hv, hv'⟩ := subscribe_message hquiet hm
        exact Or.inr ⟨peer, v, rfl, hws, ha, hv, (hretained ha v).mp hv'⟩
      | topicUnsubscribe b' topic' =>
        rw [(handle_routed hr).1] at hm
        have hout := Net.Emits.of_quiet (Net.Untopical.sendToWs (m := .topicUnsubscribed b' topic') rfl peer.ws s.net) hquiet _ hm
        cases hout
      | topicPublish topic' payload' retained =>
        rw [hpublish hr] at hm
        obtain ⟨⟨rfl, rfl⟩, howned⟩ := publish_message hquiet hm
        exact Or.inl ⟨peer, retained, rfl, howned⟩
      | _ => exact (hother rfl).elim
  · rcases handleTopicPublish_cases s owner topic (some payload) true with ⟨hnone, -⟩ | ⟨b', howned', he⟩
    · rw [hnone] at howned
      cases howned
    · rw [howned, Option.some.injEq] at howned'
      subst howned'
      intro b' topic'
      rw [hpublish hr, he]
      change (s.retain b topic payload).retainedPayload b' topic' = _
      rw [retainedPayload_retain, hno]
      simp

end Gateway

/-! ## Runs -/

/-- Over every run a backend retains at most 64 topics, and every event serves the topics by what stands in the history since
the backends' epochs began. -/
theorem topics_per_epoch (Γ : Ctx) (storage : Storage) (es : List Event) :
    (∀ backendId retained, ((gateway Γ storage).run es).retainedTopics.get backendId = some retained →
      retained.size ≤ MAX_RETAINED_TOPICS_PER_BACKEND) ∧
    ∀ e, ((gateway Γ storage).run es).uncaught = none → TopicsServed Γ (topicHistory Γ storage es)
      ((gateway Γ storage).run es) ((gateway Γ storage).run (es ++ [e])) e := by
  have hholds := topicsHold_run Γ storage es
  have howned := (@owned_run Γ storage es).1
  have hsocket := @onItsSocket_run Γ storage es
  refine ⟨hholds.few, fun e hrun => ?_⟩
  rw [EventMachine.run_snoc]
  change TopicsServed Γ _ _ (Gateway.step Γ _ e) e
  rw [step_running hrun]
  generalize (gateway Γ storage).run es = s at *
  have hquiet : s.quiet.TopicsHold Γ s.drawn (topicHistory Γ storage es) :=
    hholds.lose (.same rfl rfl (fun _ => rfl) (fun _ => rfl))
  have hserved := TopicsServed.handle hquiet (howned.only rfl rfl rfl rfl) hsocket rfl e
  exact ⟨hserved.published, hserved.ignored, hserved.subscribed, hserved.only, hserved.full⟩

/-- A device subscribes to a topic of a backend. -/
def sampleSubscription : List Event :=
  [.connect, .text 0 (sampleHello "zgb_old" true), .connect, .text 2 (sampleHello "zgd_device" false),
    .text 2 (.obj [("type", .str "topic_subscribe"), ("backendId", .str "B"), ("topic", .str "x")])]

/-- The backend's publish. -/
def samplePublish : JsonValue :=
  .obj [("type", .str "topic_publish"), ("topic", .str "x"), ("payload", .str "v"), ("retain", .bool true)]

/-- The context of the publish. -/
def samplePublishCtx : Ctx :=
  .sample [sampleHello "zgb_old" true, sampleHello "zgd_device" false,
    .obj [("type", .str "topic_subscribe"), ("backendId", .str "B"), ("topic", .str "x")], samplePublish]

theorem publish_reaches_subscriber : ∃ peer : PeerSession,
    Subscribed (topicHistory samplePublishCtx sampleStorage sampleSubscription) peer.peerSessionId "B" "x" := by
  have hrun : ((gateway samplePublishCtx sampleStorage).run sampleSubscription).uncaught = none := by decide +kernel
  have hserved := (topics_per_epoch samplePublishCtx sampleStorage sampleSubscription).2 (.text 0 samplePublish) hrun
  have hpublish : (((gateway samplePublishCtx sampleStorage).run sampleSubscription).routed samplePublishCtx
      (.text 0 samplePublish)).any (fun r =>
        (match r.2 with
         | .topicPublish topic _ _ => decide (topic = "x")
         | _ => false) &&
        decide (((gateway samplePublishCtx sampleStorage).run sampleSubscription).ownedBackend r.1 = some "B")) = true := by
    decide +kernel
  obtain ⟨⟨owner, m⟩, hrouted, hm⟩ := (Option.any_eq_true _ _).mp hpublish
  rw [Bool.and_eq_true, decide_eq_true_eq] at hm
  obtain ⟨hm, howned⟩ := hm
  have hsent : ((gateway samplePublishCtx sampleStorage).run (sampleSubscription ++
      [.text 0 samplePublish])).net.outbox.isEmpty = false := by
    decide +kernel
  cases m with
  | topicPublish topic payload retained =>
    obtain rfl := of_decide_eq_true hm
    obtain ⟨peers, -, hpeers, hout⟩ := hserved.published owner "x" payload retained "B" hrouted howned
    rcases peers with _ | ⟨peer, peers⟩
    · rw [hout] at hsent
      cases hsent
    · exact ⟨peer, ((hpeers peer).mp (by simp)).2⟩
  | _ => cases hm

end ZclaudiaGateway
