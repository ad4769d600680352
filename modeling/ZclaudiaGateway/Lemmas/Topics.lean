import ZclaudiaGateway.Lemmas.Connections
import ZclaudiaGateway.Lemmas.Store

/-!
# The topic tables

Subscriptions and retained payloads sit in nested maps. They are read here as who subscribed and what is retained, and every
operation is said in these terms.
-/

namespace ZclaudiaGateway

namespace Gateway

variable {Γ : Ctx}

/-- The session is in the topic's subscriber set. -/
def subscribed (s : Gateway) (backendId topic p : String) : Bool :=
  ((s.topicSubs.get backendId).bind (fun topics => topics.get topic)).any (fun subs => subs.has p)

/-- The payload retained for a topic. -/
def retainedPayload (s : Gateway) (backendId topic : String) : Option JsonValue :=
  (s.retainedTopics.get backendId).bind (fun retained => retained.get topic)

/-- The tables hold nothing of the backend. -/
def NoTopics (s : Gateway) (backendId : String) : Prop :=
  s.topicSubs.get backendId = none ∧ s.retainedTopics.get backendId = none

theorem NoTopics.subscribed {s : Gateway} {b : String} (h : s.NoTopics b) (topic p : String) :
    s.subscribed b topic p = false := by
  rw [Gateway.subscribed, h.1]
  rfl

theorem NoTopics.retainedPayload {s : Gateway} {b : String} (h : s.NoTopics b) (topic : String) :
    s.retainedPayload b topic = none := by
  rw [Gateway.retainedPayload, h.2]
  rfl

/-- The tables of two states agree on a backend. -/
theorem subscribed_congr {s t : Gateway} {b : String} (h : t.topicSubs.get b = s.topicSubs.get b) (topic p : String) :
    t.subscribed b topic p = s.subscribed b topic p := by
  rw [subscribed, h, subscribed]

theorem retainedPayload_congr {s t : Gateway} {b : String} (h : t.retainedTopics.get b = s.retainedTopics.get b)
    (topic : String) : t.retainedPayload b topic = s.retainedPayload b topic := by
  rw [retainedPayload, h, retainedPayload]

/-! ## Messages of the topic protocol -/

/-- A subscription is accepted: the protocol is right and the backend is online and within reach. -/
def acceptsSubscribe (s : Gateway) (peer : PeerSession) (backendId : String) : Bool :=
  decide (peer.protocolVersion = 4) &&
    (s.state.registry.get backendId).any (fun presence => peer.canReach presence.ns presence.backendId)

/-- What answers an accepted subscription: the topic's retained payload, if there is one, as the first message. -/
def subscribeAnswer (s : Gateway) (peer : PeerSession) (backendId topic : String) (net : Net) : Net :=
  match s.retainedPayload backendId topic with
  | some payload =>
    (net.sendToWs peer.ws (.topicSubscribed backendId topic)).sendToWs peer.ws (.topicMessage backendId topic (some payload))
  | none => net.sendToWs peer.ws (.topicSubscribed backendId topic)

theorem handleTopicSubscribe_refused {s : Gateway} {peer : PeerSession} {backendId : String}
    (h : s.acceptsSubscribe peer backendId = false) (topic : String) :
    ∃ code message, s.handleTopicSubscribe peer backendId topic = s.sendError peer.ws code message := by
  unfold handleTopicSubscribe
  split
  · exact ⟨_, _, rfl⟩
  · rename_i hversion
    have hversion : peer.protocolVersion = 4 := by simpa using hversion
    split
    · exact ⟨_, _, rfl⟩
    · rename_i presence hpresence
      have hno : peer.canReach presence.ns presence.backendId = false := by
        simpa [acceptsSubscribe, hversion, hpresence] using h
      rw [if_pos hno]
      exact ⟨_, _, rfl⟩

theorem handleTopicSubscribe_accepted {s : Gateway} {peer : PeerSession} {backendId : String}
    (h : s.acceptsSubscribe peer backendId = true) (topic : String) :
    s.handleTopicSubscribe peer backendId topic =
      { s with
        topicSubs := s.topicSubs.set backendId (((s.topicSubs.get backendId).getD .empty).set topic
          (((((s.topicSubs.get backendId).getD .empty).get topic).getD .empty).set peer.peerSessionId ()))
        net := s.subscribeAnswer peer backendId topic s.net } := by
  simp only [acceptsSubscribe, Bool.and_eq_true, decide_eq_true_eq, Option.any_eq_true] at h
  obtain ⟨hversion, presence, hpresence, hreach⟩ := h
  unfold handleTopicSubscribe subscribeAnswer retainedPayload
  rw [if_neg (by simp [hversion]), hpresence]
  dsimp only
  rw [if_neg (by simp [hreach])]
  dsimp only [onNet]
  rcases (s.retainedTopics.get backendId).bind (fun retained => retained.get topic) with _ | payload
  · rfl
  · rfl

theorem subscribed_subscribe {s : Gateway} {peer : PeerSession} {backendId : String}
    (h : s.acceptsSubscribe peer backendId = true) (topic b topic' p : String) :
    (s.handleTopicSubscribe peer backendId topic).subscribed b topic' p =
      if b = backendId ∧ topic' = topic ∧ p = peer.peerSessionId then true else s.subscribed b topic' p := by
  rw [handleTopicSubscribe_accepted h]
  unfold subscribed
  dsimp only
  rw [InsertionMap.get_set]
  by_cases hb : b = backendId
  · subst hb
    rw [if_pos rfl, Option.bind_some, InsertionMap.get_set]
    by_cases ht : topic' = topic
    · subst ht
      rw [if_pos rfl, Option.any_some, InsertionMap.has_set]
      rcases s.topicSubs.get b with _ | topics
      · simp [InsertionMap.has]
      · rcases hsubs : topics.get topic' with _ | subs <;> by_cases hp : p = peer.peerSessionId <;>
          simp [hp, hsubs, InsertionMap.has]
    · rw [if_neg ht]
      rcases s.topicSubs.get b with _ | topics <;> simp [ht]
  · simp [hb]

theorem subscribed_unsubscribe (s : Gateway) (peer : PeerSession) (backendId topic b topic' p : String) :
    (s.handleTopicUnsubscribe peer backendId topic).subscribed b topic' p =
      if b = backendId ∧ topic' = topic ∧ p = peer.peerSessionId then false else s.subscribed b topic' p := by
  unfold subscribed handleTopicUnsubscribe onNet
  dsimp only
  rw [InsertionMap.get_modify]
  by_cases hb : b = backendId
  · subst hb
    rcases s.topicSubs.get b with _ | topics
    · simp
    · rw [if_pos rfl, Option.map_some, Option.bind_some, InsertionMap.get_modify]
      by_cases ht : topic' = topic
      · subst ht
        rcases hsubs : topics.get topic' with _ | subs
        · simp [hsubs]
        · by_cases hp : p = peer.peerSessionId <;> simp [hp, hsubs, InsertionMap.has_delete]
      · simp [ht]
  · simp [hb]

/-- A publish with the retain flag and a payload that the cap does not refuse. -/
def acceptsRetain (s : Gateway) (backendId topic : String) : Bool :=
  !decide (((s.retainedTopics.get backendId).getD .empty).size ≥ MAX_RETAINED_TOPICS_PER_BACKEND ∧
    ((s.retainedTopics.get backendId).getD .empty).has topic = false)

/-- What a publish of the current owner retains. -/
def publishRetained (s : Gateway) (backendId topic : String) (payload : Option JsonValue) (retained : Bool) : Gateway :=
  match retained, payload with
  | true, some payload => s.retain backendId topic payload
  | _, _ => s

theorem publishRetained_net (s : Gateway) (backendId topic : String) (payload : Option JsonValue) (retained : Bool) :
    (s.publishRetained backendId topic payload retained).net = s.net := by
  unfold publishRetained
  split <;> rfl

theorem handleTopicPublish_owner {s : Gateway} {peer : PeerSession} {backendId : String}
    (howner : s.isCurrentBackendOwner peer none = true) (hb : peer.backendId = some backendId) (topic : String)
    (payload : Option JsonValue) (retained : Bool) :
    s.handleTopicPublish peer topic payload retained =
      (s.publishRetained backendId topic payload retained).onNet (fanOut s.state.peers
        (((s.topicSubs.get backendId).bind (fun topics => topics.get topic)).elim [] InsertionMap.keys)
        (.topicMessage backendId topic payload)) := by
  have hsubs : (s.publishRetained backendId topic payload retained).topicSubs = s.topicSubs := by
    unfold publishRetained
    split <;> rfl
  have hstate : (s.publishRetained backendId topic payload retained).state = s.state := by
    unfold publishRetained
    split <;> rfl
  have hpublish : s.handleTopicPublish peer topic payload retained =
      (((s.publishRetained backendId topic payload retained).topicSubs.get backendId).bind
        (fun topics => topics.get topic)).elim (s.publishRetained backendId topic payload retained)
          (fun subs => (s.publishRetained backendId topic payload retained).onNet
            (fanOut (s.publishRetained backendId topic payload retained).state.peers subs.keys
              (.topicMessage backendId topic payload))) := by
    unfold handleTopicPublish publishRetained
    rw [if_neg (by simp [howner]), hb]
    rcases retained with _ | _ <;> rcases payload with _ | payload <;> dsimp only <;> split <;> rename_i hsubs <;>
      rw [hsubs] <;> rfl
  rw [hpublish, hsubs, hstate]
  rcases (s.topicSubs.get backendId).bind (fun topics => topics.get topic) with _ | subs
  · rfl
  · rfl

theorem handleTopicPublish_other {s : Gateway} {peer : PeerSession} (h : s.isCurrentBackendOwner peer none = false)
    (topic : String) (payload : Option JsonValue) (retained : Bool) :
    s.handleTopicPublish peer topic payload retained = s := by
  unfold handleTopicPublish
  rw [if_pos h]

theorem retainedPayload_retain (s : Gateway) (backendId topic : String) (payload : JsonValue) (b topic' : String) :
    (s.retain backendId topic payload).retainedPayload b topic' =
      if s.acceptsRetain backendId topic = true ∧ b = backendId ∧ topic' = topic then some payload
      else s.retainedPayload b topic' := by
  unfold Gateway.retainedPayload retain acceptsRetain
  dsimp only
  rw [InsertionMap.get_set]
  by_cases hb : b = backendId
  · subst hb
    rw [if_pos rfl, Option.bind_some]
    rcases s.retainedTopics.get b with _ | retained
    · have hroom : ¬ (InsertionMap.empty : InsertionMap String JsonValue).size ≥ MAX_RETAINED_TOPICS_PER_BACKEND := by
        decide
      dsimp only [Option.getD_none]
      rw [if_neg (fun h => hroom h.1), InsertionMap.get_set]
      by_cases ht : topic' = topic <;> simp [ht, hroom]
    · dsimp only [Option.getD_some]
      split
      · rename_i hcap
        simp [hcap]
      · rename_i hcap
        rw [InsertionMap.get_set]
        by_cases ht : topic' = topic <;> simp [ht, hcap]
  · simp [hb]

/-- The cap of retained topics is kept. -/
theorem retain_size (s : Gateway) (backendId topic : String) (payload : JsonValue)
    (h : ∀ b retained, s.retainedTopics.get b = some retained → retained.size ≤ MAX_RETAINED_TOPICS_PER_BACKEND)
    {b : String} {retained : InsertionMap String JsonValue}
    (hr : (s.retain backendId topic payload).retainedTopics.get b = some retained) :
    retained.size ≤ MAX_RETAINED_TOPICS_PER_BACKEND := by
  have hold : ((s.retainedTopics.get backendId).getD .empty).size ≤ MAX_RETAINED_TOPICS_PER_BACKEND := by
    rcases hb : s.retainedTopics.get backendId with _ | retained
    · exact Nat.zero_le _
    · exact h backendId retained hb
  unfold retain at hr
  dsimp only at hr
  rcases InsertionMap.get_set_eq_some.mp hr with ⟨-, rfl⟩ | ⟨-, hr⟩
  · split
    · exact hold
    · rename_i hcap
      rw [InsertionMap.size_set]
      split
      · exact hold
      · rename_i hnew
        rw [not_and, Bool.not_eq_false] at hcap
        have hfew : ((s.retainedTopics.get backendId).getD .empty).size < MAX_RETAINED_TOPICS_PER_BACKEND := by
          by_contra hfull
          exact hnew (hcap (not_lt.mp hfull))
        exact hfew
  · exact h b retained hr

/-! ## Backends without a lease -/

theorem acceptsSubscribe_leased {s : Gateway} (ho : s.Ownership) {peer : PeerSession} {b : String}
    (h : s.acceptsSubscribe peer b = true) : s.state.leases.has b = true := by
  simp only [acceptsSubscribe, Bool.and_eq_true, Option.any_eq_true] at h
  obtain ⟨-, presence, hpresence, -⟩ := h
  rw [← ho.keys]
  exact InsertionMap.has_iff.mpr ⟨presence, hpresence⟩

theorem ownedBackend_leased {s : Gateway} {peer : PeerSession} {b : String} (h : s.ownedBackend peer = some b) :
    s.state.leases.has b = true := by
  unfold ownedBackend at h
  split at h
  · rename_i howner
    unfold isCurrentBackendOwner at howner
    split at howner
    · rename_i backendId epoch hb _
      rw [hb, Option.some.injEq] at h
      subst h
      simp only [Option.all_none, Bool.true_and, Option.any_eq_true] at howner
      obtain ⟨lease, hl, -⟩ := howner
      exact InsertionMap.has_iff.mpr ⟨lease, hl⟩
    · cases howner
  · cases h

/-- A publish of the session that holds a backend's lease, or of another. -/
theorem handleTopicPublish_cases (s : Gateway) (peer : PeerSession) (topic : String) (payload : Option JsonValue)
    (retained : Bool) :
    (s.ownedBackend peer = none ∧ s.handleTopicPublish peer topic payload retained = s) ∨
      ∃ b, s.ownedBackend peer = some b ∧ s.handleTopicPublish peer topic payload retained =
        (s.publishRetained b topic payload retained).onNet (fanOut s.state.peers
          (((s.topicSubs.get b).bind (fun topics => topics.get topic)).elim [] InsertionMap.keys)
          (.topicMessage b topic payload)) := by
  rcases howner : s.isCurrentBackendOwner peer none with _ | _
  · refine Or.inl ⟨?_, handleTopicPublish_other howner topic payload retained⟩
    rw [ownedBackend, howner]
    rfl
  · have hcurrent := howner
    unfold isCurrentBackendOwner at hcurrent
    split at hcurrent
    · rename_i b epoch hb _
      exact Or.inr ⟨b, by rw [ownedBackend, if_pos howner, hb], handleTopicPublish_owner howner hb topic payload retained⟩
    · cases hcurrent

/-- A subscriber after a message of the topic protocol was one before, or is the peer and its subscription was accepted. -/
theorem routeMessage_subscribed {s : Gateway} {peer : PeerSession} {message : GatewayMessage} (ht : message.isTopic = true)
    {b topic q : String} (hsub : (s.routeMessage Γ peer message).subscribed b topic q = true) :
    s.subscribed b topic q = true ∨ q = peer.peerSessionId ∧ s.acceptsSubscribe peer b = true := by
  cases message with
  | topicSubscribe backendId topic' =>
    change (s.handleTopicSubscribe peer backendId topic').subscribed b topic q = true at hsub
    rcases ha : s.acceptsSubscribe peer backendId with _ | _
    · obtain ⟨code, text, he⟩ := handleTopicSubscribe_refused ha topic'
      rw [he] at hsub
      exact Or.inl hsub
    · rw [subscribed_subscribe ha] at hsub
      split at hsub
      · rename_i he
        obtain ⟨rfl, -, hq⟩ := he
        exact Or.inr ⟨hq, ha⟩
      · exact Or.inl hsub
  | topicUnsubscribe backendId topic' =>
    change (s.handleTopicUnsubscribe peer backendId topic').subscribed b topic q = true at hsub
    rw [subscribed_unsubscribe] at hsub
    split at hsub
    · cases hsub
    · exact Or.inl hsub
  | topicPublish topic' payload retained =>
    change (s.handleTopicPublish peer topic' payload retained).subscribed b topic q = true at hsub
    refine Or.inl ?_
    rcases handleTopicPublish_cases s peer topic' payload retained with ⟨-, he⟩ | ⟨b', -, he⟩
    · rwa [he] at hsub
    · rw [he] at hsub
      unfold publishRetained at hsub
      split at hsub <;> exact hsub
  | _ => cases ht

/-- The topic protocol leaves backends without a lease alone. -/
theorem routeMessage_noTopics {s : Gateway} (ho : s.Ownership) (peer : PeerSession) (message : GatewayMessage)
    (ht : message.isTopic = true) {b : String} (hb : s.state.leases.has b = false) (hno : s.NoTopics b) :
    (s.routeMessage Γ peer message).NoTopics b := by
  have hne {b' : String} (hl : s.state.leases.has b' = true) : b ≠ b' := by
    rintro rfl
    rw [hb] at hl
    cases hl
  cases message with
  | topicSubscribe backendId topic =>
    change (s.handleTopicSubscribe peer backendId topic).NoTopics b
    rcases ha : s.acceptsSubscribe peer backendId with _ | _
    · obtain ⟨code, text, he⟩ := handleTopicSubscribe_refused ha topic
      rw [he]
      exact hno
    · rw [handleTopicSubscribe_accepted ha]
      exact ⟨(InsertionMap.get_set_of_ne (hne (acceptsSubscribe_leased ho ha))).trans hno.1, hno.2⟩
  | topicUnsubscribe backendId topic =>
    refine ⟨?_, hno.2⟩
    change (s.topicSubs.modify backendId _).get b = none
    rw [InsertionMap.get_modify, hno.1, Option.map_none, ite_self]
  | topicPublish topic payload retained =>
    change (s.handleTopicPublish peer topic payload retained).NoTopics b
    rcases handleTopicPublish_cases s peer topic payload retained with ⟨-, he⟩ | ⟨b', howned, he⟩
    · rw [he]
      exact hno
    · rw [he]
      unfold publishRetained
      split
      · exact ⟨hno.1, (InsertionMap.get_set_of_ne (hne (ownedBackend_leased howned))).trans hno.2⟩
      · exact hno
  | _ => cases ht

/-! ## Losing sessions and backends -/

/-- Sessions and backends may be lost: a session takes its subscriptions along, a backend its topics. -/
structure TopicsLose (s t : Gateway) : Prop where
  leases : ∀ b, t.state.leases.has b = true → s.state.leases.has b = true
  peers : ∀ p, t.state.peers.has p = true → s.state.peers.has p = true
  fewer : ∀ b topic p, t.subscribed b topic p = true → s.subscribed b topic p = true
  subscribed : ∀ b topic p, t.state.leases.has b = true → t.state.peers.has p = true →
    t.subscribed b topic p = s.subscribed b topic p
  retained : ∀ b, t.state.leases.has b = true → t.retainedTopics.get b = s.retainedTopics.get b
  kept : ∀ b retained, t.retainedTopics.get b = some retained → s.retainedTopics.get b = some retained
  gone : ∀ b, t.state.leases.has b = false → (s.state.leases.has b = false → s.NoTopics b) → t.NoTopics b

theorem TopicsLose.trans {s t u : Gateway} (h : s.TopicsLose t) (h' : t.TopicsLose u) : s.TopicsLose u := by
  refine ⟨fun b hb => h.leases b (h'.leases b hb), fun p hp => h.peers p (h'.peers p hp),
    fun b topic p hs => h.fewer b topic p (h'.fewer b topic p hs), fun b topic p hb hp => ?_, fun b hb => ?_,
    fun b retained hr => h.kept b retained (h'.kept b retained hr), fun b hb hgone => ?_⟩
  · rw [h'.subscribed b topic p hb hp, h.subscribed b topic p (h'.leases b hb) (h'.peers p hp)]
  · rw [h'.retained b hb, h.retained b (h'.leases b hb)]
  · exact h'.gone b hb fun ht => h.gone b ht hgone

/-- The topic tables stay, and so do leases and sessions. -/
theorem TopicsLose.same {s t : Gateway} (topicSubs : t.topicSubs = s.topicSubs)
    (retainedTopics : t.retainedTopics = s.retainedTopics) (leases : ∀ b, t.state.leases.has b = s.state.leases.has b)
    (peers : ∀ p, t.state.peers.has p = s.state.peers.has p) : s.TopicsLose t := by
  have hsubscribed (b topic p : String) : t.subscribed b topic p = s.subscribed b topic p :=
    subscribed_congr (congrArg (fun m => m.get b) topicSubs) topic p
  refine ⟨fun b hb => leases b ▸ hb, fun p hp => peers p ▸ hp, fun b topic p hs => hsubscribed b topic p ▸ hs,
    fun b topic p _ _ => hsubscribed b topic p, fun b _ => by rw [retainedTopics],
    fun b retained hr => retainedTopics ▸ hr, fun b hb hgone => ?_⟩
  rw [NoTopics, topicSubs, retainedTopics]
  exact hgone (leases b ▸ hb)

theorem TopicsLose.refl (s : Gateway) : s.TopicsLose s := .same rfl rfl (fun _ => rfl) (fun _ => rfl)

theorem ControlTurns.topics {s t : Gateway} (h : s.ControlTurns t) : s.TopicsLose t :=
  .same h.topicSubs h.retainedTopics h.state.leases.has_eq h.state.peers.has_eq

/-- At most one backend is lost, with all its topics, and sessions only go. -/
theorem TopicsLose.of_lost {s t : Gateway} (lost : Option String)
    (leases : ∀ b, t.state.leases.has b = (decide (some b ≠ lost) && s.state.leases.has b))
    (peers : ∀ p, t.state.peers.has p = true → s.state.peers.has p = true)
    (topicSubs : ∀ b, some b = lost ∨ s.topicSubs.get b = none → t.topicSubs.get b = none)
    (fewer : ∀ b topic p, t.subscribed b topic p = true → s.subscribed b topic p = true)
    (subscribed : ∀ b topic p, some b ≠ lost → t.state.peers.has p = true →
      t.subscribed b topic p = s.subscribed b topic p)
    (retained : ∀ b, t.retainedTopics.get b = if some b = lost then none else s.retainedTopics.get b) :
    s.TopicsLose t := by
  have hkept {b : String} (hb : t.state.leases.has b = true) : some b ≠ lost ∧ s.state.leases.has b = true := by
    rwa [leases, Bool.and_eq_true, decide_eq_true_eq] at hb
  refine ⟨fun b hb => (hkept hb).2, peers, fewer, fun b topic p hb hp => subscribed b topic p (hkept hb).1 hp,
    fun b hb => by rw [retained, if_neg (hkept hb).1], fun b r hr => ?_, fun b hb hgone => ?_⟩
  · rw [retained] at hr
    split at hr
    · cases hr
    · exact hr
  · by_cases hlost : some b = lost
    · exact ⟨topicSubs b (Or.inl hlost), by rw [retained, if_pos hlost]⟩
    · have hno : s.state.leases.has b = false := by
        rw [leases, decide_eq_true hlost, Bool.true_and] at hb
        exact hb
      obtain ⟨hsubs, hretained⟩ := hgone hno
      exact ⟨topicSubs b (Or.inr hsubs), by rw [retained, if_neg hlost, hretained]⟩

/-- The subscriptions that are left without a session and without a backend. -/
theorem subscribed_lost {s t : Gateway} {lost : Option String} {p : String}
    (h : t.topicSubs = lost.elim id (fun b (m : InsertionMap _ _) => m.delete b)
      (s.topicSubs.mapValues (fun _ topics => topics.mapValues (fun _ subs => subs.delete p)))) :
    (∀ b, some b = lost ∨ s.topicSubs.get b = none → t.topicSubs.get b = none) ∧
      ∀ b topic q, t.subscribed b topic q =
        (decide (some b ≠ lost) && (decide (q ≠ p) && s.subscribed b topic q)) := by
  have hget (b : String) : t.topicSubs.get b = if some b = lost then none
      else (s.topicSubs.get b).map (fun topics => topics.mapValues (fun _ subs => subs.delete p)) := by
    rw [h]
    rcases lost with _ | backendId
    · simp
    · rw [Option.elim_some, InsertionMap.get_delete, InsertionMap.get_mapValues]
      simp
  refine ⟨fun b hb => ?_, fun b topic q => ?_⟩
  · rw [hget]
    rcases hb with hb | hb
    · rw [if_pos hb]
    · rw [hb, Option.map_none, ite_self]
  · unfold subscribed
    rw [hget]
    by_cases hb : some b = lost
    · simp [hb]
    · rw [if_neg hb]
      rcases s.topicSubs.get b with _ | topics
      · simp
      · rcases htopics : topics.get topic with _ | subs
        · simp [htopics]
        · simp [htopics, hb, InsertionMap.has_delete]

theorem handlePeerDisconnect_topics {s : Gateway} (h : s.Ownership) (p : String) :
    s.TopicsLose (s.handlePeerDisconnect p) := by
  rcases hp : s.state.peers.get p with _ | peer
  · unfold handlePeerDisconnect
    rw [hp]
    exact .refl s
  · have hd := handlePeerDisconnect_disconnected h.channelId hp
    obtain ⟨hnone, hsubscribed⟩ := subscribed_lost hd.topicSubs
    have hpeers {q : String} (hq : (s.handlePeerDisconnect p).state.peers.has q = true) :
        q ≠ p ∧ s.state.peers.has q = true := by
      rw [hd.peers, InsertionMap.has_delete, Bool.and_eq_true] at hq
      simpa using hq
    refine .of_lost peer.backendId (fun b => ?_) (fun q hq => (hpeers hq).2) hnone (fun b topic q hs => ?_)
      (fun b topic q hb hq => ?_) (fun b => ?_)
    · rw [InsertionMap.has, hd.leases, h.ownedBackend_eq hp, get_elim_delete, InsertionMap.has]
      by_cases hb : peer.backendId = some b
      · simp [hb]
      · simp [hb, Ne.symm hb]
    · rw [hsubscribed, Bool.and_eq_true, Bool.and_eq_true] at hs
      exact hs.2.2
    · rw [hsubscribed, decide_eq_true hb, decide_eq_true (hpeers hq).1, Bool.true_and, Bool.true_and]
    · rw [hd.retainedTopics]
      rcases peer.backendId with _ | backendId
      · simp
      · rw [Option.elim_some, InsertionMap.get_delete]
        simp

theorem checkLease_topics {s : Gateway} (h : s.Ownership) (backendId : String) : s.TopicsLose (s.checkLease backendId) := by
  unfold checkLease
  split
  · exact .refl s
  · rename_i lease hl
    split
    · have hx := handleBackendLeaseExpired_expired h.channelId h.key hl
      have hget (b : String) : (s.handleBackendLeaseExpired backendId).topicSubs.get b =
          if b = backendId then none else s.topicSubs.get b := by
        rw [hx.topicSubs, InsertionMap.get_delete]
      have hsubscribed (b topic p : String) : (s.handleBackendLeaseExpired backendId).subscribed b topic p =
          (decide (b ≠ backendId) && s.subscribed b topic p) := by
        unfold subscribed
        rw [hget]
        by_cases hb : b = backendId <;> simp [hb]
      refine .of_lost (some backendId) (fun b => ?_) (fun p hp => ?_) (fun b hb => ?_) (fun b topic p hs => ?_)
        (fun b topic p hb _ => ?_) (fun b => ?_)
      · rw [hx.leases, InsertionMap.has_delete]
        simp
      · obtain ⟨peer, hpeer⟩ := InsertionMap.has_iff.mp hp
        rw [hx.peers] at hpeer
        split at hpeer
        · cases hpeer
        · exact InsertionMap.has_iff.mpr ⟨peer, hpeer⟩
      · rw [hget]
        rcases hb with hb | hb
        · rw [if_pos (Option.some.inj hb)]
        · rw [hb, ite_self]
      · rw [hsubscribed, Bool.and_eq_true] at hs
        exact hs.2
      · have hne : b ≠ backendId := fun he => hb (congrArg some he)
        rw [hsubscribed, decide_eq_true hne, Bool.true_and]
      · rw [hx.retainedTopics, InsertionMap.get_delete]
        simp
    · exact .refl s

variable {act : Option Request}

/-- No message of the topic protocol. -/
def NoTopicMessage (act : Option Request) : Prop :=
  ∀ peer message, act = some (.message peer message) → message.isTopic = false

theorem ControlStep.topics {s t : Gateway} (hstep : ControlStep Γ act s t) (hact : NoTopicMessage act) (h : s.Ownership) :
    s.TopicsLose t := by
  cases hstep with
  | turn ht => exact ht.topics
  | deliver hd =>
    obtain ⟨f, rfl⟩ := hd.onNet
    exact .same rfl rfl (fun _ => rfl) (fun _ => rfl)
  | topic hp hreq ht =>
    rw [hact _ _ hreq] at ht
    cases ht
  | openChannel hp hreq hl hb hi hreach hroom => exact .same rfl rfl (fun _ => rfl) (fun _ => rfl)
  | proxyViaChannel hl hb =>
    unfold Gateway.proxyViaChannel
    split
    · exact .same rfl rfl (fun _ => rfl) (fun _ => rfl)
    · exact .same rfl rfl (fun _ => rfl) (fun _ => rfl)
  | disconnect p => exact handlePeerDisconnect_topics h p

theorem ControlSteps.topics {s t : Gateway} (hsteps : ControlSteps Γ act s t) (hact : NoTopicMessage act)
    (h : s.Ownership) : s.TopicsLose t := by
  have hboth : t.Ownership ∧ s.TopicsLose t := by
    induction hsteps with
    | refl => exact ⟨h, .refl s⟩
    | tail _ hstep ih => exact ⟨hstep.ownership ih.1, ih.2.trans (hstep.topics hact ih.1)⟩
  exact hboth.2

theorem leaseChecks_topics (backendIds : List String) {s : Gateway} (h : s.Ownership) :
    s.TopicsLose (backendIds.foldl checkLease s) := by
  induction backendIds generalizing s with
  | nil => exact .refl s
  | cons b backendIds ih => exact (checkLease_topics h b).trans (ih (checkLease_keeps h b).2)

/-- An event but a hello or a message of the topic protocol only loses topics. -/
theorem handle_topics {e : Event} {s : Gateway} (h : s.Ownership) (hno : s.helloOf Γ e = none)
    (hact : NoTopicMessage (s.requested Γ e)) : s.TopicsLose (s.handle Γ e) := by
  by_cases he : e = .leaseCheckInterval
  · subst he
    exact leaseChecks_topics _ h
  · exact (handle_control he hno).topics hact h

/-! ## A new session -/

/-- A session opens; the backend it begins, if any, begins without topics. -/
structure TopicsGreet (s t : Gateway) (p : String) (begun : Option String) : Prop where
  leases : ∀ b, t.state.leases.has b = (decide (some b = begun) || s.state.leases.has b)
  peers : ∀ q, t.state.peers.has q = true → q = p ∨ s.state.peers.has q = true
  topicSubs : ∀ b, t.topicSubs.get b =
    if some b = begun ∧ s.state.leases.has b = true then none else s.topicSubs.get b
  retainedTopics : ∀ b, t.retainedTopics.get b =
    if some b = begun ∧ s.state.leases.has b = true then none else s.retainedTopics.get b

/-- A turn of the control plane before a session opens. -/
theorem TopicsGreet.after {s u t : Gateway} {p : String} {begun : Option String} (h : u.TopicsGreet t p begun)
    (hu : s.ControlTurns u) : s.TopicsGreet t p begun := by
  have hleases := hu.state.leases.has_eq
  refine ⟨fun b => ?_, fun q hq => ?_, fun b => ?_, fun b => ?_⟩
  · rw [h.leases, hleases]
  · rw [← hu.state.peers.has_eq]
    exact h.peers q hq
  · rw [h.topicSubs, hleases, hu.topicSubs]
  · rw [h.retainedTopics, hleases, hu.retainedTopics]

theorem Registered.topics {s u : Gateway} {backendId : String} {epoch : Nat} {peer : PeerSession}
    (h : Registered Γ s u backendId epoch peer) (grant : Option BackendGrant) :
    s.TopicsGreet (u.addSession peer grant) peer.peerSessionId (some backendId) := by
  obtain ⟨⟨hstate, -⟩, ⟨hsubs, hretained⟩, -⟩ := addSession_tables peer grant u
  have hget {α : Type} (m m' : InsertionMap String α)
      (hm : m' = if (s.state.leases.get backendId).isSome = true then m.delete backendId else m) (b : String) :
      m'.get b = if some b = some backendId ∧ s.state.leases.has b = true then none else m.get b := by
    rw [hm]
    by_cases hb : b = backendId
    · subst hb
      rcases hl : s.state.leases.get b with _ | lease <;> simp [InsertionMap.has, hl]
    · split <;> simp [hb, InsertionMap.get_delete]
  refine ⟨fun b => ?_, fun q hq => ?_, fun b => ?_, fun b => ?_⟩
  · rw [hstate]
    change u.state.leases.has b = _
    rw [InsertionMap.has, h.leases, InsertionMap.has]
    by_cases hb : b = backendId <;> simp [hb]
  · rw [hstate] at hq
    simp only [GatewayState.addPeer, InsertionMap.has_set, Bool.or_eq_true, decide_eq_true_eq] at hq
    rcases hq with hq | hq
    · exact Or.inl hq
    · rw [InsertionMap.has, h.peers, Option.isSome_map] at hq
      exact Or.inr hq
  · rw [hsubs]
    exact hget _ _ h.topicSubs b
  · rw [hretained]
    exact hget _ _ h.retainedTopics b

/-- The backend that a hello begins once a credential admits it. -/
def begunBackend (Γ : Ctx) (s : Gateway) (credential : CredentialRecord) (hello : PeerHello) : Option String :=
  if isBackendHello hello = true then
    some (resolveBackendIdentity (Γ.backendIds.draw s.drawn) s.now credential hello s.storage).1
  else none

theorem openSession_topics {s : Gateway} (h : s.Ownership) (fresh : s.FreshSessions Γ) (ws : SocketId)
    (credential : CredentialRecord) (hello : PeerHello) :
    s.TopicsGreet (s.openSession Γ ws credential hello) (Γ.sessionIds.draw s.drawn) (s.begunBackend Γ credential hello) := by
  unfold begunBackend
  rcases openSession_cases h fresh ws credential hello with ⟨hno, he⟩ | ⟨hyes, u, storage, b, grant, hb, -, hr, he⟩
  · obtain ⟨⟨hstate, -⟩, ⟨hsubs, hretained⟩, -⟩ := addSession_tables
      (newPeer (Γ.sessionIds.draw s.drawn) (Γ.recoveryTokens.draw s.drawn) ws credential hello) none s
    rw [he, hno]
    refine ⟨fun b => ?_, fun q hq => ?_, fun b => by rw [hsubs]; simp, fun b => by rw [hretained]; simp⟩
    · rw [hstate]
      simp [GatewayState.addPeer]
    · rw [hstate] at hq
      simpa [GatewayState.addPeer, InsertionMap.has_set, newPeer] using hq
  · rw [he, hyes, if_pos rfl, ← hb]
    have hopened := hr.topics grant
    exact ⟨hopened.leases, hopened.peers, hopened.topicSubs, hopened.retainedTopics⟩

/-- The backend that an admitted hello begins. -/
theorem registration_backend {s : Gateway} (hrun : s.uncaught = none) {e : Event} {ws : SocketId} {conn : ControlConn}
    {hello : PeerHello} (hh : s.helloOf Γ e = some (ws, conn, hello)) :
    (registration Γ s e).map (·.backendId) =
      (s.admittedAs Γ hello).bind (fun credential => s.begunBackend Γ credential hello) := by
  unfold registration begunBackend
  rw [hrun, hh]
  dsimp only
  rcases ha : s.admittedAs Γ hello with _ | credential
  · rfl
  · by_cases hb : isBackendHello hello = true <;> simp [hb]

/-- What a hello does to the topics: it is refused, or opens a session and begins the backend it registers. -/
theorem hello_topics {s : Gateway} (h : s.Owned Γ) (hrun : s.uncaught = none) {e : Event} {ws : SocketId}
    {conn : ControlConn} {hello : PeerHello} (hh : s.helloOf Γ e = some (ws, conn, hello)) :
    ((registration Γ s e).map (·.backendId) = none ∧ s.TopicsLose (s.handle Γ e)) ∨
      s.TopicsGreet (s.handle Γ e) (Γ.sessionIds.draw s.drawn) ((registration Γ s e).map (·.backendId)) := by
  rw [handle_hello hh, registration_backend hrun hh]
  rcases greet_control (Γ := Γ) ws conn hello s with ⟨hnone, ht, -⟩ | ⟨u, credential, hadm, ht, he, hu⟩
  · rw [hnone]
    exact Or.inl ⟨rfl, ht.topics⟩
  · have hopened := (openSession_topics (h.1.turns ht) (FreshSessions.turns h.2 ht) ws credential hello).after ht
    have hidentities : u.storage.backendIdentities = s.storage.backendIdentities := by
      rw [hu]
      exact resolveToken_identities _ s
    have hnow : u.now = s.now := by
      rw [hu]
      change (s.resolveToken Γ hello.gatewaySecret).2.now = _
      unfold resolveToken
      split <;> rfl
    have hbegun : u.begunBackend Γ credential hello = s.begunBackend Γ credential hello := by
      unfold begunBackend
      rw [resolveBackendIdentity_congr _ _ _ _ hidentities, ht.drawn, hnow]
    rw [hbegun, ht.drawn] at hopened
    rw [hadm, Option.bind_some, he]
    exact Or.inr ⟨hopened.leases, hopened.peers, hopened.topicSubs, hopened.retainedTopics⟩

end Gateway

end ZclaudiaGateway
