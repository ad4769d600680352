import ZclaudiaGateway.Lemmas.Topics

/-!
# The history of topics

What a run said about topics: which backends began an epoch, which sessions subscribed and unsubscribed, and what was retained.
The tables say of every backend that is online what stands in the history since its epoch began.
-/

namespace ZclaudiaGateway

open Gateway

/-- A backend began an epoch, a session subscribed or unsubscribed, or a backend's payload was retained. -/
inductive TopicEntry where
  | began (backendId : String)
  | subscribed (peerSessionId backendId topic : String)
  | unsubscribed (peerSessionId backendId topic : String)
  | retained (backendId topic : String) (payload : JsonValue)

/-- What a publish adds to the history: a payload that the current owner of a backend publishes to retain, if the cap admits
it. -/
def Gateway.publishEntries (s : Gateway) (peer : PeerSession) (topic : String) (payload : Option JsonValue)
    (retained : Bool) : List TopicEntry :=
  match payload, retained with
  | some payload, true =>
    match s.ownedBackend peer with
    | some backendId => if s.acceptsRetain backendId topic then [.retained backendId topic payload] else []
    | none => []
  | _, _ => []

/-- What an event adds to the history: a subscription within reach, the end of one, a retained payload, or an epoch that
begins. -/
def topicEntries (Γ : Ctx) (s : Gateway) (e : Event) : List TopicEntry :=
  if s.uncaught.isSome then []
  else
    match s.routed Γ e with
    | some (peer, .topicSubscribe backendId topic) =>
      if s.acceptsSubscribe peer backendId then [.subscribed peer.peerSessionId backendId topic] else []
    | some (peer, .topicUnsubscribe backendId topic) => [.unsubscribed peer.peerSessionId backendId topic]
    | some (peer, .topicPublish topic payload retained) => s.publishEntries peer topic payload retained
    | _ => ((registration Γ s e).map (fun r => TopicEntry.began r.backendId)).toList

/-- The history of topics, the oldest entry first. -/
def topicHistory (Γ : Ctx) (storage : Storage) (es : List Event) : List TopicEntry :=
  (gateway Γ storage).history (topicEntries Γ) es

/-- The last that the session said about the topic since the backend's epoch began is a subscription. -/
def Subscribed (h : List TopicEntry) (p backendId topic : String) : Prop :=
  EventMachine.Stands (fun x => x = .began backendId ∨ x = .unsubscribed p backendId topic)
    (.subscribed p backendId topic) h

/-- The last payload retained for the topic since the backend's epoch began. -/
def Retained (h : List TopicEntry) (backendId topic : String) (payload : JsonValue) : Prop :=
  EventMachine.Stands (fun x => x = .began backendId ∨ ∃ v, x = .retained backendId topic v)
    (.retained backendId topic payload) h

theorem subscribed_snoc_iff {h : List TopicEntry} {x : TopicEntry} {p b topic : String} :
    Subscribed (h ++ [x]) p b topic ↔
      x = .subscribed p b topic ∨ Subscribed h p b topic ∧ x ≠ .began b ∧ x ≠ .unsubscribed p b topic := by
  rw [Subscribed, EventMachine.stands_snoc_iff, not_or, Subscribed]

theorem retained_snoc_iff {h : List TopicEntry} {x : TopicEntry} {b topic : String} {payload : JsonValue} :
    Retained (h ++ [x]) b topic payload ↔
      x = .retained b topic payload ∨ Retained h b topic payload ∧ x ≠ .began b ∧ ∀ v, x ≠ .retained b topic v := by
  rw [Retained, EventMachine.stands_snoc_iff, not_or, not_exists, Retained]

namespace Gateway

variable {Γ : Ctx}

/-- The tables say what stands in the history. -/
structure TopicsHold (Γ : Ctx) (n : Nat) (h : List TopicEntry) (s : Gateway) : Prop where
  subscribers : ∀ b topic p, s.state.leases.has b = true → s.state.peers.has p = true →
    (s.subscribed b topic p = true ↔ Subscribed h p b topic)
  retained : ∀ b topic payload, s.state.leases.has b = true →
    (s.retainedPayload b topic = some payload ↔ Retained h b topic payload)
  gone : ∀ b, s.state.leases.has b = false → s.NoTopics b
  few : ∀ b retained, s.retainedTopics.get b = some retained → retained.size ≤ MAX_RETAINED_TOPICS_PER_BACKEND
  drawn : ∀ b topic p, s.subscribed b topic p = true → ∃ m < n, p = Γ.sessionIds.draw m
  said : ∀ b topic p, .subscribed p b topic ∈ h → ∃ m < n, p = Γ.sessionIds.draw m

variable {n : Nat} {h : List TopicEntry} {s t : Gateway}

theorem TopicsHold.mono (hs : s.TopicsHold Γ n h) {m : Nat} (hm : n ≤ m) : s.TopicsHold Γ m h := by
  refine ⟨hs.subscribers, hs.retained, hs.gone, hs.few, fun b topic p hp => ?_, fun b topic p hp => ?_⟩
  · obtain ⟨i, hi, he⟩ := hs.drawn b topic p hp
    exact ⟨i, lt_of_lt_of_le hi hm, he⟩
  · obtain ⟨i, hi, he⟩ := hs.said b topic p hp
    exact ⟨i, lt_of_lt_of_le hi hm, he⟩

theorem TopicsHold.lose (hs : s.TopicsHold Γ n h) (ht : s.TopicsLose t) : t.TopicsHold Γ n h := by
  refine ⟨fun b topic p hb hp => ?_, fun b topic payload hb => ?_, fun b hb => ?_, fun b retained hr => ?_,
    fun b topic p hp => ?_, hs.said⟩
  · rw [ht.subscribed b topic p hb hp]
    exact hs.subscribers b topic p (ht.leases b hb) (ht.peers p hp)
  · rw [retainedPayload_congr (ht.retained b hb) topic]
    exact hs.retained b topic payload (ht.leases b hb)
  · exact ht.gone b hb (hs.gone b)
  · exact hs.few b retained (ht.kept b retained hr)
  · exact hs.drawn b topic p (ht.fewer b topic p hp)

/-- A session opens, and at most one backend begins an epoch. -/
theorem TopicsHold.greet (hs : s.TopicsHold Γ n h) {begun : Option String}
    (ht : s.TopicsGreet t (Γ.sessionIds.draw n) begun) :
    t.TopicsHold Γ (n + 1) (h ++ (begun.map TopicEntry.began).toList) := by
  -- Only a backend that begins changes what stands.
  have hsubscribed (b topic p : String) : Subscribed (h ++ (begun.map TopicEntry.began).toList) p b topic ↔
      Subscribed h p b topic ∧ some b ≠ begun := by
    rcases begun with _ | b'
    · simp
    · rw [Option.map_some, Option.toList_some, subscribed_snoc_iff]
      simp [eq_comm]
  have hretained (b topic : String) (payload : JsonValue) :
      Retained (h ++ (begun.map TopicEntry.began).toList) b topic payload ↔
        Retained h b topic payload ∧ some b ≠ begun := by
    rcases begun with _ | b'
    · simp
    · rw [Option.map_some, Option.toList_some, retained_snoc_iff]
      simp [eq_comm]
  -- The tables of a backend that begins are empty.
  have hbegun (b : String) (hb : some b = begun) : t.NoTopics b := by
    rw [NoTopics, ht.topicSubs, ht.retainedTopics]
    rcases hl : s.state.leases.has b with _ | _
    · obtain ⟨hsubs, hretained⟩ := hs.gone b hl
      simp [hsubs, hretained]
    · simp [hb]
  have hold (b : String) (hb : some b ≠ begun) :
      t.topicSubs.get b = s.topicSubs.get b ∧ t.retainedTopics.get b = s.retainedTopics.get b := by
    rw [ht.topicSubs, ht.retainedTopics]
    simp [hb]
  have hfresh (b topic : String) : s.subscribed b topic (Γ.sessionIds.draw n) = false := by
    rw [← Bool.not_eq_true]
    intro hp
    obtain ⟨m, hm, he⟩ := hs.drawn b topic _ hp
    exact absurd (Γ.sessionIds.injective he) (by omega)
  have hleased (b : String) (hb : some b ≠ begun) (hl : t.state.leases.has b = true) : s.state.leases.has b = true := by
    rw [ht.leases, decide_eq_false hb, Bool.false_or] at hl
    exact hl
  refine ⟨fun b topic p hb hp => ?_, fun b topic payload hb => ?_, fun b hb => ?_, fun b retained hr => ?_,
    fun b topic p hp => ?_, fun b topic p hp => ?_⟩
  · rw [hsubscribed]
    by_cases hbb : some b = begun
    · rw [(hbegun b hbb).subscribed]
      simp [hbb]
    · rw [subscribed_congr (hold b hbb).1]
      rcases ht.peers p hp with rfl | hp
      · rw [hfresh]
        constructor
        · intro hno
          cases hno
        · rintro ⟨hstands, -⟩
          obtain ⟨m, hm, he⟩ := hs.said b topic _ hstands.mem
          exact absurd (Γ.sessionIds.injective he) (by omega)
      · rw [hs.subscribers b topic p (hleased b hbb hb) hp]
        simp [hbb]
  · rw [hretained]
    by_cases hbb : some b = begun
    · rw [(hbegun b hbb).retainedPayload]
      simp [hbb]
    · rw [retainedPayload_congr (hold b hbb).2, hs.retained b topic payload (hleased b hbb hb)]
      simp [hbb]
  · rw [ht.leases, Bool.or_eq_false_iff, decide_eq_false_iff_not] at hb
    rw [NoTopics, (hold b hb.1).1, (hold b hb.1).2]
    exact hs.gone b hb.2
  · rw [ht.retainedTopics] at hr
    split at hr
    · cases hr
    · exact hs.few b retained hr
  · have hp' : s.subscribed b topic p = true := by
      by_cases hbb : some b = begun
      · rw [(hbegun b hbb).subscribed] at hp
        cases hp
      · rwa [subscribed_congr (hold b hbb).1] at hp
    obtain ⟨m, hm, he⟩ := hs.drawn b topic p hp'
    exact ⟨m, Nat.lt_succ_of_lt hm, he⟩
  · have hp' : TopicEntry.subscribed p b topic ∈ h := by
      rcases begun with _ | b'
      · simpa using hp
      · simpa using hp
    obtain ⟨m, hm, he⟩ := hs.said b topic p hp'
    exact ⟨m, Nat.lt_succ_of_lt hm, he⟩

/-! ## Messages of the topic protocol -/

/-- A message of the topic protocol that only changes who subscribed to one topic. -/
theorem TopicsHold.subscription (hs : s.TopicsHold Γ n h) (state : t.state = s.state)
    (retainedTopics : t.retainedTopics = s.retainedTopics) {backendId topic q : String} (yes : Bool) {x : TopicEntry}
    (subscribed : ∀ b topic' p, t.subscribed b topic' p =
      if b = backendId ∧ topic' = topic ∧ p = q then yes else s.subscribed b topic' p)
    (hentry : ∀ b topic' p, Subscribed (h ++ [x]) p b topic' ↔
      if b = backendId ∧ topic' = topic ∧ p = q then yes = true else Subscribed h p b topic')
    (hkept : ∀ b topic' payload, Retained (h ++ [x]) b topic' payload ↔ Retained h b topic' payload)
    (hgone : ∀ b, s.state.leases.has b = false → t.topicSubs.get b = none)
    (hq : ∃ m < n, q = Γ.sessionIds.draw m)
    (hx : ∀ b topic' p, x = .subscribed p b topic' → p = q) : t.TopicsHold Γ n (h ++ [x]) := by
  refine ⟨fun b topic' p hb hp => ?_, fun b topic' payload hb => ?_, fun b hb => ?_, fun b retained hr => ?_,
    fun b topic' p hp => ?_, fun b topic' p hp => ?_⟩
  · rw [subscribed, hentry]
    split
    · exact Iff.rfl
    · exact hs.subscribers b topic' p (state ▸ hb) (state ▸ hp)
  · rw [hkept, retainedPayload_congr (congrArg (fun m => m.get b) retainedTopics)]
    exact hs.retained b topic' payload (state ▸ hb)
  · rw [state] at hb
    exact ⟨hgone b hb, by rw [retainedTopics, (hs.gone b hb).2]⟩
  · exact hs.few b retained (retainedTopics ▸ hr)
  · rw [subscribed] at hp
    split at hp
    · rename_i he
      rw [he.2.2]
      exact hq
    · exact hs.drawn b topic' p hp
  · rcases List.mem_append.mp hp with hp | hp
    · exact hs.said b topic' p hp
    · rw [hx b topic' p (List.mem_singleton.mp hp).symm]
      exact hq

theorem TopicsHold.subscribe (hs : s.TopicsHold Γ n h) (ho : s.Ownership) {peer : PeerSession} {backendId : String}
    (hq : ∃ m < n, peer.peerSessionId = Γ.sessionIds.draw m) (topic : String) :
    (s.handleTopicSubscribe peer backendId topic).TopicsHold Γ n
      (h ++ if s.acceptsSubscribe peer backendId then [.subscribed peer.peerSessionId backendId topic] else []) := by
  rcases ha : s.acceptsSubscribe peer backendId with _ | _
  · obtain ⟨code, message, he⟩ := handleTopicSubscribe_refused ha topic
    rw [he]
    simpa using hs.lose (.same rfl rfl (fun _ => rfl) (fun _ => rfl) : s.TopicsLose (s.sendError peer.ws code message))
  · have hsubscribed := subscribed_subscribe ha topic
    refine hs.subscription (handleTopicSubscribe_only peer backendId topic s).state ?_ true hsubscribed
      (fun b topic' p => ?_) (fun b topic' payload => ?_) (fun b hb => ?_) hq (fun b topic' p hx => ?_)
    · rw [handleTopicSubscribe_accepted ha]
    · rw [subscribed_snoc_iff]
      by_cases he : b = backendId ∧ topic' = topic ∧ p = peer.peerSessionId
      · obtain ⟨rfl, rfl, rfl⟩ := he
        simp
      · rw [if_neg he]
        simp only [TopicEntry.subscribed.injEq, ne_eq, reduceCtorEq, not_false_eq_true, and_true]
        constructor
        · rintro (⟨rfl, rfl, rfl⟩ | hstands)
          · exact absurd ⟨rfl, rfl, rfl⟩ he
          · exact hstands
        · exact Or.inr
    · rw [retained_snoc_iff]
      simp
    · exact (routeMessage_noTopics (Γ := Γ) ho peer (.topicSubscribe backendId topic) rfl hb (hs.gone b hb)).1
    · cases hx
      rfl

theorem TopicsHold.unsubscribe (hs : s.TopicsHold Γ n h) {peer : PeerSession}
    (hq : ∃ m < n, peer.peerSessionId = Γ.sessionIds.draw m) (backendId topic : String) :
    (s.handleTopicUnsubscribe peer backendId topic).TopicsHold Γ n
      (h ++ [.unsubscribed peer.peerSessionId backendId topic]) := by
  have hsubscribed := subscribed_unsubscribe s peer backendId topic
  refine hs.subscription (t := s.handleTopicUnsubscribe peer backendId topic) rfl rfl false hsubscribed
    (fun b topic' p => ?_) (fun b topic' payload => ?_) (fun b hb => ?_) hq (fun b topic' p hx => ?_)
  · rw [subscribed_snoc_iff]
    by_cases he : b = backendId ∧ topic' = topic ∧ p = peer.peerSessionId
    · obtain ⟨rfl, rfl, rfl⟩ := he
      simp
    · rw [if_neg he]
      simp only [reduceCtorEq, false_or, ne_eq, not_false_eq_true, true_and, TopicEntry.unsubscribed.injEq]
      constructor
      · exact fun hstands => hstands.1
      · intro hstands
        refine ⟨hstands, fun hx => he ⟨hx.2.1.symm, hx.2.2.symm, hx.1.symm⟩⟩
  · rw [retained_snoc_iff]
    simp
  · change (s.topicSubs.modify backendId _).get b = none
    rw [InsertionMap.get_modify, (hs.gone b hb).1, Option.map_none, ite_self]
  · cases hx

theorem TopicsHold.retain (hs : s.TopicsHold Γ n h) {backendId : String} (hl : s.state.leases.has backendId = true)
    (topic : String) (payload : JsonValue) :
    (s.retain backendId topic payload).TopicsHold Γ n
      (h ++ if s.acceptsRetain backendId topic then [.retained backendId topic payload] else []) := by
  have hsubscribed (b topic' p : String) : Subscribed
      (h ++ if s.acceptsRetain backendId topic then [.retained backendId topic payload] else []) p b topic' ↔
        Subscribed h p b topic' := by
    split
    · rw [subscribed_snoc_iff]
      simp
    · rw [List.append_nil]
  refine ⟨fun b topic' p hb hp => ?_, fun b topic' v hb => ?_, fun b hb => ?_, fun b retained hr => ?_,
    hs.drawn, fun b topic' p hp => ?_⟩
  · rw [hsubscribed]
    exact hs.subscribers b topic' p hb hp
  · rw [retainedPayload_retain]
    rcases ha : s.acceptsRetain backendId topic with _ | _
    · simpa using hs.retained b topic' v hb
    · rw [if_pos rfl, retained_snoc_iff]
      by_cases he : b = backendId ∧ topic' = topic
      · obtain ⟨rfl, rfl⟩ := he
        simp
      · have hother (w : JsonValue) : TopicEntry.retained backendId topic payload ≠ .retained b topic' w := by
          intro hw
          cases hw
          exact he ⟨rfl, rfl⟩
        rw [if_neg (fun h => he h.2), hs.retained b topic' v hb]
        constructor
        · intro hstands
          exact Or.inr ⟨hstands, TopicEntry.noConfusion, hother⟩
        · rintro (hv | hstands)
          · exact absurd hv (hother v)
          · exact hstands.1
  · have hb' : s.state.leases.has b = false := hb
    have hne : b ≠ backendId := by
      rintro rfl
      rw [hl] at hb'
      cases hb'
    exact ⟨(hs.gone b hb').1, (InsertionMap.get_set_of_ne hne).trans (hs.gone b hb').2⟩
  · exact retain_size s backendId topic payload hs.few hr
  · refine hs.said b topic' p ?_
    rcases List.mem_append.mp hp with hp | hp
    · exact hp
    · split at hp
      · simp at hp
      · cases hp

/-- The topic tables see no more of a publish than what it retains. -/
theorem TopicsHold.publish (hs : s.TopicsHold Γ n h) {peer : PeerSession} (topic : String) (payload : Option JsonValue)
    (retained : Bool) :
    (s.handleTopicPublish peer topic payload retained).TopicsHold Γ n
      (h ++ s.publishEntries peer topic payload retained) := by
  have hsent {u : Gateway} {h' : List TopicEntry} (hu : u.TopicsHold Γ n h') (f : Net → Net) :
      (u.onNet f).TopicsHold Γ n h' :=
    hu.lose (.same rfl rfl (fun _ => rfl) (fun _ => rfl))
  unfold publishEntries
  rcases handleTopicPublish_cases s peer topic payload retained with ⟨hnone, he⟩ | ⟨b, howned, he⟩
  · rw [he, hnone]
    cases payload <;> cases retained <;> simpa using hs
  · rw [he, howned]
    refine hsent ?_ _
    unfold publishRetained
    cases retained <;> cases payload
    · simpa using hs
    · simpa using hs
    · simpa using hs
    · exact hs.retain (ownedBackend_leased howned) topic _

/-! ## Runs -/

theorem routed_of_hello {e : Event} {x : SocketId × ControlConn × PeerHello} (hh : s.helloOf Γ e = some x) :
    s.routed Γ e = none := by
  rcases hr : s.routed Γ e with _ | ⟨peer, m⟩
  · rfl
  · obtain ⟨ws, conn, hello⟩ := x
    obtain ⟨-, p, ws', frame, buffered, writable, rfl, hauth, -⟩ := handle_routed hr
    obtain ⟨hc, frame', buffered', writable', he, -⟩ := helloOf_frame hh
    cases he
    obtain ⟨k, hk, hl, hreads, hn⟩ := unauthenticated_eq hc
    rw [authenticatedAs_of hk hl hreads, hn] at hauth
    cases hauth

theorem registration_of_no_hello {e : Event} (hh : s.helloOf Γ e = none) : registration Γ s e = none := by
  unfold registration
  rw [hh]
  split <;> rfl

theorem noTopicMessage_of_routed {e : Event} (h : ∀ peer m, s.routed Γ e = some (peer, m) → m.isTopic = false) :
    NoTopicMessage (s.requested Γ e) :=
  fun peer m hact => h peer m (requested_message hact)

/-- One event of a running gateway. -/
theorem TopicsHold.step (hs : s.TopicsHold Γ s.drawn h) (ho : s.Owned Γ) (hrun : s.uncaught = none) (e : Event) :
    (s.handle Γ e).TopicsHold Γ (s.drawn + 1) (h ++ topicEntries Γ s e) := by
  unfold topicEntries
  rw [hrun, Option.isSome_none, if_neg Bool.false_ne_true]
  rcases hh : s.helloOf Γ e with _ | ⟨ws, conn, hello⟩
  · have hlose (hno : ∀ peer m, s.routed Γ e = some (peer, m) → m.isTopic = false) :
        (s.handle Γ e).TopicsHold Γ (s.drawn + 1) (h ++ []) := by
      rw [List.append_nil]
      exact (hs.lose (handle_topics ho.1 hh (noTopicMessage_of_routed hno))).mono (Nat.le_succ _)
    rw [registration_of_no_hello hh]
    rcases hr : s.routed Γ e with _ | ⟨peer, m⟩
    · exact hlose (fun peer m hm => by rw [hr] at hm; cases hm)
    · obtain ⟨hhandle, p, ws, frame, buffered, writable, -, -, hp⟩ := handle_routed hr
      have hq : ∃ i < s.drawn, peer.peerSessionId = Γ.sessionIds.draw i := by
        obtain ⟨i, hi, he, -⟩ := ho.2 p peer hp
        exact ⟨i, hi, (ho.1.key p peer hp).trans he⟩
      have hother (hm : m.isTopic = false) : (s.handle Γ e).TopicsHold Γ (s.drawn + 1) (h ++ []) :=
        hlose (fun peer' m' he => by
          rw [hr] at he
          cases he
          exact hm)
      cases m with
      | topicSubscribe backendId topic =>
        rw [hhandle]
        exact (hs.subscribe ho.1 hq topic).mono (Nat.le_succ _)
      | topicUnsubscribe backendId topic =>
        rw [hhandle]
        exact (hs.unsubscribe hq backendId topic).mono (Nat.le_succ _)
      | topicPublish topic payload retained =>
        rw [hhandle]
        exact (hs.publish topic payload retained).mono (Nat.le_succ _)
      | _ => exact hother rfl
  · rw [routed_of_hello hh]
    dsimp only
    have hmap : (registration Γ s e).map (fun r => TopicEntry.began r.backendId) =
        ((registration Γ s e).map (·.backendId)).map TopicEntry.began := by
      rw [Option.map_map]
      rfl
    rw [hmap]
    rcases hello_topics ho hrun hh with ⟨hnone, ht⟩ | ht
    · rw [hnone, Option.map_none, Option.toList_none, List.append_nil]
      exact (hs.lose ht).mono (Nat.le_succ _)
    · exact hs.greet ht

end Gateway

theorem topicEntries_quiet {Γ : Ctx} (s : Gateway) (e : Event) : topicEntries Γ s.quiet e = topicEntries Γ s e := by
  unfold topicEntries
  rw [routed_quiet, registration_quiet]
  rfl

/-- After every run the topic tables say what stands in the history. -/
theorem topicsHold_run (Γ : Ctx) (storage : Storage) (es : List Event) :
    ((gateway Γ storage).run es).TopicsHold Γ ((gateway Γ storage).run es).drawn (topicHistory Γ storage es) := by
  refine history_run (I := TopicsHold Γ) (J := fun _ => True) (fun _ => trivial) ?_ (fun n h s f drawn hs => ?_)
    (fun s e hstopped => ?_) topicEntries_quiet (fun h s e ho _ hrun hs => hs.step ho hrun e) es
  · refine ⟨?_, ?_, fun b _ => ⟨rfl, rfl⟩, ?_, ?_, ?_⟩
    · intro b topic p hb
      cases hb
    · intro b topic payload hb
      cases hb
    · intro b retained hr
      cases hr
    · intro b topic p hp
      cases hp
    · intro b topic p hp
      cases hp
  · exact hs.lose (.same rfl rfl (fun _ => rfl) (fun _ => rfl))
  · unfold topicEntries
    rw [if_pos hstopped]

end ZclaudiaGateway
