import ZclaudiaGateway.Lemmas.ClientIssues
import Mathlib.Data.List.TakeWhile

/-!
# The topic handlers of the client

Only the resolved subscription of a topic and a call of what it returned change the topic handlers. Their keys are joined from
backend ids and topics, and their stamps rise in the order of the entries, so that the iteration of `resubscribeTopics` goes from
one entry to the next.
-/

namespace ZclaudiaGateway

namespace GatewayClient

variable {c c' : GatewayClient}

/-! ## What leaves the topic handlers alone -/

section Topics

variable (c : GatewayClient)

@[simp] theorem topics_emit (o : ClientOutput) : (c.emit o).topics = c.topics := rfl

@[simp] theorem topics_settleOp (op : ControlOp) (outcome : OpOutcome) : (c.settleOp op outcome).topics = c.topics := by
  unfold settleOp
  dsimp only
  split <;> rfl

@[simp] theorem topics_settlePending (type : ReplyType) (reply : GatewayToPeer) :
    (c.settlePending type reply).topics = c.topics := by
  unfold settlePending
  split
  · split
    · exact topics_settleOp _ _ _
    · rfl
  · rfl

@[simp] theorem topics_failPending (error : OpError) : (c.failPending error).topics = c.topics := by
  unfold failPending
  split
  · exact topics_settleOp _ _ _
  · rfl

@[simp] theorem topics_opTimeout (op : ControlOp) : (c.opTimeout op).topics = c.topics := by
  unfold opTimeout
  split
  · dsimp only
    rw [topics_settleOp]
    split <;> rfl
  · rfl

@[simp] theorem topics_send (ws : SocketId) (message : PeerToGateway) : (c.send ws message).topics = c.topics := by
  unfold send
  split <;> rfl

@[simp] theorem topics_runOp : c.runOp.topics = c.topics := by
  unfold runOp
  split
  · dsimp only
    split
    · split
      · exact topics_settleOp _ _ _
      · split
        · rfl
        · exact topics_send _ _ _
    · exact topics_settleOp _ _ _
  · rfl

@[simp] theorem topics_resubscribeFrom (trigger : Trigger) (stamp : Nat) :
    (c.resubscribeFrom trigger stamp).topics = c.topics := by
  unfold resubscribeFrom
  split
  · rfl
  · split <;> rfl

@[simp] theorem topics_closeChannels : c.closeChannels.topics = c.topics := by
  obtain ⟨sockets, -, he⟩ := closeChannels_eq c
  rw [he]
  rfl

@[simp] theorem topics_handleClose (o : GatewayClientOptions) : (c.handleClose o).topics = c.topics := by
  have hclosed : (({ c with socket := none }.failPending .connectionClosed).closeChannels).topics = c.topics := by
    rw [topics_closeChannels, topics_failPending]
    rfl
  unfold handleClose
  dsimp only
  split
  · exact hclosed
  · split <;> exact hclosed

@[simp] theorem topics_close : c.close.topics = c.topics := by
  unfold close
  dsimp only
  split
  · exact topics_closeChannels _
  · exact topics_closeChannels _

theorem topics_deliver (handlers : List HandlerId) (payload : Option JsonValue) :
    (handlers.foldl (fun c handler => c.emit (.deliver handler payload)) c).topics = c.topics := by
  induction handlers generalizing c with
  | nil => rfl
  | cons handler handlers ih => rw [List.foldl_cons, ih, topics_emit]

@[simp] theorem topics_routeMessage (message : GatewayToPeer) : (c.routeMessage message).topics = c.topics := by
  unfold routeMessage
  split
  · rfl
  · split
    · exact topics_deliver _ _ _
    · rfl
  · split <;> rfl
  · exact topics_settlePending _ _ _
  · exact topics_settlePending _ _ _
  · exact topics_settlePending _ _ _
  · exact topics_failPending _ _
  · rfl

end Topics

/-- What an event may do to the topic handlers. -/
inductive TopicsMove (c : GatewayClient) : TopicsPart → Prop where
  | stay : TopicsMove c c.topics
  | change (key : String) (entry : TopicHandlers) (handlers : List HandlerId) : c.topicHandlers.get key = some entry →
      TopicsMove c ⟨c.topicHandlers.set key { entry with handlers }, c.nextStamp⟩
  | delete (key : String) : TopicsMove c ⟨c.topicHandlers.delete key, c.nextStamp⟩
  | add (op : ControlOp) (outcome : OpOutcome) (backendId topic : String) (handler : HandlerId) :
      c.settledOp = some (op, outcome) → op.caller = .subscribeTopic backendId topic handler →
      c.topicHandlers.get (topicKey backendId topic) = none →
      TopicsMove c ⟨c.topicHandlers.set (topicKey backendId topic) ⟨c.nextStamp, [handler]⟩, c.nextStamp + 1⟩

theorem TopicsMove.of_eq {t : TopicsPart} (h : t = c.topics) : TopicsMove c t := h ▸ .stay

theorem topics_unsubscribe (c : GatewayClient) (backendId topic : String) (handler : HandlerId) :
    TopicsMove c (c.unsubscribe backendId topic handler).topics := by
  unfold unsubscribe
  dsimp only
  split
  · rename_i entry hentry
    split
    · exact .delete _
    · exact .change _ entry _ hentry
  · exact .stay

theorem topics_resumeOp (c : GatewayClient) : TopicsMove c c.resumeOp.topics := by
  unfold GatewayClient.resumeOp
  split
  · rename_i op outcome hop
    dsimp only
    split
    · exact .stay
    · rename_i backendId topic handler reply hcaller
      unfold addHandler
      dsimp only
      split
      · rename_i entry hentry
        split
        · exact .stay
        · exact .change _ entry _ hentry
      · rename_i hnone
        exact .add op _ backendId topic handler hop hcaller hnone
    · exact .of_eq (topics_resubscribeFrom _ _ _)
    · exact .stay
  · exact .stay

theorem topics_handle (o : GatewayClientOptions) (c : GatewayClient) (e : ClientEvent) : TopicsMove c (c.handle o e).topics := by
  cases e with
  | connect =>
    refine .of_eq ?_
    change c.connect.topics = c.topics
    unfold connect
    split <;> rfl
  | close => exact .of_eq (topics_close c)
  | openChannel target kind => exact .stay
  | subscribeTopic backendId topic handler => exact .stay
  | unsubscribe backendId topic handler => exact topics_unsubscribe c backendId topic handler
  | opened ws =>
    refine .of_eq ?_
    change (c.socketOpened ws).topics = c.topics
    unfold socketOpened
    split
    · dsimp only
      split <;> rfl
    · rfl
  | error ws =>
    refine .of_eq ?_
    change (c.socketError ws).topics = c.topics
    unfold socketError
    split
    · rfl
    · dsimp only
      split <;> rfl
    · rfl
  | message ws message =>
    refine .of_eq ?_
    change (c.socketMessage ws message).topics = c.topics
    unfold socketMessage
    split
    · split
      · rfl
      · rfl
      · exact topics_routeMessage _ _
      · rfl
    · split
      · rfl
      · rfl
      · exact topics_routeMessage _ _
      · rfl
    · rfl
  | closed ws =>
    refine .of_eq ?_
    change (c.socketClosed o ws).topics = c.topics
    unfold socketClosed
    split
    · rfl
    · dsimp only
      split
      · exact topics_handleClose _ _
      · rfl
      · rfl
    · rfl
  | readyTimeout ws =>
    refine .of_eq ?_
    change (c.readyTimeout ws).topics = c.topics
    unfold readyTimeout
    split <;> rfl
  | resume ws =>
    refine .of_eq ?_
    change (c.resume o ws).topics = c.topics
    unfold GatewayClient.resume
    split
    · exact topics_send _ _ _
    · exact topics_resubscribeFrom _ _ _
    · dsimp only
      split <;> rfl
    · rfl
    · rfl
    · rfl
  | reconnectTimer i =>
    refine .of_eq ?_
    change (c.reconnectTimer i).topics = c.topics
    unfold GatewayClient.reconnectTimer
    split
    · dsimp only
      split <;> rfl
    · rfl
  | runOp => exact .of_eq (topics_runOp c)
  | opTimeout op => exact .of_eq (topics_opTimeout c op)
  | resumeOp => exact topics_resumeOp c

/-! ## Keys -/

theorem toList_topicKey (backendId topic : String) :
    (topicKey backendId topic).toList = backendId.toList ++ '\x1f' :: topic.toList := by
  rw [topicKey, String.toList_append, String.toList_append]
  simp

/-- Splitting a key gives the backend id back, and the topic up to its first separator. -/
theorem splitKey_topicKey {backendId : String} (hb : '\x1f' ∉ backendId.toList) (topic : String) :
    splitKey (topicKey backendId topic) = (backendId, String.ofList (topic.toList.takeWhile (· ≠ '\x1f'))) := by
  have hall : ∀ ch ∈ backendId.toList, decide (ch ≠ '\x1f') = true := by
    intro ch hch
    exact decide_eq_true (fun he => hb (he ▸ hch))
  have hspan : (backendId.toList ++ '\x1f' :: topic.toList).span (· ≠ '\x1f') = (backendId.toList, '\x1f' :: topic.toList) := by
    rw [List.span_eq_takeWhile_dropWhile, List.takeWhile_append_of_pos hall, List.dropWhile_append_of_pos hall]
    simp
  unfold splitKey
  rw [toList_topicKey]
  simp only [hspan, String.ofList_toList, List.drop_succ_cons, List.drop_zero]

theorem splitKey_topicKey_of_not_mem {backendId topic : String} (hb : '\x1f' ∉ backendId.toList)
    (ht : '\x1f' ∉ topic.toList) : splitKey (topicKey backendId topic) = (backendId, topic) := by
  rw [splitKey_topicKey hb, List.takeWhile_eq_self_iff.mpr, String.ofList_toList]
  intro ch hch
  exact decide_eq_true (fun he => ht (he ▸ hch))

theorem not_mem_splitKey_snd (key : String) : '\x1f' ∉ (splitKey key).2.toList := by
  unfold splitKey
  dsimp only
  rw [String.toList_ofList]
  intro h
  have hne := List.mem_takeWhile_imp h
  exact of_decide_eq_true hne rfl

theorem topicKey_injective {backendId backendId' topic topic' : String} (hb : '\x1f' ∉ backendId.toList)
    (hb' : '\x1f' ∉ backendId'.toList) (h : topicKey backendId topic = topicKey backendId' topic') :
    backendId = backendId' ∧ topic = topic' := by
  have hfirst : backendId = backendId' := by
    have hsplit := congrArg (fun key => (splitKey key).1) h
    simpa only [splitKey_topicKey hb, splitKey_topicKey hb'] using hsplit
  subst hfirst
  have hlists := congrArg String.toList h
  rw [toList_topicKey, toList_topicKey] at hlists
  have htail := List.append_cancel_left hlists
  exact ⟨rfl, String.toList_injective (List.cons.inj htail).2⟩

/-! ## Order and keys of the entries -/

/-- The stamps of the entries rise, and the next one is above them. -/
structure Stamped (t : TopicsPart) : Prop where
  rising : (t.topicHandlers.entries.map (fun p => p.2.stamp)).Pairwise (· < ·)
  below : ∀ p ∈ t.topicHandlers.entries, p.2.stamp < t.nextStamp

/-- Every key is joined from a backend id without a separator and a topic. -/
def Joined (t : TopicsPart) : Prop :=
  ∀ p ∈ t.topicHandlers.entries, ∃ backendId topic : String, '\x1f' ∉ backendId.toList ∧ p.1 = topicKey backendId topic

theorem TopicsMove.stamped {t : TopicsPart} (hm : TopicsMove c t) (h : Stamped c.topics) : Stamped t := by
  cases hm with
  | stay => exact h
  | change key entry handlers hentry =>
    have hentries := InsertionMap.entries_set_present (k := key) (m := c.topicHandlers) (by rw [hentry]; nofun)
      { entry with handlers }
    have hstamp (p : String × TopicHandlers) (hp : p ∈ c.topicHandlers.entries) :
        (if p.1 = key then ({ entry with handlers } : TopicHandlers) else p.2).stamp = p.2.stamp := by
      split
      · rename_i hkey
        have hget := InsertionMap.mem_entries_iff.mp hp
        rw [hkey, hentry, Option.some_inj] at hget
        rw [← hget]
      · rfl
    refine ⟨?_, fun p hp => ?_⟩
    · rw [hentries, List.map_map, List.map_congr_left (g := fun p => p.2.stamp) hstamp]
      exact h.rising
    · rw [hentries] at hp
      obtain ⟨p', hp', rfl⟩ := List.mem_map.mp hp
      exact (hstamp p' hp').symm ▸ h.below p' hp'
  | delete key =>
    have hsub : (c.topicHandlers.delete key).entries.Sublist c.topicHandlers.entries := List.filter_sublist
    exact ⟨h.rising.sublist (hsub.map _), fun p hp => h.below p (hsub.subset hp)⟩
  | add op outcome backendId topic handler _ _ hnone =>
    have hentries := InsertionMap.entries_set_new hnone ⟨c.nextStamp, [handler]⟩
    refine ⟨?_, fun p hp => ?_⟩
    · rw [hentries, List.map_append, List.pairwise_append]
      refine ⟨h.rising, List.pairwise_singleton _ _, fun a ha b hb => ?_⟩
      obtain ⟨p, hp, rfl⟩ := List.mem_map.mp ha
      rw [List.mem_singleton.mp hb]
      exact h.below p hp
    · rw [hentries] at hp
      rcases List.mem_append.mp hp with hp | hp
      · exact Nat.lt_succ_of_lt (h.below p hp)
      · rw [List.mem_singleton.mp hp]
        exact Nat.lt_succ_self _

theorem TopicsMove.joined {t : TopicsPart} (hm : TopicsMove c t) (h : Joined c.topics)
    (hids : ∀ op outcome backendId topic handler, c.settledOp = some (op, outcome) →
      op.caller = .subscribeTopic backendId topic handler → '\x1f' ∉ backendId.toList) : Joined t := by
  cases hm with
  | stay => exact h
  | change key entry handlers hentry =>
    intro p hp
    rw [show TopicsPart.topicHandlers _ = c.topicHandlers.set key { entry with handlers } from rfl,
      InsertionMap.entries_set_present (by rw [hentry]; nofun)] at hp
    obtain ⟨p', hp', rfl⟩ := List.mem_map.mp hp
    exact h p' hp'
  | delete key => exact fun p hp => h p (List.mem_filter.mp hp).1
  | add op outcome backendId topic handler hop hcaller hnone =>
    intro p hp
    rw [show TopicsPart.topicHandlers _ = c.topicHandlers.set (topicKey backendId topic) ⟨c.nextStamp, [handler]⟩ from rfl,
      InsertionMap.entries_set_new hnone] at hp
    rcases List.mem_append.mp hp with hp | hp
    · exact h p hp
    · rw [List.mem_singleton.mp hp]
      exact ⟨backendId, topic, hids op outcome backendId topic handler hop hcaller, rfl⟩

/-- The iteration starts with the first entry. -/
theorem nextResubscribe_zero (c : GatewayClient) (trigger : Trigger) :
    c.nextResubscribe trigger 0 = c.topicHandlers.entries.head?.map
      (fun p => .resubscribeTopics trigger p.2.stamp (splitKey p.1).1 (splitKey p.1).2) := by
  unfold nextResubscribe
  cases c.topicHandlers.entries with
  | nil => rfl
  | cons p rest => rw [List.find?_cons_of_pos (by simp)]; rfl

/-- From an entry it goes to the one behind it. -/
theorem nextResubscribe_succ (h : Stamped c.topics) (trigger : Trigger) {before after : List (String × TopicHandlers)}
    {p : String × TopicHandlers} (he : c.topicHandlers.entries = before ++ p :: after) :
    c.nextResubscribe trigger (p.2.stamp + 1) = after.head?.map
      (fun p => .resubscribeTopics trigger p.2.stamp (splitKey p.1).1 (splitKey p.1).2) := by
  have hrising := h.rising
  rw [show c.topics.topicHandlers = c.topicHandlers from rfl, he, List.map_append, List.map_cons, List.pairwise_append,
    List.pairwise_cons] at hrising
  obtain ⟨-, ⟨hafter, -⟩, hbefore⟩ := hrising
  have hskip : before.find? (fun q => decide (p.2.stamp + 1 ≤ q.2.stamp)) = none := by
    rw [List.find?_eq_none]
    intro q hq
    have hlt := hbefore q.2.stamp (List.mem_map_of_mem hq) p.2.stamp (List.mem_cons_self)
    simp only [decide_eq_true_eq]
    omega
  unfold nextResubscribe
  rw [he, List.find?_append, hskip, Option.none_or, List.find?_cons_of_neg (by simp)]
  cases after with
  | nil => rfl
  | cons q rest =>
    have hlt := hafter q.2.stamp (by simp)
    rw [List.find?_cons_of_pos (by simpa using Nat.succ_le_of_lt hlt)]
    rfl

end GatewayClient

end ZclaudiaGateway
