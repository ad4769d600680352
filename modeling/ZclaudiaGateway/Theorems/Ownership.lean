import ZclaudiaGateway.Lemmas.Connections
import ZclaudiaGateway.Lemmas.Outputs
import ZclaudiaGateway.Lemmas.Sample

/-!
# One owner per backend

At every event boundary leases, registry and sessions agree on who owns a backend, every new lease has a greater epoch than
all before it, and a session that has lost its lease can neither keep one alive nor speak for a backend.
-/

namespace ZclaudiaGateway

/-- What a session that owns no backend may put out: no message of a backend, and of topics only the retained payload, to
itself. -/
def Output.Powerless (s : Gateway) (ws : SocketId) : Output → Prop
  | .send _ (.backendServerMessage _) => False
  | .send w (.topicMessage backendId topic payload) =>
    w = ws ∧ payload.isSome ∧ (s.retainedTopics.get backendId).bind (fun retained => retained.get topic) = payload
  | _ => True

theorem Output.powerless_of_tears {s : Gateway} {ws : SocketId} (o : Output) (h : o.tears = true) : o.Powerless s ws := by
  cases o with
  | send w m => cases m <;> trivial
  | _ => trivial

namespace Gateway

variable {Γ : Ctx}

/-- Leases, registry and sessions agree on the owner of every backend. -/
structure OwnersAgree (s : Gateway) : Prop where
  keys : ∀ b, s.state.registry.has b = s.state.leases.has b
  lease : ∀ b lease, s.state.leases.get b = some lease → ∃ peer item, s.state.peers.get lease.peerSessionId = some peer ∧
    peer.backendId = some b ∧ peer.epoch = some lease.epoch ∧ s.state.registry.get b = some item ∧
    item.epoch = lease.epoch ∧ item.ns = peer.ns
  owner : ∀ p peer b, s.state.peers.get p = some peer → peer.backendId = some b →
    ∃ lease, s.state.leases.get b = some lease ∧ lease.peerSessionId = p
  unique : ∀ p q peer peer' b, s.state.peers.get p = some peer → s.state.peers.get q = some peer' →
    peer.backendId = some b → peer'.backendId = some b → p = q

theorem Ownership.agree {s : Gateway} (h : s.Ownership) : s.OwnersAgree := by
  refine ⟨h.keys, fun b lease hl => ?_, h.owner, fun p q peer peer' b hp hq hb hb' => ?_⟩
  · obtain ⟨-, -, hpeer⟩ := h.lease b lease hl
    exact hpeer
  · obtain ⟨lease, hl, rfl⟩ := h.owner p peer b hp hb
    obtain ⟨lease', hl', rfl⟩ := h.owner q peer' b hq hb'
    rw [hl, Option.some.injEq] at hl'
    rw [hl']

/-! ## A message of a session that owns no backend -/

/-- Leases and retained topics are the same, and only what such a session may put out goes out. -/
structure Idle (ws : SocketId) (s t : Gateway) : Prop where
  leases : t.state.leases = s.state.leases
  retainedTopics : t.retainedTopics = s.retainedTopics
  emits : s.net.Emits (Output.Powerless s ws) t.net

theorem Idle.refl (ws : SocketId) (s : Gateway) : Idle ws s s := ⟨rfl, rfl, .refl _⟩

theorem Idle.onNet {ws : SocketId} {s : Gateway} {f : Net → Net} (h : s.net.Emits (Output.Powerless s ws) (f s.net)) :
    Idle ws s (s.onNet f) :=
  ⟨rfl, rfl, h⟩

theorem Idle.sendError (ws w : SocketId) (code : GatewayErrorCode) (message : String) (s : Gateway) :
    Idle ws s (s.sendError w code message) :=
  .onNet (.sendToWs trivial _)

theorem Idle.teardown (ws : SocketId) (reason : ChannelClosedReason) (s : Gateway) (channelId : String) :
    Idle ws s (s.teardownChannel reason channelId) :=
  ⟨by simp, by simp, (teardownChannel_emits reason s channelId).mono Output.powerless_of_tears⟩

theorem handleTopicSubscribe_idle (peer : PeerSession) (backendId topic : String) (s : Gateway) :
    Idle peer.ws s (s.handleTopicSubscribe peer backendId topic) := by
  unfold handleTopicSubscribe
  split
  · exact .sendError _ _ _ _ s
  · split
    · exact .sendError _ _ _ _ s
    · split
      · exact .sendError _ _ _ _ s
      · dsimp only
        split
        · rename_i payload hpayload
          have hsubscribed : s.net.Emits (Output.Powerless s peer.ws)
              (s.net.sendToWs peer.ws (.topicSubscribed backendId topic)) := .sendToWs trivial _
          exact ⟨rfl, rfl, hsubscribed.trans (.sendToWs ⟨rfl, rfl, hpayload⟩ _)⟩
        · exact ⟨rfl, rfl, .sendToWs trivial _⟩

theorem handleChannelOpen_idle (peer : PeerSession) (target : String) (kind : Option String) (s : Gateway) :
    Idle peer.ws s (s.handleChannelOpen Γ peer target kind) := by
  unfold handleChannelOpen
  split
  · exact .sendError _ _ _ _ s
  · dsimp only
    split
    · split
      · exact .sendError _ _ _ _ s
      · split
        · exact .sendError _ _ _ _ s
        · split
          · exact .sendError _ _ _ _ s
          · refine ⟨rfl, rfl, ?_⟩
            exact Net.Emits.trans (.sendToWs trivial s.net) (.sendToWs trivial _)
    · exact .sendError _ _ _ _ s

/-- A message of a session that holds no lease. -/
theorem routeMessage_idle {s : Gateway} {peer : PeerSession}
    (hno : ∀ expected, s.isCurrentBackendOwner peer expected = false) (m : GatewayMessage) :
    Idle peer.ws s (s.routeMessage Γ peer m) := by
  cases m with
  | backendHeartbeat epoch =>
    change Idle _ s (s.handleBackendHeartbeat peer epoch)
    unfold handleBackendHeartbeat
    rw [if_pos (hno _)]
    exact .refl _ s
  | requestRegistrySnapshot => exact .onNet (.sendToWs trivial _)
  | backendServerMessage backendId target raw =>
    change Idle _ s (s.handleBackendServerMessage peer backendId target raw)
    unfold handleBackendServerMessage
    rw [if_pos (hno _)]
    exact .refl _ s
  | pushNotificationRequest event =>
    change Idle _ s (s.handlePushNotificationRequest Γ peer event)
    unfold handlePushNotificationRequest
    split
    · exact .sendError _ _ _ _ s
    · split
      · exact .refl _ s
      · exact .onNet (.emit trivial _)
      · exact ⟨rfl, rfl, .refl _⟩
  | channelOpen target kind => exact handleChannelOpen_idle peer target kind s
  | channelReject channelId =>
    change Idle _ s (s.handleChannelReject peer channelId)
    unfold handleChannelReject
    split
    · exact .refl _ s
    · split
      · exact .teardown _ _ s _
      · exact .refl _ s
  | channelClose channelId =>
    change Idle _ s (s.handleChannelClose peer channelId)
    unfold handleChannelClose
    split
    · exact .refl _ s
    · split
      · exact .teardown _ _ s _
      · exact .refl _ s
  | topicSubscribe backendId topic => exact handleTopicSubscribe_idle peer backendId topic s
  | topicUnsubscribe backendId topic => exact ⟨rfl, rfl, .sendToWs trivial _⟩
  | topicPublish topic payload retained =>
    change Idle _ s (s.handleTopicPublish peer topic payload retained)
    unfold handleTopicPublish
    rw [if_pos (hno _)]
    exact .refl _ s
  | ping ts => exact .onNet (.sendToWs trivial _)
  | unknown type => exact .sendError _ _ _ _ s

/-- A session that holds no lease is no backend's current owner. -/
theorem HoldsNone.not_owner {s : Gateway} {p : String} (h : s.HoldsNone p) (hkey : ∀ p peer, s.state.peers.get p = some peer →
    peer.peerSessionId = p) {peer : PeerSession} (hp : s.state.peers.get p = some peer) (expected : Option JsNumber) :
    s.isCurrentBackendOwner peer expected = false := by
  unfold isCurrentBackendOwner
  split
  · rename_i b epoch _ _
    rw [Bool.and_eq_false_iff]
    right
    rcases hl : s.state.leases.get b with _ | lease
    · rfl
    · have hne := h b lease hl
      have hid := hkey p peer hp
      simp [hid, hne]
  · rfl

end Gateway

/-! ## Runs -/

section Runs

open Gateway

variable {Γ : Ctx} {storage : Storage}

/-- In the course of the run the session held a lease, and then none. -/
def Displaced (Γ : Ctx) (storage : Storage) (es : List Event) (p : String) : Prop :=
  ∃ pre pre', pre <+: pre' ∧ pre' <+: es ∧ ¬ ((gateway Γ storage).run pre).HoldsNone p ∧
    ((gateway Γ storage).run pre').HoldsNone p

/-- A session that was displaced holds no lease. -/
theorem Displaced.holdsNone {es : List Event} {p : String} (h : Displaced Γ storage es p) :
    ((gateway Γ storage).run es).HoldsNone p := by
  obtain ⟨pre, pre', ⟨mid, rfl⟩, ⟨rest, rfl⟩, hheld, hnone⟩ := h
  obtain ⟨hpre, hsessions⟩ : ((gateway Γ storage).run pre).Owned Γ := owned_run pre
  obtain ⟨b, lease, hl, rfl⟩ : ∃ b lease, ((gateway Γ storage).run pre).state.leases.get b = some lease ∧
      lease.peerSessionId = p := by
    by_contra hno
    exact hheld fun b lease hl hp => hno ⟨b, lease, hl, hp⟩
  obtain ⟨-, -, peer, -, hp, -⟩ := hpre.lease b lease hl
  obtain ⟨m, hm, he, -⟩ := hsessions _ peer hp
  have hdrawn : ((gateway Γ storage).run pre).drawn ≤ ((gateway Γ storage).run (pre ++ mid)).drawn := drawn_run pre mid
  rw [he] at hnone ⊢
  exact holdsNone_run (pre ++ mid) rest (by omega) hnone

/-- A lease that is new after an event has a greater epoch than every lease before it. -/
theorem new_epoch (es : List Event) (e : Event) {b : String} {lease : BackendLease}
    (hl : ((gateway Γ storage).run (es ++ [e])).state.leases.get b = some lease)
    (hnew : ¬ ∃ lease0, ((gateway Γ storage).run es).state.leases.get b = some lease0 ∧ lease0.Same lease)
    {pre : List Event} (hpre : pre <+: es) {b' : String} {lease' : BackendLease}
    (hl' : ((gateway Γ storage).run pre).state.leases.get b' = some lease') : lease'.epoch < lease.epoch := by
  obtain ⟨mid, rfl⟩ := hpre
  have howned : ((gateway Γ storage).run (pre ++ mid)).Owned Γ := owned_run (pre ++ mid)
  obtain ⟨⟨ws, hg⟩, -⟩ := step_greets e howned
  rw [EventMachine.run_snoc] at hl
  have hgreater : ((gateway Γ storage).run (pre ++ mid)).storage.maxEpoch < lease.epoch := by
    rcases hg.leases b lease hl with hold | ⟨-, hgreater⟩
    · exact absurd hold hnew
    · exact hgreater
  have hle : lease'.epoch ≤ ((gateway Γ storage).run pre).storage.maxEpoch :=
    ((owned_run (Γ := Γ) pre).1.lease b' lease' hl').2.1
  have hmono : ((gateway Γ storage).run pre).storage.maxEpoch ≤ ((gateway Γ storage).run (pre ++ mid)).storage.maxEpoch :=
    maxEpoch_run (Γ := Γ) pre mid
  omega

/-- A message of a displaced session refreshes no lease, changes no retained topic and speaks for no backend. -/
theorem displaced_idle {es : List Event} {p : String} (h : Displaced Γ storage es p) {ws : SocketId}
    (hs : ((gateway Γ storage).run es).sessionOf ws = some p) (frame : Frame) (buffered : Nat) (writable : Bool) :
    let s := (gateway Γ storage).run es
    let t := (gateway Γ storage).run (es ++ [.message ws frame buffered writable])
    t.state.leases = s.state.leases ∧ t.retainedTopics = s.retainedTopics ∧ ∀ o ∈ t.net.outbox, o.Powerless s ws := by
  intro s t
  have hnone : s.HoldsNone p := h.holdsNone
  have howned : s.Ownership := (owned_run (Γ := Γ) es).1
  have hseated : s.Seated Γ := seated_run es
  have ht : t = s.step Γ (.message ws frame buffered writable) := EventMachine.run_snoc _ es _
  rcases hrun : s.uncaught with _ | error
  · have hidle : Idle ws s.quiet (s.quiet.handle Γ (.message ws frame buffered writable)) := by
      rcases message_cases (Γ := Γ) (s := s.quiet) hs frame buffered writable with he | ⟨w, code, text, he⟩ | ⟨peer, m, hp, he⟩
      · rw [he]
        exact .refl ws _
      · rw [he]
        exact .sendError ws w code text _
      · have hws : peer.ws = ws := (hseated ws p hs).2 peer hp
        rw [he, ← hws]
        exact routeMessage_idle (HoldsNone.not_owner (s := s.quiet) hnone howned.key hp) m
    rw [ht, step_running hrun]
    exact ⟨hidle.leases, hidle.retainedTopics, hidle.emits.of_quiet rfl⟩
  · rw [ht, step_stopped hrun]
    exact ⟨rfl, rfl, fun o ho => (nomatch ho)⟩

/-- Every backend has one owner after every run: leases, registry and sessions agree, a new lease has a greater epoch than
every lease of before, and a session that has lost its lease neither refreshes one nor changes retained topics nor speaks for
a backend. -/
theorem backend_ownership (Γ : Ctx) (storage : Storage) :
    (∀ es, ((gateway Γ storage).run es).OwnersAgree) ∧
    (∀ es e b lease, ((gateway Γ storage).run (es ++ [e])).state.leases.get b = some lease →
      (¬ ∃ lease0, ((gateway Γ storage).run es).state.leases.get b = some lease0 ∧ lease0.Same lease) →
      ∀ pre b' lease', pre <+: es → ((gateway Γ storage).run pre).state.leases.get b' = some lease' →
        lease'.epoch < lease.epoch) ∧
    (∀ es p ws frame buffered writable, Displaced Γ storage es p → ((gateway Γ storage).run es).sessionOf ws = some p →
      let s := (gateway Γ storage).run es
      let t := (gateway Γ storage).run (es ++ [.message ws frame buffered writable])
      t.state.leases = s.state.leases ∧ t.retainedTopics = s.retainedTopics ∧ ∀ o ∈ t.net.outbox, o.Powerless s ws) :=
  ⟨fun es => (owned_run (Γ := Γ) es).1.agree,
    fun es e _ _ hl hnew _ _ _ hpre hl' => new_epoch es e hl hnew hpre hl',
    fun _ _ _ frame buffered writable h hs => displaced_idle h hs frame buffered writable⟩

end Runs

def sampleHeartbeat : JsonValue := .obj [("type", .str "backend_heartbeat"), ("epoch", .num (.finite 1))]

def sampleReplacementCtx : Ctx := .sample [sampleHello "zgb_old" true, sampleHeartbeat]

/-- A backend registers again over a second connection. -/
def sampleReplacement : List Event :=
  [.connect, .text 0 (sampleHello "zgb_old" true), .connect, .text 2 (sampleHello "zgb_old" true)]

/-- The first session is displaced, and its heartbeat refreshes nothing. -/
theorem replaced_heartbeat :
    Displaced sampleReplacementCtx sampleStorage sampleReplacement "ss" ∧
      ((gateway sampleReplacementCtx sampleStorage).run (sampleReplacement ++
        [.message 0 (textFrame sampleHeartbeat) 0 true])).state.leases =
        ((gateway sampleReplacementCtx sampleStorage).run sampleReplacement).state.leases := by
  have hdisplaced : Displaced sampleReplacementCtx sampleStorage sampleReplacement "ss" := by
    refine ⟨sampleReplacement.take 2, sampleReplacement, List.take_prefix _ _, List.prefix_refl _, fun hnone => ?_,
      fun b lease hl hp => ?_⟩
    · have hheld : (((gateway sampleReplacementCtx sampleStorage).run (sampleReplacement.take 2)).state.leases.get "B").map
          (·.peerSessionId) = some "ss" := by decide +kernel
      obtain ⟨lease, hl, hp⟩ := Option.map_eq_some_iff.mp hheld
      exact hnone "B" lease hl hp
    · have hothers : ((gateway sampleReplacementCtx sampleStorage).run sampleReplacement).state.leases.entries.all
          (fun p => p.2.peerSessionId ≠ "ss") = true := by decide +kernel
      have hmem : (b, lease) ∈ ((gateway sampleReplacementCtx sampleStorage).run sampleReplacement).state.leases.entries :=
        InsertionMap.mem_entries_iff.mpr hl
      have hother := List.all_eq_true.mp hothers (b, lease) hmem
      rw [decide_eq_true_eq] at hother
      exact hother hp
  refine ⟨hdisplaced, ?_⟩
  have hs : ((gateway sampleReplacementCtx sampleStorage).run sampleReplacement).sessionOf 0 = some "ss" := by decide +kernel
  obtain ⟨-, -, hidle⟩ := backend_ownership sampleReplacementCtx sampleStorage
  obtain ⟨hleases, -⟩ := hidle sampleReplacement "ss" 0 (textFrame sampleHeartbeat) 0 true hdisplaced hs
  exact hleases

end ZclaudiaGateway
