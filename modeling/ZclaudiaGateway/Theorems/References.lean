import ZclaudiaGateway.Lemmas.Reach
import ZclaudiaGateway.Lemmas.Sample

/-!
# What refers to a session

Channels, subscriber sets, recovery tokens and leases name sessions. A disconnect removes a session with all that names it; the
expiry of its lease leaves the channels it opened to other backends and its subscriptions there. Nothing names a session that is
gone after every run in which no session that has either loses its lease that way.
-/

namespace ZclaudiaGateway

namespace Gateway

/-! ## Sessions that are referred to -/

/-- Every session that a table names is there. -/
structure SessionsReferred (s : Gateway) : Prop where
  clients : ∀ id ch, s.channels.get id = some ch → ch.clientPeerSessionId ≠ "" →
    s.state.peers.has ch.clientPeerSessionId = true
  backends : ∀ id ch, s.channels.get id = some ch → ch.backendPeerSessionId ≠ "" →
    s.state.peers.has ch.backendPeerSessionId = true
  subscribers : ∀ b topic p, s.subscribed b topic p = true → s.state.peers.has p = true
  recoveryTokens : ∀ token p, s.recoveryTokens.get token = some p → s.state.peers.has p = true
  leases : ∀ b lease, s.state.leases.get b = some lease → s.state.peers.has lease.peerSessionId = true

/-! ## Where the code strands references -/

/-- The lease of the backend is over at the next check. -/
def expiring (s : Gateway) (backendId : String) : Bool :=
  (s.state.leases.get backendId).any (fun lease => s.now - lease.lastHeartbeatAt > lease.leaseTtlMs)

/-- The session is the client of a channel to the backend, or subscribes to a topic of it. -/
def Uses (s : Gateway) (p backendId : String) : Prop :=
  (∃ id ch, s.channels.get id = some ch ∧ ch.clientPeerSessionId = p ∧ ch.backendId = backendId) ∨
    ∃ topic, s.subscribed backendId topic p = true

/-- A lease check in which the lease of a session expires that uses a backend whose lease does not. -/
def Strands (s : Gateway) (e : Event) : Prop :=
  e = .leaseCheckInterval ∧ ∃ b lease b', s.state.leases.get b = some lease ∧ s.expiring b = true ∧
    s.Uses lease.peerSessionId b' ∧ s.expiring b' = false

/-! ## The invariant -/

/-- Clients and subscribers are sessions that are there. -/
structure Linked (s : Gateway) : Prop where
  clients : ∀ id ch, s.channels.get id = some ch → ch.clientPeerSessionId = "" ∨
    s.state.peers.has ch.clientPeerSessionId = true
  subscribers : ∀ b topic p, s.subscribed b topic p = true → s.state.peers.has p = true

theorem Linked.referred {s : Gateway} (h : s.Linked) (ho : s.Ownership) : s.SessionsReferred := by
  have hlease (b : String) (lease : BackendLease) (hl : s.state.leases.get b = some lease) :
      s.state.peers.has lease.peerSessionId = true := by
    obtain ⟨-, -, peer, -, hp, -⟩ := ho.lease b lease hl
    exact InsertionMap.has_iff.mpr ⟨peer, hp⟩
  refine ⟨fun id ch hc hne => ?_, fun id ch hc _ => ?_, h.subscribers, fun token p ht => ?_, hlease⟩
  · rcases h.clients id ch hc with hempty | hp
    · exact absurd hempty hne
    · exact hp
  · obtain ⟨lease, hl, -, howner⟩ := ho.channels id ch hc
    exact howner ▸ hlease _ lease hl
  · obtain ⟨peer, hp, -⟩ := (ho.tokens token p).mp ht
    exact InsertionMap.has_iff.mpr ⟨peer, hp⟩

variable {Γ : Ctx} {s t : Gateway}

/-- Channels and subscribers may go, sessions may come. -/
theorem Linked.mono (h : s.Linked)
    (channels : ∀ id ch, t.channels.get id = some ch → ∃ ch0, s.channels.get id = some ch0 ∧
      ch.clientPeerSessionId = ch0.clientPeerSessionId)
    (subscribed : ∀ b topic p, t.subscribed b topic p = true → s.subscribed b topic p = true)
    (peers : ∀ p, s.state.peers.has p = true → t.state.peers.has p = true) : t.Linked := by
  refine ⟨fun id ch hc => ?_, fun b topic p hp => peers p (h.subscribers b topic p (subscribed b topic p hp))⟩
  obtain ⟨ch0, hc0, he⟩ := channels id ch hc
  rw [he]
  exact (h.clients id ch0 hc0).imp_right (peers _)

theorem Linked.turns (h : s.Linked) (ht : s.ControlTurns t) : t.Linked := by
  refine h.mono (fun id ch hc => ?_) (fun b topic p hp => ht.topics.fewer b topic p hp) (fun p hp => ?_)
  · obtain ⟨ch0, hc0, he⟩ := ht.channels id ch hc
    exact ⟨ch0, hc0, he.client⟩
  · rw [ht.state.peers.has_eq]
    exact hp

/-- A channel for a session that is there, or for none. -/
theorem Linked.newChannel (h : s.Linked) {id : String} {ch : ChannelRecord}
    (hclient : ch.clientPeerSessionId = "" ∨ s.state.peers.has ch.clientPeerSessionId = true)
    (channels : t.channels = s.channels.set id ch) (topicSubs : t.topicSubs = s.topicSubs)
    (peers : t.state.peers = s.state.peers) : t.Linked := by
  refine ⟨fun id' ch' hc => ?_, fun b topic p hp => ?_⟩
  · rw [peers]
    rw [channels] at hc
    rcases InsertionMap.get_set_eq_some.mp hc with ⟨-, rfl⟩ | ⟨-, hc⟩
    · exact hclient
    · exact h.clients id' ch' hc
  · rw [peers]
    unfold subscribed at hp
    rw [topicSubs] at hp
    exact h.subscribers b topic p hp

theorem Linked.disconnect (h : s.Linked) (ho : s.Ownership) (p : String) : (s.handlePeerDisconnect p).Linked := by
  rcases hp : s.state.peers.get p with _ | peer
  · unfold handlePeerDisconnect
    rw [hp]
    exact h
  · have hd := handlePeerDisconnect_disconnected ho.channelId hp
    have hpeers (q : String) (hq : s.state.peers.has q = true) (hne : q ≠ p) :
        (s.handlePeerDisconnect p).state.peers.has q = true := by
      rw [hd.peers, InsertionMap.has_delete, decide_eq_false hne, hq]
      rfl
    refine ⟨fun id ch hc => ?_, fun b topic q hsub => ?_⟩
    · rw [hd.channels, Option.filter_eq_some_iff] at hc
      obtain ⟨hc, hkept⟩ := hc
      simp only [isEndOf, Bool.and_eq_true, Bool.not_eq_true', Bool.or_eq_false_iff, decide_eq_false_iff_not] at hkept
      exact (h.clients id ch hc).imp_right (fun hq => hpeers _ hq hkept.2.1)
    · rw [(subscribed_lost hd.topicSubs).2, Bool.and_eq_true, Bool.and_eq_true, decide_eq_true_eq, decide_eq_true_eq] at hsub
      exact hpeers q (h.subscribers b topic q hsub.2.2) hsub.2.1

variable {act : Option Request}

theorem ControlStep.linked (hstep : ControlStep Γ act s t) (ho : s.Ownership) (h : s.Linked) : t.Linked := by
  cases hstep with
  | turn ht => exact h.turns ht
  | deliver hd =>
    obtain ⟨f, rfl⟩ := hd.onNet
    exact ⟨h.clients, h.subscribers⟩
  | @topic _ peer message hp hact ht =>
    have honly := routeMessage_topic (Γ := Γ) peer ht s
    refine ⟨by rw [honly.channels, honly.state]; exact h.clients, fun b topic q hsub => ?_⟩
    rw [honly.state]
    rcases routeMessage_subscribed ht hsub with hsub | ⟨rfl, -⟩
    · exact h.subscribers b topic q hsub
    · rw [ho.key _ _ hp]
      exact InsertionMap.has_iff.mpr ⟨_, hp⟩
  | openChannel hp hact hl hb hi hreach hroom =>
    refine h.newChannel (Or.inr ?_) rfl rfl rfl
    dsimp only
    rw [ho.key _ _ hp]
    exact InsertionMap.has_iff.mpr ⟨_, hp⟩
  | proxyViaChannel hl hb =>
    unfold Gateway.proxyViaChannel
    split
    · exact ⟨h.clients, h.subscribers⟩
    · exact h.newChannel (Or.inl rfl) rfl rfl rfl
  | disconnect p => exact h.disconnect ho p

theorem Linked.openSession (h : s.Linked) (ho : s.Owned Γ) (ws : SocketId) (credential : CredentialRecord)
    (hello : PeerHello) : (s.openSession Γ ws credential hello).Linked := by
  have hgreet := openSession_topics ho.1 ho.2 ws credential hello
  have hsubscribed (b topic p : String) (hsub : (s.openSession Γ ws credential hello).subscribed b topic p = true) :
      s.subscribed b topic p = true := by
    have hget := hgreet.topicSubs b
    split at hget
    · unfold subscribed at hsub
      rw [hget] at hsub
      cases hsub
    · rwa [subscribed_congr hget] at hsub
  rcases openSession_cases ho.1 ho.2 ws credential hello with ⟨-, he⟩ | ⟨-, u, storage, b, grant, -, -, hr, he⟩
  · obtain ⟨⟨hstate, -⟩, -, hchannels, -⟩ := addSession_tables
      (newPeer (Γ.sessionIds.draw s.drawn) (Γ.recoveryTokens.draw s.drawn) ws credential hello) none s
    refine h.mono (fun id ch hc => ⟨ch, ?_, rfl⟩) hsubscribed (fun p hp => ?_)
    · rwa [he, hchannels] at hc
    · rw [he, hstate, GatewayState.addPeer, InsertionMap.has_set, hp, Bool.or_true]
  · obtain ⟨⟨hstate, -⟩, -, hchannels, -⟩ := addSession_tables
      { newPeer (Γ.sessionIds.draw s.drawn) (Γ.recoveryTokens.draw s.drawn) ws credential hello with
        backendId := some b, epoch := some (s.storage.maxEpoch + 1) } grant u
    refine h.mono (fun id ch hc => ⟨ch, ?_, rfl⟩) hsubscribed (fun p hp => ?_)
    · rw [he, hchannels, hr.channels, Option.filter_eq_some_iff] at hc
      exact hc.1
    · rw [he, hstate, GatewayState.addPeer, InsertionMap.has_set, Bool.or_eq_true]
      right
      rw [InsertionMap.has, hr.peers, Option.isSome_map]
      exact hp

/-! ## The lease check -/

/-- In the course of a lease check that began in `s`: what a session that is gone has left belongs to a backend whose lease
expires too and that is still to be checked. -/
structure Checking (s t : Gateway) (rest : List String) : Prop where
  ownership : t.Ownership
  now : t.now = s.now
  leases : ∀ b ∈ rest, t.state.leases.get b = s.state.leases.get b
  channels : ∀ id ch, t.channels.get id = some ch → s.channels.get id = some ch
  fewer : ∀ b topic p, t.subscribed b topic p = true → s.subscribed b topic p = true
  clients : ∀ id ch, t.channels.get id = some ch → ch.clientPeerSessionId = "" ∨
    t.state.peers.has ch.clientPeerSessionId = true ∨ s.expiring ch.backendId = true
  subscribers : ∀ b topic p, t.subscribed b topic p = true → t.state.peers.has p = true ∨ s.expiring b = true
  done : ∀ b, s.expiring b = true → b ∉ rest → (∀ id ch, t.channels.get id = some ch → ch.backendId ≠ b) ∧
    ∀ topic p, t.subscribed b topic p = false

theorem Checking.begin (h : s.Linked) (ho : s.Ownership) : s.Checking s s.state.leases.keys := by
  refine ⟨ho, rfl, fun _ _ => rfl, fun _ _ hc => hc, fun _ _ _ hs => hs, fun id ch hc => ?_, fun b topic p hs => ?_,
    fun b hb hnot => ?_⟩
  · exact (h.clients id ch hc).imp_right Or.inl
  · exact Or.inl (h.subscribers b topic p hs)
  · obtain ⟨lease, hl, -⟩ := (Option.any_eq_true ..).mp hb
    exact absurd (InsertionMap.mem_keys_iff.mpr ⟨lease, hl⟩) hnot

theorem Checking.linked (h : s.Checking t []) : t.Linked := by
  refine ⟨fun id ch hc => ?_, fun b topic p hsub => ?_⟩
  · rcases h.clients id ch hc with hempty | hp | hx
    · exact Or.inl hempty
    · exact Or.inr hp
    · exact absurd rfl ((h.done _ hx (List.not_mem_nil)).1 id ch hc)
  · rcases h.subscribers b topic p hsub with hp | hx
    · exact hp
    · rw [(h.done b hx (List.not_mem_nil)).2 topic p] at hsub
      cases hsub

theorem Checking.check (hsafe : ¬ s.Strands .leaseCheckInterval) {b : String} {rest : List String}
    (hnodup : (b :: rest).Nodup) (h : s.Checking t (b :: rest)) : s.Checking (t.checkLease b) rest := by
  rw [List.nodup_cons] at hnodup
  have hlease := h.leases b List.mem_cons_self
  -- A backend that is not checked here keeps what the check says of it.
  have hskip (hb : s.expiring b = false) : s.Checking t rest :=
    { h with
      leases := fun b' hb' => h.leases b' (List.mem_cons_of_mem _ hb')
      done := fun b' hb' hnot => h.done b' hb' (fun hmem => by
        rcases List.mem_cons.mp hmem with rfl | hmem
        · rw [hb'] at hb
          cases hb
        · exact hnot hmem) }
  unfold checkLease
  split
  · rename_i hnone
    refine hskip ?_
    rw [expiring, ← hlease, hnone]
    rfl
  · rename_i lease hl
    have hexpiring : s.expiring b = decide (t.now - lease.lastHeartbeatAt > lease.leaseTtlMs) := by
      rw [expiring, ← hlease, hl, h.now]
      rfl
    split
    · rename_i hover
      rw [decide_eq_true hover] at hexpiring
      have hx := handleBackendLeaseExpired_expired h.ownership.channelId h.ownership.key hl
      have hchannels (id : String) (ch : ChannelRecord) (hc : (t.handleBackendLeaseExpired b).channels.get id = some ch) :
          t.channels.get id = some ch ∧ ch.backendId ≠ b := by
        rw [hx.channels, Option.filter_eq_some_iff] at hc
        simpa using hc
      have hsubscribed (b' topic p : String) (hsub : (t.handleBackendLeaseExpired b).subscribed b' topic p = true) :
          t.subscribed b' topic p = true ∧ b' ≠ b := by
        unfold subscribed at hsub ⊢
        rw [hx.topicSubs, InsertionMap.get_delete] at hsub
        split at hsub
        · cases hsub
        · rename_i hne
          exact ⟨hsub, hne⟩
      have hpeers (p : String) (hp : t.state.peers.has p = true) :
          (t.handleBackendLeaseExpired b).state.peers.has p = true ∨ p = lease.peerSessionId := by
        by_cases hpl : p = lease.peerSessionId
        · exact Or.inr hpl
        · rw [InsertionMap.has, hx.peers, if_neg hpl]
          exact Or.inl hp
      have huses (b' : String) (hu : s.Uses lease.peerSessionId b') : s.expiring b' = true := by
        by_contra hno
        exact hsafe ⟨rfl, b, lease, b', hlease ▸ hl, hexpiring, hu, Bool.not_eq_true _ ▸ hno⟩
      refine ⟨h.ownership.expire b, hx.now.trans h.now, fun b' hb' => ?_, fun id ch hc => h.channels id ch (hchannels id ch hc).1,
        fun b' topic p hsub => h.fewer b' topic p (hsubscribed b' topic p hsub).1, fun id ch hc => ?_, fun b' topic p hsub => ?_,
        fun b' hb' hnot => ?_⟩
      · rw [hx.leases, InsertionMap.get_delete_of_ne (fun he => hnodup.1 (by rw [← he]; exact hb'))]
        exact h.leases b' (List.mem_cons_of_mem _ hb')
      · rcases h.clients id ch (hchannels id ch hc).1 with hempty | hp | hpending
        · exact Or.inl hempty
        · rcases hpeers _ hp with hp | hp
          · exact Or.inr (Or.inl hp)
          · exact Or.inr (Or.inr (huses _ (Or.inl ⟨id, ch, h.channels id ch (hchannels id ch hc).1, hp, rfl⟩)))
        · exact Or.inr (Or.inr hpending)
      · obtain ⟨hsub, -⟩ := hsubscribed b' topic p hsub
        rcases h.subscribers b' topic p hsub with hp | hpending
        · rcases hpeers p hp with hp | rfl
          · exact Or.inl hp
          · exact Or.inr (huses _ (Or.inr ⟨topic, h.fewer b' topic _ hsub⟩))
        · exact Or.inr hpending
      · refine ⟨fun id ch hc he => ?_, fun topic p => ?_⟩
        · obtain ⟨hc, hne⟩ := hchannels id ch hc
          refine (h.done b' hb' (fun hmem => ?_)).1 id ch hc he
          rcases List.mem_cons.mp hmem with rfl | hmem
          · exact hne he
          · exact hnot hmem
        · rcases hsub : (t.handleBackendLeaseExpired b).subscribed b' topic p with _ | _
          · rfl
          · obtain ⟨hsub, hne⟩ := hsubscribed b' topic p hsub
            rw [(h.done b' hb' (fun hmem => (List.mem_cons.mp hmem).elim hne hnot)).2 topic p] at hsub
            cases hsub
    · rename_i hover
      exact hskip (hexpiring.trans (decide_eq_false hover))

theorem Linked.leaseChecks (h : s.Linked) (ho : s.Ownership) (hsafe : ¬ s.Strands .leaseCheckInterval) :
    s.leaseCheckInterval.Linked := by
  have hfold (rest : List String) (t : Gateway) (hnodup : rest.Nodup) (ht : s.Checking t rest) :
      (rest.foldl checkLease t).Linked := by
    induction rest generalizing t with
    | nil => exact ht.linked
    | cons b rest ih => exact ih _ (List.nodup_cons.mp hnodup).2 (ht.check hsafe hnodup)
  exact hfold _ s s.state.leases.nodup (.begin h ho)

/-! ## Runs -/

theorem Linked.handle (h : s.Linked) (ho : s.Owned Γ) {e : Event} (hsafe : ¬ s.Strands e) : (s.handle Γ e).Linked := by
  rcases hh : s.helloOf Γ e with _ | ⟨ws, conn, hello⟩
  · by_cases he : e = .leaseCheckInterval
    · subst he
      exact h.leaseChecks ho.1 hsafe
    · have hboth : (s.handle Γ e).Ownership ∧ (s.handle Γ e).Linked :=
        (handle_control he hh).invariant (I := fun t => t.Ownership ∧ t.Linked)
          (fun _ _ hstep ⟨hown, hlinked⟩ => ⟨hstep.ownership hown, hstep.linked hown hlinked⟩) ⟨ho.1, h⟩
      exact hboth.2
  · rw [handle_hello hh]
    rcases greet_control (Γ := Γ) ws conn hello s with ⟨-, ht, -⟩ | ⟨u, credential, -, ht, he, -⟩
    · exact h.turns ht
    · have hopened := (h.turns ht).openSession ⟨ho.1.turns ht, FreshSessions.turns ho.2 ht⟩ ws credential hello
      rw [he]
      exact ⟨hopened.clients, hopened.subscribers⟩

end Gateway

open Gateway in
/-- Nothing names a session that is gone after a run in which no lease check strands a session's references. -/
theorem sessions_referred (Γ : Ctx) (storage : Storage) (es : List Event)
    (hrun : (gateway Γ storage).Meets (fun s e => ¬ s.Strands e) es) : ((gateway Γ storage).run es).SessionsReferred := by
  have hlinked : ((gateway Γ storage).run es).Linked := by
    refine EventMachine.Meets.invariant (I := Linked) (J := Owned Γ) (@owned_run Γ storage) ?_ (fun s e ho h hsafe => ?_) es hrun
    · exact ⟨fun _ _ hc => (nomatch hc), fun _ _ _ hs => (nomatch hs)⟩
    · have hquiet : s.quiet.Linked := ⟨h.clients, h.subscribers⟩
      change (s.step Γ e).Linked
      unfold Gateway.step
      split
      · exact hquiet
      · have hhandled := hquiet.handle ⟨ho.1.only rfl rfl rfl rfl, ho.2⟩ (e := e) hsafe
        exact ⟨hhandled.clients, hhandled.subscribers⟩
  exact hlinked.referred (owned_run es).1

/-! ### A sample -/

/-- The sample store with a backend credential of another backend. -/
def twoBackends : Storage :=
  { sampleStorage with
    credentials := sampleStorage.credentials.set "other" (sampleCredential "other" "zgb_other" .backend (some "D")) }

def openOther : JsonValue := .obj [("type", .str "channel_open"), ("target", .str "D")]

def twoBackendsCtx : Ctx := Ctx.sample [sampleHello "zgb_old" true, sampleHello "zgb_other" true, openOther]

/-- The owner of `B` opens a channel to `D`, which registered later, and falls silent. -/
def ownerLapses : List Event :=
  [.connect, .text 0 (sampleHello "zgb_old" true), .clock 20000, .connect, .text 3 (sampleHello "zgb_other" true),
    .text 0 openOther, .clock 31000]

/-- The owner of `B` leaves, and its channel with it. -/
def ownerLeaves : List Event := ownerLapses ++ [.socketClosed 0]

theorem sessions_referred_sample : ((gateway twoBackendsCtx twoBackends).run ownerLeaves).SessionsReferred := by
  refine sessions_referred _ _ _ fun pre e hp hstrands => ?_
  obtain ⟨rest, hrest⟩ := hp
  have hmem : Event.leaseCheckInterval ∈ ownerLeaves := by
    rw [← hrest, ← hstrands.1]
    simp
  simp [ownerLeaves, ownerLapses, Event.connect, Event.text] at hmem

/-- The lease check then removes the owner's session and leaves its channel. -/
theorem expiry_strands_channel :
    ¬ ((gateway twoBackendsCtx twoBackends).run (ownerLapses ++ [.leaseCheckInterval])).SessionsReferred := by
  intro h
  have htest : ((gateway twoBackendsCtx twoBackends).run (ownerLapses ++ [.leaseCheckInterval])).channels.entries.any
      (fun p => p.2.clientPeerSessionId ≠ "" &&
        !((gateway twoBackendsCtx twoBackends).run (ownerLapses ++ [.leaseCheckInterval])).state.peers.has
          p.2.clientPeerSessionId) = true := by
    decide +kernel
  obtain ⟨⟨id, ch⟩, hc, htest⟩ := List.any_eq_true.mp htest
  rw [Bool.and_eq_true, Bool.not_eq_true', decide_eq_true_eq] at htest
  have hthere := h.clients id ch (InsertionMap.get_eq_some_iff.mpr hc) htest.1
  rw [htest.2] at hthere
  cases hthere

end ZclaudiaGateway
