import ZclaudiaGateway.Lemmas.Control

/-!
# Who owns a backend

A backend that is registered has one lease, its owner's session is live and knows it, and every channel to the backend was
opened in that lease's epoch. This holds between any two operations on the control plane.
-/

namespace ZclaudiaGateway

namespace Gateway

variable {Γ : Ctx}

/-- Leases, registry, sessions, recovery tokens and channels agree. -/
structure Ownership (s : Gateway) : Prop where
  key : ∀ p peer, s.state.peers.get p = some peer → peer.peerSessionId = p
  keys : ∀ b, s.state.registry.has b = s.state.leases.has b
  lease : ∀ b lease, s.state.leases.get b = some lease → lease.backendId = b ∧ lease.epoch ≤ s.storage.maxEpoch ∧
    ∃ peer item, s.state.peers.get lease.peerSessionId = some peer ∧ peer.backendId = some b ∧
      peer.epoch = some lease.epoch ∧ s.state.registry.get b = some item ∧ item.epoch = lease.epoch ∧ item.ns = peer.ns
  owner : ∀ p peer b, s.state.peers.get p = some peer → peer.backendId = some b →
    ∃ lease, s.state.leases.get b = some lease ∧ lease.peerSessionId = p
  tokens : ∀ token p, s.recoveryTokens.get token = some p ↔
    ∃ peer, s.state.peers.get p = some peer ∧ peer.recoveryToken = token
  channelId : ∀ id ch, s.channels.get id = some ch → ch.channelId = id
  channels : ∀ id ch, s.channels.get id = some ch → ∃ lease, s.state.leases.get ch.backendId = some lease ∧
    lease.epoch = ch.epoch ∧ lease.peerSessionId = ch.backendPeerSessionId

theorem Ownership.init (storage : Storage) : (Gateway.init storage).Ownership :=
  ⟨fun _ _ hp => (nomatch hp), fun _ => rfl, fun _ _ hl => (nomatch hl), fun _ _ _ hp _ => (nomatch hp),
    fun _ _ => ⟨fun h => (nomatch h), fun ⟨_, hp, _⟩ => (nomatch hp)⟩, fun _ _ hc => (nomatch hc),
    fun _ _ hc => (nomatch hc)⟩

/-- A session that knows a backend holds its lease. -/
theorem Ownership.ownedBackend_eq {s : Gateway} (h : s.Ownership) {p : String} {peer : PeerSession}
    (hp : s.state.peers.get p = some peer) : s.ownedBackend peer = peer.backendId := by
  rcases hb : peer.backendId with _ | b
  · unfold ownedBackend
    rw [hb]
    split <;> rfl
  · obtain ⟨lease, hl, howner⟩ := h.owner p peer b hp hb
    obtain ⟨-, -, peer', -, hp', -, he, -⟩ := h.lease b lease hl
    rw [howner, hp, Option.some.injEq] at hp'
    subst hp'
    have hcurrent : s.isCurrentBackendOwner peer none = true := by
      simp [isCurrentBackendOwner, hb, he, hl, howner, h.key p peer hp]
    rw [ownedBackend, if_pos hcurrent, hb]

/-- A session holds the lease of one backend. -/
theorem Ownership.one_lease {s : Gateway} (h : s.Ownership) {b b' : String} {lease lease' : BackendLease}
    (hl : s.state.leases.get b = some lease) (hl' : s.state.leases.get b' = some lease')
    (hp : lease.peerSessionId = lease'.peerSessionId) : b = b' := by
  obtain ⟨-, -, peer, -, hpeer, hb, -⟩ := h.lease b lease hl
  obtain ⟨-, -, peer', -, hpeer', hb', -⟩ := h.lease b' lease' hl'
  rw [hp, hpeer', Option.some.injEq] at hpeer
  rw [← hpeer, hb', Option.some.injEq] at hb
  exact hb.symm

/-- The tables ownership depends on, but for times and pongs, with channels that may go. -/
theorem Ownership.of_turns {s t : Gateway} (h : s.Ownership) (state : s.state.Turns t.state)
    (recoveryTokens : t.recoveryTokens = s.recoveryTokens) (channels : s.ChannelsGo t)
    (maxEpoch : s.storage.maxEpoch ≤ t.storage.maxEpoch) : t.Ownership := by
  refine ⟨fun p peer hp => ?_, fun b => ?_, fun b lease hl => ?_, fun p peer b hp hb => ?_, fun token p => ?_,
    fun id ch hc => ?_, fun id ch hc => ?_⟩
  · obtain ⟨peer0, hp0, _, rfl⟩ := state.peers.some_get hp
    exact h.key p peer0 hp0
  · rw [state.registry.has_eq, state.leases.has_eq]
    exact h.keys b
  · obtain ⟨lease0, hl0, _, rfl⟩ := state.leases.some_get hl
    obtain ⟨hid, hepoch, peer, item, hp, hb, he, hi, hie, hns⟩ := h.lease b lease0 hl0
    obtain ⟨peer', hp', _, rfl⟩ := state.peers.get_some hp
    obtain ⟨item', hi', _, rfl⟩ := state.registry.get_some hi
    exact ⟨hid, hepoch.trans maxEpoch, _, _, hp', hb, he, hi', hie, hns⟩
  · obtain ⟨peer0, hp0, _, rfl⟩ := state.peers.some_get hp
    obtain ⟨lease, hl, howner⟩ := h.owner p peer0 b hp0 hb
    obtain ⟨lease', hl', _, rfl⟩ := state.leases.get_some hl
    exact ⟨_, hl', howner⟩
  · rw [recoveryTokens, h.tokens]
    constructor
    · rintro ⟨peer, hp, ht⟩
      obtain ⟨peer', hp', _, rfl⟩ := state.peers.get_some hp
      exact ⟨_, hp', ht⟩
    · rintro ⟨peer, hp, ht⟩
      obtain ⟨peer0, hp0, _, rfl⟩ := state.peers.some_get hp
      exact ⟨peer0, hp0, ht⟩
  · obtain ⟨ch0, hc0, he⟩ := channels id ch hc
    exact he.channelId.trans (h.channelId id ch0 hc0)
  · obtain ⟨ch0, hc0, he⟩ := channels id ch hc
    obtain ⟨lease, hl, hepoch, howner⟩ := h.channels id ch0 hc0
    obtain ⟨lease', hl', _, rfl⟩ := state.leases.get_some hl
    rw [he.backendId]
    exact ⟨_, hl', hepoch.trans he.epoch.symm, howner.trans he.backend.symm⟩

theorem Ownership.turns {s t : Gateway} (h : s.Ownership) (ht : s.ControlTurns t) : t.Ownership :=
  h.of_turns ht.state ht.recoveryTokens ht.channels ht.maxEpoch.ge

/-- The tables ownership depends on. -/
theorem Ownership.only {s t : Gateway} (h : s.Ownership) (state : t.state = s.state)
    (recoveryTokens : t.recoveryTokens = s.recoveryTokens) (channels : t.channels = s.channels)
    (storage : t.storage = s.storage) : t.Ownership := by
  refine h.of_turns ?_ recoveryTokens (fun id ch hc => ⟨ch, channels ▸ hc, .refl ch⟩) (by rw [storage])
  rw [state]
  exact .refl _

/-- A channel to a backend, opened under its current lease. -/
theorem Ownership.newChannel {s t : Gateway} (h : s.Ownership) {id : String} {ch : ChannelRecord} (lease : BackendLease)
    (hl : s.state.leases.get ch.backendId = some lease) (hepoch : lease.epoch = ch.epoch)
    (howner : lease.peerSessionId = ch.backendPeerSessionId) (hid : ch.channelId = id)
    (channels : t.channels = s.channels.set id ch) (state : t.state = s.state)
    (recoveryTokens : t.recoveryTokens = s.recoveryTokens) (storage : t.storage = s.storage) : t.Ownership := by
  refine ⟨state ▸ h.key, state ▸ h.keys, by rw [state, storage]; exact h.lease, by rw [state]; exact h.owner,
    by rw [state, recoveryTokens]; exact h.tokens, fun id ch' hc => ?_, fun id ch' hc => ?_⟩
  · rw [channels] at hc
    rcases InsertionMap.get_set_eq_some.mp hc with ⟨rfl, rfl⟩ | ⟨-, hc⟩
    · exact hid
    · exact h.channelId id ch' hc
  · rw [state]
    rw [channels] at hc
    rcases InsertionMap.get_set_eq_some.mp hc with ⟨rfl, rfl⟩ | ⟨-, hc⟩
    · exact ⟨lease, hl, hepoch, howner⟩
    · exact h.channels id ch' hc

/-- A session goes, with the lease it holds. -/
theorem Ownership.remove {s t : Gateway} (h : s.Ownership) {p : String} {peer : PeerSession}
    (hp : s.state.peers.get p = some peer)
    (peers : ∀ q, t.state.peers.get q = if q = p then none else s.state.peers.get q)
    (registry : ∀ b, t.state.registry.get b = if peer.backendId = some b then none else s.state.registry.get b)
    (leases : ∀ b, t.state.leases.get b = if peer.backendId = some b then none else s.state.leases.get b)
    (recoveryTokens : t.recoveryTokens = s.recoveryTokens.delete peer.recoveryToken)
    (channels : ∀ id ch, t.channels.get id = some ch → s.channels.get id = some ch ∧ peer.backendId ≠ some ch.backendId)
    (maxEpoch : t.storage.maxEpoch = s.storage.maxEpoch) : t.Ownership := by
  have hpeer (q : String) (peer' : PeerSession) (hq : t.state.peers.get q = some peer') :
      q ≠ p ∧ s.state.peers.get q = some peer' := by
    rw [peers] at hq
    split at hq
    · cases hq
    · rename_i hne
      exact ⟨hne, hq⟩
  have hlease (b : String) (lease : BackendLease) (hl : t.state.leases.get b = some lease) :
      peer.backendId ≠ some b ∧ s.state.leases.get b = some lease := by
    rw [leases] at hl
    split at hl
    · cases hl
    · rename_i hne
      exact ⟨hne, hl⟩
  -- Another backend's owner is another session.
  have hother (b : String) (lease : BackendLease) (hb : peer.backendId ≠ some b)
      (hl : s.state.leases.get b = some lease) : lease.peerSessionId ≠ p := by
    rintro rfl
    obtain ⟨-, -, peer', -, hp', hb', -⟩ := h.lease b lease hl
    rw [hp, Option.some.injEq] at hp'
    exact hb (hp' ▸ hb')
  refine ⟨fun q peer' hq => h.key q peer' (hpeer q peer' hq).2, fun b => ?_, fun b lease hl => ?_,
    fun q peer' b hq hb => ?_, fun token q => ?_, fun id ch hc => h.channelId id ch (channels id ch hc).1,
    fun id ch hc => ?_⟩
  · have hk := h.keys b
    simp only [InsertionMap.has, registry, leases] at hk ⊢
    split
    · rfl
    · exact hk
  · obtain ⟨hb, hl⟩ := hlease b lease hl
    obtain ⟨hid, hepoch, peer', item, hp', hb', he, hi, hie, hns⟩ := h.lease b lease hl
    refine ⟨hid, maxEpoch ▸ hepoch, peer', item, ?_, hb', he, ?_, hie, hns⟩
    · rw [peers, if_neg (hother b lease hb hl), hp']
    · rw [registry, if_neg hb, hi]
  · obtain ⟨hne, hq⟩ := hpeer q peer' hq
    obtain ⟨lease, hl, howner⟩ := h.owner q peer' b hq hb
    refine ⟨lease, ?_, howner⟩
    rw [leases, if_neg, hl]
    intro hb'
    obtain ⟨lease', hl', howner'⟩ := h.owner p peer b hp hb'
    rw [hl, Option.some.injEq] at hl'
    exact hne (howner.symm.trans (hl' ▸ howner'))
  · rw [recoveryTokens, InsertionMap.get_delete_eq_some, h.tokens]
    constructor
    · rintro ⟨htok, peer', hq, rfl⟩
      refine ⟨peer', ?_, rfl⟩
      rw [peers, if_neg, hq]
      rintro rfl
      rw [hp, Option.some.injEq] at hq
      exact htok (hq ▸ rfl)
    · rintro ⟨peer', hq, rfl⟩
      obtain ⟨hne, hq⟩ := hpeer q peer' hq
      refine ⟨fun htok => hne ?_, peer', hq, rfl⟩
      have hmine := (h.tokens peer.recoveryToken p).mpr ⟨peer, hp, rfl⟩
      have htheirs := (h.tokens peer'.recoveryToken q).mpr ⟨peer', hq, rfl⟩
      rw [htok, hmine, Option.some.injEq] at htheirs
      exact htheirs.symm
  · obtain ⟨hc, hb⟩ := channels id ch hc
    obtain ⟨lease, hl, hepoch, howner⟩ := h.channels id ch hc
    exact ⟨lease, by rw [leases, if_neg hb, hl], hepoch, howner⟩

theorem get_elim_delete {α : Type} (o : Option String) (m : InsertionMap String α) (k : String) :
    (o.elim m m.delete).get k = if o = some k then none else m.get k := by
  cases o with
  | none => rfl
  | some b =>
    simp only [Option.elim_some, Option.some.injEq]
    rw [InsertionMap.get_delete]
    by_cases hb : b = k
    · rw [if_pos hb, if_pos hb.symm]
    · rw [if_neg hb, if_neg (Ne.symm hb)]

theorem Ownership.disconnect {s : Gateway} (h : s.Ownership) (p : String) : (s.handlePeerDisconnect p).Ownership := by
  rcases hp : s.state.peers.get p with _ | peer
  · unfold handlePeerDisconnect
    rw [hp]
    exact h
  · have hd := handlePeerDisconnect_disconnected h.channelId hp
    have hown := h.ownedBackend_eq hp
    refine h.remove hp (fun q => ?_) (fun b => ?_) (fun b => ?_) hd.recoveryTokens (fun id ch hc => ?_) hd.maxEpoch
    · rw [hd.peers]
      exact InsertionMap.get_delete _ _ _
    · rw [hd.registry, hown]
      exact get_elim_delete _ _ _
    · rw [hd.leases, hown]
      exact get_elim_delete _ _ _
    · rw [hd.channels, Option.filter_eq_some_iff, hown] at hc
      simp only [Bool.and_eq_true, decide_eq_true_eq] at hc
      exact ⟨hc.1, Ne.symm hc.2.1⟩

theorem Ownership.expire {s : Gateway} (h : s.Ownership) (backendId : String) :
    (s.handleBackendLeaseExpired backendId).Ownership := by
  rcases hl : s.state.leases.get backendId with _ | lease
  · unfold handleBackendLeaseExpired
    rw [hl]
    exact h
  · have hx := handleBackendLeaseExpired_expired h.channelId h.key hl
    obtain ⟨-, -, peer, -, hp, hb, -⟩ := h.lease backendId lease hl
    refine h.remove hp hx.peers (fun b => ?_) (fun b => ?_) ?_ (fun id ch hc => ?_) hx.maxEpoch
    · rw [hx.registry, hb]
      exact get_elim_delete (some backendId) _ _
    · rw [hx.leases, hb]
      exact get_elim_delete (some backendId) _ _
    · rw [hx.recoveryTokens, hp]
      rfl
    · rw [hx.channels, Option.filter_eq_some_iff] at hc
      simp only [decide_eq_true_eq] at hc
      exact ⟨hc.1, hb ▸ Ne.symm hc.2⟩

/-! ## A new session -/

/-- A session that is not there: its identifier is the one the event at hand draws. -/
theorem FreshSessions.session {s : Gateway} (h : s.FreshSessions Γ) :
    s.state.peers.get (Γ.sessionIds.draw s.drawn) = none := by
  rcases hp : s.state.peers.get (Γ.sessionIds.draw s.drawn) with _ | peer
  · rfl
  · obtain ⟨m, hm, he, -⟩ := h _ peer hp
    exact absurd (Γ.sessionIds.injective he) (by omega)

/-- No session has the recovery token the event at hand draws. -/
theorem FreshSessions.token {s : Gateway} (h : s.FreshSessions Γ) {p : String} {peer : PeerSession}
    (hp : s.state.peers.get p = some peer) : peer.recoveryToken ≠ Γ.recoveryTokens.draw s.drawn := by
  intro he
  obtain ⟨m, hm, -, he'⟩ := h p peer hp
  exact absurd (Γ.recoveryTokens.injective (he'.symm.trans he)) (by omega)

/-- A session is added. Sessions that were there may have been disowned, and have if they do not hold a lease any more. -/
theorem Ownership.addSession {s t : Gateway} (h : s.Ownership) {peer : PeerSession}
    (hnew : s.state.peers.get peer.peerSessionId = none)
    (htoken : ∀ p peer', s.state.peers.get p = some peer' → peer'.recoveryToken ≠ peer.recoveryToken)
    (lost : String → Prop) [DecidablePred lost]
    (peers : ∀ q, t.state.peers.get q = if q = peer.peerSessionId then some peer
      else (s.state.peers.get q).map (fun peer' => if lost q then disown peer' else peer'))
    (keys : ∀ b, t.state.registry.has b = t.state.leases.has b)
    (lease : ∀ b lease, t.state.leases.get b = some lease → lease.backendId = b ∧ lease.epoch ≤ t.storage.maxEpoch ∧
      ∃ peer item, t.state.peers.get lease.peerSessionId = some peer ∧ peer.backendId = some b ∧
        peer.epoch = some lease.epoch ∧ t.state.registry.get b = some item ∧ item.epoch = lease.epoch ∧ item.ns = peer.ns)
    (owner : ∀ p peer b, t.state.peers.get p = some peer → peer.backendId = some b →
      ∃ lease, t.state.leases.get b = some lease ∧ lease.peerSessionId = p)
    (recoveryTokens : t.recoveryTokens = s.recoveryTokens.set peer.recoveryToken peer.peerSessionId)
    (channelId : ∀ id ch, t.channels.get id = some ch → ch.channelId = id)
    (channels : ∀ id ch, t.channels.get id = some ch → ∃ lease, t.state.leases.get ch.backendId = some lease ∧
      lease.epoch = ch.epoch ∧ lease.peerSessionId = ch.backendPeerSessionId) : t.Ownership := by
  refine ⟨fun q peer' hq => ?_, keys, lease, owner, fun token q => ?_, channelId, channels⟩
  · rw [peers] at hq
    split at hq
    · rename_i he
      rw [← Option.some.inj hq, he]
    · obtain ⟨peer0, hq0, rfl⟩ := Option.map_eq_some_iff.mp hq
      rw [← h.key q peer0 hq0]
      split <;> rfl
  · rw [recoveryTokens, InsertionMap.get_set, peers]
    by_cases ht : token = peer.recoveryToken
    · rw [if_pos ht]
      constructor
      · intro he
        rw [Option.some.injEq] at he
        exact ⟨peer, by rw [if_pos he.symm], ht.symm⟩
      · rintro ⟨peer', hq, rfl⟩
        split at hq
        · rename_i he
          rw [he]
        · obtain ⟨peer0, hq0, rfl⟩ := Option.map_eq_some_iff.mp hq
          refine absurd ?_ (htoken q peer0 hq0)
          rw [← ht]
          split <;> rfl
    · rw [if_neg ht, h.tokens]
      constructor
      · rintro ⟨peer0, hq0, rfl⟩
        rw [if_neg, hq0]
        · refine ⟨_, rfl, ?_⟩
          split <;> rfl
        · rintro rfl
          rw [hnew] at hq0
          cases hq0
      · rintro ⟨peer', hq, rfl⟩
        split at hq
        · exact absurd (congrArg PeerSession.recoveryToken (Option.some.inj hq).symm) ht
        · obtain ⟨peer0, hq0, rfl⟩ := Option.map_eq_some_iff.mp hq
          refine ⟨peer0, hq0, ?_⟩
          split <;> rfl

/-- A session without a backend. -/
theorem Ownership.addClient {s : Gateway} (h : s.Ownership) {peer : PeerSession} (grant : Option BackendGrant)
    (hnew : s.state.peers.get peer.peerSessionId = none)
    (htoken : ∀ p peer', s.state.peers.get p = some peer' → peer'.recoveryToken ≠ peer.recoveryToken)
    (hb : peer.backendId = none) : (s.addSession peer grant).Ownership := by
  obtain ⟨⟨hstate, htokens⟩, -, hchannels, hstorage, -⟩ := addSession_tables peer grant s
  have hpeers (q : String) : (s.addSession peer grant).state.peers.get q =
      if q = peer.peerSessionId then some peer else s.state.peers.get q := by
    rw [hstate]
    exact InsertionMap.get_set _ _ _ _
  have hleases : (s.addSession peer grant).state.leases = s.state.leases := by rw [hstate]; rfl
  have hregistry : (s.addSession peer grant).state.registry = s.state.registry := by rw [hstate]; rfl
  have hold (q : String) (peer' : PeerSession) (hq : s.state.peers.get q = some peer') : q ≠ peer.peerSessionId := by
    rintro rfl
    rw [hnew] at hq
    cases hq
  refine h.addSession hnew htoken (fun _ => False) (fun q => ?_) (fun b => ?_) (fun b lease hl => ?_)
    (fun p peer' b hp hb' => ?_) htokens (hchannels ▸ h.channelId) (by rw [hchannels, hleases]; exact h.channels)
  · rw [hpeers]
    simp
  · rw [hregistry, hleases]
    exact h.keys b
  · rw [hleases] at hl
    obtain ⟨hid, hepoch, peer', item, hp', hrest⟩ := h.lease b lease hl
    rw [hregistry, hstorage, hpeers, if_neg (hold _ peer' hp')]
    exact ⟨hid, hepoch, peer', item, hp', hrest⟩
  · rw [hleases]
    rw [hpeers] at hp
    split at hp
    · rw [← Option.some.inj hp, hb] at hb'
      cases hb'
    · exact h.owner p peer' b hp hb'

/-- A new session holds no lease yet. -/
theorem Ownership.no_lease {s : Gateway} (h : s.Ownership) {p : String} (hnew : s.state.peers.get p = none) {b : String}
    {lease : BackendLease} (hl : s.state.leases.get b = some lease) : lease.peerSessionId ≠ p := by
  rintro rfl
  obtain ⟨-, -, peer, -, hp, -⟩ := h.lease b lease hl
  rw [hnew] at hp
  cases hp

/-- A session that registers a backend under a new epoch, in place of the owner there was. -/
theorem Ownership.addBackend {s u : Gateway} (h : s.Ownership) {backendId : String} {epoch : Nat} {peer : PeerSession}
    (hr : Registered Γ s u backendId epoch peer) (grant : Option BackendGrant)
    (hnew : s.state.peers.get peer.peerSessionId = none)
    (htoken : ∀ p peer', s.state.peers.get p = some peer' → peer'.recoveryToken ≠ peer.recoveryToken)
    (hb : peer.backendId = some backendId) (he : peer.epoch = some epoch) (hmax : epoch ≤ s.storage.maxEpoch) :
    (u.addSession peer grant).Ownership := by
  have hfree (b : String) (lease : BackendLease) (hl : s.state.leases.get b = some lease) := h.no_lease hnew hl
  obtain ⟨item, ⟨hie, -⟩, hns, hregistry⟩ := hr.registry
  obtain ⟨⟨hstate, htokens⟩, -, hchannels, hstorage, -⟩ := addSession_tables peer grant u
  have hleases' : (u.addSession peer grant).state.leases = u.state.leases := by rw [hstate]; rfl
  have hregistry' : (u.addSession peer grant).state.registry = u.state.registry := by rw [hstate]; rfl
  have hpeers (q : String) : (u.addSession peer grant).state.peers.get q =
      if q = peer.peerSessionId then some peer
      else (s.state.peers.get q).map (fun peer' =>
        if (s.state.leases.get backendId).any (fun lease => lease.peerSessionId = q) then disown peer' else peer') := by
    rw [hstate, ← hr.peers]
    exact InsertionMap.get_set _ _ _ _
  -- The owner of another backend keeps its session as it is.
  have hkeep (b : String) (lease : BackendLease) (hne : b ≠ backendId) (hl : s.state.leases.get b = some lease) :
      (u.addSession peer grant).state.peers.get lease.peerSessionId = s.state.peers.get lease.peerSessionId := by
    rw [hpeers, if_neg (hfree b lease hl)]
    have hno : ¬ (s.state.leases.get backendId).any (fun l => l.peerSessionId = lease.peerSessionId) = true := by
      intro hany
      rcases hl' : s.state.leases.get backendId with _ | lease'
      · rw [hl'] at hany
        cases hany
      · rw [hl'] at hany
        exact hne (h.one_lease hl hl' (by simpa using Eq.symm (by simpa using hany)))
    simp [hno]
  refine h.addSession hnew htoken (fun q => (s.state.leases.get backendId).any (fun lease => lease.peerSessionId = q))
    hpeers (fun b => ?_) (fun b lease hl => ?_) (fun p peer' b hp hb' => ?_) (htokens.trans (by rw [hr.recoveryTokens]))
    (fun id ch hc => ?_) (fun id ch hc => ?_)
  · have hk := h.keys b
    simp only [InsertionMap.has, hregistry', hleases', hregistry, hr.leases] at hk ⊢
    split
    · rfl
    · exact hk
  · rw [hleases', hr.leases] at hl
    rw [hregistry', hregistry, hstorage, hr.maxEpoch]
    split at hl
    · rename_i hbb
      subst hbb
      obtain rfl := Option.some.inj hl
      exact ⟨rfl, hmax, peer, item, (hpeers _).trans (if_pos rfl), hb, he, by rw [if_pos rfl], hie, hns⟩
    · rename_i hbb
      obtain ⟨hid, hepoch, peer', item', hp', hrest⟩ := h.lease b lease hl
      rw [if_neg hbb, hkeep b lease hbb hl]
      exact ⟨hid, hepoch, peer', item', hp', hrest⟩
  · rw [hleases', hr.leases]
    rw [hpeers] at hp
    split at hp
    · rename_i hpp
      obtain rfl := Option.some.inj hp
      rw [hb, Option.some.injEq] at hb'
      subst hb'
      exact ⟨_, if_pos rfl, hpp.symm⟩
    · obtain ⟨peer0, hp0, rfl⟩ := Option.map_eq_some_iff.mp hp
      split at hb'
      · cases hb'
      · rename_i hlost
        obtain ⟨lease, hl, howner⟩ := h.owner p peer0 b hp0 hb'
        refine ⟨lease, ?_, howner⟩
        rw [if_neg, hl]
        rintro rfl
        exact hlost (by simp [hl, howner])
  · rw [hchannels, hr.channels, Option.filter_eq_some_iff] at hc
    exact h.channelId id ch hc.1
  · rw [hchannels, hr.channels, Option.filter_eq_some_iff] at hc
    obtain ⟨lease, hl, hepoch, howner⟩ := h.channels id ch hc.1
    rw [hleases', hr.leases]
    refine ⟨lease, ?_, hepoch, howner⟩
    rw [if_neg, hl]
    intro hbb
    have hgone := hc.2
    rw [← hbb, hl] at hgone
    simp at hgone

/-- A session opens for a client, or registers the backend its hello resolves to under the next epoch. -/
theorem openSession_cases {s : Gateway} (h : s.Ownership) (fresh : s.FreshSessions Γ) (ws : SocketId)
    (credential : CredentialRecord) (hello : PeerHello) :
    isBackendHello hello = false ∧ s.openSession Γ ws credential hello =
        s.addSession (newPeer (Γ.sessionIds.draw s.drawn) (Γ.recoveryTokens.draw s.drawn) ws credential hello) none ∨
      isBackendHello hello = true ∧ ∃ u storage b grant,
        b = (resolveBackendIdentity (Γ.backendIds.draw s.drawn) s.now credential hello s.storage).1 ∧
        storage.maxEpoch = s.storage.maxEpoch + 1 ∧
        Registered Γ { s with storage } u b (s.storage.maxEpoch + 1)
          { newPeer (Γ.sessionIds.draw s.drawn) (Γ.recoveryTokens.draw s.drawn) ws credential hello with
            backendId := some b, epoch := some (s.storage.maxEpoch + 1) } ∧
        s.openSession Γ ws credential hello = u.addSession
          { newPeer (Γ.sessionIds.draw s.drawn) (Γ.recoveryTokens.draw s.drawn) ws credential hello with
            backendId := some b, epoch := some (s.storage.maxEpoch + 1) } grant := by
  unfold Gateway.openSession
  split
  · rename_i backend hpt hbk
    have hepoch := resolveBackendIdentity_maxEpoch (Γ.backendIds.draw s.drawn) s.now credential hello s.storage
    dsimp only
    rcases hres : resolveBackendIdentity (Γ.backendIds.draw s.drawn) s.now credential hello s.storage with ⟨b, st⟩
    rw [hres] at hepoch
    dsimp only at hepoch
    rw [← hepoch]
    refine Or.inr ⟨by simp [isBackendHello, hpt, hbk], _, st.allocateEpoch.2, b, _, rfl, rfl, ?_, rfl⟩
    refine registerBackend_registered (s := { s with storage := st.allocateEpoch.2 }) h.channelId credential hello
      backend _ fun lease hl => ?_
    exact h.no_lease fresh.session hl
  · rename_i hno
    refine Or.inl ⟨?_, rfl⟩
    rw [isBackendHello, Bool.and_eq_false_iff]
    by_cases hpt : hello.peerType = .clientAndBackend
    · right
      rcases hbk : hello.backend with _ | backend
      · rfl
      · exact absurd hbk (hno backend hpt)
    · left
      simpa using hpt

theorem Ownership.openSession {s : Gateway} (h : s.Ownership) (fresh : s.FreshSessions Γ) (ws : SocketId)
    (credential : CredentialRecord) (hello : PeerHello) : (s.openSession Γ ws credential hello).Ownership := by
  have htoken (p : String) (peer : PeerSession) (hp : s.state.peers.get p = some peer) := fresh.token hp
  rcases openSession_cases h fresh ws credential hello with ⟨-, he⟩ | ⟨-, u, storage, b, grant, -, hmax, hr, he⟩
  · rw [he]
    exact h.addClient none fresh.session htoken rfl
  · rw [he]
    have h' : ({ s with storage } : Gateway).Ownership :=
      h.of_turns (.refl _) rfl (.refl _) (by dsimp only; omega)
    exact h'.addBackend hr grant fresh.session htoken rfl rfl hmax.ge

variable {act : Option Request}

theorem ControlStep.ownership {s t : Gateway} (hstep : ControlStep Γ act s t) (h : s.Ownership) : t.Ownership := by
  cases hstep with
  | turn ht => exact h.turns ht
  | deliver hd =>
    obtain ⟨f, rfl⟩ := hd.onNet
    exact h.of_turns (.refl _) rfl (.refl _) le_rfl
  | @topic _ peer message hp hact ht =>
    have honly := routeMessage_topic (Γ := Γ) peer ht s
    exact h.only honly.state honly.recoveryTokens honly.channels honly.storage
  | openChannel hp hact hl hb hi hreach hroom =>
    rename_i lease _ _
    refine h.newChannel lease ?_ ?_ ?_ ?_ rfl rfl rfl rfl
    · exact hl
    · rfl
    · rfl
    · rfl
  | proxyViaChannel hl hb =>
    unfold Gateway.proxyViaChannel
    split
    · exact h.only rfl rfl rfl rfl
    · rename_i lease _
      refine h.newChannel lease ?_ ?_ ?_ ?_ rfl rfl rfl rfl
      · exact hl
      · rfl
      · exact (h.key _ _ hb).symm
      · rfl
  | disconnect p => exact h.disconnect p

/-! ## Runs -/

/-- A session that is added is the one the event at hand draws. -/
theorem openSession_peers {s : Gateway} (h : s.Ownership) (fresh : s.FreshSessions Γ) (ws : SocketId)
    (credential : CredentialRecord) (hello : PeerHello) {p : String} {peer : PeerSession}
    (hp : (s.openSession Γ ws credential hello).state.peers.get p = some peer) :
    (p = Γ.sessionIds.draw s.drawn ∧ peer.recoveryToken = Γ.recoveryTokens.draw s.drawn ∧ peer.ws = ws) ∨
      ∃ peer0, s.state.peers.get p = some peer0 ∧ peer.recoveryToken = peer0.recoveryToken ∧ peer.ws = peer0.ws := by
  rcases openSession_cases h fresh ws credential hello with ⟨-, he⟩ | ⟨-, u, storage, b, grant, -, -, hr, he⟩
  · rw [he, (addSession_tables _ _ _).1.1] at hp
    rcases InsertionMap.get_set_eq_some.mp hp with ⟨rfl, rfl⟩ | ⟨-, hp⟩
    · exact Or.inl ⟨rfl, rfl, rfl⟩
    · exact Or.inr ⟨peer, hp, rfl, rfl⟩
  · rw [he, (addSession_tables _ _ _).1.1] at hp
    rcases InsertionMap.get_set_eq_some.mp hp with ⟨rfl, rfl⟩ | ⟨-, hp⟩
    · exact Or.inl ⟨rfl, rfl, rfl⟩
    · rw [hr.peers] at hp
      obtain ⟨peer0, hp0, rfl⟩ := Option.map_eq_some_iff.mp hp
      refine Or.inr ⟨peer0, hp0, ?_⟩
      split <;> exact ⟨rfl, rfl⟩

theorem openSession_drawn {s : Gateway} (h : s.Ownership) (fresh : s.FreshSessions Γ) (ws : SocketId)
    (credential : CredentialRecord) (hello : PeerHello) : (s.openSession Γ ws credential hello).drawn = s.drawn := by
  rcases openSession_cases h fresh ws credential hello with ⟨-, he⟩ | ⟨-, u, storage, b, grant, -, -, hr, he⟩
  · rw [he, (addSession_tables _ _ _).2.2.2.2]
  · rw [he, (addSession_tables _ _ _).2.2.2.2, hr.drawn]

theorem openSession_sessions {s : Gateway} {n : Nat} (h : s.Ownership) (fresh : s.FreshSessions Γ) (hn : s.drawn < n)
    (hs : s.SessionsUpTo Γ n) (ws : SocketId) (credential : CredentialRecord) (hello : PeerHello) :
    (s.openSession Γ ws credential hello).SessionsUpTo Γ n := by
  intro p peer hp
  rcases openSession_peers h fresh ws credential hello hp with ⟨rfl, ht, -⟩ | ⟨peer0, hp0, ht, -⟩
  · exact ⟨s.drawn, hn, rfl, ht⟩
  · rw [ht]
    exact hs p peer0 hp0

/-- An operation opens no session. -/
theorem ControlStep.sessions {s t : Gateway} {n : Nat} (hstep : ControlStep Γ act s t) (h : s.Ownership)
    (hs : s.SessionsUpTo Γ n) : t.SessionsUpTo Γ n ∧ t.drawn = s.drawn := by
  cases hstep with
  | turn ht => exact ⟨hs.turns ht, ht.drawn⟩
  | deliver hd =>
    obtain ⟨f, rfl⟩ := hd.onNet
    exact ⟨hs, rfl⟩
  | @topic _ peer message hp hact ht =>
    have honly := routeMessage_topic (Γ := Γ) peer ht s
    refine ⟨?_, honly.drawn⟩
    unfold SessionsUpTo
    rw [honly.state]
    exact hs
  | openChannel hp hact hl hb hi hreach hroom => exact ⟨hs, rfl⟩
  | proxyViaChannel hl hb =>
    unfold Gateway.proxyViaChannel
    split
    · exact ⟨hs, rfl⟩
    · exact ⟨hs, rfl⟩
  | disconnect p =>
    rcases hp : s.state.peers.get p with _ | peer
    · unfold handlePeerDisconnect
      rw [hp]
      exact ⟨hs, rfl⟩
    · have hd := handlePeerDisconnect_disconnected h.channelId hp
      refine ⟨fun q peer' hq => ?_, hd.drawn⟩
      rw [hd.peers] at hq
      exact hs q peer' (InsertionMap.get_delete_eq_some.mp hq).2

/-- Who owns what, with sessions drawn before the `n`-th event. -/
def OwnedUpTo (Γ : Ctx) (n : Nat) (s : Gateway) : Prop := s.Ownership ∧ s.SessionsUpTo Γ n

abbrev Owned (Γ : Ctx) (s : Gateway) : Prop := s.OwnedUpTo Γ s.drawn

theorem ControlSteps.owned {s t : Gateway} {n : Nat} (h : ControlSteps Γ act s t) (hs : s.OwnedUpTo Γ n) :
    t.OwnedUpTo Γ n ∧ t.drawn = s.drawn := by
  induction h with
  | refl => exact ⟨hs, rfl⟩
  | tail _ hstep ih =>
    obtain ⟨⟨hown, hsessions⟩, hdrawn⟩ := ih
    obtain ⟨hsessions', hdrawn'⟩ := hstep.sessions hown hsessions
    exact ⟨⟨hstep.ownership hown, hsessions'⟩, hdrawn'.trans hdrawn⟩

theorem checkLease_owned {s : Gateway} {n : Nat} (hs : s.OwnedUpTo Γ n) (backendId : String) :
    (s.checkLease backendId).OwnedUpTo Γ n ∧ (s.checkLease backendId).drawn = s.drawn := by
  unfold checkLease
  split
  · exact ⟨hs, rfl⟩
  · rename_i lease hl
    split
    · have hx := handleBackendLeaseExpired_expired hs.1.channelId hs.1.key hl
      refine ⟨⟨hs.1.expire backendId, fun p peer hp => ?_⟩, hx.drawn⟩
      rw [hx.peers] at hp
      split at hp
      · cases hp
      · exact hs.2 p peer hp
    · exact ⟨hs, rfl⟩

theorem leaseChecks_owned (backendIds : List String) {s : Gateway} {n : Nat} (hs : s.OwnedUpTo Γ n) :
    (backendIds.foldl checkLease s).OwnedUpTo Γ n ∧ (backendIds.foldl checkLease s).drawn = s.drawn := by
  induction backendIds generalizing s with
  | nil => exact ⟨hs, rfl⟩
  | cons b backendIds ih =>
    obtain ⟨hs', hdrawn⟩ := checkLease_owned hs b
    obtain ⟨hs'', hdrawn'⟩ := ih hs'
    exact ⟨hs'', hdrawn'.trans hdrawn⟩

theorem greet_owned {s : Gateway} (hs : s.Owned Γ) (ws : SocketId) (conn : ControlConn) (hello : PeerHello) :
    (s.greet Γ ws conn hello).OwnedUpTo Γ (s.drawn + 1) ∧ (s.greet Γ ws conn hello).drawn = s.drawn := by
  have hs' : s.SessionsUpTo Γ (s.drawn + 1) := fun p peer hp => by
    obtain ⟨m, hm, he⟩ := hs.2 p peer hp
    exact ⟨m, Nat.lt_succ_of_lt hm, he⟩
  rcases greet_control (Γ := Γ) ws conn hello s with ⟨-, ht, -⟩ | ⟨u, credential, -, ht, he, -⟩
  · exact ⟨⟨hs.1.turns ht, hs'.turns ht⟩, ht.drawn⟩
  · have hown := hs.1.turns ht
    have hfresh : u.FreshSessions Γ := FreshSessions.turns hs.2 ht
    rw [he]
    refine ⟨⟨(hown.openSession hfresh ws credential hello).only rfl rfl rfl rfl, ?_⟩, ?_⟩
    · exact openSession_sessions hown hfresh (ht.drawn ▸ Nat.lt_succ_self _) (hs'.turns ht) ws credential hello
    · exact (openSession_drawn hown hfresh ws credential hello).trans ht.drawn

/-- An event opens sessions under identifiers drawn before the next event, and keeps who owns what. -/
theorem handle_owned (e : Event) {s : Gateway} (hs : s.Owned Γ) :
    (s.handle Γ e).OwnedUpTo Γ (s.drawn + 1) ∧ (s.handle Γ e).drawn = s.drawn := by
  have hs' : s.OwnedUpTo Γ (s.drawn + 1) := by
    refine ⟨hs.1, fun p peer hp => ?_⟩
    obtain ⟨m, hm, he⟩ := hs.2 p peer hp
    exact ⟨m, Nat.lt_succ_of_lt hm, he⟩
  rcases hh : s.helloOf Γ e with _ | ⟨ws, conn, hello⟩
  · by_cases he : e = .leaseCheckInterval
    · subst he
      exact leaseChecks_owned _ hs'
    · exact (handle_control he hh).owned hs'
  · rw [handle_hello hh]
    exact greet_owned hs ws conn hello

end Gateway

/-- After every run leases, registry, sessions, recovery tokens and channels agree. -/
theorem owned_run {Γ : Ctx} {storage : Storage} (es : List Event) : ((gateway Γ storage).run es).Owned Γ := by
  refine (gateway Γ storage).invariant (I := fun s => s.Owned Γ) ?_ (fun s e h => ?_) es
  · exact ⟨.init storage, fun _ _ hp => (nomatch hp)⟩
  · have hquiet : s.quiet.Owned Γ := ⟨h.1.only rfl rfl rfl rfl, h.2⟩
    change (Gateway.step Γ s e).Owned Γ
    unfold Gateway.step
    split
    · exact hquiet
    · obtain ⟨hown, hdrawn⟩ := Gateway.handle_owned e hquiet
      refine ⟨hown.1.of_turns (.refl _) rfl (.refl _) le_rfl, ?_⟩
      dsimp only
      rw [hdrawn]
      exact hown.2

/-- What a history and the state keep over a run, from what one event of a running gateway keeps; the event may also use what
holds of every run's store (`J`). -/
theorem history_run {Γ : Ctx} {storage : Storage} {α : Type} {obs : Gateway → Event → List α}
    {I : Nat → List α → Gateway → Prop} {J : Storage → Prop} (hJ : ∀ es, J ((gateway Γ storage).run es).storage)
    (h0 : I 0 [] (Gateway.init storage))
    (hnet : ∀ n h s f drawn, I n h s → I n h { (s.onNet f) with drawn })
    (hstopped : ∀ s e, s.uncaught.isSome = true → obs s e = []) (hobs : ∀ s e, obs s.quiet e = obs s e)
    (hstep : ∀ h s e, s.Owned Γ → J s.storage → s.uncaught = none → I s.drawn h s →
      I (s.drawn + 1) (h ++ obs s e) (s.handle Γ e))
    (es : List Event) :
    I ((gateway Γ storage).run es).drawn ((gateway Γ storage).history obs es) ((gateway Γ storage).run es) := by
  induction es using List.reverseRecOn with
  | nil => exact h0
  | append_singleton es e ih =>
    have howned := @owned_run Γ storage es
    have hstored := hJ es
    rw [EventMachine.run_snoc, EventMachine.history_snoc]
    generalize (gateway Γ storage).run es = s at ih howned hstored
    have hquieted : s.quiet.Owned Γ := ⟨howned.1.only rfl rfl rfl rfl, howned.2⟩
    have hquiet : I s.drawn ((gateway Γ storage).history obs es) s.quiet := hnet _ _ s (fun net => { net with outbox := [] }) s.drawn ih
    rcases hrun : s.uncaught with _ | error
    · have hdrawn := (Gateway.handle_owned e hquieted).2
      have hhandled := hstep _ _ e hquieted hstored hrun hquiet
      change I (s.step Γ e).drawn _ (s.step Γ e)
      rw [step_running hrun, ← hobs]
      dsimp only
      rw [hdrawn]
      exact hnet _ _ _ id _ hhandled
    · change I (s.step Γ e).drawn _ (s.step Γ e)
      rw [step_stopped hrun, hstopped s e (by simp [hrun]), List.append_nil]
      exact hquiet

end ZclaudiaGateway
