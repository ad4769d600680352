import ZclaudiaGateway.Lemmas.Scopes
import ZclaudiaGateway.Lemmas.Topics

/-!
# What sessions reach

A session keeps the namespace and the scope of the credential that admitted it, and every subscription of a session that is
there is to a backend within its reach, as that backend is registered now.
-/

namespace ZclaudiaGateway

/-- The backends a credential may reach: `none` is its whole namespace. -/
def CredentialRecord.scope (credential : CredentialRecord) : Option (List String) :=
  if credential.type = .device then credential.allowedBackends else none

/-- The session has the namespace and the scope of the credential. -/
structure PeerSession.AdmittedBy (peer : PeerSession) (credential : CredentialRecord) : Prop where
  credentialId : peer.credentialId = credential.id
  ns : peer.ns = credential.ns
  scope : peer.allowedBackends = credential.scope

theorem PeerSession.Kin.admittedBy {peer peer' : PeerSession} (h : peer.Kin peer') {credential : CredentialRecord}
    (ha : peer.AdmittedBy credential) : peer'.AdmittedBy credential := by
  obtain ⟨isAlive, backendId, epoch, rfl⟩ := h
  exact ⟨ha.credentialId, ha.ns, ha.scope⟩

theorem PeerSession.Kin.canReach {peer peer' : PeerSession} (h : peer.Kin peer') (ns backendId : String) :
    peer'.canReach ns backendId = peer.canReach ns backendId := by
  obtain ⟨isAlive, b, epoch, rfl⟩ := h
  rfl

namespace Gateway

variable {Γ : Ctx}

/-- The session that an event opens, with the credential that admits it. -/
def admissions (Γ : Ctx) (s : Gateway) (e : Event) : List (String × CredentialRecord) :=
  if s.uncaught.isSome then []
  else
    match s.helloOf Γ e with
    | none => []
    | some (_, _, hello) =>
      ((s.admittedAs Γ hello).map (fun credential => (Γ.sessionIds.draw s.drawn, credential))).toList

/-- The backend is registered where the session reaches it. -/
def Sees (s : Gateway) (peer : PeerSession) (backendId : String) : Prop :=
  ∃ item, s.state.registry.get backendId = some item ∧ peer.canReach item.ns backendId = true

/-- What was seen later was seen before: sessions and registered backends only go. -/
theorem ControlKeeps.sees {s t : Gateway} (h : s.ControlKeeps t) {peer0 peer : PeerSession} (hk : peer0.Kin peer)
    {b : String} (hs : t.Sees peer b) : s.Sees peer0 b := by
  obtain ⟨item, hi, hreach⟩ := hs
  obtain ⟨item0, hi0, lastSeenAt, rfl⟩ := h.registry b item hi
  exact ⟨item0, hi0, (hk.canReach item0.ns b).symm.trans hreach⟩

/-- Sessions are what their credentials admitted, and subscribers reach the backends they subscribed to. -/
structure WithinReach (Γ : Ctx) (n : Nat) (h : List (String × CredentialRecord)) (s : Gateway) : Prop where
  presence : ∀ b item, s.state.registry.get b = some item → item.backendId = b
  admitted : ∀ p peer, s.state.peers.get p = some peer →
    PlainScope peer.allowedBackends ∧ ∃ credential, (p, credential) ∈ h ∧ peer.AdmittedBy credential
  gone : ∀ b, s.state.leases.has b = false → s.NoTopics b
  drawn : ∀ b topic p, s.subscribed b topic p = true → ∃ m < n, p = Γ.sessionIds.draw m
  subscribers : ∀ b topic p peer, s.subscribed b topic p = true → s.state.peers.get p = some peer → s.Sees peer b

variable {n : Nat} {h : List (String × CredentialRecord)} {s t : Gateway}

theorem WithinReach.mono (hs : s.WithinReach Γ n h) {m : Nat} (hm : n ≤ m) : s.WithinReach Γ m h := by
  refine ⟨hs.presence, hs.admitted, hs.gone, fun b topic p hp => ?_, hs.subscribers⟩
  obtain ⟨i, hi, he⟩ := hs.drawn b topic p hp
  exact ⟨i, lt_of_lt_of_le hi hm, he⟩

/-- Sessions and backends go, with their topics. -/
theorem WithinReach.lose (hs : s.WithinReach Γ n h) (hown : t.Ownership) (ht : s.TopicsLose t) (hk : s.ControlKeeps t) :
    t.WithinReach Γ n h := by
  refine ⟨fun b item hi => ?_, fun p peer hp => ?_, fun b hb => ht.gone b hb (hs.gone b),
    fun b topic p hp => hs.drawn b topic p (ht.fewer b topic p hp), fun b topic p peer hsub hp => ?_⟩
  · obtain ⟨item0, hi0, lastSeenAt, rfl⟩ := hk.registry b item hi
    exact hs.presence b item0 hi0
  · obtain ⟨peer0, hp0, hkin⟩ := hk.peers p peer hp
    obtain ⟨hplain, credential, hmem, hadmitted⟩ := hs.admitted p peer0 hp0
    refine ⟨?_, credential, hmem, hkin.admittedBy hadmitted⟩
    obtain ⟨isAlive, backendId, epoch, rfl⟩ := hkin
    exact hplain
  · obtain ⟨peer0, hp0, hkin⟩ := hk.peers p peer hp
    obtain ⟨item0, hi0, hreach⟩ := hs.subscribers b topic p peer0 (ht.fewer b topic p hsub) hp0
    -- A backend with a subscriber is still registered.
    have hleased : t.state.leases.has b = true := by
      by_contra hno
      rw [Bool.not_eq_true] at hno
      rw [(ht.gone b hno (hs.gone b)).subscribed] at hsub
      cases hsub
    rw [← hown.keys] at hleased
    obtain ⟨item, hi⟩ := InsertionMap.has_iff.mp hleased
    obtain ⟨item1, hi1, lastSeenAt, rfl⟩ := hk.registry b item hi
    rw [hi0, Option.some.injEq] at hi1
    subst hi1
    exact ⟨_, hi, (hkin.canReach item0.ns b).trans hreach⟩

/-- A subscription that is accepted is within reach. -/
theorem acceptsSubscribe_sees (hs : s.WithinReach Γ n h) {peer : PeerSession} {b : String}
    (ha : s.acceptsSubscribe peer b = true) : s.Sees peer b := by
  simp only [acceptsSubscribe, Bool.and_eq_true, Option.any_eq_true] at ha
  obtain ⟨-, item, hi, hreach⟩ := ha
  rw [hs.presence b item hi] at hreach
  exact ⟨item, hi, hreach⟩

theorem WithinReach.topic (hs : s.WithinReach Γ n h) (ho : s.Ownership) {p : String} {peer : PeerSession}
    (hp : s.state.peers.get p = some peer) (hq : ∃ m < n, p = Γ.sessionIds.draw m) {message : GatewayMessage}
    (ht : message.isTopic = true) : (s.routeMessage Γ peer message).WithinReach Γ n h := by
  have honly := routeMessage_topic (Γ := Γ) peer ht s
  have hkey : peer.peerSessionId = p := ho.key p peer hp
  -- A subscriber was one before, or is the peer and its subscription was accepted.
  have hstep (b topic q : String) (hsub : (s.routeMessage Γ peer message).subscribed b topic q = true) :
      s.subscribed b topic q = true ∨ q = p ∧ s.Sees peer b := by
    rcases routeMessage_subscribed ht hsub with hsub | ⟨hq, ha⟩
    · exact Or.inl hsub
    · exact Or.inr ⟨hq.trans hkey, acceptsSubscribe_sees hs ha⟩
  refine ⟨honly.state ▸ hs.presence, honly.state ▸ hs.admitted, fun b hb => ?_, fun b topic q hsub => ?_,
    fun b topic q peer' hsub hq' => ?_⟩
  · rw [honly.state] at hb
    exact routeMessage_noTopics ho peer _ ht hb (hs.gone b hb)
  · rcases hstep b topic q hsub with hsub | ⟨rfl, -⟩
    · exact hs.drawn b topic q hsub
    · exact hq
  · rw [honly.state] at hq'
    have hsees : s.Sees peer' b := by
      rcases hstep b topic q hsub with hsub | ⟨rfl, hsees⟩
      · exact hs.subscribers b topic q peer' hsub hq'
      · rw [hp, Option.some.injEq] at hq'
        exact hq' ▸ hsees
    rw [Sees, honly.state]
    exact hsees

/-! ## Operations and events -/

variable {act : Option Request}

/-- Sessions' identifiers are drawn, so subscribers' are. -/
theorem ControlStep.reach (hstep : ControlStep Γ act s t) (ho : s.Ownership) (hsessions : s.SessionsUpTo Γ n)
    (hs : s.WithinReach Γ n h) : t.WithinReach Γ n h := by
  have hkeeps := hstep.keeps ho
  have hown := hstep.ownership ho
  cases hstep with
  | turn ht => exact hs.lose hown ht.topics hkeeps
  | deliver hd =>
    obtain ⟨f, rfl⟩ := hd.onNet
    exact hs.lose hown (.same rfl rfl (fun _ => rfl) (fun _ => rfl)) hkeeps
  | topic hp hact ht =>
    obtain ⟨m, hm, he, -⟩ := hsessions _ _ hp
    exact hs.topic ho hp ⟨m, hm, he⟩ ht
  | openChannel hp hact hl hb hi hreach hroom => exact hs.lose hown (.same rfl rfl (fun _ => rfl) (fun _ => rfl)) hkeeps
  | proxyViaChannel hl hb =>
    refine hs.lose hown ?_ hkeeps
    unfold Gateway.proxyViaChannel
    split
    · exact .same rfl rfl (fun _ => rfl) (fun _ => rfl)
    · exact .same rfl rfl (fun _ => rfl) (fun _ => rfl)
  | disconnect p => exact hs.lose hown (handlePeerDisconnect_topics ho p) hkeeps

/-- The sessions and the registry once a session is open. -/
theorem openSession_entries (ho : s.Owned Γ) (ws : SocketId) (credential : CredentialRecord) (hello : PeerHello) :
    (∀ p peer, (s.openSession Γ ws credential hello).state.peers.get p = some peer →
      p = Γ.sessionIds.draw s.drawn ∧
          (newPeer (Γ.sessionIds.draw s.drawn) (Γ.recoveryTokens.draw s.drawn) ws credential hello).Kin peer ∨
        ∃ peer0, s.state.peers.get p = some peer0 ∧ peer0.Kin peer) ∧
      ∀ b, (some b ≠ s.begunBackend Γ credential hello ∧
            (s.openSession Γ ws credential hello).state.registry.get b = s.state.registry.get b) ∨
          some b = s.begunBackend Γ credential hello ∧
            ∃ item, (s.openSession Γ ws credential hello).state.registry.get b = some item ∧ item.backendId = b := by
  unfold begunBackend
  rcases openSession_cases ho.1 ho.2 ws credential hello with ⟨hno, he⟩ | ⟨hyes, u, storage, b', grant, hb', -, hr, he⟩
  · obtain ⟨⟨hstate, -⟩, -⟩ := addSession_tables
      (newPeer (Γ.sessionIds.draw s.drawn) (Γ.recoveryTokens.draw s.drawn) ws credential hello) none s
    rw [he, hno, hstate]
    refine ⟨fun p peer hp => ?_, fun b => Or.inl ⟨by simp, rfl⟩⟩
    rcases InsertionMap.get_set_eq_some.mp hp with ⟨rfl, rfl⟩ | ⟨-, hp⟩
    · exact Or.inl ⟨rfl, .refl _⟩
    · exact Or.inr ⟨peer, hp, .refl peer⟩
  · obtain ⟨⟨hstate, -⟩, -⟩ := addSession_tables
      { newPeer (Γ.sessionIds.draw s.drawn) (Γ.recoveryTokens.draw s.drawn) ws credential hello with
        backendId := some b', epoch := some (s.storage.maxEpoch + 1) } grant u
    obtain ⟨item, ⟨-, hid⟩, -, hregistry⟩ := hr.registry
    rw [he, hyes, hstate, if_pos rfl, ← hb']
    refine ⟨fun p peer hp => ?_, fun b => ?_⟩
    · rcases InsertionMap.get_set_eq_some.mp hp with ⟨rfl, rfl⟩ | ⟨-, hp⟩
      · exact Or.inl ⟨rfl, _, _, _, rfl⟩
      · rw [hr.peers] at hp
        obtain ⟨peer0, hp0, rfl⟩ := Option.map_eq_some_iff.mp hp
        refine Or.inr ⟨peer0, hp0, ?_⟩
        split
        · exact ⟨peer0.isAlive, none, none, rfl⟩
        · exact .refl peer0
    · change (_ ∧ u.state.registry.get b = _) ∨ _ ∧ ∃ item, u.state.registry.get b = some item ∧ _
      rw [hregistry]
      by_cases hb : b = b'
      · rw [if_pos hb]
        exact Or.inr ⟨congrArg some hb, item, rfl, hid.trans hb.symm⟩
      · rw [if_neg hb]
        exact Or.inl ⟨fun he => hb (Option.some.inj he), rfl⟩

/-- A session opens for a credential whose scope is plain. -/
theorem WithinReach.openSession (hs : s.WithinReach Γ s.drawn h) (ho : s.Owned Γ) (ws : SocketId)
    {credential : CredentialRecord} {hello : PeerHello} (hplain : PlainScope credential.allowedBackends)
    (hadm : refuseHello Γ credential hello = none) :
    (s.openSession Γ ws credential hello).WithinReach Γ (s.drawn + 1)
      (h ++ [(Γ.sessionIds.draw s.drawn, credential)]) := by
  have hns : hello.ns = credential.ns := by
    unfold refuseHello at hadm
    by_contra hne
    rw [if_pos (Ne.symm hne)] at hadm
    cases hadm
  have hnew : (newPeer (Γ.sessionIds.draw s.drawn) (Γ.recoveryTokens.draw s.drawn) ws credential hello).AdmittedBy
      credential := ⟨rfl, hns, rfl⟩
  have hscope : PlainScope credential.scope := by
    unfold CredentialRecord.scope
    split
    · exact hplain
    · exact .none
  have hgreet := openSession_topics ho.1 ho.2 ws credential hello
  obtain ⟨hpeers, hregistry⟩ := openSession_entries ho ws credential hello
  -- The backend that begins has no subscribers.
  have hsubscribed (b topic p : String) (hsub : (s.openSession Γ ws credential hello).subscribed b topic p = true) :
      some b ≠ s.begunBackend Γ credential hello ∧ s.subscribed b topic p = true := by
    by_cases hb : some b = s.begunBackend Γ credential hello
    · have hnone : (s.openSession Γ ws credential hello).topicSubs.get b = none := by
        rw [hgreet.topicSubs]
        rcases hl : s.state.leases.has b with _ | _
        · rw [(hs.gone b hl).1, ite_self]
        · rw [if_pos ⟨hb, rfl⟩]
      unfold subscribed at hsub
      rw [hnone] at hsub
      cases hsub
    · refine ⟨hb, ?_⟩
      have hget := hgreet.topicSubs b
      rw [if_neg (fun h => hb h.1)] at hget
      rwa [subscribed_congr hget] at hsub
  refine ⟨fun b item hi => ?_, fun p peer hp => ?_, fun b hb => ?_, fun b topic p hsub => ?_,
    fun b topic p peer hsub hp => ?_⟩
  · rcases hregistry b with ⟨-, he⟩ | ⟨-, item', he, hid⟩
    · exact hs.presence b item (he ▸ hi)
    · rw [he, Option.some.injEq] at hi
      exact hi ▸ hid
  · rcases hpeers p peer hp with ⟨rfl, hkin⟩ | ⟨peer0, hp0, hkin⟩
    · refine ⟨?_, credential, by simp, hkin.admittedBy hnew⟩
      rw [(hkin.admittedBy hnew).scope]
      exact hscope
    · obtain ⟨hplain0, credential0, hmem, hadmitted⟩ := hs.admitted p peer0 hp0
      refine ⟨?_, credential0, by simp [hmem], hkin.admittedBy hadmitted⟩
      rw [(hkin.admittedBy hadmitted).scope, ← hadmitted.scope]
      exact hplain0
  · rw [hgreet.leases, Bool.or_eq_false_iff, decide_eq_false_iff_not] at hb
    obtain ⟨hbegun, hleased⟩ := hb
    rw [NoTopics, hgreet.topicSubs, hgreet.retainedTopics, if_neg (fun h => hbegun h.1), if_neg (fun h => hbegun h.1)]
    exact hs.gone b hleased
  · obtain ⟨m, hm, he⟩ := hs.drawn b topic p (hsubscribed b topic p hsub).2
    exact ⟨m, Nat.lt_succ_of_lt hm, he⟩
  · obtain ⟨hbegun, hsub⟩ := hsubscribed b topic p hsub
    rcases hpeers p peer hp with ⟨rfl, -⟩ | ⟨peer0, hp0, hkin⟩
    · obtain ⟨m, hm, he⟩ := hs.drawn b topic _ hsub
      exact absurd (Γ.sessionIds.injective he) (by omega)
    · obtain ⟨item0, hi0, hreach⟩ := hs.subscribers b topic p peer0 hsub hp0
      rcases hregistry b with ⟨-, he⟩ | ⟨he, -⟩
      · exact ⟨item0, he.trans hi0, (hkin.canReach item0.ns b).trans hreach⟩
      · exact absurd he hbegun

theorem ControlSteps.reach (hsteps : ControlSteps Γ act s t) (ho : s.OwnedUpTo Γ n) (hs : s.WithinReach Γ n h) :
    t.WithinReach Γ n h := by
  have hboth : t.OwnedUpTo Γ n ∧ t.WithinReach Γ n h := by
    induction hsteps with
    | refl => exact ⟨ho, hs⟩
    | tail _ hstep ih => exact ⟨(hstep.steps.owned ih.1).1, hstep.reach ih.1.1 ih.1.2 ih.2⟩
  exact hboth.2

theorem checkLease_reach (ho : s.Ownership) (hs : s.WithinReach Γ n h) (backendId : String) :
    (s.checkLease backendId).WithinReach Γ n h := by
  obtain ⟨hkeeps, hown⟩ := checkLease_keeps ho backendId
  exact hs.lose hown (checkLease_topics ho backendId) hkeeps

theorem leaseChecks_reach (backendIds : List String) (ho : s.Ownership) (hs : s.WithinReach Γ n h) :
    (backendIds.foldl checkLease s).WithinReach Γ n h := by
  induction backendIds generalizing s with
  | nil => exact hs
  | cons b backendIds ih => exact ih (checkLease_keeps ho b).2 (checkLease_reach ho hs b)

/-- One event of a running gateway. -/
theorem WithinReach.step (hs : s.WithinReach Γ s.drawn h) (hplain : s.storage.Plain)
    (ho : s.Owned Γ) (hrun : s.uncaught = none) (e : Event) :
    (s.handle Γ e).WithinReach Γ (s.drawn + 1) (h ++ admissions Γ s e) := by
  unfold admissions
  rw [hrun, Option.isSome_none, if_neg Bool.false_ne_true]
  rcases hh : s.helloOf Γ e with _ | ⟨ws, conn, hello⟩
  · dsimp only
    rw [List.append_nil]
    by_cases he : e = .leaseCheckInterval
    · subst he
      exact (leaseChecks_reach _ ho.1 hs).mono (Nat.le_succ _)
    · exact ((handle_control he hh).reach ho hs).mono (Nat.le_succ _)
  · dsimp only
    rw [handle_hello hh]
    have hnet {u : Gateway} {m : Nat} {h' : List (String × CredentialRecord)} (hu : u.WithinReach Γ m h') (f : Net → Net) :
        (u.onNet f).WithinReach Γ m h' := ⟨hu.presence, hu.admitted, hu.gone, hu.drawn, hu.subscribers⟩
    rcases greet_control (Γ := Γ) ws conn hello s with ⟨hnone, ht, -⟩ | ⟨u, credential, hadm, ht, he, -⟩
    · rw [hnone, Option.map_none, Option.toList_none, List.append_nil]
      exact (hs.lose (ho.1.turns ht) ht.topics ht.keeps).mono (Nat.le_succ _)
    · have hu : u.Owned Γ := ⟨ho.1.turns ht, FreshSessions.turns ho.2 ht⟩
      have hreach : u.WithinReach Γ u.drawn h := by
        rw [ht.drawn]
        exact hs.lose hu.1 ht.topics ht.keeps
      obtain ⟨id, hrow⟩ := admittedAs_stored hadm
      have hrefuse : refuseHello Γ credential hello = none := by
        have hfilter := (Option.filter_eq_some_iff.mp hadm).2
        simpa using hfilter
      have hopened := hreach.openSession hu ws (hplain.scopes _ _ hrow) hrefuse
      rw [ht.drawn] at hopened
      rw [hadm, he]
      exact hnet hopened _

theorem admissions_quiet (s : Gateway) (e : Event) : admissions Γ s.quiet e = admissions Γ s e := by
  unfold admissions
  simp only [helloOf_quiet, admittedAs_quiet]
  rfl

end Gateway

/-! ## Runs -/

/-- The sessions that a run opened, with the credentials that admitted them, the oldest first. -/
def admissionHistory (Γ : Ctx) (storage : Storage) (es : List Event) : List (String × CredentialRecord) :=
  (gateway Γ storage).history (Gateway.admissions Γ) es

/-- After every run sessions are what their credentials admitted, and subscribers reach what they subscribed to. -/
theorem reach_run {Γ : Ctx} {storage : Storage} (hids : ∀ m, PlainId (Γ.backendIds.draw m)) (hstorage : storage.Plain)
    (es : List Event) : ((gateway Γ storage).run es).WithinReach Γ ((gateway Γ storage).run es).drawn
      (admissionHistory Γ storage es) := by
  refine history_run (I := Gateway.WithinReach Γ) (J := Storage.Plain) (Storage.plain_run hids hstorage) ?_
    (fun n h s f drawn hs => ⟨hs.presence, hs.admitted, hs.gone, hs.drawn, hs.subscribers⟩) (fun s e hstopped => ?_)
    Gateway.admissions_quiet (fun h s e ho hplain hrun hs => hs.step hplain ho hrun e) es
  · refine ⟨?_, ?_, fun b _ => ⟨rfl, rfl⟩, ?_, ?_⟩
    · intro b item hi
      cases hi
    · intro p peer hp
      cases hp
    · intro b topic p hp
      cases hp
    · intro b topic p peer hp
      cases hp
  · unfold Gateway.admissions
    rw [if_pos hstopped]

end ZclaudiaGateway
