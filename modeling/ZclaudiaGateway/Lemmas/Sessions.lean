import ZclaudiaGateway.Lemmas.Ownership

/-!
# Sessions and their connections

Epochs only grow, a session that lost its lease never holds one again, and a session keeps the control connection its hello
arrived on.
-/

namespace ZclaudiaGateway

/-- The same session, but for its last pong and for what it owns. -/
def PeerSession.Kin (peer peer' : PeerSession) : Prop :=
  ∃ isAlive backendId epoch, peer' = { peer with isAlive, backendId, epoch }

theorem PeerSession.Kin.refl (peer : PeerSession) : peer.Kin peer := ⟨peer.isAlive, peer.backendId, peer.epoch, rfl⟩

theorem PeerSession.Kin.trans {p p' p'' : PeerSession} (h : p.Kin p') (h' : p'.Kin p'') : p.Kin p'' := by
  obtain ⟨a, b, c, rfl⟩ := h
  obtain ⟨a', b', c', rfl⟩ := h'
  exact ⟨a', b', c', rfl⟩

namespace Gateway

variable {Γ : Ctx}

/-! ## Leases and peers across an operation -/

/-- No lease and no session is new, and no epoch was handed out. -/
structure ControlKeeps (s t : Gateway) : Prop where
  leases : ∀ b lease, t.state.leases.get b = some lease → ∃ lease0, s.state.leases.get b = some lease0 ∧ lease0.Same lease
  peers : ∀ p peer, t.state.peers.get p = some peer → ∃ peer0, s.state.peers.get p = some peer0 ∧ peer0.Kin peer
  maxEpoch : t.storage.maxEpoch = s.storage.maxEpoch
  registry : ∀ b item, t.state.registry.get b = some item → ∃ item0, s.state.registry.get b = some item0 ∧ item0.Same item
  drawn : t.drawn = s.drawn

theorem ControlKeeps.refl (s : Gateway) : s.ControlKeeps s :=
  ⟨fun _ lease hl => ⟨lease, hl, .refl lease⟩, fun _ peer hp => ⟨peer, hp, .refl peer⟩, rfl,
    fun _ item hi => ⟨item, hi, .refl item⟩, rfl⟩

theorem ControlKeeps.trans {s t u : Gateway} (h : s.ControlKeeps t) (h' : t.ControlKeeps u) : s.ControlKeeps u := by
  refine ⟨fun b lease hl => ?_, fun p peer hp => ?_, h'.maxEpoch.trans h.maxEpoch, fun b item hi => ?_,
    h'.drawn.trans h.drawn⟩
  · obtain ⟨lease1, hl1, he1⟩ := h'.leases b lease hl
    obtain ⟨lease0, hl0, he0⟩ := h.leases b lease1 hl1
    exact ⟨lease0, hl0, he0.trans he1⟩
  · obtain ⟨peer1, hp1, he1⟩ := h'.peers p peer hp
    obtain ⟨peer0, hp0, he0⟩ := h.peers p peer1 hp1
    exact ⟨peer0, hp0, he0.trans he1⟩
  · obtain ⟨item1, hi1, he1⟩ := h'.registry b item hi
    obtain ⟨item0, hi0, he0⟩ := h.registry b item1 hi1
    exact ⟨item0, hi0, he0.trans he1⟩

theorem ControlTurns.keeps {s t : Gateway} (h : s.ControlTurns t) : s.ControlKeeps t := by
  refine ⟨fun b lease hl => h.state.leases.some_get hl, fun p peer hp => ?_, h.maxEpoch,
    fun b item hi => h.state.registry.some_get hi, h.drawn⟩
  obtain ⟨peer0, hp0, isAlive, rfl⟩ := h.state.peers.some_get hp
  exact ⟨peer0, hp0, isAlive, peer0.backendId, peer0.epoch, rfl⟩

/-- The same state, storage and position. -/
theorem ControlKeeps.same {s t : Gateway} (state : t.state = s.state)
    (maxEpoch : t.storage.maxEpoch = s.storage.maxEpoch) (drawn : t.drawn = s.drawn) : s.ControlKeeps t :=
  ⟨fun _ lease hl => ⟨lease, state ▸ hl, .refl lease⟩, fun _ peer hp => ⟨peer, state ▸ hp, .refl peer⟩, maxEpoch,
    fun _ item hi => ⟨item, state ▸ hi, .refl item⟩, drawn⟩

variable {act : Option Request}

theorem ControlStep.keeps {s t : Gateway} (hstep : ControlStep Γ act s t) (h : s.Ownership) : s.ControlKeeps t := by
  cases hstep with
  | turn ht => exact ht.keeps
  | deliver hd =>
    obtain ⟨f, rfl⟩ := hd.onNet
    exact .same rfl rfl rfl
  | @topic _ peer message hp hact ht =>
    have honly := routeMessage_topic (Γ := Γ) peer ht s
    exact .same honly.state (congrArg Storage.maxEpoch honly.storage) honly.drawn
  | openChannel hp hact hl hb hi hreach hroom => exact .same rfl rfl rfl
  | proxyViaChannel hl hb =>
    unfold Gateway.proxyViaChannel
    split
    · exact .same rfl rfl rfl
    · exact .same rfl rfl rfl
  | disconnect p =>
    rcases hp : s.state.peers.get p with _ | peer
    · unfold handlePeerDisconnect
      rw [hp]
      exact .refl s
    · have hd := handlePeerDisconnect_disconnected h.channelId hp
      refine ⟨fun b lease hl => ?_, fun q peer' hq => ?_, hd.maxEpoch, fun b item hi => ?_, hd.drawn⟩
      · rw [hd.leases, get_elim_delete] at hl
        split at hl
        · cases hl
        · exact ⟨lease, hl, .refl lease⟩
      · rw [hd.peers] at hq
        exact ⟨peer', (InsertionMap.get_delete_eq_some.mp hq).2, .refl peer'⟩
      · rw [hd.registry, get_elim_delete] at hi
        split at hi
        · cases hi
        · exact ⟨item, hi, .refl item⟩

theorem ControlSteps.keeps {s t : Gateway} (hsteps : ControlSteps Γ act s t) (h : s.Ownership) : s.ControlKeeps t := by
  have hboth : t.Ownership ∧ s.ControlKeeps t := by
    induction hsteps with
    | refl => exact ⟨h, .refl s⟩
    | tail _ hstep ih => exact ⟨hstep.ownership ih.1, ih.2.trans (hstep.keeps ih.1)⟩
  exact hboth.2

theorem checkLease_keeps {s : Gateway} (h : s.Ownership) (backendId : String) :
    s.ControlKeeps (s.checkLease backendId) ∧ (s.checkLease backendId).Ownership := by
  unfold checkLease
  split
  · exact ⟨.refl s, h⟩
  · rename_i lease hl
    split
    · have hx := handleBackendLeaseExpired_expired h.channelId h.key hl
      refine ⟨⟨fun b lease' hl' => ?_, fun p peer hp => ?_, hx.maxEpoch, fun b item hi => ?_, hx.drawn⟩,
        h.expire backendId⟩
      · rw [hx.leases] at hl'
        exact ⟨lease', (InsertionMap.get_delete_eq_some.mp hl').2, .refl lease'⟩
      · rw [hx.peers] at hp
        split at hp
        · cases hp
        · exact ⟨peer, hp, .refl peer⟩
      · rw [hx.registry] at hi
        exact ⟨item, (InsertionMap.get_delete_eq_some.mp hi).2, .refl item⟩
    · exact ⟨.refl s, h⟩

theorem leaseChecks_keeps (backendIds : List String) {s : Gateway} (h : s.Ownership) :
    s.ControlKeeps (backendIds.foldl checkLease s) := by
  induction backendIds generalizing s with
  | nil => exact .refl s
  | cons b backendIds ih =>
    obtain ⟨hkeeps, hown⟩ := checkLease_keeps h b
    exact hkeeps.trans (ih hown)

/-- An event but a hello makes no lease and no session. -/
theorem handle_keeps {e : Event} {s : Gateway} (h : s.Ownership) (hno : s.helloOf Γ e = none) :
    s.ControlKeeps (s.handle Γ e) := by
  by_cases he : e = .leaseCheckInterval
  · subst he
    exact leaseChecks_keeps _ h
  · exact (handle_control he hno).keeps h

/-! ## Hellos -/

/-- What a hello makes of leases and sessions: at most one new session, and its lease under the next epoch. -/
structure Greets (Γ : Ctx) (ws : SocketId) (s t : Gateway) : Prop where
  leases : ∀ b lease, t.state.leases.get b = some lease →
    (∃ lease0, s.state.leases.get b = some lease0 ∧ lease0.Same lease) ∨
      lease.peerSessionId = Γ.sessionIds.draw s.drawn ∧ s.storage.maxEpoch < lease.epoch
  peers : ∀ p peer, t.state.peers.get p = some peer →
    (∃ peer0, s.state.peers.get p = some peer0 ∧ peer0.Kin peer) ∨ p = Γ.sessionIds.draw s.drawn ∧ peer.ws = ws
  maxEpoch : s.storage.maxEpoch ≤ t.storage.maxEpoch
  drawn : t.drawn = s.drawn

theorem ControlKeeps.greets {s t : Gateway} (h : s.ControlKeeps t) (ws : SocketId) : Greets Γ ws s t :=
  ⟨fun b lease hl => Or.inl (h.leases b lease hl), fun p peer hp => Or.inl (h.peers p peer hp), h.maxEpoch.ge, h.drawn⟩

theorem openSession_greets {s : Gateway} (h : s.Ownership) (fresh : s.FreshSessions Γ) (ws : SocketId)
    (credential : CredentialRecord) (hello : PeerHello) : Greets Γ ws s (s.openSession Γ ws credential hello) := by
  have hdrawn := openSession_drawn h fresh ws credential hello
  rcases openSession_cases h fresh ws credential hello with ⟨-, he⟩ | ⟨-, u, storage, b, grant, -, hmax, hr, he⟩
  · rw [he] at hdrawn ⊢
    obtain ⟨⟨hstate, -⟩, -, -, hstorage, -⟩ := addSession_tables
      (newPeer (Γ.sessionIds.draw s.drawn) (Γ.recoveryTokens.draw s.drawn) ws credential hello) none s
    refine ⟨fun b lease hl => Or.inl ⟨lease, ?_, .refl lease⟩, fun p peer hp => ?_, by rw [hstorage], hdrawn⟩
    · rw [hstate] at hl
      exact hl
    · rw [hstate] at hp
      rcases InsertionMap.get_set_eq_some.mp hp with ⟨rfl, rfl⟩ | ⟨-, hp⟩
      · exact Or.inr ⟨rfl, rfl⟩
      · exact Or.inl ⟨peer, hp, .refl peer⟩
  · rw [he] at hdrawn ⊢
    obtain ⟨⟨hstate, -⟩, -, -, hstorage, -⟩ := addSession_tables
      { newPeer (Γ.sessionIds.draw s.drawn) (Γ.recoveryTokens.draw s.drawn) ws credential hello with
        backendId := some b, epoch := some (s.storage.maxEpoch + 1) } grant u
    have hepoch : s.storage.maxEpoch ≤ u.storage.maxEpoch := by
      rw [hr.maxEpoch]
      exact hmax.ge.trans' (Nat.le_succ _)
    refine ⟨fun b' lease hl => ?_, fun p peer hp => ?_, by rw [hstorage]; exact hepoch, hdrawn⟩
    · rw [hstate] at hl
      have hl' : u.state.leases.get b' = some lease := hl
      rw [hr.leases] at hl'
      split at hl'
      · obtain rfl := Option.some.inj hl'
        exact Or.inr ⟨rfl, Nat.lt_succ_self _⟩
      · exact Or.inl ⟨lease, hl', .refl lease⟩
    · rw [hstate] at hp
      rcases InsertionMap.get_set_eq_some.mp hp with ⟨rfl, rfl⟩ | ⟨-, hp⟩
      · exact Or.inr ⟨rfl, rfl⟩
      · rw [hr.peers] at hp
        obtain ⟨peer0, hp0, rfl⟩ := Option.map_eq_some_iff.mp hp
        refine Or.inl ⟨peer0, hp0, ?_⟩
        split
        · exact ⟨peer0.isAlive, none, none, rfl⟩
        · exact .refl peer0

theorem greet_greets {s : Gateway} (h : s.Owned Γ) (ws : SocketId) (conn : ControlConn) (hello : PeerHello) :
    Greets Γ ws s (s.greet Γ ws conn hello) := by
  rcases greet_control (Γ := Γ) ws conn hello s with ⟨-, ht, -⟩ | ⟨u, credential, -, ht, he, -⟩
  · exact ht.keeps.greets ws
  · have hopened := openSession_greets (h.1.turns ht) (FreshSessions.turns h.2 ht) ws credential hello
    have hkeeps := ht.keeps
    rw [he]
    refine ⟨fun b lease hl => ?_, fun p peer hp => ?_, hkeeps.maxEpoch.ge.trans hopened.maxEpoch,
      hopened.drawn.trans hkeeps.drawn⟩
    · rcases hopened.leases b lease hl with ⟨lease1, hl1, he1⟩ | ⟨hp, hepoch⟩
      · obtain ⟨lease0, hl0, he0⟩ := hkeeps.leases b lease1 hl1
        exact Or.inl ⟨lease0, hl0, he0.trans he1⟩
      · exact Or.inr ⟨hkeeps.drawn ▸ hp, hkeeps.maxEpoch ▸ hepoch⟩
    · rcases hopened.peers p peer hp with ⟨peer1, hp1, he1⟩ | ⟨rfl, hw⟩
      · obtain ⟨peer0, hp0, he0⟩ := hkeeps.peers p peer1 hp1
        exact Or.inl ⟨peer0, hp0, he0.trans he1⟩
      · exact Or.inr ⟨by rw [hkeeps.drawn], hw⟩

/-- What an event makes of leases and sessions. -/
theorem handle_greets (e : Event) {s : Gateway} (h : s.Owned Γ) : ∃ ws, Greets Γ ws s (s.handle Γ e) := by
  rcases hh : s.helloOf Γ e with _ | ⟨ws, conn, hello⟩
  · exact ⟨0, (handle_keeps h.1 hh).greets 0⟩
  · rw [handle_hello hh]
    exact ⟨ws, greet_greets h ws conn hello⟩

/-- What a step makes of leases and sessions. -/
theorem step_greets (e : Event) {s : Gateway} (h : s.Owned Γ) :
    (∃ ws, Greets Γ ws s { (s.step Γ e) with drawn := s.drawn }) ∧ s.drawn ≤ (s.step Γ e).drawn := by
  unfold step
  split
  · have hquiet : s.ControlKeeps { s.quiet with drawn := s.drawn } := .same rfl rfl rfl
    exact ⟨⟨0, hquiet.greets 0⟩, le_rfl⟩
  · obtain ⟨ws, hg⟩ := handle_greets (Γ := Γ) e (s := s.quiet) ⟨h.1.only rfl rfl rfl rfl, h.2⟩
    refine ⟨⟨ws, hg.leases, hg.peers, hg.maxEpoch, rfl⟩, ?_⟩
    dsimp only
    rw [hg.drawn]
    exact Nat.le_succ _

end Gateway

/-! ## Runs -/

section Runs

open Gateway

variable {Γ : Ctx} {storage : Storage}

/-- The greatest epoch handed out only grows. -/
theorem maxEpoch_run (es es' : List Event) :
    ((gateway Γ storage).run es).storage.maxEpoch ≤ ((gateway Γ storage).run (es ++ es')).storage.maxEpoch := by
  refine (gateway Γ storage).run_rel (I := fun s => s.Owned Γ) (R := fun s t => s.storage.maxEpoch ≤ t.storage.maxEpoch)
    owned_run (fun s => le_rfl) (fun h h' => h.trans h') (fun s e h => ?_) es es'
  obtain ⟨⟨ws, hg⟩, -⟩ := step_greets e h
  exact hg.maxEpoch

theorem drawn_run (es es' : List Event) :
    ((gateway Γ storage).run es).drawn ≤ ((gateway Γ storage).run (es ++ es')).drawn := by
  refine (gateway Γ storage).run_rel (I := fun s => s.Owned Γ) (R := fun s t => s.drawn ≤ t.drawn)
    owned_run (fun s => le_rfl) (fun h h' => h.trans h') (fun s e h => ?_) es es'
  exact (step_greets e h).2

/-- The session holds no lease. -/
def Gateway.HoldsNone (s : Gateway) (p : String) : Prop := ∀ b lease, s.state.leases.get b = some lease → lease.peerSessionId ≠ p

/-- A session of before that holds no lease never holds one again. -/
theorem holdsNone_run (es es' : List Event) {m : Nat} (hm : m < ((gateway Γ storage).run es).drawn)
    (h : ((gateway Γ storage).run es).HoldsNone (Γ.sessionIds.draw m)) :
    ((gateway Γ storage).run (es ++ es')).HoldsNone (Γ.sessionIds.draw m) := by
  refine ((gateway Γ storage).run_rel (I := fun s => s.Owned Γ)
    (R := fun s t => s.drawn ≤ t.drawn ∧ (m < s.drawn → s.HoldsNone (Γ.sessionIds.draw m) → t.HoldsNone (Γ.sessionIds.draw m)))
    owned_run (fun s => ⟨le_rfl, fun _ h => h⟩) (fun h h' => ?_) (fun s e h => ?_) es es').2 hm h
  · exact ⟨h.1.trans h'.1, fun hm hn => h'.2 (lt_of_lt_of_le hm h.1) (h.2 hm hn)⟩
  · obtain ⟨⟨ws, hg⟩, hdrawn⟩ := step_greets e h
    refine ⟨hdrawn, fun hm hn b lease hl => ?_⟩
    rcases hg.leases b lease hl with ⟨lease0, hl0, _, rfl⟩ | ⟨hp, -⟩
    · exact hn b lease0 hl0
    · rw [hp]
      intro he
      exact absurd (Γ.sessionIds.injective he) (by omega)

end Runs

end ZclaudiaGateway
