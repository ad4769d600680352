import ZclaudiaGateway.Sdk.Backend

/-!
# One session of the backend

An application that calls `connect` at rest only, and `close` between attempts only, has the backend go through one thing at a
time: a credential exchange, an attempt on one socket, a session on one socket, or a reconnect timer. Every other control socket
is over.
-/

namespace ZclaudiaGateway

/-! ## Sockets -/

theorem WebSocketState.close_ne_connecting (r : WebSocketState) : r.close ≠ .connecting := by
  cases r <;> simp [WebSocketState.close]

theorem WebSocketState.close_eq_closed {r : WebSocketState} : r.close = .closed ↔ r = .closed := by
  cases r <;> simp [WebSocketState.close]

namespace BackendSocket

/-- Nothing of the control connection depends on the socket any more. -/
def finished (k : BackendSocket) : Bool :=
  match k.use with
  | .data _ _ _ => true
  | .control .ended _ => true
  | .control .established _ => k.readyState = .closed
  | _ => false

/-- An attempt on the socket has not come to its end. -/
def inAttempt (k : BackendSocket) : Bool :=
  match k.use with
  | .control .established _ | .control .ended _ | .data _ _ _ => false
  | _ => true

/-- The handshake has `peer_ready` and has not gone on. -/
def settled (k : BackendSocket) : Bool :=
  match k.use with
  | .control (.ready _) _ => true
  | _ => false

/-- A move of a socket that begins and ends nothing. -/
structure Progress (k k' : BackendSocket) : Prop where
  finished : k.finished = true → k'.finished = true
  inAttempt : k.inAttempt = true → k'.inAttempt = true
  settled : k'.settled = true → (k.settled = true → k.readyState ≠ .closed) → k'.readyState ≠ .closed
  established : ∀ call, k.use = .control .established call → k.readyState ≠ .closed →
    k'.use = .control .established call ∧ k'.readyState ≠ .closed
  connecting : ∀ attempt call, k'.use = .control attempt call → k'.readyState = .connecting →
    k.readyState = .connecting ∧ k.use = .control attempt call

theorem not_over_of_inAttempt {k : BackendSocket} (h : k.inAttempt = true) : k.finished = false := by
  obtain ⟨r, ⟨attempt, call⟩ | ⟨offer, handler, dial⟩⟩ := k
  · cases attempt <;> first | rfl | cases h
  · cases h

/-- An attempt goes on. -/
theorem progress_attempt {r r' : WebSocketState} {attempt attempt' : BackendAttempt} {call : Establish}
    (h : inAttempt ⟨r, .control attempt call⟩ = true) (h' : inAttempt ⟨r', .control attempt' call⟩ = true)
    (hsettled : settled ⟨r', .control attempt' call⟩ = true → r' ≠ .closed) (hr : r' ≠ .connecting) :
    Progress ⟨r, .control attempt call⟩ ⟨r', .control attempt' call⟩ := by
  refine ⟨fun hover => ?_, fun _ => h', fun hs _ => hsettled hs, fun call' hu _ => ?_, fun _ _ _ hc => absurd hc hr⟩
  · rw [not_over_of_inAttempt h] at hover
    cases hover
  · cases hu
    cases h

/-- A dial goes on. -/
theorem progress_dial (r r' : WebSocketState) (offer : ChannelOffer) (handler : HandlerId) (dial dial' : Dial) :
    Progress ⟨r, .data offer handler dial⟩ ⟨r', .data offer handler dial'⟩ :=
  ⟨fun _ => rfl, fun h => h, fun h => (nomatch h), fun _ hu => (nomatch hu), fun _ _ hu => (nomatch hu)⟩

/-- A socket moves on, without closing under an attempt that has `peer_ready` or under a session. -/
theorem progress_readyState {r r' : WebSocketState} {use : BackendSocketUse} (hr : r = .closed → r' = .closed)
    (hr' : r' ≠ .connecting) (hsettled : settled ⟨r, use⟩ = true → r' ≠ .closed)
    (hestablished : ∀ call, use = .control .established call → r' ≠ .closed) : Progress ⟨r, use⟩ ⟨r', use⟩ := by
  refine ⟨fun h => ?_, fun h => h, fun h _ => hsettled h, fun call hu _ => ⟨hu, hestablished call hu⟩,
    fun _ _ _ hc => absurd hc hr'⟩
  obtain ⟨attempt, call⟩ | ⟨offer, handler, dial⟩ := use
  · cases attempt with
    | established => exact decide_eq_true (hr (of_decide_eq_true h))
    | ended => rfl
    | opening | opened | awaitingReady | ready _ | failed _ => cases h
  · rfl

end BackendSocket

namespace GatewayBackend

/-- Nothing is under way that `connect` would begin a second time, and no connection is left. -/
def atRest (b : GatewayBackend) : Bool :=
  b.exchanges.isEmpty && b.reconnectTimers.isEmpty && b.sockets.values.all BackendSocket.finished

def attempting (b : GatewayBackend) : Bool := !b.exchanges.isEmpty || b.sockets.values.any BackendSocket.inAttempt

def settled (b : GatewayBackend) (ws : SocketId) : Bool := (b.sockets.get ws).any BackendSocket.settled

end GatewayBackend

/-! ## Stages -/

/-- What the backend is busy with. -/
inductive BackendStage where
  | resting
  | waiting
  | exchanging
  | attempting (ws : SocketId)
  | connected (ws : SocketId)
  /-- `close` has been called and the socket has not closed yet. -/
  | leaving (ws : SocketId)
deriving DecidableEq

namespace BackendStage

/-- The socket that is not over. -/
def live : BackendStage → Option SocketId
  | attempting ws | connected ws | leaving ws => some ws
  | _ => none

/-- `this.socket`. -/
def current : BackendStage → Option SocketId
  | attempting ws | connected ws => some ws
  | _ => none

def exchanges : BackendStage → Nat
  | exchanging => 1
  | _ => 0

def timers : BackendStage → Nat
  | waiting => 1
  | _ => 0

/-- How the live socket stands. -/
def Stands (k : BackendSocket) : BackendStage → Prop
  | attempting _ => k.inAttempt = true ∧ (k.settled = true → k.readyState ≠ .closed)
  | connected _ | leaving _ => (∃ call, k.use = .control .established call) ∧ k.readyState ≠ .closed
  | _ => True

/-- Whether `close` has been called. -/
def Closes (isClosed : Bool) : BackendStage → Prop
  | exchanging | attempting _ | connected _ => isClosed = false
  | leaving _ => isClosed = true
  | _ => True

end BackendStage

namespace GatewayBackend

/-- The backend is at the stage, and at nothing else. -/
structure At (p : BackendStage) (b : GatewayBackend) : Prop where
  fresh : ∀ ws k, b.sockets.get ws = some k → ws < b.nextSocket
  others : ∀ ws k, b.sockets.get ws = some k → p.live ≠ some ws → k.finished = true
  live : ∀ ws, p.live = some ws → ∃ k, b.sockets.get ws = some k ∧ BackendStage.Stands k p
  connecting : ∀ ws k attempt call, b.sockets.get ws = some k → k.use = .control attempt call → k.readyState = .connecting →
    attempt = .opening
  socket : b.socket = p.current
  exchanges : b.exchanges.length = p.exchanges
  timers : b.reconnectTimers.length = p.timers
  closes : BackendStage.Closes b.isClosed p
  state : b.state = .connected → ∃ ws, p = .connected ws

/-- The parts of the backend the stages are about. -/
structure SamePart (b b' : GatewayBackend) : Prop where
  sockets : b'.sockets = b.sockets
  nextSocket : b'.nextSocket = b.nextSocket
  socket : b'.socket = b.socket
  exchanges : b'.exchanges = b.exchanges
  timers : b'.reconnectTimers = b.reconnectTimers
  isClosed : b'.isClosed = b.isClosed
  state : b'.state = b.state

variable {b b' : GatewayBackend} {p : BackendStage}

theorem SamePart.refl (b : GatewayBackend) : b.SamePart b := ⟨rfl, rfl, rfl, rfl, rfl, rfl, rfl⟩

theorem At.of_same (h : b.At p) (hs : b.SamePart b') : b'.At p := by
  obtain ⟨hsockets, hnext, hsocket, hexchanges, htimers, hclosed, hstate⟩ := hs
  exact
    { fresh := by rw [hsockets, hnext]; exact h.fresh
      others := by rw [hsockets]; exact h.others
      live := by rw [hsockets]; exact h.live
      connecting := by rw [hsockets]; exact h.connecting
      socket := by rw [hsocket]; exact h.socket
      exchanges := by rw [hexchanges]; exact h.exchanges
      timers := by rw [htimers]; exact h.timers
      closes := by rw [hclosed]; exact h.closes
      state := by rw [hstate]; exact h.state }

/-! ## Moves of one socket -/

/-- The socket at `ws` becomes `k'`, and the stages' other parts stay. -/
structure Moves (ws : SocketId) (k' : BackendSocket) (b b' : GatewayBackend) : Prop where
  get : ∀ ws', b'.sockets.get ws' = if ws' = ws then some k' else b.sockets.get ws'
  nextSocket : b'.nextSocket = b.nextSocket
  socket : b'.socket = b.socket
  exchanges : b'.exchanges = b.exchanges
  timers : b'.reconnectTimers = b.reconnectTimers
  isClosed : b'.isClosed = b.isClosed
  state : b'.state = b.state

theorem moves_onSocket {ws : SocketId} {k : BackendSocket} (hk : b.sockets.get ws = some k)
    (f : BackendSocket → BackendSocket) : b.Moves ws (f k) (b.onSocket ws f) := by
  refine ⟨fun ws' => ?_, rfl, rfl, rfl, rfl, rfl, rfl⟩
  rw [onSocket, InsertionMap.get_modify]
  split
  · rename_i hws
    rw [hws, hk]
    rfl
  · rfl

theorem Moves.onSocket {ws : SocketId} {k' : BackendSocket} (h : b.Moves ws k' b')
    (f : BackendSocket → BackendSocket) : b.Moves ws (f k') (b'.onSocket ws f) := by
  refine ⟨fun ws' => ?_, h.nextSocket, h.socket, h.exchanges, h.timers, h.isClosed, h.state⟩
  rw [GatewayBackend.onSocket, InsertionMap.get_modify, h.get]
  split <;> rfl

/-- A step that begins and ends nothing. -/
def Quiet (b b' : GatewayBackend) : Prop :=
  b.SamePart b' ∨ ∃ ws k k', b.sockets.get ws = some k ∧ b.Moves ws k' b' ∧ k.Progress k'

theorem At.stands_progress {ws : SocketId} {k k' : BackendSocket} (hk : b.sockets.get ws = some k) (h : b.At p)
    (hp : p.live = some ws) (hprogress : k.Progress k') : BackendStage.Stands k' p := by
  obtain ⟨k₀, hk₀, hstands⟩ := h.live ws hp
  rw [hk, Option.some_inj] at hk₀
  subst hk₀
  cases p with
  | resting => trivial
  | waiting => trivial
  | exchanging => trivial
  | attempting _ => exact ⟨hprogress.inAttempt hstands.1, fun hs => hprogress.settled hs hstands.2⟩
  | connected _ | leaving _ =>
    obtain ⟨⟨call, hu⟩, hr⟩ := hstands
    obtain ⟨hu', hr'⟩ := hprogress.established call hu hr
    exact ⟨⟨call, hu'⟩, hr'⟩

theorem At.quiet (h : b.At p) (hq : b.Quiet b') : b'.At p := by
  obtain hs | ⟨ws, k, k', hk, hm, hprogress⟩ := hq
  · exact h.of_same hs
  · have hget {ws' : SocketId} {k'' : BackendSocket} (hk'' : b'.sockets.get ws' = some k'') :
        ws' = ws ∧ k'' = k' ∨ ws' ≠ ws ∧ b.sockets.get ws' = some k'' := by
      rw [hm.get] at hk''
      split at hk''
      · rename_i hws
        exact Or.inl ⟨hws, (Option.some.inj hk'').symm⟩
      · rename_i hws
        exact Or.inr ⟨hws, hk''⟩
    refine ⟨?_, ?_, ?_, ?_, ?_, ?_, ?_, ?_, ?_⟩
    · intro ws' k'' hk''
      rw [hm.nextSocket]
      rcases hget hk'' with ⟨rfl, rfl⟩ | ⟨-, hk''⟩
      · exact h.fresh _ _ hk
      · exact h.fresh _ _ hk''
    · intro ws' k'' hk'' hlive
      rcases hget hk'' with ⟨rfl, rfl⟩ | ⟨-, hk''⟩
      · exact hprogress.finished (h.others _ _ hk hlive)
      · exact h.others _ _ hk'' hlive
    · intro ws' hlive
      by_cases hws : ws' = ws
      · subst hws
        exact ⟨k', by rw [hm.get, if_pos rfl], h.stands_progress hk hlive hprogress⟩
      · obtain ⟨k'', hk'', hstands⟩ := h.live ws' hlive
        exact ⟨k'', by rw [hm.get, if_neg hws, hk''], hstands⟩
    · intro ws' k'' attempt call hk'' hu hr
      rcases hget hk'' with ⟨rfl, rfl⟩ | ⟨-, hk''⟩
      · obtain ⟨hr', hu'⟩ := hprogress.connecting attempt call hu hr
        exact h.connecting _ _ attempt call hk hu' hr'
      · exact h.connecting _ _ attempt call hk'' hu hr
    · rw [hm.socket, h.socket]
    · rw [hm.exchanges, h.exchanges]
    · rw [hm.timers, h.timers]
    · rw [hm.isClosed]; exact h.closes
    · rw [hm.state]; exact h.state

/-! ## Steps that begin and end nothing -/

theorem Quiet.same (h : b.SamePart b') : b.Quiet b' := Or.inl h

theorem Quiet.refl (b : GatewayBackend) : b.Quiet b := .same (.refl b)

theorem same_emit (b : GatewayBackend) (output : BackendOutput) : b.SamePart (b.emit output) := ⟨rfl, rfl, rfl, rfl, rfl, rfl, rfl⟩

theorem same_send (b : GatewayBackend) (ws : SocketId) (message : PeerToGateway) : b.SamePart (b.send ws message) := by
  unfold send
  split
  · exact .refl b
  · exact .refl b
  · exact same_emit b _

theorem same_reject (b : GatewayBackend) (offer : ChannelOffer) : b.SamePart (b.reject offer) := by
  unfold reject
  split
  · exact same_send _ _ _
  · exact .refl b

theorem same_heartbeat (b : GatewayBackend) (ws : SocketId) : b.SamePart (b.heartbeat ws) := by
  unfold heartbeat
  split
  · split
    · split
      · exact same_send _ _ _
      · exact .refl b
    · exact .refl b
  · exact .refl b

theorem quiet_socketOpened (b : GatewayBackend) (ws : SocketId) : b.Quiet (b.socketOpened ws) := by
  unfold socketOpened
  split
  · rename_i use hk
    have hm := moves_onSocket hk (fun k => { k with readyState := .open_ })
    split
    · exact Or.inr ⟨ws, _, _, hk, hm.onSocket _, BackendSocket.progress_attempt rfl rfl (by simp) (by simp)⟩
    · exact Or.inr ⟨ws, _, _, hk, hm.onSocket _, BackendSocket.progress_dial ..⟩
    · exact Or.inr ⟨ws, _, _, hk, hm, BackendSocket.progress_readyState (by simp) (by simp) (by simp) (by simp)⟩
  · exact .refl b

theorem quiet_socketError (b : GatewayBackend) (ws : SocketId) : b.Quiet (b.socketError ws) := by
  unfold socketError
  split
  · exact .refl b
  · rename_i r use hr hk
    have hm := moves_onSocket hk (fun k => { k with readyState := k.readyState.close })
    have hclosed : r.close ≠ .closed := fun h => hr (WebSocketState.close_eq_closed.mp h)
    split
    · exact Or.inr ⟨ws, _, _, hk, hm.onSocket _,
        BackendSocket.progress_attempt rfl rfl (fun h => (nomatch h)) (WebSocketState.close_ne_connecting r)⟩
    · exact Or.inr ⟨ws, _, _, hk, hm.onSocket _, BackendSocket.progress_dial ..⟩
    · exact Or.inr ⟨ws, _, _, hk, hm, BackendSocket.progress_readyState (fun h => absurd h hr)
        (WebSocketState.close_ne_connecting r) (fun _ => hclosed) (fun _ _ => hclosed)⟩
  · exact .refl b

theorem quiet_readyTimeout (b : GatewayBackend) (hconnecting : ∀ ws k attempt call, b.sockets.get ws = some k →
    k.use = .control attempt call → k.readyState = .connecting → attempt = .opening) (ws : SocketId) :
    b.Quiet (b.readyTimeout ws) := by
  unfold readyTimeout
  split
  · rename_i r call hk
    refine Or.inr ⟨ws, _, _, hk, moves_onSocket hk _, BackendSocket.progress_attempt rfl rfl (fun h => (nomatch h)) ?_⟩
    exact fun hr => nomatch hconnecting ws _ _ call hk rfl hr
  · exact .refl b

/-- Only an offer that a session reads is more than a step of an attempt. -/
theorem quiet_readMessage {b : GatewayBackend} {ws : SocketId} {r : WebSocketState} {attempt : BackendAttempt}
    {call : Establish} {message : GatewayToPeer} (hk : b.sockets.get ws = some ⟨r, .control attempt call⟩)
    (hr : r = .open_ ∨ r = .closing)
    (h : attempt = .established → ∀ channelId kind source ticket dataPath,
      message ≠ .channelOffer channelId kind source ticket dataPath) : b.Quiet (b.readMessage ws attempt call message) := by
  have hclosed : r ≠ .closed := by rcases hr with rfl | rfl <;> simp
  have hopening : r ≠ .connecting := by rcases hr with rfl | rfl <;> simp
  unfold readMessage
  split
  · exact Or.inr ⟨ws, _, _, hk, moves_onSocket hk _, BackendSocket.progress_attempt rfl rfl (fun _ => hclosed) hopening⟩
  · exact Or.inr ⟨ws, _, _, hk, moves_onSocket hk _,
      BackendSocket.progress_attempt rfl rfl (fun h => (nomatch h)) hopening⟩
  · exact (h rfl _ _ _ _ _ rfl).elim
  · exact .refl b

/-! ## Offers -/

/-- The factory makes a data socket. -/
theorem At.create_data (h : b.At p) (offer : ChannelOffer) (handler : HandlerId) (dial : Dial) :
    (b.create (.data offer handler dial)).At p := by
  have hget {ws : SocketId} {k : BackendSocket} (hk : (b.create (.data offer handler dial)).sockets.get ws = some k) :
      k.finished = true ∧ (∀ attempt call, k.use ≠ .control attempt call) ∧ ws = b.nextSocket ∨ b.sockets.get ws = some k := by
    rcases InsertionMap.get_set_eq_some.mp hk with ⟨rfl, rfl⟩ | ⟨-, hk⟩
    · exact Or.inl ⟨rfl, fun _ _ hu => (nomatch hu), rfl⟩
    · exact Or.inr hk
  refine { h with fresh := ?_, others := ?_, live := ?_, connecting := ?_ }
  · intro ws k hk
    rcases hget hk with ⟨-, -, rfl⟩ | hk
    · exact Nat.lt_succ_self _
    · exact Nat.lt_succ_of_lt (h.fresh ws k hk)
  · intro ws k hk hlive
    rcases hget hk with ⟨hover, -, -⟩ | hk
    · exact hover
    · exact h.others ws k hk hlive
  · intro ws hlive
    obtain ⟨k, hk, hstands⟩ := h.live ws hlive
    exact ⟨k, (InsertionMap.get_set_of_ne (Nat.ne_of_lt (h.fresh ws k hk))).trans hk, hstands⟩
  · intro ws k attempt call hk hu
    rcases hget hk with ⟨-, hne, -⟩ | hk
    · exact absurd hu (hne attempt call)
    · exact h.connecting ws k attempt call hk hu

theorem At.handleOffer (h : b.At p) (offer : ChannelOffer) : (b.handleOffer offer).At p := by
  unfold GatewayBackend.handleOffer
  split
  · exact h
  · split
    · exact h.create_data ..
    · exact h.of_same (same_reject b offer)

theorem At.socketMessage (h : b.At p) (ws : SocketId) (message : Option GatewayToPeer) : (b.socketMessage ws message).At p := by
  have hread {r : WebSocketState} {attempt : BackendAttempt} {call : Establish} {message : GatewayToPeer}
      (hk : b.sockets.get ws = some ⟨r, .control attempt call⟩) (hr : r = .open_ ∨ r = .closing) :
      (b.readMessage ws attempt call message).At p := by
    by_cases hoffer : ∃ channelId kind source ticket dataPath,
        attempt = .established ∧ message = .channelOffer channelId kind source ticket dataPath
    · obtain ⟨channelId, kind, source, ticket, dataPath, rfl, rfl⟩ := hoffer
      exact h.handleOffer _
    · refine h.quiet (quiet_readMessage hk hr fun ha channelId kind source ticket dataPath hm => hoffer ?_)
      exact ⟨channelId, kind, source, ticket, dataPath, ha, hm⟩
  unfold GatewayBackend.socketMessage
  split
  · rename_i hk
    exact hread hk (Or.inl rfl)
  · rename_i hk
    exact hread hk (Or.inr rfl)
  · exact h

/-! ## From one stage to the next -/

/-- No control socket takes part: the exchange or the timer begins or ends. -/
theorem At.next {q : BackendStage} (h : b.At p) (hp : p.live = none) (hq : q.live = none) (hsockets : b'.sockets = b.sockets)
    (hnext : b'.nextSocket = b.nextSocket) (hsocket : b'.socket = none) (hexchanges : b'.exchanges.length = q.exchanges)
    (htimers : b'.reconnectTimers.length = q.timers) (hcloses : BackendStage.Closes b'.isClosed q)
    (hstate : b'.state ≠ .connected) : b'.At q := by
  refine ⟨?_, ?_, ?_, ?_, ?_, hexchanges, htimers, hcloses, fun hs => absurd hs hstate⟩
  · rw [hsockets, hnext]
    exact h.fresh
  · rw [hsockets]
    intro ws k hk _
    exact h.others ws k hk (by rw [hp]; simp)
  · intro ws hlive
    rw [hq] at hlive
    cases hlive
  · rw [hsockets]
    exact h.connecting
  · rw [hsocket]
    cases q <;> first | rfl | cases hq

/-- The live socket becomes `k'`. -/
theorem At.turn {q : BackendStage} {ws : SocketId} {k' : BackendSocket} (h : b.At p) (hp : p.live = some ws)
    (hget : ∀ ws', b'.sockets.get ws' = if ws' = ws then some k' else b.sockets.get ws')
    (hk' : q.live = none ∧ k'.finished = true ∨ q.live = some ws ∧ BackendStage.Stands k' q)
    (hconnecting : k'.readyState ≠ .connecting) (hnext : b'.nextSocket = b.nextSocket) (hsocket : b'.socket = q.current)
    (hexchanges : b'.exchanges.length = q.exchanges) (htimers : b'.reconnectTimers.length = q.timers)
    (hcloses : BackendStage.Closes b'.isClosed q) (hstate : b'.state = .connected → ∃ ws, q = .connected ws) : b'.At q := by
  have hsome {ws' : SocketId} {k : BackendSocket} (hk : b'.sockets.get ws' = some k) :
      ws' = ws ∧ k = k' ∨ ws' ≠ ws ∧ b.sockets.get ws' = some k := by
    rw [hget] at hk
    split at hk
    · rename_i hws
      exact Or.inl ⟨hws, (Option.some.inj hk).symm⟩
    · rename_i hws
      exact Or.inr ⟨hws, hk⟩
  refine ⟨?_, ?_, ?_, ?_, hsocket, hexchanges, htimers, hcloses, hstate⟩
  · intro ws' k hk
    rw [hnext]
    rcases hsome hk with ⟨rfl, -⟩ | ⟨-, hk⟩
    · obtain ⟨k₀, hk₀, -⟩ := h.live _ hp
      exact h.fresh _ _ hk₀
    · exact h.fresh _ _ hk
  · intro ws' k hk hlive
    rcases hsome hk with ⟨rfl, rfl⟩ | ⟨hne, hk⟩
    · rcases hk' with ⟨-, hover⟩ | ⟨hq, -⟩
      · exact hover
      · exact absurd hq hlive
    · refine h.others _ _ hk ?_
      rw [hp, ne_eq, Option.some_inj]
      exact fun hws => hne hws.symm
  · intro ws' hlive
    rcases hk' with ⟨hq, -⟩ | ⟨hq, hstands⟩
    · rw [hq] at hlive
      cases hlive
    · rw [hq, Option.some_inj] at hlive
      subst hlive
      exact ⟨k', by rw [hget, if_pos rfl], hstands⟩
  · intro ws' k attempt call hk hu hr
    rcases hsome hk with ⟨rfl, rfl⟩ | ⟨-, hk⟩
    · exact absurd hr hconnecting
    · exact h.connecting _ _ attempt call hk hu hr

/-! ## Credentials and attempts -/

theorem resolveCredential_eq (o : GatewayBackendOptions) (trigger : Trigger) (second : Bool) (b : GatewayBackend) :
    ∃ accessToken outcome, b.resolveCredential o trigger second =
      { b with accessToken, exchanges := b.exchanges ++ [⟨trigger, second, outcome⟩] } := by
  unfold resolveCredential
  split
  · exact ⟨b.accessToken, _, rfl⟩
  · split
    · exact ⟨b.accessToken, _, rfl⟩
    · exact ⟨none, _, rfl⟩

theorem recordFailure_eq (error : AttemptError) (b : GatewayBackend) :
    ∃ failure, b.recordFailure error = { b with failure } := by
  unfold recordFailure
  split
  · exact ⟨b.failure, rfl⟩
  · exact ⟨_, rfl⟩

/-- Whether `establish` comes again when it has thrown. -/
def afterFailure : Trigger → BackendStage
  | .connectCall => .resting
  | .reconnectTimer => .waiting

theorem live_afterFailure (trigger : Trigger) : (afterFailure trigger).live = none := by
  cases trigger <;> rfl

theorem closes_afterFailure (isClosed : Bool) (trigger : Trigger) : BackendStage.Closes isClosed (afterFailure trigger) := by
  cases trigger <;> trivial

theorem exchanges_afterFailure (trigger : Trigger) : (afterFailure trigger).exchanges = 0 := by
  cases trigger <;> rfl

/-- `establish` throws: what `connect` does at the end, or the next timer. -/
theorem establishFailed_eq (o : GatewayBackendOptions) (trigger : Trigger) (error : AttemptError) (b : GatewayBackend) :
    ∃ failure timers reconnectAttempt outbox, timers.length = b.reconnectTimers.length + (afterFailure trigger).timers ∧
      b.establishFailed o trigger error = { b with failure, reconnectTimers := timers, reconnectAttempt, outbox } := by
  obtain ⟨failure, hf⟩ := recordFailure_eq error b
  unfold establishFailed
  split
  · exact ⟨failure, b.reconnectTimers, b.reconnectAttempt, _, rfl, by rw [hf]; rfl⟩
  · refine ⟨failure, _, _, b.outbox, ?_, by rw [hf]; rfl⟩
    rw [List.length_append]
    rfl

variable {o : GatewayBackendOptions}

theorem At.establish (h : b.At .resting) (hclosed : b.isClosed = false) (trigger : Trigger) :
    (b.establish o trigger).At .exchanging := by
  obtain ⟨accessToken, outcome, he⟩ := resolveCredential_eq o trigger false (b.setState .connecting)
  rw [GatewayBackend.establish, he]
  refine h.next rfl rfl rfl rfl h.socket ?_ h.timers hclosed (by simp [setState])
  rw [List.length_append, show (b.setState .connecting).exchanges = b.exchanges from rfl, h.exchanges]
  rfl

theorem At.not_over (h : b.At p) {ws : SocketId} (hp : p.live = some ws) :
    ∃ k, b.sockets.get ws = some k ∧ BackendStage.Stands k p ∧ k.finished = false := by
  obtain ⟨k, hk, hstands⟩ := h.live ws hp
  refine ⟨k, hk, hstands, ?_⟩
  cases p with
  | resting | waiting | exchanging => cases hp
  | attempting _ => exact BackendSocket.not_over_of_inAttempt hstands.1
  | connected _ | leaving _ =>
    obtain ⟨⟨call, hu⟩, hr⟩ := hstands
    simp [BackendSocket.finished, hu, hr]

/-- A backend at rest is at no other stage. -/
theorem At.resting_of_atRest (h : b.At p) (hrest : b.atRest = true) : p = .resting := by
  rw [atRest, Bool.and_eq_true, Bool.and_eq_true, List.all_eq_true] at hrest
  obtain ⟨⟨hexchanges, htimers⟩, hover⟩ := hrest
  have hlive (ws : SocketId) : p.live ≠ some ws := by
    intro hp
    obtain ⟨k, hk, -, hno⟩ := h.not_over hp
    rw [hover k (InsertionMap.mem_values_iff.mpr ⟨ws, hk⟩)] at hno
    cases hno
  cases p with
  | resting => rfl
  | waiting =>
    have := h.timers
    rw [List.isEmpty_iff.mp htimers] at this
    cases this
  | exchanging =>
    have := h.exchanges
    rw [List.isEmpty_iff.mp hexchanges] at this
    cases this
  | attempting ws | connected ws | leaving ws => exact absurd rfl (hlive ws)

theorem At.connect (h : b.At p) (hrest : b.atRest = true) : (b.connect o).At .exchanging := by
  obtain rfl := h.resting_of_atRest hrest
  refine At.establish ?_ rfl _
  exact { h with closes := trivial }

/-- The factory makes a control socket for an attempt. -/
theorem At.attempt (h : b.At .resting) (hclosed : b.isClosed = false) (hstate : b.state ≠ .connected) (call : Establish) :
    (b.attempt call).At (.attempting b.nextSocket) := by
  have hget {ws : SocketId} {k : BackendSocket} (hk : (b.attempt call).sockets.get ws = some k) :
      ws = b.nextSocket ∧ k = ⟨.connecting, .control .opening call⟩ ∨ ws ≠ b.nextSocket ∧ b.sockets.get ws = some k := by
    rcases InsertionMap.get_set_eq_some.mp hk with ⟨rfl, rfl⟩ | ⟨hne, hk⟩
    · exact Or.inl ⟨rfl, rfl⟩
    · exact Or.inr ⟨hne, hk⟩
  refine ⟨?_, ?_, ?_, ?_, rfl, h.exchanges, h.timers, hclosed, fun hs => absurd hs hstate⟩
  · intro ws k hk
    rcases hget hk with ⟨rfl, -⟩ | ⟨-, hk⟩
    · exact Nat.lt_succ_self _
    · exact Nat.lt_succ_of_lt (h.fresh ws k hk)
  · intro ws k hk hlive
    rcases hget hk with ⟨rfl, -⟩ | ⟨-, hk⟩
    · exact absurd rfl hlive
    · exact h.others ws k hk (fun hp => nomatch hp)
  · intro ws hlive
    obtain rfl := Option.some.inj hlive
    exact ⟨_, InsertionMap.get_set_self .., rfl, fun hs => nomatch hs⟩
  · intro ws k attempt call' hk hu hr
    rcases hget hk with ⟨-, rfl⟩ | ⟨-, hk⟩
    · cases hu
      rfl
    · exact h.connecting ws k attempt call' hk hu hr

theorem At.establishFailed (h : b.At .resting) (hstate : b.state ≠ .connected) (trigger : Trigger) (error : AttemptError) :
    (b.establishFailed o trigger error).At (afterFailure trigger) := by
  obtain ⟨failure, timers, reconnectAttempt, outbox, hlength, he⟩ := establishFailed_eq o trigger error b
  rw [he]
  refine h.next rfl (live_afterFailure trigger) rfl rfl h.socket ?_ ?_ (closes_afterFailure _ trigger) hstate
  · rw [exchanges_afterFailure]
    exact h.exchanges
  · rw [hlength, h.timers]
    exact Nat.zero_add _

theorem At.resumeExchange (h : b.At p) (i : Nat) : ∃ q, (b.resumeExchange o i).At q := by
  unfold GatewayBackend.resumeExchange
  split
  · rename_i trigger second outcome hi
    have hpos : 0 < b.exchanges.length := by
      rcases hb : b.exchanges with _ | ⟨x, rest⟩
      · rw [hb] at hi
        cases hi
      · simp
    have hp : p = .exchanging := by
      have := h.exchanges
      cases p <;> first | rfl | (rw [this] at hpos; cases hpos)
    subst hp
    have hone := h.exchanges
    have hstate : b.state ≠ .connected := fun hs => by simpa using h.state hs
    have hi0 : i < b.exchanges.length := by
      rw [List.getElem?_eq_some_iff] at hi
      exact hi.1
    have hrest : ({ b with exchanges := b.exchanges.eraseIdx i } : GatewayBackend).At .resting := by
      refine h.next rfl rfl rfl rfl h.socket ?_ h.timers trivial hstate
      rw [List.length_eraseIdx_of_lt hi0, hone]
      rfl
    dsimp only
    split
    · exact ⟨_, hrest.attempt h.closes hstate _⟩
    · exact ⟨_, hrest.establishFailed hstate trigger _⟩
  · exact ⟨p, h⟩

/-- A socket whose attempt is under way is the live one. -/
theorem At.attempting_of (h : b.At p) {ws : SocketId} {k : BackendSocket} (hk : b.sockets.get ws = some k)
    (ha : k.inAttempt = true) : p = .attempting ws := by
  have hno := BackendSocket.not_over_of_inAttempt ha
  have hlive : p.live = some ws := by
    by_contra hp
    rw [h.others ws k hk hp] at hno
    cases hno
  obtain ⟨k', hk', hstands⟩ := h.live ws hlive
  rw [hk, Option.some_inj] at hk'
  subst hk'
  cases p with
  | resting | waiting | exchanging => cases hlive
  | attempting _ => rw [Option.some.inj hlive]
  | connected _ | leaving _ =>
    obtain ⟨⟨call, hu⟩, -⟩ := hstands
    simp [BackendSocket.inAttempt, hu] at ha

theorem At.connected {ws : SocketId} (h : b.At (.attempting ws)) {r : WebSocketState} {grant : BackendGrant}
    {call : Establish} (hk : b.sockets.get ws = some ⟨r, .control (.ready (some grant)) call⟩) :
    (b.connected ws grant call).At (.connected ws) := by
  obtain ⟨k, hk', hstands⟩ := h.live ws rfl
  rw [hk, Option.some_inj] at hk'
  subst hk'
  have hr : r ≠ .connecting := fun hr => nomatch h.connecting ws _ _ call hk rfl hr
  have hmoves := (moves_onSocket hk (fun k => { k with use := .control .established call })).get
  have hat (output : List BackendOutput) : ({ b.setUse ws (.control .established call) with
      backendId := grant.backendId
      epoch := grant.epoch
      heartbeatTimers := b.heartbeatTimers ++ [ws]
      heartbeatTimer := some ws
      reconnectAttempt := 0
      failure := none
      state := .connected
      outbox := output } : GatewayBackend).At (.connected ws) :=
    h.turn rfl hmoves (Or.inr ⟨rfl, ⟨call, rfl⟩, hstands.2 rfl⟩) hr rfl h.socket h.exchanges h.timers h.closes
      (fun _ => ⟨ws, rfl⟩)
  unfold GatewayBackend.connected
  dsimp only
  split
  · exact hat _
  · exact hat _

theorem At.attemptFailed {ws : SocketId} (h : b.At (.attempting ws)) {r : WebSocketState} {call : Establish}
    {error : AttemptError} (hk : b.sockets.get ws = some ⟨r, .control (.failed error) call⟩) :
    ∃ q, (b.attemptFailed o ws call error).At q := by
  have hstate : b.state ≠ .connected := fun hs => by simpa using h.state hs
  have hmoves := ((moves_onSocket hk (fun k => { k with use := .control .ended call })).onSocket
    (fun k => { k with readyState := k.readyState.close })).get
  have hrest : ({ (b.setUse ws (.control .ended call)).closeSocket ws with socket := none } : GatewayBackend).At .resting :=
    h.turn rfl hmoves (Or.inl ⟨rfl, rfl⟩) (WebSocketState.close_ne_connecting r) rfl rfl h.exchanges h.timers trivial
      (fun hs => absurd hs hstate)
  have hs : b.socket = some ws := h.socket
  unfold GatewayBackend.attemptFailed
  simp only [hs, if_true]
  split
  · obtain ⟨accessToken, outcome, he⟩ := resolveCredential_eq o call.trigger true
      { (b.setUse ws (.control .ended call)).closeSocket ws with socket := none, accessToken := none }
    refine ⟨.exchanging, ?_⟩
    have hsame : ({ (b.setUse ws (.control .ended call)).closeSocket ws with
        socket := none, accessToken := none } : GatewayBackend).At .resting := hrest.of_same ⟨rfl, rfl, rfl, rfl, rfl, rfl, rfl⟩
    have hnext : ({ (b.setUse ws (.control .ended call)).closeSocket ws with
        socket := none, accessToken := accessToken,
        exchanges := b.exchanges ++ [⟨call.trigger, true, outcome⟩] } : GatewayBackend).At .exchanging := by
      refine hsame.next rfl rfl rfl rfl rfl ?_ h.timers h.closes hstate
      rw [List.length_append, h.exchanges]
      rfl
    exact he ▸ hnext
  · exact ⟨_, hrest.establishFailed hstate call.trigger error⟩

theorem At.resume (h : b.At p) (ws : SocketId) : ∃ q, (b.resume o ws).At q := by
  unfold GatewayBackend.resume
  split
  · rename_i r call hk
    refine ⟨p, (h.quiet (Or.inr ⟨ws, _, _, hk, moves_onSocket hk _, ?_⟩)).of_same (same_send _ _ _)⟩
    exact BackendSocket.progress_attempt rfl rfl (fun hs => (nomatch hs)) (fun hr => nomatch h.connecting ws _ _ call hk rfl hr)
  · rename_i r call hk
    refine ⟨p, h.quiet (Or.inr ⟨ws, _, _, hk, moves_onSocket hk _, ?_⟩)⟩
    exact BackendSocket.progress_attempt rfl rfl (fun hs => (nomatch hs)) (fun hr => nomatch h.connecting ws _ _ call hk rfl hr)
  · rename_i r grant call hk
    obtain rfl := h.attempting_of hk rfl
    exact ⟨_, h.connected hk⟩
  · rename_i r error call hk
    obtain rfl := h.attempting_of hk rfl
    exact h.attemptFailed hk
  · rename_i r offer handler hk
    refine ⟨p, (h.quiet (Or.inr ⟨ws, _, _, hk, moves_onSocket hk _, ?_⟩)).of_same (same_emit _ _)⟩
    exact BackendSocket.progress_dial ..
  · rename_i r offer handler hk
    refine ⟨p, (h.quiet (Or.inr ⟨ws, _, _, hk, moves_onSocket hk _, ?_⟩)).of_same (same_reject _ _)⟩
    exact BackendSocket.progress_dial ..
  · exact ⟨p, h⟩

/-! ## The end of a session -/

/-- The session of a closed socket ends. -/
theorem At.handleClose {ws : SocketId} (hp : p = .connected ws ∨ p = .leaving ws) (h : b.At p) {r : WebSocketState}
    {call : Establish} (hk : b.sockets.get ws = some ⟨r, .control .established call⟩) (code : Nat) :
    ∃ q, ((b.setReadyState ws .closed).handleClose o ws code).At q := by
  have hlive : p.live = some ws := by rcases hp with rfl | rfl <;> rfl
  have hex : b.exchanges.length = 0 := by rw [h.exchanges]; rcases hp with rfl | rfl <;> rfl
  have htimers : b.reconnectTimers.length = 0 := by rw [h.timers]; rcases hp with rfl | rfl <;> rfl
  have hmoves := (moves_onSocket hk (fun k => { k with readyState := .closed })).get
  have hrest {b' : GatewayBackend} (hsockets : b'.sockets = (b.setReadyState ws .closed).sockets)
      (hnext : b'.nextSocket = b.nextSocket) (hsocket : b'.socket = none) (hexchanges : b'.exchanges = b.exchanges)
      (htimers' : b'.reconnectTimers.length = 0) (hstate : b'.state ≠ .connected) : b'.At .resting :=
    h.turn hlive (by rw [hsockets]; exact hmoves) (Or.inl ⟨rfl, rfl⟩) (by simp) hnext hsocket (by rw [hexchanges, hex]; rfl)
      htimers' trivial (fun hs => absurd hs hstate)
  unfold GatewayBackend.handleClose
  split
  · rename_i hsocket
    refine ⟨_, hrest rfl rfl ?_ rfl htimers ?_⟩
    · rcases hp with rfl | rfl
      · exact absurd h.socket hsocket
      · exact h.socket
    · intro hs
      obtain ⟨ws', hq⟩ := h.state hs
      rcases hp with rfl | rfl
      · exact hsocket h.socket
      · cases hq
  · dsimp only
    split
    · exact ⟨_, hrest rfl rfl rfl rfl htimers (by simp [setState])⟩
    · split
      · exact ⟨_, hrest rfl rfl rfl rfl htimers (by simp [setState])⟩
      · refine ⟨.waiting, ?_⟩
        have hbase : ({ (b.setReadyState ws .closed) with socket := none, state := .connecting } : GatewayBackend).At .resting :=
          hrest rfl rfl rfl rfl htimers (by simp)
        refine hbase.next rfl rfl rfl rfl rfl ?_ ?_ trivial (by simp [setState, scheduleReconnect])
        · exact hex
        · show (b.reconnectTimers ++ _).length = _
          rw [List.length_append, htimers]
          rfl

theorem At.socketClosed (h : b.At p) (ws : SocketId) (code : Nat) (hsettled : b.settled ws = false) :
    ∃ q, (b.socketClosed o ws code).At q := by
  unfold GatewayBackend.socketClosed
  split
  · exact ⟨p, h⟩
  · rename_i r use hr hk
    have hm := moves_onSocket hk (fun k => { k with readyState := .closed })
    dsimp only
    split
    · exact ⟨p, h.quiet (Or.inr ⟨ws, _, _, hk, hm.onSocket _,
        BackendSocket.progress_attempt rfl rfl (fun hs => (nomatch hs)) (by simp)⟩)⟩
    · rename_i call
      obtain ⟨q, hq⟩ : ∃ q, p = q ∧ (q = .connected ws ∨ q = .leaving ws) := by
        have hlive : p.live = some ws := by
          by_contra hp
          have hover := h.others ws _ hk hp
          simp only [BackendSocket.finished, decide_eq_true_eq] at hover
          exact hr hover
        obtain ⟨k, hk', hstands⟩ := h.live ws hlive
        rw [hk, Option.some_inj] at hk'
        subst hk'
        cases p with
        | resting | waiting | exchanging => cases hlive
        | attempting _ => exact nomatch hstands.1
        | connected _ => exact ⟨_, rfl, Or.inl (congrArg _ (Option.some.inj hlive))⟩
        | leaving _ => exact ⟨_, rfl, Or.inr (congrArg _ (Option.some.inj hlive))⟩
      obtain ⟨rfl, hp⟩ := hq
      exact h.handleClose hp hk code
    · rename_i hestablished
      refine ⟨p, h.quiet (Or.inr ⟨ws, _, _, hk, hm, BackendSocket.progress_readyState (fun _ => rfl) (by simp) ?_ ?_⟩)⟩
      · intro hs
        rw [settled, hk, Option.any_some] at hsettled
        cases hs.symm.trans hsettled
      · intro call hu
        exact absurd hu (hestablished call)
  · exact ⟨p, h⟩

/-- `close` between attempts. -/
theorem At.close (h : b.At p) (hattempting : b.attempting = false) : ∃ q, b.close.At q := by
  rw [GatewayBackend.attempting, Bool.or_eq_false_iff, Bool.not_eq_false', List.any_eq_false] at hattempting
  obtain ⟨hexchanges, hattempt⟩ := hattempting
  unfold GatewayBackend.close
  dsimp only [clearHeartbeat]
  cases p with
  | resting =>
    rw [h.socket]
    exact ⟨.resting, h.next rfl rfl rfl rfl rfl h.exchanges h.timers trivial (fun hs => nomatch hs)⟩
  | waiting =>
    rw [h.socket]
    exact ⟨.waiting, h.next rfl rfl rfl rfl rfl h.exchanges h.timers trivial (fun hs => nomatch hs)⟩
  | exchanging =>
    have := h.exchanges
    rw [List.isEmpty_iff.mp hexchanges] at this
    cases this
  | attempting ws =>
    obtain ⟨k, hk, hstands, -⟩ := h.not_over rfl
    exact absurd hstands.1 (hattempt k (InsertionMap.mem_values_iff.mpr ⟨ws, hk⟩))
  | connected ws =>
    rw [h.socket]
    obtain ⟨⟨r, use⟩, hk, ⟨call, hu⟩, hr⟩ := h.live ws rfl
    simp only at hu
    subst hu
    have hmoves := (moves_onSocket hk (fun k => { k with readyState := k.readyState.close })).get
    exact ⟨.leaving ws, h.turn rfl hmoves (Or.inr ⟨rfl, ⟨call, rfl⟩, fun hc => hr (WebSocketState.close_eq_closed.mp hc)⟩)
      (WebSocketState.close_ne_connecting r) rfl rfl h.exchanges h.timers rfl (fun hs => nomatch hs)⟩
  | leaving ws =>
    rw [h.socket]
    exact ⟨.leaving ws, { h with closes := rfl, socket := rfl, state := fun hs => nomatch hs }⟩

theorem At.reconnectTimer (h : b.At p) (i : Nat) : ∃ q, (b.reconnectTimer o i).At q := by
  unfold GatewayBackend.reconnectTimer
  split
  · rename_i hi
    have hp : p = .waiting := by
      have htimers := h.timers
      cases p <;> first | rfl | (rw [htimers] at hi; cases hi)
    subst hp
    have hstate : b.state ≠ .connected := fun hs => by simpa using h.state hs
    have hrest : ({ b with reconnectTimers := b.reconnectTimers.eraseIdx i } : GatewayBackend).At .resting := by
      refine h.next rfl rfl rfl rfl h.socket h.exchanges ?_ trivial hstate
      rw [List.length_eraseIdx_of_lt hi, h.timers]
      rfl
    dsimp only
    split
    · exact ⟨_, hrest⟩
    · rename_i hopen
      exact ⟨_, hrest.establish (by simpa using hopen) _⟩
  · exact ⟨p, h⟩

/-! ## Runs -/

/-- The application calls `connect` at rest and `close` between attempts, and no offer and no close of the socket comes between
`peer_ready` and what follows it in the handshake. -/
def orderly (b : GatewayBackend) : BackendEvent → Bool
  | .connect => b.atRest
  | .close => !b.attempting
  | .message ws (some (.channelOffer _ _ _ _ _)) => !b.settled ws
  | .closed ws _ => !b.settled ws
  | _ => true

theorem At.exchanged (h : b.At p) (i : Nat) (response : ExchangeResponse) : (b.exchanged i response).At p := by
  unfold GatewayBackend.exchanged
  split
  · have hset (x : Resolving) : (b.exchanges.set i x).length = p.exchanges := by rw [List.length_set, h.exchanges]
    split
    · exact { h with exchanges := hset _ }
    · exact { h with exchanges := hset _ }
  · exact h

theorem At.step (h : b.At p) {e : BackendEvent} (he : b.orderly e = true) : ∃ q, (b.step o e).At q := by
  have hq : b.quiet.At p := h.of_same ⟨rfl, rfl, rfl, rfl, rfl, rfl, rfl⟩
  cases e with
  | connect => exact ⟨_, hq.connect he⟩
  | close =>
    have hattempting : b.attempting = false := by simpa [orderly] using he
    exact hq.close hattempting
  | onChannel kind handler => exact ⟨p, hq.of_same ⟨rfl, rfl, rfl, rfl, rfl, rfl, rfl⟩⟩
  | onAnyChannel handler => exact ⟨p, hq.of_same ⟨rfl, rfl, rfl, rfl, rfl, rfl, rfl⟩⟩
  | advance ms => exact ⟨p, hq.of_same ⟨rfl, rfl, rfl, rfl, rfl, rfl, rfl⟩⟩
  | exchanged i response => exact ⟨p, hq.exchanged i response⟩
  | resumeExchange i => exact hq.resumeExchange i
  | opened ws => exact ⟨p, hq.quiet (quiet_socketOpened _ ws)⟩
  | error ws => exact ⟨p, hq.quiet (quiet_socketError _ ws)⟩
  | message ws message => exact ⟨p, hq.socketMessage ws message⟩
  | closed ws code =>
    have hsettled : b.settled ws = false := by simpa [orderly] using he
    exact hq.socketClosed ws code hsettled
  | readyTimeout ws => exact ⟨p, hq.quiet (quiet_readyTimeout _ hq.connecting ws)⟩
  | resume ws => exact hq.resume ws
  | reconnectTimer i => exact hq.reconnectTimer i
  | heartbeat ws => exact ⟨p, hq.of_same (same_heartbeat _ ws)⟩

theorem at_init : init.At .resting :=
  { fresh := fun _ _ hk => nomatch hk
    others := fun _ _ hk => nomatch hk
    live := fun _ hp => nomatch hp
    connecting := fun _ _ _ _ hk => nomatch hk
    socket := rfl
    exchanges := rfl
    timers := rfl
    closes := trivial
    state := fun hs => nomatch hs }

/-- An orderly run leaves the backend at one stage. -/
theorem at_run (o : GatewayBackendOptions) :
    ∀ es, (backend o).Meets (fun b e => b.orderly e = true) es → ∃ p, ((backend o).run es).At p :=
  EventMachine.Meets.invariant (I := fun b => ∃ p, At p b) (J := fun _ => True) (fun _ => trivial) ⟨_, at_init⟩
    (fun _ _ _ ⟨_, h⟩ he => h.step he)

end GatewayBackend

end ZclaudiaGateway
