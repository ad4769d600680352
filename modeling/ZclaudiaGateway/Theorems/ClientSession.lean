import ZclaudiaGateway.Lemmas.ClientOps
import ZclaudiaGateway.Lemmas.Sample

/-!
# One session of the client

The client means to have one live control socket, to leave none open that it gave up and to ignore whatever a superseded one
still does. It keeps to that in every run in which no handshake fails while its socket is open, no reconnect timer fires while
the current socket is open, and a superseded socket no longer does any of the things the code does not tie to a socket.
-/

namespace ZclaudiaGateway

namespace GatewayClient

/-! ## One session at a time -/

/-- A control socket that is open and whose events are routed. -/
def Live (c : GatewayClient) (ws : SocketId) : Prop :=
  ∃ trigger, c.sockets.get ws = some ⟨.open_, .control .established trigger⟩

/-- The handshake on the socket has failed, or the client has given it up for another socket or for none. -/
def Dropped (c : GatewayClient) (ws : SocketId) (k : ClientSocket) : Prop :=
  c.sockets.get ws = some k ∧
    ∃ attempt trigger, k.use = .control attempt trigger ∧
      match attempt with
      | .failed | .ended => True
      | .established => False
      | _ => c.socket ≠ some ws

/-- There is one live session at most, and no dropped handshake leaves its socket open. -/
structure OneSession (c : GatewayClient) : Prop where
  live : ∀ ws ws', c.Live ws → c.Live ws' → ws = ws'
  dropped : ∀ ws k, c.Dropped ws k → k.readyState ≠ .open_

end GatewayClient

/-- The socket the event is of. -/
def ClientEvent.socket : ClientEvent → Option SocketId
  | .opened ws | .error ws | .message ws _ | .closed ws | .readyTimeout ws | .resume ws => some ws
  | _ => none

namespace GatewayClient

/-- A control socket that is not the client's current one. -/
def Superseded (c : GatewayClient) (ws : SocketId) : Prop :=
  c.socket ≠ some ws ∧ ∃ k attempt trigger, c.sockets.get ws = some k ∧ k.use = .control attempt trigger

/-- The state, the current socket, the pending operation, the channels and the reconnect schedule are the same. -/
structure SameSession (c c' : GatewayClient) : Prop where
  state : c'.state = c.state
  socket : c'.socket = c.socket
  pendingOp : c'.pendingOp = c.pendingOp
  channels : c'.channels = c.channels
  reconnectTimers : c'.reconnectTimers = c.reconnectTimers
  reconnectAttempt : c'.reconnectAttempt = c.reconnectAttempt

/-- An event of a superseded socket changes nothing of the session. -/
def Ignores (o : GatewayClientOptions) (c : GatewayClient) (e : ClientEvent) : Prop :=
  ∀ ws, e.socket = some ws → c.Superseded ws → c.SameSession (c.step o e)

/-! ## Where the code is not tied to the socket -/

/-- The message would settle the pending operation or close a channel of the client. -/
def Addressed (c : GatewayClient) : GatewayToPeer → Prop
  | .channelClosed channelId _ => c.channels.has channelId = true
  | .gatewayError _ _ => c.pendingOp.isSome = true
  | message => ∃ op, c.pendingOp = some op ∧ message.replyType = some op.caller.expect

/-- The client is closed and holds nothing that a close could take from it. -/
structure AtRest (c : GatewayClient) : Prop where
  state : c.state = .closed
  pendingOp : c.pendingOp = none
  channels : c.channels.entries = []

/-- The event is one of these:
- the handshake of an open socket is refused or times out;
- a reconnect timer fires while the current socket is open;
- a superseded socket opens;
- a superseded socket whose events are routed closes while the client is not at rest, or brings a message for its pending
  operation or one of its channels;
- the handshake of a superseded socket succeeds while the client is not freshly connected, or the failure of one that a
  reconnect timer began reaches it. -/
def Unguarded (c : GatewayClient) : ClientEvent → Prop
  | .readyTimeout ws => ∃ trigger, c.sockets.get ws = some ⟨.open_, .control .awaitingReady trigger⟩
  | .reconnectTimer i =>
    i < c.reconnectTimers.length ∧ c.userClosed = false ∧
      ∃ ws k, c.socket = some ws ∧ c.sockets.get ws = some k ∧ k.readyState = .open_
  | .opened ws =>
    c.socket ≠ some ws ∧ ∃ attempt trigger, c.sockets.get ws = some ⟨.connecting, .control attempt trigger⟩
  | .closed ws =>
    c.socket ≠ some ws ∧ ¬ c.AtRest ∧
      ∃ k trigger, c.sockets.get ws = some k ∧ k.readyState ≠ .closed ∧ k.use = .control .established trigger
  | .message ws (some message) =>
    (∃ trigger code text, message = .gatewayError code text ∧
      c.sockets.get ws = some ⟨.open_, .control .awaitingReady trigger⟩) ∨
    (c.socket ≠ some ws ∧ c.Addressed message ∧
      ∃ k trigger, c.sockets.get ws = some k ∧ (k.readyState = .open_ ∨ k.readyState = .closing) ∧
        k.use = .control .established trigger)
  | .resume ws =>
    c.socket ≠ some ws ∧
      ∃ k, c.sockets.get ws = some k ∧
        (k.use = .control .failed .reconnectTimer ∨
          (¬ (c.state = .connected ∧ c.reconnectAttempt = 0) ∧
            ∃ peerSessionId items trigger, k.use = .control (.ready peerSessionId items) trigger))
  | _ => False

/-! ## The invariant -/

/-- What every run keeps: a socket that is still connecting awaits its opening, numbers are fresh, and a client that is neither
connecting nor connected has no socket. -/
structure Wired (c : GatewayClient) : Prop where
  connecting : ∀ ws k attempt trigger, c.sockets.get ws = some k → k.use = .control attempt trigger →
    k.readyState = .connecting → attempt = .opening
  fresh : ∀ ws k, c.sockets.get ws = some k → ws < c.nextSocket
  unconnected : c.state = .idle ∨ c.state = .closed → c.socket = none

/-- An open control socket is the current one, and its handshake has not failed. -/
def OpenIsCurrent (c : GatewayClient) : Prop :=
  ∀ ws k attempt trigger, c.sockets.get ws = some k → k.use = .control attempt trigger → k.readyState = .open_ →
    c.socket = some ws ∧ match attempt with
      | .failed | .ended => False
      | _ => True

variable {c c' : GatewayClient}

/-! ### What keeps it -/

theorem Wired.of_eq (h : c.Wired) (hsockets : c'.sockets = c.sockets) (hnext : c'.nextSocket = c.nextSocket)
    (hsocket : c'.socket = c.socket) (hstate : c'.state = c.state) : c'.Wired :=
  ⟨by rw [hsockets]; exact h.connecting, by rw [hsockets, hnext]; exact h.fresh,
    by rw [hstate, hsocket]; exact h.unconnected⟩

theorem Wired.of_session (h : c.Wired) (hs : c'.session = c.session) : c'.Wired :=
  h.of_eq (congrArg SessionPart.sockets hs) (congrArg SessionPart.nextSocket hs) (congrArg SessionPart.socket hs)
    (congrArg SessionPart.state hs)

theorem OpenIsCurrent.of_eq (h : c.OpenIsCurrent) (hsockets : c'.sockets = c.sockets) (hsocket : c'.socket = c.socket) :
    c'.OpenIsCurrent := by
  unfold OpenIsCurrent
  rw [hsockets, hsocket]
  exact h

theorem OpenIsCurrent.of_session (h : c.OpenIsCurrent) (hs : c'.session = c.session) : c'.OpenIsCurrent :=
  h.of_eq (congrArg SessionPart.sockets hs) (congrArg SessionPart.socket hs)

theorem Wired.onSocket (h : c.Wired) {ws : SocketId} {f : ClientSocket → ClientSocket}
    (hf : ∀ k, c.sockets.get ws = some k → ∀ attempt trigger, (f k).use = .control attempt trigger →
      (f k).readyState = .connecting → attempt = .opening) : (c.onSocket ws f).Wired := by
  refine ⟨?_, ?_, h.unconnected⟩
  · intro ws' k' attempt trigger hk' huse hr
    obtain ⟨k, hk, rfl⟩ := get_onSocket hk'
    split at huse
    · rename_i hws
      subst hws
      rw [if_pos rfl] at hr
      exact hf k hk attempt trigger huse hr
    · rename_i hws
      rw [if_neg hws] at hr
      exact h.connecting ws' k attempt trigger hk huse hr
  · intro ws' k' hk'
    obtain ⟨k, hk, -⟩ := get_onSocket hk'
    exact h.fresh ws' k hk

theorem OpenIsCurrent.onSocket (h : c.OpenIsCurrent) {ws : SocketId} {f : ClientSocket → ClientSocket}
    (hf : ∀ k, c.sockets.get ws = some k → ∀ attempt trigger, (f k).use = .control attempt trigger →
      (f k).readyState = .open_ → c.socket = some ws ∧ match attempt with
        | .failed | .ended => False
        | _ => True) : (c.onSocket ws f).OpenIsCurrent := by
  intro ws' k' attempt trigger hk' huse hr
  obtain ⟨k, hk, rfl⟩ := get_onSocket hk'
  split at huse
  · rename_i hws
    subst hws
    rw [if_pos rfl] at hr
    exact hf k hk attempt trigger huse hr
  · rename_i hws
    rw [if_neg hws] at hr
    exact h ws' k attempt trigger hk huse hr

/-- Closing sockets keeps the invariant, whatever becomes of the rest of the client. -/
theorem Wired.closes (h : c.Wired) (hs : c.sockets.Pointwise ClientSocket.Closes c'.sockets)
    (hn : c'.nextSocket = c.nextSocket) (hu : c'.state = .idle ∨ c'.state = .closed → c'.socket = none) : c'.Wired := by
  refine ⟨?_, ?_, hu⟩
  · intro ws k' attempt trigger hk' huse hr
    obtain ⟨k, hk, hc⟩ := hs.some_get hk'
    exact h.connecting ws k attempt trigger hk (hc.use ▸ huse) (hc.readyState (Or.inl rfl) hr)
  · intro ws k' hk'
    obtain ⟨k, hk, -⟩ := hs.some_get hk'
    rw [hn]
    exact h.fresh ws k hk

theorem OpenIsCurrent.closes (h : c.OpenIsCurrent) (hs : c.sockets.Pointwise ClientSocket.Closes c'.sockets)
    (hcur : ∀ ws k', c'.sockets.get ws = some k' → k'.readyState = .open_ → c.socket = some ws → c'.socket = some ws) :
    c'.OpenIsCurrent := by
  intro ws k' attempt trigger hk' huse hr
  obtain ⟨k, hk, hc⟩ := hs.some_get hk'
  obtain ⟨hsocket, hattempt⟩ := h ws k attempt trigger hk (hc.use ▸ huse) (hc.readyState (Or.inr rfl) hr)
  exact ⟨hcur ws k' hk' hr hsocket, hattempt⟩

theorem Wired.create (h : c.Wired) {use : SocketUse}
    (huse : ∀ attempt trigger, use = .control attempt trigger → attempt = .opening) : (c.create use).Wired := by
  refine ⟨?_, ?_, h.unconnected⟩
  · intro ws k attempt trigger hk hu hr
    rcases get_create hk with ⟨-, rfl⟩ | hk
    · exact huse attempt trigger hu
    · exact h.connecting ws k attempt trigger hk hu hr
  · intro ws k hk
    rcases get_create hk with ⟨rfl, -⟩ | hk
    · exact Nat.lt_succ_self _
    · exact Nat.lt_succ_of_lt (h.fresh ws k hk)

theorem OpenIsCurrent.create (h : c.OpenIsCurrent) {use : SocketUse} : (c.create use).OpenIsCurrent := by
  intro ws k attempt trigger hk hu hr
  rcases get_create hk with ⟨-, rfl⟩ | hk
  · exact absurd hr (by simp)
  · exact h ws k attempt trigger hk hu hr

/-! ### Every run is wired -/

theorem Wired.establish (h : c.Wired) (trigger : Trigger) : (c.establish trigger).Wired := by
  have hc : (c.create (.control .opening trigger)).Wired := h.create (fun attempt trigger hu => by cases hu; rfl)
  exact ⟨hc.connecting, hc.fresh, fun hs => by rcases hs with hs | hs <;> exact absurd hs (by simp [GatewayClient.establish, GatewayClient.create, setState])⟩

theorem Wired.scheduleReconnect (h : c.Wired) (o : GatewayClientOptions) : (c.scheduleReconnect o).Wired :=
  ⟨h.connecting, h.fresh, h.unconnected⟩

theorem Wired.setAttempt (h : c.Wired) {ws : SocketId} {attempt : Attempt} {trigger : Trigger}
    (hr : ∀ k, c.sockets.get ws = some k → k.readyState ≠ .connecting) : (c.setAttempt ws attempt trigger).Wired :=
  h.onSocket (fun k hk _ _ _ hc => absurd hc (hr k hk))

/-- A socket whose attempt has left its first phase is not connecting. -/
theorem Wired.not_connecting (h : c.Wired) {ws : SocketId} {r : WebSocketState} {attempt : Attempt} {trigger : Trigger}
    (hk : c.sockets.get ws = some ⟨r, .control attempt trigger⟩) (ha : attempt ≠ .opening) :
    ∀ k, c.sockets.get ws = some k → k.readyState ≠ .connecting := by
  intro k hk' hr
  rw [hk, Option.some_inj] at hk'
  subst hk'
  exact ha (h.connecting ws _ attempt trigger hk rfl hr)

theorem Wired.handleClose (h : c.Wired) (o : GatewayClientOptions) : (c.handleClose o).Wired := by
  obtain ⟨sockets, hs, he⟩ := session_handleClose o c
  have hsockets : (c.handleClose o).sockets = sockets := congrArg SessionPart.sockets he
  have hsocket : (c.handleClose o).socket = none := congrArg SessionPart.socket he
  exact h.closes (hsockets ▸ hs) (congrArg SessionPart.nextSocket he) (fun _ => hsocket)

theorem Wired.close (h : c.Wired) : c.close.Wired := by
  obtain ⟨sockets, hs, -, he⟩ := session_close c
  have hsockets : c.close.sockets = sockets := congrArg SessionPart.sockets he
  have hsocket : c.close.socket = none := congrArg SessionPart.socket he
  exact h.closes (hsockets ▸ hs) (congrArg SessionPart.nextSocket he) (fun _ => hsocket)

theorem Wired.closeSocket (h : c.Wired) (ws : SocketId) : (c.closeSocket ws).Wired := by
  refine h.onSocket (fun k _ attempt trigger _ hr => ?_)
  cases hk : k.readyState <;> simp [WebSocketState.close, hk] at hr

theorem Wired.routeMessage (h : c.Wired) (message : GatewayToPeer) : (c.routeMessage message).Wired := by
  unfold GatewayClient.routeMessage
  split
  · exact h.of_session rfl
  · split
    · exact h.of_session (session_deliver _ _ _)
    · exact h
  · split
    · refine Wired.closeSocket ?_ _
      exact h.of_eq rfl rfl rfl rfl
    · exact h
  all_goals first
    | exact h.of_session (session_settlePending _ _ _)
    | exact h.of_session (session_failPending _ _)
    | exact h

theorem Wired.socketOpened (h : c.Wired) (ws : SocketId) : (c.socketOpened ws).Wired := by
  unfold GatewayClient.socketOpened
  split
  · rename_i use hk
    have ho : (c.setReadyState ws .open_).Wired := h.onSocket (fun k _ _ _ _ hr => absurd hr (by simp))
    have hopen : ∀ k, (c.setReadyState ws .open_).sockets.get ws = some k → k.readyState ≠ .connecting := by
      intro k hk'
      obtain ⟨k', -, rfl⟩ := get_onSocket hk'
      simp
    dsimp only
    split
    · exact ho.setAttempt hopen
    · exact ho.onSocket (fun k _ _ _ hu => nomatch hu)
    · exact ho
  · exact h

theorem Wired.socketError (h : c.Wired) (ws : SocketId) : (c.socketError ws).Wired := by
  unfold GatewayClient.socketError
  split
  · exact h
  · have hclosing : ∀ k, (c.closeSocket ws).sockets.get ws = some k → k.readyState ≠ .connecting := by
      intro k hk
      obtain ⟨k', -, rfl⟩ := get_onSocket hk
      cases hr : k'.readyState <;> simp [WebSocketState.close]
    dsimp only
    split
    · exact (h.closeSocket ws).setAttempt hclosing
    · exact (h.closeSocket ws).onSocket (fun k _ _ _ hu => by cases hu)
    · exact h.closeSocket ws
  · exact h

theorem Wired.socketMessage (h : c.Wired) (ws : SocketId) (message : Option GatewayToPeer) :
    (c.socketMessage ws message).Wired := by
  unfold GatewayClient.socketMessage
  split
  all_goals try exact h
  all_goals
    rename_i attempt trigger message hk
    split
    · exact h.setAttempt (h.not_connecting hk nofun)
    · exact h.setAttempt (h.not_connecting hk nofun)
    · exact h.routeMessage _
    · exact h

theorem Wired.socketClosed (h : c.Wired) (o : GatewayClientOptions) (ws : SocketId) : (c.socketClosed o ws).Wired := by
  unfold GatewayClient.socketClosed
  split
  · exact h
  · have hc : (c.setReadyState ws .closed).Wired := h.onSocket (fun k _ _ _ _ hr => absurd hr (by simp))
    dsimp only
    split
    · exact hc.handleClose o
    · exact hc.of_eq rfl rfl rfl rfl
    · exact hc
  · exact h

theorem Wired.readyTimeout (h : c.Wired) (ws : SocketId) : (c.readyTimeout ws).Wired := by
  unfold GatewayClient.readyTimeout
  split
  · rename_i r trigger hk
    exact h.setAttempt (h.not_connecting hk nofun)
  · exact h

theorem Wired.resume (h : c.Wired) (o : GatewayClientOptions) (ws : SocketId) : (c.resume o ws).Wired := by
  unfold GatewayClient.resume
  split
  · rename_i r trigger hk
    exact (h.setAttempt (h.not_connecting hk nofun)).of_session (session_send _ _ _)
  · rename_i r peerSessionId items trigger hk
    have ha : (c.setAttempt ws .established trigger).Wired := h.setAttempt (h.not_connecting hk nofun)
    refine Wired.of_session ?_ (session_resubscribeFrom _ _ _)
    exact ⟨ha.connecting, ha.fresh, fun hs => by rcases hs with hs | hs <;> exact absurd hs (by simp)⟩
  · rename_i r trigger hk
    have ha : (c.setAttempt ws .ended trigger).Wired := h.setAttempt (h.not_connecting hk nofun)
    cases trigger
    · exact ha.of_session (session_emit _ _)
    · exact ha.scheduleReconnect o
  · rename_i r target channelId hk
    have hd : (c.setDial ws target channelId .up).Wired := h.onSocket (fun k _ _ _ hu => nomatch hu)
    exact hd.of_eq rfl rfl rfl rfl
  · exact h.onSocket (fun k _ _ _ hu => nomatch hu)
  · exact h

theorem Wired.resumeOp (h : c.Wired) : c.resumeOp.Wired := by
  unfold GatewayClient.resumeOp
  split
  · rename_i op outcome hop
    have hc : ({ c with settledOp := none } : GatewayClient).Wired := h.of_eq rfl rfl rfl rfl
    dsimp only
    split
    · exact hc.create (fun attempt trigger hu => nomatch hu)
    · exact hc.of_session (session_addHandler _ _ _ _)
    · exact hc.of_session (session_resubscribeFrom _ _ _)
    · exact hc
  · exact h

theorem Wired.step (h : c.Wired) (o : GatewayClientOptions) (e : ClientEvent) : (c.step o e).Wired := by
  have hq : c.quiet.Wired := h.of_eq rfl rfl rfl rfl
  unfold GatewayClient.step handle
  split
  · unfold connect
    split
    · exact hq.of_session (session_emit _ _)
    · refine Wired.establish ?_ _
      exact h.of_eq rfl rfl rfl rfl
  · exact hq.close
  · exact hq.of_session (session_controlOp _ _)
  · exact hq.of_session (session_controlOp _ _)
  · exact hq.of_session (session_unsubscribe _ _ _ _)
  · exact hq.socketOpened _
  · exact hq.socketError _
  · exact hq.socketMessage _ _
  · exact hq.socketClosed o _
  · exact hq.readyTimeout _
  · exact hq.resume o _
  · unfold reconnectTimer
    split
    · dsimp only
      split
      · exact h.of_eq rfl rfl rfl rfl
      · refine Wired.establish ?_ _
        exact h.of_eq rfl rfl rfl rfl
    · exact hq
  · exact hq.of_session (session_runOp _)
  · exact hq.of_session (session_opTimeout _ _)
  · exact hq.resumeOp

theorem wired_init : GatewayClient.init.Wired :=
  ⟨fun _ _ _ _ hk => (nomatch hk), fun _ _ hk => (nomatch hk), fun _ => rfl⟩

theorem wired_run (o : GatewayClientOptions) (es : List ClientEvent) : ((client o).run es).Wired :=
  (client o).invariant wired_init (fun _ e h => h.step o e) es

/-! ### Every guarded run has its open socket for the current one -/

theorem OpenIsCurrent.setAttempt (h : c.OpenIsCurrent) {ws : SocketId} {r : WebSocketState} {attempt attempt' : Attempt}
    {trigger trigger' : Trigger} (hk : c.sockets.get ws = some ⟨r, .control attempt trigger⟩)
    (ha : r = .open_ → attempt' ≠ .failed ∧ attempt' ≠ .ended) : (c.setAttempt ws attempt' trigger').OpenIsCurrent := by
  refine h.onSocket (fun k hk' a t hu hr => ?_)
  rw [hk, Option.some_inj] at hk'
  subst hk'
  cases hu
  refine ⟨(h ws _ attempt trigger hk rfl hr).1, ?_⟩
  have hne := ha hr
  cases attempt' with
  | failed => exact absurd rfl hne.1
  | ended => exact absurd rfl hne.2
  | _ => trivial

theorem OpenIsCurrent.establish (h : c.OpenIsCurrent)
    (hcur : ∀ ws k, c.socket = some ws → c.sockets.get ws = some k → k.readyState ≠ .open_) (trigger : Trigger) :
    (c.establish trigger).OpenIsCurrent := by
  intro ws k attempt trigger' hk hu hr
  rcases get_create hk with ⟨-, rfl⟩ | hk
  · exact absurd hr (by simp)
  · exact absurd hr (hcur ws k (h ws k attempt trigger' hk hu hr).1 hk)

theorem OpenIsCurrent.closeSocket (h : c.OpenIsCurrent) (ws : SocketId) : (c.closeSocket ws).OpenIsCurrent := by
  refine h.onSocket (fun k _ attempt trigger _ hr => ?_)
  cases hk : k.readyState <;> simp [WebSocketState.close, hk] at hr

theorem OpenIsCurrent.close (h : c.OpenIsCurrent) : c.close.OpenIsCurrent := by
  obtain ⟨sockets, hs, hcur, he⟩ := session_close c
  have hsockets : c.close.sockets = sockets := congrArg SessionPart.sockets he
  refine h.closes (hsockets ▸ hs) (fun ws k hk hr hsocket => ?_)
  exact absurd hr (hcur ws k hsocket (hsockets ▸ hk))

/-- When the current socket has closed, or the client has none, no control socket is open. -/
theorem OpenIsCurrent.handleClose (h : c.OpenIsCurrent) (o : GatewayClientOptions)
    (hcur : ∀ ws k, c.socket = some ws → c.sockets.get ws = some k → k.readyState ≠ .open_) :
    (c.handleClose o).OpenIsCurrent := by
  obtain ⟨sockets, hs, he⟩ := session_handleClose o c
  have hsockets : (c.handleClose o).sockets = sockets := congrArg SessionPart.sockets he
  refine h.closes (hsockets ▸ hs) (fun ws k' hk' hr hsocket => ?_)
  rw [hsockets] at hk'
  obtain ⟨k, hk, hc⟩ := hs.some_get hk'
  exact absurd (hc.readyState (Or.inr rfl) hr) (hcur ws k hsocket hk)

theorem OpenIsCurrent.routeMessage (h : c.OpenIsCurrent) (message : GatewayToPeer) :
    (c.routeMessage message).OpenIsCurrent := by
  unfold GatewayClient.routeMessage
  split
  · exact h.of_session rfl
  · split
    · exact h.of_session (session_deliver _ _ _)
    · exact h
  · split
    · refine OpenIsCurrent.closeSocket ?_ _
      exact h.of_eq rfl rfl
    · exact h
  all_goals first
    | exact h.of_session (session_settlePending _ _ _)
    | exact h.of_session (session_failPending _ _)
    | exact h

theorem OpenIsCurrent.socketOpened (h : c.OpenIsCurrent) (hw : c.Wired) {ws : SocketId}
    (hg : ¬ c.Unguarded (.opened ws)) : (c.socketOpened ws).OpenIsCurrent := by
  unfold GatewayClient.socketOpened
  split
  · rename_i use hk
    have hcur : ∀ attempt trigger, use = .control attempt trigger → c.socket = some ws := by
      rintro attempt trigger rfl
      by_contra hne
      exact hg ⟨hne, attempt, trigger, hk⟩
    have hopen : (c.setReadyState ws .open_).OpenIsCurrent := by
      refine h.onSocket (fun k hk' attempt trigger hu _ => ?_)
      rw [hk, Option.some_inj] at hk'
      subst hk'
      have hopening := hw.connecting ws _ attempt trigger hk hu rfl
      subst hopening
      exact ⟨hcur _ trigger hu, trivial⟩
    have hget : (c.setReadyState ws .open_).sockets.get ws = some ⟨.open_, use⟩ := by
      simp [setReadyState, GatewayClient.onSocket, hk]
    dsimp only
    split
    · exact hopen.setAttempt hget (fun _ => ⟨by simp, by simp⟩)
    · exact hopen.onSocket (fun k _ _ _ hu => by cases hu)
    · exact hopen
  · exact h

theorem OpenIsCurrent.socketError (h : c.OpenIsCurrent) (ws : SocketId) : (c.socketError ws).OpenIsCurrent := by
  unfold GatewayClient.socketError
  split
  · exact h
  · have hnot : ∀ f : ClientSocket → ClientSocket, (∀ k, (f k).readyState = k.readyState) →
        ((c.closeSocket ws).onSocket ws f).OpenIsCurrent := by
      intro f hf
      refine (h.closeSocket ws).onSocket (fun k hk attempt trigger _ hr => ?_)
      obtain ⟨k', -, rfl⟩ := get_onSocket hk
      rw [hf, if_pos rfl] at hr
      cases hk' : k'.readyState <;> simp [WebSocketState.close, hk'] at hr
    dsimp only
    split
    · exact hnot _ (fun _ => rfl)
    · exact hnot _ (fun _ => rfl)
    · exact h.closeSocket ws
  · exact h

theorem OpenIsCurrent.socketMessage (h : c.OpenIsCurrent) {ws : SocketId} {message : Option GatewayToPeer}
    (hg : ¬ c.Unguarded (.message ws message)) : (c.socketMessage ws message).OpenIsCurrent := by
  unfold GatewayClient.socketMessage
  split
  · rename_i attempt trigger message hk
    split
    · exact h.setAttempt hk (fun _ => ⟨nofun, nofun⟩)
    · rename_i code text
      exact absurd (Or.inl ⟨trigger, code, text, rfl, hk⟩) hg
    · exact h.routeMessage _
    · exact h
  · rename_i attempt trigger message hk
    split
    · exact h.setAttempt hk (fun hr => nomatch hr)
    · exact h.setAttempt hk (fun hr => nomatch hr)
    · exact h.routeMessage _
    · exact h
  · exact h

theorem OpenIsCurrent.socketClosed (h : c.OpenIsCurrent) (hw : c.Wired) (o : GatewayClientOptions) {ws : SocketId}
    (hg : ¬ c.Unguarded (.closed ws)) : (c.socketClosed o ws).OpenIsCurrent := by
  unfold GatewayClient.socketClosed
  split
  · exact h
  · rename_i r use hopen hk
    have hc : (c.setReadyState ws .closed).OpenIsCurrent := h.onSocket (fun k _ _ _ _ hr => absurd hr (by simp))
    dsimp only
    split
    · rename_i trigger
      refine hc.handleClose o (fun ws' k' hws hk' hr => ?_)
      obtain ⟨k, -, rfl⟩ := get_onSocket hk'
      split at hr
      · exact absurd hr (by simp)
      · rename_i hne
        have hws : c.socket = some ws' := hws
        have hrest : ¬ c.AtRest := by
          intro hrest
          rw [hw.unconnected (Or.inr hrest.state)] at hws
          exact absurd hws (by simp)
        refine hg ⟨fun hcur => hne ?_, hrest, _, trigger, hk, hopen, rfl⟩
        rw [hws, Option.some_inj] at hcur
        exact hcur
    · exact hc.of_eq rfl rfl
    · exact hc
  · exact h

theorem OpenIsCurrent.readyTimeout (h : c.OpenIsCurrent) {ws : SocketId} (hg : ¬ c.Unguarded (.readyTimeout ws)) :
    (c.readyTimeout ws).OpenIsCurrent := by
  unfold GatewayClient.readyTimeout
  split
  · rename_i r trigger hk
    refine h.setAttempt hk (fun hr => ?_)
    subst hr
    exact absurd ⟨trigger, hk⟩ hg
  · exact h

theorem OpenIsCurrent.resume (h : c.OpenIsCurrent) (o : GatewayClientOptions) (ws : SocketId) :
    (c.resume o ws).OpenIsCurrent := by
  unfold GatewayClient.resume
  split
  · rename_i r trigger hk
    have ha : (c.setAttempt ws .awaitingReady trigger).OpenIsCurrent := h.setAttempt hk (fun _ => ⟨nofun, nofun⟩)
    exact ha.of_session (session_send _ _ _)
  · rename_i r peerSessionId items trigger hk
    have ha : (c.setAttempt ws .established trigger).OpenIsCurrent := h.setAttempt hk (fun _ => ⟨nofun, nofun⟩)
    refine OpenIsCurrent.of_session ?_ (session_resubscribeFrom _ _ _)
    exact ha.of_eq rfl rfl
  · rename_i r trigger hk
    have ha : (c.setAttempt ws .ended trigger).OpenIsCurrent :=
      h.setAttempt hk (fun hr => absurd (h ws _ _ _ hk rfl hr).2 not_false)
    cases trigger
    · exact ha.of_session (session_emit _ _)
    · exact ha.of_eq rfl rfl
  · rename_i r target channelId hk
    have hd : (c.setDial ws target channelId .up).OpenIsCurrent := h.onSocket (fun k _ _ _ hu => nomatch hu)
    exact hd.of_eq rfl rfl
  · exact h.onSocket (fun k _ _ _ hu => nomatch hu)
  · exact h

theorem OpenIsCurrent.resumeOp (h : c.OpenIsCurrent) : c.resumeOp.OpenIsCurrent := by
  unfold GatewayClient.resumeOp
  split
  · have hc : ({ c with settledOp := none } : GatewayClient).OpenIsCurrent := h.of_eq rfl rfl
    dsimp only
    split
    · exact hc.create
    · exact hc.of_session (session_addHandler _ _ _ _)
    · exact hc.of_session (session_resubscribeFrom _ _ _)
    · exact hc
  · exact h

theorem OpenIsCurrent.connect (h : c.OpenIsCurrent) (hw : c.Wired) : c.connect.OpenIsCurrent := by
  unfold GatewayClient.connect
  split
  · exact h.of_session (session_emit _ _)
  · rename_i hstate
    refine OpenIsCurrent.establish (h.of_eq rfl rfl) (fun ws k hws => ?_) _
    have hnone : c.socket = none := by
      refine hw.unconnected ?_
      cases hs : c.state <;> simp_all
    rw [show c.socket = some ws from hws] at hnone
    exact absurd hnone (by simp)

theorem OpenIsCurrent.reconnectTimer (h : c.OpenIsCurrent) {i : Nat} (hg : ¬ c.Unguarded (.reconnectTimer i)) :
    (c.reconnectTimer i).OpenIsCurrent := by
  unfold GatewayClient.reconnectTimer
  split
  · rename_i hi
    dsimp only
    split
    · exact h.of_eq rfl rfl
    · rename_i huser
      refine OpenIsCurrent.establish (h.of_eq rfl rfl) (fun ws k hws hk hr => ?_) _
      exact hg ⟨hi, by simpa using huser, ws, k, hws, hk, hr⟩
  · exact h

theorem Unguarded.quiet {e : ClientEvent} (h : c.quiet.Unguarded e) :
    c.Unguarded e := by
  cases e with
  | closed ws => exact ⟨h.1, fun hr => h.2.1 ⟨hr.state, hr.pendingOp, hr.channels⟩, h.2.2⟩
  | message ws message =>
    rcases message with _ | message
    · exact h
    · exact h.imp_right (fun ⟨hs, ha, hk⟩ => ⟨hs, by cases message <;> exact ha, hk⟩)
  | _ => exact h

theorem OpenIsCurrent.step (h : c.OpenIsCurrent) (hw : c.Wired) (o : GatewayClientOptions) {e : ClientEvent}
    (hg : ¬ c.Unguarded e) : (c.step o e).OpenIsCurrent := by
  have hqw : c.quiet.Wired := hw.of_eq rfl rfl rfl rfl
  have hq : c.quiet.OpenIsCurrent := h.of_eq rfl rfl
  have hqg : ¬ c.quiet.Unguarded e := fun hu => hg hu.quiet
  unfold GatewayClient.step handle
  split
  · exact hq.connect hqw
  · exact hq.close
  · exact hq.of_session (session_controlOp _ _)
  · exact hq.of_session (session_controlOp _ _)
  · exact hq.of_session (session_unsubscribe _ _ _ _)
  · exact hq.socketOpened hqw hqg
  · exact hq.socketError _
  · exact hq.socketMessage hqg
  · exact hq.socketClosed hqw o hqg
  · exact hq.readyTimeout hqg
  · exact hq.resume o _
  · exact hq.reconnectTimer hqg
  · exact hq.of_session (session_runOp _)
  · exact hq.of_session (session_opTimeout _ _)
  · exact hq.resumeOp

/-! ### A superseded socket is ignored -/

theorem SameSession.of_session (hs : c'.session = c.session) (hp : c'.pendingOp = c.pendingOp) : c.SameSession c' :=
  ⟨congrArg SessionPart.state hs, congrArg SessionPart.socket hs, hp, congrArg SessionPart.channels hs,
    congrArg SessionPart.reconnectTimers hs, congrArg SessionPart.reconnectAttempt hs⟩

theorem SameSession.refl (c : GatewayClient) : c.SameSession c := ⟨rfl, rfl, rfl, rfl, rfl, rfl⟩

theorem SameSession.trans {c'' : GatewayClient} (h : c.SameSession c') (h' : c'.SameSession c'') : c.SameSession c'' :=
  ⟨h'.state.trans h.state, h'.socket.trans h.socket, h'.pendingOp.trans h.pendingOp, h'.channels.trans h.channels,
    h'.reconnectTimers.trans h.reconnectTimers, h'.reconnectAttempt.trans h.reconnectAttempt⟩

/-- A message that is not addressed to the client's operation or channels changes nothing of the session. -/
theorem sameSession_routeMessage {message : GatewayToPeer} (ha : ¬ c.Addressed message) :
    c.SameSession (c.routeMessage message) := by
  have hsettle (type : ReplyType) (reply : GatewayToPeer)
      (hn : ∀ op, c.pendingOp = some op → op.caller.expect ≠ type) : c.settlePending type reply = c := by
    unfold settlePending
    split
    · rename_i op hop
      rw [if_neg (hn op hop)]
    · rfl
  have hexpect (type : ReplyType) (hn : ¬ ∃ op, c.pendingOp = some op ∧ some type = some op.caller.expect) :
      ∀ op, c.pendingOp = some op → op.caller.expect ≠ type :=
    fun op hop he => hn ⟨op, hop, by rw [he]⟩
  unfold routeMessage
  split
  · exact ⟨rfl, rfl, rfl, rfl, rfl, rfl⟩
  · split
    · rename_i entry hentry
      have hpending (handlers : List HandlerId) (payload : Option JsonValue) (c : GatewayClient) :
          (handlers.foldl (fun c handler => c.emit (.deliver handler payload)) c).pendingOp = c.pendingOp := by
        induction handlers generalizing c with
        | nil => rfl
        | cons handler handlers ih => rw [List.foldl_cons, ih]; rfl
      exact SameSession.of_session (session_deliver _ _ _) (hpending _ _ _)
    · exact .refl c
  · rename_i channelId reason
    split
    · rename_i ws hws
      exact absurd (InsertionMap.has_iff.mpr ⟨ws, hws⟩) ha
    · exact .refl c
  · rw [hsettle _ _ (hexpect _ ha)]
    exact .refl c
  · rw [hsettle _ _ (hexpect _ ha)]
    exact .refl c
  · rw [hsettle _ _ (hexpect _ ha)]
    exact .refl c
  · have hnone : c.pendingOp = none := by simpa [Addressed] using ha
    simp only [failPending, hnone]
    exact .refl c
  · exact .refl c

/-- A client at rest has nothing a close could change. -/
theorem sameSession_handleClose (hr : c.AtRest) (hsocket : c.socket = none) (o : GatewayClientOptions) :
    c.SameSession (c.handleClose o) := by
  obtain ⟨sockets, -, he⟩ := session_handleClose o c
  have hafter : c.afterClose o = (.closed, c.reconnectTimers, c.reconnectAttempt) := by
    unfold afterClose
    simp [hr.state]
  have hchannels : c.channels = .empty := by
    have hentries := hr.channels
    rcases hc : c.channels with ⟨entries, nodup⟩
    rw [hc] at hentries
    subst hentries
    rfl
  have hpending : (c.handleClose o).pendingOp = c.pendingOp := by
    have hsame := sameOps_handleClose o c
    simp only [failPending, hr.pendingOp] at hsame
    exact congrArg OpsPart.pendingOp hsame.1
  rw [hafter] at he
  refine ⟨?_, ?_, hpending, ?_, congrArg SessionPart.reconnectTimers he, congrArg SessionPart.reconnectAttempt he⟩
  · rw [show (c.handleClose o).state = _ from congrArg SessionPart.state he, hr.state]
  · rw [show (c.handleClose o).socket = _ from congrArg SessionPart.socket he, hsocket]
  · rw [show (c.handleClose o).channels = _ from congrArg SessionPart.channels he, hchannels]

theorem sameSession_socketOpened (c : GatewayClient) (ws : SocketId) : c.SameSession (c.socketOpened ws) := by
  unfold socketOpened
  split
  · dsimp only
    split <;> exact ⟨rfl, rfl, rfl, rfl, rfl, rfl⟩
  · exact .refl c

theorem sameSession_socketError (c : GatewayClient) (ws : SocketId) : c.SameSession (c.socketError ws) := by
  unfold socketError
  split
  · exact .refl c
  · dsimp only
    split <;> exact ⟨rfl, rfl, rfl, rfl, rfl, rfl⟩
  · exact .refl c

theorem sameSession_readyTimeout (c : GatewayClient) (ws : SocketId) : c.SameSession (c.readyTimeout ws) := by
  unfold readyTimeout
  split
  · exact ⟨rfl, rfl, rfl, rfl, rfl, rfl⟩
  · exact .refl c

section Superseded

variable {ws : SocketId} (hne : c.socket ≠ some ws)
include hne

theorem sameSession_socketMessage {message : Option GatewayToPeer} (hg : ¬ c.Unguarded (.message ws message)) :
    c.SameSession (c.socketMessage ws message) := by
  unfold socketMessage
  split
  · rename_i attempt trigger message hk
    split
    · exact ⟨rfl, rfl, rfl, rfl, rfl, rfl⟩
    · exact ⟨rfl, rfl, rfl, rfl, rfl, rfl⟩
    · exact sameSession_routeMessage (fun ha => hg (Or.inr ⟨hne, ha, _, trigger, hk, Or.inl rfl, rfl⟩))
    · exact .refl c
  · rename_i attempt trigger message hk
    split
    · exact ⟨rfl, rfl, rfl, rfl, rfl, rfl⟩
    · exact ⟨rfl, rfl, rfl, rfl, rfl, rfl⟩
    · exact sameSession_routeMessage (fun ha => hg (Or.inr ⟨hne, ha, _, trigger, hk, Or.inr rfl, rfl⟩))
    · exact .refl c
  · exact .refl c

theorem sameSession_socketClosed (hw : c.Wired) (o : GatewayClientOptions)
    (hk : ∃ k attempt trigger, c.sockets.get ws = some k ∧ k.use = .control attempt trigger)
    (hg : ¬ c.Unguarded (.closed ws)) : c.SameSession (c.socketClosed o ws) := by
  obtain ⟨⟨r, use⟩, attempt, trigger, hk, huse⟩ := hk
  cases huse
  unfold socketClosed
  split
  · exact .refl c
  · rename_i r' use' hopen hk'
    rw [hk, Option.some_inj] at hk'
    cases hk'
    dsimp only
    cases attempt with
    | established =>
      have hrest : c.AtRest := by
        by_contra hrest
        exact hg ⟨hne, hrest, _, trigger, hk, hopen, rfl⟩
      have hclosed : (c.setReadyState ws .closed).AtRest := ⟨hrest.state, hrest.pendingOp, hrest.channels⟩
      have hsame := sameSession_handleClose hclosed (hw.unconnected (Or.inr hrest.state)) o
      exact ⟨hsame.state, hsame.socket, hsame.pendingOp, hsame.channels, hsame.reconnectTimers, hsame.reconnectAttempt⟩
    | _ => exact ⟨rfl, rfl, rfl, rfl, rfl, rfl⟩
  · exact .refl c

theorem sameSession_resume (o : GatewayClientOptions)
    (hk : ∃ k attempt trigger, c.sockets.get ws = some k ∧ k.use = .control attempt trigger)
    (hg : ¬ c.Unguarded (.resume ws)) : c.SameSession (c.resume o ws) := by
  obtain ⟨⟨r, use⟩, attempt, trigger, hk, huse⟩ := hk
  cases huse
  have hset (attempt' : Attempt) (trigger' : Trigger) : c.SameSession (c.setAttempt ws attempt' trigger') :=
    ⟨rfl, rfl, rfl, rfl, rfl, rfl⟩
  cases attempt with
  | opened =>
    simp only [resume, hk]
    exact (hset _ _).trans (.of_session (session_send _ _ _) (congrArg OpsPart.pendingOp (sameOps_send _ _ _).1))
  | ready peerSessionId items =>
    have hfresh : c.state = .connected ∧ c.reconnectAttempt = 0 := by
      by_contra hfresh
      exact hg ⟨hne, _, hk, Or.inr ⟨hfresh, peerSessionId, items, trigger, rfl⟩⟩
    simp only [resume, hk]
    refine SameSession.trans ?_ (.of_session (session_resubscribeFrom _ _ _) (pendingOp_resubscribeFrom _ _ _))
    exact ⟨hfresh.1.symm, rfl, rfl, rfl, rfl, hfresh.2.symm⟩
  | failed =>
    simp only [resume, hk]
    cases trigger with
    | connectCall => exact ⟨rfl, rfl, rfl, rfl, rfl, rfl⟩
    | reconnectTimer => exact absurd ⟨hne, _, hk, Or.inl rfl⟩ hg
  | _ =>
    simp only [resume, hk]
    exact .refl c

end Superseded

/-- A step that is not unguarded ignores a superseded socket. -/
theorem ignores_of_guarded (hw : c.Wired) (o : GatewayClientOptions) {e : ClientEvent} (hg : ¬ c.Unguarded e) :
    c.Ignores o e := by
  have hqw : c.quiet.Wired := hw.of_eq rfl rfl rfl rfl
  have hqg : ¬ c.quiet.Unguarded e := fun hu => hg hu.quiet
  have hquiet {c' : GatewayClient} (h : c.quiet.SameSession c') : c.SameSession c' :=
    ⟨h.state, h.socket, h.pendingOp, h.channels, h.reconnectTimers, h.reconnectAttempt⟩
  intro ws he hs
  unfold step handle
  cases e with
  | opened ws' => exact hquiet (sameSession_socketOpened _ _)
  | error ws' => exact hquiet (sameSession_socketError _ _)
  | message ws' message =>
    cases he
    exact hquiet (sameSession_socketMessage (c := c.quiet) hs.1 hqg)
  | closed ws' =>
    cases he
    exact hquiet (sameSession_socketClosed (c := c.quiet) hs.1 hqw o hs.2 hqg)
  | readyTimeout ws' => exact hquiet (sameSession_readyTimeout _ _)
  | resume ws' =>
    cases he
    exact hquiet (sameSession_resume (c := c.quiet) hs.1 o hs.2 hqg)
  | _ => exact nomatch he

theorem OpenIsCurrent.oneSession (h : c.OpenIsCurrent) : c.OneSession := by
  refine ⟨?_, ?_⟩
  · rintro ws ws' ⟨trigger, hk⟩ ⟨trigger', hk'⟩
    have hcur := (h ws _ _ trigger hk rfl rfl).1
    rw [(h ws' _ _ trigger' hk' rfl rfl).1, Option.some_inj] at hcur
    exact hcur.symm
  · rintro ws k ⟨hk, attempt, trigger, huse, hd⟩ hr
    obtain ⟨hcur, hattempt⟩ := h ws k attempt trigger hk huse hr
    cases attempt with
    | failed => exact hattempt
    | ended => exact hattempt
    | established => exact hd
    | _ => exact hd hcur

end GatewayClient

/-! ## The theorem -/

/-- In a run without an unguarded step the client has one live session at most, no dropped handshake leaves its socket open,
and no event of a superseded socket changes the session. -/
theorem client_one_session (o : GatewayClientOptions) (es : List ClientEvent)
    (h : (client o).Meets (fun c e => ¬ c.Unguarded e) es) :
    ((client o).run es).OneSession ∧ (client o).Meets (GatewayClient.Ignores o) es := by
  have hopen (es : List ClientEvent) (h : (client o).Meets (fun c e => ¬ c.Unguarded e) es) :
      ((client o).run es).OpenIsCurrent := by
    refine EventMachine.Meets.invariant (M := client o) (J := GatewayClient.Wired) (GatewayClient.wired_run o) ?_ ?_ es h
    · exact fun ws k _ _ hk => (nomatch hk)
    · exact fun _ e hw hc hg => hc.step hw o hg
  refine ⟨(hopen es h).oneSession, fun pre e hp => ?_⟩
  exact GatewayClient.ignores_of_guarded (GatewayClient.wired_run o pre) o (h pre e hp)

/-- A client whose connection drops and that is back after one attempt. -/
def sampleDrop : List ClientEvent :=
  sampleConnect ++
    [.closed 0, .reconnectTimer 0, .opened 1, .resume 1,
      .message 1 (some (.peerReady 4 "session" "recovery" none [])), .resume 1]

theorem client_one_session_drop :
    ((client sampleClientOptions).run sampleDrop).OneSession ∧
      (client sampleClientOptions).Meets (GatewayClient.Ignores sampleClientOptions) sampleDrop :=
  client_one_session sampleClientOptions sampleDrop
    (EventMachine.meets_iff_take.mpr (fun i hi =>
      match i, hi with
      | 0, _ => id
      | 1, _ => fun h => h.1 rfl
      | 2, _ => fun h => h.1 rfl
      | 3, _ => fun h => h.elim (fun ⟨_, _, _, he, _⟩ => nomatch he) (fun h => h.1 rfl)
      | 4, _ => fun h => h.1 rfl
      | 5, _ => fun h => h.1 rfl
      | 6, _ => fun ⟨_, _, _, _, hs, _⟩ => nomatch hs
      | 7, _ => fun h => h.1 rfl
      | 8, _ => fun h => h.1 rfl
      | 9, _ => fun h => h.elim (fun ⟨_, _, _, he, _⟩ => nomatch he) (fun h => h.1 rfl)
      | 10, _ => fun h => h.1 rfl))

/-- A handshake that times out leaves its socket open, and the close of a socket the client has closed takes the current one
from it. -/
theorem client_two_sessions :
    ¬ ((client sampleClientOptions).run [.connect, .opened 0, .resume 0, .readyTimeout 0]).OneSession ∧
      ¬ (client sampleClientOptions).Meets (GatewayClient.Ignores sampleClientOptions)
        (sampleConnect ++ [.close, .connect, .closed 0]) := by
  refine ⟨fun h => ?_, fun h => ?_⟩
  · exact h.dropped 0 ⟨.open_, .control .failed .connectCall⟩ ⟨rfl, .failed, .connectCall, rfl, trivial⟩ rfl
  · have hignored := h (sampleConnect ++ [.close, .connect]) (.closed 0) (List.prefix_refl _) 0 rfl
      ⟨nofun, ⟨.closing, .control .established .connectCall⟩, .established, .connectCall, rfl, rfl⟩
    exact nomatch hignored.socket

end ZclaudiaGateway
