import ZclaudiaGateway.Sdk.Client

/-!
# What the client's operations leave alone

The client's state has three parts that share little: the sockets with the connection they make up (`session`), the control
operations (`ops`) and the topic handlers. Each operation is described by the parts it does not touch.
-/

namespace ZclaudiaGateway

/-- The sockets and the connection. -/
structure SessionPart where
  sockets : InsertionMap SocketId ClientSocket
  nextSocket : SocketId
  socket : Option SocketId
  state : GatewayClientState
  userClosed : Bool
  reconnectTimers : List Nat
  reconnectAttempt : Nat
  channels : InsertionMap String SocketId

/-- The control operations. -/
structure OpsPart where
  opQueue : List ControlOp
  nextOp : Nat
  pendingOp : Option ControlOp
  runningOp : Option ControlOp
  settledOp : Option (ControlOp × OpOutcome)
  opTimers : List ControlOp

/-- The topic handlers. -/
structure TopicsPart where
  topicHandlers : InsertionMap String TopicHandlers
  nextStamp : Nat

/-- The socket is left alone, or closed. -/
def ClientSocket.Closes (k k' : ClientSocket) : Prop := k' = k ∨ k' = { k with readyState := k.readyState.close }

theorem WebSocketState.close_close (s : WebSocketState) : s.close.close = s.close := by
  cases s <;> rfl

theorem ClientSocket.Closes.refl (k : ClientSocket) : k.Closes k := Or.inl rfl

theorem ClientSocket.closes_close (k : ClientSocket) : k.Closes { k with readyState := k.readyState.close } := Or.inr rfl

theorem ClientSocket.Closes.trans {k k' k'' : ClientSocket} (h : k.Closes k') (h' : k'.Closes k'') : k.Closes k'' := by
  rcases h with rfl | rfl
  · exact h'
  · rcases h' with rfl | rfl
    · exact Or.inr rfl
    · exact Or.inr (by rw [WebSocketState.close_close])

theorem ClientSocket.Closes.use {k k' : ClientSocket} (h : k.Closes k') : k'.use = k.use := by
  rcases h with rfl | rfl <;> rfl

/-- Closing opens nothing and connects nothing. -/
theorem ClientSocket.Closes.readyState {k k' : ClientSocket} (h : k.Closes k') {r : WebSocketState}
    (hr : r = .connecting ∨ r = .open_) (hk : k'.readyState = r) : k.readyState = r := by
  rcases h with rfl | rfl
  · exact hk
  · rcases hr with rfl | rfl <;> rcases hs : k.readyState <;> simp [hs, WebSocketState.close] at hk ⊢

namespace GatewayClient

def session (c : GatewayClient) : SessionPart :=
  { sockets := c.sockets
    nextSocket := c.nextSocket
    socket := c.socket
    state := c.state
    userClosed := c.userClosed
    reconnectTimers := c.reconnectTimers
    reconnectAttempt := c.reconnectAttempt
    channels := c.channels }

def ops (c : GatewayClient) : OpsPart :=
  { opQueue := c.opQueue
    nextOp := c.nextOp
    pendingOp := c.pendingOp
    runningOp := c.runningOp
    settledOp := c.settledOp
    opTimers := c.opTimers }

def topics (c : GatewayClient) : TopicsPart := ⟨c.topicHandlers, c.nextStamp⟩

/-! ## The session -/

section Session

variable (c : GatewayClient)

@[simp] theorem session_emit (o : ClientOutput) : (c.emit o).session = c.session := rfl

@[simp] theorem session_controlOp (caller : OpCaller) : (c.controlOp caller).session = c.session := rfl

@[simp] theorem session_settleOp (op : ControlOp) (outcome : OpOutcome) : (c.settleOp op outcome).session = c.session := by
  unfold settleOp
  dsimp only
  split <;> rfl

@[simp] theorem session_settlePending (type : ReplyType) (reply : GatewayToPeer) :
    (c.settlePending type reply).session = c.session := by
  unfold settlePending
  split
  · split
    · exact session_settleOp _ _ _
    · rfl
  · rfl

@[simp] theorem session_failPending (error : OpError) : (c.failPending error).session = c.session := by
  unfold failPending
  split
  · exact session_settleOp _ _ _
  · rfl

@[simp] theorem session_opTimeout (op : ControlOp) : (c.opTimeout op).session = c.session := by
  unfold opTimeout
  split
  · dsimp only
    rw [session_settleOp]
    split <;> rfl
  · rfl

@[simp] theorem session_send (ws : SocketId) (message : PeerToGateway) : (c.send ws message).session = c.session := by
  unfold send
  split <;> rfl

@[simp] theorem session_runOp : c.runOp.session = c.session := by
  unfold runOp
  split
  · dsimp only
    split
    · split
      · exact session_settleOp _ _ _
      · split
        · rfl
        · exact session_send _ _ _
    · exact session_settleOp _ _ _
  · rfl

@[simp] theorem session_addHandler (backendId topic : String) (handler : HandlerId) :
    (c.addHandler backendId topic handler).session = c.session := by
  unfold addHandler
  dsimp only
  split
  · split <;> rfl
  · rfl

@[simp] theorem session_unsubscribe (backendId topic : String) (handler : HandlerId) :
    (c.unsubscribe backendId topic handler).session = c.session := by
  unfold unsubscribe
  dsimp only
  split
  · split <;> rfl
  · rfl

@[simp] theorem session_resubscribeFrom (trigger : Trigger) (stamp : Nat) :
    (c.resubscribeFrom trigger stamp).session = c.session := by
  unfold resubscribeFrom
  split
  · rfl
  · split <;> rfl

theorem sockets_addHandler (backendId topic : String) (handler : HandlerId) :
    (c.addHandler backendId topic handler).sockets = c.sockets :=
  congrArg SessionPart.sockets (session_addHandler c backendId topic handler)

theorem sockets_resubscribeFrom (trigger : Trigger) (stamp : Nat) : (c.resubscribeFrom trigger stamp).sockets = c.sockets :=
  congrArg SessionPart.sockets (session_resubscribeFrom c trigger stamp)

theorem session_deliver (handlers : List HandlerId) (payload : Option JsonValue) :
    (handlers.foldl (fun c handler => c.emit (.deliver handler payload)) c).session = c.session := by
  induction handlers generalizing c with
  | nil => rfl
  | cons handler handlers ih => rw [List.foldl_cons, ih, session_emit]

end Session

/-! ## Sockets -/

theorem get_onSocket {c : GatewayClient} {ws ws' : SocketId} {f : ClientSocket → ClientSocket} {k' : ClientSocket}
    (h : (c.onSocket ws f).sockets.get ws' = some k') :
    ∃ k, c.sockets.get ws' = some k ∧ k' = if ws' = ws then f k else k := by
  rw [onSocket, InsertionMap.get_modify] at h
  split at h
  · rename_i hws
    obtain ⟨k, hk, rfl⟩ := Option.map_eq_some_iff.mp h
    exact ⟨k, hk, by rw [if_pos hws]⟩
  · rename_i hws
    exact ⟨k', h, by rw [if_neg hws]⟩

theorem get_create {c : GatewayClient} {use : SocketUse} {ws : SocketId} {k : ClientSocket} (h : (c.create use).sockets.get ws = some k) :
    ws = c.nextSocket ∧ k = ⟨.connecting, use⟩ ∨ c.sockets.get ws = some k := by
  rcases InsertionMap.get_set_eq_some.mp h with ⟨hws, hk⟩ | ⟨-, hk⟩
  · exact Or.inl ⟨hws, hk.symm⟩
  · exact Or.inr hk

/-- Closing the channels closes their data sockets and forgets them. -/
theorem closeChannels_eq (c : GatewayClient) :
    ∃ sockets, c.sockets.Pointwise ClientSocket.Closes sockets ∧
      c.closeChannels = { c with sockets, channels := .empty } := by
  have hfold (l : List SocketId) (c : GatewayClient) :
      ∃ sockets, c.sockets.Pointwise ClientSocket.Closes sockets ∧
        l.foldl (fun c ws => c.closeSocket ws) c = { c with sockets } := by
    induction l generalizing c with
    | nil => exact ⟨c.sockets, .refl ClientSocket.Closes.refl _, rfl⟩
    | cons ws l ih =>
      obtain ⟨sockets, hs, he⟩ := ih (c.closeSocket ws)
      refine ⟨sockets, InsertionMap.Pointwise.trans (fun _ _ _ => ClientSocket.Closes.trans) ?_ hs, ?_⟩
      · exact InsertionMap.Pointwise.modify ClientSocket.Closes.refl (fun k _ => k.closes_close)
      · rw [List.foldl_cons, he]
        rfl
  obtain ⟨sockets, hs, he⟩ := hfold c.channels.values c
  exact ⟨sockets, hs, by rw [closeChannels, he]⟩

/-! ## The end of a session -/

/-- What becomes of the state and the reconnect schedule when a routed socket closes. -/
def afterClose (o : GatewayClientOptions) (c : GatewayClient) : GatewayClientState × List Nat × Nat :=
  if c.userClosed || !o.reconnect then (.closed, c.reconnectTimers, c.reconnectAttempt)
  else if c.state = .connected ∨ c.state = .connecting then
    (.connecting, c.reconnectTimers ++ [min (o.reconnectMinMs * 2 ^ c.reconnectAttempt) o.reconnectMaxMs],
      c.reconnectAttempt + 1)
  else (c.state, c.reconnectTimers, c.reconnectAttempt)

/-- The session after a routed socket has closed. -/
theorem session_handleClose (o : GatewayClientOptions) (c : GatewayClient) :
    ∃ sockets, c.sockets.Pointwise ClientSocket.Closes sockets ∧
      (c.handleClose o).session =
        { c.session with
          sockets
          socket := none
          channels := .empty
          state := (c.afterClose o).1
          reconnectTimers := (c.afterClose o).2.1
          reconnectAttempt := (c.afterClose o).2.2 } := by
  generalize hd : ({ c with socket := none }.failPending .connectionClosed) = d
  have hds : d.session = { c.session with socket := none } := by rw [← hd, session_failPending]; rfl
  obtain ⟨sockets, hs, he⟩ := closeChannels_eq d
  simp only [session, SessionPart.mk.injEq] at hds
  obtain ⟨hsockets, hnext, hsocket, hstate, huser, htimers, hattempt, -⟩ := hds
  refine ⟨sockets, hsockets ▸ hs, ?_⟩
  unfold handleClose afterClose
  simp only [hd, he, huser, hstate]
  split
  · simp only [setState, session, hnext, hsocket, htimers, hattempt]
  · split
    · simp only [setState, scheduleReconnect, session, hnext, hsocket, htimers, hattempt]
    · simp only [session, hnext, hsocket, htimers, hattempt]

/-- The session after a call of `close`. -/
theorem session_close (c : GatewayClient) :
    ∃ sockets, c.sockets.Pointwise ClientSocket.Closes sockets ∧
      (∀ ws k, c.socket = some ws → sockets.get ws = some k → k.readyState ≠ .open_) ∧
      c.close.session =
        { c.session with sockets, socket := none, channels := .empty, state := .closed, userClosed := true } := by
  obtain ⟨sockets, hs, he⟩ := closeChannels_eq { (c.setState .closed) with userClosed := true }
  rcases hsocket : c.socket with _ | ws
  · refine ⟨sockets, hs, fun ws k h => (nomatch h), ?_⟩
    unfold close
    simp only [he]
    simp only [setState, session, hsocket]
  · refine ⟨sockets.modify ws (fun k => { k with readyState := k.readyState.close }), ?_, ?_, ?_⟩
    · exact InsertionMap.Pointwise.trans (fun _ _ _ => ClientSocket.Closes.trans) hs
        (InsertionMap.Pointwise.modify ClientSocket.Closes.refl (fun k _ => k.closes_close))
    · intro ws' k hws hk
      rw [Option.some_inj] at hws
      subst hws
      rw [InsertionMap.get_modify_self] at hk
      obtain ⟨k', -, rfl⟩ := Option.map_eq_some_iff.mp hk
      cases hr : k'.readyState <;> simp [WebSocketState.close]
    · unfold close
      simp only [he]
      simp only [setState, session, hsocket]
      rfl

/-! ## Data sockets -/

/-- Every data socket was one for the same channel before. -/
def KeepsData (c c' : GatewayClient) : Prop :=
  ∀ ws k' target channelId dial', c'.sockets.get ws = some k' → k'.use = .data target channelId dial' →
    ∃ k dial, c.sockets.get ws = some k ∧ k.use = .data target channelId dial

variable {c c' c'' : GatewayClient}

theorem KeepsData.trans (h : c.KeepsData c') (h' : c'.KeepsData c'') : c.KeepsData c'' := by
  intro ws k'' target channelId dial'' hk'' hu''
  obtain ⟨k', dial', hk', hu'⟩ := h' ws k'' target channelId dial'' hk'' hu''
  exact h ws k' target channelId dial' hk' hu'

theorem KeepsData.of_eq (h : c'.sockets = c.sockets) : c.KeepsData c' := by
  intro ws k' target channelId dial' hk' hu'
  exact ⟨k', dial', h ▸ hk', hu'⟩

theorem KeepsData.refl (c : GatewayClient) : c.KeepsData c := .of_eq rfl

theorem KeepsData.of_session (h : c'.session = c.session) : c.KeepsData c' := .of_eq (congrArg SessionPart.sockets h)

theorem KeepsData.of_closes (h : c.sockets.Pointwise ClientSocket.Closes c'.sockets) : c.KeepsData c' := by
  intro ws k' target channelId dial' hk' hu'
  obtain ⟨k, hk, hc⟩ := h.some_get hk'
  exact ⟨k, dial', hk, hc.use ▸ hu'⟩

theorem keepsData_onSocket {ws : SocketId} {f : ClientSocket → ClientSocket}
    (hf : ∀ k target channelId dial', c.sockets.get ws = some k → (f k).use = .data target channelId dial' →
      ∃ dial, k.use = .data target channelId dial) : c.KeepsData (c.onSocket ws f) := by
  intro ws' k' target channelId dial' hk' hu'
  obtain ⟨k, hk, rfl⟩ := get_onSocket hk'
  split at hu'
  · rename_i hws
    subst hws
    obtain ⟨dial, hu⟩ := hf k target channelId dial' hk hu'
    exact ⟨k, dial, hk, hu⟩
  · exact ⟨k, dial', hk, hu'⟩

theorem keepsData_setReadyState (c : GatewayClient) (ws : SocketId) (r : WebSocketState) :
    c.KeepsData (c.setReadyState ws r) :=
  keepsData_onSocket (fun _ _ _ dial' _ hu => ⟨dial', hu⟩)

theorem keepsData_closeSocket (c : GatewayClient) (ws : SocketId) : c.KeepsData (c.closeSocket ws) :=
  keepsData_onSocket (fun _ _ _ dial' _ hu => ⟨dial', hu⟩)

theorem keepsData_setAttempt (c : GatewayClient) (ws : SocketId) (attempt : Attempt) (trigger : Trigger) :
    c.KeepsData (c.setAttempt ws attempt trigger) :=
  keepsData_onSocket (fun _ _ _ _ _ hu => nomatch hu)

theorem keepsData_setDial {ws : SocketId} {k : ClientSocket} {target channelId : String} {dial : Dial}
    (hk : c.sockets.get ws = some k) (hu : k.use = .data target channelId dial) (dial' : Dial) :
    c.KeepsData (c.setDial ws target channelId dial') := by
  refine keepsData_onSocket (fun k' target' channelId' dial'' hk' hu' => ?_)
  rw [hk, Option.some_inj] at hk'
  subst hk'
  cases hu'
  exact ⟨dial, hu⟩

theorem keepsData_establish (c : GatewayClient) (trigger : Trigger) : c.KeepsData (c.establish trigger) := by
  intro ws k' target channelId dial' hk' hu'
  rcases get_create hk' with ⟨-, rfl⟩ | hk
  · exact nomatch hu'
  · exact ⟨k', dial', hk, hu'⟩

theorem keepsData_routeMessage (c : GatewayClient) (message : GatewayToPeer) : c.KeepsData (c.routeMessage message) := by
  unfold routeMessage
  split
  · exact .refl c
  · split
    · exact .of_session (session_deliver _ _ _)
    · exact .refl c
  · split
    · exact KeepsData.trans (.of_eq rfl) (keepsData_closeSocket _ _)
    · exact .refl c
  all_goals first
    | exact .of_session (session_settlePending _ _ _)
    | exact .of_session (session_failPending _ _)
    | exact .refl c

theorem keepsData_socketOpened (c : GatewayClient) (ws : SocketId) : c.KeepsData (c.socketOpened ws) := by
  unfold socketOpened
  split
  · rename_i use hk
    have hget : (c.setReadyState ws .open_).sockets.get ws = some ⟨.open_, use⟩ := by
      simp [setReadyState, onSocket, hk]
    refine (keepsData_setReadyState c ws .open_).trans ?_
    dsimp only
    split
    · exact keepsData_setAttempt _ _ _ _
    · exact keepsData_setDial hget rfl _
    · exact .refl _
  · exact .refl c

theorem keepsData_socketError (c : GatewayClient) (ws : SocketId) : c.KeepsData (c.socketError ws) := by
  unfold socketError
  split
  · exact .refl c
  · rename_i r use _ hk
    have hget : (c.closeSocket ws).sockets.get ws = some ⟨r.close, use⟩ := by
      simp [closeSocket, onSocket, hk]
    refine (keepsData_closeSocket c ws).trans ?_
    dsimp only
    split
    · exact keepsData_setAttempt _ _ _ _
    · exact keepsData_setDial hget rfl _
    · exact .refl _
  · exact .refl c

theorem keepsData_socketMessage (c : GatewayClient) (ws : SocketId) (message : Option GatewayToPeer) :
    c.KeepsData (c.socketMessage ws message) := by
  unfold socketMessage
  split
  · split
    · exact keepsData_setAttempt _ _ _ _
    · exact keepsData_setAttempt _ _ _ _
    · exact keepsData_routeMessage _ _
    · exact .refl c
  · split
    · exact keepsData_setAttempt _ _ _ _
    · exact keepsData_setAttempt _ _ _ _
    · exact keepsData_routeMessage _ _
    · exact .refl c
  · exact .refl c

theorem keepsData_socketClosed (o : GatewayClientOptions) (c : GatewayClient) (ws : SocketId) :
    c.KeepsData (c.socketClosed o ws) := by
  unfold socketClosed
  split
  · exact .refl c
  · refine (keepsData_setReadyState c ws .closed).trans ?_
    dsimp only
    split
    · obtain ⟨sockets, hs, he⟩ := session_handleClose o (c.setReadyState ws .closed)
      have hsockets : ((c.setReadyState ws .closed).handleClose o).sockets = sockets := congrArg SessionPart.sockets he
      exact .of_closes (hsockets ▸ hs)
    · exact .of_eq rfl
    · exact .refl _
  · exact .refl c

theorem keepsData_resume (o : GatewayClientOptions) (c : GatewayClient) (ws : SocketId) : c.KeepsData (c.resume o ws) := by
  unfold resume
  split
  · exact (keepsData_setAttempt c ws _ _).trans (.of_session (session_send _ _ _))
  · rename_i r peerSessionId items trigger hk
    refine (keepsData_setAttempt c ws .established trigger).trans ?_
    exact .of_eq (congrArg SessionPart.sockets (session_resubscribeFrom _ _ _))
  · rename_i r trigger hk
    refine (keepsData_setAttempt c ws .ended trigger).trans ?_
    cases trigger <;> exact .of_eq rfl
  · rename_i r target channelId hk
    exact (keepsData_setDial hk rfl .up).trans (.of_eq rfl)
  · rename_i r target channelId hk
    exact keepsData_setDial hk rfl .ended
  · exact .refl c

/-- A data socket is there from before, or for the channel that the settled operation was granted. -/
theorem data_of_handle (o : GatewayClientOptions) (c : GatewayClient) (e : ClientEvent) {ws : SocketId} {k' : ClientSocket}
    {target channelId : String} {dial' : Dial} (hk' : (c.handle o e).sockets.get ws = some k')
    (hu' : k'.use = .data target channelId dial') :
    (∃ k dial, c.sockets.get ws = some k ∧ k.use = .data target channelId dial) ∨
      ∃ op kind ticket dataPath, c.settledOp = some (op, .resolved (.channelReady channelId ticket dataPath)) ∧
        op.caller = .openChannel target kind := by
  have hkeeps (h : c.KeepsData (c.handle o e)) :
      ∃ k dial, c.sockets.get ws = some k ∧ k.use = .data target channelId dial :=
    h ws k' target channelId dial' hk' hu'
  cases e with
  | connect =>
    refine Or.inl (hkeeps ?_)
    show c.KeepsData c.connect
    unfold connect
    split
    · exact .of_eq rfl
    · exact KeepsData.trans (.of_eq rfl) (keepsData_establish _ _)
  | close =>
    obtain ⟨sockets, hs, -, he⟩ := session_close c
    have hsockets : c.close.sockets = sockets := congrArg SessionPart.sockets he
    exact Or.inl (hkeeps (.of_closes (hsockets ▸ hs)))
  | openChannel target kind => exact Or.inl (hkeeps (.of_eq rfl))
  | subscribeTopic backendId topic handler => exact Or.inl (hkeeps (.of_eq rfl))
  | unsubscribe backendId topic handler => exact Or.inl (hkeeps (.of_session (session_unsubscribe _ _ _ _)))
  | opened ws => exact Or.inl (hkeeps (keepsData_socketOpened c ws))
  | error ws => exact Or.inl (hkeeps (keepsData_socketError c ws))
  | message ws message => exact Or.inl (hkeeps (keepsData_socketMessage c ws message))
  | closed ws => exact Or.inl (hkeeps (keepsData_socketClosed o c ws))
  | readyTimeout ws =>
    refine Or.inl (hkeeps ?_)
    show c.KeepsData (c.readyTimeout ws)
    unfold readyTimeout
    split
    · exact keepsData_setAttempt _ _ _ _
    · exact .refl c
  | resume ws => exact Or.inl (hkeeps (keepsData_resume o c ws))
  | reconnectTimer i =>
    refine Or.inl (hkeeps ?_)
    show c.KeepsData (c.reconnectTimer i)
    unfold reconnectTimer
    split
    · dsimp only
      split
      · exact .of_eq rfl
      · exact KeepsData.trans (.of_eq rfl) (keepsData_establish _ _)
    · exact .refl c
  | runOp => exact Or.inl (hkeeps (.of_session (session_runOp _)))
  | opTimeout op => exact Or.inl (hkeeps (.of_session (session_opTimeout _ _)))
  | resumeOp =>
    have hk' : c.resumeOp.sockets.get ws = some k' := hk'
    unfold resumeOp at hk'
    split at hk'
    · rename_i op outcome hop
      dsimp only at hk'
      split at hk'
      · rename_i target' kind channelId' ticket dataPath hcaller
        rcases get_create hk' with ⟨-, rfl⟩ | hk'
        · cases hu'
          exact Or.inr ⟨op, kind, ticket, dataPath, hop, hcaller⟩
        · exact Or.inl ⟨k', dial', hk', hu'⟩
      · rw [sockets_addHandler] at hk'
        exact Or.inl ⟨k', dial', hk', hu'⟩
      · rw [sockets_resubscribeFrom] at hk'
        exact Or.inl ⟨k', dial', hk', hu'⟩
      · exact Or.inl ⟨k', dial', hk', hu'⟩
    · exact Or.inl ⟨k', dial', hk', hu'⟩

theorem pendingOp_resubscribeFrom (c : GatewayClient) (trigger : Trigger) (stamp : Nat) :
    (c.resubscribeFrom trigger stamp).pendingOp = c.pendingOp := by
  unfold resubscribeFrom
  split
  · rfl
  · split <;> rfl

end GatewayClient

end ZclaudiaGateway
