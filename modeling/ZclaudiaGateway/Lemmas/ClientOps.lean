import ZclaudiaGateway.Lemmas.Client
import Mathlib.Data.List.Perm.Basic
import Mathlib.Data.List.Range

/-!
# The control operations of the client, one at a time

An operation is issued, waits, runs and settles. `Orderly c c'` says that on the way from `c` to `c'` operations went through
these stages in order and none got lost: those not settled before and those issued meanwhile are those settled meanwhile and
those not settled after. Every event of the client is orderly, and the operation that runs holds the slot and has its timer
armed.
-/

namespace ZclaudiaGateway

/-- The settlement an output reports. -/
def ClientOutput.settlement : ClientOutput → Option (ControlOp × OpOutcome)
  | .settle op outcome => some (op, outcome)
  | _ => none

/-- The output tells how an operation ended. -/
def ClientOutput.isReport : ClientOutput → Bool
  | .settle _ _ | .channel _ _ => true
  | _ => false

namespace GatewayClient

/-- What has settled in the course of the event. -/
def settles (c : GatewayClient) : List (ControlOp × OpOutcome) := c.outbox.filterMap ClientOutput.settlement

/-- What has been reported of the operations in the course of the event. -/
def reports (c : GatewayClient) : List ClientOutput := c.outbox.filter ClientOutput.isReport

/-- The operations that have not settled, the oldest first. -/
def unsettled (c : GatewayClient) : List ControlOp := c.runningOp.toList ++ c.opQueue

/-- The operation that runs holds the slot and has its timer armed, and the caller before it has gone on. -/
def Slotted (c : GatewayClient) : Prop :=
  ∀ op, c.runningOp = some op → c.pendingOp = some op ∧ op ∈ c.opTimers ∧ c.settledOp = none

variable {c c' c'' : GatewayClient}

/-! ## What an event does to the operations -/

/-- The operations and the reports are the same. -/
def SameOps (c c' : GatewayClient) : Prop := c'.ops = c.ops ∧ c'.reports = c.reports

theorem SameOps.refl (c : GatewayClient) : c.SameOps c := ⟨rfl, rfl⟩

theorem SameOps.trans (h : c.SameOps c') (h' : c'.SameOps c'') : c.SameOps c'' :=
  ⟨h'.1.trans h.1, h'.2.trans h.2⟩

theorem settles_eq (c : GatewayClient) : c.settles = c.reports.filterMap ClientOutput.settlement := by
  rw [reports, List.filterMap_filter, settles]
  congr 1
  funext o
  cases o <;> rfl

theorem SameOps.settles (h : c.SameOps c') : c'.settles = c.settles := by
  rw [settles_eq, settles_eq, h.2]

theorem settles_emit (o : ClientOutput) : (c.emit o).settles = c.settles ++ o.settlement.toList := by
  rw [GatewayClient.settles, emit, List.filterMap_append, GatewayClient.settles]
  cases h : o.settlement <;> simp [h]

theorem reports_emit (o : ClientOutput) : (c.emit o).reports = c.reports ++ if o.isReport then [o] else [] := by
  rw [reports, emit, List.filter_append, reports]
  cases h : o.isReport <;> simp [h]

theorem sameOps_emit {o : ClientOutput} (ho : o.isReport = false) : c.SameOps (c.emit o) :=
  ⟨rfl, by rw [reports_emit, ho, if_neg (by decide), List.append_nil]⟩

theorem sameOps_send (c : GatewayClient) (ws : SocketId) (message : PeerToGateway) : c.SameOps (c.send ws message) := by
  unfold send
  split
  · exact sameOps_emit rfl
  · exact .refl c

theorem sameOps_deliver (c : GatewayClient) (handlers : List HandlerId) (payload : Option JsonValue) :
    c.SameOps (handlers.foldl (fun c handler => c.emit (.deliver handler payload)) c) := by
  induction handlers generalizing c with
  | nil => exact .refl c
  | cons handler handlers ih => exact (sameOps_emit rfl).trans (ih (c.emit (.deliver handler payload)))

/-- A message on the socket is routed. -/
def routed (c : GatewayClient) (ws : SocketId) : Bool :=
  match c.sockets.get ws with
  | some { readyState := .open_, use := .control .established _ } => true
  | some { readyState := .closing, use := .control .established _ } => true
  | _ => false

/-- What an event may do to the operations, up to what is the same to them. -/
inductive OpsMove (c : GatewayClient) : ClientEvent → GatewayClient → Prop where
  | idle (e : ClientEvent) : OpsMove c e c
  | issue (e : ClientEvent) (caller : OpCaller) : OpsMove c e (c.controlOp caller)
  | settle (ws : SocketId) (type : ReplyType) (message : GatewayToPeer) : c.routed ws = true →
      message.replyType = some type → OpsMove c (.message ws (some message)) (c.settlePending type message)
  | fail (ws : SocketId) (code : GatewayErrorCode) (text : String) : c.routed ws = true →
      OpsMove c (.message ws (some (.gatewayError code text))) (c.failPending (.gateway code text))
  | lose (ws : SocketId) : OpsMove c (.closed ws) (c.failPending .connectionClosed)
  | dialed (ws : SocketId) (r : WebSocketState) (target channelId : String) :
      c.sockets.get ws = some ⟨r, .data target channelId .opened⟩ →
      OpsMove c (.resume ws) (c.emit (.channel target channelId))
  | run : OpsMove c .runOp c.runOp
  | timeout (op : ControlOp) : OpsMove c (.opTimeout op) (c.opTimeout op)
  | resumed : OpsMove c .resumeOp { c with settledOp := none }
  | next (caller : OpCaller) : OpsMove c .resumeOp ({ c with settledOp := none }.controlOp caller)

theorem resubscribeFrom_ops (c : GatewayClient) (trigger : Trigger) (stamp : Nat) :
    c.SameOps (c.resubscribeFrom trigger stamp) ∨ ∃ caller, (c.controlOp caller).SameOps (c.resubscribeFrom trigger stamp) := by
  unfold resubscribeFrom
  split
  · exact Or.inr ⟨_, .refl _⟩
  · split
    · exact Or.inl (sameOps_emit rfl)
    · exact Or.inl (.refl c)

theorem socketMessage_ops (c : GatewayClient) (ws : SocketId) (message : Option GatewayToPeer) :
    ∃ d, OpsMove c (.message ws message) d ∧ d.SameOps (c.socketMessage ws message) := by
  have hroute (message : GatewayToPeer) (hr : c.routed ws = true) :
      ∃ d, OpsMove c (.message ws (some message)) d ∧ d.SameOps (c.routeMessage message) := by
    unfold routeMessage
    split
    · exact ⟨c, .idle _, rfl, rfl⟩
    · split
      · exact ⟨c, .idle _, sameOps_deliver _ _ _⟩
      · exact ⟨c, .idle _, .refl c⟩
    · split <;> exact ⟨c, .idle _, rfl, rfl⟩
    · exact ⟨_, .settle ws .channelReady _ hr rfl, .refl _⟩
    · exact ⟨_, .settle ws .topicSubscribed _ hr rfl, .refl _⟩
    · exact ⟨_, .settle ws .topicUnsubscribed _ hr rfl, .refl _⟩
    · exact ⟨_, .fail ws _ _ hr, .refl _⟩
    · exact ⟨c, .idle _, .refl c⟩
  unfold socketMessage
  split
  · rename_i hk
    split
    · exact ⟨c, .idle _, rfl, rfl⟩
    · exact ⟨c, .idle _, rfl, rfl⟩
    · exact hroute _ (by simp only [routed, hk])
    · exact ⟨c, .idle _, .refl c⟩
  · rename_i hk
    split
    · exact ⟨c, .idle _, rfl, rfl⟩
    · exact ⟨c, .idle _, rfl, rfl⟩
    · exact hroute _ (by simp only [routed, hk])
    · exact ⟨c, .idle _, .refl c⟩
  · exact ⟨c, .idle _, .refl c⟩

/-- Settling looks at nothing but the operations. -/
theorem SameOps.settleOp (h : c.SameOps c') (op : ControlOp) (outcome : OpOutcome) :
    (c.settleOp op outcome).SameOps (c'.settleOp op outcome) := by
  obtain ⟨hops, hs⟩ := h
  simp only [ops, OpsPart.mk.injEq] at hops
  obtain ⟨hqueue, hnext, hpending, hrunning, hsettled, htimers⟩ := hops
  unfold GatewayClient.settleOp
  rw [hrunning]
  dsimp only
  split
  · refine ⟨by simp only [ops, emit, hqueue, hnext, hpending, htimers], ?_⟩
    rw [reports_emit, reports_emit]
    exact congrArg (· ++ _) hs
  · exact ⟨by simp only [ops, hqueue, hnext, hpending, hsettled, htimers], hs⟩

theorem SameOps.failPending (h : c.SameOps c') (error : OpError) : (c.failPending error).SameOps (c'.failPending error) := by
  have hpending : c'.pendingOp = c.pendingOp := congrArg OpsPart.pendingOp h.1
  unfold GatewayClient.failPending
  rw [hpending]
  split
  · refine SameOps.settleOp ?_ _ _
    refine ⟨?_, h.2⟩
    have hops := h.1
    simp only [ops, OpsPart.mk.injEq] at hops ⊢
    exact ⟨hops.1, hops.2.1, trivial, hops.2.2.2⟩
  · exact h

theorem SameOps.controlOp (h : c.SameOps c') (caller : OpCaller) :
    (c.controlOp caller).SameOps (c'.controlOp caller) := by
  refine ⟨?_, h.2⟩
  have hops := h.1
  simp only [ops, OpsPart.mk.injEq, GatewayClient.controlOp] at hops ⊢
  obtain ⟨hqueue, hnext, hrest⟩ := hops
  exact ⟨by rw [hqueue, hnext], by rw [hnext], hrest⟩

theorem sameOps_closeChannels (c : GatewayClient) : c.SameOps c.closeChannels := by
  obtain ⟨sockets, -, he⟩ := closeChannels_eq c
  rw [he]
  exact ⟨rfl, rfl⟩

/-- When a routed socket closes, the pending operation fails. -/
theorem sameOps_handleClose (o : GatewayClientOptions) (c : GatewayClient) :
    (c.failPending .connectionClosed).SameOps (c.handleClose o) := by
  have hfail : (c.failPending .connectionClosed).SameOps ({ c with socket := none }.failPending .connectionClosed) := by
    refine SameOps.failPending ?_ _
    exact ⟨rfl, rfl⟩
  have hchannels := hfail.trans (sameOps_closeChannels _)
  unfold handleClose
  dsimp only
  split
  · exact hchannels.trans ⟨rfl, rfl⟩
  · split
    · exact hchannels.trans ⟨rfl, rfl⟩
    · exact hchannels

theorem sameOps_close (c : GatewayClient) : c.SameOps c.close := by
  have hchannels : c.SameOps ({ (c.setState .closed) with userClosed := true }.closeChannels) :=
    @SameOps.trans c { (c.setState .closed) with userClosed := true } _ ⟨rfl, rfl⟩ (sameOps_closeChannels _)
  unfold close
  dsimp only
  split
  · exact hchannels.trans ⟨rfl, rfl⟩
  · exact hchannels

theorem socketClosed_ops (o : GatewayClientOptions) (c : GatewayClient) (ws : SocketId) :
    ∃ d, OpsMove c (.closed ws) d ∧ d.SameOps (c.socketClosed o ws) := by
  unfold socketClosed
  split
  · exact ⟨c, .idle _, .refl c⟩
  · dsimp only
    split
    · refine ⟨_, .lose ws, SameOps.trans ?_ (sameOps_handleClose o _)⟩
      refine SameOps.failPending ?_ _
      exact ⟨rfl, rfl⟩
    · exact ⟨c, .idle _, rfl, rfl⟩
    · exact ⟨c, .idle _, rfl, rfl⟩
  · exact ⟨c, .idle _, .refl c⟩

theorem resume_ops (o : GatewayClientOptions) (c : GatewayClient) (ws : SocketId) :
    ∃ d, OpsMove c (.resume ws) d ∧ d.SameOps (c.resume o ws) := by
  unfold resume
  split
  · exact ⟨c, .idle _, SameOps.trans ⟨rfl, rfl⟩ (sameOps_send _ _ _)⟩
  · rename_i r peerSessionId items trigger hk
    generalize hd : ({ c.setAttempt ws .established trigger with
      peerSessionId, registryItems := items, reconnectAttempt := 0, state := .connected } : GatewayClient) = d
    have hsame : c.SameOps d := by subst hd; exact ⟨rfl, rfl⟩
    rcases resubscribeFrom_ops d trigger 0 with h | ⟨caller, h⟩
    · exact ⟨c, .idle _, hsame.trans h⟩
    · exact ⟨_, .issue _ caller, (hsame.controlOp caller).trans h⟩
  · rename_i r trigger hk
    cases trigger
    · exact ⟨c, .idle _, SameOps.trans ⟨rfl, rfl⟩ (sameOps_emit rfl)⟩
    · exact ⟨c, .idle _, rfl, rfl⟩
  · rename_i r target channelId hk
    exact ⟨_, .dialed ws r target channelId hk, rfl, rfl⟩
  · exact ⟨c, .idle _, rfl, rfl⟩
  · exact ⟨c, .idle _, .refl c⟩

theorem addHandler_ops (c : GatewayClient) (backendId topic : String) (handler : HandlerId) :
    c.SameOps (c.addHandler backendId topic handler) := by
  unfold addHandler
  dsimp only
  split
  · split <;> exact ⟨rfl, rfl⟩
  · exact ⟨rfl, rfl⟩

theorem unsubscribe_ops (c : GatewayClient) (backendId topic : String) (handler : HandlerId) :
    ∃ d, OpsMove c (.unsubscribe backendId topic handler) d ∧ d.SameOps (c.unsubscribe backendId topic handler) := by
  unfold unsubscribe
  dsimp only
  split
  · split
    · exact ⟨_, .issue _ (.unsubscribe backendId topic), rfl, rfl⟩
    · exact ⟨c, .idle _, rfl, rfl⟩
  · exact ⟨c, .idle _, .refl c⟩

theorem resumeOp_ops (c : GatewayClient) : ∃ d, OpsMove c .resumeOp d ∧ d.SameOps c.resumeOp := by
  unfold resumeOp
  split
  · dsimp only
    split
    · exact ⟨_, .resumed, rfl, rfl⟩
    · exact ⟨_, .resumed, addHandler_ops _ _ _ _⟩
    · exact (resubscribeFrom_ops _ _ _).elim (fun h => ⟨_, .resumed, h⟩) (fun ⟨caller, h⟩ => ⟨_, .next caller, h⟩)
    · exact ⟨_, .resumed, rfl, rfl⟩
  · exact ⟨c, .idle _, .refl c⟩

/-- What a step does to the operations. -/
theorem handle_ops (o : GatewayClientOptions) (c : GatewayClient) (e : ClientEvent) :
    ∃ d, OpsMove c e d ∧ d.SameOps (c.handle o e) := by
  cases e with
  | connect =>
    refine ⟨c, .idle _, ?_⟩
    show c.SameOps c.connect
    unfold connect
    split
    · exact sameOps_emit rfl
    · exact ⟨rfl, rfl⟩
  | close => exact ⟨c, .idle _, sameOps_close c⟩
  | openChannel target kind => exact ⟨_, .issue _ _, .refl _⟩
  | subscribeTopic backendId topic handler => exact ⟨_, .issue _ _, .refl _⟩
  | unsubscribe backendId topic handler => exact unsubscribe_ops c backendId topic handler
  | opened ws =>
    refine ⟨c, .idle _, ?_⟩
    show c.SameOps (c.socketOpened ws)
    unfold socketOpened
    split
    · dsimp only
      split <;> exact ⟨rfl, rfl⟩
    · exact .refl c
  | error ws =>
    refine ⟨c, .idle _, ?_⟩
    show c.SameOps (c.socketError ws)
    unfold socketError
    split
    · exact .refl c
    · dsimp only
      split <;> exact ⟨rfl, rfl⟩
    · exact .refl c
  | message ws message => exact socketMessage_ops c ws message
  | closed ws => exact socketClosed_ops o c ws
  | readyTimeout ws =>
    refine ⟨c, .idle _, ?_⟩
    show c.SameOps (c.readyTimeout ws)
    unfold readyTimeout
    split
    · exact ⟨rfl, rfl⟩
    · exact .refl c
  | resume ws => exact resume_ops o c ws
  | reconnectTimer i =>
    refine ⟨c, .idle _, ?_⟩
    show c.SameOps (c.reconnectTimer i)
    unfold reconnectTimer
    split
    · dsimp only
      split <;> exact ⟨rfl, rfl⟩
    · exact .refl c
  | runOp => exact ⟨_, .run, .refl _⟩
  | opTimeout op => exact ⟨_, .timeout op, .refl _⟩
  | resumeOp => exact resumeOp_ops c

/-! ## Each operation settles once -/

/-- Operations are issued with the next number and settle one at a time; none is lost. -/
def Orderly (c c' : GatewayClient) : Prop :=
  ∃ log, c'.settles = c.settles ++ log ∧
    ∃ n, c'.nextOp = c.nextOp + n ∧
      (c.unsettled.map ControlOp.id ++ List.range' c.nextOp n).Perm
        (log.map (fun p => p.1.id) ++ c'.unsettled.map ControlOp.id)

theorem Orderly.trans (h : c.Orderly c') (h' : c'.Orderly c'') : c.Orderly c'' := by
  obtain ⟨log, hlog, n, hn, hperm⟩ := h
  obtain ⟨log', hlog', n', hn', hperm'⟩ := h'
  refine ⟨log ++ log', by rw [hlog', hlog, List.append_assoc], n + n', by omega, ?_⟩
  rw [← List.range'_append_1, ← List.append_assoc, List.map_append, List.append_assoc (log.map _)]
  refine (hperm.append_right _).trans ?_
  rw [List.append_assoc, ← hn]
  exact hperm'.append_left _

/-- The queue, the operation that runs and the log are the same. -/
theorem Orderly.of_queue (hqueue : c'.opQueue = c.opQueue) (hnext : c'.nextOp = c.nextOp)
    (hrunning : c'.runningOp = c.runningOp) (hs : c'.settles = c.settles) : c.Orderly c' := by
  refine ⟨[], by rw [hs, List.append_nil], 0, hnext, ?_⟩
  rw [unsettled, unsettled, hqueue, hrunning, List.range'_zero, List.append_nil, List.map_nil, List.nil_append]

/-- A change of anything but the operations and the reports of them. -/
theorem SameOps.orderly (h : c.SameOps c') : c.Orderly c' :=
  .of_queue (congrArg OpsPart.opQueue h.1) (congrArg OpsPart.nextOp h.1) (congrArg OpsPart.runningOp h.1) h.settles

theorem Orderly.refl (c : GatewayClient) : c.Orderly c := (SameOps.refl c).orderly

theorem orderly_controlOp (c : GatewayClient) (caller : OpCaller) : c.Orderly (c.controlOp caller) := by
  refine ⟨[], by simp [settles, controlOp], 1, rfl, ?_⟩
  simp [unsettled, controlOp, List.range'_one]

theorem orderly_settleOp (c : GatewayClient) (op : ControlOp) (outcome : OpOutcome) : c.Orderly (c.settleOp op outcome) := by
  unfold settleOp
  dsimp only
  split
  · rename_i hrun
    refine ⟨[(op, outcome)], settles_emit _, 0, rfl, ?_⟩
    simp [unsettled, emit, hrun]
  · exact .of_queue rfl rfl rfl rfl

theorem orderly_settlePending (c : GatewayClient) (type : ReplyType) (reply : GatewayToPeer) :
    c.Orderly (c.settlePending type reply) := by
  unfold settlePending
  split
  · split
    · exact @Orderly.trans c { c with pendingOp := none } _ (.of_queue rfl rfl rfl rfl) (orderly_settleOp _ _ _)
    · exact .refl c
  · exact .refl c

theorem orderly_failPending (c : GatewayClient) (error : OpError) : c.Orderly (c.failPending error) := by
  unfold failPending
  split
  · exact @Orderly.trans c { c with pendingOp := none } _ (.of_queue rfl rfl rfl rfl) (orderly_settleOp _ _ _)
  · exact .refl c

theorem orderly_opTimeout (c : GatewayClient) (op : ControlOp) : c.Orderly (c.opTimeout op) := by
  unfold opTimeout
  split
  · refine Orderly.trans ?_ (orderly_settleOp _ _ _)
    split
    · exact .of_queue rfl rfl rfl rfl
    · exact .refl c
  · exact .refl c

theorem orderly_runOp (c : GatewayClient) : c.Orderly c.runOp := by
  unfold runOp
  split
  · rename_i op rest hqueue hrunning hsettled
    have hstart : c.Orderly { c with opQueue := rest, runningOp := some op } := by
      refine ⟨[], by simp [settles], 0, rfl, ?_⟩
      simp [unsettled, hqueue, hrunning]
    dsimp only
    split
    · split
      · exact hstart.trans (orderly_settleOp _ _ _)
      · split
        · -- The exception settles the operation that has just begun to run.
          refine ⟨[(op, .rejected .invalidState)], settles_emit _, 0, rfl, ?_⟩
          simp [unsettled, emit, hqueue, hrunning]
        · refine hstart.trans (Orderly.trans ?_ (sameOps_send _ _ _).orderly)
          exact .of_queue rfl rfl rfl rfl
    · exact hstart.trans (orderly_settleOp _ _ _)
  · exact .refl c

/-- Every move of the operations is orderly. -/
theorem OpsMove.orderly {e : ClientEvent} (h : OpsMove c e c') : c.Orderly c' := by
  cases h with
  | idle => exact .refl c
  | issue e caller => exact orderly_controlOp c caller
  | settle ws type message _ _ => exact orderly_settlePending c type message
  | fail ws code text _ => exact orderly_failPending c _
  | lose ws => exact orderly_failPending c _
  | dialed ws r target channelId _ => exact .of_queue rfl rfl rfl (by rw [settles_emit]; exact List.append_nil _)
  | run => exact orderly_runOp c
  | timeout op => exact orderly_opTimeout c op
  | resumed => exact .of_queue rfl rfl rfl rfl
  | next caller => exact @Orderly.trans c { c with settledOp := none } _ (.of_queue rfl rfl rfl rfl) (orderly_controlOp _ _)

/-! ## The operation that runs holds the slot -/

theorem Slotted.of_ops (h : c.Slotted) (hops : c'.ops = c.ops) : c'.Slotted := by
  simp only [ops, OpsPart.mk.injEq] at hops
  obtain ⟨-, -, hpending, hrunning, hsettled, htimers⟩ := hops
  unfold Slotted
  rw [hpending, hrunning, hsettled, htimers]
  exact h

/-- No operation runs. -/
theorem slotted_of_none (h : c.runningOp = none) : c.Slotted := by
  intro op hop
  rw [h] at hop
  exact nomatch hop

theorem runningOp_settleOp (c : GatewayClient) (op : ControlOp) (outcome : OpOutcome) :
    (c.settleOp op outcome).runningOp = if c.runningOp = some op then none else c.runningOp := by
  unfold settleOp
  dsimp only
  split <;> rfl

/-- Clearing the slot and settling its operation leaves none running. -/
theorem Slotted.settle (h : c.Slotted) {op : ControlOp} (hop : c.pendingOp = some op) (outcome : OpOutcome) :
    ({ c with pendingOp := none }.settleOp op outcome).Slotted := by
  refine slotted_of_none ?_
  rw [runningOp_settleOp]
  split
  · rfl
  · rename_i hrun
    rcases hr : c.runningOp with _ | r
    · rfl
    · have hp := (h r hr).1
      rw [hop, Option.some_inj] at hp
      subst hp
      exact absurd hr hrun

theorem Slotted.settlePending (h : c.Slotted) (type : ReplyType) (reply : GatewayToPeer) :
    (c.settlePending type reply).Slotted := by
  unfold GatewayClient.settlePending
  split
  · rename_i op hop
    split
    · exact h.settle hop _
    · exact h
  · exact h

theorem Slotted.failPending (h : c.Slotted) (error : OpError) : (c.failPending error).Slotted := by
  unfold GatewayClient.failPending
  split
  · rename_i op hop
    exact h.settle hop _
  · exact h

theorem Slotted.opTimeout (h : c.Slotted) (op : ControlOp) : (c.opTimeout op).Slotted := by
  unfold GatewayClient.opTimeout
  split
  · dsimp only
    by_cases hp : c.pendingOp = some op
    · rw [if_pos hp]
      exact h.settle hp _
    · rw [if_neg hp]
      unfold settleOp
      dsimp only
      split
      · exact slotted_of_none rfl
      · intro r hr
        obtain ⟨hpending, htimer, hsettled⟩ := h r hr
        refine ⟨hpending, List.mem_filter.mpr ⟨htimer, ?_⟩, hsettled⟩
        rw [decide_eq_true_eq]
        rintro rfl
        exact hp hpending
  · exact h

theorem slotted_runOp (h : c.Slotted) : c.runOp.Slotted := by
  unfold runOp
  split
  · rename_i op rest hqueue hrunning hsettled
    have hfailed : ({ c with opQueue := rest, runningOp := some op }.settleOp op (.rejected .notConnected)).Slotted := by
      refine slotted_of_none ?_
      rw [runningOp_settleOp, if_pos rfl]
    dsimp only
    split
    · split
      · exact hfailed
      · split
        · exact slotted_of_none rfl
        · refine Slotted.of_ops ?_ (sameOps_send _ _ _).1
          intro r hr
          rw [Option.some_inj] at hr
          subst hr
          exact ⟨rfl, List.mem_append_right _ (List.mem_singleton_self _), hsettled⟩
    · exact hfailed
  · exact h

theorem OpsMove.slotted {e : ClientEvent} (hm : OpsMove c e c') (h : c.Slotted) : c'.Slotted := by
  cases hm with
  | idle => exact h
  | issue e caller => exact h
  | settle ws type message _ _ => exact h.settlePending _ _
  | fail ws code text _ => exact h.failPending _
  | lose ws => exact h.failPending _
  | dialed ws r target channelId _ => exact h
  | run => exact slotted_runOp h
  | timeout op => exact h.opTimeout op
  | resumed => exact fun op hop => ⟨(h op hop).1, (h op hop).2.1, rfl⟩
  | next caller => exact fun op hop => ⟨(h op hop).1, (h op hop).2.1, rfl⟩

/-! ## What settles an operation -/

/-- Why an operation settles: its reply type arrives, an error arrives, or the client has a reason of its own. -/
inductive SettledBy (c : GatewayClient) : ClientEvent → ControlOp → OpOutcome → Prop where
  | reply (ws : SocketId) (message : GatewayToPeer) (op : ControlOp) : c.routed ws = true → c.runningOp = some op →
      message.replyType = some op.caller.expect → SettledBy c (.message ws (some message)) op (.resolved message)
  | error (ws : SocketId) (code : GatewayErrorCode) (text : String) (op : ControlOp) : c.routed ws = true →
      c.runningOp = some op →
      SettledBy c (.message ws (some (.gatewayError code text))) op (.rejected (.gateway code text))
  | own (e : ClientEvent) (op : ControlOp) (error : OpError) : (∀ ws message, e ≠ .message ws message) →
      (∀ code text, error ≠ .gateway code text) → SettledBy c e op (.rejected error)

/-- A new report is of an operation that settles for one of these reasons, or of a channel whose socket has opened. -/
def Reported (c : GatewayClient) (e : ClientEvent) : ClientOutput → Prop
  | .settle op outcome => SettledBy c e op outcome
  | .channel target channelId => ∃ ws r, c.sockets.get ws = some ⟨r, .data target channelId .opened⟩
  | _ => False

theorem mem_reports_settleOp {op : ControlOp} {outcome : OpOutcome} {r : ClientOutput}
    (h : r ∈ (c.settleOp op outcome).reports) : r ∈ c.reports ∨ c.runningOp = some op ∧ r = .settle op outcome := by
  unfold settleOp at h
  dsimp only at h
  split at h
  · rename_i hrun
    rw [reports_emit, List.mem_append] at h
    exact h.imp id (fun h => ⟨hrun, List.mem_singleton.mp h⟩)
  · exact Or.inl h

theorem mem_reports_failPending {error : OpError} {r : ClientOutput} (h : r ∈ (c.failPending error).reports) :
    r ∈ c.reports ∨ ∃ op, c.runningOp = some op ∧ r = .settle op (.rejected error) := by
  unfold failPending at h
  split at h
  · rename_i op hop
    exact (mem_reports_settleOp h).imp id (fun h => ⟨op, h⟩)
  · exact Or.inl h

theorem OpsMove.mem_reports {e : ClientEvent} (hm : OpsMove c e c') {r : ClientOutput} (h : r ∈ c'.reports) :
    r ∈ c.reports ∨ Reported c e r := by
  cases hm with
  | idle => exact Or.inl h
  | issue e caller => exact Or.inl h
  | settle ws type message hr ht =>
    unfold settlePending at h
    split at h
    · rename_i op hop
      split at h
      · rename_i hexpect
        rcases mem_reports_settleOp h with h | ⟨hrun, rfl⟩
        · exact Or.inl h
        · exact Or.inr (.reply ws message op hr hrun (by rw [ht, hexpect]))
      · exact Or.inl h
    · exact Or.inl h
  | fail ws code text hr =>
    rcases mem_reports_failPending h with h | ⟨op, hrun, rfl⟩
    · exact Or.inl h
    · exact Or.inr (.error ws code text op hr hrun)
  | lose ws =>
    rcases mem_reports_failPending h with h | ⟨op, hrun, rfl⟩
    · exact Or.inl h
    · exact Or.inr (.own _ _ _ (by simp) (by simp))
  | dialed ws k target channelId hk =>
    rw [reports_emit, List.mem_append] at h
    rcases h with h | h
    · exact Or.inl h
    · rw [List.mem_singleton.mp h]
      exact Or.inr ⟨ws, k, hk⟩
  | run =>
    unfold runOp at h
    split at h
    · dsimp only at h
      split at h
      · split at h
        · rcases mem_reports_settleOp h with h | ⟨-, rfl⟩
          · exact Or.inl h
          · exact Or.inr (.own _ _ _ (by simp) (by simp))
        · split at h
          · rw [reports_emit, List.mem_append] at h
            rcases h with h | h
            · exact Or.inl h
            · rw [List.mem_singleton.mp h]
              exact Or.inr (.own _ _ _ (by simp) (by simp))
          · rw [(sameOps_send _ _ _).2] at h
            exact Or.inl h
      · rcases mem_reports_settleOp h with h | ⟨-, rfl⟩
        · exact Or.inl h
        · exact Or.inr (.own _ _ _ (by simp) (by simp))
    · exact Or.inl h
  | timeout op =>
    unfold opTimeout at h
    split at h
    · dsimp only at h
      rcases mem_reports_settleOp h with h | ⟨-, rfl⟩
      · refine Or.inl ?_
        split at h <;> exact h
      · exact Or.inr (.own _ _ _ (by simp) (by simp))
    · exact Or.inl h
  | resumed => exact Or.inl h
  | next caller => exact Or.inl h

theorem mem_settles_iff {op : ControlOp} {outcome : OpOutcome} :
    (op, outcome) ∈ c.settles ↔ .settle op outcome ∈ c.reports := by
  rw [settles_eq, List.mem_filterMap]
  constructor
  · rintro ⟨r, hr, he⟩
    cases r <;> simp [ClientOutput.settlement] at he
    obtain ⟨rfl, rfl⟩ := he
    exact hr
  · exact fun h => ⟨_, h, rfl⟩

theorem settledOp_settleOp {op : ControlOp} {outcome : OpOutcome} {p : ControlOp × OpOutcome}
    (h : (c.settleOp op outcome).settledOp = some p) : c.settledOp = some p ∨ p ∈ (c.settleOp op outcome).settles := by
  unfold settleOp at h ⊢
  dsimp only at h ⊢
  split at h
  · rename_i hrun
    rw [if_pos hrun, settles_emit]
    have hp : (op, outcome) = p := by simpa [emit] using h
    exact Or.inr (by simp [ClientOutput.settlement, hp])
  · exact Or.inl h

/-- The caller that goes on next is the one before, or that of an operation that has just settled. -/
theorem OpsMove.settledOp {e : ClientEvent} (hm : OpsMove c e c') {p : ControlOp × OpOutcome}
    (h : c'.settledOp = some p) : c.settledOp = some p ∨ p ∈ c'.settles := by
  cases hm with
  | idle => exact Or.inl h
  | issue e caller => exact Or.inl h
  | settle ws type message hr ht =>
    unfold settlePending at h ⊢
    split at h
    · split at h
      · rename_i hop hexpect
        rw [if_pos hexpect]
        exact settledOp_settleOp h
      · exact Or.inl h
    · exact Or.inl h
  | fail ws code text hr =>
    unfold failPending at h ⊢
    split at h
    · exact settledOp_settleOp h
    · exact Or.inl h
  | lose ws =>
    unfold failPending at h ⊢
    split at h
    · exact settledOp_settleOp h
    · exact Or.inl h
  | dialed ws r target channelId hk => exact Or.inl h
  | run =>
    unfold runOp at h ⊢
    split at h
    · rename_i op rest hqueue hrunning hsettled
      dsimp only at h ⊢
      split at h
      · split at h
        · rename_i hstate
          rw [if_pos hstate]
          exact settledOp_settleOp h
        · rename_i hstate
          rw [if_neg hstate]
          split at h
          · have hp : (op, OpOutcome.rejected .invalidState) = p := by simpa [emit] using h
            refine Or.inr ?_
            rw [settles_emit]
            simp [ClientOutput.settlement, hp]
          · rw [show ∀ (c : GatewayClient) ws m, (c.send ws m).settledOp = c.settledOp from
              fun c ws m => congrArg OpsPart.settledOp (sameOps_send c ws m).1] at h
            exact Or.inl h
      · exact settledOp_settleOp h
    · exact Or.inl h
  | timeout op =>
    unfold opTimeout at h ⊢
    split at h
    · rename_i hop
      dsimp only at h ⊢
      rw [if_pos hop]
      rcases settledOp_settleOp h with h | h
      · refine Or.inl ?_
        split at h <;> exact h
      · exact Or.inr h
    · exact Or.inl h
  | resumed => cases h
  | next caller => cases h

/-! ## The next turn -/

/-- The timer of the operation that runs settles it. -/
theorem opTimeout_running (h : c.Slotted) {op : ControlOp} (hrun : c.runningOp = some op) :
    (c.opTimeout op).runningOp = none ∧ (c.opTimeout op).opQueue = c.opQueue ∧
      (op, .rejected .timeout) ∈ (c.opTimeout op).settles := by
  obtain ⟨hpending, htimer, -⟩ := h op hrun
  unfold opTimeout
  rw [if_pos htimer]
  dsimp only
  rw [if_pos hpending]
  unfold settleOp
  dsimp only
  rw [if_pos hrun]
  refine ⟨rfl, rfl, ?_⟩
  rw [settles_emit]
  exact List.mem_append_right _ (List.mem_singleton_self _)

/-- The caller of a settled operation goes on, and what it issues comes last. -/
theorem resumeOp_turn (c : GatewayClient) :
    c.resumeOp.settledOp = none ∧ c.resumeOp.runningOp = c.runningOp ∧ ∃ extra, c.resumeOp.opQueue = c.opQueue ++ extra := by
  have hsame {c' : GatewayClient} (h : ({ c with settledOp := none } : GatewayClient).SameOps c') :
      c'.settledOp = none ∧ c'.runningOp = c.runningOp ∧ ∃ extra, c'.opQueue = c.opQueue ++ extra :=
    ⟨congrArg OpsPart.settledOp h.1, congrArg OpsPart.runningOp h.1, [],
      (congrArg OpsPart.opQueue h.1).trans (List.append_nil _).symm⟩
  unfold resumeOp
  split
  · dsimp only
    split
    · exact hsame ⟨rfl, rfl⟩
    · exact hsame (addHandler_ops _ _ _ _)
    · refine (resubscribeFrom_ops _ _ _).elim hsame (fun ⟨caller, h⟩ => ?_)
      exact ⟨congrArg OpsPart.settledOp h.1, congrArg OpsPart.runningOp h.1, _, congrArg OpsPart.opQueue h.1⟩
    · exact hsame ⟨rfl, rfl⟩
  · rename_i hnone
    exact ⟨hnone, rfl, [], (List.append_nil _).symm⟩

/-- The operation at the head of the queue runs or settles at once. -/
theorem runOp_turn {op : ControlOp} {rest : List ControlOp} (hqueue : c.opQueue = op :: rest) (hrun : c.runningOp = none)
    (hsettled : c.settledOp = none) :
    c.runOp.opQueue = rest ∧ (c.runOp.runningOp = some op ∨ op ∈ c.runOp.settles.map Prod.fst) := by
  have hfailed {c' : GatewayClient} (hq : c'.opQueue = rest) (hr : c'.runningOp = some op) (error : OpError) :
      (c'.settleOp op (.rejected error)).opQueue = rest ∧
        ((c'.settleOp op (.rejected error)).runningOp = some op ∨
          op ∈ (c'.settleOp op (.rejected error)).settles.map Prod.fst) := by
    unfold settleOp
    dsimp only
    rw [if_pos hr]
    refine ⟨hq, Or.inr ?_⟩
    rw [settles_emit]
    simp [ClientOutput.settlement]
  have hsent {c' : GatewayClient} (hq : c'.opQueue = rest) (hr : c'.runningOp = some op) (ws : SocketId)
      (message : PeerToGateway) : (c'.send ws message).opQueue = rest ∧
        ((c'.send ws message).runningOp = some op ∨ op ∈ (c'.send ws message).settles.map Prod.fst) :=
    ⟨(congrArg OpsPart.opQueue (sameOps_send c' ws message).1).trans hq,
      Or.inl ((congrArg OpsPart.runningOp (sameOps_send c' ws message).1).trans hr)⟩
  unfold runOp
  simp only [hqueue, hrun, hsettled]
  split
  · split
    · exact hfailed rfl rfl _
    · split
      · refine ⟨rfl, Or.inr ?_⟩
        rw [settles_emit]
        simp [ClientOutput.settlement]
      · exact hsent rfl rfl _ _
  · exact hfailed rfl rfl _

end GatewayClient

end ZclaudiaGateway
