import ZclaudiaGateway.Lemmas.ClientOps

/-!
# Which events issue which operations

The operations in flight are those that wait, run or have settled with their caller still to go on. An event adds the one
operation that it issues, if it issues one, and brings back none.
-/

namespace ZclaudiaGateway

namespace GatewayClient

variable {c c' : GatewayClient}

/-- The operation with which `resubscribeTopics` goes on from a stamp. -/
def nextResubscribe (c : GatewayClient) (trigger : Trigger) (stamp : Nat) : Option OpCaller :=
  (c.topicHandlers.entries.find? (fun p => stamp ≤ p.2.stamp)).map
    (fun p => .resubscribeTopics trigger p.2.stamp (splitKey p.1).1 (splitKey p.1).2)

/-- The operation that an event issues. -/
def issue (c : GatewayClient) : ClientEvent → Option OpCaller
  | .openChannel target kind => some (.openChannel target kind)
  | .subscribeTopic backendId topic handler => some (.subscribeTopic backendId topic handler)
  | .unsubscribe backendId topic handler =>
    match c.topicHandlers.get (topicKey backendId topic) with
    | some entry => if entry.handlers.filter (· ≠ handler) = [] then some (.unsubscribe backendId topic) else none
    | none => none
  | .resume ws =>
    match c.sockets.get ws with
    | some { use := .control (.ready _ _) trigger, .. } => c.nextResubscribe trigger 0
    | _ => none
  | .resumeOp =>
    match c.settledOp with
    | some (⟨_, .resubscribeTopics trigger stamp _ _⟩, _) => c.nextResubscribe trigger (stamp + 1)
    | _ => none
  | _ => none

/-- The operations in flight. -/
def inFlight (c : GatewayClient) : List ControlOp := c.opQueue ++ c.runningOp.toList ++ (c.settledOp.map Prod.fst).toList

theorem resubscribeFrom_eq (c : GatewayClient) (trigger : Trigger) (stamp : Nat) :
    c.resubscribeFrom trigger stamp =
      match c.nextResubscribe trigger stamp with
      | some caller => c.controlOp caller
      | none => if trigger = .connectCall then c.emit (.connect true) else c := by
  unfold resubscribeFrom nextResubscribe
  cases c.topicHandlers.entries.find? (fun p => decide (stamp ≤ p.2.stamp)) <;> rfl

/-! ## Events that issue nothing -/

theorem settleOp_nextOp (c : GatewayClient) (op : ControlOp) (outcome : OpOutcome) :
    (c.settleOp op outcome).nextOp = c.nextOp := by
  unfold settleOp
  dsimp only
  split <;> rfl

theorem settlePending_nextOp (c : GatewayClient) (type : ReplyType) (reply : GatewayToPeer) :
    (c.settlePending type reply).nextOp = c.nextOp := by
  unfold settlePending
  split
  · split
    · exact settleOp_nextOp _ _ _
    · rfl
  · rfl

theorem failPending_nextOp (c : GatewayClient) (error : OpError) : (c.failPending error).nextOp = c.nextOp := by
  unfold failPending
  split
  · exact settleOp_nextOp _ _ _
  · rfl

theorem SameOps.nextOp (h : c.SameOps c') : c'.nextOp = c.nextOp := congrArg OpsPart.nextOp h.1

theorem routeMessage_nextOp (c : GatewayClient) (message : GatewayToPeer) : (c.routeMessage message).nextOp = c.nextOp := by
  unfold routeMessage
  split
  · rfl
  · split
    · exact (sameOps_deliver _ _ _).nextOp
    · rfl
  · split <;> rfl
  · exact settlePending_nextOp _ _ _
  · exact settlePending_nextOp _ _ _
  · exact settlePending_nextOp _ _ _
  · exact failPending_nextOp _ _
  · rfl

theorem runOp_nextOp (c : GatewayClient) : c.runOp.nextOp = c.nextOp := by
  unfold runOp
  split
  · dsimp only
    split
    · split
      · exact settleOp_nextOp _ _ _
      · split
        · rfl
        · exact (sameOps_send _ _ _).nextOp
    · exact settleOp_nextOp _ _ _
  · rfl

theorem opTimeout_nextOp (c : GatewayClient) (op : ControlOp) : (c.opTimeout op).nextOp = c.nextOp := by
  unfold opTimeout
  split
  · dsimp only
    rw [settleOp_nextOp]
    split <;> rfl
  · rfl

/-- An event that takes a number issues the operation with that number. -/
theorem issue_of_handle {o : GatewayClientOptions} {e : ClientEvent} {caller : OpCaller}
    (hnext : (c.handle o e).nextOp = c.nextOp + 1)
    (hqueue : (c.handle o e).opQueue = c.opQueue ++ [⟨c.nextOp, caller⟩]) : c.issue e = some caller := by
  have hsame (hs : (c.handle o e).nextOp = c.nextOp) : c.issue e = some caller := by omega
  have hlast {caller' : OpCaller} (hq : (c.handle o e).opQueue = c.opQueue ++ [⟨c.nextOp, caller'⟩]) : caller' = caller := by
    rw [hq] at hqueue
    simpa using hqueue
  cases e with
  | openChannel target kind => exact congrArg some (hlast rfl)
  | subscribeTopic backendId topic handler => exact congrArg some (hlast rfl)
  | unsubscribe backendId topic handler =>
    unfold issue
    unfold handle GatewayClient.unsubscribe at hnext hlast
    cases hget : c.topicHandlers.get (topicKey backendId topic) with
    | none =>
      simp only [hget] at hnext
      omega
    | some entry =>
      simp only [hget] at hnext hlast ⊢
      split at hnext
      · rename_i hempty
        rw [if_pos hempty]
        simp only [if_pos hempty] at hlast
        exact congrArg some (hlast rfl)
      · exact absurd hnext (by simp)
  | resume ws =>
    unfold issue
    change (c.resume o ws).nextOp = _ at hnext
    change ∀ {caller'}, (c.resume o ws).opQueue = _ → _ at hlast
    unfold GatewayClient.resume at hnext hlast
    split at hnext
    · rw [(sameOps_send _ _ _).nextOp] at hnext
      exact absurd hnext (by simp [setAttempt, onSocket])
    · rename_i hk
      simp only [hk] at hlast ⊢
      rw [resubscribeFrom_eq] at hnext
      simp only [resubscribeFrom_eq] at hlast
      unfold nextResubscribe at hnext hlast ⊢
      dsimp only [setAttempt, onSocket] at hnext hlast
      cases hfind : c.topicHandlers.entries.find? (fun p => decide (0 ≤ p.2.stamp)) with
      | none =>
        simp only [hfind, Option.map_none] at hnext
        split at hnext <;> exact absurd hnext (by simp [emit])
      | some p =>
        simp only [hfind, Option.map_some] at hlast
        exact congrArg some (hlast rfl)
    · split at hnext <;> exact absurd hnext (by simp [emit, setAttempt, onSocket, scheduleReconnect])
    · exact absurd hnext (by simp [emit, setDial, onSocket])
    · exact absurd hnext (by simp [setDial, onSocket])
    · exact absurd hnext (by simp)
  | resumeOp =>
    unfold issue
    change c.resumeOp.nextOp = _ at hnext
    change ∀ {caller'}, c.resumeOp.opQueue = _ → _ at hlast
    unfold GatewayClient.resumeOp at hnext hlast
    rcases hsettled : c.settledOp with _ | ⟨⟨id, caller'⟩, outcome⟩
    · simp only [hsettled] at hnext
      omega
    · simp only [hsettled] at hnext hlast
      cases caller' with
      | openChannel target kind =>
        refine absurd hnext (Nat.ne_of_lt ?_)
        rcases outcome with reply | error
        · cases reply <;> exact Nat.lt_succ_self _
        · exact Nat.lt_succ_self _
      | subscribeTopic backendId topic handler =>
        refine absurd hnext (Nat.ne_of_lt ?_)
        cases outcome with
        | resolved reply =>
          change (addHandler backendId topic handler { c with settledOp := none }).nextOp < c.nextOp + 1
          rw [(addHandler_ops _ _ _ _).nextOp]
          exact Nat.lt_succ_self _
        | rejected error => exact Nat.lt_succ_self _
      | unsubscribe backendId topic => exact absurd hnext (Nat.ne_of_lt (Nat.lt_succ_self _))
      | resubscribeTopics trigger stamp backendId topic =>
        dsimp only at hnext hlast ⊢
        rw [resubscribeFrom_eq] at hnext
        simp only [resubscribeFrom_eq] at hlast
        unfold nextResubscribe at hnext hlast ⊢
        dsimp only at hnext hlast
        cases hfind : c.topicHandlers.entries.find? (fun p => decide (stamp + 1 ≤ p.2.stamp)) with
        | none =>
          simp only [hfind, Option.map_none] at hnext
          split at hnext <;> exact absurd hnext (by simp [emit])
        | some p =>
          simp only [hfind, Option.map_some] at hlast
          exact congrArg some (hlast rfl)
  | connect =>
    refine hsame ?_
    change c.connect.nextOp = _
    unfold connect
    split <;> rfl
  | close => exact hsame (sameOps_close c).nextOp
  | opened ws =>
    refine hsame ?_
    change (c.socketOpened ws).nextOp = _
    unfold socketOpened
    split
    · dsimp only
      split <;> rfl
    · rfl
  | error ws =>
    refine hsame ?_
    change (c.socketError ws).nextOp = _
    unfold socketError
    split
    · rfl
    · dsimp only
      split <;> rfl
    · rfl
  | message ws message =>
    refine hsame ?_
    change (c.socketMessage ws message).nextOp = _
    unfold socketMessage
    split
    · split
      · rfl
      · rfl
      · exact routeMessage_nextOp _ _
      · rfl
    · split
      · rfl
      · rfl
      · exact routeMessage_nextOp _ _
      · rfl
    · rfl
  | closed ws =>
    refine hsame ?_
    change (c.socketClosed o ws).nextOp = _
    unfold socketClosed
    split
    · rfl
    · dsimp only
      split
      · rw [(sameOps_handleClose o _).nextOp, failPending_nextOp]
        rfl
      · rfl
      · rfl
    · rfl
  | readyTimeout ws =>
    refine hsame ?_
    change (c.readyTimeout ws).nextOp = _
    unfold readyTimeout
    split <;> rfl
  | reconnectTimer i =>
    refine hsame ?_
    change (c.reconnectTimer i).nextOp = _
    unfold reconnectTimer
    split
    · dsimp only
      split <;> rfl
    · rfl
  | runOp => exact hsame (runOp_nextOp c)
  | opTimeout op => exact hsame (opTimeout_nextOp c op)

/-! ## What is in flight -/

theorem SameOps.inFlight (h : c.SameOps c') : c'.inFlight = c.inFlight := by
  have hqueue : c'.opQueue = c.opQueue := congrArg OpsPart.opQueue h.1
  have hrunning : c'.runningOp = c.runningOp := congrArg OpsPart.runningOp h.1
  have hsettled : c'.settledOp = c.settledOp := congrArg OpsPart.settledOp h.1
  rw [GatewayClient.inFlight, hqueue, hrunning, hsettled, GatewayClient.inFlight]

theorem mem_inFlight {op : ControlOp} :
    op ∈ c.inFlight ↔ op ∈ c.opQueue ∨ c.runningOp = some op ∨ ∃ outcome, c.settledOp = some (op, outcome) := by
  unfold inFlight
  rcases hs : c.settledOp with _ | ⟨op', outcome⟩ <;> rcases hr : c.runningOp with _ | op'' <;> simp [eq_comm]

theorem mem_inFlight_settleOp {op op' : ControlOp} {outcome : OpOutcome} (h : op' ∈ (c.settleOp op outcome).inFlight) :
    op' ∈ c.inFlight := by
  unfold settleOp at h
  dsimp only at h
  split at h
  · rename_i hrun
    rw [mem_inFlight] at h ⊢
    rcases h with h | h | ⟨outcome', h⟩
    · exact Or.inl h
    · exact nomatch h
    · have hop : op = op' := congrArg Prod.fst (Option.some.inj h)
      exact Or.inr (Or.inl (hop ▸ hrun))
  · exact h

theorem mem_inFlight_settlePending {op : ControlOp} {type : ReplyType} {reply : GatewayToPeer}
    (h : op ∈ (c.settlePending type reply).inFlight) : op ∈ c.inFlight := by
  unfold settlePending at h
  split at h
  · split at h
    · have hbefore := mem_inFlight_settleOp h
      exact hbefore
    · exact h
  · exact h

theorem mem_inFlight_failPending {op : ControlOp} {error : OpError} (h : op ∈ (c.failPending error).inFlight) :
    op ∈ c.inFlight := by
  unfold failPending at h
  split at h
  · have hbefore := mem_inFlight_settleOp h
    exact hbefore
  · exact h

theorem mem_inFlight_runOp {op : ControlOp} (h : op ∈ c.runOp.inFlight) : op ∈ c.inFlight := by
  unfold runOp at h
  split at h
  · rename_i head rest hqueue hrunning hsettled
    have htaken {d : GatewayClient} (hd : d.inFlight = rest ++ [head]) (hop : op ∈ d.inFlight) : op ∈ c.inFlight := by
      rw [hd] at hop
      rw [mem_inFlight, hqueue]
      exact Or.inl (by simpa [or_comm] using hop)
    have hstart : ({ c with opQueue := rest, runningOp := some head } : GatewayClient).inFlight = rest ++ [head] := by
      simp [inFlight, hsettled]
    dsimp only at h
    split at h
    · split at h
      · exact htaken hstart (mem_inFlight_settleOp h)
      · split at h
        · refine htaken ?_ h
          simp [inFlight, emit]
        · refine htaken ?_ h
          rw [(sameOps_send _ _ _).inFlight]
          exact hstart
    · exact htaken hstart (mem_inFlight_settleOp h)
  · exact h

theorem mem_inFlight_opTimeout {op op' : ControlOp} (h : op' ∈ (c.opTimeout op).inFlight) : op' ∈ c.inFlight := by
  unfold opTimeout at h
  split at h
  · dsimp only at h
    have h := mem_inFlight_settleOp h
    split at h <;> exact h
  · exact h

/-- What is in flight after an event was before it, or the event issued it. -/
theorem mem_inFlight_handle {o : GatewayClientOptions} {e : ClientEvent} {op : ControlOp}
    (h : op ∈ (c.handle o e).inFlight) : op ∈ c.inFlight ∨ c.issue e = some op.caller := by
  obtain ⟨d, hd, hs⟩ := handle_ops o c e
  have hnext : (c.handle o e).nextOp = d.nextOp := hs.nextOp
  have hqueue : (c.handle o e).opQueue = d.opQueue := congrArg OpsPart.opQueue hs.1
  rw [hs.inFlight] at h
  cases hd with
  | idle => exact Or.inl h
  | issue e caller =>
    rw [mem_inFlight] at h
    rcases h with h | h | h
    · rcases List.mem_append.mp h with h | h
      · exact Or.inl (mem_inFlight.mpr (Or.inl h))
      · rw [List.mem_singleton.mp h]
        exact Or.inr (issue_of_handle hnext hqueue)
    · exact Or.inl (mem_inFlight.mpr (Or.inr (Or.inl h)))
    · exact Or.inl (mem_inFlight.mpr (Or.inr (Or.inr h)))
  | settle ws type message _ _ => exact Or.inl (mem_inFlight_settlePending h)
  | fail ws code text _ => exact Or.inl (mem_inFlight_failPending h)
  | lose ws => exact Or.inl (mem_inFlight_failPending h)
  | dialed ws r target channelId _ => exact Or.inl h
  | run => exact Or.inl (mem_inFlight_runOp h)
  | timeout op => exact Or.inl (mem_inFlight_opTimeout h)
  | resumed =>
    rw [mem_inFlight] at h
    rcases h with h | h | ⟨outcome, h⟩
    · exact Or.inl (mem_inFlight.mpr (Or.inl h))
    · exact Or.inl (mem_inFlight.mpr (Or.inr (Or.inl h)))
    · exact nomatch h
  | next caller =>
    rw [mem_inFlight] at h
    rcases h with h | h | ⟨outcome, h⟩
    · rcases List.mem_append.mp h with h | h
      · exact Or.inl (mem_inFlight.mpr (Or.inl h))
      · rw [List.mem_singleton.mp h]
        exact Or.inr (issue_of_handle hnext hqueue)
    · exact Or.inl (mem_inFlight.mpr (Or.inr (Or.inl h)))
    · exact nomatch h

end GatewayClient

end ZclaudiaGateway
