import ZclaudiaGateway.Theorems.ClientSession
import ZclaudiaGateway.Lemmas.ClientStages

/-!
# What a resolved `connect` means

A `connect` means to resolve when the client is connected, or at least when a handshake or a reconnect timer will see to it. It
does in every run in which nobody calls it again after its handshake has failed, and no session of a client that does not
reconnect ends under a `connect` that still resubscribes.
-/

namespace ZclaudiaGateway

/-- The handshake that the socket was made for is pending, or its failure is about to schedule the next one. -/
def ClientSocket.Pending (k : ClientSocket) : Prop :=
  match k.use with
  | .control .opening _ | .control .opened _ | .control .awaitingReady _ | .control (.ready _ _) _ => True
  | .control .failed .reconnectTimer => True
  | _ => False

/-- `resubscribeTopics` on behalf of a call of `connect`. -/
def OpCaller.OfConnect : OpCaller → Prop
  | .resubscribeTopics .connectCall _ _ _ => True
  | _ => False

namespace GatewayClient

/-- A call of `connect` resolves. -/
def Resolves (c : GatewayClient) : Prop := .connect true ∈ c.outbox

/-- The client is connected, or a handshake or a reconnect timer is pending. -/
def Underway (c : GatewayClient) : Prop :=
  c.state = .connected ∨ (∃ ws k, c.sockets.get ws = some k ∧ k.Pending) ∨ c.reconnectTimers ≠ []

/-- The event is neither of these:
- a call of `connect` after the handshake of one has failed;
- the end of the live session of a client that does not reconnect, while a `connect` still resubscribes. -/
def Sustained (o : GatewayClientOptions) (c : GatewayClient) : ClientEvent → Prop
  | .connect =>
    ∀ ws k, c.sockets.get ws = some k → k.use ≠ .control .failed .connectCall ∧ k.use ≠ .control .ended .connectCall
  | .closed ws =>
    o.reconnect = false → ∀ r trigger, c.sockets.get ws = some ⟨r, .control .established trigger⟩ → r ≠ .closed →
      ∀ op ∈ c.inFlight, ¬ op.caller.OfConnect
  | _ => True

end GatewayClient

/-! ## The stages of a client that is on its way -/

/-- What a phase tells of the attempt of its socket. -/
def ClientSocket.At (k : ClientSocket) : Phase → Prop
  | .past => True
  | .trying _ => k.Pending
  | .failed trigger => k.use = .control .failed trigger
  | .live => ∃ trigger, k.use = .control .established trigger ∧ k.readyState ≠ .closed
  | .gaveUp => k.use = .control .ended .connectCall

namespace Stage

def Underway : Stage → Prop
  | .resting | .on _ (.failed .connectCall) | .on _ .gaveUp | .on _ .past => False
  | _ => True

/-- What may come after a session that a call of `connect` began. -/
def Follows : Stage → Prop
  | .waiting | .stranded | .on _ .live | .on _ (.trying .reconnectTimer) | .on _ (.failed .reconnectTimer) => True
  | _ => False

variable {s s' : Stage}

theorem Follows.underway (h : s.Follows) : s.Underway := by
  cases s with
  | resting => exact h
  | waiting => trivial
  | stranded => trivial
  | on ws phase =>
    cases phase with
    | past => exact h
    | trying trigger => trivial
    | failed trigger => cases trigger <;> exact h
    | live => trivial
    | gaveUp => exact h

/-- Only the end of a session that is not to be reconnected leaves these stages. -/
theorem Move.follows {o : GatewayClientOptions} {e : ClientEvent} (hm : Move o e s s') (h : s.Follows) :
    s'.Follows ∨ ∃ ws, e = .closed ws ∧ o.reconnect = false ∧ s = .on ws .live := by
  cases hm with
  | stay => exact Or.inl h
  | begin ws => exact h.elim
  | retry i ws => exact Or.inl trivial
  | fail e ws trigger => cases trigger <;> exact Or.inl h
  | giveUp ws => exact h.elim
  | wait ws => exact Or.inl trivial
  | succeed ws trigger => exact Or.inl trivial
  | strand ws trigger => exact Or.inl trivial
  | lose ws ho => exact Or.inl trivial
  | rest ws ho => exact Or.inr ⟨ws, rfl, ho, rfl⟩

theorem follows_of_connected (hs : s.Shows .connected) (hover : ∀ ws, s ≠ .on ws .past) : s.Follows := by
  cases s with
  | resting => rcases hs with hs | hs <;> exact nomatch hs
  | waiting => trivial
  | stranded => trivial
  | on ws phase =>
    cases phase with
    | past => exact absurd rfl (hover ws)
    | live => trivial
    | trying trigger => exact nomatch hs
    | failed trigger => exact nomatch hs
    | gaveUp => exact nomatch hs

end Stage

namespace GatewayClient

variable {c c' : GatewayClient} {s s' : Stage}

theorem at_phase (k : ClientSocket) : k.At k.phase := by
  rcases k with ⟨r, ⟨attempt, trigger⟩ | ⟨target, channelId, dial⟩⟩
  · cases attempt with
    | established =>
      rw [phase_established]
      split
      · trivial
      · rename_i hr
        exact ⟨trigger, rfl, hr⟩
    | ended => cases trigger <;> trivial
    | failed => exact rfl
    | _ => trivial
  · trivial

/-- The socket that the connection hangs on. -/
theorem Stands.get {ws : SocketId} {phase : Phase} (h : c.Stands (.on ws phase)) :
    ∃ k, c.sockets.get ws = some k ∧ k.phase = phase := by
  have hphase : c.phaseAt ws = phase := by rw [h.phase, Stage.phaseAt_on, if_pos rfl]
  have hne : phase ≠ .past := fun he => h.notOver ws (he ▸ rfl)
  obtain ⟨k, hk⟩ := get_of_phaseAt (hphase ▸ hne)
  exact ⟨k, hk, (phaseAt_of_get hk).symm.trans hphase⟩

theorem Stands.underway (h : c.Stands s) (hs : s.Underway) : c.Underway := by
  cases s with
  | resting => exact hs.elim
  | waiting =>
    refine Or.inr (Or.inr (fun hnone => ?_))
    have hone := h.timers
    rw [hnone] at hone
    exact nomatch hone
  | stranded => exact Or.inl h.shows
  | on ws phase =>
    obtain ⟨k, hk, hphase⟩ := h.get
    have huse : k.At phase := hphase ▸ at_phase k
    cases phase with
    | past => exact hs.elim
    | gaveUp => exact hs.elim
    | live => exact Or.inl h.shows
    | trying trigger => exact Or.inr (Or.inl ⟨ws, k, hk, huse⟩)
    | failed trigger =>
      cases trigger with
      | connectCall => exact hs.elim
      | reconnectTimer =>
        refine Or.inr (Or.inl ⟨ws, k, hk, ?_⟩)
        rw [ClientSocket.Pending, show k.use = _ from huse]
        trivial

theorem state_connect (c : GatewayClient) : c.connect.state = .connected ∨ c.connect.state = .connecting := by
  unfold connect
  split
  · rename_i h
    exact h
  · exact Or.inr rfl

/-- A call of `connect` finds the client on its way or at rest. -/
theorem Stands.underway_connect {o : GatewayClientOptions} (h : c.Stands s) (hc : c.Sustained o .connect) : c.connect.Underway := by
  obtain ⟨s', hm, h'⟩ := h.connect o
  refine Stands.underway h' ?_
  cases hm with
  | begin ws => trivial
  | fail e ws trigger he => exact absurd rfl he
  | stay =>
    cases s with
    | resting =>
      have hshows : c.connect.state = .idle ∨ c.connect.state = .closed := h'.shows
      rcases state_connect c with hstate | hstate <;> rw [hstate] at hshows <;> rcases hshows with hshows | hshows <;>
        exact nomatch hshows
    | waiting => trivial
    | stranded => trivial
    | on ws phase =>
      obtain ⟨k, hk, hphase⟩ := h.get
      have huse : k.At phase := hphase ▸ at_phase k
      cases phase with
      | past => exact absurd rfl (h.notOver ws)
      | gaveUp => exact absurd huse (hc ws k hk).2
      | live => trivial
      | trying trigger => trivial
      | failed trigger =>
        cases trigger with
        | connectCall => exact absurd huse (hc ws k hk).1
        | reconnectTimer => trivial

/-! ## What resolves a `connect` -/

theorem resolves_emit {r : ClientOutput} (h : (c.emit r).Resolves) : c.Resolves ∨ r = .connect true := by
  rcases List.mem_append.mp h with h | h
  · exact Or.inl h
  · exact Or.inr (List.mem_singleton.mp h).symm

theorem Resolves.of_settleOp {op : ControlOp} {outcome : OpOutcome} (h : (c.settleOp op outcome).Resolves) : c.Resolves := by
  unfold settleOp at h
  dsimp only at h
  split at h
  · exact (resolves_emit h).resolve_right nofun
  · exact h

theorem Resolves.of_settlePending {type : ReplyType} {reply : GatewayToPeer} (h : (c.settlePending type reply).Resolves) :
    c.Resolves := by
  unfold settlePending at h
  split at h
  · split at h
    · have hbefore := Resolves.of_settleOp h
      exact hbefore
    · exact h
  · exact h

theorem Resolves.of_failPending {error : OpError} (h : (c.failPending error).Resolves) : c.Resolves := by
  unfold failPending at h
  split at h
  · have hbefore := Resolves.of_settleOp h
    exact hbefore
  · exact h

theorem Resolves.of_send {ws : SocketId} {message : PeerToGateway} (h : (c.send ws message).Resolves) : c.Resolves := by
  unfold send at h
  split at h
  · exact (resolves_emit h).resolve_right nofun
  · exact h

theorem Resolves.of_closeChannels (h : c.closeChannels.Resolves) : c.Resolves := by
  obtain ⟨sockets, -, he⟩ := closeChannels_eq c
  rw [he] at h
  exact h

theorem Resolves.of_deliver {handlers : List HandlerId} {payload : Option JsonValue}
    (h : (handlers.foldl (fun c handler => c.emit (.deliver handler payload)) c).Resolves) : c.Resolves := by
  induction handlers generalizing c with
  | nil => exact h
  | cons handler handlers ih => exact (resolves_emit (ih h)).resolve_right nofun

theorem Resolves.of_routeMessage {message : GatewayToPeer} (h : (c.routeMessage message).Resolves) : c.Resolves := by
  unfold routeMessage at h
  split at h
  · exact h
  · split at h
    · exact h.of_deliver
    · exact h
  · split at h <;> exact h
  · exact h.of_settlePending
  · exact h.of_settlePending
  · exact h.of_settlePending
  · exact h.of_failPending
  · exact h

theorem Resolves.of_runOp (h : c.runOp.Resolves) : c.Resolves := by
  unfold runOp at h
  split at h
  · dsimp only at h
    split at h
    · split at h
      · have hbefore := Resolves.of_settleOp h
        exact hbefore
      · split at h
        · exact (resolves_emit h).resolve_right (by simp)
        · have hbefore := Resolves.of_send h
          exact hbefore
    · have hbefore := Resolves.of_settleOp h
      exact hbefore
  · exact h

theorem Resolves.of_handleClose {o : GatewayClientOptions} (h : (c.handleClose o).Resolves) : c.Resolves := by
  unfold handleClose at h
  have hbefore (hd : ({ c with socket := none }.failPending .connectionClosed).closeChannels.Resolves) : c.Resolves := by
    have hfail := hd.of_closeChannels.of_failPending
    exact hfail
  dsimp only at h
  split at h
  · exact hbefore h
  · split at h
    · exact hbefore h
    · exact hbefore h

theorem resolves_resubscribeFrom {trigger : Trigger} {stamp : Nat} (h : (c.resubscribeFrom trigger stamp).Resolves) :
    c.Resolves ∨ trigger = .connectCall := by
  unfold resubscribeFrom at h
  split at h
  · exact Or.inl h
  · split at h
    · rename_i ht
      exact Or.inr ht
    · exact Or.inl h

/-- A call of `connect` resolves at once, with the end of its handshake or with its last resubscription. -/
theorem resolves_handle {o : GatewayClientOptions} {e : ClientEvent} (he : e ≠ .close) (hquiet : ¬ c.Resolves)
    (h : (c.handle o e).Resolves) :
    e = .connect ∨
      (∃ ws r peerSessionId items, e = .resume ws ∧
        c.sockets.get ws = some ⟨r, .control (.ready peerSessionId items) .connectCall⟩) ∨
      (e = .resumeOp ∧ ∃ op outcome, c.settledOp = some (op, outcome) ∧ op.caller.OfConnect) := by
  have hnone {p : Prop} (hc : c.Resolves) : p := absurd hc hquiet
  cases e with
  | connect => exact Or.inl rfl
  | close => exact absurd rfl he
  | openChannel target kind => exact hnone h
  | subscribeTopic backendId topic handler => exact hnone h
  | unsubscribe backendId topic handler =>
    change (c.unsubscribe backendId topic handler).Resolves at h
    unfold GatewayClient.unsubscribe at h
    dsimp only at h
    split at h
    · split at h <;> exact hnone h
    · exact hnone h
  | opened ws =>
    change (c.socketOpened ws).Resolves at h
    unfold socketOpened at h
    split at h
    · dsimp only at h
      split at h <;> exact hnone h
    · exact hnone h
  | error ws =>
    change (c.socketError ws).Resolves at h
    unfold socketError at h
    split at h
    · exact hnone h
    · dsimp only at h
      split at h <;> exact hnone h
    · exact hnone h
  | message ws message =>
    change (c.socketMessage ws message).Resolves at h
    unfold socketMessage at h
    split at h
    · split at h
      · exact hnone h
      · exact hnone h
      · exact hnone h.of_routeMessage
      · exact hnone h
    · split at h
      · exact hnone h
      · exact hnone h
      · exact hnone h.of_routeMessage
      · exact hnone h
    · exact hnone h
  | closed ws =>
    change (c.socketClosed o ws).Resolves at h
    unfold socketClosed at h
    split at h
    · exact hnone h
    · dsimp only at h
      split at h
      · exact hnone h.of_handleClose
      · exact hnone h
      · exact hnone h
    · exact hnone h
  | readyTimeout ws =>
    change (c.readyTimeout ws).Resolves at h
    unfold readyTimeout at h
    split at h <;> exact hnone h
  | resume ws =>
    change (c.resume o ws).Resolves at h
    unfold GatewayClient.resume at h
    split at h
    · exact hnone h.of_send
    · rename_i r peerSessionId items trigger hk
      rcases resolves_resubscribeFrom h with h | rfl
      · exact hnone h
      · exact Or.inr (Or.inl ⟨ws, r, peerSessionId, items, rfl, hk⟩)
    · dsimp only at h
      split at h
      · exact hnone ((resolves_emit h).resolve_right (by simp))
      · exact hnone h
    · exact hnone ((resolves_emit h).resolve_right (by simp))
    · exact hnone h
    · exact hnone h
  | reconnectTimer i =>
    change (c.reconnectTimer i).Resolves at h
    unfold GatewayClient.reconnectTimer at h
    split at h
    · dsimp only at h
      split at h <;> exact hnone h
    · exact hnone h
  | runOp => exact hnone (Resolves.of_runOp h)
  | opTimeout op =>
    change (c.opTimeout op).Resolves at h
    unfold opTimeout at h
    split at h
    · dsimp only at h
      have h := Resolves.of_settleOp h
      split at h <;> exact hnone h
    · exact hnone h
  | resumeOp =>
    change c.resumeOp.Resolves at h
    unfold GatewayClient.resumeOp at h
    split at h
    · rename_i op outcome hop
      dsimp only at h
      split at h
      · exact hnone h
      · unfold addHandler at h
        dsimp only at h
        split at h
        · split at h <;> exact hnone h
        · exact hnone h
      · rename_i trigger stamp backendId topic hcaller
        rcases resolves_resubscribeFrom h with h | rfl
        · exact hnone h
        · exact Or.inr (Or.inr ⟨rfl, op, _, hop, by rw [hcaller]; trivial⟩)
      · exact hnone h
    · exact hnone h

/-! ## Every run -/

/-- The client is at a stage, and while a `connect` resubscribes it is at one that follows its session. -/
def OnCourse (c : GatewayClient) : Prop := ∃ s, c.Stands s ∧ ∀ op ∈ c.inFlight, op.caller.OfConnect → s.Follows

theorem onCourse_init : GatewayClient.init.OnCourse :=
  ⟨.resting, ⟨rfl, rfl, Or.inl rfl, fun _ => rfl, nofun⟩, fun _ hop => (nomatch hop)⟩

/-- The operation that `resubscribeTopics` issues on behalf of a `connect` goes on from its session. -/
theorem issue_ofConnect {e : ClientEvent} {caller : OpCaller} (h : c.issue e = some caller) (hc : caller.OfConnect) :
    (∃ ws r peerSessionId items, e = .resume ws ∧
      c.sockets.get ws = some ⟨r, .control (.ready peerSessionId items) .connectCall⟩) ∨
    (e = .resumeOp ∧ ∃ op outcome, c.settledOp = some (op, outcome) ∧ op.caller.OfConnect) := by
  have hnext {trigger : Trigger} {stamp : Nat} (h : c.nextResubscribe trigger stamp = some caller) : trigger = .connectCall := by
    unfold nextResubscribe at h
    obtain ⟨p, -, rfl⟩ := Option.map_eq_some_iff.mp h
    cases trigger with
    | connectCall => rfl
    | reconnectTimer => exact hc.elim
  unfold issue at h
  split at h
  · cases h
    exact hc.elim
  · cases h
    exact hc.elim
  · split at h
    · split at h
      · cases h
        exact hc.elim
      · cases h
    · cases h
  · rename_i ws
    split at h
    · rename_i r peerSessionId items trigger hk
      obtain rfl := hnext h
      exact Or.inl ⟨ws, r, peerSessionId, items, rfl, hk⟩
    · cases h
  · split at h
    · rename_i id trigger stamp backendId topic outcome hop
      obtain rfl := hnext h
      exact Or.inr ⟨rfl, _, outcome, hop, trivial⟩
    · cases h
  · cases h

theorem state_resume_ready {o : GatewayClientOptions} {ws : SocketId} {r : WebSocketState} {peerSessionId : String}
    {items : List BackendPresence} {trigger : Trigger}
    (hk : c.sockets.get ws = some ⟨r, .control (.ready peerSessionId items) trigger⟩) : (c.resume o ws).state = .connected := by
  unfold GatewayClient.resume
  rw [hk]
  exact congrArg SessionPart.state (session_resubscribeFrom _ _ _)

/-- Every sustained event keeps the client on course. -/
theorem OnCourse.handle {o : GatewayClientOptions} {e : ClientEvent} (h : c.OnCourse)
    (hfresh : ∀ ws k, c.sockets.get ws = some k → ws < c.nextSocket) (he : e ≠ .close) (hs : c.Sustained o e) :
    (c.handle o e).OnCourse := by
  obtain ⟨s, hstands, hflight⟩ := h
  obtain ⟨s', hm, h'⟩ := hstands.handle o hfresh he
  have hfollows (op : ControlOp) (hop : op ∈ c.inFlight) (hc : op.caller.OfConnect) : s'.Follows := by
    rcases hm.follows (hflight op hop hc) with hs' | ⟨ws, rfl, ho, rfl⟩
    · exact hs'
    · obtain ⟨⟨r, use⟩, hk, hphase⟩ := hstands.get
      have huse : ClientSocket.At ⟨r, use⟩ .live := hphase ▸ at_phase _
      obtain ⟨trigger, rfl, hr⟩ := huse
      exact absurd hc (hs ho r trigger hk hr op hop)
  refine ⟨s', h', fun op hop hc => ?_⟩
  rcases mem_inFlight_handle hop with hop | hissue
  · exact hfollows op hop hc
  · rcases issue_ofConnect hissue hc with ⟨ws, r, peerSessionId, items, rfl, hk⟩ | ⟨rfl, op', outcome, hop', hc'⟩
    · exact Stage.follows_of_connected (state_resume_ready (o := o) hk ▸ h'.shows) h'.notOver
    · exact hfollows op' (mem_inFlight.mpr (Or.inr (Or.inr ⟨outcome, hop'⟩))) hc'

/-- With a sustained event that resolves a `connect`, the client is underway. -/
theorem OnCourse.underway {o : GatewayClientOptions} {e : ClientEvent} (h : c.OnCourse)
    (hfresh : ∀ ws k, c.sockets.get ws = some k → ws < c.nextSocket) (he : e ≠ .close) (hs : c.Sustained o e)
    (hquiet : ¬ c.Resolves) (hr : (c.handle o e).Resolves) : (c.handle o e).Underway := by
  rcases resolves_handle he hquiet hr with rfl | ⟨ws, r, peerSessionId, items, rfl, hk⟩ | ⟨rfl, op, outcome, hop, hc⟩
  · obtain ⟨s, hstands, -⟩ := h
    exact hstands.underway_connect hs
  · exact Or.inl (state_resume_ready hk)
  · obtain ⟨s, hstands, hflight⟩ := h
    obtain ⟨s', hm, h'⟩ := hstands.handle o hfresh he
    refine h'.underway (Stage.Follows.underway ?_)
    rcases hm.follows (hflight op (mem_inFlight.mpr (Or.inr (Or.inr ⟨outcome, hop⟩))) hc) with hs' | ⟨ws, hclosed, -⟩
    · exact hs'
    · exact nomatch hclosed

theorem OnCourse.quiet (h : c.OnCourse) : c.quiet.OnCourse := by
  obtain ⟨s, hstands, hflight⟩ := h
  exact ⟨s, hstands.of_session rfl, hflight⟩

end GatewayClient

open GatewayClient

/-- In every run without a call of `close` whose events are sustained, a `connect` that resolves finds the client connected or on
its way. -/
theorem resolved_connect_underway (o : GatewayClientOptions) (es : List ClientEvent) (hclose : ClientEvent.close ∉ es)
    (h : (client o).Meets (GatewayClient.Sustained o) es) (hr : ((client o).run es).Resolves) : ((client o).run es).Underway := by
  have hcourse (es : List ClientEvent) (hclose : ClientEvent.close ∉ es) (h : (client o).Meets (GatewayClient.Sustained o) es) :
      ((client o).run es).OnCourse := by
    induction es using List.reverseRecOn with
    | nil => exact onCourse_init
    | append_singleton es e ih =>
      rw [EventMachine.meets_snoc_iff] at h
      rw [List.mem_append, not_or, List.mem_singleton] at hclose
      rw [EventMachine.run_snoc]
      exact OnCourse.handle (ih hclose.1 h.1).quiet (wired_run o es).fresh (Ne.symm hclose.2) h.2
  rcases List.eq_nil_or_concat es with rfl | ⟨es, e, rfl⟩
  · exact nomatch hr
  · rw [List.concat_eq_append] at *
    rw [EventMachine.meets_snoc_iff] at h
    rw [List.mem_append, not_or, List.mem_singleton] at hclose
    rw [EventMachine.run_snoc] at hr ⊢
    exact OnCourse.underway (hcourse es hclose.1 h.1).quiet (wired_run o es).fresh (Ne.symm hclose.2) h.2 nofun hr

/-- The first session of a client ends, and it is called again before it has reconnected. -/
def sampleRecall : List ClientEvent := sampleConnect ++ [.closed 0, .connect]

/-- The second call resolves at once, with a reconnect timer pending. -/
theorem resolved_connect_underway_sample : ((client sampleClientOptions).run sampleRecall).Underway := by
  refine resolved_connect_underway sampleClientOptions sampleRecall ?_ ?_ ?_
  · simp [sampleRecall, sampleConnect]
  · rw [EventMachine.meets_iff_take]
    rintro (_ | _ | _ | _ | _ | _ | _ | i) hi
    · exact fun _ _ hk => nomatch hk
    · trivial
    · trivial
    · trivial
    · trivial
    · exact fun hno => nomatch hno
    · intro ws k hk
      have hsockets : ((client sampleClientOptions).run (sampleRecall.take 6)).sockets.entries =
          [(0, ⟨.closed, .control .established .connectCall⟩)] := rfl
      have hmem : (ws, k) ∈ ((client sampleClientOptions).run (sampleRecall.take 6)).sockets.entries :=
        InsertionMap.mem_entries_iff.mpr hk
      rw [hsockets, List.mem_singleton] at hmem
      cases hmem
      exact ⟨nofun, nofun⟩
    · have hlength : sampleRecall.length = 7 := rfl
      omega
  · exact List.mem_singleton.mpr rfl

/-- The first handshake ends with an error. The next `connect` resolves at once, and nothing is on the way. -/
theorem connect_after_failure_resolves :
    ClientEvent.close ∉ [ClientEvent.connect, .error 0, .resume 0, .connect] ∧
      ((client sampleClientOptions).run [.connect, .error 0, .resume 0, .connect]).Resolves ∧
      ¬ ((client sampleClientOptions).run [.connect, .error 0, .resume 0, .connect]).Underway := by
  refine ⟨by simp, List.mem_singleton.mpr rfl, ?_⟩
  rintro (h | ⟨ws, k, hk, hp⟩ | h)
  · exact nomatch h
  · rcases ws with _ | ws
    · cases hk
      exact hp
    · exact nomatch hk
  · exact h rfl

end ZclaudiaGateway
