import ZclaudiaGateway.Lemmas.Backend

/-!
# What follows `peer_ready`

Once the gateway has accepted a backend, every offer is dialed or rejected, and the end of the connection is answered by a
stand-down or by a reconnect timer, so that a backend that says it is connected has a socket that has not closed. The
handshake listens for neither between `peer_ready` and its own continuation: that is where the code loses both.
-/

namespace ZclaudiaGateway

namespace GatewayBackend

/-! ## Offers and closes -/

/-- `peer_ready` has been dispatched on the socket, which has not closed. -/
def PastReady (b : GatewayBackend) (ws : SocketId) : Prop :=
  ∃ k call, b.sockets.get ws = some k ∧ k.readyState ≠ .closed ∧
    ((∃ grant, k.use = .control (.ready grant) call) ∨ k.use = .control .established call)

/-- A data socket for the offer is made, or `channel_reject` is sent. -/
def Answers (b b' : GatewayBackend) (ws : SocketId) (offer : ChannelOffer) : Prop :=
  (∃ handler, b.handlerFor offer = some handler ∧ b.sockets.get b.nextSocket = none ∧
    b'.sockets.get b.nextSocket = some ⟨.connecting, .data offer handler .opening⟩) ∨
  .send ws (.message (.channelReject offer.channelId)) ∈ b'.outbox

/-- The backend gives its identity up: nothing is left that would connect again. -/
structure StandsDown (b b' : GatewayBackend) : Prop where
  state : b'.state = .closed
  failure : b'.failure = some ⟨.replaced, BackendErrorCode.replaced.text, none, b.now⟩
  socket : b'.socket = none
  exchanges : b'.exchanges = []
  timers : b'.reconnectTimers = []

/-- One reconnect timer is armed. -/
structure Reconnects (o : GatewayBackendOptions) (b b' : GatewayBackend) : Prop where
  state : b'.state = .connecting
  socket : b'.socket = none
  exchanges : b'.exchanges = []
  timers : b'.reconnectTimers = [min (o.reconnectMinMs * 2 ^ b.reconnectAttempt) o.reconnectMaxMs]

/-- No offer and no close is lost in the step, as long as the application has not closed the backend. -/
structure LosesNothing (o : GatewayBackendOptions) (b : GatewayBackend) (e : BackendEvent) : Prop where
  offer : ∀ ws channelId kind sourcePeerSessionId ticket dataPath,
    e = .message ws (some (.channelOffer channelId kind sourcePeerSessionId ticket dataPath)) → b.PastReady ws →
      b.isClosed = false → b.Answers (b.step o e) ws { channelId, kind, sourcePeerSessionId, ticket, dataPath }
  replaced : ∀ ws, e = .closed ws GATEWAY_CLOSE_BACKEND_REPLACED → b.PastReady ws → b.isClosed = false →
    b.StandsDown (b.step o e)
  dropped : ∀ ws code, e = .closed ws code → code ≠ GATEWAY_CLOSE_BACKEND_REPLACED → b.PastReady ws → b.isClosed = false →
    o.reconnect = true → b.Reconnects o (b.step o e)
  connected : (b.step o e).state = .connected →
    ∃ ws k, (b.step o e).socket = some ws ∧ (b.step o e).sockets.get ws = some k ∧ k.readyState ≠ .closed

/-! ## Sessions -/

variable {o : GatewayBackendOptions} {b : GatewayBackend} {p : BackendStage}

/-- Past `peer_ready`, unless the handshake has yet to go on, the socket carries the session. -/
theorem At.session_of_pastReady (h : b.At p) {ws : SocketId} (hready : b.PastReady ws) (hsettled : b.settled ws = false)
    (hclosed : b.isClosed = false) :
    p = .connected ws ∧ ∃ r call, b.sockets.get ws = some ⟨r, .control .established call⟩ ∧ (r = .open_ ∨ r = .closing) := by
  obtain ⟨⟨r, use⟩, call, hk, hr, ⟨grant, rfl⟩ | rfl⟩ := hready
  · rw [settled, hk] at hsettled
    cases hsettled
  · have hlive : p.live = some ws := by
      by_contra hp
      have hover := h.others ws _ hk hp
      simp only [BackendSocket.finished, decide_eq_true_eq] at hover
      exact hr hover
    refine ⟨?_, r, call, hk, ?_⟩
    · cases p with
      | resting | waiting | exchanging => cases hlive
      | attempting _ =>
        obtain ⟨k, hk', hstands⟩ := h.live ws hlive
        rw [hk, Option.some_inj] at hk'
        subst hk'
        cases hstands.1
      | connected _ => rw [Option.some.inj hlive]
      | leaving _ => cases hclosed.symm.trans h.closes
    · have hconnecting : r ≠ .connecting := fun hc => by cases h.connecting ws _ _ call hk rfl hc
      cases r with
      | connecting => exact absurd rfl hconnecting
      | open_ => exact Or.inl rfl
      | closing => exact Or.inr rfl
      | closed => exact absurd rfl hr

/-- A session answers an offer. -/
theorem At.answers {ws : SocketId} (h : b.At (.connected ws)) {r : WebSocketState} {call : Establish}
    (hk : b.sockets.get ws = some ⟨r, .control .established call⟩) (hr : r = .open_ ∨ r = .closing) (offer : ChannelOffer) :
    b.Answers (b.handleOffer offer) ws offer := by
  have hclosed : b.isClosed = false := h.closes
  unfold GatewayBackend.handleOffer
  rw [hclosed, if_neg Bool.false_ne_true]
  split
  · rename_i handler hhandler
    refine Or.inl ⟨handler, hhandler, ?_, InsertionMap.get_set_self ..⟩
    rcases hnone : b.sockets.get b.nextSocket with _ | k
    · rfl
    · exact absurd (h.fresh _ _ hnone) (Nat.lt_irrefl _)
  · refine Or.inr ?_
    have hsocket : b.socket = some ws := h.socket
    rcases hr with rfl | rfl <;> simp [reject, send, hsocket, hk, emit]

theorem socketMessage_session {ws : SocketId} {r : WebSocketState} {call : Establish}
    (hk : b.sockets.get ws = some ⟨r, .control .established call⟩) (hr : r = .open_ ∨ r = .closing) (offer : ChannelOffer) :
    b.socketMessage ws (some (.channelOffer offer.channelId offer.kind offer.sourcePeerSessionId offer.ticket offer.dataPath)) =
      b.handleOffer offer := by
  rcases hr with rfl | rfl <;> simp [socketMessage, hk, readMessage]

theorem socketClosed_session {ws : SocketId} {r : WebSocketState} {call : Establish}
    (hk : b.sockets.get ws = some ⟨r, .control .established call⟩) (hr : r = .open_ ∨ r = .closing) (code : Nat) :
    b.socketClosed o ws code = (b.setReadyState ws .closed).handleClose o ws code := by
  rcases hr with rfl | rfl <;> simp [socketClosed, hk]

theorem At.losesNothing (h : b.At p) {e : BackendEvent} (he : b.orderly e = true) : b.LosesNothing o e := by
  have hq : b.quiet.At p := h.of_same ⟨rfl, rfl, rfl, rfl, rfl, rfl, rfl⟩
  refine ⟨?_, ?_, ?_, ?_⟩
  · rintro ws channelId kind sourcePeerSessionId ticket dataPath rfl hready hclosed
    have hsettled : b.settled ws = false := by simpa [orderly] using he
    obtain ⟨rfl, r, call, hk, hr⟩ := h.session_of_pastReady hready hsettled hclosed
    have hanswers := hq.answers hk hr { channelId, kind, sourcePeerSessionId, ticket, dataPath }
    rw [← socketMessage_session (b := b.quiet) hk hr] at hanswers
    exact hanswers
  · rintro ws rfl hready hclosed
    have hsettled : b.settled ws = false := by simpa [orderly] using he
    obtain ⟨rfl, r, call, hk, hr⟩ := h.session_of_pastReady hready hsettled hclosed
    have hstep : b.step o (.closed ws GATEWAY_CLOSE_BACKEND_REPLACED) =
        (b.quiet.setReadyState ws .closed).handleClose o ws GATEWAY_CLOSE_BACKEND_REPLACED :=
      socketClosed_session (b := b.quiet) hk hr _
    have hsocket : (b.quiet.setReadyState ws .closed).socket = some ws := h.socket
    have hopen : (b.quiet.setReadyState ws .closed).isClosed = false := hclosed
    rw [hstep]
    unfold GatewayBackend.handleClose
    simp only [hsocket, hopen, ne_eq, not_true, if_false, clearHeartbeat, Bool.false_eq_true, not_false_iff, and_self, if_true]
    exact ⟨rfl, rfl, rfl, List.length_eq_zero_iff.mp h.exchanges, List.length_eq_zero_iff.mp h.timers⟩
  · rintro ws code rfl hcode hready hclosed hreconnect
    have hsettled : b.settled ws = false := by simpa [orderly] using he
    obtain ⟨rfl, r, call, hk, hr⟩ := h.session_of_pastReady hready hsettled hclosed
    have hstep : b.step o (.closed ws code) = (b.quiet.setReadyState ws .closed).handleClose o ws code :=
      socketClosed_session (b := b.quiet) hk hr _
    have hsocket : (b.quiet.setReadyState ws .closed).socket = some ws := h.socket
    have hopen : (b.quiet.setReadyState ws .closed).isClosed = false := hclosed
    rw [hstep]
    unfold GatewayBackend.handleClose
    simp only [hsocket, hopen, hcode, hreconnect, ne_eq, not_true, if_false, clearHeartbeat, Bool.false_eq_true, false_and,
      Bool.not_true, Bool.or_self]
    refine ⟨rfl, rfl, List.length_eq_zero_iff.mp h.exchanges, ?_⟩
    show b.reconnectTimers ++ _ = _
    rw [List.length_eq_zero_iff.mp h.timers]
    rfl
  · intro hstate
    obtain ⟨q, hq'⟩ := h.step (o := o) he
    obtain ⟨ws, rfl⟩ := hq'.state hstate
    obtain ⟨k, hk, -, hr⟩ := hq'.live ws rfl
    exact ⟨ws, k, hq'.socket, hk, hr⟩

end GatewayBackend

/-! ## Runs -/

open GatewayBackend in
/-- In every orderly run, no step loses an offer or a close. -/
theorem backend_loses_nothing (o : GatewayBackendOptions) (es : List BackendEvent) (e : BackendEvent)
    (hrun : (backend o).Meets (fun b e => b.orderly e = true) (es ++ [e])) : ((backend o).run es).LosesNothing o e := by
  rw [EventMachine.meets_snoc_iff] at hrun
  obtain ⟨p, hp⟩ := at_run o es hrun.1
  exact hp.losesNothing hrun.2

/-! ### A sample -/

/-- A backend with an access token. -/
def sampleBackend : GatewayBackendOptions :=
  { credential := "zga_sample"
    exchangeEnrollment := true
    ns := "default"
    identity := ⟨none, none, none, none⟩
    visible := true
    capabilities := []
    backendProtocolVersion := .finite 1
    reconnect := true
    reconnectMinMs := 1000
    reconnectMaxMs := 30000 }

/-- The gateway accepts the backend: the run up to the dispatch of `peer_ready`. -/
def acceptedRun : List BackendEvent :=
  [.connect, .resumeExchange 0, .opened 0, .resume 0,
    .message 0 (some (.peerReady 4 "peer" "recovery" (some ⟨"backend", 1, 30000⟩) []))]

def sampleOffer : GatewayToPeer := .channelOffer "channel" none none "ticket" "/channel/channel"

theorem backend_loses_nothing_sample :
    ((backend sampleBackend).run (acceptedRun ++ [.resume 0])).state = .connected ∧
      ((backend sampleBackend).run (acceptedRun ++ [.resume 0])).LosesNothing sampleBackend (.message 0 (some sampleOffer)) :=
  ⟨by decide +kernel, backend_loses_nothing sampleBackend _ _ (by decide +kernel)⟩

namespace GatewayBackend

theorem pastReady_of_settled {b : GatewayBackend} {ws : SocketId}
    (h : (b.sockets.get ws).any (fun k => k.settled && k.readyState ≠ .closed) = true) : b.PastReady ws := by
  obtain ⟨⟨r, use⟩, hk, h⟩ := (Option.any_eq_true ..).mp h
  obtain ⟨hsettled, hr⟩ := Bool.and_eq_true_iff.mp h
  obtain ⟨attempt, call⟩ | ⟨offer, handler, dial⟩ := use
  · cases attempt with
    | ready grant => exact ⟨_, call, hk, of_decide_eq_true hr, Or.inl ⟨grant, rfl⟩⟩
    | opening | opened | awaitingReady | established | failed _ | ended => cases hsettled
  · cases hsettled

end GatewayBackend

/-- An offer and a takeover that come in one batch with `peer_ready` are lost; the backend then says it is connected over a
socket that has closed. -/
theorem handshake_loses_events :
    ¬ ((backend sampleBackend).run acceptedRun).LosesNothing sampleBackend (.message 0 (some sampleOffer)) ∧
      ¬ ((backend sampleBackend).run acceptedRun).LosesNothing sampleBackend (.closed 0 GATEWAY_CLOSE_BACKEND_REPLACED) ∧
      ¬ ((backend sampleBackend).run (acceptedRun ++ [.closed 0 GATEWAY_CLOSE_BACKEND_REPLACED])).LosesNothing sampleBackend
        (.resume 0) := by
  have hready : ((backend sampleBackend).run acceptedRun).PastReady 0 := GatewayBackend.pastReady_of_settled (by decide +kernel)
  have hopen : ((backend sampleBackend).run acceptedRun).isClosed = false := by decide +kernel
  refine ⟨fun h => ?_, fun h => ?_, fun h => ?_⟩
  · rcases h.offer 0 _ _ _ _ _ rfl hready hopen with ⟨handler, hhandler, -⟩ | hsent
    · have hnone : ((backend sampleBackend).run acceptedRun).defaultChannelHandler = none := by decide +kernel
      cases hnone.symm.trans hhandler
    · have hempty : (((backend sampleBackend).run acceptedRun).step sampleBackend
          (.message 0 (some sampleOffer))).outbox.isEmpty = true := by decide +kernel
      rw [List.isEmpty_iff.mp hempty] at hsent
      cases hsent
  · have hstate : (((backend sampleBackend).run acceptedRun).step sampleBackend
        (.closed 0 GATEWAY_CLOSE_BACKEND_REPLACED)).state = .connecting := by decide +kernel
    cases hstate.symm.trans (h.replaced 0 rfl hready hopen).state
  · have hconnected : (((backend sampleBackend).run (acceptedRun ++ [.closed 0 GATEWAY_CLOSE_BACKEND_REPLACED])).step
        sampleBackend (.resume 0)).state = .connected := by decide +kernel
    have hsockets : ((((backend sampleBackend).run (acceptedRun ++ [.closed 0 GATEWAY_CLOSE_BACKEND_REPLACED])).step
        sampleBackend (.resume 0)).sockets.values.all (fun k => k.readyState = .closed)) = true := by decide +kernel
    obtain ⟨ws, k, -, hk, hr⟩ := h.connected hconnected
    exact hr (of_decide_eq_true (List.all_eq_true.mp hsockets k (InsertionMap.mem_values_iff.mpr ⟨ws, hk⟩)))

end ZclaudiaGateway
