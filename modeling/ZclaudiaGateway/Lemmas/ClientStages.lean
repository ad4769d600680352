import ZclaudiaGateway.Lemmas.ClientIssues

/-!
# The stages of a client that nobody closes

Seen from afar, a client that nobody closes rests, waits for its reconnect timer, or has one socket that its connection hangs on:
a handshake on its way or just failed, a live session, or the failed handshake of a `connect` after which nothing more happens.
Every event of the client moves it along these stages or leaves it where it is.
-/

namespace ZclaudiaGateway

/-- What a socket means to the connection. -/
inductive Phase where
  | past
  | trying (trigger : Trigger)
  | failed (trigger : Trigger)
  | live
  | gaveUp
deriving DecidableEq

def ClientSocket.phase (k : ClientSocket) : Phase :=
  match k.use with
  | .control .failed trigger => .failed trigger
  | .control .ended .connectCall => .gaveUp
  | .control .ended .reconnectTimer => .past
  | .control .established _ => if k.readyState = .closed then .past else .live
  | .control _ trigger => .trying trigger
  | .data _ _ _ => .past

theorem phase_established (r : WebSocketState) (trigger : Trigger) :
    ClientSocket.phase ⟨r, .control .established trigger⟩ = if r = .closed then .past else .live := rfl

/-- Where the connection of the client stands. -/
inductive Stage where
  | resting
  | waiting
  /-- The connection hangs on that socket, which is not over. -/
  | on (ws : SocketId) (phase : Phase)
  /-- The client took a socket for connected that had closed before. -/
  | stranded

namespace Stage

def phaseAt : Stage → SocketId → Phase
  | .on ws phase, ws' => if ws' = ws then phase else .past
  | _, _ => .past

theorem phaseAt_on (ws : SocketId) (phase : Phase) (ws' : SocketId) :
    (on ws phase).phaseAt ws' = if ws' = ws then phase else .past := rfl

/-- The reconnect timers that are armed. -/
def timers : Stage → Nat
  | .waiting => 1
  | _ => 0

/-- The `state` of the client. -/
def Shows : Stage → GatewayClientState → Prop
  | .resting, state => state = .idle ∨ state = .closed
  | .on _ .live, state | .stranded, state => state = .connected
  | _, state => state = .connecting

/-- How an event moves the connection. -/
inductive Move (o : GatewayClientOptions) : ClientEvent → Stage → Stage → Prop where
  | stay (e : ClientEvent) (s : Stage) : Move o e s s
  | begin (ws : SocketId) : Move o .connect .resting (.on ws (.trying .connectCall))
  | retry (i : Nat) (ws : SocketId) : Move o (.reconnectTimer i) .waiting (.on ws (.trying .reconnectTimer))
  | fail (e : ClientEvent) (ws : SocketId) (trigger : Trigger) : e ≠ .connect →
      Move o e (.on ws (.trying trigger)) (.on ws (.failed trigger))
  | giveUp (ws : SocketId) : Move o (.resume ws) (.on ws (.failed .connectCall)) (.on ws .gaveUp)
  | wait (ws : SocketId) : Move o (.resume ws) (.on ws (.failed .reconnectTimer)) .waiting
  | succeed (ws : SocketId) (trigger : Trigger) : Move o (.resume ws) (.on ws (.trying trigger)) (.on ws .live)
  | strand (ws : SocketId) (trigger : Trigger) : Move o (.resume ws) (.on ws (.trying trigger)) .stranded
  | lose (ws : SocketId) : o.reconnect = true → Move o (.closed ws) (.on ws .live) .waiting
  | rest (ws : SocketId) : o.reconnect = false → Move o (.closed ws) (.on ws .live) .resting

end Stage

namespace GatewayClient

def phaseAt (c : GatewayClient) (ws : SocketId) : Phase := ((c.sockets.get ws).map ClientSocket.phase).getD .past

/-- The client is at the stage. -/
structure Stands (c : GatewayClient) (s : Stage) : Prop where
  userClosed : c.userClosed = false
  timers : c.reconnectTimers.length = s.timers
  shows : s.Shows c.state
  phase : ∀ ws, c.phaseAt ws = s.phaseAt ws
  notOver : ∀ ws, s ≠ .on ws .past

variable {c c' : GatewayClient} {s : Stage}

/-! ## What changes the phase of a socket -/

theorem phaseAt_of_get {ws : SocketId} {k : ClientSocket} (hk : c.sockets.get ws = some k) : c.phaseAt ws = k.phase := by
  rw [phaseAt, hk]
  rfl

theorem phaseAt_onSocket (c : GatewayClient) (ws ws' : SocketId) (f : ClientSocket → ClientSocket) :
    (c.onSocket ws f).phaseAt ws' =
      if ws' = ws then ((c.sockets.get ws).map (fun k => (f k).phase)).getD .past else c.phaseAt ws' := by
  unfold phaseAt onSocket
  rw [InsertionMap.get_modify]
  split
  · rename_i hws
    rw [hws, Option.map_map]
    rfl
  · rfl

theorem phaseAt_onSocket_same {ws : SocketId} {f : ClientSocket → ClientSocket}
    (hf : ∀ k, c.sockets.get ws = some k → (f k).phase = k.phase) (ws' : SocketId) :
    (c.onSocket ws f).phaseAt ws' = c.phaseAt ws' := by
  rw [phaseAt_onSocket]
  split
  · rename_i hws
    rw [hws, phaseAt]
    cases hk : c.sockets.get ws with
    | none => rfl
    | some k => exact hf k hk
  · rfl

theorem phaseAt_create (c : GatewayClient) (use : SocketUse) (ws : SocketId) :
    (c.create use).phaseAt ws = if ws = c.nextSocket then ClientSocket.phase ⟨.connecting, use⟩ else c.phaseAt ws := by
  unfold phaseAt create
  rw [InsertionMap.get_set]
  split <;> rfl

theorem phase_close (k : ClientSocket) : ClientSocket.phase { k with readyState := k.readyState.close } = k.phase := by
  rcases k with ⟨r, use⟩
  cases r <;> rcases use with ⟨attempt, trigger⟩ | ⟨target, channelId, dial⟩ <;> try cases attempt
  all_goals rfl

theorem ClientSocket.Closes.phase {k k' : ClientSocket} (h : k.Closes k') : k'.phase = k.phase := by
  rcases h with rfl | rfl
  · rfl
  · exact phase_close k

theorem phaseAt_closes (h : c.sockets.Pointwise ClientSocket.Closes c'.sockets) (ws : SocketId) :
    c'.phaseAt ws = c.phaseAt ws := by
  cases hk' : c'.sockets.get ws with
  | none =>
    have hk := (h.get_none_iff ws).mp hk'
    rw [phaseAt, phaseAt, hk, hk']
  | some k' =>
    obtain ⟨k, hk, hc⟩ := h.some_get hk'
    rw [phaseAt_of_get hk, phaseAt_of_get hk']
    exact ClientSocket.Closes.phase hc

theorem get_of_phaseAt {ws : SocketId} (h : c.phaseAt ws ≠ .past) : ∃ k, c.sockets.get ws = some k := by
  cases hk : c.sockets.get ws with
  | none => exact absurd (by rw [phaseAt, hk]; rfl) h
  | some k => exact ⟨k, rfl⟩

/-! ## Staying at a stage and leaving it -/

namespace Stands

/-- A socket that is not over is the one the connection hangs on. -/
theorem eq_on (h : c.Stands s) {ws : SocketId} {phase : Phase} (hp : c.phaseAt ws = phase) (hne : phase ≠ .past) :
    s = .on ws phase := by
  rw [h.phase] at hp
  cases s with
  | on ws' phase' =>
    rw [Stage.phaseAt_on] at hp
    split at hp
    · rename_i hws
      rw [hws, hp]
    · exact absurd hp.symm hne
  | _ => exact absurd hp.symm hne

theorem of_phase (h : c.Stands s) (huser : c'.userClosed = c.userClosed) (htimers : c'.reconnectTimers = c.reconnectTimers)
    (hstate : c'.state = c.state) (hphase : ∀ ws, c'.phaseAt ws = c.phaseAt ws) : c'.Stands s :=
  ⟨huser ▸ h.userClosed, htimers ▸ h.timers, hstate ▸ h.shows, fun ws => (hphase ws).trans (h.phase ws), h.notOver⟩

theorem of_session (h : c.Stands s) (hs : c'.session = c.session) : c'.Stands s := by
  refine h.of_phase (congrArg SessionPart.userClosed hs) (congrArg SessionPart.reconnectTimers hs)
    (congrArg SessionPart.state hs) (fun ws => ?_)
  rw [phaseAt, phaseAt, show c'.sockets = c.sockets from congrArg SessionPart.sockets hs]

/-- The socket the connection hangs on enters another phase. -/
theorem on_onSocket {ws : SocketId} {phase phase' : Phase} {k : ClientSocket} {f : ClientSocket → ClientSocket}
    (h : c.Stands (.on ws phase)) (hk : c.sockets.get ws = some k) (hf : (f k).phase = phase') (hne : phase' ≠ .past)
    (hshows : (Stage.on ws phase').Shows c.state) : (c.onSocket ws f).Stands (.on ws phase') := by
  refine ⟨h.userClosed, h.timers, hshows, fun ws' => ?_, fun ws' he => ?_⟩
  · rw [phaseAt_onSocket, hk, h.phase, Stage.phaseAt_on, Stage.phaseAt_on]
    split
    · exact hf
    · rfl
  · cases he
    exact hne rfl

/-- The socket the connection hangs on is over. -/
theorem phaseAt_over {ws : SocketId} {phase : Phase} {k : ClientSocket} {f : ClientSocket → ClientSocket}
    (h : c.Stands (.on ws phase)) (hk : c.sockets.get ws = some k) (hf : (f k).phase = .past) (ws' : SocketId) :
    (c.onSocket ws f).phaseAt ws' = .past := by
  rw [phaseAt_onSocket, hk, h.phase, Stage.phaseAt_on]
  split
  · exact hf
  · rfl

/-- A handshake is given a socket of its own. -/
theorem establish (h : c.Stands s) (hover : ∀ ws, s.phaseAt ws = .past) (d : GatewayClient) (huser : d.userClosed = false)
    (htimers : d.reconnectTimers = []) (hsockets : d.sockets = c.sockets) (trigger : Trigger) :
    (d.establish trigger).Stands (.on d.nextSocket (.trying trigger)) := by
  refine ⟨huser, ?_, rfl, fun ws => ?_, nofun⟩
  · change d.reconnectTimers.length = 0
    rw [htimers]
    rfl
  · have hd : d.phaseAt ws = .past := by
      rw [phaseAt, hsockets]
      exact (h.phase ws).trans (hover ws)
    change ((d.setState .connecting).create (.control .opening trigger)).phaseAt ws = _
    rw [phaseAt_create, Stage.phaseAt_on]
    exact congrArg (ite _ _) hd

/-- A data socket has no part in it. -/
theorem create_data (h : c.Stands s) (hfresh : ∀ ws k, c.sockets.get ws = some k → ws < c.nextSocket)
    (target channelId : String) (dial : Dial) : (c.create (.data target channelId dial)).Stands s := by
  refine h.of_phase rfl rfl rfl (fun ws => ?_)
  rw [phaseAt_create]
  split
  · rename_i hws
    subst hws
    by_cases hp : c.phaseAt c.nextSocket = .past
    · exact hp.symm
    · obtain ⟨k, hk⟩ := get_of_phaseAt hp
      exact absurd (hfresh _ k hk) (Nat.lt_irrefl _)
  · rfl

end Stands

/-! ## One event -/

variable (o : GatewayClientOptions)

/-- The event moves the connection along, and the client is at the stage it moves to. -/
def MovesTo (c' : GatewayClient) (e : ClientEvent) (s : Stage) : Prop := ∃ s', Stage.Move o e s s' ∧ c'.Stands s'

theorem Stands.stays {o : GatewayClientOptions} (h : c.Stands s) (e : ClientEvent) : MovesTo o c e s := ⟨s, .stay e s, h⟩

theorem Stands.connect (h : c.Stands s) : MovesTo o c.connect .connect s := by
  unfold GatewayClient.connect
  split
  · exact (h.of_session (session_emit _ _)).stays _
  · rename_i hstate
    rw [not_or] at hstate
    cases s with
    | resting =>
      have htimers : c.reconnectTimers = [] := List.eq_nil_of_length_eq_zero h.timers
      exact ⟨_, .begin c.nextSocket, h.establish (fun _ => rfl) { c with userClosed := false } rfl htimers rfl .connectCall⟩
    | waiting => exact absurd h.shows hstate.2
    | stranded => exact absurd h.shows hstate.1
    | on ws phase =>
      cases phase with
      | live => exact absurd h.shows hstate.1
      | past => exact absurd rfl (h.notOver ws)
      | trying trigger => exact absurd h.shows hstate.2
      | failed trigger => exact absurd h.shows hstate.2
      | gaveUp => exact absurd h.shows hstate.2

theorem Stands.setReadyState (h : c.Stands s) (ws : SocketId) {r : WebSocketState}
    (hr : ∀ k, c.sockets.get ws = some k → (k.readyState = .closed ↔ r = .closed)) : (c.setReadyState ws r).Stands s := by
  refine h.of_phase rfl rfl rfl (phaseAt_onSocket_same (fun k hk => ?_))
  have hclosed := hr k hk
  rcases k with ⟨r', ⟨attempt, trigger⟩ | ⟨target, channelId, dial⟩⟩
  · cases attempt with
    | established =>
      change (if r = .closed then Phase.past else .live) = if r' = .closed then Phase.past else .live
      simp only [hclosed]
    | ended => cases trigger <;> rfl
    | _ => rfl
  · rfl

theorem Stands.closeSocket (h : c.Stands s) (ws : SocketId) : (c.closeSocket ws).Stands s :=
  h.of_phase rfl rfl rfl (phaseAt_onSocket_same (fun k _ => phase_close k))

/-- The attempt goes on to another of its phases. -/
theorem Stands.setAttempt_same (h : c.Stands s) {ws : SocketId} {r : WebSocketState} {attempt : Attempt} {trigger : Trigger}
    (hk : c.sockets.get ws = some ⟨r, .control attempt trigger⟩) (attempt' : Attempt)
    (hphase : ClientSocket.phase ⟨r, .control attempt' trigger⟩ = ClientSocket.phase ⟨r, .control attempt trigger⟩) :
    (c.setAttempt ws attempt' trigger).Stands s := by
  refine h.of_phase rfl rfl rfl (phaseAt_onSocket_same (fun k hk' => ?_))
  rw [hk, Option.some_inj] at hk'
  subst hk'
  exact hphase

theorem Stands.setDial (h : c.Stands s) {ws : SocketId} {r : WebSocketState} {target channelId : String} {dial : Dial}
    (hk : c.sockets.get ws = some ⟨r, .data target channelId dial⟩) (target' channelId' : String) (dial' : Dial) :
    (c.setDial ws target' channelId' dial').Stands s := by
  refine h.of_phase rfl rfl rfl (phaseAt_onSocket_same (fun k hk' => ?_))
  rw [hk, Option.some_inj] at hk'
  subst hk'
  rfl

/-- The handshake fails. -/
theorem Stands.fail {o : GatewayClientOptions} (h : c.Stands s) {e : ClientEvent} (he : e ≠ .connect) {ws : SocketId}
    {r : WebSocketState} {attempt : Attempt} {trigger : Trigger} (hk : c.sockets.get ws = some ⟨r, .control attempt trigger⟩)
    (htrying : ClientSocket.phase ⟨r, .control attempt trigger⟩ = .trying trigger) :
    MovesTo o (c.setAttempt ws .failed trigger) e s := by
  obtain rfl := h.eq_on ((phaseAt_of_get hk).trans htrying) nofun
  exact ⟨_, .fail e ws trigger he, h.on_onSocket hk rfl nofun h.shows⟩

theorem Stands.socketOpened (h : c.Stands s) (ws : SocketId) : MovesTo o (c.socketOpened ws) (.opened ws) s := by
  unfold GatewayClient.socketOpened
  split
  · rename_i use hk
    have hopen : (c.setReadyState ws .open_).Stands s := by
      refine h.setReadyState ws (fun k hk' => ?_)
      rw [hk, Option.some_inj] at hk'
      subst hk'
      simp
    have hget : (c.setReadyState ws .open_).sockets.get ws = some ⟨.open_, use⟩ := by
      simp [GatewayClient.setReadyState, onSocket, hk]
    dsimp only
    split
    · exact (hopen.setAttempt_same hget .opened rfl).stays _
    · exact (hopen.setDial hget _ _ _).stays _
    · exact hopen.stays _
  · exact h.stays _

theorem Stands.socketError (h : c.Stands s) (ws : SocketId) : MovesTo o (c.socketError ws) (.error ws) s := by
  unfold GatewayClient.socketError
  split
  · exact h.stays _
  · rename_i r use _ hk
    have hclosing := h.closeSocket ws
    have hget : (c.closeSocket ws).sockets.get ws = some ⟨r.close, use⟩ := by
      simp [GatewayClient.closeSocket, onSocket, hk]
    dsimp only
    split
    · exact hclosing.fail (by simp) hget rfl
    · exact (hclosing.setDial hget _ _ _).stays _
    · exact hclosing.stays _
  · exact h.stays _

theorem Stands.routeMessage (h : c.Stands s) (message : GatewayToPeer) : (c.routeMessage message).Stands s := by
  unfold GatewayClient.routeMessage
  split
  · exact h.of_session rfl
  · split
    · exact h.of_session (session_deliver _ _ _)
    · exact h
  · split
    · refine Stands.closeSocket ?_ _
      exact h.of_phase rfl rfl rfl (fun _ => rfl)
    · exact h
  all_goals first
    | exact h.of_session (session_settlePending _ _ _)
    | exact h.of_session (session_failPending _ _)
    | exact h

theorem Stands.socketMessage (h : c.Stands s) (ws : SocketId) (message : Option GatewayToPeer) :
    MovesTo o (c.socketMessage ws message) (.message ws message) s := by
  unfold GatewayClient.socketMessage
  split
  all_goals try exact h.stays _
  all_goals
    rename_i attempt trigger message hk
    split
    · exact (h.setAttempt_same hk (.ready _ _) rfl).stays _
    · exact h.fail (by nofun) hk rfl
    · exact (h.routeMessage _).stays _
    · exact h.stays _

theorem Stands.readyTimeout (h : c.Stands s) (ws : SocketId) : MovesTo o (c.readyTimeout ws) (.readyTimeout ws) s := by
  unfold GatewayClient.readyTimeout
  split
  · rename_i r trigger hk
    exact h.fail (by nofun) hk rfl
  · exact h.stays _

/-- The live session ends. -/
theorem Stands.handleClose {ws : SocketId} (h : c.Stands (.on ws .live)) {k : ClientSocket} (hk : c.sockets.get ws = some k)
    (hover : ClientSocket.phase { k with readyState := .closed } = .past) :
    MovesTo o ((c.setReadyState ws .closed).handleClose o) (.closed ws) (.on ws .live) := by
  obtain ⟨sockets, hs, he⟩ := session_handleClose o (c.setReadyState ws .closed)
  have hsockets : ((c.setReadyState ws .closed).handleClose o).sockets = sockets := congrArg SessionPart.sockets he
  have huser : ((c.setReadyState ws .closed).handleClose o).userClosed = false :=
    (congrArg SessionPart.userClosed he).trans h.userClosed
  have hstate := congrArg SessionPart.state he
  have htimers := congrArg SessionPart.reconnectTimers he
  have hphase (ws' : SocketId) : ((c.setReadyState ws .closed).handleClose o).phaseAt ws' = .past := by
    rw [phaseAt_closes (hsockets ▸ hs)]
    exact h.phaseAt_over hk hover ws'
  have hnone : c.reconnectTimers = [] := List.eq_nil_of_length_eq_zero h.timers
  have hconnected : (c.setReadyState ws .closed).state = .connected := h.shows
  have hopen : (c.setReadyState ws .closed).userClosed = false := h.userClosed
  simp only [session, afterClose, hopen, Bool.false_or] at hstate htimers
  cases ho : o.reconnect with
  | true =>
    rw [ho, if_neg (by decide), if_pos (Or.inl hconnected)] at hstate htimers
    refine ⟨_, .lose ws ho, huser, ?_, hstate, hphase, by simp⟩
    rw [htimers]
    change (c.reconnectTimers ++ [_]).length = 1
    rw [hnone]
    rfl
  | false =>
    rw [ho, if_pos (by decide)] at hstate htimers
    refine ⟨_, .rest ws ho, huser, ?_, Or.inr hstate, hphase, by simp⟩
    rw [htimers]
    exact h.timers

theorem Stands.socketClosed (h : c.Stands s) (ws : SocketId) : MovesTo o (c.socketClosed o ws) (.closed ws) s := by
  unfold GatewayClient.socketClosed
  split
  · exact h.stays _
  · rename_i r use hr hk
    have hsame (hphase : ClientSocket.phase ⟨.closed, use⟩ = ClientSocket.phase ⟨r, use⟩) :
        (c.setReadyState ws .closed).Stands s := by
      refine h.of_phase rfl rfl rfl (phaseAt_onSocket_same (fun k hk' => ?_))
      rw [hk, Option.some_inj] at hk'
      subst hk'
      exact hphase
    dsimp only
    split
    · have hlive : c.phaseAt ws = .live := by rw [phaseAt_of_get hk, phase_established, if_neg hr]
      obtain rfl := h.eq_on hlive nofun
      exact h.handleClose o hk (by rw [phase_established, if_pos rfl])
    · refine Stands.stays ?_ _
      exact Stands.of_phase (hsame rfl) rfl rfl rfl (fun _ => rfl)
    · rename_i hcontrol hdata
      refine Stands.stays (hsame ?_) _
      rcases use with ⟨attempt, trigger⟩ | ⟨target, channelId, dial⟩
      · cases attempt with
        | established => exact absurd rfl (hcontrol trigger)
        | ended => cases trigger <;> rfl
        | _ => rfl
      · rfl
  · exact h.stays _

theorem Stands.resume (h : c.Stands s) (ws : SocketId) : MovesTo o (c.resume o ws) (.resume ws) s := by
  unfold GatewayClient.resume
  split
  · rename_i r trigger hk
    exact ((h.setAttempt_same hk .awaitingReady rfl).of_session (session_send _ _ _)).stays _
  · rename_i r peerSessionId items trigger hk
    obtain rfl := h.eq_on (phaseAt_of_get hk) (by simp [ClientSocket.phase])
    generalize hd : ({ c.setAttempt ws .established trigger with
      peerSessionId, registryItems := items, reconnectAttempt := 0, state := .connected } : GatewayClient) = d
    have hd' : d.sockets = (c.setAttempt ws .established trigger).sockets := by rw [← hd]
    have hphase (ws' : SocketId) : d.phaseAt ws' = (c.setAttempt ws .established trigger).phaseAt ws' := by
      rw [phaseAt, phaseAt, hd']
    by_cases hr : r = .closed
    · refine ⟨_, .strand ws trigger, Stands.of_session ?_ (session_resubscribeFrom _ _ _)⟩
      refine ⟨by rw [← hd]; exact h.userClosed, by rw [← hd]; exact h.timers, by rw [← hd]; rfl, fun ws' => ?_, by simp⟩
      rw [hphase]
      exact h.phaseAt_over hk (by rw [phase_established, if_pos hr]) ws'
    · refine ⟨_, .succeed ws trigger, Stands.of_session ?_ (session_resubscribeFrom _ _ _)⟩
      refine ⟨by rw [← hd]; exact h.userClosed, by rw [← hd]; exact h.timers, by rw [← hd]; rfl, fun ws' => ?_, by simp⟩
      rw [hphase, setAttempt, phaseAt_onSocket, hk, h.phase, Stage.phaseAt_on, Stage.phaseAt_on]
      split
      · exact (phase_established r trigger).trans (if_neg hr)
      · rfl
  · rename_i r trigger hk
    obtain rfl := h.eq_on (phaseAt_of_get hk) (by simp [ClientSocket.phase])
    cases trigger with
    | connectCall =>
      exact ⟨_, .giveUp ws, Stands.of_session (h.on_onSocket hk rfl (by simp) h.shows) (session_emit _ _)⟩
    | reconnectTimer =>
      refine ⟨_, .wait ws, h.userClosed, ?_, h.shows, h.phaseAt_over hk rfl, by simp⟩
      change (c.reconnectTimers ++ [_]).length = 1
      rw [List.length_append, h.timers]
      rfl
  · rename_i r target channelId hk
    refine Stands.stays ?_ _
    exact Stands.of_phase (h.setDial hk target channelId .up) rfl rfl rfl (fun _ => rfl)
  · rename_i r target channelId hk
    exact (h.setDial hk target channelId .ended).stays _
  · exact h.stays _

theorem Stands.reconnectTimer (h : c.Stands s) (i : Nat) : MovesTo o (c.reconnectTimer i) (.reconnectTimer i) s := by
  unfold GatewayClient.reconnectTimer
  split
  · rename_i hi
    have hwaiting : s = .waiting := by
      rw [h.timers] at hi
      cases s with
      | waiting => rfl
      | _ => exact absurd hi (Nat.not_lt_zero i)
    subst hwaiting
    have hone : c.reconnectTimers.length = 1 := h.timers
    have hnone : c.reconnectTimers.eraseIdx i = [] := by
      refine List.eq_nil_of_length_eq_zero ?_
      rw [List.length_eraseIdx_of_lt hi, hone]
    dsimp only
    rw [if_neg (by rw [h.userClosed]; decide)]
    exact ⟨_, .retry i _, h.establish (fun _ => rfl) { c with reconnectTimers := c.reconnectTimers.eraseIdx i }
      h.userClosed hnone rfl .reconnectTimer⟩
  · exact h.stays _

theorem Stands.resumeOp (h : c.Stands s) (hfresh : ∀ ws k, c.sockets.get ws = some k → ws < c.nextSocket) :
    c.resumeOp.Stands s := by
  unfold GatewayClient.resumeOp
  split
  · have hc : ({ c with settledOp := none } : GatewayClient).Stands s := h.of_phase rfl rfl rfl (fun _ => rfl)
    dsimp only
    split
    · exact hc.create_data hfresh _ _ _
    · exact hc.of_session (session_addHandler _ _ _ _)
    · exact hc.of_session (session_resubscribeFrom _ _ _)
    · exact hc
  · exact h

/-- Every event but a call of `close` moves the connection along its stages. -/
theorem Stands.handle (h : c.Stands s) (hfresh : ∀ ws k, c.sockets.get ws = some k → ws < c.nextSocket) {e : ClientEvent}
    (he : e ≠ .close) : MovesTo o (c.handle o e) e s := by
  cases e with
  | connect => exact h.connect o
  | close => exact absurd rfl he
  | openChannel target kind => exact (h.of_session (session_controlOp _ _)).stays _
  | subscribeTopic backendId topic handler => exact (h.of_session (session_controlOp _ _)).stays _
  | unsubscribe backendId topic handler => exact (h.of_session (session_unsubscribe _ _ _ _)).stays _
  | opened ws => exact h.socketOpened o ws
  | error ws => exact h.socketError o ws
  | message ws message => exact h.socketMessage o ws message
  | closed ws => exact h.socketClosed o ws
  | readyTimeout ws => exact h.readyTimeout o ws
  | resume ws => exact h.resume o ws
  | reconnectTimer i => exact h.reconnectTimer o i
  | runOp => exact (h.of_session (session_runOp _)).stays _
  | opTimeout op => exact (h.of_session (session_opTimeout _ _)).stays _
  | resumeOp => exact (h.resumeOp hfresh).stays _

end GatewayClient

end ZclaudiaGateway
