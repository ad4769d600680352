import ZclaudiaGateway.Lemmas.Sockets

/-!
# What teardown does

A channel that is torn down is gone with its tickets, its legs are on their way out, and the response of an internal channel is
answered or cut off. Everything else is as before.
-/

namespace ZclaudiaGateway

/-- A leg after the teardown of its channel. -/
def WsSocket.torn (k : WsSocket) : WsSocket :=
  if k.readyState = .closed then k else { k with readyState := .closing, paused := false }

/-- The response of an internal channel after its teardown. -/
def HttpExchange.answered (reason : ChannelClosedReason) (x : HttpExchange) : HttpExchange :=
  if !x.headersSent then
    { x with statusCode := if reason = .timeout then 504 else 502, headersSent := true, writableEnded := true }
  else if !x.writableEnded && !x.destroyed then { x with destroyed := true }
  else x

/-- The socket is one of the channel's legs. -/
def ChannelRecord.isLeg (ch : ChannelRecord) (ws : SocketId) : Bool := ch.clientSocket = some ws || ch.backendSocket = some ws

@[simp] theorem WsSocket.torn_torn (k : WsSocket) : k.torn.torn = k.torn := by
  by_cases h : k.readyState = .closed <;> simp [torn, h]

@[simp] theorem WsSocket.torn_listener (k : WsSocket) : k.torn.listener = k.listener := by
  unfold torn
  split <;> rfl

@[simp] theorem WsSocket.torn_errorListener (k : WsSocket) : k.torn.errorListener = k.errorListener := by
  unfold torn
  split <;> rfl

theorem WsSocket.torn_readyState (k : WsSocket) : k.torn.readyState ≠ .open_ := by
  unfold torn
  split
  · rename_i h
    simp [h]
  · simp

theorem HttpExchange.answered_channelId (reason : ChannelClosedReason) (x : HttpExchange) :
    (x.answered reason).channelId = x.channelId := by
  unfold answered
  split
  · rfl
  · split <;> rfl

/-- A response is finished once its head is out and it is ended or cut off. -/
def HttpExchange.Finished (x : HttpExchange) : Prop := x.headersSent = true ∧ (x.writableEnded = true ∨ x.destroyed = true)

theorem HttpExchange.answered_finished (reason : ChannelClosedReason) (x : HttpExchange) :
    (x.answered reason).Finished := by
  unfold answered Finished
  split
  · simp
  · split
    · rename_i hs _
      simpa using hs
    · rename_i hs he
      have hs' : x.headersSent = true := by simpa using hs
      have he' : x.writableEnded = true ∨ x.destroyed = true := by
        by_cases hw : x.writableEnded = true
        · exact Or.inl hw
        · exact Or.inr (by simpa [hw] using he)
      exact ⟨hs', he'⟩

namespace Net

@[simp] theorem emit_sockets (o : Output) (net : Net) : (net.emit o).sockets = net.sockets := rfl

@[simp] theorem emit_exchanges (o : Output) (net : Net) : (net.emit o).exchanges = net.exchanges := rfl

@[simp] theorem sendToWs_sockets (ws : SocketId) (m : GatewayToPeer) (net : Net) :
    (net.sendToWs ws m).sockets = net.sockets := by
  unfold sendToWs
  split <;> rfl

@[simp] theorem sendToWs_exchanges (ws : SocketId) (m : GatewayToPeer) (net : Net) :
    (net.sendToWs ws m).exchanges = net.exchanges := by
  unfold sendToWs
  split <;> rfl

@[simp] theorem close_exchanges (ws : SocketId) (code : Nat) (reason : String) (net : Net) :
    (net.close ws code reason).exchanges = net.exchanges := by
  unfold close
  split <;> rfl

@[simp] theorem terminate_exchanges (ws : SocketId) (net : Net) : (net.terminate ws).exchanges = net.exchanges := by
  unfold terminate
  split <;> rfl

@[simp] theorem resume_exchanges (ws : SocketId) (net : Net) : (net.resume ws).exchanges = net.exchanges := by
  unfold resume
  split <;> rfl

@[simp] theorem modifySocket_exchanges (ws : SocketId) (f : WsSocket → WsSocket) (net : Net) :
    (net.modifySocket ws f).exchanges = net.exchanges := rfl

@[simp] theorem modifyExchange_sockets (ex : ExchangeId) (f : HttpExchange → HttpExchange) (net : Net) :
    (net.modifyExchange ex f).sockets = net.sockets := rfl

@[simp] theorem statusJson_sockets (ex : ExchangeId) (headers : InsertionMap String String) (r : HttpReply) (net : Net) :
    (net.statusJson ex headers r).sockets = net.sockets := rfl

@[simp] theorem destroyResponse_sockets (ex : ExchangeId) (net : Net) : (net.destroyResponse ex).sockets = net.sockets := rfl

@[simp] theorem endResponse_sockets (ex : ExchangeId) (net : Net) : (net.endResponse ex).sockets = net.sockets := rfl

/-- `close` moves only the socket it is called on, and only when it is open. -/
theorem close_sockets (ws : SocketId) (code : Nat) (reason : String) (net : Net) :
    (net.close ws code reason).sockets =
      if net.readyState ws = .open_ then net.sockets.modify ws (fun k => { k with readyState := .closing })
      else net.sockets := by
  unfold close
  split <;> rfl

theorem terminate_sockets (ws : SocketId) (net : Net) :
    (net.terminate ws).sockets =
      if net.readyState ws = .closed then net.sockets
      else net.sockets.modify ws (fun k => { k with readyState := .closing }) := by
  unfold terminate
  split <;> rfl

theorem resume_sockets (ws : SocketId) (net : Net) :
    (net.resume ws).sockets =
      if net.readyState ws = .closed then net.sockets
      else net.sockets.modify ws (fun k => { k with paused := false }) := by
  unfold resume
  split <;> rfl

end Net

namespace Gateway

/-! ## The network -/

/-- Teardown resumes and closes the leg, and no other socket. -/
theorem teardownSocket_get (reason : ChannelClosedReason) (socket : Option SocketId) (net : Net) (ws : SocketId) :
    (teardownSocket reason socket net).sockets.get ws =
      if socket = some ws then (net.sockets.get ws).map WsSocket.torn else net.sockets.get ws := by
  cases socket with
  | none => simp [teardownSocket]
  | some w =>
    simp only [teardownSocket, Option.some.injEq]
    rcases hk : net.sockets.get w with _ | k
    · have hclosed : net.readyState w = .closed := by rw [Net.readyState, hk]
      have hr : (net.resume w).readyState w = .closed := by rw [Net.resume, if_pos hclosed, hclosed]
      rw [hr, if_neg (by decide), Net.terminate_sockets, if_pos hr, Net.resume_sockets, if_pos hclosed]
      split
      · rename_i he
        rw [← he, hk, Option.map_none]
      · rfl
    · have hs : net.readyState w = k.readyState := Net.readyState_eq hk
      by_cases hc : k.readyState = .closed
      · have hr : (net.resume w).readyState w = .closed := by rw [Net.resume, if_pos (hs.trans hc), hs, hc]
        rw [hr, if_neg (by decide), Net.terminate_sockets, if_pos hr, Net.resume_sockets, if_pos (hs.trans hc)]
        split
        · rename_i he
          rw [← he, hk, Option.map_some, WsSocket.torn, if_pos hc]
        · rfl
      · have hres : (net.resume w).sockets = net.sockets.modify w (fun k => { k with paused := false }) := by
          rw [Net.resume_sockets, if_neg (by rwa [hs])]
        have hr : (net.resume w).readyState w = k.readyState := by
          rw [Net.readyState, hres, InsertionMap.get_modify_self, hk]
          rfl
        have hend : ∀ net' : Net, net'.sockets = (net.resume w).sockets.modify w (fun k => { k with readyState := .closing })
            → net'.sockets.get ws = if w = ws then (net.sockets.get ws).map WsSocket.torn else net.sockets.get ws := by
          intro net' he
          rw [he, hres, InsertionMap.get_modify, InsertionMap.get_modify]
          by_cases hw : ws = w
          · subst hw
            simp [hk, WsSocket.torn, hc]
          · rw [if_neg hw, if_neg hw, if_neg (Ne.symm hw)]
        split
        · rename_i ho
          exact hend _ (by rw [Net.close_sockets, if_pos ho])
        · exact hend _ (by rw [Net.terminate_sockets, if_neg (by rwa [hr])])

@[simp] theorem teardownResponse_sockets (reason : ChannelClosedReason) (internalRes : Option ExchangeId) (net : Net) :
    (teardownResponse reason internalRes net).sockets = net.sockets := by
  unfold teardownResponse
  repeat' split
  all_goals rfl

@[simp] theorem teardownSocket_exchanges (reason : ChannelClosedReason) (socket : Option SocketId) (net : Net) :
    (teardownSocket reason socket net).exchanges = net.exchanges := by
  cases socket with
  | none => rfl
  | some ws =>
    simp only [teardownSocket]
    split <;> simp

/-- Teardown answers the channel's own response, and no other. -/
theorem teardownResponse_get (reason : ChannelClosedReason) (internalRes : Option ExchangeId) (net : Net) (ex : ExchangeId) :
    (teardownResponse reason internalRes net).exchanges.get ex =
      if internalRes = some ex then (net.exchanges.get ex).map (HttpExchange.answered reason)
      else net.exchanges.get ex := by
  cases internalRes with
  | none => simp [teardownResponse]
  | some e =>
    simp only [teardownResponse, Option.some.injEq]
    rcases hx : net.exchanges.get e with _ | x
    · dsimp only
      split
      · rename_i he
        rw [← he, hx, Option.map_none]
      · rfl
    · dsimp only
      split
      · rename_i hs
        by_cases he : ex = e
        · subst he
          simp [Net.statusJson, Net.modifyExchange, hx, HttpExchange.answered, hs]
        · simp [Net.statusJson, Net.modifyExchange, InsertionMap.get_modify, he, Ne.symm he]
      · rename_i hs
        split
        · rename_i hd
          by_cases he : ex = e
          · subst he
            simp [Net.destroyResponse, Net.modifyExchange, hx, HttpExchange.answered, hs, hd]
          · simp [Net.destroyResponse, Net.modifyExchange, InsertionMap.get_modify, he, Ne.symm he]
        · rename_i hd
          by_cases he : e = ex
          · subst he
            simp [hx, HttpExchange.answered, hs, hd]
          · rw [if_neg he]

@[simp] theorem notifyClosed_sockets (peers : InsertionMap String PeerSession) (channelId : String)
    (reason : ChannelClosedReason) (sessionId : String) (net : Net) :
    (notifyClosed peers channelId reason sessionId net).sockets = net.sockets := by
  unfold notifyClosed
  split <;> simp

@[simp] theorem notifyClosed_exchanges (peers : InsertionMap String PeerSession) (channelId : String)
    (reason : ChannelClosedReason) (sessionId : String) (net : Net) :
    (notifyClosed peers channelId reason sessionId net).exchanges = net.exchanges := by
  unfold notifyClosed
  split <;> simp

theorem teardownNet_socket (peers : InsertionMap String PeerSession) (reason : ChannelClosedReason) (ch : ChannelRecord)
    (net : Net) (ws : SocketId) :
    (teardownNet peers reason ch net).sockets.get ws =
      if ch.isLeg ws then (net.sockets.get ws).map WsSocket.torn else net.sockets.get ws := by
  unfold teardownNet ChannelRecord.isLeg
  rw [notifyClosed_sockets, notifyClosed_sockets, teardownSocket_get, teardownSocket_get, teardownResponse_sockets]
  by_cases ha : ch.clientSocket = some ws <;> by_cases hb : ch.backendSocket = some ws <;>
    simp [ha, hb, Function.comp_def]

theorem teardownNet_exchange (peers : InsertionMap String PeerSession) (reason : ChannelClosedReason) (ch : ChannelRecord)
    (net : Net) (ex : ExchangeId) :
    (teardownNet peers reason ch net).exchanges.get ex =
      if ch.internalRes = some ex then (net.exchanges.get ex).map (HttpExchange.answered reason)
      else net.exchanges.get ex := by
  unfold teardownNet
  rw [notifyClosed_exchanges, notifyClosed_exchanges, teardownSocket_exchanges, teardownSocket_exchanges,
    teardownResponse_get]

/-! ## The tables -/

section Teardown

variable (reason : ChannelClosedReason) (s : Gateway) (channelId : String)

@[simp] theorem teardownChannel_storage : (s.teardownChannel reason channelId).storage = s.storage := by
  unfold teardownChannel
  split <;> rfl

@[simp] theorem teardownChannel_state : (s.teardownChannel reason channelId).state = s.state := by
  unfold teardownChannel
  split <;> rfl

@[simp] theorem teardownChannel_recoveryTokens :
    (s.teardownChannel reason channelId).recoveryTokens = s.recoveryTokens := by
  unfold teardownChannel
  split <;> rfl

@[simp] theorem teardownChannel_topicSubs : (s.teardownChannel reason channelId).topicSubs = s.topicSubs := by
  unfold teardownChannel
  split <;> rfl

@[simp] theorem teardownChannel_retainedTopics :
    (s.teardownChannel reason channelId).retainedTopics = s.retainedTopics := by
  unfold teardownChannel
  split <;> rfl

@[simp] theorem teardownChannel_now : (s.teardownChannel reason channelId).now = s.now := by
  unfold teardownChannel
  split <;> rfl

@[simp] theorem teardownChannel_drawn : (s.teardownChannel reason channelId).drawn = s.drawn := by
  unfold teardownChannel
  split <;> rfl

@[simp] theorem teardownChannel_uncaught : (s.teardownChannel reason channelId).uncaught = s.uncaught := by
  unfold teardownChannel
  split <;> rfl

/-- The channel is gone, the others are not. -/
theorem teardownChannel_channel (id : String) :
    (s.teardownChannel reason channelId).channels.get id = if id = channelId then none else s.channels.get id := by
  unfold teardownChannel
  split
  · rename_i hn
    split
    · rename_i he
      rw [he, hn]
    · rfl
  · exact InsertionMap.get_delete _ _ _

/-- Nothing happens to a channel that is gone. -/
theorem teardownChannel_of_none (h : s.channels.get channelId = none) : s.teardownChannel reason channelId = s := by
  unfold teardownChannel
  rw [h]

/-- The channel's tickets are gone, the others are not. -/
theorem teardownChannel_ticket {ch : ChannelRecord} (h : s.channels.get channelId = some ch) (token : String) :
    (s.teardownChannel reason channelId).channelTickets.get token =
      if token ∈ ch.ticketTokens then none else s.channelTickets.get token := by
  unfold teardownChannel
  rw [h]
  exact InsertionMap.get_foldl_delete _ _ _

theorem teardownChannel_socket {ch : ChannelRecord} (h : s.channels.get channelId = some ch) (ws : SocketId) :
    (s.teardownChannel reason channelId).net.sockets.get ws =
      if ch.isLeg ws then (s.net.sockets.get ws).map WsSocket.torn else s.net.sockets.get ws := by
  unfold teardownChannel
  rw [h]
  exact teardownNet_socket _ _ _ _ _

theorem teardownChannel_exchange {ch : ChannelRecord} (h : s.channels.get channelId = some ch) (ex : ExchangeId) :
    (s.teardownChannel reason channelId).net.exchanges.get ex =
      if ch.internalRes = some ex then (s.net.exchanges.get ex).map (HttpExchange.answered reason)
      else s.net.exchanges.get ex := by
  unfold teardownChannel
  rw [h]
  exact teardownNet_exchange _ _ _ _ _

end Teardown

/-- Teardown changes no listener. -/
theorem teardownChannel_listener (reason : ChannelClosedReason) (s : Gateway) (channelId : String) (ws : SocketId) :
    ((s.teardownChannel reason channelId).net.sockets.get ws).map WsSocket.listener =
      (s.net.sockets.get ws).map WsSocket.listener := by
  rcases h : s.channels.get channelId with _ | ch
  · rw [teardownChannel_of_none reason s channelId h]
  · rw [teardownChannel_socket reason s channelId h]
    split
    · rw [Option.map_map]
      congr 1
      funext k
      exact k.torn_listener
    · rfl

end Gateway

end ZclaudiaGateway
