import ZclaudiaGateway.Lemmas.Acts

/-!
# The operations that touch a response

Of the single operations of an event, six touch the response of a proxied exchange: the teardown of its channel, its being
opened, its head, a part of its body, the end of its data socket and the client's abort. Every other one leaves every response
as it is and puts nothing out on it (`Op.response_cases`).
-/

namespace ZclaudiaGateway

/-- The response is as it was. -/
structure HttpExchange.SameResponse (x x' : HttpExchange) : Prop where
  channelId : x'.channelId = x.channelId
  statusCode : x'.statusCode = x.statusCode
  headers : x'.headers = x.headers
  headersSent : x'.headersSent = x.headersSent
  writableEnded : x'.writableEnded = x.writableEnded
  destroyed : x'.destroyed = x.destroyed
  metaReceived : x'.metaReceived = x.metaReceived

theorem HttpExchange.SameResponse.refl (x : HttpExchange) : x.SameResponse x := ⟨rfl, rfl, rfl, rfl, rfl, rfl, rfl⟩

theorem HttpExchange.Paced.sameResponse {x x' : HttpExchange} (h : x.Paced x') : x.SameResponse x' :=
  ⟨h.channelId, h.statusCode, h.headers, h.headersSent, h.writableEnded, h.destroyed, h.metaReceived⟩

theorem Net.Op.exchanges {net net' : Net} (h : net.Op net') : net'.exchanges = net.exchanges := by
  cases h with
  | send ws hm => exact Net.sendToWs_exchanges _ _ _
  | ping ws =>
    unfold Net.ping
    split <;> rfl
  | close ws code reason => exact Net.close_exchanges _ _ _ _
  | terminate ws => exact Net.terminate_exchanges _ _
  | pause ws =>
    unfold Net.pause
    split <;> rfl
  | resume ws => exact Net.resume_exchanges _ _
  | closing ws h => rfl
  | grace ws replacedGrace => rfl
  | conn ws hf => rfl
  | emit ho => rfl

/-- The kinds of output that are no part of a response. -/
def OutputKind.others : List OutputKind := [.message, .notice, .frame, .request, .handling, .admission, .apart]

namespace Gateway

variable {Γ : Ctx} {e : Event} {σ : Gateway}

/-- Every response is as it was. -/
def SameResponses (s t : Gateway) : Prop := s.net.exchanges.Pointwise HttpExchange.SameResponse t.net.exchanges

theorem SameResponses.of_eq {s t : Gateway} (h : t.net.exchanges = s.net.exchanges) : s.SameResponses t := by
  unfold SameResponses
  rw [h]
  exact .refl HttpExchange.SameResponse.refl _

theorem SameResponses.modify {s : Gateway} {ex : ExchangeId} {f : HttpExchange → HttpExchange}
    (hf : ∀ x : HttpExchange, x.SameResponse (f x)) : s.SameResponses (s.onNet (Net.modifyExchange ex f)) :=
  InsertionMap.Pointwise.modify HttpExchange.SameResponse.refl fun x _ => hf x

theorem attachLeg_responses (channelId : String) (role : ChannelRole) (s : Gateway) :
    s.SameResponses (s.attachLeg channelId role) := by
  unfold attachLeg
  dsimp only
  split
  · exact .of_eq rfl
  · unfold pairLegs
    split
    · simp only [SameResponses, onNet_net, onChannel, Net.resume_exchanges]
      unfold bridgeHttpChannel
      split
      · exact .refl HttpExchange.SameResponse.refl _
      · exact .modify HttpExchange.SameResponse.refl fun x _ => ⟨rfl, rfl, rfl, rfl, rfl, rfl, rfl⟩
    · refine .of_eq ?_
      simp only [wireChannel, onNet_net, onChannel, Net.resume_exchanges]
      rfl
    · exact .of_eq rfl

theorem handleChannelUpgrade_responses (channelId : String) (ticket : Option String) (handshakeOk : Bool) (s : Gateway) :
    s.SameResponses (s.handleChannelUpgrade channelId ticket handshakeOk) := by
  rcases handleChannelUpgrade_cases s channelId ticket handshakeOk with hd | ⟨found, ch, -, -, -, -, hd⟩
  · rw [hd]
    exact .of_eq rfl
  · rw [hd]
    exact attachLeg_responses channelId found.role (s.consumeTicket (ticket.getD ""))

theorem pause_exchanges (ws : SocketId) (net : Net) : (net.pause ws).exchanges = net.exchanges := (Net.Op.pause ws net).exchanges

theorem relayMessage_exchanges (ws : SocketId) (leg : RelayLeg) (frame : Frame) (buffered : Nat) (s : Gateway) :
    (s.relayMessage Γ ws leg frame buffered).net.exchanges = s.net.exchanges := by
  have hset (leg : RelayLeg) (net : Net) : (setLeg ws leg net).exchanges = net.exchanges := rfl
  unfold relayMessage
  split
  · rfl
  · have hrate (net : Net) : (relayRate Γ.config.channelByteRateLimit s.now frame.data.length ws leg net).2.exchanges =
        net.exchanges := by
      unfold relayRate
      split
      · rfl
      · split
        · rfl
        · dsimp only
          split
          · rw [pause_exchanges, hset]
          · rw [hset]
    dsimp only
    split
    · rw [pause_exchanges, hset, hrate]
      rfl
    · rw [hrate]
      rfl

theorem rateTimerFires_exchanges (ws : SocketId) (s : Gateway) : (s.rateTimerFires ws).net.exchanges = s.net.exchanges := by
  unfold rateTimerFires
  split
  · split
    · exact Net.resume_exchanges _ _
    · rfl
  · rfl

theorem drainPoll_exchanges (ws : SocketId) (buffered : Nat) (s : Gateway) :
    (s.drainPoll ws buffered).net.exchanges = s.net.exchanges := by
  unfold drainPoll
  split
  · split
    · exact Net.resume_exchanges _ _
    · rfl
  · rfl

theorem requestData_responses (ex : ExchangeId) (chunk : Bytes) (buffered : Nat) (s : Gateway) :
    s.SameResponses (s.requestData ex chunk buffered) := by
  unfold requestData
  split
  · split
    · exact .of_eq rfl
    · dsimp only [SameResponses, onNet]
      split
      · exact .modify HttpExchange.SameResponse.refl fun x _ => ⟨rfl, rfl, rfl, rfl, rfl, rfl, rfl⟩
      · exact .refl HttpExchange.SameResponse.refl _
  · exact .of_eq rfl

theorem requestEnd_exchanges (ex : ExchangeId) (s : Gateway) : (s.requestEnd ex).net.exchanges = s.net.exchanges := by
  unfold requestEnd
  split
  · split <;> rfl
  · rfl

theorem openChannel_exchanges (peer backendPeer : PeerSession) (lease : BackendLease) (target : String)
    (kind : Option String) (s : Gateway) :
    (s.openChannel Γ peer backendPeer lease target kind).net.exchanges = s.net.exchanges := by
  simp [openChannel]

theorem proxyViaChannel_uncaught (request : ProxyRequest) (epoch : Nat) (backendPeer : PeerSession) (s : Gateway) :
    (s.proxyViaChannel Γ request epoch backendPeer).uncaught = s.uncaught := by
  unfold proxyViaChannel
  split <;> rfl

theorem handleChannelUpgrade_uncaught (channelId : String) (ticket : Option String) (handshakeOk : Bool) (s : Gateway) :
    (s.handleChannelUpgrade channelId ticket handshakeOk).uncaught = s.uncaught := by
  rcases handleChannelUpgrade_cases s channelId ticket handshakeOk with hd | ⟨found, ch, -, -, -, -, hd⟩
  · rw [hd]
    rfl
  · rw [hd]
    exact (attachLeg_tickets channelId found.role (s.consumeTicket (ticket.getD ""))).2.2

theorem relayMessage_uncaught (ws : SocketId) (leg : RelayLeg) (frame : Frame) (buffered : Nat) (s : Gateway) :
    (s.relayMessage Γ ws leg frame buffered).uncaught = s.uncaught := by
  unfold relayMessage
  split <;> rfl

theorem rateTimerFires_uncaught (ws : SocketId) (s : Gateway) : (s.rateTimerFires ws).uncaught = s.uncaught := by
  unfold rateTimerFires
  split
  · split <;> rfl
  · rfl

theorem drainPoll_uncaught (ws : SocketId) (buffered : Nat) (s : Gateway) : (s.drainPoll ws buffered).uncaught = s.uncaught := by
  unfold drainPoll
  split
  · split <;> rfl
  · rfl

theorem requestData_uncaught (ex : ExchangeId) (chunk : Bytes) (buffered : Nat) (s : Gateway) :
    (s.requestData ex chunk buffered).uncaught = s.uncaught := by
  unfold requestData
  split
  · split <;> rfl
  · rfl

theorem requestEnd_uncaught (ex : ExchangeId) (s : Gateway) : (s.requestEnd ex).uncaught = s.uncaught := by
  unfold requestEnd
  split
  · split <;> rfl
  · rfl

/-- An exception is not taken back. -/
theorem Op.running {s t : Gateway} (h : Op Γ e σ s t) (hrun : t.uncaught = none) : s.uncaught = none := by
  cases h with
  | tables net channels connections now drawn running => exact running hrun
  | clock hact => exact hrun
  | net h => exact hrun
  | pace hf hact => exact hrun
  | teardown reason channelId => rwa [teardownChannel_uncaught] at hrun
  | openChannel fresh peer backendPeer lease target kind => exact hrun
  | proxyViaChannel fresh request epoch backendPeer => rwa [proxyViaChannel_uncaught] at hrun
  | connect ip => rwa [(controlConnection_tables _ ip).2.2.2] at hrun
  | dial channelId ticket handshakeOk => rwa [handleChannelUpgrade_uncaught] at hrun
  | hangUp hk hl hopen hact => exact hrun
  | shut hk hl hopen hact => exact hrun
  | relay hk hr hl hact => rwa [relayMessage_uncaught] at hrun
  | rateTimer hact => rwa [rateTimerFires_uncaught] at hrun
  | drainPoll hact => rwa [drainPoll_uncaught] at hrun
  | requestData hact => rwa [requestData_uncaught] at hrun
  | requestEnd hact => rwa [requestEnd_uncaught] at hrun
  | responseHead hx hm meta_ => exact (responseHead_speaks _ _ _ _).uncaught hrun
  | responseBody hx hm data => exact (callResponse_speaks _ _ _).uncaught hrun
  | finishResponse running hx => exact running
  | abort hact => exact hrun

/-- What a single operation does to the responses. -/
theorem Op.response_cases {s t : Gateway} (h : Op Γ e σ s t) :
    (s.EmitsOnly OutputKind.others t ∧ s.SameResponses t) ∨
      (∃ reason channelId, t = s.teardownChannel reason channelId) ∨
      (∃ request epoch backendPeer, s.Fresh Γ ∧ t = s.proxyViaChannel Γ request epoch backendPeer) ∨
      (∃ ex x meta_, s.net.exchanges.get ex = some x ∧ x.metaReceived = false ∧ σ.Answering e ex ∧ t = s.responseHead ex x.request meta_) ∨
      (∃ ex x data, s.net.exchanges.get ex = some x ∧ x.metaReceived = true ∧ σ.Answering e ex ∧ t = s.callResponse ex (.write data)) ∨
      (∃ channelId ex x, s.uncaught = none ∧ s.net.exchanges.get ex = some x ∧ t = s.finishResponse channelId ex x) ∨
      ∃ ex, t = s.onNet (Net.modifyExchange ex (fun x => { x with closed := true, destroyed := true })) := by
  have hkinds {kinds : List OutputKind} {t : Gateway} (h : s.EmitsOnly kinds t) (hsub : ∀ k ∈ kinds, k ∈ OutputKind.others) :
      s.EmitsOnly OutputKind.others t := h.mono hsub
  cases h with
  | tables net channels connections now drawn running => exact Or.inl ⟨.of_eq (by rw [net]), .of_eq (by rw [net])⟩
  | clock hact => exact Or.inl ⟨.of_eq rfl, .of_eq rfl⟩
  | net h => exact Or.inl ⟨hkinds (Net.Op.kinds h) (by decide), .of_eq h.exchanges⟩
  | pace hf hact => exact Or.inl ⟨.of_eq rfl, .modify fun x => (hf x).sameResponse⟩
  | teardown reason channelId => exact Or.inr (Or.inl ⟨_, _, rfl⟩)
  | openChannel fresh peer backendPeer lease target kind =>
    exact Or.inl ⟨hkinds (openChannel_kinds _ _ _ _ _ _) (by decide), .of_eq (openChannel_exchanges _ _ _ _ _ _)⟩
  | proxyViaChannel fresh request epoch backendPeer => exact Or.inr (Or.inr (Or.inl ⟨_, _, _, fresh, rfl⟩))
  | connect ip => exact Or.inl ⟨hkinds (controlConnection_kinds ip _) (by decide), .of_eq (controlConnection_exchanges _ _)⟩
  | dial channelId ticket handshakeOk =>
    exact Or.inl ⟨hkinds (handleChannelUpgrade_kinds _ _ _ _) (by decide), handleChannelUpgrade_responses _ _ _ _⟩
  | hangUp hk hl hopen hact => exact Or.inl ⟨.of_eq rfl, .of_eq rfl⟩
  | shut hk hl hopen hact => exact Or.inl ⟨.of_eq rfl, .of_eq rfl⟩
  | relay hk hr hl hact =>
    exact Or.inl ⟨hkinds (relayMessage_kinds _ _ _ _ _) (by decide), .of_eq (relayMessage_exchanges _ _ _ _ _)⟩
  | rateTimer hact => exact Or.inl ⟨hkinds (rateTimerFires_kinds _ _) (by decide), .of_eq (rateTimerFires_exchanges _ _)⟩
  | drainPoll hact => exact Or.inl ⟨hkinds (drainPoll_kinds _ _ _) (by decide), .of_eq (drainPoll_exchanges _ _ _)⟩
  | requestData hact => exact Or.inl ⟨hkinds (requestData_kinds _ _ _ _) (by decide), requestData_responses _ _ _ _⟩
  | requestEnd hact => exact Or.inl ⟨hkinds (requestEnd_kinds _ _) (by decide), .of_eq (requestEnd_exchanges _ _)⟩
  | responseHead hx hm meta_ hact => exact Or.inr (Or.inr (Or.inr (Or.inl ⟨_, _, _, hx, hm, hact, rfl⟩)))
  | responseBody hx hm data hact => exact Or.inr (Or.inr (Or.inr (Or.inr (Or.inl ⟨_, _, _, hx, hm, hact, rfl⟩))))
  | finishResponse running hx => exact Or.inr (Or.inr (Or.inr (Or.inr (Or.inr (Or.inl ⟨_, _, _, running, hx, rfl⟩)))))
  | abort hact => exact Or.inr (Or.inr (Or.inr (Or.inr (Or.inr (Or.inr ⟨_, rfl⟩)))))

end Gateway

end ZclaudiaGateway
