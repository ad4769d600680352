import ZclaudiaGateway.Lemmas.DataPlane

/-!
# Channels and their tickets

Every identifier in use was drawn by an earlier event, so a channel, a socket and an exchange that begin have a name no other
ever had. A ticket belongs to a live channel whose leg it is for is still open, and a channel is piped exactly when it has all
its legs.
-/

namespace ZclaudiaGateway

/-! ## Legs -/

/-- The leg of a role. -/
def ChannelRecord.leg (ch : ChannelRecord) : ChannelRole → Option SocketId
  | .client => ch.clientSocket
  | .backend => ch.backendSocket

def ChannelRole.other : ChannelRole → ChannelRole
  | .client => .backend
  | .backend => .client

/-- All legs are attached: both of them, or the backend's when the gateway itself is the client end. -/
def ChannelRecord.ready (ch : ChannelRecord) : Bool :=
  ch.backendSocket.isSome && (ch.onBackendSocket.isSome || ch.clientSocket.isSome)

/-- A channel but for the response its teardown still has to answer. -/
def ChannelRecord.core (ch : ChannelRecord) : ChannelRecord := { ch with internalRes := none }

/-- A channel with one more leg, piped once it has all of them. -/
def ChannelRecord.dialed (role : ChannelRole) (ws : SocketId) (ch : ChannelRecord) : ChannelRecord :=
  let ch := Gateway.setLegSocket role ws ch
  if ch.ready && !ch.piped then { ch with piped := true, pairingTimeout := false } else ch

section Dialed

variable (role : ChannelRole) (ws : SocketId) (ch : ChannelRecord)

/-- Everything a dial keeps of a channel. -/
theorem ChannelRecord.dialed_keeps :
    (ch.dialed role ws).channelId = ch.channelId ∧ (ch.dialed role ws).backendId = ch.backendId ∧
      (ch.dialed role ws).epoch = ch.epoch ∧ (ch.dialed role ws).clientPeerSessionId = ch.clientPeerSessionId ∧
      (ch.dialed role ws).backendPeerSessionId = ch.backendPeerSessionId ∧
      (ch.dialed role ws).ticketTokens = ch.ticketTokens ∧ (ch.dialed role ws).onBackendSocket = ch.onBackendSocket ∧
      (ch.dialed role ws).internalRes = ch.internalRes := by
  unfold dialed
  cases role <;> dsimp only <;> split <;> exact ⟨rfl, rfl, rfl, rfl, rfl, rfl, rfl, rfl⟩

theorem ChannelRecord.dialed_leg (r : ChannelRole) :
    (ch.dialed role ws).leg r = if r = role then some ws else ch.leg r := by
  unfold dialed
  cases role <;> cases r <;> dsimp only <;> split <;> rfl

theorem ChannelRecord.dialed_ready : (ch.dialed role ws).ready = (Gateway.setLegSocket role ws ch).ready := by
  unfold dialed
  dsimp only
  split <;> rfl

/-- A channel that was not piped is, once it has all its legs. -/
theorem ChannelRecord.dialed_piped (hp : ch.piped = false) : (ch.dialed role ws).piped = (ch.dialed role ws).ready := by
  have hp' : (Gateway.setLegSocket role ws ch).piped = false := by cases role <;> exact hp
  rw [dialed_ready]
  unfold dialed
  dsimp only
  rw [hp']
  cases hr : (Gateway.setLegSocket role ws ch).ready
  · simpa using hp'
  · simp

theorem ChannelRecord.dialed_pairing (hp : ch.piped = false) (ht : ch.pairingTimeout = true) :
    (ch.dialed role ws).pairingTimeout = !(ch.dialed role ws).piped := by
  have hp' : (Gateway.setLegSocket role ws ch).piped = false := by cases role <;> exact hp
  have ht' : (Gateway.setLegSocket role ws ch).pairingTimeout = true := by cases role <;> exact ht
  unfold dialed
  dsimp only
  split
  · rfl
  · rw [hp', ht']
    rfl

end Dialed

/-- The exchange is the same one, bridged to the same socket. -/
def HttpExchange.SameBridge (x x' : HttpExchange) : Prop := x'.channelId = x.channelId ∧ x'.ws = x.ws

theorem HttpExchange.SameBridge.refl (x : HttpExchange) : x.SameBridge x := ⟨rfl, rfl⟩

theorem HttpExchange.SameBridge.trans {x x' x'' : HttpExchange} (h : x.SameBridge x') (h' : x'.SameBridge x'') :
    x.SameBridge x'' :=
  ⟨h'.1.trans h.1, h'.2.trans h.2⟩

theorem ChannelRecord.isLeg_iff {ch : ChannelRecord} {ws : SocketId} :
    ch.isLeg ws = true ↔ ∃ role, ch.leg role = some ws := by
  simp only [isLeg, Bool.or_eq_true, decide_eq_true_eq]
  constructor
  · rintro (h | h)
    · exact ⟨.client, h⟩
    · exact ⟨.backend, h⟩
  · rintro ⟨role, h⟩
    cases role with
    | client => exact Or.inl h
    | backend => exact Or.inr h

namespace Gateway

variable {Γ : Ctx} {e : Event}

/-! ## Identifiers -/

/-- An identifier the event at hand draws is not in use. -/
theorem Fresh.socket {s : Gateway} (h : s.Fresh Γ) : s.net.sockets.get s.drawn = none := by
  rcases hk : s.net.sockets.get s.drawn with _ | k
  · rfl
  · exact absurd (h.sockets _ _ hk) (lt_irrefl _)

theorem Fresh.exchange {s : Gateway} (h : s.Fresh Γ) : s.net.exchanges.get s.drawn = none := by
  rcases hx : s.net.exchanges.get s.drawn with _ | x
  · rfl
  · exact absurd (h.exchanges _ _ hx).1 (lt_irrefl _)

/-- A channel id that was drawn before is not the one the event at hand draws. -/
theorem ne_draw {src : IdSource} {n : Nat} {id : String} (h : ∃ m < n, id = src.draw m) : id ≠ src.draw n := by
  rintro rfl
  obtain ⟨m, hm, he⟩ := h
  exact absurd (src.injective he) (by omega)

theorem Fresh.channel {s : Gateway} (h : s.Fresh Γ) : s.channels.get (Γ.channelIds.draw s.drawn) = none := by
  rcases hc : s.channels.get (Γ.channelIds.draw s.drawn) with _ | ch
  · rfl
  · exact absurd rfl (ne_draw (h.channels _ _ hc))

theorem FreshUpTo.mono {s : Gateway} {n m : Nat} (h : s.FreshUpTo Γ n) (hnm : n ≤ m) : s.FreshUpTo Γ m := by
  have hdraw (src : IdSource) (id : String) (hid : ∃ i < n, id = src.draw i) : ∃ i < m, id = src.draw i := by
    obtain ⟨i, hi, he⟩ := hid
    exact ⟨i, lt_of_lt_of_le hi hnm, he⟩
  refine ⟨fun ws k hk => lt_of_lt_of_le (h.sockets ws k hk) hnm, fun ws k id hk hl => hdraw _ _ (h.listeners ws k id hk hl),
    fun ex x hx => ⟨lt_of_lt_of_le (h.exchanges ex x hx).1 hnm, hdraw _ _ (h.exchanges ex x hx).2⟩,
    fun id ch hc => hdraw _ _ (h.channels id ch hc), fun token ticket ht => ?_⟩
  obtain ⟨i, hi, he⟩ := h.tickets token ticket ht
  exact ⟨i, by omega, he⟩

/-- Tables whose entries all come from entries with the same identifiers. -/
theorem FreshUpTo.of_sub {s t : Gateway} {n : Nat} (h : s.FreshUpTo Γ n)
    (sockets : ∀ ws k, t.net.sockets.get ws = some k → ∃ k0, s.net.sockets.get ws = some k0 ∧
      k.listener.channel? = k0.listener.channel?)
    (exchanges : ∀ ex x, t.net.exchanges.get ex = some x → ∃ x0, s.net.exchanges.get ex = some x0 ∧
      x.channelId = x0.channelId)
    (channels : ∀ channelId ch, t.channels.get channelId = some ch → ∃ ch0, s.channels.get channelId = some ch0)
    (tickets : ∀ token ticket, t.channelTickets.get token = some ticket → s.channelTickets.get token = some ticket) :
    t.FreshUpTo Γ n := by
  refine ⟨fun ws k hk => ?_, fun ws k channelId hk hl => ?_, fun ex x hx => ?_, fun channelId ch hc => ?_,
    fun token ticket ht => h.tickets token ticket (tickets token ticket ht)⟩
  · obtain ⟨k0, hk0, -⟩ := sockets ws k hk
    exact h.sockets ws k0 hk0
  · obtain ⟨k0, hk0, he⟩ := sockets ws k hk
    exact h.listeners ws k0 channelId hk0 (he ▸ hl)
  · obtain ⟨x0, hx0, he⟩ := exchanges ex x hx
    rw [he]
    exact h.exchanges ex x0 hx0
  · obtain ⟨ch0, hc0⟩ := channels channelId ch hc
    exact h.channels channelId ch0 hc0

/-! ## Dialing -/

/-- A dial is refused, or attaches the leg of a live channel's unexpired ticket. Either way the ticket is consumed. -/
theorem handleChannelUpgrade_cases (s : Gateway) (channelId : String) (ticket : Option String) (handshakeOk : Bool) :
    s.handleChannelUpgrade channelId ticket handshakeOk =
        (s.consumeTicket (ticket.getD "")).onNet (Net.emit .refused) ∨
      ∃ found ch, s.channelTickets.get (ticket.getD "") = some found ∧ found.channelId = channelId ∧
        s.channels.get channelId = some ch ∧ s.now ≤ found.expiresAt ∧
        s.handleChannelUpgrade channelId ticket handshakeOk =
          (s.consumeTicket (ticket.getD "")).attachLeg channelId found.role := by
  unfold handleChannelUpgrade
  dsimp only
  rcases hf : s.channelTickets.get (ticket.getD "") with _ | found
  · exact Or.inl rfl
  · dsimp only
    split
    · exact Or.inl rfl
    · rename_i hno
      split
      · exact Or.inl rfl
      · obtain ⟨-, hlive, hid, hnow⟩ : channelId ≠ "" ∧ s.channels.has channelId ≠ false ∧ found.channelId = channelId ∧
            ¬ s.now > found.expiresAt := by
          simpa [not_or, consumeTicket] using hno
        obtain ⟨ch, hch⟩ : ∃ ch, s.channels.get channelId = some ch := by
          simpa [InsertionMap.has_iff] using hlive
        exact Or.inr ⟨found, ch, rfl, hid, hch, by omega, rfl⟩

/-- What pairing does to the channel that was just dialed. -/
theorem pairLegs_channel (channelId : String) (ch : ChannelRecord) (s : Gateway) (h : s.channels.get channelId = some ch)
    (id : String) :
    (s.pairLegs channelId ch).channels.get id =
      if id = channelId then
        some (if ch.ready && !ch.piped then { ch with piped := true, pairingTimeout := false } else ch)
      else s.channels.get id := by
  unfold pairLegs
  split
  · rename_i ex b hex hb hp
    have hready : ch.ready = true := by simp [ChannelRecord.ready, hb, hex]
    rw [onNet_channels, onNet_channels, onChannel, InsertionMap.get_modify]
    by_cases hid : id = channelId
    · subst hid
      simp [h, hready, hp]
    · rw [if_neg hid, if_neg hid]
  · rename_i a b hb ha hp _
    have hready : ch.ready = true := by simp [ChannelRecord.ready, hb, ha]
    simp only [wireChannel, onNet_channels, onChannel, InsertionMap.get_modify]
    by_cases hid : id = channelId
    · subst hid
      simp [h, hready, hp]
    · rw [if_neg hid, if_neg hid, if_neg hid]
  · rename_i hint hext
    have hno : (ch.ready && !ch.piped) = false := by
      by_contra hyes
      simp only [Bool.not_eq_false, Bool.and_eq_true, Bool.not_eq_true', ChannelRecord.ready, Bool.or_eq_true,
        Option.isSome_iff_exists] at hyes
      obtain ⟨⟨⟨b, hb⟩, ⟨ex, hex⟩ | ⟨a, ha⟩⟩, hp⟩ := hyes
      · exact hint ex b hex hb hp
      · exact hext b a hb ha hp
    rw [hno]
    by_cases hid : id = channelId
    · subst hid
      rw [if_pos rfl, h]
      rfl
    · rw [if_neg hid]

/-- What a dial does to the channels. -/
theorem attachLeg_channel (channelId : String) (role : ChannelRole) (s : Gateway) {ch : ChannelRecord}
    (h : s.channels.get channelId = some ch) (id : String) :
    (s.attachLeg channelId role).channels.get id =
      if id = channelId then some (ch.dialed role s.drawn) else s.channels.get id := by
  unfold attachLeg
  dsimp only
  rw [h]
  dsimp only
  rw [pairLegs_channel]
  · by_cases hid : id = channelId
    · rw [if_pos hid, if_pos hid]
      rfl
    · rw [if_neg hid, if_neg hid, onChannel, InsertionMap.get_modify, if_neg hid]
      rfl
  · simp [onChannel, h]

theorem pairLegs_tickets (channelId : String) (ch : ChannelRecord) (s : Gateway) :
    (s.pairLegs channelId ch).channelTickets = s.channelTickets ∧ (s.pairLegs channelId ch).drawn = s.drawn ∧
      (s.pairLegs channelId ch).uncaught = s.uncaught := by
  unfold pairLegs
  split
  · simp [onChannel]
  · simp [wireChannel, onChannel]
  · simp

theorem attachLeg_tickets (channelId : String) (role : ChannelRole) (s : Gateway) :
    (s.attachLeg channelId role).channelTickets = s.channelTickets ∧ (s.attachLeg channelId role).drawn = s.drawn ∧
      (s.attachLeg channelId role).uncaught = s.uncaught := by
  unfold attachLeg
  dsimp only
  split
  · exact ⟨rfl, rfl, rfl⟩
  · simp [pairLegs_tickets, onChannel]

/-! ## Identifiers through an operation -/

/-- The listener is the one before, or carries the channel being dialed. -/
def DialedFor (channelId : String) (k k' : WsSocket) : Prop :=
  k'.listener = k.listener ∨ k'.listener.channel? = some channelId

theorem DialedFor.trans {channelId : String} {k k' k'' : WsSocket} (h : DialedFor channelId k k')
    (h' : DialedFor channelId k' k'') : DialedFor channelId k k'' := by
  rcases h' with he | he
  · rw [DialedFor, he]
    exact h
  · exact Or.inr he

/-- Pairing makes listeners for the channel being dialed only, and no new socket or exchange. -/
theorem pairLegs_net (channelId : String) (ch : ChannelRecord) (s : Gateway) :
    s.net.sockets.Pointwise (DialedFor channelId) (s.pairLegs channelId ch).net.sockets ∧
      s.net.exchanges.Pointwise (fun x x' => x'.channelId = x.channelId) (s.pairLegs channelId ch).net.exchanges := by
  have hrefl : ∀ k, DialedFor channelId k k := fun k => Or.inl rfl
  have hmodify (net : Net) (ws : SocketId) (f : WsSocket → WsSocket) (hf : ∀ k, DialedFor channelId k (f k)) :
      net.sockets.Pointwise (DialedFor channelId) (net.modifySocket ws f).sockets :=
    .modify hrefl fun k _ => hf k
  have hresume (net : Net) (ws : SocketId) : net.sockets.Pointwise (DialedFor channelId) (net.resume ws).sockets := by
    unfold Net.resume
    split
    · exact .refl hrefl _
    · exact hmodify _ _ _ fun k => Or.inl rfl
  have hxrefl (net : Net) : net.exchanges.Pointwise (fun x x' => x'.channelId = x.channelId) net.exchanges :=
    .refl (fun x => (rfl : x.channelId = x.channelId)) _
  unfold pairLegs
  split
  · rename_i ex b _ _ _
    simp only [onNet_net, onChannel, Net.resume_exchanges]
    unfold bridgeHttpChannel
    split
    · exact ⟨hresume _ _, hxrefl _⟩
    · refine ⟨InsertionMap.Pointwise.trans (fun _ _ _ => .trans) ?_ (hresume _ _), ?_⟩
      · exact hmodify _ _ _ fun k => Or.inr rfl
      · exact .modify (fun x => (rfl : x.channelId = x.channelId)) fun x _ => rfl
  · have hwire (net : Net) (a b : SocketId) :
        net.sockets.Pointwise (DialedFor channelId) (wireLeg channelId a b net).sockets :=
      hmodify _ _ _ fun k => Or.inr rfl
    simp only [wireChannel, onNet_net, onChannel, Net.resume_exchanges]
    refine ⟨?_, hxrefl _⟩
    refine InsertionMap.Pointwise.trans (fun _ _ _ => .trans) ?_ (hresume _ _)
    refine InsertionMap.Pointwise.trans (fun _ _ _ => .trans) ?_ (hresume _ _)
    exact (hwire s.net _ _).trans (fun _ _ _ => .trans) (hwire _ _ _)
  · exact ⟨.refl hrefl _, hxrefl _⟩

theorem FreshUpTo.consumeTicket {s : Gateway} {n : Nat} (h : s.FreshUpTo Γ n) (token : String) :
    (s.consumeTicket token).FreshUpTo Γ n :=
  h.of_sub (fun _ k hk => ⟨k, hk, rfl⟩) (fun _ x hx => ⟨x, hx, rfl⟩) (fun _ ch hc => ⟨ch, hc⟩)
    (fun _ _ ht => (InsertionMap.get_delete_eq_some.mp ht).2)

/-- The sockets of a dial: one of before, whose listener may have become the channel's, or the new leg. -/
theorem attachLeg_listener (channelId : String) (role : ChannelRole) (s : Gateway) {ws : SocketId} {k : WsSocket}
    (hk : (s.attachLeg channelId role).net.sockets.get ws = some k) :
    (ws = s.drawn ∨ ∃ k0, s.net.sockets.get ws = some k0) ∧
      (k.listener = .none ∨ k.listener.channel? = some channelId ∨
        ∃ k0, s.net.sockets.get ws = some k0 ∧ k.listener = k0.listener) := by
  unfold Gateway.attachLeg at hk
  dsimp only at hk
  split at hk
  · exact ⟨Or.inr ⟨k, hk⟩, Or.inr (Or.inr ⟨k, hk, rfl⟩)⟩
  · obtain ⟨k0, hk0, hd⟩ := (pairLegs_net _ _ _).1.some_get hk
    rcases InsertionMap.get_set_eq_some.mp hk0 with ⟨rfl, rfl⟩ | ⟨-, hk0⟩
    · rcases hd with he | he
      · exact ⟨Or.inl rfl, Or.inl he⟩
      · exact ⟨Or.inl rfl, Or.inr (Or.inl he)⟩
    · rcases hd with he | he
      · exact ⟨Or.inr ⟨k0, hk0⟩, Or.inr (Or.inr ⟨k0, hk0, he⟩)⟩
      · exact ⟨Or.inr ⟨k0, hk0⟩, Or.inr (Or.inl he)⟩

theorem attachLeg_exchange (channelId : String) (role : ChannelRole) (s : Gateway) {ex : ExchangeId} {x : HttpExchange}
    (hx : (s.attachLeg channelId role).net.exchanges.get ex = some x) :
    ∃ x0, s.net.exchanges.get ex = some x0 ∧ x.channelId = x0.channelId := by
  unfold Gateway.attachLeg at hx
  dsimp only at hx
  split at hx
  · exact ⟨x, hx, rfl⟩
  · obtain ⟨x0, hx0, he⟩ := (pairLegs_net _ _ _).2.some_get hx
    exact ⟨x0, hx0, he⟩

theorem FreshUpTo.attachLeg {s : Gateway} {n : Nat} (h : s.FreshUpTo Γ n) (hn : s.drawn < n) {channelId : String}
    {ch : ChannelRecord} (hc : s.channels.get channelId = some ch) (role : ChannelRole) :
    (s.attachLeg channelId role).FreshUpTo Γ n := by
  have hid := h.channels channelId ch hc
  refine ⟨fun ws k hk => ?_, fun ws k id hk hl => ?_, fun ex x hx => ?_, fun id ch' hch' => ?_, fun token ticket ht => ?_⟩
  · rcases (attachLeg_listener _ _ _ hk).1 with rfl | ⟨k0, hk0⟩
    · exact hn
    · exact h.sockets ws k0 hk0
  · rcases (attachLeg_listener _ _ _ hk).2 with he | he | ⟨k0, hk0, he⟩
    · rw [he] at hl
      cases hl
    · rw [he, Option.some.injEq] at hl
      exact hl ▸ hid
    · exact h.listeners ws k0 id hk0 (he ▸ hl)
  · obtain ⟨x0, hx0, he⟩ := attachLeg_exchange _ _ _ hx
    rw [he]
    exact h.exchanges ex x0 hx0
  · rw [attachLeg_channel _ _ _ hc] at hch'
    split at hch'
    · rename_i he
      exact he ▸ hid
    · exact h.channels id ch' hch'
  · rw [(attachLeg_tickets _ _ _).1] at ht
    exact h.tickets token ticket ht

theorem FreshUpTo.teardown {s : Gateway} {n : Nat} (h : s.FreshUpTo Γ n) (reason : ChannelClosedReason)
    (channelId : String) : (s.teardownChannel reason channelId).FreshUpTo Γ n := by
  rcases hc : s.channels.get channelId with _ | ch
  · rw [teardownChannel_of_none _ _ _ hc]
    exact h
  · refine h.of_sub (fun ws k hk => ?_) (fun ex x hx => ?_) (fun id ch' hch' => ?_) (fun token ticket ht => ?_)
    · rw [teardownChannel_socket _ _ _ hc] at hk
      split at hk
      · obtain ⟨k0, hk0, rfl⟩ := Option.map_eq_some_iff.mp hk
        exact ⟨k0, hk0, by rw [WsSocket.torn_listener]⟩
      · exact ⟨k, hk, rfl⟩
    · rw [teardownChannel_exchange _ _ _ hc] at hx
      split at hx
      · obtain ⟨x0, hx0, rfl⟩ := Option.map_eq_some_iff.mp hx
        exact ⟨x0, hx0, x0.answered_channelId reason⟩
      · exact ⟨x, hx, rfl⟩
    · rw [teardownChannel_channel] at hch'
      split at hch'
      · cases hch'
      · exact ⟨ch', hch'⟩
    · rw [teardownChannel_ticket _ _ _ hc] at ht
      split at ht
      · cases ht
      · exact ht

/-- A change of exchanges that keeps their channels. -/
theorem FreshUpTo.onExchange {s : Gateway} {n : Nat} (h : s.FreshUpTo Γ n) (ex : ExchangeId)
    {f : HttpExchange → HttpExchange} (hf : ∀ x, (f x).channelId = x.channelId) :
    (s.onNet (Net.modifyExchange ex f)).FreshUpTo Γ n := by
  refine h.of_sub (fun _ k hk => ⟨k, hk, rfl⟩) (fun e x hx => ?_) (fun _ ch hc => ⟨ch, hc⟩) (fun _ _ ht => ht)
  simp only [onNet_net, Net.modifyExchange, InsertionMap.get_modify] at hx
  split at hx
  · obtain ⟨x0, hx0, rfl⟩ := Option.map_eq_some_iff.mp hx
    exact ⟨x0, hx0, hf x0⟩
  · exact ⟨x, hx, rfl⟩

/-- What the end of a response touches: its exchange, and its channel's hold on it. -/
theorem finishResponse_tables (channelId : String) (ex : ExchangeId) (x : HttpExchange) (s : Gateway) :
    (∀ id, ((s.finishResponse channelId ex x).channels.get id).map ChannelRecord.core =
        (s.channels.get id).map ChannelRecord.core) ∧
      (s.finishResponse channelId ex x).channelTickets = s.channelTickets ∧
      (s.finishResponse channelId ex x).net.sockets = s.net.sockets ∧
      s.net.exchanges.Pointwise HttpExchange.SameBridge (s.finishResponse channelId ex x).net.exchanges ∧
      (s.finishResponse channelId ex x).drawn = s.drawn := by
  have hmodify (f : HttpExchange → HttpExchange) (hf : ∀ x, x.SameBridge (f x))
      (m : InsertionMap ExchangeId HttpExchange) : m.Pointwise HttpExchange.SameBridge (m.modify ex f) :=
    .modify HttpExchange.SameBridge.refl fun x _ => hf x
  have htimers :=
    hmodify (fun x => { x with responseTimer := false, idleTimer := false }) (fun _ => ⟨rfl, rfl⟩) s.net.exchanges
  have hcore (m : InsertionMap String ChannelRecord) (id : String) :
      ((m.modify channelId (fun ch => { ch with internalRes := none })).get id).map ChannelRecord.core =
        (m.get id).map ChannelRecord.core := by
    rw [InsertionMap.get_modify]
    split
    · rw [Option.map_map]
      rfl
    · rfl
  unfold finishResponse
  dsimp only
  split
  · split
    · refine ⟨hcore _, rfl, rfl, ?_, rfl⟩
      exact htimers.trans (fun _ _ _ => .trans)
        (hmodify (fun x => { x with writableEnded := true }) (fun _ => ⟨rfl, rfl⟩) _)
    · exact ⟨hcore _, rfl, rfl, htimers, rfl⟩
  · exact ⟨fun _ => rfl, rfl, rfl, htimers, rfl⟩

theorem bridgeClose_drawn (channelId : String) (ex : ExchangeId) (s : Gateway) :
    (s.bridgeClose channelId ex).drawn = s.drawn := by
  unfold Gateway.bridgeClose
  split
  · rfl
  · rename_i x _
    rw [teardownChannel_drawn, (finishResponse_tables channelId ex x s).2.2.2.2]

theorem responseClose_drawn (ex : ExchangeId) (s : Gateway) : (s.responseClose ex).drawn = s.drawn := by
  unfold Gateway.responseClose
  repeat' split
  all_goals simp

theorem responseDrain_drawn (ex : ExchangeId) (s : Gateway) : (s.responseDrain ex).drawn = s.drawn := by
  unfold Gateway.responseDrain
  repeat' split
  all_goals simp

theorem FreshUpTo.bridgeClose {s : Gateway} {n : Nat} (h : s.FreshUpTo Γ n) (channelId : String) (ex : ExchangeId) :
    (s.bridgeClose channelId ex).FreshUpTo Γ n := by
  unfold Gateway.bridgeClose
  split
  · exact h
  · rename_i x _
    obtain ⟨hchannels, htickets, hsockets, hexchanges, -⟩ := finishResponse_tables channelId ex x s
    refine FreshUpTo.teardown (h.of_sub (fun _ k hk => ⟨k, hsockets ▸ hk, rfl⟩) (fun ex x hx => ?_) (fun id ch hc => ?_)
      (fun _ _ ht => htickets ▸ ht)) _ _
    · obtain ⟨x0, hx0, he⟩ := hexchanges.some_get hx
      exact ⟨x0, hx0, he.1⟩
    · have he := hchannels id
      rw [hc, Option.map_some] at he
      obtain ⟨ch0, hc0, -⟩ := Option.map_eq_some_iff.mp he.symm
      exact ⟨ch0, hc0⟩

theorem FreshUpTo.responseClose {s : Gateway} {n : Nat} (h : s.FreshUpTo Γ n) (ex : ExchangeId) :
    (s.responseClose ex).FreshUpTo Γ n := by
  unfold Gateway.responseClose
  split
  · exact h
  · split
    · exact h
    · exact (h.onExchange ex (f := fun x => { x with closed := true, destroyed := true }) fun _ => rfl).teardown _ _

theorem FreshUpTo.speaks {s t : Gateway} {n : Nat} (h : s.FreshUpTo Γ n) (ht : s.ResponseSpeaks t) : t.FreshUpTo Γ n := by
  refine h.of_sub (fun _ k hk => ⟨k, ht.sockets ▸ hk, rfl⟩) (fun ex x hx => ?_) (fun _ ch hc => ⟨ch, ht.channels ▸ hc⟩)
    (fun _ _ htk => ht.channelTickets ▸ htk)
  obtain ⟨x0, hx0, hs⟩ := ht.exchanges.some_get hx
  exact ⟨x0, hx0, hs.channelId⟩

theorem FreshUpTo.responseDrain {s : Gateway} {n : Nat} (h : s.FreshUpTo Γ n) (ex : ExchangeId) :
    (s.responseDrain ex).FreshUpTo Γ n := by
  unfold Gateway.responseDrain
  split
  · rename_i ws _ _
    split
    · refine FreshUpTo.of_sub (h.onExchange ex (f := fun x => { x with responseDrains := 0 }) fun _ => rfl)
        (fun w k hk => ?_) (fun e x hx => ⟨x, by simpa using hx, rfl⟩) (fun _ ch hc => ⟨ch, hc⟩) (fun _ _ ht => ht)
      rw [onNet_net, Net.resume_sockets] at hk
      split at hk
      · exact ⟨k, hk, rfl⟩
      · rw [InsertionMap.get_modify] at hk
        split at hk
        · obtain ⟨k0, hk0, rfl⟩ := Option.map_eq_some_iff.mp hk
          exact ⟨k0, hk0, rfl⟩
        · exact ⟨k, hk, rfl⟩
    · exact h
  · exact h

theorem FreshUpTo.authenticate {s : Gateway} {n : Nat} (h : s.FreshUpTo Γ n) (ws : SocketId)
    (f : ControlConn → ControlConn) : (s.onNet (modifyConn ws f)).FreshUpTo Γ n := by
  refine h.of_sub (fun w k hk => ?_) (fun _ x hx => ⟨x, hx, rfl⟩) (fun _ ch hc => ⟨ch, hc⟩) (fun _ _ ht => ht)
  simp only [onNet_net, modifyConn, Net.modifySocket, InsertionMap.get_modify] at hk
  split at hk
  · obtain ⟨k0, hk0, rfl⟩ := Option.map_eq_some_iff.mp hk
    refine ⟨k0, hk0, ?_⟩
    split
    · rename_i conn hl
      rw [hl]
      rfl
    · rfl
  · exact ⟨k, hk, rfl⟩

theorem FreshUpTo.openChannel {s : Gateway} {n : Nat} (h : s.FreshUpTo Γ n) (hn : s.drawn < n)
    (peer backendPeer : PeerSession) (lease : BackendLease) (target : String) (kind : Option String) :
    (s.openChannel Γ peer backendPeer lease target kind).FreshUpTo Γ n := by
  refine ⟨fun ws k hk => ?_, fun ws k id hk => ?_, fun ex x hx => ?_, fun id ch hc => ?_, fun token ticket ht => ?_⟩
  · simp only [Gateway.openChannel, onNet_net, Net.sendToWs_sockets] at hk
    exact h.sockets ws k hk
  · simp only [Gateway.openChannel, onNet_net, Net.sendToWs_sockets] at hk
    exact h.listeners ws k id hk
  · simp only [Gateway.openChannel, onNet_net, Net.sendToWs_exchanges] at hx
    exact h.exchanges ex x hx
  · rcases InsertionMap.get_set_eq_some.mp hc with ⟨rfl, -⟩ | ⟨-, hc⟩
    · exact ⟨s.drawn, hn, rfl⟩
    · exact h.channels id ch hc
  · rcases InsertionMap.get_set_eq_some.mp ht with ⟨rfl, -⟩ | ⟨-, ht⟩
    · exact ⟨2 * s.drawn + 1, by omega, rfl⟩
    · rcases InsertionMap.get_set_eq_some.mp ht with ⟨rfl, -⟩ | ⟨-, ht⟩
      · exact ⟨2 * s.drawn, by omega, rfl⟩
      · exact h.tickets token ticket ht

theorem FreshUpTo.proxyViaChannel {s : Gateway} {n : Nat} (h : s.FreshUpTo Γ n) (hn : s.drawn < n)
    (request : ProxyRequest) (epoch : Nat) (backendPeer : PeerSession) :
    (s.proxyViaChannel Γ request epoch backendPeer).FreshUpTo Γ n ∧
      (s.proxyViaChannel Γ request epoch backendPeer).drawn = s.drawn := by
  unfold Gateway.proxyViaChannel
  split
  · exact ⟨h.turns (.reply _ _), rfl⟩
  · refine ⟨⟨fun ws k hk => ?_, fun ws k id hk => ?_, fun ex x hx => ?_, fun id ch hc => ?_, fun token ticket ht => ?_⟩, rfl⟩
    · rw [Net.sendToWs_sockets] at hk
      exact h.sockets ws k hk
    · rw [Net.sendToWs_sockets] at hk
      exact h.listeners ws k id hk
    · rw [Net.sendToWs_exchanges] at hx
      rcases InsertionMap.get_set_eq_some.mp hx with ⟨rfl, rfl⟩ | ⟨-, hx⟩
      · exact ⟨hn, s.drawn, hn, rfl⟩
      · exact h.exchanges ex x hx
    · rcases InsertionMap.get_set_eq_some.mp hc with ⟨rfl, -⟩ | ⟨-, hc⟩
      · exact ⟨s.drawn, hn, rfl⟩
      · exact h.channels id ch hc
    · rcases InsertionMap.get_set_eq_some.mp ht with ⟨rfl, -⟩ | ⟨-, ht⟩
      · exact ⟨2 * s.drawn + 1, by omega, rfl⟩
      · exact h.tickets token ticket ht

/-- The socket of a connection that is accepted, or refused for the number of its address's others. -/
def Connects (s : Gateway) (ip : String) (k : WsSocket) : Prop :=
  (s.wsConnectionsPerIp.get ip).getD 0 < MAX_WS_CONNECTIONS_PER_IP ∧ k.readyState = .open_ ∧ k.errorListener = true ∧
      k.listener = .control { ip, peerSessionId := none, authTimeout := true } ∨
    MAX_WS_CONNECTIONS_PER_IP ≤ (s.wsConnectionsPerIp.get ip).getD 0 ∧ k.readyState = .closing ∧ k.errorListener = false ∧
      k.listener = .none

theorem controlConnection_socket (s : Gateway) (ip : String) :
    ∃ k, s.Connects ip k ∧ ∀ ws, (s.controlConnection ip).net.sockets.get ws =
      if ws = s.drawn then some k else s.net.sockets.get ws := by
  unfold controlConnection
  dsimp only
  split
  · rename_i hcap
    refine ⟨{ readyState := .closing, paused := false, errorListener := false, listener := .none, replacedGrace := false },
      Or.inr ⟨hcap, rfl, rfl, rfl⟩, fun ws => ?_⟩
    rw [onNet_net, Net.close_sockets, if_pos (by simp [Net.readyState]), Net.emit_sockets, InsertionMap.get_modify,
      InsertionMap.get_set]
    split <;> simp
  · rename_i hcap
    exact ⟨_, Or.inl ⟨by omega, rfl, rfl, rfl⟩, fun ws => InsertionMap.get_set _ _ _ _⟩

@[simp] theorem controlConnection_exchanges (s : Gateway) (ip : String) :
    (s.controlConnection ip).net.exchanges = s.net.exchanges := by
  unfold controlConnection
  dsimp only
  split <;> simp

/-- A connection touches no channel and no ticket. -/
theorem controlConnection_tables (s : Gateway) (ip : String) :
    (s.controlConnection ip).channels = s.channels ∧ (s.controlConnection ip).channelTickets = s.channelTickets ∧
      (s.controlConnection ip).drawn = s.drawn ∧ (s.controlConnection ip).uncaught = s.uncaught := by
  unfold controlConnection
  dsimp only
  split <;> simp

theorem FreshUpTo.controlConnection {s : Gateway} {n : Nat} (h : s.FreshUpTo Γ n) (hn : s.drawn < n) (ip : String) :
    (s.controlConnection ip).FreshUpTo Γ n := by
  obtain ⟨k0, hk0, hget⟩ := controlConnection_socket s ip
  obtain ⟨hchannels, htickets, -, -⟩ := controlConnection_tables s ip
  refine ⟨fun ws k hk => ?_, fun ws k id hk hl => ?_, fun ex x hx => ?_, ?_, ?_⟩
  · rw [hget] at hk
    split at hk
    · rename_i he
      exact he ▸ hn
    · exact h.sockets ws k hk
  · rw [hget] at hk
    split at hk
    · obtain rfl := Option.some.inj hk
      rcases hk0 with ⟨-, -, -, hl0⟩ | ⟨-, -, -, hl0⟩
      · rw [hl0] at hl
        cases hl
      · rw [hl0] at hl
        cases hl
    · exact h.listeners ws k id hk hl
  · rw [controlConnection_exchanges] at hx
    exact h.exchanges ex x hx
  · rw [hchannels]
    exact h.channels
  · rw [htickets]
    exact h.tickets

/-- An operation uses identifiers drawn before the next event. -/
theorem DataStep.fresh {s t : Gateway} {n : Nat} (h : DataStep Γ e s t) (hn : s.drawn < n) (hs : s.FreshUpTo Γ n) :
    t.FreshUpTo Γ n ∧ t.drawn = s.drawn := by
  cases h with
  | close h =>
    cases h with
    | turn h => exact ⟨hs.turns h, h.drawn⟩
    | teardown reason channelId => exact ⟨hs.teardown _ _, teardownChannel_drawn _ _ _⟩
  | dropTickets keep =>
    refine ⟨hs.of_sub (fun _ k hk => ⟨k, hk, rfl⟩) (fun _ x hx => ⟨x, hx, rfl⟩) (fun _ ch hc => ⟨ch, hc⟩) ?_, rfl⟩
    exact fun _ _ ht => (InsertionMap.get_filter_eq_some.mp ht).1
  | openChannel fresh peer backendPeer lease target kind => exact ⟨hs.openChannel hn _ _ _ _ _, rfl⟩
  | proxyViaChannel fresh hr epoch backendPeer => exact hs.proxyViaChannel hn _ _ _
  | connect fresh ip hact => exact ⟨hs.controlConnection hn _, (controlConnection_tables _ _).2.2.1⟩
  | dial fresh channelId ticket handshakeOk hact =>
    rcases handleChannelUpgrade_cases s channelId ticket handshakeOk with he | ⟨found, ch, -, -, hc, -, he⟩
    · rw [he]
      exact ⟨(hs.consumeTicket _).turns (.emit rfl _), rfl⟩
    · rw [he]
      exact ⟨(hs.consumeTicket _).attachLeg hn hc _, (attachLeg_tickets _ _ _).2.1⟩
  | responseHead hx hm meta_ => exact ⟨hs.speaks (responseHead_speaks _ _ _ _), (responseHead_speaks _ _ _ _).drawn⟩
  | responseBody hx hm data => exact ⟨hs.speaks (callResponse_speaks _ _ _), (callResponse_speaks _ _ _).drawn⟩
  | bridgeClose hk hl hact => exact ⟨hs.bridgeClose _ _, bridgeClose_drawn _ _ _⟩
  | responseClose ex => exact ⟨hs.responseClose _, responseClose_drawn _ _⟩
  | responseDrain ex => exact ⟨hs.responseDrain _, responseDrain_drawn _ _⟩
  | clock hact => exact ⟨hs.of_sub (fun _ k hk => ⟨k, hk, rfl⟩) (fun _ x hx => ⟨x, hx, rfl⟩) (fun _ ch hc => ⟨ch, hc⟩)
      (fun _ _ ht => ht), rfl⟩
  | relay h hact =>
    refine ⟨hs.of_sub (fun ws k hk => ?_) (fun ex x hx => ⟨x, h.exchanges ▸ hx, rfl⟩) (fun _ ch hc => ⟨ch, h.channels ▸ hc⟩)
      (fun _ _ ht => h.channelTickets ▸ ht), h.drawn⟩
    have hsockets : s.net.sockets.Pointwise (fun k k' => k'.listener.channel? = k.listener.channel?) t.net.sockets :=
      h.sockets (R := fun k k' => k'.listener.channel? = k.listener.channel?) (fun k => rfl) (fun k leg leg' paused hl hends => by rw [hl]; exact congrArg some hends.1)
    obtain ⟨k0, hk0, he⟩ := hsockets.some_get hk
    exact ⟨k0, hk0, he⟩

theorem DataSteps.fresh {s t : Gateway} {n : Nat} (h : DataSteps Γ e s t) (hn : s.drawn < n) (hs : s.FreshUpTo Γ n) :
    t.FreshUpTo Γ n ∧ t.drawn = s.drawn := by
  induction h with
  | refl => exact ⟨hs, rfl⟩
  | tail _ hstep ih =>
    obtain ⟨hfresh, hdrawn⟩ := hstep.fresh (ih.2 ▸ hn) ih.1
    exact ⟨hfresh, hdrawn.trans ih.2⟩

theorem DataSteps.invariant {I : Gateway → Prop} (hstep : ∀ s t, DataStep Γ e s t → I s → I t) {s t : Gateway}
    (h : DataSteps Γ e s t) (hs : I s) : I t := by
  induction h with
  | refl => exact hs
  | tail _ h ih => exact hstep _ _ h ih

/-! ## Admission -/

/-- Channels and tickets agree. -/
structure Admission (s : Gateway) : Prop where
  channelId : ∀ id ch, s.channels.get id = some ch → ch.channelId = id
  /-- A ticket belongs to a live channel, for a leg that is not attached; an internal channel has none for its client end. -/
  ticket : ∀ token ticket, s.channelTickets.get token = some ticket →
    ∃ ch, s.channels.get ticket.channelId = some ch ∧ token ∈ ch.ticketTokens ∧ ch.leg ticket.role = none ∧
      (ch.onBackendSocket.isSome → ticket.role = .backend)
  /-- A role of a channel has one ticket. -/
  unique : ∀ token token' ticket ticket', s.channelTickets.get token = some ticket →
    s.channelTickets.get token' = some ticket' → ticket.channelId = ticket'.channelId → ticket.role = ticket'.role →
    token = token'
  piped : ∀ id ch, s.channels.get id = some ch → ch.piped = ch.ready
  pairing : ∀ id ch, s.channels.get id = some ch → ch.pairingTimeout = !ch.piped
  internal : ∀ id ch, s.channels.get id = some ch → ch.onBackendSocket.isSome → ch.clientSocket = none

/-- The tables an admission depends on: no new ticket, and the same channels but for their responses. -/
theorem Admission.of_core {s t : Gateway} (h : s.Admission)
    (channels : ∀ id, (t.channels.get id).map ChannelRecord.core = (s.channels.get id).map ChannelRecord.core)
    (tickets : ∀ token ticket, t.channelTickets.get token = some ticket → s.channelTickets.get token = some ticket) :
    t.Admission := by
  have hback (id : String) (ch : ChannelRecord) (hc : t.channels.get id = some ch) :
      ∃ ch0, s.channels.get id = some ch0 ∧ ch.core = ch0.core := by
    have he := channels id
    rw [hc, Option.map_some] at he
    obtain ⟨ch0, hc0, he0⟩ := Option.map_eq_some_iff.mp he.symm
    exact ⟨ch0, hc0, he0.symm⟩
  refine ⟨fun id ch hc => ?_, fun token ticket ht => ?_, fun token token' ticket ticket' ht ht' => ?_, fun id ch hc => ?_,
    fun id ch hc => ?_, fun id ch hc hint => ?_⟩
  · obtain ⟨ch0, hc0, he⟩ := hback id ch hc
    exact (congrArg ChannelRecord.channelId he).trans (h.channelId id ch0 hc0)
  · obtain ⟨ch0, hc0, htok, hleg, hrole⟩ := h.ticket token ticket (tickets _ _ ht)
    have hc := channels ticket.channelId
    rw [hc0, Option.map_some] at hc
    obtain ⟨ch, hc, he⟩ := Option.map_eq_some_iff.mp hc
    refine ⟨ch, hc, (congrArg ChannelRecord.ticketTokens he) ▸ htok, ?_, fun hint => hrole ?_⟩
    · rw [← hleg]
      cases ticket.role with
      | client => exact congrArg (fun ch => ch.leg .client) he
      | backend => exact congrArg (fun ch => ch.leg .backend) he
    · exact (congrArg (fun ch => ch.onBackendSocket.isSome) he) ▸ hint
  · exact h.unique token token' ticket ticket' (tickets _ _ ht) (tickets _ _ ht')
  · obtain ⟨ch0, hc0, he⟩ := hback id ch hc
    exact (congrArg ChannelRecord.piped he).trans ((h.piped id ch0 hc0).trans (congrArg ChannelRecord.ready he).symm)
  · obtain ⟨ch0, hc0, he⟩ := hback id ch hc
    exact (congrArg ChannelRecord.pairingTimeout he).trans
      ((h.pairing id ch0 hc0).trans (congrArg (fun ch => !ch.piped) he).symm)
  · obtain ⟨ch0, hc0, he⟩ := hback id ch hc
    have hint0 : ch0.onBackendSocket.isSome := (congrArg (fun ch => ch.onBackendSocket.isSome) he) ▸ hint
    exact (congrArg ChannelRecord.clientSocket he).trans (h.internal id ch0 hc0 hint0)

theorem Admission.turns {s t : Gateway} (h : s.Admission) (ht : s.DataTurns t) : t.Admission :=
  h.of_core (fun id => by rw [ht.channels]) (fun _ _ htk => ht.channelTickets ▸ htk)

theorem Admission.teardown {s : Gateway} (h : s.Admission) (reason : ChannelClosedReason) (channelId : String) :
    (s.teardownChannel reason channelId).Admission := by
  rcases hc0 : s.channels.get channelId with _ | ch0
  · rw [teardownChannel_of_none _ _ _ hc0]
    exact h
  · have hback (id : String) (ch : ChannelRecord) (hc : (s.teardownChannel reason channelId).channels.get id = some ch) :
        s.channels.get id = some ch := by
      rw [teardownChannel_channel] at hc
      split at hc
      · cases hc
      · exact hc
    have htback (token : String) (ticket : ChannelTicket)
        (ht : (s.teardownChannel reason channelId).channelTickets.get token = some ticket) :
        token ∉ ch0.ticketTokens ∧ s.channelTickets.get token = some ticket := by
      rw [teardownChannel_ticket _ _ _ hc0] at ht
      split at ht
      · cases ht
      · rename_i hno
        exact ⟨hno, ht⟩
    refine ⟨fun id ch hc => h.channelId id ch (hback id ch hc), fun token ticket ht => ?_,
      fun token token' ticket ticket' ht ht' => h.unique _ _ _ _ (htback _ _ ht).2 (htback _ _ ht').2,
      fun id ch hc => h.piped id ch (hback id ch hc), fun id ch hc => h.pairing id ch (hback id ch hc),
      fun id ch hc => h.internal id ch (hback id ch hc)⟩
    obtain ⟨hno, ht⟩ := htback token ticket ht
    obtain ⟨ch, hc, htok, hleg, hrole⟩ := h.ticket token ticket ht
    refine ⟨ch, ?_, htok, hleg, hrole⟩
    rw [teardownChannel_channel, if_neg]
    · exact hc
    · rintro he
      rw [he, hc0, Option.some.injEq] at hc
      exact hno (hc ▸ htok)

theorem Admission.openChannel {s : Gateway} (h : s.Admission) (fresh : s.Fresh Γ) (peer backendPeer : PeerSession)
    (lease : BackendLease) (target : String) (kind : Option String) :
    (s.openChannel Γ peer backendPeer lease target kind).Admission := by
  have hnew := fresh.channel
  -- A ticket that was there is for another channel.
  have hold (token : String) (ticket : ChannelTicket) (ht : s.channelTickets.get token = some ticket) :
      ticket.channelId ≠ Γ.channelIds.draw s.drawn := by
    intro he
    obtain ⟨ch, hc, -⟩ := h.ticket token ticket ht
    rw [he, hnew] at hc
    cases hc
  have hchannel (id : String) (ch : ChannelRecord)
      (hc : (s.openChannel Γ peer backendPeer lease target kind).channels.get id = some ch) :
      (id = Γ.channelIds.draw s.drawn ∧ ch.channelId = id ∧ ch.piped = false ∧ ch.pairingTimeout = true ∧
          ch.clientSocket = none ∧ ch.backendSocket = none) ∨ s.channels.get id = some ch := by
    rcases InsertionMap.get_set_eq_some.mp hc with ⟨rfl, rfl⟩ | ⟨-, hc⟩
    · exact Or.inl ⟨rfl, rfl, rfl, rfl, rfl, rfl⟩
    · exact Or.inr hc
  have hticket (token : String) (ticket : ChannelTicket)
      (ht : (s.openChannel Γ peer backendPeer lease target kind).channelTickets.get token = some ticket) :
      (ticket.channelId = Γ.channelIds.draw s.drawn ∧
          (ticket.role = .backend ∧ token = Γ.tickets.draw (2 * s.drawn + 1) ∨
            ticket.role = .client ∧ token = Γ.tickets.draw (2 * s.drawn))) ∨
        s.channelTickets.get token = some ticket := by
    rcases InsertionMap.get_set_eq_some.mp ht with ⟨rfl, rfl⟩ | ⟨-, ht⟩
    · exact Or.inl ⟨rfl, Or.inl ⟨rfl, rfl⟩⟩
    · rcases InsertionMap.get_set_eq_some.mp ht with ⟨rfl, rfl⟩ | ⟨-, ht⟩
      · exact Or.inl ⟨rfl, Or.inr ⟨rfl, rfl⟩⟩
      · exact Or.inr ht
  refine ⟨fun id ch hc => ?_, fun token ticket ht => ?_, fun token token' ticket ticket' ht ht' hid hrole => ?_,
    fun id ch hc => ?_, fun id ch hc => ?_, fun id ch hc hint => ?_⟩
  · rcases hchannel id ch hc with ⟨-, he, -⟩ | hc
    · exact he
    · exact h.channelId id ch hc
  · rcases hticket token ticket ht with ⟨hid, hrole⟩ | ht
    · refine ⟨_, by rw [hid]; exact InsertionMap.get_set_self _ _ _, ?_, ?_, by simp⟩
      · rcases hrole with ⟨-, rfl⟩ | ⟨-, rfl⟩ <;> simp
      · cases ticket.role <;> rfl
    · obtain ⟨ch, hc, hrest⟩ := h.ticket token ticket ht
      exact ⟨ch, (InsertionMap.get_set_of_ne (hold token ticket ht)).trans hc, hrest⟩
  · rcases hticket token ticket ht with ⟨hn, hr⟩ | ht <;> rcases hticket token' ticket' ht' with ⟨hn', hr'⟩ | ht'
    · rcases hr with ⟨hr, rfl⟩ | ⟨hr, rfl⟩ <;> rcases hr' with ⟨hr', rfl⟩ | ⟨hr', rfl⟩
      · rfl
      · rw [hr, hr'] at hrole
        cases hrole
      · rw [hr, hr'] at hrole
        cases hrole
      · rfl
    · exact absurd (hid.symm.trans hn) (hold _ _ ht')
    · exact absurd (hid.trans hn') (hold _ _ ht)
    · exact h.unique _ _ _ _ ht ht' hid hrole
  · rcases hchannel id ch hc with ⟨-, -, hp, -, ha, hb⟩ | hc
    · simp [ChannelRecord.ready, hp, hb]
    · exact h.piped id ch hc
  · rcases hchannel id ch hc with ⟨-, -, hp, ht, -, -⟩ | hc
    · rw [hp, ht]
      rfl
    · exact h.pairing id ch hc
  · rcases hchannel id ch hc with ⟨-, -, -, -, ha, -⟩ | hc
    · exact ha
    · exact h.internal id ch hc hint

theorem Admission.proxyViaChannel {s : Gateway} (h : s.Admission) (fresh : s.Fresh Γ) (request : ProxyRequest) (epoch : Nat)
    (backendPeer : PeerSession) : (s.proxyViaChannel Γ request epoch backendPeer).Admission := by
  have hnew := fresh.channel
  have hold (token : String) (ticket : ChannelTicket) (ht : s.channelTickets.get token = some ticket) :
      ticket.channelId ≠ Γ.channelIds.draw s.drawn := by
    intro he
    obtain ⟨ch, hc, -⟩ := h.ticket token ticket ht
    rw [he, hnew] at hc
    cases hc
  unfold Gateway.proxyViaChannel
  split
  · exact h.turns (.reply _ _)
  · refine ⟨fun id ch hc => ?_, fun token ticket ht => ?_, fun token token' ticket ticket' ht ht' hid hrole => ?_,
      fun id ch hc => ?_, fun id ch hc => ?_, fun id ch hc hint => ?_⟩
    · rcases InsertionMap.get_set_eq_some.mp hc with ⟨rfl, rfl⟩ | ⟨-, hc⟩
      · rfl
      · exact h.channelId id ch hc
    · rcases InsertionMap.get_set_eq_some.mp ht with ⟨rfl, rfl⟩ | ⟨-, ht⟩
      · exact ⟨_, InsertionMap.get_set_self _ _ _, by simp, rfl, fun _ => rfl⟩
      · obtain ⟨ch, hc, hrest⟩ := h.ticket token ticket ht
        exact ⟨ch, (InsertionMap.get_set_of_ne (hold token ticket ht)).trans hc, hrest⟩
    · rcases InsertionMap.get_set_eq_some.mp ht with ⟨rfl, rfl⟩ | ⟨-, ht⟩ <;>
        rcases InsertionMap.get_set_eq_some.mp ht' with ⟨rfl, rfl⟩ | ⟨-, ht'⟩
      · rfl
      · exact absurd hid.symm (hold _ _ ht')
      · exact absurd hid (hold _ _ ht)
      · exact h.unique _ _ _ _ ht ht' hid hrole
    · rcases InsertionMap.get_set_eq_some.mp hc with ⟨rfl, rfl⟩ | ⟨-, hc⟩
      · rfl
      · exact h.piped id ch hc
    · rcases InsertionMap.get_set_eq_some.mp hc with ⟨rfl, rfl⟩ | ⟨-, hc⟩
      · rfl
      · exact h.pairing id ch hc
    · rcases InsertionMap.get_set_eq_some.mp hc with ⟨rfl, rfl⟩ | ⟨-, hc⟩
      · rfl
      · exact h.internal id ch hc hint

/-- A ticket's channel is not piped: the leg it is for is missing. -/
theorem Admission.not_piped {s : Gateway} (h : s.Admission) {token : String} {ticket : ChannelTicket} {ch : ChannelRecord}
    (ht : s.channelTickets.get token = some ticket) (hc : s.channels.get ticket.channelId = some ch) :
    ch.piped = false ∧ ch.leg ticket.role = none ∧ (ch.onBackendSocket.isSome → ticket.role = .backend) := by
  obtain ⟨ch', hc', -, hleg, hrole⟩ := h.ticket token ticket ht
  obtain rfl := Option.some.inj (hc.symm.trans hc')
  refine ⟨?_, hleg, hrole⟩
  rw [h.piped _ _ hc]
  rcases hr : ticket.role with _ | _
  · rw [hr] at hleg hrole
    have hext : ch.onBackendSocket.isSome = false := by
      by_contra hint
      cases hrole (eq_true_of_ne_false hint)
    have hnone : ch.clientSocket = none := hleg
    rw [ChannelRecord.ready, hext, hnone]
    simp
  · rw [hr] at hleg
    have hnone : ch.backendSocket = none := hleg
    rw [ChannelRecord.ready, hnone]
    simp

theorem Admission.dial {s : Gateway} (h : s.Admission) (channelId : String) (ticket : Option String) (handshakeOk : Bool) :
    (s.handleChannelUpgrade channelId ticket handshakeOk).Admission := by
  have hconsumed : (s.consumeTicket (ticket.getD "")).Admission :=
    h.of_core (fun _ => rfl) (fun _ _ ht => (InsertionMap.get_delete_eq_some.mp ht).2)
  rcases handleChannelUpgrade_cases s channelId ticket handshakeOk with he | ⟨found, ch, ht, rfl, hc, -, he⟩
  · rw [he]
    exact hconsumed.turns (.emit rfl _)
  · rw [he]
    obtain ⟨hp, hleg, hrole⟩ := h.not_piped ht hc
    have hget (id : String) := attachLeg_channel found.channelId found.role (s.consumeTicket (ticket.getD "")) hc id
    -- What the dial leaves of the channel's tickets is for the other role.
    have hother (token : String) (other : ChannelTicket)
        (ho : (s.consumeTicket (ticket.getD "")).channelTickets.get token = some other)
        (hid : other.channelId = found.channelId) : other.role ≠ found.role := by
      obtain ⟨hne, ho⟩ := InsertionMap.get_delete_eq_some.mp ho
      exact fun hr => hne (h.unique _ _ _ _ ho ht hid hr)
    obtain ⟨hkid, -, -, -, -, hktok, hkint, -⟩ := ch.dialed_keeps found.role s.drawn
    have hchannel (id : String) (ch' : ChannelRecord)
        (hc' : ((s.consumeTicket (ticket.getD "")).attachLeg found.channelId found.role).channels.get id = some ch') :
        (id = found.channelId ∧ ch' = ch.dialed found.role s.drawn) ∨ s.channels.get id = some ch' := by
      rw [hget] at hc'
      split at hc'
      · rename_i hid
        exact Or.inl ⟨hid, (Option.some.inj hc').symm⟩
      · exact Or.inr hc'
    refine ⟨fun id ch' hc' => ?_, fun token other ho => ?_, fun token token' other other' ho ho' => ?_, fun id ch' hc' => ?_,
      fun id ch' hc' => ?_, fun id ch' hc' hint => ?_⟩
    · rcases hchannel id ch' hc' with ⟨rfl, rfl⟩ | hc'
      · exact hkid.trans (h.channelId _ _ hc)
      · exact h.channelId id ch' hc'
    · rw [(attachLeg_tickets _ _ _).1] at ho
      obtain ⟨ch0, hc0, htok, hleg0, hrole0⟩ := hconsumed.ticket token other ho
      rw [hget]
      split
      · rename_i hid
        have hch : ch0 = ch := Option.some.inj ((hid ▸ hc0).symm.trans hc)
        refine ⟨_, rfl, hktok ▸ hch ▸ htok, ?_, fun hint => hrole0 (hch ▸ hkint ▸ hint)⟩
        rw [ChannelRecord.dialed_leg, if_neg (hother token other ho hid), ← hch, hleg0]
      · exact ⟨ch0, hc0, htok, hleg0, hrole0⟩
    · rw [(attachLeg_tickets _ _ _).1] at ho ho'
      exact hconsumed.unique token token' other other' ho ho'
    · rcases hchannel id ch' hc' with ⟨rfl, rfl⟩ | hc'
      · exact ch.dialed_piped _ _ hp
      · exact h.piped id ch' hc'
    · rcases hchannel id ch' hc' with ⟨rfl, rfl⟩ | hc'
      · exact ch.dialed_pairing _ _ hp (by rw [h.pairing _ _ hc, hp]; rfl)
      · exact h.pairing id ch' hc'
    · rcases hchannel id ch' hc' with ⟨rfl, rfl⟩ | hc'
      · have hint0 : ch.onBackendSocket.isSome := hkint ▸ hint
        have hclient := ch.dialed_leg found.role s.drawn .client
        rw [hrole hint0, if_neg (by simp)] at hclient
        rw [hrole hint0]
        exact hclient.trans (h.internal _ _ hc hint0)
      · exact h.internal id ch' hc' hint

theorem Admission.bridgeClose {s : Gateway} (h : s.Admission) (channelId : String) (ex : ExchangeId) :
    (s.bridgeClose channelId ex).Admission := by
  unfold Gateway.bridgeClose
  split
  · exact h
  · rename_i x _
    obtain ⟨hchannels, htickets, -⟩ := finishResponse_tables channelId ex x s
    exact Admission.teardown (h.of_core hchannels (fun _ _ ht => htickets ▸ ht)) _ _

theorem Admission.responseClose {s : Gateway} (h : s.Admission) (ex : ExchangeId) : (s.responseClose ex).Admission := by
  unfold Gateway.responseClose
  split
  · exact h
  · split
    · exact h
    · refine Admission.teardown (s := s.onNet _) ?_ _ _
      exact h.of_core (fun _ => rfl) (fun _ _ ht => ht)

theorem Admission.responseDrain {s : Gateway} (h : s.Admission) (ex : ExchangeId) : (s.responseDrain ex).Admission := by
  unfold Gateway.responseDrain
  split
  · split
    · exact h.of_core (fun _ => rfl) (fun _ _ ht => ht)
    · exact h
  · exact h

theorem Admission.init (storage : Storage) : (Gateway.init storage).Admission :=
  ⟨fun _ _ hc => (nomatch hc), fun _ _ ht => (nomatch ht), fun _ _ _ _ ht _ _ _ => (nomatch ht), fun _ _ hc => (nomatch hc),
    fun _ _ hc => (nomatch hc), fun _ _ hc _ => (nomatch hc)⟩

theorem DataStep.admission {s t : Gateway} (h : DataStep Γ e s t) (hs : s.Admission) : t.Admission := by
  cases h with
  | close h =>
    cases h with
    | turn h => exact hs.turns h
    | teardown reason channelId => exact hs.teardown _ _
  | dropTickets keep => exact hs.of_core (fun _ => rfl) (fun _ _ ht => (InsertionMap.get_filter_eq_some.mp ht).1)
  | openChannel fresh peer backendPeer lease target kind => exact hs.openChannel fresh _ _ _ _ _
  | proxyViaChannel fresh hr epoch backendPeer => exact hs.proxyViaChannel fresh _ _ _
  | connect fresh ip hact =>
    obtain ⟨hchannels, htickets, -, -⟩ := controlConnection_tables s ip
    exact hs.of_core (fun id => by rw [hchannels]) (fun _ _ ht => htickets ▸ ht)
  | dial fresh channelId ticket handshakeOk hact => exact hs.dial _ _ _
  | responseHead hx hm meta_ =>
    rename_i ex x
    have hspeaks := responseHead_speaks ex x.request meta_ s
    exact hs.of_core (fun id => by rw [hspeaks.channels]) (fun _ _ ht => hspeaks.channelTickets ▸ ht)
  | responseBody hx hm data =>
    rename_i ex _
    have hspeaks := callResponse_speaks ex s (.write data)
    exact hs.of_core (fun id => by rw [hspeaks.channels]) (fun _ _ ht => hspeaks.channelTickets ▸ ht)
  | bridgeClose hk hl hact => exact hs.bridgeClose _ _
  | responseClose ex => exact hs.responseClose _
  | responseDrain ex => exact hs.responseDrain _
  | clock hact => exact hs.of_core (fun _ => rfl) (fun _ _ ht => ht)
  | relay h hact => exact hs.of_core (fun id => by rw [h.channels]) (fun _ _ ht => h.channelTickets ▸ ht)

end Gateway

/-! ## Runs -/

section Runs

open Gateway

variable {Γ : Ctx} {storage : Storage}

theorem quiet_turns (s : Gateway) : s.DataTurns s.quiet := .onNet (.of_eq rfl rfl (List.nil_sublist _))

/-- What a running gateway makes of an event. -/
theorem step_running {s : Gateway} (h : s.uncaught = none) (e : Event) :
    s.step Γ e = { s.quiet.handle Γ e with drawn := (s.quiet.handle Γ e).drawn + 1 } := by
  have hrun : s.uncaught.isSome = false := by simp [h]
  unfold Gateway.step
  rw [if_neg (by simp [hrun])]

/-- A gateway that is gone makes nothing of an event. -/
theorem step_stopped {s : Gateway} {error : JsError} (h : s.uncaught = some error) (e : Event) : s.step Γ e = s.quiet := by
  have hstop : s.uncaught.isSome = true := by simp [h]
  unfold Gateway.step
  rw [if_pos hstop]

/-- A control connection learns the session its hello opened. -/
def authenticated (ws : SocketId) (peerSessionId : Option String) (s : Gateway) : Gateway :=
  s.onNet (modifyConn ws (fun conn => { conn with peerSessionId }))

/-- What operations on the data plane and authentication preserve, an event preserves. -/
theorem handle_preserves {I : Gateway → Prop} (e : Event) (hstep : ∀ s t, DataStep Γ e s t → I s → I t)
    (hauth : ∀ s ws peerSessionId, I s → I (authenticated ws peerSessionId s)) {s : Gateway}
    (fresh : s.Fresh Γ) (h : I s) : I (s.handle Γ e) := by
  rcases hh : s.helloOf Γ e with _ | ⟨ws, conn, hello⟩
  · exact (handle_data fresh hh).invariant hstep h
  · obtain ⟨u, peerSessionId, hcloses, he⟩ := greet_closes (Γ := Γ) ws conn hello s
    rw [handle_hello hh, he]
    exact hauth u ws peerSessionId (hcloses.steps.invariant hstep h)

/-- An event uses identifiers drawn up to it, and draws none by itself. -/
theorem handle_fresh (e : Event) {s : Gateway} (fresh : s.Fresh Γ) :
    (s.handle Γ e).FreshUpTo Γ (s.drawn + 1) ∧ (s.handle Γ e).drawn = s.drawn := by
  have hmono : s.FreshUpTo Γ (s.drawn + 1) := FreshUpTo.mono fresh (Nat.le_succ _)
  refine handle_preserves (I := fun t => t.FreshUpTo Γ (s.drawn + 1) ∧ t.drawn = s.drawn) e (fun t u hstep ht => ?_)
    (fun t ws peerSessionId ht => ⟨ht.1.authenticate ws _, ht.2⟩) fresh ⟨hmono, rfl⟩
  obtain ⟨hfresh, hdrawn⟩ := hstep.fresh (ht.2 ▸ Nat.lt_succ_self _) ht.1
  exact ⟨hfresh, hdrawn.trans ht.2⟩

/-- After every run every identifier in use was drawn by an event of it. -/
theorem fresh_run (es : List Event) : ((gateway Γ storage).run es).Fresh Γ := by
  refine (gateway Γ storage).invariant (I := fun s => s.Fresh Γ) ?_ (fun s e h => ?_) es
  · exact ⟨nofun, nofun, nofun, nofun, nofun⟩
  · have hquiet : s.quiet.Fresh Γ := h.turns (quiet_turns s)
    change (Gateway.step Γ s e).Fresh Γ
    unfold Gateway.step
    split
    · exact hquiet
    · obtain ⟨hfresh, hdrawn⟩ := handle_fresh (Γ := Γ) e hquiet
      rw [← hdrawn] at hfresh
      exact ⟨hfresh.sockets, hfresh.listeners, hfresh.exchanges, hfresh.channels, hfresh.tickets⟩

/-- What the start has and every operation on the data plane preserves holds after every run. -/
theorem data_invariant {I : Gateway → Prop} (h0 : I (.init storage))
    (hstep : ∀ {e : Event} s t, DataStep Γ e s t → I s → I t)
    (hauth : ∀ s ws peerSessionId, I s → I (authenticated ws peerSessionId s))
    (hdrawn : ∀ s n, I s → I { s with drawn := n }) (es : List Event) : I ((gateway Γ storage).run es) := by
  induction es using List.reverseRecOn with
  | nil => exact h0
  | append_singleton es e ih =>
    rw [EventMachine.run_snoc]
    have hfresh : ((gateway Γ storage).run es).quiet.Fresh Γ := (fresh_run es).turns (quiet_turns _)
    have hquiet : I ((gateway Γ storage).run es).quiet :=
      hstep (e := e) _ _ (.close (.turn (quiet_turns _))) ih
    change I (Gateway.step Γ _ e)
    unfold Gateway.step
    split
    · exact hquiet
    · exact hdrawn _ _ (handle_preserves e (fun s t h hs => hstep s t h hs) hauth hfresh hquiet)

end Runs

end ZclaudiaGateway
