import ZclaudiaGateway.Lemmas.Admission

/-!
# The sockets of a channel

A leg that waits for its pair is held and has no listeners; the legs of a piped channel carry that channel's data, and each
other's. A socket that carries the data of a channel is one of its legs while the channel lives, and no longer open once it is
gone.
-/

namespace ZclaudiaGateway

/-! ## Sockets that are wired -/

/-- `resume()`. -/
def WsSocket.resumed (k : WsSocket) : WsSocket := if k.readyState = .closed then k else { k with paused := false }

def WsSocket.relaying (channelId : String) (dst : SocketId) (k : WsSocket) : WsSocket :=
  { k with
    errorListener := true
    listener := .relay { channelId, dst, used := 0, resetAt := 0, rateTimers := [], drains := 0 } }

def WsSocket.bridging (channelId : String) (ex : ExchangeId) (k : WsSocket) : WsSocket :=
  { k with errorListener := true, listener := .bridge channelId ex }

@[simp] theorem WsSocket.resumed_listener (k : WsSocket) : k.resumed.listener = k.listener := by
  unfold resumed
  split <;> rfl

@[simp] theorem WsSocket.resumed_errorListener (k : WsSocket) : k.resumed.errorListener = k.errorListener := by
  unfold resumed
  split <;> rfl

@[simp] theorem WsSocket.resumed_readyState (k : WsSocket) : k.resumed.readyState = k.readyState := by
  unfold resumed
  split <;> rfl

theorem Net.resume_get (ws w : SocketId) (net : Net) :
    (net.resume ws).sockets.get w = if w = ws then (net.sockets.get w).map WsSocket.resumed else net.sockets.get w := by
  rw [Net.resume_sockets]
  rcases hk : net.sockets.get ws with _ | k
  · rw [Net.readyState, hk, if_pos rfl]
    split
    · rename_i he
      rw [he, hk]
      rfl
    · rfl
  · rw [Net.readyState_eq hk]
    split
    · rename_i hc
      split
      · rename_i he
        rw [he, hk, Option.map_some, WsSocket.resumed, if_pos hc]
      · rfl
    · rename_i hc
      rw [InsertionMap.get_modify]
      split
      · rename_i he
        rw [he, hk, Option.map_some, Option.map_some, WsSocket.resumed, if_neg hc]
      · rfl

namespace Gateway

variable {Γ : Ctx}

/-- Pairing two legs wires each to the other. -/
theorem wireChannel_socket (channelId : String) {a b : SocketId} (hab : a ≠ b) (s : Gateway) (w : SocketId) :
    (s.wireChannel channelId a b).net.sockets.get w =
      if w = a then (s.net.sockets.get w).map (fun k => (k.relaying channelId b).resumed)
      else if w = b then (s.net.sockets.get w).map (fun k => (k.relaying channelId a).resumed)
      else s.net.sockets.get w := by
  have hwire (net : Net) (ws dst : SocketId) : (wireLeg channelId ws dst net).sockets.get w =
      if w = ws then (net.sockets.get w).map (WsSocket.relaying channelId dst) else net.sockets.get w :=
    InsertionMap.get_modify _ _ _ _
  simp only [wireChannel, onNet_net, onChannel, Net.resume_get, hwire]
  by_cases ha : w = a
  · subst ha
    simp [hab, Function.comp_def]
  · by_cases hb : w = b
    · subst hb
      simp [ha, Function.comp_def]
    · simp [ha, hb]

/-- Pairing an internal channel bridges its leg to the exchange. -/
theorem bridge_socket (channelId : String) (ex : ExchangeId) (b : SocketId) (net : Net) {x : HttpExchange}
    (hx : net.exchanges.get ex = some x) (w : SocketId) :
    ((bridgeHttpChannel channelId ex b net).resume b).sockets.get w =
      if w = b then (net.sockets.get w).map (fun k => (k.bridging channelId ex).resumed) else net.sockets.get w := by
  have hbridge : (bridgeHttpChannel channelId ex b net).sockets.get w =
      if w = b then (net.sockets.get w).map (WsSocket.bridging channelId ex) else net.sockets.get w := by
    unfold bridgeHttpChannel
    rw [hx]
    exact InsertionMap.get_modify _ _ _ _
  rw [Net.resume_get, hbridge]
  by_cases hb : w = b
  · subst hb
    simp [Function.comp_def]
  · simp [hb]

theorem bridge_exchange (channelId : String) (ex : ExchangeId) (b : SocketId) (net : Net) (e : ExchangeId) :
    ((bridgeHttpChannel channelId ex b net).resume b).exchanges.get e =
      if e = ex then (net.exchanges.get e).map (fun x => { x with ws := some b, responseTimer := true })
      else net.exchanges.get e := by
  rw [Net.resume_exchanges]
  unfold bridgeHttpChannel
  split
  · rename_i hn
    split
    · rename_i he
      rw [he, hn]
      rfl
    · rfl
  · exact InsertionMap.get_modify _ _ _ _

/-! ## The invariant -/

end Gateway

/-- The leg's listeners are those of its channel. -/
def ChannelRecord.Wires (ch : ChannelRecord) (id : String) (role : ChannelRole) (k : WsSocket) : Prop :=
  if ch.piped then
    match ch.onBackendSocket with
    | some ex => k.listener = .bridge id ex
    | none => ∃ leg, k.listener = .relay leg ∧ leg.channelId = id ∧ ch.leg role.other = some leg.dst
  else k.listener = .none ∧ k.paused = true

/-- The legs of channels and the sockets that carry data. -/
structure Gateway.Legs (s : Gateway) : Prop where
  leg : ∀ id ch role ws, s.channels.get id = some ch → ch.leg role = some ws →
    ∃ k, s.net.sockets.get ws = some k ∧ ch.Wires id role k
  unique : ∀ id id' ch ch' role role' ws, s.channels.get id = some ch → s.channels.get id' = some ch' →
    ch.leg role = some ws → ch'.leg role' = some ws → id = id' ∧ role = role'
  carries : ∀ ws k id, s.net.sockets.get ws = some k → k.listener.channel? = some id →
    (∃ ch role, s.channels.get id = some ch ∧ ch.leg role = some ws) ∨
      s.channels.get id = none ∧ k.readyState ≠ .open_
  pair : ∀ ws k leg, s.net.sockets.get ws = some k → k.listener = .relay leg →
    ∃ k' leg', s.net.sockets.get leg.dst = some k' ∧ k'.listener = .relay leg' ∧ leg'.channelId = leg.channelId
  listens : ∀ ws k, s.net.sockets.get ws = some k → k.listener ≠ .none → k.errorListener = true
  bridged : ∀ ws k id ex, s.net.sockets.get ws = some k → k.listener = .bridge id ex →
    ∃ x, s.net.exchanges.get ex = some x ∧ x.channelId = id ∧ x.ws = some ws
  socket : ∀ ex x ws, s.net.exchanges.get ex = some x → x.ws = some ws →
    ∃ k, s.net.sockets.get ws = some k ∧ k.listener = .bridge x.channelId ex
  internal : ∀ id ch ex, s.channels.get id = some ch → ch.onBackendSocket = some ex →
    ∃ x, s.net.exchanges.get ex = some x ∧ x.channelId = id

/-- The same leg, but for its counters. -/
def Listener.SameLeg : Listener → Listener → Prop
  | .none, .none => True
  | .control _, .control _ => True
  | .relay leg, .relay leg' => leg'.channelId = leg.channelId ∧ leg'.dst = leg.dst
  | .bridge channelId ex, .bridge channelId' ex' => channelId' = channelId ∧ ex' = ex
  | _, _ => False

/-- What the legs depend on of a socket. -/
structure WsSocket.Keeps (k k' : WsSocket) : Prop where
  opens : k'.readyState = .open_ → k.readyState = .open_
  errorListener : k'.errorListener = k.errorListener
  listener : k.listener.SameLeg k'.listener
  held : k.listener = .none → k'.paused = k.paused

theorem WsSocket.Turns.keeps {k k' : WsSocket} (h : k.Turns k') : k.Keeps k' := by
  refine ⟨h.open_of, h.errorListener, ?_, h.held⟩
  have hrole := h.listener
  revert hrole
  rcases k.listener with _ | conn | leg | ⟨channelId, ex⟩ <;>
    rcases k'.listener with _ | conn' | leg' | ⟨channelId', ex'⟩ <;> intro hrole
  all_goals first | exact hrole | exact trivial

theorem Listener.SameLeg.channel?_eq {l l' : Listener} (h : l.SameLeg l') : l'.channel? = l.channel? := by
  cases l <;> cases l' <;> simp_all [Listener.SameLeg, Listener.channel?]

theorem Listener.SameLeg.none_iff {l l' : Listener} (h : l.SameLeg l') : l' = .none ↔ l = .none := by
  cases l <;> cases l' <;> simp_all [Listener.SameLeg]

theorem Listener.SameLeg.relay {l : Listener} {leg : RelayLeg} (h : (Listener.relay leg).SameLeg l) :
    ∃ leg', l = .relay leg' ∧ leg'.channelId = leg.channelId ∧ leg'.dst = leg.dst := by
  rcases l with _ | conn | leg' | ⟨channelId, ex⟩
  · exact h.elim
  · exact h.elim
  · exact ⟨leg', rfl, h⟩
  · exact h.elim

theorem Listener.SameLeg.of_relay {l : Listener} {leg : RelayLeg} (h : l.SameLeg (.relay leg)) :
    ∃ leg', l = .relay leg' ∧ leg.channelId = leg'.channelId ∧ leg.dst = leg'.dst := by
  rcases l with _ | conn | leg' | ⟨channelId, ex⟩
  · exact h.elim
  · exact h.elim
  · exact ⟨leg', rfl, h⟩
  · exact h.elim

theorem Listener.SameLeg.bridge {l : Listener} {id : String} {ex : ExchangeId} (h : (Listener.bridge id ex).SameLeg l) :
    l = .bridge id ex := by
  rcases l with _ | conn | leg' | ⟨channelId, ex'⟩
  · exact h.elim
  · exact h.elim
  · exact h.elim
  · rw [h.1, h.2]

theorem Listener.SameLeg.of_bridge {l : Listener} {id : String} {ex : ExchangeId} (h : l.SameLeg (.bridge id ex)) :
    l = .bridge id ex := by
  rcases l with _ | conn | leg' | ⟨channelId, ex'⟩
  · exact h.elim
  · exact h.elim
  · exact h.elim
  · rw [h.1, h.2]

theorem WsSocket.Keeps.refl (k : WsSocket) : k.Keeps k := (WsSocket.Turns.refl k).keeps

theorem ChannelRecord.Wires.keeps {ch : ChannelRecord} {id : String} {role : ChannelRole} {k k' : WsSocket}
    (h : ch.Wires id role k) (hk : k.Keeps k') : ch.Wires id role k' := by
  have hleg := hk.listener
  unfold Wires at h ⊢
  split
  · rename_i hp
    rw [if_pos hp] at h
    revert h
    split
    · intro h
      rw [h] at hleg
      exact hleg.bridge
    · rintro ⟨leg, hl, hid, hdst⟩
      rw [hl] at hleg
      obtain ⟨leg', hl', hid', hdst'⟩ := hleg.relay
      exact ⟨leg', hl', hid'.trans hid, hdst' ▸ hdst⟩
  · rename_i hp
    rw [if_neg hp] at h
    exact ⟨hleg.none_iff.mpr h.1, (hk.held h.1).trans h.2⟩

/-- What a leg is wired to depends on the channel's core. -/
theorem ChannelRecord.Wires.core {ch ch' : ChannelRecord} (he : ch.core = ch'.core) {id : String} {role : ChannelRole}
    {k : WsSocket} (h : ch.Wires id role k) : ch'.Wires id role k := by
  have hcore (c : ChannelRecord) : c.core.Wires id role k ↔ c.Wires id role k := by
    cases role <;> exact Iff.rfl
  rwa [← hcore, he, hcore] at h

namespace Gateway

variable {Γ : Ctx}

/-- The legs of the same channels, on sockets and exchanges that keep what they are for. -/
theorem Legs.keeps {s t : Gateway} (h : s.Legs)
    (channels : ∀ id, (t.channels.get id).map ChannelRecord.core = (s.channels.get id).map ChannelRecord.core)
    (sockets : s.net.sockets.Pointwise WsSocket.Keeps t.net.sockets)
    (exchanges : s.net.exchanges.Pointwise HttpExchange.SameBridge t.net.exchanges) : t.Legs := by
  have hback (id : String) (ch : ChannelRecord) (hc : t.channels.get id = some ch) :
      ∃ ch0, s.channels.get id = some ch0 ∧ ch0.core = ch.core := by
    have he := channels id
    rw [hc, Option.map_some] at he
    obtain ⟨ch0, hc0, he0⟩ := Option.map_eq_some_iff.mp he.symm
    exact ⟨ch0, hc0, he0⟩
  have hforth (id : String) (ch : ChannelRecord) (hc : s.channels.get id = some ch) :
      ∃ ch', t.channels.get id = some ch' ∧ ch.core = ch'.core := by
    have he := channels id
    rw [hc, Option.map_some] at he
    obtain ⟨ch', hc', he'⟩ := Option.map_eq_some_iff.mp he
    exact ⟨ch', hc', he'.symm⟩
  have hleg (ch ch' : ChannelRecord) (he : ch.core = ch'.core) (role : ChannelRole) : ch.leg role = ch'.leg role := by
    cases role with
    | client => exact congrArg (fun ch => ch.leg .client) he
    | backend => exact congrArg (fun ch => ch.leg .backend) he
  refine ⟨fun id ch role ws hc hl => ?_, fun id id' ch ch' role role' ws hc hc' hl hl' => ?_, fun ws k id hk hl => ?_,
    fun ws k leg hk hl => ?_, fun ws k hk hl => ?_, fun ws k id ex hk hl => ?_, fun ex x ws hx hw => ?_,
    fun id ch ex hc hint => ?_⟩
  · obtain ⟨ch0, hc0, he⟩ := hback id ch hc
    obtain ⟨k0, hk0, hw0⟩ := h.leg id ch0 role ws hc0 ((hleg _ _ he role).trans hl)
    obtain ⟨k, hk, hkeep⟩ := sockets.get_some hk0
    exact ⟨k, hk, (hw0.keeps hkeep).core he⟩
  · obtain ⟨ch0, hc0, he⟩ := hback id ch hc
    obtain ⟨ch0', hc0', he'⟩ := hback id' ch' hc'
    exact h.unique id id' ch0 ch0' role role' ws hc0 hc0' ((hleg _ _ he role).trans hl) ((hleg _ _ he' role').trans hl')
  · obtain ⟨k0, hk0, hkeep⟩ := sockets.some_get hk
    rcases h.carries ws k0 id hk0 (hkeep.listener.channel?_eq ▸ hl) with ⟨ch, role, hc, hleg0⟩ | ⟨hn, hopen⟩
    · obtain ⟨ch', hc', he⟩ := hforth id ch hc
      exact Or.inl ⟨ch', role, hc', (hleg _ _ he role).symm.trans hleg0⟩
    · refine Or.inr ⟨?_, fun ho => hopen (hkeep.opens ho)⟩
      have he := channels id
      rw [hn, Option.map_none] at he
      exact Option.map_eq_none_iff.mp he
  · obtain ⟨k0, hk0, hkeep⟩ := sockets.some_get hk
    have hsame := hkeep.listener
    rw [hl] at hsame
    obtain ⟨leg0, hl0, hid, hdst⟩ := hsame.of_relay
    obtain ⟨k1, leg1, hk1, hl1, hid1⟩ := h.pair ws k0 leg0 hk0 hl0
    obtain ⟨k', hk', hkeep'⟩ := sockets.get_some hk1
    have hsame' := hkeep'.listener
    rw [hl1] at hsame'
    obtain ⟨leg', hl', hid', -⟩ := hsame'.relay
    exact ⟨k', leg', by rw [hdst, hk'], hl', hid'.trans (hid1.trans hid.symm)⟩
  · obtain ⟨k0, hk0, hkeep⟩ := sockets.some_get hk
    rw [hkeep.errorListener]
    exact h.listens ws k0 hk0 fun hn => hl (hkeep.listener.none_iff.mpr hn)
  · obtain ⟨k0, hk0, hkeep⟩ := sockets.some_get hk
    have hsame := hkeep.listener
    rw [hl] at hsame
    obtain ⟨x0, hx0, hid, hw⟩ := h.bridged ws k0 id ex hk0 hsame.of_bridge
    obtain ⟨x, hx, hb⟩ := exchanges.get_some hx0
    exact ⟨x, hx, hb.1.trans hid, hb.2.trans hw⟩
  · obtain ⟨x0, hx0, hb⟩ := exchanges.some_get hx
    obtain ⟨k0, hk0, hl0⟩ := h.socket ex x0 ws hx0 (hb.2.symm.trans hw)
    obtain ⟨k, hk, hkeep⟩ := sockets.get_some hk0
    have hsame := hkeep.listener
    rw [hl0] at hsame
    exact ⟨k, hk, hb.1.symm ▸ hsame.bridge⟩
  · obtain ⟨ch0, hc0, he⟩ := hback id ch hc
    obtain ⟨x0, hx0, hid⟩ := h.internal id ch0 ex hc0 ((congrArg ChannelRecord.onBackendSocket he).trans hint)
    obtain ⟨x, hx, hb⟩ := exchanges.get_some hx0
    exact ⟨x, hx, hb.1.trans hid⟩

theorem Legs.turns {s t : Gateway} (h : s.Legs) (ht : s.DataTurns t) : t.Legs :=
  h.keeps (fun id => by rw [ht.channels]) (ht.net.sockets.mono fun _ _ hk => hk.keeps)
    (ht.net.exchanges.mono fun _ _ hx => ⟨hx.channelId, hx.ws⟩)

theorem Legs.teardown {s : Gateway} (h : s.Legs) (reason : ChannelClosedReason) (channelId : String) :
    (s.teardownChannel reason channelId).Legs := by
  rcases hc0 : s.channels.get channelId with _ | ch0
  · rw [teardownChannel_of_none _ _ _ hc0]
    exact h
  · have hback (id : String) (ch : ChannelRecord) (hc : (s.teardownChannel reason channelId).channels.get id = some ch) :
        id ≠ channelId ∧ s.channels.get id = some ch := by
      rw [teardownChannel_channel] at hc
      split at hc
      · cases hc
      · rename_i hne
        exact ⟨hne, hc⟩
    -- A socket of the other channels is not a leg of this one.
    have hsocket (ws : SocketId) (k : WsSocket) (hk : (s.teardownChannel reason channelId).net.sockets.get ws = some k) :
        ∃ k0, s.net.sockets.get ws = some k0 ∧ k.listener = k0.listener ∧ k.errorListener = k0.errorListener ∧
          (ch0.isLeg ws = true ∧ k.readyState ≠ .open_ ∨ ch0.isLeg ws = false ∧ k = k0) := by
      rw [teardownChannel_socket _ _ _ hc0] at hk
      split at hk
      · rename_i hleg
        obtain ⟨k0, hk0, rfl⟩ := Option.map_eq_some_iff.mp hk
        exact ⟨k0, hk0, k0.torn_listener, k0.torn_errorListener, Or.inl ⟨hleg, k0.torn_readyState⟩⟩
      · rename_i hleg
        exact ⟨k, hk, rfl, rfl, Or.inr ⟨by simpa using hleg, rfl⟩⟩
    have hget (ws : SocketId) (k0 : WsSocket) (hk0 : s.net.sockets.get ws = some k0) :
        ∃ k, (s.teardownChannel reason channelId).net.sockets.get ws = some k ∧ k.listener = k0.listener := by
      rw [teardownChannel_socket _ _ _ hc0, hk0]
      split
      · exact ⟨k0.torn, rfl, k0.torn_listener⟩
      · exact ⟨k0, rfl, rfl⟩
    have hexchange (ex : ExchangeId) : ((s.teardownChannel reason channelId).net.exchanges.get ex).map
        (fun x => (x.channelId, x.ws)) = (s.net.exchanges.get ex).map (fun x => (x.channelId, x.ws)) := by
      rw [teardownChannel_exchange _ _ _ hc0]
      split
      · rw [Option.map_map]
        congr 1
        funext x
        simp only [Function.comp_apply, HttpExchange.answered]
        split
        · rfl
        · split <;> rfl
      · rfl
    have hexback (ex : ExchangeId) (x : HttpExchange) (hx : (s.teardownChannel reason channelId).net.exchanges.get ex = some x) :
        ∃ x0, s.net.exchanges.get ex = some x0 ∧ x0.channelId = x.channelId ∧ x0.ws = x.ws := by
      have he := hexchange ex
      rw [hx, Option.map_some] at he
      obtain ⟨x0, hx0, he0⟩ := Option.map_eq_some_iff.mp he.symm
      exact ⟨x0, hx0, congrArg Prod.fst he0, congrArg Prod.snd he0⟩
    have hexforth (ex : ExchangeId) (x0 : HttpExchange) (hx0 : s.net.exchanges.get ex = some x0) :
        ∃ x, (s.teardownChannel reason channelId).net.exchanges.get ex = some x ∧ x.channelId = x0.channelId ∧
          x.ws = x0.ws := by
      have he := hexchange ex
      rw [hx0, Option.map_some] at he
      obtain ⟨x, hx, he⟩ := Option.map_eq_some_iff.mp he
      exact ⟨x, hx, congrArg Prod.fst he, congrArg Prod.snd he⟩
    refine ⟨fun id ch role ws hc hl => ?_, fun id id' ch ch' role role' ws hc hc' hl hl' => ?_, fun ws k id hk hl => ?_,
      fun ws k leg hk hl => ?_, fun ws k hk hl => ?_, fun ws k id ex hk hl => ?_, fun ex x ws hx hw => ?_,
      fun id ch ex hc hint => ?_⟩
    · obtain ⟨hne, hc⟩ := hback id ch hc
      obtain ⟨k, hk, hw⟩ := h.leg id ch role ws hc hl
      refine ⟨k, ?_, hw⟩
      rw [teardownChannel_socket _ _ _ hc0, if_neg]
      · exact hk
      · intro hleg
        obtain ⟨role0, hl0⟩ := ChannelRecord.isLeg_iff.mp hleg
        exact hne (h.unique id channelId ch ch0 role role0 ws hc hc0 hl hl0).1
    · exact h.unique id id' ch ch' role role' ws (hback id ch hc).2 (hback id' ch' hc').2 hl hl'
    · obtain ⟨k0, hk0, hlk, -, hcase⟩ := hsocket ws k hk
      rw [hlk] at hl
      rcases h.carries ws k0 id hk0 hl with ⟨ch, role, hc, hleg⟩ | ⟨hn, hopen⟩
      · by_cases hid : id = channelId
        · refine Or.inr ⟨by rw [teardownChannel_channel, if_pos hid], ?_⟩
          rw [hid, hc0, Option.some.injEq] at hc
          rcases hcase with ⟨-, ho⟩ | ⟨hno, -⟩
          · exact ho
          · rw [ChannelRecord.isLeg_iff.mpr ⟨role, hc ▸ hleg⟩] at hno
            cases hno
        · exact Or.inl ⟨ch, role, by rw [teardownChannel_channel, if_neg hid, hc], hleg⟩
      · refine Or.inr ⟨?_, ?_⟩
        · rw [teardownChannel_channel]
          split
          · rfl
          · exact hn
        · rcases hcase with ⟨-, ho⟩ | ⟨-, rfl⟩
          · exact ho
          · exact hopen
    · obtain ⟨k0, hk0, hlk, -⟩ := hsocket ws k hk
      obtain ⟨k1, leg1, hk1, hl1, hid1⟩ := h.pair ws k0 leg hk0 (hlk ▸ hl)
      obtain ⟨k', hk', hl'⟩ := hget _ k1 hk1
      exact ⟨k', leg1, hk', hl'.trans hl1, hid1⟩
    · obtain ⟨k0, hk0, hlk, he, -⟩ := hsocket ws k hk
      rw [he]
      exact h.listens ws k0 hk0 (hlk ▸ hl)
    · obtain ⟨k0, hk0, hlk, -⟩ := hsocket ws k hk
      obtain ⟨x0, hx0, hid, hw⟩ := h.bridged ws k0 id ex hk0 (hlk ▸ hl)
      obtain ⟨x, hx, hxid, hxw⟩ := hexforth ex x0 hx0
      exact ⟨x, hx, hxid.trans hid, hxw.trans hw⟩
    · obtain ⟨x0, hx0, hid, hw0⟩ := hexback ex x hx
      obtain ⟨k0, hk0, hl0⟩ := h.socket ex x0 ws hx0 (hw0.trans hw)
      obtain ⟨k, hk, hl⟩ := hget ws k0 hk0
      exact ⟨k, hk, hid ▸ hl.trans hl0⟩
    · obtain ⟨-, hc⟩ := hback id ch hc
      obtain ⟨x0, hx0, hid⟩ := h.internal id ch ex hc hint
      obtain ⟨x, hx, hxid, -⟩ := hexforth ex x0 hx0
      exact ⟨x, hx, hxid.trans hid⟩

/-- A new channel has no legs yet; if it is internal, its exchange is new too. -/
theorem Legs.newChannel {s t : Gateway} (h : s.Legs) (fresh : s.Fresh Γ) {ch : ChannelRecord}
    (hlegs : ∀ role, ch.leg role = none)
    (channels : t.channels = s.channels.set (Γ.channelIds.draw s.drawn) ch) (sockets : t.net.sockets = s.net.sockets)
    (exchanges : ∀ ex x, s.net.exchanges.get ex = some x → t.net.exchanges.get ex = some x)
    (bridges : ∀ ex x, t.net.exchanges.get ex = some x → s.net.exchanges.get ex = some x ∨ x.ws = none)
    (internal : ∀ ex, ch.onBackendSocket = some ex →
      ∃ x, t.net.exchanges.get ex = some x ∧ x.channelId = Γ.channelIds.draw s.drawn) : t.Legs := by
  have hback (id : String) (ch' : ChannelRecord) (role : ChannelRole) (ws : SocketId) (hc : t.channels.get id = some ch')
      (hl : ch'.leg role = some ws) : s.channels.get id = some ch' := by
    rw [channels] at hc
    rcases InsertionMap.get_set_eq_some.mp hc with ⟨-, rfl⟩ | ⟨-, hc⟩
    · rw [hlegs role] at hl
      cases hl
    · exact hc
  refine ⟨fun id ch' role ws hc hl => ?_, fun id id' ch1 ch2 role role' ws hc hc' hl hl' => ?_, fun ws k id hk hl => ?_,
    fun ws k leg hk hl => ?_, fun ws k hk hl => ?_, fun ws k id ex hk hl => ?_, fun ex x ws hx hw => ?_,
    fun id ch' ex hc hint => ?_⟩
  · rw [sockets]
    exact h.leg id ch' role ws (hback id ch' role ws hc hl) hl
  · exact h.unique id id' ch1 ch2 role role' ws (hback _ _ _ _ hc hl) (hback _ _ _ _ hc' hl') hl hl'
  · rw [sockets] at hk
    have hne : id ≠ Γ.channelIds.draw s.drawn := ne_draw (fresh.listeners ws k id hk hl)
    rw [channels, InsertionMap.get_set_of_ne hne]
    exact h.carries ws k id hk hl
  · rw [sockets] at hk ⊢
    exact h.pair ws k leg hk hl
  · exact h.listens ws k (sockets ▸ hk) hl
  · obtain ⟨x, hx, hid, hw⟩ := h.bridged ws k id ex (sockets ▸ hk) hl
    exact ⟨x, exchanges ex x hx, hid, hw⟩
  · rw [sockets]
    rcases bridges ex x hx with hx | hn
    · exact h.socket ex x ws hx hw
    · rw [hn] at hw
      cases hw
  · rw [channels] at hc
    rcases InsertionMap.get_set_eq_some.mp hc with ⟨rfl, rfl⟩ | ⟨-, hc⟩
    · exact internal ex hint
    · obtain ⟨x, hx, hid⟩ := h.internal id ch' ex hc hint
      exact ⟨x, exchanges ex x hx, hid⟩

theorem Legs.openChannel {s : Gateway} (h : s.Legs) (fresh : s.Fresh Γ) (peer backendPeer : PeerSession)
    (lease : BackendLease) (target : String) (kind : Option String) :
    (s.openChannel Γ peer backendPeer lease target kind).Legs := by
  refine h.newChannel fresh (fun role => ?_) rfl ?_ (fun ex x hx => ?_) (fun ex x hx => Or.inl ?_) nofun
  · cases role <;> rfl
  · simp [Gateway.openChannel]
  · simpa [Gateway.openChannel] using hx
  · simpa [Gateway.openChannel] using hx

theorem Legs.proxyViaChannel {s : Gateway} (h : s.Legs) (fresh : s.Fresh Γ) (request : ProxyRequest) (epoch : Nat)
    (backendPeer : PeerSession) : (s.proxyViaChannel Γ request epoch backendPeer).Legs := by
  unfold Gateway.proxyViaChannel
  split
  · exact h.turns (.reply _ s)
  · have hne (ex : ExchangeId) (x : HttpExchange) (hx : s.net.exchanges.get ex = some x) : ex ≠ s.drawn :=
      ne_of_lt (fresh.exchanges ex x hx).1
    refine h.newChannel fresh (fun role => ?_) rfl ?_ (fun ex x hx => ?_) (fun ex x hx => ?_) (fun ex he => ?_)
    · cases role <;> rfl
    · exact Net.sendToWs_sockets _ _ _
    · simp [InsertionMap.get_set, hne ex x hx, hx]
    · simp only [Net.sendToWs_exchanges] at hx
      rcases InsertionMap.get_set_eq_some.mp hx with ⟨-, rfl⟩ | ⟨-, hx⟩
      · exact Or.inr rfl
      · exact Or.inl hx
    · obtain rfl := Option.some.inj he
      exact ⟨_, by rw [Net.sendToWs_exchanges]; exact InsertionMap.get_set_self _ _ _, rfl⟩

/-- A new socket that carries no data yet. -/
theorem Legs.newSocket {s t : Gateway} (h : s.Legs) (fresh : s.Fresh Γ) (k0 : WsSocket) (hdata : k0.listener.channel? = none)
    (hlistens : k0.listener ≠ .none → k0.errorListener = true) (channels : t.channels = s.channels)
    (sockets : ∀ ws, t.net.sockets.get ws = if ws = s.drawn then some k0 else s.net.sockets.get ws)
    (exchanges : t.net.exchanges = s.net.exchanges) : t.Legs := by
  have hforth (ws : SocketId) (k : WsSocket) (hk : s.net.sockets.get ws = some k) : t.net.sockets.get ws = some k := by
    rw [sockets, if_neg (ne_of_lt (fresh.sockets ws k hk)), hk]
  have hback (ws : SocketId) (k : WsSocket) (hk : t.net.sockets.get ws = some k) :
      k = k0 ∨ s.net.sockets.get ws = some k := by
    rw [sockets] at hk
    split at hk
    · exact Or.inl (Option.some.inj hk).symm
    · exact Or.inr hk
  refine ⟨fun id ch role ws hc hl => ?_, ?_, fun ws k id hk hl => ?_, fun ws k leg hk hl => ?_, fun ws k hk hl => ?_,
    fun ws k id ex hk hl => ?_, fun ex x ws hx hw => ?_, ?_⟩
  · obtain ⟨k, hk, hw⟩ := h.leg id ch role ws (channels ▸ hc) hl
    exact ⟨k, hforth ws k hk, hw⟩
  · rw [channels]
    exact h.unique
  · rcases hback ws k hk with rfl | hk
    · rw [hdata] at hl
      cases hl
    · rw [channels]
      exact h.carries ws k id hk hl
  · rcases hback ws k hk with rfl | hk
    · rw [hl] at hdata
      cases hdata
    · obtain ⟨k', leg', hk', hl'⟩ := h.pair ws k leg hk hl
      exact ⟨k', leg', hforth _ k' hk', hl'⟩
  · rcases hback ws k hk with rfl | hk
    · exact hlistens hl
    · exact h.listens ws k hk hl
  · rcases hback ws k hk with rfl | hk
    · rw [hl] at hdata
      cases hdata
    · rw [exchanges]
      exact h.bridged ws k id ex hk hl
  · obtain ⟨k, hk, hl⟩ := h.socket ex x ws (exchanges ▸ hx) hw
    exact ⟨k, hforth ws k hk, hl⟩
  · rw [channels, exchanges]
    exact h.internal

theorem Legs.controlConnection {s : Gateway} (h : s.Legs) (fresh : s.Fresh Γ) (ip : String) :
    (s.controlConnection ip).Legs := by
  obtain ⟨k0, hk0, hget⟩ := controlConnection_socket s ip
  refine h.newSocket fresh k0 ?_ ?_ (controlConnection_tables s ip).1 hget (controlConnection_exchanges s ip)
  · rcases hk0 with ⟨-, -, -, hl⟩ | ⟨-, -, -, hl⟩
    · rw [hl]
      rfl
    · rw [hl]
      rfl
  · rcases hk0 with ⟨-, -, he, -⟩ | ⟨-, -, -, hl⟩
    · exact fun _ => he
    · exact fun hn => absurd hl hn

/-! ## Dialing -/

/-- A leg that waits for its pair. -/
theorem Legs.attach {s t : Gateway} (h : s.Legs) (fresh : s.Fresh Γ) {channelId : String} {ch : ChannelRecord}
    (hc : s.channels.get channelId = some ch) (hp : ch.piped = false) {role : ChannelRole} (hfree : ch.leg role = none)
    {k0 : WsSocket} (hl0 : k0.listener = .none) (hpaused : k0.paused = true)
    (channels : t.channels = s.channels.modify channelId (setLegSocket role s.drawn))
    (sockets : ∀ ws, t.net.sockets.get ws = if ws = s.drawn then some k0 else s.net.sockets.get ws)
    (exchanges : t.net.exchanges = s.net.exchanges) : t.Legs := by
  have hleg (r : ChannelRole) : (setLegSocket role s.drawn ch).leg r = if r = role then some s.drawn else ch.leg r := by
    cases role <;> cases r <;> rfl
  have hforth (ws : SocketId) (k : WsSocket) (hk : s.net.sockets.get ws = some k) : t.net.sockets.get ws = some k := by
    rw [sockets, if_neg (ne_of_lt (fresh.sockets ws k hk)), hk]
  have hback (ws : SocketId) (k : WsSocket) (hk : t.net.sockets.get ws = some k) (hl : k.listener ≠ .none) :
      s.net.sockets.get ws = some k := by
    rw [sockets] at hk
    split at hk
    · obtain rfl := Option.some.inj hk
      exact absurd hl0 hl
    · exact hk
  have hold (id : String) (ch' : ChannelRecord) (r : ChannelRole) (ws : SocketId) (hc' : s.channels.get id = some ch')
      (hl : ch'.leg r = some ws) : ws ≠ s.drawn := by
    obtain ⟨k, hk, -⟩ := h.leg id ch' r ws hc' hl
    exact ne_of_lt (fresh.sockets ws k hk)
  -- A leg is the one just attached, or one of before.
  have hcase (id : String) (ch' : ChannelRecord) (r : ChannelRole) (ws : SocketId) (hc' : t.channels.get id = some ch')
      (hl : ch'.leg r = some ws) : (id = channelId ∧ ch' = setLegSocket role s.drawn ch ∧ r = role ∧ ws = s.drawn) ∨
        ∃ ch0, s.channels.get id = some ch0 ∧ ch0.leg r = some ws ∧ ∀ k, ch0.Wires id r k → ch'.Wires id r k := by
    rw [channels, InsertionMap.get_modify] at hc'
    split at hc'
    · rename_i hid
      subst hid
      rw [hc, Option.map_some, Option.some.injEq] at hc'
      subst hc'
      rw [hleg] at hl
      split at hl
      · rename_i hr
        exact Or.inl ⟨rfl, rfl, hr, (Option.some.inj hl).symm⟩
      · refine Or.inr ⟨ch, hc, hl, fun k hw => ?_⟩
        have hp' : (setLegSocket role s.drawn ch).piped = false := by cases role <;> exact hp
        unfold ChannelRecord.Wires at hw ⊢
        rw [hp] at hw
        rw [hp']
        exact hw
    · exact Or.inr ⟨ch', hc', hl, fun _ hw => hw⟩
  have hget (id : String) (ch0 : ChannelRecord) (hc0 : s.channels.get id = some ch0) :
      ∃ ch', t.channels.get id = some ch' ∧ ch'.onBackendSocket = ch0.onBackendSocket ∧
        ∀ r ws, ch0.leg r = some ws → ch'.leg r = some ws := by
    rw [channels, InsertionMap.get_modify]
    split
    · rename_i hid
      subst hid
      obtain rfl := Option.some.inj (hc.symm.trans hc0)
      refine ⟨_, by rw [hc0]; rfl, by cases role <;> rfl, fun r ws hl => ?_⟩
      rw [hleg]
      split
      · rename_i hr
        rw [hr, hfree] at hl
        cases hl
      · exact hl
    · exact ⟨ch0, hc0, rfl, fun _ _ hl => hl⟩
  refine ⟨fun id ch' r ws hc' hl => ?_, fun id id' ch1 ch2 r r' ws hc1 hc2 hl1 hl2 => ?_, fun ws k id hk hl => ?_,
    fun ws k leg hk hl => ?_, fun ws k hk hl => ?_, fun ws k id ex hk hl => ?_, fun ex x ws hx hw => ?_,
    fun id ch' ex hc' hint => ?_⟩
  · rcases hcase id ch' r ws hc' hl with ⟨rfl, rfl, rfl, rfl⟩ | ⟨ch0, hc0, hl0', hw⟩
    · refine ⟨k0, by rw [sockets, if_pos rfl], ?_⟩
      have hp' : (setLegSocket r s.drawn ch).piped = false := by cases r <;> exact hp
      rw [ChannelRecord.Wires, hp']
      exact ⟨hl0, hpaused⟩
    · obtain ⟨k, hk, hwires⟩ := h.leg id ch0 r ws hc0 hl0'
      exact ⟨k, hforth ws k hk, hw k hwires⟩
  · rcases hcase id ch1 r ws hc1 hl1 with ⟨rfl, -, rfl, rfl⟩ | ⟨ch1', hc1', hl1', -⟩ <;>
      rcases hcase id' ch2 r' _ hc2 hl2 with ⟨rfl, -, rfl, he⟩ | ⟨ch2', hc2', hl2', -⟩
    · exact ⟨rfl, rfl⟩
    · exact absurd rfl (hold _ _ _ _ hc2' hl2')
    · exact absurd he (hold _ _ _ _ hc1' hl1')
    · exact h.unique id id' ch1' ch2' r r' ws hc1' hc2' hl1' hl2'
  · have hk' := hback ws k hk fun hn => by rw [hn] at hl; cases hl
    rcases h.carries ws k id hk' hl with ⟨ch0, r, hc0, hlg⟩ | ⟨hn, hopen⟩
    · obtain ⟨ch', hc', -, hkeep⟩ := hget id ch0 hc0
      exact Or.inl ⟨ch', r, hc', hkeep r ws hlg⟩
    · refine Or.inr ⟨?_, hopen⟩
      rw [channels, InsertionMap.get_modify]
      split
      · rw [hn]
        rfl
      · exact hn
  · obtain ⟨k', leg', hk', hl'⟩ := h.pair ws k leg (hback ws k hk (by simp [hl])) hl
    exact ⟨k', leg', hforth _ k' hk', hl'⟩
  · exact h.listens ws k (hback ws k hk hl) hl
  · rw [exchanges]
    exact h.bridged ws k id ex (hback ws k hk (by simp [hl])) hl
  · obtain ⟨k, hk, hl⟩ := h.socket ex x ws (exchanges ▸ hx) hw
    exact ⟨k, hforth ws k hk, hl⟩
  · rw [exchanges]
    rw [channels, InsertionMap.get_modify] at hc'
    split at hc'
    · rename_i hid
      subst hid
      rw [hc, Option.map_some, Option.some.injEq] at hc'
      subst hc'
      exact h.internal id ch ex hc (by cases role <;> exact hint)
    · exact h.internal id ch' ex hc' hint

/-- Pairing changes a channel's flags only. -/
theorem Legs.flags {ch ch' : ChannelRecord} (hclient : ch'.clientSocket = ch.clientSocket)
    (hbackend : ch'.backendSocket = ch.backendSocket) (r : ChannelRole) : ch'.leg r = ch.leg r := by
  cases r
  · exact hclient
  · exact hbackend

/-- The one leg of an internal channel is bridged to its exchange. -/
theorem Legs.bridge {s t : Gateway} (h : s.Legs) {channelId : String} {ch : ChannelRecord} {ex : ExchangeId} {b : SocketId}
    (hc : s.channels.get channelId = some ch) (hp : ch.piped = false) (hint : ch.onBackendSocket = some ex)
    (hb : ch.backendSocket = some b) (ha : ch.clientSocket = none)
    (channels : t.channels =
      s.channels.modify channelId (fun ch => { ch with piped := true, pairingTimeout := false }))
    (net : t.net = (bridgeHttpChannel channelId ex b s.net).resume b) : t.Legs := by
  obtain ⟨x0, hx0, hxid⟩ := h.internal channelId ch ex hc hint
  obtain ⟨k0, hk0, hw0⟩ := h.leg channelId ch .backend b hc hb
  have hnone : k0.listener = .none := by
    rw [ChannelRecord.Wires, hp] at hw0
    exact hw0.1
  have hsocket (ws : SocketId) : t.net.sockets.get ws =
      if ws = b then (s.net.sockets.get ws).map (fun k => (k.bridging channelId ex).resumed) else s.net.sockets.get ws := by
    rw [net]
    exact bridge_socket channelId ex b s.net hx0 ws
  have hexchange (e : ExchangeId) : t.net.exchanges.get e =
      if e = ex then (s.net.exchanges.get e).map (fun x => { x with ws := some b, responseTimer := true })
      else s.net.exchanges.get e := by
    rw [net]
    exact bridge_exchange channelId ex b s.net e
  have hkb : t.net.sockets.get b = some (k0.bridging channelId ex).resumed := by
    rw [hsocket, if_pos rfl, hk0]
    rfl
  have hxb : t.net.exchanges.get ex = some { x0 with ws := some b, responseTimer := true } := by
    rw [hexchange, if_pos rfl, hx0]
    rfl
  have hcb : t.channels.get channelId = some { ch with piped := true, pairingTimeout := false } := by
    rw [channels, InsertionMap.get_modify_self, hc]
    rfl
  have hother (ws : SocketId) (k : WsSocket) (hk : s.net.sockets.get ws = some k) (hl : k.listener ≠ .none) : ws ≠ b := by
    rintro rfl
    rw [hk0, Option.some.injEq] at hk
    exact hl (hk ▸ hnone)
  -- A socket is the one that was bridged, or as before.
  have hback (ws : SocketId) (k : WsSocket) (hk : t.net.sockets.get ws = some k) :
      (ws = b ∧ k.listener = .bridge channelId ex ∧ k.errorListener = true) ∨ s.net.sockets.get ws = some k := by
    by_cases hw : ws = b
    · subst hw
      rw [hkb, Option.some.injEq] at hk
      subst hk
      exact Or.inl ⟨rfl, WsSocket.resumed_listener _, WsSocket.resumed_errorListener _⟩
    · rw [hsocket, if_neg hw] at hk
      exact Or.inr hk
  have hforth (ws : SocketId) (k : WsSocket) (hk : s.net.sockets.get ws = some k) (hl : k.listener ≠ .none) :
      t.net.sockets.get ws = some k := by
    rw [hsocket, if_neg (hother ws k hk hl), hk]
  have hcase (id : String) (ch' : ChannelRecord) (hc' : t.channels.get id = some ch') :
      (id = channelId ∧ ch' = { ch with piped := true, pairingTimeout := false }) ∨
        id ≠ channelId ∧ s.channels.get id = some ch' := by
    by_cases hid : id = channelId
    · subst hid
      rw [hcb, Option.some.injEq] at hc'
      exact Or.inl ⟨rfl, hc'.symm⟩
    · rw [channels, InsertionMap.get_modify_of_ne hid] at hc'
      exact Or.inr ⟨hid, hc'⟩
  have hsame (id : String) (ch' : ChannelRecord) (hc' : t.channels.get id = some ch') :
      ∃ ch0, s.channels.get id = some ch0 ∧ ch'.onBackendSocket = ch0.onBackendSocket ∧ ∀ r, ch'.leg r = ch0.leg r := by
    rcases hcase id ch' hc' with ⟨rfl, rfl⟩ | ⟨-, hc'⟩
    · exact ⟨ch, hc, rfl, Legs.flags rfl rfl⟩
    · exact ⟨ch', hc', rfl, fun _ => rfl⟩
  refine ⟨fun id ch' r ws hc' hl => ?_, fun id id' ch1 ch2 r r' ws hc1 hc2 hl1 hl2 => ?_, fun ws k id hk hl => ?_,
    fun ws k leg hk hl => ?_, fun ws k hk hl => ?_, fun ws k id e hk hl => ?_, fun e x ws hx hw => ?_,
    fun id ch' e hc' hint' => ?_⟩
  · rcases hcase id ch' hc' with ⟨rfl, rfl⟩ | ⟨hid, hc'⟩
    · cases r with
      | client =>
        have hl' : ch.clientSocket = some ws := hl
        rw [ha] at hl'
        cases hl'
      | backend =>
        have hl' : ch.backendSocket = some ws := hl
        obtain rfl := Option.some.inj (hb.symm.trans hl')
        refine ⟨_, hkb, ?_⟩
        rw [ChannelRecord.Wires, if_pos rfl, hint]
        exact WsSocket.resumed_listener _
    · obtain ⟨k, hk, hw⟩ := h.leg id ch' r ws hc' hl
      refine ⟨k, ?_, hw⟩
      rw [hsocket, if_neg, hk]
      rintro rfl
      exact hid (h.unique id channelId ch' ch r .backend ws hc' hc hl hb).1
  · obtain ⟨ch1', hc1', -, hleg1⟩ := hsame id ch1 hc1
    obtain ⟨ch2', hc2', -, hleg2⟩ := hsame id' ch2 hc2
    exact h.unique id id' ch1' ch2' r r' ws hc1' hc2' (hleg1 r ▸ hl1) (hleg2 r' ▸ hl2)
  · rcases hback ws k hk with ⟨rfl, hlb, -⟩ | hk
    · rw [hlb] at hl
      obtain rfl := Option.some.inj hl
      exact Or.inl ⟨_, .backend, hcb, hb⟩
    · rcases h.carries ws k id hk hl with ⟨ch0, r, hc0, hl0⟩ | ⟨hn, hopen⟩
      · refine Or.inl ?_
        rw [channels, InsertionMap.get_modify, hc0]
        split
        · exact ⟨_, r, rfl, (Legs.flags rfl rfl r).trans hl0⟩
        · exact ⟨ch0, r, rfl, hl0⟩
      · refine Or.inr ⟨?_, hopen⟩
        rw [channels, InsertionMap.get_modify, hn]
        split <;> rfl
  · rcases hback ws k hk with ⟨-, hlb, -⟩ | hk
    · rw [hlb] at hl
      cases hl
    · obtain ⟨k', leg', hk', hl', hid'⟩ := h.pair ws k leg hk hl
      exact ⟨k', leg', hforth _ k' hk' (by simp [hl']), hl', hid'⟩
  · rcases hback ws k hk with ⟨-, -, he⟩ | hk
    · exact he
    · exact h.listens ws k hk hl
  · rcases hback ws k hk with ⟨rfl, hlb, -⟩ | hk
    · rw [hlb] at hl
      obtain ⟨rfl, rfl⟩ := Listener.bridge.inj hl
      exact ⟨_, hxb, hxid, rfl⟩
    · obtain ⟨x, hx, hid, hw⟩ := h.bridged ws k id e hk hl
      rw [hexchange]
      split
      · -- The exchange was not bridged: a socket that carries its channel's data is a leg, and that leg has no listener.
        rename_i he
        subst he
        obtain rfl := Option.some.inj (hx0.symm.trans hx)
        have hch : k.listener.channel? = some channelId := by rw [hl, ← hid, hxid]; rfl
        rcases h.carries ws k channelId hk hch with ⟨ch0, r, hc0, hl0⟩ | ⟨hn, -⟩
        · obtain rfl := Option.some.inj (hc.symm.trans hc0)
          cases r with
          | client =>
            have hl0' : ch.clientSocket = some ws := hl0
            rw [ha] at hl0'
            cases hl0'
          | backend =>
            have hl0' : ch.backendSocket = some ws := hl0
            exact absurd (Option.some.inj (hl0'.symm.trans hb)) (hother ws k hk (by simp [hl]))
        · rw [hc] at hn
          cases hn
      · exact ⟨x, hx, hid, hw⟩
  · by_cases he : e = ex
    · subst he
      rw [hxb, Option.some.injEq] at hx
      subst hx
      obtain rfl := Option.some.inj hw
      exact ⟨_, hkb, by rw [WsSocket.resumed_listener, hxid]; rfl⟩
    · rw [hexchange, if_neg he] at hx
      obtain ⟨k, hk, hl⟩ := h.socket e x ws hx hw
      exact ⟨k, hforth ws k hk (by simp [hl]), hl⟩
  · obtain ⟨ch0, hc0, hint0, -⟩ := hsame id ch' hc'
    obtain ⟨x, hx, hid⟩ := h.internal id ch0 e hc0 (hint0 ▸ hint')
    rw [hexchange, hx]
    split
    · exact ⟨_, rfl, hid⟩
    · exact ⟨x, rfl, hid⟩

/-- The two legs of a channel are wired to each other. -/
theorem Legs.wire {s t : Gateway} (h : s.Legs) {channelId : String} {ch : ChannelRecord} {a b : SocketId}
    (hc : s.channels.get channelId = some ch) (hp : ch.piped = false) (hext : ch.onBackendSocket = none)
    (hb : ch.backendSocket = some b) (ha : ch.clientSocket = some a)
    (channels : ∀ id, t.channels.get id = (s.channels.modify channelId
      (fun ch => { ch with piped := true, pairingTimeout := false })).get id)
    (net : t.net = (s.wireChannel channelId a b).net) : t.Legs := by
  have hab : a ≠ b := by
    rintro rfl
    cases (h.unique channelId channelId ch ch .client .backend a hc hc ha hb).2
  obtain ⟨ka, hka, hwa⟩ := h.leg channelId ch .client a hc ha
  obtain ⟨kb, hkb, hwb⟩ := h.leg channelId ch .backend b hc hb
  rw [ChannelRecord.Wires, hp] at hwa hwb
  have hsocket (ws : SocketId) : t.net.sockets.get ws =
      if ws = a then (s.net.sockets.get ws).map (fun k => (k.relaying channelId b).resumed)
      else if ws = b then (s.net.sockets.get ws).map (fun k => (k.relaying channelId a).resumed)
      else s.net.sockets.get ws := by
    rw [net]
    exact wireChannel_socket channelId hab s ws
  have hexchange : t.net.exchanges = s.net.exchanges := by
    rw [net]
    simp only [wireChannel, onNet_net, Net.resume_exchanges]
    rfl
  have hta : t.net.sockets.get a = some (ka.relaying channelId b).resumed := by
    rw [hsocket, if_pos rfl, hka]
    rfl
  have htb : t.net.sockets.get b = some (kb.relaying channelId a).resumed := by
    rw [hsocket, if_neg (Ne.symm hab), if_pos rfl, hkb]
    rfl
  have hcb : t.channels.get channelId = some { ch with piped := true, pairingTimeout := false } := by
    rw [channels, InsertionMap.get_modify_self, hc]
    rfl
  have hother (ws : SocketId) (k : WsSocket) (hk : s.net.sockets.get ws = some k) (hl : k.listener ≠ .none) :
      ws ≠ a ∧ ws ≠ b := by
    constructor
    · rintro rfl
      rw [hka, Option.some.injEq] at hk
      exact hl (hk ▸ hwa.1)
    · rintro rfl
      rw [hkb, Option.some.injEq] at hk
      exact hl (hk ▸ hwb.1)
  -- A socket is one of the two legs, or as before.
  have hback (ws : SocketId) (k : WsSocket) (hk : t.net.sockets.get ws = some k) :
      (∃ leg role, k.listener = .relay leg ∧ leg.channelId = channelId ∧ k.errorListener = true ∧
          ch.leg role = some ws ∧ ch.leg role.other = some leg.dst ∧ (leg.dst = a ∨ leg.dst = b)) ∨
        s.net.sockets.get ws = some k := by
    by_cases hwa' : ws = a
    · subst hwa'
      rw [hta, Option.some.injEq] at hk
      subst hk
      exact Or.inl ⟨_, .client, WsSocket.resumed_listener _, rfl, WsSocket.resumed_errorListener _, ha, hb, Or.inr rfl⟩
    · by_cases hwb' : ws = b
      · subst hwb'
        rw [htb, Option.some.injEq] at hk
        subst hk
        exact Or.inl ⟨_, .backend, WsSocket.resumed_listener _, rfl, WsSocket.resumed_errorListener _, hb, ha, Or.inl rfl⟩
      · rw [hsocket, if_neg hwa', if_neg hwb'] at hk
        exact Or.inr hk
  have hforth (ws : SocketId) (k : WsSocket) (hk : s.net.sockets.get ws = some k) (hl : k.listener ≠ .none) :
      t.net.sockets.get ws = some k := by
    obtain ⟨hna, hnb⟩ := hother ws k hk hl
    rw [hsocket, if_neg hna, if_neg hnb, hk]
  have hcase (id : String) (ch' : ChannelRecord) (hc' : t.channels.get id = some ch') :
      (id = channelId ∧ ch' = { ch with piped := true, pairingTimeout := false }) ∨
        id ≠ channelId ∧ s.channels.get id = some ch' := by
    by_cases hid : id = channelId
    · subst hid
      rw [hcb, Option.some.injEq] at hc'
      exact Or.inl ⟨rfl, hc'.symm⟩
    · rw [channels, InsertionMap.get_modify_of_ne hid] at hc'
      exact Or.inr ⟨hid, hc'⟩
  have hsame (id : String) (ch' : ChannelRecord) (hc' : t.channels.get id = some ch') :
      ∃ ch0, s.channels.get id = some ch0 ∧ ch'.onBackendSocket = ch0.onBackendSocket ∧ ∀ r, ch'.leg r = ch0.leg r := by
    rcases hcase id ch' hc' with ⟨rfl, rfl⟩ | ⟨-, hc'⟩
    · exact ⟨ch, hc, rfl, Legs.flags rfl rfl⟩
    · exact ⟨ch', hc', rfl, fun _ => rfl⟩
  refine ⟨fun id ch' r ws hc' hl => ?_, fun id id' ch1 ch2 r r' ws hc1 hc2 hl1 hl2 => ?_, fun ws k id hk hl => ?_,
    fun ws k leg hk hl => ?_, fun ws k hk hl => ?_, fun ws k id e hk hl => ?_, fun e x ws hx hw => ?_,
    fun id ch' e hc' hint' => ?_⟩
  · rcases hcase id ch' hc' with ⟨rfl, rfl⟩ | ⟨hid, hc'⟩
    · cases r with
      | client =>
        have hl' : ch.clientSocket = some ws := hl
        obtain rfl := Option.some.inj (ha.symm.trans hl')
        refine ⟨_, hta, ?_⟩
        rw [ChannelRecord.Wires, if_pos rfl, hext]
        exact ⟨_, WsSocket.resumed_listener _, rfl, hb⟩
      | backend =>
        have hl' : ch.backendSocket = some ws := hl
        obtain rfl := Option.some.inj (hb.symm.trans hl')
        refine ⟨_, htb, ?_⟩
        rw [ChannelRecord.Wires, if_pos rfl, hext]
        exact ⟨_, WsSocket.resumed_listener _, rfl, ha⟩
    · obtain ⟨k, hk, hw⟩ := h.leg id ch' r ws hc' hl
      refine ⟨k, ?_, hw⟩
      rw [hsocket, if_neg, if_neg, hk]
      · rintro rfl
        exact hid (h.unique id channelId ch' ch r .backend ws hc' hc hl hb).1
      · rintro rfl
        exact hid (h.unique id channelId ch' ch r .client ws hc' hc hl ha).1
  · obtain ⟨ch1', hc1', -, hleg1⟩ := hsame id ch1 hc1
    obtain ⟨ch2', hc2', -, hleg2⟩ := hsame id' ch2 hc2
    exact h.unique id id' ch1' ch2' r r' ws hc1' hc2' (hleg1 r ▸ hl1) (hleg2 r' ▸ hl2)
  · rcases hback ws k hk with ⟨leg, role, hlk, hid, -, hws, -⟩ | hk
    · rw [hlk] at hl
      obtain rfl := Option.some.inj hl
      exact Or.inl ⟨{ ch with piped := true, pairingTimeout := false }, role, hid ▸ hcb, (Legs.flags rfl rfl role).trans hws⟩
    · rcases h.carries ws k id hk hl with ⟨ch0, r, hc0, hl0⟩ | ⟨hn, hopen⟩
      · refine Or.inl ?_
        rw [channels, InsertionMap.get_modify, hc0]
        split
        · exact ⟨_, r, rfl, (Legs.flags rfl rfl r).trans hl0⟩
        · exact ⟨ch0, r, rfl, hl0⟩
      · refine Or.inr ⟨?_, hopen⟩
        rw [channels, InsertionMap.get_modify, hn]
        split <;> rfl
  · rcases hback ws k hk with ⟨leg', role, hlk, hid, -, -, -, hdst⟩ | hk
    · rw [hlk] at hl
      obtain rfl := Listener.relay.inj hl
      rcases hdst with hdst | hdst
      · rw [hdst, hta]
        exact ⟨_, _, rfl, WsSocket.resumed_listener _, hid.symm⟩
      · rw [hdst, htb]
        exact ⟨_, _, rfl, WsSocket.resumed_listener _, hid.symm⟩
    · obtain ⟨k', leg', hk', hl', hid'⟩ := h.pair ws k leg hk hl
      exact ⟨k', leg', hforth _ k' hk' (by simp [hl']), hl', hid'⟩
  · rcases hback ws k hk with ⟨-, -, -, -, he, -⟩ | hk
    · exact he
    · exact h.listens ws k hk hl
  · rcases hback ws k hk with ⟨leg, -, hlk, -⟩ | hk
    · rw [hlk] at hl
      cases hl
    · rw [hexchange]
      exact h.bridged ws k id e hk hl
  · obtain ⟨k, hk, hl⟩ := h.socket e x ws (hexchange ▸ hx) hw
    exact ⟨k, hforth ws k hk (by simp [hl]), hl⟩
  · obtain ⟨ch0, hc0, hint0, -⟩ := hsame id ch' hc'
    rw [hexchange]
    exact h.internal id ch0 e hc0 (hint0 ▸ hint')

/-- Wiring what has all its legs. -/
theorem Legs.pairLegs {s : Gateway} (h : s.Legs) {channelId : String} {ch : ChannelRecord}
    (hc : s.channels.get channelId = some ch) (hint : ch.onBackendSocket.isSome → ch.clientSocket = none) :
    (s.pairLegs channelId ch).Legs := by
  unfold Gateway.pairLegs
  split
  · rename_i ex b hex hb hp
    exact h.bridge hc hp hex hb (hint (by rw [hex]; rfl)) rfl rfl
  · rename_i a b hb ha hp _
    have hext : ch.onBackendSocket = none := by
      by_contra hne
      rw [hint (Option.isSome_iff_ne_none.mpr hne)] at ha
      cases ha
    refine h.wire hc hp hext hb ha (fun id => ?_) rfl
    simp only [wireChannel, onNet_channels, onChannel, InsertionMap.get_modify]
    split
    · rw [Option.map_map]
      rfl
    · rfl
  · exact h

theorem Legs.dial {s : Gateway} (h : s.Legs) (hA : s.Admission) (fresh : s.Fresh Γ) (channelId : String)
    (ticket : Option String) (handshakeOk : Bool) : (s.handleChannelUpgrade channelId ticket handshakeOk).Legs := by
  have hconsumed : (s.consumeTicket (ticket.getD "")).Legs :=
    h.keeps (fun _ => rfl) (.refl WsSocket.Keeps.refl _) (.refl HttpExchange.SameBridge.refl _)
  rcases handleChannelUpgrade_cases s channelId ticket handshakeOk with he | ⟨found, ch, ht, rfl, hc, -, he⟩
  · rw [he]
    exact hconsumed.turns (.emit rfl _)
  · rw [he]
    obtain ⟨hp, hfree, hrole⟩ := hA.not_piped ht hc
    have hfresh : (s.consumeTicket (ticket.getD "")).Fresh Γ := FreshUpTo.consumeTicket fresh _
    have hc' : (s.consumeTicket (ticket.getD "")).channels.get found.channelId = some ch := hc
    unfold attachLeg
    dsimp only
    rw [hc']
    dsimp only
    refine Legs.pairLegs ?_ ?_ ?_
    · exact hconsumed.attach hfresh hc' hp hfree rfl rfl rfl (fun ws => InsertionMap.get_set _ _ _ _) rfl
    · simp [onChannel, hc']
    · intro hint
      have hint' : ch.onBackendSocket.isSome := by
        revert hint
        cases found.role <;> exact id
      rw [hrole hint']
      have hclient : ch.clientSocket = none := hA.internal _ _ hc hint'
      exact hclient

/-! ## The rest of a channel's life -/

theorem Legs.bridgeClose {s : Gateway} (h : s.Legs) (channelId : String) (ex : ExchangeId) :
    (s.bridgeClose channelId ex).Legs := by
  unfold Gateway.bridgeClose
  split
  · exact h
  · rename_i x _
    obtain ⟨hchannels, -, hsockets, hexchanges, -⟩ := finishResponse_tables channelId ex x s
    refine Legs.teardown (h.keeps hchannels ?_ hexchanges) _ _
    rw [hsockets]
    exact .refl WsSocket.Keeps.refl _

theorem Legs.responseClose {s : Gateway} (h : s.Legs) (ex : ExchangeId) : (s.responseClose ex).Legs := by
  unfold Gateway.responseClose
  split
  · exact h
  · split
    · exact h
    · refine Legs.teardown (s := s.onNet _) ?_ _ _
      exact h.keeps (fun _ => rfl) (.refl WsSocket.Keeps.refl _)
        (.modify HttpExchange.SameBridge.refl fun x _ => ⟨rfl, rfl⟩)

/-- The data socket that a `drain` event resumes is that of an HTTP channel. -/
theorem responseDrain_turns {s : Gateway} (h : s.Legs) (ex : ExchangeId) : s.DataTurns (s.responseDrain ex) := by
  unfold Gateway.responseDrain
  split
  · rename_i ws _ _ _ _ _ hx
    split
    · obtain ⟨k, hk, hl⟩ := h.socket _ _ ws hx rfl
      have hbridge (k' : WsSocket) (hk' : s.net.sockets.get ws = some k') : k'.listener = .bridge _ _ :=
        (Option.some.inj (hk.symm.trans hk')) ▸ hl
      have hdrained : s.net.Turns (s.net.modifyExchange ex (fun x => { x with responseDrains := 0 })) :=
        .modifyExchange fun x _ => ⟨rfl, rfl, rfl, rfl, rfl, rfl, rfl, rfl⟩
      exact .onNet (hdrained.trans (.resume hbridge))
    · exact .refl s
  · exact .refl s

/-- What the frames of a data socket do to the exchanges. -/
theorem Legs.speaks {s t : Gateway} (h : s.Legs) (ht : s.ResponseSpeaks t) : t.Legs := by
  refine h.keeps (fun id => by rw [ht.channels]) ?_ (ht.exchanges.mono fun _ _ hx => ⟨hx.channelId, hx.ws⟩)
  rw [ht.sockets]
  exact .refl WsSocket.Keeps.refl _

/-- A control socket learns its session. -/
theorem Legs.modifyConn {s : Gateway} (h : s.Legs) (ws : SocketId) (f : ControlConn → ControlConn) :
    (s.onNet (modifyConn ws f)).Legs := by
  refine h.keeps (fun _ => rfl) ?_ (.refl HttpExchange.SameBridge.refl _)
  refine .modify WsSocket.Keeps.refl fun k _ => ?_
  rcases hl : k.listener with _ | conn | leg | ⟨channelId, ex⟩ <;> dsimp only
  · exact .refl k
  · exact ⟨id, rfl, by rw [hl]; trivial, fun _ => rfl⟩
  · exact .refl k
  · exact .refl k

theorem Legs.init (storage : Storage) : (Gateway.init storage).Legs :=
  ⟨fun _ _ _ _ hc _ => (nomatch hc), fun _ _ _ _ _ _ _ hc _ _ _ => (nomatch hc), fun _ _ _ hk _ => (nomatch hk),
    fun _ _ _ hk _ => (nomatch hk), fun _ _ hk _ => (nomatch hk), fun _ _ _ _ hk _ => (nomatch hk),
    fun _ _ _ hx _ => (nomatch hx), fun _ _ _ hc _ => (nomatch hc)⟩

theorem DataStep.legs {e : Event} {s t : Gateway} (h : DataStep Γ e s t) (hA : s.Admission) (hs : s.Legs) : t.Legs := by
  cases h with
  | close h =>
    cases h with
    | turn h => exact hs.turns h
    | teardown reason channelId => exact hs.teardown _ _
  | dropTickets keep =>
    exact hs.keeps (fun _ => rfl) (.refl WsSocket.Keeps.refl _) (.refl HttpExchange.SameBridge.refl _)
  | openChannel fresh peer backendPeer lease target kind => exact hs.openChannel fresh _ _ _ _ _
  | proxyViaChannel fresh hr epoch backendPeer => exact hs.proxyViaChannel fresh _ _ _
  | connect fresh ip hact => exact hs.controlConnection fresh ip
  | dial fresh channelId ticket handshakeOk hact => exact hs.dial hA fresh _ _ _
  | responseHead hx hm meta_ => exact hs.speaks (responseHead_speaks _ _ _ _)
  | responseBody hx hm data => exact hs.speaks (callResponse_speaks _ _ _)
  | bridgeClose hk hl hact => exact hs.bridgeClose _ _
  | responseClose ex => exact hs.responseClose _
  | responseDrain ex => exact hs.turns (responseDrain_turns hs ex)
  | clock hact => exact hs.keeps (fun _ => rfl) (.refl WsSocket.Keeps.refl _) (.refl HttpExchange.SameBridge.refl _)
  | relay h hact =>
    refine hs.keeps (fun id => by rw [h.channels]) (h.sockets WsSocket.Keeps.refl ?_) ?_
    · intro k leg leg' paused hl hends
      exact ⟨id, rfl, by rw [hl]; exact hends, fun hn => absurd (hl.symm.trans hn) nofun⟩
    · rw [h.exchanges]
      exact .refl HttpExchange.SameBridge.refl _

end Gateway

/-- After every run channels and tickets agree, and legs and sockets do. -/
theorem channels_run {Γ : Ctx} {storage : Storage} (es : List Event) :
    ((gateway Γ storage).run es).Admission ∧ ((gateway Γ storage).run es).Legs := by
  refine data_invariant (I := fun s => s.Admission ∧ s.Legs) ?_ (fun s t h hs => ⟨h.admission hs.1, h.legs hs.1 hs.2⟩)
    (fun s ws p hs => ?_) (fun s n hs => ?_) es
  · exact ⟨.init storage, .init storage⟩
  · exact ⟨hs.1.of_core (fun _ => rfl) (fun _ _ h => h), hs.2.modifyConn ws _⟩
  · exact ⟨hs.1.of_core (fun _ => rfl) (fun _ _ h => h), hs.2.keeps (fun _ => rfl)
      (.refl WsSocket.Keeps.refl _) (.refl HttpExchange.SameBridge.refl _)⟩

end ZclaudiaGateway
