import ZclaudiaGateway.Lemmas.Exchanges
import ZclaudiaGateway.Lemmas.Sample

/-!
# What a backend gets of a proxied request

The data socket of a bridged exchange gets the head of the request, once and first, and then the body of the request as it
arrives, chunk by chunk and nothing else. Which exchange a socket is bridged to decides what has gone out on it (`Hands`); the
dial that bridges them is the one operation after which that changes.
-/

namespace ZclaudiaGateway

/-- What goes out on the data socket of an exchange. -/
inductive RequestPart where
  | frame (frame : Frame)
  | http (frame : HttpRequestFrame)

/-- A frame or a part of a request that goes out on a socket. -/
def Output.partTo (d : SocketId) : Output → Option RequestPart
  | .sendFrame ws frame => if ws = d then some (.frame frame) else none
  | .sendHttp ws frame => if ws = d then some (.http frame) else none
  | _ => none

theorem Output.partTo_eq_none {d : SocketId} {o : Output} (hf : o.kind ≠ .frame) (hr : o.kind ≠ .request) : o.partTo d = none := by
  cases o <;> first | rfl | exact absurd rfl hf | exact absurd rfl hr

/-- The head of the request. -/
def HttpExchange.head (x : HttpExchange) : RequestPart :=
  .http (.request x.request.method x.targetPath (Gateway.forwardedHeaders x.request.headers))

/-- The same request, on the same data socket. -/
structure HttpExchange.SameWire (x x' : HttpExchange) : Prop where
  head : x'.head = x.head
  ws : x'.ws = x.ws

theorem HttpExchange.SameWire.refl (x : HttpExchange) : x.SameWire x := ⟨rfl, rfl⟩

theorem HttpExchange.SameWire.of_eq {x x' : HttpExchange} (hr : x'.request = x.request) (ht : x'.targetPath = x.targetPath)
    (hws : x'.ws = x.ws) : x.SameWire x' := by
  refine ⟨?_, hws⟩
  unfold HttpExchange.head
  rw [hr, ht]

theorem HttpExchange.Speaks.sameWire {x x' : HttpExchange} (h : x.Speaks x') : x.SameWire x' :=
  .of_eq h.request h.targetPath h.ws

theorem HttpExchange.answered_sameWire (reason : ChannelClosedReason) (x : HttpExchange) : x.SameWire (x.answered reason) := by
  unfold HttpExchange.answered
  split
  · exact .of_eq rfl rfl rfl
  · split
    · exact .of_eq rfl rfl rfl
    · exact .of_eq rfl rfl rfl

/-- The part of a request's body that an event brings. -/
def Event.requestPart (ex : ExchangeId) : Event → Option RequestPart
  | .requestData ex' chunk _ => if ex' = ex then some (.frame { data := chunk, isBinary := true }) else none
  | .requestEnd ex' => if ex' = ex then some (.http .requestEnd) else none
  | _ => none

namespace Gateway

variable {Γ : Ctx} {e : Event} {storage : Storage} {s t : Gateway}

/-- The data socket of the exchange is open. -/
def streams (ex : ExchangeId) (s : Gateway) : Bool :=
  match (s.net.exchanges.get ex).bind (·.ws) with
  | some ws => decide (s.net.readyState ws = .open_)
  | none => false

/-- The part of the request that an event brings while the data socket is open. -/
def presents (ex : ExchangeId) (s : Gateway) (e : Event) : Option RequestPart :=
  if s.uncaught = none ∧ s.streams ex then e.requestPart ex else none

/-- The parts of a request that a run brings, its head apart. -/
def presented (Γ : Ctx) (storage : Storage) (ex : ExchangeId) (es : List Event) : List RequestPart :=
  (gateway Γ storage).history (fun s e => (s.presents ex e).toList) es

/-- What goes out on a data socket over a run. -/
def passedOn (Γ : Ctx) (storage : Storage) (d : SocketId) (es : List Event) : List RequestPart :=
  (gateway Γ storage).history (acts Γ (Output.partTo d)) es

/-! ## Single operations -/

/-- The kinds of output that are no part of a request. -/
def partless : List OutputKind := [.message, .notice, .handling, .admission, .response, .apart]

theorem partTo_of_partless {d : SocketId} {o : Output} (h : o.kind ∈ partless) : o.partTo d = none := by
  refine Output.partTo_eq_none ?_ ?_
  · intro hk
    rw [hk] at h
    exact absurd h (by decide)
  · intro hk
    rw [hk] at h
    exact absurd h (by decide)

/-- Exchanges keep their request and their data socket, new ones have none, and nothing of a request goes out. -/
structure Mute (s t : Gateway) : Prop where
  forth : ∀ ex x, s.net.exchanges.get ex = some x → ∃ x', t.net.exchanges.get ex = some x' ∧ x.SameWire x'
  back : ∀ ex x', t.net.exchanges.get ex = some x' → (∃ x, s.net.exchanges.get ex = some x ∧ x.SameWire x') ∨ x'.ws = none
  silent : ∀ d, t.seen (Output.partTo d) = s.seen (Output.partTo d)

theorem Mute.of_pointwise (exchanges : s.net.exchanges.Pointwise HttpExchange.SameWire t.net.exchanges)
    (silent : ∀ d, t.seen (Output.partTo d) = s.seen (Output.partTo d)) : s.Mute t := by
  refine ⟨fun ex x hx => ?_, fun ex x' hx' => Or.inl ?_, silent⟩
  · obtain ⟨x', hx', hsame⟩ := exchanges.get_some hx
    exact ⟨x', hx', hsame⟩
  · obtain ⟨x, hx, hsame⟩ := exchanges.some_get hx'
    exact ⟨x, hx, hsame⟩

theorem Mute.of_kinds {K : List OutputKind} (exchanges : s.net.exchanges.Pointwise HttpExchange.SameWire t.net.exchanges)
    (h : s.EmitsOnly K t) (hsub : ∀ k ∈ K, k ∈ partless) : s.Mute t :=
  .of_pointwise exchanges fun _ => h.seen_eq fun _ ho => partTo_of_partless (hsub _ ho)

/-- Exchanges are as they were. -/
theorem Mute.of_eq {K : List OutputKind} (exchanges : t.net.exchanges = s.net.exchanges) (h : s.EmitsOnly K t)
    (hsub : ∀ k ∈ K, k ∈ partless) : s.Mute t := by
  refine .of_kinds ?_ h hsub
  rw [exchanges]
  exact .refl HttpExchange.SameWire.refl _

/-- Exchanges are as they were and nothing goes out. -/
theorem Mute.of_same (exchanges : t.net.exchanges = s.net.exchanges) (outbox : t.net.outbox = s.net.outbox) : s.Mute t := by
  have hnothing : s.EmitsOnly [] t := .of_eq outbox
  exact .of_eq exchanges hnothing (by simp)

theorem Mute.modify (ex : ExchangeId) {f : HttpExchange → HttpExchange} (hf : ∀ x : HttpExchange, x.SameWire (f x)) :
    s.Mute (s.onNet (Net.modifyExchange ex f)) :=
  .of_pointwise (.modify HttpExchange.SameWire.refl fun x _ => hf x) fun _ => rfl

theorem Mute.teardown (reason : ChannelClosedReason) (channelId : String) (s : Gateway) :
    s.Mute (s.teardownChannel reason channelId) := by
  refine .of_kinds ?_ (teardownChannel_kinds reason s channelId) (by decide)
  rcases hc : s.channels.get channelId with _ | ch
  · rw [teardownChannel_of_none _ _ _ hc]
    exact .refl HttpExchange.SameWire.refl _
  · intro ex
    rw [teardownChannel_exchange _ _ _ hc]
    rcases s.net.exchanges.get ex with _ | x
    · split <;> exact .none
    · split
      · exact .some (HttpExchange.answered_sameWire reason x)
      · exact .some (.refl x)

theorem Mute.proxyViaChannel (fresh : s.Fresh Γ) (request : ProxyRequest) (epoch : Nat) (backendPeer : PeerSession) :
    s.Mute (s.proxyViaChannel Γ request epoch backendPeer) := by
  have hnew : s.net.exchanges.get s.drawn = none := by
    rcases hx : s.net.exchanges.get s.drawn with _ | x
    · rfl
    · exact absurd (fresh.exchanges _ x hx).1 (lt_irrefl _)
  have hsub : ∀ k ∈ [OutputKind.notice, .apart], k ∈ partless := by decide
  have hsilent (d : SocketId) :
      (s.proxyViaChannel Γ request epoch backendPeer).seen (Output.partTo d) = s.seen (Output.partTo d) :=
    (proxyViaChannel_kinds request epoch backendPeer s).seen_eq fun o ho => partTo_of_partless (hsub _ ho)
  by_cases hfull : s.countChannelsForPeer backendPeer.peerSessionId ≥ Γ.config.maxChannelsPerPeer
  · refine .of_pointwise ?_ hsilent
    rw [Gateway.proxyViaChannel, if_pos hfull]
    exact .refl HttpExchange.SameWire.refl _
  · have hget (ex : ExchangeId) : (s.proxyViaChannel Γ request epoch backendPeer).net.exchanges.get ex =
        if ex = s.drawn then some (newExchange Γ (Γ.channelIds.draw s.drawn) request)
        else s.net.exchanges.get ex := by
      rw [Gateway.proxyViaChannel, if_neg hfull]
      simp only [Net.sendToWs_exchanges]
      exact InsertionMap.get_set _ _ _ _
    refine ⟨fun ex x hx => ⟨x, ?_, .refl x⟩, fun ex x' hx' => ?_, hsilent⟩
    · rw [hget, if_neg, hx]
      rintro rfl
      rw [hnew] at hx
      cases hx
    · rw [hget] at hx'
      split at hx'
      · exact Or.inr (Option.some.inj hx' ▸ rfl)
      · exact Or.inl ⟨x', hx', .refl x'⟩

theorem Mute.finish (channelId : String) (ex : ExchangeId) (x : HttpExchange) (s : Gateway) :
    s.Mute (s.finishResponse channelId ex x) := by
  refine .of_kinds ?_ (finishResponse_kinds channelId ex x s) (by decide)
  have hcleared : s.net.exchanges.Pointwise HttpExchange.SameWire
      (s.net.exchanges.modify ex (fun x => { x with responseTimer := false, idleTimer := false })) :=
    .modify HttpExchange.SameWire.refl fun x _ => .of_eq rfl rfl rfl
  have htrans (x x' x'' : HttpExchange) (h : x.SameWire x') (h' : x'.SameWire x'') : x.SameWire x'' :=
    ⟨h'.head.trans h.head, h'.ws.trans h.ws⟩
  unfold finishResponse
  dsimp only
  split
  · split
    · exact hcleared.trans htrans (.modify HttpExchange.SameWire.refl fun x _ => .of_eq rfl rfl rfl)
    · exact hcleared
  · exact hcleared

/-- Only a dial, a relay and the request itself may pass something on. -/
theorem Op.mute {σ : Gateway} (h : Op Γ e σ s t) (hrequest : ∀ ex chunk buffered, e ≠ .requestData ex chunk buffered)
    (hend : ∀ ex, e ≠ .requestEnd ex) :
    s.Mute t ∨ (s = σ ∧ ∃ channelId ticket handshakeOk, t = s.handleChannelUpgrade channelId ticket handshakeOk) ∨
      s = σ ∧ ∃ ws k leg frame buffered, s.net.sockets.get ws = some k ∧ k.listener = .relay leg ∧
        t = s.relayMessage Γ ws leg frame buffered := by
  cases h with
  | tables net channels connections now drawn running => exact Or.inl (.of_same (by rw [net]) (by rw [net]))
  | clock hact => exact Or.inl (.of_same rfl rfl)
  | net h => exact Or.inl (.of_eq h.exchanges (Net.Op.kinds h) (by decide))
  | pace hf hact => exact Or.inl (.modify _ fun x => .of_eq (hf x).request (hf x).targetPath (hf x).ws)
  | teardown reason channelId => exact Or.inl (.teardown _ _ _)
  | openChannel fresh peer backendPeer lease target kind =>
    exact Or.inl (.of_eq (openChannel_exchanges _ _ _ _ _ _) (openChannel_kinds _ _ _ _ _ _) (by decide))
  | proxyViaChannel fresh request epoch backendPeer => exact Or.inl (.proxyViaChannel fresh _ _ _)
  | connect ip => exact Or.inl (.of_eq (controlConnection_exchanges _ _) (controlConnection_kinds ip _) (by decide))
  | dial channelId ticket handshakeOk => exact Or.inr (Or.inl ⟨rfl, _, _, _, rfl⟩)
  | hangUp hk hl hopen hact => exact Or.inl (.of_same rfl rfl)
  | shut hk hl hopen hact => exact Or.inl (.of_same rfl rfl)
  | relay hk hr hl hact => exact Or.inr (Or.inr ⟨rfl, _, _, _, _, _, hk, hl, rfl⟩)
  | rateTimer hact => exact Or.inl (.of_eq (rateTimerFires_exchanges _ _) (rateTimerFires_kinds _ _) (by simp))
  | drainPoll hact => exact Or.inl (.of_eq (drainPoll_exchanges _ _ _) (drainPoll_kinds _ _ _) (by simp))
  | requestData hact => exact absurd hact (hrequest _ _ _)
  | requestEnd hact => exact absurd hact (hend _)
  | responseHead hx hm meta_ hact =>
    exact Or.inl (.of_kinds ((responseHead_speaks _ _ _ _).exchanges.mono fun _ _ h => h.sameWire) (responseHead_kinds _ _ _ _)
      (by decide))
  | responseBody hx hm data hact =>
    exact Or.inl (.of_kinds ((callResponse_speaks _ _ _).exchanges.mono fun _ _ h => h.sameWire) (callResponse_kinds _ _ _)
      (by decide))
  | finishResponse running hx hact => exact Or.inl (.finish _ _ _ _)
  | abort hact => exact Or.inl (.modify _ fun x => .of_eq rfl rfl rfl)

/-! ## The dial that bridges -/

theorem unbridged (hL : s.Legs) {channelId : String} {ch : ChannelRecord} {ex : ExchangeId} {x : HttpExchange}
    (hc : s.channels.get channelId = some ch) (hp : ch.piped = false) (hint : ch.onBackendSocket = some ex)
    (hx : s.net.exchanges.get ex = some x) : x.ws = none := by
  obtain ⟨x0, hx0, hid⟩ := hL.internal channelId ch ex hc hint
  obtain rfl := Option.some.inj (hx.symm.trans hx0)
  rcases hws : x.ws with _ | w
  · rfl
  · obtain ⟨k, hk, hl⟩ := hL.socket ex x w hx hws
    rw [hid] at hl
    rcases hL.carries w k channelId hk (by rw [hl]; rfl) with ⟨ch', role, hc', hleg⟩ | ⟨hn, -⟩
    · obtain rfl := Option.some.inj (hc.symm.trans hc')
      obtain ⟨k', hk', hw⟩ := hL.leg channelId ch role w hc hleg
      obtain rfl := Option.some.inj (hk.symm.trans hk')
      rw [ChannelRecord.Wires, hp] at hw
      have hnone := hw.1
      rw [hl] at hnone
      cases hnone
    · rw [hc] at hn
      cases hn

theorem resume_silent (ws : SocketId) (net : Net) : (net.resume ws).outbox = net.outbox := by
  unfold Net.resume
  split <;> rfl

/-- A bridge sends the head of the request. -/
theorem bridge_outbox (channelId : String) {ex : ExchangeId} {x : HttpExchange} (b : SocketId) {net : Net}
    (hx : net.exchanges.get ex = some x) :
    ((bridgeHttpChannel channelId ex b net).resume b).outbox =
      net.outbox ++ [.sendHttp b (.request x.request.method x.targetPath (forwardedHeaders x.request.headers))] := by
  rw [resume_silent, bridgeHttpChannel, hx]
  rfl

/-- A dial for two peers passes nothing on. -/
theorem Mute.attach {channelId : String} {role : ChannelRole} {ch : ChannelRecord} (hc : s.channels.get channelId = some ch)
    (hint : ch.onBackendSocket = none) : s.Mute (s.attachLeg channelId role) := by
  have hsame : (setLegSocket role s.drawn ch).onBackendSocket = none := by
    cases role
    · exact hint
    · exact hint
  unfold attachLeg
  rw [hc]
  dsimp only
  unfold pairLegs
  split
  · rename_i hex _ _
    rw [hsame] at hex
    cases hex
  · refine .of_eq (K := [.admission]) ?_ ⟨[.attached channelId role s.drawn], ?_, by simp [Output.kind]⟩ (by decide)
    · simp only [wireChannel, onNet_net, onChannel, Net.resume_exchanges]
      rfl
    · simp only [wireChannel, onNet_net, onChannel, resume_silent]
      rfl
  · exact .of_eq (K := [.admission]) rfl ⟨[.attached channelId role s.drawn], rfl, by simp [Output.kind]⟩ (by decide)

/-- A dial for a proxied request bridges its exchange to the new socket and passes on the head of the request. -/
theorem attachLeg_bridges {channelId : String} {ch : ChannelRecord} {ex : ExchangeId} {x : HttpExchange}
    (hc : s.channels.get channelId = some ch) (hp : ch.piped = false) (hint : ch.onBackendSocket = some ex)
    (hx : s.net.exchanges.get ex = some x) :
    (∀ d, (s.attachLeg channelId .backend).seen (Output.partTo d) =
        s.seen (Output.partTo d) ++ if s.drawn = d then [x.head] else []) ∧
      ∀ ex', (s.attachLeg channelId .backend).net.exchanges.get ex' =
        if ex' = ex then some { x with ws := some s.drawn, responseTimer := true } else s.net.exchanges.get ex' := by
  have hpair (u : Gateway) : u.pairLegs channelId (setLegSocket .backend s.drawn ch) =
      ((u.onChannel channelId (fun ch => { ch with piped := true, pairingTimeout := false })).onNet
        (bridgeHttpChannel channelId ex s.drawn)).onNet (Net.resume s.drawn) := by
    simp [pairLegs, setLegSocket, hint, hp]
  have hhead (d : SocketId) : (Output.sendHttp s.drawn (.request x.request.method x.targetPath
      (forwardedHeaders x.request.headers))).partTo d = if s.drawn = d then some x.head else none := rfl
  have hbridge (net : Net) (he : net.exchanges = s.net.exchanges) :
      ((bridgeHttpChannel channelId ex s.drawn net).resume s.drawn).outbox =
        net.outbox ++ [.sendHttp s.drawn (.request x.request.method x.targetPath (forwardedHeaders x.request.headers))] :=
    bridge_outbox channelId s.drawn (by rw [he, hx])
  unfold attachLeg
  rw [hc]
  dsimp only
  rw [hpair]
  refine ⟨fun d => ?_, fun ex' => ?_⟩
  · simp only [seen, onNet_net, onChannel]
    rw [hbridge, List.filterMap_append, List.filterMap_cons, hhead]
    · simp only [Net.emit, List.filterMap_append, List.filterMap_cons, Output.partTo, List.filterMap_nil, List.append_nil]
      by_cases hd : s.drawn = d
      · simp only [if_pos hd]
      · simp only [if_neg hd]
    · rfl
  · simp only [onNet_net, onChannel, bridge_exchange]
    split
    · rename_i heq
      rw [heq]
      exact congrArg (Option.map _) hx
    · rfl

/-! ## What has gone out, against what came in -/

/-- What an exchange is bridged to decides what has gone out on a socket, `parts` before the event that is the `n`-th: nothing yet
if the socket is still to come; the head of the request and what is `asked` of its body if it is that of the exchange. -/
structure Hands (n : Nat) (ex : ExchangeId) (d : SocketId) (parts asked : List RequestPart) (s : Gateway) : Prop where
  fresh : n < d → parts ++ s.seen (Output.partTo d) = []
  idle : (∀ x, s.net.exchanges.get ex = some x → x.ws = none) → asked = []
  bridged : ∀ x, s.net.exchanges.get ex = some x → x.ws = some d → parts ++ s.seen (Output.partTo d) = x.head :: asked

section Hands

variable {n : Nat} {ex : ExchangeId} {d : SocketId} {parts asked : List RequestPart}

theorem Hands.mute (hs : s.Hands n ex d parts asked) (h : s.Mute t) : t.Hands n ex d parts asked := by
  refine ⟨fun hd => ?_, fun hidle => hs.idle fun x hx => ?_, fun x' hx' hws => ?_⟩
  · rw [h.silent]
    exact hs.fresh hd
  · obtain ⟨x', hx', hsame⟩ := h.forth ex x hx
    rw [← hsame.ws]
    exact hidle x' hx'
  · rcases h.back ex x' hx' with ⟨x, hx, hsame⟩ | hnone
    · rw [h.silent, hsame.head]
      exact hs.bridged x hx (hsame.ws ▸ hws)
    · rw [hnone] at hws
      cases hws

theorem relayMessage_parts {leg : RelayLeg} (hd : leg.dst ≠ d) (ws : SocketId) (frame : Frame) (buffered : Nat) (s : Gateway) :
    (s.relayMessage Γ ws leg frame buffered).seen (Output.partTo d) = s.seen (Output.partTo d) := by
  by_cases hdst : s.net.readyState leg.dst = .open_
  · have hsub : ∀ k ∈ [OutputKind.handling], k ∈ partless := by decide
    rw [(relayMessage_handles hdst ws frame buffered).seen_eq fun o ho => partTo_of_partless (hsub _ ho)]
    have hsent : (Output.sendFrame leg.dst frame).partTo d = none := if_neg hd
    simp only [seen, onNet_net, Net.emit, List.filterMap_append, List.filterMap_cons, hsent, List.filterMap_nil, List.append_nil]
  · rw [relayMessage, if_pos hdst]

/-- A relay is to another socket than that of an exchange. -/
theorem Hands.relay (hs : s.Hands s.drawn ex d parts asked) (fresh : s.Fresh Γ) (hL : s.Legs) {ws : SocketId} {k : WsSocket}
    {leg : RelayLeg} (hk : s.net.sockets.get ws = some k) (hl : k.listener = .relay leg) (frame : Frame) (buffered : Nat) :
    (s.relayMessage Γ ws leg frame buffered).Hands s.drawn ex d parts asked := by
  obtain ⟨kd, legd, hkd, hld, -⟩ := hL.pair ws k leg hk hl
  refine ⟨fun hd => ?_, fun hidle => hs.idle ?_, fun x hx hws => ?_⟩
  · have hne : leg.dst ≠ d := by
      rintro rfl
      exact absurd (fresh.sockets _ kd hkd) (not_lt_of_gt hd)
    rw [relayMessage_parts hne]
    exact hs.fresh hd
  · rwa [relayMessage_exchanges] at hidle
  · rw [relayMessage_exchanges] at hx
    obtain ⟨k', hk', hl'⟩ := hL.socket ex x d hx hws
    have hne : leg.dst ≠ d := by
      rintro rfl
      obtain rfl := Option.some.inj (hkd.symm.trans hk')
      rw [hld] at hl'
      cases hl'
    rw [relayMessage_parts hne]
    exact hs.bridged x hx hws

/-- The socket that a dial attaches has had nothing, and the exchange that it bridges had no socket. -/
theorem Hands.dial (hs : s.Hands s.drawn ex d parts asked) (fresh : s.Fresh Γ) (hA : s.Admission) (hL : s.Legs)
    (hunused : s.drawn ≤ d → parts ++ s.seen (Output.partTo d) = []) (channelId : String) (ticket : Option String)
    (handshakeOk : Bool) : (s.handleChannelUpgrade channelId ticket handshakeOk).Hands s.drawn ex d parts asked := by
  rcases handleChannelUpgrade_cases s channelId ticket handshakeOk with he | ⟨found, ch, ht, rfl, hc, -, he⟩
  · rw [he]
    exact hs.mute (.of_eq (K := [.apart]) rfl ⟨[.refused], rfl, by simp [Output.kind]⟩ (by decide))
  · rw [he]
    obtain ⟨hp, -, hrole⟩ := hA.not_piped ht hc
    have hconsumed : (s.consumeTicket (ticket.getD "")).Hands s.drawn ex d parts asked := ⟨hs.fresh, hs.idle, hs.bridged⟩
    rcases hint : ch.onBackendSocket with _ | ex'
    · exact hconsumed.mute (.attach hc hint)
    · rw [hrole (by rw [hint]; rfl)]
      obtain ⟨x', hx', -⟩ := hL.internal _ ch ex' hc hint
      have hnone := unbridged hL hc hp hint hx'
      have hbridges := attachLeg_bridges (s := s.consumeTicket (ticket.getD "")) hc hp hint hx'
      have hseen (d : SocketId) : ((s.consumeTicket (ticket.getD "")).attachLeg found.channelId .backend).seen (Output.partTo d) =
          s.seen (Output.partTo d) ++ if s.drawn = d then [x'.head] else [] := hbridges.1 d
      have hget (e' : ExchangeId) : ((s.consumeTicket (ticket.getD "")).attachLeg found.channelId .backend).net.exchanges.get e' =
          if e' = ex' then some { x' with ws := some s.drawn, responseTimer := true } else s.net.exchanges.get e' := hbridges.2 e'
      refine ⟨fun hd => ?_, fun hidle => hs.idle fun x hx => ?_, fun x hx hws => ?_⟩
      · rw [hseen, if_neg (ne_of_lt hd), List.append_nil]
        exact hs.fresh hd
      · by_cases heq : ex = ex'
        · subst heq
          obtain rfl := Option.some.inj (hx.symm.trans hx')
          exact hnone
        · exact hidle x (by rw [hget, if_neg heq]; exact hx)
      · rw [hget] at hx
        split at hx
        · rename_i heq
          subst heq
          obtain rfl := Option.some.inj hx
          obtain rfl : s.drawn = d := Option.some.inj hws
          have hasked : asked = [] := hs.idle fun x hx => by
            obtain rfl := Option.some.inj (hx.symm.trans hx')
            exact hnone
          rw [hseen, if_pos rfl, ← List.append_assoc, hasked]
          rw [hunused (le_refl _)]
          rfl
        · obtain ⟨k, hk, -⟩ := hL.socket ex x d hx hws
          rw [hseen, if_neg (ne_of_gt (fresh.sockets d k hk)), List.append_nil]
          exact hs.bridged x hx hws

/-- A part of a request goes out on the socket of its exchange. -/
theorem Hands.part (hs : s.Hands s.drawn ex d parts asked) (fresh : s.Fresh Γ) (hL : s.Legs) {ex' : ExchangeId} {x' : HttpExchange}
    {w : SocketId} {part : RequestPart} (hx' : s.net.exchanges.get ex' = some x') (hws' : x'.ws = some w)
    (exchanges : s.net.exchanges.Pointwise HttpExchange.SameWire t.net.exchanges)
    (hseen : t.seen (Output.partTo d) = s.seen (Output.partTo d) ++ if w = d then [part] else []) :
    t.Hands s.drawn ex d parts (asked ++ if ex' = ex then [part] else []) := by
  obtain ⟨k, hk, hl⟩ := hL.socket ex' x' w hx' hws'
  refine ⟨fun hd => ?_, fun hidle => ?_, fun x hx hws => ?_⟩
  · have hne : w ≠ d := ne_of_lt ((fresh.sockets w k hk).trans hd)
    rw [hseen, if_neg hne, List.append_nil]
    exact hs.fresh hd
  · by_cases heq : ex' = ex
    · subst heq
      obtain ⟨x, hx, hsame⟩ := exchanges.get_some hx'
      have hnone := hidle x hx
      rw [hsame.ws, hws'] at hnone
      cases hnone
    · rw [if_neg heq, List.append_nil]
      refine hs.idle fun x hx => ?_
      obtain ⟨x0, hx0, hsame⟩ := exchanges.get_some hx
      rw [← hsame.ws]
      exact hidle x0 hx0
  · obtain ⟨x0, hx0, hsame⟩ := exchanges.some_get hx
    have hws0 : x0.ws = some d := hsame.ws ▸ hws
    have hbridged := hs.bridged x0 hx0 hws0
    rw [hseen, hsame.head]
    by_cases heq : ex' = ex
    · subst heq
      obtain rfl := Option.some.inj (hx0.symm.trans hx')
      obtain rfl : w = d := Option.some.inj (hws'.symm.trans hws0)
      rw [if_pos rfl, if_pos rfl, ← List.append_assoc, hbridged, List.cons_append]
    · have hne : w ≠ d := by
        rintro rfl
        obtain ⟨k0, hk0, hl0⟩ := hL.socket ex x0 w hx0 hws0
        obtain rfl := Option.some.inj (hk.symm.trans hk0)
        rw [hl] at hl0
        exact heq (Listener.bridge.inj hl0).2
      rw [if_neg hne, if_neg heq, List.append_nil, List.append_nil]
      exact hbridged

theorem streams_iff : s.streams ex = true ↔
    ∃ x w, s.net.exchanges.get ex = some x ∧ x.ws = some w ∧ s.net.readyState w = .open_ := by
  unfold streams
  rcases hx : s.net.exchanges.get ex with _ | x
  · simp
  · rcases hws : x.ws with _ | w
    · simp [hws]
    · simp [hws]

/-- An event that brings a part of the request of an exchange passes it on while the data socket is open. -/
theorem Hands.requested (hs : s.Hands s.drawn ex d parts asked) (running : s.uncaught = none) (fresh : s.Fresh Γ) (hL : s.Legs)
    {ex' : ExchangeId} {part : RequestPart} (hpart : e.requestPart ex = if ex' = ex then some part else none)
    (hstill : s.streams ex' = false → t = s)
    (hgoes : ∀ x w, s.net.exchanges.get ex' = some x → x.ws = some w → s.net.readyState w = .open_ →
      s.net.exchanges.Pointwise HttpExchange.SameWire t.net.exchanges ∧
        t.seen (Output.partTo d) = s.seen (Output.partTo d) ++ if w = d then [part] else []) :
    t.Hands s.drawn ex d parts (asked ++ (s.presents ex e).toList) := by
  rcases hstreams : s.streams ex' with _ | _
  · have hnone : s.presents ex e = none := by
      by_cases heq : ex' = ex
      · subst heq
        simp [presents, hstreams]
      · simp [presents, hpart, heq]
    rw [hnone, hstill hstreams, Option.toList_none, List.append_nil]
    exact hs
  · obtain ⟨x, w, hx, hws, hopen⟩ := streams_iff.mp hstreams
    obtain ⟨hexchanges, hseen⟩ := hgoes x w hx hws hopen
    have hpresents : (s.presents ex e).toList = if ex' = ex then [part] else [] := by
      by_cases heq : ex' = ex
      · subst heq
        simp [presents, running, hstreams, hpart]
      · simp [presents, hpart, heq]
    rw [hpresents]
    exact hs.part fresh hL hx hws hexchanges hseen

theorem requestData_closed {ex' : ExchangeId} (h : s.streams ex' = false) (chunk : Bytes) (buffered : Nat) :
    s.requestData ex' chunk buffered = s := by
  unfold requestData
  split
  · rename_i hx
    rw [if_pos]
    intro hopen
    rw [streams_iff.mpr ⟨_, _, hx, rfl, hopen⟩] at h
    cases h
  · rfl

theorem requestEnd_closed {ex' : ExchangeId} (h : s.streams ex' = false) : s.requestEnd ex' = s := by
  unfold requestEnd
  split
  · rename_i hx
    rw [if_neg]
    intro hopen
    rw [streams_iff.mpr ⟨_, _, hx, rfl, hopen⟩] at h
    cases h
  · rfl

theorem Hands.requestData (hs : s.Hands s.drawn ex d parts asked) (running : s.uncaught = none) (fresh : s.Fresh Γ) (hL : s.Legs)
    (ex' : ExchangeId) (chunk : Bytes) (buffered : Nat) :
    (s.requestData ex' chunk buffered).Hands s.drawn ex d parts
      (asked ++ (s.presents ex (.requestData ex' chunk buffered)).toList) := by
  refine hs.requested running fresh hL rfl (fun h => requestData_closed h chunk buffered) fun x w hx hws hopen => ?_
  have hturns := (requestData_turns ex' chunk buffered s).net.exchanges
  refine ⟨hturns.mono fun _ _ h => h.speaks.sameWire, ?_⟩
  have hsent : (Output.sendFrame w { data := chunk, isBinary := true }).partTo d =
      if w = d then some (.frame { data := chunk, isBinary := true }) else none := rfl
  have houtbox : (s.requestData ex' chunk buffered).net.outbox = s.net.outbox ++ [.sendFrame w { data := chunk, isBinary := true }] := by
    rw [Gateway.requestData, hx]
    cases x
    cases hws
    dsimp only
    rw [if_neg (not_not_intro hopen), onNet_net]
    split <;> rfl
  rw [seen, houtbox, List.filterMap_append, List.filterMap_cons, hsent]
  by_cases hd : w = d
  · simp [seen, if_pos hd]
  · simp [seen, if_neg hd]

theorem Hands.requestEnd (hs : s.Hands s.drawn ex d parts asked) (running : s.uncaught = none) (fresh : s.Fresh Γ) (hL : s.Legs)
    (ex' : ExchangeId) :
    (s.requestEnd ex').Hands s.drawn ex d parts (asked ++ (s.presents ex (.requestEnd ex')).toList) := by
  refine hs.requested running fresh hL rfl (fun h => requestEnd_closed h) fun x w hx hws hopen => ?_
  refine ⟨?_, ?_⟩
  · rw [requestEnd_exchanges]
    exact .refl HttpExchange.SameWire.refl _
  · have hsent : (Output.sendHttp w .requestEnd).partTo d = if w = d then some (.http .requestEnd) else none := rfl
    have houtbox : (s.requestEnd ex').net.outbox = s.net.outbox ++ [.sendHttp w .requestEnd] := by
      rw [Gateway.requestEnd, hx]
      cases x
      cases hws
      dsimp only
      rw [if_pos hopen]
      rfl
    rw [seen, houtbox, List.filterMap_append, List.filterMap_cons, hsent]
    by_cases hd : w = d
    · simp [seen, if_pos hd]
    · simp [seen, if_neg hd]

theorem Hands.handle (hs : s.Hands s.drawn ex d parts asked) (running : s.uncaught = none) (fresh : s.Fresh Γ) (hA : s.Admission)
    (hL : s.Legs) (hunused : s.drawn ≤ d → parts ++ s.seen (Output.partTo d) = []) (e : Event) :
    (s.handle Γ e).Hands s.drawn ex d parts (asked ++ (s.presents ex e).toList) := by
  by_cases hrequest : ∃ ex' chunk buffered, e = .requestData ex' chunk buffered
  · obtain ⟨ex', chunk, buffered, rfl⟩ := hrequest
    exact hs.requestData running fresh hL ex' chunk buffered
  by_cases hend : ∃ ex', e = .requestEnd ex'
  · obtain ⟨ex', rfl⟩ := hend
    exact hs.requestEnd running fresh hL ex'
  have hnothing : s.presents ex e = none := by
    have hpart : e.requestPart ex = none := by
      unfold Event.requestPart
      split
      · exact absurd ⟨_, _, _, rfl⟩ hrequest
      · exact absurd ⟨_, rfl⟩ hend
      · rfl
    simp [presents, hpart]
  rw [hnothing, Option.toList_none, List.append_nil]
  refine handle_rel (R := fun u v => u.Hands s.drawn ex d parts asked → v.Hands s.drawn ex d parts asked) (fun _ => id)
    (fun h h' hu => h' (h hu)) e running fresh (fun u v hop hu => ?_) hs
  rcases hop.mute (fun ex' chunk buffered he => hrequest ⟨ex', chunk, buffered, he⟩) (fun ex' he => hend ⟨ex', he⟩) with
    hmute | ⟨rfl, channelId, ticket, handshakeOk, rfl⟩ | ⟨rfl, ws, k, leg, frame, buffered, hk, hl, rfl⟩
  · exact hu.mute hmute
  · exact hu.dial fresh hA hL hunused channelId ticket handshakeOk
  · exact hu.relay fresh hL hk hl frame buffered

theorem step_hands (e : Event) (fresh : s.Fresh Γ) (hA : s.Admission) (hL : s.Legs) (hunused : s.drawn ≤ d → parts = [])
    (hs : s.quiet.Hands s.drawn ex d parts asked) :
    ((s.step Γ e).drawn ≤ d → parts ++ acts Γ (Output.partTo d) s e = []) ∧
      (s.step Γ e).quiet.Hands (s.step Γ e).drawn ex d (parts ++ acts Γ (Output.partTo d) s e)
        (asked ++ (s.presents ex e).toList) := by
  rcases hrun : s.uncaught with _ | error
  · have hfresh : s.quiet.Fresh Γ := fresh.turns (quiet_turns s)
    have hquiet : s.quiet.Hands s.quiet.drawn ex d parts asked := hs
    have hnext := hquiet.handle (Γ := Γ) hrun hfresh (hA.turns (quiet_turns s)) (hL.turns (quiet_turns s))
      (fun hd => by rw [hunused hd]; rfl) e
    have hdrawn : (s.quiet.handle Γ e).drawn = s.drawn := (handle_fresh e hfresh).2
    have hlater (hd : (s.quiet.handle Γ e).drawn + 1 ≤ d) : s.quiet.drawn < d := by
      change s.drawn < d
      omega
    rw [acts_running hrun, step_running hrun]
    refine ⟨fun hd => hnext.fresh (hlater hd), fun hd => ?_, hnext.idle, fun x hx hws => ?_⟩
    · rw [hnext.fresh (hlater (Nat.le_of_lt hd))]
      rfl
    · rw [hnext.bridged x hx hws]
      exact List.append_nil _
  · have hnone : s.presents ex e = none := by
      simp [presents, hrun]
    rw [acts_stopped hrun, step_stopped hrun, hnone, Option.toList_none, List.append_nil, List.append_nil]
    exact ⟨hunused, hs⟩

end Hands

/-! ## Over a run -/

theorem hands_run (ex : ExchangeId) (d : SocketId) (es : List Event) :
    (((gateway Γ storage).run es).drawn ≤ d → passedOn Γ storage d es = []) ∧
      ((gateway Γ storage).run es).quiet.Hands ((gateway Γ storage).run es).drawn ex d (passedOn Γ storage d es)
        (presented Γ storage ex es) := by
  induction es using List.reverseRecOn with
  | nil => exact ⟨fun _ => rfl, fun _ => rfl, fun _ => rfl, fun x hx => by cases hx⟩
  | append_singleton es e ih =>
    have hfresh : ((gateway Γ storage).run es).Fresh Γ := fresh_run es
    have hchannels : ((gateway Γ storage).run es).Admission ∧ ((gateway Γ storage).run es).Legs := channels_run es
    have hnext := step_hands e hfresh hchannels.1 hchannels.2 ih.1 ih.2
    rw [passedOn, presented, EventMachine.history_snoc, EventMachine.history_snoc, EventMachine.run_snoc]
    exact hnext

/-- Over every run, the frames that the data socket of an exchange has had are the head of its request, and then what came of the
body while it was open, in order. -/
theorem request_faithful (es : List Event) {ex : ExchangeId} {x : HttpExchange} {ws : SocketId}
    (hx : ((gateway Γ storage).run es).net.exchanges.get ex = some x) (hws : x.ws = some ws) :
    passedOn Γ storage ws es = x.head :: presented Γ storage ex es := by
  have hhands : ((gateway Γ storage).run es).quiet.Hands ((gateway Γ storage).run es).drawn ex ws (passedOn Γ storage ws es)
      (presented Γ storage ex es) := (hands_run ex ws es).2
  exact (List.append_nil _).symm.trans (hhands.bridged x hx hws)

/-- A request with a body of two chunks. -/
def sampleUpload : List Event :=
  [.connect, .text 0 (sampleHello "zgb_old" true), .proxy sampleRequest (some "Bearer zgd_device"),
    .upgrade "127.0.0.1" "/channel/ccc?ticket=tttttt" true, .requestData 2 [1] 0, .requestData 2 [2] 0, .requestEnd 2]

def sampleUploadCtx : Ctx := Ctx.sample [sampleHello "zgb_old" true]

theorem request_faithful_upload :
    ∃ x, ((gateway sampleUploadCtx sampleStorage).run sampleUpload).net.exchanges.get 2 = some x ∧
      passedOn sampleUploadCtx sampleStorage 3 sampleUpload =
        x.head :: presented sampleUploadCtx sampleStorage 2 sampleUpload := by
  have hbridged : ∃ x, ((gateway sampleUploadCtx sampleStorage).run sampleUpload).net.exchanges.get 2 = some x ∧ x.ws = some 3 := by
    have hsome : (((gateway sampleUploadCtx sampleStorage).run sampleUpload).net.exchanges.get 2).any (fun x => x.ws = some 3) = true := by
      decide +kernel
    rw [Option.any_eq_true] at hsome
    obtain ⟨x, hx, hws⟩ := hsome
    exact ⟨x, hx, of_decide_eq_true hws⟩
  obtain ⟨x, hx, hws⟩ := hbridged
  exact ⟨x, hx, request_faithful sampleUpload hx hws⟩

end Gateway

end ZclaudiaGateway
