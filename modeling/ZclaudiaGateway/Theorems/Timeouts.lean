import ZclaudiaGateway.Lemmas.Answers
import ZclaudiaGateway.Lemmas.Exchanges
import ZclaudiaGateway.Lemmas.RelayRun
import ZclaudiaGateway.Lemmas.Sample

/-!
# Timeouts

A channel that is not piped has its pairing timer armed, and a proxied request that is bridged and not answered has its response
timer or its idle timer armed. So no request waits for ever: whatever the backend does or fails to do, one of three timers is due
that ends the request. `Timed` is the invariant, but for an exchange whose timers are being set.
-/

namespace ZclaudiaGateway

/-- A timer of the exchange is armed. -/
def HttpExchange.Awaits (x : HttpExchange) : Prop := x.responseTimer = true ∨ x.idleTimer = true

/-- The exchange is no more pending than before, and awaits something if it did. -/
structure HttpExchange.Waits (x x' : HttpExchange) : Prop where
  channelId : x'.channelId = x.channelId
  pending : x'.Pending → x.Pending
  awaits : x.Awaits → x'.Awaits

theorem HttpExchange.Waits.refl (x : HttpExchange) : x.Waits x := ⟨rfl, id, id⟩

theorem HttpExchange.Waits.trans {x x' x'' : HttpExchange} (h : x.Waits x') (h' : x'.Waits x'') : x.Waits x'' :=
  ⟨h'.channelId.trans h.channelId, fun hp => h.pending (h'.pending hp), fun ha => h'.awaits (h.awaits ha)⟩

theorem HttpExchange.answered_waits (reason : ChannelClosedReason) (x : HttpExchange) : x.Waits (x.answered reason) := by
  refine ⟨(x.answered_answers reason).channelId, (x.answered_answers reason).pending, fun h => ?_⟩
  unfold HttpExchange.answered
  split
  · exact h
  · split
    · exact h
    · exact h

namespace Gateway

variable {Γ : Ctx} {e : Event} {storage : Storage} {s t : Gateway} {excused : Option ExchangeId}

/-- Every channel and every pending exchange, the excused one apart, has a timer. -/
structure Timed (excused : Option ExchangeId) (s : Gateway) : Prop where
  pairing : ∀ id ch, s.channels.get id = some ch → ch.piped = false → ch.pairingTimeout = true
  internal : ∀ id ch ex, s.channels.get id = some ch → ch.internalRes = some ex → ch.onBackendSocket = some ex
  waiting : ∀ ex x ch, excused ≠ some ex → s.net.exchanges.get ex = some x → x.Pending → s.channels.get x.channelId = some ch →
    ch.internalRes = some ex → ch.piped = true → x.Awaits

theorem Timed.init (storage : Storage) : (Gateway.init storage).Timed none := by
  refine ⟨fun id ch hc => ?_, fun id ch ex hc => ?_, fun ex x ch _ hx => ?_⟩
  · cases hc
  · cases hc
  · cases hx

theorem Timed.excuse (hs : s.Timed none) (ex : ExchangeId) : s.Timed (some ex) :=
  ⟨hs.pairing, hs.internal, fun ex' x ch _ hx hp hc hint => hs.waiting ex' x ch (by simp) hx hp hc hint⟩

/-- Exchanges wait on, and no channel changes. -/
theorem Timed.waits (hs : s.Timed excused) (exchanges : s.net.exchanges.Pointwise HttpExchange.Waits t.net.exchanges)
    (channels : ∀ id ch, t.channels.get id = some ch → s.channels.get id = some ch) : t.Timed excused := by
  refine ⟨fun id ch hc => hs.pairing id ch (channels id ch hc), fun id ch ex hc => hs.internal id ch ex (channels id ch hc),
    fun ex x' ch hne hx' hp hc hint hpiped => ?_⟩
  obtain ⟨x, hx, hwaits⟩ := exchanges.some_get hx'
  rw [hwaits.channelId] at hc
  exact hwaits.awaits (hs.waiting ex x ch hne hx (hwaits.pending hp) (channels _ ch hc) hint hpiped)

theorem Timed.of_eq (hs : s.Timed excused) (exchanges : t.net.exchanges = s.net.exchanges) (channels : t.channels = s.channels) :
    t.Timed excused := by
  refine hs.waits ?_ (fun id ch hc => channels ▸ hc)
  rw [exchanges]
  exact .refl HttpExchange.Waits.refl _

theorem Timed.modify (hs : s.Timed excused) (ex : ExchangeId) {f : HttpExchange → HttpExchange} (hf : ∀ x : HttpExchange, x.Waits (f x)) :
    (s.onNet (Net.modifyExchange ex f)).Timed excused :=
  hs.waits (.modify HttpExchange.Waits.refl fun x _ => hf x) (fun _ _ hc => hc)

/-- Whatever is done to the excused exchange. -/
theorem Timed.modifyExcused {ex : ExchangeId} (hs : s.Timed (some ex)) (f : HttpExchange → HttpExchange) :
    (s.onNet (Net.modifyExchange ex f)).Timed (some ex) := by
  refine ⟨hs.pairing, hs.internal, fun ex' x ch hne hx hp hc hint hpiped => ?_⟩
  refine hs.waiting ex' x ch hne ?_ hp hc hint hpiped
  have hother : ex' ≠ ex := fun heq => hne (by rw [heq])
  exact (InsertionMap.get_modify_of_ne hother).symm.trans hx

/-- The excused exchange gets a timer. -/
theorem Timed.arm {ex : ExchangeId} (hs : s.Timed (some ex)) :
    (s.onNet (Net.modifyExchange ex (fun x => { x with idleTimer := true }))).Timed none := by
  have hany := hs.modifyExcused (fun x => { x with idleTimer := true })
  refine ⟨hany.pairing, hany.internal, fun ex' x ch _ hx hp hc hint hpiped => ?_⟩
  by_cases heq : ex' = ex
  · subst heq
    have hx' := hx
    rw [onNet_net, Net.modifyExchange, InsertionMap.get_modify_self] at hx'
    obtain ⟨x0, -, rfl⟩ := Option.map_eq_some_iff.mp hx'
    exact Or.inr rfl
  · exact hany.waiting ex' x ch (by simp [Ne.symm heq]) hx hp hc hint hpiped

theorem teardown_waits (reason : ChannelClosedReason) (channelId : String) (s : Gateway) :
    s.net.exchanges.Pointwise HttpExchange.Waits (s.teardownChannel reason channelId).net.exchanges := by
  rcases hc : s.channels.get channelId with _ | ch
  · rw [teardownChannel_of_none _ _ _ hc]
    exact .refl HttpExchange.Waits.refl _
  · intro ex
    rw [teardownChannel_exchange _ _ _ hc]
    rcases s.net.exchanges.get ex with _ | x
    · split <;> exact .none
    · split
      · exact .some (HttpExchange.answered_waits reason x)
      · exact .some (.refl x)

theorem teardown_channels (reason : ChannelClosedReason) (channelId : String) (s : Gateway) (id : String) (ch : ChannelRecord)
    (hc : (s.teardownChannel reason channelId).channels.get id = some ch) : id ≠ channelId ∧ s.channels.get id = some ch := by
  rw [teardownChannel_channel] at hc
  split at hc
  · cases hc
  · rename_i hne
    exact ⟨hne, hc⟩

theorem Timed.teardown (hs : s.Timed excused) (reason : ChannelClosedReason) (channelId : String) :
    (s.teardownChannel reason channelId).Timed excused :=
  hs.waits (teardown_waits reason channelId s) fun id ch hc => (teardown_channels reason channelId s id ch hc).2

/-- The teardown of its channel ends the excuse. -/
theorem Timed.torn {ex : ExchangeId} (hs : s.Timed (some ex)) (reason : ChannelClosedReason) {channelId : String}
    (hid : ∀ x, s.net.exchanges.get ex = some x → x.channelId = channelId) :
    (s.teardownChannel reason channelId).Timed none := by
  have htorn := hs.teardown reason channelId
  refine ⟨htorn.pairing, htorn.internal, fun ex' x' ch _ hx' hp hc hint hpiped => ?_⟩
  refine htorn.waiting ex' x' ch ?_ hx' hp hc hint hpiped
  rintro heq
  obtain rfl := Option.some.inj heq
  obtain ⟨x, hx, hwaits⟩ := (teardown_waits reason channelId s).some_get hx'
  exact (teardown_channels reason channelId s _ ch hc).1 (hwaits.channelId.trans (hid x hx))

/-! ## Responses -/

theorem callResponse_waits (ex : ExchangeId) (s : Gateway) (c : ResponseCall) :
    s.net.exchanges.Pointwise HttpExchange.Waits (s.callResponse ex c).net.exchanges := by
  have hmodify (f : HttpExchange → HttpExchange) (hf : ∀ x : HttpExchange, x.Waits (f x)) :
      s.net.exchanges.Pointwise HttpExchange.Waits (s.net.exchanges.modify ex f) :=
    .modify HttpExchange.Waits.refl fun x _ => hf x
  have hrefl : s.net.exchanges.Pointwise HttpExchange.Waits s.net.exchanges := .refl HttpExchange.Waits.refl _
  unfold callResponse
  split
  · cases c with
    | setHeader name value =>
      dsimp only
      split
      · exact hrefl
      · split
        · exact hrefl
        · exact hmodify _ fun x => ⟨rfl, id, id⟩
    | status code => exact hmodify _ fun x => ⟨rfl, id, id⟩
    | write data =>
      dsimp only
      split
      · exact hrefl
      · split
        · exact hrefl
        · rw [onNet_net, writeBody_exchanges]
          split
          · exact hrefl
          · exact hmodify _ fun x => ⟨rfl, id, id⟩
  · exact hrefl

theorem Timed.call (hs : s.Timed excused) (ex : ExchangeId) (c : ResponseCall) : (s.callResponse ex c).Timed excused :=
  hs.waits (callResponse_waits ex s c) (fun _ _ hc => (callResponse_speaks ex s c).channels ▸ hc)

/-- The head of a response arms the idle timer. -/
theorem Timed.head {ex : ExchangeId} (hs : s.Timed (some ex)) (request : ProxyRequest) (meta_ : JsonValue)
    (hrun : (s.responseHead ex request meta_).uncaught = none) : (s.responseHead ex request meta_).Timed none := by
  have hcalls (calls : List ResponseCall) (s : Gateway) (hs : s.Timed (some ex)) :
      (calls.foldl (callResponse ex) s).Timed (some ex) := by
    induction calls generalizing s with
    | nil => exact hs
    | cons c calls ih => exact ih _ (hs.call ex c)
  have hmeta := hs.modifyExcused (fun x => { x with metaReceived := true })
  have hspoken (u : Gateway) (hu : u.Timed (some ex))
      (hrun : (if u.uncaught.isSome then u else u.onNet (Net.modifyExchange ex (fun x => { x with idleTimer := true }))).uncaught = none) :
      (if u.uncaught.isSome then u else u.onNet (Net.modifyExchange ex (fun x => { x with idleTimer := true }))).Timed none := by
    split
    · rename_i hthrown
      rw [if_pos hthrown] at hrun
      simp [hrun] at hthrown
    · exact hu.arm
  unfold responseHead at hrun ⊢
  cases meta_ with
  | null => cases hrun
  | _ => exact hspoken _ (hcalls _ _ hmeta) hrun

theorem Timed.finish {ex : ExchangeId} (hs : s.Timed (some ex)) (channelId : String) (x : HttpExchange) :
    (s.finishResponse channelId ex x).Timed (some ex) := by
  have hcleared := hs.modifyExcused (fun x => { x with responseTimer := false, idleTimer := false })
  have hdone {u : Gateway} (hu : u.Timed (some ex)) :
      (u.onChannel channelId (fun ch => { ch with internalRes := none })).Timed (some ex) := by
    have hback {id : String} {ch' : ChannelRecord}
        (hc : (u.onChannel channelId (fun ch => { ch with internalRes := none })).channels.get id = some ch') :
        ∃ ch, u.channels.get id = some ch ∧ (ch' = ch ∨ ch' = { ch with internalRes := none }) := by
      rw [onChannel, InsertionMap.get_modify] at hc
      split at hc
      · obtain ⟨ch, hch, rfl⟩ := Option.map_eq_some_iff.mp hc
        exact ⟨ch, hch, Or.inr rfl⟩
      · exact ⟨ch', hc, Or.inl rfl⟩
    refine ⟨fun id ch' hc hp => ?_, fun id ch' ex' hc hint => ?_, fun ex' x' ch' hne hx' hp hc hint hpiped => ?_⟩
    · obtain ⟨ch, hch, rfl | rfl⟩ := hback hc
      · exact hu.pairing id _ hch hp
      · exact hu.pairing id ch hch hp
    · obtain ⟨ch, hch, rfl | rfl⟩ := hback hc
      · exact hu.internal id _ ex' hch hint
      · cases hint
    · obtain ⟨ch, hch, rfl | rfl⟩ := hback hc
      · exact hu.waiting ex' x' _ hne hx' hp hch hint hpiped
      · cases hint
  unfold finishResponse
  dsimp only
  split
  · split
    · exact hdone ((hcleared.modifyExcused (fun x => { x with writableEnded := true })).of_eq rfl rfl)
    · exact hdone hcleared
  · exact hcleared

/-! ## New channels and dials -/

theorem Timed.openChannel (hs : s.Timed none) (peer backendPeer : PeerSession) (lease : BackendLease)
    (target : String) (kind : Option String) : (s.openChannel Γ peer backendPeer lease target kind).Timed none := by
  have hback {id : String} {ch : ChannelRecord}
      (hc : (s.openChannel Γ peer backendPeer lease target kind).channels.get id = some ch) :
      s.channels.get id = some ch ∨ ch.pairingTimeout = true ∧ ch.internalRes = none := by
    rcases InsertionMap.get_set_eq_some.mp hc with ⟨-, rfl⟩ | ⟨-, hc⟩
    · exact Or.inr ⟨rfl, rfl⟩
    · exact Or.inl hc
  refine ⟨fun id ch hc hp => ?_, fun id ch ex hc hint => ?_, fun ex x ch hne hx hp hc hint hpiped => ?_⟩
  · rcases hback hc with hc | ⟨htimer, -⟩
    · exact hs.pairing id ch hc hp
    · exact htimer
  · rcases hback hc with hc | ⟨-, hnone⟩
    · exact hs.internal id ch ex hc hint
    · rw [hnone] at hint
      cases hint
  · rw [openChannel_exchanges] at hx
    rcases hback hc with hc | ⟨-, hnone⟩
    · exact hs.waiting ex x ch hne hx hp hc hint hpiped
    · rw [hnone] at hint
      cases hint

theorem Timed.proxyViaChannel (hs : s.Timed none) (fresh : s.Fresh Γ) (request : ProxyRequest) (epoch : Nat)
    (backendPeer : PeerSession) : (s.proxyViaChannel Γ request epoch backendPeer).Timed none := by
  unfold Gateway.proxyViaChannel
  split
  · exact hs.of_eq rfl rfl
  · refine ⟨fun id ch hc hp => ?_, fun id ch ex hc hint => ?_, fun ex x ch hne hx hp hc hint hpiped => ?_⟩
    · rcases InsertionMap.get_set_eq_some.mp hc with ⟨-, rfl⟩ | ⟨-, hc⟩
      · rfl
      · exact hs.pairing id ch hc hp
    · rcases InsertionMap.get_set_eq_some.mp hc with ⟨-, rfl⟩ | ⟨-, hc⟩
      · exact hint
      · exact hs.internal id ch ex hc hint
    · rcases InsertionMap.get_set_eq_some.mp hc with ⟨-, rfl⟩ | ⟨-, hc⟩
      · cases hpiped
      · simp only [Net.sendToWs_exchanges] at hx
        rcases InsertionMap.get_set_eq_some.mp hx with ⟨rfl, rfl⟩ | ⟨-, hx⟩
        · have hnone : s.channels.get (newExchange Γ (Γ.channelIds.draw s.drawn) request).channelId = none := fresh.channel
          rw [hnone] at hc
          cases hc
        · exact hs.waiting ex x ch hne hx hp hc hint hpiped

theorem attachLeg_waits (channelId : String) (role : ChannelRole) (s : Gateway) :
    s.net.exchanges.Pointwise HttpExchange.Waits (s.attachLeg channelId role).net.exchanges := by
  unfold attachLeg
  dsimp only
  split
  · exact .refl HttpExchange.Waits.refl _
  · unfold pairLegs
    split
    · simp only [onNet_net, onChannel, Net.resume_exchanges]
      unfold bridgeHttpChannel
      split
      · exact .refl HttpExchange.Waits.refl _
      · exact .modify HttpExchange.Waits.refl fun x _ => ⟨rfl, id, fun _ => Or.inl rfl⟩
    · simp only [wireChannel, onNet_net, onChannel, Net.resume_exchanges]
      exact .refl HttpExchange.Waits.refl _
    · exact .refl HttpExchange.Waits.refl _

/-- The dial that bridges a request arms its response timer. -/
theorem attachLeg_armed {channelId : String} {role : ChannelRole} {ch : ChannelRecord} (hc : s.channels.get channelId = some ch)
    (hp : ch.piped = false) {ex : ExchangeId} (hint : ch.onBackendSocket = some ex)
    (hpiped : (ch.dialed role s.drawn).piped = true) {x' : HttpExchange}
    (hx' : (s.attachLeg channelId role).net.exchanges.get ex = some x') : x'.responseTimer = true := by
  have hleg : (setLegSocket role s.drawn ch).onBackendSocket = some ex ∧ (setLegSocket role s.drawn ch).piped = false := by
    cases role
    · exact ⟨hint, hp⟩
    · exact ⟨hint, hp⟩
  have hready : (setLegSocket role s.drawn ch).ready = true := by
    by_contra hno
    rw [ChannelRecord.dialed] at hpiped
    simp only [hno, Bool.false_and, Bool.false_eq_true, if_false, hleg.2] at hpiped
  obtain ⟨b, hb⟩ : ∃ b, (setLegSocket role s.drawn ch).backendSocket = some b := by
    rw [ChannelRecord.ready, Bool.and_eq_true] at hready
    exact Option.isSome_iff_exists.mp hready.1
  unfold attachLeg at hx'
  rw [hc] at hx'
  unfold pairLegs at hx'
  simp only [hleg.1, hleg.2, hb, onNet_net, onChannel, bridge_exchange, if_true] at hx'
  obtain ⟨x, -, rfl⟩ := Option.map_eq_some_iff.mp hx'
  rfl

theorem Timed.dial (hs : s.Timed none) (hA : s.Admission) (channelId : String) (ticket : Option String) (handshakeOk : Bool) :
    (s.handleChannelUpgrade channelId ticket handshakeOk).Timed none := by
  rcases handleChannelUpgrade_cases s channelId ticket handshakeOk with he | ⟨found, ch0, ht, rfl, hc0, -, he⟩
  · rw [he]
    exact hs.of_eq rfl rfl
  · rw [he]
    obtain ⟨hp0, -, -⟩ := hA.not_piped ht hc0
    have hc0' : (s.consumeTicket (ticket.getD "")).channels.get found.channelId = some ch0 := hc0
    have hkeeps := ch0.dialed_keeps found.role (s.consumeTicket (ticket.getD "")).drawn
    have hchannel (id : String) : ((s.consumeTicket (ticket.getD "")).attachLeg found.channelId found.role).channels.get id =
        if id = found.channelId then some (ch0.dialed found.role (s.consumeTicket (ticket.getD "")).drawn)
        else s.channels.get id :=
      attachLeg_channel _ _ _ hc0' id
    refine ⟨fun id ch hc hp => ?_, fun id ch ex hc hint => ?_, fun ex x' ch hne hx' hp hc hint hpiped => ?_⟩
    · rw [hchannel] at hc
      split at hc
      · obtain rfl := Option.some.inj hc
        rw [← hs.pairing _ _ hc0 hp0]
        revert hp
        unfold ChannelRecord.dialed
        dsimp only
        split
        · simp
        · intro
          cases found.role
          · rfl
          · rfl
      · exact hs.pairing id ch hc hp
    · rw [hchannel] at hc
      split at hc
      · obtain rfl := Option.some.inj hc
        rw [hkeeps.2.2.2.2.2.2.2] at hint
        exact hkeeps.2.2.2.2.2.2.1.trans (hs.internal _ _ ex hc0 hint)
      · exact hs.internal id ch ex hc hint
    · rw [hchannel] at hc
      split at hc
      · obtain rfl := Option.some.inj hc
        rw [hkeeps.2.2.2.2.2.2.2] at hint
        exact Or.inl (attachLeg_armed hc0' hp0 (hs.internal _ _ ex hc0 hint) hpiped hx')
      · obtain ⟨x, hx, hwaits⟩ := (attachLeg_waits found.channelId found.role (s.consumeTicket (ticket.getD ""))).some_get hx'
        rw [hwaits.channelId] at hc
        exact hwaits.awaits (hs.waiting ex x ch hne hx (hwaits.pending hp) hc hint hpiped)

/-! ## Events -/

/-- Every single operation of an event that paces no exchange keeps the timers. -/
theorem Op.timed {σ : Gateway} (h : Op Γ e σ s t) (he : ¬ e.Paces) (hA : σ.Admission) (hs : s.Timed none) : t.Timed none := by
  cases h with
  | tables net channels => exact hs.of_eq (by rw [net]) channels
  | clock => exact hs.of_eq rfl rfl
  | net h => exact hs.of_eq h.exchanges rfl
  | pace hf hact => exact absurd hact he
  | teardown reason channelId => exact hs.teardown reason channelId
  | openChannel fresh peer backendPeer lease target kind => exact hs.openChannel _ _ _ _ _
  | proxyViaChannel fresh request epoch backendPeer => exact hs.proxyViaChannel fresh _ _ _
  | connect ip => exact hs.of_eq (controlConnection_exchanges _ _) (controlConnection_tables _ _).1
  | dial channelId ticket handshakeOk => exact hs.dial hA _ _ _
  | hangUp hk hl hopen hact => exact hs.of_eq rfl rfl
  | shut hk hl hopen hact => exact hs.of_eq rfl rfl
  | relay hk hr hl hact => exact absurd (Or.inl ⟨_, _, _, _, hact⟩) he
  | rateTimer hact =>
    rename_i ws
    rcases rateTimerFires_moves ws s with heq | hmoves
    · rwa [heq]
    · exact hs.of_eq hmoves.exchanges hmoves.channels
  | drainPoll hact =>
    rename_i ws buffered
    rcases drainPoll_moves ws buffered s with heq | hmoves
    · rwa [heq]
    · exact hs.of_eq hmoves.exchanges hmoves.channels
  | requestData hact => exact absurd (Or.inr (Or.inr (Or.inl ⟨_, _, _, hact⟩))) he
  | requestEnd hact => exact hs.of_eq (requestEnd_exchanges _ _) (requestEnd_turns _ _).channels
  | responseHead hx hm meta_ hact => exact absurd hact.paces he
  | responseBody hx hm data hact => exact absurd hact.paces he
  | finishResponse running hx hact => exact absurd hact he
  | abort hact =>
    refine hs.modify _ fun x => ⟨rfl, fun hp => ?_, id⟩
    exact absurd hp.2 (by simp)

theorem Ops.timed {σ : Gateway} (h : Ops Γ e σ s t) (he : ¬ e.Paces) (hA : σ.Admission) (hs : s.Timed none) : t.Timed none := by
  induction h with
  | refl => exact hs
  | tail _ hop ih => exact hop.timed he hA ih

theorem modifyExchange_channelId {ex : ExchangeId} {f : HttpExchange → HttpExchange} {x x' : HttpExchange}
    (hx : s.net.exchanges.get ex = some x) (hx' : (s.onNet (Net.modifyExchange ex f)).net.exchanges.get ex = some x')
    (hf : ∀ x : HttpExchange, (f x).channelId = x.channelId) : x'.channelId = x.channelId := by
  rw [onNet_net, Net.modifyExchange, InsertionMap.get_modify_self, hx] at hx'
  rw [← Option.some.inj hx', hf]

theorem Timed.bridgeMessage {ws : SocketId} {channelId : String} {ex : ExchangeId} {frame : Frame} {writable : Bool}
    (hs : s.Timed none) (hid : ∀ x, s.net.exchanges.get ex = some x → x.channelId = channelId)
    (hrun : (s.bridgeMessage Γ ws channelId ex frame writable).uncaught = none) :
    (s.bridgeMessage Γ ws channelId ex frame writable).Timed none := by
  have hcleared : (s.onNet (Net.modifyExchange ex (fun x => { x with responseTimer := false }))).Timed (some ex) :=
    (hs.excuse ex).modifyExcused _
  have hid' : ∀ x, (s.onNet (Net.modifyExchange ex (fun x => { x with responseTimer := false }))).net.exchanges.get ex = some x →
      x.channelId = channelId := by
    intro x hx
    rcases hx0 : s.net.exchanges.get ex with _ | x0
    · simp [Net.modifyExchange, hx0] at hx
    · rw [modifyExchange_channelId hx0 hx fun _ => rfl]
      exact hid x0 hx0
  unfold Gateway.bridgeMessage at hrun ⊢
  split
  · exact hs
  · rename_i x hx
    simp only [hx] at hrun
    split
    · rename_i hm
      rw [if_pos hm] at hrun
      dsimp only
      split
      · exact hcleared.torn _ hid'
      · rename_i hb
        simp only [hb] at hrun
        split
        · exact hcleared.torn _ hid'
        · rename_i meta_ hparse
          simp only [hparse] at hrun
          exact hcleared.head x.request meta_ hrun
    · split
      · have hbody := (hs.modify ex (fun x => (⟨rfl, id, fun _ => Or.inr rfl⟩ : x.Waits { x with idleTimer := true }))).call ex
          (.write frame.data)
        dsimp only
        split
        · exact hbody
        · refine hbody.waits ?_ (fun _ _ hc => hc)
          rw [onNet_net, Net.modifyExchange, pause_exchanges]
          exact .modify HttpExchange.Waits.refl fun x _ => ⟨rfl, id, id⟩
      · exact hs

theorem Timed.socketMessage (hs : s.Timed none) (fresh : s.Fresh Γ) (hA : s.Admission) (hL : s.Legs) {ws : SocketId} {frame : Frame}
    {buffered : Nat} {writable : Bool} (hrun : (s.socketMessage Γ ws frame buffered writable).uncaught = none) :
    (s.socketMessage Γ ws frame buffered writable).Timed none := by
  unfold Gateway.socketMessage at hrun ⊢
  split
  · exact hs
  · rename_i k hk
    simp only [hk] at hrun
    split
    · rename_i hr
      rw [if_pos hr] at hrun
      split
      · exact hs
      · rename_i conn hl
        have hops : Ops Γ .pingInterval s s (s.controlMessage Γ ws conn frame.data) := controlMessage_ops ws conn frame.data fresh
        exact hops.timed (by simp [Event.Paces]) hA hs
      · rename_i leg hl
        have hstate : k.readyState ≠ .closed := by
          simp only [WsSocket.reads, Bool.and_eq_true, decide_eq_true_eq] at hr
          exact hr.1
        rcases relayMessage_moves (Γ := Γ) frame buffered hk hl hstate with heq | hmoves
        · rwa [heq]
        · exact hs.of_eq hmoves.exchanges hmoves.channels
      · rename_i channelId ex hl
        simp only [hl] at hrun
        refine hs.bridgeMessage (fun x hx => ?_) hrun
        obtain ⟨x', hx', hid, -⟩ := hL.bridged _ _ _ _ hk hl
        rw [Option.some.inj (hx.symm.trans hx'), hid]
    · exact hs

theorem Timed.socketClosed (Γ : Ctx) (hs : s.Timed none) (hA : s.Admission) (hL : s.Legs) (ws : SocketId) :
    (s.socketClosed ws).Timed none := by
  unfold Gateway.socketClosed
  split
  · exact hs
  · rename_i k hk
    split
    · exact hs
    · dsimp only
      have hclosed : (s.onNet (Net.modifySocket ws (fun k => { k with readyState := .closed }))).Timed none := hs.of_eq rfl rfl
      split
      · exact hclosed
      · rename_i conn hl
        unfold controlClose
        dsimp only
        split
        · rename_i peerSessionId _
          have hops := handlePeerDisconnect_ops (Γ := Γ) (e := .pingInterval) (σ := s) peerSessionId
          exact (hops _).timed (by simp [Event.Paces]) hA (hs.of_eq rfl rfl)
        · exact hs.of_eq rfl rfl
      · exact hclosed.teardown _ _
      · rename_i channelId ex hl
        unfold Gateway.bridgeClose
        split
        · exact hclosed
        · rename_i x hx
          refine ((hclosed.excuse ex).finish channelId x).torn _ fun x' hx' => ?_
          obtain ⟨x0, hx0, hid, -⟩ := hL.bridged _ _ _ _ hk hl
          obtain ⟨x1, hx1, hsame⟩ := (finishResponse_tables channelId ex x
            (s.onNet (Net.modifySocket ws (fun k => { k with readyState := .closed })))).2.2.2.1.some_get hx'
          rw [hsame.1, Option.some.inj (hx1.symm.trans hx0), hid]

theorem handle_timed (e : Event) (running : s.uncaught = none) (fresh : s.Fresh Γ) (hA : s.Admission) (hL : s.Legs)
    (hs : s.Timed none) (hrun : (s.handle Γ e).uncaught = none) : (s.handle Γ e).Timed none := by
  by_cases he : e.Paces
  · rcases he with ⟨ws, frame, buffered, writable, rfl⟩ | ⟨ws, rfl⟩ | ⟨ex, chunk, buffered, rfl⟩ | ⟨ex, buffered, rfl⟩ | ⟨ex, rfl⟩ |
      ⟨ex, rfl⟩ | ⟨ex, rfl⟩
    · exact hs.socketMessage fresh hA hL hrun
    · exact hs.socketClosed Γ hA hL ws
    · refine hs.waits ?_ fun id ch hc => (requestData_turns ex chunk buffered s).channels ▸ hc
      change s.net.exchanges.Pointwise HttpExchange.Waits (s.requestData ex chunk buffered).net.exchanges
      unfold requestData
      split
      · split
        · exact .refl HttpExchange.Waits.refl _
        · rw [onNet_net]
          dsimp only
          split
          · exact .modify HttpExchange.Waits.refl fun x _ => ⟨rfl, id, id⟩
          · exact .refl HttpExchange.Waits.refl _
      · exact .refl HttpExchange.Waits.refl _
    · change (s.requestDrainPoll ex buffered).Timed none
      unfold requestDrainPoll
      split
      · split
        · exact hs.modify ex fun x => ⟨rfl, id, id⟩
        · exact hs
      · exact hs
    · change (s.responseDrain ex).Timed none
      unfold responseDrain
      split
      · split
        · refine hs.waits ?_ fun _ _ hc => hc
          rw [onNet_net, Net.resume_exchanges]
          exact .modify HttpExchange.Waits.refl fun x _ => ⟨rfl, id, id⟩
        · exact hs
      · exact hs
    · change (s.responseTimeoutFires ex).Timed none
      unfold responseTimeoutFires
      split
      · exact hs
      · rename_i x hx
        split
        · exact ((hs.excuse ex).modifyExcused _).torn _ (fun x' hx' => modifyExchange_channelId hx hx' fun _ => rfl)
        · exact hs
    · change (s.idleTimeoutFires ex).Timed none
      unfold idleTimeoutFires
      split
      · exact hs
      · rename_i x hx
        split
        · exact ((hs.excuse ex).modifyExcused _).torn _ (fun x' hx' => modifyExchange_channelId hx hx' fun _ => rfl)
        · exact hs
  · exact (handle_ops e running fresh).timed he hA hs

theorem step_timed (e : Event) (fresh : s.Fresh Γ) (hA : s.Admission) (hL : s.Legs) (hs : s.uncaught = none → s.Timed none)
    (hrun : (s.step Γ e).uncaught = none) : (s.step Γ e).Timed none := by
  have hquiet := quiet_turns s
  rcases hstop : s.uncaught with _ | error
  · rw [step_running hstop] at hrun ⊢
    have hq : s.quiet.Timed none := (hs hstop).of_eq rfl rfl
    have hhandle := handle_timed (s := s.quiet) e hstop (fresh.turns hquiet) (hA.turns hquiet) (hL.turns hquiet) hq hrun
    exact hhandle.of_eq rfl rfl
  · rw [step_stopped hstop] at hrun
    rw [quiet, onNet_uncaught, hstop] at hrun
    cases hrun

theorem timed_run (es : List Event) (hrun : ((gateway Γ storage).run es).uncaught = none) :
    ((gateway Γ storage).run es).Timed none := by
  induction es using List.reverseRecOn with
  | nil => exact .init storage
  | append_singleton es e ih =>
    rw [EventMachine.run_snoc] at hrun ⊢
    exact step_timed e (fresh_run es) (channels_run es).1 (channels_run es).2 ih hrun

/-! ## No request waits for ever -/

theorem teardown_not_pending (reason : ChannelClosedReason) {channelId : String} {ch : ChannelRecord} {ex : ExchangeId}
    {x : HttpExchange} (hc : s.channels.get channelId = some ch) (hint : ch.internalRes = some ex)
    (hx : s.net.exchanges.get ex = some x) :
    ∃ x', (s.teardownChannel reason channelId).net.exchanges.get ex = some x' ∧ ¬ x'.Pending := by
  refine ⟨x.answered reason, ?_, x.answered_not_pending reason⟩
  rw [teardownChannel_exchange _ _ _ hc, if_pos hint, hx]
  rfl

/-- One of the three timers of a request. -/
def TimesOut (ex : ExchangeId) (x : HttpExchange) (e : Event) : Prop :=
  e = .pairingTimeout x.channelId ∨ e = .responseTimeout ex ∨ e = .idleTimeout ex

/-- No request waits for ever: at any time a timer is armed that ends it. -/
theorem request_times_out (es : List Event) {ex : ExchangeId} {x : HttpExchange}
    (hrun : ((gateway Γ storage).run es).uncaught = none) (hx : ((gateway Γ storage).run es).net.exchanges.get ex = some x)
    (hp : x.Pending) :
    ∃ e, TimesOut ex x e ∧ ∃ x', ((gateway Γ storage).run (es ++ [e])).net.exchanges.get ex = some x' ∧ ¬ x'.Pending := by
  have hs : ((gateway Γ storage).run es).Timed none := timed_run es hrun
  have howes : ((gateway Γ storage).run es).OwesAnswers Γ := owesAnswers_run es
  obtain ⟨ch, hc, hint⟩ := howes.owed ex x hx hp
  simp only [EventMachine.run_snoc]
  generalize (gateway Γ storage).run es = s at hrun hx hs hc
  have hstep (e : Event) : ((gateway Γ storage).step s e).net = (s.quiet.handle Γ e).net := by
    change (s.step Γ e).net = _
    rw [step_running hrun]
  have hx' : s.quiet.net.exchanges.get ex = some x := hx
  have hc' : s.quiet.channels.get x.channelId = some ch := hc
  have hset (f : HttpExchange → HttpExchange) : (s.quiet.onNet (Net.modifyExchange ex f)).net.exchanges.get ex = some (f x) := by
    rw [onNet_net, Net.modifyExchange, InsertionMap.get_modify_self, hx']
    rfl
  cases hpiped : ch.piped
  · refine ⟨.pairingTimeout x.channelId, Or.inl rfl, ?_⟩
    rw [hstep]
    change ∃ x', (s.quiet.pairingTimeoutFires x.channelId).net.exchanges.get ex = some x' ∧ _
    unfold pairingTimeoutFires
    simp only [hc', hs.pairing _ _ hc hpiped, if_true]
    exact teardown_not_pending _ hc' hint hx'
  · rcases hs.waiting ex x ch (by simp) hx hp hc hint hpiped with htimer | htimer
    · refine ⟨.responseTimeout ex, Or.inr (Or.inl rfl), ?_⟩
      rw [hstep]
      change ∃ x', (s.quiet.responseTimeoutFires ex).net.exchanges.get ex = some x' ∧ _
      unfold responseTimeoutFires
      simp only [hx', htimer, if_true]
      exact teardown_not_pending (s := s.quiet.onNet (Net.modifyExchange ex (fun x => { x with responseTimer := false }))) _ hc'
        hint (hset _)
    · refine ⟨.idleTimeout ex, Or.inr (Or.inr rfl), ?_⟩
      rw [hstep]
      change ∃ x', (s.quiet.idleTimeoutFires ex).net.exchanges.get ex = some x' ∧ _
      unfold idleTimeoutFires
      simp only [hx', htimer, if_true]
      exact teardown_not_pending (s := s.quiet.onNet (Net.modifyExchange ex (fun x => { x with idleTimer := false }))) _ hc'
        hint (hset _)

/-- A request whose backend has dialed and sends nothing. -/
def sampleHanging : List Event :=
  [.connect, .text 0 (sampleHello "zgb_old" true), .proxy sampleRequest (some "Bearer zgd_device"),
    .upgrade "127.0.0.1" "/channel/ccc?ticket=tttttt" true]

def sampleHangingCtx : Ctx := Ctx.sample [sampleHello "zgb_old" true]

theorem request_times_out_hanging :
    ∃ x, ((gateway sampleHangingCtx sampleStorage).run sampleHanging).net.exchanges.get 2 = some x ∧
      ∃ e, TimesOut 2 x e ∧
        ∃ x', ((gateway sampleHangingCtx sampleStorage).run (sampleHanging ++ [e])).net.exchanges.get 2 = some x' ∧ ¬ x'.Pending := by
  have hrun : ((gateway sampleHangingCtx sampleStorage).run sampleHanging).uncaught = none := by decide +kernel
  have hpending : ∃ x, ((gateway sampleHangingCtx sampleStorage).run sampleHanging).net.exchanges.get 2 = some x ∧ x.Pending := by
    have hsome : (((gateway sampleHangingCtx sampleStorage).run sampleHanging).net.exchanges.get 2).any
        (fun x => !x.writableEnded && !x.destroyed) = true := by decide +kernel
    rw [Option.any_eq_true] at hsome
    obtain ⟨x, hx, hp⟩ := hsome
    rw [Bool.and_eq_true, Bool.not_eq_true', Bool.not_eq_true'] at hp
    exact ⟨x, hx, hp⟩
  obtain ⟨x, hx, hp⟩ := hpending
  exact ⟨x, hx, request_times_out sampleHanging hrun hx hp⟩

end Gateway

end ZclaudiaGateway
