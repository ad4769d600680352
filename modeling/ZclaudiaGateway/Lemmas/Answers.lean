import ZclaudiaGateway.Lemmas.Legs

/-!
# Who answers a proxied response

The response of an internal channel is answered by the teardown of its channel, or ended by the `close` event of its data
socket; every other operation leaves it running. So as long as nothing has ended or destroyed it, its channel is live and still
owes it an answer.
-/

namespace ZclaudiaGateway

/-- The response is neither ended nor destroyed. -/
def HttpExchange.Pending (x : HttpExchange) : Prop := x.writableEnded = false ∧ x.destroyed = false

/-- What may happen to a response without its being ended mid-stream: it may be answered before its head is out, or
destroyed. -/
structure HttpExchange.Answers (x x' : HttpExchange) : Prop where
  channelId : x'.channelId = x.channelId
  headersSent : x.headersSent = true → x'.headersSent = true
  writableEnded : x.headersSent = true → x'.writableEnded = x.writableEnded
  pending : x'.Pending → x.Pending

theorem HttpExchange.Answers.refl (x : HttpExchange) : x.Answers x := ⟨rfl, id, fun _ => rfl, id⟩

theorem HttpExchange.Answers.trans {x x' x'' : HttpExchange} (h : x.Answers x') (h' : x'.Answers x'') : x.Answers x'' :=
  ⟨h'.channelId.trans h.channelId, fun hs => h'.headersSent (h.headersSent hs),
    fun hs => (h'.writableEnded (h.headersSent hs)).trans (h.writableEnded hs), fun hp => h.pending (h'.pending hp)⟩

theorem HttpExchange.Turns.answers {x x' : HttpExchange} (h : x.Turns x') : x.Answers x' :=
  ⟨h.channelId, fun hs => h.headersSent.trans hs, fun _ => h.writableEnded,
    fun hp => ⟨h.writableEnded.symm.trans hp.1, h.destroyed.symm.trans hp.2⟩⟩

theorem HttpExchange.Speaks.answers {x x' : HttpExchange} (h : x.Speaks x') : x.Answers x' :=
  ⟨h.channelId, h.headersSent, fun _ => h.writableEnded,
    fun hp => ⟨h.writableEnded.symm.trans hp.1, h.destroyed.symm.trans hp.2⟩⟩

/-- An answered response is not pending. -/
theorem HttpExchange.answered_not_pending (reason : ChannelClosedReason) (x : HttpExchange) :
    ¬ (x.answered reason).Pending := by
  intro hp
  rcases (x.answered_finished reason).2 with h | h
  · exact absurd (h.symm.trans hp.1) nofun
  · exact absurd (h.symm.trans hp.2) nofun

/-- A teardown destroys a response mid-stream. -/
theorem HttpExchange.answered_answers (reason : ChannelClosedReason) (x : HttpExchange) : x.Answers (x.answered reason) := by
  refine ⟨x.answered_channelId reason, fun _ => (x.answered_finished reason).1, fun hs => ?_,
    fun hp => absurd hp (x.answered_not_pending reason)⟩
  unfold answered
  rw [if_neg (by simp [hs])]
  split <;> rfl

namespace Gateway

variable {Γ : Ctx} {e : Event}

/-- Every response goes on or is answered. -/
def AnswersKeep (s t : Gateway) : Prop :=
  ∀ ex x, s.net.exchanges.get ex = some x → ∃ x', t.net.exchanges.get ex = some x' ∧ x.Answers x'

theorem AnswersKeep.refl (s : Gateway) : s.AnswersKeep s := fun _ x hx => ⟨x, hx, .refl x⟩

theorem AnswersKeep.trans {s t u : Gateway} (h : s.AnswersKeep t) (h' : t.AnswersKeep u) : s.AnswersKeep u := by
  intro ex x hx
  obtain ⟨x', hx', ha⟩ := h ex x hx
  obtain ⟨x'', hx'', ha'⟩ := h' ex x' hx'
  exact ⟨x'', hx'', ha.trans ha'⟩

theorem AnswersKeep.of_pointwise {s t : Gateway} (h : s.net.exchanges.Pointwise HttpExchange.Answers t.net.exchanges) :
    s.AnswersKeep t :=
  fun _ _ hx => h.get_some hx

/-! ## Operations on exchanges -/

theorem modifyExchange_answers (ex : ExchangeId) {f : HttpExchange → HttpExchange} (s : Gateway)
    (hf : ∀ x : HttpExchange, x.Answers (f x)) :
    s.net.exchanges.Pointwise HttpExchange.Answers (s.onNet (Net.modifyExchange ex f)).net.exchanges :=
  .modify HttpExchange.Answers.refl fun x _ => hf x

theorem teardown_answers (reason : ChannelClosedReason) (channelId : String) (s : Gateway) :
    s.net.exchanges.Pointwise HttpExchange.Answers (s.teardownChannel reason channelId).net.exchanges := by
  rcases hc : s.channels.get channelId with _ | ch
  · rw [teardownChannel_of_none _ _ _ hc]
    exact .refl HttpExchange.Answers.refl _
  · intro ex
    rw [teardownChannel_exchange _ _ _ hc]
    rcases s.net.exchanges.get ex with _ | x
    · split <;> exact .none
    · split
      · exact .some (x.answered_answers reason)
      · exact .some (.refl x)

theorem attachLeg_answers (channelId : String) (role : ChannelRole) (s : Gateway) :
    s.net.exchanges.Pointwise HttpExchange.Answers (s.attachLeg channelId role).net.exchanges := by
  unfold attachLeg
  dsimp only
  split
  · exact .refl HttpExchange.Answers.refl _
  · unfold pairLegs
    split
    · rename_i ex b _ _ _
      simp only [onNet_net, onChannel, Net.resume_exchanges]
      unfold bridgeHttpChannel
      split
      · exact .refl HttpExchange.Answers.refl _
      · exact .modify HttpExchange.Answers.refl fun x _ => ⟨rfl, id, fun _ => rfl, id⟩
    · simp only [wireChannel, onNet_net, onChannel, Net.resume_exchanges]
      exact .refl HttpExchange.Answers.refl _
    · exact .refl HttpExchange.Answers.refl _

theorem responseDrain_answers (ex : ExchangeId) (s : Gateway) :
    s.net.exchanges.Pointwise HttpExchange.Answers (s.responseDrain ex).net.exchanges := by
  unfold responseDrain
  split
  · split
    · simp only [onNet_net, Net.resume_exchanges]
      exact .modify HttpExchange.Answers.refl fun x _ => ⟨rfl, id, fun _ => rfl, id⟩
    · exact .refl HttpExchange.Answers.refl _
  · exact .refl HttpExchange.Answers.refl _

theorem proxyViaChannel_answers {s : Gateway} (fresh : s.Fresh Γ) (request : ProxyRequest) (epoch : Nat)
    (backendPeer : PeerSession) : s.AnswersKeep (s.proxyViaChannel Γ request epoch backendPeer) := by
  unfold proxyViaChannel
  split
  · exact .refl s
  · intro ex x hx
    have hne : ex ≠ s.drawn := ne_of_lt (fresh.exchanges ex x hx).1
    refine ⟨x, ?_, .refl x⟩
    simp only [Net.sendToWs_exchanges]
    rw [InsertionMap.get_set_of_ne hne, hx]

/-- What the `close` event of its data socket leaves of a response before the teardown. -/
theorem finishResponse_exchange (channelId : String) (ex : ExchangeId) (x : HttpExchange) (s : Gateway) (ex' : ExchangeId) :
    (s.finishResponse channelId ex x).net.exchanges.get ex' =
      if ex' = ex then
        (s.net.exchanges.get ex).map (fun x0 =>
          { x0 with
            responseTimer := false
            idleTimer := false
            writableEnded := x0.writableEnded || x.metaReceived && !x.writableEnded && !x.destroyed })
      else s.net.exchanges.get ex' := by
  unfold finishResponse
  dsimp only
  by_cases hex : ex' = ex
  · subst hex
    rw [if_pos rfl]
    split
    · rename_i hm
      split
      · rename_i hp
        have hp' : x.writableEnded = false ∧ x.destroyed = false := by simpa using hp
        simp only [onChannel, onNet_net, Net.endResponse, Net.modifyExchange, Net.emit, InsertionMap.get_modify_self,
          Option.map_map, Function.comp_def, hm, hp'.1, hp'.2, Bool.not_false, Bool.and_true, Bool.or_true]
      · rename_i hp
        have hp' : (!x.writableEnded && !x.destroyed) = false := by simpa using hp
        simp only [onChannel, onNet_net, Net.modifyExchange, InsertionMap.get_modify_self, hm, Bool.true_and, hp',
          Bool.or_false]
    · rename_i hm
      have hm' : x.metaReceived = false := by simpa using hm
      simp only [onNet_net, Net.modifyExchange, InsertionMap.get_modify_self, hm', Bool.false_and, Bool.or_false]
  · rw [if_neg hex]
    split
    · split
      · simp only [onChannel, onNet_net, Net.endResponse, Net.modifyExchange, Net.emit, InsertionMap.get_modify_of_ne hex]
      · simp only [onChannel, onNet_net, Net.modifyExchange, InsertionMap.get_modify_of_ne hex]
    · simp only [onNet_net, Net.modifyExchange, InsertionMap.get_modify_of_ne hex]

/-- A response that was finished before loses its channel's hold on it. -/
theorem finishResponse_channel (channelId : String) (ex : ExchangeId) (x : HttpExchange) (s : Gateway) (id : String) :
    (s.finishResponse channelId ex x).channels.get id =
      if id = channelId ∧ x.metaReceived = true then (s.channels.get id).map (fun ch => { ch with internalRes := none })
      else s.channels.get id := by
  unfold finishResponse
  dsimp only
  split
  · rename_i hm
    have hchannels (u : Gateway) (hu : u.channels = s.channels) :
        (u.onChannel channelId (fun ch => { ch with internalRes := none })).channels.get id =
          if id = channelId then (s.channels.get id).map (fun ch => { ch with internalRes := none })
          else s.channels.get id := by
      rw [onChannel, hu, InsertionMap.get_modify]
    simp only [hm, and_true]
    split
    · exact hchannels _ rfl
    · exact hchannels _ rfl
  · rename_i hm
    simp [hm]

/-! ## Pending responses -/

/-- The live channel of every pending response owes it an answer. -/
structure OwesAnswers (Γ : Ctx) (s : Gateway) : Prop where
  named : ∀ ex x, s.net.exchanges.get ex = some x → x.channelId = Γ.channelIds.draw ex
  owed : ∀ ex x, s.net.exchanges.get ex = some x → x.Pending →
    ∃ ch, s.channels.get x.channelId = some ch ∧ ch.internalRes = some ex

theorem OwesAnswers.init (storage : Storage) : (Gateway.init storage).OwesAnswers Γ :=
  ⟨fun _ _ hx => (nomatch hx), fun _ _ hx => (nomatch hx)⟩

/-- No new exchange, and the channels of pending ones stay. -/
theorem OwesAnswers.keeps {s t : Gateway} (h : s.OwesAnswers Γ)
    (exchanges : s.net.exchanges.Pointwise HttpExchange.Answers t.net.exchanges)
    (channels : ∀ ex x ch, t.net.exchanges.get ex = some x → x.Pending → s.channels.get x.channelId = some ch →
      ch.internalRes = some ex → ∃ ch', t.channels.get x.channelId = some ch' ∧ ch'.internalRes = some ex) :
    t.OwesAnswers Γ := by
  refine ⟨fun ex x hx => ?_, fun ex x hx hp => ?_⟩
  · obtain ⟨x0, hx0, ha⟩ := exchanges.some_get hx
    exact ha.channelId.trans (h.named ex x0 hx0)
  · obtain ⟨x0, hx0, ha⟩ := exchanges.some_get hx
    obtain ⟨ch, hc, hint⟩ := h.owed ex x0 hx0 (ha.pending hp)
    exact channels ex x ch hx hp (ha.channelId ▸ hc) hint

theorem OwesAnswers.of_channels {s t : Gateway} (h : s.OwesAnswers Γ)
    (exchanges : s.net.exchanges.Pointwise HttpExchange.Answers t.net.exchanges) (channels : t.channels = s.channels) :
    t.OwesAnswers Γ :=
  h.keeps exchanges fun _ _ ch _ _ hc hint => ⟨ch, channels ▸ hc, hint⟩

/-- A teardown answers the response its channel owes. -/
theorem OwesAnswers.teardown {s : Gateway} (h : s.OwesAnswers Γ) (reason : ChannelClosedReason) (channelId : String) :
    (s.teardownChannel reason channelId).OwesAnswers Γ := by
  rcases hc0 : s.channels.get channelId with _ | ch0
  · rw [teardownChannel_of_none _ _ _ hc0]
    exact h
  · refine h.keeps (teardown_answers reason channelId s) fun ex x ch hx hp hc hint => ⟨ch, ?_, hint⟩
    rw [teardownChannel_channel, if_neg]
    · exact hc
    · intro hid
      rw [teardownChannel_exchange _ _ _ hc0, if_pos] at hx
      · obtain ⟨x0, -, rfl⟩ := Option.map_eq_some_iff.mp hx
        exact x0.answered_not_pending reason hp
      · rw [hid, hc0, Option.some.injEq] at hc
        rw [hc, hint]

/-- The `close` event of a data socket ends the response, or leaves it to the teardown. -/
theorem OwesAnswers.bridgeClose {s : Gateway} (h : s.OwesAnswers Γ) {channelId : String} {ex : ExchangeId}
    (hid : ∀ x, s.net.exchanges.get ex = some x → x.channelId = channelId) : (s.bridgeClose channelId ex).OwesAnswers Γ := by
  unfold Gateway.bridgeClose
  split
  · exact h
  · rename_i x0 hx0
    refine OwesAnswers.teardown ?_ _ _
    have hback (ex' : ExchangeId) (x : HttpExchange)
        (hx : (s.finishResponse channelId ex x0).net.exchanges.get ex' = some x) :
        ∃ x1, s.net.exchanges.get ex' = some x1 ∧ x.channelId = x1.channelId ∧ (x.Pending → x1.Pending) ∧
          (ex' = ex → x.Pending → x0.metaReceived = false) := by
      rw [finishResponse_exchange] at hx
      split at hx
      · rename_i he
        subst he
        rw [hx0, Option.map_some, Option.some.injEq] at hx
        subst hx
        refine ⟨x0, hx0, rfl, fun hp => ⟨?_, hp.2⟩, fun _ hp => ?_⟩
        · have hw := hp.1
          simp only [Bool.or_eq_false_iff] at hw
          exact hw.1
        · have hw := hp.1
          have hd : x0.destroyed = false := hp.2
          simp only [Bool.or_eq_false_iff, hd, Bool.not_false, Bool.and_true] at hw
          simpa [hw.1] using hw.2
      · rename_i hne
        exact ⟨x, hx, rfl, id, fun he => absurd he hne⟩
    refine ⟨fun ex' x hx => ?_, fun ex' x hx hp => ?_⟩
    · obtain ⟨x1, hx1, he, -⟩ := hback ex' x hx
      exact he.trans (h.named ex' x1 hx1)
    · obtain ⟨x1, hx1, he, hpend, hmeta⟩ := hback ex' x hx
      obtain ⟨ch, hc, hint⟩ := h.owed ex' x1 hx1 (hpend hp)
      refine ⟨ch, ?_, hint⟩
      rw [finishResponse_channel, if_neg]
      · exact he ▸ hc
      · rintro ⟨heq, hm⟩
        -- Exchanges have channels of their own, so this is the response that was just ended.
        have hsame : ex' = ex := by
          refine Γ.channelIds.injective ?_
          rw [← h.named ex' x1 hx1, ← h.named ex x0 hx0, ← he, heq, hid x0 hx0]
        rw [hmeta hsame hp] at hm
        cases hm

theorem OwesAnswers.responseClose {s : Gateway} (h : s.OwesAnswers Γ) (ex : ExchangeId) : (s.responseClose ex).OwesAnswers Γ := by
  unfold Gateway.responseClose
  split
  · exact h
  · split
    · exact h
    · refine OwesAnswers.teardown (h.of_channels (modifyExchange_answers ex s fun x => ?_) rfl) _ _
      exact ⟨rfl, id, fun _ => rfl, fun hp => absurd hp.2 (by simp)⟩

theorem OwesAnswers.openChannel {s : Gateway} (h : s.OwesAnswers Γ) (fresh : s.Fresh Γ) (peer backendPeer : PeerSession)
    (lease : BackendLease) (target : String) (kind : Option String) :
    (s.openChannel Γ peer backendPeer lease target kind).OwesAnswers Γ := by
  refine h.keeps ?_ fun ex x ch _ _ hc hint => ⟨ch, ?_, hint⟩
  · have he : (s.openChannel Γ peer backendPeer lease target kind).net.exchanges = s.net.exchanges := by
      simp [Gateway.openChannel]
    rw [he]
    exact .refl HttpExchange.Answers.refl _
  · refine (InsertionMap.get_set_of_ne fun hid => ?_).trans hc
    rw [hid, fresh.channel] at hc
    cases hc

theorem OwesAnswers.proxyViaChannel {s : Gateway} (h : s.OwesAnswers Γ) (fresh : s.Fresh Γ) (request : ProxyRequest) (epoch : Nat)
    (backendPeer : PeerSession) : (s.proxyViaChannel Γ request epoch backendPeer).OwesAnswers Γ := by
  unfold Gateway.proxyViaChannel
  split
  · exact h.of_channels (.refl HttpExchange.Answers.refl _) rfl
  · refine ⟨fun ex x hx => ?_, fun ex x hx hp => ?_⟩
    · simp only [Net.sendToWs_exchanges] at hx
      rcases InsertionMap.get_set_eq_some.mp hx with ⟨rfl, rfl⟩ | ⟨-, hx⟩
      · rfl
      · exact h.named ex x hx
    · simp only [Net.sendToWs_exchanges] at hx
      rcases InsertionMap.get_set_eq_some.mp hx with ⟨rfl, rfl⟩ | ⟨-, hx⟩
      · exact ⟨_, InsertionMap.get_set_self _ _ _, rfl⟩
      · obtain ⟨ch, hc, hint⟩ := h.owed ex x hx hp
        refine ⟨ch, (InsertionMap.get_set_of_ne fun hid => ?_).trans hc, hint⟩
        rw [hid, fresh.channel] at hc
        cases hc

theorem OwesAnswers.dial {s : Gateway} (h : s.OwesAnswers Γ) (channelId : String) (ticket : Option String) (handshakeOk : Bool) :
    (s.handleChannelUpgrade channelId ticket handshakeOk).OwesAnswers Γ := by
  rcases handleChannelUpgrade_cases s channelId ticket handshakeOk with he | ⟨found, ch0, -, -, hc0, -, he⟩
  · rw [he]
    exact h.of_channels (.refl HttpExchange.Answers.refl _) rfl
  · rw [he]
    refine h.keeps (attachLeg_answers channelId found.role (s.consumeTicket (ticket.getD ""))) fun ex x ch _ _ hc hint => ?_
    rw [attachLeg_channel channelId found.role (s.consumeTicket (ticket.getD "")) hc0]
    split
    · rename_i hid
      rw [hid] at hc
      obtain rfl : ch0 = ch := Option.some.inj (hc0.symm.trans hc)
      exact ⟨_, rfl, ((ch0.dialed_keeps _ _).2.2.2.2.2.2.2).trans hint⟩
    · exact ⟨ch, hc, hint⟩

/-- Every operation on the data plane keeps it that way. -/
theorem DataStep.owesAnswers {s t : Gateway} (h : DataStep Γ e s t) (hL : s.Legs) (hs : s.OwesAnswers Γ) : t.OwesAnswers Γ := by
  cases h with
  | close h =>
    cases h with
    | turn h => exact hs.of_channels (h.net.exchanges.mono fun _ _ hx => hx.answers) h.channels
    | teardown reason channelId => exact hs.teardown _ _
  | dropTickets keep => exact hs.of_channels (.refl HttpExchange.Answers.refl _) rfl
  | openChannel fresh peer backendPeer lease target kind => exact hs.openChannel fresh _ _ _ _ _
  | proxyViaChannel fresh hr epoch backendPeer => exact hs.proxyViaChannel fresh _ _ _
  | connect fresh ip hact =>
    refine hs.of_channels ?_ (controlConnection_tables s ip).1
    rw [controlConnection_exchanges]
    exact .refl HttpExchange.Answers.refl _
  | dial fresh channelId ticket handshakeOk hact => exact hs.dial _ _ _
  | responseHead hx hm meta_ =>
    rename_i ex x
    have hspeaks := responseHead_speaks ex x.request meta_ s
    exact hs.of_channels (hspeaks.exchanges.mono fun _ _ hx => hx.answers) hspeaks.channels
  | responseBody hx hm data =>
    rename_i ex _
    have hspeaks := callResponse_speaks ex s (.write data)
    exact hs.of_channels (hspeaks.exchanges.mono fun _ _ hx => hx.answers) hspeaks.channels
  | bridgeClose hk hl hact =>
    refine hs.bridgeClose fun x hx => ?_
    obtain ⟨x', hx', hid, -⟩ := hL.bridged _ _ _ _ hk hl
    exact (Option.some.inj (hx.symm.trans hx')) ▸ hid
  | responseClose ex => exact hs.responseClose _
  | responseDrain ex => exact hs.of_channels (responseDrain_answers ex s) (responseDrain_turns hL ex).channels
  | clock hact => exact hs.of_channels (.refl HttpExchange.Answers.refl _) rfl
  | relay h hact => exact hs.of_channels (h.exchanges ▸ .refl HttpExchange.Answers.refl _) h.channels

theorem CloseStep.answersKeep {s t : Gateway} (h : CloseStep s t) : s.AnswersKeep t := by
  cases h with
  | turn h => exact .of_pointwise (h.net.exchanges.mono fun _ _ hx => hx.answers)
  | teardown reason channelId => exact .of_pointwise (teardown_answers _ _ _)

theorem Closes.answersKeep {s t : Gateway} (h : s.Closes t) : s.AnswersKeep t := by
  induction h with
  | refl => exact .refl s
  | tail _ hstep ih => exact ih.trans (hstep.answersKeep)

/-- Every operation but the `close` event of a data socket lets responses go on, or answers them. -/
theorem DataStep.answersKeep {s t : Gateway} (h : DataStep Γ e s t) (he : ∀ ws, e ≠ .socketClosed ws) : s.AnswersKeep t := by
  cases h with
  | close h => exact h.answersKeep
  | dropTickets keep => exact .refl s
  | openChannel fresh peer backendPeer lease target kind =>
    refine .of_pointwise ?_
    have hx : (s.openChannel Γ peer backendPeer lease target kind).net.exchanges = s.net.exchanges := by
      simp [Gateway.openChannel]
    rw [hx]
    exact .refl HttpExchange.Answers.refl _
  | proxyViaChannel fresh hr epoch backendPeer => exact proxyViaChannel_answers fresh _ _ _
  | connect fresh ip hact =>
    refine .of_pointwise ?_
    rw [controlConnection_exchanges]
    exact .refl HttpExchange.Answers.refl _
  | dial fresh channelId ticket handshakeOk hact =>
    rcases handleChannelUpgrade_cases s channelId ticket handshakeOk with hd | ⟨found, ch0, -, -, -, -, hd⟩
    · rw [hd]
      exact .refl s
    · rw [hd]
      exact .of_pointwise (attachLeg_answers channelId found.role (s.consumeTicket (ticket.getD "")))
  | responseHead hx hm meta_ =>
    exact .of_pointwise ((responseHead_speaks _ _ meta_ s).exchanges.mono fun _ _ hx => hx.answers)
  | responseBody hx hm data =>
    exact .of_pointwise ((callResponse_speaks _ s (.write data)).exchanges.mono fun _ _ hx => hx.answers)
  | bridgeClose hk hl hact => exact absurd hact (he _)
  | responseClose ex =>
    unfold Gateway.responseClose
    split
    · exact .refl s
    · split
      · exact .refl s
      · refine AnswersKeep.trans (.of_pointwise (modifyExchange_answers ex s fun x => ?_)) (.of_pointwise (teardown_answers _ _ _))
        exact ⟨rfl, id, fun _ => rfl, fun hp => absurd hp.2 (by simp)⟩
  | responseDrain ex => exact .of_pointwise (responseDrain_answers ex s)
  | clock hact => exact .refl s
  | relay h hact => exact .of_pointwise (h.exchanges ▸ .refl HttpExchange.Answers.refl _)

end Gateway

/-- After every run the channel of every pending response is live and owes it an answer. -/
theorem owesAnswers_run {Γ : Ctx} {storage : Storage} (es : List Event) : ((gateway Γ storage).run es).OwesAnswers Γ := by
  have hall : ((gateway Γ storage).run es).Admission ∧ ((gateway Γ storage).run es).Legs ∧
      ((gateway Γ storage).run es).OwesAnswers Γ := by
    refine data_invariant (I := fun s => s.Admission ∧ s.Legs ∧ s.OwesAnswers Γ)
      ⟨.init storage, .init storage, .init storage⟩
      (fun s t h hs => ⟨h.admission hs.1, h.legs hs.1 hs.2.1, h.owesAnswers hs.2.1 hs.2.2⟩) (fun s ws p hs => ?_)
      (fun s n hs => ?_) es
    · exact ⟨hs.1.of_core (fun _ => rfl) (fun _ _ h => h), hs.2.1.modifyConn ws _,
        hs.2.2.of_channels (.refl HttpExchange.Answers.refl _) rfl⟩
    · exact ⟨hs.1.of_core (fun _ => rfl) (fun _ _ h => h),
        hs.2.1.keeps (fun _ => rfl) (.refl WsSocket.Keeps.refl _) (.refl HttpExchange.SameBridge.refl _),
        hs.2.2.of_channels (.refl HttpExchange.Answers.refl _) rfl⟩
  exact hall.2.2

end ZclaudiaGateway
