import ZclaudiaGateway.Lemmas.Admission

/-!
# The life of a channel

A channel is opened by one event, gets its legs one dial at a time, and is torn down; no other operation changes its legs, its
tickets or whether it is piped.
-/

namespace ZclaudiaGateway

namespace Gateway

variable {Γ : Ctx} {e : Event} {s t u : Gateway}

/-- The event dials a leg that is not attached, with the unexpired ticket that was issued for it. -/
def DialsLeg (Γ : Ctx) (s : Gateway) (e : Event) (id : String) (role : ChannelRole) : Prop :=
  ∃ token issued ch, e.Dials Γ id (some token) ∧ s.channelTickets.get token = some issued ∧ issued.channelId = id ∧
    issued.role = role ∧ s.now ≤ issued.expiresAt ∧ s.channels.get id = some ch ∧ token ∈ ch.ticketTokens ∧ ch.leg role = none

/-! ## What one operation does to a channel -/

/-- The channel is one of before with the same legs, or one that the event at hand opens. -/
def Comes (Γ : Ctx) (s : Gateway) (id : String) (ch' : ChannelRecord) : Prop :=
  (∃ ch, s.channels.get id = some ch ∧ ch'.ticketTokens = ch.ticketTokens ∧ ch'.piped = ch.piped ∧
      ∀ role, ch'.leg role = ch.leg role) ∨
    id = Γ.channelIds.draw s.drawn ∧ (∀ role, ch'.leg role = none) ∧
      ∀ token ∈ ch'.ticketTokens, ∃ i < 2, token = Γ.tickets.draw (2 * s.drawn + i)

/-- The channel has one more leg, which the event dials. -/
def Dialed (Γ : Ctx) (s : Gateway) (e : Event) (id : String) (ch' : ChannelRecord) : Prop :=
  ∃ ch role, s.DialsLeg Γ e id role ∧ s.channels.get id = some ch ∧ ch'.ticketTokens = ch.ticketTokens ∧
    ∀ r, ch'.leg r = if r = role then some s.drawn else ch.leg r

theorem Comes.of_core {id : String} {ch' : ChannelRecord} (hc : t.channels.get id = some ch')
    (channels : (t.channels.get id).map ChannelRecord.core = (s.channels.get id).map ChannelRecord.core) : s.Comes Γ id ch' := by
  rw [hc, Option.map_some] at channels
  obtain ⟨ch, hch, he⟩ := Option.map_eq_some_iff.mp channels.symm
  refine Or.inl ⟨ch, hch, (congrArg ChannelRecord.ticketTokens he).symm, (congrArg ChannelRecord.piped he).symm, fun role => ?_⟩
  cases role with
  | client => exact (congrArg (fun ch => ch.leg .client) he).symm
  | backend => exact (congrArg (fun ch => ch.leg .backend) he).symm

theorem Comes.of_eq {id : String} {ch' : ChannelRecord} (hc : t.channels.get id = some ch') (channels : t.channels = s.channels) :
    s.Comes Γ id ch' :=
  .of_core hc (by rw [channels])

theorem Comes.teardown {id : String} {ch' : ChannelRecord} {reason : ChannelClosedReason} {channelId : String}
    (hc : (t.teardownChannel reason channelId).channels.get id = some ch')
    (channels : (t.channels.get id).map ChannelRecord.core = (s.channels.get id).map ChannelRecord.core) : s.Comes Γ id ch' := by
  rw [teardownChannel_channel] at hc
  split at hc
  · cases hc
  · exact .of_core hc channels

/-- A channel of before and one that the event opens are so across several operations of the event. -/
theorem Comes.before {id : String} {ch' : ChannelRecord} (h : t.Comes Γ id ch') (hdrawn : t.drawn = s.drawn)
    (hs : ∀ ch, t.channels.get id = some ch → s.Comes Γ id ch) : s.Comes Γ id ch' := by
  rcases h with ⟨ch, hc, htokens, hpiped, hlegs⟩ | ⟨hid, hlegs, htokens⟩
  · rcases hs ch hc with ⟨ch0, hc0, htokens0, hpiped0, hlegs0⟩ | ⟨hid, hlegs0, htokens0⟩
    · exact Or.inl ⟨ch0, hc0, htokens.trans htokens0, hpiped.trans hpiped0, fun role => (hlegs role).trans (hlegs0 role)⟩
    · exact Or.inr ⟨hid, fun role => (hlegs role).trans (hlegs0 role), by rw [htokens]; exact htokens0⟩
  · exact Or.inr (hdrawn ▸ ⟨hid, hlegs, htokens⟩)

theorem dial_channel (hA : s.Admission) (fresh : s.Fresh Γ) {channelId : String} {ticket : Option String} {handshakeOk : Bool}
    (hact : e.Dials Γ channelId ticket) {id : String} {ch' : ChannelRecord}
    (hc : (s.handleChannelUpgrade channelId ticket handshakeOk).channels.get id = some ch') :
    s.Comes Γ id ch' ∨ s.Dialed Γ e id ch' := by
  rcases handleChannelUpgrade_cases s channelId ticket handshakeOk with he | ⟨issued, ch, hissued, hid, hch, hnow, he⟩
  · rw [he] at hc
    exact Or.inl (.of_eq (t := (s.consumeTicket (ticket.getD "")).onNet (Net.emit .refused)) hc rfl)
  · have hget := attachLeg_channel channelId issued.role (s.consumeTicket (ticket.getD ""))
      (show (s.consumeTicket _).channels.get channelId = some ch from hch) id
    rw [he, hget] at hc
    split at hc
    · rename_i hidc
      subst hidc
      obtain rfl := Option.some.inj hc
      obtain ⟨token, rfl⟩ : ∃ token, ticket = some token := by
        rcases ticket with _ | token
        · obtain ⟨m, -, hm⟩ := fresh.tickets _ _ hissued
          exact absurd hm.symm (Γ.tickets.nonempty m)
        · exact ⟨token, rfl⟩
      obtain ⟨ch0, hch0, htoken, hleg, -⟩ := hA.ticket _ _ hissued
      rw [hid, hch, Option.some_inj] at hch0
      subst hch0
      exact Or.inr ⟨ch, issued.role, ⟨token, issued, ch, hact, hissued, hid, rfl, hnow, hch, htoken, hleg⟩, hch,
        (ch.dialed_keeps _ _).2.2.2.2.2.1, ch.dialed_leg _ _⟩
    · exact Or.inl (.of_eq (t := s) hc rfl)

theorem DataStep.channel (h : DataStep Γ e s t) (hA : s.Admission) {id : String} {ch' : ChannelRecord}
    (hc : t.channels.get id = some ch') : s.Comes Γ id ch' ∨ s.Dialed Γ e id ch' := by
  cases h with
  | close h =>
    cases h with
    | turn h => exact Or.inl (.of_eq hc h.channels)
    | teardown reason channelId => exact Or.inl (.teardown hc rfl)
  | dropTickets keep => exact Or.inl (.of_eq hc rfl)
  | openChannel fresh peer backendPeer lease target kind =>
    rcases InsertionMap.get_set_eq_some.mp hc with ⟨rfl, rfl⟩ | ⟨-, hc⟩
    · refine Or.inl (Or.inr ⟨rfl, fun role => by cases role <;> rfl, fun token ht => ?_⟩)
      rcases List.mem_cons.mp ht with rfl | ht
      · exact ⟨0, by omega, rfl⟩
      · exact ⟨1, by omega, List.mem_singleton.mp ht⟩
    · exact Or.inl (.of_eq (t := s) hc rfl)
  | proxyViaChannel fresh hr epoch backendPeer =>
    unfold Gateway.proxyViaChannel at hc
    split at hc
    · exact Or.inl (.of_eq (t := s) hc rfl)
    · rcases InsertionMap.get_set_eq_some.mp hc with ⟨rfl, rfl⟩ | ⟨-, hc⟩
      · exact Or.inl (Or.inr ⟨rfl, fun role => by cases role <;> rfl, fun token ht => ⟨1, by omega, List.mem_singleton.mp ht⟩⟩)
      · exact Or.inl (.of_eq (t := s) hc rfl)
  | connect fresh ip hact => exact Or.inl (.of_eq hc (controlConnection_tables s ip).1)
  | dial fresh channelId ticket handshakeOk hact => exact dial_channel hA fresh hact hc
  | responseHead hx hm meta_ => exact Or.inl (.of_eq hc (responseHead_speaks _ _ _ _).channels)
  | responseBody hx hm data => exact Or.inl (.of_eq hc (callResponse_speaks _ _ _).channels)
  | bridgeClose hk hl hact =>
    unfold Gateway.bridgeClose at hc
    split at hc
    · exact Or.inl (.of_eq (t := s) hc rfl)
    · exact Or.inl (.teardown hc ((finishResponse_tables _ _ _ _).1 id))
  | responseClose ex =>
    unfold Gateway.responseClose at hc
    split at hc
    · exact Or.inl (.of_eq (t := s) hc rfl)
    · split at hc
      · exact Or.inl (.of_eq (t := s) hc rfl)
      · exact Or.inl (.teardown hc rfl)
  | responseDrain ex =>
    unfold Gateway.responseDrain at hc
    split at hc
    · split at hc
      · exact Or.inl (.of_eq (t := s) hc rfl)
      · exact Or.inl (.of_eq (t := s) hc rfl)
    · exact Or.inl (.of_eq (t := s) hc rfl)
  | clock hact => exact Or.inl (.of_eq (t := s) hc rfl)
  | relay h hact => exact Or.inl (.of_eq hc h.channels)

/-! ## What an event does to a channel -/

/-- An event that dials no channel changes none but to open it or to tear it down. -/
theorem handle_comes (hA : s.Admission) (fresh : s.Fresh Γ) (hno : ∀ channelId ticket, ¬ e.Dials Γ channelId ticket)
    {id : String} {ch' : ChannelRecord} (hc : (s.handle Γ e).channels.get id = some ch') : s.Comes Γ id ch' := by
  have hmono : s.FreshUpTo Γ (s.drawn + 1) := FreshUpTo.mono fresh (Nat.le_succ _)
  have hall := handle_preserves (Γ := Γ)
    (I := fun t => t.Admission ∧ t.FreshUpTo Γ (s.drawn + 1) ∧ t.drawn = s.drawn ∧
      ∀ ch, t.channels.get id = some ch → s.Comes Γ id ch) e
    (fun t u hstep ⟨hA, hfresh, hdrawn, hcomes⟩ => by
      obtain ⟨hfresh', hdrawn'⟩ := hstep.fresh (hdrawn ▸ Nat.lt_succ_self _) hfresh
      refine ⟨hstep.admission hA, hfresh', hdrawn'.trans hdrawn, fun ch hch => ?_⟩
      rcases hstep.channel hA hch with h | ⟨-, -, ⟨token, -, -, hdials, -⟩, -⟩
      · exact h.before hdrawn hcomes
      · exact absurd hdials (hno id _))
    (fun t ws p ht => ⟨ht.1.of_core (fun _ => rfl) (fun _ _ h => h), ht.2.1.authenticate ws _, ht.2.2⟩)
    fresh ⟨hA, hmono, rfl, fun ch hch => .of_eq hch rfl⟩
  exact hall.2.2.2 ch' hc

theorem handle_channel (hA : s.Admission) (fresh : s.Fresh Γ) {id : String} {ch' : ChannelRecord}
    (hc : (s.handle Γ e).channels.get id = some ch') : s.Comes Γ id ch' ∨ s.Dialed Γ e id ch' := by
  by_cases hdials : ∃ channelId ticket, e.Dials Γ channelId ticket
  · obtain ⟨_, _, ip, target, handshakeOk, _, rfl, -⟩ := hdials
    exact (upgrade_step ip target handshakeOk fresh).channel hA hc
  · exact Or.inl (handle_comes hA fresh (fun channelId ticket h => hdials ⟨channelId, ticket, h⟩) hc)

theorem step_channel (hA : s.Admission) (fresh : s.Fresh Γ) {id : String} {ch' : ChannelRecord}
    (hc : (s.step Γ e).channels.get id = some ch') : s.Comes Γ id ch' ∨ s.Dialed Γ e id ch' := by
  rcases hrun : s.uncaught with _ | error
  · rw [step_running hrun] at hc
    exact handle_channel (s := s.quiet) (hA.turns (quiet_turns s)) (fresh.turns (quiet_turns s)) hc
  · rw [step_stopped hrun] at hc
    exact Or.inl (.of_eq (t := s.quiet) hc rfl)

end Gateway

end ZclaudiaGateway
