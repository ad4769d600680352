import ZclaudiaGateway.Lemmas.Answers
import ZclaudiaGateway.Lemmas.ChannelLife
import ZclaudiaGateway.Lemmas.RelayRun
import ZclaudiaGateway.Lemmas.Sessions

/-!
# Admission to channels

A channel lives within one epoch of its backend, its tickets each admit one socket to one leg, and it waits for its legs no
longer than its pairing timer. A channel that is gone stays gone: its tickets admit nobody and nothing is relayed on its legs.
-/

namespace ZclaudiaGateway

namespace Gateway

variable {Γ : Ctx} {e : Event} {s t u : Gateway}

/-! ## Fenced channels -/

/-- Channels agree with leases, tickets with channels, and a channel is piped once it has all its legs. -/
structure Fenced (s : Gateway) : Prop where
  epoch : ∀ id ch, s.channels.get id = some ch → ∃ lease, s.state.leases.get ch.backendId = some lease ∧
    lease.epoch = ch.epoch ∧ lease.peerSessionId = ch.backendPeerSessionId
  ticket : ∀ token ticket, s.channelTickets.get token = some ticket → ∃ ch, s.channels.get ticket.channelId = some ch ∧
    token ∈ ch.ticketTokens ∧ ch.leg ticket.role = none
  piped : ∀ id ch, s.channels.get id = some ch → (ch.piped = true ↔ ch.ready = true)
  pairing : ∀ id ch, s.channels.get id = some ch → ch.piped = false → ch.pairingTimeout = true

/-- A leg has the socket it had before the event, or the event dials it. -/
def AttachesByTicket (Γ : Ctx) (s : Gateway) (e : Event) : Prop :=
  ∀ id ch' role ws, (s.step Γ e).channels.get id = some ch' → ch'.leg role = some ws →
    (∃ ch, s.channels.get id = some ch ∧ ch.leg role = some ws) ∨ s.DialsLeg Γ e id role

/-- Nothing is left of a channel: none of its tickets is outstanding, nothing that still comes in on its legs or from its
request goes out, and its response is ended or cut off. -/
structure Gone (Γ : Ctx) (s : Gateway) (id : String) (tokens : List String) : Prop where
  channel : s.channels.get id = none
  tickets : ∀ token ∈ tokens, s.channelTickets.get token = none
  relay : ∀ w k leg, s.net.sockets.get w = some k → k.listener = .relay leg → leg.channelId = id →
    ∀ frame buffered writable, (s.step Γ (.message w frame buffered writable)).net.outbox = []
  request : ∀ ex x, s.net.exchanges.get ex = some x → x.channelId = id →
    ∀ chunk buffered, (s.step Γ (.requestData ex chunk buffered)).net.outbox = [] ∧
      (s.step Γ (.requestEnd ex)).net.outbox = []
  response : ∀ ex x, s.net.exchanges.get ex = some x → x.channelId = id → ¬ x.Pending

/-! ## One event -/

/-- A leg is attached by a dial with its ticket. -/
theorem step_attaches (hA : s.Admission) (fresh : s.Fresh Γ) (e : Event) : s.AttachesByTicket Γ e := by
  intro id ch' role ws hc hleg
  rcases step_channel hA fresh hc with (⟨ch, hch, -, -, hlegs⟩ | ⟨-, hlegs, -⟩) | ⟨ch, role', hdials, hch, -, hlegs⟩
  · exact Or.inl ⟨ch, hch, (hlegs role).symm.trans hleg⟩
  · exact absurd ((hlegs role).symm.trans hleg) nofun
  · rw [hlegs] at hleg
    split at hleg
    · rename_i hrole
      exact Or.inr (hrole ▸ hdials)
    · exact Or.inl ⟨ch, hch, hleg⟩

/-! ## What a run does to a channel -/

/-- The channels and their tickets are those of the events that opened them. -/
def Issued (Γ : Ctx) (s : Gateway) : Prop :=
  ∀ id ch, s.channels.get id = some ch → ∃ m < s.drawn, id = Γ.channelIds.draw m ∧
    ∀ token ∈ ch.ticketTokens, ∃ i < 2, token = Γ.tickets.draw (2 * m + i)

theorem Issued.step (h : s.Issued Γ) (hA : s.Admission) (fresh : s.Fresh Γ) (e : Event) : (s.step Γ e).Issued Γ := by
  rcases hrun : s.uncaught with _ | error
  · have hdrawn : (s.step Γ e).drawn = s.drawn + 1 := by
      rw [step_running hrun]
      exact congrArg (· + 1) (handle_fresh (s := s.quiet) e (fresh.turns (quiet_turns s))).2
    intro id ch' hc
    rw [hdrawn]
    rcases step_channel hA fresh hc with (⟨ch, hch, htokens, -⟩ | ⟨hid, -, htokens⟩) | ⟨ch, role, -, hch, htokens, -⟩
    · obtain ⟨m, hm, hid, hdraw⟩ := h id ch hch
      exact ⟨m, by omega, hid, by rw [htokens]; exact hdraw⟩
    · exact ⟨s.drawn, by omega, hid, htokens⟩
    · obtain ⟨m, hm, hid, hdraw⟩ := h id ch hch
      exact ⟨m, by omega, hid, by rw [htokens]; exact hdraw⟩
  · rw [step_stopped hrun]
    exact h

/-- A ticket that is outstanding is one of a live channel, so it is none of a channel that is gone. -/
theorem Issued.tickets_of_gone (h : s.Issued Γ) (hA : s.Admission) {m : Nat} (hgone : s.channels.get (Γ.channelIds.draw m) = none)
    {token : String} (htoken : ∃ i < 2, token = Γ.tickets.draw (2 * m + i)) : s.channelTickets.get token = none := by
  rcases ht : s.channelTickets.get token with _ | ticket
  · rfl
  · obtain ⟨ch, hch, hmem, -⟩ := hA.ticket token ticket ht
    obtain ⟨n, -, hid, hdraw⟩ := h _ ch hch
    obtain ⟨i, hi, rfl⟩ := htoken
    obtain ⟨j, hj, heq⟩ := hdraw _ hmem
    have hmn : 2 * m + i = 2 * n + j := Γ.tickets.injective heq
    obtain rfl : m = n := by omega
    rw [hid, hgone] at hch
    cases hch

/-- A channel of before that is gone stays gone, and one that is still there has the tickets it had and the sockets it had. -/
structure Outlasts (Γ : Ctx) (s t : Gateway) : Prop where
  drawn : s.drawn ≤ t.drawn
  gone : ∀ m < s.drawn, s.channels.get (Γ.channelIds.draw m) = none → t.channels.get (Γ.channelIds.draw m) = none
  kept : ∀ m < s.drawn, ∀ ch ch', s.channels.get (Γ.channelIds.draw m) = some ch →
    t.channels.get (Γ.channelIds.draw m) = some ch' →
      ch'.ticketTokens = ch.ticketTokens ∧ ∀ role ws, ch.leg role = some ws → ch'.leg role = some ws

theorem Outlasts.refl (s : Gateway) : s.Outlasts Γ s := by
  refine ⟨le_rfl, fun m _ h => h, fun m _ ch ch' hc hc' => ?_⟩
  obtain rfl := Option.some.inj (hc.symm.trans hc')
  exact ⟨rfl, fun _ _ h => h⟩

theorem Outlasts.trans (h : s.Outlasts Γ t) (h' : t.Outlasts Γ u) : s.Outlasts Γ u := by
  refine ⟨h.drawn.trans h'.drawn, fun m hm hn => h'.gone m (hm.trans_le h.drawn) (h.gone m hm hn),
    fun m hm ch ch2 hc hc2 => ?_⟩
  have hm' := hm.trans_le h.drawn
  rcases hc1 : t.channels.get (Γ.channelIds.draw m) with _ | ch1
  · rw [h'.gone m hm' hc1] at hc2
    cases hc2
  · obtain ⟨htokens, hlegs⟩ := h.kept m hm ch ch1 hc hc1
    obtain ⟨htokens', hlegs'⟩ := h'.kept m hm' ch1 ch2 hc1 hc2
    exact ⟨htokens'.trans htokens, fun role ws hl => hlegs' role ws (hlegs role ws hl)⟩

theorem step_outlasts (hA : s.Admission) (fresh : s.Fresh Γ) (hdrawn : s.drawn ≤ (s.step Γ e).drawn) :
    s.Outlasts Γ (s.step Γ e) := by
  have hnew (m : Nat) (hm : m < s.drawn) (he : Γ.channelIds.draw m = Γ.channelIds.draw s.drawn) : False := by
    have := Γ.channelIds.injective he
    omega
  refine ⟨hdrawn, fun m hm hn => ?_, fun m hm ch ch' hc hc' => ?_⟩
  · rcases hc' : (s.step Γ e).channels.get (Γ.channelIds.draw m) with _ | ch'
    · rfl
    · rcases step_channel hA fresh hc' with (⟨ch, hch, -⟩ | ⟨hid, -⟩) | ⟨ch, role, -, hch, -⟩
      · rw [hn] at hch
        cases hch
      · exact (hnew m hm hid).elim
      · rw [hn] at hch
        cases hch
  · rcases step_channel hA fresh hc' with (⟨ch0, hch, htokens, -, hlegs⟩ | ⟨hid, -⟩) | ⟨ch0, role, hdials, hch, htokens, hlegs⟩
    · obtain rfl := Option.some.inj (hc.symm.trans hch)
      exact ⟨htokens, fun role ws hl => (hlegs role).trans hl⟩
    · exact (hnew m hm hid).elim
    · obtain rfl := Option.some.inj (hc.symm.trans hch)
      refine ⟨htokens, fun r ws hl => ?_⟩
      rw [hlegs, if_neg, hl]
      rintro rfl
      -- The leg that is dialed was free.
      obtain ⟨-, -, ch1, -, -, -, -, -, hch1, -, hfree⟩ := hdials
      obtain rfl := Option.some.inj (hc.symm.trans hch1)
      rw [hfree] at hl
      cases hl

/-! ## A channel that is gone -/

/-- A frame on a leg of a channel that is gone goes nowhere. -/
theorem message_of_gone (hL : s.Legs) {w : SocketId} {k : WsSocket} {leg : RelayLeg} (hk : s.net.sockets.get w = some k)
    (hl : k.listener = .relay leg) (hgone : s.channels.get leg.channelId = none) (frame : Frame) (buffered : Nat)
    (writable : Bool) : (s.step Γ (.message w frame buffered writable)).net.outbox = [] := by
  rcases hrun : s.uncaught with _ | error
  · rw [step_running hrun]
    rcases handle_frame (Γ := Γ) (s := s.quiet) hrun hk hl frame buffered writable with ⟨-, -, hdst, -⟩ | ⟨-, he⟩
    · have hlives := hL.lives_of_open hk hl hdst
      rw [InsertionMap.has, hgone] at hlives
      cases hlives
    · rw [he]
      rfl
  · rw [step_stopped hrun]
    rfl

/-- The socket of a request whose channel is gone is not open. -/
theorem Legs.closed_of_gone (hL : s.Legs) {ex : ExchangeId} {x : HttpExchange} (hx : s.net.exchanges.get ex = some x)
    {ws : SocketId} (hws : x.ws = some ws) (hgone : s.channels.get x.channelId = none) : s.net.readyState ws ≠ .open_ := by
  obtain ⟨k, hk, hl⟩ := hL.socket ex x ws hx hws
  rcases hL.carries ws k x.channelId hk (by rw [hl]; rfl) with ⟨ch, role, hch, -⟩ | ⟨-, hclosed⟩
  · rw [hgone] at hch
    cases hch
  · rwa [Net.readyState_eq hk]

theorem requestData_of_gone (hL : s.Legs) {ex : ExchangeId} {x : HttpExchange} (hx : s.net.exchanges.get ex = some x)
    (hgone : s.channels.get x.channelId = none) (chunk : Bytes) (buffered : Nat) :
    (s.step Γ (.requestData ex chunk buffered)).net.outbox = [] := by
  rcases hrun : s.uncaught with _ | error
  · rw [step_running hrun]
    change (s.quiet.requestData ex chunk buffered).net.outbox = []
    have hclosed (ws : SocketId) (hws : x.ws = some ws) : s.quiet.net.readyState ws ≠ .open_ :=
      hL.closed_of_gone hx hws hgone
    unfold requestData
    split
    · rename_i hx'
      obtain rfl := Option.some.inj (hx.symm.trans hx')
      rw [if_pos (hclosed _ rfl)]
      rfl
    · rfl
  · rw [step_stopped hrun]
    rfl

theorem requestEnd_of_gone (hL : s.Legs) {ex : ExchangeId} {x : HttpExchange} (hx : s.net.exchanges.get ex = some x)
    (hgone : s.channels.get x.channelId = none) : (s.step Γ (.requestEnd ex)).net.outbox = [] := by
  rcases hrun : s.uncaught with _ | error
  · rw [step_running hrun]
    change (s.quiet.requestEnd ex).net.outbox = []
    have hclosed (ws : SocketId) (hws : x.ws = some ws) : s.quiet.net.readyState ws ≠ .open_ :=
      hL.closed_of_gone hx hws hgone
    unfold requestEnd
    split
    · rename_i hx'
      obtain rfl := Option.some.inj (hx.symm.trans hx')
      rw [if_neg (hclosed _ rfl)]
      rfl
    · rfl
  · rw [step_stopped hrun]
    rfl

end Gateway

section Runs

open Gateway

variable {Γ : Ctx} {storage : Storage}

theorem issued_run (es : List Event) : ((gateway Γ storage).run es).Issued Γ := by
  induction es using List.reverseRecOn with
  | nil =>
    intro id ch hc
    cases hc
  | append_singleton es e ih =>
    rw [EventMachine.run_snoc]
    exact ih.step (channels_run es).1 (fresh_run es) e

theorem outlasts_run (es es' : List Event) :
    ((gateway Γ storage).run es).Outlasts Γ ((gateway Γ storage).run (es ++ es')) :=
  (gateway Γ storage).run_rel (I := fun s => s.Owned Γ ∧ s.Admission ∧ s.Fresh Γ)
    (fun es => ⟨owned_run es, (channels_run es).1, fresh_run es⟩) .refl .trans
    (fun _ e h => step_outlasts h.2.1 h.2.2 (step_greets e h.1).2) es es'

theorem fenced_run (es : List Event) : ((gateway Γ storage).run es).Fenced := by
  have hA : ((gateway Γ storage).run es).Admission := (channels_run es).1
  refine ⟨(owned_run (Γ := Γ) es).1.channels, fun token ticket ht => ?_, fun id ch hc => ?_, fun id ch hc hp => ?_⟩
  · obtain ⟨ch, hch, hmem, hleg, -⟩ := hA.ticket token ticket ht
    exact ⟨ch, hch, hmem, hleg⟩
  · rw [hA.piped id ch hc]
  · rw [hA.pairing id ch hc, hp]
    rfl

/-- A channel that is gone is gone for good. -/
theorem gone_run {es es' : List Event} {id : String} {ch : ChannelRecord}
    (hc : ((gateway Γ storage).run es).channels.get id = some ch)
    (hgone : ((gateway Γ storage).run (es ++ es')).channels.get id = none) (es'' : List Event) :
    ((gateway Γ storage).run (es ++ es' ++ es'')).Gone Γ id ch.ticketTokens := by
  obtain ⟨m, hm, rfl, htokens⟩ := issued_run es id ch hc
  have hstill := (outlasts_run (es ++ es') es'').gone m (hm.trans_le (outlasts_run es es').drawn) hgone
  obtain ⟨hA, hL⟩ : ((gateway Γ storage).run (es ++ es' ++ es'')).Admission ∧
      ((gateway Γ storage).run (es ++ es' ++ es'')).Legs := channels_run _
  have hissued : ((gateway Γ storage).run (es ++ es' ++ es'')).Issued Γ := issued_run _
  have howes : ((gateway Γ storage).run (es ++ es' ++ es'')).OwesAnswers Γ := owesAnswers_run _
  refine ⟨hstill, fun token ht => hissued.tickets_of_gone hA hstill (htokens token ht), fun w k leg hk hl hid => ?_,
    fun ex x hx hid chunk buffered => ⟨?_, ?_⟩, fun ex x hx hid hpending => ?_⟩
  · exact message_of_gone hL hk hl (hid ▸ hstill)
  · exact requestData_of_gone hL hx (hid ▸ hstill) chunk buffered
  · exact requestEnd_of_gone hL hx (hid ▸ hstill)
  · obtain ⟨ch', hch', -⟩ := howes.owed ex x hx hpending
    rw [hid, hstill] at hch'
    cases hch'

/-- Admission to channels is fenced over every run: each live channel is of the current epoch of its backend, each outstanding
ticket of a live channel and a free leg, and each channel piped or waiting under its timer; a leg gets its one socket by a dial
with its ticket; and of a channel that is gone nothing ever comes again. -/
theorem channels_fenced (Γ : Ctx) (storage : Storage) (es : List Event) :
    ((gateway Γ storage).run es).Fenced ∧
    (∀ e, ((gateway Γ storage).run es).AttachesByTicket Γ e) ∧
    ∀ id ch, ((gateway Γ storage).run es).channels.get id = some ch → ∀ es',
      (∀ ch', ((gateway Γ storage).run (es ++ es')).channels.get id = some ch' →
        ∀ role ws, ch.leg role = some ws → ch'.leg role = some ws) ∧
      (((gateway Γ storage).run (es ++ es')).channels.get id = none →
        ∀ es'', ((gateway Γ storage).run (es ++ es' ++ es'')).Gone Γ id ch.ticketTokens) := by
  refine ⟨fenced_run es, fun e => step_attaches (channels_run es).1 (fresh_run es) e, fun id ch hc es' => ⟨fun ch' hc' => ?_,
    fun hgone es'' => gone_run hc hgone es''⟩⟩
  obtain ⟨m, hm, rfl, -⟩ := issued_run es id ch hc
  exact ((outlasts_run es es').kept m hm ch ch' hc hc').2

end Runs

end ZclaudiaGateway
