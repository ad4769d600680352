import ZclaudiaGateway.Lemmas.Connections
import ZclaudiaGateway.Lemmas.Sample

/-!
# The channel quota

Both ways to open a channel count the channels of one end against `maxChannelsPerPeer`: a proxied request those of the backend,
`channel_open` those of the session that asks. So the quota of a session holds until some client opens a channel to a backend
that has none left.
-/

namespace ZclaudiaGateway

namespace Gateway

variable {Γ : Ctx}

/-- No session is an end of more live channels than the limit. An internal channel has no client session. -/
def WithinQuota (Γ : Ctx) (s : Gateway) : Prop :=
  ∀ p, p ≠ "" → s.countChannelsForPeer p ≤ Γ.config.maxChannelsPerPeer

/-- The event opens a channel to a backend whose session is already at the limit. -/
def Overbooks (Γ : Ctx) (s : Gateway) (e : Event) : Prop :=
  s.uncaught = none ∧ ∃ peer target kind presence lease backendPeer,
    s.routed Γ e = some (peer, .channelOpen target kind) ∧ peer.protocolVersion = 4 ∧
    s.state.registry.get target = some presence ∧ s.state.leases.get target = some lease ∧
    s.state.peers.get lease.peerSessionId = some backendPeer ∧ peer.canReach presence.ns presence.backendId = true ∧
    s.countChannelsForPeer peer.peerSessionId < Γ.config.maxChannelsPerPeer ∧
    Γ.config.maxChannelsPerPeer ≤ s.countChannelsForPeer lease.peerSessionId

/-! ## Counting -/

theorem ChannelRecord.SameEnds.isEndOf_eq {ch ch' : ChannelRecord} (h : ch.SameEnds ch') (p : String) :
    isEndOf p ch' = isEndOf p ch := by
  rw [isEndOf, isEndOf, h.client, h.backend]

/-- Channels that go leave every session at most as many. -/
theorem ChannelsGo.count {s t : Gateway} (h : s.ChannelsGo t) (p : String) :
    t.countChannelsForPeer p ≤ s.countChannelsForPeer p := by
  refine InsertionMap.length_filter_values_le [] (fun id ch hc hp => Or.inr ?_)
  obtain ⟨ch0, hc0, hends⟩ := h id ch hc
  exact ⟨ch0, hc0, by rw [← ChannelRecord.SameEnds.isEndOf_eq hends]; exact hp⟩

theorem ChannelsGo.quota {s t : Gateway} (h : s.ChannelsGo t) (hs : s.WithinQuota Γ) : t.WithinQuota Γ :=
  fun p hp => (h.count p).trans (hs p hp)

/-- A channel more is one more for its ends alone. -/
theorem count_set_le {s t : Gateway} {id : String} {ch : ChannelRecord} (ht : t.channels = s.channels.set id ch) (p : String) :
    t.countChannelsForPeer p ≤ s.countChannelsForPeer p + if isEndOf p ch then 1 else 0 := by
  have hget (id' : String) (ch' : ChannelRecord) (h : t.channels.get id' = some ch') :
      (id' = id ∧ ch' = ch) ∨ s.channels.get id' = some ch' := by
    rw [ht] at h
    rcases InsertionMap.get_set_eq_some.mp h with ⟨hid, hch⟩ | ⟨-, h⟩
    · exact Or.inl ⟨hid, hch.symm⟩
    · exact Or.inr h
  by_cases hend : isEndOf p ch = true
  · rw [if_pos hend]
    refine InsertionMap.length_filter_values_le [id] (fun id' ch' hc hp => ?_)
    rcases hget id' ch' hc with ⟨rfl, -⟩ | hc
    · exact Or.inl (List.mem_singleton_self _)
    · exact Or.inr ⟨ch', hc, hp⟩
  · rw [if_neg hend]
    refine InsertionMap.length_filter_values_le [] (fun id' ch' hc hp => Or.inr ?_)
    rcases hget id' ch' hc with ⟨-, rfl⟩ | hc
    · exact absurd hp hend
    · exact ⟨ch', hc, hp⟩

/-- A channel more is one more for its ends, if its identifier is new. -/
theorem count_set_new {s t : Gateway} {id : String} {ch : ChannelRecord} (ht : t.channels = s.channels.set id ch)
    (hnew : s.channels.get id = none) {p : String} (hend : isEndOf p ch = true) :
    t.countChannelsForPeer p = s.countChannelsForPeer p + 1 := by
  unfold countChannelsForPeer
  rw [ht, InsertionMap.values_set_new hnew, List.filter_append, List.filter_singleton, hend]
  simp

theorem isEndOf_eq_false {p : String} {ch : ChannelRecord} (hclient : p ≠ ch.clientPeerSessionId)
    (hbackend : p ≠ ch.backendPeerSessionId) : isEndOf p ch = false := by
  simp [isEndOf, hclient.symm, hbackend.symm]

/-! ## Steps -/

theorem Closes.channelsGo {s t : Gateway} (h : s.Closes t) : s.ChannelsGo t := by
  induction h with
  | refl => exact .refl s
  | tail _ hstep ih =>
    refine ih.trans ?_
    cases hstep with
    | turn h =>
      intro id ch hc
      rw [h.channels] at hc
      exact ⟨ch, hc, .refl ch⟩
    | teardown reason channelId => exact (ControlTurns.teardown reason channelId _).channels

/-- The two ends of a channel that `channel_open` opens have it as one more. -/
theorem openChannel_quota {s : Gateway} {peer backendPeer : PeerSession} {lease : BackendLease} {target : String}
    {kind : Option String} (hs : s.WithinQuota Γ)
    (hroom : s.countChannelsForPeer peer.peerSessionId < Γ.config.maxChannelsPerPeer)
    (hbackend : s.countChannelsForPeer lease.peerSessionId < Γ.config.maxChannelsPerPeer) :
    (s.openChannel Γ peer backendPeer lease target kind).WithinQuota Γ := by
  intro p hp
  have hle := count_set_le (s := s) (t := s.openChannel Γ peer backendPeer lease target kind) rfl p
  by_cases hend : p = peer.peerSessionId ∨ p = lease.peerSessionId
  · have hcount : s.countChannelsForPeer p < Γ.config.maxChannelsPerPeer := by
      rcases hend with rfl | rfl
      · exact hroom
      · exact hbackend
    refine hle.trans ?_
    split <;> omega
  · rw [not_or] at hend
    rw [isEndOf_eq_false hend.1 hend.2] at hle
    exact hle.trans (hs p hp)

/-- A proxied request opens no channel to a backend without room. -/
theorem proxyViaChannel_quota {s : Gateway} (request : ProxyRequest) (epoch : Nat) (backendPeer : PeerSession)
    (hs : s.WithinQuota Γ) : (s.proxyViaChannel Γ request epoch backendPeer).WithinQuota Γ := by
  unfold proxyViaChannel
  split
  · exact hs
  · rename_i hroom
    intro p hp
    have hle := count_set_le (s := s) (t := s.proxyViaChannel Γ request epoch backendPeer)
      (by unfold proxyViaChannel; rw [if_neg hroom]) p
    unfold proxyViaChannel at hle
    rw [if_neg hroom] at hle
    refine hle.trans ?_
    by_cases hend : p = backendPeer.peerSessionId
    · subst hend
      split <;> omega
    · rw [isEndOf_eq_false hp hend]
      exact hs p hp

theorem ControlStep.quota {act : Option Request} {s t : Gateway} (hstep : ControlStep Γ act s t)
    (hact : ∀ peer target kind, act ≠ some (.message peer (.channelOpen target kind))) (hs : s.WithinQuota Γ) :
    t.WithinQuota Γ := by
  cases hstep with
  | turn h => exact h.channels.quota hs
  | deliver h =>
    obtain ⟨f, rfl⟩ := h.onNet
    exact hs
  | topic hp hreq ht =>
    intro p hne
    have hcount := hs p hne
    unfold countChannelsForPeer at hcount ⊢
    rwa [(routeMessage_topic (Γ := Γ) _ ht s).channels]
  | openChannel hp hreq hl hb hi hreach hroom => exact absurd hreq (hact _ _ _)
  | proxyViaChannel hl hb => exact proxyViaChannel_quota _ _ _ hs
  | disconnect p => exact (handlePeerDisconnect_closes p s).channelsGo.quota hs

/-- A `channel_open` that does not overbook its target keeps the quota. -/
theorem handleChannelOpen_quota {s : Gateway} {e : Event} {peer : PeerSession} {target : String} {kind : Option String}
    (hr : s.routed Γ e = some (peer, .channelOpen target kind)) (hrun : s.uncaught = none) (he : ¬ s.Overbooks Γ e)
    (hs : s.WithinQuota Γ) : (s.handleChannelOpen Γ peer target kind).WithinQuota Γ := by
  unfold handleChannelOpen
  split
  · exact hs
  · rename_i hversion
    dsimp only
    split
    · rename_i presence lease hi hl
      split
      · exact hs
      · rename_i backendPeer hb
        split
        · exact hs
        · rename_i hreach
          split
          · exact hs
          · rename_i hroom
            refine openChannel_quota hs (by omega) ?_
            by_contra hfull
            exact he ⟨hrun, peer, target, kind, presence, lease, backendPeer, hr, by simpa using hversion, hi, hl, hb,
              by simpa using hreach, by omega, by omega⟩
    · exact hs

/-- An event that does not overbook a backend keeps the quota. -/
theorem handle_quota {e : Event} {s : Gateway} (hrun : s.uncaught = none) (he : ¬ s.Overbooks Γ e) (hs : s.WithinQuota Γ) :
    (s.handle Γ e).WithinQuota Γ := by
  by_cases hopen : ∃ peer target kind, s.routed Γ e = some (peer, .channelOpen target kind)
  · obtain ⟨peer, target, kind, hr⟩ := hopen
    rw [(handle_routed hr).1]
    exact handleChannelOpen_quota hr hrun he hs
  · rcases hh : s.helloOf Γ e with _ | ⟨ws, conn, hello⟩
    · by_cases hlease : e = .leaseCheckInterval
      · subst hlease
        exact (Closes.foldl checkLease_closes s.state.leases.keys s).channelsGo.quota hs
      · refine (handle_control hlease hh).invariant (fun t u hstep ht => hstep.quota (fun peer target kind ha => ?_) ht) hs
        exact hopen ⟨peer, target, kind, requested_message ha⟩
    · obtain ⟨u, peerSessionId, hcloses, hgreet⟩ := greet_closes (Γ := Γ) ws conn hello s
      rw [handle_hello hh, hgreet]
      exact hcloses.channelsGo.quota hs

/-- A channel to a backend without room breaks the quota. -/
theorem overbooked {e : Event} {s : Gateway} (hfresh : s.Fresh Γ) (howned : s.Owned Γ) (he : s.Overbooks Γ e) :
    ¬ (s.handle Γ e).WithinQuota Γ := by
  obtain ⟨-, peer, target, kind, presence, lease, backendPeer, hr, hversion, hi, hl, hb, hreach, hroom, hfull⟩ := he
  have hopened : s.handle Γ e = s.openChannel Γ peer backendPeer lease target kind := by
    rw [(handle_routed hr).1]
    change s.handleChannelOpen Γ peer target kind = _
    unfold handleChannelOpen
    rw [if_neg (by simpa using hversion)]
    simp only [hi, hl, hb, hreach]
    rw [if_neg (by simp), if_neg (by omega)]
  have hnew : s.channels.get (Γ.channelIds.draw s.drawn) = none := by
    by_contra hsome
    obtain ⟨ch, hc⟩ := Option.ne_none_iff_exists'.mp hsome
    obtain ⟨m, hm, hdraw⟩ := hfresh.channels _ ch hc
    exact absurd (Γ.channelIds.injective hdraw) (by omega)
  intro hquota
  rw [hopened] at hquota
  have hbackend : lease.peerSessionId ≠ "" := by
    obtain ⟨m, -, hdraw, -⟩ := howned.2 _ _ hb
    rw [hdraw]
    exact Γ.sessionIds.nonempty m
  have hcount := count_set_new (s := s) (t := s.openChannel Γ peer backendPeer lease target kind) rfl hnew
    (p := lease.peerSessionId) (by simp [isEndOf])
  have hle := hquota lease.peerSessionId hbackend
  omega

end Gateway

/-! ## The quota of a peer -/

section Runs

open Gateway

variable {Γ : Ctx} {storage : Storage}

theorem overbooks_quiet (s : Gateway) (e : Event) : s.quiet.Overbooks Γ e ↔ s.Overbooks Γ e := by
  unfold Overbooks
  rw [routed_quiet]
  rfl

/-- One step keeps the quota unless it overbooks a backend. -/
theorem step_quota_iff (es : List Event) (e : Event) (hs : ((gateway Γ storage).run es).WithinQuota Γ) :
    ((gateway Γ storage).run (es ++ [e])).WithinQuota Γ ↔ ¬ ((gateway Γ storage).run es).Overbooks Γ e := by
  have hfresh : ((gateway Γ storage).run es).quiet.Fresh Γ := (fresh_run es).turns (quiet_turns _)
  have howned : ((gateway Γ storage).run es).Owned Γ := owned_run es
  rw [EventMachine.run_snoc]
  generalize (gateway Γ storage).run es = s at hs hfresh howned
  have hquieted : s.quiet.Owned Γ := ⟨howned.1.only rfl rfl rfl rfl, howned.2⟩
  change (s.step Γ e).WithinQuota Γ ↔ _
  rcases hrun : s.uncaught with _ | error
  · rw [step_running hrun, ← overbooks_quiet]
    constructor
    · intro hquota he
      exact overbooked hfresh hquieted he hquota
    · intro he
      exact handle_quota (s := s.quiet) hrun he hs
  · rw [step_stopped hrun]
    refine ⟨fun _ he => ?_, fun _ => hs⟩
    rw [he.1] at hrun
    cases hrun

/-- The quota of every session holds in the course of a run if and only if no event of it opens a channel to a backend whose
session has no room. -/
theorem channel_quota (Γ : Ctx) (storage : Storage) (es : List Event) :
    (∀ pre, pre <+: es → ((gateway Γ storage).run pre).WithinQuota Γ) ↔
      (gateway Γ storage).Meets (fun s e => ¬ s.Overbooks Γ e) es := by
  constructor
  · intro h pre e hp
    have hquota := h (pre ++ [e]) hp
    exact (step_quota_iff pre e (h pre ((List.prefix_append pre [e]).trans hp))).mp hquota
  · intro h pre
    induction pre using List.reverseRecOn with
    | nil =>
      intro _ p _
      exact Nat.zero_le _
    | append_singleton pre e ih =>
      intro hp
      exact (step_quota_iff pre e (ih ((List.prefix_append pre [e]).trans hp))).mpr (h pre e hp)

/-- One channel for each session; two devices open one to the same backend. -/
def sampleQuotaCtx : Ctx :=
  { Ctx.sample [sampleHello "zgb_old" true, sampleHello "zgd_device" false, sampleOpen] with
    config := { maxChannelsPerPeer := 1 } }

def sampleOverbooking : List Event :=
  [.connect, .text 0 (sampleHello "zgb_old" true), .connect, .text 2 (sampleHello "zgd_device" false), .connect,
    .text 4 (sampleHello "zgd_device" false), .text 2 sampleOpen, .text 4 sampleOpen]

/-- A backend is an end of two channels where one is the limit. -/
theorem backend_overbooked :
    ¬ ((gateway sampleQuotaCtx sampleStorage).run sampleOverbooking).WithinQuota sampleQuotaCtx := by
  intro h
  have hcount : ((gateway sampleQuotaCtx sampleStorage).run sampleOverbooking).countChannelsForPeer "ss" = 2 := by
    decide +kernel
  have hle := h "ss" (by decide)
  rw [hcount] at hle
  exact absurd hle (by decide)

end Runs

end ZclaudiaGateway
