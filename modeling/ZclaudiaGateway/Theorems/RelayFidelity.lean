import ZclaudiaGateway.Lemmas.Exchanges
import ZclaudiaGateway.Lemmas.Pairing
import ZclaudiaGateway.Lemmas.Sample

/-!
# A leg carries what the other leg reads

What goes out on a leg of an external channel is what the gateway has read on the other leg, in order, each frame once: all of it
as long as the leg is open, and the frames up to some point once it is not. Nothing is read before the legs are paired, and
pauses, rate limits and timers take nothing away.
-/

namespace ZclaudiaGateway

/-- A frame of a channel that goes out on a socket. -/
def Output.frameTo (d : SocketId) : Output → Option Frame
  | .sendFrame ws frame => if ws = d then some frame else none
  | _ => none

theorem Output.frameTo_eq_none {d : SocketId} {o : Output} (h : o.kind ≠ .frame) : o.frameTo d = none := by
  cases o <;> first | rfl | exact absurd rfl h

namespace Gateway

variable {Γ : Ctx} {storage : Storage}

/-- The frame that an event delivers on a socket. -/
def hears (w : SocketId) (s : Gateway) (e : Event) : Option Frame :=
  match e, s.uncaught, s.net.sockets.get w with
  | .message ws frame _ _, none, some k => if ws = w ∧ k.reads = true then some frame else none
  | _, _, _ => none

/-- The frames read on a socket over a run. -/
def heardOn (Γ : Ctx) (storage : Storage) (w : SocketId) (es : List Event) : List Frame :=
  (gateway Γ storage).history (fun s e => (s.hears w e).toList) es

/-- The frames sent on a socket over a run. -/
def sentOn (Γ : Ctx) (storage : Storage) (d : SocketId) (es : List Event) : List Frame :=
  (gateway Γ storage).history (acts Γ (Output.frameTo d)) es

theorem Unpaired.hears {s : Gateway} {w : SocketId} (h : s.Unpaired w) (e : Event) : s.hears w e = none := by
  unfold Gateway.hears
  split
  · rename_i ws frame buffered writable k hrun hk
    obtain ⟨hl, hp⟩ := h k hk
    simp [WsSocket.reads, hl, hp]
  · rfl

/-- A frame that is relayed has been read. -/
theorem hears_of_relays {s : Gateway} {w : SocketId} {e : Event} {r : Relayed} (h : s.relays w e = some r) :
    s.hears w e = some r.frame := by
  obtain ⟨k, writable, rfl, hrun, hk, -, -, hreads, -⟩ := relays_eq_some h
  simp [hears, hrun, hk, hreads]

/-- A frame read on a leg is relayed as long as the other one is open. -/
theorem relays_of_hears {s : Gateway} {w : SocketId} {e : Event} {k : WsSocket} {leg : RelayLeg} {frame : Frame}
    (hk : s.net.sockets.get w = some k) (hl : k.listener = .relay leg) (hdst : s.net.readyState leg.dst = .open_)
    (h : s.hears w e = some frame) : ∃ r, s.relays w e = some r ∧ r.leg = leg := by
  unfold hears at h
  split at h
  · rename_i ws frame' buffered writable k' hrun hk'
    obtain rfl := Option.some.inj (hk.symm.trans hk')
    split at h
    · rename_i hreads
      refine ⟨{ leg, paused := k.paused, frame := frame', buffered }, ?_, rfl⟩
      simp [relays, hrun, hk, hl, hreads, hdst]
    · cases h
  · cases h

/-! ## One event -/

/-- What is relayed is one frame. -/
theorem relayMessage_frames {s : Gateway} {leg : RelayLeg} (hdst : s.net.readyState leg.dst = .open_) (w : SocketId) (frame : Frame)
    (buffered : Nat) (d : SocketId) :
    (s.relayMessage Γ w leg frame buffered).seen (Output.frameTo d) =
      s.seen (Output.frameTo d) ++ if leg.dst = d then [frame] else [] := by
  rw [(relayMessage_handles hdst w frame buffered).seen_eq fun o ho => Output.frameTo_eq_none fun hk => by simp [hk] at ho]
  have hsent : [Output.sendFrame leg.dst frame].filterMap (Output.frameTo d) = if leg.dst = d then [frame] else [] := by
    by_cases hd : leg.dst = d
    · simp [Output.frameTo, hd]
    · simp [Output.frameTo, hd]
  rw [seen, onNet_net, Net.emit, List.filterMap_append, hsent]
  rfl

/-- The kinds of output that are no frame. -/
def frameless : List OutputKind := [.message, .notice, .request, .handling, .admission, .response, .apart]

/-- Two operations put out frames: the relay of one, and the relay of a part of a request's body. -/
theorem Op.frame_cases {e : Event} {σ s t : Gateway} (h : Op Γ e σ s t) :
    s.EmitsOnly frameless t ∨
      (∃ ws leg frame buffered writable k, s = σ ∧ s.net.sockets.get ws = some k ∧ k.reads = true ∧ k.listener = .relay leg ∧
        e = .message ws frame buffered writable ∧ t = s.relayMessage Γ ws leg frame buffered) ∨
      ∃ ex chunk buffered, s = σ ∧ t = s.requestData ex chunk buffered := by
  have hkinds {kinds : List OutputKind} {t : Gateway} (h : s.EmitsOnly kinds t) (hsub : ∀ k ∈ kinds, k ∈ frameless) :
      s.EmitsOnly frameless t := h.mono hsub
  cases h with
  | tables net channels connections now drawn running => exact Or.inl (.of_eq (by rw [net]))
  | clock hact => exact Or.inl (.of_eq rfl)
  | net h => exact Or.inl (hkinds (Net.Op.kinds h) (by decide))
  | pace hf hact => exact Or.inl (.of_eq rfl)
  | teardown reason channelId => exact Or.inl (hkinds (teardownChannel_kinds _ _ _) (by decide))
  | openChannel fresh peer backendPeer lease target kind => exact Or.inl (hkinds (openChannel_kinds _ _ _ _ _ _) (by decide))
  | proxyViaChannel fresh request epoch backendPeer => exact Or.inl (hkinds (proxyViaChannel_kinds _ _ _ _) (by decide))
  | connect ip => exact Or.inl (hkinds (controlConnection_kinds _ _) (by decide))
  | dial channelId ticket handshakeOk => exact Or.inl (hkinds (handleChannelUpgrade_kinds _ _ _ _) (by decide))
  | hangUp hk hl hopen hact => exact Or.inl (.of_eq rfl)
  | shut hk hl hopen hact => exact Or.inl (.of_eq rfl)
  | relay hk hr hl hact => exact Or.inr (Or.inl ⟨_, _, _, _, _, _, rfl, hk, hr, hl, hact, rfl⟩)
  | rateTimer hact => exact Or.inl (hkinds (rateTimerFires_kinds _ _) (by decide))
  | drainPoll hact => exact Or.inl (hkinds (drainPoll_kinds _ _ _) (by decide))
  | requestData hact => exact Or.inr (Or.inr ⟨_, _, _, rfl, rfl⟩)
  | requestEnd hact => exact Or.inl (hkinds (requestEnd_kinds _ _) (by decide))
  | responseHead hx hm meta_ => exact Or.inl (hkinds (responseHead_kinds _ _ _ _) (by decide))
  | responseBody hx hm data => exact Or.inl (hkinds (callResponse_kinds _ _ _) (by decide))
  | finishResponse running hx => exact Or.inl (hkinds (finishResponse_kinds _ _ _ _) (by decide))
  | abort hact => exact Or.inl (.of_eq rfl)

/-- The body of a request goes to the socket that its exchange is bridged to. -/
theorem requestData_frames {s : Gateway} (hL : s.Legs) {d : SocketId}
    (hd : ∀ k id ex, s.net.sockets.get d = some k → k.listener ≠ .bridge id ex) (ex : ExchangeId) (chunk : Bytes) (buffered : Nat) :
    (s.requestData ex chunk buffered).seen (Output.frameTo d) = s.seen (Output.frameTo d) := by
  rcases hx : s.net.exchanges.get ex with _ | x
  · simp [requestData, hx]
  · rcases hws : x.ws with _ | ws
    · rw [requestData, hx]
      cases x
      cases hws
      rfl
    · obtain ⟨k, hk, hl⟩ := hL.socket ex x ws hx hws
      have hne : ws ≠ d := by
        rintro rfl
        exact hd k _ ex hk hl
      rw [requestData, hx]
      cases x
      cases hws
      dsimp only
      split
      · rfl
      · simp only [seen, onNet_net]
        split
        · simp [Net.modifyExchange, Net.emit, Output.frameTo, hne]
        · simp [Net.emit, Output.frameTo, hne]

/-- The frames that an event puts out on a socket that is not bridged: one that it relays, or none. -/
theorem handle_frames {s : Gateway} (e : Event) (running : s.uncaught = none) (fresh : s.Fresh Γ) (hL : s.Legs) {d : SocketId}
    (hd : ∀ k id ex, s.net.sockets.get d = some k → k.listener ≠ .bridge id ex) :
    (∃ w r, s.relays w e = some r ∧ r.leg.dst = d ∧
        (s.handle Γ e).seen (Output.frameTo d) = s.seen (Output.frameTo d) ++ [r.frame]) ∨
      (∀ w r, s.relays w e = some r → r.leg.dst ≠ d) ∧ (s.handle Γ e).seen (Output.frameTo d) = s.seen (Output.frameTo d) := by
  by_cases hrelays : ∃ w r, s.relays w e = some r
  · obtain ⟨w, r, hr⟩ := hrelays
    obtain ⟨k, writable, rfl, -, hk, hl, -, hreads, hdst⟩ := relays_eq_some hr
    have hhandle : s.handle Γ (.message w r.frame r.buffered writable) = s.relayMessage Γ w r.leg r.frame r.buffered := by
      change s.socketMessage Γ w r.frame r.buffered writable = _
      unfold socketMessage
      rw [hk]
      dsimp only
      rw [if_pos hreads, hl]
    rw [hhandle, relayMessage_frames hdst]
    by_cases hrd : r.leg.dst = d
    · exact Or.inl ⟨w, r, hr, hrd, by rw [if_pos hrd]⟩
    · refine Or.inr ⟨fun w' r' hr' => ?_, by rw [if_neg hrd, List.append_nil]⟩
      obtain ⟨k', writable', he', -⟩ := relays_eq_some hr'
      obtain ⟨rfl, -⟩ := Event.message.inj he'
      rw [hr] at hr'
      exact Option.some.inj hr' ▸ hrd
  · refine Or.inr ⟨fun w r hr => absurd ⟨w, r, hr⟩ hrelays, ?_⟩
    refine handle_rel (R := fun s t => t.seen (Output.frameTo d) = s.seen (Output.frameTo d)) (fun _ => rfl)
      (fun h h' => h'.trans h) e running fresh fun t u hop => ?_
    rcases hop.frame_cases with hkinds | ⟨ws, leg, frame, buffered, writable, k, rfl, hk, hr, hl, rfl, rfl⟩ |
      ⟨ex, chunk, buffered, rfl, rfl⟩
    · refine hkinds.seen_eq fun o ho => Output.frameTo_eq_none fun hk => ?_
      rw [hk] at ho
      exact absurd ho (by decide)
    · have hdst : t.net.readyState leg.dst ≠ .open_ := fun hdst =>
        hrelays ⟨ws, { leg, paused := k.paused, frame, buffered }, by simp [relays, running, hk, hl, hr, hdst]⟩
      unfold relayMessage
      rw [if_pos hdst]
    · exact requestData_frames hL hd ex chunk buffered

/-- The leg of a channel on a socket that relays, and what it relays to, as long as that is open. -/
theorem Legs.relay_leg {s : Gateway} (hL : s.Legs) {w : SocketId} {k : WsSocket} {leg : RelayLeg}
    (hk : s.net.sockets.get w = some k) (hl : k.listener = .relay leg) (hopen : s.net.readyState leg.dst = .open_) :
    ∃ id ch role, s.channels.get id = some ch ∧ ch.leg role = some w ∧ ch.leg role.other = some leg.dst := by
  have hlives := hL.lives_of_open hk hl hopen
  rcases hL.carries w k leg.channelId hk (by rw [hl]; rfl) with ⟨ch, role, hc, hleg⟩ | ⟨hn, -⟩
  · obtain ⟨k0, hk0, hw⟩ := hL.leg _ ch role w hc hleg
    obtain rfl := Option.some.inj (hk.symm.trans hk0)
    refine ⟨leg.channelId, ch, role, hc, hleg, ?_⟩
    unfold ChannelRecord.Wires at hw
    rw [hl] at hw
    split at hw
    · split at hw
      · cases hw
      · obtain ⟨leg0, hl0, -, hdst⟩ := hw
        obtain rfl := Listener.relay.inj hl0
        exact hdst
    · cases hw.1
  · simp [InsertionMap.has, hn] at hlives

/-- An open socket is relayed to from one other at most. -/
theorem Legs.relay_unique {s : Gateway} (hL : s.Legs) {w w' : SocketId} {k k' : WsSocket} {leg leg' : RelayLeg}
    (hk : s.net.sockets.get w = some k) (hl : k.listener = .relay leg) (hk' : s.net.sockets.get w' = some k')
    (hl' : k'.listener = .relay leg') (hdst : leg'.dst = leg.dst) (hopen : s.net.readyState leg.dst = .open_) : w' = w := by
  obtain ⟨id, ch, role, hc, hleg, hother⟩ := hL.relay_leg hk hl hopen
  obtain ⟨id', ch', role', hc', hleg', hother'⟩ := hL.relay_leg hk' hl' (hdst ▸ hopen)
  rw [hdst] at hother'
  obtain ⟨rfl, hrole⟩ := hL.unique id id' ch ch' role.other role'.other leg.dst hc hc' hother hother'
  obtain rfl := Option.some.inj (hc.symm.trans hc')
  have hsame : role' = role := by
    cases role <;> cases role' <;> first | rfl | cases hrole
  rw [hsame, hleg] at hleg'
  exact (Option.some.inj hleg').symm

/-- The frames read on one socket and sent on another, as their wiring has it. -/
structure Carries (w d : SocketId) (heard sent : List Frame) (s : Gateway) : Prop where
  source : s.Unpaired w → heard = []
  target : s.Unpaired d → sent = []
  faithful : ∀ k leg, s.net.sockets.get w = some k → k.listener = .relay leg → leg.dst = d →
    sent <+: heard ∧ (s.net.readyState d = .open_ → sent = heard)

/-- What an event puts out on a socket: a frame that it relays, nothing, or the socket is bridged. -/
inductive Puts (d : SocketId) (s : Gateway) (e : Event) : List Frame → Prop
  | relayed {w : SocketId} {r : Relayed} (hr : s.relays w e = some r) (hdst : r.leg.dst = d) : Puts d s e [r.frame]
  | nothing (hno : ∀ w r, s.relays w e = some r → r.leg.dst ≠ d) : Puts d s e []
  | bridged {k : WsSocket} {id : String} {ex : ExchangeId} (hk : s.net.sockets.get d = some k) (hl : k.listener = .bridge id ex)
    (frames : List Frame) : Puts d s e frames

theorem Puts.of_unpaired {d : SocketId} {s : Gateway} {e : Event} {frames : List Frame} (h : s.Puts d e frames) (hL : s.Legs)
    (hd : s.Unpaired d) : frames = [] := by
  cases h with
  | relayed hr hdst =>
    obtain ⟨k, writable, -, -, hk, hl, -⟩ := relays_eq_some hr
    obtain ⟨k', leg', hk', hl', -⟩ := hL.pair _ k _ hk hl
    rw [hdst] at hk'
    rw [(hd k' hk').1] at hl'
    cases hl'
  | nothing hno => rfl
  | bridged hk hl frames =>
    rw [(hd _ hk).1] at hl
    cases hl

/-- Reading and relaying go together. -/
theorem Carries.event {w d : SocketId} {heard sent frames : List Frame} {s t : Gateway} {e : Event}
    (h : s.Carries w d heard sent) (hL : s.Legs) (hpairs : s.Pairs t) (hputs : s.Puts d e frames) :
    t.Carries w d (heard ++ (s.hears w e).toList) (sent ++ frames) := by
  refine ⟨fun hw => ?_, fun hd => ?_, fun k' leg hk' hl' hdst => ?_⟩
  · have hunpaired := hpairs.unpaired hw
    rw [h.source hunpaired, hunpaired.hears]
    rfl
  · have hunpaired := hpairs.unpaired hd
    rw [h.target hunpaired, hputs.of_unpaired hL hunpaired]
    rfl
  · rcases hpairs.relay w k' leg hk' hl' with ⟨k, leg0, hk, hl, hdst0⟩ | ⟨hw, hd⟩
    · have hto : leg0.dst = d := hdst0.trans hdst
      obtain ⟨kd, legd, hkd, hld, -⟩ := hL.pair w k leg0 hk hl
      rw [hto] at hkd
      obtain ⟨hpre, hequal⟩ := h.faithful k leg0 hk hl hto
      cases hputs with
      | relayed hr hrd =>
        obtain ⟨k2, writable, -, -, hk2, hl2, -, -, hopen⟩ := relays_eq_some hr
        have hsame := hL.relay_unique hk hl hk2 hl2 (hrd.trans hto.symm) (by rw [hto, ← hrd]; exact hopen)
        subst hsame
        rw [hears_of_relays hr, hequal (hrd ▸ hopen)]
        exact ⟨List.prefix_refl _, fun _ => rfl⟩
      | nothing hno =>
        rw [List.append_nil]
        refine ⟨hpre.trans (List.prefix_append _ _), fun hopen => ?_⟩
        have hopen' := hpairs.open_of hkd hopen
        have hquiet : s.hears w e = none := by
          rcases hh : s.hears w e with _ | frame
          · rfl
          · obtain ⟨r, hr, hleg⟩ := relays_of_hears hk hl (hto ▸ hopen') hh
            exact absurd (hleg ▸ hto) (hno w r hr)
        rw [hquiet, hequal hopen']
        exact (List.append_nil _).symm
      | bridged hk2 hl2 frames =>
        rw [hkd] at hk2
        rw [← Option.some.inj hk2, hld] at hl2
        cases hl2
    · rw [hdst] at hd
      rw [h.source hw, h.target hd, hw.hears, hputs.of_unpaired hL hd]
      exact ⟨List.prefix_refl _, fun _ => rfl⟩

/-- What a step puts out on a socket. -/
theorem step_puts {s : Gateway} (e : Event) (fresh : s.Fresh Γ) (hL : s.Legs) (d : SocketId) :
    s.Puts d e (acts Γ (Output.frameTo d) s e) := by
  rcases hrun : s.uncaught with _ | error
  · by_cases hbridge : ∃ k id ex, s.net.sockets.get d = some k ∧ k.listener = .bridge id ex
    · obtain ⟨k, id, ex, hk, hl⟩ := hbridge
      exact .bridged hk hl _
    · have hd (k : WsSocket) (id : String) (ex : ExchangeId) (hk : s.quiet.net.sockets.get d = some k) :
          k.listener ≠ .bridge id ex := fun hl => hbridge ⟨k, id, ex, hk, hl⟩
      rw [acts_running hrun]
      rcases handle_frames (Γ := Γ) e (s := s.quiet) hrun (fresh.turns (quiet_turns s)) (hL.turns (quiet_turns s)) hd with
        ⟨w, r, hr, hdst, hseen⟩ | ⟨hno, hseen⟩
      · rw [hseen]
        exact .relayed hr hdst
      · rw [hseen]
        exact .nothing hno
  · rw [acts_stopped hrun]
    refine .nothing fun w r hr => ?_
    obtain ⟨k, writable, -, hnone, -⟩ := relays_eq_some hr
    rw [hrun] at hnone
    cases hnone

theorem carries_run (w d : SocketId) (es : List Event) :
    ((gateway Γ storage).run es).Carries w d (heardOn Γ storage w es) (sentOn Γ storage d es) := by
  induction es using List.reverseRecOn with
  | nil => exact ⟨fun _ => rfl, fun _ => rfl, fun k leg hk => by cases hk⟩
  | append_singleton es e ih =>
    have hfresh : ((gateway Γ storage).run es).Fresh Γ := fresh_run es
    have hchannels : ((gateway Γ storage).run es).Admission ∧ ((gateway Γ storage).run es).Legs := channels_run es
    have hnext := ih.event hchannels.2 (step_pairs e hfresh hchannels.1 hchannels.2) (step_puts e hfresh hchannels.2 d)
    rw [heardOn, sentOn, EventMachine.history_snoc, EventMachine.history_snoc, EventMachine.run_snoc]
    exact hnext

/-- Over every run, the frames that go out on a leg are what has been read on the other leg, up to some point; all of it while it is open. -/
theorem relay_faithful (es : List Event) (w : SocketId) {k : WsSocket} {leg : RelayLeg}
    (hk : ((gateway Γ storage).run es).net.sockets.get w = some k) (hl : k.listener = .relay leg) :
    sentOn Γ storage leg.dst es <+: heardOn Γ storage w es ∧
      (((gateway Γ storage).run es).net.readyState leg.dst = .open_ → sentOn Γ storage leg.dst es = heardOn Γ storage w es) :=
  (carries_run w leg.dst es).faithful k leg hk hl rfl

/-- Each end of a paired channel sends a byte. -/
def sampleBytes : List Event :=
  samplePaired ++ [.message 5 { data := [1], isBinary := true } 0 true, .message 6 { data := [2], isBinary := true } 0 true]

theorem relay_faithful_bytes :
    sentOn sampleRateCtx sampleStorage 6 sampleBytes <+: heardOn sampleRateCtx sampleStorage 5 sampleBytes ∧
      (((gateway sampleRateCtx sampleStorage).run sampleBytes).net.readyState 6 = .open_ →
        sentOn sampleRateCtx sampleStorage 6 sampleBytes = heardOn sampleRateCtx sampleStorage 5 sampleBytes) := by
  have hk : ((gateway sampleRateCtx sampleStorage).run sampleBytes).net.sockets.get 5 = some
      { readyState := .open_, paused := false, errorListener := true, replacedGrace := false
        listener := .relay { channelId := "ccccc", dst := 6, used := 1, resetAt := 1000, rateTimers := [], drains := 0 } } := by
    decide +kernel
  have hfaithful := relay_faithful sampleBytes 5 hk rfl
  exact hfaithful

end Gateway

end ZclaudiaGateway
