import ZclaudiaGateway.Lemmas.RelayRun
import ZclaudiaGateway.Lemmas.Sample

/-!
# The two pauses of a direction

The byte rate limit and backpressure pause the same socket and resume it without regard to each other. A direction is observed
together with what its receiver's send buffer holds; the sender is held while it has been paused for a full buffer that has not
been low since. Each pause lasts as long as it should in every run in which neither mechanism resumes the sender over the other; the
buffer stays within the high-water mark and one frame if also no frame is relayed while the sender is held.
-/

namespace ZclaudiaGateway

/-- The size of a frame on the wire, which a server does not mask. -/
def Frame.wireSize (frame : Frame) : Nat :=
  frame.data.length + if frame.data.length < 126 then 2 else if frame.data.length < 65536 then 4 else 10

/-- The socket relays to one that is open. -/
def Gateway.receives (w : SocketId) (s : Gateway) : Bool :=
  match s.net.sockets.get w with
  | some { listener := .relay leg, .. } => s.net.readyState leg.dst = .open_
  | _ => false

theorem Gateway.receives_iff {w : SocketId} {s : Gateway} :
    s.receives w = true ↔
      ∃ k leg, s.net.sockets.get w = some k ∧ k.listener = .relay leg ∧ s.net.readyState leg.dst = .open_ := by
  unfold receives
  rcases s.net.sockets.get w with _ | ⟨readyState, paused, errorListener, listener, replacedGrace⟩
  · simp
  · rcases listener with _ | conn | leg | ⟨id, ex⟩ <;> simp

/-- A direction of a channel under observation. -/
structure Flow where
  gateway : Gateway
  /-- What the receiver's send buffer holds. -/
  level : Nat
  /-- The sender has been paused for a full buffer, which has not been low since, and the receiver is open. -/
  held : Bool
  /-- The size of the largest frame relayed so far. -/
  largest : Nat

/-- An event of the gateway, or the receiver's send buffer falls to a level. -/
inductive FlowEvent where
  | event (e : Event)
  | flush (level : Nat)

namespace Flow

variable {Γ : Ctx}

def step (Γ : Ctx) (w : SocketId) (f : Flow) : FlowEvent → Flow
  | .flush level =>
    { f with level := min level f.level, held := f.held && decide (HIGH_WATER / 4 < min level f.level) }
  | .event e =>
    let gateway := f.gateway.step Γ e
    match f.gateway.relays w e with
    | none => { f with gateway, held := f.held && gateway.receives w }
    | some r =>
      { gateway
        level := r.buffered
        held := (f.held && decide (HIGH_WATER / 4 < r.buffered) || decide (HIGH_WATER < r.buffered)) && gateway.receives w
        largest := max f.largest r.frame.wireSize }

/-! ## Conditions on a step -/

/-- The buffered amounts the code reads are what the receiver's send buffer holds: a send adds the frame to it. -/
def Measured (w : SocketId) (f : Flow) : FlowEvent → Prop
  | .flush _ => True
  | .event e =>
    (match f.gateway.relays w e with
    | some r => r.buffered ≤ f.level + r.frame.wireSize
    | none => True) ∧
    match e with
    | .drainPoll ws buffered => ws = w → buffered = f.level
    | _ => True

/-- The step resumes the sender of a channel that lives while the other pause still holds: a rate timer fires while the sender
is held or another rate timer is not due yet, or a drain poll finds the receiver drained or gone while a rate timer is not due
yet. -/
def Crosses (w : SocketId) (f : Flow) : FlowEvent → Prop
  | .flush _ => False
  | .event e =>
    match e, f.gateway.net.sockets.get w with
    | .rateTimer ws, some k =>
      match k.listener with
      | .relay leg =>
        ws = w ∧ f.gateway.channels.has leg.channelId = true ∧ (∃ due ∈ leg.rateTimers, due ≤ f.gateway.now) ∧
          (f.held = true ∨ ∃ due ∈ leg.rateTimers, f.gateway.now < due)
      | _ => False
    | .drainPoll ws buffered, some k =>
      match k.listener with
      | .relay leg =>
        ws = w ∧ f.gateway.channels.has leg.channelId = true ∧ leg.drains > 0 ∧
          (buffered ≤ HIGH_WATER / 4 ∨ f.gateway.net.readyState leg.dst ≠ .open_) ∧
          ∃ due ∈ leg.rateTimers, f.gateway.now < due
      | _ => False
    | _, _ => False

/-- A frame is relayed although its sender is held: `ws` goes on delivering what it has already read. -/
def Presses (w : SocketId) (f : Flow) : FlowEvent → Prop
  | .flush _ => False
  | .event e => (f.gateway.relays w e).isSome = true ∧ f.held = true

instance (w : SocketId) (f : Flow) (e : FlowEvent) : Decidable (f.Measured w e) := by
  unfold Measured
  split
  · infer_instance
  · have hrelays (r : Option Gateway.Relayed) : Decidable (match r with
        | some r => r.buffered ≤ f.level + r.frame.wireSize
        | none => True) := by
      cases r <;> infer_instance
    refine @instDecidableAnd _ _ (hrelays _) ?_
    split <;> infer_instance

/-- What is decided of every leg is decided of the leg that listens. -/
def decideRelay (P : RelayLeg → Prop) [∀ leg, Decidable (P leg)] : (listener : Listener) →
    Decidable (match listener with
      | .relay leg => P leg
      | _ => False)
  | .none => inferInstanceAs (Decidable False)
  | .control _ => inferInstanceAs (Decidable False)
  | .relay leg => inferInstanceAs (Decidable (P leg))
  | .bridge _ _ => inferInstanceAs (Decidable False)

instance (w : SocketId) (f : Flow) (e : FlowEvent) : Decidable (f.Crosses w e) := by
  unfold Crosses
  generalize f.gateway.net.sockets.get w = found
  exact match e, found with
    | .event (.rateTimer ws), some k =>
      decideRelay (fun leg =>
        ws = w ∧ f.gateway.channels.has leg.channelId = true ∧ (∃ due ∈ leg.rateTimers, due ≤ f.gateway.now) ∧
          (f.held = true ∨ ∃ due ∈ leg.rateTimers, f.gateway.now < due)) k.listener
    | .event (.drainPoll ws buffered), some k =>
      decideRelay (fun leg =>
        ws = w ∧ f.gateway.channels.has leg.channelId = true ∧ leg.drains > 0 ∧
          (buffered ≤ HIGH_WATER / 4 ∨ f.gateway.net.readyState leg.dst ≠ .open_) ∧
          ∃ due ∈ leg.rateTimers, f.gateway.now < due) k.listener
    | .event (.rateTimer _), none | .event (.drainPoll _ _), none | .event (.clock _), _ | .event (.upgrade _ _ _), _
    | .event (.message _ _ _ _), _ | .event (.socketError _), _ | .event (.socketClosing _), _
    | .event (.socketClosed _), _ | .event (.pong _), _ | .event (.authTimeout _), _ | .event (.replacedGrace _), _
    | .event (.pairingTimeout _), _ | .event .pingInterval, _ | .event .leaseCheckInterval, _
    | .event .registryPollInterval, _ | .event .rateLimitCleanup, _ | .event (.proxy _ _), _
    | .event (.requestData _ _ _), _ | .event (.requestEnd _), _ | .event (.requestDrainPoll _ _), _
    | .event (.responseDrain _), _ | .event (.responseClose _), _ | .event (.responseTimeout _), _
    | .event (.idleTimeout _), _ | .event (.syncRegistry _ _), _ | .event (.discovery _ _), _
    | .event (.backendToken _ _), _ | .event (.admin _ _ _), _ | .event (.adminLogin _ _), _
    | .event (.adminSession _ _), _ | .flush _, _ => inferInstanceAs (Decidable False)

instance (w : SocketId) (f : Flow) (e : FlowEvent) : Decidable (f.Presses w e) := by
  unfold Presses
  split
  · infer_instance
  · infer_instance

/-- The step does not resume the sender of a channel that lives on while the sender is held or a rate timer is not due. -/
def Respects (Γ : Ctx) (w : SocketId) (f : Flow) (e : FlowEvent) : Prop :=
  ∀ k leg k', f.gateway.net.sockets.get w = some k → k.listener = .relay leg → k.paused = true →
    (f.step Γ w e).gateway.net.sockets.get w = some k' → k'.paused = false →
    (f.step Γ w e).gateway.channels.has leg.channelId = true →
    f.held = false ∧ ∀ due ∈ leg.rateTimers, due ≤ f.gateway.now

/-! ## Steps -/

/-- What a step of the gateway does to the leg on a socket. -/
inductive LegStep (Γ : Ctx) (w : SocketId) (s t : Gateway) (e : Event) : Prop
  | relay {r : Gateway.Relayed} {k : WsSocket} {leg' : RelayLeg} (hr : s.relays w e = some r)
    (hk : s.net.sockets.get w = some k) (hl : k.listener = .relay r.leg) (hpaused : r.paused = k.paused)
    (hends : r.leg.SameEnds leg') (hdst : t.net.readyState r.leg.dst = .open_)
    (hget : t.net.sockets.get w = some { k with
      listener := .relay leg'
      paused := k.paused || (r.leg.relayed Γ.config.channelByteRateLimit s.now r.frame.data.length r.buffered).2 })
  | resume {k : WsSocket} {leg leg' : RelayLeg} (hr : s.relays w e = none) (hk : s.net.sockets.get w = some k)
    (hl : k.listener = .relay leg) (hresumes : s.Resumes w leg e) (hends : leg.SameEnds leg')
    (hchannels : t.channels = s.channels) (hopens : t.net.readyState leg.dst = .open_ → s.net.readyState leg.dst = .open_)
    (hget : t.net.sockets.get w = some { k with
      listener := .relay leg', paused := if k.readyState = .closed then k.paused else false })
  | stay (hr : s.relays w e = none) (hstays : s.LegStays w t)

theorem legStep {s : Gateway} (e : Event) (w : SocketId) (fresh : s.Fresh Γ) (hA : s.Admission) (hL : s.Legs) :
    LegStep Γ w s (s.step Γ e) e := by
  have hquiet := quiet_turns s
  rcases hrun : s.uncaught with _ | error
  · rw [step_running hrun]
    rcases Gateway.handle_leg (w := w) e (s := s.quiet) hrun (fresh.turns hquiet) (hA.turns hquiet) (hL.turns hquiet) with
      ⟨r, k, hr, hk, hl, hpaused, hdst, hmoves, hget⟩ |
      ⟨k, leg, leg', hr, hk, hl, hresumes, hends, hmoves, hget⟩ | ⟨hr, hstays⟩
    · exact .relay hr hk hl hpaused (r.leg.relayed_ends _ _ _ _) ((hmoves.readyState _).trans hdst) hget
    · exact .resume hr hk hl hresumes hends hmoves.channels (fun hd => (hmoves.readyState _).symm.trans hd) hget
    · exact .stay hr ⟨hstays.forth, hstays.back⟩
  · rw [step_stopped hrun]
    refine .stay ?_ (.of_eq (fun _ => id) rfl)
    simp [Gateway.relays, hrun]

/-- What holds of a direction after every run in which no resume crosses a pause. -/
structure Kept (w : SocketId) (f : Flow) : Prop where
  leg : f.gateway.LegKept (fun _ paused => (f.held = true → paused = true) ∧ (HIGH_WATER < f.level → f.held = true))
    (f.held = false ∧ f.level = 0) w
  low : f.held = true → HIGH_WATER / 4 < f.level ∧ f.gateway.receives w = true

theorem step_none {f : Flow} {w : SocketId} {e : Event} (hr : f.gateway.relays w e = none) :
    f.step Γ w (.event e) =
      { f with gateway := f.gateway.step Γ e, held := f.held && (f.gateway.step Γ e).receives w } := by
  simp only [step, hr]

theorem step_some {f : Flow} {w : SocketId} {e : Event} {r : Gateway.Relayed} (hr : f.gateway.relays w e = some r) :
    f.step Γ w (.event e) =
      { gateway := f.gateway.step Γ e
        level := r.buffered
        held := (f.held && decide (HIGH_WATER / 4 < r.buffered) || decide (HIGH_WATER < r.buffered)) &&
          (f.gateway.step Γ e).receives w
        largest := max f.largest r.frame.wireSize } := by
  simp only [step, hr]

/-- A sender that is held is not resumed by a step that does not cross. -/
theorem not_held {f : Flow} {w : SocketId} {e : Event} {k : WsSocket} {leg : RelayLeg} (hs : f.Kept w) (hL : f.gateway.Legs)
    (hk : f.gateway.net.sockets.get w = some k) (hl : k.listener = .relay leg) (hresumes : f.gateway.Resumes w leg e)
    (hmeasured : f.Measured w (.event e)) (hcross : ¬ f.Crosses w (.event e)) : f.held = false := by
  by_contra hheld
  rw [Bool.not_eq_false] at hheld
  obtain ⟨hlow, hreceives⟩ := hs.low hheld
  obtain ⟨k', leg', hk', hl', hdst⟩ := Gateway.receives_iff.mp hreceives
  obtain rfl := Option.some.inj (hk.symm.trans hk')
  obtain rfl := Listener.relay.inj (hl.symm.trans hl')
  rcases hresumes with ⟨rfl, hdue⟩ | ⟨buffered, rfl, -, hdrained⟩
  · refine hcross ?_
    have hlives := hL.lives_of_open hk hl hdst
    simp only [Crosses, hk, hl]
    exact ⟨trivial, hlives, hdue, Or.inl hheld⟩
  · have hlevel : buffered = f.level := hmeasured.2 rfl
    rcases hdrained with hb | hclosed
    · omega
    · exact hclosed hdst

/-- One event that does not cross. -/
theorem Kept.event {f : Flow} {w : SocketId} {e : Event} (hs : f.Kept w) (fresh : f.gateway.Fresh Γ)
    (hA : f.gateway.Admission) (hL : f.gateway.Legs) (hmeasured : f.Measured w (.event e))
    (hcross : ¬ f.Crosses w (.event e)) : (f.step Γ w (.event e)).Kept w := by
  cases legStep (Γ := Γ) e w fresh hA hL with
  | relay hr hk hl hpaused hends hdst hget =>
    rename_i r k leg'
    obtain ⟨-, writable, -, -, -, -, -, -, hopen⟩ := Gateway.relays_eq_some hr
    obtain ⟨hheld, -⟩ := hs.leg.holds k r.leg hk hl hopen
    have hreceives : (f.gateway.step Γ e).receives w = true := Gateway.receives_iff.mpr ⟨_, leg', hget, rfl, hends.2 ▸ hdst⟩
    rw [step_some hr, hreceives, Bool.and_true]
    refine ⟨.of_own hget rfl fun _ => ⟨fun hholds => ?_, fun hover => ?_⟩, fun hholds => ⟨?_, hreceives⟩⟩
    · rcases Bool.or_eq_true_iff.mp hholds with hstill | hfull
      · rw [hheld (Bool.and_eq_true_iff.mp hstill).1, Bool.true_or]
      · have hover : r.buffered > HIGH_WATER := of_decide_eq_true hfull
        have hpause : (r.leg.relayed Γ.config.channelByteRateLimit f.gateway.now r.frame.data.length r.buffered).2 = true := by
          unfold RelayLeg.relayed
          dsimp only
          rw [if_pos hover]
        rw [hpause, Bool.or_true]
    · have hfull : HIGH_WATER < r.buffered := hover
      dsimp only
      rw [decide_eq_true hfull, Bool.or_true]
    · dsimp only
      rcases Bool.or_eq_true_iff.mp hholds with hstill | hfull
      · exact of_decide_eq_true (Bool.and_eq_true_iff.mp hstill).2
      · have hover := of_decide_eq_true hfull
        omega
  | resume hr hk hl hresumes hends hchannels hopens hget =>
    have hfree := not_held hs hL hk hl hresumes hmeasured hcross
    rw [step_none hr, hfree, Bool.false_and]
    refine ⟨.of_own hget rfl fun hdst => ⟨nofun, fun hfull => ?_⟩, nofun⟩
    have hheld := (hs.leg.holds _ _ hk hl (hopens (hends.2 ▸ hdst))).2 hfull
    rw [hfree] at hheld
    cases hheld
  | stay hr hstays =>
    rw [step_none hr]
    have hleg := hs.leg.stays hstays fun hstart _ _ _ => ⟨fun hheld => ?_, fun hfull => ?_⟩
    · refine ⟨⟨fun k leg hk hl hdst => ?_, fun hno => ?_⟩, fun hheld => ?_⟩
      · have hreceives : (f.gateway.step Γ e).receives w = true := Gateway.receives_iff.mpr ⟨k, leg, hk, hl, hdst⟩
        dsimp only
        rw [hreceives, Bool.and_true]
        exact hleg.holds k leg hk hl hdst
      · obtain ⟨hfree, hempty⟩ := hleg.start hno
        refine ⟨?_, hempty⟩
        dsimp only
        rw [hfree, Bool.false_and]
      · obtain ⟨hheld, hreceives⟩ := Bool.and_eq_true_iff.mp hheld
        exact ⟨(hs.low hheld).1, hreceives⟩
    · rw [hstart.1] at hheld
      cases hheld
    · omega

theorem Kept.flush {f : Flow} {w : SocketId} (hs : f.Kept w) (level : Nat) : (f.step Γ w (.flush level)).Kept w := by
  refine ⟨⟨fun k leg hk hl hdst => ⟨fun hheld => ?_, fun hfull => ?_⟩, fun hno => ?_⟩, fun hheld => ?_⟩
  · obtain ⟨hheld, -⟩ := Bool.and_eq_true_iff.mp hheld
    exact (hs.leg.holds k leg hk hl hdst).1 hheld
  · have hlevel : HIGH_WATER < min level f.level := hfull
    have hheld := (hs.leg.holds k leg hk hl hdst).2 (by omega)
    have hlow : HIGH_WATER / 4 < min level f.level := by omega
    change (f.held && decide (HIGH_WATER / 4 < min level f.level)) = true
    rw [hheld, decide_eq_true hlow]
    rfl
  · obtain ⟨hfree, hempty⟩ := hs.leg.start hno
    refine ⟨?_, ?_⟩
    · change (f.held && _) = false
      rw [hfree, Bool.false_and]
    · change min level f.level = 0
      rw [hempty, Nat.min_zero]
  · obtain ⟨hheld, hlow⟩ := Bool.and_eq_true_iff.mp hheld
    exact ⟨of_decide_eq_true hlow, (hs.low hheld).2⟩

/-- A frame that is not relayed while its sender is held comes on top of at most the high-water mark. -/
theorem Kept.bounded {f : Flow} {w : SocketId} {e : FlowEvent} (hs : f.Kept w) (hmeasured : f.Measured w e)
    (hpress : ¬ f.Presses w e) (hbound : f.level ≤ HIGH_WATER + f.largest) :
    (f.step Γ w e).level ≤ HIGH_WATER + (f.step Γ w e).largest := by
  cases e with
  | flush level =>
    change min level f.level ≤ HIGH_WATER + f.largest
    omega
  | event e =>
    rcases hr : f.gateway.relays w e with _ | r
    · rw [step_none hr]
      exact hbound
    · rw [step_some hr]
      dsimp only
      have hbuffered : r.buffered ≤ f.level + r.frame.wireSize := by
        have hlevel := hmeasured.1
        rw [hr] at hlevel
        exact hlevel
      obtain ⟨k, -, -, -, hk, hl, -, -, hopen⟩ := Gateway.relays_eq_some hr
      have hlevel : f.level ≤ HIGH_WATER := by
        by_contra hno
        have hheld := (hs.leg.holds k r.leg hk hl hopen).2 (by omega)
        exact hpress ⟨by rw [hr]; rfl, hheld⟩
      omega

/-- A step that does not cross does not resume a sender that is held, nor one whose rate timer is not due. -/
theorem Kept.respects {f : Flow} {w : SocketId} {e : FlowEvent} (hs : f.Kept w) (fresh : f.gateway.Fresh Γ)
    (hA : f.gateway.Admission) (hL : f.gateway.Legs) (hmeasured : f.Measured w e) (hcross : ¬ f.Crosses w e) :
    f.Respects Γ w e := by
  intro k leg k' hk hl hpaused hk' hunpaused hlives
  cases e with
  | flush level =>
    obtain rfl := Option.some.inj (hk.symm.trans hk')
    rw [hpaused] at hunpaused
    cases hunpaused
  | event e =>
    cases legStep (Γ := Γ) e w fresh hA hL with
    | relay hr hk0 hl0 hpaused0 hends hdst hget =>
      rw [step_some hr] at hk'
      obtain rfl := Option.some.inj (hk.symm.trans hk0)
      obtain rfl := Option.some.inj (hget.symm.trans hk')
      dsimp only at hunpaused
      rw [hpaused, Bool.true_or] at hunpaused
      cases hunpaused
    | resume hr hk0 hl0 hresumes hends hchannels hopens hget =>
      obtain rfl := Option.some.inj (hk.symm.trans hk0)
      obtain rfl := Listener.relay.inj (hl.symm.trans hl0)
      rw [step_none hr] at hlives
      dsimp only at hlives
      rw [hchannels] at hlives
      refine ⟨not_held hs hL hk hl hresumes hmeasured hcross, fun due hdue => ?_⟩
      by_contra hnot
      refine hcross ?_
      rcases hresumes with ⟨rfl, hpast⟩ | ⟨buffered, rfl, hdrains, hdrained⟩
      · simp only [Crosses, hk, hl]
        exact ⟨trivial, hlives, hpast, Or.inr ⟨due, hdue, by omega⟩⟩
      · simp only [Crosses, hk, hl]
        exact ⟨trivial, hlives, hdrains, hdrained, due, hdue, by omega⟩
    | stay hr hstays =>
      rw [step_none hr] at hk' hlives
      obtain ⟨k1, leg1, hk1, hl1, hends⟩ := hstays.forth k leg hk hl
      obtain rfl := Option.some.inj (hk1.symm.trans hk')
      rcases hstays.back k1 leg1 hk1 hl1 with ⟨hgone, -⟩ | ⟨k0, hk0, -, hsame, -⟩ | ⟨hno, -⟩
      · rw [hends.1] at hgone
        simp [InsertionMap.has, hgone] at hlives
      · obtain rfl := Option.some.inj (hk.symm.trans hk0)
        rw [hsame, hpaused] at hunpaused
        cases hunpaused
      · exact absurd hl (hno k leg hk)

/-- A rate timer resumes its leg, also while the sender is held. -/
theorem timer_resumes {f : Flow} {w : SocketId} {k : WsSocket} {leg : RelayLeg} {due : Nat}
    (hrun : f.gateway.uncaught = none) (hk : f.gateway.net.sockets.get w = some k) (hl : k.listener = .relay leg)
    (hpaused : k.paused = true) (hstate : k.readyState ≠ .closed) (hlives : f.gateway.channels.has leg.channelId = true)
    (hdue : due ∈ leg.rateTimers) (hpast : due ≤ f.gateway.now) (hheld : f.held = true) :
    ¬ f.Respects Γ w (.event (.rateTimer w)) := by
  intro hrespects
  have hk' : f.gateway.quiet.net.sockets.get w = some k := hk
  have hpast' : due ≤ f.gateway.quiet.now := hpast
  have hfires := Gateway.rateTimerFires_get hk' hl
  rcases hfind : leg.rateTimers.find? (fun due => due ≤ f.gateway.quiet.now) with _ | first
  · have hnone := List.find?_eq_none.mp hfind due hdue
    simp [hpast'] at hnone
  · rw [hfind] at hfires
    have hget := Gateway.resumeLeg_get hk' { leg with rateTimers := leg.rateTimers.erase first } w
    have hmoves := Gateway.resumeLeg_moves hk' hl { leg with rateTimers := leg.rateTimers.erase first } ⟨rfl, rfl⟩
    rw [if_pos rfl, if_neg hstate] at hget
    have hstep : (f.step Γ w (.event (.rateTimer w))).gateway =
        { f.gateway.quiet.rateTimerFires w with drawn := (f.gateway.quiet.rateTimerFires w).drawn + 1 } := by
      rw [step_none rfl, step_running hrun]
      rfl
    have hfree := (hrespects k leg _ hk hl hpaused (by rw [hstep, hfires]; exact hget) rfl ?_).1
    · rw [hheld] at hfree
      cases hfree
    · rw [hstep, hfires]
      exact hlives

end Flow

/-! ## Runs -/

section Runs

variable {Γ : Ctx} {storage : Storage}

/-- The gateway and one direction, the socket `w`, under observation. -/
def flow (Γ : Ctx) (storage : Storage) (w : SocketId) : EventMachine Flow FlowEvent where
  init := { gateway := (gateway Γ storage).init, level := 0, held := false, largest := 0 }
  step := Flow.step Γ w

/-- The gateway under observation is the gateway. -/
theorem flow_gateway (w : SocketId) (es : List FlowEvent) :
    ∃ events, ((flow Γ storage w).run es).gateway = (gateway Γ storage).run events := by
  induction es using List.reverseRecOn with
  | nil => exact ⟨[], rfl⟩
  | append_singleton es e ih =>
    obtain ⟨events, he⟩ := ih
    rw [EventMachine.run_snoc]
    cases e with
    | flush level => exact ⟨events, he⟩
    | event e =>
      refine ⟨events ++ [e], ?_⟩
      rw [EventMachine.run_snoc, ← he]
      change (Flow.step Γ w _ (.event e)).gateway = Gateway.step Γ _ e
      rcases hr : ((flow Γ storage w).run es).gateway.relays w e with _ | r
      · rw [Flow.step_none hr]
      · rw [Flow.step_some hr]

theorem flow_sound (w : SocketId) (es : List FlowEvent) :
    ((flow Γ storage w).run es).gateway.Fresh Γ ∧ ((flow Γ storage w).run es).gateway.Admission ∧
      ((flow Γ storage w).run es).gateway.Legs := by
  obtain ⟨events, he⟩ : ∃ events, ((flow Γ storage w).run es).gateway = (gateway Γ storage).run events :=
    flow_gateway w es
  rw [he]
  exact ⟨fresh_run events, channels_run events⟩

theorem kept_run (w : SocketId) (es : List FlowEvent)
    (h : (flow Γ storage w).Meets (fun f e => f.Measured w e ∧ ¬ f.Crosses w e) es) :
    ((flow Γ storage w).run es).Kept w := by
  refine EventMachine.Meets.invariant (M := flow Γ storage w) (I := Flow.Kept w)
    (J := fun f => f.gateway.Fresh Γ ∧ f.gateway.Admission ∧ f.gateway.Legs) (flow_sound w) ?_
    (fun f e hsound hs hmeets => ?_) es h
  · exact ⟨⟨fun _ _ hk => (nomatch hk), fun _ => ⟨rfl, rfl⟩⟩, nofun⟩
  · obtain ⟨hfresh, hA, hL⟩ := hsound
    obtain ⟨hmeasured, hcross⟩ := hmeets
    cases e with
    | flush level => exact Flow.Kept.flush (Γ := Γ) hs level
    | event e => exact hs.event hfresh hA hL hmeasured hcross

theorem bounded_run (w : SocketId) (es : List FlowEvent)
    (h : (flow Γ storage w).Meets (fun f e => f.Measured w e ∧ ¬ f.Crosses w e) es)
    (hpress : (flow Γ storage w).Meets (fun f e => ¬ f.Presses w e) es) :
    ((flow Γ storage w).run es).level ≤ HIGH_WATER + ((flow Γ storage w).run es).largest := by
  induction es using List.reverseRecOn with
  | nil => exact Nat.zero_le _
  | append_singleton es e ih =>
    obtain ⟨hbefore, hmeasured, -⟩ := EventMachine.meets_snoc_iff.mp h
    obtain ⟨hpressed, hpress⟩ := EventMachine.meets_snoc_iff.mp hpress
    rw [EventMachine.run_snoc]
    exact (kept_run w es hbefore).bounded hmeasured hpress (ih hbefore hpressed)

/-- In every run in which neither pause is crossed by the other, no step resumes the sender while a pause should last; and if no
frame is relayed while the sender is held, the receiver's send buffer stays within the high-water mark and one frame. -/
theorem pauses_respected (w : SocketId) (es : List FlowEvent)
    (h : (flow Γ storage w).Meets (fun f e => f.Measured w e ∧ ¬ f.Crosses w e) es) :
    (flow Γ storage w).Meets (fun f e => f.Respects Γ w e) es ∧
      ((flow Γ storage w).Meets (fun f e => ¬ f.Presses w e) es →
        ((flow Γ storage w).run es).level ≤ HIGH_WATER + ((flow Γ storage w).run es).largest) := by
  refine ⟨fun pre e hp => ?_, bounded_run w es h⟩
  obtain ⟨hfresh, hA, hL⟩ : ((flow Γ storage w).run pre).gateway.Fresh Γ ∧ _ ∧ _ := flow_sound w pre
  obtain ⟨hmeasured, hcross⟩ := h pre e hp
  exact (kept_run w pre (h.of_prefix ((List.prefix_append pre [e]).trans hp))).respects hfresh hA hL hmeasured hcross

/-- Frames of ten bytes against a limit of one: two of one read, the second while the sender is paused for the first, and a third
as soon as the windows are over. -/
def sampleTrickle : List FlowEvent :=
  samplePaired.map .event ++
    [.event (.message 5 { data := List.replicate 10 0, isBinary := true } 12 true),
      .event (.message 5 { data := List.replicate 10 0, isBinary := true } 24 true), .event (.clock 1000),
      .event (.rateTimer 5), .event (.rateTimer 5), .flush 3,
      .event (.message 5 { data := List.replicate 10 0, isBinary := true } 15 true)]

theorem pauses_respected_trickle :
    (flow sampleRateCtx sampleStorage 5).Meets (fun f e => f.Respects sampleRateCtx 5 e) sampleTrickle ∧
      ((flow sampleRateCtx sampleStorage 5).run sampleTrickle).level ≤
        HIGH_WATER + ((flow sampleRateCtx sampleStorage 5).run sampleTrickle).largest := by
  have hmeets : (flow sampleRateCtx sampleStorage 5).Meets (fun f e => f.Measured 5 e ∧ ¬ f.Crosses 5 e) sampleTrickle := by
    decide +kernel
  obtain ⟨hrespects, hbound⟩ := pauses_respected 5 sampleTrickle hmeets
  exact ⟨hrespects, hbound (by decide +kernel)⟩

/-- A frame fills the receiver's buffer, and the rate timer fires while it is full. -/
def sampleFlood (frame : Frame) : List FlowEvent :=
  samplePaired.map .event ++ [.event (.message 5 frame (HIGH_WATER + 10) true)] ++ [.event (.clock 1000)] ++
    [.event (.rateTimer 5)]

/-- The client's socket of the paired channel. -/
def sampleClient (leg : RelayLeg) (paused : Bool) : WsSocket :=
  { readyState := .open_, paused, errorListener := true, listener := .relay leg, replacedGrace := false }

/-- The client's leg once a frame as large as the high-water mark has been relayed. -/
def sampleFlooded : RelayLeg :=
  { channelId := "ccccc", dst := 6, used := HIGH_WATER, resetAt := 1000, rateTimers := [1000], drains := 1 }

/-- A frame as large as the high-water mark pauses the sender for both reasons. -/
theorem flood_pauses {f : Flow} {frame : Frame} (hsize : frame.data.length = HIGH_WATER) (hrun : f.gateway.uncaught = none)
    (hk : f.gateway.net.sockets.get 5 = some (sampleClient (.start "ccccc" 6) false))
    (hdst : f.gateway.net.readyState 6 = .open_) (hnow : f.gateway.now = 0) :
    f.gateway.relays 5 (.message 5 frame (HIGH_WATER + 10) true) =
        some { leg := .start "ccccc" 6, paused := false, frame, buffered := HIGH_WATER + 10 } ∧
      (f.gateway.step sampleRateCtx (.message 5 frame (HIGH_WATER + 10) true)).net.sockets.get 5 =
        some (sampleClient sampleFlooded true) ∧
      (f.gateway.step sampleRateCtx (.message 5 frame (HIGH_WATER + 10) true)).net.readyState 6 = .open_ ∧
      (f.gateway.step sampleRateCtx (.message 5 frame (HIGH_WATER + 10) true)).channels = f.gateway.channels ∧
      (f.gateway.step sampleRateCtx (.message 5 frame (HIGH_WATER + 10) true)).uncaught = none := by
  have hk' : f.gateway.quiet.net.sockets.get 5 = some (sampleClient (.start "ccccc" 6) false) := hk
  have hnow' : f.gateway.quiet.now = 0 := hnow
  have hlimit : sampleRateCtx.config.channelByteRateLimit = some 1 := rfl
  have hleg : (RelayLeg.start "ccccc" 6).relayed (some 1) 0 HIGH_WATER (HIGH_WATER + 10) = (sampleFlooded, true) := by
    decide +kernel
  rcases Gateway.handle_frame (Γ := sampleRateCtx) (s := f.gateway.quiet) hrun hk' rfl frame (HIGH_WATER + 10) true with
    ⟨hrelays, hstate, hopen, hmessage⟩ | ⟨hnone, -⟩
  · have hmoves := Gateway.relayMessage_legMoves (Γ := sampleRateCtx) frame (HIGH_WATER + 10) hk' rfl hstate hopen
    have hget := Gateway.relayMessage_get (Γ := sampleRateCtx) frame (HIGH_WATER + 10) hk' rfl hstate hopen 5
    rw [if_pos rfl, hsize, hnow', hlimit, hleg] at hget
    rw [step_running hrun, hmessage]
    exact ⟨hrelays, hget, (hmoves.readyState 6).trans hdst, hmoves.channels, hmoves.uncaught.trans hrun⟩
  · rw [Gateway.relays_quiet] at hnone
    simp [Gateway.relays, hrun, hk, hdst, sampleClient, RelayLeg.start, WsSocket.reads] at hnone

theorem flood_crosses {frame : Frame} (hsize : frame.data.length = HIGH_WATER) :
    (flow sampleRateCtx sampleStorage 5).Meets (fun f e => f.Measured 5 e ∧ ¬ f.Presses 5 e) (sampleFlood frame) ∧
      ¬ (flow sampleRateCtx sampleStorage 5).Meets (fun f e => f.Respects sampleRateCtx 5 e) (sampleFlood frame) := by
  have hpaired : (flow sampleRateCtx sampleStorage 5).Meets (fun f e => f.Measured 5 e ∧ ¬ f.Presses 5 e)
      (samplePaired.map .event) := by
    decide +kernel
  obtain ⟨hrun, hk, hdst, hlives, hnow, hlevel, hheld⟩ :
      ((flow sampleRateCtx sampleStorage 5).run (samplePaired.map .event)).gateway.uncaught = none ∧
      ((flow sampleRateCtx sampleStorage 5).run (samplePaired.map .event)).gateway.net.sockets.get 5 =
        some (sampleClient (.start "ccccc" 6) false) ∧
      ((flow sampleRateCtx sampleStorage 5).run (samplePaired.map .event)).gateway.net.readyState 6 = .open_ ∧
      ((flow sampleRateCtx sampleStorage 5).run (samplePaired.map .event)).gateway.channels.has "ccccc" = true ∧
      ((flow sampleRateCtx sampleStorage 5).run (samplePaired.map .event)).gateway.now = 0 ∧
      ((flow sampleRateCtx sampleStorage 5).run (samplePaired.map .event)).level = 0 ∧
      ((flow sampleRateCtx sampleStorage 5).run (samplePaired.map .event)).held = false := by
    decide +kernel
  unfold sampleFlood
  simp only [EventMachine.meets_snoc_iff, EventMachine.run_snoc]
  generalize (flow sampleRateCtx sampleStorage 5).run (samplePaired.map .event) = f at hrun hk hdst hlives hnow hlevel hheld
  obtain ⟨hrelays, hget, hopens, hchannels, hcalm⟩ := flood_pauses hsize hrun hk hdst hnow
  have hreceives : (f.gateway.step sampleRateCtx (.message 5 frame (HIGH_WATER + 10) true)).receives 5 = true :=
    Gateway.receives_iff.mpr ⟨_, _, hget, rfl, hopens⟩
  have hover : HIGH_WATER < HIGH_WATER + 10 := by omega
  have hstep : (flow sampleRateCtx sampleStorage 5).step f (.event (.message 5 frame (HIGH_WATER + 10) true)) =
      { gateway := f.gateway.step sampleRateCtx (.message 5 frame (HIGH_WATER + 10) true), level := HIGH_WATER + 10,
        held := true, largest := max f.largest frame.wireSize } := by
    refine (Flow.step_some hrelays).trans ?_
    rw [hheld, hreceives, decide_eq_true hover]
    rfl
  have hwire : HIGH_WATER + 10 ≤ f.level + frame.wireSize := by
    rw [hlevel, Frame.wireSize, hsize]
    decide
  rw [hstep]
  generalize f.gateway.step sampleRateCtx (.message 5 frame (HIGH_WATER + 10) true) = g at hget hopens hchannels hcalm hreceives
  -- A second later the buffer is still full.
  have hclock : (flow sampleRateCtx sampleStorage 5).step
      { gateway := g, level := HIGH_WATER + 10, held := true, largest := max f.largest frame.wireSize }
        (.event (.clock 1000)) =
      { gateway := g.step sampleRateCtx (.clock 1000), level := HIGH_WATER + 10,
        held := (g.step sampleRateCtx (.clock 1000)).receives 5, largest := max f.largest frame.wireSize } :=
    Flow.step_none (Γ := sampleRateCtx)
      (f := { gateway := g, level := HIGH_WATER + 10, held := true, largest := max f.largest frame.wireSize })
      (w := 5) (e := .clock 1000) rfl
  have hlater : g.step sampleRateCtx (.clock 1000) = { g.quiet with now := 1000, drawn := g.drawn + 1 } := step_running hcalm _
  have hstill : (g.step sampleRateCtx (.clock 1000)).receives 5 = true := by
    rw [hlater]
    exact hreceives
  rw [hclock, hstill, hlater]
  refine ⟨⟨⟨⟨hpaired, ⟨?_, trivial⟩, ?_⟩, ⟨trivial, trivial⟩, fun hpress => nomatch hpress.1⟩, ⟨trivial, trivial⟩,
    fun hpress => nomatch hpress.1⟩, fun hrespects => ?_⟩
  · rw [hrelays]
    exact hwire
  · rw [Flow.Presses, hheld]
    simp
  · refine absurd hrespects.2 (Flow.timer_resumes (k := sampleClient sampleFlooded true) hcalm hget rfl rfl nofun ?_
      (List.mem_singleton_self 1000) (Nat.le_refl 1000) rfl)
    exact hchannels ▸ hlives

/-- A sender that is held is resumed by its rate timer. -/
theorem pauses_crossed :
    (flow sampleRateCtx sampleStorage 5).Meets (fun f e => f.Measured 5 e ∧ ¬ f.Presses 5 e)
        (sampleFlood { data := List.replicate HIGH_WATER 0, isBinary := true }) ∧
      ¬ (flow sampleRateCtx sampleStorage 5).Meets (fun f e => f.Respects sampleRateCtx 5 e)
        (sampleFlood { data := List.replicate HIGH_WATER 0, isBinary := true }) :=
  flood_crosses List.length_replicate

end Runs

end ZclaudiaGateway
