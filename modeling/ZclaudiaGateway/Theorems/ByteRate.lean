import Mathlib.Algebra.Ring.Nat
import ZclaudiaGateway.Lemmas.RelayRun
import ZclaudiaGateway.Lemmas.Sample

/-!
# The byte rate of a direction

The token bucket of a direction carries what a window overshoots into the next one, but takes a single budget off it there and
relays the frame before it looks. So what was relayed stays within the budgets of the windows and one frame as long as no frame
opens a window while more than a whole budget is still carried over.
-/

namespace ZclaudiaGateway

/-! ## Windows -/

/-- Frames by the windows they fall into: whether a frame opens a window, and its size. -/
abbrev Frames := List (Bool × Nat)

namespace Frames

def bytes (h : Frames) : Nat := (h.map (·.2)).sum

/-- The number of windows. -/
def windows (h : Frames) : Nat := h.countP (·.1)

/-- The size of the largest frame. -/
def largest (h : Frames) : Nat := h.foldr (fun f m => max f.2 m) 0

/-- The frames of the first `n` windows. -/
def first : Nat → Frames → Frames
  | _, [] => []
  | 0, (true, _) :: _ => []
  | n + 1, (true, size) :: h => (true, size) :: first n h
  | n, (false, size) :: h => (false, size) :: first n h

theorem first_prefix (n : Nat) (h : Frames) : first n h <+: h := by
  fun_induction first n h with
  | case1 => exact List.prefix_refl _
  | case2 => exact List.nil_prefix
  | case3 n size h ih => exact List.cons_prefix_cons.mpr ⟨rfl, ih⟩
  | case4 n size h ih => exact List.cons_prefix_cons.mpr ⟨rfl, ih⟩

theorem windows_first (n : Nat) (h : Frames) : windows (first n h) ≤ n := by
  fun_induction first n h with
  | case1 => exact Nat.zero_le _
  | case2 => exact Nat.zero_le _
  | case3 n size h ih =>
    simp only [windows, List.countP_cons] at ih ⊢
    simp only [if_true]
    omega
  | case4 n size h ih =>
    simp only [windows, List.countP_cons] at ih ⊢
    simpa using ih

theorem largest_append (h h' : Frames) : largest (h ++ h') = max (largest h) (largest h') := by
  induction h with
  | nil => simp [largest]
  | cons f h ih =>
    change max f.2 (largest (h ++ h')) = max (max f.2 (largest h)) (largest h')
    rw [ih, max_assoc]

theorem largest_prefix {h h' : Frames} (hp : h <+: h') : largest h ≤ largest h' := by
  obtain ⟨rest, rfl⟩ := hp
  rw [largest_append]
  exact le_max_left _ _

theorem bytes_snoc (h : Frames) (f : Bool × Nat) : bytes (h ++ [f]) = bytes h + f.2 := by
  simp [bytes]

theorem windows_snoc (h : Frames) (f : Bool × Nat) : windows (h ++ [f]) = windows h + if f.1 then 1 else 0 := by
  simp [windows, List.countP_append, List.countP_cons]

end Frames

namespace Gateway

variable {Γ : Ctx}

/-- The frame an event relays from a socket: whether it opens a window, and its size. -/
def relayedFrame (w : SocketId) (s : Gateway) (e : Event) : Frames :=
  match s.relays w e with
  | some r => [(decide (r.leg.resetAt ≤ s.now), r.frame.data.length)]
  | none => []

/-- No frame is processed while its sender is paused, backpressure never triggers, and the clock does not go back. -/
def Steady (w : SocketId) (s : Gateway) (e : Event) : Prop :=
  match e, s.net.sockets.get w with
  | .clock now, _ => s.now ≤ now
  | .message ws _ buffered _, some k =>
    match k.listener with
    | .relay _ => ws = w → k.paused = false ∧ buffered ≤ HIGH_WATER
    | _ => True
  | _, _ => True

/-- A frame opens a window while the bucket still carries more than a whole budget. -/
def Overdraws (limit : Nat) (w : SocketId) (s : Gateway) (e : Event) : Prop :=
  match e, s.net.sockets.get w with
  | .message ws _ _ _, some k =>
    match k.listener with
    | .relay leg => ws = w ∧ s.net.readyState leg.dst = .open_ ∧ leg.resetAt ≤ s.now ∧ leg.used > 2 * limit
    | _ => False
  | _, _ => False

instance (w : SocketId) (s : Gateway) (e : Event) : Decidable (s.Steady w e) := by
  unfold Steady
  split
  · infer_instance
  · split <;> infer_instance
  · infer_instance

instance (limit : Nat) (w : SocketId) (s : Gateway) (e : Event) : Decidable (s.Overdraws limit w e) := by
  unfold Overdraws
  split
  · split <;> infer_instance
  · infer_instance

theorem Steady.clock {w : SocketId} {s : Gateway} {now : Nat} (h : s.Steady w (.clock now)) : s.now ≤ now :=
  h

/-- What the bucket of a direction knows of the frames it has relayed. -/
structure Metered (limit : Nat) (h : Frames) (now : Nat) (leg : RelayLeg) (paused : Bool) : Prop where
  counted : h = [] ∧ leg.used = 0 ∧ leg.resetAt = 0 ∨ h.bytes + limit ≤ h.windows * limit + leg.used
  overshoot : leg.used ≤ limit + h.largest
  drains : leg.drains = 0
  timers : leg.rateTimers = [] ∨ leg.rateTimers = [leg.resetAt] ∧ paused = true
  spent : leg.used > limit → paused = true ∨ leg.resetAt ≤ now

theorem Metered.start (limit now : Nat) (channelId : String) (dst : SocketId) (paused : Bool) :
    Metered limit [] now (.start channelId dst) paused :=
  ⟨Or.inl ⟨rfl, rfl, rfl⟩, Nat.zero_le _, rfl, Or.inl rfl, fun h => absurd h (Nat.not_lt_zero _)⟩

theorem Metered.later {limit now now' : Nat} {h : Frames} {leg : RelayLeg} {paused : Bool} (hb : Metered limit h now leg paused)
    (hnow : now ≤ now') : Metered limit h now' leg paused :=
  ⟨hb.counted, hb.overshoot, hb.drains, hb.timers, fun hu => (hb.spent hu).imp id fun hr => hr.trans hnow⟩

/-- What was relayed stays within the budgets of the windows and one frame. -/
theorem Metered.bound {limit now : Nat} {h : Frames} {leg : RelayLeg} {paused : Bool} (hb : Metered limit h now leg paused) :
    h.bytes ≤ h.windows * limit + h.largest := by
  rcases hb.counted with ⟨rfl, -⟩ | hc
  · exact Nat.zero_le _
  · have ho := hb.overshoot
    omega

/-- A frame on an unpaused leg that does not overdraw its bucket. -/
theorem Metered.relay {limit now buffered : Nat} {h : Frames} {leg : RelayLeg} (hb : Metered limit h now leg false)
    (size : Nat) (hpos : 0 < limit) (hbuffered : buffered ≤ HIGH_WATER) (hdraw : leg.resetAt ≤ now → leg.used ≤ 2 * limit) :
    Metered limit (h ++ [(decide (leg.resetAt ≤ now), size)]) now (leg.relayed (some limit) now size buffered).1
      (leg.relayed (some limit) now size buffered).2 := by
  have hlargest : (Frames.largest (h ++ [(decide (leg.resetAt ≤ now), size)])) = max h.largest size := by
    rw [Frames.largest_append]
    simp [Frames.largest]
  have htimers : leg.rateTimers = [] := by
    rcases hb.timers with ht | ⟨-, hp⟩
    · exact ht
    · cases hp
  -- The bucket right after the frame is counted.
  have hspent : (spend limit size now leg).drains = 0 ∧ (spend limit size now leg).rateTimers = [] ∧
      (Frames.bytes (h ++ [(decide (leg.resetAt ≤ now), size)]) + limit ≤
        Frames.windows (h ++ [(decide (leg.resetAt ≤ now), size)]) * limit + (spend limit size now leg).used) ∧
      (spend limit size now leg).used ≤ limit + max h.largest size := by
    rw [Frames.bytes_snoc, Frames.windows_snoc]
    by_cases hopens : leg.resetAt ≤ now
    · have hused := hdraw hopens
      have hcounted : h.bytes ≤ h.windows * limit + (leg.used - limit) := by
        rcases hb.counted with ⟨rfl, -⟩ | hc
        · exact Nat.zero_le _
        · omega
      simp only [spend, ge_iff_le, hopens, if_true, decide_true, Nat.add_mul, Nat.one_mul]
      exact ⟨hb.drains, htimers, by omega, by omega⟩
    · have hwithin : leg.used ≤ limit := by
        by_contra hover
        rcases hb.spent (by omega) with hp | hr
        · cases hp
        · exact hopens hr
      have hcounted : h.bytes + limit ≤ h.windows * limit + leg.used := by
        rcases hb.counted with ⟨-, -, hr⟩ | hc
        · exact absurd (hr.trans_le (Nat.zero_le now)) hopens
        · exact hc
      simp only [spend, ge_iff_le, hopens, if_false, decide_false, Bool.false_eq_true, Nat.add_zero]
      exact ⟨hb.drains, htimers, by omega, by omega⟩
  obtain ⟨hdrains, hnone, hcounted, hover⟩ := hspent
  have hrelayed : leg.relayed (some limit) now size buffered =
      if (spend limit size now leg).used > limit then
        ({ (spend limit size now leg) with rateTimers := (spend limit size now leg).rateTimers ++ [(spend limit size now leg).resetAt] }, true)
      else (spend limit size now leg, false) := by
    unfold RelayLeg.relayed RelayLeg.rated
    dsimp only
    rw [if_neg (by omega), if_neg (by omega)]
  rw [hrelayed]
  split
  · exact ⟨Or.inr hcounted, hlargest ▸ hover, hdrains, Or.inr ⟨by rw [hnone]; rfl, rfl⟩, fun _ => Or.inl rfl⟩
  · rename_i hwithin
    exact ⟨Or.inr hcounted, hlargest ▸ hover, hdrains, Or.inl hnone, fun hu => absurd hu hwithin⟩

/-- A due rate timer of a leg. -/
theorem Metered.timer {limit now : Nat} {h : Frames} {leg : RelayLeg} {paused : Bool} (hb : Metered limit h now leg paused)
    {due : Nat} (hdue : leg.rateTimers.find? (fun due => due ≤ now) = some due) (paused' : Bool) :
    Metered limit h now { leg with rateTimers := leg.rateTimers.erase due } paused' := by
  have hmem := List.mem_of_find?_eq_some hdue
  have hpast : due ≤ now := by simpa using List.find?_some hdue
  rcases hb.timers with ht | ⟨ht, -⟩
  · rw [ht] at hmem
    cases hmem
  · rw [ht, List.mem_singleton] at hmem
    subst hmem
    refine ⟨hb.counted, hb.overshoot, hb.drains, Or.inl ?_, fun _ => Or.inr hpast⟩
    change leg.rateTimers.erase leg.resetAt = []
    rw [ht]
    simp

/-! ## Steps -/

/-- One event of a steady run that does not overdraw the bucket. -/
theorem bucket_step {s : Gateway} {e : Event} {w : SocketId} {limit : Nat} {h : Frames}
    (hlimit : Γ.config.channelByteRateLimit = some limit) (hpos : 0 < limit) (fresh : s.Fresh Γ) (hA : s.Admission) (hL : s.Legs)
    (hrun : s.uncaught = none) (hsteady : s.Steady w e) (hdraw : ¬ s.Overdraws limit w e)
    (hs : s.LegKept (Metered limit h s.now) (h = []) w) :
    (s.handle Γ e).LegKept (Metered limit (h ++ relayedFrame w s e) (s.handle Γ e).now) (h ++ relayedFrame w s e = []) w ∧
      (h.bytes ≤ h.windows * limit + h.largest → (h ++ relayedFrame w s e).bytes ≤
        (h ++ relayedFrame w s e).windows * limit + (h ++ relayedFrame w s e).largest) := by
  have hlater : s.now ≤ (s.handle Γ e).now := by
    by_cases hclock : ∃ now, e = .clock now
    · obtain ⟨now, rfl⟩ := hclock
      exact hsteady.clock
    · exact (handle_now fresh fun now he => hclock ⟨now, he⟩).ge
  -- An event that relays nothing.
  have hquiet (hframe : relayedFrame w s e = []) (hkept : (s.handle Γ e).LegKept (Metered limit h s.now) (h = []) w) :
      (s.handle Γ e).LegKept (Metered limit (h ++ relayedFrame w s e) (s.handle Γ e).now) (h ++ relayedFrame w s e = []) w ∧
        (h.bytes ≤ h.windows * limit + h.largest → (h ++ relayedFrame w s e).bytes ≤
          (h ++ relayedFrame w s e).windows * limit + (h ++ relayedFrame w s e).largest) := by
    rw [hframe, List.append_nil]
    exact ⟨hkept.mono fun leg paused hb => hb.later hlater, id⟩
  by_cases hown : e.Drives w ∧ ∃ k leg, s.net.sockets.get w = some k ∧ k.listener = .relay leg
  · obtain ⟨hdrives, k, leg, hk, hl⟩ := hown
    rcases hdrives with ⟨frame, buffered, writable, rfl⟩ | rfl | ⟨buffered, rfl⟩
    · obtain ⟨hpaused, hbuffered⟩ : k.paused = false ∧ buffered ≤ HIGH_WATER := by
        simpa [Steady, hk, hl] using hsteady
      rcases handle_frame (Γ := Γ) hrun hk hl frame buffered writable with
        ⟨hrelays, hstate, hdst, hmessage⟩ | ⟨hrelays, hsame⟩
      · have hframe : relayedFrame w s (.message w frame buffered writable) =
            [(decide (leg.resetAt ≤ s.now), frame.data.length)] := by
          rw [relayedFrame, hrelays]
        have hbucket := (hs.holds k leg hk hl hdst)
        rw [hpaused] at hbucket
        have hnext := hbucket.relay frame.data.length hpos hbuffered fun hopens => by
          by_contra hover
          have hused : leg.used > 2 * limit := by omega
          refine hdraw ?_
          simp [Overdraws, hk, hl, hdst, hopens, hused]
        have hget := relayMessage_get (Γ := Γ) frame buffered hk hl hstate hdst w
        rw [if_pos rfl, hlimit, hpaused, Bool.false_or] at hget
        rw [hframe, hmessage, ← hframe, hframe]
        refine ⟨LegKept.of_own hget rfl fun _ => ?_, fun _ => hnext.bound⟩
        have hnow : (s.relayMessage Γ w leg frame buffered).now = s.now := by
          rw [← hmessage]
          exact handle_now fresh nofun
        rw [hnow]
        exact hnext
      · have hframe : relayedFrame w s (.message w frame buffered writable) = [] := by
          rw [relayedFrame, hrelays]
        refine hquiet hframe ?_
        rw [hsame]
        exact hs
    · refine hquiet rfl ?_
      change (s.rateTimerFires w).LegKept _ _ w
      rw [rateTimerFires_get hk hl]
      split
      · rename_i due hdue
        have hget := resumeLeg_get hk { leg with rateTimers := leg.rateTimers.erase due } w
        have hmoves := resumeLeg_moves hk hl { leg with rateTimers := leg.rateTimers.erase due } ⟨rfl, rfl⟩
        rw [if_pos rfl] at hget
        exact LegKept.of_own hget rfl fun hdst => (hs.holds k leg hk hl ((hmoves.readyState _).symm.trans hdst)).timer hdue _
      · exact hs
    · refine hquiet rfl ?_
      change (s.drainPoll w buffered).LegKept _ _ w
      rw [drainPoll_get buffered hk hl]
      split
      · rename_i hdrains
        have hget := resumeLeg_get hk { leg with drains := leg.drains - 1 } w
        have hmoves := resumeLeg_moves hk hl { leg with drains := leg.drains - 1 } ⟨rfl, rfl⟩
        rw [if_pos rfl] at hget
        refine LegKept.of_own hget rfl fun hdst => ?_
        have hnone := (hs.holds k leg hk hl ((hmoves.readyState _).symm.trans hdst)).drains
        omega
      · exact hs
  · have hstays := handle_legStays (fun hdrives k leg hk hl => hown ⟨hdrives, k, leg, hk, hl⟩) fresh hA hL
    refine hquiet ?_ (hs.stays hstays ?_)
    · unfold relayedFrame
      split
      · rename_i r hr
        obtain ⟨k, writable, rfl, -, hk, hl, -⟩ := relays_eq_some hr
        exact absurd ⟨Or.inl ⟨r.frame, r.buffered, writable, rfl⟩, k, r.leg, hk, hl⟩ hown
      · rfl
    · rintro rfl channelId dst paused
      exact .start limit s.now channelId dst paused

end Gateway

/-! ## Runs -/

section Runs

open Gateway

variable {Γ : Ctx} {storage : Storage}

/-- The frames a run relays from a socket. -/
def relayedFrames (Γ : Ctx) (storage : Storage) (w : SocketId) (es : List Event) : Frames :=
  (gateway Γ storage).history (relayedFrame w) es

theorem relayedFrame_length (w : SocketId) (s : Gateway) (e : Event) : (relayedFrame w s e).length ≤ 1 := by
  unfold relayedFrame
  split <;> simp

theorem bucket_run {limit : Nat} (hlimit : Γ.config.channelByteRateLimit = some limit) (hpos : 0 < limit) (w : SocketId)
    (es : List Event) (h : (gateway Γ storage).Meets (fun s e => s.Steady w e ∧ ¬ s.Overdraws limit w e) es) :
    ((gateway Γ storage).run es).LegKept (Metered limit (relayedFrames Γ storage w es) ((gateway Γ storage).run es).now)
        (relayedFrames Γ storage w es = []) w ∧
      (relayedFrames Γ storage w es).bytes ≤
        (relayedFrames Γ storage w es).windows * limit + (relayedFrames Γ storage w es).largest := by
  induction es using List.reverseRecOn with
  | nil => exact ⟨⟨fun _ _ hk => (nomatch hk), fun _ => rfl⟩, Nat.zero_le _⟩
  | append_singleton es e ih =>
    rw [EventMachine.meets_snoc_iff] at h
    obtain ⟨hkept, hbytes⟩ := ih h.1
    obtain ⟨hsteady, hdraw⟩ := h.2
    have hfresh : ((gateway Γ storage).run es).quiet.Fresh Γ := (fresh_run es).turns (quiet_turns _)
    obtain ⟨hA, hL⟩ : ((gateway Γ storage).run es).Admission ∧ ((gateway Γ storage).run es).Legs := channels_run es
    have hframes : relayedFrames Γ storage w (es ++ [e]) =
        relayedFrames Γ storage w es ++ relayedFrame w ((gateway Γ storage).run es) e := EventMachine.history_snoc _ _ _ _
    rw [hframes, EventMachine.run_snoc]
    generalize relayedFrames Γ storage w es = frames at hkept hbytes
    generalize (gateway Γ storage).run es = s at hkept hsteady hdraw hfresh hA hL
    change (s.step Γ e).LegKept _ _ w ∧ _
    rcases hrun : s.uncaught with _ | error
    · have hquieted : s.quiet.LegKept (Metered limit frames s.quiet.now) (frames = []) w := hkept.of_eq rfl
      obtain ⟨hnext, hbound⟩ := bucket_step (s := s.quiet) hlimit hpos hfresh (hA.turns (quiet_turns s)) (hL.turns (quiet_turns s))
        hrun hsteady hdraw hquieted
      change (s.step Γ e).LegKept (Metered limit _ (s.step Γ e).now) _ w ∧ _
      rw [step_running hrun]
      exact ⟨hnext.of_eq rfl, hbound hbytes⟩
    · have hnone : relayedFrame w s e = [] := by
        simp [relayedFrame, relays, hrun]
      change (s.step Γ e).LegKept (Metered limit _ (s.step Γ e).now) _ w ∧ _
      rw [step_stopped hrun, hnone, List.append_nil]
      exact ⟨hkept.of_eq rfl, hbytes⟩

/-- In every steady run that does not overdraw the bucket of a direction, the first `n` windows of the direction relay at most
their budgets and the largest frame. -/
theorem byte_rate {limit : Nat} (hlimit : Γ.config.channelByteRateLimit = some limit) (hpos : 0 < limit) (w : SocketId)
    (es : List Event) (h : (gateway Γ storage).Meets (fun s e => s.Steady w e ∧ ¬ s.Overdraws limit w e) es) (n : Nat) :
    (Frames.first n (relayedFrames Γ storage w es)).bytes ≤ n * limit + (relayedFrames Γ storage w es).largest := by
  have hprefix := Frames.first_prefix n (relayedFrames Γ storage w es)
  obtain ⟨pre, hpre, he⟩ := (gateway Γ storage).history_initial (relayedFrame_length w) hprefix
  have hbound := (bucket_run hlimit hpos w pre (h.of_prefix hpre)).2
  change relayedFrames Γ storage w pre = _ at he
  rw [he] at hbound
  have hwindows : (Frames.first n (relayedFrames Γ storage w es)).windows * limit ≤ n * limit :=
    Nat.mul_le_mul_right _ (Frames.windows_first n _)
  have hlargest := Frames.largest_prefix hprefix
  omega

/-- A binary frame of `n` zeros that fits into the receiver's socket buffer. -/
def Event.bytes (ws : SocketId) (n : Nat) : Event := .message ws { data := List.replicate n 0, isBinary := true } 0 true

/-- Two frames of `n` bytes, the second one as soon as the window of the first is over. -/
def sampleBurst (n : Nat) : List Event := samplePaired ++ [.bytes 5 n, .clock 1000, .rateTimer 5, .bytes 5 n]

theorem byte_rate_burst :
    (Frames.first 2 (relayedFrames sampleRateCtx sampleStorage 5 (sampleBurst 2))).bytes ≤
      2 * 1 + (relayedFrames sampleRateCtx sampleStorage 5 (sampleBurst 2)).largest :=
  byte_rate rfl Nat.one_pos 5 (sampleBurst 2) (by decide +kernel) 2

/-- A frame of ten budgets is followed by another one right in the next window. -/
theorem byte_rate_exceeded :
    (gateway sampleRateCtx sampleStorage).Meets (fun s e => s.Steady 5 e) (sampleBurst 10) ∧
      2 * 1 + (relayedFrames sampleRateCtx sampleStorage 5 (sampleBurst 10)).largest <
        (Frames.first 2 (relayedFrames sampleRateCtx sampleStorage 5 (sampleBurst 10))).bytes := by
  refine ⟨by decide +kernel, ?_⟩
  have hframes : relayedFrames sampleRateCtx sampleStorage 5 (sampleBurst 10) = [(true, 10), (true, 10)] := by
    decide +kernel
  rw [hframes]
  decide

end Runs

end ZclaudiaGateway
