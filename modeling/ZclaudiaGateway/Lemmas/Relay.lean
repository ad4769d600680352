import ZclaudiaGateway.Lemmas.Sockets

/-!
# One direction of a channel

What a frame, a rate timer and a drain poll do to the leg they belong to: they move its counters, and pause or resume its
socket. Nothing else changes but the outbox.
-/

namespace ZclaudiaGateway

namespace RelayLeg

/-- The leg after the byte rate limit's part of a frame, and whether that part pauses it. -/
def rated (limit : Option Nat) (now size : Nat) (leg : RelayLeg) : RelayLeg × Bool :=
  match limit with
  | none => (leg, false)
  | some limit =>
    if limit = 0 then (leg, false)
    else
      let leg := Gateway.spend limit size now leg
      if leg.used > limit then ({ leg with rateTimers := leg.rateTimers ++ [leg.resetAt] }, true) else (leg, false)

/-- The leg after a frame, and whether the frame pauses it. -/
def relayed (limit : Option Nat) (now size buffered : Nat) (leg : RelayLeg) : RelayLeg × Bool :=
  let r := leg.rated limit now size
  if buffered > HIGH_WATER then ({ r.1 with drains := r.1.drains + 1 }, true) else r

/-- The same direction of the same channel. -/
def SameEnds (leg leg' : RelayLeg) : Prop := leg'.channelId = leg.channelId ∧ leg'.dst = leg.dst

theorem rated_ends (limit : Option Nat) (now size : Nat) (leg : RelayLeg) : leg.SameEnds (leg.rated limit now size).1 := by
  unfold rated
  split
  · exact ⟨rfl, rfl⟩
  · split
    · exact ⟨rfl, rfl⟩
    · dsimp only
      have hspend (L : Nat) : leg.SameEnds (Gateway.spend L size now leg) := by
        unfold Gateway.spend
        split <;> exact ⟨rfl, rfl⟩
      split <;> exact hspend _

theorem relayed_ends (limit : Option Nat) (now size buffered : Nat) (leg : RelayLeg) :
    leg.SameEnds (leg.relayed limit now size buffered).1 := by
  unfold relayed
  dsimp only
  split <;> exact leg.rated_ends limit now size

end RelayLeg

namespace Net

/-- The sockets once a leg is set and its socket, which is not closed, is paused or left as it is. -/
theorem setLeg_get {ws : SocketId} {k : WsSocket} {net : Net} (hk : net.sockets.get ws = some k) (leg : RelayLeg)
    (w : SocketId) :
    (Gateway.setLeg ws leg net).sockets.get w =
      if w = ws then some { k with listener := .relay leg } else net.sockets.get w := by
  unfold Gateway.setLeg Net.modifySocket
  rw [InsertionMap.get_modify]
  split
  · rename_i hw
    rw [hw, hk]
    rfl
  · rfl

theorem pause_get {ws : SocketId} {k : WsSocket} {net : Net} (hk : net.sockets.get ws = some k)
    (hstate : k.readyState ≠ .closed) (w : SocketId) :
    (net.pause ws).sockets.get w = if w = ws then some { k with paused := true } else net.sockets.get w := by
  unfold Net.pause
  rw [readyState_eq hk, if_neg hstate]
  unfold Net.modifySocket Net.emit
  rw [InsertionMap.get_modify]
  split
  · rename_i hw
    rw [hw, hk]
    rfl
  · rfl

theorem resume_get_open {ws : SocketId} {k : WsSocket} {net : Net} (hk : net.sockets.get ws = some k)
    (hstate : k.readyState ≠ .closed) (w : SocketId) :
    (net.resume ws).sockets.get w = if w = ws then some { k with paused := false } else net.sockets.get w := by
  unfold Net.resume
  rw [readyState_eq hk, if_neg hstate]
  unfold Net.modifySocket
  rw [InsertionMap.get_modify]
  split
  · rename_i hw
    rw [hw, hk]
    rfl
  · rfl

end Net

namespace Gateway

variable {Γ : Ctx}

/-- A leg relays: only its own socket's counters and its being paused change. -/
structure LegMoves (ws : SocketId) (s t : Gateway) : Prop where
  channels : t.channels = s.channels
  channelTickets : t.channelTickets = s.channelTickets
  now : t.now = s.now
  drawn : t.drawn = s.drawn
  uncaught : t.uncaught = s.uncaught
  exchanges : t.net.exchanges = s.net.exchanges
  requests : t.net.requests = s.net.requests
  others : ∀ w, w ≠ ws → t.net.sockets.get w = s.net.sockets.get w
  own : ∃ k leg leg' paused, s.net.sockets.get ws = some k ∧ k.listener = .relay leg ∧ leg.SameEnds leg' ∧
    t.net.sockets.get ws = some { k with listener := .relay leg', paused }

/-- What the sockets keep in passing and their legs keep while they relay, every socket keeps. -/
theorem LegMoves.sockets {R : WsSocket → WsSocket → Prop} (hrefl : ∀ k, R k k)
    (hleg : ∀ k leg leg' paused, k.listener = .relay leg → leg.SameEnds leg' → R k { k with listener := .relay leg', paused })
    {ws : SocketId} {s t : Gateway} (h : s.LegMoves ws t) : s.net.sockets.Pointwise R t.net.sockets := by
  intro w
  by_cases hw : w = ws
  · subst hw
    obtain ⟨k, leg, leg', paused, hk, hl, hends, hk'⟩ := h.own
    rw [hk, hk']
    exact .some (hleg k leg leg' paused hl hends)
  · rw [h.others w hw]
    rcases s.net.sockets.get w with _ | k
    · exact .none
    · exact .some (hrefl k)

theorem LegMoves.readyState {ws : SocketId} {s t : Gateway} (h : s.LegMoves ws t) (d : SocketId) :
    t.net.readyState d = s.net.readyState d := by
  have hsockets : s.net.sockets.Pointwise (fun k k' => k'.readyState = k.readyState) t.net.sockets :=
    h.sockets (R := fun k k' => k'.readyState = k.readyState) (fun k => rfl) (fun _ _ _ _ _ _ => rfl)
  rcases hk : s.net.sockets.get d with _ | k
  · rw [Net.readyState, Net.readyState, hk, (hsockets.get_none_iff d).mpr hk]
  · obtain ⟨k', hk', hstate⟩ := hsockets.get_some hk
    rw [Net.readyState_eq hk, Net.readyState_eq hk', hstate]

/-- The byte rate limit's part of a frame. -/
theorem relayRate_get (limit : Option Nat) (now size : Nat) {ws : SocketId} {k : WsSocket} {leg : RelayLeg} {net : Net}
    (hk : net.sockets.get ws = some k) (hl : k.listener = .relay leg) (hstate : k.readyState ≠ .closed) :
    (relayRate limit now size ws leg net).1 = (leg.rated limit now size).1 ∧
      (relayRate limit now size ws leg net).2.exchanges = net.exchanges ∧
      ∀ w, (relayRate limit now size ws leg net).2.sockets.get w =
        if w = ws then
          some { k with
            listener := .relay (leg.rated limit now size).1
            paused := k.paused || (leg.rated limit now size).2 }
        else net.sockets.get w := by
  have hsame : { k with listener := .relay leg, paused := k.paused || false } = k := by
    rw [Bool.or_false, ← hl]
  have hnothing (w : SocketId) : net.sockets.get w =
      if w = ws then some { k with listener := .relay leg, paused := k.paused || false } else net.sockets.get w := by
    rw [hsame]
    split
    · rename_i hw
      rw [hw, hk]
    · rfl
  rcases limit with _ | limit
  · exact ⟨rfl, rfl, hnothing⟩
  · unfold relayRate RelayLeg.rated
    dsimp only
    by_cases hzero : limit = 0
    · simp only [if_pos hzero]
      exact ⟨trivial, trivial, hnothing⟩
    · simp only [if_neg hzero]
      by_cases hover : (spend limit size now leg).used > limit
      · simp only [if_pos hover]
        refine ⟨trivial, ?_, fun w => ?_⟩
        · unfold Net.pause
          split <;> rfl
        · have hset := Net.setLeg_get hk
            { (spend limit size now leg) with
              rateTimers := (spend limit size now leg).rateTimers ++ [(spend limit size now leg).resetAt] } ws
          rw [if_pos rfl] at hset
          rw [Net.pause_get hset hstate, Net.setLeg_get hk, Bool.or_true]
          split <;> rfl
      · simp only [if_neg hover]
        refine ⟨trivial, rfl, fun w => ?_⟩
        rw [Net.setLeg_get hk, Bool.or_false]

theorem pause_requests (ws : SocketId) (net : Net) : (net.pause ws).requests = net.requests := by
  unfold Net.pause
  split
  · rfl
  · rw [Net.requests_emit, if_neg (by simp [Output.isRequest])]
    rfl

theorem relayRate_requests (limit : Option Nat) (now size : Nat) (ws : SocketId) (leg : RelayLeg) (net : Net) :
    (relayRate limit now size ws leg net).2.requests = net.requests := by
  unfold relayRate
  split
  · rfl
  · split
    · rfl
    · dsimp only
      split
      · exact pause_requests ws _
      · rfl

/-- A frame that is relayed. -/
theorem relayMessage_get {s : Gateway} {ws : SocketId} {k : WsSocket} {leg : RelayLeg} (frame : Frame) (buffered : Nat)
    (hk : s.net.sockets.get ws = some k) (hl : k.listener = .relay leg) (hstate : k.readyState ≠ .closed)
    (hdst : s.net.readyState leg.dst = .open_) (w : SocketId) :
    (s.relayMessage Γ ws leg frame buffered).net.sockets.get w =
      if w = ws then
        some { k with
          listener := .relay (leg.relayed Γ.config.channelByteRateLimit s.now frame.data.length buffered).1
          paused := k.paused || (leg.relayed Γ.config.channelByteRateLimit s.now frame.data.length buffered).2 }
      else s.net.sockets.get w := by
  have hk' : (s.net.emit (.sendFrame leg.dst frame)).sockets.get ws = some k := hk
  obtain ⟨hleg, -, hrate⟩ := relayRate_get Γ.config.channelByteRateLimit s.now frame.data.length hk' hl hstate
  unfold relayMessage RelayLeg.relayed
  rw [if_neg (by simp [hdst])]
  dsimp only
  split
  · have hown := hrate ws
    rw [if_pos rfl] at hown
    have hset := Net.setLeg_get hown
      { (relayRate Γ.config.channelByteRateLimit s.now frame.data.length ws leg (s.net.emit (.sendFrame leg.dst frame))).1 with
        drains := (relayRate Γ.config.channelByteRateLimit s.now frame.data.length ws leg
          (s.net.emit (.sendFrame leg.dst frame))).1.drains + 1 } ws
    rw [if_pos rfl] at hset
    rw [Net.pause_get hset hstate, Net.setLeg_get hown, hrate, hleg, Bool.or_true]
    split <;> rfl
  · exact hrate w

theorem relayMessage_legMoves {s : Gateway} {ws : SocketId} {k : WsSocket} {leg : RelayLeg} (frame : Frame) (buffered : Nat)
    (hk : s.net.sockets.get ws = some k) (hl : k.listener = .relay leg) (hstate : k.readyState ≠ .closed)
    (hdst : s.net.readyState leg.dst = .open_) : s.LegMoves ws (s.relayMessage Γ ws leg frame buffered) := by
  have hget := relayMessage_get (Γ := Γ) frame buffered hk hl hstate hdst
  have hexchanges : (s.relayMessage Γ ws leg frame buffered).net.exchanges = s.net.exchanges := by
    have hk' : (s.net.emit (.sendFrame leg.dst frame)).sockets.get ws = some k := hk
    have hrate := (relayRate_get Γ.config.channelByteRateLimit s.now frame.data.length hk' hl hstate).2.1
    unfold relayMessage
    rw [if_neg (by simp [hdst])]
    dsimp only
    split
    · unfold Net.pause
      split <;> exact hrate
    · exact hrate
  have hrequests : (s.relayMessage Γ ws leg frame buffered).net.requests = s.net.requests := by
    have hrate := relayRate_requests Γ.config.channelByteRateLimit s.now frame.data.length ws leg
      (s.net.emit (.sendFrame leg.dst frame))
    rw [Net.requests_emit, if_neg (by simp [Output.isRequest])] at hrate
    unfold relayMessage
    rw [if_neg (by simp [hdst])]
    dsimp only
    split
    · exact (pause_requests ws _).trans hrate
    · exact hrate
  have hrest : (s.relayMessage Γ ws leg frame buffered).channels = s.channels ∧
      (s.relayMessage Γ ws leg frame buffered).channelTickets = s.channelTickets ∧
      (s.relayMessage Γ ws leg frame buffered).now = s.now ∧
      (s.relayMessage Γ ws leg frame buffered).drawn = s.drawn ∧
      (s.relayMessage Γ ws leg frame buffered).uncaught = s.uncaught := by
    unfold relayMessage
    rw [if_neg (by simp [hdst])]
    exact ⟨rfl, rfl, rfl, rfl, rfl⟩
  have hown := hget ws
  rw [if_pos rfl] at hown
  exact ⟨hrest.1, hrest.2.1, hrest.2.2.1, hrest.2.2.2.1, hrest.2.2.2.2, hexchanges, hrequests, fun w hw => by rw [hget, if_neg hw],
    k, leg, _, _, hk, hl, leg.relayed_ends _ _ _ _, hown⟩

theorem relayMessage_moves {s : Gateway} {ws : SocketId} {k : WsSocket} {leg : RelayLeg} (frame : Frame) (buffered : Nat)
    (hk : s.net.sockets.get ws = some k) (hl : k.listener = .relay leg) (hstate : k.readyState ≠ .closed) :
    s.relayMessage Γ ws leg frame buffered = s ∨ s.LegMoves ws (s.relayMessage Γ ws leg frame buffered) := by
  by_cases hdst : s.net.readyState leg.dst = .open_
  · exact Or.inr (relayMessage_legMoves frame buffered hk hl hstate hdst)
  · refine Or.inl ?_
    unfold relayMessage
    rw [if_pos hdst]

/-- A leg whose counters move is resumed. -/
theorem resumeLeg_get {ws : SocketId} {k : WsSocket} {net : Net} (hk : net.sockets.get ws = some k) (leg : RelayLeg)
    (w : SocketId) :
    ((setLeg ws leg net).resume ws).sockets.get w =
      if w = ws then
        some { k with listener := .relay leg, paused := if k.readyState = .closed then k.paused else false }
      else net.sockets.get w := by
  have hset := Net.setLeg_get hk leg
  have hown := hset ws
  rw [if_pos rfl] at hown
  by_cases hstate : k.readyState = .closed
  · unfold Net.resume
    rw [Net.readyState_eq hown, if_pos hstate, hset, if_pos hstate]
  · rw [Net.resume_get_open hown hstate, hset, if_neg hstate]
    split <;> rfl

theorem resumeLeg_moves {s : Gateway} {ws : SocketId} {k : WsSocket} {leg : RelayLeg}
    (hk : s.net.sockets.get ws = some k) (hl : k.listener = .relay leg) (leg' : RelayLeg) (hends : leg.SameEnds leg') :
    s.LegMoves ws (s.onNet (fun net => (setLeg ws leg' net).resume ws)) := by
  have hown := resumeLeg_get hk leg' ws
  rw [if_pos rfl] at hown
  refine ⟨rfl, rfl, rfl, rfl, rfl, ?_, ?_, fun w hw => ?_, k, leg, leg', _, hk, hl, hends, hown⟩
  · rw [onNet_net]
    unfold Net.resume
    split <;> rfl
  · rw [onNet_net]
    unfold Net.resume
    split <;> rfl
  · rw [onNet_net, resumeLeg_get hk, if_neg hw]

/-- A rate timer of a leg fires. -/
theorem rateTimerFires_get {s : Gateway} {ws : SocketId} {k : WsSocket} {leg : RelayLeg}
    (hk : s.net.sockets.get ws = some k) (hl : k.listener = .relay leg) :
    s.rateTimerFires ws =
      match leg.rateTimers.find? (fun due => due ≤ s.now) with
      | some due => s.onNet (fun net => (setLeg ws { leg with rateTimers := leg.rateTimers.erase due } net).resume ws)
      | none => s := by
  obtain ⟨readyState, paused, errorListener, listener, replacedGrace⟩ := k
  obtain rfl : listener = .relay leg := hl
  unfold rateTimerFires
  exact hk ▸ rfl

/-- A drain poll of a leg fires. -/
theorem drainPoll_get {s : Gateway} {ws : SocketId} {k : WsSocket} {leg : RelayLeg} (buffered : Nat)
    (hk : s.net.sockets.get ws = some k) (hl : k.listener = .relay leg) :
    s.drainPoll ws buffered =
      if leg.drains > 0 ∧ (buffered ≤ HIGH_WATER / 4 ∨ s.net.readyState leg.dst ≠ .open_) then
        s.onNet (fun net => (setLeg ws { leg with drains := leg.drains - 1 } net).resume ws)
      else s := by
  obtain ⟨readyState, paused, errorListener, listener, replacedGrace⟩ := k
  obtain rfl : listener = .relay leg := hl
  unfold drainPoll
  rw [hk]

theorem rateTimerFires_moves (ws : SocketId) (s : Gateway) :
    s.rateTimerFires ws = s ∨ s.LegMoves ws (s.rateTimerFires ws) := by
  unfold rateTimerFires
  split
  · rename_i leg _ hk
    split
    · exact Or.inr (resumeLeg_moves hk rfl _ ⟨rfl, rfl⟩)
    · exact Or.inl rfl
  · exact Or.inl rfl

theorem drainPoll_moves (ws : SocketId) (buffered : Nat) (s : Gateway) :
    s.drainPoll ws buffered = s ∨ s.LegMoves ws (s.drainPoll ws buffered) := by
  unfold drainPoll
  split
  · rename_i leg _ hk
    split
    · exact Or.inr (resumeLeg_moves hk rfl _ ⟨rfl, rfl⟩)
    · exact Or.inl rfl
  · exact Or.inl rfl

end Gateway

end ZclaudiaGateway
