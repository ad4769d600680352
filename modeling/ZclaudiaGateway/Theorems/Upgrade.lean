import ZclaudiaGateway.Lemmas.Legs
import ZclaudiaGateway.Lemmas.Sample

/-!
# Upgrade requests

What becomes of a request with an `Upgrade` header, whatever its target: it goes to the control server, to the leg of the
channel its ticket was issued for, or it is refused, unless its target is none that `new URL` can parse.
-/

namespace ZclaudiaGateway

/-- The output settles what becomes of an upgrade request. -/
def Output.settles : Output → Bool
  | .upgraded _ | .attached _ _ _ | .refused => true
  | _ => false

namespace Gateway

variable {Γ : Ctx}

/-- What a target and the state before allow: the control server for the path `/ws`, a leg for the unexpired ticket of the live
channel the path names, a refusal always. -/
def MayBecome (Γ : Ctx) (s : Gateway) (target : String) : Output → Prop
  | .upgraded _ => ∃ url, Γ.newURL target = some url ∧ url.pathname = "/ws"
  | .attached channelId role _ =>
    ∃ url token ticket ch, Γ.newURL target = some url ∧ url.pathname.startsWith "/channel/" = true ∧
      (url.pathname.drop "/channel/".length).toString = channelId ∧ url.ticket = some token ∧
      s.channelTickets.get token = some ticket ∧ ticket.channelId = channelId ∧ ticket.role = role ∧
      s.now ≤ ticket.expiresAt ∧ s.channels.get channelId = some ch ∧ ch.channelId = channelId
  | .refused => True
  | _ => False

/-- The request is settled without an exception, once, and as target and state allow. -/
def UpgradeServed (Γ : Ctx) (s : Gateway) (ip target : String) (handshakeOk : Bool) : Prop :=
  let t := s.step Γ (.upgrade ip target handshakeOk)
  t.uncaught = none ∧ ∃ o, t.net.outbox.filter Output.settles = [o] ∧ s.MayBecome Γ target o

/-! ## The three ends of a request -/

theorem close_settles (ws : SocketId) (code : Nat) (reason : String) (net : Net) :
    (net.close ws code reason).outbox.filter Output.settles = net.outbox.filter Output.settles := by
  unfold Net.close
  split
  · simp [Net.emit, Net.modifySocket, List.filter_append, Output.settles]
  · rfl

/-- The control server gets the request, over the cap of its address or not. -/
theorem controlConnection_settles (ip : String) (s : Gateway) :
    (s.controlConnection ip).net.outbox.filter Output.settles = s.net.outbox.filter Output.settles ++ [.upgraded s.drawn] := by
  unfold controlConnection
  dsimp only
  split
  · rw [onNet_net, close_settles]
    simp [Net.emit, List.filter_append, Output.settles]
  · simp [Net.emit, List.filter_append, Output.settles]

theorem bridgeHttpChannel_settles (channelId : String) (ex : ExchangeId) (ws : SocketId) (net : Net) :
    (bridgeHttpChannel channelId ex ws net).outbox.filter Output.settles = net.outbox.filter Output.settles := by
  unfold bridgeHttpChannel
  split
  · rfl
  · simp [Net.emit, Net.modifySocket, Net.modifyExchange, List.filter_append, Output.settles]

theorem resume_outbox (ws : SocketId) (net : Net) : (net.resume ws).outbox = net.outbox := by
  unfold Net.resume
  split <;> rfl

/-- Pairing admits no further socket. -/
theorem pairLegs_settles (channelId : String) (ch : ChannelRecord) (s : Gateway) :
    (s.pairLegs channelId ch).net.outbox.filter Output.settles = s.net.outbox.filter Output.settles := by
  unfold pairLegs
  split
  · rw [onNet_net, resume_outbox, onNet_net, bridgeHttpChannel_settles]
    rfl
  · simp only [wireChannel, onNet_net, resume_outbox]
    rfl
  · rfl

theorem attachLeg_settles (channelId : String) (role : ChannelRole) {s : Gateway} {ch : ChannelRecord}
    (h : s.channels.get channelId = some ch) :
    (s.attachLeg channelId role).net.outbox.filter Output.settles =
      s.net.outbox.filter Output.settles ++ [.attached channelId role s.drawn] := by
  unfold attachLeg
  dsimp only
  rw [h]
  dsimp only
  rw [pairLegs_settles]
  simp [onChannel, Net.emit, List.filter_append, Output.settles]

/-- A dial is refused, or attached to the leg its ticket was issued for. -/
theorem handleChannelUpgrade_settles {s : Gateway} (hA : s.Admission) (fresh : s.Fresh Γ) (target : String) {url : RequestUrl}
    (hurl : Γ.newURL target = some url) (hpath : url.pathname.startsWith "/channel/" = true) (handshakeOk : Bool) :
    let t := s.handleChannelUpgrade (url.pathname.drop "/channel/".length).toString url.ticket handshakeOk
    t.uncaught = s.uncaught ∧
      ∃ o, t.net.outbox.filter Output.settles = s.net.outbox.filter Output.settles ++ [o] ∧ s.MayBecome Γ target o := by
  intro t
  rcases handleChannelUpgrade_cases s (url.pathname.drop "/channel/".length).toString url.ticket handshakeOk with
    he | ⟨found, ch, hfound, hid, hch, hnow, he⟩
  · have ht : t = (s.consumeTicket (url.ticket.getD "")).onNet (Net.emit .refused) := he
    rw [ht]
    refine ⟨rfl, .refused, ?_, trivial⟩
    simp [consumeTicket, Net.emit, List.filter_append, Output.settles]
  · have ht : t = (s.consumeTicket (url.ticket.getD "")).attachLeg _ found.role := he
    rw [ht]
    refine ⟨(attachLeg_tickets _ _ _).2.2, .attached _ found.role s.drawn, attachLeg_settles _ _ hch, ?_⟩
    -- A ticket is never the empty string, so a target without one finds none.
    · obtain ⟨token, htoken⟩ : ∃ token, url.ticket = some token := by
        rcases hticket : url.ticket with _ | token
        · rw [hticket] at hfound
          obtain ⟨m, -, hm⟩ := fresh.tickets _ _ hfound
          exact absurd hm.symm (Γ.tickets.nonempty m)
        · exact ⟨token, rfl⟩
      rw [htoken] at hfound
      exact ⟨url, token, found, ch, hurl, hpath, rfl, htoken, hfound, hid, rfl, hnow, hch, hA.channelId _ _ hch⟩

/-- An upgrade request with a target that parses. -/
theorem upgrade_settles {s : Gateway} (hA : s.Admission) (fresh : s.Fresh Γ) (ip target : String) {url : RequestUrl}
    (hurl : Γ.newURL target = some url) (handshakeOk : Bool) :
    (s.upgrade Γ ip target handshakeOk).uncaught = s.uncaught ∧
      ∃ o, (s.upgrade Γ ip target handshakeOk).net.outbox.filter Output.settles =
        s.net.outbox.filter Output.settles ++ [o] ∧ s.MayBecome Γ target o := by
  have hrefused : (s.onNet (Net.emit .refused)).uncaught = s.uncaught ∧
      ∃ o, (s.onNet (Net.emit .refused)).net.outbox.filter Output.settles =
        s.net.outbox.filter Output.settles ++ [o] ∧ s.MayBecome Γ target o :=
    ⟨rfl, .refused, by simp [Net.emit, List.filter_append, Output.settles], trivial⟩
  unfold upgrade
  rw [hurl]
  dsimp only
  split
  · rename_i hws
    split
    · exact ⟨(controlConnection_tables s ip).2.2.2, _, controlConnection_settles ip s, url, hurl, hws⟩
    · exact hrefused
  · split
    · rename_i hpath
      exact handleChannelUpgrade_settles hA fresh target hurl hpath handshakeOk
    · exact hrefused

/-- Nothing catches what `new URL` throws. -/
theorem upgrade_throws {target : String} (h : Γ.newURL target = none) (ip : String) (handshakeOk : Bool) (s : Gateway) :
    (s.upgrade Γ ip target handshakeOk).uncaught = some .invalidUrl := by
  unfold upgrade
  rw [h]
  rfl

end Gateway

/-! ## Every target -/

open Gateway

variable {Γ : Ctx} {storage : Storage}

/-- In every state of a running gateway an upgrade request is served exactly when `new URL` parses its target. -/
theorem upgrade_served_iff (es : List Event) (h : ((gateway Γ storage).run es).uncaught = none) (ip target : String)
    (handshakeOk : Bool) :
    ((gateway Γ storage).run es).UpgradeServed Γ ip target handshakeOk ↔ (Γ.newURL target).isSome := by
  generalize hs : (gateway Γ storage).run es = s at h
  have hA : s.quiet.Admission := by
    rw [← hs]
    exact (channels_run es).1.turns (quiet_turns _)
  have fresh : s.quiet.Fresh Γ := by
    rw [← hs]
    exact (fresh_run es).turns (quiet_turns _)
  have hhandle : s.quiet.handle Γ (.upgrade ip target handshakeOk) = s.quiet.upgrade Γ ip target handshakeOk := rfl
  unfold UpgradeServed
  dsimp only
  rw [step_running h, hhandle]
  rcases hurl : Γ.newURL target with _ | url
  · simp [upgrade_throws hurl]
  · obtain ⟨huncaught, o, ho, hmay⟩ := upgrade_settles hA fresh ip target hurl handshakeOk
    refine iff_of_true ⟨huncaught.trans h, o, ?_, ?_⟩ rfl
    · exact ho.trans (by simp [quiet])
    · cases o <;> exact hmay

/-- A request for `/ws` is served by a gateway that has just started. -/
theorem control_upgrade_served :
    ((gateway (.sample []) sampleStorage).run []).uncaught = none ∧
      ((gateway (.sample []) sampleStorage).run []).UpgradeServed (.sample []) "127.0.0.1" "/ws" true :=
  ⟨rfl, (upgrade_served_iff [] rfl "127.0.0.1" "/ws" true).mpr (by decide)⟩

/-- A request for `//` ends the process. -/
theorem slashes_not_served :
    ¬ ∀ (es : List Event) (ip target : String) (handshakeOk : Bool),
      ((gateway (.sample []) sampleStorage).run es).uncaught = none →
        ((gateway (.sample []) sampleStorage).run es).UpgradeServed (.sample []) ip target handshakeOk := by
  intro h
  obtain ⟨huncaught, -⟩ := h [] "127.0.0.1" "//" true rfl
  rw [step_running rfl] at huncaught
  have hthrows := upgrade_throws (Ctx.sample []).newURL_slashes "127.0.0.1" true (Gateway.init sampleStorage).quiet
  exact absurd (hthrows.symm.trans huncaught) (by decide)

end ZclaudiaGateway
