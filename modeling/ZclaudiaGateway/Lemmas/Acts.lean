import ZclaudiaGateway.Lemmas.Answers
import ZclaudiaGateway.Lemmas.Ops
import ZclaudiaGateway.Lib.Protocol

/-!
# What an observer sees

An observer sees some of the outputs, through a `view`. `Progresses` says that what an operation puts out advances a protocol
as that observer sees it; if every single operation does, the outputs of every run follow the protocol (`protocol_run`). Each
operation puts out outputs of a few kinds only, so that most of them show the observer nothing.
-/

namespace ZclaudiaGateway

/-- What an output is about. -/
inductive OutputKind where
  /-- A message that is not about a channel. -/
  | message
  /-- A message that opens or closes a channel at one of its ends. -/
  | notice
  /-- A frame of a channel. -/
  | frame
  /-- A part of a proxied request. -/
  | request
  /-- A ping, close, terminate or pause of a socket. -/
  | handling
  /-- A socket is admitted. -/
  | admission
  /-- A part of a proxied response. -/
  | response
  | apart
deriving DecidableEq

def Output.kind : Output → OutputKind
  | .send _ m => if m.channel?.isSome then .notice else .message
  | .sendFrame _ _ => .frame
  | .sendHttp _ _ => .request
  | .ping _ | .close _ _ _ | .terminate _ | .pause _ => .handling
  | .upgraded _ | .attached _ _ _ => .admission
  | .call _ _ | .head _ _ _ | .body _ _ | .endResponse _ | .destroyResponse _ | .replyProxy _ _ => .response
  | .reply _ | .notified _ | .refused => .apart

theorem Output.kind_of_apart {o : Output} (h : o.apart = true) : o.kind = .apart := by
  cases o <;> first | rfl | cases h

namespace Gateway

section Kinds

variable {Γ : Ctx}

/-- Everything that goes out in between is of these kinds. -/
def EmitsOnly (kinds : List OutputKind) (s t : Gateway) : Prop := s.net.Emits (fun o => o.kind ∈ kinds) t.net

theorem EmitsOnly.mono {kinds kinds' : List OutputKind} {s t : Gateway} (h : s.EmitsOnly kinds t)
    (hsub : ∀ kind ∈ kinds, kind ∈ kinds') : s.EmitsOnly kinds' t :=
  Net.Emits.mono (fun _ ho => hsub _ ho) h

theorem EmitsOnly.trans {kinds : List OutputKind} {s t u : Gateway} (h : s.EmitsOnly kinds t) (h' : t.EmitsOnly kinds u) :
    s.EmitsOnly kinds u :=
  Net.Emits.trans h h'

theorem EmitsOnly.of_eq {kinds : List OutputKind} {s t : Gateway} (h : t.net.outbox = s.net.outbox) : s.EmitsOnly kinds t :=
  Net.Emits.of_eq h

theorem EmitsOnly.onNet {kinds : List OutputKind} {s : Gateway} {f : Net → Net}
    (h : s.net.Emits (fun o => o.kind ∈ kinds) (f s.net)) : s.EmitsOnly kinds (s.onNet f) := h

/-! ## The kinds of each operation -/

theorem Net.Op.kinds {net net' : Net} (h : net.Op net') :
    net.Emits (fun o => o.kind ∈ [OutputKind.message, .handling, .apart]) net' := by
  cases h with
  | send ws hm =>
    refine .sendToWs ?_ net
    simp [Output.kind, hm]
  | ping ws => exact .ping (by simp [Output.kind]) net
  | close ws code reason => exact .close (by simp [Output.kind]) net
  | terminate ws => exact .terminate (by simp [Output.kind]) net
  | pause ws => exact .pause (by simp [Output.kind]) net
  | resume ws => exact .resume ws net
  | closing ws h => exact .modifySocket ws _ net
  | grace ws replacedGrace => exact .modifySocket ws _ net
  | conn ws hf => exact .modifyConn ws _ net
  | emit ho =>
    refine .emit ?_ net
    simp [Output.kind_of_apart ho]

theorem teardownChannel_kinds (reason : ChannelClosedReason) (s : Gateway) (channelId : String) :
    s.EmitsOnly [.notice, .handling, .response] (s.teardownChannel reason channelId) := by
  refine Net.Emits.mono (fun o ho => ?_) (teardownChannel_emits reason s channelId)
  cases o with
  | send ws m =>
    cases m with
    | channelClosed id reason => simp [Output.kind, GatewayToPeer.channel?]
    | _ => cases ho
  | close ws code text => simp [Output.kind]
  | terminate ws => simp [Output.kind]
  | head ex status headers => simp [Output.kind]
  | replyProxy ex r => simp [Output.kind]
  | destroyResponse ex => simp [Output.kind]
  | _ => cases ho

theorem openChannel_kinds (peer backendPeer : PeerSession) (lease : BackendLease) (target : String) (kind : Option String)
    (s : Gateway) : s.EmitsOnly [.notice] (s.openChannel Γ peer backendPeer lease target kind) :=
  Net.Emits.trans (.sendToWs (by simp [Output.kind, GatewayToPeer.channel?]) _)
    (.sendToWs (by simp [Output.kind, GatewayToPeer.channel?]) _)

theorem proxyViaChannel_kinds (request : ProxyRequest) (epoch : Nat) (backendPeer : PeerSession) (s : Gateway) :
    s.EmitsOnly [.notice, .apart] (s.proxyViaChannel Γ request epoch backendPeer) := by
  unfold proxyViaChannel
  split
  · exact Net.Emits.emit (by simp [Output.kind]) s.net
  · exact Net.Emits.trans (.of_eq rfl) (.sendToWs (by simp [Output.kind, GatewayToPeer.channel?]) _)

theorem controlConnection_kinds (ip : String) (s : Gateway) : s.EmitsOnly [.admission, .handling] (s.controlConnection ip) := by
  unfold controlConnection
  dsimp only
  split
  · exact Net.Emits.trans ⟨[.upgraded s.drawn], rfl, by simp [Output.kind]⟩ (.close (by simp [Output.kind]) _)
  · exact ⟨[.upgraded s.drawn], rfl, by simp [Output.kind]⟩

theorem pairLegs_kinds (channelId : String) (ch : ChannelRecord) (s : Gateway) : s.EmitsOnly [.request] (s.pairLegs channelId ch) := by
  have hbridge (ex : ExchangeId) (b : SocketId) (net : Net) :
      net.Emits (fun o => o.kind ∈ [OutputKind.request]) (bridgeHttpChannel channelId ex b net) := by
    unfold bridgeHttpChannel
    split
    · exact .refl net
    · refine Net.Emits.trans ?_ (.modifyExchange _ _ _)
      exact Net.Emits.trans (.emit (by simp [Output.kind]) _) (.modifySocket _ _ _)
  unfold pairLegs
  split
  · exact Net.Emits.trans (hbridge _ _ _) (.resume _ _)
  · refine Net.Emits.trans ?_ (.resume _ _)
    refine Net.Emits.trans ?_ (.resume _ _)
    exact Net.Emits.trans (.modifySocket _ _ _) (.modifySocket _ _ _)
  · exact .refl _

theorem handleChannelUpgrade_kinds (channelId : String) (ticket : Option String) (handshakeOk : Bool) (s : Gateway) :
    s.EmitsOnly [.admission, .request, .apart] (s.handleChannelUpgrade channelId ticket handshakeOk) := by
  have hrefused : s.EmitsOnly [.admission, .request, .apart] ((s.consumeTicket (ticket.getD "")).onNet (Net.emit .refused)) :=
    Net.Emits.emit (by simp [Output.kind]) s.net
  unfold handleChannelUpgrade
  dsimp only
  split
  · exact hrefused
  · split
    · exact hrefused
    · split
      · exact hrefused
      · unfold attachLeg
        dsimp only
        split
        · exact .refl _
        · refine EmitsOnly.trans ?_ ((pairLegs_kinds _ _ _).mono (by simp))
          exact ⟨[.attached channelId _ s.drawn], rfl, by simp [Output.kind]⟩

/-- After the frame a relay at most pauses its own socket. -/
theorem relayMessage_handles {leg : RelayLeg} {s : Gateway} (hdst : s.net.readyState leg.dst = .open_) (ws : SocketId)
    (frame : Frame) (buffered : Nat) :
    (s.onNet (Net.emit (.sendFrame leg.dst frame))).EmitsOnly [.handling] (s.relayMessage Γ ws leg frame buffered) := by
  have hpause (w : SocketId) (leg : RelayLeg) (net : Net) :
      net.Emits (fun o => o.kind ∈ [OutputKind.handling]) ((setLeg ws leg net).pause w) :=
    Net.Emits.trans (.modifySocket _ _ _) (.pause (by simp [Output.kind]) _)
  have hrate (size : Nat) (net : Net) : net.Emits (fun o => o.kind ∈ [OutputKind.handling])
      (relayRate Γ.config.channelByteRateLimit s.now size ws leg net).2 := by
    unfold relayRate
    split
    · exact .refl net
    · split
      · exact .refl net
      · dsimp only
        split
        · exact hpause ws _ net
        · exact .modifySocket _ _ _
  have hrelayed := hrate frame.data.length (s.net.emit (.sendFrame leg.dst frame))
  unfold relayMessage
  rw [if_neg (not_not_intro hdst)]
  rcases hr : relayRate Γ.config.channelByteRateLimit s.now frame.data.length ws leg (s.net.emit (.sendFrame leg.dst frame))
    with ⟨leg', net⟩
  rw [hr] at hrelayed
  dsimp only
  split
  · exact hrelayed.trans (hpause ws _ net)
  · exact hrelayed

theorem relayMessage_kinds (ws : SocketId) (leg : RelayLeg) (frame : Frame) (buffered : Nat) (s : Gateway) :
    s.EmitsOnly [.frame, .handling] (s.relayMessage Γ ws leg frame buffered) := by
  by_cases hdst : s.net.readyState leg.dst = .open_
  · have hsent : s.EmitsOnly [.frame, .handling] (s.onNet (Net.emit (.sendFrame leg.dst frame))) :=
      Net.Emits.emit (by simp [Output.kind]) _
    exact hsent.trans ((relayMessage_handles hdst ws frame buffered).mono (by simp))
  · unfold relayMessage
    rw [if_pos hdst]
    exact .refl _

theorem resumeLeg_kinds (ws : SocketId) (leg : RelayLeg) (net : Net) (kinds : List OutputKind) :
    net.Emits (fun o => o.kind ∈ kinds) ((setLeg ws leg net).resume ws) :=
  Net.Emits.trans (.modifySocket _ _ _) (.resume _ _)

theorem rateTimerFires_kinds (ws : SocketId) (s : Gateway) : s.EmitsOnly [] (s.rateTimerFires ws) := by
  unfold rateTimerFires
  split
  · split
    · exact resumeLeg_kinds _ _ _ _
    · exact .refl _
  · exact .refl _

theorem drainPoll_kinds (ws : SocketId) (buffered : Nat) (s : Gateway) : s.EmitsOnly [] (s.drainPoll ws buffered) := by
  unfold drainPoll
  split
  · split
    · exact resumeLeg_kinds _ _ _ _
    · exact .refl _
  · exact .refl _

theorem requestData_kinds (ex : ExchangeId) (chunk : Bytes) (buffered : Nat) (s : Gateway) :
    s.EmitsOnly [.frame] (s.requestData ex chunk buffered) := by
  unfold requestData
  split
  · split
    · exact .refl _
    · refine EmitsOnly.onNet ?_
      dsimp only
      split
      · exact Net.Emits.trans (.emit (by simp [Output.kind]) _) (.modifyExchange _ _ _)
      · exact .emit (by simp [Output.kind]) _
  · exact .refl _

theorem requestEnd_kinds (ex : ExchangeId) (s : Gateway) : s.EmitsOnly [.request] (s.requestEnd ex) := by
  unfold requestEnd
  split
  · split
    · exact Net.Emits.emit (by simp [Output.kind]) _
    · exact .refl _
  · exact .refl _

theorem callResponse_kinds (ex : ExchangeId) (s : Gateway) (c : ResponseCall) : s.EmitsOnly [.response] (s.callResponse ex c) := by
  unfold callResponse
  split
  · have hcalled : s.EmitsOnly [.response] (s.onNet (Net.emit (.call ex c))) := Net.Emits.emit (by simp [Output.kind]) s.net
    cases c with
    | setHeader name value =>
      dsimp only
      split
      · exact hcalled.trans (.of_eq rfl)
      · split
        · exact hcalled.trans (.of_eq rfl)
        · exact hcalled.trans (.of_eq rfl)
    | status code => exact hcalled.trans (.of_eq rfl)
    | write data =>
      dsimp only
      split
      · exact hcalled
      · split
        · exact hcalled.trans (.of_eq rfl)
        · split
          · exact hcalled.trans (Net.Emits.writeBody (by simp [Output.kind]) _ _)
          · refine hcalled.trans (EmitsOnly.trans (t := Gateway.onNet _ _) ?_ (Net.Emits.writeBody (by simp [Output.kind]) _ _))
            exact Net.Emits.trans (.modifyExchange _ _ _) (.emit (by simp [Output.kind]) _)
  · exact .refl _

theorem responseHead_kinds (ex : ExchangeId) (request : ProxyRequest) (meta_ : JsonValue) (s : Gateway) :
    s.EmitsOnly [.response] (s.responseHead ex request meta_) := by
  have hcalls (calls : List ResponseCall) (s : Gateway) : s.EmitsOnly [.response] (calls.foldl (callResponse ex) s) := by
    induction calls generalizing s with
    | nil => exact .refl _
    | cons c calls ih => exact (callResponse_kinds ex s c).trans (ih _)
  unfold responseHead
  dsimp only
  split
  · exact .of_eq rfl
  · have hmeta : s.EmitsOnly [.response] (s.onNet (Net.modifyExchange ex (fun x => { x with metaReceived := true }))) := .of_eq rfl
    split
    · exact hmeta.trans (hcalls _ _)
    · exact (hmeta.trans (hcalls _ _)).trans (.of_eq rfl)

theorem finishResponse_kinds (channelId : String) (ex : ExchangeId) (x : HttpExchange) (s : Gateway) :
    s.EmitsOnly [.response] (s.finishResponse channelId ex x) := by
  unfold finishResponse
  dsimp only
  split
  · split
    · exact ⟨[.endResponse ex], rfl, by simp [Output.kind]⟩
    · exact .of_eq rfl
  · exact .of_eq rfl

end Kinds

/-! ## Observers -/

section Observers

variable {Γ : Ctx} {storage : Storage} {κ α : Type} {P : Protocol κ α} {view : Output → Option α} {R : κ → Gateway → Prop}

/-- What an observer has seen in the course of the event. -/
def seen (view : Output → Option α) (s : Gateway) : List α := s.net.outbox.filterMap view

/-- What an observer sees of an event. -/
def acts (Γ : Ctx) (view : Output → Option α) (s : Gateway) (e : Event) : List α := (s.step Γ e).seen view

theorem acts_running {s : Gateway} (h : s.uncaught = none) (e : Event) : acts Γ view s e = (s.quiet.handle Γ e).seen view := by
  rw [acts, step_running h]
  rfl

theorem acts_stopped {s : Gateway} {error : JsError} (h : s.uncaught = some error) (e : Event) : acts Γ view s e = [] := by
  rw [acts, step_stopped h]
  rfl

/-- An observer who sees none of the outputs has seen what he had. -/
theorem EmitsOnly.seen_eq {K : List OutputKind} {s t : Gateway} (h : s.EmitsOnly K t) (hview : ∀ o, o.kind ∈ K → view o = none) :
    t.seen view = s.seen view := by
  obtain ⟨out, hout, hkinds⟩ := h
  rw [seen, hout, List.filterMap_append, List.filterMap_eq_nil_iff.mpr (fun o ho => hview o (hkinds o ho)), List.append_nil]
  rfl

/-- What an operation puts out advances the protocol. -/
def Progresses (P : Protocol κ α) (view : Output → Option α) (R : κ → Gateway → Prop) (s t : Gateway) : Prop :=
  ∃ as, t.seen view = s.seen view ++ as ∧ P.Advances R s as t

theorem Progresses.refl (s : Gateway) : Progresses P view R s s := ⟨[], (List.append_nil _).symm, .refl s⟩

theorem Progresses.trans {s t u : Gateway} (h : Progresses P view R s t) (h' : Progresses P view R t u) :
    Progresses P view R s u := by
  obtain ⟨as, hseen, hadv⟩ := h
  obtain ⟨as', hseen', hadv'⟩ := h'
  exact ⟨as ++ as', by rw [hseen', hseen, List.append_assoc], hadv.trans hadv'⟩

/-- An operation whose outputs are known. -/
theorem Progresses.of_outputs {s t : Gateway} {l : List Output} (hout : t.net.outbox = s.net.outbox ++ l)
    (hadv : P.Advances R s (l.filterMap view) t) : Progresses P view R s t :=
  ⟨l.filterMap view, by rw [seen, hout, List.filterMap_append]; rfl, hadv⟩

end Observers

end Gateway

end ZclaudiaGateway
