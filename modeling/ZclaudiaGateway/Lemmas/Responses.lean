import ZclaudiaGateway.Lemmas.Outputs

/-!
# What the calls on a proxied response leave alone

The frames of a data socket drive the response of its exchange. They touch no channel, no ticket and no socket, never take a
head back, and neither end nor destroy a response.
-/

namespace ZclaudiaGateway

/-- What the frames of its data socket may do to an exchange. -/
structure HttpExchange.Speaks (x x' : HttpExchange) : Prop where
  channelId : x'.channelId = x.channelId
  request : x'.request = x.request
  targetPath : x'.targetPath = x.targetPath
  ws : x'.ws = x.ws
  writableEnded : x'.writableEnded = x.writableEnded
  destroyed : x'.destroyed = x.destroyed
  headersSent : x.headersSent = true → x'.headersSent = true
  metaReceived : x.metaReceived = true → x'.metaReceived = true

theorem HttpExchange.Speaks.refl (x : HttpExchange) : x.Speaks x := ⟨rfl, rfl, rfl, rfl, rfl, rfl, id, id⟩

theorem HttpExchange.Speaks.trans {x x' x'' : HttpExchange} (h : x.Speaks x') (h' : x'.Speaks x'') : x.Speaks x'' :=
  ⟨h'.channelId.trans h.channelId, h'.request.trans h.request, h'.targetPath.trans h.targetPath, h'.ws.trans h.ws,
    h'.writableEnded.trans h.writableEnded,
    h'.destroyed.trans h.destroyed, fun hs => h'.headersSent (h.headersSent hs),
    fun hm => h'.metaReceived (h.metaReceived hm)⟩

theorem HttpExchange.Turns.speaks {x x' : HttpExchange} (h : x.Turns x') : x.Speaks x' :=
  ⟨h.channelId, h.request, h.targetPath, h.ws, h.writableEnded, h.destroyed, fun hs => h.headersSent ▸ hs, fun hm => h.metaReceived ▸ hm⟩

namespace Gateway

/-- Only responses differ, by what frames may do to them. -/
structure ResponseSpeaks (s t : Gateway) : Prop where
  storage : t.storage = s.storage
  state : t.state = s.state
  recoveryTokens : t.recoveryTokens = s.recoveryTokens
  channels : t.channels = s.channels
  channelTickets : t.channelTickets = s.channelTickets
  topicSubs : t.topicSubs = s.topicSubs
  retainedTopics : t.retainedTopics = s.retainedTopics
  now : t.now = s.now
  drawn : t.drawn = s.drawn
  sockets : t.net.sockets = s.net.sockets
  exchanges : s.net.exchanges.Pointwise HttpExchange.Speaks t.net.exchanges
  uncaught : t.uncaught = none → s.uncaught = none
  emits : s.net.Discreet t.net
  requests : t.net.requests = s.net.requests

namespace ResponseSpeaks

theorem refl (s : Gateway) : s.ResponseSpeaks s :=
  ⟨rfl, rfl, rfl, rfl, rfl, rfl, rfl, rfl, rfl, rfl, .refl HttpExchange.Speaks.refl _, id, .of_eq rfl, rfl⟩

theorem trans {s t u : Gateway} (h : s.ResponseSpeaks t) (h' : t.ResponseSpeaks u) : s.ResponseSpeaks u :=
  ⟨h'.storage.trans h.storage, h'.state.trans h.state, h'.recoveryTokens.trans h.recoveryTokens,
    h'.channels.trans h.channels, h'.channelTickets.trans h.channelTickets, h'.topicSubs.trans h.topicSubs,
    h'.retainedTopics.trans h.retainedTopics, h'.now.trans h.now, h'.drawn.trans h.drawn, h'.sockets.trans h.sockets,
    h.exchanges.trans (fun _ _ _ => .trans) h'.exchanges, fun hu => h.uncaught (h'.uncaught hu),
    h.emits.trans h'.emits, h'.requests.trans h.requests⟩

theorem throw (error : JsError) (s : Gateway) : s.ResponseSpeaks (s.throw error) :=
  ⟨rfl, rfl, rfl, rfl, rfl, rfl, rfl, rfl, rfl, rfl, .refl HttpExchange.Speaks.refl _, nofun, .of_eq rfl, rfl⟩

theorem emit {o : Output} (ho : o.names = false) (hr : o.isRequest = false) (s : Gateway) :
    s.ResponseSpeaks (s.onNet (Net.emit o)) :=
  ⟨rfl, rfl, rfl, rfl, rfl, rfl, rfl, rfl, rfl, rfl, .refl HttpExchange.Speaks.refl _, id, .emit ho _,
    (Net.requests_emit o _).trans (if_neg (by simp [hr]))⟩

theorem modify (ex : ExchangeId) {f : HttpExchange → HttpExchange} (s : Gateway)
    (hf : ∀ x, s.net.exchanges.get ex = some x → x.Speaks (f x)) :
    s.ResponseSpeaks (s.onNet (Net.modifyExchange ex f)) :=
  ⟨rfl, rfl, rfl, rfl, rfl, rfl, rfl, rfl, rfl, rfl, .modify HttpExchange.Speaks.refl hf, id, .of_eq rfl, rfl⟩

/-- Sending a head. -/
theorem head (ex : ExchangeId) {o : Output} (ho : o.names = false) (hr : o.isRequest = false) (s : Gateway) :
    s.ResponseSpeaks (s.onNet (fun net => (net.modifyExchange ex (fun x => { x with headersSent := true })).emit o)) := by
  have hsent : s.ResponseSpeaks (s.onNet (Net.modifyExchange ex (fun x => { x with headersSent := true }))) :=
    modify ex s fun x _ => ⟨rfl, rfl, rfl, rfl, rfl, rfl, fun _ => rfl, id⟩
  exact hsent.trans (emit ho hr _)

/-- Sending a part of the body, if there is one. -/
theorem body (ex : ExchangeId) (hasBody : Bool) (data : Bytes) (s : Gateway) :
    s.ResponseSpeaks (s.onNet (Net.writeBody ex hasBody data)) := by
  cases hasBody with
  | false => exact .refl s
  | true => exact emit rfl rfl s

end ResponseSpeaks

theorem writeBody_exchanges (ex : ExchangeId) (hasBody : Bool) (data : Bytes) (net : Net) :
    (net.writeBody ex hasBody data).exchanges = net.exchanges := by
  cases hasBody <;> rfl

theorem callResponse_speaks (ex : ExchangeId) (s : Gateway) (c : ResponseCall) :
    s.ResponseSpeaks (s.callResponse ex c) := by
  unfold callResponse
  split
  · have hcalled := ResponseSpeaks.emit (o := .call ex c) rfl rfl s
    cases c with
    | setHeader name value =>
      dsimp only
      split
      · exact hcalled.trans (.throw _ _)
      · split
        · exact hcalled.trans (.throw _ _)
        · exact hcalled.trans (.modify ex _ fun x _ => ⟨rfl, rfl, rfl, rfl, rfl, rfl, id, id⟩)
    | status code =>
      exact hcalled.trans (.modify ex _ fun x _ => ⟨rfl, rfl, rfl, rfl, rfl, rfl, id, id⟩)
    | write data =>
      dsimp only
      split
      · exact hcalled
      · split
        · exact hcalled.trans (.throw _ _)
        · split
          · exact hcalled.trans (.body ex _ _ _)
          · exact (hcalled.trans (.head ex rfl rfl _)).trans (.body ex _ _ _)
  · exact .refl s

theorem callsResponse_speaks (ex : ExchangeId) (calls : List ResponseCall) (s : Gateway) :
    s.ResponseSpeaks (calls.foldl (callResponse ex) s) := by
  induction calls generalizing s with
  | nil => exact .refl s
  | cons c calls ih => exact (callResponse_speaks ex s c).trans (ih _)

theorem responseHead_speaks (ex : ExchangeId) (request : ProxyRequest) (meta_ : JsonValue) (s : Gateway) :
    s.ResponseSpeaks (s.responseHead ex request meta_) := by
  have hmeta : s.ResponseSpeaks (s.onNet (Net.modifyExchange ex (fun x => { x with metaReceived := true }))) :=
    .modify ex s fun x _ => ⟨rfl, rfl, rfl, rfl, rfl, rfl, id, fun _ => rfl⟩
  unfold responseHead
  dsimp only
  split
  · exact hmeta.trans (.throw _ _)
  · have hcalls := hmeta.trans (callsResponse_speaks ex (headCalls request.headers meta_) _)
    split
    · exact hcalls
    · exact hcalls.trans (.modify ex _ fun x _ => ⟨rfl, rfl, rfl, rfl, rfl, rfl, id, id⟩)

end Gateway

end ZclaudiaGateway
