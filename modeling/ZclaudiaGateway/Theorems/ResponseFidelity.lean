import ZclaudiaGateway.Lemmas.Exchanges
import ZclaudiaGateway.Lemmas.Sample

/-!
# What the client of a proxied request gets

The body that the bridge writes on a proxied response is what the gateway reads on the data socket after the head of the
response: binary frames, in order, up to some point; all of it while the client is there. A response without a body gets none of
them. A head flushes the response with an empty write, and of all other operations none adds to a body (`Wordless`); the error
that answers a response before its head is not the bridge's.
-/

namespace ZclaudiaGateway

/-- The bytes that go out of those that are written as body of a response. -/
def Output.bodyOf (ex : ExchangeId) : Output → Option Bytes
  | .body ex' data => if ex' = ex then some data else none
  | _ => none

theorem Output.bodyOf_eq_none {ex : ExchangeId} {o : Output} (h : o.kind ≠ .response) : o.bodyOf ex = none := by
  cases o <;> first | rfl | exact absurd rfl h

theorem HttpExchange.answered_alive {reason : ChannelClosedReason} {x : HttpExchange} (h : (x.answered reason).destroyed = false) :
    x.destroyed = false := by
  unfold HttpExchange.answered at h
  split at h
  · exact h
  · split at h
    · cases h
    · exact h

namespace Gateway

variable {Γ : Ctx} {e : Event} {storage : Storage} {s t u : Gateway} {ex : ExchangeId}

/-- The bytes of a response's body that an event brings: a binary frame on the data socket after the head of a response that has
a body. -/
def answers (ex : ExchangeId) (s : Gateway) : Event → Bytes
  | .message ws frame _ _ =>
    match s.net.sockets.get ws, s.net.exchanges.get ex with
    | some k, some x =>
      if s.uncaught = none ∧ k.reads = true ∧ x.ws = some ws ∧ x.metaReceived = true ∧ frame.isBinary = true ∧ x.hasBody = true then
        frame.data
      else []
    | _, _ => []
  | _ => []

/-- The body of a response, as a run brings it. -/
def bodyHeard (Γ : Ctx) (storage : Storage) (ex : ExchangeId) (es : List Event) : Bytes :=
  (gateway Γ storage).history (answers ex) es

/-- The body of a response, as its client gets it over a run. -/
def bodySent (Γ : Ctx) (storage : Storage) (ex : ExchangeId) (es : List Event) : Bytes :=
  (gateway Γ storage).history (fun s e => (acts Γ (Output.bodyOf ex) s e).flatten) es

/-- The bytes of the body that have gone out in the course of the event. -/
def spoken (ex : ExchangeId) (s : Gateway) : Bytes := (s.seen (Output.bodyOf ex)).flatten

/-! ## Operations that add nothing to a body -/

/-- Nothing is added to the body, and what was lost before stays lost. -/
structure Wordless (ex : ExchangeId) (s t : Gateway) : Prop where
  silent : t.spoken ex = s.spoken ex
  running : t.uncaught = none → s.uncaught = none
  alive : (∀ x', t.net.exchanges.get ex = some x' → x'.destroyed = false) →
    ∀ x, s.net.exchanges.get ex = some x → x.destroyed = false

theorem Wordless.refl (s : Gateway) : s.Wordless ex s := ⟨rfl, id, id⟩

theorem Wordless.trans (h : s.Wordless ex t) (h' : t.Wordless ex u) : s.Wordless ex u :=
  ⟨h'.silent.trans h.silent, fun hu => h.running (h'.running hu), fun hu => h.alive (h'.alive hu)⟩

theorem Wordless.of_pointwise (silent : t.spoken ex = s.spoken ex) (running : t.uncaught = none → s.uncaught = none)
    (exchanges : s.net.exchanges.Pointwise (fun x x' => x'.destroyed = false → x.destroyed = false) t.net.exchanges) :
    s.Wordless ex t := by
  refine ⟨silent, running, fun ht x hx => ?_⟩
  obtain ⟨x', hx', hsame⟩ := exchanges.get_some hx
  exact hsame (ht x' hx')

theorem spoken_of_kinds {K : List OutputKind} (h : s.EmitsOnly K t) (hsub : .response ∉ K) : t.spoken ex = s.spoken ex := by
  rw [spoken, h.seen_eq fun o ho => Output.bodyOf_eq_none fun hk => hsub (hk ▸ ho)]
  rfl

theorem Wordless.modify (ex' : ExchangeId) {f : HttpExchange → HttpExchange}
    (hf : ∀ x : HttpExchange, (f x).destroyed = false → x.destroyed = false) (s : Gateway) :
    s.Wordless ex (s.onNet (Net.modifyExchange ex' f)) :=
  .of_pointwise rfl id (.modify (fun _ => id) fun x _ => hf x)

theorem Wordless.pause (ws : SocketId) (s : Gateway) : s.Wordless ex (s.onNet (Net.pause ws)) := by
  have hkinds : s.EmitsOnly [.handling] (s.onNet (Net.pause ws)) := .onNet (.pause (by simp [Output.kind]) _)
  refine .of_pointwise (spoken_of_kinds hkinds (by decide)) id ?_
  rw [onNet_net, pause_exchanges]
  exact .refl (fun _ => id) _

theorem Wordless.teardown (reason : ChannelClosedReason) (channelId : String) (s : Gateway) :
    s.Wordless ex (s.teardownChannel reason channelId) := by
  refine .of_pointwise ?_ (fun h => by rwa [teardownChannel_uncaught] at h) ?_
  · obtain ⟨out, hout, htears⟩ := teardownChannel_emits reason s channelId
    have hnone : out.filterMap (Output.bodyOf ex) = [] := by
      rw [List.filterMap_eq_nil_iff]
      intro o ho
      have hto := htears o ho
      cases o <;> first | rfl | cases hto
    rw [spoken, seen, hout, List.filterMap_append, hnone, List.append_nil]
    rfl
  · rcases hc : s.channels.get channelId with _ | ch
    · rw [teardownChannel_of_none _ _ _ hc]
      exact .refl (fun _ => id) _
    · intro ex'
      rw [teardownChannel_exchange _ _ _ hc]
      rcases s.net.exchanges.get ex' with _ | x
      · split <;> exact .none
      · split
        · exact .some HttpExchange.answered_alive
        · exact .some id

theorem Wordless.proxyViaChannel (fresh : s.Fresh Γ) (request : ProxyRequest) (epoch : Nat) (backendPeer : PeerSession) :
    s.Wordless ex (s.proxyViaChannel Γ request epoch backendPeer) := by
  refine ⟨spoken_of_kinds (proxyViaChannel_kinds _ _ _ _) (by decide), fun h => by rwa [proxyViaChannel_uncaught] at h, ?_⟩
  intro halive x hx
  have hne : ex ≠ s.drawn := ne_of_lt (fresh.exchanges ex x hx).1
  refine halive x ?_
  unfold Gateway.proxyViaChannel
  split
  · exact hx
  · simp only [Net.sendToWs_exchanges]
    rw [InsertionMap.get_set_of_ne hne]
    exact hx

theorem Wordless.finish (channelId : String) (ex' : ExchangeId) (x : HttpExchange) (s : Gateway) :
    s.Wordless ex (s.finishResponse channelId ex' x) := by
  have hcleared : s.Wordless ex (s.onNet (Net.modifyExchange ex' (fun x => { x with responseTimer := false, idleTimer := false }))) := by
    refine .modify ex' ?_ s
    exact fun _ hd => hd
  have hended (u : Gateway) : u.Wordless ex (u.onNet (Net.endResponse ex')) := by
    have hout : (u.onNet (Net.endResponse ex')).net.outbox = u.net.outbox ++ [.endResponse ex'] := rfl
    refine .of_pointwise ?_ id (.modify (fun _ => id) fun x _ => id)
    rw [spoken, seen, hout, List.filterMap_append]
    simp [Output.bodyOf, spoken, seen]
  unfold finishResponse
  dsimp only
  split
  · split
    · exact (hcleared.trans (hended _)).trans ⟨rfl, id, id⟩
    · exact hcleared.trans ⟨rfl, id, id⟩
  · exact hcleared

/-- What a call on a response adds to a body. -/
theorem callResponse_seen (ex' : ExchangeId) (s : Gateway) (c : ResponseCall) :
    (s.callResponse ex' c).seen (Output.bodyOf ex) = s.seen (Output.bodyOf ex) ++
      match s.uncaught, s.net.exchanges.get ex', c with
      | none, some x, .write data =>
        if ex' = ex ∧ x.destroyed = false ∧ x.writableEnded = false ∧ x.hasBody = true then [data] else []
      | _, _, _ => [] := by
  unfold callResponse
  rcases hu : s.uncaught with _ | error
  · rcases hx : s.net.exchanges.get ex' with _ | x
    · simp
    · cases c with
      | setHeader name value =>
        dsimp only
        split
        · simp [seen, throw, Net.emit, Output.bodyOf]
        · split
          · simp [seen, throw, Net.emit, Output.bodyOf]
          · simp [seen, Net.emit, Net.modifyExchange, Output.bodyOf]
      | status code => simp [seen, Net.emit, Net.modifyExchange, Output.bodyOf]
      | write data =>
        dsimp only
        split
        · rename_i hd
          simp [seen, Net.emit, Output.bodyOf, hd]
        · rename_i hd
          split
          · rename_i hw
            simp [seen, throw, Net.emit, Output.bodyOf, hw]
          · rename_i hw
            by_cases hex : ex' = ex
            · rcases hb : x.hasBody with _ | _
              · split <;> simp [seen, Net.emit, Net.writeBody, Net.modifyExchange, List.filterMap_cons, Output.bodyOf]
              · split <;> simp [seen, Net.emit, Net.writeBody, Net.modifyExchange, List.filterMap_cons, Output.bodyOf, hd, hw, hex]
            · rcases hb : x.hasBody with _ | _
              · split <;> simp [seen, Net.emit, Net.writeBody, Net.modifyExchange, List.filterMap_cons, Output.bodyOf]
              · split <;> simp [seen, Net.emit, Net.writeBody, Net.modifyExchange, List.filterMap_cons, Output.bodyOf, hex]
  · simp

theorem Wordless.call {ex' : ExchangeId} {c : ResponseCall} (hc : ∀ data, c = .write data → ex' = ex → data = []) (s : Gateway) :
    s.Wordless ex (s.callResponse ex' c) := by
  refine .of_pointwise ?_ (callResponse_speaks ex' s c).uncaught
    ((callResponse_speaks ex' s c).exchanges.mono fun x x' (h : x.Speaks x') hd => h.destroyed ▸ hd)
  rw [spoken, callResponse_seen, List.flatten_append]
  split
  · split
    · rename_i hgo
      rw [hc _ rfl hgo.1]
      simp [spoken]
    · simp [spoken]
  · simp [spoken]

/-- The calls of a head write nothing. -/
theorem headCalls_empty {headers : RequestHeaders} {meta_ : JsonValue} {c : ResponseCall} (hc : c ∈ headCalls headers meta_)
    {data : Bytes} (hw : c = .write data) : data = [] := by
  subst hw
  simpa [headCalls] using hc

theorem Wordless.head (ex' : ExchangeId) (request : ProxyRequest) (meta_ : JsonValue) (s : Gateway) :
    s.Wordless ex (s.responseHead ex' request meta_) := by
  have hcalls (calls : List ResponseCall) (hempty : ∀ c ∈ calls, ∀ data, c = .write data → data = []) (s : Gateway) :
      s.Wordless ex (calls.foldl (callResponse ex') s) := by
    induction calls generalizing s with
    | nil => exact .refl s
    | cons c calls ih =>
      have hfirst : s.Wordless ex (s.callResponse ex' c) := .call (fun data hw _ => hempty c (by simp) data hw) s
      exact hfirst.trans (ih (fun c' hc' => hempty c' (by simp [hc'])) _)
  have hmeta : s.Wordless ex (s.onNet (Net.modifyExchange ex' (fun x => { x with metaReceived := true }))) := by
    refine .modify ex' ?_ s
    exact fun _ hd => hd
  have hspoken := hmeta.trans (hcalls (headCalls request.headers meta_) (fun c hc data hw => headCalls_empty hc hw) _)
  unfold responseHead
  dsimp only
  split
  · refine hmeta.trans ⟨rfl, fun h => ?_, id⟩
    cases h
  · split
    · exact hspoken
    · refine hspoken.trans (.modify ex' ?_ _)
      exact fun _ hd => hd

/-- Only a frame on the data socket of an exchange adds to the body of its response. -/
theorem Op.wordless {σ : Gateway} (h : Op Γ e σ s t) (hno : ¬ σ.Answering e ex) : s.Wordless ex t := by
  have hrun := h.running
  rcases h.response_cases with ⟨hkinds, hsame⟩ | ⟨reason, channelId, rfl⟩ | ⟨request, epoch, backendPeer, fresh, rfl⟩ |
    ⟨ex', x, meta_, -, -, -, rfl⟩ | ⟨ex', x, data, -, -, hact, rfl⟩ | ⟨channelId, ex', x, -, -, rfl⟩ | ⟨ex', rfl⟩
  · exact .of_pointwise (spoken_of_kinds hkinds (by decide)) hrun (hsame.mono fun x x' (h : x.SameResponse x') hd => h.destroyed ▸ hd)
  · exact .teardown _ _ _
  · exact .proxyViaChannel fresh _ _ _
  · exact .head _ _ _ _
  · exact .call (fun _ _ hex => absurd (hex ▸ hact) hno) _
  · exact .finish _ _ _ _
  · refine .modify ex' (fun x hd => ?_) _
    cases hd

/-! ## The body against the frames -/

/-- The body of a response is a beginning of what came for it, all of it while nothing is lost. -/
structure Returns (ex : ExchangeId) (body answered : Bytes) (s : Gateway) : Prop where
  begins : body ++ s.spoken ex <+: answered
  whole : s.uncaught = none → (∀ x, s.net.exchanges.get ex = some x → x.destroyed = false) → body ++ s.spoken ex = answered

section Returns

variable {body answered : Bytes}

theorem Returns.wordless (hs : s.Returns ex body answered) (h : s.Wordless ex t) : t.Returns ex body answered := by
  refine ⟨?_, fun hrun halive => ?_⟩
  · rw [h.silent]
    exact hs.begins
  · rw [h.silent]
    exact hs.whole (h.running hrun) (h.alive halive)

theorem Returns.write (hs : s.Returns ex body answered) (running : s.uncaught = none) {x : HttpExchange}
    (hx : s.net.exchanges.get ex = some x) (hbody : x.hasBody = true) (data : Bytes) :
    (s.callResponse ex (.write data)).Returns ex body (answered ++ data) := by
  have hseen : (s.callResponse ex (.write data)).seen (Output.bodyOf ex) = s.seen (Output.bodyOf ex) ++
      if x.destroyed = false ∧ x.writableEnded = false then [data] else [] := by
    rw [callResponse_seen, running, hx]
    simp [hbody]
  by_cases hgo : x.destroyed = false ∧ x.writableEnded = false
  · have hwhole : body ++ (s.callResponse ex (.write data)).spoken ex = answered ++ data := by
      have hbefore := hs.whole running fun x' hx' => by
        obtain rfl := Option.some.inj (hx'.symm.trans hx)
        exact hgo.1
      rw [spoken, hseen, if_pos hgo, ← hbefore]
      simp [spoken]
    exact ⟨hwhole ▸ List.prefix_refl _, fun _ _ => hwhole⟩
  · have hspoken : (s.callResponse ex (.write data)).spoken ex = s.spoken ex := by
      rw [spoken, hseen, if_neg hgo, List.append_nil]
      rfl
    refine ⟨?_, fun hrun halive => absurd ?_ hgo⟩
    · rw [hspoken]
      exact hs.begins.trans (List.prefix_append _ _)
    · obtain ⟨x', hx', hsame⟩ := (callResponse_speaks ex s (.write data)).exchanges.get_some hx
      have hd : x.destroyed = false := hsame.destroyed.symm.trans (halive x' hx')
      refine ⟨hd, ?_⟩
      by_contra hended
      rw [Bool.not_eq_false] at hended
      simp [callResponse, running, hx, hd, hended, throw] at hrun

/-- What is written to a response without a body is dropped. -/
theorem Returns.write_dropped (hs : s.Returns ex body answered) (running : s.uncaught = none) {x : HttpExchange}
    (hx : s.net.exchanges.get ex = some x) (hbody : x.hasBody = false) (data : Bytes) :
    (s.callResponse ex (.write data)).Returns ex body answered := by
  have hspeaks := callResponse_speaks ex s (.write data)
  refine hs.wordless (.of_pointwise ?_ hspeaks.uncaught (hspeaks.exchanges.mono fun x x' (h : x.Speaks x') hd => h.destroyed ▸ hd))
  rw [spoken, callResponse_seen, running, hx]
  simp [hbody, spoken]

/-- A frame on the data socket of an exchange. -/
theorem Returns.message (hs : s.Returns ex body answered) (running : s.uncaught = none) (hL : s.Legs) {ws : SocketId} {k : WsSocket}
    {channelId : String} (hk : s.net.sockets.get ws = some k) (hl : k.listener = .bridge channelId ex) (frame : Frame)
    (buffered : Nat) (writable : Bool) :
    (s.socketMessage Γ ws frame buffered writable).Returns ex body
      (answered ++ s.answers ex (.message ws frame buffered writable)) := by
  obtain ⟨x, hx, -, hws⟩ := hL.bridged ws k channelId ex hk hl
  have hanswers : s.answers ex (.message ws frame buffered writable) =
      if k.reads = true ∧ x.metaReceived = true ∧ frame.isBinary = true ∧ x.hasBody = true then frame.data else [] := by
    simp [answers, hk, hx, running, hws]
  unfold socketMessage
  rw [hk]
  dsimp only
  by_cases hr : k.reads = true
  · rw [if_pos hr, hl]
    dsimp only
    unfold bridgeMessage
    rw [hx]
    dsimp only
    by_cases hm : x.metaReceived = true
    · rw [if_neg (by simp [hm])]
      by_cases hb : frame.isBinary = true
      · rw [if_pos hb, hanswers]
        have hpaced : (s.onNet (Net.modifyExchange ex (fun x => { x with idleTimer := true }))).Returns ex body answered := by
          refine hs.wordless (.modify ex ?_ s)
          exact fun _ hd => hd
        have hx' : (s.onNet (Net.modifyExchange ex (fun x => { x with idleTimer := true }))).net.exchanges.get ex =
            some { x with idleTimer := true } := by
          simp [Net.modifyExchange, hx]
        have hwritten : ((s.onNet (Net.modifyExchange ex (fun x => { x with idleTimer := true }))).callResponse ex
            (.write frame.data)).Returns ex body
              (answered ++ if k.reads = true ∧ x.metaReceived = true ∧ frame.isBinary = true ∧ x.hasBody = true then frame.data
                else []) := by
          rcases hbody : x.hasBody with _ | _
          · rw [if_neg (by simp), List.append_nil]
            exact hpaced.write_dropped running hx' hbody frame.data
          · rw [if_pos ⟨hr, hm, hb, rfl⟩]
            exact hpaced.write running hx' hbody frame.data
        generalize (if k.reads = true ∧ x.metaReceived = true ∧ frame.isBinary = true ∧ x.hasBody = true then frame.data
          else []) = more at hwritten ⊢
        split
        · exact hwritten
        · refine (hwritten.wordless (.pause ws _)).wordless (.modify ex ?_ _)
          exact fun _ hd => hd
      · rw [if_neg hb, hanswers, if_neg fun h => hb h.2.2.1, List.append_nil]
        exact hs
    · rw [if_pos (by simp [hm]), hanswers, if_neg fun h => hm h.2.1, List.append_nil]
      have hpaced : (s.onNet (Net.modifyExchange ex (fun x => { x with responseTimer := false }))).Returns ex body answered := by
        refine hs.wordless (.modify ex ?_ s)
        exact fun _ hd => hd
      split
      · exact hpaced.wordless (.teardown _ _ _)
      · split
        · exact hpaced.wordless (.teardown _ _ _)
        · exact hpaced.wordless (.head _ _ _ _)
  · rw [if_neg hr, hanswers, if_neg fun h => hr h.1, List.append_nil]
    exact hs

theorem Returns.handle (hs : s.Returns ex body answered) (running : s.uncaught = none) (fresh : s.Fresh Γ) (hL : s.Legs) (e : Event) :
    (s.handle Γ e).Returns ex body (answered ++ s.answers ex e) := by
  by_cases hans : s.Answering e ex
  · obtain ⟨ws, k, channelId, frame, buffered, writable, rfl, hk, hl⟩ := hans
    exact hs.message running hL hk hl frame buffered writable
  · have hnone : s.answers ex e = [] := by
      unfold answers
      split
      · split
        · rename_i ws frame buffered writable _ _ k x hk hx
          rw [if_neg]
          rintro ⟨-, -, hws, -⟩
          obtain ⟨k', hk', hl'⟩ := hL.socket ex x ws hx hws
          exact hans ⟨ws, k', _, frame, buffered, writable, rfl, hk', hl'⟩
        · rfl
      · rfl
    rw [hnone, List.append_nil]
    exact hs.wordless (handle_rel (R := Wordless ex) .refl .trans e running fresh fun t u hop => hop.wordless hans)

theorem step_returns (e : Event) (fresh : s.Fresh Γ) (hL : s.Legs) (hs : s.quiet.Returns ex body answered) :
    (s.step Γ e).quiet.Returns ex (body ++ (acts Γ (Output.bodyOf ex) s e).flatten) (answered ++ s.answers ex e) := by
  rcases hrun : s.uncaught with _ | error
  · have hnext := hs.handle (Γ := Γ) hrun (fresh.turns (quiet_turns s)) (hL.turns (quiet_turns s)) e
    rw [acts_running hrun, step_running hrun]
    refine ⟨?_, fun hrun' halive => ?_⟩
    · change (body ++ (s.quiet.handle Γ e).spoken ex) ++ [] <+: _
      rw [List.append_nil]
      exact hnext.begins
    · change (body ++ (s.quiet.handle Γ e).spoken ex) ++ [] = _
      rw [List.append_nil]
      exact hnext.whole hrun' halive
  · have hnone : s.answers ex e = [] := by
      unfold answers
      split
      · split
        · rw [if_neg]
          rintro ⟨hnone, -⟩
          rw [hrun] at hnone
          cases hnone
        · rfl
      · rfl
    rw [acts_stopped hrun, step_stopped hrun, hnone, List.flatten_nil, List.append_nil, List.append_nil]
    exact hs

end Returns

/-! ## Over a run -/

theorem returns_run (ex : ExchangeId) (es : List Event) :
    ((gateway Γ storage).run es).quiet.Returns ex (bodySent Γ storage ex es) (bodyHeard Γ storage ex es) := by
  induction es using List.reverseRecOn with
  | nil => exact ⟨List.prefix_refl _, fun _ _ => rfl⟩
  | append_singleton es e ih =>
    have hfresh : ((gateway Γ storage).run es).Fresh Γ := fresh_run es
    have hchannels : ((gateway Γ storage).run es).Admission ∧ ((gateway Γ storage).run es).Legs := channels_run es
    have hnext := step_returns e hfresh hchannels.2 ih
    rw [bodySent, bodyHeard, EventMachine.history_snoc, EventMachine.history_snoc, EventMachine.run_snoc]
    exact hnext

/-- Over every run, the body that the bridge sends to the client of an exchange is what came on its data socket after the head of a
response that has a body, up to some point; all of it while the client is there. -/
theorem response_faithful (ex : ExchangeId) (es : List Event) :
    bodySent Γ storage ex es <+: bodyHeard Γ storage ex es ∧
      (((gateway Γ storage).run es).uncaught = none →
        (∀ x, ((gateway Γ storage).run es).net.exchanges.get ex = some x → x.destroyed = false) →
        bodySent Γ storage ex es = bodyHeard Γ storage ex es) := by
  have hreturns : ((gateway Γ storage).run es).quiet.Returns ex (bodySent Γ storage ex es) (bodyHeard Γ storage ex es) :=
    returns_run ex es
  refine ⟨?_, fun hrun halive => ?_⟩
  · exact (List.append_nil (bodySent Γ storage ex es)) ▸ hreturns.begins
  · exact (List.append_nil (bodySent Γ storage ex es)).symm.trans (hreturns.whole hrun halive)

/-- A response in two chunks. -/
def sampleDownload : List Event :=
  [.connect, .text 0 (sampleHello "zgb_old" true), .proxy sampleRequest (some "Bearer zgd_device"),
    .upgrade "127.0.0.1" "/channel/ccc?ticket=tttttt" true, .text 3 (.obj []), .message 3 { data := [7], isBinary := true } 0 true,
    .message 3 { data := [8], isBinary := true } 0 false]

example : bodySent (Ctx.sample [sampleHello "zgb_old" true, .obj []]) sampleStorage 2 sampleDownload = [7, 8] := by decide +kernel

end Gateway

end ZclaudiaGateway
