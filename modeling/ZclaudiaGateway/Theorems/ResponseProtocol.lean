import ZclaudiaGateway.Lemmas.Exchanges

/-!
# What the client of a proxied request sees

Two sides drive the response of a proxied request: the frames and the end of its data socket, and the teardown of its channel,
which comes from timers, aborts and the control plane. In every order of their steps one response at most goes out: a head with
a status and headers that HTTP knows, then either the JSON answer of a teardown, which ends it, or body bytes and one end or cut.
-/

namespace ZclaudiaGateway

/-- What goes out on a response. `answered` is the body of a JSON answer, which ends the response. -/
inductive ResponseAct where
  | head (status : Nat) (headers : List (String × String))
  | body (data : Bytes)
  | answered
  | ended
  | destroyed

/-- What of an output goes out on the response of an exchange. -/
def Output.responseAct (ex : ExchangeId) : Output → Option ResponseAct
  | .head ex' status headers => if ex' = ex then some (.head status headers) else none
  | .body ex' data => if ex' = ex then some (.body data) else none
  | .replyProxy ex' _ => if ex' = ex then some .answered else none
  | .endResponse ex' => if ex' = ex then some .ended else none
  | .destroyResponse ex' => if ex' = ex then some .destroyed else none
  | _ => none

/-- A header that the proxy forwards. -/
def ForwardedHeader (h : String × String) : Prop := h.1 ∈ PROXY_RESPONSE_HEADER_ALLOWLIST ∧ validHeaderValue h.2 = true

instance (h : String × String) : Decidable (ForwardedHeader h) := inferInstanceAs (Decidable (_ ∧ _))

/-- The headers that the CORS middleware may put on a response. -/
def allowedCorsHeaders (allowedOrigins : Option (List String)) : List (String × String) :=
  let origin : List (String × String) :=
    match allowedOrigins with
    | none => [("access-control-allow-origin", "*")]
    | some origins =>
      origins.map (fun origin => ("access-control-allow-origin", origin)) ++
        [("access-control-allow-credentials", "true"), ("vary", "Origin")]
  origin ++
    [("access-control-allow-methods", "GET, POST, PUT, DELETE, PATCH, OPTIONS"),
      ("access-control-allow-headers", "Content-Type, Authorization, X-Request-Id")]

/-- The status is one of HTTP, and every header is a forwarded one or of the CORS middleware. -/
def SoundHead (allowedOrigins : Option (List String)) (status : Nat) (headers : List (String × String)) : Prop :=
  (100 ≤ status ∧ status ≤ 599) ∧ ∀ h ∈ headers, ForwardedHeader h ∨ h ∈ allowedCorsHeaders allowedOrigins

instance (allowedOrigins : Option (List String)) (status : Nat) (headers : List (String × String)) :
    Decidable (SoundHead allowedOrigins status headers) :=
  inferInstanceAs (Decidable (_ ∧ _))

inductive ResponsePhase where
  | waiting
  | headed
  | streaming
  | finished
deriving DecidableEq

/-- A head, and then the JSON answer or body bytes and an end or a cut. -/
def responseProtocol (allowedOrigins : Option (List String)) : Protocol ResponsePhase ResponseAct where
  start := .waiting
  next
    | .waiting, .head status headers => if SoundHead allowedOrigins status headers then some .headed else none
    | .headed, .answered => some .finished
    | .headed, .body _ | .streaming, .body _ => some .streaming
    | .headed, .ended | .headed, .destroyed | .streaming, .ended | .streaming, .destroyed => some .finished
    | _, _ => none

/-- The head is out, and the response is neither ended nor cut. -/
def ResponsePhase.Sending (q : ResponsePhase) : Prop := q = .headed ∨ q = .streaming

section

variable {origins : Option (List String)}

/-- A single output is followed by the act it is. -/
theorem follow_act {ex : ExchangeId} {q : ResponsePhase} {o : Output} {act : ResponseAct} (h : o.responseAct ex = some act) :
    (responseProtocol origins).follow q ([o].filterMap (Output.responseAct ex)) = (responseProtocol origins).next q act := by
  rw [List.filterMap_cons, h]
  exact Protocol.follow_singleton _ q act

theorem next_head {status : Nat} {headers : List (String × String)} (h : SoundHead origins status headers) :
    (responseProtocol origins).next .waiting (.head status headers) = some .headed :=
  if_pos h

theorem ResponsePhase.Sending.next_ended {q : ResponsePhase} (h : q.Sending) :
    (responseProtocol origins).next q .ended = some .finished := by
  rcases h with rfl | rfl <;> rfl

theorem ResponsePhase.Sending.next_destroyed {q : ResponsePhase} (h : q.Sending) :
    (responseProtocol origins).next q .destroyed = some .finished := by
  rcases h with rfl | rfl <;> rfl

end

/-- The head that a response would send. -/
def HttpExchange.Prepared (origins : Option (List String)) (x : HttpExchange) : Prop :=
  SoundHead origins x.statusCode x.headers.entries

/-- The phase of a response says how far its exchange is. -/
structure ResponsePhase.Agrees (q : ResponsePhase) (x : HttpExchange) : Prop where
  waiting : q = .waiting ↔ x.headersSent = false
  ended : x.writableEnded = true → q = .finished
  finished : q = .finished → x.writableEnded = true ∨ x.destroyed = true

/-- The phase of a response is that of its exchange. -/
inductive ResponsePhase.Fits (origins : Option (List String)) (running : Prop) : ResponsePhase → Option HttpExchange → Prop
  | absent : Fits origins running .waiting none
  | waiting {x : HttpExchange} (headersSent : x.headersSent = false) (writableEnded : x.writableEnded = false)
    (prepared : x.Prepared origins) (metaReceived : running → x.metaReceived = true → x.destroyed = true) :
    Fits origins running .waiting (some x)
  | sending {q : ResponsePhase} {x : HttpExchange} (sending : q.Sending) (headersSent : x.headersSent = true)
    (writableEnded : x.writableEnded = false) : Fits origins running q (some x)
  | finished {x : HttpExchange} (finished : x.Finished) : Fits origins running .finished (some x)

namespace ResponsePhase.Fits

variable {origins : Option (List String)} {running running' : Prop} {q : ResponsePhase} {x x' : HttpExchange}

theorem weaken {o : Option HttpExchange} (h : q.Fits origins running o) (hrun : running' → running) : q.Fits origins running' o := by
  cases h with
  | absent => exact .absent
  | waiting headersSent writableEnded prepared metaReceived =>
    exact .waiting headersSent writableEnded prepared (fun hr => metaReceived (hrun hr))
  | sending sends headersSent writableEnded => exact .sending sends headersSent writableEnded
  | finished finished => exact .finished finished

/-- A response that has been written to is out or destroyed. -/
theorem written (h : q.Fits origins running (some x)) (hwritten : running' → x.headersSent = true ∨ x.destroyed = true) :
    q.Fits origins running' (some x) := by
  cases h with
  | waiting headersSent writableEnded prepared metaReceived =>
    refine .waiting headersSent writableEnded prepared (fun hr _ => ?_)
    rcases hwritten hr with hs | hd
    · rw [headersSent] at hs
      cases hs
    · exact hd
  | sending sends headersSent writableEnded => exact .sending sends headersSent writableEnded
  | finished finished => exact .finished finished

theorem same (h : q.Fits origins running (some x)) (hsame : x.SameResponse x') : q.Fits origins running (some x') := by
  cases h with
  | waiting headersSent writableEnded prepared metaReceived =>
    refine .waiting (hsame.headersSent.trans headersSent) (hsame.writableEnded.trans writableEnded) ?_ ?_
    · unfold HttpExchange.Prepared
      rwa [hsame.statusCode, hsame.headers]
    · rwa [hsame.metaReceived, hsame.destroyed]
  | sending sends headersSent writableEnded =>
    exact .sending sends (hsame.headersSent.trans headersSent) (hsame.writableEnded.trans writableEnded)
  | finished finished =>
    refine .finished ⟨hsame.headersSent.trans finished.1, ?_⟩
    rw [hsame.writableEnded, hsame.destroyed]
    exact finished.2

/-- A response that is neither ended nor destroyed is being sent once its head is out. -/
theorem sends (h : q.Fits origins running (some x)) (headersSent : x.headersSent = true) (writableEnded : x.writableEnded = false)
    (destroyed : x.destroyed = false) : q.Sending := by
  cases h with
  | waiting waiting _ _ _ => simp [waiting] at headersSent
  | sending sends _ _ => exact sends
  | finished finished =>
    rcases finished.2 with he | he
    · simp [writableEnded] at he
    · simp [destroyed] at he

end ResponsePhase.Fits

namespace Gateway

variable {Γ : Ctx} {origins : Option (List String)} {ex : ExchangeId}

/-- The phase of the response of an exchange. -/
def Responds (origins : Option (List String)) (ex : ExchangeId) (q : ResponsePhase) (s : Gateway) : Prop := q.Fits origins (s.uncaught = none) (s.net.exchanges.get ex)

/-- The phase while the head of the response of `ex'` is being made. -/
def Speaking (origins : Option (List String)) (ex' ex : ExchangeId) (q : ResponsePhase) (s : Gateway) : Prop :=
  q.Fits origins (s.uncaught = none ∧ ex' ≠ ex) (s.net.exchanges.get ex)

theorem Responds.same {q : ResponsePhase} {s t : Gateway} (h : s.Responds origins ex q) (hsame : s.SameResponses t)
    (hrun : t.uncaught = none → s.uncaught = none) : t.Responds origins ex q := by
  unfold Responds at h ⊢
  rcases hx : s.net.exchanges.get ex with _ | x
  · rw [hx] at h
    rw [(hsame.get_none_iff ex).mpr hx]
    exact h.weaken hrun
  · obtain ⟨x', hx', hs⟩ := hsame.get_some hx
    rw [hx] at h
    rw [hx']
    exact (h.same hs).weaken hrun

theorem onExchange_get (ex' : ExchangeId) (f : HttpExchange → HttpExchange) (s : Gateway) (ex : ExchangeId) :
    (s.onNet (Net.modifyExchange ex' f)).net.exchanges.get ex =
      if ex = ex' then (s.net.exchanges.get ex).map f else s.net.exchanges.get ex :=
  InsertionMap.get_modify _ _ _ _

/-- A change of an exchange that keeps the phases of its response. -/
theorem Speaking.modify {q : ResponsePhase} {s : Gateway} {ex' : ExchangeId} (h : s.Speaking origins ex' ex q)
    {f : HttpExchange → HttpExchange}
    (hf : ∀ x, ex = ex' → q.Fits origins (s.uncaught = none ∧ ex' ≠ ex) (some x) →
      q.Fits origins (s.uncaught = none ∧ ex' ≠ ex) (some (f x))) :
    (s.onNet (Net.modifyExchange ex' f)).Speaking origins ex' ex q := by
  unfold Speaking at h ⊢
  rw [onExchange_get]
  split
  · rename_i hex
    rcases hx : s.net.exchanges.get ex with _ | x
    · rw [hx] at h
      exact h
    · rw [hx] at h
      exact hf x hex h
  · exact h

/-- An exception in the course of it. -/
theorem Speaking.throw {q : ResponsePhase} {s : Gateway} {ex' : ExchangeId} (h : s.Speaking origins ex' ex q) (error : JsError) :
    (s.throw error).Speaking origins ex' ex q := by
  refine h.weaken fun hrun => ?_
  cases hrun.1

end Gateway

/-- A call that leaves a head one that may be sent. -/
def ResponseCall.Sound : ResponseCall → Prop
  | .setHeader name _ => name.toLower ∈ PROXY_RESPONSE_HEADER_ALLOWLIST
  | .status code => 100 ≤ code ∧ code ≤ 599
  | .write _ => True

theorem HttpExchange.Prepared.setHeader {origins : Option (List String)} {x : HttpExchange} (h : x.Prepared origins) {name value : String}
    (hname : name ∈ PROXY_RESPONSE_HEADER_ALLOWLIST) (hvalue : validHeaderValue value = true) :
    ({ x with headers := x.headers.set name value } : HttpExchange).Prepared origins := by
  refine ⟨h.1, fun p hp => ?_⟩
  rcases InsertionMap.get_set_eq_some.mp (InsertionMap.mem_entries_iff.mp hp) with ⟨hk, hv⟩ | ⟨-, hget⟩
  · exact Or.inl ⟨hk ▸ hname, hv ▸ hvalue⟩
  · exact h.2 p (InsertionMap.mem_entries_iff.mpr hget)

namespace Gateway

variable {Γ : Ctx} {origins : Option (List String)} {ex : ExchangeId}

/-- The progress of the response of `ex`, as its client sees it. -/
abbrev ResponseProgress (origins : Option (List String)) (ex : ExchangeId) (R : ResponsePhase → Gateway → Prop) : Gateway → Gateway → Prop :=
  Progresses (responseProtocol origins) (Output.responseAct ex) R

/-- An operation that puts out no more than calls. -/
theorem ResponseProgress.calls {R : ResponsePhase → Gateway → Prop} {s t : Gateway} {ex' : ExchangeId} {c : ResponseCall}
    (hout : t.net.outbox = s.net.outbox ++ [.call ex' c]) (hR : ∀ q, R q s → R q t) : ResponseProgress origins ex R s t :=
  .of_outputs hout (fun q hq => ⟨q, rfl, hR q hq⟩)

/-- A write that raises nothing leaves the head out, unless the response is destroyed. -/
theorem write_out {data : Bytes} {s : Gateway} (hrun : (s.callResponse ex (.write data)).uncaught = none)
    {x : HttpExchange} (hx : (s.callResponse ex (.write data)).net.exchanges.get ex = some x) :
    x.headersSent = true ∨ x.destroyed = true := by
  have hrun0 : s.uncaught = none := (callResponse_speaks ex s (.write data)).uncaught hrun
  rcases hx0 : s.net.exchanges.get ex with _ | x0
  · simp [callResponse, hrun0, hx0] at hx
  · simp only [callResponse, hrun0, hx0] at hrun hx
    split at hx
    · rename_i hdestroyed
      rw [onNet_net, Net.emit_exchanges, hx0] at hx
      exact Or.inr (Option.some.inj hx ▸ hdestroyed)
    · rename_i hdestroyed
      rw [if_neg hdestroyed] at hrun
      split at hx
      · rename_i hended
        rw [if_pos hended] at hrun
        cases hrun
      · split at hx
        · rename_i hsent
          rw [onNet_net, writeBody_exchanges, onNet_net, Net.emit_exchanges, hx0] at hx
          exact Or.inl (Option.some.inj hx ▸ hsent)
        · rw [onNet_net, writeBody_exchanges] at hx
          change (s.net.exchanges.modify ex (fun x => { x with headersSent := true })).get ex = some x at hx
          rw [InsertionMap.get_modify_self, hx0] at hx
          exact Or.inl (Option.some.inj hx ▸ rfl)

/-- After a last write the phase is as precise as between the events. -/
theorem Speaking.written {ex' ex : ExchangeId} {q : ResponsePhase} {data : Bytes} {s : Gateway}
    (h : (s.callResponse ex' (.write data)).Speaking origins ex' ex q) : (s.callResponse ex' (.write data)).Responds origins ex q := by
  by_cases hex : ex' = ex
  · subst hex
    unfold Speaking at h
    unfold Responds
    rcases hx : (s.callResponse ex' (.write data)).net.exchanges.get ex' with _ | x
    · rw [hx] at h
      cases h
      exact .absent
    · rw [hx] at h
      exact ResponsePhase.Fits.written h (fun hrun => write_out hrun hx)
  · exact h.weaken (fun hrun => ⟨hrun, hex⟩)

end Gateway

/-- What a teardown puts out on the response of its channel. -/
def HttpExchange.tearing (reason : ChannelClosedReason) (ex : ExchangeId) (x : HttpExchange) : List Output :=
  if !x.headersSent then
    let status := if reason = .timeout then 504 else 502
    let code := if reason = .timeout then "GATEWAY_TIMEOUT" else "BACKEND_OFFLINE"
    [.head ex status (x.headers.entries ++ [("content-type", "application/json; charset=utf-8")]),
      .replyProxy ex { status, body := .error code ("Proxy channel " ++ reason.text) }]
  else if !x.writableEnded && !x.destroyed then [.destroyResponse ex]
  else []

/-- The answer to a teardown comes in turn. -/
theorem ResponsePhase.Fits.torn {origins : Option (List String)} {running : Prop} {q : ResponsePhase} {x : HttpExchange} (h : q.Fits origins running (some x))
    (reason : ChannelClosedReason) (ex : ExchangeId) :
    ∃ q', (responseProtocol origins).follow q ((x.tearing reason ex).filterMap (Output.responseAct ex)) = some q' ∧
      q'.Fits origins running (some (x.answered reason)) := by
  unfold HttpExchange.tearing HttpExchange.answered
  split
  · rename_i hs
    cases h with
    | waiting headersSent writableEnded prepared metaReceived =>
      refine ⟨.finished, ?_, .finished ⟨rfl, Or.inl rfl⟩⟩
      have hsound : SoundHead origins (if reason = .timeout then 504 else 502)
          (x.headers.entries ++ [("content-type", "application/json; charset=utf-8")]) := by
        refine ⟨by split <;> decide, fun p hp => ?_⟩
        rcases List.mem_append.mp hp with hp | hp
        · exact prepared.2 p hp
        · rw [List.mem_singleton.mp hp]
          exact Or.inl ⟨by decide +kernel, by decide +kernel⟩
      simp only [List.filterMap_cons, List.filterMap_nil, Output.responseAct, if_true]
      rw [Protocol.follow_cons, next_head hsound]
      rfl
    | sending sends headersSent writableEnded => simp [headersSent] at hs
    | finished finished => simp [finished.1] at hs
  · rename_i hs
    rw [Bool.not_eq_true', Bool.not_eq_false] at hs
    split
    · rename_i hd
      rw [Bool.and_eq_true, Bool.not_eq_true', Bool.not_eq_true'] at hd
      refine ⟨.finished, ?_, .finished ⟨hs, Or.inr rfl⟩⟩
      refine (follow_act ?_).trans (h.sends hs hd.1 hd.2).next_destroyed
      exact if_pos rfl
    · exact ⟨q, rfl, h⟩

namespace Gateway

variable {Γ : Ctx} {origins : Option (List String)} {ex : ExchangeId}

end Gateway

/-- The end of the data socket finds the response to be ended. -/
def HttpExchange.endable (x : HttpExchange) : Bool := x.metaReceived && !x.writableEnded && !x.destroyed

/-- An exchange after the end of its data socket. -/
def HttpExchange.ended (x : HttpExchange) : HttpExchange :=
  { x with responseTimer := false, idleTimer := false, writableEnded := x.writableEnded || x.endable }

/-- What is to be ended is out. -/
theorem ResponsePhase.Fits.ended {origins : Option (List String)} {running : Prop} {q : ResponsePhase} {x : HttpExchange} (h : q.Fits origins running (some x))
    (hrun : running) :
    ∃ q', (responseProtocol origins).follow q (if x.endable then [.ended] else []) = some q' ∧ q'.Fits origins running (some x.ended) := by
  cases h with
  | waiting headersSent writableEnded prepared metaReceived =>
    have hend : x.endable = false := by
      rcases hm : x.metaReceived with _ | _
      · simp [HttpExchange.endable, hm]
      · simp [HttpExchange.endable, metaReceived hrun hm]
    refine ⟨.waiting, by simp [hend], .waiting headersSent ?_ prepared metaReceived⟩
    simp [HttpExchange.ended, hend, writableEnded]
  | sending sends headersSent writableEnded =>
    by_cases hend : x.endable = true
    · refine ⟨.finished, ?_, .finished ⟨headersSent, Or.inl ?_⟩⟩
      · rw [if_pos hend, Protocol.follow_singleton]
        exact sends.next_ended
      · simp [HttpExchange.ended, hend]
    · refine ⟨q, by rw [if_neg hend]; rfl, .sending sends headersSent ?_⟩
      simp [HttpExchange.ended, hend, writableEnded]
  | finished finished =>
    have hend : x.endable = false := by
      rcases finished.2 with he | he
      · simp [HttpExchange.endable, he]
      · simp [HttpExchange.endable, he]
    refine ⟨.finished, by simp [hend], .finished ⟨finished.1, ?_⟩⟩
    simpa [HttpExchange.ended, hend] using finished.2

namespace Gateway

variable {Γ : Ctx} {origins : Option (List String)} {ex : ExchangeId}

end Gateway

end ZclaudiaGateway
