import ZclaudiaGateway.Http
import ZclaudiaGateway.Lemmas.Sample

/-!
# What Express hands to the proxy

Whether the body of a request that is dispatched to the proxy is still there for the bridge.
-/

namespace ZclaudiaGateway

open Gateway

/-! ## Body frames -/

/-- The part of an exchange's body that an event brings. -/
def bodyPart (ex : ExchangeId) : Event → Option BodyPart
  | .requestData ex' chunk _ => if ex' = ex then some (.data chunk) else none
  | .requestEnd ex' => if ex' = ex then some .ended else none
  | _ => none

/-- The part of a body that goes to a backend. -/
def Output.bodyPart : Output → Option BodyPart
  | .sendFrame _ frame => if frame.isBinary then some (.data frame.data) else none
  | .sendHttp _ .requestEnd => some .ended
  | _ => none

namespace Gateway

/-- What the bridge sends on in the course of an event of an exchange's body. -/
def forwards (Γ : Ctx) (ex : ExchangeId) (s : Gateway) (e : Event) : List BodyPart :=
  if (ZclaudiaGateway.bodyPart ex e).isSome then (s.step Γ e).net.outbox.filterMap Output.bodyPart else []

/-- The backend's leg of an exchange is bridged and open. -/
def Bridging (ex : ExchangeId) (s : Gateway) : Prop :=
  s.uncaught = none ∧ ∃ x ws, s.net.exchanges.get ex = some x ∧ x.ws = some ws ∧ s.net.readyState ws = .open_

/-- An event of a body that is not the body's is none of the bridge's business. -/
def WhileBridging (ex : ExchangeId) (s : Gateway) (e : Event) : Prop :=
  (ZclaudiaGateway.bodyPart ex e).isSome → s.Bridging ex

variable {Γ : Ctx} {ex : ExchangeId}

theorem requestData_outbox {s : Gateway} {x : HttpExchange} {ws : SocketId} (hx : s.net.exchanges.get ex = some x)
    (hws : x.ws = some ws) (hopen : s.net.readyState ws = .open_) (chunk : Bytes) (buffered : Nat) :
    (s.requestData ex chunk buffered).net.outbox = s.net.outbox ++ [.sendFrame ws { data := chunk, isBinary := true }] := by
  obtain ⟨channelId, request, targetPath⟩ := x
  obtain rfl := hws
  unfold requestData
  rw [hx]
  dsimp only
  rw [if_neg (by simp [hopen])]
  unfold onNet
  dsimp only
  split <;> rfl

theorem requestEnd_outbox {s : Gateway} {x : HttpExchange} {ws : SocketId} (hx : s.net.exchanges.get ex = some x)
    (hws : x.ws = some ws) (hopen : s.net.readyState ws = .open_) :
    (s.requestEnd ex).net.outbox = s.net.outbox ++ [.sendHttp ws .requestEnd] := by
  obtain ⟨channelId, request, targetPath⟩ := x
  obtain rfl := hws
  unfold requestEnd
  rw [hx]
  dsimp only
  rw [if_pos hopen]
  rfl

/-- An event of a bridged body sends the part it brings. -/
theorem bridging_forwards {s : Gateway} (h : s.Bridging ex) (e : Event) :
    s.forwards Γ ex e = (ZclaudiaGateway.bodyPart ex e).toList := by
  obtain ⟨hup, x, ws, hx, hws, hopen⟩ := h
  have hx : s.quiet.net.exchanges.get ex = some x := hx
  have hopen : s.quiet.net.readyState ws = .open_ := hopen
  have hstep : (s.step Γ e).net = (s.quiet.handle Γ e).net := by
    unfold step
    rw [hup, if_neg (by simp)]
  unfold forwards
  rw [hstep]
  cases e with
  | requestData ex' chunk buffered =>
    by_cases hex : ex' = ex
    · subst hex
      have hsent : (s.quiet.handle Γ (.requestData ex' chunk buffered)).net.outbox = _ :=
        requestData_outbox hx hws hopen chunk buffered
      rw [hsent]
      simp [ZclaudiaGateway.bodyPart, Output.bodyPart, quiet, onNet]
    · simp [ZclaudiaGateway.bodyPart, hex]
  | requestEnd ex' =>
    by_cases hex : ex' = ex
    · subst hex
      have hsent : (s.quiet.handle Γ (.requestEnd ex')).net.outbox = _ := requestEnd_outbox hx hws hopen
      rw [hsent]
      simp [ZclaudiaGateway.bodyPart, Output.bodyPart, quiet, onNet]
    · simp [ZclaudiaGateway.bodyPart, hex]
  | _ => rfl

end Gateway

/-- What the bridge sends on of a body over a run, the oldest first. -/
def forwarded (Γ : Ctx) (storage : Storage) (ex : ExchangeId) (es : List Event) : List BodyPart :=
  (gateway Γ storage).history (Gateway.forwards Γ ex) es

/-- While its leg is open, a bridged body is sent on part by part. -/
theorem forwarded_eq {Γ : Ctx} {storage : Storage} {ex : ExchangeId} {es : List Event}
    (h : (gateway Γ storage).Meets (WhileBridging ex) es) : forwarded Γ storage ex es = es.filterMap (bodyPart ex) := by
  induction es using List.reverseRecOn with
  | nil => rfl
  | append_singleton es e ih =>
    obtain ⟨hmeets, hlast⟩ := EventMachine.meets_snoc_iff.mp h
    unfold forwarded at ih ⊢
    rw [EventMachine.history_snoc, ih hmeets, List.filterMap_append]
    congr 1
    by_cases hpart : (bodyPart ex e).isSome
    · rw [Gateway.bridging_forwards (hlast hpart)]
      rcases hsome : bodyPart ex e with _ | part
      · rw [hsome] at hpart
        cases hpart
      · simp [hsome]
    · unfold Gateway.forwards
      rw [if_neg hpart]
      rw [Option.not_isSome_iff_eq_none] at hpart
      simp [hpart]

/-! ## The JSON middleware -/

/-- A route that matches starts with the prefix, up to case. -/
theorem matchProxyRoute_prefix {path : List Char} {captured : List Char × List Char}
    (h : matchProxyRoute path = some captured) :
    (path.take PROXY_PREFIX.length).map Char.toLower = PROXY_PREFIX := by
  unfold matchProxyRoute at h
  split at h
  · assumption
  · cases h

theorem dispatch_proxy {X : Express} {r : IncomingRequest} {request : ProxyRequest}
    {outcome : ParserOutcome} (h : dispatch X r = .proxy request outcome) :
    outcome = (if skipsJsonParser X r then .untouched else X.json r) ∧
      ∃ captured, matchProxyRoute (r.path X) = some captured := by
  unfold dispatch at h
  split at h
  · cases h
  · dsimp only at h
    generalize (if skipsJsonParser X r then ParserOutcome.untouched else X.json r) = left at h ⊢
    split at h
    · cases h
    · split at h
      · cases h
      · rename_i hmatch
        split at h
        · cases h
          exact ⟨rfl, _, hmatch⟩
        · cases h

/-- The prefix of a dispatched path is in lower case. -/
def LowerPrefix (X : Express) (r : IncomingRequest) : Prop := ∀ c ∈ (r.path X).take PROXY_PREFIX.length, c.toLower = c

theorem skipsJsonParser_iff {r : IncomingRequest} {captured : List Char × List Char}
    (h : matchProxyRoute (r.path X) = some captured) : skipsJsonParser X r = true ↔ LowerPrefix X r := by
  have hlower := matchProxyRoute_prefix h
  unfold skipsJsonParser LowerPrefix
  rw [List.isPrefixOf_iff_prefix, List.prefix_iff_eq_take]
  constructor
  · intro heq c hc
    rw [← heq] at hc
    have hall : PROXY_PREFIX.all (fun c => c.toLower = c) = true := by decide
    exact of_decide_eq_true (List.all_eq_true.mp hall c hc)
  · intro hall
    rw [List.map_congr_left hall, List.map_id'] at hlower
    exact hlower.symm

/-- Whatever the run, the bridge of a body that is left so sends all of it and then its end. -/
def BodyReaches (Γ : Ctx) (storage : Storage) (outcome : ParserOutcome) (body : List Bytes) : Prop :=
  ∀ ex es, es.filterMap (bodyPart ex) = outcome.leaves body → (gateway Γ storage).Meets (WhileBridging ex) es →
    forwarded Γ storage ex es = bodyParts body

theorem bodyReaches_iff {Γ : Ctx} {storage : Storage} {outcome : ParserOutcome} {body : List Bytes} :
    BodyReaches Γ storage outcome body ↔ outcome ≠ .drained := by
  constructor
  · intro h hdrained
    subst hdrained
    have hnil := h 0 [] rfl EventMachine.meets_nil
    simp [forwarded, bodyParts] at hnil
  · intro hleft ex es hparts hmeets
    rw [forwarded_eq hmeets, hparts]
    exact if_neg hleft

/-- Of a request that is dispatched to the proxy, the JSON middleware keeps away and the complete body reaches the backend,
exactly if the prefix of its path is in lower case. In another case the body is lost if the JSON parser reads it. -/
theorem proxied_body_unread_iff {Γ : Ctx} {storage : Storage} {X : Express}
    {r : IncomingRequest} {request : ProxyRequest} {outcome : ParserOutcome}
    (h : dispatch X r = .proxy request outcome) :
    (skipsJsonParser X r = true ∧ BodyReaches Γ storage outcome r.body ↔ LowerPrefix X r) ∧
    (BodyReaches Γ storage outcome r.body ↔ LowerPrefix X r ∨ X.json r ≠ .drained) := by
  obtain ⟨houtcome, captured, hmatch⟩ := dispatch_proxy h
  have hskips := skipsJsonParser_iff hmatch
  rw [bodyReaches_iff, houtcome]
  by_cases hskip : skipsJsonParser X r = true
  · simp [hskip, hskips.mp hskip]
  · have hupper : ¬ LowerPrefix X r := fun hlower => hskip (hskips.mpr hlower)
    simp [hskip, hupper]

/-- A request with a JSON body of one byte. -/
def sampleIncoming (url : String) : IncomingRequest :=
  { ip := "127.0.0.1"
    method := "POST"
    url
    headers :=
      { values := InsertionMap.empty.set "content-type" "application/json"
        valid := by
          intro name value h
          rw [InsertionMap.get_set] at h
          split at h
          · cases h
            decide
          · cases h }
    body := [[48]] }

/-- A parser that reads what is labelled as JSON. -/
def sampleExpress : Express where
  json r := if r.headers.values.get "content-type" = some "application/json" then .drained else .untouched
  hostedPathname _ := []

/-- The request that a dispatched sample is to the proxy. -/
def sampleDispatched (url : String) : ProxyRequest :=
  { ip := "127.0.0.1", method := "POST", headers := (sampleIncoming url).headers, backendId := "B", suffix := "log", url }

theorem proxied_body_unread_iff_sample :
    BodyReaches (Ctx.sample []) sampleStorage .untouched (sampleIncoming "/api/proxy/B/log?q").body := by
  have hdispatch : dispatch sampleExpress (sampleIncoming "/api/proxy/B/log?q") =
      .proxy (sampleDispatched "/api/proxy/B/log?q") .untouched := rfl
  have hall : (((sampleIncoming "/api/proxy/B/log?q").path sampleExpress).take PROXY_PREFIX.length).all (fun c => c.toLower = c) = true := rfl
  have hlower : LowerPrefix sampleExpress (sampleIncoming "/api/proxy/B/log?q") :=
    fun c hc => of_decide_eq_true (List.all_eq_true.mp hall c hc)
  exact ((proxied_body_unread_iff hdispatch).1.mpr hlower).2

/-- A path with another case is dispatched all the same, after the JSON parser has read the body. -/
theorem proxied_body_consumed : ¬ ∀ (Γ : Ctx) (storage : Storage) (X : Express)
    (r : IncomingRequest) (request : ProxyRequest) (outcome : ParserOutcome),
      dispatch X r = .proxy request outcome →
        skipsJsonParser X r = true ∧ BodyReaches Γ storage outcome r.body := by
  intro h
  have hdispatch : dispatch sampleExpress (sampleIncoming "/API/proxy/B/log") =
      .proxy (sampleDispatched "/API/proxy/B/log") .drained := rfl
  obtain ⟨-, hreaches⟩ := h (Ctx.sample []) sampleStorage _ _ _ _ hdispatch
  exact bodyReaches_iff.mp hreaches rfl

end ZclaudiaGateway
