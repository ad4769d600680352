import ZclaudiaGateway.Lemmas.Buckets
import ZclaudiaGateway.Lemmas.Sample

/-!
# Rate limits of the gateway

What the proxy limiter decides of a credential's requests, and whether a client that waits as long as a 429 tells it is let
through.
-/

namespace ZclaudiaGateway

open Gateway

/-! ## The proxy limiter -/

namespace Gateway

/-- What `refuseProxyRequest` decides of the proxied request that an event brings, if it is authenticated. -/
def proxyDecision (Γ : Ctx) (s : Gateway) (e : Event) : List Decision :=
  if s.uncaught.isSome then []
  else
    match s.proxied Γ e with
    | some (credentialId, ip) => [⟨credentialId, s.now, (s.refuseProxyRequest Γ credentialId ip).1.isNone⟩]
    | none => []

/-- Without a ceiling by IP the credential's bucket decides. -/
theorem refuseProxyRequest_isNone {Γ : Ctx} (hceiling : Γ.config.proxyIpRateLimit = 0) (credentialId ip : String) (s : Gateway) :
    s.checkProxyIp Γ ip = (true, s) ∧ (s.refuseProxyRequest Γ credentialId ip).1.isNone =
      (checkLimit s.proxyRequests credentialId Γ.config.proxyRateLimit PROXY_RATE_WINDOW s.now).1 := by
  have hip : s.checkProxyIp Γ ip = (true, s) := by
    unfold checkProxyIp
    rw [if_neg (by omega)]
  refine ⟨hip, ?_⟩
  unfold refuseProxyRequest
  rw [hip]
  dsimp only
  rcases (checkLimit s.proxyRequests credentialId Γ.config.proxyRateLimit PROXY_RATE_WINDOW s.now).1 with _ | _ <;> rfl

theorem proxyDecision_eq {Γ : Ctx} (hceiling : Γ.config.proxyIpRateLimit = 0) (s : Gateway) (e : Event) :
    s.proxyDecision Γ e =
      (s.counts Γ .proxyRequests e).flatMap (decision Γ.config.proxyRateLimit PROXY_RATE_WINDOW s.proxyRequests) := by
  unfold proxyDecision counts
  split
  · rfl
  · cases e with
    | proxy request authorization =>
      unfold touches proxied
      dsimp only
      rcases s.bearer Γ authorization with _ | credential
      · rfl
      · obtain ⟨hip, hnone⟩ := refuseProxyRequest_isNone hceiling credential.id request.ip s
        dsimp only [Option.map_some]
        rw [hnone, Option.filter_some, hip]
        rfl
    | _ => rfl

end Gateway

/-- What the proxy limiter decides over a run, the oldest first. -/
def proxyDecisions (Γ : Ctx) (storage : Storage) (es : List Event) : List Decision :=
  (gateway Γ storage).history (Gateway.proxyDecision Γ) es

section Proxy

variable {Γ : Ctx} {storage : Storage}

theorem proxyDecisions_eq (hceiling : Γ.config.proxyIpRateLimit = 0) (es : List Event) :
    proxyDecisions Γ storage es =
      decisions Γ.config.proxyRateLimit PROXY_RATE_WINDOW (bucketHistory Γ storage .proxyRequests es) := by
  induction es using List.reverseRecOn with
  | nil => rfl
  | append_singleton es e ih =>
    have hbucket : ((gateway Γ storage).run es).proxyRequests = _ := @rateMap_run Γ storage .proxyRequests es
    unfold proxyDecisions at ih ⊢
    rw [EventMachine.history_snoc, ih, bucketHistory_snoc, Gateway.proxyDecision_eq hceiling, hbucket]
    have hone : (((gateway Γ storage).run es).counts Γ .proxyRequests e).length ≤ 1 := by
      unfold Gateway.counts Gateway.touches
      split
      · exact Nat.zero_le _
      · split
        · exact le_refl _
        · simp only [List.length_map]
          exact Option.length_toList_le
    generalize ((gateway Γ storage).run es).counts Γ .proxyRequests e = counted at hone
    rcases counted with _ | ⟨c, _ | ⟨c', rest⟩⟩
    · simp
    · unfold decisions
      rw [EventMachine.history_snoc, List.flatMap_cons, List.flatMap_nil, List.append_nil]
      rfl
    · simp at hone

/-- What the limiter decides of a credential's requests, the oldest first. -/
def decisionsOf (credentialId : String) (ds : List Decision) : List Decision := ds.filter (fun d => d.key = credentialId)

/-- The decisions of a bucket that nothing but attempts under one key happens to, at the given times. -/
def alone (limit : Nat) (key : String) (times : List Nat) : List Decision :=
  decisions limit PROXY_RATE_WINDOW (times.map (fun time => (time, .attempt key)))

/-- A run of attempts under one key is known by its times. -/
theorem ownAttempts_eq (limit : Nat) (key : String) (es : List (Nat × BucketEvent)) :
    ownAttempts key es =
      ((decisions limit PROXY_RATE_WINDOW (ownAttempts key es)).map Decision.time).map (fun time => (time, .attempt key)) := by
  have hown : ∀ e ∈ ownAttempts key es, e.2 = .attempt key := fun e he => of_decide_eq_true (List.mem_filter.mp he).2
  generalize ownAttempts key es = l at hown
  induction l using List.reverseRecOn with
  | nil => rfl
  | append_singleton l e ih =>
    have he : e.2 = .attempt key := hown e (by simp)
    have ih := ih fun e he => hown e (List.mem_append_left _ he)
    unfold decisions at ih ⊢
    rw [EventMachine.history_snoc, List.map_append, List.map_append, ← ih]
    unfold decision
    rw [he]
    simp [← he]

end Proxy

/-- The limiter decides of a credential's requests as if nothing else had happened to it: by the times of these requests, in
whatever run they come and whatever else the run holds. No minute holds more than twice the limit of admitted ones. -/
theorem proxy_limit_isolated {Γ : Ctx} (hceiling : Γ.config.proxyIpRateLimit = 0) (hlimit : 1 ≤ Γ.config.proxyRateLimit)
    {storage : Storage} {es : List Event} (hclock : (gateway Γ storage).Meets ClockForward es) (credentialId : String) :
    let own := decisionsOf credentialId (proxyDecisions Γ storage es)
    own = alone Γ.config.proxyRateLimit credentialId (own.map Decision.time) ∧
    (∀ storage' es', (gateway Γ storage').Meets ClockForward es' →
      let own' := decisionsOf credentialId (proxyDecisions Γ storage' es')
      own'.map Decision.time = own.map Decision.time → own' = own) ∧
    ∀ first, (own.filter (fun d => d.admitted ∧ first ≤ d.time ∧ d.time ≤ first + PROXY_RATE_WINDOW)).length ≤
      2 * Γ.config.proxyRateLimit := by
  have halone (storage : Storage) (es : List Event) (hclock : (gateway Γ storage).Meets ClockForward es) :
      decisionsOf credentialId (proxyDecisions Γ storage es) = alone Γ.config.proxyRateLimit credentialId
        ((decisionsOf credentialId (proxyDecisions Γ storage es)).map Decision.time) := by
    obtain ⟨hforward, -⟩ := bucketHistory_forward .proxyRequests es hclock
    rw [proxyDecisions_eq hceiling]
    unfold decisionsOf alone
    rw [decisions_isolated hforward, ← ownAttempts_eq]
  refine ⟨halone storage es hclock, fun storage' es' hclock' htimes => ?_, fun first => ?_⟩
  · rw [halone storage es hclock, halone storage' es' hclock', htimes]
  · obtain ⟨hforward, -⟩ := bucketHistory_forward .proxyRequests es hclock
    have hstretch := @stretch_le _ PROXY_RATE_WINDOW hlimit _ hforward credentialId first
    rw [← proxyDecisions_eq hceiling] at hstretch
    refine le_of_eq_of_le ?_ hstretch
    unfold decisionsOf
    rw [List.filter_filter]
    congr 2
    funext d
    simp [Bool.and_comm]

/-- A gateway that lets one request a minute in for a credential, and one failed authentication for an IP. -/
def sampleLimited : Ctx := { Ctx.sample [] with config := { authFailRateLimit := 1, proxyRateLimit := 1 } }

/-- Two requests of the device within the minute, a third one when it is over. -/
def sampleProxied : List Event :=
  [.proxy sampleRequest (some "Bearer zgd_device"), .rateLimitCleanup, .proxy sampleRequest (some "Bearer zgd_device"),
    .clock 60001, .proxy sampleRequest (some "Bearer zgd_device")]

theorem proxy_limit_isolated_sample :
    decisionsOf "device" (proxyDecisions sampleLimited sampleStorage sampleProxied) =
      [⟨"device", 0, true⟩, ⟨"device", 0, false⟩, ⟨"device", 60001, true⟩] ∧
    decisionsOf "device" (proxyDecisions sampleLimited sampleStorage sampleProxied) = alone 1 "device" [0, 0, 60001] := by
  have hdecisions : decisionsOf "device" (proxyDecisions sampleLimited sampleStorage sampleProxied) =
      [⟨"device", 0, true⟩, ⟨"device", 0, false⟩, ⟨"device", 60001, true⟩] := by
    decide +kernel
  have hclock : (gateway sampleLimited sampleStorage).Meets ClockForward sampleProxied := by
    rw [EventMachine.meets_iff_take]
    intro i hi now he
    rcases i with _ | _ | _ | _ | _ | i
    case succ.succ.succ.zero =>
      cases he
      decide +kernel
    case succ.succ.succ.succ.succ =>
      have hlength : sampleProxied.length = 5 := rfl
      omega
    all_goals cases he
  refine ⟨hdecisions, ?_⟩
  have h := (proxy_limit_isolated rfl (le_refl 1) hclock "device").1
  rw [hdecisions] at h ⊢
  exact h

/-! ## Retry-After -/

/-- The answer of `rateLimited` that tells the client to wait the given seconds. -/
def tooMany (seconds : Nat) : Output :=
  .reply
    { status := 429
      retryAfter := some seconds
      body := .error "RATE_LIMITED" "Too many requests" }

namespace Gateway

/-- The bucket that refuses an HTTP request, and the key it refuses it under. -/
def refusal (Γ : Ctx) (s : Gateway) (e : Event) : Option (Bucket × String) :=
  match e with
  | .message _ _ _ _ => none
  | _ =>
    match s.denied Γ e, s.proxied Γ e with
    | some ip, _ =>
      if (checkLimit s.authFailures ip Γ.config.authFailRateLimit AUTH_FAIL_WINDOW s.now).1 then none
      else some (.authFailures, ip)
    | none, some (credentialId, ip) =>
      (s.refuseProxyRequest Γ credentialId ip).1.map (fun p =>
        if (s.checkProxyIp Γ ip).1 then (.proxyRequests, p.2) else (.proxyIpRequests, p.2))
    | none, none => none

/-- The refusal of a bucket: the event is one more attempt under the key, and it is answered with a 429. -/
structure Refuses (Γ : Ctx) (s : Gateway) (e : Event) (b : Bucket) (key : String) : Prop where
  counted : s.touches Γ e b = [.attempt key]
  refused : (checkLimit (s.bucket b) key (b.limit Γ) PROXY_RATE_WINDOW s.now).1 = false
  answered : (s.handle Γ e).net.outbox = s.net.outbox ++
    [tooMany (retryAfter (checkLimit (s.bucket b) key (b.limit Γ) PROXY_RATE_WINDOW s.now).2 key PROXY_RATE_WINDOW s.now)]

variable {Γ : Ctx} {s : Gateway}

theorem denyUnauthorized_refused {ip : String} (message : String)
    (h : (checkLimit s.authFailures ip Γ.config.authFailRateLimit AUTH_FAIL_WINDOW s.now).1 = false) :
    (s.denyUnauthorized Γ ip message).net.outbox = s.net.outbox ++
      [tooMany (retryAfter (checkLimit s.authFailures ip Γ.config.authFailRateLimit AUTH_FAIL_WINDOW s.now).2 ip
        AUTH_FAIL_WINDOW s.now)] := by
  unfold denyUnauthorized recordAuthFailure
  dsimp only
  rw [h, if_neg Bool.false_ne_true]
  rfl

/-- A failed authentication that the failures' bucket refuses. -/
theorem refuses_denied {e : Event} {ip : String} (hdenied : s.denied Γ e = some ip) (hclean : e ≠ .rateLimitCleanup)
    (h : (checkLimit s.authFailures ip Γ.config.authFailRateLimit AUTH_FAIL_WINDOW s.now).1 = false)
    (hhandle : ∃ (u : Gateway) (message : String), s.handle Γ e = u.denyUnauthorized Γ ip message ∧
      u.authFailures = s.authFailures ∧ u.now = s.now ∧ u.net = s.net) : s.Refuses Γ e .authFailures ip := by
  obtain ⟨u, message, he, hbucket, hnow, hnet⟩ := hhandle
  refine ⟨?_, h, ?_⟩
  · unfold touches
    split
    · exact absurd rfl hclean
    · dsimp only
      rw [hdenied]
      rfl
  · rw [he, denyUnauthorized_refused message (by rw [hbucket, hnow]; exact h), hbucket, hnow, hnet]
    rfl

/-- The bucket that refuses a proxied request, with the map that its answer reads the window from. -/
theorem refuseProxyRequest_refused {credentialId ip key : String} {map : RateMap}
    (h : (s.refuseProxyRequest Γ credentialId ip).1 = some (map, key)) :
    (s.checkProxyIp Γ ip).1 = true ∧ key = credentialId ∧
        checkLimit s.proxyRequests credentialId Γ.config.proxyRateLimit PROXY_RATE_WINDOW s.now = (false, map) ∨
      (s.checkProxyIp Γ ip).1 = false ∧ key = ip ∧ Γ.config.proxyIpRateLimit > 0 ∧
        checkLimit s.proxyIpRequests ip Γ.config.proxyIpRateLimit PROXY_RATE_WINDOW s.now = (false, map) := by
  have hip : ((s.checkProxyIp Γ ip).2.proxyRequests = s.proxyRequests ∧ (s.checkProxyIp Γ ip).2.now = s.now) ∧
      ((s.checkProxyIp Γ ip).1 = false → Γ.config.proxyIpRateLimit > 0 ∧
        checkLimit s.proxyIpRequests ip Γ.config.proxyIpRateLimit PROXY_RATE_WINDOW s.now =
          (false, (s.checkProxyIp Γ ip).2.proxyIpRequests)) := by
    unfold checkProxyIp
    split
    · rename_i hlimit
      exact ⟨⟨rfl, rfl⟩, fun hfalse => ⟨hlimit, Prod.ext hfalse rfl⟩⟩
    · exact ⟨⟨rfl, rfl⟩, fun hfalse => (nomatch hfalse)⟩
  obtain ⟨⟨hproxy, hnow⟩, hrefused⟩ := hip
  unfold refuseProxyRequest at h
  dsimp only at h
  rcases hok : (s.checkProxyIp Γ ip).1 with _ | _
  · rw [hok, if_pos (by rfl)] at h
    obtain ⟨hlimit, hchecked⟩ := hrefused hok
    simp only [Option.some.injEq, Prod.mk.injEq] at h
    obtain ⟨rfl, rfl⟩ := h
    exact Or.inr ⟨rfl, rfl, hlimit, hchecked⟩
  · rw [hok, if_neg (by simp), hproxy, hnow] at h
    left
    split at h
    · cases h
    · rename_i hno
      simp only [Option.some.injEq, Prod.mk.injEq] at h
      exact ⟨rfl, h.2.symm, Prod.ext (by simpa using hno) h.1⟩

theorem refuseProxyRequest_kept (credentialId ip : String) (s : Gateway) :
    (s.refuseProxyRequest Γ credentialId ip).2.net = s.net ∧ (s.refuseProxyRequest Γ credentialId ip).2.now = s.now := by
  unfold refuseProxyRequest checkProxyIp
  dsimp only
  repeat' split
  all_goals exact ⟨rfl, rfl⟩

/-- The state with which a route goes on once it has resolved its bearer token. -/
structure Resolving (s u : Gateway) : Prop where
  buckets : s.SameBuckets u
  now : u.now = s.now
  net : u.net = s.net

theorem resolveToken_resolving (token : String) (s : Gateway) : s.Resolving (s.resolveToken Γ token).2 := by
  refine ⟨resolveToken_buckets token s, resolveToken_now token s, ?_⟩
  unfold resolveToken
  split <;> rfl

theorem refuseProxyRequest_congr {u : Gateway} (h : s.SameBuckets u) (hnow : u.now = s.now) (credentialId ip : String) :
    (u.refuseProxyRequest Γ credentialId ip).1 = (s.refuseProxyRequest Γ credentialId ip).1 := by
  have hip : (u.checkProxyIp Γ ip).1 = (s.checkProxyIp Γ ip).1 ∧
      (u.checkProxyIp Γ ip).2.proxyIpRequests = (s.checkProxyIp Γ ip).2.proxyIpRequests ∧
      (u.checkProxyIp Γ ip).2.proxyRequests = (s.checkProxyIp Γ ip).2.proxyRequests ∧
      (u.checkProxyIp Γ ip).2.now = (s.checkProxyIp Γ ip).2.now := by
    unfold checkProxyIp
    rw [h.proxyIpRequests, hnow]
    split
    · exact ⟨rfl, rfl, h.proxyRequests, rfl⟩
    · exact ⟨rfl, h.proxyIpRequests, h.proxyRequests, hnow⟩
  unfold refuseProxyRequest
  dsimp only
  rw [hip.1, hip.2.1, hip.2.2.1, hip.2.2.2]
  split
  · rfl
  · split <;> rfl

theorem refusal_quiet (s : Gateway) (e : Event) : s.quiet.refusal Γ e = s.refusal Γ e := by
  have hip (ip : String) : (s.quiet.checkProxyIp Γ ip).1 = (s.checkProxyIp Γ ip).1 :=
    checkProxyIp_congr (s := s) (t := s.quiet) rfl rfl ip
  have hproxy (credentialId ip : String) :
      (s.quiet.refuseProxyRequest Γ credentialId ip).1 = (s.refuseProxyRequest Γ credentialId ip).1 :=
    refuseProxyRequest_congr (onNet_buckets _ s) rfl _ _
  unfold refusal
  simp only [denied_quiet, proxied_quiet, hip, hproxy]
  rfl

/-- A proxied request that does not authenticate is denied. -/
theorem proxyRoute_denied {authorization : Option String} (request : ProxyRequest) (h : s.bearer Γ authorization = none) :
    ∃ (u : Gateway) (message : String), s.proxyRoute Γ request authorization = u.denyUnauthorized Γ request.ip message ∧
      s.Resolving u := by
  unfold proxyRoute
  unfold bearer at h
  rcases hb : bearerToken authorization with _ | token
  · exact ⟨s, _, rfl, .refl s, rfl, rfl⟩
  · rw [hb, Option.bind_some] at h
    have hresolved := resolveToken_resolving (Γ := Γ) token s
    dsimp only
    generalize s.resolveToken Γ token = resolved at h hresolved
    obtain ⟨credential, u⟩ := resolved
    dsimp only at h hresolved
    subst h
    exact ⟨u, _, rfl, hresolved⟩

/-- A proxied request that a bucket refuses is answered with the bucket's window. -/
theorem proxyRoute_limited {authorization : Option String} {request : ProxyRequest} {credential : CredentialRecord}
    {map : RateMap} {key : String} (h : s.bearer Γ authorization = some credential)
    (hrefused : (s.refuseProxyRequest Γ credential.id request.ip).1 = some (map, key)) :
    (s.proxyRoute Γ request authorization).net.outbox = s.net.outbox ++
      [tooMany (retryAfter map key PROXY_RATE_WINDOW s.now)] := by
  unfold proxyRoute
  unfold bearer at h
  rcases hb : bearerToken authorization with _ | token
  · rw [hb] at h
    cases h
  · rw [hb, Option.bind_some] at h
    have hresolved := resolveToken_resolving (Γ := Γ) token s
    dsimp only
    generalize s.resolveToken Γ token = resolved at h hresolved
    obtain ⟨found, u⟩ := resolved
    dsimp only at h hresolved
    subst h
    have hkept := refuseProxyRequest_kept (Γ := Γ) credential.id request.ip u
    rw [← refuseProxyRequest_congr hresolved.buckets hresolved.now] at hrefused
    dsimp only
    generalize u.refuseProxyRequest Γ credential.id request.ip = answer at hrefused hkept
    obtain ⟨refused, v⟩ := answer
    dsimp only at hrefused hkept
    subst hrefused
    obtain ⟨hnet, hnow⟩ := hkept
    rw [hresolved.net] at hnet
    rw [hresolved.now] at hnow
    change v.net.outbox ++ [tooMany (retryAfter map key PROXY_RATE_WINDOW v.now)] = _
    rw [hnet, hnow]

theorem proxyRoute_refuses {request : ProxyRequest} {authorization : Option String} {b : Bucket} {key : String}
    (h : s.refusal Γ (.proxy request authorization) = some (b, key)) : s.Refuses Γ (.proxy request authorization) b key := by
  have hhandle : s.handle Γ (.proxy request authorization) = s.proxyRoute Γ request authorization := rfl
  unfold refusal at h
  dsimp only at h
  rcases hbearer : s.bearer Γ authorization with _ | credential
  · have hdenied : s.denied Γ (.proxy request authorization) = some request.ip := by simp [denied, hbearer]
    rw [hdenied] at h
    dsimp only at h
    split at h
    · cases h
    · rename_i hrefused
      simp only [Option.some.injEq, Prod.mk.injEq] at h
      obtain ⟨rfl, rfl⟩ := h
      obtain ⟨u, message, he, hresolved⟩ := proxyRoute_denied request hbearer
      exact refuses_denied hdenied (by simp) (by simpa using hrefused)
        ⟨u, message, he, hresolved.buckets.authFailures, hresolved.now, hresolved.net⟩
  · have hdenied : s.denied Γ (.proxy request authorization) = none := by simp [denied, hbearer]
    have hproxied : s.proxied Γ (.proxy request authorization) = some (credential.id, request.ip) := by
      simp [proxied, hbearer]
    rw [hdenied, hproxied] at h
    dsimp only at h
    obtain ⟨⟨map, key'⟩, hrefused, hb⟩ := Option.map_eq_some_iff.mp h
    have hanswer := proxyRoute_limited hbearer hrefused
    rcases refuseProxyRequest_refused hrefused with ⟨hip, rfl, hcheck⟩ | ⟨hip, rfl, hlimit, hcheck⟩
    · rw [hip, if_pos rfl] at hb
      cases hb
      refine ⟨?_, ?_, ?_⟩
      · unfold touches
        dsimp only
        rw [hproxied, Option.filter_some, hip]
        rfl
      · exact congrArg Prod.fst hcheck
      · rw [hhandle, hanswer]
        change _ = _ ++ [tooMany (retryAfter (checkLimit s.proxyRequests credential.id Γ.config.proxyRateLimit
          PROXY_RATE_WINDOW s.now).2 _ _ _)]
        rw [hcheck]
    · rw [hip, if_neg Bool.false_ne_true] at hb
      cases hb
      refine ⟨?_, ?_, ?_⟩
      · unfold touches
        dsimp only
        rw [hproxied, Option.filter_some, if_pos (by simpa using hlimit)]
        rfl
      · exact congrArg Prod.fst hcheck
      · rw [hhandle, hanswer]
        change _ = _ ++ [tooMany (retryAfter (checkLimit s.proxyIpRequests request.ip Γ.config.proxyIpRateLimit
          PROXY_RATE_WINDOW s.now).2 _ _ _)]
        rw [hcheck]

/-- A request that fails to authenticate, where nothing is proxied, and is refused. -/
theorem refusal_denied {e : Event} {b : Bucket} {key : String} (h : s.refusal Γ e = some (b, key))
    (hproxied : s.proxied Γ e = none) : b = .authFailures ∧ s.denied Γ e = some key ∧
      (checkLimit s.authFailures key Γ.config.authFailRateLimit AUTH_FAIL_WINDOW s.now).1 = false := by
  unfold refusal at h
  split at h
  · cases h
  · rw [hproxied] at h
    rcases hdenied : s.denied Γ e with _ | ip
    · rw [hdenied] at h
      cases h
    · rw [hdenied] at h
      dsimp only at h
      split at h
      · cases h
      · rename_i hrefused
        simp only [Option.some.injEq, Prod.mk.injEq] at h
        obtain ⟨rfl, rfl⟩ := h
        exact ⟨rfl, rfl, by simpa using hrefused⟩

theorem refusal_refuses {e : Event} {b : Bucket} {key : String} (h : s.refusal Γ e = some (b, key)) : s.Refuses Γ e b key := by
  cases e with
  | proxy request authorization => exact proxyRoute_refuses h
  | syncRegistry ip authorization =>
    obtain ⟨rfl, hdenied, hrefused⟩ := refusal_denied h rfl
    refine refuses_denied hdenied (by simp) hrefused ?_
    unfold denied at hdenied
    dsimp only at hdenied
    split at hdenied
    · rename_i hnone
      obtain rfl := Option.some.inj hdenied
      change ∃ (u : Gateway) (message : String), s.syncRegistryRoute Γ ip authorization = _ ∧ _
      unfold recovered at hnone
      unfold syncRegistryRoute
      rcases hb : bearerToken authorization with _ | token
      · exact ⟨s, _, rfl, rfl, rfl, rfl⟩
      · rw [hb, Option.bind_some, Option.isNone_iff_eq_none] at hnone
        dsimp only
        rw [hnone]
        exact ⟨s, _, rfl, rfl, rfl, rfl⟩
    · cases hdenied
  | discovery ip authorization =>
    obtain ⟨rfl, hdenied, hrefused⟩ := refusal_denied h rfl
    refine refuses_denied hdenied (by simp) hrefused ?_
    unfold denied at hdenied
    dsimp only at hdenied
    split at hdenied
    · rename_i hnone
      obtain rfl := Option.some.inj hdenied
      change ∃ (u : Gateway) (message : String), s.discoveryRoute Γ ip authorization = _ ∧ _
      unfold bearer at hnone
      unfold discoveryRoute
      rcases hb : bearerToken authorization with _ | token
      · exact ⟨s, _, rfl, rfl, rfl, rfl⟩
      · rw [hb, Option.bind_some, Option.isNone_iff_eq_none] at hnone
        have hresolved := resolveToken_resolving (Γ := Γ) token s
        dsimp only
        generalize s.resolveToken Γ token = resolved at hnone hresolved
        obtain ⟨found, u⟩ := resolved
        dsimp only at hnone hresolved
        subst hnone
        exact ⟨u, _, rfl, hresolved.buckets.authFailures, hresolved.now, hresolved.net⟩
    · cases hdenied
  | adminLogin ip expiresAt =>
    obtain ⟨rfl, hdenied, hrefused⟩ := refusal_denied h rfl
    refine refuses_denied hdenied (by simp) hrefused ?_
    cases expiresAt with
    | none =>
      obtain rfl := Option.some.inj hdenied
      exact ⟨s, _, rfl, rfl, rfl, rfl⟩
    | some expiresAt => cases hdenied
  | backendToken ip authorization =>
    obtain ⟨rfl, hdenied, hrefused⟩ := refusal_denied h rfl
    refine refuses_denied hdenied (by simp) hrefused ?_
    unfold denied at hdenied
    dsimp only at hdenied
    split at hdenied
    · rename_i hnone
      obtain rfl := Option.some.inj hdenied
      change ∃ (u : Gateway) (message : String), s.backendTokenRoute Γ ip authorization = _ ∧ _
      unfold bearer at hnone
      unfold backendTokenRoute
      rcases hb : bearerToken authorization with _ | token
      · exact ⟨s, _, rfl, rfl, rfl, rfl⟩
      · rw [hb, Option.bind_some, Option.isNone_iff_eq_none] at hnone
        have hresolved := resolveToken_resolving (Γ := Γ) token s
        dsimp only
        generalize s.resolveToken Γ token = resolved at hnone hresolved
        obtain ⟨found, u⟩ := resolved
        dsimp only at hnone hresolved
        subst hnone
        exact ⟨u, _, rfl, hresolved.buckets.authFailures, hresolved.now, hresolved.net⟩
    · cases hdenied
  | admin ip auth request =>
    obtain ⟨rfl, hdenied, hrefused⟩ := refusal_denied h rfl
    refine refuses_denied hdenied (by simp) hrefused ?_
    cases auth with
    | denied =>
      obtain rfl := Option.some.inj hdenied
      exact ⟨s, _, rfl, rfl, rfl, rfl⟩
    | granted => cases hdenied
    | foreignOrigin => cases hdenied
  | _ => cases h

end Gateway

/-- Nothing that a run goes on with is an attempt under the key. -/
def Waits (Γ : Ctx) (storage : Storage) (b : Bucket) (key : String) (es es' : List Event) : Prop :=
  ∀ earlier e later, es' = earlier ++ e :: later →
    ∀ c ∈ ((gateway Γ storage).run (es ++ earlier)).counts Γ b e, c.2 ≠ .attempt key

/-- The bucket lets the key's next request in. -/
def Gateway.admits (Γ : Ctx) (s : Gateway) (b : Bucket) (key : String) (now : Nat) : Bool :=
  (checkLimit (s.bucket b) key (b.limit Γ) PROXY_RATE_WINDOW now).1

section RetryAfter

variable {Γ : Ctx} {storage : Storage} {b : Bucket} {key : String}

/-- While a client waits, only other keys and sweeps happen to its bucket. -/
theorem bucket_waits {es es' : List Event} (h : Waits Γ storage b key es es') :
    ∃ others : List (Nat × BucketEvent), (∀ c ∈ others, c.2 ≠ .attempt key) ∧
      ((gateway Γ storage).run (es ++ es')).bucket b =
        others.foldl (bucketStep (b.limit Γ) PROXY_RATE_WINDOW) (((gateway Γ storage).run es).bucket b) := by
  induction es' using List.reverseRecOn with
  | nil => exact ⟨[], fun _ hc => (nomatch hc), by rw [List.append_nil]; rfl⟩
  | append_singleton es' e ih =>
    obtain ⟨others, hothers, hbucket⟩ := ih fun earlier e' later he =>
      h earlier e' (later ++ [e]) (by rw [he, List.append_assoc, List.cons_append])
    refine ⟨others ++ ((gateway Γ storage).run (es ++ es')).counts Γ b e, fun c hc => ?_, ?_⟩
    · rcases List.mem_append.mp hc with hc | hc
      · exact hothers c hc
      · exact h es' e [] rfl c hc
    · rw [← List.append_assoc, EventMachine.run_snoc, List.foldl_append, ← hbucket]
      exact Gateway.step_bucket _ e b

/-- A refused request is answered with the seconds to wait. A client that waits that long is let in by the bucket, whatever
else happens in the meantime, exactly if what was left of the window at the refusal was not a number of whole seconds: the
window ends with a millisecond that still belongs to it, and the seconds are rounded up only if they are not whole. -/
theorem retry_after_honest_iff {es : List Event} {e : Event} (hup : ((gateway Γ storage).run es).uncaught = none)
    (hrefused : ((gateway Γ storage).run es).refusal Γ e = some (b, key)) :
    ∃ seconds, ((gateway Γ storage).run (es ++ [e])).net.outbox = [tooMany seconds] ∧
      ((∀ es', Waits Γ storage b key (es ++ [e]) es' → ∀ later, ((gateway Γ storage).run es).now + 1000 * seconds ≤ later →
        ((gateway Γ storage).run (es ++ [e] ++ es')).admits Γ b key later = true) ↔
      (timeLeft ((gateway Γ storage).run es).now (((gateway Γ storage).run es).bucket b) key = 0 ∨
        timeLeft ((gateway Γ storage).run es).now (((gateway Γ storage).run es).bucket b) key % 1000 ≠ 0)) := by
  rw [← Gateway.refusal_quiet] at hrefused
  have hrefuses := Gateway.refusal_refuses hrefused
  have hafter : ((gateway Γ storage).run (es ++ [e])).bucket b = (checkLimit (((gateway Γ storage).run es).bucket b) key
      (b.limit Γ) PROXY_RATE_WINDOW ((gateway Γ storage).run es).now).2 := by
    have hcounts : ((gateway Γ storage).run es).counts Γ b e = [(((gateway Γ storage).run es).now, .attempt key)] := by
      unfold Gateway.counts
      rw [hup, if_neg (by simp), ← Gateway.touches_quiet, hrefuses.counted]
      rfl
    rw [EventMachine.run_snoc]
    exact (Gateway.step_bucket _ e b).trans (by rw [hcounts]; rfl)
  have hanswer : ((gateway Γ storage).run (es ++ [e])).net.outbox = (((gateway Γ storage).run es).quiet.handle Γ e).net.outbox := by
    rw [EventMachine.run_snoc]
    change (((gateway Γ storage).run es).step Γ e).net.outbox = _
    unfold Gateway.step
    rw [hup, if_neg (by simp)]
  refine ⟨_, hanswer.trans hrefuses.answered, fun hadmitted => ?_, fun hfraction es' hwaits later hlater => ?_⟩
  · by_contra hwhole
    rw [not_or, not_ne_iff] at hwhole
    have hadmits := hadmitted [] (fun earlier e' later he => by simp at he) _ (le_refl _)
    rw [List.append_nil] at hadmits
    unfold Gateway.admits at hadmits
    rw [hafter] at hadmits
    exact absurd hadmits (by rw [Bool.not_eq_true]; exact obedient_refused hrefuses.refused hwhole.1 hwhole.2)
  · obtain ⟨others, hothers, hbucket⟩ := bucket_waits hwaits
    unfold Gateway.admits
    rw [hbucket, hafter]
    exact obedient_admitted hrefuses.refused hfraction hothers hlater

end RetryAfter

theorem waits_clock (Γ : Ctx) (storage : Storage) (b : Bucket) (key : String) (es : List Event) (now : Nat) :
    Waits Γ storage b key es [.clock now] := by
  intro earlier e later he c hc
  rcases earlier with _ | ⟨e', earlier⟩
  · obtain ⟨rfl, -⟩ := List.cons_eq_cons.mp he
    unfold Gateway.counts at hc
    cases b <;> simp [Gateway.touches, Gateway.denied, Gateway.proxied] at hc
  · simp at he

theorem retry_after_honest_iff_sample :
    ∃ seconds, ((gateway sampleLimited sampleStorage).run
      ([.syncRegistry "ip" none, .clock 500] ++ [.syncRegistry "ip" none])).net.outbox = [tooMany seconds] ∧
      ((gateway sampleLimited sampleStorage).run
        ([.syncRegistry "ip" none, .clock 500] ++ [.syncRegistry "ip" none] ++ [.clock (500 + 1000 * seconds)])).admits
          sampleLimited .authFailures "ip" (500 + 1000 * seconds) = true := by
  have hrefused : ((gateway sampleLimited sampleStorage).run [.syncRegistry "ip" none, .clock 500]).refusal sampleLimited
      (.syncRegistry "ip" none) = some (.authFailures, "ip") := by
    decide +kernel
  obtain ⟨seconds, hanswer, hhonest⟩ := retry_after_honest_iff (by decide +kernel) hrefused
  exact ⟨seconds, hanswer, hhonest.mpr (Or.inr (by decide +kernel)) _ (waits_clock _ _ _ _ _ _) _ (le_refl _)⟩

set_option maxRecDepth 20000 in
/-- Two failed authentications in one millisecond: the client is told to wait 60 seconds, waits them and is refused again. -/
theorem retry_after_not_honest : ¬ ∀ (Γ : Ctx) (storage : Storage) (b : Bucket) (key : String) (es : List Event) (e : Event)
    (seconds : Nat), 1 ≤ b.limit Γ → ((gateway Γ storage).run es).refusal Γ e = some (b, key) →
      ((gateway Γ storage).run (es ++ [e])).net.outbox = [tooMany seconds] →
      ∀ es', Waits Γ storage b key (es ++ [e]) es' →
        ((gateway Γ storage).run es).now + 1000 * seconds ≤ ((gateway Γ storage).run (es ++ [e] ++ es')).now →
        ∀ e', ((gateway Γ storage).run (es ++ [e] ++ es')).refusal Γ e' ≠ some (b, key) := by
  intro h
  exact h sampleLimited sampleStorage .authFailures "ip" [.syncRegistry "ip" none] (.syncRegistry "ip" none) 60
    (le_refl 1) (by decide +kernel) rfl [.clock 60000] (waits_clock _ _ _ _ _ _) (by decide +kernel) (.syncRegistry "ip" none)
    (by decide +kernel)

end ZclaudiaGateway
