import ZclaudiaGateway.Lemmas.RateLimits
import ZclaudiaGateway.Lemmas.RelayRun
import ZclaudiaGateway.Lemmas.Store

/-!
# The gateway's buckets

The gateway counts in three buckets: attempts that failed to authenticate, proxied requests by credential and, if there is a
ceiling, by IP. Over every run each of them is what a bucket makes of the attempts that the events of the run count in it.
-/

namespace ZclaudiaGateway

/-- The buckets of the gateway. -/
inductive Bucket where
  | authFailures
  | proxyRequests
  | proxyIpRequests
deriving DecidableEq

/-- The limit of a bucket. -/
def Bucket.limit (Γ : Ctx) : Bucket → Nat
  | authFailures => Γ.config.authFailRateLimit
  | proxyRequests => Γ.config.proxyRateLimit
  | proxyIpRequests => Γ.config.proxyIpRateLimit

namespace Gateway

variable {Γ : Ctx}

def bucket (s : Gateway) : Bucket → RateMap
  | .authFailures => s.authFailures
  | .proxyRequests => s.proxyRequests
  | .proxyIpRequests => s.proxyIpRequests

/-- The credential of a bearer token. -/
def bearer (Γ : Ctx) (s : Gateway) (authorization : Option String) : Option CredentialRecord :=
  (bearerToken authorization).bind (fun token => (s.resolveToken Γ token).1)

/-- The session of a recovery token. -/
def recovered (s : Gateway) (authorization : Option String) : Option PeerSession :=
  (bearerToken authorization).bind (fun token =>
    (s.recoveryTokens.get token).bind (fun peerSessionId => s.state.peers.get peerSessionId))

/-- The IP that an event counts a failed authentication against. -/
def denied (Γ : Ctx) (s : Gateway) (e : Event) : Option String :=
  match e with
  | .message _ _ _ _ =>
    match s.helloOf Γ e with
    | some (_, conn, hello) => if (s.resolveToken Γ hello.gatewaySecret).1.isNone then some conn.ip else none
    | none => none
  | .proxy request authorization => if (s.bearer Γ authorization).isNone then some request.ip else none
  | .syncRegistry ip authorization => if (s.recovered authorization).isNone then some ip else none
  | .discovery ip authorization | .backendToken ip authorization =>
    if (s.bearer Γ authorization).isNone then some ip else none
  | .admin ip .denied _ => some ip
  | .adminLogin ip none => some ip
  | _ => none

/-- The credential and the IP of a proxied request that is authenticated. -/
def proxied (Γ : Ctx) (s : Gateway) (e : Event) : Option (String × String) :=
  match e with
  | .proxy request authorization => (s.bearer Γ authorization).map (fun credential => (credential.id, request.ip))
  | _ => none

/-- What an event does to a bucket. -/
def touches (Γ : Ctx) (s : Gateway) (e : Event) (b : Bucket) : List BucketEvent :=
  match e with
  | .rateLimitCleanup => [.cleanup]
  | _ =>
    match b with
    | .authFailures => (s.denied Γ e).toList.map .attempt
    | .proxyRequests => ((s.proxied Γ e).filter (fun p => (s.checkProxyIp Γ p.2).1)).toList.map (fun p => .attempt p.1)
    | .proxyIpRequests =>
      ((s.proxied Γ e).filter (fun _ => Γ.config.proxyIpRateLimit > 0)).toList.map (fun p => .attempt p.2)

/-! ## Handlers that leave the buckets alone -/

/-- The three buckets are the same. -/
structure SameBuckets (s t : Gateway) : Prop where
  authFailures : t.authFailures = s.authFailures
  proxyRequests : t.proxyRequests = s.proxyRequests
  proxyIpRequests : t.proxyIpRequests = s.proxyIpRequests

theorem SameBuckets.refl (s : Gateway) : s.SameBuckets s := ⟨rfl, rfl, rfl⟩

theorem SameBuckets.trans {s t u : Gateway} (h : s.SameBuckets t) (h' : t.SameBuckets u) : s.SameBuckets u :=
  ⟨h'.1.trans h.1, h'.2.trans h.2, h'.3.trans h.3⟩

theorem SameBuckets.bucket {s t : Gateway} (h : s.SameBuckets t) (b : Bucket) : t.bucket b = s.bucket b := by
  cases b
  · exact h.authFailures
  · exact h.proxyRequests
  · exact h.proxyIpRequests

theorem onNet_buckets (f : Net → Net) (s : Gateway) : s.SameBuckets (s.onNet f) := ⟨rfl, rfl, rfl⟩

theorem teardownChannel_buckets (reason : ChannelClosedReason) (s : Gateway) (channelId : String) :
    s.SameBuckets (s.teardownChannel reason channelId) := by
  unfold teardownChannel
  split <;> exact ⟨rfl, rfl, rfl⟩

theorem teardowns_buckets (reason : ChannelClosedReason) (ids : List String) (s : Gateway) :
    s.SameBuckets (ids.foldl (teardownChannel reason) s) := by
  induction ids generalizing s with
  | nil => exact .refl s
  | cons id ids ih => exact (teardownChannel_buckets reason s id).trans (ih _)

theorem teardownWhere_buckets (test : ChannelRecord → Bool) (reason : ChannelClosedReason) (s : Gateway) :
    s.SameBuckets (s.teardownWhere test reason) := teardowns_buckets _ _ _

theorem callResponse_buckets (ex : ExchangeId) (s : Gateway) (c : ResponseCall) : s.SameBuckets (s.callResponse ex c) := by
  unfold callResponse
  dsimp only
  repeat' split
  all_goals exact ⟨rfl, rfl, rfl⟩

theorem calls_buckets (ex : ExchangeId) (cs : List ResponseCall) (s : Gateway) :
    s.SameBuckets (cs.foldl (callResponse ex) s) := by
  induction cs generalizing s with
  | nil => exact .refl s
  | cons c cs ih => exact (callResponse_buckets ex s c).trans (ih _)

theorem routeMessage_buckets (peer : PeerSession) (message : GatewayMessage) (s : Gateway) :
    s.SameBuckets (s.routeMessage Γ peer message) := by
  cases message with
  | backendHeartbeat epoch =>
    change s.SameBuckets (s.handleBackendHeartbeat peer epoch)
    unfold handleBackendHeartbeat
    repeat' split
    all_goals exact ⟨rfl, rfl, rfl⟩
  | requestRegistrySnapshot => exact ⟨rfl, rfl, rfl⟩
  | backendServerMessage backendId target raw =>
    change s.SameBuckets (s.handleBackendServerMessage peer backendId target raw)
    unfold handleBackendServerMessage
    repeat' split
    all_goals exact ⟨rfl, rfl, rfl⟩
  | pushNotificationRequest event =>
    change s.SameBuckets (s.handlePushNotificationRequest Γ peer event)
    unfold handlePushNotificationRequest
    repeat' split
    all_goals exact ⟨rfl, rfl, rfl⟩
  | ping ts => exact ⟨rfl, rfl, rfl⟩
  | channelOpen target kind =>
    change s.SameBuckets (s.handleChannelOpen Γ peer target kind)
    unfold handleChannelOpen
    dsimp only
    repeat' split
    all_goals exact ⟨rfl, rfl, rfl⟩
  | channelReject channelId =>
    change s.SameBuckets (s.handleChannelReject peer channelId)
    unfold handleChannelReject
    split
    · exact .refl s
    · split
      · exact teardownChannel_buckets _ _ _
      · exact .refl s
  | channelClose channelId =>
    change s.SameBuckets (s.handleChannelClose peer channelId)
    unfold handleChannelClose
    split
    · exact .refl s
    · split
      · exact teardownChannel_buckets _ _ _
      · exact .refl s
  | topicSubscribe backendId topic =>
    change s.SameBuckets (s.handleTopicSubscribe peer backendId topic)
    unfold handleTopicSubscribe
    dsimp only
    repeat' split
    all_goals exact ⟨rfl, rfl, rfl⟩
  | topicUnsubscribe backendId topic => exact ⟨rfl, rfl, rfl⟩
  | topicPublish topic payload retained =>
    change s.SameBuckets (s.handleTopicPublish peer topic payload retained)
    unfold handleTopicPublish
    dsimp only
    repeat' split
    all_goals exact ⟨rfl, rfl, rfl⟩
  | unknown type => exact ⟨rfl, rfl, rfl⟩

theorem responseHead_buckets (ex : ExchangeId) (request : ProxyRequest) (meta_ : JsonValue) (s : Gateway) :
    s.SameBuckets (s.responseHead ex request meta_) := by
  unfold responseHead
  dsimp only
  split
  · exact ⟨rfl, rfl, rfl⟩
  · have hcalls := calls_buckets ex (headCalls request.headers meta_)
      (s.onNet (Net.modifyExchange ex (fun x => { x with metaReceived := true })))
    split
    · exact (onNet_buckets _ s).trans hcalls
    · exact ((onNet_buckets _ s).trans hcalls).trans (onNet_buckets _ _)

theorem bridgeMessage_buckets (ws : SocketId) (channelId : String) (ex : ExchangeId) (frame : Frame) (writable : Bool)
    (s : Gateway) : s.SameBuckets (s.bridgeMessage Γ ws channelId ex frame writable) := by
  unfold bridgeMessage
  split
  · exact .refl s
  · dsimp only
    split
    · split
      · exact (onNet_buckets _ s).trans (teardownChannel_buckets _ _ _)
      · split
        · exact (onNet_buckets _ s).trans (teardownChannel_buckets _ _ _)
        · exact (onNet_buckets _ s).trans (responseHead_buckets _ _ _ _)
    · split
      · split
        · exact (onNet_buckets _ s).trans (callResponse_buckets _ _ _)
        · exact ((onNet_buckets _ s).trans (callResponse_buckets _ _ _)).trans (onNet_buckets _ _)
      · exact .refl s

theorem controlMessage_buckets {ws : SocketId} {k : WsSocket} {conn : ControlConn} {frame : Frame} {buffered : Nat}
    {writable : Bool} {s : Gateway} (hno : s.helloOf Γ (.message ws frame buffered writable) = none)
    (hk : s.net.sockets.get ws = some k) (hl : k.listener = .control conn) (hr : k.reads = true) :
    s.SameBuckets (s.controlMessage Γ ws conn frame.data) := by
  unfold controlMessage
  split
  · exact ⟨rfl, rfl, rfl⟩
  · exact ⟨rfl, rfl, rfl⟩
  · rename_i hparse hn
    obtain ⟨error, he⟩ := handleFirstMessage_refused hno hk hl hr hn hparse
    rw [he]
    exact ⟨rfl, rfl, rfl⟩
  · split
    · rename_i h
      unfold handlePeerMessage at h
      split at h
      · cases h
        exact .refl s
      · split at h
        · split at h
          · cases h
            exact ⟨rfl, rfl, rfl⟩
          · cases h
        · split at h
          · cases h
          · cases h
            exact routeMessage_buckets _ _ s
    · exact ⟨rfl, rfl, rfl⟩

theorem socketMessage_buckets {ws : SocketId} {frame : Frame} {buffered : Nat} {writable : Bool} {s : Gateway}
    (hno : s.helloOf Γ (.message ws frame buffered writable) = none) :
    s.SameBuckets (s.socketMessage Γ ws frame buffered writable) := by
  unfold socketMessage
  split
  · exact .refl s
  · rename_i k hk
    split
    · rename_i hr
      split
      · exact .refl s
      · rename_i conn hl
        exact controlMessage_buckets hno hk hl hr
      · unfold relayMessage
        dsimp only
        split <;> exact ⟨rfl, rfl, rfl⟩
      · exact bridgeMessage_buckets _ _ _ _ _ s
    · exact .refl s

theorem pairLegs_buckets (channelId : String) (ch : ChannelRecord) (s : Gateway) :
    s.SameBuckets (s.pairLegs channelId ch) := by
  have hchannel (f : ChannelRecord → ChannelRecord) (u : Gateway) : u.SameBuckets (u.onChannel channelId f) :=
    ⟨rfl, rfl, rfl⟩
  unfold pairLegs wireChannel
  split
  · exact ((hchannel _ s).trans (onNet_buckets _ _)).trans (onNet_buckets _ _)
  · have hwired := (hchannel (fun ch => { ch with pairingTimeout := false }) s).trans (hchannel (fun ch => { ch with piped := true }) _)
    exact (((hwired.trans (onNet_buckets _ _)).trans (onNet_buckets _ _)).trans (onNet_buckets _ _)).trans (onNet_buckets _ _)
  · exact .refl s

theorem upgrade_buckets (ip target : String) (handshakeOk : Bool) (s : Gateway) :
    s.SameBuckets (s.upgrade Γ ip target handshakeOk) := by
  unfold upgrade
  split
  · exact ⟨rfl, rfl, rfl⟩
  · split
    · split
      · unfold controlConnection
        dsimp only
        split <;> exact ⟨rfl, rfl, rfl⟩
      · exact ⟨rfl, rfl, rfl⟩
    · split
      · rename_i url _ _ _
        rcases handleChannelUpgrade_cases s (url.pathname.drop "/channel/".length).toString url.ticket handshakeOk with
          he | ⟨found, ch, -, -, -, -, he⟩
        · rw [he]
          exact ⟨rfl, rfl, rfl⟩
        · rw [he]
          unfold attachLeg
          dsimp only
          split
          · exact ⟨rfl, rfl, rfl⟩
          · refine SameBuckets.trans ?_ (pairLegs_buckets _ _ _)
            exact ⟨rfl, rfl, rfl⟩
      · exact ⟨rfl, rfl, rfl⟩

/-! ### Losing a backend or a peer -/

theorem handlePeerDisconnect_buckets (peerSessionId : String) (s : Gateway) :
    s.SameBuckets (s.handlePeerDisconnect peerSessionId) := by
  have howner (peer : PeerSession) (backendId : String) : s.SameBuckets (s.disconnectOwner peer backendId) := by
    unfold disconnectOwner
    split
    · exact (teardownWhere_buckets _ _ s).trans ⟨rfl, rfl, rfl⟩
    · exact .refl s
  have hclosed (u : Gateway) : u.SameBuckets ((u.closeChannelsForPeer peerSessionId).removeTopicSubscriptionsForPeer
      peerSessionId) := by
    have h : u.SameBuckets (u.closeChannelsForPeer peerSessionId) := teardownWhere_buckets _ _ u
    exact ⟨h.1, h.2, h.3⟩
  unfold handlePeerDisconnect
  split
  · exact .refl s
  · rename_i peer _
    dsimp only
    rcases peer.backendId with _ | backendId
    · exact (hclosed s).trans ⟨rfl, rfl, rfl⟩
    · have hgone (u : Gateway) : u.SameBuckets (((u.removeTopicsForBackend backendId).onNet (.terminate peer.ws)
          |>.unregisterRecoveryToken peer).onState (.removePeer peerSessionId)) := ⟨rfl, rfl, rfl⟩
      exact ((howner peer backendId).trans (hclosed _)).trans (hgone _)

theorem controlClose_buckets (ws : SocketId) (conn : ControlConn) (s : Gateway) :
    s.SameBuckets (s.controlClose ws conn) := by
  unfold controlClose
  dsimp only
  split
  · refine SameBuckets.trans ?_ (handlePeerDisconnect_buckets _ _)
    exact ⟨rfl, rfl, rfl⟩
  · exact ⟨rfl, rfl, rfl⟩

theorem bridgeClose_buckets (channelId : String) (ex : ExchangeId) (s : Gateway) :
    s.SameBuckets (s.bridgeClose channelId ex) := by
  have hfinished (x : HttpExchange) : s.SameBuckets (s.finishResponse channelId ex x) := by
    unfold finishResponse
    dsimp only
    repeat' split
    all_goals exact ⟨rfl, rfl, rfl⟩
  unfold Gateway.bridgeClose
  split
  · exact .refl s
  · exact (hfinished _).trans (teardownChannel_buckets _ _ _)

theorem checkLease_buckets (backendId : String) (s : Gateway) : s.SameBuckets (s.checkLease backendId) := by
  have hclosed := teardownWhere_buckets (fun ch => ch.backendId = backendId) .backendOffline s
  unfold checkLease
  split
  · exact .refl s
  · split
    · unfold handleBackendLeaseExpired
      split
      · exact .refl s
      · dsimp only
        split
        · exact hclosed.trans ⟨rfl, rfl, rfl⟩
        · exact hclosed.trans ⟨rfl, rfl, rfl⟩
    · exact .refl s

theorem pingPeer_buckets (peerSessionId : String) (s : Gateway) : s.SameBuckets (s.pingPeer peerSessionId) := by
  unfold pingPeer
  split
  · exact .refl s
  · split
    · exact handlePeerDisconnect_buckets _ s
    · exact ⟨rfl, rfl, rfl⟩

theorem foldl_buckets {α : Type} {f : Gateway → α → Gateway} (hf : ∀ (s : Gateway) a, s.SameBuckets (f s a)) (l : List α)
    (s : Gateway) : s.SameBuckets (l.foldl f s) := by
  induction l generalizing s with
  | nil => exact .refl s
  | cons a l ih => exact (hf s a).trans (ih _)

/-! ### A new session -/

theorem openSession_buckets (ws : SocketId) (credential : CredentialRecord) (hello : PeerHello) (s : Gateway) :
    s.SameBuckets (s.openSession Γ ws credential hello) := by
  have hreplaced (backendId p : String) (epoch : Nat) (u : Gateway) : u.SameBuckets (u.replaceOwner backendId p epoch) := by
    unfold replaceOwner
    split
    · exact .refl u
    · split
      · unfold handleBackendOwnerReplaced
        have hclosed := teardownWhere_buckets (fun ch => ch.backendId = backendId) .epochChanged u
        dsimp only
        split
        · exact hclosed.trans ⟨rfl, rfl, rfl⟩
        · exact hclosed.trans ⟨rfl, rfl, rfl⟩
      · exact .refl u
  have hadded (peer : PeerSession) (grant : Option BackendGrant) (u : Gateway) : u.SameBuckets (u.addSession peer grant) := by
    unfold addSession
    dsimp only
    split <;> exact ⟨rfl, rfl, rfl⟩
  unfold openSession
  split
  · dsimp only
    refine SameBuckets.trans ?_ (hadded _ _ _)
    refine SameBuckets.trans ?_ ((hreplaced _ _ _ _).trans ⟨rfl, rfl, rfl⟩)
    exact ⟨rfl, rfl, rfl⟩
  · exact hadded _ _ s

/-! ### Requests -/

theorem resolveToken_buckets (token : String) (s : Gateway) : s.SameBuckets (s.resolveToken Γ token).2 := by
  unfold resolveToken
  split <;> exact ⟨rfl, rfl, rfl⟩

theorem resolveToken_now (token : String) (s : Gateway) : (s.resolveToken Γ token).2.now = s.now := by
  unfold resolveToken
  split <;> rfl

theorem proxyViaChannel_buckets (request : ProxyRequest) (epoch : Nat) (peer : PeerSession) (s : Gateway) :
    s.SameBuckets (s.proxyViaChannel Γ request epoch peer) := by
  unfold proxyViaChannel
  split <;> exact ⟨rfl, rfl, rfl⟩

theorem adminRoute_buckets (ip : String) {auth : AdminAuth} (hauth : auth ≠ .denied) (request : AdminRequest) (s : Gateway) :
    s.SameBuckets (s.adminRoute Γ ip auth request) := by
  unfold adminRoute
  split
  · exact absurd rfl hauth
  · exact ⟨rfl, rfl, rfl⟩
  · split
    · exact ⟨rfl, rfl, rfl⟩
    · exact ⟨rfl, rfl, rfl⟩
    · exact ⟨rfl, rfl, rfl⟩
    · unfold issueCredentialRoute
      split <;> exact ⟨rfl, rfl, rfl⟩
    · unfold deleteBackendRoute
      repeat' split
      all_goals exact ⟨rfl, rfl, rfl⟩
    · unfold bindCredentialRoute
      repeat' split
      all_goals exact ⟨rfl, rfl, rfl⟩
    · unfold changeScopeRoute
      repeat' split
      all_goals exact ⟨rfl, rfl, rfl⟩
    · unfold revokeCredentialRoute
      dsimp only
      split <;> exact ⟨rfl, rfl, rfl⟩
    · unfold revokeCredentialsRoute
      repeat' split
      all_goals exact ⟨rfl, rfl, rfl⟩
    · unfold purgeCredentialsRoute
      repeat' split
      all_goals exact ⟨rfl, rfl, rfl⟩

/-! ## What an event does to a bucket -/

/-- A bucket of the gateway after some events at one time. -/
def bucketSteps (Γ : Ctx) (b : Bucket) (now : Nat) (map : RateMap) (es : List BucketEvent) : RateMap :=
  (es.map (fun e => (now, e))).foldl (bucketStep (b.limit Γ) PROXY_RATE_WINDOW) map

theorem recordAuthFailure_bucket (ip : String) (s : Gateway) (b : Bucket) :
    (s.recordAuthFailure Γ ip).2.bucket b =
      bucketSteps Γ b s.now (s.bucket b) (if b = .authFailures then [.attempt ip] else []) := by
  cases b <;> rfl

theorem denyUnauthorized_bucket (ip message : String) (s : Gateway) (b : Bucket) :
    (s.denyUnauthorized Γ ip message).bucket b =
      bucketSteps Γ b s.now (s.bucket b) (if b = .authFailures then [.attempt ip] else []) := by
  rw [← recordAuthFailure_bucket]
  unfold denyUnauthorized
  dsimp only
  split
  · exact (onNet_buckets _ _).bucket b
  · exact (onNet_buckets _ _).bucket b

theorem refuseProxyRequest_bucket (credentialId ip : String) (s : Gateway) (b : Bucket) :
    (s.refuseProxyRequest Γ credentialId ip).2.bucket b =
      bucketSteps Γ b s.now (s.bucket b)
        (match b with
        | .authFailures => []
        | .proxyRequests => if (s.checkProxyIp Γ ip).1 then [.attempt credentialId] else []
        | .proxyIpRequests => if Γ.config.proxyIpRateLimit > 0 then [.attempt ip] else []) := by
  have hip : (s.checkProxyIp Γ ip).2.bucket .authFailures = s.authFailures ∧
      (s.checkProxyIp Γ ip).2.bucket .proxyRequests = s.proxyRequests ∧ (s.checkProxyIp Γ ip).2.now = s.now ∧
      (s.checkProxyIp Γ ip).2.bucket .proxyIpRequests = bucketSteps Γ .proxyIpRequests s.now s.proxyIpRequests
        (if Γ.config.proxyIpRateLimit > 0 then [.attempt ip] else []) := by
    unfold checkProxyIp
    split <;> exact ⟨rfl, rfl, rfl, rfl⟩
  obtain ⟨hauth, hproxy, hnow, hips⟩ := hip
  unfold refuseProxyRequest
  dsimp only
  rcases (s.checkProxyIp Γ ip).1 with _ | _
  · cases b
    · exact hauth
    · exact hproxy
    · exact hips
  · rw [if_neg (by simp)]
    cases b
    · split <;> exact hauth
    · have hcounted : (checkLimit (s.checkProxyIp Γ ip).2.proxyRequests credentialId Γ.config.proxyRateLimit PROXY_RATE_WINDOW
          (s.checkProxyIp Γ ip).2.now).2 = bucketSteps Γ .proxyRequests s.now s.proxyRequests [.attempt credentialId] := by
        change (checkLimit ((s.checkProxyIp Γ ip).2.bucket .proxyRequests) _ _ _ _).2 = _
        rw [hproxy, hnow]
        rfl
      split <;> exact hcounted
    · split <;> exact hips

theorem checkProxyIp_congr {s t : Gateway} (hip : t.proxyIpRequests = s.proxyIpRequests) (hnow : t.now = s.now) (ip : String) :
    (t.checkProxyIp Γ ip).1 = (s.checkProxyIp Γ ip).1 := by
  unfold checkProxyIp
  rw [hip, hnow]
  split <;> rfl

theorem proxyRoute_bucket (request : ProxyRequest) (authorization : Option String) (s : Gateway) (b : Bucket) :
    (s.proxyRoute Γ request authorization).bucket b =
      bucketSteps Γ b s.now (s.bucket b) (s.touches Γ (.proxy request authorization) b) := by
  unfold proxyRoute
  rcases hb : bearerToken authorization with _ | token
  · dsimp only
    rw [denyUnauthorized_bucket]
    cases b <;> simp [touches, denied, proxied, bearer, hb]
  · have hsame := resolveToken_buckets (Γ := Γ) token s
    have hnow := resolveToken_now (Γ := Γ) token s
    dsimp only
    rcases hr : s.resolveToken Γ token with ⟨credential, s'⟩
    rw [hr] at hsame hnow
    dsimp only at hsame hnow
    have hbearer : s.bearer Γ authorization = credential := by
      unfold bearer
      rw [hb, Option.bind_some, hr]
    rcases credential with _ | credential
    · dsimp only
      rw [denyUnauthorized_bucket, hsame.bucket, hnow]
      cases b <;> simp [touches, denied, proxied, hbearer]
    · have hcounted := refuseProxyRequest_bucket (Γ := Γ) credential.id request.ip s' b
      rw [hsame.bucket, hnow, checkProxyIp_congr hsame.proxyIpRequests hnow] at hcounted
      dsimp only
      rcases hp : s'.refuseProxyRequest Γ credential.id request.ip with ⟨refused, s''⟩
      rw [hp] at hcounted
      have hend (t : Gateway) (h : s''.SameBuckets t) : t.bucket b =
          bucketSteps Γ b s.now (s.bucket b) (s.touches Γ (.proxy request authorization) b) := by
        rw [h.bucket, hcounted]
        congr 1
        cases b
        · simp [touches, denied, hbearer]
        · simp only [touches, proxied, hbearer, Option.map_some, Option.filter_some]
          split <;> rfl
        · simp only [touches, proxied, hbearer, Option.map_some, Option.filter_some, decide_eq_true_eq]
          split <;> rfl
      dsimp only
      repeat' split
      all_goals first
        | exact hend _ (proxyViaChannel_buckets _ _ _ _)
        | exact hend _ (onNet_buckets _ _)

theorem discoveryRoute_bucket (ip : String) (authorization : Option String) (s : Gateway) (b : Bucket) :
    (s.discoveryRoute Γ ip authorization).bucket b =
      bucketSteps Γ b s.now (s.bucket b) (s.touches Γ (.discovery ip authorization) b) := by
  unfold discoveryRoute
  rcases hb : bearerToken authorization with _ | token
  · have hnone : s.bearer Γ authorization = none := by rw [bearer, hb]; rfl
    dsimp only
    rw [denyUnauthorized_bucket]
    cases b <;> simp [touches, denied, proxied, hnone]
  · have hresolved := resolveToken_buckets (Γ := Γ) token s
    have hnow := resolveToken_now (Γ := Γ) token s
    have hbearer : s.bearer Γ authorization = (s.resolveToken Γ token).1 := by rw [bearer, hb]; rfl
    dsimp only
    generalize s.resolveToken Γ token = resolved at hresolved hnow hbearer
    obtain ⟨_ | credential, u⟩ := resolved
    · dsimp only at hresolved hnow hbearer ⊢
      rw [denyUnauthorized_bucket, hresolved.bucket b, hnow]
      cases b <;> simp [touches, denied, proxied, hbearer]
    · dsimp only at hresolved hnow hbearer ⊢
      refine ((hresolved.trans (onNet_buckets _ u)).bucket b).trans ?_
      cases b <;> simp [touches, denied, proxied, hbearer, bucketSteps]

theorem syncRegistryRoute_bucket (ip : String) (authorization : Option String) (s : Gateway) (b : Bucket) :
    (s.syncRegistryRoute Γ ip authorization).bucket b =
      bucketSteps Γ b s.now (s.bucket b) (s.touches Γ (.syncRegistry ip authorization) b) := by
  have hdenied (hnone : s.recovered authorization = none) (message : String) :
      (s.denyUnauthorized Γ ip message).bucket b =
        bucketSteps Γ b s.now (s.bucket b) (s.touches Γ (.syncRegistry ip authorization) b) := by
    rw [denyUnauthorized_bucket]
    cases b <;> simp [touches, denied, proxied, hnone]
  unfold syncRegistryRoute
  rcases hb : bearerToken authorization with _ | token
  · exact hdenied (by rw [recovered, hb]; rfl) _
  · dsimp only
    split
    · rename_i hnone
      exact hdenied (by rw [recovered, hb]; exact hnone) _
    · rename_i peer hpeer
      have hsome : s.recovered authorization = some peer := by rw [recovered, hb]; exact hpeer
      cases b <;> simp [touches, denied, proxied, hsome] <;> rfl

theorem backendTokenRoute_bucket (ip : String) (authorization : Option String) (s : Gateway) (b : Bucket) :
    (s.backendTokenRoute Γ ip authorization).bucket b =
      bucketSteps Γ b s.now (s.bucket b) (s.touches Γ (.backendToken ip authorization) b) := by
  unfold backendTokenRoute
  rcases hb : bearerToken authorization with _ | token
  · have hbearer : s.bearer Γ authorization = none := by rw [bearer, hb]; rfl
    dsimp only
    rw [denyUnauthorized_bucket]
    cases b <;> simp [touches, denied, proxied, hbearer]
  · have hsame := resolveToken_buckets (Γ := Γ) token s
    have hnow := resolveToken_now (Γ := Γ) token s
    dsimp only
    rcases hr : s.resolveToken Γ token with ⟨credential, s'⟩
    rw [hr] at hsame hnow
    dsimp only at hsame hnow
    have hbearer : s.bearer Γ authorization = credential := by
      rw [bearer, hb, Option.bind_some, hr]
    rcases credential with _ | credential
    · dsimp only
      rw [denyUnauthorized_bucket, hsame.bucket, hnow]
      cases b <;> simp [touches, denied, proxied, hbearer]
    · have hend (t : Gateway) (h : s'.SameBuckets t) : t.bucket b =
          bucketSteps Γ b s.now (s.bucket b) (s.touches Γ (.backendToken ip authorization) b) := by
        rw [h.bucket, hsame.bucket]
        cases b <;> simp [touches, denied, proxied, hbearer] <;> rfl
      dsimp only
      split
      · exact hend _ (onNet_buckets _ _)
      · exact hend _ ⟨rfl, rfl, rfl⟩

theorem greet_bucket {e : Event} {ws : SocketId} {conn : ControlConn} {hello : PeerHello} {s : Gateway}
    (hh : s.helloOf Γ e = some (ws, conn, hello)) (b : Bucket) :
    (s.greet Γ ws conn hello).bucket b = bucketSteps Γ b s.now (s.bucket b) (s.touches Γ e b) := by
  obtain ⟨-, frame, buffered, writable, rfl, -⟩ := helloOf_frame hh
  have hresolve : ((s.onNet (clearAuthTimeout ws)).resolveToken Γ hello.gatewaySecret).1 =
      (s.resolveToken Γ hello.gatewaySecret).1 := by
    unfold resolveToken
    split <;> rfl
  have hsame := (onNet_buckets (clearAuthTimeout ws) s).trans
    (resolveToken_buckets (Γ := Γ) hello.gatewaySecret (s.onNet (clearAuthTimeout ws)))
  have hnow := resolveToken_now (Γ := Γ) hello.gatewaySecret (s.onNet (clearAuthTimeout ws))
  unfold greet handlePeerHello
  dsimp only
  rcases hr : (s.onNet (clearAuthTimeout ws)).resolveToken Γ hello.gatewaySecret with ⟨credential, s'⟩
  rw [hr] at hresolve hsame hnow
  dsimp only [onNet_now] at hresolve hsame hnow
  rcases credential with _ | credential
  · have hcounted := recordAuthFailure_bucket (Γ := Γ) conn.ip s' b
    rw [hsame.bucket, hnow] at hcounted
    have htouched : s.touches Γ (.message ws frame buffered writable) b =
        if b = .authFailures then [.attempt conn.ip] else [] := by
      cases b <;> simp [touches, denied, proxied, hh, ← hresolve]
    rw [htouched, ← hcounted, (onNet_buckets _ _).bucket]
    dsimp only
    split
    · exact ((onNet_buckets _ _).trans (onNet_buckets _ _)).bucket b
    · exact ((onNet_buckets _ _).trans (onNet_buckets _ _)).bucket b
  · have htouched : s.touches Γ (.message ws frame buffered writable) b = [] := by
      cases b <;> simp [touches, denied, proxied, hh, ← hresolve]
    rw [htouched, (onNet_buckets _ _).bucket]
    change _ = s.bucket b
    rw [← hsame.bucket]
    dsimp only
    split
    · exact ((onNet_buckets _ _).trans (onNet_buckets _ _)).bucket b
    · exact (openSession_buckets _ _ _ _).bucket b

/-- An event does to a bucket what it counts in it. -/
theorem handle_bucket (e : Event) (s : Gateway) (b : Bucket) :
    (s.handle Γ e).bucket b = bucketSteps Γ b s.now (s.bucket b) (s.touches Γ e b) := by
  have same {t : Gateway} (h : s.SameBuckets t) (hnone : s.touches Γ e b = []) :
      t.bucket b = bucketSteps Γ b s.now (s.bucket b) (s.touches Γ e b) := by
    rw [hnone]
    exact h.bucket b
  cases e with
  | message ws frame buffered writable =>
    rcases hh : s.helloOf Γ (.message ws frame buffered writable) with _ | ⟨ws', conn, hello⟩
    · refine same (socketMessage_buckets hh) ?_
      cases b <;> simp [touches, denied, proxied, hh]
    · rw [handle_hello hh]
      exact greet_bucket hh b
  | rateLimitCleanup => cases b <;> rfl
  | proxy request authorization => exact proxyRoute_bucket request authorization s b
  | syncRegistry ip authorization => exact syncRegistryRoute_bucket ip authorization s b
  | discovery ip authorization => exact discoveryRoute_bucket ip authorization s b
  | backendToken ip authorization => exact backendTokenRoute_bucket ip authorization s b
  | adminLogin ip expiresAt =>
    cases expiresAt with
    | none =>
      change (s.denyUnauthorized Γ ip "Invalid admin token").bucket b = _
      rw [denyUnauthorized_bucket]
      cases b <;> rfl
    | some expiresAt => exact same (onNet_buckets _ s) (by cases b <;> rfl)
  | adminSession ip expiresAt =>
    refine same ?_ (by cases b <;> rfl)
    cases expiresAt <;> exact onNet_buckets _ s
  | admin ip auth request =>
    by_cases hauth : auth = .denied
    · subst hauth
      change (s.denyUnauthorized Γ ip "Invalid admin token").bucket b = _
      rw [denyUnauthorized_bucket]
      cases b <;> rfl
    · refine same (adminRoute_buckets ip hauth request s) ?_
      cases auth
      · cases b <;> rfl
      · cases b <;> rfl
      · exact absurd rfl hauth
  | clock now => exact same ⟨rfl, rfl, rfl⟩ (by cases b <;> rfl)
  | upgrade ip target handshakeOk => exact same (upgrade_buckets _ _ _ s) (by cases b <;> rfl)
  | socketError ws =>
    refine same ?_ (by cases b <;> rfl)
    change s.SameBuckets (s.socketError ws)
    unfold socketError
    dsimp only
    repeat' split
    all_goals first
      | exact .refl s
      | exact ⟨rfl, rfl, rfl⟩
      | exact (onNet_buckets _ s).trans (teardownChannel_buckets _ _ _)
  | socketClosing ws =>
    refine same ?_ (by cases b <;> rfl)
    change s.SameBuckets (s.socketClosing ws)
    unfold socketClosing
    repeat' split
    all_goals exact ⟨rfl, rfl, rfl⟩
  | socketClosed ws =>
    refine same ?_ (by cases b <;> rfl)
    change s.SameBuckets (s.socketClosed ws)
    unfold socketClosed
    split
    · exact .refl s
    · split
      · exact .refl s
      · dsimp only
        split
        · exact onNet_buckets _ s
        · exact (onNet_buckets _ s).trans (controlClose_buckets _ _ _)
        · exact (onNet_buckets _ s).trans (teardownChannel_buckets _ _ _)
        · exact (onNet_buckets _ s).trans (bridgeClose_buckets _ _ _)
  | pong ws =>
    refine same ?_ (by cases b <;> rfl)
    change s.SameBuckets (s.controlPong ws)
    unfold controlPong
    split <;> exact ⟨rfl, rfl, rfl⟩
  | authTimeout ws =>
    refine same ?_ (by cases b <;> rfl)
    change s.SameBuckets (s.authTimeoutFires ws)
    unfold authTimeoutFires
    dsimp only
    repeat' split
    all_goals exact ⟨rfl, rfl, rfl⟩
  | replacedGrace ws =>
    refine same ?_ (by cases b <;> rfl)
    change s.SameBuckets (s.replacedGraceFires ws)
    unfold replacedGraceFires
    repeat' split
    all_goals exact ⟨rfl, rfl, rfl⟩
  | rateTimer ws =>
    refine same ?_ (by cases b <;> rfl)
    change s.SameBuckets (s.rateTimerFires ws)
    unfold rateTimerFires
    repeat' split
    all_goals exact ⟨rfl, rfl, rfl⟩
  | drainPoll ws buffered =>
    refine same ?_ (by cases b <;> rfl)
    change s.SameBuckets (s.drainPoll ws buffered)
    unfold drainPoll
    repeat' split
    all_goals exact ⟨rfl, rfl, rfl⟩
  | pairingTimeout channelId =>
    refine same ?_ (by cases b <;> rfl)
    change s.SameBuckets (s.pairingTimeoutFires channelId)
    unfold pairingTimeoutFires
    repeat' split
    all_goals first | exact .refl s | exact teardownChannel_buckets _ _ _
  | pingInterval => exact same (foldl_buckets (fun u p => pingPeer_buckets p u) _ s) (by cases b <;> rfl)
  | leaseCheckInterval => exact same (foldl_buckets (fun u p => checkLease_buckets p u) _ s) (by cases b <;> rfl)
  | registryPollInterval =>
    refine same ?_ (by cases b <;> rfl)
    change s.SameBuckets s.registryPollInterval
    unfold registryPollInterval
    split <;> exact ⟨rfl, rfl, rfl⟩
  | requestData ex chunk buffered =>
    refine same ?_ (by cases b <;> rfl)
    change s.SameBuckets (s.requestData ex chunk buffered)
    unfold requestData
    repeat' split
    all_goals exact ⟨rfl, rfl, rfl⟩
  | requestEnd ex =>
    refine same ?_ (by cases b <;> rfl)
    change s.SameBuckets (s.requestEnd ex)
    unfold requestEnd
    repeat' split
    all_goals exact ⟨rfl, rfl, rfl⟩
  | requestDrainPoll ex buffered =>
    refine same ?_ (by cases b <;> rfl)
    change s.SameBuckets (s.requestDrainPoll ex buffered)
    unfold requestDrainPoll
    repeat' split
    all_goals exact ⟨rfl, rfl, rfl⟩
  | responseDrain ex =>
    refine same ?_ (by cases b <;> rfl)
    change s.SameBuckets (s.responseDrain ex)
    unfold Gateway.responseDrain
    repeat' split
    all_goals exact ⟨rfl, rfl, rfl⟩
  | responseClose ex =>
    refine same ?_ (by cases b <;> rfl)
    change s.SameBuckets (s.responseClose ex)
    unfold Gateway.responseClose
    repeat' split
    all_goals first | exact .refl s | exact (onNet_buckets _ s).trans (teardownChannel_buckets _ _ _)
  | responseTimeout ex =>
    refine same ?_ (by cases b <;> rfl)
    change s.SameBuckets (s.responseTimeoutFires ex)
    unfold responseTimeoutFires
    repeat' split
    all_goals first | exact .refl s | exact (onNet_buckets _ s).trans (teardownChannel_buckets _ _ _)
  | idleTimeout ex =>
    refine same ?_ (by cases b <;> rfl)
    change s.SameBuckets (s.idleTimeoutFires ex)
    unfold idleTimeoutFires
    repeat' split
    all_goals first | exact .refl s | exact (onNet_buckets _ s).trans (teardownChannel_buckets _ _ _)

/-! ## Runs -/

theorem resolveToken_quiet (token : String) (s : Gateway) : (s.quiet.resolveToken Γ token).1 = (s.resolveToken Γ token).1 := by
  unfold resolveToken
  split <;> rfl

theorem bearer_quiet (s : Gateway) (authorization : Option String) :
    s.quiet.bearer Γ authorization = s.bearer Γ authorization := by
  unfold bearer
  simp only [resolveToken_quiet]

theorem denied_quiet (s : Gateway) (e : Event) : s.quiet.denied Γ e = s.denied Γ e := by
  unfold denied
  simp only [helloOf_quiet, resolveToken_quiet, bearer_quiet]
  rfl

theorem proxied_quiet (s : Gateway) (e : Event) : s.quiet.proxied Γ e = s.proxied Γ e := by
  unfold proxied
  simp only [bearer_quiet]

theorem touches_quiet (s : Gateway) (e : Event) (b : Bucket) : s.quiet.touches Γ e b = s.touches Γ e b := by
  have hip (ip : String) : (s.quiet.checkProxyIp Γ ip).1 = (s.checkProxyIp Γ ip).1 :=
    checkProxyIp_congr (s := s) (t := s.quiet) rfl rfl ip
  unfold touches
  simp only [denied_quiet, proxied_quiet, hip]

/-- What an event counts in a bucket, with the time. A process that is gone counts nothing. -/
def counts (Γ : Ctx) (b : Bucket) (s : Gateway) (e : Event) : List (Nat × BucketEvent) :=
  if s.uncaught.isSome then [] else (s.touches Γ e b).map (fun c => (s.now, c))

theorem step_bucket (s : Gateway) (e : Event) (b : Bucket) :
    (s.step Γ e).bucket b = (s.counts Γ b e).foldl (bucketStep (b.limit Γ) PROXY_RATE_WINDOW) (s.bucket b) := by
  unfold counts step
  split
  · exact (onNet_buckets _ s).bucket b
  · have h := handle_bucket (Γ := Γ) e s.quiet b
    rw [touches_quiet] at h
    exact h

end Gateway

/-- What a run counts in a bucket, the oldest first. -/
def bucketHistory (Γ : Ctx) (storage : Storage) (b : Bucket) (es : List Event) : List (Nat × BucketEvent) :=
  (gateway Γ storage).history (Gateway.counts Γ b) es

section Runs

variable {Γ : Ctx} {storage : Storage}

/-- After every run a bucket is what the attempts of the run make of it. -/
theorem rateMap_run (b : Bucket) (es : List Event) : ((gateway Γ storage).run es).bucket b =
    (bucketMachine (b.limit Γ) PROXY_RATE_WINDOW).run (bucketHistory Γ storage b es) := by
  induction es using List.reverseRecOn with
  | nil => cases b <;> rfl
  | append_singleton es e ih =>
    unfold bucketHistory at ih ⊢
    rw [EventMachine.run_snoc, EventMachine.history_snoc, EventMachine.run_append, ← ih]
    exact Gateway.step_bucket _ e b

theorem bucketHistory_snoc (b : Bucket) (es : List Event) (e : Event) :
    bucketHistory Γ storage b (es ++ [e]) =
      bucketHistory Γ storage b es ++ ((gateway Γ storage).run es).counts Γ b e :=
  EventMachine.history_snoc _ _ es e

/-- The clock does not go back. -/
def ClockForward (s : Gateway) (e : Event) : Prop := ∀ now, e = .clock now → s.now ≤ now

theorem run_now {es : List Event} {e : Event} (h : ClockForward ((gateway Γ storage).run es) e) :
    ((gateway Γ storage).run es).now ≤ ((gateway Γ storage).run (es ++ [e])).now := by
  have hfresh : ((gateway Γ storage).run es).quiet.Fresh Γ := (fresh_run es).turns (quiet_turns _)
  rw [EventMachine.run_snoc]
  generalize (gateway Γ storage).run es = s at h hfresh
  change s.now ≤ (s.step Γ e).now
  unfold Gateway.step
  split
  · exact le_refl _
  · by_cases hclock : ∃ now, e = .clock now
    · obtain ⟨now, rfl⟩ := hclock
      exact h now rfl
    · exact (Gateway.handle_now hfresh fun now he => hclock ⟨now, he⟩).ge

/-- The times at which a run counts never go back, and none is later than the clock. -/
theorem bucketHistory_forward (b : Bucket) (es : List Event) (h : (gateway Γ storage).Meets ClockForward es) :
    Forward (bucketHistory Γ storage b es) ∧ ∀ c ∈ bucketHistory Γ storage b es, c.1 ≤ ((gateway Γ storage).run es).now := by
  induction es using List.reverseRecOn with
  | nil => exact ⟨List.Pairwise.nil, fun c hc => (nomatch hc)⟩
  | append_singleton es e ih =>
    obtain ⟨hmeets, hlast⟩ := EventMachine.meets_snoc_iff.mp h
    obtain ⟨hforward, hpast⟩ := ih hmeets
    have hnow : ∀ c ∈ ((gateway Γ storage).run es).counts Γ b e, c.1 = ((gateway Γ storage).run es).now := by
      intro c hc
      unfold Gateway.counts at hc
      split at hc
      · cases hc
      · obtain ⟨c, -, rfl⟩ := List.mem_map.mp hc
        rfl
    have hlater := run_now hlast
    rw [bucketHistory_snoc]
    refine ⟨List.pairwise_append.mpr ⟨hforward, ?_, fun a ha c hc => ?_⟩, fun c hc => ?_⟩
    · exact List.pairwise_of_forall_mem_list fun a ha c hc => by rw [hnow a ha, hnow c hc]
    · rw [hnow c hc]
      exact hpast a ha
    · rcases List.mem_append.mp hc with hc | hc
      · exact (hpast c hc).trans hlater
      · rw [hnow c hc]
        exact hlater

end Runs

end ZclaudiaGateway
