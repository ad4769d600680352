import Mathlib.Data.List.TakeWhile
import ZclaudiaGateway.Lemmas.Admission
import ZclaudiaGateway.Sdk.Asgi
import ZclaudiaGateway.Theorems.Http

/-!
# The target of a proxied request

What the backend is asked for: every request frame carries the target path of a request to the proxy, whose captured suffix
Express has decoded. The ASGI adapter decodes the path of the frame.
-/

namespace ZclaudiaGateway

open Gateway

/-! ## Request frames -/

/-- An exchange is asked for what it was asked for. -/
def HttpExchange.SameTarget (x x' : HttpExchange) : Prop := x'.request = x.request ∧ x'.targetPath = x.targetPath

theorem HttpExchange.SameTarget.refl (x : HttpExchange) : x.SameTarget x := ⟨rfl, rfl⟩

namespace Net

/-- Exchanges and request frames are those of requests that satisfy the predicate. -/
structure Asks (P : ProxyRequest → Prop) (net : Net) : Prop where
  exchanges : ∀ ex x, net.exchanges.get ex = some x → x.targetPath = targetPath x.request ∧ P x.request
  requests : ∀ o ∈ net.requests, ∃ ws request, P request ∧
    o = .sendHttp ws (.request request.method (targetPath request) (forwardedHeaders request.headers))

variable {P : ProxyRequest → Prop} {net net' : Net}

theorem Asks.keeps (h : net.Asks P) (exchanges : net.exchanges.Pointwise HttpExchange.SameTarget net'.exchanges)
    (requests : net'.requests.Sublist net.requests) : net'.Asks P := by
  refine ⟨fun ex x' hx' => ?_, fun o ho => h.requests o (requests.subset ho)⟩
  obtain ⟨x, hx, hrequest, htarget⟩ := exchanges.some_get hx'
  rw [hrequest, htarget]
  exact h.exchanges ex x hx

theorem Asks.turns (h : net.Asks P) (ht : net.Turns net') : net'.Asks P :=
  h.keeps (ht.exchanges.mono fun _ _ hx => ⟨hx.request, hx.targetPath⟩) ht.requests

theorem Asks.emit (h : net.Asks P) {o : Output} (ho : o.isRequest = false) : (net.emit o).Asks P :=
  h.keeps (.refl HttpExchange.SameTarget.refl _) (by rw [requests_emit, if_neg (by simp [ho])])

theorem Asks.sockets (h : net.Asks P) (sockets : InsertionMap SocketId WsSocket) : { net with sockets }.Asks P :=
  h.keeps (.refl HttpExchange.SameTarget.refl _) (.refl _)

theorem Asks.modifyExchange (h : net.Asks P) (ex : ExchangeId) {f : HttpExchange → HttpExchange}
    (hf : ∀ x : HttpExchange, x.SameTarget (f x)) : (net.modifyExchange ex f).Asks P :=
  h.keeps (.modify HttpExchange.SameTarget.refl fun x _ => hf x) (.refl _)

theorem Asks.resume (h : net.Asks P) (ws : SocketId) : (net.resume ws).Asks P := by
  unfold Net.resume
  split
  · exact h
  · exact h.sockets _

/-- A channel that is bridged asks its backend for the target of its exchange. -/
theorem Asks.bridge (h : net.Asks P) (channelId : String) (ex : ExchangeId) (ws : SocketId) :
    (bridgeHttpChannel channelId ex ws net).Asks P := by
  unfold bridgeHttpChannel
  split
  · exact h
  · rename_i x hx
    obtain ⟨htarget, hP⟩ := h.exchanges ex x hx
    refine Asks.modifyExchange ?_ ex fun x => ⟨rfl, rfl⟩
    refine Asks.sockets ?_ _
    refine ⟨h.exchanges, fun o ho => ?_⟩
    rw [requests_emit, if_pos (by rfl), htarget] at ho
    rcases List.mem_append.mp ho with ho | ho
    · exact h.requests o ho
    · exact ⟨ws, x.request, hP, List.mem_singleton.mp ho⟩

end Net

namespace Gateway

variable {Γ : Ctx} {P : ProxyRequest → Prop} {e : Event} {s t : Gateway}

theorem teardown_asks (h : s.net.Asks P) (reason : ChannelClosedReason) (channelId : String) :
    (s.teardownChannel reason channelId).net.Asks P := by
  refine h.keeps ?_ ?_
  · rcases hc : s.channels.get channelId with _ | ch
    · rw [teardownChannel_of_none _ _ _ hc]
      exact .refl HttpExchange.SameTarget.refl _
    · intro ex
      rw [teardownChannel_exchange _ _ _ hc]
      rcases s.net.exchanges.get ex with _ | x
      · split <;> exact .none
      · split
        · refine .some ?_
          unfold HttpExchange.answered
          split
          · exact ⟨rfl, rfl⟩
          · split <;> exact ⟨rfl, rfl⟩
        · exact .some (.refl x)
  · obtain ⟨out, hout, htears⟩ := teardownChannel_emits reason s channelId
    have hnone : out.filter Output.isRequest = [] := by
      refine List.filter_eq_nil_iff.mpr fun o ho => ?_
      have htear := htears o ho
      cases o <;> simp_all [Output.tears, Output.isRequest]
    unfold Net.requests
    rw [hout, List.filter_append, hnone, List.append_nil]

theorem dial_asks (h : s.net.Asks P) (channelId : String) (ticket : Option String) (handshakeOk : Bool) :
    (s.handleChannelUpgrade channelId ticket handshakeOk).net.Asks P := by
  rcases handleChannelUpgrade_cases s channelId ticket handshakeOk with he | ⟨issued, ch, -, -, -, -, he⟩
  · rw [he]
    exact h.emit rfl
  · rw [he]
    unfold attachLeg
    dsimp only
    split
    · exact h
    · have hattached (sockets : InsertionMap SocketId WsSocket) (o : Output) (ho : o.isRequest = false) :
          ({ s.net with sockets }.emit o).Asks P := (h.sockets sockets).emit ho
      unfold pairLegs
      split
      · exact ((hattached _ _ (by rfl)).bridge _ _ _).resume _
      · exact ((((hattached _ _ (by rfl)).sockets _).sockets _).resume _).resume _
      · exact hattached _ _ (by rfl)

/-- A request to the proxy opens an exchange for the target path it asks for. -/
theorem proxyViaChannel_asks (h : s.net.Asks P) {request : ProxyRequest} (hP : P request) (epoch : Nat)
    (backendPeer : PeerSession) : (s.proxyViaChannel Γ request epoch backendPeer).net.Asks P := by
  unfold proxyViaChannel
  split
  · exact h.emit rfl
  · refine Net.Asks.turns ?_ (.sendToWs _ _ _)
    refine ⟨fun ex x hx => ?_, h.requests⟩
    rcases InsertionMap.get_set_eq_some.mp hx with ⟨-, rfl⟩ | ⟨-, hx⟩
    · exact ⟨rfl, hP⟩
    · exact h.exchanges ex x hx

theorem bridgeClose_asks (h : s.net.Asks P) (channelId : String) (ex : ExchangeId) :
    (s.bridgeClose channelId ex).net.Asks P := by
  unfold bridgeClose
  split
  · exact h
  · refine teardown_asks ?_ _ _
    have hcleared := h.modifyExchange ex (f := fun x => { x with responseTimer := false, idleTimer := false }) fun x => ⟨rfl, rfl⟩
    unfold finishResponse
    dsimp only
    split
    · split
      · refine Net.Asks.emit (Net.Asks.modifyExchange hcleared ex fun x => ?_) (by rfl)
        exact ⟨rfl, rfl⟩
      · exact hcleared
    · exact hcleared

theorem DataStep.asks (h : DataStep Γ e s t) (hs : s.net.Asks P) (hP : ∀ request, e.Proxies request → P request) :
    t.net.Asks P := by
  cases h with
  | close h =>
    cases h with
    | turn h => exact hs.turns h.net
    | teardown reason channelId => exact teardown_asks hs _ _
  | dropTickets keep => exact hs
  | openChannel fresh peer backendPeer lease target kind => exact (hs.turns (.sendToWs _ _ _)).turns (.sendToWs _ _ _)
  | proxyViaChannel fresh hr epoch backendPeer => exact proxyViaChannel_asks hs (hP _ hr) _ _
  | connect fresh ip hact =>
    unfold Gateway.controlConnection
    dsimp only
    split
    · exact ((hs.sockets _).emit rfl).turns (.close _ _ _ _)
    · exact (hs.sockets _).emit rfl
  | dial fresh channelId ticket handshakeOk hact => exact dial_asks hs _ _ _
  | @responseHead ex x hx hm meta_ =>
    have hspeaks := responseHead_speaks ex x.request meta_ s
    exact hs.keeps (hspeaks.exchanges.mono fun _ _ hx => ⟨hx.request, hx.targetPath⟩) (by rw [hspeaks.requests])
  | @responseBody ex x hx hm data =>
    have hspeaks := callResponse_speaks ex s (.write data)
    exact hs.keeps (hspeaks.exchanges.mono fun _ _ hx => ⟨hx.request, hx.targetPath⟩) (by rw [hspeaks.requests])
  | bridgeClose hk hl hact => exact bridgeClose_asks hs _ _
  | responseClose ex =>
    unfold Gateway.responseClose
    split
    · exact hs
    · split
      · exact hs
      · refine teardown_asks (Net.Asks.modifyExchange hs ex fun x => ?_) _ _
        exact ⟨rfl, rfl⟩
  | responseDrain ex =>
    unfold Gateway.responseDrain
    split
    · split
      · refine Net.Asks.resume (Net.Asks.modifyExchange hs ex fun x => ?_) _
        exact ⟨rfl, rfl⟩
      · exact hs
    · exact hs
  | clock hact => exact hs
  | relay h hact => exact hs.keeps (h.exchanges ▸ .refl HttpExchange.SameTarget.refl _) (by rw [h.requests])

end Gateway

/-- The run has this request to the proxy among its events. -/
def Proxied (es : List Event) (request : ProxyRequest) : Prop := ∃ e ∈ es, e.Proxies request

/-- After every run exchanges and request frames are those of requests of the run. -/
theorem asks_run {Γ : Ctx} {storage : Storage} (es : List Event) : ((gateway Γ storage).run es).net.Asks (Proxied es) := by
  induction es using List.reverseRecOn with
  | nil => exact ⟨fun _ _ hx => (nomatch hx), fun _ ho => (nomatch ho)⟩
  | append_singleton es e ih =>
    have hbefore : ((gateway Γ storage).run es).quiet.net.Asks (Proxied (es ++ [e])) := by
      have hmore (request : ProxyRequest) (h : Proxied es request) : Proxied (es ++ [e]) request := by
        obtain ⟨e', he', hr⟩ := h
        exact ⟨e', List.mem_append_left _ he', hr⟩
      refine ⟨fun ex x hx => ?_, fun o ho => (nomatch ho)⟩
      obtain ⟨htarget, hP⟩ := ih.exchanges ex x hx
      exact ⟨htarget, hmore _ hP⟩
    have hfresh : ((gateway Γ storage).run es).quiet.Fresh Γ := (fresh_run es).turns (quiet_turns _)
    rw [EventMachine.run_snoc]
    generalize (gateway Γ storage).run es = s at hbefore hfresh
    change (s.step Γ e).net.Asks _
    rcases hrun : s.uncaught with _ | error
    · rw [step_running hrun]
      exact handle_preserves (I := fun u => u.net.Asks (Proxied (es ++ [e]))) e
        (fun u v hstep hu => hstep.asks hu fun request hr => ⟨e, List.mem_append_right _ (List.mem_singleton.mpr rfl), hr⟩)
        (fun u ws p hu => hu.sockets _) hfresh hbefore
    · rw [step_stopped hrun]
      exact hbefore

/-! ## Captures -/

/-- A path that matches the route is its prefix, the identifier and the suffix. -/
theorem matchProxyRoute_eq {path backendId suffix : List Char} (h : matchProxyRoute path = some (backendId, suffix)) :
    path = path.take PROXY_PREFIX.length ++ backendId ++ '/' :: suffix ∧ '/' ∉ backendId ∧ backendId ≠ [] := by
  unfold matchProxyRoute at h
  split at h
  · dsimp only at h
    split at h
    · rename_i c id d rest htake hdrop
      obtain ⟨rfl, rfl⟩ : c :: id = backendId ∧ rest = suffix := by simpa using h
      have hslash : d = '/' := by
        have hhead := List.head?_dropWhile_not (· ≠ '/') (path.drop PROXY_PREFIX.length)
        rw [hdrop] at hhead
        simpa using hhead
      have hrest := List.takeWhile_append_dropWhile (p := (· ≠ '/')) (l := path.drop PROXY_PREFIX.length)
      rw [htake, hdrop, hslash] at hrest
      refine ⟨by rw [List.append_assoc, hrest, List.take_append_drop], fun hmem => ?_, by simp⟩
      rw [← htake] at hmem
      simpa using List.mem_takeWhile_imp hmem
    · cases h
  · cases h

/-- The prefix of the route, up to case. -/
def IsPrefix (l : List Char) : Prop := l.map Char.toLower = PROXY_PREFIX

theorem IsPrefix.length {l : List Char} (h : IsPrefix l) : l.length = PROXY_PREFIX.length := by
  rw [← h, List.length_map]

theorem matchProxyRoute_append {l : List Char} (h : IsPrefix l) (rest : List Char) :
    matchProxyRoute (l ++ rest) =
      match rest.takeWhile (· ≠ '/'), rest.dropWhile (· ≠ '/') with
      | c :: backendId, _ :: suffix => some (c :: backendId, suffix)
      | _, _ => none := by
  unfold matchProxyRoute
  rw [List.take_left' h.length, List.drop_left' h.length]
  exact if_pos h

theorem matchProxyRoute_some {l backendId : List Char} (h : IsPrefix l) (hid : '/' ∉ backendId) (hne : backendId ≠ [])
    (suffix : List Char) : matchProxyRoute (l ++ (backendId ++ '/' :: suffix)) = some (backendId, suffix) := by
  have hplain : ∀ c ∈ backendId, decide (c ≠ '/') = true := fun c hc => by
    simp only [decide_eq_true_eq]
    rintro rfl
    exact hid hc
  rw [matchProxyRoute_append h, List.takeWhile_append_of_pos hplain, List.dropWhile_append_of_pos hplain]
  rcases backendId with _ | ⟨c, id⟩
  · exact absurd rfl hne
  · simp

theorem matchProxyRoute_none {l rest : List Char} (h : IsPrefix l) (hrest : '/' ∉ rest) : matchProxyRoute (l ++ rest) = none := by
  have hplain : ∀ c ∈ rest, decide (c ≠ '/') = true := fun c hc => by
    simp only [decide_eq_true_eq]
    rintro rfl
    exact hrest hc
  rw [matchProxyRoute_append h, List.dropWhile_eq_nil_iff.mpr hplain]
  split
  · contradiction
  · rfl

/-- A text too short to hold more than the prefix does not match. -/
theorem matchProxyRoute_short {l : List Char} (h : l.length ≤ PROXY_PREFIX.length) : matchProxyRoute l = none := by
  unfold matchProxyRoute
  rw [List.drop_eq_nil_of_le h]
  split <;> rfl

/-- What is captured of a request that is dispatched to the proxy, decoded. -/
theorem dispatch_captures {X : Express} {r : IncomingRequest} {request : ProxyRequest} {outcome : ParserOutcome}
    (h : dispatch X r = .proxy request outcome) :
    request.url = r.url ∧ ∃ backendId suffix, matchProxyRoute (r.path X) = some (backendId, suffix) ∧
      PercentEncoding.decodeURIComponent (String.ofList suffix) = some request.suffix := by
  unfold dispatch at h
  split at h
  · cases h
  · dsimp only at h
    generalize (if skipsJsonParser X r then ParserOutcome.untouched else X.json r) = left at h
    split at h
    · cases h
    · split at h
      · cases h
      · rename_i backendId suffix hmatch
        split at h
        · rename_i hsuffix
          cases h
          exact ⟨rfl, backendId, suffix, hmatch, hsuffix⟩
        · cases h

/-! ## Pathnames -/

/-- The character is in a path: it starts neither a query nor a fragment. -/
def inPath (c : Char) : Bool := decide (c ≠ '?' ∧ c ≠ '#')

/-- A back slash in a path becomes a slash. -/
def forwardSlash (c : Char) : Char := if c = '\\' then '/' else c

theorem takeWhile_congr {α : Type} {p q : α → Bool} {l : List α} (h : ∀ a ∈ l, p a = q a) : l.takeWhile p = l.takeWhile q := by
  induction l with
  | nil => rfl
  | cons a l ih => rw [List.takeWhile_cons, List.takeWhile_cons, h a (by simp), ih fun b hb => h b (by simp [hb])]

theorem takeWhile_forwardSlashes (l : List Char) :
    (forwardSlashes l).takeWhile inPath = (l.takeWhile inPath).map forwardSlash := by
  induction l with
  | nil => rfl
  | cons c cs ih =>
    rw [forwardSlashes]
    by_cases hc : c = '?' ∨ c = '#'
    · have hout : inPath c = false := by simpa [inPath, or_iff_not_imp_left] using hc
      rw [if_pos hc, List.takeWhile_cons, hout]
      simp
    · have hin : inPath c = true := by simpa [inPath, not_or] using hc
      have hin' : inPath (forwardSlash c) = true := by
        unfold forwardSlash
        split
        · rfl
        · exact hin
      have hhead : (if c = '\\' then '/' else c) = forwardSlash c := rfl
      rw [if_neg hc, hhead, List.takeWhile_cons_of_pos hin', List.takeWhile_cons_of_pos hin, List.map_cons, ih]

/-- What `url.parse` may put for the characters of a path: itself for those of the prefix and of separators, and what
`decodeURIComponent` takes away for others. -/
structure Escapes (f : Char → List Char) : Prop where
  kept : ∀ c, c.toNat ∉ PercentEncoding.AUTO_ESCAPED → f c = [c]
  slash : ∀ c, c ≠ '/' → '/' ∉ f c
  decoded : ∀ l : List Char, PercentEncoding.decodeURIComponent (String.ofList (l.flatMap f)) =
    PercentEncoding.decodeURIComponent (String.ofList l)

theorem Escapes.none : Escapes (fun c => [c]) := by
  refine ⟨fun _ _ => rfl, fun c hc => ?_, fun l => by rw [List.flatMap_singleton']⟩
  rw [List.mem_singleton]
  exact Ne.symm hc

theorem Escapes.auto : Escapes PercentEncoding.autoEscapeChar := by
  refine ⟨fun c hc => if_neg hc, fun c hc => ?_, PercentEncoding.decodeURIComponent_autoEscape⟩
  unfold PercentEncoding.autoEscapeChar
  split
  · rename_i hin
    have hall : ∀ n ∈ PercentEncoding.AUTO_ESCAPED,
        '/' ∉ ['%', PercentEncoding.upperHexDigit (n / 16), PercentEncoding.upperHexDigit (n % 16)] := by decide
    exact hall _ hin
  · rw [List.mem_singleton]
    exact Ne.symm hc

/-- The characters of the prefix are letters and slashes. -/
theorem IsPrefix.plain {l : List Char} (h : IsPrefix l) {c : Char} (hc : c ∈ l) :
    c.toNat ∉ PercentEncoding.AUTO_ESCAPED ∧ c ≠ '\\' := by
  have hlower : c.toLower ∈ PROXY_PREFIX := h ▸ List.mem_map_of_mem hc
  have hall : ∀ n < 128, (Char.ofNat n).toLower ∈ PROXY_PREFIX → n ∉ PercentEncoding.AUTO_ESCAPED ∧ n ≠ 92 := by decide
  by_cases hn : c.toNat < 128
  · obtain ⟨hescaped, hslash⟩ := hall _ hn (by rwa [Char.ofNat_toNat])
    exact ⟨hescaped, fun he => hslash (he ▸ rfl)⟩
  · refine ⟨fun hin => hn ?_, ?_⟩
    · have hlt : ∀ n ∈ PercentEncoding.AUTO_ESCAPED, n < 128 := by decide
      exact hlt _ hin
    · rintro rfl
      exact hn (by decide)

theorem toLower_eq_slash {c : Char} (h : c.toLower = '/') : c = '/' := by
  by_cases hupper : c.val ≥ 'A'.val ∧ c.val ≤ 'Z'.val
  · have hall : ∀ n < 128, (Char.ofNat n).toLower = '/' → n = 47 := by decide
    have hlt : c.toNat < 128 := lt_of_le_of_lt (UInt32.le_iff_toNat_le.mp hupper.2) (by decide)
    have hn := hall _ hlt (by rwa [Char.ofNat_toNat])
    rw [← Char.ofNat_toNat c, hn]
  · have hsame : c.toLower = c := dif_neg hupper
    rwa [hsame] at h

theorem Escapes.prefix_eq {f : Char → List Char} (hf : Escapes f) {l : List Char}
    (h : ∀ c ∈ l, c.toNat ∉ PercentEncoding.AUTO_ESCAPED ∧ c ≠ '\\') : (l.map forwardSlash).flatMap f = l := by
  induction l with
  | nil => rfl
  | cons c cs ih =>
    obtain ⟨hc, hslash⟩ := h c (by simp)
    rw [List.map_cons, List.flatMap_cons, ih fun d hd => h d (by simp [hd]), forwardSlash, if_neg hslash, hf.kept c hc]
    rfl

theorem Escapes.slash_notMem {f : Char → List Char} (hf : Escapes f) {l : List Char} (h : '/' ∉ l) (hback : '\\' ∉ l) :
    '/' ∉ (l.map forwardSlash).flatMap f := by
  rw [List.mem_flatMap]
  rintro ⟨d, hd, hin⟩
  obtain ⟨c, hc, rfl⟩ := List.mem_map.mp hd
  have hne : c ≠ '\\' := fun he => hback (he ▸ hc)
  rw [forwardSlash, if_neg hne] at hin
  exact hf.slash c (fun he => h (he ▸ hc)) hin

/-- A path that begins as one of the route does, and still matches after its characters are escaped, has come to the slash
before the suffix. -/
theorem escaped_captures {f : Char → List Char} (hf : Escapes f) {l backendId suffix p backendId' suffix' : List Char}
    (hl : IsPrefix l) (hid : '/' ∉ backendId) (hback : '\\' ∉ backendId) (hp : p <+: l ++ (backendId ++ '/' :: suffix))
    (hmatch : matchProxyRoute ((p.map forwardSlash).flatMap f) = some (backendId', suffix')) :
    ∃ rest, rest <+: suffix ∧ p = l ++ (backendId ++ '/' :: rest) ∧ suffix' = (rest.map forwardSlash).flatMap f := by
  rcases List.prefix_or_prefix_of_prefix hp (List.prefix_append l _) with hshort | ⟨w, rfl⟩
  · -- The path ends within the prefix.
    rw [hf.prefix_eq fun c hc => hl.plain (hshort.subset hc), matchProxyRoute_short (hl.length ▸ hshort.length_le)] at hmatch
    cases hmatch
  · rw [List.prefix_append_right_inj] at hp
    rw [List.map_append, List.flatMap_append, hf.prefix_eq fun c hc => hl.plain hc] at hmatch
    rcases List.prefix_or_prefix_of_prefix hp (List.prefix_append backendId _) with hshort | ⟨v, rfl⟩
    · -- It ends within the identifier, without a slash behind it.
      rw [matchProxyRoute_none hl (hf.slash_notMem (fun h => hid (hshort.subset h)) fun h => hback (hshort.subset h))] at hmatch
      cases hmatch
    · rw [List.prefix_append_right_inj] at hp
      rcases v with _ | ⟨c, rest⟩
      · rw [List.append_nil, matchProxyRoute_none hl (hf.slash_notMem hid hback)] at hmatch
        cases hmatch
      · obtain ⟨rfl, hrest⟩ := List.cons_prefix_cons.mp hp
        have hslash : forwardSlash '/' = '/' := rfl
        have hne : (backendId.map forwardSlash).flatMap f ≠ [] := by
          intro hnil
          rw [List.map_append, List.flatMap_append, hnil, List.nil_append, List.map_cons, hslash, List.flatMap_cons,
            hf.kept '/' (by decide), List.singleton_append, matchProxyRoute_append hl] at hmatch
          simp at hmatch
        rw [List.map_append, List.flatMap_append, List.map_cons, hslash, List.flatMap_cons, hf.kept '/' (by decide),
          List.singleton_append, matchProxyRoute_some hl (hf.slash_notMem hid hback) hne] at hmatch
        simp only [Option.some.injEq, Prod.mk.injEq] at hmatch
        exact ⟨rest, hrest, rfl, hmatch.2.symm⟩

/-- The pathname that `url.parse` reads of a target that starts with one slash. -/
theorem urlPathname_eq (X : Express) {c : Char} (cs : List Char) (hc : c ≠ '/') (hback : c ≠ '\\') :
    ∃ f, Escapes f ∧ urlPathname X ('/' :: c :: cs) =
      (((('/' :: c :: cs).rdropWhile isUrlSpace).takeWhile inPath).map forwardSlash).flatMap f := by
  have hstart : ('/' :: c :: cs).dropWhile isUrlSpace = '/' :: c :: cs := rfl
  unfold urlPathname
  rw [hstart]
  generalize ht : ('/' :: c :: cs).rdropWhile isUrlSpace = t
  have hpre : t <+: '/' :: c :: cs := ht ▸ List.rdropWhile_prefix _ _
  obtain ⟨t', rfl⟩ : ∃ t', t = '/' :: t' := by
    rcases t with _ | ⟨d, t'⟩
    · rw [List.rdropWhile_eq_nil_iff] at ht
      exact absurd (ht '/' (by simp)) (by decide)
    · exact ⟨t', by rw [(List.cons_prefix_cons.mp hpre).1]⟩
  have hpre' : t' <+: c :: cs := (List.cons_prefix_cons.mp hpre).2
  have hforward : forwardSlashes ('/' :: t') = '/' :: forwardSlashes t' := rfl
  have htake := takeWhile_forwardSlashes ('/' :: t')
  rw [hforward] at htake ⊢
  dsimp only
  split
  · -- A simple path has no fragment.
    rename_i hsimple
    refine ⟨_, .none, ?_⟩
    rw [List.flatMap_singleton', ← htake]
    have hno : '#' ∉ '/' :: forwardSlashes t' := by
      intro hin
      simp [isSimplePath, hin] at hsimple
    refine takeWhile_congr fun d hd => ?_
    have hd' : d ≠ '#' := fun he => hno (he ▸ hd)
    simp [inPath, hd']
  · have hhost : namesHost ('/' :: forwardSlashes t') = false := by
      rcases t' with _ | ⟨d, t''⟩
      · rfl
      · obtain ⟨rfl, -⟩ := List.cons_prefix_cons.mp hpre'
        have hsecond : ∃ rest, forwardSlashes (d :: t'') = d :: rest := by
          rw [forwardSlashes, if_neg hback]
          split <;> exact ⟨_, rfl⟩
        obtain ⟨rest, hrest⟩ := hsecond
        rw [hrest]
        unfold namesHost
        split
        · rename_i heq
          simp only [List.cons.injEq, true_and] at heq
          exact absurd heq.1 hc
        · rfl
    rw [if_neg (by simp [hhost])]
    exact ⟨_, .auto, by rw [← htake]; rfl⟩

/-! ## Targets -/

namespace IncomingRequest

/-- What stands before the question mark of a target. -/
def rawPath (r : IncomingRequest) : List Char := r.url.toList.takeWhile (· ≠ '?')

/-- The query of a target with its question mark. -/
def search (r : IncomingRequest) : List Char := r.url.toList.dropWhile (· ≠ '?')

theorem search_head (r : IncomingRequest) : ∀ c ∈ r.search.head?, c = '?' := by
  intro c hc
  have hhead := List.head?_dropWhile_not (· ≠ '?') r.url.toList
  rw [show (r.url.toList.dropWhile (· ≠ '?')).head? = some c from hc] at hhead
  simpa using hhead

theorem url_eq (r : IncomingRequest) : r.url.toList = r.rawPath ++ r.search := List.takeWhile_append_dropWhile.symm

/-- The target is left to `url.parse`. -/
def LeftToUrlParse (r : IncomingRequest) : Prop := r.url.toList.tail.any leftToUrlParse = true

/-- The suffix is read as it is: it has no fragment, and if the target is left to `url.parse`, no back slash and no white space at
the end of the target. -/
structure KeepsSuffix (r : IncomingRequest) (suffix : List Char) : Prop where
  fragment : '#' ∉ suffix
  backSlash : r.LeftToUrlParse → '\\' ∉ suffix
  space : r.LeftToUrlParse → r.search = [] → ∀ c ∈ suffix.getLast?, isUrlSpace c = false

end IncomingRequest

/-- What the path of a target is without the white space at the target's end is all of it exactly if it has none there and no
fragment. -/
theorem trimmed_path {l suffix rest search : List Char} (hquery : '?' ∉ suffix) (hsearch : ∀ c ∈ search.head?, c = '?')
    (htrim : ((l ++ '/' :: suffix ++ search).rdropWhile isUrlSpace).takeWhile inPath = l ++ '/' :: rest) :
    rest = suffix ↔ '#' ∉ suffix ∧ (search = [] → ∀ c ∈ suffix.getLast?, isUrlSpace c = false) := by
  have hin (c : Char) (hc : c ∈ l ++ '/' :: rest) : inPath c = true := by
    rw [← htrim] at hc
    exact List.mem_takeWhile_imp hc
  have hparts := List.rdropWhile_append_rtakeWhile (p := isUrlSpace) (l := l ++ '/' :: suffix ++ search)
  have hspaces : ∀ c ∈ (l ++ '/' :: suffix ++ search).rtakeWhile isUrlSpace, isUrlSpace c = true :=
    fun c hc => List.mem_rtakeWhile_imp hc
  constructor
  · rintro rfl
    refine ⟨fun hmem => ?_, fun hnil c hc => ?_⟩
    · have hno := hin '#' (by simp [hmem])
      cases hno
    · -- Without a query the path is all there is, and nothing of it is dropped.
      subst hnil
      rw [List.append_nil] at htrim hparts
      have hpre : l ++ '/' :: rest <+: (l ++ '/' :: rest).rdropWhile isUrlSpace := by
        rw [← htrim]
        exact (List.takeWhile_prefix _).trans (by rw [htrim])
      have hall : (l ++ '/' :: rest).rdropWhile isUrlSpace = l ++ '/' :: rest :=
        (List.rdropWhile_prefix _ _).eq_of_length_le hpre.length_le
      have hlast : (l ++ '/' :: rest).getLast? = some c := by
        rw [List.getLast?_append, List.getLast?_cons, show rest.getLast? = some c from hc]
        rfl
      have hne : l ++ '/' :: rest ≠ [] := by simp
      have hno := List.rdropWhile_eq_self_iff.mp hall hne
      rw [List.getLast?_eq_some_getLast hne, Option.some_inj] at hlast
      rw [hlast] at hno
      exact Bool.eq_false_iff.mpr hno
  · rintro ⟨hfragment, hspace⟩
    generalize (l ++ '/' :: suffix ++ search).rdropWhile isUrlSpace = t at htrim hparts
    generalize (l ++ '/' :: suffix ++ search).rtakeWhile isUrlSpace = w at hparts hspaces
    have hpath : l ++ '/' :: suffix <+: t := by
      rcases List.prefix_or_prefix_of_prefix (List.prefix_append (l ++ '/' :: suffix) search)
        (hparts ▸ List.prefix_append t w) with hpre | ⟨v, hv⟩
      · exact hpre
      · -- What is dropped is white space, and neither the query nor the end of the path is.
        have hw : w = v ++ search := by
          rw [← hv, List.append_assoc] at hparts
          exact List.append_cancel_left hparts
        rcases search with _ | ⟨c, query⟩
        · rcases hlast : v.getLast? with _ | x
          · rw [List.getLast?_eq_none_iff] at hlast
            rw [← hv, hlast, List.append_nil]
          · have hx := hspaces x (by rw [hw, List.append_nil]; exact List.mem_of_getLast? hlast)
            have hend := congrArg List.getLast? hv
            rw [List.getLast?_append, hlast, Option.some_or, List.getLast?_append, List.getLast?_cons, Option.some_or,
              Option.some_inj] at hend
            rcases hsuffix : suffix.getLast? with _ | y
            · rw [hsuffix] at hend
              rw [hend] at hx
              cases hx
            · rw [hsuffix] at hend
              have hy := hspace rfl y hsuffix
              rw [hend] at hx
              exact absurd hx (by simp [hy])
        · obtain rfl := hsearch c rfl
          have hx := hspaces '?' (by simp [hw])
          cases hx
    obtain ⟨v, rfl⟩ := hpath
    have hplain : ∀ c ∈ l ++ '/' :: suffix, inPath c = true := by
      intro c hc
      rcases List.mem_append.mp hc with hc | hc
      · exact hin c (List.mem_append_left _ hc)
      · rcases List.mem_cons.mp hc with rfl | hc
        · rfl
        · have hquestion : c ≠ '?' := fun he => hquery (he ▸ hc)
          have hhash : c ≠ '#' := fun he => hfragment (he ▸ hc)
          simp [inPath, hquestion, hhash]
    have hstop : v.takeWhile inPath = [] := by
      rw [List.append_assoc] at hparts
      have hv := List.append_cancel_left hparts
      rcases v with _ | ⟨c, v⟩
      · rfl
      · obtain rfl := hsearch c (by rw [← hv]; rfl)
        rfl
    rw [List.takeWhile_append_of_pos hplain, hstop, List.append_nil] at htrim
    simpa using htrim.symm

/-- A beginning of a target that has no question mark is one of its path. -/
theorem path_prefix {r : IncomingRequest} {p : List Char} (hp : p <+: r.url.toList) (hin : ∀ c ∈ p, inPath c = true) :
    p <+: r.rawPath := by
  rw [r.url_eq] at hp
  rcases List.prefix_or_prefix_of_prefix hp (List.prefix_append r.rawPath r.search) with h | ⟨v, rfl⟩
  · exact h
  · rw [List.prefix_append_right_inj] at hp
    rcases v with _ | ⟨c, v⟩
    · rw [List.append_nil]
    · obtain ⟨query, hquery⟩ := hp
      obtain rfl := r.search_head c (by rw [← hquery]; rfl)
      have hquestion := hin '?' (by simp)
      cases hquestion

/-- What Express captures of a target that has the form of the route decodes as a text no longer than the suffix, which is the
suffix exactly if that is read as it is. -/
theorem captured_suffix {X : Express} {r : IncomingRequest} {backendId suffix backendId' suffix' : List Char}
    (hraw : matchProxyRoute r.rawPath = some (backendId, suffix)) (hback : '\\' ∉ backendId)
    (hmatch : matchProxyRoute (r.path X) = some (backendId', suffix')) :
    ∃ left : List Char, left.length ≤ suffix.length ∧
      PercentEncoding.decodeURIComponent (String.ofList suffix') = PercentEncoding.decodeURIComponent (String.ofList left) ∧
      (left = suffix ↔ r.KeepsSuffix suffix) := by
  obtain ⟨hpath, hid, -⟩ := matchProxyRoute_eq hraw
  have hprefix : IsPrefix (r.rawPath.take PROXY_PREFIX.length) := matchProxyRoute_prefix hraw
  have hquestion : '?' ∉ suffix := by
    intro hmem
    have hin : '?' ∈ r.rawPath := by
      rw [hpath]
      exact List.mem_append_right _ (List.mem_cons_of_mem _ hmem)
    simpa using List.mem_takeWhile_imp hin
  generalize r.rawPath.take PROXY_PREFIX.length = l at hpath hprefix
  have hurl : r.url.toList = l ++ backendId ++ '/' :: suffix ++ r.search := by rw [r.url_eq, hpath]
  obtain ⟨c, cs, hcs, hc, hc'⟩ : ∃ c cs, r.url.toList = '/' :: c :: cs ∧ c ≠ '/' ∧ c ≠ '\\' := by
    rcases l with _ | ⟨d, _ | ⟨c, l⟩⟩
    · exact absurd hprefix.length (show ¬ 0 = PROXY_PREFIX.length by decide)
    · exact absurd hprefix.length (show ¬ 1 = PROXY_PREFIX.length by decide)
    · have hprefix' : d.toLower :: c.toLower :: l.map Char.toLower = '/' :: 'a' :: PROXY_PREFIX.drop 2 := hprefix
      simp only [List.cons.injEq] at hprefix'
      have hslash : d = '/' := toLower_eq_slash hprefix'.1
      refine ⟨c, _, by rw [hurl, hslash]; rfl, ?_, ?_⟩
      · rintro rfl
        exact absurd hprefix'.2.1 (by decide)
      · rintro rfl
        exact absurd hprefix'.2.1 (by decide)
  have hhead : r.url.toList.head? = some '/' := by rw [hcs]; rfl
  unfold IncomingRequest.path parseurlPathname at hmatch
  by_cases hleft : r.LeftToUrlParse
  · have hany : r.url.toList.tail.any leftToUrlParse = true := hleft
    rw [if_pos (Or.inr hany), hcs] at hmatch
    obtain ⟨f, hf, hpathname⟩ := urlPathname_eq X cs hc hc'
    rw [hpathname, ← hcs] at hmatch
    have hpre : (r.url.toList.rdropWhile isUrlSpace).takeWhile inPath <+: l ++ (backendId ++ '/' :: suffix) := by
      rw [← List.append_assoc, ← hpath]
      exact path_prefix ((List.takeWhile_prefix _).trans (List.rdropWhile_prefix _ _)) fun c hc => List.mem_takeWhile_imp hc
    obtain ⟨rest, hrest, htrim, rfl⟩ := escaped_captures hf hprefix hid hback hpre hmatch
    refine ⟨rest.map forwardSlash, ?_, hf.decoded _, ?_⟩
    · rw [List.length_map]
      exact hrest.length_le
    · rw [hurl] at htrim
      have hwhole := trimmed_path (l := l ++ backendId) hquestion r.search_head (by rw [htrim, List.append_assoc])
      constructor
      · intro hsame
        have hrest' : rest = suffix := hrest.eq_of_length (by rw [← hsame, List.length_map])
        obtain ⟨hfragment, hspace⟩ := hwhole.mp hrest'
        refine ⟨hfragment, fun _ hmem => ?_, fun _ => hspace⟩
        rw [← hsame] at hmem
        obtain ⟨d, -, hd⟩ := List.mem_map.mp hmem
        unfold forwardSlash at hd
        split at hd
        · cases hd
        · contradiction
      · intro hkeeps
        obtain rfl := hwhole.mpr ⟨hkeeps.fragment, hkeeps.space hleft⟩
        have hkept (d : Char) (hd : d ∈ rest) : forwardSlash d = id d := by
          have hne : d ≠ '\\' := fun he => hkeeps.backSlash hleft (he ▸ hd)
          exact if_neg hne
        rw [List.map_congr_left hkept, List.map_id]
  · have hany : ¬ (r.url.toList.head? ≠ some '/' ∨ r.url.toList.tail.any leftToUrlParse = true) :=
      fun h => h.elim (fun hne => hne hhead) hleft
    rw [if_neg hany] at hmatch
    have hsame : matchProxyRoute r.rawPath = some (backendId', suffix') := hmatch
    rw [hraw, Option.some_inj, Prod.mk.injEq] at hsame
    obtain ⟨rfl, rfl⟩ := hsame
    refine ⟨suffix, Nat.le_refl _, rfl, iff_of_true rfl ⟨fun hmem => hleft ?_, fun h => absurd h hleft, fun h => absurd h hleft⟩⟩
    have hin : '#' ∈ r.url.toList := by
      rw [hurl]
      simp [hmem]
    rw [hcs] at hin
    refine List.any_eq_true.mpr ⟨'#', ?_, rfl⟩
    rw [hcs]
    exact (List.mem_cons.mp hin).resolve_left (by decide)

/-- The bytes of a target, which the HTTP parser reads as Latin-1. -/
def targetBytes (l : List Char) : Bytes := l.map (fun c => c.toNat.toUInt8)

/-- The frame asks for the suffix and the query as they came, and the scope an application gets for it has the suffix decoded
once, and both in their original bytes. -/
structure AsksFor (r : IncomingRequest) (suffix : List Char) (target : String) : Prop where
  frame : target = String.ofList ('/' :: suffix ++ r.search)
  scope : ∀ extraHeaders method headers scope, Python.asgiScope extraHeaders (.ofFrame method target headers) = some scope →
    scope.path = "/" ++ PercentEncoding.unquote (String.ofList suffix) ∧ scope.raw_path = targetBytes ('/' :: suffix) ∧
      scope.query_string = targetBytes r.search.tail

/-- The parts of a scope that are made of the target. -/
theorem asgiScope_target {extraHeaders : InsertionMap String String} {request : Python.HttpStreamRequest}
    {scope : Python.AsgiScope} (h : Python.asgiScope extraHeaders request = some scope) :
    scope.path = PercentEncoding.unquote (Python.partitionQuery request.path).1 ∧
      scope.raw_path = Python.encodeLatin1 (Python.partitionQuery request.path).1 ∧
      scope.query_string = Python.encodeLatin1 (Python.partitionQuery request.path).2 := by
  obtain ⟨headers, -, rfl⟩ := Option.map_eq_some_iff.mp h
  exact ⟨rfl, rfl, rfl⟩

theorem encodeLatin1_ofList {l : List Char} (h : ∀ c ∈ l, c.toNat < 256) :
    Python.encodeLatin1 (String.ofList l) = targetBytes l := by
  unfold Python.encodeLatin1 targetBytes
  rw [String.toList_ofList]
  refine List.map_congr_left fun c hc => ?_
  rw [if_pos (h c hc)]

theorem partitionQuery_ofList {path search : List Char} (hpath : '?' ∉ path) (hsearch : ∀ c ∈ search.head?, c = '?') :
    Python.partitionQuery (String.ofList (path ++ search)) = (String.ofList path, String.ofList search.tail) := by
  have hplain : ∀ c ∈ path, decide (c ≠ '?') = true := fun c hc => by
    simp only [decide_eq_true_eq]
    rintro rfl
    exact hpath hc
  have hrest : search.takeWhile (fun c => decide (c ≠ '?')) = [] ∧ search.dropWhile (fun c => decide (c ≠ '?')) = search := by
    rcases search with _ | ⟨c, rest⟩
    · exact ⟨rfl, rfl⟩
    · obtain rfl := hsearch c rfl
      exact ⟨rfl, rfl⟩
  unfold Python.partitionQuery
  rw [String.toList_ofList, List.takeWhile_append_of_pos hplain, List.dropWhile_append_of_pos hplain, hrest.1, hrest.2,
    List.append_nil]

/-- The target path of a dispatched request asks for what its target says exactly if the suffix is read as it is and nothing in it
is encoded. -/
theorem asksFor_iff {X : Express} {r : IncomingRequest} {request : ProxyRequest} {outcome : ParserOutcome}
    (h : dispatch X r = .proxy request outcome) (hlatin : ∀ c ∈ r.url.toList, c.toNat < 256) {backendId suffix : List Char}
    (hraw : matchProxyRoute r.rawPath = some (backendId, suffix)) (hback : '\\' ∉ backendId) :
    AsksFor r suffix (targetPath request) ↔ '%' ∉ suffix ∧ r.KeepsSuffix suffix := by
  obtain ⟨hurl, id', suffix', hmatch, hdecoded⟩ := dispatch_captures h
  obtain ⟨left, hle, hleft, hkeeps⟩ := captured_suffix hraw hback hmatch
  rw [hleft] at hdecoded
  have htarget : targetPath request = "/" ++ request.suffix ++ String.ofList r.search := by
    rw [targetPath, hurl, IncomingRequest.search]
  have hframe_eq : String.ofList ('/' :: suffix ++ r.search) = "/" ++ String.ofList suffix ++ String.ofList r.search := by
    rw [String.ofList_append, String.ofList_cons]
    rfl
  constructor
  · intro hasks
    have hsuffix : request.suffix = String.ofList suffix := by
      have hframe := hasks.frame
      rwa [htarget, hframe_eq, String.append_left_inj, String.append_right_inj] at hframe
    rw [hsuffix] at hdecoded
    have hplain : '%' ∉ left := by
      intro hpercent
      have hlt := PercentEncoding.decodeURIComponent_length_lt (by rwa [String.toList_ofList]) hdecoded
      rw [String.toList_ofList, String.toList_ofList] at hlt
      omega
    rw [PercentEncoding.decodeURIComponent_plain (by rwa [String.toList_ofList]), Option.some_inj] at hdecoded
    have hsame : left = suffix := String.ofList_injective hdecoded
    exact ⟨hsame ▸ hplain, hkeeps.mp hsame⟩
  · rintro ⟨hplain, hkept⟩
    obtain rfl := hkeeps.mpr hkept
    have hsuffix : request.suffix = String.ofList left := by
      rw [PercentEncoding.decodeURIComponent_plain (by rwa [String.toList_ofList])] at hdecoded
      exact (Option.some.inj hdecoded).symm
    have hframe : targetPath request = String.ofList ('/' :: left ++ r.search) := by rw [htarget, hframe_eq, hsuffix]
    refine ⟨hframe, fun extraHeaders method headers scope hscope => ?_⟩
    have hpath_eq := (matchProxyRoute_eq hraw).1
    have hquestion : '?' ∉ '/' :: left := by
      intro hmem
      have hin : '?' ∈ r.rawPath := by
        rw [hpath_eq]
        exact List.mem_append_right _ hmem
      simpa using List.mem_takeWhile_imp hin
    have hpartition := partitionQuery_ofList hquestion r.search_head
    have hnonempty : targetPath request ≠ "" := by
      rw [hframe]
      simp
    have hpath : ∀ c ∈ '/' :: left, c.toNat < 256 := by
      intro c hc
      have hin : c ∈ r.rawPath := by
        rw [hpath_eq]
        exact List.mem_append_right _ hc
      exact hlatin c ((List.takeWhile_subset _) hin)
    have hquery : ∀ c ∈ r.search.tail, c.toNat < 256 := fun c hc =>
      hlatin c ((List.dropWhile_sublist _).subset (List.mem_of_mem_tail hc))
    have hpath' : (Python.HttpStreamRequest.ofFrame method (targetPath request) headers).path =
        String.ofList ('/' :: left ++ r.search) := by
      unfold Python.HttpStreamRequest.ofFrame
      rw [if_neg hnonempty, hframe]
    obtain ⟨hscope, hraw_path, hquery_string⟩ := asgiScope_target hscope
    rw [hpath', hpartition] at hscope hraw_path hquery_string
    refine ⟨hscope.trans ?_, hraw_path.trans (encodeLatin1_ofList hpath), hquery_string.trans (encodeLatin1_ofList hquery)⟩
    exact PercentEncoding.unquote_cons_plain (by decide) left

/-- Every request frame of a run carries the target path of a request of the run. That of a request Express dispatches asks for
the target as it came, exactly if the suffix of the target is read as it is and has nothing encoded. -/
theorem proxy_target_faithful_iff (Γ : Ctx) (storage : Storage) :
    (∀ es ws method path headers, .sendHttp ws (.request method path headers) ∈ ((gateway Γ storage).run es).net.outbox →
      ∃ request, Proxied es request ∧ method = request.method ∧ path = targetPath request ∧
        headers = forwardedHeaders request.headers) ∧
    ∀ X r request outcome, dispatch X r = .proxy request outcome → (∀ c ∈ r.url.toList, c.toNat < 256) →
      ∀ backendId suffix, matchProxyRoute r.rawPath = some (backendId, suffix) → '\\' ∉ backendId →
        (AsksFor r suffix (targetPath request) ↔ '%' ∉ suffix ∧ r.KeepsSuffix suffix) := by
  refine ⟨fun es ws method path headers ho => ?_, fun X r request outcome h hlatin backendId suffix hraw hback => ?_⟩
  · obtain ⟨ws', request, hproxied, he⟩ := (asks_run es).requests _ (List.mem_filter.mpr ⟨ho, rfl⟩)
    cases he
    exact ⟨request, hproxied, rfl, rfl, rfl⟩
  · exact asksFor_iff h hlatin hraw hback

/-- A request whose suffix has an encoded slash. -/
def sampleEncoded : IncomingRequest :=
  { ip := "127.0.0.1"
    method := "GET"
    url := "/api/proxy/B/a%2Fb?q=1"
    headers := sampleRequest.headers
    body := [] }

/-- The request that it is to the proxy. -/
def sampleDecoded : ProxyRequest :=
  { ip := "127.0.0.1"
    method := "GET"
    headers := sampleEncoded.headers
    backendId := "B"
    suffix := "a/b"
    url := "/api/proxy/B/a%2Fb?q=1" }

theorem proxy_target_faithful_iff_sample :
    AsksFor { sampleEncoded with url := "/api/proxy/B/a?q=%2F#f" } ['a']
      (targetPath { sampleDecoded with suffix := "a", url := "/api/proxy/B/a?q=%2F#f" }) := by
  have hdispatch : dispatch sampleExpress { sampleEncoded with url := "/api/proxy/B/a?q=%2F#f" } =
      .proxy { sampleDecoded with suffix := "a", url := "/api/proxy/B/a?q=%2F#f" } .untouched := rfl
  have hlatin : "/api/proxy/B/a?q=%2F#f".toList.all (fun c => c.toNat < 256) = true := by decide
  refine ((proxy_target_faithful_iff (Ctx.sample []) sampleStorage).2 _ _ _ _ hdispatch
    (fun c hc => of_decide_eq_true (List.all_eq_true.mp hlatin c hc)) ['B'] ['a'] (by decide) (by decide)).mpr ⟨by decide, ?_⟩
  exact ⟨by decide, fun _ => by decide, fun _ h => absurd h (by decide)⟩

/-- An encoded slash reaches the backend as a slash. -/
theorem encoded_target_decoded : ¬ ∀ X r request outcome backendId suffix,
    dispatch X r = .proxy request outcome → matchProxyRoute r.rawPath = some (backendId, suffix) →
      AsksFor r suffix (targetPath request) := by
  intro h
  have hdispatch : dispatch sampleExpress sampleEncoded = .proxy sampleDecoded .untouched := rfl
  have hframe := (h _ _ _ _ ['B'] "a%2Fb".toList hdispatch (by decide)).frame
  exact absurd hframe (by decide)

end ZclaudiaGateway
