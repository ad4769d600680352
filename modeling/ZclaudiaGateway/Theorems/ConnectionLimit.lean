import Mathlib.Data.Set.Card
import ZclaudiaGateway.Lemmas.Connections
import ZclaudiaGateway.Lemmas.RelayRun
import ZclaudiaGateway.Lemmas.Ops

/-!
# The connections of an address

The gateway counts the control connections of every client address and admits no more than `MAX_WS_CONNECTIONS_PER_IP` of them.
The count is kept apart from the sockets: one more when a connection is admitted, one less at its `close` event. `Balanced` says
that it is right, and that an address without connections has none.
-/

namespace ZclaudiaGateway

/-- The socket is a control connection of the address, and its `close` event is still to come. -/
def WsSocket.Counts (ip : String) (k : WsSocket) : Prop :=
  (∃ conn, k.listener = .control conn ∧ conn.ip = ip) ∧ k.readyState ≠ .closed

/-- The socket counts for the same address, or for none. -/
def WsSocket.SameCount (k k' : WsSocket) : Prop := ∀ ip, k'.Counts ip ↔ k.Counts ip

theorem WsSocket.SameCount.of_eq {k k' : WsSocket} (hl : k'.listener = k.listener)
    (hstate : k'.readyState = .closed ↔ k.readyState = .closed) : k.SameCount k' := by
  intro ip
  unfold WsSocket.Counts
  rw [hl, ne_eq, ne_eq, hstate]

theorem WsSocket.SameCount.refl (k : WsSocket) : k.SameCount k := fun _ => Iff.rfl

/-- A socket that is no control connection counts for none. -/
theorem WsSocket.SameCount.of_others {k k' : WsSocket} (hl : ∀ conn, k.listener ≠ .control conn)
    (hl' : ∀ conn, k'.listener ≠ .control conn) : k.SameCount k' := by
  intro ip
  constructor
  · rintro ⟨⟨conn, h, -⟩, -⟩
    exact absurd h (hl' conn)
  · rintro ⟨⟨conn, h, -⟩, -⟩
    exact absurd h (hl conn)

namespace Gateway

variable {Γ : Ctx} {e : Event} {storage : Storage} {s t u : Gateway}

/-- The control connections of an address. -/
def connections (s : Gateway) (ip : String) : Set SocketId := {ws | ∃ k, s.net.sockets.get ws = some k ∧ k.Counts ip}

/-- The table has the number of connections of every address that has any, and these are not too many. -/
structure Balanced (s : Gateway) : Prop where
  finite : ∀ ip, (s.connections ip).Finite
  counted : ∀ ip, s.wsConnectionsPerIp.get ip = if (s.connections ip).ncard = 0 then none else some (s.connections ip).ncard
  limited : ∀ ip, (s.connections ip).ncard ≤ MAX_WS_CONNECTIONS_PER_IP

/-- The connections and their table stay. -/
structure CountsKeep (s t : Gateway) : Prop where
  table : t.wsConnectionsPerIp = s.wsConnectionsPerIp
  sockets : ∀ ip, t.connections ip = s.connections ip

theorem CountsKeep.refl (s : Gateway) : s.CountsKeep s := ⟨rfl, fun _ => rfl⟩

theorem CountsKeep.of_pointwise (table : t.wsConnectionsPerIp = s.wsConnectionsPerIp)
    (h : s.net.sockets.Pointwise WsSocket.SameCount t.net.sockets) : s.CountsKeep t := by
  refine ⟨table, fun ip => Set.ext fun ws => ?_⟩
  constructor
  · rintro ⟨k', hk', hcounts⟩
    obtain ⟨k, hk, hsame⟩ := h.some_get hk'
    exact ⟨k, hk, (hsame ip).mp hcounts⟩
  · rintro ⟨k, hk, hcounts⟩
    obtain ⟨k', hk', hsame⟩ := h.get_some hk
    exact ⟨k', hk', (hsame ip).mpr hcounts⟩

theorem CountsKeep.of_eq (table : t.wsConnectionsPerIp = s.wsConnectionsPerIp) (h : t.net.sockets = s.net.sockets) :
    s.CountsKeep t := by
  refine .of_pointwise table ?_
  rw [h]
  exact .refl WsSocket.SameCount.refl _

theorem Balanced.keep (hs : s.Balanced) (h : s.CountsKeep t) : t.Balanced :=
  ⟨fun ip => h.sockets ip ▸ hs.finite ip, fun ip => by rw [h.table, h.sockets]; exact hs.counted ip,
    fun ip => h.sockets ip ▸ hs.limited ip⟩

theorem Balanced.getD (hs : s.Balanced) (ip : String) : (s.wsConnectionsPerIp.get ip).getD 0 = (s.connections ip).ncard := by
  rw [hs.counted]
  split
  · rename_i hzero
    rw [hzero]
    rfl
  · rfl

/-! ## The operations that keep the connections -/

theorem modifyConn_sameCount {f : ControlConn → ControlConn} (hf : ∀ conn, (f conn).ip = conn.ip) (ws : SocketId) (net : Net) :
    net.sockets.Pointwise WsSocket.SameCount (modifyConn ws f net).sockets := by
  refine .modify WsSocket.SameCount.refl fun k _ ip => ?_
  rcases hl : k.listener with _ | conn | leg | ⟨id, ex⟩
  · rfl
  · simp [WsSocket.Counts, hl, hf]
  · rfl
  · rfl

theorem sameCount_of_op {net net' : Net} (h : net.Op net') : net.sockets.Pointwise WsSocket.SameCount net'.sockets := by
  have hmodify {f : WsSocket → WsSocket} (ws : SocketId) (hf : ∀ k, net.sockets.get ws = some k → k.SameCount (f k)) :
      net.sockets.Pointwise WsSocket.SameCount (net.sockets.modify ws f) :=
    .modify WsSocket.SameCount.refl hf
  have hopen {ws : SocketId} (hstate : net.readyState ws ≠ .closed) (k : WsSocket) (hk : net.sockets.get ws = some k) :
      k.SameCount { k with readyState := .closing } := by
    rw [Net.readyState_eq hk] at hstate
    exact .of_eq rfl (by simp [hstate])
  cases h with
  | send ws hm =>
    rw [Net.sendToWs_sockets]
    exact .refl WsSocket.SameCount.refl _
  | ping ws =>
    unfold Net.ping
    split
    · exact .refl WsSocket.SameCount.refl _
    · exact .refl WsSocket.SameCount.refl _
  | close ws code reason =>
    rw [Net.close_sockets]
    split
    · rename_i hstate
      exact hmodify ws (hopen (by simp [hstate]))
    · exact .refl WsSocket.SameCount.refl _
  | terminate ws =>
    unfold Net.terminate
    split
    · exact .refl WsSocket.SameCount.refl _
    · rename_i hstate
      exact hmodify ws (hopen hstate)
  | pause ws =>
    unfold Net.pause
    split
    · exact .refl WsSocket.SameCount.refl _
    · exact hmodify ws fun k _ => .of_eq rfl Iff.rfl
  | resume ws =>
    unfold Net.resume
    split
    · exact .refl WsSocket.SameCount.refl _
    · exact hmodify ws fun k _ => .of_eq rfl Iff.rfl
  | closing ws hstate => exact hmodify ws (hopen hstate)
  | grace ws replacedGrace => exact hmodify ws fun k _ => .of_eq rfl Iff.rfl
  | conn ws hf => exact modifyConn_sameCount hf ws net
  | emit ho => exact .refl WsSocket.SameCount.refl _

theorem CountsKeep.teardown (reason : ChannelClosedReason) (channelId : String) (s : Gateway) :
    s.CountsKeep (s.teardownChannel reason channelId) := by
  rcases hc : s.channels.get channelId with _ | ch
  · rw [teardownChannel_of_none _ _ _ hc]
    exact .refl s
  · have htable : (s.teardownChannel reason channelId).wsConnectionsPerIp = s.wsConnectionsPerIp := by
      unfold teardownChannel
      rw [hc]
    refine .of_pointwise htable fun ws => ?_
    rw [teardownChannel_socket reason s channelId hc]
    rcases s.net.sockets.get ws with _ | k
    · simp only [Option.map_none, ite_self]
      exact .none
    · split
      · refine .some (.of_eq (WsSocket.torn_listener k) ?_)
        unfold WsSocket.torn
        split
        · rfl
        · rename_i hstate
          simp [hstate]
      · exact .some (.refl k)

theorem CountsKeep.moves {ws : SocketId} (table : t.wsConnectionsPerIp = s.wsConnectionsPerIp) (h : s.LegMoves ws t) :
    s.CountsKeep t := by
  refine .of_pointwise table (h.sockets WsSocket.SameCount.refl fun k leg leg' paused hl _ => ?_)
  exact .of_others (by simp [hl]) (by simp)

theorem pairLegs_connections (channelId : String) (ch : ChannelRecord) (s : Gateway) :
    (s.pairLegs channelId ch).wsConnectionsPerIp = s.wsConnectionsPerIp := by
  unfold pairLegs
  split
  · simp [onChannel]
  · simp [onChannel, wireChannel]
  · rfl

theorem CountsKeep.attach (hL : s.Legs) (fresh : s.Fresh Γ) {channelId : String} {role : ChannelRole} {ch : ChannelRecord}
    (hc : s.channels.get channelId = some ch) (hp : ch.piped = false) (hfree : ch.leg role = none)
    (hlegs : (s.attachLeg channelId role).Legs) : s.CountsKeep (s.attachLeg channelId role) := by
  have htable : (s.attachLeg channelId role).wsConnectionsPerIp = s.wsConnectionsPerIp := by
    unfold attachLeg
    rw [hc, pairLegs_connections]
    rfl
  have hdata {k : WsSocket} (hl : k.listener = .none ∨ k.listener.channel? = some channelId) (conn : ControlConn) :
      k.listener ≠ .control conn := by
    rintro heq
    rw [heq] at hl
    rcases hl with hl | hl
    · cases hl
    · cases hl
  have hold {ws : SocketId} {k k' : WsSocket} (hk : s.net.sockets.get ws = some k)
      (hk' : (s.attachLeg channelId role).net.sockets.get ws = some k') : k.SameCount k' := by
    rcases attachLeg_socket hL fresh hc hp hfree hk' with ⟨hd, -⟩ | ⟨k0, hk0, hstate, -⟩
    · exact absurd hd (ne_of_lt (fresh.sockets _ _ hk))
    · obtain rfl := Option.some.inj (hk.symm.trans hk0)
      obtain ⟨k1, hk1, hlistener⟩ := attachLeg_forth channelId role fresh hk
      obtain rfl := Option.some.inj (hk'.symm.trans hk1)
      rcases hlistener with hsame | hwired
      · exact .of_eq hsame (by rw [hstate])
      · exact .of_others (hdata (Or.inl (attachLeg_unheard hL fresh hc hp hlegs hk hk' hwired))) (hdata (Or.inr hwired))
  refine ⟨htable, fun ip => Set.ext fun ws => ?_⟩
  constructor
  · rintro ⟨k', hk', hcounts⟩
    rcases (attachLeg_listener _ _ _ hk').1 with rfl | ⟨k, hk⟩
    · obtain ⟨⟨conn, hl, -⟩, -⟩ := hcounts
      rcases (attachLeg_listener _ _ _ hk').2 with hnone | hwired | ⟨k, hk, -⟩
      · exact absurd hl (hdata (Or.inl hnone) conn)
      · exact absurd hl (hdata (Or.inr hwired) conn)
      · exact absurd rfl (ne_of_lt (fresh.sockets _ _ hk))
    · exact ⟨k, hk, (hold hk hk' ip).mp hcounts⟩
  · rintro ⟨k, hk, hcounts⟩
    obtain ⟨k', hk', -⟩ := attachLeg_forth channelId role fresh hk
    exact ⟨k', hk', (hold hk hk' ip).mpr hcounts⟩

theorem CountsKeep.dial (hA : s.Admission) (hL : s.Legs) (fresh : s.Fresh Γ) (channelId : String) (ticket : Option String)
    (handshakeOk : Bool) : s.CountsKeep (s.handleChannelUpgrade channelId ticket handshakeOk) := by
  have hlegs := hL.dial hA fresh channelId ticket handshakeOk
  rcases handleChannelUpgrade_cases s channelId ticket handshakeOk with he | ⟨found, ch, ht, rfl, hc, -, he⟩
  · rw [he]
    exact .of_eq rfl rfl
  · rw [he] at hlegs ⊢
    obtain ⟨hp, hfree, -⟩ := hA.not_piped ht hc
    have hfresh : (s.consumeTicket (ticket.getD "")).Fresh Γ := FreshUpTo.consumeTicket fresh _
    have hconsumed : (s.consumeTicket (ticket.getD "")).Legs :=
      hL.keeps (fun _ => rfl) (.refl WsSocket.Keeps.refl _) (.refl HttpExchange.SameBridge.refl _)
    have hkeep := CountsKeep.attach hconsumed hfresh hc hp hfree hlegs
    exact ⟨hkeep.table, hkeep.sockets⟩

/-! ## Connections that come and go -/

/-- A connection is admitted and counted, or refused and not counted. -/
theorem Balanced.connect (hs : s.Balanced) (fresh : s.Fresh Γ) (ip : String) : (s.controlConnection ip).Balanced := by
  have hnew (ip' : String) : s.drawn ∉ s.connections ip' := by
    rintro ⟨k, hk, -⟩
    exact absurd rfl (ne_of_lt (fresh.sockets _ _ hk))
  obtain ⟨k0, hk0, hget⟩ := controlConnection_socket s ip
  have hmem (ip' : String) (ws : SocketId) : ws ∈ (s.controlConnection ip).connections ip' ↔
      ws = s.drawn ∧ k0.Counts ip' ∨ ws ∈ s.connections ip' := by
    unfold connections
    rw [Set.mem_ofPred_eq, Set.mem_ofPred_eq, hget]
    by_cases hw : ws = s.drawn
    · have hnone : ¬ ∃ k, s.net.sockets.get ws = some k ∧ k.Counts ip' := hw ▸ hnew ip'
      simp [hw ▸ hnone, hw]
    · simp [hw]
  rcases hk0 with ⟨hroom, hstate, -, hl⟩ | ⟨hfull, hstate, -, hl⟩
  · have htable : (s.controlConnection ip).wsConnectionsPerIp =
        s.wsConnectionsPerIp.set ip ((s.wsConnectionsPerIp.get ip).getD 0 + 1) := by
      unfold controlConnection
      rw [if_neg (Nat.not_le.mpr hroom)]
      rfl
    have hset (ip' : String) : (s.controlConnection ip).connections ip' =
        if ip' = ip then insert s.drawn (s.connections ip) else s.connections ip' := by
      ext ws
      rw [hmem]
      by_cases hip : ip' = ip
      · simp [hip, WsSocket.Counts, hl, hstate]
      · simp [hip, WsSocket.Counts, hl, Ne.symm hip]
    have hcard : (insert s.drawn (s.connections ip)).ncard = (s.connections ip).ncard + 1 :=
      Set.ncard_insert_of_notMem (hnew ip) (hs.finite ip)
    rw [hs.getD] at hroom htable
    refine ⟨fun ip' => ?_, fun ip' => ?_, fun ip' => ?_⟩
    · rw [hset]
      split
      · exact (hs.finite ip).insert _
      · exact hs.finite ip'
    · rw [hset, htable, InsertionMap.get_set]
      split
      · rw [hcard]
        rfl
      · exact hs.counted ip'
    · rw [hset]
      split
      · rw [hcard]
        exact hroom
      · exact hs.limited ip'
  · have htable : (s.controlConnection ip).wsConnectionsPerIp = s.wsConnectionsPerIp := by
      unfold controlConnection
      rw [if_pos hfull]
      rfl
    refine hs.keep ⟨htable, fun ip' => ?_⟩
    ext ws
    rw [hmem]
    simp [WsSocket.Counts, hl]

/-- A control socket is closed, and its connection is no longer counted. -/
theorem Balanced.hangUp (hs : s.Balanced) {ws : SocketId} {k : WsSocket} {conn : ControlConn} (hk : s.net.sockets.get ws = some k)
    (hl : k.listener = .control conn) (hopen : k.readyState ≠ .closed)
    (htable : t.wsConnectionsPerIp =
      if (s.wsConnectionsPerIp.get conn.ip).getD 1 ≤ 1 then s.wsConnectionsPerIp.delete conn.ip
      else s.wsConnectionsPerIp.set conn.ip ((s.wsConnectionsPerIp.get conn.ip).getD 1 - 1))
    (hnet : t.net = clearAuthTimeout ws (s.net.modifySocket ws (fun k => { k with readyState := .closed }))) : t.Balanced := by
  have hmem : ws ∈ s.connections conn.ip := ⟨k, hk, ⟨conn, hl, rfl⟩, hopen⟩
  have hget (w : SocketId) (hw : w ≠ ws) : t.net.sockets.get w = s.net.sockets.get w := by
    rw [hnet, clearAuthTimeout, modifyConn, Net.modifySocket, Net.modifySocket, InsertionMap.get_modify_of_ne hw,
      InsertionMap.get_modify_of_ne hw]
  have hclosed {k' : WsSocket} (hk' : t.net.sockets.get ws = some k') : k'.readyState = .closed := by
    rw [hnet, clearAuthTimeout, modifyConn, Net.modifySocket, Net.modifySocket, InsertionMap.get_modify_self,
      InsertionMap.get_modify_self, hk, Option.map_some, Option.map_some, Option.some.injEq] at hk'
    rw [← hk', hl]
  have hconnections (ip : String) : t.connections ip = s.connections ip \ {ws} := by
    ext w
    by_cases hw : w = ws
    · subst hw
      refine iff_of_false ?_ (by simp)
      rintro ⟨k', hk', -, hstate⟩
      exact hstate (hclosed hk')
    · simp [connections, hget w hw, hw]
  have hcard : (s.connections conn.ip \ {ws}).ncard = (s.connections conn.ip).ncard - 1 :=
    Set.ncard_sdiff_singleton_of_mem hmem
  have hother {ip : String} (hip : ip ≠ conn.ip) : s.connections ip \ {ws} = s.connections ip := by
    refine Set.sdiff_singleton_eq_self ?_
    rintro ⟨k', hk', ⟨conn', hl', hip'⟩, -⟩
    obtain rfl := Option.some.inj (hk.symm.trans hk')
    rw [hl, Listener.control.injEq] at hl'
    exact hip (by rw [← hip', hl'])
  have hpos : 0 < (s.connections conn.ip).ncard := (Set.ncard_pos (hs.finite _)).mpr ⟨ws, hmem⟩
  have hcount : (s.wsConnectionsPerIp.get conn.ip).getD 1 = (s.connections conn.ip).ncard := by
    rw [hs.counted, if_neg (by omega)]
    rfl
  refine ⟨fun ip => ?_, fun ip => ?_, fun ip => ?_⟩
  · rw [hconnections]
    exact (hs.finite ip).sdiff
  · rw [hconnections, htable, hcount]
    by_cases hip : ip = conn.ip
    · rw [hip, hcard]
      split
      · rw [InsertionMap.get_delete_self, if_pos (by omega)]
      · rw [InsertionMap.get_set_self, if_neg (by omega)]
    · rw [hother hip, ← hs.counted]
      split
      · exact InsertionMap.get_delete_of_ne hip
      · exact InsertionMap.get_set_of_ne hip
  · rw [hconnections]
    exact (Set.ncard_le_ncard Set.sdiff_subset (hs.finite ip)).trans (hs.limited ip)

/-! ## Runs -/

theorem relayMessage_connections (ws : SocketId) (leg : RelayLeg) (frame : Frame) (buffered : Nat) (s : Gateway) :
    (s.relayMessage Γ ws leg frame buffered).wsConnectionsPerIp = s.wsConnectionsPerIp := by
  unfold relayMessage
  split
  · rfl
  · rfl

theorem rateTimerFires_connections (ws : SocketId) (s : Gateway) :
    (s.rateTimerFires ws).wsConnectionsPerIp = s.wsConnectionsPerIp := by
  unfold rateTimerFires
  split
  · split
    · rfl
    · rfl
  · rfl

theorem drainPoll_connections (ws : SocketId) (buffered : Nat) (s : Gateway) :
    (s.drainPoll ws buffered).wsConnectionsPerIp = s.wsConnectionsPerIp := by
  unfold drainPoll
  split
  · split
    · rfl
    · rfl
  · rfl

theorem callResponse_connections (ex : ExchangeId) (s : Gateway) (c : ResponseCall) :
    (s.callResponse ex c).wsConnectionsPerIp = s.wsConnectionsPerIp := by
  unfold callResponse
  split
  · cases c with
    | setHeader name value =>
      dsimp only
      split
      · rfl
      · split
        · rfl
        · rfl
    | status code => rfl
    | write data =>
      dsimp only
      split
      · rfl
      · split
        · rfl
        · split
          · rfl
          · rfl
  · rfl

theorem responseHead_connections (ex : ExchangeId) (request : ProxyRequest) (meta_ : JsonValue) (s : Gateway) :
    (s.responseHead ex request meta_).wsConnectionsPerIp = s.wsConnectionsPerIp := by
  have hcalls (calls : List ResponseCall) (s : Gateway) :
      (calls.foldl (callResponse ex) s).wsConnectionsPerIp = s.wsConnectionsPerIp := by
    induction calls generalizing s with
    | nil => rfl
    | cons c calls ih => rw [List.foldl_cons, ih, callResponse_connections]
  unfold responseHead
  dsimp only
  split
  · rfl
  · split
    · exact hcalls _ _
    · exact hcalls _ _

theorem CountsKeep.data (ex : ExchangeId) (chunk : Bytes) (buffered : Nat) (s : Gateway) :
    s.CountsKeep (s.requestData ex chunk buffered) := by
  unfold requestData
  split
  · split
    · exact .refl s
    · refine .of_eq rfl ?_
      rw [onNet_net]
      dsimp only
      split
      · rfl
      · rfl
  · exact .refl s

theorem CountsKeep.done (ex : ExchangeId) (s : Gateway) : s.CountsKeep (s.requestEnd ex) := by
  unfold requestEnd
  split
  · split
    · exact .of_eq rfl rfl
    · exact .refl s
  · exact .refl s

theorem CountsKeep.finish (channelId : String) (ex : ExchangeId) (x : HttpExchange) (s : Gateway) :
    s.CountsKeep (s.finishResponse channelId ex x) := by
  refine .of_eq ?_ (finishResponse_tables channelId ex x s).2.2.1
  unfold finishResponse
  dsimp only
  split
  · split
    · rfl
    · rfl
  · rfl

/-- Every single operation keeps the balance. -/
theorem Op.balanced {σ : Gateway} (h : Op Γ e σ s t) (fresh : σ.Fresh Γ) (hA : σ.Admission) (hL : σ.Legs) (hs : s.Balanced) :
    t.Balanced := by
  cases h with
  | tables net channels connections => exact hs.keep (.of_eq connections (by rw [net]))
  | clock => exact hs.keep (.of_eq rfl rfl)
  | net h => exact hs.keep (.of_pointwise rfl (sameCount_of_op h))
  | pace => exact hs.keep (.of_eq rfl rfl)
  | teardown reason channelId => exact hs.keep (.teardown reason channelId s)
  | openChannel fresh peer backendPeer lease target kind =>
    exact hs.keep (.of_eq (by simp [Gateway.openChannel]) (by simp [Gateway.openChannel]))
  | proxyViaChannel fresh request epoch backendPeer =>
    refine hs.keep ?_
    unfold Gateway.proxyViaChannel
    split
    · exact .of_eq rfl rfl
    · exact .of_eq rfl (Net.sendToWs_sockets _ _ _)
  | connect ip => exact hs.connect fresh ip
  | dial channelId ticket handshakeOk => exact hs.keep (.dial hA hL fresh _ _ _)
  | hangUp hk hl hopen => exact hs.hangUp hk hl hopen rfl rfl
  | shut hk hl hopen hact =>
    refine hs.keep (.of_pointwise rfl (.modify WsSocket.SameCount.refl fun k' hk' => ?_))
    obtain rfl := Option.some.inj (hk.symm.trans hk')
    exact .of_others hl hl
  | relay hk hr hl hact =>
    rename_i ws k leg frame buffered writable
    have hstate : k.readyState ≠ .closed := by
      simp only [WsSocket.reads, Bool.and_eq_true, decide_eq_true_eq] at hr
      exact hr.1
    rcases relayMessage_moves (Γ := Γ) frame buffered hk hl hstate with heq | hmoves
    · rw [heq]
      exact hs
    · exact hs.keep (.moves (relayMessage_connections _ _ _ _ _) hmoves)
  | rateTimer hact =>
    rename_i ws
    rcases rateTimerFires_moves ws s with heq | hmoves
    · rw [heq]
      exact hs
    · exact hs.keep (.moves (rateTimerFires_connections _ _) hmoves)
  | drainPoll hact =>
    rename_i ws buffered
    rcases drainPoll_moves ws buffered s with heq | hmoves
    · rw [heq]
      exact hs
    · exact hs.keep (.moves (drainPoll_connections _ _ _) hmoves)
  | requestData hact => exact hs.keep (.data _ _ _ _)
  | requestEnd hact => exact hs.keep (.done _ _)
  | responseHead hx hm meta_ =>
    exact hs.keep (.of_eq (responseHead_connections _ _ _ _) (responseHead_speaks _ _ _ _).sockets)
  | responseBody hx hm data => exact hs.keep (.of_eq (callResponse_connections _ _ _) (callResponse_speaks _ _ _).sockets)
  | finishResponse running hx => exact hs.keep (.finish _ _ _ _)
  | abort hact => exact hs.keep (.of_eq rfl rfl)

theorem step_balanced (e : Event) (fresh : s.Fresh Γ) (hA : s.Admission) (hL : s.Legs) (hs : s.Balanced) :
    (s.step Γ e).Balanced := by
  have hquiet := quiet_turns s
  have hs' : s.quiet.Balanced := hs.keep (.of_eq rfl rfl)
  rcases hrun : s.uncaught with _ | error
  · have hhandle : s.quiet.Balanced → (s.quiet.handle Γ e).Balanced :=
      handle_rel (R := fun t u => t.Balanced → u.Balanced) (fun _ h => h) (fun h h' ht => h' (h ht)) e hrun (fresh.turns hquiet)
        (fun t u hop ht => hop.balanced (fresh.turns hquiet) (hA.turns hquiet) (hL.turns hquiet) ht)
    rw [step_running hrun]
    exact (hhandle hs').keep (.of_eq rfl rfl)
  · rw [step_stopped hrun]
    exact hs'

theorem balanced_run (es : List Event) : ((gateway Γ storage).run es).Balanced := by
  induction es using List.reverseRecOn with
  | nil =>
    have hnone (ip : String) : (Gateway.init storage).connections ip = ∅ := by
      ext ws
      simp [connections, Gateway.init]
    have hinit : (Gateway.init storage).Balanced := by
      refine ⟨fun ip => ?_, fun ip => ?_, fun ip => ?_⟩
      · rw [hnone]
        exact Set.finite_empty
      · rw [hnone, Set.ncard_empty]
        rfl
      · rw [hnone, Set.ncard_empty]
        exact Nat.zero_le _
    exact hinit
  | append_singleton es e ih =>
    rw [EventMachine.run_snoc]
    exact step_balanced e (fresh_run es) (channels_run es).1 (channels_run es).2 ih

/-- A connection is admitted if its address has room. -/
theorem Balanced.admits_iff (hs : s.Balanced) (ip : String) :
    s.drawn ∈ (s.controlConnection ip).connections ip ↔ (s.connections ip).ncard < MAX_WS_CONNECTIONS_PER_IP := by
  obtain ⟨k0, hk0, hget⟩ := controlConnection_socket s ip
  rw [Connects, hs.getD] at hk0
  unfold connections
  rw [Set.mem_ofPred_eq, hget, if_pos rfl]
  rcases hk0 with ⟨hroom, hstate, -, hl⟩ | ⟨hfull, -, -, hl⟩
  · refine iff_of_true ⟨k0, rfl, ⟨_, hl, rfl⟩, ?_⟩ hroom
    rw [hstate]
    simp
  · refine iff_of_false ?_ (Nat.not_lt.mpr hfull)
    rintro ⟨k, hk, ⟨conn, hl', -⟩, -⟩
    obtain rfl := Option.some.inj hk
    rw [hl] at hl'
    cases hl'

/-- The table counts the control connections of every address and forgets an address without any; an address has too many at no
time, and a connection of it is admitted exactly if it has room. -/
theorem connections_limited (es : List Event) (ip : String) :
    let s := (gateway Γ storage).run es
    (s.connections ip).Finite ∧
      s.wsConnectionsPerIp.get ip = (if (s.connections ip).ncard = 0 then none else some (s.connections ip).ncard) ∧
      (s.connections ip).ncard ≤ MAX_WS_CONNECTIONS_PER_IP ∧
      (s.drawn ∈ (s.controlConnection ip).connections ip ↔ (s.connections ip).ncard < MAX_WS_CONNECTIONS_PER_IP) := by
  have hs : ((gateway Γ storage).run es).Balanced := balanced_run es
  exact ⟨hs.finite ip, hs.counted ip, hs.limited ip, hs.admits_iff ip⟩

end Gateway

end ZclaudiaGateway
