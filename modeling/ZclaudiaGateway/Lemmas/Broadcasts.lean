import ZclaudiaGateway.Lemmas.Sessions
import ZclaudiaGateway.Lemmas.Outputs

/-!
# Losses and hellos, as others see them

When a backend or a session is lost, or a session opens, what goes out is outputs that name no backend, and registry items: in
the snapshot of one session and in broadcasts. A predicate that permits these permits everything that goes out.
-/

namespace ZclaudiaGateway

/-- The registry items of a message. -/
def GatewayToPeer.registryItems : GatewayToPeer → Option (List BackendPresence)
  | .peerReady _ _ _ _ items | .registrySnapshot items => some items
  | _ => none

namespace Gateway

variable {Γ : Ctx}

/-- The predicate permits what names no backend, and the registry as a session sees it, now and once some sessions and backends
are gone. -/
structure Permits (P : Output → Prop) (s : Gateway) : Prop where
  discreet : ∀ o, o.names = false → P o
  snapshot : ∀ t, s.ControlKeeps t → ∀ p peer m, t.state.peers.get p = some peer →
    m.registryItems = some (visibleRegistry t.state peer) → P (.send peer.ws m)
  broadcast : ∀ t, s.ControlKeeps t → ∀ exclude, t.net.Emits P (t.broadcastRegistrySnapshot exclude).net

variable {P : Output → Prop} {s t : Gateway}

theorem Permits.keeps (h : Permits P s) (hk : s.ControlKeeps t) : Permits P t :=
  ⟨h.discreet, fun u hu => h.snapshot u (hk.trans hu), fun u hu => h.broadcast u (hk.trans hu)⟩

theorem Permits.quiet (h : Permits P s) {net net' : Net} (he : net.Discreet net') : net.Emits P net' := he.mono h.discreet

/-! ## Losing a backend or a session -/

/-- A backend is taken off the registry, once its channels are closed. -/
theorem registryRemove_keeps {u : Gateway} (honly : s.OnlyChannels u) (backendId : String) :
    s.ControlKeeps (u.onState (.registryRemove backendId)) := by
  have hstate : (u.onState (.registryRemove backendId)).state =
      { s.state with registry := s.state.registry.delete backendId } := by
    rw [onState_state, honly.state]
    rfl
  refine ⟨fun b lease hl => ⟨lease, ?_, .refl lease⟩, fun p peer hp => ⟨peer, ?_, .refl peer⟩, ?_, fun b item hi => ?_,
    honly.drawn⟩
  · rwa [hstate] at hl
  · rwa [hstate] at hp
  · exact congrArg Storage.maxEpoch honly.storage
  · rw [hstate] at hi
    exact ⟨item, (InsertionMap.get_delete_eq_some.mp hi).2, .refl item⟩

/-- A backend's channels are closed, it is taken off the registry, and the others are told. -/
theorem backendOffline_emits (h : Permits P s) (backendId : String) (exclude : Option String) :
    s.net.Emits P (((s.closeChannelsForBackend backendId .backendOffline).onState
      (.registryRemove backendId)).broadcastRegistrySnapshot exclude).net := by
  have hclosed : s.net.Emits P (s.closeChannelsForBackend backendId .backendOffline).net :=
    h.quiet (.of_tears (teardownWhere_emits _ _ s))
  exact hclosed.trans (h.broadcast _ (registryRemove_keeps (teardownWhere_only _ _ s) backendId) exclude)

theorem disconnectOwner_emits (h : Permits P s) (peer : PeerSession) (backendId : String) :
    s.net.Emits P (s.disconnectOwner peer backendId).net := by
  unfold disconnectOwner
  split
  · exact backendOffline_emits h backendId (some peer.peerSessionId)
  · exact .refl _

theorem handlePeerDisconnect_emits (h : Permits P s) (p : String) : s.net.Emits P (s.handlePeerDisconnect p).net := by
  unfold handlePeerDisconnect
  split
  · exact .refl _
  · rename_i peer hp
    -- The session's channels are closed after its backend's, and its socket is terminated.
    have hends (u : Gateway) : u.net.Emits P (((u.closeChannelsForPeer p).removeTopicSubscriptionsForPeer p).onNet
        (.terminate peer.ws)).net :=
      h.quiet ((Net.Discreet.of_tears (teardownWhere_emits _ _ u)).trans (.terminate peer.ws _))
    dsimp only
    rcases peer.backendId with _ | backendId
    · exact hends s
    · exact (disconnectOwner_emits h peer backendId).trans (hends _)

theorem handleBackendLeaseExpired_emits (h : Permits P s) (backendId : String) :
    s.net.Emits P (s.handleBackendLeaseExpired backendId).net := by
  unfold handleBackendLeaseExpired
  split
  · exact .refl _
  · rename_i lease hl
    have hoffline := backendOffline_emits h backendId none
    dsimp only
    split
    · exact hoffline
    · rename_i peer _
      have hterminated (net : Net) : net.Emits P (net.terminate peer.ws) := h.quiet (.terminate _ _)
      exact hoffline.trans (hterminated _)

theorem checkLease_emits (h : Permits P s) (backendId : String) : s.net.Emits P (s.checkLease backendId).net := by
  unfold checkLease
  split
  · exact .refl _
  · split
    · exact handleBackendLeaseExpired_emits h backendId
    · exact .refl _

theorem leaseChecks_emits (backendIds : List String) (ho : s.Ownership) (h : Permits P s) :
    s.net.Emits P (backendIds.foldl checkLease s).net := by
  induction backendIds generalizing s with
  | nil => exact .refl _
  | cons b backendIds ih =>
    obtain ⟨hkeeps, hown⟩ := checkLease_keeps ho b
    exact (checkLease_emits h b).trans (ih hown (h.keeps hkeeps))

/-! ## A new session -/

theorem replaceOwner_emits (backendId peerSessionId : String) (epoch : Nat) (s : Gateway) :
    s.net.Discreet (s.replaceOwner backendId peerSessionId epoch).net := by
  unfold replaceOwner
  split
  · exact .refl _
  · split
    · have hclosed : s.net.Discreet (s.closeChannelsForBackend backendId .epochChanged).net :=
        .of_tears (teardownWhere_emits _ _ s)
      unfold handleBackendOwnerReplaced
      dsimp only
      split
      · exact hclosed
      · exact hclosed.trans ((Net.Discreet.close _ _ _ _).trans (.modifySocket _ _ _))
    · exact .refl _

/-- A session that opens gets its part of the registry, and so do the others once its backend is registered. -/
theorem addSession_emits (peer : PeerSession) (grant : Option BackendGrant) (h : Permits P (s.addSession peer grant)) :
    s.net.Emits P (s.addSession peer grant).net := by
  obtain ⟨⟨hstate, -⟩, -, -, hstorage, hdrawn⟩ := addSession_tables peer grant s
  have hkeeps (net : Net) : (s.addSession peer grant).ControlKeeps ((s.onState (.addPeer peer)).onNet (fun _ => net)) :=
    .same hstate.symm (congrArg Storage.maxEpoch hstorage).symm hdrawn.symm
  have hp : (s.onState (.addPeer peer)).state.peers.get peer.peerSessionId = some peer := InsertionMap.get_set_self _ _ _
  have hready : s.net.Emits P (Net.sendToWs peer.ws (.peerReady peer.protocolVersion peer.peerSessionId
      peer.recoveryToken grant (visibleRegistry (s.onState (.addPeer peer)).state peer)) s.net) :=
    .sendToWs (h.snapshot _ (hkeeps s.net) _ _ _ hp rfl) _
  have hbroadcast (net : Net) (exclude : Option String) :
      net.Emits P (((s.onState (.addPeer peer)).onNet (fun _ => net)).broadcastRegistrySnapshot exclude).net :=
    h.broadcast _ (hkeeps net) exclude
  unfold Gateway.addSession
  dsimp only
  split
  · exact hready.trans (hbroadcast _ _)
  · exact hready

theorem openSession_emits (ws : SocketId) (credential : CredentialRecord) (hello : PeerHello)
    (h : Permits P (s.openSession Γ ws credential hello)) :
    s.net.Emits P (s.openSession Γ ws credential hello).net := by
  have hquiet {net net' : Net} (he : net.Discreet net') : net.Emits P net' := h.quiet he
  unfold Gateway.openSession at h ⊢
  split at h
  · dsimp only at h ⊢
    refine Net.Emits.trans ?_ (addSession_emits _ _ h)
    exact hquiet (replaceOwner_emits _ _ _ _)
  · exact addSession_emits _ none h

/-- What a hello puts out, permitted of the state that it leads to. -/
theorem greet_emits (ws : SocketId) (conn : ControlConn) (hello : PeerHello) (h : Permits P (s.greet Γ ws conn hello)) :
    s.net.Emits P (s.greet Γ ws conn hello).net := by
  rcases greet_control (Γ := Γ) ws conn hello s with ⟨-, hturns, -⟩ | ⟨u, credential, -, hturns, he, -⟩
  · exact h.quiet hturns.emits
  · rw [he] at h ⊢
    have hopened := openSession_emits ws credential hello (h.keeps (.same rfl rfl rfl))
    exact ((h.quiet hturns.emits).trans hopened).trans (.modifyConn ws _ _)

end Gateway

end ZclaudiaGateway
