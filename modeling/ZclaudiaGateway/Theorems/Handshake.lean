import ZclaudiaGateway.Lemmas.Connections
import ZclaudiaGateway.Lemmas.Sample

/-!
# Authentication of control connections

A control connection is authenticated by one hello, once. A connection the gateway has closed before that still delivers
frames, and what its listener does with a hello does not depend on the close.
-/

namespace ZclaudiaGateway

/-- The output closes the socket. -/
def Output.closes (ws : SocketId) : Output → Bool
  | .close ws' _ _ => decide (ws' = ws)
  | _ => false

/-- The socket the event delivers a frame on. -/
def Event.frameOn : Event → Option SocketId
  | .message ws _ _ _ => some ws
  | _ => none

namespace Gateway

variable {Γ : Ctx}

/-- A running gateway is delivered, on the connection, a hello that a live credential admits. -/
def Admits (Γ : Ctx) (s : Gateway) (e : Event) (ws : SocketId) : Prop :=
  s.uncaught = none ∧ ∃ conn hello, s.helloOf Γ e = some (ws, conn, hello) ∧ (s.admittedAs Γ hello).isSome

theorem admits_quiet (s : Gateway) (e : Event) (ws : SocketId) : s.quiet.Admits Γ e ws ↔ s.Admits Γ e ws := by
  simp only [Admits, helloOf_quiet, admittedAs_quiet]
  rfl

/-- No session is opened or lost, no epoch allocated, and every backend has the owner it had. -/
structure Undisturbed (s t : Gateway) : Prop where
  peers : ∀ p, t.state.peers.has p = s.state.peers.has p
  maxEpoch : t.storage.maxEpoch = s.storage.maxEpoch
  owners : ∀ b, (t.state.leases.get b).map (fun lease => (lease.peerSessionId, lease.epoch)) =
    (s.state.leases.get b).map (fun lease => (lease.peerSessionId, lease.epoch))

theorem ControlTurns.undisturbed {s t : Gateway} (h : s.ControlTurns t) : s.Undisturbed t := by
  refine ⟨fun p => h.state.peers.has_eq p, h.maxEpoch, fun b => ?_⟩
  have hb := h.state.leases b
  revert hb
  rcases s.state.leases.get b with _ | lease <;> rcases t.state.leases.get b with _ | lease' <;> intro hb
  · rfl
  · cases hb
  · cases hb
  · obtain ⟨_, rfl⟩ : lease.Same lease' := by
      cases hb
      assumption
    rfl

/-! ## A frame on a connection that is not authenticated -/

/-- A frame that holds no hello its credential admits leaves the control plane alone. -/
theorem socketMessage_turns {s : Gateway} {ws : SocketId} {frame : Frame} {buffered : Nat} {writable : Bool}
    (hs : s.sessionOf ws = none) (hrun : s.uncaught = none)
    (hno : ¬ s.Admits Γ (.message ws frame buffered writable) ws) :
    s.ControlTurns (s.handle Γ (.message ws frame buffered writable)) := by
  rcases hh : s.helloOf Γ (.message ws frame buffered writable) with _ | ⟨w, conn, hello⟩
  · change s.ControlTurns (s.socketMessage Γ ws frame buffered writable)
    unfold socketMessage
    split
    · exact .refl s
    · rename_i k hk
      split
      · rename_i hr
        split
        · exact .refl s
        · rename_i conn hl
          have hn : conn.peerSessionId = none := by
            rw [sessionOf_eq hk, hl] at hs
            exact hs
          unfold controlMessage
          rw [hn]
          split
          · exact (sendError_control _ _ _ s).trans (.onNet (.close ws _ _ _))
          · rename_i hsome
            cases hsome
          · rename_i message hparse _
            obtain ⟨error, he⟩ := handleFirstMessage_refused hh hk hl hr hn hparse
            rw [he]
            exact (sendError_control _ _ _ s).trans (.onNet (.close ws _ _ _))
          · rename_i hsome
            cases hsome
        · exact relayMessage_control _ _ _ _ s
        · exact bridgeMessage_control _ _ _ _ _ s
      · exact .refl s
  · obtain ⟨-, frame', buffered', writable', he, -⟩ := helloOf_frame hh
    obtain rfl : ws = w := by
      cases he
      rfl
    rw [handle_hello hh]
    rcases greet_control (Γ := Γ) ws conn hello s with ⟨-, ht, -⟩ | ⟨u, credential, hadm, -, -⟩
    · exact ht
    · exact absurd ⟨hrun, conn, hello, hh, by rw [hadm]; rfl⟩ hno

theorem openSession_opens (ws : SocketId) (credential : CredentialRecord) (hello : PeerHello) (s : Gateway) :
    (s.openSession Γ ws credential hello).state.peers.has (Γ.sessionIds.draw s.drawn) = true := by
  have hadd (peer : PeerSession) (grant : Option BackendGrant) (u : Gateway) :
      (u.addSession peer grant).state.peers.has peer.peerSessionId = true := by
    rw [(addSession_tables peer grant u).1.1]
    simp [GatewayState.addPeer, InsertionMap.has_set]
  unfold openSession
  dsimp only
  split
  · exact hadd _ _ _
  · exact hadd _ _ _

/-- A hello that a live credential admits opens a session. -/
theorem Admits.opens {s : Gateway} {e : Event} {ws : SocketId} (h : s.Admits Γ e ws) (ho : s.Owned Γ) :
    ∃ p, s.state.peers.has p = false ∧ (s.handle Γ e).state.peers.has p = true := by
  obtain ⟨-, conn, hello, hh, hadm⟩ := h
  have hfresh : s.FreshSessions Γ := ho.2
  refine ⟨Γ.sessionIds.draw s.drawn, InsertionMap.has_eq_false_iff.mpr hfresh.session, ?_⟩
  rw [handle_hello hh]
  rcases greet_control (Γ := Γ) ws conn hello s with ⟨hnone, -, -⟩ | ⟨u, credential, -, ht, he, -⟩
  · rw [hnone] at hadm
    cases hadm
  · have hopens := openSession_opens (Γ := Γ) ws credential hello u
    rw [ht.drawn] at hopens
    rw [he]
    exact hopens

/-- A refused hello authenticates no connection. -/
theorem authenticated_none (ws : SocketId) (s : Gateway) : (authenticated ws none s).sessionOf ws = none := by
  have h := authenticated_socket ws none s ws
  unfold sessionOf
  rcases hk : s.net.sockets.get ws with _ | k
  · rw [hk] at h
    rw [Option.map_eq_none_iff.mp h]
    rfl
  · rw [hk, Option.map_some] at h
    obtain ⟨k', hk', hs⟩ := Option.map_eq_some_iff.mp h
    rw [hk', Option.bind_some, hs]
    split
    · rfl
    · rename_i hno
      have hk : k.listener.session? = none := by simpa using hno
      rw [hk]
      rfl

/-- An event leaves a connection on its session, unless it delivers the hello that authenticates it. -/
theorem handle_sessionOf_cases (e : Event) {s : Gateway} (fresh : s.Fresh Γ) (hA : s.Admission) (hL : s.Legs)
    (hrun : s.uncaught = none) (ws : SocketId) :
    (s.handle Γ e).sessionOf ws = s.sessionOf ws ∨ s.sessionOf ws = none ∧ s.Admits Γ e ws := by
  rcases handle_sessionOf (Γ := Γ) e fresh hA hL with hs | ⟨w, conn, hello, hh, hn, hs⟩
  · exact Or.inl (hs ws)
  · by_cases hw : ws = w
    · subst hw
      rcases greet_control (Γ := Γ) ws conn hello s with ⟨-, -, u, hu⟩ | ⟨u, credential, hadm, -, -⟩
      · have hnone : (s.handle Γ e).sessionOf ws = none := by
          rw [handle_hello hh, hu]
          exact authenticated_none ws u
        rw [hs, if_pos rfl] at hnone
        cases hnone
      · exact Or.inr ⟨hn, hrun, conn, hello, hh, by rw [hadm]; rfl⟩
    · exact Or.inl (by rw [hs, if_neg hw])

end Gateway

/-! ## Runs -/

section Runs

open Gateway

variable {Γ : Ctx} {storage : Storage}

theorem step_sessionOf (es : List Event) (e : Event) (ws : SocketId) :
    ((gateway Γ storage).run (es ++ [e])).sessionOf ws = ((gateway Γ storage).run es).sessionOf ws ∨
      ((gateway Γ storage).run es).sessionOf ws = none ∧ ((gateway Γ storage).run es).Admits Γ e ws := by
  have hfresh : ((gateway Γ storage).run es).quiet.Fresh Γ := (fresh_run es).turns (quiet_turns _)
  obtain ⟨hA, hL⟩ : ((gateway Γ storage).run es).Admission ∧ ((gateway Γ storage).run es).Legs := channels_run es
  rw [EventMachine.run_snoc]
  rcases hrun : ((gateway Γ storage).run es).uncaught with _ | error
  · have hstep := step_running (Γ := Γ) hrun e
    rcases handle_sessionOf_cases e hfresh (hA.turns (quiet_turns _)) (hL.turns (quiet_turns _)) hrun ws with hs | hs
    · exact Or.inl ((congrArg (fun t : Gateway => t.sessionOf ws) hstep).trans hs)
    · exact Or.inr ⟨hs.1, (admits_quiet _ e ws).mp hs.2⟩
  · have hstop : (gateway Γ storage).step ((gateway Γ storage).run es) e = _ := step_stopped hrun e
    rw [hstop]
    exact Or.inl rfl

/-- The gateway has closed the connection in the course of the run, before it was authenticated. -/
def Rejected (Γ : Ctx) (storage : Storage) (es : List Event) (ws : SocketId) : Prop :=
  ∃ pre e, pre ++ [e] <+: es ∧ ((gateway Γ storage).run (pre ++ [e])).net.outbox.any (Output.closes ws) = true ∧
    ((gateway Γ storage).run (pre ++ [e])).sessionOf ws = none

/-- In the course of the run a connection is authenticated at most once, and no frame on a rejected one opens a session,
allocates an epoch, grants a lease or displaces an owner. -/
def HandshakesHold (Γ : Ctx) (storage : Storage) (es : List Event) : Prop :=
  (∀ pre pre' ws p, pre <+: pre' → pre' <+: es → ((gateway Γ storage).run pre).sessionOf ws = some p →
    ((gateway Γ storage).run pre').sessionOf ws = some p) ∧
  ∀ pre e ws, pre ++ [e] <+: es → Rejected Γ storage pre ws → e.frameOn = some ws →
    ((gateway Γ storage).run pre).Undisturbed ((gateway Γ storage).run (pre ++ [e]))

/-- A rejected connection to which no hello is delivered that a live credential admits is never authenticated. -/
theorem rejected_sessionOf {es : List Event}
    (h : ∀ pre e ws, pre ++ [e] <+: es → Rejected Γ storage pre ws → ¬ ((gateway Γ storage).run pre).Admits Γ e ws)
    {ws : SocketId} (hr : Rejected Γ storage es ws) : ((gateway Γ storage).run es).sessionOf ws = none := by
  obtain ⟨pre, e, ⟨mid, rfl⟩, hclosed, hnone⟩ := hr
  induction mid using List.reverseRecOn with
  | nil => simpa using hnone
  | append_singleton mid e' ih =>
    have hprefix : pre ++ [e] ++ mid <+: pre ++ [e] ++ (mid ++ [e']) := by
      rw [← List.append_assoc]
      exact List.prefix_append _ _
    have hmid := ih fun pre' e'' w hp => h pre' e'' w (hp.trans hprefix)
    rw [← List.append_assoc]
    rcases @step_sessionOf Γ storage (pre ++ [e] ++ mid) e' ws with he | ⟨-, hadmits⟩
    · exact he.trans hmid
    · have hrejected : Rejected Γ storage (pre ++ [e] ++ mid) ws := ⟨pre, e, List.prefix_append _ _, hclosed, hnone⟩
      exact absurd hadmits (h _ e' ws (by rw [List.append_assoc]) hrejected)

/-- A frame on a connection that is not authenticated disturbs nobody, unless it holds a hello a live credential admits. -/
theorem step_undisturbed (es : List Event) {e : Event} {ws : SocketId} (he : e.frameOn = some ws)
    (hs : ((gateway Γ storage).run es).sessionOf ws = none) (hno : ¬ ((gateway Γ storage).run es).Admits Γ e ws) :
    ((gateway Γ storage).run es).Undisturbed ((gateway Γ storage).run (es ++ [e])) := by
  cases e with
  | message w frame buffered writable =>
    obtain rfl : w = ws := Option.some.inj he
    rw [EventMachine.run_snoc]
    change Gateway.Undisturbed _ (Gateway.step Γ _ _)
    rcases hrun : ((gateway Γ storage).run es).uncaught with _ | error
    · rw [step_running hrun]
      have hquiet : ¬ ((gateway Γ storage).run es).quiet.Admits Γ (.message w frame buffered writable) w := fun h =>
        hno ((admits_quiet _ _ _).mp h)
      have hs' : ((gateway Γ storage).run es).quiet.sessionOf w = none := hs
      obtain ⟨hp, hm, ho⟩ := (socketMessage_turns hs' hrun hquiet).undisturbed
      exact ⟨hp, hm, ho⟩
    · rw [step_stopped hrun]
      exact ⟨fun _ => rfl, rfl, fun _ => rfl⟩
  | _ => cases he

/-- A connection is authenticated at most once, and a rejected one is never in the runs in which no hello that a live
credential admits is delivered on a rejected connection, and in these only. -/
theorem handshakes_hold_iff (es : List Event) :
    HandshakesHold Γ storage es ↔ ∀ pre e ws, pre ++ [e] <+: es → Rejected Γ storage pre ws →
      ¬ ((gateway Γ storage).run pre).Admits Γ e ws := by
  constructor
  · rintro ⟨-, hundisturbed⟩ pre e ws hp hr hadmits
    have hrun := hadmits.1
    have howned : ((gateway Γ storage).run pre).Owned Γ := owned_run pre
    have hquiet : ((gateway Γ storage).run pre).quiet.Owned Γ := ⟨howned.1.only rfl rfl rfl rfl, howned.2⟩
    obtain ⟨p, hbefore, hafter⟩ := Admits.opens ((admits_quiet _ e ws).mpr hadmits) hquiet
    have hframe : e.frameOn = some ws := by
      obtain ⟨-, conn, hello, hh, -⟩ := hadmits
      obtain ⟨-, frame, buffered, writable, rfl, -⟩ := helloOf_frame hh
      rfl
    have hsame := (hundisturbed pre e ws hp hr hframe).peers p
    rw [EventMachine.run_snoc] at hsame
    have hstep : (gateway Γ storage).step ((gateway Γ storage).run pre) e = _ := step_running hrun e
    rw [hstep] at hsame
    exact absurd (hafter.symm.trans (hsame.trans hbefore)) (by decide)
  · intro h
    refine ⟨fun pre pre' ws p hp _ hs => authenticated_once hp hs, fun pre e ws hp hr hframe => ?_⟩
    have hpre : pre <+: es := (List.prefix_append pre [e]).trans hp
    have hnone := rejected_sessionOf (fun pre' e' w hp' => h pre' e' w (hp'.trans hpre)) hr
    exact step_undisturbed pre hframe hnone (h pre e ws hp hr)

/-- A run in which a connection's first message is no hello, and its second the hello of a backend that is online. -/
def pipelinedHello : List Event :=
  [.connect, .text 0 (sampleHello "zgb_new" true), .connect, .text 2 .null, .text 2 (sampleHello "zgb_old" true)]

/-- The connection is closed for its first message, and its second replaces the owner of the backend. -/
theorem rejected_hello_admitted :
    ¬ ∀ es, HandshakesHold (.sample [sampleHello "zgb_new" true, .null, sampleHello "zgb_old" true]) sampleStorage es := by
  intro h
  have hr : Rejected (.sample [sampleHello "zgb_new" true, .null, sampleHello "zgb_old" true]) sampleStorage
      (pipelinedHello.take 4) 2 :=
    ⟨pipelinedHello.take 3, .text 2 .null, List.prefix_rfl, by decide +kernel, by decide +kernel⟩
  have howner := ((h pipelinedHello).2 (pipelinedHello.take 4) _ 2 List.prefix_rfl hr rfl).owners "B"
  revert howner
  decide +kernel

end Runs

end ZclaudiaGateway
