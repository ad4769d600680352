import ZclaudiaGateway.Lemmas.Deliveries
import ZclaudiaGateway.Lemmas.Sample

/-!
# Isolation of deliveries

A peer is told of a backend only if its credential reaches the backend, and a backend is offered a channel only by a peer whose
credential does.
-/

namespace ZclaudiaGateway

open Gateway

/-- The credential that admitted a session reaches a backend that is registered as the event begins or as it ends: both are of
one namespace, and the backend is in the session's scope. -/
def Reaches (h : List (String × CredentialRecord)) (s t : Gateway) (p backendId : String) : Prop :=
  ∃ credential presence, (p, credential) ∈ h ∧
    (s.state.registry.get backendId = some presence ∨ t.state.registry.get backendId = some presence) ∧
    presence.ns = credential.ns ∧ ∀ allowed, credential.scope = some allowed → backendId ∈ allowed

/-- A message to a session names only backends within the session's reach, and an offer only asks a backend for the sake of a
session that reaches it. -/
def GatewayToPeer.Isolated (Γ : Ctx) (h : List (String × CredentialRecord)) (s t : Gateway) (e : Event) (p : String) :
    GatewayToPeer → Prop
  | .peerReady _ _ _ _ items | .registrySnapshot items => ∀ item ∈ items, Reaches h s t p item.backendId
  | .topicSubscribed backendId _ | .topicMessage backendId _ _ => Reaches h s t p backendId
  | .channelReady _ _ _ => ∃ peer target kind, s.routed Γ e = some (peer, .channelOpen target kind) ∧
    peer.peerSessionId = p ∧ Reaches h s t p target
  | .channelOffer _ _ (some source) _ _ => ∃ peer target kind lease,
    s.routed Γ e = some (peer, .channelOpen target kind) ∧ peer.peerSessionId = source ∧
    s.state.leases.get target = some lease ∧ lease.peerSessionId = p ∧ Reaches h s t source target
  | .backendServerMessage raw => ∃ sender backendId target,
    s.routed Γ e = some (sender, .backendServerMessage backendId target raw) ∧ s.ownedBackend sender = some backendId ∧
    Reaches h s t p backendId
  | _ => True

/-- Every message goes to a session and is isolated, and a registry that is recovered shows what its token's session reaches. -/
def Output.Isolated (Γ : Ctx) (h : List (String × CredentialRecord)) (s t : Gateway) (e : Event) : Output → Prop
  | .send ws m => m.names = true → ∃ p, t.sessionOf ws = some p ∧ m.Isolated Γ h s t e p
  | .reply { body := .registry items, .. } => ∃ ip authorization token p, e = .syncRegistry ip authorization ∧
    bearerToken authorization = some token ∧ s.recoveryTokens.get token = some p ∧
    ∀ item ∈ items, Reaches h s t p item.backendId
  | _ => True

section Isolation

variable {Γ : Ctx} {n : Nat} {h : List (String × CredentialRecord)} {s t : Gateway}

/-- What a session sees is within the reach of its credential. -/
theorem Gateway.Sees.reaches {u : Gateway} (hu : u = s ∨ u = t) (hs : u.WithinReach Γ n h) {p b : String} {peer : PeerSession}
    (hp : u.state.peers.get p = some peer) (hsees : u.Sees peer b) : Reaches h s t p b := by
  obtain ⟨-, credential, hmem, hadmitted⟩ := hs.admitted p peer hp
  obtain ⟨item, hi, hreach⟩ := hsees
  simp only [PeerSession.canReach, canReach, Bool.and_eq_true, decide_eq_true_eq, Option.all_eq_true] at hreach
  refine ⟨credential, item, hmem, ?_, hreach.1.trans hadmitted.ns, fun allowed hallowed => ?_⟩
  · rcases hu with rfl | rfl
    · exact Or.inl hi
    · exact Or.inr hi
  · exact hreach.2 allowed (hadmitted.scope.trans hallowed)

/-- What shows the registry is isolated, as the event begins or as it ends. -/
theorem Gateway.Shown.isolated {u : Gateway} (hu : u = s ∨ u = t) (hs : u.WithinReach Γ n h)
    (hsocket : ∀ p peer, u.state.peers.get p = some peer → t.sessionOf peer.ws = some p) {e : Event} {o : Output}
    (ho : u.Shown o) : o.Isolated Γ h s t e := by
  cases ho with
  | discreet hno =>
    cases o with
    | send ws m =>
      intro hyes
      exact absurd hyes (by simpa [Output.names] using hno)
    | reply r =>
      obtain ⟨status, retryAfter, body⟩ := r
      cases body <;> trivial
    | _ => trivial
  | @registry p peer m items hp hm hsees =>
    refine fun _ => ⟨p, hsocket p peer hp, ?_⟩
    cases m <;> cases hm
    · exact fun item hi => (hsees item hi).reaches hu hs hp
    · exact fun item hi => (hsees item hi).reaches hu hs hp
  | proxied hp => exact fun _ => ⟨_, hsocket _ _ hp, trivial⟩

/-- What an event asks for and what goes out for it is isolated. -/
theorem Gateway.Told.isolated (ho : s.Ownership) (hs : s.WithinReach Γ n h)
    (hsocket : ∀ p peer, s.state.peers.get p = some peer → t.sessionOf peer.ws = some p) {e : Event} {o : Output}
    (htold : s.Told (s.requested Γ e) o) : o.Isolated Γ h s t e := by
  have hreaches {p b : String} {peer : PeerSession} (hp : s.state.peers.get p = some peer) (hsees : s.Sees peer b) :
      Reaches h s t p b := hsees.reaches (Or.inl rfl) hs hp
  cases htold with
  | shown hshown => exact hshown.isolated (Or.inl rfl) hs hsocket
  | subscribed hp hact hsees => exact fun _ => ⟨_, hsocket _ _ hp, hreaches hp hsees⟩
  | retained hp hact hsees hretained => exact fun _ => ⟨_, hsocket _ _ hp, hreaches hp hsees⟩
  | published hp hact howned hsees => exact fun _ => ⟨_, hsocket _ _ hp, hreaches hp hsees⟩
  | ready hp hact hsees =>
    exact fun _ => ⟨_, hsocket _ _ hp, _, _, _, requested_message hact, ho.key _ _ hp, hreaches hp hsees⟩
  | offered hp hact hl howner hsees =>
    exact fun _ => ⟨_, hsocket _ _ howner, _, _, _, _, requested_message hact, rfl, hl, rfl,
      (ho.key _ _ hp).symm ▸ hreaches hp hsees⟩
  | serverMessage hp hact howned hsees =>
    exact fun _ => ⟨_, hsocket _ _ hp, _, _, _, requested_message hact, howned, hreaches hp hsees⟩
  | sync hact ht hp hsees =>
    obtain ⟨ip, authorization, rfl, hbearer⟩ := requested_registry hact
    exact ⟨ip, authorization, _, _, rfl, hbearer, ht, fun item hi => hreaches hp (hsees item hi)⟩

end Isolation

/-- Every message that names a backend, every registry that is recovered and every offer is within the reach of the session it
is for. Backend identifiers are UUIDs: they hold no separator of a joined key, and neither do those in the store. -/
theorem deliveries_isolated {Γ : Ctx} {storage : Storage} (hids : ∀ m, PlainId (Γ.backendIds.draw m))
    (hstorage : storage.Plain) (es : List Event) (e : Event) :
    ∀ o ∈ ((gateway Γ storage).run (es ++ [e])).net.outbox, o.Isolated Γ (admissionHistory Γ storage (es ++ [e]))
      ((gateway Γ storage).run es) ((gateway Γ storage).run (es ++ [e])) e := by
  have hreach := reach_run hids hstorage es
  have hreach' := reach_run hids hstorage (es ++ [e])
  have howned := @owned_run Γ storage es
  have hsocket := @onItsSocket_run Γ storage es
  have hsocket' := @onItsSocket_run Γ storage (es ++ [e])
  have hkept := fun ws p => @authenticated_once Γ storage _ _ (List.prefix_append es [e]) ws p
  have hhistory : admissionHistory Γ storage (es ++ [e]) =
      admissionHistory Γ storage es ++ admissions Γ ((gateway Γ storage).run es) e := EventMachine.history_snoc _ _ _ _
  have hrun := (gateway Γ storage).run_snoc es e
  generalize admissionHistory Γ storage (es ++ [e]) = h' at *
  generalize (gateway Γ storage).run (es ++ [e]) = t at *
  generalize (gateway Γ storage).run es = s at *
  change t = s.step Γ e at hrun
  rcases hu : s.uncaught with _ | error
  · rw [step_running hu] at hrun
    have hquiet : s.quiet.WithinReach Γ s.quiet.drawn (admissionHistory Γ storage es) :=
      ⟨hreach.presence, hreach.admitted, hreach.gone, hreach.drawn, hreach.subscribers⟩
    have hquieted : s.quiet.Owned Γ := ⟨howned.1.only rfl rfl rfl rfl, howned.2⟩
    intro o ho
    rcases hh : s.quiet.helloOf Γ e with _ | ⟨ws, conn, hello⟩
    · have hnone : h' = admissionHistory Γ storage es := by
        rw [hhistory, admissions, ← helloOf_quiet, hh]
        simp
      have htold := (handle_told e hquieted hquiet hh).of_quiet rfl o (by rw [hrun] at ho; exact ho)
      rw [hnone]
      exact htold.isolated hquieted.1 hquiet (fun p peer hp => hkept _ _ (hsocket p peer hp))
    · -- The items of a hello are those that their receivers see once the session is open.
      rw [handle_hello hh] at hrun
      subst hrun
      have hgreeted : (s.quiet.greet Γ ws conn hello).WithinReach Γ ((s.quiet.greet Γ ws conn hello).drawn + 1) h' :=
        ⟨hreach'.presence, hreach'.admitted, hreach'.gone, hreach'.drawn, hreach'.subscribers⟩
      have hshown := (greet_emits ws conn hello (shown_permits hgreeted)).of_quiet rfl o ho
      exact hshown.isolated (t := s.quiet.greet Γ ws conn hello) (Or.inr rfl) hgreeted hsocket'
  · rw [step_stopped hu] at hrun
    intro o ho
    rw [hrun] at ho
    cases ho

theorem IdSource.letters_plain (c : Char) (hcomma : c ≠ ',') (hstar : c ≠ '*') (hseparator : c ≠ '\x1f') (n : Nat) :
    PlainId ((IdSource.letters c).draw n) := by
  refine ⟨(IdSource.letters c).nonempty n, fun he => ?_, fun hc => ?_, fun hc => ?_⟩
  · have hfirst := congrArg (fun s => s.toList.head?) he
    simp [IdSource.letters, List.replicate_succ, hstar] at hfirst
  · simp [IdSource.letters, hcomma.symm] at hc
  · simp [IdSource.letters, hseparator.symm] at hc

theorem sampleStorage_plain : sampleStorage.Plain := by
  refine ⟨fun key row hrow => (nomatch hrow), fun id c hc => ?_⟩
  rcases InsertionMap.get_set_eq_some.mp hc with ⟨-, rfl⟩ | ⟨-, hc⟩
  · exact .none
  · rcases InsertionMap.get_set_eq_some.mp hc with ⟨-, rfl⟩ | ⟨-, hc⟩
    · exact .none
    · rcases InsertionMap.get_set_eq_some.mp hc with ⟨-, rfl⟩ | ⟨-, hc⟩
      · exact .none
      · cases hc

/-- A backend is online, and a device connects. -/
def sampleVisit : List Event := [.connect, .text 0 (sampleHello "zgb_old" true), .connect]

/-- The context of the visit. -/
def sampleVisitCtx : Ctx := .sample [sampleHello "zgb_old" true, sampleHello "zgd_device" false]

/-- The output tells a new session of the backend `B`. -/
def showsBackend (o : Output) : Bool :=
  match o with
  | .send _ (.peerReady _ _ _ _ items) => items.any (fun item => item.backendId = "B")
  | _ => false

theorem visitor_reaches_backend : ∃ p, Reaches
    (admissionHistory sampleVisitCtx sampleStorage (sampleVisit ++ [.text 2 (sampleHello "zgd_device" false)]))
    ((gateway sampleVisitCtx sampleStorage).run sampleVisit)
    ((gateway sampleVisitCtx sampleStorage).run (sampleVisit ++ [.text 2 (sampleHello "zgd_device" false)])) p "B" := by
  have hisolated := @deliveries_isolated sampleVisitCtx sampleStorage
    (IdSource.letters_plain 'b' (by decide) (by decide) (by decide)) sampleStorage_plain sampleVisit
    (.text 2 (sampleHello "zgd_device" false))
  have htold : (((gateway sampleVisitCtx sampleStorage).run (sampleVisit ++
      [.text 2 (sampleHello "zgd_device" false)])).net.outbox.any showsBackend) = true := by
    decide +kernel
  obtain ⟨o, ho, hitems⟩ := List.any_eq_true.mp htold
  unfold showsBackend at hitems
  split at hitems
  · obtain ⟨p, -, hitem⟩ := hisolated _ ho rfl
    obtain ⟨item, hi, hid⟩ := List.any_eq_true.mp hitems
    exact ⟨p, of_decide_eq_true hid ▸ hitem item hi⟩
  · cases hitems

end ZclaudiaGateway
