import ZclaudiaGateway.Lemmas.ClientTopics
import ZclaudiaGateway.Lemmas.TopicSession
import ZclaudiaGateway.Lemmas.Sample

/-!
# What the client subscribes to again

After a reconnect the client means to subscribe to every topic that has a handler, once. The keys of its topic handlers are split
at the first two separators: the frames are those of the registered pairs exactly when no registered topic holds one.
-/

namespace ZclaudiaGateway

/-- The operation is one of `resubscribeTopics`. -/
def ControlOp.resubscribes (op : ControlOp) : Bool :=
  match op.caller with
  | .resubscribeTopics _ _ _ _ => true
  | _ => false

/-- The pair that a `topic_subscribe` frame asks for. -/
def ClientOutput.topicSubscribe : ClientOutput → Option (String × String)
  | .send _ (.message (.topicSubscribe backendId topic)) => some (backendId, topic)
  | _ => none

namespace GatewayClient

/-- The pair of a backend id without a separator and a topic has handlers. -/
def Registered (c : GatewayClient) (p : String × String) : Prop :=
  '\x1f' ∉ p.1.toList ∧ c.topicHandlers.has (topicKey p.1 p.2) = true

/-- The pairs that `resubscribeTopics` asks for in the course of an event. -/
def resubscribed (o : GatewayClientOptions) (c : GatewayClient) (e : ClientEvent) : List (String × String) :=
  match e, c.opQueue with
  | .runOp, op :: _ => if op.resubscribes then (c.step o e).outbox.filterMap ClientOutput.topicSubscribe else []
  | _, _ => []

/-- The connection stays up through the event, the topic handlers stay the same, and no other handshake ends. -/
structure Steady (o : GatewayClientOptions) (ws : SocketId) (c : GatewayClient) (e : ClientEvent) : Prop where
  up : (c.step o e).Up ws
  topics : (c.step o e).topicHandlers = c.topicHandlers
  alone : ∀ ws' r peerSessionId items trigger, e = .resume ws' →
    c.sockets.get ws' ≠ some ⟨r, .control (.ready peerSessionId items) trigger⟩

variable {c c' : GatewayClient}

/-! ## The operations of the iteration -/

/-- The operations that have been run and whose caller has not gone on. -/
def heldOps (c : GatewayClient) : List ControlOp := c.runningOp.toList ++ (c.settledOp.map Prod.fst).toList

/-- The same operations of `resubscribeTopics` wait and are held. -/
structure SameResubs (c c' : GatewayClient) : Prop where
  waiting : c'.opQueue.filter ControlOp.resubscribes = c.opQueue.filter ControlOp.resubscribes
  held : c'.heldOps.filter ControlOp.resubscribes = c.heldOps.filter ControlOp.resubscribes

theorem SameResubs.of_ops (h : c'.ops = c.ops) : c.SameResubs c' := by
  have hqueue : c'.opQueue = c.opQueue := congrArg OpsPart.opQueue h
  have hrunning : c'.runningOp = c.runningOp := congrArg OpsPart.runningOp h
  have hsettled : c'.settledOp = c.settledOp := congrArg OpsPart.settledOp h
  exact ⟨by rw [hqueue], by rw [heldOps, heldOps, hrunning, hsettled]⟩

theorem SameResubs.trans {c'' : GatewayClient} (h : c.SameResubs c') (h' : c'.SameResubs c'') : c.SameResubs c'' :=
  ⟨h'.waiting.trans h.waiting, h'.held.trans h.held⟩

/-- Nothing that has settled waits for its caller while an operation runs. -/
def OneHeld (c : GatewayClient) : Prop := ∀ op, c.runningOp = some op → c.settledOp = none

theorem Slotted.oneHeld (h : c.Slotted) : c.OneHeld := fun op hop => (h op hop).2.2

theorem OneHeld.settleOp (h : c.OneHeld) (op : ControlOp) (outcome : OpOutcome) : c.SameResubs (c.settleOp op outcome) := by
  unfold GatewayClient.settleOp
  dsimp only
  split
  · rename_i hrun
    refine ⟨rfl, ?_⟩
    have hsettled := h op hrun
    change c.runningOp = some op at hrun
    unfold heldOps
    rw [hrun, hsettled]
    rfl
  · exact ⟨rfl, rfl⟩

/-- The slot for the reply is emptied first. -/
theorem OneHeld.settle (h : c.OneHeld) (op : ControlOp) (outcome : OpOutcome) :
    c.SameResubs ({ c with pendingOp := none }.settleOp op outcome) := by
  have hpending : ({ c with pendingOp := none } : GatewayClient).OneHeld := h
  exact ⟨(hpending.settleOp op outcome).waiting, (hpending.settleOp op outcome).held⟩

theorem OneHeld.settlePending (h : c.OneHeld) (type : ReplyType) (reply : GatewayToPeer) :
    c.SameResubs (c.settlePending type reply) := by
  unfold GatewayClient.settlePending
  split
  · split
    · exact h.settle _ _
    · exact .of_ops rfl
  · exact .of_ops rfl

theorem OneHeld.failPending (h : c.OneHeld) (error : OpError) : c.SameResubs (c.failPending error) := by
  unfold GatewayClient.failPending
  split
  · exact h.settle _ _
  · exact .of_ops rfl

theorem OneHeld.opTimeout (h : c.OneHeld) (op : ControlOp) : c.SameResubs (c.opTimeout op) := by
  unfold GatewayClient.opTimeout
  split
  · dsimp only
    split
    · exact h.settle _ _
    · exact h.settleOp _ _
  · exact .of_ops rfl

/-- An event that neither runs an operation nor lets a caller go on leaves the iteration where it is. -/
theorem sameResubs_handle {o : GatewayClientOptions} {e : ClientEvent} (h : c.OneHeld) (hrun : e ≠ .runOp)
    (hresume : e ≠ .resumeOp)
    (halone : ∀ ws r peerSessionId items trigger, e = .resume ws →
      c.sockets.get ws ≠ some ⟨r, .control (.ready peerSessionId items) trigger⟩) : c.SameResubs (c.handle o e) := by
  obtain ⟨d, hd, hs⟩ := handle_ops o c e
  refine SameResubs.trans ?_ (.of_ops hs.1)
  have hnext : (c.handle o e).nextOp = d.nextOp := hs.nextOp
  have hqueue : (c.handle o e).opQueue = d.opQueue := congrArg OpsPart.opQueue hs.1
  cases hd with
  | idle => exact .of_ops rfl
  | issue e caller =>
    have hissue : c.issue e = some caller := issue_of_handle hnext hqueue
    have hother : ControlOp.resubscribes ⟨c.nextOp, caller⟩ = false := by
      unfold issue at hissue
      split at hissue
      · cases hissue
        rfl
      · cases hissue
        rfl
      · split at hissue
        · split at hissue
          · cases hissue
            rfl
          · exact nomatch hissue
        · exact nomatch hissue
      · rename_i ws
        split at hissue
        · rename_i r peerSessionId items trigger hk
          exact absurd hk (halone ws r peerSessionId items trigger rfl)
        · exact nomatch hissue
      · exact absurd rfl hresume
      · exact nomatch hissue
    refine ⟨?_, rfl⟩
    change (c.opQueue ++ [(⟨c.nextOp, caller⟩ : ControlOp)]).filter ControlOp.resubscribes = _
    rw [List.filter_append, List.filter_cons_of_neg (by rw [hother]; decide), List.filter_nil, List.append_nil]
  | settle ws type message _ _ => exact h.settlePending _ _
  | fail ws code text _ => exact h.failPending _
  | lose ws => exact h.failPending _
  | dialed ws r target channelId _ => exact .of_ops rfl
  | run => exact absurd rfl hrun
  | timeout op => exact h.opTimeout op
  | resumed => exact absurd rfl hresume
  | next caller => exact absurd rfl hresume

/-! ## How far the iteration is -/

/-- The pair that `resubscribeTopics` reads from a key. -/
def pairOf (p : String × TopicHandlers) : String × String := splitKey p.1

/-- The operation of the iteration at an entry. -/
def At (p : String × TopicHandlers) (op : ControlOp) : Prop :=
  ∃ trigger, op.caller = .resubscribeTopics trigger p.2.stamp (pairOf p).1 (pairOf p).2

/-- The iteration over the entries has asked for the pairs so far. -/
inductive Loop (entries : List (String × TopicHandlers)) (c : GatewayClient) (asked : List (String × String)) : Prop where
  | waiting (before after : List (String × TopicHandlers)) (p : String × TopicHandlers) (op : ControlOp) :
      entries = before ++ p :: after → At p op → c.opQueue.filter ControlOp.resubscribes = [op] →
      c.heldOps.filter ControlOp.resubscribes = [] → asked = before.map pairOf → Loop entries c asked
  | sent (before after : List (String × TopicHandlers)) (p : String × TopicHandlers) (op : ControlOp) :
      entries = before ++ p :: after → At p op → c.opQueue.filter ControlOp.resubscribes = [] →
      c.heldOps.filter ControlOp.resubscribes = [op] → asked = (before ++ [p]).map pairOf → Loop entries c asked
  | done : c.opQueue.filter ControlOp.resubscribes = [] → c.heldOps.filter ControlOp.resubscribes = [] →
      asked = entries.map pairOf → Loop entries c asked

variable {entries : List (String × TopicHandlers)} {asked : List (String × String)}

theorem Loop.of_same (h : Loop entries c asked) (hs : c.SameResubs c') : Loop entries c' asked := by
  cases h with
  | waiting before after p op he hat hw hh ha =>
    exact .waiting before after p op he hat (hs.waiting.trans hw) (hs.held.trans hh) ha
  | sent before after p op he hat hw hh ha =>
    exact .sent before after p op he hat (hs.waiting.trans hw) (hs.held.trans hh) ha
  | done hw hh ha => exact .done (hs.waiting.trans hw) (hs.held.trans hh) ha

theorem At.resubscribes {p : String × TopicHandlers} {op : ControlOp} (h : At p op) : op.resubscribes = true := by
  obtain ⟨trigger, h⟩ := h
  rw [ControlOp.resubscribes, h]

/-- The iteration goes on behind the entries it has asked for. -/
theorem loop_resubscribeFrom {before after : List (String × TopicHandlers)} {trigger : Trigger} {stamp : Nat}
    (hnext : c.nextResubscribe trigger stamp = after.head?.map
      (fun p => .resubscribeTopics trigger p.2.stamp (splitKey p.1).1 (splitKey p.1).2))
    (he : entries = before ++ after) (hw : c.opQueue.filter ControlOp.resubscribes = [])
    (hh : c.heldOps.filter ControlOp.resubscribes = []) (ha : asked = before.map pairOf) :
    Loop entries (c.resubscribeFrom trigger stamp) asked := by
  rw [resubscribeFrom_eq, hnext]
  cases after with
  | nil =>
    have hdone : Loop entries c asked := .done hw hh (by rw [ha, he, List.append_nil])
    simp only [List.head?_nil, Option.map_none]
    split
    · exact hdone.of_same ⟨rfl, rfl⟩
    · exact hdone
  | cons p after =>
    have hat : At p ⟨c.nextOp, .resubscribeTopics trigger p.2.stamp (splitKey p.1).1 (splitKey p.1).2⟩ := ⟨trigger, rfl⟩
    refine .waiting before after p _ he hat ?_ hh ha
    change (c.opQueue ++ [_]).filter ControlOp.resubscribes = _
    rw [List.filter_append, hw, List.filter_cons_of_pos hat.resubscribes, List.filter_nil]
    rfl

/-- An operation of the iteration that is run asks for its pair. -/
theorem Loop.runOp {o : GatewayClientOptions} {ws : SocketId} (h : Loop entries c asked) (hup : c.Up ws) :
    Loop entries (c.step o .runOp) (asked ++ c.resubscribed o .runOp) := by
  have hq : c.quiet.Up ws := hup.of_session rfl
  have hidle (hsame : c.quiet.runOp = c.quiet) : Loop entries (c.step o .runOp) (asked ++ c.resubscribed o .runOp) := by
    have hstep : c.step o .runOp = c.quiet := hsame
    have hnone : c.resubscribed o .runOp = [] := by
      unfold resubscribed
      split
      · rw [hstep]
        split <;> rfl
      · rfl
    rw [hstep, hnone, List.append_nil]
    exact h.of_same (.of_ops rfl)
  rcases hqueue : c.opQueue with _ | ⟨op, rest⟩
  · exact hidle (runOp_idle (Or.inl hqueue))
  rcases hrun : c.runningOp with _ | running
  case some => exact hidle (runOp_idle (Or.inr (Or.inl (by rw [show c.quiet.runningOp = _ from hrun]; nofun))))
  rcases hsettled : c.settledOp with _ | settled
  case some => exact hidle (runOp_idle (Or.inr (Or.inr (by rw [show c.quiet.settledOp = _ from hsettled]; nofun))))
  have hstep : c.step o .runOp = _ := hq.runOp hqueue hrun hsettled
  have hasked : c.resubscribed o .runOp =
      if op.resubscribes then [ClientOutput.send ws (.message op.caller.request)].filterMap ClientOutput.topicSubscribe
      else [] := by
    unfold resubscribed
    rw [hqueue, hstep]
    rfl
  have hheld : c.heldOps = [] := by rw [heldOps, hrun, hsettled]; rfl
  have hheld' : (c.step o .runOp).heldOps = [op] := by
    rw [hstep, heldOps]
    simp only
    rw [show c.quiet.settledOp = none from hsettled]
    rfl
  have hqueue' : (c.step o .runOp).opQueue = rest := by rw [hstep]
  rw [hasked]
  cases hr : op.resubscribes with
  | false =>
    rw [if_neg (by decide), List.append_nil]
    refine h.of_same ⟨?_, ?_⟩
    · rw [hqueue', hqueue, List.filter_cons_of_neg (by rw [hr]; decide)]
    · rw [hheld', hheld, List.filter_cons_of_neg (by rw [hr]; decide)]
  | true =>
    rw [if_pos rfl]
    have hfilter : c.opQueue.filter ControlOp.resubscribes = op :: rest.filter ControlOp.resubscribes := by
      rw [hqueue, List.filter_cons_of_pos hr]
    cases h with
    | waiting before after p op' he hat hw hh ha =>
      rw [hfilter, List.cons.injEq] at hw
      obtain ⟨rfl, hrest⟩ := hw
      obtain ⟨trigger, hcaller⟩ := hat
      refine .sent before after p op he ⟨trigger, hcaller⟩ (hqueue' ▸ hrest) ?_ ?_
      · rw [hheld', List.filter_cons_of_pos hr, List.filter_nil]
      · rw [ha, hcaller, List.map_append]
        rfl
    | sent before after p op' he hat hw hh ha => exact nomatch hfilter.symm.trans hw
    | done hw hh ha => exact nomatch hfilter.symm.trans hw

/-- An operation of the iteration whose caller goes on is followed by the next one. -/
theorem Loop.resumeOp (h : Loop entries c asked) (hone : c.OneHeld) (hstamped : Stamped c.topics)
    (hentries : entries = c.topicHandlers.entries) : Loop entries c.resumeOp asked := by
  rcases hsettled : c.settledOp with _ | ⟨op, outcome⟩
  · have hsame : c.resumeOp = c := by
      unfold GatewayClient.resumeOp
      rw [hsettled]
    rwa [hsame]
  have hrun : c.runningOp = none := by
    cases hrun : c.runningOp with
    | none => rfl
    | some running => exact nomatch (hone running hrun).symm.trans hsettled
  have hheld : c.heldOps = [op] := by rw [heldOps, hrun, hsettled]; rfl
  generalize hd : ({ c with settledOp := none } : GatewayClient) = d
  have hdqueue : d.opQueue = c.opQueue := by rw [← hd]
  have hdheld : d.heldOps = [] := by
    rw [← hd, heldOps]
    simp only
    rw [hrun]
    rfl
  have hdtopics : d.topics = c.topics := by rw [← hd]; rfl
  have hother (hr : op.resubscribes = false) (hops : c.resumeOp.ops = d.ops) : Loop entries c.resumeOp asked := by
    refine h.of_same (SameResubs.trans ⟨by rw [hdqueue], ?_⟩ (.of_ops hops))
    rw [hdheld, hheld, List.filter_cons_of_neg (by rw [hr]; decide)]
  rcases op with ⟨id, caller⟩
  cases caller with
  | openChannel target kind =>
    refine hother rfl ?_
    unfold GatewayClient.resumeOp
    rw [hsettled]
    dsimp only
    rw [hd]
    rcases outcome with reply | error
    · cases reply <;> rfl
    · rfl
  | subscribeTopic backendId topic handler =>
    refine hother rfl ?_
    unfold GatewayClient.resumeOp
    rw [hsettled]
    dsimp only
    rw [hd]
    cases outcome with
    | resolved reply => exact (addHandler_ops d backendId topic handler).1
    | rejected error => rfl
  | unsubscribe backendId topic =>
    refine hother rfl ?_
    unfold GatewayClient.resumeOp
    rw [hsettled]
    dsimp only
    rw [hd]
  | resubscribeTopics trigger stamp backendId topic =>
    have hresume : c.resumeOp = d.resubscribeFrom trigger (stamp + 1) := by
      unfold GatewayClient.resumeOp
      rw [hsettled]
      dsimp only
      rw [hd]
    rw [hresume]
    have hfilter : c.heldOps.filter ControlOp.resubscribes = [⟨id, .resubscribeTopics trigger stamp backendId topic⟩] := by
      rw [hheld]
      rfl
    cases h with
    | waiting before after p op he hat hw hh ha => exact nomatch hfilter.symm.trans hh
    | done hw hh ha => exact nomatch hfilter.symm.trans hh
    | sent before after p op he hat hw hh ha =>
      rw [hfilter, List.singleton_inj] at hh
      subst hh
      obtain ⟨trigger', hcaller⟩ := hat
      injection hcaller with htrigger hstamp
      subst hstamp
      have hdentries : d.topicHandlers.entries = before ++ p :: after := by
        rw [show d.topicHandlers = c.topicHandlers from congrArg TopicsPart.topicHandlers hdtopics, ← hentries, he]
      have hnext := nextResubscribe_succ (by rw [hdtopics]; exact hstamped) trigger hdentries
      exact loop_resubscribeFrom hnext (he.trans (by simp)) (hdqueue ▸ hw) (by rw [hdheld]; rfl) ha

/-- A steady event moves the iteration along. -/
theorem Loop.step {o : GatewayClientOptions} {ws : SocketId} {e : ClientEvent} (h : Loop entries c asked) (hup : c.Up ws)
    (hslotted : c.Slotted) (hstamped : Stamped c.topics) (hentries : entries = c.topicHandlers.entries)
    (hsteady : c.Steady o ws e) : Loop entries (c.step o e) (asked ++ c.resubscribed o e) := by
  have hone : c.quiet.OneHeld := hslotted.oneHeld
  have hquiet : Loop entries c.quiet asked := h.of_same (.of_ops rfl)
  by_cases hrun : e = .runOp
  · subst hrun
    exact h.runOp hup
  · have hnone : c.resubscribed o e = [] := by
      unfold resubscribed
      split
      · exact absurd rfl hrun
      · rfl
    rw [hnone, List.append_nil]
    by_cases hresume : e = .resumeOp
    · subst hresume
      exact hquiet.resumeOp hone hstamped hentries
    · exact hquiet.of_same (sameResubs_handle hone hrun hresume hsteady.alone)

/-! ## Every run -/

theorem Slotted.step (h : c.Slotted) (o : GatewayClientOptions) (e : ClientEvent) : (c.step o e).Slotted := by
  obtain ⟨d, hd, hs⟩ := handle_ops o c.quiet e
  exact Slotted.of_ops (hd.slotted h) hs.1

theorem slotted_run (o : GatewayClientOptions) (es : List ClientEvent) : ((client o).run es).Slotted :=
  (client o).invariant (slotted_of_none rfl) (fun _ e h => h.step o e) es

theorem stamped_run (o : GatewayClientOptions) (es : List ClientEvent) : Stamped ((client o).run es).topics :=
  (client o).invariant (I := fun c => Stamped c.topics) ⟨List.Pairwise.nil, fun _ hp => nomatch hp⟩
    (fun c e h => (topics_handle o c.quiet e).stamped h) es

/-- The backend ids that the application gives have no separator. -/
def PlainIds (es : List ClientEvent) : Prop :=
  ∀ backendId topic handler, ClientEvent.subscribeTopic backendId topic handler ∈ es → '\x1f' ∉ backendId.toList

theorem issue_subscribeTopic {e : ClientEvent} {backendId topic : String} {handler : HandlerId}
    (h : c.issue e = some (.subscribeTopic backendId topic handler)) : e = .subscribeTopic backendId topic handler := by
  have hnext {trigger : Trigger} {stamp : Nat} {p : Prop}
      (h : c.nextResubscribe trigger stamp = some (.subscribeTopic backendId topic handler)) : p := by
    unfold nextResubscribe at h
    obtain ⟨q, -, hq⟩ := Option.map_eq_some_iff.mp h
    exact nomatch hq
  unfold issue at h
  split at h
  · exact nomatch h
  · cases h
    rfl
  · split at h
    · split at h <;> exact nomatch h
    · exact nomatch h
  · split at h
    · exact hnext h
    · exact nomatch h
  · split at h
    · exact hnext h
    · exact nomatch h
  · exact nomatch h

theorem joined_run (o : GatewayClientOptions) {es : List ClientEvent} (hids : PlainIds es) :
    Joined ((client o).run es).topics := by
  suffices hboth : Joined ((client o).run es).topics ∧ ∀ op ∈ ((client o).run es).inFlight, ∀ backendId topic handler,
      op.caller = .subscribeTopic backendId topic handler → '\x1f' ∉ backendId.toList from hboth.1
  induction es using List.reverseRecOn with
  | nil => exact ⟨fun _ hp => (nomatch hp), fun _ hop => (nomatch hop)⟩
  | append_singleton es e ih =>
    obtain ⟨hjoined, hflight⟩ := ih (fun backendId topic handler h =>
      hids backendId topic handler (List.mem_append_left _ h))
    rw [EventMachine.run_snoc]
    constructor
    · refine (topics_handle o ((client o).run es).quiet e).joined hjoined ?_
      intro op outcome backendId topic handler hop hcaller
      exact hflight op (mem_inFlight.mpr (Or.inr (Or.inr ⟨outcome, hop⟩))) backendId topic handler hcaller
    · intro op hop backendId topic handler hcaller
      rcases mem_inFlight_handle hop with hop | hissue
      · exact hflight op hop backendId topic handler hcaller
      · rw [hcaller] at hissue
        have he := issue_subscribeTopic hissue
        exact hids backendId topic handler (by rw [he]; simp)

/-- A handshake that ends starts the iteration at the first entry. -/
theorem loop_resume {o : GatewayClientOptions} {ws : SocketId} {r : WebSocketState} {peerSessionId : String}
    {items : List BackendPresence} {trigger : Trigger}
    (hk : c.sockets.get ws = some ⟨r, .control (.ready peerSessionId items) trigger⟩)
    (hidle : ∀ op ∈ c.inFlight, op.resubscribes = false) :
    Loop c.topicHandlers.entries (c.step o (.resume ws)) [] ∧
      (c.step o (.resume ws)).topicHandlers = c.topicHandlers := by
  have hnone (l : List ControlOp) (hl : ∀ op ∈ l, op ∈ c.inFlight) : l.filter ControlOp.resubscribes = [] := by
    rw [List.filter_eq_nil_iff]
    intro op hop
    rw [hidle op (hl op hop)]
    decide
  generalize hd : ({ c.quiet.setAttempt ws .established trigger with
    peerSessionId, registryItems := items, reconnectAttempt := 0, state := .connected } : GatewayClient) = d
  have hstep : c.step o (.resume ws) = d.resubscribeFrom trigger 0 := by
    rw [← hd]
    change c.quiet.resume o ws = _
    unfold GatewayClient.resume
    rw [show c.quiet.sockets.get ws = _ from hk]
  have htopics : d.topicHandlers = c.topicHandlers := by rw [← hd]; rfl
  have hqueue : d.opQueue = c.opQueue := by rw [← hd]; rfl
  have hheld : d.heldOps = c.heldOps := by rw [← hd]; rfl
  rw [hstep]
  constructor
  · have hnext := nextResubscribe_zero d trigger
    rw [htopics] at hnext
    refine loop_resubscribeFrom hnext (List.nil_append _).symm ?_ ?_ rfl
    · rw [hqueue]
      exact hnone _ (fun op hop => mem_inFlight.mpr (Or.inl hop))
    · rw [hheld]
      refine hnone _ (fun op hop => ?_)
      unfold inFlight
      rw [List.append_assoc]
      exact List.mem_append_right _ hop
  · exact (congrArg TopicsPart.topicHandlers (topics_resubscribeFrom d trigger 0)).trans htopics

/-! ## Keys and pairs -/

/-- What the iteration has asked for in the end are the registered pairs, when no topic among them holds a separator. -/
theorem pairs_eq_iff (hjoined : Joined c.topics) :
    ((c.topicHandlers.entries.map pairOf).Nodup ∧ ∀ p, p ∈ c.topicHandlers.entries.map pairOf ↔ c.Registered p) ↔
      ∀ p, c.Registered p → '\x1f' ∉ p.2.toList := by
  constructor
  · rintro ⟨-, hmem⟩ p hp
    obtain ⟨q, -, rfl⟩ := List.mem_map.mp ((hmem p).mpr hp)
    exact not_mem_splitKey_snd q.1
  · intro hplain
    have hpair (q : String × TopicHandlers) (hq : q ∈ c.topicHandlers.entries) :
        c.Registered (pairOf q) ∧ topicKey (pairOf q).1 (pairOf q).2 = q.1 := by
      obtain ⟨backendId, topic, hb, hkey⟩ := hjoined q hq
      have hreg : c.Registered (backendId, topic) :=
        ⟨hb, InsertionMap.has_iff.mpr ⟨q.2, hkey ▸ InsertionMap.mem_entries_iff.mp hq⟩⟩
      have hsplit : pairOf q = (backendId, topic) := by
        rw [pairOf, hkey, splitKey_topicKey_of_not_mem hb (hplain _ hreg)]
      rw [hsplit]
      exact ⟨hreg, hkey.symm⟩
    constructor
    · have hkeys : (c.topicHandlers.entries.map (fun q => topicKey (pairOf q).1 (pairOf q).2)).Nodup := by
        rw [List.map_congr_left (g := Prod.fst) (fun q hq => (hpair q hq).2)]
        exact c.topicHandlers.nodup
      have hcomp : c.topicHandlers.entries.map (fun q => topicKey (pairOf q).1 (pairOf q).2) =
          (c.topicHandlers.entries.map pairOf).map (fun p => topicKey p.1 p.2) := by rw [List.map_map]; rfl
      rw [hcomp] at hkeys
      exact hkeys.of_map _
    · intro p
      constructor
      · intro hp
        obtain ⟨q, hq, rfl⟩ := List.mem_map.mp hp
        exact (hpair q hq).1
      · rintro ⟨hb, hhas⟩
        obtain ⟨entry, hentry⟩ := InsertionMap.has_iff.mp hhas
        refine List.mem_map.mpr ⟨(topicKey p.1 p.2, entry), InsertionMap.mem_entries_iff.mpr hentry, ?_⟩
        exact splitKey_topicKey_of_not_mem hb (hplain p ⟨hb, hhas⟩)

end GatewayClient

open GatewayClient

/-- A handshake ends while nothing resubscribes, and the connection stays up until nothing resubscribes any more: the client has
then asked for the registered pairs, each once, if and only if none of their topics holds a separator. -/
theorem resubscribes_registered_iff (o : GatewayClientOptions) (es es' : List ClientEvent) (ws : SocketId) (hids : PlainIds es)
    (hready : ∃ r peerSessionId items trigger,
      ((client o).run es).sockets.get ws = some ⟨r, .control (.ready peerSessionId items) trigger⟩)
    (hidle : ∀ op ∈ ((client o).run es).inFlight, op.resubscribes = false)
    (hup : ((client o).run (es ++ [.resume ws])).Up ws)
    (hsteady : ((client o).since ((client o).run (es ++ [.resume ws]))).Meets (Steady o ws) es')
    (hdone : ∀ op ∈ ((client o).run (es ++ [.resume ws] ++ es')).inFlight, op.resubscribes = false) :
    ((((client o).since ((client o).run (es ++ [.resume ws]))).history (resubscribed o) es').Nodup ∧
      ∀ p, p ∈ ((client o).since ((client o).run (es ++ [.resume ws]))).history (resubscribed o) es' ↔
        ((client o).run es).Registered p) ↔
      ∀ p, ((client o).run es).Registered p → '\x1f' ∉ p.2.toList := by
  obtain ⟨r, peerSessionId, items, trigger, hk⟩ := hready
  generalize hM : (client o).since ((client o).run (es ++ [.resume ws])) = M at hsteady ⊢
  have hrunM (es' : List ClientEvent) : M.run es' = (client o).run (es ++ [.resume ws] ++ es') := by
    rw [← hM, EventMachine.run_since]
  have hstepM : M.step = GatewayClient.step o := by rw [← hM]; rfl
  have hloop : Loop ((client o).run es).topicHandlers.entries (M.run es') (M.history (resubscribed o) es') ∧
      (M.run es').topicHandlers = ((client o).run es).topicHandlers ∧ (M.run es').Up ws := by
    clear hdone
    induction es' using List.reverseRecOn with
    | nil =>
      have hstart := loop_resume (o := o) hk hidle
      rw [hrunM, List.append_nil, EventMachine.history_nil]
      rw [EventMachine.run_snoc] at hup ⊢
      exact ⟨hstart.1, hstart.2, hup⟩
    | append_singleton es' e ih =>
      rw [EventMachine.meets_snoc_iff] at hsteady
      obtain ⟨hloop, htopics, hup'⟩ := ih hsteady.1
      rw [EventMachine.run_snoc, EventMachine.history_snoc, hstepM]
      refine ⟨hloop.step hup' ?_ ?_ (by rw [htopics]) hsteady.2, hsteady.2.topics.trans htopics, hsteady.2.up⟩
      · rw [hrunM]
        exact slotted_run o _
      · rw [hrunM]
        exact stamped_run o _
  rw [← hrunM] at hdone
  have hasked : M.history (resubscribed o) es' = ((client o).run es).topicHandlers.entries.map pairOf := by
    have hlast {l : List ControlOp} {op : ControlOp} (hl : l.filter ControlOp.resubscribes = [op])
        (hin : ∀ op ∈ l, op ∈ (M.run es').inFlight) {p : Prop} : p := by
      have hop : op ∈ l.filter ControlOp.resubscribes := by rw [hl]; exact List.mem_singleton_self op
      have hboth := List.mem_filter.mp hop
      rw [hdone op (hin op hboth.1)] at hboth
      cases hboth.2
    cases hloop.1 with
    | waiting before after p op he hat hw hh ha => exact hlast hw (fun op hop => mem_inFlight.mpr (Or.inl hop))
    | sent before after p op he hat hw hh ha =>
      refine hlast hh (fun op hop => ?_)
      unfold inFlight
      rw [List.append_assoc]
      exact List.mem_append_right _ hop
    | done hw hh ha => exact ha
  rw [hasked]
  exact pairs_eq_iff (joined_run o hids)

/-- A handler is subscribed in the first session, the connection is lost, and the handshake of the next one is answered. -/
def sampleReconnect (backendId topic : String) : List ClientEvent :=
  sampleConnect ++ [.subscribeTopic backendId topic 7, .runOp, .message 0 (some (.topicSubscribed backendId topic)), .resumeOp,
    .closed 0, .reconnectTimer 0, .opened 1, .resume 1,
    .message 1 (some (.peerReady 4 "session" "recovery" none []))]

/-- The topic is subscribed again. -/
def sampleResubscribe (backendId topic : String) : List ClientEvent :=
  [.runOp, .message 1 (some (.topicSubscribed backendId topic)), .resumeOp]

theorem resubscribes_registered_iff_sample :
    ("B", "news") ∈ ((client sampleClientOptions).since
        ((client sampleClientOptions).run (sampleReconnect "B" "news" ++ [.resume 1]))).history
          (resubscribed sampleClientOptions) (sampleResubscribe "B" "news") ↔
      ((client sampleClientOptions).run (sampleReconnect "B" "news")).Registered ("B", "news") := by
  refine ((resubscribes_registered_iff sampleClientOptions (sampleReconnect "B" "news") (sampleResubscribe "B" "news") 1
    ?_ ⟨.open_, "session", [], .reconnectTimer, rfl⟩ ?_ ⟨rfl, rfl, ⟨.reconnectTimer, rfl⟩, fun _ _ h => (nomatch h)⟩ ?_ ?_).mpr ?_).2 _
  · intro backendId topic handler h
    simp only [sampleReconnect, sampleConnect, List.cons_append, List.nil_append, List.mem_cons, reduceCtorEq,
      ClientEvent.subscribeTopic.injEq, List.not_mem_nil, or_false, false_or] at h
    rw [h.1]
    decide
  · exact fun _ h => (nomatch h)
  · rw [EventMachine.meets_iff_take]
    rintro (_ | _ | _ | i) hi
    · exact ⟨⟨rfl, rfl, ⟨.reconnectTimer, rfl⟩, fun _ _ h => (nomatch h)⟩, rfl, nofun⟩
    · exact ⟨⟨rfl, rfl, ⟨.reconnectTimer, rfl⟩, fun _ _ h => (nomatch h)⟩, rfl, nofun⟩
    · exact ⟨⟨rfl, rfl, ⟨.reconnectTimer, rfl⟩, fun _ _ h => (nomatch h)⟩, rfl, nofun⟩
    · have hlength : (sampleResubscribe "B" "news").length = 3 := rfl
      omega
  · exact fun _ h => (nomatch h)
  · rintro ⟨backendId, topic⟩ ⟨hb, hhas⟩
    have hkey : topicKey backendId topic ∈ [topicKey "B" "news"] := InsertionMap.has_iff_mem_keys.mp hhas
    obtain ⟨rfl, rfl⟩ := topicKey_injective hb (by decide) (List.mem_singleton.mp hkey)
    decide

/-- The topic `a\x1fb` is accepted and has a handler, but what the client asks for after the reconnect is the topic `a`. -/
theorem topic_with_separator_truncated :
    validateGatewayMessage (.obj [("type", .str "topic_subscribe"), ("backendId", .str "B"), ("topic", .str "a\x1fb")]) = none ∧
      ((client sampleClientOptions).run (sampleReconnect "B" "a\x1fb")).topicHandlers.has (topicKey "B" "a\x1fb") = true ∧
      ((client sampleClientOptions).since
        ((client sampleClientOptions).run (sampleReconnect "B" "a\x1fb" ++ [.resume 1]))).history
          (resubscribed sampleClientOptions) (sampleResubscribe "B" "a\x1fb") = [("B", "a")] := by
  refine ⟨?_, ?_, ?_⟩
  · decide +kernel
  · decide +kernel
  · decide +kernel

end ZclaudiaGateway
