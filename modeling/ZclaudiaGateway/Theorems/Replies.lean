import ZclaudiaGateway.Lemmas.ClientOps
import ZclaudiaGateway.Lemmas.Sample

/-!
# Replies to the client's operations

A client together with what is on its way between it and a gateway that answers the requests of a connection in order. The
protocol carries no reference from a reply to its request, and the client gives every reply to the operation that runs. That
operation sent the request in every run in which no answer to an operation that has already settled arrives while another one
runs that would take it.
-/

namespace ZclaudiaGateway

/-- How the gateway answers a request. -/
inductive Answer where
  | granted (ticket dataPath : String)
  | refused (code : GatewayErrorCode) (message : String)

/-- The message that carries an answer; `channelId` is that of the channel an opened one gets. -/
def Answer.message (channelId : String) : Answer → GatewayMessage → GatewayToPeer
  | .refused code text, _ => .gatewayError code text
  | .granted ticket dataPath, .channelOpen _ _ => .channelReady channelId ticket dataPath
  | .granted _ _, .topicSubscribe backendId topic => .topicSubscribed backendId topic
  | .granted _ _, .topicUnsubscribe backendId topic => .topicUnsubscribed backendId topic
  | .granted _ _, _ => .pong none

/-- How an operation settles that gets its own answer. -/
def Answer.outcome (channelId : String) : Answer → GatewayMessage → OpOutcome
  | .refused code text, _ => .rejected (.gateway code text)
  | a, request => .resolved (a.message channelId request)

/-- An operation that runs takes the answer for one of its own: it expects the same reply, or the answer is an error. -/
def Answer.TakenBy (running op : ControlOp) : Answer → Prop
  | .granted _ _ => running.caller.expect = op.caller.expect
  | .refused _ _ => True

/-- The client and what is on its way. -/
structure Dialogue where
  client : GatewayClient
  /-- By socket, the operations whose request has gone out and whose answer has not arrived, the oldest first. -/
  asked : SocketId → List ControlOp
  /-- The channels the gateway has opened, with the targets of their requests. -/
  opened : List (String × String)
  /-- The operations that have settled. -/
  settled : List (ControlOp × OpOutcome)

inductive DialogueEvent where
  /-- An event of the client other than the arrival of an answer. -/
  | event (e : ClientEvent)
  /-- The answer to the oldest request of a connection arrives. -/
  | answer (ws : SocketId) (a : Answer)

/-- The event is one of the client's own: a continuation runs or a timer of an operation fires. -/
def DialogueEvent.IsOwn : DialogueEvent → Prop
  | .event .runOp | .event .resumeOp | .event (.opTimeout _) => True
  | _ => False

namespace Dialogue

def init : Dialogue := ⟨.init, fun _ => [], [], []⟩

/-- On a connection with its `peer_ready` nothing but an answer looks like one. -/
def unanswered (d : Dialogue) : ClientEvent → ClientEvent
  | .message ws (some message) => if d.client.routed ws && message.isAnswer then .message ws none else .message ws (some message)
  | e => e

/-- The requests that go out in the course of an event, each with the operation that runs. -/
def requests (c : GatewayClient) : List (SocketId × ControlOp) :=
  c.outbox.filterMap (fun
    | .send ws (.message _) => c.pendingOp.map (fun op => (ws, op))
    | _ => none)

/-- The client handles an event; what it sends is on its way. -/
def deliver (o : GatewayClientOptions) (e : ClientEvent) (d : Dialogue) : Dialogue :=
  let client := d.client.step o e
  { d with
    client
    asked := fun ws => d.asked ws ++ ((requests client).filter (fun p => p.1 = ws)).map Prod.snd
    settled := d.settled ++ client.settles }

def step (o : GatewayClientOptions) (channelIds : IdSource) (d : Dialogue) : DialogueEvent → Dialogue
  | .event e => d.deliver o (d.unanswered e)
  | .answer ws a =>
    match d.asked ws with
    | [] => d.deliver o (.message ws none)
    | op :: rest =>
      let channelId := channelIds.draw d.opened.length
      let d := { d with asked := fun ws' => if ws' = ws then rest else d.asked ws' }
      let d :=
        match a, op.caller with
        | .granted _ _, .openChannel target _ => { d with opened := d.opened ++ [(channelId, target)] }
        | _, _ => d
      d.deliver o (.message ws (some (a.message channelId op.caller.request)))

end Dialogue

/-- The client and its gateway as an event machine. -/
def dialogue (o : GatewayClientOptions) (channelIds : IdSource) : EventMachine Dialogue DialogueEvent :=
  ⟨.init, Dialogue.step o channelIds⟩

namespace Dialogue

/-! ## Replies and the requests they answer -/

/-- What settles in the step settles with the answer to its own request, or for a reason of the client's own. -/
def Matched (o : GatewayClientOptions) (channelIds : IdSource) (d : Dialogue) (e : DialogueEvent) : Prop :=
  ∀ op outcome, (op, outcome) ∈ (d.step o channelIds e).client.settles → 
    match e with
    | .answer ws a =>
      (d.asked ws).head? = some op ∧ outcome = a.outcome (channelIds.draw d.opened.length) op.caller.request
    | .event _ =>
      match outcome with
      | .resolved _ | .rejected (.gateway _ _) => False
      | _ => True

/-- What `openChannel` resolves with in the step is a channel the gateway opened to its target. -/
def Reaches (o : GatewayClientOptions) (channelIds : IdSource) (d : Dialogue) (e : DialogueEvent) : Prop :=
  ∀ target channelId, .channel target channelId ∈ (d.step o channelIds e).client.outbox → (channelId, target) ∈ d.opened

/-- The answer to an operation that has settled arrives on a connection while another operation runs that takes it. -/
def Late (d : Dialogue) : DialogueEvent → Prop
  | .event _ => False
  | .answer ws a =>
    ∃ op running, (d.asked ws).head? = some op ∧ d.client.runningOp = some running ∧ running ≠ op ∧ d.client.routed ws = true ∧
      a.TakenBy running op

variable {o : GatewayClientOptions} {channelIds : IdSource} {d : Dialogue} {e : DialogueEvent}

/-! ## One step -/

theorem settles_quiet (c : GatewayClient) : c.quiet.settles = [] := rfl

theorem reports_quiet (c : GatewayClient) : c.quiet.reports = [] := rfl

/-- What a step of the client reports, it reports for a reason. -/
theorem reported_of_step {c : GatewayClient} {e : ClientEvent} {r : ClientOutput} (h : r ∈ (c.step o e).reports) :
    c.Reported e r := by
  obtain ⟨m, hm, hsame⟩ := GatewayClient.handle_ops o c.quiet e
  have hr : r ∈ m.reports := by rw [← hsame.2]; exact h
  rcases hm.mem_reports hr with hr | hr
  · rw [reports_quiet] at hr
    exact nomatch hr
  · cases r with
    | settle op outcome =>
      cases hr with
      | reply ws message op h1 h2 h3 => exact .reply ws message op h1 h2 h3
      | error ws code text op h1 h2 => exact .error ws code text op h1 h2
      | own e op error h1 h2 => exact .own e op error h1 h2
    | channel target channelId => exact hr
    | _ => exact hr

theorem replyType_granted (channelId ticket dataPath : String) (caller : OpCaller) :
    ((Answer.granted ticket dataPath).message channelId caller.request).replyType = some caller.expect := by
  cases caller <;> rfl

/-- The client's part of the step. -/
theorem client_step (o : GatewayClientOptions) (channelIds : IdSource) (d : Dialogue) (e : DialogueEvent) :
    (d.step o channelIds e).client = d.client.step o (match e with
      | .event e => d.unanswered e
      | .answer ws a =>
        match d.asked ws with
        | [] => .message ws none
        | op :: _ => .message ws (some (a.message (channelIds.draw d.opened.length) op.caller.request))) := by
  cases e with
  | event e => rfl
  | answer ws a =>
    unfold step
    dsimp only
    split
    · rfl
    · split <;> rfl

/-- On a routed socket no message that looks like an answer is left. -/
theorem isAnswer_unanswered {e : ClientEvent} {ws : SocketId} {message : GatewayToPeer}
    (h : d.unanswered e = .message ws (some message)) (hr : d.client.routed ws = true) : message.isAnswer = false := by
  unfold unanswered at h
  split at h
  · split at h
    · exact nomatch h
    · rename_i hn
      cases h
      simpa [hr] using hn
  · rename_i hne
    exact absurd h (hne _ _)

/-- Every settlement of a step that is not late is matched. -/
theorem matched_of_not_late (hl : ¬ d.Late e) : d.Matched o channelIds e := by
  intro op outcome h
  rw [client_step, GatewayClient.mem_settles_iff] at h
  have hr := reported_of_step h
  cases e with
  | event e =>
    dsimp only at hr ⊢
    generalize he : d.unanswered e = e' at hr
    cases hr with
    | reply ws message op h1 h2 h3 =>
      have hn := isAnswer_unanswered he h1
      simp [GatewayToPeer.isAnswer, h3] at hn
    | error ws code text op h1 h2 =>
      have hn := isAnswer_unanswered he h1
      simp [GatewayToPeer.isAnswer] at hn
    | own e op error h1 h2 =>
      cases error with
      | gateway code text => exact absurd rfl (h2 code text)
      | _ => trivial
  | answer ws a =>
    dsimp only at hr ⊢
    rcases hasked : d.asked ws with _ | ⟨head, rest⟩
    · rw [hasked] at hr
      dsimp only at hr
      cases hr with
      | own e op error h1 h2 => exact absurd rfl (h1 ws none)
    · rw [hasked] at hr
      dsimp only at hr
      generalize hm : a.message (channelIds.draw d.opened.length) head.caller.request = message at hr
      have hhead {running : ControlOp} (hrun : d.client.runningOp = some running) (hrouted : d.client.routed ws = true)
          (htaken : a.TakenBy running head) : running = head := by
        by_contra hne
        exact hl ⟨head, running, by rw [hasked]; rfl, hrun, hne, hrouted, htaken⟩
      cases hr with
      | reply ws message op h1 h2 h3 =>
        cases a with
        | granted ticket dataPath =>
          rw [← hm, replyType_granted, Option.some_inj] at h3
          have hop := hhead h2 h1 h3.symm
          subst hop
          exact ⟨rfl, by rw [← hm]; rfl⟩
        | refused code text => exact absurd h3 (by rw [← hm]; exact nofun)
      | error ws code text op h1 h2 =>
        cases a with
        | granted ticket dataPath =>
          have hty := replyType_granted (channelIds.draw d.opened.length) ticket dataPath head.caller
          rw [hm] at hty
          exact nomatch hty
        | refused code' text' =>
          cases hm
          have hop := hhead h2 h1 trivial
          subst hop
          exact ⟨rfl, rfl⟩
      | own e op error h1 h2 => exact absurd rfl (h1 ws _)

/-! ## Every operation settles once -/

/-- The operation that runs holds the slot, and every operation issued has settled once, runs or waits. -/
structure Accounted (d : Dialogue) : Prop where
  slotted : d.client.Slotted
  issued : (d.settled.map (fun p => p.1.id) ++ d.client.unsettled.map ControlOp.id).Perm (List.range d.client.nextOp)

theorem Accounted.deliver (h : d.Accounted) (o : GatewayClientOptions) (e : ClientEvent) : (d.deliver o e).Accounted := by
  obtain ⟨m, hm, hsame⟩ := GatewayClient.handle_ops o d.client.quiet e
  refine ⟨(hm.slotted h.slotted).of_ops hsame.1, ?_⟩
  obtain ⟨log, hlog, n, hn, hperm⟩ := hm.orderly.trans hsame.orderly
  rw [settles_quiet, List.nil_append] at hlog
  have hlog : (d.client.step o e).settles = log := hlog
  have hn : (d.client.step o e).nextOp = d.client.nextOp + n := hn
  show ((d.settled ++ (d.client.step o e).settles).map _ ++ (d.client.step o e).unsettled.map ControlOp.id).Perm
    (List.range (d.client.step o e).nextOp)
  rw [hlog, hn, List.map_append, List.append_assoc, List.range_add, ← List.range'_eq_map_range]
  refine (hperm.symm.append_left _).trans ?_
  rw [← List.append_assoc]
  exact h.issued.append_right _

theorem accounted_init : init.Accounted := ⟨fun _ hop => (nomatch hop), List.Perm.refl _⟩

theorem Accounted.step (h : d.Accounted) (o : GatewayClientOptions) (channelIds : IdSource) (e : DialogueEvent) :
    (d.step o channelIds e).Accounted := by
  unfold Dialogue.step
  split
  · exact h.deliver o _
  · split
    · exact h.deliver o _
    · dsimp only
      split
      · refine Accounted.deliver ?_ o _
        exact ⟨h.slotted, h.issued⟩
      · refine Accounted.deliver ?_ o _
        exact ⟨h.slotted, h.issued⟩

theorem accounted_run (o : GatewayClientOptions) (channelIds : IdSource) (es : List DialogueEvent) :
    ((dialogue o channelIds).run es).Accounted :=
  (dialogue o channelIds).invariant accounted_init (fun _ e h => h.step o channelIds e) es

/-! ## Channels -/

/-- The gateway has opened the channels under distinct identifiers. -/
def Numbered (channelIds : IdSource) (d : Dialogue) : Prop :=
  d.opened.map Prod.fst = (List.range d.opened.length).map channelIds.draw

theorem opened_step (o : GatewayClientOptions) (channelIds : IdSource) (d : Dialogue) (e : DialogueEvent) :
    (d.step o channelIds e).opened = d.opened ∨
      ∃ target, (d.step o channelIds e).opened = d.opened ++ [(channelIds.draw d.opened.length, target)] := by
  unfold step
  split
  · exact Or.inl rfl
  · split
    · exact Or.inl rfl
    · dsimp only
      split
      · exact Or.inr ⟨_, rfl⟩
      · exact Or.inl rfl

theorem opened_mono (d : Dialogue) (e : DialogueEvent) {p : String × String} (h : p ∈ d.opened) :
    p ∈ (d.step o channelIds e).opened := by
  rcases opened_step o channelIds d e with he | ⟨target, he⟩
  · rw [he]
    exact h
  · rw [he]
    exact List.mem_append_left _ h

theorem Numbered.step (h : d.Numbered channelIds) (e : DialogueEvent) : (d.step o channelIds e).Numbered channelIds := by
  unfold Numbered at h ⊢
  rcases opened_step o channelIds d e with he | ⟨target, he⟩
  · rw [he]
    exact h
  · rw [he, List.length_append, List.length_singleton, List.range_succ, List.map_append, List.map_append, h]
    rfl

theorem opened_granted {ws : SocketId} {op : ControlOp} {target : String} {kind : Option String}
    (hhead : (d.asked ws).head? = some op) (hcaller : op.caller = .openChannel target kind) (ticket dataPath : String) :
    (channelIds.draw d.opened.length, target) ∈ (d.step o channelIds (.answer ws (.granted ticket dataPath))).opened := by
  unfold step
  dsimp only
  split
  · rename_i hasked
    rw [hasked] at hhead
    exact nomatch hhead
  · rename_i op' rest hasked
    rw [hasked, List.head?_cons, Option.some_inj] at hhead
    subst hhead
    rw [hcaller]
    exact List.mem_append_right _ (List.mem_singleton_self _)

/-- What the client holds of a channel stands for one the gateway has opened to that target. -/
structure Granted (d : Dialogue) : Prop where
  settled : ∀ op target kind channelId ticket dataPath, op.caller = .openChannel target kind →
    d.client.settledOp = some (op, .resolved (.channelReady channelId ticket dataPath)) → (channelId, target) ∈ d.opened
  data : ∀ ws k target channelId dial, d.client.sockets.get ws = some k → k.use = .data target channelId dial →
    (channelId, target) ∈ d.opened

/-- A matched step keeps the channels straight. -/
theorem Granted.step (h : d.Granted) (hm : d.Matched o channelIds e) : (d.step o channelIds e).Granted := by
  have hclient := client_step o channelIds d e
  generalize hce : (match e with
    | .event e => d.unanswered e
    | .answer ws a =>
      match d.asked ws with
      | [] => ClientEvent.message ws none
      | op :: _ => .message ws (some (a.message (channelIds.draw d.opened.length) op.caller.request))) = ce at hclient
  refine ⟨?_, ?_⟩
  · intro op target kind channelId ticket dataPath hcaller hs
    obtain ⟨m, hmove, hsame⟩ := GatewayClient.handle_ops o d.client.quiet ce
    rw [hclient] at hs
    have hms : m.settledOp = some (op, .resolved (.channelReady channelId ticket dataPath)) := by
      rw [← hs]
      exact (congrArg OpsPart.settledOp hsame.1).symm
    rcases hmove.settledOp hms with hold | hnew
    · exact opened_mono d e (h.settled op target kind channelId ticket dataPath hcaller hold)
    · have hsettles : (op, .resolved (.channelReady channelId ticket dataPath)) ∈ (d.step o channelIds e).client.settles := by
        rw [hclient]
        exact hsame.settles ▸ hnew
      have hmatch := hm op _ hsettles
      cases e with
      | event e => exact hmatch.elim
      | answer ws a =>
        obtain ⟨hhead, houtcome⟩ := hmatch
        rw [hcaller] at houtcome
        cases a with
        | refused code text => exact nomatch houtcome
        | granted ticket' dataPath' =>
          cases houtcome
          exact opened_granted hhead hcaller ticket dataPath
  · intro ws k target channelId dial hk hu
    rw [hclient] at hk
    rcases GatewayClient.data_of_handle o d.client.quiet ce hk hu with ⟨k', dial', hk', hu'⟩ | ⟨op, kind, ticket, dataPath, hop, hcaller⟩
    · exact opened_mono d e (h.data ws k' target channelId dial' hk' hu')
    · exact opened_mono d e (h.settled op target kind channelId ticket dataPath hcaller hop)

theorem Granted.reaches (h : d.Granted) : d.Reaches o channelIds e := by
  intro target channelId hout
  have hr : ClientOutput.channel target channelId ∈ (d.step o channelIds e).client.reports :=
    List.mem_filter.mpr ⟨hout, rfl⟩
  rw [client_step] at hr
  obtain ⟨ws, r, hk⟩ := reported_of_step hr
  exact h.data ws _ target channelId .opened hk rfl

/-! ## Every operation can settle -/

/-- `d'` comes after `d` by events of the client's own; nothing runs any more, what ran has settled, and nothing has come in
front of what waited. -/
structure Cleared (d d' : Dialogue) : Prop where
  accounted : d'.Accounted
  running : d'.client.runningOp = none
  gone : d'.client.settledOp = none
  queue : ∃ extra, d'.client.opQueue = d.client.opQueue ++ extra
  kept : ∀ op ∈ d.settled.map Prod.fst, op ∈ d'.settled.map Prod.fst
  ran : ∀ op, d.client.runningOp = some op → op ∈ d'.settled.map Prod.fst

theorem settled_step (o : GatewayClientOptions) (channelIds : IdSource) (d : Dialogue) (e : ClientEvent)
    (hown : (DialogueEvent.event e).IsOwn) :
    (d.step o channelIds (.event e)).client = d.client.step o e ∧
      (d.step o channelIds (.event e)).settled = d.settled ++ (d.client.step o e).settles := by
  have hsame : d.unanswered e = e := by
    cases e <;> first | rfl | exact hown.elim
  show (d.deliver o (d.unanswered e)).client = _ ∧ (d.deliver o (d.unanswered e)).settled = _
  rw [hsame]
  exact ⟨rfl, rfl⟩

/-- The operation that runs is timed out and its caller goes on. -/
theorem Accounted.clear (h : d.Accounted) (o : GatewayClientOptions) (channelIds : IdSource) :
    ∃ es : List DialogueEvent, (∀ e ∈ es, e.IsOwn) ∧ d.Cleared (es.foldl (Dialogue.step o channelIds) d) := by
  have hresume {d : Dialogue} (h : d.Accounted) (hrun : d.client.runningOp = none) :
      d.Cleared (d.step o channelIds (.event .resumeOp)) := by
    obtain ⟨hclient, hsettled⟩ := settled_step o channelIds d .resumeOp trivial
    have hclient : (d.step o channelIds (.event .resumeOp)).client = d.client.quiet.resumeOp := hclient
    obtain ⟨hgone, hrunning, extra, hqueue⟩ := GatewayClient.resumeOp_turn d.client.quiet
    refine ⟨h.step o channelIds _, ?_, ?_, ⟨extra, ?_⟩, ?_, fun op hop => ?_⟩
    · rw [hclient, hrunning]
      exact hrun
    · rw [hclient, hgone]
    · rw [hclient, hqueue]
      rfl
    · intro op hop
      rw [hsettled, List.map_append]
      exact List.mem_append_left _ hop
    · rw [hrun] at hop
      exact nomatch hop
  rcases hrun : d.client.runningOp with _ | r
  · exact ⟨[.event .resumeOp], by simp [DialogueEvent.IsOwn], hresume h hrun⟩
  · refine ⟨[.event (.opTimeout r), .event .resumeOp], by simp [DialogueEvent.IsOwn], ?_⟩
    obtain ⟨hclient, hsettled⟩ := settled_step o channelIds d (.opTimeout r) trivial
    have hclient : (d.step o channelIds (.event (.opTimeout r))).client = d.client.quiet.opTimeout r := hclient
    have hslotted : d.client.quiet.Slotted := h.slotted
    obtain ⟨hnone, hqueue, hlog⟩ := GatewayClient.opTimeout_running hslotted hrun
    have hc := hresume (h.step o channelIds (.event (.opTimeout r))) (by rw [hclient, hnone])
    have hlog : (r, .rejected .timeout) ∈ (d.client.step o (.opTimeout r)).settles := hlog
    refine ⟨hc.accounted, hc.running, hc.gone, ?_, ?_, fun op hop => ?_⟩
    · obtain ⟨extra, he⟩ := hc.queue
      rw [hclient, hqueue] at he
      exact ⟨extra, he⟩
    · intro op hop
      refine hc.kept op ?_
      rw [hsettled, List.map_append]
      exact List.mem_append_left _ hop
    · rw [hrun, Option.some_inj] at hop
      subst hop
      refine hc.kept r ?_
      rw [hsettled, List.map_append]
      exact List.mem_append_right _ (List.mem_map.mpr ⟨_, hlog, rfl⟩)

/-- An operation that waits gets its turn and settles, by induction on those in front of it. -/
theorem Accounted.settles_waiting (o : GatewayClientOptions) (channelIds : IdSource) {op : ControlOp} (front : List ControlOp) :
    ∀ {d : Dialogue} {back : List ControlOp}, d.Accounted → d.client.opQueue = front ++ op :: back →
      ∃ es : List DialogueEvent, (∀ e ∈ es, e.IsOwn) ∧
        op ∈ (es.foldl (Dialogue.step o channelIds) d).settled.map Prod.fst := by
  have hall {es es' : List DialogueEvent} (h : ∀ e ∈ es, e.IsOwn) (h' : ∀ e ∈ es', e.IsOwn) :
      ∀ e ∈ es ++ .event .runOp :: es', e.IsOwn := by
    intro e he
    rcases List.mem_append.mp he with he | he
    · exact h e he
    · rcases List.mem_cons.mp he with rfl | he
      · trivial
      · exact h' e he
  induction front with
  | nil =>
    intro d back h hq
    obtain ⟨es, hown, hc⟩ := h.clear o channelIds
    generalize hd' : es.foldl (Dialogue.step o channelIds) d = d' at hc
    obtain ⟨extra, hqueue⟩ := hc.queue
    rw [hq, List.nil_append, List.cons_append] at hqueue
    obtain ⟨hclient, hsettled⟩ := settled_step o channelIds d' .runOp trivial
    have hclient : (d'.step o channelIds (.event .runOp)).client = d'.client.quiet.runOp := hclient
    have hturn := (GatewayClient.runOp_turn (c := d'.client.quiet) hqueue hc.running hc.gone).2
    obtain ⟨es', hown', hc'⟩ := (hc.accounted.step o channelIds (.event .runOp)).clear o channelIds
    refine ⟨es ++ .event .runOp :: es', hall hown hown', ?_⟩
    rw [List.foldl_append, hd', List.foldl_cons]
    rcases hturn with hrun | hlog
    · refine hc'.ran op ?_
      rw [hclient]
      exact hrun
    · refine hc'.kept op ?_
      rw [hsettled, List.map_append]
      exact List.mem_append_right _ hlog
  | cons head front ih =>
    intro d back h hq
    obtain ⟨es, hown, hc⟩ := h.clear o channelIds
    generalize hd' : es.foldl (Dialogue.step o channelIds) d = d' at hc
    obtain ⟨extra, hqueue⟩ := hc.queue
    rw [hq, List.cons_append, List.cons_append, List.append_assoc, List.cons_append] at hqueue
    obtain ⟨hclient, hsettled⟩ := settled_step o channelIds d' .runOp trivial
    have hq' : (d'.step o channelIds (.event .runOp)).client.opQueue = front ++ op :: (back ++ extra) := by
      rw [hclient]
      exact (GatewayClient.runOp_turn (c := d'.client.quiet) hqueue hc.running hc.gone).1
    obtain ⟨es', hown', hop⟩ := ih (hc.accounted.step o channelIds (.event .runOp)) hq'
    refine ⟨es ++ .event .runOp :: es', hall hown hown', ?_⟩
    rw [List.foldl_append, hd', List.foldl_cons]
    exact hop

/-- From any state an operation that has not settled does so by the client's own events. -/
theorem Accounted.settles_unsettled (h : d.Accounted) (o : GatewayClientOptions) (channelIds : IdSource) {op : ControlOp}
    (hop : op ∈ d.client.unsettled) :
    ∃ es : List DialogueEvent, (∀ e ∈ es, e.IsOwn) ∧
      op ∈ (es.foldl (Dialogue.step o channelIds) d).settled.map Prod.fst := by
  rcases List.mem_append.mp hop with hrun | hq
  · obtain ⟨es, hown, hc⟩ := h.clear o channelIds
    exact ⟨es, hown, hc.ran op (Option.mem_toList.mp hrun)⟩
  · obtain ⟨front, back, hq⟩ := List.append_of_mem hq
    exact Accounted.settles_waiting o channelIds front h hq

end Dialogue

/-! ## The theorem -/

/-- What a dialogue promises after a run: every operation issued has settled once, runs or waits, and can settle by the client's
own events; every settlement was the operation's own; and every channel handed out leads to the target it was opened for. -/
structure DialogueKept (o : GatewayClientOptions) (channelIds : IdSource) (es : List DialogueEvent) : Prop where
  once : (((dialogue o channelIds).run es).settled.map (fun p => p.1.id) ++
    ((dialogue o channelIds).run es).client.unsettled.map ControlOp.id).Perm
      (List.range ((dialogue o channelIds).run es).client.nextOp)
  settles : ∀ op ∈ ((dialogue o channelIds).run es).client.unsettled, ∃ es' : List DialogueEvent,
    (∀ e ∈ es', e.IsOwn) ∧ op ∈ ((dialogue o channelIds).run (es ++ es')).settled.map Prod.fst
  matched : (dialogue o channelIds).Meets (Dialogue.Matched o channelIds) es
  channels : (((dialogue o channelIds).run es).opened.map Prod.fst).Nodup
  reaches : (dialogue o channelIds).Meets (Dialogue.Reaches o channelIds) es

/-- In a run without a late answer the dialogue is kept. -/
theorem client_replies_matched (o : GatewayClientOptions) (channelIds : IdSource) (es : List DialogueEvent)
    (h : (dialogue o channelIds).Meets (fun d e => ¬ d.Late e) es) : DialogueKept o channelIds es := by
  have hgranted (es : List DialogueEvent) (h : (dialogue o channelIds).Meets (fun d e => ¬ d.Late e) es) :
      ((dialogue o channelIds).run es).Granted := by
    refine EventMachine.Meets.invariant (M := dialogue o channelIds) (J := fun _ => True) (fun _ => trivial) ?_ ?_ es h
    · exact ⟨fun _ _ _ _ _ _ _ hs => (nomatch hs), fun _ _ _ _ _ hk => (nomatch hk)⟩
    · exact fun _ e _ hg hl => hg.step (Dialogue.matched_of_not_late hl)
  have hacc := Dialogue.accounted_run o channelIds es
  refine ⟨hacc.issued, ?_, ?_, ?_, ?_⟩
  · intro op hop
    obtain ⟨es', hown, hs⟩ := hacc.settles_unsettled o channelIds hop
    exact ⟨es', hown, by rw [EventMachine.run_append]; exact hs⟩
  · exact fun pre e hp => Dialogue.matched_of_not_late (h pre e hp)
  · have hnumbered : ((dialogue o channelIds).run es).Numbered channelIds :=
      (dialogue o channelIds).invariant (I := Dialogue.Numbered channelIds) rfl (fun _ e hn => hn.step e) es
    rw [hnumbered]
    exact List.nodup_range.map channelIds.injective
  · intro pre e hp
    exact (hgranted pre (h.of_prefix ((List.prefix_append _ _).trans hp))).reaches



/-- A client that opens a channel. -/
def sampleChannel : List DialogueEvent :=
  sampleConnect.map .event ++
    [.event (.openChannel "kitchen" none), .event .runOp, .answer 0 (.granted "ticket" "/channel/c"), .event .resumeOp,
      .event (.opened 1), .event (.resume 1)]

theorem client_replies_matched_channel : DialogueKept sampleClientOptions (.letters 'c') sampleChannel :=
  client_replies_matched sampleClientOptions (.letters 'c') sampleChannel
    (EventMachine.meets_iff_take.mpr (fun i hi =>
      match i, hi with
      | 0, _ => id
      | 1, _ => id
      | 2, _ => id
      | 3, _ => id
      | 4, _ => id
      | 5, _ => id
      | 6, _ => id
      | 7, _ => fun ⟨_, _, hhead, hrun, hne, _⟩ => hne (Option.some.inj (hrun.symm.trans hhead))
      | 8, _ => id
      | 9, _ => id
      | 10, _ => id))

/-- A client that gives one channel up and opens another, and the answer about the first that comes late. -/
def sampleLate : List DialogueEvent :=
  sampleConnect.map .event ++
    [.event (.openChannel "kitchen" none), .event (.openChannel "garage" none), .event .runOp,
      .event (.opTimeout ⟨0, .openChannel "kitchen" none⟩), .event .resumeOp, .event .runOp,
      .answer 0 (.granted "ticket" "/channel/c"), .event .resumeOp, .event (.opened 1)]

/-- The channel of an operation that has timed out goes to the next one, which asked for another target. -/
theorem client_reply_late : ¬ DialogueKept sampleClientOptions (.letters 'c') (sampleLate ++ [.event (.resume 1)]) := by
  intro h
  have hreached := h.reaches sampleLate (.event (.resume 1)) (List.prefix_refl _) "garage" "c"
    (List.mem_singleton_self (ClientOutput.channel "garage" "c"))
  exact absurd hreached (by decide +kernel)

end ZclaudiaGateway
