import ZclaudiaGateway.Lemmas.Client
import ZclaudiaGateway.Lemmas.Hello
import ZclaudiaGateway.Lemmas.Topics
import ZclaudiaGateway.Sdk.TopicSession

/-!
# What a topic's session does

`TopicView` is what both ends and the connection between them know of the topic, and `Move` is what an event does to it. Every
step of a session whose connection stays up is a move.
-/

namespace ZclaudiaGateway

namespace TopicSession

/-! ## The connection -/

/-- The gateway holds the session, and the backend is online and within its reach. -/
structure Online (l : TopicLink) (g : Gateway) : Prop where
  alive : g.uncaught = none
  readyState : g.net.readyState l.gatewaySocket = .open_
  authenticated : g.net.authenticatedAs l.gatewaySocket = some l.peerSessionId
  session : ∃ peer, g.state.peers.get l.peerSessionId = some peer ∧ peer.ws = l.gatewaySocket ∧
    peer.peerSessionId = l.peerSessionId ∧ g.acceptsSubscribe peer l.backendId = true

/-- The gateway holds the client's subscription. -/
def held (l : TopicLink) (g : Gateway) : Bool := g.subscribed l.backendId l.topic l.peerSessionId

/-- The handlers of the topic. -/
def handlers (l : TopicLink) (c : GatewayClient) : List HandlerId :=
  ((c.topicHandlers.get l.key).map (·.handlers)).getD []

/-- The operations that have not settled or whose caller has not gone on, the oldest first. -/
def underway (s : TopicSession) : List ControlOp :=
  (s.client.settledOp.map Prod.fst).toList ++ s.client.runningOp.toList ++ s.client.opQueue

/-- Another event of the gateway leaves the connection up, the backend online and the subscription what it is, and sends the
client nothing that answers a request. -/
def Undisturbed (l : TopicLink) (s : TopicSession) (e : TopicSessionEvent) : Prop :=
  ∀ g, e = .gateway g →
    Online l (s.gateway.step l.Γ g) ∧ held l (s.gateway.step l.Γ g) = held l s.gateway ∧
      ∀ message ∈ sentTo l.gatewaySocket (s.gateway.step l.Γ g), message.isAnswer = false

/-- The timer of an operation fires. -/
def Expires (s : TopicSession) (e : TopicSessionEvent) : Prop := ∃ op, e = .opTimeout op ∧ op ∈ s.client.opTimers

end TopicSession

/-- The client's connection is up. -/
structure GatewayClient.Up (c : GatewayClient) (ws : SocketId) : Prop where
  socket : c.socket = some ws
  connected : c.state = .connected
  established : ∃ trigger, c.sockets.get ws = some ⟨.open_, .control .established trigger⟩
  channels : ∀ channelId ws', c.channels.get channelId = some ws' → ws' ≠ ws

namespace TopicSession

/-- A connection that is up, with nothing under way for the topic and both ends agreed on it. -/
structure AtRest (l : TopicLink) (s : TopicSession) : Prop where
  up : s.client.Up l.ws
  pending : s.client.pendingOp = none
  entries : ∀ entry, s.client.topicHandlers.get l.key = some entry → entry.handlers ≠ []
  idle : s.underway = []
  online : Online l s.gateway
  requests : s.requests = []
  answers : s.answers = []
  owed : s.owed = []
  agreed : held l s.gateway = true ↔ handlers l s.client ≠ []

end TopicSession

/-- The operation subscribes. -/
def ControlOp.subscribes (op : ControlOp) : Bool :=
  match op.caller with
  | .subscribeTopic _ _ _ => true
  | _ => false

/-- The operation is one of the topic's. -/
def TopicLink.Own (l : TopicLink) (op : ControlOp) : Prop := op.caller = l.unsubscribe ∨ ∃ handler, op.caller = l.subscribe handler

namespace TopicSession

variable {l : TopicLink}

/-! ## The gateway's side -/

theorem Online.of_eq {g g' : Gateway} (h : Online l g) (halive : g'.uncaught = g.uncaught)
    (hsockets : g'.net.sockets = g.net.sockets) (hstate : g'.state = g.state) : Online l g' := by
  obtain ⟨peer, hpeer, hws, hid, haccepts⟩ := h.session
  refine ⟨halive.trans h.alive, ?_, ?_, peer, ?_, hws, hid, ?_⟩
  · rw [Net.readyState, hsockets]
    exact h.readyState
  · rw [Net.authenticatedAs, hsockets]
    exact h.authenticated
  · rw [hstate]
    exact hpeer
  · rw [Gateway.acceptsSubscribe, hstate]
    exact haccepts

/-- A request that names a backend and a topic is valid. -/
theorem topicRequest_valid {type backendId topic : String} (hb : backendId ≠ "") (ht : topic ≠ "")
    (hspec : MESSAGE_SPECS.lookup type =
      some [("backendId", { kind := .nonEmptyString }), ("topic", { kind := .nonEmptyString })]) :
    validateGatewayMessage (.obj [("type", .str type), ("backendId", .str backendId), ("topic", .str topic)]) = none := by
  unfold validateGatewayMessage
  simp only [JsonValue.isObject, JsonValue.member, List.find?_cons, decide_true, Option.map_some, Option.bind_some,
    JsonValue.asString, Bool.not_true, Bool.false_eq_true, if_false, hspec]
  simp [validateFields, checkField, checkKind, JsonValue.member, JsonValue.asString, hb, ht]

/-- The gateway reads a request of the topic as what it asks for. -/
theorem Online.routed {g : Gateway} (h : Online l g) {op : ControlOp} (hop : l.Own op) :
    ∃ peer, peer.ws = l.gatewaySocket ∧ peer.peerSessionId = l.peerSessionId ∧
      g.acceptsSubscribe peer l.backendId = true ∧
      g.routed l.Γ (l.reads op) = some (peer, if op.subscribes then .topicSubscribe l.backendId l.topic
        else .topicUnsubscribe l.backendId l.topic) := by
  obtain ⟨peer, hpeer, hws, hid, haccepts⟩ := h.session
  refine ⟨peer, hws, hid, haccepts, ?_⟩
  have hvalid (type : String) (hspec : MESSAGE_SPECS.lookup type =
      some [("backendId", { kind := .nonEmptyString }), ("topic", { kind := .nonEmptyString })]) :=
    topicRequest_valid l.backendId_ne l.topic_ne hspec
  unfold Gateway.routed TopicLink.reads
  dsimp only
  rw [h.authenticated]
  rcases hop with hop | ⟨handler, hop⟩
  · have hkind : op.subscribes = false := by
      unfold ControlOp.subscribes
      rw [hop]
      rfl
    rw [if_pos hop, l.unsubscribe_parses, hkind]
    dsimp only
    rw [hpeer, hvalid "topic_unsubscribe" rfl]
    rfl
  · have hkind : op.subscribes = true := by
      unfold ControlOp.subscribes
      rw [hop]
      rfl
    have hne : op.caller ≠ l.unsubscribe := by
      rw [hop]
      exact nofun
    rw [if_neg hne, l.subscribe_parses, hkind]
    dsimp only
    rw [hpeer, hvalid "topic_subscribe" rfl]
    rfl

/-- A message to an open socket goes out. -/
theorem sendToWs_open {net : Net} {ws : SocketId} (hopen : net.readyState ws = .open_) (message : GatewayToPeer) :
    net.sendToWs ws message = { net with outbox := net.outbox ++ [.send ws message] } := by
  unfold Net.sendToWs
  rw [if_pos hopen]
  rfl

/-- What answers a subscription that is accepted: the acknowledgement, and behind it the payload retained. -/
theorem subscribeAnswer_open {g : Gateway} {peer : PeerSession} (hopen : g.net.readyState peer.ws = .open_)
    (backendId topic : String) :
    g.subscribeAnswer peer backendId topic g.net =
      { g.net with
        outbox := g.net.outbox ++ .send peer.ws (.topicSubscribed backendId topic) ::
          ((g.retainedPayload backendId topic).map (fun payload =>
            Output.send peer.ws (.topicMessage backendId topic (some payload)))).toList } := by
  unfold Gateway.subscribeAnswer
  cases g.retainedPayload backendId topic with
  | none => exact sendToWs_open hopen _
  | some payload =>
    have hacknowledged : (g.net.sendToWs peer.ws (.topicSubscribed backendId topic)).readyState peer.ws = .open_ := by
      rw [sendToWs_open hopen]
      exact hopen
    dsimp only
    rw [sendToWs_open hacknowledged, sendToWs_open hopen]
    simp

/-- The gateway answers a request of the topic first, and keeps the subscription as it asks. -/
theorem Online.reads {g : Gateway} (h : Online l g) {op : ControlOp} (hop : l.Own op) :
    Online l (g.step l.Γ (l.reads op)) ∧ held l (g.step l.Γ (l.reads op)) = op.subscribes ∧
      ∃ reply more, sentTo l.gatewaySocket (g.step l.Γ (l.reads op)) = reply :: more ∧
        reply.replyType = some op.caller.expect ∧ ∀ message ∈ more, message.isAnswer = false := by
  have hquiet : Online l g.quiet := h.of_eq rfl rfl rfl
  obtain ⟨peer, hws, hid, haccepts, hrouted⟩ := hquiet.routed hop
  obtain ⟨n, hstep⟩ : ∃ n, g.step l.Γ (l.reads op) = { g.quiet.handle l.Γ (l.reads op) with drawn := n } := by
    unfold Gateway.step
    rw [h.alive]
    exact ⟨_, rfl⟩
  rw [hstep, (Gateway.handle_routed hrouted).1]
  have hopen : g.quiet.net.readyState peer.ws = .open_ := by
    rw [hws]
    exact hquiet.readyState
  rcases hop with hop | ⟨handler, hop⟩
  · have hkind : op.subscribes = false := by
      unfold ControlOp.subscribes
      rw [hop]
      rfl
    rw [hkind, if_neg (by simp), hop]
    refine ⟨?_, ?_, .topicUnsubscribed l.backendId l.topic, [], ?_, rfl, nofun⟩
    · refine hquiet.of_eq rfl ?_ rfl
      change (g.quiet.net.sendToWs peer.ws _).sockets = _
      rw [sendToWs_open hopen]
    · have hunsubscribed := Gateway.subscribed_unsubscribe g.quiet peer l.backendId l.topic l.backendId l.topic l.peerSessionId
      rw [if_pos ⟨rfl, rfl, hid.symm⟩] at hunsubscribed
      exact hunsubscribed
    · change (g.quiet.net.sendToWs peer.ws _).outbox.filterMap _ = _
      rw [sendToWs_open hopen]
      simp [Gateway.quiet, Gateway.onNet, hws]
  · have hkind : op.subscribes = true := by
      unfold ControlOp.subscribes
      rw [hop]
      rfl
    have haccepted := Gateway.handleTopicSubscribe_accepted haccepts l.topic
    have hsubscribed := Gateway.subscribed_subscribe haccepts l.topic l.backendId l.topic l.peerSessionId
    rw [if_pos ⟨rfl, rfl, hid.symm⟩] at hsubscribed
    rw [hkind, if_pos rfl, hop]
    refine ⟨?_, hsubscribed, .topicSubscribed l.backendId l.topic,
      ((g.quiet.retainedPayload l.backendId l.topic).map (fun payload =>
        GatewayToPeer.topicMessage l.backendId l.topic (some payload))).toList, ?_, rfl, ?_⟩
    · change Online l { g.quiet.handleTopicSubscribe peer l.backendId l.topic with drawn := n }
      rw [haccepted, subscribeAnswer_open hopen]
      exact hquiet.of_eq rfl rfl rfl
    · change (g.quiet.handleTopicSubscribe peer l.backendId l.topic).net.outbox.filterMap _ = _
      rw [haccepted, subscribeAnswer_open hopen]
      cases g.quiet.retainedPayload l.backendId l.topic <;> simp [Gateway.quiet, Gateway.onNet, hws]
    · intro message hm
      obtain ⟨payload, -, rfl⟩ := by simpa using hm
      rfl

end TopicSession

/-! ## Views and moves -/

/-- What both ends and the connection between them know of the topic. -/
structure TopicView where
  settled : Option ControlOp
  running : Option ControlOp
  queue : List ControlOp
  handlers : List HandlerId
  held : Bool
  requests : List ControlOp
  answers : List Delivery
  owed : List HandlerId

namespace TopicView

/-- The operations that have not settled or whose caller has not gone on, the oldest first. -/
def underway (v : TopicView) : List ControlOp := v.settled.toList ++ v.running.toList ++ v.queue

/-- Nothing is owed to a handler that has unsubscribed. -/
def forgive (handler : HandlerId) (v : TopicView) : TopicView :=
  { v with
    owed := v.owed.filter (· ≠ handler)
    answers := v.answers.map (fun d => { d with owed := d.owed.filter (· ≠ handler) }) }

/-- A subscription that is acknowledged is owed to its handler. -/
def owing (v : TopicView) (op : ControlOp) : List HandlerId :=
  match op.caller with
  | .subscribeTopic _ _ handler => handler :: v.owed
  | _ => v.owed

/-- What an event does to the view. -/
inductive Move (l : TopicLink) (v : TopicView) : TopicSessionEvent → TopicView → Prop where
  | idle (e : TopicSessionEvent) : (∀ handler, e ≠ .unsubscribe handler) → Move l v e v
  | issue (handler : HandlerId) (op : ControlOp) : op.caller = l.subscribe handler →
      Move l v (.subscribe handler) { v with queue := v.queue ++ [op] }
  | leave (handler : HandlerId) : (v.handlers ≠ [] → v.handlers.filter (· ≠ handler) ≠ []) →
      Move l v (.unsubscribe handler) { v.forgive handler with handlers := v.handlers.filter (· ≠ handler) }
  | last (handler : HandlerId) (op : ControlOp) : v.handlers ≠ [] → v.handlers.filter (· ≠ handler) = [] →
      op.caller = l.unsubscribe →
      Move l v (.unsubscribe handler) { v.forgive handler with handlers := [], queue := v.queue ++ [op] }
  | run (op : ControlOp) (rest : List ControlOp) : v.settled = none → v.running = none → v.queue = op :: rest →
      Move l v .runOp { v with running := some op, queue := rest, requests := v.requests ++ [op] }
  | subscribed (op : ControlOp) (handler : HandlerId) : v.settled = some op → op.caller = l.subscribe handler →
      Move l v .resumeOp
        { v with settled := none, handlers := if handler ∈ v.handlers then v.handlers else v.handlers ++ [handler] }
  | left (op : ControlOp) : v.settled = some op → op.caller = l.unsubscribe →
      Move l v .resumeOp { v with settled := none }
  | request (op : ControlOp) (rest : List ControlOp) (reply : GatewayToPeer) (more : List GatewayToPeer) :
      v.requests = op :: rest → reply.replyType = some op.caller.expect → (∀ message ∈ more, message.isAnswer = false) →
      Move l v .request
        { v with
          requests := rest
          held := op.subscribes
          owed := v.owing op
          answers := v.answers ++ (reply :: more).map (fun message => ⟨message, v.owing op⟩) }
  | tell (e : Event) (messages : List GatewayToPeer) : (∀ message ∈ messages, message.isAnswer = false) →
      Move l v (.gateway e) { v with answers := v.answers ++ messages.map (fun message => ⟨message, v.owed⟩) }
  | heard (d : Delivery) (rest : List Delivery) : v.answers = d :: rest → d.message.isAnswer = false →
      Move l v .dispatch { v with answers := rest }
  | settles (d : Delivery) (rest : List Delivery) (op : ControlOp) : v.answers = d :: rest → d.message.isAnswer = true →
      v.running = some op → Move l v .dispatch { v with answers := rest, running := none, settled := some op }

/-- Where the request of the operation that runs is: one request is out at a time, and one answer to it comes back. -/
inductive Flight : Option ControlOp → List ControlOp → List Delivery → Prop where
  | none {answers : List Delivery} : (∀ d ∈ answers, d.message.isAnswer = false) → Flight none [] answers
  | asked {answers : List Delivery} (op : ControlOp) : (∀ d ∈ answers, d.message.isAnswer = false) →
      Flight (some op) [op] answers
  | answered (op : ControlOp) (pre : List Delivery) (d : Delivery) (post : List Delivery) :
      d.message.replyType = some op.caller.expect → (∀ x ∈ pre, x.message.isAnswer = false) →
      (∀ x ∈ post, x.message.isAnswer = false) → Flight (some op) [] (pre ++ d :: post)

/-- The operations are the topic's own and take turns, with one request and its answer out at a time. -/
structure Sound (l : TopicLink) (v : TopicView) : Prop where
  flight : Flight v.running v.requests v.answers
  turns : v.running.isSome = true → v.settled = none
  own : ∀ op ∈ v.underway, l.Own op

variable {l : TopicLink} {v v' : TopicView} {e : TopicSessionEvent}

theorem Flight.forgive {running : Option ControlOp} {requests : List ControlOp} {answers : List Delivery}
    (h : Flight running requests answers) {f : Delivery → Delivery} (hf : ∀ d, (f d).message = d.message) :
    Flight running requests (answers.map f) := by
  have hquiet {answers : List Delivery} (hq : ∀ d ∈ answers, d.message.isAnswer = false) :
      ∀ d ∈ answers.map f, d.message.isAnswer = false := by
    intro d hd
    obtain ⟨x, hx, rfl⟩ := List.mem_map.mp hd
    rw [hf]
    exact hq x hx
  cases h with
  | none hq => exact .none (hquiet hq)
  | asked op hq => exact .asked op (hquiet hq)
  | answered op pre d post hd hpre hpost =>
    rw [List.map_append, List.map_cons]
    exact .answered op _ _ _ (by rw [hf]; exact hd) (hquiet hpre) (hquiet hpost)

/-- Messages that answer nothing may follow. -/
theorem Flight.tell {running : Option ControlOp} {requests : List ControlOp} {answers more : List Delivery}
    (h : Flight running requests answers) (hmore : ∀ d ∈ more, d.message.isAnswer = false) :
    Flight running requests (answers ++ more) := by
  have hquiet {answers : List Delivery} (hq : ∀ d ∈ answers, d.message.isAnswer = false) :
      ∀ d ∈ answers ++ more, d.message.isAnswer = false :=
    fun d hd => (List.mem_append.mp hd).elim (hq d) (hmore d)
  cases h with
  | none hq => exact .none (hquiet hq)
  | asked op hq => exact .asked op (hquiet hq)
  | answered op pre d post hd hpre hpost =>
    rw [List.append_assoc, List.cons_append]
    exact .answered op pre d _ hd hpre (hquiet hpost)

theorem isAnswer_of_replyType {message : GatewayToPeer} {type : ReplyType} (h : message.replyType = some type) :
    message.isAnswer = true := by
  unfold GatewayToPeer.isAnswer
  rw [h]
  rfl

/-- The operation that runs gets its answer, and then nothing of it is on its way. -/
theorem Flight.head {running : Option ControlOp} {requests : List ControlOp} {d : Delivery} {rest : List Delivery}
    (h : Flight running requests (d :: rest)) :
    (d.message.isAnswer = false ∧ Flight running requests rest) ∨
      ∃ op, running = some op ∧ requests = [] ∧ d.message.replyType = some op.caller.expect ∧
        ∀ x ∈ rest, x.message.isAnswer = false := by
  generalize ha : d :: rest = answers at h
  cases h with
  | none hq =>
    subst ha
    exact Or.inl ⟨hq d List.mem_cons_self, .none (fun x hx => hq x (List.mem_cons_of_mem _ hx))⟩
  | asked op hq =>
    subst ha
    exact Or.inl ⟨hq d List.mem_cons_self, .asked op (fun x hx => hq x (List.mem_cons_of_mem _ hx))⟩
  | answered op pre x post hx hpre hpost =>
    rcases pre with _ | ⟨y, pre⟩
    · cases ha
      exact Or.inr ⟨op, rfl, rfl, hx, hpost⟩
    · cases ha
      exact Or.inl ⟨hpre d List.mem_cons_self, .answered op pre x post hx (fun y hy => hpre y (List.mem_cons_of_mem _ hy)) hpost⟩

theorem Move.sound (hm : Move l v e v') (h : v.Sound l) : v'.Sound l := by
  cases hm with
  | idle => exact h
  | issue handler op hop =>
    refine ⟨h.flight, h.turns, fun op' hop' => ?_⟩
    rw [underway, ← List.append_assoc, List.mem_append] at hop'
    rcases hop' with hop' | hop'
    · exact h.own op' hop'
    · rw [List.mem_singleton.mp hop']
      exact Or.inr ⟨handler, hop⟩
  | leave handler _ => exact ⟨h.flight.forgive (fun _ => rfl), h.turns, h.own⟩
  | last handler op _ _ hop =>
    refine ⟨h.flight.forgive (fun _ => rfl), h.turns, fun op' hop' => ?_⟩
    rw [underway, ← List.append_assoc, List.mem_append] at hop'
    rcases hop' with hop' | hop'
    · exact h.own op' hop'
    · rw [List.mem_singleton.mp hop']
      exact Or.inl hop
  | run op rest hsettled hrunning hqueue =>
    have hflight := h.flight
    rw [hrunning] at hflight
    obtain ⟨hrequests, hq⟩ : v.requests = [] ∧ ∀ d ∈ v.answers, d.message.isAnswer = false := by
      generalize v.requests = requests at hflight ⊢
      cases hflight with
      | none hq => exact ⟨rfl, hq⟩
    refine ⟨?_, fun _ => hsettled, fun op' hop' => h.own op' ?_⟩
    · rw [hrequests]
      exact .asked op hq
    · rw [underway] at hop' ⊢
      rw [hrunning, hqueue]
      simpa using hop'
  | subscribed op handler hsettled _ =>
    refine ⟨h.flight, fun _ => rfl, fun op' hop' => h.own op' ?_⟩
    rw [underway] at hop' ⊢
    rw [List.append_assoc]
    exact List.mem_append_right _ hop'
  | left op hsettled _ =>
    refine ⟨h.flight, fun _ => rfl, fun op' hop' => h.own op' ?_⟩
    rw [underway] at hop' ⊢
    rw [List.append_assoc]
    exact List.mem_append_right _ hop'
  | request op rest reply more hrequests hreply hmore =>
    refine ⟨?_, h.turns, h.own⟩
    have hflight := h.flight
    rw [hrequests] at hflight
    generalize v.running = running at hflight
    cases hflight with
    | asked op hq =>
      refine .answered op _ _ _ hreply hq (fun x hx => ?_)
      obtain ⟨message, hm, rfl⟩ := List.mem_map.mp hx
      exact hmore message hm
  | tell g messages hmessages =>
    refine ⟨h.flight.tell (fun x hx => ?_), h.turns, h.own⟩
    obtain ⟨message, hm, rfl⟩ := List.mem_map.mp hx
    exact hmessages message hm
  | heard d rest hanswers hd =>
    have hflight := h.flight
    rw [hanswers] at hflight
    rcases hflight.head with ⟨-, hrest⟩ | ⟨op, -, -, hreply, -⟩
    · exact ⟨hrest, h.turns, h.own⟩
    · rw [isAnswer_of_replyType hreply] at hd
      cases hd
  | settles d rest op hanswers hd hrunning =>
    have hflight := h.flight
    rw [hanswers] at hflight
    rcases hflight.head with ⟨hno, -⟩ | ⟨op, -, hrequests, -, hrest⟩
    · rw [hd] at hno
      cases hno
    · refine ⟨?_, nofun, fun op' hop' => h.own op' ?_⟩
      · rw [hrequests]
        exact .none hrest
      · rw [underway] at hop' ⊢
        rw [h.turns (by rw [hrunning]; rfl), hrunning]
        simpa using hop'

end TopicView

/-! ## The client's side -/

namespace GatewayClient

variable {c c' : GatewayClient} {ws : SocketId}

theorem Up.of_session (h : c.Up ws) (hs : c'.session = c.session) : c'.Up ws := by
  have hsocket : c'.socket = c.socket := congrArg SessionPart.socket hs
  have hstate : c'.state = c.state := congrArg SessionPart.state hs
  have hsockets : c'.sockets = c.sockets := congrArg SessionPart.sockets hs
  have hchannels : c'.channels = c.channels := congrArg SessionPart.channels hs
  exact ⟨hsocket.trans h.socket, hstate.trans h.connected, hsockets ▸ h.established, hchannels ▸ h.channels⟩

theorem routeMessage_topicMessage {c : GatewayClient} {backendId topic : String} {entry : TopicHandlers}
    (h : c.topicHandlers.get (topicKey backendId topic) = some entry) (payload : Option JsonValue) :
    c.routeMessage (.topicMessage backendId topic payload) =
      entry.handlers.foldl (fun c handler => c.emit (.deliver handler payload)) c := by
  unfold routeMessage
  dsimp only
  rw [h]

theorem deliver_eq (handlers : List HandlerId) (payload : Option JsonValue) (c : GatewayClient) :
    handlers.foldl (fun c handler => c.emit (.deliver handler payload)) c =
      { c with outbox := c.outbox ++ handlers.map (fun handler => .deliver handler payload) } := by
  induction handlers generalizing c with
  | nil => simp
  | cons handler handlers ih =>
    rw [List.foldl_cons, ih]
    simp [emit]

/-- A message that answers no request changes nothing of the operations and the topics, and closes data sockets only. -/
theorem Up.routeMessage (h : c.Up ws) {message : GatewayToPeer} (hm : message.isAnswer = false) :
    (c.routeMessage message).Up ws ∧ (c.routeMessage message).ops = c.ops ∧
      (c.routeMessage message).topicHandlers = c.topicHandlers ∧
      ∃ delivered : List (HandlerId × Option JsonValue), (c.routeMessage message).outbox =
        c.outbox ++ delivered.map (fun p => .deliver p.1 p.2) := by
  unfold GatewayClient.routeMessage
  split
  · exact ⟨⟨h.socket, h.connected, h.established, h.channels⟩, rfl, rfl, [], (List.append_nil _).symm⟩
  · rename_i backendId topic payload
    split
    · rename_i entry hentry
      rw [deliver_eq]
      refine ⟨h.of_session rfl, rfl, rfl, entry.handlers.map (fun handler => (handler, payload)), ?_⟩
      rw [List.map_map]
      rfl
    · exact ⟨h, rfl, rfl, [], (List.append_nil _).symm⟩
  · split
    · rename_i ws' hws'
      have hne : ws' ≠ ws := h.channels _ ws' hws'
      refine ⟨⟨h.socket, h.connected, ?_, ?_⟩, rfl, rfl, [], (List.append_nil _).symm⟩
      · obtain ⟨trigger, hk⟩ := h.established
        exact ⟨trigger, (InsertionMap.get_modify_of_ne (Ne.symm hne)).trans hk⟩
      · intro channelId' ws'' hget
        exact h.channels channelId' ws'' (InsertionMap.get_delete_eq_some.mp hget).2
    · exact ⟨h, rfl, rfl, [], (List.append_nil _).symm⟩
  · cases hm
  · cases hm
  · cases hm
  · cases hm
  · exact ⟨h, rfl, rfl, [], (List.append_nil _).symm⟩

theorem Up.socketMessage (h : c.Up ws) (message : GatewayToPeer) :
    c.socketMessage ws (some message) = c.routeMessage message := by
  obtain ⟨trigger, hk⟩ := h.established
  unfold GatewayClient.socketMessage
  rw [hk]

/-- An operation of a client whose connection is up goes out and runs. -/
theorem Up.runOp (h : c.Up ws) {op : ControlOp} {rest : List ControlOp} (hqueue : c.opQueue = op :: rest)
    (hrun : c.runningOp = none) (hsettled : c.settledOp = none) :
    c.runOp =
      { c with
        opQueue := rest
        runningOp := some op
        pendingOp := some op
        opTimers := c.opTimers ++ [op]
        outbox := c.outbox ++ [.send ws (.message op.caller.request)] } := by
  obtain ⟨trigger, hk⟩ := h.established
  unfold GatewayClient.runOp
  simp only [hqueue, hrun, hsettled, h.socket, h.connected, ne_eq, not_true_eq_false, if_false, hk, send]
  rfl

theorem runOp_idle (h : c.opQueue = [] ∨ c.runningOp ≠ none ∨ c.settledOp ≠ none) : c.runOp = c := by
  unfold GatewayClient.runOp
  split
  · rename_i hqueue hrun hsettled
    rw [hqueue, hrun, hsettled] at h
    simp at h
  · rfl

/-- An answer of the type the operation that runs expects settles it. -/
theorem settle_running {op : ControlOp} (hpending : c.pendingOp = some op) (hrun : c.runningOp = some op)
    {message : GatewayToPeer} (hm : message.replyType = some op.caller.expect) :
    c.routeMessage message =
      { c with
        opTimers := c.opTimers.filter (· ≠ op)
        pendingOp := none
        runningOp := none
        settledOp := some (op, .resolved message)
        outbox := c.outbox ++ [.settle op (.resolved message)] } := by
  have hsettle (type : ReplyType) (ht : op.caller.expect = type) :
      c.settlePending type message =
        { c with
          opTimers := c.opTimers.filter (· ≠ op)
          pendingOp := none
          runningOp := none
          settledOp := some (op, .resolved message)
          outbox := c.outbox ++ [.settle op (.resolved message)] } := by
    unfold settlePending settleOp
    simp only [hpending, ht, if_true, hrun]
    rfl
  unfold GatewayToPeer.replyType at hm
  unfold GatewayClient.routeMessage
  split at hm
  · exact hsettle _ (Option.some.inj hm).symm
  · exact hsettle _ (Option.some.inj hm).symm
  · exact hsettle _ (Option.some.inj hm).symm
  · cases hm

theorem ops_addHandler (c : GatewayClient) (backendId topic : String) (handler : HandlerId) :
    (c.addHandler backendId topic handler).ops = c.ops ∧ (c.addHandler backendId topic handler).outbox = c.outbox := by
  unfold addHandler
  dsimp only
  split
  · split <;> exact ⟨rfl, rfl⟩
  · exact ⟨rfl, rfl⟩

/-- The handlers after a subscription. -/
theorem handlers_addHandler {l : TopicLink} (handler : HandlerId) :
    TopicSession.handlers l (c.addHandler l.backendId l.topic handler) =
        (if handler ∈ TopicSession.handlers l c then TopicSession.handlers l c
          else TopicSession.handlers l c ++ [handler]) ∧
      ((∀ entry, c.topicHandlers.get l.key = some entry → entry.handlers ≠ []) →
        ∀ entry, (c.addHandler l.backendId l.topic handler).topicHandlers.get l.key = some entry → entry.handlers ≠ []) := by
  unfold TopicSession.handlers addHandler
  dsimp only
  rw [show topicKey l.backendId l.topic = l.key from rfl]
  cases hentry : c.topicHandlers.get l.key with
  | none => simp
  | some entry =>
    dsimp only
    by_cases hmem : handler ∈ entry.handlers
    · simp [hmem, hentry]
    · simp [hmem]

/-- A handler that unsubscribes: it is not there, others stay, or it is the last one and the operation is issued. -/
theorem unsubscribe_cases {l : TopicLink} (handler : HandlerId)
    (hentries : ∀ entry, c.topicHandlers.get l.key = some entry → entry.handlers ≠ []) :
    (TopicSession.handlers l c = [] ∧ c.unsubscribe l.backendId l.topic handler = c) ∨
      ∃ topicHandlers, TopicSession.handlers l { c with topicHandlers } = (TopicSession.handlers l c).filter (· ≠ handler) ∧
        (∀ entry, topicHandlers.get l.key = some entry → entry.handlers ≠ []) ∧ TopicSession.handlers l c ≠ [] ∧
        (((TopicSession.handlers l c).filter (· ≠ handler) ≠ [] ∧
            c.unsubscribe l.backendId l.topic handler = { c with topicHandlers }) ∨
          ((TopicSession.handlers l c).filter (· ≠ handler) = [] ∧
            c.unsubscribe l.backendId l.topic handler = { c with topicHandlers }.controlOp l.unsubscribe)) := by
  unfold unsubscribe TopicSession.handlers
  dsimp only
  rw [show topicKey l.backendId l.topic = l.key from rfl]
  cases hentry : c.topicHandlers.get l.key with
  | none => exact Or.inl ⟨rfl, rfl⟩
  | some entry =>
    have hne : entry.handlers ≠ [] := hentries entry hentry
    refine Or.inr ?_
    by_cases hfilter : entry.handlers.filter (· ≠ handler) = []
    · refine ⟨c.topicHandlers.delete l.key, ?_, ?_, hne, Or.inr ⟨hfilter, if_pos hfilter⟩⟩
      · rw [InsertionMap.get_delete_self]
        exact hfilter.symm
      · intro entry' hentry'
        rw [InsertionMap.get_delete_self] at hentry'
        cases hentry'
    · refine ⟨c.topicHandlers.set l.key { entry with handlers := entry.handlers.filter (· ≠ handler) }, ?_, ?_, hne,
        Or.inl ⟨hfilter, if_neg hfilter⟩⟩
      · rw [InsertionMap.get_set_self]
        rfl
      · intro entry' hentry'
        rw [InsertionMap.get_set_self] at hentry'
        obtain rfl := Option.some.inj hentry'
        exact hfilter

end GatewayClient

/-! ## Steps -/

namespace TopicSession

def view (l : TopicLink) (s : TopicSession) : TopicView :=
  { settled := s.client.settledOp.map Prod.fst
    running := s.client.runningOp
    queue := s.client.opQueue
    handlers := handlers l s.client
    held := held l s.gateway
    requests := s.requests
    answers := s.answers
    owed := s.owed }

/-- What the steps of a session keep whose connection stays up. -/
structure Kept (l : TopicLink) (s : TopicSession) : Prop where
  up : s.client.Up l.ws
  pending : s.client.pendingOp = s.client.runningOp
  resolved : ∀ op outcome, s.client.settledOp = some (op, outcome) → ∃ reply, outcome = .resolved reply
  entries : ∀ entry, s.client.topicHandlers.get l.key = some entry → entry.handlers ≠ []
  online : Online l s.gateway
  sound : (s.view l).Sound l

variable {l : TopicLink} {s : TopicSession} {e : TopicSessionEvent}

/-- A step that is a move of the view and keeps the rest. -/
def Steps (l : TopicLink) (s : TopicSession) (e : TopicSessionEvent) (s' : TopicSession) : Prop :=
  s'.Kept l ∧ (s.view l).Move l e (s'.view l)

theorem Kept.quiet (h : s.Kept l) : { s with client := s.client.quiet }.Kept l :=
  ⟨h.up.of_session rfl, h.pending, h.resolved, h.entries, h.online, h.sound⟩

/-- An operation is issued. -/
theorem Kept.subscribe (h : s.Kept l) (handler : HandlerId) : Steps l s (.subscribe handler) (s.step l (.subscribe handler)) := by
  have hmove : (s.view l).Move l (.subscribe handler) ((s.step l (.subscribe handler)).view l) := by
    have hm := TopicView.Move.issue (l := l) (v := s.view l) handler ⟨s.client.nextOp, l.subscribe handler⟩ rfl
    have hv : (s.step l (.subscribe handler)).view l =
        { s.view l with queue := (s.view l).queue ++ [⟨s.client.nextOp, l.subscribe handler⟩] } := by
      change ({ s.view l with queue := _, requests := s.requests ++ [] } : TopicView) = _
      rw [List.append_nil]
      rfl
    rw [hv]
    exact hm
  exact ⟨⟨h.up.of_session rfl, h.pending, h.resolved, h.entries, h.online, hmove.sound h.sound⟩, hmove⟩

/-- A handler leaves, and the last one unsubscribes the client. -/
theorem Kept.unsubscribe (h : s.Kept l) (handler : HandlerId) :
    Steps l s (.unsubscribe handler) (s.step l (.unsubscribe handler)) := by
  have hq := h.quiet
  -- The step with the client's new state in place.
  have hview (c : GatewayClient) (hc : s.client.quiet.unsubscribe l.backendId l.topic handler = c)
      (hsent : sends l.ws c = []) :
      (s.step l (.unsubscribe handler)).view l =
        { (s.view l).forgive handler with
          settled := c.settledOp.map Prod.fst, running := c.runningOp, queue := c.opQueue, handlers := handlers l c } := by
    change ({ ({ s with client := s.client.quiet.unsubscribe l.backendId l.topic handler,
                        requests := s.requests ++ sends l.ws (s.client.quiet.unsubscribe l.backendId l.topic handler) }
      : TopicSession).forgive handler with } : TopicSession).view l = _
    rw [hc, hsent, List.append_nil]
    rfl
  have hclient (c : GatewayClient) (hc : s.client.quiet.unsubscribe l.backendId l.topic handler = c) :
      (s.step l (.unsubscribe handler)).client = c := hc
  have hkept (c : GatewayClient) (hc : s.client.quiet.unsubscribe l.backendId l.topic handler = c)
      (hsession : c.session = s.client.session) (hpending : c.pendingOp = c.runningOp)
      (hresolved : c.settledOp = s.client.settledOp)
      (hentries : ∀ entry, c.topicHandlers.get l.key = some entry → entry.handlers ≠ [])
      (hmove : (s.view l).Move l (.unsubscribe handler) ((s.step l (.unsubscribe handler)).view l)) :
      Steps l s (.unsubscribe handler) (s.step l (.unsubscribe handler)) := by
    refine ⟨⟨?_, ?_, ?_, ?_, h.online, hmove.sound h.sound⟩, hmove⟩
    · rw [hclient c hc]
      exact h.up.of_session hsession
    · rw [hclient c hc]
      exact hpending
    · rw [hclient c hc, hresolved]
      exact h.resolved
    · rw [hclient c hc]
      exact hentries
  rcases GatewayClient.unsubscribe_cases (c := s.client.quiet) handler hq.entries with
    ⟨hnone, hc⟩ | ⟨topicHandlers, hrest, hentries, hne, ⟨hsome, hc⟩ | ⟨hlast, hc⟩⟩
  · refine hkept _ hc rfl h.pending rfl h.entries ?_
    have hm := TopicView.Move.leave (l := l) (v := s.view l) handler (fun hne => absurd hnone hne)
    rw [hview _ hc rfl]
    have hfilter : (s.view l).handlers.filter (· ≠ handler) = (s.view l).handlers := by
      rw [show (s.view l).handlers = [] from hnone]
      rfl
    rw [hfilter] at hm
    exact hm
  · refine hkept _ hc rfl h.pending rfl hentries ?_
    have hm := TopicView.Move.leave (l := l) (v := s.view l) handler (fun _ => hsome)
    rw [hview _ hc rfl, hrest]
    exact hm
  · refine hkept _ hc rfl h.pending rfl hentries ?_
    have hm := TopicView.Move.last (l := l) (v := s.view l) handler ⟨s.client.nextOp, l.unsubscribe⟩ hne hlast rfl
    rw [hview _ hc rfl]
    change (s.view l).Move l (.unsubscribe handler)
      { (s.view l).forgive handler with
        handlers := handlers l { s.client.quiet with topicHandlers }
        queue := s.client.opQueue ++ [⟨s.client.nextOp, l.unsubscribe⟩] }
    rw [hrest, hlast]
    exact hm

/-- The operation at the head of the queue runs when its turn has come. -/
theorem Kept.runOp (h : s.Kept l) : Steps l s .runOp (s.step l .runOp) := by
  have hq := h.quiet
  by_cases hturn : s.client.runningOp = none ∧ s.client.settledOp = none ∧ s.client.opQueue ≠ []
  · obtain ⟨hrun, hsettled, hqueue⟩ := hturn
    obtain ⟨op, rest, hqueue⟩ := List.exists_cons_of_ne_nil hqueue
    have hc := hq.up.runOp hqueue hrun hsettled
    have hsent : sends l.ws s.client.quiet.runOp = [op] := by
      rw [hc]
      simp [sends, GatewayClient.quiet]
    have hmove : (s.view l).Move l .runOp ((s.step l .runOp).view l) := by
      have hm := TopicView.Move.run (l := l) (v := s.view l) op rest (by rw [view, hsettled]; rfl) hrun hqueue
      have hv : (s.step l .runOp).view l =
          { s.view l with running := some op, queue := rest, requests := (s.view l).requests ++ [op] } := by
        change ({ s with client := s.client.quiet.runOp, requests := s.requests ++ sends l.ws s.client.quiet.runOp }
          : TopicSession).view l = _
        rw [hsent, hc]
        rfl
      rw [hv]
      exact hm
    refine ⟨⟨?_, ?_, ?_, ?_, h.online, hmove.sound h.sound⟩, hmove⟩
    · exact hq.up.of_session (GatewayClient.session_runOp _)
    · change s.client.quiet.runOp.pendingOp = s.client.quiet.runOp.runningOp
      rw [hc]
    · change ∀ op outcome, s.client.quiet.runOp.settledOp = some (op, outcome) → _
      rw [hc]
      exact h.resolved
    · change ∀ entry, s.client.quiet.runOp.topicHandlers.get l.key = some entry → _
      rw [hc]
      exact h.entries
  · have hc : s.client.quiet.runOp = s.client.quiet := by
      refine GatewayClient.runOp_idle ?_
      by_contra hno
      rw [not_or, not_or, not_not, not_not] at hno
      exact hturn ⟨hno.2.1, hno.2.2, hno.1⟩
    have hs : s.step l .runOp = { s with client := s.client.quiet } := by
      change ({ s with client := s.client.quiet.runOp, requests := s.requests ++ sends l.ws s.client.quiet.runOp }
          : TopicSession) = _
      rw [hc]
      change ({ s with client := s.client.quiet, requests := s.requests ++ [] } : TopicSession) = _
      rw [List.append_nil]
    rw [hs]
    exact ⟨hq, .idle .runOp nofun⟩

/-- A step of the client that sends no request. -/
theorem onClient_eq {e : ClientEvent} {c : GatewayClient} (hc : s.client.quiet.handle l.options e = c)
    (hsent : sends l.ws c = []) : s.onClient l e = { s with client := c } := by
  unfold onClient GatewayClient.step
  dsimp only
  rw [hc, hsent, List.append_nil]

/-- A step of the client that sends no request and is a move. -/
theorem Kept.of_client (h : s.Kept l) {c : GatewayClient} (hs : s.step l e = { s with client := c }) (hup : c.Up l.ws)
    (hpending : c.pendingOp = c.runningOp)
    (hresolved : ∀ op outcome, c.settledOp = some (op, outcome) → ∃ reply, outcome = .resolved reply)
    (hentries : ∀ entry, c.topicHandlers.get l.key = some entry → entry.handlers ≠ [])
    (hmove : (s.view l).Move l e (view l { s with client := c })) : Steps l s e (s.step l e) := by
  rw [hs]
  exact ⟨⟨hup, hpending, hresolved, hentries, h.online, hmove.sound h.sound⟩, hmove⟩

/-- A step of the client that does nothing. -/
theorem Kept.idle (h : s.Kept l) {e : TopicSessionEvent} (he : ∀ handler, e ≠ .unsubscribe handler)
    (hs : s.step l e = { s with client := s.client.quiet }) : Steps l s e (s.step l e) := by
  rw [hs]
  exact ⟨h.quiet, .idle e he⟩

/-- The caller of the operation that has settled goes on. -/
theorem Kept.resumeOp (h : s.Kept l) : Steps l s .resumeOp (s.step l .resumeOp) := by
  rcases hsettled : s.client.settledOp with _ | ⟨op, outcome⟩
  · refine h.idle nofun (onClient_eq ?_ rfl)
    change s.client.quiet.resumeOp = _
    unfold GatewayClient.resumeOp
    rw [show s.client.quiet.settledOp = none from hsettled]
  · obtain ⟨reply, rfl⟩ := h.resolved op outcome hsettled
    have hsettled' : (s.view l).settled = some op := by
      rw [view, hsettled]
      rfl
    have hown : l.Own op := by
      refine h.sound.own op ?_
      rw [TopicView.underway, hsettled']
      exact List.mem_cons_self
    obtain ⟨id, caller⟩ := op
    rcases hown with hop | ⟨handler, hop⟩
    · obtain rfl : caller = l.unsubscribe := hop
      have hc : s.client.quiet.resumeOp = { s.client.quiet with settledOp := none } := by
        unfold GatewayClient.resumeOp
        rw [show s.client.quiet.settledOp = some (⟨id, l.unsubscribe⟩, .resolved reply) from hsettled]
        rfl
      exact h.of_client (onClient_eq hc rfl) (h.up.of_session rfl) h.pending nofun h.entries (.left _ hsettled' rfl)
    · obtain rfl : caller = l.subscribe handler := hop
      have hc : s.client.quiet.resumeOp =
          { s.client.quiet with settledOp := none }.addHandler l.backendId l.topic handler := by
        unfold GatewayClient.resumeOp
        rw [show s.client.quiet.settledOp = some (⟨id, l.subscribe handler⟩, .resolved reply) from hsettled]
        rfl
      generalize hd : ({ s.client.quiet with settledOp := none } : GatewayClient) = d at hc
      obtain ⟨hhandlers, hentries⟩ := GatewayClient.handlers_addHandler (c := d) (l := l) handler
      obtain ⟨hops, houtbox⟩ := GatewayClient.ops_addHandler d l.backendId l.topic handler
      have hsent : sends l.ws (d.addHandler l.backendId l.topic handler) = [] := by
        unfold sends
        rw [houtbox, ← hd]
        rfl
      have hup : (d.addHandler l.backendId l.topic handler).Up l.ws := by
        refine GatewayClient.Up.of_session ?_ (GatewayClient.session_addHandler d l.backendId l.topic handler)
        rw [← hd]
        exact h.up.of_session rfl
      have hpending := congrArg OpsPart.pendingOp hops
      have hrunning := congrArg OpsPart.runningOp hops
      have hnone := congrArg OpsPart.settledOp hops
      have hqueue := congrArg OpsPart.opQueue hops
      dsimp only [GatewayClient.ops] at hpending hrunning hnone hqueue
      subst hd
      refine h.of_client (onClient_eq hc hsent) hup ?_ ?_ (hentries h.entries) ?_
      · rw [hpending, hrunning]
        exact h.pending
      · rw [hnone]
        exact nofun
      · have hm := TopicView.Move.subscribed (l := l) (v := s.view l) _ handler hsettled' rfl
        have hv : ({ s with client :=
              { s.client.quiet with settledOp := none }.addHandler l.backendId l.topic handler } : TopicSession).view l =
            { s.view l with
              settled := none
              handlers := if handler ∈ (s.view l).handlers then (s.view l).handlers else (s.view l).handlers ++ [handler] } := by
          unfold view
          rw [hnone, hrunning, hqueue, hhandlers]
          rfl
        rw [hv]
        exact hm

/-- An event of the gateway that leaves the connection alone. -/
theorem Kept.gateway (h : s.Kept l) {g : Event} (hu : s.Undisturbed l (.gateway g)) :
    Steps l s (.gateway g) (s.step l (.gateway g)) := by
  obtain ⟨honline, hheld, hsent⟩ := hu g rfl
  have hmove : (s.view l).Move l (.gateway g) ((s.step l (.gateway g)).view l) := by
    have hm := TopicView.Move.tell (l := l) (v := s.view l) g _ hsent
    have hv : (s.step l (.gateway g)).view l =
        { s.view l with
          answers := (s.view l).answers ++
            (sentTo l.gatewaySocket (s.gateway.step l.Γ g)).map (fun message => ⟨message, (s.view l).owed⟩) } := by
      change ({ s.view l with held := held l (s.gateway.step l.Γ g), answers := _ } : TopicView) = _
      rw [hheld]
      rfl
    rw [hv]
    exact hm
  exact ⟨⟨h.up, h.pending, h.resolved, h.entries, honline, hmove.sound h.sound⟩, hmove⟩

/-- The gateway reads a request and answers it. -/
theorem Kept.request (h : s.Kept l) : Steps l s .request (s.step l .request) := by
  rcases hrequests : s.requests with _ | ⟨op, rest⟩
  · have hs : s.step l .request = s := by
      unfold step
      rw [hrequests]
    rw [hs]
    exact ⟨h, .idle .request nofun⟩
  · have hown : l.Own op := by
      have hflight := h.sound.flight
      rw [show (s.view l).requests = op :: rest from hrequests] at hflight
      refine h.sound.own op ?_
      rw [TopicView.underway]
      generalize (s.view l).running = running at hflight ⊢
      cases hflight with
      | asked op hq => simp
    obtain ⟨honline, hheld, reply, more, hsent, hreply, hmore⟩ := h.online.reads hown
    have howing : s.owing op (reply :: more) = (s.view l).owing op := by
      unfold owing TopicView.owing
      rcases hown with hop | ⟨handler, hop⟩
      · rw [hop]
        rfl
      · rw [hop] at hreply ⊢
        have hacknowledged : reply.replyType = some .topicSubscribed := hreply
        simp [TopicLink.subscribe, hacknowledged, view]
    have hs : s.step l .request =
        { s with
          requests := rest
          gateway := s.gateway.step l.Γ (l.reads op)
          owed := (s.view l).owing op
          answers := s.answers ++ (reply :: more).map (fun message => ⟨message, (s.view l).owing op⟩) } := by
      rw [← howing, ← hsent]
      unfold step
      rw [hrequests]
      rfl
    have hmove : (s.view l).Move l .request ((s.step l .request).view l) := by
      have hm := TopicView.Move.request (l := l) (v := s.view l) op rest reply more hrequests hreply hmore
      rw [hs]
      rw [← hheld] at hm
      exact hm
    refine ⟨?_, hmove⟩
    have hsound := hmove.sound h.sound
    rw [hs] at hsound ⊢
    exact ⟨h.up, h.pending, h.resolved, h.entries, honline, hsound⟩

/-- The socket dispatches a message. -/
theorem Kept.dispatch (h : s.Kept l) : Steps l s .dispatch (s.step l .dispatch) := by
  rcases hanswers : s.answers with _ | ⟨d, rest⟩
  · have hs : s.step l .dispatch = s := by
      unfold step
      rw [hanswers]
    rw [hs]
    exact ⟨h, .idle .dispatch nofun⟩
  · have hhead : (s.view l).answers = d :: rest := hanswers
    have hdispatched (c : GatewayClient) (hc : s.client.quiet.routeMessage d.message = c) (hsent : sends l.ws c = []) :
        s.step l .dispatch = { s with answers := rest, client := c } := by
      unfold step
      rw [hanswers]
      refine onClient_eq (s := { s with answers := rest }) ?_ hsent
      exact (h.quiet.up.socketMessage d.message).trans hc
    have hflight := h.sound.flight
    rw [hhead] at hflight
    rcases hflight.head with ⟨hquiet, -⟩ | ⟨op, hrunning, hrequests, hreply, -⟩
    · obtain ⟨hup, hops, htopics, delivered, houtbox⟩ := h.quiet.up.routeMessage hquiet
      have hsent : sends l.ws (s.client.quiet.routeMessage d.message) = [] := by
        unfold sends
        rw [houtbox]
        simp [GatewayClient.quiet]
      have hpending := congrArg OpsPart.pendingOp hops
      have hrun := congrArg OpsPart.runningOp hops
      have hsettled := congrArg OpsPart.settledOp hops
      have hqueue := congrArg OpsPart.opQueue hops
      dsimp only [GatewayClient.ops] at hpending hrun hsettled hqueue
      have hmove : (s.view l).Move l .dispatch ((s.step l .dispatch).view l) := by
        have hm := TopicView.Move.heard (l := l) (v := s.view l) d rest hhead hquiet
        have hv : (s.step l .dispatch).view l = { s.view l with answers := rest } := by
          rw [hdispatched _ rfl hsent]
          unfold view handlers
          dsimp only
          rw [hsettled, hrun, hqueue, htopics]
          rfl
        rw [hv]
        exact hm
      refine ⟨?_, hmove⟩
      have hsound := hmove.sound h.sound
      rw [hdispatched _ rfl hsent] at hsound ⊢
      refine ⟨hup, ?_, ?_, ?_, h.online, hsound⟩
      · rw [hpending, hrun]
        exact h.pending
      · rw [hsettled]
        exact h.resolved
      · rw [htopics]
        exact h.entries
    · have hc := GatewayClient.settle_running (c := s.client.quiet) (h.pending.trans hrunning) hrunning hreply
      have hs := hdispatched _ hc rfl
      have hmove : (s.view l).Move l .dispatch ((s.step l .dispatch).view l) := by
        rw [hs]
        exact .settles d rest op hhead (TopicView.isAnswer_of_replyType hreply) hrunning
      refine ⟨?_, hmove⟩
      have hsound := hmove.sound h.sound
      rw [hs] at hsound ⊢
      refine ⟨h.up.of_session rfl, rfl, ?_, h.entries, h.online, hsound⟩
      intro op' outcome hsettled
      obtain ⟨rfl, rfl⟩ := Prod.mk.inj (Option.some.inj hsettled)
      exact ⟨d.message, rfl⟩

/-- Every step of a session whose connection stays up is a move, as long as no timer fires. -/
theorem Kept.step (h : s.Kept l) (hu : s.Undisturbed l e) (ht : ¬ s.Expires e) : Steps l s e (s.step l e) := by
  cases e with
  | subscribe handler => exact h.subscribe handler
  | unsubscribe handler => exact h.unsubscribe handler
  | runOp => exact h.runOp
  | resumeOp => exact h.resumeOp
  | opTimeout op =>
    refine h.idle nofun (onClient_eq ?_ rfl)
    change s.client.quiet.opTimeout op = _
    unfold GatewayClient.opTimeout
    exact if_neg (fun hop => ht ⟨op, rfl, hop⟩)
  | request => exact h.request
  | gateway g => exact h.gateway hu
  | dispatch => exact h.dispatch

end TopicSession

end ZclaudiaGateway
