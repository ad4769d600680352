import ZclaudiaGateway.Lemmas.Teardown

/-!
# What goes out

`Emits P` says that everything that goes out from one state of the network to the next satisfies `P`. The operations on
sockets and responses emit what their names say; a teardown emits no message but `channel_closed`.
-/

namespace ZclaudiaGateway

/-- The message carries a backend's data or names a backend that its receiver has not named. -/
def GatewayToPeer.names : GatewayToPeer → Bool
  | .peerReady _ _ _ _ _ | .registrySnapshot _ | .channelReady _ _ _ | .channelOffer _ _ _ _ _ => true
  | .topicSubscribed _ _ | .topicMessage _ _ _ | .backendServerMessage _ => true
  | _ => false

/-- The answer carries registry items. -/
def HttpReply.names (r : HttpReply) : Bool :=
  match r.body with
  | .registry _ => true
  | _ => false

theorem HttpReply.names_credential (status : Nat) (c : Option CredentialRecord) :
    ({ status, body := c.elim .null .credential } : HttpReply).names = false := by
  cases c <;> rfl

/-- The output is such a message or answer. -/
def Output.names : Output → Bool
  | .send _ m => m.names
  | .reply r => r.names
  | _ => false

/-- What a teardown puts out. -/
def Output.tears : Output → Bool
  | .send _ (.channelClosed _ _) => true
  | .close _ _ _ | .terminate _ => true
  | .head _ _ _ | .replyProxy _ _ | .destroyResponse _ => true
  | _ => false

theorem Output.names_of_tears (o : Output) (h : o.tears = true) : o.names = false := by
  cases o with
  | send ws m => cases m <;> first | rfl | cases h
  | reply r => cases h
  | _ => rfl

namespace Net

/-- Everything that goes out in between satisfies the predicate. -/
def Emits (P : Output → Prop) (net net' : Net) : Prop := ∃ out, net'.outbox = net.outbox ++ out ∧ ∀ o ∈ out, P o

variable {P : Output → Prop}

theorem Emits.of_eq {net net' : Net} (h : net'.outbox = net.outbox) : net.Emits P net' :=
  ⟨[], by rw [h, List.append_nil], fun _ ho => (nomatch ho)⟩

theorem Emits.refl (net : Net) : net.Emits P net := .of_eq rfl

theorem Emits.trans {net net' net'' : Net} (h : net.Emits P net') (h' : net'.Emits P net'') : net.Emits P net'' := by
  obtain ⟨out, he, hP⟩ := h
  obtain ⟨out', he', hP'⟩ := h'
  refine ⟨out ++ out', by rw [he', he, List.append_assoc], ?_⟩
  intro o ho
  rcases List.mem_append.mp ho with ho | ho
  · exact hP o ho
  · exact hP' o ho

theorem Emits.mono {Q : Output → Prop} (hPQ : ∀ o, P o → Q o) {net net' : Net} (h : net.Emits P net') : net.Emits Q net' := by
  obtain ⟨out, he, hP⟩ := h
  exact ⟨out, he, fun o ho => hPQ o (hP o ho)⟩

/-- What goes out in the course of an event that starts with an empty outbox. -/
theorem Emits.of_quiet {net net' : Net} (h : net.Emits P net') (hq : net.outbox = []) : ∀ o ∈ net'.outbox, P o := by
  obtain ⟨out, he, hP⟩ := h
  rw [hq, List.nil_append] at he
  rw [he]
  exact hP

/-! ## The operations -/

theorem Emits.emit {o : Output} (ho : P o) (net : Net) : net.Emits P (net.emit o) :=
  ⟨[o], rfl, by
    intro o' ho'
    rw [List.mem_singleton] at ho'
    exact ho' ▸ ho⟩

theorem Emits.writeBody {ex : ExchangeId} {data : Bytes} (h : P (.body ex data)) (hasBody : Bool) (net : Net) :
    net.Emits P (net.writeBody ex hasBody data) := by
  cases hasBody with
  | false => exact .refl net
  | true => exact .emit h net

theorem Emits.modifySocket (ws : SocketId) (f : WsSocket → WsSocket) (net : Net) : net.Emits P (net.modifySocket ws f) :=
  .of_eq rfl

theorem Emits.modifyExchange (ex : ExchangeId) (f : HttpExchange → HttpExchange) (net : Net) :
    net.Emits P (net.modifyExchange ex f) :=
  .of_eq rfl

theorem Emits.sendToWs {ws : SocketId} {m : GatewayToPeer} (h : P (.send ws m)) (net : Net) : net.Emits P (net.sendToWs ws m) := by
  unfold Net.sendToWs
  split
  · exact .emit h net
  · exact .refl net

theorem Emits.ping {ws : SocketId} (h : P (.ping ws)) (net : Net) : net.Emits P (net.ping ws) := by
  unfold Net.ping
  split
  · exact .emit h net
  · exact .refl net

theorem Emits.close {ws : SocketId} {code : Nat} {reason : String} (h : P (.close ws code reason)) (net : Net) :
    net.Emits P (net.close ws code reason) := by
  unfold Net.close
  split
  · exact (Emits.modifySocket ws _ net).trans (.emit h _)
  · exact .refl net

theorem Emits.terminate {ws : SocketId} (h : P (.terminate ws)) (net : Net) : net.Emits P (net.terminate ws) := by
  unfold Net.terminate
  split
  · exact .refl net
  · exact (Emits.modifySocket ws _ net).trans (.emit h _)

theorem Emits.pause {ws : SocketId} (h : P (.pause ws)) (net : Net) : net.Emits P (net.pause ws) := by
  unfold Net.pause
  split
  · exact .refl net
  · exact (Emits.modifySocket ws _ net).trans (.emit h _)

theorem Emits.resume (ws : SocketId) (net : Net) : net.Emits P (net.resume ws) := by
  unfold Net.resume
  split
  · exact .refl net
  · exact .modifySocket ws _ net

theorem Emits.foldl {α : Type} {f : Net → α → Net} (l : List α) (hf : ∀ net : Net, ∀ a ∈ l, net.Emits P (f net a)) (net : Net) :
    net.Emits P (l.foldl f net) := by
  induction l generalizing net with
  | nil => exact .refl net
  | cons a l ih =>
    have hhead := hf net a List.mem_cons_self
    exact hhead.trans (ih (fun net' b hb => hf net' b (List.mem_cons_of_mem a hb)) (f net a))

/-! ## Discreet operations -/

/-- No message that goes out in between names a backend. -/
def Discreet (net net' : Net) : Prop := net.Emits (fun o => o.names = false) net'

theorem Discreet.of_eq {net net' : Net} (h : net'.outbox = net.outbox) : net.Discreet net' := Emits.of_eq h

theorem Discreet.refl (net : Net) : net.Discreet net := .of_eq rfl

theorem Discreet.trans {net net' net'' : Net} (h : net.Discreet net') (h' : net'.Discreet net'') : net.Discreet net'' :=
  Emits.trans h h'

theorem Discreet.emit {o : Output} (ho : o.names = false) (net : Net) : net.Discreet (net.emit o) := Emits.emit ho net

theorem Discreet.reply {r : HttpReply} (hr : r.names = false) (net : Net) : net.Discreet (net.emit (.reply r)) := by
  have hreply : (Output.reply r).names = false := hr
  exact .emit hreply net

/-- A socket is there, and is told of. -/
theorem Discreet.attach {o : Output} (ho : o.names = false) (sockets : InsertionMap SocketId WsSocket) (net : Net) :
    net.Discreet ({ net with sockets }.emit o) :=
  (Discreet.of_eq rfl).trans (.emit ho { net with sockets })

theorem Discreet.modifySocket (ws : SocketId) (f : WsSocket → WsSocket) (net : Net) : net.Discreet (net.modifySocket ws f) :=
  .of_eq rfl

theorem Discreet.modifyExchange (ex : ExchangeId) (f : HttpExchange → HttpExchange) (net : Net) :
    net.Discreet (net.modifyExchange ex f) :=
  .of_eq rfl

theorem Discreet.sendToWs {m : GatewayToPeer} (hm : m.names = false) (ws : SocketId) (net : Net) :
    net.Discreet (net.sendToWs ws m) := by
  have hsent : (Output.send ws m).names = false := hm
  exact Emits.sendToWs hsent net

theorem Discreet.ping (ws : SocketId) (net : Net) : net.Discreet (net.ping ws) := by
  have hping : (Output.ping ws).names = false := rfl
  exact Emits.ping hping net

theorem Discreet.close (ws : SocketId) (code : Nat) (reason : String) (net : Net) :
    net.Discreet (net.close ws code reason) := by
  have hclose : (Output.close ws code reason).names = false := rfl
  exact Emits.close hclose net

theorem Discreet.terminate (ws : SocketId) (net : Net) : net.Discreet (net.terminate ws) := by
  have hterminate : (Output.terminate ws).names = false := rfl
  exact Emits.terminate hterminate net

theorem Discreet.pause (ws : SocketId) (net : Net) : net.Discreet (net.pause ws) := by
  have hpause : (Output.pause ws).names = false := rfl
  exact Emits.pause hpause net

theorem Discreet.resume (ws : SocketId) (net : Net) : net.Discreet (net.resume ws) := Emits.resume ws net

theorem Discreet.of_tears {net net' : Net} (h : net.Emits (fun o => o.tears = true) net') : net.Discreet net' :=
  Emits.mono Output.names_of_tears h

theorem Emits.modifyConn (ws : SocketId) (f : ControlConn → ControlConn) (net : Net) :
    net.Emits P (Gateway.modifyConn ws f net) :=
  .modifySocket ws _ net

end Net

namespace Gateway

variable {P : Output → Prop}

/-! ## Teardown -/

theorem teardownResponse_emits (reason : ChannelClosedReason) (internalRes : Option ExchangeId) (net : Net) :
    net.Emits (fun o => o.tears = true) (teardownResponse reason internalRes net) := by
  unfold teardownResponse
  split
  · exact .refl net
  · split
    · exact .refl net
    · split
      · refine Net.Emits.trans ?_ (.emit (by rfl) _)
        exact (Net.Emits.modifyExchange _ _ net).trans (.emit (by rfl) _)
      · split
        · exact (Net.Emits.modifyExchange _ _ net).trans (.emit (by rfl) _)
        · exact .refl net

theorem teardownSocket_emits (reason : ChannelClosedReason) (socket : Option SocketId) (net : Net) :
    net.Emits (fun o => o.tears = true) (teardownSocket reason socket net) := by
  unfold teardownSocket
  split
  · exact .refl net
  · dsimp only
    split
    · exact (Net.Emits.resume _ net).trans (.close (by rfl) _)
    · exact (Net.Emits.resume _ net).trans (.terminate (by rfl) _)

theorem notifyClosed_emits (peers : InsertionMap String PeerSession) (channelId : String) (reason : ChannelClosedReason)
    (sessionId : String) (net : Net) : net.Emits (fun o => o.tears = true) (notifyClosed peers channelId reason sessionId net) := by
  unfold notifyClosed
  split
  · exact .refl net
  · exact .sendToWs (by rfl) net

theorem teardownChannel_emits (reason : ChannelClosedReason) (s : Gateway) (channelId : String) :
    s.net.Emits (fun o => o.tears = true) (s.teardownChannel reason channelId).net := by
  unfold teardownChannel
  split
  · exact .refl _
  · dsimp only [teardownNet]
    refine Net.Emits.trans ?_ (notifyClosed_emits _ _ _ _ _)
    refine Net.Emits.trans ?_ (notifyClosed_emits _ _ _ _ _)
    refine Net.Emits.trans ?_ (teardownSocket_emits _ _ _)
    refine Net.Emits.trans ?_ (teardownSocket_emits _ _ _)
    exact teardownResponse_emits _ _ _

theorem teardowns_emits (reason : ChannelClosedReason) (ids : List String) (s : Gateway) :
    s.net.Emits (fun o => o.tears = true) (ids.foldl (teardownChannel reason) s).net := by
  induction ids generalizing s with
  | nil => exact .refl _
  | cons id ids ih => exact (teardownChannel_emits reason s id).trans (ih (s.teardownChannel reason id))

theorem teardownWhere_emits (test : ChannelRecord → Bool) (reason : ChannelClosedReason) (s : Gateway) :
    s.net.Emits (fun o => o.tears = true) (s.teardownWhere test reason).net :=
  teardowns_emits reason _ s

end Gateway

end ZclaudiaGateway
