import ZclaudiaGateway.Lemmas.Connections
import ZclaudiaGateway.Lemmas.Sample

/-!
# Messages of authenticated peers

Whatever JSON value an authenticated peer sends, the validator accepts only what the handlers can read, so a message has its
effect or is answered with an error. A push notification is the exception: its event is opaque to the validator, and the
promise `notify` returns is left to reject.
-/

/-- The value can be left out of the headers or joined to one: `notify` does not throw on it. -/
def JsonValue.Joinable (stack : CallStack) : JsonValue → Prop
  | .arr elems => elems ≠ [] → (∀ e ∈ elems, e.hasText = true) ∧ stack.joins elems = true
  | .str s => s = ""
  | .obj members => ∀ length, (JsonValue.obj members).member "length" = some length →
      length.convertsToString stack = true ∧ length.positive = false
  | _ => True

theorem JsonValue.allHaveText_iff (elems : List JsonValue) :
    allHaveText elems = true ↔ ∀ e ∈ elems, e.hasText = true := by
  induction elems with
  | nil => simp [allHaveText]
  | cons v vs ih => simp [allHaveText, ih]

namespace ZclaudiaGateway

/-! ## The validator -/

/-- A valid message has every required field, and the field passes its check. -/
theorem validateFields_required {type : String} {message : JsonValue} {specs : MessageSpec}
    (h : validateFields type message specs = none) (field : String) (spec : FieldSpec) (hm : (field, spec) ∈ specs)
    (hreq : spec.optional = false) : ∃ value, message.member field = some value ∧ checkKind value spec.kind = none := by
  induction specs with
  | nil => cases hm
  | cons head rest ih =>
    obtain ⟨name, spec'⟩ := head
    unfold validateFields at h
    rcases List.mem_cons.mp hm with he | hm
    · obtain ⟨rfl, rfl⟩ := Prod.mk.inj he
      split at h
      · rw [hreq] at h
        simp at h
      · rename_i value hvalue
        refine ⟨value, hvalue, ?_⟩
        split at h
        · cases h
        · rename_i hcheck
          unfold checkField at hcheck
          split at hcheck
          · cases hcheck
          · assumption
    · split at h
      · split at h
        · exact ih h hm
        · cases h
      · split at h
        · cases h
        · exact ih h hm

theorem checkKind_nonEmptyString {value : JsonValue} (h : checkKind value .nonEmptyString = none) :
    ∃ s, value.asString = some s := by
  unfold checkKind at h
  dsimp only at h
  split at h
  · exact ⟨_, by assumption⟩
  · cases h

theorem checkKind_number {value : JsonValue} (h : checkKind value .number = none) : ∃ n, value.asNumber = some n := by
  unfold checkKind at h
  dsimp only at h
  split at h
  · exact ⟨_, by assumption⟩
  · cases h

section Reads

variable {type : String} {message : JsonValue} {specs : MessageSpec}

/-- A field the spec requires as a non-empty string is read as a string. -/
theorem reads_string (h : validateFields type message specs = none) (field : String)
    (hm : (field, ({ kind := .nonEmptyString } : FieldSpec)) ∈ specs) : ∃ s, stringField message field = some s := by
  obtain ⟨value, hvalue, hcheck⟩ := validateFields_required h field _ hm rfl
  obtain ⟨s, hs⟩ := checkKind_nonEmptyString hcheck
  exact ⟨s, by rw [stringField, hvalue, Option.bind_some, hs]⟩

end Reads

/-- What the validator accepts, the handlers can read. -/
theorem readGatewayMessage_of_valid {message : JsonValue} (h : validateGatewayMessage message = none) :
    ∃ m, readGatewayMessage message = some m := by
  unfold validateGatewayMessage at h
  split at h
  · cases h
  · rcases htype : (message.member "type").bind JsonValue.asString with _ | type
    · rw [htype] at h
      cases h
    · rw [htype] at h
      dsimp only at h
      have hfield : stringField message "type" = some type := htype
      unfold readGatewayMessage
      rw [hfield]
      dsimp only
      split
      · obtain ⟨value, hvalue, hcheck⟩ := validateFields_required h "epoch" { kind := .number } (by decide) rfl
        obtain ⟨n, hn⟩ := checkKind_number hcheck
        exact ⟨.backendHeartbeat n, by rw [hvalue, Option.bind_some, hn]; rfl⟩
      · exact ⟨_, rfl⟩
      · obtain ⟨b, hb⟩ := reads_string h "backendId" (by decide)
        exact ⟨_, by rw [hb]; rfl⟩
      · obtain ⟨value, hvalue, -⟩ := validateFields_required h "event" { kind := .present } (by decide) rfl
        exact ⟨.pushNotificationRequest value, by rw [hvalue]; rfl⟩
      · exact ⟨_, rfl⟩
      · obtain ⟨target, ht⟩ := reads_string h "target" (by decide)
        exact ⟨_, by rw [ht]; rfl⟩
      · obtain ⟨channelId, hc⟩ := reads_string h "channelId" (by decide)
        exact ⟨_, by rw [hc]; rfl⟩
      · obtain ⟨channelId, hc⟩ := reads_string h "channelId" (by decide)
        exact ⟨_, by rw [hc]; rfl⟩
      · obtain ⟨b, hb⟩ := reads_string h "backendId" (by decide)
        obtain ⟨topic, ht⟩ := reads_string h "topic" (by decide)
        exact ⟨_, by rw [hb, ht]; rfl⟩
      · obtain ⟨b, hb⟩ := reads_string h "backendId" (by decide)
        obtain ⟨topic, ht⟩ := reads_string h "topic" (by decide)
        exact ⟨_, by rw [hb, ht]; rfl⟩
      · obtain ⟨topic, ht⟩ := reads_string h "topic" (by decide)
        exact ⟨_, by rw [ht]; rfl⟩
      · exact ⟨_, rfl⟩

/-! ## Notifications -/

/-- The name of an event, when it is a string. -/
def eventName (event : JsonValue) : Option String := stringField event "name"

/-- The event's name is on the list. -/
def Listed (list : List String) (event : JsonValue) : Prop :=
  ∃ name entry, eventName event = some name ∧ entry ∈ list ∧ matchesEntry name entry = true

/-- The event has a severity that can be looked up, or none. -/
def SeverityReads (stack : JsonValue.CallStack) (event : JsonValue) : Prop :=
  event ≠ .null ∧ ∀ severity, event.member "severity" = some severity → severity.convertsToString stack = true

/-- The event's severity is below the configured floor. -/
def BelowFloor (stack : JsonValue.CallStack) (config : NotificationConfig) (event : JsonValue) : Prop :=
  ∃ floor severity, config.minSeverity = some floor ∧ eventSeverity stack event = some (some severity) ∧
    severity.order < floor.order

/-- `notify` can read of the event what it reads for its configuration: the name for a list that is not empty, and of an event
that the lists let through its severity, and of one that is delivered its tags. -/
def NotifySafe (stack : JsonValue.CallStack) (config : NotificationConfig) (event : JsonValue) : Prop :=
  config.enabled = true → config.ntfyTopic ≠ "" →
    (config.eventDenylist ≠ [] → (eventName event).isSome) ∧
    (¬ Listed config.eventDenylist event →
      (config.eventAllowlist ≠ [] → (eventName event).isSome) ∧
      (config.eventAllowlist = [] ∨ Listed config.eventAllowlist event →
        SeverityReads stack event ∧
        (¬ BelowFloor stack config event → ∀ tags, event.member "tags" = some tags → tags.Joinable stack)))

section Notify

variable {stack : JsonValue.CallStack} {config : NotificationConfig} {event : JsonValue} {list : List String}

theorem someEntryMatches_none : someEntryMatches event list = none ↔ list ≠ [] ∧ eventName event = none := by
  unfold someEntryMatches eventName stringField
  cases list with
  | nil => simp
  | cons entry rest => simp

theorem someEntryMatches_true : someEntryMatches event list = some true ↔ Listed list event := by
  unfold someEntryMatches Listed eventName stringField
  cases list with
  | nil => simp
  | cons entry rest =>
    rcases (event.member "name").bind JsonValue.asString with _ | name
    · simp
    · simp

theorem eventSeverity_isSome : (eventSeverity stack event).isSome ↔ SeverityReads stack event := by
  unfold eventSeverity SeverityReads
  split
  · simp
  · rename_i hnull
    rcases hs : event.member "severity" with _ | severity
    · simpa using hnull
    · cases severity with
      | null => simpa [JsonValue.convertsToString, JsonValue.hasText] using hnull
      | _ => simp_all

theorem joinedTags_isSome :
    (joinedTags stack event).isSome ↔ ∀ tags, event.member "tags" = some tags → tags.Joinable stack := by
  unfold joinedTags
  rcases ht : event.member "tags" with _ | tags
  · simp
  · cases tags with
    | arr elems =>
      cases elems with
      | nil => simp [JsonValue.Joinable]
      | cons e es =>
        have htext := JsonValue.allHaveText_iff (e :: es)
        simp only [Option.some.injEq, forall_eq', JsonValue.Joinable, ← htext]
        rcases hjoin : JsonValue.joinsToString stack (e :: es) with _ | _
        · simpa [JsonValue.joinsToString] using hjoin
        · simpa [JsonValue.joinsToString] using hjoin
    | str s => simp [JsonValue.Joinable]
    | obj members =>
      simp only [Option.some.injEq, forall_eq', JsonValue.Joinable]
      rcases (JsonValue.obj members).member "length" with _ | length
      · simp
      · simp
    | _ => simp [JsonValue.Joinable]

/-- An event that the lists let through is delivered, or is below the floor. -/
theorem passesFloor_iff (backendId : Option String) :
    (∃ deliver, passesFloor stack config event = some deliver ∧
      (deliver = true → (ntfyRequest stack config event backendId).isSome)) ↔
    SeverityReads stack event ∧
      (¬ BelowFloor stack config event → ∀ tags, event.member "tags" = some tags → tags.Joinable stack) := by
  have hrequest : (ntfyRequest stack config event backendId).isSome ↔
      SeverityReads stack event ∧ ∀ tags, event.member "tags" = some tags → tags.Joinable stack := by
    rw [← eventSeverity_isSome, ← joinedTags_isSome]
    unfold ntfyRequest
    rcases eventSeverity stack event with _ | severity <;> rcases joinedTags stack event with _ | tags <;> simp
  rw [hrequest]
  unfold passesFloor
  rcases hfloor : config.minSeverity with _ | floor
  · have hno : ¬ BelowFloor stack config event := by
      rintro ⟨_, _, h, -⟩
      rw [hfloor] at h
      cases h
    simp [hno]
  · rcases hseverity : eventSeverity stack event with _ | severity
    · have hno : ¬ SeverityReads stack event := by
        rw [← eventSeverity_isSome, hseverity]
        simp
      simp [hno]
    · have hreads : SeverityReads stack event := by
        rw [← eventSeverity_isSome, hseverity]
        rfl
      have hbelow : BelowFloor stack config event ↔ severity.any (fun s => decide (s.order < floor.order)) = true := by
        unfold BelowFloor
        rw [hfloor, hseverity]
        cases severity <;> simp
      simp only [hbelow, hreads, true_and, Option.map_some, Option.some.injEq, exists_eq_left', Bool.not_eq_true']
      rw [Bool.not_eq_true]

/-- The lists are read in order, each only when it is not empty; what they let through goes on to the floor. -/
theorem shouldNotify_iff (R : Prop) :
    (∃ deliver, shouldNotify stack config event = some deliver ∧ (deliver = true → R)) ↔
    (config.eventDenylist ≠ [] → (eventName event).isSome) ∧
    (¬ Listed config.eventDenylist event →
      (config.eventAllowlist ≠ [] → (eventName event).isSome) ∧
      (config.eventAllowlist = [] ∨ Listed config.eventAllowlist event →
        ∃ deliver, passesFloor stack config event = some deliver ∧ (deliver = true → R))) := by
  have hreads (list : List String) (h : someEntryMatches event list ≠ none) (hlist : list ≠ []) :
      (eventName event).isSome := by
    by_contra hname
    exact h (someEntryMatches_none.mpr ⟨hlist, by simpa using hname⟩)
  have hunread {list : List String} (h : someEntryMatches event list = none) :
      ¬ (list ≠ [] → (eventName event).isSome) := by
    obtain ⟨hlist, hname⟩ := someEntryMatches_none.mp h
    simp [hlist, hname]
  unfold shouldNotify
  rcases hdeny : someEntryMatches event config.eventDenylist with _ | _ | _
  · refine iff_of_false (by simp) ?_
    rintro ⟨h, -⟩
    exact hunread hdeny h
  · have hlisted : ¬ Listed config.eventDenylist event := by
      rw [← someEntryMatches_true, hdeny]
      simp
    have hname := hreads config.eventDenylist (by simp [hdeny])
    simp only [hlisted, not_false_eq_true, true_implies]
    rw [and_iff_right hname]
    cases hallow : config.eventAllowlist with
    | nil => simp
    | cons entry rest =>
      rw [← hallow]
      have hcons : config.eventAllowlist ≠ [] := by simp [hallow]
      have hempty : config.eventAllowlist.isEmpty = false := by simp [hallow]
      rw [hempty, if_neg (by decide)]
      rcases hmatch : someEntryMatches event config.eventAllowlist with _ | _ | _
      · refine iff_of_false (by simp) ?_
        rintro ⟨h, -⟩
        exact hunread hmatch h
      · have hno : ¬ Listed config.eventAllowlist event := by
          rw [← someEntryMatches_true, hmatch]
          simp
        have hname' := hreads config.eventAllowlist (by simp [hmatch])
        simp [hcons, hno, hname' hcons]
      · have hyes : Listed config.eventAllowlist event := someEntryMatches_true.mp hmatch
        have hname' := hreads config.eventAllowlist (by simp [hmatch])
        simp [hyes, hname' hcons]
  · have hlisted : Listed config.eventDenylist event := someEntryMatches_true.mp hdeny
    refine iff_of_true ⟨false, rfl, by simp⟩ ⟨hreads _ (by simp [hdeny]), fun h => absurd hlisted h⟩

/-- The promise of `notify` does not reject exactly when `notify` can read what it reads. -/
theorem notify_safe_iff (backendId : Option String) :
    notify stack config event backendId ≠ .rejected ↔ NotifySafe stack config event := by
  unfold notify NotifySafe
  by_cases hoff : (!config.enabled || config.ntfyTopic = "") = true
  · rw [if_pos hoff]
    have hoff' : config.enabled = true → config.ntfyTopic = "" := by simpa [or_iff_not_imp_left] using hoff
    refine iff_of_true (by simp) fun hon htopic => ?_
    exact absurd (hoff' hon) htopic
  · rw [if_neg hoff]
    obtain ⟨hon, htopic⟩ : config.enabled = true ∧ config.ntfyTopic ≠ "" := by simpa [not_or] using hoff
    simp only [hon, htopic, ne_eq, not_false_eq_true, true_implies]
    rw [← passesFloor_iff backendId, ← shouldNotify_iff]
    rcases shouldNotify stack config event with _ | _ | _
    · simp
    · simp
    · rcases ntfyRequest stack config event backendId with _ | request <;> simp

end Notify

/-! ## The router -/

namespace Gateway

variable {Γ : Ctx}

@[simp] theorem sendError_uncaught (ws : SocketId) (code : GatewayErrorCode) (message : String) (s : Gateway) :
    (s.sendError ws code message).uncaught = s.uncaught := rfl

/-- No handler throws but that of a notification whose promise rejects. -/
theorem routeMessage_uncaught (peer : PeerSession) (m : GatewayMessage) (s : Gateway)
    (h : ∀ event b, m = .pushNotificationRequest event → peer.backendId = some b →
      notify Γ.stack Γ.config.notifications event (some b) ≠ .rejected) : (s.routeMessage Γ peer m).uncaught = s.uncaught := by
  cases m with
  | backendHeartbeat epoch =>
    change (s.handleBackendHeartbeat peer epoch).uncaught = _
    unfold handleBackendHeartbeat
    repeat' split
    all_goals rfl
  | requestRegistrySnapshot => rfl
  | backendServerMessage backendId target raw =>
    change (s.handleBackendServerMessage peer backendId target raw).uncaught = _
    unfold handleBackendServerMessage
    repeat' split
    all_goals rfl
  | pushNotificationRequest event =>
    change (s.handlePushNotificationRequest Γ peer event).uncaught = _
    unfold handlePushNotificationRequest
    split
    · rfl
    · rename_i b hb
      split
      · rfl
      · rfl
      · rename_i hrejected
        exact absurd hrejected (h event b rfl hb)
  | channelOpen target kind =>
    change (s.handleChannelOpen Γ peer target kind).uncaught = _
    unfold handleChannelOpen
    dsimp only
    repeat' split
    all_goals rfl
  | channelReject channelId =>
    change (s.handleChannelReject peer channelId).uncaught = _
    unfold handleChannelReject
    repeat' split
    all_goals simp
  | channelClose channelId =>
    change (s.handleChannelClose peer channelId).uncaught = _
    unfold handleChannelClose
    repeat' split
    all_goals simp
  | topicSubscribe backendId topic =>
    change (s.handleTopicSubscribe peer backendId topic).uncaught = _
    unfold handleTopicSubscribe
    dsimp only
    repeat' split
    all_goals rfl
  | topicUnsubscribe backendId topic => rfl
  | topicPublish topic payload retained =>
    change (s.handleTopicPublish peer topic payload retained).uncaught = _
    unfold handleTopicPublish
    dsimp only
    repeat' split
    all_goals rfl
  | ping ts => rfl
  | unknown type => rfl

/-- The message has the effect its handler gives it, or the peer is answered with an error; nothing is thrown. -/
def Answered (Γ : Ctx) (s : Gateway) (ws : SocketId) (peer : PeerSession) (message : JsonValue) (e : Event) : Prop :=
  (s.step Γ e).uncaught = none ∧ peer.ws = ws ∧
    ((∃ m, validateGatewayMessage message = none ∧ readGatewayMessage message = some m ∧
        s.quiet.handle Γ e = s.quiet.routeMessage Γ peer m) ∨
      ∃ code text, s.quiet.handle Γ e = s.quiet.sendError ws code text)

/-- What the listener of an authenticated connection makes of a message. -/
theorem handle_message {s : Gateway} {ws : SocketId} {p : String} {peer : PeerSession} {frame : Frame} {message : JsonValue}
    (buffered : Nat) (writable : Bool) (hreads : (s.net.sockets.get ws).any WsSocket.reads = true)
    (hs : s.sessionOf ws = some p) (hp : s.state.peers.get p = some peer) (hws : peer.ws = ws)
    (hparse : Γ.jsonParse frame.data = some message) :
    (∃ m, validateGatewayMessage message = none ∧ readGatewayMessage message = some m ∧
        s.handle Γ (.message ws frame buffered writable) = s.routeMessage Γ peer m) ∨
      validateGatewayMessage message ≠ none ∧
        ∃ code text, s.handle Γ (.message ws frame buffered writable) = s.sendError ws code text := by
  rcases hk : s.net.sockets.get ws with _ | k
  · rw [hk] at hreads
    cases hreads
  · rw [hk, Option.any_some] at hreads
    rw [sessionOf_eq hk] at hs
    rcases hl : k.listener with _ | conn | leg | ⟨channelId, ex⟩ <;> rw [hl] at hs
    · cases hs
    · have hn : conn.peerSessionId = some p := hs
      have hhandle : s.handle Γ (.message ws frame buffered writable) = s.controlMessage Γ ws conn frame.data := by
        change s.socketMessage Γ ws frame buffered writable = _
        unfold socketMessage
        simp only [hk, hreads, hl, if_true]
      rw [hhandle]
      unfold controlMessage
      rw [hparse, hn]
      dsimp only
      unfold handlePeerMessage
      rw [hp]
      dsimp only
      rcases hvalid : validateGatewayMessage message with _ | error
      · obtain ⟨m, hm⟩ := readGatewayMessage_of_valid hvalid
        rw [hm]
        exact Or.inl ⟨m, rfl, rfl, rfl⟩
      · refine Or.inr ⟨by simp, ?_⟩
        dsimp only
        by_cases htype : (message.member "type").all (JsonValue.convertsToString Γ.stack) = true
        · rw [if_pos htype, hws]
          exact ⟨_, _, rfl⟩
        · rw [if_neg htype]
          exact ⟨_, _, rfl⟩
    · cases hs
    · cases hs

end Gateway

/-! ## Every message -/

section Runs

open Gateway

variable {Γ : Ctx} {storage : Storage}

/-- A message that requests a notification is from a client, or of an event `notify` can read. -/
def NotificationsSafe (Γ : Ctx) (peer : PeerSession) (message : JsonValue) : Prop :=
  ∀ event b, validateGatewayMessage message = none → readGatewayMessage message = some (.pushNotificationRequest event) →
    peer.backendId = some b → NotifySafe Γ.stack Γ.config.notifications event

/-- After every run, a message of an authenticated peer has its effect or is answered with an error, without an exception
that nothing catches, exactly when it is no request to notify of an event `notify` cannot read. -/
theorem message_answered_iff (es : List Event) (hrun : ((gateway Γ storage).run es).uncaught = none) {ws : SocketId}
    {p : String} {peer : PeerSession} (hreads : (((gateway Γ storage).run es).net.sockets.get ws).any WsSocket.reads = true)
    (hs : ((gateway Γ storage).run es).sessionOf ws = some p)
    (hp : ((gateway Γ storage).run es).state.peers.get p = some peer) {frame : Frame} {message : JsonValue}
    (hparse : Γ.jsonParse frame.data = some message) (buffered : Nat) (writable : Bool) :
    ((gateway Γ storage).run es).Answered Γ ws peer message (.message ws frame buffered writable) ↔
      NotificationsSafe Γ peer message := by
  have hws : peer.ws = ws := (seated_run es ws p hs).2 peer hp
  generalize (gateway Γ storage).run es = s at hrun hreads hs hp
  have hcases := handle_message (Γ := Γ) (s := s.quiet) buffered writable hreads hs hp hws hparse
  unfold Answered
  rw [step_running hrun]
  rcases hcases with ⟨m, hvalid, hread, he⟩ | ⟨hinvalid, code, text, he⟩
  · by_cases hsafe : NotificationsSafe Γ peer message
    · refine iff_of_true ⟨?_, hws, Or.inl ⟨m, hvalid, hread, he⟩⟩ hsafe
      have huncaught := routeMessage_uncaught (Γ := Γ) peer m s.quiet fun event b hm hb =>
        (notify_safe_iff _).mpr (hsafe event b hvalid (hm ▸ hread) hb)
      rw [he]
      exact huncaught.trans hrun
    · refine iff_of_false ?_ hsafe
      rintro ⟨huncaught, -, -⟩
      refine hsafe fun event b _ hread' hb => (notify_safe_iff (some b)).mp fun hrejected => ?_
      obtain rfl := Option.some.inj (hread.symm.trans hread')
      rw [he] at huncaught
      have hthrows : (s.quiet.routeMessage Γ peer (.pushNotificationRequest event)).uncaught = some .unhandledRejection := by
        change (s.quiet.handlePushNotificationRequest Γ peer event).uncaught = _
        unfold handlePushNotificationRequest
        rw [hb]
        dsimp only
        rw [hrejected]
        rfl
      rw [hthrows] at huncaught
      cases huncaught
  · refine iff_of_true ⟨?_, hws, Or.inr ⟨code, text, he⟩⟩ fun event b hvalid => absurd hvalid hinvalid
    rw [he]
    exact hrun

/-- A message of a backend. -/
def pingMessage : JsonValue := .obj [("type", .str "ping")]

/-- A request to notify of the event `null`. -/
def nullNotification : JsonValue := .obj [("type", .str "push_notification_request"), ("event", .null)]

/-- A gateway that delivers notifications. -/
def notifying : Ctx :=
  { Ctx.sample [sampleHello "zgb_old" true, pingMessage, nullNotification] with
    config := { notifications := { enabled := true, ntfyTopic := "zclaudia" } } }

/-- A backend comes online. -/
def backendOnline : List Event := [.connect, .text 0 (sampleHello "zgb_old" true)]

/-- A backend's ping is answered. -/
theorem ping_answered : ∃ peer, ((gateway notifying sampleStorage).run backendOnline).state.peers.get "ss" = some peer ∧
    ((gateway notifying sampleStorage).run backendOnline).Answered notifying 0 peer pingMessage (.text 0 pingMessage) := by
  obtain ⟨peer, hp⟩ : ∃ peer, ((gateway notifying sampleStorage).run backendOnline).state.peers.get "ss" = some peer :=
    Option.isSome_iff_exists.mp (by decide +kernel)
  refine ⟨peer, hp, (message_answered_iff backendOnline (by decide +kernel) (by decide +kernel) (by decide +kernel) hp
    rfl 0 true).mpr ?_⟩
  intro event b _ hread
  cases hread

/-- A request to notify of `null` ends the process. -/
theorem null_notification_not_answered :
    ¬ ∀ (es : List Event) (ws : SocketId) (p : String) (peer : PeerSession) (frame : Frame) (message : JsonValue)
      (buffered : Nat) (writable : Bool), ((gateway notifying sampleStorage).run es).uncaught = none →
        (((gateway notifying sampleStorage).run es).net.sockets.get ws).any WsSocket.reads = true →
        ((gateway notifying sampleStorage).run es).sessionOf ws = some p →
        ((gateway notifying sampleStorage).run es).state.peers.get p = some peer →
        notifying.jsonParse frame.data = some message →
        ((gateway notifying sampleStorage).run es).Answered notifying ws peer message (.message ws frame buffered writable) := by
  intro h
  obtain ⟨peer, hp⟩ : ∃ peer, ((gateway notifying sampleStorage).run backendOnline).state.peers.get "ss" = some peer :=
    Option.isSome_iff_exists.mp (by decide +kernel)
  have huncaught := (h backendOnline 0 "ss" peer (textFrame nullNotification) nullNotification 0 true (by decide +kernel)
    (by decide +kernel) (by decide +kernel) hp rfl).1
  revert huncaught
  decide +kernel

end Runs

end ZclaudiaGateway
