import ZclaudiaGateway.Protocol

/-!
# Push notifications

`src/push-notification.ts`: `notify` on an event that is any JSON value. The function is asynchronous and only its `fetch` is
inside a `try`, so an exception before that leaves a rejected promise. A `none` of the functions below is such an exception:
a `TypeError` of the language, or the `RangeError` of a call stack that is used up.
-/

namespace ZclaudiaGateway

inductive Severity where
  | info
  | success
  | warning
  | error
deriving DecidableEq

/-- `SEVERITY_ORDER`. -/
def Severity.order : Severity → Nat
  | info => 0
  | success => 1
  | warning => 2
  | error => 3

/-- `SEVERITY_PRIORITY`. -/
def Severity.priority : Severity → String
  | info => "default"
  | success => "default"
  | warning => "high"
  | error => "urgent"

def Severity.ofName : String → Option Severity
  | "info" => some info
  | "success" => some success
  | "warning" => some warning
  | "error" => some error
  | _ => none

inductive NotificationAuthMode where
  | none
  | bearer
  | basic
deriving DecidableEq

/-- The service's configuration, after `normalizeConfig`. -/
structure NotificationConfig where
  enabled : Bool := false
  ntfyUrl : String := "https://ntfy.sh"
  ntfyTopic : String := ""
  ntfyAuthMode : NotificationAuthMode := .none
  ntfyPublishToken : String := ""
  ntfyUsername : String := ""
  ntfyPassword : String := ""
  eventAllowlist : List String := []
  eventDenylist : List String := []
  minSeverity : Option Severity := none

/-- The `Authorization` header of a publish. -/
inductive PublishAuth where
  | bearer (token : String)
  | basic (username password : String)
deriving DecidableEq

/-- The `POST` a delivered event becomes. `none` of `priority` is a severity that is not in the table. -/
structure NtfyRequest where
  url : String
  title : Option JsonValue
  priority : Option String
  tags : Option (List JsonValue)
  click : Option JsonValue
  auth : Option PublishAuth
  body : Option JsonValue

inductive NotifyOutcome where
  | skipped
  | sent (request : NtfyRequest)
  /-- The promise rejects: an exception before the `try`. -/
  | rejected

/-- Entry matches when equal to the event name or a dot-prefix of it. -/
def matchesEntry (eventName entry : String) : Bool :=
  decide (eventName = entry) || eventName.startsWith (entry ++ ".")

/-- `list.some((entry) => matchesEntry(event.name, entry))`: a name that is not a string has no `startsWith`. -/
def someEntryMatches (event : JsonValue) (list : List String) : Option Bool :=
  if list.isEmpty then some false
  else ((event.member "name").bind JsonValue.asString).map (fun name => list.any (matchesEntry name))

/-- The table row of `event.severity ?? 'info'`; the inner `none` is a key that is in neither table. -/
def eventSeverity (stack : JsonValue.CallStack) (event : JsonValue) : Option (Option Severity) :=
  match event with
  | .null => none
  | _ =>
    match event.member "severity" with
    | none => some (some .info)
    | some .null => some (some .info)
    | some severity => if severity.convertsToString stack then some (severity.nameText.bind Severity.ofName) else none

/-- `minSeverity` floors. -/
def passesFloor (stack : JsonValue.CallStack) (config : NotificationConfig) (event : JsonValue) : Option Bool :=
  match config.minSeverity with
  | none => some true
  | some minSeverity => (eventSeverity stack event).map (fun severity => !(severity.any (fun s => s.order < minSeverity.order)))

/-- Denylist wins; empty allowlist allows everything; minSeverity floors. -/
def shouldNotify (stack : JsonValue.CallStack) (config : NotificationConfig) (event : JsonValue) : Option Bool :=
  match someEntryMatches event config.eventDenylist with
  | none => none
  | some true => some false
  | some false =>
    match if config.eventAllowlist.isEmpty then some true else someEntryMatches event config.eventAllowlist with
    | none => none
    | some false => some false
    | some true => passesFloor stack config event

/-- `event.tags && event.tags.length > 0`, then `event.tags.join(',')`: the tags joined. Only an array can be joined. -/
def joinedTags (stack : JsonValue.CallStack) (event : JsonValue) : Option (Option (List JsonValue)) :=
  match event.member "tags" with
  | some (.arr []) => some none
  | some (.arr elems) => if JsonValue.joinsToString stack elems then some (some elems) else none
  | some (.str s) => if s = "" then some none else none
  | some (.obj members) =>
    match (JsonValue.obj members).member "length" with
    | none => some none
    | some length => if length.convertsToString stack && !length.positive then some none else none
  | _ => some none

def publishAuth (config : NotificationConfig) : Option PublishAuth :=
  match config.ntfyAuthMode with
  | .bearer => if config.ntfyPublishToken = "" then none else some (.bearer config.ntfyPublishToken)
  | .basic =>
    if config.ntfyUsername = "" ∨ config.ntfyPassword = "" then none
    else some (.basic config.ntfyUsername config.ntfyPassword)
  | .none => none

/-- Backends publish to a topic of their own, derived from the base topic and their backendId. -/
def topicUrl (config : NotificationConfig) (backendId : Option String) : String :=
  let base := if config.ntfyUrl.endsWith "/" then (config.ntfyUrl.dropEnd 1).toString else config.ntfyUrl
  let topic :=
    match backendId with
    | some backendId => config.ntfyTopic ++ "-" ++ backendId
    | none => config.ntfyTopic
  base ++ "/" ++ topic

/-- The request of an event that is to be delivered. -/
def ntfyRequest (stack : JsonValue.CallStack) (config : NotificationConfig) (event : JsonValue) (backendId : Option String) :
    Option NtfyRequest :=
  match eventSeverity stack event, joinedTags stack event with
  | some severity, some tags =>
    some
      { url := topicUrl config backendId
        title := event.member "title"
        priority := severity.map Severity.priority
        tags
        click := (event.member "clickUrl").filter JsonValue.truthy
        auth := publishAuth config
        body := event.member "body" }
  | _, _ => none

def notify (stack : JsonValue.CallStack) (config : NotificationConfig) (event : JsonValue) (backendId : Option String) :
    NotifyOutcome :=
  if !config.enabled || config.ntfyTopic = "" then .skipped
  else
    match shouldNotify stack config event with
    | none => .rejected
    | some false => .skipped
    | some true =>
      match ntfyRequest stack config event backendId with
      | none => .rejected
      | some request => .sent request

end ZclaudiaGateway
