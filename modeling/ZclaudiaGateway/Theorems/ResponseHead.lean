import ZclaudiaGateway.Theorems.Receive

/-!
# One head for each response

A handler that finishes on an open channel has sent one response head, before every body frame, and the channel is closed,
exactly if its first call of `start` gets its frame out, or it makes none and ends in a way that `_run_handler` answers. `start`
marks the response as started before it encodes the head, so a head that cannot be encoded is never replaced by another.
-/

namespace ZclaudiaGateway

namespace Python

/-- A frame of the body. -/
def Sent.isBody : Sent → Prop
  | response _ _ => False
  | bytes _ => True

/-- The response that a handler leaves on an open channel when it finishes with this outcome. -/
structure AnsweredOnce (L : Library) (es : List HttpEvent) (outcome : Option PyException) : Prop where
  head : ∃ status headers body, ((httpService L).run (es ++ [.finished outcome])).sent = .response status headers :: body ∧
    ∀ f ∈ body, f.isBody
  closed : ((httpService L).run (es ++ [.finished outcome])).closed
  failed : outcome ≠ none → (∀ f ∈ ((httpService L).run es).sent, f.isBody) →
    ∃ headers, .response (.int 500) headers ∈ ((httpService L).run (es ++ [.finished outcome])).sent

/-- A call of `start`, and whether the iterator goes on at that time. -/
structure StartCall where
  status : PyValue
  headers : PyValue
  cancelled : Bool
  iterating : Bool

/-- The frame of the head can be encoded and gets out. -/
def StartCall.GetsOut (c : StartCall) : Prop :=
  (HttpExchange.headFrame c.status c.headers).serialises ∧ c.cancelled = false ∧ c.iterating = true

instance (c : StartCall) : Decidable c.GetsOut := inferInstanceAs (Decidable (_ ∧ _ ∧ _))

/-- The calls of `start` in a run, once there is a response to start. -/
def startCalls (L : Library) (es : List HttpEvent) : List StartCall :=
  (httpService L).history
    (fun s e => match e with
      | .call (.start status headers cancelled) =>
        if s.exchange.isSome then [⟨status, headers, cancelled, s.iterating⟩] else []
      | _ => [])
    es

/-- The first call of `start` gets its frame out; without one, the handler ends in a way that gets a head, while the iterator
goes on. -/
def GetsHead (L : Library) (es : List HttpEvent) (outcome : Option PyException) : Prop :=
  match (startCalls L es).head? with
  | some c => c.GetsOut
  | none => (outcome = none ∨ outcome = some .exception) ∧ ((httpService L).run es).iterating

/-! ## What was sent -/

/-- The head and the frames of a body. -/
def HeadFirst (sent : List Sent) : Prop :=
  ∃ status headers body, sent = .response status headers :: body ∧ ∀ f ∈ body, f.isBody

theorem HeadFirst.append {sent more : List Sent} (h : HeadFirst sent) (hmore : ∀ f ∈ more, f.isBody) :
    HeadFirst (sent ++ more) := by
  obtain ⟨status, headers, body, rfl, hbody⟩ := h
  exact ⟨status, headers, body ++ more, rfl, fun f hf => (List.mem_append.mp hf).elim (hbody f) (hmore f)⟩

theorem HeadFirst.not_body {sent : List Sent} (h : HeadFirst sent) : ¬ ∀ f ∈ sent, f.isBody := by
  obtain ⟨status, headers, body, rfl, -⟩ := h
  exact fun hbody => hbody _ List.mem_cons_self

/-- What an open channel carries, by the calls of `start` so far. -/
def Carries (calls : List StartCall) (started : Bool) (sent : List Sent) : Prop :=
  match calls.head? with
  | none => started = false ∧ sent = []
  | some c => started = true ∧ if c.GetsOut then HeadFirst sent else ∀ f ∈ sent, f.isBody

theorem Carries.nil : Carries [] false [] := ⟨rfl, rfl⟩

/-- Frames of the body change nothing. -/
theorem Carries.append {calls : List StartCall} {sent more : List Sent} (h : Carries calls true sent)
    (hmore : ∀ f ∈ more, f.isBody) : Carries calls true (sent ++ more) := by
  rcases calls with _ | ⟨c, calls⟩
  · nomatch h.1
  · refine ⟨rfl, ?_⟩
    have hsent := h.2
    split at hsent
    · rw [if_pos ‹_›]
      exact hsent.append hmore
    · rw [if_neg ‹_›]
      exact fun f hf => (List.mem_append.mp hf).elim (hsent f) (hmore f)

/-- Later calls of `start` change nothing. -/
theorem Carries.again {calls : List StartCall} {sent : List Sent} (h : Carries calls true sent) (more : List StartCall) :
    Carries (calls ++ more) true sent := by
  rcases calls with _ | ⟨c, calls⟩
  · nomatch h.1
  · exact h

namespace HttpExchange

/-- A frame that is sent on an open channel, unless the iterator has ended or the call is cancelled. -/
theorem send_open (ex : HttpExchange) (cancelled : Bool) (data : Sent) :
    ex.send false cancelled data =
      if ex.disconnected then (ex, [], some .channelClosedError)
      else if cancelled then (ex, [], some .baseException)
      else (ex, [data], none) := rfl

theorem write_open {ex : HttpExchange} (cancelled : Bool) (chunk : Chunk) :
    (ex.write false cancelled chunk).1 = ex ∧ (∀ f ∈ (ex.write false cancelled chunk).2.1, f.isBody) ∧
      (ex.started = false → (ex.write false cancelled chunk).2.1 = []) := by
  unfold write
  rw [send_open]
  split
  · exact ⟨rfl, fun f hf => (nomatch hf), fun _ => rfl⟩
  · rename_i hstarted
    refine ⟨?_, ?_, fun h => absurd h (by simpa using hstarted)⟩
    · split <;> [rfl; split <;> [rfl; split <;> rfl]]
    · split
      · exact fun f hf => nomatch hf
      · split
        · exact fun f hf => nomatch hf
        · split
          · exact fun f hf => nomatch hf
          · intro f hf
            rw [List.mem_singleton.mp hf]
            trivial

/-- The second call of `start` does nothing. -/
theorem start_again {ex : HttpExchange} (h : ex.started = true) (closed cancelled : Bool) (status headers : PyValue) :
    ex.start closed cancelled status headers = (ex, [], some .exception) := by
  unfold start
  rw [if_pos h]

/-- The first one sends the head if it can. -/
theorem start_open {ex : HttpExchange} (h : ex.started = false) (cancelled : Bool) (status headers : PyValue) :
    (ex.start false cancelled status headers).1 = { ex with started := true } ∧
      (ex.start false cancelled status headers).2.1 =
        if StartCall.GetsOut ⟨status, headers, cancelled, !ex.disconnected⟩ then
          [.response status (if headers.truthy then headers else .dict [])]
        else [] := by
  unfold start StartCall.GetsOut
  rw [if_neg (by simp [h])]
  split
  · rename_i hs
    rw [send_open]
    dsimp only
    cases ex.disconnected <;> cases cancelled <;> simp [hs]
  · rename_i hs
    exact ⟨rfl, by simp [hs]⟩

end HttpExchange

/-- What is true of an open channel after the calls of `start` so far. -/
structure Carried (calls : List StartCall) (s : HttpServing) : Prop where
  handling : s.handling → s.exchange.isSome
  unbegun : s.exchange = none → calls = [] ∧ s.sent = []
  disconnected : ∀ ex ∈ s.exchange, ex.disconnected = !s.iterating
  carries : ∀ ex ∈ s.exchange, Carries calls ex.started s.sent

/-- The end of `_run_handler`: the channel is closed, and a response that has not started gets a head when the handler returned
or raised an ordinary exception. -/
theorem HttpServing.finish_eq {s : HttpServing} {ex : HttpExchange} (hex : s.exchange = some ex) (outcome : Option PyException) :
    (s.finish outcome).closed = true ∧ (s.finish outcome).sent = s.sent ++
      if (outcome = none ∨ outcome = some .exception) ∧ ex.started = false then (ex.start s.closed false (.int 500) .none).2.1
      else [] := by
  unfold finish
  rw [hex]
  dsimp only
  rcases outcome with _ | _ | _ | _ <;> cases hstarted : ex.started <;>
    simp [answered]

namespace Carried

variable {L : Library} {calls : List StartCall} {s : HttpServing}

theorem channel (h : Carried calls s) (f : ChannelEvent) (hopen : (s.channel L f).closed = false) :
    Carried calls (s.channel L f) := by
  have habort : s.iterating = true → Carried calls s.abort := by
    intro _
    refine ⟨fun hh => ?_, fun hnone => h.unbegun (Option.map_eq_none_iff.mp hnone), fun ex' hmem => ?_, fun ex' hmem => ?_⟩
    · change (s.exchange.map HttpExchange.abort).isSome = true
      rw [Option.isSome_map]
      exact h.handling hh
    · obtain ⟨ex, hex, rfl⟩ := Option.map_eq_some_iff.mp hmem
      rfl
    · obtain ⟨ex, hex, rfl⟩ := Option.map_eq_some_iff.mp hmem
      exact h.carries ex hex
  cases f with
  | message m =>
    change Carried calls (if s.iterating then s.receive L m else s)
    split
    · rename_i hiterating
      unfold HttpServing.receive
      have hput (f : HttpExchange → HttpExchange) (hd : ∀ ex, (f ex).disconnected = ex.disconnected)
          (hs : ∀ ex, (f ex).started = ex.started) (ex : HttpExchange) (hex : s.exchange = some ex) :
          Carried calls { s with exchange := some (f ex) } := by
        refine ⟨fun _ => rfl, fun hnone => (nomatch hnone), fun ex' hmem => ?_, fun ex' hmem => ?_⟩
        · cases hmem
          exact (hd ex).trans (h.disconnected ex hex)
        · cases hmem
          rw [hs ex]
          exact h.carries ex hex
      cases hframe : frameOf L m with
      | chunk data =>
        cases hex : s.exchange with
        | none => exact h
        | some ex => exact hput (·.feed data) (fun _ => rfl) (fun _ => rfl) ex hex
      | request request =>
        cases hex : s.exchange with
        | none =>
          obtain ⟨rfl, hsent⟩ := h.unbegun hex
          refine ⟨fun _ => rfl, fun hnone => (nomatch hnone), fun ex' hmem => ?_, fun ex' hmem => ?_⟩
          · cases hmem
            change false = !s.iterating
            rw [hiterating]
            rfl
          · cases hmem
            exact ⟨rfl, hsent⟩
        | some ex => exact h
      | requestEnd =>
        cases hex : s.exchange with
        | none => exact h
        | some ex => exact hput HttpExchange.endBody (fun _ => rfl) (fun _ => rfl) ex hex
      | ignored => exact h
      | error => exact habort hiterating
    · exact h
  | closed => nomatch hopen
  | ended =>
    change (if s.iterating then { s.abort with closed := true } else s).closed = false at hopen
    change Carried calls (if s.iterating then { s.abort with closed := true } else s)
    split at hopen
    · nomatch hopen
    · rw [if_neg ‹_›]
      exact h

theorem reading (h : Carried calls s) (e : HttpExchange.Reading) : Carried calls (s.step L (.reading e)) := by
  have hsame (ex : HttpExchange) : (ex.readChunk e).2.disconnected = ex.disconnected ∧
      (ex.readChunk e).2.started = ex.started := by
    cases e with
    | read r =>
      by_cases hr : ex.body.Waits r
      · rw [HttpExchange.readChunk_busy hr]
        exact ⟨rfl, rfl⟩
      · rw [HttpExchange.readChunk_idle hr]
        exact ⟨rfl, rfl⟩
    | resume r | cancel r => exact ⟨rfl, rfl⟩
  refine ⟨fun hh => ?_, fun hnone => h.unbegun (Option.map_eq_none_iff.mp hnone), fun ex' hmem => ?_, fun ex' hmem => ?_⟩
  · change (s.exchange.map _).isSome = true
    rw [Option.isSome_map]
    exact h.handling hh
  · obtain ⟨ex, hex, rfl⟩ := Option.map_eq_some_iff.mp hmem
    exact (hsame ex).1.trans (h.disconnected ex hex)
  · obtain ⟨ex, hex, rfl⟩ := Option.map_eq_some_iff.mp hmem
    rw [(hsame ex).2]
    exact h.carries ex hex

theorem write (h : Carried calls s) (hopen : s.closed = false) (chunk : Chunk) (cancelled : Bool) :
    Carried calls (s.call (.write chunk cancelled)) := by
  unfold HttpServing.call
  cases hex : s.exchange with
  | none => exact h
  | some ex =>
    obtain ⟨hsame, hbody, hnone⟩ := ex.write_open cancelled chunk
    dsimp only
    rw [hopen]
    refine ⟨fun _ => rfl, fun hnone => (nomatch hnone), fun ex' hmem => ?_, fun ex' hmem => ?_⟩
    · cases hmem
      rw [hsame]
      exact h.disconnected ex hex
    · cases hmem
      rw [hsame]
      change Carries calls ex.started (s.sent ++ _)
      have hcarries := h.carries ex hex
      cases hstarted : ex.started with
      | false =>
        rw [hnone hstarted, List.append_nil, ← hstarted]
        exact hcarries
      | true =>
        rw [hstarted] at hcarries
        exact hcarries.append hbody

theorem start (h : Carried calls s) (hopen : s.closed = false) (status headers : PyValue) (cancelled : Bool) :
    Carried (calls ++ if s.exchange.isSome then [⟨status, headers, cancelled, s.iterating⟩] else [])
      (s.call (.start status headers cancelled)) := by
  unfold HttpServing.call
  cases hex : s.exchange with
  | none =>
    rw [if_neg (by simp), List.append_nil]
    exact h
  | some ex =>
    rw [if_pos (by simp)]
    dsimp only
    rw [hopen]
    have hdisconnected := h.disconnected ex hex
    have hcarries := h.carries ex hex
    cases hstarted : ex.started with
    | true =>
      rw [HttpExchange.start_again hstarted]
      rw [hstarted] at hcarries
      refine ⟨fun _ => rfl, fun hnone => (nomatch hnone), fun ex' hmem => ?_, fun ex' hmem => ?_⟩
      · cases hmem
        exact hdisconnected
      · cases hmem
        rw [hstarted]
        change Carries _ true (s.sent ++ [])
        rw [List.append_nil]
        exact hcarries.again _
    | false =>
      obtain ⟨hnext, hsent⟩ := HttpExchange.start_open hstarted cancelled status headers
      rw [hstarted] at hcarries
      obtain ⟨rfl, hbefore⟩ : calls = [] ∧ s.sent = [] := by
        rcases calls with _ | ⟨c, calls⟩
        · exact ⟨rfl, hcarries.2⟩
        · nomatch hcarries.1
      rw [hdisconnected, Bool.not_not] at hsent
      refine ⟨fun _ => rfl, fun hnone => (nomatch hnone), fun ex' hmem => ?_, fun ex' hmem => ?_⟩
      · cases hmem
        rw [hnext]
        exact hdisconnected
      · cases hmem
        rw [hnext]
        refine ⟨rfl, ?_⟩
        change if _ then HeadFirst (s.sent ++ _) else ∀ f ∈ s.sent ++ _, f.isBody
        rw [hsent, hbefore, List.nil_append]
        split
        · exact ⟨_, _, [], rfl, fun f hf => nomatch hf⟩
        · exact fun f hf => nomatch hf

end Carried

theorem carried_run {L : Library} {es : List HttpEvent} (hopen : ((httpService L).run es).closed = false) :
    Carried (startCalls L es) ((httpService L).run es) := by
  induction es using List.reverseRecOn with
  | nil => exact ⟨fun h => (nomatch h), fun _ => ⟨rfl, rfl⟩, fun _ hmem => (nomatch hmem), fun _ hmem => (nomatch hmem)⟩
  | append_singleton es e ih =>
    rw [EventMachine.run_snoc] at hopen
    have hbefore : ((httpService L).run es).closed = false := by
      by_contra hc
      have hstep := closed_step L (Bool.not_eq_false _ ▸ hc : ((httpService L).run es).closed = true) e
      exact Bool.false_ne_true (hopen.symm.trans hstep)
    have h := ih hbefore
    rw [startCalls, EventMachine.history_snoc, EventMachine.run_snoc]
    have hnone : startCalls L es ++ [] = startCalls L es := List.append_nil _
    cases e with
    | channel f => exact hnone ▸ h.channel f hopen
    | reading e => exact hnone ▸ Carried.reading (L := L) h e
    | call c =>
      cases c with
      | start status headers cancelled => exact h.start hbefore status headers cancelled
      | write chunk cancelled => exact hnone ▸ h.write hbefore chunk cancelled
    | finished outcome =>
      change (if ((httpService L).run es).handling then ((httpService L).run es).finish outcome
        else (httpService L).run es).closed = false at hopen
      change Carried (startCalls L es ++ []) (if ((httpService L).run es).handling then
        ((httpService L).run es).finish outcome else (httpService L).run es)
      split at hopen
      · rename_i hhandling
        obtain ⟨ex, hex⟩ := Option.isSome_iff_exists.mp (h.handling hhandling)
        rw [(HttpServing.finish_eq hex outcome).1] at hopen
        nomatch hopen
      · rw [if_neg ‹_›, List.append_nil]
        exact h

/-! ## The response of a handler -/

/-- The head of a response without another. -/
theorem headFrame_500 : (HttpExchange.headFrame (.int 500) .none).serialises = true := rfl

theorem answered_once_iff {L : Library} {es : List HttpEvent} (outcome : Option PyException)
    (hhandling : ((httpService L).run es).handling) (hopen : ((httpService L).run es).closed = false) :
    AnsweredOnce L es outcome ↔ GetsHead L es outcome := by
  have h := carried_run hopen
  obtain ⟨ex, hex⟩ := Option.isSome_iff_exists.mp (h.handling hhandling)
  have hcarries := h.carries ex hex
  have hdisconnected := h.disconnected ex hex
  have hstep : (httpService L).run (es ++ [.finished outcome]) = ((httpService L).run es).finish outcome := by
    rw [EventMachine.run_snoc]
    exact if_pos hhandling
  obtain ⟨hclosed, hsent⟩ := HttpServing.finish_eq hex outcome
  rw [← hstep] at hclosed hsent
  rw [hopen] at hsent
  unfold Carries at hcarries
  unfold GetsHead
  rcases hcalls : startCalls L es with _ | ⟨c, calls⟩
  · rw [hcalls] at hcarries
    obtain ⟨hstarted, hnone⟩ := hcarries
    have hstart := (HttpExchange.start_open hstarted false (.int 500) .none).2
    rw [hdisconnected, Bool.not_not] at hstart
    rw [hnone, List.nil_append, hstart] at hsent
    have hgets : StartCall.GetsOut ⟨.int 500, .none, false, ((httpService L).run es).iterating⟩ ↔
        ((httpService L).run es).iterating = true := by
      simp [StartCall.GetsOut, headFrame_500]
    simp only [List.head?_nil]
    constructor
    · rintro ⟨⟨status, headers, body, he, -⟩, -, -⟩
      rw [hsent] at he
      split at he
      · rename_i houtcome
        split at he
        · exact ⟨houtcome.1, hgets.mp ‹_›⟩
        · nomatch he
      · nomatch he
    · rintro ⟨houtcome, hiterating⟩
      rw [if_pos ⟨houtcome, hstarted⟩, if_pos (hgets.mpr hiterating)] at hsent
      refine ⟨⟨.int 500, _, [], hsent, fun f hf => (nomatch hf)⟩, hclosed, fun _ _ => ⟨.dict [], ?_⟩⟩
      rw [hsent]
      exact List.mem_singleton.mpr rfl
  · rw [hcalls] at hcarries
    obtain ⟨hstarted, hgets⟩ := hcarries
    rw [if_neg (by simp [hstarted]), List.append_nil] at hsent
    simp only [List.head?_cons]
    constructor
    · rintro ⟨hhead, -, -⟩
      by_contra hc
      rw [if_neg hc, ← hsent] at hgets
      exact HeadFirst.not_body hhead hgets
    · intro hc
      rw [if_pos hc] at hgets
      refine ⟨?_, hclosed, fun _ hbody => absurd hbody hgets.not_body⟩
      rw [hsent]
      exact hgets

/-! ## Buffered handlers -/

/-- `serve` has an answer to what its handler comes to. -/
def HandlerResult.Answerable : HandlerResult → Prop
  | .response status headers _ => (HttpExchange.headFrame status headers).serialises
  | result => result.failed

/-- Without a call of the handler there is none of `start`. -/
theorem startCalls_of_waiting {L : Library} {es : List HttpEvent} (h : handlerCalls es = []) : startCalls L es = [] := by
  induction es using List.reverseRecOn with
  | nil => rfl
  | append_singleton es e ih =>
    rw [handlerCalls, List.filterMap_append, List.append_eq_nil_iff] at h
    rw [startCalls, EventMachine.history_snoc]
    change startCalls L es ++ _ = []
    rw [ih h.1, List.nil_append]
    cases e with
    | call c => nomatch h.2
    | channel | reading | finished => rfl

/-- The first call of `start` stays the first. -/
theorem startCalls_first {L : Library} {es : List HttpEvent} {status headers : PyValue} {cancelled : Bool}
    (hcalls : startCalls L es = []) (hex : ((httpService L).run es).exchange.isSome) (es' : List HttpEvent) :
    (startCalls L (es ++ .call (.start status headers cancelled) :: es')).head? =
      some ⟨status, headers, cancelled, ((httpService L).run es).iterating⟩ := by
  induction es' using List.reverseRecOn with
  | nil =>
    rw [startCalls, EventMachine.history_snoc]
    change (startCalls L es ++ if ((httpService L).run es).exchange.isSome then _ else _).head? = _
    rw [hcalls, if_pos hex]
    rfl
  | append_singleton es' e ih =>
    rw [← List.cons_append, ← List.append_assoc, startCalls, EventMachine.history_snoc]
    change (startCalls L _ ++ _).head? = _
    rw [List.head?_append, ih]
    rfl

/-- Once the iterator has ended it does not go on. -/
theorem iterating_step (L : Library) {s : HttpServing} (e : HttpEvent) (h : (s.step L e).iterating) : s.iterating := by
  cases e with
  | channel f =>
    cases f with
    | message m =>
      by_contra hnot
      change (if s.iterating then s.receive L m else s).iterating = true at h
      rw [if_neg hnot] at h
      exact hnot h
    | closed => exact h
    | ended =>
      by_contra hnot
      change (if s.iterating then { s.abort with closed := true } else s).iterating = true at h
      rw [if_neg hnot] at h
      exact hnot h
  | reading e => exact h
  | call c =>
    change (s.call c).iterating = true at h
    unfold HttpServing.call at h
    split at h
    · exact h
    · cases c <;> exact h
  | finished outcome =>
    change (if s.handling then s.finish outcome else s).iterating = true at h
    split at h
    · unfold HttpServing.finish at h
      split at h
      · exact h
      · rcases outcome with _ | _ | _ | _ <;> exact h
    · exact h

theorem iterating_earlier (L : Library) {es es' : List HttpEvent} (hp : es <+: es')
    (h : ((httpService L).run es').iterating) : ((httpService L).run es).iterating := by
  obtain ⟨more, rfl⟩ := hp
  induction more using List.reverseRecOn with
  | nil => rwa [List.append_nil] at h
  | append_singleton more e ih =>
    rw [← List.append_assoc, EventMachine.run_snoc] at h
    exact ih (iterating_step L e h)

theorem closed_earlier (L : Library) {es es' : List HttpEvent} (hp : es <+: es')
    (h : ((httpService L).run es').closed = false) : ((httpService L).run es).closed = false := by
  obtain ⟨more, rfl⟩ := hp
  induction more using List.reverseRecOn with
  | nil => rwa [List.append_nil] at h
  | append_singleton more e ih =>
    rw [← List.append_assoc, EventMachine.run_snoc] at h
    refine ih (Bool.eq_false_iff.mpr fun hc => ?_)
    exact Bool.false_ne_true (h.symm.trans (closed_step L hc e))

/-- What a first call of `start` comes to while the iterator goes on. -/
theorem getsHead_first {L : Library} {es es' : List HttpEvent} {status headers : PyValue} {outcome : Option PyException}
    (hwaiting : Waiting L es) (hopen : ((httpService L).run (es ++ .call (.start status headers false) :: es')).closed = false)
    (hiterating : ((httpService L).run (es ++ .call (.start status headers false) :: es')).iterating) :
    GetsHead L (es ++ .call (.start status headers false) :: es') outcome ↔
      (HttpExchange.headFrame status headers).serialises := by
  have hp : es <+: es ++ .call (.start status headers false) :: es' := List.prefix_append _ _
  have hcarried := carried_run (closed_earlier L hp hopen)
  unfold GetsHead
  rw [startCalls_first (startCalls_of_waiting hwaiting.2) (hcarried.handling hwaiting.1)]
  simp [StartCall.GetsOut, iterating_earlier L hp hiterating]

/-- The headers are falsy or they are sent as they are. -/
theorem headFrame_head (status headers : PyValue) :
    HttpExchange.headFrame status (if headers.truthy then headers else .dict []) = HttpExchange.headFrame status headers := by
  unfold HttpExchange.headFrame
  by_cases h : headers.truthy = true
  · rw [if_pos h, if_pos h]
  · rw [if_neg h]
    rfl

theorem serves_iff {L : Library} {result : HandlerResult} {es : List HttpEvent} {outcome : Option PyException}
    (h : Serves L result es outcome) (hopen : ((httpService L).run es).closed = false)
    (hiterating : ((httpService L).run es).iterating) : GetsHead L es outcome ↔ result.Answerable := by
  cases h with
  | gone _ _ pre hwaiting hp hgone =>
    obtain ⟨ex, hex, hd⟩ := hgone
    have hcarried := carried_run (closed_earlier L hp hopen)
    rw [hcarried.disconnected ex hex, iterating_earlier L hp hiterating] at hd
    nomatch hd
  | interrupted _ hwaiting =>
    unfold GetsHead
    rw [startCalls_of_waiting hwaiting.2]
    simp [HandlerResult.Answerable, HandlerResult.failed]
  | failed _ es es' hfailed hwaiting =>
    rw [getsHead_first hwaiting hopen hiterating]
    cases result with
    | response => nomatch hfailed
    | other => exact iff_of_true headFrame_500 rfl
    | raised e => exact iff_of_true headFrame_500 hfailed
  | refused status headers body es es' e hwaiting =>
    refine (getsHead_first hwaiting hopen hiterating).trans ?_
    rw [headFrame_head]
    rfl
  | empty status headers body es es' hwaiting =>
    refine (getsHead_first hwaiting hopen hiterating).trans ?_
    rw [headFrame_head]
    rfl
  | answered status headers chunk es es' es'' hwaiting =>
    refine (getsHead_first hwaiting hopen hiterating).trans ?_
    rw [headFrame_head]
    rfl

/-- A handler that finishes on an open channel leaves one head, first and with the channel closed, exactly if its first call of
`start` gets the head out or its end gets one; a buffered handler does so, while the iterator goes on, exactly if its result
has an answer. -/
theorem one_response_head_iff (L : Library) :
    (∀ es outcome, ((httpService L).run es).handling → ((httpService L).run es).closed = false →
      (AnsweredOnce L es outcome ↔ GetsHead L es outcome)) ∧
    ∀ result es outcome, Serves L result es outcome → ((httpService L).run es).handling →
      ((httpService L).run es).closed = false → ((httpService L).run es).iterating →
      (AnsweredOnce L es outcome ↔ result.Answerable) := by
  refine ⟨fun es outcome hhandling hopen => answered_once_iff outcome hhandling hopen,
    fun result es outcome h hhandling hopen hiterating => ?_⟩
  exact (answered_once_iff outcome hhandling hopen).trans (serves_iff h hopen hiterating)

/-- The head of a request. -/
def sampleHead : HttpEvent := .channel (.message (.text "\x7b\"type\":\"http_request\"\x7d"))

theorem one_response_head_iff_sample :
    AnsweredOnce sampleLibrary [sampleHead, .call (.start (.int 200) .none false)] none ∧
      AnsweredOnce sampleLibrary [sampleHead, .call (HandlerResult.head (.int 200) .none)] none := by
  have hhandling : ((httpService sampleLibrary).run [sampleHead, .call (.start (.int 200) .none false)]).handling := rfl
  have hopen : ((httpService sampleLibrary).run [sampleHead, .call (.start (.int 200) .none false)]).closed = false := rfl
  have hserves : Serves sampleLibrary (.response (.int 200) .none none)
      [sampleHead, .call (HandlerResult.head (.int 200) .none)] none :=
    .empty (.int 200) .none none [sampleHead] [] ⟨rfl, rfl⟩ rfl rfl (fun _ h => nomatch h)
  exact ⟨((one_response_head_iff sampleLibrary).1 _ none hhandling hopen).mpr ⟨rfl, rfl, rfl⟩,
    ((one_response_head_iff sampleLibrary).2 _ _ none hserves rfl rfl rfl).mpr rfl⟩

/-- A header value that is bytes leaves the response without a head: the handler fails and no other head is sent. -/
theorem unencodable_head_unanswered : ¬ ∀ L es outcome, ((httpService L).run es).handling →
    ((httpService L).run es).closed = false → AnsweredOnce L es outcome := by
  intro h
  have hanswered := h sampleLibrary
    [sampleHead, .call (.start (.int 200) (.dict [(.str "x", .object true)]) false)] (some .exception) rfl rfl
  obtain ⟨status, headers, body, hsent, -⟩ := hanswered.head
  have hnone : ((httpService sampleLibrary).run ([sampleHead,
      .call (.start (.int 200) (.dict [(.str "x", .object true)]) false)] ++ [.finished (some .exception)])).sent = [] := rfl
  rw [hnone] at hsent
  nomatch hsent

end Python

end ZclaudiaGateway
