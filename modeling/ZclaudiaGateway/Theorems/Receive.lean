import ZclaudiaGateway.Theorems.RequestBody

/-!
# What an application is told of a request

The messages `receive` returns, in every run of an application that serves one channel, with any number of callers at once.
They tell the truth exactly if the end of the body comes before the iterator ends and nothing but ends and the end of a closed
channel comes after it: an abort puts the same marker in the queue as the end of the body, so an upload that breaks off is
reported as complete.
-/

namespace ZclaudiaGateway

namespace Python

/-! ## The application and the exchange -/

namespace AsgiServing

@[simp] theorem watch_serving (s : AsgiServing) (r : Nat) : (s.watch r).1.serving = s.serving := by
  unfold watch
  split <;> rfl

@[simp] theorem afterRead_serving (s : AsgiServing) (r : Nat) (result : List (Option Bytes)) :
    (s.afterRead r result).1.serving = s.serving := by
  unfold afterRead
  split
  · rfl
  · rfl
  · split
    · exact watch_serving s r
    · rfl

/-- To the exchange an event is the call that the adapter makes, if it makes one. -/
theorem handle_serving (L : Library) (s : AsgiServing) (e : AsgiEvent) :
    (s.handle L e).1.serving = (s.httpEvent e).elim s.serving (s.serving.step L) := by
  cases e with
  | receive r =>
    unfold handle
    dsimp only
    split
    · rw [httpEvent, if_pos (Or.inl ‹_›)]
      rfl
    · split
      · rw [httpEvent, if_pos (Or.inr ‹_›), watch_serving]
        rfl
      · rw [afterRead_serving]
        rfl
  | resume r => exact afterRead_serving _ _ _
  | wake r =>
    unfold handle
    dsimp only
    split <;> rfl
  | channel f => rfl
  | cancel r => rfl
  | send message cancelled => rfl
  | finished outcome => rfl

end AsgiServing

/-- The calls of the exchange in a run. -/
def httpEvents (L : Library) (es : List AsgiEvent) : List HttpEvent :=
  (asgiService L).history (fun s e => (s.httpEvent e).toList) es

theorem run_serving (L : Library) (es : List AsgiEvent) :
    ((asgiService L).run es).serving = (httpService L).run (httpEvents L es) := by
  induction es using List.reverseRecOn with
  | nil => rfl
  | append_singleton es e ih =>
    rw [EventMachine.run_snoc, httpEvents, EventMachine.history_snoc]
    refine (AsgiServing.handle_serving L _ e).trans ?_
    cases ((asgiService L).run es).httpEvent e with
    | none =>
      rw [Option.toList_none, List.append_nil]
      exact ih
    | some h =>
      rw [Option.toList_some, EventMachine.run_snoc]
      exact congrArg (HttpServing.step L · h) ih

/-- The frames of the channel in a run. -/
def asgiChannelEvents (es : List AsgiEvent) : List ChannelEvent :=
  es.filterMap (fun e => match e with | .channel f => some f | _ => none)

theorem channelEvents_httpEvents (L : Library) (es : List AsgiEvent) :
    channelEvents (httpEvents L es) = asgiChannelEvents es := by
  induction es using List.reverseRecOn with
  | nil => rfl
  | append_singleton es e ih =>
    rw [httpEvents, EventMachine.history_snoc, channelEvents_append, asgiChannelEvents, List.filterMap_append]
    refine congr (congrArg _ ih) ?_
    cases e with
    | channel f => rfl
    | receive r =>
      unfold AsgiServing.httpEvent
      dsimp only
      split <;> rfl
    | send message cancelled =>
      unfold AsgiServing.httpEvent
      dsimp only
      split
      · rfl
      · cases message <;> rfl
    | resume r | wake r | cancel r | finished outcome => rfl

/-! ## The messages -/

/-- The messages `receive` returns in a run, in the order in which they return. -/
def messages (L : Library) (es : List AsgiEvent) : List AsgiMessage :=
  (asgiService L).history (fun s e => (s.handle L e).2) es

/-- The bodies of the messages that say more follows. -/
def chunkBodies (ms : List AsgiMessage) : List Bytes :=
  ms.filterMap (fun m => match m with | .request body true => some body | _ => none)

/-- The messages that say the request is complete. -/
def finals (ms : List AsgiMessage) : List AsgiMessage :=
  ms.filter (fun m => match m with | .request _ false => true | _ => false)

/-- What the messages so far say is true, and a chunk that has not been returned goes to the next caller that runs. -/
structure Truthful (L : Library) (es : List AsgiEvent) : Prop where
  chunks : chunkBodies (messages L es) <+: bodyChunks (received L (asgiChannelEvents es)).parts
  once : (finals (messages L es)).length ≤ 1
  complete : finals (messages L es) ≠ [] → .requestEnd ∈ (received L (asgiChannelEvents es)).parts ∧
    chunkBodies (messages L es) = bodyChunks (received L (asgiChannelEvents es)).parts
  disconnected : .disconnect ∈ messages L es → ((asgiService L).run es).serving.closed
  delivered : ∀ data,
    (bodyChunks (received L (asgiChannelEvents es)).parts)[(chunkBodies (messages L es)).length]? = some data →
      (∀ r, ¬ ((asgiService L).run es).Busy r →
        (((asgiService L).run es).handle L (.receive r)).2 = [.request data true]) ∧
      ∀ ex ∈ ((asgiService L).run es).serving.exchange, (ex.body.getters ≠ [] → ex.body.woken ≠ []) ∧
        ∀ r ∈ ex.body.woken, (((asgiService L).run es).handle L (.resume r)).2 = [.request data true]

/-- The body ends before the iterator does, and what comes after the end is other ends, or the end of a closed channel. -/
structure UploadComplete (parts : List BodyPart) : Prop where
  ended : ∀ p ∈ (afterBody parts).head?, p = .requestEnd
  after : ∀ p ∈ afterBody parts, p = .requestEnd ∨ p = .abort true

instance (parts : List BodyPart) : Decidable (UploadComplete parts) :=
  decidable_of_iff ((∀ p ∈ (afterBody parts).head?, p = .requestEnd) ∧ ∀ p ∈ afterBody parts, p = .requestEnd ∨ p = .abort true)
    ⟨fun h => ⟨h.1, h.2⟩, fun h => ⟨h.ended, h.after⟩⟩

/-! ## What one event tells -/

/-- The results of `read_chunk` in an event of the application. -/
def AsgiServing.returned (s : AsgiServing) (e : AsgiEvent) : List (Option Bytes) :=
  (s.httpEvent e).elim [] s.serving.returned

theorem results_snoc (L : Library) (es : List AsgiEvent) (e : AsgiEvent) :
    results L (httpEvents L (es ++ [e])) = results L (httpEvents L es) ++ ((asgiService L).run es).returned e := by
  rw [httpEvents, EventMachine.history_snoc, AsgiServing.returned]
  cases ((asgiService L).run es).httpEvent e with
  | none =>
    rw [Option.toList_none, List.append_nil]
    exact (List.append_nil _).symm
  | some h =>
    rw [Option.toList_some, results, EventMachine.history_snoc]
    change _ ++ HttpServing.returned ((httpService L).run (httpEvents L es)) h = _
    rw [← run_serving]
    rfl

/-- What an event tells the application, by what `read_chunk` returned in it. -/
inductive Told (s s' : AsgiServing) : List (Option Bytes) → List AsgiMessage → Prop where
  | silent : s'.body_done = s.body_done → Told s s' [] []
  | gone : s.disconnected → s'.body_done = s.body_done → Told s s' [] [.disconnect]
  | chunk (data : Bytes) : s'.body_done = s.body_done → Told s s' [some data] [.request data true]
  | final : s.body_done = false → s'.body_done = true → Told s s' [none] [.request [] false]
  | raced : s'.body_done = s.body_done → s.body_done = true → Told s s' [none] []
  | racedGone : s'.body_done = s.body_done → s.body_done = true → s.disconnected → Told s s' [none] [.disconnect]

theorem Told.of_disconnect {s s' : AsgiServing} {ret : List (Option Bytes)} {ms : List AsgiMessage} (h : Told s s' ret ms)
    (hm : .disconnect ∈ ms) : s.disconnected := by
  cases h with
  | silent | chunk | final | raced => simp at hm
  | gone hd | racedGone _ _ hd => exact hd

namespace AsgiServing

variable {L : Library}

/-- A call of `read_chunk` does not touch what tells the disconnect. -/
theorem disconnected_reading (s : AsgiServing) (e : HttpExchange.Reading) :
    disconnected { s with serving := s.serving.step L (.reading e) } = s.disconnected := by
  unfold disconnected
  change (s.serving.exchange.map _).any _ = _
  cases s.serving.exchange with
  | none => rfl
  | some ex =>
    cases e with
    | read r =>
      by_cases hr : ex.body.Waits r
      · simp [HttpExchange.readChunk_busy hr]
      · simp [HttpExchange.readChunk_idle hr]
    | resume r | cancel r => rfl

theorem returned_length (s : HttpServing) (h : HttpEvent) : (s.returned h).length ≤ 1 := by
  unfold HttpServing.returned
  split
  · cases (s.exchange.bind _) <;> simp
  · exact Nat.zero_le _

theorem watch_told (s : AsgiServing) (r : Nat) : Told s (s.watch r).1 [] (s.watch r).2 := by
  unfold watch
  split
  · exact .gone ‹_› rfl
  · exact .silent rfl

theorem afterRead_told (s : AsgiServing) (r : Nat) (e : HttpExchange.Reading) :
    Told s (({ s with serving := s.serving.step L (.reading e) } : AsgiServing).afterRead r (s.serving.returned (.reading e))).1
      (s.serving.returned (.reading e))
      (({ s with serving := s.serving.step L (.reading e) } : AsgiServing).afterRead r
        (s.serving.returned (.reading e))).2 := by
  have hlength := returned_length s.serving (.reading e)
  generalize s.serving.returned (.reading e) = ret at hlength ⊢
  rcases ret with _ | ⟨_ | data, _ | ⟨x, rest⟩⟩
  · exact .silent rfl
  · unfold afterRead
    dsimp only
    by_cases hdone : s.body_done = true
    · rw [if_pos hdone, watch, disconnected_reading]
      split
      · exact .racedGone rfl hdone ‹_›
      · exact .raced rfl hdone
    · rw [if_neg hdone]
      exact .final (Bool.eq_false_iff.mpr hdone) rfl
  · simp at hlength
  · exact .chunk data rfl
  · simp at hlength

/-- A caller that gets a chunk returns it. -/
theorem handle_receive (L : Library) {s : AsgiServing} {r : Nat} {ex : HttpExchange} {data : Bytes} (hr : ¬ s.Busy r)
    (hdone : s.body_done = false) (hex : ex ∈ s.serving.exchange) (hget : (ex.readChunk (.read r)).1 = some (some data)) :
    (s.handle L (.receive r)).2 = [.request data true] := by
  have hreturned : s.serving.returned (.reading (.read r)) = [some data] := by
    rw [HttpServing.returned, Option.mem_def.mp hex]
    change (ex.readChunk (.read r)).1.toList = _
    rw [hget]
    rfl
  unfold handle
  dsimp only
  rw [if_neg hr, if_neg (by simp [hdone]), hreturned]
  rfl

theorem handle_resume (L : Library) {s : AsgiServing} {r : Nat} {ex : HttpExchange} {data : Bytes}
    (hex : ex ∈ s.serving.exchange) (hget : (ex.readChunk (.resume r)).1 = some (some data)) :
    (s.handle L (.resume r)).2 = [.request data true] := by
  have hreturned : s.serving.returned (.reading (.resume r)) = [some data] := by
    rw [HttpServing.returned, Option.mem_def.mp hex]
    change (ex.readChunk (.resume r)).1.toList = _
    rw [hget]
    rfl
  unfold handle
  dsimp only
  rw [hreturned]
  rfl

theorem handle_told (s : AsgiServing) (e : AsgiEvent) : Told s (s.handle L e).1 (s.returned e) (s.handle L e).2 := by
  cases e with
  | receive r =>
    unfold handle
    dsimp only
    split
    · rw [returned, httpEvent, if_pos (Or.inl ‹_›)]
      exact .silent rfl
    · split
      · rw [returned, httpEvent, if_pos (Or.inr ‹_›)]
        exact s.watch_told r
      · rename_i hbusy hdone
        rw [forward, returned, httpEvent, if_neg (by simp [hbusy, hdone])]
        exact afterRead_told (L := L) s r (.read r)
  | resume r => exact afterRead_told (L := L) s r (.resume r)
  | wake r =>
    unfold handle
    dsimp only
    split
    · exact .gone (And.right ‹_›) rfl
    · exact .silent rfl
  | channel f => exact .silent rfl
  | cancel r =>
    have hnone : s.returned (.cancel r) = [] := by
      unfold returned
      change (s.serving.exchange.bind _).toList = []
      cases s.serving.exchange <;> rfl
    rw [hnone]
    exact .silent rfl
  | send message cancelled =>
    have hnone : s.returned (.send message cancelled) = [] := by
      unfold returned httpEvent
      dsimp only
      split
      · rfl
      · cases message <;> rfl
    rw [hnone]
    exact .silent rfl
  | finished outcome => exact .silent rfl

end AsgiServing

/-- What the application was told, by the results of `read_chunk`. -/
structure Tells (results : List (Option Bytes)) (ms : List AsgiMessage) (s : AsgiServing) : Prop where
  bodies : chunkBodies ms = results.filterMap id
  finals : (finals ms).length = if s.body_done then 1 else 0
  done : s.body_done → none ∈ results

theorem Tells.told {results ret : List (Option Bytes)} {ms more : List AsgiMessage} {s s' : AsgiServing}
    (h : Tells results ms s) (ht : Told s s' ret more) : Tells (results ++ ret) (ms ++ more) s' := by
  have hbodies := h.bodies
  have hfinals := h.finals
  unfold chunkBodies at hbodies
  unfold Python.finals at hfinals
  refine ⟨?_, ?_, ?_⟩
  · unfold chunkBodies
    rw [List.filterMap_append, List.filterMap_append, hbodies]
    cases ht <;> rfl
  · unfold Python.finals
    rw [List.filter_append, List.length_append, hfinals]
    cases ht with
    | silent hsame | gone _ hsame | chunk _ hsame | raced hsame | racedGone hsame => rw [hsame]; rfl
    | final hbefore hafter => rw [hbefore, hafter]; rfl
  · intro hdone
    cases ht with
    | silent hsame | gone _ hsame | chunk _ hsame =>
      exact List.mem_append_left _ (h.done (hsame ▸ hdone))
    | final | raced | racedGone => exact List.mem_append_right _ (List.mem_singleton.mpr rfl)

theorem tells_run (L : Library) (es : List AsgiEvent) :
    Tells (results L (httpEvents L es)) (messages L es) ((asgiService L).run es) := by
  induction es using List.reverseRecOn with
  | nil => exact ⟨rfl, rfl, fun h => (nomatch h)⟩
  | append_singleton es e ih =>
    rw [results_snoc, messages, EventMachine.history_snoc, EventMachine.run_snoc]
    exact ih.told (AsgiServing.handle_told _ e)

/-! ## The disconnect -/

namespace HttpServing

/-- The exchange is told of the disconnect only once the channel is closed. -/
def Honest (s : HttpServing) : Prop := ∀ ex ∈ s.exchange, ex.disconnected → s.closed

theorem Honest.of_eq {s s' : HttpServing} (h : s.Honest)
    (hex : ∀ ex' ∈ s'.exchange, ex'.disconnected → ∃ ex ∈ s.exchange, ex.disconnected) (hclosed : s.closed → s'.closed) :
    s'.Honest := fun ex' hex' hd =>
  have ⟨ex, hmem, hd'⟩ := hex ex' hex' hd
  hclosed (h ex hmem hd')

theorem send_disconnected {ex : HttpExchange} {closed cancelled : Bool} {data : Sent}
    (h : (ex.send closed cancelled data).1.disconnected) : ex.disconnected ∨ closed := by
  unfold HttpExchange.send at h
  split at h
  · exact Or.inl h
  · split at h
    · exact Or.inr ‹_›
    · split at h <;> exact Or.inl h

theorem start_disconnected {ex : HttpExchange} {closed cancelled : Bool} {status headers : PyValue}
    (h : (ex.start closed cancelled status headers).1.disconnected) : ex.disconnected ∨ closed := by
  unfold HttpExchange.start at h
  split at h
  · exact Or.inl h
  · split at h
    · exact @send_disconnected { ex with started := true } _ _ _ h
    · exact Or.inl h

theorem write_disconnected {ex : HttpExchange} {closed cancelled : Bool} {chunk : Chunk}
    (h : (ex.write closed cancelled chunk).1.disconnected) : ex.disconnected ∨ closed := by
  unfold HttpExchange.write at h
  split at h
  · exact Or.inl h
  · split at h
    · exact Or.inl h
    · exact send_disconnected h

/-- A part that is no abort does not tell the disconnect; an abort does so when the channel is closed. -/
theorem Honest.channel {L : Library} {c : Reception} {results : List (Option Bytes)} {s : HttpServing} (h : s.Honest)
    (hreads : Reads c results s) (f : ChannelEvent) (hparts : .abort false ∉ (c.step L f).parts) : (s.channel L f).Honest := by
  cases f with
  | message m =>
    change Honest (if s.iterating then s.receive L m else s)
    change .abort false ∉ (if c.finished then c else c.receive L m).parts at hparts
    rw [hreads.iterating]
    by_cases hover : c.finished = true
    · rw [if_neg (by simp [hover])]
      exact h
    · rw [if_neg hover] at hparts
      rw [if_pos (by simp [hover])]
      have hbegun := hreads.body.begun
      unfold Reception.receive at hparts
      unfold receive
      unfold queue at hbegun
      cases hframe : frameOf L m with
      | chunk data | requestEnd =>
        cases hex : s.exchange with
        | none => exact h
        | some ex =>
          refine h.of_eq (fun ex' hmem hd => ⟨ex, hex, ?_⟩) id
          cases hmem
          exact hd
      | request request =>
        cases hex : s.exchange with
        | none =>
          intro ex' hmem hd
          cases hmem
          nomatch hd
        | some ex => exact h
      | ignored => exact h
      | error =>
        intro ex' hmem _
        obtain ⟨ex, hex, rfl⟩ := Option.map_eq_some_iff.mp hmem
        have hhead : c.head = true := by
          rw [← hbegun, hex]
          rfl
        rw [hframe] at hparts
        change .abort false ∉ (c.add (.abort c.closed)).parts at hparts
        change s.closed = true
        refine hreads.closed ((Bool.not_eq_false _).mp fun hc => hparts ?_)
        rw [Reception.add, if_pos hhead, hc]
        exact List.mem_append_right _ (List.mem_singleton.mpr rfl)
  | closed => exact fun _ _ _ => rfl
  | ended =>
    change Honest (if s.iterating then { s.abort with closed := true } else s)
    split
    · exact fun _ _ _ => rfl
    · exact h

theorem Honest.call {s : HttpServing} (h : s.Honest) (c : HandlerCall) : (s.call c).Honest := by
  unfold HttpServing.call
  cases hex : s.exchange with
  | none => exact h
  | some ex =>
    have hkeep : ex.disconnected ∨ s.closed → s.closed := fun hd => hd.elim (h ex hex) id
    cases c with
    | start status headers cancelled =>
      intro ex' hmem hd
      cases hmem
      exact hkeep (start_disconnected hd)
    | write chunk cancelled =>
      intro ex' hmem hd
      cases hmem
      exact hkeep (write_disconnected hd)

theorem Honest.finish {s : HttpServing} (h : s.Honest) (outcome : Option PyException) : (s.finish outcome).Honest := by
  unfold HttpServing.finish
  split
  · exact h
  · rcases outcome with _ | _ | _ | _ <;> exact fun _ _ _ => rfl

theorem Honest.reading {L : Library} {s : HttpServing} (h : s.Honest) (e : HttpExchange.Reading) :
    (s.step L (.reading e)).Honest := by
  refine h.of_eq (fun ex' hmem hd => ?_) id
  obtain ⟨ex, hex, rfl⟩ := Option.map_eq_some_iff.mp hmem
  refine ⟨ex, hex, ?_⟩
  cases e with
  | read r =>
    by_cases hr : ex.body.Waits r
    · rwa [HttpExchange.readChunk_busy hr] at hd
    · rwa [HttpExchange.readChunk_idle hr] at hd
  | resume r | cancel r => exact hd

end HttpServing

theorem honest_run (L : Library) (es : List HttpEvent) (h : .abort false ∉ (received L (channelEvents es)).parts) :
    ((httpService L).run es).Honest := by
  induction es using List.reverseRecOn with
  | nil => exact fun _ hmem => nomatch hmem
  | append_singleton es e ih =>
    rw [channelEvents_append] at h
    rw [EventMachine.run_snoc]
    obtain ⟨more, hmore⟩ := received_earlier L (List.prefix_append (channelEvents es) (channelEvents [e]))
    rw [hmore] at h
    have hbefore := ih (fun hm => h (List.mem_append_left _ hm))
    cases e with
    | channel f =>
      rw [← hmore] at h
      change .abort false ∉ (received L (channelEvents es ++ [f])).parts at h
      rw [received_snoc] at h
      exact hbefore.channel (reads_run L es) f h
    | reading e => exact HttpServing.Honest.reading (L := L) hbefore e
    | call c => exact hbefore.call c
    | finished outcome =>
      change HttpServing.Honest (if _ then _ else _)
      split
      · exact hbefore.finish outcome
      · exact hbefore

/-- The channel stays closed. -/
theorem closed_step (L : Library) {s : HttpServing} (h : s.closed) (e : HttpEvent) : (s.step L e).closed := by
  cases e with
  | channel f =>
    cases f with
    | message m =>
      change (if s.iterating then s.receive L m else s).closed = true
      split
      · unfold HttpServing.receive
        split <;> exact h
      · exact h
    | closed => rfl
    | ended =>
      change (if s.iterating then { s.abort with closed := true } else s).closed = true
      split
      · rfl
      · exact h
  | reading e => exact h
  | call c =>
    change (s.call c).closed = true
    unfold HttpServing.call
    split
    · exact h
    · cases c <;> exact h
  | finished outcome =>
    change (if s.handling then s.finish outcome else s).closed = true
    split
    · unfold HttpServing.finish
      split
      · exact h
      · rcases outcome with _ | _ | _ | _ <;> rfl
    · exact h

/-- A caller is told of the disconnect only once the channel is closed. -/
theorem disconnect_closed (L : Library) (es : List AsgiEvent)
    (h : .abort false ∉ (received L (asgiChannelEvents es)).parts) (hm : .disconnect ∈ messages L es) :
    ((asgiService L).run es).serving.closed := by
  induction es using List.reverseRecOn with
  | nil => nomatch hm
  | append_singleton es e ih =>
    have hbefore : .abort false ∉ (received L (asgiChannelEvents es)).parts := by
      rw [asgiChannelEvents, List.filterMap_append] at h
      obtain ⟨more, hmore⟩ := received_earlier L (List.prefix_append (asgiChannelEvents es) _)
      rw [asgiChannelEvents] at hmore
      rw [hmore] at h
      exact fun hp => h (List.mem_append_left _ hp)
    have hkeep : ((asgiService L).run es).serving.closed → ((asgiService L).run (es ++ [e])).serving.closed := by
      intro hc
      rw [EventMachine.run_snoc]
      change ((((asgiService L).run es).handle L e).1).serving.closed = true
      rw [AsgiServing.handle_serving]
      cases ((asgiService L).run es).httpEvent e with
      | none => exact hc
      | some h => exact closed_step L hc h
    have hhonest : ((asgiService L).run es).disconnected → ((asgiService L).run es).serving.closed := by
      intro hd
      have hrun := honest_run L (httpEvents L es) (by rwa [channelEvents_httpEvents])
      rw [← run_serving] at hrun
      obtain ⟨ex, hex, hd⟩ := (Option.any_eq_true _ _).mp hd
      exact hrun ex hex hd
    rw [messages, EventMachine.history_snoc] at hm
    rcases List.mem_append.mp hm with hm | hm
    · exact hkeep (ih hbefore hm)
    · exact hkeep (hhonest ((AsgiServing.handle_told _ e).of_disconnect hm))

/-! ## A complete upload -/

/-- The chunks among results that are due are the chunks of the body as far as they were asked for. -/
theorem chunks_of_due {parts : List BodyPart} {results : List (Option Bytes)}
    (h : ∀ i result, results[i]? = some result → due parts i = some result) :
    results.filterMap id = (bodyChunks parts).take results.length := by
  induction results using List.reverseRecOn with
  | nil => rfl
  | append_singleton results result ih =>
    have hbefore : ∀ i r, results[i]? = some r → due parts i = some r := fun i r hi => by
      have hlt : i < results.length := (List.getElem?_eq_some_iff.mp hi).1
      exact h i r (by rw [List.getElem?_append_left hlt, hi])
    have hlast : due parts results.length = some result := h results.length result (by simp)
    rw [List.filterMap_append, ih hbefore, List.length_append, List.length_singleton]
    by_cases hn : results.length < (bodyChunks parts).length
    · rw [due_of_lt hn] at hlast
      cases hlast
      rw [List.take_succ_eq_append_getElem hn]
      rfl
    · rw [due_of_le (not_lt.mp hn)] at hlast
      split at hlast
      · nomatch hlast
      · cases hlast
        rw [List.take_of_length_le (not_lt.mp hn), List.take_of_length_le (Nat.le_succ_of_le (not_lt.mp hn))]
        simp

theorem UploadComplete.of_append {parts more : List BodyPart} (h : UploadComplete (parts ++ more)) : UploadComplete parts := by
  by_cases hend : afterBody parts = []
  · exact ⟨by simp [hend], by simp [hend]⟩
  · have hafter : afterBody (parts ++ more) = afterBody parts ++ more := by rw [afterBody_append, if_neg hend]
    refine ⟨fun p hp => h.ended p ?_, fun p hp => h.after p ?_⟩
    · rw [hafter, List.head?_append_of_ne_nil _ hend]
      exact hp
    · rw [hafter]
      exact List.mem_append_left _ hp

theorem UploadComplete.nothingAfterEnd {parts : List BodyPart} (h : UploadComplete parts) : NothingAfterEnd parts :=
  fun _ hd => (h.after _ hd).elim (fun he => nomatch he) (fun he => nomatch he)

theorem UploadComplete.abort {parts : List BodyPart} (h : UploadComplete parts) : .abort false ∉ parts := by
  intro hp
  rw [parts_eq parts] at hp
  rcases List.mem_append.mp hp with hp | hp
  · obtain ⟨data, -, he⟩ := List.mem_map.mp hp
    nomatch he
  · exact (h.after _ hp).elim (fun he => nomatch he) (fun he => nomatch he)

theorem truthful_of_complete {L : Library} {es : List AsgiEvent}
    (h : UploadComplete (received L (asgiChannelEvents es)).parts) : Truthful L es := by
  have htells := tells_run L es
  have horder : ReadsInOrder L (httpEvents L es) := reads_in_order (by
    rw [channelEvents_httpEvents]
    exact h.nothingAfterEnd)
  have hreturned := horder.returned
  have hnext := horder.next
  have hwoken := horder.woken
  rw [channelEvents_httpEvents] at hreturned hnext hwoken
  rw [← run_serving] at hnext hwoken
  have hbodies : chunkBodies (messages L es) =
      (bodyChunks (received L (asgiChannelEvents es)).parts).take (results L (httpEvents L es)).length :=
    htells.bodies.trans (chunks_of_due hreturned)
  have hdone : ((asgiService L).run es).body_done → afterBody (received L (asgiChannelEvents es)).parts ≠ [] ∧
      (bodyChunks (received L (asgiChannelEvents es)).parts).length < (results L (httpEvents L es)).length := by
    intro hd
    obtain ⟨i, hi, hnone⟩ := List.getElem_of_mem (htells.done hd)
    have hdue := hreturned i none (by rw [List.getElem?_eq_getElem hi, hnone])
    by_cases hlt : i < (bodyChunks (received L (asgiChannelEvents es)).parts).length
    · rw [due_of_lt hlt] at hdue
      nomatch hdue
    · rw [due_of_le (not_lt.mp hlt)] at hdue
      split at hdue
      · nomatch hdue
      · exact ⟨‹_›, by omega⟩
  refine ⟨?_, ?_, ?_, ?_, ?_⟩
  · rw [hbodies]
    exact List.take_prefix _ _
  · rw [htells.finals]
    split <;> simp
  · intro hfinal
    have hd : ((asgiService L).run es).body_done = true := by
      by_contra hd
      have hlength := htells.finals
      rw [if_neg hd] at hlength
      exact hfinal (List.length_eq_zero_iff.mp hlength)
    obtain ⟨hend, hlt⟩ := hdone hd
    refine ⟨?_, by rw [hbodies, List.take_of_length_le hlt.le]⟩
    obtain ⟨p, rest, hp⟩ := List.exists_cons_of_ne_nil hend
    have hpe := h.ended p (by rw [hp]; rfl)
    rw [parts_eq (received L (asgiChannelEvents es)).parts, hp, hpe]
    simp
  · exact fun hm => disconnect_closed L es h.abort hm
  · intro data hdata
    have hlt : (results L (httpEvents L es)).length < (bodyChunks (received L (asgiChannelEvents es)).parts).length := by
      have hi := (List.getElem?_eq_some_iff.mp hdata).1
      rw [hbodies, List.length_take] at hi
      omega
    have hnotDone : ((asgiService L).run es).body_done = false := by
      by_contra hd
      exact absurd (hdone (Bool.not_eq_false _ ▸ hd)).2 (by omega)
    have hdue : due (received L (asgiChannelEvents es)).parts (results L (httpEvents L es)).length = some (some data) := by
      rw [hbodies, List.length_take, Nat.min_eq_left hlt.le, List.getElem?_eq_getElem hlt, Option.some.injEq] at hdata
      rw [due_of_lt hlt, List.get_eq_getElem, hdata]
    rw [hdue] at hnext hwoken
    obtain ⟨ex, hex⟩ : ∃ ex, ((asgiService L).run es).serving.exchange = some ex := by
      have hreads := reads_run L (httpEvents L es)
      rw [← run_serving, channelEvents_httpEvents] at hreads
      by_contra hnone
      rw [not_exists] at hnone
      have hqueue : ((asgiService L).run es).serving.queue = none := by
        rw [HttpServing.queue, Option.eq_none_iff_forall_ne_some.mpr hnone]
        rfl
      rw [(hreads.body.fresh hqueue).1] at hlt
      exact absurd hlt (Nat.not_lt_zero _)
    refine ⟨fun r hr => ?_, fun ex' hex' => ⟨fun hgetters => hwoken ex' hex' (by simp) hgetters, fun r hr => ?_⟩⟩
    · have hidle : ¬ ex.body.Waits r := fun hw => hr (Or.inr ⟨ex, hex, hw⟩)
      exact AsgiServing.handle_receive L hr hnotDone hex (hnext ex hex (.read r) hidle)
    · exact AsgiServing.handle_resume L hex' (hnext ex' hex' (.resume r) hr)

/-! ## Runs that do not tell the truth -/

theorem asgiChannelEvents_append (es es' : List AsgiEvent) :
    asgiChannelEvents (es ++ es') = asgiChannelEvents es ++ asgiChannelEvents es' := List.filterMap_append

theorem asgiChannelEvents_map (fs : List ChannelEvent) : asgiChannelEvents (fs.map .channel) = fs := by
  induction fs with
  | nil => rfl
  | cons f fs ih => exact congrArg (f :: ·) ih

theorem asgiChannelEvents_receive (rs : List Nat) : asgiChannelEvents (rs.map .receive) = [] := by
  induction rs with
  | nil => rfl
  | cons r rs ih => exact ih

theorem asgiChannelEvents_resume (rs : List Nat) : asgiChannelEvents (rs.map .resume) = [] := by
  induction rs with
  | nil => rfl
  | cons r rs ih => exact ih

/-- The events of the channel change the exchange only. -/
theorem run_channels (L : Library) (es : List AsgiEvent) (fs : List ChannelEvent) :
    (asgiService L).run (es ++ fs.map .channel) =
      { (asgiService L).run es with serving := fs.foldl (HttpServing.channel L) ((asgiService L).run es).serving } := by
  induction fs using List.reverseRecOn with
  | nil => simp
  | append_singleton fs f ih =>
    rw [List.map_append, List.map_singleton, ← List.append_assoc, EventMachine.run_snoc, ih, List.foldl_append]
    rfl

/-- The exchange has this queue, nobody waits, and no caller waits for the disconnect. -/
structure Alone (s : AsgiServing) (items : List (Option Bytes)) (disconnected closed : Bool) : Prop where
  exchange : ∃ ex ∈ s.serving.exchange, ex.body = ⟨items, [], []⟩ ∧ ex.disconnected = disconnected
  watchers : s.watchers = []
  closed : s.serving.closed = closed

section Alone

variable {L : Library} {s : AsgiServing} {items : List (Option Bytes)} {disconnected closed : Bool}

theorem Alone.not_busy (h : Alone s items disconnected closed) : ¬ s.Busy 0 := by
  obtain ⟨ex, hex, hbody, -⟩ := h.exchange
  rintro (hw | ⟨ex', hex', hw⟩)
  · rw [h.watchers] at hw
    nomatch hw
  · obtain rfl := Option.some.inj (Option.mem_def.mp hex ▸ Option.mem_def.mp hex')
    simp [hbody, AsyncQueue.Waits] at hw

/-- What the only caller gets is the head of the queue. -/
theorem Alone.returned {item : Option Bytes} (h : Alone s (item :: items) disconnected closed) :
    s.serving.returned (.reading (.read 0)) = [item] ∧
      Alone { s with serving := s.serving.step L (.reading (.read 0)) } (items ++ if item = none then [none] else [])
        disconnected closed := by
  obtain ⟨ex, hex, hbody, hd⟩ := h.exchange
  have hidle : ¬ ex.body.Waits 0 := by simp [hbody, AsyncQueue.Waits]
  have hread := HttpExchange.readChunk_idle hidle
  constructor
  · rw [HttpServing.returned, Option.mem_def.mp hex]
    change (ex.readChunk (.read 0)).1.toList = _
    rw [hread, hbody]
    cases item <;> rfl
  · refine ⟨⟨(ex.readChunk (.read 0)).2, ?_, ?_, ?_⟩, h.watchers, h.closed⟩
    · change s.serving.exchange.map _ = _
      rw [Option.mem_def.mp hex]
      rfl
    · rw [hread, hbody]
      cases item <;> simp [HttpExchange.putBack, AsyncQueue.get, AsyncQueue.putNowait, AsyncQueue.wakeupNext]
    · rw [hread]
      exact hd

/-- It returns a chunk. -/
theorem Alone.receive_chunk {data : Bytes} (h : Alone s (some data :: items) disconnected closed)
    (hdone : s.body_done = false) :
    Alone (s.handle L (.receive 0)).1 items disconnected closed ∧ (s.handle L (.receive 0)).1.body_done = false := by
  obtain ⟨hreturned, halone⟩ := h.returned (L := L)
  have hhandle : (s.handle L (.receive 0)).1 = { s with serving := s.serving.step L (.reading (.read 0)) } := by
    unfold AsgiServing.handle
    dsimp only
    rw [if_neg h.not_busy, if_neg (by simp [hdone]), hreturned, AsgiServing.forward, AsgiServing.httpEvent,
      if_neg (by simp [h.not_busy, hdone])]
    rfl
  rw [hhandle]
  rw [if_neg (by simp), List.append_nil] at halone
  exact ⟨halone, hdone⟩

/-- At the end marker it says that the request is complete. -/
theorem Alone.receive_end (h : Alone s (none :: items) disconnected closed) (hdone : s.body_done = false) :
    (s.handle L (.receive 0)).2 = [.request [] false] ∧ Alone (s.handle L (.receive 0)).1 (items ++ [none]) disconnected closed ∧
      (s.handle L (.receive 0)).1.body_done = true := by
  obtain ⟨hreturned, halone⟩ := h.returned (L := L)
  have hhandle : s.handle L (.receive 0) =
      ({ s with serving := s.serving.step L (.reading (.read 0)), body_done := true }, [.request [] false]) := by
    unfold AsgiServing.handle
    dsimp only
    rw [if_neg h.not_busy, if_neg (by simp [hdone]), hreturned, AsgiServing.forward, AsgiServing.httpEvent,
      if_neg (by simp [h.not_busy, hdone])]
    unfold AsgiServing.afterRead
    dsimp only
    rw [if_neg (by simp [hdone])]
    rfl
  rw [hhandle]
  rw [if_pos rfl] at halone
  exact ⟨rfl, ⟨halone.exchange, halone.watchers, halone.closed⟩, rfl⟩

/-- Then it is told of the disconnect. -/
theorem Alone.receive_disconnect (h : Alone s items true closed) (hdone : s.body_done = true) :
    s.handle L (.receive 0) = (s, [.disconnect]) := by
  obtain ⟨ex, hex, -, hd⟩ := h.exchange
  have hdisconnected : s.disconnected = true := by
    rw [AsgiServing.disconnected, Option.mem_def.mp hex]
    exact hd
  unfold AsgiServing.handle
  dsimp only
  rw [if_neg h.not_busy, if_pos hdone, AsgiServing.watch, if_pos hdisconnected]

end Alone

/-- A caller on its own returns the chunks that are there. -/
theorem alone_chunks {L : Library} {items : List (Option Bytes)} {disconnected closed : Bool} (chunks : List Bytes) :
    ∀ es : List AsgiEvent, Alone ((asgiService L).run es) (chunks.map some ++ items) disconnected closed →
      ((asgiService L).run es).body_done = false →
      Alone ((asgiService L).run (es ++ (List.replicate chunks.length 0).map .receive)) items disconnected closed ∧
        ((asgiService L).run (es ++ (List.replicate chunks.length 0).map .receive)).body_done = false := by
  induction chunks with
  | nil =>
    intro es h hdone
    rw [List.length_nil, List.replicate_zero, List.map_nil, List.append_nil]
    exact ⟨h, hdone⟩
  | cons data chunks ih =>
    intro es h hdone
    obtain ⟨hnext, hdone'⟩ := h.receive_chunk (L := L) hdone
    have hrest := ih (es ++ [.receive 0])
    rw [EventMachine.run_snoc, List.append_assoc] at hrest
    exact hrest hnext hdone'

/-- Without calls of the handler, the service is closed when the channel is, and disconnected when the iterator has ended. -/
structure Plain (c : Reception) (s : HttpServing) : Prop where
  closed : s.closed = c.closed
  disconnected : ∀ ex ∈ s.exchange, ex.disconnected = c.finished

theorem Plain.receive {L : Library} {c : Reception} {s : HttpServing} (h : Plain c s) (hover : c.finished = false) (m : Message) :
    Plain (c.receive L m) (s.receive L m) := by
  have hold := h.disconnected
  unfold Reception.receive HttpServing.receive
  cases hframe : frameOf L m with
  | chunk data | requestEnd =>
    cases hex : s.exchange with
    | none => exact ⟨h.closed, fun ex hmem => nomatch hex.symm.trans hmem⟩
    | some ex =>
      refine ⟨h.closed, fun ex' hmem => ?_⟩
      cases hmem
      exact hold ex hex
  | request request =>
    cases hex : s.exchange with
    | none =>
      refine ⟨h.closed, fun ex hmem => ?_⟩
      cases hmem
      exact hover.symm
    | some ex => exact ⟨h.closed, hold⟩
  | ignored => exact h
  | error =>
    refine ⟨h.closed, fun ex' hmem => ?_⟩
    obtain ⟨ex, hex, rfl⟩ := Option.map_eq_some_iff.mp hmem
    rfl

theorem plain_received (L : Library) (fs : List ChannelEvent) :
    Plain (received L fs) (fs.foldl (HttpServing.channel L) .init) := by
  induction fs using List.reverseRecOn with
  | nil => exact ⟨rfl, fun _ hmem => nomatch hmem⟩
  | append_singleton fs f ih =>
    obtain ⟨results, hreads⟩ := (untouched_init.channels (L := L) fs).reads
    have hiterating := hreads.iterating
    rw [received_snoc, List.foldl_append, List.foldl_cons, List.foldl_nil]
    change (fs.foldl (HttpServing.channel L) .init).iterating = !(received L fs).finished at hiterating
    generalize fs.foldl (HttpServing.channel L) .init = s at ih hiterating
    generalize received L fs = c at ih hiterating
    cases f with
    | message m =>
      change Plain (if c.finished then c else c.receive L m) (if s.iterating then s.receive L m else s)
      rw [hiterating]
      by_cases hover : c.finished = true
      · rw [if_pos hover, if_neg (by simp [hover])]
        exact ih
      · rw [if_neg hover, if_pos (by simp [hover])]
        exact ih.receive (Bool.eq_false_iff.mpr hover) m
    | closed => exact ⟨rfl, ih.disconnected⟩
    | ended =>
      change Plain (if c.finished then c else { c.add (.abort true) with closed := true, finished := true })
        (if s.iterating then { s.abort with closed := true } else s)
      rw [hiterating]
      by_cases hover : c.finished = true
      · rw [if_pos hover, if_neg (by simp [hover])]
        exact ih
      · rw [if_neg hover, if_pos (by simp [hover])]
        refine ⟨rfl, fun ex' hmem => ?_⟩
        obtain ⟨ex, hex, rfl⟩ := Option.map_eq_some_iff.mp hmem
        rfl

/-- After the frames of a channel and before any call, the queue holds every part. -/
theorem alone_received {L : Library} {fs : List ChannelEvent} (hparts : (received L fs).parts ≠ []) :
    Alone ((asgiService L).run (fs.map .channel)) ((received L fs).parts.map BodyPart.item) (received L fs).finished
        (received L fs).closed ∧ ((asgiService L).run (fs.map .channel)).body_done = false := by
  have huntouched : Untouched [] (received L fs) (fs.foldl (HttpServing.channel L) .init) := untouched_init.channels fs
  have hplain := plain_received L fs
  have hrun := run_channels L [] fs
  rw [List.nil_append, EventMachine.run_nil] at hrun
  rw [hrun]
  change Alone { AsgiServing.init with serving := fs.foldl (HttpServing.channel L) .init } _ _ _ ∧ _
  obtain ⟨results, hreads⟩ := huntouched.reads
  rcases hqueue : (fs.foldl (HttpServing.channel L) .init).queue with _ | q
  · exact absurd (hreads.body.fresh hqueue).1 hparts
  · have hq := huntouched.filled q hqueue
    obtain ⟨ex, hex, rfl⟩ := Option.map_eq_some_iff.mp hqueue
    exact ⟨⟨⟨ex, hex, hq.eq, hplain.disconnected ex hex⟩, rfl, hplain.closed⟩, rfl⟩

/-- A caller on its own is told the end of the body, whatever ended it. -/
theorem alone_final {L : Library} (fs : List ChannelEvent) (h : afterBody (received L fs).parts ≠ []) :
    ∃ es items, asgiChannelEvents es = fs ∧ finals (messages L es) ≠ [] ∧
      Alone ((asgiService L).run es) items (received L fs).finished (received L fs).closed ∧
        ((asgiService L).run es).body_done = true := by
  have hparts : (received L fs).parts ≠ [] := fun hnil => h (by rw [hnil]; rfl)
  obtain ⟨halone, hdone⟩ := alone_received hparts
  obtain ⟨p, rest, hafter⟩ := List.exists_cons_of_ne_nil h
  have hp : p.item = none := by
    have hhead := head?_afterBody (received L fs).parts
    rw [hafter] at hhead
    cases p with
    | chunk data => exact absurd rfl (hhead data)
    | requestEnd | abort closed => rfl
  have hitems : (received L fs).parts.map BodyPart.item =
      (bodyChunks (received L fs).parts).map some ++ (none :: rest.map BodyPart.item) := by
    conv_lhs => rw [parts_eq (received L fs).parts, hafter, List.map_append, List.map_map, List.map_cons, hp]
    rfl
  rw [hitems] at halone
  obtain ⟨halone, hdone⟩ := alone_chunks _ _ halone hdone
  obtain ⟨hfinal, halone, hdone⟩ := halone.receive_end (L := L) hdone
  refine ⟨fs.map .channel ++ (List.replicate (bodyChunks (received L fs).parts).length 0).map .receive ++ [.receive 0],
    rest.map BodyPart.item ++ [none], ?_, ?_, ?_, ?_⟩
  · rw [asgiChannelEvents_append, asgiChannelEvents_append, asgiChannelEvents_map, asgiChannelEvents_receive,
      List.append_nil]
    exact List.append_nil fs
  · rw [messages, EventMachine.history_snoc, hfinal, finals, List.filter_append]
    exact List.append_ne_nil_of_right_ne_nil _ (by simp)
  · rw [EventMachine.run_snoc]
    exact halone
  · rw [EventMachine.run_snoc]
    exact hdone

/-- An upload that breaks off is reported as complete. -/
theorem aborted_upload {L : Library} {fs : List ChannelEvent} {p : BodyPart}
    (hp : p ∈ (afterBody (received L fs).parts).head?) (hend : p ≠ .requestEnd) :
    ∃ es, asgiChannelEvents es <+: fs ∧ ¬ Truthful L es := by
  obtain ⟨rest, hafter⟩ : ∃ rest, afterBody (received L fs).parts = p :: rest := List.head?_eq_some_iff.mp hp
  have hparts : (bodyChunks (received L fs).parts).map .chunk ++ [p] <+: (received L fs).parts := by
    conv_rhs => rw [parts_eq (received L fs).parts, hafter]
    exact ⟨rest, by simp⟩
  obtain ⟨fs', f, hpre, -, hlast⟩ := received_part L hparts
  have hitem : p.item = none := by
    have hhead := head?_afterBody (received L fs).parts
    cases p with
    | chunk data => exact absurd hp (hhead data)
    | requestEnd | abort closed => rfl
  obtain ⟨es, items, hes, hfinal, -, -⟩ := alone_final (L := L) (fs' ++ [f]) (by
    rw [hlast]
    exact afterBody_append_end hitem)
  refine ⟨es, hes ▸ hpre, fun htruth => ?_⟩
  have hmem := (htruth.complete hfinal).1
  rw [hes, hlast] at hmem
  rcases List.mem_append.mp hmem with hmem | hmem
  · obtain ⟨data, -, he⟩ := List.mem_map.mp hmem
    nomatch he
  · exact hend (List.mem_singleton.mp hmem).symm

/-- A message that cannot be read tells the disconnect while the channel is open. -/
theorem unread_message {L : Library} {fs : List ChannelEvent} (hp : .abort false ∈ (received L fs).parts) :
    ∃ es, asgiChannelEvents es <+: fs ∧ ¬ Truthful L es := by
  obtain ⟨ps, rest, hparts⟩ := List.append_of_mem hp
  have hfirst : ps ++ [.abort false] <+: (received L fs).parts := ⟨rest, by rw [hparts]; simp⟩
  obtain ⟨fs', f, hpre, hbefore, hlast⟩ := received_part L hfirst
  obtain ⟨es, items, hes, -, halone, hdone⟩ := alone_final (L := L) (fs' ++ [f]) (by
    rw [hlast]
    exact afterBody_append_end rfl)
  obtain ⟨hover, hclosed⟩ : (received L (fs' ++ [f])).finished = true ∧ (received L (fs' ++ [f])).closed = false := by
    rw [received_snoc, ← hbefore] at hlast
    rw [received_snoc]
    exact Reception.step_abort hlast
  rw [hover, hclosed] at halone
  refine ⟨es ++ [.receive 0], ?_, fun htruth => ?_⟩
  · rw [asgiChannelEvents_append, hes]
    change fs' ++ [f] ++ [] <+: fs
    rwa [List.append_nil]
  · have hreceive := halone.receive_disconnect (L := L) hdone
    have hopen := htruth.disconnected (by
      rw [messages, EventMachine.history_snoc, hreceive]
      exact List.mem_append_right _ (List.mem_singleton.mpr rfl))
    rw [EventMachine.run_snoc] at hopen
    change (((asgiService L).run es).handle L (.receive 0)).1.serving.closed = true at hopen
    rw [hreceive, halone.closed] at hopen
    nomatch hopen

/-! ## A chunk after the end, with several callers -/

/-- The head of the request comes with a message. -/
theorem received_head (L : Library) {fs : List ChannelEvent} (h : (received L fs).head = true) :
    ∃ pre m post, fs = pre ++ .message m :: post ∧ (received L pre).head = false ∧
      (received L (pre ++ [.message m])).head = true := by
  induction fs using List.reverseRecOn with
  | nil => nomatch h
  | append_singleton fs f ih =>
    by_cases hbefore : (received L fs).head = true
    · obtain ⟨pre, m, post, rfl, hpre, hm⟩ := ih hbefore
      exact ⟨pre, m, post ++ [f], by simp, hpre, hm⟩
    · cases f with
      | message m => exact ⟨fs, m, [], rfl, Bool.eq_false_iff.mpr hbefore, h⟩
      | closed =>
        rw [received_snoc] at h
        exact absurd h hbefore
      | ended =>
        rw [received_snoc] at h
        change (if (received L fs).finished then received L fs
          else { (received L fs).add (.abort true) with closed := true, finished := true }).head = true at h
        split at h <;> exact absurd h hbefore

/-- Callers that come before the first chunk wait in their order. -/
theorem callers_wait {L : Library} (rs : List Nat) : ∀ (es : List AsgiEvent) (before : List Nat) (ex : HttpExchange),
    ((asgiService L).run es).serving.exchange = some ex → ex.body = ⟨[], before, []⟩ →
      ((asgiService L).run es).body_done = false → ((asgiService L).run es).watchers = [] → (before ++ rs).Nodup →
      ∃ ex', ((asgiService L).run (es ++ rs.map .receive)).serving.exchange = some ex' ∧
        ex'.body = ⟨[], before ++ rs, []⟩ := by
  induction rs with
  | nil =>
    intro es before ex hex hbody _ _ _
    exact ⟨ex, by simpa using hex, by simpa using hbody⟩
  | cons r rs ih =>
    intro es before ex hex hbody hdone hwatchers hnodup
    have hr : r ∉ before := by
      have := List.disjoint_of_nodup_append hnodup
      exact fun hm => this hm List.mem_cons_self
    have hidle : ¬ ex.body.Waits r := by simp [hbody, AsyncQueue.Waits, hr]
    have hbusy : ¬ ((asgiService L).run es).Busy r := by
      rintro (hw | ⟨ex', hex', hw⟩)
      · rw [hwatchers] at hw
        cases hw
      · obtain rfl := Option.some.inj (hex.symm.trans hex')
        exact hidle hw
    have hread := HttpExchange.readChunk_idle hidle
    have hreturned : ((asgiService L).run es).serving.returned (.reading (.read r)) = [] := by
      rw [HttpServing.returned, hex]
      change (ex.readChunk (.read r)).1.toList = []
      rw [hread, hbody]
      rfl
    have hstep : (asgiService L).run (es ++ [.receive r]) =
        { (asgiService L).run es with
          serving := ((asgiService L).run es).serving.step L (.reading (.read r)) } := by
      rw [EventMachine.run_snoc]
      change (((asgiService L).run es).handle L (.receive r)).1 = _
      unfold AsgiServing.handle
      dsimp only
      rw [if_neg hbusy, if_neg (by simp [hdone]), hreturned, AsgiServing.forward, AsgiServing.httpEvent,
        if_neg (by simp [hbusy, hdone])]
      rfl
    have hrest := ih (es ++ [.receive r]) (before ++ [r]) (ex.readChunk (.read r)).2
    rw [hstep, List.append_assoc, List.append_assoc] at hrest
    refine hrest ?_ ?_ hdone hwatchers hnodup
    · change ((asgiService L).run es).serving.exchange.map _ = _
      rw [hex]
      rfl
    · rw [hread, hbody]
      rfl

/-- Callers that were woken take the items of the queue in their order. -/
theorem callers_take {L : Library} (rs : List Nat) : ∀ (es : List AsgiEvent) (xs ys : List (Option Bytes))
    (ex : HttpExchange), ((asgiService L).run es).serving.exchange = some ex → ex.body = ⟨xs ++ ys, [], rs⟩ →
      xs.length = rs.length →
      results L (httpEvents L (es ++ rs.map .resume)) = results L (httpEvents L es) ++ xs := by
  induction rs with
  | nil =>
    intro es xs ys ex _ _ hlength
    obtain rfl := List.length_eq_zero_iff.mp hlength
    simp
  | cons r rs ih =>
    intro es xs ys ex hex hbody hlength
    obtain ⟨x, xs, rfl⟩ := List.exists_cons_of_length_pos (by rw [hlength]; exact Nat.succ_pos _)
    have hresume : ex.body.resume r = (some x, ⟨xs ++ ys, [], rs⟩) := by
      rw [hbody]
      simp [AsyncQueue.resume, AsyncQueue.get]
    have hreturned : ((asgiService L).run es).returned (.resume r) = [x] := by
      rw [AsgiServing.returned, AsgiServing.httpEvent, Option.elim_some, HttpServing.returned, hex]
      change (HttpExchange.putBack (ex.body.resume r)).1.toList = [x]
      rw [hresume]
      cases x <;> rfl
    have hexchange : ((asgiService L).run (es ++ [.resume r])).serving.exchange = some (ex.readChunk (.resume r)).2 := by
      rw [EventMachine.run_snoc]
      change (((asgiService L).run es).handle L (.resume r)).1.serving.exchange = _
      rw [AsgiServing.handle_serving]
      change ((asgiService L).run es).serving.exchange.map _ = _
      rw [hex]
      rfl
    have hrest := fun ys' h => ih (es ++ [.resume r]) xs ys' (ex.readChunk (.resume r)).2 hexchange h
      (Nat.succ.inj hlength)
    rw [results_snoc, hreturned, List.append_assoc, List.append_assoc] at hrest
    cases x with
    | some data =>
      refine hrest ys ?_
      change (HttpExchange.putBack (ex.body.resume r)).2 = _
      rw [hresume]
      rfl
    | none =>
      refine hrest (ys ++ [none]) ?_
      change (HttpExchange.putBack (ex.body.resume r)).2 = _
      rw [hresume]
      simp [HttpExchange.putBack, AsyncQueue.putNowait, AsyncQueue.wakeupNext]

/-- The queue at the head of the request. -/
theorem begun_empty {L : Library} {pre : List ChannelEvent} {m : Message} (hpre : (received L pre).head = false)
    (hm : (received L (pre ++ [.message m])).head = true) :
    (received L (pre ++ [.message m])).parts = [] ∧
      ((pre ++ [ChannelEvent.message m]).foldl (HttpServing.channel L) .init).queue = some .empty := by
  obtain ⟨results, hreads⟩ := (untouched_init.channels (L := L) pre).reads
  have hnone : (pre.foldl (HttpServing.channel L) .init).queue = none := by
    have hbegun : (pre.foldl (HttpServing.channel L) .init).queue.isSome = false := hreads.body.begun.trans hpre
    simpa using hbegun
  have hparts : (received L pre).parts = [] := (hreads.body.fresh hnone).1
  rw [received_snoc] at hm ⊢
  rw [List.foldl_append, List.foldl_cons, List.foldl_nil]
  cases hreads.grows (L := L) (.message m) with
  | same hhead => exact absurd (hpre.symm.trans (hhead.symm.trans hm)) Bool.false_ne_true
  | begins _ hsome _ hsame => exact ⟨hsame.trans hparts, hsome⟩
  | part p hhead => exact absurd (hpre.symm.trans (hhead.symm.trans hm)) Bool.false_ne_true

/-- With enough callers that wait from the start, every part of the body goes to one of them. -/
theorem callers_take_all {L : Library} {fs : List ChannelEvent} (hhead : (received L fs).head = true) :
    ∃ es before, asgiChannelEvents es = fs ∧
      results L (httpEvents L es) = before ++ (received L fs).parts.map BodyPart.item := by
  obtain ⟨pre, m, post, rfl, hpre, hm⟩ := received_head L hhead
  obtain ⟨hparts, hqueue⟩ := begun_empty hpre hm
  obtain ⟨ex, hex, hbody⟩ := Option.map_eq_some_iff.mp hqueue
  have hfs : pre ++ ChannelEvent.message m :: post = (pre ++ [ChannelEvent.message m]) ++ post := by simp
  have hreceived : received L (pre ++ ChannelEvent.message m :: post) =
      post.foldl (Reception.step L) (received L (pre ++ [ChannelEvent.message m])) := by
    rw [hfs, received, List.foldl_append]
    rfl
  have hrun := run_channels L [] (pre ++ [ChannelEvent.message m])
  rw [List.nil_append, EventMachine.run_nil] at hrun
  obtain ⟨ex₁, hex₁, hbody₁⟩ := callers_wait (L := L) (List.range (received L (pre ++ ChannelEvent.message m :: post)).parts.length)
    ((pre ++ [ChannelEvent.message m]).map AsgiEvent.channel) [] ex (by rw [hrun]; exact hex) hbody (by rw [hrun]; rfl) (by rw [hrun]; rfl)
    (by simpa using List.nodup_range)
  generalize hes₁ : (pre ++ [ChannelEvent.message m]).map AsgiEvent.channel ++
    (List.range (received L (pre ++ ChannelEvent.message m :: post)).parts.length).map AsgiEvent.receive = es₁ at hex₁
  have hevents₁ : asgiChannelEvents es₁ = pre ++ [.message m] := by
    rw [← hes₁, asgiChannelEvents_append, asgiChannelEvents_map, asgiChannelEvents_receive, List.append_nil]
  have huntouched : Untouched (List.range (received L (pre ++ ChannelEvent.message m :: post)).parts.length)
      (received L (pre ++ [ChannelEvent.message m])) ((asgiService L).run es₁).serving := by
    have hreads := reads_run L (httpEvents L es₁)
    rw [← run_serving, channelEvents_httpEvents, hevents₁] at hreads
    refine ⟨⟨_, hreads⟩, fun hnone => ?_, fun q hq => ?_⟩
    · rw [HttpServing.queue, hex₁] at hnone
      cases hnone
    · rw [HttpServing.queue, hex₁] at hq
      cases hq
      rw [hbody₁, hparts]
      exact ⟨rfl, rfl, Or.inr rfl⟩
  have hafter := huntouched.channels (L := L) post
  rw [← hreceived] at hafter
  have hserving := congrArg AsgiServing.serving (run_channels L es₁ post)
  dsimp only at hserving
  obtain ⟨ex₂, hex₂, hbody₂⟩ : ∃ ex₂, ((asgiService L).run (es₁ ++ post.map AsgiEvent.channel)).serving.exchange = some ex₂ ∧
      ex₂.body = ⟨(received L (pre ++ ChannelEvent.message m :: post)).parts.map BodyPart.item, [],
        List.range (received L (pre ++ ChannelEvent.message m :: post)).parts.length⟩ := by
    rw [hserving]
    rcases hq : (post.foldl (HttpServing.channel L) ((asgiService L).run es₁).serving).queue with _ | q
    · obtain ⟨results, hreads⟩ := hafter.reads
      have hbegun := hreads.body.begun
      rw [hq, hhead] at hbegun
      cases hbegun
    · obtain ⟨ex₂, hex₂, rfl⟩ := Option.map_eq_some_iff.mp hq
      have hfilled := hafter.filled _ hq
      refine ⟨ex₂, hex₂, ?_⟩
      rcases hbody₂ : ex₂.body with ⟨items, getters, woken⟩
      rw [hbody₂] at hfilled
      have hitems := hfilled.items
      have hreaders := hfilled.readers
      have hwoken := hfilled.woken
      dsimp only at hitems hreaders hwoken
      have hgetters : getters = [] := by
        refine hwoken.elim id (fun hlength => List.length_eq_zero_iff.mp ?_)
        have htotal := congrArg List.length hreaders
        rw [List.length_append, List.length_range, hlength, hitems, List.length_map] at htotal
        omega
      rw [hgetters, List.append_nil] at hreaders
      rw [hitems, hgetters, hreaders]
  refine ⟨es₁ ++ post.map AsgiEvent.channel ++
    (List.range (received L (pre ++ ChannelEvent.message m :: post)).parts.length).map AsgiEvent.resume,
    results L (httpEvents L (es₁ ++ post.map AsgiEvent.channel)), ?_, ?_⟩
  · rw [asgiChannelEvents_append, asgiChannelEvents_append, asgiChannelEvents_map, asgiChannelEvents_resume, hevents₁,
      List.append_nil, hfs]
  · exact callers_take _ _ _ [] ex₂ hex₂ (by rw [hbody₂, List.append_nil]) (by simp)

/-- A caller of several can be given a chunk that comes after the end of the body. -/
theorem late_chunk {L : Library} {fs : List ChannelEvent} {data : Bytes}
    (hp : .chunk data ∈ afterBody (received L fs).parts) : ∃ es, asgiChannelEvents es <+: fs ∧ ¬ Truthful L es := by
  obtain ⟨pre, post, hafter⟩ := List.append_of_mem hp
  have hfirst : bodyChunks (pre ++ [.chunk data]) = [] := by
    have hhead := head?_afterBody (received L fs).parts
    rw [hafter] at hhead
    rcases pre with _ | ⟨_ | _ | _, pre⟩
    · exact absurd rfl (hhead data)
    · exact absurd rfl (hhead _)
    · rfl
    · rfl
  have hpart : (bodyChunks (received L fs).parts).map .chunk ++ pre ++ [.chunk data] <+: (received L fs).parts := by
    conv_rhs => rw [parts_eq (received L fs).parts, hafter]
    exact ⟨post, by simp⟩
  obtain ⟨fs', f, hpre, -, hlast⟩ := received_part L hpart
  have hhead : (received L (fs' ++ [f])).head = true := by
    obtain ⟨results, hreads⟩ := (untouched_init.channels (L := L) (fs' ++ [f])).reads
    change Reads (received L (fs' ++ [f])) _ _ at hreads
    rw [← hreads.body.begun]
    by_contra hnone
    have hfresh := (hreads.body.fresh (by simpa using hnone)).1
    rw [hlast] at hfresh
    simp at hfresh
  obtain ⟨es, before, hes, hresults⟩ := callers_take_all hhead
  refine ⟨es, hes ▸ hpre, fun htruth => ?_⟩
  have hlength := htruth.chunks.length_le
  have hmap : afterBody ((bodyChunks (received L fs).parts).map .chunk) = [] ∧
      bodyChunks ((bodyChunks (received L fs).parts).map .chunk) = bodyChunks (received L fs).parts := by
    generalize bodyChunks (received L fs).parts = chunks
    induction chunks with
    | nil => exact ⟨rfl, rfl⟩
    | cons data chunks ih => exact ⟨ih.1, congrArg (data :: ·) ih.2⟩
  rw [(tells_run L es).bodies, hresults, hes, hlast, List.append_assoc, bodyChunks_append, if_pos hmap.1, hmap.2, hfirst]
    at hlength
  simp [Function.comp_def, BodyPart.item, List.filterMap_map] at hlength
  omega

/-- In every run of an application on the frames of a channel, with any number of callers at once, the messages of `receive`
tell the truth exactly if the upload is complete: the end of the body comes before the iterator ends, nothing but ends follows
it, and no message ends the iterator while the channel is open. -/
theorem receive_truthful_iff (L : Library) (fs : List ChannelEvent) :
    (∀ es, asgiChannelEvents es <+: fs → Truthful L es) ↔ UploadComplete (received L fs).parts := by
  constructor
  · intro h
    have hno : ¬ ∃ es, asgiChannelEvents es <+: fs ∧ ¬ Truthful L es := fun ⟨es, hes, hnot⟩ => hnot (h es hes)
    refine ⟨fun p hp => ?_, fun p hp => ?_⟩
    · by_contra hend
      exact hno (aborted_upload hp hend)
    · cases p with
      | chunk data => exact absurd (late_chunk hp) hno
      | requestEnd => exact Or.inl rfl
      | abort closed =>
        cases closed with
        | true => exact Or.inr rfl
        | false =>
          refine absurd (unread_message ?_) hno
          rw [parts_eq (received L fs).parts]
          exact List.mem_append_right _ hp
  · intro h es hp
    obtain ⟨more, hparts⟩ := received_earlier L hp
    rw [hparts] at h
    exact truthful_of_complete h.of_append

/-- A head and a chunk, then the channel ends. -/
def sampleBroken : List ChannelEvent :=
  [.message (.text "\x7b\"type\":\"http_request\"\x7d"), .message (.bytes [7]), .closed, .ended]

/-- The application calls `receive` twice. -/
def sampleBrokenReceive : List AsgiEvent := sampleBroken.map .channel ++ [.receive 0, .receive 0]

/-- The upload that broke off is reported as complete. -/
theorem broken_upload_complete : ¬ ∀ L fs es, asgiChannelEvents es <+: fs → Truthful L es := by
  intro h
  have htruth := h sampleLibrary sampleBroken sampleBrokenReceive (List.prefix_refl sampleBroken)
  have hmessages : messages sampleLibrary sampleBrokenReceive = [.request [7] true, .request [] false] := by rfl
  have hend := (htruth.complete (by rw [hmessages]; exact List.cons_ne_nil _ _)).1
  have hparts : (received sampleLibrary (asgiChannelEvents sampleBrokenReceive)).parts = [.chunk [7], .abort true] := by rfl
  rw [hparts] at hend
  simp at hend

end Python

end ZclaudiaGateway
