import Mathlib.Tactic.Basic
import ZclaudiaGateway.Sdk.Asgi

/-!
# The body of a request

What the frames of a channel say the body of its request is: the parts that come after the head, until the channel iterator
ends. Then what `HttpExchange` keeps of them in its queue, and what every event of the service does to the queue.
-/

namespace ZclaudiaGateway

namespace Python

/-! ## The parts of a body -/

/-- A part of a request body as it arrives. The iterator ends in an abort; `closed` tells whether the channel was closed then. -/
inductive BodyPart where
  | chunk (data : Bytes)
  | requestEnd
  | abort (closed : Bool)
deriving DecidableEq

/-- The chunks before the first end or abort. -/
def bodyChunks : List BodyPart → List Bytes
  | .chunk data :: parts => data :: bodyChunks parts
  | _ => []

/-- The parts from the first end or abort on. -/
def afterBody : List BodyPart → List BodyPart
  | .chunk _ :: parts => afterBody parts
  | parts => parts

/-- What the exchange puts in its queue for a part. -/
def BodyPart.item : BodyPart → Option Bytes
  | chunk data => some data
  | _ => none

theorem parts_eq (parts : List BodyPart) : parts = (bodyChunks parts).map .chunk ++ afterBody parts := by
  induction parts with
  | nil => rfl
  | cons p parts ih =>
    cases p with
    | chunk data => simpa [bodyChunks, afterBody] using ih
    | requestEnd => rfl
    | abort closed => rfl

/-- What follows the chunks starts with no chunk. -/
theorem head?_afterBody (parts : List BodyPart) (data : Bytes) : (afterBody parts).head? ≠ some (.chunk data) := by
  induction parts with
  | nil => simp [afterBody]
  | cons p parts ih => cases p <;> simp [afterBody, ih]

theorem afterBody_append (parts more : List BodyPart) :
    afterBody (parts ++ more) = if afterBody parts = [] then afterBody more else afterBody parts ++ more := by
  induction parts with
  | nil => rfl
  | cons p parts ih =>
    cases p with
    | chunk data => exact ih
    | requestEnd | abort closed => rfl

theorem bodyChunks_append (parts more : List BodyPart) :
    bodyChunks (parts ++ more) = if afterBody parts = [] then bodyChunks parts ++ bodyChunks more else bodyChunks parts := by
  induction parts with
  | nil => simp [afterBody, bodyChunks]
  | cons p parts ih =>
    cases p with
    | chunk data =>
      change data :: bodyChunks (parts ++ more) =
        if afterBody parts = [] then data :: (bodyChunks parts ++ bodyChunks more) else data :: bodyChunks parts
      rw [ih]
      split <;> rfl
    | requestEnd | abort closed => rfl

/-- A part that is no chunk adds nothing to the chunks. -/
theorem bodyChunks_append_end {parts : List BodyPart} {p : BodyPart} (hp : p.item = none) :
    bodyChunks (parts ++ [p]) = bodyChunks parts := by
  have hnone : bodyChunks [p] = [] := by
    cases p with
    | chunk data => nomatch hp
    | requestEnd | abort closed => rfl
  rw [bodyChunks_append, hnone, List.append_nil, ite_self]

/-- It ends the body. -/
theorem afterBody_append_end {parts : List BodyPart} {p : BodyPart} (hp : p.item = none) :
    afterBody (parts ++ [p]) ≠ [] := by
  have hself : afterBody [p] = [p] := by
    cases p with
    | chunk data => nomatch hp
    | requestEnd | abort closed => rfl
  rw [afterBody_append, hself]
  split <;> simp

/-- No chunk comes after the end of the body. -/
def NothingAfterEnd (parts : List BodyPart) : Prop := ∀ data, .chunk data ∉ afterBody parts

theorem NothingAfterEnd.of_append {parts more : List BodyPart} (h : NothingAfterEnd (parts ++ more)) :
    NothingAfterEnd parts := by
  intro data hd
  refine h data ?_
  rw [afterBody_append, if_neg (List.ne_nil_of_mem hd)]
  exact List.mem_append_left _ hd

/-- The result of the call of `read_chunk` number `i`, nothing when the body has not come so far. -/
def due (parts : List BodyPart) (i : Nat) : Option (Option Bytes) :=
  match (bodyChunks parts)[i]? with
  | some data => some (some data)
  | none => if afterBody parts = [] then none else some none

theorem due_of_lt {parts : List BodyPart} {i : Nat} (h : i < (bodyChunks parts).length) :
    due parts i = some (some ((bodyChunks parts).get ⟨i, h⟩)) := by
  simp [due, h]

theorem due_of_le {parts : List BodyPart} {i : Nat} (h : (bodyChunks parts).length ≤ i) :
    due parts i = if afterBody parts = [] then none else some none := by
  simp [due, List.getElem?_eq_none h]

/-- A result that is due stays the result. -/
theorem due_append {parts : List BodyPart} {i : Nat} {result : Option Bytes} (h : due parts i = some result)
    (more : List BodyPart) : due (parts ++ more) i = some result := by
  by_cases hend : afterBody parts = []
  · by_cases hi : i < (bodyChunks parts).length
    · have hchunks : bodyChunks (parts ++ more) = bodyChunks parts ++ bodyChunks more := by
        rw [bodyChunks_append, if_pos hend]
      rw [due_of_lt hi] at h
      rw [due_of_lt (by rw [hchunks, List.length_append]; omega), ← h]
      simp [hchunks, hi]
    · rw [due_of_le (not_lt.mp hi), if_pos hend] at h
      nomatch h
  · unfold due at h ⊢
    rw [bodyChunks_append, if_neg hend, afterBody_append, if_neg hend]
    rw [if_neg hend] at h
    rw [if_neg (by simp [hend])]
    exact h

/-! ## The frames of a channel -/

/-- What the events of a channel come to: whether the head of the request has come, whether the channel is closed, whether the
iterator has ended, and the parts of the body. -/
structure Reception where
  head : Bool
  closed : Bool
  finished : Bool
  parts : List BodyPart

namespace Reception

/-- Before the first message. -/
def init : Reception := { head := false, closed := false, finished := false, parts := [] }

/-- A part counts once the head has come. -/
def add (c : Reception) (p : BodyPart) : Reception := { c with parts := if c.head then c.parts ++ [p] else c.parts }

/-- A message, while the iterator goes on. -/
def receive (L : Library) (c : Reception) (m : Message) : Reception :=
  match frameOf L m with
  | .chunk data => c.add (.chunk data)
  | .request _ => { c with head := true }
  | .requestEnd => c.add .requestEnd
  | .ignored => c
  | .error => { c.add (.abort c.closed) with finished := true }

/-- An event of the channel. -/
def step (L : Library) (c : Reception) : ChannelEvent → Reception
  | .message m => if c.finished then c else c.receive L m
  | .closed => { c with closed := true }
  | .ended => if c.finished then c else { c.add (.abort true) with closed := true, finished := true }

end Reception

/-- What a list of events comes to. -/
def received (L : Library) (fs : List ChannelEvent) : Reception := fs.foldl (Reception.step L) .init

@[simp] theorem received_snoc (L : Library) (fs : List ChannelEvent) (f : ChannelEvent) :
    received L (fs ++ [f]) = (received L fs).step L f := by
  simp [received]

/-- The event of the channel, if it is one. -/
def HttpEvent.onChannel : HttpEvent → Option ChannelEvent
  | channel e => some e
  | _ => none

/-- An event of a channel adds one part at most. -/
theorem Reception.step_parts (L : Library) (c : Reception) (f : ChannelEvent) :
    (c.step L f).parts = c.parts ∨ ∃ p, (c.step L f).parts = c.parts ++ [p] := by
  have hadd (p : BodyPart) : (c.add p).parts = c.parts ∨ ∃ p', (c.add p).parts = c.parts ++ [p'] := by
    unfold Reception.add
    by_cases hh : c.head
    · exact Or.inr ⟨p, by simp [hh]⟩
    · exact Or.inl (by simp [hh])
  cases f with
  | message m =>
    change (if c.finished then c else c.receive L m).parts = c.parts ∨
      ∃ p, (if c.finished then c else c.receive L m).parts = c.parts ++ [p]
    split
    · exact Or.inl rfl
    · unfold Reception.receive
      split
      · exact hadd _
      · exact Or.inl rfl
      · exact hadd _
      · exact Or.inl rfl
      · exact hadd _
  | closed => exact Or.inl rfl
  | ended =>
    change (if c.finished then c else { c.add (.abort true) with closed := true, finished := true }).parts = c.parts ∨
      ∃ p, (if c.finished then c else { c.add (.abort true) with closed := true, finished := true }).parts = c.parts ++ [p]
    split
    · exact Or.inl rfl
    · exact hadd _

/-- Only a message that cannot be read ends the iterator of an open channel. -/
theorem Reception.step_abort {L : Library} {c : Reception} {f : ChannelEvent}
    (h : (c.step L f).parts = c.parts ++ [.abort false]) : (c.step L f).finished = true ∧ (c.step L f).closed = false := by
  have hnone : c.parts ≠ c.parts ++ [.abort false] := by simp
  have hadd {p : BodyPart} (h : (c.add p).parts = c.parts ++ [.abort false]) : p = .abort false := by
    unfold Reception.add at h
    by_cases hh : c.head
    · simpa [hh] using h
    · simp [hh] at h
  cases f with
  | message m =>
    change (if c.finished then c else c.receive L m).parts = _ at h
    change (if c.finished then c else c.receive L m).finished = true ∧ (if c.finished then c else c.receive L m).closed = false
    split at h
    · exact absurd h hnone
    · rename_i hover
      rw [if_neg hover]
      unfold Reception.receive at h ⊢
      cases hframe : frameOf L m with
      | chunk data => rw [hframe] at h; nomatch hadd h
      | requestEnd => rw [hframe] at h; nomatch hadd h
      | request request => rw [hframe] at h; exact absurd h hnone
      | ignored => rw [hframe] at h; exact absurd h hnone
      | error =>
        rw [hframe] at h
        exact ⟨rfl, BodyPart.abort.inj (hadd h)⟩
  | closed => exact absurd h hnone
  | ended =>
    change (if c.finished then c else { c.add (.abort true) with closed := true, finished := true }).parts = _ at h
    split at h
    · exact absurd h hnone
    · nomatch hadd h

theorem received_earlier (L : Library) {fs fs' : List ChannelEvent} (hp : fs <+: fs') :
    ∃ more, (received L fs').parts = (received L fs).parts ++ more := by
  obtain ⟨rest, rfl⟩ := hp
  induction rest using List.reverseRecOn with
  | nil => exact ⟨[], by simp⟩
  | append_singleton rest f ih =>
    obtain ⟨more, hmore⟩ := ih
    rw [← List.append_assoc, received_snoc]
    rcases Reception.step_parts L (received L (fs ++ rest)) f with hsame | ⟨p, hp⟩
    · exact ⟨more, hsame.trans hmore⟩
    · exact ⟨more ++ [p], by rw [hp, hmore, List.append_assoc]⟩

/-- Every part came with an event. -/
theorem received_part (L : Library) {fs : List ChannelEvent} {ps : List BodyPart} {p : BodyPart}
    (hp : ps ++ [p] <+: (received L fs).parts) :
    ∃ fs' f, fs' ++ [f] <+: fs ∧ (received L fs').parts = ps ∧ (received L (fs' ++ [f])).parts = ps ++ [p] := by
  induction fs using List.reverseRecOn with
  | nil => simp [received, Reception.init] at hp
  | append_singleton fs f ih =>
    have hearlier : ps ++ [p] <+: (received L fs).parts →
        ∃ fs' f', fs' ++ [f'] <+: fs ++ [f] ∧ (received L fs').parts = ps ∧ (received L (fs' ++ [f'])).parts = ps ++ [p] := by
      intro hp
      obtain ⟨fs', f', hpre, h⟩ := ih hp
      exact ⟨fs', f', hpre.trans (List.prefix_append _ _), h⟩
    rw [received_snoc] at hp
    rcases Reception.step_parts L (received L fs) f with hsame | ⟨p', hp'⟩
    · exact hearlier (hsame ▸ hp)
    · rw [hp'] at hp
      rcases List.prefix_concat_iff.mp hp with he | hp
      · obtain ⟨rfl, hlast⟩ := List.append_inj' he rfl
        rw [List.singleton_inj] at hlast
        subst hlast
        exact ⟨fs, f, List.prefix_refl _, rfl, by rw [received_snoc, hp']⟩
      · exact hearlier hp

/-! ## The queue of the body -/

/-- With `n` results returned, the queue holds the chunks that are left, then end markers if the body has ended. -/
structure Queued (parts : List BodyPart) (n : Nat) (items : List (Option Bytes)) : Prop where
  items : ∃ k, items = ((bodyChunks parts).drop n).map some ++ List.replicate k none ∧ (0 < k ↔ afterBody parts ≠ [])
  bound : n ≤ (bodyChunks parts).length ∨ afterBody parts ≠ []

namespace Queued

variable {parts : List BodyPart} {n : Nat} {items : List (Option Bytes)}

theorem nil : Queued [] 0 [] := ⟨⟨0, rfl, by simp [afterBody]⟩, Or.inl (Nat.zero_le _)⟩

/-- The next result is the head of the queue. -/
theorem head? (h : Queued parts n items) : items.head? = due parts n := by
  obtain ⟨k, rfl, hk⟩ := h.items
  by_cases hn : n < (bodyChunks parts).length
  · rw [due_of_lt hn, List.drop_eq_getElem_cons hn]
    rfl
  · rw [due_of_le (not_lt.mp hn), List.drop_eq_nil_of_le (not_lt.mp hn), List.map_nil, List.nil_append]
    cases k with
    | zero => rw [if_pos (by simpa using hk)]; rfl
    | succ k => rw [if_neg (hk.mp (Nat.succ_pos k))]; rfl

/-- A part that arrives is put behind what is left. -/
theorem put (h : Queued parts n items) {p : BodyPart} (hp : NothingAfterEnd (parts ++ [p])) :
    Queued (parts ++ [p]) n (items ++ [p.item]) := by
  obtain ⟨k, rfl, hk⟩ := h.items
  cases p with
  | chunk data =>
    have hend : afterBody parts = [] := by
      by_contra hend
      refine hp data ?_
      rw [afterBody_append, if_neg hend]
      exact List.mem_append_right _ (List.mem_singleton.mpr rfl)
    have hn : n ≤ (bodyChunks parts).length := h.bound.resolve_right (not_not_intro hend)
    obtain rfl : k = 0 := by
      by_contra hk0
      exact hk.mp (Nat.pos_of_ne_zero hk0) hend
    refine ⟨⟨0, ?_, ?_⟩, Or.inl ?_⟩
    · simp [bodyChunks_append, hend, bodyChunks, List.drop_append_of_le_length hn, BodyPart.item]
    · simp [afterBody_append, hend, afterBody]
    · rw [bodyChunks_append, if_pos hend, List.length_append]
      exact Nat.le_add_right_of_le hn
  | requestEnd | abort closed =>
    refine ⟨⟨k + 1, ?_, ?_⟩, Or.inr ?_⟩
    · rw [bodyChunks_append_end rfl, List.replicate_succ', List.append_assoc]
      rfl
    · exact iff_of_true (Nat.succ_pos k) (afterBody_append_end rfl)
    · exact afterBody_append_end rfl

/-- A chunk is taken. -/
theorem take {data : Bytes} (h : Queued parts n (some data :: items)) : Queued parts (n + 1) items := by
  obtain ⟨k, he, hk⟩ := h.items
  by_cases hn : n < (bodyChunks parts).length
  · rw [List.drop_eq_getElem_cons hn, List.map_cons, List.cons_append] at he
    exact ⟨⟨k, (List.cons.inj he).2, hk⟩, Or.inl hn⟩
  · rw [List.drop_eq_nil_of_le (not_lt.mp hn), List.map_nil, List.nil_append] at he
    cases k with
    | zero => nomatch he
    | succ k => nomatch he

/-- The end marker is taken and put back. -/
theorem turn (h : Queued parts n (none :: items)) : Queued parts (n + 1) (items ++ [none]) := by
  obtain ⟨k, he, hk⟩ := h.items
  have hn : (bodyChunks parts).length ≤ n := by
    by_contra hn
    rw [List.drop_eq_getElem_cons (not_le.mp hn), List.map_cons, List.cons_append] at he
    nomatch he
  rw [List.drop_eq_nil_of_le hn, List.map_nil, List.nil_append] at he
  cases k with
  | zero => nomatch he
  | succ k =>
    rw [List.replicate_succ, List.cons.injEq] at he
    refine ⟨⟨k + 1, ?_, hk⟩, Or.inr (hk.mp (Nat.succ_pos k))⟩
    rw [List.drop_eq_nil_of_le (Nat.le_succ_of_le hn), List.map_nil, List.nil_append, List.replicate_succ', he.2]

end Queued

/-! ## What an event does to the queue -/

/-- A reader gets the head of the queue, if it gets anything; an end marker goes to the end of the queue. -/
inductive Taken (q : AsyncQueue (Option Bytes)) : Option (Option Bytes) → AsyncQueue (Option Bytes) → Prop where
  | waits {q'} : q'.items = q.items → Taken q none q'
  | chunk {q'} (data : Bytes) : q.items = some data :: q'.items → Taken q (some (some data)) q'
  | ended {q'} (rest : List (Option Bytes)) : q.items = none :: rest → q'.items = rest ++ [none] → Taken q (some none) q'

namespace HttpExchange

/-- What is taken is the head of the queue. -/
theorem taken_putBack {q q' : AsyncQueue (Option Bytes)} {result : Option (Option Bytes)}
    (h : result = none ∧ q'.items = q.items ∨ ∃ a, result = some a ∧ q.items = a :: q'.items) :
    Taken q (putBack (result, q')).1 (putBack (result, q')).2 := by
  obtain ⟨rfl, hitems⟩ | ⟨_ | data, rfl, hitems⟩ := h
  · exact .waits hitems
  · exact .ended q'.items hitems (by simp [putBack])
  · exact .chunk data hitems

theorem alert_putBack {q : AsyncQueue (Option Bytes)} (h : q.Alert) (result : Option (Option Bytes)) :
    (putBack (result, q)).2.Alert := by
  unfold putBack
  split
  · rename_i hp
    obtain ⟨-, rfl⟩ := Prod.mk.inj hp
    exact h.putNowait none
  · rename_i hp
    obtain ⟨-, rfl⟩ := Prod.mk.inj hp
    exact h

/-- A reader that waits does not call again. -/
theorem readChunk_busy {ex : HttpExchange} {r : Nat} (hr : ex.body.Waits r) : ex.readChunk (.read r) = (none, ex) := if_pos hr

theorem readChunk_idle {ex : HttpExchange} {r : Nat} (hr : ¬ ex.body.Waits r) :
    ex.readChunk (.read r) = ((putBack (ex.body.get r)).1, { ex with body := (putBack (ex.body.get r)).2 }) := if_neg hr

theorem readChunk_taken (ex : HttpExchange) (e : Reading) :
    Taken ex.body (ex.readChunk e).1 (ex.readChunk e).2.body := by
  cases e with
  | read r =>
    by_cases hr : ex.body.Waits r
    · rw [readChunk_busy hr]
      exact .waits rfl
    · rw [readChunk_idle hr]
      exact taken_putBack (ex.body.get_cons_or r)
  | resume r => exact taken_putBack (ex.body.resume_cons_or r)
  | cancel r => exact .waits (by simp [readChunk])

theorem readChunk_alert {ex : HttpExchange} (h : ex.body.Alert) (e : Reading) : (ex.readChunk e).2.body.Alert := by
  cases e with
  | read r =>
    by_cases hr : ex.body.Waits r
    · rwa [readChunk_busy hr]
    · rw [readChunk_idle hr]
      exact alert_putBack (h.get r) _
  | resume r => exact alert_putBack (h.resume r) _
  | cancel r => exact h.cancel r

theorem send_body (ex : HttpExchange) (closed cancelled : Bool) (data : Sent) :
    (ex.send closed cancelled data).1.body = ex.body := by
  unfold send
  split <;> [rfl; split <;> [rfl; split <;> rfl]]

theorem start_body (ex : HttpExchange) (closed cancelled : Bool) (status headers : PyValue) :
    (ex.start closed cancelled status headers).1.body = ex.body := by
  unfold start
  split
  · rfl
  · split
    · exact send_body _ _ _ _
    · rfl

theorem write_body (ex : HttpExchange) (closed cancelled : Bool) (chunk : Chunk) :
    (ex.write closed cancelled chunk).1.body = ex.body := by
  unfold write
  split
  · rfl
  · split
    · rfl
    · exact send_body _ _ _ _

end HttpExchange

namespace HttpServing

/-- The queue of the exchange, once it has begun. -/
def queue (s : HttpServing) : Option (AsyncQueue (Option Bytes)) := s.exchange.map HttpExchange.body

theorem call_queue (s : HttpServing) (c : HandlerCall) : (s.call c).queue = s.queue := by
  unfold call queue
  split
  · rfl
  · rename_i ex hex
    cases c with
    | start status headers cancelled => simp [answered, hex, HttpExchange.start_body]
    | write chunk cancelled => simp [answered, hex, HttpExchange.write_body]

theorem finish_queue (s : HttpServing) (outcome : Option PyException) : (s.finish outcome).queue = s.queue := by
  unfold finish queue
  split
  · rfl
  · rename_i ex hex
    have hbody : (if ex.started then (ex, [], none) else ex.start s.closed false (.int 500) .none).1.body = ex.body := by
      split
      · rfl
      · exact HttpExchange.start_body _ _ _ _ _
    rcases outcome with _ | _ | _ | _ <;> simp [answered, hex, hbody]

/-! ## What the queue is at any time -/

end HttpServing

/-- What the queue of an exchange, the parts of the body and the results so far have to do with each other; there is no queue
before the head has come. -/
structure Body (head : Bool) (parts : List BodyPart) (results : List (Option Bytes))
    (queue : Option (AsyncQueue (Option Bytes))) : Prop where
  begun : queue.isSome = head
  fresh : queue = none → parts = [] ∧ results = []
  alert : ∀ q ∈ queue, q.Alert
  queued : NothingAfterEnd parts → ∀ q ∈ queue, Queued parts results.length q.items
  returned : NothingAfterEnd parts → ∀ i result, results[i]? = some result → due parts i = some result

namespace Body

variable {head : Bool} {parts : List BodyPart} {results : List (Option Bytes)} {queue : Option (AsyncQueue (Option Bytes))}

theorem nil : Body false [] [] none where
  begun := rfl
  fresh := fun _ => ⟨rfl, rfl⟩
  alert := fun _ h => nomatch h
  queued := fun _ _ h => nomatch h
  returned := fun _ _ _ h => by simp at h

/-- The head comes. -/
theorem begin (h : Body head parts results none) : Body true parts results (some .empty) where
  begun := rfl
  fresh := fun hq => nomatch hq
  alert := fun q hq => by
    cases hq
    exact AsyncQueue.alert_empty
  queued := fun _ q hq => by
    cases hq
    obtain ⟨rfl, rfl⟩ := h.fresh rfl
    exact Queued.nil
  returned := h.returned

/-- A part comes. -/
theorem add (h : Body head parts results queue) (p : BodyPart) :
    Body head (if head then parts ++ [p] else parts) results (queue.map (·.putNowait p.item)) := by
  cases queue with
  | none =>
    obtain rfl : false = head := h.begun
    exact h
  | some q =>
    obtain rfl : true = head := h.begun
    exact
      { begun := rfl
        fresh := fun hq => nomatch hq
        alert := fun q' hq => by
          cases hq
          exact (h.alert q rfl).putNowait p.item
        queued := fun hparts q' hq => by
          cases hq
          rw [AsyncQueue.putNowait_items]
          exact (h.queued hparts.of_append q rfl).put hparts
        returned := fun hparts i result hr => due_append (h.returned hparts.of_append i result hr) [p] }

/-- A reader has its turn. -/
theorem taken {q q' : AsyncQueue (Option Bytes)} {result : Option (Option Bytes)} (h : Body head parts results (some q))
    (ht : Taken q result q') (hq' : q'.Alert) : Body head parts (results ++ result.toList) (some q') := by
  have hbegun := h.begun
  have hqueued (hparts : NothingAfterEnd parts) :
      Queued parts (results ++ result.toList).length q'.items ∧ ∀ r ∈ result, due parts results.length = some r := by
    have hold := h.queued hparts q rfl
    have hhead := hold.head?
    cases ht with
    | waits hitems =>
      rw [Option.toList_none, List.append_nil, hitems]
      exact ⟨hold, fun r hr => nomatch hr⟩
    | chunk data hitems =>
      rw [hitems] at hold hhead
      rw [Option.toList_some, List.length_append]
      exact ⟨hold.take, fun r hr => Option.mem_some.mp hr ▸ hhead.symm⟩
    | ended rest hitems hitems' =>
      rw [hitems] at hold hhead
      rw [Option.toList_some, List.length_append, hitems']
      exact ⟨hold.turn, fun r hr => Option.mem_some.mp hr ▸ hhead.symm⟩
  exact
    { begun := hbegun
      fresh := fun hq => nomatch hq
      alert := fun q'' hq => by
        cases hq
        exact hq'
      queued := fun hparts q'' hq => by
        cases hq
        exact (hqueued hparts).1
      returned := fun hparts i r hr => by
        rcases Nat.lt_or_ge i results.length with hi | hi
        · rw [List.getElem?_append_left hi] at hr
          exact h.returned hparts i r hr
        · rw [List.getElem?_append_right hi] at hr
          cases result with
          | none => simp at hr
          | some result =>
            rw [Option.toList_some, List.getElem?_singleton] at hr
            split at hr
            · obtain rfl := Option.some.inj hr
              rw [show i = results.length by omega]
              exact (hqueued hparts).2 result rfl
            · nomatch hr }

end Body

/-- What an event of a channel is to the parts and to the queue. -/
inductive Grows (c c' : Reception) (queue queue' : Option (AsyncQueue (Option Bytes))) : Prop where
  | same : c'.head = c.head → c'.parts = c.parts → queue' = queue → Grows c c' queue queue'
  | begins : queue = none → queue' = some .empty → c'.head = true → c'.parts = c.parts → Grows c c' queue queue'
  | part (p : BodyPart) : c'.head = c.head → c'.parts = (c.add p).parts → queue' = queue.map (·.putNowait p.item) →
      Grows c c' queue queue'

theorem Body.grows {c c' : Reception} {results : List (Option Bytes)} {queue queue' : Option (AsyncQueue (Option Bytes))}
    (h : Body c.head c.parts results queue) (hg : Grows c c' queue queue') : Body c'.head c'.parts results queue' := by
  cases hg with
  | same hhead hparts hqueue =>
    rw [hhead, hparts, hqueue]
    exact h
  | begins hnone hsome hhead hparts =>
    rw [hnone] at h
    rw [hhead, hparts, hsome]
    exact h.begin
  | part p hhead hparts hqueue =>
    rw [hhead, hparts, hqueue]
    exact h.add p

theorem HttpServing.abort_queue (s : HttpServing) : s.abort.queue = s.queue.map (·.putNowait none) := by
  unfold abort queue
  cases s.exchange <;> rfl

/-- A message, while the iterator goes on. -/
theorem HttpServing.receive_grows (L : Library) (c : Reception) (s : HttpServing) (hbegun : s.queue.isSome = c.head)
    (m : Message) : Grows c (c.receive L m) s.queue (s.receive L m).queue := by
  unfold Reception.receive receive
  unfold queue at hbegun ⊢
  cases hframe : frameOf L m with
  | chunk data => cases hex : s.exchange <;> exact .part (.chunk data) rfl rfl (by simp [hex, HttpExchange.feed, BodyPart.item])
  | request request =>
    cases hex : s.exchange with
    | none => exact .begins rfl rfl rfl rfl
    | some ex =>
      rw [hex] at hbegun
      exact .same hbegun rfl (by rw [hex])
  | requestEnd =>
    cases hex : s.exchange <;> exact .part .requestEnd rfl rfl (by simp [hex, HttpExchange.endBody, BodyPart.item])
  | ignored => exact .same rfl rfl rfl
  | error => exact .part (.abort c.closed) rfl rfl s.abort_queue

/-- The service after the events of a channel came to `c` and `read_chunk` returned `results`. -/
structure Reads (c : Reception) (results : List (Option Bytes)) (s : HttpServing) : Prop where
  iterating : s.iterating = !c.finished
  closed : c.closed → s.closed
  body : Body c.head c.parts results s.queue

namespace Reads

variable {L : Library} {c : Reception} {results : List (Option Bytes)} {s : HttpServing}

theorem init : Reads .init [] .init := ⟨rfl, fun h => (nomatch h), Body.nil⟩

theorem grows (h : Reads c results s) (f : ChannelEvent) : Grows c (c.step L f) s.queue (s.channel L f).queue := by
  cases f with
  | message m =>
    change Grows c (if c.finished then c else c.receive L m) s.queue (if s.iterating then s.receive L m else s).queue
    rw [h.iterating]
    by_cases hover : c.finished
    · rw [if_pos hover, if_neg (by simp [hover])]
      exact .same rfl rfl rfl
    · rw [if_neg hover, if_pos (by simp [hover])]
      exact s.receive_grows L c h.body.begun m
  | closed => exact .same rfl rfl rfl
  | ended =>
    change Grows c (if c.finished then c else { c.add (.abort true) with closed := true, finished := true }) s.queue
      (if s.iterating then { s.abort with closed := true } else s).queue
    rw [h.iterating]
    by_cases hover : c.finished
    · rw [if_pos hover, if_neg (by simp [hover])]
      exact .same rfl rfl rfl
    · rw [if_neg hover, if_pos (by simp [hover])]
      exact .part (.abort true) rfl rfl s.abort_queue

/-- The iterator ends with the channel or at a message that cannot be read. -/
theorem channel_flags (h : Reads c results s) (f : ChannelEvent) :
    (s.channel L f).iterating = !(c.step L f).finished ∧ ((c.step L f).closed → (s.channel L f).closed) := by
  have hkeep : s.iterating = !c.finished ∧ (c.closed → s.closed) := ⟨h.iterating, h.closed⟩
  cases f with
  | message m =>
    change (if s.iterating then s.receive L m else s).iterating = !(if c.finished then c else c.receive L m).finished ∧
      ((if c.finished then c else c.receive L m).closed → (if s.iterating then s.receive L m else s).closed)
    rw [h.iterating]
    by_cases hover : c.finished
    · rw [if_pos hover, if_neg (by simp [hover])]
      exact hkeep
    · rw [if_neg hover, if_pos (by simp [hover])]
      unfold HttpServing.receive Reception.receive
      cases frameOf L m <;> cases s.exchange <;>
        first
        | exact hkeep
        | exact ⟨rfl, h.closed⟩
  | closed => exact ⟨h.iterating, fun _ => rfl⟩
  | ended =>
    change (if s.iterating then { s.abort with closed := true } else s).iterating =
        !(if c.finished then c else { c.add (.abort true) with closed := true, finished := true }).finished ∧
      ((if c.finished then c else { c.add (.abort true) with closed := true, finished := true }).closed →
        (if s.iterating then { s.abort with closed := true } else s).closed)
    rw [h.iterating]
    by_cases hover : c.finished
    · rw [if_pos hover, if_neg (by simp [hover])]
      exact hkeep
    · rw [if_neg hover, if_pos (by simp [hover])]
      exact ⟨rfl, fun _ => rfl⟩

theorem channel (h : Reads c results s) (f : ChannelEvent) : Reads (c.step L f) results (s.channel L f) :=
  ⟨(h.channel_flags f).1, (h.channel_flags f).2, h.body.grows (h.grows f)⟩

theorem of_queue (h : Reads c results s) {s' : HttpServing} (hiterating : s'.iterating = s.iterating)
    (hclosed : s.closed → s'.closed) (hqueue : s'.queue = s.queue) : Reads c results s' :=
  ⟨hiterating.trans h.iterating, fun hc => hclosed (h.closed hc), hqueue ▸ h.body⟩

theorem reading (h : Reads c results s) (e : HttpExchange.Reading) :
    Reads c (results ++ s.returned (.reading e)) (s.step L (.reading e)) := by
  have hbody := h.body
  refine ⟨h.iterating, h.closed, ?_⟩
  cases hex : s.exchange with
  | none =>
    rw [HttpServing.queue, hex] at hbody
    simpa [HttpServing.returned, HttpServing.step, HttpServing.queue, hex] using hbody
  | some ex =>
    rw [HttpServing.queue, hex] at hbody
    have halert : ex.body.Alert := hbody.alert _ rfl
    have htaken := hbody.taken (ex.readChunk_taken e) (HttpExchange.readChunk_alert halert e)
    simpa [HttpServing.returned, HttpServing.step, HttpServing.queue, hex] using htaken

/-- The channel stays closed, and a call of the handler does not touch the iterator. -/
theorem call (h : Reads c results s) (a : HandlerCall) : Reads c results (s.call a) := by
  refine h.of_queue ?_ ?_ (s.call_queue a)
  · unfold HttpServing.call
    split
    · rfl
    · cases a <;> rfl
  · unfold HttpServing.call
    split
    · exact id
    · cases a <;> exact id

theorem finish (h : Reads c results s) (outcome : Option PyException) : Reads c results (s.finish outcome) := by
  refine h.of_queue ?_ ?_ (s.finish_queue outcome)
  · unfold HttpServing.finish
    split
    · rfl
    · rcases outcome with _ | _ | _ | _ <;> rfl
  · unfold HttpServing.finish
    split
    · exact id
    · rcases outcome with _ | _ | _ | _ <;> exact fun _ => rfl

end Reads

/-- The frames of the channel in a run. -/
def channelEvents (es : List HttpEvent) : List ChannelEvent := es.filterMap HttpEvent.onChannel

/-- The results of the calls of `read_chunk` in a run, in the order in which they return. -/
def results (L : Library) (es : List HttpEvent) : List (Option Bytes) := (httpService L).history HttpServing.returned es

theorem reads_run (L : Library) (es : List HttpEvent) :
    Reads (received L (channelEvents es)) (results L es) ((httpService L).run es) := by
  induction es using List.reverseRecOn with
  | nil => exact Reads.init
  | append_singleton es e ih =>
    rw [EventMachine.run_snoc, channelEvents, List.filterMap_append, results, EventMachine.history_snoc]
    cases e with
    | channel f =>
      change Reads (received L (channelEvents es ++ [f])) (results L es ++ []) _
      rw [received_snoc, List.append_nil]
      exact ih.channel f
    | reading e =>
      rw [List.filterMap_cons_none rfl, List.filterMap_nil, List.append_nil]
      exact Reads.reading (L := L) ih e
    | call a =>
      rw [List.filterMap_cons_none rfl, List.filterMap_nil, List.append_nil]
      change Reads _ (results L es ++ []) _
      rw [List.append_nil]
      exact ih.call a
    | finished outcome =>
      rw [List.filterMap_cons_none rfl, List.filterMap_nil, List.append_nil]
      change Reads _ (results L es ++ []) (if _ then _ else _)
      rw [List.append_nil]
      split
      · exact ih.finish outcome
      · exact ih

/-! ## A queue nobody has read from -/

/-- Nothing was taken: the queue holds every part, and of the readers `waiting` as many were woken as there are parts. -/
structure Filled (waiting : List Nat) (parts : List BodyPart) (q : AsyncQueue (Option Bytes)) : Prop where
  items : q.items = parts.map BodyPart.item
  readers : q.woken ++ q.getters = waiting
  woken : q.getters = [] ∨ q.woken.length = q.items.length

theorem Filled.put {waiting : List Nat} {parts : List BodyPart} {q : AsyncQueue (Option Bytes)} (h : Filled waiting parts q)
    (p : BodyPart) : Filled waiting (parts ++ [p]) (q.putNowait p.item) := by
  have hitems : (q.putNowait p.item).items = (parts ++ [p]).map BodyPart.item := by
    rw [AsyncQueue.putNowait_items, h.items, List.map_append]
    rfl
  obtain ⟨items, getters, woken⟩ := q
  cases getters with
  | nil => exact ⟨hitems, h.readers, Or.inl rfl⟩
  | cons r rest =>
    refine ⟨hitems, ?_, Or.inr ?_⟩
    · rw [← h.readers]
      simp [AsyncQueue.putNowait, AsyncQueue.wakeupNext]
    · have hlength : woken.length = items.length := h.woken.resolve_left (List.cons_ne_nil r rest)
      simp [AsyncQueue.putNowait, AsyncQueue.wakeupNext, hlength]

theorem Filled.eq {parts : List BodyPart} {q : AsyncQueue (Option Bytes)} (h : Filled [] parts q) :
    q = ⟨parts.map BodyPart.item, [], []⟩ := by
  obtain ⟨items, getters, woken⟩ := q
  obtain ⟨hwoken, hgetters⟩ := List.append_eq_nil_iff.mp h.readers
  have hitems := h.items
  dsimp only at hwoken hgetters hitems
  rw [hwoken, hgetters, hitems]

/-- The exchange has begun or no reader waits, and nothing was taken from the queue. -/
structure Untouched (waiting : List Nat) (c : Reception) (s : HttpServing) : Prop where
  reads : ∃ results, Reads c results s
  unread : s.queue = none → waiting = []
  filled : ∀ q ∈ s.queue, Filled waiting c.parts q

theorem Untouched.channel {L : Library} {waiting : List Nat} {c : Reception} {s : HttpServing} (h : Untouched waiting c s)
    (f : ChannelEvent) : Untouched waiting (c.step L f) (s.channel L f) := by
  obtain ⟨results, hreads⟩ := h.reads
  refine ⟨⟨results, hreads.channel f⟩, fun hnone => ?_, fun q hq => ?_⟩
  · cases hreads.grows (L := L) f with
    | same _ _ hqueue => exact h.unread (hqueue.symm.trans hnone)
    | begins _ hsome => nomatch hsome.symm.trans hnone
    | part p _ _ hqueue => exact h.unread (Option.map_eq_none_iff.mp (hqueue.symm.trans hnone))
  · cases hreads.grows (L := L) f with
    | same _ hparts hqueue =>
      rw [hparts]
      exact h.filled q (hqueue ▸ hq)
    | begins hnone hsome _ hparts =>
      rw [hsome] at hq
      cases hq
      rw [hparts, (hreads.body.fresh hnone).1, h.unread hnone]
      exact ⟨rfl, rfl, Or.inl rfl⟩
    | part p _ hparts hqueue =>
      rw [hqueue] at hq
      obtain ⟨q', hq', rfl⟩ := Option.map_eq_some_iff.mp hq
      have hhead : c.head = true := by
        rw [← hreads.body.begun, Option.mem_def.mp hq']
        rfl
      rw [hparts, Reception.add, if_pos hhead]
      exact (h.filled q' hq').put p

theorem Untouched.channels {L : Library} {waiting : List Nat} {c : Reception} {s : HttpServing} (h : Untouched waiting c s)
    (fs : List ChannelEvent) : Untouched waiting (fs.foldl (Reception.step L) c) (fs.foldl (HttpServing.channel L) s) := by
  induction fs generalizing c s with
  | nil => exact h
  | cons f fs ih => exact ih (h.channel f)

theorem untouched_init : Untouched [] .init .init := ⟨⟨[], Reads.init⟩, fun _ => rfl, fun _ hq => nomatch hq⟩

end Python

end ZclaudiaGateway
