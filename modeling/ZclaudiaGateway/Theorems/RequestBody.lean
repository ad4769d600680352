import ZclaudiaGateway.Lemmas.RequestBody

/-!
# The end of a request body

`read_chunk` returns the chunks of the body in order and then the end on every later call, unless a chunk comes after the end
of the body: the end marker a reader puts back then stands behind that chunk, which a later call returns.
-/

namespace ZclaudiaGateway

namespace Python

/-! ## Reading in order -/

/-- The reading can run: a reader that does not wait calls, or one that was woken has its turn. -/
def HttpExchange.Runs (ex : HttpExchange) : HttpExchange.Reading → Prop
  | .read r => ¬ ex.body.Waits r
  | .resume r => r ∈ ex.body.woken
  | .cancel _ => False

/-- The results of `read_chunk` so far are what is due, the next one is what a reader gets that runs, and one of the readers
that wait has been woken when a result is there. -/
structure ReadsInOrder (L : Library) (es : List HttpEvent) : Prop where
  returned : ∀ i result, (results L es)[i]? = some result → due (received L (channelEvents es)).parts i = some result
  next : ∀ ex ∈ ((httpService L).run es).exchange, ∀ e, ex.Runs e →
    (ex.readChunk e).1 = due (received L (channelEvents es)).parts (results L es).length
  woken : ∀ ex ∈ ((httpService L).run es).exchange, due (received L (channelEvents es)).parts (results L es).length ≠ none →
    ex.body.getters ≠ [] → ex.body.woken ≠ []

/-- A reader that runs gets the head of the queue. -/
theorem HttpExchange.Runs.readChunk_fst {ex : HttpExchange} {e : HttpExchange.Reading} (h : ex.Runs e) :
    (ex.readChunk e).1 = ex.body.items.head? := by
  have hput : ∀ p, (putBack p).1 = p.1 := by
    rintro ⟨_ | _ | _, q⟩ <;> rfl
  cases e with
  | read r => rw [readChunk_idle h, hput, AsyncQueue.get_fst]
  | resume r =>
    change (putBack (ex.body.resume r)).1 = ex.body.items.head?
    rw [hput, AsyncQueue.resume_fst h]
  | cancel r => exact h.elim

theorem reads_in_order {L : Library} {es : List HttpEvent}
    (h : NothingAfterEnd (received L (channelEvents es)).parts) : ReadsInOrder L es := by
  have hreads := reads_run L es
  have hexchange : ∀ ex ∈ ((httpService L).run es).exchange, ex.body ∈ ((httpService L).run es).queue := by
    intro ex hex
    rw [HttpServing.queue, Option.mem_def.mp hex]
    rfl
  refine ⟨hreads.body.returned h, fun ex hex e he => ?_, fun ex hex hdue hgetters => ?_⟩
  · rw [he.readChunk_fst, (hreads.body.queued h _ (hexchange ex hex)).head?]
  · refine (hreads.body.alert _ (hexchange ex hex)).woken_ne_nil (fun hitems => hdue ?_) hgetters
    rw [← (hreads.body.queued h _ (hexchange ex hex)).head?, hitems]
    rfl

/-! ## A chunk after the end -/

theorem run_channel (L : Library) (fs : List ChannelEvent) :
    (httpService L).run (fs.map .channel) = fs.foldl (HttpServing.channel L) .init := by
  rw [EventMachine.run, List.foldl_map]
  rfl

theorem channelEvents_map (fs : List ChannelEvent) : channelEvents (fs.map .channel) = fs := by
  simp [channelEvents, HttpEvent.onChannel, List.filterMap_map, Function.comp_def]

theorem channelEvents_append (es es' : List HttpEvent) :
    channelEvents (es ++ es') = channelEvents es ++ channelEvents es' := List.filterMap_append

theorem channelEvents_replicate_reading (n : Nat) (e : HttpExchange.Reading) :
    channelEvents (List.replicate n (.reading e)) = [] := by
  simp [channelEvents, HttpEvent.onChannel]

theorem results_map_channel (L : Library) (fs : List ChannelEvent) : results L (fs.map .channel) = [] := by
  induction fs using List.reverseRecOn with
  | nil => rfl
  | append_singleton fs f ih =>
    rw [List.map_append, results, List.map_singleton, EventMachine.history_snoc]
    change results L (fs.map .channel) ++ [] = []
    rw [ih, List.append_nil]

/-- A reader that reads on its own takes the items of the queue one by one; the end markers come back behind the others. -/
theorem drained {L : Library} (xs : List (Option Bytes)) : ∀ (ys : List (Option Bytes)) (es : List HttpEvent)
    (ex : HttpExchange), ((httpService L).run es).exchange = some ex → ex.body = ⟨xs ++ ys, [], []⟩ →
      ∃ ex' zs, ((httpService L).run (es ++ List.replicate xs.length (.reading (.read 0)))).exchange = some ex' ∧
        ex'.body = ⟨ys ++ zs, [], []⟩ ∧
        (results L (es ++ List.replicate xs.length (.reading (.read 0)))).length = (results L es).length + xs.length := by
  induction xs with
  | nil =>
    intro ys es ex hex hbody
    exact ⟨ex, [], by simpa using hex, by simpa using hbody, by simp⟩
  | cons x xs ih =>
    intro ys es ex hex hbody
    have hidle : ¬ ex.body.Waits 0 := by simp [hbody, AsyncQueue.Waits]
    have hstep : ((httpService L).run (es ++ [.reading (.read 0)])).exchange = some (ex.readChunk (.read 0)).2 := by
      rw [EventMachine.run_snoc]
      change ((httpService L).run es).exchange.map _ = _
      rw [hex]
      rfl
    have hresult : (results L (es ++ [.reading (.read 0)])).length = (results L es).length + 1 := by
      rw [results, EventMachine.history_snoc, List.length_append, HttpServing.returned, hex]
      change _ + ((ex.readChunk (.read 0)).1).toList.length = _
      rw [HttpExchange.readChunk_idle hidle, hbody]
      cases x <;> rfl
    have hrest : ∃ more, (ex.readChunk (.read 0)).2.body = ⟨xs ++ (ys ++ more), [], []⟩ := by
      rw [HttpExchange.readChunk_idle hidle, hbody]
      cases x with
      | none => exact ⟨[none], by simp [HttpExchange.putBack, AsyncQueue.get, AsyncQueue.putNowait, AsyncQueue.wakeupNext]⟩
      | some data => exact ⟨[], by simp [HttpExchange.putBack, AsyncQueue.get]⟩
    obtain ⟨more, hmore⟩ := hrest
    obtain ⟨ex', zs, hex', hbody', hlength⟩ := ih (ys ++ more) _ _ hstep hmore
    rw [List.append_assoc, List.singleton_append, ← List.replicate_succ] at hex' hlength
    refine ⟨ex', more ++ zs, hex', by rw [hbody', List.append_assoc], ?_⟩
    rw [List.length_cons, hlength, hresult]
    omega

/-- If a chunk comes after the end, a reader that reads on its own gets it after an end. -/
theorem chunk_after_end {L : Library} {fs : List ChannelEvent} (h : ¬ NothingAfterEnd (received L fs).parts) :
    ∃ es, channelEvents es = fs ∧ ¬ ReadsInOrder L es := by
  simp only [NothingAfterEnd, not_forall, not_not] at h
  obtain ⟨data, hdata⟩ := h
  obtain ⟨pre, post, hafter⟩ := List.append_of_mem hdata
  have hpre : 0 < pre.length := by
    refine List.length_pos_iff.mpr (fun hnil => head?_afterBody (received L fs).parts data ?_)
    rw [hafter, hnil]
    rfl
  have hparts : (received L fs).parts = ((bodyChunks (received L fs).parts).map .chunk ++ pre) ++ .chunk data :: post := by
    rw [List.append_assoc, ← hafter]
    exact parts_eq _
  have huntouched : Untouched [] (received L fs) (fs.foldl (HttpServing.channel L) .init) := untouched_init.channels fs
  obtain ⟨results', hreads⟩ := huntouched.reads
  rcases hqueue : (fs.foldl (HttpServing.channel L) .init).queue with _ | q
  · rw [(hreads.body.fresh hqueue).1] at hdata
    nomatch hdata
  · have hq := huntouched.filled q hqueue
    obtain ⟨ex, hex, rfl⟩ := Option.map_eq_some_iff.mp hqueue
    rw [← run_channel] at hex
    have hbody : ex.body = ⟨(((bodyChunks (received L fs).parts).map BodyPart.chunk ++ pre).map BodyPart.item) ++
        (some data :: post.map BodyPart.item), [], []⟩ := by
      rw [hq.eq]
      conv_lhs => rw [hparts, List.map_append, List.map_cons]
      rfl
    obtain ⟨ex', zs, hex', hbody', hlength⟩ := drained _ _ _ ex hex hbody
    have hevents : channelEvents (fs.map .channel ++ List.replicate (((bodyChunks (received L fs).parts).map BodyPart.chunk ++
        pre).map BodyPart.item).length (.reading (.read 0))) = fs := by
      rw [channelEvents_append, channelEvents_map, channelEvents_replicate_reading, List.append_nil]
    refine ⟨_, hevents, fun horder => ?_⟩
    have hruns : ex'.Runs (.read 0) := by simp [HttpExchange.Runs, hbody', AsyncQueue.Waits]
    have hnext := horder.next ex' hex' (.read 0) hruns
    rw [hruns.readChunk_fst, hbody', hevents, hlength, results_map_channel] at hnext
    rw [due_of_le (by simp), if_neg (List.ne_nil_of_mem hdata)] at hnext
    nomatch hnext

/-- The results of `read_chunk` are the chunks of the body in order, then the end on every later call, in every run on the
frames of a channel, exactly if no chunk comes after the end. -/
theorem read_chunk_in_order_iff (L : Library) (fs : List ChannelEvent) :
    (∀ es, channelEvents es <+: fs → ReadsInOrder L es) ↔ NothingAfterEnd (received L fs).parts := by
  constructor
  · intro h
    by_contra hafter
    obtain ⟨es, hes, hnot⟩ := chunk_after_end hafter
    exact hnot (h es (hes ▸ List.prefix_refl _))
  · intro h es hp
    obtain ⟨more, hparts⟩ := received_earlier L hp
    rw [hparts] at h
    exact reads_in_order h.of_append

/-- A library that reads the frames of the samples as the real one does. -/
def sampleLibrary : Library where
  loads s :=
    if s = "\x7b\"type\":\"http_request\"\x7d" then .value (.dict [(.str "type", .str "http_request")])
    else if s = "\x7b\"type\":\"http_request_end\"\x7d" then .value (.dict [(.str "type", .str "http_request_end")])
    else .valueError
  str _ := ""

/-- A head, an end and a chunk after it. -/
def sampleLateChunk : List ChannelEvent :=
  [.message (.text "\x7b\"type\":\"http_request\"\x7d"), .message (.text "\x7b\"type\":\"http_request_end\"\x7d"),
    .message (.bytes [7])]

/-- Then a reader calls twice. -/
def sampleLateReads : List HttpEvent := sampleLateChunk.map .channel ++ [.reading (.read 0), .reading (.read 0)]

/-- It gets the end, then the chunk. -/
theorem late_chunk_read : ¬ ∀ L fs es, channelEvents es <+: fs → ReadsInOrder L es := by
  intro h
  have horder := h sampleLibrary sampleLateChunk sampleLateReads (List.prefix_refl sampleLateChunk)
  have hresult : results sampleLibrary sampleLateReads = [none, some [7]] := by decide +kernel
  have hdue := horder.returned 1 (some [7]) (by rw [hresult]; rfl)
  have hnone : due (received sampleLibrary (channelEvents sampleLateReads)).parts 1 = some none := by decide +kernel
  rw [hnone] at hdue
  nomatch hdue

end Python

end ZclaudiaGateway
