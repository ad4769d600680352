import ZclaudiaGateway.Lemmas.Sample
import ZclaudiaGateway.Lemmas.TopicSession

/-!
# Subscriptions of a client

Callers of one client subscribe to a topic and leave it in any order while requests and answers are on their way. What the
gateway holds in the end is what the last callers want, and a subscribed handler hears everything sent to it from its
acknowledgement on, each in the runs without the one step that breaks it.
-/

namespace ZclaudiaGateway

namespace TopicView

variable {l : TopicLink} {v v' : TopicView} {e : TopicSessionEvent}

/-! ## Agreement -/

/-- The answer to the oldest operation has been sent. -/
def Answered (v : TopicView) : Prop := v.settled.isSome = true ∨ ∃ d ∈ v.answers, d.message.isAnswer = true

/-- Behind the oldest operation under way there are only subscriptions, and an unsubscription is under way only without handlers.
The gateway holds what the oldest operation has asked for, or before its answer what the handlers say. -/
structure Agreed (v : TopicView) : Prop where
  order : ∀ op rest, v.underway = op :: rest →
    (∀ op' ∈ rest, op'.subscribes = true) ∧ (op.subscribes = false → v.handlers = [])
  answered : ∀ op rest, v.underway = op :: rest → v.Answered → v.held = op.subscribes
  waiting : ¬ v.Answered → (∀ op rest, v.underway = op :: rest → op.subscribes = true) → (v.held = true ↔ v.handlers ≠ [])

theorem subscribes_subscribe {op : ControlOp} {handler : HandlerId} (h : op.caller = l.subscribe handler) :
    op.subscribes = true := by
  unfold ControlOp.subscribes
  rw [h]
  rfl

theorem subscribes_unsubscribe {op : ControlOp} (h : op.caller = l.unsubscribe) : op.subscribes = false := by
  unfold ControlOp.subscribes
  rw [h]
  rfl

/-- While no operation runs, no answer is on its way. -/
theorem Sound.answers_none (h : v.Sound l) (hrunning : v.running = none) : ∀ d ∈ v.answers, d.message.isAnswer = false := by
  have hflight := h.flight
  rw [hrunning] at hflight
  generalize v.requests = requests at hflight
  generalize v.answers = answers at hflight ⊢
  cases hflight with
  | none hq => exact hq

theorem not_answered (hsettled : v.settled = none) (hanswers : ∀ d ∈ v.answers, d.message.isAnswer = false) :
    ¬ v.Answered := by
  rintro (hs | ⟨d, hd, ha⟩)
  · rw [hsettled] at hs
    cases hs
  · rw [hanswers d hd] at ha
    cases ha

theorem Sound.not_answered_idle (h : v.Sound l) (hidle : v.underway = []) : ¬ v.Answered := by
  unfold underway at hidle
  rw [List.append_eq_nil_iff, List.append_eq_nil_iff] at hidle
  obtain ⟨⟨hsettled, hrunning⟩, -⟩ := hidle
  exact not_answered (Option.toList_eq_nil_iff.mp hsettled) (h.answers_none (Option.toList_eq_nil_iff.mp hrunning))

/-- The operation whose request is out runs, and no answer is on its way. -/
theorem Sound.asked (h : v.Sound l) {op : ControlOp} {rest : List ControlOp} (hrequests : v.requests = op :: rest) :
    v.running = some op ∧ v.settled = none ∧ ∀ d ∈ v.answers, d.message.isAnswer = false := by
  have hflight := h.flight
  have hturns := h.turns
  rw [hrequests] at hflight
  generalize v.running = running at hflight hturns
  generalize v.answers = answers at hflight ⊢
  cases hflight with
  | asked op hq => exact ⟨rfl, hturns rfl, hq⟩

/-- The operation that has settled is the oldest under way, and none runs. -/
theorem Sound.resumed (h : v.Sound l) {op : ControlOp} (hsettled : v.settled = some op) :
    v.running = none ∧ v.underway = op :: v.queue := by
  have hrunning : v.running = none := by
    by_contra hne
    rw [h.turns (Option.isSome_iff_ne_none.mpr hne)] at hsettled
    cases hsettled
  refine ⟨hrunning, ?_⟩
  unfold underway
  rw [hsettled, hrunning]
  rfl

/-- Behind the oldest operation there are only subscriptions. -/
theorem Agreed.behind (h : v.Agreed) {op : ControlOp} (hunderway : v.underway = op :: v.queue) {op' : ControlOp}
    {rest : List ControlOp} (hqueue : v.queue = op' :: rest) (handlers : List HandlerId) :
    (∀ x ∈ rest, x.subscribes = true) ∧ (op'.subscribes = false → handlers = []) := by
  have hall := (h.order op v.queue hunderway).1
  rw [hqueue] at hall
  refine ⟨fun x hx => hall x (List.mem_cons_of_mem _ hx), fun hno => ?_⟩
  rw [hall op' List.mem_cons_self] at hno
  cases hno

/-- Every move keeps the agreement but the one in which the last handler leaves while a subscription is under way. -/
theorem Agreed.move (h : v.Agreed) (hs : v.Sound l) (hm : Move l v e v')
    (hc : ∀ handler, e = .unsubscribe handler → v.handlers ≠ [] → v.handlers.filter (· ≠ handler) = [] →
      ∀ op ∈ v.underway, op.subscribes = false) : v'.Agreed := by
  cases hm with
  | idle => exact h
  | issue handler op hop =>
    have hsub := subscribes_subscribe hop
    have hunderway : ({ v with queue := v.queue ++ [op] } : TopicView).underway = v.underway ++ [op] := by
      unfold underway
      exact (List.append_assoc _ _ _).symm
    refine ⟨fun op' rest hu => ?_, fun op' rest hu ha => ?_, fun ha hhead => h.waiting ha (fun op' rest hu => ?_)⟩
    · rw [hunderway] at hu
      rcases hold : v.underway with _ | ⟨first, others⟩
      · rw [hold] at hu
        cases hu
        exact ⟨nofun, fun hno => by rw [hsub] at hno; cases hno⟩
      · rw [hold] at hu
        cases hu
        obtain ⟨hrest, hleft⟩ := h.order op' others hold
        refine ⟨fun x hx => ?_, hleft⟩
        rcases List.mem_append.mp hx with hx | hx
        · exact hrest x hx
        · rw [List.mem_singleton.mp hx]
          exact hsub
    · rw [hunderway] at hu
      rcases hold : v.underway with _ | ⟨first, others⟩
      · exact absurd ha (hs.not_answered_idle hold)
      · rw [hold] at hu
        cases hu
        exact h.answered op' others hold ha
    · exact hhead op' (rest ++ [op]) (by rw [hunderway, hu]; rfl)
  | leave handler hsome =>
    have hanswered : ({ v.forgive handler with handlers := v.handlers.filter (· ≠ handler) } : TopicView).Answered ↔
        v.Answered := by
      unfold Answered forgive
      simp only [List.mem_map, exists_exists_and_eq_and]
    refine ⟨fun op rest hu => ?_, fun op rest hu ha => h.answered op rest hu (hanswered.mp ha), fun ha hhead => ?_⟩
    · obtain ⟨hrest, hleft⟩ := h.order op rest hu
      refine ⟨hrest, fun hno => ?_⟩
      change v.handlers.filter _ = []
      rw [hleft hno]
      rfl
    · refine (h.waiting (fun ha' => ha (hanswered.mpr ha')) hhead).trans ⟨hsome, fun hne hnil => hne ?_⟩
      change v.handlers.filter _ = []
      rw [hnil]
      rfl
  | last handler op hne hfilter hop =>
    have hidle : v.underway = [] := by
      rcases hold : v.underway with _ | ⟨first, others⟩
      · rfl
      · have hno := hc handler rfl hne hfilter first (by rw [hold]; exact List.mem_cons_self)
        exact absurd ((h.order first others hold).2 hno) hne
    have hunderway : ({ v.forgive handler with handlers := [], queue := v.queue ++ [op] } : TopicView).underway = [op] := by
      change v.settled.toList ++ v.running.toList ++ (v.queue ++ [op]) = [op]
      rw [← List.append_assoc, show v.settled.toList ++ v.running.toList ++ v.queue = [] from hidle]
      rfl
    have hanswered : ¬ ({ v.forgive handler with handlers := [], queue := v.queue ++ [op] } : TopicView).Answered := by
      intro ha
      refine hs.not_answered_idle hidle ?_
      unfold Answered forgive at ha
      unfold Answered
      simpa only [List.mem_map, exists_exists_and_eq_and] using ha
    refine ⟨fun op' rest hu => ?_, fun op' rest hu ha => absurd ha hanswered, fun _ hhead => ?_⟩
    · rw [hunderway] at hu
      cases hu
      exact ⟨nofun, fun _ => rfl⟩
    · have hsub := hhead op [] hunderway
      rw [subscribes_unsubscribe hop] at hsub
      cases hsub
  | run op rest hsettled hrunning hqueue =>
    have hunderway : ({ v with running := some op, queue := rest, requests := v.requests ++ [op] } : TopicView).underway =
        v.underway := by
      unfold underway
      rw [hsettled, hrunning, hqueue]
      rfl
    exact ⟨fun op' rest' hu => h.order op' rest' (hunderway.symm.trans hu),
      fun op' rest' hu ha => h.answered op' rest' (hunderway.symm.trans hu) ha,
      fun ha hhead => h.waiting ha (fun op' rest' hu => hhead op' rest' (hunderway.trans hu))⟩
  | subscribed op handler hsettled hop =>
    obtain ⟨hrunning, hunderway⟩ := hs.resumed hsettled
    have hheld := h.answered op v.queue hunderway (Or.inl (by rw [hsettled]; rfl))
    rw [subscribes_subscribe hop] at hheld
    refine ⟨fun op' rest hu => ?_, fun op' rest hu ha => ?_, fun _ _ => iff_of_true hheld ?_⟩
    · exact h.behind hunderway (by rw [← hu]; unfold underway; rw [hrunning]; rfl) _
    · exact absurd ha (not_answered rfl (hs.answers_none hrunning))
    · dsimp only
      split
      · exact List.ne_nil_of_mem ‹_›
      · simp
  | left op hsettled hop =>
    obtain ⟨hrunning, hunderway⟩ := hs.resumed hsettled
    have hno := subscribes_unsubscribe hop
    have hheld := h.answered op v.queue hunderway (Or.inl (by rw [hsettled]; rfl))
    rw [hno] at hheld
    refine ⟨fun op' rest hu => ?_, fun op' rest hu ha => ?_, fun _ _ => iff_of_false ?_ (fun hne => hne ?_)⟩
    · exact h.behind hunderway (by rw [← hu]; unfold underway; rw [hrunning]; rfl) _
    · exact absurd ha (not_answered rfl (hs.answers_none hrunning))
    · rw [hheld]
      exact Bool.false_ne_true
    · exact (h.order op v.queue hunderway).2 hno
  | request op rest reply more hrequests hreply hmore =>
    obtain ⟨hrunning, hsettled, -⟩ := hs.asked hrequests
    have hunderway : v.underway = op :: v.queue := by
      unfold underway
      rw [hsettled, hrunning]
      rfl
    refine ⟨h.order, fun op' rest' hu _ => ?_, fun ha _ => absurd (Or.inr ⟨⟨reply, v.owing op⟩, ?_, ?_⟩) ha⟩
    · obtain ⟨rfl, -⟩ := List.cons.inj (hunderway.symm.trans hu)
      rfl
    · simp
    · exact isAnswer_of_replyType hreply
  | tell g messages hmessages =>
    have hanswered : ({ v with answers := v.answers ++ messages.map (fun message => ⟨message, v.owed⟩) } : TopicView).Answered ↔
        v.Answered := by
      refine or_congr_right ⟨fun ⟨d, hd, ha⟩ => ?_, fun ⟨d, hd, ha⟩ => ⟨d, List.mem_append_left _ hd, ha⟩⟩
      rcases List.mem_append.mp hd with hd | hd
      · exact ⟨d, hd, ha⟩
      · obtain ⟨message, hm, rfl⟩ := List.mem_map.mp hd
        rw [hmessages message hm] at ha
        cases ha
    exact ⟨h.order, fun op rest hu ha => h.answered op rest hu (hanswered.mp ha),
      fun ha hhead => h.waiting (fun ha' => ha (hanswered.mpr ha')) hhead⟩
  | heard d rest hanswers hd =>
    have hanswered : ({ v with answers := rest } : TopicView).Answered ↔ v.Answered := by
      refine or_congr_right ⟨fun ⟨x, hx, ha⟩ => ⟨x, ?_, ha⟩, fun ⟨x, hx, ha⟩ => ⟨x, ?_, ha⟩⟩
      · rw [hanswers]
        exact List.mem_cons_of_mem _ hx
      · rw [hanswers] at hx
        rcases List.mem_cons.mp hx with rfl | hx
        · rw [hd] at ha
          cases ha
        · exact hx
    exact ⟨h.order, fun op rest hu ha => h.answered op rest hu (hanswered.mp ha),
      fun ha hhead => h.waiting (fun ha' => ha (hanswered.mpr ha')) hhead⟩
  | settles d rest op hanswers hd hrunning =>
    have hsettled := hs.turns (by rw [hrunning]; rfl)
    have hunderway : ({ v with answers := rest, running := none, settled := some op } : TopicView).underway =
        v.underway := by
      unfold underway
      rw [hsettled, hrunning]
      rfl
    have ha : v.Answered := Or.inr ⟨d, by rw [hanswers]; exact List.mem_cons_self, hd⟩
    exact ⟨fun op' rest' hu => h.order op' rest' (hunderway.symm.trans hu),
      fun op' rest' hu _ => h.answered op' rest' (hunderway.symm.trans hu) ha, fun hno => absurd (Or.inl rfl) hno⟩

/-! ## What is owed to a handler -/

/-- A handler to which something is owed is registered, or its acknowledgement comes first: its caller has not gone on after it,
or it is among the messages ahead. -/
def Comes (l : TopicLink) (v : TopicView) (handler : HandlerId) (ahead : List Delivery) : Prop :=
  handler ∈ v.handlers ∨ (∃ op, v.settled = some op ∧ op.caller = l.subscribe handler) ∨
    ∃ op, v.running = some op ∧ op.caller = l.subscribe handler ∧ ∃ d ∈ ahead, d.message.isAnswer = true

/-- Every handler that something is owed to hears of its acknowledgement before. -/
structure Owing (l : TopicLink) (v : TopicView) : Prop where
  owed : ∀ handler ∈ v.owed, v.Comes l handler v.answers
  sent : ∀ pre d post, v.answers = pre ++ d :: post → d.message.isAnswer = false → ∀ handler ∈ d.owed, v.Comes l handler pre

theorem Comes.mono {handler : HandlerId} {ahead ahead' : List Delivery} (h : v.Comes l handler ahead)
    (hsub : ∀ d ∈ ahead, d.message.isAnswer = true → ∃ d' ∈ ahead', d'.message.isAnswer = true) :
    v.Comes l handler ahead' := by
  rcases h with h | h | ⟨op, hrunning, hop, d, hd, ha⟩
  · exact Or.inl h
  · exact Or.inr (Or.inl h)
  · exact Or.inr (Or.inr ⟨op, hrunning, hop, hsub d hd ha⟩)

/-- A place in a list with more behind it is a place in the list or in what is behind. -/
theorem append_split {α : Type} {xs ys pre post : List α} {d : α} (h : xs ++ ys = pre ++ d :: post) :
    (∃ post', xs = pre ++ d :: post') ∨ ∃ pre', pre = xs ++ pre' ∧ ys = pre' ++ d :: post := by
  rcases List.append_eq_append_iff.mp h with ⟨pre', hpre, hys⟩ | ⟨rest, hxs, hpost⟩
  · exact Or.inr ⟨pre', hpre, hys⟩
  · rcases rest with _ | ⟨x, rest⟩
    · refine Or.inr ⟨[], ?_, hpost.symm⟩
      rw [hxs]
      simp
    · obtain ⟨rfl, -⟩ := List.cons.inj hpost
      exact Or.inl ⟨rest, hxs⟩

/-- A handler that leaves takes with it what is owed to it. -/
theorem Owing.forgive (h : v.Owing l) (handler : HandlerId) (queue : List ControlOp) :
    ({ v.forgive handler with handlers := v.handlers.filter (· ≠ handler), queue } : TopicView).Owing l := by
  have hcomes {handler' : HandlerId} {ahead : List Delivery} (hne : handler' ≠ handler) (hc : v.Comes l handler' ahead) :
      ({ v.forgive handler with handlers := v.handlers.filter (· ≠ handler), queue } : TopicView).Comes l handler'
        (ahead.map (fun d => { d with owed := d.owed.filter (· ≠ handler) })) := by
    rcases hc with hc | hc | ⟨op, hrunning, hop, d, hd, ha⟩
    · exact Or.inl (List.mem_filter.mpr ⟨hc, by simpa using hne⟩)
    · exact Or.inr (Or.inl hc)
    · exact Or.inr (Or.inr ⟨op, hrunning, hop, _, List.mem_map_of_mem hd, ha⟩)
  refine ⟨fun handler' ho => ?_, fun pre d post hp hd handler' ho => ?_⟩
  · obtain ⟨ho, hne⟩ := List.mem_filter.mp ho
    exact hcomes (by simpa using hne) (h.owed handler' ho)
  · obtain ⟨pre, rest, hanswers, rfl, hrest⟩ := List.map_eq_append_iff.mp hp
    obtain ⟨d, post, rfl, rfl, -⟩ := List.map_eq_cons_iff.mp hrest
    obtain ⟨ho, hne⟩ := List.mem_filter.mp ho
    exact hcomes (by simpa using hne) (h.sent pre d post hanswers hd handler' ho)

/-- Every move keeps what is owed. -/
theorem Owing.move (h : v.Owing l) (hs : v.Sound l) (hm : Move l v e v') : v'.Owing l := by
  cases hm with
  | idle => exact h
  | issue => exact ⟨h.owed, h.sent⟩
  | leave handler _ => exact h.forgive handler v.queue
  | last handler op hne hfilter hop =>
    have hforgiven := h.forgive handler (v.queue ++ [op])
    rw [hfilter] at hforgiven
    exact hforgiven
  | run op rest hsettled hrunning hqueue =>
    have hcomes {handler : HandlerId} {ahead : List Delivery} (hc : v.Comes l handler ahead) :
        ({ v with running := some op, queue := rest, requests := v.requests ++ [op] } : TopicView).Comes l handler ahead := by
      rcases hc with hc | hc | ⟨op', hrun, -⟩
      · exact Or.inl hc
      · exact Or.inr (Or.inl hc)
      · rw [hrunning] at hrun
        cases hrun
    exact ⟨fun handler ho => hcomes (h.owed handler ho),
      fun pre d post hp hd handler ho => hcomes (h.sent pre d post hp hd handler ho)⟩
  | subscribed op handler hsettled hop =>
    have hcomes {handler' : HandlerId} {ahead : List Delivery} (hc : v.Comes l handler' ahead) :
        ({ v with
            settled := none
            handlers := if handler ∈ v.handlers then v.handlers else v.handlers ++ [handler] } : TopicView).Comes l
          handler' ahead := by
      have hgrows : ∀ x, x ∈ v.handlers ∨ x = handler → x ∈ if handler ∈ v.handlers then v.handlers else v.handlers ++ [handler] := by
        intro x hx
        split
        · rcases hx with hx | rfl
          · exact hx
          · assumption
        · rcases hx with hx | rfl <;> simp [*]
      rcases hc with hc | ⟨op', hsettled', hop'⟩ | hc
      · exact Or.inl (hgrows _ (Or.inl hc))
      · obtain rfl := Option.some.inj (hsettled.symm.trans hsettled')
        have heq := hop.symm.trans hop'
        injection heq with _ _ heq
        exact Or.inl (hgrows _ (Or.inr heq.symm))
      · exact Or.inr (Or.inr hc)
    exact ⟨fun handler ho => hcomes (h.owed handler ho),
      fun pre d post hp hd handler ho => hcomes (h.sent pre d post hp hd handler ho)⟩
  | left op hsettled hop =>
    have hcomes {handler : HandlerId} {ahead : List Delivery} (hc : v.Comes l handler ahead) :
        ({ v with settled := none } : TopicView).Comes l handler ahead := by
      rcases hc with hc | ⟨op', hsettled', hop'⟩ | hc
      · exact Or.inl hc
      · obtain rfl := Option.some.inj (hsettled.symm.trans hsettled')
        exact absurd (hop.symm.trans hop') nofun
      · exact Or.inr (Or.inr hc)
    exact ⟨fun handler ho => hcomes (h.owed handler ho),
      fun pre d post hp hd handler ho => hcomes (h.sent pre d post hp hd handler ho)⟩
  | request op rest reply more hrequests hreply hmore =>
    obtain ⟨hrunning, -, -⟩ := hs.asked hrequests
    generalize hafter : ({ v with
      requests := rest
      held := op.subscribes
      owed := v.owing op
      answers := v.answers ++ (reply :: more).map (fun message => ⟨message, v.owing op⟩) } : TopicView) = after
    have hkept {handler : HandlerId} {ahead ahead' : List Delivery} (hc : v.Comes l handler ahead)
        (hsub : ∀ d ∈ ahead, d ∈ ahead') : after.Comes l handler ahead' := by
      subst hafter
      exact Comes.mono (v := { v with requests := rest, held := op.subscribes, owed := v.owing op, answers := _ }) hc
        (fun d hd ha => ⟨d, hsub d hd, ha⟩)
    -- What is owed from now on is owed before, or to the handler whose acknowledgement this is.
    have hnew {handler : HandlerId} {ahead : List Delivery} (ho : handler ∈ v.owing op)
        (hsub : ∀ d ∈ v.answers, d ∈ ahead) (hreplied : ⟨reply, v.owing op⟩ ∈ ahead) : after.Comes l handler ahead := by
      have hown : l.Own op := hs.own op (by unfold underway; rw [hrunning]; simp)
      unfold owing at ho
      rcases hown with hop | ⟨handler', hop⟩
      · rw [hop] at ho
        exact hkept (h.owed handler ho) hsub
      · rw [hop] at ho
        rcases List.mem_cons.mp ho with rfl | ho
        · subst hafter
          exact Or.inr (Or.inr ⟨op, hrunning, hop, _, hreplied, isAnswer_of_replyType hreply⟩)
        · exact hkept (h.owed handler ho) hsub
    have hanswers : after.answers = v.answers ++ ⟨reply, v.owing op⟩ :: more.map (fun message => ⟨message, v.owing op⟩) := by
      rw [← hafter]
      rfl
    have howed : after.owed = v.owing op := by rw [← hafter]
    refine ⟨fun handler ho => ?_, fun pre d post hp hd handler ho => ?_⟩
    · rw [howed] at ho
      rw [hanswers]
      exact hnew ho (fun d hd => List.mem_append_left _ hd) (by simp)
    · rw [hanswers] at hp
      rcases append_split hp with ⟨post', hold⟩ | ⟨pre', rfl, hnewer⟩
      · exact hkept (h.sent pre d post' hold hd handler ho) (fun _ hx => hx)
      · rcases pre' with _ | ⟨first, pre'⟩
        · obtain ⟨rfl, -⟩ := List.cons.inj hnewer
          rw [show (⟨reply, v.owing op⟩ : Delivery).message.isAnswer = true from isAnswer_of_replyType hreply] at hd
          cases hd
        · obtain ⟨rfl, hmore⟩ := List.cons.inj hnewer
          have hmem : d ∈ more.map (fun message => (⟨message, v.owing op⟩ : Delivery)) := by
            rw [hmore]
            exact List.mem_append_right _ List.mem_cons_self
          obtain ⟨message, -, rfl⟩ := List.mem_map.mp hmem
          exact hnew ho (fun x hx => List.mem_append_left _ hx) (by simp)
  | tell g messages hmessages =>
    have hkept {handler : HandlerId} {ahead ahead' : List Delivery} (hc : v.Comes l handler ahead)
        (hsub : ∀ d ∈ ahead, d ∈ ahead') :
        ({ v with answers := v.answers ++ messages.map (fun message => ⟨message, v.owed⟩) } : TopicView).Comes l handler
          ahead' :=
      Comes.mono (v := { v with answers := _ }) hc (fun d hd ha => ⟨d, hsub d hd, ha⟩)
    refine ⟨fun handler ho => hkept (h.owed handler ho) (fun d hd => List.mem_append_left _ hd),
      fun pre d post hp hd handler ho => ?_⟩
    rcases append_split hp with ⟨post', hold⟩ | ⟨pre', rfl, hnewer⟩
    · exact hkept (h.sent pre d post' hold hd handler ho) (fun _ hx => hx)
    · have hmem : d ∈ messages.map (fun message => (⟨message, v.owed⟩ : Delivery)) := by
        rw [hnewer]
        simp
      obtain ⟨message, -, rfl⟩ := List.mem_map.mp hmem
      exact hkept (h.owed handler ho) (fun x hx => List.mem_append_left _ hx)
  | heard d rest hanswers hd =>
    have hcomes {handler : HandlerId} {pre : List Delivery} (hc : v.Comes l handler (d :: pre)) :
        ({ v with answers := rest } : TopicView).Comes l handler pre := by
      refine Comes.mono (v := { v with answers := rest }) hc (fun x hx ha => ?_)
      rcases List.mem_cons.mp hx with rfl | hx
      · rw [hd] at ha
        cases ha
      · exact ⟨x, hx, ha⟩
    refine ⟨fun handler ho => hcomes ?_, fun pre x post hp hx handler ho => hcomes ?_⟩
    · rw [← hanswers]
      exact h.owed handler ho
    · exact h.sent (d :: pre) x post (by rw [hanswers, show rest = _ from hp]; rfl) hx handler ho
  | settles d rest op hanswers hd hrunning =>
    have hcomes {handler : HandlerId} {ahead pre : List Delivery} (hc : v.Comes l handler ahead) :
        ({ v with answers := rest, running := none, settled := some op } : TopicView).Comes l handler pre := by
      rcases hc with hc | ⟨op', hsettled', -⟩ | ⟨op', hrunning', hop', -⟩
      · exact Or.inl hc
      · rw [hs.turns (by rw [hrunning]; rfl)] at hsettled'
        cases hsettled'
      · obtain rfl := Option.some.inj (hrunning.symm.trans hrunning')
        exact Or.inr (Or.inl ⟨op, rfl, hop'⟩)
    refine ⟨fun handler ho => hcomes (h.owed handler ho), fun pre x post hp hx handler ho => ?_⟩
    exact hcomes (h.sent (d :: pre) x post (by rw [hanswers, show rest = _ from hp]; rfl) hx handler ho)

end TopicView

namespace TopicSession

variable {l : TopicLink} {s : TopicSession} {e : TopicSessionEvent}

/-! ## Sessions from rest on -/

theorem AtRest.kept (h : s.AtRest l) : s.Kept l := by
  obtain ⟨⟨hsettled, hrunning⟩, -⟩ :
      ((s.client.settledOp.map Prod.fst).toList = [] ∧ s.client.runningOp.toList = []) ∧ s.client.opQueue = [] := by
    have hidle := h.idle
    unfold underway at hidle
    rwa [List.append_eq_nil_iff, List.append_eq_nil_iff] at hidle
  have hrun : s.client.runningOp = none := Option.toList_eq_nil_iff.mp hrunning
  have hnone : s.client.settledOp = none := Option.map_eq_none_iff.mp (Option.toList_eq_nil_iff.mp hsettled)
  refine ⟨h.up, h.pending.trans hrun.symm, ?_, h.entries, h.online, ?_, ?_, ?_⟩
  · rw [hnone]
    exact nofun
  · unfold view
    rw [hrun, h.requests, h.answers]
    exact .none nofun
  · intro hsome
    rw [show (s.view l).running = none from hrun] at hsome
    cases hsome
  · intro op hop
    rw [show (s.view l).underway = [] from h.idle] at hop
    cases hop

theorem AtRest.agreed_view (h : s.AtRest l) : (s.view l).Agreed := by
  have hidle : (s.view l).underway = [] := h.idle
  refine ⟨fun op rest hu => ?_, fun op rest hu => ?_, fun _ _ => h.agreed⟩ <;>
  · rw [hidle] at hu
    cases hu

theorem AtRest.owing (h : s.AtRest l) : (s.view l).Owing l := by
  refine ⟨fun handler ho => ?_, fun pre d post hp => ?_⟩
  · rw [show (s.view l).owed = [] from h.owed] at ho
    cases ho
  · rw [show (s.view l).answers = [] from h.answers] at hp
    exact absurd hp (by simp)

/-- The last handler of the topic leaves while a subscription to it is under way, or the timer of an operation fires. -/
def Crosses (l : TopicLink) (s : TopicSession) (e : TopicSessionEvent) : Prop :=
  s.Expires e ∨ ∃ handler, e = .unsubscribe handler ∧ handlers l s.client ≠ [] ∧
    (handlers l s.client).filter (· ≠ handler) = [] ∧ ∃ op ∈ s.underway, op.subscribes = true

/-- A message of the topic is dispatched between the acknowledgement of a subscription and what awaits it, its handler not
registered, or the timer of an operation fires. -/
def Outruns (l : TopicLink) (s : TopicSession) (e : TopicSessionEvent) : Prop :=
  s.Expires e ∨ ∃ d rest payload op outcome handler, e = .dispatch ∧ s.answers = d :: rest ∧
    d.message = .topicMessage l.backendId l.topic payload ∧ s.client.settledOp = some (op, outcome) ∧
    op.caller = l.subscribe handler ∧ handler ∉ handlers l s.client

/-- The message dispatched goes to every handler that it is owed to. -/
def Delivers (l : TopicLink) (s : TopicSession) (e : TopicSessionEvent) : Prop :=
  e = .dispatch → ∀ d rest payload, s.answers = d :: rest → d.message = .topicMessage l.backendId l.topic payload →
    ∀ handler ∈ d.owed, .deliver handler payload ∈ (s.step l e).client.outbox

theorem Kept.crosses (h : s.Kept l) (ha : (s.view l).Agreed) (hu : s.Undisturbed l e) (hc : ¬ s.Crosses l e) :
    (s.step l e).Kept l ∧ ((s.step l e).view l).Agreed := by
  obtain ⟨hkept, hmove⟩ := h.step hu (fun ht => hc (Or.inl ht))
  refine ⟨hkept, ha.move h.sound hmove (fun handler he hne hfilter op hop => ?_)⟩
  rw [← Bool.not_eq_true]
  exact fun hsub => hc (Or.inr ⟨handler, he, hne, hfilter, op, hop, hsub⟩)

theorem Kept.outruns (h : s.Kept l) (ho : (s.view l).Owing l) (hu : s.Undisturbed l e) (ht : ¬ s.Outruns l e) :
    (s.step l e).Kept l ∧ ((s.step l e).view l).Owing l := by
  obtain ⟨hkept, hmove⟩ := h.step hu (fun hex => ht (Or.inl hex))
  exact ⟨hkept, ho.move h.sound hmove⟩

/-- What is owed to a handler is delivered when it arrives, unless it outruns the handler. -/
theorem Kept.delivers (h : s.Kept l) (ho : (s.view l).Owing l) (ht : ¬ s.Outruns l e) : s.Delivers l e := by
  rintro rfl d rest payload hanswers hd handler howed
  have hquiet : d.message.isAnswer = false := by rw [hd]; rfl
  have hregistered : handler ∈ handlers l s.client := by
    rcases ho.sent [] d rest hanswers hquiet handler howed with hc | ⟨op, hsettled, hop⟩ | ⟨-, -, -, x, hx, -⟩
    · exact hc
    · by_contra hno
      obtain ⟨p, hp, rfl⟩ := Option.map_eq_some_iff.mp hsettled
      exact ht (Or.inr ⟨d, rest, payload, p.1, p.2, handler, rfl, hanswers, hd, hp, hop, hno⟩)
    · cases hx
  have hstep : (s.step l .dispatch).client = s.client.quiet.routeMessage (.topicMessage l.backendId l.topic payload) := by
    unfold TopicSession.step
    rw [hanswers, ← hd]
    exact h.quiet.up.socketMessage d.message
  rw [hstep]
  unfold handlers at hregistered
  cases hentry : s.client.topicHandlers.get l.key with
  | none =>
    rw [hentry] at hregistered
    cases hregistered
  | some entry =>
    rw [hentry] at hregistered
    rw [GatewayClient.routeMessage_topicMessage (c := s.client.quiet) hentry, GatewayClient.deliver_eq]
    exact List.mem_append_right _ (List.mem_map_of_mem hregistered)

end TopicSession

/-! ## The theorems -/

open TopicSession

/-- In a run on a connection that stays up, in which no last handler leaves while a subscription is under way and no timer fires,
the gateway holds the subscription exactly when a handler is registered, whenever nothing is under way. -/
theorem subscriptions_agree (l : TopicLink) {s : TopicSession} (hrest : s.AtRest l) (es : List TopicSessionEvent)
    (hup : (topicSession l s).Meets (fun s e => s.Undisturbed l e) es)
    (hcond : (topicSession l s).Meets (fun s e => ¬ s.Crosses l e) es)
    (hsettled : ((topicSession l s).run es).underway = []) :
    held l ((topicSession l s).run es).gateway = true ↔ handlers l ((topicSession l s).run es).client ≠ [] := by
  have hagreed : ((topicSession l s).run es).Kept l ∧ (((topicSession l s).run es).view l).Agreed := by
    refine EventMachine.Meets.invariant (M := topicSession l s) (C := fun s e => s.Undisturbed l e ∧ ¬ s.Crosses l e)
      (I := fun s => s.Kept l ∧ (s.view l).Agreed) (J := fun _ => True) (fun _ => trivial) ⟨hrest.kept, hrest.agreed_view⟩ ?_ es
      (fun pre e hp => ⟨hup pre e hp, hcond pre e hp⟩)
    exact fun _ _ _ h hc => h.1.crosses h.2 hc.1 hc.2
  have hidle : (((topicSession l s).run es).view l).underway = [] := hsettled
  refine hagreed.2.waiting (hagreed.1.sound.not_answered_idle hidle) (fun op rest hu => ?_)
  rw [hidle] at hu
  cases hu

/-- In a run on a connection that stays up, in which no message of the topic outruns the handler it is owed to and no timer
fires, every message of the topic goes to every handler whose subscription the gateway acknowledged before it sent the message
and that has not unsubscribed since. -/
theorem subscribed_handlers_hear (l : TopicLink) {s : TopicSession} (hrest : s.AtRest l) (es : List TopicSessionEvent)
    (hup : (topicSession l s).Meets (fun s e => s.Undisturbed l e) es)
    (hcond : (topicSession l s).Meets (fun s e => ¬ s.Outruns l e) es) :
    (topicSession l s).Meets (fun s e => s.Delivers l e) es := by
  have howing (pre : List TopicSessionEvent) (hp : pre <+: es) :
      ((topicSession l s).run pre).Kept l ∧ (((topicSession l s).run pre).view l).Owing l := by
    refine EventMachine.Meets.invariant (M := topicSession l s) (C := fun s e => s.Undisturbed l e ∧ ¬ s.Outruns l e)
      (I := fun s => s.Kept l ∧ (s.view l).Owing l) (J := fun _ => True) (fun _ => trivial) ⟨hrest.kept, hrest.owing⟩ ?_ pre
      (EventMachine.Meets.of_prefix (fun pre e hp => ⟨hup pre e hp, hcond pre e hp⟩) hp)
    exact fun _ _ _ h hc => h.1.outruns h.2 hc.1 hc.2
  intro pre e hp
  obtain ⟨hkept, ho⟩ := howing pre ((List.prefix_append _ _).trans hp)
  exact hkept.delivers ho (hcond pre e hp)

/-! ## A client and a backend -/

/-- A request about the topic `t` of the backend `B`. -/
def sampleTopicRequest (type : String) : JsonValue := .obj [("type", .str type), ("backendId", .str "B"), ("topic", .str "t")]

/-- What the backend publishes and lets the gateway retain. -/
def sampleRetained : JsonValue :=
  .obj [("type", .str "topic_publish"), ("topic", .str "t"), ("payload", .bool true), ("retain", .bool true)]

/-- A device's connection to the gateway and the topic `t` of the backend `B`. -/
def sampleLink : TopicLink where
  Γ := Ctx.sample [sampleTopicRequest "topic_subscribe", sampleTopicRequest "topic_unsubscribe", sampleHello "zgb_old" true,
    sampleHello "zgd_device" false, sampleRetained]
  options := sampleClientOptions
  ws := 0
  gatewaySocket := 2
  peerSessionId := "ssss"
  backendId := "B"
  topic := "t"
  subscribeText := (textFrame (sampleTopicRequest "topic_subscribe")).data
  unsubscribeText := (textFrame (sampleTopicRequest "topic_unsubscribe")).data
  backendId_ne := by decide
  topic_ne := by decide
  subscribe_parses := rfl
  unsubscribe_parses := rfl

/-- The backend connects and publishes, and the device connects. -/
def sampleTopicEvents : List Event :=
  [.connect, .text 0 (sampleHello "zgb_old" true), .connect, .text 2 (sampleHello "zgd_device" false), .text 0 sampleRetained]

/-- The device's connection, nothing under way. -/
def sampleTopicSession : TopicSession :=
  { client := (client sampleClientOptions).run sampleConnect
    gateway := (gateway sampleLink.Γ sampleStorage).run sampleTopicEvents
    requests := []
    answers := []
    owed := [] }

theorem sampleTopicSession_atRest : sampleTopicSession.AtRest sampleLink where
  up := ⟨rfl, rfl, ⟨.connectCall, rfl⟩, nofun⟩
  pending := rfl
  entries := nofun
  idle := rfl
  online := ⟨by decide +kernel, by decide +kernel, by decide +kernel,
    (sampleTopicSession.gateway.state.peers.get "ssss").get (by decide +kernel), (Option.some_get _).symm,
    by decide +kernel, by decide +kernel, by decide +kernel⟩
  requests := rfl
  answers := rfl
  owed := rfl
  agreed := by decide +kernel

/-- No timer and no other event of the gateway, a handler leaves only with nothing under way, and what awaits an acknowledgement
goes on before the next message. -/
def calm (s : TopicSession) : TopicSessionEvent → Bool
  | .unsubscribe _ => s.underway = []
  | .dispatch => s.client.settledOp.isNone
  | .opTimeout _ | .gateway _ => false
  | _ => true

theorem calm_steps {s : TopicSession} {e : TopicSessionEvent} (h : calm s e = true) (l : TopicLink) :
    s.Undisturbed l e ∧ ¬ s.Crosses l e ∧ ¬ s.Outruns l e := by
  refine ⟨?_, ?_, ?_⟩
  · rintro g rfl
    cases h
  · rintro (⟨op, rfl, -⟩ | ⟨handler, rfl, -, -, op, hop, -⟩)
    · cases h
    · rw [show s.underway = [] from of_decide_eq_true h] at hop
      cases hop
  · rintro (⟨op, rfl, -⟩ | ⟨d, rest, payload, op, outcome, handler, rfl, -, -, hsettled, -⟩)
    · cases h
    · have hnone : s.client.settledOp.isNone = true := h
      rw [hsettled] at hnone
      cases hnone

/-- One handler subscribes, hears the retained payload and leaves while another one subscribes behind it. -/
def sampleHandover : List TopicSessionEvent :=
  [.subscribe 1, .runOp, .request, .dispatch, .resumeOp, .dispatch, .unsubscribe 1, .subscribe 2, .runOp, .request, .dispatch,
    .resumeOp, .runOp, .request, .dispatch, .resumeOp, .dispatch]

theorem sampleHandover_calm : (topicSession sampleLink sampleTopicSession).Meets (fun s e => calm s e = true) sampleHandover := by
  decide +kernel

theorem subscriptions_agree_handover :
    held sampleLink ((topicSession sampleLink sampleTopicSession).run sampleHandover).gateway = true ↔
      handlers sampleLink ((topicSession sampleLink sampleTopicSession).run sampleHandover).client ≠ [] :=
  subscriptions_agree sampleLink sampleTopicSession_atRest sampleHandover
    (fun pre e hp => (calm_steps (sampleHandover_calm pre e hp) sampleLink).1)
    (fun pre e hp => (calm_steps (sampleHandover_calm pre e hp) sampleLink).2.1) (by decide +kernel)

theorem subscribed_handlers_hear_handover :
    (topicSession sampleLink sampleTopicSession).Meets (fun s e => s.Delivers sampleLink e) sampleHandover :=
  subscribed_handlers_hear sampleLink sampleTopicSession_atRest sampleHandover
    (fun pre e hp => (calm_steps (sampleHandover_calm pre e hp) sampleLink).1)
    (fun pre e hp => (calm_steps (sampleHandover_calm pre e hp) sampleLink).2.2)

/-- One handler is registered; another one subscribes, and the first leaves while that is under way. -/
def sampleCrossing : List TopicSessionEvent :=
  [.subscribe 1, .runOp, .request, .dispatch, .resumeOp, .dispatch, .subscribe 2, .unsubscribe 1, .runOp, .request, .dispatch,
    .resumeOp, .dispatch, .runOp, .request, .dispatch, .resumeOp]

/-- A run without another event of the gateway is undisturbed. -/
theorem undisturbed_of (l : TopicLink) (s : TopicSession) {es : List TopicSessionEvent} (h : ∀ g, .gateway g ∉ es) :
    (topicSession l s).Meets (fun s e => s.Undisturbed l e) es := by
  rintro pre e hp g rfl
  exact absurd (hp.subset (List.mem_append_right _ (List.mem_singleton_self _))) (h g)

/-- The second handler stays registered, nothing is under way, and the gateway holds no subscription. -/
theorem subscriptions_cross :
    sampleTopicSession.AtRest sampleLink ∧
      (topicSession sampleLink sampleTopicSession).Meets (fun s e => s.Undisturbed sampleLink e) sampleCrossing ∧
      ((topicSession sampleLink sampleTopicSession).run sampleCrossing).underway = [] ∧
      handlers sampleLink ((topicSession sampleLink sampleTopicSession).run sampleCrossing).client = [2] ∧
      held sampleLink ((topicSession sampleLink sampleTopicSession).run sampleCrossing).gateway = false :=
  ⟨sampleTopicSession_atRest, undisturbed_of _ _ (fun g hg => by simp [sampleCrossing] at hg), by decide +kernel⟩

/-- The retained payload comes in one batch with the acknowledgement. -/
def sampleBatch : List TopicSessionEvent := [.subscribe 1, .runOp, .request, .dispatch]

/-- The next message is one of the topic `t` and owed to the handler 1. -/
def owesNext (s : TopicSession) : Bool :=
  match s.answers with
  | ⟨.topicMessage backendId topic _, owed⟩ :: _ => backendId = "B" && topic = "t" && 1 ∈ owed
  | _ => false

theorem owesNext_eq {s : TopicSession} (h : owesNext s = true) :
    ∃ payload owed rest, s.answers = ⟨.topicMessage "B" "t" payload, owed⟩ :: rest ∧ 1 ∈ owed := by
  unfold owesNext at h
  split at h
  · rename_i backendId topic payload owed rest hanswers
    simp only [Bool.and_eq_true, decide_eq_true_eq] at h
    obtain ⟨⟨rfl, rfl⟩, howed⟩ := h
    exact ⟨payload, owed, rest, hanswers, howed⟩
  · cases h

/-- It is dispatched before the handler is registered and goes to nobody. -/
theorem retained_payload_lost :
    sampleTopicSession.AtRest sampleLink ∧
      (topicSession sampleLink sampleTopicSession).Meets (fun s e => s.Undisturbed sampleLink e) (sampleBatch ++ [.dispatch]) ∧
      ¬ (topicSession sampleLink sampleTopicSession).Meets (fun s e => s.Delivers sampleLink e)
        (sampleBatch ++ [.dispatch]) := by
  refine ⟨sampleTopicSession_atRest, undisturbed_of _ _ (fun g hg => by simp [sampleBatch] at hg), fun h => ?_⟩
  obtain ⟨payload, owed, rest, hanswers, howed⟩ :=
    owesNext_eq (s := (topicSession sampleLink sampleTopicSession).run sampleBatch) (by decide +kernel)
  have hdelivered := h sampleBatch .dispatch (List.prefix_refl _) rfl _ rest payload hanswers rfl 1 howed
  have hnothing : (((topicSession sampleLink sampleTopicSession).run sampleBatch).step sampleLink .dispatch).client.outbox = [] :=
    List.eq_nil_of_length_eq_zero (by decide +kernel)
  rw [hnothing] at hdelivered
  cases hdelivered

end ZclaudiaGateway
