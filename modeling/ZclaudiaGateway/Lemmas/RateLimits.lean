import ZclaudiaGateway.Server

/-!
# Rate limits

A bucket keeps a fixed window for each key, begun by the key's first attempt and over some time after; a sweep drops the windows
that are over. What a bucket decides about a key is a matter of the key's window alone, so the attempts of other keys and the
sweeps make no difference to it.
-/

namespace ZclaudiaGateway

open Gateway

/-! ## Buckets -/

/-- What happens to a bucket: an attempt under a key, or the sweep of the windows that are over. -/
inductive BucketEvent where
  | attempt (key : String)
  | cleanup
deriving DecidableEq

/-- A bucket after one event, with the time of it. -/
def bucketStep (limit window : Nat) (map : RateMap) (e : Nat × BucketEvent) : RateMap :=
  match e.2 with
  | .attempt key => (checkLimit map key limit window e.1).2
  | .cleanup => unexpired e.1 map

/-- A bucket as a machine; it is empty at first. -/
def bucketMachine (limit window : Nat) : EventMachine RateMap (Nat × BucketEvent) :=
  { init := .empty, step := bucketStep limit window }

/-- What a bucket decides of an attempt. -/
structure Decision where
  key : String
  time : Nat
  admitted : Bool
deriving DecidableEq

def decision (limit window : Nat) (map : RateMap) (e : Nat × BucketEvent) : List Decision :=
  match e.2 with
  | .attempt key => [⟨key, e.1, (checkLimit map key limit window e.1).1⟩]
  | .cleanup => []

/-- What a bucket decides over a run, the oldest first. -/
def decisions (limit window : Nat) (es : List (Nat × BucketEvent)) : List Decision :=
  (bucketMachine limit window).history (decision limit window) es

/-- The attempts under a key, in a run without any other event. -/
def ownAttempts (key : String) (es : List (Nat × BucketEvent)) : List (Nat × BucketEvent) :=
  es.filter (fun e => e.2 = .attempt key)

/-- The times of a run never go back. -/
def Forward (es : List (Nat × BucketEvent)) : Prop := es.Pairwise (fun a b => a.1 ≤ b.1)

namespace RateEntry

/-- The entry of a key after an attempt in its window, or the entry that begins one. -/
def attempted (window now : Nat) : Option RateEntry → RateEntry
  | some entry => { entry with count := entry.count + 1 }
  | none => { count := 1, resetAt := now + window }

end RateEntry

section Buckets

variable {limit window now : Nat} {map map' : RateMap} {key : String}

/-- The window of a key, unless it is over. -/
def currentWindow (now : Nat) (map : RateMap) (key : String) : Option RateEntry :=
  (map.get key).filter (fun entry => now ≤ entry.resetAt)

theorem currentWindow_eq_some {entry : RateEntry} :
    currentWindow now map key = some entry ↔ map.get key = some entry ∧ now ≤ entry.resetAt := by
  simp [currentWindow, Option.filter_eq_some_iff]

/-- A window that is over stays over. -/
theorem currentWindow_later {later : Nat} (h : now ≤ later) (map : RateMap) (key : String) :
    currentWindow later map key = (currentWindow now map key).filter (fun entry => later ≤ entry.resetAt) := by
  unfold currentWindow
  rcases map.get key with _ | entry
  · rfl
  · rw [Option.filter_filter]
    congr 1
    funext entry
    simp only [← Bool.decide_and, decide_eq_decide]
    omega

/-- An attempt is decided by the key's window, and leaves an entry of it. -/
theorem checkLimit_eq (map : RateMap) (key : String) (limit window now : Nat) :
    (checkLimit map key limit window now).1 =
        (currentWindow now map key).all (fun entry => entry.count + 1 ≤ limit) ∧
      ∀ key', (checkLimit map key limit window now).2.get key' =
        if key' = key then some (RateEntry.attempted window now (currentWindow now map key)) else map.get key' := by
  unfold checkLimit currentWindow
  rcases hget : map.get key with _ | entry
  · exact ⟨rfl, fun key' => InsertionMap.get_set _ _ _ _⟩
  · dsimp only
    by_cases hover : now > entry.resetAt
    · rw [if_pos hover, Option.filter_some, if_neg (by simpa using hover)]
      exact ⟨rfl, fun key' => InsertionMap.get_set _ _ _ _⟩
    · rw [if_neg hover, Option.filter_some, if_pos (by simpa using hover)]
      refine ⟨rfl, fun key' => ?_⟩
      rw [InsertionMap.get_modify]
      split
      · rename_i he
        rw [he, hget]
        rfl
      · rfl

theorem checkLimit_admits (map : RateMap) (key : String) (limit window now : Nat) :
    (checkLimit map key limit window now).1 =
      (currentWindow now map key).all (fun entry => entry.count + 1 ≤ limit) :=
  (checkLimit_eq map key limit window now).1

theorem get_checkLimit_self (map : RateMap) (key : String) (limit window now : Nat) :
    (checkLimit map key limit window now).2.get key =
      some (RateEntry.attempted window now (currentWindow now map key)) := by
  rw [(checkLimit_eq map key limit window now).2, if_pos rfl]

theorem get_checkLimit_of_ne {key' : String} (h : key' ≠ key) (map : RateMap) (limit window now : Nat) :
    (checkLimit map key limit window now).2.get key' = map.get key' := by
  rw [(checkLimit_eq map key limit window now).2, if_neg h]

theorem currentWindow_unexpired (now : Nat) (map : RateMap) (key : String) :
    currentWindow now (unexpired now map) key = currentWindow now map key := by
  unfold currentWindow unexpired
  rw [InsertionMap.get_filter]
  rcases map.get key with _ | entry
  · rfl
  · rw [Option.filter_filter]
    simp

/-! ### Other keys and sweeps -/

/-- An event that is no attempt under a key leaves the key's window alone. -/
theorem currentWindow_step_other {e : Nat × BucketEvent} (h : e.2 ≠ .attempt key) (map : RateMap) :
    currentWindow e.1 (bucketStep limit window map e) key = currentWindow e.1 map key := by
  obtain ⟨now, call⟩ := e
  cases call with
  | attempt key' =>
    have hne : key ≠ key' := fun he => h (by rw [he])
    unfold currentWindow bucketStep
    dsimp only
    rw [get_checkLimit_of_ne hne]
  | cleanup => exact currentWindow_unexpired now map key

/-- An attempt under a key leaves of the key's window what the window was before. -/
theorem currentWindow_step_own {e : Nat × BucketEvent} (h : e.2 = .attempt key)
    (hmaps : currentWindow e.1 map key = currentWindow e.1 map' key) :
    (bucketStep limit window map e).get key = (bucketStep limit window map' e).get key := by
  obtain ⟨now, call⟩ := e
  cases h
  unfold bucketStep
  dsimp only at hmaps ⊢
  rw [get_checkLimit_self, get_checkLimit_self, hmaps]

theorem forward_snoc {es : List (Nat × BucketEvent)} {e : Nat × BucketEvent} :
    Forward (es ++ [e]) ↔ Forward es ∧ ∀ a ∈ es, a.1 ≤ e.1 := by
  unfold Forward
  rw [List.pairwise_append]
  simp

theorem ownAttempts_snoc (key : String) (es : List (Nat × BucketEvent)) (e : Nat × BucketEvent) :
    ownAttempts key (es ++ [e]) = ownAttempts key es ++ if e.2 = .attempt key then [e] else [] := by
  unfold ownAttempts
  by_cases hown : e.2 = .attempt key <;> simp [hown]

/-- The window of a key is the same without the other events. -/
theorem currentWindow_ownAttempts {es : List (Nat × BucketEvent)} (hforward : Forward es) (hnow : ∀ e ∈ es, e.1 ≤ now) :
    currentWindow now ((bucketMachine limit window).run es) key =
      currentWindow now ((bucketMachine limit window).run (ownAttempts key es)) key := by
  induction es using List.reverseRecOn generalizing now with
  | nil => rfl
  | append_singleton es e ih =>
    obtain ⟨hforward, hlast⟩ := forward_snoc.mp hforward
    have hsame := ih hforward hlast
    have hle : e.1 ≤ now := hnow e (by simp)
    rw [EventMachine.run_snoc, currentWindow_later hle, currentWindow_later hle]
    congr 1
    rw [ownAttempts_snoc]
    by_cases hown : e.2 = .attempt key
    · rw [if_pos hown, EventMachine.run_snoc]
      unfold currentWindow
      congr 1
      exact currentWindow_step_own hown hsame
    · rw [if_neg hown, List.append_nil, ← hsame]
      exact currentWindow_step_other hown _

theorem decision_key (limit window : Nat) (map : RateMap) (e : Nat × BucketEvent) :
    (decision limit window map e).filter (fun d => d.key = key) =
      if e.2 = .attempt key then decision limit window map e else [] := by
  obtain ⟨now, call⟩ := e
  unfold decision
  cases call with
  | attempt key' =>
    dsimp only
    by_cases hk : key' = key <;> simp [hk]
  | cleanup => simp

/-- What a bucket decides about a key is the same without the attempts of other keys and without the sweeps. -/
theorem decisions_isolated {es : List (Nat × BucketEvent)} (hforward : Forward es) (key : String) :
    (decisions limit window es).filter (fun d => d.key = key) = decisions limit window (ownAttempts key es) := by
  induction es using List.reverseRecOn with
  | nil => rfl
  | append_singleton es e ih =>
    obtain ⟨hforward, hlast⟩ := forward_snoc.mp hforward
    have hsame := @currentWindow_ownAttempts limit window e.1 key es hforward hlast
    have ih := ih hforward
    unfold decisions at ih ⊢
    rw [EventMachine.history_snoc, List.filter_append, ih, ownAttempts_snoc, decision_key]
    by_cases hown : e.2 = .attempt key
    · rw [if_pos hown, if_pos hown, EventMachine.history_snoc]
      congr 1
      unfold decision
      rw [hown]
      dsimp only
      rw [checkLimit_admits, checkLimit_admits, hsame]
    · rw [if_neg hown, if_neg hown, List.append_nil, List.append_nil]

/-! ### How many attempts are admitted -/

/-- The times at which attempts were admitted. -/
def admittedTimes (ds : List Decision) : List Nat := (ds.filter Decision.admitted).map Decision.time

/-- How many of the times are in a stretch. -/
def within (first last : Nat) (ts : List Nat) : Nat := ts.countP (fun t => first ≤ t ∧ t ≤ last)

theorem within_snoc (first last : Nat) (ts : List Nat) (t : Nat) :
    within first last (ts ++ [t]) = within first last ts + if first ≤ t ∧ t ≤ last then 1 else 0 := by
  simp [within, List.countP_append, List.countP_singleton]

/-- What is in a stretch is in one of two that cover it. -/
theorem within_le_add {first last first' last' first'' last'' : Nat} {ts : List Nat}
    (h : ∀ t ∈ ts, first ≤ t → t ≤ last → first' ≤ t ∧ t ≤ last' ∨ first'' ≤ t ∧ t ≤ last'') :
    within first last ts ≤ within first' last' ts + within first'' last'' ts := by
  unfold within
  induction ts with
  | nil => simp
  | cons t ts ih =>
    have ih := ih (fun t ht => h t (List.mem_cons_of_mem _ ht))
    have ht := h t (by simp)
    simp only [List.countP_cons, decide_eq_true_eq]
    split <;> split <;> split <;> omega

/-- What is in a stretch is in one that covers it. -/
theorem within_mono {first last first' last' : Nat} {ts : List Nat}
    (h : ∀ t ∈ ts, first ≤ t → t ≤ last → first' ≤ t ∧ t ≤ last') : within first last ts ≤ within first' last' ts := by
  refine List.countP_mono_left fun t ht hin => ?_
  have hin : first ≤ t ∧ t ≤ last := of_decide_eq_true hin
  exact decide_eq_true (h t ht hin.1 hin.2)

/-- How the times at which a key was admitted are spread around the window that its entry keeps: the window holds no more than
the limit, and neither does what comes before it of any stretch of a window's length that meets it. -/
structure Spread (limit window : Nat) (entry : RateEntry) (ts : List Nat) : Prop where
  opened : window ≤ entry.resetAt
  past : ∀ t ∈ ts, t ≤ entry.resetAt
  counted : within (entry.resetAt - window) entry.resetAt ts ≤ entry.count
  limited : within (entry.resetAt - window) entry.resetAt ts ≤ limit
  before : ∀ first last, last < entry.resetAt - window → entry.resetAt - window ≤ first + window →
    within first last ts ≤ limit
  stretch : ∀ first, within first (first + window) ts ≤ 2 * limit

variable {entry : RateEntry} {ts : List Nat}

/-- The first attempt of a key. -/
theorem Spread.first (hlimit : 1 ≤ limit) (window now : Nat) :
    Spread limit window { count := 1, resetAt := now + window } [now] := by
  have hone (first last : Nat) : within first last [now] ≤ 1 := List.countP_le_length
  refine ⟨Nat.le_add_left _ _, by simp, hone _ _, (hone _ _).trans hlimit, fun first last _ _ => (hone _ _).trans hlimit,
    fun first => ?_⟩
  have := hone first (first + window)
  omega

/-- An attempt that begins another window. -/
theorem Spread.begin (h : Spread limit window entry ts) (hlimit : 1 ≤ limit) (hover : entry.resetAt < now) :
    Spread limit window { count := 1, resetAt := now + window } (ts ++ [now]) := by
  have hopened := h.opened
  -- Nothing was admitted since the window before ended, and a stretch that meets the new one meets only that one.
  have hnone (last : Nat) : within now last ts = 0 := by
    unfold within
    rw [List.countP_eq_zero]
    intro t ht hin
    have hin : now ≤ t ∧ t ≤ last := of_decide_eq_true hin
    have := h.past t ht
    omega
  have hlast {first : Nat} (last : Nat) (hfirst : entry.resetAt - window ≤ first) : within first last ts ≤ limit := by
    refine le_trans (within_mono fun t ht hge _ => ⟨by omega, h.past t ht⟩) h.limited
  refine ⟨Nat.le_add_left _ _, fun t ht => ?_, ?_, ?_, fun first last hbefore hmeets => ?_, fun first => ?_⟩
  · rcases List.mem_append.mp ht with ht | ht
    · have := h.past t ht
      dsimp only
      omega
    · rw [List.mem_singleton.mp ht]
      exact Nat.le_add_right _ _
  · dsimp only
    rw [Nat.add_sub_cancel, within_snoc, hnone, if_pos ⟨le_refl now, Nat.le_add_right _ _⟩]
  · dsimp only
    rw [Nat.add_sub_cancel, within_snoc, hnone, if_pos ⟨le_refl now, Nat.le_add_right _ _⟩]
    omega
  · dsimp only at hbefore hmeets
    rw [within_snoc, if_neg (by omega), Nat.add_zero]
    exact hlast last (by omega)
  · rw [within_snoc]
    split
    · have := @hlast first (first + window) (by omega)
      omega
    · exact h.stretch first

/-- An attempt in the window that is admitted. -/
theorem Spread.admit (h : Spread limit window entry ts) (hnow : now ≤ entry.resetAt)
    (hbegun : entry.resetAt - window ≤ now) (hroom : entry.count + 1 ≤ limit) :
    Spread limit window { entry with count := entry.count + 1 } (ts ++ [now]) := by
  have hcounted := h.counted
  have hadded : within (entry.resetAt - window) entry.resetAt (ts ++ [now]) =
      within (entry.resetAt - window) entry.resetAt ts + 1 := by
    rw [within_snoc, if_pos ⟨hbegun, hnow⟩]
  refine ⟨h.opened, fun t ht => ?_, ?_, ?_, fun first last hbefore hmeets => ?_, fun first => ?_⟩
  · rcases List.mem_append.mp ht with ht | ht
    · exact h.past t ht
    · rw [List.mem_singleton.mp ht]
      exact hnow
  · dsimp only
    omega
  · dsimp only
    omega
  · dsimp only at hbefore hmeets
    rw [within_snoc, if_neg (by omega), Nat.add_zero]
    exact h.before first last hbefore hmeets
  · rw [within_snoc]
    split
    · -- What the stretch held was of the time before the window or of the window itself.
      have hsplit : within first (first + window) ts ≤
          within first (entry.resetAt - window - 1) ts + within (entry.resetAt - window) entry.resetAt ts :=
        within_le_add fun t ht hge _ => by
          have := h.past t ht
          omega
      rcases Nat.eq_zero_or_pos (entry.resetAt - window) with hzero | hpos
      · have hall : within first (first + window) ts ≤ within (entry.resetAt - window) entry.resetAt ts :=
          within_mono fun t ht _ _ => ⟨by omega, h.past t ht⟩
        omega
      · have := h.before first (entry.resetAt - window - 1) (by omega) (by omega)
        omega
    · exact h.stretch first

/-- An attempt in the window that is refused. -/
theorem Spread.refuse (h : Spread limit window entry ts) :
    Spread limit window { entry with count := entry.count + 1 } ts :=
  ⟨h.opened, h.past, Nat.le_succ_of_le h.counted, h.limited, h.before, h.stretch⟩

theorem admittedTimes_append (ds ds' : List Decision) : admittedTimes (ds ++ ds') = admittedTimes ds ++ admittedTimes ds' := by
  simp [admittedTimes]

/-- After a run of attempts under one key: there was none, or they are spread around the key's window. -/
theorem spread_run (hlimit : 1 ≤ limit) {es : List (Nat × BucketEvent)} (hforward : Forward es)
    (hown : ∀ e ∈ es, e.2 = .attempt key) :
    es = [] ∨ ∃ entry, ((bucketMachine limit window).run es).get key = some entry ∧
      Spread limit window entry (admittedTimes (decisions limit window es)) ∧
      ∃ e ∈ es, e.1 = entry.resetAt - window := by
  induction es using List.reverseRecOn with
  | nil => exact Or.inl rfl
  | append_singleton es e ih =>
    right
    obtain ⟨hforward, hlast⟩ := forward_snoc.mp hforward
    have ih := ih hforward fun e he => hown e (List.mem_append_left _ he)
    have he : e.2 = .attempt key := hown e (by simp)
    obtain ⟨now, call⟩ := e
    subst he
    have hget : ((bucketMachine limit window).run (es ++ [(now, .attempt key)])).get key =
        some (RateEntry.attempted window now (currentWindow now ((bucketMachine limit window).run es) key)) := by
      rw [EventMachine.run_snoc]
      exact get_checkLimit_self _ _ _ _ _
    have hdecided : decisions limit window (es ++ [(now, .attempt key)]) = decisions limit window es ++
        [⟨key, now, (currentWindow now ((bucketMachine limit window).run es) key).all fun entry => entry.count + 1 ≤ limit⟩] := by
      unfold decisions
      rw [EventMachine.history_snoc]
      unfold decision
      dsimp only
      rw [checkLimit_admits]
    refine ⟨_, hget, ?_⟩
    rw [hdecided, admittedTimes_append]
    rcases ih with rfl | ⟨entry, hentry, hspread, e, he, hbegun⟩
    · refine ⟨.first hlimit window now, (now, .attempt key), by simp, ?_⟩
      exact (Nat.add_sub_cancel now window).symm
    · by_cases hnow : now ≤ entry.resetAt
      · rw [currentWindow_eq_some.mpr ⟨hentry, hnow⟩]
        refine ⟨?_, e, by simp [he], hbegun⟩
        have hle : entry.resetAt - window ≤ now := hbegun ▸ hlast e he
        rw [Option.all_some]
        by_cases hroom : entry.count + 1 ≤ limit
        · rw [decide_eq_true hroom]
          exact hspread.admit hnow hle hroom
        · rw [decide_eq_false hroom]
          change Spread limit window _ (_ ++ [])
          rw [List.append_nil]
          exact hspread.refuse
      · have hover : currentWindow now ((bucketMachine limit window).run es) key = none := by
          unfold currentWindow
          rw [hentry, Option.filter_some, if_neg (by simpa using hnow)]
        rw [hover]
        refine ⟨hspread.begin hlimit (by omega), (now, .attempt key), by simp, ?_⟩
        exact (Nat.add_sub_cancel now window).symm

/-- No stretch of a window's length holds more than twice the limit. -/
theorem stretch_le (hlimit : 1 ≤ limit) {es : List (Nat × BucketEvent)} (hforward : Forward es) (key : String) (first : Nat) :
    ((decisions limit window es).filter (fun d => d.key = key ∧ d.admitted ∧ first ≤ d.time ∧ d.time ≤ first + window)).length ≤
      2 * limit := by
  have hown : ∀ e ∈ ownAttempts key es, e.2 = .attempt key := fun e he => of_decide_eq_true (List.mem_filter.mp he).2
  have hstretch : within first (first + window) (admittedTimes (decisions limit window (ownAttempts key es))) ≤ 2 * limit := by
    have hforward' : Forward (ownAttempts key es) := hforward.sublist List.filter_sublist
    rcases @spread_run limit window key hlimit _ hforward' hown with hnil | ⟨entry, -, hspread, -⟩
    · rw [hnil]
      exact Nat.zero_le _
    · exact hspread.stretch first
  rw [← decisions_isolated hforward] at hstretch
  refine le_of_eq_of_le ?_ hstretch
  unfold within admittedTimes
  rw [List.countP_map, List.countP_eq_length_filter, List.filter_filter, List.filter_filter]
  congr 2
  funext d
  simp [Bool.and_comm, Bool.and_left_comm]

/-! ### When a refused key is admitted again -/

/-- The milliseconds that are left of a key's window. -/
def timeLeft (now : Nat) (map : RateMap) (key : String) : Nat := (map.get key).elim 0 (fun entry => entry.resetAt - now)

/-- A refusal leaves the window of the key as it was, with more attempts in it than the limit. -/
theorem get_refused (h : (checkLimit map key limit window now).1 = false) :
    ∃ entry, map.get key = some entry ∧ now ≤ entry.resetAt ∧ limit < entry.count + 1 ∧
      (checkLimit map key limit window now).2.get key = some { entry with count := entry.count + 1 } := by
  rw [checkLimit_admits] at h
  rcases hcurrent : currentWindow now map key with _ | entry
  · rw [hcurrent] at h
    cases h
  · obtain ⟨hget, hnow⟩ := currentWindow_eq_some.mp hcurrent
    rw [hcurrent, Option.all_some, decide_eq_false_iff_not] at h
    refine ⟨entry, hget, hnow, by omega, ?_⟩
    rw [get_checkLimit_self, hcurrent]
    rfl

/-- Other keys and sweeps leave an entry as it is, or drop it. -/
theorem get_others {es : List (Nat × BucketEvent)} (h : ∀ e ∈ es, e.2 ≠ .attempt key) (map : RateMap) :
    (es.foldl (bucketStep limit window) map).get key = none ∨
      (es.foldl (bucketStep limit window) map).get key = map.get key := by
  induction es generalizing map with
  | nil => exact Or.inr rfl
  | cons e es ih =>
    have hstep : (bucketStep limit window map e).get key = none ∨ (bucketStep limit window map e).get key = map.get key := by
      obtain ⟨now, call⟩ := e
      unfold bucketStep
      cases call with
      | attempt key' =>
        have hne : key ≠ key' := fun he => h (now, .attempt key') (by simp) (by rw [he])
        exact Or.inr (get_checkLimit_of_ne hne _ _ _ _)
      | cleanup =>
        unfold unexpired
        dsimp only
        rw [InsertionMap.get_filter]
        rcases map.get key with _ | entry
        · exact Or.inl rfl
        · rw [Option.filter_some]
          split
          · exact Or.inr rfl
          · exact Or.inl rfl
    rw [List.foldl_cons]
    rcases ih (fun e' he => h e' (List.mem_cons_of_mem _ he)) (bucketStep limit window map e) with hnone | hsame
    · exact Or.inl hnone
    · rw [hsame]
      exact hstep

/-- What a refused client is told to wait, in seconds. -/
theorem retryAfter_refused (h : (checkLimit map key limit window now).1 = false) :
    retryAfter (checkLimit map key limit window now).2 key window now = max 1 ((timeLeft now map key + 999) / 1000) := by
  obtain ⟨entry, hget, -, -, hafter⟩ := get_refused h
  unfold retryAfter timeLeft
  rw [hafter, hget]
  rfl

/-- A client that waits as long as it was told is admitted, if what was left of the window was not a number of whole
seconds. -/
theorem obedient_admitted (h : (checkLimit map key limit window now).1 = false)
    (hfraction : timeLeft now map key = 0 ∨ timeLeft now map key % 1000 ≠ 0) {es : List (Nat × BucketEvent)}
    (hothers : ∀ e ∈ es, e.2 ≠ .attempt key) {later : Nat}
    (hlater : now + 1000 * retryAfter (checkLimit map key limit window now).2 key window now ≤ later) :
    (checkLimit (es.foldl (bucketStep limit window) (checkLimit map key limit window now).2) key limit window later).1 =
      true := by
  obtain ⟨entry, hget, hnow, -, hafter⟩ := get_refused h
  have hleft : timeLeft now map key = entry.resetAt - now := by
    unfold timeLeft
    rw [hget]
    rfl
  rw [retryAfter_refused h] at hlater
  rw [hleft] at hfraction hlater
  have hover : currentWindow later (es.foldl (bucketStep limit window) (checkLimit map key limit window now).2) key = none := by
    unfold currentWindow
    rcases @get_others limit window key _ hothers (checkLimit map key limit window now).2 with hnone | hsame
    · rw [hnone]
      rfl
    · rw [hsame, hafter, Option.filter_some, if_neg]
      simp only [decide_eq_true_eq]
      omega
  rw [checkLimit_admits, hover]
  rfl

/-- At the end of whole seconds the window is not yet over: the client is refused once more. -/
theorem obedient_refused (h : (checkLimit map key limit window now).1 = false) (hleft : timeLeft now map key ≠ 0)
    (hwhole : timeLeft now map key % 1000 = 0) :
    (checkLimit (checkLimit map key limit window now).2 key limit window
      (now + 1000 * retryAfter (checkLimit map key limit window now).2 key window now)).1 = false := by
  rw [retryAfter_refused h]
  obtain ⟨entry, hget, hnow, hcount, hafter⟩ := get_refused h
  have htime : timeLeft now map key = entry.resetAt - now := by
    unfold timeLeft
    rw [hget]
    rfl
  rw [htime] at hleft hwhole ⊢
  have hcurrent : currentWindow (now + 1000 * max 1 ((entry.resetAt - now + 999) / 1000))
      (checkLimit map key limit window now).2 key = some { entry with count := entry.count + 1 } := by
    refine currentWindow_eq_some.mpr ⟨hafter, ?_⟩
    dsimp only
    omega
  rw [checkLimit_admits, hcurrent, Option.all_some, decide_eq_false_iff_not]
  dsimp only
  omega

end Buckets

end ZclaudiaGateway
