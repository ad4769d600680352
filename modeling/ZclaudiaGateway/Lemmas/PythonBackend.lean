import ZclaudiaGateway.Sdk.PythonBackend

/-!
# The delays and the loops of the Python backend

The delay before the next attempt is a float between the two of the options, unless the power of two is out of the range of
a float. A task is created, keeps its stage or goes on to a stage at which a loop may stand, apart from the one place where an
attempt fails.
-/

namespace ZclaudiaGateway

namespace Python

open Binary64

/-! ## Delays -/

/-- A delay of the options is finite, and rounded. -/
theorem seconds_spec {ms : Nat} {x : PyFloat} (h : seconds ms = some x) :
    x = .nearest (rounded ms / 1000) ∧ rounded ms / 1000 ≤ maxFinite := by
  unfold seconds PyFloat.ofInt at h
  split_ifs at h with hmax
  · cases h
  · rw [Option.map_some, Option.some.injEq] at h
    refine ⟨h.symm, ?_⟩
    have hle := not_lt.mp hmax
    have hnonneg : 0 ≤ rounded ms := rounded_nonneg (Nat.cast_nonneg ms)
    linarith

theorem seconds_finite {ms : Nat} {x : PyFloat} (h : seconds ms = some x) :
    x = .finite (rounded (rounded ms / 1000)) := by
  obtain ⟨rfl, hle⟩ := seconds_spec h
  have hnonneg : (0 : ℚ) ≤ rounded ms / 1000 := div_nonneg (rounded_nonneg (Nat.cast_nonneg ms)) (by norm_num)
  have hround := rounded_mono hnonneg hle
  rw [rounded_maxFinite] at hround
  exact PyFloat.nearest_of_le hround

/-- A whole number of seconds. -/
theorem seconds_of_mul {n : Nat} (h : n * 1000 ≤ 2 ^ 53) : seconds (n * 1000) = some (.finite n) := by
  have hround : rounded ((n * 1000 : ℕ) : ℚ) = (n * 1000 : ℕ) := rounded_natCast h
  have hround' : rounded (n : ℚ) = n := rounded_natCast (by omega)
  have hmax : ((n * 1000 : ℕ) : ℚ) ≤ maxFinite := le_trans (by exact_mod_cast h) two_pow_le_maxFinite
  have hmax' : (n : ℚ) ≤ maxFinite := by
    refine le_trans ?_ hmax
    rw [Nat.cast_mul]
    exact le_mul_of_one_le_right (Nat.cast_nonneg n) (by norm_num)
  rw [seconds, PyFloat.ofInt, hround, if_neg (not_lt.mpr hmax), Option.map_some, PyFloat.div, Nat.cast_mul,
    Nat.cast_ofNat, mul_div_cancel_right₀ _ (by norm_num), PyFloat.nearest_of_le (hround'.symm ▸ hmax'), hround']

namespace GatewayBackendOptions

variable {o : GatewayBackendOptions}

/-- The delay is between `reconnect_min` and `reconnect_max`. -/
def Delays (o : GatewayBackendOptions) (delay : PyFloat) : Prop := o.reconnectMin.le delay ∧ delay.le o.reconnectMax

theorem reconnectMin_le (h : o.reconnectMinMs ≤ o.reconnectMaxMs) : o.reconnectMin.le o.reconnectMax := by
  rw [(seconds_spec o.reconnectMin_eq).1, (seconds_spec o.reconnectMax_eq).1]
  have hround : rounded o.reconnectMinMs ≤ rounded o.reconnectMaxMs :=
    rounded_mono (Nat.cast_nonneg _) (by exact_mod_cast h)
  exact PyFloat.nearest_mono (div_nonneg (rounded_nonneg (Nat.cast_nonneg _)) (by norm_num)) (by linarith)

/-- A delay that doubles is not below the first one. -/
theorem reconnectMin_le_mul (o : GatewayBackendOptions) (n : Nat) :
    o.reconnectMin.le (o.reconnectMin.mul (.finite (2 ^ n))) := by
  have hnonneg : (0 : ℚ) ≤ rounded o.reconnectMinMs / 1000 :=
    div_nonneg (rounded_nonneg (Nat.cast_nonneg _)) (by norm_num)
  have hself : o.reconnectMin = .nearest (rounded (rounded o.reconnectMinMs / 1000)) := by
    rw [(seconds_spec o.reconnectMin_eq).1, PyFloat.nearest, PyFloat.nearest, rounded_rounded hnonneg]
  rw [seconds_finite o.reconnectMin_eq] at hself ⊢
  have hpow : (1 : ℚ) ≤ 2 ^ n := one_le_pow₀ one_le_two
  have hmul := PyFloat.nearest_mono (rounded_nonneg hnonneg) (le_mul_of_one_le_right (rounded_nonneg hnonneg) hpow)
  rwa [← hself] at hmul

end GatewayBackendOptions

namespace GatewayBackend

variable {o : GatewayBackendOptions} {b : GatewayBackend}

/-- `_next_backoff` returns a delay of the options exactly when the power of two is in the range of a float. -/
theorem nextBackoff_iff (h : o.reconnectMinMs ≤ o.reconnectMaxMs) (b : GatewayBackend) :
    (∃ delay b', b.nextBackoff o = some (delay, b') ∧ o.Delays delay) ↔ b.reconnectAttempt < 1024 := by
  unfold nextBackoff
  rw [PyFloat.ofInt_two_pow]
  constructor
  · rintro ⟨delay, b', hb, -⟩
    by_contra hattempt
    rw [if_neg hattempt] at hb
    cases hb
  · intro hattempt
    rw [if_pos hattempt]
    have hmul := o.reconnectMin_le_mul b.reconnectAttempt
    refine ⟨_, _, rfl, PyFloat.le_min hmul (o.reconnectMin_le h), PyFloat.min_le_right ?_ ?_⟩
    · rw [seconds_finite o.reconnectMin_eq]
      exact PyFloat.nearest_ne_nan _
    · rw [seconds_finite o.reconnectMax_eq]
      nofun

/-! ## Loops -/

end GatewayBackend

/-- No loop has ended with an exception, and one that sleeps does so for a delay of the options. -/
def Retries (o : GatewayBackendOptions) (tasks : InsertionMap TaskId Task) : Prop :=
  ∀ t task, tasks.get t = some task → task.owner ≠ .connect →
    (∀ how, task.stage = .ended how → how = .returned ∨ how = .cancelled) ∧
      ∀ delay, task.stage = .sleeping delay → o.Delays delay

namespace Retries

variable {o : GatewayBackendOptions} {tasks : InsertionMap TaskId Task}

theorem empty (o : GatewayBackendOptions) : Retries o .empty := by
  intro t task h
  cases h

theorem set (h : Retries o tasks) (t : TaskId) (owner : Owner) :
    Retries o (tasks.set t ⟨owner, .created, false⟩) := by
  intro t' task ht hloop
  rw [InsertionMap.get_set] at ht
  split at ht
  · rw [Option.some.injEq] at ht
    subst ht
    exact ⟨by simp, by simp⟩
  · exact h t' task ht hloop

theorem cancel (h : Retries o tasks) (t : TaskId) (cancelling : Bool) :
    Retries o (tasks.modify t (fun task => { task with cancelling })) := by
  intro t' task ht hloop
  rw [InsertionMap.get_modify] at ht
  split at ht
  · obtain ⟨task', ht', rfl⟩ := Option.map_eq_some_iff.mp ht
    exact h t' task' ht' hloop
  · exact h t' task ht hloop

/-- A task goes on to a stage that a loop may stand at. -/
theorem setStage (h : Retries o tasks) (t : TaskId) {stage : Stage}
    (hends : ∀ how, stage = .ended how → how = .returned ∨ how = .cancelled)
    (hsleeps : ∀ delay, stage = .sleeping delay → o.Delays delay) :
    Retries o (tasks.modify t (fun task => { task with stage })) := by
  intro t' task ht hloop
  rw [InsertionMap.get_modify] at ht
  split at ht
  · obtain ⟨task', ht', rfl⟩ := Option.map_eq_some_iff.mp ht
    exact ⟨hends, hsleeps⟩
  · exact h t' task ht hloop

end Retries

/-- The exception with which an attempt ends when the `await` of its task does. -/
def Stage.failsWith (stage : Stage) (wake : Wake) : Option Failure :=
  match stage, wake with
  | .resolving _, .exchanged exchange =>
    match exchange.outcome with
    | .ok _ => none
    | .error failure => some failure
  | .opening _ call, .dialed (some failure) | .leaving _ call (some failure), .left =>
    if call.again failure then none else some failure
  | _, _ => none

namespace GatewayBackend

variable {o : GatewayBackendOptions} {b : GatewayBackend}

theorem retries_setStage (h : Retries o b.tasks) (t : TaskId) {stage : Stage}
    (hends : ∀ how, stage = .ended how → how = .returned ∨ how = .cancelled)
    (hsleeps : ∀ delay, stage = .sleeping delay → o.Delays delay) : Retries o (b.setStage t stage).tasks :=
  h.setStage t hends hsleeps

theorem retries_endTask (h : Retries o b.tasks) (t : TaskId) {how : Ended} (hhow : how = .returned ∨ how = .cancelled) :
    Retries o (b.endTask t how).tasks := by
  refine retries_setStage h t ?_ nofun
  rintro how' ⟨⟩
  exact hhow

theorem retries_createTask (h : Retries o b.tasks) (owner : Owner) : Retries o (b.createTask owner).tasks := h.set _ _

theorem retries_cancelTask (h : Retries o b.tasks) (task : Option TaskId) : Retries o (b.cancelTask task).tasks := by
  unfold cancelTask
  split
  · exact h
  · split
    · exact h
    · exact h
    · dsimp only
      split <;> exact h.cancel _ _

theorem retries_handshake (h : Retries o b.tasks) (t : TaskId) (call : Handshake) :
    Retries o (b.handshake t call).tasks := h.setStage t nofun nofun

theorem retries_resolveCredential (h : Retries o b.tasks) (t : TaskId) (second : Bool) :
    Retries o (b.resolveCredential o t second).tasks := by
  unfold resolveCredential
  split
  · exact retries_handshake h t _
  · split
    · exact retries_handshake h t _
    · exact h.setStage t nofun nofun

theorem retries_establish (h : Retries o b.tasks) (t : TaskId) : Retries o (b.establish o t).tasks :=
  retries_resolveCredential (b := b.setState .connecting) h t false

theorem tasks_recordFailure (failure : Failure) (b : GatewayBackend) : (b.recordFailure failure).tasks = b.tasks := by
  unfold recordFailure
  split <;> rfl

theorem reconnectAttempt_recordFailure (failure : Failure) (b : GatewayBackend) :
    (b.recordFailure failure).reconnectAttempt = b.reconnectAttempt := by
  unfold recordFailure
  split <;> rfl

theorem tasks_nextBackoff {b b' : GatewayBackend} {delay : PyFloat} (h : b.nextBackoff o = some (delay, b')) :
    b'.tasks = b.tasks := by
  obtain ⟨factor, -, hb⟩ := Option.map_eq_some_iff.mp h
  rw [Prod.mk.injEq] at hb
  rw [← hb.2]

/-- A loop sleeps after a failed attempt, or ends where the next delay raises. -/
theorem attemptFailed_elim {owner : Owner} (howner : owner ≠ .connect) (t : TaskId) (failure : Failure) (b : GatewayBackend) :
    b.attemptFailed o t owner failure =
      ((b.recordFailure failure).nextBackoff o).elim ((b.recordFailure failure).endTask t .overflow)
        (fun p => p.2.setStage t (.sleeping p.1)) := by
  cases owner with
  | connect => exact absurd rfl howner
  | start =>
    unfold attemptFailed
    dsimp only
    cases (b.recordFailure failure).nextBackoff o <;> rfl
  | supervise =>
    unfold attemptFailed
    dsimp only
    cases (b.recordFailure failure).nextBackoff o <;> rfl

/-- A failed attempt of a loop is followed by a delay of the options, unless the count is too high. -/
theorem attemptFailed_loop (hle : o.reconnectMinMs ≤ o.reconnectMaxMs) {owner : Owner} (howner : owner ≠ .connect)
    (t : TaskId) (failure : Failure) (b : GatewayBackend) :
    (b.reconnectAttempt < 1024 ∧ ∃ delay, o.Delays delay ∧
      (b.attemptFailed o t owner failure).tasks = b.tasks.modify t (fun task => { task with stage := .sleeping delay })) ∨
    (1024 ≤ b.reconnectAttempt ∧
      (b.attemptFailed o t owner failure).tasks = b.tasks.modify t (fun task => { task with stage := .ended .overflow })) := by
  have hiff := nextBackoff_iff hle (b.recordFailure failure)
  rw [reconnectAttempt_recordFailure] at hiff
  rw [attemptFailed_elim howner]
  by_cases hattempt : b.reconnectAttempt < 1024
  · obtain ⟨delay, b', hb, hdelay⟩ := hiff.mpr hattempt
    refine Or.inl ⟨hattempt, delay, hdelay, ?_⟩
    rw [hb, ← tasks_recordFailure failure b, ← tasks_nextBackoff hb]
    rfl
  · refine Or.inr ⟨not_lt.mp hattempt, ?_⟩
    have hnone : (b.recordFailure failure).nextBackoff o = none := by
      rw [nextBackoff, PyFloat.ofInt_two_pow, reconnectAttempt_recordFailure, if_neg hattempt]
      rfl
    rw [hnone, ← tasks_recordFailure failure b]
    rfl

theorem retries_attemptFailed (hle : o.reconnectMinMs ≤ o.reconnectMaxMs) (h : Retries o b.tasks) {t : TaskId}
    {owner : Owner} (ht : ∀ task, b.tasks.get t = some task → task.owner = owner)
    (hattempt : owner ≠ .connect → b.reconnectAttempt < 1024) (failure : Failure) :
    Retries o (b.attemptFailed o t owner failure).tasks := by
  by_cases howner : owner = .connect
  · -- The exception goes to the caller of `connect`.
    subst howner
    intro t' task ht' hloop
    change ((b.recordFailure failure).tasks.modify t _).get t' = some task at ht'
    rw [tasks_recordFailure, InsertionMap.get_modify] at ht'
    split at ht'
    · rename_i heq
      obtain ⟨task', htask', rfl⟩ := Option.map_eq_some_iff.mp ht'
      exact absurd (ht task' (heq ▸ htask')) hloop
    · exact h t' task ht' hloop
  · rcases attemptFailed_loop hle howner t failure b with ⟨-, delay, hdelay, htasks⟩ | ⟨hhigh, -⟩
    · rw [htasks]
      refine h.setStage t (by simp) ?_
      rintro delay' ⟨⟩
      exact hdelay
    · exact absurd (hattempt howner) (not_lt.mpr hhigh)

theorem retries_handshakeFailed (hle : o.reconnectMinMs ≤ o.reconnectMaxMs) (h : Retries o b.tasks) {t : TaskId}
    {owner : Owner} (ht : ∀ task, b.tasks.get t = some task → task.owner = owner) {call : Handshake} {failure : Failure}
    (hattempt : ¬ call.again failure → owner ≠ .connect → b.reconnectAttempt < 1024) :
    Retries o (b.handshakeFailed o t owner call failure).tasks := by
  unfold handshakeFailed
  split
  · exact retries_resolveCredential (b := { b with accessToken := none }) h t true
  · rename_i hagain
    exact retries_attemptFailed hle h ht (hattempt hagain) failure

theorem retries_abandon (h : Retries o b.tasks) (t : TaskId) (ws : SocketId) (call : Handshake)
    (failure : Option Failure) : Retries o (b.abandon t ws call failure).tasks := h.setStage t nofun nofun

theorem retries_standDown (h : Retries o b.tasks) (t : TaskId) : Retries o (b.standDown t).tasks :=
  retries_endTask (b := { b.setState .closed with closedEvent := b.closedEvent.map (fun _ => true) }) h t (.inl rfl)

theorem retries_retry (h : Retries o b.tasks) (t : TaskId) (owner : Owner) : Retries o (b.retry o t owner).tasks := by
  unfold retry
  split
  · split
    · exact retries_standDown h t
    · exact retries_endTask h t (.inl rfl)
  · exact retries_establish h t

theorem retries_readerReturned (h : Retries o b.tasks) (t : TaskId) (ws : Option SocketId) :
    Retries o (b.readerReturned o t ws).tasks := by
  unfold readerReturned
  dsimp only
  split
  · exact retries_standDown (b := { b.teardownConnection with failure := _ }) h t
  · split
    · exact retries_standDown (b := b.teardownConnection) h t
    · exact retries_retry (b := b.teardownConnection.setState .connecting) h t .supervise

theorem retries_supervise (h : Retries o b.tasks) (t : TaskId) : Retries o (b.supervise o t).tasks := by
  unfold supervise
  split
  · exact h.setStage t nofun nofun
  · exact retries_readerReturned h t _

theorem retries_attemptSucceeded (h : Retries o b.tasks) (t : TaskId) (owner : Owner) :
    Retries o (b.attemptSucceeded o t owner).tasks := by
  cases owner with
  | connect =>
    exact retries_endTask (b := { b with usedConnect := true }.createSupervisor) (retries_createTask h .supervise) t (.inl rfl)
  | start =>
    unfold attemptSucceeded
    dsimp only
    split
    · exact retries_endTask h t (.inl rfl)
    · exact retries_endTask (b := b.createSupervisor) (retries_createTask h .supervise) t (.inl rfl)
  | supervise => exact retries_supervise h t

theorem retries_connected (h : Retries o b.tasks) (t : TaskId) (owner : Owner) (ws : SocketId) (grant : BackendGrant) :
    Retries o (b.connected o t owner ws grant).tasks := by
  unfold connected
  refine retries_attemptSucceeded ?_ t owner
  exact h

theorem retries_exchanged (hle : o.reconnectMinMs ≤ o.reconnectMaxMs) (h : Retries o b.tasks) {t : TaskId}
    {owner : Owner} (ht : ∀ task, b.tasks.get t = some task → task.owner = owner) (second : Bool) {exchange : Exchange}
    (hattempt : ∀ failure, exchange.outcome = .error failure → owner ≠ .connect → b.reconnectAttempt < 1024) :
    Retries o (b.exchanged o t owner second exchange).tasks := by
  obtain ⟨b', htasks, hcount, hexchanged⟩ : ∃ b' : GatewayBackend, b'.tasks = b.tasks ∧
      b'.reconnectAttempt = b.reconnectAttempt ∧ b.exchanged o t owner second exchange = match exchange.outcome with
        | .ok token => b'.handshake t ⟨token, false, second⟩
        | .error failure => b'.attemptFailed o t owner failure := by
    cases exchange with
    | granted token expiresAt => exact ⟨{ b with accessToken := some ⟨token, expiresAt⟩ }, rfl, rfl, rfl⟩
    | badExpiry token =>
      exact ⟨{ b with accessToken := some ⟨token, b.accessToken.bind AccessToken.expiresAt⟩ }, rfl, rfl, rfl⟩
    | noToken | httpError | notObject | raised => exact ⟨b, rfl, rfl, rfl⟩
  rw [hexchanged]
  rw [← htasks] at h ht
  split
  · exact retries_handshake h t _
  · rename_i failure houtcome
    exact retries_attemptFailed hle h ht (fun howner => hcount ▸ hattempt failure houtcome howner) failure

/-- A task runs on: if its attempt fails, the count is not too high. -/
theorem retries_woken (hle : o.reconnectMinMs ≤ o.reconnectMaxMs) (h : Retries o b.tasks) {t : TaskId}
    {owner : Owner} {stage : Stage} (ht : ∀ task, b.tasks.get t = some task → task.owner = owner) {wake : Wake}
    (hattempt : ∀ failure, stage.failsWith wake = some failure → owner ≠ .connect → b.reconnectAttempt < 1024) :
    Retries o (b.woken o t owner stage wake).tasks := by
  unfold woken
  split
  · split
    · exact retries_supervise h t
    · exact retries_retry h t owner
  · rename_i second exchange
    refine retries_exchanged hle h ht second (fun failure houtcome => hattempt failure ?_)
    rw [Stage.failsWith, houtcome]
  · exact h.setStage t nofun nofun
  · rename_i ws call failure
    refine retries_handshakeFailed (b := b.closeSocket ws) hle h ht (fun hagain => hattempt failure ?_)
    exact if_neg hagain
  · exact h.setStage t nofun nofun
  · exact retries_abandon h t _ _ _
  · exact retries_connected h t owner _ _
  · exact retries_abandon h t _ _ _
  · exact retries_abandon h t _ _ _
  · rename_i ws call failure
    refine retries_handshakeFailed hle h ht (fun hagain => hattempt failure ?_)
    exact if_neg hagain
  · exact retries_endTask h t (.inr rfl)
  · exact retries_retry h t owner
  · split
    · exact retries_readerReturned h t _
    · exact retries_endTask h t (.inr rfl)
    · exact h
  · exact h

theorem retries_connect (h : Retries o b.tasks) : Retries o (b.connect o).tasks := by
  unfold connect
  split
  · exact h
  · split
    · exact h
    · exact retries_establish (b := b.begin.createTask .connect) (retries_createTask h .connect) _

theorem retries_start (h : Retries o b.tasks) : Retries o b.start.tasks := by
  unfold start
  split
  · exact h
  · split
    · exact h
    · split
      · exact h
      · exact retries_createTask (b := { b with usedStart := true }.begin) h .start

theorem retries_close (h : Retries o b.tasks) : Retries o b.close.tasks := by
  unfold close
  dsimp only
  split
  · refine retries_cancelTask (retries_cancelTask ?_ b.supervisorTask) b.startTask
    exact h
  · refine retries_cancelTask (retries_cancelTask ?_ b.supervisorTask) b.startTask
    exact h

theorem retries_closeGoesOn (h : Retries o b.tasks) (i : Nat) : Retries o (b.closeGoesOn i).tasks := by
  unfold closeGoesOn
  split
  · exact h
  · split <;> exact h
  · exact h
  · exact h

theorem retries_cancelled (h : Retries o b.tasks) (t : TaskId) : Retries o (b.cancelled t).tasks := by
  unfold cancelled
  split
  · dsimp only
    split
    · exact (h.cancel t false).setStage t (by rintro how ⟨⟩; exact .inr rfl) nofun
    · exact (h.cancel t false).setStage t nofun nofun
    · exact (h.cancel t false).setStage t nofun nofun
    · exact h.cancel t false
    · exact (h.cancel t false).setStage t (by rintro how ⟨⟩; exact .inr rfl) nofun
  · exact h

/-- The event ends the attempt of a loop with an exception. -/
def FailsLoop (t : TaskId) (b : GatewayBackend) (e : BackendEvent) : Prop :=
  ∃ owner stage wake failure, e = .wake t wake ∧ b.tasks.get t = some ⟨owner, stage, false⟩ ∧ owner ≠ .connect ∧
    stage.failsWith wake = some failure

theorem retries_handle (hle : o.reconnectMinMs ≤ o.reconnectMaxMs) (h : Retries o b.tasks) {e : BackendEvent}
    (hattempt : ∀ t, b.FailsLoop t e → b.reconnectAttempt < 1024) : Retries o (b.handle o e).tasks := by
  cases e with
  | connect => exact retries_connect h
  | start => exact retries_start h
  | close => exact retries_close h
  | advance ms => exact h
  | wake t wake =>
    simp only [handle]
    split
    · rename_i owner stage ht
      refine retries_woken hle h ?_ (fun failure hfails howner => ?_)
      rotate_left
      · exact hattempt t ⟨owner, stage, wake, failure, rfl, ht, howner, hfails⟩
      intro task htask
      rw [ht, Option.some.injEq] at htask
      rw [← htask]
    · exact h
  | cancelled t => exact retries_cancelled h t
  | closeGoesOn i => exact retries_closeGoesOn h i
  | dropped ws code => exact h
  | readerReturns ws =>
    change Retries o (b.readerReturns ws).tasks
    unfold readerReturns
    split <;> exact h
  | heartbeat ws =>
    change Retries o (b.heartbeat ws).tasks
    unfold heartbeat
    split
    · split <;> exact h
    · exact h

/-- When the attempt fails, the task has done nothing else. -/
theorem woken_fails {stage : Stage} {wake : Wake} {failure : Failure} (h : stage.failsWith wake = some failure)
    (b : GatewayBackend) (t : TaskId) (owner : Owner) :
    ∃ b' : GatewayBackend, b'.tasks = b.tasks ∧ b'.reconnectAttempt = b.reconnectAttempt ∧
      b.woken o t owner stage wake = b'.attemptFailed o t owner failure := by
  unfold Stage.failsWith at h
  split at h
  · rename_i second exchange
    cases exchange with
    | granted => cases h
    | badExpiry token =>
      cases h
      exact ⟨{ b with accessToken := some ⟨token, b.accessToken.bind AccessToken.expiresAt⟩ }, rfl, rfl, rfl⟩
    | noToken | httpError | notObject | raised =>
      cases h
      exact ⟨b, rfl, rfl, rfl⟩
  · rename_i ws call failure'
    split at h
    · cases h
    · rename_i hagain
      cases h
      exact ⟨b.closeSocket ws, rfl, rfl, if_neg hagain⟩
  · rename_i ws call failure'
    split at h
    · cases h
    · rename_i hagain
      cases h
      exact ⟨b, rfl, rfl, if_neg hagain⟩
  · cases h

/-- The loop of a failed attempt sleeps for a delay of the options, or ends when the count is too high. -/
theorem failsLoop_handle (hle : o.reconnectMinMs ≤ o.reconnectMaxMs) {t : TaskId} {e : BackendEvent}
    (h : b.FailsLoop t e) :
    ∃ owner, owner ≠ .connect ∧
      ((b.reconnectAttempt < 1024 ∧
          ∃ delay, o.Delays delay ∧ (b.handle o e).tasks.get t = some ⟨owner, .sleeping delay, false⟩) ∨
        1024 ≤ b.reconnectAttempt ∧ (b.handle o e).tasks.get t = some ⟨owner, .ended .overflow, false⟩) := by
  obtain ⟨owner, stage, wake, failure, rfl, ht, howner, hfails⟩ := h
  obtain ⟨b', htasks, hcount, hwoken⟩ := woken_fails (o := o) hfails b t owner
  have hhandle : b.handle o (.wake t wake) = b'.attemptFailed o t owner failure := by
    rw [← hwoken]
    simp only [handle, ht]
  refine ⟨owner, howner, ?_⟩
  rw [hhandle, ← hcount]
  rcases attemptFailed_loop hle howner t failure b' with ⟨hlow, delay, hdelay, he⟩ | ⟨hhigh, he⟩
  · refine Or.inl ⟨hlow, delay, hdelay, ?_⟩
    rw [he, htasks, InsertionMap.get_modify_self, ht]
    rfl
  · refine Or.inr ⟨hhigh, ?_⟩
    rw [he, htasks, InsertionMap.get_modify_self, ht]
    rfl

end GatewayBackend

end Python

end ZclaudiaGateway
