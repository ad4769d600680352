import ZclaudiaGateway.Lemmas.PythonBackend

/-!
# How long the Python backend retries

The delay before the next attempt is computed from a power of two that has no bound of its own. The 1025th failure in a row
raises `OverflowError` where nothing catches it: the loop ends, and no attempt follows.
-/

namespace ZclaudiaGateway

namespace Python

open Python.GatewayBackend

/-! ## Retrying -/

/-- The loop of a failed attempt goes on: it sleeps for a delay of the options. -/
def GoesOn (o : GatewayBackendOptions) (b : GatewayBackend) (e : BackendEvent) : Prop :=
  ∀ t, b.FailsLoop t e →
    ∃ owner delay, (b.step o e).tasks.get t = some ⟨owner, .sleeping delay, false⟩ ∧ o.Delays delay

/-- Fewer than 1024 attempts failed since the count was last reset, if the event makes one of a loop fail. -/
def FewFailures (b : GatewayBackend) (e : BackendEvent) : Prop := ∀ t, b.FailsLoop t e → b.reconnectAttempt < 1024

variable {o : GatewayBackendOptions}

theorem goesOn_iff (hle : o.reconnectMinMs ≤ o.reconnectMaxMs) (b : GatewayBackend) (e : BackendEvent) :
    GoesOn o b e ↔ FewFailures b e := by
  constructor
  · intro h t hfails
    obtain ⟨owner, delay, ht, -⟩ := h t hfails
    obtain ⟨_, -, ⟨hlow, -⟩ | ⟨-, hended⟩⟩ := failsLoop_handle (b := b.quiet) hle hfails
    · exact hlow
    · rw [step, hended] at ht
      cases ht
  · intro h t hfails
    obtain ⟨owner, -, ⟨-, delay, hdelay, ht⟩ | ⟨hhigh, -⟩⟩ := failsLoop_handle (b := b.quiet) hle hfails
    · exact ⟨owner, delay, ht, hdelay⟩
    · exact absurd (h t hfails) (not_lt.mpr hhigh)

/-- While fewer than 1024 attempts fail in a row, the loops go on. -/
theorem retries_run (hle : o.reconnectMinMs ≤ o.reconnectMaxMs) (es : List BackendEvent)
    (h : (backend o).Meets FewFailures es) : Retries o ((backend o).run es).tasks := by
  refine h.invariant (J := fun _ => True) (I := fun b => Retries o b.tasks) (fun _ => trivial) (Retries.empty o) ?_ es
  intro b e _ hb hfew
  exact retries_handle (b := b.quiet) hle hb hfew

/-- The delay is in the range of the options exactly for a count under 1024. The loops go on after every failed attempt of a
run, and none of them ends with an exception, exactly if the count is under 1024 at each failure. -/
theorem loops_retry_iff (o : GatewayBackendOptions) (hle : o.reconnectMinMs ≤ o.reconnectMaxMs) :
    (∀ b : GatewayBackend, (∃ delay b', b.nextBackoff o = some (delay, b') ∧ o.Delays delay) ↔ b.reconnectAttempt < 1024) ∧
      ∀ es, (∀ pre, pre <+: es → Retries o ((backend o).run pre).tasks) ∧ (backend o).Meets (GoesOn o) es ↔
        (backend o).Meets FewFailures es := by
  refine ⟨nextBackoff_iff hle, fun es => ?_⟩
  constructor
  · rintro ⟨-, h⟩ pre e hp
    exact (goesOn_iff hle _ e).mp (h pre e hp)
  · intro h
    refine ⟨fun pre hp => retries_run hle pre (h.of_prefix hp), fun pre e hp => ?_⟩
    exact (goesOn_iff hle _ e).mpr (h pre e hp)

/-! ## An outage -/

/-- The options of a backend with an enrollment credential and the default delays. -/
def enrolled : GatewayBackendOptions :=
  { credential := "zgb_3f2a"
    exchangeEnrollment := true
    ns := "app"
    identity := ⟨none, none, none, none⟩
    visible := true
    capabilities := []
    backendProtocolVersion := .finite 1
    reconnect := true
    reconnectMinMs := 1000
    reconnectMaxMs := 30000
    reconnectMin := .finite 1
    reconnectMax := .finite 30
    reconnectMin_eq := seconds_of_mul (n := 1) (by norm_num)
    reconnectMax_eq := seconds_of_mul (n := 30) (by norm_num) }

/-- The gateway is out of reach: `n` times an exchange fails and the task sleeps. -/
def outage : Nat → List BackendEvent
  | 0 => [.start, .wake 0 .begins]
  | n + 1 => outage n ++ [.wake 0 (.exchanged (.raised .link))] ++ [.wake 0 .slept]

theorem loops_retry_iff_enrolled : Retries enrolled ((backend enrolled).run (outage 1)).tasks := by
  have hmeets : (backend enrolled).Meets FewFailures (outage 1) := by
    rw [EventMachine.meets_iff_take]
    rintro (_ | _ | _ | _ | i) hi t hfails
    · decide
    · decide
    · decide +kernel
    · decide +kernel
    · have hlength : (outage 1).length = 4 := rfl
      omega
  exact (((loops_retry_iff enrolled (by decide)).2 _).mpr hmeets).1 _ (List.prefix_refl _)

/-- The backend during an outage. -/
def duringOutage (stage : Stage) (failure : Option BackendErrorInfo) (attempts : Nat) : GatewayBackend :=
  { GatewayBackend.init with
    tasks := .set .empty 0 ⟨.start, stage, false⟩
    nextTask := 1
    startTask := some 0
    closedEvent := some false
    state := .connecting
    failure
    reconnectAttempt := attempts
    usedStart := true }

theorem resolveCredential_enrolled {b : GatewayBackend} (h : b.accessToken = none) (t : TaskId) (second : Bool) :
    b.resolveCredential enrolled t second = { b with accessToken := none }.setStage t (.resolving second) := by
  have hstarts : enrolled.credential.startsWith "zgb_" = true := by decide +kernel
  have hexchange : (!enrolled.exchangeEnrollment || !enrolled.credential.startsWith "zgb_") = false := by
    rw [hstarts]
    rfl
  rw [resolveCredential, hexchange, h]
  rfl

theorem run_outage {n : Nat} (h : n ≤ 1024) :
    ∃ failure, (backend enrolled).run (outage n) = duringOutage (.resolving false) failure n := by
  induction n with
  | zero =>
    refine ⟨none, ?_⟩
    change ((duringOutage .created none 0).setState .connecting).resolveCredential enrolled 0 false = _
    exact resolveCredential_enrolled rfl 0 false
  | succ n ih =>
    obtain ⟨failure, ih⟩ := ih (by omega)
    let b := duringOutage (.resolving false) (some (describeFailure .link 0)) n
    let delay := (enrolled.reconnectMin.mul (.finite (2 ^ n))).min enrolled.reconnectMax
    have hbackoff : b.nextBackoff enrolled = some (delay, { b with reconnectAttempt := n + 1 }) := by
      have hlow : b.reconnectAttempt < 1024 := h
      rw [nextBackoff, PyFloat.ofInt_two_pow, if_pos hlow]
      rfl
    refine ⟨some (describeFailure .link 0), ?_⟩
    rw [outage, EventMachine.run_snoc, EventMachine.run_snoc, ih]
    have hexchange :
        (backend enrolled).step (duringOutage (.resolving false) failure n) (.wake 0 (.exchanged (.raised .link))) =
          duringOutage (.sleeping delay) (some (describeFailure .link 0)) (n + 1) := by
      change (duringOutage (.resolving false) failure n).attemptFailed enrolled 0 .start .link = _
      rw [attemptFailed_elim (by decide)]
      change (b.nextBackoff enrolled).elim _ _ = _
      rw [hbackoff]
      rfl
    rw [hexchange]
    exact resolveCredential_enrolled (b := (duringOutage (.sleeping delay) _ _).setState .connecting) rfl 0 false

/-- 1025 failed attempts in a row end the loop of `start()`, though nothing has closed the backend. -/
theorem loop_ends_in_outage :
    ((backend enrolled).run (outage 1024 ++ [.wake 0 (.exchanged (.raised .link))])).tasks.get 0 =
      some ⟨.start, .ended .overflow, false⟩ ∧
    ((backend enrolled).run (outage 1024 ++ [.wake 0 (.exchanged (.raised .link))])).isClosed = false := by
  obtain ⟨failure, hrun⟩ := run_outage (le_refl 1024)
  let b := duringOutage (.resolving false) (some (describeFailure .link 0)) 1024
  have hbackoff : b.nextBackoff enrolled = none := by
    have hhigh : ¬ b.reconnectAttempt < 1024 := lt_irrefl 1024
    rw [nextBackoff, PyFloat.ofInt_two_pow, if_neg hhigh]
    rfl
  have hstep : (backend enrolled).run (outage 1024 ++ [.wake 0 (.exchanged (.raised .link))]) =
      b.endTask 0 .overflow := by
    rw [EventMachine.run_snoc, hrun]
    change (duringOutage (.resolving false) failure 1024).attemptFailed enrolled 0 .start .link = _
    rw [attemptFailed_elim (by decide)]
    change (b.nextBackoff enrolled).elim _ _ = _
    rw [hbackoff]
    rfl
  rw [hstep]
  exact ⟨rfl, rfl⟩

end Python

end ZclaudiaGateway
