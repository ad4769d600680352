import ZclaudiaGateway.AdminAccess
import ZclaudiaGateway.Lib.JoinedText
import ZclaudiaGateway.Lemmas.Buckets
import ZclaudiaGateway.Lemmas.Sample

/-!
# Who has the admin API

A session is good from the login that opened it, which brought the admin token, to its expiry or the logout that closed it,
whatever sweeps and lazy deletions come in between. The admin API is open to the admin token and to the cookies of good
sessions, for changes only from a trusted origin; any other request leaves the gateway as it is, but for the count of failures.
-/

namespace ZclaudiaGateway

theorem safeCompare_iff {a b : String} : safeCompare a b = true ↔ a = b := by
  rw [safeCompare, decide_eq_true_iff]
  constructor
  · intro h
    have hbytes : a.toUTF8 = b.toUTF8 := ByteArray.ext h
    exact String.toByteArray_inj.mp hbytes
  · rintro rfl
    rfl

/-- What happens to a session. -/
inductive SessionAct where
  | opened (id : String) (expiresAt : Nat)
  | closed (id : String)
deriving DecidableEq

namespace AdminGateway

variable {Γ : AdminCtx} {storage : Storage}

/-- A login that brings the admin token opens a session, a logout closes the one its cookie names. -/
def sessionActs (Γ : AdminCtx) (s : AdminGateway) (e : AdminEvent) : List SessionAct :=
  match s.gateway.uncaught, e with
  | none, .http _ (.login body) =>
    if loginToken body ≠ "" ∧ loginToken body = Γ.adminToken then
      [.opened (Γ.sessionIds.draw s.drawn) (s.gateway.now + Γ.adminSessionTtlMs)]
    else []
  | none, .http head .logout =>
    match readSessionCookie head.cookie ADMIN_SESSION_COOKIE with
    | none => []
    | some id => [.closed id]
  | _, _ => []

/-- The sessions that a run has opened and closed. -/
def sessionHistory (Γ : AdminCtx) (storage : Storage) (es : List AdminEvent) : List SessionAct :=
  (adminGateway Γ storage).history (sessionActs Γ) es

/-- The session was opened with that expiry and not closed since. -/
def SessionStands (id : String) (expiresAt : Nat) (h : List SessionAct) : Prop :=
  EventMachine.Stands (fun act => act = .closed id) (.opened id expiresAt) h

/-- The session stands and has not expired. -/
def Good (h : List SessionAct) (now : Nat) (id : String) : Prop := ∃ expiresAt, SessionStands id expiresAt h ∧ now ≤ expiresAt

/-- The clock does not go back. -/
def ClockForward (s : AdminGateway) (e : AdminEvent) : Prop := ∀ now, e = .other (.clock now) → s.gateway.now ≤ now

/-! ## The gateway behind the routes -/

theorem step_quiet (Γ : Ctx) (s : Gateway) (e : Event) : s.quiet.step Γ e = s.step Γ e := rfl

theorem now_of_quiet {s t : Gateway} (h : s.quiet = t.quiet) : s.now = t.now := by
  have hnow := congrArg Gateway.now h
  exact hnow

/-- The gateway makes a step of its own, or takes no part. -/
theorem step_gateway (s : AdminGateway) (e : AdminEvent) :
    (s.step Γ e).gateway = s.gateway.quiet ∨
      ∃ e', (s.step Γ e).gateway = s.gateway.step Γ.gateway e' ∧ ∀ now, e' = .clock now → e = .other (.clock now) := by
  unfold step
  split
  · exact Or.inl rfl
  · cases e with
    | sweep => exact Or.inl rfl
    | other e =>
      dsimp only
      split
      · exact Or.inl rfl
      · exact Or.inr ⟨e, rfl, fun now he => by rw [he]⟩
    | http head request =>
      cases request with
      | login body =>
        simp only [http, login]
        split
        · exact Or.inr ⟨_, rfl, by simp⟩
        · exact Or.inr ⟨_, rfl, by simp⟩
      | probe =>
        simp only [http, probe]
        split
        · exact Or.inl rfl
        · split
          · exact Or.inr ⟨_, rfl, by simp⟩
          · exact Or.inr ⟨_, rfl, by simp⟩
      | logout =>
        simp only [http, logout]
        split
        · exact Or.inl rfl
        · split
          · exact Or.inl rfl
          · exact Or.inl rfl
      | api request =>
        simp only [http]
        split
        · exact Or.inl rfl
        · exact Or.inr ⟨_, rfl, by simp⟩

/-- What the gateway comes to behind its admin routes, it comes to by events of its own. -/
theorem run_gateway (es : List AdminEvent) (hclock : (adminGateway Γ storage).Meets ClockForward es) :
    ∃ es', (ZclaudiaGateway.gateway Γ.gateway storage).Meets ZclaudiaGateway.ClockForward es' ∧
      ((adminGateway Γ storage).run es).gateway.quiet = ((ZclaudiaGateway.gateway Γ.gateway storage).run es').quiet := by
  induction es using List.reverseRecOn with
  | nil => exact ⟨[], EventMachine.meets_nil, rfl⟩
  | append_singleton es e ih =>
    obtain ⟨hmeets, hlast⟩ := EventMachine.meets_snoc_iff.mp hclock
    obtain ⟨es', hmeets', hquiet⟩ := ih hmeets
    rw [EventMachine.run_snoc]
    generalize (adminGateway Γ storage).run es = s at hlast hquiet
    change ∃ es', _ ∧ (s.step Γ e).gateway.quiet = _
    rcases step_gateway (Γ := Γ) s e with happart | ⟨e', hstep, htick⟩
    · exact ⟨es', hmeets', by rw [happart]; exact hquiet⟩
    · refine ⟨es' ++ [e'], EventMachine.meets_snoc_iff.mpr ⟨hmeets', fun now he => ?_⟩, ?_⟩
      · have hnow : s.gateway.now = ((ZclaudiaGateway.gateway Γ.gateway storage).run es').now := now_of_quiet hquiet
        exact hnow ▸ hlast now (htick now he)
      · rw [hstep, EventMachine.run_snoc, ← step_quiet, hquiet]
        rfl

theorem now_forward (es : List AdminEvent) (e : AdminEvent) (hclock : (adminGateway Γ storage).Meets ClockForward (es ++ [e])) :
    ((adminGateway Γ storage).run es).gateway.now ≤ (((adminGateway Γ storage).run es).step Γ e).gateway.now := by
  obtain ⟨hmeets, hlast⟩ := EventMachine.meets_snoc_iff.mp hclock
  obtain ⟨es', hmeets', hquiet⟩ := run_gateway es hmeets
  generalize (adminGateway Γ storage).run es = s at hlast hquiet
  have hnow : s.gateway.now = ((ZclaudiaGateway.gateway Γ.gateway storage).run es').now := now_of_quiet hquiet
  rcases step_gateway (Γ := Γ) s e with happart | ⟨e', hstep, htick⟩
  · rw [happart]
    exact le_refl _
  · have hforward : ZclaudiaGateway.ClockForward ((ZclaudiaGateway.gateway Γ.gateway storage).run es') e' :=
      fun now he => hnow ▸ hlast now (htick now he)
    have hle := run_now hforward
    rw [EventMachine.run_snoc] at hle
    rw [hstep, ← step_quiet, hquiet, step_quiet, hnow]
    exact hle

/-! ## A login and its logout -/

def sampleAdminCtx : AdminCtx :=
  { gateway := .sample [], adminToken := "admin", sessionIds := .letters 'a', originHost := fun _ => none }

def sampleLogin : AdminEvent := .http {} (.login (.obj [("token", .str "admin")]))

/-- What a browser sends after the login. -/
def sampleSignedIn : AdminHead := { cookie := some "theme=dark; zclaudia_admin_session=a" }

theorem meets_timeless {es : List AdminEvent} (h : ∀ e ∈ es, ∀ now, e ≠ .other (.clock now)) :
    (adminGateway Γ storage).Meets ClockForward es := by
  intro pre e hpre now he
  exact absurd he (h e (hpre.subset (by simp)) now)

theorem sampleLogout_history :
    sessionHistory sampleAdminCtx sampleStorage [sampleLogin, .http sampleSignedIn .logout] = [.opened "a" 43200000, .closed "a"] := by
  rfl

/-! ## The sessions -/

/-- The store has the sessions that stand, but for expired ones. -/
structure Tracks (Γ : AdminCtx) (h : List SessionAct) (now drawn : Nat) (store : AdminSessionStore) : Prop where
  kept : ∀ id expiresAt, store.sessions.get id = some expiresAt → SessionStands id expiresAt h
  known : ∀ id expiresAt, SessionStands id expiresAt h → now ≤ expiresAt → store.sessions.get id = some expiresAt
  drawn : ∀ id expiresAt, .opened id expiresAt ∈ h → ∃ m < drawn, id = Γ.sessionIds.draw m

section Tracks

variable {h : List SessionAct} {now drawn : Nat} {store store' : AdminSessionStore}

/-- Time passes, and expired sessions may be deleted. -/
theorem Tracks.forget (ht : Tracks Γ h now drawn store) {now' : Nat} (hnow : now ≤ now')
    (hsub : ∀ id expiresAt, store'.sessions.get id = some expiresAt → store.sessions.get id = some expiresAt)
    (hlive : ∀ id expiresAt, store.sessions.get id = some expiresAt → now' ≤ expiresAt → store'.sessions.get id = some expiresAt) :
    Tracks Γ h now' drawn store' :=
  ⟨fun id expiresAt hs => ht.kept id expiresAt (hsub id expiresAt hs),
    fun id expiresAt hs he => hlive id expiresAt (ht.known id expiresAt hs (hnow.trans he)) he, ht.drawn⟩

/-- A login opens a session under an id of its own. -/
theorem Tracks.create (ht : Tracks Γ h now drawn store) (expiresAt : Nat) :
    Tracks Γ (h ++ [.opened (Γ.sessionIds.draw drawn) expiresAt]) now (drawn + 1)
      (store.create (Γ.sessionIds.draw drawn) expiresAt) := by
  have hnew (id : String) (expiresAt' : Nat) (hs : SessionStands id expiresAt' h) : id ≠ Γ.sessionIds.draw drawn := by
    rintro rfl
    obtain ⟨m, hm, he⟩ := ht.drawn _ _ hs.mem
    exact absurd (Γ.sessionIds.injective he) (by omega)
  refine ⟨fun id expiresAt' hs => ?_, fun id expiresAt' hs he => ?_, fun id expiresAt' hm => ?_⟩
  · refine EventMachine.stands_snoc_iff.mpr ?_
    rcases InsertionMap.get_set_eq_some.mp hs with ⟨rfl, rfl⟩ | ⟨-, hget⟩
    · exact Or.inl rfl
    · exact Or.inr ⟨ht.kept id expiresAt' hget, by simp⟩
  · unfold AdminSessionStore.create
    rcases EventMachine.stands_snoc_iff.mp hs with hopened | ⟨hs, -⟩
    · cases hopened
      exact InsertionMap.get_set_self _ _ _
    · rw [InsertionMap.get_set_of_ne (hnew id expiresAt' hs)]
      exact ht.known id expiresAt' hs he
  · rcases List.mem_append.mp hm with hm | hm
    · obtain ⟨m, hm, he⟩ := ht.drawn id expiresAt' hm
      exact ⟨m, by omega, he⟩
    · rw [List.mem_singleton] at hm
      cases hm
      exact ⟨drawn, by omega, rfl⟩

/-- A logout closes a session. -/
theorem Tracks.destroy (ht : Tracks Γ h now drawn store) (id : String) :
    Tracks Γ (h ++ [.closed id]) now drawn (store.destroy id) := by
  refine ⟨fun id' expiresAt hs => ?_, fun id' expiresAt hs he => ?_, fun id' expiresAt hm => ?_⟩
  · obtain ⟨hne, hget⟩ := InsertionMap.get_delete_eq_some.mp hs
    refine EventMachine.stands_snoc_iff.mpr (Or.inr ⟨ht.kept id' expiresAt hget, fun hclosed => ?_⟩)
    cases hclosed
    exact hne rfl
  · rcases EventMachine.stands_snoc_iff.mp hs with hopened | ⟨hs, hopen⟩
    · cases hopened
    · refine InsertionMap.get_delete_eq_some.mpr ⟨?_, ht.known id' expiresAt hs he⟩
      rintro rfl
      exact hopen rfl
  · rcases List.mem_append.mp hm with hm | hm
    · exact ht.drawn id' expiresAt hm
    · rw [List.mem_singleton] at hm
      cases hm

/-- The store finds the good sessions. -/
theorem Tracks.holds_iff (ht : Tracks Γ h now drawn store) (id : String) :
    (store.holds now id).1 = true ↔ Good h now id := by
  have hvalid : (store.holds now id).1 = true ↔ id ≠ "" ∧ ∃ expiresAt, store.sessions.get id = some expiresAt ∧ now ≤ expiresAt := by
    unfold AdminSessionStore.holds AdminSessionStore.validate
    by_cases hid : id = ""
    · simp [hid]
    · rcases hget : store.sessions.get id with _ | expiresAt
      · simp [hid]
      · by_cases hnow : now > expiresAt
        · simp [hid, hnow]
        · simp [hid, hnow, Nat.not_lt.mp hnow]
  rw [hvalid]
  constructor
  · rintro ⟨-, expiresAt, hget, hnow⟩
    exact ⟨expiresAt, ht.kept id expiresAt hget, hnow⟩
  · rintro ⟨expiresAt, hs, hnow⟩
    refine ⟨?_, expiresAt, ht.known id expiresAt hs hnow, hnow⟩
    obtain ⟨m, -, rfl⟩ := ht.drawn id expiresAt hs.mem
    exact Γ.sessionIds.nonempty m

/-- Meeting a session deletes it at most if it has expired. -/
theorem Tracks.holds (ht : Tracks Γ h now drawn store) (id : String) : Tracks Γ h now drawn (store.holds now id).2 := by
  unfold AdminSessionStore.holds AdminSessionStore.validate
  split
  · exact ht
  · split
    · exact ht
    · rename_i expiresAt hget
      split
      · rename_i hexpired
        refine ht.forget (le_refl now) (fun id' expiresAt' hs => (InsertionMap.get_delete_eq_some.mp hs).2)
          (fun id' expiresAt' hs he => InsertionMap.get_delete_eq_some.mpr ⟨?_, hs⟩)
        rintro rfl
        rw [hget, Option.some.injEq] at hs
        omega
      · exact ht

/-- A session that is not good is not in the store once it has been met. -/
theorem Tracks.gone (ht : Tracks Γ h now drawn store) {id : String} (hbad : (store.holds now id).1 = false) :
    (store.holds now id).2.sessions.get id = none := by
  by_cases hid : id = ""
  · rw [Option.eq_none_iff_forall_ne_some]
    intro expiresAt hs
    obtain ⟨m, -, he⟩ := ht.drawn _ _ ((ht.holds id).kept _ _ hs).mem
    exact Γ.sessionIds.nonempty m (he ▸ hid)
  · revert hbad
    unfold AdminSessionStore.holds AdminSessionStore.validate
    rcases hget : store.sessions.get id with _ | expiresAt
    · intro
      rw [if_neg hid]
      exact hget
    · by_cases hnow : now > expiresAt
      · intro
        simp only [hid, hnow, if_true, if_false]
        exact InsertionMap.get_delete_self _ _
      · simp [hid, hnow]

/-- Nor does its logout change anything. -/
theorem Tracks.logout (ht : Tracks Γ h now drawn store) {id : String} (hbad : (store.holds now id).1 = false) :
    Tracks Γ (h ++ [.closed id]) now drawn (store.holds now id).2 := by
  refine ((ht.holds id).destroy id).forget (le_refl now) (fun id' expiresAt hs => ?_) (fun id' expiresAt hs _ => ?_)
  · refine InsertionMap.get_delete_eq_some.mpr ⟨?_, hs⟩
    rintro rfl
    rw [ht.gone hbad] at hs
    cases hs
  · exact (InsertionMap.get_delete_eq_some.mp hs).2

theorem Tracks.sweep (ht : Tracks Γ h now drawn store) : Tracks Γ h now drawn (store.sweep now) := by
  refine ht.forget (le_refl now) (fun id expiresAt hs => (InsertionMap.get_filter_eq_some.mp hs).1)
    (fun id expiresAt hs he => InsertionMap.get_filter_eq_some.mpr ⟨hs, ?_⟩)
  simpa using he

end Tracks

/-- What an event makes of the sessions, at the time it comes. -/
theorem step_tracks {h : List SessionAct} {s : AdminGateway} (e : AdminEvent) (ht : Tracks Γ h s.gateway.now s.drawn s.sessions) :
    Tracks Γ (h ++ sessionActs Γ s e) s.gateway.now (s.step Γ e).drawn (s.step Γ e).sessions := by
  have hnone (hacts : sessionActs Γ s e = []) {drawn : Nat} {store : AdminSessionStore}
      (ht : Tracks Γ h s.gateway.now drawn store) : Tracks Γ (h ++ sessionActs Γ s e) s.gateway.now drawn store := by
    rw [hacts, List.append_nil]
    exact ht
  unfold step
  split
  · rename_i hstop
    obtain ⟨error, herror⟩ := Option.isSome_iff_exists.mp hstop
    exact hnone (by simp [sessionActs, herror]) ht
  · rename_i hrun
    have hrun' : s.gateway.uncaught = none := by simpa using hrun
    cases e with
    | sweep => exact hnone (by simp [sessionActs, hrun']) ht.sweep
    | other e =>
      dsimp only
      split
      · exact hnone (by simp [sessionActs, hrun']) ht
      · exact hnone (by simp [sessionActs, hrun']) ht
    | http head request =>
      cases request with
      | login body =>
        by_cases htoken : loginToken body ≠ "" ∧ loginToken body = Γ.adminToken
        · have hacts : sessionActs Γ s (.http head (.login body)) =
              [.opened (Γ.sessionIds.draw s.drawn) (s.gateway.now + Γ.adminSessionTtlMs)] := by
            simp only [sessionActs, hrun', if_pos htoken]
          have hsafe : ¬(loginToken body = "" ∨ safeCompare (loginToken body) Γ.adminToken = false) := by
            rw [not_or, Bool.not_eq_false, safeCompare_iff]
            exact htoken
          simp only [hacts, http, login, if_neg hsafe]
          exact ht.create _
        · have hsafe : loginToken body = "" ∨ safeCompare (loginToken body) Γ.adminToken = false := by
            rw [← Bool.not_eq_true, safeCompare_iff]
            tauto
          refine hnone (by simp only [sessionActs, hrun', if_neg htoken]) ?_
          simp only [http, login, if_pos hsafe]
          exact ht
      | probe =>
        refine hnone (by simp [sessionActs, hrun']) ?_
        simp only [http, probe]
        cases readSessionCookie head.cookie ADMIN_SESSION_COOKIE with
        | none => exact ht
        | some id =>
          have hmet := ht.holds id
          rcases hholds : s.sessions.holds s.gateway.now id with ⟨_ | _, sessions⟩
          · rw [hholds] at hmet
            simp only [hholds]
            exact hmet
          · rw [hholds] at hmet
            simp only [hholds]
            exact hmet
      | logout =>
        simp only [http, logout, sessionActs, hrun']
        cases readSessionCookie head.cookie ADMIN_SESSION_COOKIE with
        | none =>
          rw [List.append_nil]
          exact ht
        | some id =>
          have hmet := ht.holds id
          rcases hholds : s.sessions.holds s.gateway.now id with ⟨_ | _, sessions⟩
          · have hgone := ht.logout (congrArg Prod.fst hholds)
            rw [hholds] at hgone
            simp only [hholds]
            exact hgone
          · rw [hholds] at hmet
            simp only [hholds]
            exact hmet.destroy id
      | api request =>
        refine hnone (by simp [sessionActs, hrun']) ?_
        simp only [http, requireAdmin]
        split
        · exact ht
        · rename_i auth sessions hauth
          change Tracks Γ h s.gateway.now s.drawn sessions
          split at hauth
          · cases hauth
            exact ht
          · cases hcookie : readSessionCookie head.cookie ADMIN_SESSION_COOKIE with
            | none => simp [hcookie] at hauth
            | some id =>
              have hmet := ht.holds id
              rcases hholds : s.sessions.holds s.gateway.now id with ⟨_ | _, sessions'⟩
              · simp only [hcookie, hholds] at hauth hmet
                cases hauth
                exact hmet
              · simp only [hcookie, hholds] at hauth hmet
                cases hauth
                exact hmet

theorem run_tracks (es : List AdminEvent) (hclock : (adminGateway Γ storage).Meets ClockForward es) :
    let s := (adminGateway Γ storage).run es
    Tracks Γ (sessionHistory Γ storage es) s.gateway.now s.drawn s.sessions := by
  induction es using List.reverseRecOn with
  | nil =>
    refine ⟨by simp [adminGateway, AdminGateway.init], fun id expiresAt hs => ?_, by simp [sessionHistory]⟩
    exact absurd hs (EventMachine.not_stands_nil _ _)
  | append_singleton es e ih =>
    have ht := step_tracks e (ih (EventMachine.meets_snoc_iff.mp hclock).1)
    have hnow := now_forward es e hclock
    rw [sessionHistory, EventMachine.history_snoc, EventMachine.run_snoc]
    exact ht.forget hnow (fun _ _ hs => hs) (fun _ _ hs _ => hs)

theorem sessionActs_cases (s : AdminGateway) (e : AdminEvent) :
    sessionActs Γ s e = [] ∨ (∃ expiresAt, sessionActs Γ s e = [.opened (Γ.sessionIds.draw s.drawn) expiresAt]) ∨
      ∃ id, sessionActs Γ s e = [.closed id] := by
  unfold sessionActs
  split
  · split
    · exact Or.inr (Or.inl ⟨_, rfl⟩)
    · exact Or.inl rfl
  · split
    · exact Or.inl rfl
    · exact Or.inr (Or.inr ⟨_, rfl⟩)
  · exact Or.inl rfl

/-- A session that has been opened and is no longer good is never good again. -/
theorem not_good_later (es es' : List AdminEvent) (hclock : (adminGateway Γ storage).Meets ClockForward (es ++ es')) {id : String}
    {expiresAt : Nat} (hopened : .opened id expiresAt ∈ sessionHistory Γ storage es)
    (hended : ¬ Good (sessionHistory Γ storage es) ((adminGateway Γ storage).run es).gateway.now id) :
    ¬ Good (sessionHistory Γ storage (es ++ es')) ((adminGateway Γ storage).run (es ++ es')).gateway.now id := by
  suffices hboth : .opened id expiresAt ∈ sessionHistory Γ storage (es ++ es') ∧
      ¬ Good (sessionHistory Γ storage (es ++ es')) ((adminGateway Γ storage).run (es ++ es')).gateway.now id from hboth.2
  induction es' using List.reverseRecOn with
  | nil =>
    rw [List.append_nil]
    exact ⟨hopened, hended⟩
  | append_singleton es' e ih =>
    rw [← List.append_assoc] at hclock ⊢
    have hmeets := (EventMachine.meets_snoc_iff.mp hclock).1
    obtain ⟨hmem, hbad⟩ := ih hmeets
    have ht := run_tracks _ hmeets
    have hnow := now_forward _ e hclock
    have hsnoc : sessionHistory Γ storage (es ++ es' ++ [e]) =
        sessionHistory Γ storage (es ++ es') ++ sessionActs Γ ((adminGateway Γ storage).run (es ++ es')) e :=
      EventMachine.history_snoc _ _ _ _
    rw [hsnoc]
    refine ⟨List.mem_append_left _ hmem, ?_⟩
    rintro ⟨expiresAt', hs, hlive⟩
    rw [EventMachine.run_snoc] at hlive
    have hpast (hs : SessionStands id expiresAt' (sessionHistory Γ storage (es ++ es'))) : False :=
      hbad ⟨expiresAt', hs, hnow.trans hlive⟩
    rcases sessionActs_cases (Γ := Γ) ((adminGateway Γ storage).run (es ++ es')) e with hacts | ⟨x, hacts⟩ | ⟨id', hacts⟩
    · rw [hacts, List.append_nil] at hs
      exact hpast hs
    · rw [hacts] at hs
      rcases EventMachine.stands_snoc_iff.mp hs with heq | ⟨hs, -⟩
      · cases heq
        obtain ⟨m, hm, heq⟩ := ht.drawn _ _ hmem
        exact absurd (Γ.sessionIds.injective heq) (by omega)
      · exact hpast hs
    · rw [hacts] at hs
      rcases EventMachine.stands_snoc_iff.mp hs with heq | ⟨hs, -⟩
      · cases heq
      · exact hpast hs

/-! ## The cookie -/

theorem jsTrim_pad {pad cs : List Char} (hpad : ∀ c ∈ pad, isJsSpace c = true) : jsTrim (pad ++ cs) = jsTrim cs := by
  unfold jsTrim
  rw [List.dropWhile_append_of_pos hpad]

theorem dropWhile_plain {cs : List Char} (hcs : ∀ c ∈ cs, isJsSpace c = false) : cs.dropWhile isJsSpace = cs := by
  cases cs with
  | nil => rfl
  | cons c cs =>
    rw [List.dropWhile_cons, hcs c (by simp)]
    rfl

theorem jsTrim_plain {cs : List Char} (hcs : ∀ c ∈ cs, isJsSpace c = false) : jsTrim cs = cs := by
  unfold jsTrim
  rw [dropWhile_plain hcs, dropWhile_plain (by simpa using hcs), List.reverse_reverse]

/-- The pair that sets a cookie gives its value. -/
theorem cookieValue_pair {name value pad : List Char} (hpad : ∀ c ∈ pad, isJsSpace c = true) (hname : ∀ c ∈ name, isJsSpace c = false)
    (heq : '=' ∉ name) (hvalue : ∀ c ∈ value, isJsSpace c = false) :
    cookieValue (String.ofList name) (pad ++ name ++ '=' :: value) = some value := by
  have hbefore : ∀ c ∈ pad ++ name, (decide (c ≠ '=')) = true := by
    intro c hc
    rw [decide_eq_true_iff]
    rintro rfl
    rcases List.mem_append.mp hc with hc | hc
    · exact absurd (hpad _ hc) (by decide)
    · exact heq hc
  unfold cookieValue
  rw [List.takeWhile_append_of_pos hbefore, List.dropWhile_append_of_pos hbefore]
  simp [jsTrim_pad hpad, jsTrim_plain hname, jsTrim_plain hvalue]

/-- The text of an identifier, such as base64url, stands for itself in a cookie. -/
def CookiePlain (id : String) : Prop := ∀ c ∈ id.toList, c ≠ ';' ∧ c ≠ '%' ∧ isJsSpace c = false

/-- The header carries the session cookie, behind cookies of other names and before any others. -/
def Carries (id : String) (cookie : Option String) : Prop :=
  ∃ before after : List String, ∃ pad : String,
    cookie = some ((String.singleton ';').intercalate (before ++ (pad ++ ADMIN_SESSION_COOKIE ++ "=" ++ id) :: after)) ∧
      (∀ p ∈ before, ';' ∉ p.toList ∧ cookieValue ADMIN_SESSION_COOKIE p.toList = none) ∧ (∀ p ∈ after, ';' ∉ p.toList) ∧
      ∀ c ∈ pad.toList, isJsSpace c = true

/-- What a login sets, a later request brings back. -/
theorem readSessionCookie_carries {id : String} (hid : CookiePlain id) {cookie : Option String} (hcarries : Carries id cookie) :
    readSessionCookie cookie ADMIN_SESSION_COOKIE = some id := by
  obtain ⟨before, after, pad, rfl, hbefore, hafter, hpad⟩ := hcarries
  have hplain : ';' ∉ (pad ++ ADMIN_SESSION_COOKIE ++ "=" ++ id).toList := by
    simp only [String.toList_append, List.mem_append, not_or]
    refine ⟨⟨⟨fun hc => absurd (hpad _ hc) (by decide), by decide⟩, by decide⟩, fun hc => (hid _ hc).1 rfl⟩
  have hall : ∀ p ∈ before ++ (pad ++ ADMIN_SESSION_COOKIE ++ "=" ++ id) :: after, ';' ∉ p.toList := by
    intro p hp
    rcases List.mem_append.mp hp with hp | hp
    · exact (hbefore p hp).1
    · rcases List.mem_cons.mp hp with rfl | hp
      · exact hplain
      · exact hafter p hp
  have hnone : (before.map String.toList).findSome? (cookieValue ADMIN_SESSION_COOKIE) = none := by
    rw [List.findSome?_eq_none_iff]
    intro cs hcs
    obtain ⟨p, hp, rfl⟩ := List.mem_map.mp hcs
    exact (hbefore p hp).2
  have hname : ∀ c ∈ ADMIN_SESSION_COOKIE.toList, isJsSpace c = false := by
    have h : ADMIN_SESSION_COOKIE.toList.all (fun c => !isJsSpace c) = true := by decide
    simpa [List.all_eq_true] using h
  have hpair : cookieValue ADMIN_SESSION_COOKIE (pad ++ ADMIN_SESSION_COOKIE ++ "=" ++ id).toList = some id.toList := by
    have h : cookieValue (String.ofList ADMIN_SESSION_COOKIE.toList) (pad.toList ++ ADMIN_SESSION_COOKIE.toList ++ '=' :: id.toList) =
        some id.toList := cookieValue_pair hpad hname (by decide) (fun c hc => (hid c hc).2.2)
    simpa using h
  unfold readSessionCookie
  rw [Option.getD_some, JoinedText.splitOn_intercalate hall (by simp), List.map_append, List.map_cons, List.findSome?_append, hnone,
    Option.none_or, List.findSome?_cons, hpair]
  have hdecode : PercentEncoding.decodeURIComponent id = some id :=
    PercentEncoding.decodeURIComponent_plain (fun hc => (hid _ hc).2.1 rfl)
  simpa using hdecode

theorem sampleSignedIn_carries : Carries "a" sampleSignedIn.cookie :=
  ⟨["theme=dark"], [], " ", by decide, by decide, by simp, List.all_eq_true.mp (by decide)⟩

/-! ## The gate -/

/-- The request may use the admin API: it brings the admin token, or the cookie of a good session and, for a change, comes from
a trusted origin. -/
def Admitted (Γ : AdminCtx) (h : List SessionAct) (now : Nat) (head : AdminHead) (request : AdminRequest) : Prop :=
  bearerToken head.authorization = some Γ.adminToken ∨
    ∃ id, readSessionCookie head.cookie ADMIN_SESSION_COOKIE = some id ∧ Good h now id ∧
      (request.isMutating = true → head.isTrustedOrigin Γ = true)

theorem bearerOk_iff {head : AdminHead} : head.bearerOk Γ = true ↔ bearerToken head.authorization = some Γ.adminToken := by
  unfold AdminHead.bearerOk
  cases bearerToken head.authorization with
  | none => simp
  | some token =>
    rw [Option.some.injEq]
    exact safeCompare_iff

theorem requireAdmin_granted {h : List SessionAct} {s : AdminGateway} (ht : Tracks Γ h s.gateway.now s.drawn s.sessions)
    (head : AdminHead) (request : AdminRequest) :
    (∃ sessions, s.requireAdmin Γ head request.isMutating = some (.granted, sessions)) ↔
      Admitted Γ h s.gateway.now head request := by
  unfold requireAdmin Admitted
  by_cases hbearer : head.bearerOk Γ = true
  · simp [hbearer, bearerOk_iff.mp hbearer]
  · have hbearer' := hbearer
    rw [bearerOk_iff] at hbearer'
    rw [if_neg hbearer]
    cases hcookie : readSessionCookie head.cookie ADMIN_SESSION_COOKIE with
    | none => simp [hbearer']
    | some id =>
      have hgood := ht.holds_iff id
      rcases hholds : s.sessions.holds s.gateway.now id with ⟨_ | _, sessions⟩
      · have hbad : ¬ Good h s.gateway.now id := by
          rw [← hgood, hholds]
          simp
        constructor
        · simp [hholds]
        · rintro (htoken | ⟨id', heq, hgood', -⟩)
          · exact absurd htoken hbearer'
          · cases heq
            exact absurd hgood' hbad
      · have hgood' := hgood.mp (by rw [hholds])
        cases hmutating : request.isMutating
        · simp only [hholds, Bool.false_and, Bool.false_eq_true, if_false]
          exact iff_of_true ⟨_, rfl⟩ (Or.inr ⟨id, rfl, hgood', by simp⟩)
        · cases horigin : head.isTrustedOrigin Γ
          · simp only [hholds]
            simp [hbearer']
          · simp only [hholds, Bool.not_true, Bool.and_false, Bool.false_eq_true, if_false]
            exact iff_of_true ⟨_, rfl⟩ (Or.inr ⟨id, rfl, hgood', by simp⟩)

/-- The answer of before is nothing that `requireAdmin` reads. -/
theorem requireAdmin_cookie (s : AdminGateway) (head : AdminHead) (mutating : Bool) :
    { s with cookie := none }.requireAdmin Γ head mutating = s.requireAdmin Γ head mutating := rfl

/-- The gateway handles what `requireAdmin` grants. -/
theorem step_granted {s : AdminGateway} {head : AdminHead} {request : AdminRequest}
    (h : ∃ sessions, s.requireAdmin Γ head request.isMutating = some (.granted, sessions)) :
    (s.step Γ (.http head (.api request))).gateway = s.gateway.step Γ.gateway (.admin (head.extractIp Γ) .granted request) := by
  obtain ⟨sessions, hauth⟩ := h
  unfold step
  split
  · rename_i hstop
    rw [Gateway.step, if_pos hstop]
    rfl
  · simp only [http, requireAdmin_cookie, hauth]
    rfl

/-- A session that has been opened and has expired or been closed: whatever comes, the store does not know it, and its cookie is
refused. -/
theorem session_stays_ended (es es' : List AdminEvent) (hclock : (adminGateway Γ storage).Meets ClockForward (es ++ es')) {id : String}
    {expiresAt : Nat} (hopened : .opened id expiresAt ∈ sessionHistory Γ storage es)
    (hended : ¬ Good (sessionHistory Γ storage es) ((adminGateway Γ storage).run es).gateway.now id) {head : AdminHead}
    (hcookie : readSessionCookie head.cookie ADMIN_SESSION_COOKIE = some id)
    (hbearer : bearerToken head.authorization ≠ some Γ.adminToken) (mutating : Bool) :
    let s := (adminGateway Γ storage).run (es ++ es')
    (s.sessions.holds s.gateway.now id).1 = false ∧ ∃ sessions, s.requireAdmin Γ head mutating = some (.denied, sessions) := by
  have hbad := not_good_later es es' hclock hopened hended
  have ht := run_tracks _ hclock
  dsimp only at ht ⊢
  generalize (adminGateway Γ storage).run (es ++ es') = s at ht hbad
  rw [← ht.holds_iff, Bool.not_eq_true] at hbad
  refine ⟨hbad, ?_⟩
  rw [Ne, ← bearerOk_iff] at hbearer
  unfold requireAdmin
  rw [if_neg hbearer, hcookie]
  rcases hholds : s.sessions.holds s.gateway.now id with ⟨known, sessions⟩
  rw [hholds] at hbad
  cases hbad
  exact ⟨sessions, by simp only [hholds]⟩

theorem session_stays_ended_logout :
    let s := (adminGateway sampleAdminCtx sampleStorage).run [sampleLogin, .http sampleSignedIn .logout, sampleLogin]
    (s.sessions.holds s.gateway.now "a").1 = false ∧
      ∃ sessions, s.requireAdmin sampleAdminCtx sampleSignedIn true = some (.denied, sessions) := by
  have hended : ¬ Good (sessionHistory sampleAdminCtx sampleStorage [sampleLogin, .http sampleSignedIn .logout])
      ((adminGateway sampleAdminCtx sampleStorage).run [sampleLogin, .http sampleSignedIn .logout]).gateway.now "a" := by
    rintro ⟨expiresAt, hs, -⟩
    rw [sampleLogout_history] at hs
    have hsnoc : EventMachine.Stands (fun act => act = SessionAct.closed "a") (SessionAct.opened "a" expiresAt)
        ([.opened "a" 43200000] ++ [.closed "a"]) := hs
    rcases EventMachine.stands_snoc_iff.mp hsnoc with heq | ⟨-, hopen⟩
    · cases heq
    · exact hopen rfl
  have hopened : .opened "a" 43200000 ∈ sessionHistory sampleAdminCtx sampleStorage [sampleLogin, .http sampleSignedIn .logout] := by
    rw [sampleLogout_history]
    simp
  exact session_stays_ended [sampleLogin, .http sampleSignedIn .logout] [sampleLogin]
    (meets_timeless (by simp [sampleLogin])) hopened hended (readSessionCookie_carries (by simp [CookiePlain, isJsSpace])
      sampleSignedIn_carries) (by decide) true

/-- The event is no logout that brings the session's cookie. -/
def Keeps (id : String) (e : AdminEvent) : Prop :=
  ∀ head, e = .http head .logout → readSessionCookie head.cookie ADMIN_SESSION_COOKIE ≠ some id

theorem sessionActs_keeps {id : String} {e : AdminEvent} (hkeeps : Keeps id e) (s : AdminGateway) :
    .closed id ∉ sessionActs Γ s e := by
  unfold sessionActs
  split
  · split
    · simp
    · simp
  · rename_i head _
    split
    · simp
    · rename_i id' hcookie
      rw [List.mem_singleton, SessionAct.closed.injEq]
      rintro rfl
      exact hkeeps head rfl hcookie
  · simp

/-- Until a logout brings its cookie, a session stands. -/
theorem stands_keeps {id : String} {expiresAt : Nat} (es es' : List AdminEvent)
    (hs : SessionStands id expiresAt (sessionHistory Γ storage es)) (hkeeps : ∀ e ∈ es', Keeps id e) :
    SessionStands id expiresAt (sessionHistory Γ storage (es ++ es')) := by
  induction es' using List.reverseRecOn with
  | nil =>
    rw [List.append_nil]
    exact hs
  | append_singleton es' e ih =>
    have hs' := ih (fun e' he' => hkeeps e' (by simp [he']))
    have hopen := sessionActs_keeps (Γ := Γ) (hkeeps e (by simp)) ((adminGateway Γ storage).run (es ++ es'))
    rw [← List.append_assoc, sessionHistory, EventMachine.history_snoc]
    rcases sessionActs_cases (Γ := Γ) ((adminGateway Γ storage).run (es ++ es')) e with hacts | ⟨x, hacts⟩ | ⟨id', hacts⟩
    · rw [hacts, List.append_nil]
      exact hs'
    · rw [hacts]
      exact EventMachine.stands_snoc_iff.mpr (Or.inr ⟨hs', by simp⟩)
    · rw [hacts] at hopen ⊢
      refine EventMachine.stands_snoc_iff.mpr (Or.inr ⟨hs', fun heq => ?_⟩)
      rw [heq] at hopen
      exact hopen (by simp)

/-- Who logs in with the admin token is let in by the cookie that this sets, until the session expires or a logout brings it. -/
theorem signed_in (es es' : List AdminEvent) {head head' : AdminHead} {body : JsonValue} {request : AdminRequest}
    (hclock : (adminGateway Γ storage).Meets ClockForward (es ++ .http head (.login body) :: es'))
    (hrunning : ((adminGateway Γ storage).run es).gateway.uncaught = none) (hset : Γ.adminToken ≠ "")
    (htoken : body.member "token" = some (.str Γ.adminToken))
    (hplain : CookiePlain (Γ.sessionIds.draw ((adminGateway Γ storage).run es).drawn))
    (hkeeps : ∀ e ∈ es', Keeps (Γ.sessionIds.draw ((adminGateway Γ storage).run es).drawn) e)
    (hcarries : Carries (Γ.sessionIds.draw ((adminGateway Γ storage).run es).drawn) head'.cookie)
    (horigin : request.isMutating = true → head'.isTrustedOrigin Γ = true) :
    let id := Γ.sessionIds.draw ((adminGateway Γ storage).run es).drawn
    let run := es ++ .http head (.login body) :: es'
    ((adminGateway Γ storage).run (es ++ [.http head (.login body)])).cookie =
        some (.session id (head.requestIsSecure Γ) Γ.adminSessionTtlMs) ∧
      (((adminGateway Γ storage).run run).gateway.now ≤ ((adminGateway Γ storage).run es).gateway.now + Γ.adminSessionTtlMs →
        let s := (adminGateway Γ storage).run run
        (∃ sessions, s.requireAdmin Γ head' request.isMutating = some (.granted, sessions)) ∧
          (s.step Γ (.http head' (.api request))).gateway =
            s.gateway.step Γ.gateway (.admin (head'.extractIp Γ) .granted request)) := by
  have hlogin : loginToken body = Γ.adminToken := by rw [loginToken, htoken]
  have hacts : sessionActs Γ ((adminGateway Γ storage).run es) (.http head (.login body)) =
      [.opened (Γ.sessionIds.draw ((adminGateway Γ storage).run es).drawn)
        (((adminGateway Γ storage).run es).gateway.now + Γ.adminSessionTtlMs)] := by
    simp [sessionActs, hrunning, hlogin, hset]
  have hstands : SessionStands (Γ.sessionIds.draw ((adminGateway Γ storage).run es).drawn)
      (((adminGateway Γ storage).run es).gateway.now + Γ.adminSessionTtlMs)
      (sessionHistory Γ storage (es ++ [.http head (.login body)])) := by
    rw [sessionHistory, EventMachine.history_snoc, hacts]
    exact EventMachine.stands_snoc_iff.mpr (Or.inl rfl)
  refine ⟨?_, fun hnow => ?_⟩
  · have hsafe : ¬(loginToken body = "" ∨ safeCompare (loginToken body) Γ.adminToken = false) := by
      rw [not_or, Bool.not_eq_false, safeCompare_iff, hlogin]
      exact ⟨hset, rfl⟩
    rw [EventMachine.run_snoc]
    change (((adminGateway Γ storage).run es).step Γ _).cookie = _
    rw [step, hrunning]
    simp only [Option.isSome_none, Bool.false_eq_true, if_false, http, login, if_neg hsafe]
  · have hlater := stands_keeps _ es' hstands hkeeps
    rw [List.append_assoc, List.singleton_append] at hlater
    have hadmitted : Admitted Γ (sessionHistory Γ storage (es ++ .http head (.login body) :: es'))
        ((adminGateway Γ storage).run (es ++ .http head (.login body) :: es')).gateway.now head' request :=
      Or.inr ⟨_, readSessionCookie_carries hplain hcarries, ⟨_, hlater, hnow⟩, horigin⟩
    have hgranted := (requireAdmin_granted (run_tracks _ hclock) head' request).mpr hadmitted
    exact ⟨hgranted, step_granted hgranted⟩

theorem signed_in_overview :
    let s := (adminGateway sampleAdminCtx sampleStorage).run [sampleLogin, .sweep, .other (.clock 1000)]
    (∃ sessions, s.requireAdmin sampleAdminCtx sampleSignedIn false = some (.granted, sessions)) ∧
      (s.step sampleAdminCtx (.http sampleSignedIn (.api .overview))).gateway =
        s.gateway.step sampleAdminCtx.gateway (.admin "unknown" .granted .overview) := by
  have hkeeps : ∀ e ∈ [AdminEvent.sweep, .other (.clock 1000)], Keeps "a" e := by
    intro e he head heq
    rw [heq] at he
    simp at he
  have hplain : CookiePlain "a" := by
    simp [CookiePlain, isJsSpace]
  have hlogin : (adminGateway sampleAdminCtx sampleStorage).Meets ClockForward [sampleLogin, .sweep] :=
    meets_timeless (by simp [sampleLogin])
  have hclock : (adminGateway sampleAdminCtx sampleStorage).Meets ClockForward ([sampleLogin, .sweep] ++ [.other (.clock 1000)]) :=
    EventMachine.meets_snoc_iff.mpr ⟨hlogin, fun _ _ => Nat.zero_le _⟩
  have horigin : AdminRequest.overview.isMutating = true → sampleSignedIn.isTrustedOrigin sampleAdminCtx = true := by
    simp [AdminRequest.isMutating]
  exact (signed_in [] [.sweep, .other (.clock 1000)] hclock rfl (by decide) rfl hplain hkeeps sampleSignedIn_carries horigin).2
    (by decide)

end AdminGateway

end ZclaudiaGateway
