import Mathlib.Data.List.Infix

/-!
# Event machines

A machine has an initial state and a total step function: it takes one event after another, and each event is handled to its
end before the next one starts. A run is the list of the events handled so far. `Meets C es` says that every event of the run
met the condition `C` in the state it was handled in; the rules below prove what holds after every run, or after every run
that meets a condition, from what one step preserves. A history is what an observation of the steps gives over a run; an entry
of it stands until a later one ends it.
-/

universe u v

/-- A machine that handles one event at a time. -/
structure EventMachine (σ : Type u) (ε : Type v) where
  init : σ
  step : σ → ε → σ

namespace EventMachine

variable {σ : Type u} {ε : Type v} (M : EventMachine σ ε)

/-- The state after a run. -/
def run (es : List ε) : σ := es.foldl M.step M.init

/-- A state some run ends in. -/
def Reachable (s : σ) : Prop := ∃ es, M.run es = s

@[simp] theorem run_nil : M.run [] = M.init := rfl

@[simp] theorem run_snoc (es : List ε) (e : ε) : M.run (es ++ [e]) = M.step (M.run es) e := by
  simp [run]

theorem run_append (es es' : List ε) : M.run (es ++ es') = es'.foldl M.step (M.run es) := by
  simp [run]

theorem Reachable.step {M : EventMachine σ ε} {s : σ} (h : M.Reachable s) (e : ε) : M.Reachable (M.step s e) := by
  obtain ⟨es, rfl⟩ := h
  exact ⟨es ++ [e], M.run_snoc es e⟩

/-- The machine that goes on from a state. -/
def since (s : σ) : EventMachine σ ε := ⟨s, M.step⟩

theorem run_since (es es' : List ε) : (M.since (M.run es)).run es' = M.run (es ++ es') := by
  rw [run_append]
  rfl

/-! ## Histories -/

/-- What an observation of every step gives over a run, the oldest first. -/
def history {α : Type*} (obs : σ → ε → List α) (es : List ε) : List α :=
  (es.foldl (fun acc e => (M.step acc.1 e, acc.2 ++ obs acc.1 e)) (M.init, [])).2

variable {α : Type*} (obs : σ → ε → List α)

@[simp] theorem history_nil : M.history obs [] = [] := rfl

@[simp] theorem history_snoc (es : List ε) (e : ε) :
    M.history obs (es ++ [e]) = M.history obs es ++ obs (M.run es) e := by
  have hstate (es : List ε) :
      (es.foldl (fun acc e => (M.step acc.1 e, acc.2 ++ obs acc.1 e)) (M.init, ([] : List α))).1 = M.run es := by
    induction es using List.reverseRecOn with
    | nil => rfl
    | append_singleton es e ih => rw [List.foldl_append, run_snoc, ← ih]; rfl
  unfold history
  rw [List.foldl_append, List.foldl_cons, List.foldl_nil, hstate]

/-- If a step gives at most one entry, every beginning of a history is the history of a beginning of the run. -/
theorem history_initial {obs : σ → ε → List α} (hobs : ∀ s e, (obs s e).length ≤ 1) {es : List ε} {h : List α}
    (hp : h <+: M.history obs es) : ∃ pre, pre <+: es ∧ M.history obs pre = h := by
  induction es using List.reverseRecOn with
  | nil => exact ⟨[], List.prefix_refl _, (List.prefix_nil.mp hp).symm⟩
  | append_singleton es e ih =>
    rw [history_snoc] at hp
    have hone := hobs (M.run es) e
    rcases hentry : obs (M.run es) e with _ | ⟨a, _ | ⟨b, rest⟩⟩
    · rw [hentry, List.append_nil] at hp
      obtain ⟨pre, hpre, he⟩ := ih hp
      exact ⟨pre, hpre.trans (List.prefix_append _ _), he⟩
    · rw [hentry] at hp
      rcases List.prefix_concat_iff.mp hp with hall | hp
      · exact ⟨es ++ [e], List.prefix_refl _, by rw [history_snoc, hentry, hall]⟩
      · obtain ⟨pre, hpre, he⟩ := ih hp
        exact ⟨pre, hpre.trans (List.prefix_append _ _), he⟩
    · rw [hentry] at hone
      simp at hone

/-- The entry is in the history, and no later one ends what it says. -/
def Stands (ends : α → Prop) (a : α) (h : List α) : Prop := ∃ pre post, h = pre ++ a :: post ∧ ∀ x ∈ post, ¬ ends x

theorem not_stands_nil (ends : α → Prop) (a : α) : ¬ Stands ends a [] := by
  rintro ⟨pre, post, h, -⟩
  simp at h

theorem Stands.mem {ends : α → Prop} {a : α} {h : List α} (hs : Stands ends a h) : a ∈ h := by
  obtain ⟨pre, post, rfl, -⟩ := hs
  simp

/-- An entry stands if it is the last one, or stood before a last one that does not end it. -/
theorem stands_snoc_iff {ends : α → Prop} {a x : α} {h : List α} :
    Stands ends a (h ++ [x]) ↔ x = a ∨ Stands ends a h ∧ ¬ ends x := by
  constructor
  · rintro ⟨pre, post, he, hpost⟩
    rcases List.eq_nil_or_concat post with rfl | ⟨post', y, rfl⟩
    · exact Or.inl (List.singleton_inj.mp (List.append_inj' he rfl).2)
    · rw [List.concat_eq_append, ← List.cons_append, ← List.append_assoc] at he
      obtain ⟨rfl, hx⟩ := List.append_inj' he rfl
      rw [List.singleton_inj] at hx
      subst hx
      refine Or.inr ⟨⟨pre, post', rfl, fun z hz => hpost z ?_⟩, hpost x ?_⟩
      · simp [hz]
      · simp
  · rintro (rfl | ⟨⟨pre, post, rfl, hpost⟩, hx⟩)
    · exact ⟨h, [], rfl, fun z hz => (nomatch hz)⟩
    · refine ⟨pre, post ++ [x], by simp, fun z hz => ?_⟩
      rcases List.mem_append.mp hz with hz | hz
      · exact hpost z hz
      · rwa [List.mem_singleton.mp hz]

/-! ## Invariants -/

/-- What holds initially and is preserved by every step holds after every run. -/
theorem invariant {I : σ → Prop} (h0 : I M.init) (hstep : ∀ s e, I s → I (M.step s e)) : ∀ es, I (M.run es) := by
  intro es
  induction es using List.reverseRecOn with
  | nil => exact h0
  | append_singleton es e ih =>
    rw [run_snoc]
    exact hstep _ e ih

theorem Reachable.invariant {M : EventMachine σ ε} {I : σ → Prop} (h0 : I M.init)
    (hstep : ∀ s e, I s → I (M.step s e)) {s : σ} (h : M.Reachable s) : I s := by
  obtain ⟨es, rfl⟩ := h
  exact M.invariant h0 hstep es

/-- A reflexive and transitive relation that every step of an invariant's states moves along holds between the state after a
run and the state after any continuation of it. -/
theorem run_rel {I : σ → Prop} {R : σ → σ → Prop} (hI : ∀ es, I (M.run es)) (hrefl : ∀ s, R s s)
    (htrans : ∀ {a b c}, R a b → R b c → R a c) (hstep : ∀ s e, I s → R s (M.step s e)) (es es' : List ε) :
    R (M.run es) (M.run (es ++ es')) := by
  induction es' using List.reverseRecOn with
  | nil => rw [List.append_nil]; exact hrefl _
  | append_singleton es' e ih =>
    rw [← List.append_assoc, run_snoc]
    exact htrans ih (hstep _ e (hI _))

/-! ## Runs that meet a condition -/

/-- Every event of the run met the condition in the state it was handled in. -/
def Meets (C : σ → ε → Prop) (es : List ε) : Prop := ∀ pre e, pre ++ [e] <+: es → C (M.run pre) e

variable {M} {C : σ → ε → Prop}

theorem meets_nil : M.Meets C [] := by
  intro pre e h
  simp at h

theorem Meets.of_prefix {es es' : List ε} (h : M.Meets C es') (hp : es <+: es') : M.Meets C es :=
  fun pre e he => h pre e (he.trans hp)

theorem meets_snoc_iff {es : List ε} {e : ε} : M.Meets C (es ++ [e]) ↔ M.Meets C es ∧ C (M.run es) e := by
  constructor
  · intro h
    exact ⟨h.of_prefix (List.prefix_append _ _), h es e (List.prefix_refl _)⟩
  · rintro ⟨h, he⟩ pre e' hp
    rcases List.prefix_concat_iff.mp hp with hp | hp
    · obtain ⟨rfl, hx⟩ := List.append_inj' hp rfl
      rw [List.singleton_inj] at hx
      exact hx ▸ he
    · exact h pre e' hp

theorem meets_iff_take {es : List ε} : M.Meets C es ↔ ∀ i, ∀ hi : i < es.length, C (M.run (es.take i)) (es.get ⟨i, hi⟩) := by
  constructor
  · intro h i hi
    refine h _ _ ?_
    rw [List.get_eq_getElem, List.take_concat_get' es i hi]
    exact List.take_prefix _ _
  · rintro h pre e ⟨rest, rfl⟩
    have hi : pre.length < (pre ++ [e] ++ rest).length := by simp
    have hat := h pre.length hi
    simpa using hat

/-- A condition that can be decided can be decided along a run. -/
instance [∀ s e, Decidable (C s e)] (es : List ε) : Decidable (M.Meets C es) := decidable_of_iff _ meets_iff_take.symm

/-- What holds initially and is preserved by every step that meets the condition holds after every run that meets it; the
step may also use what holds after every run (`J`). -/
theorem Meets.invariant {I J : σ → Prop} (hJ : ∀ es, J (M.run es)) (h0 : I M.init)
    (hstep : ∀ s e, J s → I s → C s e → I (M.step s e)) : ∀ es, M.Meets C es → I (M.run es) := by
  intro es
  induction es using List.reverseRecOn with
  | nil => exact fun _ => h0
  | append_singleton es e ih =>
    intro h
    rw [meets_snoc_iff] at h
    rw [run_snoc]
    exact hstep _ e (hJ es) (ih h.1) h.2

end EventMachine
