import Mathlib.Data.List.Basic

/-!
# Unbounded queues of an event loop

`asyncio.Queue` without a limit: `put_nowait` never waits and wakes the reader that has waited longest, `get` takes the oldest
item or waits. A woken reader is a task of its own, so another reader can take the item before its turn comes; it then waits
again, behind the others. A reader that is cancelled after it was woken passes the call on.
-/

universe u

/-- A queue with the readers that wait for an item, and those that were woken and have not had their turn. -/
structure AsyncQueue (α : Type u) where
  items : List α
  getters : List Nat
  woken : List Nat

namespace AsyncQueue

variable {α : Type u}

/-! ## Operations -/

/-- The queue without items and readers. -/
def empty : AsyncQueue α := ⟨[], [], []⟩

/-- `_wakeup_next`. -/
def wakeupNext (q : AsyncQueue α) : AsyncQueue α :=
  match q.getters with
  | [] => q
  | r :: rest => { q with getters := rest, woken := q.woken ++ [r] }

/-- `put_nowait`. -/
def putNowait (q : AsyncQueue α) (a : α) : AsyncQueue α := wakeupNext { q with items := q.items ++ [a] }

/-- `get` by a reader that runs: the oldest item, or nothing and the reader waits. -/
def get (q : AsyncQueue α) (r : Nat) : Option α × AsyncQueue α :=
  match q.items with
  | [] => (none, { q with getters := q.getters ++ [r] })
  | a :: rest => (some a, { q with items := rest })

/-- The turn of a reader that was woken. -/
def resume (q : AsyncQueue α) (r : Nat) : Option α × AsyncQueue α :=
  if r ∈ q.woken then get { q with woken := q.woken.erase r } r else (none, q)

/-- The reader is cancelled while it waits. -/
def cancel (q : AsyncQueue α) (r : Nat) : AsyncQueue α :=
  if r ∈ q.getters then { q with getters := q.getters.erase r }
  else if r ∈ q.woken then
    if q.items = [] then { q with woken := q.woken.erase r } else wakeupNext { q with woken := q.woken.erase r }
  else q

/-- The reader waits or has been woken. -/
def Waits (q : AsyncQueue α) (r : Nat) : Prop := r ∈ q.getters ∨ r ∈ q.woken

instance (q : AsyncQueue α) (r : Nat) : Decidable (q.Waits r) := inferInstanceAs (Decidable (_ ∨ _))

/-! ## Items -/

@[simp] theorem wakeupNext_items (q : AsyncQueue α) : q.wakeupNext.items = q.items := by
  unfold wakeupNext
  split <;> rfl

@[simp] theorem putNowait_items (q : AsyncQueue α) (a : α) : (q.putNowait a).items = q.items ++ [a] := by
  simp [putNowait]

/-- A reader that runs gets the oldest item. -/
@[simp] theorem get_fst (q : AsyncQueue α) (r : Nat) : (q.get r).1 = q.items.head? := by
  unfold get
  split <;> simp [*]

@[simp] theorem get_items (q : AsyncQueue α) (r : Nat) : (q.get r).2.items = q.items.tail := by
  unfold get
  split <;> simp [*]

/-- So does a woken reader at its turn. -/
theorem resume_fst {q : AsyncQueue α} {r : Nat} (hr : r ∈ q.woken) : (q.resume r).1 = q.items.head? := by
  simp [resume, hr]

theorem resume_of_not_woken {q : AsyncQueue α} {r : Nat} (hr : r ∉ q.woken) : q.resume r = (none, q) := by
  simp [resume, hr]

/-- An item is taken exactly when one is there, and it leaves the queue. -/
theorem get_cons_or (q : AsyncQueue α) (r : Nat) :
    (q.get r).1 = none ∧ (q.get r).2.items = q.items ∨ ∃ a, (q.get r).1 = some a ∧ q.items = a :: (q.get r).2.items := by
  rw [get_fst, get_items]
  rcases q.items with _ | ⟨a, rest⟩
  · exact Or.inl ⟨rfl, rfl⟩
  · exact Or.inr ⟨a, rfl, rfl⟩

theorem resume_cons_or (q : AsyncQueue α) (r : Nat) :
    (q.resume r).1 = none ∧ (q.resume r).2.items = q.items ∨
      ∃ a, (q.resume r).1 = some a ∧ q.items = a :: (q.resume r).2.items := by
  by_cases hr : r ∈ q.woken
  · rw [resume, if_pos hr]
    exact get_cons_or { q with woken := q.woken.erase r } r
  · rw [resume_of_not_woken hr]
    exact Or.inl ⟨rfl, rfl⟩

@[simp] theorem cancel_items (q : AsyncQueue α) (r : Nat) : (q.cancel r).items = q.items := by
  unfold cancel
  split
  · rfl
  · split
    · split
      · rfl
      · simp
    · rfl

/-! ## No lost wake-up -/

/-- If a reader still waits, at least as many have been woken as there are items. -/
def Alert (q : AsyncQueue α) : Prop := q.getters = [] ∨ q.items.length ≤ q.woken.length

theorem alert_empty : (empty : AsyncQueue α).Alert := Or.inl rfl

/-- One reader more is woken, if one waits. -/
theorem alert_wakeupNext {q : AsyncQueue α} (h : q.getters = [] ∨ q.items.length ≤ q.woken.length + 1) :
    q.wakeupNext.Alert := by
  unfold wakeupNext
  split
  · exact Or.inl ‹_›
  · rename_i hgetters
    rcases h with h | h
    · rw [h] at hgetters
      nomatch hgetters
    · exact Or.inr (by simpa using h)

theorem Alert.putNowait {q : AsyncQueue α} (h : q.Alert) (a : α) : (q.putNowait a).Alert := by
  refine alert_wakeupNext (h.imp_right fun h => ?_)
  simpa using h

theorem Alert.get {q : AsyncQueue α} (h : q.Alert) (r : Nat) : (q.get r).2.Alert := by
  unfold AsyncQueue.get
  split
  · rename_i hitems
    exact Or.inr (by simp [hitems])
  · rename_i a rest hitems
    refine h.imp_right fun h => ?_
    rw [hitems, List.length_cons] at h
    exact Nat.le_of_succ_le h

theorem Alert.resume {q : AsyncQueue α} (h : q.Alert) (r : Nat) : (q.resume r).2.Alert := by
  unfold AsyncQueue.resume
  split
  · rename_i hr
    unfold AsyncQueue.get
    split
    · rename_i hitems
      exact Or.inr (by simp [show q.items = [] from hitems])
    · rename_i a rest hitems
      refine h.imp_right fun h => ?_
      have hlength := List.length_erase_of_mem hr
      rw [show q.items = a :: rest from hitems, List.length_cons] at h
      change rest.length ≤ (q.woken.erase r).length
      omega
  · exact h

theorem Alert.cancel {q : AsyncQueue α} (h : q.Alert) (r : Nat) : (q.cancel r).Alert := by
  unfold AsyncQueue.cancel
  split
  · rename_i hr
    rcases h with h | h
    · rw [h] at hr
      nomatch hr
    · exact Or.inr h
  · split
    · rename_i hr
      have hlength := List.length_erase_of_mem hr
      split
      · rename_i hitems
        exact h.imp_right fun _ => by simp [hitems]
      · refine alert_wakeupNext (h.imp_right fun h => ?_)
        change q.items.length ≤ (q.woken.erase r).length + 1
        omega
    · exact h

/-- While an item is there and a reader waits, one has been woken. -/
theorem Alert.woken_ne_nil {q : AsyncQueue α} (h : q.Alert) (hitems : q.items ≠ []) (hgetters : q.getters ≠ []) :
    q.woken ≠ [] := by
  rcases h with h | h
  · exact absurd h hgetters
  · have := List.length_pos_iff.mpr hitems
    exact List.length_pos_iff.mp (by omega)

end AsyncQueue
