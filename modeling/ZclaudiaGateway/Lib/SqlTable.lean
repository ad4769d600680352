import Mathlib.Data.List.Basic

/-!
# Statements on a table

A column that may hold NULL is an option. A condition is true, false or NULL, and a statement takes the rows for which its
condition is true. The rows of a table are in the order of their insertion; no statement depends on that order but for the
order in which it returns rows.
-/

universe u v

namespace Sql

variable {α : Type u} {ρ : Type v}

/-! ## Conditions -/

/-- The value of a condition, nothing for NULL. -/
abbrev Truth := Option Bool

/-- `x = y`. -/
def eq [DecidableEq α] (x y : Option α) : Truth :=
  match x, y with
  | some a, some b => some (decide (a = b))
  | _, _ => none

/-- `x IS NULL`. -/
def isNull (x : Option α) : Truth := some x.isNone

/-- `x IS NOT NULL`. -/
def isNotNull (x : Option α) : Truth := some x.isSome

/-- `p AND q`. -/
def and : Truth → Truth → Truth
  | some false, _ | _, some false => some false
  | some true, some true => some true
  | _, _ => none

/-- `x IN (...)`. -/
def member [DecidableEq α] (x : Option α) (values : List α) : Truth :=
  match x with
  | some a => some (decide (a ∈ values))
  | none => if values = [] then some false else none

/-- `COALESCE(x, y)`. -/
def coalesce (x y : Option α) : Option α := x.or y

/-- `NULLIF(x, y)`. -/
def nullif [DecidableEq α] (x y : Option α) : Option α := if eq x y = some true then none else x

/-- The condition is true. -/
def holds (p : Truth) : Bool := p = some true

@[simp] theorem holds_eq_some [DecidableEq α] (x : Option α) (b : α) : holds (eq x (some b)) = decide (x = some b) := by
  cases x <;> simp [holds, eq]

@[simp] theorem holds_isNull (x : Option α) : holds (isNull x) = x.isNone := by
  cases x <;> rfl

@[simp] theorem holds_isNotNull (x : Option α) : holds (isNotNull x) = x.isSome := by
  cases x <;> rfl

@[simp] theorem holds_member [DecidableEq α] (a : α) (values : List α) :
    holds (member (some a) values) = decide (a ∈ values) := by
  simp [holds, member]

@[simp] theorem holds_and (p q : Truth) : holds (and p q) = (holds p && holds q) := by
  rcases p with _ | _ | _ <;> rcases q with _ | _ | _ <;> rfl

/-! ## Statements -/

/-- `SELECT * FROM ... WHERE ...`. -/
def select (condition : ρ → Truth) (rows : List ρ) : List ρ := rows.filter (fun r => holds (condition r))

/-- `UPDATE ... SET ... WHERE ...`. -/
def update (set : ρ → ρ) (condition : ρ → Truth) (rows : List ρ) : List ρ :=
  rows.map (fun r => if holds (condition r) then set r else r)

/-- `DELETE FROM ... WHERE ...`. -/
def delete (condition : ρ → Truth) (rows : List ρ) : List ρ := rows.filter (fun r => !holds (condition r))

/-- The number of rows an `UPDATE` or a `DELETE` changes. -/
def changes (condition : ρ → Truth) (rows : List ρ) : Nat := (select condition rows).length

theorem changes_pos_iff {condition : ρ → Truth} {rows : List ρ} :
    0 < changes condition rows ↔ ∃ r ∈ rows, holds (condition r) = true := by
  rw [changes, select, List.length_pos_iff_exists_mem]
  simp only [List.mem_filter]

theorem changes_eq_zero_iff {condition : ρ → Truth} {rows : List ρ} :
    changes condition rows = 0 ↔ ∀ r ∈ rows, holds (condition r) = false := by
  rw [changes, select, List.length_eq_zero_iff, List.filter_eq_nil_iff]
  simp only [Bool.not_eq_true]

/-- A column that the statement leaves alone. -/
theorem map_update {β : Type*} {f : ρ → β} {set : ρ → ρ} (h : ∀ r, f (set r) = f r) (condition : ρ → Truth)
    (rows : List ρ) : (update set condition rows).map f = rows.map f := by
  rw [update, List.map_map]
  refine List.map_congr_left (fun r _ => ?_)
  rw [Function.comp_apply]
  split
  · exact h r
  · rfl

theorem filterMap_update {β : Type*} {f : ρ → Option β} {set : ρ → ρ} (h : ∀ r, f (set r) = f r)
    (condition : ρ → Truth) (rows : List ρ) : (update set condition rows).filterMap f = rows.filterMap f := by
  have hmap := congrArg (List.filterMap id) (map_update h condition rows)
  simpa [List.filterMap_map, Function.comp_def] using hmap

end Sql
