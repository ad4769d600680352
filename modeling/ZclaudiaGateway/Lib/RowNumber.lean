import Mathlib.Data.List.Sort
import Mathlib.Order.Lex

/-!
# Ranking rows

`ROW_NUMBER() OVER (PARTITION BY part ORDER BY key)`: the place of a row among the rows of its partition, in the order of their
keys, from one on. The first of a partition is there and is one only; if no two of its rows have one key, it is the least.
-/

universe u v w

namespace Ranking

variable {α : Type u} {κ : Type v} {β : Type w} [DecidableEq κ] [LinearOrder β]

/-- The rows of a row's partition, in the order of their keys. -/
def rankedWith (part : α → κ) (key : α → β) (rows : List α) (a : α) : List α :=
  (rows.filter (fun b => part b = part a)).insertionSort (fun b c => key b ≤ key c)

variable {part : α → κ} {key : α → β} {rows : List α} {a b : α}

theorem mem_rankedWith : b ∈ rankedWith part key rows a ↔ b ∈ rows ∧ part b = part a := by
  simp [rankedWith]

theorem rankedWith_congr (h : part a = part b) : rankedWith part key rows a = rankedWith part key rows b := by
  simp only [rankedWith, h]

theorem pairwise_rankedWith (part : α → κ) (key : α → β) (rows : List α) (a : α) :
    (rankedWith part key rows a).Pairwise (fun b c => key b ≤ key c) := by
  have htotal : Std.Total (fun b c : α => key b ≤ key c) := ⟨fun b c => le_total _ _⟩
  have htrans : IsTrans α (fun b c : α => key b ≤ key c) := ⟨fun _ _ _ => le_trans⟩
  exact List.pairwise_insertionSort _ _

variable [DecidableEq α]

def rowNumber (part : α → κ) (key : α → β) (rows : List α) (a : α) : Nat := (rankedWith part key rows a).idxOf a + 1

/-- A row has number one if it is the head of its partition. -/
theorem rowNumber_eq_one_iff_head (ha : a ∈ rows) :
    rowNumber part key rows a = 1 ↔ (rankedWith part key rows a).head? = some a := by
  have hmem : a ∈ rankedWith part key rows a := mem_rankedWith.mpr ⟨ha, rfl⟩
  unfold rowNumber
  rcases hranked : rankedWith part key rows a with _ | ⟨b, rest⟩
  · rw [hranked] at hmem
    cases hmem
  · by_cases hb : b = a
    · simp [hb]
    · simp [hb]

/-- Every partition has a first row. -/
theorem exists_rowNumber_one (part : α → κ) (key : α → β) (ha : a ∈ rows) :
    ∃ b ∈ rows, part b = part a ∧ rowNumber part key rows b = 1 := by
  have hmem : a ∈ rankedWith part key rows a := mem_rankedWith.mpr ⟨ha, rfl⟩
  rcases hranked : rankedWith part key rows a with _ | ⟨b, rest⟩
  · rw [hranked] at hmem
    cases hmem
  · have hb : b ∈ rankedWith part key rows a := by
      rw [hranked]
      exact List.mem_cons_self
    obtain ⟨hrows, hpart⟩ := mem_rankedWith.mp hb
    refine ⟨b, hrows, hpart, ?_⟩
    rw [rowNumber_eq_one_iff_head hrows, rankedWith_congr hpart, hranked]
    rfl

/-- A partition has one first row only. -/
theorem eq_of_rowNumber_one (part : α → κ) (key : α → β) (ha : a ∈ rows) (hb : b ∈ rows) (h : part a = part b)
    (hone : rowNumber part key rows a = 1) (hone' : rowNumber part key rows b = 1) : a = b := by
  rw [rowNumber_eq_one_iff_head ha, rankedWith_congr h] at hone
  rw [rowNumber_eq_one_iff_head hb] at hone'
  exact Option.some.inj (hone.symm.trans hone')

/-- The first row of a partition is a least one. -/
theorem key_le_of_rowNumber_one (ha : a ∈ rows) (hb : b ∈ rows) (h : part b = part a)
    (hone : rowNumber part key rows a = 1) : key a ≤ key b := by
  rw [rowNumber_eq_one_iff_head ha] at hone
  have hmem : b ∈ rankedWith part key rows a := mem_rankedWith.mpr ⟨hb, h⟩
  have hsorted := pairwise_rankedWith part key rows a
  rcases hranked : rankedWith part key rows a with _ | ⟨c, rest⟩
  · rw [hranked] at hmem
    cases hmem
  · rw [hranked] at hone hmem hsorted
    obtain rfl : c = a := Option.some.inj hone
    rcases List.mem_cons.mp hmem with rfl | hrest
    · exact le_refl _
    · exact (List.pairwise_cons.mp hsorted).1 b hrest

end Ranking
