import Mathlib.Data.List.Basic

/-!
# Joined texts

Texts joined with a separator character are read back by splitting at it, so joining is injective on texts that do not hold the
separator; in general it is not. What follows the last separator is read back even when what is before it holds one.
-/

namespace JoinedText

/-- Joined texts that do not hold the separator are read back by splitting at it. -/
theorem splitOn_intercalate {sep : Char} {l : List String} (hl : ∀ s ∈ l, sep ∉ s.toList) (hne : l ≠ []) :
    ((String.singleton sep).intercalate l).toList.splitOn sep = l.map String.toList := by
  rw [String.toList_intercalate, String.toList_singleton]
  refine List.splitOn_intercalate sep ?_ (by simpa using hne)
  intro cs hcs
  obtain ⟨s, hs, rfl⟩ := List.mem_map.mp hcs
  exact hl s hs

/-- Joining texts that do not hold the separator loses nothing. -/
theorem intercalate_injective {sep : Char} {l l' : List String} (hl : ∀ s ∈ l, sep ∉ s.toList)
    (hl' : ∀ s ∈ l', sep ∉ s.toList) (hne : l ≠ []) (hne' : l' ≠ [])
    (h : (String.singleton sep).intercalate l = (String.singleton sep).intercalate l') : l = l' := by
  have hparts : l.map String.toList = l'.map String.toList := by
    rw [← splitOn_intercalate hl hne, ← splitOn_intercalate hl' hne', h]
  exact List.map_injective_iff.mpr (fun a b hab => String.toList_injective hab) hparts

/-- What follows the last separator of a list is told apart from what is before it. -/
theorem last_separator {α : Type*} {sep : α} {a a' b b' : List α} (hb : sep ∉ b) (hb' : sep ∉ b')
    (h : a ++ sep :: b = a' ++ sep :: b') : a = a' ∧ b = b' := by
  rcases List.append_eq_append_iff.mp h with ⟨c, rfl, hc⟩ | ⟨c, rfl, hc⟩
  · rcases c with _ | ⟨x, c⟩
    · simpa using hc
    · simp only [List.cons_append, List.cons.injEq] at hc
      exact absurd (by rw [hc.2]; simp) hb
  · rcases c with _ | ⟨x, c⟩
    · simpa [eq_comm] using hc
    · simp only [List.cons_append, List.cons.injEq] at hc
      exact absurd (by rw [hc.2]; simp) hb'

theorem append_separator_injective {sep : Char} {a a' b b' : String} (hb : sep ∉ b.toList) (hb' : sep ∉ b'.toList)
    (h : a ++ String.singleton sep ++ b = a' ++ String.singleton sep ++ b') : a = a' ∧ b = b' := by
  have hlists := congrArg String.toList h
  simp only [String.toList_append, String.toList_singleton, List.append_assoc, List.singleton_append] at hlists
  obtain ⟨ha, hb⟩ := last_separator hb hb' hlists
  exact ⟨String.toList_injective ha, String.toList_injective hb⟩

/-- A character of joined texts is the separator or is in one of them. -/
theorem mem_intercalate {sep c : Char} {l : List String}
    (h : c ∈ ((String.singleton sep).intercalate l).toList) : c = sep ∨ ∃ s ∈ l, c ∈ s.toList := by
  rw [String.toList_intercalate, String.toList_singleton] at h
  induction l with
  | nil => simp at h
  | cons s l ih =>
    rcases l with _ | ⟨s', l⟩
    · exact Or.inr ⟨s, by simp, by simpa using h⟩
    · simp only [List.map_cons, List.intercalate_cons_cons, List.mem_append, List.mem_singleton] at h ih
      rcases h with (h | h) | h
      · exact Or.inr ⟨s, by simp, h⟩
      · exact Or.inl h
      · rcases ih h with h | ⟨t, ht, h⟩
        · exact Or.inl h
        · exact Or.inr ⟨t, List.mem_cons_of_mem s ht, h⟩

end JoinedText
