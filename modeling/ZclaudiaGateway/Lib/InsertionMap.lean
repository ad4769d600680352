import Mathlib.Data.List.Nodup

/-!
# Insertion-ordered maps

A finite map that remembers the order in which its keys were first set, as the `Map` of ECMAScript does: setting a key that
is present keeps its place, deleting a key and setting it again moves it to the end. Keys are unique by construction.
A set is a map to `Unit`.
-/

universe u v w

/-- A finite map with its entries in insertion order, no key twice. -/
structure InsertionMap (κ : Type u) (α : Type v) where
  entries : List (κ × α)
  nodup : (entries.map Prod.fst).Nodup

namespace InsertionMap

variable {κ : Type u} {α : Type v} {β : Type w}

/-! ## Operations -/

/-- The map without entries. -/
def empty : InsertionMap κ α := ⟨[], List.nodup_nil⟩

instance : EmptyCollection (InsertionMap κ α) := ⟨empty⟩

instance : Inhabited (InsertionMap κ α) := ⟨empty⟩

/-- The keys, in insertion order. -/
def keys (m : InsertionMap κ α) : List κ := m.entries.map Prod.fst

/-- The values, in insertion order of their keys. -/
def values (m : InsertionMap κ α) : List α := m.entries.map Prod.snd

/-- The number of entries. -/
def size (m : InsertionMap κ α) : Nat := m.entries.length

/-- Change every value in place. -/
def mapValues (f : κ → α → β) (m : InsertionMap κ α) : InsertionMap κ β :=
  ⟨m.entries.map (fun p => (p.1, f p.1 p.2)), by simpa [List.map_map, Function.comp_def] using m.nodup⟩

/-- Keep the entries that satisfy a test. -/
def filter (f : κ → α → Bool) (m : InsertionMap κ α) : InsertionMap κ α :=
  ⟨m.entries.filter (fun p => f p.1 p.2), (List.filter_sublist.map Prod.fst).nodup m.nodup⟩

section Keyed

variable [DecidableEq κ]

/-- The value at a key. -/
def get (m : InsertionMap κ α) (k : κ) : Option α := (m.entries.find? (fun p => p.1 = k)).map Prod.snd

/-- The key is present. -/
def has (m : InsertionMap κ α) (k : κ) : Bool := (m.get k).isSome

/-- Remove a key. -/
def delete (m : InsertionMap κ α) (k : κ) : InsertionMap κ α := m.filter (fun k' _ => k' ≠ k)

/-- Change the value at a key in place; nothing happens when the key is absent. -/
def modify (m : InsertionMap κ α) (k : κ) (f : α → α) : InsertionMap κ α :=
  m.mapValues (fun k' a => if k' = k then f a else a)

/-- A key without an entry is not among the keys. -/
theorem not_mem_keys_of_get_none {m : InsertionMap κ α} {k : κ} (h : m.get k = none) :
    k ∉ m.entries.map Prod.fst := by
  intro hk
  obtain ⟨p, hp, rfl⟩ := List.mem_map.mp hk
  rw [get, Option.map_eq_none_iff, List.find?_eq_none] at h
  exact absurd (h p hp) (by simp)

/-- Set a key: in place when it is present, at the end when it is new. -/
def set (m : InsertionMap κ α) (k : κ) (a : α) : InsertionMap κ α :=
  if h : m.get k = none then
    ⟨m.entries ++ [(k, a)], by
      rw [List.map_append, List.map_singleton, List.nodup_append]
      refine ⟨m.nodup, List.nodup_singleton _, ?_⟩
      intro x hx y hy hxy
      rw [List.mem_singleton] at hy
      exact not_mem_keys_of_get_none h (by rw [hxy, hy] at hx; exact hx)⟩
  else m.modify k (fun _ => a)

/-! ## What a lookup sees -/

/-- A lookup finds exactly the entry with the key. -/
theorem get_eq_some_iff {m : InsertionMap κ α} {k : κ} {a : α} : m.get k = some a ↔ (k, a) ∈ m.entries := by
  obtain ⟨l, hl⟩ := m
  simp only [get]
  induction l with
  | nil => simp
  | cons p l ih =>
    rw [List.map_cons, List.nodup_cons] at hl
    rw [List.find?_cons]
    by_cases hp : p.1 = k
    · simp only [hp, decide_true, Option.map_some, Option.some.injEq, List.mem_cons]
      constructor
      · rintro rfl
        exact Or.inl (by rw [← hp])
      · rintro (h | h)
        · rw [← h]
        · exact absurd (List.mem_map.mpr ⟨(k, a), h, rfl⟩) (hp ▸ hl.1)
    · simp only [hp, decide_false, List.mem_cons, ih hl.2]
      constructor
      · exact Or.inr
      · rintro (h | h)
        · exact absurd (by rw [← h]) hp
        · exact h

theorem mem_entries_iff {m : InsertionMap κ α} {p : κ × α} : p ∈ m.entries ↔ m.get p.1 = some p.2 :=
  get_eq_some_iff.symm

theorem mem_keys_iff {m : InsertionMap κ α} {k : κ} : k ∈ m.keys ↔ ∃ a, m.get k = some a := by
  simp only [keys, List.mem_map, get_eq_some_iff]
  constructor
  · rintro ⟨⟨k', a⟩, h, rfl⟩
    exact ⟨a, h⟩
  · rintro ⟨a, h⟩
    exact ⟨(k, a), h, rfl⟩

theorem mem_values_iff {m : InsertionMap κ α} {a : α} : a ∈ m.values ↔ ∃ k, m.get k = some a := by
  simp only [values, List.mem_map, get_eq_some_iff]
  constructor
  · rintro ⟨⟨k, a'⟩, h, rfl⟩
    exact ⟨k, h⟩
  · rintro ⟨k, h⟩
    exact ⟨(k, a), h, rfl⟩

theorem has_iff {m : InsertionMap κ α} {k : κ} : m.has k = true ↔ ∃ a, m.get k = some a := by
  rw [has, Option.isSome_iff_exists]

theorem has_eq_false_iff {m : InsertionMap κ α} {k : κ} : m.has k = false ↔ m.get k = none := by
  simp [has]

theorem has_iff_mem_keys {m : InsertionMap κ α} {k : κ} : m.has k = true ↔ k ∈ m.keys := by
  rw [has_iff, mem_keys_iff]

@[simp] theorem get_empty (k : κ) : (empty : InsertionMap κ α).get k = none := rfl

@[simp] theorem get_emptyCollection (k : κ) : (∅ : InsertionMap κ α).get k = none := rfl

@[simp] theorem get_mapValues (f : κ → α → β) (m : InsertionMap κ α) (k : κ) :
    (m.mapValues f).get k = (m.get k).map (f k) := by
  apply Option.ext
  intro b
  rw [get_eq_some_iff, Option.map_eq_some_iff]
  simp only [mapValues, List.mem_map, Prod.mk.injEq, Prod.exists, get_eq_some_iff]
  constructor
  · rintro ⟨k', a, h, rfl, rfl⟩
    exact ⟨a, h, rfl⟩
  · rintro ⟨a, h, rfl⟩
    exact ⟨k, a, h, rfl, rfl⟩

omit [DecidableEq κ] in
theorem mapValues_mapValues {γ : Type*} (f : κ → α → β) (g : κ → β → γ) (m : InsertionMap κ α) :
    (m.mapValues f).mapValues g = m.mapValues (fun k a => g k (f k a)) := by
  unfold mapValues
  simp only [List.map_map, Function.comp_def]

theorem mapValues_congr {f g : κ → α → β} {m : InsertionMap κ α} (h : ∀ k a, m.get k = some a → f k a = g k a) :
    m.mapValues f = m.mapValues g := by
  unfold mapValues
  congr 1
  refine List.map_congr_left (fun p hp => ?_)
  rw [h p.1 p.2 (get_eq_some_iff.mpr hp)]

theorem mapValues_id {f : κ → α → α} {m : InsertionMap κ α} (h : ∀ k a, m.get k = some a → f k a = a) :
    m.mapValues f = m := by
  refine (mapValues_congr h).trans ?_
  unfold mapValues
  congr 1
  exact List.map_id' _

theorem get_filter (f : κ → α → Bool) (m : InsertionMap κ α) (k : κ) :
    (m.filter f).get k = (m.get k).filter (f k) := by
  apply Option.ext
  intro a
  rw [get_eq_some_iff, Option.filter_eq_some_iff, get_eq_some_iff]
  simp [filter, List.mem_filter]

theorem get_filter_eq_some {f : κ → α → Bool} {m : InsertionMap κ α} {k : κ} {a : α} :
    (m.filter f).get k = some a ↔ m.get k = some a ∧ f k a = true := by
  rw [get_filter, Option.filter_eq_some_iff]

@[simp] theorem get_delete_self (m : InsertionMap κ α) (k : κ) : (m.delete k).get k = none := by
  rw [delete, get_filter]
  cases m.get k <;> simp

theorem get_delete_of_ne {m : InsertionMap κ α} {k k' : κ} (h : k' ≠ k) : (m.delete k).get k' = m.get k' := by
  rw [delete, get_filter]
  cases m.get k' <;> simp [h]

theorem get_delete (m : InsertionMap κ α) (k k' : κ) :
    (m.delete k).get k' = if k' = k then none else m.get k' := by
  split
  · rename_i h
    rw [h, get_delete_self]
  · rename_i h
    exact get_delete_of_ne h

theorem get_delete_eq_some {m : InsertionMap κ α} {k k' : κ} {a : α} :
    (m.delete k).get k' = some a ↔ k' ≠ k ∧ m.get k' = some a := by
  rw [get_delete]
  split <;> simp_all

@[simp] theorem get_modify_self (m : InsertionMap κ α) (k : κ) (f : α → α) :
    (m.modify k f).get k = (m.get k).map f := by
  simp [modify]

theorem get_modify_of_ne {m : InsertionMap κ α} {k k' : κ} {f : α → α} (h : k' ≠ k) :
    (m.modify k f).get k' = m.get k' := by
  simp [modify, h]

theorem get_modify (m : InsertionMap κ α) (k k' : κ) (f : α → α) :
    (m.modify k f).get k' = if k' = k then (m.get k').map f else m.get k' := by
  split
  · rename_i h
    rw [h, get_modify_self]
  · rename_i h
    exact get_modify_of_ne h

theorem get_set (m : InsertionMap κ α) (k k' : κ) (a : α) :
    (m.set k a).get k' = if k' = k then some a else m.get k' := by
  unfold set
  split
  · rename_i h
    apply Option.ext
    intro b
    rw [get_eq_some_iff, List.mem_append, List.mem_singleton, ← get_eq_some_iff]
    split
    · rename_i hk
      subst hk
      simp [h, eq_comm]
    · rename_i hk
      simp [hk]
  · rename_i h
    rw [get_modify]
    split
    · rename_i hk
      subst hk
      obtain ⟨b, hb⟩ := Option.ne_none_iff_exists'.mp h
      rw [hb, Option.map_some]
    · rfl

@[simp] theorem get_set_self (m : InsertionMap κ α) (k : κ) (a : α) : (m.set k a).get k = some a := by
  rw [get_set, if_pos rfl]

theorem get_set_of_ne {m : InsertionMap κ α} {k k' : κ} {a : α} (h : k' ≠ k) : (m.set k a).get k' = m.get k' := by
  rw [get_set, if_neg h]

theorem get_set_eq_some {m : InsertionMap κ α} {k k' : κ} {a b : α} :
    (m.set k a).get k' = some b ↔ (k' = k ∧ a = b) ∨ (k' ≠ k ∧ m.get k' = some b) := by
  rw [get_set]
  split <;> simp_all

/-! ## Presence of keys -/

theorem has_set (m : InsertionMap κ α) (k k' : κ) (a : α) : (m.set k a).has k' = (decide (k' = k) || m.has k') := by
  rw [has, get_set, has]
  split <;> simp_all

theorem has_delete (m : InsertionMap κ α) (k k' : κ) : (m.delete k).has k' = (!decide (k' = k) && m.has k') := by
  rw [has, get_delete, has]
  split <;> simp_all

@[simp] theorem has_modify (m : InsertionMap κ α) (k k' : κ) (f : α → α) : (m.modify k f).has k' = m.has k' := by
  rw [has, get_modify, has]
  split <;> simp

theorem size_set (m : InsertionMap κ α) (k : κ) (a : α) :
    (m.set k a).size = if m.has k = true then m.size else m.size + 1 := by
  unfold set
  split
  · rename_i h
    rw [if_neg (by simp [has, h])]
    simp [size]
  · rename_i h
    rw [if_pos (by simpa [has, Option.isSome_iff_ne_none] using h)]
    simp [size, modify, mapValues]

/-! ## Counting values -/

/-- The keys of the values that satisfy a test. -/
def keysWhere (p : α → Bool) (m : InsertionMap κ α) : List κ := (m.entries.filter (fun e => p e.2)).map Prod.fst

theorem mem_keysWhere {p : α → Bool} {m : InsertionMap κ α} {k : κ} :
    k ∈ m.keysWhere p ↔ ∃ a, m.get k = some a ∧ p a = true := by
  simp only [keysWhere, List.mem_map, List.mem_filter, mem_entries_iff]
  constructor
  · rintro ⟨⟨k', a⟩, ⟨h, hp⟩, rfl⟩
    exact ⟨a, h, hp⟩
  · rintro ⟨a, h, hp⟩
    exact ⟨(k, a), ⟨h, hp⟩, rfl⟩

omit [DecidableEq κ] in
theorem nodup_keysWhere (p : α → Bool) (m : InsertionMap κ α) : (m.keysWhere p).Nodup :=
  (List.filter_sublist.map Prod.fst).nodup m.nodup

omit [DecidableEq κ] in
theorem length_keysWhere (p : α → Bool) (m : InsertionMap κ α) :
    (m.keysWhere p).length = (m.values.filter p).length := by
  rw [keysWhere, values, List.length_map, List.filter_map, List.length_map]
  rfl

/-- Values that satisfy a test are no more than those of another map, if each but those of some keys has one there. -/
theorem length_filter_values_le {p : α → Bool} {q : β → Bool} {m : InsertionMap κ α} {m' : InsertionMap κ β} (l : List κ)
    (h : ∀ k a, m.get k = some a → p a = true → k ∈ l ∨ ∃ b, m'.get k = some b ∧ q b = true) :
    (m.values.filter p).length ≤ (m'.values.filter q).length + l.length := by
  rw [← length_keysWhere, ← length_keysWhere, ← List.length_append]
  refine List.Nodup.length_le_of_subset (nodup_keysWhere p m) (fun k hk => ?_)
  obtain ⟨a, ha, hp⟩ := mem_keysWhere.mp hk
  rw [List.mem_append]
  exact (h k a ha hp).symm.imp mem_keysWhere.mpr id

/-- A new key comes last. -/
theorem entries_set_new {m : InsertionMap κ α} {k : κ} (h : m.get k = none) (a : α) :
    (m.set k a).entries = m.entries ++ [(k, a)] := by
  unfold set
  rw [dif_pos h]

theorem entries_set_present {m : InsertionMap κ α} {k : κ} (h : m.get k ≠ none) (a : α) :
    (m.set k a).entries = m.entries.map (fun p => (p.1, if p.1 = k then a else p.2)) := by
  unfold set
  rw [dif_neg h]
  rfl

theorem values_set_new {m : InsertionMap κ α} {k : κ} (h : m.get k = none) (a : α) :
    (m.set k a).values = m.values ++ [a] := by
  unfold set
  rw [dif_pos h]
  simp [values]

omit [DecidableEq κ] in
theorem values_mapValues (f : α → β) (m : InsertionMap κ α) : (m.mapValues (fun _ a => f a)).values = m.values.map f := by
  simp only [values, mapValues, List.map_map, Function.comp_def]

omit [DecidableEq κ] in
theorem values_filter (p : α → Bool) (m : InsertionMap κ α) : (m.filter (fun _ a => p a)).values = m.values.filter p := by
  simp only [values, filter, List.filter_map, Function.comp_def]

/-! ## Values that hold their key -/

/-- Every value is under the key it holds. -/
def Keyed (keyOf : α → κ) (m : InsertionMap κ α) : Prop := ∀ k a, m.get k = some a → keyOf a = k

section

variable {keyOf : α → κ} {m : InsertionMap κ α}

theorem Keyed.of_mem (h : m.Keyed keyOf) {p : κ × α} (hp : p ∈ m.entries) : keyOf p.2 = p.1 := h p.1 p.2 (mem_entries_iff.mp hp)

theorem Keyed.entries (h : m.Keyed keyOf) : m.entries = m.values.map (fun a => (keyOf a, a)) := by
  rw [values, List.map_map]
  conv_lhs => rw [← List.map_id m.entries]
  exact List.map_congr_left (fun p hp => Prod.ext (h.of_mem hp).symm rfl)

theorem Keyed.get (h : m.Keyed keyOf) (k : κ) : m.get k = m.values.find? (fun a => keyOf a = k) := by
  rw [InsertionMap.get, h.entries, List.find?_map, Option.map_map]
  simp [Function.comp_def]

theorem Keyed.modify_eq (h : m.Keyed keyOf) (k : κ) (f : α → α) :
    m.modify k f = m.mapValues (fun _ a => if keyOf a = k then f a else a) := by
  refine mapValues_congr (fun k' a ha => ?_)
  rw [h k' a ha]

/-- The value at a key is the one that holds it. -/
theorem Keyed.exists_iff (h : m.Keyed keyOf) (k : κ) (p : α → Prop) :
    (∃ a ∈ m.values, keyOf a = k ∧ p a) ↔ ∃ a, m.get k = some a ∧ p a := by
  constructor
  · rintro ⟨a, ha, rfl, hp⟩
    obtain ⟨k', hk'⟩ := mem_values_iff.mp ha
    exact ⟨a, (h k' a hk') ▸ hk', hp⟩
  · rintro ⟨a, ha, hp⟩
    exact ⟨a, mem_values_iff.mpr ⟨k, ha⟩, h k a ha, hp⟩

theorem Keyed.mapValues (h : m.Keyed keyOf) {f : κ → α → α} (hf : ∀ k a, keyOf (f k a) = keyOf a) :
    (m.mapValues f).Keyed keyOf := by
  intro k a ha
  rw [get_mapValues] at ha
  obtain ⟨a', ha', rfl⟩ := Option.map_eq_some_iff.mp ha
  rw [hf]
  exact h k a' ha'

theorem Keyed.set (h : m.Keyed keyOf) (a : α) : (m.set (keyOf a) a).Keyed keyOf := by
  intro k a' ha
  rw [get_set] at ha
  split at ha
  · rename_i heq
    rw [Option.some.injEq] at ha
    rw [← ha, heq]
  · exact h k a' ha

theorem Keyed.filter (h : m.Keyed keyOf) (p : κ → α → Bool) : (m.filter p).Keyed keyOf :=
  fun k a ha => h k a (get_filter_eq_some.mp ha).1

end

/-! ## Deleting several keys -/

/-- Deleting the keys of a list leaves the others. -/
theorem get_foldl_delete (l : List κ) (m : InsertionMap κ α) (k : κ) :
    (l.foldl delete m).get k = if k ∈ l then none else m.get k := by
  induction l generalizing m with
  | nil => simp
  | cons x l ih =>
    rw [List.foldl_cons, ih, get_delete]
    by_cases hl : k ∈ l
    · simp [hl]
    · by_cases hx : k = x <;> simp [hl, hx]

/-! ## Maps with the same keys -/

/-- The maps have the same keys, and what they hold under each is related. -/
def Pointwise (r : α → β → Prop) (m : InsertionMap κ α) (m' : InsertionMap κ β) : Prop :=
  ∀ k, Option.Rel r (m.get k) (m'.get k)

namespace Pointwise

variable {r : α → α → Prop} {m m' m'' : InsertionMap κ α}

theorem refl (hr : ∀ a, r a a) (m : InsertionMap κ α) : m.Pointwise r m := by
  intro k
  cases m.get k with
  | none => exact .none
  | some a => exact .some (hr a)

theorem trans (hr : ∀ a b c, r a b → r b c → r a c) (h : m.Pointwise r m') (h' : m'.Pointwise r m'') :
    m.Pointwise r m'' := by
  intro k
  have h1 := h k
  have h2 := h' k
  revert h1 h2
  rcases m.get k with _ | a <;> rcases m'.get k with _ | b <;> rcases m''.get k with _ | c <;> intro h1 h2 <;>
    cases h1 <;> cases h2
  · exact .none
  · rename_i h1 h2
    exact .some (hr a b c h1 h2)

theorem get_some (h : m.Pointwise r m') {k : κ} {a : α} (hk : m.get k = some a) :
    ∃ b, m'.get k = some b ∧ r a b := by
  have hr := h k
  rw [hk] at hr
  revert hr
  rcases m'.get k with _ | b <;> intro hr <;> cases hr
  rename_i hr
  exact ⟨b, rfl, hr⟩

theorem some_get (h : m.Pointwise r m') {k : κ} {b : α} (hk : m'.get k = some b) :
    ∃ a, m.get k = some a ∧ r a b := by
  have hr := h k
  rw [hk] at hr
  revert hr
  rcases m.get k with _ | a <;> intro hr <;> cases hr
  rename_i hr
  exact ⟨a, rfl, hr⟩

theorem get_none_iff (h : m.Pointwise r m') (k : κ) : m'.get k = none ↔ m.get k = none := by
  have hr := h k
  revert hr
  rcases m.get k with _ | a <;> rcases m'.get k with _ | b <;> intro hr <;> cases hr <;> simp

theorem has_eq (h : m.Pointwise r m') (k : κ) : m'.has k = m.has k := by
  have hn := h.get_none_iff k
  rw [has, has]
  revert hn
  rcases m.get k with _ | a <;> rcases m'.get k with _ | b <;> simp

theorem mono {r' : α → α → Prop} (hr : ∀ a b, r a b → r' a b) (h : m.Pointwise r m') : m.Pointwise r' m' := by
  intro k
  have hk := h k
  revert hk
  rcases m.get k with _ | a <;> rcases m'.get k with _ | b <;> intro hk <;> cases hk
  · exact .none
  · rename_i hk
    exact .some (hr a b hk)

/-- Values changed in place are related when each is. -/
theorem mapValues {f : κ → α → α} (hf : ∀ k a, m.get k = some a → r a (f k a)) : m.Pointwise r (m.mapValues f) := by
  intro k
  rw [get_mapValues]
  have hk := hf k
  revert hk
  rcases m.get k with _ | a <;> intro hk
  · exact .none
  · exact .some (hk a rfl)

/-- One value changed in place. -/
theorem modify (hr : ∀ a, r a a) {k : κ} {f : α → α} (hf : ∀ a, m.get k = some a → r a (f a)) :
    m.Pointwise r (m.modify k f) := by
  refine mapValues (fun k' a ha => ?_)
  by_cases hk : k' = k
  · subst hk
    simpa using hf a ha
  · simpa [hk] using hr a

end Pointwise

end Keyed

end InsertionMap
