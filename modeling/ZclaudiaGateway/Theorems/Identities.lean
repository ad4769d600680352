import ZclaudiaGateway.Lemmas.Identities
import ZclaudiaGateway.Lemmas.Sample

/-!
# The mapping of legacy identities

A legacy backend is known by its namespace, instance id and environment, joined with U+001F to the key of its row. The joined
text says where a component ends only as long as no component holds the separator itself.
-/

namespace ZclaudiaGateway

open Storage

/-- The backend ids the calls of a run return tell their components apart, and no tenant gets the row of another. -/
structure InjectiveMapping (ids : IdSource) (es : List (Nat × IdentityCall)) : Prop where
  same_iff : ∀ c backendId c' backendId', Resolves ids es c backendId → Resolves ids es c' backendId' →
    (backendId = backendId' ↔ c = c')
  not_bound : ∀ c backendId, Resolves ids es c backendId → ¬ Binds ids es backendId
  own_namespace : ∀ c backendId, Resolves ids es c backendId →
    ∀ row ∈ ((identityTable ids).run es).storage.backendIdentities.values, row.backendId = backendId → row.ns = c.ns

/-- No two calls of the run whose components differ join them to one text. -/
def Unambiguous (es : List (Nat × IdentityCall)) : Prop :=
  ∀ e ∈ es, ∀ e' ∈ es, ∀ c c', e.2.components = some c → e'.2.components = some c' → c.key = c'.key → c = c'

/-- A run whose components do not hold the separator. -/
theorem unambiguous_of_separator_free {es : List (Nat × IdentityCall)}
    (h : ∀ e ∈ es, ∀ c, e.2.components = some c → ∀ s ∈ [c.ns, c.instanceId, c.environment], '\x1f' ∉ s.toList) :
    Unambiguous es := by
  intro e he e' he' c c' hc hc' hkey
  exact key_injective (h e he c hc) (h e' he' c' hc') hkey

theorem Resolves.components {ids : IdSource} {es : List (Nat × IdentityCall)} {c : IdentityComponents} {backendId : String}
    (h : Resolves ids es c backendId) : ∃ e ∈ es, e.2.components = some c := by
  obtain ⟨pre, now, name, hp, -⟩ := h
  exact ⟨(now, .getOrCreate c name), hp.subset (by simp), rfl⟩

/-- Every call of a run returned something. -/
theorem resolves_of_components (ids : IdSource) {es : List (Nat × IdentityCall)} {e : Nat × IdentityCall}
    {c : IdentityComponents} (he : e ∈ es) (hc : e.2.components = some c) : ∃ backendId, Resolves ids es c backendId := by
  obtain ⟨now, call⟩ := e
  cases call with
  | getOrCreate c₀ name =>
    obtain rfl : c₀ = c := Option.some.inj hc
    obtain ⟨pre, post, rfl⟩ := List.append_of_mem he
    exact ⟨_, pre, now, name, ⟨post, by simp⟩, rfl⟩
  | createBound ns name => cases hc
  | touch backendId rootCredentialId name => cases hc

/-- The mapping is injective exactly as long as the joined texts are unambiguous. -/
theorem legacy_mapping_injective_iff (ids : IdSource) (es : List (Nat × IdentityCall)) :
    InjectiveMapping ids es ↔ Unambiguous es := by
  have hold := identitiesHold_run ids es
  constructor
  · intro h e he e' he' c c' hc hc' hkey
    obtain ⟨b, hb⟩ := resolves_of_components ids he hc
    obtain ⟨b', hb'⟩ := resolves_of_components ids he' hc'
    obtain ⟨row, hrow, hid⟩ := hold.resolved c b hb
    obtain ⟨row', hrow', hid'⟩ := hold.resolved c' b' hb'
    rw [hkey, hrow'] at hrow
    obtain rfl := Option.some.inj hrow
    exact (h.same_iff c b c' b' hb hb').mp (hid.symm.trans hid')
  · intro h
    have same_key (c c' : IdentityComponents) (hc : ∃ e ∈ es, e.2.components = some c)
        (hc' : ∃ e ∈ es, e.2.components = some c') (hkey : c.key = c'.key) : c = c' := by
      obtain ⟨e, he, hc⟩ := hc
      obtain ⟨e', he', hc'⟩ := hc'
      exact h e he e' he' c c' hc hc' hkey
    refine ⟨?_, ?_, ?_⟩
    · intro c b c' b' hb hb'
      obtain ⟨row, hrow, hid⟩ := hold.resolved c b hb
      obtain ⟨row', hrow', hid'⟩ := hold.resolved c' b' hb'
      constructor
      · intro hbb
        have hkey : c.key = c'.key := hold.distinct _ _ _ _ hrow hrow' (by rw [hid, hid', hbb])
        exact same_key c c' hb.components hb'.components hkey
      · rintro rfl
        rw [hrow] at hrow'
        obtain rfl := Option.some.inj hrow'
        exact hid.symm.trans hid'
    · intro c b hb hbound
      obtain ⟨row, hrow, hid⟩ := hold.resolved c b hb
      obtain ⟨row', hrow', hid'⟩ := hold.bound b hbound
      exact key_ne_boundIdentityKey c b (hold.distinct _ _ _ _ hrow hrow' (hid.trans hid'.symm))
    · intro c b hb row hrow hid
      obtain ⟨key, hkey⟩ := InsertionMap.mem_values_iff.mp hrow
      obtain ⟨row', hrow', hid'⟩ := hold.resolved c b hb
      obtain rfl : key = c.key := hold.distinct _ _ _ _ hkey hrow' (hid.trans hid'.symm)
      obtain ⟨-, ⟨e, he, c₀, hc₀, hk, hns⟩ | hk⟩ := hold.rows _ _ hkey
      · obtain rfl := same_key c c₀ hb.components ⟨e, he, hc₀⟩ hk
        exact hns
      · exact absurd hk (key_ne_boundIdentityKey c _)

/-- Two tenants' backends under one key: the instance id of the first holds the separator. -/
def ambiguousCalls : List (Nat × IdentityCall) :=
  [(0, .getOrCreate ⟨"a", "b\x1fc", "prod"⟩ none), (0, .getOrCreate ⟨"a\x1fb", "c", "prod"⟩ none)]

/-- The second tenant gets the backend id of the first. -/
theorem ambiguous_mapping_not_injective : ¬ InjectiveMapping (.letters 'b') ambiguousCalls := by
  intro h
  have first : Resolves (.letters 'b') ambiguousCalls ⟨"a", "b\x1fc", "prod"⟩ "b" :=
    ⟨[], 0, none, by decide, by decide +kernel⟩
  have second : Resolves (.letters 'b') ambiguousCalls ⟨"a\x1fb", "c", "prod"⟩ "b" :=
    ⟨[(0, .getOrCreate ⟨"a", "b\x1fc", "prod"⟩ none)], 0, none, by decide, by decide +kernel⟩
  have heq := (h.same_iff _ _ _ _ first second).mp rfl
  exact absurd heq (by decide)

end ZclaudiaGateway
