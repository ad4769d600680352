import ZclaudiaGateway.Lib.EventMachine
import ZclaudiaGateway.Lib.JoinedText
import ZclaudiaGateway.State

/-!
# The identity table

The identity table under the calls that create and touch rows, from a new database on. Every row stays under the key it was
created with and keeps its backend id and its namespace, and no two rows have one backend id.
-/

namespace ZclaudiaGateway

/-- A database without rows. -/
def Storage.new : Storage := { credentials := .empty, backendIdentities := .empty, maxEpoch := 0 }

/-- The components a legacy identity is keyed by. -/
structure IdentityComponents where
  ns : String
  instanceId : String
  environment : String
deriving DecidableEq

def IdentityComponents.key (c : IdentityComponents) : String := backendIdentityKey c.ns c.instanceId c.environment

/-- A call that creates or touches identity rows. -/
inductive IdentityCall where
  | getOrCreate (components : IdentityComponents) (name : Option String)
  | createBound (ns name : String)
  | touch (backendId : String) (rootCredentialId name : Option String)
deriving DecidableEq

/-- The table after a call. -/
def IdentityCall.apply (fresh : String) (now : Nat) (call : IdentityCall) (st : Storage) : Storage :=
  match call with
  | .getOrCreate c name => (st.getOrCreateBackendIdV4 fresh now c.ns c.instanceId c.environment name).2
  | .createBound ns name => st.createBoundBackendIdentity fresh now ns name
  | .touch backendId rootCredentialId name => st.touchBackendIdentity now backendId rootCredentialId name

/-- The identity table, with the number of calls so far: the position in the source of backend ids. -/
structure IdentityTable where
  storage : Storage
  drawn : Nat

/-- The identity table as a machine; a call comes with the time it is made at. -/
def identityTable (ids : IdSource) : EventMachine IdentityTable (Nat × IdentityCall) where
  init := ⟨.new, 0⟩
  step t e := ⟨e.2.apply (ids.draw t.drawn) e.1 t.storage, t.drawn + 1⟩

/-! ## Keys -/

theorem backendIdentityKey_eq (ns instanceId environment : String) :
    backendIdentityKey ns instanceId environment =
      (String.singleton '\x1f').intercalate ["", ns, instanceId, environment] := rfl

/-- A legacy key starts with the separator after the empty tenant, a bound key with its prefix. -/
theorem key_ne_boundIdentityKey (c : IdentityComponents) (backendId : String) : c.key ≠ boundIdentityKey backendId := by
  intro h
  have hlists := congrArg String.toList h
  simp only [IdentityComponents.key, backendIdentityKey_eq, boundIdentityKey, String.toList_intercalate,
    String.toList_append, List.map_cons, List.intercalate_cons_cons, String.toList_singleton] at hlists
  have hhead := congrArg List.head? hlists
  simp at hhead

theorem boundIdentityKey_injective {a b : String} (h : boundIdentityKey a = boundIdentityKey b) : a = b := by
  have hlists := congrArg String.toList h
  simp only [boundIdentityKey, String.toList_append, List.append_cancel_left_eq] at hlists
  exact String.toList_injective hlists

/-- The key tells apart the components of identities that do not hold the separator. -/
theorem key_injective {c c' : IdentityComponents}
    (hc : ∀ s ∈ [c.ns, c.instanceId, c.environment], '\x1f' ∉ s.toList)
    (hc' : ∀ s ∈ [c'.ns, c'.instanceId, c'.environment], '\x1f' ∉ s.toList) (h : c.key = c'.key) : c = c' := by
  obtain ⟨ns, instanceId, environment⟩ := c
  obtain ⟨ns', instanceId', environment'⟩ := c'
  have hempty (l : List String) (hl : ∀ s ∈ l, '\x1f' ∉ s.toList) : ∀ s ∈ "" :: l, '\x1f' ∉ s.toList := by
    intro s hs
    rcases List.mem_cons.mp hs with rfl | hs
    · exact List.not_mem_nil
    · exact hl s hs
  have hall := JoinedText.intercalate_injective (hempty _ hc) (hempty _ hc') (by simp) (by simp) h
  simp only [List.cons.injEq, true_and, and_true] at hall
  obtain ⟨rfl, rfl, rfl⟩ := hall
  rfl

/-! ## One call -/

namespace Storage

/-- The identity row under a key. -/
def identity (st : Storage) (key : String) : Option BackendIdentity := st.backendIdentities.get key

@[simp] theorem renameIdentity_backendId (name : Option String) (now : Nat) (row : BackendIdentity) :
    (renameIdentity name now row).backendId = row.backendId := by
  unfold renameIdentity
  split
  · split <;> rfl
  · rfl

@[simp] theorem renameIdentity_ns (name : Option String) (now : Nat) (row : BackendIdentity) :
    (renameIdentity name now row).ns = row.ns := by
  unfold renameIdentity
  split
  · split <;> rfl
  · rfl

/-- A row after a call that keeps what it identifies. -/
def SameIdentity (row row' : BackendIdentity) : Prop := row'.backendId = row.backendId ∧ row'.ns = row.ns

theorem SameIdentity.refl (row : BackendIdentity) : SameIdentity row row := ⟨rfl, rfl⟩

/-- `getOrCreateBackendIdV4` finds the row of its key or makes it. -/
theorem getOrCreate_cases (fresh : String) (now : Nat) (c : IdentityComponents) (name : Option String) (st : Storage) :
    ((∃ row, st.identity c.key = some row ∧
        st.getOrCreateBackendIdV4 fresh now c.ns c.instanceId c.environment name =
          (row.backendId, { st with
            backendIdentities := st.backendIdentities.modify c.key (renameIdentity name now) })) ∨
      (st.identity c.key = none ∧ ∃ row, row.backendId = fresh ∧ row.ns = c.ns ∧
        st.getOrCreateBackendIdV4 fresh now c.ns c.instanceId c.environment name =
          (fresh, { st with backendIdentities := st.backendIdentities.set c.key row }))) := by
  unfold getOrCreateBackendIdV4
  dsimp only
  change _ ∨ (st.backendIdentities.get (backendIdentityKey c.ns c.instanceId c.environment) = none ∧ _)
  split
  · rename_i row hrow
    exact Or.inl ⟨row, hrow, rfl⟩
  · rename_i hrow
    exact Or.inr ⟨hrow, _, rfl, rfl, rfl⟩

end Storage

open Storage

/-- A call changes no row's identity, and every row that is new has the fresh id. -/
structure IdentityStep (fresh : String) (call : IdentityCall) (st st' : Storage) : Prop where
  kept : ∀ key row, st.identity key = some row → ∃ row', st'.identity key = some row' ∧ SameIdentity row row'
  new : ∀ key row', st'.identity key = some row' →
    (∃ row, st.identity key = some row ∧ SameIdentity row row') ∨
      row'.backendId = fresh ∧
        ((∃ c name, call = .getOrCreate c name ∧ key = c.key ∧ row'.ns = c.ns) ∨
          ((∃ ns name, call = .createBound ns name) ∧ key = boundIdentityKey fresh))

/-- Rows changed in place without a change of identity. -/
theorem IdentityStep.of_mapped {fresh : String} {call : IdentityCall} {st st' : Storage}
    (f : String → BackendIdentity → BackendIdentity) (hf : ∀ key row, SameIdentity row (f key row))
    (hst : ∀ key, st'.identity key = (st.identity key).map (f key)) : IdentityStep fresh call st st' where
  kept key row h := ⟨f key row, by rw [hst, h]; rfl, hf key row⟩
  new key row' h := by
    rw [hst, Option.map_eq_some_iff] at h
    obtain ⟨row, hrow, rfl⟩ := h
    exact Or.inl ⟨row, hrow, hf key row⟩

/-- A row set under a key that had none. -/
theorem IdentityStep.of_set {fresh : String} {call : IdentityCall} {st st' : Storage} {key : String} {row : BackendIdentity}
    (hkey : st.identity key = none) (hst : st'.backendIdentities = st.backendIdentities.set key row)
    (hrow : row.backendId = fresh)
    (hcall : (∃ c name, call = .getOrCreate c name ∧ key = c.key ∧ row.ns = c.ns) ∨
      ((∃ ns name, call = .createBound ns name) ∧ key = boundIdentityKey fresh)) : IdentityStep fresh call st st' where
  kept k r h := by
    have hne : k ≠ key := by
      rintro rfl
      rw [hkey] at h
      cases h
    refine ⟨r, ?_, .refl r⟩
    unfold identity
    rw [hst, InsertionMap.get_set_of_ne hne]
    exact h
  new k r h := by
    unfold identity at h
    rw [hst, InsertionMap.get_set_eq_some] at h
    rcases h with ⟨rfl, rfl⟩ | ⟨-, h⟩
    · exact Or.inr ⟨hrow, hcall⟩
    · exact Or.inl ⟨r, h, .refl r⟩

theorem IdentityCall.apply_step (fresh : String) (now : Nat) (call : IdentityCall) (st : Storage)
    (hfresh : st.identity (boundIdentityKey fresh) = none) : IdentityStep fresh call st (call.apply fresh now st) := by
  cases call with
  | getOrCreate c name =>
    rcases getOrCreate_cases fresh now c name st with ⟨row, -, he⟩ | ⟨hkey, row, hid, hns, he⟩
    · refine .of_mapped (fun k r => if k = c.key then renameIdentity name now r else r) ?_ ?_
      · intro k r
        split
        · exact ⟨renameIdentity_backendId name now r, renameIdentity_ns name now r⟩
        · exact .refl r
      · intro k
        simp only [IdentityCall.apply, he, identity, InsertionMap.modify, InsertionMap.get_mapValues]
    · refine @IdentityStep.of_set _ _ _ _ _ row hkey ?_ hid (Or.inl ⟨c, name, rfl, rfl, hns⟩)
      simp only [IdentityCall.apply, he]
  | createBound ns name => exact .of_set hfresh rfl rfl (Or.inr ⟨⟨ns, name, rfl⟩, rfl⟩)
  | touch backendId rootCredentialId name =>
    refine .of_mapped _ ?_ (fun k => InsertionMap.get_mapValues _ _ k)
    intro k r
    split
    · exact ⟨rfl, rfl⟩
    · exact .refl r

/-! ## Runs -/

variable {ids : IdSource}

theorem identityTable_drawn (ids : IdSource) (es : List (Nat × IdentityCall)) :
    ((identityTable ids).run es).drawn = es.length := by
  induction es using List.reverseRecOn with
  | nil => rfl
  | append_singleton es e ih =>
    rw [EventMachine.run_snoc, List.length_append, List.length_singleton, ← ih]
    rfl

/-- A call of the run asked for the backend id of the components and got it. -/
def Resolves (ids : IdSource) (es : List (Nat × IdentityCall)) (c : IdentityComponents) (backendId : String) : Prop :=
  ∃ pre now name, pre ++ [(now, .getOrCreate c name)] <+: es ∧
    backendId = (((identityTable ids).run pre).storage.getOrCreateBackendIdV4 (ids.draw pre.length) now c.ns c.instanceId
      c.environment name).1

/-- A call of the run made a credential-bound identity with the backend id. -/
def Binds (ids : IdSource) (es : List (Nat × IdentityCall)) (backendId : String) : Prop :=
  ∃ pre now ns name, pre ++ [(now, .createBound ns name)] <+: es ∧ backendId = ids.draw pre.length

/-- The components a call asks for. -/
def IdentityCall.components : IdentityCall → Option IdentityComponents
  | .getOrCreate c _ => some c
  | _ => none

/-- What the calls of a run have made of the table. -/
structure IdentitiesHold (ids : IdSource) (es : List (Nat × IdentityCall)) (st : Storage) : Prop where
  /-- Every row has an id drawn before, and the key it was created with. -/
  rows : ∀ key row, st.identity key = some row →
    (∃ i, i < es.length ∧ row.backendId = ids.draw i) ∧
      ((∃ e ∈ es, ∃ c, e.2.components = some c ∧ key = c.key ∧ row.ns = c.ns) ∨ key = boundIdentityKey row.backendId)
  distinct : ∀ key row key' row', st.identity key = some row → st.identity key' = some row' →
    row.backendId = row'.backendId → key = key'
  resolved : ∀ c backendId, Resolves ids es c backendId → ∃ row, st.identity c.key = some row ∧ row.backendId = backendId
  bound : ∀ backendId, Binds ids es backendId →
    ∃ row, st.identity (boundIdentityKey backendId) = some row ∧ row.backendId = backendId

theorem IdentitiesHold.fresh {es : List (Nat × IdentityCall)} {st : Storage} (h : IdentitiesHold ids es st) {key : String}
    {row : BackendIdentity} (hrow : st.identity key = some row) : row.backendId ≠ ids.draw es.length := by
  obtain ⟨⟨i, hi, he⟩, -⟩ := h.rows key row hrow
  rw [he]
  intro hdraw
  have := ids.injective hdraw
  omega

theorem IdentitiesHold.fresh_bound {es : List (Nat × IdentityCall)} {st : Storage} (h : IdentitiesHold ids es st) :
    st.identity (boundIdentityKey (ids.draw es.length)) = none := by
  rcases hrow : st.identity (boundIdentityKey (ids.draw es.length)) with _ | row
  · rfl
  · obtain ⟨-, ⟨e, -, c, -, hkey, -⟩ | hkey⟩ := h.rows _ _ hrow
    · exact absurd hkey.symm (key_ne_boundIdentityKey c _)
    · exact absurd (boundIdentityKey_injective hkey).symm (h.fresh hrow)

/-- What a call keeps of the table, with the row the call asked for. -/
theorem IdentitiesHold.step {es : List (Nat × IdentityCall)} {st : Storage} (h : IdentitiesHold ids es st)
    (hrun : st = ((identityTable ids).run es).storage) (now : Nat) (call : IdentityCall) :
    IdentitiesHold ids (es ++ [(now, call)]) (call.apply (ids.draw es.length) now st) := by
  have hstep := call.apply_step (ids.draw es.length) now st h.fresh_bound
  refine ⟨?_, ?_, ?_, ?_⟩
  · intro key row' hrow'
    rw [List.length_append, List.length_singleton]
    rcases hstep.new key row' hrow' with ⟨row, hrow, hid, hns⟩ | ⟨hid, hcall⟩
    · obtain ⟨⟨i, hi, he⟩, hkey⟩ := h.rows key row hrow
      refine ⟨⟨i, by omega, hid.trans he⟩, ?_⟩
      rcases hkey with ⟨e, he, c, hc, hk, hn⟩ | hk
      · exact Or.inl ⟨e, List.mem_append_left _ he, c, hc, hk, hns.trans hn⟩
      · exact Or.inr (by rw [hid]; exact hk)
    · refine ⟨⟨es.length, by omega, hid⟩, ?_⟩
      rcases hcall with ⟨c, name, rfl, hk, hn⟩ | ⟨-, hk⟩
      · exact Or.inl ⟨(now, .getOrCreate c name), by simp, c, rfl, hk, hn⟩
      · exact Or.inr (by rw [hid]; exact hk)
  · intro key row₁ key' row₂ h₁ h₂ heq
    rcases hstep.new key row₁ h₁ with ⟨r₁, hr₁, hid₁, -⟩ | ⟨hid₁, hc₁⟩ <;>
      rcases hstep.new key' row₂ h₂ with ⟨r₂, hr₂, hid₂, -⟩ | ⟨hid₂, hc₂⟩
    · exact h.distinct key r₁ key' r₂ hr₁ hr₂ (by rw [← hid₁, ← hid₂, heq])
    · exact absurd (by rw [← hid₁, heq, hid₂]) (h.fresh hr₁)
    · exact absurd (by rw [← hid₂, ← heq, hid₁]) (h.fresh hr₂)
    · rcases hc₁ with ⟨c₁, n₁, he₁, hk₁, -⟩ | ⟨⟨ns₁, n₁, he₁⟩, hk₁⟩ <;>
        rcases hc₂ with ⟨c₂, n₂, he₂, hk₂, -⟩ | ⟨⟨ns₂, n₂, he₂⟩, hk₂⟩
      · rw [he₁] at he₂
        cases he₂
        rw [hk₁, hk₂]
      · rw [he₁] at he₂
        cases he₂
      · rw [he₁] at he₂
        cases he₂
      · rw [hk₁, hk₂]
  · rintro c backendId ⟨pre, now', name, hp, rfl⟩
    rcases List.prefix_concat_iff.mp hp with hp | hp
    · obtain ⟨rfl, hx⟩ := List.append_inj' hp rfl
      obtain ⟨rfl, rfl⟩ := Prod.mk.inj (List.singleton_inj.mp hx)
      rw [← hrun]
      rcases getOrCreate_cases (ids.draw pre.length) now' c name st with ⟨row, hrow, he⟩ | ⟨-, row, hid, -, he⟩
      · obtain ⟨row', hrow', hid, -⟩ := hstep.kept _ _ hrow
        exact ⟨row', hrow', by rw [hid, he]⟩
      · refine ⟨row, ?_, by rw [hid, he]⟩
        simp only [IdentityCall.apply, he, identity, InsertionMap.get_set_self]
    · obtain ⟨row, hrow, hid⟩ := h.resolved c _ ⟨pre, now', name, hp, rfl⟩
      obtain ⟨row', hrow', hid', -⟩ := hstep.kept _ _ hrow
      exact ⟨row', hrow', hid'.trans hid⟩
  · rintro backendId ⟨pre, now', ns, name, hp, rfl⟩
    rcases List.prefix_concat_iff.mp hp with hp | hp
    · obtain ⟨rfl, hx⟩ := List.append_inj' hp rfl
      obtain ⟨rfl, rfl⟩ := Prod.mk.inj (List.singleton_inj.mp hx)
      exact ⟨_, InsertionMap.get_set_self _ _ _, rfl⟩
    · obtain ⟨row, hrow, hid⟩ := h.bound _ ⟨pre, now', ns, name, hp, rfl⟩
      obtain ⟨row', hrow', hid', -⟩ := hstep.kept _ _ hrow
      exact ⟨row', hrow', hid'.trans hid⟩

theorem identitiesHold_run (ids : IdSource) (es : List (Nat × IdentityCall)) :
    IdentitiesHold ids es ((identityTable ids).run es).storage := by
  induction es using List.reverseRecOn with
  | nil =>
    refine ⟨?_, ?_, ?_, ?_⟩
    · intro key row h
      cases h
    · intro key row key' row' h
      cases h
    · rintro c backendId ⟨pre, now, name, hp, -⟩
      simp at hp
    · rintro backendId ⟨pre, now, ns, name, hp, -⟩
      simp at hp
  | append_singleton es e ih =>
    rw [EventMachine.run_snoc]
    have hstep := ih.step rfl e.1 e.2
    rw [← identityTable_drawn ids es] at hstep
    exact hstep

end ZclaudiaGateway
