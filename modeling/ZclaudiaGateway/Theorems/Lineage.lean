import ZclaudiaGateway.Lemmas.Lineage
import ZclaudiaGateway.Lemmas.Sample

/-!
# Credential lineage

The store of a gateway that was started on legacy credentials, after every sequence of events.
-/

namespace ZclaudiaGateway

open Storage

/-- Every unrevoked access row descends from an unrevoked backend row of the same namespace and backend, which no other access
row descends from; every unrevoked backend or access row that is bound has an identity row in its namespace; a device row is no
backend, and no other row has a scope. -/
theorem credential_lineage (Γ : Ctx) {storage : Storage} (hlegacy : storage.Legacy) (hfresh : storage.FreshFrom Γ 0)
    (es : List Event) :
    let st := ((gateway Γ storage).run es).storage
    (∀ id c, st.getCredential id = some c → c.type = .backendAccess → c.revokedAt = none →
      ∃ parentId parent, c.parentId = some parentId ∧ st.getCredential parentId = some parent ∧ parent.type = .backend ∧
        parent.revokedAt = none ∧ parent.ns = c.ns ∧ parent.backendId = c.backendId) ∧
    (∀ id c id' c' parentId, st.getCredential id = some c → st.getCredential id' = some c' → c.type = .backendAccess →
      c'.type = .backendAccess → c.parentId = some parentId → c'.parentId = some parentId → id = id') ∧
    (∀ id c b, st.getCredential id = some c → c.type = .backend ∨ c.type = .backendAccess → c.revokedAt = none →
      c.backendId = some b → ∃ row ∈ st.backendIdentities.values, row.backendId = b ∧ row.ns = c.ns) ∧
    (∀ id c, st.getCredential id = some c → c.type = .device → c.backendId = none) ∧
    ∀ id c, st.getCredential id = some c → c.type ≠ .device → c.allowedBackends = none := by
  intro st
  have h : st.Lineage := (lineage_run hlegacy hfresh es).2
  refine ⟨h.access, h.oneAccess, ?_, h.device, h.scope⟩
  intro id c b hc htype hrevoked hb
  have hno : c.type ≠ .device := by
    rcases htype with htype | htype <;> rw [htype] <;> simp
  obtain ⟨key, row, hrow, hid, hns⟩ := h.identity id c b hc hno hrevoked hb
  exact ⟨row, InsertionMap.mem_values_iff.mpr ⟨key, hrow⟩, hid, hns⟩

/-- A store with one legacy credential. -/
def sampleLegacyStorage : Storage :=
  { credentials := InsertionMap.empty.set "legacy" (sampleCredential "legacy" "zgb_legacy" .backend none)
    backendIdentities := .empty
    maxEpoch := 0 }

theorem sampleLegacyStorage_legacy : sampleLegacyStorage.Legacy := by
  intro id c hc
  rcases InsertionMap.get_set_eq_some.mp hc with ⟨rfl, rfl⟩ | ⟨-, hc⟩
  · exact ⟨rfl, rfl, rfl, rfl, rfl⟩
  · cases hc

theorem sampleLegacyStorage_fresh : sampleLegacyStorage.FreshFrom (Ctx.sample []) 0 := by
  intro m _
  refine ⟨InsertionMap.get_set_of_ne ?_, rfl⟩
  intro h
  have hfirst := congrArg String.toList h
  simp [Ctx.sample, IdSource.letters, List.replicate_succ] at hfirst

/-- The legacy credential is exchanged, revoked, and a credential is issued and exchanged. -/
def sampleExchanges : List Event :=
  [.backendToken "127.0.0.1" (some "Bearer zgb_legacy"),
    .admin "127.0.0.1" .granted (.revokeCredential "legacy"),
    .admin "127.0.0.1" .granted (.issueCredential (.obj [("type", .str "backend"), ("namespace", .str "n")])),
    .backendToken "127.0.0.1" (some "Bearer zgb_xxx")]

theorem exchanged_token_has_parent :
    ∃ c, ((gateway (Ctx.sample []) sampleLegacyStorage).run sampleExchanges).storage.getCredential "iiii" = some c ∧
      c.type = .backendAccess ∧ ∃ parentId parent, c.parentId = some parentId ∧
        ((gateway (Ctx.sample []) sampleLegacyStorage).run sampleExchanges).storage.getCredential parentId = some parent ∧
        parent.type = .backend ∧ parent.revokedAt = none ∧ parent.ns = c.ns ∧ parent.backendId = c.backendId := by
  have haccess := (credential_lineage (Ctx.sample []) sampleLegacyStorage_legacy sampleLegacyStorage_fresh sampleExchanges).1
  have hrow : (((gateway (Ctx.sample []) sampleLegacyStorage).run sampleExchanges).storage.getCredential "iiii").any
      (fun c => c.type = .backendAccess ∧ c.revokedAt = none) = true := by
    decide +kernel
  rw [Option.any_eq_true_iff_get] at hrow
  obtain ⟨hsome, hrow⟩ := hrow
  obtain ⟨c, hc⟩ := Option.isSome_iff_exists.mp hsome
  simp only [hc, Option.get_some, decide_eq_true_eq] at hrow
  exact ⟨c, hc, hrow.1, haccess "iiii" c hc hrow.1 hrow.2⟩

end ZclaudiaGateway
