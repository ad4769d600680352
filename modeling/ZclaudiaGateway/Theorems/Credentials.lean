import ZclaudiaGateway.Lemmas.Credentials
import ZclaudiaGateway.Lemmas.Sample

/-!
# The life of a token

Which tokens the credential table accepts, over every sequence of calls on it.
-/

namespace ZclaudiaGateway

open Storage CredentialTable

/-- A token is accepted exactly as the credential of the row it was last written to, while that row and its parent are there,
unrevoked and unexpired. Revoking cascades, a spent secret stays refused whatever comes after, and purging changes nothing. -/
theorem token_life_cycle (Γ : Ctx) (hash_injective : Function.Injective Γ.hashCredentialToken)
    (es : List (Nat × CredentialCall)) :
    let t := (credentialTable Γ).run es
    (∀ now token c, (t.storage.findValidCredential Γ.hashCredentialToken now token).1 = some c ↔
      ∃ id, t.lastSecret id = some token ∧ t.storage.getCredential id = some c ∧ c.Valid now ∧
        ∀ parentId, c.parentId = some parentId →
          ∃ parent, t.storage.getCredential parentId = some parent ∧ parent.Valid now) ∧
    (∀ now id c, t.storage.getCredential id = some c → c.revokedAt = none →
      ∀ id' c', (t.storage.revokeCredential now id).2.getCredential id' = some c' → id' = id ∨ c'.parentId = some id →
        c'.revokedAt.isSome = true) ∧
    (∀ token, t.Spent token → ∀ es' now, ((credentialTable Γ).run (es ++ es')).now ≤ now →
      (((credentialTable Γ).run (es ++ es')).storage.findValidCredential Γ.hashCredentialToken now token).1 = none) ∧
    ∀ ids now token,
      ((t.storage.purgeRevokedCredentials ids).2.findValidCredential Γ.hashCredentialToken now token).1 =
        (t.storage.findValidCredential Γ.hashCredentialToken now token).1 := by
  intro t
  have hold : t.Holds Γ := holds_run Γ es
  refine ⟨?_, ?_, ?_, ?_⟩
  · intro now token c
    have hiff := hold.findValidCredential_eq_some_iff hash_injective now token c
    simp only [authenticates_eq_true_iff] at hiff
    exact hiff
  · intro now id c hc hrevoked id' c' hc' hrow
    exact revokeCredential_cascades hc hrevoked hc' hrow
  · intro token hspent es' now hnow
    have hlater : ((credentialTable Γ).run (es ++ es')).Spent token := Spent.run es es' hspent
    exact hlater.refused (holds_run Γ (es ++ es')) hash_injective hnow
  · intro ids now token
    exact hold.findValidCredential_purge hash_injective ids now token

/-- An enrollment that is exchanged twice. -/
def sampleRotation : List (Nat × CredentialCall) :=
  [(0, .create { type := .backend, ns := "n" }),
    (0, .exchange (sampleCredential "i" "zgb_x" .backend (some "b")) none),
    (0, .exchange (sampleCredential "i" "zgb_x" .backend (some "b")) none)]

/-- The first access token is refused, also after a purge. -/
theorem rotated_token_refused :
    (((credentialTable (Ctx.sample [])).run (sampleRotation ++ [(1, .purge none)])).storage.findValidCredential id 1
      "zga_xx").1 = none := by
  have hspent : ((credentialTable (Ctx.sample [])).run sampleRotation).Spent "zga_xx" := by
    refine ⟨"ii", by decide +kernel, ?_⟩
    intro c _ hlast
    exact absurd hlast (by decide +kernel)
  exact (token_life_cycle (Ctx.sample []) Function.injective_id sampleRotation).2.2.1 "zga_xx" hspent [(1, .purge none)] 1
    (by decide +kernel)

end ZclaudiaGateway
