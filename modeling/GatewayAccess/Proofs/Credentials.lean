import GatewayAccess.Authorizer
import GatewayAccess.Proofs.Run

/-! # Accepted credentials

An authorization header is accepted if it is the prefix and a token for which the verifier returns
claims with an identity. `outcome_extractClaims_eq_ok_iff` and `outcome_extractClaims_eq_error_iff`
say that the identity is extracted just then, and that there is one failure otherwise;
`consulted_extractClaims` says which token the verifier is asked for.
-/

namespace GatewayAccess

/-- The header is accepted, and proves an identity. -/
def Verifier.Accepts (verifier : Verifier) (authorization : String) (claims : Claims) : Prop :=
  ∃ token raw, authorization = "Bearer " ++ token ∧ verifier token = .ok raw ∧
    Claims.ofRaw raw = .ok claims

/-- The claims that carry an identity and nothing else. -/
def Claims.raw (c : Claims) : RawClaims :=
  .ofList (c.contextEntries.map fun e => (e.1, e.2.toJson))

variable {verifier : Verifier} {authorization token : String} {claims : Claims}

/-- The token of a header is all that follows the prefix. -/
theorem bearerToken?_eq_some_iff :
    bearerToken? authorization = some token ↔ authorization = "Bearer " ++ token := by
  have hbearer : "Bearer " = bearerPrefix := rfl
  have hlength : bearerPrefix.length = bearerPrefix.toList.length := rfl
  rw [hbearer, bearerToken?, ← String.toList_inj, String.toList_append, hlength]
  constructor
  · intro h
    split at h
    · rename_i hprefix
      obtain ⟨rest, hrest⟩ := List.isPrefixOf_iff_prefix.1 hprefix
      rw [← hrest, List.drop_left, Option.some.injEq] at h
      rw [← h, String.toList_ofList, hrest]
    · cases h
  · intro h
    have hprefix : bearerPrefix.toList.isPrefixOf authorization.toList = true :=
      List.isPrefixOf_iff_prefix.2 ⟨token.toList, h.symm⟩
    rw [if_pos hprefix, h, List.drop_left, String.ofList_toList]

/-- A header without a token does not begin with the prefix. -/
theorem bearerToken?_eq_none_iff :
    bearerToken? authorization = none ↔ ∀ token, authorization ≠ "Bearer " ++ token := by
  rw [Option.eq_none_iff_forall_ne_some]
  simp only [ne_eq, bearerToken?_eq_some_iff]

/-- The verifier is asked for the token of the header, if there is one. -/
theorem consulted_extractClaims (authorization : String) (verifier : Verifier) :
    (extractClaims authorization verifier).consulted = (bearerToken? authorization).toList := by
  rw [extractClaims]
  cases bearerToken? authorization with
  | none => rfl
  | some token =>
      refine Run.consulted_bind_of_forall (fun answer => ?_) _
      cases answer with
      | error reason => rfl
      | ok raw =>
          dsimp only
          cases Claims.ofRaw raw with
          | error fault => rfl
          | ok claims => rfl

/-- What a header with a token gives, by the answer of the verifier. -/
theorem outcome_extractClaims_append (token : String) (verifier : Verifier) :
    (extractClaims ("Bearer " ++ token) verifier).outcome =
      match verifier token with
      | .error _ => .error .unauthorized
      | .ok raw =>
          match Claims.ofRaw raw with
          | .error _ => .error .unauthorized
          | .ok claims => .ok claims := by
  rw [extractClaims, bearerToken?_eq_some_iff.2 rfl]
  dsimp only
  rw [Run.outcome_bind, Run.consult]
  show Run.outcome (match verifier token with | .error _ => _ | .ok _ => _) = _
  cases verifier token with
  | error reason => rfl
  | ok raw =>
      dsimp only
      cases Claims.ofRaw raw with
      | error fault => rfl
      | ok claims => rfl

/-- The identity extracted is the one that the header proves. -/
theorem outcome_extractClaims_eq_ok_iff :
    (extractClaims authorization verifier).outcome = .ok claims ↔
      verifier.Accepts authorization claims := by
  cases htoken : bearerToken? authorization with
  | none =>
      have hnone := bearerToken?_eq_none_iff.1 htoken
      rw [extractClaims, htoken]
      constructor
      · intro h
        cases h
      · rintro ⟨token, -, h, -⟩
        exact absurd h (hnone token)
  | some token =>
      obtain rfl := bearerToken?_eq_some_iff.1 htoken
      rw [outcome_extractClaims_append]
      constructor
      · intro h
        split at h
        · cases h
        · rename_i raw hraw
          split at h
          · cases h
          · rename_i claims' hclaims
            cases h
            exact ⟨token, raw, rfl, hraw, hclaims⟩
      · rintro ⟨token', raw, h, hraw, hclaims⟩
        rw [String.append_right_inj] at h
        rw [h, hraw]
        dsimp only
        rw [hclaims]

/-- Whatever is wrong with a header, the failure is the same. -/
theorem eq_unauthorized_of_outcome_extractClaims {failure : Failure}
    (h : (extractClaims authorization verifier).outcome = .error failure) :
    failure = .unauthorized := by
  cases htoken : bearerToken? authorization with
  | none =>
      rw [extractClaims, htoken] at h
      cases h
      rfl
  | some token =>
      obtain rfl := bearerToken?_eq_some_iff.1 htoken
      rw [outcome_extractClaims_append] at h
      split at h
      · cases h
        rfl
      · split at h
        · cases h
          rfl
        · cases h

/-- Credentials are rejected just if they prove no identity. -/
theorem outcome_extractClaims_eq_error_iff {failure : Failure} :
    (extractClaims authorization verifier).outcome = .error failure ↔
      failure = .unauthorized ∧ ¬ ∃ claims, verifier.Accepts authorization claims := by
  simp only [← outcome_extractClaims_eq_ok_iff]
  constructor
  · intro h
    refine ⟨eq_unauthorized_of_outcome_extractClaims h, ?_⟩
    rintro ⟨claims, hclaims⟩
    rw [h] at hclaims
    cases hclaims
  · rintro ⟨rfl, hnone⟩
    cases h : (extractClaims authorization verifier).outcome with
    | error failure => rw [eq_unauthorized_of_outcome_extractClaims h]
    | ok claims => exact absurd ⟨claims, h⟩ hnone

end GatewayAccess
