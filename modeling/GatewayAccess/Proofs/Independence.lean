import GatewayAccess.Proofs.Outcome

/-! # What an answer does not depend on

Behind the log entry for the request, a run uses the method ARN for its target only:
`authorize_eq_of_invoked`. So the invoked method has no influence on the answer
(`authorize_of_target_eq`). Of a token it uses the verifier's answer only: `extractClaims_append`.
So neither the answer nor the log tells tokens apart that the verifier does not tell apart
(`authorize_alike`).
-/

namespace GatewayAccess

/-! ## Tokens -/

/-- The identity in the answer of a verifier. -/
def identify : Except String RawClaims → Run Claims
  | .error reason => reject (.notVerified reason)
  | .ok raw =>
      match Claims.ofRaw raw with
      | .error fault => reject (.noIdentity fault.message)
      | .ok claims => return claims

/-- The token of a header goes to the verifier, and nowhere else. -/
theorem extractClaims_append (token : String) (verifier : Verifier) :
    extractClaims ("Bearer " ++ token) verifier = Run.consult verifier token >>= identify := by
  rw [extractClaims, bearerToken?_eq_some_iff.2 rfl]
  rfl

/-- Tokens that get the same answer from the verifier are treated alike. -/
theorem alike_extractClaims_append {verifier : Verifier} {token token' : String}
    (h : verifier token = verifier token') :
    (extractClaims ("Bearer " ++ token) verifier).Alike
      (extractClaims ("Bearer " ++ token') verifier) := by
  have hconsult : (Run.consult verifier token).Alike (Run.consult verifier token') :=
    ⟨congrArg Except.ok h, rfl⟩
  rw [extractClaims_append, extractClaims_append]
  exact hconsult.bind identify

/-- Headers without a token are treated alike. -/
theorem alike_extractClaims_of_none {verifier : Verifier} {authorization authorization' : String}
    (h : bearerToken? authorization = none) (h' : bearerToken? authorization' = none) :
    (extractClaims authorization verifier).Alike (extractClaims authorization' verifier) := by
  rw [extractClaims, extractClaims, h, h']
  exact ⟨rfl, rfl⟩

namespace Authorizer

/-- What is done for an identity on a target: the policy is run, and the response gets the identity
as its context. -/
def answer (a : Authorizer) (claims : Claims) (t : Target) : Run Response := do
  let p ← a.policy claims (Policy.new claims.principal t)
  let built ← p.compile
  let response := built.identified claims
  Run.record (.authorized response.principal)
  return response

/-- The header is looked at by the extraction of claims only. -/
theorem authorize_eq (a : Authorizer) (event : Event) :
    a.authorize event =
      Run.record (.authorizing event.methodArn) >>= fun _ =>
        extractClaims event.authorization a.verifier >>= fun claims =>
          liftM (MethodArn.ofText event.methodArn) >>= fun invoked =>
            a.answer claims invoked.target := rfl

/-- Behind the log entry for a request, the target is all that is used of its method ARN. -/
theorem authorize_eq_of_invoked (a : Authorizer) (event : Event) {invoked : MethodArn}
    (h : MethodArn.ofText event.methodArn = .ok invoked) :
    a.authorize event =
      Run.record (.authorizing event.methodArn) >>= fun _ =>
        extractClaims event.authorization a.verifier >>= fun claims =>
          a.answer claims invoked.target := by
  rw [authorize_eq]
  simp only [Run.lift_bind_of_ok h]

/-- Requests for the same method ARN are answered alike by the same policy if their headers are
treated alike, each by a verifier of its own. -/
theorem alike_authorize_of_verifiers {verifier verifier' : Verifier} {policy : GrantPolicy}
    {event event' : Event} (harn : event.methodArn = event'.methodArn)
    (h : (extractClaims event.authorization verifier).Alike
      (extractClaims event'.authorization verifier')) :
    (Authorizer.authorize ⟨verifier, policy⟩ event).Alike
      (Authorizer.authorize ⟨verifier', policy⟩ event') := by
  rw [authorize_eq, authorize_eq, harn]
  obtain ⟨houtcome, hlog⟩ := h.bind fun claims =>
    liftM (MethodArn.ofText event'.methodArn) >>= fun invoked =>
      answer ⟨verifier, policy⟩ claims invoked.target
  exact ⟨houtcome, congrArg (LogEvent.authorizing event'.methodArn :: ·) hlog⟩

/-- Requests for the same method ARN are answered alike if their headers are treated alike. -/
theorem alike_authorize {a : Authorizer} {event event' : Event}
    (harn : event.methodArn = event'.methodArn)
    (h : (extractClaims event.authorization a.verifier).Alike
      (extractClaims event'.authorization a.verifier)) :
    (a.authorize event).Alike (a.authorize event') :=
  alike_authorize_of_verifiers harn h

end Authorizer

/-! ## The invoked method -/

/-- Requests with the same header for methods of the same target get the same answer: responses that
are equal and have the same text, or the same failure. The runs differ only in the method ARN that
is logged first. -/
theorem authorize_of_target_eq (a : Authorizer) (kind kind' : Option String)
    (authorization : String) {arn arn' : String} {invoked invoked' : MethodArn}
    (h : MethodArn.ofText arn = .ok invoked) (h' : MethodArn.ofText arn' = .ok invoked')
    (htarget : invoked.target = invoked'.target) :
    ((∃ response response', (a.authorize ⟨kind, authorization, arn⟩).outcome = .ok response ∧
        (a.authorize ⟨kind', authorization, arn'⟩).outcome = .ok response' ∧
        response = response' ∧ response.jsonText = response'.jsonText) ∨
      ∃ failure, (a.authorize ⟨kind, authorization, arn⟩).outcome = .error failure ∧
        (a.authorize ⟨kind', authorization, arn'⟩).outcome = .error failure) ∧
      (a.authorize ⟨kind, authorization, arn⟩).consulted =
        (a.authorize ⟨kind', authorization, arn'⟩).consulted ∧
      ∃ log, (a.authorize ⟨kind, authorization, arn⟩).log = .authorizing arn :: log ∧
        (a.authorize ⟨kind', authorization, arn'⟩).log = .authorizing arn' :: log := by
  rw [a.authorize_eq_of_invoked ⟨kind, authorization, arn⟩ h,
    a.authorize_eq_of_invoked ⟨kind', authorization, arn'⟩ h', htarget]
  -- Behind the first entry both runs are now this one.
  generalize hrun : (extractClaims authorization a.verifier >>= fun claims =>
    a.answer claims invoked'.target) = run
  refine ⟨?_, rfl, run.log, rfl, rfl⟩
  cases houtcome : run.outcome with
  | error failure => exact .inr ⟨failure, houtcome, houtcome⟩
  | ok response => exact .inl ⟨response, response, houtcome, houtcome, rfl, rfl⟩

/-- An ARN that ends at the stage gets the answer of one with a verb that is none and a path that
no grant could have. -/
theorem authorize_of_target_eq_unknown :
    ∃ response,
      (Authorizer.authorize
          ⟨fun _ => .ok (Claims.raw ⟨"user@example.com", .text "staff", .bool true⟩),
            GrantPolicy.allowAll⟩
          ⟨none, "Bearer t", "arn:aws:execute-api:eu-west-1:1:api/prod"⟩).outcome = .ok response ∧
      (Authorizer.authorize
          ⟨fun _ => .ok (Claims.raw ⟨"user@example.com", .text "staff", .bool true⟩),
            GrantPolicy.allowAll⟩
          ⟨some "TOKEN", "Bearer t",
            "arn:aws:execute-api:eu-west-1:1:api/prod/FETCH//a b?c"⟩).outcome = .ok response := by
  have hstage : MethodArn.ofText? "arn:aws:execute-api:eu-west-1:1:api/prod" =
      some ⟨⟨"eu-west-1", "1", "api", "prod", "aws"⟩, "", ""⟩ := by decide
  have hmethod : MethodArn.ofText? "arn:aws:execute-api:eu-west-1:1:api/prod/FETCH//a b?c" =
      some ⟨⟨"eu-west-1", "1", "api", "prod", "aws"⟩, "FETCH", "/a b?c"⟩ := by decide
  obtain ⟨⟨response, response', h, h', rfl, -⟩ | ⟨failure, h, -⟩, -⟩ :=
    authorize_of_target_eq
      ⟨fun _ => .ok (Claims.raw ⟨"user@example.com", .text "staff", .bool true⟩),
        GrantPolicy.allowAll⟩
      none (some "TOKEN") "Bearer t" (MethodArn.ofText_eq_ok_iff.2 hstage)
      (MethodArn.ofText_eq_ok_iff.2 hmethod) rfl
  · exact ⟨response, h, h'⟩
  · cases h

/-! ## The token -/

/-- For the same method ARN, tokens on which the verifier agrees get the same outcome and the same
log, event by event with every field. So do headers without a token. -/
theorem authorize_alike (a : Authorizer) (kind kind' : Option String) (arn : String) :
    (∀ token token', a.verifier token = a.verifier token' →
      (a.authorize ⟨kind, "Bearer " ++ token, arn⟩).Alike
        (a.authorize ⟨kind', "Bearer " ++ token', arn⟩)) ∧
    ∀ authorization authorization', (∀ token, authorization ≠ "Bearer " ++ token) →
      (∀ token, authorization' ≠ "Bearer " ++ token) →
        (a.authorize ⟨kind, authorization, arn⟩).Alike
          (a.authorize ⟨kind', authorization', arn⟩) := by
  constructor
  · intro token token' h
    exact Authorizer.alike_authorize rfl (alike_extractClaims_append h)
  · intro authorization authorization' h h'
    exact Authorizer.alike_authorize rfl (alike_extractClaims_of_none
      (bearerToken?_eq_none_iff.2 h) (bearerToken?_eq_none_iff.2 h'))

/-- Two tokens that are valid look the same, and so do a header in another casing and an empty
one. -/
theorem authorize_alike_valid :
    (Authorizer.authorize
        ⟨fun token => if token = "expired" then .error "expired"
            else .ok (Claims.raw ⟨"user@example.com", .text "staff", .bool true⟩),
          GrantPolicy.denyAll⟩
        ⟨none, "Bearer secret", "arn:aws:execute-api:eu-west-1:1:api/prod"⟩).Alike
      (Authorizer.authorize
        ⟨fun token => if token = "expired" then .error "expired"
            else .ok (Claims.raw ⟨"user@example.com", .text "staff", .bool true⟩),
          GrantPolicy.denyAll⟩
        ⟨none, "Bearer ", "arn:aws:execute-api:eu-west-1:1:api/prod"⟩) ∧
    (Authorizer.authorize ⟨fun _ => .error "expired", GrantPolicy.denyAll⟩
        ⟨none, "bearer secret", "arn:aws:execute-api:eu-west-1:1:api/prod"⟩).Alike
      (Authorizer.authorize ⟨fun _ => .error "expired", GrantPolicy.denyAll⟩
        ⟨none, "", "arn:aws:execute-api:eu-west-1:1:api/prod"⟩) := by
  constructor
  · exact (authorize_alike _ none none _).1 "secret" "" rfl
  · refine (authorize_alike _ none none _).2 _ _ ?_ ?_
    · exact bearerToken?_eq_none_iff.1 (by decide)
    · exact bearerToken?_eq_none_iff.1 (by decide)

end GatewayAccess
