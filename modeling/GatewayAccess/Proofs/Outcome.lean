import GatewayAccess.Proofs.Compilation
import GatewayAccess.Proofs.Credentials
import GatewayAccess.Proofs.MethodArn
import GatewayAccess.Proofs.Sequence

/-! # How requests are answered

A request fails for one of four reasons, and the first that there is decides: the credentials, the
method ARN, the grant policy, and a policy without grants. `outcome_of_not_accepts`,
`outcome_of_malformed` and `outcome_eq_error_iff_of_invoked` take them in turn, and
`authorize_verdict` says what that means for a caller.
-/

namespace GatewayAccess

/-- The response with the identity in its context. -/
def Response.identified (r : Response) (claims : Claims) : Response :=
  claims.contextEntries.foldl (fun r e => r.insertContext e.1 e.2) r

theorem Response.document_identified (r : Response) (claims : Claims) :
    (r.identified claims).document = r.document := rfl

theorem Policy.outcome_compile (p : Policy) : p.compile.outcome = p.build := by
  rw [compile, Run.outcome_bind]
  show p.build >>= _ = _
  cases p.build with
  | error failure => rfl
  | ok response => rfl

theorem Policy.consulted_compile (p : Policy) : p.compile.consulted = [] := by
  rw [compile]
  refine Run.consulted_bind_of_forall (fun response => ?_) (liftM p.build)
  exact Run.consulted_bind_of_forall (fun _ => rfl) (Run.record _)

namespace Authorizer

variable {a : Authorizer} {event : Event} {claims : Claims} {invoked : MethodArn}
  {failure : Failure} {response : Response}

/-- The parts of a run decide in this order. -/
theorem outcome_authorize (a : Authorizer) (event : Event) :
    (a.authorize event).outcome = do
      let claims ← (extractClaims event.authorization a.verifier).outcome
      let invoked ← MethodArn.ofText event.methodArn
      let p ← a.policy claims (Policy.new claims.principal invoked.target)
      let built ← p.build
      return built.identified claims := by
  rw [authorize, Run.outcome_bind]
  show (extractClaims event.authorization a.verifier >>= _).outcome = _
  rw [Run.outcome_bind]
  congr 1
  funext claims
  rw [Run.outcome_bind]
  show MethodArn.ofText event.methodArn >>= _ = _
  congr 1
  funext invoked
  rw [Run.outcome_bind]
  show a.policy claims (Policy.new claims.principal invoked.target) >>= _ = _
  congr 1
  funext p
  rw [Run.outcome_bind, p.outcome_compile]
  rfl

/-- The verifier is asked for the token of the header, and for nothing else. -/
theorem consulted_authorize (a : Authorizer) (event : Event) :
    (a.authorize event).consulted = (bearerToken? event.authorization).toList := by
  rw [← consulted_extractClaims _ a.verifier]
  refine Run.consulted_bind_of_forall (fun claims => ?_) (extractClaims _ a.verifier)
  refine Run.consulted_bind_of_forall (fun invoked => ?_) (liftM (MethodArn.ofText _))
  refine Run.consulted_bind_of_forall (fun p => ?_) (liftM (a.policy claims _))
  rw [Run.consulted_bind_of_forall (fun _ => rfl), p.consulted_compile]

/-- Rejected credentials decide whatever else is wrong. -/
theorem outcome_of_not_accepts
    (h : ¬ ∃ claims, a.verifier.Accepts event.authorization claims) :
    (a.authorize event).outcome = .error .unauthorized := by
  rw [outcome_authorize, outcome_extractClaims_eq_error_iff.2 ⟨rfl, h⟩]
  rfl

/-- With accepted credentials it is the method ARN that decides. -/
theorem outcome_of_accepts (h : a.verifier.Accepts event.authorization claims) :
    (a.authorize event).outcome = do
      let invoked ← MethodArn.ofText event.methodArn
      let p ← a.policy claims (Policy.new claims.principal invoked.target)
      let built ← p.build
      return built.identified claims := by
  rw [outcome_authorize, outcome_extractClaims_eq_ok_iff.2 h]
  rfl

/-- With a method ARN besides it is the policy that decides. -/
theorem outcome_of_invoked (h : a.verifier.Accepts event.authorization claims)
    (hinvoked : MethodArn.ofText? event.methodArn = some invoked) :
    (a.authorize event).outcome = do
      let p ← a.policy claims (Policy.new claims.principal invoked.target)
      let built ← p.build
      return built.identified claims := by
  rw [outcome_of_accepts h, MethodArn.ofText_eq_ok_iff.2 hinvoked]
  rfl

/-- A text that is no method ARN is reported. -/
theorem outcome_of_malformed (h : a.verifier.Accepts event.authorization claims)
    (hmalformed : MethodArn.ofText? event.methodArn = none) :
    (a.authorize event).outcome = .error (.malformedMethodArn event.methodArn) := by
  rw [outcome_of_accepts h, MethodArn.ofText, hmalformed]
  rfl

/-- A response is what the policy of an accepted request gives, with the identity in its context. -/
theorem outcome_authorize_eq_ok_iff :
    (a.authorize event).outcome = .ok response ↔
      ∃ claims invoked p built,
        a.verifier.Accepts event.authorization claims ∧
        MethodArn.ofText? event.methodArn = some invoked ∧
        a.policy claims (Policy.new claims.principal invoked.target) = .ok p ∧
        p.build = .ok built ∧ response = built.identified claims := by
  simp only [outcome_authorize, bind_eq_ok_iff, outcome_extractClaims_eq_ok_iff,
    MethodArn.ofText_eq_ok_iff]
  constructor
  · rintro ⟨claims, hclaims, invoked, hinvoked, p, hp, built, hbuilt, h⟩
    cases h
    exact ⟨claims, invoked, p, built, hclaims, hinvoked, hp, hbuilt, rfl⟩
  · rintro ⟨claims, invoked, p, built, hclaims, hinvoked, hp, hbuilt, rfl⟩
    exact ⟨claims, hclaims, invoked, hinvoked, p, hp, built, hbuilt, rfl⟩

/-- A policy that is run fails by itself, or grants nothing. -/
theorem outcome_eq_error_iff_of_invoked (h : a.verifier.Accepts event.authorization claims)
    (hinvoked : MethodArn.ofText? event.methodArn = some invoked) :
    (a.authorize event).outcome = .error failure ↔
      a.policy claims (Policy.new claims.principal invoked.target) = .error failure ∨
        ∃ p, a.policy claims (Policy.new claims.principal invoked.target) = .ok p ∧
          p.granted = [] ∧ failure = .noStatements := by
  have hpure : ∀ r : Response, (pure r : Except Failure Response) ≠ .error failure := by
    intro r hr
    cases hr
  rw [outcome_of_invoked h hinvoked, bind_eq_error_iff]
  simp only [bind_eq_error_iff, hpure, and_false, exists_false, or_false,
    Policy.build_eq_error_iff]

/-- A method ARN is reported as malformed for accepted credentials only: if it is, or if the policy
says so by itself. -/
theorem outcome_eq_malformedMethodArn_iff {text : String} :
    (a.authorize event).outcome = .error (.malformedMethodArn text) ↔
      ∃ claims, a.verifier.Accepts event.authorization claims ∧
        (MethodArn.ofText? event.methodArn = none ∧ text = event.methodArn ∨
          ∃ invoked, MethodArn.ofText? event.methodArn = some invoked ∧
            a.policy claims (Policy.new claims.principal invoked.target) =
              .error (.malformedMethodArn text)) := by
  constructor
  · intro h
    by_cases haccepts : ∃ claims, a.verifier.Accepts event.authorization claims
    · obtain ⟨claims, hclaims⟩ := haccepts
      refine ⟨claims, hclaims, ?_⟩
      -- A text that is read leaves the failure to the policy; one without grants fails differently.
      cases hinvoked : MethodArn.ofText? event.methodArn with
      | none =>
          rw [outcome_of_malformed hclaims hinvoked] at h
          cases h
          exact .inl ⟨rfl, rfl⟩
      | some invoked =>
          rcases (outcome_eq_error_iff_of_invoked hclaims hinvoked).1 h with h | ⟨p, -, -, h⟩
          · exact .inr ⟨invoked, rfl, h⟩
          · cases h
    · rw [outcome_of_not_accepts haccepts] at h
      cases h
  · rintro ⟨claims, hclaims, ⟨hmalformed, rfl⟩ | ⟨invoked, hinvoked, h⟩⟩
    · exact outcome_of_malformed hclaims hmalformed
    · exact (outcome_eq_error_iff_of_invoked hclaims hinvoked).2 (.inl h)

/-- The failure for rejected credentials is given for nothing else, unless by the policy. -/
theorem isUnauthorized_iff (hpolicy : ∀ claims p, a.policy claims p ≠ .error .unauthorized) :
    (∃ failure, (a.authorize event).outcome = .error failure ∧ failure.isUnauthorized = true) ↔
      ¬ ∃ claims, a.verifier.Accepts event.authorization claims := by
  constructor
  · rintro ⟨failure, h, hunauthorized⟩ ⟨claims, hclaims⟩
    have hfailure : failure = .unauthorized := by
      cases failure <;> first | rfl | cases hunauthorized
    rw [hfailure] at h
    cases hinvoked : MethodArn.ofText? event.methodArn with
    | none =>
        rw [outcome_of_malformed hclaims hinvoked] at h
        cases h
    | some invoked =>
        rcases (outcome_eq_error_iff_of_invoked hclaims hinvoked).1 h with h | ⟨p, -, -, h⟩
        · exact hpolicy _ _ h
        · cases h
  · intro h
    exact ⟨.unauthorized, outcome_of_not_accepts h, rfl⟩

end Authorizer

/-! ## The verdict -/

/-- What a request gets, and what the verifier is asked for it. -/
structure Verdict (a : Authorizer) (event : Event) : Prop where
  /-- A header without the prefix is rejected, and the verifier is not asked. -/
  noToken : (∀ token, event.authorization ≠ "Bearer " ++ token) →
    (a.authorize event).outcome = .error .unauthorized ∧ (a.authorize event).consulted = []
  /-- The verifier is asked once for all that follows the prefix. -/
  token : ∀ token, event.authorization = "Bearer " ++ token →
    (a.authorize event).consulted = [token]
  /-- A token is rejected if the verifier turns it down, and if its claims have no identity. -/
  rejected : ∀ token, event.authorization = "Bearer " ++ token →
    (∀ raw claims, a.verifier token = .ok raw → Claims.ofRaw raw ≠ .ok claims) →
      (a.authorize event).outcome = .error .unauthorized
  /-- For accepted credentials only, a text that is no method ARN is reported. No other text is,
  unless the policy fails so by itself. -/
  malformed : ∀ text, (a.authorize event).outcome = .error (.malformedMethodArn text) ↔
    ∃ claims, a.verifier.Accepts event.authorization claims ∧
      (MethodArn.ofText? event.methodArn = none ∧ text = event.methodArn ∨
        ∃ invoked, MethodArn.ofText? event.methodArn = some invoked ∧
          a.policy claims (Policy.new claims.principal invoked.target) =
            .error (.malformedMethodArn text))
  /-- The failure of a policy is passed on. -/
  policyFailure : ∀ claims invoked failure, a.verifier.Accepts event.authorization claims →
    MethodArn.ofText? event.methodArn = some invoked →
      a.policy claims (Policy.new claims.principal invoked.target) = .error failure →
        (a.authorize event).outcome = .error failure
  /-- A list of grant steps fails as the first step does that is run and fails. -/
  stepFailure : ∀ steps claims invoked failure, a.policy = GrantPolicy.ofSteps steps →
    a.verifier.Accepts event.authorization claims →
      MethodArn.ofText? event.methodArn = some invoked →
        ((a.authorize event).outcome = .error failure ↔
          (∃ before guard step after q, steps = before ++ (guard, step) :: after ∧
            GrantPolicy.ofSteps before claims (Policy.new claims.principal invoked.target) =
              .ok q ∧
            guard.admits claims = true ∧ step.apply q = .error failure) ∨
          ∃ p, GrantPolicy.ofSteps steps claims (Policy.new claims.principal invoked.target) =
              .ok p ∧
            (p.grants .allow = [] ∧ p.grants .deny = []) ∧ failure = .noStatements)
  /-- A policy that ends without a grant of either effect is reported. -/
  noStatements : ∀ claims invoked p, a.verifier.Accepts event.authorization claims →
    MethodArn.ofText? event.methodArn = some invoked →
      a.policy claims (Policy.new claims.principal invoked.target) = .ok p →
        ((a.authorize event).outcome = .error .noStatements ↔
          p.grants .allow = [] ∧ p.grants .deny = [])
  /-- A policy that ends with a grant has a response. -/
  answered : ∀ claims invoked p, a.verifier.Accepts event.authorization claims →
    MethodArn.ofText? event.methodArn = some invoked →
      a.policy claims (Policy.new claims.principal invoked.target) = .ok p →
        ¬ (p.grants .allow = [] ∧ p.grants .deny = []) →
          ∃ response, (a.authorize event).outcome = .ok response
  /-- Defects are never reported as denials, nor denials as defects. -/
  denial : (∀ claims p, a.policy claims p ≠ .error .unauthorized) →
    ((∃ failure, (a.authorize event).outcome = .error failure ∧ failure.isUnauthorized = true) ↔
      ¬ ∃ claims, a.verifier.Accepts event.authorization claims)

/-- Every request gets its verdict, whatever the verifier and the policy are. -/
theorem authorize_verdict (a : Authorizer) (event : Event) : Verdict a event where
  noToken h := by
    have hnone := bearerToken?_eq_none_iff.2 h
    refine ⟨Authorizer.outcome_of_not_accepts ?_, ?_⟩
    · rintro ⟨claims, token, -, htoken, -⟩
      exact h token htoken
    · rw [Authorizer.consulted_authorize, hnone]
      rfl
  token token h := by
    rw [Authorizer.consulted_authorize, bearerToken?_eq_some_iff.2 h]
    rfl
  rejected token htoken h := by
    refine Authorizer.outcome_of_not_accepts ?_
    rintro ⟨claims, token', raw, htoken', hraw, hclaims⟩
    rw [htoken, String.append_right_inj] at htoken'
    rw [← htoken'] at hraw
    exact h raw claims hraw hclaims
  malformed _ := Authorizer.outcome_eq_malformedMethodArn_iff
  policyFailure claims invoked failure hclaims hinvoked h :=
    (Authorizer.outcome_eq_error_iff_of_invoked hclaims hinvoked).2 (.inl h)
  stepFailure steps claims invoked failure hsteps hclaims hinvoked := by
    rw [Authorizer.outcome_eq_error_iff_of_invoked hclaims hinvoked, hsteps,
      GrantPolicy.ofSteps_eq_error_iff]
    simp only [Policy.granted_eq_nil_iff]
  noStatements claims invoked p hclaims hinvoked hp := by
    rw [Authorizer.outcome_eq_error_iff_of_invoked hclaims hinvoked, hp,
      ← Policy.granted_eq_nil_iff]
    simp only [reduceCtorEq, Except.ok.injEq, exists_eq_left', and_true, false_or]
  answered claims invoked p hclaims hinvoked hp h := by
    rw [← Policy.granted_eq_nil_iff] at h
    obtain ⟨built, hbuilt⟩ := Policy.exists_build h
    exact ⟨built.identified claims, Authorizer.outcome_authorize_eq_ok_iff.2
      ⟨claims, invoked, p, built, hclaims, hinvoked, hp, hbuilt, rfl⟩⟩
  denial := Authorizer.isUnauthorized_iff

/-- With a token that is turned down the method ARN is not looked at; with another it is reported,
though the policy would fail. -/
theorem authorize_verdict_malformed :
    (Authorizer.authorize
        ⟨fun _ => .error "expired",
          GrantPolicy.ofSteps [({}, { effect := .allow, verb := .get, path := "" })]⟩
        ⟨none, "Bearer t", "arn:aws"⟩).outcome = .error .unauthorized ∧
      (Authorizer.authorize
        ⟨fun _ => .ok (SortedMap.ofList
            [("emailAddress", ⟨.string "user@example.com", .string _⟩),
              ("userId", ⟨.bool true, .bool _⟩), ("userType", ⟨.string "staff", .string _⟩)]),
          GrantPolicy.ofSteps [({}, { effect := .allow, verb := .get, path := "" })]⟩
        ⟨none, "Bearer t", "arn:aws"⟩).outcome = .error (.malformedMethodArn "arn:aws") := by
  constructor
  · exact (authorize_verdict _ _).rejected "t" rfl fun _ _ hraw => nomatch hraw
  · have hmalformed : MethodArn.ofText? "arn:aws" = none := by decide
    exact ((authorize_verdict _ _).malformed "arn:aws").2
      ⟨_, ⟨"t", _, rfl, rfl, rfl⟩, .inl ⟨hmalformed, rfl⟩⟩

end GatewayAccess
