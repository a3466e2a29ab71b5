import GatewayAccess.Proofs.Independence
import GatewayAccess.Proofs.Ledger
import GatewayAccess.Proofs.Scalar

/-! # Whom a response is for

An identity is read from three claims by name: `Claims.ofRaw_eq_ok_iff` says what their values are,
and `Claims.ofRaw_congr` that no other claim has an influence. A response carries the identity
twice, as its principal and in its context, from which it can be read again:
`Claims.ofRaw_context`. `verified_identity` follows the three claims from the verifier into the
response.
-/

namespace GatewayAccess

/-! ## Claims by name -/

namespace Claims

variable {α : Type} {raw raw' : RawClaims} {c : Claims} {name : String}

theorem textOf_eq_ok_iff {v : Json} {s : String} : textOf v = .ok s ↔ v = .ofText s := by
  rw [textOf, ← Json.string?_eq_some_iff]
  cases v.string? with
  | none => simp only [reduceCtorEq]
  | some t => simp only [Except.ok.injEq, Option.some.injEq]

theorem scalarOf_eq_ok_iff {v : Json} {s : Scalar} : scalarOf v = .ok s ↔ v = s.toJson := by
  rw [scalarOf, ← Scalar.ofJson?_eq_some_iff]
  cases Scalar.ofJson? v with
  | none => simp only [reduceCtorEq]
  | some t => simp only [Except.ok.injEq, Option.some.injEq]

/-- A claim has a value just if it is there and the value is what it is read as. -/
theorem optional_eq_ok_some_iff {value : Json → Except ClaimFault α} {x : α} {v : Json}
    (h : ∀ w, value w = .ok x ↔ w = v) :
    optional value raw name = .ok (some x) ↔ raw.get? name = some v := by
  rw [optional]
  cases raw.get? name with
  | none => simp only [Except.ok.injEq, reduceCtorEq]
  | some w =>
      rw [Option.some.injEq, ← h]
      dsimp only
      cases value w with
      | error fault => simp only [Except.map, reduceCtorEq]
      | ok y => simp only [Except.map, Except.ok.injEq, Option.some.injEq]

/-- Only a claim that is there can be required. -/
theorem required_eq_ok_iff {o : Option α} {x : α} : required name o = .ok x ↔ o = some x := by
  cases o with
  | none => simp only [required, reduceCtorEq]
  | some y => simp only [required, Except.ok.injEq, Option.some.injEq]

/-- An identity is read just if its values are those of the three claims. -/
theorem ofRaw_eq_ok_iff :
    ofRaw raw = .ok c ↔
      raw.get? emailKey = some (.ofText c.email) ∧ raw.get? userTypeKey = some c.userType.toJson ∧
        raw.get? userIdKey = some c.userId.toJson := by
  rw [← optional_eq_ok_some_iff fun _ => textOf_eq_ok_iff,
    ← optional_eq_ok_some_iff fun _ => scalarOf_eq_ok_iff,
    ← optional_eq_ok_some_iff fun _ => scalarOf_eq_ok_iff]
  obtain ⟨email, userType, userId⟩ := c
  simp only [ofRaw, bind_eq_ok_iff, required_eq_ok_iff, pure, Except.pure, Except.ok.injEq,
    Claims.mk.injEq]
  constructor
  · rintro ⟨_, hemail, _, huserId, _, huserType, _, rfl, _, rfl, _, rfl, rfl, rfl, rfl⟩
    exact ⟨hemail, huserType, huserId⟩
  · rintro ⟨hemail, huserType, huserId⟩
    exact ⟨_, hemail, _, huserId, _, huserType, _, rfl, _, rfl, _, rfl, rfl, rfl, rfl⟩

/-- There is an identity just if the email address is a text and the other claims are scalars. -/
theorem exists_ofRaw_eq_ok_iff :
    (∃ c, ofRaw raw = .ok c) ↔
      (∃ v, raw.get? emailKey = some v ∧ v.IsText) ∧
        (∃ v, raw.get? userTypeKey = some v ∧ v.IsScalar) ∧
        ∃ v, raw.get? userIdKey = some v ∧ v.IsScalar := by
  simp only [ofRaw_eq_ok_iff, ← Json.exists_eq_ofText_iff, ← Scalar.exists_eq_toJson_iff]
  constructor
  · rintro ⟨c, hemail, huserType, huserId⟩
    exact ⟨⟨_, hemail, _, rfl⟩, ⟨_, huserType, _, rfl⟩, _, huserId, _, rfl⟩
  · rintro ⟨⟨_, hemail, email, rfl⟩, ⟨_, huserType, userType, rfl⟩, _, huserId, userId, rfl⟩
    exact ⟨⟨email, userType, userId⟩, hemail, huserType, huserId⟩

/-- Claims of other names have no influence, on the fault neither. -/
theorem ofRaw_congr
    (h : ∀ name ∈ [emailKey, userTypeKey, userIdKey], raw.get? name = raw'.get? name) :
    ofRaw raw = ofRaw raw' := by
  simp only [List.forall_mem_cons, List.not_mem_nil, false_implies, implies_true, and_true] at h
  obtain ⟨hemail, huserType, huserId⟩ := h
  simp only [ofRaw, optional, hemail, huserType, huserId]

end Claims

/-! ## Verified claims -/

section

variable {verifier verifier' : Verifier} {token token' : String} {raw raw' : RawClaims} {c : Claims}

/-- Of a verified token the identity is extracted that its claims have. -/
theorem outcome_extractClaims_of_verified (h : verifier token = .ok raw) :
    (extractClaims ("Bearer " ++ token) verifier).outcome = .ok c ↔
      Claims.ofRaw raw = .ok c := by
  rw [outcome_extractClaims_append, h]
  dsimp only
  cases Claims.ofRaw raw with
  | error fault => simp only [reduceCtorEq]
  | ok c' => simp only [Except.ok.injEq]

/-- Tokens whose claims are read alike are treated alike. -/
theorem alike_extractClaims_of_verified (h : verifier token = .ok raw)
    (h' : verifier' token' = .ok raw') (hraw : Claims.ofRaw raw = Claims.ofRaw raw') :
    (extractClaims ("Bearer " ++ token) verifier).Alike
      (extractClaims ("Bearer " ++ token') verifier') := by
  have hidentify : identify (verifier token) = identify (verifier' token') := by
    rw [h, h', identify, identify, hraw]
  have houtcome : (identify (verifier token)).outcome = (identify (verifier' token')).outcome := by
    rw [hidentify]
  have hlog : (identify (verifier token)).log = (identify (verifier' token')).log := by
    rw [hidentify]
  rw [extractClaims_append, extractClaims_append]
  exact ⟨houtcome, hlog⟩

end

/-! ## The identity in a response -/

/-- The entries that the context of a response has for an identity, in the order of the keys. -/
theorem Response.context_identified {r : Response} (h : r.context = ∅) (c : Claims) :
    (r.identified c).context.entries =
      [(Claims.emailKey, .text c.email), (Claims.userIdKey, c.userId),
        (Claims.userTypeKey, c.userType)] := by
  obtain ⟨principal, document, context⟩ := r
  simp only at h
  subst h
  rfl

theorem Response.principal_identified (r : Response) (c : Claims) :
    (r.identified c).principal = r.principal := rfl

/-- A context with an identity is read as claims with that identity. -/
theorem Claims.ofRaw_context {context : Context} {c : Claims}
    (h : context.entries =
      [(emailKey, .text c.email), (userIdKey, c.userId), (userTypeKey, c.userType)]) :
    ofRaw (context.map Scalar.toJson) = .ok c := by
  rw [ofRaw_eq_ok_iff, SortedMap.get?_map, SortedMap.get?_map, SortedMap.get?_map]
  simp only [SortedMap.get?, h]
  exact ⟨rfl, rfl, rfl⟩

/-- A grant step leaves a policy to its principal. -/
theorem GrantStep.principal_of_apply {step : GrantStep} {p q : Policy} (h : step.apply p = .ok q) :
    q.principal = p.principal := by
  obtain ⟨g, -, rfl⟩ := apply_eq_ok_iff.1 h
  rfl

/-- The response of grant steps is for the identity that the request proves, and says so in its
context. -/
theorem Authorizer.identity_of_ofSteps {verifier : Verifier} {steps : List (Guard × GrantStep)}
    {event : Event} {response : Response}
    (h : (Authorizer.authorize ⟨verifier, .ofSteps steps⟩ event).outcome = .ok response) :
    ∃ c, (extractClaims event.authorization verifier).outcome = .ok c ∧
      response.principal = c.email ∧
      response.context.entries =
        [(Claims.emailKey, .text c.email), (Claims.userIdKey, c.userId),
          (Claims.userTypeKey, c.userType)] := by
  obtain ⟨c, invoked, p, built, hclaims, -, hp, hbuilt, rfl⟩ := outcome_authorize_eq_ok_iff.1 h
  obtain ⟨-, hbuiltPrincipal, -, hcontext⟩ := Policy.build_eq_ok_iff.1 hbuilt
  have hpreserves : (GrantPolicy.ofSteps steps).Preserves (·.principal = c.principal) :=
    GrantPolicy.preserves_ofSteps
      (fun _ _ _ hprincipal hq => (GrantStep.principal_of_apply hq).trans hprincipal) steps
  have hprincipal : p.principal = c.principal := hpreserves c _ p rfl hp
  refine ⟨c, outcome_extractClaims_eq_ok_iff.2 hclaims, ?_, Response.context_identified hcontext c⟩
  rw [Response.principal_identified, hbuiltPrincipal, hprincipal]
  rfl

/-! ## From the verifier to the response -/

/-- What becomes of the claims that a verifier returns for a token. -/
structure Identified (verifier : Verifier) (token : String) (raw : RawClaims) : Prop where
  /-- There is an identity just if the email address is a text and the other two claims are
  scalars. -/
  extracted : (∃ c, (extractClaims ("Bearer " ++ token) verifier).outcome = .ok c) ↔
    (∃ v, raw.get? "emailAddress" = some v ∧ v.IsText) ∧
      (∃ v, raw.get? "userType" = some v ∧ v.IsScalar) ∧
      ∃ v, raw.get? "userId" = some v ∧ v.IsScalar
  /-- Without an identity the credentials are rejected. -/
  rejected : (¬ ∃ c, (extractClaims ("Bearer " ++ token) verifier).outcome = .ok c) →
    (extractClaims ("Bearer " ++ token) verifier).outcome = .error .unauthorized
  /-- The identity is made of exactly these values, and the email address is its principal. -/
  values : ∀ c, (extractClaims ("Bearer " ++ token) verifier).outcome = .ok c →
    raw.get? "emailAddress" = some (.ofText c.email) ∧
      raw.get? "userType" = some c.userType.toJson ∧ raw.get? "userId" = some c.userId.toJson ∧
      c.principal = c.email
  /-- Claims that agree on these three give the same, whatever else they hold. -/
  others : ∀ verifier' token' raw', verifier' token' = .ok raw' →
    (∀ name ∈ ["emailAddress", "userType", "userId"], raw.get? name = raw'.get? name) →
      (extractClaims ("Bearer " ++ token) verifier).Alike
          (extractClaims ("Bearer " ++ token') verifier') ∧
        ∀ policy kind kind' arn,
          (Authorizer.authorize ⟨verifier, policy⟩ ⟨kind, "Bearer " ++ token, arn⟩).Alike
            (Authorizer.authorize ⟨verifier', policy⟩ ⟨kind', "Bearer " ++ token', arn⟩)
  /-- A response of grant steps is for the identity, which can be read from its context. -/
  response : ∀ steps kind arn response,
    (Authorizer.authorize ⟨verifier, .ofSteps steps⟩ ⟨kind, "Bearer " ++ token, arn⟩).outcome =
        .ok response →
      ∃ c, (extractClaims ("Bearer " ++ token) verifier).outcome = .ok c ∧
        response.principal = c.email ∧
        response.context.entries =
          [("emailAddress", .text c.email), ("userId", c.userId), ("userType", c.userType)] ∧
        Claims.ofRaw (response.context.map Scalar.toJson) = .ok c

/-- Whatever claims a verifier returns for a token, the identity that counts is in three of them. -/
theorem verified_identity {verifier : Verifier} {token : String} {raw : RawClaims}
    (h : verifier token = .ok raw) : Identified verifier token raw where
  extracted := by
    simp only [outcome_extractClaims_of_verified h]
    exact Claims.exists_ofRaw_eq_ok_iff
  rejected hnone := by
    simp only [outcome_extractClaims_eq_ok_iff] at hnone
    exact outcome_extractClaims_eq_error_iff.2 ⟨rfl, hnone⟩
  values c hc := by
    rw [outcome_extractClaims_of_verified h, Claims.ofRaw_eq_ok_iff] at hc
    obtain ⟨hemail, huserType, huserId⟩ := hc
    exact ⟨hemail, huserType, huserId, rfl⟩
  others verifier' token' raw' h' hraw := by
    have halike := alike_extractClaims_of_verified h h' (Claims.ofRaw_congr hraw)
    exact ⟨halike, fun policy kind kind' arn =>
      Authorizer.alike_authorize_of_verifiers rfl halike⟩
  response steps kind arn response hresponse := by
    obtain ⟨c, hc, hprincipal, hcontext⟩ := Authorizer.identity_of_ofSteps hresponse
    exact ⟨c, hc, hprincipal, hcontext, Claims.ofRaw_context hcontext⟩

/-- An expiry makes no difference, and a user type that is no text goes into the context and comes
back. -/
theorem verified_identity_expiry :
    (extractClaims "Bearer t" fun _ => .ok (SortedMap.ofList
          [("emailAddress", .ofText "user@example.com"), ("exp", .ofList []),
            ("userId", .ofText "u-42"), ("userType", (Scalar.bool true).toJson)])).Alike
        (extractClaims "Bearer u" fun _ => .ok (SortedMap.ofList
          [("emailAddress", .ofText "user@example.com"), ("userId", .ofText "u-42"),
            ("userType", (Scalar.bool true).toJson)])) ∧
      ∃ response,
        (Authorizer.authorize
            ⟨fun _ => .ok (SortedMap.ofList
                [("emailAddress", .ofText "user@example.com"), ("exp", .ofList []),
                  ("userId", .ofText "u-42"), ("userType", (Scalar.bool true).toJson)]),
              .ofSteps [({ exceptFor := some "staff" }, .everything .allow)]⟩
            ⟨none, "Bearer t", "arn:aws:execute-api:eu-west-1:1:api/prod"⟩).outcome =
          .ok response ∧
        response.principal = "user@example.com" ∧
        Claims.ofRaw (response.context.map Scalar.toJson) =
          .ok ⟨"user@example.com", .bool true, .text "u-42"⟩ := by
  have hidentified : Identified
      (fun _ => .ok (SortedMap.ofList
        [("emailAddress", .ofText "user@example.com"), ("exp", .ofList []),
          ("userId", .ofText "u-42"), ("userType", (Scalar.bool true).toJson)])) "t" _ :=
    verified_identity rfl
  constructor
  · refine (hidentified.others _ "u" _ rfl ?_).1
    simp only [List.forall_mem_cons, List.not_mem_nil, false_implies, implies_true, and_true]
    exact ⟨rfl, rfl, rfl⟩
  · refine Exists.imp (fun response hresponse => ⟨hresponse, ?_⟩) ⟨_, rfl⟩
    obtain ⟨c, hc, hprincipal, -, hread⟩ := hidentified.response _ _ _ _ hresponse
    rw [outcome_extractClaims_of_verified rfl] at hc
    obtain rfl := Except.ok.inj hc
    exact ⟨hprincipal, hread⟩

end GatewayAccess
