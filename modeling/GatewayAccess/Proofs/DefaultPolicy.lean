import GatewayAccess.Proofs.EventText
import GatewayAccess.Proofs.Identity
import GatewayAccess.Proofs.ResponseText

/-! # The default grant policies

Without a grant policy of its own an authorizer allows everything, and it can be told to deny
everything. These policies cannot fail (`GrantStep.apply_everything`), so a request is answered
whenever its credentials and its method ARN are accepted. `everythingText` is what the answer looks
like, character by character; `build_default_text` says that it is.
-/

namespace GatewayAccess

/-! ## One effect for everything -/

/-- The grant policy that gives an effect to every verb on every path of the stage. -/
def GrantPolicy.everything (effect : Effect) : GrantPolicy := fun _ p =>
  (GrantStep.everything effect).apply p

theorem GrantPolicy.everything_allow : GrantPolicy.everything .allow = GrantPolicy.allowAll := rfl

theorem GrantPolicy.everything_deny : GrantPolicy.everything .deny = GrantPolicy.denyAll := rfl

/-- A grant for everything is made on every target, whatever its pieces are. -/
theorem GrantStep.apply_everything (effect : Effect) (p : Policy) :
    (everything effect).apply p = .ok (p.record ⟨effect, p.target.wildcardArn, ∅⟩) := by
  have hpath : IsPath (everything effect).path := Path.wildcard.isPath
  rw [apply_eq, grant?_of_isPath hpath]
  rfl

/-- A grant without conditions, if it is the only one, is the whole document. -/
theorem Policy.statements_record_new (principal : String) (t : Target) (effect : Effect)
    (resource : String) :
    ((Policy.new principal t).record ⟨effect, resource, ∅⟩).statements =
      [⟨effect, [resource], none⟩] := by
  cases effect <;> rfl

/-- The ARN of everything on a stage, piece by piece. -/
theorem Target.wildcardArn_eq (t : Target) :
    t.wildcardArn =
      "arn:" ++ t.partition ++ ":execute-api:" ++ t.region ++ ":" ++ t.account ++ ":" ++ t.api ++
        "/" ++ t.stage ++ "/*/*" := by
  have hverb : Verb.all.token = "*" := rfl
  have hpath : Path.wildcard.relative = "*" := rfl
  unfold wildcardArn methodArn stageArn service
  simp only [hverb, hpath, String.append_assoc]
  rfl

/-! ## The response -/

/-- With accepted credentials and a method ARN there is a response, and it consists of this. -/
theorem Authorizer.exists_outcome_everything {verifier : Verifier} {event : Event} {claims : Claims}
    {invoked : MethodArn} (effect : Effect)
    (hclaims : verifier.Accepts event.authorization claims)
    (hinvoked : MethodArn.ofText? event.methodArn = some invoked) :
    ∃ response,
      (Authorizer.authorize ⟨verifier, .everything effect⟩ event).outcome = .ok response ∧
        response.principal = claims.email ∧
        response.document.statements = [⟨effect, [invoked.target.wildcardArn], none⟩] ∧
        response.context.entries =
          [(Claims.emailKey, .text claims.email), (Claims.userIdKey, claims.userId),
            (Claims.userTypeKey, claims.userType)] := by
  have hp := GrantStep.apply_everything effect (Policy.new claims.principal invoked.target)
  obtain ⟨built, hbuilt⟩ := Policy.exists_build
    (p := (Policy.new claims.principal invoked.target).record
      ⟨effect, invoked.target.wildcardArn, ∅⟩) (List.cons_ne_nil _ _)
  obtain ⟨-, hprincipal, hstatements, hcontext⟩ := Policy.build_eq_ok_iff.1 hbuilt
  rw [Policy.statements_record_new] at hstatements
  refine ⟨built.identified claims, outcome_authorize_eq_ok_iff.2
    ⟨claims, invoked, _, built, hclaims, hinvoked, hp, hbuilt, rfl⟩, hprincipal, hstatements,
    Response.context_identified hcontext claims⟩

/-! ## Its text -/

/-- The JSON text of the response with one effect for everything, around the name of the effect and
the JSON texts of the claims and of the ARN. -/
def everythingText (effect email userId userType resource : String) : String :=
  "\x7b\"principalId\":" ++ email ++
    ",\"policyDocument\":\x7b\"Version\":\"2012-10-17\",\"Statement\":[" ++
    "\x7b\"Action\":\"execute-api:Invoke\",\"Effect\":\"" ++ effect ++
    "\",\"Resource\":[" ++ resource ++ "]\x7d]\x7d,\"context\":\x7b\"emailAddress\":" ++ email ++
    ",\"userId\":" ++ userId ++ ",\"userType\":" ++ userType ++ "\x7d\x7d"

/-- A response that consists of this has that text. -/
theorem Response.jsonText_eq_everythingText {r : Response} {c : Claims} {effect : Effect}
    {resource : String} (hprincipal : r.principal = c.email)
    (hstatements : r.document.statements = [⟨effect, [resource], none⟩])
    (hcontext : r.context.entries =
      [(Claims.emailKey, .text c.email), (Claims.userIdKey, c.userId),
        (Claims.userTypeKey, c.userType)]) :
    r.jsonText =
      everythingText effect.name (Json.ofText c.email).text c.userId.toJson.text
        c.userType.toJson.text (Json.ofText resource).text := by
  have hemail : (Json.ofText Claims.emailKey).text = "\"emailAddress\"" := rfl
  have huserId : (Json.ofText Claims.userIdKey).text = "\"userId\"" := rfl
  have huserType : (Json.ofText Claims.userTypeKey).text = "\"userType\"" := rfl
  have hscalar (s : Scalar) : s.tree.text = s.toJson.text := rfl
  have htext : (Scalar.text c.email).toJson = Json.ofText c.email := rfl
  simp only [jsonText_eq, Document.text_tree, Statement.text_tree, SortedMap.text_tree, hprincipal,
    hstatements, hcontext, List.map_cons, List.map_nil, String.intercalate_cons_cons,
    String.intercalate_singleton, Option.elim_none, hemail, huserId, huserType, hscalar, htext]
  unfold everythingText
  simp only [String.append_assoc]
  rfl

/-! ## Authorizers with a default policy -/

/-- What an authorizer does that gives the effect of one name to everything. -/
structure Blanket (verifier : Verifier) (effect : String) (a : Authorizer) : Prop where
  /-- A request has a response just if its credentials and its method ARN are accepted. -/
  answered : ∀ event, (∃ response, (a.authorize event).outcome = .ok response) ↔
    (∃ claims, verifier.Accepts event.authorization claims) ∧
      ∃ invoked, MethodArn.ofText event.methodArn = .ok invoked
  /-- The text of the response is this and no other, also if the request is given as a text. -/
  written : ∀ event token raw claims invoked, event.authorization = "Bearer " ++ token →
    verifier token = .ok raw → Claims.ofRaw raw = .ok claims →
      MethodArn.ofText event.methodArn = .ok invoked →
        ∃ response email userId userType,
          (a.authorize event).outcome = .ok response ∧
          raw.get? "emailAddress" = some email ∧ raw.get? "userId" = some userId ∧
            raw.get? "userType" = some userType ∧
          response.jsonText =
            everythingText effect email.text userId.text userType.text
              (Json.ofText ("arn:" ++ invoked.target.partition ++ ":execute-api:" ++
                invoked.target.region ++ ":" ++ invoked.target.account ++ ":" ++
                invoked.target.api ++ "/" ++ invoked.target.stage ++ "/*/*")).text ∧
          ∀ diagnose text, Event.read? text = some event →
            (a.authorizeText diagnose text).outcome = .ok response.jsonText

/-- Whatever the effect, its name is given in each answer. -/
theorem blanket_everything (verifier : Verifier) (effect : Effect) :
    Blanket verifier effect.name ⟨verifier, .everything effect⟩ where
  answered event := by
    simp only [MethodArn.ofText_eq_ok_iff]
    constructor
    · rintro ⟨response, hresponse⟩
      obtain ⟨claims, invoked, -, -, hclaims, hinvoked, -⟩ :=
        Authorizer.outcome_authorize_eq_ok_iff.1 hresponse
      exact ⟨⟨claims, hclaims⟩, invoked, hinvoked⟩
    · rintro ⟨⟨claims, hclaims⟩, invoked, hinvoked⟩
      obtain ⟨response, hresponse, -⟩ :=
        Authorizer.exists_outcome_everything effect hclaims hinvoked
      exact ⟨response, hresponse⟩
  written event token raw claims invoked htoken hraw hclaims hinvoked := by
    obtain ⟨hemail, huserType, huserId⟩ := Claims.ofRaw_eq_ok_iff.1 hclaims
    have haccepts : verifier.Accepts event.authorization claims :=
      ⟨token, raw, htoken, hraw, hclaims⟩
    obtain ⟨response, hresponse, hprincipal, hstatements, hcontext⟩ :=
      Authorizer.exists_outcome_everything effect haccepts (MethodArn.ofText_eq_ok_iff.1 hinvoked)
    refine ⟨response, _, _, _, hresponse, hemail, huserId, huserType, ?_,
      fun diagnose text htext => ?_⟩
    · rw [Target.wildcardArn_eq] at hstatements
      exact Response.jsonText_eq_everythingText hprincipal hstatements hcontext
    · rw [(Authorizer.authorizeText_of_some htext).1, hresponse]
      rfl

/-- With any verifier and no policy of its own an authorizer allows everything, as it does if told
to; and it can be told to deny everything. -/
theorem build_default_text (verifier : Verifier) :
    ∃ allowing denying,
      Authorizer.build (some verifier) = .ok allowing ∧
      Authorizer.build (some verifier) GrantPolicy.allowAll = .ok allowing ∧
      Authorizer.build (some verifier) GrantPolicy.denyAll = .ok denying ∧
      Blanket verifier "Allow" allowing ∧ Blanket verifier "Deny" denying := by
  refine ⟨⟨verifier, .allowAll⟩, ⟨verifier, .denyAll⟩, rfl, rfl, rfl, ?_, ?_⟩
  · rw [← GrantPolicy.everything_allow]
    exact blanket_everything verifier .allow
  · rw [← GrantPolicy.everything_deny]
    exact blanket_everything verifier .deny

/-- A quote in the email address is escaped, and the other claims keep their kinds. -/
theorem build_default_text_quote :
    ∃ denying response,
      Authorizer.build
          (some fun _ => .ok (SortedMap.ofList
            [("emailAddress", .ofText "a\"b@example.com"), ("userId", (Scalar.bool true).toJson),
              ("userType", (Scalar.number (.negSucc ⟨41, by decide⟩)).toJson)]))
          GrantPolicy.denyAll = .ok denying ∧
      (denying.authorize
          ⟨none, "Bearer t", "arn:aws:execute-api:eu-west-1:1:api/prod/GET/a"⟩).outcome =
        .ok response ∧
      response.jsonText =
        everythingText "Deny" "\"a\\\"b@example.com\"" "true" "-42"
          "\"arn:aws:execute-api:eu-west-1:1:api/prod/*/*\"" := by
  obtain ⟨-, denying, -, -, hbuild, -, hdenying⟩ := build_default_text
    fun _ => .ok (SortedMap.ofList
      [("emailAddress", .ofText "a\"b@example.com"), ("userId", (Scalar.bool true).toJson),
        ("userType", (Scalar.number (.negSucc ⟨41, by decide⟩)).toJson)])
  have hinvoked : MethodArn.ofText? "arn:aws:execute-api:eu-west-1:1:api/prod/GET/a" =
      some ⟨⟨"eu-west-1", "1", "api", "prod", "aws"⟩, "GET", "a"⟩ := by decide
  obtain ⟨response, email, userId, userType, hresponse, hemail, huserId, huserType, htext, -⟩ :=
    hdenying.written ⟨none, "Bearer t", "arn:aws:execute-api:eu-west-1:1:api/prod/GET/a"⟩ "t" _
      ⟨"a\"b@example.com", .number (.negSucc ⟨41, by decide⟩), .bool true⟩ _ rfl rfl rfl
      (MethodArn.ofText_eq_ok_iff.2 hinvoked)
  cases hemail
  cases huserId
  cases huserType
  exact ⟨denying, response, hbuild, hresponse, htext⟩

end GatewayAccess
