import GatewayAccess.Proofs.Ledger
import GatewayAccess.Proofs.Outcome

/-! # Confinement to the stage of the request

A policy is confined to a target if every resource that it grants is a verb on a path of that
target. Grant steps keep a policy confined, so the statements of a response are:
`authorize_confined`. It takes the target as it is read from the method ARN of the request, in which
pieces may hold any characters but the separators, and reads every resource back.
-/

namespace GatewayAccess

/-- The policy is for a target, and grants only verbs on paths of it. -/
structure Policy.ConfinedTo (t : Target) (p : Policy) : Prop where
  target : p.target = t
  resource : ∀ g ∈ p.granted, ∃ (v : Verb) (path : Path), g.resource = t.methodArn v path

namespace Policy

variable {t : Target} {p q : Policy}

theorem confinedTo_new (principal : String) (t : Target) : (Policy.new principal t).ConfinedTo t :=
  ⟨rfl, fun _ hg => absurd hg List.not_mem_nil⟩

/-- A grant step keeps a policy confined. -/
theorem ConfinedTo.apply {step : GrantStep} (h : p.ConfinedTo t) (hq : step.apply p = .ok q) :
    q.ConfinedTo t := by
  obtain ⟨g, hg, rfl⟩ := GrantStep.apply_eq_ok_iff.1 hq
  by_cases hpath : IsPath step.path
  · rw [GrantStep.grant?_of_isPath hpath, h.target] at hg
    cases hg
    refine ⟨h.target, fun g hg => ?_⟩
    rcases List.mem_append.1 hg with hg | hg
    · exact h.resource g hg
    · rw [List.mem_singleton.1 hg]
      exact ⟨step.verb, ⟨step.path, hpath⟩, rfl⟩
  · rw [GrantStep.grant?_of_not_isPath hpath] at hg
    cases hg

/-- The statements of a confined policy name only verbs on paths of the target. -/
theorem ConfinedTo.resource_of_mem_statements (h : p.ConfinedTo t) {s : Statement}
    (hs : s ∈ p.statements) {resource : String} (hr : resource ∈ s.resources) :
    ∃ (v : Verb) (path : Path), resource = t.methodArn v path := by
  obtain ⟨g, hg, rfl⟩ := Statement.exists_grant_of_mem_resources (mem_statements.1 hs) hr
  exact h.resource g hg

end Policy

/-- Whatever the policy is, if it keeps policies confined then the response is. -/
theorem Authorizer.resource_of_preserves {a : Authorizer} {event : Event} {response : Response}
    (hpolicy : ∀ t, a.policy.Preserves (Policy.ConfinedTo t))
    (h : (a.authorize event).outcome = .ok response) :
    ∃ invoked, MethodArn.ofText? event.methodArn = some invoked ∧
      ∀ s ∈ response.document.statements, ∀ resource ∈ s.resources,
        ∃ (v : Verb) (path : Path), resource = invoked.target.methodArn v path := by
  obtain ⟨claims, invoked, p, built, -, hinvoked, hp, hbuilt, rfl⟩ :=
    outcome_authorize_eq_ok_iff.1 h
  have hconfined : p.ConfinedTo invoked.target :=
    hpolicy _ claims _ p (Policy.confinedTo_new claims.principal invoked.target) hp
  refine ⟨invoked, hinvoked, fun s hs resource hr => ?_⟩
  rw [Response.document_identified, (Policy.build_eq_ok_iff.1 hbuilt).2.2.1] at hs
  exact hconfined.resource_of_mem_statements hs hr

/-- Whatever steps the policy of a response consists of, every resource in it is read as a verb on a
path of the stage that the method ARN of the request is for. -/
theorem authorize_confined (verifier : Verifier) (event : Event)
    (steps : List (Guard × GrantStep)) {response : Response}
    (h : (Authorizer.authorize ⟨verifier, GrantPolicy.ofSteps steps⟩ event).outcome =
      .ok response) :
    ∃ invoked, MethodArn.ofText event.methodArn = .ok invoked ∧
      ∀ s ∈ response.document.statements, ∀ resource ∈ s.resources,
        ∃ m, MethodArn.ofText resource = .ok m ∧ m.target = invoked.target ∧
          (∃ v : Verb, m.verb = v.token) ∧ ∀ c ∈ m.path.toList, isPathChar c = true := by
  have hpolicy : ∀ t, (GrantPolicy.ofSteps steps).Preserves (Policy.ConfinedTo t) := by
    intro t
    exact GrantPolicy.preserves_ofSteps (fun step p q hp hq => hp.apply hq) steps
  obtain ⟨invoked, hinvoked, hresource⟩ := Authorizer.resource_of_preserves hpolicy h
  refine ⟨invoked, MethodArn.ofText_eq_ok_iff.2 hinvoked, fun s hs resource hr => ?_⟩
  obtain ⟨v, path, rfl⟩ := hresource s hs resource hr
  -- What the parser lets into a target never holds the separator that ends the piece.
  have hseparable := MethodArn.separable_of_ofText? hinvoked
  refine ⟨⟨invoked.target, v.token, path.relative⟩, ?_, rfl, ⟨v, rfl⟩, ?_⟩
  · exact MethodArn.ofText_eq_ok_iff.2 (MethodArn.ofText?_methodArn hseparable v path)
  · intro c hc
    exact MethodArn.isPathChar_of_mem_relative hc

/-- A slash in the region does not shift the pieces of a resource. -/
theorem authorize_confined_slash :
    ∃ response,
      (Authorizer.authorize
          ⟨fun _ => .ok (SortedMap.ofList
              [("emailAddress", ⟨.string "user@example.com", .string _⟩),
                ("userId", ⟨.bool true, .bool _⟩), ("userType", ⟨.string "staff", .string _⟩)]),
            GrantPolicy.ofSteps
              [({ onlyFor := some "staff" }, { effect := .allow, verb := .get, path := "//a" }),
                ({ exceptFor := some "staff" }, .everything .allow)]⟩
          ⟨none, "Bearer t", "arn:aws:execute-api:eu/west:1:api/prod/PUT/b"⟩).outcome =
        .ok response ∧
      ∀ s ∈ response.document.statements, ∀ resource ∈ s.resources,
        ∃ m, MethodArn.ofText resource = .ok m ∧
          m.target = ⟨"eu/west", "1", "api", "prod", "aws"⟩ := by
  refine ⟨_, rfl, fun s hs resource hr => ?_⟩
  obtain ⟨invoked, hinvoked, h⟩ := authorize_confined
    (fun _ => .ok (SortedMap.ofList
      [("emailAddress", ⟨.string "user@example.com", .string _⟩),
        ("userId", ⟨.bool true, .bool _⟩), ("userType", ⟨.string "staff", .string _⟩)]))
    ⟨none, "Bearer t", "arn:aws:execute-api:eu/west:1:api/prod/PUT/b"⟩
    [({ onlyFor := some "staff" }, { effect := .allow, verb := .get, path := "//a" }),
      ({ exceptFor := some "staff" }, .everything .allow)] rfl
  obtain ⟨m, hm, htarget, -⟩ := h s hs resource hr
  have htext : MethodArn.ofText? "arn:aws:execute-api:eu/west:1:api/prod/PUT/b" =
      some ⟨⟨"eu/west", "1", "api", "prod", "aws"⟩, "PUT", "b"⟩ := by decide
  rw [MethodArn.ofText_eq_ok_iff, htext, Option.some.injEq] at hinvoked
  exact ⟨m, hm, by rw [htarget, ← hinvoked]⟩

end GatewayAccess
