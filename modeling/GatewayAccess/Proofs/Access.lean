import GatewayAccess.Proofs.Compilation
import GatewayAccess.Proofs.Ledger

/-! # Access decisions

A request is allowed or denied by what applies to it, and a denial goes before a permission. The
decision can be read off the grants of a policy or off the statements of its document;
`access_build_run` says that it is the same, whatever resources a request matches and whatever
conditions it meets.
-/

namespace GatewayAccess

/-- What the evaluation of a policy asks about a request: which resources it matches, and which
conditions it meets. -/
structure Request where
  matching : String → Bool
  meets : Conditions → Bool

/-- What a request gets. -/
inductive Access where
  | allowed
  | denied
  /-- Nothing applies to the request. -/
  | undecided
deriving DecidableEq, Repr

/-- The access that follows from the effects that apply. A denial overrides a permission. -/
def Access.ofEffects (applies : Effect → Bool) : Access :=
  if applies .deny then .denied else if applies .allow then .allowed else .undecided

/-- A grant applies to requests for its resource that meet its conditions, if it has any. -/
def Grant.applies (g : Grant) (request : Request) : Bool :=
  request.matching g.resource && (g.conditions.isEmpty || request.meets g.conditions)

/-- A statement applies to requests for one of its resources that meet its condition, if it has
one. -/
def Statement.applies (s : Statement) (request : Request) : Bool :=
  s.resources.any request.matching && s.condition.all request.meets

/-- The access that the grants of a policy give. -/
def Policy.access (p : Policy) (request : Request) : Access :=
  .ofEffects fun effect => (p.grants effect).any (·.applies request)

/-- The access that the statements of a document give. -/
def Document.access (d : Document) (request : Request) : Access :=
  .ofEffects fun effect => d.statements.any fun s => s.effect = effect && s.applies request

namespace Statement

variable {effect : Effect} {grants : List Grant}

/-- The statement of the unconditional grants applies when one of them does. -/
theorem applies_unconditional_iff {request : Request} :
    (⟨effect, Grant.unconditional effect grants, none⟩ : Statement).applies request = true ↔
      ∃ g ∈ grants, g.effect = effect ∧ g.conditions.isEmpty = true ∧
        g.applies request = true := by
  simp only [applies, Option.all_none, Bool.and_true, List.any_eq_true, Grant.mem_unconditional]
  constructor
  · rintro ⟨resource, ⟨g, hg, he, hc, rfl⟩, hmatch⟩
    refine ⟨g, hg, he, hc, ?_⟩
    rw [Grant.applies, hmatch, hc]
    rfl
  · rintro ⟨g, hg, he, hc, happlies⟩
    rw [Grant.applies, Bool.and_eq_true] at happlies
    exact ⟨g.resource, ⟨g, hg, he, hc, rfl⟩, happlies.1⟩

/-- The statement of a conditional grant applies when the grant does. -/
theorem applies_conditional {g : Grant} (hc : g.conditions.isEmpty = false) (request : Request) :
    (⟨effect, [g.resource], some g.conditions⟩ : Statement).applies request =
      g.applies request := by
  rw [applies, Grant.applies, hc, List.any_cons, List.any_nil, Bool.or_false, Option.all_some]
  rfl

/-- A statement that grants are compiled to applies just if one of the grants does. -/
theorem exists_mem_compile_applies_iff {request : Request} :
    (∃ s ∈ compile effect grants, s.applies request = true) ↔
      ∃ g ∈ grants, g.effect = effect ∧ g.applies request = true := by
  constructor
  · rintro ⟨s, hs, happlies⟩
    rcases mem_compile.1 hs with ⟨g, hg, he, hc, rfl⟩ | ⟨-, rfl⟩
    · rw [applies_conditional hc] at happlies
      exact ⟨g, hg, he, happlies⟩
    -- The resource that matches is that of one grant, which has no conditions to be met.
    · obtain ⟨g, hg, he, -, happlies⟩ := applies_unconditional_iff.1 happlies
      exact ⟨g, hg, he, happlies⟩
  · rintro ⟨g, hg, he, happlies⟩
    cases hc : g.conditions.isEmpty with
    | false =>
        refine ⟨⟨effect, [g.resource], some g.conditions⟩, ?_, ?_⟩
        · exact mem_compile.2 (.inl ⟨g, hg, he, hc, rfl⟩)
        · rwa [applies_conditional hc]
    | true =>
        refine ⟨⟨effect, Grant.unconditional effect grants, none⟩, ?_, ?_⟩
        · have hmem := Grant.mem_unconditional.2 ⟨g, hg, he, hc, rfl⟩
          exact mem_compile.2 (.inr ⟨List.ne_nil_of_mem hmem, rfl⟩)
        · exact applies_unconditional_iff.2 ⟨g, hg, he, hc, happlies⟩

end Statement

namespace Policy

variable {p : Policy} {response : Response}

/-- An effect applies by the document of a policy just if it does by the grants. -/
theorem exists_statement_applies_iff {request : Request} {effect : Effect} :
    (∃ s ∈ p.statements, s.effect = effect ∧ s.applies request = true) ↔
      ∃ g ∈ p.grants effect, g.applies request = true := by
  have hgrants : (∃ g ∈ p.grants effect, g.applies request = true) ↔
      ∃ g ∈ p.granted, g.effect = effect ∧ g.applies request = true := by
    simp only [mem_grants, and_assoc]
  rw [hgrants, ← Statement.exists_mem_compile_applies_iff]
  constructor
  · rintro ⟨s, hs, rfl, happlies⟩
    exact ⟨s, mem_statements.1 hs, happlies⟩
  · rintro ⟨s, hs, happlies⟩
    have he := Statement.effect_of_mem_compile hs
    exact ⟨s, mem_statements.2 (he ▸ hs), he, happlies⟩

/-- The document of a policy gives the access that its grants give. -/
theorem access_of_build (h : p.build = .ok response) (request : Request) :
    response.document.access request = p.access request := by
  rw [Document.access, Policy.access, (build_eq_ok_iff.1 h).2.2.1]
  congr 1
  funext effect
  rw [Bool.eq_iff_iff, List.any_eq_true, List.any_eq_true, ← exists_statement_applies_iff]
  simp only [Bool.and_eq_true, decide_eq_true_eq]

end Policy

/-- After any run of operations of which one succeeds there is a document. For every request and
each effect, one of its statements with that effect applies just if one of the grants recorded does,
so both give the same access. Conditions are asked about only where there are some. -/
theorem access_build_run (principal : String) (target : Target) (operations : List Operation)
    (h : (Policy.new principal target).Succeeds operations) :
    ∃ response, ((Policy.new principal target).run operations).build = .ok response ∧
      (∀ s ∈ response.document.statements, ∀ c, s.condition = some c → c.isEmpty = false) ∧
      ∀ request : Request,
        (∀ effect,
          (∃ g ∈ ((Policy.new principal target).run operations).grants effect,
              g.applies request = true) ↔
            ∃ s ∈ response.document.statements, s.effect = effect ∧ s.applies request = true) ∧
        response.document.access request =
          ((Policy.new principal target).run operations).access request := by
  obtain ⟨response, hbuild⟩ := Policy.exists_build (Policy.granted_run_ne_nil h)
  have hstatements := (Policy.build_eq_ok_iff.1 hbuild).2.2.1
  refine ⟨response, hbuild, ?_, fun request => ⟨fun effect => ?_, ?_⟩⟩
  · intro s hs c hc
    rw [hstatements] at hs
    exact Statement.condition_of_mem_compile (Policy.mem_statements.1 hs) hc
  · rw [hstatements]
    exact Policy.exists_statement_applies_iff.symm
  · exact Policy.access_of_build hbuild request

/-- A permission under a condition is one only where the condition is met. -/
theorem access_build_run_restricted :
    ∃ response,
      ((Policy.new "user" ⟨"eu-west-1", "123456789012", "api", "prod", "aws"⟩).run
          [.allowIf .get "/a" (SortedMap.ofList [("IpAddress", ∅)]), .allow .get "/a b",
            .allow .get "/b", .deny .delete "/a"]).build = .ok response ∧
        response.document.access
          ⟨(· = "arn:aws:execute-api:eu-west-1:123456789012:api/prod/GET/a"), fun _ => true⟩ =
            .allowed ∧
        response.document.access
          ⟨(· = "arn:aws:execute-api:eu-west-1:123456789012:api/prod/GET/a"), fun _ => false⟩ =
            .undecided := by
  obtain ⟨response, hbuild, -, h⟩ := access_build_run "user"
    ⟨"eu-west-1", "123456789012", "api", "prod", "aws"⟩
    [.allowIf .get "/a" (SortedMap.ofList [("IpAddress", ∅)]), .allow .get "/a b",
      .allow .get "/b", .deny .delete "/a"] ⟨[], _, _, _, rfl, rfl⟩
  refine ⟨response, hbuild, ?_, ?_⟩
  · rw [(h _).2]
    decide
  · rw [(h _).2]
    decide

end GatewayAccess
