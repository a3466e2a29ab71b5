import GatewayAccess.Proofs.Compilation
import GatewayAccess.Proofs.Ledger
import Mathlib.Data.List.Forall2

/-! # Grants recovered from a document

The statements of a document give back, for each effect, the conditional and the unconditional
grants they were compiled from, each in order: `conditional_statements` and
`unconditional_statements`. Hence two documents are equal just if these sequences are:
`forall₂_statements_iff`. That holds of identity and of the equality of values, for which the two
zeros among the doubles are equal, so the comparison of conditions is a parameter of the lemmas.
-/

namespace GatewayAccess

namespace Statement

variable {α β : Type} {effect other : Effect} {grants : List Grant}

/-- What the statements of an effect hold, taken together in order. -/
def collect (part : Statement → List α) (effect : Effect) (statements : List Statement) : List α :=
  (statements.filter (·.effect = effect)).flatMap part

/-- The resources of a conditional statement, each with the condition. -/
def conditionalPart : Statement → List (String × Conditions)
  | ⟨_, resources, some c⟩ => resources.map fun resource => (resource, c)
  | ⟨_, _, none⟩ => []

/-- The resources of a statement without a condition. -/
def unconditionalPart : Statement → List String
  | ⟨_, _, some _⟩ => []
  | ⟨_, resources, none⟩ => resources

theorem collect_append (part : Statement → List α) (l m : List Statement) :
    collect part effect (l ++ m) = collect part effect l ++ collect part effect m := by
  rw [collect, List.filter_append, List.flatMap_append]
  rfl

/-- Statements of another effect are passed over. -/
theorem collect_compile_of_ne (part : Statement → List α) (h : other ≠ effect) :
    collect part effect (compile other grants) = [] := by
  have hfilter : (compile other grants).filter (·.effect = effect) = [] := by
    refine List.filter_eq_nil_iff.2 fun s hs => ?_
    rw [effect_of_mem_compile hs, decide_eq_true_eq]
    exact h
  rw [collect, hfilter, List.flatMap_nil]

/-- No statement of the effect is passed over. -/
theorem collect_compile_self (part : Statement → List α) :
    collect part effect (compile effect grants) =
      (Grant.conditional effect grants).flatMap (fun entry => part (isolated effect entry)) ++
        (merged effect (Grant.unconditional effect grants)).flatMap part := by
  have hfilter : (compile effect grants).filter (·.effect = effect) = compile effect grants := by
    refine List.filter_eq_self.2 fun s hs => ?_
    rw [effect_of_mem_compile hs, decide_eq_true_eq]
  rw [collect, hfilter, compile_eq, List.flatMap_append, List.flatMap_map]

/-- Of the statements of a policy those of one effect are collected from the grants of that
effect. -/
theorem collect_statements (part : Statement → List α) (p : Policy) :
    collect part effect p.statements = collect part effect (compile effect p.granted) := by
  rw [Policy.statements_eq, collect_append]
  cases effect with
  | allow => rw [collect_compile_of_ne part (by decide : Effect.deny ≠ .allow), List.append_nil]
  | deny => rw [collect_compile_of_ne part (by decide : Effect.allow ≠ .deny), List.nil_append]

/-- The conditional grants of a policy are what its conditional statements say. -/
theorem conditional_statements (effect : Effect) (p : Policy) :
    collect conditionalPart effect p.statements = Grant.conditional effect p.granted := by
  have hisolated : ∀ entry, conditionalPart (isolated effect entry) = [entry] := fun _ => rfl
  -- The merged statement has no condition, so nothing is added by it.
  rw [collect_statements, collect_compile_self, funext hisolated, List.flatMap_singleton', merged]
  split
  · rw [List.flatMap_nil, List.append_nil]
  · rw [List.flatMap_singleton, conditionalPart, List.append_nil]

/-- The unconditional grants of a policy are what its statements without a condition say. -/
theorem unconditional_statements (effect : Effect) (p : Policy) :
    collect unconditionalPart effect p.statements = Grant.unconditional effect p.granted := by
  have hisolated : (Grant.conditional effect p.granted).flatMap
      (fun entry => unconditionalPart (isolated effect entry)) = [] :=
    List.flatMap_eq_nil_iff.2 fun _ _ => rfl
  -- Without unconditional grants there is no merged statement, but none is missing either.
  rw [collect_statements, collect_compile_self, hisolated, List.nil_append, merged]
  split
  · rename_i h
    rw [h, List.flatMap_nil]
  · rw [List.flatMap_singleton, unconditionalPart]

/-! ## Comparison of documents -/

variable {R : Conditions → Conditions → Prop} {l l' : List Statement}

/-- Two statements are the same but for their conditions, which are compared by a relation. -/
def SameBy (R : Conditions → Conditions → Prop) (s s' : Statement) : Prop :=
  s.effect = s'.effect ∧ s.resources = s'.resources ∧ Option.Rel R s.condition s'.condition

/-- Two conditional grants are for the same ARN, and their conditions are compared by a relation. -/
def SameEntryBy (R : Conditions → Conditions → Prop) (a b : String × Conditions) : Prop :=
  a.1 = b.1 ∧ R a.2 b.2

/-- What is collected from related statements is related if it is for each statement. -/
theorem forall₂_collect (effect : Effect) {part : Statement → List α} {S : α → α → Prop}
    (hpart : ∀ s s', SameBy R s s' → List.Forall₂ S (part s) (part s'))
    (h : List.Forall₂ (SameBy R) l l') :
    List.Forall₂ S (collect part effect l) (collect part effect l') := by
  refine List.rel_flatMap (List.rel_filter ?_ h) hpart
  intro s s' hs
  show decide (s.effect = effect) = true ↔ decide (s'.effect = effect) = true
  rw [hs.1]

theorem SameBy.conditionalPart {s s' : Statement} (h : SameBy R s s') :
    List.Forall₂ (SameEntryBy R) s.conditionalPart s'.conditionalPart := by
  obtain ⟨effect, resources, condition⟩ := s
  obtain ⟨effect', resources', condition'⟩ := s'
  obtain ⟨-, hresources, hcondition⟩ := h
  simp only at hresources
  subst hresources
  cases hcondition with
  | none => exact .nil
  | some hR =>
      rw [Statement.conditionalPart, Statement.conditionalPart, List.forall₂_map_left_iff,
        List.forall₂_map_right_iff]
      exact List.forall₂_same.2 fun _ _ => ⟨rfl, hR⟩

theorem SameBy.unconditionalPart {s s' : Statement} (h : SameBy R s s') :
    List.Forall₂ Eq s.unconditionalPart s'.unconditionalPart := by
  obtain ⟨effect, resources, condition⟩ := s
  obtain ⟨effect', resources', condition'⟩ := s'
  obtain ⟨-, hresources, hcondition⟩ := h
  simp only at hresources
  subst hresources
  cases hcondition with
  | none => exact List.forall₂_refl _
  | some => exact .nil

/-- Related grants are compiled to related statements. -/
theorem forall₂_compile {grants' : List Grant}
    (hunconditional : Grant.unconditional effect grants = Grant.unconditional effect grants')
    (hconditional : List.Forall₂ (SameEntryBy R) (Grant.conditional effect grants)
      (Grant.conditional effect grants')) :
    List.Forall₂ (SameBy R) (compile effect grants) (compile effect grants') := by
  rw [compile_eq, compile_eq, hunconditional]
  refine List.rel_append ?_ ?_
  · rw [List.forall₂_map_left_iff, List.forall₂_map_right_iff]
    refine hconditional.imp fun a b hab => ⟨rfl, ?_, .some hab.2⟩
    rw [isolated, isolated, hab.1]
  · rw [merged]
    split
    · exact .nil
    · exact .cons ⟨rfl, rfl, .none⟩ .nil

/-- Two policies have the same statements just if, for each effect, their unconditional grants are
for the same ARNs in order, and so are their conditional grants, under the same conditions. -/
theorem forall₂_statements_iff {p q : Policy} :
    List.Forall₂ (SameBy R) p.statements q.statements ↔
      ∀ effect,
        Grant.unconditional effect p.granted = Grant.unconditional effect q.granted ∧
          List.Forall₂ (SameEntryBy R) (Grant.conditional effect p.granted)
            (Grant.conditional effect q.granted) := by
  constructor
  -- The statements determine what is collected from them, which is the grants.
  · intro h effect
    have hunconditional := forall₂_collect effect (fun _ _ => SameBy.unconditionalPart) h
    have hconditional := forall₂_collect effect (fun _ _ => SameBy.conditionalPart) h
    rw [unconditional_statements, unconditional_statements, List.forall₂_eq_eq_eq]
      at hunconditional
    rw [conditional_statements, conditional_statements] at hconditional
    exact ⟨hunconditional, hconditional⟩
  · intro h
    rw [Policy.statements_eq, Policy.statements_eq]
    exact List.rel_append (forall₂_compile (h .allow).1 (h .allow).2)
      (forall₂_compile (h .deny).1 (h .deny).2)

end Statement

/-! ## Equality of responses -/

/-- Lists are equal by value when their items are. -/
theorem forall₂_beq_iff {α : Type} [BEq α] {l m : List α} :
    List.Forall₂ (fun a b => (a == b) = true) l m ↔ (l == m) = true := by
  induction l generalizing m with
  | nil => cases m <;> simp
  | cons a rest ih =>
      cases m with
      | nil => simp
      | cons b rest' => rw [List.forall₂_cons, ih, List.cons_beq_cons, Bool.and_eq_true]

namespace Statement

theorem sameBy_eq : SameBy Eq = Eq := by
  funext s s'
  obtain ⟨effect, resources, condition⟩ := s
  obtain ⟨effect', resources', condition'⟩ := s'
  rw [SameBy, Statement.mk.injEq]
  refine propext <| and_congr_right fun _ => and_congr_right fun _ => ?_
  cases condition with
  | none => cases condition' <;> simp
  | some c => cases condition' <;> simp

theorem sameEntryBy_eq : SameEntryBy Eq = Eq := by
  funext a b
  exact propext Prod.ext_iff.symm

theorem sameBy_beq :
    SameBy (fun c c' => (c == c') = true) = fun s s' => (s == s') = true := by
  funext s s'
  obtain ⟨effect, resources, condition⟩ := s
  obtain ⟨effect', resources', condition'⟩ := s'
  have hbeq : ((⟨effect, resources, condition⟩ : Statement) == ⟨effect', resources', condition'⟩) =
      (effect == effect' && (resources == resources' && condition == condition')) := rfl
  rw [hbeq, Bool.and_eq_true, Bool.and_eq_true, beq_iff_eq, beq_iff_eq, SameBy]
  refine propext <| and_congr_right fun _ => and_congr_right fun _ => ?_
  cases condition with
  | none => cases condition' <;> simp
  | some c => cases condition' <;> simp

theorem sameEntryBy_beq :
    SameEntryBy (fun c c' => (c == c') = true) = fun a b => (a == b) = true := by
  funext a b
  have hbeq : (a == b) = (a.1 == b.1 && a.2 == b.2) := rfl
  rw [hbeq, Bool.and_eq_true, beq_iff_eq, SameEntryBy]

end Statement

namespace Policy

variable {p q : Policy} {r r' : Response}

/-- Responses of one principal are identical when their statements are. -/
theorem response_eq_iff (hp : p.build = .ok r) (hq : q.build = .ok r')
    (hprincipal : p.principal = q.principal) :
    r = r' ↔ List.Forall₂ (Statement.SameBy Eq) p.statements q.statements := by
  obtain ⟨principal, ⟨statements, nonempty⟩, context⟩ := r
  obtain ⟨principal', ⟨statements', nonempty'⟩, context'⟩ := r'
  obtain ⟨-, rfl, rfl, rfl⟩ := build_eq_ok_iff.1 hp
  obtain ⟨-, rfl, rfl, rfl⟩ := build_eq_ok_iff.1 hq
  rw [Statement.sameBy_eq, List.forall₂_eq_eq_eq, Response.mk.injEq, Document.mk.injEq]
  simp only [hprincipal, true_and, and_true]

/-- Responses of one principal are equal by value when their statements are. -/
theorem response_beq_iff (hp : p.build = .ok r) (hq : q.build = .ok r')
    (hprincipal : p.principal = q.principal) :
    (r == r') = true ↔
      List.Forall₂ (Statement.SameBy fun c c' => (c == c') = true) p.statements q.statements := by
  obtain ⟨principal, ⟨statements, nonempty⟩, context⟩ := r
  obtain ⟨principal', ⟨statements', nonempty'⟩, context'⟩ := r'
  obtain ⟨-, rfl, rfl, rfl⟩ := build_eq_ok_iff.1 hp
  obtain ⟨-, rfl, rfl, rfl⟩ := build_eq_ok_iff.1 hq
  have hbeq : ((⟨p.principal, ⟨p.statements, nonempty⟩, ∅⟩ : Response) ==
      ⟨q.principal, ⟨q.statements, nonempty'⟩, ∅⟩) =
        (p.principal == q.principal && (p.statements == q.statements && true)) := rfl
  rw [hbeq, hprincipal, beq_self_eq_true, Bool.true_and, Bool.and_true, ← forall₂_beq_iff,
    Statement.sameBy_beq]

end Policy

/-- The responses of two runs on a fresh policy are identical just if, for each effect, the
successful unconditional grants are for the same ARNs in order, and the successful conditional
grants are for the same ARNs under the same conditions in order; and they are equal by value just if
that holds with conditions compared by value. Nothing is lost: the statements of the document give
back all four sequences. -/
theorem build_run_eq_iff (principal : String) (target : Target)
    (operations operations' : List Operation)
    (h : (Policy.new principal target).Succeeds operations)
    (h' : (Policy.new principal target).Succeeds operations') :
    ∃ response response',
      ((Policy.new principal target).run operations).build = .ok response ∧
      ((Policy.new principal target).run operations').build = .ok response' ∧
      (response = response' ↔
        ∀ effect,
          Grant.unconditional effect (Operation.made target operations) =
              Grant.unconditional effect (Operation.made target operations') ∧
            Grant.conditional effect (Operation.made target operations) =
              Grant.conditional effect (Operation.made target operations')) ∧
      ((response == response') = true ↔
        ∀ effect,
          Grant.unconditional effect (Operation.made target operations) =
              Grant.unconditional effect (Operation.made target operations') ∧
            (Grant.conditional effect (Operation.made target operations) ==
              Grant.conditional effect (Operation.made target operations')) = true) ∧
      ∀ effect,
        Statement.collect Statement.unconditionalPart effect response.document.statements =
            Grant.unconditional effect (Operation.made target operations) ∧
          Statement.collect Statement.conditionalPart effect response.document.statements =
            Grant.conditional effect (Operation.made target operations) := by
  have hgranted : ∀ operations, ((Policy.new principal target).run operations).granted =
      Operation.made target operations := by
    intro operations
    rw [Policy.run_eq]
    rfl
  have hprincipal : ((Policy.new principal target).run operations).principal =
      ((Policy.new principal target).run operations').principal := by
    rw [Policy.run_eq, Policy.run_eq]
  obtain ⟨response, hbuild⟩ := Policy.exists_build (Policy.granted_run_ne_nil h)
  obtain ⟨response', hbuild'⟩ := Policy.exists_build (Policy.granted_run_ne_nil h')
  refine ⟨response, response', hbuild, hbuild', ?_, ?_, ?_⟩
  · rw [Policy.response_eq_iff hbuild hbuild' hprincipal, Statement.forall₂_statements_iff,
      Statement.sameEntryBy_eq, hgranted, hgranted]
    simp only [List.forall₂_eq_eq_eq]
  · rw [Policy.response_beq_iff hbuild hbuild' hprincipal, Statement.forall₂_statements_iff,
      Statement.sameEntryBy_beq, hgranted, hgranted]
    simp only [forall₂_beq_iff]
  · intro effect
    rw [(Policy.build_eq_ok_iff.1 hbuild).2.2.1, Statement.unconditional_statements,
      Statement.conditional_statements, hgranted]
    exact ⟨rfl, rfl⟩

/-- A permission changes places with a denial, a failure and a conditional permission, and the
responses are equal; it changes places with another permission, and they are not. -/
theorem build_run_eq_iff_swapped :
    (∃ response response',
      ((Policy.new "user" ⟨"eu-west-1", "123456789012", "api", "prod", "aws"⟩).run
          [.allow .get "/a", .deny .get "/b", .allow .get "/a b",
            .allowIf .put "/a" (SortedMap.ofList [("IpAddress", ∅)])]).build = .ok response ∧
      ((Policy.new "user" ⟨"eu-west-1", "123456789012", "api", "prod", "aws"⟩).run
          [.allowIf .put "/a" (SortedMap.ofList [("IpAddress", ∅)]), .deny .get "/b",
            .allow .get "/a"]).build = .ok response' ∧
      (response == response') = true) ∧
    ∃ response response',
      ((Policy.new "user" ⟨"eu-west-1", "123456789012", "api", "prod", "aws"⟩).run
          [.allow .get "/a", .allow .get "/b"]).build = .ok response ∧
      ((Policy.new "user" ⟨"eu-west-1", "123456789012", "api", "prod", "aws"⟩).run
          [.allow .get "/b", .allow .get "/a"]).build = .ok response' ∧
      response ≠ response' := by
  constructor
  · obtain ⟨response, response', hbuild, hbuild', -, h, -⟩ := build_run_eq_iff "user"
      ⟨"eu-west-1", "123456789012", "api", "prod", "aws"⟩
      [.allow .get "/a", .deny .get "/b", .allow .get "/a b",
        .allowIf .put "/a" (SortedMap.ofList [("IpAddress", ∅)])]
      [.allowIf .put "/a" (SortedMap.ofList [("IpAddress", ∅)]), .deny .get "/b",
        .allow .get "/a"] ⟨[], _, _, _, rfl, rfl⟩ ⟨[], _, _, _, rfl, rfl⟩
    refine ⟨response, response', hbuild, hbuild', h.2 fun effect => ?_⟩
    cases effect <;> decide
  · obtain ⟨response, response', hbuild, hbuild', h, -⟩ := build_run_eq_iff "user"
      ⟨"eu-west-1", "123456789012", "api", "prod", "aws"⟩
      [.allow .get "/a", .allow .get "/b"] [.allow .get "/b", .allow .get "/a"]
      ⟨[], _, _, _, rfl, rfl⟩ ⟨[], _, _, _, rfl, rfl⟩
    refine ⟨response, response', hbuild, hbuild', fun heq => ?_⟩
    exact absurd (h.1 heq .allow).1 (by decide)

end GatewayAccess
