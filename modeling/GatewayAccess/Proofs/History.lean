import GatewayAccess.Proofs.Compilation
import GatewayAccess.Proofs.Ledger
import Mathlib.Data.List.Forall2

/-! # The history behind a policy

A policy holds one grant for each operation that succeeded, and nothing else: `forall₂_made`
compares the grants that a run makes with the operations that succeed when they are reached, and
`ledger_run` says what that means at every point of a run. Whether an operation succeeds is decided
by its path alone, so a failure early in a run does not change what the rest of it does:
`succeeding_eq_filter` and `chain_append`.
-/

namespace GatewayAccess

/-- The grant that a successful operation leaves on a target: with the effect and the conditions of
the operation, for the ARN of its verb on its path. -/
structure Operation.Records (t : Target) (o : Operation) (g : Grant) : Prop where
  effect : g.effect = o.step.effect
  resource : t.resourceArn o.step.verb o.step.path = .ok g.resource
  conditions : g.conditions = o.step.conditions

/-! ## Single operations -/

namespace Operation

variable {o : Operation} {p : Policy} {t : Target} {g : Grant} {failure : Failure}

/-- The grant of an operation is the one that it leaves. -/
theorem grant?_eq_some_iff : o.step.grant? t = some g ↔ o.Records t g := by
  obtain ⟨effect, resource, conditions⟩ := g
  rw [GrantStep.grant?]
  cases hresource : t.resourceArn o.step.verb o.step.path with
  | error failure =>
      constructor
      · intro h
        cases h
      · rintro ⟨-, h, -⟩
        rw [hresource] at h
        cases h
  | ok resource' =>
      constructor
      · intro h
        cases h
        exact ⟨rfl, hresource, rfl⟩
      · rintro ⟨rfl, h, rfl⟩
        rw [hresource] at h
        cases h
        rfl

/-- An operation on a path of the grammar leaves its grant. -/
theorem exists_apply_of_isPath (h : IsPath o.step.path) (p : Policy) :
    ∃ g, o.Records p.target g ∧ o.apply p = .ok (p.record g) := by
  have hgrant := GrantStep.grant?_of_isPath h p.target
  refine ⟨_, grant?_eq_some_iff.1 hgrant, ?_⟩
  rw [o.apply_eq_step, GrantStep.apply_eq, hgrant]

/-- An operation on any other path fails with that path. -/
theorem apply_of_not_isPath (h : ¬ IsPath o.step.path) (p : Policy) :
    o.apply p = .error (.invalidPath o.step.path) := by
  rw [o.apply_eq_step, GrantStep.apply_eq, GrantStep.grant?_of_not_isPath h]

/-- An operation fails just if its path is outside the grammar. -/
theorem apply_eq_error_iff :
    o.apply p = .error failure ↔ ¬ IsPath o.step.path ∧ failure = .invalidPath o.step.path := by
  by_cases h : IsPath o.step.path
  · obtain ⟨g, -, hg⟩ := exists_apply_of_isPath h p
    rw [hg]
    simp only [reduceCtorEq, h, not_true_eq_false, false_and]
  · rw [apply_of_not_isPath h]
    simp only [Except.error.injEq, h, not_false_eq_true, true_and, eq_comm]

end Operation

/-! ## Runs -/

namespace Policy

variable {p : Policy} {operations : List Operation}

/-- The operations of a run that succeed when they are reached. -/
def succeeding (p : Policy) : List Operation → List Operation
  | [] => []
  | o :: rest =>
      match o.apply p with
      | .ok q => o :: q.succeeding rest
      | .error _ => p.succeeding rest

/-- Carries out operations up to the first that fails, with its failure. -/
def chain (p : Policy) : List Operation → Policy × Option Failure
  | [] => (p, none)
  | o :: rest =>
      match o.apply p with
      | .ok q => q.chain rest
      | .error failure => (p, some failure)

/-- A run goes on from where its first operation leads. -/
theorem run_cons (p : Policy) (o : Operation) (rest : List Operation) :
    p.run (o :: rest) = (p.attempt o).run rest := rfl

theorem run_append (p : Policy) (before after : List Operation) :
    p.run (before ++ after) = (p.run before).run after := List.foldl_append

theorem attempt_of_ok {o : Operation} {q : Policy} (h : o.apply p = .ok q) : p.attempt o = q := by
  rw [attempt, h]

theorem attempt_of_error {o : Operation} {failure : Failure} (h : o.apply p = .error failure) :
    p.attempt o = p := by
  rw [attempt, h]

/-- The operations that succeed are those on paths of the grammar, whatever came before them. -/
theorem succeeding_eq_filter (p : Policy) (operations : List Operation) :
    p.succeeding operations = operations.filter fun o => IsPath o.step.path := by
  induction operations generalizing p with
  | nil => rfl
  | cons o rest ih =>
      by_cases h : IsPath o.step.path
      · obtain ⟨g, -, hg⟩ := Operation.exists_apply_of_isPath h p
        simp only [succeeding, hg, List.filter_cons, h, decide_true, if_true, ih]
      · simp only [succeeding, Operation.apply_of_not_isPath h, List.filter_cons, h, decide_false,
          Bool.false_eq_true, if_false, ih]

/-- A run makes one grant for each operation that succeeds, in order. -/
theorem forall₂_made (p : Policy) (operations : List Operation) :
    List.Forall₂ (Operation.Records p.target) (p.succeeding operations)
      (Operation.made p.target operations) := by
  -- A grant that is made does not change the target, for which the rest of the run is compared.
  induction operations generalizing p with
  | nil => exact .nil
  | cons o rest ih =>
      rw [succeeding, o.apply_eq_step, GrantStep.apply_eq, Operation.made, List.filterMap_cons]
      cases hg : o.step.grant? p.target with
      | none => exact ih p
      | some g => exact .cons (Operation.grant?_eq_some_iff.1 hg) (ih (p.record g))

/-- A run on a fresh policy keeps, for each effect, one grant for each operation with that effect
that succeeds, in order. -/
theorem forall₂_grants_run (principal : String) (t : Target) (operations : List Operation)
    (effect : Effect) :
    List.Forall₂ (Operation.Records t)
      (((Policy.new principal t).succeeding operations).filter (·.step.effect = effect))
      (((Policy.new principal t).run operations).grants effect) := by
  rw [run_eq]
  refine List.rel_filter (fun o g hrecords => ?_) (forall₂_made (Policy.new principal t) operations)
  show decide (o.step.effect = effect) = true ↔ decide (g.effect = effect) = true
  rw [hrecords.effect]

/-- A run in which no operation succeeds leaves a policy without a response. -/
theorem build_run_eq_error_iff (principal : String) (t : Target) {failure : Failure} :
    ((Policy.new principal t).run operations).build = .error failure ↔
      (Policy.new principal t).succeeding operations = [] ∧ failure = .noStatements := by
  have hmade := forall₂_made (Policy.new principal t) operations
  have hnil : (Policy.new principal t).succeeding operations = [] ↔
      Operation.made t operations = [] := by
    rw [← List.length_eq_zero_iff, hmade.length_eq, List.length_eq_zero_iff]
    rfl
  rw [build_eq_error_iff, run_eq, hnil]
  rfl

/-- Operations on paths of the grammar are carried out one after another in a chain. -/
theorem chain_append {before : List Operation} (h : ∀ o ∈ before, IsPath o.step.path) (p : Policy)
    (after : List Operation) : p.chain (before ++ after) = (p.run before).chain after := by
  induction before generalizing p with
  | nil => rfl
  | cons o rest ih =>
      rw [List.forall_mem_cons] at h
      obtain ⟨g, -, hg⟩ := Operation.exists_apply_of_isPath h.1 p
      rw [List.cons_append, chain, hg, run_cons, attempt_of_ok hg]
      exact ih h.2 _

end Policy

/-! ## The ledger -/

/-- What a fresh policy for a principal and a target is after a run of operations, of which any may
fail. -/
structure Ledger (principal : String) (t : Target) (operations : List Operation) : Prop where
  /-- Principal and target are those that were given. -/
  owner : ((Policy.new principal t).run operations).principal = principal ∧
    ((Policy.new principal t).run operations).target = t
  /-- The grants of an effect are, in order, one for each successful operation with this effect. -/
  grants : ∀ effect, List.Forall₂ (Operation.Records t)
    (((Policy.new principal t).succeeding operations).filter (·.step.effect = effect))
    (((Policy.new principal t).run operations).grants effect)
  /-- Which operations succeed is decided by their paths alone. -/
  success : (Policy.new principal t).succeeding operations =
    operations.filter fun o => IsPath o.step.path
  /-- An operation fails just if its path is outside the grammar. -/
  failure : ∀ before o after, operations = before ++ o :: after → ∀ failure,
    o.apply ((Policy.new principal t).run before) = .error failure ↔
      ¬ IsPath o.step.path ∧ failure = .invalidPath o.step.path
  /-- Behind an operation that fails the policy is the one that was there before it. -/
  unchanged : ∀ before o after failure, operations = before ++ o :: after →
    o.apply ((Policy.new principal t).run before) = .error failure →
      (Policy.new principal t).run (before ++ [o]) = (Policy.new principal t).run before
  /-- There is no response just if no operation succeeds, and that is the failure. -/
  response : ∀ failure, ((Policy.new principal t).run operations).build = .error failure ↔
    (Policy.new principal t).succeeding operations = [] ∧ failure = .noStatements
  /-- A chain without failures is a run. -/
  chained : (∀ o ∈ operations, IsPath o.step.path) →
    (Policy.new principal t).chain operations = ((Policy.new principal t).run operations, none)
  /-- A chain that fails keeps what was granted before. -/
  broken : ∀ before o after, operations = before ++ o :: after →
    (∀ o' ∈ before, IsPath o'.step.path) → ¬ IsPath o.step.path →
      (Policy.new principal t).chain operations =
        ((Policy.new principal t).run before, some (.invalidPath o.step.path))

/-- Every run of operations leaves its ledger. As a point of a run is the end of its first
operations, that is so at every point. -/
theorem ledger_run (principal : String) (t : Target) (operations : List Operation) :
    Ledger principal t operations where
  owner := by
    rw [Policy.run_eq]
    exact ⟨rfl, rfl⟩
  grants := Policy.forall₂_grants_run principal t operations
  success := Policy.succeeding_eq_filter (Policy.new principal t) operations
  failure _ _ _ _ _ := Operation.apply_eq_error_iff
  unchanged before o after failure _ h := by
    rw [Policy.run_append]
    exact Policy.attempt_of_error h
  response _ := Policy.build_run_eq_error_iff principal t
  chained h := by
    have hchain := Policy.chain_append h (Policy.new principal t) []
    rwa [List.append_nil] at hchain
  broken before o after heq hbefore h := by
    rw [heq, Policy.chain_append hbefore, Policy.chain, Operation.apply_of_not_isPath h]

/-- A chain that fails at a path with a blank keeps the denial before it, and a run goes on behind
it. -/
theorem ledger_run_blank :
    (Policy.new "user" ⟨"eu-west-1", "1", "api", "prod", "aws"⟩).chain
        [.deny .delete "/a", .allowIf .get "/a b" (SortedMap.ofList [("IpAddress", ∅)]),
          .allowAll] =
      ((Policy.new "user" ⟨"eu-west-1", "1", "api", "prod", "aws"⟩).run [.deny .delete "/a"],
        some (.invalidPath "/a b")) ∧
    (Policy.new "user" ⟨"eu-west-1", "1", "api", "prod", "aws"⟩).run
        ([.deny .delete "/a"] ++ [.allowIf .get "/a b" (SortedMap.ofList [("IpAddress", ∅)])]) =
      (Policy.new "user" ⟨"eu-west-1", "1", "api", "prod", "aws"⟩).run [.deny .delete "/a"] ∧
    (Policy.new "user" ⟨"eu-west-1", "1", "api", "prod", "aws"⟩).succeeding
        [.deny .delete "/a", .allowIf .get "/a b" (SortedMap.ofList [("IpAddress", ∅)]),
          .allowAll] = [.deny .delete "/a", .allowAll] := by
  have hblank : ¬ IsPath "/a b" := by decide
  have hledger := ledger_run "user" ⟨"eu-west-1", "1", "api", "prod", "aws"⟩
    [.deny .delete "/a", .allowIf .get "/a b" (SortedMap.ofList [("IpAddress", ∅)]), .allowAll]
  refine ⟨hledger.broken [.deny .delete "/a"] _ [.allowAll] rfl ?_ hblank,
    hledger.unchanged [.deny .delete "/a"] _ [.allowAll] _ rfl
      ((hledger.failure [.deny .delete "/a"] _ [.allowAll] rfl _).2 ⟨hblank, rfl⟩), ?_⟩
  · rw [List.forall_mem_singleton]
    decide
  · rw [hledger.success]
    rfl

end GatewayAccess
