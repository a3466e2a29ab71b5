import GatewayAccess.GrantPolicy

/-! # The grants that a policy keeps

Each operation on a policy is a grant step, and a step either adds one grant or fails and adds none:
`GrantStep.apply_eq`. Over a run of operations, of which any may fail, the policy keeps its
principal and its target and gets the grants of those that succeed, in order: `run_eq`.
-/

namespace GatewayAccess

/-! ## Grant steps -/

/-- The policy with one more grant. -/
def Policy.record (p : Policy) (g : Grant) : Policy := { p with granted := p.granted ++ [g] }

namespace GrantStep

/-- The grant that a step makes on a target; none if the path of the step is none. -/
def grant? (s : GrantStep) (t : Target) : Option Grant :=
  (t.resourceArn s.verb s.path).toOption.map fun resource => ⟨s.effect, resource, s.conditions⟩

/-- A step on a path of the grammar grants the verb on that path of the target. -/
theorem grant?_of_isPath {s : GrantStep} (h : IsPath s.path) (t : Target) :
    s.grant? t = some ⟨s.effect, t.methodArn s.verb ⟨s.path, h⟩, s.conditions⟩ := by
  rw [grant?, Target.resourceArn, Path.ofText, dif_pos h]
  rfl

/-- A step on any other path grants nothing. -/
theorem grant?_of_not_isPath {s : GrantStep} (h : ¬ IsPath s.path) (t : Target) :
    s.grant? t = none := by
  rw [grant?, Target.resourceArn, Path.ofText, dif_neg h]
  rfl

/-- A step adds its grant; one without a grant fails with its path. -/
theorem apply_eq (s : GrantStep) (p : Policy) :
    s.apply p =
      match s.grant? p.target with
      | some g => .ok (p.record g)
      | none => .error (.invalidPath s.path) := by
  by_cases h : IsPath s.path
  · rw [grant?_of_isPath h, apply, Policy.add, Target.resourceArn, Path.ofText, dif_pos h]
    rfl
  · rw [grant?_of_not_isPath h, apply, Policy.add, Target.resourceArn, Path.ofText, dif_neg h]
    rfl

/-- A step succeeds just if it has a grant, which it adds. -/
theorem apply_eq_ok_iff {s : GrantStep} {p q : Policy} :
    s.apply p = .ok q ↔ ∃ g, s.grant? p.target = some g ∧ q = p.record g := by
  rw [apply_eq]
  cases s.grant? p.target with
  | none => simp only [reduceCtorEq, false_and, exists_false]
  | some g => simp only [Except.ok.injEq, Option.some.injEq, exists_eq_left', eq_comm]

end GrantStep

/-! ## Operations -/

/-- The operations that add a grant to a policy. -/
inductive Operation where
  | add (effect : Effect) (verb : Verb) (path : String) (conditions : Conditions)
  | allow (verb : Verb) (path : String)
  | deny (verb : Verb) (path : String)
  | allowIf (verb : Verb) (path : String) (conditions : Conditions)
  | denyIf (verb : Verb) (path : String) (conditions : Conditions)
  | allowAll
  | denyAll

namespace Operation

/-- Carries out an operation. -/
def apply : Operation → Policy → Except Failure Policy
  | add effect verb path conditions, p => p.add effect verb path conditions
  | allow verb path, p => p.allow verb path
  | deny verb path, p => p.deny verb path
  | allowIf verb path conditions, p => p.allow verb path conditions
  | denyIf verb path conditions, p => p.deny verb path conditions
  | allowAll, p => p.allowAll
  | denyAll, p => p.denyAll

/-- The grant step that an operation amounts to. -/
def step : Operation → GrantStep
  | add effect verb path conditions => { effect, verb, path, conditions }
  | allow verb path => { effect := .allow, verb, path }
  | deny verb path => { effect := .deny, verb, path }
  | allowIf verb path conditions => { effect := .allow, verb, path, conditions }
  | denyIf verb path conditions => { effect := .deny, verb, path, conditions }
  | allowAll => .everything .allow
  | denyAll => .everything .deny

theorem apply_eq_step (o : Operation) (p : Policy) : o.apply p = o.step.apply p := by
  cases o <;> rfl

/-- The grants that operations make on a target, in order. Operations that fail make none. -/
def made (t : Target) (operations : List Operation) : List Grant :=
  operations.filterMap fun o => o.step.grant? t

end Operation

/-! ## Runs -/

namespace Policy

/-- Carries out an operation; if it fails the policy stays as it is. -/
def attempt (p : Policy) (o : Operation) : Policy :=
  match o.apply p with
  | .ok q => q
  | .error _ => p

/-- Carries out operations one after another, also behind one that fails. -/
def run (p : Policy) (operations : List Operation) : Policy := operations.foldl attempt p

/-- Some operation of a run succeeds when it is reached. -/
def Succeeds (p : Policy) (operations : List Operation) : Prop :=
  ∃ before o after q, operations = before ++ o :: after ∧ o.apply (p.run before) = .ok q

/-- An attempt adds the grant of the operation, if it has one. -/
theorem attempt_eq (p : Policy) (o : Operation) :
    p.attempt o = (o.step.grant? p.target).elim p p.record := by
  rw [attempt, o.apply_eq_step, GrantStep.apply_eq]
  cases o.step.grant? p.target with
  | none => rfl
  | some g => rfl

/-- A run adds the grants of the operations that succeed, and changes nothing else. -/
theorem run_eq (p : Policy) (operations : List Operation) :
    p.run operations = { p with granted := p.granted ++ Operation.made p.target operations } := by
  -- The attempt at the head changes the grants only, so the rest makes the same ones on its result.
  induction operations generalizing p with
  | nil => rw [run, List.foldl_nil, Operation.made, List.filterMap_nil, List.append_nil]
  | cons o rest ih =>
      have hrun : p.run (o :: rest) = (p.attempt o).run rest := rfl
      rw [hrun, ih, attempt_eq, Operation.made, Operation.made, List.filterMap_cons]
      cases hg : o.step.grant? p.target with
      | none => rfl
      | some g =>
          simp only [Option.elim_some, record, List.append_assoc, List.singleton_append]

/-- Some operation of a run succeeds just if the run makes a grant. -/
theorem succeeds_iff {p : Policy} {operations : List Operation} :
    p.Succeeds operations ↔ Operation.made p.target operations ≠ [] := by
  constructor
  · rintro ⟨before, o, after, q, rfl, hq⟩
    rw [o.apply_eq_step, GrantStep.apply_eq_ok_iff, run_eq] at hq
    obtain ⟨g, hg, -⟩ := hq
    refine List.ne_nil_of_mem (a := g) (List.mem_filterMap.2 ⟨o, ?_, hg⟩)
    exact List.mem_append_right _ List.mem_cons_self
  · intro h
    obtain ⟨g, hg⟩ := List.exists_mem_of_ne_nil _ h
    obtain ⟨o, ho, hgrant⟩ := List.mem_filterMap.1 hg
    obtain ⟨before, after, rfl⟩ := List.append_of_mem ho
    refine ⟨before, o, after, (p.run before).record g, rfl, ?_⟩
    rw [o.apply_eq_step, GrantStep.apply_eq_ok_iff, run_eq]
    exact ⟨g, hgrant, rfl⟩

/-- A run in which an operation succeeds leaves a policy with a grant. -/
theorem granted_run_ne_nil {p : Policy} {operations : List Operation} (h : p.Succeeds operations) :
    (p.run operations).granted ≠ [] := by
  rw [run_eq]
  exact List.append_ne_nil_of_right_ne_nil _ (succeeds_iff.1 h)

end Policy

end GatewayAccess
