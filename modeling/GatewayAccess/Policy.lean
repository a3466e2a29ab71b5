import GatewayAccess.Response
import GatewayAccess.Target

/-! # Policies

The policy of one request collects grants for a principal on a target. Grants are only ever added,
and a grant that fails leaves the policy as it was. The policy keeps its grants in the order in
which they were made; the document puts those that allow before those that deny.
-/

namespace GatewayAccess

/-- The policy of a principal on a target. -/
structure Policy where
  principal : String
  target : Target
  granted : List Grant := []

namespace Policy

/-- The policy without grants. -/
def new (principal : String) (target : Target) : Policy := { principal, target }

/-- The grants of an effect, in the order in which they were made. -/
def grants (p : Policy) (effect : Effect) : List Grant := p.granted.filter (·.effect = effect)

/-- Grants or denies a verb on a path, under conditions. -/
def add (p : Policy) (effect : Effect) (verb : Verb) (path : String) (conditions : Conditions) :
    Except Failure Policy := do
  let resource ← p.target.resourceArn verb path
  return { p with granted := p.granted ++ [⟨effect, resource, conditions⟩] }

/-- Allows a verb on a path, under conditions if any are given. -/
def allow (p : Policy) (verb : Verb) (path : String) (conditions : Conditions := ∅) :
    Except Failure Policy :=
  p.add .allow verb path conditions

/-- Denies a verb on a path, under conditions if any are given. -/
def deny (p : Policy) (verb : Verb) (path : String) (conditions : Conditions := ∅) :
    Except Failure Policy :=
  p.add .deny verb path conditions

/-- Allows every verb on every path of the stage. -/
def allowAll (p : Policy) : Except Failure Policy := p.allow .all "*"

/-- Denies every verb on every path of the stage. -/
def denyAll (p : Policy) : Except Failure Policy := p.deny .all "*"

/-- The statements of the grants, those that allow first. -/
def statements (p : Policy) : List Statement :=
  Statement.compile .allow (p.grants .allow) ++ Statement.compile .deny (p.grants .deny)

/-- A policy with a grant has a statement. -/
theorem statements_ne_nil {p : Policy} (h : p.granted ≠ []) : p.statements ≠ [] := by
  obtain ⟨g, hg⟩ := List.exists_mem_of_ne_nil _ h
  have hmem : g ∈ p.grants g.effect := List.mem_filter.2 ⟨hg, by simp⟩
  have hne := Statement.compile_ne_nil hmem rfl
  cases he : g.effect with
  | allow =>
      rw [he] at hne
      simp [statements, hne]
  | deny =>
      rw [he] at hne
      simp [statements, hne]

/-- The response of the policy, with an empty context. There is none without a grant. -/
def build (p : Policy) : Except Failure Response :=
  if h : p.granted = [] then .error .noStatements
  else
    .ok
      { principal := p.principal
        document := ⟨p.statements, statements_ne_nil h⟩
        context := ∅ }

end Policy

end GatewayAccess
