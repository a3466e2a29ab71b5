import GatewayAccess.Claims
import GatewayAccess.Policy

/-! # Grant policies

A grant policy decides which grants an authenticated principal gets: it extends the policy of the
request, or fails. Policies can be written as lists of steps, run in order until one fails, each of
them restricted to some user types if need be.
-/

namespace GatewayAccess

/-- Extends the policy of a request by the grants for an identity. -/
abbrev GrantPolicy := Claims → Policy → Except Failure Policy

/-- A grant that a step makes. -/
structure GrantStep where
  effect : Effect
  verb : Verb
  path : String
  conditions : Conditions := ∅

namespace GrantStep

/-- The step that gives an effect to every verb on every path of the stage. -/
def everything (effect : Effect) : GrantStep := { effect, verb := .all, path := "*" }

/-- Makes the grant. -/
def apply (s : GrantStep) (p : Policy) : Except Failure Policy :=
  p.add s.effect s.verb s.path s.conditions

end GrantStep

/-- A grant as it is written down, with names instead of an effect and a verb. -/
structure GrantRequest where
  effect : String
  verb : String
  path : String
  conditions : Option Json := none

namespace GrantRequest

/-- The step that is meant. The effect is looked at first, then the verb and the conditions; absent
conditions are empty. -/
def resolve (r : GrantRequest) : Except Failure GrantStep := do
  let effect ← Effect.ofName r.effect
  let verb ← Verb.ofToken r.verb
  let conditions ← (r.conditions.map Conditions.ofJson).getD (.ok ∅)
  return { effect, verb, path := r.path, conditions }

/-- Makes the grant that is meant. -/
def apply (r : GrantRequest) (p : Policy) : Except Failure Policy := do
  (← r.resolve).apply p

end GrantRequest

/-- The user types for which a step is run. Only a user type that is a text has a name. -/
structure Guard where
  /-- If given, the step is run for this user type alone. -/
  onlyFor : Option String := none
  /-- If given, the step is not run for this user type. -/
  exceptFor : Option String := none

namespace Guard

/-- Whether a step is run for an identity. -/
def admits (g : Guard) (claims : Claims) : Bool :=
  g.onlyFor.all (claims.userType.text? = some ·) &&
    g.exceptFor.all (claims.userType.text? ≠ some ·)

end Guard

namespace GrantPolicy

/-- Allows every verb on every path of the stage. -/
def allowAll : GrantPolicy := fun _ p => p.allowAll

/-- Denies every verb on every path of the stage. -/
def denyAll : GrantPolicy := fun _ p => p.denyAll

/-- Runs a policy for the identities that a guard admits, and makes no grants for others. -/
def guarded (guard : Guard) (policy : GrantPolicy) : GrantPolicy := fun claims p =>
  if guard.admits claims then policy claims p else .ok p

/-- Runs policies one after another. The first failure ends it. -/
def sequence (policies : List GrantPolicy) : GrantPolicy := fun claims p =>
  policies.foldlM (fun p policy => policy claims p) p

/-- Runs grant steps one after another, each for the identities that its guard admits. -/
def ofSteps (steps : List (Guard × GrantStep)) : GrantPolicy :=
  sequence (steps.map fun s => guarded s.1 fun _ p => s.2.apply p)

/-- Runs written grants one after another, each for the identities that its guard admits. -/
def ofRequests (requests : List (Guard × GrantRequest)) : GrantPolicy :=
  sequence (requests.map fun r => guarded r.1 fun _ p => r.2.apply p)

end GrantPolicy

end GatewayAccess
