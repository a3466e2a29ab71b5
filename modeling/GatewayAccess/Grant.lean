import GatewayAccess.Effect
import GatewayAccess.Json.Value

/-! # Conditions and grants

A grant allows or denies one resource, named by its ARN. Conditions restrict it: they map operators
to condition keys and these to values, as in `IpAddress` ↦ `aws:SourceIp` ↦ `203.0.113.0/24`. What
the operators mean is the business of whoever evaluates the policy.
-/

namespace GatewayAccess

/-- Conditions of a grant, by operator and condition key. -/
abbrev Conditions := SortedMap (SortedMap Json)

namespace Conditions

/-- The conditions of a JSON value that is an object of objects. -/
def ofJson? (v : Json) : Option Conditions := v.object?.bind fun m => m.mapM? Json.object?

/-- The conditions of a JSON value, or the failure that it has another shape. -/
def ofJson (v : Json) : Except Failure Conditions :=
  match ofJson? v with
  | some conditions => .ok conditions
  | none => .error .malformedConditions

end Conditions

/-- The tree of a map, given that of its values. -/
def SortedMap.tree {α : Type} (valueTree : α → Json.Tree) (m : SortedMap α) : Json.Tree :=
  .object (m.entries.map fun e => (some e.1, valueTree e.2))

/-- The tree of conditions. -/
def Conditions.tree (c : Conditions) : Json.Tree :=
  SortedMap.tree (SortedMap.tree Json.tree) c

/-- A declaration about one resource. -/
structure Grant where
  effect : Effect
  resource : String
  conditions : Conditions
deriving BEq

namespace Grant

/-- Whether the grant has conditions. An operator without keys is one. -/
def isConditional (g : Grant) : Bool := !g.conditions.isEmpty

end Grant

end GatewayAccess
