import GatewayAccess.Failure
import GatewayAccess.Json.Record

/-! # Effects

What a grant does to a request that it matches. Grant policies may name effects in any casing; in
JSON text only the exact names stand for them.
-/

namespace GatewayAccess

/-- The effect of a grant. -/
inductive Effect where
  | allow
  | deny
deriving DecidableEq, Repr

namespace Effect

/-- Both effects. -/
def variants : List Effect := [allow, deny]

/-- The name of an effect. -/
def name : Effect → String
  | allow => "Allow"
  | deny => "Deny"

instance : ToString Effect := ⟨name⟩

/-- A text with ASCII capitals made small. -/
def lowerCase (text : String) : List Char := text.toList.map Char.toLower

/-- The effect with a name in any casing, or the failure that shows the name. -/
def ofName (text : String) : Except Failure Effect :=
  match variants.find? fun e => lowerCase e.name = lowerCase text with
  | some e => .ok e
  | none => .error (.unknownEffect text)

/-- The effect of a JSON tree, in which names are exact. -/
def ofTree? (t : Json.Tree) : Option Effect :=
  t.constantName?.bind fun text => variants.find? (·.name = text)

/-- The tree of an effect. -/
def tree (e : Effect) : Json.Tree := .string (some e.name)

end Effect

end GatewayAccess
