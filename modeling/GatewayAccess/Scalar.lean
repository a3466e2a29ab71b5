import GatewayAccess.Json.Record
import GatewayAccess.Json.Value

/-! # Scalars

The values that the context of a response may carry: a truth value, a number or a text. The three
kinds are told apart by their JSON form alone.
-/

namespace GatewayAccess

/-- A value without parts. -/
inductive Scalar where
  | bool (b : Bool)
  | number (n : Json.Number)
  | text (s : String)
deriving DecidableEq

namespace Scalar

/-- Scalars of the same kind and value. -/
def same : Scalar → Scalar → Bool
  | bool a, bool b => a == b
  | number m, number n => m == n
  | text s, text t => s == t
  | _, _ => false

instance : BEq Scalar := ⟨same⟩

/-- The text of a scalar that is one. -/
def text? : Scalar → Option String
  | text s => some s
  | _ => none

/-- The scalar as a JSON value. -/
def toJson : Scalar → Json
  | bool b => ⟨.bool b, .bool b⟩
  | number n => ⟨.number n, .number n⟩
  | text s => ⟨.string s, .string s⟩

/-- The scalar of a JSON value; null, arrays and objects are none. -/
def ofJson? (v : Json) : Option Scalar :=
  match v.raw with
  | .bool b => some (bool b)
  | .number n => some (number n)
  | .string s => some (text s)
  | _ => none

/-- The scalar of a tree. -/
def ofTree? : Json.Tree → Option Scalar
  | .bool b => some (bool b)
  | .number n => n.number?.map number
  | .string s => s.map text
  | _ => none

/-- The scalar of a JSON text. -/
def read? (text : String) : Option Scalar := (Json.Tree.read? text).bind ofTree?

/-- The tree of a scalar. -/
def tree (s : Scalar) : Json.Tree := s.toJson.tree

/-- The JSON text of a scalar. -/
def jsonText (s : Scalar) : String := s.tree.text

end Scalar

end GatewayAccess
