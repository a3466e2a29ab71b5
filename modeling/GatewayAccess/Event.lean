import GatewayAccess.Json.Record

/-! # Authorizer events

The request of a gateway: an authorization header and the ARN of the invoked method. As JSON text it
is a record, whose type is optional and means nothing here.
-/

namespace GatewayAccess

/-- A request to authorize. -/
structure Event where
  kind : Option String
  authorization : String
  methodArn : String
deriving DecidableEq, Repr

namespace Event

/-- The event of an authorization header and a method ARN. -/
def ofToken (authorization methodArn : String) : Event := ⟨some "TOKEN", authorization, methodArn⟩

/-- The type field: a text, or null. -/
def kind? : Json.Tree → Option (Option String)
  | .null => some none
  | .string s => s.map some
  | _ => none

/-- The event of a JSON tree. The type may be absent from an object. -/
def ofTree? (t : Json.Tree) : Option Event := do
  match ← t.record? ["type", "authorizationToken", "methodArn"] with
  | [kind, some authorization, some methodArn] =>
      return {
        kind := ← (kind.map kind?).getD (some none)
        authorization := ← authorization.string?
        methodArn := ← methodArn.string? }
  | _ => none

/-- The event of a JSON text. -/
def read? (text : String) : Option Event := (Json.Tree.read? text).bind ofTree?

end Event

end GatewayAccess
