import GatewayAccess.Scalar

/-! # Identity claims

The claims that every session token has to carry: an email address, which is the principal, and a
user type and a user identifier, which are scalars. Other claims are passed over. When claims are
rejected, a fault says why: the values that are there are looked at first, in the order of their
names, and only then is a missing one reported.
-/

namespace GatewayAccess

/-- Claims as a verifier returns them, by name. -/
abbrev RawClaims := SortedMap Json

/-- The identity that a session token proves. -/
structure Claims where
  email : String
  userType : Scalar
  userId : Scalar
deriving BEq

/-- Why claims are rejected. -/
inductive ClaimFault where
  /-- A value that should be a text and is something else. -/
  | notText (found : Json)
  /-- A value that should be a scalar and is none. -/
  | notScalar
  /-- A claim that is not there. -/
  | missing (name : String)

namespace ClaimFault

/-- How a message names what a JSON value is. -/
def describe (v : Json) : String :=
  match v.raw with
  | .null => "null"
  | .bool true => "boolean `true`"
  | .bool false => "boolean `false`"
  | .number (.double _) => "floating point `" ++ v.text ++ "`"
  | .number _ => "integer `" ++ v.text ++ "`"
  | .string _ => "string " ++ v.text
  | .array _ => "sequence"
  | .object _ => "map"

/-- The message of a fault. -/
def message : ClaimFault → String
  | notText found => "invalid type: " ++ describe found ++ ", expected a string"
  | notScalar => "data did not match any variant of untagged enum ContextValue"
  | missing name => "missing field `" ++ name ++ "`"

end ClaimFault

namespace Claims

/-- The name of the claim with the email address. -/
def emailKey : String := "emailAddress"

/-- The name of the claim with the user type. -/
def userTypeKey : String := "userType"

/-- The name of the claim with the user identifier. -/
def userIdKey : String := "userId"

/-- The text that a claim has as its value. -/
def textOf (v : Json) : Except ClaimFault String :=
  match v.string? with
  | some s => .ok s
  | none => .error (.notText v)

/-- The scalar that a claim has as its value. -/
def scalarOf (v : Json) : Except ClaimFault Scalar :=
  match Scalar.ofJson? v with
  | some s => .ok s
  | none => .error .notScalar

/-- The value of a claim, if the claim is there. -/
def optional {α : Type} (value : Json → Except ClaimFault α) (raw : RawClaims) (name : String) :
    Except ClaimFault (Option α) :=
  match raw.get? name with
  | none => .ok none
  | some v => (value v).map some

/-- The value of a claim that has to be there. -/
def required {α : Type} (name : String) : Option α → Except ClaimFault α
  | some v => .ok v
  | none => .error (.missing name)

/-- The identity among the claims of a verifier. -/
def ofRaw (raw : RawClaims) : Except ClaimFault Claims := do
  let email ← optional textOf raw emailKey
  let userId ← optional scalarOf raw userIdKey
  let userType ← optional scalarOf raw userTypeKey
  return {
    email := ← required emailKey email
    userType := ← required userTypeKey userType
    userId := ← required userIdKey userId }

/-- The identity in a JSON tree, a record of the three claims. -/
def ofTree? (t : Json.Tree) : Option Claims := do
  match ← t.record? [emailKey, userTypeKey, userIdKey] with
  | [some email, some userType, some userId] =>
      return {
        email := ← email.string?
        userType := ← Scalar.ofTree? userType
        userId := ← Scalar.ofTree? userId }
  | _ => none

/-- The principal for whom a policy is issued. -/
def principal (c : Claims) : String := c.email

/-- The entries that the context of a response gets. -/
def contextEntries (c : Claims) : List (String × Scalar) :=
  [(emailKey, .text c.email), (userTypeKey, c.userType), (userIdKey, c.userId)]

end Claims

end GatewayAccess
