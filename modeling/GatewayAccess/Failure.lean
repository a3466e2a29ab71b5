/-! # Failures

Why an operation of this library fails. Only `unauthorized` is meant for the caller of the gateway,
and it tells nothing about its cause; every other failure is a defect of the grant policy, of its
input or of the configuration.
-/

namespace GatewayAccess

/-- The cause of a failure. -/
inductive Failure where
  /-- The credentials are rejected. -/
  | unauthorized
  /-- A verb token that is none. -/
  | unknownVerb (token : String)
  /-- A path outside the path grammar. -/
  | invalidPath (path : String)
  /-- A policy without a single grant. -/
  | noStatements
  /-- A text that is no method ARN. -/
  | malformedMethodArn (text : String)
  /-- An authorizer that cannot be set up. -/
  | configuration (reason : String)
  /-- A response that cannot be written. -/
  | serialization (reason : String)
  /-- An effect name other than allow and deny. -/
  | unknownEffect (name : String)
  /-- Conditions that are no object of objects. -/
  | malformedConditions
deriving DecidableEq, Repr

namespace Failure

/-- Whether the failure is a rejection of the caller and no defect. -/
def isUnauthorized : Failure → Bool
  | unauthorized => true
  | _ => false

/-- The failure that is behind this one, as a text. -/
def source? : Failure → Option String
  | serialization reason => some reason
  | _ => none

end Failure

end GatewayAccess
