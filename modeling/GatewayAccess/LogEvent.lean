/-! # Log events

What is logged while a request is answered, with the level, the message and the fields of each
event. What went wrong is told in the words of whoever has found it: the verifier, the reader of
claims, or the reader of JSON.
-/

namespace GatewayAccess

/-- The weight of a logged event. -/
inductive LogLevel where
  | debug
  | info
  | warn
deriving DecidableEq, Repr

namespace LogLevel

/-- The name of a level. -/
def name : LogLevel → String
  | debug => "DEBUG"
  | info => "INFO"
  | warn => "WARN"

end LogLevel

/-- What is logged. -/
inductive LogEvent where
  /-- A request has come in. -/
  | authorizing (methodArn : String)
  /-- The authorization header does not carry a bearer token. -/
  | notBearer
  /-- The verifier has turned a token down. -/
  | notVerified (reason : String)
  /-- The claims of a token are no identity. -/
  | noIdentity (reason : String)
  /-- A text is no authorizer event, for the reason that the reader of JSON gives. -/
  | malformedEvent (reason : String)
  /-- The grants of a policy are compiled; counts of grants and of statements. -/
  | compiled (principal : String) (allow deny statements : Nat)
  /-- A request has been answered. -/
  | authorized (principal : String)
deriving DecidableEq, Repr

namespace LogEvent

/-- The level at which an event is logged. -/
def level : LogEvent → LogLevel
  | authorizing _ | authorized _ => .info
  | compiled .. => .debug
  | notBearer | notVerified _ | noIdentity _ | malformedEvent _ => .warn

/-- The message of an event. -/
def message : LogEvent → String
  | authorizing _ => "authorizing request"
  | notBearer => "authorization token is not a bearer token"
  | notVerified _ => "bearer token failed verification"
  | noIdentity _ => "bearer token lacks identity claims"
  | malformedEvent _ => "malformed authorizer event"
  | compiled .. => "compiled policy statements"
  | authorized _ => "request authorized"

/-- The fields of an event: texts as texts, counts as numbers. -/
def fields : LogEvent → List (String × (String ⊕ Nat))
  | authorizing methodArn => [("method_arn", .inl methodArn)]
  | notBearer => []
  | notVerified reason | noIdentity reason | malformedEvent reason => [("error", .inl reason)]
  | compiled principal allow deny statements =>
      [("principal_id", .inl principal), ("allow", .inr allow), ("deny", .inr deny),
        ("statements", .inr statements)]
  | authorized principal => [("principal_id", .inl principal)]

end LogEvent

end GatewayAccess
