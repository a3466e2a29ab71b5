import GatewayAccess.Event
import GatewayAccess.GrantPolicy
import GatewayAccess.MethodArn
import GatewayAccess.Run

/-! # Authorizers

An authorizer answers requests: it checks the bearer token through a verifier, lets a grant policy
decide, and returns the response with the identity in its context. Rejected credentials all give the
same failure; why they were rejected is only logged.
-/

namespace GatewayAccess

/-- Returns the claims of a token, or why it is turned down. -/
abbrev Verifier := String → Except String RawClaims

/-- What an authorization header begins with, before the token. -/
def bearerPrefix : String := "Bearer "

/-- The token of an authorization header that carries one. -/
def bearerToken? (authorization : String) : Option String :=
  if bearerPrefix.toList.isPrefixOf authorization.toList then
    some (String.ofList (authorization.toList.drop bearerPrefix.length))
  else none

/-- Logs why credentials are rejected, and rejects them. -/
def reject {α : Type} (event : LogEvent) : Run α := do
  Run.record event
  Run.fail .unauthorized

/-- The identity that an authorization header proves. The verifier is asked only if the header
carries a bearer token. -/
def extractClaims (authorization : String) (verifier : Verifier) : Run Claims :=
  match bearerToken? authorization with
  | none => reject .notBearer
  | some token => do
      match ← Run.consult verifier token with
      | .error reason => reject (.notVerified reason)
      | .ok raw =>
          match Claims.ofRaw raw with
          | .error fault => reject (.noIdentity fault.message)
          | .ok claims => return claims

/-- The response of a policy; its numbers are logged. -/
def Policy.compile (p : Policy) : Run Response := do
  let response ← p.build
  Run.record <|
    .compiled p.principal (p.grants .allow).length (p.grants .deny).length
      response.document.statements.length
  return response

/-- Answers requests by a verifier and a grant policy. -/
structure Authorizer where
  verifier : Verifier
  policy : GrantPolicy

namespace Authorizer

/-- The authorizer with the given parts. The verifier has to be there; without a grant policy
everything is allowed. -/
def build (verifier : Option Verifier) (policy : GrantPolicy := GrantPolicy.allowAll) :
    Except Failure Authorizer :=
  match verifier with
  | some verifier => .ok { verifier, policy }
  | none => .error (.configuration "token verifier is not set")

/-- Answers a request. Credentials are checked before the method ARN, and this before any grant is
made. -/
def authorize (a : Authorizer) (event : Event) : Run Response := do
  Run.record (.authorizing event.methodArn)
  let claims ← extractClaims event.authorization a.verifier
  let invoked ← MethodArn.ofText event.methodArn
  let policy ← a.policy claims (Policy.new claims.principal invoked.target)
  let response ← policy.compile
  let response := claims.contextEntries.foldl (fun r e => r.insertContext e.1 e.2) response
  Run.record (.authorized response.principal)
  return response

/-- Answers a request that is given as JSON text with a response as JSON text. Why a text is no
event is for the reader of JSON to say, `diagnose`, and for the log only. -/
def authorizeText (a : Authorizer) (diagnose : String → String) (text : String) : Run String :=
  match Event.read? text with
  | none => reject (.malformedEvent (diagnose text))
  | some event => return (← a.authorize event).jsonText

end Authorizer

end GatewayAccess
