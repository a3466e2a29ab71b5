import GatewayAccess.Path
import GatewayAccess.Text.Quoted

/-! # The wording of failures -/

namespace GatewayAccess.Failure

/-- The message of a failure. That of a rejection shows no cause. -/
def message : Failure → String
  | unauthorized => "Unauthorized"
  | unknownVerb token =>
      "Invalid HTTP verb " ++ token ++
        ". Allowed verbs are GET, POST, PUT, PATCH, HEAD, DELETE, OPTIONS and *."
  | invalidPath path =>
      "Invalid resource path: " ++ path ++ ". Path should match " ++ Path.pattern ++ "."
  | noStatements => "No statements defined for the policy."
  | malformedMethodArn text => "Malformed method ARN " ++ text ++ "."
  | configuration reason => "An error occurred configuring the authorizer: " ++ reason ++ "."
  | serialization reason =>
      "An error occurred serializing the authorizer response " ++ reason ++ "."
  | unknownEffect name => "unrecognized policy effect " ++ quoted name
  | malformedConditions => "Conditions are not an object of objects."

instance : ToString Failure := ⟨message⟩

end GatewayAccess.Failure
