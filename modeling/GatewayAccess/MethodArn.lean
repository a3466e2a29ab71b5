import GatewayAccess.Target
import GatewayAccess.Text.Segments

/-! # ARNs of invoked methods

The text `arn:partition:execute-api:region:account:api/stage/verb/path` names an invoked method.
Verb and path may be absent and are arbitrary texts otherwise; the pieces before them must not be
empty.
-/

namespace GatewayAccess

/-- An invoked method of a stage. Verb and path are empty when the ARN ends before them. -/
structure MethodArn where
  target : Target
  verb : String
  path : String
deriving DecidableEq, Repr

namespace MethodArn

/-- The part of the ARN behind the account: API, stage, verb and path, cut at the first three
slashes. Absent parts are empty. -/
def resourceParts (resource : List Char) :
    List Char × List Char × List Char × List Char :=
  let (api, rest) := cut '/' resource
  let (stage, rest) := cut '/' (rest.getD [])
  let (verb, path) := cut '/' (rest.getD [])
  (api, stage, verb, path.getD [])

/-- The method of an ARN text, if it is one. -/
def ofText? (text : String) : Option MethodArn :=
  match (segments ':' text.toList).map String.ofList with
  | [arn, partition, service, region, account, resource] =>
      let (api, stage, verb, path) := resourceParts resource.toList
      if arn = "arn" ∧ service = Target.service ∧ partition ≠ "" ∧ region ≠ "" ∧ account ≠ "" ∧
          api ≠ [] ∧ stage ≠ [] then
        some
          { target :=
              { partition, region, account,
                api := String.ofList api
                stage := String.ofList stage }
            verb := String.ofList verb
            path := String.ofList path }
      else none
  | _ => none

/-- The method of an ARN text, or the failure that names the text. -/
def ofText (text : String) : Except Failure MethodArn :=
  match ofText? text with
  | some m => .ok m
  | none => .error (.malformedMethodArn text)

/-- The ARN text of a method. Without a verb it ends at the stage. -/
def text (m : MethodArn) : String :=
  if m.verb = "" then m.target.stageArn
  else m.target.stageArn ++ "/" ++ m.verb ++ "/" ++ m.path

instance : ToString MethodArn := ⟨text⟩

end MethodArn

end GatewayAccess
