import GatewayAccess.Path
import GatewayAccess.Verb

/-! # Targets

A target is a deployed stage of an API, for which resource ARNs are composed. Its pieces are taken
as they are; nothing keeps a separator out of them.
-/

namespace GatewayAccess

/-- A deployed stage of an API. -/
structure Target where
  region : String
  account : String
  api : String
  stage : String
  partition : String := "aws"
deriving DecidableEq, Repr

namespace Target

/-- The service whose resources are named. -/
def service : String := "execute-api"

/-- The ARN of the stage, at which every ARN of a method begins. -/
def stageArn (t : Target) : String :=
  "arn:" ++ t.partition ++ ":" ++ service ++ ":" ++ t.region ++ ":" ++ t.account ++ ":" ++ t.api ++
    "/" ++ t.stage

/-- The ARN of a verb on a path. -/
def methodArn (t : Target) (verb : Verb) (path : Path) : String :=
  t.stageArn ++ "/" ++ verb.token ++ "/" ++ path.relative

/-- The ARN of a verb on the path that a text gives. -/
def resourceArn (t : Target) (verb : Verb) (path : String) : Except Failure String :=
  (Path.ofText path).map (t.methodArn verb)

/-- A text gives an ARN just if it is that of a path, and then the ARN is that of the path. -/
theorem resourceArn_eq_ok_iff {t : Target} {verb : Verb} {text arn : String} :
    t.resourceArn verb text = .ok arn ↔ ∃ p : Path, p.text = text ∧ t.methodArn verb p = arn := by
  simp only [resourceArn, ← Path.ofText_eq_ok_iff]
  cases Path.ofText text with
  | error failure => simp only [Except.map, reduceCtorEq, false_and, exists_false]
  | ok p => simp only [Except.map, Except.ok.injEq, exists_eq_left']

/-- The ARN of every verb on every path of the stage. -/
def wildcardArn (t : Target) : String := t.methodArn .all .wildcard

end Target

end GatewayAccess
