import GatewayAccess.Scalar
import GatewayAccess.Statement

/-! # Policy documents and responses

A document is a list of statements, never empty. The response for a request names the principal,
carries the document, and attaches a context of scalars. Its JSON text has the fields in a fixed
order, the entries of the context ascending by key, and no blanks.
-/

namespace GatewayAccess

/-- The statements of a policy; there is at least one. -/
structure Document where
  statements : List Statement
  nonempty : statements ≠ []

namespace Document

instance : BEq Document := ⟨fun a b => a.statements == b.statements⟩

/-- The version of the policy language. -/
def version : String := "2012-10-17"

/-- The tree of a document, whose members come in this order. -/
def tree (d : Document) : Json.Tree :=
  .object
    [(some "Version", .string (some version)),
      (some "Statement", .array (d.statements.map Statement.tree))]

end Document

/-- The entries that go along with a response. -/
abbrev Context := SortedMap Scalar

/-- The answer to a request. -/
structure Response where
  principal : String
  document : Document
  context : Context
deriving BEq

namespace Response

/-- Sets an entry of the context. -/
def insertContext (r : Response) (key : String) (value : Scalar) : Response :=
  { r with context := r.context.insert key value }

/-- The response with an entry of its context set, for calls in a chain. -/
def withContext (r : Response) (key : String) (value : Scalar) : Response :=
  r.insertContext key value

/-- The tree of a response, whose members come in this order. -/
def tree (r : Response) : Json.Tree :=
  .object
    [(some "principalId", .string (some r.principal)),
      (some "policyDocument", r.document.tree),
      (some "context", r.context.tree Scalar.tree)]

/-- The JSON text of a response. -/
def jsonText (r : Response) : String := r.tree.text

end Response

end GatewayAccess
