import GatewayAccess.Failure
import GatewayAccess.Json.Record

/-! # Verbs

The HTTP verbs that a grant can name, and the wildcard that stands for all of them. Tokens are
case-sensitive. So are the names in JSON data, which have a table of their own.
-/

namespace GatewayAccess

/-- A verb of a grant. -/
inductive Verb where
  | get
  | post
  | put
  | patch
  | head
  | delete
  | options
  /-- The wildcard, which stands for every verb. -/
  | all
deriving DecidableEq, Repr

namespace Verb

/-- Every verb, in the order of their declaration. -/
def variants : List Verb := [get, post, put, patch, head, delete, options, all]

/-- The token of a verb. -/
def token : Verb → String
  | get => "GET"
  | post => "POST"
  | put => "PUT"
  | patch => "PATCH"
  | head => "HEAD"
  | delete => "DELETE"
  | options => "OPTIONS"
  | all => "*"

instance : ToString Verb := ⟨token⟩

/-- Whether the verb is the wildcard. -/
def isWildcard (v : Verb) : Bool := v = all

/-- The verb with a token. -/
def ofToken? (token : String) : Option Verb := variants.find? (·.token = token)

/-- The verb with a token, or the failure that names the token. -/
def ofToken (token : String) : Except Failure Verb :=
  match ofToken? token with
  | some v => .ok v
  | none => .error (.unknownVerb token)

/-- Every verb is found by its token. -/
theorem ofToken?_token (v : Verb) : ofToken? v.token = some v := by
  cases v <;> rfl

/-- The verb that is found has the token that was looked for. -/
theorem ofToken?_eq_some_iff {token : String} {v : Verb} :
    ofToken? token = some v ↔ v.token = token := by
  constructor
  · intro h
    simpa using List.find?_some h
  · rintro rfl
    exact ofToken?_token v

theorem ofToken_eq_ok_iff {token : String} {v : Verb} :
    ofToken token = .ok v ↔ v.token = token := by
  rw [← ofToken?_eq_some_iff, ofToken]
  cases ofToken? token with
  | none => simp only [reduceCtorEq]
  | some w => simp only [Except.ok.injEq, Option.some.injEq]

/-- No two verbs have the same token. -/
theorem token_inj {v w : Verb} : v.token = w.token ↔ v = w := by
  rw [← ofToken?_eq_some_iff, ofToken?_token, Option.some.injEq, eq_comm]

theorem token_ne_empty (v : Verb) : v.token ≠ "" := by
  cases v <;> decide

/-- Whether a text is the token of a verb. -/
def isToken (token : String) : Bool := (ofToken? token).isSome

/-! ## Verbs in JSON -/

/-- The name of a verb as a constant of JSON data. -/
def name : Verb → String
  | get => "GET"
  | post => "POST"
  | put => "PUT"
  | patch => "PATCH"
  | head => "HEAD"
  | delete => "DELETE"
  | options => "OPTIONS"
  | all => "*"

/-- The verb that a constant of JSON data names. -/
def ofName? : String → Option Verb
  | "GET" => some get
  | "POST" => some post
  | "PUT" => some put
  | "PATCH" => some patch
  | "HEAD" => some head
  | "DELETE" => some delete
  | "OPTIONS" => some options
  | "*" => some all
  | _ => none

/-- The verb of a JSON tree. -/
def ofTree? (t : Json.Tree) : Option Verb := t.constantName?.bind ofName?

/-- The verb of a JSON text. -/
def read? (text : String) : Option Verb := (Json.Tree.read? text).bind ofTree?

/-- The tree of a verb. -/
def tree (v : Verb) : Json.Tree := .string (some v.name)

/-- The JSON text of a verb. -/
def jsonText (v : Verb) : String := v.tree.text

end Verb

end GatewayAccess
