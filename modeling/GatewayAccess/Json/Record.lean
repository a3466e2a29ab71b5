import GatewayAccess.Json.Tree

/-! # Records in JSON text

A record with known fields is written as an object, in which other members are passed over, or as
an array of exactly its fields in their order. A name of an enumeration is written as a string, or
as an object with that single key and the value null.
-/

namespace GatewayAccess.Json.Tree

/-- The members of an object, if each key stands for a text. -/
def keyed? (members : List (Option String × Tree)) : Option (List (String × Tree)) :=
  members.mapM fun m => m.1.map (·, m.2)

/-- The value of a field: inner `none` when no member has its key, outer `none` when several do. -/
def field? (members : List (String × Tree)) (name : String) : Option (Option Tree) :=
  match members.filter (·.1 = name) with
  | [] => some none
  | [m] => some (some m.2)
  | _ => none

/-- The values of the named fields of a record, in the order of the names; `none` at a field that
an object lacks. -/
def record? (names : List String) : Tree → Option (List (Option Tree))
  | .array items => if items.length = names.length then some (items.map some) else none
  | .object members => do names.mapM (field? (← keyed? members))
  | _ => none

/-- The name that stands for a constant of an enumeration. -/
def constantName? : Tree → Option String
  | .string name => name
  | .object [(name, .null)] => name
  | _ => none

/-- The text of a string. -/
def string? : Tree → Option String
  | .string s => s
  | _ => none

end GatewayAccess.Json.Tree
