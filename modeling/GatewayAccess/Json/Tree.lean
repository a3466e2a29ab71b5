import GatewayAccess.Json.Token

/-! # JSON trees

The tree of a JSON text: every member in its place, repeated keys kept, numerals as written, and
literals that stand for no text marked as such. A tree has exactly one sequence of tokens, and the
reader accepts exactly the token sequences of trees. It works through the tokens once, with the
containers still open on a stack, so nesting costs no depth of recursion.
-/

namespace GatewayAccess.Json

/-- The tree of a JSON text. -/
inductive Tree where
  | null
  | bool (b : Bool)
  | number (n : Numeral)
  | string (s : Option String)
  | array (items : List Tree)
  | object (members : List (Option String × Tree))

namespace Tree

/-! ## From trees to text -/

mutual

/-- The tokens of a tree. -/
def tokens : Tree → List Token
  | .null => [.null]
  | .bool b => [.bool b]
  | .number n => [.number n]
  | .string s => [.string s]
  | .array items => .openArray :: firstItem items
  | .object members => .openObject :: firstMember members

/-- The tokens that follow the opening bracket of an array. -/
def firstItem : List Tree → List Token
  | [] => [.closeArray]
  | t :: rest => tokens t ++ furtherItems rest

/-- The tokens that follow an item of an array. -/
def furtherItems : List Tree → List Token
  | [] => [.closeArray]
  | t :: rest => .comma :: (tokens t ++ furtherItems rest)

/-- The tokens that follow the opening brace of an object. -/
def firstMember : List (Option String × Tree) → List Token
  | [] => [.closeObject]
  | (key, t) :: rest => .string key :: .colon :: (tokens t ++ furtherMembers rest)

/-- The tokens that follow a member of an object. -/
def furtherMembers : List (Option String × Tree) → List Token
  | [] => [.closeObject]
  | (key, t) :: rest => .comma :: .string key :: .colon :: (tokens t ++ furtherMembers rest)

end

/-- The compact text of a tree. -/
def text (t : Tree) : String := String.ofList (t.tokens.flatMap Token.text)

/-! ## From text to trees -/

/-- A container still open while one of its values is read, with what it holds so far, latest
first. -/
inductive Frame where
  | array (items : List Tree)
  | object (members : List (Option String × Tree)) (key : Option String)

/-- What may come next. -/
inductive Phase where
  /-- A value. -/
  | value
  /-- The first item of an array, or its end. -/
  | firstItem
  /-- The first key of an object, or its end. -/
  | firstKey
  /-- A further key of an object with these members, latest first. -/
  | key (members : List (Option String × Tree))
  /-- The colon behind a key. -/
  | colon (members : List (Option String × Tree)) (key : Option String)
  /-- What may follow a complete value. -/
  | after (value : Tree)

/-- The reader between two tokens: what may come next, and the open containers, innermost
first. -/
structure Reader where
  phase : Phase
  stack : List Frame

namespace Reader

/-- The reader before the first token. -/
def start : Reader := ⟨.value, []⟩

/-- Begins a value. -/
def begin? (stack : List Frame) : Token → Option Reader
  | .null => some ⟨.after .null, stack⟩
  | .bool b => some ⟨.after (.bool b), stack⟩
  | .number n => some ⟨.after (.number n), stack⟩
  | .string s => some ⟨.after (.string s), stack⟩
  | .openArray => some ⟨.firstItem, stack⟩
  | .openObject => some ⟨.firstKey, stack⟩
  | _ => none

/-- Goes on behind a complete value. -/
def continue? (value : Tree) : List Frame → Token → Option Reader
  | .array items :: stack, .comma => some ⟨.value, .array (value :: items) :: stack⟩
  | .array items :: stack, .closeArray =>
      some ⟨.after (.array (value :: items).reverse), stack⟩
  | .object members key :: stack, .comma => some ⟨.key ((key, value) :: members), stack⟩
  | .object members key :: stack, .closeObject =>
      some ⟨.after (.object ((key, value) :: members).reverse), stack⟩
  | _, _ => none

/-- Reads one token. -/
def step? (r : Reader) (t : Token) : Option Reader :=
  match r.phase, t with
  | .value, t => begin? r.stack t
  | .firstItem, .closeArray => some ⟨.after (.array []), r.stack⟩
  | .firstItem, t => begin? (.array [] :: r.stack) t
  | .firstKey, .closeObject => some ⟨.after (.object []), r.stack⟩
  | .firstKey, .string key => some ⟨.colon [] key, r.stack⟩
  | .key members, .string key => some ⟨.colon members key, r.stack⟩
  | .colon members key, .colon => some ⟨.value, .object members key :: r.stack⟩
  | .after value, t => continue? value r.stack t
  | _, _ => none

/-- The tree that has been read, if it is complete. -/
def result? : Reader → Option Tree
  | ⟨.after value, []⟩ => some value
  | _ => none

end Reader

/-- The tree with the given tokens. -/
def ofTokens? (ts : List Token) : Option Tree := (ts.foldlM Reader.step? .start).bind (·.result?)

/-- The tree of a text; `none` if the text is no JSON. -/
def read? (text : String) : Option Tree := (Token.read? text.toList).bind ofTokens?

end Tree

end GatewayAccess.Json
