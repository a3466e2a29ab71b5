import GatewayAccess.Json.Tree

/-! # The compact text of a tree

What a tree is written as, part by part: the text of an array is made of the texts of its items
(`text_array`), and that of an object of its keys and the texts of its values (`text_object`), with
commas and colons between them and no blanks.
-/

namespace GatewayAccess.Json

/-! ## Tokens -/

namespace Token

/-- The text of tokens without blanks. -/
def joined (ts : List Token) : String := String.ofList (ts.flatMap text)

theorem joined_singleton (t : Token) : joined [t] = String.ofList t.text :=
  congrArg String.ofList (List.append_nil t.text)

theorem joined_cons (t : Token) (ts : List Token) :
    joined (t :: ts) = String.ofList t.text ++ joined ts := by
  rw [joined, List.flatMap_cons, String.ofList_append]
  rfl

theorem joined_append (ts us : List Token) : joined (ts ++ us) = joined ts ++ joined us := by
  rw [joined, List.flatMap_append, String.ofList_append]
  rfl

/-- With a comma before each part but the first, the texts of the parts are separated by commas. -/
theorem joined_separated {α : Type} (tokens : α → List Token) (a : α) (rest : List α) :
    joined (tokens a ++ rest.flatMap fun b => comma :: tokens b) =
      ",".intercalate ((a :: rest).map fun b => joined (tokens b)) := by
  induction rest generalizing a with
  | nil =>
      rw [List.flatMap_nil, List.append_nil, List.map_singleton, String.intercalate_singleton]
  | cons b rest ih =>
      rw [List.flatMap_cons, List.cons_append, joined_append, joined_cons, ih, List.map_cons,
        List.map_cons, List.map_cons, String.intercalate_cons_cons, String.append_assoc]
      rfl

end Token

/-! ## Trees -/

namespace Tree

open Token

/-- The tokens of a member. -/
def memberTokens (m : Option String × Tree) : List Token := .string m.1 :: .colon :: m.2.tokens

/-- The text of a member. -/
def memberText (m : Option String × Tree) : String := (Tree.string m.1).text ++ ":" ++ m.2.text

theorem joined_memberTokens (m : Option String × Tree) :
    joined (memberTokens m) = memberText m := by
  rw [memberTokens, joined_cons, joined_cons, memberText, ← joined_singleton, String.append_assoc]
  rfl

theorem furtherItems_eq (items : List Tree) :
    furtherItems items = items.flatMap (fun t => .comma :: t.tokens) ++ [.closeArray] := by
  induction items with
  | nil => rfl
  | cons t items ih =>
      rw [furtherItems, ih, List.flatMap_cons, List.cons_append, List.cons_append,
        List.append_assoc]

theorem firstMember_cons (m : Option String × Tree) (members : List (Option String × Tree)) :
    firstMember (m :: members) = memberTokens m ++ furtherMembers members := by
  rw [firstMember]
  rfl

theorem furtherMembers_cons (m : Option String × Tree) (members : List (Option String × Tree)) :
    furtherMembers (m :: members) = .comma :: (memberTokens m ++ furtherMembers members) := by
  rw [furtherMembers]
  rfl

theorem furtherMembers_eq (members : List (Option String × Tree)) :
    furtherMembers members =
      members.flatMap (fun m => .comma :: memberTokens m) ++ [.closeObject] := by
  induction members with
  | nil => rfl
  | cons m members ih =>
      rw [furtherMembers_cons, ih, List.flatMap_cons, List.cons_append, List.cons_append,
        List.append_assoc]

/-- The text of an array: those of its items, separated by commas, in brackets. -/
theorem text_array (items : List Tree) :
    (Tree.array items).text = "[" ++ ",".intercalate (items.map text) ++ "]" := by
  show joined (Tree.array items).tokens = _
  cases items with
  | nil => rfl
  | cons t items =>
      rw [tokens, firstItem, furtherItems_eq, ← List.append_assoc, joined_cons, joined_append,
        joined_separated, ← String.append_assoc]
      rfl

/-- The text of an object: those of its members, separated by commas, in braces. -/
theorem text_object (members : List (Option String × Tree)) :
    (Tree.object members).text =
      "\x7b" ++ ",".intercalate (members.map memberText) ++ "\x7d" := by
  show joined (Tree.object members).tokens = _
  cases members with
  | nil => rfl
  | cons m members =>
      rw [tokens, firstMember_cons, furtherMembers_eq, ← List.append_assoc, joined_cons,
        joined_append, joined_separated, ← String.append_assoc]
      simp only [joined_memberTokens]
      rfl

end Tree

end GatewayAccess.Json
