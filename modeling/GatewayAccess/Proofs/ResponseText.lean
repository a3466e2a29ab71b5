import GatewayAccess.Response
import GatewayAccess.Proofs.Json.Compact
import GatewayAccess.Proofs.Json.Value

/-! # The text of a response, part by part

The text of a response is put together from the texts of its parts: `Response.jsonText_eq`, and for
the parts `Document.text_tree`, `Statement.text_tree` and `SortedMap.text_tree`. What is the same in
all of them, names and punctuation, stands there as it is written.
-/

namespace GatewayAccess

open Json.Tree

/-- The text of a map, in the order of the keys. -/
theorem SortedMap.text_tree {α : Type} (valueTree : α → Json.Tree) (m : SortedMap α) :
    (m.tree valueTree).text =
      "\x7b" ++
        ",".intercalate (m.entries.map fun e =>
          (Json.ofText e.1).text ++ ":" ++ (valueTree e.2).text) ++ "\x7d" := by
  rw [SortedMap.tree, text_object, List.map_map]
  rfl

/-- The text of a statement. Without a condition there is no member for one. -/
theorem Statement.text_tree (s : Statement) :
    s.tree.text =
      "\x7b\"Action\":\"execute-api:Invoke\",\"Effect\":\"" ++ s.effect.name ++
        "\",\"Resource\":[" ++ ",".intercalate (s.resources.map fun r => (Json.ofText r).text) ++
        "]" ++ (s.condition.elim "" fun c => ",\"Condition\":" ++ (Conditions.tree c).text) ++
        "\x7d" := by
  obtain ⟨effect, resources, condition⟩ := s
  have haction : memberText (some "Action", .string (some action)) =
      "\"Action\":\"execute-api:Invoke\"" := rfl
  have heffect : memberText (some "Effect", effect.tree) =
      "\"Effect\":\"" ++ effect.name ++ "\"" := by
    cases effect <;> rfl
  have hresources : memberText
      (some "Resource", .array (resources.map fun r => .string (some r))) =
        "\"Resource\":" ++
          ("[" ++ ",".intercalate (resources.map fun r => (Json.ofText r).text) ++ "]") := by
    rw [memberText, text_array, List.map_map]
    rfl
  have hcondition (c : Conditions) : memberText (some "Condition", Conditions.tree c) =
      "\"Condition\":" ++ (Conditions.tree c).text := rfl
  rw [Statement.tree, text_object]
  -- Once the appends lean to the right, fixed parts that meet are compared by computing.
  cases condition with
  | none =>
      simp only [List.append_nil, List.map_cons, List.map_nil, haction, heffect, hresources,
        String.intercalate_cons_cons, String.intercalate_singleton, Option.elim_none,
        String.append_assoc]
      rfl
  | some c =>
      simp only [List.cons_append, List.nil_append, List.map_cons, List.map_nil, haction, heffect,
        hresources, hcondition, String.intercalate_cons_cons, String.intercalate_singleton,
        Option.elim_some, String.append_assoc]
      rfl

/-- The text of a document. -/
theorem Document.text_tree (d : Document) :
    d.tree.text =
      "\x7b\"Version\":\"2012-10-17\",\"Statement\":[" ++
        ",".intercalate (d.statements.map fun s => s.tree.text) ++ "]\x7d" := by
  have hversion : memberText (some "Version", .string (some version)) =
      "\"Version\":\"2012-10-17\"" := rfl
  have hstatements : memberText (some "Statement", .array (d.statements.map Statement.tree)) =
      "\"Statement\":" ++
        ("[" ++ ",".intercalate (d.statements.map fun s => s.tree.text) ++ "]") := by
    rw [memberText, text_array, List.map_map]
    rfl
  rw [Document.tree, text_object]
  simp only [List.map_cons, List.map_nil, hversion, hstatements, String.intercalate_cons_cons,
    String.intercalate_singleton, String.append_assoc]
  rfl

/-- The text of a response. -/
theorem Response.jsonText_eq (r : Response) :
    r.jsonText =
      "\x7b\"principalId\":" ++ (Json.ofText r.principal).text ++
        ",\"policyDocument\":" ++ r.document.tree.text ++
        ",\"context\":" ++ (r.context.tree Scalar.tree).text ++ "\x7d" := by
  have hprincipal : memberText (some "principalId", .string (some r.principal)) =
      "\"principalId\":" ++ (Json.ofText r.principal).text := rfl
  have hdocument (t : Json.Tree) : memberText (some "policyDocument", t) =
      "\"policyDocument\":" ++ t.text := rfl
  have hcontext (t : Json.Tree) : memberText (some "context", t) = "\"context\":" ++ t.text := rfl
  rw [jsonText, Response.tree, text_object]
  simp only [List.map_cons, List.map_nil, hprincipal, hdocument, hcontext,
    String.intercalate_cons_cons, String.intercalate_singleton, String.append_assoc]
  rfl

end GatewayAccess
