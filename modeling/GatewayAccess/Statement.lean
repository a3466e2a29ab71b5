import GatewayAccess.Grant

/-! # Statements

A statement of a policy document gives one effect to a list of resources, under conditions or
without. The grants of an effect are compiled in one pass: a grant with conditions becomes a
statement of its own, and the grants without are merged into one statement, which comes last and is
left out when there are none.
-/

namespace GatewayAccess

/-- A statement of a policy document. -/
structure Statement where
  effect : Effect
  resources : List String
  condition : Option Conditions
deriving BEq

namespace Statement

/-- The only action that a policy of a gateway can grant. -/
def action : String := "execute-api:Invoke"

/-- The tree of a statement, whose members come in this order. -/
def tree (s : Statement) : Json.Tree :=
  .object <|
    [(some "Action", .string (some action)),
      (some "Effect", s.effect.tree),
      (some "Resource", .array (s.resources.map fun r => .string (some r)))] ++
    match s.condition with
    | none => []
    | some c => [(some "Condition", Conditions.tree c)]

/-- What a pass over grants has found: the statements of grants with conditions, and the resources
of the others. -/
structure Compilation where
  isolated : List Statement
  merged : List String

namespace Compilation

/-- Takes up a grant of the effect that is compiled. -/
def add (c : Compilation) (g : Grant) : Compilation :=
  if g.isConditional then
    { c with isolated := c.isolated ++ [⟨g.effect, [g.resource], some g.conditions⟩] }
  else { c with merged := c.merged ++ [g.resource] }

/-- The statements found, the merged one last. -/
def statements (c : Compilation) (effect : Effect) : List Statement :=
  if c.merged = [] then c.isolated else c.isolated ++ [⟨effect, c.merged, none⟩]

end Compilation

/-- The statements of one effect for a list of grants. Grants of the other effect are passed
over. -/
def compile (effect : Effect) (grants : List Grant) : List Statement :=
  let found := (grants.filter (·.effect = effect)).foldl Compilation.add ⟨[], []⟩
  found.statements effect

/-- A compiled grant leaves a trace for each grant taken up. -/
theorem Compilation.foldl_add_ne_empty {c : Compilation} {grants : List Grant}
    (h : grants ≠ [] ∨ c.isolated ≠ [] ∨ c.merged ≠ []) :
    (grants.foldl Compilation.add c).isolated ≠ [] ∨
      (grants.foldl Compilation.add c).merged ≠ [] := by
  induction grants generalizing c with
  | nil => simpa using h
  | cons g rest ih =>
      refine ih (.inr ?_)
      by_cases hg : g.isConditional <;> simp [Compilation.add, hg]

/-- An effect with a grant has a statement. -/
theorem compile_ne_nil {effect : Effect} {grants : List Grant} {g : Grant} (hg : g ∈ grants)
    (he : g.effect = effect) : compile effect grants ≠ [] := by
  have hmem : g ∈ grants.filter (·.effect = effect) := List.mem_filter.2 ⟨hg, by simpa using he⟩
  have hfound := Compilation.foldl_add_ne_empty (c := ⟨[], []⟩)
    (.inl (List.ne_nil_of_mem hmem))
  simp only [compile, Compilation.statements]
  split
  · rename_i hmerged
    exact hfound.resolve_right fun h => h hmerged
  · simp

end Statement

end GatewayAccess
