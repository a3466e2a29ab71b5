import GatewayAccess.Policy
import GatewayAccess.SortedMap.Lemmas

/-! # What grants are compiled to

`compile_eq` gives the statements of an effect without the pass that finds them: one statement for
each conditional grant, and one for all the others together. `compile_isolated_then_merged` says the
same of any list of grants by its own grants of the effect, and what holds of every statement.
`build_eq_ok_iff` gives the response of a policy.
-/

namespace GatewayAccess

/-! ## Grants of an effect -/

namespace Grant

/-- The ARNs and conditions of the conditional grants of an effect, in order. -/
def conditional (effect : Effect) (grants : List Grant) : List (String × Conditions) :=
  (grants.filter fun g => g.effect = effect && !g.conditions.isEmpty).map fun g =>
    (g.resource, g.conditions)

/-- The ARNs of the unconditional grants of an effect, in order. -/
def unconditional (effect : Effect) (grants : List Grant) : List String :=
  (grants.filter fun g => g.effect = effect && g.conditions.isEmpty).map Grant.resource

variable {effect : Effect} {grants : List Grant}

theorem mem_conditional {entry : String × Conditions} :
    entry ∈ conditional effect grants ↔
      ∃ g ∈ grants, g.effect = effect ∧ g.conditions.isEmpty = false ∧
        (g.resource, g.conditions) = entry := by
  simp only [conditional, List.mem_map, List.mem_filter, Bool.and_eq_true, decide_eq_true_eq,
    Bool.not_eq_true', and_assoc]

theorem mem_unconditional {resource : String} :
    resource ∈ unconditional effect grants ↔
      ∃ g ∈ grants, g.effect = effect ∧ g.conditions.isEmpty = true ∧
        g.resource = resource := by
  simp only [unconditional, List.mem_map, List.mem_filter, Bool.and_eq_true, decide_eq_true_eq,
    and_assoc]

/-- To choose among the grants of an effect is to choose by the effect as well. -/
theorem filter_effect_filter (keep : Grant → Bool) :
    (grants.filter (·.effect = effect)).filter (fun g => g.effect = effect && keep g) =
      grants.filter fun g => g.effect = effect && keep g := by
  rw [List.filter_filter]
  congr 1
  funext g
  rw [Bool.and_right_comm, Bool.and_self]

/-- Grants of the other effect do not count among the conditional ones. -/
theorem conditional_filter :
    conditional effect (grants.filter (·.effect = effect)) = conditional effect grants := by
  rw [conditional, conditional, filter_effect_filter]

/-- Grants of the other effect do not count among the unconditional ones. -/
theorem unconditional_filter :
    unconditional effect (grants.filter (·.effect = effect)) = unconditional effect grants := by
  rw [unconditional, unconditional, filter_effect_filter fun g => g.conditions.isEmpty]

/-- The conditional grants of an effect are those among its grants. -/
theorem conditional_eq_map_filter :
    conditional effect grants =
      ((grants.filter (·.effect = effect)).filter (!·.conditions.isEmpty)).map
        fun g => (g.resource, g.conditions) := by
  rw [conditional, List.filter_filter]
  simp only [Bool.and_comm]

/-- The unconditional grants of an effect are those among its grants. -/
theorem unconditional_eq_map_filter :
    unconditional effect grants =
      ((grants.filter (·.effect = effect)).filter (·.conditions.isEmpty)).map Grant.resource := by
  rw [unconditional, List.filter_filter]
  simp only [Bool.and_comm]

end Grant

/-! ## Statements of an effect -/

namespace Statement

/-- The statement of a conditional grant. -/
def isolated (effect : Effect) (entry : String × Conditions) : Statement :=
  ⟨effect, [entry.1], some entry.2⟩

/-- The statement of all unconditional grants; none if there are no such grants. -/
def merged (effect : Effect) (resources : List String) : List Statement :=
  if resources = [] then [] else [⟨effect, resources, none⟩]

/-- Some grants together have a merged statement if there are any. -/
theorem merged_map (effect : Effect) (plain : List Grant) :
    merged effect (plain.map Grant.resource) =
      if plain = [] then [] else [⟨effect, plain.map Grant.resource, none⟩] := by
  cases plain with
  | nil => rfl
  | cons g rest => rfl

variable {effect : Effect} {grants : List Grant}

/-- A pass over grants of one effect adds the conditional ones to the statements found, and the
others to the resources found. -/
theorem foldl_add (h : ∀ g ∈ grants, g.effect = effect) (c : Compilation) :
    grants.foldl Compilation.add c =
      ⟨c.isolated ++ (Grant.conditional effect grants).map (isolated effect),
        c.merged ++ Grant.unconditional effect grants⟩ := by
  -- The pass goes on from what has been found, so the claim is made for any such start.
  induction grants generalizing c with
  | nil => simp [Grant.conditional, Grant.unconditional]
  | cons g rest ih =>
      have hg : g.effect = effect := h g List.mem_cons_self
      rw [List.foldl_cons, ih fun g' hg' => h g' (List.mem_cons_of_mem _ hg')]
      cases hc : g.conditions.isEmpty with
      | true =>
          simp [Compilation.add, Grant.isConditional, Grant.conditional, Grant.unconditional, hg,
            hc]
      | false =>
          simp [Compilation.add, Grant.isConditional, Grant.conditional, Grant.unconditional,
            isolated, hg, hc]

/-- The statements of an effect: one for each conditional grant, in order, then one for the
others. -/
theorem compile_eq (effect : Effect) (grants : List Grant) :
    compile effect grants =
      (Grant.conditional effect grants).map (isolated effect) ++
        merged effect (Grant.unconditional effect grants) := by
  have hfilter : ∀ g ∈ grants.filter (·.effect = effect), g.effect = effect := by
    intro g hg
    exact of_decide_eq_true (List.mem_filter.1 hg).2
  rw [compile, foldl_add hfilter, Grant.conditional_filter, Grant.unconditional_filter]
  simp only [Compilation.statements, List.nil_append, merged]
  by_cases h : Grant.unconditional effect grants = []
  · rw [if_pos h, if_pos h, List.append_nil]
  · rw [if_neg h, if_neg h]

/-- A statement of an effect is that of a conditional grant, or the one of all the others. -/
theorem mem_compile {s : Statement} :
    s ∈ compile effect grants ↔
      (∃ g ∈ grants, g.effect = effect ∧ g.conditions.isEmpty = false ∧
          s = ⟨effect, [g.resource], some g.conditions⟩) ∨
        Grant.unconditional effect grants ≠ [] ∧
          s = ⟨effect, Grant.unconditional effect grants, none⟩ := by
  rw [compile_eq, List.mem_append, List.mem_map]
  refine or_congr ?_ ?_
  · constructor
    · rintro ⟨entry, hentry, rfl⟩
      obtain ⟨g, hg, he, hc, rfl⟩ := Grant.mem_conditional.1 hentry
      exact ⟨g, hg, he, hc, rfl⟩
    · rintro ⟨g, hg, he, hc, rfl⟩
      exact ⟨(g.resource, g.conditions), Grant.mem_conditional.2 ⟨g, hg, he, hc, rfl⟩, rfl⟩
  · rw [merged]
    split
    · rename_i h
      simp only [h, List.not_mem_nil, ne_eq, not_true_eq_false, false_and]
    · rename_i h
      simp only [List.mem_singleton, ne_eq, h, not_false_eq_true, true_and]

theorem effect_of_mem_compile {s : Statement} (h : s ∈ compile effect grants) :
    s.effect = effect := by
  rcases mem_compile.1 h with ⟨g, -, -, -, rfl⟩ | ⟨-, rfl⟩
  · rfl
  · rfl

/-- Every statement names a resource. -/
theorem resources_ne_nil_of_mem_compile {s : Statement} (hs : s ∈ compile effect grants) :
    s.resources ≠ [] := by
  rcases mem_compile.1 hs with ⟨g, -, -, -, rfl⟩ | ⟨hne, rfl⟩
  · exact List.cons_ne_nil _ _
  · exact hne

/-- The condition of a statement is never empty. -/
theorem condition_of_mem_compile {s : Statement} (hs : s ∈ compile effect grants) {c : Conditions}
    (h : s.condition = some c) : c.isEmpty = false := by
  rcases mem_compile.1 hs with ⟨g, -, -, hc, rfl⟩ | ⟨-, rfl⟩
  · cases h
    exact hc
  · cases h

/-- A grant with an operator among its conditions has a statement of its own, also if there are no
keys for the operator. -/
theorem isolated_mem_compile {g : Grant} (hg : g ∈ grants) (he : g.effect = effect)
    {operator : String} {keys : SortedMap Json} (hkeys : g.conditions.get? operator = some keys) :
    ⟨effect, [g.resource], some g.conditions⟩ ∈ compile effect grants := by
  exact mem_compile.2 (.inl ⟨g, hg, he, SortedMap.isEmpty_eq_false_of_get? hkeys, rfl⟩)

/-- Grants of the other effect leave no trace. -/
theorem compile_append_of_forall_ne {before others after : List Grant}
    (h : ∀ g ∈ others, g.effect ≠ effect) :
    compile effect (before ++ others ++ after) = compile effect (before ++ after) := by
  have hothers : others.filter (·.effect = effect) = [] := by
    refine List.filter_eq_nil_iff.2 fun g hg => ?_
    rw [decide_eq_true_eq]
    exact h g hg
  rw [compile, compile, List.filter_append, List.filter_append, hothers, List.append_nil,
    List.filter_append]

/-- Every resource of a statement is that of a grant. -/
theorem exists_grant_of_mem_resources {s : Statement} (hs : s ∈ compile effect grants)
    {resource : String} (hr : resource ∈ s.resources) :
    ∃ g ∈ grants, g.resource = resource := by
  rcases mem_compile.1 hs with ⟨g, hg, -, -, rfl⟩ | ⟨-, rfl⟩
  · exact ⟨g, hg, (List.mem_singleton.1 hr).symm⟩
  · obtain ⟨g, hg, -, -, hr⟩ := Grant.mem_unconditional.1 hr
    exact ⟨g, hg, hr⟩

/-- Of the grants of a list those of the effect are compiled: first, in order, each with conditions
to a statement of its own, then all without, in order and with repetitions, to one statement if
there are any. So every statement has the effect, names a resource, and has no empty condition. An
operator is a condition even without keys, and grants of the other effect count for nothing wherever
they stand. -/
theorem compile_isolated_then_merged (effect : Effect) (grants : List Grant) :
    let own := grants.filter (·.effect = effect)
    let plain := own.filter (·.conditions.isEmpty)
    compile effect grants =
        (own.filter (!·.conditions.isEmpty)).map
            (fun g => ⟨effect, [g.resource], some g.conditions⟩) ++
          (if plain = [] then [] else [⟨effect, plain.map Grant.resource, none⟩]) ∧
      (∀ s ∈ compile effect grants,
        s.effect = effect ∧ s.resources ≠ [] ∧ ∀ c, s.condition = some c → c.isEmpty = false) ∧
      (∀ g ∈ own, ∀ operator keys, g.conditions.get? operator = some keys →
        ⟨effect, [g.resource], some g.conditions⟩ ∈ compile effect grants) ∧
      ∀ before others after, grants = before ++ others ++ after →
        (∀ g ∈ others, g.effect ≠ effect) →
          compile effect grants = compile effect (before ++ after) := by
  intro own plain
  refine ⟨?_, ?_, ?_, ?_⟩
  · rw [compile_eq, Grant.conditional_eq_map_filter, Grant.unconditional_eq_map_filter, merged_map,
      List.map_map]
    rfl
  · intro s hs
    exact ⟨effect_of_mem_compile hs, resources_ne_nil_of_mem_compile hs, fun c =>
      condition_of_mem_compile hs⟩
  · intro g hg operator keys hkeys
    obtain ⟨hmem, he⟩ := List.mem_filter.1 hg
    exact isolated_mem_compile hmem (of_decide_eq_true he) hkeys
  · rintro before others after rfl h
    exact compile_append_of_forall_ne h

/-- A denial between permissions does not count, a repeated ARN stays repeated, and an operator
without keys is a condition. -/
theorem compile_isolated_then_merged_mixed :
    (⟨.allow, ["b"], some (SortedMap.ofList [("IpAddress", ∅)])⟩ : Statement) ∈
        compile .allow [⟨.allow, "a", ∅⟩, ⟨.deny, "c", ∅⟩,
          ⟨.allow, "b", SortedMap.ofList [("IpAddress", ∅)]⟩, ⟨.allow, "a", ∅⟩] ∧
      compile .allow [⟨.allow, "a", ∅⟩, ⟨.deny, "c", ∅⟩,
          ⟨.allow, "b", SortedMap.ofList [("IpAddress", ∅)]⟩, ⟨.allow, "a", ∅⟩] =
        compile .allow [⟨.allow, "a", ∅⟩, ⟨.allow, "b", SortedMap.ofList [("IpAddress", ∅)]⟩,
          ⟨.allow, "a", ∅⟩] ∧
      compile .allow [⟨.allow, "a", ∅⟩, ⟨.allow, "b", SortedMap.ofList [("IpAddress", ∅)]⟩,
          ⟨.allow, "a", ∅⟩] =
        [⟨.allow, ["b"], some (SortedMap.ofList [("IpAddress", ∅)])⟩,
          ⟨.allow, ["a", "a"], none⟩] := by
  obtain ⟨-, -, hconditional, hothers⟩ := compile_isolated_then_merged .allow
    [⟨.allow, "a", ∅⟩, ⟨.deny, "c", ∅⟩, ⟨.allow, "b", SortedMap.ofList [("IpAddress", ∅)]⟩,
      ⟨.allow, "a", ∅⟩]
  refine ⟨hconditional ⟨.allow, "b", SortedMap.ofList [("IpAddress", ∅)]⟩ ?_ "IpAddress" ∅ rfl,
    hothers [⟨.allow, "a", ∅⟩] [⟨.deny, "c", ∅⟩]
      [⟨.allow, "b", SortedMap.ofList [("IpAddress", ∅)]⟩, ⟨.allow, "a", ∅⟩] rfl ?_, rfl⟩
  · exact .tail _ (.head _)
  · rw [List.forall_mem_singleton]
    decide

end Statement

/-! ## Responses of a policy -/

namespace Policy

variable {p : Policy}

theorem mem_grants {effect : Effect} {g : Grant} :
    g ∈ p.grants effect ↔ g ∈ p.granted ∧ g.effect = effect := by
  rw [grants, List.mem_filter, decide_eq_true_eq]

/-- A policy has no grants if it has none of either effect. -/
theorem granted_eq_nil_iff : p.granted = [] ↔ p.grants .allow = [] ∧ p.grants .deny = [] := by
  constructor
  · intro h
    rw [grants, grants, h]
    exact ⟨rfl, rfl⟩
  · rintro ⟨hallow, hdeny⟩
    refine List.eq_nil_iff_forall_not_mem.2 fun g hg => ?_
    have hmem : g ∈ p.grants g.effect := mem_grants.2 ⟨hg, rfl⟩
    cases he : g.effect with
    | allow =>
        rw [he, hallow] at hmem
        exact List.not_mem_nil hmem
    | deny =>
        rw [he, hdeny] at hmem
        exact List.not_mem_nil hmem

/-- The grants of one effect are compiled as if the others were there. -/
theorem compile_grants (effect : Effect) (p : Policy) :
    Statement.compile effect (p.grants effect) = Statement.compile effect p.granted := by
  rw [Statement.compile_eq, Statement.compile_eq, grants, Grant.conditional_filter,
    Grant.unconditional_filter]

theorem statements_eq (p : Policy) :
    p.statements = Statement.compile .allow p.granted ++ Statement.compile .deny p.granted := by
  rw [statements, compile_grants, compile_grants]

/-- The statements of a policy with one effect are what its grants are compiled to. -/
theorem mem_statements {s : Statement} :
    s ∈ p.statements ↔ s ∈ Statement.compile s.effect p.granted := by
  rw [statements_eq, List.mem_append]
  constructor
  · rintro (h | h)
    · rwa [Statement.effect_of_mem_compile h]
    · rwa [Statement.effect_of_mem_compile h]
  · intro h
    cases he : s.effect with
    | allow => exact .inl (he ▸ h)
    | deny => exact .inr (he ▸ h)

/-- A policy has a response just if it has a grant. -/
theorem build_eq_ok_iff {r : Response} :
    p.build = .ok r ↔
      p.granted ≠ [] ∧ r.principal = p.principal ∧ r.document.statements = p.statements ∧
        r.context = ∅ := by
  obtain ⟨principal, ⟨statements, nonempty⟩, context⟩ := r
  rw [build]
  split
  · rename_i h
    simp only [h, reduceCtorEq, ne_eq, not_true_eq_false, false_and]
  · rename_i h
    simp only [Except.ok.injEq, Response.mk.injEq, Document.mk.injEq, ne_eq, h, not_false_eq_true,
      true_and, eq_comm]

/-- A policy with a grant has a response. -/
theorem exists_build (h : p.granted ≠ []) : ∃ response, p.build = .ok response :=
  ⟨⟨p.principal, ⟨p.statements, statements_ne_nil h⟩, ∅⟩, build_eq_ok_iff.2 ⟨h, rfl, rfl, rfl⟩⟩

theorem build_eq_error_iff {failure : Failure} :
    p.build = .error failure ↔ p.granted = [] ∧ failure = .noStatements := by
  rw [build]
  split
  · rename_i h
    simp only [Except.error.injEq, h, true_and, eq_comm]
  · rename_i h
    simp only [reduceCtorEq, h, false_and]

end Policy

end GatewayAccess
