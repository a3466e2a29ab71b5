import GatewayAccess.GrantPolicy
import GatewayAccess.Proofs.Run

/-! # Sequences of grant policies

A sequence runs up to the first of its policies that fails: `sequence_eq_error_iff`. What each
policy preserves the sequence preserves: `Preserves.sequence`. A list of grant steps is a sequence
whose policies are steps, some of them passed over.
-/

namespace GatewayAccess

namespace GrantPolicy

variable {claims : Claims} {p : Policy} {failure : Failure}

theorem sequence_nil (claims : Claims) (p : Policy) : sequence [] claims p = .ok p := rfl

theorem sequence_cons (policy : GrantPolicy) (rest : List GrantPolicy) (claims : Claims)
    (p : Policy) :
    sequence (policy :: rest) claims p = policy claims p >>= sequence rest claims :=
  List.foldlM_cons

/-- A sequence fails as the first of its policies does that fails. -/
theorem sequence_eq_error_iff {policies : List GrantPolicy} :
    sequence policies claims p = .error failure ↔
      ∃ before policy after q, policies = before ++ policy :: after ∧
        sequence before claims p = .ok q ∧ policy claims q = .error failure := by
  -- The policy that fails is the head, or it is found in the rest, from where the head leads.
  induction policies generalizing p with
  | nil => simp [sequence_nil]
  | cons policy rest ih =>
      rw [sequence_cons, bind_eq_error_iff]
      constructor
      · rintro (h | ⟨q, hq, h⟩)
        · exact ⟨[], policy, rest, p, rfl, rfl, h⟩
        · obtain ⟨before, policy', after, q', rfl, hbefore, hfailure⟩ := ih.1 h
          refine ⟨policy :: before, policy', after, q', rfl, ?_, hfailure⟩
          rw [sequence_cons, bind_eq_ok_iff]
          exact ⟨q, hq, hbefore⟩
      · rintro ⟨before, policy', after, q', heq, hbefore, hfailure⟩
        cases before with
        | nil =>
            obtain ⟨rfl, rfl⟩ := List.cons.inj heq
            cases hbefore
            exact .inl hfailure
        | cons first before =>
            obtain ⟨rfl, rfl⟩ := List.cons.inj heq
            rw [sequence_cons, bind_eq_ok_iff] at hbefore
            obtain ⟨q, hq, hbefore⟩ := hbefore
            exact .inr ⟨q, hq, ih.2 ⟨before, policy', after, q', rfl, hbefore, hfailure⟩⟩

/-- A guarded policy fails where it is run and fails. -/
theorem guarded_eq_error_iff {guard : Guard} {policy : GrantPolicy} :
    guarded guard policy claims p = .error failure ↔
      guard.admits claims = true ∧ policy claims p = .error failure := by
  rw [guarded]
  split
  · rename_i h
    simp only [h, true_and]
  · rename_i h
    simp only [reduceCtorEq, h, false_and]

/-- A list of grant steps fails as the first step does that is run and fails. -/
theorem ofSteps_eq_error_iff {steps : List (Guard × GrantStep)} :
    ofSteps steps claims p = .error failure ↔
      ∃ before guard step after q, steps = before ++ (guard, step) :: after ∧
        ofSteps before claims p = .ok q ∧ guard.admits claims = true ∧
        step.apply q = .error failure := by
  rw [ofSteps, sequence_eq_error_iff]
  constructor
  · rintro ⟨before, policy, after, q, hsteps, hbefore, hfailure⟩
    obtain ⟨before, rest, rfl, rfl, hrest⟩ := List.map_eq_append_iff.1 hsteps
    obtain ⟨⟨guard, step⟩, after, rfl, rfl, rfl⟩ := List.map_eq_cons_iff.1 hrest
    obtain ⟨hadmits, hfailure⟩ := guarded_eq_error_iff.1 hfailure
    exact ⟨before, guard, step, after, q, rfl, hbefore, hadmits, hfailure⟩
  · rintro ⟨before, guard, step, after, q, rfl, hbefore, hadmits, hfailure⟩
    exact ⟨_, _, _, q, List.map_append, hbefore, guarded_eq_error_iff.2 ⟨hadmits, hfailure⟩⟩

/-! ## What policies preserve -/

/-- Where a policy makes grants on a policy with a property, the result has it too. -/
def Preserves (Inv : Policy → Prop) (policy : GrantPolicy) : Prop :=
  ∀ claims p q, Inv p → policy claims p = .ok q → Inv q

variable {Inv : Policy → Prop}

theorem Preserves.guarded {policy : GrantPolicy} (h : Preserves Inv policy) (guard : Guard) :
    Preserves Inv (guarded guard policy) := by
  intro claims p q hp hq
  rw [GrantPolicy.guarded] at hq
  split at hq
  · exact h claims p q hp hq
  · cases hq
    exact hp

theorem Preserves.sequence {policies : List GrantPolicy}
    (h : ∀ policy ∈ policies, Preserves Inv policy) : Preserves Inv (sequence policies) := by
  intro claims p q hp hq
  induction policies generalizing p with
  | nil =>
      cases hq
      exact hp
  | cons policy rest ih =>
      rw [sequence_cons, bind_eq_ok_iff] at hq
      obtain ⟨p', hp', hq⟩ := hq
      have hinv : Inv p' := h policy List.mem_cons_self claims p p' hp hp'
      exact ih (fun policy' hmem => h policy' (List.mem_cons_of_mem _ hmem)) p' hinv hq

/-- What a grant step preserves a list of steps preserves. -/
theorem preserves_ofSteps (h : ∀ (step : GrantStep) p q, Inv p → step.apply p = .ok q → Inv q)
    (steps : List (Guard × GrantStep)) : Preserves Inv (ofSteps steps) := by
  refine Preserves.sequence fun policy hpolicy => ?_
  obtain ⟨⟨guard, step⟩, -, rfl⟩ := List.mem_map.1 hpolicy
  exact Preserves.guarded (fun _ p q hp hq => h step p q hp hq) guard

end GrantPolicy

end GatewayAccess
