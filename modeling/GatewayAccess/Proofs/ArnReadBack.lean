import GatewayAccess.Proofs.GrantArn

/-! # ARNs that are read back

What becomes of an ARN that the library writes when it is read again. The ARN of a grant gives its
target back just if the pieces of the target can be told apart: `ofText_resourceArn`. The text of a
method that was read gives the method back just if there is no path without a verb, for without a
verb the text ends at the stage: `ofText_text`.
-/

namespace GatewayAccess

/-! ## ARNs of grants -/

/-- The ARN of a verb on a path is read as one of the same target just if the pieces of the target
can be told apart, as they can in every target that is read. What is read then is that verb, and the
path without one slash at its head, if it begins with one. -/
theorem ofText_resourceArn (t : Target) (v : Verb) {text : String} {path : Path}
    (h : Path.ofText text = .ok path) :
    ∃ arn, t.resourceArn v text = .ok arn ∧
      ((∃ m, MethodArn.ofText arn = .ok m ∧ m.target = t) ↔ t.Separable) ∧
      (t.Separable → ∃ rest, (text = "/" ++ rest ∨ ¬ Path.Rooted text ∧ text = rest) ∧
        MethodArn.ofText arn = .ok ⟨t, v.token, rest⟩) ∧
      ∀ other m, MethodArn.ofText other = .ok m → m.target.Separable := by
  obtain rfl : path.text = text := Path.ofText_eq_ok_iff.1 h
  have hread (ht : t.Separable) :
      MethodArn.ofText (t.methodArn v path) = .ok ⟨t, v.token, path.relative⟩ :=
    MethodArn.ofText_eq_ok_iff.2 (MethodArn.ofText?_methodArn ht v path)
  have hseparable (other : String) (m : MethodArn) (hm : MethodArn.ofText other = .ok m) :
      m.target.Separable :=
    MethodArn.separable_of_ofText? (MethodArn.ofText_eq_ok_iff.1 hm)
  refine ⟨t.methodArn v path, ?_, ⟨?_, fun ht => ⟨_, hread ht, rfl⟩⟩, fun ht => ?_, hseparable⟩
  · rw [Target.resourceArn, h]
    rfl
  · rintro ⟨m, hm, rfl⟩
    exact hseparable _ m hm
  · exact ⟨path.relative, path.text_eq_relative, hread ht⟩

/-- Two slashes at the head of a path lose one; a slash in the stage shifts the pieces. -/
theorem ofText_resourceArn_slashes :
    (∃ arn, Target.resourceArn ⟨"eu/west", "1", "api", "prod", "aws"⟩ .all "//" = .ok arn ∧
      MethodArn.ofText arn = .ok ⟨⟨"eu/west", "1", "api", "prod", "aws"⟩, "*", "/"⟩) ∧
    ∃ arn, Target.resourceArn ⟨"eu-west-1", "1", "api", "a/b", "aws"⟩ .get "*" = .ok arn ∧
      ¬ ∃ m, MethodArn.ofText arn = .ok m ∧ m.target = ⟨"eu-west-1", "1", "api", "a/b", "aws"⟩ := by
  constructor
  · have hpath : Path.ofText "//" = .ok ⟨"//", by decide⟩ := rfl
    obtain ⟨arn, harn, -, hread, -⟩ :=
      ofText_resourceArn ⟨"eu/west", "1", "api", "prod", "aws"⟩ .all hpath
    obtain ⟨rest, hrest, hread⟩ := hread (by decide)
    obtain rfl : rest = "/" := Path.eq_of_slash_append hrest rfl
    exact ⟨arn, harn, hread⟩
  · have hpath : Path.ofText "*" = .ok ⟨"*", by decide⟩ := rfl
    obtain ⟨arn, harn, hiff, -⟩ :=
      ofText_resourceArn ⟨"eu-west-1", "1", "api", "a/b", "aws"⟩ .get hpath
    refine ⟨arn, harn, fun hread => ?_⟩
    exact absurd (hiff.1 hread) (by decide)

/-! ## Texts of methods -/

/-- The text of a method is read as the method, but for a path without a verb. -/
theorem MethodArn.Separable.ofText?_text {m : MethodArn} (h : m.Separable) :
    ofText? m.text = some { m with path := if m.verb = "" then "" else m.path } := by
  obtain ⟨target, verb, path⟩ := m
  rw [text]
  by_cases hverb : verb = ""
  · subst hverb
    rw [if_pos rfl, if_pos rfl]
    have hcolon : ':' ∉ "".toList := by decide
    refine ofText?_eq_some_iff.2 ⟨⟨h.target, h.verb, hcolon⟩, [], .none, ?_⟩
    exact (String.append_empty).symm
  · rw [if_neg hverb, if_neg hverb]
    refine ofText?_eq_some_iff.2 ⟨h, _, .path _ _, ?_⟩
    rw [← String.toList_inj]
    simp only [String.toList_append, String.toList_ofList, List.append_assoc]
    rfl

/-- The text of a method that was read is read again, with the same target and the same verb; it is
read as the same method just if there is no path without a verb. -/
theorem ofText_text {text : String} {m : MethodArn} (h : MethodArn.ofText text = .ok m) :
    MethodArn.ofText m.text = .ok { m with path := if m.verb = "" then "" else m.path } ∧
      (MethodArn.ofText m.text = .ok m ↔ (m.verb = "" → m.path = "")) := by
  have hseparable : m.Separable :=
    (MethodArn.ofText?_eq_some_iff.1 (MethodArn.ofText_eq_ok_iff.1 h)).1
  have hread := MethodArn.ofText_eq_ok_iff.2 hseparable.ofText?_text
  refine ⟨hread, ?_⟩
  rw [hread, Except.ok.injEq]
  obtain ⟨target, verb, path⟩ := m
  rw [MethodArn.mk.injEq]
  by_cases hverb : verb = ""
  · simp only [hverb, if_true, true_and, true_implies, eq_comm]
  · simp only [hverb, if_false, true_and, false_implies]

/-- An empty path and one that begins with a slash are kept behind a verb, but no path behind an
empty verb. -/
theorem ofText_text_slashes :
    (∃ m, MethodArn.ofText "arn:aws:execute-api:eu-west-1:1:api/prod/GET" = .ok m ∧
      MethodArn.ofText m.text = .ok m) ∧
    (∃ m, MethodArn.ofText "arn:aws:execute-api:eu-west-1:1:api/prod/GET//a" = .ok m ∧
      MethodArn.ofText m.text = .ok m) ∧
    ∃ m, MethodArn.ofText "arn:aws:execute-api:eu-west-1:1:api/prod//a" = .ok m ∧
      MethodArn.ofText m.text = .ok { m with path := "" } := by
  have hverb : MethodArn.ofText "arn:aws:execute-api:eu-west-1:1:api/prod/GET" =
      .ok ⟨⟨"eu-west-1", "1", "api", "prod", "aws"⟩, "GET", ""⟩ :=
    MethodArn.ofText_eq_ok_iff.2 (by decide)
  have hslash : MethodArn.ofText "arn:aws:execute-api:eu-west-1:1:api/prod/GET//a" =
      .ok ⟨⟨"eu-west-1", "1", "api", "prod", "aws"⟩, "GET", "/a"⟩ :=
    MethodArn.ofText_eq_ok_iff.2 (by decide)
  have hpath : MethodArn.ofText "arn:aws:execute-api:eu-west-1:1:api/prod//a" =
      .ok ⟨⟨"eu-west-1", "1", "api", "prod", "aws"⟩, "", "a"⟩ :=
    MethodArn.ofText_eq_ok_iff.2 (by decide)
  refine ⟨⟨_, hverb, ?_⟩, ⟨_, hslash, ?_⟩, ⟨_, hpath, ?_⟩⟩
  · exact (ofText_text hverb).2.2 fun _ => rfl
  · exact (ofText_text hslash).2.2 fun h => absurd h (by decide)
  · exact (ofText_text hpath).1

/-- Not every method that is read is read again from its text: a path without a verb is lost. -/
theorem not_forall_ofText_text :
    ¬ ∀ text m, MethodArn.ofText text = .ok m → MethodArn.ofText m.text = .ok m := by
  intro h
  have hread : MethodArn.ofText? "arn:aws:execute-api:eu-west-1:1:api/prod//a" =
      some ⟨⟨"eu-west-1", "1", "api", "prod", "aws"⟩, "", "a"⟩ := by decide
  have hagain := h _ _ (MethodArn.ofText_eq_ok_iff.2 hread)
  rw [MethodArn.ofText_eq_ok_iff] at hagain
  exact absurd hagain (by decide)

end GatewayAccess
