import GatewayAccess.Proofs.GrantArn
import GatewayAccess.Proofs.History
import GatewayAccess.Text.Pattern
import Mathlib.Data.List.Basic
import Mathlib.Tactic.Tauto

/-! # The path grammar

A text is a path just if the pattern of the grammar is found in it, and the pattern holds both ends,
so it is never found in a part of a text: `Path.isPath_iff_foundIn`. Wherever a path is given the
same texts are turned down with the same failure, which names the text as it was given, before a
slash is dropped from it: `path_grammar`.
-/

namespace GatewayAccess

namespace Path

variable {text : String} {c : Char} {failure : Failure}

/-! ## The alphabet -/

/-- The characters of a path, in the ranges of the pattern. -/
def alphabet : CharSet :=
  [⟨'/', '/'⟩, ⟨'.', '.'⟩, ⟨'a', 'z'⟩, ⟨'A', 'Z'⟩, ⟨'0', '9'⟩, ⟨'*', '*'⟩, ⟨'-', '-'⟩]

theorem isPathChar_iff :
    isPathChar c = true ↔
      'A' ≤ c ∧ c ≤ 'Z' ∨ 'a' ≤ c ∧ c ≤ 'z' ∨ '0' ≤ c ∧ c ≤ '9' ∨
        c = '/' ∨ c = '.' ∨ c = '*' ∨ c = '-' := by
  have hrange (a b : Char) :
      (decide (a.val ≤ c.val) && decide (c.val ≤ b.val)) = true ↔ a ≤ c ∧ c ≤ b := by
    rw [Bool.and_eq_true_iff, decide_eq_true_iff, decide_eq_true_iff, Char.le_def, Char.le_def]
  have hupper : c.isUpper = true ↔ 'A' ≤ c ∧ c ≤ 'Z' := decide_eq_true_iff
  have hlower : c.isLower = true ↔ 'a' ≤ c ∧ c ≤ 'z' := hrange 'a' 'z'
  have hdigit : c.isDigit = true ↔ '0' ≤ c ∧ c ≤ '9' := hrange '0' '9'
  have halphanum : c.isAlphanum = (c.isUpper || c.isLower || c.isDigit) := rfl
  simp only [isPathChar, halphanum, Bool.or_eq_true, decide_eq_true_eq, hupper, hlower, hdigit,
    or_assoc]

theorem holds_alphabet_iff : alphabet.Holds c ↔ isPathChar c = true := by
  have hsingle (d : Char) : d ≤ c ∧ c ≤ d ↔ c = d := by
    constructor
    · rintro ⟨hle, hge⟩
      exact Char.le_antisymm hge hle
    · rintro rfl
      exact ⟨Char.le_refl c, Char.le_refl c⟩
  simp only [CharSet.Holds, alphabet, isPathChar_iff, List.exists_mem_cons_iff, List.not_mem_nil,
    false_and, exists_false, or_false, hsingle]
  tauto

/-- The characters of a path are ASCII. -/
theorem toNat_lt_of_isPathChar (h : isPathChar c = true) : c.toNat < 128 := by
  have hle {d : Char} (hd : c ≤ d) : c.toNat ≤ d.toNat := UInt32.le_iff_toNat_le.1 hd
  rcases isPathChar_iff.1 h with h | h | h | rfl | rfl | rfl | rfl
  · exact Nat.lt_of_le_of_lt (hle h.2) (by decide)
  · exact Nat.lt_of_le_of_lt (hle h.2) (by decide)
  · exact Nat.lt_of_le_of_lt (hle h.2) (by decide)
  all_goals decide

/-! ## The pattern -/

/-- The pattern of the grammar: one character of the alphabet or more, held at both ends. -/
theorem read?_pattern :
    Pattern.read? pattern = some (.anchored (.repeated (.oneOf alphabet))) := by
  decide

theorem isPath_iff_matchesAll :
    IsPath text ↔ (Pattern.repeated (.oneOf alphabet)).MatchesAll text := by
  rw [IsPath, Pattern.MatchesAll, Pattern.matches_repeated_oneOf_iff, ne_eq, ne_eq,
    String.toList_eq_nil_iff]
  simp only [holds_alphabet_iff]

/-- A text is a path just if the pattern is found in it. -/
theorem isPath_iff_foundIn :
    IsPath text ↔ (Pattern.anchored (.repeated (.oneOf alphabet))).FoundIn text := by
  rw [Pattern.foundIn_anchored_iff, isPath_iff_matchesAll]

/-! ## Where paths are given -/

theorem exists_ofText_iff : (∃ p, ofText text = .ok p) ↔ IsPath text := by
  simp only [ofText_eq_ok_iff]
  constructor
  · rintro ⟨p, rfl⟩
    exact p.isPath
  · intro h
    exact ⟨⟨text, h⟩, rfl⟩

/-- A text that is no path is handed back in the failure. -/
theorem ofText_eq_error_iff :
    ofText text = .error failure ↔ ¬ IsPath text ∧ failure = .invalidPath text := by
  rw [ofText]
  split
  · rename_i h
    simp only [reduceCtorEq, h, not_true_eq_false, false_and]
  · rename_i h
    simp only [Except.error.injEq, h, not_false_eq_true, true_and, eq_comm]

end Path

namespace Target

/-- There is no ARN just where there is no path. -/
theorem resourceArn_eq_error_iff {t : Target} {v : Verb} {text : String} {failure : Failure} :
    t.resourceArn v text = .error failure ↔ Path.ofText text = .error failure := by
  rw [resourceArn]
  cases Path.ofText text with
  | error failure' => simp only [Except.map, Except.error.injEq]
  | ok p => simp only [Except.map, reduceCtorEq]

end Target

/-- An operation fails just where there is no path. -/
theorem Operation.apply_eq_error_iff_ofText {o : Operation} {p : Policy} {failure : Failure} :
    o.apply p = .error failure ↔ Path.ofText o.step.path = .error failure := by
  rw [apply_eq_error_iff, Path.ofText_eq_error_iff]

/-! ## One grammar everywhere -/

/-- What becomes of a text wherever it is given as a path. -/
structure Path.JudgedAlike (text : String) : Prop where
  /-- It is a path just if it is not empty and has no characters but ASCII letters and digits,
  slashes, points, stars and hyphens. -/
  accepted : (∃ p, ofText text = .ok p) ↔
    text ≠ "" ∧ ∀ c ∈ text.toList, 'A' ≤ c ∧ c ≤ 'Z' ∨ 'a' ≤ c ∧ c ≤ 'z' ∨ '0' ≤ c ∧ c ≤ '9' ∨
      c = '/' ∨ c = '.' ∨ c = '*' ∨ c = '-'
  /-- It is one just if the pattern of the grammar is found in it, and so just if the whole text
  matches the pattern. -/
  matched : ∃ p, Pattern.read? pattern = some p ∧ ((∃ q, ofText text = .ok q) ↔ p.FoundIn text) ∧
    ((∃ q, ofText text = .ok q) ↔ p.MatchesAll text)
  /-- Any other text fails and is named by the failure. -/
  rejected : (¬ ∃ p, ofText text = .ok p) → ofText text = .error (.invalidPath text)
  /-- A newline at the end is not passed over, -/
  newline : '\n' ∈ text.toList.getLast? → ofText text = .error (.invalidPath text)
  /-- and characters beyond ASCII have no place in a path. -/
  ascii : ∀ c ∈ text.toList, 128 ≤ c.toNat → ofText text = .error (.invalidPath text)
  /-- An ARN is refused to the same texts with the same failure, -/
  resource : ∀ (t : Target) v failure,
    t.resourceArn v text = .error failure ↔ ofText text = .error failure
  /-- so is a grant, -/
  added : ∀ (p : Policy) effect v conditions failure,
    p.add effect v text conditions = .error failure ↔ ofText text = .error failure
  /-- and so is every operation that grants something on the path. -/
  operations : ∀ (o : Operation) p failure, o.step.path = text →
    (o.apply p = .error failure ↔ ofText text = .error failure)
  /-- The ARN of a path is that of the stage, the token of the verb, and the path without one slash
  at its head, if there is one. A grant is kept for this ARN. -/
  composed : (∃ q, ofText text = .ok q) →
    ∃ rest, (text = "/" ++ rest ∨ ¬ Rooted text ∧ text = rest) ∧
    ∀ (t : Target) v, ∃ arn, t.resourceArn v text = .ok arn ∧
      arn = "arn:" ++ t.partition ++ ":" ++ "execute-api" ++ ":" ++ t.region ++ ":" ++ t.account ++
        ":" ++ t.api ++ "/" ++ t.stage ++ "/" ++ v.token ++ "/" ++ rest ∧
      ∀ (p : Policy) effect conditions, p.target = t →
        p.add effect v text conditions = .ok (p.record ⟨effect, arn, conditions⟩)

/-- Every text is judged by the path grammar alone, and alike wherever it is given as a path. -/
theorem path_grammar (text : String) : Path.JudgedAlike text where
  accepted := by
    rw [Path.exists_ofText_iff, IsPath]
    simp only [Path.isPathChar_iff]
  matched := by
    refine ⟨_, Path.read?_pattern, ?_, ?_⟩
    · rw [Path.exists_ofText_iff, Path.isPath_iff_foundIn]
    · rw [Path.exists_ofText_iff, Path.isPath_iff_matchesAll]
      simp only [Pattern.MatchesAll, Pattern.matches_anchored_iff, true_and]
  rejected hnone := by
    rw [Path.exists_ofText_iff] at hnone
    exact Path.ofText_eq_error_iff.2 ⟨hnone, rfl⟩
  newline hlast := by
    refine Path.ofText_eq_error_iff.2 ⟨fun hpath => ?_, rfl⟩
    have hchar := hpath.2 _ (List.mem_of_getLast? hlast)
    exact absurd hchar (by decide)
  ascii c hc hcode := by
    refine Path.ofText_eq_error_iff.2 ⟨fun hpath => ?_, rfl⟩
    have hlt := Path.toNat_lt_of_isPathChar (hpath.2 c hc)
    omega
  resource _ _ _ := Target.resourceArn_eq_error_iff
  added p effect v conditions _ :=
    Operation.apply_eq_error_iff_ofText (o := .add effect v text conditions)
  operations o p _ ho := by rw [← ho, Operation.apply_eq_error_iff_ofText]
  composed := by
    rintro ⟨p, hp⟩
    obtain rfl := Path.ofText_eq_ok_iff.1 hp
    refine ⟨p.relative, p.text_eq_relative, fun t v => ?_⟩
    have harn : t.resourceArn v p.text = .ok (t.methodArn v p) :=
      Target.resourceArn_eq_ok_iff.2 ⟨p, rfl, rfl⟩
    refine ⟨_, harn, rfl, ?_⟩
    rintro policy effect conditions rfl
    rw [Policy.add, harn]
    rfl

/-- A newline at the end spoils a path and so does a letter beyond ASCII. A star alone is a path,
and of two slashes one is kept. -/
theorem path_grammar_newline :
    Path.ofText "/pets\n" = .error (.invalidPath "/pets\n") ∧
    (∀ (t : Target) v, t.resourceArn v "/pets\n" = .error (.invalidPath "/pets\n")) ∧
    (∀ p : Policy, p.denyAll ≠ .error (.invalidPath "*") ∧
      p.allow .get "/café" = .error (.invalidPath "/café")) ∧
    Target.resourceArn ⟨"eu-west-1", "1", "api", "prod", "aws"⟩ .get "//" =
      .ok "arn:aws:execute-api:eu-west-1:1:api/prod/GET//" := by
  have hnewline := (path_grammar "/pets\n").newline rfl
  have hletter := (path_grammar "/café").ascii 'é' (by decide) (by decide)
  refine ⟨hnewline, fun t v => ?_, fun p => ⟨fun hp => ?_, ?_⟩, ?_⟩
  · exact ((path_grammar "/pets\n").resource t v _).2 hnewline
  · have hstar := ((path_grammar "*").operations .denyAll p _ rfl).1 hp
    exact (Path.ofText_eq_error_iff.1 hstar).1 (by decide)
  · exact ((path_grammar "/café").added p .allow .get ∅ _).2 hletter
  · obtain ⟨rest, hrest, harn⟩ := (path_grammar "//").composed ⟨⟨"//", by decide⟩, rfl⟩
    obtain rfl : rest = "/" := Path.eq_of_slash_append hrest rfl
    obtain ⟨arn, harn, rfl, -⟩ := harn ⟨"eu-west-1", "1", "api", "prod", "aws"⟩ .get
    exact harn

end GatewayAccess
