import GatewayAccess.Proofs.MethodArn

/-! # ARNs of grants, compared

The ARN of a verb on a path keeps the verb, and of the path all but one slash at its head. So
whatever the pieces of a target hold, two grants on it share an ARN just if they name one verb and
their paths differ in that slash at most: `resourceArn_eq_iff`. The ARN of an invoked method keeps
the slash, so a grant for what was invoked has the ARN that was sent just if the path does not begin
with a slash, or gets one more: `resourceArn_invoked`.
-/

namespace GatewayAccess

/-! ## One slash at the head -/

namespace Path

/-- The text begins with a slash. -/
def Rooted (text : String) : Prop := ∃ rest, text = "/" ++ rest

/-- The second text is the first behind a slash, and the first begins with none. -/
def Slashed (text slashed : String) : Prop := ¬ Rooted text ∧ slashed = "/" ++ text

/-- A slash makes a text longer. -/
theorem ne_slash_append (text : String) : text ≠ "/" ++ text := by
  intro h
  have hlength : text.length = 1 + text.length :=
    (congrArg String.length h).trans (String.length_append ..)
  omega

/-- What is left of a text that begins with a slash is what follows the slash. -/
theorem eq_of_slash_append {text rest tail : String}
    (h : text = "/" ++ rest ∨ ¬ Rooted text ∧ text = rest) (htail : text = "/" ++ tail) :
    rest = tail := by
  rcases h with h | ⟨hrooted, -⟩
  · exact (String.append_right_inj "/").1 (h.symm.trans htail)
  · exact absurd ⟨tail, htail⟩ hrooted

variable {p q : Path}

theorem relative_of_rooted {rest : String} (h : p.text = "/" ++ rest) : p.relative = rest := by
  rw [relative, h, String.toList_append]
  exact String.ofList_toList

theorem relative_of_not_rooted (h : ¬ Rooted p.text) : p.relative = p.text := by
  have hdrop : dropSlash p.text.toList = p.text.toList := by
    unfold dropSlash
    split
    · rename_i rest hrest
      refine absurd ⟨String.ofList rest, ?_⟩ h
      rw [← String.toList_inj, hrest, String.toList_append]
      exact congrArg ('/' :: ·) String.toList_ofList.symm
    · rfl
  rw [relative, hdrop, String.ofList_toList]

/-- Below the verb a path is what it is behind one slash at its head, or all of it if it does not
begin with one. -/
theorem text_eq_relative (p : Path) :
    p.text = "/" ++ p.relative ∨ ¬ Rooted p.text ∧ p.text = p.relative := by
  by_cases h : Rooted p.text
  · obtain ⟨rest, hrest⟩ := h
    rw [relative_of_rooted hrest]
    exact .inl hrest
  · exact .inr ⟨h, (relative_of_not_rooted h).symm⟩

/-- Dropping a slash changes just the paths that begin with one. -/
theorem relative_eq_text_iff : p.relative = p.text ↔ ¬ Rooted p.text := by
  constructor
  · rintro h ⟨rest, hrest⟩
    rw [relative_of_rooted hrest, hrest] at h
    exact ne_slash_append rest h
  · exact relative_of_not_rooted

/-- Paths that are the same without a slash at the head are the same, or one is the other behind a
slash. -/
theorem relative_eq_iff :
    p.relative = q.relative ↔
      p.text = q.text ∨ Slashed p.text q.text ∨ Slashed q.text p.text := by
  have hslash (text : String) : Rooted ("/" ++ text) := ⟨text, rfl⟩
  by_cases hp : Rooted p.text
  · obtain ⟨rest, hrest⟩ := hp
    by_cases hq : Rooted q.text
    · obtain ⟨rest', hrest'⟩ := hq
      rw [relative_of_rooted hrest, relative_of_rooted hrest', hrest, hrest']
      simp only [Slashed, hslash, not_true_eq_false, false_and, or_false, String.append_right_inj]
    · rw [relative_of_rooted hrest, relative_of_not_rooted hq, hrest]
      have hne : "/" ++ rest ≠ q.text := fun h => hq ⟨rest, h.symm⟩
      simp only [Slashed, hslash, hq, hne, not_true_eq_false, not_false_eq_true, false_and,
        false_or, true_and, String.append_right_inj]
  · by_cases hq : Rooted q.text
    · obtain ⟨rest', hrest'⟩ := hq
      rw [relative_of_not_rooted hp, relative_of_rooted hrest', hrest']
      have hne : p.text ≠ "/" ++ rest' := fun h => hp ⟨rest', h⟩
      simp only [Slashed, hslash, hp, hne, not_true_eq_false, not_false_eq_true, false_and,
        false_or, or_false, true_and, String.append_right_inj, eq_comm]
    · rw [relative_of_not_rooted hp, relative_of_not_rooted hq]
      have hne (text : String) : q.text ≠ "/" ++ text := fun h => hq ⟨text, h⟩
      have hne' (text : String) : p.text ≠ "/" ++ text := fun h => hp ⟨text, h⟩
      simp only [Slashed, hne, hne', and_false, or_false]

end Path

/-! ## Grants that share an ARN -/

/-- The ARN of a grant is the text of the method that it grants. -/
theorem Target.methodArn_eq_text (t : Target) (v : Verb) (p : Path) :
    t.methodArn v p = MethodArn.text ⟨t, v.token, p.relative⟩ := by
  rw [MethodArn.text, if_neg v.token_ne_empty, methodArn]

/-- The verb of an ARN ends at the first slash behind the stage, and the path is what follows. -/
theorem Target.methodArn_inj {t : Target} {v w : Verb} {p q : Path} :
    t.methodArn v p = t.methodArn w q ↔ v = w ∧ p.relative = q.relative := by
  constructor
  · intro h
    have htail : v.token.toList ++ '/' :: p.relative.toList =
        w.token.toList ++ '/' :: q.relative.toList := by
      simp only [methodArn, ← String.toList_inj, String.toList_append, List.append_assoc,
        List.append_cancel_left_eq] at h
      exact h
    have hcut := cut_append (MethodArn.not_mem_token v).2 p.relative.toList
    rw [htail, cut_append (MethodArn.not_mem_token w).2, Prod.mk.injEq, Option.some.injEq,
      String.toList_inj, String.toList_inj, Verb.token_inj] at hcut
    exact ⟨hcut.1.symm, hcut.2.symm⟩
  · rintro ⟨rfl, h⟩
    rw [methodArn, methodArn, h]

/-- Two verbs on two paths of any target share an ARN just if the verbs are the same, and the paths
are the same once each has lost one slash at its head. Such paths are equal, or one is the other
behind a slash and the other begins with none. -/
theorem resourceArn_eq_iff (t : Target) (v w : Verb) {text other : String} {p q : Path}
    (hp : Path.ofText text = .ok p) (hq : Path.ofText other = .ok q) :
    ∃ arn arn', t.resourceArn v text = .ok arn ∧ t.resourceArn w other = .ok arn' ∧
      (arn = arn' ↔ v = w ∧ Path.dropSlash text.toList = Path.dropSlash other.toList) ∧
      (arn = arn' ↔
        v = w ∧ (text = other ∨ Path.Slashed text other ∨ Path.Slashed other text)) := by
  obtain rfl : p.text = text := Path.ofText_eq_ok_iff.1 hp
  obtain rfl : q.text = other := Path.ofText_eq_ok_iff.1 hq
  refine ⟨_, _, Target.resourceArn_eq_ok_iff.2 ⟨p, rfl, rfl⟩,
    Target.resourceArn_eq_ok_iff.2 ⟨q, rfl, rfl⟩, ?_, ?_⟩
  · rw [Target.methodArn_inj, Path.relative, Path.relative, String.ofList_inj]
  · rw [Target.methodArn_inj, Path.relative_eq_iff]

/-- On a target whose pieces hold separators a path may do without its slash. Two slashes are not
one, and a verb is not taken for the head of a path. -/
theorem resourceArn_eq_iff_separators :
    (∃ arn, Target.resourceArn ⟨"eu:west", "", "a/b", "prod/*", "aws"⟩ .all "*a" = .ok arn ∧
      Target.resourceArn ⟨"eu:west", "", "a/b", "prod/*", "aws"⟩ .all "/*a" = .ok arn) ∧
    Target.resourceArn ⟨"eu:west", "", "a/b", "prod/*", "aws"⟩ .get "/a" ≠
      Target.resourceArn ⟨"eu:west", "", "a/b", "prod/*", "aws"⟩ .get "//a" ∧
    Target.resourceArn ⟨"eu:west", "", "a/b", "prod/*", "aws"⟩ .all "a" ≠
      Target.resourceArn ⟨"eu:west", "", "a/b", "prod/*", "aws"⟩ .get "*/a" := by
  have hpath (text : String) (h : IsPath text) : Path.ofText text = .ok ⟨text, h⟩ :=
    Path.ofText_eq_ok_iff.2 rfl
  refine ⟨?_, ?_, ?_⟩
  · obtain ⟨arn, arn', harn, harn', hiff, -⟩ :=
      resourceArn_eq_iff ⟨"eu:west", "", "a/b", "prod/*", "aws"⟩ .all .all
        (hpath "*a" (by decide)) (hpath "/*a" (by decide))
    obtain rfl : arn = arn' := hiff.2 (by decide)
    exact ⟨arn, harn, harn'⟩
  · obtain ⟨arn, arn', harn, harn', hiff, -⟩ :=
      resourceArn_eq_iff ⟨"eu:west", "", "a/b", "prod/*", "aws"⟩ .get .get
        (hpath "/a" (by decide)) (hpath "//a" (by decide))
    rw [harn, harn', ne_eq, Except.ok.injEq, hiff]
    decide
  · obtain ⟨arn, arn', harn, harn', hiff, -⟩ :=
      resourceArn_eq_iff ⟨"eu:west", "", "a/b", "prod/*", "aws"⟩ .all .get
        (hpath "a" (by decide)) (hpath "*/a" (by decide))
    rw [harn, harn', ne_eq, Except.ok.injEq, hiff]
    decide

/-! ## Grants for what was invoked -/

/-- Behind a verb, methods of one target with different paths have different texts. -/
theorem MethodArn.text_inj_of_verb {t : Target} {verb path path' : String} (hverb : verb ≠ "") :
    text ⟨t, verb, path⟩ = text ⟨t, verb, path'⟩ ↔ path = path' := by
  rw [text, text, if_neg hverb, if_neg hverb, String.append_right_inj]

/-- A slash and characters of the alphabet make a path, also if there are none. -/
theorem isPath_slash_append {text : String} (h : ∀ c ∈ text.toList, isPathChar c = true) :
    IsPath ("/" ++ text) := by
  constructor
  · intro hempty
    exact absurd (String.append_eq_empty_iff.1 hempty).1 (by decide)
  · rw [String.toList_append]
    intro c hc
    rcases List.mem_append.1 hc with hc | hc
    · obtain rfl : c = '/' := List.mem_singleton.1 hc
      rfl
    · exact h c hc

/-- A grant for what an ARN text invokes, if it invokes a known verb, has an ARN just if the path is
one of the grammar. That ARN is the text of the method just if the path does not begin with a slash;
otherwise it is that of another method, whose path lacks this one slash. With a slash put before it,
a path of the alphabet gives the text of the method back, and so does an empty one. -/
theorem resourceArn_invoked {text : String} {m : MethodArn} {v : Verb}
    (h : MethodArn.ofText text = .ok m) (hv : Verb.ofToken m.verb = .ok v) :
    ((∃ arn, m.target.resourceArn v m.path = .ok arn) ↔
        m.path ≠ "" ∧ ∀ c ∈ m.path.toList, isPathChar c = true) ∧
      (∀ arn, m.target.resourceArn v m.path = .ok arn →
        (arn = m.text ↔ ¬ Path.Rooted m.path) ∧
          ∀ rest, m.path = "/" ++ rest →
            arn = MethodArn.text { m with path := rest } ∧
              MethodArn.ofText arn = .ok { m with path := rest } ∧ { m with path := rest } ≠ m) ∧
      ((∀ c ∈ m.path.toList, isPathChar c = true) →
        m.target.resourceArn v ("/" ++ m.path) = .ok m.text) := by
  have htarget : m.target.Separable :=
    MethodArn.separable_of_ofText? (MethodArn.ofText_eq_ok_iff.1 h)
  obtain ⟨t, verb, path⟩ := m
  obtain rfl : v.token = verb := Verb.ofToken_eq_ok_iff.1 hv
  refine ⟨⟨?_, ?_⟩, ?_, ?_⟩
  · rintro ⟨arn, harn⟩
    obtain ⟨p, rfl, -⟩ := Target.resourceArn_eq_ok_iff.1 harn
    exact p.isPath
  · intro hpath
    exact ⟨_, Target.resourceArn_eq_ok_iff.2 ⟨⟨path, hpath⟩, rfl, rfl⟩⟩
  · intro arn harn
    obtain ⟨p, rfl, rfl⟩ := Target.resourceArn_eq_ok_iff.1 harn
    have htext := t.methodArn_eq_text v p
    refine ⟨?_, fun rest hrest => ?_⟩
    · rw [htext, MethodArn.text_inj_of_verb v.token_ne_empty, Path.relative_eq_text_iff]
    · have hread := MethodArn.ofText_eq_ok_iff.2 (MethodArn.ofText?_methodArn htarget v p)
      rw [Path.relative_of_rooted hrest] at htext hread
      refine ⟨htext, hread, fun heq => ?_⟩
      have hsame : rest = p.text := congrArg MethodArn.path heq
      exact Path.ne_slash_append rest (hsame.trans hrest)
  · intro hpath
    refine Target.resourceArn_eq_ok_iff.2 ⟨⟨"/" ++ path, isPath_slash_append hpath⟩, rfl, ?_⟩
    rw [Target.methodArn_eq_text, Path.relative_of_rooted rfl]

/-- A path with two slashes at its head loses one, and an empty path has to be given one. -/
theorem resourceArn_invoked_slashes :
    (∃ m arn, MethodArn.ofText "arn:aws:execute-api:eu-west-1:1:api/prod/GET///a" = .ok m ∧
      m.target.resourceArn .get m.path = .ok arn ∧ arn ≠ m.text ∧
      MethodArn.ofText arn = .ok { m with path := "/a" }) ∧
    ∃ m, MethodArn.ofText "arn:aws:execute-api:eu-west-1:1:api/prod/*" = .ok m ∧
      (¬ ∃ arn, m.target.resourceArn .all m.path = .ok arn) ∧
      m.target.resourceArn .all ("/" ++ m.path) = .ok m.text := by
  have hslashes : MethodArn.ofText "arn:aws:execute-api:eu-west-1:1:api/prod/GET///a" =
      .ok ⟨⟨"eu-west-1", "1", "api", "prod", "aws"⟩, "GET", "//a"⟩ :=
    MethodArn.ofText_eq_ok_iff.2 (by decide)
  have hempty : MethodArn.ofText "arn:aws:execute-api:eu-west-1:1:api/prod/*" =
      .ok ⟨⟨"eu-west-1", "1", "api", "prod", "aws"⟩, "*", ""⟩ :=
    MethodArn.ofText_eq_ok_iff.2 (by decide)
  constructor
  · obtain ⟨hiff, hgrant, -⟩ := resourceArn_invoked (v := .get) hslashes rfl
    have hpath : IsPath "//a" := by decide
    obtain ⟨arn, harn⟩ := hiff.2 hpath
    obtain ⟨htext, hrest⟩ := hgrant arn harn
    refine ⟨_, arn, hslashes, harn, fun heq => ?_, (hrest "/a" rfl).2.1⟩
    exact htext.1 heq ⟨"/a", rfl⟩
  · obtain ⟨hiff, -, hslash⟩ := resourceArn_invoked (v := .all) hempty rfl
    refine ⟨_, hempty, ?_, hslash fun c hc => absurd hc List.not_mem_nil⟩
    rw [hiff]
    exact fun hpath => hpath.1 rfl

end GatewayAccess
