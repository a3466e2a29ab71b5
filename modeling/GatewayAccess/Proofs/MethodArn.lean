import GatewayAccess.MethodArn
import GatewayAccess.Proofs.Segments

/-! # The grammar of method ARNs

A target is separable when its pieces can be told apart in an ARN: none is empty or holds the
character that ends it. `ofText?_eq_some_iff` says that the ARN texts read are the spellings of
methods of separable targets, and `ofText?_methodArn` that the ARN of a grant on such a target is
read as that verb and path of that target.
-/

namespace GatewayAccess

/-- A text that is not empty and holds none of some separators. -/
def IsPiece (separators : List Char) (text : String) : Prop :=
  text ≠ "" ∧ ∀ sep ∈ separators, sep ∉ text.toList

instance (separators : List Char) (text : String) : Decidable (IsPiece separators text) :=
  decidable_of_iff ((text != "" && separators.all fun sep => !text.toList.contains sep) = true)
    (by simp [IsPiece])

theorem isPiece_colon {text : String} :
    IsPiece [':'] text ↔ text ≠ "" ∧ ':' ∉ text.toList := by
  rw [IsPiece, List.forall_mem_singleton]

theorem isPiece_colon_slash {text : String} :
    IsPiece [':', '/'] text ↔ text ≠ "" ∧ ':' ∉ text.toList ∧ '/' ∉ text.toList := by
  rw [IsPiece, List.forall_mem_cons, List.forall_mem_singleton]

/-- The pieces of a target can be told apart in an ARN. -/
structure Target.Separable (t : Target) : Prop where
  partition : IsPiece [':'] t.partition
  region : IsPiece [':'] t.region
  account : IsPiece [':'] t.account
  api : IsPiece [':', '/'] t.api
  stage : IsPiece [':', '/'] t.stage

instance (t : Target) : Decidable t.Separable :=
  decidable_of_iff
    (IsPiece [':'] t.partition ∧ IsPiece [':'] t.region ∧ IsPiece [':'] t.account ∧
      IsPiece [':', '/'] t.api ∧ IsPiece [':', '/'] t.stage)
    ⟨fun ⟨partition, region, account, api, stage⟩ => ⟨partition, region, account, api, stage⟩,
      fun ⟨partition, region, account, api, stage⟩ => ⟨partition, region, account, api, stage⟩⟩

/-- The text of an ARN up to the account. -/
def Target.accountArn (t : Target) : String :=
  "arn:" ++ t.partition ++ ":" ++ service ++ ":" ++ t.region ++ ":" ++ t.account ++ ":"

namespace MethodArn

/-- The pieces of a method can be told apart in an ARN. Unlike those of the target, verb and path
may be empty. -/
structure Separable (m : MethodArn) : Prop where
  target : m.target.Separable
  verb : ':' ∉ m.verb.toList ∧ '/' ∉ m.verb.toList
  path : ':' ∉ m.path.toList

/-- What may stand behind the stage of a verb and a path. An empty path may be left out, and an
empty verb with it. -/
inductive IsTail : List Char → List Char → List Char → Prop where
  | none : IsTail [] [] []
  | verb (verb : List Char) : IsTail verb [] ('/' :: verb)
  | path (verb path : List Char) : IsTail verb path ('/' :: (verb ++ '/' :: path))

/-- The ARN texts of a method. -/
def Spelling (m : MethodArn) (text : String) : Prop :=
  ∃ tail, IsTail m.verb.toList m.path.toList tail ∧ text = m.target.stageArn ++ String.ofList tail

theorem IsTail.colon_not_mem_iff {verb path tail : List Char} (h : IsTail verb path tail) :
    ':' ∉ tail ↔ ':' ∉ verb ∧ ':' ∉ path := by
  have hne : ':' ≠ '/' := by decide
  cases h with
  | none => simp only [List.not_mem_nil, not_false_eq_true, and_self]
  | verb verb =>
      simp only [List.mem_cons, List.not_mem_nil, hne, not_or, not_false_eq_true, true_and,
        and_true]
  | path verb path =>
      simp only [List.mem_append, List.mem_cons, hne, not_or, not_false_eq_true, true_and]

/-! ## The part behind the account -/

/-- The part behind the account has a stage just if it is an API, a slash, the stage and a tail. -/
theorem resourceParts_eq_iff {resource api stage verb path : List Char} (hstage : stage ≠ []) :
    resourceParts resource = (api, stage, verb, path) ↔
      ('/' ∉ api ∧ '/' ∉ stage ∧ '/' ∉ verb) ∧
        ∃ tail, IsTail verb path tail ∧ resource = api ++ '/' :: (stage ++ tail) := by
  constructor
  · intro h
    rw [resourceParts] at h
    -- One case for each slash that may be missing; without the first there is no stage.
    rcases h₁ : cut '/' resource with ⟨before₁, _ | after₁⟩
    · rw [h₁] at h
      simp only [Option.getD_none, cut, Prod.mk.injEq] at h
      exact absurd h.2.1.symm hstage
    · obtain ⟨hn₁, rfl⟩ := cut_eq_some_iff.1 h₁
      rcases h₂ : cut '/' after₁ with ⟨before₂, _ | after₂⟩
      · obtain ⟨hn₂, rfl⟩ := cut_eq_none_iff.1 h₂
        simp only [h₁, h₂, Option.getD_some, Option.getD_none, cut, Prod.mk.injEq] at h
        obtain ⟨rfl, rfl, rfl, rfl⟩ := h
        exact ⟨⟨hn₁, hn₂, List.not_mem_nil⟩, [], .none, by rw [List.append_nil]⟩
      · obtain ⟨hn₂, rfl⟩ := cut_eq_some_iff.1 h₂
        rcases h₃ : cut '/' after₂ with ⟨before₃, _ | after₃⟩
        · obtain ⟨hn₃, rfl⟩ := cut_eq_none_iff.1 h₃
          simp only [h₁, h₂, h₃, Option.getD_some, Option.getD_none, Prod.mk.injEq] at h
          obtain ⟨rfl, rfl, rfl, rfl⟩ := h
          exact ⟨⟨hn₁, hn₂, hn₃⟩, _, .verb _, rfl⟩
        · obtain ⟨hn₃, rfl⟩ := cut_eq_some_iff.1 h₃
          simp only [h₁, h₂, h₃, Option.getD_some, Prod.mk.injEq] at h
          obtain ⟨rfl, rfl, rfl, rfl⟩ := h
          exact ⟨⟨hn₁, hn₂, hn₃⟩, _, .path _ _, rfl⟩
  · rintro ⟨⟨hapi, hstage', hverb⟩, tail, htail, rfl⟩
    cases htail with
    | none =>
        simp only [resourceParts, cut_append hapi, List.append_nil, cut_of_not_mem hstage',
          Option.getD_some, Option.getD_none, cut]
    | verb =>
        simp only [resourceParts, cut_append hapi, cut_append hstage', cut_of_not_mem hverb,
          Option.getD_some, Option.getD_none]
    | path =>
        simp only [resourceParts, cut_append hapi, cut_append hstage', cut_append hverb,
          Option.getD_some]

/-! ## The whole text -/

/-- The pieces of an ARN text up to the account, and the part behind it. -/
theorem segments_eq_iff_accountArn {t : Target} {text resource : String} :
    segments ':' text.toList =
        ["arn".toList, t.partition.toList, Target.service.toList, t.region.toList,
          t.account.toList, resource.toList] ↔
      (':' ∉ t.partition.toList ∧ ':' ∉ t.region.toList ∧ ':' ∉ t.account.toList ∧
          ':' ∉ resource.toList) ∧
        text = t.accountArn ++ resource := by
  have hjoin : [':'].intercalate
      ["arn".toList, t.partition.toList, Target.service.toList, t.region.toList,
        t.account.toList, resource.toList] = (t.accountArn ++ resource).toList := by
    simp only [List.intercalate_cons_cons, List.intercalate_singleton, Target.accountArn,
      String.toList_append, List.append_assoc]
    rfl
  have hfixed : ':' ∉ "arn".toList ∧ ':' ∉ Target.service.toList := by decide
  rw [segments_eq_iff, hjoin, String.toList_inj]
  simp only [List.forall_mem_cons, ne_eq, reduceCtorEq, not_false_eq_true, true_and, hfixed,
    List.not_mem_nil, false_implies, implies_true, and_true, and_assoc]

/-- The texts that are read as a method, by the part behind the account. -/
theorem ofText?_eq_some_iff_resource {text : String} {m : MethodArn} :
    ofText? text = some m ↔
      ∃ resource : String,
        segments ':' text.toList =
            ["arn".toList, m.target.partition.toList, Target.service.toList,
              m.target.region.toList, m.target.account.toList, resource.toList] ∧
          resourceParts resource.toList =
            (m.target.api.toList, m.target.stage.toList, m.verb.toList, m.path.toList) ∧
          m.target.partition ≠ "" ∧ m.target.region ≠ "" ∧ m.target.account ≠ "" ∧
          m.target.api ≠ "" ∧ m.target.stage ≠ "" := by
  constructor
  · intro h
    rw [ofText?] at h
    split at h
    · rename_i arn partition service region account resource hmap
      have hsegments : segments ':' text.toList =
          [arn, partition, service, region, account, resource].map String.toList := by
        rw [← hmap, List.map_map]
        simp only [Function.comp_def, String.toList_ofList, List.map_id']
      rcases hparts : resourceParts resource.toList with ⟨api, stage, verb, path⟩
      simp only [hparts] at h
      split at h
      · rename_i hpieces
        obtain ⟨rfl, rfl, hpartition, hregion, haccount, hapi, hstage⟩ := hpieces
        cases h
        refine ⟨resource, hsegments, ?_, hpartition, hregion, haccount, ?_, ?_⟩
        · simp only [hparts, String.toList_ofList]
        · rwa [ne_eq, String.ofList_eq_empty_iff]
        · rwa [ne_eq, String.ofList_eq_empty_iff]
      · cases h
    · cases h
  · rintro ⟨resource, hsegments, hparts, hpartition, hregion, haccount, hapi, hstage⟩
    have hpieces : m.target.api.toList ≠ [] ∧ m.target.stage.toList ≠ [] := by
      rw [ne_eq, String.toList_eq_nil_iff, ne_eq, String.toList_eq_nil_iff]
      exact ⟨hapi, hstage⟩
    rw [ofText?, hsegments]
    simp only [List.map_cons, List.map_nil, String.ofList_toList, hparts]
    rw [if_pos ⟨trivial, trivial, hpartition, hregion, haccount, hpieces⟩]

/-- The ARN of a stage by the part behind the account. -/
theorem stageArn_append_eq_iff {t : Target} {resource : String} {tail : List Char} :
    t.accountArn ++ resource = t.stageArn ++ String.ofList tail ↔
      resource.toList = t.api.toList ++ '/' :: (t.stage.toList ++ tail) := by
  have hstage : t.stageArn = t.accountArn ++ t.api ++ "/" ++ t.stage := rfl
  rw [hstage, ← String.toList_inj]
  simp only [String.toList_append, String.toList_ofList, List.append_assoc,
    List.append_cancel_left_eq]
  exact Iff.rfl

theorem colon_not_mem_resource {api stage tail : List Char} :
    ':' ∉ api ++ '/' :: (stage ++ tail) ↔ ':' ∉ api ∧ ':' ∉ stage ∧ ':' ∉ tail := by
  have hne : ':' ≠ '/' := by decide
  simp only [List.mem_append, List.mem_cons, hne, not_or, not_false_eq_true, true_and]

/-- The texts that are read as a method are its spellings, if its pieces can be told apart. -/
theorem ofText?_eq_some_iff {text : String} {m : MethodArn} :
    ofText? text = some m ↔ m.Separable ∧ m.Spelling text := by
  rw [ofText?_eq_some_iff_resource]
  constructor
  · rintro ⟨resource, hsegments, hparts, hpartition, hregion, haccount, hapi, hstage⟩
    obtain ⟨⟨hp, hr, ha, hres⟩, rfl⟩ := segments_eq_iff_accountArn.1 hsegments
    have hstage' : m.target.stage.toList ≠ [] := by rwa [ne_eq, String.toList_eq_nil_iff]
    obtain ⟨⟨hslash₁, hslash₂, hslash₃⟩, tail, htail, hresource⟩ :=
      (resourceParts_eq_iff hstage').1 hparts
    rw [hresource, colon_not_mem_resource, htail.colon_not_mem_iff] at hres
    obtain ⟨hcolon₁, hcolon₂, hcolon₃, hcolon₄⟩ := hres
    refine ⟨⟨⟨?_, ?_, ?_, ?_, ?_⟩, ⟨hcolon₃, hslash₃⟩, hcolon₄⟩, tail, htail,
      stageArn_append_eq_iff.2 hresource⟩
    · exact isPiece_colon.2 ⟨hpartition, hp⟩
    · exact isPiece_colon.2 ⟨hregion, hr⟩
    · exact isPiece_colon.2 ⟨haccount, ha⟩
    · exact isPiece_colon_slash.2 ⟨hapi, hcolon₁, hslash₁⟩
    · exact isPiece_colon_slash.2 ⟨hstage, hcolon₂, hslash₂⟩
  · rintro ⟨⟨⟨hpartition, hregion, haccount, hapi, hstage⟩, ⟨hverb, hverb'⟩, hpath⟩, tail, htail,
      rfl⟩
    rw [isPiece_colon] at hpartition hregion haccount
    rw [isPiece_colon_slash] at hapi hstage
    -- Whatever the tail leaves out, the part behind the account is cut in the same places.
    let resource := m.target.api ++ "/" ++ m.target.stage ++ String.ofList tail
    have hresource :
        resource.toList = m.target.api.toList ++ '/' :: (m.target.stage.toList ++ tail) := by
      simp only [resource, String.toList_append, String.toList_ofList, List.append_assoc]
      rfl
    have hcolon : ':' ∉ resource.toList := by
      rw [hresource, colon_not_mem_resource, htail.colon_not_mem_iff]
      exact ⟨hapi.2.1, hstage.2.1, hverb, hpath⟩
    have hstage' : m.target.stage.toList ≠ [] := by
      rw [ne_eq, String.toList_eq_nil_iff]
      exact hstage.1
    refine ⟨resource, ?_, ?_, hpartition.1, hregion.1, haccount.1, hapi.1, hstage.1⟩
    · exact segments_eq_iff_accountArn.2 ⟨⟨hpartition.2, hregion.2, haccount.2, hcolon⟩,
        (stageArn_append_eq_iff.2 hresource).symm⟩
    · exact (resourceParts_eq_iff hstage').2
        ⟨⟨hapi.2.2, hstage.2.2, hverb'⟩, tail, htail, hresource⟩

/-! ## ARNs of grants -/

/-- The token of a verb is not cut by a separator. -/
theorem not_mem_token (v : Verb) : ':' ∉ v.token.toList ∧ '/' ∉ v.token.toList := by
  cases v <;> decide

/-- Dropping a slash leaves an end of the text. -/
theorem dropSlash_suffix (cs : List Char) : Path.dropSlash cs <:+ cs := by
  unfold Path.dropSlash
  split
  · exact List.suffix_cons _ _
  · exact List.suffix_rfl

/-- Below the verb a path keeps to its alphabet. -/
theorem isPathChar_of_mem_relative {p : Path} {c : Char} (h : c ∈ p.relative.toList) :
    isPathChar c = true := by
  rw [Path.relative, String.toList_ofList] at h
  exact p.isPath.2 c ((dropSlash_suffix _).subset h)

/-- The ARN of a grant on a separable target is read as the verb and the path granted. -/
theorem ofText?_methodArn {t : Target} (ht : t.Separable) (v : Verb) (p : Path) :
    ofText? (t.methodArn v p) = some ⟨t, v.token, p.relative⟩ := by
  have hcolon : ':' ∉ p.relative.toList := fun h =>
    absurd (isPathChar_of_mem_relative h) (by decide)
  refine ofText?_eq_some_iff.2 ⟨⟨ht, not_mem_token v, hcolon⟩, _, .path _ _, ?_⟩
  rw [Target.methodArn, ← String.toList_inj]
  simp only [String.toList_append, String.toList_ofList, List.append_assoc]
  rfl

/-- The target of an ARN that is read is separable. -/
theorem separable_of_ofText? {text : String} {m : MethodArn} (h : ofText? text = some m) :
    m.target.Separable :=
  (ofText?_eq_some_iff.1 h).1.target

/-- A text is read as a method, or refused by its own name. -/
theorem ofText_eq_ok_iff {text : String} {m : MethodArn} :
    ofText text = .ok m ↔ ofText? text = some m := by
  rw [ofText]
  cases ofText? text with
  | none => simp only [reduceCtorEq]
  | some n => simp only [Except.ok.injEq, Option.some.injEq]

theorem ofText_eq_error_iff {text : String} {failure : Failure} :
    ofText text = .error failure ↔
      ofText? text = none ∧ failure = .malformedMethodArn text := by
  rw [ofText]
  cases ofText? text with
  | none => simp only [Except.error.injEq, true_and, eq_comm]
  | some n => simp only [reduceCtorEq, false_and]

end MethodArn

end GatewayAccess
