import GatewayAccess.Proofs.ArnForm
import Mathlib.Data.List.DropRight

/-! # The canonical form of a method ARN

Of the forms that name a method up to its path, one is canonical: it ends at the stage if there is
no verb, and has both slashes otherwise. The text of a method that was read is the canonical form of
the text: `ArnForm.text_method`. So writing what was read once more changes nothing, and a text is
written as it was read just if it is canonical, which its slashes show: `text_canonical_iff`.
-/

namespace GatewayAccess

/-! ## Tails -/

namespace ArnTail

/-- The tail as it is written for a method. -/
def canonical (t : ArnTail) : ArnTail :=
  if t.verbText = "" then none else path t.verbText t.pathText

/-- The verb stays, and it is all that decides on the form. -/
theorem verbText_canonical (t : ArnTail) : t.canonical.verbText = t.verbText := by
  unfold canonical
  by_cases h : t.verbText = ""
  · rw [if_pos h, h]
    rfl
  · rw [if_neg h]
    rfl

theorem pathText_canonical (t : ArnTail) :
    t.canonical.pathText = if t.verbText = "" then "" else t.pathText := by
  unfold canonical
  by_cases h : t.verbText = ""
  · rw [if_pos h, if_pos h]
    rfl
  · rw [if_neg h, if_neg h]
    rfl

theorem canonical_canonical (t : ArnTail) : t.canonical.canonical = t.canonical := by
  by_cases h : t.verbText = ""
  · rw [canonical, verbText_canonical, if_pos h, canonical, if_pos h]
  · rw [canonical, verbText_canonical, pathText_canonical, if_neg h, if_neg h, canonical, if_neg h]

/-- The stretches between the slashes of a tail. -/
def parts : ArnTail → List (List Char)
  | none => []
  | verb v => [v.toList]
  | path v p => v.toList :: segments '/' p.toList

/-- A tail is canonical if nothing is written of it, or a verb with the slash behind it. -/
theorem canonical_eq_self_iff (t : ArnTail) :
    t.canonical = t ↔ t.parts.length = 0 ∨ 2 ≤ t.parts.length ∧ t.parts[0]? ≠ some [] := by
  cases t with
  | none => exact iff_of_true rfl (.inl rfl)
  | verb v =>
      refine iff_of_false ?_ (fun h => absurd h (by simp [parts]))
      unfold canonical
      split <;> simp only [reduceCtorEq, not_false_eq_true]
  | path v p =>
      have hlength : (path v p).parts.length = p.toList.count '/' + 2 := by
        rw [parts, List.length_cons, length_segments]
      have hhead : (path v p).parts[0]? ≠ some [] ↔ v ≠ "" := by
        rw [parts, List.getElem?_cons_zero, ne_eq, Option.some.injEq, String.toList_eq_nil_iff]
      rw [hhead, hlength, canonical]
      by_cases hv : v = ""
      · simp only [verbText, hv, if_true, reduceCtorEq, ne_eq, not_true_eq_false, and_false,
          or_false]
      · simp only [verbText, hv, if_false, pathText, ne_eq, not_false_eq_true, and_true, true_iff]
        omega

/-- Behind a stage, the stretches of the text of a tail follow that of the stage. -/
theorem segments_append_text {stage : List Char} (hstage : '/' ∉ stage) (t : ArnTail)
    (hverb : '/' ∉ t.verbText.toList) :
    segments '/' (stage ++ t.text.toList) = stage :: t.parts := by
  cases t with
  | none =>
      rw [text, String.toList_empty, List.append_nil, segments_of_not_mem hstage]
      rfl
  | verb v =>
      have htext : (verb v).text.toList = '/' :: v.toList := by
        rw [text, String.toList_append]
        rfl
      have hv : '/' ∉ v.toList := hverb
      rw [htext, segments_append hstage, segments_of_not_mem hv]
      rfl
  | path v p =>
      have htext : (path v p).text.toList = '/' :: (v.toList ++ '/' :: p.toList) := by
        simp only [text, String.toList_append, List.append_assoc]
        rfl
      have hv : '/' ∉ v.toList := hverb
      rw [htext, segments_append hstage, segments_append hv]
      rfl

end ArnTail

/-! ## Forms -/

namespace ArnForm

/-- The form as it is written for the method that it names. -/
def canonical (f : ArnForm) : ArnForm where
  target := f.target
  tail := f.tail.canonical
  target_separable := f.target_separable
  verb_separable := by
    rw [ArnTail.verbText_canonical]
    exact f.verb_separable
  path_separable := by
    rw [ArnTail.pathText_canonical]
    by_cases h : f.tail.verbText = ""
    · rw [if_pos h]
      exact List.not_mem_nil
    · rw [if_neg h]
      exact f.path_separable

/-- The text of the method that a form names is that of its canonical form. -/
theorem text_method (f : ArnForm) : f.method.text = f.canonical.text := by
  have htail : f.canonical.text = f.target.stageArn ++ f.tail.canonical.text := f.canonical.text_eq
  rw [htail, MethodArn.text, ArnTail.canonical]
  by_cases h : f.tail.verbText = ""
  · rw [if_pos h, ArnTail.text, String.append_empty]
    exact if_pos h
  · rw [if_neg h, ArnTail.text]
    simp only [String.append_assoc]
    exact if_neg h

theorem canonical_canonical (f : ArnForm) : f.canonical.canonical = f.canonical := by
  unfold canonical
  simp only [ArnTail.canonical_canonical]

/-- A form is written as it stands just if its tail is. -/
theorem text_method_eq_iff (f : ArnForm) : f.method.text = f.text ↔ f.tail.canonical = f.tail := by
  rw [text_method, text_injective.eq_iff]
  obtain ⟨target, tail, _, _, _⟩ := f
  simp only [canonical, mk.injEq, true_and]

theorem toList_resource (f : ArnForm) :
    f.resource.toList =
      f.target.api.toList ++ '/' :: (f.target.stage.toList ++ f.tail.text.toList) := by
  unfold resource
  simp only [String.toList_append, List.append_assoc]
  rfl

/-- Between its slashes, the part of a form behind the account has the API, the stage and what the
tail has. -/
theorem segments_resource (f : ArnForm) :
    segments '/' f.resource.toList =
      f.target.api.toList :: f.target.stage.toList :: f.tail.parts := by
  have hapi := (isPiece_colon_slash.1 f.target_separable.api).2.2
  have hstage := (isPiece_colon_slash.1 f.target_separable.stage).2.2
  rw [toList_resource, segments_append hapi, ArnTail.segments_append_text hstage _
    f.verb_separable.2]

theorem colon_not_mem_resource (f : ArnForm) : ':' ∉ f.resource.toList := by
  rw [toList_resource, MethodArn.colon_not_mem_resource]
  have hapi := (isPiece_colon_slash.1 f.target_separable.api).2.1
  have hstage := (isPiece_colon_slash.1 f.target_separable.stage).2.1
  have htail := ArnTail.isTail_iff.2 ⟨f.tail, rfl, rfl, rfl⟩
  exact ⟨hapi, hstage, htail.colon_not_mem_iff.2 ⟨f.verb_separable.1, f.path_separable⟩⟩

end ArnForm

/-! ## Texts -/

/-- The characters behind the last separator; all of them if there is none. -/
def behindLast (sep : Char) (cs : List Char) : List Char := cs.rtakeWhile (· ≠ sep)

theorem behindLast_append {sep : Char} {after : List Char} (h : sep ∉ after)
    (before : List Char) : behindLast sep (before ++ sep :: after) = after := by
  unfold behindLast List.rtakeWhile
  have hall : ∀ c ∈ after.reverse, decide (c ≠ sep) = true := by
    intro c hc
    exact decide_eq_true fun heq => h (heq ▸ List.mem_reverse.1 hc)
  rw [List.reverse_append, List.reverse_cons, List.append_assoc, List.takeWhile_append_of_pos hall,
    List.singleton_append, List.takeWhile_cons_of_neg (by simp), List.append_nil,
    List.reverse_reverse]

/-- The text of a method that was read is read again, with the same target, and written again as it
stands. It is the text that was read just if, behind the last colon, there is a single slash, or
there are at least three and the second and the third do not meet. -/
theorem text_canonical_iff {text : String} {m : MethodArn} (h : MethodArn.ofText text = .ok m) :
    (∃ again, MethodArn.ofText m.text = .ok again ∧ again.target = m.target ∧
        again.text = m.text) ∧
      (m.text = text ↔
        (behindLast ':' text.toList).count '/' = 1 ∨
          3 ≤ (behindLast ':' text.toList).count '/' ∧
            (segments '/' (behindLast ':' text.toList))[2]? ≠ some []) := by
  obtain ⟨f, rfl, rfl⟩ := ArnForm.exists_of_ofText? (MethodArn.ofText_eq_ok_iff.1 h)
  constructor
  · refine ⟨f.canonical.method, ?_, rfl, ?_⟩
    · rw [f.text_method, MethodArn.ofText_eq_ok_iff]
      exact f.canonical.ofText?_text
    · rw [ArnForm.text_method, ArnForm.text_method, ArnForm.canonical_canonical]
  · have hbehind : behindLast ':' f.text.toList = f.resource.toList := by
      unfold ArnForm.text
      rw [String.toList_append, String.toList_append, List.append_assoc]
      exact behindLast_append f.colon_not_mem_resource _
    have hcount : f.resource.toList.count '/' = f.tail.parts.length + 1 := by
      have hlength := length_segments '/' f.resource.toList
      rw [f.segments_resource, List.length_cons, List.length_cons] at hlength
      omega
    have hone : f.tail.parts.length + 1 = 1 ↔ f.tail.parts.length = 0 := by omega
    have hthree : 3 ≤ f.tail.parts.length + 1 ↔ 2 ≤ f.tail.parts.length := by omega
    rw [f.text_method_eq_iff, f.tail.canonical_eq_self_iff, hbehind, f.segments_resource, hcount,
      List.getElem?_cons_succ, List.getElem?_cons_succ, hone, hthree]

/-- A text that ends at the stage is written as it was read, and so is one with a slash behind its
verb. A verb gets the slash that it lacks, and what follows an empty verb is left out. -/
theorem text_canonical_iff_slashes :
    (∃ m, MethodArn.ofText "arn:aws:execute-api:eu-west-1:1:api/prod" = .ok m ∧
      m.text = "arn:aws:execute-api:eu-west-1:1:api/prod") ∧
    (∃ m, MethodArn.ofText "arn:aws:execute-api:eu-west-1:1:api/prod/GET//a" = .ok m ∧
      m.text = "arn:aws:execute-api:eu-west-1:1:api/prod/GET//a") ∧
    (∃ m, MethodArn.ofText "arn:aws:execute-api:eu-west-1:1:api/prod/GET" = .ok m ∧
      m.text ≠ "arn:aws:execute-api:eu-west-1:1:api/prod/GET") ∧
    ∃ m, MethodArn.ofText "arn:aws:execute-api:eu-west-1:1:api/prod//a" = .ok m ∧
      m.text ≠ "arn:aws:execute-api:eu-west-1:1:api/prod//a" := by
  have hstage : MethodArn.ofText "arn:aws:execute-api:eu-west-1:1:api/prod" =
      .ok ⟨⟨"eu-west-1", "1", "api", "prod", "aws"⟩, "", ""⟩ :=
    MethodArn.ofText_eq_ok_iff.2 (by decide)
  have hpath : MethodArn.ofText "arn:aws:execute-api:eu-west-1:1:api/prod/GET//a" =
      .ok ⟨⟨"eu-west-1", "1", "api", "prod", "aws"⟩, "GET", "/a"⟩ :=
    MethodArn.ofText_eq_ok_iff.2 (by decide)
  have hverb : MethodArn.ofText "arn:aws:execute-api:eu-west-1:1:api/prod/GET" =
      .ok ⟨⟨"eu-west-1", "1", "api", "prod", "aws"⟩, "GET", ""⟩ :=
    MethodArn.ofText_eq_ok_iff.2 (by decide)
  have hempty : MethodArn.ofText "arn:aws:execute-api:eu-west-1:1:api/prod//a" =
      .ok ⟨⟨"eu-west-1", "1", "api", "prod", "aws"⟩, "", "a"⟩ :=
    MethodArn.ofText_eq_ok_iff.2 (by decide)
  refine ⟨⟨_, hstage, ?_⟩, ⟨_, hpath, ?_⟩, ⟨_, hverb, ?_⟩, ⟨_, hempty, ?_⟩⟩
  · exact (text_canonical_iff hstage).2.2 (by decide)
  · exact (text_canonical_iff hpath).2.2 (by decide)
  · rw [ne_eq, (text_canonical_iff hverb).2]
    decide
  · rw [ne_eq, (text_canonical_iff hempty).2]
    decide

end GatewayAccess
