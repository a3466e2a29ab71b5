import GatewayAccess.Proofs.MethodArn
import Mathlib.Logic.Function.Basic

/-! # The forms of method ARNs

A form is a method ARN as it is written: the pieces up to the stage, and behind it nothing, a verb,
or a verb and a path. `ofText_forms` says that a text is read just if it is the text of a form, that
no text is that of two forms, and that what is read are the pieces of the form. Unlike a method, a
form tells an absent verb or path from an empty one.
-/

namespace GatewayAccess

/-- What is written behind the stage. -/
inductive ArnTail where
  | none
  | verb (v : String)
  | path (v p : String)
deriving DecidableEq

namespace ArnTail

/-- The verb, empty when there is none. -/
def verbText : ArnTail → String
  | none => ""
  | verb v => v
  | path v _ => v

/-- The path, empty when there is none. -/
def pathText : ArnTail → String
  | none => ""
  | verb _ => ""
  | path _ p => p

/-- A slash goes before each part that is there. -/
def text : ArnTail → String
  | none => ""
  | verb v => "/" ++ v
  | path v p => "/" ++ v ++ "/" ++ p

/-- The tails of forms are those of spellings. -/
theorem isTail_iff {verb path tail : List Char} :
    MethodArn.IsTail verb path tail ↔
      ∃ t : ArnTail,
        t.verbText.toList = verb ∧ t.pathText.toList = path ∧ t.text.toList = tail := by
  have hverb (v : String) : (ArnTail.verb v).text.toList = '/' :: v.toList := by
    rw [text, String.toList_append]
    rfl
  have hpath (v p : String) :
      (ArnTail.path v p).text.toList = '/' :: (v.toList ++ '/' :: p.toList) := by
    simp only [text, String.toList_append, List.append_assoc]
    rfl
  constructor
  · intro h
    cases h with
    | none => exact ⟨.none, String.toList_empty, String.toList_empty, String.toList_empty⟩
    | verb =>
        refine ⟨.verb (String.ofList verb), ?_, String.toList_empty, ?_⟩
        · rw [verbText, String.toList_ofList]
        · rw [hverb, String.toList_ofList]
    | path =>
        refine ⟨.path (String.ofList verb) (String.ofList path), ?_, ?_, ?_⟩
        · rw [verbText, String.toList_ofList]
        · rw [pathText, String.toList_ofList]
        · rw [hpath, String.toList_ofList, String.toList_ofList]
  · rintro ⟨t, rfl, rfl, rfl⟩
    cases t with
    | none =>
        rw [verbText, pathText, text, String.toList_empty]
        exact .none
    | verb v =>
        rw [hverb, verbText, pathText, String.toList_empty]
        exact .verb v.toList
    | path v p =>
        rw [hpath, verbText, pathText]
        exact .path v.toList p.toList

/-- How many parts are there. -/
def count : ArnTail → Nat
  | none => 0
  | verb _ => 1
  | path _ _ => 2

theorem length_text (t : ArnTail) :
    t.text.length = t.count + t.verbText.length + t.pathText.length := by
  have hslash : "/".length = 1 := rfl
  cases t with
  | none => rfl
  | verb v => simp only [text, String.length_append, hslash, count, verbText, pathText,
      String.length_empty, Nat.add_zero]
  | path v p =>
      simp only [text, String.length_append, hslash, count, verbText, pathText]
      omega

/-- Tails with one verb and one path differ in length. -/
theorem eq_of_text_eq {t u : ArnTail} (hverb : t.verbText = u.verbText)
    (hpath : t.pathText = u.pathText) (htext : t.text = u.text) : t = u := by
  have hcount : t.count = u.count := by
    have hlength : t.text.length = u.text.length := congrArg String.length htext
    rw [length_text, length_text, hverb, hpath] at hlength
    omega
  cases t <;> cases u <;> simp_all [count, verbText, pathText]

end ArnTail

/-- A method ARN as it is written, in pieces that can be told apart. -/
structure ArnForm where
  target : Target
  tail : ArnTail
  target_separable : target.Separable
  verb_separable : ':' ∉ tail.verbText.toList ∧ '/' ∉ tail.verbText.toList
  path_separable : ':' ∉ tail.pathText.toList

namespace ArnForm

/-- The part of a form behind the account. -/
def resource (f : ArnForm) : String := f.target.api ++ "/" ++ f.target.stage ++ f.tail.text

/-- The text of a form. -/
def text (f : ArnForm) : String :=
  "arn:" ++ f.target.partition ++ ":execute-api:" ++ f.target.region ++ ":" ++ f.target.account ++
    ":" ++ f.resource

/-- The method that a form names. -/
def method (f : ArnForm) : MethodArn := ⟨f.target, f.tail.verbText, f.tail.pathText⟩

theorem text_eq (f : ArnForm) : f.text = f.target.stageArn ++ f.tail.text := by
  have hservice : ":execute-api:" = ":" ++ Target.service ++ ":" := by decide
  unfold text resource Target.stageArn
  -- Rewriting with an equation between literals is slow, so the literal is given a name.
  generalize ":execute-api:" = middle at hservice ⊢
  subst hservice
  simp only [String.append_assoc]

/-- A form is read as the method that it names. -/
theorem ofText?_text (f : ArnForm) : MethodArn.ofText? f.text = some f.method := by
  refine MethodArn.ofText?_eq_some_iff.2
    ⟨⟨f.target_separable, f.verb_separable, f.path_separable⟩, f.tail.text.toList, ?_, ?_⟩
  · exact ArnTail.isTail_iff.2 ⟨f.tail, rfl, rfl, rfl⟩
  · rw [String.ofList_toList]
    exact f.text_eq

/-- Every text that is read is the text of a form. -/
theorem exists_of_ofText? {text : String} {m : MethodArn} (h : MethodArn.ofText? text = some m) :
    ∃ f : ArnForm, f.text = text ∧ f.method = m := by
  obtain ⟨⟨htarget, hverb, hpath⟩, tail, htail, rfl⟩ := MethodArn.ofText?_eq_some_iff.1 h
  obtain ⟨t, ht₁, ht₂, rfl⟩ := ArnTail.isTail_iff.1 htail
  rw [String.toList_inj] at ht₁ ht₂
  obtain ⟨target, verb, path⟩ := m
  obtain rfl : t.verbText = verb := ht₁
  obtain rfl : t.pathText = path := ht₂
  exact ⟨⟨target, t, htarget, hverb, hpath⟩, by rw [text_eq, String.ofList_toList], rfl⟩

/-- A text is that of one form at most. -/
theorem text_injective : Function.Injective text := by
  intro f g h
  -- Both are read from one text, so they can differ in the tail only.
  have hmethod : f.method = g.method := by
    rw [← Option.some.injEq, ← f.ofText?_text, ← g.ofText?_text, h]
  obtain ⟨htarget, hverb, hpath⟩ := MethodArn.mk.inj hmethod
  have htail : f.tail.text = g.tail.text := by
    rw [f.text_eq, g.text_eq, htarget] at h
    exact (String.append_right_inj _).1 h
  obtain ⟨target, tail, _, _, _⟩ := f
  obtain ⟨target', tail', _, _, _⟩ := g
  obtain rfl : target = target' := htarget
  obtain rfl : tail = tail' := ArnTail.eq_of_text_eq hverb hpath htail
  rfl

end ArnForm

/-- The texts that are read as a method are those of forms. Each is the text of one form, whose
pieces are read, with an absent verb or path as an empty one; and every other text is refused by its
own name. -/
theorem ofText_forms :
    (∀ text m, MethodArn.ofText text = .ok m ↔ ∃ f : ArnForm, f.text = text ∧ f.method = m) ∧
      (∀ f g : ArnForm, f.text = g.text ↔ f = g) ∧
      ∀ text, MethodArn.ofText text = .error (.malformedMethodArn text) ↔
        ∀ f : ArnForm, f.text ≠ text := by
  have hread (text : String) (m : MethodArn) :
      MethodArn.ofText text = .ok m ↔ ∃ f : ArnForm, f.text = text ∧ f.method = m := by
    rw [MethodArn.ofText_eq_ok_iff]
    constructor
    · exact ArnForm.exists_of_ofText?
    · rintro ⟨f, rfl, rfl⟩
      exact f.ofText?_text
  refine ⟨hread, fun f g => ArnForm.text_injective.eq_iff, fun text => ?_⟩
  rw [MethodArn.ofText_eq_error_iff]
  simp only [and_true, Option.eq_none_iff_forall_ne_some, ne_eq]
  constructor
  · rintro h f rfl
    exact h f.method f.ofText?_text
  · intro h m hm
    obtain ⟨f, htext, -⟩ := ArnForm.exists_of_ofText? hm
    exact h f htext

end GatewayAccess
