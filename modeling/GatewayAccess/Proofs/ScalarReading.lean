import GatewayAccess.Proofs.Scalar
import Mathlib.Data.List.Perm.Basic

/-! # Scalars are told apart without a tag

Nothing in JSON data says which kind of scalar is meant; the form of a value decides it. A text is
read as a scalar just if it is read as the JSON value of that scalar
(`Scalar.read?_eq_some_iff`), so no scalar is taken for one of another kind, and what is no scalar
is turned down: `scalar_unambiguous`. The kinds can be tried one after another in any order, since
no value is of two of them: `Scalar.findSome?_attempts`.
-/

namespace GatewayAccess

/-! ## Kinds of values -/

namespace Json

/-- The truth value of one. -/
def bool? (v : Json) : Option Bool :=
  match v.raw with
  | .bool b => some b
  | _ => none

/-- The number of a number. -/
def number? (v : Json) : Option Number :=
  match v.raw with
  | .number n => some n
  | _ => none

/-- A tree is read as a value just if it is read as the data of the value. -/
theorem ofTree?_eq_some_iff {t : Tree} {v : Json} :
    ofTree? t = some v ↔ Raw.ofTree? depthLimit t = some v.raw := by
  rw [ofTree?]
  split
  · rename_i w hw
    simp only [hw, Option.some.injEq, Json.ext_iff]
  · rename_i hnone
    simp only [hnone, reduceCtorEq]

end Json

namespace Scalar

variable {v : Json} {s : Scalar}

/-! ## Trying the kinds -/

/-- The attempts at a value, one for each kind of scalar. -/
def attempts : List (Json → Option Scalar) :=
  [fun v => v.bool?.map .bool, fun v => v.number?.map .number, fun v => v.string?.map .text]

/-- The scalar of a value is what some attempt finds. -/
theorem ofJson?_eq_some_iff_exists :
    ofJson? v = some s ↔ ∃ attempt ∈ attempts, attempt v = some s := by
  obtain ⟨raw, canonical⟩ := v
  cases raw <;>
    simp only [ofJson?, attempts, List.exists_mem_cons_iff, List.not_mem_nil, false_and,
      exists_false, or_false, false_or, Json.bool?, Json.number?, Json.string?, Option.map_some,
      Option.map_none, reduceCtorEq]

/-- In whatever order the kinds are tried, the first success is the scalar of the value. -/
theorem findSome?_attempts {tries : List (Json → Option Scalar)} (h : tries.Perm attempts)
    (v : Json) : tries.findSome? (· v) = ofJson? v := by
  have hsound {s : Scalar} (hs : tries.findSome? (· v) = some s) : ofJson? v = some s := by
    obtain ⟨attempt, hmem, hfound⟩ := List.exists_of_findSome?_eq_some hs
    exact ofJson?_eq_some_iff_exists.2 ⟨attempt, h.mem_iff.1 hmem, hfound⟩
  cases hfirst : tries.findSome? (· v) with
  | some s => exact (hsound hfirst).symm
  | none =>
      rw [List.findSome?_eq_none_iff] at hfirst
      rw [eq_comm, Option.eq_none_iff_forall_ne_some]
      intro s hs
      obtain ⟨attempt, hmem, hfound⟩ := ofJson?_eq_some_iff_exists.1 hs
      rw [hfirst attempt (h.mem_iff.2 hmem)] at hfound
      cases hfound

/-! ## Scalars in texts -/

/-- A tree is read as a scalar just if it is read as the JSON value of the scalar. -/
theorem ofTree?_eq_some_iff {t : Json.Tree} :
    ofTree? t = some s ↔ Json.ofTree? t = some s.toJson := by
  rw [Json.ofTree?_eq_some_iff]
  cases t <;> cases s <;>
    simp only [ofTree?, toJson, Json.Raw.ofTree?, Json.depthLimit, Option.map_eq_some_iff,
      Option.some.injEq, reduceCtorEq, bool.injEq, number.injEq, text.injEq, Json.Raw.bool.injEq,
      Json.Raw.number.injEq, Json.Raw.string.injEq, and_false, exists_false]

/-- A text is read as a scalar just if it is read as the JSON value of the scalar. -/
theorem read?_eq_some_iff {text : String} :
    read? text = some s ↔ Json.read? text = some s.toJson := by
  rw [read?, Json.read?, Option.bind_eq_some_iff, Option.bind_eq_some_iff]
  simp only [ofTree?_eq_some_iff]

/-- The text of a scalar is read as its JSON value. -/
theorem jsonRead?_jsonText (h : ∀ x ∈ s.toJson.raw.doubles, x.ReadsBack) :
    Json.read? s.jsonText = some s.toJson := by
  have hdepth : s.toJson.tree.depth ≤ Json.depthLimit := by
    cases s <;> exact Nat.zero_le _
  exact Json.read?_text (Json.reads_tree h) hdepth

/-- Without a scalar are null, arrays and objects. -/
theorem ofJson?_eq_none_iff :
    ofJson? v = none ↔
      v.raw = .null ∨ (∃ items, v.raw = .array items) ∨ ∃ members, v.raw = .object members := by
  rw [ofJson?]
  cases v.raw <;>
    simp only [reduceCtorEq, exists_false, or_false, false_or, Json.Raw.array.injEq,
      Json.Raw.object.injEq, exists_eq']

/-! ## Telling scalars apart -/

/-- The scalar comes back from what it is written as, of the same kind. -/
structure ComesBack (s : Scalar) : Prop where
  /-- It is the scalar of its JSON value, -/
  value : ofJson? s.toJson = some s
  /-- and its text is read as it. A double has to be read back from its numeral. -/
  text : (∀ x ∈ s.toJson.raw.doubles, x.ReadsBack) → read? s.jsonText = some s

/-- What becomes of a JSON value that is taken for a scalar. -/
structure TakesValue (v : Json) : Prop where
  /-- There is a scalar just if the value is a truth value, a number or a string. -/
  accepted : (∃ s, ofJson? v = some s) ↔ v.IsScalar
  /-- There is none just if it is null, an array or an object, whatever these hold. -/
  rejected : ofJson? v = none ↔
    v.raw = .null ∨ (∃ items, v.raw = .array items) ∨ ∃ members, v.raw = .object members
  /-- The scalar is written as the value and has its text. -/
  written : ∀ s, ofJson? v = some s → s.toJson = v ∧ s.jsonText = v.text
  /-- It does not matter in which order the kinds are tried. -/
  order : ∀ tries : List (Json → Option Scalar), tries.Perm attempts →
    tries.findSome? (· v) = ofJson? v

/-- What becomes of a JSON text that is taken for a scalar. -/
structure TakesText (text : String) : Prop where
  /-- A text of a value is read as the scalar of the value. -/
  agree : ∀ v, Json.read? text = some v → read? text = ofJson? v
  /-- There is a scalar just if the text is one of a truth value, a number or a string. -/
  accepted : (∃ s, read? text = some s) ↔ ∃ v, Json.read? text = some v ∧ v.IsScalar
  /-- There is none for null, arrays and objects, however deep and whatever is in them. -/
  rejected : ∀ t : Json.Tree, t.SpelledBy text →
    (t = .null ∨ (∃ items, t = .array items) ∨ ∃ members, t = .object members) → read? text = none
  /-- The scalar is written as a text of the same value. -/
  written : ∀ s, read? text = some s → (∀ x ∈ s.toJson.raw.doubles, x.ReadsBack) →
    Json.read? s.jsonText = Json.read? text

theorem comesBack (s : Scalar) : s.ComesBack where
  value := ofJson?_eq_some_iff.2 rfl
  text h := read?_eq_some_iff.2 (jsonRead?_jsonText h)

theorem takesValue (v : Json) : TakesValue v where
  accepted := by simp only [ofJson?_eq_some_iff, exists_eq_toJson_iff]
  rejected := ofJson?_eq_none_iff
  written s hs := by
    obtain rfl := ofJson?_eq_some_iff.1 hs
    exact ⟨rfl, rfl⟩
  order _ htries := findSome?_attempts htries v

theorem takesText (text : String) : TakesText text where
  agree v hv := by
    refine Option.ext fun s => ?_
    rw [read?_eq_some_iff, hv, Option.some.injEq, ofJson?_eq_some_iff]
  accepted := by
    simp only [read?_eq_some_iff, ← exists_eq_toJson_iff]
    constructor
    · rintro ⟨s, hs⟩
      exact ⟨s.toJson, hs, s, rfl⟩
    · rintro ⟨_, hs, s, rfl⟩
      exact ⟨s, hs⟩
  rejected t ht hcompound := by
    rw [read?, Json.Tree.read?_eq_some_iff.2 ht]
    rcases hcompound with rfl | ⟨items, rfl⟩ | ⟨members, rfl⟩ <;> rfl
  written s hs h := by rw [jsonRead?_jsonText h, read?_eq_some_iff.1 hs]

end Scalar

/-- A scalar comes back as it was written, whatever a text in it looks like. Of JSON values and
their texts just the truth values, numbers and strings have a scalar, and it stands for nothing
else. -/
theorem scalar_unambiguous :
    (∀ s : Scalar, s.ComesBack) ∧ (∀ v : Json, Scalar.TakesValue v) ∧
      ∀ text : String, Scalar.TakesText text :=
  ⟨Scalar.comesBack, Scalar.takesValue, Scalar.takesText⟩

/-- Strings that look like a number, a truth value or an array stay strings, the least integer and a
double stay what they are, and an array of one string is no string. -/
theorem scalar_unambiguous_lookalikes :
    (∀ s ∈ ["18446744073709551616", "true", "[\"\\u0031\"]"],
      Scalar.read? (Scalar.text s).jsonText = some (.text s)) ∧
    (∀ n ∈ [.negSucc ⟨9223372036854775807, by decide⟩,
        .double ⟨false, 4609434218613702656, by decide⟩],
      Scalar.read? (Scalar.number n).jsonText = some (.number n)) ∧
    Scalar.read? (Json.Tree.array [.string (some "1")]).text = none := by
  obtain ⟨hback, -, htext⟩ := scalar_unambiguous
  refine ⟨fun s _ => ?_, fun n hn => ?_, ?_⟩
  · exact (hback (.text s)).text fun x hx => absurd hx List.not_mem_nil
  · refine (hback (.number n)).text ?_
    revert n
    decide +kernel
  · have hspelled := Json.Tree.read?_eq_some_iff.1 (Json.Tree.read?_text (.array [.string "1"]))
    exact (htext _).rejected _ hspelled (.inr (.inl ⟨_, rfl⟩))

end GatewayAccess
