import GatewayAccess.Proofs.Json.Value
import GatewayAccess.Scalar

/-! # Scalars among JSON values

A scalar is what a truth value, a number or a string of JSON stands for:
`Scalar.ofJson?_eq_some_iff` says that nothing is lost or added, and `Scalar.exists_eq_toJson_iff`
which values there are.
-/

namespace GatewayAccess

namespace Json

/-- A value that is a string. -/
def IsText (v : Json) : Prop := ∃ s, v.raw = .string s

/-- A value that is a truth value, a number or a string. -/
def IsScalar (v : Json) : Prop :=
  (∃ b, v.raw = .bool b) ∨ (∃ n, v.raw = .number n) ∨ ∃ s, v.raw = .string s

variable {v : Json}

/-- The text of a string is all that there is to it. -/
theorem string?_eq_some_iff {s : String} : v.string? = some s ↔ v = ofText s := by
  obtain ⟨raw, canonical⟩ := v
  rw [Json.ext_iff]
  cases raw with
  | string t => simp only [string?, ofText, Option.some.injEq, Raw.string.injEq]
  | _ => simp only [string?, ofText, reduceCtorEq]

theorem exists_eq_ofText_iff : (∃ s, v = ofText s) ↔ v.IsText := by
  simp only [Json.ext_iff]
  rfl

end Json

namespace Scalar

variable {v : Json}

/-- The scalar of a value is all that there is to it. -/
theorem ofJson?_eq_some_iff {s : Scalar} : ofJson? v = some s ↔ v = s.toJson := by
  obtain ⟨raw, canonical⟩ := v
  rw [Json.ext_iff]
  cases raw <;> cases s <;>
    simp only [ofJson?, toJson, Option.some.injEq, reduceCtorEq, bool.injEq, number.injEq,
      text.injEq, Json.Raw.bool.injEq, Json.Raw.number.injEq, Json.Raw.string.injEq]

/-- Null, arrays and objects are the values without a scalar. -/
theorem exists_eq_toJson_iff : (∃ s : Scalar, v = s.toJson) ↔ v.IsScalar := by
  simp only [Json.ext_iff]
  constructor
  · rintro ⟨b | n | s, h⟩
    · exact .inl ⟨b, h⟩
    · exact .inr (.inl ⟨n, h⟩)
    · exact .inr (.inr ⟨s, h⟩)
  · rintro (⟨b, h⟩ | ⟨n, h⟩ | ⟨s, h⟩)
    · exact ⟨.bool b, h⟩
    · exact ⟨.number n, h⟩
    · exact ⟨.text s, h⟩

end Scalar

end GatewayAccess
