import GatewayAccess.Failure

/-! # Resource paths

A resource path is a text of one character or more from a small alphabet. It is never corrected: a
text outside the grammar is refused as it stands.
-/

namespace GatewayAccess

/-- The characters of a path: ASCII letters and digits, slash, point, star and hyphen. -/
def isPathChar (c : Char) : Bool :=
  c.isAlphanum || c = '/' || c = '.' || c = '*' || c = '-'

/-- The path grammar. -/
def IsPath (text : String) : Prop := text ≠ "" ∧ ∀ c ∈ text.toList, isPathChar c

instance : DecidablePred IsPath := fun text =>
  decidable_of_iff (text ≠ "" ∧ text.toList.all isPathChar = true) <| by simp [IsPath]

/-- A resource path. -/
structure Path where
  text : String
  isPath : IsPath text
deriving DecidableEq

namespace Path

/-- The path grammar as a regular expression. -/
def pattern : String := "^[/.a-zA-Z0-9*-]+$"

/-- The path of a text, or the failure that names the text. -/
def ofText (text : String) : Except Failure Path :=
  if h : IsPath text then .ok ⟨text, h⟩ else .error (.invalidPath text)

/-- The path of a text has that text. -/
theorem ofText_eq_ok_iff {text : String} {p : Path} : ofText text = .ok p ↔ p.text = text := by
  obtain ⟨t, ht⟩ := p
  rw [ofText]
  split
  · simp only [Except.ok.injEq, mk.injEq, eq_comm]
  · rename_i h
    simp only [reduceCtorEq, false_iff]
    rintro rfl
    exact h ht

/-- The path of every resource. -/
def wildcard : Path := ⟨"*", by simp [IsPath, isPathChar]⟩

/-- Drops one slash at the head. -/
def dropSlash : List Char → List Char
  | '/' :: rest => rest
  | cs => cs

/-- The path below the verb: one slash at the head is dropped. -/
def relative (p : Path) : String := String.ofList (dropSlash p.text.toList)

end Path

end GatewayAccess
