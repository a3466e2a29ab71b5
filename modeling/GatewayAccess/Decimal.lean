/-! # Decimal digits

A natural number as its decimal digits, most significant first, and back; runs of digits at the
head of a text; and `Decimal`, a coefficient scaled by a power of ten.
-/

namespace GatewayAccess

/-- A decimal digit. -/
abbrev Digit := Fin 10

namespace Digit

/-- The digit zero. -/
def zero : Digit := ⟨0, by decide⟩

/-- The character of a digit. -/
def char (d : Digit) : Char := Nat.digitChar d.val

/-- The digit of a character, if it is one of the ten ASCII digits. -/
def ofChar? (c : Char) : Option Digit :=
  if c.isDigit then some ⟨(c.toNat - '0'.toNat) % 10, Nat.mod_lt _ (by decide)⟩ else none

theorem ofChar?_char (d : Digit) : ofChar? d.char = some d := by
  revert d
  decide

end Digit

/-- The decimal digits of a number, without leading zeros; zero has the one digit zero. -/
def digits (n : Nat) : List Digit := (Nat.toDigits 10 n).filterMap Digit.ofChar?

/-- The number that a run of digits writes. -/
def ofDigits (ds : List Digit) : Nat := ds.foldl (fun n d => 10 * n + d.val) 0

/-- The digits at the head of a text, and what follows them. -/
def takeDigits : List Char → List Digit × List Char
  | [] => ([], [])
  | c :: rest =>
      match Digit.ofChar? c with
      | none => ([], c :: rest)
      | some d =>
          let (ds, after) := takeDigits rest
          (d :: ds, after)

/-- Digits stop at the first character that is none. -/
theorem takeDigits_append (ds : List Digit) {rest : List Char}
    (h : ∀ c ∈ rest.head?, Digit.ofChar? c = none) :
    takeDigits (ds.map Digit.char ++ rest) = (ds, rest) := by
  induction ds with
  | nil =>
      cases rest with
      | nil => rfl
      | cons c rest => simp [takeDigits, h c (by simp)]
  | cons d ds ih =>
      simp only [List.map_cons, List.cons_append, takeDigits, Digit.ofChar?_char]
      rw [ih]

/-- What follows the digits is no longer than the text. -/
theorem length_takeDigits_le (cs : List Char) : (takeDigits cs).2.length ≤ cs.length := by
  induction cs with
  | nil => simp [takeDigits]
  | cons c rest ih =>
      simp only [takeDigits]
      split
      · simp
      · simpa using Nat.le_succ_of_le ih

/-- Digits taken make what follows shorter. -/
theorem length_takeDigits_lt {cs : List Char} (h : (takeDigits cs).1 ≠ []) :
    (takeDigits cs).2.length < cs.length := by
  cases cs with
  | nil => simp [takeDigits] at h
  | cons c rest =>
      simp only [takeDigits] at h ⊢
      split at h
      · simp at h
      · simpa using Nat.lt_succ_of_le (length_takeDigits_le rest)

/-- A power of ten. -/
def tenTo (e : Nat) : Nat := Nat.pow 10 e

/-- The number `coefficient * 10 ^ exponent`. -/
structure Decimal where
  coefficient : Nat
  exponent : Int
deriving DecidableEq, Repr

end GatewayAccess
