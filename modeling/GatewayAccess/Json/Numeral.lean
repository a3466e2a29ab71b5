import GatewayAccess.Decimal

/-! # Numerals

A number as a JSON text writes it, before any decision about what it stands for: a sign, a whole
part without leading zeros, fraction digits, and an exponent.
-/

namespace GatewayAccess.Json

/-- A number as written. The fraction digits are absent exactly when there is no point. -/
structure Numeral where
  negative : Bool
  whole : Nat
  fraction : List Digit
  exponent : Option Int
deriving DecidableEq

namespace Numeral

/-- The sign of an exponent; a plus is written, too. -/
def exponentSign (e : Int) : Char := if 0 ≤ e then '+' else '-'

/-- The text of a numeral. -/
def text (n : Numeral) : List Char :=
  (if n.negative then ['-'] else []) ++
  (digits n.whole).map Digit.char ++
  (if n.fraction = [] then [] else '.' :: n.fraction.map Digit.char) ++
  match n.exponent with
  | none => []
  | some e => 'e' :: exponentSign e :: (digits e.natAbs).map Digit.char

/-- Splits off a minus. -/
def takeMinus : List Char → Bool × List Char
  | '-' :: rest => (true, rest)
  | cs => (false, cs)

/-- Splits off the whole part: one digit or more, and no leading zero. -/
def takeWhole? (cs : List Char) : Option (Nat × List Char) :=
  match takeDigits cs with
  | ([], _) => none
  | ([d], rest) => some (d.val, rest)
  | (d :: ds, rest) => if d.val = 0 then none else some (ofDigits (d :: ds), rest)

/-- Splits off the fraction digits; a point needs one digit at least. -/
def takeFraction? : List Char → Option (List Digit × List Char)
  | '.' :: rest =>
      match takeDigits rest with
      | ([], _) => none
      | (ds, after) => some (ds, after)
  | cs => some ([], cs)

/-- Splits off a plus or a minus. -/
def takeSign : List Char → Bool × List Char
  | '-' :: rest => (true, rest)
  | '+' :: rest => (false, rest)
  | cs => (false, cs)

/-- Splits off an exponent sign and the digits that must follow. -/
def takeExponentDigits? (cs : List Char) : Option (Int × List Char) :=
  let (negative, cs) := takeSign cs
  match takeDigits cs with
  | ([], _) => none
  | (ds, after) => some (if negative then -(ofDigits ds : Int) else ofDigits ds, after)

/-- Splits off the exponent, if there is one. -/
def takeExponent? : List Char → Option (Option Int × List Char)
  | 'e' :: rest => (takeExponentDigits? rest).map fun (e, after) => (some e, after)
  | 'E' :: rest => (takeExponentDigits? rest).map fun (e, after) => (some e, after)
  | cs => some (none, cs)

/-- The numeral at the head of a text, and what follows it. -/
def take? (cs : List Char) : Option (Numeral × List Char) := do
  let (negative, cs) := takeMinus cs
  let (whole, cs) ← takeWhole? cs
  let (fraction, cs) ← takeFraction? cs
  let (exponent, cs) ← takeExponent? cs
  return (⟨negative, whole, fraction, exponent⟩, cs)

theorem length_takeMinus_le (cs : List Char) : (takeMinus cs).2.length ≤ cs.length := by
  unfold takeMinus
  split <;> simp

theorem length_takeWhole?_lt {cs : List Char} {r : Nat × List Char} (h : takeWhole? cs = some r) :
    r.2.length < cs.length := by
  have hlt : (takeDigits cs).1 ≠ [] → (takeDigits cs).2.length < cs.length := length_takeDigits_lt
  unfold takeWhole? at h
  split at h <;> rename_i heq <;> simp only [heq] at hlt
  · simp at h
  · obtain rfl := Option.some.inj h
    exact hlt (by simp)
  · split at h
    · simp at h
    · obtain rfl := Option.some.inj h
      exact hlt (by simp)

theorem length_takeFraction?_le {cs : List Char} {r : List Digit × List Char}
    (h : takeFraction? cs = some r) : r.2.length ≤ cs.length := by
  unfold takeFraction? at h
  split at h
  · rename_i rest
    have hle := length_takeDigits_le rest
    split at h
    · simp at h
    · rename_i heq
      obtain rfl := Option.some.inj h
      simp only [heq] at hle
      simpa using Nat.le_succ_of_le hle
  · obtain rfl := Option.some.inj h
    exact Nat.le_refl _

theorem length_takeSign_le (cs : List Char) : (takeSign cs).2.length ≤ cs.length := by
  unfold takeSign
  split <;> simp

theorem length_takeExponentDigits?_le {cs : List Char} {r : Int × List Char}
    (h : takeExponentDigits? cs = some r) : r.2.length ≤ cs.length := by
  have hsign := length_takeSign_le cs
  have hle := length_takeDigits_le (takeSign cs).2
  simp only [takeExponentDigits?] at h
  split at h <;> rename_i heq
  · simp at h
  · obtain rfl := Option.some.inj h
    simp only [heq] at hle
    exact Nat.le_trans hle hsign

theorem length_takeExponent?_le {cs : List Char} {r : Option Int × List Char}
    (h : takeExponent? cs = some r) : r.2.length ≤ cs.length := by
  unfold takeExponent? at h
  split at h
  · obtain ⟨d, hd, rfl⟩ := Option.map_eq_some_iff.1 h
    simpa using Nat.le_succ_of_le (length_takeExponentDigits?_le hd)
  · obtain ⟨d, hd, rfl⟩ := Option.map_eq_some_iff.1 h
    simpa using Nat.le_succ_of_le (length_takeExponentDigits?_le hd)
  · obtain rfl := Option.some.inj h
    exact Nat.le_refl _

/-- What follows a numeral is shorter than the text. -/
theorem length_take?_lt {cs : List Char} {n : Numeral} {after : List Char}
    (h : take? cs = some (n, after)) : after.length < cs.length := by
  simp only [take?, Option.bind_eq_bind, Option.bind_eq_some_iff, Option.pure_def] at h
  obtain ⟨w, hw, f, hf, e, he, h⟩ := h
  have h₁ := length_takeMinus_le cs
  have h₂ := length_takeWhole?_lt hw
  have h₃ := length_takeFraction?_le hf
  have h₄ := length_takeExponent?_le he
  obtain ⟨-, rfl⟩ := Prod.mk.inj (Option.some.inj h)
  omega

end Numeral

end GatewayAccess.Json
