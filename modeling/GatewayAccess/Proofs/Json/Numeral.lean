import GatewayAccess.Json.Number
import Mathlib.Data.List.Induction

/-! # Numerals are read as they are written

`Numeral.SpelledBy` says which texts a numeral has: only its exponent can be written in several
ways. Each of them is read as that numeral, and all of what follows is left, unless it begins with a
character that could go on a numeral (`Numeral.take?_of_spelledBy`). Nothing else is read
(`Numeral.exists_spelledBy_of_take?`). Of numbers, the integers are read back from their numerals:
`Numeral.number?_ofNumber`. For a double that depends on the double, because reading rounds twice.
-/

namespace GatewayAccess

/-! ## Digits -/

theorem Digit.ofChar?_digitChar {n : Nat} (h : n < 10) :
    Digit.ofChar? (Nat.digitChar n) = some ⟨n, h⟩ :=
  ofChar?_char ⟨n, h⟩

/-- The digit of a character is written as that character. -/
theorem Digit.char_of_ofChar? {c : Char} {d : Digit} (h : ofChar? c = some d) : d.char = c := by
  have hcode : ∀ n < 58, 48 ≤ n → Nat.digitChar ((n - 48) % 10) = Char.ofNat n := by decide
  rw [ofChar?] at h
  split at h
  · rename_i hdigit
    obtain rfl := Option.some.inj h
    obtain ⟨hle, hge⟩ := Char.isDigit_iff_toNat.1 hdigit
    exact (hcode c.toNat (Nat.lt_succ_of_le hge) hle).trans (Char.ofNat_toNat c)
  · cases h

/-- The digits taken from a text and what follows them are the text. -/
theorem eq_of_takeDigits {cs after : List Char} {ds : List Digit}
    (h : takeDigits cs = (ds, after)) : cs = ds.map Digit.char ++ after := by
  induction cs generalizing ds with
  | nil =>
      obtain ⟨rfl, rfl⟩ := Prod.mk.inj h
      rfl
  | cons c cs ih =>
      rw [takeDigits] at h
      split at h
      · obtain ⟨rfl, rfl⟩ := Prod.mk.inj h
        rfl
      · rename_i d hd
        obtain ⟨rfl, rfl⟩ := Prod.mk.inj h
        rw [List.map_cons, List.cons_append, Digit.char_of_ofChar? hd, ← ih rfl]

theorem digits_of_lt {n : Nat} (h : n < 10) : digits n = [⟨n, h⟩] := by
  rw [digits, Nat.toDigits_of_lt_base h, List.filterMap_cons, Digit.ofChar?_digitChar h,
    List.filterMap_nil]

theorem digits_of_le {n : Nat} (h : 10 ≤ n) :
    digits n = digits (n / 10) ++ [⟨n % 10, Nat.mod_lt n (by decide)⟩] := by
  rw [digits, Nat.toDigits_of_base_le (by decide) h, List.filterMap_append, List.filterMap_cons,
    Digit.ofChar?_digitChar (Nat.mod_lt n (by decide)), List.filterMap_nil, digits]

theorem ofDigits_append_singleton (ds : List Digit) (d : Digit) :
    ofDigits (ds ++ [d]) = 10 * ofDigits ds + d.val := by
  rw [ofDigits, List.foldl_append, List.foldl_cons, List.foldl_nil, ofDigits]

/-- The digits of a number write it. -/
theorem ofDigits_digits (n : Nat) : ofDigits (digits n) = n := by
  induction n using Nat.strongRecOn with
  | ind n ih =>
      rcases Nat.lt_or_ge n 10 with h | h
      · rw [digits_of_lt h]
        exact Nat.zero_add n
      · rw [digits_of_le h, ofDigits_append_singleton, ih (n / 10) (by omega)]
        exact Nat.div_add_mod n 10

/-- Digits without a leading zero are those of the number that they write. -/
theorem digits_ofDigits {d : Digit} (ds : List Digit) (hd : d.val ≠ 0) :
    digits (ofDigits (d :: ds)) = d :: ds := by
  induction ds using List.reverseRecOn with
  | nil =>
      have hone : ofDigits [d] = d.val := Nat.zero_add _
      rw [hone, digits_of_lt d.isLt]
  | append_singleton ds e ih =>
      have hpos : ofDigits (d :: ds) ≠ 0 := by
        intro hzero
        rw [hzero, digits_of_lt (by decide)] at ih
        obtain ⟨rfl, -⟩ := List.cons.inj ih
        exact hd rfl
      have hdiv : (10 * ofDigits (d :: ds) + e.val) / 10 = ofDigits (d :: ds) := by omega
      have hmod : (10 * ofDigits (d :: ds) + e.val) % 10 = e.val := by omega
      rw [← List.cons_append, ofDigits_append_singleton, digits_of_le (by omega), hdiv, ih]
      simp only [hmod]

theorem digits_ne_nil (n : Nat) : digits n ≠ [] := by
  rcases Nat.lt_or_ge n 10 with h | h
  · rw [digits_of_lt h]
    exact List.cons_ne_nil _ _
  · rw [digits_of_le h]
    exact List.append_ne_nil_of_right_ne_nil _ (List.cons_ne_nil _ _)

/-- Only zero begins with the digit zero. -/
theorem eq_zero_of_digits_eq_cons {n : Nat} {d : Digit} {ds : List Digit}
    (h : digits n = d :: ds) (hd : d.val = 0) : n = 0 := by
  induction n using Nat.strongRecOn generalizing ds with
  | ind n ih =>
      rcases Nat.lt_or_ge n 10 with hn | hn
      · rw [digits_of_lt hn] at h
        obtain ⟨rfl, -⟩ := List.cons.inj h
        exact hd
      · rw [digits_of_le hn] at h
        rcases hq : digits (n / 10) with _ | ⟨e, es⟩
        · exact absurd hq (digits_ne_nil _)
        · rw [hq] at h
          obtain ⟨rfl, -⟩ := List.cons.inj h
          have := ih (n / 10) (by omega) hq
          omega

namespace Json.Numeral

/-! ## Parts of a numeral -/

/-- A character that can go on a numeral. -/
def goesOn (c : Char) : Bool := c.isDigit || c = '.' || c = 'e' || c = 'E'

/-- What follows a numeral does not go on it. -/
def Ends (rest : List Char) : Prop := ∀ c ∈ rest.head?, goesOn c = false

theorem Ends.ofChar?_eq_none {rest : List Char} (h : Ends rest) :
    ∀ c ∈ rest.head?, Digit.ofChar? c = none := by
  intro c hc
  have hgoes := h c hc
  rw [goesOn, Bool.or_eq_false_iff, Bool.or_eq_false_iff, Bool.or_eq_false_iff] at hgoes
  rw [Digit.ofChar?, hgoes.1.1.1]
  rfl

/-- The text of a minus. -/
def minusText (negative : Bool) : List Char := if negative then ['-'] else []

/-- The text of the fraction digits. -/
def fractionText (fraction : List Digit) : List Char :=
  if fraction = [] then [] else '.' :: fraction.map Digit.char

/-- The text of an exponent. -/
def exponentText : Option Int → List Char
  | none => []
  | some e => 'e' :: exponentSign e :: (digits e.natAbs).map Digit.char

theorem text_eq (n : Numeral) :
    n.text = minusText n.negative ++ (digits n.whole).map Digit.char ++
      fractionText n.fraction ++ exponentText n.exponent := by
  obtain ⟨negative, whole, fraction, _ | e⟩ := n
  · rfl
  · rfl

/-- A text of digits begins with a digit. -/
theorem exists_char_cons (n : Nat) :
    ∃ (d : Digit) (cs : List Char), (digits n).map Digit.char = d.char :: cs := by
  rcases hn : digits n with _ | ⟨d, ds⟩
  · exact absurd hn (digits_ne_nil n)
  · exact ⟨d, ds.map Digit.char, rfl⟩

theorem takeMinus_minusText (negative : Bool) (n : Nat) (rest : List Char) :
    takeMinus (minusText negative ++ ((digits n).map Digit.char ++ rest)) =
      (negative, (digits n).map Digit.char ++ rest) := by
  cases negative with
  | true => rfl
  | false =>
      have hne (d : Digit) : d.char ≠ '-' := by revert d; decide
      obtain ⟨d, cs, hcs⟩ := exists_char_cons n
      rw [hcs, minusText, if_neg Bool.false_ne_true, List.nil_append, List.cons_append, takeMinus]
      rintro _ heq
      exact hne d (List.cons.inj heq).1

theorem takeWhole?_digits (n : Nat) {rest : List Char}
    (h : ∀ c ∈ rest.head?, Digit.ofChar? c = none) :
    takeWhole? ((digits n).map Digit.char ++ rest) = some (n, rest) := by
  have hn := ofDigits_digits n
  rw [takeWhole?, takeDigits_append _ h]
  rcases hds : digits n with _ | ⟨d, _ | ⟨e, es⟩⟩
  · exact absurd hds (digits_ne_nil n)
  · rw [hds] at hn
    simp only [← hn, ofDigits, List.foldl_cons, List.foldl_nil, Nat.mul_zero, Nat.zero_add]
  · -- A number of two digits or more does not begin with zero.
    have hd : d.val ≠ 0 := fun hd => by
      obtain rfl := eq_zero_of_digits_eq_cons hds hd
      cases hds
    rw [hds] at hn
    simp only [if_neg hd, hn]

theorem takeFraction?_fractionText (fraction : List Digit) {rest : List Char}
    (hdigit : ∀ c ∈ rest.head?, Digit.ofChar? c = none) (hpoint : '.' ∉ rest.head?) :
    takeFraction? (fractionText fraction ++ rest) = some (fraction, rest) := by
  cases fraction with
  | nil =>
      rw [fractionText, if_pos rfl, List.nil_append, takeFraction?]
      rintro _ rfl
      exact hpoint rfl
  | cons d ds =>
      rw [fractionText, if_neg (List.cons_ne_nil d ds), List.cons_append, takeFraction?,
        takeDigits_append _ hdigit]

/-- The texts of a sign: a minus, or a plus or nothing. -/
inductive SignSpelledBy : Bool → List Char → Prop
  | absent : SignSpelledBy false []
  | plus : SignSpelledBy false ['+']
  | minus : SignSpelledBy true ['-']

/-- The texts of an exponent: a letter in either case, a sign, and one digit or more. -/
inductive ExponentSpelledBy : Option Int → List Char → Prop
  | absent : ExponentSpelledBy none []
  | present {letter : Char} {negative : Bool} {sign : List Char} {ds : List Digit}
      (hletter : letter = 'e' ∨ letter = 'E') (hsign : SignSpelledBy negative sign)
      (hds : ds ≠ []) :
      ExponentSpelledBy (some (if negative then -(ofDigits ds : Int) else ofDigits ds))
        (letter :: (sign ++ ds.map Digit.char))

theorem exponentSpelledBy_exponentText (e : Option Int) :
    ExponentSpelledBy e (exponentText e) := by
  cases e with
  | none => exact .absent
  | some e =>
      have hn := ofDigits_digits e.natAbs
      rw [exponentText, exponentSign]
      split
      · have hspelled := ExponentSpelledBy.present (.inl rfl) .plus (digits_ne_nil e.natAbs)
        rwa [hn, if_neg Bool.false_ne_true, Int.natAbs_of_nonneg (by assumption)] at hspelled
      · have hspelled := ExponentSpelledBy.present (.inl rfl) .minus (digits_ne_nil e.natAbs)
        rwa [hn, if_pos rfl, Int.ofNat_natAbs_of_nonpos (by omega), Int.neg_neg] at hspelled

theorem takeSign_of_spelledBy {negative : Bool} {sign : List Char}
    (hsign : SignSpelledBy negative sign) {ds : List Digit} (hds : ds ≠ []) (rest : List Char) :
    takeSign (sign ++ (ds.map Digit.char ++ rest)) = (negative, ds.map Digit.char ++ rest) := by
  cases hsign with
  | absent =>
      obtain ⟨d, ds, rfl⟩ := List.exists_cons_of_ne_nil hds
      have hne (d : Digit) : d.char ≠ '-' ∧ d.char ≠ '+' := by revert d; decide
      rw [List.nil_append, List.map_cons, List.cons_append, takeSign]
      · rintro _ heq
        exact (hne d).1 (List.cons.inj heq).1
      · rintro _ heq
        exact (hne d).2 (List.cons.inj heq).1
  | plus => rfl
  | minus => rfl

/-- An exponent is read however it is written. -/
theorem takeExponent?_of_spelledBy {e : Option Int} {cs rest : List Char}
    (h : ExponentSpelledBy e cs) (hrest : Ends rest) :
    takeExponent? (cs ++ rest) = some (e, rest) := by
  cases h with
  | absent =>
      rw [List.nil_append, takeExponent?]
      · rintro _ rfl
        exact absurd (hrest 'e' rfl) (by decide)
      · rintro _ rfl
        exact absurd (hrest 'E' rfl) (by decide)
  | @present letter negative sign ds hletter hsign hds =>
      have hdigits : takeExponentDigits? (sign ++ (ds.map Digit.char ++ rest)) =
          some (if negative then -(ofDigits ds : Int) else ofDigits ds, rest) := by
        rw [takeExponentDigits?, takeSign_of_spelledBy hsign hds]
        obtain ⟨d, ds, rfl⟩ := List.exists_cons_of_ne_nil hds
        simp only [takeDigits_append _ hrest.ofChar?_eq_none]
      rw [List.cons_append, List.append_assoc]
      rcases hletter with rfl | rfl
      · rw [takeExponent?, hdigits, Option.map_some]
      · rw [takeExponent?, hdigits, Option.map_some]

/-! ## What parts are read from -/

theorem eq_of_takeMinus {cs rest : List Char} {negative : Bool}
    (h : takeMinus cs = (negative, rest)) : cs = minusText negative ++ rest := by
  rw [takeMinus.eq_def] at h
  split at h
  · obtain ⟨rfl, rfl⟩ := Prod.mk.inj h
    rfl
  · obtain ⟨rfl, rfl⟩ := Prod.mk.inj h
    rfl

theorem eq_of_takeWhole? {cs rest : List Char} {n : Nat} (h : takeWhole? cs = some (n, rest)) :
    cs = (digits n).map Digit.char ++ rest := by
  rw [takeWhole?] at h
  split at h
  · cases h
  · rename_i d after hdigits
    obtain ⟨rfl, rfl⟩ := Prod.mk.inj (Option.some.inj h)
    rw [digits_of_lt d.isLt]
    exact eq_of_takeDigits hdigits
  · rename_i d ds after _ hdigits
    split at h
    · cases h
    · rename_i hd
      obtain ⟨rfl, rfl⟩ := Prod.mk.inj (Option.some.inj h)
      rw [digits_ofDigits ds hd]
      exact eq_of_takeDigits hdigits

theorem eq_of_takeFraction? {cs rest : List Char} {fraction : List Digit}
    (h : takeFraction? cs = some (fraction, rest)) : cs = fractionText fraction ++ rest := by
  rw [takeFraction?.eq_def] at h
  split at h
  · split at h
    · cases h
    · rename_i ds after hds hdigits
      obtain ⟨rfl, rfl⟩ := Prod.mk.inj (Option.some.inj h)
      rw [fractionText, if_neg hds, List.cons_append, ← eq_of_takeDigits hdigits]
  · obtain ⟨rfl, rfl⟩ := Prod.mk.inj (Option.some.inj h)
    rfl

theorem exists_spelledBy_of_takeSign {cs rest : List Char} {negative : Bool}
    (h : takeSign cs = (negative, rest)) :
    ∃ sign, SignSpelledBy negative sign ∧ cs = sign ++ rest := by
  rw [takeSign.eq_def] at h
  split at h
  · obtain ⟨rfl, rfl⟩ := Prod.mk.inj h
    exact ⟨['-'], .minus, rfl⟩
  · obtain ⟨rfl, rfl⟩ := Prod.mk.inj h
    exact ⟨['+'], .plus, rfl⟩
  · obtain ⟨rfl, rfl⟩ := Prod.mk.inj h
    exact ⟨[], .absent, rfl⟩

/-- Behind its letter an exponent is a sign and digits. -/
theorem exponentSpelledBy_of_takeExponentDigits? {letter : Char}
    (hletter : letter = 'e' ∨ letter = 'E') {cs rest : List Char} {e : Int}
    (h : takeExponentDigits? cs = some (e, rest)) :
    ∃ w, ExponentSpelledBy (some e) w ∧ letter :: cs = w ++ rest := by
  rcases hsign : takeSign cs with ⟨negative, cs'⟩
  rcases hdigits : takeDigits cs' with ⟨ds, after⟩
  obtain ⟨sign, hspelled, rfl⟩ := exists_spelledBy_of_takeSign hsign
  obtain rfl := eq_of_takeDigits hdigits
  simp only [takeExponentDigits?, hsign, hdigits] at h
  split at h
  · cases h
  · rename_i hds heq
    obtain ⟨rfl, rfl⟩ := Prod.mk.inj heq
    obtain ⟨rfl, rfl⟩ := Prod.mk.inj (Option.some.inj h)
    exact ⟨_, .present hletter hspelled hds, by rw [List.cons_append, List.append_assoc]⟩

theorem exists_spelledBy_of_takeExponent? {cs rest : List Char} {e : Option Int}
    (h : takeExponent? cs = some (e, rest)) :
    ∃ w, ExponentSpelledBy e w ∧ cs = w ++ rest := by
  rw [takeExponent?.eq_def] at h
  split at h
  · obtain ⟨⟨e, after⟩, hdigits, heq⟩ := Option.map_eq_some_iff.1 h
    obtain ⟨rfl, rfl⟩ := Prod.mk.inj heq
    exact exponentSpelledBy_of_takeExponentDigits? (.inl rfl) hdigits
  · obtain ⟨⟨e, after⟩, hdigits, heq⟩ := Option.map_eq_some_iff.1 h
    obtain ⟨rfl, rfl⟩ := Prod.mk.inj heq
    exact exponentSpelledBy_of_takeExponentDigits? (.inr rfl) hdigits
  · obtain ⟨rfl, rfl⟩ := Prod.mk.inj (Option.some.inj h)
    exact ⟨[], .absent, rfl⟩

/-! ## Whole numerals -/

/-- The texts of a numeral. -/
def SpelledBy (n : Numeral) (cs : List Char) : Prop :=
  ∃ exponent, ExponentSpelledBy n.exponent exponent ∧
    cs = minusText n.negative ++ ((digits n.whole).map Digit.char ++
      (fractionText n.fraction ++ exponent))

theorem spelledBy_text (n : Numeral) : n.SpelledBy n.text :=
  ⟨_, exponentSpelledBy_exponentText n.exponent, by simp only [text_eq, List.append_assoc]⟩

/-- A text of a numeral begins with a minus or a digit. -/
theorem exists_cons_of_spelledBy {n : Numeral} {w : List Char} (h : n.SpelledBy w) :
    ∃ (c : Char) (cs : List Char), w = c :: cs ∧ (c = '-' ∨ ∃ d : Digit, d.char = c) := by
  obtain ⟨exponent, -, rfl⟩ := h
  obtain ⟨d, cs, hcs⟩ := exists_char_cons n.whole
  rw [hcs]
  cases n.negative with
  | true => exact ⟨'-', _, rfl, .inl rfl⟩
  | false => exact ⟨d.char, _, rfl, .inr ⟨d, rfl⟩⟩

/-- A numeral is read however it is written, and what follows it is left. -/
theorem take?_of_spelledBy {n : Numeral} {cs rest : List Char} (h : n.SpelledBy cs)
    (hrest : Ends rest) : take? (cs ++ rest) = some (n, rest) := by
  obtain ⟨negative, whole, fraction, exponent⟩ := n
  obtain ⟨w, hw, rfl⟩ := h
  -- Whichever parts are absent, no digits and no point follow where they should end.
  have hexponent : ∀ c ∈ (w ++ rest).head?, Digit.ofChar? c = none ∧ c ≠ '.' := by
    intro c hc
    cases hw with
    | absent =>
        exact ⟨hrest.ofChar?_eq_none c hc,
          fun hpoint => absurd (hrest c hc) (by rw [hpoint]; decide)⟩
    | present hletter =>
        obtain rfl := Option.some.inj hc
        rcases hletter with rfl | rfl
        · decide
        · decide
  have hfraction : ∀ c ∈ (fractionText fraction ++ (w ++ rest)).head?,
      Digit.ofChar? c = none := by
    intro c hc
    cases fraction with
    | nil => exact (hexponent c hc).1
    | cons d ds =>
        obtain rfl : '.' = c := Option.some.inj hc
        decide
  have hpoint : '.' ∉ (w ++ rest).head? := fun hc => (hexponent _ hc).2 rfl
  simp only [take?, List.append_assoc, takeMinus_minusText, takeWhole?_digits whole hfraction,
    takeFraction?_fractionText fraction (fun c hc => (hexponent c hc).1) hpoint,
    takeExponent?_of_spelledBy hw hrest, Option.bind_eq_bind, Option.bind_some, Option.pure_def]

/-- What is read as a numeral is a text of it. -/
theorem exists_spelledBy_of_take? {n : Numeral} {cs rest : List Char}
    (h : take? cs = some (n, rest)) : ∃ w, n.SpelledBy w ∧ cs = w ++ rest := by
  rcases hminus : takeMinus cs with ⟨negative, cs₁⟩
  simp only [take?, hminus, Option.bind_eq_bind, Option.bind_eq_some_iff, Option.pure_def] at h
  obtain ⟨⟨whole, cs₂⟩, hwhole, ⟨fraction, cs₃⟩, hfraction, ⟨exponent, cs₄⟩, hexponent, heq⟩ := h
  obtain ⟨rfl, rfl⟩ := Prod.mk.inj (Option.some.inj heq)
  obtain ⟨w, hw, hcs₃ : cs₃ = w ++ cs₄⟩ := exists_spelledBy_of_takeExponent? hexponent
  refine ⟨_, ⟨w, hw, rfl⟩, ?_⟩
  calc
    cs = minusText negative ++ cs₁ := eq_of_takeMinus hminus
    _ = minusText negative ++ ((digits whole).map Digit.char ++ cs₂) := by
      rw [← eq_of_takeWhole? hwhole]
    _ = minusText negative ++
        ((digits whole).map Digit.char ++ (fractionText fraction ++ cs₃)) := by
      rw [← eq_of_takeFraction? hfraction]
    _ = _ := by simp only [hcs₃, List.append_assoc]

end Json.Numeral

/-! ## Numbers -/

/-- The text of a double is read as the same double. Reading rounds twice, so not every double has
this property. -/
def Double.ReadsBack (x : Double) : Prop := (Json.Numeral.ofDouble x).number? = some (.double x)

instance (x : Double) : Decidable x.ReadsBack :=
  inferInstanceAs (Decidable (_ = _))

/-- Integers are read back, whatever their size; doubles by assumption. -/
theorem Json.Numeral.number?_ofNumber {n : Number} (h : ∀ x, n = .double x → x.ReadsBack) :
    (ofNumber n).number? = some n := by
  cases n with
  | ofNat n => rw [ofNumber, number?, if_pos ⟨rfl, rfl⟩, if_neg Bool.false_ne_true, dif_pos n.isLt]
  | negSucc n =>
      have hn : n.val + 1 ≠ 0 ∧ n.val + 1 ≤ signedLimit := ⟨by omega, n.isLt⟩
      rw [ofNumber, number?, if_pos ⟨rfl, rfl⟩, if_pos rfl, dif_pos hn]
      rfl
  | double x => exact h x rfl

end GatewayAccess
