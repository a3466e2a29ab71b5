import GatewayAccess.Json.StringLiteral
import Mathlib.Tactic.SplitIfs

/-! # String literals are read as they are written

`LiteralSpelledBy` says which literals stand for a text, and which are well formed but stand for
none. Each is read as what it stands for and ends where the literal does, whatever it is made of
(`takeString?_of_spelledBy`), and nothing else is read (`exists_spelledBy_of_takeString?`). No
character ends the literal early or changes what follows, since each piece is read from what is
written for it alone: `takePieces?_of_spelledBy`.
-/

namespace GatewayAccess.Json

/-! ## One piece -/

namespace Piece

/-- The texts of a piece: the character itself, unless it has to be escaped, an escape by a letter,
or an escape by a code. -/
inductive SpelledBy : Piece → List Char → Prop
  | plain {c : Char} (hquote : c ≠ '"') (hbackslash : c ≠ '\\') (hcode : ¬ c.toNat < 0x20) :
      SpelledBy (.char c) [c]
  | letter {letter c : Char} (h : unescaped? letter = some c) :
      SpelledBy (.char c) ['\\', letter]
  | code {a b c d : Char} {unit : Nat} (h : hexUnit? a b c d = some unit) :
      SpelledBy (.ofUnit unit) ['\\', 'u', a, b, c, d]

/-- A piece read before the pieces that follow. -/
def consTo (p : Piece) (read : List Piece × List Char) : List Piece × List Char :=
  (p :: read.1, read.2)

end Piece

/-- A piece is read from what is written for it. -/
theorem takePieces?_of_spelledBy {p : Piece} {w : List Char} (h : p.SpelledBy w)
    (rest : List Char) : takePieces? (w ++ rest) = (takePieces? rest).map p.consTo := by
  cases h with
  | @plain c hquote hbackslash hcode =>
      rw [List.singleton_append, takePieces?, if_neg hcode]
      · simp only [Option.bind_eq_bind, Option.pure_def, Option.map_eq_bind]
        rfl
      · exact hquote
      · rintro _ _ _ _ _ heq
        exact absurd heq hbackslash
      · rintro _ _ heq
        exact absurd heq hbackslash
  | @letter letter c h =>
      have hu : letter ≠ 'u' := by
        rintro rfl
        cases h
      rw [List.cons_append, List.singleton_append, takePieces?]
      · simp only [h, Option.bind_eq_bind, Option.bind_some, Option.pure_def, Option.map_eq_bind]
        rfl
      · rintro _ _ _ _ _ heq
        exact absurd heq hu
  | code h =>
      simp only [List.cons_append, List.nil_append, takePieces?, h, Option.bind_eq_bind,
        Option.bind_some, Option.pure_def, Option.map_eq_bind]
      rfl

/-- Four hexadecimal digits give the code of a control character. -/
theorem hexUnit?_hexDigit {n : Nat} (h : n < 0x20) :
    hexUnit? '0' '0' (hexDigit (n / 16)) (hexDigit n) = some n := by
  revert n
  decide

/-- What is written for a character is a text of it. -/
theorem spelledBy_escaped (c : Char) : (Piece.char c).SpelledBy (escaped c) := by
  unfold escaped
  split_ifs with hquote hbackslash hb hf hn hr ht hcode
  · rw [hquote]
    exact .letter rfl
  · rw [hbackslash]
    exact .letter rfl
  · rw [hb]
    exact .letter rfl
  · rw [hf]
    exact .letter rfl
  · rw [hn]
    exact .letter rfl
  · rw [hr]
    exact .letter rfl
  · rw [ht]
    exact .letter rfl
  · have hunit : Piece.ofUnit c.toNat = .char c := by
      rw [Piece.ofUnit, if_neg (by omega), Char.ofNat_toNat]
    exact hunit ▸ .code (hexUnit?_hexDigit hcode)
  · exact .plain hquote hbackslash hcode

/-! ## Whole literals -/

/-- The texts of pieces one behind the other. -/
inductive PiecesSpelledBy : List Piece → List Char → Prop
  | nil : PiecesSpelledBy [] []
  | cons {p : Piece} {ps : List Piece} {w cs : List Char} (hp : p.SpelledBy w)
      (hps : PiecesSpelledBy ps cs) : PiecesSpelledBy (p :: ps) (w ++ cs)

theorem piecesSpelledBy_flatMap_escaped (cs : List Char) :
    PiecesSpelledBy (cs.map .char) (cs.flatMap escaped) := by
  induction cs with
  | nil => exact .nil
  | cons c cs ih => exact .cons (spelledBy_escaped c) ih

/-- Pieces are read up to the closing quote. -/
theorem takePieces?_of_piecesSpelledBy {ps : List Piece} {cs : List Char}
    (h : PiecesSpelledBy ps cs) (rest : List Char) :
    takePieces? (cs ++ '"' :: rest) = some (ps, rest) := by
  induction h with
  | nil => rw [List.nil_append, takePieces?]
  | cons hp hps ih =>
      rw [List.append_assoc, takePieces?_of_spelledBy hp, ih]
      rfl

/-- What is read are the texts of pieces up to a quote. -/
theorem exists_piecesSpelledBy_of_takePieces? {cs after : List Char} {ps : List Piece}
    (h : takePieces? cs = some (ps, after)) :
    ∃ w, PiecesSpelledBy ps w ∧ cs = w ++ '"' :: after := by
  fun_induction takePieces? cs generalizing ps after with
  | case1 => cases h
  | case2 rest =>
      obtain ⟨rfl, rfl⟩ := Prod.mk.inj (Option.some.inj h)
      exact ⟨[], .nil, rfl⟩
  | case3 a b c d rest ih =>
      simp only [Option.bind_eq_bind, Option.bind_eq_some_iff, Option.pure_def] at h
      obtain ⟨unit, hunit, ⟨ps', after'⟩, hrest, heq⟩ := h
      obtain ⟨rfl, rfl⟩ := Prod.mk.inj (Option.some.inj heq)
      obtain ⟨w, hw, rfl⟩ := ih hrest
      exact ⟨_, .cons (.code hunit) hw, rfl⟩
  | case4 letter rest _ ih =>
      simp only [Option.bind_eq_bind, Option.bind_eq_some_iff, Option.pure_def] at h
      obtain ⟨c, hc, ⟨ps', after'⟩, hrest, heq⟩ := h
      obtain ⟨rfl, rfl⟩ := Prod.mk.inj (Option.some.inj heq)
      obtain ⟨w, hw, rfl⟩ := ih hrest
      exact ⟨_, .cons (.letter hc) hw, rfl⟩
  | case5 => cases h
  | case6 c rest hquote _ hescape hcode ih =>
      simp only [Option.bind_eq_bind, Option.bind_eq_some_iff, Option.pure_def] at h
      obtain ⟨⟨ps', after'⟩, hrest, heq⟩ := h
      obtain ⟨rfl, rfl⟩ := Prod.mk.inj (Option.some.inj heq)
      obtain ⟨w, hw, rfl⟩ := ih hrest
      -- A backslash would begin an escape, for the closing quote is behind it at least.
      have hbackslash : c ≠ '\\' := by
        obtain ⟨b, bs, hcons⟩ : ∃ b bs, w ++ '"' :: after' = b :: bs := by
          cases w <;> exact ⟨_, _, rfl⟩
        exact fun hc => hescape b bs hc hcons
      exact ⟨_, .cons (.plain hquote hbackslash hcode) hw, rfl⟩

/-- Characters make the text that they are. -/
theorem text?_map_char (cs : List Char) : Piece.text? (cs.map .char) = some cs := by
  induction cs with
  | nil => rfl
  | cons c cs ih => rw [List.map_cons, Piece.text?, ih, Option.map_some]

/-- The literals of a text; for `none`, those that stand for no text. -/
def LiteralSpelledBy (s : Option String) (cs : List Char) : Prop :=
  ∃ ps w, PiecesSpelledBy ps w ∧ s = (Piece.text? ps).map String.ofList ∧
    cs = '"' :: (w ++ ['"'])

theorem literalSpelledBy_quote (s : String) : LiteralSpelledBy (some s) (quote s.toList) :=
  ⟨_, _, piecesSpelledBy_flatMap_escaped s.toList,
    by rw [text?_map_char, Option.map_some, String.ofList_toList], rfl⟩

/-- A literal is read as what it stands for, and what follows it is left. -/
theorem takeString?_of_spelledBy {s : Option String} {cs : List Char} (h : LiteralSpelledBy s cs)
    (rest : List Char) :
    ∃ inside, cs ++ rest = '"' :: inside ∧ takeString? inside = some (s, rest) := by
  obtain ⟨ps, w, hw, rfl, rfl⟩ := h
  refine ⟨w ++ '"' :: rest, by simp only [List.cons_append, List.append_assoc, List.nil_append], ?_⟩
  rw [takeString?, takePieces?_of_piecesSpelledBy hw]
  rfl

/-- What is read behind a quote makes a literal with it. -/
theorem exists_spelledBy_of_takeString? {s : Option String} {cs rest : List Char}
    (h : takeString? cs = some (s, rest)) :
    ∃ w, LiteralSpelledBy s w ∧ '"' :: cs = w ++ rest := by
  simp only [takeString?, Option.bind_eq_bind, Option.bind_eq_some_iff, Option.pure_def] at h
  obtain ⟨⟨ps, after⟩, hpieces, heq⟩ := h
  obtain ⟨rfl, rfl⟩ := Prod.mk.inj (Option.some.inj heq)
  obtain ⟨w, hw, rfl⟩ := exists_piecesSpelledBy_of_takePieces? hpieces
  exact ⟨_, ⟨ps, w, hw, rfl, rfl⟩,
    by simp only [List.cons_append, List.append_assoc, List.nil_append]⟩

end GatewayAccess.Json
