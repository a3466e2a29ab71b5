/-! # JSON string literals

Writing puts a text in quotes and escapes the quote, the backslash and the characters below
U+0020, nothing else. Reading knows every escape of JSON. An escape can name one half of a
surrogate pair; such a literal is well formed, but unless the other half follows it stands for no
text.
-/

namespace GatewayAccess.Json

/-- The character of a value below 16, in lower case. -/
def hexDigit (n : Nat) : Char := Nat.digitChar (n % 16)

/-- A character inside a literal. -/
def escaped (c : Char) : List Char :=
  if c = '"' then ['\\', '"']
  else if c = '\\' then ['\\', '\\']
  else if c = '\x08' then ['\\', 'b']
  else if c = '\x0c' then ['\\', 'f']
  else if c = '\n' then ['\\', 'n']
  else if c = '\r' then ['\\', 'r']
  else if c = '\t' then ['\\', 't']
  else if c.toNat < 0x20 then ['\\', 'u', '0', '0', hexDigit (c.toNat / 16), hexDigit c.toNat]
  else [c]

/-- The literal of a text. -/
def quote (cs : List Char) : List Char := '"' :: (cs.flatMap escaped ++ ['"'])

/-- What a literal is made of: characters, and halves of surrogate pairs named by escapes. -/
inductive Piece where
  | char (c : Char)
  | surrogate (unit : Nat)
deriving DecidableEq

namespace Piece

/-- The piece that a four-digit escape names. -/
def ofUnit (unit : Nat) : Piece :=
  if 0xD800 ≤ unit ∧ unit < 0xE000 then .surrogate unit else .char (Char.ofNat unit)

/-- The character of a leading and a trailing half. -/
def pair? (leading trailing : Nat) : Option Char :=
  if leading < 0xDC00 ∧ 0xDC00 ≤ trailing then
    some (Char.ofNat (0x10000 + (leading - 0xD800) * 0x400 + (trailing - 0xDC00)))
  else none

/-- The text that pieces make; `none` if a half has no partner. -/
def text? : List Piece → Option (List Char)
  | [] => some []
  | .char c :: rest => (text? rest).map (c :: ·)
  | .surrogate leading :: .surrogate trailing :: rest => do
      let c ← pair? leading trailing
      return c :: (← text? rest)
  | .surrogate _ :: _ => none

end Piece

/-- The value of a hexadecimal digit in either case. -/
def hexValue? (c : Char) : Option Nat :=
  if '0' ≤ c ∧ c ≤ '9' then some (c.toNat - '0'.toNat)
  else if 'a' ≤ c ∧ c ≤ 'f' then some (c.toNat - 'a'.toNat + 10)
  else if 'A' ≤ c ∧ c ≤ 'F' then some (c.toNat - 'A'.toNat + 10)
  else none

/-- The value of four hexadecimal digits. -/
def hexUnit? (a b c d : Char) : Option Nat := do
  return (((← hexValue? a) * 16 + (← hexValue? b)) * 16 + (← hexValue? c)) * 16 + (← hexValue? d)

/-- The character that a one-letter escape names. -/
def unescaped? : Char → Option Char
  | '"' => some '"'
  | '\\' => some '\\'
  | '/' => some '/'
  | 'b' => some '\x08'
  | 'f' => some '\x0c'
  | 'n' => some '\n'
  | 'r' => some '\r'
  | 't' => some '\t'
  | _ => none

/-- The pieces up to the closing quote, and what follows it. -/
def takePieces? : List Char → Option (List Piece × List Char)
  | [] => none
  | '"' :: rest => some ([], rest)
  | '\\' :: 'u' :: a :: b :: c :: d :: rest => do
      let unit ← hexUnit? a b c d
      let (pieces, after) ← takePieces? rest
      return (.ofUnit unit :: pieces, after)
  | '\\' :: c :: rest => do
      let c ← unescaped? c
      let (pieces, after) ← takePieces? rest
      return (.char c :: pieces, after)
  | c :: rest =>
      if c.toNat < 0x20 then none
      else do
        let (pieces, after) ← takePieces? rest
        return (.char c :: pieces, after)

/-- The text of the literal whose opening quote has just been read, and what follows it. The text
is `none` when the literal is well formed but stands for no text. -/
def takeString? (cs : List Char) : Option (Option String × List Char) := do
  let (pieces, after) ← takePieces? cs
  return ((Piece.text? pieces).map String.ofList, after)

/-- What follows a literal is shorter than the text. -/
theorem length_takePieces?_lt {cs : List Char} {pieces : List Piece} {after : List Char}
    (h : takePieces? cs = some (pieces, after)) : after.length < cs.length := by
  fun_induction takePieces? cs generalizing pieces after with
  | case1 => simp at h
  | case2 rest => simp_all
  | case3 a b c d rest ih =>
      simp only [Option.bind_eq_bind, Option.bind_eq_some_iff, Option.pure_def] at h
      obtain ⟨unit, -, ⟨p, r⟩, hr, he⟩ := h
      have := ih hr
      simp_all
      omega
  | case4 c rest _ ih =>
      simp only [Option.bind_eq_bind, Option.bind_eq_some_iff, Option.pure_def] at h
      obtain ⟨u, -, ⟨p, r⟩, hr, he⟩ := h
      have := ih hr
      simp_all
      omega
  | case5 => simp at h
  | case6 c rest _ _ _ _ ih =>
      simp only [Option.bind_eq_bind, Option.bind_eq_some_iff, Option.pure_def] at h
      obtain ⟨⟨p, r⟩, hr, he⟩ := h
      have := ih hr
      simp_all
      omega

end GatewayAccess.Json
