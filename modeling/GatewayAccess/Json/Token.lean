import GatewayAccess.Json.Numeral
import GatewayAccess.Json.StringLiteral

/-! # JSON tokens

A JSON text as its tokens: brackets, punctuation, names, numerals and string literals, with blanks
between them left out. The tokens of a text are unique, and so is the compact text of tokens.
-/

namespace GatewayAccess.Json

/-- A token. A string literal that is well formed but stands for no text carries `none`. -/
inductive Token where
  | openArray
  | closeArray
  | openObject
  | closeObject
  | comma
  | colon
  | null
  | bool (b : Bool)
  | number (n : Numeral)
  | string (s : Option String)
deriving DecidableEq

namespace Token

/-- The text of a token. A string literal without a text is written as a lone surrogate half. -/
def text : Token → List Char
  | openArray => ['[']
  | closeArray => [']']
  | openObject => ['{']
  | closeObject => ['}']
  | comma => [',']
  | colon => [':']
  | null => ['n', 'u', 'l', 'l']
  | bool true => ['t', 'r', 'u', 'e']
  | bool false => ['f', 'a', 'l', 's', 'e']
  | number n => n.text
  | string (some s) => quote s.toList
  | string none => ['"', '\\', 'u', 'd', '8', '0', '0', '"']

/-- The characters that may stand between tokens. -/
def isBlank (c : Char) : Bool := c = ' ' || c = '\t' || c = '\n' || c = '\r'

/-- The token at the head of a text that starts with no blank, and what follows it. -/
def take? : List Char → Option (Token × List Char)
  | '[' :: rest => some (openArray, rest)
  | ']' :: rest => some (closeArray, rest)
  | '{' :: rest => some (openObject, rest)
  | '}' :: rest => some (closeObject, rest)
  | ',' :: rest => some (comma, rest)
  | ':' :: rest => some (colon, rest)
  | 'n' :: 'u' :: 'l' :: 'l' :: rest => some (null, rest)
  | 't' :: 'r' :: 'u' :: 'e' :: rest => some (bool true, rest)
  | 'f' :: 'a' :: 'l' :: 's' :: 'e' :: rest => some (bool false, rest)
  | '"' :: rest => (takeString? rest).map fun (s, after) => (string s, after)
  | cs => (Numeral.take? cs).map fun (n, after) => (number n, after)

theorem length_take?_lt {cs : List Char} {t : Token} {after : List Char}
    (h : take? cs = some (t, after)) : after.length < cs.length := by
  unfold take? at h
  split at h
  case h_10 rest =>
    obtain ⟨⟨s, r⟩, hs, he⟩ := Option.map_eq_some_iff.1 h
    simp only [takeString?, Option.bind_eq_bind, Option.bind_eq_some_iff, Option.pure_def] at hs
    obtain ⟨⟨p, q⟩, hp, hq⟩ := hs
    have := length_takePieces?_lt hp
    simp_all
    omega
  case h_11 =>
    obtain ⟨⟨n, r⟩, hn, he⟩ := Option.map_eq_some_iff.1 h
    obtain ⟨-, rfl⟩ := Prod.mk.inj he
    exact Numeral.length_take?_lt hn
  all_goals
    obtain ⟨-, rfl⟩ := Prod.mk.inj (Option.some.inj h)
    simp only [List.length_cons]
    omega

/-- The tokens of a text behind those already read, which are given latest first. -/
def readFrom? (before : List Token) (cs : List Char) : Option (List Token) :=
  match _hcs : cs.dropWhile isBlank with
  | [] => some before.reverse
  | c :: rest =>
      match _h : take? (c :: rest) with
      | none => none
      | some (t, after) => readFrom? (t :: before) after
termination_by cs.length
decreasing_by
  have hlt := length_take?_lt _h
  have hle := (List.dropWhile_suffix (l := cs) isBlank).length_le
  rw [_hcs] at hle
  exact Nat.lt_of_lt_of_le hlt hle

/-- The tokens of a text; `none` if the text is not made of tokens and blanks. -/
def read? (cs : List Char) : Option (List Token) := readFrom? [] cs

end Token

end GatewayAccess.Json
