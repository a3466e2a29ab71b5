import GatewayAccess.Text.GraphemeExtend
import GatewayAccess.Text.Unprintable

/-! # Quoted text

A text as messages show it: in double quotes, on one line, and with every character visible. What
could not be seen on its own is written as an escape.
-/

namespace GatewayAccess

/-- The Hangul fillers: letters that are shown as nothing, and the only characters that Unicode
calls default-ignorable and that neither are unprintable nor extend a grapheme. -/
def isHangulFiller (c : Char) : Bool :=
  c = '\u115f' || c = '\u1160' || c = '\u3164' || c = '\uffa0'

/-- The halfwidth katakana sound marks. They extend the grapheme before them, but as letters with a
width of their own, so they can be seen. -/
def isHalfwidthSoundMark (c : Char) : Bool :=
  c = '\uff9e' || c = '\uff9f'

/-- Whether a character could not be seen on its own. -/
def isHidden (c : Char) : Bool :=
  isUnprintable c || isHangulFiller c || (isGraphemeExtend c && !isHalfwidthSoundMark c)

/-- A code point as an escape, in lower-case hexadecimal without padding. -/
def codePointEscape (c : Char) : List Char :=
  ['\\', 'u', '\x7b'] ++ Nat.toDigits 16 c.toNat ++ ['\x7d']

/-- A character inside quotes. -/
def quotedChar (c : Char) : List Char :=
  if c = '\x00' then ['\\', '0']
  else if c = '\t' then ['\\', 't']
  else if c = '\n' then ['\\', 'n']
  else if c = '\r' then ['\\', 'r']
  else if c = '"' then ['\\', '"']
  else if c = '\\' then ['\\', '\\']
  else if isHidden c then codePointEscape c
  else [c]

/-- A text in quotes. -/
def quoted (text : String) : String :=
  String.ofList ('"' :: (text.toList.flatMap quotedChar ++ ['"']))

end GatewayAccess
