import TestWatch.Text.Hidden

/-!
# Quoted texts

A text between double quotes, with everything that would not show written as an escape: quotes and
backslashes, the usual controls by letter, every other hidden character by its number.
-/

namespace TestWatch

namespace Text

/-- A number in lower-case hexadecimal digits, without leading zeros. -/
def hexadecimal (n : Nat) : Text := Nat.toDigits 16 n

/-- A character as it stands in a quoted text. -/
def quotedChar (c : Char) : Text :=
  if c = '"' then ['\\', '"']
  else if c = '\\' then ['\\', '\\']
  else if c = '\n' then ['\\', 'n']
  else if c = '\r' then ['\\', 'r']
  else if c = '\t' then ['\\', 't']
  else if c.toNat = 0 then ['\\', '0']
  else if 0x20 ≤ c.toNat && c.toNat ≤ 0x7E then [c]
  else if isHidden c then ['\\', 'u', '\x7b'] ++ hexadecimal c.toNat ++ ['\x7d']
  else [c]

/-- A text in double quotes. -/
def quoted (s : Text) : Text := '"' :: s.flatMap quotedChar ++ ['"']

example : quoted "a\"b\\\t\u200b é".toList = "\"a\\\"b\\\\\\t\\u\x7b200b\x7d é\"".toList := by
  decide +kernel

end Text

end TestWatch
