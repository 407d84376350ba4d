import Chargeback.Text.Unprintable

/-!
# Quoted text

Texts in messages stand in double quotes. A quote and a backslash inside get a backslash before
them, the usual control characters their short form, and any other character that is not shown as
itself its number in braces, in hexadecimal without padding.
-/

namespace Chargeback

/-- The written form of one character between the quotes. -/
def quotedChar (c : Char) : List Char :=
  if c = '"' then ['\\', '"']
  else if c = '\\' then ['\\', '\\']
  else if c = '\n' then ['\\', 'n']
  else if c = '\r' then ['\\', 'r']
  else if c = '\t' then ['\\', 't']
  else if c.toNat = 0 then ['\\', '0']
  else if isUnprintable c then
    ['\\', 'u', '\x7b'] ++ Nat.toDigits 16 c.toNat ++ ['\x7d']
  else [c]

/-- A text in double quotes. -/
def quoted (s : String) : String :=
  String.ofList ('"' :: s.toList.flatMap quotedChar ++ ['"'])

end Chargeback
