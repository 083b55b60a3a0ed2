import Coordination.Text.Printable

/-!
# Texts shown to a reader

A text between double quotes, such that it can be read off a single line: quotes and backslashes
have a backslash before them, the common controls their short escape, and every other character
that would not be seen its code in braces.
-/

namespace Coordination.Text

/-- The digits of a number in base sixteen, in lower case. -/
def hexadecimal (code : Nat) : List Char := Nat.toDigits 16 code

/-- How a character is shown between the quotes. -/
def shown (character : Char) : List Char :=
  if character = '"' then ['\\', '"']
  else if character = '\\' then ['\\', '\\']
  else if character = '\n' then ['\\', 'n']
  else if character = '\r' then ['\\', 'r']
  else if character = '\t' then ['\\', 't']
  else if character.toNat = 0 then ['\\', '0']
  else if isPrintable character then [character]
  else ['\\', 'u', '\x7b'] ++ hexadecimal character.toNat ++ ['\x7d']

def quoted (text : String) : String :=
  String.ofList ('"' :: text.toList.flatMap shown ++ ['"'])

end Coordination.Text
