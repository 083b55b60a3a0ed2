import Coordination.Json.Basic
import Coordination.Json.Digits

/-!
# Writing JSON

The compact text of a document: no blanks, members in their order, texts in double quotes with the
short escapes where there is one and a four-digit escape for every other control character.
-/

namespace Coordination.Json

/-- The hexadecimal digit of a number below sixteen, in lower case. -/
def hexDigit (number : Nat) : Char :=
  if number < 10 then Char.ofNat (48 + number) else Char.ofNat (87 + number)

def escape (character : Char) : List Char :=
  if character = '"' then ['\\', '"']
  else if character = '\\' then ['\\', '\\']
  else if character = '\n' then ['\\', 'n']
  else if character = '\r' then ['\\', 'r']
  else if character = '\t' then ['\\', 't']
  else if character.toNat = 8 then ['\\', 'b']
  else if character.toNat = 12 then ['\\', 'f']
  else if character.toNat < 32 then
    ['\\', 'u', '0', '0', hexDigit (character.toNat / 16), hexDigit (character.toNat % 16)]
  else [character]

def quote (text : List Char) : List Char := '"' :: text.flatMap escape ++ ['"']

def renderInteger : Int → List Char
  | .ofNat count => Digits.digits count
  | .negSucc count => '-' :: Digits.digits (count + 1)

mutual

/-- The compact text of a document. -/
def render : Json → List Char
  | .null => ['n', 'u', 'l', 'l']
  | .bool true => ['t', 'r', 'u', 'e']
  | .bool false => ['f', 'a', 'l', 's', 'e']
  | .integer value => renderInteger value
  | .decimal literal => literal.toList
  | .string text => quote text.toList
  | .array items => '[' :: renderItems items ++ [']']
  | .object members => '\x7b' :: renderMembers members ++ ['\x7d']
  | .unreadable => ['n', 'u', 'l', 'l']

def renderItems : List Json → List Char
  | [] => []
  | [item] => render item
  | item :: next :: rest => render item ++ ',' :: renderItems (next :: rest)

def renderMembers : List (String × Json) → List Char
  | [] => []
  | [(name, value)] => quote name.toList ++ ':' :: render value
  | (name, value) :: next :: rest =>
      quote name.toList ++ ':' :: render value ++ ',' :: renderMembers (next :: rest)

end

def text (document : Json) : String := String.ofList document.render

end Coordination.Json
