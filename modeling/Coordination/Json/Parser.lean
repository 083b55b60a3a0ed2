import Coordination.Json.Basic
import Coordination.Json.Magnitude

/-!
# Reading JSON

`parse` reads a text that holds one document and nothing else but blanks. A text that breaks the
grammar is refused; one that keeps it is read, and a part of it that names no value (half a
surrogate pair, a number too large for every format) becomes `Json.unreadable`, so that it is only
refused where it is looked at.
-/

namespace Coordination.Json

/-- The four blanks of the grammar. -/
def isBlank (character : Char) : Bool :=
  character = ' ' || character = '\n' || character = '\t' || character = '\r'

def skipBlanks (characters : List Char) : List Char := characters.dropWhile isBlank

/-- A unit of a text between quotes: a character, or a code of sixteen bits given by an escape. -/
inductive Unit16 where
  | char (character : Char)
  | code (unit : Nat)

/-- The number of a hexadecimal digit of either case. -/
def hexNumber? (character : Char) : Option Nat :=
  if character.isDigit then some (character.toNat - 48)
  else if 'a' ≤ character ∧ character ≤ 'f' then some (character.toNat - 87)
  else if 'A' ≤ character ∧ character ≤ 'F' then some (character.toNat - 55)
  else none

def code? (first second third fourth : Char) : Option Nat := do
  let first ← hexNumber? first
  let second ← hexNumber? second
  let third ← hexNumber? third
  let fourth ← hexNumber? fourth
  return ((first * 16 + second) * 16 + third) * 16 + fourth

def shortEscape? (character : Char) : Option Char :=
  if character = '"' then some '"'
  else if character = '\\' then some '\\'
  else if character = '/' then some '/'
  else if character = 'b' then some (Char.ofNat 8)
  else if character = 'f' then some (Char.ofNat 12)
  else if character = 'n' then some '\n'
  else if character = 'r' then some '\r'
  else if character = 't' then some '\t'
  else none

/-- The units of a text up to its closing quote, and what follows the quote. -/
def readUnits : List Char → Option (List Unit16 × List Char)
  | [] => none
  | '"' :: rest => some ([], rest)
  | '\\' :: 'u' :: first :: second :: third :: fourth :: rest => do
      let unit ← code? first second third fourth
      let (units, rest) ← readUnits rest
      return (.code unit :: units, rest)
  | '\\' :: escaped :: rest => do
      let character ← shortEscape? escaped
      let (units, rest) ← readUnits rest
      return (.char character :: units, rest)
  | character :: rest =>
      if character.toNat < 32 then none
      else do
        let (units, rest) ← readUnits rest
        return (.char character :: units, rest)

/-- Whether a code is the first half of a surrogate pair. -/
def isLeading (unit : Nat) : Bool := 0xD800 ≤ unit && unit < 0xDC00

/-- Whether a code is the second half of a surrogate pair. -/
def isTrailing (unit : Nat) : Bool := 0xDC00 ≤ unit && unit < 0xE000

/-- The characters that units denote, if no half of a surrogate pair stands alone. -/
def joinUnits : List Unit16 → Option (List Char)
  | [] => some []
  | .char character :: rest => (character :: ·) <$> joinUnits rest
  | .code leading :: .code trailing :: rest =>
      if isLeading leading then
        if isTrailing trailing then
          let number := 0x10000 + (leading - 0xD800) * 0x400 + (trailing - 0xDC00)
          (Char.ofNat number :: ·) <$> joinUnits rest
        else none
      else if isTrailing leading then none
      else (Char.ofNat leading :: ·) <$> joinUnits (.code trailing :: rest)
  | .code unit :: rest =>
      if isLeading unit || isTrailing unit then none
      else (Char.ofNat unit :: ·) <$> joinUnits rest

/-- A text from behind its opening quote; the text is missing where it names no characters. -/
def readText (characters : List Char) : Option (Option String × List Char) := do
  let (units, rest) ← readUnits characters
  return ((joinUnits units).map String.ofList, rest)

/-- The fraction of a number: its digits, which are missing where there is no point. -/
def readFraction : List Char → Option (List Char × List Char)
  | '.' :: rest =>
      let (digits, rest) := rest.span Char.isDigit
      if digits.isEmpty then none else some (digits, rest)
  | rest => some ([], rest)

/-- The digits of an exponent behind its letter, with its sign. -/
def readSigned : List Char → Option (Int × List Char)
  | characters =>
      let (negative, unsigned) := match characters with
        | '-' :: rest => (true, rest)
        | '+' :: rest => (false, rest)
        | rest => (false, rest)
      let (digits, rest) := unsigned.span Char.isDigit
      if digits.isEmpty then none
      else
        let size : Int := Digits.value digits
        some (if negative then -size else size, rest)

/-- The exponent of a number, missing where there is none. -/
def readExponent : List Char → Option (Option Int × List Char)
  | 'e' :: rest => (readSigned rest).map fun (exponent, rest) => (some exponent, rest)
  | 'E' :: rest => (readSigned rest).map fun (exponent, rest) => (some exponent, rest)
  | rest => some (none, rest)

/-- The digits before the point: a zero alone, or digits that begin with another one. -/
def readWhole : List Char → Option (List Char × List Char)
  | '0' :: rest => some (['0'], rest)
  | characters =>
      let (digits, rest) := characters.span Char.isDigit
      if digits.isEmpty then none else some (digits, rest)

/-- The text of a number, from its first character up to the rest behind it. -/
def literal (characters rest : List Char) : String :=
  String.ofList (characters.take (characters.length - rest.length))

/-- The value of a number that is written as some digits, a fraction and an exponent, between its
first character and the rest behind it. -/
def number (negative : Bool) (whole fraction : List Char) (exponent : Option Int)
    (characters rest : List Char) : Json :=
  if isInfinite whole fraction (exponent.getD 0) then .unreadable
  else
    match fraction, exponent with
    | [], none =>
        if negative then
          if Digits.value whole = 0 then .decimal (literal characters rest)
          else .integer (-(Digits.value whole : Int))
        else .integer (Digits.value whole)
    | _, _ => .decimal (literal characters rest)

def readNumber (characters : List Char) : Option (Json × List Char) := do
  let (negative, unsigned) := match characters with
    | '-' :: rest => (true, rest)
    | rest => (false, rest)
  let (whole, rest) ← readWhole unsigned
  let (fraction, rest) ← readFraction rest
  let (exponent, rest) ← readExponent rest
  return (number negative whole fraction exponent characters rest, rest)

mutual

/-- A value and what follows it. -/
def readValue : Nat → List Char → Option (Json × List Char)
  | 0, _ => none
  | fuel + 1, characters =>
      match skipBlanks characters with
      | 'n' :: 'u' :: 'l' :: 'l' :: rest => some (.null, rest)
      | 't' :: 'r' :: 'u' :: 'e' :: rest => some (.bool true, rest)
      | 'f' :: 'a' :: 'l' :: 's' :: 'e' :: rest => some (.bool false, rest)
      | '"' :: rest =>
          (readText rest).map fun (text, rest) => ((text.map Json.string).getD .unreadable, rest)
      | '[' :: rest =>
          match skipBlanks rest with
          | ']' :: rest => some (.array [], rest)
          | _ => (readItems fuel rest).map fun (items, rest) => (.array items, rest)
      | '\x7b' :: rest =>
          match skipBlanks rest with
          | '\x7d' :: rest => some (.object [], rest)
          | _ =>
            (readMembers fuel rest).map fun (members, rest) =>
              ((members.map Json.object).getD .unreadable, rest)
      | other => readNumber other

def readItems : Nat → List Char → Option (List Json × List Char)
  | 0, _ => none
  | fuel + 1, characters => do
      let (item, rest) ← readValue fuel characters
      match skipBlanks rest with
      | ']' :: rest => some ([item], rest)
      | ',' :: rest => (readItems fuel rest).map fun (items, rest) => (item :: items, rest)
      | _ => none

/-- The members of an object that has some, up to its closing brace; they are missing where a name
names no characters. -/
def readMembers : Nat → List Char → Option (Option (List (String × Json)) × List Char)
  | 0, _ => none
  | fuel + 1, characters => do
      match skipBlanks characters with
      | '"' :: rest =>
          let (name, rest) ← readText rest
          match skipBlanks rest with
          | ':' :: rest =>
              let (value, rest) ← readValue fuel rest
              let member := name.map fun name => (name, value)
              match skipBlanks rest with
              | '\x7d' :: rest => some (member.map ([·]), rest)
              | ',' :: rest =>
                  (readMembers fuel rest).map fun (members, rest) =>
                    (member.bind fun member => members.map (member :: ·), rest)
              | _ => none
          | _ => none
      | _ => none

end

/-- The document that a text holds; every step of the reader but one in two takes a character. -/
def parse (characters : List Char) : Option Json := do
  let (document, rest) ← readValue (2 * characters.length + 2) characters
  if (skipBlanks rest).isEmpty then some document else none

end Coordination.Json
