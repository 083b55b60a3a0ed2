import Coordination.Json.Basic
import Coordination.Json.Magnitude

/-!
# Records in JSON

A record is written as an object. It is read from an object, whose unknown members are skipped and
whose known ones may each stand once, or from an array of its first fields in their order. Readers
of single fields accept a document of one form only and refuse every other one.
-/

namespace Coordination.Json

/-- The only element of a list: none, one, or more than the reader accepts. -/
def atMostOne : List Json → Option (Option Json)
  | [] => some none
  | [value] => some (some value)
  | _ => none

def named (name : String) (members : List (String × Json)) : List Json :=
  (members.filter (·.1 = name)).map (·.2)

/-- The documents of the named fields of a record, each of them missing or given once. -/
def fields (names : List String) : Json → Option (List (Option Json))
  | .object members => names.mapM fun name => atMostOne (named name members)
  | .array items =>
      if items.length ≤ names.length then
        some (items.map some ++ List.replicate (names.length - items.length) none)
      else none
  | _ => none

/-- A number of 64 bits, which is written without a sign, a point and an exponent. -/
def word? : Json → Option Nat
  | .integer (.ofNat value) => if value < wordBound then some value else none
  | _ => none

def string? : Json → Option String
  | .string text => some text
  | _ => none

def bool? : Json → Option Bool
  | .bool value => some value
  | _ => none

/-- A field that may be null. -/
def nullable? {α : Type} (read : Json → Option α) : Json → Option (Option α)
  | .null => some none
  | document => (read document).map some

/-- A field that may be missing, with its default. -/
def fieldOr {α : Type} (read : Json → Option α) (default : α) : Option Json → Option α
  | none => some default
  | some document => read document

/-- A choice among names: the name alone, or an object with the name as its only member and null as
that member's value. -/
def choice? : Json → Option String
  | .string name => some name
  | .object [(name, .null)] => some name
  | _ => none

end Coordination.Json
