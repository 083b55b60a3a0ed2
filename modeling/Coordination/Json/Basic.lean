/-!
# JSON documents

A document as a reader sees it. Two things are kept apart that a reader treats differently: an
`integer` is a number written without a point or an exponent, a `decimal` any other number. A part
that can only be skipped over (a text with half a surrogate pair, a number beyond every bound) is
`unreadable`: it does no harm where nobody looks at it.
-/

namespace Coordination

/-- A JSON document; the members of an object are in the order of the text, repetitions included. -/
inductive Json where
  | null
  | bool (value : Bool)
  | integer (value : Int)
  | decimal (literal : String)
  | string (text : String)
  | array (items : List Json)
  | object (members : List (String × Json))
  | unreadable
deriving Inhabited, Repr

namespace Json

/-- The member of a name that counts when a name is repeated: the last one. -/
def member? (name : String) : Json → Option Json
  | .object members => (members.reverse.find? (·.1 = name)).map (·.2)
  | _ => none

mutual

/-- Whether every part of a document can be read and it nests at most `depth` deep. -/
def isReadable (depth : Nat) : Json → Bool
  | .unreadable => false
  | .array items => 0 < depth && areReadable (depth - 1) items
  | .object members => 0 < depth && haveReadable (depth - 1) members
  | _ => true

def areReadable (depth : Nat) : List Json → Bool
  | [] => true
  | item :: rest => isReadable depth item && areReadable depth rest

def haveReadable (depth : Nat) : List (String × Json) → Bool
  | [] => true
  | (_, value) :: rest => isReadable depth value && haveReadable depth rest

end

end Json

end Coordination
