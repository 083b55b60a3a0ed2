/-!
# Log entries

What the library tells about itself, as data: every operation returns the entries that it emits, in
their order. Measured times are not part of an entry.
-/

namespace Coordination.Log

/-- How much an event matters. -/
inductive Level where
  | trace
  | debug
  | info
  | warn
  | error
deriving DecidableEq, Repr, Inhabited

/-- The value of a field. -/
inductive Value where
  | text (value : String)
  | number (value : Nat)
  | flag (value : Bool)
deriving DecidableEq, Repr, Inhabited

/-- Named values that go with an entry. -/
abbrev Fields := List (String × Value)

/-- An event, the beginning of a span, or values recorded on a span. -/
inductive Entry where
  | event (level : Level) (message : String) (fields : Fields)
  | span (name : String) (fields : Fields)
  | record (fields : Fields)
deriving DecidableEq, Repr, Inhabited

end Coordination.Log
