import Coordination.Duration
import Coordination.Json.Record

/-!
# Durations in JSON

A duration is written as its nearest number of milliseconds, a half going up, in a word of 64 bits.
-/

namespace Coordination

/-- Why a duration has no document. -/
inductive EncodeError where
  /-- Its whole milliseconds do not fit in a word. -/
  | tooLong
  /-- They do, but their number does not when it is rounded up: the writer panics. -/
  | roundsOver
deriving DecidableEq, Repr, Inhabited

/-- What the panic says that comes from writing, if one does. -/
def EncodeError.panic? : EncodeError → Option String
  | .tooLong => none
  | .roundsOver => some "attempt to add with overflow"

namespace Duration

def toJson (duration : Duration) : Except EncodeError Json :=
  if Json.wordBound ≤ duration.milliseconds then .error .tooLong
  else if Json.wordBound ≤ duration.nearestMillisecond then .error .roundsOver
  else .ok (.integer duration.nearestMillisecond)

def ofJson? (document : Json) : Option Duration := document.word?.map ofMilliseconds

/-- Exactly the durations are written whose nearest number of milliseconds fits in a word. -/
theorem toJson_eq_ok_iff (duration : Duration) (document : Json) :
    duration.toJson = .ok document ↔
      duration.nearestMillisecond < Json.wordBound ∧
        document = .integer duration.nearestMillisecond := by
  have rounding : duration.milliseconds ≤ duration.nearestMillisecond := by
    simp only [milliseconds, nearestMillisecond]
    omega
  simp only [toJson]
  split
  · constructor
    · simp
    · omega
  · split
    · constructor
      · simp
      · omega
    · simp [Nat.lt_of_not_le, *, eq_comm]

end Duration

end Coordination
