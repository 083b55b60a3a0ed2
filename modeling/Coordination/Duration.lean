/-!
# Durations and instants

A duration is a whole number of nanoseconds, an instant the duration since the beginning of time.
Configuration texts hold durations in whole milliseconds, rounded half up (`Duration.rounded`).
-/

namespace Coordination

/-- A point in time, in nanoseconds since the beginning of time. -/
abbrev Instant := Nat

/-- The first instant that the clock cannot tell; it counts the seconds in 63 bits. -/
def Instant.limit : Instant := Nat.pow 2 63 * 1000000000

/-- A length of time in nanoseconds. -/
structure Duration where
  nanoseconds : Nat
deriving DecidableEq, Repr, Inhabited

namespace Duration

def ofParts (seconds nanoseconds : Nat) : Duration := ⟨seconds * 1000000000 + nanoseconds⟩

def ofMilliseconds (count : Nat) : Duration := ⟨count * 1000000⟩

def ofSeconds (count : Nat) : Duration := ⟨count * 1000000000⟩

def seconds (duration : Duration) : Nat := duration.nanoseconds / 1000000000

/-- The nanoseconds of a duration beyond its whole seconds. -/
def subsecond (duration : Duration) : Nat := duration.nanoseconds % 1000000000

/-- The whole milliseconds of a duration, the rest cut off. -/
def milliseconds (duration : Duration) : Nat := duration.nanoseconds / 1000000

/-- The nearest number of milliseconds; a half goes up. -/
def nearestMillisecond (duration : Duration) : Nat := (duration.nanoseconds + 500000) / 1000000

/-- A duration replaced by its nearest number of whole milliseconds. -/
def rounded (duration : Duration) : Duration := ofMilliseconds duration.nearestMillisecond

/-- The instant at which a duration that begins now is over. -/
def after (duration : Duration) (now : Instant) : Instant := now + duration.nanoseconds

/-- Whether the clock can tell the instant at which a duration that begins now is over. -/
def fits (duration : Duration) (now : Instant) : Bool := duration.after now < Instant.limit

/-- What the panic says that comes from looking for an instant that the clock cannot tell. -/
def overflowText : String := "overflow when adding duration to instant"

@[simp]
theorem nearestMillisecond_ofMilliseconds (count : Nat) :
    (ofMilliseconds count).nearestMillisecond = count := by
  simp only [nearestMillisecond, ofMilliseconds]
  omega

/-- Rounding a second time changes nothing. -/
@[simp]
theorem rounded_rounded (duration : Duration) : duration.rounded.rounded = duration.rounded := by
  simp [rounded]

end Duration

end Coordination
