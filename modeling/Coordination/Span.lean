import Coordination.Duration
import Coordination.Log

/-!
# Operation spans

A span stands for an operation under way. It is logged when it begins and when it ends, with a
warning if it took at least as long as its threshold, and results can be recorded on it in between.
-/

namespace Coordination

/-- The threshold of a span that sets none. -/
def Span.defaultThreshold : Duration := Duration.ofMilliseconds 100

/-- An operation under way since some instant. -/
structure Span where
  operation : String
  started : Instant
  slowThreshold : Duration := Span.defaultThreshold
deriving DecidableEq, Repr, Inhabited

namespace Span

open Log

def opening (span : Span) : List Entry :=
  let fields := [("operation", Value.text span.operation)]
  [.span "operation" fields, .event .debug "operation started" fields]

def items (count : Nat) : List Entry := [.record [("items_processed", .number count)]]

def result (success : Bool) : List Entry :=
  [.record [("result", .text (if success then "success" else "error"))]]

/-- Whether a span that ends now took at least as long as its threshold. -/
def isSlow (span : Span) (now : Instant) : Bool :=
  span.slowThreshold.nanoseconds ≤ now - span.started

def closing (span : Span) (now : Instant) : List Entry :=
  if span.isSlow now then [.event .warn "slow operation detected" [("slow", .flag true)]]
  else [.event .debug "operation completed" []]

end Span

end Coordination
