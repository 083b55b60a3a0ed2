import Coordination.Pool.Config

/-!
# Reports of a pool

What the workers of a run have counted, and what the end of a run is reported as. A report is clean
if nothing was left over and nobody was in a hurry.
-/

namespace Coordination

/-- What the workers of a run have counted. -/
structure PoolStats where
  processed : Nat := 0
  failed : Nat := 0
  initFailures : Nat := 0
deriving DecidableEq, Repr, Inhabited

/-- Whether a pool runs. -/
inductive PoolState where
  | idle
  | running
  | shuttingDown
deriving DecidableEq, Repr, Inhabited

namespace PoolState

def name : PoolState → String
  | .idle => "idle"
  | .running => "running"
  | .shuttingDown => "shutting_down"

/-- The name of a state in a pool's own text. -/
def title : PoolState → String
  | .idle => "Idle"
  | .running => "Running"
  | .shuttingDown => "ShuttingDown"

end PoolState

/-- How a wait for a pool has ended. -/
structure CompletionReport (ι : Type) where
  /-- The items that were left in the queue. -/
  pending : List ι := []
  interrupted : Bool := false
  /-- The number of workers that had not ended. -/
  stragglers : Nat := 0
  /-- The number of workers whose threads have panicked. Callbacks do not make them panic. -/
  panicked : Nat := 0
  stats : PoolStats := {}
deriving DecidableEq, Repr, Inhabited

/-- Whether nothing was left over. -/
def CompletionReport.isClean {ι : Type} (report : CompletionReport ι) : Bool :=
  report.pending.isEmpty && !report.interrupted && report.stragglers = 0 && report.panicked = 0

end Coordination
