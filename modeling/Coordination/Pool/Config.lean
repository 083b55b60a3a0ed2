import Coordination.Duration.Codec
import Coordination.Error
import Coordination.ThreadName

/-!
# Worker pool settings

How many workers a pool has, how they behave on an empty queue, whether a shutdown sends them exit
signals and how long it waits for them once it was interrupted. Settings that would leave the pool
without workers, or its workers without a reason to stop, are not valid.
-/

namespace Coordination

/-- What a worker does when the queue is empty. -/
inductive QueueMode where
  /-- It waits for the next envelope. -/
  | blocking
  /-- It exits. -/
  | draining
deriving DecidableEq, Repr, Inhabited

namespace QueueMode

def name : QueueMode → String
  | .blocking => "blocking"
  | .draining => "draining"

def ofName? (name : String) : Option QueueMode :=
  if name = "blocking" then some .blocking
  else if name = "draining" then some .draining
  else none

def title : QueueMode → String
  | .blocking => "Blocking"
  | .draining => "Draining"

end QueueMode

/-- The settings of a worker pool. -/
structure PoolConfig where
  threads : Nat
  mode : QueueMode := .blocking
  exitSignal : Bool := true
  gracePeriod : Duration := Duration.ofSeconds 120
  threadName : String := "pool-worker"
deriving DecidableEq, Repr, Inhabited

namespace PoolConfig

/-- Workers that wait for items until they get an exit signal. -/
def blocking (threads : Nat) : PoolConfig := { threads }

/-- Workers that leave as soon as the queue is empty. -/
def draining (threads : Nat) : PoolConfig := { threads, mode := .draining, exitSignal := false }

/-- Refuses a pool without workers first, then one whose workers could never stop. -/
def validate (config : PoolConfig) : Except PoolError Unit :=
  if config.threads = 0 then .error (.invalidThreadCount 0)
  else if config.mode = .blocking ∧ config.exitSignal = false then .error .missingExitSignal
  else .ok ()

def workerName (config : PoolConfig) (index : Nat) : String :=
  config.threadName ++ "-" ++ index.repr

/-- The number of workers that a pool can keep track of: each takes 24 bytes, and there are fewer than
2 ^ 63 of them. -/
def maximalThreads : Nat := (Nat.pow 2 63 - 1) / 24

/-- The names of the fields, in the order of the text. -/
def fieldNames : List String := ["threads", "mode", "exit_signal", "grace_period", "thread_name"]

/-- The document of the settings, unless the grace period does not fit. -/
def toJson (config : PoolConfig) : Except EncodeError Json := do
  let grace ← config.gracePeriod.toJson
  return .object [
    ("threads", .integer config.threads),
    ("mode", .string config.mode.name),
    ("exit_signal", .bool config.exitSignal),
    ("grace_period", grace),
    ("thread_name", .string config.threadName)]

def mode? (document : Json) : Option QueueMode := document.choice?.bind QueueMode.ofName?

/-- The settings that a document holds, with those of a default for the fields that it leaves out. -/
def ofJson? (default : PoolConfig) (document : Json) : Option PoolConfig :=
  match document.fields fieldNames with
  | some [threads, mode, exitSignal, grace, name] => do
      let threads ← Json.fieldOr Json.word? default.threads threads
      let mode ← Json.fieldOr mode? default.mode mode
      let exitSignal ← Json.fieldOr Json.bool? default.exitSignal exitSignal
      let grace ← Json.fieldOr Duration.ofJson? default.gracePeriod grace
      let name ← Json.fieldOr Json.string? default.threadName name
      return ⟨threads, mode, exitSignal, grace, name⟩
  | _ => none

end PoolConfig

end Coordination
