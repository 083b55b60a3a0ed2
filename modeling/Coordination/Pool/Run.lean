import Coordination.Pool.Worker
import Coordination.Span
import Coordination.Table

/-!
# Runs of a pool

A pool has a queue and, while it runs, workers that take from it. Its life goes round in a circle: a
start begins a run, and a wait for completion takes the run over, shuts it down and makes the pool
idle again. All runs share the queue, but each has its own workers, counts and notices.
-/

namespace Coordination.PoolSystem

/-- What a start finds when the system does not make any more threads for it. -/
structure Shortage where
  /-- The number of workers that were made before. -/
  made : Nat
  /-- What the system says about the next one. -/
  error : String
deriving DecidableEq, Repr, Inhabited

/-- What keeps a start from making all its workers, if anything does. -/
def Shortage.of? (config : PoolConfig) (shortage : Option Shortage) : Option Shortage :=
  shortage.filter fun shortage => shortage.made < config.threads

/-- An operation of a thread; the last one is for the workers. -/
inductive Operation (ι σ : Type) where
  /-- The system may run short of threads meanwhile. -/
  | start (config : PoolConfig) (shortage : Option Shortage := none)
  | add (item : ι)
  /-- Adds an item if that is possible without waiting. -/
  | offer (item : ι)
  | clear
  | wait
  | interrupt
  | inspect
  /-- Another owner of the pool. -/
  | own
  | disown
  /-- A callback of the worker has ended and left some memory. -/
  | returned (memory : σ) (ending : CallbackEnding)
deriving DecidableEq, Repr, Inhabited

/-- What can be seen of a pool. -/
structure Inspection where
  state : PoolState
  threads : Nat
  capacity : Option Nat
  queue : Nat
  running : Nat
  stats : PoolStats
deriving DecidableEq, Repr, Inhabited

/-- The reply to an operation. -/
inductive Reply (ι : Type) where
  | done
  | flag (value : Bool)
  | refused (error : PoolError)
  | panicked (message : String)
  | items (items : List ι)
  | report (report : CompletionReport ι)
  | inspected (inspection : Inspection)
deriving DecidableEq, Repr, Inhabited

abbrev RunId := Nat

/-- A run of a pool. A start that panics leaves a run without workers behind, and one that runs short of
threads a run with those that it got, which its settings ask for. -/
structure Run where
  config : PoolConfig
  /-- The number of its first worker; the others follow. -/
  firstWorker : Nat
  terminated : Bool := false
  /-- The notices of its workers that nobody has read. -/
  notices : List Nat := []
  stats : PoolStats := {}
  /-- The number of its workers that were counted in and have not counted themselves out. -/
  running : Nat
deriving DecidableEq, Repr, Inhabited

/-- Where a pool is in its life. -/
inductive Lifecycle where
  | idle
  | running (run : RunId)
  | shuttingDown
  /-- Idle, but locked by a start that has run short of threads, until those that it got have ended. -/
  | locked
deriving DecidableEq, Repr, Inhabited

/-- A shutdown of a run under way. -/
structure Shutdown where
  run : RunId
  span : Span
  /-- Which workers have sent their notices. -/
  finished : List Bool
  /-- The number of workers that have not. -/
  remaining : Nat
  interrupted : Bool := false
deriving DecidableEq, Repr, Inhabited

/-- What a thread is in the middle of. -/
inductive Activity (ι : Type) where
  | idle
  /-- It is parked with an item. -/
  | adding
  /-- It has drained the queue and is about to put some exit signals back. -/
  | clearing (items : List ι) (signals : Nat)
  /-- It is parked with an exit signal, and has some more to put back. -/
  | restoring (items : List ι) (signals : Nat)
  /-- It is about to send some exit signals. -/
  | signalling (shutdown : Shutdown) (left : Nat)
  /-- It is parked with an exit signal, and has some more to send. -/
  | offering (shutdown : Shutdown) (left : Nat) (deadline : Instant)
  /-- It is about to look for an interrupt. -/
  | watching (shutdown : Shutdown)
  /-- It waits for a notice, and will look for an interrupt again. -/
  | listening (shutdown : Shutdown) (deadline : Instant)
  /-- It knows whether it was interrupted. -/
  | forcing (shutdown : Shutdown)
  /-- It waits for notices during the grace period. -/
  | expecting (shutdown : Shutdown) (deadline : Instant)
  /-- It is about to copy the counts. -/
  | counting (shutdown : Shutdown)
  /-- It is about to look at a worker. -/
  | judging (shutdown : Shutdown) (report : CompletionReport ι) (index : Nat)
  | draining (report : CompletionReport ι) (span : Span)
  | resetting (report : CompletionReport ι)
  /-- It has panicked in the middle of a shutdown, and is about to give the pool back. -/
  | unwinding (message : String)
  /-- It was the last owner and joins the workers of a run. -/
  | joining (run : RunId)
  /-- It could not make all workers of a run and is about to terminate those that it has made. -/
  | callingOff (run : RunId) (error : String)
  /-- It joins the workers of a run that it has called off. -/
  | gathering (run : RunId) (error : String)
deriving DecidableEq, Repr, Inhabited

/-- How long a shutdown waits before it looks for an interrupt again. -/
def shutdownPoll : Duration := Duration.ofMilliseconds 50

/-- How long a shutdown may take before it is called slow. -/
def slowShutdown : Duration := Duration.ofSeconds 10

end PoolSystem

/-- A pool with the threads that use it and all workers that it has ever had. -/
structure PoolSystem (ι σ : Type) where
  channel : Channel (Envelope ι) := {}
  lifecycle : PoolSystem.Lifecycle := .idle
  runs : List PoolSystem.Run := []
  workers : List (Worker ι σ) := []
  /-- The number of interrupts that nobody has noticed. -/
  interrupts : Nat := 0
  activities : Table ThreadId (PoolSystem.Activity ι) := .empty
  /-- The number of references to the pool itself. -/
  owners : Nat := 1
deriving Inhabited

namespace PoolSystem

variable {ι σ : Type}

/-- The state, the reply and the log of a step. -/
abbrev Stepped (ι σ : Type) := Progress (PoolSystem ι σ) (Reply ι)

def run (pool : PoolSystem ι σ) (id : RunId) : Run := pool.runs[id]?.getD default

def modifyRun (pool : PoolSystem ι σ) (id : RunId) (change : Run → Run) : PoolSystem ι σ :=
  { pool with runs := pool.runs.modify id change }

/-- The counts of the run that was started last. -/
def stats (pool : PoolSystem ι σ) : PoolStats := (pool.runs.getLast?.map (·.stats)).getD {}

/-- How many workers of the run that was started last have not counted themselves out. -/
def runningWorkers (pool : PoolSystem ι σ) : Nat := (pool.runs.getLast?.map (·.running)).getD 0

def state (pool : PoolSystem ι σ) : PoolState :=
  match pool.lifecycle with
  | .idle | .locked => .idle
  | .running _ => .running
  | .shuttingDown => .shuttingDown

/-- The number of workers that the pool has been set to, while it runs. -/
def threadCount (pool : PoolSystem ι σ) : Nat :=
  match pool.lifecycle with
  | .running id => (pool.run id).config.threads
  | _ => 0

def hasEnded (pool : PoolSystem ι σ) (run : RunId) (index : Nat) : Bool :=
  pool.workers[(pool.run run).firstWorker + index]?.all (·.phase.isEnded)

def haveAllEnded (pool : PoolSystem ι σ) (run : RunId) : Bool :=
  (List.range (pool.run run).config.threads).all (pool.hasEnded run)

def turnTo (pool : PoolSystem ι σ) (thread : ThreadId) (activity : Activity ι) : PoolSystem ι σ :=
  { pool with activities := pool.activities.set thread activity }

def finish (pool : PoolSystem ι σ) (thread : ThreadId) (reply : Reply ι)
    (log : List Log.Entry) : Stepped ι σ :=
  { state := pool.turnTo thread .idle, reply := some reply, log }

def carryOn (pool : PoolSystem ι σ) (thread : ThreadId) (activity : Activity ι)
    (log : List Log.Entry) : Stepped ι σ :=
  { state := pool.turnTo thread activity, log }

def capacityText : Option Nat → String
  | none => "None"
  | some capacity => "Some(" ++ capacity.repr ++ ")"

def Inspection.text (inspection : Inspection) : String :=
  "WorkerPool \x7b state: " ++ inspection.state.title
    ++ ", running_workers: " ++ inspection.running.repr
    ++ ", queue_size: " ++ inspection.queue.repr
    ++ ", capacity: " ++ capacityText inspection.capacity ++ " \x7d"

end PoolSystem

end Coordination
