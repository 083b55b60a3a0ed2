import Coordination.Pool.Channel
import Coordination.Pool.Report

/-!
# Workers

A worker initializes itself, takes envelopes from the queue until it has a reason to stop, and cleans
up. For each item that it takes it runs the processing callback, and after a failure the failure
callback; whatever the callbacks do, even a panic, stays with the item. It stops when it takes an exit
signal, when it finds that its run is terminated, or, if it drains, when it finds the queue empty. The
callbacks share a memory, which survives a panic.

On every path a worker leaves by the same three steps: the run counts one worker less, the worker
sends a notice with its index, and its thread ends.
-/

namespace Coordination

/-- What is in the queue of a pool. -/
inductive Envelope (ι : Type) where
  | work (item : ι)
  /-- Tells the worker that takes it to exit. -/
  | exit
deriving DecidableEq, Repr, Inhabited

def Envelope.item? {ι : Type} : Envelope ι → Option ι
  | .work item => some item
  | .exit => none

/-- How a callback has ended; a panic may come without a text. -/
inductive CallbackEnding where
  | done
  | failed (error : String)
  | panicked (text : Option String)
deriving DecidableEq, Repr, Inhabited

/-- What is said about a panic. -/
def panicText (text : Option String) : String := text.getD "unknown panic payload"

namespace Worker

/-- Where a worker is. -/
inductive Phase (ι : Type) where
  | initializing
  /-- Before it looks whether its run is terminated. -/
  | ready
  /-- Before it takes an envelope. -/
  | taking
  | parked (deadline : Instant)
  | processing (item : ι)
  /-- The failure callback runs. -/
  | failing (item : ι) (error : String)
  | cleaning
  /-- Before it counts itself out. -/
  | leaving
  /-- Before it sends its notice. -/
  | notifying
  /-- Before its thread ends. -/
  | ending
  | ended
deriving DecidableEq, Repr, Inhabited

def Phase.isEnded {ι : Type} : Phase ι → Bool
  | .ended => true
  | _ => false

/-- How long a worker waits for an envelope before it looks again whether its run is terminated. -/
def takePoll : Duration := Duration.ofMilliseconds 50

end Worker

/-- A worker with the memory of its callbacks. -/
structure Worker (ι σ : Type) where
  run : Nat
  index : Nat
  mode : QueueMode
  memory : σ
  phase : Worker.Phase ι := .initializing
  handled : Nat := 0
deriving DecidableEq, Repr, Inhabited

namespace Worker

variable {ι σ : Type}

def field (worker : Worker ι σ) : String × Log.Value := ("worker", .number worker.index)

/-- What the end of a callback changes in the counts of the run. -/
def count (worker : Worker ι σ) (ending : CallbackEnding) (stats : PoolStats) : PoolStats :=
  match worker.phase, ending with
  | .initializing, .done => stats
  | .initializing, _ => { stats with initFailures := stats.initFailures + 1 }
  | .processing _, .done => { stats with processed := stats.processed + 1 }
  | .processing _, _ => { stats with failed := stats.failed + 1 }
  | _, _ => stats

def afterItem (worker : Worker ι σ) : Worker ι σ :=
  { worker with phase := .ready, handled := worker.handled + 1 }

def afterFailure (worker : Worker ι σ) (item : ι) (error : String) : Worker ι σ × List Log.Entry :=
  ({ worker with phase := .failing item error },
    [.event .warn "work item failed" [worker.field, ("error", .text error)]])

/-- The worker after a callback, with what it logs. -/
def afterCallback (worker : Worker ι σ) (ending : CallbackEnding) :
    Worker ι σ × List Log.Entry :=
  match worker.phase with
  | .initializing =>
      match ending with
      | .done =>
          ({ worker with phase := .ready },
            [.event .debug "worker started" [worker.field, ("mode", .text worker.mode.title)]])
      | .failed error =>
          ({ worker with phase := .leaving },
            [.event .error "worker initialization failed" [worker.field, ("error", .text error)]])
      | .panicked text =>
          ({ worker with phase := .leaving },
            [.event .error "worker initialization panicked"
              [worker.field, ("panic", .text (panicText text))]])
  | .processing item =>
      match ending with
      | .done => (worker.afterItem, [])
      | .failed error => worker.afterFailure item error
      | .panicked text => worker.afterFailure item ("process panicked: " ++ panicText text)
  | .failing _ _ =>
      match ending with
      | .panicked _ =>
          (worker.afterItem, [.event .error "failure hook panicked" [worker.field]])
      | _ => (worker.afterItem, [])
  | .cleaning =>
      let exited : Log.Entry :=
        .event .debug "worker exited" [worker.field, ("handled", .number worker.handled)]
      match ending with
      | .panicked _ =>
          ({ worker with phase := .leaving },
            [.event .error "worker cleanup panicked" [worker.field], exited])
      | _ => ({ worker with phase := .leaving }, [exited])
  | _ => (worker, [])

/-- The worker after it has taken an envelope, or has learned that there will be none. -/
def afterTake (worker : Worker ι σ) : Option (Envelope ι) → Worker ι σ × List Log.Entry
  | some (.work item) => ({ worker with phase := .processing item }, [])
  | some .exit =>
      ({ worker with phase := .cleaning },
        [.event .debug "exit signal received" [worker.field]])
  | none => ({ worker with phase := .cleaning }, [])

def afterLook (worker : Worker ι σ) (terminated : Bool) : Worker ι σ × List Log.Entry :=
  if terminated then
    ({ worker with phase := .cleaning }, [.event .debug "worker terminated" [worker.field]])
  else ({ worker with phase := .taking }, [])

/-- A worker without an envelope looks into the queue, which it shares with others. A worker that
blocks parks at an empty queue, unless nobody is left who could send. -/
def takeFrom (worker : Worker ι σ) (now : Instant) (party : Party)
    (channel : Channel (Envelope ι)) :
    Channel (Envelope ι) × Worker ι σ × List Log.Entry :=
  match channel.take with
  | (channel, some envelope) => (channel, worker.afterTake (some envelope))
  | (channel, none) =>
      if worker.mode = .blocking ∧ channel.closed = false then
        (channel.parkReceiver party,
          { worker with phase := .parked (takePoll.after now) }, [])
      else (channel, worker.afterTake none)

/-- A parked worker wakes up: an envelope was handed to it, its time is over, or nobody is left who
could send. -/
def wakeAt (worker : Worker ι σ) (now deadline : Instant) (party : Party)
    (channel : Channel (Envelope ι)) :
    Option (Channel (Envelope ι) × Worker ι σ × List Log.Entry) :=
  match channel.handed? party with
  | some envelope => some (channel.pickUp party, worker.afterTake (some envelope))
  | none =>
      if channel.closed then some (channel.withdrawReceiver party, worker.afterTake none)
      else if deadline ≤ now then
        some (channel.withdrawReceiver party, { worker with phase := .ready }, [])
      else none

end Worker

end Coordination
