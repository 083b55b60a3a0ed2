import Coordination.Simulation.Pools.Command
import Coordination.Simulation.Script

/-!
# The callbacks of a script

The callbacks keep count in the memory of their worker, one for each item and a hundred more for each
failure that was dealt with, and everything that they do is noted as an event.
-/

namespace Coordination.Simulation.Pools

/-- The pool of a script, and what its callbacks have noted. -/
structure State where
  pool : PoolSystem Item Nat
  plan : Plan
  /-- Whether the script still has the pool. -/
  present : Bool := true
  initCalls : Nat := 0
  cleanupCalls : Nat := 0
  events : List String := []
  /-- Until when threads are busy with what they have drained, or with workers that they join. -/
  busy : List (Party × Instant) := []
deriving Inhabited

/-- What the programs of a script call. -/
inductive Call where
  | operation (operation : PoolSystem.Operation Item Nat)
  | isPresent
  | setAbsent
  | countInit
  | countCleanup
  | event (text : String)
deriving Inhabited

/-- The replies to calls. -/
inductive Reply where
  | pool (reply : PoolSystem.Reply Item)
  | flag (value : Bool)
  | number (value : Nat)
  | done
deriving Inhabited

namespace State

def answer (state : State) : Call → State × Reply
  | .operation _ => (state, .done)
  | .isPresent => (state, .flag state.present)
  | .setAbsent => ({ state with present := false }, .done)
  | .countInit => ({ state with initCalls := state.initCalls + 1 }, .number state.initCalls)
  | .countCleanup =>
      ({ state with cleanupCalls := state.cleanupCalls + 1 }, .number state.cleanupCalls)
  | .event text => ({ state with events := state.events ++ [text] }, .done)

/-- Many short times together, of which nothing is noticed unless there are hundreds of them. -/
def workload (count nanoseconds : Nat) : Duration :=
  ⟨count * nanoseconds / World.grain.nanoseconds * World.grain.nanoseconds⟩

def occupy (state : State) (now : Instant) (party : Party) (time : Duration) : State :=
  { state with busy := (party, time.after now) :: state.busy.filter (·.1 ≠ party) }

/-- A party goes through all that it drains now, forty envelopes in a microsecond. -/
def sort (state : State) (now : Instant) (party : Party) : State :=
  state.occupy now party (workload state.pool.channel.drain.2.length 25)

/-- A party that has copied the counts begins to join the workers whose notices it has, each of which
takes three microseconds. -/
def join (state : State) (now : Instant) : Party → State
  | .caller thread =>
      match state.pool.activities.get thread with
      | .counting shutdown =>
          state.occupy now (.caller thread) (workload (shutdown.finished.count true) 3000)
      | _ => state
  | .agent _ => state

/-- The instant until which a party is busy, while it is about to put exit signals back or to join
workers. -/
def busyUntil? (state : State) : Party → Option Instant
  | .caller thread =>
      match state.pool.activities.get thread with
      | .clearing _ _ | .judging _ _ _ => state.busy.lookup (.caller thread)
      | _ => none
  | .agent _ => none

def lift (state : State) (progress : PoolSystem.Stepped Item Nat) : Progress State Reply :=
  { state := { state with pool := progress.state },
    reply := progress.reply.map .pool,
    log := progress.log }

end State

/-- What can be seen of the pool: a little after every step, and everything in a survey. -/
inductive View where
  | gone
  | brief (state : PoolState) (threads : Nat) (capacity : Option Nat)
  | full (inspection : PoolSystem.Inspection)
deriving DecidableEq, Repr, Inhabited

/-- A demand on the pool. -/
inductive Wish where
  | queue (count : Nat)
  | running (count : Nat)
  | processed (count : Nat)
  | failed (count : Nat)
  | initFailures (count : Nat)
  | state (name : String)
  | events (count : Nat)
deriving DecidableEq, Repr, Inhabited

namespace State

/-- What is seen after every step. -/
def observe (state : State) : View :=
  if state.present then
    .brief state.pool.state state.pool.threadCount state.pool.channel.capacity
  else .gone

/-- What is seen in a survey. -/
def survey (state : State) : View :=
  if state.present then
    let pool := state.pool
    .full
      { state := pool.state, threads := pool.threadCount, capacity := pool.channel.capacity,
        queue := pool.channel.size.2, running := pool.runningWorkers, stats := pool.stats }
  else .gone

def look (state : State) : State :=
  if state.present then
    { state with pool := { state.pool with channel := state.pool.channel.size.1 } }
  else state

def meets (state : State) : Wish → Bool
  | .queue count => state.present && state.pool.channel.queue.length = count
  | .running count => state.present && state.pool.runningWorkers = count
  | .processed count => state.present && state.pool.stats.processed = count
  | .failed count => state.present && state.pool.stats.failed = count
  | .initFailures count => state.present && state.pool.stats.initFailures = count
  | .state name => state.present && state.pool.state.name = name
  | .events count => count ≤ state.events.length

end State

abbrev Act (α : Type) := Program Call Reply α

def note (text : String) : Act Unit := do
  let _ ← .perform (.event text)

def count (call : Call) : Act Nat := do
  match ← .perform call with
  | .number value => return value
  | _ => return 0

/-- Passes a gate, if there is one. -/
def passing : Option String → Act Unit
  | some gate => .passGate gate
  | none => return ()

/-- How a callback ends, with a message of its own. -/
def Course.ending (message : String) : Course → CallbackEnding
  | .succeed => .done
  | .fail => .failed message
  | .failBehind => .failed "while processing"
  | .panic => .panicked (some message)
  | .panicPlainly => .panicked (some "static text")
  | .panicSilently => .panicked none

/-- The initialization callback. -/
def setUp (plan : Plan) (threadName : String) : Act (Nat × CallbackEnding) := do
  if plan.strategy = .function then return (0, .done)
  let place ← count .countInit
  let course := (plan.initializations[place]?).getD {}
  passing course.gate
  note ("init " ++ course.word ++ if plan.ordered then " " ++ threadName else "")
  let ending := match course.course with
    | .fail => .failed "init refused"
    | .panic => .panicked (some "init panicked")
    | other => other.ending "init refused"
  return (0, ending)

/-- The processing callback. -/
def process (item : Item) (memory : Nat) : Act (Nat × CallbackEnding) := do
  note ("process " ++ item.id.repr)
  passing item.gate
  if 0 < item.sleep.nanoseconds then .sleepFor item.sleep
  return (memory + 1, item.course.ending item.message)

/-- The failure callback. -/
def handleFailure (plan : Plan) (item : Item) (error : String) (memory : Nat) :
    Act (Nat × CallbackEnding) := do
  if plan.strategy ≠ .full then return (memory, .done)
  note ("fail " ++ item.id.repr ++ " " ++ error)
  if item.hookPanics then return (memory, .panicked (some "hook"))
  return (memory + 100, .done)

/-- The cleanup callback. -/
def cleanUp (plan : Plan) (memory : Nat) : Act (Nat × CallbackEnding) := do
  if plan.strategy ≠ .full then return (memory, .done)
  note ("cleanup" ++ if plan.ordered then " " ++ memory.repr else "")
  let place ← count .countCleanup
  if plan.cleanupPanics[place]?.getD false then return (memory, .panicked (some "cleanup"))
  return (memory, .done)

def threadName (pool : PoolSystem Item Nat) (worker : Worker Item Nat) : String :=
  (pool.run worker.run).config.workerName worker.index

/-- The callback that a worker has to run. -/
def callback? (state : State) (worker : Worker Item Nat) : Option (Act (Nat × CallbackEnding)) :=
  match worker.phase with
  | .initializing => some (setUp state.plan (threadName state.pool worker))
  | .processing item => some (process item worker.memory)
  | .failing item error => some (handleFailure state.plan item error worker.memory)
  | .cleaning => some (cleanUp state.plan worker.memory)
  | _ => none

/-- Runs a callback and hands its end over. -/
def running (callback : Act (Nat × CallbackEnding)) : Act Unit := do
  let (memory, ending) ← callback
  let _ ← .perform (.operation (.returned memory ending))

end Coordination.Simulation.Pools
