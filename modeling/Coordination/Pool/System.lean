import Coordination.Pool.Shutdown

/-!
# The steps of a pool

Any number of threads use one pool. A thread begins an operation with `begin`, and `step` makes its
next step until there is a reply; the same function makes the steps of the workers, which run their
callbacks outside and hand over how they have ended. Every step is one critical section: it touches
the queue once, or the life of the pool, or the state of one run.

The system may run short of threads while a run is started. Such a start terminates the workers that it
has made and waits for them, and in the meantime nobody else gets at the life of the pool (`admits`).
-/

namespace Coordination.PoolSystem

variable {ι σ : Type}

/-! ## Beginning an operation -/

/-- What the panic says that comes from making workers, if one does, and how many workers have been
counted in by then. Their table comes first, and then the first worker: if its name does no harm, no
other one does. -/
def panicOf? (config : PoolConfig) : Option (String × Nat) :=
  if PoolConfig.maximalThreads < config.threads then some ("capacity overflow", 0)
  else (ThreadName.panic? (config.workerName 0)).map fun message => (message, 1)

/-- A start that has panicked. The pool is still idle, but the counts are those of the new run, and
the interrupts are forgotten. -/
def abandon (pool : PoolSystem ι σ) (thread : ThreadId) (config : PoolConfig) (message : String)
    (counted : Nat) : Stepped ι σ :=
  let run : Run := { config, firstWorker := pool.workers.length, running := counted }
  { pool with runs := pool.runs ++ [run], interrupts := 0 }.finish thread (.panicked message) []

/-- A new run with its workers. It forgets the interrupts that were meant for earlier ones. -/
def recruit [Inhabited σ] (pool : PoolSystem ι σ) (config : PoolConfig) : PoolSystem ι σ :=
  let run : Run := { config, firstWorker := pool.workers.length, running := config.threads }
  let workers := (List.range config.threads).map fun index =>
    ({ run := pool.runs.length, index, mode := config.mode, memory := default } : Worker ι σ)
  { pool with runs := pool.runs ++ [run], workers := pool.workers ++ workers, interrupts := 0 }

def launch [Inhabited σ] (pool : PoolSystem ι σ) (thread : ThreadId) (config : PoolConfig) :
    Stepped ι σ :=
  { pool.recruit config with lifecycle := .running pool.runs.length }.finish thread .done
    [.event .info "worker pool started"
      [("threads", .number config.threads), ("mode", .text config.mode.title),
        ("exit_signal", .flag config.exitSignal),
        ("capacity", .text (capacityText pool.channel.capacity))]]

/-- A start that has run short of threads. Its run has the workers that were made. -/
def fallShort [Inhabited σ] (pool : PoolSystem ι σ) (thread : ThreadId) (config : PoolConfig)
    (shortage : Shortage) : Stepped ι σ :=
  { pool.recruit { config with threads := shortage.made } with lifecycle := .locked }.carryOn thread
    (.callingOff pool.runs.length shortage.error)
    [.event .error "failed to spawn worker thread"
      [("worker", .number shortage.made), ("error", .text shortage.error)]]

/-- A start, which the pool refuses unless it is idle and the settings are valid. -/
def start [Inhabited σ] (pool : PoolSystem ι σ) (thread : ThreadId) (config : PoolConfig)
    (shortage : Option Shortage) : Stepped ι σ :=
  match pool.lifecycle with
  | .idle =>
      match config.validate with
      | .error error => pool.finish thread (.refused error) []
      | .ok _ =>
          match panicOf? config, Shortage.of? config shortage with
          | some (message, counted), _ => pool.abandon thread config message counted
          | none, some shortage => pool.fallShort thread config shortage
          | none, none => pool.launch thread config
  | _ => pool.finish thread (.refused .alreadyRunning) []

/-- The first step of adding an item: it is sent, or the thread parks with it. -/
def add (pool : PoolSystem ι σ) (thread : ThreadId) (item : ι) : Stepped ι σ :=
  match pool.channel.offer? (.work item) with
  | some channel => { pool with channel }.finish thread .done []
  | none =>
      { pool with channel := pool.channel.parkSender (.caller thread) (.work item) }.carryOn thread
        .adding []

def offer (pool : PoolSystem ι σ) (thread : ThreadId) (item : ι) : Stepped ι σ :=
  match pool.channel.offer? (.work item) with
  | some channel => { pool with channel }.finish thread (.flag true) []
  | none => pool.finish thread (.flag false) []

/-- The first step of clearing the queue: everything is taken, and the exit signals have to go
back. -/
def clear (pool : PoolSystem ι σ) (thread : ThreadId) : Stepped ι σ :=
  let (channel, envelopes) := pool.channel.drain
  let items := envelopes.filterMap Envelope.item?
  { pool with channel }.carryOn thread (.clearing items (envelopes.length - items.length)) []

/-- The first step of a wait: it takes the run over. A wait for an idle pool drains the queue only,
and one during another shutdown does nothing. -/
def wait (pool : PoolSystem ι σ) (now : Instant) (thread : ThreadId) : Stepped ι σ :=
  let span : Span := { operation := "pool_shutdown", started := now, slowThreshold := slowShutdown }
  match pool.lifecycle with
  | .shuttingDown =>
      pool.finish thread (.report { stats := pool.stats })
        [.event .warn "wait_for_completion called while another shutdown is in progress" []]
  | .idle | .locked =>
      { pool with lifecycle := .shuttingDown }.carryOn thread
        (.draining { stats := pool.stats } span) span.opening
  | .running id =>
      let config := (pool.run id).config
      let shutdown : Shutdown :=
        { run := id, span, finished := List.replicate config.threads false,
          remaining := config.threads }
      let signals := if config.exitSignal then config.threads else 0
      { pool with lifecycle := .shuttingDown }.carryOn thread (.signalling shutdown signals)
        span.opening

/-- What can be seen of the pool; looking at the queue fills it up. -/
def inspect (pool : PoolSystem ι σ) (thread : ThreadId) : Stepped ι σ :=
  let (channel, queue) := pool.channel.size
  { pool with channel }.finish thread
    (.inspected
      { state := pool.state, threads := pool.threadCount, capacity := channel.capacity, queue,
        running := pool.runningWorkers, stats := pool.stats })
    []

/-- An owner less. The last one ends a pool that runs, and then the pool is gone. -/
def disown (pool : PoolSystem ι σ) (thread : ThreadId) : Stepped ι σ :=
  let pool := { pool with owners := pool.owners - 1 }
  if 0 < pool.owners then pool.finish thread .done []
  else
    match pool.lifecycle with
    | .running id =>
        let terminated := pool.modifyRun id fun run => { run with terminated := true }
        { terminated with lifecycle := .idle }.carryOn thread (.joining id)
          [.event .warn "worker pool dropped while running; terminating workers"
            [("workers", .number (pool.run id).config.threads)]]
    | _ => { pool with channel := { pool.channel with closed := true } }.finish thread .done []

/-- A callback of a worker has ended. -/
def returned (pool : PoolSystem ι σ) (id : Nat) (memory : σ) (ending : CallbackEnding) :
    Stepped ι σ :=
  match pool.workers[id]? with
  | none => { state := pool, reply := some .done }
  | some worker =>
      let (next, log) := { worker with memory }.afterCallback ending
      let counted := pool.modifyRun worker.run fun run =>
        { run with stats := worker.count ending run.stats }
      { state := { counted with workers := pool.workers.set id next }, reply := some .done, log }

/-- Whether a thread can begin an operation now. One that looks at the life of the pool waits until no
start has it locked. -/
def admits (pool : PoolSystem ι σ) : Operation ι σ → Bool
  | .start _ _ | .wait | .inspect => pool.lifecycle ≠ .locked
  | _ => true

def begin [Inhabited σ] (pool : PoolSystem ι σ) (now : Instant) (party : Party)
    (operation : Operation ι σ) : Stepped ι σ :=
  match party, operation with
  | .caller thread, .start config shortage => pool.start thread config shortage
  | .caller thread, .add item => pool.add thread item
  | .caller thread, .offer item => pool.offer thread item
  | .caller thread, .clear => pool.clear thread
  | .caller thread, .wait => pool.wait now thread
  | .caller thread, .interrupt =>
      { pool with interrupts := pool.interrupts + 1 }.finish thread .done []
  | .caller thread, .inspect => pool.inspect thread
  | .caller thread, .own => { pool with owners := pool.owners + 1 }.finish thread .done []
  | .caller thread, .disown => pool.disown thread
  | .agent id, .returned memory ending => pool.returned id memory ending
  | _, _ => { state := pool, reply := some .done }

/-! ## The steps of a caller -/

/-- A thread that has cleared the queue puts the next exit signal back. -/
def putBack (pool : PoolSystem ι σ) (thread : ThreadId) (items : List ι) : Nat → Stepped ι σ
  | 0 =>
      pool.finish thread (.items items)
        [.event .debug "work queue cleared" [("cleared", .number items.length)]]
  | signals + 1 =>
      match pool.channel.offer? .exit with
      | some channel => { pool with channel }.carryOn thread (.clearing items signals) []
      | none =>
          { pool with channel := pool.channel.parkSender (.caller thread) .exit }.carryOn thread
            (.restoring items signals) []

/-- The next step of a thread in the middle of an operation, unless it has to wait. -/
def proceed (pool : PoolSystem ι σ) (now : Instant) (thread : ThreadId) : Option (Stepped ι σ) :=
  match pool.activities.get thread with
  | .idle => none
  | .adding =>
      if pool.channel.isSending (.caller thread) then none else some (pool.finish thread .done [])
  | .clearing items signals => some (pool.putBack thread items signals)
  | .restoring items signals =>
      if pool.channel.isSending (.caller thread) then none
      else some (pool.carryOn thread (.clearing items signals) [])
  | .signalling shutdown left => some (pool.signal now thread shutdown left)
  | .offering shutdown left deadline =>
      if pool.channel.isSending (.caller thread) then
        if deadline ≤ now then some (pool.reconsider thread shutdown left) else none
      else some (pool.carryOn thread (.signalling shutdown left) [])
  | .watching shutdown => some (pool.watch now thread shutdown)
  | .listening shutdown deadline => pool.listen now thread shutdown deadline
  | .forcing shutdown => some (pool.force now thread shutdown)
  | .expecting shutdown deadline => pool.expect now thread shutdown deadline
  | .counting shutdown =>
      let report : CompletionReport ι :=
        { stats := (pool.run shutdown.run).stats, interrupted := shutdown.interrupted }
      some (pool.carryOn thread (.judging shutdown report 0) [])
  | .judging shutdown report index => pool.judge thread shutdown report index
  | .draining report span => some (pool.drain now thread report span)
  | .resetting report =>
      some ({ pool with lifecycle := .idle }.finish thread (.report report) [])
  | .unwinding message =>
      some ({ pool with lifecycle := .idle }.finish thread (.panicked message) [])
  | .joining run =>
      if pool.haveAllEnded run then
        some ({ pool with channel := { pool.channel with closed := true } }.finish thread .done [])
      else none
  | .callingOff run error =>
      let terminated := pool.modifyRun run fun run => { run with terminated := true }
      some (terminated.carryOn thread (.gathering run error) [])
  | .gathering run error =>
      if pool.haveAllEnded run then
        some ({ pool with lifecycle := .idle }.finish thread (.refused (.spawnFailed error)) [])
      else none

/-! ## The steps of a worker -/

/-- The pool after a worker has changed, perhaps together with the queue. -/
def setWorker (pool : PoolSystem ι σ) (id : Nat)
    (result : Channel (Envelope ι) × Worker ι σ × List Log.Entry) : Stepped ι σ :=
  let (channel, worker, log) := result
  { state := { pool with channel, workers := pool.workers.set id worker }, log }

/-- The next step of a worker, unless it has to wait or runs a callback. -/
def work (pool : PoolSystem ι σ) (now : Instant) (id : Nat) (worker : Worker ι σ) :
    Option (Stepped ι σ) :=
  let move (phase : Worker.Phase ι) (pool : PoolSystem ι σ) : Option (Stepped ι σ) :=
    some (pool.setWorker id (pool.channel, { worker with phase }, []))
  match worker.phase with
  | .ready =>
      some (pool.setWorker id
        (pool.channel, worker.afterLook (pool.run worker.run).terminated))
  | .taking => some (pool.setWorker id (worker.takeFrom now (.agent id) pool.channel))
  | .parked deadline =>
      (worker.wakeAt now deadline (.agent id) pool.channel).map (pool.setWorker id)
  | .leaving =>
      move .notifying (pool.modifyRun worker.run fun run => { run with running := run.running - 1 })
  | .notifying =>
      move .ending
        (pool.modifyRun worker.run fun run => { run with notices := run.notices ++ [worker.index] })
  | .ending => move .ended pool
  | _ => none

def step (pool : PoolSystem ι σ) (now : Instant) : Party → Option (Stepped ι σ)
  | .caller thread => pool.proceed now thread
  | .agent id => (pool.workers[id]?).bind (pool.work now id)

/-- The instant at which a party that waits wakes up by itself. -/
def alarm? (pool : PoolSystem ι σ) : Party → Option Instant
  | .caller thread =>
      match pool.activities.get thread with
      | .offering _ _ deadline => some deadline
      | .listening _ deadline => some deadline
      | .expecting _ deadline => some deadline
      | _ => none
  | .agent id =>
      match pool.workers[id]? with
      | some { phase := .parked deadline, .. } => some deadline
      | _ => none

end Coordination.PoolSystem
