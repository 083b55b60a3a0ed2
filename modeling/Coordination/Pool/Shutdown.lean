import Coordination.Pool.Run

/-!
# Shutdowns

A shutdown goes through these steps. It sends one exit signal for each worker, if the run is set so,
and stops sending when it is interrupted or when nobody is left to take a signal. It listens for the
workers' notices until all have come or it is interrupted. After an interrupt it terminates the run
and gives the workers a grace period. It copies the counts, joins the workers that have ended, and
counts the others as stragglers, which go on without being waited for. In the end it drains the queue.

A grace period whose end the clock cannot tell breaks a shutdown off: it panics, the workers are left to
themselves without being counted, and what is in the queue stays there.
-/

namespace Coordination.PoolSystem

variable {ι σ : Type}

/-- A shutdown sends the next exit signal. -/
def signal (pool : PoolSystem ι σ) (now : Instant) (thread : ThreadId) (shutdown : Shutdown) :
    Nat → Stepped ι σ
  | 0 => pool.carryOn thread (.watching shutdown) []
  | left + 1 =>
      match pool.channel.offer? .exit with
      | some channel => { pool with channel }.carryOn thread (.signalling shutdown left) []
      | none =>
          { pool with channel := pool.channel.parkSender (.caller thread) .exit }.carryOn thread
            (.offering shutdown left (shutdownPoll.after now)) []

/-- A shutdown has not got rid of an exit signal for some time. -/
def reconsider (pool : PoolSystem ι σ) (thread : ThreadId) (shutdown : Shutdown) (left : Nat) :
    Stepped ι σ :=
  let pool := { pool with channel := pool.channel.withdrawSender (.caller thread) }
  if 0 < pool.interrupts then
    { pool with interrupts := pool.interrupts - 1 }.carryOn thread
      (.watching { shutdown with interrupted := true }) []
  else if (pool.run shutdown.run).running = 0 then
    pool.carryOn thread (.watching shutdown)
      [.event .debug "no live workers to receive exit signals" []]
  else pool.carryOn thread (.signalling shutdown (left + 1)) []

/-- A shutdown looks for an interrupt, if there is anything left to wait for. -/
def watch (pool : PoolSystem ι σ) (now : Instant) (thread : ThreadId) (shutdown : Shutdown) :
    Stepped ι σ :=
  if shutdown.remaining = 0 || shutdown.interrupted then
    pool.carryOn thread (.forcing shutdown) []
  else if 0 < pool.interrupts then
    { pool with interrupts := pool.interrupts - 1 }.carryOn thread
      (.forcing { shutdown with interrupted := true }) []
  else pool.carryOn thread (.listening shutdown (shutdownPoll.after now)) []

/-- A shutdown that has read the notice of a worker. -/
def Shutdown.noted (shutdown : Shutdown) (index : Nat) : Shutdown :=
  { shutdown with
    finished := shutdown.finished.set index true, remaining := shutdown.remaining - 1 }

/-- What a shutdown can read: the next notice, or that there will be none, since all threads that
could send one have ended. -/
def notice? (pool : PoolSystem ι σ) (run : RunId) : Option (PoolSystem ι σ × Option Nat) :=
  match (pool.run run).notices with
  | index :: rest => some (pool.modifyRun run fun run => { run with notices := rest }, some index)
  | [] => if pool.haveAllEnded run then some (pool, none) else none

/-- A shutdown waits for a notice. -/
def listen (pool : PoolSystem ι σ) (now : Instant) (thread : ThreadId) (shutdown : Shutdown)
    (deadline : Instant) : Option (Stepped ι σ) :=
  match pool.notice? shutdown.run with
  | some (pool, some index) => some (pool.carryOn thread (.watching (shutdown.noted index)) [])
  | some (pool, none) => some (pool.carryOn thread (.forcing shutdown) [])
  | none => if deadline ≤ now then some (pool.carryOn thread (.watching shutdown) []) else none

/-- A shutdown that was interrupted terminates its run; if there is anybody left to wait for, the
grace period begins, or the shutdown panics. -/
def force (pool : PoolSystem ι σ) (now : Instant) (thread : ThreadId) (shutdown : Shutdown) :
    Stepped ι σ :=
  let forced := if shutdown.interrupted then
      pool.modifyRun shutdown.run fun run => { run with terminated := true }
    else pool
  let log := if shutdown.interrupted then
      [.event .warn "interrupted while waiting for workers; forcing termination"
        [("remaining", .number shutdown.remaining)]]
    else []
  if shutdown.remaining = 0 then forced.carryOn thread (.counting shutdown) log
  else
    let grace := (pool.run shutdown.run).config.gracePeriod
    if grace.fits now then forced.carryOn thread (.expecting shutdown (grace.after now)) log
    else
      forced.carryOn thread (.unwinding Duration.overflowText) (log ++ shutdown.span.closing now)

/-- A shutdown waits for a notice during the grace period. -/
def expect (pool : PoolSystem ι σ) (now : Instant) (thread : ThreadId) (shutdown : Shutdown)
    (deadline : Instant) : Option (Stepped ι σ) :=
  if shutdown.remaining = 0 then some (pool.carryOn thread (.counting shutdown) [])
  else
    match pool.notice? shutdown.run with
    | some (pool, some index) =>
        some (pool.carryOn thread (.expecting (shutdown.noted index) deadline) [])
    | some (pool, none) => some (pool.carryOn thread (.counting shutdown) [])
    | none =>
        if deadline ≤ now then
          let grace := (pool.run shutdown.run).config.gracePeriod
          some (pool.carryOn thread (.counting shutdown)
            [.event .warn "workers still alive after grace period"
              [("remaining", .number shutdown.remaining),
                ("grace_ms", .number grace.milliseconds)]])
        else none

/-- A shutdown looks at a worker: it joins one that has sent its notice or has ended, and leaves any
other one to itself. No worker has panicked: the panics of callbacks do not get out of them, and to do
away with an item is no callback. -/
def judge (pool : PoolSystem ι σ) (thread : ThreadId) (shutdown : Shutdown)
    (report : CompletionReport ι) (index : Nat) : Option (Stepped ι σ) :=
  match shutdown.finished[index]? with
  | none => some (pool.carryOn thread (.draining report shutdown.span) [])
  | some finished =>
      let ended := pool.hasEnded shutdown.run index
      if ended then some (pool.carryOn thread (.judging shutdown report (index + 1)) [])
      else if finished then none
      else
        let report := { report with stragglers := report.stragglers + 1 }
        some (pool.carryOn thread (.judging shutdown report (index + 1)) [])

def pendingEntries (total : Nat) : List Log.Entry :=
  (List.range total).map fun position =>
    .event .warn "work item left pending"
      [("position", .number position), ("total", .number total)]

def stoppedEntry (report : CompletionReport ι) : Log.Entry :=
  .event .info "worker pool stopped"
    [("processed", .number report.stats.processed), ("failed", .number report.stats.failed),
      ("pending", .number report.pending.length), ("interrupted", .flag report.interrupted)]

/-- A wait drains the queue and completes its report. -/
def drain (pool : PoolSystem ι σ) (now : Instant) (thread : ThreadId)
    (report : CompletionReport ι) (span : Span) : Stepped ι σ :=
  let (channel, envelopes) := pool.channel.drain
  let report := { report with pending := envelopes.filterMap Envelope.item? }
  { pool with channel }.carryOn thread (.resetting report)
    (pendingEntries report.pending.length ++ Span.items report.stats.processed
      ++ Span.result report.isClean ++ [stoppedEntry report] ++ span.closing now)

end Coordination.PoolSystem
