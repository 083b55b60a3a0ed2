import Coordination.Proofs.Pool.Schedule

/-!
# What a step of a pool can do

`Transition` lists the steps of the callers and the workers of a pool, each with its guard, with what
it does with the queue and with the state that it leads to. The steps that a shutdown makes by itself,
without the queue, are listed apart (`Advance`). Every step of a schedule is a transition
(`perform_transition`), so what is kept by all steps is proved by cases.
-/

namespace Coordination.PoolSystem

variable {ι σ : Type}

/-- The pool after its queue was used. -/
def deal (pool : PoolSystem ι σ) (use : Channel.Use (Envelope ι)) : PoolSystem ι σ :=
  { pool with channel := pool.channel.after use }

/-- The pool after a worker has changed. -/
def put (pool : PoolSystem ι σ) (id : Nat) (worker : Worker ι σ) : PoolSystem ι σ :=
  { pool with workers := pool.workers.set id worker }

section Fields

variable (pool : PoolSystem ι σ) (thread other : ThreadId) (id : RunId)

@[simp]
theorem channel_deal (use : Channel.Use (Envelope ι)) :
    (pool.deal use).channel = pool.channel.after use := rfl

@[simp]
theorem workers_deal (use : Channel.Use (Envelope ι)) :
    (pool.deal use).workers = pool.workers := rfl

@[simp]
theorem runs_deal (use : Channel.Use (Envelope ι)) : (pool.deal use).runs = pool.runs := rfl

@[simp]
theorem lifecycle_deal (use : Channel.Use (Envelope ι)) :
    (pool.deal use).lifecycle = pool.lifecycle := rfl

@[simp]
theorem activities_deal (use : Channel.Use (Envelope ι)) :
    (pool.deal use).activities = pool.activities := rfl

@[simp]
theorem channel_turnTo (activity : Activity ι) :
    (pool.turnTo thread activity).channel = pool.channel := rfl

@[simp]
theorem workers_turnTo (activity : Activity ι) :
    (pool.turnTo thread activity).workers = pool.workers := rfl

@[simp]
theorem runs_turnTo (activity : Activity ι) :
    (pool.turnTo thread activity).runs = pool.runs := rfl

@[simp]
theorem lifecycle_turnTo (activity : Activity ι) :
    (pool.turnTo thread activity).lifecycle = pool.lifecycle := rfl

@[simp]
theorem activity_turnTo (activity : Activity ι) :
    (pool.turnTo thread activity).activity other
      = if thread = other then activity else pool.activity other :=
  Table.get_set pool.activities thread other activity

@[simp]
theorem activity_abandon (config : PoolConfig) (message : String) (counted : Nat) :
    (pool.abandon thread config message counted).state.activity other
      = if thread = other then .idle else pool.activity other := activity_turnTo _ thread other _

@[simp]
theorem activity_launch [Inhabited σ] (config : PoolConfig) :
    (pool.launch thread config).state.activity other
      = if thread = other then .idle else pool.activity other := activity_turnTo _ thread other _

@[simp]
theorem activity_fallShort [Inhabited σ] (config : PoolConfig) (shortage : Shortage) :
    (pool.fallShort thread config shortage).state.activity other
      = if thread = other then .callingOff pool.runs.length shortage.error
        else pool.activity other := activity_turnTo _ thread other _

@[simp]
theorem channel_put (worker : Worker ι σ) : (pool.put id worker).channel = pool.channel := rfl

@[simp]
theorem runs_put (worker : Worker ι σ) : (pool.put id worker).runs = pool.runs := rfl

@[simp]
theorem lifecycle_put (worker : Worker ι σ) : (pool.put id worker).lifecycle = pool.lifecycle := rfl

@[simp]
theorem activities_put (worker : Worker ι σ) :
    (pool.put id worker).activities = pool.activities := rfl

@[simp]
theorem channel_modifyRun (change : Run → Run) :
    (pool.modifyRun id change).channel = pool.channel := rfl

@[simp]
theorem workers_modifyRun (change : Run → Run) :
    (pool.modifyRun id change).workers = pool.workers := rfl

@[simp]
theorem lifecycle_modifyRun (change : Run → Run) :
    (pool.modifyRun id change).lifecycle = pool.lifecycle := rfl

@[simp]
theorem activities_modifyRun (change : Run → Run) :
    (pool.modifyRun id change).activities = pool.activities := rfl

end Fields

/-- The steps of a shutdown that leave the queue alone. -/
inductive Advance (pool : PoolSystem ι σ) (now : Instant) :
    Activity ι → PoolSystem ι σ → Activity ι → Prop where
  | signalled (shutdown : Shutdown) :
      Advance pool now (.signalling shutdown 0) pool (.watching shutdown)
  | settle {shutdown : Shutdown} (settled : shutdown.remaining = 0 ∨ shutdown.interrupted = true) :
      Advance pool now (.watching shutdown) pool (.forcing shutdown)
  | notice {shutdown : Shutdown} (unsettled : shutdown.remaining ≠ 0)
      (interrupted : 0 < pool.interrupts) (unaware : shutdown.interrupted = false) :
      Advance pool now (.watching shutdown) { pool with interrupts := pool.interrupts - 1 }
        (.forcing { shutdown with interrupted := true })
  | listen {shutdown : Shutdown} (unsettled : shutdown.remaining ≠ 0)
      (uninterrupted : shutdown.interrupted = false) (quiet : pool.interrupts = 0) :
      Advance pool now (.watching shutdown) pool
        (.listening shutdown (shutdownPoll.after now))
  | hear {shutdown : Shutdown} (deadline : Instant) {index : Nat} {rest : List Nat}
      (sent : (pool.run shutdown.run).notices = index :: rest) :
      Advance pool now (.listening shutdown deadline)
        (pool.modifyRun shutdown.run fun run => { run with notices := rest })
        (.watching (shutdown.noted index))
  | hearAll {shutdown : Shutdown} (deadline : Instant)
      (silent : (pool.run shutdown.run).notices = [])
      (ended : pool.haveAllEnded shutdown.run = true) :
      Advance pool now (.listening shutdown deadline) pool (.forcing shutdown)
  | relisten {shutdown : Shutdown} {deadline : Instant}
      (silent : (pool.run shutdown.run).notices = []) (elapsed : deadline ≤ now) :
      Advance pool now (.listening shutdown deadline) pool (.watching shutdown)
  | force {shutdown : Shutdown} (interrupted : shutdown.interrupted = true)
      (ends : shutdown.remaining = 0 ∨
        (pool.run shutdown.run).config.gracePeriod.fits now = true) :
      Advance pool now (.forcing shutdown)
        (pool.modifyRun shutdown.run fun run => { run with terminated := true })
        (if shutdown.remaining = 0 then .counting shutdown
          else .expecting shutdown ((pool.run shutdown.run).config.gracePeriod.after now))
  | forgo {shutdown : Shutdown} (uninterrupted : shutdown.interrupted = false)
      (ends : shutdown.remaining = 0 ∨
        (pool.run shutdown.run).config.gracePeriod.fits now = true) :
      Advance pool now (.forcing shutdown) pool
        (if shutdown.remaining = 0 then .counting shutdown
          else .expecting shutdown ((pool.run shutdown.run).config.gracePeriod.after now))
  /-- The clock cannot tell the end of the grace period. -/
  | overflow {shutdown : Shutdown} (interrupted : shutdown.interrupted = true)
      (waits : shutdown.remaining ≠ 0)
      (endless : (pool.run shutdown.run).config.gracePeriod.fits now = false) :
      Advance pool now (.forcing shutdown)
        (pool.modifyRun shutdown.run fun run => { run with terminated := true })
        (.unwinding Duration.overflowText)
  | overflowUnforced {shutdown : Shutdown}
      (uninterrupted : shutdown.interrupted = false) (waits : shutdown.remaining ≠ 0)
      (endless : (pool.run shutdown.run).config.gracePeriod.fits now = false) :
      Advance pool now (.forcing shutdown) pool (.unwinding Duration.overflowText)
  | complete {shutdown : Shutdown} (deadline : Instant) (none : shutdown.remaining = 0) :
      Advance pool now (.expecting shutdown deadline) pool (.counting shutdown)
  | expect {shutdown : Shutdown} (deadline : Instant) {index : Nat} {rest : List Nat}
      (some : shutdown.remaining ≠ 0) (sent : (pool.run shutdown.run).notices = index :: rest) :
      Advance pool now (.expecting shutdown deadline)
        (pool.modifyRun shutdown.run fun run => { run with notices := rest })
        (.expecting (shutdown.noted index) deadline)
  | expectAll {shutdown : Shutdown} (deadline : Instant)
      (silent : (pool.run shutdown.run).notices = [])
      (ended : pool.haveAllEnded shutdown.run = true) :
      Advance pool now (.expecting shutdown deadline) pool (.counting shutdown)
  | runOut {shutdown : Shutdown} {deadline : Instant}
      (silent : (pool.run shutdown.run).notices = []) (elapsed : deadline ≤ now) :
      Advance pool now (.expecting shutdown deadline) pool (.counting shutdown)
  | count (shutdown : Shutdown) :
      Advance pool now (.counting shutdown) pool
        (.judging shutdown
          { stats := (pool.run shutdown.run).stats, interrupted := shutdown.interrupted } 0)
  | join {shutdown : Shutdown} (report : CompletionReport ι) {index : Nat} {finished : Bool}
      (listed : shutdown.finished[index]? = some finished)
      (ended : pool.hasEnded shutdown.run index = true) :
      Advance pool now (.judging shutdown report index) pool
        (.judging shutdown report (index + 1))
  | detach {shutdown : Shutdown} (report : CompletionReport ι) {index : Nat}
      (unfinished : shutdown.finished[index]? = some false)
      (alive : pool.hasEnded shutdown.run index = false) :
      Advance pool now (.judging shutdown report index) pool
        (.judging shutdown { report with stragglers := report.stragglers + 1 } (index + 1))
  | judge {shutdown : Shutdown} (report : CompletionReport ι) {index : Nat}
      (all : shutdown.finished[index]? = none) :
      Advance pool now (.judging shutdown report index) pool (.draining report shutdown.span)

/-- The steps of the callers and the workers of a pool. -/
inductive Transition [Inhabited σ] (pool : PoolSystem ι σ) (now : Instant) :
    Move ι σ → Channel.Use (Envelope ι) → PoolSystem ι σ → Option (Reply ι) → Prop where
  | refuse {thread : ThreadId} {config : PoolConfig} {shortage : Option Shortage} {error : PoolError}
      (idle : pool.activity thread = .idle)
      (reason : pool.lifecycle ≠ .idle ∨ config.validate = .error error) :
      Transition pool now (.begin thread (.start config shortage)) .nothing
        (pool.turnTo thread .idle) (some (.refused error))
  | abandon {thread : ThreadId} {config : PoolConfig} {shortage : Option Shortage} {message : String}
      {counted : Nat} (idle : pool.activity thread = .idle) (rest : pool.lifecycle = .idle) :
      Transition pool now (.begin thread (.start config shortage)) .nothing
        (pool.abandon thread config message counted).state (some (.panicked message))
  | launch {thread : ThreadId} {config : PoolConfig} {shortage : Option Shortage}
      (idle : pool.activity thread = .idle) (owned : 0 < pool.owners) (rest : pool.lifecycle = .idle)
      (valid : config.validate = .ok ()) (full : Shortage.of? config shortage = none) :
      Transition pool now (.begin thread (.start config shortage)) .nothing
        (pool.launch thread config).state (some .done)
  | fallShort {thread : ThreadId} {config : PoolConfig} {shortage : Option Shortage} {hit : Shortage}
      (idle : pool.activity thread = .idle) (owned : 0 < pool.owners) (rest : pool.lifecycle = .idle)
      (valid : config.validate = .ok ()) (short : Shortage.of? config shortage = some hit) :
      Transition pool now (.begin thread (.start config shortage)) .nothing
        (pool.fallShort thread config hit).state none
  | add {thread : ThreadId} {item : ι} (idle : pool.activity thread = .idle)
      (accepts : pool.channel.accepts = true) :
      Transition pool now (.begin thread (.add item)) (.send (.caller thread) (.work item))
        ((pool.deal (.send (.caller thread) (.work item))).turnTo thread .idle) (some .done)
  | park {thread : ThreadId} {item : ι} (idle : pool.activity thread = .idle)
      (full : pool.channel.accepts = false) :
      Transition pool now (.begin thread (.add item)) (.send (.caller thread) (.work item))
        ((pool.deal (.send (.caller thread) (.work item))).turnTo thread .adding) none
  | offer {thread : ThreadId} {item : ι} (idle : pool.activity thread = .idle) :
      Transition pool now (.begin thread (.offer item)) (.offer (.caller thread) (.work item))
        ((pool.deal (.offer (.caller thread) (.work item))).turnTo thread .idle)
        (some (.flag pool.channel.accepts))
  | clear {thread : ThreadId} {items : List ι} {signals : Nat}
      (idle : pool.activity thread = .idle)
      (taken : items = pool.channel.drain.2.filterMap Envelope.item?)
      (held : signals = pool.channel.drain.2.length - items.length) :
      Transition pool now (.begin thread .clear) (.drain (.caller thread))
        ((pool.deal (.drain (.caller thread))).turnTo thread (.clearing items signals)) none
  | waitBeside {thread : ThreadId} (idle : pool.activity thread = .idle)
      (busy : pool.lifecycle = .shuttingDown) :
      Transition pool now (.begin thread .wait) .nothing (pool.turnTo thread .idle)
        (some (.report { stats := pool.stats }))
  | waitIdle {thread : ThreadId} (span : Span) (idle : pool.activity thread = .idle)
      (rest : pool.lifecycle = .idle) :
      Transition pool now (.begin thread .wait) .nothing
        ({ pool with lifecycle := .shuttingDown }.turnTo thread
          (.draining { stats := pool.stats } span)) none
  | takeOver {thread : ThreadId} {id : RunId} (span : Span) (idle : pool.activity thread = .idle)
      (runs : pool.lifecycle = .running id) :
      Transition pool now (.begin thread .wait) .nothing
        ({ pool with lifecycle := .shuttingDown }.turnTo thread
          (.signalling
            { run := id, span,
              finished := List.replicate (pool.run id).config.threads false,
              remaining := (pool.run id).config.threads }
            (if (pool.run id).config.exitSignal then (pool.run id).config.threads else 0))) none
  | interrupt {thread : ThreadId} (idle : pool.activity thread = .idle) :
      Transition pool now (.begin thread .interrupt) .nothing
        ({ pool with interrupts := pool.interrupts + 1 }.turnTo thread .idle) (some .done)
  | inspect {thread : ThreadId} {inspection : Inspection} (idle : pool.activity thread = .idle) :
      Transition pool now (.begin thread .inspect) .look
        ((pool.deal .look).turnTo thread .idle) (some (.inspected inspection))
  | own {thread : ThreadId} (idle : pool.activity thread = .idle) (owned : 0 < pool.owners) :
      Transition pool now (.begin thread .own) .nothing
        ({ pool with owners := pool.owners + 1 }.turnTo thread .idle) (some .done)
  | disown {thread : ThreadId} (idle : pool.activity thread = .idle)
      (shared : 1 < pool.owners) :
      Transition pool now (.begin thread .disown) .nothing
        ({ pool with owners := pool.owners - 1 }.turnTo thread .idle) (some .done)
  | abandonIdle {thread : ThreadId} (idle : pool.activity thread = .idle)
      (last : pool.owners = 1) (stands : ∀ id, pool.lifecycle ≠ .running id) :
      Transition pool now (.begin thread .disown) .close
        ({ pool.deal .close with owners := 0 }.turnTo thread .idle) (some .done)
  | abandonRunning {thread : ThreadId} {id : RunId} (idle : pool.activity thread = .idle)
      (last : pool.owners = 1) (runs : pool.lifecycle = .running id) :
      Transition pool now (.begin thread .disown) .nothing
        ({ pool.modifyRun id fun run => { run with terminated := true } with
            owners := 0, lifecycle := .idle }.turnTo thread (.joining id)) none
  | ignore {thread : ThreadId} {memory : σ} {ending : CallbackEnding} :
      Transition pool now (.begin thread (.returned memory ending)) .nothing pool (some .done)
  | added {thread : ThreadId} (doing : pool.activity thread = .adding)
      (sent : pool.channel.isSending (.caller thread) = false) :
      Transition pool now (.proceed thread) .nothing (pool.turnTo thread .idle) (some .done)
  | cleared {thread : ThreadId} {items : List ι}
      (doing : pool.activity thread = .clearing items 0) :
      Transition pool now (.proceed thread) .nothing (pool.turnTo thread .idle)
        (some (.items items))
  | putBack {thread : ThreadId} {items : List ι} {signals : Nat}
      (doing : pool.activity thread = .clearing items (signals + 1))
      (accepts : pool.channel.accepts = true) :
      Transition pool now (.proceed thread) (.send (.caller thread) .exit)
        ((pool.deal (.send (.caller thread) .exit)).turnTo thread (.clearing items signals)) none
  | parkBack {thread : ThreadId} {items : List ι} {signals : Nat}
      (doing : pool.activity thread = .clearing items (signals + 1))
      (full : pool.channel.accepts = false) :
      Transition pool now (.proceed thread) (.send (.caller thread) .exit)
        ((pool.deal (.send (.caller thread) .exit)).turnTo thread (.restoring items signals)) none
  | restored {thread : ThreadId} {items : List ι} {signals : Nat}
      (doing : pool.activity thread = .restoring items signals)
      (sent : pool.channel.isSending (.caller thread) = false) :
      Transition pool now (.proceed thread) .nothing
        (pool.turnTo thread (.clearing items signals)) none
  | signal {thread : ThreadId} {shutdown : Shutdown} {left : Nat}
      (doing : pool.activity thread = .signalling shutdown (left + 1))
      (accepts : pool.channel.accepts = true) :
      Transition pool now (.proceed thread) (.send (.caller thread) .exit)
        ((pool.deal (.send (.caller thread) .exit)).turnTo thread (.signalling shutdown left)) none
  | parkSignal {thread : ThreadId} {shutdown : Shutdown} {left : Nat}
      (doing : pool.activity thread = .signalling shutdown (left + 1))
      (full : pool.channel.accepts = false) :
      Transition pool now (.proceed thread) (.send (.caller thread) .exit)
        ((pool.deal (.send (.caller thread) .exit)).turnTo thread
          (.offering shutdown left (shutdownPoll.after now))) none
  | sent {thread : ThreadId} {shutdown : Shutdown} {left : Nat} {deadline : Instant}
      (doing : pool.activity thread = .offering shutdown left deadline)
      (sent : pool.channel.isSending (.caller thread) = false) :
      Transition pool now (.proceed thread) .nothing
        (pool.turnTo thread (.signalling shutdown left)) none
  | withdraw {thread : ThreadId} {shutdown : Shutdown} {left : Nat} {deadline : Instant}
      (doing : pool.activity thread = .offering shutdown left deadline) (elapsed : deadline ≤ now)
      (quiet : pool.interrupts = 0) (alive : (pool.run shutdown.run).running ≠ 0) :
      Transition pool now (.proceed thread) (.withdraw (.caller thread))
        ((pool.deal (.withdraw (.caller thread))).turnTo thread
          (.signalling shutdown (left + 1))) none
  | desert {thread : ThreadId} {shutdown : Shutdown} {left : Nat} {deadline : Instant}
      (doing : pool.activity thread = .offering shutdown left deadline) (elapsed : deadline ≤ now)
      (quiet : pool.interrupts = 0) (deserted : (pool.run shutdown.run).running = 0) :
      Transition pool now (.proceed thread) (.withdraw (.caller thread))
        ((pool.deal (.withdraw (.caller thread))).turnTo thread (.watching shutdown)) none
  | breakOff {thread : ThreadId} {shutdown : Shutdown} {left : Nat} {deadline : Instant}
      (doing : pool.activity thread = .offering shutdown left deadline) (elapsed : deadline ≤ now)
      (interrupted : 0 < pool.interrupts) :
      Transition pool now (.proceed thread) (.withdraw (.caller thread))
        ({ pool.deal (.withdraw (.caller thread)) with
            interrupts := pool.interrupts - 1 }.turnTo thread
          (.watching { shutdown with interrupted := true })) none
  | advance {thread : ThreadId} {before after : Activity ι} {advanced : PoolSystem ι σ}
      (doing : pool.activity thread = before) (advance : Advance pool now before advanced after) :
      Transition pool now (.proceed thread) .nothing (advanced.turnTo thread after) none
  | drain {thread : ThreadId} {report : CompletionReport ι} {span : Span}
      (doing : pool.activity thread = .draining report span) :
      Transition pool now (.proceed thread) (.drain (.caller thread))
        ((pool.deal (.drain (.caller thread))).turnTo thread
          (.resetting
            { report with pending := pool.channel.drain.2.filterMap Envelope.item? })) none
  | reset {thread : ThreadId} {report : CompletionReport ι}
      (doing : pool.activity thread = .resetting report) :
      Transition pool now (.proceed thread) .nothing
        ({ pool with lifecycle := .idle }.turnTo thread .idle) (some (.report report))
  | unwound {thread : ThreadId} {message : String}
      (doing : pool.activity thread = .unwinding message) :
      Transition pool now (.proceed thread) .nothing
        ({ pool with lifecycle := .idle }.turnTo thread .idle) (some (.panicked message))
  | joined {thread : ThreadId} {id : RunId} (doing : pool.activity thread = .joining id)
      (ended : pool.haveAllEnded id = true) :
      Transition pool now (.proceed thread) .close ((pool.deal .close).turnTo thread .idle)
        (some .done)
  | callOff {thread : ThreadId} {id : RunId} {error : String}
      (doing : pool.activity thread = .callingOff id error) :
      Transition pool now (.proceed thread) .nothing
        ((pool.modifyRun id fun run => { run with terminated := true }).turnTo thread
          (.gathering id error)) none
  | gathered {thread : ThreadId} {id : RunId} {error : String}
      (doing : pool.activity thread = .gathering id error) (ended : pool.haveAllEnded id = true) :
      Transition pool now (.proceed thread) .nothing
        ({ pool with lifecycle := .idle }.turnTo thread .idle)
        (some (.refused (.spawnFailed error)))
  | look {id : Nat} {worker : Worker ι σ} (found : pool.workers[id]? = some worker)
      (phase : worker.phase = .ready) :
      Transition pool now (.work id) .nothing
        (pool.put id (worker.afterLook (pool.run worker.run).terminated).1) none
  | take {id : Nat} {worker : Worker ι σ} {use : Channel.Use (Envelope ι)}
      {envelope : Envelope ι} (found : pool.workers[id]? = some worker)
      (phase : worker.phase = .taking)
      (taking : use = .take (.agent id) ∨ use = .seek (.agent id))
      (taken : pool.channel.take.2 = some envelope) :
      Transition pool now (.work id) use
        ((pool.deal use).put id (worker.afterTake (some envelope)).1) none
  | parkWorker {id : Nat} {worker : Worker ι σ} (found : pool.workers[id]? = some worker)
      (phase : worker.phase = .taking) (mode : worker.mode = .blocking)
      (opened : pool.channel.closed = false) (empty : pool.channel.take.2 = none) :
      Transition pool now (.work id) (.take (.agent id))
        ((pool.deal (.take (.agent id))).put id
          { worker with phase := .parked (Worker.takePoll.after now) }) none
  | quit {id : Nat} {worker : Worker ι σ} (found : pool.workers[id]? = some worker)
      (phase : worker.phase = .taking)
      (reason : worker.mode = .draining ∨ pool.channel.closed = true)
      (empty : pool.channel.take.2 = none) :
      Transition pool now (.work id) (.seek (.agent id))
        ((pool.deal (.seek (.agent id))).put id { worker with phase := .cleaning }) none
  | pickUp {id : Nat} {worker : Worker ι σ} {deadline : Instant} {envelope : Envelope ι}
      (found : pool.workers[id]? = some worker) (phase : worker.phase = .parked deadline)
      (handed : pool.channel.handed? (.agent id) = some envelope) :
      Transition pool now (.work id) (.pickUp (.agent id))
        ((pool.deal (.pickUp (.agent id))).put id (worker.afterTake (some envelope)).1) none
  | despair {id : Nat} {worker : Worker ι σ} {deadline : Instant}
      (found : pool.workers[id]? = some worker) (phase : worker.phase = .parked deadline)
      (empty : pool.channel.handed? (.agent id) = none) (closed : pool.channel.closed = true) :
      Transition pool now (.work id) (.leave (.agent id))
        ((pool.deal (.leave (.agent id))).put id { worker with phase := .cleaning }) none
  | timeOut {id : Nat} {worker : Worker ι σ} {deadline : Instant}
      (found : pool.workers[id]? = some worker) (phase : worker.phase = .parked deadline)
      (empty : pool.channel.handed? (.agent id) = none) (elapsed : deadline ≤ now) :
      Transition pool now (.work id) (.leave (.agent id))
        ((pool.deal (.leave (.agent id))).put id { worker with phase := .ready }) none
  | countOut {id : Nat} {worker : Worker ι σ} (found : pool.workers[id]? = some worker)
      (phase : worker.phase = .leaving) :
      Transition pool now (.work id) .nothing
        ((pool.modifyRun worker.run fun run => { run with running := run.running - 1 }).put id
          { worker with phase := .notifying }) none
  | notify {id : Nat} {worker : Worker ι σ} (found : pool.workers[id]? = some worker)
      (phase : worker.phase = .notifying) :
      Transition pool now (.work id) .nothing
        ((pool.modifyRun worker.run fun run =>
            { run with notices := run.notices ++ [worker.index] }).put id
          { worker with phase := .ending }) none
  | finish {id : Nat} {worker : Worker ι σ} (found : pool.workers[id]? = some worker)
      (phase : worker.phase = .ending) :
      Transition pool now (.work id) .nothing (pool.put id { worker with phase := .ended }) none
  | answer {id : Nat} {worker : Worker ι σ} {memory : σ} {ending : CallbackEnding}
      (found : pool.workers[id]? = some worker) (calls : worker.phase.calls = true) :
      Transition pool now (.answer id memory ending) .nothing
        ((pool.modifyRun worker.run fun run =>
            { run with stats := worker.count ending run.stats }).put id
          ({ worker with memory }.afterCallback ending).1) (some .done)

section Dealing

variable {pool : PoolSystem ι σ}

theorem deal_of_offer? {offered : Channel (Envelope ι)} {party : Party} {envelope : Envelope ι}
    (sent : pool.channel.offer? envelope = some offered) :
    pool.deal (.send party envelope) = { pool with channel := offered } := by
  simp [deal, Channel.after, sent]

theorem deal_of_full {party : Party} {envelope : Envelope ι}
    (full : pool.channel.offer? envelope = none) :
    pool.deal (.send party envelope)
      = { pool with channel := pool.channel.parkSender party envelope } := by
  simp [deal, Channel.after, full]

theorem accepts_of_offer? {offered : Channel (Envelope ι)} {envelope : Envelope ι}
    (sent : pool.channel.offer? envelope = some offered) : pool.channel.accepts = true := by
  rw [← Channel.isSome_offer? pool.channel envelope, sent]
  rfl

theorem isIdle_iff {activity : Activity ι} : activity.isIdle = true ↔ activity = .idle := by
  cases activity <;> simp [Activity.isIdle]

theorem notice?_cases (pool : PoolSystem ι σ) (id : RunId) :
    (∃ index rest, (pool.run id).notices = index :: rest ∧
      pool.notice? id
        = some (pool.modifyRun id fun run => { run with notices := rest }, some index)) ∨
    (pool.run id).notices = [] ∧
      (pool.haveAllEnded id = true ∧ pool.notice? id = some (pool, none) ∨
        pool.haveAllEnded id = false ∧ pool.notice? id = none) := by
  cases notices : (pool.run id).notices with
  | cons index rest => exact Or.inl ⟨index, rest, rfl, by simp [notice?, notices]⟩
  | nil =>
      refine Or.inr ⟨rfl, ?_⟩
      cases ended : pool.haveAllEnded id with
      | true => exact Or.inl ⟨rfl, by simp [notice?, notices, ended]⟩
      | false => exact Or.inr ⟨rfl, by simp [notice?, notices, ended]⟩

end Dealing

section Performing

variable [Inhabited σ] {pool : PoolSystem ι σ} {now : Instant} {thread : ThreadId}

/-- A step does what some transition with its move and its use of the queue does. -/
def Performs (pool : PoolSystem ι σ) (now : Instant) (move : Move ι σ) (stepped : Stepped ι σ) :
    Prop :=
  Transition pool now move (pool.use now move) stepped.state stepped.reply

theorem start_performs (config : PoolConfig) (shortage : Option Shortage)
    (idle : pool.activity thread = .idle) (owned : 0 < pool.owners) :
    Performs pool now (.begin thread (.start config shortage)) (pool.start thread config shortage) := by
  unfold Performs start
  split
  · rename_i rest
    split
    · rename_i error invalid
      exact .refuse idle (Or.inr invalid)
    · rename_i valid
      split
      · exact .abandon idle rest
      · rename_i short
        exact .fallShort idle owned rest valid short
      · rename_i full
        exact .launch idle owned rest valid full
  · rename_i busy
    exact .refuse idle (Or.inl busy)

theorem add_performs (item : ι) (idle : pool.activity thread = .idle) :
    Performs pool now (.begin thread (.add item)) (pool.add thread item) := by
  unfold Performs add
  cases sent : pool.channel.offer? (.work item) with
  | some offered =>
      have step : Transition pool now (.begin thread (.add item)) _ _ _ :=
        .add idle (accepts_of_offer? sent)
      rwa [deal_of_offer? sent] at step
  | none =>
      have step : Transition pool now (.begin thread (.add item)) _ _ _ :=
        .park idle (Channel.offer?_eq_none_iff.mp sent)
      rwa [deal_of_full sent] at step

theorem offer_performs (item : ι) (idle : pool.activity thread = .idle) :
    Performs pool now (.begin thread (.offer item)) (pool.offer thread item) := by
  have step : Transition pool now (.begin thread (.offer item)) _ _ _ := .offer idle
  unfold Performs offer
  cases sent : pool.channel.offer? (.work item) with
  | some offered =>
      simpa [deal, Channel.after, sent, accepts_of_offer? sent, use, useOfBegin, finish] using step
  | none =>
      simpa [deal, Channel.after, sent, Channel.offer?_eq_none_iff.mp sent, use, useOfBegin, finish]
        using step

theorem wait_performs (idle : pool.activity thread = .idle) (free : pool.lifecycle ≠ .locked) :
    Performs pool now (.begin thread .wait) (pool.wait now thread) := by
  unfold Performs wait
  cases life : pool.lifecycle with
  | shuttingDown => exact .waitBeside idle life
  | idle => exact .waitIdle _ idle life
  | running id => exact .takeOver _ idle life
  | locked => exact absurd life free

theorem disown_performs (idle : pool.activity thread = .idle) (owned : 0 < pool.owners) :
    Performs pool now (.begin thread .disown) (pool.disown thread) := by
  unfold Performs
  by_cases shared : 1 < pool.owners
  · have step : Transition pool now (.begin thread .disown) _ _ _ := .disown idle shared
    have owned : 0 < pool.owners - 1 := by omega
    simpa [disown, use, useOfBegin, shared, owned, finish] using step
  · have last : pool.owners = 1 := by omega
    cases life : pool.lifecycle with
    | running id =>
        have step : Transition pool now (.begin thread .disown) _ _ _ :=
          .abandonRunning idle last life
        simpa [disown, use, useOfBegin, last, life, carryOn, modifyRun, run] using step
    | idle =>
        have step : Transition pool now (.begin thread .disown) _ _ _ :=
          .abandonIdle idle last (by simp [life])
        simpa [disown, use, useOfBegin, last, life, finish, deal, Channel.after] using step
    | shuttingDown | locked =>
        have step : Transition pool now (.begin thread .disown) _ _ _ :=
          .abandonIdle idle last (by simp [life])
        simpa [disown, use, useOfBegin, last, life, finish, deal, Channel.after] using step

theorem begin_performs (operation : Operation ι σ) (idle : pool.activity thread = .idle)
    (owned : operation.needsPool = true → 0 < pool.owners) (admits : pool.admits operation = true) :
    Performs pool now (.begin thread operation) (pool.begin now (.caller thread) operation) := by
  cases operation with
  | start config shortage => exact start_performs config shortage idle (owned rfl)
  | add item => exact add_performs item idle
  | offer item => exact offer_performs item idle
  | clear => exact .clear idle rfl rfl
  | wait => exact wait_performs idle (by simpa [PoolSystem.admits] using admits)
  | interrupt => exact .interrupt idle
  | inspect => exact .inspect idle
  | own => exact .own idle (owned rfl)
  | disown => exact disown_performs idle (owned rfl)
  | returned memory ending => exact .ignore

theorem Performs.of_use {move : Move ι σ} {stepped : Stepped ι σ} (use : Channel.Use (Envelope ι))
    (used : pool.use now move = use)
    (step : Transition pool now move use stepped.state stepped.reply) :
    Performs pool now move stepped := by
  rw [Performs, used]
  exact step

theorem putBack_performs {items : List ι} {signals : Nat}
    (doing : pool.activity thread = .clearing items signals) :
    Performs pool now (.proceed thread) (pool.putBack thread items signals) := by
  cases signals with
  | zero => exact .of_use _ (by simp [use, useOfProceed, doing]) (.cleared doing)
  | succ signals =>
      refine .of_use (.send (.caller thread) .exit) (by simp [use, useOfProceed, doing]) ?_
      cases sent : pool.channel.offer? .exit with
      | some offered =>
          have step : Transition pool now _ _ _ _ := .putBack doing (accepts_of_offer? sent)
          rw [deal_of_offer? sent] at step
          simpa [putBack, sent, carryOn] using step
      | none =>
          have step : Transition pool now _ _ _ _ :=
            .parkBack doing (Channel.offer?_eq_none_iff.mp sent)
          rw [deal_of_full sent] at step
          simpa [putBack, sent, carryOn] using step

theorem signal_performs {shutdown : Shutdown} {left : Nat}
    (doing : pool.activity thread = .signalling shutdown left) :
    Performs pool now (.proceed thread) (pool.signal now thread shutdown left) := by
  cases left with
  | zero => exact .of_use _ (by simp [use, useOfProceed, doing]) (.advance doing (.signalled shutdown))
  | succ left =>
      refine .of_use (.send (.caller thread) .exit) (by simp [use, useOfProceed, doing]) ?_
      cases sent : pool.channel.offer? .exit with
      | some offered =>
          have step : Transition pool now _ _ _ _ := .signal doing (accepts_of_offer? sent)
          rw [deal_of_offer? sent] at step
          simpa [signal, sent, carryOn] using step
      | none =>
          have step : Transition pool now _ _ _ _ :=
            .parkSignal doing (Channel.offer?_eq_none_iff.mp sent)
          rw [deal_of_full sent] at step
          simpa [signal, sent, carryOn] using step

theorem reconsider_performs {shutdown : Shutdown} {left : Nat} {deadline : Instant}
    (doing : pool.activity thread = .offering shutdown left deadline)
    (parked : pool.channel.isSending (.caller thread) = true) (elapsed : deadline ≤ now) :
    Performs pool now (.proceed thread) (pool.reconsider thread shutdown left) := by
  refine .of_use (.withdraw (.caller thread))
    (by simp [use, useOfProceed, doing, parked, elapsed]) ?_
  by_cases interrupted : 0 < pool.interrupts
  · have step := Transition.breakOff doing elapsed interrupted
    simpa [reconsider, interrupted, carryOn, deal, Channel.after] using step
  · have quiet : pool.interrupts = 0 := by omega
    by_cases deserted : (pool.run shutdown.run).running = 0
    · have step := Transition.desert doing elapsed quiet deserted
      rw [run] at deserted
      simpa [reconsider, quiet, run, carryOn, deserted, deal, Channel.after] using step
    · have step := Transition.withdraw doing elapsed quiet deserted
      rw [run] at deserted
      simpa [reconsider, quiet, run, carryOn, deserted, deal, Channel.after] using step

theorem advance_performs {before after : Activity ι} {advanced : PoolSystem ι σ}
    {stepped : Stepped ι σ} (doing : pool.activity thread = before)
    (free : pool.use now (.proceed thread) = .nothing)
    (advance : Advance pool now before advanced after)
    (state : stepped.state = advanced.turnTo thread after) (reply : stepped.reply = none) :
    Performs pool now (.proceed thread) stepped := by
  refine .of_use _ free ?_
  rw [state, reply]
  exact .advance doing advance

theorem watch_performs {shutdown : Shutdown} (doing : pool.activity thread = .watching shutdown) :
    Performs pool now (.proceed thread) (pool.watch now thread shutdown) := by
  have free : pool.use now (.proceed thread) = .nothing := by simp [use, useOfProceed, doing]
  unfold watch
  split
  · rename_i settled
    exact advance_performs doing free (.settle (by simpa using settled)) rfl rfl
  · rename_i unsettled
    simp only [Bool.or_eq_true, decide_eq_true_eq, not_or, Bool.not_eq_true] at unsettled
    split
    · rename_i interrupted
      exact advance_performs doing free (.notice unsettled.1 interrupted unsettled.2) rfl rfl
    · rename_i quiet
      exact advance_performs doing free (.listen unsettled.1 unsettled.2 (by omega)) rfl rfl

theorem listen_performs {shutdown : Shutdown} {deadline : Instant} {stepped : Stepped ι σ}
    (doing : pool.activity thread = .listening shutdown deadline)
    (performed : pool.listen now thread shutdown deadline = some stepped) :
    Performs pool now (.proceed thread) stepped := by
  have free : pool.use now (.proceed thread) = .nothing := by simp [use, useOfProceed, doing]
  unfold listen at performed
  rcases pool.notice?_cases shutdown.run with
    ⟨index, rest, sent, read⟩ | ⟨silent, ⟨ended, read⟩ | ⟨alive, read⟩⟩
  · rw [read] at performed
    obtain rfl := Option.some.inj performed
    exact advance_performs doing free (.hear deadline sent) rfl rfl
  · rw [read] at performed
    obtain rfl := Option.some.inj performed
    exact advance_performs doing free (.hearAll deadline silent ended) rfl rfl
  · simp only [read] at performed
    split at performed
    · rename_i elapsed
      obtain rfl := Option.some.inj performed
      exact advance_performs doing free (.relisten silent elapsed) rfl rfl
    · cases performed

theorem force_performs {shutdown : Shutdown} (doing : pool.activity thread = .forcing shutdown) :
    Performs pool now (.proceed thread) (pool.force now thread shutdown) := by
  have free : pool.use now (.proceed thread) = .nothing := by simp [use, useOfProceed, doing]
  by_cases ends : shutdown.remaining = 0 ∨
      (pool.run shutdown.run).config.gracePeriod.fits now = true
  · cases interrupted : shutdown.interrupted with
    | true =>
        refine advance_performs doing free (.force interrupted ends) ?_ ?_ <;>
          by_cases none : shutdown.remaining = 0 <;> simp_all [force, carryOn]
    | false =>
        refine advance_performs doing free (.forgo interrupted ends) ?_ ?_ <;>
          by_cases none : shutdown.remaining = 0 <;> simp_all [force, carryOn]
  · obtain ⟨waits, endless⟩ := not_or.mp ends
    rw [Bool.not_eq_true] at endless
    cases interrupted : shutdown.interrupted with
    | true =>
        refine advance_performs doing free (.overflow interrupted waits endless) ?_ ?_ <;>
          simp [force, carryOn, *]
    | false =>
        refine advance_performs doing free (.overflowUnforced interrupted waits endless) ?_ ?_ <;>
          simp [force, carryOn, *]

theorem expect_performs {shutdown : Shutdown} {deadline : Instant} {stepped : Stepped ι σ}
    (doing : pool.activity thread = .expecting shutdown deadline)
    (performed : pool.expect now thread shutdown deadline = some stepped) :
    Performs pool now (.proceed thread) stepped := by
  have free : pool.use now (.proceed thread) = .nothing := by simp [use, useOfProceed, doing]
  unfold expect at performed
  split at performed
  · rename_i none
    obtain rfl := Option.some.inj performed
    exact advance_performs doing free (.complete deadline none) rfl rfl
  · rename_i some
    rcases pool.notice?_cases shutdown.run with
      ⟨index, rest, sent, read⟩ | ⟨silent, ⟨ended, read⟩ | ⟨alive, read⟩⟩
    · rw [read] at performed
      obtain rfl := Option.some.inj performed
      exact advance_performs doing free (.expect deadline some sent) rfl rfl
    · rw [read] at performed
      obtain rfl := Option.some.inj performed
      exact advance_performs doing free (.expectAll deadline silent ended) rfl rfl
    · simp only [read] at performed
      split at performed
      · rename_i elapsed
        obtain rfl := Option.some.inj performed
        exact advance_performs doing free (.runOut silent elapsed) rfl rfl
      · cases performed

theorem judge_performs {shutdown : Shutdown} {report : CompletionReport ι} {index : Nat}
    {stepped : Stepped ι σ} (doing : pool.activity thread = .judging shutdown report index)
    (performed : pool.judge thread shutdown report index = some stepped) :
    Performs pool now (.proceed thread) stepped := by
  have free : pool.use now (.proceed thread) = .nothing := by simp [use, useOfProceed, doing]
  unfold judge at performed
  split at performed
  · rename_i all
    obtain rfl := Option.some.inj performed
    exact advance_performs doing free (.judge report all) rfl rfl
  · rename_i finished listed
    cases ended : pool.hasEnded shutdown.run index with
    | true =>
        simp only [ended, if_true, Option.some.injEq] at performed
        obtain rfl := performed
        exact advance_performs doing free (.join report listed ended) rfl rfl
    | false =>
        cases finished with
        | true => simp [ended] at performed
        | false =>
            simp only [ended, Bool.false_eq_true, if_false, Option.some.injEq] at performed
            obtain rfl := performed
            exact advance_performs doing free (.detach report listed ended) rfl rfl

theorem proceed_performs {stepped : Stepped ι σ}
    (performed : pool.proceed now thread = some stepped) :
    Performs pool now (.proceed thread) stepped := by
  have same : pool.activities.get thread = pool.activity thread := rfl
  unfold proceed at performed
  rw [same] at performed
  cases doing : pool.activity thread with
  | idle => simp [doing] at performed
  | adding =>
      simp only [doing] at performed
      split at performed
      · cases performed
      · rename_i sent
        obtain rfl := Option.some.inj performed
        exact .of_use _ (by simp [use, useOfProceed, doing]) (.added doing (by simpa using sent))
  | clearing items signals =>
      simp only [doing, Option.some.injEq] at performed
      subst performed
      exact putBack_performs doing
  | restoring items signals =>
      simp only [doing] at performed
      split at performed
      · cases performed
      · rename_i sent
        obtain rfl := Option.some.inj performed
        exact .of_use _ (by simp [use, useOfProceed, doing]) (.restored doing (by simpa using sent))
  | signalling shutdown left =>
      simp only [doing, Option.some.injEq] at performed
      subst performed
      exact signal_performs doing
  | offering shutdown left deadline =>
      simp only [doing] at performed
      split at performed
      · rename_i parked
        split at performed
        · rename_i elapsed
          obtain rfl := Option.some.inj performed
          exact reconsider_performs doing parked elapsed
        · cases performed
      · rename_i sent
        obtain rfl := Option.some.inj performed
        exact .of_use _ (by simp [use, useOfProceed, doing, sent]) (.sent doing (by simpa using sent))
  | watching shutdown =>
      simp only [doing, Option.some.injEq] at performed
      subst performed
      exact watch_performs doing
  | listening shutdown deadline =>
      simp only [doing] at performed
      exact listen_performs doing performed
  | forcing shutdown =>
      simp only [doing, Option.some.injEq] at performed
      subst performed
      exact force_performs doing
  | expecting shutdown deadline =>
      simp only [doing] at performed
      exact expect_performs doing performed
  | counting shutdown =>
      simp only [doing, Option.some.injEq] at performed
      subst performed
      exact advance_performs doing (by simp [use, useOfProceed, doing]) (.count shutdown) rfl rfl
  | judging shutdown report index =>
      simp only [doing] at performed
      exact judge_performs doing performed
  | draining report span =>
      simp only [doing, Option.some.injEq] at performed
      subst performed
      exact .of_use _ (by simp [use, useOfProceed, doing]) (.drain doing)
  | resetting report =>
      simp only [doing, Option.some.injEq] at performed
      subst performed
      exact .of_use _ (by simp [use, useOfProceed, doing]) (.reset doing)
  | unwinding message =>
      simp only [doing, Option.some.injEq] at performed
      subst performed
      exact .of_use _ (by simp [use, useOfProceed, doing]) (.unwound doing)
  | joining id =>
      simp only [doing] at performed
      split at performed
      · rename_i ended
        obtain rfl := Option.some.inj performed
        exact .of_use _ (by simp [use, useOfProceed, doing]) (.joined doing ended)
      · cases performed
  | callingOff id error =>
      simp only [doing, Option.some.injEq] at performed
      subst performed
      exact .of_use _ (by simp [use, useOfProceed, doing]) (.callOff doing)
  | gathering id error =>
      simp only [doing] at performed
      split at performed
      · rename_i ended
        obtain rfl := Option.some.inj performed
        exact .of_use _ (by simp [use, useOfProceed, doing]) (.gathered doing ended)
      · cases performed

theorem takeFrom_performs {id : Nat} {worker : Worker ι σ} (found : pool.workers[id]? = some worker)
    (phase : worker.phase = .taking) :
    Performs pool now (.work id)
      (pool.setWorker id (worker.takeFrom now (.agent id) pool.channel)) := by
  have used : pool.use now (.work id)
      = if worker.mode = .blocking ∧ pool.channel.closed = false then .take (.agent id)
        else .seek (.agent id) := by
    simp [use, useOfWork, found, phase]
  have closed := Channel.closed_take pool.channel
  cases taken : pool.channel.take with
  | mk rest message =>
      cases message with
      | some envelope =>
          refine .of_use _ rfl ?_
          have either : pool.use now (.work id) = .take (.agent id) ∨
              pool.use now (.work id) = .seek (.agent id) := by
            rw [used]
            split
            · exact Or.inl rfl
            · exact Or.inr rfl
          have step : Transition pool now _ _ _ _ := .take found phase either (by rw [taken])
          rcases either with same | same <;> rw [same] at step ⊢ <;>
            simpa [setWorker, Worker.takeFrom, taken, deal, put, Channel.after] using step
      | none =>
          replace closed : rest.closed = pool.channel.closed := by simpa [taken] using closed
          by_cases waits : worker.mode = .blocking ∧ pool.channel.closed = false
          · refine .of_use _ (used.trans (if_pos waits)) ?_
            have step : Transition pool now _ _ _ _ :=
              .parkWorker found phase waits.1 waits.2 (by rw [taken])
            simpa [setWorker, Worker.takeFrom, taken, closed, waits.1, waits.2, deal, put,
              Channel.after] using step
          · refine .of_use _ (used.trans (if_neg waits)) ?_
            have reason : worker.mode = .draining ∨ pool.channel.closed = true := by
              cases mode : worker.mode with
              | draining => exact Or.inl rfl
              | blocking => exact Or.inr (by simpa [mode] using waits)
            have step : Transition pool now _ _ _ _ := .quit found phase reason (by rw [taken])
            simpa [setWorker, Worker.takeFrom, Worker.afterTake, taken, closed, waits, deal, put,
              Channel.after] using step

theorem wakeAt_performs {id : Nat} {worker : Worker ι σ} {deadline : Instant}
    {stepped : Stepped ι σ} (found : pool.workers[id]? = some worker)
    (phase : worker.phase = .parked deadline)
    (performed : (worker.wakeAt now deadline (.agent id) pool.channel).map (pool.setWorker id)
      = some stepped) :
    Performs pool now (.work id) stepped := by
  cases handed : pool.channel.handed? (.agent id) with
  | some envelope =>
      simp only [Worker.wakeAt, handed, Option.map_some, Option.some.injEq] at performed
      subst performed
      exact .of_use _ (by simp [use, useOfWork, found, phase, handed]) (.pickUp found phase handed)
  | none =>
      refine .of_use (.leave (.agent id))
        (by simp [use, useOfWork, found, phase, handed]) ?_
      cases closed : pool.channel.closed with
      | true =>
          simp only [Worker.wakeAt, handed, closed, if_true, Option.map_some,
            Option.some.injEq] at performed
          subst performed
          exact .despair found phase handed closed
      | false =>
          simp only [Worker.wakeAt, handed, closed, Bool.false_eq_true, if_false] at performed
          split at performed
          · rename_i elapsed
            obtain rfl := Option.some.inj performed
            exact .timeOut found phase handed elapsed
          · cases performed

theorem work_performs {id : Nat} {worker : Worker ι σ} {stepped : Stepped ι σ}
    (found : pool.workers[id]? = some worker) (performed : pool.work now id worker = some stepped) :
    Performs pool now (.work id) stepped := by
  unfold work at performed
  cases phase : worker.phase with
  | ready =>
      simp only [phase, Option.some.injEq] at performed
      subst performed
      exact .of_use _ (by simp [use, useOfWork, found, phase]) (.look found phase)
  | taking =>
      simp only [phase, Option.some.injEq] at performed
      subst performed
      exact takeFrom_performs found phase
  | parked deadline =>
      simp only [phase] at performed
      exact wakeAt_performs found phase performed
  | leaving =>
      simp only [phase, Option.some.injEq] at performed
      subst performed
      exact .of_use _ (by simp [use, useOfWork, found, phase]) (.countOut found phase)
  | notifying =>
      simp only [phase, Option.some.injEq] at performed
      subst performed
      exact .of_use _ (by simp [use, useOfWork, found, phase]) (.notify found phase)
  | ending =>
      simp only [phase, Option.some.injEq] at performed
      subst performed
      exact .of_use _ (by simp [use, useOfWork, found, phase]) (.finish found phase)
  | initializing => simp [phase] at performed
  | processing item => simp [phase] at performed
  | failing item error => simp [phase] at performed
  | cleaning => simp [phase] at performed
  | ended => simp [phase] at performed

theorem returned_performs {id : Nat} (memory : σ) (ending : CallbackEnding)
    (calls : (pool.phase? id).any (·.calls) = true) :
    Performs pool now (.answer id memory ending) (pool.returned id memory ending) := by
  cases found : pool.workers[id]? with
  | none => simp [phase?, found] at calls
  | some worker =>
      have step : Transition pool now (.answer id memory ending) _ _ _ :=
        .answer found (by simpa [phase?, found] using calls)
      refine .of_use .nothing rfl ?_
      simpa [returned, found, modifyRun, put] using step

/-- Every step of a schedule is a transition. -/
theorem perform_transition {move : Move ι σ} {stepped : Stepped ι σ}
    (performed : pool.perform now move = some stepped) :
    Transition pool now move (pool.use now move) stepped.state stepped.reply := by
  cases move with
  | begin thread operation =>
      simp only [perform] at performed
      split at performed
      · rename_i able
        obtain rfl := Option.some.inj performed
        exact begin_performs operation (isIdle_iff.mp able.1) able.2.1 able.2.2
      · cases performed
  | proceed thread => exact proceed_performs performed
  | work id =>
      simp only [perform, step, Option.bind_eq_some_iff] at performed
      rcases performed with ⟨worker, found, performed⟩
      exact work_performs found performed
  | answer id memory ending =>
      simp only [perform] at performed
      split at performed
      · rename_i calls
        obtain rfl := Option.some.inj performed
        exact returned_performs memory ending calls
      · cases performed

end Performing

end Coordination.PoolSystem

namespace Coordination.Worker

variable {ι σ : Type}

theorem same_afterLook (worker : Worker ι σ) (terminated : Bool) :
    (worker.afterLook terminated).1.run = worker.run ∧
      (worker.afterLook terminated).1.index = worker.index ∧
      (worker.afterLook terminated).1.mode = worker.mode := by
  cases terminated <;> exact ⟨rfl, rfl, rfl⟩

theorem same_afterTake (worker : Worker ι σ) (envelope : Option (Envelope ι)) :
    (worker.afterTake envelope).1.run = worker.run ∧
      (worker.afterTake envelope).1.index = worker.index ∧
      (worker.afterTake envelope).1.mode = worker.mode := by
  rcases envelope with _ | _ | _ <;> exact ⟨rfl, rfl, rfl⟩

theorem same_afterCallback (worker : Worker ι σ) (ending : CallbackEnding) :
    (worker.afterCallback ending).1.run = worker.run ∧
      (worker.afterCallback ending).1.index = worker.index ∧
      (worker.afterCallback ending).1.mode = worker.mode := by
  rcases worker with ⟨run, index, mode, memory, phase, handled⟩
  cases phase <;> cases ending <;> exact ⟨rfl, rfl, rfl⟩

end Coordination.Worker

namespace Coordination.PoolSystem

variable {ι σ : Type}

section Frame

variable {pool after : PoolSystem ι σ} {now : Instant} {move : Move ι σ}
  {use : Channel.Use (Envelope ι)} {reply : Option (Reply ι)}

/-- Who makes a move. -/
def Move.party : Move ι σ → Party
  | .begin thread _ | .proceed thread => .caller thread
  | .work id | .answer id _ _ => .agent id

section Advancing

variable {before next : Activity ι} {advanced : PoolSystem ι σ}

theorem Advance.channel (advance : Advance pool now before advanced next) :
    advanced.channel = pool.channel := by
  cases advance <;> rfl

theorem Advance.activities (advance : Advance pool now before advanced next) :
    advanced.activities = pool.activities := by
  cases advance <;> rfl

theorem Advance.workers (advance : Advance pool now before advanced next) :
    advanced.workers = pool.workers := by
  cases advance <;> rfl

theorem Advance.lifecycle (advance : Advance pool now before advanced next) :
    advanced.lifecycle = pool.lifecycle := by
  cases advance <;> rfl

theorem Advance.owners (advance : Advance pool now before advanced next) :
    advanced.owners = pool.owners := by
  cases advance <;> rfl

end Advancing

theorem activity_congr {next : PoolSystem ι σ} (same : next.activities = pool.activities)
    (thread : ThreadId) : next.activity thread = pool.activity thread := by
  rw [activity, same, activity]

theorem workers_put {id : Nat} {worker : Worker ι σ} (found : pool.workers[id]? = some worker)
    (changed : Worker ι σ) (other : Nat) :
    (pool.put id changed).workers[other]?
      = if id = other then some changed else pool.workers[other]? := by
  simp only [put, List.getElem?_set]
  split
  · rename_i same
    subst same
    have short : id < pool.workers.length := (List.getElem?_eq_some_iff.mp found).1
    simp [short]
  · rfl

theorem run_modifyRun (pool : PoolSystem ι σ) (id other : RunId) (change : Run → Run) :
    (pool.modifyRun id change).run other
      = if id = other ∧ id < pool.runs.length then change (pool.run other) else pool.run other := by
  simp only [run, modifyRun, List.getElem?_modify]
  by_cases same : id = other
  · subst same
    by_cases short : id < pool.runs.length
    · simp [short]
    · simp [short]
  · simp [same]

theorem run_append {next : PoolSystem ι σ} {made : Run} (more : next.runs = pool.runs ++ [made])
    (other : Nat) :
    next.run other = if other = pool.runs.length then made else pool.run other := by
  simp only [run, more]
  rcases Nat.lt_trichotomy other pool.runs.length with short | same | long
  · rw [List.getElem?_append_left short, if_neg (by omega)]
  · subst same
    simp
  · rw [List.getElem?_eq_none (by simp; omega), List.getElem?_eq_none (by omega),
      if_neg (by omega)]

theorem found_put {id : Nat} {worker : Worker ι σ} (found : pool.workers[id]? = some worker)
    (changed : Worker ι σ) : (pool.put id changed).workers[id]? = some changed := by
  rw [workers_put found, if_pos rfl]

variable [Inhabited σ]

/-- A step changes the queue as its use says. -/
theorem Transition.channel (step : Transition pool now move use after reply) :
    after.channel = pool.channel.after use := by
  cases step with
  | advance doing advance => exact advance.channel
  | _ => rfl

/-- A step leaves all threads alone but the one that makes it. -/
theorem Transition.activity_of_ne (step : Transition pool now move use after reply)
    {thread : ThreadId} (apart : move.party ≠ .caller thread) :
    after.activity thread = pool.activity thread := by
  cases step with
  | advance doing advance =>
      rw [activity_turnTo, if_neg (fun same => apart (congrArg Party.caller same))]
      exact activity_congr advance.activities thread
  | look | take | parkWorker | quit | pickUp | despair | timeOut | countOut | notify | finish
  | answer | ignore => rfl
  | _ =>
      refine Eq.trans (activity_turnTo _ _ _ _) (if_neg ?_)
      exact fun same => apart (congrArg Party.caller same)

/-- A step leaves all workers alone but the one that makes it. -/
theorem Transition.worker_of_ne (step : Transition pool now move use after reply) {id : Nat}
    {worker : Worker ι σ} (found : pool.workers[id]? = some worker)
    (apart : move.party ≠ .agent id) : after.workers[id]? = some worker := by
  cases step with
  | launch | fallShort =>
      refine Eq.trans (List.getElem?_append_left ?_) found
      exact (List.getElem?_eq_some_iff.mp found).1
  | advance doing advance =>
      rw [workers_turnTo, advance.workers]
      exact found
  | look own | take own | parkWorker own | quit own | pickUp own | despair own | timeOut own
  | countOut own | notify own | finish own | answer own =>
      refine (workers_put own _ id).trans ?_
      rw [if_neg (fun same => apart (congrArg Party.agent same))]
      exact found
  | _ => exact found

theorem Transition.runs_length (step : Transition pool now move use after reply) :
    pool.runs.length ≤ after.runs.length := by
  cases step with
  | launch | fallShort | abandon => exact (List.prefix_append pool.runs _).length_le
  | advance doing advance => cases advance <;> simp [modifyRun]
  | abandonRunning | callOff | countOut | notify | answer => simp [modifyRun]
  | _ => exact Nat.le_refl _

/-- A worker keeps its run, its place in it and its mode. -/
theorem Transition.worker_same (step : Transition pool now move use after reply) {id : Nat}
    {worker : Worker ι σ} (found : pool.workers[id]? = some worker) :
    ∃ changed, after.workers[id]? = some changed ∧ changed.run = worker.run ∧
      changed.index = worker.index ∧ changed.mode = worker.mode := by
  by_cases own : move.party = .agent id
  · have kept {changed : Worker ι σ} (put : after.workers[id]? = some changed)
        (same : changed.run = worker.run ∧ changed.index = worker.index ∧
          changed.mode = worker.mode) :
        ∃ changed, after.workers[id]? = some changed ∧ changed.run = worker.run ∧
          changed.index = worker.index ∧ changed.mode = worker.mode :=
      ⟨changed, put, same⟩
    cases step with
    | look mine =>
        cases own
        cases mine.symm.trans found
        exact kept (found_put mine _) (worker.same_afterLook _)
    | take mine | pickUp mine =>
        cases own
        cases mine.symm.trans found
        exact kept (found_put mine _) (worker.same_afterTake _)
    | parkWorker mine | quit mine | despair mine | timeOut mine | countOut mine | notify mine
    | finish mine =>
        cases own
        cases mine.symm.trans found
        exact kept (found_put mine _) ⟨rfl, rfl, rfl⟩
    | @answer _ _ memory ending mine =>
        cases own
        cases mine.symm.trans found
        exact kept (found_put mine _) (Worker.same_afterCallback { worker with memory } ending)
    | _ => cases own
  · exact ⟨worker, step.worker_of_ne found own, rfl, rfl, rfl⟩

theorem worker_recruit {config : PoolConfig} {id : Nat} {worker : Worker ι σ}
    (fresh : pool.workers[id]? = none)
    (found : (pool.recruit config).workers[id]? = some worker) :
    ∃ index, id = pool.workers.length + index ∧ index < config.threads ∧
      worker = { run := pool.runs.length, index, mode := config.mode, memory := default } := by
  rw [List.getElem?_eq_none_iff] at fresh
  simp only [recruit] at found
  rw [List.getElem?_append_right fresh, List.getElem?_map, Option.map_eq_some_iff] at found
  rcases found with ⟨index, listed, rfl⟩
  rcases List.getElem?_eq_some_iff.mp listed with ⟨short, same⟩
  rw [List.getElem_range] at same
  rw [List.length_range] at short
  exact ⟨index, by omega, by omega, rfl⟩

/-- Only a start makes workers, all that it is asked for, or all that it can get for a run that it calls
off. -/
theorem Transition.worker_new (step : Transition pool now move use after reply) {id : Nat}
    {worker : Worker ι σ} (fresh : pool.workers[id]? = none)
    (found : after.workers[id]? = some worker) :
    ∃ config, (∃ thread settings shortage, move = .begin thread (.start settings shortage)) ∧
      (after.runs = (pool.recruit config).runs ∧ after.workers = (pool.recruit config).workers ∧
        (after.lifecycle = .running pool.runs.length ∨
          ∃ thread error, after.activity thread = .callingOff pool.runs.length error)) ∧
      ∃ index, id = pool.workers.length + index ∧ index < config.threads ∧
        worker = { run := pool.runs.length, index, mode := config.mode, memory := default } := by
  cases step with
  | launch => exact ⟨_, ⟨_, _, _, rfl⟩, ⟨rfl, rfl, Or.inl rfl⟩, worker_recruit fresh found⟩
  | @fallShort thread config _ hit =>
      have calls := (activity_fallShort pool thread thread config hit).trans (if_pos rfl)
      exact ⟨_, ⟨_, _, _, rfl⟩, ⟨rfl, rfl, Or.inr ⟨thread, _, calls⟩⟩, worker_recruit fresh found⟩
  | advance doing advance =>
      rw [workers_turnTo, advance.workers, fresh] at found
      cases found
  | look own | take own | parkWorker own | quit own | pickUp own | despair own | timeOut own
  | countOut own | notify own | finish own | answer own =>
      replace found := (workers_put own _ id).symm.trans found
      split at found
      · rename_i same
        subst same
        rw [fresh] at own
        cases own
      · rw [fresh] at found
        cases found
  | _ =>
      replace found : pool.workers[id]? = some worker := found
      rw [fresh] at found
      cases found

end Frame

end Coordination.PoolSystem
