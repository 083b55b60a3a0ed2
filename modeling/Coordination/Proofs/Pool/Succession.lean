import Coordination.Proofs.Pool.Custody

/-!
# How a pool changes hands

A start begins a run, one wait takes it over, and the same wait makes the pool idle again. Nothing else
ends a run but the loss of the last owner (`Transition.handover`), so the runs that have been taken over
are some of those that have been started, each at most once, in the order of their starts. A start that is
refused changes nothing.

There are two things that a start of an idle pool with valid settings does besides beginning a run. If the
system runs short of threads, the start has the pool locked until the workers that were made have ended,
and then fails. And it may panic while it makes the workers. A pool is then left idle with the counts of a
run that has no workers (`vacant_of_panic`).
-/

namespace Coordination.PoolSystem

variable {ι σ : Type}

/-- The run that goes on in a stage of the life of a pool. -/
def Lifecycle.run? : Lifecycle → Option RunId
  | .running run => some run
  | _ => none

@[simp]
theorem Lifecycle.run?_eq_none_iff {stage : Lifecycle} :
    stage.run? = none ↔ ∀ run, stage ≠ .running run := by
  cases stage <;> simp [run?]

/-- What a thread replies when it gives the pool back. -/
def Activity.verdict? : Activity ι → Option (Reply ι)
  | .resetting report => some (.report report)
  | .unwinding message => some (.panicked message)
  | .gathering _ error => some (.refused (.spawnFailed error))
  | _ => none

/-- The run that a successful start has begun. -/
def Event.launched? (event : Event ι σ) : Option RunId :=
  match event.move, event.reply with
  | .begin _ (.start _ _), some .done => some event.before.runs.length
  | _, _ => none

/-- The run that a wait takes over. -/
def Event.taken? (event : Event ι σ) : Option RunId :=
  match event.move with
  | .begin _ .wait => event.before.lifecycle.run?
  | _ => none

/-- The run that ends when a pool loses its last owner. -/
def Event.orphaned? (event : Event ι σ) : Option RunId :=
  match event.move with
  | .begin _ .disown => if event.before.owners = 1 then event.before.lifecycle.run? else none
  | _ => none

/-- The runs that have been started, in order. -/
def launched (events : List (Event ι σ)) : List RunId := events.filterMap Event.launched?

/-- The runs that have been taken over, in order. -/
def taken (events : List (Event ι σ)) : List RunId := events.filterMap Event.taken?

/-- A step that leaves the pool as it is. -/
structure Event.Untouched (event : Event ι σ) : Prop where
  lifecycle : event.after.lifecycle = event.before.lifecycle
  channel : event.after.channel = event.before.channel
  runs : event.after.runs = event.before.runs
  workers : event.after.workers = event.before.workers
  interrupts : event.after.interrupts = event.before.interrupts
  activity : ∀ thread, event.after.activity thread = event.before.activity thread

/-- What a start leads to. One of the first four cases applies: it succeeds, it is refused, it panics, or it
falls short of threads. -/
structure Event.Starts (event : Event ι σ) (config : PoolConfig) (shortage : Option Shortage) : Prop where
  succeeds : event.reply = some .done ↔ event.before.lifecycle = .idle ∧ config.validate = .ok () ∧
    panicOf? config = none ∧ Shortage.of? config shortage = none
  /-- That the pool is not idle comes before everything that is wrong with the settings. -/
  refused : ∀ error, event.reply = some (.refused error) ↔
    event.before.lifecycle ≠ .idle ∧ error = .alreadyRunning ∨
      event.before.lifecycle = .idle ∧ config.validate = .error error
  panics : (∃ message, event.reply = some (.panicked message)) ↔
    event.before.lifecycle = .idle ∧ config.validate = .ok () ∧ (panicOf? config).isSome = true
  fallsShort : event.reply = none ↔ event.before.lifecycle = .idle ∧ config.validate = .ok () ∧
    panicOf? config = none ∧ (Shortage.of? config shortage).isSome = true
  runs : event.reply = some .done → event.after.lifecycle = .running event.before.runs.length
  untouched : ∀ error, event.reply = some (.refused error) → event.Untouched
  /-- A start that panics leaves the pool idle, and one that falls short of threads has it locked. -/
  stands : ∀ message, event.reply = some (.panicked message) → event.after.lifecycle = .idle
  locks : event.reply = none → event.after.lifecycle = .locked

/-- A wait begins. Unless another one has the pool in its hands, it gets it, with the run that goes on. -/
structure Event.Enters (event : Event ι σ) (thread : ThreadId) : Prop where
  shuts : (event.after.activity thread).shuts = true ↔ event.before.lifecycle ≠ .shuttingDown
  takes : event.before.lifecycle.run?
    = ((event.after.activity thread).shutdown?.map (·.run))

/-- How starts and waits make up the life of a pool. -/
structure Succession (events : List (Event ι σ)) (pool : PoolSystem ι σ) : Prop where
  single : ∀ first second, (pool.activity first).shuts = true →
    (pool.activity second).shuts = true → first = second
  shutting : pool.lifecycle = .shuttingDown ↔ ∃ thread, (pool.activity thread).shuts = true
  locked : pool.lifecycle = .locked ↔ ∃ thread, (pool.activity thread).calledOff?.isSome = true
  enters : ∀ event ∈ events, ∀ thread, event.move = .begin thread .wait → event.Enters thread
  /-- A wait has the pool in its hands until it makes it idle again, and then returns its report, unless it
  has panicked. -/
  leaves : ∀ event ∈ events, ∀ thread, (event.before.activity thread).shuts = true →
    (event.after.activity thread).shuts = true ∨ event.move = .proceed thread ∧
      event.before.lifecycle = .shuttingDown ∧ event.after.lifecycle = .idle ∧
        ((∃ report, event.reply = some (.report report)) ∨
          ∃ message, event.before.activity thread = .unwinding message ∧
            event.reply = some (.panicked message))
  /-- A wait panics only for a grace period that is needed and whose end the clock cannot tell. -/
  panics : ∀ event ∈ events, ∀ thread message, event.after.activity thread = .unwinding message →
    event.before.activity thread = .unwinding message ∨ message = Duration.overflowText ∧
      ∃ shutdown, event.before.activity thread = .forcing shutdown ∧ shutdown.remaining ≠ 0 ∧
        (event.before.run shutdown.run).config.gracePeriod.fits event.now = false
  /-- A start that calls its run off has the pool locked until the workers of the run have ended. -/
  fails : ∀ event ∈ events, ∀ thread, ∀ run ∈ (event.before.activity thread).calledOff?,
    run ∈ (event.after.activity thread).calledOff? ∨ event.move = .proceed thread ∧
      event.before.lifecycle = .locked ∧ event.after.lifecycle = .idle ∧
        event.after.haveAllEnded run = true ∧ ∃ error, event.reply = some (.refused (.spawnFailed error))
  resets : ∀ event ∈ events, ∀ thread report, event.move = .proceed thread →
    event.before.activity thread = .resetting report →
      event.before.lifecycle = .shuttingDown ∧ event.after.lifecycle = .idle
  distinct : (launched events).Nodup
  once : (taken events).Nodup
  started : (taken events).Sublist (launched events)
  starts : ∀ event ∈ events, ∀ thread config shortage,
    event.move = .begin thread (.start config shortage) → event.Starts config shortage

variable {pool after : PoolSystem ι σ} {now : Instant} {move : Move ι σ}
  {use : Channel.Use (Envelope ι)} {reply : Option (Reply ι)} {events : List (Event ι σ)}

theorem filterMap_append_single {β : Type} (label : Event ι σ → Option β) (event : Event ι σ) :
    (events ++ [event]).filterMap label = events.filterMap label ++ (label event).toList := by
  cases named : label event <;> simp [named]

theorem sublist_filterMap_or {β : Type} {label other : Event ι σ → Option β}
    (events : List (Event ι σ)) :
    (events.filterMap label).Sublist (events.filterMap fun event => (label event).or (other event)) := by
  induction events with
  | nil => exact List.Sublist.slnil
  | cons event rest ih =>
      cases named : label event with
      | some result => simpa [List.filterMap_cons, named] using ih
      | none =>
          cases also : other event with
          | some result => simpa [List.filterMap_cons, named, also] using ih.cons result
          | none => simpa [List.filterMap_cons, named, also] using ih

theorem shuts_of_claim {activity : Activity ι} (claims : .shuttingDown ∈ activity.claim?) :
    activity.shuts = true := by
  cases activity <;> first | rfl | cases claims

theorem calledOff_of_claim {activity : Activity ι} (claims : .locked ∈ activity.claim?) :
    activity.calledOff?.isSome = true := by
  cases activity <;> first | rfl | cases claims

theorem verdict_of_shuts {activity : Activity ι} (shuts : activity.shuts = true)
    (replies : activity.verdict?.isSome = true) :
    (∃ report, activity.verdict? = some (.report report)) ∨
      ∃ message, activity = .unwinding message ∧ activity.verdict? = some (.panicked message) := by
  cases activity with
  | resetting report => exact Or.inl ⟨report, rfl⟩
  | unwinding message => exact Or.inr ⟨message, rfl, rfl⟩
  | gathering => cases shuts
  | _ => cases replies

variable [Inhabited σ]

/-- What every step does is true of every event of a history. -/
theorem History.each {holds : Event ι σ → Prop} (history : History events pool)
    (each : ∀ {events : List (Event ι σ)} {pool : PoolSystem ι σ} {now : Instant} {move : Move ι σ}
      {stepped : Stepped ι σ}, History events pool → pool.perform now move = some stepped →
        holds ⟨pool, now, move, stepped.state, stepped.reply⟩) : ∀ event ∈ events, holds event := by
  refine history.induction (motive := fun events _ => ∀ event ∈ events, holds event) ?_ ?_
  · intro capacity event mem
    cases mem
  · intro events pool now move stepped past ih performed event mem
    rcases List.mem_append.mp mem with former | last
    · exact ih event former
    · cases List.mem_singleton.mp last
      exact each past performed

section Holding

/-- A thread keeps the pool in its hands until it makes it idle again. -/
theorem Transition.keeps_hold (step : Transition pool now move use after reply) {thread : ThreadId}
    {life : Lifecycle} (claims : life ∈ (pool.activity thread).claim?) :
    life ∈ (after.activity thread).claim? ∨ move = .proceed thread ∧ after.lifecycle = .idle ∧
      reply.isSome = true ∧ reply = (pool.activity thread).verdict? := by
  by_cases own : move.party = .caller thread
  · cases step with
    | reset doing | unwound doing | gathered doing =>
        cases own
        rw [doing]
        exact Or.inr ⟨rfl, rfl, rfl, rfl⟩
    | signal doing | parkSignal doing | sent doing | withdraw doing | desert doing | breakOff doing
    | drain doing | callOff doing =>
        cases own
        rw [doing] at claims
        rw [activity_turnTo, if_pos rfl]
        exact Or.inl claims
    | advance doing advance =>
        cases own
        rcases advance.shutdown with ⟨shutdown, mem, _⟩
        rw [doing, claim?_of_shuts (shuts_of_shutdown mem)] at claims
        rw [activity_turnTo, if_pos rfl, claim?_of_shuts advance.shuts]
        exact Or.inl claims
    | refuse doing | abandon doing | launch doing | fallShort doing | add doing | park doing
    | offer doing | clear doing | waitBeside doing | waitIdle _ doing | takeOver _ doing
    | interrupt doing | inspect doing | own doing | disown doing | abandonIdle doing
    | abandonRunning doing | added doing | cleared doing | putBack doing | parkBack doing
    | restored doing | joined doing =>
        cases own
        rw [doing] at claims
        cases claims
    | ignore => exact Or.inl claims
    | _ => cases own
  · rw [step.activity_of_ne own]
    exact Or.inl claims

/-- A wait panics when it needs a grace period whose end the clock cannot tell. -/
theorem Transition.panics (step : Transition pool now move use after reply) {thread : ThreadId}
    {message : String} (unwinds : after.activity thread = .unwinding message) :
    pool.activity thread = .unwinding message ∨ message = Duration.overflowText ∧
      ∃ shutdown, pool.activity thread = .forcing shutdown ∧ shutdown.remaining ≠ 0 ∧
        (pool.run shutdown.run).config.gracePeriod.fits now = false := by
  by_cases own : move.party = .caller thread
  · cases step with
    | advance doing advance =>
        cases own
        rw [activity_turnTo, if_pos rfl] at unwinds
        cases advance with
        | overflow _ waits endless | overflowUnforced _ waits endless =>
            cases unwinds
            exact Or.inr ⟨rfl, _, doing, waits, endless⟩
        | force | forgo => split at unwinds <;> cases unwinds
        | _ => cases unwinds
    | look | take | parkWorker | quit | pickUp | despair | timeOut | countOut | notify | finish
    | answer => cases own
    | ignore => exact Or.inl unwinds
    | _ =>
        cases own
        simp at unwinds
  · rw [step.activity_of_ne own] at unwinds
    exact Or.inl unwinds

/-- A pool that is shutting down or locked was so before, or a thread has just got it into its hands. -/
theorem Transition.held (step : Transition pool now move use after reply)
    (held : after.lifecycle = .shuttingDown ∨ after.lifecycle = .locked) :
    pool.lifecycle = after.lifecycle ∨ ∃ thread, after.lifecycle ∈ (after.activity thread).claim? := by
  cases step with
  | @waitIdle thread | @takeOver thread =>
      refine Or.inr ⟨thread, ?_⟩
      rw [activity_turnTo, if_pos rfl]
      rfl
  | @fallShort thread =>
      refine Or.inr ⟨thread, ?_⟩
      rw [activity_fallShort, if_pos rfl]
      rfl
  | launch | abandonRunning | reset | unwound | gathered =>
      refine absurd held ?_
      rintro (⟨⟨⟩⟩ | ⟨⟨⟩⟩)
  | advance doing advance => exact Or.inl advance.lifecycle.symm
  | _ => exact Or.inl rfl

/-- A pool is shutting down or locked only while a thread has it in its hands. -/
theorem held_of_history (history : History events pool)
    (held : pool.lifecycle = .shuttingDown ∨ pool.lifecycle = .locked) :
    ∃ thread, pool.lifecycle ∈ (pool.activity thread).claim? := by
  let Held (pool : PoolSystem ι σ) : Prop :=
    pool.lifecycle = .shuttingDown ∨ pool.lifecycle = .locked →
      ∃ thread, pool.lifecycle ∈ (pool.activity thread).claim?
  refine history.induction (motive := fun _ pool => Held pool) ?_ ?_ held
  · rintro capacity (⟨⟨⟩⟩ | ⟨⟨⟩⟩)
  · intro events pool now move stepped _ before performed held
    have step := perform_transition performed
    rcases step.held held with same | new
    · rcases before (same ▸ held) with ⟨thread, claims⟩
      rcases step.keeps_hold claims with still | ⟨_, idle, _⟩
      · exact ⟨thread, same ▸ still⟩
      · rw [idle] at held
        rcases held with ⟨⟨⟩⟩ | ⟨⟨⟩⟩
    · exact new

theorem Transition.enters {thread : ThreadId}
    (step : Transition pool now (.begin thread .wait) use after reply) :
    Event.Enters ⟨pool, now, .begin thread .wait, after, reply⟩ thread := by
  cases step with
  | waitBeside idle busy =>
      refine ⟨?_, ?_⟩
      · simp [busy, Activity.shuts, Activity.shutdown?]
      · simp [busy, Activity.shutdown?, Lifecycle.run?]
  | waitIdle span idle rest =>
      refine ⟨?_, ?_⟩
      · simp [rest, Activity.shuts]
      · simp [rest, Activity.shutdown?, Lifecycle.run?]
  | takeOver span idle runs =>
      refine ⟨?_, ?_⟩
      · simp [runs, Activity.shuts, Activity.shutdown?]
      · simp [runs, Activity.shutdown?, Lifecycle.run?]

end Holding

section Starting

/-- A start is answered by what the pool and the settings are like, and when it is refused it changes
nothing. -/
theorem starts_of_perform {thread : ThreadId} {config : PoolConfig} {shortage : Option Shortage}
    {stepped : Stepped ι σ}
    (performed : pool.perform now (.begin thread (.start config shortage)) = some stepped) :
    Event.Starts ⟨pool, now, .begin thread (.start config shortage), stepped.state, stepped.reply⟩ config
      shortage := by
  simp only [perform] at performed
  split at performed
  · rename_i able
    have idle : pool.activity thread = .idle := isIdle_iff.mp able.1
    obtain rfl := Option.some.inj performed
    have untouched : Event.Untouched ⟨pool, now, .begin thread (.start config shortage),
        (pool.turnTo thread .idle), (pool.begin now (.caller thread) (.start config shortage)).reply⟩ := by
      refine ⟨rfl, rfl, rfl, rfl, rfl, fun other => ?_⟩
      rw [activity_turnTo]
      split
      · rename_i same
        rw [← same, idle]
      · rfl
    simp only [begin, start] at untouched ⊢
    cases life : pool.lifecycle with
    | idle =>
        cases valid : config.validate with
        | error error =>
            simp only [life, valid] at untouched ⊢
            refine ⟨?_, ?_, ?_, ?_, ?_, fun _ _ => untouched, ?_, ?_⟩ <;> simp [finish, life, valid]
        | ok =>
            cases panics : panicOf? config with
            | some panic =>
                refine ⟨?_, ?_, ?_, ?_, ?_, ?_, ?_, ?_⟩ <;> simp [abandon, finish, life, valid, panics]
            | none =>
                cases short : Shortage.of? config shortage with
                | some hit =>
                    refine ⟨?_, ?_, ?_, ?_, ?_, ?_, ?_, ?_⟩ <;>
                      simp [fallShort, carryOn, life, valid, panics, short]
                | none =>
                    refine ⟨?_, ?_, ?_, ?_, ?_, ?_, ?_, ?_⟩ <;>
                      simp [launch, finish, life, valid, panics, short]
    | running | shuttingDown | locked =>
        simp only [life] at untouched ⊢
        refine ⟨?_, fun error => ?_, ?_, ?_, ?_, fun _ _ => untouched, ?_, ?_⟩
        · simp [finish, life]
        · simp [finish, life, eq_comm]
        · simp [finish, life]
        · simp [finish, life]
        · simp [finish, life]
        · simp [finish, life]
        · simp [finish, life]
  · cases performed

end Starting

section Handing

/-- The run that goes on was started, and goes on until it is taken over or the pool loses its last
owner. -/
theorem Transition.handover (step : Transition pool now move use after reply) (custody : Custody pool) :
    let event : Event ι σ := ⟨pool, now, move, after, reply⟩
    pool.lifecycle.run?.toList ++ event.launched?.toList
      = (event.taken?.or event.orphaned?).toList ++ after.lifecycle.run?.toList := by
  intro event
  simp only [event, Event.launched?, Event.taken?, Event.orphaned?]
  cases step with
  | abandon => simp [PoolSystem.abandon, PoolSystem.finish]
  | launch _ _ rest => simp [PoolSystem.launch, PoolSystem.finish, rest, Lifecycle.run?]
  | fallShort _ _ rest => simp [PoolSystem.fallShort, PoolSystem.carryOn, rest, Lifecycle.run?]
  | waitBeside _ busy => simp [busy, Lifecycle.run?]
  | waitIdle _ _ rest => simp [rest, Lifecycle.run?]
  | takeOver _ _ runs => simp [runs, Lifecycle.run?]
  | disown _ shared => simp [Nat.ne_of_gt shared]
  | abandonIdle _ last stands => simpa [last] using stands
  | abandonRunning _ last runs => simp [last, runs, Lifecycle.run?]
  | reset doing | unwound doing =>
      have shut : pool.lifecycle = .shuttingDown := custody.shut _ (by rw [doing]; rfl)
      simp [shut, Lifecycle.run?]
  | gathered doing =>
      have held : pool.lifecycle = .locked := custody.locked (by rw [doing]; rfl)
      simp [held, Lifecycle.run?]
  | advance doing advance => simp [advance.lifecycle]
  | _ => simp

/-- The runs that have been started are those that have ended and the one that goes on. -/
theorem launched_of_history (history : History events pool) :
    launched events = events.filterMap (fun event => event.taken?.or event.orphaned?)
      ++ pool.lifecycle.run?.toList := by
  let ended : Event ι σ → Option RunId := fun event => event.taken?.or event.orphaned?
  refine history.induction (motive := fun events pool =>
    launched events = events.filterMap ended ++ pool.lifecycle.run?.toList) ?_ ?_
  · intro capacity
    rfl
  · intro events pool now move stepped past ih performed
    have handover := (perform_transition performed).handover (custody_of_history past)
    rw [launched, filterMap_append_single, ← launched, ih, filterMap_append_single, List.append_assoc,
      handover, ← List.append_assoc]

theorem Transition.launches (step : Transition pool now move use after reply) {run : RunId}
    (launched : (⟨pool, now, move, after, reply⟩ : Event ι σ).launched? = some run) :
    run = pool.runs.length ∧ after.runs.length = run + 1 := by
  simp only [Event.launched?] at launched
  split at launched
  · obtain rfl := Option.some.inj launched
    cases step with
    | launch => exact ⟨rfl, List.length_append⟩
  · cases launched

/-- Every start begins a run of its own. -/
theorem distinct_of_history (history : History events pool) :
    (∀ run ∈ launched events, run < pool.runs.length) ∧ (launched events).Nodup := by
  refine history.induction (motive := fun events pool =>
    (∀ run ∈ launched events, run < pool.runs.length) ∧ (launched events).Nodup) ?_ ?_
  · intro capacity
    exact ⟨fun run mem => absurd mem List.not_mem_nil, List.nodup_nil⟩
  · intro events pool now move stepped past ih performed
    have step := perform_transition performed
    rw [launched, filterMap_append_single, ← launched]
    refine ⟨?_, ?_⟩
    · intro run mem
      rcases List.mem_append.mp mem with former | new
      · exact Nat.lt_of_lt_of_le (ih.1 run former) step.runs_length
      · rw [(step.launches (Option.mem_toList.mp new)).2]
        exact Nat.lt_succ_self run
    · rw [List.nodup_append]
      refine ⟨ih.2, ?_, ?_⟩
      · cases Event.launched? _ <;> simp
      · intro run former other new same
        have late := (step.launches (Option.mem_toList.mp new)).1
        rw [← same] at late
        exact Nat.ne_of_lt (ih.1 run former) late

end Handing

/-- **Starts and waits hand a pool over to each other**, in whatever order any number of threads call
them. -/
theorem succession_of_history (history : History events pool) : Succession events pool := by
  have custody := custody_of_history history
  have launches := launched_of_history history
  have distinct := (distinct_of_history history).2
  have started : (taken events).Sublist (launched events) := by
    rw [launches]
    exact (sublist_filterMap_or events).trans (List.sublist_append_left _ _)
  refine ⟨custody.single, ⟨?_, ?_⟩, ⟨?_, ?_⟩, ?_, ?_, ?_, ?_, ?_, distinct,
    distinct.sublist started, started, ?_⟩
  · intro shut
    rcases held_of_history history (Or.inl shut) with ⟨thread, claims⟩
    exact ⟨thread, shuts_of_claim (shut ▸ claims)⟩
  · rintro ⟨thread, shuts⟩
    exact custody.shut thread shuts
  · intro locked
    rcases held_of_history history (Or.inr locked) with ⟨thread, claims⟩
    exact ⟨thread, calledOff_of_claim (locked ▸ claims)⟩
  · rintro ⟨thread, calls⟩
    exact custody.locked (Option.get_mem calls)
  · refine history.each ?_
    intro events pool now move stepped past performed thread waits
    cases waits
    exact (perform_transition performed).enters
  · refine history.each ?_
    intro events pool now move stepped past performed thread shuts
    have shut := (custody_of_history past).shut thread shuts
    rcases (perform_transition performed).keeps_hold (claim?_of_shuts shuts) with
      still | ⟨own, idle, replies, verdict⟩
    · exact Or.inl (shuts_of_claim still)
    · refine Or.inr ⟨own, shut, idle, ?_⟩
      have answers := verdict_of_shuts shuts (verdict ▸ replies)
      rwa [← verdict] at answers
  · refine history.each ?_
    intro events pool now move stepped past performed thread message unwinds
    exact (perform_transition performed).panics unwinds
  · refine history.each ?_
    intro events pool now move stepped past performed thread run calls
    have locked := (custody_of_history past).locked calls
    rcases (perform_transition performed).fails calls with still | ⟨own, idle, ended, replies⟩
    · exact Or.inl still
    · exact Or.inr ⟨own, locked, idle, ended, replies⟩
  · refine history.each ?_
    intro events pool now move stepped past performed thread report own doing
    cases own
    have shut := (custody_of_history past).shut thread (by rw [doing]; rfl)
    have held : pool.activities.get thread = .resetting report := doing
    simp only [perform, step, proceed, held, Option.some.injEq] at performed
    exact ⟨shut, by rw [← performed]; rfl⟩
  · refine history.each ?_
    intro events pool now move stepped past performed thread config shortage starts
    cases starts
    exact starts_of_perform performed

/-- A start that gets one of two threads, and two runs. While the first one goes on, ends or has ended,
threads start the pool once more, with settings that fit and with others that do not, and wait beside each
other or for an idle pool. -/
def contested : List (Instant × Move Nat Unit) :=
  let hurried : PoolConfig := { PoolConfig.blocking 1 with gracePeriod := ⟨0⟩ }
  [.begin 3 (.start (.blocking 2) (some ⟨1, "out of threads"⟩)), .begin 2 .wait, .answer 0 () .done,
    .proceed 3, .work 0, .answer 0 () .done, .work 0, .work 0, .work 0, .proceed 3].map (0, ·)
  ++ [.begin 0 (.start hurried), .begin 1 (.start (.blocking 0)), .answer 1 () .done,
    .begin 1 .interrupt, .begin 0 .wait, .begin 1 .wait, .begin 1 (.start hurried)].map (0, ·)
  ++ List.replicate 10 (0, .proceed 0)
  ++ [.begin 2 .wait, .begin 0 (.start hurried), .begin 1 .wait, .proceed 2, .proceed 2,
    .begin 1 (.start (.blocking 0)), .begin 1 (.start hurried), .begin 2 .wait].map (0, ·)

theorem succession_of_contested :
    let events := (new none).trace contested
    let pool := (new none).follow contested
    pool.lifecycle = .shuttingDown ∧ launched events = [1, 2] ∧ taken events = [1, 2] ∧
      Succession events pool := by
  intro events pool
  refine ⟨by decide, by decide, by decide, ?_⟩
  exact succession_of_history (history_follow none contested)

/-- The pool is idle and the settings are valid, but the start panics. It leaves an idle pool that counts a
worker and has none. -/
theorem vacant_of_panic :
    let config : PoolConfig := { PoolConfig.blocking 1 with threadName := "a\x00b" }
    let pool : PoolSystem Nat Unit := new none
    let started := (pool.perform 0 (.begin 0 (.start config))).get (by decide)
    pool.lifecycle = .idle ∧ config.validate = .ok () ∧
      started.reply = some (.panicked
        "thread name may not contain interior null bytes: NulError(1, [97, 0, 98, 45, 48])") ∧
      started.state.lifecycle = .idle ∧ started.state.runningWorkers = 1 ∧
      started.state.workers = [] := by
  intro config pool started
  refine ⟨rfl, rfl, ?_, ?_, ?_, ?_⟩
  · decide
  · decide
  · decide
  · decide

end Coordination.PoolSystem
