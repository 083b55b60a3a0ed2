import Coordination.Proofs.Pool.Life
import Coordination.Proofs.Pool.Succession
import Coordination.Proofs.Pool.Trust

/-!
# The counts of a run are its own

All runs of a pool share its queue, and the workers of an earlier run may go on while a later one is under
way. What can be seen of the counts is nevertheless the later run's alone (`isolated_of_history`): its
counts tell what its own callbacks have done, and it counts those of its own workers that have not counted
themselves out.

A worker reaches the state of no run but its own, so its steps are a frame for all other runs
(`Transition.run_of_agent`), and those of callers leave all counts alone (`Transition.running_of_caller`).

The one way for a pool to lose sight of its last run without a new one is a start that misfires: it panics,
or it falls short of threads. The counts that can be seen then are those of a run that was never started
(`blinded_of_misfire`).
-/

namespace Coordination.PoolSystem

variable {ι σ : Type}

/-- Whether a step is made by a worker of a run. -/
def Event.within (event : Event ι σ) (run : RunId) : Bool :=
  match event.move.party with
  | .agent id => event.before.workers[id]?.any (·.run = run)
  | .caller _ => false

/-- Whether a step is a start that is not refused and does not succeed: it panics, or it falls short of
threads. -/
def Event.misfires (event : Event ι σ) : Bool :=
  match event.move, event.reply with
  | .begin _ (.start _ _), some (.panicked _) => true
  | .begin _ (.start _ _), none => true
  | _, _ => false

/-- The calls of callbacks that have ended in a run. -/
def callsIn (events : List (Event ι σ)) (run : RunId) : List (Worker.Call ι σ) :=
  (events.filter (·.within run)).filterMap Event.call?

/-- What a list of calls comes to. -/
def tally (calls : List (Worker.Call ι σ)) : PoolStats where
  processed := calls.countP (·.succeeds)
  failed := calls.countP (·.fails)
  initFailures := calls.countP (·.aborts)

/-- The number of workers of a run that have not counted themselves out. -/
def staff (pool : PoolSystem ι σ) (run : RunId) : Nat :=
  pool.workers.countP fun worker => worker.run = run && worker.phase.isCounted

/-- What a shutdown of a run does when it has not got rid of an exit signal for some time does not differ
in two states of a pool. -/
def Agrees (pool after : PoolSystem ι σ) (run : RunId) : Prop :=
  ∀ thread left, ∀ shutdown : Shutdown, shutdown.run = run →
    (after.reconsider thread shutdown left).log = (pool.reconsider thread shutdown left).log ∧
      (after.reconsider thread shutdown left).state.activity thread
        = (pool.reconsider thread shutdown left).state.activity thread

/-- A pool shows the counts of one of its runs, and workers of other runs do not change them. -/
structure Isolated (run : RunId) (events later : List (Event ι σ)) (pool : PoolSystem ι σ) : Prop where
  stats : pool.stats = tally (callsIn events run)
  running : pool.runningWorkers = pool.staff run
  apart : ∀ event ∈ later, ∀ id, event.move.party = .agent id → event.within run = false →
    event.after.stats = event.before.stats ∧
      event.after.runningWorkers = event.before.runningWorkers ∧
        Agrees event.before event.after run

variable {pool after : PoolSystem ι σ} {now : Instant} {move : Move ι σ}
  {use : Channel.Use (Envelope ι)} {reply : Option (Reply ι)} {events : List (Event ι σ)} {run : RunId}

section Sight

/-- The last run of a pool is the one whose counts it shows. -/
theorem shown_of_length (last : pool.runs.length = run + 1) :
    pool.stats = (pool.run run).stats ∧ pool.runningWorkers = (pool.run run).running := by
  have shown : pool.runs.getLast? = some (pool.run run) := by
    rw [List.getLast?_eq_getElem?, last, Nat.add_sub_cancel, PoolSystem.run,
      List.getElem?_eq_getElem (by omega), Option.getD_some]
  simp [PoolSystem.stats, runningWorkers, shown]

/-- A shutdown that has not got rid of an exit signal looks at the interrupts and at its run. -/
theorem reconsider_eq (pool : PoolSystem ι σ) (thread : ThreadId) (shutdown : Shutdown) (left : Nat) :
    ((pool.reconsider thread shutdown left).log,
        (pool.reconsider thread shutdown left).state.activity thread)
      = if 0 < pool.interrupts then ([], .watching { shutdown with interrupted := true })
        else if (pool.run shutdown.run).running = 0 then
          ([.event .debug "no live workers to receive exit signals" []], .watching shutdown)
        else ([], .signalling shutdown (left + 1)) := by
  simp only [reconsider, PoolSystem.run]
  split
  · simp [carryOn]
  · by_cases deserted : (pool.runs[shutdown.run]?.getD default).running = 0 <;>
      simp [deserted, carryOn]

theorem agrees_of_same (runs : after.run run = pool.run run)
    (interrupts : after.interrupts = pool.interrupts) : Agrees pool after run := by
  rintro thread left shutdown rfl
  rw [← Prod.mk.injEq, reconsider_eq, reconsider_eq, runs, interrupts]

end Sight

variable [Inhabited σ] {id : Nat} {worker : Worker ι σ}

section Frame

/-- The step of a worker leaves all runs but its own alone. -/
theorem Transition.run_of_agent (step : Transition pool now move use after reply)
    (found : pool.workers[id]? = some worker) (own : move.party = .agent id) :
    (worker.run ≠ run → after.run run = pool.run run) ∧ after.runs.length = pool.runs.length ∧
      after.interrupts = pool.interrupts := by
  cases step with
  | countOut mine | notify mine | answer mine =>
      cases own
      cases mine.symm.trans found
      refine ⟨?_, by simp [modifyRun], rfl⟩
      intro apart
      exact (run_modifyRun pool _ run _).trans (if_neg fun both => apart both.1)
  | look | take | parkWorker | quit | pickUp | despair | timeOut | finish =>
      exact ⟨fun _ => rfl, rfl, rfl⟩
  | _ => cases own

/-- The step of a worker changes no other worker. -/
theorem Transition.set_of_agent (step : Transition pool now move use after reply)
    (found : pool.workers[id]? = some worker) (own : move.party = .agent id) :
    ∃ changed, after.workers = pool.workers.set id changed ∧ changed.run = worker.run := by
  cases step with
  | look mine =>
      cases own
      cases mine.symm.trans found
      exact ⟨_, rfl, (Worker.same_afterLook _ _).1⟩
  | take mine | pickUp mine =>
      cases own
      cases mine.symm.trans found
      exact ⟨_, rfl, (Worker.same_afterTake _ _).1⟩
  | parkWorker mine | quit mine | despair mine | timeOut mine | countOut mine | notify mine
  | finish mine =>
      cases own
      cases mine.symm.trans found
      exact ⟨_, rfl, rfl⟩
  | @answer _ _ memory ending mine =>
      cases own
      cases mine.symm.trans found
      exact ⟨_, rfl, (Worker.same_afterCallback { worker with memory } ending).1⟩
  | _ => cases own

/-- A caller changes the count of no run that was there before, and none of its workers. -/
theorem Transition.running_of_caller (step : Transition pool now move use after reply)
    {thread : ThreadId} (own : move.party = .caller thread) (known : run < pool.runs.length) :
    (after.run run).running = (pool.run run).running ∧ after.staff run = pool.staff run := by
  have older {next : PoolSystem ι σ} {made : Run} (more : next.runs = pool.runs ++ [made]) :
      (next.run run).running = (pool.run run).running := by
    rw [run_append more, if_neg (Nat.ne_of_lt known)]
  cases step with
  | launch | fallShort =>
      refine ⟨older rfl, (countP_of_recruit rfl _ _).trans ?_⟩
      rw [if_neg (fun both => Nat.ne_of_lt known both.1.symm)]
      rfl
  | abandon => exact ⟨older rfl, rfl⟩
  | advance doing advance =>
      refine ⟨advance.running run, ?_⟩
      rw [staff, workers_turnTo, advance.workers, staff]
  | abandonRunning | callOff =>
      exact ⟨field_modifyRun Run.running _ _ (by intro _; rfl) run, rfl⟩
  | look | take | parkWorker | quit | pickUp | despair | timeOut | countOut | notify | finish
  | answer => cases own
  | _ => exact ⟨rfl, rfl⟩

omit [Inhabited σ] in
theorem staff_of_set {changed : Worker ι σ} (found : pool.workers[id]? = some worker)
    (put : after.workers = pool.workers.set id changed) (same : changed.run = worker.run) :
    after.staff worker.run + worker.phase.isCounted.toNat
      = pool.staff worker.run + changed.phase.isCounted.toNat := by
  have counts := countP_set_of_found found changed
    fun other => other.run = worker.run && other.phase.isCounted
  rw [← put] at counts
  cases former : worker.phase.isCounted <;> cases later : changed.phase.isCounted <;>
    simpa [staff, same, former, later] using counts

/-- A run counts one worker less when a worker of its own counts itself out, and only then. -/
theorem Transition.staff (step : Transition pool now move use after reply) (crew : Crew pool)
    (staffed : Staffed pool) (known : run < pool.runs.length) :
    after.staff run + (pool.run run).running = pool.staff run + (after.run run).running := by
  cases party : move.party with
  | caller thread =>
      rcases step.running_of_caller party known with ⟨running, staff⟩
      rw [running, staff]
  | agent id =>
      rcases step.found_of_party party with ⟨worker, found⟩
      rcases step.set_of_agent found party with ⟨changed, put, same⟩
      have short : id < pool.workers.length := (List.getElem?_eq_some_iff.mp found).1
      have changes : after.workers[id]? = some changed := by simp [put, short]
      by_cases apart : worker.run = run
      · subst apart
        have counts := staff_of_set found put same
        rcases step.exits crew found party changes with ⟨counted, _, running, _⟩ |
          ⟨before, next, less, _⟩ | ⟨before, next, running, _⟩
        · rw [counted] at counts
          omega
        · have some := staffed.running_pos found (by rw [before]; rfl)
          simp only [before, next, Worker.Phase.isCounted, Bool.toNat_true, Bool.toNat_false] at counts
          omega
        · simp only [before, next, Worker.Phase.isCounted, Bool.toNat_false] at counts
          omega
      · rw [(step.run_of_agent found party).1 apart, PoolSystem.staff, put,
          countP_own_set found same _ (fun own => absurd own apart), PoolSystem.staff]

/-- What workers of other runs do cannot be seen in a pool that shows a run. -/
theorem Transition.apart (step : Transition pool now move use after reply)
    (latest : pool.runs.length = run + 1) (own : move.party = .agent id)
    (outside : Event.within ⟨pool, now, move, after, reply⟩ run = false) :
    after.stats = pool.stats ∧ after.runningWorkers = pool.runningWorkers ∧ Agrees pool after run := by
  rcases step.found_of_party own with ⟨worker, found⟩
  have apart : worker.run ≠ run := by simpa [Event.within, own, found] using outside
  rcases step.run_of_agent found own with ⟨kept, length, interrupts⟩
  have before := shown_of_length latest
  have now := shown_of_length (length.trans latest)
  rw [before.1, before.2, now.1, now.2, kept apart]
  exact ⟨rfl, rfl, agrees_of_same (kept apart) interrupts⟩

end Frame

section Counts

omit [Inhabited σ] in
theorem callsIn_append (events more : List (Event ι σ)) (run : RunId) :
    callsIn (events ++ more) run = callsIn events run ++ callsIn more run := by
  simp [callsIn]

/-- What a step adds to the counts of a run is what the call comes to that ends with it in that run. -/
theorem Transition.tallied (step : Transition pool now move use after reply) (crew : Crew pool)
    (run : RunId) :
    let more := tally (callsIn [⟨pool, now, move, after, reply⟩] run)
    (after.run run).stats =
      { processed := (pool.run run).stats.processed + more.processed,
        failed := (pool.run run).stats.failed + more.failed,
        initFailures := (pool.run run).stats.initFailures + more.initFailures } := by
  intro more
  cases party : move.party with
  | caller thread =>
      have silent : callsIn [⟨pool, now, move, after, reply⟩] run = [] := by
        simp [callsIn, Event.within, party]
      simp only [more, silent, tally, List.countP_nil, Nat.add_zero]
      refine step.stats_same ?_ run
      rintro id memory ending rfl
      cases party
  | agent id =>
      rcases step.found_of_party party with ⟨worker, found⟩
      by_cases own : worker.run = run
      · subst own
        have calls : callsIn [⟨pool, now, move, after, reply⟩] worker.run
            = (Event.call? ⟨pool, now, move, after, reply⟩).toList := by
          cases called : Event.call? ⟨pool, now, move, after, reply⟩ <;>
            simp [callsIn, Event.within, party, found, called]
        simp only [more, calls, tally]
        exact step.stats_of_own crew found party
      · have silent : callsIn [⟨pool, now, move, after, reply⟩] run = [] := by
          simp [callsIn, Event.within, party, found, own]
        simp only [more, silent, tally, List.countP_nil, Nat.add_zero]
        rw [(step.run_of_agent found party).1 own]

/-- The counts of a run tell what its callbacks have done. -/
theorem tally_of_history (history : History events pool) (run : RunId) :
    (pool.run run).stats = tally (callsIn events run) := by
  refine history.induction (motive := fun events pool =>
    (pool.run run).stats = tally (callsIn events run)) ?_ ?_
  · intro capacity
    rfl
  · intro events pool now move stepped past ih performed
    have tallied := (perform_transition performed).tallied (crew_of_history past) run
    rw [callsIn_append, tallied, ih]
    simp [tally]

theorem Transition.launched (step : Transition pool now move use after reply)
    (launched : (⟨pool, now, move, after, reply⟩ : Event ι σ).launched? = some run) :
    run = pool.runs.length ∧ ∃ thread config, after = (pool.launch thread config).state := by
  simp only [Event.launched?] at launched
  split at launched
  · obtain rfl := Option.some.inj launched
    cases step with
    | launch => exact ⟨rfl, _, _, rfl⟩
  · cases launched

/-- A run that was started counts those of its workers that have not counted themselves out. -/
theorem running_of_history (history : History events pool) :
    ∀ run ∈ launched events, (pool.run run).running = pool.staff run := by
  refine history.induction (motive := fun events pool =>
    ∀ run ∈ launched events, (pool.run run).running = pool.staff run) ?_ ?_
  · intro capacity run mem
    cases mem
  · intro events pool now move stepped past ih performed run mem
    have step := perform_transition performed
    have crew := crew_of_history past
    rw [PoolSystem.launched, filterMap_append_single, ← PoolSystem.launched] at mem
    rcases List.mem_append.mp mem with former | new
    · have balance := step.staff crew (staffed_of_history past) ((distinct_of_history past).1 run former)
      rw [ih run former] at balance
      omega
    · rcases step.launched (Option.mem_toList.mp new) with ⟨rfl, thread, config, made⟩
      have unmanned : pool.workers.countP
          (fun worker => worker.run = pool.runs.length && worker.phase.isCounted) = 0 := by
        refine List.countP_eq_zero.mpr fun worker mem => ?_
        simp [crew.unmanned worker mem]
      have staff : (pool.launch thread config).state.workers = (pool.recruit config).workers := rfl
      rw [made, run_launch, PoolSystem.staff, countP_of_recruit staff, unmanned, Nat.zero_add,
        if_pos ⟨rfl, rfl⟩]

end Counts

section Latest

variable {later : List (Event ι σ)} {final : PoolSystem ι σ}

/-- Only a start makes a run, be it that it misfires. -/
theorem Transition.runs_length_eq (step : Transition pool now move use after reply)
    (older : (⟨pool, now, move, after, reply⟩ : Event ι σ).launched? = none)
    (calm : (⟨pool, now, move, after, reply⟩ : Event ι σ).misfires = false) :
    after.runs.length = pool.runs.length := by
  cases step with
  | launch => cases older
  | abandon | fallShort => cases calm
  | advance doing advance => cases advance <;> simp [modifyRun]
  | abandonRunning | callOff | countOut | notify | answer => simp [modifyRun]
  | _ => rfl

theorem latest_of_path (path : Path pool later final) (latest : pool.runs.length = run + 1)
    (last : ∀ event ∈ later, event.launched? = none)
    (calm : ∀ event ∈ later, event.misfires = false) :
    final.runs.length = run + 1 ∧ ∀ event ∈ later, event.before.runs.length = run + 1 := by
  induction path with
  | refl => exact ⟨latest, fun event mem => absurd mem List.not_mem_nil⟩
  | step path performed ih =>
      have former := ih (fun event mem => last event (List.mem_append_left _ mem))
        (fun event mem => calm event (List.mem_append_left _ mem))
      refine ⟨?_, ?_⟩
      · have same := (perform_transition performed).runs_length_eq
          (last _ (List.mem_append_right _ List.mem_cons_self))
          (calm _ (List.mem_append_right _ List.mem_cons_self))
        exact same.trans former.1
      · intro event mem
        rcases List.mem_append.mp mem with before | same
        · exact former.2 event before
        · cases List.mem_singleton.mp same
          exact former.1

end Latest

/-- **The counts that a pool shows are those of the run that was started last**, whatever workers that
earlier runs have left behind still do, until the next start begins another run or misfires. -/
theorem isolated_of_history {earlier later : List (Event ι σ)} {start : Event ι σ}
    (history : History (earlier ++ start :: later) pool) (launches : start.launched? = some run)
    (last : ∀ event ∈ later, event.launched? = none)
    (calm : ∀ event ∈ later, event.misfires = false) :
    Isolated run (earlier ++ start :: later) later pool := by
  have mem : run ∈ launched (earlier ++ start :: later) := by
    simp [launched, launches]
  rcases history with ⟨capacity, whole⟩
  rcases whole.split with ⟨before, past, path⟩
  have made : start.after.runs.length = run + 1 := by
    rcases path.head.1 with ⟨stepped, performed, same⟩
    rw [same] at launches ⊢
    exact ((perform_transition performed).launches launches).2
  rcases latest_of_path path.head.2 made last calm with ⟨latest, throughout⟩
  have shown := shown_of_length latest
  refine ⟨?_, ?_, ?_⟩
  · rw [shown.1]
    exact tally_of_history ⟨capacity, whole⟩ run
  · rw [shown.2]
    exact running_of_history ⟨capacity, whole⟩ run mem
  · have each : ∀ event ∈ earlier ++ start :: later, event.before.runs.length = run + 1 →
        ∀ id, event.move.party = .agent id → event.within run = false →
          event.after.stats = event.before.stats ∧
            event.after.runningWorkers = event.before.runningWorkers ∧
              Agrees event.before event.after run := by
      refine History.each ⟨capacity, whole⟩ ?_
      intro events pool now move stepped past performed latest id own outside
      exact (perform_transition performed).apart latest own outside
    intro event mem
    exact each event (List.mem_append_right _ (List.mem_cons_of_mem _ mem)) (throughout event mem)

/-- During the next run the straggler of the first one fails with its item and counts itself out, a start
is refused, and the worker of the run processes an item. -/
def overlapping : List (Instant × Move Nat Unit) :=
  [.begin 0 (.add 2), .answer 1 () .done, .answer 0 () (.failed "late"), .work 1, .work 1,
    .answer 0 () .done, .begin 1 (.start (.draining 2)), .work 0, .answer 1 () .done,
    .answer 0 () .done, .work 0].map (0, ·)

theorem isolated_of_overlapping :
    let earlier := (new none).trace (unattended ++ detaching)
    let idle := (new none).follow (unattended ++ detaching)
    let started := (idle.perform 0 (.begin 0 (.start (.blocking 1)))).get (by decide)
    let start : Event Nat Unit :=
      ⟨idle, 0, .begin 0 (.start (.blocking 1)), started.state, started.reply⟩
    let later := started.state.trace overlapping
    let pool := started.state.follow overlapping
    start.launched? = some 1 ∧ pool.stats = { processed := 1 } ∧ pool.runningWorkers = 1 ∧
      (pool.run 0).stats = { failed := 1 } ∧ (pool.run 0).running = 0 ∧
      Isolated 1 (earlier ++ start :: later) later pool := by
  intro earlier idle started start later pool
  have once : Path idle [start] started.state := .step .refl (Option.some_get _).symm
  have history : History (earlier ++ start :: later) pool :=
    (history_follow none _).append (once.follow overlapping)
  refine ⟨by decide, by decide, by decide, by decide, by decide, ?_⟩
  exact isolated_of_history history (by decide) (by decide) (by decide)

/-- A run has ended, and a worker has processed an item in it. -/
def concluded : List (Instant × Move Nat Unit) :=
  [.begin 0 (.start (.draining 1)), .answer 0 () .done, .begin 0 (.add 1), .work 0, .work 0,
    .answer 0 () .done, .work 0, .work 0, .answer 0 () .done, .work 0, .work 0, .work 0,
    .begin 0 .wait].map (0, ·)
  ++ List.replicate 10 (0, .proceed 0)

/-- A start that panics. -/
def panicking : List (Instant × Move Nat Unit) :=
  [(0, .begin 0 (.start { PoolConfig.blocking 1 with threadName := "a\x00b" }))]

/-- A start that gets one of two threads, whose worker ends at once. -/
def fallingShort : List (Instant × Move Nat Unit) :=
  [.begin 0 (.start (.blocking 2) (some ⟨1, "out of threads"⟩)), .proceed 0, .answer 1 () .done, .work 1,
    .answer 1 () .done, .work 1, .work 1, .work 1, .proceed 0].map (0, ·)

/-- After a start that misfires a pool shows the counts of a run that was not started, and if the start has
panicked, a worker that was never made. -/
theorem blinded_of_misfire :
    (∀ start ∈ [panicking, fallingShort],
      let events := (new none).trace (concluded ++ start)
      let pool := (new none).follow (concluded ++ start)
      History events pool ∧ launched events = [0] ∧ events.head?.bind Event.launched? = some 0 ∧
        pool.lifecycle = .idle ∧ tally (callsIn events 0) = { processed := 1 } ∧ pool.stats = {}) ∧
      let blinded := (new none).follow (concluded ++ panicking)
      blinded.staff 0 = 0 ∧ blinded.runningWorkers = 1 := by
  refine ⟨?_, ?_⟩
  · intro start listed events pool
    have shows : launched events = [0] ∧ events.head?.bind Event.launched? = some 0 ∧
        pool.lifecycle = .idle ∧ tally (callsIn events 0) = { processed := 1 } ∧ pool.stats = {} := by
      revert start
      decide
    exact ⟨history_follow none _, shows⟩
  · decide

end Coordination.PoolSystem
