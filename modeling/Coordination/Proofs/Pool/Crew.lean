import Coordination.Proofs.Pool.Custody

/-!
# The workers of a run

The workers of all runs stand in one list. Those of one run stand next to each other in the order of
their indices, as many as the run was set to, and have its mode (`crew_of_history`).
-/

namespace Coordination

namespace Worker

variable {ι σ : Type}

/-- Whether a worker has not begun to leave. -/
def Phase.isLive : Phase ι → Bool
  | .initializing | .ready | .taking | .parked _ | .processing _ | .failing _ _ => true
  | _ => false

/-- Whether a worker has sent its notice. -/
def Phase.isNoted : Phase ι → Bool
  | .ending | .ended => true
  | _ => false

theorem Phase.not_isNoted_of_calls {phase : Phase ι} (calls : phase.calls = true) :
    phase.isNoted = false := by
  cases phase <;> first | rfl | cases calls

theorem Phase.not_isLive_of_isNoted {phase : Phase ι} (noted : phase.isNoted = true) :
    phase.isLive = false := by
  cases phase <;> first | rfl | cases noted

theorem isNoted_afterTake (worker : Worker ι σ) (envelope : Option (Envelope ι)) :
    (worker.afterTake envelope).1.phase.isNoted = false := by
  rcases envelope with _ | _ | _ <;> rfl

theorem isNoted_afterLook (worker : Worker ι σ) (terminated : Bool) :
    (worker.afterLook terminated).1.phase.isNoted = false := by
  cases terminated <;> rfl

theorem isNoted_afterCallback (worker : Worker ι σ) (calls : worker.phase.calls = true)
    (ending : CallbackEnding) : (worker.afterCallback ending).1.phase.isNoted = false := by
  rcases worker with ⟨run, index, mode, memory, phase, handled⟩
  cases phase <;> cases calls <;> cases ending <;> rfl

end Worker

namespace PoolSystem

variable {ι σ : Type}

/-- Whether a run is under way: it goes on, or it is being shut down, or called off. -/
def Underway (pool : PoolSystem ι σ) (run : RunId) : Prop :=
  pool.lifecycle = .running run ∨
    (∃ thread, ∃ shutdown ∈ (pool.activity thread).shutdown?, shutdown.run = run) ∨
    ∃ thread, run ∈ (pool.activity thread).calledOff?

/-- A worker stands where its run has its place for it. -/
structure Placed (pool : PoolSystem ι σ) (id : Nat) (worker : Worker ι σ) : Prop where
  known : worker.run < pool.runs.length
  mode : worker.mode = (pool.run worker.run).config.mode
  within : worker.index < (pool.run worker.run).config.threads
  place : id = (pool.run worker.run).firstWorker + worker.index

/-- The workers of a pool belong to its runs. -/
structure Crew (pool : PoolSystem ι σ) : Prop where
  placed : ∀ id worker, pool.workers[id]? = some worker → Placed pool id worker
  size : ∀ run, pool.Underway run →
    pool.workers.countP (·.run = run) = (pool.run run).config.threads

variable {pool after : PoolSystem ι σ} {now : Instant} {move : Move ι σ}
  {use : Channel.Use (Envelope ι)} {reply : Option (Reply ι)}

/-- The number of workers with a property changes with the worker that changes. -/
theorem countP_set_of_found {id : Nat} {worker : Worker ι σ} (found : pool.workers[id]? = some worker)
    (changed : Worker ι σ) (holds : Worker ι σ → Bool) :
    (pool.workers.set id changed).countP holds + (if holds worker then 1 else 0)
      = pool.workers.countP holds + if holds changed then 1 else 0 := by
  rcases List.getElem?_eq_some_iff.mp found with ⟨short, same⟩
  have counted : (if holds worker then 1 else 0) ≤ pool.workers.countP holds := by
    split
    · rename_i own
      exact List.countP_pos_iff.mpr ⟨worker, List.mem_of_getElem? found, own⟩
    · exact Nat.zero_le _
  rw [List.countP_set short, same]
  omega

/-- A worker that counts as much as before does not change the number of those in a run that count. -/
theorem countP_own_set {id : Nat} {worker changed : Worker ι σ}
    (found : pool.workers[id]? = some worker) (same : changed.run = worker.run) {run : RunId}
    (counts : Worker.Phase ι → Bool)
    (stays : worker.run = run → counts changed.phase = counts worker.phase) :
    (pool.workers.set id changed).countP (fun worker => worker.run = run && counts worker.phase)
      = pool.workers.countP fun worker => worker.run = run && counts worker.phase := by
  have number := countP_set_of_found found changed
    fun worker => worker.run = run && counts worker.phase
  have equal : (changed.run = run && counts changed.phase : Bool)
      = (worker.run = run && counts worker.phase : Bool) := by
    rw [same]
    by_cases own : worker.run = run
    · rw [stays own]
    · simp [own]
  rw [equal] at number
  exact Nat.add_right_cancel number

/-- The next run has no workers yet. -/
theorem Crew.unmanned (crew : Crew pool) : ∀ worker ∈ pool.workers, worker.run ≠ pool.runs.length := by
  intro worker mem
  rcases List.getElem?_of_mem mem with ⟨id, found⟩
  exact Nat.ne_of_lt (crew.placed id worker found).known

theorem Underway.known (custody : Custody pool) {run : RunId} (underway : pool.Underway run) :
    run < pool.runs.length := by
  rcases underway with runs | ⟨thread, shutdown, mem, rfl⟩ | ⟨thread, calls⟩
  · exact custody.known run runs
  · exact custody.begun thread shutdown mem
  · exact custody.called thread run calls

theorem not_underway_of_idle (custody : Custody pool) (rest : pool.lifecycle = .idle) (run : RunId) :
    ¬pool.Underway run := by
  rintro (runs | ⟨thread, shutdown, mem, _⟩ | ⟨thread, calls⟩)
  · cases rest.symm.trans runs
  · cases rest.symm.trans (custody.shut thread (shuts_of_shutdown mem))
  · cases rest.symm.trans (custody.locked calls)

section Settings

/-- A change of a run keeps its settings and its place. -/
theorem settings_modifyRun (id : RunId) (change : Run → Run)
    (keeps : ∀ run, (change run).config = run.config ∧ (change run).firstWorker = run.firstWorker)
    (run : RunId) : ((pool.modifyRun id change).run run).config = (pool.run run).config ∧
      ((pool.modifyRun id change).run run).firstWorker = (pool.run run).firstWorker := by
  rw [run_modifyRun]
  split
  · exact keeps _
  · exact ⟨rfl, rfl⟩

theorem Advance.settings {before next : Activity ι} {advanced : PoolSystem ι σ}
    (advance : Advance pool now before advanced next) (run : RunId) :
    (advanced.run run).config = (pool.run run).config ∧
      (advanced.run run).firstWorker = (pool.run run).firstWorker := by
  cases advance with
  | hear | expect | force | overflow =>
      exact settings_modifyRun _ _ (by intro _; exact ⟨rfl, rfl⟩) run
  | _ => exact ⟨rfl, rfl⟩

/-- A change of a run keeps what it does not change. -/
theorem field_modifyRun {β : Type} (field : Run → β) (id : RunId) (change : Run → Run)
    (keeps : ∀ run, field (change run) = field run) (run : RunId) :
    field ((pool.modifyRun id change).run run) = field (pool.run run) := by
  rw [run_modifyRun]
  split
  · exact keeps _
  · rfl

theorem stats_append {next : PoolSystem ι σ} {made : Run} (more : next.runs = pool.runs ++ [made])
    (fresh : made.stats = {}) (run : RunId) : (next.run run).stats = (pool.run run).stats := by
  rw [run_append more]
  split
  · rename_i same
    rw [fresh, same, PoolSystem.run, List.getElem?_eq_none (Nat.le_refl _)]
    rfl
  · rfl

theorem Advance.stats {before next : Activity ι} {advanced : PoolSystem ι σ}
    (advance : Advance pool now before advanced next) (run : RunId) :
    (advanced.run run).stats = (pool.run run).stats := by
  cases advance with
  | hear | expect | force | overflow => exact field_modifyRun Run.stats _ _ (by intro _; rfl) run
  | _ => rfl

theorem stats_count_put {worker : Worker ι σ} (short : worker.run < pool.runs.length)
    (ending : CallbackEnding) (id : Nat) (changed : Worker ι σ) (run : RunId) :
    (((pool.modifyRun worker.run fun run =>
        { run with stats := worker.count ending run.stats }).put id changed).run run).stats
      = if worker.run = run then worker.count ending (pool.run run).stats
        else (pool.run run).stats := by
  refine (congrArg Run.stats (run_modifyRun pool worker.run run _)).trans ?_
  by_cases mine : worker.run = run
  · rw [if_pos ⟨mine, short⟩, if_pos mine]
  · rw [if_neg (fun both => mine both.1), if_neg mine]

end Settings

variable [Inhabited σ]

theorem run_of_recruit {next : PoolSystem ι σ} {config : PoolConfig}
    (made : next.runs = (pool.recruit config).runs) :
    next.run pool.runs.length
      = { config, firstWorker := pool.workers.length, running := config.threads } :=
  (run_append made _).trans (if_pos rfl)

theorem run_launch (pool : PoolSystem ι σ) (thread : ThreadId) (config : PoolConfig) :
    (pool.launch thread config).state.run pool.runs.length
      = { config, firstWorker := pool.workers.length, running := config.threads } :=
  run_of_recruit rfl

/-- A new run adds its workers to those that count. -/
theorem countP_of_recruit {next : PoolSystem ι σ} {config : PoolConfig}
    (made : next.workers = (pool.recruit config).workers) (run : RunId)
    (counts : Worker.Phase ι → Bool) :
    next.workers.countP (fun worker => worker.run = run && counts worker.phase)
      = pool.workers.countP (fun worker => worker.run = run && counts worker.phase)
        + if pool.runs.length = run ∧ counts .initializing = true then config.threads else 0 := by
  rw [made]
  refine List.countP_append.trans (congrArg _ ?_)
  rw [List.countP_map]
  split
  · rename_i both
    rw [List.countP_eq_length.mpr, List.length_range]
    intro index _
    simp [both]
  · rename_i apart
    rw [List.countP_eq_zero]
    intro index _
    simpa using apart

/-- A run keeps its settings and its place. -/
theorem Transition.settings (step : Transition pool now move use after reply) {run : RunId}
    (known : run < pool.runs.length) : (after.run run).config = (pool.run run).config ∧
      (after.run run).firstWorker = (pool.run run).firstWorker := by
  have older {next : PoolSystem ι σ} {made : Run} (more : next.runs = pool.runs ++ [made]) :
      next.run run = pool.run run := by
    rw [run_append more, if_neg (Nat.ne_of_lt known)]
  cases step with
  | launch | abandon | fallShort =>
      rw [older rfl]
      exact ⟨rfl, rfl⟩
  | advance doing advance => exact advance.settings run
  | abandonRunning | callOff | countOut | notify | answer =>
      exact settings_modifyRun _ _ (by intro _; exact ⟨rfl, rfl⟩) run
  | _ => exact ⟨rfl, rfl⟩

/-- Only the end of a callback changes the counts of a run. -/
theorem Transition.stats_same (step : Transition pool now move use after reply)
    (silent : ∀ id memory ending, move ≠ .answer id memory ending) (run : RunId) :
    (after.run run).stats = (pool.run run).stats := by
  cases step with
  | launch | abandon | fallShort => exact stats_append rfl rfl run
  | advance doing advance => exact advance.stats run
  | abandonRunning | callOff | countOut | notify =>
      exact field_modifyRun Run.stats _ _ (by intro _; rfl) run
  | answer => exact absurd rfl (silent _ _ _)
  | _ => rfl

/-- A step changes one worker, or makes some, or leaves them alone. -/
theorem Transition.workers_cases (step : Transition pool now move use after reply) :
    after.workers = pool.workers ∨
      (∃ id worker changed, pool.workers[id]? = some worker ∧
        after.workers = pool.workers.set id changed ∧ changed.run = worker.run) ∨
      ∃ config, pool.lifecycle = .idle ∧ after.workers = (pool.recruit config).workers := by
  cases step with
  | launch _ _ rest | fallShort _ _ rest => exact Or.inr (Or.inr ⟨_, rest, rfl⟩)
  | advance doing advance => exact Or.inl advance.workers
  | look found => exact Or.inr (Or.inl ⟨_, _, _, found, rfl, (Worker.same_afterLook _ _).1⟩)
  | take found | pickUp found =>
      exact Or.inr (Or.inl ⟨_, _, _, found, rfl, (Worker.same_afterTake _ _).1⟩)
  | parkWorker found | quit found | despair found | timeOut found | countOut found | notify found
  | finish found => exact Or.inr (Or.inl ⟨_, _, _, found, rfl, rfl⟩)
  | @answer _ worker memory ending found =>
      refine Or.inr (Or.inl ⟨_, _, _, found, rfl, ?_⟩)
      exact (Worker.same_afterCallback { worker with memory } ending).1
  | _ => exact Or.inl rfl

/-- The number of workers in a run that was there before stays the same. -/
theorem Transition.crew_size (step : Transition pool now move use after reply) {run : RunId}
    (known : run < pool.runs.length) :
    after.workers.countP (·.run = run) = pool.workers.countP (·.run = run) := by
  rcases step.workers_cases with same | ⟨id, worker, changed, found, put, own⟩ |
    ⟨config, _, made⟩
  · rw [same]
  · have counts := countP_set_of_found found changed (·.run = run)
    rw [own] at counts
    rw [put]
    exact Nat.add_right_cancel counts
  · have none : ((List.range config.threads).map fun index =>
        ({ run := pool.runs.length, index, mode := config.mode, memory := default } :
          Worker ι σ)).countP (·.run = run) = 0 := by
      rw [List.countP_map, List.countP_eq_zero]
      intro index _
      simpa using (Nat.ne_of_lt known).symm
    rw [made]
    refine List.countP_append.trans ?_
    rw [none, Nat.add_zero]

/-- A run that is under way was under way before, or it has just been started. -/
theorem Transition.underway (step : Transition pool now move use after reply) {run : RunId}
    (underway : after.Underway run) : pool.Underway run ∨ run = pool.runs.length ∧
      ∃ config, after.runs = (pool.recruit config).runs ∧
        after.workers = (pool.recruit config).workers := by
  rcases underway with runs | ⟨thread, shutdown, mem, rfl⟩ | ⟨thread, calls⟩
  · rcases step.runs runs with before | ⟨_, _, same, thread, config, _, rfl⟩
    · exact Or.inl (Or.inl before)
    · exact Or.inr ⟨same, config, rfl, rfl⟩
  · rcases step.begins mem with ⟨former, doing, same, _⟩ | ⟨runs, _⟩
    · exact Or.inl (Or.inr (Or.inl ⟨thread, former, doing, same.symm⟩))
    · exact Or.inl (Or.inl runs)
  · rcases step.calls_off calls with before | ⟨same, config, hit, rfl⟩
    · exact Or.inl (Or.inr (Or.inr ⟨thread, before⟩))
    · exact Or.inr ⟨same, _, rfl, rfl⟩

theorem Placed.keep {id : Nat} {worker changed : Worker ι σ} (placed : Placed pool id worker)
    (step : Transition pool now move use after reply) (run : changed.run = worker.run)
    (index : changed.index = worker.index) (mode : changed.mode = worker.mode) :
    Placed after id changed := by
  have settings := step.settings placed.known
  refine ⟨?_, ?_, ?_, ?_⟩
  · rw [run]
    exact Nat.lt_of_lt_of_le placed.known step.runs_length
  · rw [mode, run, settings.1]
    exact placed.mode
  · rw [index, run, settings.1]
    exact placed.within
  · rw [index, run, settings.2]
    exact placed.place

/-- Every step keeps the workers in their places. -/
theorem crew_of_transition (custody : Custody pool) (crew : Crew pool)
    (step : Transition pool now move use after reply) : Crew after := by
  constructor
  · intro id worker found
    cases former : pool.workers[id]? with
    | some old =>
        rcases step.worker_same former with ⟨changed, put, run, index, mode⟩
        cases put.symm.trans found
        exact (crew.placed id old former).keep step run index mode
    | none =>
        rcases step.worker_new former found with
          ⟨config, _, ⟨made, _⟩, index, place, within, rfl⟩
        have fresh := run_of_recruit made
        refine ⟨?_, ?_, ?_, ?_⟩
        · rw [made]
          simp [recruit]
        · rw [fresh]
        · rw [fresh]
          exact within
        · rw [fresh]
          exact place
  · intro run underway
    rcases step.underway underway with before | ⟨rfl, config, made, staff⟩
    · have known := before.known custody
      rw [step.crew_size known, (step.settings known).1]
      exact crew.size run before
    · have older : pool.workers.countP (·.run = pool.runs.length) = 0 := by
        refine List.countP_eq_zero.mpr fun worker mem => ?_
        simpa using crew.unmanned worker mem
      rw [run_of_recruit made, staff]
      simp [recruit, older, List.countP_map, Function.comp_def]

/-- The workers of a pool belong to its runs after every past. -/
theorem crew_of_history {events : List (Event ι σ)} (history : History events pool) :
    Crew pool := by
  refine history.induction (motive := fun _ pool => Crew pool) ?_ ?_
  · intro capacity
    refine ⟨?_, ?_⟩
    · rintro id worker ⟨⟩
    · rintro run (runs | ⟨thread, shutdown, ⟨⟩, _⟩ | ⟨thread, ⟨⟩⟩)
      cases runs
  · intro events pool now move stepped history crew performed
    exact crew_of_transition (custody_of_history history) crew (perform_transition performed)

end PoolSystem

end Coordination
