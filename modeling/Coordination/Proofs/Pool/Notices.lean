import Coordination.Proofs.Pool.Isolation
import Coordination.Proofs.Pool.Release

/-!
# The notices of a run

A worker sends one notice, and a shutdown marks the worker when it reads it. So a worker has sent its
notice if and only if the notice waits or the worker is marked, and no notice waits twice or is from a
worker that is marked (`Recorded`). This is why every notice that a shutdown reads marks one worker more,
and why a shutdown that will get no more notices has marked all workers (`tracked_of_history`).

A shutdown that was not interrupted stops listening only when all workers are marked, and so it never
leaves one of them to itself (`Activity.Decided`), nor does it need a grace period
(`interrupted_of_panic`).
-/

namespace Coordination.PoolSystem

variable {ι σ : Type}

/-- The workers of a run are marked whose notices have been read. -/
structure Recorded (pool : PoolSystem ι σ) (run : RunId) (finished : List Bool) : Prop where
  size : finished.length = (pool.run run).config.threads
  sent : ∀ (id : Nat) (worker : Worker ι σ), pool.workers[id]? = some worker → worker.run = run →
    (worker.phase.isNoted = true ↔
      worker.index ∈ (pool.run run).notices ∨ finished[worker.index]? = some true)
  once : (pool.run run).notices.Nodup
  unread : ∀ index ∈ (pool.run run).notices, finished[index]? = some false

/-- A shutdown has marked workers, and counts the others. -/
structure Kept (pool : PoolSystem ι σ) (shutdown : Shutdown) : Prop where
  recorded : pool.Recorded shutdown.run shutdown.finished
  count : shutdown.remaining = shutdown.finished.count false
  tallied : pool.Tallied shutdown.run shutdown.remaining

/-- A shutdown has stopped listening because it was interrupted, or because all workers are marked. -/
def Activity.Decided : Activity ι → Prop
  | .forcing shutdown | .expecting shutdown _ | .counting shutdown =>
      shutdown.interrupted = false → shutdown.remaining = 0
  | .judging shutdown report _ =>
      report.interrupted = shutdown.interrupted ∧
        (shutdown.interrupted = false → shutdown.remaining = 0 ∧ report.stragglers = 0)
  | .draining report _ | .resetting report => report.interrupted = false → report.stragglers = 0
  | _ => True

/-- The notices of a pool are in order. -/
structure Noticed (pool : PoolSystem ι σ) : Prop where
  running : ∀ run, pool.lifecycle = .running run →
    pool.Recorded run (List.replicate (pool.run run).config.threads false)
  kept : ∀ thread, ∀ shutdown ∈ (pool.activity thread).shutdown?, pool.Kept shutdown
  decided : ∀ thread, (pool.activity thread).Decided

/-- A worker of a run sends its notice, or no notice and no worker of the run is concerned. -/
inductive Notifies (pool after : PoolSystem ι σ) (run : RunId) : Prop where
  | sent {sender : Nat} {worker : Worker ι σ} (found : pool.workers[sender]? = some worker)
      (own : worker.run = run) (quiet : worker.phase.isNoted = false)
      (notices : (after.run run).notices = (pool.run run).notices ++ [worker.index])
      (sends : ∀ changed, after.workers[sender]? = some changed → changed.phase.isNoted = true)
      (others : ∀ id, id ≠ sender → ∀ former, pool.workers[id]? = some former →
        after.workers[id]? = some former)
  | still (notices : (after.run run).notices = (pool.run run).notices)
      (same : ∀ (id : Nat) (former changed : Worker ι σ), pool.workers[id]? = some former →
        after.workers[id]? = some changed → former.run = run →
          changed.phase.isNoted = former.phase.isNoted)

/-- What a shutdown knows about the workers of its run is right. -/
structure Tracked (pool : PoolSystem ι σ) (shutdown : Shutdown) : Prop where
  size : shutdown.finished.length = (pool.run shutdown.run).config.threads
  remaining : shutdown.remaining = shutdown.finished.count false
  /-- A worker that is marked has counted itself out and sent its notice. -/
  marked : ∀ worker ∈ pool.workers, worker.run = shutdown.run →
    shutdown.finished[worker.index]? = some true → worker.phase.isNoted = true
  /-- A notice that can be read is from a worker of the run that is not marked. -/
  notice : ∀ next index, pool.notice? shutdown.run = some (next, some index) →
    index < (pool.run shutdown.run).config.threads ∧ shutdown.finished[index]? = some false ∧
      0 < shutdown.remaining
  /-- When no more notices can come, none is expected. -/
  silence : ∀ next, pool.notice? shutdown.run = some (next, none) → shutdown.remaining = 0

variable {pool after advanced : PoolSystem ι σ} {now : Instant} {move : Move ι σ}
  {use : Channel.Use (Envelope ι)} {reply : Option (Reply ι)} {run : RunId} {finished : List Bool}
  {shutdown later : Shutdown} {before next : Activity ι}

section Reading

theorem Recorded.congr (recorded : pool.Recorded run finished) (workers : after.workers = pool.workers)
    (config : (after.run run).config = (pool.run run).config)
    (notices : (after.run run).notices = (pool.run run).notices) : after.Recorded run finished := by
  refine ⟨?_, ?_, ?_, ?_⟩
  · rw [config]
    exact recorded.size
  · rw [workers, notices]
    exact recorded.sent
  · rw [notices]
    exact recorded.once
  · rw [notices]
    exact recorded.unread

theorem Kept.congr (kept : pool.Kept shutdown) (workers : after.workers = pool.workers)
    (config : (after.run shutdown.run).config = (pool.run shutdown.run).config)
    (notices : (after.run shutdown.run).notices = (pool.run shutdown.run).notices) :
    after.Kept shutdown := by
  refine ⟨kept.recorded.congr workers config notices, kept.count, ?_⟩
  rw [Tallied, notedWorkers, workers, config, notices]
  exact kept.tallied

/-- The first notice is read, and its worker is marked. -/
theorem Recorded.noted {index : Nat} {rest : List Nat} (recorded : pool.Recorded run finished)
    (known : run < pool.runs.length) (sent : (pool.run run).notices = index :: rest) :
    (pool.modifyRun run fun run => { run with notices := rest }).Recorded run
      (finished.set index true) := by
  have read := run_modifyRun pool run run fun run => { run with notices := rest }
  rw [if_pos ⟨rfl, known⟩] at read
  have fresh := recorded.unread index (by rw [sent]; exact List.mem_cons_self)
  have short := (List.getElem?_eq_some_iff.mp fresh).1
  have once := recorded.once
  rw [sent, List.nodup_cons] at once
  refine ⟨?_, ?_, ?_, ?_⟩
  · rw [read, List.length_set]
    exact recorded.size
  · intro id worker found own
    rw [read, recorded.sent id worker found own, sent, List.mem_cons, List.getElem?_set]
    by_cases mine : index = worker.index
    · simp [← mine, short]
    · simp [mine, Ne.symm mine]
  · rw [read]
    exact once.2
  · rw [read]
    intro other mem
    have apart : index ≠ other := by
      rintro rfl
      exact once.1 mem
    rw [List.getElem?_set_ne apart]
    exact recorded.unread other (by rw [sent]; exact List.mem_cons_of_mem _ mem)

theorem count_noted {index : Nat} (fresh : finished[index]? = some false) :
    (finished.set index true).count false = finished.count false - 1 := by
  rcases List.getElem?_eq_some_iff.mp fresh with ⟨short, same⟩
  rw [List.count_set short, same]
  simp

/-- A shutdown that reads a notice goes on with its books in order. -/
theorem Kept.noted {index : Nat} {rest : List Nat} (kept : pool.Kept shutdown) (crew : Crew pool)
    (underway : pool.Underway shutdown.run) (known : shutdown.run < pool.runs.length)
    (sent : (pool.run shutdown.run).notices = index :: rest) :
    (pool.modifyRun shutdown.run fun run => { run with notices := rest }).Kept
      (shutdown.noted index) := by
  have fresh := kept.recorded.unread index (by rw [sent]; exact List.mem_cons_self)
  refine ⟨kept.recorded.noted known sent, ?_, kept.tallied.hear crew underway known sent⟩
  simp only [Shutdown.noted, count_noted fresh, kept.count]

/-- When a run has no notices, and all its threads have ended, no notice is expected. -/
theorem Kept.remaining_eq_zero (kept : pool.Kept shutdown) (crew : Crew pool)
    (underway : pool.Underway shutdown.run) (silent : (pool.run shutdown.run).notices = [])
    (ended : pool.haveAllEnded shutdown.run = true) : shutdown.remaining = 0 := by
  have noted : pool.notedWorkers shutdown.run = (pool.run shutdown.run).config.threads := by
    rw [← crew.size shutdown.run underway]
    refine List.countP_congr fun worker mem => ?_
    rw [Bool.and_eq_true, and_iff_left_iff_imp]
    intro own
    rw [decide_eq_true_eq] at own
    rcases List.getElem?_of_mem mem with ⟨id, found⟩
    have placed := crew.placed id worker found
    rw [haveAllEnded, List.all_eq_true] at ended
    have mine := ended worker.index (List.mem_range.mpr (own ▸ placed.within))
    rw [hasEnded, ← own, ← placed.place, found] at mine
    cases phase : worker.phase <;> simp_all [Worker.Phase.isEnded, Worker.Phase.isNoted]
  have tallied := kept.tallied
  rw [Tallied, noted, silent, List.length_nil] at tallied
  omega

theorem Kept.tracked (kept : pool.Kept shutdown) (crew : Crew pool)
    (underway : pool.Underway shutdown.run) : pool.Tracked shutdown := by
  refine ⟨kept.recorded.size, kept.count, ?_, ?_, ?_⟩
  · intro worker mem own marked
    rcases List.getElem?_of_mem mem with ⟨id, found⟩
    exact (kept.recorded.sent id worker found own).mpr (Or.inr marked)
  · intro next index reads
    rcases pool.notice?_cases shutdown.run with
      ⟨first, rest, sent, read⟩ | ⟨_, ⟨_, read⟩ | ⟨_, read⟩⟩
    · cases read.symm.trans reads
      have fresh := kept.recorded.unread index (by rw [sent]; exact List.mem_cons_self)
      refine ⟨?_, fresh, ?_⟩
      · rw [← kept.recorded.size]
        exact (List.getElem?_eq_some_iff.mp fresh).1
      · rw [kept.count]
        exact List.count_pos_iff.mpr (List.mem_of_getElem? fresh)
    · cases read.symm.trans reads
    · cases read.symm.trans reads
  · intro next reads
    rcases pool.notice?_cases shutdown.run with
      ⟨first, rest, _, read⟩ | ⟨silent, ⟨ended, _⟩ | ⟨_, read⟩⟩
    · cases read.symm.trans reads
    · exact kept.remaining_eq_zero crew underway silent ended
    · cases read.symm.trans reads

end Reading

section Advancing

/-- A shutdown that goes on by itself keeps its books. -/
theorem Advance.kept (crew : Crew pool) (advance : Advance pool now before advanced next)
    (known : ∀ shutdown ∈ before.shutdown?, shutdown.run < pool.runs.length)
    (underway : ∀ shutdown ∈ before.shutdown?, pool.Underway shutdown.run)
    (kept : ∀ shutdown ∈ before.shutdown?, pool.Kept shutdown) (doing : later ∈ next.shutdown?) :
    advanced.Kept later := by
  cases advance with
  | hear deadline sent | expect deadline _ sent =>
      cases doing
      exact (kept _ rfl).noted crew (underway _ rfl) (known _ rfl) sent
  | notice =>
      cases doing
      have former := kept _ rfl
      exact ⟨former.recorded.congr rfl rfl rfl, former.count, former.tallied⟩
  | @force shutdown =>
      obtain rfl : shutdown = later := by split at doing <;> exact Option.some.inj doing
      refine (kept _ rfl).congr rfl ?_ ?_
      · exact field_modifyRun Run.config _ _ (by intro _; rfl) _
      · exact field_modifyRun Run.notices _ _ (by intro _; rfl) _
  | @forgo shutdown =>
      obtain rfl : shutdown = later := by split at doing <;> exact Option.some.inj doing
      exact kept _ rfl
  | judge | overflow | overflowUnforced => cases doing
  | _ =>
      cases doing
      exact kept _ rfl

/-- A shutdown that was not interrupted finds all workers marked when it stops listening. -/
theorem Advance.decided (crew : Crew pool) (advance : Advance pool now before advanced next)
    (underway : ∀ shutdown ∈ before.shutdown?, pool.Underway shutdown.run)
    (kept : ∀ shutdown ∈ before.shutdown?, pool.Kept shutdown) (decided : before.Decided) :
    next.Decided := by
  cases advance with
  | settle settled => exact fun unaware => settled.resolve_right (by simp [unaware])
  | notice => exact fun unaware => absurd unaware (by simp)
  | hearAll deadline silent ended =>
      exact fun _ => (kept _ rfl).remaining_eq_zero crew (underway _ rfl) silent ended
  | force | forgo => split <;> exact decided
  | expect => exact fun unaware => by simp only [Shutdown.noted, decided unaware]
  | count => exact ⟨rfl, fun unaware => ⟨decided unaware, rfl⟩⟩
  | complete | expectAll | runOut | join => exact decided
  | detach report unfinished =>
      refine ⟨decided.1, fun unaware => ?_⟩
      -- There is no worker left that is not marked.
      have none := (kept _ rfl).count.symm.trans (decided.2 unaware).1
      exact absurd (List.mem_of_getElem? unfinished) (List.count_eq_zero.mp none)
  | judge => exact fun unaware => (decided.2 (decided.1 ▸ unaware)).2
  | _ => trivial

end Advancing

variable [Inhabited σ]

section Sending

/-- What a caller does that has no shutdown in the middle leaves the notices alone. -/
theorem Transition.notices_of_caller (step : Transition pool now move use after reply)
    {thread : ThreadId} (own : move.party = .caller thread) (known : run < pool.runs.length)
    (apart : (pool.activity thread).shutdown? = none) :
    (after.run run).notices = (pool.run run).notices := by
  cases step with
  | launch | fallShort | abandon => rw [run_append rfl, if_neg (Nat.ne_of_lt known)]
  | advance doing advance =>
      cases own
      rcases advance.shutdown with ⟨shutdown, mem, _⟩
      rw [← doing, apart] at mem
      cases mem
  | abandonRunning | callOff => exact field_modifyRun Run.notices _ _ (by intro _; rfl) run
  | look | take | parkWorker | quit | pickUp | despair | timeOut | countOut | notify | finish
  | answer => cases own
  | _ => rfl

/-- What others than its shutdown can do with the notices of a run. -/
theorem Transition.notifies (step : Transition pool now move use after reply) (crew : Crew pool)
    (known : run < pool.runs.length)
    (apart : ∀ thread, move.party = .caller thread → (pool.activity thread).shutdown? = none) :
    Notifies pool after run := by
  cases party : move.party with
  | caller thread =>
      refine .still (step.notices_of_caller party known (apart thread party)) ?_
      intro id former changed found put _
      cases (step.worker_of_ne found (by simp [party])).symm.trans put
      rfl
  | agent sender =>
      rcases step.found_of_party party with ⟨worker, mine⟩
      rcases step.worker_same mine with ⟨moved, here, _⟩
      have others (id : Nat) (other : id ≠ sender) (former : Worker ι σ)
          (found : pool.workers[id]? = some former) : after.workers[id]? = some former :=
        step.worker_of_ne found (by simpa [party] using Ne.symm other)
      -- As long as the worker that moves sends nothing, no worker of the run does.
      have still (notices : (after.run run).notices = (pool.run run).notices)
          (noted : worker.run = run → moved.phase.isNoted = worker.phase.isNoted) :
          Notifies pool after run := by
        refine .still notices fun id former changed found put own => ?_
        by_cases same : id = sender
        · subst same
          cases mine.symm.trans found
          cases here.symm.trans put
          exact noted own
        · cases (others id same former found).symm.trans put
          rfl
      by_cases own : worker.run = run
      · subst own
        rcases step.exits crew mine party here with
          ⟨_, noted, _, notices⟩ | ⟨leaving, notifying, _, notices⟩ | ⟨notifying, ending, _, notices⟩
        · exact still notices fun _ => noted
        · exact still notices fun _ => by rw [leaving, notifying]; rfl
        · refine .sent mine rfl (by rw [notifying]; rfl) notices ?_ others
          intro changed put
          cases here.symm.trans put
          rw [ending]
          rfl
      · exact still (by rw [(step.run_of_agent mine party).1 own]) fun same => absurd same own

/-- The workers of a run that was there before were there before, too. -/
theorem Transition.worker_older (step : Transition pool now move use after reply) {id : Nat}
    {changed : Worker ι σ} (put : after.workers[id]? = some changed)
    (known : changed.run < pool.runs.length) : ∃ former, pool.workers[id]? = some former ∧
      changed.run = former.run ∧ changed.index = former.index := by
  cases found : pool.workers[id]? with
  | some former =>
      rcases step.worker_same found with ⟨other, same, run, index, _⟩
      cases same.symm.trans put
      exact ⟨former, rfl, run, index⟩
  | none =>
      rcases step.worker_new found put with ⟨_, _, _, _, _, _, rfl⟩
      exact absurd known (Nat.lt_irrefl _)

omit [Inhabited σ] in
/-- A worker that has not sent its notice is not marked, and no notice of it waits. -/
theorem Recorded.fresh (recorded : pool.Recorded run finished) (crew : Crew pool) {id : Nat}
    {worker : Worker ι σ} (found : pool.workers[id]? = some worker) (own : worker.run = run)
    (quiet : worker.phase.isNoted = false) :
    worker.index ∉ (pool.run run).notices ∧ finished[worker.index]? = some false := by
  have unsent := (recorded.sent id worker found own).not.mp (by rw [quiet]; exact Bool.false_ne_true)
  rw [not_or] at unsent
  have short : worker.index < finished.length := by
    rw [recorded.size, ← own]
    exact (crew.placed id worker found).within
  refine ⟨unsent.1, ?_⟩
  rw [List.getElem?_eq_getElem short] at unsent ⊢
  simpa using unsent.2

/-- What others do keeps the marks of a run right. -/
theorem Recorded.keep (recorded : pool.Recorded run finished) (crew : Crew pool)
    (known : run < pool.runs.length) (step : Transition pool now move use after reply)
    (apart : ∀ thread, move.party = .caller thread → (pool.activity thread).shutdown? = none) :
    after.Recorded run finished := by
  have size := recorded.size.trans (congrArg PoolConfig.threads (step.settings known).1).symm
  cases step.notifies crew known apart with
  | still notices same =>
      refine ⟨size, ?_, notices ▸ recorded.once, notices ▸ recorded.unread⟩
      intro id changed put own
      rcases step.worker_older put (own ▸ known) with ⟨former, found, mine, index⟩
      rw [mine] at own
      rw [same id former changed found put own, notices, index]
      exact recorded.sent id former found own
  | @sent sender worker mine ours quiet notices sends others =>
      have fresh := recorded.fresh crew mine ours quiet
      refine ⟨size, ?_, ?_, ?_⟩
      · intro id changed put own
        rw [notices, List.mem_append, List.mem_singleton]
        rcases step.worker_older put (own ▸ known) with ⟨former, found, _, index⟩
        by_cases this : id = sender
        · subst this
          cases mine.symm.trans found
          simp [sends changed put, index]
        · cases (others id this former found).symm.trans put
          have apart : changed.index ≠ worker.index := by
            intro alike
            refine this ?_
            rw [(crew.placed id changed found).place, (crew.placed sender worker mine).place, own,
              ours, alike]
          rw [recorded.sent id changed found own]
          simp [apart]
      · rw [notices, List.nodup_append]
        refine ⟨recorded.once, List.nodup_singleton _, ?_⟩
        rintro index mem other single rfl
        rw [List.mem_singleton] at single
        exact fresh.1 (single ▸ mem)
      · intro index mem
        rw [notices, List.mem_append, List.mem_singleton] at mem
        rcases mem with waits | rfl
        · exact recorded.unread index waits
        · exact fresh.2

end Sending

section Keeping

/-- A run begins with no notices and no marks. -/
theorem recorded_of_launch (crew : Crew pool) (thread : ThreadId) (config : PoolConfig) :
    (pool.launch thread config).state.Recorded pool.runs.length
      (List.replicate config.threads false) := by
  refine ⟨?_, ?_, ?_, ?_⟩
  · rw [run_launch, List.length_replicate]
  · intro id worker found own
    rw [run_launch, List.getElem?_replicate]
    have phase : worker.phase = .initializing := by
      cases older : pool.workers[id]? with
      | some former =>
          have before : (pool.recruit config).workers[id]? = some former :=
            (List.getElem?_append_left (List.getElem?_eq_some_iff.mp older).1).trans older
          cases before.symm.trans found
          exact absurd own (crew.unmanned worker (List.mem_of_getElem? older))
      | none =>
          rcases worker_recruit older found with ⟨index, _, _, rfl⟩
          rfl
    simp [phase, Worker.Phase.isNoted]
  · rw [run_launch]
    exact List.nodup_nil
  · rw [run_launch]
    intro index mem
    cases mem

/-- What a thread does in its shutdown keeps the books. -/
theorem Noticed.kept_of_own (noticed : Noticed pool) (custody : Custody pool) (crew : Crew pool)
    (released : Released pool) (step : Transition pool now move use after reply) {thread : ThreadId}
    (own : move.party = .caller thread) (doing : later ∈ (after.activity thread).shutdown?) :
    after.Kept later := by
  have kept := noticed.kept thread
  cases step with
  | takeOver _ idle runs =>
      cases own
      rw [activity_turnTo, if_pos rfl] at doing
      cases doing
      have recorded := noticed.running _ runs
      refine ⟨recorded.congr rfl rfl rfl, ?_, released.running _ runs⟩
      rw [List.count_replicate_self]
  | signal former | parkSignal former | sent former | withdraw former | desert former =>
      cases own
      rw [activity_turnTo, if_pos rfl] at doing
      rw [former] at kept
      cases doing
      exact (kept _ rfl).congr rfl rfl rfl
  | breakOff former =>
      cases own
      rw [activity_turnTo, if_pos rfl] at doing
      rw [former] at kept
      cases doing
      have mine := kept _ rfl
      exact ⟨mine.recorded.congr rfl rfl rfl, mine.count, mine.tallied⟩
  | @advance _ before _ _ former advance =>
      cases own
      rw [activity_turnTo, if_pos rfl] at doing
      have known := custody.begun thread
      have underway (shutdown : Shutdown) (mem : shutdown ∈ before.shutdown?) :
          pool.Underway shutdown.run := Or.inr (Or.inl ⟨thread, shutdown, former ▸ mem, rfl⟩)
      rw [former] at kept known
      exact (advance.kept crew known underway kept doing).congr rfl rfl rfl
  | look | take | parkWorker | quit | pickUp | despair | timeOut | countOut | notify | finish
  | answer => cases own
  | ignore => exact kept later doing
  | _ =>
      cases own
      simp [Activity.shutdown?] at doing

/-- What a thread decides in its shutdown is right. -/
theorem Noticed.decided_of_own (noticed : Noticed pool) (crew : Crew pool)
    (step : Transition pool now move use after reply) {thread : ThreadId}
    (own : move.party = .caller thread) : (after.activity thread).Decided := by
  have decided := noticed.decided thread
  cases step with
  | waitIdle | takeOver | signal | parkSignal | sent | withdraw | desert | breakOff =>
      cases own
      rw [activity_turnTo, if_pos rfl]
      first | trivial | exact fun _ => rfl
  | @advance _ before _ _ former advance =>
      cases own
      have kept := noticed.kept thread
      have underway (shutdown : Shutdown) (mem : shutdown ∈ before.shutdown?) :
          pool.Underway shutdown.run := Or.inr (Or.inl ⟨thread, shutdown, former ▸ mem, rfl⟩)
      rw [former] at kept decided
      rw [activity_turnTo, if_pos rfl]
      exact advance.decided crew underway kept decided
  | drain former =>
      cases own
      rw [former] at decided
      rw [activity_turnTo, if_pos rfl]
      exact decided
  | look | take | parkWorker | quit | pickUp | despair | timeOut | countOut | notify | finish
  | answer => cases own
  | ignore => exact decided
  | _ =>
      cases own
      simp [Activity.Decided]

/-- Every step keeps the notices in order. -/
theorem Noticed.keep (noticed : Noticed pool) (custody : Custody pool) (crew : Crew pool)
    (released : Released pool) (step : Transition pool now move use after reply) : Noticed after := by
  refine ⟨?_, ?_, ?_⟩
  · intro run runs
    rcases step.runs runs with before | ⟨_, _, rfl, thread, config, _, rfl⟩
    · have known := custody.known run before
      rw [(step.settings known).1]
      refine (noticed.running run before).keep crew known step ?_
      intro thread _
      rw [Option.eq_none_iff_forall_not_mem]
      intro shutdown mem
      cases before.symm.trans (custody.shut thread (shuts_of_shutdown mem))
    · rw [run_launch]
      exact recorded_of_launch crew thread config
  · intro thread shutdown doing
    by_cases own : move.party = .caller thread
    · exact noticed.kept_of_own custody crew released step own doing
    · rw [step.activity_of_ne own] at doing
      have known := custody.begun thread shutdown doing
      have kept := noticed.kept thread shutdown doing
      have apart (other : ThreadId) (moves : move.party = .caller other) :
          (pool.activity other).shutdown? = none := by
        rw [Option.eq_none_iff_forall_not_mem]
        intro shutdown mem
        have same := custody.single thread other (shuts_of_shutdown doing) (shuts_of_shutdown mem)
        exact own (same ▸ moves)
      exact ⟨kept.recorded.keep crew known step apart, kept.count, kept.tallied.keep known step apart⟩
  · intro thread
    by_cases own : move.party = .caller thread
    · exact noticed.decided_of_own crew step own
    · rw [step.activity_of_ne own]
      exact noticed.decided thread

theorem noticed_of_history {events : List (Event ι σ)} (history : History events pool) :
    Noticed pool := by
  refine history.induction (motive := fun _ pool => Noticed pool) ?_ ?_
  · intro capacity
    refine ⟨?_, ?_, ?_⟩
    · rintro run ⟨⟩
    · rintro thread shutdown ⟨⟩
    · exact fun thread => trivial
  · intro events pool now move stepped past noticed performed
    exact noticed.keep (custody_of_history past) (crew_of_history past) (released_of_history past)
      (perform_transition performed)

/-- A shutdown panics only if it was interrupted: otherwise it has marked all workers before it could need
a grace period. -/
theorem interrupted_of_panic {events : List (Event ι σ)} (history : History events pool)
    (step : Transition pool now move use after reply) {thread : ThreadId} {message : String}
    (calm : (pool.activity thread).unwinds = false)
    (panics : after.activity thread = .unwinding message) :
    ∃ shutdown, pool.activity thread = .forcing shutdown ∧ shutdown.interrupted = true := by
  rcases step.panics panics with still | ⟨_, shutdown, forces, waits, _⟩
  · rw [still] at calm
    cases calm
  · have decided := (noticed_of_history history).decided thread
    rw [forces] at decided
    refine ⟨shutdown, forces, ?_⟩
    by_contra unaware
    exact waits (decided (Bool.not_eq_true _ ▸ unaware))

/-- At every point of a shutdown, what it knows about the workers is right. -/
theorem tracked_of_history {events : List (Event ι σ)} (history : History events pool)
    {thread : ThreadId} (doing : shutdown ∈ (pool.activity thread).shutdown?) :
    pool.Tracked shutdown :=
  ((noticed_of_history history).kept thread shutdown doing).tracked (crew_of_history history)
    (Or.inr (Or.inl ⟨thread, shutdown, doing, rfl⟩))

end Keeping

end Coordination.PoolSystem
