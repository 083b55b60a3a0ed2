import Coordination.Proofs.Pool.Crew

/-!
# How a run lets its workers go

A shutdown ends in one of two ways for the workers of its run. It hears of all of them, and then none of
them is live; or it terminates the run, and then a worker that is still live leaves as soon as it looks.
So a run that is not under way any more has dismissed all its workers (`released_of_history`). That a
shutdown has heard of all workers is a matter of counting: the notices that it still expects and the
workers that have sent theirs make up the run and the notices that nobody has read (`Tallied`).
-/

namespace Coordination

namespace PoolSystem

variable {ι σ : Type}

/-- A worker is not live, or it will leave as soon as it looks. -/
def Discharged (pool : PoolSystem ι σ) (worker : Worker ι σ) : Prop :=
  (pool.run worker.run).terminated = true ∨ worker.phase.isLive = false

/-- All workers of a run are discharged. -/
def Dismissed (pool : PoolSystem ι σ) (run : RunId) : Prop :=
  ∀ worker ∈ pool.workers, worker.run = run → pool.Discharged worker

/-- The number of the workers of a run that have sent their notices. -/
def notedWorkers (pool : PoolSystem ι σ) (run : RunId) : Nat :=
  pool.workers.countP fun worker => worker.run = run && worker.phase.isNoted

/-- A number of notices of a run have not been read. -/
def Tallied (pool : PoolSystem ι σ) (run : RunId) (remaining : Nat) : Prop :=
  pool.notedWorkers run + remaining
    = (pool.run run).config.threads + (pool.run run).notices.length

/-- What a thread that shuts a run down knows about its workers. -/
def Settling (pool : PoolSystem ι σ) : Activity ι → Prop
  | .signalling shutdown _ | .offering shutdown _ _ | .watching shutdown | .listening shutdown _ =>
      pool.Tallied shutdown.run shutdown.remaining
  | .forcing shutdown => shutdown.interrupted = true ∨ pool.Dismissed shutdown.run
  | .expecting shutdown _ | .counting shutdown | .judging shutdown _ _ => pool.Dismissed shutdown.run
  | _ => True

/-- A run lets its workers go before it is over. -/
structure Released (pool : PoolSystem ι σ) : Prop where
  running : ∀ run, pool.lifecycle = .running run →
    pool.Tallied run (pool.run run).config.threads
  settling : ∀ thread, pool.Settling (pool.activity thread)
  dismissed : ∀ run, ¬pool.Underway run → pool.Dismissed run

variable {pool after : PoolSystem ι σ} {now : Instant} {move : Move ι σ}
  {use : Channel.Use (Envelope ι)} {reply : Option (Reply ι)}

section Counting

theorem notedWorkers_le (crew : Crew pool) {run : RunId} (underway : pool.Underway run) :
    pool.notedWorkers run ≤ (pool.run run).config.threads := by
  rw [← crew.size run underway]
  refine List.countP_mono_left fun worker _ noted => ?_
  exact (Bool.and_eq_true_iff.mp noted).1

/-- A run is dismissed when all its notices have been read. -/
theorem Tallied.dismissed (crew : Crew pool) {run : RunId} (underway : pool.Underway run)
    (tallied : pool.Tallied run 0) : pool.Dismissed run := by
  let own := pool.workers.filter (·.run = run)
  have size : own.length = (pool.run run).config.threads := by
    rw [← List.countP_eq_length_filter, crew.size run underway]
  have noted : own.countP (·.phase.isNoted) = pool.notedWorkers run := by
    simp [own, notedWorkers, List.countP_filter, Bool.and_comm]
  have most := notedWorkers_le crew underway
  have all : own.countP (·.phase.isNoted) = own.length := by
    unfold Tallied at tallied
    omega
  intro worker mem same
  refine Or.inr (Worker.Phase.not_isLive_of_isNoted ?_)
  exact List.countP_eq_length.mp all worker (List.mem_filter.mpr ⟨mem, decide_eq_true same⟩)

theorem isEnded_of_haveAllEnded (crew : Crew pool) {id : Nat} {worker : Worker ι σ}
    (found : pool.workers[id]? = some worker) (ended : pool.haveAllEnded worker.run = true) :
    worker.phase.isEnded = true := by
  have placed := crew.placed id worker found
  rw [haveAllEnded, List.all_eq_true] at ended
  have mine := ended worker.index (List.mem_range.mpr placed.within)
  rwa [hasEnded, ← placed.place, found] at mine

/-- A run is dismissed when the threads of all its workers have ended. -/
theorem dismissed_of_haveAllEnded (crew : Crew pool) {run : RunId}
    (ended : pool.haveAllEnded run = true) : pool.Dismissed run := by
  rintro worker mem rfl
  rcases List.getElem?_of_mem mem with ⟨id, found⟩
  have gone := isEnded_of_haveAllEnded crew found ended
  refine Or.inr ?_
  cases phase : worker.phase <;> rw [phase] at gone <;> first | rfl | cases gone

theorem dismissed_of_terminated {run : RunId} (terminated : (pool.run run).terminated = true) :
    pool.Dismissed run := by
  rintro worker _ rfl
  exact Or.inl terminated

end Counting

section Changing

theorem terminated_modifyRun (id : RunId) (change : Run → Run)
    (keeps : ∀ run, run.terminated = true → (change run).terminated = true) {run : RunId}
    (terminated : (pool.run run).terminated = true) :
    ((pool.modifyRun id change).run run).terminated = true := by
  rw [run_modifyRun]
  split
  · exact keeps _ terminated
  · exact terminated

theorem Advance.terminated {before next : Activity ι} {advanced : PoolSystem ι σ}
    (advance : Advance pool now before advanced next) {run : RunId}
    (terminated : (pool.run run).terminated = true) : (advanced.run run).terminated = true := by
  cases advance with
  | hear | expect => exact terminated_modifyRun _ _ (by intro _ same; exact same) terminated
  | force | overflow => exact terminated_modifyRun _ _ (by intro _ _; rfl) terminated
  | _ => exact terminated

theorem not_live_afterCallback (worker : Worker ι σ) (gone : worker.phase.isLive = false)
    (ending : CallbackEnding) : (worker.afterCallback ending).1.phase.isLive = false := by
  cases phase : worker.phase <;> cases ending <;>
    simp_all [Worker.afterCallback, Worker.Phase.isLive]

/-- A worker that sends its notice has one more notice to be read. -/
theorem Tallied.notify {run : RunId} {remaining id : Nat} {worker : Worker ι σ}
    (tallied : pool.Tallied run remaining) (known : run < pool.runs.length)
    (found : pool.workers[id]? = some worker) (phase : worker.phase = .notifying) :
    ((pool.modifyRun worker.run fun run =>
        { run with notices := run.notices ++ [worker.index] }).put id
          { worker with phase := .ending }).Tallied run remaining := by
  generalize made : (pool.modifyRun worker.run fun run =>
    { run with notices := run.notices ++ [worker.index] }).put id
      { worker with phase := .ending } = next
  have settings : (next.run run).config = (pool.run run).config := by
    rw [← made]
    exact (settings_modifyRun worker.run _ (by intro _; exact ⟨rfl, rfl⟩) run).1
  have counted : next.notedWorkers run
      = pool.notedWorkers run + if worker.run = run then 1 else 0 := by
    have number := countP_set_of_found found { worker with phase := .ending }
      fun worker => worker.run = run && worker.phase.isNoted
    rw [← made]
    simpa [phase, Worker.Phase.isNoted, notedWorkers, put] using number
  have unread : (next.run run).notices.length
      = (pool.run run).notices.length + if worker.run = run then 1 else 0 := by
    rw [← made]
    refine (congrArg (·.notices.length) (run_modifyRun pool worker.run run _)).trans ?_
    by_cases own : worker.run = run
    · subst own
      simp [known]
    · simp [own]
  rw [Tallied] at tallied ⊢
  rw [counted, unread, settings]
  omega

/-- A shutdown that reads a notice expects one less. -/
theorem Tallied.hear (crew : Crew pool) {run : RunId} {remaining index : Nat} {rest : List Nat}
    (tallied : pool.Tallied run remaining) (underway : pool.Underway run)
    (known : run < pool.runs.length) (sent : (pool.run run).notices = index :: rest) :
    (pool.modifyRun run fun run => { run with notices := rest }).Tallied run (remaining - 1) := by
  have most := notedWorkers_le crew underway
  have read := run_modifyRun pool run run fun run => { run with notices := rest }
  rw [if_pos ⟨rfl, known⟩] at read
  rw [Tallied, sent, List.length_cons] at tallied
  rw [Tallied, read]
  refine Eq.trans (congrArg (· + (remaining - 1)) (rfl : _ = pool.notedWorkers run)) ?_
  simp only
  omega

/-- A shutdown knows more and more about its workers. -/
theorem Advance.settling {before next : Activity ι} {advanced : PoolSystem ι σ} (crew : Crew pool)
    (advance : Advance pool now before advanced next)
    (known : ∀ shutdown ∈ before.shutdown?, shutdown.run < pool.runs.length)
    (underway : ∀ shutdown ∈ before.shutdown?, pool.Underway shutdown.run)
    (kept : ∀ shutdown ∈ before.shutdown?,
      pool.Dismissed shutdown.run → advanced.Dismissed shutdown.run)
    (settling : pool.Settling before) : advanced.Settling next := by
  cases advance with
  | signalled | listen | relisten | complete | expectAll | runOut | count | join | detach =>
      exact settling
  | @settle shutdown settled =>
      rcases settled with none | interrupted
      · rw [Settling, none] at settling
        exact Or.inr (settling.dismissed crew (underway shutdown rfl))
      · exact Or.inl interrupted
  | notice => exact Or.inl rfl
  | @hear shutdown _ _ _ sent =>
      exact Tallied.hear crew settling (underway shutdown rfl) (known shutdown rfl) sent
  | hearAll _ _ ended => exact Or.inr (dismissed_of_haveAllEnded crew ended)
  | @force shutdown =>
      have terminated : ((pool.modifyRun shutdown.run fun run =>
          { run with terminated := true }).run shutdown.run).terminated = true := by
        rw [run_modifyRun, if_pos ⟨rfl, known shutdown rfl⟩]
      split <;> exact dismissed_of_terminated terminated
  | forgo uninterrupted =>
      rcases settling with interrupted | dismissed
      · rw [uninterrupted] at interrupted
        cases interrupted
      · split <;> exact dismissed
  | @expect shutdown => exact kept shutdown rfl settling
  | overflow | overflowUnforced | judge => trivial

end Changing

variable [Inhabited σ]

section Keeping

theorem Transition.terminated (step : Transition pool now move use after reply) {run : RunId}
    (known : run < pool.runs.length) (terminated : (pool.run run).terminated = true) :
    (after.run run).terminated = true := by
  have older {next : PoolSystem ι σ} {made : Run} (more : next.runs = pool.runs ++ [made]) :
      (next.run run).terminated = true := by
    rw [run_append more, if_neg (Nat.ne_of_lt known)]
    exact terminated
  cases step with
  | launch | abandon | fallShort => exact older rfl
  | advance doing advance => exact advance.terminated terminated
  | abandonRunning | callOff => exact terminated_modifyRun _ _ (by intro _ _; rfl) terminated
  | countOut | notify | answer => exact terminated_modifyRun _ _ (by intro _ same; exact same) terminated
  | _ => exact terminated

/-- A worker that has begun to leave does not come back. -/
theorem Transition.not_live (step : Transition pool now move use after reply) {id : Nat}
    {worker changed : Worker ι σ} (found : pool.workers[id]? = some worker)
    (put : after.workers[id]? = some changed) (gone : worker.phase.isLive = false) :
    changed.phase.isLive = false := by
  by_cases own : move.party = .agent id
  · cases step with
    | look mine phase | take mine phase | parkWorker mine phase | quit mine phase | pickUp mine phase
    | despair mine phase | timeOut mine phase =>
        cases own
        cases mine.symm.trans found
        rw [phase] at gone
        cases gone
    | countOut mine | notify mine | finish mine =>
        cases own
        cases (found_put mine _).symm.trans put
        rfl
    | @answer _ _ memory ending mine =>
        cases own
        cases mine.symm.trans found
        cases (found_put mine _).symm.trans put
        exact not_live_afterCallback { worker with memory } gone ending
    | _ => cases own
  · cases (step.worker_of_ne found own).symm.trans put
    exact gone

theorem Discharged.keep {id : Nat} {worker changed : Worker ι σ} (crew : Crew pool)
    (discharged : pool.Discharged worker) (step : Transition pool now move use after reply)
    (found : pool.workers[id]? = some worker) (put : after.workers[id]? = some changed) :
    after.Discharged changed := by
  rcases discharged with terminated | gone
  · rcases step.worker_same found with ⟨other, same, run, _⟩
    cases same.symm.trans put
    refine Or.inl ?_
    rw [run]
    exact step.terminated (crew.placed id worker found).known terminated
  · exact Or.inr (step.not_live found put gone)

theorem Dismissed.keep {run : RunId} (crew : Crew pool) (dismissed : pool.Dismissed run)
    (known : run < pool.runs.length) (step : Transition pool now move use after reply) :
    after.Dismissed run := by
  rintro changed mem rfl
  rcases List.getElem?_of_mem mem with ⟨id, put⟩
  cases found : pool.workers[id]? with
  | some worker =>
      rcases step.worker_same found with ⟨other, same, own, _⟩
      cases same.symm.trans put
      exact (dismissed worker (List.mem_of_getElem? found) own.symm).keep crew step found put
  | none =>
      rcases step.worker_new found put with ⟨_, _, _, _, _, _, rfl⟩
      exact absurd known (Nat.lt_irrefl _)

/-- Only the thread that shuts a run down and the workers of the run change its tally, and they keep it
in balance. -/
theorem Tallied.keep {run : RunId} {remaining : Nat}
    (tallied : pool.Tallied run remaining) (known : run < pool.runs.length)
    (step : Transition pool now move use after reply)
    (apart : ∀ thread, move.party = .caller thread → (pool.activity thread).shutdown? = none) :
    after.Tallied run remaining := by
  have settings := step.settings known
  have balanced (noted : after.notedWorkers run = pool.notedWorkers run)
      (unread : (after.run run).notices = (pool.run run).notices) : after.Tallied run remaining := by
    rw [Tallied, noted, unread, settings.1]
    exact tallied
  have moves {id : Nat} {worker changed : Worker ι σ} (found : pool.workers[id]? = some worker)
      (put : after.workers = pool.workers.set id changed) (same : changed.run = worker.run)
      (noted : changed.phase.isNoted = worker.phase.isNoted)
      (unread : (after.run run).notices = (pool.run run).notices) :
      after.Tallied run remaining := by
    refine balanced ?_ unread
    rw [notedWorkers, put]
    exact countP_own_set found same _ fun _ => noted
  cases step with
  | launch | fallShort =>
      refine balanced ?_ ?_
      · refine (countP_of_recruit rfl run _).trans ?_
        rw [if_neg (fun both => Nat.ne_of_gt known both.1)]
        rfl
      · rw [run_append rfl, if_neg (Nat.ne_of_lt known)]
  | abandon =>
      refine balanced rfl ?_
      rw [run_append rfl, if_neg (Nat.ne_of_lt known)]
  | abandonRunning | callOff => exact balanced rfl (field_modifyRun Run.notices _ _ (by intro _; rfl) run)
  | advance doing advance =>
      rcases advance.shutdown with ⟨shutdown, mem, _⟩
      rw [← doing, apart _ rfl] at mem
      cases mem
  | look found phase =>
      refine moves found rfl (Worker.same_afterLook _ _).1 ?_ rfl
      rw [Worker.isNoted_afterLook, phase]
      rfl
  | take found phase | pickUp found phase =>
      refine moves found rfl (Worker.same_afterTake _ _).1 ?_ rfl
      rw [Worker.isNoted_afterTake, phase]
      rfl
  | parkWorker found phase | quit found phase | despair found phase | timeOut found phase
  | finish found phase => exact moves found rfl rfl (by rw [phase]; rfl) rfl
  | countOut found phase =>
      exact moves found rfl rfl (by rw [phase]; rfl) (field_modifyRun Run.notices _ _ (by intro _; rfl) run)
  | @answer _ worker memory ending found calls =>
      have noted := Worker.isNoted_afterCallback { worker with memory } calls ending
      exact moves found rfl (Worker.same_afterCallback { worker with memory } ending).1
        (noted.trans (Worker.Phase.not_isNoted_of_calls calls).symm)
        (field_modifyRun Run.notices _ _ (by intro _; rfl) run)
  | notify found phase => exact tallied.notify known found phase
  | _ => exact balanced rfl rfl

end Keeping

section Releasing

omit [Inhabited σ] in
/-- A run is under way while a thread is in the middle of its shutdown. -/
theorem underway_turnTo {thread : ThreadId} {activity : Activity ι} {shutdown : Shutdown}
    {run : RunId} (mem : activity.shutdown? = some shutdown) (same : shutdown.run = run) :
    (pool.turnTo thread activity).Underway run := by
  refine Or.inr (Or.inl ⟨thread, shutdown, ?_, same⟩)
  rw [activity_turnTo, if_pos rfl]
  exact mem

omit [Inhabited σ] in
/-- A shutdown goes on with its run until it has judged all workers or panics. -/
theorem Advance.concludes {before next : Activity ι} {advanced : PoolSystem ι σ}
    (advance : Advance pool now before advanced next) {shutdown : Shutdown}
    (doing : shutdown ∈ before.shutdown?) :
    (∃ later ∈ next.shutdown?, later.run = shutdown.run) ∨
      (∃ report index, before = .judging shutdown report index ∧ shutdown.finished[index]? = none) ∨
      before = .forcing shutdown ∧ next = .unwinding Duration.overflowText := by
  cases advance with
  | force | forgo =>
      cases doing
      refine Or.inl ⟨shutdown, ?_, rfl⟩
      split <;> rfl
  | judge report all =>
      cases doing
      exact Or.inr (Or.inl ⟨_, _, rfl, all⟩)
  | overflow | overflowUnforced =>
      cases doing
      exact Or.inr (Or.inr ⟨rfl, rfl⟩)
  | _ =>
      cases doing
      exact Or.inl ⟨_, rfl, rfl⟩

/-- A shutdown that panics has terminated its run if it was interrupted. -/
theorem Transition.terminated_of_panic (custody : Custody pool)
    (step : Transition pool now move use after reply) {thread : ThreadId} {shutdown : Shutdown}
    {message : String} (doing : pool.activity thread = .forcing shutdown)
    (panics : after.activity thread = .unwinding message) (interrupted : shutdown.interrupted = true) :
    (after.run shutdown.run).terminated = true := by
  have known := custody.begun thread shutdown (by rw [doing]; rfl)
  by_cases own : move.party = .caller thread
  · cases step with
    | advance also advance =>
        cases own
        rw [doing] at also
        subst also
        rw [activity_turnTo, if_pos rfl] at panics
        cases advance with
        | force => split at panics <;> cases panics
        | forgo uninterrupted | overflowUnforced uninterrupted =>
            cases interrupted.symm.trans uninterrupted
        | overflow =>
            refine (congrArg Run.terminated (run_modifyRun pool shutdown.run shutdown.run _)).trans ?_
            rw [if_pos ⟨rfl, known⟩]
    | look | take | parkWorker | quit | pickUp | despair | timeOut | countOut | notify | finish
    | answer => cases own
    | ignore => cases doing.symm.trans panics
    | _ =>
        cases own
        simp at panics
  · rw [step.activity_of_ne own, doing] at panics
    cases panics

/-- A run is over after its workers have been judged, after its shutdown has panicked, when the last
owner has given it up, or when those of its workers that were made have ended. -/
theorem Transition.concludes (custody : Custody pool) (step : Transition pool now move use after reply)
    {run : RunId} (underway : pool.Underway run) : after.Underway run ∨
      (∃ thread shutdown report index, pool.activity thread = .judging shutdown report index ∧
        shutdown.run = run ∧ shutdown.finished[index]? = none) ∨
      (∃ thread shutdown, pool.activity thread = .forcing shutdown ∧ shutdown.run = run ∧
        move = .proceed thread ∧ after.activity thread = .unwinding Duration.overflowText) ∨
      ((after.run run).terminated = true ∧ after.owners = 0 ∧ after.lifecycle = .idle) ∨
      after.haveAllEnded run = true := by
  rcases underway with runs | ⟨thread, shutdown, mem, same⟩ | ⟨thread, calls⟩
  · have known := custody.known run runs
    cases step with
    | takeOver _ idle also =>
        cases also.symm.trans runs
        exact Or.inl (underway_turnTo rfl rfl)
    | abandonRunning idle last also =>
        cases also.symm.trans runs
        refine Or.inr (Or.inr (Or.inr (Or.inl ⟨?_, rfl, rfl⟩)))
        refine (congrArg Run.terminated (run_modifyRun pool run run _)).trans ?_
        rw [if_pos ⟨rfl, known⟩]
    | launch _ _ rest | fallShort _ _ rest | waitIdle _ _ rest => cases rest.symm.trans runs
    | reset doing | unwound doing =>
        have shut := custody.shut _ (congrArg Activity.shuts doing)
        cases shut.symm.trans runs
    | gathered doing => cases (custody.locked (by rw [doing]; rfl)).symm.trans runs
    | advance doing advance => exact Or.inl (Or.inl (advance.lifecycle.trans runs))
    | _ => exact Or.inl (Or.inl runs)
  · by_cases own : move.party = .caller thread
    · cases step with
      | signal doing | parkSignal doing | sent doing | withdraw doing | desert doing | breakOff doing =>
          cases own
          rw [doing] at mem
          cases mem
          exact Or.inl (underway_turnTo rfl same)
      | advance doing advance =>
          cases own
          rw [doing] at mem
          rcases advance.concludes mem with
            ⟨later, also, again⟩ | ⟨report, index, judges, all⟩ | ⟨forces, panics⟩
          · exact Or.inl (underway_turnTo also (again.trans same))
          · exact Or.inr (Or.inl ⟨thread, shutdown, report, index, doing.trans judges, same, all⟩)
          · refine Or.inr (Or.inr (Or.inl ⟨thread, shutdown, doing.trans forces, same, rfl, ?_⟩))
            rw [activity_turnTo, if_pos rfl, panics]
      | look | take | parkWorker | quit | pickUp | despair | timeOut | countOut | notify | finish
      | answer => cases own
      | ignore => exact Or.inl (Or.inr (Or.inl ⟨thread, shutdown, mem, same⟩))
      | refuse doing | abandon doing | launch doing | fallShort doing | add doing | park doing
      | offer doing | clear doing | waitBeside doing | waitIdle _ doing | takeOver _ doing
      | interrupt doing | inspect doing | own doing | disown doing | abandonIdle doing
      | abandonRunning doing | added doing | cleared doing | putBack doing | parkBack doing
      | restored doing | drain doing | reset doing | unwound doing | joined doing | callOff doing
      | gathered doing =>
          cases own
          rw [doing] at mem
          cases mem
    · rw [← step.activity_of_ne own] at mem
      exact Or.inl (Or.inr (Or.inl ⟨thread, shutdown, mem, same⟩))
  · rcases step.fails calls with still | ⟨_, _, ended, _⟩
    · exact Or.inl (Or.inr (Or.inr ⟨thread, still⟩))
    · exact Or.inr (Or.inr (Or.inr (Or.inr ended)))

/-- A thread that shuts a run down goes on to know about its workers. -/
theorem Released.settling_of_transition (released : Released pool) (custody : Custody pool)
    (crew : Crew pool) (step : Transition pool now move use after reply) (thread : ThreadId) :
    after.Settling (after.activity thread) := by
  have settling := released.settling thread
  by_cases own : move.party = .caller thread
  · cases step with
    | takeOver _ idle runs =>
        cases own
        rw [activity_turnTo, if_pos rfl]
        exact released.running _ runs
    | signal doing | parkSignal doing | sent doing | withdraw doing | desert doing | breakOff doing =>
        cases own
        rw [doing] at settling
        rw [activity_turnTo, if_pos rfl]
        exact settling
    | @advance _ former _ advanced doing advance =>
        cases own
        rw [doing] at settling
        rw [activity_turnTo, if_pos rfl]
        have step : Transition pool now _ _ _ _ := .advance doing advance
        have known (shutdown : Shutdown) (mem : shutdown ∈ (pool.activity thread).shutdown?) :=
          custody.begun thread shutdown mem
        rw [doing] at known
        have underway (shutdown : Shutdown) (mem : shutdown ∈ former.shutdown?) :
            pool.Underway shutdown.run := Or.inr (Or.inl ⟨thread, shutdown, doing ▸ mem, rfl⟩)
        have dismissed (shutdown : Shutdown) (mem : shutdown ∈ former.shutdown?)
            (before : pool.Dismissed shutdown.run) : advanced.Dismissed shutdown.run := by
          have later := before.keep crew (known shutdown mem) step
          exact later
        have kept := advance.settling crew known underway dismissed settling
        exact kept
    | look | take | parkWorker | quit | pickUp | despair | timeOut | countOut | notify | finish
    | answer => cases own
    | ignore => exact settling
    | _ =>
        cases own
        simp [Settling]
  · rw [step.activity_of_ne own]
    -- The mover has nothing to do with the shutdown, since only one thread has the pool in its hands.
    have apart (shuts : (pool.activity thread).shuts = true) (other : ThreadId)
        (moves : move.party = .caller other) : (pool.activity other).shutdown? = none := by
      rw [Option.eq_none_iff_forall_not_mem]
      intro shutdown mem
      have same := custody.single thread other shuts (shuts_of_shutdown mem)
      exact own (same ▸ moves)
    have begun := custody.begun thread
    cases doing : pool.activity thread with
    | signalling shutdown | offering shutdown | watching shutdown | listening shutdown =>
        rw [doing] at settling begun apart
        exact Tallied.keep settling (begun shutdown rfl) step (apart rfl)
    | forcing shutdown =>
        rw [doing] at settling begun
        exact settling.imp_right fun dismissed => dismissed.keep crew (begun shutdown rfl) step
    | expecting shutdown | counting shutdown | judging shutdown =>
        rw [doing] at settling begun
        exact Dismissed.keep crew settling (begun shutdown rfl) step
    | _ => trivial

/-- A run begins with no notices and with workers that have not sent any. -/
theorem tallied_of_recruit (crew : Crew pool) {config : PoolConfig}
    (made : after.runs = (pool.recruit config).runs)
    (staff : after.workers = (pool.recruit config).workers) :
    after.Tallied pool.runs.length config.threads := by
  have counted := countP_of_recruit staff pool.runs.length Worker.Phase.isNoted
  have older : pool.notedWorkers pool.runs.length = 0 := by
    refine List.countP_eq_zero.mpr fun worker mem => ?_
    simp [crew.unmanned worker mem]
  rw [Tallied, run_of_recruit made, notedWorkers, counted, ← notedWorkers, older]
  simp [Worker.Phase.isNoted]

/-- Every step keeps the runs to let their workers go. -/
theorem released_of_transition (released : Released pool) (custody : Custody pool) (crew : Crew pool)
    (step : Transition pool now move use after reply) : Released after := by
  refine ⟨?_, released.settling_of_transition custody crew step, ?_⟩
  · intro run runs
    rcases step.runs runs with before | ⟨_, _, rfl, thread, config, _, rfl⟩
    · have known := custody.known run before
      rw [(step.settings known).1]
      refine (released.running run before).keep known step ?_
      intro thread _
      rw [Option.eq_none_iff_forall_not_mem]
      intro shutdown mem
      cases before.symm.trans (custody.shut thread (shuts_of_shutdown mem))
    · rw [run_launch]
      exact tallied_of_recruit crew rfl rfl
  · intro run past
    by_cases underway : pool.Underway run
    · have known := underway.known custody
      rcases step.concludes custody underway with still |
        ⟨thread, shutdown, report, index, judges, rfl, _⟩ |
        ⟨thread, shutdown, forces, rfl, _, panics⟩ | ⟨terminated, _⟩ | ended
      · exact absurd still past
      · have settling := released.settling thread
        rw [judges] at settling
        exact Dismissed.keep crew settling known step
      · have settling := released.settling thread
        rw [forces] at settling
        rcases settling with interrupted | dismissed
        · exact dismissed_of_terminated (step.terminated_of_panic custody forces panics interrupted)
        · exact dismissed.keep crew known step
      · exact dismissed_of_terminated terminated
      · exact dismissed_of_haveAllEnded (crew_of_transition custody crew step) ended
    · rintro changed mem rfl
      rcases List.getElem?_of_mem mem with ⟨id, put⟩
      cases found : pool.workers[id]? with
      | some worker =>
          rcases step.worker_same found with ⟨other, same, own, _⟩
          cases same.symm.trans put
          have discharged := released.dismissed _ underway worker (List.mem_of_getElem? found) own.symm
          exact discharged.keep crew step found put
      | none =>
          rcases step.worker_new found put with
            ⟨_, _, ⟨_, _, runs | ⟨thread, error, calls⟩⟩, _, _, _, rfl⟩
          · exact absurd (Or.inl runs) past
          · exact absurd (Or.inr (Or.inr ⟨thread, by rw [calls]; rfl⟩)) past

/-- A run that is not under way has dismissed its workers, after every past. -/
theorem released_of_history {events : List (Event ι σ)} (history : History events pool) :
    Released pool := by
  refine history.induction (motive := fun _ pool => Released pool) ?_ ?_
  · intro capacity
    refine ⟨?_, ?_, ?_⟩
    · rintro run ⟨⟩
    · exact fun thread => trivial
    · rintro run _ worker ⟨⟩
  · intro events pool now move stepped history released performed
    exact released_of_transition released (custody_of_history history) (crew_of_history history)
      (perform_transition performed)

end Releasing

end PoolSystem

end Coordination
