import Coordination.Proofs.Pool.Crew
import Coordination.Proofs.Pool.Parking

/-!
# Exit signals

A shutdown sends exit signals, and its final drain removes those that nobody has taken. But a thread
that clears the queue meanwhile holds some of them for a moment, outside of the queue. If it puts them
back after the final drain, they stay in the queue of an idle pool, and a worker of the next run takes
one of them and leaves. The same happens after a shutdown that panics and makes no final drain
(`stale_signal`). As long as every shutdown makes its final drain, and makes it while no thread has exit
signals to put back (`Event.Settled`), a pool that is not shutting down has no exit signals, and a run
goes on with all workers that could be initialized (`quiet_of_history`).
-/

namespace Coordination.PoolSystem

variable {ι σ : Type}

/-- Whether a thread has exit signals to put back. -/
def Activity.restores : Activity ι → Bool
  | .clearing _ (_ + 1) | .restoring _ _ => true
  | _ => false

/-- Whether a thread is about to make the final drain of a wait. -/
def Activity.drains : Activity ι → Bool
  | .draining _ _ => true
  | _ => false

/-- Whether a thread is on its way to the final drain of a wait. -/
def Activity.isShutting : Activity ι → Bool
  | .draining _ _ => true
  | activity => activity.shutdown?.isSome

/-- Whether a thread has panicked in the middle of a wait. -/
def Activity.unwinds : Activity ι → Bool
  | .unwinding _ => true
  | _ => false

/-- There are exit signals, in the queue or with parked senders or to be put back. -/
def Signalled (pool : PoolSystem ι σ) : Prop :=
  .exit ∈ pool.channel.waiting ∨ ∃ thread, (pool.activity thread).restores = true

/-- A final drain is not made while a thread has exit signals to put back, and it is not left out. -/
def Event.Settled (event : Event ι σ) : Prop :=
  ∀ thread, event.move = .proceed thread →
    (event.after.activity thread).unwinds = false ∧
      ((event.before.activity thread).drains = true →
        ∀ other, (event.before.activity other).restores = false)

/-- `Event.Settled` as a test; it is enough to look at the threads that have done something. -/
def Event.settles (event : Event ι σ) : Bool :=
  match event.move with
  | .proceed thread =>
      !(event.after.activity thread).unwinds && (!(event.before.activity thread).drains ||
        event.before.activities.rows.all fun row => !(event.before.activity row.1).restores)
  | _ => true

theorem unrestored_iff (pool : PoolSystem ι σ) :
    (pool.activities.rows.all fun row => !(pool.activity row.1).restores) = true ↔
      ∀ thread, (pool.activity thread).restores = false := by
  rw [List.all_eq_true]
  constructor
  · intro listed thread
    rcases pool.activities.get_eq_default_or_mem thread with idle | ⟨row, mem, rfl⟩
    · rw [activity, idle]
      rfl
    · simpa using listed row mem
  · intro free row _
    rw [free]
    rfl

theorem Event.settles_iff (event : Event ι σ) : event.settles = true ↔ event.Settled := by
  have everywhere := unrestored_iff event.before
  unfold settles Settled
  cases event.move with
  | proceed thread => cases drains : (event.before.activity thread).drains <;> simp [everywhere, drains]
  | _ => simp

instance (event : Event ι σ) : Decidable event.Settled :=
  decidable_of_iff _ event.settles_iff

/-- The number of the live workers of a run. -/
def liveWorkers (pool : PoolSystem ι σ) (run : RunId) : Nat :=
  pool.workers.countP fun worker => worker.run = run && worker.phase.isLive

/-- Nothing drives the workers of a run away. -/
structure Undisturbed (pool : PoolSystem ι σ) (run : RunId) : Prop where
  going : (pool.run run).terminated = false
  unsignalled : ∀ (id : Nat) worker, pool.workers[id]? = some worker → worker.run = run →
    (.agent id, .exit) ∉ pool.channel.handed
  live : (pool.run run).config.mode = .blocking →
    pool.liveWorkers run + (pool.run run).stats.initFailures = (pool.run run).config.threads

/-- There are exit signals during a shutdown only. -/
structure Quiet (pool : PoolSystem ι σ) : Prop where
  shutting : pool.Signalled → ∃ thread, (pool.activity thread).isShutting = true
  undisturbed : ∀ run, pool.lifecycle = .running run → Undisturbed pool run

variable {pool after : PoolSystem ι σ} {now : Instant} {move : Move ι σ}
  {use : Channel.Use (Envelope ι)} {reply : Option (Reply ι)}

section Signals

theorem shuts_of_isShutting {activity : Activity ι} (shutting : activity.isShutting = true) :
    activity.shuts = true := by
  cases activity <;> first | rfl | cases shutting

theorem Advance.isShutting {before next : Activity ι} {advanced : PoolSystem ι σ}
    (advance : Advance pool now before advanced next) :
    (next.isShutting = true ∨ next = .unwinding Duration.overflowText) ∧ next.restores = false := by
  cases advance with
  | force | forgo => split <;> exact ⟨Or.inl rfl, rfl⟩
  | overflow | overflowUnforced => exact ⟨Or.inr rfl, rfl⟩
  | _ => exact ⟨Or.inl rfl, rfl⟩

/-- Who has taken more envelopes than items has taken an exit signal. -/
theorem exit_mem_of_length_lt {envelopes : List (Envelope ι)}
    (fewer : (envelopes.filterMap Envelope.item?).length < envelopes.length) :
    .exit ∈ envelopes := by
  by_contra absent
  refine Nat.ne_of_lt fewer (List.filterMap_length_eq_length.mpr ?_)
  intro envelope mem
  cases envelope with
  | work item => rfl
  | exit => exact absurd mem absent

/-- A pool that is not shutting down has no exit signals. -/
theorem Quiet.not_signalled (quiet : Quiet pool) (custody : Custody pool)
    (stands : pool.lifecycle ≠ .shuttingDown) : ¬pool.Signalled := by
  intro signalled
  rcases quiet.shutting signalled with ⟨thread, shutting⟩
  exact stands (custody.shut thread (shuts_of_isShutting shutting))

end Signals

/-- Whoever fails to be initialized is counted. -/
theorem initFailures_count (worker : Worker ι σ) (memory : σ) (calls : worker.phase.calls = true)
    (ending : CallbackEnding) (stats : PoolStats) :
    (if ({ worker with memory }.afterCallback ending).1.phase.isLive then 1 else 0)
        + (worker.count ending stats).initFailures
      = (if worker.phase.isLive then 1 else 0) + stats.initFailures := by
  rcases worker with ⟨run, index, mode, former, phase, handled⟩
  cases phase <;> cases ending <;>
    simp_all [Worker.afterCallback, Worker.Phase.calls, Worker.afterItem, Worker.afterFailure,
      Worker.Phase.isLive, Worker.count, Nat.add_comm]

/-- The end of a callback makes a worker leave only if it is counted as a failure to initialize. -/
theorem live_of_answer {id : Nat} {worker : Worker ι σ} (found : pool.workers[id]? = some worker)
    (known : worker.run < pool.runs.length) (calls : worker.phase.calls = true) (memory : σ)
    (ending : CallbackEnding) (run : RunId) :
    let next := (pool.modifyRun worker.run fun run =>
      { run with stats := worker.count ending run.stats }).put id
        ({ worker with memory }.afterCallback ending).1
    next.liveWorkers run + (next.run run).stats.initFailures
      = pool.liveWorkers run + (pool.run run).stats.initFailures := by
  intro next
  have same := (Worker.same_afterCallback { worker with memory } ending).1
  have counts := countP_set_of_found found ({ worker with memory }.afterCallback ending).1
    fun worker => worker.run = run && worker.phase.isLive
  have failures := initFailures_count worker memory calls ending (pool.run run).stats
  rw [stats_count_put known]
  change next.liveWorkers run + _ = pool.liveWorkers run + _ at counts
  rw [same] at counts
  by_cases own : worker.run = run
  · simp only [decide_eq_true own, Bool.true_and] at counts
    rw [if_pos own]
    omega
  · simp only [decide_eq_false own, Bool.false_and, Bool.false_eq_true, if_false] at counts
    rw [if_neg own]
    omega

variable [Inhabited σ]

section Shutting

/-- Exit signals are put back, or a shutdown sends them. -/
theorem Transition.sends_exit (step : Transition pool now move use after reply) {party : Party}
    (sends : use = .send party .exit ∨ use = .offer party .exit) :
    ∃ thread, (pool.activity thread).restores = true ∨
      (pool.activity thread).isShutting = true ∧ (after.activity thread).isShutting = true := by
  cases step with
  | putBack doing | parkBack doing => exact ⟨_, Or.inl (congrArg Activity.restores doing)⟩
  | signal doing | parkSignal doing =>
      refine ⟨_, Or.inr ⟨congrArg Activity.isShutting doing, ?_⟩⟩
      rw [activity_turnTo, if_pos rfl]
      rfl
  | take _ _ taking => rcases taking with rfl | rfl <;> simp at sends
  | _ => simp at sends

/-- A thread that has exit signals to put back had some before, or it has just taken them out of the
queue. -/
theorem Transition.restores (step : Transition pool now move use after reply) {thread : ThreadId}
    (restores : (after.activity thread).restores = true) : pool.Signalled := by
  by_cases own : move.party = .caller thread
  · cases step with
    | @clear thread items signals idle taken held =>
        cases own
        rw [activity_turnTo, if_pos rfl] at restores
        have some : signals ≠ 0 := by
          rintro rfl
          cases restores
        rw [held, taken] at some
        refine Or.inl ?_
        rw [Channel.waiting_drain]
        exact List.mem_append_left _ (exit_mem_of_length_lt (by omega))
    | putBack doing | parkBack doing | restored doing =>
        exact Or.inr ⟨_, congrArg Activity.restores doing⟩
    | advance doing advance =>
        cases own
        rw [activity_turnTo, if_pos rfl, advance.isShutting.2] at restores
        cases restores
    | look | take | parkWorker | quit | pickUp | despair | timeOut | countOut | notify | finish
    | answer => cases own
    | ignore => exact Or.inr ⟨thread, restores⟩
    | _ =>
        cases own
        simp [Activity.restores] at restores
  · rw [step.activity_of_ne own] at restores
    exact Or.inr ⟨thread, restores⟩

/-- Exit signals were there before, or a shutdown has just sent one. -/
theorem Transition.signalled (step : Transition pool now move use after reply)
    (signalled : after.Signalled) : pool.Signalled ∨
      ∃ thread, (after.activity thread).isShutting = true := by
  rcases signalled with waits | ⟨thread, restores⟩
  · rw [step.channel] at waits
    rcases Channel.mem_waiting_after waits with older | ⟨party, sends⟩
    · exact Or.inl (Or.inl older)
    · rcases step.sends_exit sends with ⟨thread, restores | ⟨_, shutting⟩⟩
      · exact Or.inl (Or.inr ⟨thread, restores⟩)
      · exact Or.inr ⟨thread, shutting⟩
  · exact Or.inl (step.restores restores)

/-- A shutdown goes on up to its final drain, unless it panics. -/
theorem Transition.isShutting (step : Transition pool now move use after reply) {thread : ThreadId}
    (shutting : (pool.activity thread).isShutting = true) :
    (after.activity thread).isShutting = true ∨
      (∃ completed, move = .proceed thread ∧ use = .drain (.caller thread) ∧
        (pool.activity thread).drains = true ∧ after.activity thread = .resetting completed) ∨
      move = .proceed thread ∧ after.activity thread = .unwinding Duration.overflowText := by
  by_cases own : move.party = .caller thread
  · cases step with
    | drain doing =>
        cases own
        exact Or.inr (Or.inl ⟨_, rfl, rfl, congrArg Activity.drains doing,
          (activity_turnTo _ _ _ _).trans (if_pos rfl)⟩)
    | advance doing advance =>
        cases own
        rw [activity_turnTo, if_pos rfl]
        exact advance.isShutting.1.imp_right fun panics => Or.inr ⟨rfl, panics⟩
    | signal | parkSignal | sent | withdraw | desert | breakOff =>
        cases own
        rw [activity_turnTo, if_pos rfl]
        exact Or.inl rfl
    | look | take | parkWorker | quit | pickUp | despair | timeOut | countOut | notify | finish
    | answer => cases own
    | ignore => exact Or.inl shutting
    | refuse doing | abandon doing | launch doing | fallShort doing | add doing | park doing
    | offer doing | clear doing | waitBeside doing | waitIdle _ doing | takeOver _ doing
    | interrupt doing | inspect doing | own doing | disown doing | abandonIdle doing
    | abandonRunning doing | added doing | cleared doing | putBack doing | parkBack doing
    | restored doing | reset doing | unwound doing | joined doing | callOff doing | gathered doing =>
        cases own
        rw [doing] at shutting
        cases shutting
  · rw [step.activity_of_ne own]
    exact Or.inl shutting

/-- A final drain leaves no exit signals behind, unless a thread has some to put back. -/
theorem not_signalled_of_drain {thread : ThreadId} {completed : CompletionReport ι}
    (custody : Custody after) (sending : Sending after)
    (step : Transition pool now move (.drain (.caller thread)) after reply)
    (own : move.party = .caller thread) (done : after.activity thread = .resetting completed)
    (settled : ∀ other, (pool.activity other).restores = false) : ¬after.Signalled := by
  have restores (other : ThreadId) : (after.activity other).restores = false := by
    by_cases same : thread = other
    · rw [← same, done]
      rfl
    · rw [step.activity_of_ne]
      · exact settled other
      · rw [own]
        exact fun mine => same (Party.caller.inj mine)
  rintro (waits | ⟨other, has⟩)
  · have emptied : after.channel.queue.toList = [] := by
      rw [step.channel]
      rfl
    rw [Channel.waiting, emptied, List.nil_append] at waits
    rcases List.mem_map.mp waits with ⟨row, mem, exits⟩
    rcases sending.parked row mem with ⟨other, _, parks⟩
    rw [exits] at parks
    have free := restores other
    cases doing : after.activity other with
    | restoring =>
        rw [doing] at free
        cases free
    | offering =>
        have also : (after.activity other).shuts = true := by
          rw [doing]
          rfl
        have mine : (after.activity thread).shuts = true := by
          rw [done]
          rfl
        rw [custody.single other thread also mine, done] at doing
        cases doing
    | _ =>
        rw [doing] at parks
        exact parks.elim
  · rw [restores other] at has
    cases has

/-- Every step keeps exit signals to shutdowns. -/
theorem Quiet.shutting_of_transition (quiet : Quiet pool) (custody : Custody after)
    (sending : Sending after) (step : Transition pool now move use after reply)
    (settled : Event.Settled ⟨pool, now, move, after, reply⟩) (signalled : after.Signalled) :
    ∃ thread, (after.activity thread).isShutting = true := by
  rcases step.signalled signalled with before | shutting
  · rcases quiet.shutting before with ⟨thread, shutting⟩
    rcases step.isShutting shutting with
      still | ⟨completed, rfl, rfl, drains, done⟩ | ⟨rfl, panics⟩
    · exact ⟨thread, still⟩
    · have free := (settled thread rfl).2 drains
      exact absurd signalled (not_signalled_of_drain custody sending step rfl done free)
    · have goes := (settled thread rfl).1
      rw [show Event.after _ = after from rfl, panics] at goes
      cases goes
  · exact shutting

end Shutting

section Working

/-- A run that goes on is not terminated. -/
theorem Transition.going (custody : Custody pool) (step : Transition pool now move use after reply)
    {run : RunId} (before : pool.lifecycle = .running run) (runs : after.lifecycle = .running run) :
    (after.run run).terminated = (pool.run run).terminated := by
  cases step with
  | launch _ _ rest | fallShort _ _ rest => cases before.symm.trans rest
  | abandon _ rest => cases before.symm.trans rest
  | advance doing advance =>
      rcases advance.shutdown with ⟨shutdown, mem, _⟩
      rw [← doing] at mem
      cases before.symm.trans (custody.shut _ (shuts_of_shutdown mem))
  | callOff doing => cases before.symm.trans (custody.locked (by rw [doing]; rfl))
  | abandonRunning => cases runs
  | countOut | notify | answer => exact field_modifyRun Run.terminated _ _ (by intro _; rfl) run
  | _ => rfl

/-- No exit signal is handed to a worker of a run that goes on. -/
theorem Undisturbed.unsignalled_of_transition {run : RunId} (undisturbed : Undisturbed pool run)
    (custody : Custody pool) (quiet : ¬pool.Signalled) (before : pool.lifecycle = .running run)
    (runs : after.lifecycle = .running run) (step : Transition pool now move use after reply)
    {id : Nat} {worker : Worker ι σ}
    (found : after.workers[id]? = some worker) (own : worker.run = run) :
    (.agent id, .exit) ∉ after.channel.handed := by
  intro mem
  rw [step.channel] at mem
  rcases Channel.mem_handed_after mem with older | ⟨party, sends⟩
  · cases former : pool.workers[id]? with
    | some old =>
        rcases step.worker_same former with ⟨changed, put, same, _⟩
        cases put.symm.trans found
        exact undisturbed.unsignalled id old former (same.symm.trans own) older
    | none =>
        rcases step.worker_new former found with ⟨_, _, _, _, _, _, rfl⟩
        cases own
        exact absurd (custody.known _ before) (Nat.lt_irrefl _)
  · rcases step.sends_exit sends with ⟨thread, restores | ⟨shutting, _⟩⟩
    · exact quiet (Or.inr ⟨thread, restores⟩)
    · cases before.symm.trans (custody.shut thread (shuts_of_isShutting shutting))

/-- A run that goes on keeps its workers, up to those that fail to be initialized. -/
theorem Undisturbed.live_of_transition {run : RunId} (undisturbed : Undisturbed pool run)
    (custody : Custody pool) (crew : Crew pool) (quiet : ¬pool.Signalled)
    (before : pool.lifecycle = .running run) (runs : after.lifecycle = .running run)
    (step : Transition pool now move use after reply)
    (mode : (pool.run run).config.mode = .blocking) :
    after.liveWorkers run + (after.run run).stats.initFailures
      = (pool.run run).config.threads := by
  have opened : pool.channel.closed = false := by
    by_contra closed
    have unowned := custody.opened (by simpa using closed)
    exact absurd unowned (Nat.ne_of_gt (custody.owned run before))
  have balance := undisturbed.live mode
  have keeps (same : after.liveWorkers run = pool.liveWorkers run)
      (silent : ∀ id memory ending, move ≠ .answer id memory ending) :
      after.liveWorkers run + (after.run run).stats.initFailures
        = (pool.run run).config.threads := by
    rw [same, step.stats_same silent run]
    exact balance
  have moves {id : Nat} {worker changed : Worker ι σ} (found : pool.workers[id]? = some worker)
      (put : after.workers = pool.workers.set id changed) (same : changed.run = worker.run)
      (silent : ∀ id memory ending, move ≠ .answer id memory ending)
      (live : worker.run = run → changed.phase.isLive = worker.phase.isLive) :
      after.liveWorkers run + (after.run run).stats.initFailures
        = (pool.run run).config.threads := by
    refine keeps ?_ silent
    rw [liveWorkers, put]
    exact countP_own_set found same _ live
  have own := step
  cases step with
  | launch _ _ rest | fallShort _ _ rest => cases before.symm.trans rest
  | advance doing advance => exact keeps (congrArg _ advance.workers) (by rintro _ _ _ ⟨⟩)
  | @look id worker found phase =>
      refine moves found rfl (Worker.same_afterLook _ _).1 (by rintro _ _ _ ⟨⟩) ?_
      rintro rfl
      rw [undisturbed.going, phase]
      rfl
  | @take id worker _ envelope found phase taking taken =>
      refine moves found rfl (Worker.same_afterTake _ _).1 (by rintro _ _ _ ⟨⟩) ?_
      rintro rfl
      have same : pool.channel.take = (pool.channel.take.1, some envelope) := by rw [← taken]
      have waits := Channel.waiting_take_some same
      rw [phase]
      cases envelope with
      | work item => rfl
      | exit => exact absurd (Or.inl (by rw [waits]; exact List.mem_cons_self)) quiet
  | parkWorker found phase =>
      refine moves found rfl rfl (by rintro _ _ _ ⟨⟩) ?_
      rw [phase]
      exact fun _ => rfl
  | @quit id worker found phase reason =>
      refine moves found rfl rfl (by rintro _ _ _ ⟨⟩) ?_
      rintro rfl
      have blocks := (crew.placed id worker found).mode
      rcases reason with drains | closed
      · rw [mode, drains] at blocks
        cases blocks
      · rw [opened] at closed
        cases closed
  | @pickUp id worker _ envelope found phase handed =>
      refine moves found rfl (Worker.same_afterTake _ _).1 (by rintro _ _ _ ⟨⟩) ?_
      intro mine
      have listed := Channel.mem_handed_of_handed? handed
      rw [phase]
      cases envelope with
      | work item => rfl
      | exit => exact absurd listed (undisturbed.unsignalled id worker found mine)
  | despair _ _ _ closed =>
      rw [opened] at closed
      cases closed
  | timeOut found phase =>
      refine moves found rfl rfl (by rintro _ _ _ ⟨⟩) ?_
      rw [phase]
      exact fun _ => rfl
  | countOut found phase | notify found phase | finish found phase =>
      refine moves found rfl rfl (by rintro _ _ _ ⟨⟩) ?_
      rw [phase]
      exact fun _ => rfl
  | @answer id worker memory ending found calls =>
      have known := (crew.placed id worker found).known
      exact (live_of_answer found known calls memory ending run).trans balance
  | _ => exact keeps rfl (by rintro _ _ _ ⟨⟩)

end Working

/-- A run begins with all its workers. -/
theorem undisturbed_of_launch (crew : Crew pool) (seated : Seated pool) (thread : ThreadId)
    (config : PoolConfig) :
    Undisturbed (pool.launch thread config).state pool.runs.length := by
  have fresh := run_launch pool thread config
  refine ⟨by rw [fresh], ?_, ?_⟩
  · intro id worker found own mem
    have seat : .agent id ∈ pool.channel.seats :=
      List.mem_append_right _ (List.mem_map_of_mem mem)
    rcases (seated.seats _).mp seat with ⟨other, same, older, former, _⟩
    cases same
    have short := (List.getElem?_eq_some_iff.mp former).1
    cases (List.getElem?_append_left short).symm.trans found |>.symm.trans former
    exact crew.unmanned worker (List.mem_of_getElem? former) own
  · intro _
    have older : pool.liveWorkers pool.runs.length = 0 := by
      refine List.countP_eq_zero.mpr fun worker mem => ?_
      simp [crew.unmanned worker mem]
    have staff : (pool.launch thread config).state.workers = (pool.recruit config).workers := rfl
    have live : (pool.launch thread config).state.liveWorkers pool.runs.length = config.threads := by
      rw [liveWorkers, countP_of_recruit staff, ← liveWorkers, older, Nat.zero_add, if_pos ⟨rfl, rfl⟩]
    rw [fresh, live]
    rfl

/-- Every step keeps a pool quiet. -/
theorem quiet_of_transition (quiet : Quiet pool) (custody : Custody pool) (parking : Parking pool)
    (crew : Crew pool) (custodyAfter : Custody after) (sending : Sending after)
    (step : Transition pool now move use after reply)
    (settled : Event.Settled ⟨pool, now, move, after, reply⟩) : Quiet after := by
  refine ⟨quiet.shutting_of_transition custodyAfter sending step settled, ?_⟩
  intro run runs
  rcases step.runs runs with before | ⟨_, _, rfl, thread, config, _, rfl⟩
  · have silent := quiet.not_signalled custody (by rw [before]; rintro ⟨⟩)
    have undisturbed := quiet.undisturbed run before
    have settings := step.settings (custody.known run before)
    refine ⟨?_, ?_, ?_⟩
    · rw [step.going custody before runs]
      exact undisturbed.going
    · intro id worker found own
      exact undisturbed.unsignalled_of_transition custody silent before runs step found own
    · rw [settings.1]
      exact undisturbed.live_of_transition custody crew silent before runs step
  · exact undisturbed_of_launch crew parking.seated thread config

/-- There are exit signals during a shutdown only, as long as every shutdown makes its final drain and
waits with it for those that a thread has to put back. -/
theorem quiet_of_history {events : List (Event ι σ)} (history : History events pool)
    (settled : ∀ event ∈ events, event.Settled) : Quiet pool := by
  revert settled
  refine history.induction (motive := fun events pool =>
    (∀ event ∈ events, event.Settled) → Quiet pool) ?_ ?_
  · intro capacity _
    refine ⟨?_, ?_⟩
    · rintro (⟨⟨⟩⟩ | ⟨thread, ⟨⟩⟩)
    · rintro run ⟨⟩
  · intro events pool now move stepped history quiet performed settled
    have later := history.append (.step .refl performed)
    refine quiet_of_transition (quiet ?_) (custody_of_history history) (parking_of_history history)
      (crew_of_history history) (custody_of_history later) (parking_of_history later).sending
      (perform_transition performed) ?_
    · exact fun event mem => settled event (List.mem_append_left _ mem)
    · exact settled _ (List.mem_append_right _ List.mem_cons_self)

/-- **Exit signals exist during a shutdown only**, as long as every shutdown makes its final drain, and
makes it while no thread has exit signals to put back. So a run with blocking workers goes on with all of
them that did not fail to be initialized. -/
theorem no_signals_of_history {events : List (Event ι σ)} (history : History events pool)
    (settled : ∀ event ∈ events, event.Settled) :
    (pool.lifecycle ≠ .shuttingDown → .exit ∉ pool.channel.queue.toList) ∧
      ∀ run, pool.lifecycle = .running run → (pool.run run).config.mode = .blocking →
        pool.liveWorkers run + (pool.run run).stats.initFailures
          = (pool.run run).config.threads := by
  have quiet := quiet_of_history history settled
  constructor
  · intro stands queued
    exact quiet.not_signalled (custody_of_history history) stands
      (Or.inl (List.mem_append_left _ queued))
  · intro run runs
    exact (quiet.undisturbed run runs).live

/-- Two runs. The first one is shut down while thread 1 clears the queue and has the exit signal in its
hands for a moment; one of the two workers of the second run fails to be initialized. -/
def restarted : List (Instant × Move Nat Unit) :=
  [.begin 0 (.start (.blocking 1)), .answer 0 () .done, .begin 0 (.add 1), .work 0, .work 0,
    .begin 0 .wait, .proceed 0, .begin 1 .clear, .proceed 1, .proceed 1,
    .answer 0 () .done, .work 0, .work 0, .answer 0 () .done, .work 0, .work 0, .work 0,
    .proceed 0, .proceed 0, .proceed 0, .proceed 0, .proceed 0, .proceed 0, .proceed 0, .proceed 0,
    .proceed 0, .proceed 0, .proceed 0,
    .begin 0 (.start (.blocking 2)), .answer 1 () (.failed "no memory"), .answer 2 () .done].map
      (0, ·)

theorem no_signals_of_restarted :
    let events := (new none).trace restarted
    let pool := (new none).follow restarted
    (∀ event ∈ events, event.Settled) ∧ pool.lifecycle = .running 1 ∧
      .exit ∉ pool.channel.queue.toList ∧
      pool.liveWorkers 1 + (pool.run 1).stats.initFailures = (pool.run 1).config.threads ∧
      pool.liveWorkers 1 = 1 := by
  intro events pool
  have settled : ∀ event ∈ events, event.Settled := by decide
  have runs : pool.lifecycle = .running 1 := by decide
  have silent := no_signals_of_history (history_follow none restarted) settled
  refine ⟨settled, runs, silent.1 ?_, silent.2 1 runs ?_, ?_⟩
  · rw [runs]
    rintro ⟨⟩
  · decide
  · decide

/-- An interrupted shutdown that ends while thread 1 has the exit signal in its hands. -/
def outlived : List (Instant × Move Nat Unit) :=
  [(0, .begin 0 (.start (.blocking 1))), (0, .answer 0 () .done), (0, .begin 0 (.add 1)),
    (0, .work 0), (0, .work 0), (0, .begin 1 .interrupt), (0, .begin 0 .wait), (0, .proceed 0),
    (0, .proceed 0), (0, .proceed 0), (0, .proceed 0), (0, .begin 1 .clear),
    (120000000000, .proceed 0), (120000000000, .proceed 0), (120000000000, .proceed 0),
    (120000000000, .proceed 0), (120000000000, .proceed 0), (120000000000, .proceed 0),
    (120000000000, .proceed 1)]

/-- An interrupted shutdown whose grace period has no end, so that it panics. -/
def brokenOff : List (Instant × Move Nat Unit) :=
  [.begin 0 (.start { threads := 1, gracePeriod := Duration.ofSeconds (Nat.pow 2 64 - 1) }),
    .answer 0 () .done, .begin 0 (.add 1), .work 0, .work 0, .begin 1 .interrupt, .begin 0 .wait,
    .proceed 0, .proceed 0, .proceed 0, .proceed 0, .proceed 0].map (0, ·)

/-- The next run, whose worker takes the signal and leaves. -/
def bereft : List (Instant × Move Nat Unit) :=
  [.begin 0 (.start (.blocking 1)), .answer 1 () .done, .work 1, .work 1].map (120000000000, ·)

/-- There are exit signals in an idle pool, and its next run loses a worker that did not fail. -/
def Bereaving (first : List (Instant × Move Nat Unit)) : Prop :=
  let idle := (new none).follow first
  let pool := (new none).follow (first ++ bereft)
  History ((new none).trace first) idle ∧ idle.lifecycle = .idle ∧ .exit ∈ idle.channel.queue.toList ∧
    History ((new none).trace (first ++ bereft)) pool ∧ pool.lifecycle = .running 1 ∧
    (pool.run 1).config.mode = .blocking ∧
    pool.liveWorkers 1 + (pool.run 1).stats.initFailures ≠ (pool.run 1).config.threads

/-- Neither part of the condition can be left out. -/
theorem stale_signal : Bereaving outlived ∧ Bereaving brokenOff := by
  constructor
  · refine ⟨history_follow none outlived, ?_, ?_, history_follow none (outlived ++ bereft), ?_, ?_, ?_⟩
    all_goals decide
  · refine ⟨history_follow none brokenOff, ?_, ?_, history_follow none (brokenOff ++ bereft), ?_, ?_, ?_⟩
    all_goals decide

end Coordination.PoolSystem
