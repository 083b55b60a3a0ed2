import Coordination.Proofs.Pool.Completion

/-!
# What a clean report promises

A shutdown leaves the workers that do not end in time to themselves, and later runs do not wait for
them. One that panics leaves all workers of its run to themselves. So a clean report speaks for the workers
of its own run, and for those of earlier runs that no shutdown has left alone: all of these have ended, and
the items that were accepted before the call are off the queue and nobody but a worker that was left alone
has one in hand (`trusted_of_clean`). A call that finds another shutdown in progress gets its report at
once, and a straggler may keep its item for as long as it likes, so a clean report alone does not say that
the work is done (`clean_beside_worker`).

Two facts carry the proof. A worker of a run that is over has ended, or an event of the past has left it
alone (`attendance_of_history`). And while a thread has the pool in its hands, the stragglers of its report
are those that are counted meanwhile (`detached_of_path`), so a clean report comes with no new ones.
-/

namespace Coordination

namespace PoolSystem

open Channel (share)

variable {ι σ : Type}

/-- How many workers a thread has left to themselves in its shutdown. -/
def Activity.detached : Activity ι → Nat
  | .judging _ report _ | .draining report _ | .resetting report => report.stragglers
  | _ => 0

/-- The worker that a shutdown counts as a straggler. -/
def Event.straggler? (event : Event ι σ) : Option Nat :=
  match event.move with
  | .proceed thread =>
      match event.before.activity thread with
      | .judging shutdown report index =>
          if report.stragglers < (event.after.activity thread).detached then
            some ((event.before.run shutdown.run).firstWorker + index)
          else none
      | _ => none
  | _ => none

/-- The workers that shutdowns have counted as stragglers. -/
def stragglers (events : List (Event ι σ)) : List Nat := events.filterMap Event.straggler?

/-- The run whose shutdown panics. -/
def Event.forsaken? (event : Event ι σ) : Option RunId :=
  match event.move with
  | .proceed thread =>
      match event.before.activity thread with
      | .forcing shutdown =>
          if (event.after.activity thread).unwinds then some shutdown.run else none
      | _ => none
  | _ => none

/-- The runs whose shutdowns have panicked. -/
def forsaken (events : List (Event ι σ)) : List RunId := events.filterMap Event.forsaken?

/-- A worker of a run was left alone: a shutdown has counted it as a straggler, or has panicked before it
looked at the workers. -/
def LeftAlone (events : List (Event ι σ)) (id : Nat) (run : RunId) : Prop :=
  id ∈ stragglers events ∨ run ∈ forsaken events

/-- A worker has ended, or it was counted as a straggler. -/
def Attended (events : List (Event ι σ)) (id : Nat) (worker : Worker ι σ) : Prop :=
  worker.phase.isEnded = true ∨ id ∈ stragglers events

/-- What becomes of the workers whose runs are over. -/
structure Attendance (events : List (Event ι σ)) (pool : PoolSystem ι σ) : Prop where
  /-- A run that was given up has no shutdown. -/
  attended : ∀ id worker, pool.workers[id]? = some worker → Attended events id worker ∨
    worker.run ∈ forsaken events ∨ pool.Underway worker.run ∨ pool.owners = 0 ∧ pool.lifecycle = .idle
  judged : ∀ thread shutdown report index, pool.activity thread = .judging shutdown report index →
    ∀ id worker, pool.workers[id]? = some worker → worker.run = shutdown.run →
      worker.index < index → Attended events id worker
  known : ∀ id ∈ stragglers events, id < pool.workers.length
  ended : ∀ run ∈ forsaken events, run < pool.runs.length
  fresh : ∀ id worker, pool.workers[id]? = some worker → pool.lifecycle = .running worker.run →
    ¬LeftAlone events id worker.run

/-- The items that a worker has got and has not handled. -/
def inHand (pool : PoolSystem ι σ) (id : Nat) : List ι :=
  (pool.processing? id).toList ++ share (.agent id) (loads pool.channel.handed)

/-- What can be relied on when a call has returned a clean report: the workers that there were before the
call and the items that were accepted before it are accounted for. -/
structure Trusted (earlier : List (Event ι σ)) (pool : PoolSystem ι σ) (events : List (Event ι σ))
    (final : PoolSystem ι σ) : Prop where
  /-- A worker of an earlier run that was left alone may be alive. -/
  workers : ∀ id worker, pool.workers[id]? = some worker → ∃ changed,
    final.workers[id]? = some changed ∧ changed.run = worker.run ∧
      (changed.phase.isEnded = true ∨
        LeftAlone earlier id worker.run ∧ pool.lifecycle ≠ .running worker.run)
  /-- What was accepted before the call is off the queue. -/
  queue : admitted earlier <+: (events.flatMap Event.removed).map (·.2)
  /-- Threads have returned what was removed for them, or they are clearing the queue. -/
  returned : ∀ thread, share (.caller thread) (events.flatMap Event.removed)
    = share (.caller thread) (events.flatMap Event.returned) ++ (final.activity thread).collected
  /-- Workers have handled what was removed for them, up to what they have in hand. -/
  handled : ∀ id, share (.agent id) (events.flatMap Event.removed)
    = handledBy events id ++ final.inHand id
  free : ∀ id, (∀ worker, final.workers[id]? = some worker → ¬LeftAlone earlier id worker.run) →
    final.inHand id = []

variable {pool after : PoolSystem ι σ} {now : Instant} {move : Move ι σ}
  {use : Channel.Use (Envelope ι)} {reply : Option (Reply ι)}

theorem stragglers_append (events later : List (Event ι σ)) :
    stragglers (events ++ later) = stragglers events ++ stragglers later := List.filterMap_append

theorem stragglers_single (event : Event ι σ) : stragglers [event] = event.straggler?.toList := by
  cases counted : event.straggler? <;> simp [stragglers, counted]

theorem forsaken_append (events later : List (Event ι σ)) :
    forsaken (events ++ later) = forsaken events ++ forsaken later := List.filterMap_append

theorem forsaken_single (event : Event ι σ) : forsaken [event] = event.forsaken?.toList := by
  cases counted : event.forsaken? <;> simp [forsaken, counted]

theorem straggler?_of_judging {thread : ThreadId} {shutdown : Shutdown} {report : CompletionReport ι}
    {index : Nat} (doing : pool.activity thread = .judging shutdown report index) :
    Event.straggler? (⟨pool, now, .proceed thread, after, reply⟩ : Event ι σ)
      = if report.stragglers < (after.activity thread).detached then
          some ((pool.run shutdown.run).firstWorker + index)
        else none := by
  simp only [Event.straggler?, doing]

theorem straggler?_eq_none {thread : ThreadId}
    (same : (after.activity thread).detached = (pool.activity thread).detached) :
    Event.straggler? (⟨pool, now, .proceed thread, after, reply⟩ : Event ι σ) = none := by
  cases doing : pool.activity thread with
  | judging shutdown report index =>
      rw [straggler?_of_judging doing, same, doing]
      exact if_neg (Nat.lt_irrefl _)
  | _ => simp only [Event.straggler?, doing]

/-- Only a thread in the middle of a shutdown counts a straggler. -/
theorem Event.judging_of_straggler {event : Event ι σ} {id : Nat} (counted : event.straggler? = some id) :
    ∃ thread, event.move = .proceed thread ∧ ∃ shutdown report index,
      event.before.activity thread = .judging shutdown report index := by
  unfold straggler? at counted
  split at counted
  · rename_i thread proceeds
    refine ⟨thread, proceeds, ?_⟩
    split at counted
    · exact ⟨_, _, _, by assumption⟩
    · cases counted
  · cases counted

theorem Event.straggler?_of_free {event : Event ι σ} (custody : Custody event.before)
    (free : event.before.lifecycle ≠ .shuttingDown) : event.straggler? = none := by
  rw [Option.eq_none_iff_forall_ne_some]
  intro id counted
  rcases judging_of_straggler counted with ⟨thread, _, shutdown, report, index, judges⟩
  exact free (custody.shut thread (by rw [judges]; rfl))

/-- Only a thread in the middle of a shutdown forsakes its run, and it panics. -/
theorem Event.forcing_of_forsaken {event : Event ι σ} {run : RunId}
    (counted : event.forsaken? = some run) : ∃ thread, event.move = .proceed thread ∧
      (event.after.activity thread).unwinds = true ∧ ∃ shutdown,
        event.before.activity thread = .forcing shutdown ∧ shutdown.run = run := by
  unfold forsaken? at counted
  split at counted
  · rename_i thread proceeds
    refine ⟨thread, proceeds, ?_⟩
    split at counted
    · split at counted
      · rename_i panics
        exact ⟨panics, _, by assumption, Option.some.inj counted⟩
      · cases counted
    · cases counted
  · cases counted

theorem forsaken?_of_panic {thread : ThreadId} {shutdown : Shutdown} {message : String}
    (doing : pool.activity thread = .forcing shutdown)
    (panics : after.activity thread = .unwinding message) :
    Event.forsaken? (⟨pool, now, .proceed thread, after, reply⟩ : Event ι σ) = some shutdown.run := by
  simp only [Event.forsaken?, doing, panics]
  rfl

theorem Event.forsaken?_of_free {event : Event ι σ} (custody : Custody event.before)
    (free : event.before.lifecycle ≠ .shuttingDown) : event.forsaken? = none := by
  rw [Option.eq_none_iff_forall_ne_some]
  intro run counted
  rcases forcing_of_forsaken counted with ⟨thread, _, _, shutdown, forces, _⟩
  exact free (custody.shut thread (by rw [forces]; rfl))

/-- A shutdown that judges the workers leaves at most one to itself at a time. -/
theorem Advance.detached {before next : Activity ι} {advanced : PoolSystem ι σ}
    (advance : Advance pool now before advanced next) : next.shuts = true ∧
      (next.detached = before.detached ∨ next.detached = before.detached + 1 ∧
        ∃ shutdown report index, before = .judging shutdown report index) := by
  cases advance with
  | force | forgo =>
      split
      · exact ⟨rfl, Or.inl rfl⟩
      · exact ⟨rfl, Or.inl rfl⟩
  | detach report => exact ⟨rfl, Or.inr ⟨rfl, _, _, _, rfl⟩⟩
  | _ => exact ⟨rfl, Or.inl rfl⟩

variable [Inhabited σ]

section Counting

/-- A thread gets to the next worker when it has joined the last one or counted it as a straggler. -/
theorem Transition.judging (step : Transition pool now move use after reply) {thread : ThreadId}
    {shutdown : Shutdown} {report : CompletionReport ι} {index : Nat}
    (judges : after.activity thread = .judging shutdown report index) :
    pool.activity thread = .judging shutdown report index ∨ index = 0 ∨
      ∃ former last, index = last + 1 ∧ pool.activity thread = .judging shutdown former last ∧
        (pool.hasEnded shutdown.run last = true ∨
          Event.straggler? (⟨pool, now, move, after, reply⟩ : Event ι σ)
            = some ((pool.run shutdown.run).firstWorker + last)) := by
  by_cases own : move.party = .caller thread
  · cases step with
    | advance doing advance =>
        cases own
        have next := judges
        rw [activity_turnTo, if_pos rfl] at next
        cases advance with
        | count => cases next; exact Or.inr (Or.inl rfl)
        | join former listed ended =>
            cases next
            exact Or.inr (Or.inr ⟨_, _, rfl, doing, Or.inl ended⟩)
        | detach former =>
            cases next
            refine Or.inr (Or.inr ⟨_, _, rfl, doing, Or.inr ?_⟩)
            rw [straggler?_of_judging doing, judges]
            exact if_pos (Nat.lt_succ_self _)
        | force | forgo => split at next <;> cases next
        | _ => cases next
    | look | take | parkWorker | quit | pickUp | despair | timeOut | countOut | notify | finish
    | answer => cases own
    | ignore => exact Or.inl judges
    | _ =>
        cases own
        simp at judges
  · rw [step.activity_of_ne own] at judges
    exact Or.inl judges

/-- A straggler is a worker that has not ended. -/
theorem Transition.found_of_straggler (step : Transition pool now move use after reply) {id : Nat}
    (counted : Event.straggler? (⟨pool, now, move, after, reply⟩ : Event ι σ) = some id) :
    ∃ worker, pool.workers[id]? = some worker ∧ worker.phase.isEnded = false := by
  rcases Event.judging_of_straggler counted with ⟨thread, rfl, shutdown, report, index, judges⟩
  rw [straggler?_of_judging judges] at counted
  split at counted
  · rename_i more
    cases counted
    cases step with
    | advance doing advance =>
        cases judges.symm.trans doing
        rw [activity_turnTo, if_pos rfl] at more
        cases advance with
        | detach _ unfinished alive =>
            unfold hasEnded at alive
            cases found : pool.workers[(pool.run shutdown.run).firstWorker + index]? with
            | none => rw [found] at alive; cases alive
            | some worker => rw [found] at alive; exact ⟨worker, rfl, alive⟩
        | _ => exact absurd more (Nat.lt_irrefl _)
    | added doing | cleared doing | putBack doing | parkBack doing | restored doing | signal doing
    | parkSignal doing | sent doing | withdraw doing | desert doing | breakOff doing | drain doing
    | reset doing | unwound doing | joined doing | callOff doing | gathered doing =>
        cases judges.symm.trans doing
  · cases counted

/-- A thread that has the pool in its hands keeps it until it replies, and nobody else counts stragglers. -/
theorem Transition.detached (step : Transition pool now move use after reply) (custody : Custody pool)
    {thread : ThreadId} (shuts : (pool.activity thread).shuts = true)
    (stays : move.party = .caller thread → reply = none) :
    (after.activity thread).shuts = true ∧ (after.activity thread).detached
      = (pool.activity thread).detached
        + (stragglers [(⟨pool, now, move, after, reply⟩ : Event ι σ)]).length := by
  rw [stragglers_single]
  by_cases own : move.party = .caller thread
  · have silent := stays own
    have same (still : (after.activity thread).shuts = true)
        (as : (after.activity thread).detached = (pool.activity thread).detached)
        (proceeds : move = .proceed thread) : (after.activity thread).shuts = true ∧
          (after.activity thread).detached = (pool.activity thread).detached
            + (Event.straggler? (⟨pool, now, move, after, reply⟩ : Event ι σ)).toList.length := by
      rw [proceeds, straggler?_eq_none as]
      exact ⟨still, as⟩
    cases step with
    | advance doing advance =>
        cases own
        rcases advance.detached with ⟨still, as | ⟨more, shutdown, report, index, rfl⟩⟩
        · refine same ?_ ?_ rfl
          · rw [activity_turnTo, if_pos rfl]
            exact still
          · rw [activity_turnTo, if_pos rfl, as, doing]
        · rw [straggler?_of_judging doing, activity_turnTo, if_pos rfl, doing, more]
          exact ⟨still, by simp [Activity.detached]⟩
    | drain doing | signal doing | parkSignal doing | sent doing | withdraw doing | desert doing
    | breakOff doing =>
        cases own
        refine same ?_ ?_ rfl
        · rw [activity_turnTo, if_pos rfl]
          rfl
        · rw [activity_turnTo, if_pos rfl, doing]
          rfl
    | fallShort doing | park doing | clear doing | waitIdle _ doing | takeOver _ doing
    | abandonRunning doing | putBack doing | parkBack doing | restored doing | callOff doing =>
        cases own
        rw [doing] at shuts
        cases shuts
    | look | take | parkWorker | quit | pickUp | despair | timeOut | countOut | notify | finish =>
        cases own
    | _ => cases silent
  · have none : Event.straggler? (⟨pool, now, move, after, reply⟩ : Event ι σ) = none := by
      rw [Option.eq_none_iff_forall_ne_some]
      intro id counted
      rcases Event.judging_of_straggler counted with ⟨other, proceeds, shutdown, report, index, judges⟩
      have same := custody.single thread other shuts (by rw [judges]; rfl)
      rw [same] at own
      exact own (congrArg Move.party proceeds)
    rw [none, step.activity_of_ne own]
    exact ⟨shuts, rfl⟩

/-- The stragglers of a shutdown are those that are counted while it goes on. -/
theorem detached_of_path {earlier late : List (Event ι σ)} {final : PoolSystem ι σ} {thread : ThreadId}
    (history : History earlier pool) (path : Path pool late final)
    (shuts : (pool.activity thread).shuts = true)
    (stays : ∀ event ∈ late, event.move.party = .caller thread → event.reply = none) :
    (final.activity thread).shuts = true ∧ (final.activity thread).detached
      = (pool.activity thread).detached + (stragglers late).length := by
  induction path with
  | refl => exact ⟨shuts, rfl⟩
  | step path performed ih =>
      rcases ih fun event mem => stays event (List.mem_append_left _ mem) with ⟨still, sum⟩
      have custody := custody_of_history (history.append path)
      have last := (perform_transition performed).detached custody still
        (stays _ (List.mem_append_right _ List.mem_cons_self))
      rw [stragglers_append, List.length_append, ← Nat.add_assoc, ← sum]
      exact last

/-- A thread that has panicked in the middle of a wait goes on to say so. -/
theorem Transition.calm_before (step : Transition pool now move use after reply) {thread : ThreadId}
    (silent : move.party = .caller thread → reply = none)
    (calm : (after.activity thread).unwinds = false) : (pool.activity thread).unwinds = false := by
  cases doing : pool.activity thread with
  | unwinding message =>
      rw [step.returns (by rw [doing]; rfl) silent, doing] at calm
      cases calm
  | _ => rfl

/-- While a thread has the pool in its hands and does not panic, no run is forsaken. -/
theorem forsaken_of_path {earlier late : List (Event ι σ)} {final : PoolSystem ι σ} {thread : ThreadId}
    (history : History earlier pool) (path : Path pool late final)
    (shuts : (pool.activity thread).shuts = true)
    (stays : ∀ event ∈ late, event.move.party = .caller thread → event.reply = none)
    (calm : (final.activity thread).unwinds = false) : forsaken late = [] := by
  induction path with
  | refl => rfl
  | @step events middle now move stepped path performed ih =>
      have first : ∀ event ∈ events, event.move.party = .caller thread → event.reply = none :=
        fun event mem => stays event (List.mem_append_left _ mem)
      have silent := stays _ (List.mem_append_right _ List.mem_cons_self)
      have custody := custody_of_history (history.append path)
      have held := (detached_of_path history path shuts first).1
      have none := ih first ((perform_transition performed).calm_before silent calm)
      rw [forsaken_append, none, List.nil_append, forsaken_single]
      cases counted : Event.forsaken? _ with
      | none => rfl
      | some run =>
          rcases Event.forcing_of_forsaken counted with ⟨other, _, panics, shutdown, forces, _⟩
          have forcing : middle.activity other = .forcing shutdown := forces
          cases custody.single thread other held (by rw [forcing]; rfl)
          cases calm.symm.trans panics

/-- A wait that gets as far as its report has forsaken no run, and nobody else could. -/
theorem forsaken_of_resetting {earlier during : List (Event ι σ)} {call : Event ι σ}
    {final : PoolSystem ι σ} {thread : ThreadId} {report : CompletionReport ι}
    (custody : Custody call.before) (free : call.before.lifecycle ≠ .shuttingDown)
    (called : History (earlier ++ [call]) call.after) (waiting : Path call.after during final)
    (shuts : (call.after.activity thread).shuts = true)
    (stays : ∀ event ∈ during, event.move.party = .caller thread → event.reply = none)
    (resets : final.activity thread = .resetting report) :
    forsaken (earlier ++ [call] ++ during) = forsaken earlier := by
  have quiet := forsaken_of_path called waiting shuts stays (by rw [resets]; rfl)
  rw [forsaken_append, forsaken_append, forsaken_single, Event.forsaken?_of_free custody free, quiet]
  simp

end Counting

section Attending

variable {events : List (Event ι σ)}

/-- Whoever begins an operation that needs the pool finds that the pool has an owner. -/
theorem owned_of_perform {thread : ThreadId} {operation : Operation ι σ} {stepped : Stepped ι σ}
    (performed : pool.perform now (.begin thread operation) = some stepped)
    (needs : operation.needsPool = true) : 0 < pool.owners := by
  simp only [perform] at performed
  split at performed
  · rename_i both
    exact both.2.1 needs
  · cases performed

/-- A pool without owners is not used any more. -/
theorem Transition.rests (step : Transition pool now move use after reply) (unowned : pool.owners = 0)
    (rest : pool.lifecycle = .idle) (waits : ∀ thread, move ≠ .begin thread .wait) :
    after.lifecycle = .idle := by
  cases step with
  | waitIdle | takeOver => exact absurd rfl (waits _)
  | launch _ owned | fallShort _ owned => exact absurd unowned (Nat.ne_of_gt owned)
  | advance doing advance => exact advance.lifecycle.trans rest
  | abandonRunning | reset | unwound | gathered => rfl
  | _ => exact rest

theorem Attended.keep {id : Nat} {worker changed : Worker ι σ} (attended : Attended events id worker)
    (step : Transition pool now move use after reply) (found : pool.workers[id]? = some worker)
    (put : after.workers[id]? = some changed) :
    Attended (events ++ [⟨pool, now, move, after, reply⟩]) id changed := by
  rcases attended with ended | counted
  · cases (step.isEnded found ended).symm.trans put
    exact Or.inl ended
  · rw [Attended, stragglers_append]
    exact Or.inr (List.mem_append_left _ counted)

/-- A thread that judges the workers of a run has attended to those before the next one. -/
theorem Attendance.judged_of_transition (attendance : Attendance events pool) (crew : Crew pool)
    (custody : Custody pool) (step : Transition pool now move use after reply) {thread : ThreadId}
    {shutdown : Shutdown} {report : CompletionReport ι} {index : Nat}
    (judges : after.activity thread = .judging shutdown report index) {id : Nat} {changed : Worker ι σ}
    (put : after.workers[id]? = some changed) (mine : changed.run = shutdown.run)
    (before : changed.index < index) :
    Attended (events ++ [⟨pool, now, move, after, reply⟩]) id changed := by
  cases found : pool.workers[id]? with
  | none =>
      rcases step.worker_new found put with ⟨_, _, _, _, _, _, rfl⟩
      have known : shutdown.run < pool.runs.length := by
        have shuts : shutdown ∈ (after.activity thread).shutdown? := by
          rw [judges]
          rfl
        rcases step.begins shuts with ⟨former, doing, same, _⟩ | ⟨runs, _⟩
        · rw [same]
          exact custody.begun thread former doing
        · exact custody.known _ runs
      exact absurd known (by rw [← mine]; exact Nat.lt_irrefl _)
  | some worker =>
      rcases step.worker_same found with ⟨other, same, run, place, _⟩
      cases same.symm.trans put
      rw [run] at mine
      rw [place] at before
      rcases step.judging judges with still | rfl | ⟨former, last, rfl, doing, last_one⟩
      · exact (attendance.judged thread shutdown report index still id worker found mine before).keep
          step found put
      · exact absurd before (Nat.not_lt_zero _)
      · rcases Nat.lt_succ_iff_lt_or_eq.mp before with passed | rfl
        · exact (attendance.judged thread shutdown former last doing id worker found mine passed).keep
            step found put
        · have own : (pool.run shutdown.run).firstWorker + worker.index = id := by
            rw [← mine]
            exact (crew.placed id worker found).place.symm
          rw [hasEnded, own, found] at last_one
          rcases last_one with ended | counted
          · exact Attended.keep (Or.inl ended) step found put
          · refine Or.inr ?_
            rw [stragglers_append, stragglers_single, counted]
            exact List.mem_append_right _ List.mem_cons_self

/-- A worker whose run is over has ended, or was left alone. -/
theorem Attendance.attended_of_perform (attendance : Attendance events pool)
    (history : History events pool) {stepped : Stepped ι σ}
    (performed : pool.perform now move = some stepped) {id : Nat} {changed : Worker ι σ}
    (put : stepped.state.workers[id]? = some changed) :
    let later := events ++ [⟨pool, now, move, stepped.state, stepped.reply⟩]
    Attended later id changed ∨ changed.run ∈ forsaken later ∨ stepped.state.Underway changed.run ∨
      stepped.state.owners = 0 ∧ stepped.state.lifecycle = .idle := by
  intro later
  have step := perform_transition performed
  have custody := custody_of_history history
  have crew := crew_of_history history
  cases found : pool.workers[id]? with
  | none =>
      rcases step.worker_new found put with
        ⟨_, _, ⟨_, _, runs | ⟨thread, error, calls⟩⟩, _, _, _, rfl⟩
      · exact Or.inr (Or.inr (Or.inl (Or.inl runs)))
      · exact Or.inr (Or.inr (Or.inl (Or.inr (Or.inr ⟨thread, by rw [calls]; rfl⟩))))
  | some worker =>
      rcases step.worker_same found with ⟨other, same, run, _⟩
      cases same.symm.trans put
      rw [run, forsaken_append, List.mem_append]
      rcases attendance.attended id worker found with
        attended | forsaken | underway | ⟨unowned, rest⟩
      · exact Or.inl (attended.keep step found put)
      · exact Or.inr (Or.inl (Or.inl forsaken))
      · rcases step.concludes custody underway with still |
          ⟨thread, shutdown, report, index, judges, mine, all⟩ |
          ⟨thread, shutdown, forces, mine, rfl, panics⟩ | ⟨_, abandoned⟩ | ended
        · exact Or.inr (Or.inr (Or.inl still))
        · refine Or.inl (Attended.keep ?_ step found put)
          refine attendance.judged thread shutdown report index judges id worker found mine.symm ?_
          have length := finished_of_history history thread shutdown (by rw [judges]; rfl)
          rw [List.getElem?_eq_none_iff, length, mine] at all
          exact Nat.lt_of_lt_of_le (crew.placed id worker found).within all
        · refine Or.inr (Or.inl (Or.inr ?_))
          rw [forsaken_single, forsaken?_of_panic forces panics, mine]
          exact List.mem_cons_self
        · exact Or.inr (Or.inr (Or.inr abandoned))
        · rw [← run] at ended
          exact Or.inl (Or.inl (isEnded_of_haveAllEnded (crew_of_transition custody crew step) put ended))
      · refine Or.inr (Or.inr (Or.inr ⟨step.unowned unowned, step.rests unowned rest ?_⟩))
        rintro thread rfl
        exact Nat.ne_of_gt (owned_of_perform performed rfl) unowned

/-- Nobody has left a worker alone whose run goes on. -/
theorem Attendance.fresh_of_transition (attendance : Attendance events pool) (crew : Crew pool)
    (custody : Custody pool) (step : Transition pool now move use after reply) {id : Nat}
    {changed : Worker ι σ} (put : after.workers[id]? = some changed)
    (runs : after.lifecycle = .running changed.run) :
    ¬LeftAlone (events ++ [⟨pool, now, move, after, reply⟩]) id changed.run := by
  intro alone
  have free : pool.lifecycle ≠ .shuttingDown := by
    rcases step.runs runs with before | ⟨rest, _⟩
    · simp [before]
    · simp [rest]
  rw [LeftAlone, stragglers_append, stragglers_single, Event.straggler?_of_free custody free,
    forsaken_append, forsaken_single, Event.forsaken?_of_free custody free, Option.toList_none,
    List.append_nil, List.append_nil] at alone
  rcases step.runs runs with before | ⟨_, _, fresh, _⟩
  · cases found : pool.workers[id]? with
    | some worker =>
        rcases step.worker_same found with ⟨other, same, run, _⟩
        cases same.symm.trans put
        exact attendance.fresh id worker found (run ▸ before) (run ▸ alone)
    | none =>
        rcases step.worker_new found put with ⟨_, _, _, _, _, _, rfl⟩
        exact absurd (custody.known _ before) (Nat.lt_irrefl _)
  · rw [fresh] at alone
    rcases alone with counted | panicked
    · have found := List.getElem?_eq_getElem (attendance.known id counted)
      rcases step.worker_same found with ⟨other, same, run, _⟩
      cases same.symm.trans put
      exact absurd (run.symm.trans fresh) (Nat.ne_of_lt (crew.placed id _ found).known)
    · exact absurd (attendance.ended _ panicked) (Nat.lt_irrefl _)

/-- Every step keeps an eye on the workers. -/
theorem Attendance.keep (attendance : Attendance events pool) (history : History events pool)
    {stepped : Stepped ι σ} (performed : pool.perform now move = some stepped) :
    Attendance (events ++ [⟨pool, now, move, stepped.state, stepped.reply⟩]) stepped.state := by
  have step := perform_transition performed
  have custody := custody_of_history history
  have crew := crew_of_history history
  refine ⟨?_, ?_, ?_, ?_, ?_⟩
  · intro id changed put
    exact attendance.attended_of_perform history performed put
  · intro thread shutdown report index judges id changed put mine before
    exact attendance.judged_of_transition crew custody step judges put mine before
  · intro id counted
    rw [stragglers_append, List.mem_append] at counted
    have short : id < pool.workers.length := by
      rcases counted with former | new
      · exact attendance.known id former
      · rw [stragglers_single, Option.mem_toList] at new
        rcases step.found_of_straggler new with ⟨worker, found, _⟩
        exact (List.getElem?_eq_some_iff.mp found).1
    rcases step.worker_same (List.getElem?_eq_getElem short) with ⟨changed, put, _⟩
    exact (List.getElem?_eq_some_iff.mp put).1
  · intro run panicked
    refine Nat.lt_of_lt_of_le ?_ step.runs_length
    rw [forsaken_append, List.mem_append] at panicked
    rcases panicked with former | new
    · exact attendance.ended run former
    · rw [forsaken_single, Option.mem_toList] at new
      rcases Event.forcing_of_forsaken new with ⟨thread, _, _, shutdown, forces, rfl⟩
      exact custody.begun thread shutdown (by rw [show pool.activity thread = _ from forces]; rfl)
  · intro id changed put runs
    exact attendance.fresh_of_transition crew custody step put runs

/-- Workers are not forgotten, after every past. -/
theorem attendance_of_history (history : History events pool) : Attendance events pool := by
  refine history.induction (motive := fun events pool => Attendance events pool) ?_ ?_
  · intro capacity
    refine ⟨?_, ?_, ?_, ?_, ?_⟩
    · rintro id worker ⟨⟩
    · rintro thread shutdown report index ⟨⟩
    · rintro id ⟨⟩
    · rintro run ⟨⟩
    · rintro id worker ⟨⟩
  · intro events pool now move stepped history attendance performed
    exact attendance.keep history performed

end Attending

section Returning

variable {events : List (Event ι σ)} {thread : ThreadId} {report : CompletionReport ι}

theorem Path.worker_same {start final : PoolSystem ι σ} (path : Path start events final) {id : Nat}
    {worker : Worker ι σ} (found : start.workers[id]? = some worker) :
    ∃ changed, final.workers[id]? = some changed ∧ changed.run = worker.run := by
  induction path with
  | refl => exact ⟨worker, found, rfl⟩
  | step path performed ih =>
      rcases ih with ⟨former, there, same⟩
      rcases (perform_transition performed).worker_same there with ⟨changed, put, run, _⟩
      exact ⟨changed, put, run.trans same⟩

/-- A wait begins without stragglers. -/
theorem Transition.detached_of_wait
    (step : Transition pool now (.begin thread .wait) use after reply)
    (free : pool.lifecycle ≠ .shuttingDown) : (after.activity thread).detached = 0 := by
  cases step with
  | waitBeside idle busy => exact absurd busy free
  | waitIdle | takeOver =>
      rw [activity_turnTo, if_pos rfl]
      rfl

/-- A thread that has had the pool in its hands gives its report and the pool back in one step. -/
theorem Transition.reports (step : Transition pool now move use after reply)
    (shuts : (pool.activity thread).shuts = true) (own : move.party = .caller thread)
    (replies : reply = some (.report report)) :
    pool.activity thread = .resetting report ∧ after.workers = pool.workers := by
  cases step with
  | reset doing =>
      cases own
      cases replies
      exact ⟨doing, rfl⟩
  | waitBeside idle =>
      cases own
      rw [idle] at shuts
      cases shuts
  | _ => cases replies

/-- After a final drain, what was accepted before is off the queue. -/
theorem admitted_of_drain {drain : Event ι σ} {late : List (Event ι σ)} {final : PoolSystem ι σ}
    {draft : CompletionReport ι} {span : Span} (history : History events pool)
    (path : Path pool (drain :: late) final)
    (drains : drain.before.activity thread = .draining draft span)
    (proceeds : drain.move = .proceed thread) :
    admitted events <+: ((events ++ drain :: late).flatMap Event.removed).map (·.2) := by
  rcases path.head with ⟨⟨stepped, performed, same⟩, _⟩
  have before := path.first.1
  have once := path.first.2.2.1
  rw [proceeds, ← before] at performed
  have empty : drain.after.channel.queue.toList = [] := by
    rw [congrArg Event.after same]
    exact congrArg (·.channel.queue.toList) (state_of_drain drains performed)
  have balance : admitted (events ++ [drain]) = _ := queue_balance (history.append once)
  rw [empty, works_nil, List.append_nil] at balance
  have more : admitted events <+: admitted (events ++ [drain]) := by
    rw [admitted_append]
    exact List.prefix_append _ _
  rw [balance] at more
  have whole : (events ++ drain :: late).flatMap Event.removed
      = (events ++ [drain]).flatMap Event.removed ++ late.flatMap Event.removed := by
    rw [List.append_cons, List.flatMap_append]
  rw [whole, List.map_append]
  exact more.trans (List.prefix_append _ _)

/-- While a thread drains the queue for its report, the workers are attended to. -/
theorem attended_of_resetting (history : History events pool)
    (resets : pool.activity thread = .resetting report) {id : Nat} {worker : Worker ι σ}
    (found : pool.workers[id]? = some worker) :
    Attended events id worker ∨ worker.run ∈ forsaken events := by
  have custody := custody_of_history history
  have shuts : (pool.activity thread).shuts = true := by
    rw [resets]
    rfl
  have shut := custody.shut thread shuts
  rcases (attendance_of_history history).attended id worker found with
    attended | forsaken | (runs | ⟨other, shutdown, mem, _⟩ | ⟨other, calls⟩) | ⟨_, rest⟩
  · exact Or.inl attended
  · exact Or.inr forsaken
  · cases shut.symm.trans runs
  · cases custody.single thread other shuts (shuts_of_shutdown mem)
    rw [resets] at mem
    cases mem
  · cases shut.symm.trans (custody.locked calls)
  · cases shut.symm.trans rest

/-- A worker that has ended has nothing in hand. -/
theorem inHand_eq_nil (history : History events pool) {id : Nat}
    (ended : ∀ worker, pool.workers[id]? = some worker → worker.phase.isEnded = true) :
    pool.inHand id = [] := by
  have stands : ¬pool.Waits id := by
    rintro ⟨worker, found, parked⟩
    have dead := ended worker found
    cases phase : worker.phase <;> rw [phase] at dead parked <;> contradiction
  have free : pool.processing? id = none := by
    cases found : pool.workers[id]? with
    | none => rw [processing?, found, Option.bind_none]
    | some worker =>
        have dead := ended worker found
        rw [processing?_of_found found]
        cases phase : worker.phase <;> rw [phase] at dead <;> first | rfl | cases dead
  rw [inHand, free, share_loads, (parking_of_history history).seated.share_handed_agent stands]
  rfl

/-- **A clean report can be trusted, up to workers that were left alone before.** When a call that has
found no other shutdown in progress returns a clean report, whatever the other threads and the workers do
meanwhile, every worker of the run that it has shut down has ended, and so has every other worker that an
earlier shutdown has not left alone. What was accepted before the call is off the queue: it was returned,
or a thread that clears the queue has it, or a worker has handled it, or a worker that was left alone has
it in hand. -/
theorem trusted_of_clean {earlier during : List (Event ι σ)} {call last : Event ι σ}
    {final : PoolSystem ι σ} (history : History earlier pool)
    (path : Path pool (call :: (during ++ [last])) final)
    (waits : call.move = .begin thread .wait) (free : pool.lifecycle ≠ .shuttingDown)
    (stays : ∀ event ∈ during, event.move.party = .caller thread → event.reply = none)
    (own : last.move.party = .caller thread) (replies : last.reply = some (.report report))
    (clean : report.isClean = true) :
    Trusted earlier pool (earlier ++ call :: (during ++ [last])) final := by
  rcases path.first with ⟨rfl, begins, once, onward⟩
  rcases onward.split with ⟨middle, waiting, ending⟩
  rcases ending.first with ⟨rfl, step, _, rest⟩
  have same := rest.eq_of_nil
  have after := history.append path
  have called := history.append once
  have before := called.append waiting
  -- The stragglers of the report were counted during the call.
  rw [waits] at begins
  have shutting := (begins.takes_charge free).1
  rcases detached_of_path called waiting (shuts_of_isShutting shutting) stays with ⟨shuts, counted⟩
  rcases step.reports shuts own replies with ⟨resets, workers⟩
  have none : stragglers (earlier ++ [call] ++ during) = stragglers earlier := by
    simp only [CompletionReport.isClean, Bool.and_eq_true, decide_eq_true_eq] at clean
    rw [resets, begins.detached_of_wait free, Nat.zero_add] at counted
    have quiet := List.eq_nil_of_length_eq_zero (counted.symm.trans clean.1.2)
    have silent := Event.straggler?_of_free (custody_of_history history) free
    rw [stragglers_append, stragglers_append, stragglers_single, silent, quiet]
    simp
  have calm := forsaken_of_resetting (custody_of_history history) free called waiting
    (shuts_of_isShutting shutting) stays resets
  have attended (id : Nat) (worker : Worker ι σ) (found : final.workers[id]? = some worker) :
      worker.phase.isEnded = true ∨ LeftAlone earlier id worker.run := by
    rw [same, workers] at found
    rw [LeftAlone, ← none, ← calm, ← or_assoc]
    exact attended_of_resetting before resets found
  refine ⟨?_, ?_, ?_, ?_, ?_⟩
  · intro id worker found
    rcases path.worker_same found with ⟨changed, put, run⟩
    refine ⟨changed, put, run, (attended id changed put).imp_right fun alone => ⟨run ▸ alone, ?_⟩⟩
    intro runs
    exact (attendance_of_history history).fresh id worker found runs (run ▸ alone)
  · rcases concluded_of_path waiting shutting stays resets with
      ⟨past, drain, late, rfl, _, proceeds, draft, span, drains, _⟩
    rcases waiting.split with ⟨drained, first, second⟩
    have queue := admitted_of_drain (called.append first) (second.append ending) drains proceeds
    have more : admitted earlier <+: admitted (earlier ++ [call] ++ past) := by
      rw [List.append_assoc, admitted_append]
      exact List.prefix_append _ _
    refine more.trans ?_
    simpa using queue
  · exact return_balance after
  · intro id
    rw [begun_balance after, handling_balance after, List.append_assoc]
    rfl
  · intro id attends
    refine inHand_eq_nil after ?_
    intro worker found
    exact (attended id worker found).resolve_right (attends worker found)

/-- A shutdown is interrupted before it has begun, while the worker has an item in hand. -/
def unattended : List (Instant × Move Nat Unit) :=
  [.begin 0 (.start { PoolConfig.blocking 1 with gracePeriod := ⟨0⟩ }), .answer 0 () .done,
    .begin 0 (.add 1), .work 0, .work 0, .begin 1 .interrupt, .begin 0 .wait].map (0, ·)

/-- The shutdown does not wait for the worker. -/
def detaching : List (Instant × Move Nat Unit) := List.replicate 10 (0, .proceed 0)

/-- The worker of the next run takes the next item. -/
def succeeding : List (Instant × Move Nat Unit) :=
  [.begin 0 (.start (.blocking 1)), .begin 0 (.add 2), .answer 1 () .done, .work 1, .work 1].map (0, ·)

/-- The worker leaves when it has handled its item. -/
def retiring : List (Instant × Move Nat Unit) :=
  [.proceed 0, .answer 1 () .done, .work 1, .work 1, .answer 1 () .done, .work 1, .work 1,
    .work 1].map (0, ·) ++ List.replicate 9 (0, .proceed 0)

theorem trusted_of_succeeding :
    let earlier := (new none).trace (unattended ++ detaching ++ succeeding)
    let pool := (new none).follow (unattended ++ detaching ++ succeeding)
    let called := (pool.perform 0 (.begin 0 .wait)).get (by decide)
    let during := called.state.trace retiring
    let middle := called.state.follow retiring
    let final := (middle.perform 0 (.proceed 0)).get (by decide)
    let call : Event Nat Unit := ⟨pool, 0, .begin 0 .wait, called.state, called.reply⟩
    let last : Event Nat Unit := ⟨middle, 0, .proceed 0, final.state, final.reply⟩
    last.reply = some (.report { stats := { processed := 1 } }) ∧ stragglers earlier = [0] ∧
      final.state.inHand 0 = [1] ∧
      Trusted earlier pool (earlier ++ call :: (during ++ [last])) final.state := by
  intro earlier pool called during middle final call last
  have once : Path pool [call] called.state := .step .refl (Option.some_get _).symm
  have waiting : Path called.state during middle := by simpa using Path.refl.follow retiring
  have returns : Path middle [last] final.state := .step .refl (Option.some_get _).symm
  have path := once.append (waiting.append returns)
  have replies : last.reply = some (.report { stats := { processed := 1 } }) := by decide
  refine ⟨replies, by decide, by decide, ?_⟩
  exact trusted_of_clean (history_follow none _) path rfl (by decide) (by decide) rfl replies (by decide)

/-- A call that finds another shutdown in progress returns a clean report while a worker of the run is in
the middle of an item, and so does one that finds the pool idle after the last shutdown has counted the
worker as a straggler, or has panicked. -/
theorem clean_beside_worker :
    let beside := (new none).trace (unattended ++ [(0, .begin 1 .wait)])
    let busy := (new none).follow (unattended ++ [(0, .begin 1 .wait)])
    let rest := [.begin 0 .wait, .proceed 0, .proceed 0].map (0, ·)
    let report : CompletionReport Nat := {}
    report.isClean = true ∧
      (History beside busy ∧ (beside.getLast?.bind (·.reply)) = some (.report report) ∧
        busy.phase? 0 = some (.processing 1) ∧ admitted beside = [1] ∧
        beside.flatMap Event.handled = [] ∧ beside.flatMap Event.returned = []) ∧
      ∀ past ∈ [unattended ++ detaching, brokenOff],
        let behind := (new none).trace (past ++ rest)
        let idle := (new none).follow (past ++ rest)
        History behind idle ∧ (behind.getLast?.bind (·.reply)) = some (.report report) ∧
          idle.phase? 0 = some (.processing 1) ∧ admitted behind = [1] ∧
          behind.flatMap Event.handled = [] ∧ behind.flatMap Event.returned = [] := by
  intro beside busy rest report
  refine ⟨rfl, ⟨history_follow none _, ?_⟩, ?_⟩
  · exact ⟨by decide, by decide, by decide, by decide, by decide⟩
  · intro past listed behind idle
    have shows : (behind.getLast?.bind (·.reply)) = some (.report report) ∧
        idle.phase? 0 = some (.processing 1) ∧ admitted behind = [1] ∧
        behind.flatMap Event.handled = [] ∧ behind.flatMap Event.returned = [] := by
      revert past
      decide
    exact ⟨history_follow none _, shows⟩

end Returning

end PoolSystem

end Coordination
