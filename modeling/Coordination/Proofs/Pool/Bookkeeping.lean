import Coordination.Proofs.Pool.Interrupts
import Coordination.Proofs.Pool.Notices

/-!
# The books of a shutdown

A shutdown reads the notices of the workers of its run, and then it judges the workers one after the
other: it joins a worker, or counts it as a straggler. Whatever the workers, the interrupts and the
deadlines do meanwhile, its books are right at every point, and in the end every worker of the run was
joined or is a straggler. If it was not interrupted, it has read the notices of all workers before, and
there are no stragglers and no running workers when it returns (`bookkeeping_of_history`).

The state of a shutdown says which workers are marked; that these are the workers whose notices were read
since the run was taken over is a fact about its past, and it is kept step by step (`Activity.Booked`).
-/

namespace Coordination.PoolSystem

variable {ι σ : Type}

/-- The run whose next notice a thread reads. -/
def Activity.awaits : Activity ι → Option RunId
  | .listening shutdown _ => some shutdown.run
  | .expecting shutdown _ => if shutdown.remaining = 0 then none else some shutdown.run
  | _ => none

/-- Whether a thread is about to read a notice or to judge a worker. -/
def Activity.isRecording : Activity ι → Bool
  | .listening _ _ | .expecting _ _ | .judging _ _ _ => true
  | _ => false

/-- The index of the worker whose notice a shutdown reads. -/
def Event.heard? (event : Event ι σ) : Option Nat :=
  match event.move with
  | .proceed thread =>
      (event.before.activity thread).awaits.bind fun run => (event.before.run run).notices.head?
  | _ => none

/-- The worker that a shutdown joins. -/
def Event.joined? (event : Event ι σ) : Option Nat :=
  match event.move with
  | .proceed thread =>
      match event.before.activity thread with
      | .judging shutdown _ index =>
          if index < shutdown.finished.length ∧ event.before.hasEnded shutdown.run index = true then
            some ((event.before.run shutdown.run).firstWorker + index)
          else none
      | _ => none
  | _ => none

/-- The workers whose notices shutdowns have read, in order. -/
def heard (events : List (Event ι σ)) : List Nat := events.filterMap Event.heard?

/-- The workers that shutdowns have joined, in order. -/
def joined (events : List (Event ι σ)) : List Nat := events.filterMap Event.joined?

/-- Some workers are marked, each for one notice. -/
def Marks (finished : List Bool) (heard : List Nat) : Prop :=
  heard.Nodup ∧ ∀ index, finished[index]? = some true ↔ index ∈ heard

/-- What a thread has done in the shutdown of a run: the notices that it has read, and the workers that it
has joined or counted as stragglers. A shutdown that has panicked accounts for nothing. -/
def Activity.Booked (run : RunId) (made : Run) (heard joined stragglers : List Nat) :
    Activity ι → Prop
  | .judging shutdown _ index =>
      shutdown.run = run ∧ Marks shutdown.finished heard ∧ index ≤ made.config.threads ∧
        (joined ++ stragglers).Perm (List.range' made.firstWorker index)
  | .draining report _ | .resetting report =>
      (report.interrupted = false → heard.Perm (List.range made.config.threads)) ∧
        (joined ++ stragglers).Perm (List.range' made.firstWorker made.config.threads)
  | .unwinding _ => True
  | activity =>
      ∃ shutdown ∈ activity.shutdown?, shutdown.run = run ∧ Marks shutdown.finished heard ∧
        joined ++ stragglers = []

/-- The report of a shutdown accounts for the workers of its run. -/
structure Balanced (run : RunId) (during : List (Event ι σ)) (report : CompletionReport ι)
    (pool : PoolSystem ι σ) : Prop where
  workers : (joined during ++ stragglers during).Perm
    (List.range' (pool.run run).firstWorker (pool.run run).config.threads)
  number : report.stragglers + (joined during).length = (pool.run run).config.threads
  ended : ∀ id worker, pool.workers[id]? = some worker → worker.run = run → id ∉ stragglers during →
    worker.phase.isEnded = true
  /-- A shutdown that was not interrupted has seen every worker exit. -/
  complete : report.interrupted = false →
    (heard during).Perm (List.range (pool.run run).config.threads) ∧ report.stragglers = 0 ∧
      (∀ worker ∈ pool.workers, worker.run = run → worker.phase.isEnded = true) ∧
        pool.runningWorkers = 0

/-- The books of shutdowns are right: of those that go on, and of those that have returned just now. -/
structure Bookkeeping (events : List (Event ι σ)) (pool : PoolSystem ι σ) : Prop where
  tracked : ∀ thread, ∀ shutdown ∈ (pool.activity thread).shutdown?, pool.Tracked shutdown
  balanced : ∀ earlier first during thread report run, events = earlier ++ first :: during →
    Awaits thread first during report → first.taken? = some run → Balanced run during report pool

variable {pool after : PoolSystem ι σ} {now : Instant} {move : Move ι σ}
  {use : Channel.Use (Envelope ι)} {reply : Option (Reply ι)} {events : List (Event ι σ)} {run : RunId}
  {thread : ThreadId} {report : CompletionReport ι}

section Marking

variable {finished : List Bool} {read : List Nat}

theorem marks_replicate (threads : Nat) : Marks (List.replicate threads false) [] := by
  refine ⟨List.nodup_nil, fun index => ?_⟩
  simp [List.getElem?_replicate]

theorem Marks.noted {index : Nat} (marks : Marks finished read) (fresh : finished[index]? = some false) :
    Marks (finished.set index true) (read ++ [index]) := by
  have short := (List.getElem?_eq_some_iff.mp fresh).1
  have unread : index ∉ read := by
    rw [← marks.2, fresh]
    simp
  refine ⟨?_, fun other => ?_⟩
  · rw [← List.concat_eq_append]
    exact marks.1.concat unread
  · rw [List.mem_append, List.mem_singleton, ← marks.2, List.getElem?_set]
    by_cases same : index = other
    · simp [← same, short]
    · simp [same, Ne.symm same]

/-- When all workers are marked, all their notices have been read. -/
theorem Marks.perm (marks : Marks finished read) (all : finished.count false = 0) :
    read.Perm (List.range finished.length) := by
  rw [List.perm_ext_iff_of_nodup marks.1 List.nodup_range]
  intro index
  rw [← marks.2, List.mem_range]
  constructor
  · exact fun marked => (List.getElem?_eq_some_iff.mp marked).1
  · intro short
    have here := List.getElem?_eq_getElem short
    cases marked : finished[index] with
    | true => rw [here, marked]
    | false =>
        rw [marked] at here
        exact absurd (List.mem_of_getElem? here) (List.count_eq_zero.mp all)

end Marking

section Recording

variable {before next : Activity ι} {shutdown : Shutdown} {index : Nat}

/-- A thread that is not about to read a notice or to judge a worker records nothing. -/
theorem Event.quiet {event : Event ι σ}
    (free : ∀ thread, event.move = .proceed thread →
      (event.before.activity thread).isRecording = false) :
    event.heard? = none ∧ event.joined? = none ∧ event.straggler? = none := by
  rcases event with ⟨pool, now, move, after, reply⟩
  cases move with
  | proceed thread =>
      have none := free thread rfl
      cases doing : pool.activity thread <;>
        simp_all [heard?, joined?, straggler?, Activity.awaits, Activity.isRecording]
  | _ => exact ⟨rfl, rfl, rfl⟩

theorem heard?_of_proceed (doing : pool.activity thread = before) :
    Event.heard? (⟨pool, now, .proceed thread, after, reply⟩ : Event ι σ)
      = before.awaits.bind fun run => (pool.run run).notices.head? := by
  simp only [Event.heard?, doing]

theorem joined?_of_judging (doing : pool.activity thread = .judging shutdown report index) :
    Event.joined? (⟨pool, now, .proceed thread, after, reply⟩ : Event ι σ)
      = if index < shutdown.finished.length ∧ pool.hasEnded shutdown.run index = true then
          some ((pool.run shutdown.run).firstWorker + index)
        else none := by
  simp only [Event.joined?, doing]

/-- A shutdown that listens for notices judges nobody. -/
theorem unjudged_of_proceed (doing : pool.activity thread = before)
    (listens : ∀ shutdown report index, before ≠ .judging shutdown report index) :
    Event.joined? (⟨pool, now, .proceed thread, after, reply⟩ : Event ι σ) = none ∧
      Event.straggler? (⟨pool, now, .proceed thread, after, reply⟩ : Event ι σ) = none := by
  cases before with
  | judging => exact absurd rfl (listens _ _ _)
  | _ => simp only [Event.joined?, Event.straggler?, doing, and_self]

variable {read united left : List Nat} {made : Run} {advanced : PoolSystem ι σ}

/-- One worker more is joined or counted as a straggler. -/
theorem judged_perm {first : Nat} (judged : (united ++ left).Perm (List.range' first index)) :
    (united ++ [first + index] ++ left).Perm (List.range' first (index + 1)) ∧
      (united ++ (left ++ [first + index])).Perm (List.range' first (index + 1)) := by
  rw [List.range'_concat, Nat.one_mul, ← List.append_assoc]
  have last := judged.append_right [first + index]
  refine ⟨?_, last⟩
  rw [List.append_assoc]
  refine ((List.perm_append_comm).append_left united).trans ?_
  rwa [← List.append_assoc]

theorem Activity.Booked.quiet {event : Event ι σ} (booked : next.Booked run made read united left)
    (quiet : event.heard? = none ∧ event.joined? = none ∧ event.straggler? = none) :
    next.Booked run made (read ++ event.heard?.toList) (united ++ event.joined?.toList)
      (left ++ event.straggler?.toList) := by
  rw [quiet.1, quiet.2.1, quiet.2.2]
  simpa only [Option.toList_none, List.append_nil] using booked

/-- A shutdown records the worker that it judges, and in the end it has judged all of them. -/
theorem Advance.booked_of_judging
    (advance : Advance pool now (.judging shutdown report index) advanced next)
    (doing : pool.activity thread = .judging shutdown report index) (kept : pool.Kept shutdown)
    (decided : (Activity.judging shutdown report index).Decided)
    (settings : (pool.run run).config = made.config ∧ (pool.run run).firstWorker = made.firstWorker)
    (booked : (Activity.judging shutdown report index).Booked run made read united left) :
    let event : Event ι σ := ⟨pool, now, .proceed thread, advanced.turnTo thread next, none⟩
    next.Booked run made (read ++ event.heard?.toList) (united ++ event.joined?.toList)
      (left ++ event.straggler?.toList) := by
  intro event
  rcases booked with ⟨own, marks, most, judged⟩
  have deaf : event.heard? = none := heard?_of_proceed doing
  have joins : event.joined? = _ := joined?_of_judging doing
  have counts : event.straggler? = _ := straggler?_of_judging doing
  have size : shutdown.finished.length = made.config.threads := by
    rw [kept.recorded.size, own, settings.1]
  rw [activity_turnTo, if_pos rfl] at counts
  rw [own, settings.2] at joins counts
  cases advance with
  | join _ listed ended =>
      have short := (List.getElem?_eq_some_iff.mp listed).1
      rw [if_pos ⟨short, own ▸ ended⟩] at joins
      rw [deaf, joins, counts.trans (if_neg (Nat.lt_irrefl _))]
      refine ⟨own, by simpa using marks, size ▸ short, ?_⟩
      simpa using (judged_perm judged).1
  | detach _ unfinished alive =>
      have short := (List.getElem?_eq_some_iff.mp unfinished).1
      rw [if_neg (by simp [← own, alive])] at joins
      rw [deaf, joins, counts.trans (if_pos (Nat.lt_succ_self _))]
      refine ⟨own, by simpa using marks, size ▸ short, ?_⟩
      simpa using (judged_perm judged).2
  | judge _ all =>
      rw [List.getElem?_eq_none_iff] at all
      rw [if_neg (fun both => absurd both.1 (Nat.not_lt.mpr all))] at joins
      obtain rfl : index = made.config.threads := Nat.le_antisymm most (size ▸ all)
      refine Activity.Booked.quiet ⟨fun unaware => ?_, judged⟩
        ⟨deaf, joins, counts.trans (if_neg (Nat.lt_irrefl _))⟩
      rw [← size]
      refine marks.perm ?_
      rw [← kept.count]
      exact (decided.2 (decided.1 ▸ unaware)).1

/-- A shutdown records the notice that it reads, and the worker that it judges. -/
theorem Advance.booked (advance : Advance pool now before advanced next)
    (doing : pool.activity thread = before)
    (kept : ∀ shutdown ∈ before.shutdown?, pool.Kept shutdown) (decided : before.Decided)
    (settings : (pool.run run).config = made.config ∧ (pool.run run).firstWorker = made.firstWorker)
    (booked : before.Booked run made read united left) :
    let event : Event ι σ := ⟨pool, now, .proceed thread, advanced.turnTo thread next, none⟩
    next.Booked run made (read ++ event.heard?.toList) (united ++ event.joined?.toList)
      (left ++ event.straggler?.toList) := by
  intro event
  by_cases judges : ∃ shutdown report index, before = .judging shutdown report index
  · rcases judges with ⟨shutdown, report, index, rfl⟩
    exact advance.booked_of_judging doing (kept shutdown rfl) decided settings booked
  have unjudged : event.joined? = none ∧ event.straggler? = none :=
    unjudged_of_proceed doing fun shutdown report index same => judges ⟨shutdown, report, index, same⟩
  have hears : event.heard? = _ := heard?_of_proceed doing
  cases advance with
  | signalled | settle | listen => exact booked.quiet ⟨hears, unjudged⟩
  | notice =>
      rcases booked with ⟨_, ⟨⟩, own, marks, nobody⟩
      exact Activity.Booked.quiet ⟨_, rfl, own, marks, nobody⟩ ⟨hears, unjudged⟩
  | force | forgo => exact Activity.Booked.quiet (by split <;> exact booked) ⟨hears, unjudged⟩
  | overflow | overflowUnforced => exact Activity.Booked.quiet trivial ⟨hears, unjudged⟩
  | count =>
      rcases booked with ⟨_, ⟨⟩, own, marks, nobody⟩
      refine Activity.Booked.quiet ⟨own, marks, Nat.zero_le _, ?_⟩ ⟨hears, unjudged⟩
      rw [nobody, List.range'_zero]
  | hearAll deadline empty | relisten empty | expectAll deadline empty | runOut empty =>
      refine booked.quiet ⟨hears.trans ?_, unjudged⟩
      simp [Activity.awaits, empty]
  | complete deadline settled =>
      refine booked.quiet ⟨hears.trans ?_, unjudged⟩
      simp [Activity.awaits, settled]
  | @hear shutdown deadline index rest sent | @expect shutdown deadline index rest unsettled sent =>
      have fresh := (kept _ rfl).recorded.unread index (by rw [sent]; exact List.mem_cons_self)
      have reads : event.heard? = some index := by
        rw [hears]
        simp [Activity.awaits, *]
      rw [reads, unjudged.1, unjudged.2]
      rcases booked with ⟨_, ⟨⟩, own, marks, nobody⟩
      exact ⟨_, rfl, own, marks.noted fresh, by simpa using nobody⟩
  | join | detach | judge => exact absurd ⟨_, _, _, rfl⟩ judges

variable [Inhabited σ]

/-- A thread that goes on with its shutdown keeps its records, and nobody else has anything to record. -/
theorem Transition.booked (step : Transition pool now move use after reply) (custody : Custody pool)
    (noticed : Noticed pool) (shuts : (pool.activity thread).shuts = true)
    (stays : move.party = .caller thread → reply = none)
    (settings : (pool.run run).config = made.config ∧ (pool.run run).firstWorker = made.firstWorker)
    (booked : (pool.activity thread).Booked run made read united left) :
    let event : Event ι σ := ⟨pool, now, move, after, reply⟩
    (after.activity thread).Booked run made (read ++ event.heard?.toList)
      (united ++ event.joined?.toList) (left ++ event.straggler?.toList) := by
  intro event
  by_cases own : move.party = .caller thread
  · have quiet := stays own
    cases step with
    | advance doing advance =>
        cases own
        cases quiet
        have kept := noticed.kept thread
        have decided := noticed.decided thread
        rw [doing] at kept decided booked
        simpa using advance.booked doing kept decided settings booked
    | signal doing | parkSignal doing | sent doing | withdraw doing | desert doing | drain doing =>
        cases own
        rw [doing] at booked
        rw [activity_turnTo, if_pos rfl]
        refine Activity.Booked.quiet booked (Event.quiet ?_)
        rintro other ⟨⟩
        rw [doing]
        rfl
    | breakOff doing =>
        cases own
        rw [doing] at booked
        rcases booked with ⟨_, ⟨⟩, mine, marks, nobody⟩
        rw [activity_turnTo, if_pos rfl]
        refine Activity.Booked.quiet ⟨_, rfl, mine, marks, nobody⟩ (Event.quiet ?_)
        rintro other ⟨⟩
        rw [doing]
        rfl
    | fallShort doing | park doing | clear doing | waitIdle _ doing | takeOver _ doing
    | abandonRunning doing | putBack doing | parkBack doing | restored doing | callOff doing =>
        cases own
        rw [doing] at shuts
        cases shuts
    | look | take | parkWorker | quit | pickUp | despair | timeOut | countOut | notify | finish =>
        cases own
    | _ => cases quiet
  · rw [step.activity_of_ne own]
    refine booked.quiet (Event.quiet ?_)
    rintro other rfl
    by_contra records
    have also : (pool.activity other).shuts = true := by
      cases doing : pool.activity other <;> rw [doing] at records <;>
        first | rfl | exact absurd rfl records
    exact own (congrArg Party.caller (custody.single other thread also shuts))

end Recording

variable [Inhabited σ]

section Paths

theorem Path.settings {start : PoolSystem ι σ} (path : Path start events pool)
    (known : run < start.runs.length) : (pool.run run).config = (start.run run).config ∧
      (pool.run run).firstWorker = (start.run run).firstWorker := by
  induction path with
  | refl => exact ⟨rfl, rfl⟩
  | step path performed ih =>
      have same := (perform_transition performed).settings (Nat.lt_of_lt_of_le known path.runs_length)
      exact ⟨same.1.trans ih.1, same.2.trans ih.2⟩

/-- The workers of the runs that there were at first were there, too. -/
theorem Path.worker_older {start : PoolSystem ι σ} (path : Path start events pool) {id : Nat}
    {worker : Worker ι σ} (found : pool.workers[id]? = some worker)
    (known : worker.run < start.runs.length) :
    ∃ former, start.workers[id]? = some former ∧ worker.run = former.run := by
  induction path generalizing worker with
  | refl => exact ⟨worker, found, rfl⟩
  | step path performed ih =>
      have before := Nat.lt_of_lt_of_le known path.runs_length
      rcases (perform_transition performed).worker_older found before with ⟨middle, there, same, _⟩
      rcases ih there (same ▸ known) with ⟨former, first, run⟩
      exact ⟨former, first, same.trans run⟩

/-- A start needs an idle pool, and nothing else makes a run. -/
theorem Transition.runs_of_busy (step : Transition pool now move use after reply)
    (busy : pool.lifecycle ≠ .idle) : after.runs.length = pool.runs.length := by
  refine step.runs_length_eq ?_ ?_
  · rw [Option.eq_none_iff_forall_ne_some]
    intro run launches
    exact busy (step.rest_of_forgets (Event.forgets_of_launched launches))
  · cases step with
    | abandon _ rest | fallShort _ _ rest => exact absurd rest busy
    | _ => rfl

/-- The run that goes on is the last one that was made. -/
theorem latest_of_history (history : History events pool) (runs : pool.lifecycle = .running run) :
    pool.runs.length = run + 1 := by
  let Latest (pool : PoolSystem ι σ) : Prop :=
    ∀ run, pool.lifecycle = .running run → pool.runs.length = run + 1
  refine history.induction (motive := fun _ pool => Latest pool) ?_ ?_ run runs
  · rintro capacity run ⟨⟩
  · intro events pool now move stepped past latest performed run runs
    have step := perform_transition performed
    rcases step.runs runs with before | ⟨_, _, rfl, thread, config, _, launched⟩
    · exact (step.runs_of_busy (by simp [before])).trans (latest run before)
    · simp [launched, PoolSystem.launch, PoolSystem.finish, recruit]

variable {earlier late : List (Event ι σ)} {final : PoolSystem ι σ}

/-- While a thread has the pool in its hands, nobody makes a run, and its shutdown keeps its records. -/
theorem booked_of_path (history : History earlier pool) (path : Path pool late final)
    (shuts : (pool.activity thread).shuts = true) (known : run < pool.runs.length)
    (stays : ∀ event ∈ late, event.move.party = .caller thread → event.reply = none)
    (booked : (pool.activity thread).Booked run (pool.run run) [] [] []) :
    final.runs.length = pool.runs.length ∧ (final.activity thread).Booked run (pool.run run)
      (heard late) (joined late) (stragglers late) := by
  induction path with
  | refl => exact ⟨rfl, booked⟩
  | @step events middle now move stepped path performed ih =>
      have before := history.append path
      have custody := custody_of_history before
      have step := perform_transition performed
      have earlier_stays : ∀ event ∈ events, event.move.party = .caller thread → event.reply = none :=
        fun event mem => stays event (List.mem_append_left _ mem)
      have held := (detached_of_path history path shuts earlier_stays).1
      rcases ih earlier_stays with ⟨same, records⟩
      refine ⟨?_, ?_⟩
      · rw [step.runs_of_busy (by simp [custody.shut thread held]), same]
      · rw [heard, joined, stragglers, filterMap_append_single, filterMap_append_single,
          filterMap_append_single]
        exact step.booked custody (noticed_of_history before) held
          (stays _ (List.mem_append_right _ List.mem_cons_self)) (path.settings known) records

end Paths

section Returning

variable {earlier during : List (Event ι σ)} {first last : Event ι σ}

/-- A wait that takes a run over has recorded nothing yet. -/
theorem Transition.opens (step : Transition pool now (.begin thread .wait) use after reply)
    (runs : pool.lifecycle = .running run) :
    (after.activity thread).Booked run (after.run run) [] [] [] := by
  cases step with
  | waitBeside _ busy => cases busy.symm.trans runs
  | waitIdle _ _ rest => cases rest.symm.trans runs
  | takeOver span idle also =>
      cases also.symm.trans runs
      rw [activity_turnTo, if_pos rfl]
      exact ⟨_, rfl, rfl, marks_replicate _, rfl⟩

/-- A thread returns its report with a step that leaves the runs alone. -/
theorem Transition.runs_of_report (step : Transition pool now move use after reply)
    (shuts : (pool.activity thread).shuts = true) (own : move.party = .caller thread)
    (replies : reply = some (.report report)) : after.runs = pool.runs := by
  cases step with
  | reset => rfl
  | waitBeside idle =>
      cases own
      rw [idle] at shuts
      cases shuts
  | _ => cases replies

omit [Inhabited σ] in
/-- The step that returns a report records nothing, and nothing becomes of runs and workers with it. -/
theorem Balanced.returned (balanced : Balanced run during report last.before)
    (workers : last.after.workers = last.before.workers) (runs : last.after.runs = last.before.runs)
    (quiet : last.heard? = none ∧ last.joined? = none ∧ last.straggler? = none) :
    Balanced run (during ++ [last]) report last.after := by
  have same : heard (during ++ [last]) = heard during ∧ joined (during ++ [last]) = joined during ∧
      stragglers (during ++ [last]) = stragglers during := by
    simp [heard, joined, stragglers, quiet]
  have made : last.after.run run = last.before.run run := by
    rw [PoolSystem.run, runs, PoolSystem.run]
  refine ⟨?_, ?_, ?_, ?_⟩
  · rw [same.2.1, same.2.2, made]
    exact balanced.workers
  · rw [same.2.1, made]
    exact balanced.number
  · rw [same.2.2, workers]
    exact balanced.ended
  · rw [same.1, made, workers, runningWorkers, runs]
    exact balanced.complete

/-- When a thread returns its report, the workers of its run have ended, or it has counted them. -/
theorem ended_of_resetting (past : History earlier first.before)
    (once : Path first.before [first] first.after) (waiting : Path first.after during pool)
    (shuts : (first.after.activity thread).shuts = true)
    (stays : ∀ event ∈ during, event.move.party = .caller thread → event.reply = none)
    (runs : first.before.lifecycle = .running run) (resets : pool.activity thread = .resetting report)
    {id : Nat} {worker : Worker ι σ} (found : pool.workers[id]? = some worker) (own : worker.run = run)
    (uncounted : id ∉ stragglers during) : worker.phase.isEnded = true := by
  have called := past.append once
  have custody := custody_of_history past
  have free : first.before.lifecycle ≠ .shuttingDown := by simp [runs]
  rcases attended_of_resetting (called.append waiting) resets found with (ended | counted) | panicked
  · exact ended
  -- A worker that was left alone was there before the wait, when its run was still going on.
  all_goals
    rcases (once.append waiting).worker_older found (own ▸ custody.known run runs) with
      ⟨former, there, same⟩
    refine absurd ?_ ((attendance_of_history past).fresh id former there (by rw [runs, ← own, same]))
  · rw [stragglers_append, stragglers_append, stragglers_single,
      Event.straggler?_of_free custody free, Option.toList_none, List.append_nil] at counted
    exact Or.inl ((List.mem_append.mp counted).resolve_right uncounted)
  · rw [forsaken_of_resetting custody free called waiting shuts stays resets] at panicked
    exact Or.inr (same ▸ panicked)

/-- A run whose workers have ended does not count any, and this shows as long as it is the last one. -/
theorem runningWorkers_of_ended (history : History events pool) (started : run ∈ launched events)
    (latest : pool.runs.length = run + 1)
    (ended : ∀ worker ∈ pool.workers, worker.run = run → worker.phase.isEnded = true) :
    pool.runningWorkers = 0 := by
  rw [(shown_of_length latest).2, running_of_history history run started, staff, List.countP_eq_zero]
  intro worker mem both
  rw [Bool.and_eq_true, decide_eq_true_eq] at both
  have gone := ended worker mem both.1
  cases phase : worker.phase <;> rw [phase] at both gone <;> cases both.2 <;> cases gone

/-- A report that is about to be returned accounts for the workers of its run. -/
theorem balanced_of_resetting (past : History earlier first.before)
    (once : Path first.before [first] first.after)
    (begins : Transition first.before first.now (.begin thread .wait) use first.after first.reply)
    (quiet : first.reply = none) (waiting : Path first.after during pool)
    (stays : ∀ event ∈ during, event.move.party = .caller thread → event.reply = none)
    (runs : first.before.lifecycle = .running run)
    (resets : pool.activity thread = .resetting report) : Balanced run during report pool := by
  have called := past.append once
  have history := called.append waiting
  rcases begins.enters_free quiet with ⟨free, shuts, _⟩
  have known := Nat.lt_of_lt_of_le ((custody_of_history past).known run runs) once.runs_length
  have settings := waiting.settings known
  rcases booked_of_path called waiting shuts known stays (begins.opens runs) with ⟨length, records⟩
  have settled := (noticed_of_history history).decided thread
  rw [resets] at records settled
  have counted : report.stragglers = (stragglers during).length := by
    have sum := (detached_of_path called waiting shuts stays).2
    rwa [resets, begins.detached_of_wait free, Nat.zero_add] at sum
  have ended (id : Nat) (worker : Worker ι σ) (found : pool.workers[id]? = some worker)
      (mine : worker.run = run) (uncounted : id ∉ stragglers during) : worker.phase.isEnded = true :=
    ended_of_resetting past once waiting shuts stays runs resets found mine uncounted
  refine ⟨?_, ?_, ended, fun unaware => ⟨?_, settled unaware, ?_⟩⟩
  · rw [settings.1, settings.2]
    exact records.2
  · have sum := records.2.length_eq
    rw [List.length_append, List.length_range'] at sum
    rw [settings.1, counted, Nat.add_comm]
    exact sum
  · rw [settings.1]
    exact records.1 unaware
  · have nobody := List.eq_nil_of_length_eq_zero (counted.symm.trans (settled unaware))
    have gone : ∀ worker ∈ pool.workers, worker.run = run → worker.phase.isEnded = true := by
      intro worker mem mine
      rcases List.getElem?_of_mem mem with ⟨id, found⟩
      exact ended id worker found mine (by rw [nobody]; exact List.not_mem_nil)
    refine ⟨gone, runningWorkers_of_ended history ?_ ?_ gone⟩
    · rcases started_of_history past runs with ⟨older, start, running, rfl, launches⟩
      exact List.mem_filterMap.mpr ⟨start, by simp, launches⟩
    · rw [length, begins.runs_of_busy (by simp [runs]), latest_of_history past runs]

/-- A wait that takes a run over accounts for its workers. -/
theorem balanced_of_history (history : History (earlier ++ first :: during) pool)
    (awaits : Awaits thread first during report) (taken : first.taken? = some run) :
    Balanced run during report pool := by
  have runs := lifecycle_of_taken awaits.begins taken
  rcases history with ⟨capacity, path⟩
  rcases path.split with ⟨middle, before, onward⟩
  rcases onward.first with ⟨rfl, begins, once, waiting⟩
  have past : History earlier first.before := ⟨capacity, before⟩
  rw [awaits.begins] at begins
  rcases awaits.cases with ⟨rfl, replies⟩ | ⟨during, last, rfl, quiet, stays, own, replies⟩
  · cases (begins.beside replies).1.symm.trans runs
  · rcases waiting.split with ⟨ready, listening, ending⟩
    rcases ending.first with ⟨rfl, returns, _, done⟩
    obtain rfl := done.eq_of_nil
    have shuts := (begins.enters_free quiet).2.1
    have held := (detached_of_path (past.append once) listening shuts stays).1
    have resets := (returns.reports held own replies).1
    refine (balanced_of_resetting past once begins quiet listening stays runs resets).returned
      (returns.reports held own replies).2 (returns.runs_of_report held own replies) (Event.quiet ?_)
    intro other proceeds
    rw [proceeds] at own
    rw [Party.caller.inj own, resets]
    rfl

end Returning

/-- **The books of a shutdown are right**, in whatever order workers exit, interrupts are raised and
deadlines pass. -/
theorem bookkeeping_of_history (history : History events pool) : Bookkeeping events pool where
  tracked := fun _ _ doing => tracked_of_history history doing
  balanced := by
    rintro earlier first during thread report run rfl awaits taken
    exact balanced_of_history history awaits taken

/-- The shutdown of the first run is interrupted while its worker has an item in hand, and the one of the
second run is not: its worker is joined. -/
theorem bookkeeping_of_hurried :
    let events := (new (some 1)).trace (hurried ++ unhurried)
    let pool := (new (some 1)).follow (hurried ++ unhurried)
    let reports := events.filterMap fun event =>
      match event.reply with
      | some (.report report) => some (report.interrupted, report.stragglers)
      | _ => none
    taken events = [0, 1] ∧ reports = [(true, 1), (false, 0)] ∧ stragglers events = [0] ∧
      joined events = [1] ∧ heard events = [0] ∧ pool.runningWorkers = 0 ∧ Bookkeeping events pool := by
  intro events pool reports
  refine ⟨by decide, by decide, by decide, by decide, by decide, by decide, ?_⟩
  exact bookkeeping_of_history (history_follow (some 1) (hurried ++ unhurried))

end Coordination.PoolSystem
