import Coordination.Proofs.Pool.Steadiness

/-!
# A graceful shutdown completes the queued work

The queue is first in, first out, and exit signals come into it behind the items that were there before
the shutdown. So a worker that leaves a run that nobody disturbs leaves none of these items behind
(`completed_of_shutdown`), and if nobody was initialized, all of them are reported as pending.

The proof follows the run to the final drain (`orderly_of_path`). No worker is live then, and none comes
to life before the report is there (`gone_of_drain`).
-/

namespace Coordination

namespace PoolSystem

variable {ι σ : Type}

/-- Whether a move disturbs a run. -/
def Move.disturbs : Move ι σ → Bool
  | .begin _ .interrupt | .begin _ .clear => true
  | _ => false

/-- The items that have been accepted. -/
def admitted (events : List (Event ι σ)) : List ι := (events.flatMap Event.accepted).map (·.2)

/-- The items that workers of a run have handled. -/
def completed (run : RunId) (events : List (Event ι σ)) : List ι :=
  ((events.flatMap Event.handled).filter (·.run = run)).map (·.item)

/-- The items that a shutdown has to complete. They were in the queue when the run was started, or, if
its workers block, they were accepted before the shutdown began. -/
def due (mode : QueueMode) (queued : List (Envelope ι)) (running : List (Event ι σ)) : List ι :=
  works queued ++ if mode = .blocking then admitted running else []

/-- The items that were accepted later. -/
def later (mode : QueueMode) (running stopping : List (Event ι σ)) : List ι :=
  (if mode = .blocking then [] else admitted running) ++ admitted stopping

/-- Whether a thread is about to give the pool back after a wait. -/
def Activity.returns : Activity ι → Bool
  | .resetting _ | .unwinding _ => true
  | _ => false

/-- A thread is in its shutdown before and after a step. -/
def Event.Shuts (event : Event ι σ) (thread : ThreadId) : Prop :=
  (event.before.activity thread).isShutting = true ∧ (event.after.activity thread).isShutting = true

/-- A thread has ended its shutdown with the final drain, which gave it the pending items. -/
def Concluded (thread : ThreadId) (report : CompletionReport ι) (events : List (Event ι σ)) : Prop :=
  ∃ (before : List (Event ι σ)) (drain : Event ι σ) (late : List (Event ι σ)),
    events = before ++ drain :: late ∧ (∀ event ∈ before, event.Shuts thread) ∧
      drain.move = .proceed thread ∧ ∃ draft span,
        drain.before.activity thread = .draining draft span ∧
          report = { draft with pending := works drain.before.channel.drain.2 }

variable {pool after : PoolSystem ι σ} {now : Instant} {move : Move ι σ}
  {use : Channel.Use (Envelope ι)} {reply : Option (Reply ι)} {run : RunId}

variable [Inhabited σ]

section Steadiness

/-- Who drains the queue clears it, or ends a shutdown. -/
theorem Transition.drains (step : Transition pool now move use after reply) {party : Party}
    (drains : use = .drain party) : (∃ thread, move = .begin thread .clear) ∨
      ∃ thread, (pool.activity thread).shuts = true ∧ (pool.activity thread).isShutting = true ∧
        (after.activity thread).isShutting = false := by
  cases step with
  | clear => exact Or.inl ⟨_, rfl⟩
  | @drain thread report span doing =>
      refine Or.inr ⟨thread, ?_, ?_, ?_⟩
      · rw [doing]
        rfl
      · rw [doing]
        rfl
      · rw [activity_turnTo, if_pos rfl]
        rfl
  | take found phase taking => rcases taking with rfl | rfl <;> cases drains
  | _ => cases drains

theorem Path.first {start : PoolSystem ι σ} {event : Event ι σ} {events : List (Event ι σ)}
    (path : Path start (event :: events) pool) : event.before = start ∧
      Transition event.before event.now event.move event.use event.after event.reply ∧
        Path start [event] event.after ∧ Path event.after events pool := by
  rcases path.head with ⟨⟨stepped, performed, same⟩, onward⟩
  rcases event with ⟨before, now, move, next, reply⟩
  cases same
  exact ⟨rfl, perform_transition performed, .step .refl performed, onward⟩

theorem Path.event {start : PoolSystem ι σ} {events : List (Event ι σ)} (path : Path start events pool)
    {event : Event ι σ} (mem : event ∈ events) : ∃ before, Path start before event.before ∧
      Transition event.before event.now event.move event.use event.after event.reply := by
  rcases List.append_of_mem mem with ⟨before, late, rfl⟩
  rcases path.split with ⟨middle, first, rest⟩
  rcases rest.first with ⟨rfl, step, _⟩
  exact ⟨before, first, step⟩

/-- A step is steady if no shutdown ends with it. -/
theorem Event.steady {event : Event ι σ} (custody : Custody event.before)
    (step : Transition event.before event.now event.move event.use event.after event.reply)
    (busy : event.before.lifecycle ≠ .idle) (unlocked : event.before.lifecycle ≠ .locked)
    (still : event.after.lifecycle ≠ .idle) (owned : 0 < event.after.owners)
    (calm : event.move.disturbs = false)
    (lasts : event.before.lifecycle = .shuttingDown → ∃ thread, event.Shuts thread) : event.Steady := by
  refine ⟨busy, unlocked, still, ?_, ?_, owned⟩
  · intro party drains
    rcases step.drains drains with ⟨thread, clears⟩ | ⟨thread, shuts, _, ended⟩
    · rw [clears] at calm
      cases calm
    · rcases lasts (custody.shut thread shuts) with ⟨other, before, after⟩
      cases custody.single thread other shuts (shuts_of_isShutting before)
      cases ended.symm.trans after
  · intro thread interrupts
    rw [interrupts] at calm
    cases calm

theorem Path.owned {start : PoolSystem ι σ} {events : List (Event ι σ)} (path : Path start events pool)
    (owned : 0 < pool.owners) : ∀ event ∈ events, 0 < event.after.owners := by
  induction path with
  | refl => exact fun event mem => absurd mem List.not_mem_nil
  | step path performed ih =>
      have before := Nat.pos_of_ne_zero fun none =>
        Nat.ne_of_gt owned ((perform_transition performed).unowned none)
      intro event mem
      rcases List.mem_append.mp mem with first | last
      · exact ih before event first
      · cases List.mem_singleton.mp last
        exact owned

/-- A run that is not over has been running all the time. -/
theorem Path.runs {start : PoolSystem ι σ} {events : List (Event ι σ)} (path : Path start events pool)
    (known : run < start.runs.length) (runs : pool.lifecycle = .running run) :
    start.lifecycle = .running run ∧ ∀ event ∈ events,
      event.before.lifecycle = .running run ∧ event.after.lifecycle = .running run := by
  induction path with
  | refl => exact ⟨runs, fun event mem => absurd mem List.not_mem_nil⟩
  | step path performed ih =>
      rcases (perform_transition performed).runs runs with before | ⟨_, _, fresh, _⟩
      · refine ⟨(ih before).1, ?_⟩
        intro event mem
        rcases List.mem_append.mp mem with first | last
        · exact (ih before).2 event first
        · cases List.mem_singleton.mp last
          exact ⟨before, runs⟩
      · exact absurd (Nat.lt_of_lt_of_le known path.runs_length) (Nat.not_lt.mpr (Nat.le_of_eq fresh.symm))

/-- A thread that is about to give the pool back stays so until it does. -/
theorem Transition.returns (step : Transition pool now move use after reply) {thread : ThreadId}
    (returns : (pool.activity thread).returns = true)
    (silent : move.party = .caller thread → reply = none) :
    after.activity thread = pool.activity thread := by
  by_cases own : move.party = .caller thread
  · have quiet := silent own
    cases step with
    | advance there advance =>
        cases own
        rw [there] at returns
        cases advance <;> cases returns
    | fallShort there | park there | clear there | waitIdle _ there | takeOver _ there
    | abandonRunning there | putBack there | parkBack there | restored there | signal there
    | parkSignal there | sent there | withdraw there | desert there | breakOff there | drain there
    | callOff there =>
        cases own
        rw [there] at returns
        cases returns
    | look | take | parkWorker | quit | pickUp | despair | timeOut | countOut | notify | finish =>
        cases own
    | _ => cases quiet
  · exact step.activity_of_ne own

/-- A shutdown that has produced its report has drained the queue. -/
theorem concluded_of_path {start : PoolSystem ι σ} {events : List (Event ι σ)} {thread : ThreadId}
    (path : Path start events pool) (shutting : (start.activity thread).isShutting = true)
    (stays : ∀ event ∈ events, event.move.party = .caller thread → event.reply = none)
    {report : CompletionReport ι} (reports : pool.activity thread = .resetting report) :
    Concluded thread report events := by
  suffices either : (∀ event ∈ events, event.Shuts thread) ∧ (pool.activity thread).isShutting = true ∨
      (∃ report, pool.activity thread = .resetting report ∧ Concluded thread report events) ∨
      ∃ message, pool.activity thread = .unwinding message by
    rcases either with ⟨_, still⟩ | ⟨same, resets, concluded⟩ | ⟨message, unwinds⟩
    · rw [reports] at still
      cases still
    · cases resets.symm.trans reports
      exact concluded
    · cases unwinds.symm.trans reports
  clear reports report
  induction path with
  | refl => exact Or.inl ⟨fun event mem => absurd mem List.not_mem_nil, shutting⟩
  | @step events middle now move stepped path performed ih =>
      have step := perform_transition performed
      have silent := stays _ (List.mem_append_right _ List.mem_cons_self)
      rcases ih fun event mem => stays event (List.mem_append_left _ mem) with
        ⟨all, shuts⟩ | ⟨report, resets, before, drain, late, rfl, rest⟩ | ⟨message, unwinds⟩
      · rcases step.isShutting shuts with still | ⟨completed, rfl, _, drains, _⟩ | ⟨_, panics⟩
        · refine Or.inl ⟨?_, still⟩
          intro event mem
          rcases List.mem_append.mp mem with first | last
          · exact all event first
          · cases List.mem_singleton.mp last
            exact ⟨shuts, still⟩
        · cases doing : middle.activity thread with
          | draining draft span =>
              refine Or.inr (Or.inl ⟨{ draft with pending := works middle.channel.drain.2 }, ?_, events,
                _, [], rfl, all, rfl, draft, span, doing, rfl⟩)
              rw [state_of_drain doing performed, activity_turnTo, if_pos rfl]
          | _ =>
              rw [doing] at drains
              cases drains
        · exact Or.inr (Or.inr ⟨_, panics⟩)
      · have same := step.returns (by rw [resets]; rfl) silent
        refine Or.inr (Or.inl ⟨report, same.trans resets, before, drain,
          late ++ [⟨middle, now, move, stepped.state, stepped.reply⟩], ?_, rest⟩)
        rw [List.append_assoc, List.cons_append]
      · exact Or.inr (Or.inr ⟨message, (step.returns (by rw [unwinds]; rfl) silent).trans unwinds⟩)

end Steadiness

section Completing

variable {events : List (Event ι σ)} {event : Event ι σ} {thread : ThreadId}

/-- A run that is started when no worker is live begins undisturbed. -/
theorem orderly_of_start {config : PoolConfig} {shortage : Option Shortage} (history : History events pool)
    (retired : ∀ worker ∈ pool.workers, worker.phase.isLive = false)
    (restored : ∀ thread, (pool.activity thread).restores = false)
    (step : Transition pool now (.begin thread (.start config shortage)) use after (some .done)) :
    Orderly pool.channel.queue.toList config.mode pool.runs.length [] after := by
  have custody := custody_of_history history
  cases step with
  | launch idle owned rest valid =>
      have made := run_launch pool thread config
      have fresh {worker : Worker ι σ} (mem : worker ∈ (pool.launch thread config).state.workers) :
          worker.phase.isLive = false ∨
            worker.run = pool.runs.length ∧ worker.phase = .initializing := by
        rcases List.mem_append.mp mem with old | new
        · exact Or.inl (retired worker old)
        · rcases List.mem_map.mp new with ⟨_, _, rfl⟩
          exact Or.inr ⟨rfl, rfl⟩
      refine
        { serene :=
            { known := ?_
              quiet := rfl
              calm := ?_
              going := by rw [made]
              alone := ?_
              restored := ?_ }
          kind := by rw [made]
          balance := List.append_nil _
          handed := ?_
          agents := fun row mem => absurd mem List.not_mem_nil
          own := fun handling mem => absurd mem List.not_mem_nil
          idle := fun _ => ⟨rfl, ?_⟩
          serving := ?_ }
      · simp [PoolSystem.launch, PoolSystem.finish, recruit]
      · intro other shutdown mem
        rw [activity_launch] at mem
        split at mem
        · cases mem
        · cases rest.symm.trans (custody.shut other (shuts_of_shutdown mem))
      · intro worker mem apart
        exact (fresh mem).resolve_right fun new => apart new.1
      · intro other
        rw [activity_launch]
        split
        · rfl
        · exact restored other
      · intro row mem
        rcases waits_of_handed history row mem with ⟨id, _, worker, found, parked⟩
        have dead := retired worker (List.mem_of_getElem? found)
        cases phase : worker.phase <;> rw [phase] at dead parked <;> contradiction
      · intro worker mem
        rcases fresh mem with dead | ⟨_, phase⟩
        · rw [← Bool.not_eq_true]
          intro serves
          cases dead.symm.trans (isLive_of_isServing serves)
        · rw [phase]
          rfl
      · rintro ⟨event, mem, _⟩
        cases mem

omit [Inhabited σ] in
theorem handled_of_gone (gone : ∀ worker ∈ event.before.workers, worker.phase.isLive = false) :
    event.handled = [] := by
  rw [List.eq_nil_iff_forall_not_mem]
  intro handling mem
  cases doing : event.move with
  | answer id memory ending =>
      simp only [Event.handled, doing] at mem
      split at mem
      · rename_i worker found
        rcases List.mem_map.mp mem with ⟨item, taken, _⟩
        cases (gone worker (List.mem_of_getElem? found)).symm.trans (isLive_of_item taken)
      · cases mem
  | _ => simp [Event.handled, doing] at mem

/-- While a thread is about to return its report, no worker comes to life. -/
theorem gone_of_path {earlier : List (Event ι σ)} {start : PoolSystem ι σ}
    {report : CompletionReport ι} (history : History earlier start)
    (gone : ∀ worker ∈ start.workers, worker.phase.isLive = false)
    (resets : start.activity thread = .resetting report) (path : Path start events pool)
    (stays : ∀ event ∈ events, event.move.party = .caller thread → event.reply = none) :
    pool.activity thread = .resetting report ∧ (∀ worker ∈ pool.workers, worker.phase.isLive = false) ∧
      ∀ event ∈ events, ∀ worker ∈ event.before.workers, worker.phase.isLive = false := by
  induction path with
  | refl => exact ⟨resets, gone, fun event mem => absurd mem List.not_mem_nil⟩
  | @step events middle now move stepped path performed ih =>
      have step := perform_transition performed
      rcases ih fun event mem => stays event (List.mem_append_left _ mem) with ⟨doing, dead, all⟩
      have shut := (custody_of_history (history.append path)).shut thread (by rw [doing]; rfl)
      refine ⟨?_, ?_, ?_⟩
      · have silent := stays _ (List.mem_append_right _ List.mem_cons_self)
        exact (step.returns (by rw [doing]; rfl) silent).trans doing
      · intro changed mem
        rcases List.getElem?_of_mem mem with ⟨id, put⟩
        rcases step.worker_before (by simp [shut]) put with ⟨worker, found⟩
        exact step.not_live found put (dead worker (List.mem_of_getElem? found))
      · intro event mem
        rcases List.mem_append.mp mem with first | last
        · exact all event first
        · cases List.mem_singleton.mp last
          exact dead

/-- When a thread is about to drain the queue at the end of an undisturbed shutdown, no worker is
live. -/
theorem Serene.retired (serene : Serene pool run) (history : History events pool)
    (drains : (pool.activity thread).drains = true) :
    ∀ worker ∈ pool.workers, worker.phase.isLive = false := by
  have custody := custody_of_history history
  have shuts : (pool.activity thread).shuts = true := by
    cases doing : pool.activity thread <;> rw [doing] at drains <;> first | rfl | cases drains
  have idle : ¬pool.Underway run := by
    rintro (runs | ⟨other, shutdown, doing, _⟩ | ⟨other, calls⟩)
    · cases runs.symm.trans (custody.shut thread shuts)
    · cases custody.single thread other shuts (shuts_of_shutdown doing)
      cases drains.symm.trans (not_drains_of_shutdown custody doing thread)
    · cases (custody.locked calls).symm.trans (custody.shut thread shuts)
  intro worker mem
  by_cases mine : worker.run = run
  · rcases (released_of_history history).dismissed run idle worker mem mine with terminated | dead
    · cases (mine ▸ terminated).symm.trans serene.going
    · exact dead
  · exact serene.alone worker mem mine

omit [Inhabited σ] in
theorem admitted_eq (events : List (Event ι σ)) : admitted events = works (arrived events) := by
  rw [admitted, arrived, ← map_loads]
  congr 1
  exact (List.filterMap_flatMap).symm

omit [Inhabited σ] in
theorem admitted_append (events others : List (Event ι σ)) :
    admitted (events ++ others) = admitted events ++ admitted others := by
  simp only [admitted, List.flatMap_append, List.map_append]

omit [Inhabited σ] in
/-- A relieved run has taken everything out of the queue that it has to complete. -/
theorem Relieved.all {queued gone rest : List (Envelope ι)} {mode : QueueMode}
    {running : List (Event ι σ)} (relieved : Relieved queued mode gone) (unsignalled : .exit ∉ queued)
    (calm : .exit ∉ arrived running) {others : List (Envelope ι)}
    (balance : queued ++ arrived running ++ others = gone ++ rest) :
    ∃ more, works gone = due mode queued running ++ works more ∧
      works more ++ works rest
        = (if mode = .blocking then [] else admitted running) ++ works others := by
  let bound := if mode = .blocking then queued ++ arrived running else queued
  have whole : bound ++ ((if mode = .blocking then [] else arrived running) ++ others) = gone ++ rest := by
    rw [← balance]
    simp only [bound]
    split <;> simp
  have owes : works bound = due mode queued running := by
    simp only [bound, due, admitted_eq]
    split <;> simp
  have first : bound <+: gone := by
    rcases relieved with exit | ⟨drains, all⟩
    · refine (List.prefix_or_prefix_of_prefix ⟨_, whole⟩ ⟨_, rfl⟩).resolve_right ?_
      intro short
      have among := short.subset exit
      simp only [bound] at among
      split at among
      · exact (List.mem_append.mp among).elim unsignalled calm
      · exact unsignalled among
    · have drained : bound = queued := by simp [bound, drains]
      rwa [drained]
  rcases first with ⟨more, rfl⟩
  refine ⟨more, by rw [works_append, owes], ?_⟩
  rw [List.append_assoc, List.append_cancel_left_eq] at whole
  rw [← works_append, ← whole, works_append, admitted_eq]
  split <;> rfl

omit [Inhabited σ] in
theorem loads_agents {rows : List (Party × Envelope ι)} (agents : ∀ row ∈ rows, row.1.isAgent = true) :
    ∀ row ∈ loads rows, row.1.isAgent = true := by
  intro row mem
  rcases List.mem_filterMap.mp mem with ⟨other, among, same⟩
  rcases Option.map_eq_some_iff.mp same with ⟨item, _, rfl⟩
  exact agents other among

/-- Between two states in which no worker is live, what is removed for workers is handled by them. -/
theorem handled_between {earlier : List (Event ι σ)} {start : PoolSystem ι σ}
    (history : History earlier start) (path : Path start events pool)
    (before : ∀ worker ∈ start.workers, worker.phase.isLive = false)
    (gone : ∀ worker ∈ pool.workers, worker.phase.isLive = false) :
    ((events.flatMap Event.removed).filter (·.1.isAgent)).Perm
      ((events.flatMap Event.handled).map fun handling => (.agent handling.worker, handling.item)) := by
  have first := handled_perm history before
  have all := handled_perm (history.append path) gone
  rw [List.flatMap_append, List.flatMap_append, List.filter_append, List.map_append] at all
  exact (List.perm_append_left_iff _).mp (all.trans (first.symm.append_right _))

/-- What has left the queue in an undisturbed run that is over was handled by its workers. -/
theorem Orderly.handled {queued : List (Envelope ι)} {mode : QueueMode} {earlier : List (Event ι σ)}
    {start : PoolSystem ι σ} (orderly : Orderly queued mode run events pool)
    (history : History earlier start) (path : Path start (event :: events) pool)
    (quiet : event.removed = [] ∧ event.handled = [])
    (before : ∀ worker ∈ start.workers, worker.phase.isLive = false)
    (gone : ∀ worker ∈ pool.workers, worker.phase.isLive = false) :
    (completed run events).Perm (works (departed events)) := by
  have perm := handled_between history path before gone
  rw [List.flatMap_cons, List.flatMap_cons, quiet.1, quiet.2, List.nil_append, List.nil_append] at perm
  have rows : events.flatMap Event.removed = loads (events.flatMap Event.departed) :=
    List.filterMap_flatMap.symm
  have agents : (events.flatMap Event.removed).filter (·.1.isAgent) = events.flatMap Event.removed := by
    rw [List.filter_eq_self, rows]
    exact loads_agents orderly.agents
  have own : (events.flatMap Event.handled).filter (·.run = run) = events.flatMap Event.handled := by
    rw [List.filter_eq_self]
    exact fun handling mem => decide_eq_true (orderly.own handling mem)
  rw [agents, rows] at perm
  have items := (perm.map Prod.snd).symm
  rw [List.map_map, map_loads] at items
  rw [completed, own]
  exact items

omit [Inhabited σ] in
theorem arrived_of_wait (waits : event.move = .begin thread .wait) : arrived [event] = [] := by
  simp [arrived, Event.arrived, Event.use, PoolSystem.use, useOfBegin, waits, Channel.arrivals]

/-- A wait that finds no other shutdown takes the pool over. -/
theorem Transition.takes_charge (step : Transition pool now (.begin thread .wait) use after reply)
    (free : pool.lifecycle ≠ .shuttingDown) :
    (after.activity thread).isShutting = true ∧ after.lifecycle = .shuttingDown ∧ use = .nothing := by
  cases step with
  | waitBeside idle busy => exact absurd busy free
  | waitIdle | takeOver =>
      refine ⟨?_, rfl, rfl⟩
      rw [activity_turnTo, if_pos rfl]
      rfl

/-- Once a thread drains the queue and no worker is live, no step finds a live worker. -/
theorem gone_of_drain {earlier late : List (Event ι σ)} {drain : Event ι σ}
    {reported : PoolSystem ι σ} {draft : CompletionReport ι} {span : Span}
    (history : History earlier drain.before)
    (gone : ∀ worker ∈ drain.before.workers, worker.phase.isLive = false)
    (drains : drain.before.activity thread = .draining draft span)
    (proceeds : drain.move = .proceed thread) (path : Path drain.before (drain :: late) reported)
    (stays : ∀ event ∈ late, event.move.party = .caller thread → event.reply = none) :
    ∀ event ∈ drain :: late, ∀ worker ∈ event.before.workers, worker.phase.isLive = false := by
  rcases path.head with ⟨⟨stepped, performed, same⟩, passes⟩
  have once := (Path.first path).2.2.1
  rw [proceeds] at performed
  have ends := (congrArg Event.after same).trans (state_of_drain drains performed)
  have dead : ∀ worker ∈ drain.after.workers, worker.phase.isLive = false := by
    rw [ends]
    exact gone
  have resets : drain.after.activity thread
      = .resetting { draft with pending := works drain.before.channel.drain.2 } := by
    rw [ends, activity_turnTo, if_pos rfl]
  have quiet := gone_of_path (history.append once) dead resets passes stays
  intro event mem
  rcases List.mem_cons.mp mem with rfl | after
  · exact gone
  · exact quiet.2.2 event after

omit [Inhabited σ] in
/-- What a thread drains is what was in the queue, and what gets into it then. -/
theorem drain_eq {draft : CompletionReport ι} {span : Span}
    (drains : event.before.activity thread = .draining draft span)
    (proceeds : event.move = .proceed thread) :
    event.before.channel.drain.2 = event.before.channel.queue.toList ++ arrived [event] := by
  have use : event.use = .drain (.caller thread) := by
    simp [Event.use, PoolSystem.use, useOfProceed, proceeds, drains]
  rw [arrived, List.flatMap_singleton, Event.arrived, use]
  exact Channel.queue_pull event.before.channel 0

/-- A run is not disturbed while it is running, and while a thread shuts it down. -/
theorem steady_of_shutdown {earlier running before : List (Event ι σ)} {wait : Event ι σ}
    {start drained : PoolSystem ι σ} {caller : ThreadId} (history : History earlier start)
    (path : Path start (running ++ wait :: before) drained)
    (steadily : ∀ event ∈ running,
      event.before.lifecycle = .running run ∧ event.after.lifecycle = .running run)
    (waits : wait.move = .begin caller .wait) (runs : wait.before.lifecycle = .running run)
    (shut : wait.after.lifecycle = .shuttingDown) (shuts : ∀ event ∈ before, event.Shuts caller)
    (owned : ∀ event ∈ running ++ wait :: before, 0 < event.after.owners)
    (calm : ∀ event ∈ running ++ before, event.move.disturbs = false) :
    ∀ event ∈ running ++ wait :: before, event.Steady := by
  intro event mem
  rcases path.event mem with ⟨others, since, step⟩
  have custody := custody_of_history (history.append since)
  have mine := owned event mem
  rcases List.mem_append.mp mem with first | shutdown
  · rcases steadily event first with ⟨held, holds⟩
    refine Event.steady custody step (by simp [held]) (by simp [held]) (by simp [holds]) mine
      (calm event (List.mem_append_left _ first)) ?_
    intro busy
    cases held.symm.trans busy
  · rcases List.mem_cons.mp shutdown with rfl | second
    · refine Event.steady custody step (by simp [runs]) (by simp [runs]) (by simp [shut]) mine
        (by rw [waits]; rfl) ?_
      intro busy
      cases runs.symm.trans busy
    · rcases shuts event second with ⟨held, holds⟩
      have shut := custody.shut caller (shuts_of_isShutting held)
      have keeps := (custody_of_transition custody step).shut caller (shuts_of_isShutting holds)
      refine Event.steady custody step (by simp [shut]) (by simp [shut]) (by simp [keeps]) mine ?_ ?_
      · exact calm event (List.mem_append_right _ second)
      · exact fun _ => ⟨caller, held, holds⟩

omit [Inhabited σ] in
theorem completed_append_of_gone {events late : List (Event ι σ)}
    (gone : ∀ event ∈ late, ∀ worker ∈ event.before.workers, worker.phase.isLive = false) :
    completed run (events ++ late) = completed run events := by
  have silent : late.flatMap Event.handled = [] :=
    List.flatMap_eq_nil_iff.mpr fun event mem => handled_of_gone (gone event mem)
  rw [completed, List.flatMap_append, silent, List.append_nil, completed]

omit [Inhabited σ] in
/-- The queue was first in, first out, up to what the drain has taken. -/
theorem Orderly.balance_of_drain {queued : List (Envelope ι)} {mode : QueueMode}
    {running before : List (Event ι σ)} {wait drain : Event ι σ} {draft : CompletionReport ι}
    {span : Span} (orderly : Orderly queued mode run (running ++ wait :: before) drain.before)
    {caller : ThreadId} (waits : wait.move = .begin caller .wait)
    (drains : drain.before.activity thread = .draining draft span)
    (proceeds : drain.move = .proceed thread) :
    queued ++ arrived running ++ (arrived before ++ arrived [drain])
      = departed (running ++ wait :: before) ++ drain.before.channel.drain.2 := by
  have skip : arrived (wait :: before) = arrived before := by
    rw [← List.singleton_append, arrived_append, arrived_of_wait waits, List.nil_append]
  rw [drain_eq drains proceeds, ← List.append_assoc (departed _), ← orderly.balance, arrived_append, skip]
  simp

omit [Inhabited σ] in
theorem later_drain (mode : QueueMode) (running before late : List (Event ι σ)) (drain : Event ι σ) :
    later mode running (before ++ drain :: late)
      = (if mode = .blocking then [] else admitted running)
        ++ works (arrived before ++ arrived [drain]) ++ admitted late := by
  rw [later, List.append_cons, admitted_append, admitted_append, admitted_eq before,
    admitted_eq [drain], works_append]
  simp

omit [Inhabited σ] in
theorem not_initializes_of_gone (gone : ∀ worker ∈ event.before.workers, worker.phase.isLive = false) :
    ¬event.Initializes run := by
  rintro ⟨id, worker, _, found, _, phase, _⟩
  have dead := gone worker (List.mem_of_getElem? found)
  rw [phase] at dead
  cases dead

/-- **A graceful shutdown completes the queued work.** When a run is started while no worker is live
and no exit signal is in the queue, and nobody interrupts it or clears the queue until its report is
there, what is due was handled by its workers, together with some of what was accepted later, and what
is pending comes after that. If no worker was initialized, what is due is pending, in its order. The
thread that waits is one of the owners of the pool, so there are owners to the end. -/
theorem completed_of_shutdown {earlier running stopping : List (Event ι σ)} {start wait : Event ι σ}
    {reported : PoolSystem ι σ} {starter caller : ThreadId} {config : PoolConfig}
    {shortage : Option Shortage} {report : CompletionReport ι} (history : History earlier pool)
    (path : Path pool (start :: (running ++ wait :: stopping)) reported)
    (retired : ∀ worker ∈ pool.workers, worker.phase.isLive = false)
    (unsignalled : .exit ∉ pool.channel.queue.toList)
    (restored : ∀ thread, (pool.activity thread).restores = false)
    (starts : start.move = .begin starter (.start config shortage)) (started : start.reply = some .done)
    (waits : wait.move = .begin caller .wait)
    (runs : wait.before.lifecycle = .running pool.runs.length)
    (calm : ∀ event ∈ running ++ stopping, event.move.disturbs = false)
    (stays : ∀ event ∈ stopping, event.move.party = .caller caller → event.reply = none)
    (owned : 0 < reported.owners) (reports : reported.activity caller = .resetting report) :
    let events := running ++ wait :: stopping
    let due := due config.mode pool.channel.queue.toList running
    ((∃ event ∈ events, event.Initializes pool.runs.length) →
      ∃ late, (completed pool.runs.length events).Perm (due ++ late) ∧
        late ++ report.pending <+: later config.mode running stopping) ∧
    ((∀ event ∈ events, ¬event.Initializes pool.runs.length) →
      ∃ late, report.pending = due ++ late ∧ late <+: later config.mode running stopping) := by
  intro events due
  rcases path.first with ⟨rfl, launched, one, onward⟩
  rcases onward.split with ⟨middle, ran, charged⟩
  rcases charged.first with ⟨rfl, charge, _, shutting⟩
  rcases (waits ▸ charge).takes_charge (by simp [runs]) with ⟨charges, shut, _⟩
  rcases concluded_of_path shutting charges stays reports with
    ⟨before, drain, late, rfl, shuts, proceeds, draft, span, drains, rfl⟩
  rw [← List.cons_append, ← List.append_assoc] at onward
  rcases onward.split with ⟨drained, undrained, ending⟩
  rcases ending.first with ⟨rfl, _, last, passes⟩
  have begun := history.append one
  have orderly := orderly_of_start history retired restored (starts ▸ started ▸ launched)
  have steadily := ran.runs orderly.serene.known runs
  have steady := steady_of_shutdown begun undrained steadily.2 waits runs shut shuts
    (fun event mem => onward.owned owned event (List.mem_append_left _ mem))
    fun event mem => calm event ((List.mem_append.mp mem).elim (List.mem_append_left _)
      fun second => List.mem_append_right _ (List.mem_append_left _ second))
  have final := orderly_of_path begun orderly undrained steady
  have unsent := unsignalled_of_path begun orderly ran
    (fun event mem => steady event (List.mem_append_left _ mem)) fun event mem => (steadily.2 event mem).1
  -- Then no worker is live, and none comes to life.
  have gone := final.serene.retired (begun.append undrained) (by rw [drains]; rfl)
  have still := gone_of_drain (begun.append undrained) gone drains proceeds ending
    fun event mem => stays event (List.mem_append_right _ (List.mem_cons_of_mem _ mem))
  have parts : events = (running ++ wait :: before) ++ drain :: late := by
    simp [events]
  have handled : (completed start.before.runs.length events).Perm
      (works (departed (running ++ wait :: before))) := by
    rw [parts, completed_append_of_gone still]
    refine final.handled history (one.append undrained) ?_ retired gone
    simp [Event.removed, Event.handled, Event.use, PoolSystem.use, useOfBegin, starts,
      Channel.departures]
  have balance := final.balance_of_drain waits drains proceeds
  have rest := later_drain config.mode running before late drain
  refine ⟨?_, ?_⟩
  · rintro ⟨event, mem, initializes⟩
    have within : event ∈ running ++ wait :: before := by
      rw [parts, List.mem_append] at mem
      refine mem.resolve_right fun after => ?_
      exact not_initializes_of_gone (still event after) initializes
    rcases final.serving ⟨event, within, initializes⟩ with relieved | ⟨worker, among, serves⟩
    · rcases relieved.all unsignalled unsent balance with ⟨more, whole, left⟩
      refine ⟨works more, whole ▸ handled, ?_⟩
      rw [rest, ← left]
      exact List.prefix_append _ _
    · cases (gone worker among).symm.trans (isLive_of_isServing serves)
  · intro none
    have empty := (final.idle fun event mem => none event (parts ▸ List.mem_append_left _ mem)).1
    refine ⟨(if config.mode = .blocking then [] else admitted running)
      ++ works (arrived before ++ arrived [drain]), ?_, ?_⟩
    · rw [empty, List.nil_append] at balance
      rw [← balance, works_append, works_append, ← admitted_eq running]
      simp only [due, PoolSystem.due]
      split <;> simp
    · rw [rest]
      exact List.prefix_append _ _

/-- The room of the queue is taken when the run is started. -/
def untilStart : List (Instant × Move Nat Unit) := [(0, .begin 0 (.add 1))]

/-- One of two workers cannot be initialized, and a producer waits for room. -/
def untilFull : List (Instant × Move Nat Unit) :=
  [.answer 0 () (.failed "no memory"), .answer 1 () .done, .begin 1 (.add 2), .work 1, .work 1].map (0, ·)

/-- The first exit signal has to wait for room, the second one is left unsent, and an item comes too
late. -/
def untilReport : List (Instant × Move Nat Unit) :=
  [.proceed 0, .proceed 1, .begin 2 (.add 3), .answer 1 () .done, .work 1, .work 1, .answer 1 () .done,
    .work 1, .work 1, .answer 1 () .done, .work 1, .work 1, .work 1, .work 0, .work 0, .work 0,
    .proceed 0, .proceed 0].map (0, ·) ++ List.replicate 12 (60000000, .proceed 0)

theorem completed_of_untilReport :
    let pool := (new (some 1)).follow untilStart
    let began := (pool.perform 0 (.begin 0 (.start (.blocking 2)))).get (by decide)
    let full := began.state.follow untilFull
    let taken := (full.perform 0 (.begin 0 .wait)).get (by decide)
    let running := began.state.trace untilFull
    let stopping := taken.state.trace untilReport
    let wait : Event Nat Unit := ⟨full, 0, .begin 0 .wait, taken.state, taken.reply⟩
    let events := running ++ wait :: stopping
    due .blocking pool.channel.queue.toList running = [1, 2] ∧
      later .blocking running stopping = [3] ∧
      (∃ event ∈ events, event.Initializes pool.runs.length) ∧
      ∃ late, (completed pool.runs.length events).Perm ([1, 2] ++ late) ∧ late ++ [3] <+: [3] := by
  intro pool began full taken running stopping wait events
  let start : Event Nat Unit := ⟨pool, 0, .begin 0 (.start (.blocking 2)), began.state, began.reply⟩
  have started : Path pool [start] began.state := .step .refl (Option.some_get _).symm
  have ran : Path began.state running full := by simpa using Path.refl.follow untilFull
  have waited : Path full [wait] taken.state := .step .refl (Option.some_get _).symm
  have stopped : Path taken.state stopping (taken.state.follow untilReport) := by
    simpa using Path.refl.follow untilReport
  have path := started.append (ran.append (waited.append stopped))
  rw [List.singleton_append, List.singleton_append] at path
  have owed : due .blocking pool.channel.queue.toList running = [1, 2] := by decide
  have more : later .blocking running stopping = [3] := by decide
  have served : ∃ event ∈ events, event.Initializes pool.runs.length := by
    have among : running.get ⟨1, by decide⟩ ∈ running := List.get_mem running _
    refine ⟨_, List.mem_append_left _ among, 1, ⟨0, 1, .blocking, (), .initializing, 0⟩, (), ?_⟩
    exact ⟨by decide, by decide, by decide, rfl⟩
  have reports : (taken.state.follow untilReport).activity 0
      = .resetting { pending := [3], stats := { processed := 2, initFailures := 1 } } := by decide
  have done := completed_of_shutdown (history_follow (some 1) untilStart) path (by decide) (by decide)
    ((unrestored_iff pool).mp (by decide)) rfl (by decide) rfl (by decide) (by decide) (by decide)
    (by decide) reports
  obtain ⟨late, handled, rest⟩ : ∃ late, (completed pool.runs.length events).Perm
        (due .blocking pool.channel.queue.toList running ++ late) ∧
      late ++ [3] <+: later .blocking running stopping := done.1 served
  rw [owed] at handled
  rw [more] at rest
  exact ⟨owed, more, served, late, handled, rest⟩

end Completing

end PoolSystem

end Coordination
