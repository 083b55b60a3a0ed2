import Coordination.Proofs.Pool.Conservation
import Coordination.Proofs.Pool.Staffing

/-!
# The life of a worker

Whatever the callbacks of a worker do and whatever it finds in the queue, its calls come in one order. It
initializes itself once; if that fails, nothing follows. Otherwise it processes the items that it takes,
one after the other, and tells its failure callback of each one that was not processed, before it takes
the next. In the end it cleans up once. Every call is given the memory that the one before it has left, be
it by a panic. (`Life` says all this of a worker that is past its last call, `Course` of any worker.)

What a worker does to the counts of its run is read off its own steps (`grown`), since the others of its
run change the same counts: a call that processed its item counts, one that did not counts as failed, and
no other call counts but a failed initialization. On its way out the worker is counted out once and
sends one notice.
-/

namespace Coordination

/-- What the failure callback is told of a call that has failed or panicked. -/
def CallbackEnding.failure? : CallbackEnding → Option String
  | .done => none
  | .failed error => some error
  | .panicked text => some ("process panicked: " ++ panicText text)

namespace Worker

/-- A callback, with what it is told. -/
inductive Callback (ι : Type) where
  | init
  | process (item : ι)
  | handleFailure (item : ι) (error : String)
  | cleanup
deriving DecidableEq, Repr

/-- The callback that a worker runs. -/
def Phase.callback? {ι : Type} : Phase ι → Option (Callback ι)
  | .initializing => some .init
  | .processing item => some (.process item)
  | .failing item error => some (.handleFailure item error)
  | .cleaning => some .cleanup
  | _ => none

/-- A call of a callback that has ended, with the memory that it was given and the one it has left. -/
structure Call (ι σ : Type) where
  callback : Callback ι
  given : σ
  left : σ
  ending : CallbackEnding
deriving DecidableEq, Repr

namespace Call

variable {ι σ : Type} (call : Call ι σ)

/-- Whether a call has processed its item. -/
def succeeds : Bool :=
  match call.callback with
  | .process _ => call.ending = .done
  | _ => false

/-- Whether a call has not processed its item. -/
def fails : Bool :=
  match call.callback with
  | .process _ => call.ending ≠ .done
  | _ => false

/-- Whether a call has not initialized its worker. -/
def aborts : Bool :=
  match call.callback with
  | .init => call.ending ≠ .done
  | _ => false

end Call

variable {ι σ : Type}

/-- Calls that serve some items one after the other, from one memory to another. -/
inductive Served (first : σ) : List ι → List (Call ι σ) → σ → Prop where
  | none : Served first [] [] first
  | done {items : List ι} {calls : List (Call ι σ)} {given left : σ} {item : ι}
      (served : Served first items calls given) :
      Served first (items ++ [item]) (calls ++ [⟨.process item, given, left, .done⟩]) left
  | failed {items : List ι} {calls : List (Call ι σ)} {given between left : σ} {item : ι}
      {error : String} {ending hook : CallbackEnding} (served : Served first items calls given)
      (failure : ending.failure? = some error) :
      Served first (items ++ [item])
        (calls ++ [⟨.process item, given, between, ending⟩,
          ⟨.handleFailure item error, between, left, hook⟩])
        left

/-- All calls of a worker that has taken some items. -/
inductive Life : List ι → List (Call ι σ) → Prop where
  | stillborn {given left : σ} {ending : CallbackEnding} (aborted : ending ≠ .done) :
      Life [] [⟨.init, given, left, ending⟩]
  | lived {taken : List ι} {calls : List (Call ι σ)} {given first last left : σ} {ending : CallbackEnding}
      (served : Served first taken calls last) :
      Life taken (⟨.init, given, first, .done⟩ :: calls ++ [⟨.cleanup, last, left, ending⟩])

/-- Whether a worker is past its last call. -/
def Phase.isPast : Phase ι → Bool
  | .leaving | .notifying | .ending | .ended => true
  | _ => false

/-- Whether a worker has been initialized and is in the middle of no item. -/
def Phase.isFree : Phase ι → Bool
  | .ready | .taking | .parked _ | .cleaning => true
  | _ => false

theorem Phase.isPast_of_isFree {phase : Phase ι} (free : phase.isFree = true) : phase.isPast = false := by
  cases phase <;> first | rfl | cases free

theorem Phase.callback?_of_calls {phase : Phase ι} (calls : phase.calls = true) :
    ∃ callback, phase.callback? = some callback := by
  cases phase <;> first | exact ⟨_, rfl⟩ | cases calls

theorem Phase.callback?_of_isPast {phase : Phase ι} (past : phase.isPast = true) :
    phase.callback? = none := by
  cases phase <;> simp_all [isPast, callback?]

/-- A worker that is free runs at most its last callback. -/
theorem Phase.eq_cleaning_of_isFree {phase : Phase ι} {callback : Callback ι} (free : phase.isFree = true)
    (runs : phase.callback? = some callback) : phase = .cleaning := by
  cases phase <;> simp_all [isFree, callback?]

/-- The calls so far of a worker that has taken some items. -/
inductive Course : Phase ι → σ → List ι → List (Call ι σ) → Prop where
  | initializing {memory : σ} : Course .initializing memory [] []
  | free {phase : Phase ι} {memory given first : σ} {taken : List ι} {calls : List (Call ι σ)}
      (free : phase.isFree = true) (served : Served first taken calls memory) :
      Course phase memory taken (⟨.init, given, first, .done⟩ :: calls)
  | processing {memory given first : σ} {taken : List ι} {calls : List (Call ι σ)} {item : ι}
      (served : Served first taken calls memory) :
      Course (.processing item) memory (taken ++ [item]) (⟨.init, given, first, .done⟩ :: calls)
  | failing {memory given first between : σ} {taken : List ι} {calls : List (Call ι σ)} {item : ι}
      {error : String} {ending : CallbackEnding} (served : Served first taken calls between)
      (failure : ending.failure? = some error) :
      Course (.failing item error) memory (taken ++ [item])
        (⟨.init, given, first, .done⟩ :: (calls ++ [⟨.process item, between, memory, ending⟩]))
  | past {phase : Phase ι} {memory : σ} {taken : List ι} {calls : List (Call ι σ)}
      (past : phase.isPast = true) (life : Life taken calls) : Course phase memory taken calls

section Phases

variable {worker : Worker ι σ} {memory : σ} {taken : List ι} {calls : List (Call ι σ)}

/-- A worker that is free stays so, or it takes an item. -/
theorem Course.take {phase next : Phase ι} (course : Course phase memory taken calls)
    (before : phase.isFree = true) (after : next.isFree = true ∨ ∃ item, next = .processing item) :
    Course next memory (taken ++ next.item?.toList) calls := by
  cases course with
  | free _ served =>
      rcases after with free | ⟨item, rfl⟩
      · have nothing : next.item? = none := by cases next <;> first | rfl | cases free
        rw [nothing, Option.toList_none, List.append_nil]
        exact .free free served
      · exact .processing served
  | initializing | processing | failing => cases before
  | past past => cases past.symm.trans (Phase.isPast_of_isFree before)

theorem Course.life {phase : Phase ι} (course : Course phase memory taken calls)
    (past : phase.isPast = true) : Life taken calls := by
  cases course with
  | past _ life => exact life
  | initializing | processing | failing => cases past
  | free free => cases past.symm.trans (Phase.isPast_of_isFree free)

/-- The end of a callback is one call more. -/
theorem Course.answer {given left : σ} {ending : CallbackEnding} {callback : Callback ι}
    (course : Course worker.phase given taken calls) (runs : worker.phase.callback? = some callback) :
    Course ({ worker with memory := left }.afterCallback ending).1.phase left taken
      (calls ++ [⟨callback, given, left, ending⟩]) := by
  rcases worker with ⟨run, index, mode, memory, phase, handled⟩
  dsimp only at course runs
  cases course with
  | initializing =>
      cases runs
      cases ending with
      | done => exact .free rfl .none
      | failed error => exact .past rfl (.stillborn nofun)
      | panicked text => exact .past rfl (.stillborn nofun)
  | free free served =>
      obtain rfl := Phase.eq_cleaning_of_isFree free runs
      cases runs
      refine .past ?_ (.lived served)
      cases ending <;> rfl
  | processing served =>
      cases runs
      cases ending with
      | done => exact .free rfl served.done
      | failed error => exact .failing served rfl
      | panicked text => exact .failing served rfl
  | failing served failure =>
      cases runs
      rw [List.cons_append, List.append_assoc]
      refine .free ?_ (served.failed failure)
      cases ending <;> rfl
  | past past => cases runs.symm.trans (Phase.callback?_of_isPast past)

/-- The end of a callback counts its call. -/
theorem count_eq_of_callback {callback : Callback ι} (runs : worker.phase.callback? = some callback)
    (given left : σ) (ending : CallbackEnding) (stats : PoolStats) :
    worker.count ending stats =
      { processed := stats.processed + [Call.mk callback given left ending].countP Call.succeeds,
        failed := stats.failed + [Call.mk callback given left ending].countP Call.fails,
        initFailures := stats.initFailures + [Call.mk callback given left ending].countP Call.aborts } := by
  rcases worker with ⟨run, index, mode, memory, phase, handled⟩
  cases phase <;> cases runs <;> cases ending <;> rfl

theorem memory_afterCallback (worker : Worker ι σ) (ending : CallbackEnding) :
    (worker.afterCallback ending).1.memory = worker.memory := by
  rcases worker with ⟨run, index, mode, memory, phase, handled⟩
  cases phase <;> cases ending <;> rfl

end Phases

end Worker

namespace PoolSystem

open Channel (share)
open Worker (Call Course Life)

variable {ι σ : Type}

/-- The call of a callback that ends. -/
def Event.call? (event : Event ι σ) : Option (Call ι σ) :=
  match event.move with
  | .answer id memory ending =>
      event.before.workers[id]?.bind fun worker =>
        worker.phase.callback?.map (⟨·, worker.memory, memory, ending⟩)
  | _ => none

/-- The steps that a worker makes itself. -/
def stepsOf (events : List (Event ι σ)) (id : Nat) : List (Event ι σ) :=
  events.filter (·.move.party = .agent id)

/-- The calls of its callbacks that have ended. -/
def callsOf (events : List (Event ι σ)) (id : Nat) : List (Call ι σ) :=
  (stepsOf events id).filterMap Event.call?

/-- How much a worker has added to a count of a run by its own steps. -/
def grown (events : List (Event ι σ)) (id : Nat) (run : RunId) (count : Run → Nat) : Int :=
  (stepsOf events id).foldl
    (fun sum event => sum + (count (event.after.run run) - count (event.before.run run))) 0

/-- The notices that a worker has added to those of a run. -/
def noticesOf (events : List (Event ι σ)) (id : Nat) (run : RunId) : List Nat :=
  (stepsOf events id).flatMap fun event =>
    (event.after.run run).notices.drop (event.before.run run).notices.length

/-- What a worker has done to the counts of its run. -/
structure Accounted (events : List (Event ι σ)) (id : Nat) (worker : Worker ι σ) : Prop where
  processed : grown events id worker.run (·.stats.processed) = (callsOf events id).countP Call.succeeds
  failed : grown events id worker.run (·.stats.failed) = (callsOf events id).countP Call.fails
  initFailures : grown events id worker.run (·.stats.initFailures)
    = (callsOf events id).countP Call.aborts
  running : grown events id worker.run (·.running) = if worker.phase.isCounted then 0 else -1
  notices : noticesOf events id worker.run = if worker.phase.isNoted then [worker.index] else []

/-- What is known of a worker at any time. -/
structure Lived (events : List (Event ι σ)) (id : Nat) (worker : Worker ι σ) : Prop where
  course : Course worker.phase worker.memory (share (.agent id) (events.flatMap Event.begun))
    (callsOf events id)
  accounted : Accounted events id worker

section Steps

variable {events : List (Event ι σ)} {event : Event ι σ} {id : Nat}

theorem stepsOf_own (own : event.move.party = .agent id) :
    stepsOf (events ++ [event]) id = stepsOf events id ++ [event] := by
  simp [stepsOf, own]

theorem stepsOf_other (events : List (Event ι σ)) (apart : event.move.party ≠ .agent id) :
    stepsOf (events ++ [event]) id = stepsOf events id := by
  simp [stepsOf, apart]

theorem callsOf_own (own : event.move.party = .agent id) :
    callsOf (events ++ [event]) id = callsOf events id ++ event.call?.toList := by
  rw [callsOf, stepsOf_own own, List.filterMap_append, callsOf]
  cases called : event.call? <;> simp [called]

theorem share_begun_of_ne (apart : event.move.party ≠ .agent id) : share (.agent id) event.begun = [] := by
  rcases event with ⟨before, now, move, after, reply⟩
  cases move with
  | work other => exact (Channel.share_pairs _ _ _).trans (if_neg apart)
  | _ => rfl

theorem begun_append (events : List (Event ι σ)) (event : Event ι σ) (id : Nat) :
    share (.agent id) ((events ++ [event]).flatMap Event.begun)
      = share (.agent id) (events.flatMap Event.begun) ++ share (.agent id) event.begun := by
  simp

/-- A worker that has made no step yet. -/
theorem Lived.start {worker : Worker ι σ} (steps : stepsOf events id = [])
    (begun : share (.agent id) (events.flatMap Event.begun) = [])
    (phase : worker.phase = .initializing) : Lived events id worker := by
  refine ⟨?_, ?_⟩
  · rw [phase, begun, callsOf, steps]
    exact .initializing
  · constructor <;> simp [grown, callsOf, noticesOf, steps, phase, Worker.Phase.isCounted,
      Worker.Phase.isNoted]

/-- The steps of others are none of a worker's. -/
theorem Lived.other {worker : Worker ι σ} (lived : Lived events id worker)
    (apart : event.move.party ≠ .agent id) : Lived (events ++ [event]) id worker := by
  have steps := stepsOf_other events apart
  have calls : callsOf (events ++ [event]) id = callsOf events id := by rw [callsOf, steps, callsOf]
  refine ⟨?_, ?_⟩
  · rw [begun_append, share_begun_of_ne apart, List.append_nil, calls]
    exact lived.course
  · rcases lived.accounted with ⟨processed, failed, initFailures, running, notices⟩
    refine ⟨?_, ?_, ?_, ?_, ?_⟩
    · rwa [grown, steps, calls]
    · rwa [grown, steps, calls]
    · rwa [grown, steps, calls]
    · rwa [grown, steps]
    · rwa [noticesOf, steps]

theorem Staffed.running_pos {pool : PoolSystem ι σ} {worker : Worker ι σ} (staffed : Staffed pool)
    (found : pool.workers[id]? = some worker) (counted : worker.phase.isCounted = true) :
    0 < (pool.run worker.run).running := by
  refine Nat.lt_of_lt_of_le (List.countP_pos_iff.mpr ⟨worker, List.mem_of_getElem? found, ?_⟩)
    (staffed worker.run)
  simp [counted]

end Steps

variable [Inhabited σ] {events : List (Event ι σ)} {pool after : PoolSystem ι σ} {now : Instant}
  {move : Move ι σ} {use : Channel.Use (Envelope ι)} {reply : Option (Reply ι)} {id : Nat}
  {worker changed : Worker ι σ}

/-- A worker has to be there to make a step. -/
theorem Transition.found_of_party (step : Transition pool now move use after reply)
    (own : move.party = .agent id) : ∃ worker, pool.workers[id]? = some worker := by
  cases step with
  | look found | take found | parkWorker found | quit found | pickUp found | despair found | timeOut found
  | countOut found | notify found | finish found | answer found =>
      cases own
      exact ⟨_, found⟩
  | _ => cases own

theorem Transition.course (step : Transition pool now move use after reply)
    (found : pool.workers[id]? = some worker) (own : move.party = .agent id)
    (changes : after.workers[id]? = some changed) {taken : List ι} {calls : List (Call ι σ)}
    (course : Course worker.phase worker.memory taken calls) :
    Course changed.phase changed.memory
      (taken ++ share (.agent id) (Event.begun ⟨pool, now, move, after, reply⟩))
      (calls ++ (Event.call? ⟨pool, now, move, after, reply⟩).toList) := by
  have works {next : Worker ι σ} (put : after.workers[id]? = some next)
      (course : Course next.phase next.memory (taken ++ next.phase.item?.toList) calls) :
      Course changed.phase changed.memory
        (taken ++ share (.agent id) (Event.begun ⟨pool, now, .work id, after, reply⟩))
        (calls ++ (Event.call? ⟨pool, now, .work id, after, reply⟩).toList) := by
    cases changes.symm.trans put
    rw [begun_of_found put, Channel.share_pairs, if_pos rfl]
    simpa [Event.call?] using course
  have takes {envelope : Envelope ι} (free : worker.phase.isFree = true) :
      Course (worker.afterTake (some envelope)).1.phase (worker.afterTake (some envelope)).1.memory
        (taken ++ (worker.afterTake (some envelope)).1.phase.item?.toList) calls := by
    cases envelope with
    | work item => exact course.take free (Or.inr ⟨item, rfl⟩)
    | exit => exact course.take free (Or.inl rfl)
  cases step with
  | look mine phase =>
      cases own
      cases mine.symm.trans found
      refine works (found_put found _) ?_
      cases (pool.run worker.run).terminated <;> exact course.take (by rw [phase]; rfl) (Or.inl rfl)
  | take mine phase | pickUp mine phase =>
      cases own
      cases mine.symm.trans found
      exact works (found_put found _) (takes (by rw [phase]; rfl))
  | parkWorker mine phase | quit mine phase | despair mine phase | timeOut mine phase =>
      cases own
      cases mine.symm.trans found
      exact works (found_put found _) (course.take (by rw [phase]; rfl) (Or.inl rfl))
  | countOut mine phase | notify mine phase | finish mine phase =>
      cases own
      cases mine.symm.trans found
      refine works (found_put found _) ?_
      exact (List.append_nil taken).symm ▸ .past rfl (course.life (by rw [phase]; rfl))
  | @answer _ _ memory ending mine runs =>
      cases own
      cases mine.symm.trans found
      cases changes.symm.trans (found_put found _)
      rcases Worker.Phase.callback?_of_calls runs with ⟨callback, runs⟩
      rw [Worker.memory_afterCallback]
      simpa [Event.call?, Event.begun, found, runs] using course.answer runs
  | _ => cases own

/-- What the step of a worker does to the counts of its run is what the call that ends with it counts. -/
theorem Transition.stats_of_own (step : Transition pool now move use after reply) (crew : Crew pool)
    (found : pool.workers[id]? = some worker) (own : move.party = .agent id) :
    let calls := (Event.call? ⟨pool, now, move, after, reply⟩).toList
    (after.run worker.run).stats =
      { processed := (pool.run worker.run).stats.processed + calls.countP Call.succeeds,
        failed := (pool.run worker.run).stats.failed + calls.countP Call.fails,
        initFailures := (pool.run worker.run).stats.initFailures + calls.countP Call.aborts } := by
  cases move with
  | begin | proceed => cases own
  | work => exact step.stats_same (by intro _ _ _ same; cases same) worker.run
  | answer other memory ending =>
      cases own
      cases step with
      | answer mine runs =>
          cases mine.symm.trans found
          rcases Worker.Phase.callback?_of_calls runs with ⟨callback, runs⟩
          have known := (crew.placed id worker found).known
          rw [stats_count_put known, if_pos rfl, Worker.count_eq_of_callback runs worker.memory memory]
          simp [Event.call?, found, runs]

/-- A worker counts itself out as it leaves, then it sends its notice, and it does neither in any other of
its steps. -/
theorem Transition.exits (step : Transition pool now move use after reply) (crew : Crew pool)
    (found : pool.workers[id]? = some worker) (own : move.party = .agent id)
    (changes : after.workers[id]? = some changed) :
    (changed.phase.isCounted = worker.phase.isCounted ∧
        changed.phase.isNoted = worker.phase.isNoted ∧
        (after.run worker.run).running = (pool.run worker.run).running ∧
        (after.run worker.run).notices = (pool.run worker.run).notices) ∨
      (worker.phase = .leaving ∧ changed.phase = .notifying ∧
        (after.run worker.run).running = (pool.run worker.run).running - 1 ∧
        (after.run worker.run).notices = (pool.run worker.run).notices) ∨
      (worker.phase = .notifying ∧ changed.phase = .ending ∧
        (after.run worker.run).running = (pool.run worker.run).running ∧
        (after.run worker.run).notices = (pool.run worker.run).notices ++ [worker.index]) := by
  have known := (crew.placed id worker found).known
  cases step with
  | look mine phase =>
      cases own
      cases mine.symm.trans found
      cases changes.symm.trans (found_put found _)
      refine Or.inl ⟨?_, ?_, rfl, rfl⟩
      · rw [isCounted_afterLook, phase]
        rfl
      · rw [Worker.isNoted_afterLook, phase]
        rfl
  | take mine phase | pickUp mine phase =>
      cases own
      cases mine.symm.trans found
      cases changes.symm.trans (found_put found _)
      refine Or.inl ⟨?_, ?_, rfl, rfl⟩
      · rw [isCounted_afterTake, phase]
        rfl
      · rw [Worker.isNoted_afterTake, phase]
        rfl
  | parkWorker mine phase | quit mine phase | despair mine phase | timeOut mine phase
  | finish mine phase =>
      cases own
      cases mine.symm.trans found
      cases changes.symm.trans (found_put found _)
      exact Or.inl ⟨by rw [phase]; rfl, by rw [phase]; rfl, rfl, rfl⟩
  | countOut mine phase =>
      cases own
      cases mine.symm.trans found
      cases changes.symm.trans (found_put found _)
      refine Or.inr (Or.inl ⟨phase, rfl, ?_, ?_⟩)
      · exact congrArg Run.running ((run_modifyRun pool _ worker.run _).trans (if_pos ⟨rfl, known⟩))
      · exact field_modifyRun Run.notices _ _ (by intro _; rfl) _
  | notify mine phase =>
      cases own
      cases mine.symm.trans found
      cases changes.symm.trans (found_put found _)
      refine Or.inr (Or.inr ⟨phase, rfl, ?_, ?_⟩)
      · exact field_modifyRun Run.running _ _ (by intro _; rfl) _
      · exact congrArg Run.notices ((run_modifyRun pool _ worker.run _).trans (if_pos ⟨rfl, known⟩))
  | @answer _ _ memory ending mine runs =>
      cases own
      cases mine.symm.trans found
      cases changes.symm.trans (found_put found _)
      refine Or.inl ⟨?_, ?_, field_modifyRun Run.running _ _ (by intro _; rfl) _,
        field_modifyRun Run.notices _ _ (by intro _; rfl) _⟩
      · exact (isCounted_afterCallback { worker with memory } runs ending).trans
          (isCounted_of_calls runs).symm
      · exact (Worker.isNoted_afterCallback { worker with memory } runs ending).trans
          (Worker.Phase.not_isNoted_of_calls runs).symm
  | _ => cases own

/-- The step of a worker keeps its accounts. -/
theorem Accounted.step (accounted : Accounted events id worker) (crew : Crew pool) (staffed : Staffed pool)
    (step : Transition pool now move use after reply) (found : pool.workers[id]? = some worker)
    (own : move.party = .agent id) (changes : after.workers[id]? = some changed)
    (run : changed.run = worker.run) (index : changed.index = worker.index) :
    Accounted (events ++ [⟨pool, now, move, after, reply⟩]) id changed := by
  have steps : stepsOf (events ++ [⟨pool, now, move, after, reply⟩]) id
      = stepsOf events id ++ [⟨pool, now, move, after, reply⟩] := stepsOf_own own
  have stats := step.stats_of_own crew found own
  have grows (count : Run → Nat) :
      grown (events ++ [⟨pool, now, move, after, reply⟩]) id worker.run count
        = grown events id worker.run count
          + ((count (after.run worker.run) : Int) - count (pool.run worker.run)) := by
    simp [grown, steps]
  have calls : callsOf (events ++ [⟨pool, now, move, after, reply⟩]) id
      = callsOf events id ++ (Event.call? ⟨pool, now, move, after, reply⟩).toList := callsOf_own own
  have notices : noticesOf (events ++ [⟨pool, now, move, after, reply⟩]) id worker.run
      = noticesOf events id worker.run
        ++ (after.run worker.run).notices.drop (pool.run worker.run).notices.length := by
    simp [noticesOf, steps]
  constructor
  · rw [run, grows, stats, calls, accounted.processed, List.countP_append]
    push_cast
    omega
  · rw [run, grows, stats, calls, accounted.failed, List.countP_append]
    push_cast
    omega
  · rw [run, grows, stats, calls, accounted.initFailures, List.countP_append]
    push_cast
    omega
  · rw [run, grows, accounted.running]
    rcases step.exits crew found own changes with ⟨counted, _, same, _⟩ | ⟨phase, next, less, _⟩ |
      ⟨phase, next, same, _⟩
    · rw [counted, same, Int.sub_self, Int.add_zero]
    · have counted := staffed.running_pos found (by rw [phase]; rfl)
      simp only [phase, next, less, Worker.Phase.isCounted, if_true, Bool.false_eq_true, if_false]
      omega
    · simp [phase, next, same, Worker.Phase.isCounted]
  · rw [run, index, notices, accounted.notices]
    rcases step.exits crew found own changes with ⟨_, notified, _, same⟩ | ⟨phase, next, _, same⟩ |
      ⟨phase, next, _, more⟩
    · simp [notified, same]
    · simp [phase, next, same, Worker.Phase.isNoted]
    · simp [phase, next, more, Worker.Phase.isNoted]

theorem lived_of_history (history : History events pool) :
    (∀ worker, pool.workers[id]? = some worker → Lived events id worker) ∧
      (pool.workers[id]? = none → stepsOf events id = [] ∧
        share (.agent id) (events.flatMap Event.begun) = []) := by
  refine history.induction (motive := fun events pool =>
    (∀ worker, pool.workers[id]? = some worker → Lived events id worker) ∧
      (pool.workers[id]? = none → stepsOf events id = [] ∧
        share (.agent id) (events.flatMap Event.begun) = [])) ?_ ?_
  · intro capacity
    refine ⟨?_, fun _ => ⟨rfl, rfl⟩⟩
    intro worker found
    cases found
  · rintro events pool now move stepped history ⟨lived, unborn⟩ performed
    have step := perform_transition performed
    by_cases own : move.party = .agent id
    · rcases step.found_of_party own with ⟨worker, found⟩
      rcases step.worker_same found with ⟨changed, changes, run, index, _⟩
      refine ⟨?_, ?_⟩
      · intro other found'
        cases changes.symm.trans found'
        refine ⟨?_, (lived worker found).accounted.step (crew_of_history history)
          (staffed_of_history history) step found own changes run index⟩
        rw [begun_append, callsOf_own own]
        exact step.course found own changes (lived worker found).course
      · intro gone
        cases gone.symm.trans changes
    · cases former : pool.workers[id]? with
      | some worker =>
          have kept := step.worker_of_ne former own
          refine ⟨?_, ?_⟩
          · intro other found
            cases kept.symm.trans found
            exact (lived worker former).other own
          · intro gone
            cases gone.symm.trans kept
      | none =>
          rcases unborn former with ⟨steps, begun⟩
          refine ⟨?_, ?_⟩
          · intro worker found
            rcases step.worker_new former found with ⟨_, _, _, _, _, _, rfl⟩
            exact (Lived.start steps begun rfl).other own
          · intro _
            rw [stepsOf_other _ own, begun_append, begun, share_begun_of_ne own]
            exact ⟨steps, rfl⟩

/-- A worker that has not ended can take a step, at the latest when it stops waiting for an envelope. -/
theorem exists_move_of_worker (found : pool.workers[id]? = some worker) (alive : worker.phase ≠ .ended) :
    ∃ now, ∃ move : Move ι σ, move.party = .agent id ∧ (pool.perform now move).isSome = true := by
  have works (now : Instant) (performed : (pool.work now id worker).isSome = true) :
      ∃ now, ∃ move : Move ι σ, move.party = .agent id ∧ (pool.perform now move).isSome = true :=
    ⟨now, .work id, rfl, by simpa [perform, PoolSystem.step, found] using performed⟩
  have answers (calls : worker.phase.calls = true) :
      ∃ now, ∃ move : Move ι σ, move.party = .agent id ∧ (pool.perform now move).isSome = true :=
    ⟨0, .answer id default .done, rfl, by simp [perform, phase?, found, calls]⟩
  cases phase : worker.phase with
  | initializing | processing item | failing item error | cleaning => exact answers (by rw [phase]; rfl)
  | ready | taking | leaving | notifying | ending => exact works 0 (by simp [PoolSystem.work, phase])
  | parked deadline =>
      refine works deadline ?_
      simp only [PoolSystem.work, phase, Option.isSome_map, Worker.wakeAt]
      split
      · rfl
      · split <;> simp
  | ended => exact absurd phase alive

/-- Whatever its callbacks do and whatever it finds in the queue, the calls of a worker follow its course
over the items that have left the queue for it, and add to the counts of its run what they have done. The
worker can go on until it ends. Once it has ended, its calls are a whole life over all these items, the run
counts one worker less, and the worker has sent one notice. -/
theorem life_of_worker (history : History events pool) (found : pool.workers[id]? = some worker) :
    ∃ taken,
      share (.agent id) (events.flatMap Event.removed)
          = taken ++ share (.agent id) (loads pool.channel.handed) ∧
        Course worker.phase worker.memory taken (callsOf events id) ∧
        Accounted events id worker ∧
        (worker.phase ≠ .ended →
          ∃ now, ∃ move : Move ι σ, move.party = .agent id ∧ (pool.perform now move).isSome = true) ∧
        (worker.phase = .ended →
          share (.agent id) (events.flatMap Event.removed) = taken ∧ Life taken (callsOf events id) ∧
            grown events id worker.run (·.running) = -1 ∧
            noticesOf events id worker.run = [worker.index]) := by
  have lived := (lived_of_history history).1 worker found
  have removed := begun_balance history id
  refine ⟨_, removed, lived.course, lived.accounted, exists_move_of_worker found, ?_⟩
  intro ended
  have course := lived.course
  rw [ended] at course
  have stands : ¬pool.Waits id := by
    rintro ⟨other, found', parked⟩
    cases found.symm.trans found'
    rw [ended] at parked
    cases parked
  have seated := (parking_of_history history).seated
  refine ⟨?_, ?_, ?_, ?_⟩
  · rw [removed, share_loads _ pool.channel.handed, seated.share_handed_agent stands, works_nil,
      List.append_nil]
  · exact course.life rfl
  · rw [lived.accounted.running, ended]
    rfl
  · rw [lived.accounted.notices, ended]
    rfl

/-- A worker fails with its first item, as does its failure callback, but not with the second one. Then it
gets an exit signal. -/
def serving : List (Instant × Move Nat Nat) :=
  [(0, .begin 0 (.start (.blocking 1))), (0, .answer 0 10 .done), (1, .begin 0 (.add 1)),
    (1, .begin 0 (.add 2)), (2, .work 0), (2, .work 0), (3, .answer 0 11 (.panicked none)),
    (4, .answer 0 12 (.panicked none)), (5, .work 0), (5, .work 0), (6, .answer 0 13 .done),
    (7, .begin 0 .wait), (7, .proceed 0), (8, .work 0), (8, .work 0), (9, .answer 0 14 .done),
    (10, .work 0), (10, .work 0), (10, .work 0)]

theorem life_of_serving :
    let events := (new none).trace serving
    let pool := (new none).follow serving
    History events pool ∧ (pool.workers[0]?.map (·.phase)) = some .ended ∧
      callsOf events 0 =
        [⟨.init, 0, 10, .done⟩, ⟨.process 1, 10, 11, .panicked none⟩,
          ⟨.handleFailure 1 "process panicked: unknown panic payload", 11, 12, .panicked none⟩,
          ⟨.process 2, 12, 13, .done⟩, ⟨.cleanup, 13, 14, .done⟩] ∧
      share (.agent 0) (events.flatMap Event.removed) = [1, 2] ∧
      Life [1, 2] (callsOf events 0) ∧ noticesOf events 0 0 = [0] := by
  have history := history_follow (none : Option Nat) serving
  have found : ((new none).follow serving).workers[0]? = some
      { run := 0, index := 0, mode := .blocking, memory := 14, phase := .ended, handled := 2 } := by
    decide
  rcases life_of_worker history found with ⟨taken, _, _, _, _, whole⟩
  rcases whole rfl with ⟨removed, life, _, notices⟩
  have items : share (.agent 0) (((new none).trace serving).flatMap Event.removed) = [1, 2] := by decide
  refine ⟨history, by decide, by decide, items, ?_, notices⟩
  rw [← items, removed]
  exact life

end PoolSystem

end Coordination
