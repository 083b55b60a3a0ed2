import Coordination.Proofs.Pool.Reports
import Coordination.Proofs.Pool.Sufficiency

/-!
# Runs that nobody disturbs

A run that nobody interrupts goes on until its workers leave of their own accord, and a worker that
serves leaves for two reasons only: it has an exit signal, or it drains and finds the queue empty
(`Transition.leaves`).

A run is followed from its start along steps that do not disturb it (`Event.Steady`). The state of such a
run keeps some properties that do not refer to the past (`Serene`). What has got into the queue since the
start, and what has left it, is counted by `Orderly`, which is kept too (`orderly_of_path`).
-/

namespace Coordination

/-- Whether a worker was initialized and has not begun to leave. -/
def Worker.Phase.isServing {ι : Type} : Worker.Phase ι → Bool
  | .ready | .taking | .parked _ | .processing _ | .failing _ _ => true
  | _ => false

namespace Channel

variable {α : Type} {channel : Channel α} {use : Use α}

theorem mem_arrivals {row : Party × α} (mem : row ∈ channel.arrivals use) :
    (∃ party, use = .send party row.2 ∨ use = .offer party row.2) ∨ row ∈ channel.senders := by
  cases use with
  | send party message =>
      simp only [arrivals] at mem
      split at mem
      · cases List.mem_singleton.mp mem
        exact Or.inl ⟨party, Or.inl rfl⟩
      · cases mem
  | offer party message =>
      simp only [arrivals] at mem
      split at mem
      · cases List.mem_singleton.mp mem
        exact Or.inl ⟨party, Or.inr rfl⟩
      · cases mem
  | take | seek | drain | look => exact Or.inr (List.mem_of_mem_take mem)
  | nothing | withdraw | pickUp | leave | close => cases mem

/-- What is handed to a receiver departs when it is handed over. -/
theorem mem_handed_or_departures {row : Party × α} (mem : row ∈ (channel.after use).handed) :
    row ∈ channel.handed ∨ row ∈ channel.departures use := by
  have serves {offered : Channel α} {message : α} (sent : channel.offer? message = some offered)
      (mem : row ∈ offered.handed) :
      row ∈ channel.handed ∨ row ∈ (channel.receivers.head?.map (·, message)).toList := by
    rwa [handed_of_offer? sent, List.mem_append] at mem
  cases use with
  | send party message | offer party message =>
      cases sent : channel.offer? message with
      | some offered =>
          simp only [after, sent, Option.getD_some] at mem
          exact serves sent mem
      | none =>
          simp only [after, sent, Option.getD_none] at mem
          exact Or.inl mem
  | take party =>
      rw [handed_after_take, handed_take] at mem
      exact Or.inl mem
  | seek party => exact Or.inl (channel.handed_take ▸ mem)
  | pickUp party => exact Or.inl (List.mem_filter.mp mem).1
  | nothing | withdraw | drain | look | leave | close => exact Or.inl mem

end Channel

namespace PoolSystem

variable {ι σ : Type}

/-- A step that does not disturb a run: nobody interrupts, nobody drains the queue, the pool does not
come to rest, no start has it locked, and somebody owns it. -/
structure Steady (pool : PoolSystem ι σ) (move : Move ι σ) (use : Channel.Use (Envelope ι))
    (after : PoolSystem ι σ) : Prop where
  busy : pool.lifecycle ≠ .idle
  unlocked : pool.lifecycle ≠ .locked
  still : after.lifecycle ≠ .idle
  undrained : ∀ party, use ≠ .drain party
  calm : ∀ thread, move ≠ .begin thread .interrupt
  owned : 0 < after.owners

def Event.Steady (event : Event ι σ) : Prop :=
  PoolSystem.Steady event.before event.move event.use event.after

/-- A run that is not disturbed. -/
structure Serene (pool : PoolSystem ι σ) (run : RunId) : Prop where
  known : run < pool.runs.length
  quiet : pool.interrupts = 0
  calm : ∀ thread, ∀ shutdown ∈ (pool.activity thread).shutdown?, shutdown.interrupted = false
  going : (pool.run run).terminated = false
  alone : ∀ worker ∈ pool.workers, worker.run ≠ run → worker.phase.isLive = false
  restored : ∀ thread, (pool.activity thread).restores = false

/-- Whether the initialization of a worker of a run succeeds. -/
def Event.Initializes (event : Event ι σ) (run : RunId) : Prop :=
  ∃ id worker memory, event.before.workers[id]? = some worker ∧ worker.run = run ∧
    worker.phase = .initializing ∧ event.move = .answer id memory .done

/-- The envelopes that have got into the queue. -/
def arrived (events : List (Event ι σ)) : List (Envelope ι) := (events.flatMap Event.arrived).map (·.2)

/-- The envelopes that have left the queue. -/
def departed (events : List (Event ι σ)) : List (Envelope ι) := (events.flatMap Event.departed).map (·.2)

/-- A worker has had a reason to leave: an exit signal has left the queue, or a run that drains has seen
the end of what was in the queue. -/
def Relieved (queued : List (Envelope ι)) (mode : QueueMode) (departed : List (Envelope ι)) : Prop :=
  .exit ∈ departed ∨ mode = .draining ∧ queued <+: departed

/-- What an undisturbed run has done to a queue since it was started. -/
structure Orderly (queued : List (Envelope ι)) (mode : QueueMode) (run : RunId)
    (events : List (Event ι σ)) (pool : PoolSystem ι σ) : Prop where
  serene : Serene pool run
  kind : (pool.run run).config.mode = mode
  balance : queued ++ arrived events = departed events ++ pool.channel.queue.toList
  handed : ∀ row ∈ pool.channel.handed, row.2 = .exit → .exit ∈ departed events
  agents : ∀ row ∈ events.flatMap Event.departed, row.1.isAgent = true
  own : ∀ handling ∈ events.flatMap Event.handled, handling.run = run
  idle : (∀ event ∈ events, ¬event.Initializes run) →
    departed events = [] ∧ ∀ worker ∈ pool.workers, worker.phase.isServing = false
  serving : (∃ event ∈ events, event.Initializes run) →
    Relieved queued mode (departed events) ∨
      ∃ worker ∈ pool.workers, worker.phase.isServing = true

variable {pool after : PoolSystem ι σ} {now : Instant} {move : Move ι σ}
  {use : Channel.Use (Envelope ι)} {reply : Option (Reply ι)} {run : RunId}

section Advancing

variable {before next : Activity ι} {advanced : PoolSystem ι σ}

/-- Without interrupts a shutdown does not learn of one. -/
theorem Advance.calm (advance : Advance pool now before advanced next) (quiet : pool.interrupts = 0)
    (calm : ∀ shutdown ∈ before.shutdown?, shutdown.interrupted = false) :
    advanced.interrupts = 0 ∧ ∀ shutdown ∈ next.shutdown?, shutdown.interrupted = false := by
  cases advance with
  | notice unsettled interrupted => exact absurd quiet (Nat.ne_of_gt interrupted)
  | force interrupted | overflow interrupted => exact absurd (calm _ rfl) (by simp [interrupted])
  | forgo uninterrupted =>
      refine ⟨quiet, ?_⟩
      intro shutdown mem
      split at mem <;> cases mem <;> exact uninterrupted
  | judge | overflowUnforced => exact ⟨quiet, by rintro shutdown ⟨⟩⟩
  | @hear shutdown | @expect shutdown =>
      refine ⟨quiet, ?_⟩
      rintro _ ⟨⟩
      exact calm shutdown rfl
  | _ =>
      refine ⟨quiet, ?_⟩
      rintro shutdown ⟨⟩
      exact calm _ rfl

theorem Advance.going (advance : Advance pool now before advanced next)
    (calm : ∀ shutdown ∈ before.shutdown?, shutdown.interrupted = false) (run : RunId) :
    (advanced.run run).terminated = (pool.run run).terminated := by
  cases advance with
  | hear | expect => exact field_modifyRun Run.terminated _ _ (by intro _; rfl) run
  | force interrupted | overflow interrupted => exact absurd (calm _ rfl) (by simp [interrupted])
  | _ => rfl

end Advancing

variable [Inhabited σ]

section Steadying

/-- A thread puts exit signals back only after it has drained the queue. -/
theorem Transition.restored_before (step : Transition pool now move use after reply)
    (undrained : ∀ party, use ≠ .drain party) {thread : ThreadId}
    (restores : (after.activity thread).restores = true) :
    (pool.activity thread).restores = true := by
  by_cases own : move.party = .caller thread
  · cases step with
    | clear | drain => exact absurd rfl (undrained _)
    | putBack doing | parkBack doing | restored doing =>
        cases own
        exact congrArg Activity.restores doing
    | advance doing advance =>
        cases own
        rw [activity_turnTo, if_pos rfl, advance.isShutting.2] at restores
        cases restores
    | ignore => exact restores
    | look | take | parkWorker | quit | pickUp | despair | timeOut | countOut | notify | finish
    | answer => cases own
    | _ =>
        cases own
        simp [Activity.restores] at restores
  · rwa [step.activity_of_ne own] at restores

/-- Without interrupts no shutdown learns of one. -/
theorem Transition.calm (step : Transition pool now move use after reply)
    (calm : ∀ thread, move ≠ .begin thread .interrupt) (quiet : pool.interrupts = 0)
    (unaware : ∀ thread, ∀ shutdown ∈ (pool.activity thread).shutdown?, shutdown.interrupted = false) :
    after.interrupts = 0 ∧
      ∀ thread, ∀ shutdown ∈ (after.activity thread).shutdown?, shutdown.interrupted = false := by
  have others (thread : ThreadId) (apart : move.party ≠ .caller thread) :
      ∀ shutdown ∈ (after.activity thread).shutdown?, shutdown.interrupted = false := by
    rw [step.activity_of_ne apart]
    exact unaware thread
  have turned {next : Activity ι} {thread : ThreadId} (own : move.party = .caller thread)
      (same : after.activity thread = next)
      (mine : ∀ shutdown ∈ next.shutdown?, shutdown.interrupted = false) :
      ∀ thread, ∀ shutdown ∈ (after.activity thread).shutdown?, shutdown.interrupted = false := by
    intro other
    by_cases also : move.party = .caller other
    · cases own.symm.trans also
      rwa [same]
    · exact others other also
  cases step with
  | interrupt => exact absurd rfl (calm _)
  | breakOff doing elapsed interrupted => exact absurd quiet (Nat.ne_of_gt interrupted)
  | advance doing advance =>
      have heard := advance.calm quiet (by rw [← doing]; exact unaware _)
      refine ⟨heard.1, turned rfl ?_ heard.2⟩
      rw [activity_turnTo, if_pos rfl]
  | takeOver span idle runs =>
      refine ⟨quiet, turned rfl (by rw [activity_turnTo, if_pos rfl]) ?_⟩
      rintro shutdown ⟨⟩
      rfl
  | signal doing | parkSignal doing | sent doing | withdraw doing | desert doing =>
      refine ⟨quiet, turned rfl (by rw [activity_turnTo, if_pos rfl]) ?_⟩
      rintro shutdown ⟨⟩
      exact unaware _ _ (by rw [doing]; rfl)
  | ignore => exact ⟨quiet, unaware⟩
  | look | take | parkWorker | quit | pickUp | despair | timeOut | countOut | notify | finish
  | answer => exact ⟨quiet, unaware⟩
  | launch | fallShort | abandon =>
      refine ⟨rfl, turned rfl ((activity_turnTo _ _ _ _).trans (if_pos rfl)) ?_⟩
      rintro shutdown ⟨⟩
  | _ =>
      refine ⟨quiet, turned rfl ((activity_turnTo _ _ _ _).trans (if_pos rfl)) ?_⟩
      rintro shutdown ⟨⟩

/-- A run is terminated only by a shutdown that was interrupted, by a start that calls it off, or when its
pool is given up. -/
theorem Transition.goes_on (step : Transition pool now move use after reply) (custody : Custody pool)
    (unlocked : pool.lifecycle ≠ .locked) (owned : 0 < after.owners) (known : run < pool.runs.length)
    (unaware : ∀ thread, ∀ shutdown ∈ (pool.activity thread).shutdown?, shutdown.interrupted = false) :
    (after.run run).terminated = (pool.run run).terminated := by
  have old {next : PoolSystem ι σ} {made : Run} (more : next.runs = pool.runs ++ [made]) :
      (next.run run).terminated = (pool.run run).terminated := by
    rw [run_append more, if_neg (Nat.ne_of_lt known)]
  cases step with
  | launch | fallShort | abandon => exact old rfl
  | abandonRunning => cases owned
  | callOff doing => exact absurd (custody.locked (by rw [doing]; rfl)) unlocked
  | advance doing advance => exact advance.going (by rw [← doing]; exact unaware _) run
  | countOut | notify | answer => exact field_modifyRun Run.terminated _ _ (by intro _; rfl) run
  | _ => rfl

/-- A run stays undisturbed. -/
theorem Serene.keep (serene : Serene pool run) (custody : Custody pool)
    (step : Transition pool now move use after reply) (steady : Steady pool move use after) :
    Serene after run := by
  have calm := step.calm steady.calm serene.quiet serene.calm
  refine
    { known := Nat.lt_of_lt_of_le serene.known step.runs_length
      quiet := calm.1
      calm := calm.2
      going := ?_
      alone := step.alone steady.busy serene.alone
      restored := ?_ }
  · rw [step.goes_on custody steady.unlocked steady.owned serene.known serene.calm, serene.going]
  · intro thread
    rw [← Bool.not_eq_true]
    intro restores
    have before := step.restored_before steady.undrained restores
    rw [serene.restored thread] at before
    cases before

end Steadying

section Serving

/-- Exit signals come only from threads that put some back and from a shutdown. -/
theorem Transition.exit_arrives (step : Transition pool now move use after reply) (sending : Sending pool)
    {row : Party × Envelope ι} (mem : row ∈ pool.channel.arrivals use) (exit : row.2 = .exit) :
    ∃ thread, (pool.activity thread).restores = true ∨ (pool.activity thread).isShutting = true := by
  rcases Channel.mem_arrivals mem with ⟨party, sends⟩ | parked
  · rw [exit] at sends
    rcases step.sends_exit sends with ⟨thread, restores | ⟨shutting, _⟩⟩
    · exact ⟨thread, Or.inl restores⟩
    · exact ⟨thread, Or.inr shutting⟩
  · rcases sending.parked row parked with ⟨thread, _, parks⟩
    rw [exit] at parks
    refine ⟨thread, ?_⟩
    cases doing : pool.activity thread <;> rw [doing] at parks <;>
      first | exact Or.inl rfl | exact Or.inr rfl | cases parks

/-- Envelopes that leave the queue go to workers that serve, unless a thread drains the queue. -/
theorem Transition.departs (step : Transition pool now move use after reply) (seated : Seated pool)
    (undrained : ∀ party, use ≠ .drain party) {row : Party × Envelope ι}
    (mem : row ∈ pool.channel.departures use) :
    ∃ id worker, row.1 = .agent id ∧ pool.workers[id]? = some worker ∧
      worker.phase.isServing = true := by
  have parked {message : Envelope ι}
      (mem : row ∈ (pool.channel.receivers.head?.map (·, message)).toList) :
      ∃ id worker, row.1 = .agent id ∧ pool.workers[id]? = some worker ∧
        worker.phase.isServing = true := by
    rcases Option.map_eq_some_iff.mp (Option.mem_toList.mp mem) with ⟨party, first, rfl⟩
    rcases (seated.seats party).mp (List.mem_append_left _ (List.mem_of_head? first)) with
      ⟨id, same, worker, found, waits⟩
    refine ⟨id, worker, same, found, ?_⟩
    cases phase : worker.phase <;> rw [phase] at waits <;> first | rfl | cases waits
  have taking {id : Nat} {worker : Worker ι σ} (found : pool.workers[id]? = some worker)
      (phase : worker.phase = .taking)
      (mem : row ∈ (pool.channel.take.2.map ((.agent id : Party), ·)).toList) :
      ∃ id worker, row.1 = .agent id ∧ pool.workers[id]? = some worker ∧
        worker.phase.isServing = true := by
    rcases Option.map_eq_some_iff.mp (Option.mem_toList.mp mem) with ⟨message, _, rfl⟩
    exact ⟨id, worker, rfl, found, congrArg Worker.Phase.isServing phase⟩
  cases step with
  | add | park | offer | putBack | parkBack | signal | parkSignal => exact parked mem
  | take found phase taken => rcases taken with rfl | rfl <;> exact taking found phase mem
  | parkWorker found phase | quit found phase => exact taking found phase mem
  | clear | drain => exact absurd rfl (undrained _)
  | _ => cases mem

omit [Inhabited σ] in
/-- No callback but the last keeps a worker from serving on. -/
theorem serves_afterCallback (worker : Worker ι σ) (serves : worker.phase.isServing = true)
    (ending : CallbackEnding) : (worker.afterCallback ending).1.phase.isServing = true := by
  cases phase : worker.phase <;> rw [phase] at serves <;> try cases serves
  case processing =>
    cases ending <;> simp [Worker.afterCallback, phase, Worker.afterItem, Worker.afterFailure,
      Worker.Phase.isServing]
  case failing =>
    cases ending <;> simp [Worker.afterCallback, phase, Worker.afterItem, Worker.Phase.isServing]
  all_goals simp [Worker.afterCallback, phase, Worker.Phase.isServing]

/-- A worker begins to serve when its initialization succeeds. -/
theorem Transition.serves (step : Transition pool now move use after reply) {id : Nat}
    {worker changed : Worker ι σ} (found : pool.workers[id]? = some worker)
    (put : after.workers[id]? = some changed) (serves : changed.phase.isServing = true) :
    worker.phase.isServing = true ∨
      worker.phase = .initializing ∧ ∃ memory, move = .answer id memory .done := by
  by_cases own : move.party = .agent id
  · have stood {phase : Worker.Phase ι} (mine : worker.phase = phase)
        (serving : phase.isServing = true) : worker.phase.isServing = true := mine ▸ serving
    cases step with
    | look there phase | parkWorker there phase =>
        cases own
        cases there.symm.trans found
        exact Or.inl (stood phase rfl)
    | take there phase | pickUp there phase | timeOut there phase =>
        cases own
        cases there.symm.trans found
        exact Or.inl (stood phase rfl)
    | quit there | despair there | countOut there | notify there | finish there =>
        cases own
        cases (found_put there _).symm.trans put
        cases serves
    | @answer _ _ memory ending there calls =>
        cases own
        cases there.symm.trans found
        cases (found_put there _).symm.trans put
        cases phase : worker.phase <;> rw [phase] at calls <;> try cases calls
        · cases ending with
          | done => exact Or.inr ⟨rfl, memory, rfl⟩
          | failed | panicked => simp [Worker.afterCallback, phase, Worker.Phase.isServing] at serves
        · exact Or.inl rfl
        · exact Or.inl rfl
        · cases ending <;> simp [Worker.afterCallback, phase, Worker.Phase.isServing] at serves
    | _ => cases own
  · cases (step.worker_of_ne found own).symm.trans put
    exact Or.inl serves

theorem Transition.initialized (step : Transition pool now move use after reply) {id : Nat}
    {worker : Worker ι σ} {memory : σ} (found : pool.workers[id]? = some worker)
    (phase : worker.phase = .initializing) (done : move = .answer id memory .done) :
    ∃ changed ∈ after.workers, changed.phase.isServing = true := by
  cases step with
  | answer there calls =>
      cases done
      cases there.symm.trans found
      refine ⟨_, List.mem_of_getElem? (found_put there _), ?_⟩
      simp [Worker.afterCallback, phase, Worker.Phase.isServing]
  | _ => cases done

/-- A worker stops to serve because it has an exit signal, or because it drains and the queue is empty,
unless it was told to. -/
theorem Transition.leaves (step : Transition pool now move use after reply) {id : Nat}
    {worker changed : Worker ι σ} (found : pool.workers[id]? = some worker)
    (put : after.workers[id]? = some changed) (serves : worker.phase.isServing = true)
    (leaves : changed.phase.isServing = false) (going : (pool.run worker.run).terminated = false)
    (opened : pool.channel.closed = false) :
    (.agent id, .exit) ∈ pool.channel.handed ∨ (.agent id, .exit) ∈ pool.channel.departures use ∨
      worker.mode = .draining ∧ (pool.channel.after use).queue.toList = [] := by
  by_cases own : move.party = .agent id
  · have stood {phase : Worker.Phase ι} (mine : worker.phase = phase) : phase.isServing = true :=
      mine ▸ serves
    have exits {envelope : Envelope ι}
        (leaves : (worker.afterTake (some envelope)).1.phase.isServing = false) : envelope = .exit := by
      cases envelope with
      | exit => rfl
      | work item => cases leaves
    cases step with
    | look there phase =>
        cases own
        cases there.symm.trans found
        cases (found_put there _).symm.trans put
        simp [Worker.afterLook, going, Worker.Phase.isServing] at leaves
    | take there phase taking taken =>
        cases own
        cases there.symm.trans found
        cases (found_put there _).symm.trans put
        cases exits leaves
        refine Or.inr (Or.inl ?_)
        rcases taking with rfl | rfl <;> simp [Channel.departures, taken]
    | quit there phase reason empty =>
        cases own
        cases there.symm.trans found
        refine Or.inr (Or.inr ⟨?_, ?_⟩)
        · exact reason.resolve_right (by simp [opened])
        · exact (List.append_eq_nil_iff.mp (Channel.waiting_of_take_none empty).2).1
    | pickUp there phase handed =>
        cases own
        cases there.symm.trans found
        cases (found_put there _).symm.trans put
        cases exits leaves
        exact Or.inl (Channel.mem_handed_of_handed? handed)
    | despair there phase empty closed => cases opened.symm.trans closed
    | parkWorker there phase | timeOut there phase =>
        cases own
        cases (found_put there _).symm.trans put
        cases leaves
    | countOut there phase | notify there phase | finish there phase =>
        cases own
        cases there.symm.trans found
        cases stood phase
    | @answer _ _ memory ending there calls =>
        cases own
        cases there.symm.trans found
        cases (found_put there _).symm.trans put
        cases (serves_afterCallback { worker with memory } serves ending).symm.trans leaves
    | _ => cases own
  · cases (step.worker_of_ne found own).symm.trans put
    cases serves.symm.trans leaves

end Serving

section Ordering

variable {queued : List (Envelope ι)} {mode : QueueMode} {events : List (Event ι σ)}
  {event : Event ι σ}

omit [Inhabited σ] in
theorem arrived_append (events later : List (Event ι σ)) :
    arrived (events ++ later) = arrived events ++ arrived later := by
  simp only [arrived, List.flatMap_append, List.map_append]

omit [Inhabited σ] in
theorem departed_append (events later : List (Event ι σ)) :
    departed (events ++ later) = departed events ++ departed later := by
  simp only [departed, List.flatMap_append, List.map_append]

omit [Inhabited σ] in
theorem Relieved.more {gone : List (Envelope ι)} (relieved : Relieved queued mode gone)
    (more : List (Envelope ι)) : Relieved queued mode (gone ++ more) := by
  rcases relieved with exit | ⟨drains, all⟩
  · exact Or.inl (List.mem_append_left _ exit)
  · exact Or.inr ⟨drains, all.trans (List.prefix_append _ _)⟩

omit [Inhabited σ] in
theorem isLive_of_isServing {phase : Worker.Phase ι} (serves : phase.isServing = true) :
    phase.isLive = true := by
  cases phase <;> first | rfl | cases serves

omit [Inhabited σ] in
theorem isLive_of_item {phase : Worker.Phase ι} {item : ι} (taken : item ∈ phase.item?.toList) :
    phase.isLive = true := by
  cases phase <;> first | rfl | cases taken

omit [Inhabited σ] in
/-- Only workers of an undisturbed run end calls. -/
theorem Serene.own (serene : Serene event.before run) :
    ∀ handling ∈ event.handled, handling.run = run := by
  intro handling mem
  cases doing : event.move with
  | answer id memory ending =>
      simp only [Event.handled, doing] at mem
      split at mem
      · rename_i worker found
        rcases List.mem_map.mp mem with ⟨item, taken, rfl⟩
        by_contra apart
        have dead := serene.alone worker (List.mem_of_getElem? found) apart
        cases dead.symm.trans (isLive_of_item taken)
      · cases mem
  | _ => simp [Event.handled, doing] at mem

omit [Inhabited σ] in
theorem departed_single (event : Event ι σ) :
    departed [event] = (event.before.channel.departures event.use).map (·.2) := by
  simp [departed, Event.departed]

/-- As long as nobody is initialized nothing leaves the queue. -/
theorem Serene.unserved (serene : Serene event.before run) (seated : Seated event.before)
    (step : Transition event.before event.now event.move event.use event.after event.reply)
    (steady : event.Steady) (none : ¬event.Initializes run)
    (unserved : ∀ worker ∈ event.before.workers, worker.phase.isServing = false) :
    departed [event] = [] ∧ ∀ worker ∈ event.after.workers, worker.phase.isServing = false := by
  refine ⟨?_, ?_⟩
  · rw [departed_single, List.map_eq_nil_iff, List.eq_nil_iff_forall_not_mem]
    intro row mem
    rcases step.departs seated steady.undrained mem with ⟨id, worker, _, found, serves⟩
    cases serves.symm.trans (unserved worker (List.mem_of_getElem? found))
  · intro changed mem
    rw [← Bool.not_eq_true]
    intro serves
    rcases List.getElem?_of_mem mem with ⟨id, put⟩
    rcases step.worker_before steady.busy put with ⟨worker, found⟩
    rcases step.serves found put serves with served | ⟨phase, memory, done⟩
    · cases served.symm.trans (unserved worker (List.mem_of_getElem? found))
    · refine none ⟨id, worker, memory, found, ?_, phase, done⟩
      by_contra apart
      have dead := serene.alone worker (List.mem_of_getElem? found) apart
      rw [phase] at dead
      cases dead

/-- A worker that serves goes on, or it has a reason to leave. -/
theorem Orderly.served (orderly : Orderly queued mode run events event.before) (crew : Crew event.before)
    (step : Transition event.before event.now event.move event.use event.after event.reply)
    (opened : event.before.channel.closed = false)
    (balance : queued ++ arrived (events ++ [event])
      = departed (events ++ [event]) ++ event.after.channel.queue.toList) {worker : Worker ι σ}
    (among : worker ∈ event.before.workers) (serves : worker.phase.isServing = true) :
    Relieved queued mode (departed (events ++ [event])) ∨
      ∃ worker ∈ event.after.workers, worker.phase.isServing = true := by
  rcases List.getElem?_of_mem among with ⟨id, found⟩
  rcases step.worker_same found with ⟨changed, put, _⟩
  cases serving : changed.phase.isServing with
  | true => exact Or.inr ⟨changed, List.mem_of_getElem? put, serving⟩
  | false =>
      have mine : worker.run = run := by
        by_contra apart
        have dead := orderly.serene.alone worker among apart
        cases dead.symm.trans (isLive_of_isServing serves)
      have going := orderly.serene.going
      refine Or.inl ?_
      rcases step.leaves found put serves serving (mine ▸ going) opened with
        handed | departs | ⟨drains, empty⟩
      · rw [departed_append]
        exact Or.inl (List.mem_append_left _ (orderly.handed _ handed rfl))
      · rw [departed_append, departed_single]
        exact Or.inl (List.mem_append_right _ (List.mem_map_of_mem departs))
      · refine Or.inr ⟨?_, ?_⟩
        · rw [← orderly.kind, ← mine, ← (crew.placed id worker found).mode, drains]
        · rw [← step.channel] at empty
          rw [← List.append_nil (departed _), ← empty, ← balance]
          exact List.prefix_append _ _

/-- An undisturbed run stays in order. -/
theorem Orderly.keep (orderly : Orderly queued mode run events pool) (custody : Custody pool)
    (parking : Parking pool) (crew : Crew pool) (same : event.before = pool)
    (step : Transition event.before event.now event.move event.use event.after event.reply)
    (steady : event.Steady) : Orderly queued mode run (events ++ [event]) event.after := by
  subst same
  have owned : 0 < event.before.owners := by
    by_contra none
    have gone := step.unowned (Nat.eq_zero_of_not_pos none)
    exact absurd gone (Nat.ne_of_gt steady.owned)
  have opened : event.before.channel.closed = false := by
    rw [← Bool.not_eq_true]
    intro closed
    exact absurd (custody.opened closed) (Nat.ne_of_gt owned)
  have gained : arrived [event] = (event.before.channel.arrivals event.use).map (·.2) := by
    simp [arrived, Event.arrived]
  have balance : queued ++ arrived (events ++ [event])
      = departed (events ++ [event]) ++ event.after.channel.queue.toList := by
    rw [arrived_append, departed_append, gained, departed_single, ← List.append_assoc, orderly.balance,
      List.append_assoc, Channel.queue_after parking.eager event.use, step.channel, List.append_assoc]
  have settings := (step.settings orderly.serene.known).1
  refine ⟨orderly.serene.keep custody step steady, ?_, balance, ?_, ?_, ?_, ?_, ?_⟩
  · rw [settings, orderly.kind]
  · intro row mem exit
    rw [departed_append]
    rw [step.channel] at mem
    rcases Channel.mem_handed_or_departures mem with before | departs
    · exact List.mem_append_left _ (orderly.handed row before exit)
    · refine List.mem_append_right _ ?_
      rw [departed_single, ← exit]
      exact List.mem_map_of_mem departs
  · intro row mem
    rw [List.flatMap_append, List.mem_append] at mem
    rcases mem with before | new
    · exact orderly.agents row before
    · rw [List.flatMap_singleton] at new
      rcases step.departs parking.seated steady.undrained new with ⟨id, _, same, _⟩
      rw [same]
      rfl
  · intro handling mem
    rw [List.flatMap_append, List.mem_append] at mem
    rcases mem with before | new
    · exact orderly.own handling before
    · rw [List.flatMap_singleton] at new
      exact orderly.serene.own handling new
  · intro none
    have before := orderly.idle fun other mem => none other (List.mem_append_left _ mem)
    have now := orderly.serene.unserved parking.seated step steady
      (none event (List.mem_append_right _ List.mem_cons_self)) before.2
    refine ⟨?_, now.2⟩
    rw [departed_append, before.1, now.1, List.append_nil]
  · rintro ⟨other, mem, initializes⟩
    rcases List.mem_append.mp mem with before | new
    · rcases orderly.serving ⟨other, before, initializes⟩ with relieved | ⟨worker, among, serves⟩
      · rw [departed_append]
        exact Or.inl (relieved.more _)
      · exact orderly.served crew step opened balance among serves
    · cases List.mem_singleton.mp new
      rcases initializes with ⟨id, worker, memory, found, _, phase, done⟩
      exact Or.inr (step.initialized found phase done)

/-- An undisturbed run is in order after any steps. -/
theorem orderly_of_path {earlier : List (Event ι σ)} {started : PoolSystem ι σ}
    (history : History earlier started) (orderly : Orderly queued mode run [] started)
    (path : Path started events pool) (steady : ∀ event ∈ events, event.Steady) :
    Orderly queued mode run events pool := by
  induction path with
  | refl => exact orderly
  | @step events middle now move stepped path performed ih =>
      have before := history.append path
      refine (ih fun event mem => steady event (List.mem_append_left _ mem)).keep
        (custody_of_history before) (parking_of_history before) (crew_of_history before) rfl
        (perform_transition performed) ?_
      exact steady _ (List.mem_append_right _ List.mem_cons_self)

/-- No exit signal gets into the queue before the shutdown. -/
theorem unsignalled_of_path {earlier : List (Event ι σ)} {started : PoolSystem ι σ}
    (history : History earlier started) (orderly : Orderly queued mode run [] started)
    (path : Path started events pool) (steady : ∀ event ∈ events, event.Steady)
    (runs : ∀ event ∈ events, event.before.lifecycle = .running run) : .exit ∉ arrived events := by
  induction path with
  | refl => exact List.not_mem_nil
  | @step events middle now move stepped path performed ih =>
      have first {event : Event ι σ} (mem : event ∈ events) :=
        List.mem_append_left [⟨middle, now, move, stepped.state, stepped.reply⟩] mem
      have calm := orderly_of_path history orderly path fun event mem => steady event (first mem)
      have before := history.append path
      intro exit
      rw [arrived_append, List.mem_append] at exit
      rcases exit with old | new
      · exact ih (fun event mem => steady event (first mem)) (fun event mem => runs event (first mem)) old
      · rw [arrived, List.flatMap_singleton] at new
        rcases List.mem_map.mp new with ⟨row, mem, exit⟩
        have running := runs _ (List.mem_append_right _ List.mem_cons_self)
        rcases (perform_transition performed).exit_arrives (parking_of_history before).sending mem exit
          with ⟨thread, restores | shutting⟩
        · cases (calm.serene.restored thread).symm.trans restores
        · cases running.symm.trans
            ((custody_of_history before).shut thread (shuts_of_isShutting shutting))

end Ordering

end PoolSystem

end Coordination
