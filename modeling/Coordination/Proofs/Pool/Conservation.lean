import Coordination.Proofs.Pool.Crew
import Coordination.Proofs.Pool.Ledger
import Coordination.Proofs.Pool.Parking
import Mathlib.Data.List.Nodup

/-!
# Conservation of work

No item is lost, doubled or reordered. The items that a pool has accepted, in their order, are those
that were removed from its queue, in the order of their removal, followed by those in the queue. An
item that is removed for a worker gets one call of the processing callback, and the end of that call
is counted once, in the run of the worker. An item that is removed for a caller is returned to it.

Each of these facts is a balance between two ledgers: what a step adds to one of them it adds to the
other one or to what the pool keeps (`balance_of_history`). The ledgers are read off the events of a
history.
-/

namespace Coordination

/-- The items in some envelopes. -/
def works {ι : Type} (envelopes : List (Envelope ι)) : List ι := envelopes.filterMap Envelope.item?

/-- The items in the envelopes of a ledger. -/
def loads {ι : Type} (rows : List (Party × Envelope ι)) : List (Party × ι) :=
  rows.filterMap fun row => row.2.item?.map (row.1, ·)

/-- The item that the processing callback of a worker has got. -/
def Worker.Phase.item? {ι : Type} : Worker.Phase ι → Option ι
  | .processing item => some item
  | _ => none

namespace PoolSystem

open Channel (share)

variable {ι σ : Type}

/-- The item that the processing callback of a worker has got. -/
def processing? (pool : PoolSystem ι σ) (id : Nat) : Option ι :=
  pool.workers[id]?.bind (·.phase.item?)

/-- Items that a thread has taken out of the queue and is about to return. -/
def Activity.collected : Activity ι → List ι
  | .clearing items _ | .restoring items _ => items
  | .resetting report => report.pending
  | _ => []

/-- The items that a reply returns. -/
def Reply.returned : Reply ι → List ι
  | .items cleared => cleared
  | .report completion => completion.pending
  | _ => []

/-- A call of the processing callback that has ended. -/
structure Handling (ι : Type) where
  worker : Nat
  run : RunId
  item : ι
  ending : CallbackEnding
deriving DecidableEq, Repr

namespace Event

/-- The items that get into the queue, or past it to a parked worker, with their senders. -/
def accepted (event : Event ι σ) : List (Party × ι) :=
  loads (event.before.channel.arrivals event.use)

/-- The items that leave the queue, with those who get them. -/
def removed (event : Event ι σ) : List (Party × ι) :=
  loads (event.before.channel.departures event.use)

/-- The items that a caller hands in. An offer that was refused hands in nothing. -/
def submitted (event : Event ι σ) : List (Party × ι) :=
  match event.move, event.reply with
  | .begin thread (.add item), _ => [(.caller thread, item)]
  | .begin thread (.offer item), some (.flag true) => [(.caller thread, item)]
  | _, _ => []

/-- The call of the processing callback that a worker begins. -/
def begun (event : Event ι σ) : List (Party × ι) :=
  match event.move with
  | .work id => (event.after.processing? id).toList.map (.agent id, ·)
  | _ => []

/-- The call of the processing callback that ends. -/
def handled (event : Event ι σ) : List (Handling ι) :=
  match event.move with
  | .answer id _ ending =>
      match event.before.workers[id]? with
      | some worker => worker.phase.item?.toList.map ({ worker := id, run := worker.run, item := ·, ending })
      | none => []
  | _ => []

/-- The items that a caller gets back. -/
def returned (event : Event ι σ) : List (Party × ι) :=
  ((event.reply.map Reply.returned).getD []).map (event.move.party, ·)

end Event

/-- The calls of the processing callback that have ended with a worker. -/
def handledBy (events : List (Event ι σ)) (id : Nat) : List ι :=
  ((events.flatMap Event.handled).filter (·.worker = id)).map (·.item)

/-- How many calls of the processing callback have ended in a run, with success or without. -/
def handledIn (events : List (Event ι σ)) (run : RunId) (success : Bool) : Nat :=
  (events.flatMap Event.handled).countP fun handling =>
    handling.run = run ∧ (handling.ending = .done ↔ success)

/-- No item is lost, doubled or reordered. -/
structure Conservation (events : List (Event ι σ)) (pool : PoolSystem ι σ) : Prop where
  /-- What was accepted is what was removed, followed by what is in the queue. -/
  queue : (events.flatMap Event.accepted).map (·.2)
    = (events.flatMap Event.removed).map (·.2) ++ works pool.channel.queue.toList
  /-- What a party has submitted was accepted, up to the item with which it is parked. -/
  submitted : ∀ party, share party (events.flatMap Event.submitted)
    = share party (events.flatMap Event.accepted) ++ share party (loads pool.channel.senders)
  /-- For what was removed for a worker it has begun a call, up to the item that was handed to it. -/
  begun : ∀ id, share (.agent id) (events.flatMap Event.removed)
    = share (.agent id) (events.flatMap Event.begun)
      ++ share (.agent id) (loads pool.channel.handed)
  /-- An item is only handed to a worker that waits, and stays with it until it begins. -/
  handed : ∀ row ∈ pool.channel.handed, ∃ id, row.1 = .agent id ∧ pool.Waits id
  /-- A call that has begun has ended, up to the one that a worker is in. -/
  handled : ∀ id, share (.agent id) (events.flatMap Event.begun)
    = handledBy events id ++ (pool.processing? id).toList
  processed : ∀ run, (pool.run run).stats.processed = handledIn events run true
  failed : ∀ run, (pool.run run).stats.failed = handledIn events run false
  /-- What was removed for a thread was returned to it, up to what it is about to return. -/
  returned : ∀ thread, share (.caller thread) (events.flatMap Event.removed)
    = share (.caller thread) (events.flatMap Event.returned) ++ (pool.activity thread).collected
  /-- If all accepted items are different, no item that was returned is processed. -/
  apart : ((events.flatMap Event.accepted).map (·.2)).Nodup →
    ∀ thread id, ∀ item ∈ share (.caller thread) (events.flatMap Event.returned),
      item ∉ share (.agent id) (events.flatMap Event.begun)

theorem handledBy_eq (events : List (Event ι σ)) (id : Nat) :
    handledBy events id
      = events.flatMap fun event => (event.handled.filter (·.worker = id)).map (·.item) := by
  rw [handledBy, List.filter_flatMap, List.map_flatMap]

section Loads

@[simp]
theorem works_nil : works ([] : List (Envelope ι)) = [] := rfl

@[simp]
theorem works_append (envelopes later : List (Envelope ι)) :
    works (envelopes ++ later) = works envelopes ++ works later :=
  List.filterMap_append

@[simp]
theorem loads_nil : loads ([] : List (Party × Envelope ι)) = [] := rfl

theorem map_loads (rows : List (Party × Envelope ι)) :
    (loads rows).map (·.2) = works (rows.map (·.2)) := by
  induction rows with
  | nil => rfl
  | cons row rest ih =>
      rcases row with ⟨party, item | _⟩
      · exact congrArg (item :: ·) ih
      · exact ih

theorem share_loads (party : Party) (rows : List (Party × Envelope ι)) :
    share party (loads rows) = works (share party rows) := by
  induction rows with
  | nil => rfl
  | cons row rest ih =>
      rcases row with ⟨other, item | _⟩
      · have head : loads ((other, .work item) :: rest) = (other, item) :: loads rest := rfl
        rw [head, Channel.share_cons, Channel.share_cons, ih]
        split <;> rfl
      · have head : loads ((other, .exit) :: rest) = loads rest := rfl
        rw [head, Channel.share_cons, ih]
        split <;> rfl

end Loads

section Seats

variable {pool : PoolSystem ι σ}

theorem Seated.share_handed_caller (seated : Seated pool) (thread : ThreadId) :
    share (.caller thread) pool.channel.handed = [] := by
  refine Channel.share_handed ?_
  rw [seated.seats]
  rintro ⟨id, ⟨⟩, _⟩

theorem Seated.share_handed_agent (seated : Seated pool) {id : Nat} (stands : ¬pool.Waits id) :
    share (.agent id) pool.channel.handed = [] := by
  refine Channel.share_handed ?_
  rw [seated.seats]
  rintro ⟨other, same, waits⟩
  cases same
  exact stands waits

end Seats

section Phases

variable {pool : PoolSystem ι σ}

theorem processing?_of_found {id : Nat} {worker : Worker ι σ}
    (found : pool.workers[id]? = some worker) : pool.processing? id = worker.phase.item? := by
  rw [processing?, found, Option.bind_some]

theorem item?_afterTake (worker : Worker ι σ) (envelope : Envelope ι) :
    (worker.afterTake (some envelope)).1.phase.item? = envelope.item? := by
  cases envelope <;> rfl

theorem item?_afterLook (worker : Worker ι σ) (terminated : Bool) :
    (worker.afterLook terminated).1.phase.item? = none := by
  cases terminated <;> rfl

/-- The end of a call is the end of its item. -/
theorem item?_afterCallback (worker : Worker ι σ) (calls : worker.phase.calls = true)
    (ending : CallbackEnding) : (worker.afterCallback ending).1.phase.item? = none := by
  cases phase : worker.phase <;> cases ending <;>
    simp_all [Worker.afterCallback, Worker.Phase.calls, Worker.afterItem, Worker.afterFailure,
      Worker.Phase.item?]

theorem begun_of_found {after : PoolSystem ι σ} {now : Instant} {reply : Option (Reply ι)} {id : Nat}
    {changed : Worker ι σ}
    (found : after.workers[id]? = some changed) :
    Event.begun ⟨pool, now, .work id, after, reply⟩
      = changed.phase.item?.toList.map (.agent id, ·) := by
  simp only [Event.begun, processing?_of_found found]

end Phases

section Collecting

variable {pool advanced : PoolSystem ι σ} {now : Instant} {before next : Activity ι}

theorem Advance.collected
    (advance : Advance pool now before advanced next) :
    before.collected = [] ∧ next.collected = [] := by
  cases advance with
  | force | forgo =>
      refine ⟨rfl, ?_⟩
      split <;> rfl
  | _ => exact ⟨rfl, rfl⟩

end Collecting

section Stats

variable {pool next : PoolSystem ι σ} {now : Instant}

/-- The end of a callback counts an item that it had, and nothing else. -/
theorem count_eq (worker : Worker ι σ) (ending : CallbackEnding) (stats : PoolStats) :
    (worker.count ending stats).processed = stats.processed
        + (worker.phase.item?.toList.countP fun _ => ending = .done) ∧
      (worker.count ending stats).failed = stats.failed
        + (worker.phase.item?.toList.countP fun _ => ending ≠ .done) := by
  rcases worker with ⟨run, index, mode, memory, phase, handled⟩
  cases phase <;> cases ending <;> simp [Worker.count, Worker.Phase.item?]

theorem stats_of_answer {id : Nat} {worker : Worker ι σ} {memory : σ} {ending : CallbackEnding}
    {reply : Option (Reply ι)} {run : RunId} (found : pool.workers[id]? = some worker)
    (stats : (next.run run).stats = if worker.run = run then worker.count ending (pool.run run).stats
      else (pool.run run).stats) :
    (next.run run).stats.processed = (pool.run run).stats.processed
        + handledIn [⟨pool, now, .answer id memory ending, next, reply⟩] run true ∧
      (next.run run).stats.failed = (pool.run run).stats.failed
        + handledIn [⟨pool, now, .answer id memory ending, next, reply⟩] run false := by
  have counts := count_eq worker ending (pool.run run).stats
  simp only [handledIn, List.flatMap_cons, List.flatMap_nil, List.append_nil, Event.handled, found,
    List.countP_map, Function.comp_def, stats]
  by_cases mine : worker.run = run
  · simpa [mine] using counts
  · simp [mine]

end Stats

variable [Inhabited σ]

/-- What a step adds to one ledger it adds to another one or to what the pool keeps. -/
theorem balance_of_history {β : Type} (gained lost : Event ι σ → List β)
    (kept : PoolSystem ι σ → List β) {events : List (Event ι σ)} {pool : PoolSystem ι σ}
    (history : History events pool) (start : ∀ capacity, kept (new capacity) = [])
    (step : ∀ {pool now move stepped}, Parking pool → pool.perform now move = some stepped →
      kept pool ++ gained ⟨pool, now, move, stepped.state, stepped.reply⟩
        = lost ⟨pool, now, move, stepped.state, stepped.reply⟩ ++ kept stepped.state) :
    events.flatMap gained = events.flatMap lost ++ kept pool := by
  refine history.induction
    (motive := fun events pool => events.flatMap gained = events.flatMap lost ++ kept pool) ?_ ?_
  · intro capacity
    rw [start]
    rfl
  · intro events pool now move stepped history balance performed
    have moved := step (parking_of_history history) performed
    simp only [List.flatMap_append, List.flatMap_cons, List.flatMap_nil, List.append_nil]
    rw [balance, List.append_assoc, moved, List.append_assoc]

variable {pool after : PoolSystem ι σ} {now : Instant} {move : Move ι σ}
  {use : Channel.Use (Envelope ι)} {reply : Option (Reply ι)}

section Posting

/-- Nobody sends a message while it is parked with another one. -/
theorem Transition.share_senders {party : Party} (step : Transition pool now move use after reply)
    (sending : Sending pool) {envelope : Envelope ι}
    (sends : use = .send party envelope ∨ use = .offer party envelope) :
    share party pool.channel.senders = [] := by
  rw [Channel.share_eq_nil_iff]
  cases step with
  | add idle | park idle | offer idle =>
      simp only [Channel.Use.send.injEq, Channel.Use.offer.injEq, reduceCtorEq, or_false,
        false_or] at sends
      rw [← sends.1]
      exact sending.absent (by simp [idle, Activity.Parks])
  | putBack doing | parkBack doing | signal doing | parkSignal doing =>
      simp only [Channel.Use.send.injEq, reduceCtorEq, or_false] at sends
      rw [← sends.1]
      exact sending.absent (by simp [doing, Activity.Parks])
  | take _ _ taking => rcases taking with rfl | rfl <;> simp at sends
  | _ => simp at sends

/-- Only exit signals are taken back. -/
theorem Transition.loads_withdrawals (step : Transition pool now move use after reply)
    (sending : Sending pool) : loads (pool.channel.withdrawals use) = [] := by
  have signals {thread : ThreadId} {shutdown : Shutdown} {left : Nat} {deadline : Instant}
      (doing : pool.activity thread = .offering shutdown left deadline) :
      loads (pool.channel.withdrawals (.withdraw (.caller thread))) = [] := by
    simp only [loads, Channel.withdrawals, List.filterMap_eq_nil_iff, List.mem_filter,
      decide_eq_true_eq]
    rintro ⟨party, envelope⟩ ⟨mem, own⟩
    rcases sending.parked _ mem with ⟨other, place, parks⟩
    cases place.symm.trans own
    rw [doing] at parks
    cases envelope with
    | work item => exact parks.elim
    | exit => rfl
  cases step with
  | withdraw doing | desert doing | breakOff doing => exact signals doing
  | take _ _ taking => rcases taking with rfl | rfl <;> rfl
  | _ => rfl

/-- What callers hand in is what they bring to the queue, less the exit signals. -/
theorem Transition.loads_posts (step : Transition pool now move use after reply) :
    loads (pool.channel.posts use) = Event.submitted ⟨pool, now, move, after, reply⟩ := by
  cases step with
  | offer idle =>
      cases accepts : pool.channel.accepts <;>
        simp [Channel.posts, Event.submitted, accepts, loads, Envelope.item?]
  | take _ _ taking => rcases taking with rfl | rfl <;> rfl
  | _ => rfl

end Posting

section Receiving

/-- Nobody takes a message while another one is handed to it. -/
theorem Transition.share_handed {party : Party} (step : Transition pool now move use after reply)
    (seated : Seated pool) (takes : use = .take party ∨ use = .seek party ∨ use = .drain party) :
    share party pool.channel.handed = [] := by
  cases step with
  | clear | drain =>
      simp only [Channel.Use.drain.injEq, reduceCtorEq, false_or] at takes
      rw [← takes]
      exact seated.share_handed_caller _
  | @take id worker _ _ found phase taking =>
      have own : party = .agent id := by
        rcases taking with rfl | rfl <;> simpa [eq_comm] using takes
      rw [own]
      exact seated.share_handed_agent (not_waits_of_found found (by rw [phase]; rfl))
  | parkWorker found phase | quit found phase =>
      simp only [Channel.Use.take.injEq, Channel.Use.seek.injEq, reduceCtorEq, or_false,
        false_or] at takes
      rw [← takes]
      exact seated.share_handed_agent (not_waits_of_found found (by rw [phase]; rfl))
  | _ => simp at takes

/-- Whoever makes a step is the only one to receive anything. -/
theorem Transition.share_receipts {party : Party} (step : Transition pool now move use after reply)
    (apart : move.party ≠ party) : share party (loads (pool.channel.receipts use)) = [] := by
  have foreign (own : ∀ row ∈ pool.channel.receipts use, row.1 = move.party) :
      share party (loads (pool.channel.receipts use)) = [] := by
    rw [share_loads, Channel.share_eq_nil_iff.mpr]
    · rfl
    · intro row mem same
      exact apart ((own row mem).symm.trans same)
  refine foreign ?_
  cases step with
  | clear | drain =>
      intro row mem
      rcases List.mem_map.mp mem with ⟨envelope, _, rfl⟩
      rfl
  | take _ _ taking =>
      intro row mem
      rcases taking with rfl | rfl <;>
        simp only [Channel.receipts, Option.mem_toList, Option.map_eq_some_iff] at mem <;>
        rcases mem with ⟨envelope, _, rfl⟩ <;> rfl
  | parkWorker _ _ _ _ empty | quit _ _ _ empty => simp [Channel.receipts, empty]
  | pickUp =>
      intro row mem
      simpa [Move.party] using (List.mem_filter.mp mem).2
  | _ => rintro row ⟨⟩

end Receiving

section Processing

theorem loads_single (party : Party) (envelope : Envelope ι) :
    loads [(party, envelope)] = envelope.item?.toList.map (party, ·) := by
  cases envelope <;> rfl

/-- A worker begins a call for every item that it gets. -/
theorem Transition.begun (step : Transition pool now move use after reply) (seated : Seated pool)
    (id : Nat) : share (.agent id) (loads (pool.channel.receipts use))
      = share (.agent id) (Event.begun ⟨pool, now, move, after, reply⟩) := by
  have mine {id : Nat} {worker : Worker ι σ} {envelope : Envelope ι}
      (found : after.workers[id]? = some (worker.afterTake (some envelope)).1) :
      loads [(.agent id, envelope)] = Event.begun ⟨pool, now, .work id, after, reply⟩ := by
    rw [begun_of_found found, item?_afterTake, loads_single]
  have nothing {id : Nat} {changed : Worker ι σ} (found : after.workers[id]? = some changed)
      (free : changed.phase.item? = none) :
      [] = Event.begun ⟨pool, now, .work id, after, reply⟩ := by
    rw [begun_of_found found, free]
    rfl
  have own := step
  cases step with
  | clear | drain =>
      rw [own.share_receipts (by rintro ⟨⟩)]
      rfl
  | take found phase taking taken =>
      rw [← mine (found_put found _)]
      rcases taking with rfl | rfl <;> simp [Channel.receipts, taken]
  | parkWorker found phase _ _ empty =>
      rw [← nothing (found_put found _) rfl]
      simp [Channel.receipts, empty]
  | quit found phase _ empty =>
      rw [← nothing (found_put found _) rfl]
      simp [Channel.receipts, empty]
  | pickUp found phase handed =>
      rw [← mine (found_put found _), Channel.receipts, Channel.filter_handed ?_ handed]
      exact (List.nodup_append.mp seated.distinct).2.1
  | look found => exact congrArg _ (nothing (found_put found _) (item?_afterLook _ _))
  | despair found | timeOut found | countOut found | notify found | finish found =>
      exact congrArg _ (nothing (found_put found _) rfl)
  | _ => rfl

/-- A call that a worker is in ends, or it goes on. -/
theorem Transition.handled (step : Transition pool now move use after reply) (id : Nat) :
    (pool.processing? id).toList ++ share (.agent id) (Event.begun ⟨pool, now, move, after, reply⟩)
      = ((Event.handled ⟨pool, now, move, after, reply⟩).filter (·.worker = id)).map (·.item)
        ++ (after.processing? id).toList := by
  by_cases own : move.party = .agent id
  · have works {worker changed : Worker ι σ} (found : pool.workers[id]? = some worker)
        (put : after.workers[id]? = some changed) (free : worker.phase.item? = none) :
        (pool.processing? id).toList
            ++ share (.agent id) (Event.begun ⟨pool, now, .work id, after, reply⟩)
          = [] ++ (after.processing? id).toList := by
      rw [begun_of_found put, processing?_of_found found, processing?_of_found put, free,
        Channel.share_pairs, if_pos rfl]
      rfl
    have answers {worker changed : Worker ι σ} {memory : σ} {ending : CallbackEnding}
        (found : pool.workers[id]? = some worker) (put : after.workers[id]? = some changed)
        (free : changed.phase.item? = none) :
        (pool.processing? id).toList
            ++ share (.agent id) (Event.begun ⟨pool, now, .answer id memory ending, after, reply⟩)
          = ((Event.handled ⟨pool, now, .answer id memory ending, after, reply⟩).filter
              (·.worker = id)).map (·.item) ++ (after.processing? id).toList := by
      rw [processing?_of_found found, processing?_of_found put, free]
      simp only [Event.begun, Event.handled, found]
      cases worker.phase.item? <;> simp
    cases step with
    | take found phase | parkWorker found phase | quit found phase | look found phase
    | pickUp found phase | despair found phase | timeOut found phase | countOut found phase
    | notify found phase | finish found phase =>
        cases own
        exact works found (found_put found _) (by rw [phase]; rfl)
    | @answer _ worker memory ending found calls =>
        cases own
        exact answers found (found_put found _)
          (item?_afterCallback { worker with memory } calls ending)
    | _ => cases own
  · have same : after.processing? id = pool.processing? id := by
      cases former : pool.workers[id]? with
      | some worker =>
          rw [processing?_of_found former, processing?_of_found (step.worker_of_ne former own)]
      | none =>
          cases later : after.workers[id]? with
          | none => rw [processing?, processing?, former, later]
          | some worker =>
              rcases step.worker_new former later with ⟨_, _, _, _, _, _, rfl⟩
              rw [processing?, processing?, former, later]
              rfl
    have begun : share (.agent id) (Event.begun ⟨pool, now, move, after, reply⟩) = [] := by
      cases move with
      | work other => exact (Channel.share_pairs _ _ _).trans (if_neg own)
      | _ => rfl
    have handled :
        (Event.handled ⟨pool, now, move, after, reply⟩).filter (·.worker = id) = [] := by
      cases move with
      | answer other memory ending =>
          have apart : other ≠ id := fun same => own (congrArg Party.agent same)
          simp only [Event.handled]
          split <;> simp [apart]
      | _ => rfl
    rw [same, begun, handled]
    simp

end Processing

section Returning

theorem loads_pairs (party : Party) (envelopes : List (Envelope ι)) :
    loads (envelopes.map (party, ·)) = (works envelopes).map (party, ·) := by
  induction envelopes with
  | nil => rfl
  | cons envelope rest ih =>
      cases envelope with
      | work item => exact congrArg ((party, item) :: ·) ih
      | exit => exact ih

/-- What a thread has taken out of the queue it returns, or it is about to. -/
theorem Transition.returned (step : Transition pool now move use after reply) (thread : ThreadId) :
    (pool.activity thread).collected ++ share (.caller thread) (loads (pool.channel.receipts use))
      = share (.caller thread) (Event.returned ⟨pool, now, move, after, reply⟩)
        ++ (after.activity thread).collected := by
  by_cases own : move.party = .caller thread
  · cases step with
    | clear idle taken =>
        cases own
        simp [idle, taken, Activity.collected, Event.returned, Channel.receipts, loads_pairs,
          Channel.share_pairs, works]
    | drain doing =>
        cases own
        simp [doing, Activity.collected, Event.returned, Channel.receipts, loads_pairs,
          Channel.share_pairs, works]
    | advance doing advance =>
        cases own
        simp [doing, advance.collected.1, advance.collected.2, Event.returned, Channel.receipts]
    | cleared doing | putBack doing | parkBack doing | restored doing | signal doing
    | parkSignal doing | sent doing | withdraw doing | desert doing | breakOff doing | reset doing
    | unwound doing | joined doing | callOff doing | gathered doing | added doing =>
        cases own
        simp [doing, Activity.collected, Event.returned, Channel.receipts, Reply.returned,
          Channel.share_pairs, Move.party]
    | refuse idle | abandon idle | launch idle | fallShort idle | add idle | park idle | offer idle
    | waitBeside idle | waitIdle _ idle | takeOver _ idle | interrupt idle | inspect idle | own idle
    | disown idle | abandonIdle idle | abandonRunning idle =>
        cases own
        simp [idle, Activity.collected, Event.returned, Channel.receipts, Reply.returned]
    | ignore =>
        cases own
        simp [Event.returned, Channel.receipts, Reply.returned]
    | _ => cases own
  · rw [step.activity_of_ne own, step.share_receipts own, Event.returned, Channel.share_pairs,
      if_neg own]
    simp

end Returning

section Counting

theorem Transition.stats (step : Transition pool now move use after reply)
    (crew : Crew pool) (run : RunId) :
    (after.run run).stats.processed = (pool.run run).stats.processed
        + handledIn [⟨pool, now, move, after, reply⟩] run true ∧
      (after.run run).stats.failed = (pool.run run).stats.failed
        + handledIn [⟨pool, now, move, after, reply⟩] run false := by
  have idle (same : (after.run run).stats = (pool.run run).stats)
      (none : Event.handled ⟨pool, now, move, after, reply⟩ = []) :
      (after.run run).stats.processed = (pool.run run).stats.processed
          + handledIn [⟨pool, now, move, after, reply⟩] run true ∧
        (after.run run).stats.failed = (pool.run run).stats.failed
          + handledIn [⟨pool, now, move, after, reply⟩] run false := by
    simp [handledIn, none, same]
  have own := step
  cases step with
  | @answer id worker memory ending found calls =>
      exact stats_of_answer found (stats_count_put (crew.placed id worker found).known ending id _ run)
  | _ =>
      exact idle (own.stats_same (by intro _ _ _ same; cases same) run) rfl

end Counting

section Balances

variable {events : List (Event ι σ)}

/-- What was accepted is what was removed, followed by what is in the queue. -/
theorem queue_balance (history : History events pool) :
    (events.flatMap Event.accepted).map (·.2)
      = (events.flatMap Event.removed).map (·.2) ++ works pool.channel.queue.toList := by
  rw [List.map_flatMap, List.map_flatMap]
  refine balance_of_history _ _ (fun pool => works pool.channel.queue.toList) history
    (fun _ => rfl) ?_
  intro pool now move stepped parking performed
  have law := congrArg works (Channel.queue_after parking.eager (pool.use now move))
  rw [works_append, works_append, ← map_loads, ← map_loads] at law
  rw [(perform_transition performed).channel]
  exact law

/-- What a party has submitted was accepted, or it is parked with it. -/
theorem submission_balance (history : History events pool) (party : Party) :
    share party (events.flatMap Event.submitted)
      = share party (events.flatMap Event.accepted) ++ share party (loads pool.channel.senders) := by
  rw [Channel.share_flatMap, Channel.share_flatMap]
  refine balance_of_history _ _ (fun pool => share party (loads pool.channel.senders)) history
    (fun _ => rfl) ?_
  intro pool now move stepped parking performed
  have step := perform_transition performed
  have law := congrArg works (Channel.posting_after party (pool.use now move)
    (fun envelope sends => step.share_senders parking.sending sends))
  simp only [works_append, ← share_loads, step.loads_withdrawals parking.sending,
    Channel.share_nil, List.append_nil, step.loads_posts] at law
  rw [step.channel]
  exact law

/-- What was removed for a party it has received, or it is handed to it. -/
theorem removal_balance (history : History events pool) (party : Party) :
    share party (events.flatMap Event.removed)
      = (events.flatMap fun event =>
          share party (loads (event.before.channel.receipts event.use)))
        ++ share party (loads pool.channel.handed) := by
  rw [Channel.share_flatMap]
  refine balance_of_history _ _ (fun pool => share party (loads pool.channel.handed)) history
    (fun _ => rfl) ?_
  intro pool now move stepped parking performed
  have step := perform_transition performed
  have law := congrArg works (Channel.receiving_after party (pool.use now move)
    (fun takes => step.share_handed parking.seated takes))
  simp only [works_append, ← share_loads] at law
  rw [step.channel]
  exact law

/-- For what was removed for a worker it has begun a call, or it is handed to it. -/
theorem begun_balance (history : History events pool) (id : Nat) :
    share (.agent id) (events.flatMap Event.removed)
      = share (.agent id) (events.flatMap Event.begun)
        ++ share (.agent id) (loads pool.channel.handed) := by
  have received := balance_of_history
    (fun event => share (.agent id) (loads (event.before.channel.receipts event.use)))
    (fun event => share (.agent id) event.begun) (fun _ => []) history (fun _ => rfl)
    (fun parking performed => by
      rw [List.nil_append, List.append_nil]
      exact (perform_transition performed).begun parking.seated id)
  rw [removal_balance history, received, List.append_nil, Channel.share_flatMap]

/-- What was removed for a thread was returned to it, or it is about to be. -/
theorem return_balance (history : History events pool) (thread : ThreadId) :
    share (.caller thread) (events.flatMap Event.removed)
      = share (.caller thread) (events.flatMap Event.returned)
        ++ (pool.activity thread).collected := by
  have received := balance_of_history
    (fun event => share (.caller thread) (loads (event.before.channel.receipts event.use)))
    (fun event => share (.caller thread) event.returned)
    (fun pool => (pool.activity thread).collected) history (fun _ => rfl)
    (fun _ performed => (perform_transition performed).returned thread)
  have seated := (parking_of_history history).seated
  rw [removal_balance history, received, share_loads _ pool.channel.handed,
    seated.share_handed_caller, works_nil, List.append_nil, Channel.share_flatMap]

/-- A call that has begun has ended, or the worker is in it. -/
theorem handling_balance (history : History events pool) (id : Nat) :
    share (.agent id) (events.flatMap Event.begun)
      = handledBy events id ++ (pool.processing? id).toList := by
  rw [Channel.share_flatMap, handledBy_eq]
  exact balance_of_history _ _ (fun pool => (pool.processing? id).toList) history
    (fun _ => rfl) (fun _ performed => (perform_transition performed).handled id)

/-- The counts of a run are the numbers of calls that have ended in it. -/
theorem stats_of_history (history : History events pool) (run : RunId) :
    (pool.run run).stats.processed = handledIn events run true ∧
      (pool.run run).stats.failed = handledIn events run false := by
  refine history.induction (motive := fun events pool =>
    (pool.run run).stats.processed = handledIn events run true ∧
      (pool.run run).stats.failed = handledIn events run false) ?_ ?_
  · intro capacity
    exact ⟨rfl, rfl⟩
  · rintro events pool now move stepped history ⟨processed, failed⟩ performed
    have counts := (perform_transition performed).stats (crew_of_history history) run
    rw [counts.1, counts.2, processed, failed]
    simp [handledIn]

/-- If all accepted items are different, nothing that was returned was processed. -/
theorem apart_of_history (history : History events pool)
    (distinct : ((events.flatMap Event.accepted).map (·.2)).Nodup) (thread : ThreadId) (id : Nat)
    {item : ι} (returned : item ∈ share (.caller thread) (events.flatMap Event.returned)) :
    item ∉ share (.agent id) (events.flatMap Event.begun) := by
  intro begun
  rw [queue_balance history] at distinct
  have once := (List.nodup_append.mp distinct).1
  have cleared : (.caller thread, item) ∈ events.flatMap Event.removed := by
    rw [← Channel.mem_share_iff, return_balance history]
    exact List.mem_append_left _ returned
  have taken : (.agent id, item) ∈ events.flatMap Event.removed := by
    rw [← Channel.mem_share_iff, begun_balance history]
    exact List.mem_append_left _ begun
  cases List.inj_on_of_nodup_map once cleared taken rfl

theorem waits_of_handed (history : History events pool) :
    ∀ row ∈ pool.channel.handed, ∃ id, row.1 = .agent id ∧ pool.Waits id := by
  intro row mem
  rw [← (parking_of_history history).seated.seats]
  exact List.mem_append_right _ (List.mem_map_of_mem mem)

end Balances

/-- **Conservation.** After every past of a pool, whatever its threads and its workers have done in
whatever order, no item is lost, doubled or reordered. -/
theorem conservation_of_history {events : List (Event ι σ)} (history : History events pool) :
    Conservation events pool where
  queue := queue_balance history
  submitted := submission_balance history
  begun := begun_balance history
  handed := waits_of_handed history
  handled := handling_balance history
  processed run := (stats_of_history history run).1
  failed run := (stats_of_history history run).2
  returned := return_balance history
  apart distinct thread id _ returned := apart_of_history history distinct thread id returned

/-- The moves of two threads at a pool with room for two items and one worker. The third item has to
wait for room, the first one fails, one thread clears the queue of the third one, and an interrupted
wait leaves the fourth one pending. -/
def busy : List (Instant × Move Nat Unit) :=
  [(0, .begin 0 (.start (.blocking 1))), (0, .answer 0 () .done), (1, .begin 0 (.add 1)),
    (1, .begin 0 (.add 2)), (1, .begin 1 (.add 3)), (2, .work 0), (2, .work 0), (3, .proceed 1),
    (4, .answer 0 () (.failed "unfit")), (4, .answer 0 () .done), (5, .work 0), (5, .work 0),
    (6, .begin 1 .clear), (6, .proceed 1), (7, .begin 0 (.offer 4)), (8, .begin 1 .interrupt),
    (9, .begin 0 .wait), (9, .proceed 0), (9, .proceed 0), (9, .proceed 0), (9, .proceed 0),
    (10, .answer 0 () .done), (10, .work 0), (10, .answer 0 () .done), (10, .work 0),
    (10, .work 0), (10, .work 0), (11, .proceed 0), (11, .proceed 0), (11, .proceed 0),
    (11, .proceed 0), (11, .proceed 0), (11, .proceed 0), (11, .proceed 0)]

theorem conservation_of_busy :
    let events := (new (some 2)).trace busy
    let pool := (new (some 2)).follow busy
    History events pool ∧ Conservation events pool ∧
      (events.flatMap Event.accepted).map (·.2) = [1, 2, 3, 4] ∧
      events.flatMap Event.removed = [(.agent 0, 1), (.agent 0, 2), (.caller 1, 3), (.caller 0, 4)] ∧
      handledBy events 0 = [1, 2] ∧
      events.flatMap Event.returned = [(.caller 1, 3), (.caller 0, 4)] ∧
      (pool.run 0).stats = { processed := 1, failed := 1 } := by
  have history := history_follow (some 2) busy
  exact ⟨history, conservation_of_history history, by decide, by decide, by decide, by decide,
    by decide⟩

end PoolSystem

end Coordination
