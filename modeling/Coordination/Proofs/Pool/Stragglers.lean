import Coordination.Proofs.Pool.Ledger
import Coordination.Proofs.Pool.Parking
import Coordination.Proofs.Pool.Release

/-!
# What stragglers do to later runs

A worker that is left behind by its run finds out at its next look. Until then it may be in the middle
of a take, and whatever is sent meanwhile may come to it: an item for a later run, or an exit signal
(`overtaken_by_straggler`). That happens once at most, since after an envelope the worker looks again
(`takes_of_straggler`).

The proof counts the envelopes that a worker may still get before it looks (`appetite`). An envelope
that departs for the worker uses one of them up, and only a look that finds the run going on would
bring a new one.
-/

namespace Coordination

/-- Whether a worker is about to take an envelope. -/
def Worker.Phase.isTaking {ι : Type} : Worker.Phase ι → Bool
  | .taking => true
  | _ => false

namespace PoolSystem

open Channel (share)

variable {ι σ : Type}

/-- Whether a worker is in the middle of a take, and nothing has come to it yet. -/
def Takes (pool : PoolSystem ι σ) (id : Nat) : Bool :=
  (pool.phase? id).any (·.isTaking) || pool.channel.receivers.contains (.agent id)

/-- How many envelopes a worker may still get before it looks whether its run is terminated. -/
def appetite (pool : PoolSystem ι σ) (id : Nat) : Nat :=
  pool.channel.receivers.count (.agent id) + ((pool.phase? id).any (·.isTaking)).toNat

variable {pool after : PoolSystem ι σ} {now : Instant} {move : Move ι σ}
  {use : Channel.Use (Envelope ι)} {reply : Option (Reply ι)}

section Taking

theorem isTaking_afterTake (worker : Worker ι σ) (envelope : Option (Envelope ι)) :
    (worker.afterTake envelope).1.phase.isTaking = false := by
  rcases envelope with _ | _ | _ <;> rfl

theorem isTaking_afterCallback (worker : Worker ι σ) (calls : worker.phase.calls = true)
    (ending : CallbackEnding) : (worker.afterCallback ending).1.phase.isTaking = false := by
  cases phase : worker.phase <;> cases ending <;>
    simp_all [Worker.afterCallback, Worker.Phase.calls, Worker.afterItem, Worker.afterFailure,
      Worker.Phase.isTaking]

theorem phase?_of_found {id : Nat} {worker : Worker ι σ} (found : pool.workers[id]? = some worker) :
    pool.phase? id = some worker.phase := by
  rw [phase?, found, Option.map_some]

/-- A worker takes one envelope at a time. -/
theorem appetite_le (seated : Seated pool) (id : Nat) : pool.appetite id ≤ (pool.Takes id).toNat := by
  have most : pool.channel.receivers.count (.agent id) ≤ 1 :=
    List.nodup_iff_count.mp (List.nodup_append.mp seated.distinct).1 _
  cases taking : (pool.phase? id).any (·.isTaking) with
  | true =>
      have absent : pool.channel.receivers.count (.agent id) = 0 := by
        rw [List.count_eq_zero]
        intro mem
        rcases (seated.seats _).mp (List.mem_append_left _ mem) with ⟨other, same, worker, found, parked⟩
        cases same
        rw [phase?_of_found found, Option.any_some] at taking
        cases phase : worker.phase <;> rw [phase] at taking parked <;> contradiction
      simp [appetite, Takes, taking, absent]
  | false =>
      by_cases mem : .agent id ∈ pool.channel.receivers
      · simpa [appetite, Takes, taking, mem] using most
      · simp [appetite, Takes, taking, mem, List.count_eq_zero.mpr mem]

end Taking

variable [Inhabited σ]

section Serving

theorem Transition.sips (step : Transition pool now move use after reply) (id : Nat) :
    use ≠ .drain (.agent id) := by
  cases step with
  | take _ _ taking => rcases taking with rfl | rfl <;> simp
  | _ => simp

/-- Only a worker that is about to take an envelope looks for one, and then it is not any more. -/
theorem Transition.asks (step : Transition pool now move use after reply) {id : Nat}
    (asks : use.asks (.agent id) = true) :
    ∃ worker changed, pool.workers[id]? = some worker ∧ after.workers[id]? = some changed ∧
      worker.phase.isTaking = true ∧ changed.phase.isTaking = false := by
  cases step with
  | @take other worker _ envelope found phase taking =>
      have same : other = id := by
        rcases taking with rfl | rfl <;> simpa [Channel.Use.asks] using asks
      subst same
      refine ⟨_, _, found, found_put found _, ?_, ?_⟩
      · rw [phase]
        rfl
      · exact isTaking_afterTake worker (some envelope)
  | @parkWorker other worker found phase | @quit other worker found phase =>
      have same : other = id := by simpa [Channel.Use.asks] using asks
      subst same
      refine ⟨_, _, found, found_put found _, ?_, rfl⟩
      rw [phase]
      rfl
  | _ => simp [Channel.Use.asks] at asks

/-- A worker that was let go does not begin another take. -/
theorem Transition.isTaking (step : Transition pool now move use after reply) {id : Nat}
    {worker changed : Worker ι σ} (found : pool.workers[id]? = some worker)
    (put : after.workers[id]? = some changed) (discharged : pool.Discharged worker)
    (taking : changed.phase.isTaking = true) : worker.phase.isTaking = true := by
  by_cases own : move.party = .agent id
  · cases step with
    | look mine phase =>
        cases own
        cases mine.symm.trans found
        cases (found_put mine _).symm.trans put
        rcases discharged with terminated | gone
        · rw [terminated] at taking
          cases taking
        · rw [phase] at gone
          cases gone
    | take mine | pickUp mine =>
        cases own
        cases (found_put mine _).symm.trans put
        rw [isTaking_afterTake] at taking
        cases taking
    | @answer _ _ memory ending mine calls =>
        cases own
        cases mine.symm.trans found
        cases (found_put mine _).symm.trans put
        rw [isTaking_afterCallback { worker with memory } calls ending] at taking
        cases taking
    | parkWorker mine | quit mine | despair mine | timeOut mine | countOut mine | notify mine
    | finish mine =>
        cases own
        cases (found_put mine _).symm.trans put
        cases taking
    | _ => cases own
  · cases (step.worker_of_ne found own).symm.trans put
    exact taking

/-- What departs for a worker that was let go is taken from what it may still get. -/
theorem Transition.appetite_le (step : Transition pool now move use after reply) {id : Nat}
    {worker : Worker ι σ} (found : pool.workers[id]? = some worker)
    (discharged : pool.Discharged worker) :
    (share (.agent id) (pool.channel.departures use)).length + after.appetite id
      ≤ pool.appetite id := by
  have served : _ ≤ pool.channel.receivers.count (.agent id) + _ :=
    Channel.serving_after (.agent id) use (step.sips id)
  rw [← step.channel] at served
  rcases step.worker_same found with ⟨changed, put, _⟩
  have looked : (use.asks (.agent id)).toNat + changed.phase.isTaking.toNat
      ≤ worker.phase.isTaking.toNat := by
    cases asks : use.asks (.agent id) with
    | true =>
        rcases step.asks asks with ⟨former, later, there, here, before, now⟩
        cases there.symm.trans found
        cases here.symm.trans put
        simp [before, now]
    | false =>
        cases taking : changed.phase.isTaking with
        | true => simp [step.isTaking found put discharged taking]
        | false => simp
  rw [appetite, appetite, phase?_of_found found, phase?_of_found put, Option.any_some, Option.any_some]
  omega

end Serving

/-- After its run a worker gets no more than it may still get before it looks. -/
theorem appetite_of_path {earlier later : List (Event ι σ)} {final : PoolSystem ι σ}
    (history : History earlier pool) (path : Path pool later final) {id : Nat} {worker : Worker ι σ}
    (found : pool.workers[id]? = some worker) (past : ¬pool.Underway worker.run) :
    (∃ changed, final.workers[id]? = some changed ∧ final.Discharged changed) ∧
      (share (.agent id) (later.flatMap Event.departed)).length + final.appetite id
        ≤ pool.appetite id := by
  induction path with
  | refl =>
      have released := (released_of_history history).dismissed worker.run past
      exact ⟨⟨worker, found, released worker (List.mem_of_getElem? found) rfl⟩, by simp⟩
  | @step events middle now move stepped path performed ih =>
      rcases ih with ⟨⟨former, there, discharged⟩, bound⟩
      have step := perform_transition performed
      have crew := crew_of_history (history.append path)
      rcases step.worker_same there with ⟨changed, put, _⟩
      refine ⟨⟨changed, put, discharged.keep crew step there put⟩, ?_⟩
      have less : (share (.agent id)
          (Event.departed ⟨middle, now, move, stepped.state, stepped.reply⟩)).length
            + stepped.state.appetite id ≤ middle.appetite id := step.appetite_le there discharged
      simp only [List.flatMap_append, List.flatMap_cons, List.flatMap_nil, List.append_nil,
        Channel.share_append, List.length_append]
      omega

/-- **After its run a worker takes one more envelope at most**, and only in a take that it had begun
before. -/
theorem takes_of_straggler {earlier later : List (Event ι σ)} {final : PoolSystem ι σ}
    (history : History earlier pool) (path : Path pool later final) {id : Nat} {worker : Worker ι σ}
    (found : pool.workers[id]? = some worker) (past : ¬pool.Underway worker.run) :
    (share (.agent id) (later.flatMap Event.departed)).length ≤ (pool.Takes id).toNat := by
  have bound := (appetite_of_path history path found past).2
  have most := appetite_le (parking_of_history history).seated id
  omega

/-- A shutdown that is interrupted while the worker is parked. It is parked, since thread 1 has the exit
signal in its hands. -/
def parkedBehind : List (Instant × Move Nat Unit) :=
  [(0, .begin 0 (.start { PoolConfig.blocking 1 with gracePeriod := ⟨0⟩ })), (0, .answer 0 () .done),
    (0, .begin 0 (.add 1)), (0, .work 0), (0, .work 0), (0, .begin 0 .wait), (0, .proceed 0),
    (0, .proceed 0), (0, .proceed 0), (1, .begin 1 .clear), (2, .answer 0 () .done), (2, .work 0),
    (2, .work 0), (3, .begin 2 .interrupt), (50000000, .proceed 0), (50000000, .proceed 0),
    (50000000, .proceed 0), (50000000, .proceed 0), (50000000, .proceed 0), (50000000, .proceed 0),
    (50000000, .proceed 0), (50000000, .proceed 0), (50000000, .proceed 0)]

/-- The pool is idle, and an item is queued for the next run. -/
def overtaking : List (Instant × Move Nat Unit) := [(50000000, .begin 0 (.add 2)), (50000000, .work 0)]

theorem takes_of_parkedBehind :
    let pool := (new none).follow parkedBehind
    pool.lifecycle = .idle ∧ pool.Takes 0 = true ∧
      (share (.agent 0) ((pool.trace overtaking).flatMap Event.departed)).length ≤ 1 := by
  intro pool
  have history := history_follow none parkedBehind
  have rest : pool.lifecycle = .idle := by decide
  have past := not_underway_of_idle (custody_of_history history) rest 0
  have path : Path pool (pool.trace overtaking) (pool.follow overtaking) := by
    simpa using Path.refl.follow overtaking
  have found : pool.workers[0]? = some ⟨0, 0, .blocking, (), .parked 50000002, 1⟩ := by decide
  exact ⟨rest, by decide, takes_of_straggler history path found past⟩

/-- A straggler takes an item that was queued after the report about its run. -/
theorem overtaken_by_straggler :
    let events := (new none).trace parkedBehind
    let pool := (new none).follow parkedBehind
    History events pool ∧
      (events.getLast?.bind (·.reply)) =
        some (.report { interrupted := true, stragglers := 1, stats := { processed := 1 } }) ∧
      share (.agent 0) ((pool.trace overtaking).flatMap Event.departed) = [.work 2] ∧
      ((pool.follow overtaking).phase? 0) = some (.processing 2) := by
  intro events pool
  exact ⟨history_follow none parkedBehind, by decide, by decide, by decide⟩

end PoolSystem

end Coordination
