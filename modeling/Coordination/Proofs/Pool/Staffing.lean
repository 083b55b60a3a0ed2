import Coordination.Proofs.Pool.Crew

/-!
# Workers that are counted

Every worker of a run is counted when the run is launched, and counts itself out once, when it has left
its loop. So a run counts no fewer workers than it has (`staffed_of_history`), and one that counts no
workers has no live ones.
-/

namespace Coordination

/-- Whether a worker has not counted itself out. -/
def Worker.Phase.isCounted {ι : Type} : Worker.Phase ι → Bool
  | .notifying | .ending | .ended => false
  | _ => true

namespace PoolSystem

variable {ι σ : Type} {pool after : PoolSystem ι σ} {now : Instant} {move : Move ι σ}
  {use : Channel.Use (Envelope ι)} {reply : Option (Reply ι)}

theorem isCounted_of_isLive {phase : Worker.Phase ι} (live : phase.isLive = true) :
    phase.isCounted = true := by
  cases phase <;> first | rfl | cases live

theorem isCounted_of_calls {phase : Worker.Phase ι} (calls : phase.calls = true) :
    phase.isCounted = true := by
  cases phase <;> first | rfl | cases calls

theorem isCounted_afterTake (worker : Worker ι σ) (envelope : Option (Envelope ι)) :
    (worker.afterTake envelope).1.phase.isCounted = true := by
  rcases envelope with _ | _ | _ <;> rfl

theorem isCounted_afterLook (worker : Worker ι σ) (terminated : Bool) :
    (worker.afterLook terminated).1.phase.isCounted = true := by
  cases terminated <;> rfl

theorem isCounted_afterCallback (worker : Worker ι σ) (calls : worker.phase.calls = true)
    (ending : CallbackEnding) : (worker.afterCallback ending).1.phase.isCounted = true := by
  cases phase : worker.phase <;> cases ending <;>
    simp_all [Worker.afterCallback, Worker.Phase.calls, Worker.afterItem, Worker.afterFailure,
      Worker.Phase.isCounted]

/-- No run counts fewer workers than it has. -/
def Staffed (pool : PoolSystem ι σ) : Prop :=
  ∀ run, pool.workers.countP (fun worker => worker.run = run && worker.phase.isCounted)
    ≤ (pool.run run).running

theorem Staffed.live (staffed : Staffed pool) {run : RunId} (deserted : (pool.run run).running = 0) :
    pool.workers.countP (fun worker => worker.run = run && worker.phase.isLive) = 0 := by
  refine Nat.le_zero.mp (Nat.le_trans ?_ (deserted ▸ staffed run))
  refine List.countP_mono_left fun worker _ both => ?_
  rw [Bool.and_eq_true] at both ⊢
  exact ⟨both.1, isCounted_of_isLive both.2⟩

theorem Advance.running {before next : Activity ι} {advanced : PoolSystem ι σ}
    (advance : Advance pool now before advanced next) (run : RunId) :
    (advanced.run run).running = (pool.run run).running := by
  cases advance with
  | hear | expect | force | overflow => exact field_modifyRun Run.running _ _ (by intro _; rfl) run
  | _ => rfl

variable [Inhabited σ]

/-- A worker that counts itself out is one that was counted. -/
theorem staffed_of_transition (staffed : Staffed pool) (crew : Crew pool)
    (step : Transition pool now move use after reply) : Staffed after := by
  intro run
  have balanced (workers : after.workers = pool.workers)
      (running : (after.run run).running = (pool.run run).running) :
      after.workers.countP (fun worker => worker.run = run && worker.phase.isCounted)
        ≤ (after.run run).running := by
    rw [workers, running]
    exact staffed run
  have moves {id : Nat} {worker changed : Worker ι σ} (found : pool.workers[id]? = some worker)
      (put : after.workers = pool.workers.set id changed) (same : changed.run = worker.run)
      (counted : changed.phase.isCounted = worker.phase.isCounted)
      (running : (after.run run).running = (pool.run run).running) :
      after.workers.countP (fun worker => worker.run = run && worker.phase.isCounted)
        ≤ (after.run run).running := by
    rw [put, running, countP_own_set found same _ fun _ => counted]
    exact staffed run
  have unmanned : pool.workers.countP
      (fun worker => worker.run = pool.runs.length && worker.phase.isCounted) = 0 := by
    refine List.countP_eq_zero.mpr fun worker mem => ?_
    simp [crew.unmanned worker mem]
  have recruits {config : PoolConfig} (made : after.runs = (pool.recruit config).runs)
      (staff : after.workers = (pool.recruit config).workers) :
      after.workers.countP (fun worker => worker.run = run && worker.phase.isCounted)
        ≤ (after.run run).running := by
    rw [countP_of_recruit staff, run_append made]
    by_cases new : run = pool.runs.length
    · refine Nat.le_of_eq ?_
      rw [new, unmanned, if_pos rfl, if_pos ⟨rfl, rfl⟩, Nat.zero_add]
    · rw [if_neg (fun both => new both.1.symm), if_neg new]
      exact staffed run
  cases step with
  | launch | fallShort => exact recruits rfl rfl
  | abandon =>
      rw [run_append rfl]
      by_cases new : run = pool.runs.length
      · rw [new]
        exact Nat.le_trans (Nat.le_of_eq unmanned) (Nat.zero_le _)
      · rw [if_neg new]
        exact staffed run
  | advance doing advance => exact balanced advance.workers (advance.running run)
  | abandonRunning | callOff => exact balanced rfl (field_modifyRun Run.running _ _ (by intro _; rfl) run)
  | look found phase =>
      refine moves found rfl (Worker.same_afterLook _ _).1 ?_ rfl
      rw [isCounted_afterLook, phase]
      rfl
  | take found phase | pickUp found phase =>
      refine moves found rfl (Worker.same_afterTake _ _).1 ?_ rfl
      rw [isCounted_afterTake, phase]
      rfl
  | parkWorker found phase | quit found phase | despair found phase | timeOut found phase
  | finish found phase => exact moves found rfl rfl (by rw [phase]; rfl) rfl
  | notify found phase =>
      exact moves found rfl rfl (by rw [phase]; rfl) (field_modifyRun Run.running _ _ (by intro _; rfl) run)
  | @countOut id worker found phase =>
      have known := (crew.placed id worker found).known
      have counts := countP_set_of_found found { worker with phase := .notifying }
        fun worker => worker.run = run && worker.phase.isCounted
      have running : ((pool.modifyRun worker.run fun run =>
          { run with running := run.running - 1 }).run run).running
            = (pool.run run).running - if worker.run = run then 1 else 0 := by
        refine (congrArg Run.running (run_modifyRun pool worker.run run _)).trans ?_
        by_cases own : worker.run = run
        · rw [if_pos ⟨own, known⟩, if_pos own]
        · rw [if_neg (fun both => own both.1), if_neg own, Nat.sub_zero]
      have most := staffed run
      refine Nat.le_trans ?_ (Nat.le_of_eq running.symm)
      simp only [phase, Worker.Phase.isCounted, Bool.and_true, Bool.and_false, Bool.false_eq_true,
        if_false, decide_eq_true_eq, Nat.add_zero] at counts
      exact Nat.le_sub_of_add_le (counts ▸ most)
  | @answer id worker memory ending found calls =>
      have counted := isCounted_afterCallback { worker with memory } calls ending
      refine moves found rfl (Worker.same_afterCallback { worker with memory } ending).1 ?_
        (field_modifyRun Run.running _ _ (by intro _; rfl) run)
      exact counted.trans (isCounted_of_calls calls).symm
  | _ => exact balanced rfl rfl

theorem staffed_of_history {events : List (Event ι σ)} (history : History events pool) :
    Staffed pool := by
  refine history.induction (motive := fun _ pool => Staffed pool) ?_ ?_
  · intro capacity run
    exact Nat.zero_le _
  · intro events pool now move stepped history staffed performed
    exact staffed_of_transition staffed (crew_of_history history) (perform_transition performed)

end PoolSystem

end Coordination
