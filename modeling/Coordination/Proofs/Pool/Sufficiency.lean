import Coordination.Proofs.Pool.Staffing
import Coordination.Proofs.Pool.Supply
import Mathlib.Data.List.Perm.Subperm

/-!
# Exit signals suffice

A shutdown sends one exit signal for each worker of its run. Until they are taken the signals are in the
queue, or the shutdown still has to send them, or a thread that clears the queue has them in its hands.
However many workers fail to be initialized, and whoever clears the queue meanwhile, there is a signal
for every live worker that has not got one (`signals_suffice`), so that a shutdown that was not
interrupted never waits for a worker that waits for an envelope.

Every step moves signals from one of these places to another. Two steps lose some: a worker takes one and
leaves, or a shutdown that could not get rid of one finds that no worker of its run is counted in, and
stops sending.
-/

namespace Coordination

theorem Channel.handed?_of_mem {α : Type} {channel : Channel α}
    (distinct : (channel.handed.map (·.1)).Nodup) {row : Party × α} (mem : row ∈ channel.handed) :
    channel.handed? row.1 = some row.2 := by
  cases handed : channel.handed? row.1 with
  | none => exact absurd (List.mem_map_of_mem mem) (handed?_eq_none_iff.mp handed)
  | some message =>
      have listed := mem_handed_of_handed? handed
      have same := List.inj_on_of_nodup_map distinct listed mem rfl
      rw [← same]

namespace PoolSystem

variable {ι σ : Type}

/-- The exit signals that wait in the queue or with parked senders, or that threads have in their hands. -/
def signals (pool : PoolSystem ι σ) : Nat :=
  pool.channel.waiting.countP Envelope.isExit + pool.activities.sum Activity.signals

/-- Whether a shutdown still has exit signals to send. -/
def Activity.sends : Activity ι → Bool
  | .signalling _ (_ + 1) | .offering _ _ _ => true
  | _ => false

/-- How many live workers of a run have not got an exit signal. -/
def unsignalled (pool : PoolSystem ι σ) (run : RunId) : Nat :=
  pool.workers.zipIdx.countP fun row => row.1.run = run && row.1.phase.isLive &&
    !(pool.channel.handed? (.agent row.2)).any Envelope.isExit

/-- All signals are sent, nobody has to put any back, the queue is empty, and a live worker of a run is
still without an envelope. -/
structure Stuck (pool : PoolSystem ι σ) (run : RunId) : Prop where
  sent : ∀ thread, (pool.activity thread).sends = false
  restored : ∀ thread, (pool.activity thread).restores = false
  empty : pool.channel.queue.toList = []
  waits : ∃ (id : Nat) (worker : Worker ι σ), pool.workers[id]? = some worker ∧ worker.run = run ∧
    worker.phase.isLive = true ∧ pool.channel.handed? (.agent id) = none

/-- There is a signal for every live worker of a run that is being shut down, and the pool has no other
live workers. -/
structure Provided (pool : PoolSystem ι σ) (run : RunId) : Prop where
  alone : ∀ worker ∈ pool.workers, worker.run ≠ run → worker.phase.isLive = false
  enough : ∀ thread, ∀ shutdown ∈ (pool.activity thread).shutdown?, shutdown.run = run →
    shutdown.interrupted = false → pool.liveWorkers run ≤ pool.supply

variable {pool after : PoolSystem ι σ} {now : Instant} {move : Move ι σ}
  {use : Channel.Use (Envelope ι)} {reply : Option (Reply ι)}

variable [Inhabited σ]

section Enough

/-- Until the pool rests, every worker has been there before. -/
theorem Transition.worker_before (step : Transition pool now move use after reply)
    (busy : pool.lifecycle ≠ .idle) {id : Nat} {changed : Worker ι σ}
    (put : after.workers[id]? = some changed) : ∃ worker, pool.workers[id]? = some worker := by
  have length : after.workers.length = pool.workers.length := by
    rcases step.workers_cases with same | ⟨_, _, _, _, set, _⟩ | ⟨_, rest, _⟩
    · rw [same]
    · rw [set, List.length_set]
    · exact absurd rest busy
  exact ⟨_, List.getElem?_eq_getElem (length ▸ (List.getElem?_eq_some_iff.mp put).1)⟩

/-- Until the pool rests, no workers come to life. -/
theorem Transition.alone (step : Transition pool now move use after reply) (busy : pool.lifecycle ≠ .idle)
    {run : RunId} (alone : ∀ worker ∈ pool.workers, worker.run ≠ run → worker.phase.isLive = false) :
    ∀ worker ∈ after.workers, worker.run ≠ run → worker.phase.isLive = false := by
  intro changed mem apart
  rcases List.getElem?_of_mem mem with ⟨id, put⟩
  rcases step.worker_before busy put with ⟨worker, found⟩
  rcases step.worker_same found with ⟨other, same, own, _⟩
  cases same.symm.trans put
  exact step.not_live found put (alone worker (List.mem_of_getElem? found) (own ▸ apart))

/-- A shutdown that has just taken its run over has a signal for every worker. -/
theorem Transition.enough_of_takeOver (custody : Custody pool) (crew : Crew pool)
    (step : Transition pool now move use after reply) {run : RunId} {thread : ThreadId}
    (runs : pool.lifecycle = .running run) (signals : (pool.run run).config.exitSignal = true)
    (shuts : (after.activity thread).shuts = true) : after.liveWorkers run ≤ after.supply := by
  have shut := (custody_of_transition custody step).shut thread shuts
  have own := step
  cases step with
  | takeOver span idle also =>
      cases also.symm.trans runs
      have balance := own.supply rfl
      simp only [signals, if_true] at balance ⊢
      simp only [idle, activity_turnTo, if_true, Activity.signals, Channel.posts, Channel.receipts,
        Channel.withdrawals, List.countP_nil] at balance
      have most : pool.liveWorkers run ≤ pool.workers.countP (·.run = run) :=
        List.countP_mono_left fun worker _ live => (Bool.and_eq_true_iff.mp live).1
      rw [crew.size run (Or.inl runs)] at most
      refine Nat.le_trans most ?_
      omega
  | launch _ _ rest | fallShort _ _ rest | waitIdle _ _ rest => cases runs.symm.trans rest
  | advance doing advance => cases runs.symm.trans (advance.lifecycle.symm.trans shut)
  | reset | unwound | gathered | abandonRunning => cases shut
  | _ => cases runs.symm.trans shut

omit [Inhabited σ] in
/-- Who takes an exit signal stops being live, and nobody comes back. -/
theorem live_afterTake (worker : Worker ι σ) (envelope : Envelope ι) :
    envelope.isExit.toNat + (worker.afterTake (some envelope)).1.phase.isLive.toNat = 1 := by
  cases envelope <;> rfl

omit [Inhabited σ] in
theorem live_afterLook_le (worker : Worker ι σ) (terminated : Bool) :
    (worker.afterLook terminated).1.phase.isLive.toNat ≤ 1 :=
  Bool.toNat_le _

omit [Inhabited σ] in
theorem live_afterCallback_le (worker : Worker ι σ) (ending : CallbackEnding) :
    (worker.afterCallback ending).1.phase.isLive.toNat ≤ worker.phase.isLive.toNat := by
  cases live : worker.phase.isLive with
  | true => exact Bool.toNat_le _
  | false => exact Nat.le_of_eq (congrArg Bool.toNat (not_live_afterCallback worker live ending))

/-- A worker spends as many signals as it takes. -/
theorem Transition.live_le_of_agent (step : Transition pool now move use after reply)
    (seated : Seated pool) {run : RunId} {id : Nat} (own : move.party = .agent id)
    (alone : ∀ worker ∈ pool.workers, worker.run ≠ run → worker.phase.isLive = false) :
    after.liveWorkers run + pool.supply ≤ pool.liveWorkers run + after.supply := by
  have balance := step.supply_agent own
  have settle (spent : Nat) {worker changed : Worker ι σ} (found : pool.workers[id]? = some worker)
      (put : after.workers = pool.workers.set id changed) (same : changed.run = worker.run)
      (cost : spent + changed.phase.isLive.toNat ≤ worker.phase.isLive.toNat)
      (supply : pool.supply = spent + after.supply) :
      after.liveWorkers run + pool.supply ≤ pool.liveWorkers run + after.supply := by
    have counts := countP_set_of_found found changed
      fun worker => worker.run = run && worker.phase.isLive
    have mine : worker.run ≠ run → worker.phase.isLive = false :=
      alone worker (List.mem_of_getElem? found)
    rw [← put, same] at counts
    change after.liveWorkers run + _ = pool.liveWorkers run + _ at counts
    by_cases apart : worker.run = run
    · cases live : worker.phase.isLive <;> cases later : changed.phase.isLive <;>
        simp [apart, live, later] at counts cost <;> omega
    · simp [apart, mine apart] at counts cost
      omega
  have silent (posts : pool.channel.posts use = []) (receipts : pool.channel.receipts use = [])
      (withdrawals : pool.channel.withdrawals use = []) : pool.supply = 0 + after.supply := by
    simpa [posts, receipts, withdrawals] using balance
  cases step with
  | look found phase =>
      cases own
      refine settle 0 found rfl (Worker.same_afterLook _ _).1 ?_ (silent rfl rfl rfl)
      rw [phase, Nat.zero_add]
      exact live_afterLook_le _ _
  | @take _ worker _ envelope found phase taking taken =>
      cases own
      refine settle envelope.isExit.toNat found rfl (Worker.same_afterTake _ _).1 ?_ ?_
      · rw [live_afterTake, phase]
        exact Nat.le_refl _
      · rcases taking with rfl | rfl <;> cases envelope <;>
          simpa [Channel.posts, Channel.receipts, Channel.withdrawals, taken, Envelope.isExit]
            using balance
  | @pickUp _ worker deadline envelope found phase handed =>
      cases own
      have distinct := (List.nodup_append.mp seated.distinct).2.1
      refine settle envelope.isExit.toNat found rfl (Worker.same_afterTake _ _).1 ?_ ?_
      · rw [live_afterTake, phase]
        exact Nat.le_refl _
      · rw [Channel.receipts, Channel.filter_handed distinct handed] at balance
        cases envelope <;> simpa [Channel.posts, Channel.withdrawals, Envelope.isExit] using balance
  | parkWorker found phase mode opened empty | quit found phase mode empty =>
      cases own
      refine settle 0 found rfl rfl ?_ (silent rfl ?_ rfl)
      · rw [phase, Nat.zero_add]
        exact Bool.toNat_le _
      · rw [Channel.receipts, empty]
        rfl
  | despair found phase | timeOut found phase =>
      cases own
      refine settle 0 found rfl rfl ?_ (silent rfl rfl rfl)
      rw [phase, Nat.zero_add]
      exact Bool.toNat_le _
  | countOut found phase | notify found phase | finish found phase =>
      cases own
      exact settle 0 found rfl rfl (by simp [phase, Worker.Phase.isLive]) (silent rfl rfl rfl)
  | @answer _ worker memory ending found calls =>
      cases own
      refine settle 0 found rfl (Worker.same_afterCallback { worker with memory } ending).1 ?_
        (silent rfl rfl rfl)
      rw [Nat.zero_add]
      exact live_afterCallback_le { worker with memory } ending
  | _ => cases own

omit [Inhabited σ] in
/-- Nobody drains the queue at the end of a wait while a thread is in the middle of a shutdown. -/
theorem not_drains_of_shutdown (custody : Custody pool) {thread : ThreadId} {shutdown : Shutdown}
    (doing : shutdown ∈ (pool.activity thread).shutdown?) (other : ThreadId) :
    (pool.activity other).drains = false := by
  cases activity : pool.activity other with
  | draining =>
      have also : (pool.activity other).shuts = true := congrArg Activity.shuts activity
      rw [← custody.single other thread also (shuts_of_shutdown doing), activity] at doing
      cases doing
  | _ => rfl

/-- A caller leaves the workers alone, unless it starts a run. -/
theorem Transition.workers_of_caller (step : Transition pool now move use after reply)
    {thread : ThreadId} (own : move.party = .caller thread) (busy : pool.lifecycle ≠ .idle) :
    after.workers = pool.workers := by
  cases step with
  | launch _ _ rest | fallShort _ _ rest => exact absurd rest busy
  | advance doing advance => exact advance.workers
  | look | take | parkWorker | quit | pickUp | despair | timeOut | countOut | notify | finish
  | answer => cases own
  | _ => rfl

/-- Every step leaves a signal for every live worker of a run, while its shutdown goes on
uninterrupted. -/
theorem Transition.enough (step : Transition pool now move use after reply) (custody : Custody pool)
    (crew : Crew pool) (parking : Parking pool) (staffed : Staffed pool) {run : RunId}
    (alone : ∀ worker ∈ pool.workers, worker.run ≠ run → worker.phase.isLive = false)
    (signals : (pool.run run).config.exitSignal = true) {thread : ThreadId}
    (enough : ∀ shutdown ∈ (pool.activity thread).shutdown?, shutdown.run = run →
      shutdown.interrupted = false → pool.liveWorkers run ≤ pool.supply)
    {later : Shutdown} (mem : later ∈ (after.activity thread).shutdown?) (mine : later.run = run)
    (calm : later.interrupted = false) : after.liveWorkers run ≤ after.supply := by
  rcases step.begins mem with ⟨former, doing, same, _, remembers⟩ | ⟨runs, _⟩
  · have before := enough former doing (same ▸ mine) (remembers calm)
    have shuts := shuts_of_shutdown doing
    have shut := custody.shut thread shuts
    cases party : move.party with
    | agent id =>
        have spent := step.live_le_of_agent parking.seated party alone
        omega
    | caller other =>
        have workers := step.workers_of_caller party (by rw [shut]; rintro ⟨⟩)
        rw [liveWorkers, workers]
        rcases step.supply_le parking.sending party shut
            (not_drains_of_shutdown custody doing other) with more |
          ⟨shutdown, there, deserted⟩ | ⟨shutdown, there, interrupted⟩
        · exact Nat.le_trans before more
        · cases custody.single other thread (shuts_of_shutdown there) shuts
          cases there.symm.trans doing
          refine Nat.le_trans (Nat.le_of_eq ?_) (Nat.zero_le _)
          exact staffed.live (mine ▸ same ▸ deserted)
        · have after := custody_of_transition custody step
          cases after.single other thread (shuts_of_shutdown there) (shuts_of_shutdown mem)
          cases there.symm.trans mem
          rw [interrupted] at calm
          cases calm
  · subst mine
    exact step.enough_of_takeOver custody crew runs signals (shuts_of_shutdown mem)

theorem provided_of_path {earlier events : List (Event ι σ)} {started : PoolSystem ι σ} {run : RunId}
    (history : History earlier started) (runs : started.lifecycle = .running run)
    (alone : ∀ worker ∈ started.workers, worker.run ≠ run → worker.phase.isLive = false)
    (signals : (started.run run).config.exitSignal = true) (path : Path started events pool) :
    run < pool.runs.length ∧ (pool.run run).config = (started.run run).config ∧
      (pool.Underway run → Provided pool run) := by
  induction path with
  | refl =>
      have custody := custody_of_history history
      refine ⟨custody.known run runs, rfl, fun _ => ⟨alone, ?_⟩⟩
      intro thread shutdown mem
      cases runs.symm.trans (custody.shut thread (shuts_of_shutdown mem))
  | @step events pool now move stepped path performed ih =>
      rcases ih with ⟨known, same, provided⟩
      have past := history.append path
      have step := perform_transition performed
      refine ⟨Nat.lt_of_lt_of_le known step.runs_length, (step.settings known).1.trans same, ?_⟩
      intro underway
      rcases step.underway underway with before | ⟨new, _⟩
      · have provided := provided before
        have custody := custody_of_history past
        have busy (rest : pool.lifecycle = .idle) := not_underway_of_idle custody rest run before
        refine ⟨step.alone busy provided.alone, ?_⟩
        intro thread shutdown mem mine calm
        exact step.enough custody (crew_of_history past) (parking_of_history past)
          (staffed_of_history past) provided.alone (same ▸ signals) (provided.enough thread) mem mine calm
      · exact absurd known (Nat.not_lt_of_le (Nat.le_of_eq new.symm))

end Enough

section Suffice

omit [Inhabited σ] in
/-- The signals that were handed over are with live workers of the run. -/
theorem unsignalled_le (seated : Seated pool) {run : RunId}
    (alone : ∀ worker ∈ pool.workers, worker.run ≠ run → worker.phase.isLive = false) :
    pool.unsignalled run + pool.channel.handed.countP (·.2.isExit) ≤ pool.liveWorkers run := by
  let live : Worker ι σ × Nat → Bool := fun row => row.1.run = run && row.1.phase.isLive
  let told : Worker ι σ × Nat → Bool :=
    fun row => (pool.channel.handed? (.agent row.2)).any Envelope.isExit
  have total : pool.liveWorkers run = pool.workers.zipIdx.countP live := by
    conv_lhs => rw [liveWorkers, ← List.zipIdx_map_fst 0 pool.workers, List.countP_map]
    rfl
  have split : pool.workers.zipIdx.countP live
      = pool.workers.zipIdx.countP (fun row => live row && told row) + pool.unsignalled run := by
    rw [List.countP_eq_countP_filter_add _ live told, List.countP_filter, List.countP_filter]
    rfl
  have distinct : (pool.channel.handed.map (·.1)).Nodup := (List.nodup_append.mp seated.distinct).2.1
  have listed : ((pool.channel.handed.filter (·.2.isExit)).map (·.1)) ⊆
      (pool.workers.zipIdx.filter fun row => live row && told row).map (.agent ·.2) := by
    intro party mem
    rcases List.mem_map.mp mem with ⟨row, handed, rfl⟩
    rcases List.mem_filter.mp handed with ⟨there, exits⟩
    rcases (seated.seats row.1).mp (List.mem_append_right _ (List.mem_map_of_mem there)) with
      ⟨id, same, worker, found, parked⟩
    have lives : worker.phase.isLive = true := by
      cases phase : worker.phase <;> rw [phase] at parked <;> first | rfl | cases parked
    have mine : worker.run = run := by
      by_contra apart
      rw [alone worker (List.mem_of_getElem? found) apart] at lives
      cases lives
    have gives : pool.channel.handed? (.agent id) = some row.2 :=
      same ▸ Channel.handed?_of_mem distinct there
    refine List.mem_map.mpr ⟨(worker, id), List.mem_filter.mpr ⟨?_, ?_⟩, same.symm⟩
    · exact List.mk_mem_zipIdx_iff_getElem?.mpr found
    · simp [live, told, gives, mine, lives, exits]
  have fewer := (List.subperm_of_subset (distinct.sublist (List.filter_sublist.map _)) listed).length_le
  rw [List.length_map, List.length_map, ← List.countP_eq_length_filter,
    ← List.countP_eq_length_filter] at fewer
  omega

omit [Inhabited σ] in
/-- In a state in which a run is stuck there are no signals. -/
theorem Stuck.signals (sending : Sending pool) (keyed : pool.activities.Keyed) {run : RunId}
    (stuck : pool.Stuck run) : pool.signals = 0 := by
  have parked : (pool.channel.senders.map (·.2)).countP Envelope.isExit = 0 := by
    rw [List.countP_map, List.countP_eq_zero]
    rintro ⟨party, envelope⟩ mem exits
    rcases sending.parked _ mem with ⟨thread, _, parks⟩
    have restored := stuck.restored thread
    have sent := stuck.sent thread
    cases envelope with
    | work item => cases exits
    | exit =>
        cases activity : pool.activity thread with
        | restoring =>
            rw [activity] at restored
            cases restored
        | offering =>
            rw [activity] at sent
            cases sent
        | _ =>
            rw [activity] at parks
            exact parks.elim
  have held : pool.activities.sum Activity.signals = 0 := by
    refine Table.sum_eq_zero ?_
    rintro ⟨thread, doing⟩ there
    have same : pool.activity thread = doing := keyed.get_of_mem there
    have restored := stuck.restored thread
    have sent := stuck.sent thread
    rw [same] at restored sent
    cases doing with
    | clearing items signals =>
        cases signals with
        | zero => rfl
        | succ => cases restored
    | signalling shutdown left =>
        cases left with
        | zero => rfl
        | succ => cases sent
    | restoring => cases restored
    | offering => cases sent
    | _ => rfl
  rw [PoolSystem.signals, Channel.waiting, stuck.empty, List.nil_append, parked, held]

/-- **There is an exit signal for every live worker that has not got one**, in the queue or with those who
still have to send it or to put it back, whenever a run with exit signals is being shut down without an
interrupt and no worker of another run is alive. So a shutdown does not wait for a worker that waits
for an envelope. -/
theorem signals_suffice {earlier events : List (Event ι σ)} {started : PoolSystem ι σ} {run : RunId}
    (history : History earlier started) (runs : started.lifecycle = .running run)
    (alone : ∀ worker ∈ started.workers, worker.run ≠ run → worker.phase.isLive = false)
    (signals : (started.run run).config.exitSignal = true) (path : Path started events pool)
    {thread : ThreadId} {shutdown : Shutdown} (shuts : shutdown ∈ (pool.activity thread).shutdown?)
    (own : shutdown.run = run) (uninterrupted : shutdown.interrupted = false) :
    pool.unsignalled run ≤ pool.signals ∧ ¬pool.Stuck run := by
  have later := history.append path
  have parking := parking_of_history later
  rcases provided_of_path history runs alone signals path with ⟨known, same, provided⟩
  have provided := provided (Or.inr (Or.inl ⟨thread, shutdown, shuts, own⟩))
  have enough := provided.enough thread shutdown shuts own uninterrupted
  have told := unsignalled_le parking.seated provided.alone
  have suffice : pool.unsignalled run ≤ pool.signals := by
    rw [PoolSystem.supply, Channel.stock] at enough
    rw [PoolSystem.signals]
    omega
  refine ⟨suffice, fun stuck => ?_⟩
  rcases stuck.waits with ⟨id, worker, found, mine, live, unhanded⟩
  rw [stuck.signals parking.sending (keyed_of_history later), Nat.le_zero, unsignalled,
    List.countP_eq_zero] at suffice
  refine suffice (worker, id) (List.mk_mem_zipIdx_iff_getElem?.mpr found) ?_
  simp [mine, live, unhanded]

/-- A bounded queue, and two workers of which one fails to be initialized. -/
def untilWait : List (Instant × Move Nat Unit) :=
  [.begin 0 (.start (.blocking 2)), .answer 0 () (.failed "no memory"), .answer 1 () .done,
    .begin 0 (.add 1), .work 1, .work 1].map (0, ·)

/-- The shutdown fills the queue and parks, and thread 1 clears the queue. -/
def amidClear : List (Instant × Move Nat Unit) :=
  [.begin 0 .wait, .proceed 0, .proceed 0, .begin 1 .clear].map (0, ·)

theorem signals_suffice_amidClear :
    let started : PoolSystem Nat Unit := (new (some 1)).follow untilWait
    let pool := started.follow amidClear
    started.lifecycle = .running 0 ∧ pool.unsignalled 0 = 1 ∧ pool.signals = 2 ∧
      pool.channel.queue.toList = [] ∧ pool.unsignalled 0 ≤ pool.signals ∧ ¬pool.Stuck 0 := by
  intro started pool
  have path : Path started (started.trace amidClear) pool := by simpa using Path.refl.follow amidClear
  have runs : started.lifecycle = .running 0 := by decide
  have alone : ∀ worker ∈ started.workers, worker.run ≠ 0 → worker.phase.isLive = false := by decide
  let shutdown : Shutdown :=
    { run := 0, span := { operation := "pool_shutdown", started := 0, slowThreshold := slowShutdown },
      finished := [false, false], remaining := 2 }
  have doing : pool.activity 0 = .offering shutdown 0 (shutdownPoll.after 0) := by decide
  have shuts : shutdown ∈ (pool.activity 0).shutdown? := by
    rw [doing]
    rfl
  have suffice := signals_suffice (history_follow (some 1) untilWait) runs alone (by decide) path shuts
    rfl rfl
  exact ⟨runs, by decide, by decide, by decide, suffice⟩

end Suffice

end PoolSystem

end Coordination
