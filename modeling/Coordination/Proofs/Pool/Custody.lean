import Coordination.Proofs.Pool.Transition

/-!
# Who shuts a pool down

A wait for completion has the pool in its hands from its first step to its last one, and so has a start
that calls its run off. Only one thread at a time does, and only while the pool is shutting down or locked
(`custody_of_history`). A pool that runs has an owner, and its queue is open.
-/

namespace Coordination

/-- Only who closes a channel closes it. -/
theorem Channel.closed_after {α : Type} {channel : Channel α} {use : Use α}
    (closed : (channel.after use).closed = true) : channel.closed = true ∨ use = .close := by
  cases use with
  | close => exact Or.inr rfl
  | send party message =>
      cases sent : channel.offer? message with
      | none => exact Or.inl (by simpa [after, sent, parkSender] using closed)
      | some offered =>
          rw [← closed_of_offer? sent]
          exact Or.inl (by simpa [after, sent] using closed)
  | offer party message =>
      cases sent : channel.offer? message with
      | none => exact Or.inl (by simpa [after, sent] using closed)
      | some offered =>
          rw [← closed_of_offer? sent]
          exact Or.inl (by simpa [after, sent] using closed)
  | take party =>
      rw [after_take] at closed
      rw [← closed_take channel]
      split at closed <;> exact Or.inl closed
  | seek party => exact Or.inl ((closed_take channel).symm.trans closed)
  | _ => exact Or.inl closed

namespace PoolSystem

variable {ι σ : Type}

/-- The shutdown of a run that a thread is in the middle of. -/
def Activity.shutdown? : Activity ι → Option Shutdown
  | .signalling shutdown _ | .offering shutdown _ _ | .watching shutdown | .listening shutdown _
  | .forcing shutdown | .expecting shutdown _ | .counting shutdown | .judging shutdown _ _ =>
      some shutdown
  | _ => none

/-- Whether a wait has the pool in its hands. -/
def Activity.shuts : Activity ι → Bool
  | .draining _ _ | .resetting _ | .unwinding _ => true
  | activity => activity.shutdown?.isSome

/-- The run that a start calls off. -/
def Activity.calledOff? : Activity ι → Option RunId
  | .callingOff run _ | .gathering run _ => some run
  | _ => none

/-- Where a thread that has the pool in its hands has it in its life. -/
def Activity.claim? (activity : Activity ι) : Option Lifecycle :=
  if activity.shuts then some .shuttingDown else activity.calledOff?.map fun _ => .locked

/-- One thread at a time has the pool in its hands, while the pool is shutting down or locked. -/
structure Custody (pool : PoolSystem ι σ) : Prop where
  claimed : ∀ thread, ∀ life ∈ (pool.activity thread).claim?, pool.lifecycle = life
  alone : ∀ first second, (pool.activity first).claim?.isSome = true →
    (pool.activity second).claim?.isSome = true → first = second
  known : ∀ run, pool.lifecycle = .running run → run < pool.runs.length
  begun : ∀ thread, ∀ shutdown ∈ (pool.activity thread).shutdown?, shutdown.run < pool.runs.length
  called : ∀ thread, ∀ run ∈ (pool.activity thread).calledOff?, run < pool.runs.length
  owned : ∀ run, pool.lifecycle = .running run → 0 < pool.owners
  joined : ∀ thread run, pool.activity thread = .joining run → pool.owners = 0
  opened : pool.channel.closed = true → pool.owners = 0

variable {pool after : PoolSystem ι σ} {now : Instant} {move : Move ι σ}
  {use : Channel.Use (Envelope ι)} {reply : Option (Reply ι)}

theorem shuts_of_shutdown {activity : Activity ι} {shutdown : Shutdown}
    (doing : shutdown ∈ activity.shutdown?) : activity.shuts = true := by
  cases activity <;> first | rfl | cases doing

theorem claim?_of_shuts {activity : Activity ι} (shuts : activity.shuts = true) :
    activity.claim? = some .shuttingDown := if_pos shuts

theorem claim?_of_calledOff {activity : Activity ι} {run : RunId}
    (doing : run ∈ activity.calledOff?) : activity.claim? = some .locked := by
  cases activity <;> first | rfl | cases doing

theorem held_of_claim {activity : Activity ι} {life : Lifecycle} (claims : life ∈ activity.claim?) :
    life = .shuttingDown ∨ life = .locked := by
  cases activity <;> cases claims <;> first | exact Or.inl rfl | exact Or.inr rfl

theorem Custody.shut (custody : Custody pool) (thread : ThreadId)
    (shuts : (pool.activity thread).shuts = true) : pool.lifecycle = .shuttingDown :=
  custody.claimed thread _ (claim?_of_shuts shuts)

theorem Custody.single (custody : Custody pool) (first second : ThreadId)
    (shuts : (pool.activity first).shuts = true) (also : (pool.activity second).shuts = true) :
    first = second :=
  custody.alone first second (by simp [claim?_of_shuts shuts]) (by simp [claim?_of_shuts also])

theorem Custody.locked (custody : Custody pool) {thread : ThreadId} {run : RunId}
    (calls : run ∈ (pool.activity thread).calledOff?) : pool.lifecycle = .locked :=
  custody.claimed thread _ (claim?_of_calledOff calls)

section Advancing

variable {before next : Activity ι} {advanced : PoolSystem ι σ}

/-- A shutdown goes on until it drains the queue or panics. -/
theorem Advance.shuts (advance : Advance pool now before advanced next) : next.shuts = true := by
  cases advance with
  | force | forgo => split <;> rfl
  | _ => rfl

theorem Advance.calledOff (advance : Advance pool now before advanced next) :
    next.calledOff? = none := by
  cases advance with
  | force | forgo => split <;> rfl
  | _ => rfl

/-- A shutdown goes on with its run and as many workers, and does not forget an interrupt. -/
theorem Advance.shutdown (advance : Advance pool now before advanced next) :
    ∃ shutdown ∈ before.shutdown?, ∀ later ∈ next.shutdown?, later.run = shutdown.run ∧
      later.finished.length = shutdown.finished.length ∧
        (later.interrupted = false → shutdown.interrupted = false) := by
  cases advance with
  | force | forgo =>
      refine ⟨_, rfl, ?_⟩
      intro later same
      split at same <;> cases same <;> exact ⟨rfl, rfl, id⟩
  | judge | overflow | overflowUnforced =>
      refine ⟨_, rfl, ?_⟩
      rintro later ⟨⟩
  | notice =>
      refine ⟨_, rfl, ?_⟩
      rintro later ⟨⟩
      refine ⟨rfl, rfl, ?_⟩
      rintro ⟨⟩
  | hear | expect =>
      refine ⟨_, rfl, ?_⟩
      rintro later ⟨⟩
      exact ⟨rfl, List.length_set, id⟩
  | _ =>
      refine ⟨_, rfl, ?_⟩
      rintro later ⟨⟩
      exact ⟨rfl, rfl, id⟩

theorem Advance.not_joining (advance : Advance pool now before advanced next) (run : RunId) :
    next ≠ .joining run := by
  cases advance with
  | force | forgo => split <;> rintro ⟨⟩
  | _ => rintro ⟨⟩

end Advancing

variable [Inhabited σ]

/-- A thread that gets the pool into its hands finds that nobody else has it. -/
theorem Transition.takes_over (step : Transition pool now move use after reply) {thread : ThreadId}
    {life : Lifecycle} (claims : life ∈ (after.activity thread).claim?) :
    life ∈ (pool.activity thread).claim? ∨ move.party = .caller thread ∧
      (pool.lifecycle ≠ .shuttingDown ∧ pool.lifecycle ≠ .locked) ∧ after.lifecycle = life := by
  by_cases own : move.party = .caller thread
  · cases step with
    | waitIdle _ idle rest =>
        cases own
        rw [activity_turnTo, if_pos rfl] at claims
        cases claims
        exact Or.inr ⟨rfl, by simp [rest], rfl⟩
    | takeOver _ idle runs =>
        cases own
        rw [activity_turnTo, if_pos rfl] at claims
        cases claims
        exact Or.inr ⟨rfl, by simp [runs], rfl⟩
    | fallShort idle _ rest =>
        cases own
        rw [activity_fallShort, if_pos rfl] at claims
        cases claims
        exact Or.inr ⟨rfl, by simp [rest], rfl⟩
    | signal doing | parkSignal doing | sent doing | withdraw doing | desert doing | breakOff doing
    | drain doing | callOff doing =>
        cases own
        rw [activity_turnTo, if_pos rfl] at claims
        rw [doing]
        exact Or.inl claims
    | advance doing advance =>
        cases own
        rcases advance.shutdown with ⟨shutdown, mem, _⟩
        rw [activity_turnTo, if_pos rfl, claim?_of_shuts advance.shuts] at claims
        rw [doing, claim?_of_shuts (shuts_of_shutdown mem)]
        exact Or.inl claims
    | refuse idle | abandon idle | launch idle | add idle | park idle | offer idle | clear idle
    | waitBeside idle | interrupt idle | inspect idle | own idle | disown idle | abandonIdle idle
    | abandonRunning idle | added idle | cleared idle | putBack idle | parkBack idle | restored idle
    | reset idle | unwound idle | joined idle | gathered idle =>
        cases own
        simp [Activity.claim?, Activity.shuts, Activity.shutdown?, Activity.calledOff?] at claims
    | ignore => exact Or.inl claims
    | _ => cases own
  · rw [step.activity_of_ne own] at claims
    exact Or.inl claims

/-- The pool leaves the hands of a thread when it gives it back. -/
theorem Transition.hands_back (step : Transition pool now move use after reply)
    (held : pool.lifecycle = .shuttingDown ∨ pool.lifecycle = .locked) :
    after.lifecycle = pool.lifecycle ∨
      ∃ thread, (pool.activity thread).claim?.isSome = true ∧ after.activity thread = .idle := by
  cases step with
  | reset doing | unwound doing | gathered doing =>
      refine Or.inr ⟨_, by rw [doing]; rfl, ?_⟩
      rw [activity_turnTo, if_pos rfl]
  | launch _ _ rest | fallShort _ _ rest | waitIdle _ _ rest => simp [rest] at held
  | takeOver _ _ runs | abandonRunning _ _ runs => simp [runs] at held
  | advance doing advance => exact Or.inl advance.lifecycle
  | _ => exact Or.inl rfl

/-- A pool that runs was started, and goes on to run until it is shut down or given up. -/
theorem Transition.runs (step : Transition pool now move use after reply) {run : RunId}
    (runs : after.lifecycle = .running run) : pool.lifecycle = .running run ∨
      pool.lifecycle = .idle ∧ 0 < pool.owners ∧ run = pool.runs.length ∧
        ∃ thread config, (∃ shortage, move = .begin thread (.start config shortage)) ∧
          after = (pool.launch thread config).state := by
  cases step with
  | @launch thread config _ _ owned rest =>
      cases runs
      exact Or.inr ⟨rest, owned, rfl, thread, config, ⟨_, rfl⟩, rfl⟩
  | advance doing advance => exact Or.inl (advance.lifecycle.symm.trans runs)
  | waitIdle | takeOver | abandonRunning | reset | unwound | fallShort | gathered => cases runs
  | _ => exact Or.inl runs

theorem Transition.owned (step : Transition pool now move use after reply) {run : RunId}
    (runs : after.lifecycle = .running run) (owned : 0 < pool.owners) : 0 < after.owners := by
  cases step with
  | disown _ shared => exact Nat.sub_pos_of_lt shared
  | own => exact Nat.succ_pos _
  | abandonIdle _ _ stands => exact absurd runs (stands run)
  | abandonRunning => cases runs
  | advance doing advance => exact advance.owners ▸ owned
  | _ => exact owned

theorem Transition.unowned (step : Transition pool now move use after reply)
    (unowned : pool.owners = 0) : after.owners = 0 := by
  cases step with
  | disown => exact congrArg (· - 1) unowned
  | own _ owned => exact absurd unowned (Nat.ne_of_gt owned)
  | abandonIdle | abandonRunning => rfl
  | advance doing advance => exact advance.owners.trans unowned
  | _ => exact unowned

/-- Only the last owner begins to join the workers. -/
theorem Transition.joins (step : Transition pool now move use after reply) {thread : ThreadId}
    {run : RunId} (joins : after.activity thread = .joining run) :
    pool.activity thread = .joining run ∨ after.owners = 0 := by
  by_cases own : move.party = .caller thread
  · cases step with
    | abandonRunning => exact Or.inr rfl
    | advance doing advance =>
        cases own
        rw [activity_turnTo, if_pos rfl] at joins
        exact absurd joins (advance.not_joining run)
    | look | take | parkWorker | quit | pickUp | despair | timeOut | countOut | notify | finish
    | answer => cases own
    | ignore => exact Or.inl joins
    | _ =>
        cases own
        simp at joins
  · rw [step.activity_of_ne own] at joins
    exact Or.inl joins

/-- Only the last owner closes the queue. -/
theorem Transition.closes (step : Transition pool now move use after reply)
    (closed : after.channel.closed = true) : pool.channel.closed = true ∨ after.owners = 0 ∨
      ∃ thread run, pool.activity thread = .joining run := by
  rw [step.channel] at closed
  rcases Channel.closed_after closed with still | rfl
  · exact Or.inl still
  · cases step with
    | abandonIdle => exact Or.inr (Or.inl rfl)
    | joined doing => exact Or.inr (Or.inr ⟨_, _, doing⟩)
    | take _ _ taking => rcases taking with ⟨⟨⟩⟩ | ⟨⟨⟩⟩

/-- A shutdown goes on with its run, or it has just taken it over. -/
theorem Transition.begins (step : Transition pool now move use after reply) {thread : ThreadId}
    {shutdown : Shutdown} (doing : shutdown ∈ (after.activity thread).shutdown?) :
    (∃ former ∈ (pool.activity thread).shutdown?, shutdown.run = former.run ∧
      shutdown.finished.length = former.finished.length ∧
        (shutdown.interrupted = false → former.interrupted = false)) ∨
      pool.lifecycle = .running shutdown.run ∧
        shutdown.finished.length = (pool.run shutdown.run).config.threads := by
  by_cases own : move.party = .caller thread
  · cases step with
    | takeOver _ idle runs =>
        cases own
        rw [activity_turnTo, if_pos rfl] at doing
        cases doing
        exact Or.inr ⟨runs, List.length_replicate⟩
    | signal before | parkSignal before | sent before | withdraw before | desert before =>
        cases own
        rw [activity_turnTo, if_pos rfl] at doing
        cases doing
        rw [before]
        exact Or.inl ⟨_, rfl, rfl, rfl, id⟩
    | breakOff before =>
        cases own
        rw [activity_turnTo, if_pos rfl] at doing
        cases doing
        rw [before]
        refine Or.inl ⟨_, rfl, rfl, rfl, ?_⟩
        rintro ⟨⟩
    | advance before advance =>
        cases own
        rw [activity_turnTo, if_pos rfl] at doing
        rcases advance.shutdown with ⟨former, mem, same⟩
        rw [before]
        exact Or.inl ⟨former, mem, same shutdown doing⟩
    | look | take | parkWorker | quit | pickUp | despair | timeOut | countOut | notify | finish
    | answer => cases own
    | ignore => exact Or.inl ⟨shutdown, doing, rfl, rfl, id⟩
    | _ =>
        cases own
        simp [Activity.shutdown?] at doing
  · rw [step.activity_of_ne own] at doing
    exact Or.inl ⟨shutdown, doing, rfl, rfl, id⟩

/-- A start goes on to call its run off, which it has just begun. -/
theorem Transition.calls_off (step : Transition pool now move use after reply) {thread : ThreadId}
    {run : RunId} (calls : run ∈ (after.activity thread).calledOff?) :
    run ∈ (pool.activity thread).calledOff? ∨ run = pool.runs.length ∧
      ∃ config hit, after = (pool.fallShort thread config hit).state := by
  by_cases own : move.party = .caller thread
  · cases step with
    | fallShort =>
        cases own
        rw [activity_fallShort, if_pos rfl] at calls
        cases calls
        exact Or.inr ⟨rfl, _, _, rfl⟩
    | callOff doing =>
        cases own
        rw [activity_turnTo, if_pos rfl] at calls
        rw [doing]
        exact Or.inl calls
    | advance doing advance =>
        cases own
        rw [activity_turnTo, if_pos rfl, advance.calledOff] at calls
        cases calls
    | look | take | parkWorker | quit | pickUp | despair | timeOut | countOut | notify | finish
    | answer => cases own
    | ignore => exact Or.inl calls
    | _ =>
        cases own
        simp [Activity.calledOff?] at calls
  · rw [step.activity_of_ne own] at calls
    exact Or.inl calls

/-- A start calls its run off until the workers of the run have ended. -/
theorem Transition.fails (step : Transition pool now move use after reply) {thread : ThreadId}
    {run : RunId} (calls : run ∈ (pool.activity thread).calledOff?) :
    run ∈ (after.activity thread).calledOff? ∨ move = .proceed thread ∧ after.lifecycle = .idle ∧
      after.haveAllEnded run = true ∧ ∃ error, reply = some (.refused (.spawnFailed error)) := by
  by_cases own : move.party = .caller thread
  · cases step with
    | gathered doing ended =>
        cases own
        rw [doing] at calls
        cases calls
        exact Or.inr ⟨rfl, rfl, ended, _, rfl⟩
    | callOff doing =>
        cases own
        rw [doing] at calls
        rw [activity_turnTo, if_pos rfl]
        exact Or.inl calls
    | advance doing advance =>
        cases own
        rw [doing] at calls
        cases advance <;> cases calls
    | look | take | parkWorker | quit | pickUp | despair | timeOut | countOut | notify | finish
    | answer => cases own
    | ignore => exact Or.inl calls
    | refuse doing | abandon doing | launch doing | fallShort doing | add doing | park doing
    | offer doing | clear doing | waitBeside doing | waitIdle _ doing | takeOver _ doing
    | interrupt doing | inspect doing | own doing | disown doing | abandonIdle doing
    | abandonRunning doing | added doing | cleared doing | putBack doing | parkBack doing
    | restored doing | signal doing | parkSignal doing | sent doing | withdraw doing | desert doing
    | breakOff doing | drain doing | reset doing | unwound doing | joined doing =>
        cases own
        rw [doing] at calls
        cases calls
  · rw [step.activity_of_ne own]
    exact Or.inl calls

/-- Every step keeps the pool in one hand. -/
theorem custody_of_transition (custody : Custody pool)
    (step : Transition pool now move use after reply) : Custody after := by
  -- A thread that had the pool in its hands before finds that the pool has stayed where it was.
  have held {thread : ThreadId} {life : Lifecycle}
      (claims : life ∈ (pool.activity thread).claim?) :
      pool.lifecycle = .shuttingDown ∨ pool.lifecycle = .locked := by
    rw [custody.claimed thread life claims]
    exact held_of_claim claims
  refine ⟨?_, ?_, ?_, ?_, ?_, ?_, ?_, ?_⟩
  · intro thread life claims
    rcases step.takes_over claims with before | ⟨_, _, shut⟩
    · rcases step.hands_back (held before) with same | ⟨other, also, idle⟩
      · exact same.trans (custody.claimed thread life before)
      · have mine : (pool.activity thread).claim?.isSome = true := Option.isSome_of_mem before
        rw [custody.alone thread other mine also, idle] at claims
        cases claims
    · exact shut
  · intro first second claims also
    obtain ⟨one, claims⟩ := Option.isSome_iff_exists.mp claims
    obtain ⟨two, also⟩ := Option.isSome_iff_exists.mp also
    rcases step.takes_over claims with former | ⟨own, free, _⟩
    · rcases step.takes_over also with before | ⟨_, free, _⟩
      · exact custody.alone first second (Option.isSome_of_mem former) (Option.isSome_of_mem before)
      · exact absurd (held former) (not_or.mpr free)
    · rcases step.takes_over also with before | ⟨same, _, _⟩
      · exact absurd (held before) (not_or.mpr free)
      · exact Party.caller.inj (own.symm.trans same)
  · intro run runs
    rcases step.runs runs with former | ⟨_, _, rfl, thread, config, _, rfl⟩
    · exact Nat.lt_of_lt_of_le (custody.known run former) step.runs_length
    · simp [PoolSystem.launch, PoolSystem.finish, PoolSystem.recruit]
  · intro thread shutdown doing
    refine Nat.lt_of_lt_of_le ?_ step.runs_length
    rcases step.begins doing with ⟨former, mem, same, _⟩ | ⟨runs, _⟩
    · rw [same]
      exact custody.begun thread former mem
    · exact custody.known _ runs
  · intro thread run calls
    rcases step.calls_off calls with former | ⟨rfl, config, hit, rfl⟩
    · exact Nat.lt_of_lt_of_le (custody.called thread run former) step.runs_length
    · simp [PoolSystem.fallShort, PoolSystem.carryOn, PoolSystem.recruit]
  · intro run runs
    refine step.owned runs ?_
    rcases step.runs runs with former | ⟨_, owned, _⟩
    · exact custody.owned run former
    · exact owned
  · intro thread run joins
    rcases step.joins joins with former | unowned
    · exact step.unowned (custody.joined thread run former)
    · exact unowned
  · intro closed
    rcases step.closes closed with former | unowned | ⟨thread, run, joins⟩
    · exact step.unowned (custody.opened former)
    · exact unowned
    · exact step.unowned (custody.joined thread run joins)

/-- The pool is in one hand after every past. -/
theorem custody_of_history {events : List (Event ι σ)} (history : History events pool) :
    Custody pool := by
  refine history.induction (motive := fun _ pool => Custody pool) ?_ ?_
  · intro capacity
    refine ⟨?_, ?_, ?_, ?_, ?_, ?_, ?_, ?_⟩
    · rintro thread life ⟨⟩
    · rintro first second ⟨⟩
    · rintro run ⟨⟩
    · rintro thread shutdown ⟨⟩
    · rintro thread run ⟨⟩
    · rintro run ⟨⟩
    · rintro thread run ⟨⟩
    · rintro ⟨⟩
  · intro events pool now move stepped _ custody performed
    exact custody_of_transition custody (perform_transition performed)

end PoolSystem

end Coordination
