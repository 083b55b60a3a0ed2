import Coordination.Proofs.Pool.Succession
import Coordination.Proofs.Pool.Trust

/-!
# What becomes of interrupts

An interrupt waits until a shutdown learns of it, or until the next start forgets it. Nothing else takes
an interrupt away, and nothing but an interrupt adds one, so the interrupts that have been raised since a
run was started are those that still wait and the one that its shutdown has learned of, if it has
(`interruption_of_history`).

That no interrupt comes too early for a shutdown rests on the order of its steps: it looks for one before
it listens to any worker, and as long as it has not looked, the interrupt is still there
(`alarmed_of_path`).
-/

namespace Coordination.PoolSystem

variable {ι σ : Type}

/-- Whether a thread knows that its shutdown was interrupted. -/
def Activity.interrupted : Activity ι → Bool
  | .judging _ report _ | .draining report _ | .resetting report => report.interrupted
  | activity => activity.shutdown?.any (·.interrupted)

/-- Whether a thread is going to look for an interrupt before it listens to any worker. -/
def Activity.isAhead : Activity ι → Bool
  | .signalling shutdown _ | .offering shutdown _ _ | .watching shutdown => shutdown.remaining ≠ 0
  | _ => false

/-- Whether a step raises an interrupt. -/
def Event.raises (event : Event ι σ) : Bool :=
  match event.move with
  | .begin _ .interrupt => true
  | _ => false

/-- Whether a shutdown learns of an interrupt. -/
def Event.heeds (event : Event ι σ) : Bool :=
  match event.move with
  | .proceed thread =>
      !(event.before.activity thread).interrupted && (event.after.activity thread).interrupted
  | _ => false

/-- Whether a step is a start that is not refused; it forgets the interrupts even if it runs short of
threads or panics. -/
def Event.forgets (event : Event ι σ) : Bool :=
  match event.move, event.reply with
  | .begin _ (.start _ _), some (.refused _) => false
  | .begin _ (.start _ _), _ => true
  | _, _ => false

/-- How many interrupts have been raised. -/
def raised (events : List (Event ι σ)) : Nat := events.countP Event.raises

/-- How many interrupts a thread has learned of. -/
def heeded (thread : ThreadId) (events : List (Event ι σ)) : Nat :=
  events.countP fun event => event.move.party = .caller thread && event.heeds

/-- The steps of all parties from the first step of a wait to the one that returns its report. -/
structure Awaits (thread : ThreadId) (first : Event ι σ) (rest : List (Event ι σ))
    (report : CompletionReport ι) : Prop where
  begins : first.move = .begin thread .wait
  ends : ∃ before last, first :: rest = before ++ [last] ∧
    (∀ event ∈ before, event.move.party = .caller thread → event.reply = none) ∧
      last.move.party = .caller thread ∧ last.reply = some (.report report)

/-- How a wait deals with interrupts. -/
structure Heeding (thread : ThreadId) (earlier : List (Event ι σ)) (first : Event ι σ)
    (rest : List (Event ι σ)) (report : CompletionReport ι) (pool : PoolSystem ι σ) : Prop where
  once : heeded thread (first :: rest) = report.interrupted.toNat
  /-- A wait that has no run to shut down does not look for interrupts. -/
  idle : first.taken? = none → report.interrupted = false
  began : ∀ run, first.taken? = some run → ∃ older start running,
    earlier = older ++ start :: running ∧ start.launched? = some run
  /-- The interrupts that were raised since the run was started still wait, up to the one. -/
  account : ∀ older start running run, earlier = older ++ start :: running →
    start.launched? = some run → first.taken? = some run →
      raised (running ++ first :: rest) = report.interrupted.toNat + pool.interrupts
  /-- No interrupt comes too early for the shutdown of a run that has been started. -/
  early : ∀ older start running run, earlier = older ++ start :: running →
    start.launched? = some run → first.taken? = some run → 0 < raised running →
      report.interrupted = true

/-- What becomes of the interrupts of a pool. -/
structure Interruption (events : List (Event ι σ)) (pool : PoolSystem ι σ) : Prop where
  /-- Only an interrupt adds one, and only a shutdown that learns of one takes it away. -/
  balance : ∀ event ∈ events, event.forgets = false →
    event.after.interrupts + event.heeds.toNat = event.before.interrupts + event.raises.toNat
  forgotten : ∀ event ∈ events, event.forgets = true → event.after.interrupts = 0
  heeding : ∀ earlier first rest thread report, events = earlier ++ first :: rest →
    Awaits thread first rest report → Heeding thread earlier first rest report pool

variable {pool after : PoolSystem ι σ} {now : Instant} {move : Move ι σ}
  {use : Channel.Use (Envelope ι)} {reply : Option (Reply ι)} {events : List (Event ι σ)}
  {thread : ThreadId} {report : CompletionReport ι}

/-- A wait returns at once, or it returns with a step of its own later on. -/
theorem Awaits.cases {first : Event ι σ} {rest : List (Event ι σ)}
    (awaits : Awaits thread first rest report) :
    (rest = [] ∧ first.reply = some (.report report)) ∨ ∃ during last, rest = during ++ [last] ∧
      first.reply = none ∧
        (∀ event ∈ during, event.move.party = .caller thread → event.reply = none) ∧
          last.move.party = .caller thread ∧ last.reply = some (.report report) := by
  rcases awaits.ends with ⟨before, last, whole, stays, own, replies⟩
  cases before with
  | nil =>
      obtain ⟨rfl, rfl⟩ : first = last ∧ rest = [] := by simpa using whole
      exact Or.inl ⟨rfl, replies⟩
  | cons head during =>
      obtain ⟨rfl, rfl⟩ : first = head ∧ rest = during ++ [last] := by simpa using whole
      refine Or.inr ⟨during, last, rfl, ?_, ?_, own, replies⟩
      · apply stays first List.mem_cons_self
        rw [awaits.begins]
        rfl
      · intro event mem
        exact stays event (List.mem_cons_of_mem _ mem)

section Flags

variable {before next : Activity ι} {advanced : PoolSystem ι σ}

theorem interrupted_forced (shutdown : Shutdown) (deadline : Instant) :
    (if shutdown.remaining = 0 then Activity.counting shutdown else .expecting shutdown deadline :
      Activity ι).interrupted = shutdown.interrupted := by
  split <;> rfl

/-- A shutdown that goes on does not forget an interrupt, unless it panics, and learns of one only by
taking it. -/
theorem Advance.interrupts (advance : Advance pool now before advanced next) :
    (next.unwinds = false → before.interrupted = true → next.interrupted = true) ∧
      advanced.interrupts + (!before.interrupted && next.interrupted).toNat = pool.interrupts := by
  cases advance with
  | @notice shutdown unsettled interrupted unaware =>
      simp [Activity.interrupted, Activity.shutdown?, unaware]
      omega
  | @force shutdown interrupted | @forgo shutdown interrupted =>
      rw [interrupted_forced]
      simp [Activity.interrupted, Activity.shutdown?, modifyRun]
  | overflow interrupted | overflowUnforced interrupted =>
      simp [Activity.unwinds, Activity.interrupted, Activity.shutdown?, interrupted, modifyRun]
  | _ => simp [Activity.interrupted, Activity.shutdown?, Shutdown.noted, modifyRun]

/-- As long as a shutdown has not looked for interrupts, one that waits is not overlooked. -/
theorem Advance.alarmed (advance : Advance pool now before advanced next)
    (waits : 0 < pool.interrupts) (ahead : before.isAhead = true) :
    next.interrupted = true ∨ 0 < advanced.interrupts ∧ next.isAhead = true := by
  cases advance with
  | signalled shutdown => exact Or.inr ⟨waits, ahead⟩
  | @settle shutdown settled =>
      simp only [Activity.isAhead, decide_eq_true_eq] at ahead
      exact Or.inl (settled.resolve_left ahead)
  | notice => exact Or.inl rfl
  | listen unsettled uninterrupted quiet => omega
  | _ => simp [Activity.isAhead] at ahead

end Flags

variable [Inhabited σ]

section Steps

/-- A shutdown does not know of an interrupt as long as it goes on to send exit signals. -/
def Unaware (pool : PoolSystem ι σ) : Prop :=
  ∀ thread shutdown left, (pool.activity thread = .signalling shutdown left ∨
    ∃ deadline, pool.activity thread = .offering shutdown left deadline) → shutdown.interrupted = false

omit [Inhabited σ] in
theorem Advance.unaware {before next : Activity ι} {advanced : PoolSystem ι σ} {shutdown : Shutdown}
    {left : Nat} (advance : Advance pool now before advanced next) :
    next ≠ .signalling shutdown left ∧ ∀ deadline, next ≠ .offering shutdown left deadline := by
  cases advance with
  | force | forgo => split <;> simp
  | _ => simp

theorem Unaware.keep (unaware : Unaware pool) (step : Transition pool now move use after reply) :
    Unaware after := by
  intro thread shutdown left sends
  by_cases own : move.party = .caller thread
  · cases step with
    | takeOver =>
        cases own
        simp only [activity_turnTo, if_pos, Activity.signalling.injEq, reduceCtorEq, exists_false,
          or_false] at sends
        rw [← sends.1]
    | signal doing =>
        cases own
        simp only [activity_turnTo, if_pos, Activity.signalling.injEq, reduceCtorEq, exists_false,
          or_false] at sends
        exact unaware thread shutdown _ (Or.inl (sends.1 ▸ doing))
    | parkSignal doing =>
        cases own
        simp only [activity_turnTo, if_pos, Activity.offering.injEq, reduceCtorEq, false_or] at sends
        rcases sends with ⟨_, same, _⟩
        exact unaware thread shutdown _ (Or.inl (same ▸ doing))
    | sent doing | withdraw doing =>
        cases own
        simp only [activity_turnTo, if_pos, Activity.signalling.injEq, reduceCtorEq, exists_false,
          or_false] at sends
        exact unaware thread shutdown _ (Or.inr ⟨_, sends.1 ▸ doing⟩)
    | advance doing advance =>
        cases own
        rw [activity_turnTo, if_pos rfl] at sends
        rcases sends with signals | ⟨deadline, offers⟩
        · exact absurd signals advance.unaware.1
        · exact absurd offers (advance.unaware.2 deadline)
    | look | take | parkWorker | quit | pickUp | despair | timeOut | countOut | notify | finish
    | answer => cases own
    | ignore => exact unaware thread shutdown left sends
    | _ =>
        cases own
        simp at sends
  · rw [step.activity_of_ne own] at sends
    exact unaware thread shutdown left sends

theorem unaware_of_history (history : History events pool) : Unaware pool := by
  apply history.induction (motive := fun _ pool => Unaware pool)
  · rintro capacity thread shutdown left (⟨⟨⟩⟩ | ⟨deadline, ⟨⟩⟩)
  · intro events pool now move stepped _ unaware performed
    exact unaware.keep (perform_transition performed)

/-- A thread does not forget an interrupt before it replies, unless it panics. -/
theorem Transition.interrupted (step : Transition pool now move use after reply)
    (silent : move.party = .caller thread → reply = none)
    (calm : (after.activity thread).unwinds = false)
    (interrupted : (pool.activity thread).interrupted = true) :
    (after.activity thread).interrupted = true := by
  by_cases own : move.party = .caller thread
  · have quiet := silent own
    cases step with
    | signal doing | parkSignal doing | sent doing | withdraw doing | desert doing | drain doing =>
        cases own
        rw [doing] at interrupted
        rw [activity_turnTo, if_pos rfl]
        exact interrupted
    | breakOff doing =>
        cases own
        rw [activity_turnTo, if_pos rfl]
        rfl
    | advance doing advance =>
        cases own
        rw [activity_turnTo, if_pos rfl] at calm ⊢
        exact advance.interrupts.1 calm (doing ▸ interrupted)
    | fallShort doing | park doing | clear doing | waitIdle _ doing | takeOver _ doing
    | abandonRunning doing | putBack doing | parkBack doing | restored doing | callOff doing =>
        cases own
        rw [doing] at interrupted
        cases interrupted
    | look | take | parkWorker | quit | pickUp | despair | timeOut | countOut | notify | finish =>
        cases own
    | _ => cases quiet
  · rwa [step.activity_of_ne own]

/-- Only interrupts raise the number of those that wait, and only starts and shutdowns lower it. -/
theorem Transition.interrupts (step : Transition pool now move use after reply)
    (unaware : Unaware pool) :
    let event : Event ι σ := ⟨pool, now, move, after, reply⟩
    (event.forgets = true → after.interrupts = 0) ∧ (event.forgets = false →
      after.interrupts + event.heeds.toNat = pool.interrupts + event.raises.toNat) := by
  intro event
  -- Most steps neither touch the interrupts nor turn a thread to something that knows of one.
  have proceeds {thread : ThreadId} {before next : Activity ι} (own : move = .proceed thread)
      (doing : pool.activity thread = before) (turned : after.activity thread = next)
      (takes : after.interrupts + (!before.interrupted && next.interrupted).toNat
        = pool.interrupts) :
      (event.forgets = true → after.interrupts = 0) ∧ (event.forgets = false →
        after.interrupts + event.heeds.toNat = pool.interrupts + event.raises.toNat) := by
    simp [event, Event.forgets, Event.heeds, Event.raises, own, doing, turned, takes]
  cases step with
  | abandon | launch | fallShort =>
      simp only [event, Event.forgets, reduceCtorEq, false_implies, and_true]
      exact fun _ => rfl
  | interrupt => simp [event, Event.forgets, Event.heeds, Event.raises, turnTo]
  | breakOff doing elapsed interrupted =>
      apply proceeds rfl doing (by rw [activity_turnTo, if_pos rfl])
      have quiet := unaware _ _ _ (Or.inr ⟨_, doing⟩)
      simp [Activity.interrupted, Activity.shutdown?, quiet, turnTo]
      omega
  | advance doing advance =>
      apply proceeds rfl doing (by rw [activity_turnTo, if_pos rfl])
      exact advance.interrupts.2
  | added doing | cleared doing | putBack doing | parkBack doing | restored doing | signal doing
  | parkSignal doing | sent doing | withdraw doing | desert doing | drain doing | reset doing
  | unwound doing | joined doing | callOff doing | gathered doing =>
      apply proceeds rfl doing (by rw [activity_turnTo, if_pos rfl])
      simp [Activity.interrupted, Activity.shutdown?, turnTo, deal, modifyRun]
  | _ =>
      simp [event, Event.forgets, Event.heeds, Event.raises, turnTo, deal, put, modifyRun]

/-- A start that is not refused finds an idle pool. -/
theorem Transition.rest_of_forgets (step : Transition pool now move use after reply)
    (forgets : (⟨pool, now, move, after, reply⟩ : Event ι σ).forgets = true) :
    pool.lifecycle = .idle := by
  cases step with
  | abandon _ rest | launch _ _ rest | fallShort _ _ rest => exact rest
  | _ => cases forgets

/-- Only a thread that shuts a run down learns of an interrupt. -/
theorem Transition.shutdown_of_heeds (step : Transition pool now move use after reply)
    (heeds : (⟨pool, now, move, after, reply⟩ : Event ι σ).heeds = true) :
    ∃ thread, move = .proceed thread ∧ ∃ shutdown, shutdown ∈ (pool.activity thread).shutdown? := by
  cases step with
  | signal doing | parkSignal doing | sent doing | withdraw doing | desert doing | breakOff doing =>
      refine ⟨_, rfl, ?_⟩
      rw [doing]
      exact ⟨_, rfl⟩
  | advance doing advance =>
      rcases advance.shutdown with ⟨shutdown, mem, _⟩
      refine ⟨_, rfl, shutdown, ?_⟩
      rwa [doing]
  | added doing | cleared doing | putBack doing | parkBack doing | restored doing | drain doing
  | reset doing | unwound doing | joined doing | callOff doing | gathered doing =>
      simp [Event.heeds, doing, Activity.interrupted, Activity.shutdown?] at heeds
  | _ => cases heeds

/-- While a thread has the pool in its hands, nobody else takes an interrupt away. -/
theorem Transition.spares (step : Transition pool now move use after reply) (custody : Custody pool)
    (shuts : (pool.activity thread).shuts = true) (apart : move.party ≠ .caller thread) :
    (⟨pool, now, move, after, reply⟩ : Event ι σ).heeds = false := by
  by_contra heeds
  rcases step.shutdown_of_heeds (Bool.not_eq_false _ ▸ heeds) with ⟨other, rfl, shutdown, mem⟩
  exact apart (congrArg Party.caller (custody.single other thread (shuts_of_shutdown mem) shuts))

/-- A thread that has the pool in its hands goes on with its shutdown. -/
theorem Transition.proceeds (step : Transition pool now move use after reply)
    (shuts : (pool.activity thread).shuts = true) (own : move.party = .caller thread)
    (silent : reply = none) : move = .proceed thread := by
  cases move with
  | proceed other => exact congrArg Move.proceed (Party.caller.inj own)
  | begin other operation =>
      cases own
      cases step with
      | fallShort doing | park doing | clear doing | waitIdle _ doing | takeOver _ doing
      | abandonRunning doing =>
          rw [doing] at shuts
          cases shuts
      | _ => cases silent
  | work | answer => cases own

end Steps

section Paths

omit [Inhabited σ] in
theorem raised_append (events later : List (Event ι σ)) :
    raised (events ++ later) = raised events + raised later := List.countP_append

omit [Inhabited σ] in
theorem heeded_append (thread : ThreadId) (events later : List (Event ι σ)) :
    heeded thread (events ++ later) = heeded thread events + heeded thread later := List.countP_append

omit [Inhabited σ] in
theorem raised_single (event : Event ι σ) : raised [event] = event.raises.toNat := by
  cases raises : event.raises <;> simp [raised, raises]

omit [Inhabited σ] in
theorem heeded_single (thread : ThreadId) (event : Event ι σ) :
    heeded thread [event]
      = if event.move.party = .caller thread then event.heeds.toNat else 0 := by
  by_cases own : event.move.party = .caller thread <;> cases heeds : event.heeds <;>
    simp [heeded, own, heeds]

/-- A thread that has the pool in its hands knows of an interrupt if it has taken one, and the others
wait. -/
theorem Transition.ledger (step : Transition pool now move use after reply) (custody : Custody pool)
    (unaware : Unaware pool) (shuts : (pool.activity thread).shuts = true)
    (silent : move.party = .caller thread → reply = none)
    (calm : (after.activity thread).unwinds = false) :
    let event : Event ι σ := ⟨pool, now, move, after, reply⟩
    (after.activity thread).interrupted.toNat
        = (pool.activity thread).interrupted.toNat + heeded thread [event] ∧
      after.interrupts + (after.activity thread).interrupted.toNat
        = pool.interrupts + (pool.activity thread).interrupted.toNat + raised [event] := by
  intro event
  have keeps : event.forgets = false := by
    by_contra forgets
    have rest := step.rest_of_forgets (Bool.not_eq_false _ ▸ forgets)
    cases rest.symm.trans (custody.shut thread shuts)
  have balance : after.interrupts + event.heeds.toNat = pool.interrupts + event.raises.toNat :=
    (step.interrupts unaware).2 keeps
  rw [heeded_single, raised_single]
  by_cases own : event.move.party = .caller thread
  · have proceeds : event.move = .proceed thread := step.proceeds shuts own (silent own)
    have lasting := step.interrupted silent calm
    have learns : (after.activity thread).interrupted.toNat
        = (pool.activity thread).interrupted.toNat + event.heeds.toNat := by
      simp only [Event.heeds, proceeds]
      cases before : (pool.activity thread).interrupted with
      | true => simp [event, lasting before]
      | false => simp [event]
    rw [if_pos own]
    omega
  · have spares : event.heeds = false := step.spares custody shuts own
    rw [if_neg own, step.activity_of_ne own]
    simp only [spares, Bool.toNat_false, Nat.add_zero] at balance
    omega

/-- The same from the first step of a shutdown on. -/
theorem ledger_of_path {earlier late : List (Event ι σ)} {final : PoolSystem ι σ}
    (history : History earlier pool) (path : Path pool late final)
    (shuts : (pool.activity thread).shuts = true)
    (stays : ∀ event ∈ late, event.move.party = .caller thread → event.reply = none)
    (calm : (final.activity thread).unwinds = false) :
    (final.activity thread).interrupted.toNat
        = (pool.activity thread).interrupted.toNat + heeded thread late ∧
      final.interrupts + (final.activity thread).interrupted.toNat
        = pool.interrupts + (pool.activity thread).interrupted.toNat + raised late := by
  induction path with
  | refl => exact ⟨rfl, rfl⟩
  | @step events middle now move stepped path performed ih =>
      have before := history.append path
      have earlier_stays : ∀ event ∈ events, event.move.party = .caller thread → event.reply = none :=
        fun event mem => stays event (List.mem_append_left _ mem)
      have held := (detached_of_path history path shuts earlier_stays).1
      have step := perform_transition performed
      have silent := stays _ (List.mem_append_right _ List.mem_cons_self)
      have last := step.ledger (custody_of_history before) (unaware_of_history before) held silent calm
      have sums := ih earlier_stays (step.calm_before silent calm)
      rw [heeded_append, raised_append]
      omega

/-- While a run goes on, interrupts only add up. -/
theorem raised_of_running {earlier late : List (Event ι σ)} {final : PoolSystem ι σ} {run : RunId}
    (history : History earlier pool) (path : Path pool late final)
    (runs : ∀ event ∈ late, event.before.lifecycle = .running run) :
    final.interrupts = pool.interrupts + raised late := by
  induction path with
  | refl => rfl
  | @step events middle now move stepped path performed ih =>
      have before := history.append path
      have step := perform_transition performed
      have going : middle.lifecycle = .running run :=
        runs _ (List.mem_append_right _ List.mem_cons_self)
      have keeps : (⟨middle, now, move, stepped.state, stepped.reply⟩ : Event ι σ).forgets = false := by
        by_contra forgets
        cases going.symm.trans (step.rest_of_forgets (Bool.not_eq_false _ ▸ forgets))
      have deaf : (⟨middle, now, move, stepped.state, stepped.reply⟩ : Event ι σ).heeds = false := by
        by_contra heeds
        rcases step.shutdown_of_heeds (Bool.not_eq_false _ ▸ heeds) with ⟨other, _, shutdown, mem⟩
        cases going.symm.trans ((custody_of_history before).shut other (shuts_of_shutdown mem))
      have balance := (step.interrupts (unaware_of_history before)).2 keeps
      have sum := ih fun event mem => runs event (List.mem_append_left _ mem)
      rw [raised_append, raised_single]
      simp only [deaf, Bool.toNat_false] at balance
      omega

/-- An interrupt that waits is not overlooked by a thread that has not looked for any. -/
def Alarmed (pool : PoolSystem ι σ) (thread : ThreadId) : Prop :=
  (pool.activity thread).interrupted = true ∨
    0 < pool.interrupts ∧ (pool.activity thread).isAhead = true

/-- A step of a shutdown overlooks no interrupt. -/
theorem Transition.alarmed (step : Transition pool now move use after reply) (custody : Custody pool)
    (unaware : Unaware pool) (shuts : (pool.activity thread).shuts = true)
    (silent : move.party = .caller thread → reply = none)
    (calm : (after.activity thread).unwinds = false) (alarmed : pool.Alarmed thread) :
    after.Alarmed thread := by
  rcases alarmed with interrupted | ⟨waits, ahead⟩
  · exact Or.inl (step.interrupted silent calm interrupted)
  · by_cases own : move.party = .caller thread
    · obtain rfl := step.proceeds shuts own (silent own)
      unfold Alarmed
      cases step with
      | signal doing | parkSignal doing | sent doing | withdraw doing | desert doing =>
          rw [activity_turnTo, if_pos rfl]
          rw [doing] at ahead
          exact Or.inr ⟨waits, ahead⟩
      | breakOff =>
          rw [activity_turnTo, if_pos rfl]
          exact Or.inl rfl
      | advance doing advance =>
          rw [activity_turnTo, if_pos rfl]
          exact advance.alarmed waits (doing ▸ ahead)
      | added doing | cleared doing | putBack doing | parkBack doing | restored doing | drain doing
      | reset doing | unwound doing | joined doing | callOff doing | gathered doing =>
          rw [doing] at ahead
          cases ahead
    · have sums := step.ledger custody unaware shuts silent calm
      simp only [step.activity_of_ne own] at sums
      refine Or.inr ⟨?_, ?_⟩
      · omega
      · rwa [step.activity_of_ne own]

theorem alarmed_of_path {earlier late : List (Event ι σ)} {final : PoolSystem ι σ}
    (history : History earlier pool) (path : Path pool late final)
    (shuts : (pool.activity thread).shuts = true)
    (stays : ∀ event ∈ late, event.move.party = .caller thread → event.reply = none)
    (calm : (final.activity thread).unwinds = false) (alarmed : pool.Alarmed thread) :
    final.Alarmed thread := by
  induction path with
  | refl => exact alarmed
  | @step events middle now move stepped path performed ih =>
      have before := history.append path
      have earlier_stays : ∀ event ∈ events, event.move.party = .caller thread → event.reply = none :=
        fun event mem => stays event (List.mem_append_left _ mem)
      have held := (detached_of_path history path shuts earlier_stays).1
      have step := perform_transition performed
      have silent := stays _ (List.mem_append_right _ List.mem_cons_self)
      exact step.alarmed (custody_of_history before) (unaware_of_history before) held silent calm
        (ih earlier_stays (step.calm_before silent calm))

end Paths

section Runs

/-- A run that is started has workers. -/
theorem Transition.manned {config : PoolConfig} {shortage : Option Shortage}
    (step : Transition pool now (.begin thread (.start config shortage)) use after reply)
    (rest : pool.lifecycle = .idle) {run : RunId} (runs : after.lifecycle = .running run) :
    config.threads ≠ 0 := by
  cases step with
  | launch _ _ _ valid =>
      intro none
      simp [PoolConfig.validate, none] at valid
  | fallShort => cases runs
  | refuse | abandon => cases rest.symm.trans runs

theorem manned_of_history (history : History events pool) {run : RunId}
    (runs : pool.lifecycle = .running run) : (pool.run run).config.threads ≠ 0 := by
  let Manned (pool : PoolSystem ι σ) : Prop :=
    ∀ run, pool.lifecycle = .running run → (pool.run run).config.threads ≠ 0
  refine history.induction (motive := fun _ pool => Manned pool) ?_ ?_ run runs
  · intro capacity run runs
    cases runs
  · intro events pool now move stepped past manned performed run runs
    have step := perform_transition performed
    rcases step.runs runs with before | ⟨rest, _, rfl, thread, config, ⟨shortage, rfl⟩, launched⟩
    · rw [(step.settings ((custody_of_history past).known run before)).1]
      exact manned run before
    · rw [launched, run_launch]
      exact step.manned rest runs

/-- A run that goes on was started. -/
theorem started_of_history (history : History events pool) {run : RunId}
    (runs : pool.lifecycle = .running run) :
    ∃ older start running, events = older ++ start :: running ∧ start.launched? = some run := by
  have among : run ∈ launched events := by
    rw [launched_of_history history, runs]
    exact List.mem_append_right _ List.mem_cons_self
  rcases List.mem_filterMap.mp among with ⟨start, mem, launches⟩
  rcases List.append_of_mem mem with ⟨older, running, rfl⟩
  exact ⟨older, start, running, rfl, launches⟩

omit [Inhabited σ] in
theorem Event.forgets_of_launched {start : Event ι σ} {run : RunId}
    (launches : start.launched? = some run) : start.forgets = true := by
  unfold launched? at launches
  split at launches
  · rename_i begins replies
    simp [forgets, begins, replies]
  · cases launches

/-- All interrupts wait that were raised since the run was started that goes on. -/
theorem raised_of_launched {older running : List (Event ι σ)} {start : Event ι σ} {run : RunId}
    (history : History (older ++ start :: running) pool) (launches : start.launched? = some run)
    (runs : pool.lifecycle = .running run) : pool.interrupts = raised running := by
  rcases history with ⟨capacity, path⟩
  rcases path.split with ⟨middle, before, onward⟩
  rcases onward.first with ⟨rfl, step, once, rest⟩
  have past : History older start.before := ⟨capacity, before⟩
  have known := (step.launches launches).2
  have going := rest.runs (Nat.lt_of_lt_of_eq (Nat.lt_succ_self run) known.symm) runs
  have sum := raised_of_running (past.append once) rest fun event mem => (going.2 event mem).1
  rwa [(step.interrupts (unaware_of_history past)).1 (Event.forgets_of_launched launches),
    Nat.zero_add] at sum

end Runs

section Waiting

variable {first : Event ι σ} {rest : List (Event ι σ)}

/-- How a thread is off when it has got the pool into its hands. -/
theorem Transition.enters_free (step : Transition pool now (.begin thread .wait) use after reply)
    (silent : reply = none) : pool.lifecycle ≠ .shuttingDown ∧ (after.activity thread).shuts = true ∧
      (after.activity thread).interrupted = false ∧ after.interrupts = pool.interrupts ∧
        (pool.lifecycle.run? = none → (after.activity thread).shutdown? = none) ∧
          ∀ run, pool.lifecycle = .running run → (pool.run run).config.threads ≠ 0 →
            (after.activity thread).isAhead = true := by
  cases step with
  | waitBeside => cases silent
  | waitIdle span idle rest =>
      rw [activity_turnTo, if_pos rfl, rest]
      refine ⟨by simp, rfl, rfl, rfl, fun _ => rfl, by simp⟩
  | takeOver span idle runs =>
      rw [activity_turnTo, if_pos rfl, runs]
      refine ⟨by simp, rfl, rfl, rfl, by simp [Lifecycle.run?], ?_⟩
      rintro run ⟨⟩ manned
      simpa [Activity.isAhead] using manned

/-- A wait that has no run to shut down learns of no interrupt. -/
theorem unheeded_of_path {earlier late : List (Event ι σ)} {final : PoolSystem ι σ}
    (history : History earlier pool) (path : Path pool late final)
    (shuts : (pool.activity thread).shuts = true) (runless : (pool.activity thread).shutdown? = none)
    (stays : ∀ event ∈ late, event.move.party = .caller thread → event.reply = none) :
    (final.activity thread).shutdown? = none ∧ heeded thread late = 0 := by
  induction path with
  | refl => exact ⟨runless, rfl⟩
  | @step events middle now move stepped path performed ih =>
      have before := history.append path
      have step := perform_transition performed
      have earlier_stays : ∀ event ∈ events, event.move.party = .caller thread → event.reply = none :=
        fun event mem => stays event (List.mem_append_left _ mem)
      have held := (detached_of_path history path shuts earlier_stays).1
      rcases ih earlier_stays with ⟨still, count⟩
      refine ⟨?_, ?_⟩
      · rw [Option.eq_none_iff_forall_not_mem]
        intro shutdown mem
        rcases step.begins mem with ⟨former, doing, _⟩ | ⟨runs, _⟩
        · rw [still] at doing
          cases doing
        · cases runs.symm.trans ((custody_of_history before).shut thread held)
      · rw [heeded_append, count, heeded_single, Nat.zero_add]
        split
        · rename_i own
          rw [Bool.toNat_eq_zero]
          by_contra heeds
          rcases step.shutdown_of_heeds (Bool.not_eq_false _ ▸ heeds) with
            ⟨other, proceeds, shutdown, mem⟩
          simp only [proceeds, Move.party, Party.caller.injEq] at own
          rw [own, still] at mem
          cases mem
        · rfl

/-- A wait that returns at once has found another shutdown. -/
theorem Transition.beside (step : Transition pool now (.begin thread .wait) use after reply)
    (replies : reply = some (.report report)) :
    pool.lifecycle = .shuttingDown ∧ report.interrupted = false := by
  cases step with
  | waitBeside idle busy =>
      cases replies
      exact ⟨busy, rfl⟩
  | waitIdle | takeOver => cases replies

/-- A thread returns its report with a step that neither raises nor takes an interrupt. -/
theorem Transition.leaves_interrupts (step : Transition pool now move use after reply)
    (shuts : (pool.activity thread).shuts = true) (own : move.party = .caller thread)
    (replies : reply = some (.report report)) :
    after.interrupts = pool.interrupts ∧
      (⟨pool, now, move, after, reply⟩ : Event ι σ).heeds = false ∧
        (⟨pool, now, move, after, reply⟩ : Event ι σ).raises = false := by
  cases step with
  | reset doing =>
      refine ⟨rfl, ?_, rfl⟩
      simp [Event.heeds, Activity.interrupted, Activity.shutdown?]
  | waitBeside idle =>
      cases own
      rw [idle] at shuts
      cases shuts
  | _ => cases replies

section Beginnings

variable (begins : first.move = .begin thread .wait)
include begins

omit [Inhabited σ] in
/-- A wait takes the run over that goes on. -/
theorem lifecycle_of_taken {run : RunId} (taken : first.taken? = some run) :
    first.before.lifecycle = .running run := by
  simp only [Event.taken?, begins] at taken
  cases life : first.before.lifecycle <;> simp_all [Lifecycle.run?]

omit [Inhabited σ] in
theorem silent_of_wait : first.heeds = false ∧ first.raises = false := by
  simp [Event.heeds, Event.raises, begins]

omit [Inhabited σ] in
/-- A wait beside another shutdown takes no run over, and it has nothing to do with interrupts. -/
theorem heeding_of_beside {earlier : List (Event ι σ)} (busy : first.before.lifecycle = .shuttingDown)
    (uninterrupted : report.interrupted = false) : Heeding thread earlier first [] report pool := by
  have untaken (run : RunId) : first.taken? ≠ some run := by
    intro taken
    cases busy.symm.trans (lifecycle_of_taken begins taken)
  refine ⟨?_, fun _ => uninterrupted, ?_, ?_, ?_⟩
  · simp [heeded_single, (silent_of_wait begins).1, uninterrupted]
  · exact fun run taken => absurd taken (untaken run)
  · exact fun older start running run _ _ taken => absurd taken (untaken run)
  · exact fun older start running run _ _ taken => absurd taken (untaken run)

end Beginnings

/-- A wait deals with interrupts as it should. -/
theorem heeding_of_history {earlier : List (Event ι σ)}
    (history : History (earlier ++ first :: rest) pool) (awaits : Awaits thread first rest report) :
    Heeding thread earlier first rest report pool := by
  rcases history with ⟨capacity, path⟩
  rcases path.split with ⟨middle, before, onward⟩
  rcases onward.first with ⟨rfl, begins, once, waiting⟩
  have past : History earlier first.before := ⟨capacity, before⟩
  have called := past.append once
  rw [awaits.begins] at begins
  have takes {run : RunId} (taken : first.taken? = some run) := lifecycle_of_taken awaits.begins taken
  have silent := silent_of_wait awaits.begins
  rcases awaits.cases with ⟨rfl, replies⟩ | ⟨during, last, rfl, quiet, stays, own, replies⟩
  · rcases begins.beside replies with ⟨busy, uninterrupted⟩
    exact heeding_of_beside awaits.begins busy uninterrupted
  · rcases begins.enters_free quiet with ⟨free, shuts, unknown, same, runless, ahead⟩
    rcases waiting.split with ⟨ready, during, ending⟩
    rcases ending.first with ⟨rfl, returns, _, done⟩
    obtain rfl := done.eq_of_nil
    have held := (detached_of_path called during shuts stays).1
    have resets := (returns.reports held own replies).1
    have closing := returns.leaves_interrupts held own replies
    have knows : (last.before.activity thread).interrupted = report.interrupted := by
      rw [resets]
      rfl
    have calm : (last.before.activity thread).unwinds = false := by
      rw [resets]
      rfl
    have ledger := ledger_of_path called during shuts stays calm
    rw [knows, unknown, same, Bool.toNat_false, Nat.zero_add, Nat.add_zero] at ledger
    refine ⟨?_, ?_, ?_, ?_, ?_⟩
    · rw [← List.singleton_append, heeded_append, heeded_append, heeded_single, heeded_single,
        silent.1, closing.2.1, ledger.1]
      simp
    · intro none
      have deaf := unheeded_of_path called during shuts (runless (by
        simpa [Event.taken?, awaits.begins] using none)) stays
      rw [deaf.2, Bool.toNat_eq_zero] at ledger
      exact ledger.1
    · intro run taken
      exact started_of_history past (takes taken)
    · rintro older start running run rfl launches taken
      have since := raised_of_launched past launches (takes taken)
      rw [← List.singleton_append, raised_append, raised_append, raised_append, raised_single,
        raised_single, silent.2, closing.2.2, closing.1]
      simp only [Bool.toNat_false]
      omega
    · rintro older start running run rfl launches taken waits
      have since := raised_of_launched past launches (takes taken)
      have manned := manned_of_history past (takes taken)
      have alarmed : first.after.Alarmed thread :=
        Or.inr ⟨by omega, ahead run (takes taken) manned⟩
      rcases alarmed_of_path called during shuts stays calm alarmed with interrupted | ⟨_, overlooks⟩
      · rwa [knows] at interrupted
      · rw [resets] at overlooks
        cases overlooks

end Waiting

/-- **Interrupts are neither lost nor carried over**, in whatever order they are raised, runs are started
and shut down, and workers go on. -/
theorem interruption_of_history (history : History events pool) : Interruption events pool where
  balance := history.each fun past performed =>
    ((perform_transition performed).interrupts (unaware_of_history past)).2
  forgotten := history.each fun past performed =>
    ((perform_transition performed).interrupts (unaware_of_history past)).1
  heeding := by
    rintro earlier first rest thread report rfl awaits
    exact heeding_of_history history awaits

/-- An interrupt comes before the first run, and two come during it. Its only worker is busy and the
queue is full, so that the exit signal does not get into it before the shutdown learns of the first of
the two. -/
def hurried : List (Instant × Move Nat Unit) :=
  [.begin 1 .interrupt, .begin 0 (.start { PoolConfig.blocking 1 with gracePeriod := ⟨0⟩ }),
    .answer 0 () .done, .begin 0 (.add 1), .work 0, .work 0, .begin 0 (.add 2), .begin 1 .interrupt,
    .begin 2 .interrupt, .begin 0 (.start (.blocking 0)), .begin 0 .wait, .proceed 0].map (0, ·)
  ++ List.replicate 9 (50000000, .proceed 0)

/-- The second of the two is forgotten by the next run, whose worker finds the queue empty. -/
def unhurried : List (Instant × Move Nat Unit) :=
  [.begin 0 (.start (.draining 1)), .answer 1 () .done, .work 1, .work 1, .answer 1 () .done, .work 1,
    .work 1, .work 1, .begin 0 .wait].map (50000000, ·)
  ++ List.replicate 10 (50000000, .proceed 0)

theorem interruption_of_hurried :
    let events := (new (some 1)).trace (hurried ++ unhurried)
    let pool := (new (some 1)).follow (hurried ++ unhurried)
    let reports := events.filterMap fun event =>
      match event.reply with
      | some (.report report) => some report.interrupted
      | _ => none
    raised events = 3 ∧ heeded 0 events = 1 ∧ reports = [true, false] ∧ pool.interrupts = 0 ∧
      Interruption events pool := by
  intro events pool reports
  refine ⟨by decide, by decide, by decide, by decide, ?_⟩
  exact interruption_of_history (history_follow (some 1) (hurried ++ unhurried))

end Coordination.PoolSystem
