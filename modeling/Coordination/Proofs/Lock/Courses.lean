import Coordination.Proofs.Lock.Accounting
import Coordination.Proofs.Lock.Moments

/-!
# The course of an operation

Only the steps of a thread itself change what it has and what it is in the middle of. So what is true of
a thread after the first step of an operation and kept by its own steps, until one of them replies, is
true of it all the time, whatever the other threads do meanwhile (`Course.pends`).

Most of the time a thread is after a hold. If it has no deadline then each of its steps finds it parked
again, or it has its hold and the reply, or, when it asks, the exclusive lock is refused to it
(`patient_cases`).
-/

namespace Coordination

namespace Lock

variable {lock : Lock} {thread : ThreadId} {request : Request}

theorem grants_attempt (lock : Lock) (thread : ThreadId) (request : Request) (deadline : Option Instant) :
    (lock.attempt thread request deadline).2.grants = lock.book.admits thread request := by
  cases admitted : lock.book.admits thread request <;> simp [attempt, admitted, Outcome.grants]

/-- Whether the thread joins the queue before it looks makes no difference to a writer. -/
theorem grants_ask_queued (writes : request.writes = true) (deadline : Option Instant) :
    ({ lock with book := lock.book.enqueue }.attempt thread request deadline).2.grants
      = lock.book.admits thread request := by
  rw [grants_attempt]
  simp [Book.admits, writes, Book.enqueue, Book.canWrite]

theorem grants_ask (sound : lock.Sound) (unowned : request = .exclusive → lock.book.writer ≠ some thread)
    (deadline : Option Instant) :
    (lock.ask thread request deadline).2.grants = lock.book.admits thread request := by
  cases request with
  | shared => exact grants_attempt lock thread .shared deadline
  | resume holds => exact grants_ask_queued rfl deadline
  | exclusive =>
      have unowned := unowned rfl
      by_cases reads : 0 < lock.book.sharedHolds thread
      · have occupied : lock.book.admits thread .exclusive = false := by
          by_contra admitted
          have free : lock.book.canWrite = true := by
            simpa [Book.admits, Request.writes] using admitted
          have holdless := (Book.canWrite_iff sound.book).mp free thread
          exact absurd holdless.1 (Nat.ne_of_gt reads)
        simp [ask, unowned, reads, occupied, Outcome.grants]
      · simpa [ask, unowned, reads] using grants_ask_queued rfl deadline

theorem grants_expire (lock : Lock) (waiter : Waiter) :
    (lock.expire waiter).2.grants = lock.book.admits waiter.thread waiter.request := by
  cases admitted : lock.book.admits waiter.thread waiter.request <;>
    cases writes : waiter.request.writes <;> simp [expire, unpark, admitted, writes, Outcome.grants]

end Lock

namespace LockSystem

/-- Two states in which the locks, the conditions and the threads are the same. -/
structure Alike (before after : LockSystem) : Prop where
  locks : ∀ id, after.locks.get id = before.locks.get id
  conditions : ∀ name, after.conditions.get name = before.conditions.get name
  threads : ∀ thread, after.threads.get thread = before.threads.get thread

/-- A moment is a step from a reachable state. -/
structure Moment.Happens (moment : Moment) : Prop where
  reachable : moment.before.Reachable
  performed : ∃ stepped, moment.before.perform moment.now moment.move = some stepped ∧
    moment.after = stepped.state ∧ moment.reply = stepped.reply

/-- An operation in a list of moments that has begun and not replied yet. -/
structure Pends (moments : List Moment) (thread : ThreadId) (operation : Operation) (first : Moment)
    (during : List Moment) : Prop where
  cut : ∃ earlier later, moments = earlier ++ first :: during ++ later
  begins : first.move = .begin thread operation
  pending : ∀ moment ∈ during, moment.move.thread = thread → moment.reply = none

/-- What a thread is in the middle of: each step of its own keeps it or replies. -/
structure Course (thread : ThreadId) (amid : Thread → Prop) (done : Reply → Thread → Prop) : Prop where
  own : ∀ {system : LockSystem} {now : Instant} {move : Move} {stepped : Stepped}, system.Reachable →
    amid (system.threads.get thread) → system.perform now move = some stepped → move.thread = thread →
      stepped.reply = none ∧ amid (stepped.state.threads.get thread) ∨
        ∃ reply, stepped.reply = some reply ∧ done reply (stepped.state.threads.get thread)

variable {system final : LockSystem} {moments during later : List Moment} {thread : ThreadId}
  {now : Instant} {move : Move} {stepped : Stepped} {pursuit : Pursuit} {result : Lock × Lock.Outcome}

theorem Stretch.happens (stretch : Stretch system moments final) (reachable : system.Reachable) :
    ∀ moment ∈ moments, moment.Happens :=
  stretch.each reachable fun reachable performed => ⟨reachable, _, performed, rfl, rfl⟩

theorem Moment.Happens.after {moment : Moment} (happens : moment.Happens) : moment.after.Reachable := by
  rcases happens.performed with ⟨stepped, performed, after, _⟩
  rw [after]
  exact happens.reachable.step performed

/-- The holds of a thread that has not given any up for a wait are those that its handles stand for. -/
theorem holds_of_unowed (reachable : system.Reachable) {id : LockId}
    (unowed : (system.activity thread).owed id = 0) :
    (system.locks.get id).book.sharedHolds thread = (system.handles thread).sharedHolds id ∧
      (system.locks.get id).book.exclusiveHolds thread = (system.handles thread).exclusiveHolds id := by
  have books := (accounts_of_reachable reachable thread).books
  rw [Handles.sharedHolds_eq_tally, Handles.exclusiveHolds_eq_tally]
  exact ⟨books.shared id, (Nat.add_eq_left.mpr unowed).symm.trans (books.exclusive id)⟩

/-- The holds of an idle thread depend on its handles only. -/
theorem holds_of_handles (reachable : system.Reachable) (reachable' : final.Reachable)
    (idle : system.activity thread = .idle) (idle' : final.activity thread = .idle)
    (same : final.handles thread = system.handles thread) (id : LockId) :
    (final.locks.get id).book.sharedHolds thread = (system.locks.get id).book.sharedHolds thread ∧
      (final.locks.get id).book.exclusiveHolds thread
        = (system.locks.get id).book.exclusiveHolds thread := by
  have before := (accounts_of_reachable reachable).holds_of_idle idle id
  have after := (accounts_of_reachable reachable').holds_of_idle idle' id
  rw [same] at after
  exact ⟨after.1.trans before.1.symm, after.2.trans before.2.symm⟩

theorem Spans.mem {operation : Operation} {first last : Moment} {reply : Reply}
    (spans : Spans moments thread operation first during last reply) :
    first ∈ moments ∧ (∀ moment ∈ during, moment ∈ moments) ∧ last ∈ moments := by
  rcases spans.cut with ⟨earlier, later, rfl⟩
  simp +contextual

theorem Spans.pends {operation : Operation} {first last : Moment} {reply : Reply}
    (spans : Spans moments thread operation first during last reply) :
    Pends moments thread operation first during := by
  rcases spans with ⟨⟨earlier, later, cut⟩, begins, pending, _⟩
  exact ⟨⟨earlier, last :: later, cut⟩, begins, pending⟩

theorem Pends.mem {operation : Operation} {first : Moment}
    (pends : Pends moments thread operation first during) :
    first ∈ moments ∧ ∀ moment ∈ during, moment ∈ moments := by
  rcases pends.cut with ⟨earlier, later, rfl⟩
  simp +contextual

/-- The first step of an operation. -/
theorem Pends.begun {operation : Operation} {first : Moment}
    (pends : Pends moments thread operation first during) (reachable : system.Reachable)
    (stretch : Stretch system moments final) :
    first.Happens ∧ ∃ stepped, first.before.perform first.now (.begin thread operation) = some stepped ∧
      first.after = stepped.state := by
  have happens := stretch.happens reachable first pends.mem.1
  rcases happens.performed with ⟨stepped, performed, after, _⟩
  rw [pends.begins] at performed
  exact ⟨happens, stepped, performed, after⟩

/-- The stretch of an operation after its first step. -/
theorem Pends.stretch {operation : Operation} {first : Moment}
    (pends : Pends moments thread operation first during) (reachable : system.Reachable)
    (stretch : Stretch system moments final) :
    first.after.Reachable ∧ ∃ ending, Stretch first.after during ending ∧ ending.Reachable := by
  rcases pends.cut with ⟨earlier, later, rfl⟩
  rw [List.append_assoc] at stretch
  rcases stretch.cut with ⟨middle, before, following⟩
  cases following with
  | step performed rest =>
      rcases rest.cut with ⟨ending, through, _⟩
      have reached := (before.reachable reachable).step performed
      exact ⟨reached, ending, through, through.reachable reached⟩

/-- What falls with the steps of a thread bounds the number of these steps. -/
theorem Stretch.countP_le (stretch : Stretch system moments final) (size : Thread → Nat)
    (falls : ∀ moment ∈ moments, moment.move.thread = thread →
      size (moment.after.threads.get thread) < size (moment.before.threads.get thread)) :
    moments.countP (·.move.thread = thread) + size (final.threads.get thread)
      ≤ size (system.threads.get thread) := by
  induction stretch with
  | rest system => simp
  | @step system final now move stepped moments performed later ih =>
      have rest := ih fun moment mem => falls moment (List.mem_cons_of_mem _ mem)
      rw [List.countP_cons]
      by_cases own : move.thread = thread
      · have fewer := falls _ List.mem_cons_self own
        simp only [own, decide_true, if_true] at fewer ⊢
        omega
      · rw [thread_of_others performed own] at rest
        simpa [own] using rest

section Courses

variable {amid : Thread → Prop} {done : Reply → Thread → Prop} {last : Moment} {reply : Reply}

theorem Course.kept (course : Course thread amid done) (reachable : system.Reachable)
    (starts : amid (system.threads.get thread)) (stretch : Stretch system during final)
    (pending : ∀ moment ∈ during, moment.move.thread = thread → moment.reply = none) :
    (∀ moment ∈ during,
        amid (moment.before.threads.get thread) ∧ amid (moment.after.threads.get thread)) ∧
      amid (final.threads.get thread) := by
  induction stretch with
  | rest system => exact ⟨fun moment mem => absurd mem List.not_mem_nil, starts⟩
  | @step system final now move stepped during performed following ih =>
      have still : amid (stepped.state.threads.get thread) := by
        by_cases mine : move.thread = thread
        · rcases course.own reachable starts performed mine with ⟨_, still⟩ | ⟨other, some, _⟩
          · exact still
          · cases some.symm.trans (pending _ List.mem_cons_self mine)
        · rw [thread_of_others performed mine]
          exact starts
      rcases ih (reachable.step performed) still
        fun other mem => pending other (List.mem_cons_of_mem _ mem) with ⟨kept, ends⟩
      refine ⟨?_, ends⟩
      intro other mem
      rcases List.mem_cons.mp mem with rfl | listed
      · exact ⟨starts, still⟩
      · exact kept other listed

/-- What is true after the first step of an operation is true until it replies. -/
theorem Course.pends {operation : Operation} {first : Moment} (course : Course thread amid done)
    (reachable : system.Reachable) (stretch : Stretch system moments final)
    (pends : Pends moments thread operation first during)
    (starts : amid (first.after.threads.get thread)) :
    ∀ moment ∈ during,
      amid (moment.before.threads.get thread) ∧ amid (moment.after.threads.get thread) := by
  rcases pends.stretch reachable stretch with ⟨reached, ending, whole, _⟩
  exact (course.kept reached starts whole pends.pending).1

/-- The last step of an operation is one that replies. -/
theorem Course.spans {operation : Operation} {first : Moment} (course : Course thread amid done)
    (reachable : system.Reachable) (stretch : Stretch system moments final)
    (spans : Spans moments thread operation first during last reply)
    (starts : amid (first.after.threads.get thread)) :
    amid (last.before.threads.get thread) ∧ done reply (last.after.threads.get thread) := by
  rcases spans with ⟨⟨earlier, later, rfl⟩, _, pending, own, replies⟩
  rcases stretch.after_moment reachable with ⟨started, stepped, performed, after, _, following⟩
  rcases following.cut with ⟨middle, through, ending⟩
  rw [after] at starts
  have reached := started.step performed
  cases ending with
  | step performed rest =>
      have still := (course.kept reached starts through pending).2
      rcases course.own (through.reachable reached) still performed own with
        ⟨none, _⟩ | ⟨other, some, ends⟩
      · cases none.symm.trans replies
      · cases some.symm.trans replies
        exact ⟨still, ends⟩

end Courses

section Beginning

/-- Nobody borrows an exclusive handle. -/
theorem free_of_exclusive (reachable : system.Reachable) {id : HandleId} {place : LockId} {held : Bool}
    {parent : Option HandleId}
    (found : (system.handles thread).get? id = some (.exclusive place held parent)) :
    (system.handles thread).isBorrowed id = false := by
  have coherent := (accounts_of_reachable reachable thread).coherent
  exact Handles.free_of_childless coherent.keyed (coherent.childless found (by simp))

/-- An idle thread that replies to an operation at once leaves everything as it was. -/
theorem alike_finish (idle : system.activity thread = .idle) (reply : Reply) (log : List Log.Entry) :
    system.Alike (system.finish thread reply log).state := by
  refine ⟨fun _ => rfl, fun _ => rfl, fun other => ?_⟩
  simp only [finish, get_threads_turnTo]
  split
  · rename_i same
    rw [← same, ← idle]
    rfl
  · rfl

end Beginning

section Pursuing

theorem get_locks_settle (pursuit : Pursuit) (lock : Lock) (outcome : Lock.Outcome) (id : LockId) :
    (system.settle thread pursuit now (lock, outcome)).state.locks.get id
      = if pursuit.lock = id then lock else system.locks.get id := by
  cases outcome with
  | granted | reentered =>
      cases purpose : pursuit.purpose with
      | restore child parent drop => cases drop <;> simp [settle, succeed, purpose, finish]
      | _ => simp [settle, succeed, purpose, finish]
  | refused error => cases purpose : pursuit.purpose <;> simp [settle, refuse, purpose, finish, carryOn]
  | parked => simp [settle, carryOn]
  | timedOut => simp [settle, finish]

theorem not_begin_of_pursues (performed : system.perform now move = some stepped)
    (pursues : (system.activity thread).Pursues pursuit) (operation : Operation) :
    move ≠ .begin thread operation := by
  rintro rfl
  rw [idle_of_begin performed] at pursues
  rcases pursues with impossible | impossible <;> cases impossible

/-- A request is granted if the book admits it, or if it is one of the writer for a further hold. -/
theorem Attempt.grants (queues : system.Queues) (attempt : Attempt system thread pursuit result)
    (unowned : pursuit.request = .exclusive →
      (system.locks.get pursuit.lock).book.writer ≠ some thread) :
    result.2.grants = (system.locks.get pursuit.lock).book.admits thread pursuit.request := by
  cases attempt with
  | ask asking => exact Lock.grants_ask (queues.sound _) unowned pursuit.deadline
  | wake parked found =>
      rcases Lock.waiter?_eq_some found with ⟨_, rfl⟩
      rw [← (queues.placed parked found).1]
      exact Lock.grants_attempt _ _ _ _
  | expire parked found timed =>
      rcases Lock.waiter?_eq_some found with ⟨_, rfl⟩
      rw [← (queues.placed parked found).1]
      exact Lock.grants_expire _ _

/-- Who is granted the exclusive lock is the writer. -/
theorem Attempt.writer (queues : system.Queues) (attempt : Attempt system thread pursuit result)
    (granted : result.2.grants = true) (writes : pursuit.request.writes = true) :
    result.1.book.writer = some thread := by
  rcases queues.attempt attempt with ⟨sound, settles⟩
  have wanted : 0 < pursuit.request.excludes := by
    cases request : pursuit.request with
    | shared => simp [request, Request.writes] at writes
    | exclusive => exact Nat.one_pos
    | resume holds =>
        refine (queues.owing thread pursuit.lock holds ?_).1
        rcases attempt.activity with asking | parked
        · simp [asking, Activity.owes, request]
        · simp [parked, Activity.owes, request]
  rw [← Book.exclusiveHolds_pos_iff sound.book, settles.exclusiveHolds]
  simp only [granted, and_self, if_true]
  omega

theorem Attempt.reads (queues : system.Queues) (attempt : Attempt system thread pursuit result)
    (granted : result.2.grants = true) (request : pursuit.request = .shared) :
    0 < result.1.book.sharedHolds thread := by
  rw [(queues.attempt attempt).2.sharedHolds]
  simp [granted, request, Request.shares]

/-- A thread gets what the book admits with its next step. -/
theorem grants_of_perform (reachable : system.Reachable)
    (performed : system.perform now move = some stepped)
    (pursues : (system.activity move.thread).Pursues pursuit)
    (unowned : pursuit.request = .exclusive →
      (system.locks.get pursuit.lock).book.writer ≠ some move.thread)
    (admitted : (system.locks.get pursuit.lock).book.admits move.thread pursuit.request = true) :
    ∃ result, Attempt system move.thread pursuit result ∧ result.2.grants = true ∧
      stepped.state.locks.get pursuit.lock = result.1 := by
  rcases settles_of_perform pursues performed rfl (not_begin_of_pursues performed pursues) with
    ⟨⟨lock, outcome⟩, attempt, rfl⟩
  refine ⟨_, attempt, (attempt.grants (queues_of_reachable reachable) unowned).trans admitted, ?_⟩
  rw [get_locks_settle, if_pos rfl]

/-- A thread that is about to ask does so with its next step. -/
theorem Attempt.eq_ask (attempt : Attempt system thread pursuit result)
    (asking : system.activity thread = .asking pursuit) :
    result = (system.locks.get pursuit.lock).ask thread pursuit.request pursuit.deadline := by
  cases attempt with
  | ask => rfl
  | wake parked | expire parked => cases asking.symm.trans parked

/-- A thread that is after a hold without a deadline is parked, or gets what it is after, or is refused
the exclusive lock for the sake of its shared holds. -/
theorem patient_cases (reachable : system.Reachable)
    (performed : system.perform now move = some stepped) (own : move.thread = thread)
    (pursues : (system.activity thread).Pursues pursuit) (patient : pursuit.deadline = none) :
    (stepped.reply = none ∧
        stepped.state.threads.get thread = ⟨system.handles thread, .parked pursuit⟩) ∨
      (stepped.reply = some (pursuit.grants (system.handles thread) system.nextHandle).2 ∧
        stepped.state.threads.get thread
          = ⟨(pursuit.grants (system.handles thread) system.nextHandle).1, .idle⟩) ∨
      pursuit.request = .exclusive ∧ system.activity thread = .asking pursuit ∧
        (system.locks.get pursuit.lock).book.writer ≠ some thread ∧
        0 < (system.locks.get pursuit.lock).book.sharedHolds thread := by
  subst own
  rcases settles_of_perform pursues performed rfl (not_begin_of_pursues performed pursues) with
    ⟨⟨lock, outcome⟩, attempt, rfl⟩
  rcases Section.settled_cases reachable attempt patient with granted | rfl | ⟨error, refused⟩
  · have ends := state_of_grants system move.thread now pursuit lock granted
    exact Or.inr (Or.inl ⟨ends.2, ends.1⟩)
  · exact Or.inl ⟨rfl, by simp [settle, carryOn, handles]⟩
  · have asking := attempt.asks_of_refused refused
    have outcomes := congrArg Prod.snd (attempt.eq_ask asking)
    rcases Lock.ask_eq_refused_iff.mp (outcomes.symm.trans refused) with ⟨request, writer, reads, _⟩
    exact Or.inr (Or.inr ⟨request, asking, writer, reads⟩)

end Pursuing

end LockSystem

end Coordination
