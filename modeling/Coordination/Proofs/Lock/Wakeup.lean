import Coordination.Proofs.Lock.Queues

/-!
# No wake-up is lost

A book is open to a request if somebody without holds would be granted it. A lock is alert if it
is open to no request of a parked thread that has not been notified (`Alert`). A request that is
granted, or queues, never opens a book. What can open one is a release, a suspension, and a writer
that gives up, and each of them notifies whom it may concern; the length of the queue tells
whether there are any writers to notify, which is why the lock has to be sound.
-/

namespace Coordination

namespace Book

variable {book : Book} {thread : ThreadId} {request asked : Request}

/-- Somebody without holds would be granted a request. -/
def Open (book : Book) (request : Request) : Prop :=
  book.writer = none ∧
    if request.writes then ∀ thread, book.sharedHolds thread = 0 else book.waitingWriters = 0

theorem admits_of_open (sound : book.Sound) (isOpen : book.Open request) :
    book.admits thread request = true := by
  rcases isOpen with ⟨vacant, free⟩
  cases writes : request.writes with
  | true =>
      simp only [writes, if_true] at free
      have unread : book.readers.isEmpty = true := (Holds.isEmpty_iff sound.proper).mpr free
      simp [admits, writes, canWrite, vacant, unread]
  | false =>
      simp only [writes, Bool.false_eq_true, if_false] at free
      simp [admits, writes, canRead, vacant, free]

theorem open_of_admits (sound : book.Sound) (holdless : book.Holdless thread)
    (admitted : book.admits thread request = true) : book.Open request := by
  cases writes : request.writes with
  | true =>
      have free : book.canWrite = true := by simpa [admits, writes] using admitted
      refine ⟨writer_eq_none_of_admits admitted writes, ?_⟩
      simpa [writes] using fun other => ((canWrite_iff sound).mp free other).1
  | false =>
      have readable : book.canRead thread = true := by simpa [admits, writes] using admitted
      have unlisted := lists_eq_false_of_holdless sound holdless
      cases writer : book.writer with
      | some owner =>
          simp only [canRead, writer, decide_eq_true_eq] at readable
          exact absurd (readable ▸ writer) (writer_ne_of_holdless sound holdless)
      | none =>
          simp only [canRead, writer, unlisted, Bool.or_false, decide_eq_true_eq] at readable
          exact ⟨writer, by simpa [writes] using readable⟩

theorem open_of_open_grant (isOpen : (book.grant thread request).Open asked) : book.Open asked := by
  cases request with
  | shared =>
      rcases isOpen with ⟨vacant, free⟩
      refine ⟨vacant, ?_⟩
      cases writes : asked.writes with
      | true =>
          simp only [writes, if_true] at free
          have := free thread
          simp [sharedHolds_grant, Request.shares] at this
      | false =>
          simp only [writes, Bool.false_eq_true, if_false] at free ⊢
          exact free
  | exclusive => exact absurd isOpen.1 (by simp [grant])
  | resume holds => exact absurd isOpen.1 (by simp [grant])

theorem open_of_open_enqueue (isOpen : book.enqueue.Open asked) : book.Open asked := by
  rcases isOpen with ⟨vacant, free⟩
  refine ⟨vacant, ?_⟩
  cases writes : asked.writes with
  | true =>
      simp only [writes, if_true] at free ⊢
      exact free
  | false => simp [writes, enqueue] at free

/-- A writer that leaves the queue lets in readers at most, and only if it was the last. -/
theorem open_of_open_dequeue (isOpen : book.dequeue.Open asked)
    (kept : asked.writes = true ∨ book.dequeue.waitingWriters ≠ 0) : book.Open asked := by
  rcases isOpen with ⟨vacant, free⟩
  refine ⟨vacant, ?_⟩
  cases writes : asked.writes with
  | true =>
      simp only [writes, if_true] at free ⊢
      exact free
  | false =>
      simp only [writes, Bool.false_eq_true, if_false, false_or] at free kept
      exact absurd free kept

/-- A reader that goes away lets in writers at most, and only if it was the last. -/
theorem open_of_open_dropShared (sound : book.Sound) (isOpen : (book.dropShared thread).Open asked)
    (kept : asked.writes = false ∨ (book.dropShared thread).readers.isEmpty = false) :
    book.Open asked := by
  rcases isOpen with ⟨vacant, free⟩
  refine ⟨vacant, ?_⟩
  cases writes : asked.writes with
  | false =>
      simp only [writes, Bool.false_eq_true, if_false] at free ⊢
      exact free
  | true =>
      simp only [writes, if_true, Bool.true_eq_false, false_or] at free kept
      have empty := (Holds.isEmpty_iff (sound_dropShared sound).proper).mpr free
      simp [empty] at kept

end Book

namespace Lock

/-- Nobody who is parked and has not been notified could go on. -/
def Alert (lock : Lock) : Prop :=
  ∀ waiter ∈ lock.waiters, waiter.notified = false → ¬lock.book.Open waiter.request

variable {lock : Lock} {thread : ThreadId} {request : Request} {deadline : Option Instant}

theorem alert_unpark (alert : lock.Alert) : (lock.unpark thread).Alert := by
  intro waiter mem
  exact alert waiter (List.mem_of_mem_filter mem)

/-- A change of the book that opens it to nobody needs no notice. -/
theorem alert_of_open_imp {book : Book} (alert : lock.Alert)
    (closed : ∀ asked, book.Open asked → lock.book.Open asked) :
    Alert { lock with book := book } :=
  fun waiter mem unnotified isOpen => alert waiter mem unnotified (closed _ isOpen)

theorem alert_attempt (sound : lock.book.Sound) (alert : lock.Alert) :
    (lock.attempt thread request deadline).1.Alert := by
  cases admitted : lock.book.admits thread request with
  | true =>
      simpa [attempt, admitted] using alert_of_open_imp alert fun _ => Book.open_of_open_grant
  | false =>
      simp only [attempt, admitted, Bool.false_eq_true, if_false]
      intro waiter mem unnotified isOpen
      rcases List.mem_append.mp mem with old | new
      · exact alert waiter old unnotified isOpen
      · rw [List.mem_singleton.mp new] at isOpen
        simp [Book.admits_of_open sound isOpen] at admitted

theorem alert_ask (sound : lock.Sound) (alert : lock.Alert) :
    (lock.ask thread request deadline).1.Alert := by
  have entered : Alert { lock with book := lock.book.enqueue } :=
    alert_of_open_imp alert fun _ => Book.open_of_open_enqueue
  have queued : ({ lock with book := lock.book.enqueue }.attempt thread request deadline).1.Alert :=
    alert_attempt (Book.sound_queue sound.book _) entered
  cases request with
  | shared => exact alert_attempt sound.book alert
  | resume holds => exact queued
  | exclusive =>
      by_cases writer : lock.book.writer = some thread
      · have again : Alert { lock with book := lock.book.reenter } :=
          alert_of_open_imp alert fun _ isOpen => isOpen
        simpa [ask, writer] using again
      · by_cases reads : 0 < lock.book.sharedHolds thread
        · simpa [ask, writer, reads] using alert
        · simpa [ask, writer, reads] using queued

theorem alert_wake (sound : lock.Sound) (alert : lock.Alert) (waiter : Waiter) :
    (lock.wake waiter).1.Alert :=
  alert_attempt sound.book (alert_unpark alert)

/-- Whom a notice reaches does not matter to the lock; the others have to be kept out already. -/
theorem alert_notify {writers : Bool}
    (others : ∀ waiter ∈ lock.waiters, waiter.notified = false →
      waiter.request.writes ≠ writers → ¬lock.book.Open waiter.request) :
    (lock.notify writers).Alert := by
  intro waiter mem unnotified
  simp only [notify, List.mem_map] at mem
  rcases mem with ⟨old, oldMem, rfl⟩
  by_cases hit : old.request.writes = writers
  · simp [hit] at unnotified
  · simp only [hit, if_false] at unnotified ⊢
    exact others old oldMem unnotified hit

theorem writes_eq_false_of_queue_empty
    (counted : lock.book.waitingWriters = lock.seats.countP (·.request.writes))
    (empty : lock.book.waitingWriters = 0) {waiter : Waiter} (mem : waiter ∈ lock.waiters) :
    waiter.request.writes = false := by
  have nobody : lock.seats.countP (·.request.writes) = 0 := by rw [← counted, empty]
  have := List.countP_eq_zero.mp nobody waiter.seat (seat_mem_seats mem)
  simpa [Waiter.seat] using this

theorem alert_notifyAll
    (counted : lock.book.waitingWriters = lock.seats.countP (·.request.writes)) :
    lock.notifyAll.Alert := by
  by_cases queued : 0 < lock.book.waitingWriters
  · simp only [notifyAll, book_notify, queued, if_true]
    apply alert_notify
    intro waiter mem unnotified reads
    simp only [notify, List.mem_map] at mem
    rcases mem with ⟨old, _, rfl⟩
    cases writes : old.request.writes <;> simp [writes] at unnotified reads
  · simp only [notifyAll, book_notify, queued, if_false]
    apply alert_notify
    intro waiter mem _ writes
    exact absurd (writes_eq_false_of_queue_empty counted (by omega) mem) writes

theorem alert_expire (alert : lock.Alert) (waiter : Waiter) : (lock.expire waiter).1.Alert := by
  have left : (lock.unpark waiter.thread).Alert := alert_unpark alert
  cases admitted : (lock.unpark waiter.thread).book.admits waiter.thread waiter.request with
  | true =>
      simpa [expire, admitted] using alert_of_open_imp left fun _ => Book.open_of_open_grant
  | false =>
      cases writes : waiter.request.writes with
      | false => simpa [expire, admitted, writes] using left
      | true =>
          simp only [expire, admitted, writes, Bool.false_eq_true, if_false, if_true]
          split
          · apply alert_notify
            intro other mem unnotified otherWrites isOpen
            have kept : other.request.writes = true := by simpa using otherWrites
            exact left other mem unnotified (Book.open_of_open_dequeue isOpen (Or.inl kept))
          · rename_i more
            exact alert_of_open_imp left fun _ isOpen =>
              Book.open_of_open_dequeue isOpen (Or.inr more)

theorem alert_releaseShared (sound : lock.Sound) (alert : lock.Alert) :
    (lock.releaseShared thread).Alert := by
  by_cases listed : lock.book.readers.lists thread = true
  · simp only [releaseShared, listed, if_true]
    split
    · apply alert_notify
      intro waiter mem unnotified reads isOpen
      have kept : waiter.request.writes = false := by simpa using reads
      exact alert waiter mem unnotified
        (Book.open_of_open_dropShared sound.book isOpen (Or.inl kept))
    · -- Without a notice either somebody still reads or nobody who is parked wants to write.
      rename_i silent
      intro waiter mem unnotified isOpen
      refine alert waiter mem unnotified (Book.open_of_open_dropShared sound.book isOpen ?_)
      cases empty : (lock.book.dropShared thread).readers.isEmpty with
      | false => exact Or.inr rfl
      | true =>
          have none : lock.book.waitingWriters = 0 := by
            by_contra some
            exact silent ⟨empty, Nat.pos_of_ne_zero some⟩
          exact Or.inl (writes_eq_false_of_queue_empty sound.queued none mem)
  · simpa [releaseShared, listed] using alert

theorem alert_releaseExclusive (sound : lock.Sound) (alert : lock.Alert) :
    (lock.releaseExclusive thread).Alert := by
  by_cases writer : lock.book.writer = some thread
  · simp only [releaseExclusive, writer, if_true]
    by_cases last : lock.book.writeHolds ≤ 1
    · simp only [Book.dropExclusive, last, if_true, Option.isNone_none]
      exact alert_notifyAll sound.queued
    · simp only [Book.dropExclusive, last, if_false, writer, Option.isNone_some,
        Bool.false_eq_true]
      exact alert_of_open_imp alert fun _ isOpen => absurd isOpen.1 (by simp)
  · simpa [releaseExclusive, writer] using alert

theorem alert_suspend {next : Lock} {holds : Nat} (sound : lock.Sound)
    (suspended : lock.suspend thread = .ok (next, holds)) : next.Alert := by
  rcases suspend_eq_ok_iff.mp suspended with ⟨_, _, rfl, _⟩
  exact alert_notifyAll sound.queued

end Lock

namespace LockSystem

variable {system : LockSystem} {thread : ThreadId}

theorem Attempt.alert {pursuit : Pursuit} {result : Lock × Lock.Outcome} (queues : system.Queues)
    (alert : (system.locks.get pursuit.lock).Alert)
    (attempt : Attempt system thread pursuit result) : result.1.Alert := by
  have sound := queues.sound pursuit.lock
  cases attempt with
  | ask asking => exact Lock.alert_ask sound alert
  | wake parked found => exact Lock.alert_wake sound alert _
  | expire parked found timed => exact Lock.alert_expire alert _

theorem Transition.alert {change : Change} (queues : system.Queues)
    (alert : ∀ id, (system.locks.get id).Alert) (transition : Transition system thread change)
    {place : LockId} {lock : Lock} (changed : change.lock = some (place, lock)) : lock.Alert := by
  cases transition with
  | turn after reply before plain => cases changed
  | stay waiting => cases changed
  | discard idle found inactive free => cases changed
  | leave signalled since waiting => cases changed
  | releaseShared drop idle found free =>
      cases changed
      exact Lock.alert_releaseShared (queues.sound place) (alert place)
  | upgrade since idle found free =>
      cases changed
      exact Lock.alert_releaseShared (queues.sound place) (alert place)
  | releaseExclusive drop idle found free =>
      cases changed
      exact Lock.alert_releaseExclusive (queues.sound place) (alert place)
  | releaseChild drop since idle found free =>
      cases changed
      exact Lock.alert_releaseExclusive (queues.sound place) (alert place)
  | wait name idle found suspended =>
      cases changed
      exact Lock.alert_suspend (queues.sound place) suspended
  | park attempt | timeOut attempt | refuse attempt | refuseUpgrade _ attempt | acquire attempt
  | makeChild attempt | recover attempt | restore attempt | resume attempt =>
      cases changed
      exact attempt.alert queues (alert _)

theorem alert_of_reachable (reachable : system.Reachable) (id : LockId) :
    (system.locks.get id).Alert := by
  let Kept (system : LockSystem) : Prop := system.Queues ∧ ∀ id, (system.locks.get id).Alert
  have both : Kept system := by
    refine reachable.induction (fun fresh => ?_) fun holds performed => ?_
    · exact ⟨Queues.of_fresh fresh, fun id => by simp [Lock.Alert, fresh.waiters]⟩
    · rcases holds with ⟨queues, alert⟩
      rcases perform_transition performed with ⟨change, transition, stores⟩
      refine ⟨queues.step transition stores, fun id => ?_⟩
      rcases changed : change.lock with _ | ⟨place, lock⟩
      · rw [stores.unchanged changed]
        exact alert id
      · rw [stores.changed place lock changed]
        split
        · exact transition.alert queues alert changed
        · exact alert id
  exact both.2 id

/-- Whatever the schedule, a thread that is parked at a lock and has not been notified since could
not go on: if it wants to read then it may not read, and if it wants to write then nobody may. -/
theorem no_lost_wakeup (reachable : system.Reachable) {thread : ThreadId} {pursuit : Pursuit}
    (parked : system.activity thread = .parked pursuit)
    (unnotified : system.isNotified thread = false) :
    (pursuit.request.writes = false →
      (system.locks.get pursuit.lock).book.canRead thread = false) ∧
    (pursuit.request.writes = true → (system.locks.get pursuit.lock).book.canWrite = false) := by
  have queues := queues_of_reachable reachable
  have sound := queues.sound pursuit.lock
  rcases queues.waiter_of_parked parked with ⟨waiter, mem, found, placed⟩
  have request : waiter.request = pursuit.request := congrArg Waiter.request placed
  have silent : waiter.notified = false := by
    have doing : (system.threads.get thread).activity = .parked pursuit := parked
    simpa [isNotified, doing, found] using unnotified
  have closed : ¬(system.locks.get pursuit.lock).book.Open pursuit.request := by
    rw [← request]
    exact alert_of_reachable reachable pursuit.lock waiter mem silent
  have holdless := queues.holdless_of_parked parked
  have kept : (system.locks.get pursuit.lock).book.admits thread pursuit.request = false := by
    by_contra admitted
    exact closed (Book.open_of_admits sound.book holdless (by simpa using admitted))
  constructor
  · intro reads
    simpa [Book.admits, reads] using kept
  · intro writes
    simpa [Book.admits, writes] using kept

theorem no_lost_wakeup_of_contended :
    contended.activity 1 = .parked ⟨.acquire, 0, .shared, none, 2⟩ ∧
      contended.isNotified 1 = false ∧ (contended.locks.get 0).book.canRead 1 = false := by
  have reachable := reachable_contended
  have parked : contended.activity 1 = .parked ⟨.acquire, 0, .shared, none, 2⟩ := by decide
  have unnotified : contended.isNotified 1 = false := by decide
  exact ⟨parked, unnotified, (no_lost_wakeup reachable parked unnotified).1 rfl⟩

end LockSystem

end Coordination
