import Coordination.Lock.Basic
import Coordination.Proofs.Lock.Book
import Mathlib.Data.List.Nodup

/-!
# Sound locks

A lock is sound if its book is, no thread is parked twice, the length of the queue is the number
of the parked writers, and nobody who is parked has a hold. A critical section may end with a look
of a thread that has just left its place or has just joined the queue; in between one writer too
many is counted (`Fits`).

Whatever becomes of a request, it tells only on the thread that made it: `Settles` says how many
holds the thread gains, and who is parked afterwards.
-/

namespace Coordination

/-- The place of a parked thread, whether it has been notified since or not. -/
def Waiter.seat (waiter : Waiter) : Waiter := { waiter with notified := false }

namespace Lock

/-- Whether a request has been fulfilled. -/
def Outcome.grants : Outcome → Bool
  | .granted | .reentered => true
  | _ => false

theorem Outcome.ne_parked_of_grants {outcome : Outcome} (granted : outcome.grants = true) :
    outcome ≠ .parked := by
  rintro rfl
  simp [grants] at granted

/-- The places of the parked threads. -/
def seats (lock : Lock) : List Waiter := lock.waiters.map Waiter.seat

@[simp]
theorem book_notify (lock : Lock) (writers : Bool) : (lock.notify writers).book = lock.book := rfl

@[simp]
theorem seats_notify (lock : Lock) (writers : Bool) : (lock.notify writers).seats = lock.seats := by
  simp only [seats, notify, List.map_map]
  apply List.map_congr_left
  intro waiter _
  by_cases hit : waiter.request.writes = writers <;> simp [Waiter.seat, hit]

@[simp]
theorem book_notifyAll (lock : Lock) : lock.notifyAll.book = lock.book := by
  simp only [notifyAll]
  split <;> rfl

@[simp]
theorem seats_notifyAll (lock : Lock) : lock.notifyAll.seats = lock.seats := by
  simp only [notifyAll]
  split <;> simp

theorem seats_unpark (lock : Lock) (thread : ThreadId) :
    (lock.unpark thread).seats = lock.seats.filter (·.thread ≠ thread) := by
  simp only [seats, unpark, List.filter_map]
  rfl

theorem mem_seats_unpark {lock : Lock} {thread : ThreadId} {seat : Waiter} :
    seat ∈ (lock.unpark thread).seats ↔ seat ∈ lock.seats ∧ seat.thread ≠ thread := by
  simp [seats_unpark]

theorem seat_mem_seats {lock : Lock} {waiter : Waiter} (mem : waiter ∈ lock.waiters) :
    waiter.seat ∈ lock.seats :=
  List.mem_map_of_mem mem

theorem waiter?_eq_some {lock : Lock} {thread : ThreadId} {waiter : Waiter}
    (found : lock.waiter? thread = some waiter) :
    waiter ∈ lock.waiters ∧ waiter.thread = thread :=
  ⟨List.mem_of_find?_eq_some found, by simpa using List.find?_some found⟩

/-- The parked threads fit the book, apart from some writers that are counted and not parked. -/
structure Fits (lock : Lock) (moving : Nat) : Prop where
  book : lock.book.Sound
  distinct : (lock.seats.map (·.thread)).Nodup
  queued : lock.book.waitingWriters = lock.seats.countP (·.request.writes) + moving
  holdless : ∀ seat ∈ lock.seats, lock.book.Holdless seat.thread
  owed : ∀ seat ∈ lock.seats, ∀ holds, seat.request = .resume holds → 0 < holds

/-- The parked threads fit the book. -/
abbrev Sound (lock : Lock) : Prop := lock.Fits 0

/-- The number of writers that a request adds to the queue. -/
def queueing (request : Request) : Nat := if request.writes then 1 else 0

/-- A thread is not parked, and may ask for what it asks for. -/
structure Ready (lock : Lock) (thread : ThreadId) (request : Request) : Prop where
  absent : ∀ seat ∈ lock.seats, seat.thread ≠ thread
  holdless : request.writes = true → lock.book.Holdless thread
  owed : ∀ holds, request = .resume holds → 0 < holds

/-- What becomes of a request: the thread gains what is granted, or is parked, and the others keep
their holds and their places. -/
structure Settles (lock : Lock) (thread : ThreadId) (request : Request) (deadline : Option Instant)
    (result : Lock × Outcome) : Prop where
  sharedHolds : ∀ other, result.1.book.sharedHolds other
    = lock.book.sharedHolds other + if thread = other ∧ result.2.grants then request.shares else 0
  exclusiveHolds : ∀ other, result.1.book.exclusiveHolds other
    = lock.book.exclusiveHolds other
      + if thread = other ∧ result.2.grants then request.excludes else 0
  others : ∀ seat : Waiter, seat.thread ≠ thread → (seat ∈ result.1.seats ↔ seat ∈ lock.seats)
  own : ∀ seat : Waiter, seat.thread = thread →
    (seat ∈ result.1.seats ↔ result.2 = .parked ∧ seat = { thread, request, deadline })

theorem sound_new {lock : Lock} (book : lock.book = {}) (waiters : lock.waiters = []) :
    lock.Sound where
  book := by rw [book]; exact Book.sound_empty
  distinct := by simp [seats, waiters]
  queued := by simp [seats, waiters, book]
  holdless := by simp [seats, waiters]
  owed := by simp [seats, waiters]

theorem Fits.seat_unique {lock : Lock} {moving : Nat} (fits : lock.Fits moving)
    {first second : Waiter} (firstMem : first ∈ lock.seats) (secondMem : second ∈ lock.seats)
    (same : first.thread = second.thread) : first = second :=
  List.inj_on_of_nodup_map fits.distinct firstMem secondMem same

section Attempts

variable {lock : Lock} {thread : ThreadId} {request : Request} {deadline : Option Instant}

theorem countP_writes_of_mem {seats : List Waiter} {seat : Waiter}
    (distinct : (seats.map (·.thread)).Nodup) (mem : seat ∈ seats) :
    seats.countP (·.request.writes)
      = (seats.filter (·.thread ≠ seat.thread)).countP (·.request.writes)
        + queueing seat.request := by
  induction seats with
  | nil => simp at mem
  | cons first rest ih =>
      rw [List.map_cons, List.nodup_cons] at distinct
      rcases List.mem_cons.mp mem with rfl | later
      · have apart : ∀ other ∈ rest, other.thread ≠ seat.thread := by
          intro other otherMem same
          exact distinct.1 (List.mem_map.mpr ⟨other, otherMem, same⟩)
        have kept : rest.filter (·.thread ≠ seat.thread) = rest :=
          List.filter_eq_self.mpr fun other otherMem => by simpa using apart other otherMem
        rw [List.filter_cons_of_neg (by simp), kept, List.countP_cons, queueing]
      · have apart : first.thread ≠ seat.thread := by
          intro same
          exact distinct.1 (List.mem_map.mpr ⟨seat, later, same.symm⟩)
        rw [List.filter_cons_of_pos (by simpa using apart), List.countP_cons, List.countP_cons,
          ih distinct.2 later]
        omega

theorem fits_unpark {waiter : Waiter} (sound : lock.Sound) (mem : waiter ∈ lock.waiters) :
    (lock.unpark waiter.thread).Fits (queueing waiter.request) where
  book := sound.book
  distinct := by
    rw [seats_unpark]
    exact sound.distinct.sublist (List.filter_sublist.map _)
  queued := by
    change lock.book.waitingWriters = _
    rw [sound.queued, countP_writes_of_mem sound.distinct (seat_mem_seats mem), seats_unpark]
    rfl
  holdless seat mem := sound.holdless seat (mem_seats_unpark.mp mem).1
  owed seat mem := sound.owed seat (mem_seats_unpark.mp mem).1

theorem ready_unpark {waiter : Waiter} (sound : lock.Sound) (mem : waiter ∈ lock.waiters) :
    (lock.unpark waiter.thread).Ready waiter.thread waiter.request where
  absent _ mem := (mem_seats_unpark.mp mem).2
  holdless _ := sound.holdless waiter.seat (seat_mem_seats mem)
  owed := sound.owed waiter.seat (seat_mem_seats mem)

theorem fits_enqueue (sound : lock.Sound) (writes : request.writes = true) :
    Fits { lock with book := lock.book.enqueue } (queueing request) where
  book := Book.sound_queue sound.book _
  distinct := sound.distinct
  queued := by
    change lock.book.waitingWriters + 1 = lock.seats.countP _ + _
    simp [sound.queued, queueing, writes]
  holdless := sound.holdless
  owed := sound.owed

theorem seats_park (lock : Lock) (thread : ThreadId) (request : Request)
    (deadline : Option Instant) :
    seats { lock with waiters := lock.waiters ++ [{ thread, request, deadline }] }
      = lock.seats ++ [({ thread, request, deadline } : Waiter)] := by
  simp [seats, Waiter.seat]

theorem sound_grant (fits : lock.Fits (queueing request)) (ready : lock.Ready thread request)
    (admitted : lock.book.admits thread request = true) :
    Sound { lock with book := lock.book.grant thread request } where
  book := Book.sound_grant fits.book admitted ready.owed
  distinct := fits.distinct
  queued := by
    change (lock.book.grant thread request).waitingWriters = lock.seats.countP _ + 0
    rw [Book.waitingWriters_grant, fits.queued, queueing]
    omega
  holdless seat mem := by
    have apart : thread ≠ seat.thread := Ne.symm (ready.absent seat mem)
    rcases fits.holdless seat mem with ⟨shared, exclusive⟩
    constructor
    · change (lock.book.grant thread request).sharedHolds seat.thread = 0
      simp [Book.sharedHolds_grant, apart, shared]
    · change (lock.book.grant thread request).exclusiveHolds seat.thread = 0
      rw [Book.exclusiveHolds_grant (Book.writer_eq_none_of_admits admitted)]
      simp [apart, exclusive]
  owed := fits.owed

theorem sound_park (fits : lock.Fits (queueing request)) (ready : lock.Ready thread request)
    (kept : lock.book.admits thread request = false) :
    Sound { lock with waiters := lock.waiters ++ [{ thread, request, deadline }] } where
  book := fits.book
  distinct := by
    rw [seats_park, List.map_append, List.nodup_append]
    refine ⟨fits.distinct, by simp, ?_⟩
    intro first firstMem second secondMem
    rcases List.mem_map.mp firstMem with ⟨seat, mem, rfl⟩
    simp only [List.map_cons, List.map_nil, List.mem_singleton] at secondMem
    rw [secondMem]
    exact ready.absent seat mem
  queued := by
    rw [seats_park, List.countP_append]
    simp [fits.queued, queueing, List.countP_cons]
  holdless seat mem := by
    rw [seats_park, List.mem_append, List.mem_singleton] at mem
    rcases mem with old | rfl
    · exact fits.holdless seat old
    · exact Book.holdless_of_not_admits fits.book ready.holdless kept
  owed seat mem := by
    rw [seats_park, List.mem_append, List.mem_singleton] at mem
    rcases mem with old | rfl
    · exact fits.owed seat old
    · exact ready.owed

theorem sound_attempt (fits : lock.Fits (queueing request)) (ready : lock.Ready thread request) :
    (lock.attempt thread request deadline).1.Sound := by
  cases admitted : lock.book.admits thread request with
  | true => simpa [attempt, admitted] using sound_grant fits ready admitted
  | false => simpa [attempt, admitted] using sound_park fits ready admitted

theorem settles_attempt (absent : ∀ seat ∈ lock.seats, seat.thread ≠ thread) :
    lock.Settles thread request deadline (lock.attempt thread request deadline) := by
  cases admitted : lock.book.admits thread request with
  | true =>
      have vacant := Book.writer_eq_none_of_admits admitted
      simp only [attempt, admitted, if_true]
      constructor
      · intro other
        simp [Book.sharedHolds_grant, Outcome.grants]
      · intro other
        simp [Book.exclusiveHolds_grant vacant, Outcome.grants]
      · intro seat apart
        rfl
      · intro seat same
        simp only [reduceCtorEq, false_and, iff_false]
        exact fun mem => absent seat mem same
  | false =>
      simp only [attempt, admitted, Bool.false_eq_true, if_false]
      constructor
      · simp [Outcome.grants]
      · simp [Outcome.grants]
      · intro seat apart
        rw [seats_park, List.mem_append, List.mem_singleton]
        exact or_iff_left fun same => apart (by rw [same])
      · intro seat same
        simp only [seats_park, List.mem_append, List.mem_singleton, true_and]
        exact or_iff_right fun mem => absent seat mem same

/-- Nothing becomes of a request: the thread has gone and has got nothing. -/
theorem settles_of_gone {next : Lock} {outcome : Outcome} (denied : outcome.grants = false)
    (unparked : outcome ≠ .parked)
    (shared : ∀ other, next.book.sharedHolds other = lock.book.sharedHolds other)
    (exclusive : ∀ other, next.book.exclusiveHolds other = lock.book.exclusiveHolds other)
    (seats : ∀ seat, seat ∈ next.seats ↔ seat ∈ lock.seats ∧ seat.thread ≠ thread) :
    lock.Settles thread request deadline (next, outcome) := by
  constructor
  · intro other
    simp [shared, denied]
  · intro other
    simp [exclusive, denied]
  · intro seat apart
    simp [seats, apart]
  · intro seat same
    simp [seats, same, unparked]

/-- A request is settled in the same way if the thread has just left its place or joined the
queue. -/
theorem Settles.of_moved {moved : Lock} {result : Lock × Outcome}
    (settles : moved.Settles thread request deadline result)
    (shared : ∀ other, moved.book.sharedHolds other = lock.book.sharedHolds other)
    (exclusive : ∀ other, moved.book.exclusiveHolds other = lock.book.exclusiveHolds other)
    (others : ∀ seat : Waiter, seat.thread ≠ thread → (seat ∈ moved.seats ↔ seat ∈ lock.seats)) :
    lock.Settles thread request deadline result where
  sharedHolds other := by rw [settles.sharedHolds, shared]
  exclusiveHolds other := by rw [settles.exclusiveHolds, exclusive]
  others seat apart := (settles.others seat apart).trans (others seat apart)
  own := settles.own

end Attempts

section Requests

variable {lock : Lock} {thread : ThreadId} {request : Request} {deadline : Option Instant}

theorem sound_ask_queued (sound : lock.Sound) (ready : lock.Ready thread request)
    (writes : request.writes = true) :
    ({ lock with book := lock.book.enqueue }.attempt thread request deadline).1.Sound :=
  sound_attempt (fits_enqueue sound writes) ⟨ready.absent, ready.holdless, ready.owed⟩

theorem settles_ask_queued (absent : ∀ seat ∈ lock.seats, seat.thread ≠ thread) :
    lock.Settles thread request deadline
      ({ lock with book := lock.book.enqueue }.attempt thread request deadline) :=
  Settles.of_moved (settles_attempt absent) (fun _ => rfl) (fun _ => rfl) fun _ _ => Iff.rfl

theorem sound_reenter (sound : lock.Sound) (absent : ∀ seat ∈ lock.seats, seat.thread ≠ thread)
    (writer : lock.book.writer = some thread) : Sound { lock with book := lock.book.reenter } where
  book := Book.sound_reenter sound.book writer
  distinct := sound.distinct
  queued := sound.queued
  holdless seat mem := by
    refine ⟨(sound.holdless seat mem).1, ?_⟩
    have apart : thread ≠ seat.thread := Ne.symm (absent seat mem)
    have none := (sound.holdless seat mem).2
    change lock.book.reenter.exclusiveHolds seat.thread = 0
    simp [Book.exclusiveHolds_reenter writer, apart, none]
  owed := sound.owed

theorem settles_reenter (absent : ∀ seat ∈ lock.seats, seat.thread ≠ thread)
    (writer : lock.book.writer = some thread) :
    lock.Settles thread .exclusive deadline
      ({ lock with book := lock.book.reenter }, .reentered) := by
  constructor
  · intro other
    simp [Request.shares, Book.sharedHolds, Book.reenter]
  · intro other
    simp [Book.exclusiveHolds_reenter writer, Outcome.grants, Request.excludes]
  · intro seat apart
    rfl
  · intro seat same
    simp only [reduceCtorEq, false_and, iff_false]
    exact fun mem => absent seat mem same

theorem sound_ask (sound : lock.Sound) (absent : ∀ seat ∈ lock.seats, seat.thread ≠ thread)
    (resuming : ∀ holds, request = .resume holds → 0 < holds ∧ lock.book.Holdless thread) :
    (lock.ask thread request deadline).1.Sound := by
  cases request with
  | shared =>
      have ready : lock.Ready thread .shared := ⟨absent, by simp [Request.writes], by simp⟩
      exact sound_attempt sound ready
  | exclusive =>
      by_cases writer : lock.book.writer = some thread
      · simpa [ask, writer] using sound_reenter sound absent writer
      · by_cases reads : 0 < lock.book.sharedHolds thread
        · simpa [ask, writer, reads] using sound
        · have holdless : lock.book.Holdless thread :=
            ⟨by omega, by simp [Book.exclusiveHolds, writer]⟩
          have ready : lock.Ready thread .exclusive := ⟨absent, fun _ => holdless, by simp⟩
          simpa [ask, writer, reads] using sound_ask_queued sound ready rfl
  | resume holds =>
      have ready : lock.Ready thread (.resume holds) := by
        refine ⟨absent, fun _ => (resuming holds rfl).2, ?_⟩
        rintro _ ⟨⟩
        exact (resuming holds rfl).1
      exact sound_ask_queued sound ready rfl

theorem settles_ask (absent : ∀ seat ∈ lock.seats, seat.thread ≠ thread) :
    lock.Settles thread request deadline (lock.ask thread request deadline) := by
  cases request with
  | shared => exact settles_attempt absent
  | resume holds => exact settles_ask_queued absent
  | exclusive =>
      by_cases writer : lock.book.writer = some thread
      · simpa [ask, writer] using settles_reenter absent writer
      · by_cases reads : 0 < lock.book.sharedHolds thread
        · simp only [ask, writer, reads, if_true, if_false]
          apply settles_of_gone rfl (by simp) (fun _ => rfl) (fun _ => rfl)
          intro seat
          exact ⟨fun mem => ⟨mem, absent seat mem⟩, And.left⟩
        · simpa [ask, writer, reads] using settles_ask_queued absent

theorem sound_wake (sound : lock.Sound) {waiter : Waiter} (mem : waiter ∈ lock.waiters) :
    (lock.wake waiter).1.Sound :=
  sound_attempt (fits_unpark sound mem) (ready_unpark sound mem)

theorem settles_wake {waiter : Waiter} (same : waiter.thread = thread) :
    lock.Settles thread waiter.request waiter.deadline (lock.wake waiter) := by
  subst same
  refine Settles.of_moved (settles_attempt fun _ mem => (mem_seats_unpark.mp mem).2)
    (fun _ => rfl) (fun _ => rfl) fun seat apart => ?_
  rw [mem_seats_unpark]
  exact and_iff_left apart

/-- A writer that has left its place leaves the queue. -/
theorem sound_dequeue (fits : lock.Fits 1) : Sound { lock with book := lock.book.dequeue } where
  book := Book.sound_queue fits.book _
  distinct := fits.distinct
  queued := by
    change lock.book.waitingWriters - 1 = lock.seats.countP _ + 0
    rw [fits.queued, Nat.add_sub_cancel]
    rfl
  holdless := fits.holdless
  owed := fits.owed

theorem sound_notify (sound : lock.Sound) (writers : Bool) : (lock.notify writers).Sound where
  book := sound.book
  distinct := by simpa using sound.distinct
  queued := by simpa using sound.queued
  holdless := by simpa using sound.holdless
  owed := by simpa using sound.owed

theorem sound_expire (sound : lock.Sound) {waiter : Waiter} (mem : waiter ∈ lock.waiters) :
    (lock.expire waiter).1.Sound := by
  have fits := fits_unpark sound mem
  cases admitted : (lock.unpark waiter.thread).book.admits waiter.thread waiter.request with
  | true => simpa [expire, admitted] using sound_grant fits (ready_unpark sound mem) admitted
  | false =>
      cases writes : waiter.request.writes with
      | false => simpa [expire, admitted, writes, queueing] using fits
      | true =>
          simp only [queueing, writes, if_true] at fits
          have left := sound_dequeue fits
          simp only [expire, admitted, writes, Bool.false_eq_true, if_false, if_true]
          split
          · exact sound_notify left false
          · exact left

theorem settles_expire {waiter : Waiter} (same : waiter.thread = thread) :
    lock.Settles thread waiter.request waiter.deadline (lock.expire waiter) := by
  subst same
  have absent : ∀ seat ∈ (lock.unpark waiter.thread).seats, seat.thread ≠ waiter.thread :=
    fun _ mem => (mem_seats_unpark.mp mem).2
  cases admitted : (lock.unpark waiter.thread).book.admits waiter.thread waiter.request with
  | true =>
      have settled : lock.Settles waiter.thread waiter.request waiter.deadline
          ((lock.unpark waiter.thread).attempt waiter.thread waiter.request waiter.deadline) :=
        settles_wake rfl
      simpa [expire, attempt, admitted] using settled
  | false =>
      cases writes : waiter.request.writes with
      | false =>
          simp only [expire, admitted, writes, Bool.false_eq_true, if_false]
          exact settles_of_gone rfl (by simp) (fun _ => rfl) (fun _ => rfl)
            fun _ => mem_seats_unpark
      | true =>
          simp only [expire, admitted, writes, Bool.false_eq_true, if_false, if_true]
          apply settles_of_gone rfl (by simp)
          · intro _
            split <;> rfl
          · intro _
            split <;> rfl
          · intro _
            rw [← mem_seats_unpark]
            split
            · rw [seats_notify]
              rfl
            · rfl

/-- A look at the lock ends with a hold, or with the thread parked. -/
theorem attempt_outcome (lock : Lock) (thread : ThreadId) (request : Request)
    (deadline : Option Instant) :
    (lock.attempt thread request deadline).2 = .granted ∨
      (lock.attempt thread request deadline).2 = .parked := by
  simp only [attempt]
  split <;> simp

/-- Only a request for the exclusive lock is refused, and only to a reader that is not the writer.
-/
theorem ask_eq_refused_iff {error : LockError} :
    (lock.ask thread request deadline).2 = .refused error ↔
      request = .exclusive ∧ lock.book.writer ≠ some thread ∧
        0 < lock.book.sharedHolds thread ∧
        error = .upgradeNotPermitted (lock.book.sharedHolds thread) := by
  have settled (lock : Lock) (request : Request) :
      (lock.attempt thread request deadline).2 ≠ .refused error := by
    rcases attempt_outcome lock thread request deadline with outcome | outcome <;> simp [outcome]
  cases request with
  | shared => simpa [ask] using settled lock .shared
  | resume holds => simpa [ask] using settled _ _
  | exclusive =>
      by_cases writer : lock.book.writer = some thread
      · simp [ask, writer]
      · by_cases reads : 0 < lock.book.sharedHolds thread
        · simp [ask, writer, reads, eq_comm]
        · simpa [ask, writer, reads] using settled _ _

/-- A thread gives up only where it is parked. -/
theorem ask_ne_timedOut : (lock.ask thread request deadline).2 ≠ .timedOut := by
  have settled (lock : Lock) (request : Request) :
      (lock.attempt thread request deadline).2 ≠ .timedOut := by
    rcases attempt_outcome lock thread request deadline with outcome | outcome <;> simp [outcome]
  cases request with
  | shared => exact settled lock .shared
  | resume holds => exact settled _ _
  | exclusive =>
      simp only [ask]
      split
      · simp
      · split
        · simp
        · exact settled _ _

/-- At its deadline a thread is granted its request or gives up. -/
theorem expire_outcome (lock : Lock) (waiter : Waiter) :
    (lock.expire waiter).2 = .granted ∨ (lock.expire waiter).2 = .timedOut := by
  simp only [expire]
  split
  · simp
  · split <;> simp

end Requests

section Releases

variable {lock next : Lock} {thread : ThreadId}

/-- A release gives back holds of one thread and leaves everybody at the place where it was. -/
structure Gives (lock : Lock) (thread : ThreadId) (shares excludes : Nat) (next : Lock) : Prop where
  sound : next.Sound
  sharedHolds : ∀ other, next.book.sharedHolds other
    = lock.book.sharedHolds other - if thread = other then shares else 0
  exclusiveHolds : ∀ other, next.book.exclusiveHolds other
    = lock.book.exclusiveHolds other - if thread = other then excludes else 0
  seats : next.seats = lock.seats

theorem gives_of_entry {entry : Book} {shares excludes : Nat} (sound : lock.Sound)
    (book : next.book = entry) (seats : next.seats = lock.seats) (entrySound : entry.Sound)
    (queue : entry.waitingWriters = lock.book.waitingWriters)
    (shared : ∀ other, entry.sharedHolds other
      = lock.book.sharedHolds other - if thread = other then shares else 0)
    (exclusive : ∀ other, entry.exclusiveHolds other
      = lock.book.exclusiveHolds other - if thread = other then excludes else 0) :
    lock.Gives thread shares excludes next := by
  subst book
  refine ⟨⟨entrySound, ?_, ?_, ?_, ?_⟩, shared, exclusive, seats⟩
  · rw [seats]
    exact sound.distinct
  · rw [seats, queue]
    exact sound.queued
  · intro seat mem
    rw [seats] at mem
    rcases sound.holdless seat mem with ⟨noShared, noExclusive⟩
    exact ⟨by rw [shared, noShared, Nat.zero_sub], by rw [exclusive, noExclusive, Nat.zero_sub]⟩
  · rw [seats]
    exact sound.owed

theorem gives_nothing (sound : lock.Sound) {shares excludes : Nat}
    (shared : shares = 0 ∨ lock.book.sharedHolds thread = 0)
    (exclusive : excludes = 0 ∨ lock.book.exclusiveHolds thread = 0) :
    lock.Gives thread shares excludes lock := by
  apply gives_of_entry sound rfl rfl sound.book rfl
  · intro other
    by_cases same : thread = other
    · subst same
      rcases shared with none | none <;> simp [none]
    · simp [same]
  · intro other
    by_cases same : thread = other
    · subst same
      rcases exclusive with none | none <;> simp [none]
    · simp [same]

theorem gives_releaseShared (sound : lock.Sound) (thread : ThreadId) :
    lock.Gives thread 1 0 (lock.releaseShared thread) := by
  by_cases listed : lock.book.readers.lists thread = true
  · refine gives_of_entry sound ?_ ?_ (Book.sound_dropShared sound.book) rfl
      (Book.sharedHolds_dropShared sound.book) fun other => ?_
    · simp only [releaseShared, listed, if_true]
      split <;> rfl
    · simp only [releaseShared, listed, if_true]
      split
      · rw [seats_notify]
        rfl
      · rfl
    · change lock.book.exclusiveHolds other = _
      simp
  · have unread : lock.book.sharedHolds thread = 0 := by
      by_contra some
      exact listed ((Holds.lists_iff sound.book.proper thread).mpr (Nat.pos_of_ne_zero some))
    simpa [releaseShared, listed] using gives_nothing sound (Or.inr unread) (Or.inl rfl)

theorem gives_releaseExclusive (sound : lock.Sound) (thread : ThreadId) :
    lock.Gives thread 0 1 (lock.releaseExclusive thread) := by
  by_cases writer : lock.book.writer = some thread
  · refine gives_of_entry sound ?_ ?_ (Book.sound_dropExclusive sound.book writer) ?_
      (fun other => ?_) (Book.exclusiveHolds_dropExclusive sound.book writer)
    · simp only [releaseExclusive, writer, if_true]
      split <;> simp
    · simp only [releaseExclusive, writer, if_true]
      split
      · rw [seats_notifyAll]
        rfl
      · rfl
    · by_cases last : lock.book.writeHolds ≤ 1 <;> simp [Book.dropExclusive, last]
    · rw [Book.sharedHolds_dropExclusive]
      simp
  · have unwritten : lock.book.exclusiveHolds thread = 0 := by
      simp [Book.exclusiveHolds, writer]
    simpa [releaseExclusive, writer] using gives_nothing sound (Or.inl rfl) (Or.inr unwritten)

/-- A wait is granted exactly to a writer that does not read. -/
theorem suspend_eq_ok_iff {holds : Nat} :
    lock.suspend thread = .ok (next, holds) ↔
      lock.book.sharedHolds thread = 0 ∧ lock.book.writer = some thread ∧
        next = { lock with book := lock.book.vacate }.notifyAll ∧ holds = lock.book.writeHolds := by
  by_cases reads : 0 < lock.book.sharedHolds thread
  · have : lock.book.sharedHolds thread ≠ 0 := by omega
    simp [suspend, reads, this]
  · have unread : lock.book.sharedHolds thread = 0 := by omega
    by_cases writer : lock.book.writer = some thread
    · simp [suspend, unread, writer, eq_comm]
    · simp [suspend, unread, writer]

theorem gives_suspend {holds : Nat} (sound : lock.Sound)
    (suspended : lock.suspend thread = .ok (next, holds)) :
    lock.Gives thread 0 holds next := by
  rcases suspend_eq_ok_iff.mp suspended with ⟨_, writer, rfl, rfl⟩
  refine gives_of_entry sound (book_notifyAll _) (seats_notifyAll _)
    (Book.sound_vacate sound.book) rfl (fun other => ?_) (Book.exclusiveHolds_vacate writer)
  change lock.book.sharedHolds other = _
  simp

end Releases

end Lock

end Coordination
