import Coordination.Proofs.Lock.Queues
import Mathlib.Data.Set.Card

/-!
# Exclusion, and why nobody waits for himself

In every reachable state a writer excludes all other readers, and the numbers in the book of a
lock are those of the threads: the holds of a writer, the listed readers and the queue
(`exclusion_of_reachable`).

A thread that waits at a lock has no hold on it. So a thread that has one gets every further hold
that it may have at once, a request that would wait for its own thread is refused, and when nobody
has a hold then somebody who waits can go on (`blocked_threads_of_reachable`).
-/

namespace Coordination

namespace Lock

variable {lock : Lock} {thread : ThreadId}

theorem ask_of_refused {request : Request} {deadline : Option Instant} {error : LockError}
    (refused : (lock.ask thread request deadline).2 = .refused error) :
    (lock.ask thread request deadline).1 = lock := by
  rcases ask_eq_refused_iff.mp refused with ⟨rfl, writer, reads, _⟩
  simp [ask, writer, reads]

theorem ask_shared_of_not_holdless (sound : lock.Sound) (holds : ¬lock.book.Holdless thread)
    (deadline : Option Instant) : (lock.ask thread .shared deadline).2 = .granted := by
  have admitted : lock.book.admits thread .shared = true :=
    Book.canRead_of_not_holdless sound.book holds
  simp [ask, attempt, admitted]

/-- If nobody has a hold and somebody waits, then one of those who wait can go on: any writer, and
if there is none then any reader. -/
theorem exists_admitted (sound : lock.Sound) {seat : Waiter} (mem : seat ∈ lock.seats)
    (holdless : ∀ thread, lock.book.Holdless thread) :
    ∃ next ∈ lock.seats, lock.book.admits next.thread next.request = true := by
  have free := (Book.canWrite_iff sound.book).mpr holdless
  by_cases queued : ∃ writer ∈ lock.seats, writer.request.writes = true
  · rcases queued with ⟨writer, writerMem, writes⟩
    exact ⟨writer, writerMem, by simp [Book.admits, writes, free]⟩
  · refine ⟨seat, mem, ?_⟩
    have reads : seat.request.writes = false := by
      by_contra writes
      exact queued ⟨seat, mem, by simpa using writes⟩
    have nobody : lock.seats.countP (·.request.writes) = 0 := by
      rw [List.countP_eq_zero]
      exact fun other otherMem writes => queued ⟨other, otherMem, writes⟩
    have empty : lock.book.waitingWriters = 0 := by rw [sound.queued, nobody]
    have vacant : lock.book.writer = none := by
      simp only [Book.canWrite, Bool.and_eq_true, Option.isNone_iff_eq_none] at free
      exact free.1
    simp [Book.admits, reads, Book.canRead, vacant, empty]

end Lock

namespace LockSystem

/-- The threads that wait for the exclusive lock, or to get it back after a wait for a condition. -/
def queue (system : LockSystem) (id : LockId) : Set ThreadId :=
  {thread | ∃ pursuit, system.activity thread = .parked pursuit ∧ pursuit.lock = id ∧
    pursuit.request.writes = true}

variable {system : LockSystem}

theorem Queues.mem_queue_iff (queues : system.Queues) {id : LockId} {thread : ThreadId} :
    thread ∈ system.queue id ↔
      thread ∈ ((system.locks.get id).seats.filter (·.request.writes)).map (·.thread) := by
  simp only [queue, Set.mem_ofPred_eq, List.mem_map, List.mem_filter]
  constructor
  · rintro ⟨pursuit, parked, rfl, writes⟩
    exact ⟨pursuit.seat thread, ⟨queues.seat_mem parked, writes⟩, rfl⟩
  · rintro ⟨seat, ⟨mem, writes⟩, rfl⟩
    rcases (queues.seated id seat).mp mem with ⟨pursuit, parked, place, same⟩
    refine ⟨pursuit, parked, place, ?_⟩
    rw [same] at writes
    exact writes

/-- The queue of a lock is as long as its book says. -/
theorem Queues.encard_queue (queues : system.Queues) (id : LockId) :
    (system.queue id).encard = (system.locks.get id).book.waitingWriters := by
  have sound := queues.sound id
  let writers := ((system.locks.get id).seats.filter (·.request.writes)).map (·.thread)
  have distinct : writers.Nodup := sound.distinct.sublist (List.filter_sublist.map _)
  have listed : system.queue id = writers.toFinset := by
    ext thread
    rw [queues.mem_queue_iff, Finset.mem_coe, List.mem_toFinset]
  rw [listed, Set.encard_coe_eq_coe_finsetCard, List.toFinset_card_of_nodup distinct,
    List.length_map, ← List.countP_eq_length_filter, sound.queued, Nat.add_zero]

/-- Whatever the schedule, next to a writer no other thread has a shared hold, there are exclusive
holds exactly if there is a writer, every listed reader has a hold, as many writers are counted as
wait, and nobody who waits is the writer or a listed reader. -/
theorem exclusion_of_reachable (reachable : system.Reachable) (id : LockId) :
    let book := (system.locks.get id).book
    (∀ owner thread, book.writer = some owner → thread ≠ owner → book.sharedHolds thread = 0) ∧
    (0 < book.writeHolds ↔ book.writer.isSome = true) ∧
    (∀ row ∈ book.readers.rows, 1 ≤ row.2) ∧
    (system.queue id).encard = book.waitingWriters ∧
    (∀ thread pursuit, system.activity thread = .parked pursuit → pursuit.lock = id →
      book.writer ≠ some thread ∧ book.readers.lists thread = false) := by
  have queues := queues_of_reachable reachable
  have sound := (queues.sound id).book
  refine ⟨fun _ _ => sound.alone, sound.writing, sound.proper.2, queues.encard_queue id, ?_⟩
  rintro thread pursuit parked rfl
  have holdless := queues.holdless_of_parked parked
  exact ⟨Book.writer_ne_of_holdless sound holdless,
    Book.lists_eq_false_of_holdless sound holdless⟩

theorem exclusion_of_contended :
    contended.Reachable ∧ (contended.locks.get 0).book.writer = some 0 ∧
      (contended.locks.get 0).book.sharedHolds 1 = 0 ∧ (contended.queue 0).encard = 1 := by
  have reachable := reachable_contended
  have holds := exclusion_of_reachable reachable 0
  refine ⟨reachable, by decide, holds.1 0 1 (by decide) (by decide), ?_⟩
  rw [holds.2.2.2.1]
  decide

/-- Whatever the schedule, a thread that waits at a lock has no hold on it. A thread that has a
hold gets a shared one at once, and the writer an exclusive one. The exclusive lock is refused
exactly to a thread that reads and is not the writer, and the refusal changes nothing. If nobody
has a hold and somebody waits, then a request of somebody who waits can be granted. -/
theorem blocked_threads_of_reachable (reachable : system.Reachable) :
    (∀ thread pursuit, system.activity thread = .parked pursuit →
      (system.locks.get pursuit.lock).book.Holdless thread) ∧
    (∀ id thread deadline, ¬(system.locks.get id).book.Holdless thread →
      ((system.locks.get id).ask thread .shared deadline).2 = .granted) ∧
    (∀ id thread deadline, (system.locks.get id).book.writer = some thread →
      ((system.locks.get id).ask thread .exclusive deadline).2 = .reentered) ∧
    (∀ id thread deadline error,
      ((system.locks.get id).ask thread .exclusive deadline).2 = .refused error ↔
        (system.locks.get id).book.writer ≠ some thread ∧
          ∃ n, 1 ≤ n ∧ (system.locks.get id).book.sharedHolds thread = n ∧
            error = .upgradeNotPermitted n) ∧
    (∀ id thread deadline error,
      ((system.locks.get id).ask thread .exclusive deadline).2 = .refused error →
        ((system.locks.get id).ask thread .exclusive deadline).1 = system.locks.get id) ∧
    (∀ id, (∃ thread pursuit, system.activity thread = .parked pursuit ∧ pursuit.lock = id) →
      (∀ thread, (system.locks.get id).book.Holdless thread) →
      ∃ thread pursuit, system.activity thread = .parked pursuit ∧ pursuit.lock = id ∧
        (system.locks.get id).book.admits thread pursuit.request = true) := by
  have queues := queues_of_reachable reachable
  refine ⟨fun _ _ => queues.holdless_of_parked, ?_, ?_, ?_, ?_, ?_⟩
  · intro id thread deadline holds
    exact Lock.ask_shared_of_not_holdless (queues.sound id) holds deadline
  · intro id thread deadline writer
    simp [Lock.ask, writer]
  · intro id thread deadline error
    rw [Lock.ask_eq_refused_iff]
    constructor
    · rintro ⟨_, writer, reads, rfl⟩
      exact ⟨writer, _, reads, rfl, rfl⟩
    · rintro ⟨writer, _, reads, rfl, rfl⟩
      exact ⟨rfl, writer, reads, rfl⟩
  · intro id thread deadline error refused
    exact Lock.ask_of_refused refused
  · rintro id ⟨thread, pursuit, parked, rfl⟩ holdless
    rcases Lock.exists_admitted (queues.sound pursuit.lock) (queues.seat_mem parked) holdless with
      ⟨next, mem, admitted⟩
    rcases (queues.seated _ next).mp mem with ⟨other, otherParked, place, same⟩
    rw [same] at admitted
    exact ⟨next.thread, other, otherParked, place, admitted⟩

theorem blocked_threads_of_contended :
    contended.activity 1 = .parked ⟨.acquire, 0, .shared, none, 2⟩ ∧
      (contended.locks.get 0).book.Holdless 1 ∧
      ((contended.locks.get 0).ask 0 .shared none).2 = .granted ∧
      ((contended.locks.get 0).ask 0 .exclusive none).2 = .reentered := by
  have holds := blocked_threads_of_reachable reachable_contended
  have parked : contended.activity 1 = .parked ⟨.acquire, 0, .shared, none, 2⟩ := by decide
  exact ⟨parked, holds.1 1 _ parked, holds.2.1 0 0 none (by decide),
    holds.2.2.1 0 0 none (by decide)⟩

end LockSystem

end Coordination
