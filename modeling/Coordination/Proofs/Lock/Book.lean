import Coordination.Lock.Book
import Mathlib.Tactic.ByContra

/-!
# Sound books

A book is sound if its numbers fit together: whoever is listed has a hold, there is a writer exactly
if there are exclusive holds, and next to a writer nobody else reads. Every entry that a lock makes
keeps the book sound, and each entry changes the holds of one thread only.

A sound book never keeps a thread out that has a hold already (`canRead_of_not_holdless`), which is
why a thread that holds the lock does not wait for itself.
-/

namespace Coordination

namespace Holds

theorem proper_empty : Proper {} := by
  simp [Proper, ProperIn]

theorem isEmpty_iff {holds : Holds} (proper : holds.Proper) :
    holds.isEmpty = true ↔ ∀ thread, holds.count thread = 0 := by
  rcases holds with ⟨rows⟩
  cases rows with
  | nil => simp [isEmpty, count, countIn]
  | cons row rest =>
      have listed : 0 < count ⟨row :: rest⟩ row.1 :=
        (lists_iff proper row.1).mp (by simp [lists])
      constructor
      · intro empty
        cases empty
      · intro absent
        have := absent row.1
        omega

end Holds

namespace Request

/-- The number of shared holds that a request is after. -/
def shares : Request → Nat
  | .shared => 1
  | _ => 0

/-- The number of exclusive holds that a request is after. -/
def excludes : Request → Nat
  | .shared => 0
  | .exclusive => 1
  | .resume holds => holds

end Request

namespace Book

/-- A thread has no hold in either mode. -/
def Holdless (book : Book) (thread : ThreadId) : Prop :=
  book.sharedHolds thread = 0 ∧ book.exclusiveHolds thread = 0

instance (book : Book) (thread : ThreadId) : Decidable (book.Holdless thread) :=
  inferInstanceAs (Decidable (_ ∧ _))

/-- The numbers of a book fit together. -/
structure Sound (book : Book) : Prop where
  proper : book.readers.Proper
  writing : 0 < book.writeHolds ↔ book.writer.isSome = true
  alone : ∀ {owner thread : ThreadId}, book.writer = some owner → thread ≠ owner →
    book.sharedHolds thread = 0

section Queries

variable {book : Book}

theorem sound_empty : Sound {} where
  proper := Holds.proper_empty
  writing := by simp
  alone := by simp

theorem exclusiveHolds_pos_iff (sound : book.Sound) (thread : ThreadId) :
    0 < book.exclusiveHolds thread ↔ book.writer = some thread := by
  constructor
  · intro some
    by_contra other
    simp [exclusiveHolds, other] at some
  · intro writer
    have := sound.writing.mpr (by simp [writer])
    simpa [exclusiveHolds, writer] using this

theorem writer_ne_of_holdless (sound : book.Sound) {thread : ThreadId}
    (holdless : book.Holdless thread) : book.writer ≠ some thread := by
  intro writer
  have := (exclusiveHolds_pos_iff sound thread).mpr writer
  have := holdless.2
  omega

theorem lists_eq_false_of_holdless (sound : book.Sound) {thread : ThreadId}
    (holdless : book.Holdless thread) : book.readers.lists thread = false := by
  by_contra listed
  have := (Holds.lists_iff sound.proper thread).mp (by simpa using listed)
  have none := holdless.1
  simp only [sharedHolds] at none
  omega

/-- The exclusive lock is free exactly if nobody has a hold. -/
theorem canWrite_iff (sound : book.Sound) :
    book.canWrite = true ↔ ∀ thread, book.Holdless thread := by
  simp only [canWrite, Bool.and_eq_true, Holds.isEmpty_iff sound.proper]
  constructor
  · rintro ⟨vacant, unread⟩ thread
    refine ⟨unread thread, ?_⟩
    cases writer : book.writer with
    | none => simp [exclusiveHolds, writer]
    | some owner => simp [writer] at vacant
  · intro holdless
    refine ⟨?_, fun thread => (holdless thread).1⟩
    cases writer : book.writer with
    | none => rfl
    | some owner => exact absurd writer (writer_ne_of_holdless sound (holdless owner))

/-- A book without holds and without a queue is empty. -/
theorem eq_empty_of_holdless (sound : book.Sound) (holdless : ∀ thread, book.Holdless thread)
    (unqueued : book.waitingWriters = 0) : book = {} := by
  have free := (canWrite_iff sound).mpr holdless
  simp only [canWrite, Bool.and_eq_true, Option.isNone_iff_eq_none, Holds.isEmpty,
    List.isEmpty_iff] at free
  rcases free with ⟨vacant, unread⟩
  have unwritten : book.writeHolds = 0 := by
    by_contra some
    have := sound.writing.mp (Nat.pos_of_ne_zero some)
    simp [vacant] at this
  rcases book with ⟨writer, writeHolds, ⟨rows⟩, waitingWriters⟩
  simp_all

/-- A thread that has a hold may always take a shared one. -/
theorem canRead_of_not_holdless (sound : book.Sound) {thread : ThreadId}
    (holds : ¬book.Holdless thread) : book.canRead thread = true := by
  by_contra refused
  apply holds
  cases writer : book.writer with
  | some owner =>
      have apart : owner ≠ thread := by simpa [canRead, writer] using refused
      exact ⟨sound.alone writer (Ne.symm apart), by simp [exclusiveHolds, writer, apart]⟩
  | none =>
      have unlisted : book.readers.lists thread = false := by
        simp [canRead, writer] at refused
        exact refused.2
      refine ⟨?_, by simp [exclusiveHolds, writer]⟩
      by_contra some
      have listed := (Holds.lists_iff sound.proper thread).mpr (Nat.pos_of_ne_zero some)
      simp [unlisted] at listed

/-- Whoever is kept waiting has no hold. -/
theorem holdless_of_not_admits (sound : book.Sound) {thread : ThreadId} {request : Request}
    (writes : request.writes = true → book.Holdless thread)
    (kept : book.admits thread request = false) : book.Holdless thread := by
  cases request with
  | shared =>
      by_contra holds
      simp [admits, Request.writes, canRead_of_not_holdless sound holds] at kept
  | exclusive => exact writes rfl
  | resume holds => exact writes rfl

theorem writer_eq_none_of_admits {thread : ThreadId} {request : Request}
    (admitted : book.admits thread request = true) (writes : request.writes = true) :
    book.writer = none := by
  simp [admits, writes, canWrite] at admitted
  exact admitted.1

end Queries

section Entries

variable {book : Book} {thread : ThreadId}

/-- Whether a book is sound does not depend on the queue. -/
theorem sound_queue (sound : book.Sound) (waiting : Nat) :
    Sound { book with waitingWriters := waiting } :=
  ⟨sound.proper, sound.writing, sound.alone⟩

theorem sharedHolds_grant (request : Request) (other : ThreadId) :
    (book.grant thread request).sharedHolds other
      = book.sharedHolds other + if thread = other then request.shares else 0 := by
  cases request with
  | shared => exact Holds.count_add book.readers thread other
  | _ => simp [grant, sharedHolds, Request.shares]

theorem exclusiveHolds_grant {request : Request}
    (vacant : request.writes = true → book.writer = none) (other : ThreadId) :
    (book.grant thread request).exclusiveHolds other
      = book.exclusiveHolds other + if thread = other then request.excludes else 0 := by
  cases request with
  | shared =>
      change book.exclusiveHolds other = _
      simp [Request.excludes]
  | exclusive => simp [grant, exclusiveHolds, Request.excludes, vacant rfl]
  | resume holds => simp [grant, exclusiveHolds, Request.excludes, vacant rfl]

theorem waitingWriters_grant (request : Request) :
    (book.grant thread request).waitingWriters
      = book.waitingWriters - if request.writes then 1 else 0 := by
  cases request <;> rfl

theorem sound_grant (sound : book.Sound) {request : Request}
    (admitted : book.admits thread request = true)
    (owed : ∀ holds, request = .resume holds → 0 < holds) :
    (book.grant thread request).Sound := by
  have unread (free : book.canWrite = true) (other : ThreadId) : book.sharedHolds other = 0 :=
    ((canWrite_iff sound).mp free other).1
  cases request with
  | shared =>
      refine ⟨Holds.proper_add sound.proper thread, sound.writing, ?_⟩
      intro owner other writer apart
      change book.writer = some owner at writer
      have kept : owner = thread := by
        simpa [admits, Request.writes, canRead, writer] using admitted
      rw [sharedHolds_grant, sound.alone writer apart]
      simp [show thread ≠ other from fun same => apart (same ▸ kept.symm)]
  | exclusive => exact ⟨sound.proper, by simp [grant], fun _ _ => unread admitted _⟩
  | resume holds =>
      exact ⟨sound.proper, by simp [grant, owed holds rfl], fun _ _ => unread admitted _⟩

theorem sound_reenter (sound : book.Sound) (writer : book.writer = some thread) :
    book.reenter.Sound :=
  ⟨sound.proper, by simp [reenter, writer], sound.alone⟩

theorem exclusiveHolds_reenter (writer : book.writer = some thread) (other : ThreadId) :
    book.reenter.exclusiveHolds other
      = book.exclusiveHolds other + if thread = other then 1 else 0 := by
  by_cases same : thread = other <;> simp [reenter, exclusiveHolds, writer, same]

theorem sharedHolds_dropShared (sound : book.Sound) (other : ThreadId) :
    (book.dropShared thread).sharedHolds other
      = book.sharedHolds other - if thread = other then 1 else 0 :=
  Holds.count_drop sound.proper thread other

theorem sound_dropShared (sound : book.Sound) : (book.dropShared thread).Sound := by
  refine ⟨Holds.proper_drop sound.proper thread, sound.writing, ?_⟩
  intro owner other writer apart
  rw [sharedHolds_dropShared sound, sound.alone writer apart, Nat.zero_sub]

theorem exclusiveHolds_dropExclusive (sound : book.Sound) (writer : book.writer = some thread)
    (other : ThreadId) :
    book.dropExclusive.exclusiveHolds other
      = book.exclusiveHolds other - if thread = other then 1 else 0 := by
  have some := sound.writing.mpr (by simp [writer])
  by_cases last : book.writeHolds ≤ 1 <;> by_cases same : thread = other <;>
    simp [dropExclusive, exclusiveHolds, writer, last, same]

theorem sharedHolds_dropExclusive (other : ThreadId) :
    book.dropExclusive.sharedHolds other = book.sharedHolds other := by
  by_cases last : book.writeHolds ≤ 1 <;> simp [dropExclusive, sharedHolds, last]

theorem sound_dropExclusive (sound : book.Sound) (writer : book.writer = some thread) :
    book.dropExclusive.Sound := by
  by_cases last : book.writeHolds ≤ 1
  · exact ⟨by simpa [dropExclusive, last] using sound.proper, by simp [dropExclusive, last],
      by simp [dropExclusive, last]⟩
  · have more : 0 < book.writeHolds - 1 := by omega
    refine ⟨by simpa [dropExclusive, last] using sound.proper,
      by simp [dropExclusive, last, writer, more], ?_⟩
    intro owner other same apart
    rw [sharedHolds_dropExclusive]
    exact sound.alone (by simpa [dropExclusive, last] using same) apart

theorem exclusiveHolds_vacate (writer : book.writer = some thread) (other : ThreadId) :
    book.vacate.exclusiveHolds other
      = book.exclusiveHolds other - if thread = other then book.writeHolds else 0 := by
  by_cases same : thread = other <;> simp [vacate, exclusiveHolds, writer, same]

theorem sound_vacate (sound : book.Sound) : book.vacate.Sound :=
  ⟨sound.proper, by simp [vacate], by simp [vacate]⟩

end Entries

end Book

end Coordination
