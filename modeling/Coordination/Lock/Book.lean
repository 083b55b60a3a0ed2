import Coordination.Lock.Holds

/-!
# Who holds a lock

A lock keeps a book: the writer with the number of its exclusive holds, the shared holds, and how
many threads queue for the exclusive lock. A thread may read while it is the writer; without a
writer it may if it reads already or if nobody queues to write. It may write if nobody holds the
lock in either mode.
-/

namespace Coordination

/-- The holds on a lock, and the length of the queue for the exclusive one. -/
structure Book where
  writer : Option ThreadId := none
  writeHolds : Nat := 0
  readers : Holds := {}
  waitingWriters : Nat := 0
deriving DecidableEq, Repr, Inhabited

/-- What a thread asks a lock for. -/
inductive Request where
  /-- One shared hold. -/
  | shared
  /-- One exclusive hold. -/
  | exclusive
  /-- All the exclusive holds that the thread gave up while it waited for a condition. -/
  | resume (holds : Nat)
deriving DecidableEq, Repr, Inhabited

/-- Whether a request queues for the exclusive lock. -/
def Request.writes : Request → Bool
  | .shared => false
  | _ => true

namespace Book

def sharedHolds (book : Book) (thread : ThreadId) : Nat := book.readers.count thread

def exclusiveHolds (book : Book) (thread : ThreadId) : Nat :=
  if book.writer = some thread then book.writeHolds else 0

def canRead (book : Book) (thread : ThreadId) : Bool :=
  match book.writer with
  | some owner => owner = thread
  | none => book.waitingWriters = 0 || book.readers.lists thread

/-- Whether a thread that holds nothing may become the writer now. -/
def canWrite (book : Book) : Bool := book.writer.isNone && book.readers.isEmpty

def admits (book : Book) (thread : ThreadId) (request : Request) : Bool :=
  if request.writes then book.canWrite else book.canRead thread

/-- Grants a request; a writer leaves the queue. -/
def grant (book : Book) (thread : ThreadId) : Request → Book
  | .shared => { book with readers := book.readers.add thread }
  | .exclusive =>
      { book with
        writer := some thread, writeHolds := 1, waitingWriters := book.waitingWriters - 1 }
  | .resume holds =>
      { book with
        writer := some thread, writeHolds := holds, waitingWriters := book.waitingWriters - 1 }

def enqueue (book : Book) : Book := { book with waitingWriters := book.waitingWriters + 1 }

def dequeue (book : Book) : Book := { book with waitingWriters := book.waitingWriters - 1 }

def reenter (book : Book) : Book := { book with writeHolds := book.writeHolds + 1 }

def dropShared (book : Book) (thread : ThreadId) : Book :=
  { book with readers := book.readers.drop thread }

/-- One exclusive hold less; with the last one there is no writer any more. -/
def dropExclusive (book : Book) : Book :=
  if book.writeHolds ≤ 1 then { book with writer := none, writeHolds := 0 }
  else { book with writeHolds := book.writeHolds - 1 }

def vacate (book : Book) : Book := { book with writer := none, writeHolds := 0 }

end Book

end Coordination
