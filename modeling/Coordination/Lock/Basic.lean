import Coordination.Lock.Book
import Coordination.Lock.Config
import Coordination.Error
import Coordination.Log
import Coordination.Text.Quoted

/-!
# Reentrant shared and exclusive locks

Each function here is one critical section: it looks at the lock and changes it, and no other thread
sees anything in between. A request that cannot be granted parks its thread. A parked thread is
notified when a change of the lock may have made its request grantable; on waking it looks again and
is granted the request, or parks anew. A thread that queues for the exclusive lock keeps new readers
out, and a queued writer that gives up on its deadline lets them in again.
-/

namespace Coordination

/-- A thread that is parked until its request may be granted. -/
structure Waiter where
  thread : ThreadId
  request : Request
  deadline : Option Instant := none
  /-- Whether it has been notified since it parked. -/
  notified : Bool := false
deriving DecidableEq, Repr, Inhabited

/-- A lock; the threads parked at it are in the order in which they parked. -/
structure Lock where
  config : LockConfig := {}
  book : Book := {}
  waiters : List Waiter := []
deriving DecidableEq, Repr, Inhabited

namespace Lock

/-- What becomes of a request. -/
inductive Outcome where
  | granted
  /-- The thread is the writer and has one exclusive hold more. -/
  | reentered
  | refused (error : LockError)
  | parked
  | timedOut
deriving DecidableEq, Repr, Inhabited

/-- The place of a thread among those parked at the lock. -/
def waiter? (lock : Lock) (thread : ThreadId) : Option Waiter :=
  lock.waiters.find? (·.thread = thread)

/-- The lock without a parked thread. -/
def unpark (lock : Lock) (thread : ThreadId) : Lock :=
  { lock with waiters := lock.waiters.filter (·.thread ≠ thread) }

/-- Notifies the parked threads whose request reads, or those whose request writes. -/
def notify (lock : Lock) (writers : Bool) : Lock :=
  { lock with
    waiters := lock.waiters.map fun waiter =>
      if waiter.request.writes = writers then { waiter with notified := true } else waiter }

/-- Notifies everybody who may proceed when the exclusive lock becomes free. -/
def notifyAll (lock : Lock) : Lock :=
  let lock := lock.notify false
  if 0 < lock.book.waitingWriters then lock.notify true else lock

/-- Grants a request if it can be granted, and parks the thread otherwise. -/
def attempt (lock : Lock) (thread : ThreadId) (request : Request) (deadline : Option Instant) :
    Lock × Outcome :=
  if lock.book.admits thread request then
    ({ lock with book := lock.book.grant thread request }, .granted)
  else ({ lock with waiters := lock.waiters ++ [{ thread, request, deadline }] }, .parked)

/-- A request of a thread. The writer gets further exclusive holds at once; a thread that only reads
is refused the exclusive lock, since it would wait for itself. -/
def ask (lock : Lock) (thread : ThreadId) (request : Request) (deadline : Option Instant) :
    Lock × Outcome :=
  match request with
  | .shared => lock.attempt thread request deadline
  | .exclusive =>
      if lock.book.writer = some thread then ({ lock with book := lock.book.reenter }, .reentered)
      else
        let held := lock.book.sharedHolds thread
        if 0 < held then (lock, .refused (.upgradeNotPermitted held))
        else { lock with book := lock.book.enqueue }.attempt thread request deadline
  | .resume _ => { lock with book := lock.book.enqueue }.attempt thread request deadline

/-- A parked thread wakes up and looks again. -/
def wake (lock : Lock) (waiter : Waiter) : Lock × Outcome :=
  (lock.unpark waiter.thread).attempt waiter.thread waiter.request waiter.deadline

/-- A parked thread wakes up at its deadline: it looks once more and then gives up. The last writer
that leaves the queue lets in the readers behind it. -/
def expire (lock : Lock) (waiter : Waiter) : Lock × Outcome :=
  let lock := lock.unpark waiter.thread
  if lock.book.admits waiter.thread waiter.request then
    ({ lock with book := lock.book.grant waiter.thread waiter.request }, .granted)
  else if waiter.request.writes then
    let lock := { lock with book := lock.book.dequeue }
    (if lock.book.waitingWriters = 0 then lock.notify false else lock, .timedOut)
  else (lock, .timedOut)

/-- A thread gives one shared hold back; one that has none has nothing to give. The last reader of all
notifies the writers. -/
def releaseShared (lock : Lock) (thread : ThreadId) : Lock :=
  if lock.book.readers.lists thread then
    let lock := { lock with book := lock.book.dropShared thread }
    if lock.book.readers.isEmpty ∧ 0 < lock.book.waitingWriters then lock.notify true else lock
  else lock

/-- The writer gives one exclusive hold back. With the last one it stops being the writer. -/
def releaseExclusive (lock : Lock) (thread : ThreadId) : Lock :=
  if lock.book.writer = some thread then
    let lock := { lock with book := lock.book.dropExclusive }
    if lock.book.writer.isNone then lock.notifyAll else lock
  else lock

/-- The writer gives up all its exclusive holds for a while; a writer that also reads may not. -/
def suspend (lock : Lock) (thread : ThreadId) : Except LockError (Lock × Nat) :=
  let held := lock.book.sharedHolds thread
  if 0 < held then .error (.upgradeNotPermitted held)
  else if lock.book.writer = some thread then
    .ok ({ lock with book := lock.book.vacate }.notifyAll, lock.book.writeHolds)
  else .error (.illegalUpgradeState "condition wait requires the exclusive lock")

/-- The entry for a request that was granted after some time, if it took long enough to be told. A
further exclusive hold of the writer, and the return from a wait for a condition, are not told. -/
def slowEntry (lock : Lock) (request : Request) (waited : Duration) : List Log.Entry :=
  let mode? := match request with
    | .shared => some "shared"
    | .exclusive => some "exclusive"
    | .resume _ => none
  match mode?, lock.config.slowAcquireThreshold with
  | some mode, some threshold =>
      if threshold.nanoseconds ≤ waited.nanoseconds then
        [.event .debug "slow lock acquisition"
          [("lock", .text lock.config.displayName), ("mode", .text mode)]]
      else []
  | _, _ => []

def refusalEntry (lock : Lock) (held : Nat) : Log.Entry :=
  .event .debug "refusing exclusive acquisition from a shared holder"
    [("lock", .text lock.config.displayName), ("read_holds", .number held)]

def flagText (flag : Bool) : String := if flag then "true" else "false"

def text (lock : Lock) : String :=
  "ReentrantRwLock \x7b name: " ++ Text.quoted lock.config.displayName
    ++ ", write_locked: " ++ flagText lock.book.writer.isSome
    ++ ", write_holds: " ++ lock.book.writeHolds.repr
    ++ ", readers: " ++ lock.book.readers.total.repr
    ++ ", waiting_writers: " ++ lock.book.waitingWriters.repr ++ " \x7d"

end Lock

end Coordination
