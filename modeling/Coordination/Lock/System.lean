import Coordination.Lock.Thread

/-!
# Threads that use locks

Any number of threads hold handles on any number of locks and wait for conditions. A thread begins an
operation with `begin`; until the reply it is in the middle of that operation, and each of the
functions `proceed`, `wake` and `expire` makes its next atomic step: it enters a critical section,
it wakes up where it is parked (with or without having been notified), or it wakes up at its
deadline. A schedule is any sequence of such steps of the threads.

An upgrade gives the shared hold up, asks for the exclusive lock, and asks for the shared hold again
if the exclusive lock is refused. The release of an upgraded child asks for the parent's shared hold.
A wait for a condition gives all exclusive holds up and asks for them again when it is over.
-/

namespace Coordination.LockSystem

/-- What follows when a request has been granted. -/
def succeed (system : LockSystem) (thread : ThreadId) (pursuit : Pursuit) (log : List Log.Entry) :
    Stepped :=
  match pursuit.purpose with
  | .acquire =>
      let handle := if pursuit.request.writes then .exclusive pursuit.lock true none
        else .shared pursuit.lock .active false
      (system.addHandle thread handle).finish thread (.handle system.nextHandle) log
  | .upgrade parent =>
      let upgraded := system.modifyHandles thread (·.modify parent Handle.afterUpgrade)
      (upgraded.addHandle thread (.exclusive pursuit.lock true (some parent))).finish thread
        (.handle system.nextHandle)
        (log ++ [.event .trace "shared handle upgraded" [system.nameField pursuit.lock]])
  | .recover parent error =>
      (system.modifyHandles thread (·.modify parent (·.withState .active))).finish thread
        (.refused error) log
  | .restore child parent drop =>
      let restored := system.modifyHandles thread (·.modify parent (·.withState .active))
      let restored := if drop then restored.modifyHandles thread (·.erase child) else restored
      restored.finish thread .done (log ++ [system.releasedEntry pursuit.lock true])
  | .resume signalled => system.finish thread (.waited signalled) log

/-- What follows when the exclusive lock has been refused. -/
def refuse (system : LockSystem) (thread : ThreadId) (pursuit : Pursuit) (error : LockError)
    (now : Instant) (log : List Log.Entry) : Stepped :=
  match pursuit.purpose with
  | .upgrade parent =>
      system.carryOn thread
        (.asking
          { purpose := .recover parent error, lock := pursuit.lock, request := .shared, since := now })
        log
  | _ => system.finish thread (.refused error) log

def entries (lock : Lock) (pursuit : Pursuit) (now : Instant) : Lock.Outcome → List Log.Entry
  | .granted => lock.slowEntry pursuit.request ⟨now - pursuit.since⟩
  | .refused (.upgradeNotPermitted held) => [lock.refusalEntry held]
  | _ => []

def settle (system : LockSystem) (thread : ThreadId) (pursuit : Pursuit) (now : Instant)
    (result : Lock × Lock.Outcome) : Stepped :=
  let (lock, outcome) := result
  let system := system.setLock pursuit.lock lock
  let log := entries lock pursuit now outcome
  match outcome with
  | .granted | .reentered => system.succeed thread pursuit log
  | .refused error => system.refuse thread pursuit error now log
  | .parked => system.carryOn thread (.parked pursuit) log
  | .timedOut => system.finish thread .timedOut log

/-- The first step of a release: the hold goes back, and a child goes on to restore that of its
parent. -/
def release (system : LockSystem) (now : Instant) (thread : ThreadId) (id : HandleId)
    (handle : Handle) (drop : Bool) : Stepped :=
  let released := system.modifyHandles thread (·.modify id Handle.afterRelease)
  let forget (system : LockSystem) : LockSystem :=
    if drop then system.modifyHandles thread (·.erase id) else system
  let lock := system.locks.get handle.lock
  match handle with
  | .shared place .active _ =>
      (forget (released.setLock place (lock.releaseShared thread))).finish thread .done
        [.event .trace "shared hold released" [system.nameField place]]
  | .exclusive place true parent? =>
      let released := released.setLock place (lock.releaseExclusive thread)
      match parent? with
      | some parent =>
          released.carryOn thread
            (.asking
              { purpose := .restore id parent drop, lock := place, request := .shared, since := now })
            []
      | none => (forget released).finish thread .done [system.releasedEntry place false]
  | _ => (forget system).finish thread .done []

/-- The first step of an upgrade: the shared hold is given up. -/
def upgrade (system : LockSystem) (now : Instant) (thread : ThreadId) (id : HandleId) :
    Handle → Stepped
  | .shared place state upgraded =>
      match Handle.upgradeError? state upgraded with
      | some error => system.finish thread (.refused error) []
      | none =>
          let lock := (system.locks.get place).releaseShared thread
          let suspended := system.modifyHandles thread (·.modify id (·.withState .suspended))
          (suspended.setLock place lock).carryOn thread
            (.asking { purpose := .upgrade id, lock := place, request := .exclusive, since := now })
            []
  | .exclusive _ _ _ => system.finish thread .unsuitable []

/-- A step that has a deadline, if there is a timeout. It panics before it does anything if the clock
cannot tell the deadline. -/
def inTime (system : LockSystem) (now : Instant) (thread : ThreadId) (timeout : Option Duration)
    (stepped : Stepped) : Stepped :=
  if timeout.all (·.fits now) then stepped
  else system.finish thread (.panicked Duration.overflowText) []

@[simp]
theorem inTime_none (system : LockSystem) (now : Instant) (thread : ThreadId) (stepped : Stepped) :
    system.inTime now thread none stepped = stepped := rfl

/-- The first step of a wait: the exclusive holds are given up, and the thread parks at the
condition. -/
def wait (system : LockSystem) (now : Instant) (thread : ThreadId) (name : String)
    (timeout : Option Duration) : Handle → Stepped
  | .exclusive place true _ =>
      system.inTime now thread timeout <|
        match (system.locks.get place).suspend thread with
        | .error error => system.finish thread (.refused error) []
        | .ok (lock, holds) =>
            let condition := system.conditions.get name
            let parked := condition.park thread condition.generation (timeout.map (·.after now))
            ((system.setLock place lock).setCondition name parked).carryOn thread
              (.waiting place name holds) []
  | .exclusive _ false _ =>
      system.finish thread (.refused (.illegalUpgradeState "exclusive handle already released")) []
  | .shared _ _ _ => system.finish thread .unsuitable []

/-- An operation on a handle, which has to be there and not to be borrowed. -/
def withHandle (system : LockSystem) (thread : ThreadId) (id : HandleId)
    (perform : Handle → Stepped) : Stepped :=
  match (system.handles thread).get? id with
  | none => system.finish thread .unsuitable []
  | some handle =>
      if (system.handles thread).isBorrowed id then system.finish thread .borrowed []
      else perform handle

def begin (system : LockSystem) (now : Instant) (thread : ThreadId) : Operation → Stepped
  | .shared lock timeout =>
      system.inTime now thread timeout <|
        system.carryOn thread
          (.asking
            { purpose := .acquire, lock, request := .shared,
              deadline := timeout.map (·.after now), since := now })
          []
  | .exclusive lock timeout =>
      system.inTime now thread timeout <|
        system.carryOn thread
          (.asking
            { purpose := .acquire, lock, request := .exclusive,
              deadline := timeout.map (·.after now), since := now })
          []
  | .upgrade id => system.withHandle thread id (system.upgrade now thread id)
  | .release id => system.withHandle thread id (system.release now thread id · false)
  | .drop id => system.withHandle thread id (system.release now thread id · true)
  | .wait id name timeout => system.withHandle thread id (system.wait now thread name timeout)
  | .signal name all =>
      (system.setCondition name (system.conditions.get name).raise).carryOn thread
        (.notifying name all) []

/-- A thread that is not parked makes its next step. -/
def proceed (system : LockSystem) (now : Instant) (thread : ThreadId) : Option Stepped :=
  match (system.threads.get thread).activity with
  | .asking pursuit =>
      some (system.settle thread pursuit now
        ((system.locks.get pursuit.lock).ask thread pursuit.request pursuit.deadline))
  | .notifying name all =>
      some ((system.setCondition name ((system.conditions.get name).notify all)).finish thread
        .done [])
  | _ => none

/-- A wait is over, and the thread goes on to get its exclusive holds back. -/
def leave (system : LockSystem) (now : Instant) (thread : ThreadId) (place : LockId)
    (name : String) (holds : Nat) (signalled : Bool) : Stepped :=
  let condition := system.conditions.get name
  (system.setCondition name (condition.unpark thread)).carryOn thread
    (.asking
      { purpose := .resume signalled, lock := place, request := .resume holds, since := now })
    []

/-- A parked thread wakes up and looks again. -/
def wake (system : LockSystem) (now : Instant) (thread : ThreadId) : Option Stepped :=
  match (system.threads.get thread).activity with
  | .parked pursuit =>
      let lock := system.locks.get pursuit.lock
      (lock.waiter? thread).map fun waiter =>
        system.settle thread pursuit now (lock.wake waiter)
  | .waiting place name holds =>
      let condition := system.conditions.get name
      (condition.sleeper? thread).map fun sleeper =>
        if condition.signalledSince sleeper then system.leave now thread place name holds true
        else
          let parked :=
            (condition.unpark thread).park thread sleeper.observed sleeper.deadline
          { state := system.setCondition name parked }
  | _ => none

/-- Whether a deadline has passed. -/
def isOver (deadline : Option Instant) (now : Instant) : Bool := deadline.any (· ≤ now)

/-- A parked thread wakes up at its deadline. -/
def expire (system : LockSystem) (now : Instant) (thread : ThreadId) : Option Stepped :=
  match (system.threads.get thread).activity with
  | .parked pursuit =>
      let lock := system.locks.get pursuit.lock
      match lock.waiter? thread with
      | some waiter =>
          if isOver waiter.deadline now then
            some (system.settle thread pursuit now (lock.expire waiter))
          else none
      | none => none
  | .waiting place name holds =>
      let condition := system.conditions.get name
      match condition.sleeper? thread with
      | some sleeper =>
          if isOver sleeper.deadline now then
            some (system.leave now thread place name holds (condition.signalledSince sleeper))
          else none
      | none => none
  | _ => none

/-- Whether a thread is parked and has been notified. -/
def isNotified (system : LockSystem) (thread : ThreadId) : Bool :=
  match (system.threads.get thread).activity with
  | .parked pursuit => ((system.locks.get pursuit.lock).waiter? thread).any (·.notified)
  | .waiting _ name _ => ((system.conditions.get name).sleeper? thread).any (·.notified)
  | _ => false

/-- The instant at which a parked thread wakes up by itself. -/
def alarm? (system : LockSystem) (thread : ThreadId) : Option Instant :=
  match (system.threads.get thread).activity with
  | .parked pursuit => ((system.locks.get pursuit.lock).waiter? thread).bind (·.deadline)
  | .waiting _ name _ => ((system.conditions.get name).sleeper? thread).bind (·.deadline)
  | _ => none

/-- The next step of a thread that wakes up only if it was notified or its deadline has passed. -/
def step (system : LockSystem) (now : Instant) (thread : ThreadId) : Option Stepped :=
  match system.proceed now thread with
  | some stepped => some stepped
  | none =>
      if system.isNotified thread then system.wake now thread else system.expire now thread

end Coordination.LockSystem
