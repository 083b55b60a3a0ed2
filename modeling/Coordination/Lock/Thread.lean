import Coordination.Lock.Basic
import Coordination.Lock.Handle
import Coordination.Progress
import Coordination.Table

/-!
# Threads that hold locks

What a thread can do with locks, and what it may be in the middle of. A thread begins an operation and
is busy with it until the reply. Most of the time it is after some hold on a lock: one that it asked
for, or one that it gave up on the way and wants back.
-/

namespace Coordination.LockSystem

/-- An operation of a thread. -/
inductive Operation where
  | shared (lock : LockId) (timeout : Option Duration)
  | exclusive (lock : LockId) (timeout : Option Duration)
  | upgrade (handle : HandleId)
  | release (handle : HandleId)
  /-- Releases a handle and does away with it. -/
  | drop (handle : HandleId)
  | wait (handle : HandleId) (condition : String) (timeout : Option Duration)
  | signal (condition : String) (all : Bool)
deriving DecidableEq, Repr, Inhabited

/-- The reply to an operation. -/
inductive Reply where
  /-- There is a new handle. -/
  | handle (id : HandleId)
  | done
  | timedOut
  /-- A wait is over, by a signal or not. -/
  | waited (signalled : Bool)
  | refused (error : LockError)
  | panicked (message : String)
  /-- The handle cannot be used, since it has a child. -/
  | borrowed
  /-- There is no such handle, or it is of the other kind. -/
  | unsuitable
deriving DecidableEq, Repr, Inhabited

/-- What a thread asks a lock for in the middle of an operation. -/
inductive Purpose where
  | acquire
  /-- The exclusive hold of an upgrade. -/
  | upgrade (parent : HandleId)
  /-- The shared hold that a refused upgrade gave up. -/
  | recover (parent : HandleId) (error : LockError)
  /-- The shared hold of the parent of a handle that is released, or also dropped. -/
  | restore (child parent : HandleId) (drop : Bool)
  /-- The exclusive holds that a wait gave up. -/
  | resume (signalled : Bool)
deriving DecidableEq, Repr, Inhabited

/-- A request under way. -/
structure Pursuit where
  purpose : Purpose
  lock : LockId
  request : Request
  deadline : Option Instant := none
  since : Instant
deriving DecidableEq, Repr, Inhabited

/-- What a thread is in the middle of. -/
inductive Activity where
  | idle
  /-- It is about to ask a lock. -/
  | asking (pursuit : Pursuit)
  /-- It is parked at a lock. -/
  | parked (pursuit : Pursuit)
  /-- It is parked at a condition and has given up some exclusive holds. -/
  | waiting (lock : LockId) (condition : String) (holds : Nat)
  /-- It has raised a condition and is about to notify. -/
  | notifying (condition : String) (all : Bool)
deriving DecidableEq, Repr, Inhabited

/-- A thread: its handles, and what it is doing. -/
structure Thread where
  handles : Handles := {}
  activity : Activity := .idle
deriving DecidableEq, Repr, Inhabited

end LockSystem

/-- Locks, conditions and the threads that use them. -/
structure LockSystem where
  locks : Table LockId Lock := .empty
  conditions : Table String Condition := .empty
  threads : Table ThreadId LockSystem.Thread := .empty
  /-- The number of the next handle. -/
  nextHandle : HandleId := 0
deriving Inhabited

namespace LockSystem

/-- The state, the reply and the log of a step. -/
abbrev Stepped := Progress LockSystem Reply

def setLock (system : LockSystem) (id : LockId) (lock : Lock) : LockSystem :=
  { system with locks := system.locks.set id lock }

def setCondition (system : LockSystem) (name : String) (condition : Condition) : LockSystem :=
  { system with conditions := system.conditions.set name condition }

def handles (system : LockSystem) (thread : ThreadId) : Handles :=
  (system.threads.get thread).handles

def modifyHandles (system : LockSystem) (thread : ThreadId) (change : Handles → Handles) :
    LockSystem :=
  { system with
    threads := system.threads.modify thread fun state =>
      { state with handles := change state.handles } }

def turnTo (system : LockSystem) (thread : ThreadId) (activity : Activity) : LockSystem :=
  { system with
    threads := system.threads.modify thread fun state => { state with activity := activity } }

def addHandle (system : LockSystem) (thread : ThreadId) (handle : Handle) : LockSystem :=
  { system.modifyHandles thread (·.add system.nextHandle handle) with
    nextHandle := system.nextHandle + 1 }

def finish (system : LockSystem) (thread : ThreadId) (reply : Reply) (log : List Log.Entry) :
    Stepped :=
  { state := system.turnTo thread .idle, reply := some reply, log }

def carryOn (system : LockSystem) (thread : ThreadId) (activity : Activity)
    (log : List Log.Entry) : Stepped :=
  { state := system.turnTo thread activity, log }

def nameField (system : LockSystem) (id : LockId) : String × Log.Value :=
  ("lock", .text (system.locks.get id).config.displayName)

def releasedEntry (system : LockSystem) (id : LockId) (restored : Bool) : Log.Entry :=
  .event .trace "exclusive hold released"
    [system.nameField id, ("restored_shared", .flag restored)]

end LockSystem

end Coordination
