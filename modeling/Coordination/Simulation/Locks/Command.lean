import Coordination.Json.Basic
import Coordination.Lock.Section
import Coordination.Simulation.Effect

/-!
# Commands on locks

The commands of scripts of locks, and what they answer. Some of them run a section whose body
consists of commands again.
-/

namespace Coordination.Simulation.Locks

/-- How a body ends, given a value. -/
inductive End where
  /-- With the value that was given. -/
  | given
  | value (value : Json)
  /-- With the given integer and some more. -/
  | add (count : Int)
  | fail (error : SyncError)
  | panic (message : String)
deriving Inhabited

/-- What a section wants to write about. -/
inductive Accept where
  | always
  | never
  | less (bound : Int)
  | equal (value : Int)
  | panic (message : String)
deriving DecidableEq, Repr, Inhabited

/-- Where a look at the data takes its value from. -/
inductive Source where
  | value (value : Json)
  | cell (name : String)
deriving Inhabited

/-- A command of a script. -/
inductive Command where
  | effect (effect : Effect)
  | shared (lock : LockId) (timeout : Option Duration) (name : String)
  | exclusive (lock : LockId) (timeout : Option Duration) (name : String)
  | upgrade (parent name : String)
  | release (name : String)
  | drop (name : String)
  | info (name : String)
  | wait (name condition : String) (timeout : Option Duration)
  | signal (condition : String) (all : Bool)
  | counts (lock : LockId)
  | holds (lock : LockId)
  | text (lock : LockId)
  | sharedLocked (lock : LockId) (body : List Command) (ending : End)
  | exclusiveLocked (lock : LockId) (body : List Command) (ending : End)
  | sharedUpgradable (lock : LockId) (checks : List (Source × List Command × End)) (accept : Accept)
      (write : List Command) (ending : End) (cell : Option String)
  | unknown
deriving Inhabited

/-- A callback of a section. -/
inductive Callback where
  | check
  | accept
  | write
deriving DecidableEq, Repr, Inhabited

/-- The result of a command. -/
inductive Result where
  | done
  | flag (value : Bool)
  | number (value : Int)
  | text (value : String)
  | refused (error : LockError)
  | panicked (message : String)
  | noHandle
  | handleExists
  | borrowed
  | badStep
  | info (handle : Handle)
  | counts (thread : ThreadId) (book : Book)
  | holds (thread : ThreadId) (book : Book)
  /-- A callback was called, by a thread with some shared and some exclusive holds. -/
  | called (callback : Callback) (value : Json) (shared exclusive : Nat)
  /-- The end of a section, with what its callbacks have answered. -/
  | locked (ending : Ending SyncError Json) (journal : List Result)
  | upgradable (ending : Ending SyncError Json) (journal : List Result)
deriving Inhabited

end Coordination.Simulation.Locks
