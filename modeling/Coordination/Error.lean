/-!
# Errors

What can go wrong with a lock, with a worker pool, and with either of them in a caller's eyes. Each
error has a message for the reader, a code for tools and a hint on what to do about it.
-/

namespace Coordination

/-- An operation that a lock refuses. -/
inductive LockError where
  /-- An upgrade, or a wait, of a handle that is not in the state for it. -/
  | illegalUpgradeState (reason : String)
  /-- A request for the exclusive lock by a thread that has shared holds only. -/
  | upgradeNotPermitted (readHolds : Nat)
deriving DecidableEq, Repr, Inhabited

namespace LockError

def message : LockError → String
  | .illegalUpgradeState reason => "Illegal upgrade state: " ++ reason
  | .upgradeNotPermitted readHolds =>
      "Lock upgrade not permitted: thread holds " ++ readHolds.repr
        ++ " shared hold(s) and no exclusive hold"

def code : LockError → String
  | .illegalUpgradeState _ => "lock::illegal_upgrade_state"
  | .upgradeNotPermitted _ => "lock::upgrade_not_permitted"

def help : LockError → String
  | .illegalUpgradeState _ =>
      "A shared handle can be upgraded once, and only while it holds the shared lock."
  | .upgradeNotPermitted _ =>
      "Release every shared hold before acquiring the exclusive lock, or use SharedHandle::upgrade."

end LockError

/-- An operation that a worker pool refuses. -/
inductive PoolError where
  /-- A start of a pool that is not idle. -/
  | alreadyRunning
  /-- Workers that wait for an exit signal which is not going to be sent. -/
  | missingExitSignal
  /-- A pool without workers. -/
  | invalidThreadCount (count : Nat)
  /-- A worker that could not be created. -/
  | spawnFailed (reason : String)
deriving DecidableEq, Repr, Inhabited

namespace PoolError

def message : PoolError → String
  | .alreadyRunning => "Worker pool is already running"
  | .missingExitSignal => "Blocking mode requires an exit signal"
  | .invalidThreadCount count => "Invalid worker thread count: " ++ count.repr
  | .spawnFailed reason => "Failed to spawn worker thread: " ++ reason

def code : PoolError → String
  | .alreadyRunning => "pool::already_running"
  | .missingExitSignal => "pool::missing_exit_signal"
  | .invalidThreadCount _ => "pool::invalid_thread_count"
  | .spawnFailed _ => "pool::spawn_failed"

def help : PoolError → String
  | .alreadyRunning => "Call wait_for_completion before starting the pool again."
  | .missingExitSignal =>
      "Workers in blocking mode only stop on an exit signal. Enable exit_signal or use draining mode."
  | .invalidThreadCount _ => "A pool needs at least one worker thread."
  | .spawnFailed _ =>
      "The OS refused to create a thread. Check thread limits and available memory."

end PoolError

/-- An error of either kind, or one of the caller's own. -/
inductive SyncError where
  | lock (error : LockError)
  | pool (error : PoolError)
  | internal (reason : String)
deriving DecidableEq, Repr, Inhabited

namespace SyncError

def message : SyncError → String
  | .lock error => "Lock error: " ++ error.message
  | .pool error => "Pool error: " ++ error.message
  | .internal reason => "Internal error: " ++ reason

/-- The code of the error; that of the error inside, if there is one. -/
def code : SyncError → String
  | .lock error => error.code
  | .pool error => error.code
  | .internal _ => "sync::internal_error"

/-- What to do about the error; that of the error inside, if there is one. -/
def help : SyncError → String
  | .lock error => error.help
  | .pool error => error.help
  | .internal _ => "An unexpected internal error occurred. Please report this issue."

end SyncError

end Coordination
