import Coordination.Error
import Coordination.Lock.Condition

/-!
# Handles

A handle stands for one hold on a lock. A shared handle can be upgraded once: its hold is suspended
while the exclusive handle that the upgrade made, its child, holds the lock, and restored when the
child is released. Releasing a handle twice does nothing the second time. While a child exists, even
a released one, its parent cannot be used.
-/

namespace Coordination

abbrev LockId := Nat

abbrev HandleId := Nat

/-- Whether a shared handle has its hold. -/
inductive HandleState where
  | active
  /-- The hold is given up for that of the child. -/
  | suspended
  | released
deriving DecidableEq, Repr, Inhabited

def HandleState.title : HandleState → String
  | .active => "Active"
  | .suspended => "Suspended"
  | .released => "Released"

/-- A handle of a thread. -/
inductive Handle where
  | shared (lock : LockId) (state : HandleState) (upgraded : Bool)
  | exclusive (lock : LockId) (held : Bool) (parent : Option HandleId)
deriving DecidableEq, Repr, Inhabited

namespace Handle

def lock : Handle → LockId
  | .shared lock _ _ => lock
  | .exclusive lock _ _ => lock

def isActive : Handle → Bool
  | .shared _ state _ => state = .active
  | .exclusive _ held _ => held

/-- The handle whose hold an exclusive handle restores. -/
def parent? : Handle → Option HandleId
  | .shared _ _ _ => none
  | .exclusive _ _ parent => parent

def resource : Handle → String
  | .shared _ _ _ => "shared_lock"
  | .exclusive _ _ _ => "exclusive_lock"

def withState (handle : Handle) (state : HandleState) : Handle :=
  match handle with
  | .shared lock _ upgraded => .shared lock state upgraded
  | .exclusive lock held parent => .exclusive lock held parent

/-- A shared handle that cannot be upgraded any more. -/
def afterUpgrade : Handle → Handle
  | .shared lock state _ => .shared lock state true
  | .exclusive lock held parent => .exclusive lock held parent

def afterRelease : Handle → Handle
  | .shared lock _ upgraded => .shared lock .released upgraded
  | .exclusive lock _ parent => .exclusive lock false parent

def upgradeError? (state : HandleState) (upgraded : Bool) : Option LockError :=
  if upgraded then some (.illegalUpgradeState "handle was already upgraded")
  else if state = .active then none
  else some (.illegalUpgradeState ("handle is " ++ state.title ++ ", not active"))

end Handle

/-- The handles of a thread, in the order in which they were made. -/
structure Handles where
  rows : List (HandleId × Handle) := []
deriving DecidableEq, Repr, Inhabited

namespace Handles

def get? (handles : Handles) (id : HandleId) : Option Handle := handles.rows.lookup id

def add (handles : Handles) (id : HandleId) (handle : Handle) : Handles :=
  ⟨handles.rows ++ [(id, handle)]⟩

def modify (handles : Handles) (id : HandleId) (change : Handle → Handle) : Handles :=
  ⟨handles.rows.map fun row => if row.1 = id then (row.1, change row.2) else row⟩

def erase (handles : Handles) (id : HandleId) : Handles :=
  ⟨handles.rows.filter (·.1 ≠ id)⟩

/-- Whether a handle has a child, so that it cannot be used. -/
def isBorrowed (handles : Handles) (id : HandleId) : Bool :=
  handles.rows.any (·.2.parent? = some id)

/-- The number of shared holds on a lock that the handles stand for. -/
def sharedHolds (handles : Handles) (lock : LockId) : Nat :=
  handles.rows.countP fun (_, handle) =>
    match handle with
    | .shared place state _ => place = lock && state = .active
    | .exclusive _ _ _ => false

/-- The number of exclusive holds on a lock that the handles stand for. -/
def exclusiveHolds (handles : Handles) (lock : LockId) : Nat :=
  handles.rows.countP fun (_, handle) =>
    match handle with
    | .shared _ _ _ => false
    | .exclusive place held _ => place = lock && held

end Handles

end Coordination
