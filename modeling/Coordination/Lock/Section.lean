import Coordination.Lock.System
import Coordination.Program

/-!
# Sections under a lock

Helpers that run a program while the thread has a hold on a lock, and give the hold back however the
program ends. `sharedUpgradable` is double-checked locking: it looks under a shared hold first, and
only if there is something to write it upgrades the hold, looks again, and writes if that is still
wanted.
-/

namespace Coordination

/-- A machine whose calls include the operations on locks. -/
class LockCalls (call reply : Type) where
  operation : LockSystem.Operation → call
  reply : reply → LockSystem.Reply

namespace LockCalls

variable {call reply : Type} [LockCalls call reply]

instance : LockCalls LockSystem.Operation LockSystem.Reply := ⟨id, id⟩

def operate (operation : LockSystem.Operation) : Program call reply LockSystem.Reply :=
  .ask (LockCalls.operation reply operation) fun answer => .finish (LockCalls.reply call answer)

end LockCalls

/-- An error type that a lock's own errors can be turned into. -/
class OfLockError (ε : Type) where
  ofLockError : LockError → ε

instance : OfLockError LockError := ⟨id⟩

instance : OfLockError SyncError := ⟨.lock⟩

namespace Section

open LockCalls

variable {call reply ε α : Type} [LockCalls call reply] [OfLockError ε]

/-- Makes a handle, runs a program with it and drops it. Without a handle the program does not run. -/
def taking (operation : LockSystem.Operation)
    (body : HandleId → Program call reply (Ending ε α)) : Program call reply (Ending ε α) := do
  match ← operate operation with
  | .handle id =>
      let ending ← body id
      let _ ← operate (.drop id)
      return ending
  | .refused error => return .failed (OfLockError.ofLockError error)
  | _ => return .panicked "no handle"

/-- Runs a program under a shared hold. -/
def sharedLocked (lock : LockId) (body : Program call reply (Ending ε α)) :
    Program call reply (Ending ε α) :=
  taking (.shared lock none) fun _ => body

def exclusiveLocked (lock : LockId) (body : Program call reply (Ending ε α)) :
    Program call reply (Ending ε α) :=
  taking (.exclusive lock none) fun _ => body

/-- Goes on with the value of a program that neither failed nor panicked. -/
def whenValue {β : Type} (program : Program call reply (Ending ε α))
    (next : α → Program call reply (Ending ε β)) : Program call reply (Ending ε β) := do
  match ← program with
  | .value value => next value
  | .failed error => return .failed error
  | .panicked message => return .panicked message

/-- A look at the data and the decision whether to write: with a value that is accepted one goes on,
any other value is the result. -/
def checked (check : Program call reply (Ending ε α))
    (accept : α → Program call reply (Ending Empty Bool))
    (next : α → Program call reply (Ending ε α)) : Program call reply (Ending ε α) :=
  whenValue check fun value => do
    match ← accept value with
    | .value true => next value
    | .value false => return .value value
    | .panicked message => return .panicked message

/-- Double-checked locking. -/
def sharedUpgradable (lock : LockId) (check : Program call reply (Ending ε α))
    (accept : α → Program call reply (Ending Empty Bool))
    (write : α → Program call reply (Ending ε α)) : Program call reply (Ending ε α) :=
  taking (.shared lock none) fun shared =>
    checked check accept fun _ =>
      taking (.upgrade shared) fun _ => checked check accept write

end Section

end Coordination
