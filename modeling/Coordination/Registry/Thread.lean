import Coordination.Registry.Basic
import Coordination.Registry.Config
import Coordination.ThreadName

/-!
# Threads that use a registry

What a thread can do with a registry, and what it may be in the middle of. A thread that builds an
object may use the registry meanwhile, so its activities form a stack. Reapers are threads of the
registry's own.
-/

namespace Coordination.RegistrySystem

/-- An operation of a thread. -/
inductive Operation (κ α : Type) where
  | get (key : κ)
  /-- The object that the thread was asked to build. -/
  | built (content : α)
  /-- The building has failed. -/
  | failed
  /-- Another reference to an object, which has to live. -/
  | refer (object : ObjectId)
  | release (object : ObjectId)
  | purge
  | size
  | liveCount
  /-- Another owner of the registry. -/
  | own
  | disown
  /-- The system may refuse to make the thread of the reaper. -/
  | spawnReaper (config : RegistryConfig) (refusal : Option String := none)
  | isReaperRunning (reaper : Nat)
  | stopReaper (reaper : Nat)
deriving DecidableEq, Repr, Inhabited

/-- The reply to an operation. -/
inductive Reply where
  /-- A new reference to an object. -/
  | object (id : ObjectId)
  /-- The thread has to build the object, and to say when it is done. -/
  | build
  | count (number : Nat)
  | flag (value : Bool)
  | reaper (id : Nat)
  /-- The system has refused to make a thread. -/
  | refused (reason : String)
  | panicked (message : String)
  | done
deriving DecidableEq, Repr, Inhabited

/-- What the number of known keys is wanted for. -/
inductive Wanted where
  | answer
  /-- For the log, by a purge that has removed some keys. -/
  | log (removed : Nat)
deriving DecidableEq, Repr, Inhabited

/-- What a thread is in the middle of. -/
inductive Activity (κ : Type) where
  | lookingUp (key : κ)
  | inserting (key : κ)
  | entering (key : κ) (slot : SlotId)
  /-- It holds the lock of a slot. -/
  | building (key : κ) (slot : SlotId)
  /-- A purge is before a shard. -/
  | approaching (shard removed : Nat)
  /-- A purge is in a shard, with some entries left to look at. -/
  | sweeping (shard : Nat) (left : List (κ × SlotId)) (removed : Nat)
  /-- A purge has retired the slot of a key. -/
  | unlinking (key : κ) (shard : Nat) (left : List (κ × SlotId)) (removed : Nat)
  /-- A count of what lives is before a shard. -/
  | surveying (shard count : Nat)
  /-- A count of what lives is in a shard, with some entries left to look at. -/
  | counting (shard : Nat) (left : List (κ × SlotId)) (count : Nat)
  /-- A count of the known keys is before a shard. -/
  | measuring (shard count : Nat) (wanted : Wanted)
  /-- It waits for a reaper to end. -/
  | joining (reaper : Nat)
deriving DecidableEq, Repr, Inhabited

/-- What a reaper does. -/
inductive ReaperPhase where
  | starting
  | waiting (deadline : Instant)
  | purging
  | ended
deriving DecidableEq, Repr, Inhabited

/-- A reaper. -/
structure Reaper where
  interval : Duration
  phase : ReaperPhase := .starting
  stopped : Bool := false
deriving DecidableEq, Repr, Inhabited

end RegistrySystem

/-- A registry with the threads that use it. A thread that builds an object may be in the middle of
a further activity, so it has a stack of them, the innermost one first. -/
structure RegistrySystem (κ α : Type) where
  registry : Registry κ α
  activities : Table Party (List (RegistrySystem.Activity κ)) := .empty
  /-- The number of references to the registry itself. -/
  owners : Nat := 1
  reapers : List RegistrySystem.Reaper := []

namespace RegistrySystem

variable {κ α : Type}

/-- The state, the reply and the log of a step. -/
abbrev Stepped (κ α : Type) := Progress (RegistrySystem κ α) Reply

def modify (system : RegistrySystem κ α) (change : Registry κ α → Registry κ α) :
    RegistrySystem κ α :=
  { system with registry := change system.registry }

/-- The innermost activity of a party. -/
def activity? (system : RegistrySystem κ α) (party : Party) : Option (Activity κ) :=
  (system.activities.get party).head?

/-- A party begins something inside of what it is doing. -/
def push (system : RegistrySystem κ α) (party : Party) (activity : Activity κ) :
    RegistrySystem κ α :=
  { system with activities := system.activities.modify party (activity :: ·) }

/-- A party goes on with something else instead of its innermost activity. -/
def turnTo (system : RegistrySystem κ α) (party : Party) (activity : Activity κ) :
    RegistrySystem κ α :=
  { system with activities := system.activities.modify party fun stack => activity :: stack.tail }

def finish (system : RegistrySystem κ α) (party : Party) (reply : Reply)
    (log : List Log.Entry) : Stepped κ α :=
  { state := { system with activities := system.activities.modify party List.tail },
    reply := some reply, log }

def answer (system : RegistrySystem κ α) (reply : Reply) : Stepped κ α :=
  { state := system, reply := some reply }

def modifyReaper (system : RegistrySystem κ α) (id : Nat) (change : Reaper → Reaper) :
    RegistrySystem κ α :=
  { system with reapers := system.reapers.modify id change }

/-- Whether a reaper is in the middle of a purge, for which it owns the registry. -/
def Reaper.owns (reaper : Reaper) : Bool := reaper.phase = .purging

def isOwned (system : RegistrySystem κ α) : Bool :=
  0 < system.owners || system.reapers.any Reaper.owns

def purgedEntry (removed remaining : Nat) : Log.Entry :=
  .event .debug "purged dead registry entries"
    [("removed", .number removed), ("remaining", .number remaining)]

def startedEntry (interval : Duration) : Log.Entry :=
  .event .info "registry reaper started" [("interval_ms", .number interval.milliseconds)]

def stoppedEntry : Log.Entry := .event .info "registry reaper stopped" []

end RegistrySystem

end Coordination
