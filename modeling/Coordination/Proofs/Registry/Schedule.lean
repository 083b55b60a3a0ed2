import Coordination.Registry.System

/-!
# Schedules of a registry

A schedule lets the threads that use a registry, and its reapers, take their steps in any order. A
thread begins an operation when it is in the middle of nothing, or when it builds an object and its
factory uses the registry itself; the end of the building is an operation too, and the building may
fail. Reaching a state comes with the list of the references that are held there. A reference is got
from a `get`, or by cloning one that is held, and it ends when it is dropped.
-/

namespace Coordination.RegistrySystem

variable {κ α : Type}

/-- A registry in which nothing has happened yet. -/
def new (shards : Nat) (shardOf : κ → Nat) : RegistrySystem κ α :=
  { registry := { shards, shardOf } }

/-- A reference to an object, with the key that it was got for. -/
structure Reference (κ : Type) where
  key : κ
  object : ObjectId
deriving DecidableEq, Repr

/-- A choice of a schedule. -/
inductive Move (κ α : Type) where
  | begin (thread : ThreadId) (operation : Operation κ α)
  | proceed (thread : ThreadId)
  | reap (id : Nat)

/-- Whether an object is built. -/
def Activity.isBuilding : Activity κ → Bool
  | .building _ _ => true
  | _ => false

/-- The key whose object is about to be got. -/
def Activity.key? : Activity κ → Option κ
  | .entering key _ | .building key _ => some key
  | _ => none

/-- What a party is in the middle of, the innermost activity first. -/
def stack (system : RegistrySystem κ α) (party : Party) : List (Activity κ) :=
  system.activities.get party

/-- Whether a thread can begin an operation. It can only clone or drop a reference that is held. -/
def canBegin (system : RegistrySystem κ α) (held : List (Reference κ)) (thread : ThreadId) :
    Operation κ α → Bool
  | .built _ | .failed => (system.stack (.caller thread)).head?.any Activity.isBuilding
  | .refer object | .release object =>
      (system.stack (.caller thread)).head?.all Activity.isBuilding
        && held.any (·.object = object)
  | _ => (system.stack (.caller thread)).head?.all Activity.isBuilding

/-- The reference that a party gets with a reply. -/
def gained (system : RegistrySystem κ α) (party : Party) : Option Reply → Option (Reference κ)
  | some (.object id) => ((system.stack party).head?.bind Activity.key?).map ({ key := ·, object := id })
  | _ => none

/-- The references that are held after a move. -/
def record (system : RegistrySystem κ α) (held : List (Reference κ)) (reply : Option Reply) :
    Move κ α → List (Reference κ)
  | .begin _ (.refer object) => held ++ (held.find? (·.object = object)).toList
  | .begin _ (.release object) => held.eraseP (·.object = object)
  | .begin thread _ | .proceed thread => held ++ (system.gained (.caller thread) reply).toList
  | .reap _ => held

variable [DecidableEq κ]

/-- The step of a move, if it can be made now. -/
def perform (system : RegistrySystem κ α) (held : List (Reference κ)) (now : Instant) :
    Move κ α → Option (Stepped κ α)
  | .begin thread operation =>
      if system.canBegin held thread operation then some (system.begin (.caller thread) operation)
      else none
  | .proceed thread => system.step now (.caller thread)
  | .reap id => system.step now (.agent id)

/-- The states that a new registry can reach, with the references that are held there. -/
inductive Reachable : List (Reference κ) → RegistrySystem κ α → Prop where
  | new (shards : Nat) (shardOf : κ → Nat) : Reachable [] (new shards shardOf)
  | step {held : List (Reference κ)} {system : RegistrySystem κ α} {now : Instant} {move : Move κ α}
      {stepped : Stepped κ α} (reached : Reachable held system)
      (performed : system.perform held now move = some stepped) :
      Reachable (system.record held stepped.reply move) stepped.state

/-- The state to which a list of moves leads, with the references that are held there. A move that
cannot be made is left out. -/
def follow (held : List (Reference κ)) (system : RegistrySystem κ α) :
    List (Instant × Move κ α) → List (Reference κ) × RegistrySystem κ α
  | [] => (held, system)
  | (now, move) :: rest =>
      match system.perform held now move with
      | some stepped => follow (system.record held stepped.reply move) stepped.state rest
      | none => follow held system rest

theorem Reachable.follow {held : List (Reference κ)} {system : RegistrySystem κ α}
    (reached : Reachable held system) (moves : List (Instant × Move κ α)) :
    Reachable (follow held system moves).1 (follow held system moves).2 := by
  induction moves generalizing held system with
  | nil => exact reached
  | cons move rest ih =>
      simp only [RegistrySystem.follow]
      cases performed : system.perform held move.1 move.2 with
      | some stepped => exact ih (reached.step performed)
      | none => exact ih reached

end Coordination.RegistrySystem
