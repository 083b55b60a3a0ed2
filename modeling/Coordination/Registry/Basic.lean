import Coordination.Progress
import Coordination.Table

/-!
# Registries of shared objects

A registry has at most one live object for every key. It keeps a slot for each key that it knows, and
the slot points to the object that was built last, without keeping it alive: an object lives as long
as there are references to it. A slot has a lock, which is held while an object is built for it. The
slots of dead objects are retired and unlinked from the map; a retired slot never gets an object
again.

The map is divided into shards, each behind a latch, so that a sweep over one shard leaves the others
alone.
-/

namespace Coordination

abbrev SlotId := Nat

abbrev ObjectId := Nat

/-- What lets many readers or one writer into a shard. -/
inductive Latch where
  | free
  | shared (readers : List Party)
  | exclusive (owner : Party)
deriving DecidableEq, Repr, Inhabited

namespace Latch

def admitsReader : Latch → Bool
  | .exclusive _ => false
  | _ => true

def admitsWriter : Latch → Bool
  | .free => true
  | _ => false

def enter (latch : Latch) (reader : Party) : Latch :=
  match latch with
  | .free => .shared [reader]
  | .shared readers => .shared (reader :: readers)
  | .exclusive owner => .exclusive owner

def leave (latch : Latch) (reader : Party) : Latch :=
  match latch with
  | .shared readers => if readers.erase reader = [] then .free else .shared (readers.erase reader)
  | other => other

end Latch

/-- The place of a key. -/
structure Slot where
  /-- The object that was built last. -/
  target : Option ObjectId := none
  /-- Whether the slot has been given up. -/
  retired : Bool := false
  /-- Who holds the lock of the slot. -/
  holder : Option Party := none
deriving DecidableEq, Repr, Inhabited

/-- An object with the number of references to it. -/
structure Object (κ α : Type) where
  key : κ
  content : α
  references : Nat
deriving DecidableEq, Repr, Inhabited

/-- A registry of objects with some content, one for every key. -/
structure Registry (κ α : Type) where
  shards : Nat
  shardOf : κ → Nat
  entries : List (κ × SlotId) := []
  latches : Table Nat Latch := .empty
  slots : Table SlotId Slot := .empty
  /-- The number of the next slot. -/
  nextSlot : SlotId := 0
  /-- All objects that have ever been built. -/
  objects : List (Object κ α) := []

namespace Registry

variable {κ α : Type}

def references (registry : Registry κ α) (id : ObjectId) : Nat :=
  (registry.objects[id]?.map (·.references)).getD 0

def modifyReferences (registry : Registry κ α) (id : ObjectId) (change : Nat → Nat) :
    Registry κ α :=
  { registry with
    objects := registry.objects.modify id fun object =>
      { object with references := change object.references } }

def refer (registry : Registry κ α) (id : ObjectId) : Registry κ α :=
  registry.modifyReferences id (· + 1)

/-- One reference less; with the last one the object dies. -/
def release (registry : Registry κ α) (id : ObjectId) : Registry κ α :=
  registry.modifyReferences id (· - 1)

def live? (registry : Registry κ α) (slot : Slot) : Option ObjectId :=
  slot.target.filter fun id => 0 < registry.references id

def find [DecidableEq κ] (registry : Registry κ α) (key : κ) : Option SlotId :=
  registry.entries.lookup key

def shard (registry : Registry κ α) (number : Nat) : List (κ × SlotId) :=
  registry.entries.filter fun (key, _) => registry.shardOf key % registry.shards = number

def latchOf (registry : Registry κ α) (key : κ) : Latch :=
  registry.latches.get (registry.shardOf key % registry.shards)

def modifySlot (registry : Registry κ α) (id : SlotId) (change : Slot → Slot) : Registry κ α :=
  { registry with slots := registry.slots.modify id change }

def modifyLatch (registry : Registry κ α) (number : Nat) (change : Latch → Latch) :
    Registry κ α :=
  { registry with latches := registry.latches.modify number change }

/-- The registry with a slot for a key: the one that is there, or a new one. -/
def insert [DecidableEq κ] (registry : Registry κ α) (key : κ) : Registry κ α × SlotId :=
  match registry.find key with
  | some slot => (registry, slot)
  | none =>
      ({ registry with
          entries := registry.entries ++ [(key, registry.nextSlot)],
          slots := registry.slots.set registry.nextSlot {},
          nextSlot := registry.nextSlot + 1 },
        registry.nextSlot)

def unlink [DecidableEq κ] (registry : Registry κ α) (key : κ) : Registry κ α :=
  { registry with entries := registry.entries.filter fun entry => entry.1 ≠ key }

/-- The registry with a new object that has one reference, in a slot whose lock is given back. -/
def publish (registry : Registry κ α) (key : κ) (slot : SlotId) (content : α) :
    Registry κ α × ObjectId :=
  let id := registry.objects.length
  ({ registry.modifySlot slot fun slot => { slot with target := some id, holder := none } with
      objects := registry.objects ++ [{ key, content, references := 1 }] },
    id)

def size (registry : Registry κ α) : Nat := registry.entries.length

/-- Whether a slot counts as live: its object lives, or somebody is at work on it. -/
def countsAsLive (registry : Registry κ α) (id : SlotId) : Bool :=
  let slot := registry.slots.get id
  slot.holder.isSome || (registry.live? slot).isSome

def textOf (size : Nat) : String := "LockRegistry \x7b entries: " ++ size.repr ++ " \x7d"

end Registry

end Coordination
