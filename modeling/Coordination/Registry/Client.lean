import Coordination.Program
import Coordination.Registry.System

/-!
# Getting objects

A thread that gets the object of a key may be asked to build it. It then runs a program of its own,
the factory, and hands over what that program has made; if the program panics, the panic goes on and
the next thread that wants the object builds again.
-/

namespace Coordination

/-- A machine whose calls include the operations on a registry. -/
class RegistryCalls (call reply : Type) (κ α : outParam Type) where
  operation : RegistrySystem.Operation κ α → call
  reply : reply → RegistrySystem.Reply

instance {κ α : Type} : RegistryCalls (RegistrySystem.Operation κ α) RegistrySystem.Reply κ α :=
  ⟨id, id⟩

namespace RegistryClient

variable {call reply κ α : Type} [RegistryCalls call reply κ α]

def operate (operation : RegistrySystem.Operation κ α) :
    Program call reply RegistrySystem.Reply :=
  .ask (RegistryCalls.operation reply operation) fun answer =>
    .finish (RegistryCalls.reply call answer)

/-- Hands over what a factory has made. -/
def handOver : Ending Empty α → Program call reply (Ending Empty ObjectId)
  | .value content => do
      match ← operate (.built content) with
      | .object id => return .value id
      | _ => return .panicked "nothing to build"
  | .panicked message => do
      let _ ← operate .failed
      return .panicked message

/-- Gets a reference to the object of a key, with a factory in case that it has to be built. -/
def get (key : κ) (factory : Program call reply (Ending Empty α)) :
    Program call reply (Ending Empty ObjectId) := do
  match ← operate (.get key) with
  | .object id => return .value id
  | .build => handOver (← factory)
  | _ => return .panicked "no object"

end RegistryClient

end Coordination
