import Coordination.Registry.Config
import Coordination.Simulation.Effect

/-!
# Commands on a registry

The commands of scripts of a registry, which the factory performs too, and what they answer.
-/

namespace Coordination.Simulation.Registries

/-- What an object holds: its number, and the key that it was built for. -/
structure Content where
  number : Nat := 0
  key : String := ""
deriving DecidableEq, Repr, Inhabited

/-- A command of a script. -/
inductive Command where
  | effect (effect : Effect)
  /-- Gets an object, perhaps keeps it in a variable, and perhaps compares it with all of them. -/
  | get (key : String) (target : Option String) (compare : Bool)
  | drop (name : String)
  | clone (name copy : String)
  | same (first second : String)
  | purge
  | size
  | isEmpty
  | liveCount
  | text
  /-- Begins a reaper, unless its settings could not be read. -/
  | spawnReaper (name : String) (config : Option RegistryConfig)
  | isReaperRunning (name : String)
  | stopReaper (name : String)
  | dropRegistry
  | unknown
deriving DecidableEq, Repr, Inhabited

/-- A command of the factory, and up to which attempt at its key it is performed. -/
structure FactoryCommand where
  command : Command
  attempts : Option Nat := none
deriving DecidableEq, Repr, Inhabited

/-- The commands that the factory performs for each key. Without any factory every object is the
default one, and nothing is counted. -/
abbrev Factory := Option (List (String × List FactoryCommand))

/-- The result of a command. -/
inductive Result where
  | done
  | flag (value : Bool)
  | number (value : Int)
  | text (value : String)
  | nothing
  | panicked (message : String)
  /-- An object, with the variables that hold it. -/
  | object (content : Content) (same : Option (List String))
  | noVariable
  | noRegistry
  | unreadable
  | badStep
deriving DecidableEq, Repr, Inhabited

/-- What the factory has done. -/
inductive Trace where
  | build (key : String) (number : Nat)
  | inside (key : String) (result : Result)
deriving DecidableEq, Repr, Inhabited

end Coordination.Simulation.Registries
