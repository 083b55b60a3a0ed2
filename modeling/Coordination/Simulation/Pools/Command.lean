import Coordination.Pool.System
import Coordination.Simulation.Effect

/-!
# Commands on a pool

The commands of scripts of a pool, and what they answer. The items say themselves how their processing
goes, and a plan says how the other callbacks go.
-/

namespace Coordination.Simulation.Pools

/-- How a callback goes. -/
inductive Course where
  | succeed
  | fail
  /-- With an error that has another one behind it. -/
  | failBehind
  | panic
  /-- With a panic whose text does not depend on the item. -/
  | panicPlainly
  /-- With a panic without a text. -/
  | panicSilently
deriving DecidableEq, Repr, Inhabited

/-- An item of the queue. -/
structure Item where
  id : Int
  gate : Option String := none
  sleep : Duration := ⟨0⟩
  course : Course := .succeed
  message : String := "bad item"
  /-- Whether the failure callback panics. -/
  hookPanics : Bool := false
deriving DecidableEq, Repr, Inhabited

/-- How an initialization goes, and the word that is noted about it. -/
structure Initialization where
  gate : Option String := none
  word : String := "ok"
  course : Course := .succeed
deriving DecidableEq, Repr, Inhabited

/-- Which callbacks a strategy has of its own. -/
inductive Strategy where
  /-- All of them. -/
  | full
  /-- Initialization and processing. -/
  | plain
  /-- Processing only. -/
  | function
deriving DecidableEq, Repr, Inhabited

/-- How the callbacks of a script go. -/
structure Plan where
  strategy : Strategy := .full
  /-- Whether events say which worker and which memory they are about. -/
  ordered : Bool := false
  initializations : List Initialization := []
  /-- Which calls of the cleanup callback panic. -/
  cleanupPanics : List Bool := []
deriving DecidableEq, Repr, Inhabited

/-- A command of a script. -/
inductive Command where
  | effect (effect : Effect)
  /-- Starts the pool, unless the settings could not be read. -/
  | start (config : Option PoolConfig)
  | add (items : List Item)
  | offer (items : List Item)
  | clear
  | wait
  | interrupt
  | text
  | dropPool
  | unknown
deriving DecidableEq, Repr, Inhabited

/-- The result of a command. -/
inductive Result where
  | done
  | flag (value : Bool)
  | number (value : Int)
  | text (value : String)
  | refused (error : PoolError)
  | panicked (message : String)
  | flags (values : List Bool)
  | items (ids : List Int)
  | report (report : CompletionReport Item)
  | noPool
  | unreadable
  | badStep
deriving DecidableEq, Repr, Inhabited

end Coordination.Simulation.Pools
