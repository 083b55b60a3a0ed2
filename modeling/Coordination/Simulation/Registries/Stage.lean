import Coordination.Registry.Client
import Coordination.Simulation.Registries.Command
import Coordination.Simulation.Script

/-!
# A registry as a machine for scripts

Besides the registry the machine keeps the variables that hold references to its objects, the names of
reapers, and what the factory has done.
-/

namespace Coordination.Simulation.Registries

/-- The registry of a script, its variables, and what its factory has done. -/
structure State where
  system : RegistrySystem String Content
  /-- Whether the script still has the registry. -/
  present : Bool := true
  bindings : List (String × ObjectId) := []
  reapers : List (String × Nat) := []
  builds : Nat := 0
  attempts : Table String Nat := .empty
  trace : List Trace := []

/-- What the programs of a script call. -/
inductive Call where
  | operation (operation : RegistrySystem.Operation String Content)
  | isPresent
  | setAbsent
  | content (object : ObjectId)
  /-- The names of the variables that hold an object, in their order. -/
  | namesOf (object : ObjectId)
  | held (name : String)
  /-- Keeps a reference under a name, or none; the reference that was there is the reply. -/
  | setVariable (name : String) (object : Option ObjectId)
  | reaper? (name : String)
  | setReaper (name : String) (reaper : Option Nat)
  /-- A further call of the factory for a key. -/
  | countBuild (key : String)
  | note (trace : Trace)
  /-- The objects in variables, and the reapers that have a name. -/
  | leftovers
deriving Inhabited

/-- The replies to calls. -/
inductive Reply where
  | registry (reply : RegistrySystem.Reply)
  | flag (value : Bool)
  | content (content : Content)
  | names (names : List String)
  | number (value : Option Nat)
  /-- The numbers of a call of the factory: of all calls, and of those for the key. -/
  | build (number attempt : Nat)
  | leftovers (objects : List ObjectId) (reapers : List Nat)
  | done
deriving Inhabited

instance : RegistryCalls Call Reply String Content where
  operation := .operation
  reply
    | .registry reply => reply
    | _ => .done

namespace State

/-- Inserts a name at its place in the order of names. -/
def insertName (name : String) : List String → List String
  | [] => [name]
  | other :: rest => if name < other then name :: other :: rest else other :: insertName name rest

/-- The names of the variables that hold an object, in their order. -/
def namesOf (state : State) (object : ObjectId) : List String :=
  ((state.bindings.filter (·.2 = object)).map (·.1)).foldl (fun names name => insertName name names) []

def rename {β : Type} (rows : List (String × β)) (name : String) (value : Option β) :
    List (String × β) :=
  let others := rows.filter (·.1 ≠ name)
  match value with
  | some value => (name, value) :: others
  | none => others

def answer (state : State) : Call → State × Reply
  | .operation _ => (state, .done)
  | .isPresent => (state, .flag state.present)
  | .setAbsent => ({ state with present := false }, .done)
  | .content object =>
      (state, .content ((state.system.registry.objects[object]?.map (·.content)).getD {}))
  | .namesOf object => (state, .names (state.namesOf object))
  | .held name => (state, .number (state.bindings.lookup name))
  | .setVariable name object =>
      ({ state with bindings := rename state.bindings name object },
        .number (state.bindings.lookup name))
  | .reaper? name => (state, .number (state.reapers.lookup name))
  | .setReaper name reaper =>
      ({ state with reapers := rename state.reapers name reaper },
        .number (state.reapers.lookup name))
  | .countBuild key =>
      let number := state.builds + 1
      let attempt := state.attempts.get key + 1
      ({ state with
          builds := number,
          attempts := state.attempts.set key attempt,
          trace := state.trace ++ [.build key number] },
        .build number attempt)
  | .note trace => ({ state with trace := state.trace ++ [trace] }, .done)
  | .leftovers =>
      (state, .leftovers (state.bindings.map (·.2)) (state.reapers.map (·.2)))

def lift (state : State) (progress : RegistrySystem.Stepped String Content) :
    Progress State Reply :=
  { state := { state with system := progress.state },
    reply := progress.reply.map .registry,
    log := progress.log }

end State

/-- The numbers of known keys, of live ones, and of calls of the factory. -/
structure View where
  size : Nat
  live : Nat
  builds : Nat
deriving DecidableEq, Repr, Inhabited

/-- A demand on the registry. -/
inductive Wish where
  | size (count : Nat)
  | builds (count : Nat)
  | reaperEnded (name : String)
deriving DecidableEq, Repr, Inhabited

namespace State

def view (state : State) : Option View :=
  let registry := state.system.registry
  if state.present then
    some
      { size := registry.size,
        live := registry.entries.countP fun (_, slot) => registry.countsAsLive slot,
        builds := state.builds }
  else none

def hasEnded (state : State) (name : String) : Bool :=
  match state.reapers.lookup name with
  | some id => state.system.reapers[id]?.all (·.phase = .ended)
  | none => true

def meets (state : State) : Wish → Bool
  | .size count => state.present && state.system.registry.size = count
  | .builds count => state.builds = count
  | .reaperEnded name => state.hasEnded name

end State

def stage : Stage State Call Reply Wish (Option View) where
  begin _ party call state :=
    match call with
    | .operation operation => state.lift (state.system.begin party operation)
    | call =>
        let (state, reply) := state.answer call
        { state, reply := some reply }
  step now party state := (state.system.step now party).map state.lift
  alarm? party state := state.system.alarm? party
  agents state := state.system.reapers.length
  job? _ _ := none
  meets := State.meets
  observe := State.view
  survey state _ := state.view

end Coordination.Simulation.Registries
