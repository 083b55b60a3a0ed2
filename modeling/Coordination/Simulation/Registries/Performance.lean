import Coordination.Simulation.Registries.Stage

/-!
# Scripts of a registry

How the commands on a registry are performed. The factory counts how often it was called, and for some
keys it performs commands of its own before it makes the object, among them further uses of the
registry.
-/

namespace Coordination.Simulation.Registries

open RegistryClient

abbrev Act (α : Type) := Program Call Reply α

/-- Something that is done while the script has the registry, which it keeps alive meanwhile. -/
def withRegistry (act : Act (Ending Empty Result)) : Act (Ending Empty Result) := do
  match ← .perform .isPresent with
  | .flag true =>
      let _ ← operate .own
      let ending ← act
      let _ ← operate .disown
      return ending
  | _ => return .value .noRegistry

def number? (call : Call) : Act (Option Nat) := do
  match ← .perform call with
  | .number value => return value
  | _ => return none

/-- Gives up a reference, if there is one. -/
def release : Option ObjectId → Act Unit
  | some object => do let _ ← operate (.release object)
  | none => return ()

/-- What is answered about an object that was got, and where the reference to it goes. -/
def settle (object : ObjectId) (target : Option String) (compare : Bool) :
    Act (Ending Empty Result) := do
  let content := match ← .perform (.content object) with
    | .content content => content
    | _ => {}
  let same := match ← .perform (.namesOf object) with
    | .names names => names
    | _ => []
  let unused ← match target with
    | some name => number? (.setVariable name (some object))
    | none => pure (some object)
  release unused
  return .value (.object content (if compare then some same else none))

def countOf : RegistrySystem.Reply → Nat
  | .count number => number
  | _ => 0

/-- Performs a command, with a program that gets the object of a key. -/
def performWith (get : String → Act (Ending Empty ObjectId)) : Command → Act (Ending Empty Result)
  | .effect effect => do
      match ← effect.program with
      | .value none => return .value .done
      | .value (some value) => return .value (.number value)
      | .panicked message => return .panicked message
  | .get key target compare => withRegistry do
      match ← get key with
      | .value object => settle object target compare
      | .panicked message => return .panicked message
  | .drop name => do
      let old ← number? (.setVariable name none)
      release old
      return .value (.flag old.isSome)
  | .clone name copy => do
      match ← number? (.held name) with
      | some object =>
          let _ ← operate (.refer object)
          release (← number? (.setVariable copy (some object)))
          return .value .done
      | none => return .value .noVariable
  | .same first second => do
      match ← number? (.held first), ← number? (.held second) with
      | some first, some second => return .value (.flag (first = second))
      | _, _ => return .value .noVariable
  | .purge => withRegistry do return .value (.number (countOf (← operate .purge)))
  | .size => withRegistry do return .value (.number (countOf (← operate .size)))
  | .isEmpty => withRegistry do return .value (.flag (countOf (← operate .size) = 0))
  | .liveCount => withRegistry do return .value (.number (countOf (← operate .liveCount)))
  | .text => withRegistry do return .value (.text (Registry.textOf (countOf (← operate .size))))
  | .spawnReaper name config => withRegistry do
      match config with
      | none => return .value .unreadable
      | some config =>
          match ← operate (.spawnReaper config) with
          | .reaper id =>
              match ← number? (.setReaper name (some id)) with
              | some old => let _ ← operate (.stopReaper old)
              | none => pure ()
              return .value .done
          | .panicked message => return .panicked message
          | _ => return .value .badStep
  | .isReaperRunning name => do
      match ← number? (.reaper? name) with
      | some id =>
          match ← operate (.isReaperRunning id) with
          | .flag value => return .value (.flag value)
          | _ => return .value .badStep
      | none => return .value .nothing
  | .stopReaper name => do
      match ← number? (.setReaper name none) with
      | some id =>
          let _ ← operate (.stopReaper id)
          return .value (.flag true)
      | none => return .value (.flag false)
  | .dropRegistry => do
      match ← .perform .isPresent with
      | .flag true =>
          let _ ← .perform .setAbsent
          let _ ← operate .disown
          return .value (.flag true)
      | _ => return .value (.flag false)
  | .unknown => return .value .badStep

/-- Performs the commands of the factory for a key at some attempt; a panic ends them. -/
def performFactory (get : String → Act (Ending Empty ObjectId)) (key : String) (attempt : Nat) :
    List FactoryCommand → Act (Ending Empty Unit)
  | [] => return .value ()
  | next :: rest => do
      if next.attempts.any (· < attempt) then performFactory get key attempt rest
      else
        match ← performWith get next.command with
        | .value result =>
            let _ ← .perform (.note (.inside key result))
            performFactory get key attempt rest
        | .panicked message => return .panicked message

/-- Builds the object of a key, with a program that gets other objects. -/
def build (factory : Factory) (get : String → Act (Ending Empty ObjectId)) (key : String) :
    Act (Ending Empty Content) :=
  match factory with
  | none => return .value {}
  | some commands => do
      match ← .perform (.countBuild key) with
      | .build number attempt =>
          match ← performFactory get key attempt ((commands.lookup key).getD []) with
          | .value _ => return .value { number, key }
          | .panicked message => return .panicked message
      | _ => return .panicked "no build"

/-- Gets the object of a key. A factory may get objects of other keys, whose factories may do so
again; a thread cannot be at work on a key twice, so this nests as deep as there are keys at most. -/
def getObject (factory : Factory) : Nat → String → Act (Ending Empty ObjectId)
  | 0, _ => return .panicked "too deep"
  | depth + 1, key => RegistryClient.get key (build factory (getObject factory depth) key)

def perform (factory : Factory) (command : Command) : Act (Ending Empty Result) :=
  performWith (getObject factory ((factory.getD []).length + 2)) command

def stepProgram (factory : Factory) (command : Command) : Act Result := do
  match ← perform factory command with
  | .value result => return result
  | .panicked message => return .panicked message

/-- What is done at the end of a script: the variables give up their references, the registry goes,
and the reapers are stopped. -/
def ending : Act Result := do
  match ← .perform .leftovers with
  | .leftovers objects reapers =>
      for object in objects do
        let _ ← operate (.release object)
      let _ ← perform none .dropRegistry
      for reaper in reapers do
        let _ ← operate (.stopReaper reaper)
  | _ => pure ()
  return .done

def initial : State := { system := { registry := { shards := 4, shardOf := String.length } } }

abbrev RegistryScript := Script Call Reply Result Wish

def run (script : RegistryScript) : Account State Result (Option View) :=
  script.perform stage initial

end Coordination.Simulation.Registries
