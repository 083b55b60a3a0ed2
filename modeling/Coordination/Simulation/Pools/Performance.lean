import Coordination.Simulation.Pools.Callbacks

/-!
# Scripts of a pool

The pool as a machine for scripts, and how the commands on it are performed.
-/

namespace Coordination.Simulation.Pools

def stage : Stage State Call Reply Wish View where
  begin now party call state :=
    match call with
    | .operation .clear => (state.sort now party).lift (state.pool.begin now party .clear)
    | .operation operation => state.lift (state.pool.begin now party operation)
    | call =>
        let (state, reply) := state.answer call
        { state, reply := some reply }
  step now party state :=
    if (state.busyUntil? party).any (now < ·) then none
    else (state.pool.step now party).map (state.join now party).lift
  alarm? party state := (state.busyUntil? party).or (state.pool.alarm? party)
  agents state := state.pool.workers.length
  job? party state :=
    match party with
    | .caller _ => none
    | .agent id => ((state.pool.workers[id]?).bind (callback? state)).map running
  meets := State.meets
  looksFor
    | .queue _ => true
    | _ => false
  look := State.look
  observe := State.observe
  survey state _ := state.survey

def operate (operation : PoolSystem.Operation Item Nat) : Act (PoolSystem.Reply Item) := do
  match ← .perform (.operation operation) with
  | .pool reply => return reply
  | _ => return .done

/-- Something that is done while the script has the pool, which it keeps alive meanwhile. -/
def withPool (act : Act Result) : Act Result := do
  match ← .perform .isPresent with
  | .flag true =>
      let _ ← operate .own
      let result ← act
      let _ ← operate .disown
      return result
  | _ => return .noPool

def resultOf : PoolSystem.Reply Item → Result
  | .done => .done
  | .flag value => .flag value
  | .refused error => .refused error
  | .panicked message => .panicked message
  | .items items => .items (items.map (·.id))
  | .report report => .report report
  | .inspected inspection => .text inspection.text

def addAll : List Item → Act Result
  | [] => return .done
  | item :: rest => do
      let _ ← operate (.add item)
      addAll rest

def offerAll : List Item → Act (List Bool)
  | [] => return []
  | item :: rest => do
      let reply ← operate (.offer item)
      return (reply = .flag true) :: (← offerAll rest)

def stepProgram : Command → Act Result
  | .effect effect => do
      match ← effect.program with
      | .value none => return .done
      | .value (some value) => return .number value
      | .panicked message => return .panicked message
  | .start config => withPool do
      match config with
      | some config => return resultOf (← operate (.start config))
      | none => return .unreadable
  | .add items => withPool (addAll items)
  | .offer items => withPool do return .flags (← offerAll items)
  | .clear => withPool do return resultOf (← operate .clear)
  | .wait => withPool do return resultOf (← operate .wait)
  | .interrupt => do return resultOf (← operate .interrupt)
  | .text => withPool do return resultOf (← operate .inspect)
  | .dropPool => do
      match ← .perform .isPresent with
      | .flag true =>
          let _ ← .perform .setAbsent
          let _ ← operate .disown
          return .flag true
      | _ => return .flag false
  | .unknown => return .badStep

/-- Inserts a text at its place, in the order of texts. -/
def insertText (text : String) : List String → List String
  | [] => [text]
  | other :: rest => if text < other then text :: other :: rest else other :: insertText text rest

/-- The events of a script: as they came, or in the order of their texts. -/
def State.shownEvents (state : State) : List String :=
  if state.plan.ordered then state.events
  else state.events.foldl (fun texts text => insertText text texts) []

abbrev PoolScript := Script Call Reply Result Wish

def run (capacity : Option Nat) (plan : Plan) (script : PoolScript) : Account State Result View :=
  script.perform stage { pool := { channel := { capacity } }, plan }

end Coordination.Simulation.Pools
