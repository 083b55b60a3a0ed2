import Coordination.Program
import Coordination.Progress

/-!
# Simulated threads

Threads run programs on a machine, one at a time and each as far as it gets, those first that have
stood still for longest. Time does not pass while anybody can move; when nobody can, it jumps to the
next instant at which a sleeper or a parked thread wakes up by itself. So a simulation has one course
only.

Besides the machine the threads share a scene: cells with integers, a list of marks, and gates, which
stay open once they have been opened.
-/

namespace Coordination.Simulation

/-- A machine that can be simulated. -/
structure Machine (σ κ ρ : Type) where
  /-- A party begins an operation. -/
  begin : Instant → Party → κ → σ → Progress σ ρ
  /-- The next step of a party in the middle of an operation, or of the machine's own accord. -/
  step : Instant → Party → σ → Option (Progress σ ρ)
  /-- When a party that stands still wakes up by itself. -/
  alarm? : Party → σ → Option Instant
  /-- How many parties the machine has begun to run itself. -/
  agents : σ → Nat
  /-- What the machine wants one of its own parties to do. -/
  job? : Party → σ → Option (Program κ ρ Unit)

/-- What threads share besides the machine. -/
structure Scene where
  opened : List String := []
  /-- Whether every gate is open. -/
  allOpen : Bool := false
  marks : List String := []
  cells : List (String × Int) := []
deriving Repr, Inhabited

namespace Scene

/-- The integer in a cell, if one was stored there. -/
def cell? (scene : Scene) (name : String) : Option Int := scene.cells.lookup name

def isOpen (scene : Scene) (gate : String) : Bool := scene.allOpen || gate ∈ scene.opened

def setCell (scene : Scene) (name : String) (value : Int) : Scene :=
  { scene with cells := (name, value) :: scene.cells.filter (·.1 ≠ name) }

end Scene

/-- Where a party is in what it does. -/
inductive Task (κ ρ α : Type) where
  | free
  | running (program : Program κ ρ α)
  /-- It is in the middle of an operation of the machine. -/
  | calling (next : ρ → Program κ ρ α)
  | atGate (gate : String) (next : Program κ ρ α)
  | asleep (instant : Instant) (next : Program κ ρ α)
  | finished (result : α)

namespace Task

variable {κ ρ α : Type}

def isFree : Task κ ρ α → Bool
  | .free => true
  | _ => false

/-- The result, if there is one. -/
def result? : Task κ ρ α → Option α
  | .finished result => some result
  | _ => none

def isAtGate (gate : String) : Task κ ρ α → Bool
  | .atGate name _ => name = gate
  | _ => false

end Task

/-- A simulated world. The seats are in the order in which the parties came to a stand. -/
structure World (σ κ ρ α : Type) where
  now : Instant := 0
  scene : Scene := {}
  state : σ
  seats : List (Party × Task κ ρ α)
  /-- How many of the parties of the machine have seats. -/
  seated : Nat := 0
  /-- What every party has logged, the newest entry of all last. -/
  log : List (Party × Log.Entry) := []

namespace World

variable {σ κ ρ α : Type}

def task (world : World σ κ ρ α) (party : Party) : Task κ ρ α :=
  (world.seats.lookup party).getD .free

def setTask (world : World σ κ ρ α) (party : Party) (task : Task κ ρ α) : World σ κ ρ α :=
  { world with seats := world.seats.map fun seat => if seat.1 = party then (party, task) else seat }

/-- Moves a party to the end of the order. -/
def rotate (world : World σ κ ρ α) (party : Party) : World σ κ ρ α :=
  { world with
    seats := world.seats.filter (·.1 ≠ party) ++ world.seats.filter (·.1 = party) }

/-- Gives a party something to do and moves it to the beginning of the order. -/
def start (world : World σ κ ρ α) (party : Party) (program : Program κ ρ α) : World σ κ ρ α :=
  { world with seats := (party, .running program) :: world.seats.filter (·.1 ≠ party) }

/-- Takes over what a step of the machine has led to. -/
def absorb (world : World σ κ ρ α) (party : Party) (progress : Progress σ ρ) : World σ κ ρ α :=
  { world with
    state := progress.state, log := world.log ++ progress.log.map fun entry => (party, entry) }

def answered (world : World σ κ ρ α) (party : Party) (next : ρ → Program κ ρ α)
    (progress : Progress σ ρ) : World σ κ ρ α :=
  let task := match progress.reply with
    | some reply => .running (next reply)
    | none => .calling next
  (world.absorb party progress).setTask party task

def execute (machine : Machine σ κ ρ) (world : World σ κ ρ α) (party : Party) :
    Program κ ρ α → World σ κ ρ α
  | .finish result =>
      world.setTask party (match party with
        | .caller _ => .finished result
        | .agent _ => .free)
  | .ask operation next =>
      world.answered party next (machine.begin world.now party operation world.state)
  | .load cell next => world.setTask party (.running (next (world.scene.cell? cell)))
  | .store cell value next =>
      { world with scene := world.scene.setCell cell value }.setTask party (.running next)
  | .mark name next =>
      { world with scene := { world.scene with marks := world.scene.marks ++ [name] } }.setTask
        party (.running next)
  | .pass gate next => world.setTask party (.atGate gate next)
  | .sleep duration next => world.setTask party (.asleep (duration.after world.now) next)

/-- The next step of a party, unless it stands still. -/
def advance? [Inhabited α] (machine : Machine σ κ ρ) (world : World σ κ ρ α) (party : Party) :
    Option (World σ κ ρ α) :=
  match world.task party with
  | .running program => some (world.execute machine party program)
  | .calling next =>
      (machine.step world.now party world.state).map (world.answered party next)
  | .atGate gate next =>
      if world.scene.isOpen gate then some (world.setTask party (.running next)) else none
  | .asleep instant next =>
      if instant ≤ world.now then some (world.setTask party (.running next)) else none
  | .finished _ => none
  | .free =>
      match party with
      | .caller _ => none
      | .agent _ =>
          match machine.job? party world.state with
          | some program =>
              some (world.setTask party (.running (program.bind fun _ => .finish default)))
          | none => (machine.step world.now party world.state).map (world.absorb party)

def seatAgents (machine : Machine σ κ ρ) (world : World σ κ ρ α) : World σ κ ρ α :=
  let count := machine.agents world.state
  let added := List.range' world.seated (count - world.seated)
  { world with
    seated := world.seated + added.length,
    seats := world.seats ++ added.map fun id => (.agent id, .free) }

/-- How many steps a simulation makes before it is given up. -/
def patience : Nat := 100000000

/-- Lets a party run until it stands still. -/
def runOne [Inhabited α] (machine : Machine σ κ ρ) :
    Nat → World σ κ ρ α → Party → World σ κ ρ α
  | 0, world, _ => world
  | fuel + 1, world, party =>
      match world.advance? machine party with
      | some next => runOne machine fuel next party
      | none => world

/-- Lets the parties run until all of them stand still. -/
def runAll [Inhabited α] (machine : Machine σ κ ρ) : Nat → World σ κ ρ α → World σ κ ρ α
  | 0, world => world
  | fuel + 1, world =>
      let world := world.seatAgents machine
      match world.seats.find? fun (party, _) => (world.advance? machine party).isSome with
      | some (party, _) =>
          runAll machine fuel ((runOne machine patience world party).rotate party)
      | none => world

/-- When a party wakes up by itself. -/
def alarm? (machine : Machine σ κ ρ) (world : World σ κ ρ α) (party : Party) : Option Instant :=
  match world.task party with
  | .asleep instant _ => some instant
  | .calling _ => machine.alarm? party world.state
  | .free =>
      match party with
      | .caller _ => none
      | .agent _ => machine.alarm? party world.state
  | _ => none

/-- The earlier one of two instants, if there are any. -/
def earlier? : Option Instant → Option Instant → Option Instant
  | some first, some second => some (min first second)
  | some first, none => some first
  | none, second => second

/-- The next instant at which anybody wakes up by himself. -/
def nextAlarm? (machine : Machine σ κ ρ) (world : World σ κ ρ α) : Option Instant :=
  world.seats.foldl (fun next seat => earlier? next (world.alarm? machine seat.1)) none

/-- The shortest time that passes. -/
def grain : Duration := ⟨100000⟩

/-- Lets time pass until a state of the world is reached or a deadline is over. Somebody may have to
look at the machine to see what state it is in, and that may change it. -/
def runUntil [Inhabited α] (machine : Machine σ κ ρ) (look : World σ κ ρ α → σ)
    (reached : World σ κ ρ α → Bool) (deadline : Option Instant) :
    Nat → World σ κ ρ α → World σ κ ρ α
  | 0, world => world
  | fuel + 1, world =>
      let world := world.runAll machine patience
      let world := { world with state := look world }.runAll machine patience
      if reached world then world
      else if deadline.any (· ≤ world.now) then world
      else
        match earlier? (world.nextAlarm? machine) deadline with
        | none => world
        | some instant =>
            let now := max instant (grain.after world.now)
            runUntil machine look reached deadline fuel { world with now }

/-- Lets time pass, until a deadline at most. -/
def runFor [Inhabited α] (machine : Machine σ κ ρ) (reached : World σ κ ρ α → Bool)
    (deadline : Option Instant) (world : World σ κ ρ α) : World σ κ ρ α :=
  world.runUntil machine (·.state) reached deadline patience

def openGate (world : World σ κ ρ α) (gate : String) : World σ κ ρ α :=
  { world with scene := { world.scene with opened := gate :: world.scene.opened } }

def countAtGate (world : World σ κ ρ α) (gate : String) : Nat :=
  world.seats.countP fun seat => seat.2.isAtGate gate

def openAll (world : World σ κ ρ α) : World σ κ ρ α :=
  { world with scene := { world.scene with allOpen := true } }

end World

end Coordination.Simulation
