import Coordination.Simulation.World

/-!
# Scripts

A script starts programs on numbered threads. A step ends when its program has ended, unless it runs
in the background: then the script goes on as soon as a demand is met, and the result is collected by
a later step. What can be seen of the machine is noted after every step after which no result is
left to be collected.
-/

namespace Coordination.Simulation

/-- A machine that scripts can be written for. -/
structure Stage (σ κ ρ δ ω : Type) extends Machine σ κ ρ where
  /-- Whether a demand on the state of the machine is met. -/
  meets : σ → δ → Bool
  /-- Whether one has to look at the machine to see if a demand is met. -/
  looksFor : δ → Bool := fun _ => false
  /-- The state of the machine after somebody has looked at it. -/
  look : σ → σ := id
  /-- What is noted after a step. -/
  observe : σ → ω
  /-- What a survey shows while some threads are busy. -/
  survey : σ → List ThreadId → ω

/-- What has to hold before a script goes on. -/
structure Demand (δ : Type) where
  /-- A number of parties at a gate. -/
  gate : Option (String × Nat) := none
  marks : Option Nat := none
  /-- What has to hold of the machine, in the order in which it is tested. -/
  machine : List δ := []

/-- How a step in the background is waited for. -/
structure Background (δ : Type) where
  delay : Duration := ⟨0⟩
  demand : Demand δ := {}

/-- A step of a script. -/
inductive Step (κ ρ α δ : Type) where
  /-- Collects the result of a thread. -/
  | await (thread : ThreadId)
  /-- Collects the result of a thread if there is one within some time. -/
  | still (thread : ThreadId) (patience : Duration)
  | openGate (gate : String)
  | sleep (duration : Duration)
  /-- Waits until a demand is met, for some time at most. -/
  | wait (demand : Demand δ) (patience : Duration)
  | survey
  | run (thread : ThreadId) (program : Program κ ρ α) (background : Option (Background δ))

/-- The answer to a step. -/
inductive Answer (α ω : Type) where
  | done
  | met (value : Bool)
  | pending
  | refused
  | survey (view : ω)
  /-- A result, with what its thread has logged. -/
  | result (value : α) (log : List Log.Entry)

/-- A script with its setting. -/
structure Script (κ ρ α δ : Type) where
  threads : Nat := 1
  cells : List (String × Int) := []
  steps : List (Step κ ρ α δ)
  /-- What every thread does at the end. -/
  closing : Program κ ρ α
  /-- What is done when all threads have come to their end. -/
  ending : Program κ ρ α

/-- The answer to a step, and what is noted after it. -/
structure Row (α ω : Type) where
  answer : Answer α ω
  view : Option ω

/-- What a script has shown. -/
structure Account (σ α ω : Type) where
  rows : List (Row α ω)
  scene : Scene
  /-- What the parties of the machine have logged. -/
  log : List Log.Entry
  /-- The state of the machine after the threads have come to their end. -/
  final : σ

namespace World

variable {σ κ ρ α δ ω : Type}

def busy (world : World σ κ ρ α) (threads : Nat) : List ThreadId :=
  (List.range threads).filter fun thread => !(world.task (.caller thread)).isFree

/-- Whether the part of a demand is met that is about the scene. -/
def meetsScene (world : World σ κ ρ α) (demand : Demand δ) : Bool :=
  demand.gate.all (fun (gate, count) => count ≤ world.countAtGate gate)
    && demand.marks.all (· = world.scene.marks.length)

def meets (stage : Stage σ κ ρ δ ω) (world : World σ κ ρ α) (demand : Demand δ) : Bool :=
  world.meetsScene demand && demand.machine.all (stage.meets world.state)

def hasResult (thread : ThreadId) (world : World σ κ ρ α) : Bool :=
  (world.task (.caller thread)).result?.isSome

/-- Collects the result of a thread, with what it has logged since the last time. -/
def collect (world : World σ κ ρ α) (thread : ThreadId) : World σ κ ρ α × Answer α ω :=
  match (world.task (.caller thread)).result? with
  | some result =>
      let own := world.log.filter (·.1 = Party.caller thread)
      ({ world with log := world.log.filter (·.1 ≠ Party.caller thread) }.setTask (.caller thread) .free,
        .result result (own.map (·.2)))
  | none => (world, .pending)

/-- The state of the machine after a look for a demand. Nobody looks before all that is tested earlier
holds. -/
def lookFor (stage : Stage σ κ ρ δ ω) (demand : Demand δ) (world : World σ κ ρ α) : σ :=
  let (before, rest) := demand.machine.span fun wish => !stage.looksFor wish
  if world.meetsScene demand && before.all (stage.meets world.state) && !rest.isEmpty then
    stage.look world.state
  else world.state

/-- Waits for the result of a thread and collects it, unless a deadline is over before. -/
def waitFor [Inhabited α] (stage : Stage σ κ ρ δ ω) (threads : Nat) (world : World σ κ ρ α)
    (thread : ThreadId) (deadline : Option Instant) : World σ κ ρ α × Answer α ω :=
  if thread ∈ world.busy threads then
    (world.runFor stage.toMachine (hasResult thread) deadline).collect thread
  else (world, .refused)

/-- Waits until the program of a thread has ended or a demand is met, and collects the result. -/
def waitBeside [Inhabited α] (stage : Stage σ κ ρ δ ω) (world : World σ κ ρ α)
    (thread : ThreadId) (background : Background δ) : World σ κ ρ α × Answer α ω :=
  let world := world.runFor stage.toMachine (fun _ => false)
    (some (background.delay.after world.now))
  let look (world : World σ κ ρ α) : σ :=
    if hasResult thread world then world.state else lookFor stage background.demand world
  let reached (world : World σ κ ρ α) : Bool :=
    hasResult thread world || world.meets stage background.demand
  (world.runUntil stage.toMachine look reached none patience).collect thread

def perform [Inhabited α] (stage : Stage σ κ ρ δ ω) (threads : Nat) (world : World σ κ ρ α) :
    Step κ ρ α δ → World σ κ ρ α × Answer α ω
  | .await thread => world.waitFor stage threads thread none
  | .still thread patience => world.waitFor stage threads thread (some (patience.after world.now))
  | .openGate gate => ((world.openGate gate).runAll stage.toMachine patience, .done)
  | .sleep duration =>
      (world.runFor stage.toMachine (fun _ => false) (some (duration.after world.now)), .done)
  | .wait demand patience =>
      let world := world.runUntil stage.toMachine (lookFor stage demand) (·.meets stage demand)
        (some (patience.after world.now)) World.patience
      (world, .met (world.meets stage demand))
  | .survey =>
      let world := { world with state := stage.look world.state }
      (world.runAll stage.toMachine patience,
        .survey (stage.survey world.state (world.busy threads)))
  | .run thread program background? =>
      if thread < threads ∧ thread ∉ world.busy threads then
        let world := world.start (.caller thread) program
        match background? with
        | none => world.waitFor stage threads thread none
        | some background => world.waitBeside stage thread background
      else (world, .refused)

def performAll [Inhabited α] (stage : Stage σ κ ρ δ ω) (threads : Nat) (world : World σ κ ρ α) :
    List (Step κ ρ α δ) → World σ κ ρ α × List (Row α ω)
  | [] => (world, [])
  | step :: rest =>
      let (world, answer) := world.perform stage threads step
      let view := if (world.busy threads).isEmpty then some (stage.observe world.state) else none
      let (world, rows) := world.performAll stage threads rest
      (world, ⟨answer, view⟩ :: rows)

def close (world : World σ κ ρ α) (closing : Program κ ρ α) (thread : ThreadId) : World σ κ ρ α :=
  let next (program : Program κ ρ α) : Program κ ρ α := program.bind fun _ => closing
  let task : Task κ ρ α := match world.task (.caller thread) with
    | .free => .running closing
    | .finished _ => .running closing
    | .running program => .running (next program)
    | .calling rest => .calling fun reply => next (rest reply)
    | .atGate gate rest => .atGate gate (next rest)
    | .asleep instant rest => .asleep instant (next rest)
  world.setTask (.caller thread) task

end World

def Script.perform {σ κ ρ α δ ω : Type} [Inhabited α] (stage : Stage σ κ ρ δ ω)
    (script : Script κ ρ α δ) (initial : σ) : Account σ α ω :=
  let threads := List.range script.threads
  let world : World σ κ ρ α :=
    { state := initial, scene := { cells := script.cells },
      seats := threads.map fun thread => (.caller thread, .free) }
  let (world, rows) := world.performAll stage script.threads script.steps
  let world := threads.foldl (·.close script.closing ·) world.openAll
  let world := world.runFor stage.toMachine (fun world => threads.all (World.hasResult · world)) none
  let world := (world.start (.caller script.threads) script.ending).runFor stage.toMachine
    (World.hasResult script.threads) none
  let own := world.log.filter fun (party, _) =>
    match party with
    | .caller _ => false
    | .agent _ => true
  { rows, scene := world.scene, log := own.map (·.2), final := world.state }

end Coordination.Simulation
