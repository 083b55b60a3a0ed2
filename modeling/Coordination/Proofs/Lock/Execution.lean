import Coordination.Lock.Section
import Coordination.Proofs.Lock.Retention

/-!
# Threads that run sections

A thread runs a section while the other threads make any moves (`Step`). What a program loads may be
anything, since other threads store what they like, and a callback may use locks in any way, with two
exceptions: it does not know the handles that the section has made for itself, and it does not wait for
a condition of the section's lock (`Place.Permits`).

A run is told by its actions (`Step.unique`). A run of one program after another is a run of the first
one, which may be followed by a run of the second one (`Runs.of_bind`), so a section and its actions are
taken apart along its program.
-/

namespace Coordination.Section

open LockSystem (Operation Reply Stepped)

/-- A call in a section: of the section itself, or of a callback that it runs. -/
inductive Call where
  | own (operation : Operation)
  | callback (operation : Operation)

namespace Call

def operation : Call → Operation
  | .own operation | .callback operation => operation

def isOwn : Call → Bool
  | .own _ => true
  | .callback _ => false

end Call

instance : LockCalls Call Reply := ⟨.own, id⟩

variable {β γ : Type}

/-- A program that a section runs as a callback. -/
def asCallback : Program Operation Reply β → Program Call Reply β
  | .finish result => .finish result
  | .ask operation next => .ask (.callback operation) fun reply => asCallback (next reply)
  | .load cell next => .load cell fun value => asCallback (next value)
  | .store cell value next => .store cell value (asCallback next)
  | .mark name next => .mark name (asCallback next)
  | .pass gate next => .pass gate (asCallback next)
  | .sleep duration next => .sleep duration (asCallback next)

/-- The locks, and the handles that only the section knows. -/
structure Place where
  system : LockSystem
  mine : List HandleId := []

/-- What a thread has to do: a program, or the rest of one after the reply to a call. -/
inductive Task (β : Type) where
  | ready (program : Program Call Reply β)
  | pending (own : Bool) (next : Reply → Program Call Reply β)

structure Config (β : Type) where
  place : Place
  task : Task β

namespace Place

/-- What a callback does not do: it does not use the handles of the section, and it does not wait for a
condition of the lock. -/
def Permits (place : Place) (thread : ThreadId) (lock : LockId) : Call → Prop
  | .own _ => True
  | .callback operation =>
      (∀ id ∈ operation.handle?, id ∉ place.mine) ∧ ¬place.system.WaitsOn thread lock operation

/-- The place after a step of a call. A section keeps the handles that it has made to itself. -/
def after (place : Place) (own : Bool) (stepped : Stepped) : Place where
  system := stepped.state
  mine :=
    match own, stepped.reply with
    | true, some (.handle id) => id :: place.mine
    | _, _ => place.mine

end Place

namespace Task

def answered (own : Bool) (next : Reply → Program Call Reply β) : Option Reply → Task β
  | some reply => .ready (next reply)
  | none => .pending own next

/-- A task has not ended. -/
def Underway (task : Task β) : Prop := ∀ result, task ≠ .ready (.finish result)

def bind (next : β → Program Call Reply γ) : Task β → Task γ
  | .ready program => .ready (program.bind next)
  | .pending own rest => .pending own fun reply => (rest reply).bind next

theorem bind_answered (own : Bool) (rest : Reply → Program Call Reply β)
    (next : β → Program Call Reply γ) (reply : Option Reply) :
    (answered own rest reply).bind next = answered own (fun reply => (rest reply).bind next) reply := by
  cases reply <;> rfl

end Task

def Config.bind (config : Config β) (next : β → Program Call Reply γ) : Config γ :=
  ⟨config.place, config.task.bind next⟩

/-- What tells the steps of a run apart: which thread moves at what time, or what a program loads. -/
inductive Action where
  | turn (now : Instant) (move : LockSystem.Move)
  | load (value : Option Int)
  | pass

/-- A step of a thread that runs a program, or of another thread. -/
inductive Step (thread : ThreadId) (lock : LockId) : Config β → Action → Config β → Prop where
  | other {place : Place} {task : Task β} {now : Instant} {move : LockSystem.Move} {stepped : Stepped}
      (apart : move.thread ≠ thread) (performed : place.system.perform now move = some stepped) :
      Step thread lock ⟨place, task⟩ (.turn now move) ⟨{ place with system := stepped.state }, task⟩
  | begin {place : Place} {call : Call} {next : Reply → Program Call Reply β} {now : Instant}
      {stepped : Stepped} (permitted : place.Permits thread lock call)
      (performed : place.system.perform now (.begin thread call.operation) = some stepped) :
      Step thread lock ⟨place, .ready (.ask call next)⟩ (.turn now (.begin thread call.operation))
        ⟨place.after call.isOwn stepped, .answered call.isOwn next stepped.reply⟩
  | goOn {place : Place} {own : Bool} {next : Reply → Program Call Reply β} {now : Instant}
      {move : LockSystem.Move} {stepped : Stepped} (mine : move.thread = thread)
      (busy : ∀ operation, move ≠ .begin thread operation)
      (performed : place.system.perform now move = some stepped) :
      Step thread lock ⟨place, .pending own next⟩ (.turn now move)
        ⟨place.after own stepped, .answered own next stepped.reply⟩
  | load {place : Place} {cell : String} {next : Option Int → Program Call Reply β}
      (value : Option Int) :
      Step thread lock ⟨place, .ready (.load cell next)⟩ (.load value) ⟨place, .ready (next value)⟩
  | store {place : Place} {cell : String} {value : Int} {next : Program Call Reply β} :
      Step thread lock ⟨place, .ready (.store cell value next)⟩ .pass ⟨place, .ready next⟩
  | mark {place : Place} {name : String} {next : Program Call Reply β} :
      Step thread lock ⟨place, .ready (.mark name next)⟩ .pass ⟨place, .ready next⟩
  | pass {place : Place} {gate : String} {next : Program Call Reply β} :
      Step thread lock ⟨place, .ready (.pass gate next)⟩ .pass ⟨place, .ready next⟩
  | sleep {place : Place} {duration : Duration} {next : Program Call Reply β} :
      Step thread lock ⟨place, .ready (.sleep duration next)⟩ .pass ⟨place, .ready next⟩

/-- The steps from one state to another, with something that holds of the locks in all states. -/
inductive Runs (thread : ThreadId) (lock : LockId) (holds : LockSystem → Prop) (start : Config β) :
    List Action → Config β → Prop where
  | here (held : holds start.place.system) : Runs thread lock holds start [] start
  | step {actions : List Action} {action : Action} {config next : Config β}
      (runs : Runs thread lock holds start actions config) (step : Step thread lock config action next)
      (held : holds next.place.system) : Runs thread lock holds start (actions ++ [action]) next

/-- Nothing in particular. -/
def Anyhow (_ : LockSystem) : Prop := True

def Evaluates (thread : ThreadId) (lock : LockId) (holds : LockSystem → Prop) (start : Place)
    (program : Program Call Reply β) (actions : List Action) (result : β) (final : Place) : Prop :=
  Runs thread lock holds ⟨start, .ready program⟩ actions ⟨final, .ready (.finish result)⟩

variable {thread : ThreadId} {lock : LockId} {holds : LockSystem → Prop} {actions : List Action}

theorem Runs.held {start config : Config β} (runs : Runs thread lock holds start actions config) :
    holds config.place.system := by
  cases runs with
  | here held => exact held
  | step _ _ held => exact held

theorem Runs.kept (keeps : Config β → Prop) {start config : Config β}
    (runs : Runs thread lock holds start actions config) (first : keeps start)
    (kept : ∀ {config next : Config β} {action : Action}, keeps config →
      Step thread lock config action next → keeps next) : keeps config := by
  induction runs with
  | here => exact first
  | step _ step _ ih => exact kept ih step

/-- What holds at first and is kept by all steps holds in all states. -/
theorem Runs.keep (keeps : Config β → Prop) {start config : Config β}
    (runs : Runs thread lock Anyhow start actions config) (first : keeps start)
    (kept : ∀ {config next : Config β} {action : Action}, keeps config →
      Step thread lock config action next → keeps next)
    (held : ∀ {config : Config β}, keeps config → holds config.place.system) :
    Runs thread lock holds start actions config ∧ keeps config := by
  induction runs with
  | here => exact ⟨.here (held first), first⟩
  | step _ step _ ih => exact ⟨ih.1.step step (held (kept ih.2 step)), kept ih.2 step⟩

theorem Step.unique {config next other : Config β} {action : Action}
    (step : Step thread lock config action next) (also : Step thread lock config action other) :
    other = next := by
  cases step with
  | other apart performed =>
      cases also with
      | other _ performed' => cases performed.symm.trans performed'; rfl
      | begin | goOn => contradiction
  | begin permitted performed =>
      cases also with
      | other apart => exact absurd rfl apart
      | begin _ performed' => cases performed.symm.trans performed'; rfl
  | goOn mine busy performed =>
      cases also with
      | other apart => exact absurd mine apart
      | goOn _ _ performed' => cases performed.symm.trans performed'; rfl
  | load | store | mark | pass | sleep =>
      cases also
      rfl

/-- A step of a program with something to follow is a step of the program, unless it has ended. -/
theorem Step.of_bind {config : Config β} {action : Action} {after : Config γ}
    {next : β → Program Call Reply γ} (step : Step thread lock (config.bind next) action after) :
    (∃ result, config.task = .ready (.finish result)) ∨
      ∃ inner, Step thread lock config action inner ∧ after = inner.bind next := by
  rcases config with ⟨place, task⟩
  cases task with
  | pending own rest =>
      refine Or.inr ?_
      cases step with
      | other apart performed => exact ⟨_, .other apart performed, rfl⟩
      | goOn mine busy performed =>
          exact ⟨_, .goOn mine busy performed, by rw [Config.bind, Task.bind_answered]⟩
  | ready program =>
      cases program with
      | finish result => exact Or.inl ⟨result, rfl⟩
      | ask call rest =>
          refine Or.inr ?_
          cases step with
          | other apart performed => exact ⟨_, .other apart performed, rfl⟩
          | begin permitted performed =>
              exact ⟨_, .begin permitted performed, by rw [Config.bind, Task.bind_answered]⟩
      | load cell rest =>
          refine Or.inr ?_
          cases step with
          | other apart performed => exact ⟨_, .other apart performed, rfl⟩
          | load value => exact ⟨_, .load value, rfl⟩
      | store cell value rest =>
          refine Or.inr ?_
          cases step with
          | other apart performed => exact ⟨_, .other apart performed, rfl⟩
          | store => exact ⟨_, .store, rfl⟩
      | mark name rest =>
          refine Or.inr ?_
          cases step with
          | other apart performed => exact ⟨_, .other apart performed, rfl⟩
          | mark => exact ⟨_, .mark, rfl⟩
      | pass gate rest =>
          refine Or.inr ?_
          cases step with
          | other apart performed => exact ⟨_, .other apart performed, rfl⟩
          | pass => exact ⟨_, .pass, rfl⟩
      | sleep duration rest =>
          refine Or.inr ?_
          cases step with
          | other apart performed => exact ⟨_, .other apart performed, rfl⟩
          | sleep => exact ⟨_, .sleep, rfl⟩

theorem Task.Underway.bind {task : Task β} (underway : task.Underway)
    (next : β → Program Call Reply γ) : (task.bind next).Underway := by
  intro result ended
  cases task with
  | pending own rest => cases ended
  | ready program =>
      cases program with
      | finish value => exact underway value rfl
      | _ => cases ended

theorem Task.underway_or_ended (task : Task β) :
    task.Underway ∨ ∃ result, task = .ready (.finish result) := by
  by_cases ended : ∃ result, task = .ready (.finish result)
  · exact Or.inr ended
  · exact Or.inl fun result same => ended ⟨result, same⟩

/-- A run of one program after another: the first one has not ended, or it has, and the run goes on with
the second one. -/
theorem Runs.of_bind {start : Place} {program : Program Call Reply β}
    {next : β → Program Call Reply γ} {config : Config γ}
    (runs : Runs thread lock holds ⟨start, .ready (program.bind next)⟩ actions config) :
    (∃ inner, Runs thread lock holds ⟨start, .ready program⟩ actions inner ∧ inner.task.Underway ∧
      config = inner.bind next) ∨
      ∃ before after result middle, actions = before ++ after ∧
        Evaluates thread lock holds start program before result middle ∧
        Runs thread lock holds ⟨middle, .ready (next result)⟩ after config := by
  have sort {actions : List Action} {inner : Config β}
      (first : Runs thread lock holds ⟨start, .ready program⟩ actions inner) :
      (∃ inner', Runs thread lock holds ⟨start, .ready program⟩ actions inner' ∧ inner'.task.Underway ∧
        inner.bind next = inner'.bind next) ∨
        ∃ before after result middle, actions = before ++ after ∧
          Evaluates thread lock holds start program before result middle ∧
          Runs thread lock holds ⟨middle, .ready (next result)⟩ after (inner.bind next) := by
    rcases inner with ⟨place, task⟩
    rcases task.underway_or_ended with underway | ⟨result, rfl⟩
    · exact Or.inl ⟨_, first, underway, rfl⟩
    · exact Or.inr ⟨actions, [], result, place, (List.append_nil actions).symm, first, .here first.held⟩
  -- Until the first program has ended, a step of the whole is one of its steps, and it may end with it.
  induction runs with
  | here held => exact sort (.here held)
  | @step actions action config after _ step held ih =>
      rcases ih with ⟨inner, first, underway, rfl⟩ | ⟨before, later, result, middle, rfl, first, second⟩
      · rcases step.of_bind with ⟨result, ended⟩ | ⟨stepped, inside, rfl⟩
        · exact absurd ended (underway result)
        · exact sort (first.step inside held)
      · exact Or.inr ⟨before, later ++ [action], result, middle, List.append_assoc _ _ _, first,
          second.step step held⟩

/-- A step of a program is a step of the program with something to follow. -/
theorem Step.bind {config after : Config β} {action : Action}
    (step : Step thread lock config action after) (next : β → Program Call Reply γ) :
    Step thread lock (config.bind next) action (after.bind next) := by
  cases step with
  | other apart performed => exact .other apart performed
  | begin permitted performed =>
      simp only [Config.bind, Task.bind_answered]
      exact .begin permitted performed
  | goOn mine busy performed =>
      simp only [Config.bind, Task.bind_answered]
      exact .goOn mine busy performed
  | load value => exact .load value
  | store => exact .store
  | mark => exact .mark
  | pass => exact .pass
  | sleep => exact .sleep

theorem Runs.bind {start config : Config β} (runs : Runs thread lock holds start actions config)
    (next : β → Program Call Reply γ) :
    Runs thread lock holds (start.bind next) actions (config.bind next) := by
  induction runs with
  | here held => exact .here held
  | step _ step held ih => exact ih.step (step.bind next) held

theorem Runs.trans {start middle config : Config β} {later : List Action}
    (first : Runs thread lock holds start actions middle)
    (second : Runs thread lock holds middle later config) :
    Runs thread lock holds start (actions ++ later) config := by
  induction second with
  | here => rwa [List.append_nil]
  | step _ step held ih =>
      rw [← List.append_assoc]
      exact ih.step step held

/-- A run of one program and then of another. -/
theorem Evaluates.of_bind {start final : Place} {program : Program Call Reply β}
    {next : β → Program Call Reply γ} {result : γ}
    (evaluates : Evaluates thread lock holds start (program.bind next) actions result final) :
    ∃ before after value middle, actions = before ++ after ∧
      Evaluates thread lock holds start program before value middle ∧
      Evaluates thread lock holds middle (next value) after result final := by
  rcases Runs.of_bind evaluates with
    ⟨inner, _, underway, same⟩ | ⟨before, after, value, middle, same, first, rest⟩
  · have ended : (inner.task.bind next) = .ready (.finish result) := (congrArg Config.task same).symm
    exact absurd ended (underway.bind next result)
  · exact ⟨before, after, value, middle, same, first, rest⟩

/-- What follows on a program may be replaced by something that goes on in the same way. -/
theorem Evaluates.congr_bind {start final : Place} {program : Program Call Reply β}
    {next other : β → Program Call Reply γ} {result : γ}
    (evaluates : Evaluates thread lock holds start (program.bind next) actions result final)
    (same : ∀ {before after value middle}, Evaluates thread lock holds start program before value middle →
      Evaluates thread lock holds middle (next value) after result final →
      Evaluates thread lock holds middle (other value) after result final) :
    Evaluates thread lock holds start (program.bind other) actions result final := by
  rcases evaluates.of_bind with ⟨before, after, value, middle, rfl, first, rest⟩
  exact (Runs.bind first other).trans (same first rest)

theorem Evaluates.eq_of_finish {start final : Place} {value result : β}
    (evaluates : Evaluates thread lock holds start (.finish value) actions result final) :
    result = value := by
  have kept := evaluates.kept (fun config => config.task = .ready (.finish value)) rfl ?_
  · cases kept
    rfl
  · rintro ⟨place, task⟩ next action rfl step
    cases step
    rfl

section Executing

variable (thread : ThreadId)

/-- The step that an action tells of a thread that runs its own calls, if the thread can take it. -/
def Config.next? (config : Config β) : Action → Option (Config β)
  | .turn now (.begin taker operation) =>
      match config.task with
      | .ready (.ask (.own asked) next) =>
          if taker = thread ∧ asked = operation then
            (config.place.system.perform now (.begin thread asked)).map fun stepped =>
              ⟨config.place.after true stepped, .answered true next stepped.reply⟩
          else none
      | _ => none
  | .turn now (.proceed taker) =>
      match config.task with
      | .pending own next =>
          if taker = thread then
            (config.place.system.perform now (.proceed thread)).map fun stepped =>
              ⟨config.place.after own stepped, .answered own next stepped.reply⟩
          else none
      | _ => none
  | .turn _ _ => none
  | .load value =>
      match config.task with
      | .ready (.load _ next) => some ⟨config.place, .ready (next value)⟩
      | _ => none
  | .pass =>
      match config.task with
      | .ready (.store _ _ next) | .ready (.mark _ next) | .ready (.pass _ next)
      | .ready (.sleep _ next) => some ⟨config.place, .ready next⟩
      | _ => none

/-- The steps that a list of actions tells. -/
def Config.execute? (config : Config β) : List Action → Option (Config β)
  | [] => some config
  | action :: rest => (config.next? thread action).bind fun next => next.execute? rest

variable {thread}

theorem Step.of_next? {config next : Config β} {action : Action}
    (steps : config.next? thread action = some next) : Step thread lock config action next := by
  rcases config with ⟨place, task⟩
  cases action with
  | load value =>
      simp only [Config.next?] at steps
      split at steps <;> cases steps
      exact .load value
  | pass =>
      simp only [Config.next?] at steps
      split at steps <;> cases steps
      · exact .store
      · exact .mark
      · exact .pass
      · exact .sleep
  | turn now move =>
      cases move with
      | wake taker | expire taker => cases steps
      | begin taker operation =>
          simp only [Config.next?] at steps
          split at steps
          · split at steps
            · rename_i mine
              rcases mine with ⟨rfl, rfl⟩
              rcases Option.map_eq_some_iff.mp steps with ⟨stepped, performed, rfl⟩
              exact .begin trivial performed
            · cases steps
          · cases steps
      | proceed taker =>
          simp only [Config.next?] at steps
          split at steps
          · split at steps
            · rename_i mine
              cases mine
              rcases Option.map_eq_some_iff.mp steps with ⟨stepped, performed, rfl⟩
              exact .goOn rfl (by simp) performed
            · cases steps
          · cases steps

theorem Runs.of_execute? {config final : Config β}
    (executes : config.execute? thread actions = some final) :
    Runs thread lock Anyhow config actions final := by
  induction actions generalizing config with
  | nil =>
      cases executes
      exact .here trivial
  | cons action rest ih =>
      rcases Option.bind_eq_some_iff.mp executes with ⟨next, first, later⟩
      exact Runs.trans ((Runs.here trivial).step (.of_next? first) trivial) (ih later)

end Executing

end Coordination.Section
