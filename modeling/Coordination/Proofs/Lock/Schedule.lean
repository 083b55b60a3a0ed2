import Coordination.Lock.System

/-!
# Schedules

A schedule lets the threads of a system of locks take their steps in any order and at any instants.
A run starts from a system in which nothing has happened yet, and every state of a run is reachable.
Nothing is assumed of a schedule: a parked thread may wake up without having been notified, and the
instants need not grow.
-/

namespace Coordination

namespace Table

variable {κ α : Type} [DecidableEq κ] [Inhabited α]

@[simp]
theorem get_modify (table : Table κ α) (changed key : κ) (change : α → α) :
    (table.modify changed change).get key
      = if changed = key then change (table.get changed) else table.get key :=
  get_set table changed key _

end Table

namespace LockSystem

/-- What a thread is in the middle of. -/
def activity (system : LockSystem) (thread : ThreadId) : Activity :=
  (system.threads.get thread).activity

/-- A system in which nothing has happened yet. Its locks may have any settings. -/
structure Fresh (system : LockSystem) : Prop where
  book : ∀ id, (system.locks.get id).book = {}
  waiters : ∀ id, (system.locks.get id).waiters = []
  conditions : ∀ name, system.conditions.get name = {}
  threads : ∀ thread, system.threads.get thread = {}

/-- A choice of a schedule. -/
inductive Move where
  | begin (thread : ThreadId) (operation : Operation)
  | proceed (thread : ThreadId)
  | wake (thread : ThreadId)
  | expire (thread : ThreadId)
deriving DecidableEq, Repr

/-- The thread that makes a move. -/
def Move.thread : Move → ThreadId
  | .begin thread _ | .proceed thread | .wake thread | .expire thread => thread

/-- The step of a move, if the thread can make it now. Only an idle thread begins an operation. -/
def perform (system : LockSystem) (now : Instant) : Move → Option Stepped
  | .begin thread operation =>
      if system.activity thread = .idle then some (system.begin now thread operation) else none
  | .proceed thread => system.proceed now thread
  | .wake thread => system.wake now thread
  | .expire thread => system.expire now thread

/-- What a run remembers of a step. -/
structure Event where
  thread : ThreadId
  /-- What the thread was in the middle of before the step. -/
  before : Activity
  reply : Option Reply
deriving DecidableEq, Repr

/-- The runs from a system in which nothing has happened yet, with their events, the latest first.
-/
inductive Run : List Event → LockSystem → Prop where
  | fresh {system : LockSystem} (fresh : system.Fresh) : Run [] system
  | step {events : List Event} {system : LockSystem} {now : Instant} {move : Move}
      {stepped : Stepped} (run : Run events system)
      (performed : system.perform now move = some stepped) :
      Run (⟨move.thread, system.activity move.thread, stepped.reply⟩ :: events) stepped.state

/-- A state of some run. -/
def Reachable (system : LockSystem) : Prop := ∃ events, Run events system

/-- What holds at the start of every run and is kept by every step holds in every reachable state.
-/
theorem Reachable.induction {motive : LockSystem → Prop} {system : LockSystem}
    (reachable : system.Reachable) (start : ∀ {system : LockSystem}, system.Fresh → motive system)
    (kept : ∀ {system : LockSystem} {now : Instant} {move : Move} {stepped : Stepped},
      motive system → system.perform now move = some stepped → motive stepped.state) :
    motive system := by
  rcases reachable with ⟨events, run⟩
  induction run with
  | fresh fresh => exact start fresh
  | step _ performed ih => exact kept ih performed

/-- The state to which a list of moves leads. A move that its thread cannot make is left out. -/
def follow (system : LockSystem) : List (Instant × Move) → LockSystem
  | [] => system
  | (now, move) :: rest =>
      match system.perform now move with
      | some stepped => follow stepped.state rest
      | none => follow system rest

/-- The events on the way, the latest first, after those that there are already. -/
def history (events : List Event) (system : LockSystem) : List (Instant × Move) → List Event
  | [] => events
  | (now, move) :: rest =>
      match system.perform now move with
      | some stepped =>
          history (⟨move.thread, system.activity move.thread, stepped.reply⟩ :: events)
            stepped.state rest
      | none => history events system rest

theorem Run.follow {events : List Event} {system : LockSystem} (run : Run events system)
    (moves : List (Instant × Move)) : Run (history events system moves) (system.follow moves) := by
  induction moves generalizing events system with
  | nil => exact run
  | cons move rest ih =>
      simp only [history, LockSystem.follow]
      cases performed : system.perform move.1 move.2 with
      | some stepped => exact ih (.step run performed)
      | none => exact ih run

theorem run_empty : Run [] {} :=
  .fresh ⟨fun _ => rfl, fun _ => rfl, fun _ => rfl, fun _ => rfl⟩

/-- A thread holds a lock, and two others wait for it. -/
def contended : LockSystem :=
  follow {}
    [(0, .begin 0 (.exclusive 0 none)), (0, .proceed 0), (1, .begin 0 (.shared 0 none)),
      (1, .proceed 0), (2, .begin 1 (.shared 0 none)), (2, .proceed 1),
      (3, .begin 2 (.exclusive 0 (some ⟨5⟩))), (3, .proceed 2)]

theorem reachable_contended : contended.Reachable := ⟨_, run_empty.follow _⟩

section Storing

variable (system : LockSystem) (thread other : ThreadId) (place id : LockId)

@[simp]
theorem get_locks_setLock (lock : Lock) :
    (system.setLock place lock).locks.get id
      = if place = id then lock else system.locks.get id :=
  Table.get_set _ _ _ _

@[simp]
theorem threads_setLock (lock : Lock) : (system.setLock place lock).threads = system.threads := rfl

@[simp]
theorem nextHandle_setLock (lock : Lock) :
    (system.setLock place lock).nextHandle = system.nextHandle := rfl

@[simp]
theorem locks_setCondition (name : String) (condition : Condition) :
    (system.setCondition name condition).locks = system.locks := rfl

@[simp]
theorem threads_setCondition (name : String) (condition : Condition) :
    (system.setCondition name condition).threads = system.threads := rfl

@[simp]
theorem nextHandle_setCondition (name : String) (condition : Condition) :
    (system.setCondition name condition).nextHandle = system.nextHandle := rfl

@[simp]
theorem locks_turnTo (activity : Activity) :
    (system.turnTo thread activity).locks = system.locks := rfl

@[simp]
theorem get_threads_turnTo (activity : Activity) :
    (system.turnTo thread activity).threads.get other
      = if thread = other then { system.threads.get thread with activity := activity }
        else system.threads.get other :=
  Table.get_modify _ _ _ _

@[simp]
theorem nextHandle_turnTo (activity : Activity) :
    (system.turnTo thread activity).nextHandle = system.nextHandle := rfl

@[simp]
theorem locks_modifyHandles (change : Handles → Handles) :
    (system.modifyHandles thread change).locks = system.locks := rfl

@[simp]
theorem get_threads_modifyHandles (change : Handles → Handles) :
    (system.modifyHandles thread change).threads.get other
      = if thread = other then
          { system.threads.get thread with handles := change (system.threads.get thread).handles }
        else system.threads.get other :=
  Table.get_modify _ _ _ _

@[simp]
theorem nextHandle_modifyHandles (change : Handles → Handles) :
    (system.modifyHandles thread change).nextHandle = system.nextHandle := rfl

@[simp]
theorem locks_addHandle (handle : Handle) :
    (system.addHandle thread handle).locks = system.locks := rfl

@[simp]
theorem get_threads_addHandle (handle : Handle) :
    (system.addHandle thread handle).threads.get other
      = if thread = other then
          { system.threads.get thread with
            handles := (system.threads.get thread).handles.add system.nextHandle handle }
        else system.threads.get other :=
  get_threads_modifyHandles system thread other (·.add system.nextHandle handle)

@[simp]
theorem nextHandle_addHandle (handle : Handle) :
    (system.addHandle thread handle).nextHandle = system.nextHandle + 1 := rfl

end Storing

end LockSystem

end Coordination
