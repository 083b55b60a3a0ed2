import Coordination.Lock.Section
import Coordination.Proofs.Lock.Upgrading
import Mathlib.Logic.Function.Basic

/-!
# Teams

The threads of a team each run a program of their own, over the same locks and the same cells. A schedule
lets them take their steps in any order: a move at the locks, or one step by themselves, which loads from
a cell or stores into one, but never both. A run remembers who has stored into which cell.
-/

namespace Coordination

open LockSystem (Operation Reply Stepped)

/-- What a thread has to do: a program, or the rest of one after the reply to a call. -/
inductive Work where
  | ready (program : Program Operation Reply Unit)
  | pending (next : Reply → Program Operation Reply Unit)

namespace Work

def Finished (work : Work) : Prop := work = .ready (.finish ())

def answered (next : Reply → Program Operation Reply Unit) : Option Reply → Work
  | some reply => .ready (next reply)
  | none => .pending next

end Work

structure Team where
  system : LockSystem := {}
  cells : Table String (Option Int) := .empty
  work : ThreadId → Work

namespace Team

/-- A choice of a schedule: a move at the locks, or a thread that goes on by itself. -/
inductive Choice where
  | turn (now : Instant) (move : LockSystem.Move)
  | advance (thread : ThreadId)

namespace Choice

def thread : Choice → ThreadId
  | .turn _ move => move.thread
  | .advance thread => thread

@[simp]
theorem thread_turn (now : Instant) (move : LockSystem.Move) : (turn now move).thread = move.thread := rfl

@[simp]
theorem thread_advance (thread : ThreadId) : (advance thread).thread = thread := rfl

end Choice

variable (team : Team)

def turnTo (thread : ThreadId) (work : Work) : Team :=
  { team with work := Function.update team.work thread work }

/-- The team after a step at the locks. -/
def after (thread : ThreadId) (next : Reply → Program Operation Reply Unit) (stepped : Stepped) : Team :=
  { team with system := stepped.state }.turnTo thread (.answered next stepped.reply)

/-- The step of a choice, if the thread can take it now. Only a thread in the middle of a call goes on
with it, and any other begins the next one. -/
def perform : Choice → Option Team
  | .turn now move =>
      match team.work move.thread, move with
      | .ready (.ask operation next), .begin thread begun =>
          if begun = operation then (team.system.perform now move).map (team.after thread next) else none
      | .ready _, _ | .pending _, .begin _ _ => none
      | .pending next, move => (team.system.perform now move).map (team.after move.thread next)
  | .advance thread =>
      match team.work thread with
      | .ready (.load cell next) => some (team.turnTo thread (.ready (next (team.cells.get cell))))
      | .ready (.store cell value next) =>
          some { team.turnTo thread (.ready next) with cells := team.cells.set cell (some value) }
      | .ready (.mark _ next) | .ready (.pass _ next) | .ready (.sleep _ next) =>
          some (team.turnTo thread (.ready next))
      | _ => none

/-- The cell that a choice stores into. -/
def stores? : Choice → Option (ThreadId × String)
  | .turn _ _ => none
  | .advance thread =>
      match team.work thread with
      | .ready (.store cell _ _) => some (thread, cell)
      | _ => none

/-- The runs of a team, with what has been stored, the latest first. -/
inductive Run (start : Team) : List (ThreadId × String) → Team → Prop where
  | here : Run start [] start
  | step {stored : List (ThreadId × String)} {team next : Team} {choice : Choice}
      (run : Run start stored team) (performed : team.perform choice = some next) :
      Run start ((team.stores? choice).toList ++ stored) next

def Finished : Prop := ∀ thread, (team.work thread).Finished

/-- The team after some choices. A choice that cannot be made is left out. -/
def follow (team : Team) : List Choice → Team
  | [] => team
  | choice :: rest => ((team.perform choice).getD team).follow rest

/-- What has been stored on the way, after what was stored before. -/
def trace (stored : List (ThreadId × String)) (team : Team) : List Choice → List (ThreadId × String)
  | [] => stored
  | choice :: rest =>
      match team.perform choice with
      | some next => trace ((team.stores? choice).toList ++ stored) next rest
      | none => trace stored team rest

theorem Run.follow {start team : Team} {stored : List (ThreadId × String)} (run : Run start stored team)
    (choices : List Choice) : Run start (trace stored team choices) (team.follow choices) := by
  induction choices generalizing stored team with
  | nil => exact run
  | cons choice rest ih =>
      simp only [trace, Team.follow]
      cases performed : team.perform choice with
      | some next => exact ih (run.step performed)
      | none => exact ih run

/-- The steps of a team, each with its guard. -/
inductive Step (team : Team) : Choice → Team → Prop where
  | begins {now : Instant} {thread : ThreadId} {operation : Operation}
      {rest : Reply → Program Operation Reply Unit} {stepped : Stepped}
      (work : team.work thread = .ready (.ask operation rest))
      (performed : team.system.perform now (.begin thread operation) = some stepped) :
      Step team (.turn now (.begin thread operation)) (team.after thread rest stepped)
  | goesOn {now : Instant} {move : LockSystem.Move} {rest : Reply → Program Operation Reply Unit}
      {stepped : Stepped} (work : team.work move.thread = .pending rest)
      (busy : ∀ operation, move ≠ .begin move.thread operation)
      (performed : team.system.perform now move = some stepped) :
      Step team (.turn now move) (team.after move.thread rest stepped)
  | loads {thread : ThreadId} {cell : String} {rest : Option Int → Program Operation Reply Unit}
      (work : team.work thread = .ready (.load cell rest)) :
      Step team (.advance thread) (team.turnTo thread (.ready (rest (team.cells.get cell))))
  | stores {thread : ThreadId} {cell : String} {value : Int} {rest : Program Operation Reply Unit}
      (work : team.work thread = .ready (.store cell value rest)) :
      Step team (.advance thread)
        { team.turnTo thread (.ready rest) with cells := team.cells.set cell (some value) }
  | marks {thread : ThreadId} {name : String} {rest : Program Operation Reply Unit}
      (work : team.work thread = .ready (.mark name rest)) :
      Step team (.advance thread) (team.turnTo thread (.ready rest))
  | passes {thread : ThreadId} {gate : String} {rest : Program Operation Reply Unit}
      (work : team.work thread = .ready (.pass gate rest)) :
      Step team (.advance thread) (team.turnTo thread (.ready rest))
  | sleeps {thread : ThreadId} {duration : Duration} {rest : Program Operation Reply Unit}
      (work : team.work thread = .ready (.sleep duration rest)) :
      Step team (.advance thread) (team.turnTo thread (.ready rest))

variable {team} {next : Team} {choice : Choice} {thread : ThreadId}

theorem step_of_perform (performed : team.perform choice = some next) : team.Step choice next := by
  cases choice with
  | turn now move =>
      simp only [perform] at performed
      split at performed
      · rename_i operation rest thread begun work
        split at performed
        · rename_i same
          subst same
          rcases Option.map_eq_some_iff.mp performed with ⟨stepped, begins, rfl⟩
          exact .begins work begins
        · cases performed
      · cases performed
      · cases performed
      · rename_i rest others work
        rcases Option.map_eq_some_iff.mp performed with ⟨stepped, goesOn, rfl⟩
        exact .goesOn work (fun operation begun => others _ operation begun) goesOn
  | advance thread =>
      simp only [perform] at performed
      split at performed
      · rename_i cell rest work
        cases performed
        exact .loads work
      · rename_i cell value rest work
        cases performed
        exact .stores work
      · rename_i name rest work
        cases performed
        exact .marks work
      · rename_i gate rest work
        cases performed
        exact .passes work
      · rename_i duration rest work
        cases performed
        exact .sleeps work
      · cases performed

@[simp]
theorem work_after_self (rest : Reply → Program Operation Reply Unit) (stepped : Stepped) :
    (team.after thread rest stepped).work thread = .answered rest stepped.reply := by
  simp [after, turnTo]

@[simp]
theorem system_after (rest : Reply → Program Operation Reply Unit) (stepped : Stepped) :
    (team.after thread rest stepped).system = stepped.state := rfl

@[simp]
theorem work_turnTo_self (work : Work) : (team.turnTo thread work).work thread = work := by
  simp [turnTo]

/-- The other threads are left as they were. -/
theorem Step.others (step : team.Step choice next) (apart : choice.thread ≠ thread) :
    next.work thread = team.work thread ∧
      next.system.threads.get thread = team.system.threads.get thread := by
  have kept (work : Work) :
      Function.update team.work choice.thread work thread = team.work thread :=
    Function.update_of_ne (Ne.symm apart) work team.work
  cases step with
  | begins work performed => exact ⟨kept _, LockSystem.thread_of_others performed apart⟩
  | goesOn work busy performed => exact ⟨kept _, LockSystem.thread_of_others performed apart⟩
  | loads | stores | marks | passes | sleeps => exact ⟨kept _, rfl⟩

theorem Step.reachable (step : team.Step choice next) (reachable : team.system.Reachable) :
    next.system.Reachable := by
  cases step with
  | begins work performed => exact reachable.step performed
  | goesOn work busy performed => exact reachable.step performed
  | loads | stores | marks | passes | sleeps => exact reachable

end Team

end Coordination
