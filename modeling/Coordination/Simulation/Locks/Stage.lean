import Coordination.Simulation.Locks.Command
import Coordination.Simulation.Script

/-!
# Locks as a machine for scripts

Besides the locks the machine keeps the names of handles, and for each section under way a journal.
What the commands of a body have answered is noted there, so that it survives however the body ends.
-/

namespace Coordination.Simulation.Locks

/-- What the body of a section has noted so far, and how often it has looked at the data. -/
structure Journal where
  rows : List Result := []
  checks : Nat := 0
deriving Inhabited

/-- The locks of a script, the names of handles, and the journals of the sections under way. -/
structure State where
  system : LockSystem
  locks : Nat
  threads : Nat
  names : Table ThreadId (List (String × HandleId)) := .empty
  journals : Table ThreadId (List Journal) := .empty
deriving Inhabited

/-- What the programs of a script call. -/
inductive Call where
  | operation (operation : LockSystem.Operation)
  | find (name : String)
  | keep (name : String) (id : HandleId)
  | forget (name : String)
  | inspect (id : HandleId)
  | book (lock : LockId)
  /-- The handles of the thread. -/
  | handles
  | openJournal
  | note (result : Result)
  | countCheck
  | closeJournal
deriving Inhabited

/-- The replies to calls. -/
inductive Reply where
  | lock (reply : LockSystem.Reply)
  | handle (id : Option HandleId)
  | inspected (handle : Option Handle) (borrowed : Bool)
  | book (thread : ThreadId) (lock : Option Lock)
  | handles (ids : List HandleId)
  | number (value : Nat)
  | journal (rows : List Result)
  | done
deriving Inhabited

instance : LockCalls Call Reply where
  operation := .operation
  reply
    | .lock reply => reply
    | _ => .unsuitable

namespace State

def modifyJournal (state : State) (thread : ThreadId) (change : Journal → Journal) : State :=
  { state with
    journals := state.journals.modify thread fun
      | [] => []
      | journal :: rest => change journal :: rest }

def answer (state : State) (thread : ThreadId) : Call → State × Reply
  | .operation _ => (state, .done)
  | .find name => (state, .handle ((state.names.get thread).lookup name))
  | .keep name id =>
      ({ state with names := state.names.modify thread ((name, id) :: ·) }, .done)
  | .forget name =>
      ({ state with names := state.names.modify thread (·.filter (·.1 ≠ name)) }, .done)
  | .inspect id =>
      let handles := state.system.handles thread
      (state, .inspected (handles.get? id) (handles.isBorrowed id))
  | .book lock =>
      (state,
        .book thread (if lock < state.locks then some (state.system.locks.get lock) else none))
  | .handles => (state, .handles ((state.system.handles thread).rows.map (·.1)))
  | .openJournal => ({ state with journals := state.journals.modify thread ({} :: ·) }, .done)
  | .note result =>
      (state.modifyJournal thread fun journal => { journal with rows := journal.rows ++ [result] },
        .done)
  | .countCheck =>
      (state.modifyJournal thread fun journal => { journal with checks := journal.checks + 1 },
        .number (((state.journals.get thread).head?.map (·.checks)).getD 0))
  | .closeJournal =>
      ({ state with journals := state.journals.modify thread List.tail },
        .journal (((state.journals.get thread).head?.map (·.rows)).getD []))

def lift (state : State) (progress : LockSystem.Stepped) : Progress State Reply :=
  { state := { state with system := progress.state },
    reply := progress.reply.map .lock,
    log := progress.log }

def threadOf : Party → ThreadId
  | .caller thread => thread
  | .agent id => id

/-- The holds of all threads on a lock in either mode, and whether writers queue for it. -/
def overview (state : State) (lock : LockId) : Nat × Bool × Bool :=
  let book := (state.system.locks.get lock).book
  (book.readers.total, book.writer.isSome, 0 < book.waitingWriters)

end State

/-- What can be seen of the locks: an overview of each, and the books as each thread sees them that is
not busy. -/
structure View where
  all : List (Nat × Bool × Bool)
  threads : List (Option (ThreadId × List Book))

/-- A demand on the first lock. -/
inductive Wish where
  | queued (count : Nat)
  | writeLocked (value : Bool)
  | readers (count : Nat)
deriving DecidableEq, Repr, Inhabited

namespace State

def survey (state : State) (busy : List ThreadId) : View :=
  let books := (List.range state.locks).map fun lock => (state.system.locks.get lock).book
  { all := (List.range state.locks).map state.overview,
    threads := (List.range state.threads).map fun thread =>
      if thread ∈ busy then none else some (thread, books) }

def meets (state : State) : Wish → Bool
  | .queued count => (state.system.locks.get 0).book.waitingWriters = count
  | .writeLocked value => (state.system.locks.get 0).book.writer.isSome = value
  | .readers count => (state.system.locks.get 0).book.readers.total = count

end State

def stage : Stage State Call Reply Wish View where
  begin now party call state :=
    match call with
    | .operation operation =>
        state.lift (state.system.begin now (State.threadOf party) operation)
    | call =>
        let (state, reply) := state.answer (State.threadOf party) call
        { state, reply := some reply }
  step now party state := (state.system.step now (State.threadOf party)).map state.lift
  alarm? party state := state.system.alarm? (State.threadOf party)
  agents _ := 0
  job? _ _ := none
  meets := State.meets
  observe state := state.survey []
  survey := State.survey

end Coordination.Simulation.Locks
