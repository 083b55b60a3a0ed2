import Coordination.Simulation.Locks.Stage

/-!
# Scripts of locks

How the commands on locks are performed. A handle is kept under a name of its thread; the body of a
section ends at a panic, and the section gives its hold back and tells how it has ended.
-/

namespace Coordination.Simulation.Locks

open LockCalls

abbrev Act (α : Type) := Program Call Reply α

def find (name : String) : Act (Option HandleId) := do
  match ← .perform (.find name) with
  | .handle id => return id
  | _ => return none

/-- The lock of a number, if there is one, as the thread sees it. -/
def look (lock : LockId) : Act (ThreadId × Option Lock) := do
  match ← .perform (.book lock) with
  | .book thread lock => return (thread, lock)
  | _ => return (0, none)

/-- Something that is done with an existing lock only. -/
def withLock (lock : LockId) (act : ThreadId → Lock → Act Result) : Act Result := do
  match ← look lock with
  | (thread, some lock) => act thread lock
  | _ => return .badStep

/-- Something that is done with the handle of a name only. -/
def withHandle (name : String) (act : HandleId → Act Result) : Act Result := do
  match ← find name with
  | some id => act id
  | none => return .noHandle

def resultOf : LockSystem.Reply → Result
  | .handle _ => .done
  | .done => .done
  | .timedOut => .flag false
  | .waited signalled => .flag signalled
  | .refused error => .refused error
  | .panicked message => .panicked message
  | .borrowed => .borrowed
  | .unsuitable => .badStep

/-- A result that a command may go on with; a panic goes on by itself. -/
def raised : Result → Ending Empty Result
  | .panicked message => .panicked message
  | result => .value result

/-- Something that is done with a name that no handle has only. -/
def withNewName (name : String) (act : Act Result) : Act Result := do
  match ← find name with
  | some _ => return .handleExists
  | none => act

def keeping (name : String) (operation : LockSystem.Operation) : Act Result := do
  let reply ← operate operation
  match reply with
  | .handle id => let _ ← .perform (.keep name id)
  | _ => pure ()
  return resultOf reply

def note (result : Result) : Act Unit := do
  let _ ← .perform (.note result)

def journalled (program : Act (Ending SyncError Json)) :
    Act (Ending SyncError Json × List Result) := do
  let _ ← .perform .openJournal
  let ending ← program
  match ← .perform .closeJournal with
  | .journal rows => return (ending, rows)
  | _ => return (ending, [])

/-- Whether the bodies of sections can compute with an integer: theirs have 64 bits with the sign. -/
def isComputable (value : Int) : Bool := -Int.pow 2 63 ≤ value && value < Int.pow 2 63

def integerOf : Json → Int
  | .integer value => if isComputable value then value else 0
  | _ => 0

/-- The sum of a value and some more, or a panic if nobody could compute with it. -/
def sumEnding (given : Json) (count : Int) : Ending SyncError Json :=
  if isComputable (integerOf given + count) then .value (.integer (integerOf given + count))
  else .panicked "attempt to add with overflow"

def End.ending (given : Json) : End → Ending SyncError Json
  | .given => .value given
  | .value result => .value result
  | .add count => sumEnding given count
  | .fail error => .failed error
  | .panic message => .panicked message

/-- Notes that a callback was called. -/
def noteCall (lock : LockId) (callback : Callback) (value : Json) : Act Unit := do
  match ← look lock with
  | (thread, some lock) =>
      note (.called callback value (lock.book.sharedHolds thread) (lock.book.exclusiveHolds thread))
  | _ => return ()

def Accept.decide (value : Json) : Accept → Ending Empty Bool
  | .always => .value true
  | .never => .value false
  | .less bound => .value (integerOf value < bound)
  | .equal other => .value (integerOf value = other)
  | .panic message => .panicked message

def Source.load : Source → Act Json
  | .value content => return content
  | .cell name => do return .integer ((← .loadCell name).getD 0)

/-- The element of a list at a place, or the last one if there are fewer. -/
def atOrLast {α : Type} : List α → Nat → Option α
  | [], _ => none
  | [last], _ => some last
  | first :: _, 0 => some first
  | _ :: rest, place + 1 => atOrLast rest place

def countCheck : Act Nat := do
  match ← .perform .countCheck with
  | .number count => return count
  | _ => return 0

/-- A body that has ended by itself, or panicked. -/
def thenEnd (body : Act (Ending Empty Unit)) (ending : Ending SyncError Json) :
    Act (Ending SyncError Json) := do
  match ← body with
  | .value _ => return ending
  | .panicked message => return .panicked message

/-- A look at the data: its value, a body, and an end. -/
def lookAt (lock : LockId) (source : Source) (body : Act (Ending Empty Unit)) (ending : End) :
    Act (Ending SyncError Json) := do
  let value ← source.load
  noteCall lock .check value
  thenEnd body (ending.ending value)

def lookAtNothing (lock : LockId) : Act (Ending SyncError Json) :=
  lookAt lock (.value .null) (return .value ()) .given

def decide (lock : LockId) (accept : Accept) (value : Json) : Act (Ending Empty Bool) := do
  noteCall lock .accept value
  return accept.decide value

/-- A write: a body, an end, and a cell for the result. -/
def write (lock : LockId) (body : Act (Ending Empty Unit)) (ending : End) (cell : Option String)
    (value : Json) : Act (Ending SyncError Json) := do
  noteCall lock .write value
  let ending ← thenEnd body (ending.ending value)
  match cell, ending with
  | some cell, .value result => .storeCell cell (integerOf result)
  | _, _ => pure ()
  return ending

mutual

def perform : Command → Act (Ending Empty Result)
  | .effect effect => do
      match ← effect.program with
      | .value none => return .value .done
      | .value (some value) => return .value (.number value)
      | .panicked message => return .panicked message
  | .shared lock timeout name => raised <$>
      withLock lock fun _ _ => withNewName name (keeping name (.shared lock timeout))
  | .exclusive lock timeout name => raised <$>
      withLock lock fun _ _ => withNewName name (keeping name (.exclusive lock timeout))
  | .upgrade parent name => .value <$>
      withNewName name (withHandle parent fun id => keeping name (.upgrade id))
  | .release name => .value <$>
      withHandle name fun id => do return resultOf (← operate (.release id))
  | .drop name => .value <$>
      withHandle name fun id => do
        let reply ← operate (.drop id)
        if reply = .done then
          let _ ← .perform (.forget name)
        return resultOf reply
  | .info name => .value <$>
      withHandle name fun id => do
        match ← .perform (.inspect id) with
        | .inspected (some handle) false => return .info handle
        | .inspected _ true => return .borrowed
        | _ => return .badStep
  | .wait name condition timeout => raised <$>
      withHandle name fun id => do return resultOf (← operate (.wait id condition timeout))
  | .signal condition all => do
      return .value (resultOf (← operate (.signal condition all)))
  | .counts lock => .value <$> withLock lock fun thread lock => return .counts thread lock.book
  | .holds lock => .value <$> withLock lock fun thread lock => return .holds thread lock.book
  | .text lock => .value <$> withLock lock fun _ lock => return .text lock.text
  | .sharedLocked lock body ending => .value <$>
      withLock lock fun _ _ => do
        let (ending, journal) ←
          journalled (Section.sharedLocked lock (thenEnd (performAll body) (ending.ending .null)))
        return .locked ending journal
  | .exclusiveLocked lock body ending => .value <$>
      withLock lock fun _ _ => do
        let (ending, journal) ←
          journalled
            (Section.exclusiveLocked lock (thenEnd (performAll body) (ending.ending .null)))
        return .locked ending journal
  | .sharedUpgradable lock checks accept body ending cell => .value <$>
      withLock lock fun _ _ => do
        let check : Act (Ending SyncError Json) := do
          let place ← countCheck
          return ← (atOrLast (checkAll lock checks) place).getD (lookAtNothing lock)
        let (ending, journal) ←
          journalled
            (Section.sharedUpgradable lock check (decide lock accept)
              (write lock (performAll body) ending cell))
        return .upgradable ending journal
  | .unknown => return .value .badStep

/-- Performs the commands of a body and notes their results; a panic ends the body. -/
def performAll : List Command → Act (Ending Empty Unit)
  | [] => return .value ()
  | command :: rest => do
      match ← perform command with
      | .value result =>
          note result
          performAll rest
      | .panicked message => return .panicked message

def checkAll (lock : LockId) : List (Source × List Command × End) → List (Act (Ending SyncError Json))
  | [] => []
  | (source, body, ending) :: rest =>
      lookAt lock source (performAll body) ending :: checkAll lock rest

end

def stepProgram (command : Command) : Act Result := do
  match ← perform command with
  | .value result => return result
  | .panicked message => return .panicked message

def dropAll : List HandleId → Act Unit
  | [] => return ()
  | id :: rest => .ask (.operation (.drop id)) fun _ => dropAll rest

/-- Drops the handles of the thread, the newest first. -/
def closing : Act Result := do
  match ← .perform .handles with
  | .handles ids => dropAll ids.reverse
  | _ => pure ()
  return .done

/-- Locks that nobody holds. -/
def initial (configs : List LockConfig) (threads : Nat) : State :=
  let locks := configs.foldl
    (fun (place, locks) config => (place + 1, locks.set place { config }))
    (0, (Table.empty : Table LockId Lock))
  { system := { locks := locks.2 }, locks := configs.length, threads }

abbrev LockScript := Script Call Reply Result Wish

def run (configs : List LockConfig) (script : LockScript) : Account State Result View :=
  script.perform stage (initial configs script.threads)

end Coordination.Simulation.Locks
