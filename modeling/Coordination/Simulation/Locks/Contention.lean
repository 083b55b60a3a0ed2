import Coordination.Simulation.Locks.Performance

/-!
# Many threads that count

Each of some threads adds one to a shared counter in some rounds, under the protection of one lock.
-/

namespace Coordination.Simulation.Locks

def increment (cell : String) (count : Int) : Act Unit := do
  let value ← .loadCell cell
  .storeCell cell (value.getD 0 + count)

/-- Adds one to the counter, in two steps, and notes how many threads do so at the same time. -/
def bump : Act Unit := do
  increment "inside" 1
  let inside ← .loadCell "inside"
  let overlap ← .loadCell "overlap"
  .storeCell "overlap" (max (overlap.getD 0) (inside.getD 0))
  increment "counter" 1
  increment "writes" 1
  increment "inside" (-1)

def readCounter : Act (Ending SyncError Json) := do
  return .value (.integer ((← .loadCell "counter").getD 0))

/-- One round of a thread that counts in a shared section inside an exclusive one. -/
def nestedRound : Act (Ending SyncError Json) :=
  Section.exclusiveLocked 0 <| Section.sharedLocked 0 do
    bump
    return .value .null

def limitedRound (limit : Int) : Act (Ending SyncError Json) :=
  Section.sharedUpgradable 0 readCounter (fun value => return (Accept.less limit).decide value)
    fun value => do
      bump
      return .value value

def repeated (round : Act (Ending SyncError Json)) : Nat → Act Result
  | 0 => return .done
  | rounds + 1 => do
      let _ ← round
      repeated round rounds

/-- What many threads that count have shown. -/
def contend (threads rounds : Nat) (round : Act (Ending SyncError Json)) :
    Account State Result View :=
  let steps := (List.range threads).map fun thread =>
    Step.run thread (repeated round rounds) (some ({} : Background Wish))
  run [{}] { threads, steps, closing, ending := return .done }

end Coordination.Simulation.Locks
