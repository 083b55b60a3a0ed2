import Coordination.Program

/-!
# What every thread can do

The commands of a script that have nothing to do with a machine: cells, marks, gates and panics. A
panic ends everything around it, so it has no result of its own.
-/

namespace Coordination.Simulation

/-- A command on the scene. -/
inductive Effect where
  | set (cell : String) (value : Int)
  | get (cell : String)
  | mark (name : String)
  | pass (gate : String)
  | panic (message : String)
deriving DecidableEq, Repr, Inhabited

/-- Performs a command on the scene; a look at a cell has an integer as its result. -/
def Effect.program {κ ρ : Type} : Effect → Program κ ρ (Ending Empty (Option Int))
  | .set cell value => .store cell value (.finish (.value none))
  | .get cell => .load cell fun value => .finish (.value (some (value.getD 0)))
  | .mark name => .mark name (.finish (.value none))
  | .pass gate => .pass gate (.finish (.value none))
  | .panic message => .finish (.panicked message)

end Coordination.Simulation
