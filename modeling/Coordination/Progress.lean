import Coordination.Lock.Holds
import Coordination.Log

/-!
# Steps

What a step of a machine leads to. Every machine of the library is a state together with functions
that make one atomic step of one thread. An operation may take several steps; the last one of them
brings its reply.
-/

namespace Coordination

/-- Who makes a step: a caller's thread, or one that the machine runs itself. -/
inductive Party where
  | caller (thread : ThreadId)
  | agent (id : Nat)
deriving DecidableEq, Repr, Inhabited

/-- The state after a step, the reply if the step ends an operation, and what is logged meanwhile. -/
structure Progress (σ ρ : Type) where
  state : σ
  reply : Option ρ := none
  log : List Log.Entry := []

namespace Progress

variable {σ τ ρ : Type}

def map (progress : Progress σ ρ) (embed : σ → τ) : Progress τ ρ :=
  ⟨embed progress.state, progress.reply, progress.log⟩

end Progress

end Coordination
