import Coordination.Duration
import Coordination.Error

/-!
# Programs

What a thread does: it calls a machine and goes on with the reply, loads and stores integers that all
threads share, leaves marks, passes gates, sleeps, and in the end has a result. A program is finite,
so everything that it does is bounded by the program itself. Programs are put together with `bind`,
which `bind_assoc` shows to be associative.
-/

namespace Coordination

/-- How a computation that may fail or panic has ended. -/
inductive Ending (ε α : Type) where
  | value (value : α)
  | failed (error : ε)
  | panicked (message : String)
deriving DecidableEq, Repr, Inhabited

/-- What a thread does, with calls and replies of a machine. -/
inductive Program (call reply α : Type) where
  | finish (result : α)
  | ask (operation : call) (next : reply → Program call reply α)
  | load (cell : String) (next : Option Int → Program call reply α)
  | store (cell : String) (value : Int) (next : Program call reply α)
  | mark (name : String) (next : Program call reply α)
  /-- Waits until a gate is open. -/
  | pass (gate : String) (next : Program call reply α)
  | sleep (duration : Duration) (next : Program call reply α)

namespace Program

variable {call reply α β γ : Type}

instance [Inhabited α] : Inhabited (Program call reply α) := ⟨.finish default⟩

/-- One program after the other. -/
def bind : Program call reply α → (α → Program call reply β) → Program call reply β
  | .finish result, next => next result
  | .ask operation rest, next => .ask operation fun answer => (rest answer).bind next
  | .load cell rest, next => .load cell fun value => (rest value).bind next
  | .store cell value rest, next => .store cell value (rest.bind next)
  | .mark name rest, next => .mark name (rest.bind next)
  | .pass gate rest, next => .pass gate (rest.bind next)
  | .sleep duration rest, next => .sleep duration (rest.bind next)

instance : Monad (Program call reply) where
  pure := .finish
  bind := bind

def perform (operation : call) : Program call reply reply := .ask operation .finish

def loadCell (cell : String) : Program call reply (Option Int) := .load cell .finish

def storeCell (cell : String) (value : Int) : Program call reply Unit :=
  .store cell value (.finish ())

def passGate (gate : String) : Program call reply Unit := .pass gate (.finish ())

def sleepFor (duration : Duration) : Program call reply Unit := .sleep duration (.finish ())

@[simp]
theorem finish_bind (result : α) (next : α → Program call reply β) :
    (finish result).bind next = next result := rfl

@[simp]
theorem bind_finish (program : Program call reply α) : program.bind finish = program := by
  induction program <;> simp_all [bind]

theorem bind_assoc (program : Program call reply α) (second : α → Program call reply β)
    (third : β → Program call reply γ) :
    (program.bind second).bind third = program.bind fun result => (second result).bind third := by
  induction program <;> simp_all [bind]

end Program

end Coordination
