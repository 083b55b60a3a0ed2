import Coordination.Lock.Holds
import Coordination.Duration

/-!
# Conditions

A thread waits for a condition until somebody signals it. Every signal begins a new generation, and
a waiting thread remembers the generation that it saw when it began to wait: the wait ends when it
sees another one. A signal takes two steps. It raises the generation first, and then it notifies the
thread that is parked longest, or all of them; a thread that looks in between sees the signal too.
-/

namespace Coordination

/-- A thread that waits for a condition. -/
structure Sleeper where
  thread : ThreadId
  /-- The generation at which it began to wait. -/
  observed : Nat
  deadline : Option Instant := none
  /-- Whether it has been notified since it parked. -/
  notified : Bool := false
deriving DecidableEq, Repr, Inhabited

/-- A condition; the threads parked at it are in the order in which they parked. -/
structure Condition where
  generation : Nat := 0
  sleepers : List Sleeper := []
deriving DecidableEq, Repr, Inhabited

namespace Condition

/-- The place of a thread among those parked at the condition. -/
def sleeper? (condition : Condition) (thread : ThreadId) : Option Sleeper :=
  condition.sleepers.find? (·.thread = thread)

/-- The condition without a parked thread. -/
def unpark (condition : Condition) (thread : ThreadId) : Condition :=
  { condition with sleepers := condition.sleepers.filter (·.thread ≠ thread) }

/-- Parks a thread that saw a generation. -/
def park (condition : Condition) (thread : ThreadId) (observed : Nat) (deadline : Option Instant) :
    Condition :=
  { condition with sleepers := condition.sleepers ++ [{ thread, observed, deadline }] }

/-- Whether a signal was sent since a thread began to wait. -/
def signalledSince (condition : Condition) (sleeper : Sleeper) : Bool :=
  condition.generation ≠ sleeper.observed

/-- Begins a new generation. -/
def raise (condition : Condition) : Condition :=
  { condition with generation := condition.generation + 1 }

/-- Notifies the first thread of a list that has not been notified yet. -/
def notifyFirst : List Sleeper → List Sleeper
  | [] => []
  | sleeper :: rest =>
      if sleeper.notified then sleeper :: notifyFirst rest
      else { sleeper with notified := true } :: rest

/-- Notifies the thread that is parked longest, or all of them. -/
def notify (condition : Condition) (all : Bool) : Condition :=
  { condition with
    sleepers :=
      if all then condition.sleepers.map fun sleeper => { sleeper with notified := true }
      else notifyFirst condition.sleepers }

end Condition

end Coordination
