import Coordination.Fifo
import Coordination.Progress

/-!
# Channels

A channel is a queue with senders and receivers. It may be bounded. A sender that finds no room parks
with its message, and the messages of parked senders move into the queue, the longest parked first,
as soon as somebody looks at the channel and there is room (`waiting_pull`: in the same order). A
receiver that finds nothing parks too, and the next message is handed to it directly, past the queue.
Looking as a receiver makes room for one message more, so a channel without any room still hands
messages over.

Every function here is one critical section.
-/

namespace Coordination

/-- A channel for messages. -/
structure Channel (α : Type) where
  capacity : Option Nat := none
  queue : Fifo α := {}
  /-- Parked senders with their messages, the longest parked first. -/
  senders : List (Party × α) := []
  /-- Parked receivers, the longest parked first. -/
  receivers : List Party := []
  /-- Messages handed to receivers that have not picked them up yet. -/
  handed : List (Party × α) := []
  /-- Whether nobody is left who could send. -/
  closed : Bool := false
deriving DecidableEq, Repr, Inhabited

namespace Channel

variable {α : Type}

/-- How many of some parked senders move into a queue of some length, with some room to spare. -/
def admitted (channel : Channel α) (spare : Nat) : Nat :=
  match channel.capacity with
  | some capacity => capacity + spare - channel.queue.length
  | none => channel.senders.length

/-- Moves the messages of parked senders into the queue while there is room. -/
def pull (channel : Channel α) (spare : Nat) : Channel α :=
  let count := channel.admitted spare
  { channel with
    queue := channel.queue.append ((channel.senders.take count).map (·.2)),
    senders := channel.senders.drop count }

def hasRoom (channel : Channel α) : Bool :=
  channel.capacity.all fun capacity => channel.queue.length < capacity

/-- Sends a message without waiting, if that is possible: to a parked receiver, or into the queue. -/
def offer? (channel : Channel α) (message : α) : Option (Channel α) :=
  match channel.receivers with
  | receiver :: rest =>
      some { channel with receivers := rest, handed := channel.handed ++ [(receiver, message)] }
  | [] =>
      if channel.hasRoom then some { channel with queue := channel.queue.push message } else none

def parkSender (channel : Channel α) (party : Party) (message : α) : Channel α :=
  { channel with senders := channel.senders ++ [(party, message)] }

/-- Whether a sender is parked. -/
def isSending (channel : Channel α) (party : Party) : Bool :=
  channel.senders.any (·.1 = party)

/-- A parked sender gives up and takes its message back. -/
def withdrawSender (channel : Channel α) (party : Party) : Channel α :=
  { channel with senders := channel.senders.filter (·.1 ≠ party) }

/-- Takes the first message, if there is one. -/
def take (channel : Channel α) : Channel α × Option α :=
  let channel := channel.pull 1
  match channel.queue.pop? with
  | some (message, rest) => ({ channel with queue := rest }, some message)
  | none => (channel, none)

def parkReceiver (channel : Channel α) (party : Party) : Channel α :=
  { channel with receivers := channel.receivers ++ [party] }

/-- A parked receiver gives up. -/
def withdrawReceiver (channel : Channel α) (party : Party) : Channel α :=
  { channel with receivers := channel.receivers.filter (· ≠ party) }

def handed? (channel : Channel α) (party : Party) : Option α := channel.handed.lookup party

def pickUp (channel : Channel α) (party : Party) : Channel α :=
  { channel with handed := channel.handed.filter (·.1 ≠ party) }

/-- Takes all messages of the queue at once. -/
def drain (channel : Channel α) : Channel α × List α :=
  let channel := channel.pull 0
  ({ channel with queue := {} }, channel.queue.toList)

/-- The number of messages in the queue, which is filled up first. -/
def size (channel : Channel α) : Channel α × Nat :=
  let channel := channel.pull 0
  (channel, channel.queue.length)

/-- The messages that wait for a receiver, in the order in which they will be taken. -/
def waiting (channel : Channel α) : List α :=
  channel.queue.toList ++ channel.senders.map (·.2)

/-- Moving messages into the queue does not change their order. -/
@[simp]
theorem waiting_pull (channel : Channel α) (spare : Nat) :
    (channel.pull spare).waiting = channel.waiting := by
  simp only [waiting, pull, Fifo.toList_append, List.append_assoc, ← List.map_append,
    List.take_append_drop]

/-- What is taken is the first message that waits. -/
theorem waiting_take_some {channel taken : Channel α} {message : α}
    (step : channel.take = (taken, some message)) : channel.waiting = message :: taken.waiting := by
  simp only [take] at step
  split at step
  · rename_i first rest popped
    simp only [Prod.mk.injEq, Option.some.injEq] at step
    rcases step with ⟨rfl, rfl⟩
    rw [← waiting_pull channel 1]
    simp [waiting, Fifo.toList_of_pop?_some popped]
  · simp at step

/-- Nothing is taken only if nothing waits. -/
theorem waiting_take_none {channel taken : Channel α} (step : channel.take = (taken, none)) :
    channel.waiting = [] := by
  simp only [take] at step
  split at step
  · simp at step
  · rename_i unpopped
    have empty := Fifo.pop?_eq_none_iff.1 unpopped
    rw [← waiting_pull channel 1]
    simp only [waiting, empty, List.nil_append, List.map_eq_nil_iff]
    simp only [pull, Fifo.toList_append, List.append_eq_nil_iff, List.map_eq_nil_iff,
      List.take_eq_nil_iff] at empty ⊢
    rcases empty with ⟨drained, none | parked⟩
    · have short : channel.queue.length = 0 := by simp [← Fifo.length_toList, drained]
      simp only [admitted, short] at none
      split at none
      · omega
      · rename_i unbounded
        simp [List.length_eq_zero_iff.1 none]
    · simp [parked]

/-- A drain takes what is in the queue after it was filled up, and leaves the rest. -/
theorem waiting_drain (channel : Channel α) :
    channel.waiting = channel.drain.2 ++ channel.drain.1.waiting := by
  rw [← waiting_pull channel 0]
  simp [drain, waiting]

end Channel

end Coordination
