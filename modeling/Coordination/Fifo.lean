/-!
# Queues

A queue of two lists: what came in lately stands in reverse order, so that adding at the end takes the
same time however long the queue is. `toList` is the queue as a list, the oldest entry first, and
every operation is described by what it does to this list.
-/

namespace Coordination

/-- A queue, the oldest entry first. -/
structure Fifo (α : Type) where
  front : List α := []
  /-- What comes after the front, the latest entry first. -/
  back : List α := []
deriving DecidableEq, Repr, Inhabited

namespace Fifo

variable {α : Type}

/-- The entries, the oldest first. -/
def toList (queue : Fifo α) : List α := queue.front ++ queue.back.reverse

def length (queue : Fifo α) : Nat := queue.front.length + queue.back.length

def push (queue : Fifo α) (entry : α) : Fifo α := { queue with back := entry :: queue.back }

/-- Adds entries at the end, in their order. -/
def append (queue : Fifo α) (entries : List α) : Fifo α := entries.foldl push queue

/-- The oldest entry and the queue without it, if there is one. -/
def pop? (queue : Fifo α) : Option (α × Fifo α) :=
  match queue.front with
  | entry :: front => some (entry, { queue with front })
  | [] =>
      match queue.back.reverse with
      | entry :: front => some (entry, { front })
      | [] => none

@[simp]
theorem toList_empty : ({} : Fifo α).toList = [] := rfl

@[simp]
theorem length_toList (queue : Fifo α) : queue.toList.length = queue.length := by
  simp [toList, length]

@[simp]
theorem toList_push (queue : Fifo α) (entry : α) :
    (queue.push entry).toList = queue.toList ++ [entry] := by
  simp [toList, push]

@[simp]
theorem toList_append (queue : Fifo α) (entries : List α) :
    (queue.append entries).toList = queue.toList ++ entries := by
  induction entries generalizing queue with
  | nil => simp [append]
  | cons entry rest ih =>
      have later := ih (queue.push entry)
      simpa [append] using later

/-- What is popped is the head of the list. -/
theorem toList_of_pop?_some {queue rest : Fifo α} {entry : α}
    (popped : queue.pop? = some (entry, rest)) : queue.toList = entry :: rest.toList := by
  simp only [pop?] at popped
  split at popped
  · rename_i front
    obtain ⟨rfl, rfl⟩ : _ = entry ∧ _ = rest := by simpa using popped
    simp [toList, front]
  · rename_i front
    split at popped
    · rename_i back
      obtain ⟨rfl, rfl⟩ : _ = entry ∧ _ = rest := by simpa using popped
      simp [toList, front, back]
    · cases popped

theorem pop?_eq_none_iff {queue : Fifo α} : queue.pop? = none ↔ queue.toList = [] := by
  cases front : queue.front with
  | cons entry rest => simp [pop?, toList, front]
  | nil =>
      cases back : queue.back.reverse with
      | nil => simp [pop?, toList, front, back]
      | cons entry rest => simp [pop?, toList, front, back]

end Fifo

end Coordination
