/-!
# Shared holds

How often each thread has taken a lock in shared mode. A thread is listed once, and as long as it has
at least one hold (`Proper`, which both operations keep). `count_add` and `count_drop` say how the
operations change the counts.
-/

namespace Coordination

abbrev ThreadId := Nat

/-- The numbers of shared holds of the threads that have any. -/
structure Holds where
  rows : List (ThreadId × Nat) := []
deriving DecidableEq, Repr, Inhabited

namespace Holds

/-- The number in the first row of a thread, and 0 without one. -/
def countIn : List (ThreadId × Nat) → ThreadId → Nat
  | [], _ => 0
  | (holder, held) :: rest, thread => if holder = thread then held else countIn rest thread

def addIn : List (ThreadId × Nat) → ThreadId → List (ThreadId × Nat)
  | [], thread => [(thread, 1)]
  | (holder, held) :: rest, thread =>
      if holder = thread then (holder, held + 1) :: rest else (holder, held) :: addIn rest thread

/-- Takes one from the row of a thread, and strikes the row with the last one. -/
def dropIn : List (ThreadId × Nat) → ThreadId → List (ThreadId × Nat)
  | [], _ => []
  | (holder, held) :: rest, thread =>
      if holder = thread then
        if held ≤ 1 then rest else (holder, held - 1) :: rest
      else (holder, held) :: dropIn rest thread

def count (holds : Holds) (thread : ThreadId) : Nat := countIn holds.rows thread

def lists (holds : Holds) (thread : ThreadId) : Bool := holds.rows.any (·.1 = thread)

/-- Whether nobody is listed. -/
def isEmpty (holds : Holds) : Bool := holds.rows.isEmpty

def total (holds : Holds) : Nat := holds.rows.foldr (fun row count => row.2 + count) 0

def add (holds : Holds) (thread : ThreadId) : Holds := ⟨addIn holds.rows thread⟩

/-- One hold of a thread less; a thread that has none keeps none. -/
def drop (holds : Holds) (thread : ThreadId) : Holds := ⟨dropIn holds.rows thread⟩

@[simp]
theorem count_nil (thread : ThreadId) : count {} thread = 0 := rfl

theorem count_add (holds : Holds) (taker thread : ThreadId) :
    (holds.add taker).count thread = holds.count thread + if taker = thread then 1 else 0 := by
  rcases holds with ⟨rows⟩
  simp only [count, add]
  induction rows with
  | nil => simp [addIn, countIn]
  | cons row rest ih =>
    rcases row with ⟨holder, held⟩
    by_cases same : holder = taker
    · subst same
      by_cases hit : holder = thread <;> simp [addIn, countIn, hit]
    · simp only [addIn, same, if_false, countIn, ih]
      by_cases hit : holder = thread
      · subst hit
        simp [Ne.symm same]
      · simp [hit]

/-- Each thread is listed once, and with one hold at least. -/
def ProperIn (rows : List (ThreadId × Nat)) : Prop :=
  rows.Pairwise (fun first second => first.1 ≠ second.1) ∧ ∀ row ∈ rows, 0 < row.2

/-- Each thread is listed once, and with one hold at least. -/
def Proper (holds : Holds) : Prop := ProperIn holds.rows

theorem countIn_eq_zero {rows : List (ThreadId × Nat)} {thread : ThreadId}
    (absent : ∀ row ∈ rows, row.1 ≠ thread) : countIn rows thread = 0 := by
  induction rows with
  | nil => rfl
  | cons row rest ih =>
    rcases row with ⟨holder, held⟩
    have apart : holder ≠ thread := absent (holder, held) (by simp)
    simp only [countIn, apart, if_false]
    exact ih fun row mem => absent row (by simp [mem])

theorem mem_addIn {rows : List (ThreadId × Nat)} {thread : ThreadId} {row : ThreadId × Nat}
    (mem : row ∈ addIn rows thread) :
    row.1 = thread ∧ 0 < row.2 ∨ row ∈ rows := by
  induction rows with
  | nil =>
    simp only [addIn, List.mem_singleton] at mem
    simp [mem]
  | cons first rest ih =>
    rcases first with ⟨holder, held⟩
    by_cases same : holder = thread
    · simp only [addIn, same, if_true, List.mem_cons] at mem
      rcases mem with rfl | mem
      · simp
      · simp [mem]
    · simp only [addIn, same, if_false, List.mem_cons] at mem
      rcases mem with rfl | mem
      · simp
      · rcases ih mem with added | old
        · exact Or.inl added
        · exact Or.inr (by simp [old])

theorem mem_dropIn {rows : List (ThreadId × Nat)} {thread : ThreadId} {row : ThreadId × Nat}
    (mem : row ∈ dropIn rows thread) :
    row ∈ rows ∨ row.1 = thread ∧ (row.1, row.2 + 1) ∈ rows ∧ 0 < row.2 := by
  induction rows with
  | nil => simp [dropIn] at mem
  | cons first rest ih =>
    rcases first with ⟨holder, held⟩
    by_cases same : holder = thread
    · by_cases last : held ≤ 1
      · simp only [dropIn, same, last, if_true] at mem
        exact Or.inl (by simp [mem])
      · simp only [dropIn, same, last, if_true, if_false, List.mem_cons] at mem
        rcases mem with rfl | mem
        · refine Or.inr ⟨rfl, ?_, by simp; omega⟩
          have back : held - 1 + 1 = held := by omega
          simp [back, same]
        · exact Or.inl (by simp [mem])
    · simp only [dropIn, same, if_false, List.mem_cons] at mem
      rcases mem with rfl | mem
      · exact Or.inl (by simp)
      · rcases ih mem with old | ⟨here, old, some⟩
        · exact Or.inl (by simp [old])
        · exact Or.inr ⟨here, by simp [old], some⟩

theorem proper_add {holds : Holds} (proper : holds.Proper) (thread : ThreadId) :
    (holds.add thread).Proper := by
  rcases holds with ⟨rows⟩
  simp only [Proper, ProperIn, add] at proper ⊢
  rcases proper with ⟨distinct, positive⟩
  refine ⟨?_, fun row mem => ?_⟩
  · induction rows with
    | nil => simp [addIn]
    | cons first rest ih =>
      rcases first with ⟨holder, held⟩
      rw [List.pairwise_cons] at distinct
      by_cases same : holder = thread
      · simp only [addIn, same, if_true]
        exact List.pairwise_cons.2 ⟨by simpa [same] using distinct.1, distinct.2⟩
      · simp only [addIn, same, if_false]
        refine List.pairwise_cons.2 ⟨fun row mem => ?_, ih distinct.2 fun row mem =>
          positive row (by simp [mem])⟩
        rcases mem_addIn mem with added | old
        · simpa [added.1] using same
        · exact distinct.1 row old
  · rcases mem_addIn mem with added | old
    · exact added.2
    · exact positive row old

theorem proper_drop {holds : Holds} (proper : holds.Proper) (thread : ThreadId) :
    (holds.drop thread).Proper := by
  rcases holds with ⟨rows⟩
  simp only [Proper, ProperIn, drop] at proper ⊢
  rcases proper with ⟨distinct, positive⟩
  refine ⟨?_, fun row mem => ?_⟩
  · induction rows with
    | nil => simp [dropIn]
    | cons first rest ih =>
      rcases first with ⟨holder, held⟩
      rw [List.pairwise_cons] at distinct
      by_cases same : holder = thread
      · by_cases last : held ≤ 1
        · simpa [dropIn, same, last] using distinct.2
        · simp only [dropIn, same, last, if_true, if_false]
          exact List.pairwise_cons.2 ⟨by simpa [same] using distinct.1, distinct.2⟩
      · simp only [dropIn, same, if_false]
        refine List.pairwise_cons.2 ⟨fun row mem => ?_, ih distinct.2 fun row mem =>
          positive row (by simp [mem])⟩
        rcases mem_dropIn mem with old | ⟨_, old, _⟩
        · exact distinct.1 row old
        · exact distinct.1 (row.1, row.2 + 1) old
  · rcases mem_dropIn mem with old | ⟨_, _, some⟩
    · exact positive row old
    · exact some

theorem count_drop {holds : Holds} (proper : holds.Proper) (dropper thread : ThreadId) :
    (holds.drop dropper).count thread
      = holds.count thread - if dropper = thread then 1 else 0 := by
  rcases holds with ⟨rows⟩
  have distinct := proper.1
  clear proper
  simp only [count, drop]
  induction rows with
  | nil => simp [dropIn, countIn]
  | cons first rest ih =>
    rcases first with ⟨holder, held⟩
    rw [List.pairwise_cons] at distinct
    by_cases same : holder = dropper
    · subst same
      by_cases hit : holder = thread
      · subst hit
        have absent : countIn rest holder = 0 :=
          countIn_eq_zero fun row mem => Ne.symm (distinct.1 row mem)
        by_cases last : held ≤ 1
        · simp [dropIn, last, countIn, absent]
        · simp [dropIn, last, countIn]
      · by_cases last : held ≤ 1 <;> simp [dropIn, last, countIn, hit]
    · simp only [dropIn, same, if_false, countIn]
      by_cases hit : holder = thread
      · subst hit
        simp [Ne.symm same]
      · simpa [hit] using ih distinct.2

/-- A thread is listed exactly if it has a hold. -/
theorem lists_iff {holds : Holds} (proper : holds.Proper) (thread : ThreadId) :
    holds.lists thread = true ↔ 0 < holds.count thread := by
  rcases holds with ⟨rows⟩
  have positive := proper.2
  clear proper
  simp only [lists, count]
  induction rows with
  | nil => simp [countIn]
  | cons first rest ih =>
    rcases first with ⟨holder, held⟩
    have some : 0 < held := positive (holder, held) (by simp)
    by_cases hit : holder = thread
    · simp [countIn, hit, some]
    · simpa [countIn, hit] using ih fun row mem => positive row (by simp [mem])

end Holds

end Coordination
