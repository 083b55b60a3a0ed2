import Coordination.Lock.Condition
import Mathlib.Data.List.Nodup

/-!
# Who sleeps at a condition

A thread is parked at a condition exactly while it waits for it, once, and the generation that it has
seen is not one that is to come (`Sound`). All changes of a condition keep this, if the right threads
wait afterwards.

A sleeper stays where it is while others come and go, except that it may be notified (`Lodges`). One
that is due for the next notification, of all sleepers or of the one that is parked longest, stays due
until it gets it (`Due`).
-/

namespace Coordination

/-- The sleeper after it has been notified. -/
def Sleeper.roused (sleeper : Sleeper) : Sleeper := { sleeper with notified := true }

theorem Sleeper.of_roused_eq {first second : Sleeper} (same : first.roused = second.roused) :
    first.thread = second.thread ∧ first.observed = second.observed ∧
      first.deadline = second.deadline := by
  injection same with thread observed deadline
  exact ⟨thread, observed, deadline⟩

theorem Sleeper.roused_eq {sleeper : Sleeper} (notified : sleeper.notified = true) :
    sleeper.roused = sleeper := by
  cases sleeper
  cases notified
  rfl

namespace Condition

variable {condition : Condition} {sleeper : Sleeper} {thread : ThreadId}

/-- The sleeper is there, notified or not. -/
def Lodges (condition : Condition) (sleeper : Sleeper) : Prop :=
  sleeper.roused ∈ condition.sleepers.map Sleeper.roused

/-- The next notification, of all sleepers or of one, is for a sleeper that has not been notified. -/
structure Due (condition : Condition) (all : Bool) (sleeper : Sleeper) : Prop where
  mem : sleeper ∈ condition.sleepers
  unnotified : sleeper.notified = false
  first : all = true ∨ ∃ ahead behind, condition.sleepers = ahead ++ sleeper :: behind ∧
    ∀ other ∈ ahead, other.notified = true

/-- The threads at a condition are there once, they wait, and they have seen a generation. -/
structure Sound (condition : Condition) (waits : ThreadId → Prop) : Prop where
  distinct : (condition.sleepers.map Sleeper.thread).Nodup
  waits : ∀ sleeper ∈ condition.sleepers, waits sleeper.thread
  observed : ∀ sleeper ∈ condition.sleepers, sleeper.observed ≤ condition.generation

@[simp]
theorem mem_sleepers_unpark :
    sleeper ∈ (condition.unpark thread).sleepers
      ↔ sleeper ∈ condition.sleepers ∧ sleeper.thread ≠ thread := by
  simp [unpark]

@[simp]
theorem mem_sleepers_park {observed : Nat} {deadline : Option Instant} :
    sleeper ∈ (condition.park thread observed deadline).sleepers
      ↔ sleeper ∈ condition.sleepers ∨ sleeper = { thread, observed, deadline } := by
  simp [park]

@[simp]
theorem roused_notifyFirst (sleepers : List Sleeper) :
    (notifyFirst sleepers).map Sleeper.roused = sleepers.map Sleeper.roused := by
  induction sleepers with
  | nil => rfl
  | cons sleeper rest ih =>
      simp only [notifyFirst]
      split
      · rw [List.map_cons, ih, List.map_cons]
      · rfl

/-- To notify changes nothing about the sleepers but that they have been notified. -/
@[simp]
theorem roused_notify (condition : Condition) (all : Bool) :
    (condition.notify all).sleepers.map Sleeper.roused = condition.sleepers.map Sleeper.roused := by
  cases all with
  | false => exact roused_notifyFirst condition.sleepers
  | true => simp [notify, Function.comp_def, Sleeper.roused]

theorem mem_notifyFirst {sleepers : List Sleeper} (mem : sleeper ∈ sleepers) :
    sleeper ∈ notifyFirst sleepers ∨ sleeper.roused ∈ notifyFirst sleepers := by
  induction sleepers with
  | nil => cases mem
  | cons first rest ih =>
      simp only [notifyFirst]
      rcases List.mem_cons.mp mem with rfl | later
      · split
        · exact Or.inl List.mem_cons_self
        · exact Or.inr List.mem_cons_self
      · split
        · exact (ih later).imp (List.mem_cons_of_mem _) (List.mem_cons_of_mem _)
        · exact Or.inl (List.mem_cons_of_mem _ later)

theorem mem_notify (all : Bool) (mem : sleeper ∈ condition.sleepers) :
    sleeper ∈ (condition.notify all).sleepers ∨ sleeper.roused ∈ (condition.notify all).sleepers := by
  cases all with
  | false => exact mem_notifyFirst mem
  | true => exact Or.inr (List.mem_map_of_mem mem)

theorem notifyFirst_append {ahead : List Sleeper} (behind : List Sleeper)
    (notified : ∀ other ∈ ahead, other.notified = true) (fresh : sleeper.notified = false) :
    notifyFirst (ahead ++ sleeper :: behind) = ahead ++ sleeper.roused :: behind := by
  induction ahead with
  | nil => simp [notifyFirst, fresh, Sleeper.roused]
  | cons first rest ih =>
      have rouses := ih fun other mem => notified other (List.mem_cons_of_mem _ mem)
      simp [notifyFirst, notified first List.mem_cons_self, rouses]

theorem lodges_of_mem (mem : sleeper ∈ condition.sleepers) : condition.Lodges sleeper :=
  List.mem_map_of_mem mem

theorem lodges_of_due {all : Bool}
    (due : condition.Due all sleeper ∨ sleeper.roused ∈ condition.sleepers) :
    condition.Lodges sleeper := by
  rcases due with due | roused
  · exact lodges_of_mem due.mem
  · exact List.mem_map.mpr ⟨sleeper.roused, roused, rfl⟩

section Changing

variable {other : ThreadId} {observed : Nat} {deadline : Option Instant}

theorem Lodges.notify (lodges : condition.Lodges sleeper) (all : Bool) :
    (condition.notify all).Lodges sleeper := by
  rw [Lodges, roused_notify]
  exact lodges

theorem Lodges.unpark (lodges : condition.Lodges sleeper) (apart : other ≠ sleeper.thread) :
    (condition.unpark other).Lodges sleeper := by
  rcases List.mem_map.mp lodges with ⟨lodger, mem, same⟩
  refine List.mem_map.mpr ⟨lodger, mem_sleepers_unpark.mpr ⟨mem, ?_⟩, same⟩
  rw [(Sleeper.of_roused_eq same).1]
  exact apart.symm

theorem Lodges.park (lodges : condition.Lodges sleeper) :
    (condition.park other observed deadline).Lodges sleeper := by
  rw [Lodges, Condition.park, List.map_append]
  exact List.mem_append_left _ lodges

theorem lodges_park :
    (condition.park sleeper.thread sleeper.observed sleeper.deadline).Lodges sleeper :=
  List.mem_map.mpr ⟨_, mem_sleepers_park.mpr (Or.inr rfl), rfl⟩

/-- Whoever is due is notified. -/
theorem Due.roused_mem {all : Bool} (due : condition.Due all sleeper) :
    sleeper.roused ∈ (condition.notify all).sleepers := by
  cases all with
  | true => exact List.mem_map_of_mem due.mem
  | false =>
      rcases due.first with impossible | ⟨ahead, behind, split, notified⟩
      · cases impossible
      · have rouses := notifyFirst_append behind notified due.unnotified
        rw [← split] at rouses
        simp [Condition.notify, rouses]

theorem Due.notify {all : Bool} (due : condition.Due all sleeper) (every : Bool) :
    (condition.notify every).Due all sleeper ∨
      sleeper.roused ∈ (condition.notify every).sleepers := by
  rcases due.first with rfl | first
  · exact (mem_notify every due.mem).imp_left fun mem => ⟨mem, due.unnotified, Or.inl rfl⟩
  · exact Or.inr (Due.roused_mem ⟨due.mem, due.unnotified, Or.inr first⟩)

theorem Due.unpark {all : Bool} (due : condition.Due all sleeper) (apart : other ≠ sleeper.thread) :
    (condition.unpark other).Due all sleeper where
  mem := mem_sleepers_unpark.mpr ⟨due.mem, apart.symm⟩
  unnotified := due.unnotified
  first := by
    refine due.first.imp_right ?_
    rintro ⟨ahead, behind, split, notified⟩
    refine ⟨ahead.filter (·.thread ≠ other), behind.filter (·.thread ≠ other), ?_, ?_⟩
    · simp [Condition.unpark, split, apart.symm]
    · exact fun sleeper mem => notified sleeper (List.mem_of_mem_filter mem)

theorem Due.park {all : Bool} (due : condition.Due all sleeper) :
    (condition.park other observed deadline).Due all sleeper where
  mem := mem_sleepers_park.mpr (Or.inl due.mem)
  unnotified := due.unnotified
  first := by
    refine due.first.imp_right ?_
    rintro ⟨ahead, behind, split, notified⟩
    -- Who parks does so behind all others.
    exact ⟨ahead, behind ++ [{ thread := other, observed, deadline }], by simp [Condition.park, split],
      notified⟩

/-- Some sleeper is due unless all have been notified. -/
theorem exists_due (all : Bool) (mem : sleeper ∈ condition.sleepers)
    (isFresh : sleeper.notified = false) : ∃ sleeper, condition.Due all sleeper := by
  cases found : condition.sleepers.find? fun other => !other.notified with
  | none =>
      have notified := List.find?_eq_none.mp found sleeper mem
      simp [isFresh] at notified
  | some first =>
      rcases List.find?_eq_some_iff_append.mp found with ⟨isFresh, ahead, behind, split, notified⟩
      refine ⟨first, List.mem_of_find?_eq_some found, by simpa using isFresh,
        Or.inr ⟨ahead, behind, split, ?_⟩⟩
      intro other mem
      simpa using notified other mem

end Changing

namespace Sound

variable {waits : ThreadId → Prop}

theorem unique (sound : condition.Sound waits) {other : Sleeper} (mem : sleeper ∈ condition.sleepers)
    (otherMem : other ∈ condition.sleepers) (same : sleeper.thread = other.thread) : sleeper = other :=
  List.inj_on_of_nodup_map sound.distinct mem otherMem same

/-- A sleeper that is there is the one that is found, notified or not. -/
theorem roused_eq_of_lodges (sound : condition.Sound waits) {lodger : Sleeper}
    (lodges : condition.Lodges lodger) (found : condition.sleeper? lodger.thread = some sleeper) :
    sleeper.roused = lodger.roused := by
  rcases List.mem_map.mp lodges with ⟨other, mem, same⟩
  have thread : sleeper.thread = lodger.thread := by simpa using List.find?_some found
  rw [← (Sleeper.of_roused_eq same).1] at thread
  rw [sound.unique (List.mem_of_find?_eq_some found) mem thread, same]

theorem observed_le (sound : condition.Sound waits) (lodges : condition.Lodges sleeper) :
    sleeper.observed ≤ condition.generation := by
  rcases List.mem_map.mp lodges with ⟨lodger, mem, same⟩
  rw [← (Sleeper.of_roused_eq same).2.1]
  exact sound.observed lodger mem

/-- A generation that begins is new to all sleepers. -/
theorem observed_lt (sound : condition.Sound waits) (lodges : condition.Lodges sleeper) :
    sleeper.observed < condition.raise.generation :=
  Nat.lt_succ_of_le (sound.observed_le lodges)

theorem sleeper?_eq_some_iff (sound : condition.Sound waits) :
    condition.sleeper? thread = some sleeper
      ↔ sleeper ∈ condition.sleepers ∧ sleeper.thread = thread := by
  constructor
  · intro found
    exact ⟨List.mem_of_find?_eq_some found, by simpa using List.find?_some found⟩
  · rintro ⟨mem, rfl⟩
    cases found : condition.sleeper? sleeper.thread with
    | none => simpa using List.find?_eq_none.mp found sleeper mem
    | some other =>
        have same : other.thread = sleeper.thread := by simpa using List.find?_some found
        rw [sound.unique (List.mem_of_find?_eq_some found) mem same]

theorem congr (sound : condition.Sound waits) {now : ThreadId → Prop}
    (still : ∀ sleeper ∈ condition.sleepers, waits sleeper.thread → now sleeper.thread) :
    condition.Sound now :=
  ⟨sound.distinct, fun sleeper mem => still sleeper mem (sound.waits sleeper mem), sound.observed⟩

theorem new : Sound {} waits :=
  ⟨List.nodup_nil, fun _ mem => absurd mem List.not_mem_nil, fun _ mem => absurd mem List.not_mem_nil⟩

theorem raise (sound : condition.Sound waits) : condition.raise.Sound waits :=
  ⟨sound.distinct, sound.waits, fun sleeper mem => Nat.le_succ_of_le (sound.observed sleeper mem)⟩

theorem notify (sound : condition.Sound waits) (all : Bool) : (condition.notify all).Sound waits := by
  -- The three facts do not depend on who has been notified.
  have blind {holds : Sleeper → Prop} (blind : ∀ sleeper, holds sleeper.roused ↔ holds sleeper)
      (each : ∀ sleeper ∈ condition.sleepers, holds sleeper) :
      ∀ sleeper ∈ (condition.notify all).sleepers, holds sleeper := by
    intro sleeper mem
    have marked := List.mem_map_of_mem (f := Sleeper.roused) mem
    rw [roused_notify] at marked
    rcases List.mem_map.mp marked with ⟨before, beforeMem, same⟩
    rw [← blind, ← same, blind]
    exact each before beforeMem
  refine ⟨?_, blind (fun _ => Iff.rfl) sound.waits, blind (fun _ => Iff.rfl) sound.observed⟩
  have threads : (condition.notify all).sleepers.map Sleeper.thread
      = condition.sleepers.map Sleeper.thread := by
    have same := congrArg (List.map Sleeper.thread) (roused_notify condition all)
    rw [List.map_map, List.map_map] at same
    exact same
  rw [threads]
  exact sound.distinct

theorem unpark (sound : condition.Sound waits) (thread : ThreadId) :
    (condition.unpark thread).Sound fun other => waits other ∧ other ≠ thread where
  distinct := sound.distinct.sublist (List.filter_sublist.map _)
  waits sleeper mem := by
    rw [mem_sleepers_unpark] at mem
    exact ⟨sound.waits sleeper mem.1, mem.2⟩
  observed sleeper mem := sound.observed sleeper (mem_sleepers_unpark.mp mem).1

theorem park (sound : condition.Sound waits) {observed : Nat} (deadline : Option Instant)
    (absent : ¬waits thread) (past : observed ≤ condition.generation) :
    (condition.park thread observed deadline).Sound fun other => waits other ∨ other = thread where
  distinct := by
    rw [Condition.park, List.map_append, List.nodup_append]
    refine ⟨sound.distinct, List.nodup_singleton _, ?_⟩
    intro first firstMem second secondMem
    rcases List.mem_map.mp firstMem with ⟨sleeper, mem, rfl⟩
    cases List.mem_singleton.mp secondMem
    rintro rfl
    exact absent (sound.waits sleeper mem)
  waits sleeper mem := by
    rcases mem_sleepers_park.mp mem with before | rfl
    · exact Or.inl (sound.waits sleeper before)
    · exact Or.inr rfl
  observed sleeper mem := by
    rcases mem_sleepers_park.mp mem with before | rfl
    · exact sound.observed sleeper before
    · exact past

end Sound

end Condition

end Coordination
