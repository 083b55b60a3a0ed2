import Coordination.Proofs.Lock.Discipline
import Coordination.Proofs.Lock.Exclusion
import Mathlib.Algebra.BigOperators.Group.Finset.Basic
import Mathlib.Algebra.Order.BigOperators.Group.Finset
import Mathlib.Data.Finset.Range

/-!
# No bump is lost

Some threads bump a counter again and again, each bump in two steps. In one kind of round a thread bumps
under the exclusive lock; in the other it bumps only while the counter is below a limit, by double-checked
locking. Both are disciplined (`plan_bumpExclusive`, `plan_bumpBelow`), and for a team that runs disciplined
programs the counter is the number of bumps so far, of which none has been lost and none is owed too much
(`Tally`). What every step keeps, every run keeps (`tally_of_run`), and `countsTo_of_plan` reads it off:
at most one thread at a time is inside a bump, every run can be brought to an end, and at the end the
counter is what the rounds add up to, with nothing left at the lock.

That a run can be brought to an end is shown by the steps that the threads still take: if no thread that
has not finished can go on, then nobody has a hold, and one of those who wait is admitted.
-/

namespace Coordination

open LockSystem (Operation Reply)

namespace Section

/-- A bump under a shared hold under the exclusive lock. -/
def bumpExclusive : Program Operation Reply (Ending LockError Unit) :=
  exclusiveLocked 0 (sharedLocked 0 (bump.bind fun _ => .finish (.value ())))

def readCounter : Program Operation Reply (Ending LockError Int) :=
  .load counter fun value => .finish (.value (value.getD 0))

/-- A bump if the counter is below a limit. -/
def bumpBelow (limit : Nat) : Program Operation Reply (Ending LockError Int) :=
  sharedUpgradable 0 readCounter (fun count => .finish (.value (decide (count < limit))))
    (fun count => bump.bind fun _ => .finish (.value count))

theorem checked_readCounter (limit : Nat) (write : Int → Program Operation Reply (Ending LockError Int)) :
    checked readCounter (fun count => .finish (.value (decide (count < limit)))) write
      = .load counter fun value =>
          if value.getD 0 < limit then write (value.getD 0) else .finish (.value (value.getD 0)) := by
  refine congrArg (Program.load counter) (funext fun value => ?_)
  by_cases below : value.getD 0 < limit
  · simp [Bind.bind, below]
  · simp [Bind.bind, pure, below]

def repeated {α : Type} (round : Program Operation Reply (Ending LockError α)) :
    Nat → Program Operation Reply Unit
  | 0 => .finish ()
  | rounds + 1 => round.bind fun _ => repeated round rounds

end Section

section Plans

variable {owed size : Nat} {next : Program Operation Reply Unit}

open Section

theorem plan_bumpExclusive (rest : Plan none {} false owed size next) :
    Plan none {} false (owed + 1) (size + 10) (bumpExclusive.bind fun _ => next) := by
  refine .exclusive fun id => .shared fun reader absent => ?_
  have apart : id ≠ reader := by
    rintro rfl
    simp [Handles.get?] at absent
  refine .bump ⟨id, none, by simp [Handles.get?, Handles.add]⟩ (Or.inr rfl) ?_
  have other : (reader == id) = false := by simpa using Ne.symm apart
  refine .drop (.shared 0 .active false)
    (by simp [Handles.get?, Handles.add, List.lookup_cons, other]) rfl rfl
    (by simp [Handles.isBorrowed, Handles.add, Handle.parent?]) ?_
  have left : LockSystem.afterRelease
      (Handles.add ⟨[(id, .exclusive 0 true none)]⟩ reader (.shared 0 .active false)) reader true
        = ⟨[(id, .exclusive 0 true none)]⟩ := by
    simp [LockSystem.afterRelease, Handles.add, Handles.modify, Handles.erase, apart]
  rw [left]
  refine .drop (.exclusive 0 true none) (by simp [Handles.get?]) rfl rfl
    (by simp [Handles.isBorrowed, Handle.parent?]) ?_
  have none : LockSystem.afterRelease ⟨[(id, .exclusive 0 true none)]⟩ id true = {} := by
    simp [LockSystem.afterRelease, Handles.modify, Handles.erase]
  rw [none]
  exact rest

theorem plan_bumpBelow {limit : Nat} (rest : Plan (some limit) {} false owed size next) :
    Plan (some limit) {} false (owed + 1) (size + 14) ((bumpBelow limit).bind fun _ => next) := by
  have room {count : Nat} : Room (some limit) count ↔ (count : Int) < limit := by simp [Room]
  simp only [bumpBelow, sharedUpgradable, checked_readCounter]
  refine .shared fun id absent => ?_
  have leave {upgraded : Bool} : Plan (some limit) ⟨[(id, .shared 0 .active upgraded)]⟩ false owed
      (size + 1) (.ask (.drop id) fun _ => next) := by
    refine .drop (.shared 0 .active upgraded) (by simp [Handles.get?]) rfl rfl
      (by simp [Handles.isBorrowed, Handle.parent?]) ?_
    have none : LockSystem.afterRelease ⟨[(id, .shared 0 .active upgraded)]⟩ id true = {} := by
      simp [LockSystem.afterRelease, Handles.modify, Handles.erase]
    rw [none]
    exact rest
  refine .look false owed (size + 1) (by rintro ⟨⟩) ?_ (by omega) (by omega) ?_
  · intro count free
    simp only [Option.getD_some, if_pos (room.mp free)]
    refine .upgrade fun child apart => ?_
    have excluding : Excluding
        ⟨[(id, .shared 0 .suspended true), (child, .exclusive 0 true (some id))]⟩ := by
      have other : (child == id) = false := by simpa using apart
      exact ⟨child, some id, by simp [Handles.get?, List.lookup_cons, other]⟩
    refine .look true owed (size + 4) (fun _ => excluding) ?_ (by omega) (by omega) ?_
    · intro count free
      simp only [Option.getD_some, if_pos (room.mp free)]
      exact .bump excluding (Or.inl rfl) (.dropChild apart leave)
    · intro count full
      simp only [Option.getD_some, if_neg (mt room.mpr full)]
      exact .dropChild apart leave
  · intro count full
    simp only [Option.getD_some, if_neg (mt room.mpr full)]
    exact leave

theorem plan_repeated {limit : Option Nat} {α : Type}
    {round : Program Operation Reply (Ending LockError α)} {cost : Nat}
    (plan : ∀ {owed size : Nat} {next : Program Operation Reply Unit},
      Plan limit {} false owed size next →
        Plan limit {} false (owed + 1) (size + cost) (round.bind fun _ => next))
    (rounds : Nat) : Plan limit {} false rounds (rounds * cost) (repeated round rounds) := by
  induction rounds with
  | zero =>
      rw [Nat.zero_mul]
      exact .finish
  | succ rounds ih =>
      rw [Nat.succ_mul]
      exact plan ih

end Plans

/-- The counter of a team and what its threads owe, after some numbers have been stored. -/
structure Tally (n : Nat) (limit : Option Nat) (quota : Nat) (stored : List (ThreadId × String))
    (team : Team) (owed size : ThreadId → Nat) : Prop where
  reachable : team.system.Reachable
  cell : team.cells.get counter = some (stored.length : Int)
  under : ∀ bound ∈ limit, stored.length ≤ bound
  bumps : ∀ entry ∈ stored, entry.1 < n ∧ entry.2 = counter
  stands : ∀ thread, Stands limit stored.length (team.system.threads.get thread) (team.work thread)
    (owed thread) (size thread)
  due : ∀ thread < n, stored.count (thread, counter) + owed thread ≤ quota ∧
    (stored.count (thread, counter) + owed thread = quota ∨ ¬Room limit stored.length)
  away : ∀ thread, n ≤ thread → (team.work thread).Finished

namespace Tally

variable {n quota : Nat} {limit : Option Nat} {stored : List (ThreadId × String)} {team next : Team}
  {owed size : ThreadId → Nat} {choice : Team.Choice}

theorem mover_lt (tally : Tally n limit quota stored team owed size) (step : team.Step choice next) :
    choice.thread < n := by
  by_contra away
  have finished := tally.away choice.thread (Nat.not_lt.mp away)
  cases step with
  | begins work | goesOn work | loads work | stores work | marks work | passes work | sleeps work =>
      cases work.symm.trans finished

/-- A step keeps the tally. What the threads may still do gets less, unless one of them wakes up in
vain. -/
theorem step (tally : Tally n limit quota stored team owed size) (step : team.Step choice next) :
    ∃ owed' size', Tally n limit quota ((team.stores? choice).toList ++ stored) next owed' size' ∧
      (∀ thread, size' thread ≤ size thread) ∧
      (¬team.system.Stuck choice.thread → size' choice.thread < size choice.thread) := by
  have mine := tally.mover_lt step
  have others {thread : ThreadId} (apart : thread ≠ choice.thread) := step.others (Ne.symm apart)
  have away (thread : ThreadId) (le : n ≤ thread) : (next.work thread).Finished := by
    rw [(others (Nat.ne_of_gt (Nat.lt_of_lt_of_le mine le))).1]
    exact tally.away thread le
  have shrinks {less : Nat} (le : less ≤ size choice.thread) (thread : ThreadId) :
      Function.update size choice.thread less thread ≤ size thread := by
    rcases eq_or_ne thread choice.thread with rfl | apart
    · rwa [Function.update_self]
    · rw [Function.update_of_ne apart]
  cases (tally.stands choice.thread).step tally.reachable tally.cell step with
  | @quiet fewer less nothing cells le due shorter stands =>
      refine ⟨Function.update owed choice.thread fewer, Function.update size choice.thread less, ?_,
        shrinks (by omega), ?_⟩
      · simp only [nothing, Option.toList, List.nil_append]
        refine ⟨step.reachable tally.reachable, cells ▸ tally.cell, tally.under, tally.bumps, ?_, ?_, away⟩
        · intro thread
          rcases eq_or_ne thread choice.thread with rfl | apart
          · simpa using stands
          · rw [Function.update_of_ne apart, Function.update_of_ne apart, (others apart).1,
              (others apart).2]
            exact tally.stands thread
        · intro thread inside
          rcases eq_or_ne thread choice.thread with rfl | apart
          · rw [Function.update_self]
            rcases tally.due choice.thread inside with ⟨most, exactly | full⟩
            · refine ⟨by omega, ?_⟩
              rcases due with rfl | full
              · exact Or.inl exactly
              · exact Or.inr full
            · exact ⟨by omega, Or.inr full⟩
          · rw [Function.update_of_ne apart]
            exact tally.due thread inside
      · intro free
        rw [Function.update_self]
        rcases shorter with shorter | ⟨_, stuck⟩
        · exact shorter
        · exact absurd stuck free
  | @bumps handles less fewer store cell room state excluding due shorter stands =>
      refine ⟨Function.update owed choice.thread fewer, Function.update size choice.thread less, ?_,
        shrinks (Nat.le_of_lt shorter), ?_⟩
      · simp only [store, Option.toList, List.singleton_append]
        refine ⟨step.reachable tally.reachable, cell, room, ?_, ?_, ?_, away⟩
        · intro entry mem
          rcases List.mem_cons.mp mem with rfl | mem
          · exact ⟨mine, rfl⟩
          · exact tally.bumps entry mem
        · intro thread
          rcases eq_or_ne thread choice.thread with rfl | apart
          · simpa using stands
          · rw [Function.update_of_ne apart, Function.update_of_ne apart, (others apart).1,
              (others apart).2]
            -- The others do not have the exclusive lock.
            refine (tally.stands thread).recount fun handles' state' excluding' => apart ?_
            exact unique_of_excluding tally.reachable state' state excluding' excluding
        · intro thread inside
          rcases tally.due thread inside with ⟨most, exactly | full⟩
          · suffices owes : ((choice.thread, counter) :: stored).count (thread, counter)
                + Function.update owed choice.thread fewer thread = quota from
              ⟨Nat.le_of_eq owes, Or.inl owes⟩
            rcases eq_or_ne thread choice.thread with rfl | apart
            · rw [Function.update_self, List.count_cons_self]
              omega
            · rw [Function.update_of_ne apart, List.count_cons_of_ne (by simpa using Ne.symm apart)]
              exact exactly
          · exact absurd room full
      · intro _
        rw [Function.update_self]
        exact shorter

theorem length_eq_sum (bumps : ∀ entry ∈ stored, entry.1 < n ∧ entry.2 = counter) :
    stored.length = ∑ thread ∈ Finset.range n, stored.count (thread, counter) := by
  induction stored with
  | nil => simp
  | cons entry rest ih =>
      rcases entry with ⟨mover, cell⟩
      rcases bumps (mover, cell) List.mem_cons_self with ⟨inside, rfl⟩
      have apart (thread : ThreadId) : ((mover, counter) == (thread, counter)) = (mover == thread) := by
        simp
      rw [List.length_cons, ih fun entry mem => bumps entry (List.mem_cons_of_mem _ mem)]
      simp [List.count_cons, Finset.sum_add_distrib, inside]

/-- At the end the counter is what the rounds add up to, up to the limit. -/
theorem length_of_finished (tally : Tally n limit quota stored team owed size) (finished : team.Finished) :
    stored.length = limit.elim (n * quota) (min · (n * quota)) := by
  have owes (thread : ThreadId) : owed thread = 0 :=
    ((tally.stands thread).of_finished (finished thread)).1
  have total := length_eq_sum tally.bumps
  have quotas : ∑ _thread ∈ Finset.range n, quota = n * quota := by simp
  by_cases room : Room limit stored.length
  · have every : stored.length = n * quota := by
      rw [total, ← quotas]
      refine Finset.sum_congr rfl fun thread mem => ?_
      rcases tally.due thread (Finset.mem_range.mp mem) with ⟨_, exactly | full⟩
      · rw [← exactly, owes, Nat.add_zero]
      · exact absurd room full
    cases limit with
    | none => exact every
    | some bound =>
        have below := tally.under bound rfl
        simp only [Option.elim]
        omega
  · have most : stored.length ≤ n * quota := by
      rw [total, ← quotas]
      refine Finset.sum_le_sum fun thread mem => ?_
      have due := (tally.due thread (Finset.mem_range.mp mem)).1
      omega
    cases limit with
    | none => exact absurd (by rintro _ ⟨⟩) room
    | some bound =>
        have below := tally.under bound rfl
        have reached : ¬stored.length < bound := by simpa [Room] using room
        simp only [Option.elim]
        omega

theorem unheld_of_finished (tally : Tally n limit quota stored team owed size) (finished : team.Finished) :
    (team.system.locks.get 0).book = {} ∧ (team.system.locks.get 0).waiters = [] := by
  have rests (thread : ThreadId) : team.system.threads.get thread = ⟨{}, .idle⟩ :=
    ((tally.stands thread).of_finished (finished thread)).2
  refine (LockSystem.accounts_of_reachable tally.reachable).initial_of_inactive
    (LockSystem.queues_of_reachable tally.reachable) ?_ ?_
  · intro thread
    rw [LockSystem.activity, rests]
  · intro thread id handle found
    rw [LockSystem.handles, rests] at found
    cases found

/-- Some thread that has not finished can go on. -/
theorem exists_free (tally : Tally n limit quota stored team owed size) (unfinished : ¬team.Finished) :
    ∃ thread, ¬(team.work thread).Finished ∧ ¬team.system.Stuck thread := by
  by_contra none
  have queues := LockSystem.queues_of_reachable tally.reachable
  have stuck (thread : ThreadId) (busy : ¬(team.work thread).Finished) : team.system.Stuck thread := by
    by_contra free
    exact none ⟨thread, busy, free⟩
  have parked {thread : ThreadId} (busy : ¬(team.work thread).Finished) :
      ∃ pursuit, team.system.activity thread = .parked pursuit ∧ pursuit.lock = 0 := by
    rcases stuck thread busy with ⟨pursuit, parked, _⟩
    exact ⟨pursuit, parked, (tally.stands thread).lock_of_parked parked⟩
  have idle {thread : ThreadId} (finished : (team.work thread).Finished) :
      team.system.threads.get thread = ⟨{}, .idle⟩ :=
    ((tally.stands thread).of_finished finished).2
  have holdless (thread : ThreadId) : (team.system.locks.get 0).book.Holdless thread := by
    by_cases finished : (team.work thread).Finished
    · have rests : team.system.activity thread = .idle := by
        rw [LockSystem.activity, idle finished]
      have counts := (LockSystem.accounts_of_reachable tally.reachable).holds_of_idle rests 0
      rw [LockSystem.handles, idle finished] at counts
      exact counts
    · rcases parked finished with ⟨pursuit, waits, there⟩
      rw [← there]
      exact queues.holdless_of_parked waits
  rcases not_forall.mp unfinished with ⟨first, busy⟩
  rcases parked busy with ⟨pursuit, waits, there⟩
  rcases Lock.exists_admitted (queues.sound 0) (there ▸ queues.seat_mem waits) holdless with
    ⟨seat, mem, admitted⟩
  rcases (queues.seated 0 seat).mp mem with ⟨aim, waiting, place, same⟩
  have busy : ¬(team.work seat.thread).Finished := by
    intro finished
    rw [LockSystem.activity, idle finished] at waiting
    cases waiting
  rcases stuck seat.thread busy with ⟨aim', waiting', refused⟩
  cases waiting.symm.trans waiting'
  rw [same] at admitted
  cases admitted.symm.trans (place ▸ refused)

/-- However a run has begun, the threads can finish their work. -/
theorem finishes (tally : Tally n limit quota stored team owed size) :
    ∃ choices, (team.follow choices).Finished := by
  induction measure : ∑ thread ∈ Finset.range n, size thread using Nat.strong_induction_on
    generalizing stored team owed size with
  | _ total ih =>
      by_cases finished : team.Finished
      · exact ⟨[], finished⟩
      · rcases tally.exists_free finished with ⟨thread, busy, free⟩
        rcases (tally.stands thread).exists_choice tally.reachable busy with ⟨choice, rfl, moves⟩
        rcases Option.isSome_iff_exists.mp moves with ⟨next, performed⟩
        have step := Team.step_of_perform performed
        rcases tally.step step with ⟨owed', size', tally', shrinks, shorter⟩
        have less : ∑ thread ∈ Finset.range n, size' thread < total := by
          rw [← measure]
          exact Finset.sum_lt_sum (fun thread _ => shrinks thread)
            ⟨choice.thread, Finset.mem_range.mpr (tally.mover_lt step), shorter free⟩
        rcases ih _ less tally' rfl with ⟨choices, finished⟩
        refine ⟨choice :: choices, ?_⟩
        rw [Team.follow, performed]
        exact finished

end Tally

namespace Team

/-- As many threads as asked for that each run a program; all others have nothing to do. -/
def crew (system : LockSystem) (cells : Table String (Option Int)) (n : Nat)
    (program : Program Operation Reply Unit) : Team :=
  ⟨system, cells, fun thread => .ready (if thread < n then program else .finish ())⟩

/-- In no run of a team two threads are inside a bump together. Every run can be brought to an end, and
at the end both the counter and the number of bumps, which are all that has been stored, are the total,
and the lock is as it was at first. -/
structure CountsTo (start : Team) (total : Nat) : Prop where
  alone : ∀ {stored : List (ThreadId × String)} {team : Team}, Run start stored team →
    ∀ thread other, team.Bumps thread → team.Bumps other → thread = other
  ends : ∀ {stored : List (ThreadId × String)} {team : Team}, Run start stored team →
    ∃ choices, (team.follow choices).Finished
  total : ∀ {stored : List (ThreadId × String)} {team : Team}, Run start stored team → team.Finished →
    team.cells.get counter = some (total : Int) ∧
      stored.length = total ∧ (∀ entry ∈ stored, entry.2 = counter) ∧
      (team.system.locks.get 0).book = {} ∧ (team.system.locks.get 0).waiters = []

variable {n rounds cost : Nat} {limit : Option Nat} {system : LockSystem}
  {cells : Table String (Option Int)} {program : Program Operation Reply Unit}

theorem tally_of_run {team : Team} {stored : List (ThreadId × String)} (fresh : system.Fresh)
    (zero : cells.get counter = some 0) (plan : Plan limit {} false rounds cost program)
    (run : Run (crew system cells n program) stored team) :
    ∃ owed size, Tally n limit rounds stored team owed size := by
  induction run with
  | here =>
      refine ⟨fun thread => if thread < n then rounds else 0, fun thread => if thread < n then cost else 0,
        ⟨[], .fresh fresh⟩, zero, fun _ _ => Nat.zero_le _, ?_, ?_, ?_, ?_⟩
      · intro row mem
        exact absurd mem List.not_mem_nil
      · intro thread
        by_cases inside : thread < n
        · simp only [crew, if_pos inside]
          exact .ready (fresh.threads thread) plan (by rintro ⟨⟩)
        · simp only [crew, if_neg inside]
          exact .ready (fresh.threads thread) .finish (by rintro ⟨⟩)
      · intro thread inside
        simp [if_pos inside]
      · intro thread away
        simp [crew, Work.Finished, Nat.not_lt.mpr away]
  | step run performed ih =>
      rcases ih with ⟨owed, size, tally⟩
      rcases tally.step (step_of_perform performed) with ⟨owed', size', tally', _⟩
      exact ⟨owed', size', tally'⟩

theorem countsTo_of_plan (fresh : system.Fresh) (zero : cells.get counter = some 0)
    (plan : Plan limit {} false rounds cost program) :
    (crew system cells n program).CountsTo (limit.elim (n * rounds) (min · (n * rounds))) where
  alone run thread other bumps bumps' := by
    rcases tally_of_run fresh zero plan run with ⟨owed, size, tally⟩
    rcases (tally.stands thread).excluding_of_bumps bumps with ⟨handles, rests, excluding⟩
    rcases (tally.stands other).excluding_of_bumps bumps' with ⟨handles', rests', excluding'⟩
    exact unique_of_excluding tally.reachable rests rests' excluding excluding'
  ends run := by
    rcases tally_of_run fresh zero plan run with ⟨owed, size, tally⟩
    exact tally.finishes
  total run finished := by
    rcases tally_of_run fresh zero plan run with ⟨owed, size, tally⟩
    have length := tally.length_of_finished finished
    refine ⟨?_, length, fun entry mem => (tally.bumps entry mem).2, tally.unheld_of_finished finished⟩
    rw [← length]
    exact tally.cell

end Team

namespace Section

/-- Whatever the schedule, if each of `n` threads bumps the counter `r` times under the exclusive lock,
the counter ends at `n * r`; and if each of them `r` times bumps it by double-checked locking while it is
below `k`, it ends at the lesser of `k` and `n * r`. No two threads are ever inside a bump together, and
at the end nobody holds the lock or waits for it. -/
theorem countsTo_of_rounds (n r k : Nat) {system : LockSystem} (fresh : system.Fresh)
    {cells : Table String (Option Int)} (zero : cells.get counter = some 0) :
    (Team.crew system cells n (repeated bumpExclusive r)).CountsTo (n * r) ∧
      (Team.crew system cells n (repeated (bumpBelow k) r)).CountsTo (min k (n * r)) :=
  ⟨Team.countsTo_of_plan fresh zero (plan_repeated plan_bumpExclusive r),
    Team.countsTo_of_plan fresh zero (plan_repeated plan_bumpBelow r)⟩

/-- Three threads that may bump the counter twice each, but not above four. -/
def threesome : Team := .crew {} ((Table.empty).set counter (some 0)) 3 (repeated (bumpBelow 4) 2)

theorem countsTo_of_threesome :
    ∃ stored team, Team.Run threesome stored team ∧ team.Finished ∧
      team.cells.get counter = some 4 ∧ stored.length = 4 := by
  have fresh : LockSystem.Fresh {} := ⟨fun _ => rfl, fun _ => rfl, fun _ => rfl, fun _ => rfl⟩
  have zero : (Table.empty.set counter (some 0)).get counter = some (0 : Int) := rfl
  have counts : threesome.CountsTo 4 := (countsTo_of_rounds 3 2 4 fresh zero).2
  rcases counts.ends .here with ⟨choices, finished⟩
  have run := (Team.Run.here : Team.Run threesome [] threesome).follow choices
  have total := counts.total run finished
  exact ⟨_, _, run, finished, total.1, total.2.1⟩

end Section

end Coordination
