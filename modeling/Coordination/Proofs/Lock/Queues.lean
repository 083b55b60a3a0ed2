import Coordination.Proofs.Lock.Transition

/-!
# Who waits where

The locks and the threads of a system agree (`Queues`): every lock is sound, the places at a lock
are those of the threads that say that they are parked there, and a thread that has given up its
exclusive holds for a wait has nothing else. Every step keeps this, whoever takes it.

What a step does to a lock is of one of three kinds. It leaves the lock alone, it gives holds back
(`Lock.Gives`), or it settles a request (`Lock.Settles`). In each case the other threads keep
their holds and their places (`Frame`), so only the thread that takes the step has to be looked
at.
-/

namespace Coordination.LockSystem

/-- The place at which a thread parks for what it is after. -/
def Pursuit.seat (pursuit : Pursuit) (thread : ThreadId) : Waiter :=
  { thread, request := pursuit.request, deadline := pursuit.deadline }

/-- The exclusive holds that a thread wants back, if it has given some up, and on which lock. -/
def Activity.owes : Activity → Option (LockId × Nat)
  | .waiting place _ holds => some (place, holds)
  | .asking pursuit | .parked pursuit =>
      match pursuit.request with
      | .resume holds => some (pursuit.lock, holds)
      | _ => none
  | _ => none

/-- The locks and the threads agree on who waits where. -/
structure Queues (system : LockSystem) : Prop where
  sound : ∀ id, (system.locks.get id).Sound
  seated : ∀ id (seat : Waiter), seat ∈ (system.locks.get id).seats ↔
    ∃ pursuit, system.activity seat.thread = .parked pursuit ∧ pursuit.lock = id ∧
      seat = pursuit.seat seat.thread
  owing : ∀ thread id holds, (system.activity thread).owes = some (id, holds) →
    0 < holds ∧ (system.locks.get id).book.Holdless thread

/-- A step of a thread leaves the others where they are, and without holds if they have none. -/
structure Frame (thread : ThreadId) (lock next : Lock) : Prop where
  sound : next.Sound
  holdless : ∀ other, thread ≠ other → lock.book.Holdless other → next.book.Holdless other
  others : ∀ seat : Waiter, seat.thread ≠ thread → (seat ∈ next.seats ↔ seat ∈ lock.seats)

theorem frame_refl {thread : ThreadId} {lock : Lock} (sound : lock.Sound) :
    Frame thread lock lock :=
  ⟨sound, fun _ _ holdless => holdless, fun _ _ => Iff.rfl⟩

theorem frame_of_gives {thread : ThreadId} {lock next : Lock} {shares excludes : Nat}
    (gives : lock.Gives thread shares excludes next) : Frame thread lock next where
  sound := gives.sound
  holdless other apart holdless := by
    refine ⟨?_, ?_⟩
    · rw [gives.sharedHolds, holdless.1, Nat.zero_sub]
    · rw [gives.exclusiveHolds, holdless.2, Nat.zero_sub]
  others seat _ := by rw [gives.seats]

theorem frame_of_settles {thread : ThreadId} {lock : Lock} {request : Request}
    {deadline : Option Instant} {result : Lock × Lock.Outcome} (sound : result.1.Sound)
    (settles : lock.Settles thread request deadline result) : Frame thread lock result.1 where
  sound := sound
  holdless other apart holdless := by
    refine ⟨?_, ?_⟩
    · simp [settles.sharedHolds, holdless.1, apart]
    · simp [settles.exclusiveHolds, holdless.2, apart]
  others := settles.others

theorem Plain.ne_parked {activity : Activity} (plain : Plain activity) (pursuit : Pursuit) :
    activity ≠ .parked pursuit := by
  cases plain <;> simp

theorem Plain.owes_eq_none {activity : Activity} (plain : Plain activity) :
    activity.owes = none := by
  cases plain with
  | idle => rfl
  | notifying condition all => rfl
  | acquiring purpose request =>
      rcases request with request | request <;> simp [Activity.owes, request]

namespace Queues

variable {system : LockSystem} {thread : ThreadId} {change : Change} {stepped : Stepped}

theorem of_fresh (fresh : system.Fresh) : system.Queues where
  sound id := Lock.sound_new (fresh.book id) (fresh.waiters id)
  seated id seat := by
    simp [Lock.seats, fresh.waiters, activity, fresh.threads]
  owing thread id holds owes := by
    simp [activity, fresh.threads, Activity.owes] at owes

/-- A thread that is parked has a place at its lock. -/
theorem seat_mem (queues : system.Queues) {pursuit : Pursuit}
    (parked : system.activity thread = .parked pursuit) :
    pursuit.seat thread ∈ (system.locks.get pursuit.lock).seats :=
  (queues.seated _ _).mpr ⟨pursuit, parked, rfl, rfl⟩

/-- A thread that waits at a lock has no hold on it. -/
theorem holdless_of_parked (queues : system.Queues) {pursuit : Pursuit}
    (parked : system.activity thread = .parked pursuit) :
    (system.locks.get pursuit.lock).book.Holdless thread :=
  (queues.sound pursuit.lock).holdless _ (queues.seat_mem parked)

/-- A parked thread is found at its lock, with what it is after. -/
theorem waiter_of_parked (queues : system.Queues) {pursuit : Pursuit}
    (parked : system.activity thread = .parked pursuit) :
    ∃ waiter ∈ (system.locks.get pursuit.lock).waiters,
      (system.locks.get pursuit.lock).waiter? thread = some waiter ∧
        waiter.seat = pursuit.seat thread := by
  have seatMem := queues.seat_mem parked
  rcases List.mem_map.mp seatMem with ⟨first, firstMem, placed⟩
  have here : first.thread = thread := congrArg Waiter.thread placed
  cases found : (system.locks.get pursuit.lock).waiter? thread with
  | none =>
      have := List.find?_eq_none.mp found first firstMem
      simp [here] at this
  | some waiter =>
      rcases Lock.waiter?_eq_some found with ⟨mem, same⟩
      exact ⟨waiter, mem, rfl,
        (queues.sound pursuit.lock).seat_unique (Lock.seat_mem_seats mem) seatMem same⟩

/-- The place of a parked thread says what it is after. -/
theorem placed (queues : system.Queues) {pursuit : Pursuit} {waiter : Waiter}
    (parked : system.activity thread = .parked pursuit)
    (found : (system.locks.get pursuit.lock).waiter? thread = some waiter) :
    waiter.request = pursuit.request ∧ waiter.deadline = pursuit.deadline := by
  rcases queues.waiter_of_parked parked with ⟨other, _, same, placed⟩
  obtain rfl := Option.some.inj (found.symm.trans same)
  exact ⟨congrArg Waiter.request placed, congrArg Waiter.deadline placed⟩

/-- A thread that is not parked at a lock has no place there. -/
theorem absent (queues : system.Queues) {id : LockId}
    (elsewhere : ∀ pursuit, system.activity thread = .parked pursuit → pursuit.lock ≠ id) :
    ∀ seat ∈ (system.locks.get id).seats, seat.thread ≠ thread := by
  intro seat mem same
  rcases (queues.seated id seat).mp mem with ⟨pursuit, parked, place, _⟩
  rw [same] at parked
  exact elsewhere pursuit parked place

/-- What becomes of a pursued request keeps the lock sound and is settled. -/
theorem attempt (queues : system.Queues) {pursuit : Pursuit} {result : Lock × Lock.Outcome}
    (attempt : Attempt system thread pursuit result) :
    result.1.Sound ∧ (system.locks.get pursuit.lock).Settles thread pursuit.request
      pursuit.deadline result := by
  have sound := queues.sound pursuit.lock
  cases attempt with
  | ask asking =>
      have absent : ∀ seat ∈ (system.locks.get pursuit.lock).seats, seat.thread ≠ thread :=
        queues.absent (by simp [asking])
      refine ⟨Lock.sound_ask sound absent fun holds resuming => ?_, Lock.settles_ask absent⟩
      exact queues.owing thread _ holds (by simp [asking, Activity.owes, resuming])
  | wake parked found =>
      rcases queues.placed parked found with ⟨request, deadline⟩
      rcases Lock.waiter?_eq_some found with ⟨mem, same⟩
      rw [← request, ← deadline]
      exact ⟨Lock.sound_wake sound mem, Lock.settles_wake same⟩
  | expire parked found timed =>
      rcases queues.placed parked found with ⟨request, deadline⟩
      rcases Lock.waiter?_eq_some found with ⟨mem, same⟩
      rw [← request, ← deadline]
      exact ⟨Lock.sound_expire sound mem, Lock.settles_expire same⟩

/-- Only a request with a deadline is given up. -/
theorem deadline_ne_none (queues : system.Queues) {pursuit : Pursuit} {result : Lock × Lock.Outcome}
    (attempt : Attempt system thread pursuit result) (timedOut : result.2 = .timedOut) :
    pursuit.deadline ≠ none := by
  cases attempt with
  | ask asking => exact absurd timedOut Lock.ask_ne_timedOut
  | @wake parked waiter found =>
      rcases Lock.attempt_outcome _ waiter.thread waiter.request waiter.deadline with
        outcome | outcome
      · cases timedOut.symm.trans outcome
      · cases timedOut.symm.trans outcome
  | expire parked found timed =>
      rw [← (queues.placed parked found).2]
      exact timed

/-- A step keeps the agreement if it does so for the thread that takes it. -/
theorem of_frame (queues : system.Queues) (stores : Stores system thread change stepped)
    (frame : ∀ id, Frame thread (system.locks.get id) (stepped.state.locks.get id))
    (own : ∀ id (seat : Waiter), seat.thread = thread →
      (seat ∈ (stepped.state.locks.get id).seats ↔
        ∃ pursuit, change.thread.activity = .parked pursuit ∧ pursuit.lock = id ∧
          seat = pursuit.seat thread))
    (owing : ∀ id holds, change.thread.activity.owes = some (id, holds) →
      0 < holds ∧ (stepped.state.locks.get id).book.Holdless thread) :
    stepped.state.Queues where
  sound id := (frame id).sound
  seated id seat := by
    by_cases same : seat.thread = thread
    · rw [own id seat same, activity, same, stores.own]
    · rw [(frame id).others seat same, queues.seated id seat, activity, activity,
        stores.others _ (Ne.symm same)]
  owing other id holds owes := by
    by_cases same : thread = other
    · subst same
      rw [activity, stores.own] at owes
      exact owing id holds owes
    · rw [activity, stores.others other same] at owes
      rcases queues.owing other id holds owes with ⟨positive, holdless⟩
      exact ⟨positive, (frame id).holdless other same holdless⟩

theorem keep (queues : system.Queues) (stores : Stores system thread change stepped)
    (untouched : change.lock = none)
    (before : ∀ pursuit, system.activity thread ≠ .parked pursuit)
    (after : ∀ pursuit, change.thread.activity ≠ .parked pursuit)
    (owing : ∀ id holds, change.thread.activity.owes = some (id, holds) →
      (system.activity thread).owes = some (id, holds)) : stepped.state.Queues := by
  have unchanged := stores.unchanged untouched
  apply queues.of_frame stores
  · intro id
    rw [unchanged]
    exact frame_refl (queues.sound id)
  · intro id seat same
    rw [unchanged]
    have absent : seat ∉ (system.locks.get id).seats := fun mem =>
      queues.absent (fun pursuit parked => absurd parked (before pursuit)) seat mem same
    simp [absent, after]
  · intro id holds owes
    rw [unchanged]
    exact queues.owing thread id holds (owing id holds owes)

theorem give (queues : system.Queues) (stores : Stores system thread change stepped)
    {place : LockId} {lock : Lock} {shares excludes : Nat}
    (changed : change.lock = some (place, lock))
    (gives : (system.locks.get place).Gives thread shares excludes lock)
    (before : ∀ pursuit, system.activity thread ≠ .parked pursuit)
    (after : ∀ pursuit, change.thread.activity ≠ .parked pursuit)
    (owing : ∀ id holds, change.thread.activity.owes = some (id, holds) →
      id = place ∧ 0 < holds ∧ lock.book.Holdless thread) : stepped.state.Queues := by
  have changed := stores.changed place lock changed
  apply queues.of_frame stores
  · intro id
    rw [changed]
    split
    · subst place
      exact frame_of_gives gives
    · exact frame_refl (queues.sound id)
  · intro id seat same
    have seats : (stepped.state.locks.get id).seats = (system.locks.get id).seats := by
      rw [changed]
      split
      · subst place
        exact gives.seats
      · rfl
    have absent : seat ∉ (system.locks.get id).seats := fun mem =>
      queues.absent (fun pursuit parked => absurd parked (before pursuit)) seat mem same
    simp [seats, absent, after]
  · intro id holds owes
    rcases owing id holds owes with ⟨rfl, positive, holdless⟩
    rw [changed, if_pos rfl]
    exact ⟨positive, holdless⟩

theorem settle (queues : system.Queues) (stores : Stores system thread change stepped)
    {pursuit : Pursuit} {lock : Lock} {outcome : Lock.Outcome}
    (attempt : Attempt system thread pursuit (lock, outcome))
    (changed : change.lock = some (pursuit.lock, lock))
    (after : outcome = .parked ∧ change.thread.activity = .parked pursuit ∨
      outcome ≠ .parked ∧ (∀ next, change.thread.activity ≠ .parked next) ∧
        change.thread.activity.owes = none) : stepped.state.Queues := by
  have changed := stores.changed pursuit.lock lock changed
  rcases queues.attempt attempt with ⟨sound, settles⟩
  -- At every other lock the thread is not parked before the step either.
  have elsewhere {id : LockId} (apart : pursuit.lock ≠ id) :
      ∀ seat ∈ (system.locks.get id).seats, seat.thread ≠ thread := by
    apply queues.absent
    intro other parked
    rcases attempt.activity with asking | here
    · simp [asking] at parked
    · obtain rfl := Activity.parked.inj (here.symm.trans parked)
      exact apart
  apply queues.of_frame stores
  · intro id
    rw [changed]
    split
    · subst id
      exact frame_of_settles sound settles
    · exact frame_refl (queues.sound id)
  · intro id seat same
    rw [changed]
    by_cases here : pursuit.lock = id
    · subst id
      rw [if_pos rfl, settles.own seat same]
      rcases after with ⟨rfl, parked⟩ | ⟨gone, unparked, _⟩
      · simp [parked, Pursuit.seat]
      · simp [gone, unparked]
    · have absent : seat ∉ (system.locks.get id).seats := fun mem => elsewhere here seat mem same
      rw [if_neg here]
      rcases after with ⟨rfl, parked⟩ | ⟨_, unparked, _⟩
      · simp [absent, parked, here]
      · simp [absent, unparked]
  · intro id holds owes
    rcases after with ⟨rfl, parked⟩ | ⟨_, _, nothing⟩
    · -- The thread wants holds back and has been parked: it has nothing before or after.
      rw [parked] at owes
      have owed : (system.activity thread).owes = some (id, holds) := by
        rcases attempt.activity with asking | here
        · rw [asking]
          exact owes
        · rw [here]
          exact owes
      rcases queues.owing thread id holds owed with ⟨positive, holdless⟩
      refine ⟨positive, ?_⟩
      rw [changed]
      split
      · subst id
        exact ⟨by simp [settles.sharedHolds, holdless.1, Lock.Outcome.grants],
          by simp [settles.exclusiveHolds, holdless.2, Lock.Outcome.grants]⟩
      · exact holdless
    · simp [nothing] at owes

theorem step (queues : system.Queues) (transition : Transition system thread change)
    (stores : Stores system thread change stepped) : stepped.state.Queues := by
  have idle_ne (idle : system.activity thread = .idle) (pursuit : Pursuit) :
      system.activity thread ≠ .parked pursuit := by simp [idle]
  cases transition with
  | turn after reply before plain =>
      exact queues.keep stores rfl (Plain.ne_parked before) (Plain.ne_parked plain)
        (by simp [Plain.owes_eq_none plain])
  | stay waiting =>
      have unparked (pursuit : Pursuit) : system.activity thread ≠ .parked pursuit := by
        simp [waiting]
      exact queues.keep stores rfl unparked unparked fun _ _ owes => owes
  | discard idle found inactive free =>
      exact queues.keep stores rfl (idle_ne idle) (by simp) (by simp [Activity.owes])
  | releaseShared drop idle found free =>
      exact queues.give stores rfl (Lock.gives_releaseShared (queues.sound _) thread)
        (idle_ne idle) (by simp) (by simp [Activity.owes])
  | releaseExclusive drop idle found free =>
      exact queues.give stores rfl (Lock.gives_releaseExclusive (queues.sound _) thread)
        (idle_ne idle) (by simp) (by simp [Activity.owes])
  | releaseChild drop since idle found free =>
      exact queues.give stores rfl (Lock.gives_releaseExclusive (queues.sound _) thread)
        (idle_ne idle) (by simp) (by simp [Activity.owes])
  | upgrade since idle found free =>
      exact queues.give stores rfl (Lock.gives_releaseShared (queues.sound _) thread)
        (idle_ne idle) (by simp) (by simp [Activity.owes])
  | @wait id place parent lock holds name idle found suspended =>
      have gives := Lock.gives_suspend (queues.sound _) suspended
      rcases Lock.suspend_eq_ok_iff.mp suspended with ⟨unread, writer, _, all⟩
      have positive : 0 < holds := by
        rw [all]
        exact (queues.sound place).book.writing.mpr (by simp [writer])
      have holdless : lock.book.Holdless thread := by
        refine ⟨by simp [gives.sharedHolds, unread], ?_⟩
        rw [gives.exclusiveHolds, if_pos rfl, Book.exclusiveHolds, if_pos writer, all, Nat.sub_self]
      apply queues.give stores rfl gives (idle_ne idle) (by simp)
      intro _ _ owes
      simp only [Activity.owes, Option.some.injEq, Prod.mk.injEq] at owes
      rcases owes with ⟨rfl, rfl⟩
      exact ⟨rfl, positive, holdless⟩
  | leave signalled since waiting =>
      exact queues.keep stores rfl (by simp [waiting]) (by simp) (by simp [waiting, Activity.owes])
  | park attempt => exact queues.settle stores attempt rfl (Or.inl ⟨rfl, rfl⟩)
  | timeOut attempt =>
      exact queues.settle stores attempt rfl (Or.inr ⟨by simp, by simp, rfl⟩)
  | refuse attempt other =>
      exact queues.settle stores attempt rfl (Or.inr ⟨by simp, by simp, rfl⟩)
  | refuseUpgrade since attempt purpose =>
      exact queues.settle stores attempt rfl (Or.inr ⟨by simp, by simp, rfl⟩)
  | acquire attempt granted purpose =>
      exact queues.settle stores attempt rfl
        (Or.inr ⟨Lock.Outcome.ne_parked_of_grants granted, by simp, rfl⟩)
  | makeChild attempt granted purpose =>
      exact queues.settle stores attempt rfl
        (Or.inr ⟨Lock.Outcome.ne_parked_of_grants granted, by simp, rfl⟩)
  | recover attempt granted purpose =>
      exact queues.settle stores attempt rfl
        (Or.inr ⟨Lock.Outcome.ne_parked_of_grants granted, by simp, rfl⟩)
  | restore attempt granted purpose =>
      exact queues.settle stores attempt rfl
        (Or.inr ⟨Lock.Outcome.ne_parked_of_grants granted, by simp, rfl⟩)
  | resume attempt granted purpose =>
      exact queues.settle stores attempt rfl
        (Or.inr ⟨Lock.Outcome.ne_parked_of_grants granted, by simp, rfl⟩)

end Queues

theorem queues_of_reachable {system : LockSystem} (reachable : system.Reachable) :
    system.Queues := by
  refine reachable.induction Queues.of_fresh fun queues performed => ?_
  rcases perform_transition performed with ⟨change, transition, stores⟩
  exact queues.step transition stores

end Coordination.LockSystem
