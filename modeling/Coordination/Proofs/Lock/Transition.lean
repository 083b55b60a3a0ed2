import Coordination.Proofs.Lock.Soundness
import Coordination.Proofs.Lock.Steps

/-!
# What a step can do

`Transition` lists the steps of a thread, each with its guard and with what it stores: a lock, if
it changes one, the new state of the thread, the number of the next handle and the reply.
Conditions are left out, since no step depends on more than the holds that a wait has given up.
Every step of a schedule is a transition (`perform_transition`), so what is kept by all steps is
proved by cases.
-/

namespace Coordination

namespace LockSystem

/-- What a step of a thread stores. -/
structure Change where
  /-- The lock that is changed, with its number. -/
  lock : Option (LockId × Lock) := none
  thread : Thread
  nextHandle : HandleId
  reply : Option Reply

/-- A step stores a change, and leaves everything else but the conditions alone. -/
structure Stores (system : LockSystem) (thread : ThreadId) (change : Change) (stepped : Stepped) :
    Prop where
  own : stepped.state.threads.get thread = change.thread
  others : ∀ other, thread ≠ other → stepped.state.threads.get other = system.threads.get other
  changed : ∀ place lock, change.lock = some (place, lock) → ∀ id,
    stepped.state.locks.get id = if place = id then lock else system.locks.get id
  unchanged : change.lock = none → ∀ id, stepped.state.locks.get id = system.locks.get id
  nextHandle : stepped.state.nextHandle = change.nextHandle
  reply : stepped.reply = change.reply

/-- A thread pursues a request: it is about to ask, or parked. -/
def Activity.Pursues (activity : Activity) (pursuit : Pursuit) : Prop :=
  activity = .asking pursuit ∨ activity = .parked pursuit

/-- What has become of a request that a thread pursues: it asks, or it looks again where it is
parked. -/
inductive Attempt (system : LockSystem) (thread : ThreadId) (pursuit : Pursuit) :
    Lock × Lock.Outcome → Prop where
  | ask (asking : system.activity thread = .asking pursuit) :
      Attempt system thread pursuit
        ((system.locks.get pursuit.lock).ask thread pursuit.request pursuit.deadline)
  | wake (parked : system.activity thread = .parked pursuit) {waiter : Waiter}
      (found : (system.locks.get pursuit.lock).waiter? thread = some waiter) :
      Attempt system thread pursuit ((system.locks.get pursuit.lock).wake waiter)
  | expire (parked : system.activity thread = .parked pursuit) {waiter : Waiter}
      (found : (system.locks.get pursuit.lock).waiter? thread = some waiter)
      (timed : waiter.deadline ≠ none) :
      Attempt system thread pursuit ((system.locks.get pursuit.lock).expire waiter)

theorem Attempt.activity {system : LockSystem} {thread : ThreadId} {pursuit : Pursuit}
    {result : Lock × Lock.Outcome} (attempt : Attempt system thread pursuit result) :
    (system.activity thread).Pursues pursuit := by
  cases attempt with
  | ask asking => exact Or.inl asking
  | wake parked found => exact Or.inr parked
  | expire parked found timed => exact Or.inr parked

/-- Only a request for the exclusive lock is refused. -/
theorem Attempt.request_of_refused {system : LockSystem} {thread : ThreadId} {pursuit : Pursuit}
    {result : Lock × Lock.Outcome} {error : LockError}
    (attempt : Attempt system thread pursuit result) (refused : result.2 = .refused error) :
    pursuit.request = .exclusive := by
  cases attempt with
  | ask asking => exact (Lock.ask_eq_refused_iff.mp refused).1
  | @wake parked waiter found =>
      rcases Lock.attempt_outcome _ waiter.thread waiter.request waiter.deadline with
        outcome | outcome
      · cases refused.symm.trans outcome
      · cases refused.symm.trans outcome
  | @expire parked waiter found timed =>
      rcases Lock.expire_outcome (system.locks.get pursuit.lock) waiter with outcome | outcome
      · cases refused.symm.trans outcome
      · cases refused.symm.trans outcome

/-- What a thread is in the middle of when it neither waits nor wants a hold back. -/
inductive Plain : Activity → Prop where
  | idle : Plain .idle
  | notifying (condition : String) (all : Bool) : Plain (.notifying condition all)
  | acquiring {pursuit : Pursuit} (purpose : pursuit.purpose = .acquire)
      (request : pursuit.request = .shared ∨ pursuit.request = .exclusive) :
      Plain (.asking pursuit)

/-- The handles of a thread after a release, which may also do away with the handle. -/
def afterRelease (handles : Handles) (id : HandleId) (drop : Bool) : Handles :=
  let released := handles.modify id Handle.afterRelease
  if drop then released.erase id else released

/-- The handle of a hold that has been granted. -/
def Pursuit.handle (pursuit : Pursuit) : Handle :=
  if pursuit.request.writes then .exclusive pursuit.lock true none
  else .shared pursuit.lock .active false

/-- The steps of a thread. -/
inductive Transition (system : LockSystem) (thread : ThreadId) : Change → Prop where
  /-- A refusal without a look at the lock, the beginning of a request, and signals. -/
  | turn (after : Activity) (reply : Option Reply) (before : Plain (system.activity thread))
      (plain : Plain after) :
      Transition system thread
        { thread := ⟨system.handles thread, after⟩, nextHandle := system.nextHandle, reply }
  /-- A thread wakes up at a condition and parks there again. -/
  | stay {place : LockId} {name : String} {holds : Nat}
      (waiting : system.activity thread = .waiting place name holds) :
      Transition system thread
        { thread := system.threads.get thread, nextHandle := system.nextHandle, reply := none }
  | discard {id : HandleId} {handle : Handle} (idle : system.activity thread = .idle)
      (found : (system.handles thread).get? id = some handle) (inactive : handle.isActive = false)
      (free : (system.handles thread).isBorrowed id = false) :
      Transition system thread
        { thread := ⟨(system.handles thread).erase id, .idle⟩, nextHandle := system.nextHandle,
          reply := some .done }
  | releaseShared {id : HandleId} {place : LockId} {upgraded : Bool} (drop : Bool)
      (idle : system.activity thread = .idle)
      (found : (system.handles thread).get? id = some (.shared place .active upgraded))
      (free : (system.handles thread).isBorrowed id = false) :
      Transition system thread
        { lock := some (place, (system.locks.get place).releaseShared thread),
          thread := ⟨afterRelease (system.handles thread) id drop, .idle⟩,
          nextHandle := system.nextHandle, reply := some .done }
  | releaseExclusive {id : HandleId} {place : LockId} (drop : Bool)
      (idle : system.activity thread = .idle)
      (found : (system.handles thread).get? id = some (.exclusive place true none))
      (free : (system.handles thread).isBorrowed id = false) :
      Transition system thread
        { lock := some (place, (system.locks.get place).releaseExclusive thread),
          thread := ⟨afterRelease (system.handles thread) id drop, .idle⟩,
          nextHandle := system.nextHandle, reply := some .done }
  /-- The first step of the release of a child. -/
  | releaseChild {id parent : HandleId} {place : LockId} (drop : Bool) (since : Instant)
      (idle : system.activity thread = .idle)
      (found : (system.handles thread).get? id = some (.exclusive place true (some parent)))
      (free : (system.handles thread).isBorrowed id = false) :
      Transition system thread
        { lock := some (place, (system.locks.get place).releaseExclusive thread),
          thread := ⟨afterRelease (system.handles thread) id false,
            .asking
              { purpose := .restore id parent drop, lock := place, request := .shared, since }⟩,
          nextHandle := system.nextHandle, reply := none }
  /-- The first step of an upgrade. -/
  | upgrade {id : HandleId} {place : LockId} (since : Instant)
      (idle : system.activity thread = .idle)
      (found : (system.handles thread).get? id = some (.shared place .active false))
      (free : (system.handles thread).isBorrowed id = false) :
      Transition system thread
        { lock := some (place, (system.locks.get place).releaseShared thread),
          thread := ⟨(system.handles thread).modify id (·.withState .suspended),
            .asking { purpose := .upgrade id, lock := place, request := .exclusive, since }⟩,
          nextHandle := system.nextHandle, reply := none }
  | wait {id : HandleId} {place : LockId} {parent : Option HandleId} {lock : Lock} {holds : Nat}
      (name : String) (idle : system.activity thread = .idle)
      (found : (system.handles thread).get? id = some (.exclusive place true parent))
      (suspended : (system.locks.get place).suspend thread = .ok (lock, holds)) :
      Transition system thread
        { lock := some (place, lock),
          thread := ⟨system.handles thread, .waiting place name holds⟩,
          nextHandle := system.nextHandle, reply := none }
  /-- A wait for a condition is over. -/
  | leave {place : LockId} {name : String} {holds : Nat} (signalled : Bool) (since : Instant)
      (waiting : system.activity thread = .waiting place name holds) :
      Transition system thread
        { thread := ⟨system.handles thread,
            .asking
              { purpose := .resume signalled, lock := place, request := .resume holds, since }⟩,
          nextHandle := system.nextHandle, reply := none }
  | park {pursuit : Pursuit} {lock : Lock}
      (attempt : Attempt system thread pursuit (lock, .parked)) :
      Transition system thread
        { lock := some (pursuit.lock, lock),
          thread := ⟨system.handles thread, .parked pursuit⟩,
          nextHandle := system.nextHandle, reply := none }
  | timeOut {pursuit : Pursuit} {lock : Lock}
      (attempt : Attempt system thread pursuit (lock, .timedOut)) :
      Transition system thread
        { lock := some (pursuit.lock, lock), thread := ⟨system.handles thread, .idle⟩,
          nextHandle := system.nextHandle, reply := some .timedOut }
  | refuse {pursuit : Pursuit} {lock : Lock} {error : LockError}
      (attempt : Attempt system thread pursuit (lock, .refused error))
      (other : ∀ parent, pursuit.purpose ≠ .upgrade parent) :
      Transition system thread
        { lock := some (pursuit.lock, lock), thread := ⟨system.handles thread, .idle⟩,
          nextHandle := system.nextHandle, reply := some (.refused error) }
  /-- A refused upgrade goes on to get the shared hold back. -/
  | refuseUpgrade {pursuit : Pursuit} {lock : Lock} {error : LockError} {parent : HandleId}
      (since : Instant) (attempt : Attempt system thread pursuit (lock, .refused error))
      (purpose : pursuit.purpose = .upgrade parent) :
      Transition system thread
        { lock := some (pursuit.lock, lock),
          thread := ⟨system.handles thread,
            .asking
              { purpose := .recover parent error, lock := pursuit.lock, request := .shared,
                since }⟩,
          nextHandle := system.nextHandle, reply := none }
  | acquire {pursuit : Pursuit} {lock : Lock} {outcome : Lock.Outcome}
      (attempt : Attempt system thread pursuit (lock, outcome)) (granted : outcome.grants = true)
      (purpose : pursuit.purpose = .acquire) :
      Transition system thread
        { lock := some (pursuit.lock, lock),
          thread := ⟨(system.handles thread).add system.nextHandle pursuit.handle, .idle⟩,
          nextHandle := system.nextHandle + 1, reply := some (.handle system.nextHandle) }
  /-- An upgrade succeeds and makes the child. -/
  | makeChild {pursuit : Pursuit} {lock : Lock} {outcome : Lock.Outcome} {parent : HandleId}
      (attempt : Attempt system thread pursuit (lock, outcome)) (granted : outcome.grants = true)
      (purpose : pursuit.purpose = .upgrade parent) :
      Transition system thread
        { lock := some (pursuit.lock, lock),
          thread := ⟨((system.handles thread).modify parent Handle.afterUpgrade).add
            system.nextHandle (.exclusive pursuit.lock true (some parent)), .idle⟩,
          nextHandle := system.nextHandle + 1, reply := some (.handle system.nextHandle) }
  /-- A refused upgrade has its shared hold back. -/
  | recover {pursuit : Pursuit} {lock : Lock} {outcome : Lock.Outcome} {parent : HandleId}
      {error : LockError} (attempt : Attempt system thread pursuit (lock, outcome))
      (granted : outcome.grants = true) (purpose : pursuit.purpose = .recover parent error) :
      Transition system thread
        { lock := some (pursuit.lock, lock),
          thread := ⟨(system.handles thread).modify parent (·.withState .active), .idle⟩,
          nextHandle := system.nextHandle, reply := some (.refused error) }
  /-- The parent of a released child has its shared hold back. -/
  | restore {pursuit : Pursuit} {lock : Lock} {outcome : Lock.Outcome} {child parent : HandleId}
      {drop : Bool} (attempt : Attempt system thread pursuit (lock, outcome))
      (granted : outcome.grants = true) (purpose : pursuit.purpose = .restore child parent drop) :
      Transition system thread
        { lock := some (pursuit.lock, lock),
          thread :=
            ⟨let restored := (system.handles thread).modify parent (·.withState .active)
              if drop then restored.erase child else restored, .idle⟩,
          nextHandle := system.nextHandle, reply := some .done }
  | resume {pursuit : Pursuit} {lock : Lock} {outcome : Lock.Outcome} {signalled : Bool}
      (attempt : Attempt system thread pursuit (lock, outcome)) (granted : outcome.grants = true)
      (purpose : pursuit.purpose = .resume signalled) :
      Transition system thread
        { lock := some (pursuit.lock, lock), thread := ⟨system.handles thread, .idle⟩,
          nextHandle := system.nextHandle, reply := some (.waited signalled) }

section Performing

variable {system : LockSystem} {thread : ThreadId} {now : Instant}

theorem succeed_transition {pursuit : Pursuit} {lock : Lock} {outcome : Lock.Outcome}
    (attempt : Attempt system thread pursuit (lock, outcome)) (granted : outcome.grants = true)
    (log : List Log.Entry) :
    ∃ change, Transition system thread change ∧
      Stores system thread change
        ((system.setLock pursuit.lock lock).succeed thread pursuit log) := by
  cases purpose : pursuit.purpose with
  | acquire =>
      refine ⟨_, .acquire attempt granted purpose, ?_⟩
      constructor <;> simp +contextual [succeed, purpose, finish, handles, Pursuit.handle]
  | upgrade parent =>
      refine ⟨_, .makeChild attempt granted purpose, ?_⟩
      constructor <;> simp +contextual [succeed, purpose, finish, handles]
  | recover parent error =>
      refine ⟨_, .recover attempt granted purpose, ?_⟩
      constructor <;> simp +contextual [succeed, purpose, finish, handles]
  | restore child parent drop =>
      refine ⟨_, .restore attempt granted purpose, ?_⟩
      cases drop <;> constructor <;> simp +contextual [succeed, purpose, finish, handles]
  | resume signalled =>
      refine ⟨_, .resume attempt granted purpose, ?_⟩
      constructor <;> simp +contextual [succeed, purpose, finish, handles]

theorem refuse_transition {pursuit : Pursuit} {lock : Lock} {error : LockError}
    (attempt : Attempt system thread pursuit (lock, .refused error)) (log : List Log.Entry) :
    ∃ change, Transition system thread change ∧
      Stores system thread change
        ((system.setLock pursuit.lock lock).refuse thread pursuit error now log) := by
  by_cases upgrading : ∃ parent, pursuit.purpose = .upgrade parent
  · rcases upgrading with ⟨parent, purpose⟩
    refine ⟨_, .refuseUpgrade now attempt purpose, ?_⟩
    constructor <;> simp +contextual [refuse, purpose, carryOn, handles]
  · have other : ∀ parent, pursuit.purpose ≠ .upgrade parent :=
      fun parent purpose => upgrading ⟨parent, purpose⟩
    refine ⟨_, .refuse attempt other, ?_⟩
    cases purpose : pursuit.purpose with
    | upgrade parent => exact absurd purpose (other parent)
    | _ => constructor <;> simp +contextual [refuse, purpose, finish, handles]

theorem settle_transition {pursuit : Pursuit} {result : Lock × Lock.Outcome}
    (attempt : Attempt system thread pursuit result) :
    ∃ change, Transition system thread change ∧
      Stores system thread change (system.settle thread pursuit now result) := by
  rcases result with ⟨lock, outcome⟩
  cases outcome with
  | granted => exact succeed_transition attempt rfl _
  | reentered => exact succeed_transition attempt rfl _
  | refused error => exact refuse_transition attempt _
  | parked =>
      refine ⟨_, .park attempt, ?_⟩
      constructor <;> simp +contextual [settle, carryOn, handles]
  | timedOut =>
      refine ⟨_, .timeOut attempt, ?_⟩
      constructor <;> simp +contextual [settle, finish, handles]

theorem carryOn_transition {after : Activity} (before : Plain (system.activity thread))
    (plain : Plain after) (log : List Log.Entry) :
    ∃ change, Transition system thread change ∧
      Stores system thread change (system.carryOn thread after log) := by
  refine ⟨_, .turn after none before plain, ?_⟩
  constructor <;> simp +contextual [carryOn, handles]

/-- A refusal that the lock is not asked for. -/
theorem finish_transition (idle : system.activity thread = .idle) (reply : Reply)
    (log : List Log.Entry) :
    ∃ change, Transition system thread change ∧
      Stores system thread change (system.finish thread reply log) := by
  have before : Plain (system.activity thread) := by rw [idle]; exact .idle
  refine ⟨_, .turn .idle (some reply) before .idle, ?_⟩
  constructor <;> simp +contextual [finish, handles]

theorem leave_transition {place : LockId} {name : String} {holds : Nat} (signalled : Bool)
    (waiting : system.activity thread = .waiting place name holds) :
    ∃ change, Transition system thread change ∧
      Stores system thread change (system.leave now thread place name holds signalled) := by
  refine ⟨_, .leave signalled now waiting, ?_⟩
  constructor <;> simp +contextual [leave, carryOn, handles]

theorem Begins.transition {operation : Operation} {stepped : Stepped}
    (begins : Begins system now thread operation stepped) (idle : system.activity thread = .idle) :
    ∃ change, Transition system thread change ∧ Stores system thread change stepped := by
  have before : Plain (system.activity thread) := by rw [idle]; exact .idle
  cases begins with
  | shared => exact carryOn_transition before (.acquiring rfl (Or.inl rfl)) []
  | exclusive => exact carryOn_transition before (.acquiring rfl (Or.inr rfl)) []
  | signal name all =>
      refine ⟨_, .turn _ none before (.notifying name all), ?_⟩
      constructor <;> simp +contextual [carryOn, handles]
  | overflow | absent | borrowed | upgradeExclusive | refuseUpgrade | waitShared | waitReleased
  | overflowWait | refuseWait =>
      exact finish_transition idle _ []
  | upgrade found free =>
      refine ⟨_, .upgrade now idle found free, ?_⟩
      constructor <;> simp +contextual [carryOn, handles]
  | discard drop found inactive free =>
      cases drop with
      | false => exact finish_transition idle .done []
      | true =>
          refine ⟨_, .discard idle found inactive free, ?_⟩
          constructor <;> simp +contextual [forget, finish, handles]
  | releaseShared drop found free =>
      refine ⟨_, .releaseShared drop idle found free, ?_⟩
      cases drop <;> constructor <;> simp +contextual [forget, finish, handles, afterRelease]
  | releaseExclusive drop found free =>
      refine ⟨_, .releaseExclusive drop idle found free, ?_⟩
      cases drop <;> constructor <;> simp +contextual [forget, finish, handles, afterRelease]
  | releaseChild drop found free =>
      refine ⟨_, .releaseChild drop now idle found free, ?_⟩
      constructor <;> simp +contextual [carryOn, handles, afterRelease]
  | wait name found free fits suspended =>
      refine ⟨_, .wait name idle found suspended, ?_⟩
      constructor <;> simp +contextual [carryOn, handles]

theorem perform_transition {move : Move} {stepped : Stepped}
    (performed : system.perform now move = some stepped) :
    ∃ change, Transition system move.thread change ∧
      Stores system move.thread change stepped := by
  cases perform_eq_some_iff.mp performed with
  | begin operation idle => exact (begins_begin system now _ operation).transition idle
  | ask asking => exact settle_transition (.ask asking)
  | @notify _ name all notifying =>
      refine ⟨_, .turn _ (some .done) ?_ .idle, ?_⟩
      · rw [Move.thread, notifying]
        exact .notifying name all
      · constructor <;> simp +contextual [Move.thread, finish, handles]
  | wake parked found => exact settle_transition (.wake parked found)
  | expire parked found passed =>
      refine settle_transition (.expire parked found ?_)
      intro untimed
      simp [isOver, untimed] at passed
  | stay waiting =>
      refine ⟨_, .stay waiting, ?_⟩
      constructor <;> simp
  | leave waiting | leaveLate waiting => exact leave_transition _ waiting

end Performing

end LockSystem

end Coordination
