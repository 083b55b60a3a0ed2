import Coordination.Proofs.Lock.Schedule

/-!
# The steps of a thread

`Begins` lists what the first step of an operation leads to, and `Advance` lists the moves of a schedule,
each with its guard. These are all the steps there are (`begins_begin`, `perform_eq_some_iff`), so what a
step does is proved by cases, and a step whose guard is known is found by `Begins.unique`.
-/

namespace Coordination

namespace LockSystem

/-- The handle that an operation uses. -/
def Operation.handle? : Operation → Option HandleId
  | .upgrade handle | .release handle | .drop handle | .wait handle _ _ => some handle
  | .shared _ _ | .exclusive _ _ | .signal _ _ => none

/-- The operation that gives a handle back. -/
def giving (id : HandleId) (drop : Bool) : Operation := if drop then .drop id else .release id

theorem handle?_giving (id : HandleId) (drop : Bool) : (giving id drop).handle? = some id := by
  cases drop <;> rfl

/-- A handle that is dropped is done away with. -/
def forget (system : LockSystem) (thread : ThreadId) (id : HandleId) (drop : Bool) : LockSystem :=
  if drop then system.modifyHandles thread (·.erase id) else system

/-- The first steps of operations. -/
inductive Begins (system : LockSystem) (now : Instant) (thread : ThreadId) :
    Operation → Stepped → Prop where
  | shared (lock : LockId) {timeout : Option Duration} (fits : timeout.all (·.fits now) = true) :
      Begins system now thread (.shared lock timeout)
        (system.carryOn thread
          (.asking
            { purpose := .acquire, lock, request := .shared,
              deadline := timeout.map (·.after now), since := now })
          [])
  | exclusive (lock : LockId) {timeout : Option Duration} (fits : timeout.all (·.fits now) = true) :
      Begins system now thread (.exclusive lock timeout)
        (system.carryOn thread
          (.asking
            { purpose := .acquire, lock, request := .exclusive,
              deadline := timeout.map (·.after now), since := now })
          [])
  /-- The clock cannot tell the deadline of a request. -/
  | overflow {operation : Operation} {lock : LockId} {timeout : Option Duration}
      (asks : operation = .shared lock timeout ∨ operation = .exclusive lock timeout)
      (endless : timeout.all (·.fits now) = false) :
      Begins system now thread operation
        (system.finish thread (.panicked Duration.overflowText) [])
  | signal (name : String) (all : Bool) :
      Begins system now thread (.signal name all)
        ((system.setCondition name (system.conditions.get name).raise).carryOn thread
          (.notifying name all) [])
  | absent {operation : Operation} {id : HandleId} (uses : operation.handle? = some id)
      (unknown : (system.handles thread).get? id = none) :
      Begins system now thread operation (system.finish thread .unsuitable [])
  | borrowed {operation : Operation} {id : HandleId} {handle : Handle} (uses : operation.handle? = some id)
      (found : (system.handles thread).get? id = some handle)
      (lent : (system.handles thread).isBorrowed id = true) :
      Begins system now thread operation (system.finish thread .borrowed [])
  | upgradeExclusive {id : HandleId} {place : LockId} {held : Bool} {parent : Option HandleId}
      (found : (system.handles thread).get? id = some (.exclusive place held parent))
      (free : (system.handles thread).isBorrowed id = false) :
      Begins system now thread (.upgrade id) (system.finish thread .unsuitable [])
  | refuseUpgrade {id : HandleId} {place : LockId} {state : HandleState} {upgraded : Bool}
      {error : LockError} (found : (system.handles thread).get? id = some (.shared place state upgraded))
      (fault : Handle.upgradeError? state upgraded = some error)
      (free : (system.handles thread).isBorrowed id = false) :
      Begins system now thread (.upgrade id) (system.finish thread (.refused error) [])
  | upgrade {id : HandleId} {place : LockId}
      (found : (system.handles thread).get? id = some (.shared place .active false))
      (free : (system.handles thread).isBorrowed id = false) :
      Begins system now thread (.upgrade id)
        (((system.modifyHandles thread (·.modify id (·.withState .suspended))).setLock place
            ((system.locks.get place).releaseShared thread)).carryOn thread
          (.asking { purpose := .upgrade id, lock := place, request := .exclusive, since := now }) [])
  /-- A handle without a hold is given back. -/
  | discard {id : HandleId} {handle : Handle} (drop : Bool)
      (found : (system.handles thread).get? id = some handle) (inactive : handle.isActive = false)
      (free : (system.handles thread).isBorrowed id = false) :
      Begins system now thread (giving id drop) ((system.forget thread id drop).finish thread .done [])
  | releaseShared {id : HandleId} {place : LockId} {upgraded : Bool} (drop : Bool)
      (found : (system.handles thread).get? id = some (.shared place .active upgraded))
      (free : (system.handles thread).isBorrowed id = false) :
      Begins system now thread (giving id drop)
        ((((system.modifyHandles thread (·.modify id Handle.afterRelease)).setLock place
            ((system.locks.get place).releaseShared thread)).forget thread id drop).finish thread .done
          [.event .trace "shared hold released" [system.nameField place]])
  | releaseExclusive {id : HandleId} {place : LockId} (drop : Bool)
      (found : (system.handles thread).get? id = some (.exclusive place true none))
      (free : (system.handles thread).isBorrowed id = false) :
      Begins system now thread (giving id drop)
        ((((system.modifyHandles thread (·.modify id Handle.afterRelease)).setLock place
            ((system.locks.get place).releaseExclusive thread)).forget thread id drop).finish thread .done
          [system.releasedEntry place false])
  | releaseChild {id parent : HandleId} {place : LockId} (drop : Bool)
      (found : (system.handles thread).get? id = some (.exclusive place true (some parent)))
      (free : (system.handles thread).isBorrowed id = false) :
      Begins system now thread (giving id drop)
        (((system.modifyHandles thread (·.modify id Handle.afterRelease)).setLock place
            ((system.locks.get place).releaseExclusive thread)).carryOn thread
          (.asking
            { purpose := .restore id parent drop, lock := place, request := .shared, since := now })
          [])
  | waitShared {id : HandleId} {place : LockId} {state : HandleState} {upgraded : Bool} (name : String)
      (timeout : Option Duration)
      (found : (system.handles thread).get? id = some (.shared place state upgraded))
      (free : (system.handles thread).isBorrowed id = false) :
      Begins system now thread (.wait id name timeout) (system.finish thread .unsuitable [])
  | waitReleased {id : HandleId} {place : LockId} {parent : Option HandleId} (name : String)
      (timeout : Option Duration)
      (found : (system.handles thread).get? id = some (.exclusive place false parent))
      (free : (system.handles thread).isBorrowed id = false) :
      Begins system now thread (.wait id name timeout)
        (system.finish thread (.refused (.illegalUpgradeState "exclusive handle already released")) [])
  /-- The clock cannot tell the deadline of a wait. -/
  | overflowWait {id : HandleId} {place : LockId} {parent : Option HandleId} (name : String)
      {timeout : Option Duration}
      (found : (system.handles thread).get? id = some (.exclusive place true parent))
      (free : (system.handles thread).isBorrowed id = false)
      (endless : timeout.all (·.fits now) = false) :
      Begins system now thread (.wait id name timeout)
        (system.finish thread (.panicked Duration.overflowText) [])
  | refuseWait {id : HandleId} {place : LockId} {parent : Option HandleId} {error : LockError}
      (name : String) {timeout : Option Duration}
      (found : (system.handles thread).get? id = some (.exclusive place true parent))
      (free : (system.handles thread).isBorrowed id = false) (fits : timeout.all (·.fits now) = true)
      (refused : (system.locks.get place).suspend thread = .error error) :
      Begins system now thread (.wait id name timeout) (system.finish thread (.refused error) [])
  | wait {id : HandleId} {place : LockId} {parent : Option HandleId} {lock : Lock} {holds : Nat}
      (name : String) {timeout : Option Duration}
      (found : (system.handles thread).get? id = some (.exclusive place true parent))
      (free : (system.handles thread).isBorrowed id = false) (fits : timeout.all (·.fits now) = true)
      (suspended : (system.locks.get place).suspend thread = .ok (lock, holds)) :
      Begins system now thread (.wait id name timeout)
        (((system.setLock place lock).setCondition name
            ((system.conditions.get name).park thread (system.conditions.get name).generation
              (timeout.map (·.after now)))).carryOn thread
          (.waiting place name holds) [])

/-- The moves of a schedule. -/
inductive Advance (system : LockSystem) (now : Instant) : Move → Stepped → Prop where
  | begin {thread : ThreadId} (operation : Operation) (idle : system.activity thread = .idle) :
      Advance system now (.begin thread operation) (system.begin now thread operation)
  | ask {thread : ThreadId} {pursuit : Pursuit} (asking : system.activity thread = .asking pursuit) :
      Advance system now (.proceed thread)
        (system.settle thread pursuit now
          ((system.locks.get pursuit.lock).ask thread pursuit.request pursuit.deadline))
  | notify {thread : ThreadId} {name : String} {all : Bool}
      (notifying : system.activity thread = .notifying name all) :
      Advance system now (.proceed thread)
        ((system.setCondition name ((system.conditions.get name).notify all)).finish thread .done [])
  | wake {thread : ThreadId} {pursuit : Pursuit} {waiter : Waiter}
      (parked : system.activity thread = .parked pursuit)
      (found : (system.locks.get pursuit.lock).waiter? thread = some waiter) :
      Advance system now (.wake thread)
        (system.settle thread pursuit now ((system.locks.get pursuit.lock).wake waiter))
  | expire {thread : ThreadId} {pursuit : Pursuit} {waiter : Waiter}
      (parked : system.activity thread = .parked pursuit)
      (found : (system.locks.get pursuit.lock).waiter? thread = some waiter)
      (passed : isOver waiter.deadline now = true) :
      Advance system now (.expire thread)
        (system.settle thread pursuit now ((system.locks.get pursuit.lock).expire waiter))
  /-- A thread wakes up at a condition, sees no signal and parks there again. -/
  | stay {thread : ThreadId} {place : LockId} {name : String} {holds : Nat} {sleeper : Sleeper}
      (waiting : system.activity thread = .waiting place name holds)
      (found : (system.conditions.get name).sleeper? thread = some sleeper)
      (unseen : (system.conditions.get name).signalledSince sleeper = false) :
      Advance system now (.wake thread)
        { state :=
            system.setCondition name
              (((system.conditions.get name).unpark thread).park thread sleeper.observed
                sleeper.deadline) }
  | leave {thread : ThreadId} {place : LockId} {name : String} {holds : Nat} {sleeper : Sleeper}
      (waiting : system.activity thread = .waiting place name holds)
      (found : (system.conditions.get name).sleeper? thread = some sleeper)
      (seen : (system.conditions.get name).signalledSince sleeper = true) :
      Advance system now (.wake thread) (system.leave now thread place name holds true)
  | leaveLate {thread : ThreadId} {place : LockId} {name : String} {holds : Nat} {sleeper : Sleeper}
      (waiting : system.activity thread = .waiting place name holds)
      (found : (system.conditions.get name).sleeper? thread = some sleeper)
      (passed : isOver sleeper.deadline now = true) :
      Advance system now (.expire thread)
        (system.leave now thread place name holds ((system.conditions.get name).signalledSince sleeper))

variable {system : LockSystem} {now : Instant} {thread : ThreadId} {id : HandleId} {handle : Handle}
  {operation : Operation}

section Beginning

theorem begins_of_release (drop : Bool) (found : (system.handles thread).get? id = some handle)
    (free : (system.handles thread).isBorrowed id = false) :
    Begins system now thread (giving id drop) (system.release now thread id handle drop) := by
  cases handle with
  | shared place state upgraded =>
      cases state with
      | active => exact .releaseShared drop found free
      | suspended | released => exact .discard drop found rfl free
  | exclusive place held parent? =>
      cases held with
      | false => exact .discard drop found rfl free
      | true =>
          cases parent? with
          | none => exact .releaseExclusive drop found free
          | some parent => exact .releaseChild drop found free

theorem begins_of_upgrade (found : (system.handles thread).get? id = some handle)
    (free : (system.handles thread).isBorrowed id = false) :
    Begins system now thread (.upgrade id) (system.upgrade now thread id handle) := by
  cases handle with
  | exclusive place held parent? => exact .upgradeExclusive found free
  | shared place state upgraded =>
      cases fault : Handle.upgradeError? state upgraded with
      | some error =>
          simp only [upgrade, fault]
          exact .refuseUpgrade found fault free
      | none =>
          have able : state = .active ∧ upgraded = false := by
            cases state <;> cases upgraded <;> simp [Handle.upgradeError?] at fault ⊢
          rcases able with ⟨rfl, rfl⟩
          simp only [upgrade, fault]
          exact .upgrade found free

theorem begins_of_wait (name : String) (timeout : Option Duration)
    (found : (system.handles thread).get? id = some handle)
    (free : (system.handles thread).isBorrowed id = false) :
    Begins system now thread (.wait id name timeout) (system.wait now thread name timeout handle) := by
  cases handle with
  | shared place state upgraded => exact .waitShared name timeout found free
  | exclusive place held parent? =>
      cases held with
      | false => exact .waitReleased name timeout found free
      | true =>
          cases fits : timeout.all (·.fits now) with
          | false =>
              simp only [wait, inTime, fits, Bool.false_eq_true, if_false]
              exact .overflowWait name found free fits
          | true =>
              cases suspended : (system.locks.get place).suspend thread with
              | error error =>
                  simp only [wait, inTime, fits, if_true, suspended]
                  exact .refuseWait name found free fits suspended
              | ok given =>
                  simp only [wait, inTime, fits, if_true, suspended]
                  exact .wait name found free fits suspended

/-- A request with a timeout needs a deadline. -/
theorem begins_of_inTime {lock : LockId} {timeout : Option Duration} {stepped : Stepped}
    (asks : operation = .shared lock timeout ∨ operation = .exclusive lock timeout)
    (begins : timeout.all (·.fits now) = true → Begins system now thread operation stepped) :
    Begins system now thread operation (system.inTime now thread timeout stepped) := by
  unfold inTime
  split
  · rename_i fits
    exact begins fits
  · rename_i endless
    exact .overflow asks (by simpa using endless)

/-- A handle has to be there and not to be borrowed. -/
theorem begins_of_withHandle {use : Handle → Stepped} (uses : operation.handle? = some id)
    (used : ∀ handle, (system.handles thread).get? id = some handle →
      (system.handles thread).isBorrowed id = false → Begins system now thread operation (use handle)) :
    Begins system now thread operation (system.withHandle thread id use) := by
  simp only [withHandle]
  cases found : (system.handles thread).get? id with
  | none => exact .absent uses found
  | some handle =>
      cases borrowed : (system.handles thread).isBorrowed id with
      | true => exact .borrowed uses found borrowed
      | false => exact used handle found borrowed

/-- Every operation begins in one of the ways that are listed. -/
theorem begins_begin (system : LockSystem) (now : Instant) (thread : ThreadId) (operation : Operation) :
    Begins system now thread operation (system.begin now thread operation) := by
  cases operation with
  | shared lock timeout => exact begins_of_inTime (Or.inl rfl) fun fits => .shared lock fits
  | exclusive lock timeout => exact begins_of_inTime (Or.inr rfl) fun fits => .exclusive lock fits
  | upgrade id => exact begins_of_withHandle rfl fun _ found free => begins_of_upgrade found free
  | release id => exact begins_of_withHandle rfl fun _ found free => begins_of_release false found free
  | drop id => exact begins_of_withHandle rfl fun _ found free => begins_of_release true found free
  | wait id name timeout =>
      exact begins_of_withHandle rfl fun _ found free => begins_of_wait name timeout found free
  | signal name all => exact .signal name all

theorem withHandle_of_get? (use : Handle → Stepped) (found : (system.handles thread).get? id = some handle)
    (free : (system.handles thread).isBorrowed id = false) :
    system.withHandle thread id use = use handle := by
  simp [withHandle, found, free]

theorem begin_giving (now : Instant) (drop : Bool) :
    system.begin now thread (giving id drop)
      = system.withHandle thread id (system.release now thread id · drop) := by
  cases drop <;> rfl

theorem Begins.eq_begin {stepped : Stepped} (begins : Begins system now thread operation stepped) :
    stepped = system.begin now thread operation := by
  cases begins with
  | shared lock fits | exclusive lock fits => exact (if_pos fits).symm
  | overflow asks endless => rcases asks with rfl | rfl <;> simp [LockSystem.begin, inTime, endless]
  | signal => rfl
  | absent uses unknown =>
      cases operation <;> cases uses <;> simp [LockSystem.begin, withHandle, unknown]
  | borrowed uses found lent =>
      cases operation <;> cases uses <;> simp [LockSystem.begin, withHandle, found, lent]
  | upgradeExclusive found free | upgrade found free | waitShared _ _ found free
  | waitReleased _ _ found free =>
      rw [LockSystem.begin, withHandle_of_get? _ found free]
      rfl
  | refuseUpgrade found fault free =>
      rw [LockSystem.begin, withHandle_of_get? _ found free]
      simp only [LockSystem.upgrade, fault]
  | overflowWait name found free endless =>
      rw [LockSystem.begin, withHandle_of_get? _ found free]
      simp [LockSystem.wait, inTime, endless]
  | refuseWait name found free fits suspended | wait name found free fits suspended =>
      rw [LockSystem.begin, withHandle_of_get? _ found free]
      simp only [LockSystem.wait, inTime, fits, if_true, suspended]
  | @discard id handle drop found inactive free =>
      rw [begin_giving, withHandle_of_get? _ found free]
      cases handle with
      | shared place state upgraded => cases state <;> first | rfl | cases inactive
      | exclusive place held parent => cases held <;> first | rfl | cases inactive
  | releaseShared drop found free | releaseExclusive drop found free | releaseChild drop found free =>
      rw [begin_giving, withHandle_of_get? _ found free]
      rfl

/-- An operation begins in one way only. -/
theorem Begins.unique {first second : Stepped} (begins : Begins system now thread operation first)
    (also : Begins system now thread operation second) : first = second :=
  begins.eq_begin.trans also.eq_begin.symm

end Beginning

section Moving

variable {move : Move} {stepped : Stepped}

/-- Only an idle thread begins an operation. -/
theorem perform_begin_iff :
    system.perform now (.begin thread operation) = some stepped ↔
      system.activity thread = .idle ∧ stepped = system.begin now thread operation := by
  simp [perform, eq_comm]

theorem idle_of_begin (performed : system.perform now (.begin thread operation) = some stepped) :
    system.activity thread = .idle :=
  (perform_begin_iff.mp performed).1

theorem begins_of_perform (performed : system.perform now (.begin thread operation) = some stepped) :
    Begins system now thread operation stepped := by
  rcases perform_begin_iff.mp performed with ⟨_, rfl⟩
  exact begins_begin system now thread operation

theorem advance_of_proceed (performed : system.proceed now thread = some stepped) :
    Advance system now (.proceed thread) stepped := by
  cases doing : (system.threads.get thread).activity with
  | asking pursuit =>
      simp only [proceed, doing, Option.some.injEq] at performed
      exact performed ▸ .ask doing
  | notifying name all =>
      simp only [proceed, doing, Option.some.injEq] at performed
      exact performed ▸ .notify doing
  | _ => simp [proceed, doing] at performed

theorem advance_of_wake (performed : system.wake now thread = some stepped) :
    Advance system now (.wake thread) stepped := by
  cases doing : (system.threads.get thread).activity with
  | parked pursuit =>
      simp only [wake, doing, Option.map_eq_some_iff] at performed
      rcases performed with ⟨waiter, found, rfl⟩
      exact .wake doing found
  | waiting place name holds =>
      simp only [wake, doing, Option.map_eq_some_iff] at performed
      rcases performed with ⟨sleeper, found, rfl⟩
      cases seen : (system.conditions.get name).signalledSince sleeper with
      | true =>
          simp only [if_true]
          exact .leave doing found seen
      | false =>
          simp only [Bool.false_eq_true, if_false]
          exact .stay doing found seen
  | _ => simp [wake, doing] at performed

theorem advance_of_expire (performed : system.expire now thread = some stepped) :
    Advance system now (.expire thread) stepped := by
  cases doing : (system.threads.get thread).activity with
  | parked pursuit =>
      simp only [expire, doing] at performed
      split at performed
      · rename_i waiter found
        simp only [Option.ite_none_right_eq_some, Option.some.injEq] at performed
        exact performed.2 ▸ .expire doing found performed.1
      · cases performed
  | waiting place name holds =>
      simp only [expire, doing] at performed
      split at performed
      · rename_i sleeper found
        simp only [Option.ite_none_right_eq_some, Option.some.injEq] at performed
        exact performed.2 ▸ .leaveLate doing found performed.1
      · cases performed
  | _ => simp [expire, doing] at performed

theorem advance_of_perform (performed : system.perform now move = some stepped) :
    Advance system now move stepped := by
  cases move with
  | begin thread operation =>
      rcases perform_begin_iff.mp performed with ⟨idle, rfl⟩
      exact .begin operation idle
  | proceed thread => exact advance_of_proceed performed
  | wake thread => exact advance_of_wake performed
  | expire thread => exact advance_of_expire performed

theorem Advance.performs (advance : Advance system now move stepped) :
    system.perform now move = some stepped := by
  have doing (thread : ThreadId) :
      (system.threads.get thread).activity = system.activity thread := rfl
  cases advance with
  | begin operation idle => exact perform_begin_iff.mpr ⟨idle, rfl⟩
  | ask asking => simp [perform, proceed, doing, asking]
  | notify notifying => simp [perform, proceed, doing, notifying]
  | wake parked found => simp [perform, LockSystem.wake, doing, parked, found]
  | expire parked found passed => simp [perform, LockSystem.expire, doing, parked, found, passed]
  | stay waiting found unseen => simp [perform, LockSystem.wake, doing, waiting, found, unseen]
  | leave waiting found seen => simp [perform, LockSystem.wake, doing, waiting, found, seen]
  | leaveLate waiting found passed =>
      simp [perform, LockSystem.expire, doing, waiting, found, passed]

/-- The moves that threads can make are those that are listed. -/
theorem perform_eq_some_iff : system.perform now move = some stepped ↔ Advance system now move stepped :=
  ⟨advance_of_perform, Advance.performs⟩

end Moving

end LockSystem

end Coordination
