import Coordination.Proofs.Lock.Accounts

/-!
# Handles that are left alone

A thread keeps a handle that has its hold as long as it begins no operation with it: what it does with
its other handles does not tell on this one, neither when an operation begins (`Begins.get?_of_apart`)
nor when it goes on (`Transition.get?_active`). And as long as the thread does not wait for a condition
of the lock, it has not given its exclusive holds up for a while (`Transition.owed`). So the hold stays
with the thread, whatever the other threads do.
-/

namespace Coordination

theorem Handles.get?_add_of_some {handles : Handles} {id key : HandleId} {handle new : Handle}
    (absent : handles.get? id = none) (found : handles.get? key = some handle) :
    (handles.add id new).get? key = some handle := by
  rw [get?_add absent, if_neg (ne_of_absent absent found).symm, found]

namespace LockSystem

/-- An operation waits for a condition of a lock. -/
def WaitsOn (system : LockSystem) (thread : ThreadId) (lock : LockId) (operation : Operation) : Prop :=
  ∃ id name timeout handle, operation = .wait id name timeout ∧
    (system.handles thread).get? id = some handle ∧ handle.lock = lock

variable {system : LockSystem} {thread : ThreadId} {now : Instant} {key : HandleId} {handle : Handle}

section Beginning

variable {operation : Operation} {stepped : Stepped}

theorem handles_finish (reply : Reply) (log : List Log.Entry) :
    (system.finish thread reply log).state.handles thread = system.handles thread := by
  simp [finish, handles]

theorem handles_carryOn (activity : Activity) (log : List Log.Entry) :
    (system.carryOn thread activity log).state.handles thread = system.handles thread := by
  simp [carryOn, handles]

theorem activity_finish (reply : Reply) (log : List Log.Entry) :
    (system.finish thread reply log).state.activity thread = .idle := by
  simp [finish, activity]

theorem activity_carryOn (next : Activity) (log : List Log.Entry) :
    (system.carryOn thread next log).state.activity thread = next := by
  simp [carryOn, activity]

/-- An operation that a thread begins leaves its other handles as they are. -/
theorem Begins.get?_of_apart (begins : Begins system now thread operation stepped)
    (apart : operation.handle? ≠ some key) :
    (stepped.state.handles thread).get? key = (system.handles thread).get? key := by
  have other {id : HandleId} (uses : operation.handle? = some id) : id ≠ key := by
    rintro rfl
    exact apart uses
  cases begins with
  | shared | exclusive => rw [handles_carryOn]
  | signal | wait => simp [carryOn, handles]
  | overflow | absent | borrowed | upgradeExclusive | refuseUpgrade | waitShared | waitReleased
  | overflowWait | refuseWait =>
      rw [handles_finish]
  | upgrade => simp [carryOn, handles, Handles.get?_modify, other rfl]
  | releaseChild drop =>
      simp [carryOn, handles, Handles.get?_modify, other (handle?_giving _ drop)]
  | discard drop =>
      cases drop <;> simp [forget, finish, handles, Handles.get?_erase, other (handle?_giving _ _)]
  | releaseShared drop | releaseExclusive drop =>
      cases drop <;>
        simp [forget, finish, handles, Handles.get?_modify, Handles.get?_erase,
          other (handle?_giving _ _)]

/-- Who does not wait for a condition of a lock does not give its holds up for a while. -/
theorem Begins.owed_eq_zero {lock : LockId} (begins : Begins system now thread operation stepped)
    (apart : ¬WaitsOn system thread lock operation) :
    (stepped.state.activity thread).owed lock = 0 := by
  cases begins with
  | shared | exclusive | signal | upgrade | releaseChild =>
      rw [activity_carryOn]
      rfl
  | overflow | absent | borrowed | upgradeExclusive | refuseUpgrade | waitShared | waitReleased
  | overflowWait | refuseWait | discard | releaseShared | releaseExclusive =>
      rw [activity_finish]
      rfl
  | wait name found =>
      rw [activity_carryOn]
      refine if_neg ?_
      rintro rfl
      exact apart ⟨_, name, _, _, rfl, found, rfl⟩

end Beginning

section GoingOn

variable {change : Change}

/-- A thread that goes on with an operation leaves its handles that have their holds as they are. -/
theorem Transition.get?_active (transition : Transition system thread change)
    (accounts : system.Accounts) (busy : system.activity thread ≠ .idle)
    (found : (system.handles thread).get? key = some handle) (active : handle.isActive = true) :
    change.thread.handles.get? key = some handle := by
  have suits {pursuit : Pursuit} {result : Lock × Lock.Outcome}
      (attempt : Attempt system thread pursuit result) : pursuit.Suits (system.handles thread) :=
    (accounts thread).suits pursuit attempt.activity
  have absent : (system.handles thread).get? system.nextHandle = none :=
    (accounts thread).books.numbered system.nextHandle (Nat.le_refl _)
  have apart {id : HandleId} {other : Handle} (there : (system.handles thread).get? id = some other)
      (inactive : other.isActive = false) : id ≠ key := by
    rintro rfl
    cases there.symm.trans found
    cases active.symm.trans inactive
  cases transition with
  | turn | stay | leave | park | timeOut | refuse | refuseUpgrade | resume => exact found
  | discard idle | releaseShared _ idle | releaseExclusive _ idle | releaseChild _ _ idle
  | upgrade _ idle | wait _ idle => exact absurd idle busy
  | acquire attempt granted purpose =>
      exact Handles.get?_add_of_some absent found
  | makeChild attempt granted purpose =>
      have mine := suits attempt
      simp only [Pursuit.Suits, purpose] at mine
      refine Handles.get?_add_of_some ?_ ?_
      · rw [Handles.get?_modify, if_neg (Handles.ne_of_absent absent mine.2.2)]
        exact absent
      · rw [Handles.get?_modify, if_neg (apart mine.2.2 rfl)]
        exact found
  | recover attempt granted purpose =>
      have mine := suits attempt
      simp only [Pursuit.Suits, purpose] at mine
      refine Handles.get?_modify.trans ?_
      rw [if_neg (apart mine.2.2 rfl), found]
  | @restore pursuit lock outcome child parent drop attempt granted purpose =>
      have mine := suits attempt
      simp only [Pursuit.Suits, purpose] at mine
      cases drop <;>
        simp [Handles.get?_modify, Handles.get?_erase, apart mine.2.2.1 rfl, apart mine.2.2.2 rfl, found]

/-- A thread that goes on does not give any holds up. -/
theorem Transition.owed (transition : Transition system thread change)
    (busy : system.activity thread ≠ .idle) {lock : LockId}
    (free : (system.activity thread).owed lock = 0) : change.thread.activity.owed lock = 0 := by
  cases transition with
  | turn after reply before plain => simp [Activity.owed, plain.owes_eq_none]
  | stay => exact free
  | discard idle | releaseShared _ idle | releaseExclusive _ idle | releaseChild _ _ idle
  | upgrade _ idle | wait _ idle => exact absurd idle busy
  | leave signalled since waiting =>
      rw [waiting] at free
      exact free
  | park attempt => rw [attempt.activity.owed_parked, free]
  | timeOut | refuse | refuseUpgrade | acquire | makeChild | recover | restore | resume => rfl

end GoingOn

end LockSystem

end Coordination
